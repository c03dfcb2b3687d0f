import Accounts.Unicode.Runs
/-!
# Directional classes

The directional class of a character, as of Unicode 15, says how it takes part in
text that runs from right to left.  Only the classes that a label of a domain
name can hold are told apart.
-/

namespace Accounts.Unicode

/-- A directional class. -/
inductive BidiClass
  /-- Left to right. -/
  | leftToRight
  /-- Right to left. -/
  | rightToLeft
  /-- An Arabic letter. -/
  | arabicLetter
  /-- An Arabic number. -/
  | arabicNumber
  /-- A European number. -/
  | europeanNumber
  /-- A separator of European numbers. -/
  | europeanSeparator
  /-- A common separator of numbers. -/
  | commonSeparator
  /-- A terminator of European numbers. -/
  | europeanTerminator
  /-- A neutral character. -/
  | otherNeutral
  /-- A character without effect on the direction. -/
  | boundaryNeutral
  /-- A mark that takes no space. -/
  | nonspacingMark
  /-- Any other class. -/
  | other
deriving DecidableEq, Repr

/-- The class of a number in the table. -/
def BidiClass.ofCode : Nat → BidiClass
  | 0 => .leftToRight
  | 1 => .rightToLeft
  | 2 => .arabicLetter
  | 3 => .arabicNumber
  | 4 => .europeanNumber
  | 5 => .europeanSeparator
  | 6 => .commonSeparator
  | 7 => .europeanTerminator
  | 8 => .otherNeutral
  | 9 => .boundaryNeutral
  | 10 => .nonspacingMark
  | _ => .other

/-- The runs of the property `Bidi_Class`. -/
def bidiRuns : Runs := Runs.unpack
  ["9j5lEj5l2i3h5i1f1g1f2gAe1g6iQa6iQa4i6j1lQj1g1i4h4i1a2i1j2i2h2e1i1a3i1e1a5iNa1iVa1iE1a2i7aEi2",
   "aEi5a9i1aHi3Gk4a2i8a1i5a2i1a1i3Ea1i4Ca7k80a1i2a2i1h1b1Dk1b1k1b2k1b2k1b1k1Ob6d2i1c2h1c1g1c2iB",
   "k1GcLkAd1h2d3c1k35c7k1d1i6k2c2k1i4k2cAeNc1kUcRk2RcBkFc1Bb9k2b4i3b1kOb4k1b9k1b3k1b5k1Bb3k4b1G",
   "c2d6c8k1AcOk1d10k1Na1k1a1k4a8k4a1k3a7kAa2kTa1k1Qa1k4a4k8a1kKa2kEa2h7a1h2a1k2a2k1Pa1k4a2k4a2k",
   "2a3k3a1kUa2k3a1kBa2k1Pa1k4a5k1a2k4a1kKa2kDa1h8a6k1a1k1Qa1k2a1k1a4k8a1k7a2kBa2kUa1k1Ta1kCa1k1",
   "5a6i1h1i5a1k3a1k1Na1k1a3k5a3k1a4k7a2kBa2kKa7i2a1k1Qa1kFa2kKa2kSa2k1Pa2k4a4k8a1kKa2kTa1k28a1k",
   "7a3k1a1k2Qa1k2a7k4a1h7a8k32a1k2a9kBa7k29a2kRa1k1a1k1a1k4i1JaEk1a5k1a2k5aBk1a14k9a1k36a4k1a6k",
   "1a2k2a2kPa2k4a3kGa4kDa1k2a2k6a1kFa1kLVa3k1GaAi36a1iJVa1lQa2i3La3kTa2kUa2kUa2k20a2k1a7k8a1k2a",
   "Bk7a1h1a1kIaAi6aBi3k1j1k3La2k12a1k3Ma3k4a2k9a1k6a3k4a1i3a2i4Oa12iNa2k2a1k1Qa1k1a7k1a1k1a1k2a",
   "8k6aAk2a1k1GaVk1Ha4k1Ga1k1a5k1a1k5a1k18a9kCa2k10a4k2a2k1a3k1Oa1k1a2k3a1k1a3k1Qa8k2a2k4Oa3k1a",
   "Dk1a7k4a1k6a1k3a2k66a20kDTa1i1a3iBa3iDa3iDa3iDa2i1aBl3j1a1bOi7l1g5hFi1gQi1l6j4l6j1e3a6e2f3i1",
   "aAe2f3iHa1Gh11kFa2i1a4i1a2iAa1i1a3i5a6i1a1i1a1i1a1i4a1hBa2i4a5i5a4i2aGi19a3i4a42i1f1h92i25aQ",
   "i1a4HiPaBiLa18iKe2EaE2i1aAJi80aJKi2a10i1a39i75a6i4a3k7a7i3Va1k30a10k2Ui12aQi1a2PiCa6MiQaCi4a",
   "1l4i3aPi9a4k2a1i5a2i5a3i2Pa2k2i3a1i2Qa1i64a14i1Pa2i1HaGiSa3i1IaFiCa4i57a4i33a2iVa1i6E0a20iLK",
   "Ga1NiA6a3i2Va4k1iAk2iUa2k2Ga2kEa12i36a1i3Pa1k3a1k4a1kPa2k1a4i1kBa2h1Qa4i2Ca2kQaIkDa1k16a8kPa",
   "Bk1Ea3k1Ga1k2a4k2a2k17a1k23a6k2a2k2a2kCa1k8a1k1Fa1k1Ja1k1a3k2a2k5a2k1a1k1Aa2k8a1k3Ja2i3Pa1k2",
   "a1k4a1kJPFa1b1kAb1f16bFEcIi3Vc1i10jDc3iGkAi6aGk10i1g1i1g1a1i1g9i1h2i2f3i1a1i2h1i4a4Fc1j1a2i3",
   "h5i1f1g1f2gAe1g6iQa6iQaBi3Qa2h3i2h1a7i1a9j5i2j81a1i1Ua2Di3aDi3a1i2Sa1k72a1kRe3Qa5k145a8Vb1i7",
   "1b3k1b2k5b4k18b3k4b1k55b2k2Ib7iE0b14c4k8cAd6c90bVd1Cb2kJb1Tc3k1GbMcBkVcIb4k3Qb1a1k1MaFkBaKiA",
   "a1k2a2kAa3k1Ha4k2a2k7a1k1Ta3k14a5k1a8k1Ua1kCa2k1Ka9kAa4k2a1k2Va3k2a1k1a2k6a1k2a1k4Ta1k3a8kLa",
   "2k1Pa2k3a1k15a7k3a5k63a8k2a3k1a1kNa1k2Ka6k1a1k4a2k1a2k7Ea4k6a2k1a2kRa2k2La8k2a1k1a2kVaDi1Ua1",
   "k1a1k2a6k1a1k35a3k2a4k1a5k83a9k1a2k80a2k1a1k4a1k4Ga4k2a2k4a1k10a6k2a2k18a6k2a4k8a1k9a6k2a3k1",
   "EaDk1a2kCMa7k1a6k2KaMk2a7k1a2k1a2k3Qa6k3a1k1a2k1a7k1a1k28a2k3a1k1a1kARa2kBa2k1Ka5k5a1k1a1k4I",
   "a8i4hHi52Ea1k6aFkDKQa5k1Ra7k10Oa1k1Va4k2Fa1i1a1kJ5Oa2k1a4j4ISa1Ek2aNkH0a3k9a8j8k2a7kUa4k1Ra2",
   "iLa22i3k1i5Qa2NiS4a1i1Pa1i1Pa1i1Pa1i1Pa1iAa1IeG0a1Nk4a1Ik8a1kEa1kMa5k1aFk1AGa7k1aHk2a7k1a2k1",
   "a5k34a1k50a7kBNa1k1Ta4kFa1hFCa4kOGa6Gb7k3Db7kP5b2Gc20b2Gc5Gb7Gc2iEc80b1Ci4a34iCaFi2aFi1aFi1a",
   "15iAaBe5iVa1i1Qa6i1Ta1i5Ia6i4QaUOi4aHi3aDi3a3Ni4a2Vi6aCi4a1iFaCi4a1Oi8aAi6a18i8aUi2a2i2EaAKi",
   "CaEi2aDi3a9i7a1Ei1a7i8aEi4a9i7a9i7a4Ji1a1Ni15aAe104a2j1VVUa2j1VVUa2j1VVUa2j1VVUa2j1VVUa2j1VV",
   "Ua2j1VVUa2j1VVUa2j1VVUa2j1VVUa2j1VVUa2j1VVUa82j7Gk3GGj1RVUa2j1VVUa2j1VVUa2j0a"]

/-- The directional class of a character. -/
def bidiClass (c : Char) : BidiClass := .ofCode (bidiRuns.value c.toNat)

end Accounts.Unicode
