import Accounts.Unicode.BidiClass
/-!
# The direction of labels

A name with a label that runs from right to left must have no label that could be
read in two ways.  Such a label starts with a letter of its direction, holds only
classes that fit it, ends with a letter or a number, and does not mix the two
kinds of numbers.
-/

namespace Accounts.Domain

open Unicode (BidiClass bidiClass)

/-- A visible ASCII character. -/
def isGraphic (c : Char) : Bool := 0x21 ≤ c.toNat && c.toNat ≤ 0x7E

/-- A class that makes a label run from right to left. -/
def isRightward (k : BidiClass) : Bool :=
  k == .rightToLeft || k == .arabicLetter || k == .arabicNumber

/-- A label has a character that runs from right to left. -/
def hasRightToLeft (label : List Char) : Bool :=
  label.any fun c => !isGraphic c && isRightward (bidiClass c)

/-- A class that may stand in a label of either direction. -/
def isNeutral (k : BidiClass) : Bool :=
  k == .europeanNumber || k == .europeanSeparator || k == .commonSeparator ||
    k == .europeanTerminator || k == .otherNeutral || k == .boundaryNeutral ||
    k == .nonspacingMark

/-- The last class that is not that of a mark. -/
def lastClass? (ks : List BidiClass) : Option BidiClass :=
  ks.reverse.find? (· ≠ .nonspacingMark)

/-- A label can be read in one way only. -/
def readsOneWay (label : List Char) : Bool :=
  match label.map bidiClass with
  | [] => true
  | .leftToRight :: ks =>
    ks.all (fun k => k == .leftToRight || isNeutral k) &&
      match lastClass? (.leftToRight :: ks) with
      | some k => k == .leftToRight || k == .europeanNumber
      | none => true
  | k :: ks =>
    (k == .rightToLeft || k == .arabicLetter) &&
      ks.all (fun k => isRightward k || isNeutral k) &&
      (match lastClass? (k :: ks) with
      | some k => isRightward k || k == .europeanNumber
      | none => false) &&
      !(ks.contains .europeanNumber && ks.contains .arabicNumber)

end Accounts.Domain
