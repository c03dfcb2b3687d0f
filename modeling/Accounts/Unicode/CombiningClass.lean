import Accounts.Unicode.Runs
/-!
# Canonical combining classes

The table lists the runs of characters that share a canonical combining class,
as of Unicode 15.  Class 0 is the class of all characters that start a group;
the others say in which order marks follow.
-/

namespace Accounts.Unicode

/-- The runs of the property `Canonical_Combining_Class`. -/
def combiningRuns : Runs := Runs.unpack
  ["O0aLiw1iy4im1iy1ii5im2hu4im2huBim5b4im8iw1jg1iw3im3iw2im1a3iw4im1iw1iy2im1iw1iz2ja1iz2ja1izD",
   "iw8Ja5iw89a1im4iw1im3iw1io1im6iw6im2iw1im2iw1io1iu1iw1k1l1m1n1o1p1q1r1s2t1u1v1w1a1x1a1y1z1a1",
   "iw1im1a1s28a8iw1be1bf1bg1Ga1bb1bc1bd1be1bf1bg1bh1bi2iw2im5iw1im2iw1imGa1bj35a7iw2a4iw1im1iw2",
   "a2iw1a1im2iw1im13a1bkUa1iw1im2iw1im2iw3im1iw2im1iw1im3iw1im1iw1im1iw1im1iw1im2iw50a7iw1im1iw",
   "9a1imOa4iw1a9iw1a3iw1a5iw1Ba3im1Sa1iw3im4iw1Aa5iw5imEiw1a1im2iw1im2iw1im3iw3im1bb1bc1bd3iw1i",
   "m2iw2im5iw1Sa1hGa1j3a1iw1im2iw37a1hGa1j1Ga1iw1Ta1hGa1j3Ea1hGa1j3Ea1hGa1j3Va1j3Ea1hGa1j7a1dg1",
   "dn35a1hGa1j3Da2jGa1j3Sa1j3Da2dz1jDa4ed3Ca2eo1jDa4es2Ca2imRa1im1a1im1a1ii1Na1ez1fa1a1fc5a4fa2",
   "a1fa1a2iw1j1a2iw1Ua1im3Ga1h1a2j2Ia1imMFa3iwTKa2jUa1j4Ta1jAa1iw6Ba1iu4Fa1io1iw1im6Ra1iw1im27a",
   "1jKa8iw2a1im1Ga5iw6im2iw1im1a2im2iw2im5iw1im4iw35a1hFa1j16a1iw1im7iw1Ma2j1Qa1hBa2j23a1h4Oa3i",
   "w1a1b5im2iw4im1iw1a7b4a1im6a1iw3a2iw66a2iw1im7iw1im2iw1ja1ig1im1hu15iw1iy2iu1im1ik1iw1iz1im1",
   "iw1imMGa2iw2b4iw3b2iw4a1iw3a2b1iw1im1iw2b4im1iw2VUa3iw4Da1j30a10iwHAa1ik1iu1iy1io2iq39a2iTEK",
   "a1iw4aAiw10a2iw2Ga2iw8Ka1j15a1j4Na1jRaIiw1Pa3im15a1j2Va1hCa1j7Fa1iw1a2iw1im2a2iw5a2iw1a1iw1K",
   "a1j7Ma1jJPGa1baO1a7iw7im2iwUDa1im72a1im4La5iw1KIa1im1a1iw18a1iw1b1im4a1j55a1iw1imHTa4iwC3a2i",
   "w2Ga3im26a2im3iw1im1iw4im1Ha1iw1im1iw1im60a1j19a1jEa1j1Pa1j1h25a3iw1Ga2j1Ua1h2Ca1j9a1h3Aa1j1",
   "h5Ia1h1j2Ga2hGa1jOa7iw3a5iw6Da1j3a1hNa1iw33a1j1h7Ra1j1h3Ua1j3Ma1j1h3Ja1j8Da1j1h82a2j4a1h4Sa1",
   "j2Ja1jIa1j2Ha1jD5a1j82a1h1a2j2Ha1jD9a2jITDa5b1Ra7iw15Pa2gJ5Ca1b566a2ii3b3a1is5ii8a8im2a5iw2i",
   "mUa4iw4Ka3iw3DRa7iw1aHiw2a7iw1a2iw1a5iw34a1iw50a7iwBNa1iw1Ta4iwFSa2iy1im1iwV0a7im3Da6iw1hU5L",
   "La"]

/-- The canonical combining class of a character. -/
def combiningClass (c : Char) : Nat :=
  if c.toNat < 0x300 then 0 else combiningRuns.value c.toNat

end Accounts.Unicode
