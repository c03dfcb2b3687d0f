import Accounts.Unicode.Runs
/-!
# Letters and numbers

A character is alphanumeric when it has the property `Alphabetic` or one of the
general categories of numbers, as of Unicode 15.
-/

namespace Accounts.Unicode

/-- The runs of letters and numbers, with value 1, and of other characters, with
value 0. -/
def alphanumericRuns : Runs := Runs.unpack
  ["1GaAb7aQb6aQb1Fa1b7a2b1a1b3a2b1a3b1aNb1aVb1aEAb4aCbEa5b7a1b1a1b2Ma1b1Aa5b1a2b2a4b1a1b6a1b1a3",
   "b1a1b1aKb1a2Jb1a4Bb8a56b1a16b2a1b6a19b17aEb1a1b1a2b1a2b1a1b8aRb4a4bTaBb5a1Ob1aHb4a36b1a8b4a8",
   "b4aGb2a1bGa1GbDa35bEa1Bb9a2b4a1b5aOb2aJbJaPb7aBb5aOb1a6bHa1AbAaCb3a7b6a2Cb1aGb1a3b4aFb2aAb1a",
   "Jb1a8b2a2b2aMb1a7b1a1b3a4b3a8b2a2b2a2b1a1b8a1b4a2b1a5b2aCb2a6b2a1b4a3b1a6b4a2b2aMb1a7b1a2b1a",
   "2b1a2b4a5b4a2b2a2b4a1b7a4b1a1b7aGbBa3b1a9b1a3b1aMb1a7b1a2b1a5b3a9b1a3b1a2b3a1bFa4b2aAb9a4b4a",
   "3b1a8b2a2b2aMb1a7b1a2b1a5b3a8b2a2b2a2b9a2b4a2b1a5b2aAb1a7bAa2b1a6b3a3b1a4b3a2b1a1b1a2b3a2b3a",
   "3b3aCb4a5b3a3b1a3b3a1b6a1bEaDbDaDb1a3b1aNb1aGb3a8b1a3b1a3b8a2b1a3b2a1b2a4b2aAb8a7b1a4b1a8b1a",
   "3b1aNb1aAb1a5b3a8b1a3b1a3b8a2b6a2b1a4b2aAb1a3bCaDb1a3b1a19b2a8b1a3b1a3b1a1b5aGb2aJb1a6b1a3b1",
   "aIb3aOb1a9b1a1b2a7b8a6b1a1b1a8b6aAb2a2bDa1Qb5a7b6a1b2aAb17a2b1a1b1a5b1aOb1a1b1aJb1a3b2a5b1a1",
   "b6a1b2aAb2a4b10a1bVaKbCa8b1a14b4aJb4aGb1a14b23a1Nb1a1b2aFb6a2Eb2a16b1a1b5a1b2a1Bb1aADb1a4b2a",
   "7b1a1b1a4b2a19b1a4b2a11b1a4b2a7b1a1b1a4b2aFb1a1Pb1a4b2a23bEaKb3aGbGa2Mb2a6b3aJCb2aHb1aQb5a2B",
   "b3aBb7aKbBaLbCaKbCaDb1a3b1a2bCa1Kb2aJbEa1b4a1b3aAb6aAbMaAb6a2Pb7a1Bb5a26bAaVb1aCb4a9bDa18b2a",
   "5bBa1Cb4aQb6aBb15aSb4a1Vb2aKbBaAb6aAbDa1bNa2bBa3b1Ha1Kb1aFb1a8b3aAb16a1Ab2a1Qb1aBbEa1Nb9aAb3",
   "a1Hb2a9b7a1Bb2a3b19a4b1a6b1a2b3a1b5a60b17aEbBa8Mb2a6b2a16b2a6b2a8b1a1b1a1b1a1b1aVb2a1Lb1a7b1",
   "a1b3a3b1a7b3a4b2a6b4aDb5a3b1a7b3Ja2b2a6b5aBb6aDb35a1b4a1b2aAb1a1b3a5b6a1b1a1b1a1b1a4b1aBb2a4",
   "b5a5b4a1b1a1QbMMa1SbQa2AbJMaUb13Ca75b6a4b3a2b9a1b2a16b1a1b5a1b2a1Ob7a1bGaNb9a7b1a7b1a7b1a7b1",
   "a7b1a7b1a7b1a7b1a10b1Fa1bELa3bPa9b7a5b2a5b4a2Mb6a3b1a2Qb1a4b5a1Bb1a2Ub3a4bAa10b1GaGb10aAbUa8",
   "b1aFb10aAb17aFbA0a6E0b20aLKDb23a1Eb2a8Db3aSbKa1Fb5a8b3a3Hb17a9b2a37b2a20b5a2b1a1b1a5bOaKb1a1",
   "1b8a6bAa1KbCa24b1a1bAaAbOa6b3a1b1a1Eb5a13bDaTb3a1Jb1aCbFaBb6aVb1a1Nb9aEb2aAb6aNb3a25b1a1b1a1",
   "bOa3b2aGb2a4bBa6b2a6b2a6b9a7b1a7b1a1Bb1aEb6a3Rb5aAb6aAT4bCaNb4a1Hb884aBEb2a3Ab16a7bCa5b5aCb1",
   "aDb1a5b1a1b1a2b1a2b1a3Cb11aBBbIa20b2a1Mb18aCb3Ka5b1a47bJaAb7aQb6aQbBa2Pb3a6b2a6b2a6b2a3b13aC",
   "b1aQb1aJb1a2b1aFb2aEb12a3RbCa1DbCa1PbHa2b7KaTb3a1HbGaRb4a14b9aUb5a1Bb5aUb2a14b4a8b1a5b1Aa4Ub",
   "2aAb6a14b4a14b4a18b8a1KbCaBb1aFb1a7b1a2b1aBb1aFb1a7b1a2b23a9Nb9aMbAa8bOa6b1a1Ab1a9b25a6b2a1b",
   "1a1Cb1a2b3a1b2aNb2aVb2a16b8a9b1GaJb1a2b5a11b4aQb26a1Ob4aKb2a1Ib1a2b5a8b1a3b1aTbAa9bNaVb1a10b",
   "10a8b1aSb6a5bGa1MbAaMb2aRb5aQbNa7b2Ga29b1Na1JbDa1Jb7a1Eb8aAb96aVb1a1Ab1a2b3a2b2Ea18b8aMbBa4b",
   "RaIb1EaSbKaNb9a26bCaUb1a5bAa1Pb9a1bDaPb7aAb6a1Jb3aAb4a4b8a13b3a1b9a20b1a4b9aDb1a1b4aKbBaIb1a",
   "12b2a1b6a4b1Ua7b1a1b1a4b1aFb1aAb7a1Pb7aAb6a4b1a8b2a2b2aMb1a7b1a2b1a5b3a8b2a2b2a2b3a1b6a1b5a7",
   "b4Sa22b1a3b1a4b5aAb5a3bUa22b2a2b1a1b8aAb56a1Mb2a7bPa6b12a1Vb1a1b3a1bBaAb16a1Mb2a1b7aAb1MaRb2",
   "aEb5aCb4a7b5Pa1Pb37a2JbCa8b2a1b2a8b1a2b1aUb1a2b2a2b2a4bDaAb26a8b2a1Eb2a6b1a1b1a2bRa1Jb2aAbHa",
   "28b5a1bIa29b87a9b1a1Db1a7b1a1bFaTb5aUb2aMb1aEb29a7b1a2b1a1Cb3a1b1a2b1a3b1a1b2a2b8aAb6a6b1a2b",
   "1a15b1a2b1a4b1a1b7aAb9MaNb9aHb1a19b3a3bFaAb2Ma1bFaLb1BaSQb36a3FbHa64b2ICa31bFa11GbHa6b3TPaI7",
   "b8DPaHPb7aVb1aAb6a2Fb1aAb6aUbIa1GbGa4bCaAb1a7b1aLb5aJbLGa2Nb39a2Bb4a1Pb7aHb20a2b1a1bCa2bEa5V",
   "Ob8a16Mb1Aa9b8N7a4b1a7b1a2b1a93bFa1bTa3b2a1bEa4b8aCCb284a3Bb5aDb3a9b7aAb4a1b5H1aKbCaKb3CaPb4",
   "7a2Lb1a27b1a2b2a1b2a2b2a4b1aCb1a1b1a7b1a21b1a4b2a8b1a7b1aSb1a4b1a5b1a1b3a7b1aAKb2aPb1aPb1aVb",
   "1aPb1aVb1aPb1aVb1aPb1aVb1aPb1a8b2a1Ib1O0aVb6a6b6La7b1aHb2a7b1a2b1a5b5a1Ub11a1b3Ga1DbAa7b2aAb",
   "4a1bA1aUbIa1Cb4aAbEMaSb4aAbN6a7b1a4b1a2b1aFb1a65b2a9b1Ga24b3a1b3a1b4aAbONa1Rb1a3b1a4b2Ca1Db1",
   "aFb62a4b1aRb1a2b1a1b2a1b1aAb1a4b1a1b1a1b6a1b4a1b1a1b1a1b1a3b1a2b1a1b2a1b1a1b1a1b1a1b1a1b1a2b",
   "1a1b2a4b1a7b1a4b1a4b1a1b1aAb1aHb5a3b1a5b1aHbI4aDb13aQb6aQb6aQb2J6aAb106a19N0b10a41Qb6a6Ub2a5",
   "K2bEa79Hb30VaGUb1F2a4QBb5a430bRN2Ga"]

/-- A character is a letter or a number. -/
def isAlphanumeric (c : Char) : Bool :=
  if c.toNat < 0x80 then c.isAlphanum else alphanumericRuns.value c.toNat == 1

end Accounts.Unicode
