import Accounts.Unicode.Runs
/-!
# Marks

A mark is a character of one of the general categories `Mn`, `Mc` and `Me`, as of
Unicode 15.  A label of a domain name does not start with one.
-/

namespace Accounts.Unicode

/-- The runs of marks, with value 1, and of other characters, with value 0. -/
def markRuns : Runs := Runs.unpack
  ["O0a3Gb8Ja7b87a1Db1a1b1a2b1a2b1a1b28aBb1GaLbGa1b35a7b2a6b2a2b1a4b13a1bUaRb2RaBb1Qa9b9a1bOa4b1",
   "a9b1a3b1a5b1Ba3b1Sa8b1AaOb1a11b1Ma3b1aIb1a7bAa2bTa3b1Oa1b1a7b2a2b2a3b9a1bAa2bQa1b2a3b1Oa1b1a",
   "5b4a2b2a3b3a1bUa2b3a1bBa3b1Oa1b1a8b1a3b1a3bKa2bMa6b1a3b1Oa1b1a7b2a2b2a3b7a3bAa2bUa1b1Ra5b3a3",
   "b1a4b9a1b18a5b1Na1b1a7b1a3b1a4b7a2bBa2bTa3b1Oa1b1a7b1a3b1a4b7a2bBa2bFa1bCa4b1Na2b1a7b1a3b1a4",
   "b9a1bAa2bTa3b26a1b4a6b1a1b1a8bIa2b1Ta1b2a7bCa8b32a1b2a9bBa7b29a2bRa1b1a1b1a1b4a2b1HaKb1a2b5a",
   "Bb1a14b9a1b34aKbNa4b4a3b1a3b2a7b3a4bDaCb1a1bAa4bLVa3bTIa4bSa3bTa2bUa2b20a10b9a1b1Da3b1a1b3La",
   "2b12a1b3MaCb4aCb6Ra5b1PaAb1aTb2a1b1GaVb1Ha5b1FaHb16a9bCa3bUaDb1OaEb1GaKb4Oa3b1aLb4a1b6a1b2a3",
   "b66a20bMGa11b2VUa3b4Da1b30a10bHAa6b39a2bTEKa4b1aAb10a2b2Ga2b8Ga1b3a1b4a1bNa5b4a1b2Ja2b1IaIbQ",
   "aIbDa1b16a8bPaDb1Ca4b1FaEb14a1b23aEbCa1b8a2b1Da3b1Ia1b1a3b2a2b5a2b1a1b19a5b5a2b7Ca8b1a2bJPGa",
   "1bN1aGbGaGbUDa1b72a1b4La5b1K6a3b1a2b5a4b18a3b4a1b55a2bHTa4bC3a2b2Ga3b26aBb1Ha4b3Qa3b1LaFb19a",
   "1b2a2bAa4b1DaBb7a1b1Ta3b14aEbGa2b1Ca1bCa3b1GaEb8a4b1a2b2SaCb6a1b2a1b4TaCbLa4b1Na2b1a7b2a2b2a",
   "3b9a1bAa2b2a7b3a5b60aIbNa1b2HaKb7Ba7b2a9bRa2b2IaHb3AaDb35aFb80aFb7La6b1a2b2a4b1a1b1a2b4Da7b2",
   "a7b3a1bSaAb18a7b1a4b8a1b9aBb1EaGbCLa8b1a8b2IaMb1aEb3Qa6b3a1b1a2b1a7b1a1b22a5b1a2b1a5bARa4b9a",
   "2b1a1b1Ga7b3a5b57Ta1b6aFbDKQa5b1Ra7b10Oa1b1a1Nb7a4b2Ha1bBa2bJ5Ba2b4J1a1Eb2aNbGUa5b3a6b8a8b2a",
   "7bUa4b4Ka3b1TRa1Nb4a1Ib8a1bEa1bMa5b1aFb1AGa7b1aHb2a7b1a2b1a5b34a1b50a7bBNa1b1Ta4bFSa4bV0a7b3",
   "Da7bO5TLa7Gb5VGGa"]

/-- A character is a mark. -/
def isMark (c : Char) : Bool :=
  0x300 ≤ c.toNat && markRuns.value c.toNat == 1

end Accounts.Unicode
