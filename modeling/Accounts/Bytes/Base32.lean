import Accounts.Bytes.Words
/-!
# Bytes as text to base 32

The digits are `A` to `Z` and `2` to `7`, five bits each.  No padding is written.
A reader takes whole bytes from the digits and drops the bits that are left over.
-/

namespace Accounts.Bytes.Base32

/-- The digit of a value. -/
def digit (n : Nat) : Char :=
  if n < 26 then Char.ofNat ('A'.toNat + n) else Char.ofNat ('2'.toNat + (n - 26))

/-- The value of a digit. -/
def value? (c : Char) : Option Nat :=
  if 'A' ≤ c ∧ c ≤ 'Z' then some (c.toNat - 'A'.toNat)
  else if '2' ≤ c ∧ c ≤ '7' then some (c.toNat - '2'.toNat + 26)
  else none

/-- The bits of a number, the highest first. -/
def bits (count n : Nat) : List Bool :=
  (List.range count).map fun i => n / Nat.pow 2 (count - 1 - i) % 2 == 1

/-- The number of bits, the highest first. -/
def ofBits (bs : List Bool) : Nat := bs.foldl (fun n b => 2 * n + if b then 1 else 0) 0

/-- The text of bytes. -/
def encode (bytes : List UInt8) : List Char :=
  (chunks 5 (bytes.flatMap fun b => bits 8 b.toNat)).map fun c =>
    digit (ofBits (c ++ List.replicate (5 - c.length) false))

/-- The bytes of a text. -/
def decode (cs : List Char) : Option (List UInt8) :=
  (cs.mapM value?).map fun vs =>
    ((chunks 8 (vs.flatMap (bits 5))).filter (·.length = 8)).map fun c => UInt8.ofNat (ofBits c)

theorem value?_digit : ∀ n < 32, value? (digit n) = some n := by decide

example : String.ofList (encode [0x66, 0x6f, 0x6f]) = "MZXW6" := by decide
example : decode "MZXW6".toList = some [0x66, 0x6f, 0x6f] := by decide

end Accounts.Bytes.Base32
