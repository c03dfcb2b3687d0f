/-!
# Floating-point numbers

A finite number of the binary64 format is a sign and a *magnitude*: the bit
pattern below the sign, read as a natural number.  Magnitudes are ordered as the
numbers they stand for, and the magnitude after `m` is `m + 1`.  All arithmetic
is exact arithmetic on quotients of natural numbers, rounded once to the nearest
magnitude, a tie going to the even one.

`ofSignificand` is how decimal text becomes a number: a significand of at most
64 bits is rounded, then scaled by a power of ten, which is rounded itself.  So
the result is not always the number nearest to the text.
-/

namespace Accounts

/-- A number of the binary64 format that is not a NaN. -/
structure Double where
  /-- Whether the sign bit is set. -/
  negative : Bool
  /-- The bits below the sign bit. -/
  magnitude : Nat
deriving DecidableEq, Repr

namespace Double

/-- The magnitude of infinity, the least one that stands for no number. -/
def infinity : Nat := 0x7FF * Nat.pow 2 52

/-- The number is neither infinite nor out of the format. -/
def Finite (d : Double) : Prop := d.magnitude < infinity

instance (d : Double) : Decidable d.Finite := inferInstanceAs (Decidable (_ < _))

/-- The significand `m` and the exponent `q` of the number `m · 2^q`. -/
def decompose (magnitude : Nat) : Nat × Int :=
  let b : Nat := magnitude / Nat.pow 2 52
  if b = 0 then (magnitude, -1074)
  else (magnitude % Nat.pow 2 52 + Nat.pow 2 52, (b : Int) - 1075)

/-- The quotient of two natural numbers, with a half going to the even side. -/
def quotientHalfEven (num den : Nat) : Nat :=
  let q := num / den
  let r := num % den
  if 2 * r < den then q
  else if den < 2 * r then q + 1
  else q + q % 2

/-- Numerator and denominator of `num / den · 2^q`. -/
def scaleByTwo (num den : Nat) (q : Int) : Nat × Nat :=
  if q < 0 then (num, den * Nat.pow 2 q.natAbs) else (num * Nat.pow 2 q.natAbs, den)

/-- Numerator and denominator of the number of a magnitude. -/
def ratio (magnitude : Nat) : Nat × Nat :=
  let (m, q) := decompose magnitude
  scaleByTwo m 1 q

/-- The greatest `e` with `2^e ≤ num / den`, both being positive. -/
def binaryExponent (num den : Nat) : Int :=
  let e : Int := (num.log2 : Int) - den.log2
  let (n, d) := scaleByTwo num den (-e)
  if n < d then e - 1 else e

/-- The magnitude nearest to `num / den`, at most `infinity`. -/
def nearest (num den : Nat) : Nat :=
  if num = 0 then 0
  else
    let q := max (binaryExponent num den - 52) (-1074)
    let (n, d) := scaleByTwo num den (-q)
    min infinity ((q + 1074).toNat * Nat.pow 2 52 + quotientHalfEven n d)

/-- The number nearest to a natural number. -/
def ofNat (n : Nat) : Double := ⟨false, nearest n 1⟩

/-- The number nearest to an integer. -/
def ofInt (i : Int) : Double := ⟨decide (i < 0), nearest i.natAbs 1⟩

/-- The magnitude of a product. -/
def mulMagnitude (a b : Nat) : Nat :=
  let (n₁, d₁) := ratio a
  let (n₂, d₂) := ratio b
  nearest (n₁ * n₂) (d₁ * d₂)

/-- The magnitude of a quotient by a number other than zero. -/
def divMagnitude (a b : Nat) : Nat :=
  let (n₁, d₁) := ratio a
  let (n₂, d₂) := ratio b
  nearest (n₁ * d₂) (d₁ * n₂)

/-- The magnitude nearest to a power of ten. -/
def powerOfTen (k : Nat) : Nat := nearest (Nat.pow 10 k) 1

/-- The largest power of ten that the format holds. -/
def maxPowerOfTen : Nat := 308

/-- Divides by `10^k`, at most `10^308` at a time.  The steps bound the number of
full divisions; after four of them every number of 64 bits is zero. -/
def divPowerOfTen (magnitude : Nat) : Nat → Nat → Nat
  | k, 0 => if k ≤ maxPowerOfTen then divMagnitude magnitude (powerOfTen k) else 0
  | k, steps + 1 =>
    if k ≤ maxPowerOfTen then divMagnitude magnitude (powerOfTen k)
    else if magnitude = 0 then 0
    else divPowerOfTen (divMagnitude magnitude (powerOfTen maxPowerOfTen))
      (k - maxPowerOfTen) steps

/-- The magnitude of `significand · 10^exponent`, or nothing where it is too
large for the format. -/
def ofSignificand (significand : Nat) (exponent : Int) : Option Nat :=
  let m := nearest significand 1
  if exponent < 0 then some (divPowerOfTen m exponent.natAbs 4)
  else if exponent.natAbs ≤ maxPowerOfTen then
    let p := mulMagnitude m (powerOfTen exponent.natAbs)
    if p < infinity then some p else none
  else if m = 0 then some 0
  else none

example : nearest 1 1 = 1023 * Nat.pow 2 52 := by decide
example : ofSignificand 1 (-1) = some (nearest 1 10) := by decide +kernel
example : ofSignificand 1 309 = none := by decide

end Double

end Accounts
