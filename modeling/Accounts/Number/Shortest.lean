import Accounts.Number.Double
/-!
# Shortest decimal digits

The shortest decimal of a number is the decimal with the fewest digits that lies
in the interval of reals which round to the number, and of those the one nearest
to it.  The interval includes its ends when the significand is even.  On a grid
of decimals with `k` digits only the two neighbours of the number have to be
looked at: if any point of the grid lies in the interval, one of them does.
-/

namespace Accounts

/-- The number `digits · 10^exponent`. -/
structure Decimal where
  /-- The digits, with no zero at the end unless they are zero. -/
  digits : Nat
  /-- The power of ten. -/
  exponent : Int
deriving DecidableEq, Repr

namespace Decimal

/-- How many digits a natural number has. -/
def width (n : Nat) : Nat := (Nat.toDigits 10 n).length

/-- The same number with at most `steps` zeros dropped from the end. -/
def dropZeros (d : Decimal) : Nat → Decimal
  | 0 => d
  | steps + 1 =>
    if d.digits ≠ 0 ∧ d.digits % 10 = 0 then dropZeros ⟨d.digits / 10, d.exponent + 1⟩ steps
    else d

/-- The greatest `e` with `10^e ≤ num / den`, both being positive. -/
def exponentOf (num den : Nat) : Int :=
  if den ≤ num then (width (num / den) : Int) - 1
  else -(width ((den + num - 1) / num - 1) : Int)

/-- Numerator and denominator of `num / den · 10^k`. -/
def scaleByTen (num den : Nat) (k : Int) : Nat × Nat :=
  if k < 0 then (num, den * Nat.pow 10 k.natAbs) else (num * Nat.pow 10 k.natAbs, den)

/-- The reals that round to a number, as multiples of an unnamed unit: the number
itself, the ends, and whether the ends belong to it. -/
structure Interval where
  /-- Numerator of the lower end. -/
  low : Nat
  /-- Numerator of the number. -/
  middle : Nat
  /-- Numerator of the upper end. -/
  high : Nat
  /-- The common denominator. -/
  den : Nat
  /-- Whether the ends round to the number too. -/
  closed : Bool

/-- The interval of a positive magnitude. -/
def Interval.ofMagnitude (magnitude : Nat) : Interval :=
  let (m, q) := Double.decompose magnitude
  let below := if m = Nat.pow 2 52 ∧ -1074 < q then 1 else 2
  let (unit, den) := Double.scaleByTwo 1 1 (q - 2)
  { low := (4 * m - below) * unit, middle := 4 * m * unit, high := (4 * m + 2) * unit
    den, closed := m % 2 == 0 }

/-- The decimal `n · 10^k` rounds to the number. -/
def Interval.holds (i : Interval) (n : Nat) (k : Int) : Bool :=
  let (a, b) := scaleByTen n 1 k
  let x := a * i.den
  if i.closed then i.low * b ≤ x && x ≤ i.high * b else i.low * b < x && x < i.high * b

/-- The decimal with `count` digits that is nearest to the number, if one rounds to it. -/
def onGrid (i : Interval) (top : Int) (count : Nat) : Option Decimal :=
  let k := top + 1 - count
  let (num, den) := scaleByTen i.middle i.den (-k)
  let floor := num / den
  match i.holds floor k, i.holds (floor + 1) k with
  | true, true =>
    let r := num % den
    if 2 * r < den ∨ (2 * r = den ∧ floor % 2 = 0) then some ⟨floor, k⟩ else some ⟨floor + 1, k⟩
  | true, false => some ⟨floor, k⟩
  | false, true => some ⟨floor + 1, k⟩
  | false, false => none

/-- The shortest decimal of a magnitude.  Seventeen digits always suffice. -/
def shortest (magnitude : Nat) : Decimal :=
  if magnitude = 0 then ⟨0, 0⟩
  else
    let i := Interval.ofMagnitude magnitude
    let top := exponentOf i.middle i.den
    let found := (List.range 17).findSome? fun k => onGrid i top (k + 1)
    (found.getD ⟨0, 0⟩).dropZeros 20

end Decimal

end Accounts
