/-!
# Reading whole numbers

A whole number is written with decimal digits and at most one sign.  The type
it is read into bounds it, so reading can fail in four ways.  Digits are read
from the left, and the first thing that is wrong decides the fault: a bad digit
after an overflow is not looked at, and an overflow after a bad digit does not
happen.
-/

namespace Accounts.Text

/-- What is wrong with a text that should be a whole number. -/
inductive IntegerFault
  /-- There is no character at all. -/
  | empty
  /-- A character is no digit, or a sign stands alone. -/
  | invalidDigit
  /-- The number is above the largest one allowed. -/
  | aboveRange
  /-- The number is below the smallest one allowed. -/
  | belowRange
deriving DecidableEq, Repr

/-- The message of a fault. -/
def IntegerFault.message : IntegerFault → String
  | .empty => "cannot parse integer from empty string"
  | .invalidDigit => "invalid digit found in string"
  | .aboveRange => "number too large to fit in target type"
  | .belowRange => "number too small to fit in target type"

/-- The short name of a fault, used in diagnostics. -/
def IntegerFault.name : IntegerFault → String
  | .empty => "Empty"
  | .invalidDigit => "InvalidDigit"
  | .aboveRange => "PosOverflow"
  | .belowRange => "NegOverflow"

/-- The whole numbers that a type can hold. -/
structure IntegerRange where
  /-- The smallest number. -/
  least : Int
  /-- The largest number. -/
  greatest : Int
deriving DecidableEq, Repr

/-- Signed numbers of 64 bits. -/
def IntegerRange.int64 : IntegerRange := ⟨-Int.pow 2 63, Int.pow 2 63 - 1⟩
/-- Unsigned numbers of 64 bits. -/
def IntegerRange.nat64 : IntegerRange := ⟨0, Int.pow 2 64 - 1⟩
/-- Unsigned numbers of 32 bits. -/
def IntegerRange.nat32 : IntegerRange := ⟨0, Int.pow 2 32 - 1⟩
/-- Unsigned numbers of 8 bits. -/
def IntegerRange.nat8 : IntegerRange := ⟨0, 255⟩

/-- A number lies in the range. -/
def IntegerRange.Holds (r : IntegerRange) (i : Int) : Prop :=
  r.least ≤ i ∧ i ≤ r.greatest

instance (r : IntegerRange) (i : Int) : Decidable (r.Holds i) :=
  inferInstanceAs (Decidable (_ ∧ _))

/-- The value of a decimal digit. -/
def digit? (c : Char) : Option Nat :=
  if '0' ≤ c ∧ c ≤ '9' then some (c.toNat - '0'.toNat) else none

/-- Reads digits upwards from `acc`. -/
def readUp (r : IntegerRange) (acc : Int) : List Char → Except IntegerFault Int
  | [] => .ok acc
  | c :: cs =>
    match digit? c with
    | none => .error .invalidDigit
    | some d =>
      let next := acc * 10 + d
      if next ≤ r.greatest then readUp r next cs else .error .aboveRange

/-- Reads digits downwards from `acc`. -/
def readDown (r : IntegerRange) (acc : Int) : List Char → Except IntegerFault Int
  | [] => .ok acc
  | c :: cs =>
    match digit? c with
    | none => .error .invalidDigit
    | some d =>
      let next := acc * 10 - d
      if r.least ≤ next then readDown r next cs else .error .belowRange

/-- Reads a whole number.  A minus sign is only a sign where the range holds
negative numbers. -/
def readChars (r : IntegerRange) : List Char → Except IntegerFault Int
  | [] => .error .empty
  | ['+'] => .error .invalidDigit
  | ['-'] => .error .invalidDigit
  | '+' :: cs => readUp r 0 cs
  | c :: cs =>
    if c = '-' ∧ r.least < 0 then readDown r 0 cs else readUp r 0 (c :: cs)

/-- Reads a whole number from a text. -/
def readInteger (r : IntegerRange) (s : String) : Except IntegerFault Int :=
  readChars r s.toList

example : readInteger .int64 "-9223372036854775808" = .ok (-9223372036854775808) := by rfl
example : readInteger .nat8 "256x" = .error .aboveRange := by rfl
example : readInteger .nat32 "-1" = .error .invalidDigit := by rfl

/-- The digits of a number, at least `width` of them. -/
def padded (width n : Nat) : List Char :=
  let ds := Nat.toDigits 10 n
  List.replicate (width - ds.length) '0' ++ ds

/-- The decimal text of a number, at least `width` digits long. -/
def paddedText (width n : Nat) : String :=
  String.ofList (padded width n)

example : paddedText 6 42 = "000042" := by decide

end Accounts.Text
