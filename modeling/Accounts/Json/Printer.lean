import Accounts.Json.Basic
import Accounts.Number.Shortest
/-!
# JSON text

The text of a value is compact: no blanks, and objects with their fields in the
order of the value.  In a text only the quote, the backslash and control
characters are escaped.  A floating-point number has the fewest digits that
round to it; it is written without an exponent from `10^-5` up to `10^16`, with
`.0` when it is whole, and otherwise with one digit before the point and a signed
exponent.
-/

namespace Accounts.Json

/-- The four hexadecimal digits of a control character. -/
def controlDigits (n : Nat) : List Char :=
  ['0', '0', Nat.digitChar (n / 16), Nat.digitChar (n % 16)]

/-- The written form of one character of a text. -/
def escape (c : Char) : List Char :=
  if c = '"' then ['\\', '"']
  else if c = '\\' then ['\\', '\\']
  else if c = '\n' then ['\\', 'n']
  else if c = '\r' then ['\\', 'r']
  else if c = '\t' then ['\\', 't']
  else if c = '\x08' then ['\\', 'b']
  else if c = '\x0c' then ['\\', 'f']
  else if c.toNat < 0x20 then '\\' :: 'u' :: controlDigits c.toNat
  else [c]

/-- The written form of a text. -/
def quote (s : String) : List Char :=
  '"' :: (s.toList.flatMap escape ++ ['"'])

/-- The digits of a positive decimal without an exponent. -/
def positional (d : Decimal) : List Char :=
  let ds := Nat.toDigits 10 d.digits
  if 0 ≤ d.exponent then ds ++ List.replicate d.exponent.toNat '0' ++ ['.', '0']
  else
    let places := d.exponent.natAbs
    if places < ds.length then
      ds.take (ds.length - places) ++ '.' :: ds.drop (ds.length - places)
    else '0' :: '.' :: (List.replicate (places - ds.length) '0' ++ ds)

/-- The digits of a positive decimal with an exponent. -/
def scientific (d : Decimal) : List Char :=
  let ds := Nat.toDigits 10 d.digits
  let e := d.exponent + ds.length - 1
  let mantissa := match ds with
    | [] => []
    | [c] => [c]
    | c :: cs => c :: '.' :: cs
  mantissa ++ 'e' :: (if e < 0 then '-' else '+') :: Nat.toDigits 10 e.natAbs

/-- The text of a floating-point number. -/
def doubleChars (x : Double) : List Char :=
  let body :=
    if x.magnitude = 0 then ['0', '.', '0']
    else
      let d := Decimal.shortest x.magnitude
      let point := d.exponent + Decimal.width d.digits
      if -5 < point ∧ point ≤ 16 then positional d else scientific d
  if x.negative then '-' :: body else body

/-- The text of a whole number. -/
def integerChars (i : Int) : List Char :=
  if i < 0 then '-' :: Nat.toDigits 10 i.natAbs else Nat.toDigits 10 i.natAbs

/-- The text of a number. -/
def Number.chars : Number → List Char
  | .integer i => integerChars i
  | .float d => doubleChars d

mutual

/-- The text of a value, as characters. -/
def chars : Json → List Char
  | .null => ['n', 'u', 'l', 'l']
  | .bool true => ['t', 'r', 'u', 'e']
  | .bool false => ['f', 'a', 'l', 's', 'e']
  | .number n => n.chars
  | .string s => quote s
  | .array items => '[' :: itemsChars items
  | .object fields => '{' :: fieldsChars fields

/-- The items of a list and the bracket that closes it. -/
def itemsChars : List Json → List Char
  | [] => [']']
  | [v] => chars v ++ [']']
  | v :: vs => chars v ++ ',' :: itemsChars vs

/-- The fields of an object and the brace that closes it. -/
def fieldsChars : List (String × Json) → List Char
  | [] => ['}']
  | [(k, v)] => quote k ++ ':' :: (chars v ++ ['}'])
  | (k, v) :: fs => quote k ++ ':' :: (chars v ++ ',' :: fieldsChars fs)

end

/-- The text of a value. -/
def text (v : Json) : String := String.ofList v.chars

end Accounts.Json
