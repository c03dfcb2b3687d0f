/-!
# Network addresses

An address of the fourth version is four numbers up to 255 without leading zeros,
separated by dots.  One of the sixth version is eight groups of up to four
hexadecimal digits, separated by colons; the last two may be written as an
address of the fourth version, and one gap of zero groups may be left out.
-/

namespace Accounts.Email

/-- Reads part of a text and returns the rest. -/
abbrev Scanner := List Char → Option (List Char)

/-- Reads a number up to 255 of at most three digits. -/
def octet : Scanner := fun cs =>
  let ds := cs.takeWhile Char.isDigit
  let n := ds.foldl (fun n c => n * 10 + (c.toNat - '0'.toNat)) 0
  if ds = [] ∨ 3 < ds.length ∨ 255 < n ∨ (ds.head? = some '0' ∧ ds.length ≠ 1) then none
  else some (cs.dropWhile Char.isDigit)

/-- Reads one given character. -/
def given (c : Char) : Scanner
  | [] => none
  | d :: cs => if d = c then some cs else none

/-- Reads an address of the fourth version. -/
def dotted : Scanner := fun cs => do
  let cs ← octet cs
  let cs ← octet (← given '.' cs)
  let cs ← octet (← given '.' cs)
  octet (← given '.' cs)

/-- A hexadecimal digit. -/
def isHex (c : Char) : Bool :=
  c.isDigit || ('a' ≤ c && c ≤ 'f') || ('A' ≤ c && c ≤ 'F')

/-- Reads one group of hexadecimal digits. -/
def group : Scanner := fun cs =>
  let ds := cs.takeWhile isHex
  if ds = [] ∨ 4 < ds.length then none else some (cs.dropWhile isHex)

/-- Groups that were read. -/
structure Groups where
  /-- How many groups there are. -/
  count : Nat
  /-- Whether the last two are an address of the fourth version. -/
  endsDotted : Bool
  /-- What follows. -/
  rest : List Char

/-- Reads up to `room` groups, of which `count` were read before. -/
def groups (count : Nat) (cs : List Char) : Nat → Groups
  | 0 => ⟨count, false, cs⟩
  | room + 1 =>
    match (if count = 0 then some cs else given ':' cs) with
    | none => ⟨count, false, cs⟩
    | some after =>
      match (if 1 ≤ room then dotted after else none) with
      | some rest => ⟨count + 2, true, rest⟩
      | none =>
        match group after with
        | some rest => groups (count + 1) rest room
        | none => ⟨count, false, cs⟩

/-- An address of the sixth version. -/
def isColonAddress (cs : List Char) : Bool :=
  let head := groups 0 cs 8
  if head.count = 8 then head.rest == []
  else if head.endsDotted then false
  else match head.rest with
    | ':' :: ':' :: rest => (groups 0 rest (7 - head.count)).rest == []
    | _ => false

/-- A network address. -/
def isNetworkAddress (cs : List Char) : Bool :=
  dotted cs == some [] || isColonAddress cs

example : isNetworkAddress "127.0.0.1".toList = true := by decide
example : isNetworkAddress "::ffff:1.2.3.4".toList = true := by decide
example : isNetworkAddress "1:2:3:4:5:6:7::".toList = true := by decide
example : isNetworkAddress "01.2.3.4".toList = false := by decide

end Accounts.Email
