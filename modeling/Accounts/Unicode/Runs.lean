/-!
# Packed tables of characters

A property of characters is stored as runs: every run has a start and a value and
reaches up to the start of the next one.  A map from characters to sequences of
characters is stored as sorted entries.  Both are written as lines of text and
unpacked once.

In a packed table numbers are written with the digits `0` to `9` and `A` to `V`,
so to base 32.  Runs are written as a length and a value, the value to base 26
with the letters `a` to `z`.  Entries are written as the distance from the last
key, the letter `k`, and the values, each followed by the letter `v`.
-/

namespace Accounts.Unicode

/-- The value of a digit to base 32. -/
def packedDigit? (c : Char) : Option Nat :=
  if c.isDigit then some (c.toNat - '0'.toNat)
  else if 'A' ≤ c ∧ c ≤ 'V' then some (c.toNat - 'A'.toNat + 10)
  else none

/-- The position of the last element of a sorted array whose key is at most `n`, among
those from `low` on and below `high`; `steps` bounds the halvings. -/
def lastAtMost {α : Type} (key : α → Nat) (xs : Array α) (n low high : Nat) : Nat → Nat
  | 0 => low
  | steps + 1 =>
    if high ≤ low + 1 then low
    else
      let middle := (low + high) / 2
      match xs[middle]? with
      | some x =>
        if key x ≤ n then lastAtMost key xs n middle high steps
        else lastAtMost key xs n low middle steps
      | none => low

/-- The halvings that suffice for any table of characters. -/
def searchSteps : Nat := 22

/-! ## Runs -/

/-- A property of characters, as runs of equal values. -/
structure Runs where
  /-- The first character and the value of each run. -/
  starts : Array (Nat × Nat)

namespace Runs

/-- The state of unpacking: what was read of the current run, and the finished runs. -/
structure Unpacking where
  /-- Where the current run starts. -/
  start : Nat
  /-- The length read so far. -/
  length : Nat
  /-- The value read so far, if it has begun. -/
  value : Option Nat
  /-- The finished runs. -/
  runs : Array (Nat × Nat)

/-- Ends the current run. -/
def Unpacking.finish (u : Unpacking) : Unpacking :=
  match u.value with
  | none => u
  | some v => ⟨u.start + u.length, 0, none, u.runs.push (u.start, v)⟩

/-- Reads one character of a packed table. -/
def Unpacking.step (u : Unpacking) (c : Char) : Unpacking :=
  match packedDigit? c with
  | some d =>
    let u := u.finish
    { u with length := u.length * 32 + d }
  | none => { u with value := some (u.value.getD 0 * 26 + (c.toNat - 'a'.toNat)) }

/-- Unpacks a table of runs. -/
def unpack (lines : List String) : Runs :=
  ⟨((lines.flatMap String.toList).foldl Unpacking.step ⟨0, 0, none, #[]⟩).finish.runs⟩

/-- The value of a character. -/
def value (r : Runs) (n : Nat) : Nat :=
  match r.starts[lastAtMost Prod.fst r.starts n 0 r.starts.size searchSteps]? with
  | some (_, v) => v
  | none => 0

end Runs

/-! ## Entries -/

/-- A map from characters to sequences of characters. -/
structure Entries where
  /-- The entries in the order of their keys. -/
  list : Array (Nat × List Nat)

namespace Entries

/-- The state of unpacking. -/
structure Unpacking where
  /-- The number read so far. -/
  number : Nat
  /-- The key of the current entry. -/
  key : Nat
  /-- The values of the current entry, last first. -/
  values : List Nat
  /-- The finished entries. -/
  entries : Array (Nat × List Nat)

/-- Ends the current entry. -/
def Unpacking.finish (u : Unpacking) : Array (Nat × List Nat) :=
  if u.values = [] then u.entries else u.entries.push (u.key, u.values.reverse)

/-- Reads one character of a packed table. -/
def Unpacking.step (u : Unpacking) (c : Char) : Unpacking :=
  match packedDigit? c with
  | some d => { u with number := u.number * 32 + d }
  | none =>
    if c = 'k' then ⟨0, u.key + u.number, [], u.finish⟩
    else { u with number := 0, values := u.number :: u.values }

/-- Unpacks a table of entries. -/
def unpack (lines : List String) : Entries :=
  ⟨((lines.flatMap String.toList).foldl Unpacking.step ⟨0, 0, [], #[]⟩).finish⟩

/-- The sequence of a character, if it has one. -/
def find? (e : Entries) (n : Nat) : Option (List Nat) :=
  match e.list[lastAtMost Prod.fst e.list n 0 e.list.size searchSteps]? with
  | some (k, values) => if k = n then some values else none
  | none => none

end Entries

end Accounts.Unicode
