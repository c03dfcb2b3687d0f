/-!
# Labels in ASCII

A label with characters outside of ASCII is written as its ASCII characters, a
hyphen, and a sequence of numbers that say which character to insert where.  Each
number is written to a mixed base with the digits `a` to `z` and `0` to `9`; the
thresholds that end a number follow a bias, which adapts to the numbers seen so
far.  The arithmetic has 32 bits, and a text that leaves them is refused.
-/

namespace Accounts.Domain.Punycode

/-- The number of digits. -/
def base : Nat := 36
/-- The smallest threshold. -/
def tMin : Nat := 1
/-- The largest threshold. -/
def tMax : Nat := 26
/-- The damping of the first adaptation. -/
def damp : Nat := 700
/-- The skew of the adaptation. -/
def skew : Nat := 38
/-- The bias at the start. -/
def initialBias : Nat := 72
/-- The first character that is not ASCII. -/
def initialPoint : Nat := 0x80
/-- The largest number of the arithmetic. -/
def limit : Nat := Nat.pow 2 32 - 1

/-- Brings a difference below the range of the thresholds. -/
def adaptLoop (delta k : Nat) : Nat → Nat
  | 0 => k
  | steps + 1 =>
    if (base - tMin) * tMax / 2 < delta then adaptLoop (delta / (base - tMin)) (k + base) steps
    else k + (base - tMin + 1) * delta / (delta + skew)

/-- The bias after a number. -/
def adapt (delta points : Nat) (first : Bool) : Nat :=
  let delta := if first then delta / damp else delta / 2
  adaptLoop (delta + delta / points) 0 8

/-- The threshold of a digit at a position. -/
def threshold (k bias : Nat) : Nat :=
  if k ≤ bias then tMin else if bias + tMax ≤ k then tMax else k - bias

/-- The value of a digit. -/
def digitValue? (c : Char) : Option Nat :=
  if c.isDigit then some (c.toNat - '0'.toNat + 26)
  else if 'a' ≤ c ∧ c ≤ 'z' then some (c.toNat - 'a'.toNat)
  else if 'A' ≤ c ∧ c ≤ 'Z' then some (c.toNat - 'A'.toNat)
  else none

/-- The digit of a value. -/
def digit (n : Nat) : Char :=
  if n < 26 then Char.ofNat ('a'.toNat + n) else Char.ofNat ('0'.toNat + (n - 26))

/-! ## Reading -/

/-- Reads one number, added to `i`.  Returns it and the rest. -/
def readNumber (bias i weight k : Nat) : List Char → Option (Nat × List Char)
  | [] => none
  | c :: cs => do
    let d ← digitValue? c
    if (limit - i) / weight < d then none
    else
      let i := i + d * weight
      let t := threshold k bias
      if d < t then some (i, cs)
      else if limit / (base - t) < weight then none
      else readNumber bias i (weight * (base - t)) (k + base) cs

/-- Whether a number is a character. -/
def isPoint (n : Nat) : Bool := n < 0xD800 || (0xE000 ≤ n && n < 0x110000)

/-- Inserts the characters that the numbers name; there are at most `steps` numbers. -/
def insertAll (done : List Char) (point i bias : Nat) (cs : List Char) : Nat → Option (List Char)
  | 0 => if cs = [] then some done else none
  | steps + 1 =>
    match cs with
    | [] => some done
    | _ => do
      let (j, rest) ← readNumber bias i 1 base cs
      let points := done.length + 1
      if limit - point < j / points then none
      else
        let next := point + j / points
        let place := j % points
        if isPoint next then
          insertAll (done.take place ++ Char.ofNat next :: done.drop place) next (place + 1)
            (adapt (j - i) points (i == 0)) rest steps
        else none

/-- Splits a list at its last hyphen, if that is not the first character. -/
def splitLast (cs : List Char) : Option (List Char × List Char) :=
  let after := cs.reverse.takeWhile (· ≠ '-')
  if after.length = cs.length then some ([], cs)
  else
    let before := cs.take (cs.length - after.length - 1)
    if before = [] then none else some (before, after.reverse)

/-- The label that a text stands for. -/
def decode (cs : List Char) : Option (List Char) := do
  let (ascii, numbers) ← splitLast cs
  if ascii.all fun c => c.toNat < 0x80 then
    insertAll ascii initialPoint 0 initialBias numbers numbers.length
  else none

/-! ## Writing -/

/-- Writes one number; it has at most `steps` digits. -/
def writeNumber (q k bias : Nat) : Nat → List Char
  | 0 => []
  | steps + 1 =>
    let t := threshold k bias
    if q < t then [digit q]
    else
      digit (t + (q - t) % (base - t)) ::
        writeNumber ((q - t) / (base - t)) (k + base) bias steps

/-- The state of writing the characters of one value. -/
structure Writing where
  /-- The difference so far. -/
  delta : Nat
  /-- The bias. -/
  bias : Nat
  /-- How many characters were handled. -/
  handled : Nat
  /-- The text so far, last first. -/
  out : List Char

/-- Passes over one character of the label while those equal to `point` are written. -/
def Writing.pass (point ascii : Nat) (w : Writing) (c : Char) : Writing :=
  if c.toNat < point then { w with delta := w.delta + 1 }
  else if c.toNat = point then
    { delta := 0, bias := adapt w.delta (w.handled + 1) (w.handled == ascii)
      handled := w.handled + 1
      out := (writeNumber w.delta base w.bias 32).reverse ++ w.out }
  else w

/-- Writes the characters from `point` on in the order of their values; at most
`steps` values are left. -/
def writeFrom (label : List Char) (ascii point : Nat) (w : Writing) : Nat → List Char
  | 0 => w.out
  | steps + 1 =>
    match (label.map Char.toNat).filter (point ≤ ·) |>.min? with
    | none => w.out
    | some next =>
      let w := { w with delta := w.delta + (next - point) * (w.handled + 1) }
      let w := label.foldl (Writing.pass next ascii) w
      writeFrom label ascii (next + 1) { w with delta := w.delta + 1 } steps

/-- The text of a label. -/
def encode (label : List Char) : List Char :=
  let ascii := label.filter fun c => c.toNat < 0x80
  let front := if ascii = [] then [] else ascii ++ ['-']
  (writeFrom label ascii.length initialPoint
    ⟨0, initialBias, ascii.length, front.reverse⟩ label.length).reverse

example : encode ['m', 'ü', 'n', 'c', 'h', 'e', 'n'] = "mnchen-3ya".toList := by decide
example : decode "mnchen-3ya".toList = some ['m', 'ü', 'n', 'c', 'h', 'e', 'n'] := by decide

end Accounts.Domain.Punycode
