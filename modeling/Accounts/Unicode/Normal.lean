import Accounts.Unicode.CombiningClass
import Accounts.Unicode.Decomposition
/-!
# Canonical composition

`nfc` brings a text into the form where equal characters are spelled equally:
every character is taken apart, the marks of each group are put in the order of
their classes, and what can be composed is composed again.  Hangul syllables are
taken apart and composed by arithmetic on their three letters.
-/

namespace Accounts.Unicode

/-! ## Hangul -/

namespace Hangul

/-- The first syllable. -/
def base : Nat := 0xAC00
/-- The leading letters, vowels and trailing letters start here. -/
def leadBase : Nat := 0x1100
/-- The first vowel. -/
def vowelBase : Nat := 0x1161
/-- The position before the first trailing letter. -/
def trailBase : Nat := 0x11A7
/-- How many leading letters there are. -/
def leads : Nat := 19
/-- How many vowels there are. -/
def vowels : Nat := 21
/-- How many trailing letters there are, with none counting as one. -/
def trails : Nat := 28

/-- The letters of a syllable. -/
def decompose? (n : Nat) : Option (List Nat) :=
  if base ≤ n ∧ n < base + leads * vowels * trails then
    let s := n - base
    let lead := leadBase + s / (vowels * trails)
    let vowel := vowelBase + s % (vowels * trails) / trails
    let trail := trailBase + s % trails
    some (if trail = trailBase then [lead, vowel] else [lead, vowel, trail])
  else none

/-- The syllable of a lead and a vowel, or of a syllable without a trail and a trail. -/
def compose? (a b : Nat) : Option Nat :=
  if leadBase ≤ a ∧ a < leadBase + leads ∧ vowelBase ≤ b ∧ b < vowelBase + vowels then
    some (base + ((a - leadBase) * vowels + (b - vowelBase)) * trails)
  else if base ≤ a ∧ a < base + leads * vowels * trails ∧ (a - base) % trails = 0 ∧
      trailBase < b ∧ b < trailBase + trails then
    some (a + (b - trailBase))
  else none

end Hangul

/-! ## Taking apart -/

/-- The full decomposition of a character by a table; no decomposition is more than `steps`
deep. -/
def decomposeBy (table : Nat → Option (List Nat)) (n : Nat) : Nat → List Nat
  | 0 => [n]
  | steps + 1 =>
    match Hangul.decompose? n with
    | some ns => ns
    | none =>
      match table n with
      | some (first :: rest) => decomposeBy table first steps ++ rest
      | _ => [n]

/-- The full decomposition of a character. -/
def decomposeChar (n : Nat) : List Nat := decomposeBy decompositions.find? n 5

/-- Inserts a mark behind the marks of its class or of a lower one. -/
def insertMark (c : Char) : List Char → List Char
  | [] => [c]
  | d :: ds =>
    if combiningClass d ≠ 0 ∧ combiningClass c < combiningClass d then d :: insertMark c ds
    else c :: d :: ds

/-- Puts the marks of each group into order.  The list and its result are reversed. -/
def orderMarks (done : List Char) : List Char → List Char
  | [] => done.reverse
  | c :: cs =>
    orderMarks (if combiningClass c = 0 then c :: done else insertMark c done) cs

/-- The full decomposition of a text. -/
def decompose (cs : List Char) : List Char :=
  orderMarks [] (cs.flatMap fun c => (decomposeChar c.toNat).map Char.ofNat)

/-! ## Composing -/

/-- The character that two characters compose to. -/
def composePair (a b : Char) : Option Char :=
  match Hangul.compose? a.toNat b.toNat with
  | some n => some (Char.ofNat n)
  | none =>
    (decompositions.list.find? fun e =>
      e.2 == [a.toNat, b.toNat] && !compositionExclusions.contains e.1).map (Char.ofNat ·.1)

/-- A text that is being composed. -/
structure Composing where
  /-- What lies before the group that is open, last first. -/
  done : List Char
  /-- The character that the open group starts with. -/
  starter : Option Char
  /-- What follows it and was not composed with it, last first. -/
  marks : List Char
  /-- The class of the last of these. -/
  lastClass : Nat

/-- Adds a character. -/
def Composing.step (s : Composing) (c : Char) : Composing :=
  let k := combiningClass c
  match s.starter with
  | none =>
    if k = 0 then { s with starter := some c } else { s with done := c :: s.done }
  | some a =>
    let free := s.marks = [] ∨ (s.lastClass ≠ 0 ∧ s.lastClass < k)
    match (if free then composePair a c else none) with
    | some b => { s with starter := some b }
    | none =>
      if k = 0 then ⟨s.marks ++ a :: s.done, some c, [], 0⟩
      else { s with marks := c :: s.marks, lastClass := k }

/-- The composed text. -/
def Composing.finish (s : Composing) : List Char :=
  match s.starter with
  | none => s.done.reverse
  | some a => (s.marks ++ a :: s.done).reverse

/-- The composed form of a decomposed text. -/
def compose (cs : List Char) : List Char :=
  (cs.foldl Composing.step ⟨[], none, [], 0⟩).finish

/-- The composed form of a text. -/
def nfc (cs : List Char) : List Char := compose (decompose cs)

end Accounts.Unicode
