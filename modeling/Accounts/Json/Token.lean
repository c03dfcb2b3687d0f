import Accounts.Json.Basic
/-!
# JSON tokens

A text is cut into tokens one character at a time.  The cutter is in one of five
modes: between tokens, inside a text, after a backslash, inside the four digits
of an escaped unit, or inside a number or a word.  A number or a word ends at
the first character that cannot belong to it.

A token for a text holds nothing when the text names half of a surrogate pair,
and a token for a number holds nothing when the number is too large.  Such a
token is well formed, so it may stand where its value is not needed.
-/

namespace Accounts.Json

/-- A token of a JSON text. -/
inductive Token
  /-- An opening brace. -/
  | openBrace
  /-- A closing brace. -/
  | closeBrace
  /-- An opening bracket. -/
  | openBracket
  /-- A closing bracket. -/
  | closeBracket
  /-- A colon. -/
  | colon
  /-- A comma. -/
  | comma
  /-- The word `null`. -/
  | null
  /-- The words `true` and `false`. -/
  | bool (value : Bool)
  /-- A quoted text, absent when it is not made of characters. -/
  | text (value : Option String)
  /-- A number, absent when it is too large. -/
  | number (value : Option Number)
deriving DecidableEq, Repr

/-! ## Numbers -/

/-- The value of a decimal digit. -/
def digitValue (c : Char) : Nat := c.toNat - '0'.toNat

/-- The largest significand that is kept. -/
def maxSignificand : Nat := Nat.pow 2 64 - 1

/-- Appends digits to a significand while it fits.  Returns the significand and
the digits that were not appended. -/
def appendDigits (significand : Nat) : List Char → Nat × List Char
  | [] => (significand, [])
  | c :: cs =>
    let next := significand * 10 + digitValue c
    if next ≤ maxSignificand then appendDigits next cs else (significand, c :: cs)

/-- The parts of a number as it is written. -/
structure Literal where
  /-- Whether a minus sign stands in front. -/
  negative : Bool
  /-- The digits before the point. -/
  whole : List Char
  /-- The digits after the point, if there is one. -/
  fraction : Option (List Char)
  /-- The sign and the digits of the exponent, if there is one. -/
  exponent : Option (Bool × List Char)
deriving DecidableEq, Repr

/-- Digits at the front of a list, at least one. -/
def takeDigits (cs : List Char) : Option (List Char × List Char) :=
  match cs.takeWhile Char.isDigit with
  | [] => none
  | ds => some (ds, cs.dropWhile Char.isDigit)

/-- Reads the exponent of a number. -/
def readExponent : List Char → Option (Bool × List Char)
  | '+' :: cs => (takeDigits cs).bind fun (ds, rest) => if rest = [] then some (false, ds) else none
  | '-' :: cs => (takeDigits cs).bind fun (ds, rest) => if rest = [] then some (true, ds) else none
  | cs => (takeDigits cs).bind fun (ds, rest) => if rest = [] then some (false, ds) else none

/-- Reads what follows the digits before the point. -/
def readTail (negative : Bool) (whole : List Char) : List Char → Option Literal
  | [] => some ⟨negative, whole, none, none⟩
  | 'e' :: cs | 'E' :: cs => (readExponent cs).map fun e => ⟨negative, whole, none, some e⟩
  | '.' :: cs =>
    (takeDigits cs).bind fun (ds, rest) =>
      match rest with
      | [] => some ⟨negative, whole, some ds, none⟩
      | 'e' :: cs | 'E' :: cs => (readExponent cs).map fun e => ⟨negative, whole, some ds, some e⟩
      | _ => none
  | _ => none

/-- Reads the parts of a number.  A zero is not followed by other digits. -/
def readLiteral (cs : List Char) : Option Literal :=
  let (negative, body) := match cs with
    | '-' :: rest => (true, rest)
    | _ => (false, cs)
  (takeDigits body).bind fun (whole, rest) =>
    if whole.head? = some '0' ∧ whole.length ≠ 1 then none else readTail negative whole rest

/-- Brings an exponent into the range of 32 bits. -/
def clampExponent (e : Int) : Int := max (-Int.pow 2 31) (min (Int.pow 2 31 - 1) e)

/-- A floating-point number from a significand and an exponent. -/
def floatOf (negative : Bool) (significand : Nat) (exponent : Int) : Option Number :=
  (Double.ofSignificand significand exponent).map fun m => .float ⟨negative, m⟩

/-- The number that a literal stands for.  The significand takes digits while it has
64 bits; digits before the point that do not fit count into the exponent, digits
after it are dropped. -/
def Literal.number? (l : Literal) : Option Number :=
  let (s₀, left) := appendDigits 0 l.whole
  let (s, e₀) := match l.fraction with
    | none => (s₀, (left.length : Int))
    | some ds =>
      let (s₁, dropped) := appendDigits s₀ ds
      (s₁, (left.length : Int) - (ds.length - dropped.length : Nat))
  match l.fraction, l.exponent with
  | none, none =>
    if left ≠ [] then floatOf l.negative s e₀
    else if l.negative then
      if 0 < s ∧ s ≤ Nat.pow 2 63 then some (.integer (-s))
      else some (.float ⟨true, Double.nearest s 1⟩)
    else some (.integer s)
  | _, none => floatOf l.negative s e₀
  | _, some (minus, ds) =>
    let e := ds.foldl (fun n c => n * 10 + digitValue c) 0
    if Nat.pow 2 31 ≤ e then
      if s ≠ 0 ∧ minus = false then none else some (.float ⟨l.negative, 0⟩)
    else floatOf l.negative s (clampExponent (if minus then e₀ - e else e₀ + e))

/-! ## The cutter -/

/-- A text that is being read. -/
structure Partial where
  /-- The characters so far, last first. -/
  done : List Char
  /-- A leading half of a surrogate pair that waits for the other half. -/
  half : Option Nat
  /-- Whether all halves met their other half so far. -/
  sound : Bool
deriving DecidableEq, Repr

/-- A half that waits has waited in vain. -/
def Partial.settle (p : Partial) : Partial :=
  if p.half.isSome then { p with half := none, sound := false } else p

/-- Adds a character. -/
def Partial.push (p : Partial) (c : Char) : Partial :=
  let p := p.settle
  { p with done := c :: p.done }

/-- Adds an escaped unit of 16 bits. -/
def Partial.pushUnit (p : Partial) (n : Nat) : Partial :=
  match p.half with
  | some h =>
    if 0xDC00 ≤ n ∧ n < 0xE000 then
      { p with
        half := none
        done := Char.ofNat (0x10000 + (h - 0xD800) * 0x400 + (n - 0xDC00)) :: p.done }
    else { p with half := none, sound := false }
  | none =>
    if 0xD800 ≤ n ∧ n < 0xDC00 then { p with half := some n }
    else if 0xDC00 ≤ n ∧ n < 0xE000 then { p with sound := false }
    else { p with done := Char.ofNat n :: p.done }

/-- The token of a finished text. -/
def Partial.token (p : Partial) : Token :=
  let p := p.settle
  .text (if p.sound then some (String.ofList p.done.reverse) else none)

/-- What the cutter is doing. -/
inductive Mode
  /-- It stands between two tokens. -/
  | between
  /-- It is inside a quoted text. -/
  | text (p : Partial)
  /-- It has seen a backslash in a text. -/
  | escape (p : Partial)
  /-- It is inside an escaped unit, with the given value and number of digits to come. -/
  | unit (p : Partial) (value left : Nat)
  /-- It is inside a number, with the characters so far, last first. -/
  | number (done : List Char)
  /-- It is inside a word, with the characters so far, last first. -/
  | word (done : List Char)
deriving DecidableEq, Repr

/-- The characters that separate tokens. -/
def isSpace (c : Char) : Bool := c == ' ' || c == '\n' || c == '\r' || c == '\t'

/-- The characters that a number is made of. -/
def isNumberChar (c : Char) : Bool :=
  c.isDigit || c == '-' || c == '+' || c == '.' || c == 'e' || c == 'E'

/-- The characters that a word is made of. -/
def isWordChar (c : Char) : Bool := 'a' ≤ c && c ≤ 'z'

/-- The token of a finished word. -/
def wordToken (done : List Char) : Option Token :=
  match done.reverse with
  | ['n', 'u', 'l', 'l'] => some .null
  | ['t', 'r', 'u', 'e'] => some (.bool true)
  | ['f', 'a', 'l', 's', 'e'] => some (.bool false)
  | _ => none

/-- The token of a finished number. -/
def numberToken (done : List Char) : Option Token :=
  (readLiteral done.reverse).map fun l => .number l.number?

/-- The token that ends where the cutter stands, if any. -/
def Mode.finish : Mode → Option (List Token)
  | .between => some []
  | .number done => (numberToken done).map ([·])
  | .word done => (wordToken done).map ([·])
  | _ => none

/-- Starts at a character that belongs to no earlier token. -/
def start (c : Char) : Option (List Token × Mode) :=
  if isSpace c then some ([], .between)
  else if c = '{' then some ([.openBrace], .between)
  else if c = '}' then some ([.closeBrace], .between)
  else if c = '[' then some ([.openBracket], .between)
  else if c = ']' then some ([.closeBracket], .between)
  else if c = ':' then some ([.colon], .between)
  else if c = ',' then some ([.comma], .between)
  else if c = '"' then some ([], .text ⟨[], none, true⟩)
  else if c = '-' ∨ c.isDigit then some ([], .number [c])
  else if isWordChar c then some ([], .word [c])
  else none

/-- The character that a backslash and this character stand for. -/
def unescape (c : Char) : Option Char :=
  if c = '"' ∨ c = '\\' ∨ c = '/' then some c
  else if c = 'b' then some '\x08'
  else if c = 'f' then some '\x0c'
  else if c = 'n' then some '\n'
  else if c = 'r' then some '\r'
  else if c = 't' then some '\t'
  else none

/-- The value of a hexadecimal digit. -/
def hexValue? (c : Char) : Option Nat :=
  if c.isDigit then some (digitValue c)
  else if 'a' ≤ c ∧ c ≤ 'f' then some (c.toNat - 'a'.toNat + 10)
  else if 'A' ≤ c ∧ c ≤ 'F' then some (c.toNat - 'A'.toNat + 10)
  else none

/-- One step of the cutter: the tokens that end here, and the next mode. -/
def cut (c : Char) : Mode → Option (List Token × Mode)
  | .between => start c
  | .text p =>
    if c = '"' then some ([p.token], .between)
    else if c = '\\' then some ([], .escape p)
    else if c.toNat < 0x20 then none
    else some ([], .text (p.push c))
  | .escape p =>
    if c = 'u' then some ([], .unit p 0 4)
    else (unescape c).map fun d => ([], .text (p.push d))
  | .unit p value left =>
    (hexValue? c).map fun d =>
      let n := value * 16 + d
      if left ≤ 1 then ([], .text (p.pushUnit n)) else ([], .unit p n (left - 1))
  | .number done =>
    if isNumberChar c then some ([], .number (c :: done))
    else do
      let ended ← numberToken done
      let (ts, next) ← start c
      return (ended :: ts, next)
  | .word done =>
    if isWordChar c then some ([], .word (c :: done))
    else do
      let ended ← wordToken done
      let (ts, next) ← start c
      return (ended :: ts, next)

/-- The tokens of a text, from the given mode on. -/
def tokensFrom (mode : Mode) : List Char → Option (List Token)
  | [] => mode.finish
  | c :: cs => do
    let (ts, next) ← cut c mode
    let rest ← tokensFrom next cs
    return ts ++ rest

/-- The tokens of a text. -/
def tokens (cs : List Char) : Option (List Token) := tokensFrom .between cs

end Accounts.Json
