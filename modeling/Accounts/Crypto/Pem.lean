import Accounts.Bytes.Base64
import Accounts.Text.Blank
/-!
# Keys in armour

A key is written to base 64 between a line that begins it and one that ends it;
both name what it is.  Anything may stand before the first line and after the
last one.  Lines before an empty line are headers.
-/

namespace Accounts.Crypto.Pem

/-- What an armoured text holds. -/
structure Armour where
  /-- What it is. -/
  tag : String
  /-- The bytes. -/
  bytes : List UInt8
deriving DecidableEq, Repr

/-- The characters before and after the first occurrence of a word. -/
def splitOnce (word : List Char) : List Char → Option (List Char × List Char)
  | [] => if word = [] then some ([], []) else none
  | c :: cs =>
    if word.isPrefixOf (c :: cs) then some ([], (c :: cs).drop word.length)
    else (splitOnce word cs).map fun (before, after) => (c :: before, after)

/-- A blank, a tab or a line end. -/
def isSpace (c : Char) : Bool := c == ' ' || c == '\t' || c == '\n' || c == '\r'

/-- Cuts a text at its line ends. -/
def lines (cs : List Char) : List (List Char) :=
  match cs with
  | [] => [[]]
  | c :: cs =>
    if c = '\n' then [] :: lines cs
    else match lines cs with
      | [] => [[c]]
      | l :: ls => (c :: l) :: ls

/-- A line without the blanks at its end. -/
def trimEnd (cs : List Char) : List Char := (Text.dropBlank cs.reverse).reverse

/-- The headers and the data of a body. -/
def splitHeaders (body : List Char) : List Char × List Char :=
  match splitOnce ['\n', '\n'] body with
  | some parts => parts
  | none => (splitOnce ['\r', '\n', '\r', '\n'] body).getD ([], body)

/-- The bytes of a text to base 64 with padding. -/
def decodePadded (cs : List Char) : Option (List UInt8) :=
  let back := cs.reverse
  let pads := (back.takeWhile (· = '=')).length
  let bare := (back.drop pads).reverse
  if pads ≤ 2 ∧ cs.length % 4 = 0 then Bytes.Base64.decode .standard bare else none

/-- Reads the first armoured text. -/
def parse (cs : List Char) : Option Armour := do
  let (_, rest) ← splitOnce "-----BEGIN ".toList cs
  let (tag, rest) ← splitOnce "-----".toList rest
  let (body, rest) ← splitOnce "-----END ".toList (rest.dropWhile isSpace)
  let (tag', _) ← splitOnce "-----".toList rest
  let (headers, data) := splitHeaders body
  if tag = [] ∨ tag ≠ tag' then none
  else if headers ≠ [] ∧ (lines headers).any fun l => !l.contains ':' then none
  else
    let bytes ← decodePadded ((lines data).flatMap trimEnd)
    some ⟨String.ofList tag, bytes⟩

end Accounts.Crypto.Pem
