import Accounts.Domain.Direction
import Accounts.Domain.Mapping
import Accounts.Domain.Punycode
import Accounts.Unicode.Mark
import Accounts.Unicode.Normal
/-!
# International domain names in ASCII

`toAscii` writes a domain name with ASCII characters only, or refuses it.  Each
character meets its fate, the result is composed, and each label is looked at: a
label that starts with `xn--` is read back first.  A label must not start with a
mark and must be made of characters that are kept.  In a name with a label that
runs from right to left every label must read one way only.

A name of plain lower-case labels is its own ASCII form.
-/

namespace Accounts.Domain

/-- Why a name was refused is not told, only whether. -/
structure Verdict where
  /-- The labels so far, last first. -/
  labels : List (List Char)
  /-- Whether everything was right so far. -/
  sound : Bool
  /-- Whether a label runs from right to left. -/
  rightToLeft : Bool

/-- Splits a list of characters at its dots. -/
def labelsOf : List Char → List (List Char)
  | [] => [[]]
  | c :: cs =>
    if c = '.' then [] :: labelsOf cs
    else match labelsOf cs with
      | [] => [[c]]
      | l :: ls => (c :: l) :: ls

/-- Joins labels with dots. -/
def joinLabels : List (List Char) → List Char
  | [] => []
  | [l] => l
  | l :: ls => l ++ '.' :: joinLabels ls

/-- The marker of a label that is written in ASCII. -/
def marker : List Char := ['x', 'n', '-', '-']

/-- The characters of a name after each met its fate, and whether none was refused. -/
def mapped (cs : List Char) : List Char × Bool :=
  (cs.flatMap fun c =>
    match fate c with
    | .replace ds => ds
    | .drop => []
    | .keep | .refuse => [c],
   cs.all fun c => fate c ≠ .refuse)

/-- A label that may stand in a name. -/
def isSound (label : List Char) : Bool :=
  (match label with
  | [] => true
  | c :: _ => !Unicode.isMark c) &&
  label.all fun c => fate c == .keep

/-- Looks at one label. -/
def Verdict.look (v : Verdict) (label : List Char) : Verdict :=
  if marker.isPrefixOf label then
    match Punycode.decode (label.drop 4) with
    | some cs =>
      { labels := cs :: v.labels
        sound := v.sound && Unicode.nfc cs == cs && isSound cs
        rightToLeft := v.rightToLeft || hasRightToLeft cs }
    | none => { v with labels := label :: v.labels, sound := false, rightToLeft := true }
  else
    { labels := label :: v.labels
      sound := v.sound && isSound label
      rightToLeft := v.rightToLeft || hasRightToLeft label }

/-- The ASCII form of a label. -/
def asciiLabel (label : List Char) : List Char :=
  if label.all fun c => c.toNat < 0x80 then label else marker ++ Punycode.encode label

/-- A label that needs no treatment. -/
def isPlainLabel (label : List Char) : Bool :=
  label.all (fun c => c == '-' || c.isLower || c.isDigit) &&
    label.head? != some '-' && label.getLast? != some '-' && !marker.isPrefixOf label

/-- The ASCII form of a domain name. -/
def toAscii (cs : List Char) : Option (List Char) :=
  if (labelsOf cs).all isPlainLabel then some cs
  else
    let (kept, sound) := mapped cs
    let v := (labelsOf (Unicode.nfc kept)).foldl Verdict.look ⟨[], sound, false⟩
    if v.sound && (!v.rightToLeft || v.labels.all readsOneWay) then
      some (joinLabels (v.labels.reverse.map asciiLabel))
    else none

end Accounts.Domain
