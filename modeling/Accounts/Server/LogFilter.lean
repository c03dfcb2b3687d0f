import Accounts.Outbox.Cycle
import Accounts.Settings.Basic
import Accounts.Unicode.Alphanumeric
/-!
# Which lines are logged

A line of the log comes from a target, a path of names joined by `::`, and has a
level.  A filter is a list of directives.  A directive names the targets that it is
for by the text with which they start, and says up to which level their lines are
logged.  Of the directives for a target the one with the longest text counts, and of
those with the same text the last.

A directive is a level alone, for all targets; or a text alone, whose lines are all
logged; or a text, `=` and a level, where no level means all lines.  A directive with a
bracket is about spans of the log, which the server does not have, so that it lets
nothing pass.  A filter with a directive of another form is refused as a whole.
-/

namespace Accounts.Server

open Outbox (Level)

/-- A line of the log. -/
structure LogLine where
  /-- How urgent it is. -/
  level : Level
  /-- Where it comes from. -/
  target : String
  /-- What it says. -/
  message : String
  /-- What it adds to its message. -/
  details : List (String × Json)

/-- The rank of a level; the less urgent it is, the higher. -/
def rank : Level → Nat
  | .error => 1
  | .warn => 2
  | .info => 3

/-- The words for ranks, from the rank that lets nothing pass to the one that lets
everything pass. -/
def rankWords : List String := ["off", "error", "warn", "info", "debug", "trace"]

/-- Reads a rank: a word in any case of its letters, or a number. -/
def rank? (word : String) : Option Nat :=
  match Text.readInteger .nat64 word with
  | .ok n => if n < rankWords.length then some n.toNat else none
  | .error _ => rankWords.findIdx? (· == String.ofList (word.toList.map Char.toLower))

/-- Says up to which rank the lines of some targets are logged. -/
structure Directive where
  /-- The text with which the targets start. -/
  target : String
  /-- The highest rank that is logged. -/
  most : Nat
deriving DecidableEq, Repr

/-- A character with which a directive may start, if it is not about spans. -/
def startsDirective (c : Char) : Bool :=
  Unicode.isAlphanumeric c || c == '_' || c == ':' || c == '-'

/-- Reads the level of a directive. -/
def levelOf? (target level : List Char) : Option Directive :=
  if level.isEmpty then some ⟨String.ofList target, 5⟩
  else (rank? (String.ofList level)).map (⟨String.ofList target, ·⟩)

/-- What follows on the bracket of a directive about spans is well formed. -/
def endsSpan (cs : List Char) : Bool :=
  match cs.dropWhile (· != ']') with
  | [] => false
  | _ :: [] => true
  | _ :: '=' :: level => (levelOf? [] level).isSome
  | _ => false

/-- Reads a directive; one about spans gives no rank. -/
def Directive.parse? (s : String) : Option (Option Directive) :=
  let cs := Text.trimChars s.toList
  match cs with
  | [] => none
  | '[' :: rest => if endsSpan rest then some none else none
  | c :: _ =>
    if startsDirective c then
      let target := cs.takeWhile fun c => c != '=' && c != '['
      match cs.dropWhile fun c => c != '=' && c != '[' with
      | [] => some (some (((rank? (String.ofList cs)).map (⟨"", ·⟩)).getD ⟨String.ofList cs, 5⟩))
      | '=' :: level => (levelOf? target level).map some
      | _ :: rest => if endsSpan rest then some none else none
    else none

/-- Directives, in order. -/
abbrev LogFilter := List Directive

namespace LogFilter

/-- Lets everything pass that is not below the usual level. -/
def usual : LogFilter := [⟨"", 3⟩]

/-- Reads a filter.  Without a directive only errors pass. -/
def parse? (s : String) : Option LogFilter :=
  match (splitCommas s.toList).filter (!·.isEmpty) with
  | [] => some [⟨"", 1⟩]
  | pieces => (pieces.mapM fun p => Directive.parse? (String.ofList p)).map (·.filterMap id)

/-- The directive that counts of two, if both are for a target. -/
def stronger (target : String) (best : Option Directive) (d : Directive) : Option Directive :=
  if d.target.isPrefixOf target then
    match best with
    | some b => if b.target.length ≤ d.target.length then some d else best
    | none => some d
  else best

/-- The line is logged. -/
def passes (f : LogFilter) (line : LogLine) : Bool :=
  match f.foldl (stronger line.target) none with
  | some d => rank line.level ≤ d.most
  | none => false

/-- The filter that a variable asks for. -/
def ofVariable (value : Option String) : LogFilter := (value.bind parse?).getD usual

end LogFilter

end Accounts.Server
