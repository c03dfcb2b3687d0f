import Accounts.Text.Blank
import Accounts.Unicode.Alphanumeric
/-!
# Files of variables

A file of variables holds lines of the form `NAME=value`, comments and blank
lines.  A value may be quoted: between single quotes everything stands for
itself, between double quotes and without quotes a backslash escapes and `$NAME`
or a braced name stands for the value of a variable.  A quoted value may go on
over line ends.

A variable that is set already keeps its value, so of two lines for one variable
the first counts.  A line that cannot be read ends the reading; what was read
before it stays.
-/

namespace Accounts.EnvFile

open Text (isBlank dropBlank)

/-! ## Lines -/

/-- How far the quotes of a line are open. -/
inductive Quoting
  /-- Outside of quotes. -/
  | complete
  /-- After a backslash outside of quotes. -/
  | escape
  /-- Between single quotes. -/
  | strong
  /-- After a backslash between single quotes. -/
  | strongEscape
  /-- Between double quotes. -/
  | weak
  /-- After a backslash between double quotes. -/
  | weakEscape
  /-- After a blank outside of quotes. -/
  | blank
deriving DecidableEq, Repr

/-- The state after a character, or nothing where a comment starts. -/
def Quoting.step (q : Quoting) (c : Char) : Option Quoting :=
  match q with
  | .blank =>
    if c = '#' then none
    else some (if c = '\\' then .escape else if c = '"' then .weak
      else if c = '\'' then .strong else .complete)
  | .escape => some .complete
  | .complete =>
    some (if isBlank c ∧ c ≠ '\n' ∧ c ≠ '\r' then .blank
      else if c = '\\' then .escape else if c = '"' then .weak
      else if c = '\'' then .strong else .complete)
  | .weak => some (if c = '\\' then .weakEscape else if c = '"' then .complete else .weak)
  | .weakEscape => some .weak
  | .strong => some (if c = '\\' then .strongEscape else if c = '\'' then .complete else .strong)
  | .strongEscape => some .strong

/-- Reads a piece of a line: the part before a comment, and the state at its end if there
is no comment. -/
def Quoting.scan (q : Quoting) (done : List Char) : List Char → List Char × Option Quoting
  | [] => (done.reverse, some q)
  | c :: cs =>
    match q.step c with
    | none => (done.reverse, none)
    | some next => Quoting.scan next (c :: done) cs

/-- Cuts a text after each line end. -/
def pieces : List Char → List (List Char)
  | [] => []
  | c :: cs =>
    if c = '\n' then [c] :: pieces cs
    else match pieces cs with
      | [] => [[c]]
      | p :: ps => (c :: p) :: ps

/-- A line without its line end. -/
def dropLineEnd (cs : List Char) : List Char :=
  match cs.reverse with
  | '\n' :: '\r' :: r => r.reverse
  | '\n' :: r => r.reverse
  | _ => cs

/-- Joins pieces to lines while quotes are open.  An open line at the end is missing, and
so is all after it: nothing stands for a line that cannot be read. -/
def lines (held : List Char) (q : Quoting) : List (List Char) → List (Option (List Char))
  | [] => if q = .complete then [] else [none]
  | p :: ps =>
    if (dropBlank (held ++ p)).head? = some '#' then some [] :: lines [] .complete ps
    else
      match q.scan [] p with
      | (before, none) => some (held ++ before) :: lines [] .complete ps
      | (_, some .complete) => some (dropLineEnd (held ++ p)) :: lines [] .complete ps
      | (_, some next) => lines (held ++ p) next ps

/-! ## Values -/

/-- Variables that are set, with their values. -/
abbrev Bindings := List (String × String)

/-- Whether a name is being read that stands for a value. -/
inductive Substitution
  /-- No name is being read. -/
  | none
  /-- A name after a dollar sign. -/
  | plain
  /-- A name in braces. -/
  | braced
deriving DecidableEq, Repr

/-- The state of reading a value. -/
structure Reading where
  /-- Between single quotes. -/
  strong : Bool
  /-- Between double quotes. -/
  weak : Bool
  /-- After a backslash. -/
  escaped : Bool
  /-- After a blank that ends the value. -/
  ended : Bool
  /-- Whether a name is being read. -/
  substitution : Substitution
  /-- The name so far, last character first. -/
  name : List Char
  /-- The value so far, last character first. -/
  out : List Char

/-- The value of a variable: of one that is set, else of one read before. -/
def valueOf (set read : Bindings) (name : String) : String :=
  (set.lookup name).getD ((read.lookup name).getD "")

/-- Puts the value of the name that was read. -/
def Reading.substitute (set read : Bindings) (r : Reading) : Reading :=
  { r with
    name := []
    out := (valueOf set read (String.ofList r.name.reverse)).toList.reverse ++ r.out }

/-- The character that an escape stands for. -/
def unescape (c : Char) : Option Char :=
  if c = '\\' ∨ c = '\'' ∨ c = '"' ∨ c = '$' ∨ c = ' ' then some c
  else if c = 'n' then some '\n'
  else none

/-- Reads one character of a value. -/
def Reading.step (set read : Bindings) (r : Reading) (c : Char) : Option Reading :=
  if r.escaped then
    (unescape c).map fun d => { r with escaped := false, out := d :: r.out }
  else if r.strong then
    some (if c = '\'' then { r with strong := false } else { r with out := c :: r.out })
  else if r.substitution ≠ .none then
    if Unicode.isAlphanumeric c then some { r with name := c :: r.name }
    else if r.substitution = .braced then
      if c = '\x7d' then some { r.substitute set read with substitution := .none }
      else some { r with name := c :: r.name }
    else if c = '\x7b' ∧ r.name = [] then some { r with substitution := .braced }
    else if c = '$' then some { r.substitute set read with substitution := .plain }
    else
      let r := r.substitute set read
      some { r with substitution := .none, out := c :: r.out }
  else if c = '$' then some { r with substitution := .plain }
  else if r.weak then
    some (if c = '"' then { r with weak := false }
      else if c = '\\' then { r with escaped := true }
      else { r with out := c :: r.out })
  else
    some (if c = '\'' then { r with strong := true }
      else if c = '"' then { r with weak := true }
      else if c = '\\' then { r with escaped := true }
      else if c = ' ' ∨ c = '\t' then { r with ended := true }
      else { r with out := c :: r.out })

/-- Reads a value from the given state on.  After the value only blanks may follow, and
a comment. -/
def Reading.run (set read : Bindings) (r : Reading) : List Char → Option Reading
  | [] => some r
  | c :: cs =>
    if r.ended then
      if c = ' ' ∨ c = '\t' then Reading.run set read r cs
      else if c = '#' then some r
      else none
    else (r.step set read c).bind fun next => Reading.run set read next cs

/-- Reads a value. -/
def readValue (set read : Bindings) (cs : List Char) : Option String := do
  let r ← (Reading.mk false false false false .none [] []).run set read cs
  if r.substitution = .braced ∨ r.strong ∨ r.weak then none
  else some (String.ofList (r.substitute set read).out.reverse)

/-! ## Entries -/

/-- Reads a name. -/
def readName (cs : List Char) : Option (List Char × List Char) :=
  match cs with
  | c :: _ =>
    if c.isAlpha ∨ c = '_' then
      let ok := fun c : Char => c.isAlphanum || c == '_' || c == '.'
      some (cs.takeWhile ok, cs.dropWhile ok)
    else none
  | [] => none

/-- Reads an equals sign. -/
def readEquals : List Char → Option (List Char)
  | '=' :: cs => some cs
  | _ => none

/-- Reads a name and an equals sign; the word `export` may stand in front. -/
def readHead (cs : List Char) : Option (List Char × List Char) := do
  let (name, rest) ← readName cs
  let rest := dropBlank rest
  match readEquals rest with
  | some after => some (name, after)
  | none =>
    if name = "export".toList then
      let (name, rest) ← readName rest
      let after ← readEquals (dropBlank rest)
      some (name, after)
    else none

/-- What a line says. -/
inductive Entry
  /-- Nothing. -/
  | nothing
  /-- The value of a variable, absent where nothing follows the equals sign. -/
  | binding (name : String) (value : Option String)
deriving DecidableEq, Repr

/-- Reads a line. -/
def readLine (set read : Bindings) (line : List Char) : Option Entry :=
  let cs := dropBlank (dropBlank line.reverse).reverse
  if cs = [] ∨ cs.head? = some '#' then some .nothing
  else do
    let (name, after) ← readHead cs
    let value := dropBlank after
    if value = [] ∨ value.head? = some '#' then
      some (.binding (String.ofList name) none)
    else
      let v ← readValue set read value
      some (.binding (String.ofList name) (some v))

/-- Reads lines in order.  Returns what is set in the end, and whether all lines could be
read. -/
def loadLines (set read : Bindings) : List (Option (List Char)) → Bindings × Bool
  | [] => (set, true)
  | none :: _ => (set, false)
  | some line :: rest =>
    match readLine set read line with
    | none => (set, false)
    | some .nothing => loadLines set read rest
    | some (.binding name value) =>
      let text := value.getD ""
      loadLines (if (set.lookup name).isSome then set else set ++ [(name, text)])
        ((name, text) :: read) rest

/-- Adds the variables of a file to those that are set, and says whether the whole file
could be read. -/
def load (set : Bindings) (text : String) : Bindings × Bool :=
  let cs := text.toList
  let cs := if cs.head? = some '\ufeff' then cs.drop 1 else cs
  loadLines set [] (lines [] .complete (pieces cs))

end Accounts.EnvFile
