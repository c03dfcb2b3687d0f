import Accounts.Json.Token
/-!
# Reading JSON text

The tokens of a text are assembled into a tree by a machine with a stack of open
lists and objects.  A tree keeps what a text says: the fields of an object in
their order, a name as often as it stands there, and a text or number without a
value where it has none.  A tree is a value when nothing in it lacks a value and
it is nested at most 127 deep; of two fields of one name the later counts.
-/

namespace Accounts.Json

/-- What a JSON text says. -/
inductive Tree
  /-- The word `null`. -/
  | null
  /-- A truth value. -/
  | bool (value : Bool)
  /-- A number, absent when it is too large. -/
  | number (value : Option Number)
  /-- A text, absent when it is not made of characters. -/
  | text (value : Option String)
  /-- A list. -/
  | array (items : List Tree)
  /-- An object with its fields as they stand. -/
  | object (fields : List (Option String × Tree))
deriving Inhabited

/-- A list or an object that is still open. -/
inductive Frame
  /-- A list with its items so far, last first. -/
  | array (done : List Tree)
  /-- An object with its fields so far, last first, and the name of the next one. -/
  | object (done : List (Option String × Tree)) (name : Option String)

/-- What may come next. -/
inductive Expect
  /-- A value. -/
  | value
  /-- A value or the end of the list that was just opened. -/
  | valueOrEnd
  /-- A name. -/
  | name
  /-- A name or the end of the object that was just opened. -/
  | nameOrEnd
  /-- The colon after a name. -/
  | colon
  /-- A comma or the end of the innermost open list or object. -/
  | separator
  /-- Nothing: the text is one finished value. -/
  | nothing (result : Tree)

/-- The machine that assembles a tree: what is open, and what may come next. -/
structure Assembly where
  /-- The open lists and objects, innermost first. -/
  stack : List Frame
  /-- What may come next. -/
  expect : Expect

/-- Puts a finished value where it belongs. -/
def Assembly.settle (t : Tree) : List Frame → Assembly
  | [] => ⟨[], .nothing t⟩
  | .array done :: stack => ⟨.array (t :: done) :: stack, .separator⟩
  | .object done name :: stack => ⟨.object ((name, t) :: done) none :: stack, .separator⟩

/-- A token where a value may start. -/
def Assembly.value (stack : List Frame) : Token → Option Assembly
  | .null => some (settle .null stack)
  | .bool b => some (settle (.bool b) stack)
  | .number n => some (settle (.number n) stack)
  | .text s => some (settle (.text s) stack)
  | .openBracket => some ⟨.array [] :: stack, .valueOrEnd⟩
  | .openBrace => some ⟨.object [] none :: stack, .nameOrEnd⟩
  | _ => none

/-- Closes the innermost open list or object. -/
def Assembly.close (t : Token) : List Frame → Option Assembly
  | .array done :: stack =>
    if t = .closeBracket then some (settle (.array done.reverse) stack) else none
  | .object done _ :: stack =>
    if t = .closeBrace then some (settle (.object done.reverse) stack) else none
  | [] => none

/-- A token where a name may stand. -/
def Assembly.name (t : Token) : List Frame → Option Assembly
  | .object done _ :: stack =>
    match t with
    | .text s => some ⟨.object done s :: stack, .colon⟩
    | _ => none
  | _ => none

/-- One step of the machine. -/
def Assembly.step (a : Assembly) (t : Token) : Option Assembly :=
  match a.expect with
  | .value => Assembly.value a.stack t
  | .valueOrEnd =>
    if t = .closeBracket then Assembly.close t a.stack else Assembly.value a.stack t
  | .name => Assembly.name t a.stack
  | .nameOrEnd => if t = .closeBrace then Assembly.close t a.stack else Assembly.name t a.stack
  | .colon => if t = .colon then some { a with expect := .value } else none
  | .separator =>
    match t, a.stack with
    | .comma, .array _ :: _ => some { a with expect := .value }
    | .comma, .object _ _ :: _ => some { a with expect := .name }
    | t, stack => Assembly.close t stack
  | .nothing _ => none

/-- Feeds tokens to the machine. -/
def Assembly.run (a : Assembly) : List Token → Option Assembly
  | [] => some a
  | t :: ts => (a.step t).bind fun b => b.run ts

/-- What a text says, if it is JSON. -/
def tree? (cs : List Char) : Option Tree := do
  let ts ← tokens cs
  let a ← (Assembly.mk [] .value).run ts
  match a.expect with
  | .nothing t => some t
  | _ => none

mutual

/-- The value of a tree, with at most `depth` lists and objects inside each other. -/
def Tree.value? (depth : Nat) : Tree → Option Json
  | .null => some .null
  | .bool b => some (.bool b)
  | .number n => n.map .number
  | .text s => s.map .string
  | .array items =>
    match depth with
    | 0 => none
    | depth + 1 => (Tree.values? depth items).map .array
  | .object fields =>
    match depth with
    | 0 => none
    | depth + 1 => (Tree.fieldValues? depth fields).map ofFields

/-- The values of the items of a list. -/
def Tree.values? (depth : Nat) : List Tree → Option (List Json)
  | [] => some []
  | t :: ts => do
    let v ← Tree.value? depth t
    let vs ← Tree.values? depth ts
    return v :: vs

/-- The values of the fields of an object. -/
def Tree.fieldValues? (depth : Nat) : List (Option String × Tree) → Option (List (String × Json))
  | [] => some []
  | (name, t) :: fs => do
    let k ← name
    let v ← Tree.value? depth t
    let vs ← Tree.fieldValues? depth fs
    return (k, v) :: vs

end

/-- How many lists and objects may stand inside each other. -/
def maxDepth : Nat := 127

/-- The value that a list of characters is the text of. -/
def parseChars (cs : List Char) : Option Json :=
  (tree? cs).bind (Tree.value? maxDepth)

/-- The value that a text is the text of. -/
def parse (s : String) : Option Json := parseChars s.toList

end Accounts.Json
