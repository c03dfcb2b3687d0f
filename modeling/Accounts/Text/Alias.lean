/-!
# Values shown under other names

A value that changes from run to run is shown under a name, which says its kind and
its number within the kind.  The numbers of a kind are given out in order, and a value
keeps the first name that it gets.
-/

namespace Accounts.Text

/-- A value and the name under which it is shown. -/
structure Alias where
  /-- The kind of the value. -/
  kind : String
  /-- The name. -/
  name : String
  /-- The value. -/
  value : String
deriving DecidableEq, Repr

namespace Alias

/-- The name of a kind and a number. -/
def nameOf (kind : String) (n : Nat) : String := "<" ++ kind ++ "-" ++ toString n ++ ">"

/-- Gives a value the next name of its kind, unless it has a name. -/
def add (kind : String) (aliases : List Alias) (value : String) : List Alias :=
  if aliases.any (·.value == value) then aliases
  else aliases ++ [⟨kind, nameOf kind (aliases.countP (·.kind == kind) + 1), value⟩]

/-- The value that is shown under a name. -/
def value? (aliases : List Alias) (name : String) : Option String :=
  (aliases.find? (·.name == name)).map Alias.value

/-- The name under which a value is shown. -/
def name? (aliases : List Alias) (value : String) : Option String :=
  (aliases.find? (·.value == value)).map Alias.name

/-- Shows the values of some kinds within a text under their names. -/
def hide (kinds : List String) (aliases : List Alias) (text : String) : String :=
  aliases.foldl (fun s a =>
    if kinds.contains a.kind && a.value != "" then s.replace a.value a.name else s) text

end Alias

end Accounts.Text
