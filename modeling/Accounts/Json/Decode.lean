import Accounts.Json.Printer
/-!
# Reading domain values from JSON

A decoder reads a value of one type.  A record is read from an object, whose
unknown fields are ignored, or from a list that holds its fields in order.

The fields of an object are looked at in the order of their names, and the first
that is wrong decides the error.  Only when all present fields are right does a
missing one count, the first in the order of the record.  So a record collects
the faults of its fields and keeps the one that counts.
-/

namespace Accounts.Json

/-- Why a value could not be read. -/
inductive DecodeError
  /-- The value has another type. -/
  | wrongType (found : Json) (expected : String)
  /-- The value has the right type and lies outside of it. -/
  | wrongValue (found : Json) (expected : String)
  /-- A list has another length. -/
  | wrongLength (length : Nat) (expected : String)
  /-- A field is missing. -/
  | missingField (name : String)
  /-- A name is none of the known ones. -/
  | unknownName (found : String) (known : List String)
  /-- A text does not have the form that the type asks for. -/
  | malformed (reason : String)

/-- How a character is shown in a message. -/
def shownChar (c : Char) : List Char :=
  if c = '"' then ['\\', '"']
  else if c = '\\' then ['\\', '\\']
  else if c = '\n' then ['\\', 'n']
  else if c = '\r' then ['\\', 'r']
  else if c = '\t' then ['\\', 't']
  else if c = '\x00' then ['\\', '0']
  else if c.toNat < 0x20 ∨ (0x7f ≤ c.toNat ∧ c.toNat < 0xa1) ∨ c.toNat = 0xad then
    '\\' :: 'u' :: '\x7b' :: (Nat.toDigits 16 c.toNat ++ ['\x7d'])
  else [c]

/-- A text as it is shown in a message. -/
def shownText (s : String) : String :=
  String.ofList ('"' :: (s.toList.flatMap shownChar ++ ['"']))

/-- A value as it is named in a message. -/
def described : Json → String
  | .null => "null"
  | .bool b => "boolean `" ++ (if b then "true" else "false") ++ "`"
  | .number (.integer i) => "integer `" ++ String.ofList (integerChars i) ++ "`"
  | .number (.float d) => "floating point `" ++ String.ofList (doubleChars d) ++ "`"
  | .string s => "string " ++ shownText s
  | .array _ => "sequence"
  | .object _ => "map"

/-- The names that were expected, as they are listed in a message. -/
def listedNames : List String → String
  | [] => "there are no variants"
  | [a] => "expected `" ++ a ++ "`"
  | [a, b] => "expected `" ++ a ++ "` or `" ++ b ++ "`"
  | names => "expected one of " ++ ", ".intercalate (names.map fun n => "`" ++ n ++ "`")

/-- The message of an error. -/
def DecodeError.message : DecodeError → String
  | .wrongType v e => "invalid type: " ++ v.described ++ ", expected " ++ e
  | .wrongValue v e => "invalid value: " ++ v.described ++ ", expected " ++ e
  | .wrongLength n e => "invalid length " ++ toString n ++ ", expected " ++ e
  | .missingField name => "missing field `" ++ name ++ "`"
  | .unknownName found known => "unknown variant `" ++ found ++ "`, " ++ listedNames known
  | .malformed reason => reason

/-- Reads values of one type. -/
structure Decoder (α : Type) where
  /-- Reads a value that is present. -/
  read : Json → Except DecodeError α
  /-- The value of a field that is missing, if it may be. -/
  absent : Option α

namespace Decoder

/-- Reads any value. -/
def any : Decoder Json := ⟨.ok, none⟩

/-- Reads a text. -/
def text : Decoder String where
  read
    | .string s => .ok s
    | v => .error (.wrongType v "a string")
  absent := none

/-- Reads a truth value. -/
def flag : Decoder Bool where
  read
    | .bool b => .ok b
    | v => .error (.wrongType v "a boolean")
  absent := none

/-- Reads a signed number of 64 bits. -/
def int64 : Decoder Int where
  read
    | .number (.integer i) =>
      if i < Int.pow 2 63 then .ok i else .error (.wrongValue (ofInt i) "i64")
    | v => .error (.wrongType v "i64")
  absent := none

/-- Reads a value that may be `null` or missing. -/
def optional {α : Type} (d : Decoder α) : Decoder (Option α) where
  read
    | .null => .ok none
    | v => (d.read v).map some
  absent := some none

/-- Reads a list. -/
def list {α : Type} (d : Decoder α) : Decoder (List α) where
  read
    | .array items => items.mapM d.read
    | v => .error (.wrongType v "a sequence")
  absent := none

/-- Reads a text of a certain form. -/
def formed {α ε : Type} (expected : String) (message : ε → String)
    (parse : String → Except ε α) : Decoder α where
  read
    | .string s => (parse s).mapError fun e => .malformed (message e)
    | v => .error (.wrongType v expected)
  absent := none

/-- Reads one of the values of an enumeration by its name, or as an object with
that name and the value `null`. -/
def oneOf {α : Type} (all : List α) (name : α → String) : Decoder α where
  read
    | .string s => pick s
    | .object [(s, v)] => do
      let a ← pick s
      match v with
      | .null => .ok a
      | v => .error (.wrongType v "unit")
    | .object fields => .error (.wrongValue (.object fields) "map with a single key")
    | v => .error (.wrongType v "string or map")
  absent := none
where
  /-- The value of a name. -/
  pick (s : String) : Except DecodeError α :=
    match all.find? fun a => name a == s with
    | some a => .ok a
    | none => .error (.unknownName s (all.map name))

end Decoder

/-! ## Records -/

/-- What is wrong with the fields of an object. -/
inductive FieldFault
  /-- A present field is wrong. -/
  | wrong (name : String) (error : DecodeError)
  /-- A field is missing. -/
  | missing (name : String)

/-- The fault that counts of two, the first belonging to an earlier field. -/
def FieldFault.first : FieldFault → FieldFault → FieldFault
  | .wrong a e, .wrong b e' => if b < a then .wrong b e' else .wrong a e
  | .wrong a e, .missing _ => .wrong a e
  | .missing _, .wrong b e => .wrong b e
  | .missing a, .missing _ => .missing a

/-- The error of a fault. -/
def FieldFault.error : FieldFault → DecodeError
  | .wrong _ e => e
  | .missing name => .missingField name

/-- What is wrong with the items of a list. -/
inductive ItemFault
  /-- An item is wrong. -/
  | wrong (error : DecodeError)
  /-- The list ends after the given number of items. -/
  | short (length : Nat)

/-- Reads the fields of a record. -/
structure Record (α : Type) where
  /-- How many fields there are. -/
  size : Nat
  /-- Reads the fields of an object. -/
  ofFields : List (String × Json) → Except FieldFault α
  /-- Reads the items of a list from the given position on. -/
  ofItems : Nat → List Json → Except ItemFault (α × List Json)

namespace Record

/-- A record without fields. -/
def value {α : Type} (a : α) : Record α :=
  ⟨0, fun _ => .ok a, fun _ items => .ok (a, items)⟩

/-- A record with one field. -/
def field {α : Type} (name : String) (d : Decoder α) : Record α where
  size := 1
  ofFields fields :=
    match fields.lookup name with
    | some v => (d.read v).mapError (.wrong name)
    | none =>
      match d.absent with
      | some a => .ok a
      | none => .error (.missing name)
  ofItems position
    | [] => .error (.short position)
    | v :: rest => ((d.read v).mapError .wrong).map (·, rest)

/-- The fields of one record and then those of another. -/
def andThen {α β : Type} (f : Record (α → β)) (r : Record α) : Record β where
  size := f.size + r.size
  ofFields fields :=
    match f.ofFields fields, r.ofFields fields with
    | .ok g, .ok a => .ok (g a)
    | .ok _, .error e => .error e
    | .error e, .ok _ => .error e
    | .error e, .error e' => .error (e.first e')
  ofItems position items := do
    let (g, rest) ← f.ofItems position items
    let (a, rest) ← r.ofItems (position + f.size) rest
    return (g a, rest)

instance : Pure Record := ⟨value⟩
instance : Seq Record := ⟨fun f r => f.andThen (r ())⟩
instance : Functor Record where
  map f r := (value f).andThen r

/-- Reads a record from an object, or from a list with the fields in order. -/
def decoder {α : Type} (name : String) (r : Record α) : Decoder α where
  read
    | .object fields => (r.ofFields fields).mapError FieldFault.error
    | .array items =>
      match r.ofItems 0 items with
      | .ok (a, []) => .ok a
      | .ok (_, _ :: _) => .error (.wrongLength items.length "fewer elements in array")
      | .error (.wrong e) => .error e
      | .error (.short n) =>
        .error (.wrongLength n ("struct " ++ name ++ " with " ++ toString r.size ++
          (if r.size = 1 then " element" else " elements")))
    | v => .error (.wrongType v ("struct " ++ name))
  absent := none

end Record

end Accounts.Json
