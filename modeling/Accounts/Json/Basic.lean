import Accounts.Number.Double
/-!
# JSON values

Numbers are whole numbers of 64 bits, signed or unsigned, or finite
floating-point numbers.  The fields of an object are kept in the order of their
names (by code point, which is also the order of their bytes), each name once.
-/

namespace Accounts

/-- A number of a JSON value. -/
inductive Json.Number
  /-- A whole number between `-2^63` and `2^64 - 1`. -/
  | integer (value : Int)
  /-- A finite floating-point number. -/
  | float (value : Double)
deriving DecidableEq, Repr

/-- A JSON value. -/
inductive Json
  /-- The literal `null`. -/
  | null
  /-- The literals `true` and `false`. -/
  | bool (value : Bool)
  /-- A number. -/
  | number (value : Json.Number)
  /-- A text. -/
  | string (value : String)
  /-- A list of values. -/
  | array (items : List Json)
  /-- Named values, in the order of their names. -/
  | object (fields : List (String × Json))
deriving Inhabited, Repr

namespace Json

/-- Puts a field at its place, in the stead of a field of the same name. -/
def insertField {α : Type} (name : String) (value : α) :
    List (String × α) → List (String × α)
  | [] => [(name, value)]
  | (other, v) :: rest =>
    if name = other then (name, value) :: rest
    else if name < other then (name, value) :: (other, v) :: rest
    else (other, v) :: insertField name value rest

/-- Fields in the order of their names.  Of two fields of one name the later stays. -/
def sortFields {α : Type} (fields : List (String × α)) : List (String × α) :=
  fields.foldl (fun sorted f => insertField f.1 f.2 sorted) []

/-- The object with the given fields. -/
def ofFields (fields : List (String × Json)) : Json :=
  .object (sortFields fields)

/-- The value of a field. -/
def field? (name : String) : Json → Option Json
  | .object fields => fields.lookup name
  | _ => none

/-- A whole number as a value. -/
def ofInt (i : Int) : Json := .number (.integer i)

/-- A natural number as a value. -/
def ofNat (n : Nat) : Json := .number (.integer n)

/-- A text or `null`. -/
def ofText? (s : Option String) : Json := s.elim .null .string

/-- A floating-point number as a value, `null` where it is not finite. -/
def ofDouble (d : Double) : Json :=
  if d.Finite then .number (.float d) else .null

/-- A list of texts as a value. -/
def ofTexts (xs : List String) : Json := .array (xs.map .string)

/-- A field that was put is found, and the others as before. -/
theorem lookup_insertField {α : Type} (name other : String) (value : α)
    (fields : List (String × α)) :
    (insertField name value fields).lookup other =
      if other = name then some value else fields.lookup other := by
  induction fields with
  | nil => by_cases h : other = name <;> simp [insertField, List.lookup_cons, h, beq_false_of_ne]
  | cons f fs ih =>
    obtain ⟨k, v⟩ := f
    unfold insertField
    by_cases h : other = name
    · subst h
      split
      · simp
      · split <;> grind
    · have hb := beq_false_of_ne h
      split
      · subst_vars
        simp [List.lookup_cons, hb]
      · split <;> simp [List.lookup_cons, hb, h, ih]

mutual

/-- The value with every text in it replaced; the names of fields stay. -/
def mapTexts (f : String → String) : Json → Json
  | .string s => .string (f s)
  | .array items => .array (mapTextsItems f items)
  | .object fields => .object (mapTextsFields f fields)
  | v => v

/-- The items of a list with every text in them replaced. -/
def mapTextsItems (f : String → String) : List Json → List Json
  | [] => []
  | v :: vs => mapTexts f v :: mapTextsItems f vs

/-- The fields of an object with every text in them replaced. -/
def mapTextsFields (f : String → String) : List (String × Json) → List (String × Json)
  | [] => []
  | (k, v) :: fs => (k, mapTexts f v) :: mapTextsFields f fs

end

end Json

end Accounts
