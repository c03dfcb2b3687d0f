import Accounts.Json.Basic
import Accounts.Json.Printer
/-!
# What an event may consist of

The content of an event is made of more kinds of values than JSON has.  A number
outside of 64 bits has no JSON form; a floating-point number that is not finite
becomes `null`; and the keys of a map have to become texts, which works for
texts, whole numbers, truth values and finite numbers.
-/

namespace Accounts.Outbox

/-- The content of an event before it becomes JSON. -/
inductive Payload
  /-- A value that is JSON already. -/
  | json (value : Json)
  /-- No content. -/
  | unit
  /-- A truth value. -/
  | bool (value : Bool)
  /-- A whole number of any size. -/
  | integer (value : Int)
  /-- A floating-point number; nothing stands for one that is not a number. -/
  | float (value : Option Double)
  /-- A text. -/
  | text (value : String)
  /-- A list. -/
  | list (items : List Payload)
  /-- A map. -/
  | map (entries : List (Payload × Payload))

/-- Why content has no JSON form. -/
inductive PayloadFault
  /-- A key of a map cannot become a text. -/
  | keyNotText
  /-- A key of a map is a number that is not finite. -/
  | keyNotFinite
  /-- A whole number does not fit in 64 bits. -/
  | outOfRange
deriving DecidableEq, Repr

/-- The message of a fault. -/
def PayloadFault.message : PayloadFault → String
  | .keyNotText => "key must be a string"
  | .keyNotFinite => "float key must be finite"
  | .outOfRange => "number out of range"

/-- The text of a key. -/
def Payload.key : Payload → Except PayloadFault String
  | .text s => .ok s
  | .json (.string s) => .ok s
  | .integer i => .ok (String.ofList (Json.integerChars i))
  | .bool b => .ok (if b then "true" else "false")
  | .float (some d) =>
    if d.Finite then .ok (String.ofList (Json.doubleChars d)) else .error .keyNotFinite
  | .float none => .error .keyNotFinite
  | _ => .error .keyNotText

mutual

/-- The JSON form of content. -/
def Payload.toJson : Payload → Except PayloadFault Json
  | .json v => .ok v
  | .unit => .ok .null
  | .bool b => .ok (.bool b)
  | .integer i =>
    if -Int.pow 2 63 ≤ i ∧ i < Int.pow 2 64 then .ok (.ofInt i) else .error .outOfRange
  | .float none => .ok .null
  | .float (some d) => .ok (.ofDouble d)
  | .text s => .ok (.string s)
  | .list items => (Payload.listJson items).map .array
  | .map entries => (Payload.entriesJson entries).map .ofFields

/-- The JSON forms of the items of a list. -/
def Payload.listJson : List Payload → Except PayloadFault (List Json)
  | [] => .ok []
  | p :: ps => do
    let v ← Payload.toJson p
    let vs ← Payload.listJson ps
    return v :: vs

/-- The fields of a map. -/
def Payload.entriesJson : List (Payload × Payload) → Except PayloadFault (List (String × Json))
  | [] => .ok []
  | (k, p) :: ps => do
    let name ← k.key
    let v ← Payload.toJson p
    let vs ← Payload.entriesJson ps
    return (name, v) :: vs

end

end Accounts.Outbox
