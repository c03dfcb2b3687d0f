import Accounts.Database.Script
import Accounts.Json.Decode
/-!
# Scripts written as JSON

A script is a list of replies.  A reply tells how many rows a statement changed, or
which rows it shows, or how the database rejects it.  Rows of users and of envelopes
are objects, and a field that is left out is null; for any other rows the columns
are listed with their types.

Where a JSON value is expected, an object whose field `<repeat>` lists a text and a
number stands for the text written so many times.
-/

namespace Accounts.Database

open Json (DecodeError Decoder)

namespace ScriptFormat

/-- The field of a name; a field that is left out is null. -/
def field (name : String) (j : Json) : Json := (j.field? name).getD .null

/-- A JSON value, or a long text. -/
def longText (j : Json) : Json :=
  match j.field? "<repeat>" with
  | some (.array [.string unit, .number (.integer count)]) =>
    .string (String.join (List.replicate count.toNat unit))
  | _ => j

/-- Reads a value of a type that is not null. -/
def value (type : String) (j : Json) : Except DecodeError Value :=
  match type with
  | "int8" => Value.integer <$> Decoder.int64.read j
  | "text" => Value.text <$> Decoder.text.read j
  | "bool" => Value.flag <$> Decoder.flag.read j
  | "jsonb" => .ok (.json (longText j))
  | "timestamptz" => Value.ofInstant <$> Instant.decoder.read j
  | "text[]" => Value.texts <$> (Decoder.list .text).read j
  | enumeration => Value.label enumeration <$> Decoder.text.read j

/-- Reads the value of a column of a type. -/
def cell (name type : String) (j : Json) : Except DecodeError Cell :=
  match j with
  | .null => .ok (name, none)
  | j => (value type j).map fun v => (name, some v)

/-- The type of a column of users or envelopes. -/
def columnType (status : String) : String → String
  | "id" => "int8"
  | "status" => status
  | "payload" => "jsonb"
  | "otp_recovery_codes" => "text[]"
  | "otp_enabled" => "bool"
  | "created_at" | "updated_at" => "timestamptz"
  | _ => "text"

/-- Reads a row with the given columns. -/
def objectRow (columns status : String) (j : Json) : Except DecodeError Row :=
  (columns.splitOn ", ").mapM fun c => cell c (columnType status c) (field c j)

/-- Reads a column: its name and its type. -/
def column (j : Json) : Except DecodeError (String × String) := do
  match ← (Decoder.list .text).read j with
  | [name, type] => return (name, type)
  | _ => throw (.malformed "a column has a name and a type")

/-- Reads a row whose columns are listed. -/
def listedRow (columns : List (String × String)) (j : Json) : Except DecodeError Row := do
  (columns.zip (← (Decoder.list .any).read j)).mapM fun (c, v) => cell c.1 c.2 v

/-- Reads an answer. -/
def answer (j : Json) : Except DecodeError Answer := do
  match field "users" j, field "envelopes" j, field "rows" j with
  | .array rows, _, _ =>
    shown (← rows.mapM (objectRow Statement.userColumns userStatusType))
  | _, .array rows, _ =>
    shown (← rows.mapM (objectRow Statement.envelopeColumns outboxStatusType))
  | _, _, .array rows => do
    let columns ← (← (Decoder.list .any).read (field "cols" j)).mapM column
    shown (← rows.mapM (listedRow columns))
  | _, _, _ =>
    let affected ← (Decoder.optional .int64).read (field "affected" j)
    return ⟨(affected.getD 0).toNat, []⟩
where
  /-- The answer that shows rows. -/
  shown (rows : List Row) : Except DecodeError Answer := .ok ⟨rows.length, rows⟩

/-- Reads how the database rejects a statement. -/
def rejection (j : Json) : Except DecodeError DatabaseError := do
  return .rejected (← Decoder.text.read (field "code" j))
    (← Decoder.text.read (field "message" j))
    (← (Decoder.optional .text).read (field "constraint" j))

/-- Reads a reply. -/
def reply (j : Json) : Except DecodeError ScriptedReply := do
  let result ← match field "error" j with
    | .null => Except.ok <$> answer j
    | e => Except.error <$> rejection e
  return ⟨← (Decoder.optional .text).read (field "on" j),
    ← (Decoder.optional .text).read (field "for" j), result⟩

/-- Reads a script; where there is none, no reply is left. -/
def replies : Decoder (List ScriptedReply) where
  read
    | .null => .ok []
    | j => do (← (Decoder.list .any).read j).mapM reply
  absent := none

end ScriptFormat

end Accounts.Database
