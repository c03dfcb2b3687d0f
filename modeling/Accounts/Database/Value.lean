import Accounts.Database.Error
import Accounts.Json.Basic
import Accounts.Outbox.Envelope
/-!
# Values and rows

Statements take values and get rows of values back.  A row is read column by
column, each with a type in mind; the first column that cannot be read decides the
error.  The type of a column is looked at only when the column is not null.

The database keeps instants to the microsecond, counted from the start of the year
2000; what is finer is cut off toward that point.
-/

namespace Accounts.Database

/-- A value that is not null. -/
inductive Value
  /-- A whole number. -/
  | integer (value : Int)
  /-- A text. -/
  | text (value : String)
  /-- One of the names of an enumeration. -/
  | label (enumeration name : String)
  /-- A truth value. -/
  | flag (value : Bool)
  /-- A JSON value. -/
  | json (value : Json)
  /-- An instant. -/
  | instant (value : Instant)
  /-- A list of texts. -/
  | texts (items : List String)
deriving Repr

/-- The enumeration of the states of a user. -/
def userStatusType : String := "user_status"

/-- The enumeration of the states of an envelope. -/
def outboxStatusType : String := "outbox_status"

/-- The name that the database has for the type of a value. -/
def Value.typeName : Value → String
  | .integer _ => "INT8"
  | .text _ => "TEXT"
  | .label enumeration _ => enumeration
  | .flag _ => "BOOL"
  | .json _ => "JSONB"
  | .instant _ => "TIMESTAMPTZ"
  | .texts _ => "TEXT[]"

/-- The second at which the database starts to count. -/
def epochSecond : Int := 946684800

/-- The instant that the database keeps. -/
def kept (t : Instant) : Instant :=
  let nanos := (t.seconds - epochSecond) * nanosPerSecond + t.nanos
  let micros := nanos.tdiv 1000
  ⟨epochSecond + micros.fdiv 1000000, (micros.fmod 1000000).toNat * 1000⟩

/-- An instant as the database keeps it. -/
def Value.ofInstant (t : Instant) : Value := .instant (kept t)

/-- A column of a row: its name and its value, if it is not null. -/
abbrev Cell := String × Option Value

/-- A row. -/
abbrev Row := List Cell

/-- How the value of a column is read. -/
structure Column (α : Type) where
  /-- The type that is wanted, in the words of a fault. -/
  wanted : String
  /-- The name that the database has for that type. -/
  sqlWanted : String
  /-- Reads a value, if its type fits. -/
  read : Value → Option (Except ColumnFault α)
  /-- What a null is read as. -/
  absent : Except ColumnFault α

namespace Column

/-- A column of whole numbers. -/
def integer : Column Int where
  wanted := "i64"
  sqlWanted := "INT8"
  read
    | .integer i => some (.ok i)
    | _ => none
  absent := .error .unexpectedNull

/-- A column of texts. -/
def text : Column String where
  wanted := "alloc::string::String"
  sqlWanted := "TEXT"
  read
    | .text s => some (.ok s)
    | _ => none
  absent := .error .unexpectedNull

/-- A column of truth values. -/
def flag : Column Bool where
  wanted := "bool"
  sqlWanted := "BOOL"
  read
    | .flag b => some (.ok b)
    | _ => none
  absent := .error .unexpectedNull

/-- A column of JSON values. -/
def json : Column Json where
  wanted := "serde_json::value::Value"
  sqlWanted := "JSONB"
  read
    | .json v => some (.ok v)
    | _ => none
  absent := .error .unexpectedNull

/-- A column of instants. -/
def instant : Column Instant where
  wanted := "chrono::datetime::DateTime<chrono::offset::utc::Utc>"
  sqlWanted := "TIMESTAMPTZ"
  read
    | .instant t => some (.ok t)
    | _ => none
  absent := .error .unexpectedNull

/-- A column of lists of texts. -/
def texts : Column (List String) where
  wanted := "alloc::vec::Vec<alloc::string::String>"
  sqlWanted := "TEXT[]"
  read
    | .texts items => some (.ok items)
    | _ => none
  absent := .error .unexpectedNull

/-- A column of names of an enumeration. -/
def label {α : Type} (wanted typeName enumeration : String) (all : List α) (name : α → String) :
    Column α where
  wanted
  sqlWanted := enumeration
  read
    | .label e n =>
      if e = enumeration then
        match all.find? (name · == n) with
        | some a => some (.ok a)
        | none => some (.error (.unknownName n typeName))
      else none
    | _ => none
  absent := .error .unexpectedNull

/-- A column that may be null. -/
def optional {α : Type} (c : Column α) : Column (Option α) where
  wanted := "core::option::Option<" ++ c.wanted ++ ">"
  sqlWanted := c.sqlWanted
  read v := (c.read v).map (·.map some)
  absent := .ok none

/-- A column of states of a user. -/
def userStatus : Column UserStatus :=
  label "account_service::models::user::UserStatus" "UserStatus" userStatusType UserStatus.all
    UserStatus.name

/-- A column of states of an envelope. -/
def outboxStatus : Column Outbox.Status :=
  label "transactional_outbox::OutboxStatus" "OutboxStatus" outboxStatusType Outbox.Status.all
    Outbox.Status.name

/-- Reads what stands in a column. -/
def readCell {α : Type} (c : Column α) : Option Value → Except ColumnFault α
  | none => c.absent
  | some v => (c.read v).getD (.error (.wrongType c.wanted c.sqlWanted v.typeName))

end Column

namespace Row

/-- Reads the column of a name.  Of two columns of one name the later counts. -/
def read {α : Type} (r : Row) (name : String) (c : Column α) : Except DatabaseError α :=
  match r.reverse.lookup name with
  | none => .error (.columnNotFound name)
  | some cell => (c.readCell cell).mapError (.columnDecode ("\"" ++ name ++ "\""))

/-- Reads the first column, whatever its name. -/
def readFirst {α : Type} (r : Row) (c : Column α) : Except DatabaseError α :=
  match r with
  | [] => .error (.columnOutOfRange 0 0)
  | (_, cell) :: _ => (c.readCell cell).mapError (.columnDecode "0")

/-- Reads a user. -/
def user (r : Row) : Except DatabaseError User := do
  return {
    id := ← r.read "id" .integer
    publicId := ← r.read "public_id" .text
    email := ← r.read "email" .text
    firstName := ← r.read "first_name" .text
    lastName := ← r.read "last_name" .text
    passwordHash := ← r.read "password_hash" .text
    status := ← r.read "status" .userStatus
    activationCode := ← r.read "activation_code" (.optional .text)
    resetPasswordCode := ← r.read "reset_password_code" (.optional .text)
    otpSecret := ← r.read "otp_secret" (.optional .text)
    otpRecoveryCodes := ← r.read "otp_recovery_codes" .texts
    otpEnabled := ← r.read "otp_enabled" .flag
    createdAt := ← r.read "created_at" .instant
    updatedAt := ← r.read "updated_at" .instant }

/-- Reads an envelope. -/
def envelope (r : Row) : Except DatabaseError Outbox.Envelope := do
  return {
    id := ← r.read "id" .integer
    topic := ← r.read "topic" .text
    payload := ← r.read "payload" .json
    status := ← r.read "status" .outboxStatus
    createdAt := ← r.read "created_at" .instant
    updatedAt := ← r.read "updated_at" .instant }

end Row

end Accounts.Database
