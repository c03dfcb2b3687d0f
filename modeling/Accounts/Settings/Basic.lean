import Accounts.Text.Blank
import Accounts.Text.Integer
import Accounts.Time.Instant
/-!
# Settings

Settings are read from named variables.  A variable that is not set has a default
or is required.  Numbers and truth values are trimmed before they are read; texts
are taken as they are.

The groups are read one after another, and within a group the variables in a fixed
order, so that the first fault is always the same one.  The bounds make settings
that are accepted usable: the period of the relay is not zero, the issuer makes a
valid label, and lifetimes of tokens never reach the last instant.
-/

namespace Accounts

open Text (IntegerFault IntegerRange)

/-! ## Faults -/

/-- What is wrong with the text of a variable. -/
inductive VariableFault
  /-- It is no whole number of its type. -/
  | integer (fault : IntegerFault)
  /-- It is no truth value. -/
  | notBoolean
deriving DecidableEq, Repr

/-- The message of a fault. -/
def VariableFault.message : VariableFault → String
  | .integer f => f.message
  | .notBoolean => "provided string was not `true` or `false`"

/-- Why settings were refused. -/
inductive SettingsError
  /-- A required variable is not set. -/
  | missing (key : String)
  /-- A variable cannot be read. -/
  | invalid (key : String) (fault : VariableFault)
  /-- A number is out of its bounds. -/
  | outOfBounds (key : String) (least greatest : Nat)
  /-- Only one half of a pair of keys is set. -/
  | keysApart
  /-- No key is set. -/
  | noKeys
  /-- The issuer holds a colon. -/
  | issuerColon
  /-- The period of the relay is zero. -/
  | noPeriod
deriving DecidableEq, Repr

namespace SettingsError

/-- What is wrong, in words. -/
def context : SettingsError → String
  | .missing key => key ++ " must be set"
  | .invalid key _ => "Invalid " ++ key
  | .outOfBounds key least greatest =>
    key ++ " must be between " ++ toString least ++ " and " ++ toString greatest
  | .keysApart => "JWT_PRIVATE_KEY and JWT_PUBLIC_KEY must be set together"
  | .noKeys => "JWT_SECRET or JWT_PRIVATE_KEY/JWT_PUBLIC_KEY must be set"
  | .issuerColon => "OTP_ISSUER must not contain ':'"
  | .noPeriod => "OUTBOX_TICK_MS must be positive"

/-- The cause, if it lies in the text of a variable. -/
def cause? : SettingsError → Option String
  | .invalid _ fault => some fault.message
  | _ => none

/-- What is wrong, with its cause. -/
def message (e : SettingsError) : String :=
  match e.cause? with
  | some cause => e.context ++ ": " ++ cause
  | none => e.context

end SettingsError

/-! ## The groups of settings -/

/-- How the database is reached. -/
structure DatabaseSettings where
  /-- The address of the database. -/
  url : String
  /-- The most connections that are kept. -/
  maxConnections : Nat
  /-- The fewest connections that are kept. -/
  minConnections : Nat
  /-- How long to wait for a connection. -/
  acquireTimeout : Span
deriving DecidableEq, Repr

/-- How the message bus is reached. -/
structure KafkaSettings where
  /-- The addresses of the brokers; without any the relay does not run. -/
  brokers : List String
  /-- What is put in front of every topic. -/
  topicPrefix : Option String
  /-- How long a delivery may take. -/
  producerTimeout : Span
deriving DecidableEq, Repr

/-- How tokens are signed. -/
inductive JwtKeys
  /-- With a shared secret. -/
  | secret (text : String)
  /-- With a pair of RSA keys. -/
  | rsaPem (privateKey publicKey : String)
deriving DecidableEq, Repr

/-- How tokens are made. -/
structure JwtSettings where
  /-- The keys. -/
  keys : JwtKeys
  /-- The lifetime of a token for everything. -/
  ttl : Span
  /-- The lifetime of a token for the second step of a login. -/
  twoFaTtl : Span
deriving DecidableEq, Repr

/-- How the second factor works. -/
structure OtpSettings where
  /-- Whether anyone is asked for a second factor. -/
  enabled : Bool
  /-- Who issues the codes. -/
  issuer : String
  /-- How many recovery codes a user gets. -/
  recoveryCodeCount : Nat
  /-- How many steps around the current one are accepted. -/
  skew : Nat
deriving DecidableEq, Repr

/-- How the relay works. -/
structure OutboxSettings where
  /-- The time between two cycles. -/
  tick : Span
deriving DecidableEq, Repr

/-- All settings. -/
structure Settings where
  /-- How the database is reached. -/
  database : DatabaseSettings
  /-- How the message bus is reached. -/
  kafka : KafkaSettings
  /-- How tokens are made. -/
  jwt : JwtSettings
  /-- How the second factor works. -/
  otp : OtpSettings
  /-- How the relay works. -/
  outbox : OutboxSettings
deriving DecidableEq, Repr

/-- The most recovery codes that a user may get. -/
def maxRecoveryCodes : Nat := 100

/-- The longest lifetime of a token in seconds, one year. -/
def maxTokenSeconds : Nat := 365 * 24 * 60 * 60

/-! ## Reading -/

/-- The values of variables. -/
abbrev Variables := String → Option String

namespace Variables

/-- A whole number of the given range. -/
def integerOr (vars : Variables) (key : String) (r : IntegerRange) (default : Nat) :
    Except SettingsError Nat :=
  match vars key with
  | none => .ok default
  | some raw =>
    match Text.readInteger r (Text.trim raw) with
    | .ok i => .ok i.toNat
    | .error f => .error (.invalid key (.integer f))

/-- A truth value. -/
def flagOr (vars : Variables) (key : String) (default : Bool) : Except SettingsError Bool :=
  match vars key with
  | none => .ok default
  | some raw =>
    if Text.trim raw = "true" then .ok true
    else if Text.trim raw = "false" then .ok false
    else .error (.invalid key .notBoolean)

/-- A number between 1 and a greatest one. -/
def boundedOr (vars : Variables) (key : String) (greatest default : Nat) :
    Except SettingsError Nat := do
  let n ← vars.integerOr key .nat64 default
  if n = 0 ∨ greatest < n then throw (.outOfBounds key 1 greatest)
  return n

end Variables

/-- Splits a list of characters at its commas. -/
def splitCommas : List Char → List (List Char)
  | [] => [[]]
  | c :: cs =>
    if c = ',' then [] :: splitCommas cs
    else match splitCommas cs with
      | [] => [[c]]
      | p :: ps => (c :: p) :: ps

theorem splitCommas_ne_nil (cs : List Char) : splitCommas cs ≠ [] := by
  induction cs with
  | nil => simp [splitCommas]
  | cons c cs ih =>
    unfold splitCommas
    split
    · simp
    · split <;> simp

/-- No piece between commas has a comma. -/
theorem comma_notMem_of_mem_splitCommas {cs p : List Char} (h : p ∈ splitCommas cs) : ',' ∉ p := by
  induction cs generalizing p with
  | nil => simp_all [splitCommas]
  | cons c cs ih =>
    unfold splitCommas at h
    split at h
    · rcases List.mem_cons.1 h with rfl | h
      · simp
      · exact ih h
    · split at h <;> grind

/-- The addresses in a list of brokers: its pieces, trimmed, without the empty ones. -/
def brokerList (s : String) : List String :=
  (((splitCommas s.toList).map Text.trimChars).filter (· ≠ [])).map String.ofList

namespace DatabaseSettings

/-- Reads how the database is reached. -/
def read (vars : Variables) : Except SettingsError DatabaseSettings := do
  let some url := vars "DATABASE_URL" | throw (.missing "DATABASE_URL")
  let maxConnections ← vars.integerOr "DATABASE_MAX_CONNECTIONS" .nat32 20
  let minConnections ← vars.integerOr "DATABASE_MIN_CONNECTIONS" .nat32 2
  let timeout ← vars.integerOr "DATABASE_ACQUIRE_TIMEOUT" .nat64 5
  return { url, maxConnections, minConnections, acquireTimeout := .ofSeconds timeout }

end DatabaseSettings

namespace KafkaSettings

/-- Reads how the message bus is reached. -/
def read (vars : Variables) : Except SettingsError KafkaSettings := do
  let timeout ← vars.integerOr "KAFKA_PRODUCER_TIMEOUT" .nat64 5
  return {
    brokers := brokerList ((vars "KAFKA_BROKERS").getD "")
    topicPrefix := (vars "KAFKA_TOPIC_PREFIX").filter fun p => !Text.allBlank p
    producerTimeout := .ofSeconds timeout }

end KafkaSettings

namespace JwtSettings

/-- The keys that are set. -/
def readKeys (vars : Variables) : Except SettingsError JwtKeys :=
  match vars "JWT_PRIVATE_KEY", vars "JWT_PUBLIC_KEY" with
  | some priv, some pub => .ok (.rsaPem priv pub)
  | some _, none | none, some _ => .error .keysApart
  | none, none =>
    match vars "JWT_SECRET" with
    | some secret => if secret = "" then .error .noKeys else .ok (.secret secret)
    | none => .error .noKeys

/-- Reads how tokens are made. -/
def read (vars : Variables) : Except SettingsError JwtSettings := do
  let keys ← readKeys vars
  let ttl ← vars.boundedOr "JWT_TTL_SECONDS" maxTokenSeconds 3600
  let twoFaTtl ← vars.boundedOr "JWT_TWO_FA_TTL_SECONDS" maxTokenSeconds 300
  return { keys, ttl := .ofSeconds ttl, twoFaTtl := .ofSeconds twoFaTtl }

end JwtSettings

namespace OtpSettings

/-- The settings where no variable is set. -/
def default : OtpSettings := ⟨false, "Accounts", 10, 0⟩

/-- Reads how the second factor works. -/
def read (vars : Variables) : Except SettingsError OtpSettings := do
  let issuer := (vars "OTP_ISSUER").getD default.issuer
  if issuer.toList.contains ':' then throw .issuerColon
  let count ← vars.boundedOr "OTP_RECOVERY_CODE_COUNT" maxRecoveryCodes default.recoveryCodeCount
  let enabled ← vars.flagOr "OTP_ENABLED" default.enabled
  let skew ← vars.integerOr "OTP_SKEW" .nat8 default.skew
  return { enabled, issuer, recoveryCodeCount := count, skew }

end OtpSettings

namespace OutboxSettings

/-- Reads how the relay works. -/
def read (vars : Variables) : Except SettingsError OutboxSettings := do
  let ms ← vars.integerOr "OUTBOX_TICK_MS" .nat64 50
  if ms = 0 then throw .noPeriod
  return ⟨.ofMillis ms⟩

end OutboxSettings

namespace Settings

/-- Reads all settings. -/
def read (vars : Variables) : Except SettingsError Settings := do
  let database ← DatabaseSettings.read vars
  let kafka ← KafkaSettings.read vars
  let jwt ← JwtSettings.read vars
  let otp ← OtpSettings.read vars
  let outbox ← OutboxSettings.read vars
  return { database, kafka, jwt, otp, outbox }

end Settings

end Accounts
