import Accounts.Outbox.Broker
import Accounts.Outbox.Stored
import Accounts.Server.LogFilter
import Accounts.Settings.EnvFile
import Accounts.Text.Report
import Accounts.Token.Keys
/-!
# Starting the server

The server reads its settings, opens the database, brings its tables to their newest
form, reads the keys for tokens, and sets up what its relay needs, in this order.
The first step that fails ends the start, and nothing of what follows is tried.
Without brokers there is no relay.
-/

namespace Accounts.Server

open Database
open Outbox (Note OutboxError Producer Message)

/-- A question of the server. -/
inductive ServerCall
  /-- Write a line of the log. -/
  | log (line : LogLine)
  /-- Ask the database. -/
  | database (call : SessionCall)
  /-- Hand a message to a producer. -/
  | publish (producer : Producer) (message : Message)

/-- The kinds of replies to the server. -/
def ServerCall.Reply : ServerCall → Type
  | log _ => Unit
  | database c => c.Reply
  | publish _ _ => Except OutboxError Unit

/-- The surroundings of the server. -/
def serverSurroundings : Interface := ⟨ServerCall, ServerCall.Reply⟩

/-- A part of the work of the server. -/
abbrev Serving (α : Type) := Dialogue serverSurroundings α

/-- Why the server cannot start. -/
inductive StartupError
  /-- A setting is wrong. -/
  | settings (error : SettingsError)
  /-- The database cannot be opened. -/
  | database (error : DatabaseError)
  /-- A migration failed. -/
  | migration (error : DatabaseError)
  /-- The keys for tokens cannot be used. -/
  | keys (error : AccountError)
  /-- No producer can be set up. -/
  | producer (error : OutboxError)
deriving Repr

namespace StartupError

/-- What the server could not do. -/
def context : StartupError → String
  | .settings _ => "Failed to load configuration"
  | .database _ => "Failed to connect to PostgreSQL"
  | .migration _ => "Failed to run database migrations"
  | .keys _ => "Failed to initialize JWT keys"
  | .producer _ => "Failed to initialize Kafka producer"

/-- Why it could not, the nearest cause first. -/
def causes : StartupError → List String
  | .settings e => e.context :: e.cause?.toList
  | .database e => e.causes
  | .migration e => ("while executing migrations: " ++ e.message) :: e.causes
  | .keys e => [e.message]
  | .producer e => [e.message]

/-- The report of a start that failed. -/
def report (e : StartupError) : String := "Error: " ++ Text.report e.context e.causes ++ "\n"

end StartupError

/-- A part of the start. -/
abbrev Starting (α : Type) := ExceptT StartupError (Dialogue serverSurroundings) α

/-- The target of the server itself. -/
def serverTarget : String := "account_service"

/-- The target of what is told about settings. -/
def settingsTarget : String := serverTarget ++ "::config"

/-- The target of what is told about the task of the relay. -/
def taskTarget : String := serverTarget ++ "::services::outbox"

/-- The target of what is told about stored envelopes. -/
def storeTarget : String := "transactional_outbox::store"

/-- The target of what the relay tells. -/
def relayTarget : String := "transactional_outbox::relay"

/-- Writes a line of the log. -/
def say (line : LogLine) : Serving Unit := Dialogue.query (I := serverSurroundings) (.log line)

/-- Writes a line that nobody has to act on. -/
def inform (target message : String) : Serving Unit := say ⟨.info, target, message, []⟩

/-- Asks the database. -/
def ask (c : SessionCall) : Serving c.Reply :=
  Dialogue.query (I := serverSurroundings) (.database c)

/-- A session as part of the start. -/
def session {ε α : Type} (fail : ε → StartupError) (work : Session ε α) : Starting α :=
  ExceptT.mk <| (Dialogue.run (I := sessionSurroundings) ask work.run).bind fun r =>
    .done (r.mapError fail)

/-- Runs the migrations in order, each in a transaction of its own. -/
def migrate : List Migration → Session DatabaseError Unit
  | [] => pure ()
  | m :: ms => do
    Session.transaction (fun _ => id) do
      Session.migrate m id
      return (.commit, ())
    migrate ms

/-- What a relay of the server works with. -/
structure RelayPlan where
  /-- The time between two cycles. -/
  tick : Span
  /-- Who takes its messages. -/
  producer : Producer
deriving Repr

/-- Starts the server with the variables that are set and the text of a file with further
ones, and gives the plan of its relay. -/
def start (given : EnvFile.Bindings) (file : Option String) : Starting (Option RelayPlan) := do
  inform serverTarget "Starting Account Service"
  let (vars, complete) := file.elim (given, false) (EnvFile.load given)
  if complete then inform settingsTarget "Loaded .env file for development"
  let settings ← ExceptT.mk (.done ((Settings.read fun k => vars.lookup k).mapError .settings))
  inform serverTarget "Configuration loaded successfully"
  let pool := settings.database
  session .database (Session.connect ⟨pool.url, pool.maxConnections, pool.acquireTimeout⟩ id)
  inform serverTarget <| "Database pool initialized with " ++ toString pool.maxConnections ++
    " max connections"
  session .migration (migrate Migration.all)
  inform serverTarget "Database migrations completed"
  discard <| ExceptT.mk (.done ((Token.Issuer.ofKeys settings.jwt.keys).mapError .keys))
  say ⟨.info, serverTarget, "Account services initialized",
    [("otp_enabled", .bool settings.otp.enabled)]⟩
  if settings.kafka.brokers.isEmpty then
    say ⟨.warn, serverTarget,
      "Kafka brokers not configured; outbox events will accumulate unpublished", []⟩
    return none
  let producer ← ExceptT.mk <| .done <| Except.mapError StartupError.producer <|
    Producer.setUp (",".intercalate settings.kafka.brokers) settings.kafka.topicPrefix
      settings.kafka.producerTimeout.millis
  inform serverTarget "Starting outbox relay"
  return some ⟨settings.outbox.tick, producer⟩

end Accounts.Server
