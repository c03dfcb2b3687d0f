import Accounts.Directory.Fault
import Accounts.Operation.Basic
import Accounts.Token.Signed
/-!
# Operations in memory

All that an operation asks, kept in memory: a directory of users, an engine for the
second factor and a signer of tokens.  Faults can be armed for requests to the
directory, and signing can be switched off.
-/

namespace Accounts

/-- An engine for the second factor. -/
inductive OtpEngine
  /-- Codes depend on the time. -/
  | timed (settings : Otp.Totp)
  /-- Secrets are numbered. -/
  | numbered (engine : Otp.Numbered)

namespace OtpEngine

/-- Replies to a request, if the engine can. -/
def reply (e : OtpEngine) (c : Otp.Chance) (q : OtpCall) :
    Option (Except AccountError q.Result) × OtpEngine :=
  match e with
  | timed t => (some (t.reply c q), e)
  | numbered n => let (r, n) := n.reply q; (r.map .ok, numbered n)

/-- The current code of a secret. -/
def code? (e : OtpEngine) (seconds : UInt64) (secret : String) : Option String :=
  match e with
  | timed t => (t.codeAt secret seconds).toOption
  | numbered _ => Otp.Numbered.code? secret

end OtpEngine

/-- The surroundings of operations in memory. -/
structure ServiceMemory where
  /-- The users and their outbox. -/
  directory : Directory
  /-- What goes wrong with the next request of a name. -/
  faults : List (String × DirectoryFault)
  /-- The engine for the second factor. -/
  engine : OtpEngine
  /-- What the engine takes from outside. -/
  chance : Otp.Chance
  /-- Who signs tokens. -/
  issuer : Token.Issuer
  /-- Tokens can be signed. -/
  signing : Bool
  /-- The instant that the outbox writes down. -/
  clock : Instant

namespace ServiceMemory

/-- Replies to a request to the directory. -/
def replyUsers (m : ServiceMemory) (c : DirectoryCall) :
    Except AccountError c.Result × ServiceMemory :=
  match m.faults.lookup c.name with
  | none => let (r, d) := m.directory.reply m.clock c; (r, { m with directory := d })
  | some f =>
    let (r, d) := m.directory.replyFaulty m.clock f c
    (r, { m with directory := d, faults := m.faults.filter (·.1 != c.name) })

/-- Signs a token. -/
def replySign (m : ServiceMemory) (c : Claims) : Except AccountError String :=
  if m.signing then m.issuer.issue c else .error (.jwt "signing unavailable")

/-- Replies to a question, if the engine can. -/
def reply (m : ServiceMemory) :
    (c : ServiceCall) → Option (Except AccountError c.Result) × ServiceMemory
  | .users c => let (r, m) := m.replyUsers c; (some r, m)
  | .otp q => let (r, e) := m.engine.reply m.chance q; (r, { m with engine := e })
  | .sign c => (some (m.replySign c), m)

/-- Runs a dialogue up to its end, or up to a question without a reply. -/
def runDialogue {α : Type} (m : ServiceMemory) :
    Dialogue serviceSurroundings α → Option α × ServiceMemory
  | .done a => (some a, m)
  | .ask q next =>
    match m.reply q with
    | (none, m) => (none, m)
    | (some r, m) => m.runDialogue (next r)

/-- Runs an operation. -/
def run {α : Type} (m : ServiceMemory) (op : Operation α) :
    Option (Except AccountError α) × ServiceMemory := m.runDialogue op.run

end ServiceMemory

end Accounts
