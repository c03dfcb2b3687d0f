import Accounts.Text.Integer
import Accounts.Time.Rfc3339
/-!
# The commands of the operator's tool

An operator puts failed envelopes back, deletes delivered ones, or looks at the
backlog.  A command line is a command with its arguments, and then the address of
the database.  The arguments are read before the database is opened.
-/

namespace Accounts.Tool

/-- What an operator can ask for. -/
inductive Command
  /-- Put the failed envelopes back that were stored at an instant or later. -/
  | requeueErrors (since : Instant)
  /-- Put the failed envelopes back whose numbers lie in a range. -/
  | requeueRange (least most : Int)
  /-- Delete the delivered envelopes that were last changed before so many days ago. -/
  | purgeDone (days : Int)
  /-- Look at the backlog. -/
  | stats
deriving DecidableEq, Repr

/-- Why a command line is refused. -/
inductive Refusal
  /-- It is no command, or the number of arguments is wrong. -/
  | usage
  /-- An argument is no instant. -/
  | instant (fault : InstantFault)
  /-- An argument is no whole number. -/
  | number (fault : Text.IntegerFault)
  /-- The range is empty. -/
  | emptyRange
deriving DecidableEq, Repr

/-- The message of a refusal. -/
def Refusal.message : Refusal → String
  | .usage => "\n".intercalate [
      "Usage:",
      "  outbox-cli requeue-errors <rfc3339_ts> <DATABASE_URL>",
      "  outbox-cli requeue-range <from_id> <to_id> <DATABASE_URL>",
      "  outbox-cli purge-done <older_than_days> <DATABASE_URL>",
      "  outbox-cli stats <DATABASE_URL>"]
  | .instant fault => "Error: ParseError(" ++ fault.name ++ ")"
  | .number fault => "Error: ParseIntError \x7b kind: " ++ fault.name ++ " \x7d"
  | .emptyRange => "from_id must not be greater than to_id"

/-- Reads a whole number. -/
def readNumber (s : String) : Except Refusal Int :=
  (Text.readInteger .int64 s).mapError .number

/-- Reads a command line, and gives the command and the address of the database. -/
def Command.parse : List String → Except Refusal (Command × String)
  | ["requeue-errors", since, address] => do
    let t ← (Instant.parseStrict since).mapError .instant
    return (.requeueErrors t, address)
  | ["requeue-range", least, most, address] => do
    let a ← readNumber least
    let b ← readNumber most
    if a ≤ b then return (.requeueRange a b, address) else throw .emptyRange
  | ["purge-done", days, address] => do
    return (.purgeDone (← readNumber days), address)
  | ["stats", address] => .ok (.stats, address)
  | _ => .error .usage

end Accounts.Tool
