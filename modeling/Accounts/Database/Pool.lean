import Accounts.Time.Instant
/-!
# Pools of connections

A pool opens connections to the database at an address when they are needed, up to
a greatest number, and whoever needs one waits for a limited time.  An address
starts with a scheme.
-/

namespace Accounts.Database

/-- A pool of connections. -/
structure Pool where
  /-- The address of the database. -/
  address : String
  /-- The greatest number of connections. -/
  connections : Nat
  /-- How long one waits for a connection. -/
  patience : Span
deriving DecidableEq, Repr

namespace Pool

/-- The pool for an address when nothing else is said. -/
def ofAddress (address : String) : Pool := ⟨address, 10, .ofSeconds 30⟩

/-- An address has a scheme: a letter, then letters, digits and some marks, up to a colon. -/
def hasScheme (address : String) : Bool :=
  match address.toList.dropWhile (·.toNat ≤ 0x20) with
  | [] => false
  | c :: cs =>
    c.isAlpha &&
      (cs.dropWhile fun d => d.isAlphanum || ['+', '-', '.'].contains d).head? == some ':'

/-- The pool can hand a connection out. -/
def isUsable (p : Pool) : Bool := p.connections != 0 && !p.patience.isZero

example : hasScheme "postgres://accounts" = true := by decide
example : hasScheme "nope" = false := by decide

end Pool

end Accounts.Database
