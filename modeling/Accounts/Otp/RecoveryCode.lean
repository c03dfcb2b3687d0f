import Accounts.Account.Error
import Std.Data.HashSet
/-!
# Recovery codes

A recovery code is a number of six digits that does not start with a zero.  A set
of codes is collected from random draws: a draw that came before is dropped, and
the collection is complete when it has the wanted size.
-/

namespace Accounts.Otp.RecoveryCode

/-- The smallest code. -/
def least : Nat := 100000

/-- The largest code. -/
def greatest : Nat := 999999

/-- How many codes there are. -/
def available : Nat := greatest - least + 1

/-- Collects `wanted` different draws in the order of their first appearance; nothing
results when the draws do not suffice. -/
def collect (seen : Std.HashSet Nat) (wanted : Nat) : List Nat → Option (List Nat)
  | [] => if wanted = 0 then some [] else none
  | d :: ds =>
    match wanted with
    | 0 => some []
    | more + 1 =>
      if seen.contains d then collect seen (more + 1) ds
      else (collect (seen.insert d) more ds).map (d :: ·)

/-- Refuses a set that is larger than the number of codes. -/
def checkCount (count : Nat) : Except AccountError Unit :=
  if available < count then
    .error (.internal ("Cannot generate " ++ toString count ++ " distinct recovery codes, only " ++
      toString available ++ " exist"))
  else .ok ()

/-- A set of codes from random draws. -/
def generate (count : Nat) (draws : List Nat) : Except AccountError (Option (List String)) := do
  checkCount count
  return (collect ∅ count draws).map fun ds => ds.map toString

end Accounts.Otp.RecoveryCode
