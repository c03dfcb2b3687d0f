/-!
# Reports of errors

An error is reported with its causes, the nearest first.  A single cause stands by
itself; several are numbered from 0 on.  The further lines of a cause are indented
like its first.
-/

namespace Accounts.Text

/-- A cause, whose lines start with the given blank. -/
def indented (blank cause : String) : String := ("\n" ++ blank).intercalate (cause.splitOn "\n")

/-- A cause with its number. -/
def numbered (cause : String) (n : Nat) : String :=
  "    " ++ toString n ++ ": " ++ indented "       " cause

/-- An error with its causes. -/
def report (what : String) : List String → String
  | [] => what
  | [cause] => what ++ "\n\nCaused by:\n    " ++ indented "    " cause
  | causes =>
    what ++ "\n\nCaused by:\n" ++ "\n".intercalate (causes.zipIdx.map fun (c, n) => numbered c n)

end Accounts.Text
