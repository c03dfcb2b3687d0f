/-!
# Database errors

What can go wrong between the library and its database: no connection, a
statement that the server rejects, or an answer that does not have the expected
form.
-/

namespace Accounts

/-- Why the value of a column cannot be read. -/
inductive ColumnFault
  /-- It is null. -/
  | unexpectedNull
  /-- It is none of the names of an enumeration. -/
  | unknownName (found type : String)
  /-- Its type does not fit. -/
  | wrongType (wanted sqlWanted sqlFound : String)
deriving DecidableEq, Repr

/-- The message of a fault. -/
def ColumnFault.message : ColumnFault → String
  | .unexpectedNull => "unexpected null; try decoding as an `Option`"
  | .unknownName found type => "invalid value \"" ++ found ++ "\" for enum " ++ type
  | .wrongType wanted sqlWanted sqlFound =>
    "mismatched types; Rust type `" ++ wanted ++ "` (as SQL type `" ++ sqlWanted ++
      "`) is not compatible with SQL type `" ++ sqlFound ++ "`"

/-- What went wrong with the database. -/
inductive DatabaseError
  /-- A query that has to find a row found none. -/
  | rowNotFound
  /-- No connection became free in time. -/
  | poolTimedOut
  /-- The pool of connections is closed. -/
  | poolClosed
  /-- The worker of a connection is gone. -/
  | workerCrashed
  /-- The answer has no such column. -/
  | columnNotFound (name : String)
  /-- The answer has too few columns. -/
  | columnOutOfRange (index count : Nat)
  /-- A column cannot be read. -/
  | columnDecode (column : String) (fault : ColumnFault)
  /-- The server rejected a statement. -/
  | rejected (code message : String) (constraint : Option String)
  /-- The server sent something unexpected. -/
  | unexpected (text : String)
  /-- The address of the database has no host. -/
  | relativeUrl
deriving DecidableEq, Repr

namespace DatabaseError

/-- The message of an error. -/
def message : DatabaseError → String
  | .rowNotFound => "no rows returned by a query that expected to return at least one row"
  | .poolTimedOut => "pool timed out while waiting for an open connection"
  | .poolClosed => "attempted to acquire a connection on a closed pool"
  | .workerCrashed => "attempted to communicate with a crashed background worker"
  | .columnNotFound name => "no column found for name: " ++ name
  | .columnOutOfRange index count =>
    "column index out of bounds: the len is " ++ toString count ++ ", but the index is " ++
      toString index
  | .columnDecode column fault =>
    "error occurred while decoding column " ++ column ++ ": " ++ fault.message
  | .rejected _ text _ => "error returned from database: " ++ text
  | .unexpected text => "encountered unexpected or invalid data: " ++ text
  | .relativeUrl => "error with configuration: relative URL without a base"

/-- An error and what lies below it, the nearest first. -/
def causes (e : DatabaseError) : List String :=
  match e with
  | .columnDecode _ fault => [e.message, fault.message]
  | .rejected _ text _ => [e.message, text]
  | .relativeUrl => [e.message, "relative URL without a base"]
  | _ => [e.message]

/-- The server found a value taken that has to be unique, under the given constraint. -/
def isUniqueViolation (constraint : String) : DatabaseError → Bool
  | .rejected "23505" _ (some c) => c == constraint
  | _ => false

end DatabaseError

end Accounts
