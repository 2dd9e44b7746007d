import PgStatement.Wire.Fault

/-!
# Errors

Building and running a statement fails in one of eight ways. An error is a cause; `Error.message` is
its text. What the server or the wire reports is a `BackendError`, which keeps the server's code and
the fault of the value concerned.
-/

namespace PgStatement

/-- **What the backend reports** while a statement runs. -/
inductive BackendError where
  /-- The server refuses the statement, with a code and a message of its own. -/
  | refused (sqlstate message : String)
  /-- The statement has another number of placeholders than values. -/
  | parameterCount (expected given : Nat)
  /-- A value cannot be written as the type of its parameter. -/
  | parameter (index : Nat) (cause : Wire.Fault)
  /-- A cell cannot be read as the type of its column. -/
  | column (index : Nat) (cause : Wire.Fault)
  /-- The statement itself cannot be written. -/
  | unsendable (cause : Wire.Fault)
  deriving DecidableEq

namespace BackendError

/-- The text of a backend error. The cause is not part of it. -/
def message : BackendError → String
  | .refused _ _ => "db error"
  | .parameterCount expected given => s!"expected {expected} parameters but got {given}"
  | .parameter index _ => s!"error serializing parameter {index}"
  | .column index _ => s!"error deserializing column {index}"
  | .unsendable _ => "error encoding message to server"

/-- The text of a refusal as the server gives it, with its severity. -/
def serverText (message : String) : String := "ERROR: " ++ message

end BackendError

/-- **Why a statement was not built or did not run.** -/
inductive Error where
  /-- A clause that the statement needs is missing, or the manager is set up wrongly. -/
  | configuration (problem : String)
  /-- A name, an operand or an amount is not acceptable. -/
  | invalidArgument (problem : String)
  /-- A statement would change every row of a table. -/
  | unsafeOperation (problem : String)
  /-- No connection is held. -/
  | notConnected
  /-- The connection that is held has gone away. -/
  | connectionClosed
  /-- A connection cannot be opened. -/
  | connection (problem : String)
  /-- The backend reports an error. -/
  | backend (report : BackendError)
  /-- A clause is accepted but cannot be written. -/
  | notImplemented (clause : String)
  deriving DecidableEq

namespace Error

/-- **The text of an error.** -/
def message : Error → String
  | .configuration problem => "Configuration error: " ++ problem
  | .invalidArgument problem => "Invalid argument: " ++ problem
  | .unsafeOperation problem => "Unsafe operation: " ++ problem
  | .notConnected => "Not connected to database. Call connect() first."
  | .connectionClosed => "Connection is closed or invalid"
  | .connection problem => "Connection error: " ++ problem
  | .backend report => "Backend error: " ++ report.message
  | .notImplemented clause => "Not implemented: " ++ clause

/-- The kinds of errors, without what they are about. -/
inductive Kind where
  | configuration | invalidArgument | unsafeOperation | notConnected | connectionClosed
  | connection | backend | notImplemented
  deriving DecidableEq

/-- The kind of an error. -/
def kind : Error → Kind
  | .configuration _ => .configuration
  | .invalidArgument _ => .invalidArgument
  | .unsafeOperation _ => .unsafeOperation
  | .notConnected => .notConnected
  | .connectionClosed => .connectionClosed
  | .connection _ => .connection
  | .backend _ => .backend
  | .notImplemented _ => .notImplemented

/-- Whether a statement was refused because it would change every row. -/
def isUnsafeOperation (e : Error) : Bool := e.kind == .unsafeOperation

/-- Whether no connection is held. -/
def isNotConnected (e : Error) : Bool := e.kind == .notConnected

/-- The server's code, if the server reported the error. -/
def sqlstate? : Error → Option String
  | .backend (.refused sqlstate _) => some sqlstate
  | _ => none

/-- Whether the server reported that a value exists already where it must be unique. -/
def isUniqueViolation (e : Error) : Bool := e.sqlstate? == some "23505"

end Error

end PgStatement
