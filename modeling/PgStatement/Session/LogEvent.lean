import PgStatement.Query.Insert
import PgStatement.Value.Inspect

/-!
# Log events

What a manager does is logged: connecting and disconnecting, every statement before it is sent,
every failure with the statement that failed, and two things that would otherwise go unnoticed –
fields that an insertion leaves out, and an alteration that stops half-way. An event is what
happened; its level, its message and its fields are read off it.
-/

namespace PgStatement

/-- How much an event matters. -/
inductive LogLevel where
  | debug | info | warn | error
  deriving DecidableEq

/-- The name of a level. -/
def LogLevel.label : LogLevel → String
  | .debug => "DEBUG"
  | .info => "INFO"
  | .warn => "WARN"
  | .error => "ERROR"

/-- **What is logged.** The database is the name that the settings give. -/
inductive LogEvent where
  /-- A connection was asked for while one is held. -/
  | alreadyConnected (database : String)
  /-- A connection was opened. -/
  | connected (database : String)
  /-- No connection could be opened. -/
  | connectFailed (database problem : String)
  /-- The connection was to be closed, and none is held. -/
  | alreadyDisconnected (database : String)
  /-- The connection was closed. -/
  | disconnected (database : String)
  /-- A statement that gives rows is about to be sent. -/
  | query (database : String) (statement : Statement)
  /-- A statement that gives a count is about to be sent. -/
  | execute (database : String) (statement : Statement)
  /-- A statement failed. -/
  | statementFailed (database : String) (statement : Statement) (e : Error)
  /-- An alteration stopped after some of its operations. -/
  | alterStopped (table : String) (applied total : Nat)
  /-- An insertion leaves fields out. -/
  | fieldsDropped (dropped : DroppedFields)

namespace LogEvent

/-- The level of an event. -/
def level : LogEvent → LogLevel
  | .alreadyConnected _ | .alreadyDisconnected _ | .query _ _ | .execute _ _ => .debug
  | .connected _ | .disconnected _ => .info
  | .fieldsDropped _ => .warn
  | .connectFailed _ _ | .statementFailed _ _ _ | .alterStopped _ _ _ => .error

/-- The message of an event. -/
def message : LogEvent → String
  | .alreadyConnected _ => "already connected"
  | .connected _ => "connected to database"
  | .connectFailed _ _ => "failed to connect to database"
  | .alreadyDisconnected _ => "already disconnected"
  | .disconnected _ => "disconnected from database"
  | .query _ _ => "query"
  | .execute _ _ => "execute"
  | .statementFailed _ _ _ => "statement failed"
  | .alterStopped _ _ _ => "ALTER TABLE stopped part way"
  | .fieldsDropped _ => "bulk insert: dropping keys not present in the first record"

/-- The fields that say which statement an event is about. -/
def statementFields (database : String) (statement : Statement) : List (String × String) :=
  [("database", database), ("table", statement.table), ("sql", statement.sql)]

/-- Names as a field shows them. -/
def namesText (names : List String) : String :=
  "[" ++ ", ".intercalate (names.map Text.quoted) ++ "]"

/-- **The fields of an event**, each a name and a text. -/
def fields : LogEvent → List (String × String)
  | .alreadyConnected database | .connected database | .alreadyDisconnected database
  | .disconnected database => [("database", database)]
  | .connectFailed database problem => [("database", database), ("error", problem)]
  | .query database statement | .execute database statement =>
    statementFields database statement ++ [("params", Text.decimal statement.params.size)]
  | .statementFailed database statement e =>
    statementFields database statement
      ++ [("params", Value.inspectList statement.params.values), ("error", e.message)]
  | .alterStopped table applied total =>
    [("table", table), ("applied", Text.decimal applied), ("total", Text.decimal total)]
  | .fieldsDropped dropped =>
    [("table", dropped.table), ("record", Text.decimal dropped.index),
      ("dropped", namesText dropped.fields)]

end LogEvent

end PgStatement
