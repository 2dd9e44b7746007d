import PgStatement.Query.Delete
import PgStatement.Query.Select
import PgStatement.Query.Update
import PgStatement.Session.Basic
import PgStatement.Table.Create
import PgStatement.Table.Drop

/-!
# Running what was put together

Selections, insertions, updates, deletions and operations on tables are written as statements and
run in a session. What cannot be written is not run: nothing is sent, and no failure of a statement
is logged. An alteration is several statements, which are all written before the first is sent, and
are then run in order up to the first one that fails.
-/

namespace PgStatement.Session

/-- Runs a statement, if it could be written. -/
def runBuilt {α β : Type} (s : Session) (built : Except Error α) (run : α → Outcome β) :
    Outcome β :=
  match built with
  | .ok statement => run statement
  | .error e => .quiet (.error e) s

/-! ## Queries -/

/-- **Runs a selection**, which gives its rows. -/
def select (s : Session) (q : Select) : Outcome (List Record) := s.runBuilt q.build s.fetch

/-- **Runs an insertion**, which gives its rows as inserted. Fields that it leaves out are logged
first. -/
def insert (s : Session) (q : PgStatement.Insert) : Outcome Inserted :=
  ((s.runBuilt q.build s.fetch).map (Inserted.ofRows q.isBulk)).after
    (q.warnings.map .fieldsDropped)

/-- **Runs an update**, which gives its rows as changed. -/
def update (s : Session) (q : Update) : Outcome (List Record) := s.runBuilt q.build s.fetch

/-- **Runs a deletion**, which gives the number of rows removed. -/
def delete (s : Session) (q : Delete) : Outcome UInt64 := s.runBuilt q.build s.execute

/-! ## Tables -/

/-- Runs a text about a table, if it could be written. -/
def runText (s : Session) (table : String) (sql : Except Error String) : Outcome Unit :=
  s.runBuilt sql fun sql => (s.execute (.ofText table sql)).map fun _ => ()

/-- **Creates a table.** -/
def createTable (s : Session) (t : CreateTable) : Outcome Unit := s.runText t.name t.sql

/-- **Removes a table.** -/
def dropTable (s : Session) (t : DropTable) : Outcome Unit := s.runText t.name t.sql

/-- **Empties a table.** -/
def truncateTable (s : Session) (t : TruncateTable) : Outcome Unit := s.runText t.name t.sql

/-- Runs the remaining statements of an alteration, of which some were applied. -/
def applyFrom (table : String) (total : Nat) : (applied : Nat) → List String → Session →
    Outcome Unit
  | _, [], s => .quiet (.ok ()) s
  | applied, sql :: rest, s =>
    let step := s.execute (.ofText table sql)
    match step.result with
    | .error e =>
      ⟨.error e, step.session, step.sent, step.logs ++ [.alterStopped table applied total]⟩
    | .ok _ =>
      let further := applyFrom table total (applied + 1) rest step.session
      { further with sent := step.sent ++ further.sent, logs := step.logs ++ further.logs }

/-- **Alters a table**, operation by operation. -/
def alterTable (s : Session) (t : AlterTable) : Outcome Unit :=
  s.runBuilt t.statements fun statements => applyFrom t.name statements.length 0 statements s

/-! ## Listing tables -/

/-- The selection of the tables of a schema. -/
def tablesOf (schema : String) : Select :=
  Select.run (.ofFields [.column "table_name"])
    [.fromTable "information_schema.tables",
      .filter .and "table_schema" (.equals (.text schema)),
      .filter .and "table_type" (.equals (.text "BASE TABLE")),
      .orderBy "table_name"]

/-- The name that a row of the listing gives, if it is a text. -/
def tableName? (row : Record) : Option String := (row.get? "table_name").bind Value.text?

/-- **Lists the tables of a schema**, sorted by name. -/
def listTables (s : Session) (schema : String) : Outcome (List String) :=
  (s.select (tablesOf schema)).map (List.filterMap tableName?)

end PgStatement.Session
