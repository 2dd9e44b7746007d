import PgStatement.Query.Statement
import PgStatement.Record
import PgStatement.Wire.Decode
import PgStatement.Wire.Encode

/-!
# Replies of the server

A statement is answered in two stages. It is prepared: the server names the types of its parameters,
and each value is written as the type of its own. Then it is executed: the values are sent, and rows
or a count come back. At either stage the server can refuse, or hang up. A `Reply` is what the
server does about one statement, and `Reply.exchange` what comes of it.

All values are written before any is sent, and all rows are read before any is handed on: the first
failure is the whole result.
-/

namespace PgStatement

-- powers are those of the core library, whatever else is imported further on
attribute [local instance (high)] instPowNat

/-- A stage of a statement. -/
inductive Stage where
  /-- The server looks at the text. -/
  | prepare
  /-- The server runs the statement with its values. -/
  | execute
  deriving DecidableEq

/-- A refusal of the server. -/
structure Refusal where
  /-- The stage at which it comes. -/
  stage : Stage
  /-- The code. -/
  sqlstate : String
  /-- The message. -/
  message : String
  deriving DecidableEq

/-- **What the server does about a statement.** -/
structure Reply where
  /-- The types of the parameters. -/
  parameterTypes : List Wire.WireType
  /-- The columns of the rows, with their types. -/
  columns : List (String × Wire.WireType)
  /-- The rows, cell by cell; a missing cell is null. -/
  rows : List (List (Option Bytes))
  /-- The text that ends the reply, with a count at its end. -/
  tag : String
  /-- The refusal, if the server refuses. -/
  refusal? : Option Refusal
  /-- The stage at which the server hangs up, if it does. -/
  hangUp? : Option Stage

/-- **What the server received of a statement.** -/
structure Sent where
  /-- The text. -/
  sql : String
  /-- The values as they were sent, if it came to that. -/
  params? : Option (List (Option Bytes))
  deriving DecidableEq

namespace Reply

/-- The refusal of a server that has no reply. -/
def exhausted : Reply :=
  ⟨[], [], [], "", some ⟨.prepare, "XX000", "script exhausted"⟩, none⟩

/-- What ends the statement at a stage, if anything does. -/
def obstacle? (r : Reply) (stage : Stage) : Option Error :=
  if r.hangUp? = some stage then some .connectionClosed
  else
    match r.refusal? with
    | some refusal =>
      if refusal.stage = stage then some (.backend (.refused refusal.sqlstate refusal.message))
      else none
    | none => none

/-! ## Values on the way out -/

/-- Values written as the types of their parameters, the first of which has a number. -/
def encodeFrom : (index : Nat) → List Wire.WireType → List Value →
    Except Error (List (Option Bytes))
  | index, ty :: types, v :: values =>
    match Wire.encode v ty with
    | .error cause => .error (.backend (.parameter index cause))
    | .ok cell => (cell :: ·) <$> encodeFrom (index + 1) types values
  | _, _, _ => .ok []

/-- **The values as they are sent**, if there is one for each parameter and all can be written. -/
def encodeParams (types : List Wire.WireType) (values : List Value) :
    Except Error (List (Option Bytes)) :=
  if types.length = values.length then encodeFrom 0 types values
  else .error (.backend (.parameterCount types.length values.length))

/-! ## Rows on the way in -/

/-- The fields of a row from a column on. -/
def decodeFrom : (index : Nat) → List (String × Wire.WireType) → List (Option Bytes) →
    Except Error (List (String × Value))
  | index, (name, ty) :: columns, cell :: cells =>
    match Wire.decodeCell ty cell with
    | .error cause => .error (.backend (.column index cause))
    | .ok v => ((name, v) :: ·) <$> decodeFrom (index + 1) columns cells
  | _, _, _ => .ok []

/-- A row as a record, its fields in the order of the columns. -/
def record (columns : List (String × Wire.WireType)) (cells : List (Option Bytes)) :
    Except Error Record :=
  Record.ofEntries <$> decodeFrom 0 columns cells

/-- **The rows as records**, in order, if every cell can be read. -/
def records (r : Reply) : Except Error (List Record) := r.rows.mapM (record r.columns)

/-- The text after the last space. -/
def lastWord (s : String) : List Char :=
  (s.toList.reverse.takeWhile (· != ' ')).reverse

/-- A count in decimal, which a plus sign may stand in front of. -/
def count? (cs : List Char) : Option UInt64 :=
  let digits := if cs.head? = some '+' then cs.tail else cs
  let n := Text.ofDecimalChars digits
  if digits.isEmpty || !digits.all Text.isDecimalDigit || 2 ^ (64 : Nat) ≤ n then none
  else some (UInt64.ofNat n)

/-- **The number of rows concerned**, zero if the reply does not say. -/
def affected (r : Reply) : UInt64 := (count? (lastWord r.tag)).getD 0

/-! ## A statement and its reply -/

/-- **What comes of a statement**: what the server receives, and the reply or what went wrong. -/
def exchange (r : Reply) (statement : Statement) : Sent × Except Error Reply :=
  match r.obstacle? .prepare with
  | some e => (⟨statement.sql, none⟩, .error e)
  | none =>
    match encodeParams r.parameterTypes statement.params.values with
    | .error e => (⟨statement.sql, none⟩, .error e)
    | .ok cells =>
      (⟨statement.sql, some cells⟩,
        match r.obstacle? .execute with
        | some e => .error e
        | none => .ok r)

end Reply

end PgStatement
