import PgStatement.Proofs.Identifier
import PgStatement.Proofs.Result
import PgStatement.Table.Create
import PgStatement.Table.Drop

/-!
# Names in texts about tables

Texts about tables have no placeholders: names, types, expressions and defaults are all written into
them. This module tells the spans of such a text apart, by what each of them is (`Span`), and says
which of the names in it are known to be identifiers.

The answer is all of them but for two kinds. A column can refer to a column of another table, and
the two names of that reference are written as they were given (`Span.reference`); the same
reference as a constraint of the table is looked at. And a column can be handed over as a whole,
with its name in it, instead of being begun by its name (`TableChain.accepted`). All other names in
texts about tables are identifiers (`TableChain.names_of_texts`), and these need not be
(`TableChain.names_of_reference`).

Names are looked at in different places. Those of new columns are looked at when the column is
begun, all others when the text is written. What is known of a state in the middle of a chain is
therefore only that the names of its columns are identifiers or were handed over
(`CreateTable.IsChecked`, `AlterTable.IsChecked`); every call keeps that.
-/

namespace PgStatement

/-! ## Spans -/

/-- **A span of a text about a table.** -/
inductive Span where
  /-- Words and punctuation of SQL. -/
  | words (s : String)
  /-- The name of a table, of a column or of a constraint. -/
  | name (s : String)
  /-- The name that the definition of a column begins with. -/
  | column (s : String)
  /-- The name of a table or of a column that a constraint of a column refers to. -/
  | reference (s : String)
  /-- What is written as it was given: a type, an expression, a definition, a default. -/
  | given (s : String)
  deriving DecidableEq

namespace Span

/-- The text of a span. -/
def text : Span → String
  | .words s | .name s | .column s | .reference s | .given s => s

/-- **The text of spans**, one after the other. -/
def spell (spans : List Span) : String := String.join (spans.map text)

/-- Spans one after the other, with words between. -/
def join (separator : String) : List (List Span) → List Span
  | [] => []
  | [spans] => spans
  | spans :: rest => spans ++ .words separator :: join separator rest

/-- Names with commas between. -/
def names (ns : List String) : List Span := join ", " (ns.map fun n => [.name n])

@[simp] theorem spell_nil : spell [] = "" := rfl

@[simp] theorem spell_cons (span : Span) (spans : List Span) :
    spell (span :: spans) = span.text ++ spell spans := by
  rw [spell, List.map_cons, String.join_cons]
  rfl

@[simp] theorem spell_append (a b : List Span) : spell (a ++ b) = spell a ++ spell b := by
  rw [spell, List.map_append, String.join_append]
  rfl

@[simp] theorem spell_join (separator : String) (parts : List (List Span)) :
    spell (join separator parts) = separator.intercalate (parts.map spell) := by
  induction parts with
  | nil => rfl
  | cons part rest ih =>
    cases rest with
    | nil => simp [join]
    | cons other rest =>
      rw [List.map_cons] at ih
      rw [join, spell_append, spell_cons, ih, List.map_cons, List.map_cons,
        String.intercalate_cons_cons, String.append_assoc]
      · rfl
      · exact List.cons_ne_nil _ _

@[simp] theorem spell_names (ns : List String) : spell (names ns) = ", ".intercalate ns := by
  have heach : ∀ n ∈ ns, (spell ∘ fun n => [.name n]) n = id n := fun n _ => by
    simp [text]
  rw [names, spell_join, List.map_map, List.map_congr_left heach, List.map_id]

/-! ### Names that were looked at -/

variable {free : List String}

/-- **A span was looked at**: a name is an identifier. Only definitions of columns may begin with
some other names. -/
@[simp] def WasChecked (free : List String) : Span → Prop
  | .name n => IsIdentifier n
  | .column n => IsIdentifier n ∨ n ∈ free
  | .words _ | .reference _ | .given _ => True

/-- **Names are checked** if each of them is. -/
def IsChecked (free : List String) (spans : List Span) : Prop :=
    ∀ span ∈ spans, span.WasChecked free

@[simp] theorem isChecked_nil : IsChecked free [] := List.forall_mem_nil _

@[simp] theorem isChecked_cons {span : Span} {spans : List Span} :
    IsChecked free (span :: spans) ↔ span.WasChecked free ∧ IsChecked free spans :=
  List.forall_mem_cons

@[simp] theorem isChecked_append {a b : List Span} :
    IsChecked free (a ++ b) ↔ IsChecked free a ∧ IsChecked free b :=
  List.forall_mem_append

theorem isChecked_join {separator : String} {parts : List (List Span)}
    (h : ∀ part ∈ parts, IsChecked free part) : IsChecked free (join separator parts) := by
  induction parts with
  | nil => exact isChecked_nil
  | cons part rest ih =>
    rw [List.forall_mem_cons] at h
    cases rest with
    | nil => exact h.1
    | cons other rest =>
      rw [join, isChecked_append, isChecked_cons]
      · exact ⟨h.1, trivial, ih h.2⟩
      · exact List.cons_ne_nil _ _

theorem isChecked_names {ns : List String} (h : ∀ n ∈ ns, IsIdentifier n) :
    IsChecked free (names ns) := by
  refine isChecked_join fun part hpart => ?_
  obtain ⟨n, hn, rfl⟩ := List.mem_map.mp hpart
  exact List.forall_mem_singleton.mpr (h n hn)

end Span

section Written

-- the names of the columns that were handed over
variable {free : List String}

/-- **A text is written** by spans: they spell it, and their names are checked. -/
structure Writes (free : List String) (spans : List Span) (text : String) : Prop where
  /-- The spans are the text. -/
  spells : text = Span.spell spans
  /-- Its names are checked. -/
  isChecked : Span.IsChecked free spans

/-- Texts that are each written by the spans of their item. -/
theorem forall₂_writes {α : Type} {sql : α → Except Error String} {spans : α → List Span}
    {items : List α} {texts : List String}
      (h : List.Forall₂ (fun a text => sql a = .ok text) items texts)
    (hsql : ∀ a ∈ items, ∀ text, sql a = .ok text → Writes free (spans a) text) :
    texts = (items.map spans).map Span.spell
      ∧ ∀ part ∈ items.map spans, Span.IsChecked free part := by
  induction h with
  | nil => exact ⟨rfl, fun _ h => absurd h List.not_mem_nil⟩
  | cons htext _ ih =>
    rw [List.forall_mem_cons] at hsql
    obtain ⟨hspells, hchecked⟩ := hsql.1 _ htext
    obtain ⟨ihspells, ihchecked⟩ := ih hsql.2
    rw [List.map_cons, List.map_cons, List.forall_mem_cons, ← hspells, ← ihspells]
    exact ⟨rfl, hchecked, ihchecked⟩

/-! ## Columns -/

/-- The spans of a constraint of a column. -/
def ColumnConstraint.spans : ColumnConstraint → List Span
  | .notNull => [.words "NOT NULL"]
  | .unique => [.words "UNIQUE"]
  | .primaryKey => [.words "PRIMARY KEY"]
  | .default v => [.words "DEFAULT ", .given v.defaultSql]
  | .check expression => [.words "CHECK (", .given expression, .words ")"]
  | .references table column =>
    [.words "REFERENCES ", .reference table, .words "(", .reference column, .words ")"]

/-- **A constraint of a column is written** with no names but those that it refers to. -/
theorem ColumnConstraint.writes (c : ColumnConstraint) : Writes free c.spans c.sql := by
  cases c <;> exact ⟨by simp [sql, spans, Span.text, String.append_assoc], by simp [spans]⟩

namespace ColumnDefinition

/-- The spans of a definition of a column. -/
def spans (c : ColumnDefinition) : List Span :=
  Span.join " "
    ([.column c.name] :: c.sqlType?.toList.map (fun sqlType => [.given sqlType])
      ++ c.constraints.map ColumnConstraint.spans)

/-- **A column was looked at**: its name is an identifier, or the column was handed over. -/
def IsChecked (free : List String) (c : ColumnDefinition) : Prop :=
  IsIdentifier c.name ∨ c.name ∈ free

theorem isChecked_named {name : String} (h : Identifier.check "column" name = .ok ()) :
    (named name).IsChecked free :=
  .inl (Identifier.check_eq_ok_iff.mp h)

theorem isChecked_apply {c : ColumnDefinition} (h : c.IsChecked free) (call : ColumnCall) :
    (c.apply call).IsChecked free := by
  cases call <;> exact h

/-- **A column is written** with its name and what it refers to. -/
theorem writes_of_sql {c : ColumnDefinition} {text : String} (hc : c.IsChecked free)
    (h : c.sql = .ok text) : Writes free c.spans text := by
  unfold sql at h
  split at h
  · cases h
  · rename_i sqlType htype
    cases h
    constructor
    · have hconstraints : c.constraints.map ColumnConstraint.sql
          = (c.constraints.map ColumnConstraint.spans).map Span.spell := by
        rw [List.map_map]
        exact List.map_congr_left fun constraint _ => (constraint.writes : Writes free _ _).spells
      rw [spans, htype, Span.spell_join, hconstraints]
      simp [Span.text]
    · refine Span.isChecked_join fun part hpart => ?_
      rcases List.mem_append.mp hpart with hpart | hpart
      · rcases List.mem_cons.mp hpart with rfl | hpart
        · exact List.forall_mem_singleton.mpr hc
        · obtain ⟨_, -, rfl⟩ := List.mem_map.mp hpart
          exact List.forall_mem_singleton.mpr trivial
      · obtain ⟨constraint, -, rfl⟩ := List.mem_map.mp hpart
        exact constraint.writes.isChecked

end ColumnDefinition

/-- A column is finished as it was defined, if it has a type. -/
theorem PendingColumn.finish_eq_ok_iff {α : Type} {p : PendingColumn α} {owner : α}
    {column : ColumnDefinition} :
    p.finish = .ok (owner, column)
      ↔ p.column.sqlType?.isSome = true ∧ owner = p.owner ∧ column = p.column := by
  rw [finish, bind_eq_ok_iff, ColumnDefinition.sql]
  cases p.column.sqlType? with
  | none => exact iff_of_false (by rintro ⟨_, h, _⟩; cases h) (fun h => absurd h.1 nofun)
  | some sqlType =>
    constructor
    · rintro ⟨_, _, h⟩
      cases h
      exact ⟨rfl, rfl, rfl⟩
    · rintro ⟨-, rfl, rfl⟩
      exact ⟨_, rfl, rfl⟩

/-! ## Creating a table -/

namespace TableConstraint

/-- The spans of a constraint of a table. -/
def spans : TableConstraint → List Span
  | .primaryKey columns => .words "PRIMARY KEY (" :: Span.names columns ++ [.words ")"]
  | .foreignKey column table reference =>
    [.words "FOREIGN KEY (", .name column, .words ") REFERENCES ", .name table, .words "(",
      .name reference, .words ")"]
  | .unique columns => .words "UNIQUE (" :: Span.names columns ++ [.words ")"]
  | .check name expression =>
    [.words "CONSTRAINT ", .name name, .words " CHECK (", .given expression, .words ")"]

theorem of_columnList {kind : String} {columns : List String} {text : String}
    (h : columnList kind columns = .ok text) :
    text = ", ".intercalate columns ∧ ∀ column ∈ columns, IsIdentifier column := by
  unfold columnList at h
  split at h
  · cases h
  · obtain ⟨_, hcolumns, h⟩ := bind_eq_ok_iff.mp h
    cases h
    refine ⟨rfl, fun column hcolumn => ?_⟩
    exact Identifier.check_eq_ok_iff.mp (forM_eq_ok_iff.mp hcolumns column hcolumn)

/-- A list of columns in parentheses, behind a keyword. -/
theorem writes_columnList {kind keyword : String} {columns : List String} {text : String}
    (h : columnList kind columns = .ok text) :
    Writes free (.words keyword :: Span.names columns ++ [.words ")"])
      (keyword ++ text ++ ")") := by
  obtain ⟨rfl, hcolumns⟩ := of_columnList h
  exact ⟨by simp [Span.text, String.append_assoc], by simp [Span.isChecked_names hcolumns]⟩

/-- **A constraint of a table is written** with names that were looked at. -/
theorem writes_of_sql {c : TableConstraint} {text : String} (h : c.sql = .ok text) :
    Writes free c.spans text := by
  cases c with
  | primaryKey columns =>
    obtain ⟨list, hlist, h⟩ := bind_eq_ok_iff.mp h
    cases h
    exact writes_columnList hlist
  | unique columns =>
    obtain ⟨list, hlist, h⟩ := bind_eq_ok_iff.mp h
    cases h
    exact writes_columnList hlist
  | foreignKey column table reference =>
    obtain ⟨_, hcolumn, h⟩ := bind_eq_ok_iff.mp h
    obtain ⟨_, htable, h⟩ := bind_eq_ok_iff.mp h
    obtain ⟨_, hreference, h⟩ := bind_eq_ok_iff.mp h
    cases h
    rw [Identifier.check_eq_ok_iff] at hcolumn htable hreference
    exact ⟨by simp [spans, Span.text, String.append_assoc],
      by simp [spans, hcolumn, htable, hreference]⟩
  | check name expression =>
    obtain ⟨_, hname, h⟩ := bind_eq_ok_iff.mp h
    cases h
    rw [Identifier.check_eq_ok_iff] at hname
    exact ⟨by simp [spans, Span.text, String.append_assoc], by simp [spans, hname]⟩

end TableConstraint

namespace CreateTable

/-- The spans of a statement that creates a table. -/
def spans (t : CreateTable) : List Span :=
  [.words ("CREATE TABLE " ++ (if t.ifNotExists then "IF NOT EXISTS " else "")), .name t.name,
      .words " ("]
    ++ Span.join ", "
      (t.columns.map ColumnDefinition.spans ++ t.constraints.map TableConstraint.spans)
    ++ [.words ")"]

/-- **The finished columns of a table were looked at**, and so was the one that is being defined. -/
def IsChecked (free : List String) : (phase : Phase) → State phase → Prop
  | .table, t => ∀ c ∈ t.columns, c.IsChecked free
  | .column, p => (∀ c ∈ p.owner.columns, c.IsChecked free) ∧ p.column.IsChecked free

/-- **The statement is written** with names that were looked at, if the columns were. -/
theorem writes_of_sql {t : CreateTable} {text : String}
    (ht : IsChecked free .table t) (h : t.sql = .ok text) :
    Writes free t.spans text := by
  obtain ⟨_, hname, h⟩ := bind_eq_ok_iff.mp h
  simp only at h
  split at h
  · cases h
  · obtain ⟨columns, hcolumns, h⟩ := bind_eq_ok_iff.mp h
    obtain ⟨constraints, hconstraints, h⟩ := bind_eq_ok_iff.mp h
    cases h
    have hcolumns := forall₂_writes (mapM_eq_ok_iff.mp hcolumns) fun c hc _ h =>
      ColumnDefinition.writes_of_sql (ht c hc) h
    have hconstraints := @forall₂_writes free _ _ _ _ _ (mapM_eq_ok_iff.mp hconstraints)
      fun _ _ _ h => TableConstraint.writes_of_sql h
    rw [Identifier.check_eq_ok_iff] at hname
    constructor
    · simp [spans, Span.text, hcolumns.1, hconstraints.1, String.append_assoc]
    · have hparts := List.forall_mem_append.mpr ⟨hcolumns.2, hconstraints.2⟩
      simp [spans, hname, Span.isChecked_join hparts]

theorem isChecked_column {t : CreateTable} {name : String} {p : PendingColumn CreateTable}
    (ht : IsChecked free .table t) (h : t.column name = .ok p) :
    IsChecked free .column p := by
  obtain ⟨_, hname, h⟩ := bind_eq_ok_iff.mp h
  simp only at h
  split at h
  · cases h
  · cases h
    exact ⟨ht, ColumnDefinition.isChecked_named hname⟩

theorem isChecked_finishColumn {p : PendingColumn CreateTable} {t : CreateTable}
    (hp : IsChecked free .column p) (h : finishColumn p = .ok t) :
    IsChecked free .table t := by
  obtain ⟨⟨owner, column⟩, hfinish, h⟩ := bind_eq_ok_iff.mp h
  cases h
  obtain ⟨-, rfl, rfl⟩ := PendingColumn.finish_eq_ok_iff.mp hfinish
  exact List.forall_mem_append.mpr ⟨hp.1, List.forall_mem_singleton.mpr hp.2⟩

/-- The columns that are handed over in a call. -/
def Call.accepted {before after : Phase} : Call before after → List ColumnDefinition
  | .acceptColumn c => [c]
  | _ => []

/-- **The columns that are handed over** in a chain of calls. -/
def Chain.accepted : {before after : Phase} → Chain before after → List ColumnDefinition
  | _, _, .nil => []
  | _, _, .snoc calls call => calls.accepted ++ call.accepted

/-- **A call keeps columns checked.** -/
theorem isChecked_apply {before after : Phase} {call : Call before after} {s : State before}
    {s' : State after} (hs : IsChecked free before s) (hfree : ∀ c ∈ call.accepted, c.name ∈ free)
    (h : call.apply s = .ok s') : IsChecked free after s' := by
  cases call with
  | ifNotExists =>
    cases h
    exact hs
  | column name => exact isChecked_column hs h
  | acceptColumn c =>
    cases h
    have hc : c.IsChecked free := .inr (hfree c List.mem_cons_self)
    exact List.forall_mem_append.mpr ⟨hs, List.forall_mem_singleton.mpr hc⟩
  | constraint c =>
    cases h
    exact hs
  | define call =>
    cases h
    exact ⟨hs.1, ColumnDefinition.isChecked_apply hs.2 call⟩
  | done => exact isChecked_finishColumn hs h
  | nextColumn name =>
    obtain ⟨t, ht, h⟩ := bind_eq_ok_iff.mp h
    exact isChecked_column (isChecked_finishColumn hs ht) h
  | thenConstraint c =>
    obtain ⟨t, ht, h⟩ := bind_eq_ok_iff.mp h
    cases h
    exact isChecked_finishColumn (t := t) hs ht

/-- **A chain of calls keeps columns checked.** -/
theorem isChecked_run {before after : Phase} {calls : Chain before after} {s : State before}
    {s' : State after} (hs : IsChecked free before s) (hfree : ∀ c ∈ calls.accepted, c.name ∈ free)
    (h : calls.run s = .ok s') : IsChecked free after s' := by
  induction calls with
  | nil =>
    rw [Chain.run] at h
    cases h
    exact hs
  | snoc calls call ih =>
    rw [Chain.run] at h
    obtain ⟨middle, hmiddle, h⟩ := bind_eq_ok_iff.mp h
    rw [Chain.accepted, List.forall_mem_append] at hfree
    obtain ⟨hcalls, hcall⟩ := hfree
    exact isChecked_apply (ih hcalls hmiddle) hcall h

/-- The table at the end of a chain; a column that is being defined is finished. -/
def Chain.table (name : String) {phase : Phase} (calls : Chain .table phase) :
    Except Error CreateTable := do
  finished (← calls.run (named name))

/-- The table at the end of a chain has columns that were looked at. -/
theorem isChecked_table {name : String} {phase : Phase} {calls : Chain .table phase}
    {t : CreateTable} (hfree : ∀ c ∈ calls.accepted, c.name ∈ free) (h : calls.table name = .ok t) :
    IsChecked free .table t := by
  obtain ⟨s, hs, h⟩ := bind_eq_ok_iff.mp h
  have hnone : IsChecked free .table (named name) := List.forall_mem_nil _
  have hs := isChecked_run hnone hfree hs
  cases phase with
  | table =>
    cases h
    exact hs
  | column => exact isChecked_finishColumn hs h

end CreateTable

/-! ## Altering a table -/

namespace AlterOperation

/-- The spans of an operation on a column. -/
def columnSpans (column : String) (rest : List Span) : List Span :=
  .words "ALTER COLUMN " :: .name column :: rest

/-- The spans of an operation. -/
def spans : AlterOperation → List Span
  | .addColumn column => .words "ADD COLUMN " :: column.spans
  | .dropColumn name cascade => [.words "DROP COLUMN ", .name name, .words (cascadeSql cascade)]
  | .setType column sqlType => columnSpans column [.words " TYPE ", .given sqlType]
  | .setNotNull column => columnSpans column [.words " SET NOT NULL"]
  | .dropNotNull column => columnSpans column [.words " DROP NOT NULL"]
  | .setDefault column v => columnSpans column [.words " SET DEFAULT ", .given v.defaultSql]
  | .dropDefault column => columnSpans column [.words " DROP DEFAULT"]
  | .renameColumn name newName =>
    [.words "RENAME COLUMN ", .name name, .words " TO ", .name newName]
  | .renameTable newName => [.words "RENAME TO ", .name newName]
  | .addConstraint name kind definition =>
    [.words "ADD CONSTRAINT ", .name name, .words " ", .given (Text.upper kind), .words " ",
      .given definition]
  | .dropConstraint name cascade =>
    [.words "DROP CONSTRAINT ", .name name, .words (cascadeSql cascade)]

/-- **The new column of an operation was looked at**, if it has one. -/
def IsChecked (free : List String) : AlterOperation → Prop
  | .addColumn column => column.IsChecked free
  | _ => True

/-- An operation on a column begins with its name, which was looked at. -/
theorem writes_onColumn {column start rest : String} {spans : List Span}
    (h : onColumn column = .ok start) (hspells : rest = Span.spell spans)
    (hchecked : Span.IsChecked free spans) :
    Writes free (columnSpans column spans) (start ++ rest) := by
  obtain ⟨_, hcolumn, h⟩ := bind_eq_ok_iff.mp h
  cases h
  rw [Identifier.check_eq_ok_iff] at hcolumn
  exact ⟨by simp [columnSpans, Span.text, hspells, String.append_assoc],
    by simp [columnSpans, hcolumn, hchecked]⟩

/-- **An operation is written** with names that were looked at, if its new column was. -/
theorem writes_of_sql {operation : AlterOperation} {text : String}
    (hchecked : operation.IsChecked free) (h : operation.sql = .ok text) :
    Writes free operation.spans text := by
  cases operation with
  | addColumn column =>
    obtain ⟨definition, hdefinition, h⟩ := bind_eq_ok_iff.mp h
    cases h
    obtain ⟨hspells, hnames⟩ := ColumnDefinition.writes_of_sql hchecked hdefinition
    exact ⟨by simp [spans, Span.text, hspells], by simp [spans, hnames]⟩
  | setType column sqlType =>
    obtain ⟨start, hstart, h⟩ := bind_eq_ok_iff.mp h
    simp only at h
    split at h
    · cases h
    · cases h
      rw [String.append_assoc]
      exact writes_onColumn hstart (by simp [Span.text]) (by simp)
  | setNotNull column =>
    obtain ⟨start, hstart, h⟩ := bind_eq_ok_iff.mp h
    cases h
    exact writes_onColumn hstart (by simp [Span.text]) (by simp)
  | dropNotNull column =>
    obtain ⟨start, hstart, h⟩ := bind_eq_ok_iff.mp h
    cases h
    exact writes_onColumn hstart (by simp [Span.text]) (by simp)
  | setDefault column v =>
    obtain ⟨start, hstart, h⟩ := bind_eq_ok_iff.mp h
    cases h
    rw [String.append_assoc]
    exact writes_onColumn hstart (by simp [Span.text]) (by simp)
  | dropDefault column =>
    obtain ⟨start, hstart, h⟩ := bind_eq_ok_iff.mp h
    cases h
    exact writes_onColumn hstart (by simp [Span.text]) (by simp)
  | renameColumn name newName =>
    obtain ⟨_, hname, h⟩ := bind_eq_ok_iff.mp h
    obtain ⟨_, hnew, h⟩ := bind_eq_ok_iff.mp h
    cases h
    rw [Identifier.check_eq_ok_iff] at hname hnew
    exact ⟨by simp [spans, Span.text, String.append_assoc], by simp [spans, hname, hnew]⟩
  | _ =>
    -- one name, which is looked at first
    obtain ⟨_, hname, h⟩ := bind_eq_ok_iff.mp h
    cases h
    rw [Identifier.check_eq_ok_iff] at hname
    exact ⟨by simp [spans, Span.text, String.append_assoc], by simp [spans, hname]⟩

end AlterOperation

namespace AlterTable

/-- The spans of the statements that alter a table. -/
def spans (t : AlterTable) : List (List Span) :=
  t.operations.map fun operation =>
    [.words "ALTER TABLE ", .name t.name, .words " "] ++ operation.spans

/-- **The new columns of a table were looked at**, and so was the one that is being defined. -/
def IsChecked (free : List String) : (phase : Phase) → State phase → Prop
  | .table, t => ∀ operation ∈ t.operations, operation.IsChecked free
  | .column, p =>
    (∀ operation ∈ p.owner.operations, operation.IsChecked free) ∧ p.column.IsChecked free
  | .change, m => ∀ operation ∈ m.table.operations, operation.IsChecked free

/-- **The statements are written** with names that were looked at, if the new columns were. -/
theorem writes_of_statements {t : AlterTable} {texts : List String}
    (ht : IsChecked free .table t) (h : t.statements = .ok texts) :
    texts = t.spans.map Span.spell ∧ ∀ spans ∈ t.spans, Span.IsChecked free spans := by
  obtain ⟨_, hname, h⟩ := bind_eq_ok_iff.mp h
  simp only at h
  split at h
  · cases h
  · rw [Identifier.check_eq_ok_iff] at hname
    refine forall₂_writes (mapM_eq_ok_iff.mp h) fun operation hmem text htext => ?_
    obtain ⟨sql, hsql, htext⟩ := bind_eq_ok_iff.mp htext
    cases htext
    obtain ⟨hspells, hchecked⟩ := AlterOperation.writes_of_sql (ht operation hmem) hsql
    exact ⟨by simp [Span.text, hspells, String.append_assoc], by simp [hname, hchecked]⟩

/-- Recording an operation keeps new columns checked, if the operation is. -/
theorem isChecked_record {t : AlterTable} (ht : IsChecked free .table t)
    {operation : AlterOperation} (h : operation.IsChecked free) :
    IsChecked free .table (t.record operation) :=
  List.forall_mem_append.mpr ⟨ht, List.forall_mem_singleton.mpr h⟩

theorem isChecked_finishColumn {p : PendingColumn AlterTable} {t : AlterTable}
    (hp : IsChecked free .column p) (h : finishColumn p = .ok t) :
    IsChecked free .table t := by
  obtain ⟨⟨owner, column⟩, hfinish, h⟩ := bind_eq_ok_iff.mp h
  cases h
  obtain ⟨-, rfl, rfl⟩ := PendingColumn.finish_eq_ok_iff.mp hfinish
  exact isChecked_record hp.1 hp.2

/-- The columns that are handed over in a call. -/
def Call.accepted {before after : Phase} : Call before after → List ColumnDefinition
  | .acceptColumn c => [c]
  | _ => []

/-- **The columns that are handed over** in a chain of calls. -/
def Chain.accepted : {before after : Phase} → Chain before after → List ColumnDefinition
  | _, _, .nil => []
  | _, _, .snoc calls call => calls.accepted ++ call.accepted

/-- **A call keeps new columns checked.** -/
theorem isChecked_apply {before after : Phase} {call : Call before after} {s : State before}
    {s' : State after} (hs : IsChecked free before s) (hfree : ∀ c ∈ call.accepted, c.name ∈ free)
    (h : call.apply s = .ok s') : IsChecked free after s' := by
  cases call with
  | acceptColumn c =>
    cases h
    have hc : c.IsChecked free := .inr (hfree c List.mem_cons_self)
    exact isChecked_record hs hc
  | addColumn name =>
    obtain ⟨_, hname, h⟩ := bind_eq_ok_iff.mp h
    cases h
    exact ⟨hs, ColumnDefinition.isChecked_named hname⟩
  | define call =>
    cases h
    exact ⟨hs.1, ColumnDefinition.isChecked_apply hs.2 call⟩
  | columnDone => exact isChecked_finishColumn hs h
  | modifyColumn name =>
    cases h
    exact hs
  | change c =>
    cases h
    exact isChecked_record hs (by cases c <;> trivial)
  | changeDone =>
    cases h
    exact hs
  | _ =>
    -- all others record an operation that adds no column
    cases h
    exact isChecked_record hs trivial

/-- **A chain of calls keeps new columns checked.** -/
theorem isChecked_run {before after : Phase} {calls : Chain before after} {s : State before}
    {s' : State after} (hs : IsChecked free before s) (hfree : ∀ c ∈ calls.accepted, c.name ∈ free)
    (h : calls.run s = .ok s') : IsChecked free after s' := by
  induction calls with
  | nil =>
    rw [Chain.run] at h
    cases h
    exact hs
  | snoc calls call ih =>
    rw [Chain.run] at h
    obtain ⟨middle, hmiddle, h⟩ := bind_eq_ok_iff.mp h
    rw [Chain.accepted, List.forall_mem_append] at hfree
    obtain ⟨hcalls, hcall⟩ := hfree
    exact isChecked_apply (ih hcalls hmiddle) hcall h

/-- The table at the end of a chain; a new column that is being defined is finished. -/
def Chain.table (name : String) {phase : Phase} (calls : Chain .table phase) :
    Except Error AlterTable := do
  finished (← calls.run (named name))

/-- The table at the end of a chain has new columns that were looked at. -/
theorem isChecked_table {name : String} {phase : Phase} {calls : Chain .table phase}
    {t : AlterTable} (hfree : ∀ c ∈ calls.accepted, c.name ∈ free) (h : calls.table name = .ok t) :
    IsChecked free .table t := by
  obtain ⟨s, hs, h⟩ := bind_eq_ok_iff.mp h
  have hnone : IsChecked free .table (named name) := List.forall_mem_nil _
  have hs := isChecked_run hnone hfree hs
  cases phase with
  | table =>
    cases h
    exact hs
  | column => exact isChecked_finishColumn hs h
  | change =>
    cases h
    exact hs

end AlterTable

/-! ## Removing and emptying a table -/

namespace DropTable

/-- The spans of a statement that removes a table. -/
def spans (t : DropTable) : List Span :=
  [.words ("DROP TABLE " ++ (if t.ifExists then "IF EXISTS " else "")), .name t.name,
    .words (cascadeSql t.cascade)]

theorem writes_of_sql {t : DropTable} {text : String} (h : t.sql = .ok text) :
    Writes free t.spans text := by
  obtain ⟨_, hname, h⟩ := bind_eq_ok_iff.mp h
  cases h
  rw [Identifier.check_eq_ok_iff] at hname
  exact ⟨by simp [spans, Span.text, String.append_assoc], by simp [spans, hname]⟩

end DropTable

namespace TruncateTable

/-- The spans of a statement that empties a table. -/
def spans (t : TruncateTable) : List Span :=
  [.words "TRUNCATE TABLE ", .name t.name,
    .words ((if t.restartIdentity then " RESTART IDENTITY" else "") ++ cascadeSql t.cascade)]

theorem writes_of_sql {t : TruncateTable} {text : String} (h : t.sql = .ok text) :
    Writes free t.spans text := by
  obtain ⟨_, hname, h⟩ := bind_eq_ok_iff.mp h
  cases h
  rw [Identifier.check_eq_ok_iff] at hname
  exact ⟨by simp [spans, Span.text, String.append_assoc], by simp [spans, hname]⟩

end TruncateTable

end Written

/-! ## Chains -/

/-- **A change of tables that is put together call by call**, from the name of a table on. -/
inductive TableChain where
  /-- A table is created. -/
  | create (table : String) {phase : CreateTable.Phase} (calls : CreateTable.Chain .table phase)
  /-- A table is altered. -/
  | alter (table : String) {phase : AlterTable.Phase} (calls : AlterTable.Chain .table phase)
  /-- A table is removed. -/
  | drop (table : String) (calls : List DropTable.Call)
  /-- A table is emptied. -/
  | truncate (table : String) (calls : List TruncateTable.Call)

namespace TableChain

/-- **The texts at the end of a chain**: one statement, or one for each operation. -/
def texts : TableChain → Except Error (List String)
  | create table calls => do return [← (← calls.table table).sql]
  | alter table calls => do (← calls.table table).statements
  | drop table calls => do return [← (calls.foldl DropTable.apply (.named table)).sql]
  | truncate table calls => do return [← (calls.foldl TruncateTable.apply (.named table)).sql]

/-- The spans of the texts at the end of a chain. -/
def spans : TableChain → Except Error (List (List Span))
  | create table calls => do return [(← calls.table table).spans]
  | alter table calls => do return (← calls.table table).spans
  | drop table calls => .ok [(calls.foldl DropTable.apply (.named table)).spans]
  | truncate table calls => .ok [(calls.foldl TruncateTable.apply (.named table)).spans]

/-- **The columns that are handed over** in a chain, with their names in them. -/
def accepted : TableChain → List ColumnDefinition
  | create _ calls => calls.accepted
  | alter _ calls => calls.accepted
  | drop _ _ | truncate _ _ => []

/-- What is written for a chain, and that all names in it were looked at, but for those of the
columns that are handed over. -/
theorem isChecked_of_texts {c : TableChain} {texts : List String} (h : c.texts = .ok texts) :
    ∃ written, c.spans = .ok written ∧ texts = written.map Span.spell
      ∧ ∀ spans ∈ written, Span.IsChecked (c.accepted.map (·.name)) spans := by
  have hfree : ∀ column ∈ c.accepted, column.name ∈ c.accepted.map (·.name) := fun _ hcolumn =>
    List.mem_map_of_mem hcolumn
  cases c with
  | create table calls =>
    obtain ⟨t, ht, h⟩ := bind_eq_ok_iff.mp h
    obtain ⟨text, htext, h⟩ := bind_eq_ok_iff.mp h
    cases h
    obtain ⟨hspells, hchecked⟩ :=
      CreateTable.writes_of_sql (CreateTable.isChecked_table hfree ht) htext
    exact ⟨[t.spans], bind_eq_ok_iff.mpr ⟨t, ht, rfl⟩, congrArg (fun text => [text]) hspells,
      List.forall_mem_singleton.mpr hchecked⟩
  | alter table calls =>
    obtain ⟨t, ht, h⟩ := bind_eq_ok_iff.mp h
    obtain ⟨hspells, hchecked⟩ :=
      AlterTable.writes_of_statements (AlterTable.isChecked_table hfree ht) h
    exact ⟨t.spans, bind_eq_ok_iff.mpr ⟨t, ht, rfl⟩, hspells, hchecked⟩
  | drop table calls =>
    obtain ⟨text, htext, h⟩ := bind_eq_ok_iff.mp h
    cases h
    obtain ⟨hspells, hchecked⟩ := DropTable.writes_of_sql htext
    exact ⟨_, rfl, congrArg (fun text => [text]) hspells, List.forall_mem_singleton.mpr hchecked⟩
  | truncate table calls =>
    obtain ⟨text, htext, h⟩ := bind_eq_ok_iff.mp h
    cases h
    obtain ⟨hspells, hchecked⟩ := TruncateTable.writes_of_sql htext
    exact ⟨_, rfl, congrArg (fun text => [text]) hspells, List.forall_mem_singleton.mpr hchecked⟩

/-- **Names in texts about tables are identifiers**, but for those that constraints of columns refer
to, and those of columns that are handed over as a whole. Whatever the chain, the texts at its end
are spelled by its spans. Every name among them that is not written for such a reference is a bare
identifier; only the definition of a column may begin with another name, that of a column that was
handed over. -/
theorem names_of_texts {c : TableChain} {texts : List String} (h : c.texts = .ok texts) :
    ∃ written, c.spans = .ok written ∧ texts = written.map Span.spell
      ∧ ∀ spans ∈ written, (∀ name, .name name ∈ spans → IsIdentifier name)
        ∧ ∀ name, .column name ∈ spans →
          IsIdentifier name ∨ ∃ column ∈ c.accepted, column.name = name := by
  obtain ⟨written, hwritten, hspells, hchecked⟩ := isChecked_of_texts h
  refine ⟨written, hwritten, hspells, fun spans hspans =>
    ⟨fun name hname => ?_, fun name hname => ?_⟩⟩
  · exact hchecked spans hspans _ hname
  · exact (hchecked spans hspans _ hname).imp_right List.mem_map.mp

/-- A table that refers to another one in a column and to a third one in a constraint of its own. -/
def memberships : TableChain :=
  .create "shop.memberships" ((((CreateTable.Chain.nil.snoc (.column "user_id")).snoc
    (.define (.sqlType "integer"))).snoc (.define (.constraint (.references "users" "id")))).snoc
      (.thenConstraint (.foreignKey "user_id" "shop.people" "id")))

theorem names_memberships :
    memberships.texts = .ok ["CREATE TABLE shop.memberships (user_id INTEGER REFERENCES users(id), "
        ++ "FOREIGN KEY (user_id) REFERENCES shop.people(id))"]
      ∧ ∃ written, memberships.spans = .ok written
        ∧ ["CREATE TABLE shop.memberships (user_id INTEGER REFERENCES users(id), "
          ++ "FOREIGN KEY (user_id) REFERENCES shop.people(id))"] = written.map Span.spell
        ∧ ∀ spans ∈ written, (∀ name, .name name ∈ spans → IsIdentifier name)
          ∧ ∀ name, .column name ∈ spans →
            IsIdentifier name ∨ ∃ column ∈ memberships.accepted, column.name = name := by
  have htexts : memberships.texts
      = .ok ["CREATE TABLE shop.memberships (user_id INTEGER REFERENCES users(id), "
        ++ "FOREIGN KEY (user_id) REFERENCES shop.people(id))"] := by
    simp only [memberships, texts, CreateTable.Chain.table, CreateTable.Chain.run]
    rfl
  exact ⟨htexts, names_of_texts htexts⟩

/-- A column that refers to what is no name at all. -/
def injection : TableChain :=
  .create "orders" (((CreateTable.Chain.nil.snoc (.column "user_id")).snoc
    (.define (.sqlType "integer"))).snoc
      (.define (.constraint (.references "users(id)); DROP TABLE users; --" "id"))))

/-- A column that is handed over and has no name at all. -/
def handover : TableChain :=
  .create "orders" (CreateTable.Chain.nil.snoc
    (.acceptColumn ⟨"id INT); DROP TABLE users; --", some "INT", []⟩))

/-- **A reference of a column is written as it was given**, also if it is no identifier, and so is
the name of a column that is handed over. -/
theorem names_of_reference :
    injection.texts = .ok
        ["CREATE TABLE orders (user_id INTEGER REFERENCES users(id)); DROP TABLE users; --(id))"]
      ∧ (∃ written, injection.spans = .ok written
        ∧ ∃ spans ∈ written, .reference "users(id)); DROP TABLE users; --" ∈ spans)
      ∧ ¬IsIdentifier "users(id)); DROP TABLE users; --"
      ∧ handover.texts = .ok ["CREATE TABLE orders (id INT); DROP TABLE users; -- INT)"]
      ∧ (∃ written, handover.spans = .ok written
        ∧ ∃ spans ∈ written, .column "id INT); DROP TABLE users; --" ∈ spans)
      ∧ ¬IsIdentifier "id INT); DROP TABLE users; --" := by
  have hnone {name : String} (hcheck : Identifier.check "table" name ≠ .ok ()) :
      ¬IsIdentifier name :=
    fun h => hcheck (Identifier.check_eq_ok_iff.mpr h)
  refine ⟨?_, ⟨[CreateTable.spans ⟨"orders", false, [⟨"user_id", some "INTEGER",
    [.references "users(id)); DROP TABLE users; --" "id"]⟩], []⟩], ?_, _, List.mem_cons_self, ?_⟩,
    hnone nofun, ?_, ⟨[CreateTable.spans ⟨"orders", false,
      [⟨"id INT); DROP TABLE users; --", some "INT", []⟩], []⟩], ?_, _, List.mem_cons_self, ?_⟩,
    hnone nofun⟩
  · simp only [injection, texts, CreateTable.Chain.table, CreateTable.Chain.run]
    rfl
  · simp only [injection, spans, CreateTable.Chain.table, CreateTable.Chain.run]
    rfl
  · decide
  · simp only [handover, texts, CreateTable.Chain.table, CreateTable.Chain.run]
    rfl
  · simp only [handover, spans, CreateTable.Chain.table, CreateTable.Chain.run]
    rfl
  · decide

end TableChain

end PgStatement
