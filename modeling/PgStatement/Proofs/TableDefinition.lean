import PgStatement.Proofs.ColumnCalls
import PgStatement.Proofs.TableNames

/-!
# The table that calls define

A table is created by calls that lead from it to a column and back. What they say of it is a list of
items (`CreateTable.Item`), whatever the way they are chained: that a column begins, that something
is said of the column begun last, or that the table has a constraint. The columns of such a list are
told without the calls (`CreateTable.columns`): one for each that begins, with all that is said of
it before the next one begins.

A column that is handed over as a whole is recorded as it is, with any name. A chain that hands over
none and has not failed has recorded just what its calls say, and it has recorded good columns only:
their names are identifiers, none of them twice, and every column that is finished has a type. This
is what every call keeps (`CreateTable.follows_apply`), although names and types are looked at in
different places, the names when a column begins and the type when it is finished. So no column can
go wrong when the statement is written, and what can go wrong then is the name of the table, that it
has no columns, or one of its constraints (`CreateTable.defined_by_calls`).
-/

namespace PgStatement

/-! ## Constraints and columns -/

/-- A column is written if it has a type. -/
theorem ColumnDefinition.exists_sql_iff {c : ColumnDefinition} :
    (∃ definition, c.sql = .ok definition) ↔ c.sqlType?.isSome = true := by
  rw [sql]
  cases c.sqlType? with
  | none =>
    refine iff_of_false ?_ Bool.false_ne_true
    rintro ⟨definition, h⟩
    cases h
  | some sqlType => exact iff_of_true ⟨_, rfl⟩ rfl

namespace TableConstraint

/-- **What a constraint needs**: identifiers, and where it has a list of columns, at least one. -/
def IsValid : TableConstraint → Prop
  | .primaryKey columns | .unique columns => columns ≠ [] ∧ ∀ column ∈ columns, IsIdentifier column
  | .foreignKey column table reference =>
    IsIdentifier column ∧ IsIdentifier table ∧ IsIdentifier reference
  | .check name _ => IsIdentifier name

theorem exists_columnList_iff (kind : String) {columns : List String} :
    (∃ text, columnList kind columns = .ok text)
      ↔ columns ≠ [] ∧ ∀ column ∈ columns, IsIdentifier column := by
  constructor
  · rintro ⟨text, h⟩
    refine ⟨?_, (of_columnList h).2⟩
    rintro rfl
    cases h
  · rintro ⟨hne, hcolumns⟩
    have hempty : ¬columns.isEmpty = true := fun h => hne (List.isEmpty_iff.mp h)
    have hchecks : columns.forM (Identifier.check "column") = .ok () :=
      forM_eq_ok_iff.mpr fun column hcolumn =>
        Identifier.check_eq_ok_iff.mpr (hcolumns column hcolumn)
    refine ⟨", ".intercalate columns, ?_⟩
    rw [columnList, if_neg hempty]
    exact bind_eq_ok_iff.mpr ⟨(), hchecks, rfl⟩

/-- **A constraint is written if it has what it needs.** -/
theorem exists_sql_iff {c : TableConstraint} : (∃ text, c.sql = .ok text) ↔ c.IsValid := by
  cases c with
  | primaryKey columns => exact exists_bind_ok_iff.trans (exists_columnList_iff "PRIMARY KEY")
  | unique columns => exact exists_bind_ok_iff.trans (exists_columnList_iff "UNIQUE")
  | foreignKey column table reference =>
    rw [IsValid, ← @Identifier.check_eq_ok_iff "foreign key column",
      ← @Identifier.check_eq_ok_iff "referenced table",
      ← @Identifier.check_eq_ok_iff "referenced column"]
    constructor
    · rintro ⟨_, h⟩
      obtain ⟨_, hcolumn, h⟩ := bind_eq_ok_iff.mp h
      obtain ⟨_, htable, h⟩ := bind_eq_ok_iff.mp h
      obtain ⟨_, hreference, -⟩ := bind_eq_ok_iff.mp h
      exact ⟨hcolumn, htable, hreference⟩
    · rintro ⟨hcolumn, htable, hreference⟩
      exact ⟨_, bind_eq_ok_iff.mpr ⟨(), hcolumn, bind_eq_ok_iff.mpr ⟨(), htable,
        bind_eq_ok_iff.mpr ⟨(), hreference, rfl⟩⟩⟩⟩
  | check name expression =>
    rw [IsValid, ← @Identifier.check_eq_ok_iff "constraint"]
    constructor
    · rintro ⟨_, h⟩
      obtain ⟨_, hname, -⟩ := bind_eq_ok_iff.mp h
      exact hname
    · intro hname
      exact ⟨_, bind_eq_ok_iff.mpr ⟨(), hname, rfl⟩⟩

end TableConstraint

namespace CreateTable

/-! ## What calls say -/

/-- **An item of what calls say of a table.** -/
inductive Item where
  /-- It is no error that the table exists. -/
  | ifNotExists
  /-- A column begins. -/
  | column (name : String)
  /-- Something is said of the column that began last. -/
  | ofColumn (call : ColumnCall)
  /-- The table has a constraint. -/
  | constraint (c : TableConstraint)

namespace Item

/-- The constraint of an item. -/
def constraint? : Item → Option TableConstraint
  | .constraint c => some c
  | _ => none

/-- What is said of a column before another one begins. -/
def said : List Item → List ColumnCall
  | [] | .column _ :: _ => []
  | .ofColumn call :: rest => call :: said rest
  | _ :: rest => said rest

/-- **The columns of items**, in the order in which they begin. -/
def columns : List Item → List ColumnDefinition
  | [] => []
  | .column name :: rest => .defined name (said rest) :: columns rest
  | _ :: rest => columns rest

variable {items more : List Item}

/-- Before a column begins, nothing is said of one. -/
theorem append_of_columns_eq_nil (h : columns items = []) (more : List Item) :
    said (items ++ more) = said items ++ said more ∧ columns (items ++ more) = columns more := by
  induction items with
  | nil => exact ⟨rfl, rfl⟩
  | cons item rest ih =>
    cases item with
    | column name => cases h
    | ofColumn call => exact (ih h).imp_left (congrArg (call :: ·))
    | ifNotExists => exact ih h
    | constraint c => exact ih h

/-- Once another column begins, nothing more is said of the one before it. -/
theorem said_append_of_columns_ne_nil (h : columns items ≠ []) :
    said (items ++ more) = said items := by
  induction items with
  | nil => exact absurd rfl h
  | cons item rest ih =>
    cases item with
    | column name => rfl
    | ofColumn call => exact congrArg (call :: ·) (ih h)
    | ifNotExists => exact ih h
    | constraint c => exact ih h

/-- **Columns that have begun stay as they are** if nothing more is said of them. -/
theorem columns_append (h : said more = []) :
    columns (items ++ more) = columns items ++ columns more := by
  induction items with
  | nil => rfl
  | cons item rest ih =>
    cases item with
    | column name =>
      have hsaid : said (rest ++ more) = said rest := by
        by_cases hrest : columns rest = []
        · rw [(append_of_columns_eq_nil hrest more).1, h, List.append_nil]
        · exact said_append_of_columns_ne_nil hrest
      rw [List.cons_append, columns, hsaid, ih]
      rfl
    | ofColumn call => exact ih
    | ifNotExists => exact ih
    | constraint c => exact ih

/-- What is said of the table leaves its columns as they are. -/
theorem columns_concat_eq {item : Item} (hsaid : said [item] = [])
    (hcolumns : columns [item] = []) :
    columns (items ++ [item]) = columns items := by
  rw [columns_append hsaid, hcolumns, List.append_nil]

/-- **What is said of a column is said of the last one.** -/
theorem columns_concat_ofColumn {front : List ColumnDefinition} {c : ColumnDefinition}
    (h : columns items = front ++ [c]) (call : ColumnCall) :
    columns (items ++ [.ofColumn call]) = front ++ [c.apply call] := by
  induction items generalizing front with
  | nil => exact absurd h.symm (List.append_ne_nil_of_right_ne_nil _ (List.cons_ne_nil _ _))
  | cons item rest ih =>
    cases item with
    | column name =>
      rw [List.cons_append, columns]
      cases front with
      | nil =>
        -- the column is the last one, and nothing but what is said of it follows
        obtain ⟨rfl, hrest⟩ := List.cons.inj h
        obtain ⟨hsaid, hcolumns⟩ := append_of_columns_eq_nil hrest [.ofColumn call]
        rw [hsaid, hcolumns, List.nil_append, ← ColumnDefinition.defined_concat]
        rfl
      | cons d front =>
        obtain ⟨rfl, hrest⟩ := List.cons.inj h
        have hne : columns rest ≠ [] := by
          rw [hrest]
          exact List.append_ne_nil_of_right_ne_nil _ (List.cons_ne_nil _ _)
        rw [said_append_of_columns_ne_nil hne, ih hrest]
        rfl
    | ofColumn call => exact ih h
    | ifNotExists => exact ih h
    | constraint c => exact ih h

end Item

/-- The items of a call. That a column is finished says nothing more of it, and columns that are
handed over are not begun. -/
def Call.items {before after : Phase} : Call before after → List Item
  | .ifNotExists => [.ifNotExists]
  | .acceptColumn _ => []
  | .column name | .nextColumn name => [.column name]
  | .constraint c | .thenConstraint c => [.constraint c]
  | .define call => [.ofColumn call]
  | .done => []

/-- **The items of a chain of calls**, in their order. -/
def Chain.items : {first last : Phase} → Chain first last → List Item
  | _, _, .nil => []
  | _, _, .snoc calls call => calls.items ++ call.items

/-! ## What is recorded -/

/-- The table of a state. It has the columns that are finished. -/
def tableOf : {phase : Phase} → State phase → CreateTable
  | .table, t => t
  | .column, p => p.owner

/-- The column that is being defined, if there is one. -/
def pending? : {phase : Phase} → State phase → Option ColumnDefinition
  | .table, _ => none
  | .column, p => some p.column

/-- The columns that have begun: the finished ones, and the one that is being defined. -/
def begun {phase : Phase} (s : State phase) : List ColumnDefinition :=
  (tableOf s).columns ++ (pending? s).toList

/-- **A state is what items say**, and its columns are good ones. -/
structure Follows (table : String) (items : List Item) (phase : Phase) (s : State phase) :
    Prop where
  /-- The table has its name. -/
  name_eq : (tableOf s).name = table
  /-- It may exist if that was said. -/
  ifNotExists_iff : (tableOf s).ifNotExists = true ↔ .ifNotExists ∈ items
  /-- Its columns are those that began, in that order, with all that was said of them. -/
  begun_eq : begun s = Item.columns items
  /-- Its constraints are those that were given, in that order. -/
  constraints_eq : (tableOf s).constraints = items.filterMap Item.constraint?
  /-- The names of its columns are identifiers. -/
  isIdentifier : ∀ c ∈ begun s, IsIdentifier c.name
  /-- No two columns share a name. -/
  nodup : ((begun s).map (·.name)).Nodup
  /-- Finished columns have a type. -/
  isTyped : ∀ c ∈ (tableOf s).columns, c.sqlType?.isSome = true

variable {table : String} {items : List Item} {t : CreateTable} {p : PendingColumn CreateTable}

theorem begun_table (t : CreateTable) : @begun .table t = t.columns := List.append_nil _

theorem begun_column (p : PendingColumn CreateTable) :
    @begun .column p = p.owner.columns ++ [p.column] :=
  rfl

theorem follows_named (table : String) : Follows table [] .table (named table) where
  name_eq := rfl
  ifNotExists_iff := iff_of_false nofun nofun
  begun_eq := rfl
  constraints_eq := rfl
  isIdentifier := nofun
  nodup := List.nodup_nil
  isTyped := nofun

/-- A column is begun if its name is an identifier that no finished column has. -/
theorem column_eq_ok_iff {name : String} :
    t.column name = .ok p
      ↔ IsIdentifier name ∧ name ∉ t.columns.map (·.name) ∧ p = ⟨t, .named name⟩ := by
  have hany : t.columns.any (·.name == name) = true ↔ name ∈ t.columns.map (·.name) := by
    simp only [List.any_eq_true, beq_iff_eq, List.mem_map]
  rw [column, bind_eq_ok_iff, ← hany]
  constructor
  · rintro ⟨_, hname, h⟩
    simp only at h
    split at h
    · cases h
    · rename_i hnew
      exact ⟨Identifier.check_eq_ok_iff.mp hname, hnew, (Except.ok.inj h).symm⟩
  · rintro ⟨hname, hnew, rfl⟩
    refine ⟨(), Identifier.check_eq_ok_iff.mpr hname, ?_⟩
    simp only
    rw [if_neg hnew]
    rfl

/-- A column is finished if it has a type. -/
theorem finishColumn_eq_ok_iff :
    finishColumn p = .ok t ↔ p.column.sqlType?.isSome = true ∧ t = p.owner.addColumn p.column := by
  rw [finishColumn, bind_eq_ok_iff]
  constructor
  · rintro ⟨⟨owner, column⟩, hfinish, h⟩
    obtain ⟨htype, rfl, rfl⟩ := PendingColumn.finish_eq_ok_iff.mp hfinish
    exact ⟨htype, (Except.ok.inj h).symm⟩
  · rintro ⟨htype, rfl⟩
    exact ⟨_, PendingColumn.finish_eq_ok_iff.mpr ⟨htype, rfl, rfl⟩, rfl⟩

namespace Follows

/-- **A column begins** behind the others. -/
theorem column (h : Follows table items .table t) {name : String} (hname : IsIdentifier name)
    (hnew : name ∉ t.columns.map (·.name)) :
    Follows table (items ++ [.column name]) .column ⟨t, .named name⟩ where
  name_eq := h.name_eq
  ifNotExists_iff := h.ifNotExists_iff.trans (by simp)
  begun_eq := by
    rw [Item.columns_append rfl, ← h.begun_eq, begun_table, begun_column]
    rfl
  constraints_eq := by
    rw [List.filterMap_append]
    exact h.constraints_eq.trans (List.append_nil _).symm
  isIdentifier := by
    rw [begun_column, List.forall_mem_append, List.forall_mem_singleton, ← begun_table]
    exact ⟨h.isIdentifier, hname⟩
  nodup := by
    rw [begun_column, List.map_append, List.map_singleton, List.nodup_append]
    refine ⟨begun_table t ▸ h.nodup, List.pairwise_singleton _ _, ?_⟩
    rintro other hother _ hlast rfl
    rw [List.mem_singleton.mp hlast] at hother
    exact hnew hother
  isTyped := h.isTyped

/-- **More is said** of the column that is being defined. -/
theorem define (h : Follows table items .column p) (call : ColumnCall) :
    Follows table (items ++ [.ofColumn call]) .column (p.apply call) := by
  have hname : (p.column.apply call).name = p.column.name := by
    cases call <;> rfl
  have hnames : (@begun .column (p.apply call)).map (·.name) = (@begun .column p).map (·.name) := by
    rw [begun_column, begun_column, List.map_append, List.map_append]
    exact congrArg (fun name => p.owner.columns.map (·.name) ++ [name]) hname
  exact {
    name_eq := h.name_eq
    ifNotExists_iff := h.ifNotExists_iff.trans (by simp)
    begun_eq := (Item.columns_concat_ofColumn h.begun_eq.symm call).symm
    constraints_eq := by
      rw [List.filterMap_append]
      exact h.constraints_eq.trans (List.append_nil _).symm
    isIdentifier := by
      rw [begun_column, List.forall_mem_append, List.forall_mem_singleton]
      have hbefore := h.isIdentifier
      rw [begun_column, List.forall_mem_append, List.forall_mem_singleton] at hbefore
      refine ⟨hbefore.1, ?_⟩
      exact hname ▸ hbefore.2
    nodup := hnames ▸ h.nodup
    isTyped := h.isTyped }

/-- **A column is finished**, which says nothing more. -/
theorem finish (h : Follows table items .column p) (htype : p.column.sqlType?.isSome = true) :
    Follows table items .table (p.owner.addColumn p.column) := by
  have hbegun : @begun .table (p.owner.addColumn p.column) = @begun .column p := begun_table _
  exact {
    name_eq := h.name_eq
    ifNotExists_iff := h.ifNotExists_iff
    begun_eq := hbegun.trans h.begun_eq
    constraints_eq := h.constraints_eq
    isIdentifier := hbegun ▸ h.isIdentifier
    nodup := hbegun ▸ h.nodup
    isTyped := List.forall_mem_append.mpr ⟨h.isTyped, List.forall_mem_singleton.mpr htype⟩ }

/-- **A constraint is added** behind the others. -/
theorem constrain (h : Follows table items .table t) (c : TableConstraint) :
    Follows table (items ++ [.constraint c]) .table (t.constrain c) where
  name_eq := h.name_eq
  ifNotExists_iff := h.ifNotExists_iff.trans (by simp)
  begun_eq := h.begun_eq.trans (Item.columns_concat_eq rfl rfl).symm
  constraints_eq := by
    rw [List.filterMap_append, ← h.constraints_eq]
    rfl
  isIdentifier := h.isIdentifier
  nodup := h.nodup
  isTyped := h.isTyped

/-- **It is said that the table may exist.** -/
theorem ifNotExists (h : Follows table items .table t) :
    Follows table (items ++ [.ifNotExists]) .table { t with ifNotExists := true } where
  name_eq := h.name_eq
  ifNotExists_iff := iff_of_true rfl (List.mem_append_right _ List.mem_cons_self)
  begun_eq := h.begun_eq.trans (Item.columns_concat_eq rfl rfl).symm
  constraints_eq := by
    rw [List.filterMap_append]
    exact h.constraints_eq.trans (List.append_nil _).symm
  isIdentifier := h.isIdentifier
  nodup := h.nodup
  isTyped := h.isTyped

end Follows

/-- **A call adds its items.** -/
theorem follows_apply {before after : Phase} {call : Call before after} {s : State before}
    {s' : State after}
    (hs : Follows table items before s) (hnone : call.accepted = []) (h : call.apply s = .ok s') :
    Follows table (items ++ call.items) after s' := by
  cases call with
  | acceptColumn c => cases hnone
  | ifNotExists =>
    obtain rfl := Except.ok.inj h
    exact hs.ifNotExists
  | column name =>
    obtain ⟨hname, hnew, rfl⟩ := column_eq_ok_iff.mp h
    exact hs.column hname hnew
  | constraint c =>
    obtain rfl := Except.ok.inj h
    exact hs.constrain c
  | define call =>
    obtain rfl := Except.ok.inj h
    exact hs.define call
  | done =>
    obtain ⟨htype, rfl⟩ := finishColumn_eq_ok_iff.mp h
    rw [Call.items, List.append_nil]
    exact hs.finish htype
  | nextColumn name =>
    obtain ⟨t, ht, h⟩ := bind_eq_ok_iff.mp h
    obtain ⟨htype, rfl⟩ := finishColumn_eq_ok_iff.mp ht
    obtain ⟨hname, hnew, rfl⟩ := column_eq_ok_iff.mp h
    exact (hs.finish htype).column hname hnew
  | thenConstraint c =>
    obtain ⟨t, ht, h⟩ := bind_eq_ok_iff.mp h
    obtain ⟨htype, rfl⟩ := finishColumn_eq_ok_iff.mp ht
    obtain rfl := Except.ok.inj h
    exact (hs.finish htype).constrain c

/-- **A chain of calls adds its items.** -/
theorem follows_run {first last : Phase} {calls : Chain first last} {s : State first}
    {s' : State last}
    (hs : Follows table items first s) (hnone : calls.accepted = []) (h : calls.run s = .ok s') :
    Follows table (items ++ calls.items) last s' := by
  induction calls with
  | nil =>
    rw [Chain.run] at h
    obtain rfl := Except.ok.inj h
    rw [Chain.items, List.append_nil]
    exact hs
  | snoc calls call ih =>
    rw [Chain.run] at h
    obtain ⟨middle, hmiddle, h⟩ := bind_eq_ok_iff.mp h
    rw [Chain.accepted, List.append_eq_nil_iff] at hnone
    rw [Chain.items, ← List.append_assoc]
    exact follows_apply (ih hnone.1 hmiddle) hnone.2 h

/-! ## What can fail -/

/-- The call that begins a column. -/
def Call.begin : (phase : Phase) → String → Call phase .column
  | .table, name => .column name
  | .column, name => .nextColumn name

/-- What is being defined can be finished if it has a type. -/
theorem exists_finished_iff {phase : Phase} {s : State phase} :
    (∃ t, finished s = .ok t) ↔ ∀ c ∈ pending? s, c.sqlType?.isSome = true := by
  cases phase with
  | table => exact iff_of_true ⟨s, rfl⟩ nofun
  | column =>
    constructor
    · rintro ⟨t, ht⟩ _ ⟨⟩
      exact (finishColumn_eq_ok_iff.mp ht).1
    · intro htype
      exact ⟨_, finishColumn_eq_ok_iff.mpr ⟨htype _ rfl, rfl⟩⟩

/-- Finishing what is being defined says nothing more. -/
theorem Follows.finished {phase : Phase} {s : State phase} (hs : Follows table items phase s)
    (h : finished s = .ok t) : Follows table items .table t := by
  cases phase with
  | table =>
    obtain rfl := Except.ok.inj h
    exact hs
  | column =>
    obtain ⟨htype, rfl⟩ := finishColumn_eq_ok_iff.mp h
    exact hs.finish htype

/-- **A column can be begun** if what is being defined can be finished, and the name is an
identifier that no column has. -/
theorem exists_begin_iff {phase : Phase} {s : State phase} {name : String} :
    (∃ p, (Call.begin phase name).apply s = .ok p)
      ↔ IsIdentifier name ∧ name ∉ (begun s).map (·.name)
        ∧ ∀ c ∈ pending? s, c.sqlType?.isSome = true := by
  cases phase with
  | table =>
    rw [begun_table]
    constructor
    · rintro ⟨p, hp⟩
      obtain ⟨hname, hnew, -⟩ := column_eq_ok_iff.mp hp
      exact ⟨hname, hnew, nofun⟩
    · rintro ⟨hname, hnew, -⟩
      exact ⟨_, column_eq_ok_iff.mpr ⟨hname, hnew, rfl⟩⟩
  | column =>
    rw [← exists_finished_iff]
    constructor
    · rintro ⟨p, hp⟩
      obtain ⟨t, ht, hp⟩ := bind_eq_ok_iff.mp hp
      obtain ⟨htype, rfl⟩ := finishColumn_eq_ok_iff.mp ht
      obtain ⟨hname, hnew, -⟩ := column_eq_ok_iff.mp hp
      exact ⟨hname, hnew, _, ht⟩
    · rintro ⟨hname, hnew, t, ht⟩
      obtain ⟨htype, rfl⟩ := finishColumn_eq_ok_iff.mp ht
      exact ⟨_, bind_eq_ok_iff.mpr ⟨_, ht, column_eq_ok_iff.mpr ⟨hname, hnew, rfl⟩⟩⟩

/-- **The statement**: the definitions of the columns in their order, and the constraints behind
them. -/
theorem sql_eq_ok_iff {text : String} :
    t.sql = .ok text
      ↔ IsIdentifier t.name ∧ t.columns ≠ [] ∧ ∃ definitions constraints : List String,
        List.Forall₂ (fun c definition => c.sql = .ok definition) t.columns definitions
          ∧ List.Forall₂ (fun c constraint => c.sql = .ok constraint) t.constraints constraints
          ∧ text = "CREATE TABLE " ++ (if t.ifNotExists then "IF NOT EXISTS " else "") ++ t.name
            ++ " (" ++ ", ".intercalate (definitions ++ constraints) ++ ")" := by
  rw [sql, bind_eq_ok_iff]
  constructor
  · rintro ⟨_, hname, h⟩
    simp only at h
    split at h
    · cases h
    · rename_i hsome
      obtain ⟨definitions, hdefinitions, h⟩ := bind_eq_ok_iff.mp h
      obtain ⟨constraints, hconstraints, h⟩ := bind_eq_ok_iff.mp h
      exact ⟨Identifier.check_eq_ok_iff.mp hname, fun hnil => hsome (List.isEmpty_iff.mpr hnil),
        definitions, constraints, mapM_eq_ok_iff.mp hdefinitions, mapM_eq_ok_iff.mp hconstraints,
        (Except.ok.inj h).symm⟩
  · rintro ⟨hname, hne, definitions, constraints, hdefinitions, hconstraints, rfl⟩
    refine ⟨(), Identifier.check_eq_ok_iff.mpr hname, ?_⟩
    simp only
    rw [if_neg fun hnil => hne (List.isEmpty_iff.mp hnil)]
    exact bind_eq_ok_iff.mpr ⟨definitions, mapM_eq_ok_iff.mpr hdefinitions,
      bind_eq_ok_iff.mpr ⟨constraints, mapM_eq_ok_iff.mpr hconstraints, rfl⟩⟩

/-- **A statement is written** if every column has a type, and it has what it needs besides. -/
theorem exists_sql_iff (htyped : ∀ c ∈ t.columns, c.sqlType?.isSome = true) :
    (∃ text, t.sql = .ok text)
      ↔ IsIdentifier t.name ∧ t.columns ≠ [] ∧ ∀ c ∈ t.constraints, c.IsValid := by
  constructor
  · rintro ⟨text, h⟩
    obtain ⟨hname, hne, _, constraints, -, hconstraints, -⟩ := sql_eq_ok_iff.mp h
    refine ⟨hname, hne, fun c hc => ?_⟩
    obtain ⟨constraint, -, hconstraint⟩ := exists_of_forall₂_left hconstraints hc
    exact TableConstraint.exists_sql_iff.mp ⟨constraint, hconstraint⟩
  · rintro ⟨hname, hne, hvalid⟩
    obtain ⟨definitions, hdefinitions⟩ := exists_forall₂_of_forall fun c hc =>
      ColumnDefinition.exists_sql_iff.mpr (htyped c hc)
    obtain ⟨constraints, hconstraints⟩ := exists_forall₂_of_forall fun c hc =>
      TableConstraint.exists_sql_iff.mpr (hvalid c hc)
    exact ⟨_,
      sql_eq_ok_iff.mpr ⟨hname, hne, definitions, constraints, hdefinitions, hconstraints, rfl⟩⟩

/-- **What can go wrong with the statement** if every column has a type. -/
theorem of_sql_eq_error (htyped : ∀ c ∈ t.columns, c.sqlType?.isSome = true) {e : Error}
    (h : t.sql = .error e) :
    Identifier.check "table" t.name = .error e ∨ t.columns = [] ∧ e = noColumns
      ∨ ∃ c ∈ t.constraints, c.sql = .error e := by
  rw [sql, bind_eq_error_iff] at h
  obtain hname | ⟨_, -, h⟩ := h
  · exact .inl hname
  · simp only at h
    split at h
    · rename_i hempty
      exact .inr (.inl ⟨List.isEmpty_iff.mp hempty, (Except.error.inj h).symm⟩)
    · obtain h | ⟨_, -, h⟩ := bind_eq_error_iff.mp h
      · -- no column goes wrong
        obtain ⟨c, hc, herror⟩ := exists_of_mapM_eq_error h
        obtain ⟨definition, hdefinition⟩ := ColumnDefinition.exists_sql_iff.mpr (htyped c hc)
        rw [hdefinition] at herror
        cases herror
      · obtain h | ⟨_, -, h⟩ := bind_eq_error_iff.mp h
        · exact .inr (.inr (exists_of_mapM_eq_error h))
        · cases h

/-- **A table is what calls define**, and its columns never go wrong. After a chain of calls that
hands over no column and has not failed, the columns are those that the calls begin, in that order
and with all that they say of them, and so are the constraints; the names of the columns are
identifiers, all different, and every finished column has a type. Another column cannot be begun
exactly if its name is no identifier or that of a column that has begun, or if the column that is
being defined has no type. Of the table with what is being defined finished, every column can be
written, and the statement is written if the table has an identifier for its name, columns, and
constraints that have what they need. Then it has the definitions of the columns, each once, and the
constraints behind them. -/
theorem defined_by_calls (table : String) {phase : Phase} (calls : Chain .table phase)
    (hnone : calls.accepted = []) {s : State phase} (h : calls.run (named table) = .ok s) :
    Follows table calls.items phase s
      ∧ (∀ name, (∃ e, (Call.begin phase name).apply s = .error e)
        ↔ ¬IsIdentifier name ∨ name ∈ (begun s).map (·.name)
          ∨ ∃ c ∈ pending? s, c.sqlType? = none)
      ∧ ((∃ e, finished s = .error e) ↔ ∃ c ∈ pending? s, c.sqlType? = none)
      ∧ ∀ t, finished s = .ok t →
        t.columns = Item.columns calls.items
          ∧ (∀ c ∈ t.columns, ∃ definition, c.sql = .ok definition)
          ∧ ((∃ text, t.sql = .ok text)
            ↔ IsIdentifier table ∧ t.columns ≠ [] ∧ ∀ c ∈ t.constraints, c.IsValid)
          ∧ (∀ e, t.sql = .error e → Identifier.check "table" table = .error e
            ∨ t.columns = [] ∧ e = noColumns ∨ ∃ c ∈ t.constraints, c.sql = .error e)
          ∧ ∀ text, t.sql = .ok text → ∃ definitions constraints : List String,
            List.Forall₂ (fun c definition => c.sql = .ok definition) t.columns definitions
              ∧ List.Forall₂ (fun c constraint => c.sql = .ok constraint) t.constraints constraints
              ∧ text = "CREATE TABLE " ++ (if t.ifNotExists then "IF NOT EXISTS " else "") ++ table
                ++ " (" ++ ", ".intercalate (definitions ++ constraints) ++ ")" := by
  have hs : Follows table calls.items phase s := follows_run (follows_named table) hnone h
  have huntyped : (∃ c ∈ pending? s, c.sqlType? = none)
      ↔ ¬∀ c ∈ pending? s, c.sqlType?.isSome = true := by
    simp only [not_forall, exists_prop, Bool.not_eq_true, Option.isSome_eq_false_iff,
      Option.isNone_iff_eq_none]
  refine ⟨hs, fun name => ?_, ?_, fun t ht => ?_⟩
  · rw [exists_eq_error_iff, exists_begin_iff, huntyped, not_and_or, not_and_or, not_not]
  · rw [exists_eq_error_iff, exists_finished_iff, huntyped]
  · have ht := hs.finished ht
    refine ⟨(begun_table t).symm.trans ht.begun_eq,
      fun c hc => ColumnDefinition.exists_sql_iff.mpr (ht.isTyped c hc),
      ht.name_eq ▸ exists_sql_iff ht.isTyped,
      fun e he => ht.name_eq ▸ of_sql_eq_error ht.isTyped he, fun text htext => ?_⟩
    obtain ⟨-, -, hparts⟩ := sql_eq_ok_iff.mp htext
    exact ht.name_eq ▸ hparts

/-- A table with two columns and a constraint of both, and with a third column that is being
defined. -/
def visits : Chain .table .column :=
  ((((((((Chain.nil.snoc (.column "visitor")).snoc (.define (.sqlType "bigint"))).snoc
    (.nextColumn "place")).snoc (.define (.constraint .notNull))).snoc
    (.define (.sqlType "text"))).snoc (.thenConstraint (.primaryKey ["visitor", "place"]))).snoc
    .ifNotExists).snoc (.column "seen")).snoc (.define (.sqlType "date"))

theorem defined_by_calls_visits :
    ∃ s : PendingColumn CreateTable, visits.run (named "visits") = .ok s
      ∧ Follows "visits" visits.items .column s
      ∧ (∃ e, (Call.nextColumn "place").apply s = .error e)
      ∧ ∃ t, finishColumn s = .ok t ∧ t.columns = Item.columns visits.items
        ∧ t.sql = .ok
          ("CREATE TABLE IF NOT EXISTS visits (visitor BIGINT, place TEXT NOT NULL, seen DATE, "
            ++ "PRIMARY KEY (visitor, place))") := by
  have hrun : visits.run (named "visits") = .ok
      ⟨⟨"visits", true, [⟨"visitor", some "BIGINT", []⟩, ⟨"place", some "TEXT", [.notNull]⟩],
        [.primaryKey ["visitor", "place"]]⟩, ⟨"seen", some "DATE", []⟩⟩ := by
    simp only [visits, Chain.run]
    rfl
  have hnone : visits.accepted = [] := by
    simp only [visits, Chain.accepted, Call.accepted, List.append_nil]
  obtain ⟨hfollows, hbegin, -, hfinished⟩ := defined_by_calls "visits" visits hnone hrun
  have htwice := (hbegin "place").mpr (.inr (.inl (by decide)))
  exact ⟨_, hrun, hfollows, htwice, _, rfl, (hfinished _ rfl).1, rfl⟩

end CreateTable

end PgStatement
