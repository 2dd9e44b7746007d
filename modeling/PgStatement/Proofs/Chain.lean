import PgStatement.Proofs.Record
import PgStatement.Query.Delete
import PgStatement.Query.Insert
import PgStatement.Query.Select
import PgStatement.Query.Update

/-!
# Chains of calls

A statement about data is put together by a chain of calls: on a selection, an insertion, an update
or a deletion, from its first state on. What can be said of *every* such statement is said of chains
(`Chain`), and of the calls rather than of the state they lead to, which is an affair of the
library.

Two things are read off the calls here. One is the expressions in a chain, the texts that are
written into the statement without being looked at (`Chain.expressions`). The other is the values
given in it, in the order of the clauses of the statement (`Chain.values`): first what is inserted
or assigned, then the operands of the conditions as they were added, then the two amounts. Calls may
come in another order, and later ones may take the place of earlier ones; that is what the
definitions spell out, each for its statement, and what the theorems at the end relate to the state.
-/

namespace PgStatement

/-! ## Runs

A state is what is left of a chain of calls. Of a part of it that every call leaves alone, extends
or sets, this can be said for all chains at once. -/

section Runs

variable {σ κ γ : Type} {apply : σ → κ → σ}

/-- What the calls add comes together in order. -/
theorem foldl_append {part : σ → List γ} {added? : κ → Option γ}
    (h : ∀ q call, part (apply q call) = part q ++ (added? call).toList) (q : σ) (calls : List κ) :
    part (calls.foldl apply q) = part q ++ calls.filterMap added? := by
  induction calls generalizing q with
  | nil => exact (List.append_nil _).symm
  | cons call calls ih =>
    rw [List.foldl_cons, ih, h, List.append_assoc, List.filterMap_cons]
    cases added? call <;> rfl

/-- What the calls set last is there, and else what was there before. -/
theorem foldl_or (part : σ → Option γ) {set? : κ → Option γ}
    (h : ∀ q call, part (apply q call) = (set? call).or (part q)) (q : σ) (calls : List κ) :
    part (calls.foldl apply q) = (calls.filterMap set?).getLast?.or (part q) := by
  induction calls generalizing q with
  | nil => rfl
  | cons call calls ih =>
    rw [List.foldl_cons, ih, h, List.filterMap_cons]
    cases set? call <;> simp [List.getLast?_cons]

/-- What comes to be in a set of things was there before or comes with a call. -/
theorem foldl_mem {part : σ → List γ} {brought : κ → List γ} {x : γ}
    (h : ∀ q call, x ∈ part (apply q call) → x ∈ part q ∨ x ∈ brought call) (q : σ)
    (calls : List κ) (hx : x ∈ part (calls.foldl apply q)) :
    x ∈ part q ∨ x ∈ calls.flatMap brought := by
  induction calls generalizing q with
  | nil => exact .inl hx
  | cons call calls ih =>
    rw [List.flatMap_cons, List.mem_append]
    rcases ih (apply q call) hx with hx | hx
    · exact (h q call hx).imp_right .inl
    · exact .inr (.inr hx)

end Runs

/-! ## Values in a statement -/

/-- The values of an operand, in order. -/
def Operand.values : Operand → List Value
  | .none => []
  | .single v => [v]
  | .pair low high => [low, high]
  | .list values => values

/-- **The values that a condition compares with.** What an operator does not need is not among
them. -/
def Condition.values (c : Condition) : List Value :=
  match c.operator.shape with
  | .nothing => []
  | _ => c.operand.values

/-- The value that an amount is bound as. -/
def Pagination.amountValue (amount : UInt64) : Value := .int (Int64.ofNat amount.toNat)

/-- The values of the amounts that are set. -/
def Pagination.values (p : Pagination) : List Value :=
  (p.limit.toList ++ p.offset.toList).map amountValue

/-- The values of the rows of an insertion, row by row, a value for each column of the first one. -/
def Rows.values : Rows → List Value
  | .none => []
  | .single record => record.values
  | .many [] => []
  | .many (first :: rest) => (first :: rest).flatMap (Insert.row first.keys)

/-- The texts of a field that are written as they are. -/
def SelectField.expressions : SelectField → List String
  | .column expression => [expression]
  | .aggregate a => a.column :: a.label?.toList

/-! ## Selections -/

namespace Select

/-- The condition that a call adds. -/
def Call.condition? : Call → Option Condition
  | .condition c => some c
  | _ => none

/-- The table that a call selects from. -/
def Call.table? : Call → Option String
  | .fromTable table => some table
  | _ => none

/-- The number of rows to be taken that a call sets. -/
def Call.limit? : Call → Option UInt64
  | .limit amount => some amount
  | _ => none

/-- The number of rows to be skipped that a call sets. -/
def Call.offset? : Call → Option UInt64
  | .offset amount => some amount
  | _ => none

/-- The texts of a call that are written as they are. -/
def Call.expressions : Call → List String
  | .field f => f.expressions
  | .condition c => [c.field]
  | .groupBy columns => columns
  | .orderBy column => [column]
  | .orderByDesc column => [column]
  | _ => []

/-- The texts of a selection that are written as they are. -/
def expressions (q : Select) : List String :=
  q.fields.flatMap SelectField.expressions ++ q.conditions.map Condition.field ++ q.groups
    ++ q.ordering.items.map Prod.fst

/-- The values in a selection, in the order of its clauses. -/
def values (q : Select) : List Value := q.conditions.flatMap Condition.values ++ q.pagination.values

@[simp] theorem conditions_field (q : Select) (f : SelectField) :
    (q.field f).conditions = q.conditions := by
  unfold field
  cases f.check <;> rfl

@[simp] theorem pagination_field (q : Select) (f : SelectField) :
    (q.field f).pagination = q.pagination := by
  unfold field
  cases f.check <;> rfl

@[simp] theorem table_field (q : Select) (f : SelectField) : (q.field f).table? = q.table? := by
  unfold field
  cases f.check <;> rfl

@[simp] theorem conditions_direction (q : Select) (d : Direction) :
    (q.direction d).conditions = q.conditions := by
  unfold direction
  cases q.ordering.setDirection d <;> rfl

@[simp] theorem pagination_direction (q : Select) (d : Direction) :
    (q.direction d).pagination = q.pagination := by
  unfold direction
  cases q.ordering.setDirection d <;> rfl

@[simp] theorem table_direction (q : Select) (d : Direction) :
    (q.direction d).table? = q.table? := by
  unfold direction
  cases q.ordering.setDirection d <;> rfl

/-- A call adds its condition behind the others. -/
theorem conditions_apply (q : Select) (call : Call) :
    (q.apply call).conditions = q.conditions ++ call.condition?.toList := by
  cases call with
  | condition => rfl
  | field f => exact (conditions_field q f).trans (List.append_nil _).symm
  | direction d => exact (conditions_direction q d).trans (List.append_nil _).symm
  | orderByDesc column =>
    exact (conditions_direction (q.orderBy column) .desc).trans (List.append_nil _).symm
  | _ => exact (List.append_nil _).symm

/-- Of the amounts of one kind the last one counts. -/
theorem pagination_apply (q : Select) (call : Call) :
    (q.apply call).pagination
      = ⟨call.limit?.or q.pagination.limit, call.offset?.or q.pagination.offset⟩ := by
  cases call with
  | field f => exact pagination_field q f
  | direction d => exact pagination_direction q d
  | orderByDesc column => exact pagination_direction (q.orderBy column) .desc
  | _ => rfl

theorem table_apply (q : Select) (call : Call) :
    (q.apply call).table? = call.table?.or q.table? := by
  cases call with
  | field f => exact table_field q f
  | direction d => exact table_direction q d
  | orderByDesc column => exact table_direction (q.orderBy column) .desc
  | _ => rfl

/-- **The conditions of a selection** are those that the calls have added, in order. -/
theorem conditions_run (q : Select) (calls : List Call) :
    (q.run calls).conditions = q.conditions ++ calls.filterMap Call.condition? :=
  foldl_append conditions_apply q calls

/-- **The table of a selection** is the one that the calls have named last. -/
theorem table_run (q : Select) (calls : List Call) :
    (q.run calls).table? = (calls.filterMap Call.table?).getLast?.or q.table? :=
  foldl_or Select.table? table_apply q calls

/-- **The amounts of a selection** are those that the calls have set last. -/
theorem pagination_run (q : Select) (calls : List Call) :
    (q.run calls).pagination
      = ⟨(calls.filterMap Call.limit?).getLast?.or q.pagination.limit,
        (calls.filterMap Call.offset?).getLast?.or q.pagination.offset⟩ := by
  have hlimit := foldl_or (fun q : Select => q.pagination.limit)
    (fun q call => congrArg Pagination.limit (pagination_apply q call)) q calls
  have hoffset := foldl_or (fun q : Select => q.pagination.offset)
    (fun q call => congrArg Pagination.offset (pagination_apply q call)) q calls
  unfold run
  rw [← hlimit, ← hoffset]

/-- An ordering in which a field is made current has no other fields than that one and its own. -/
theorem mem_items_select {o : OrderBy} {column : String} {item : String × Direction}
    (h : item ∈ (o.select column).items) : item ∈ o.items ∨ item.1 = column := by
  unfold OrderBy.select at h
  split at h
  · exact .inl h
  · rw [List.mem_append, List.mem_singleton] at h
    exact h.imp_right fun h => by rw [h]

/-- A direction adds no field to an ordering. -/
theorem mem_items_setDirection {o p : OrderBy} {d : Direction} (hp : o.setDirection d = .ok p)
    {column : String} (h : column ∈ p.items.map Prod.fst) : column ∈ o.items.map Prod.fst := by
  unfold OrderBy.setDirection at hp
  split at hp
  · cases hp
  · split at hp
    · cases hp
    · rename_i index _ name _ hitem
      cases hp
      rw [List.map_append, List.mem_append] at h
      rcases h with h | h
      · exact ((List.eraseIdx_sublist _ _).map _).subset h
      · obtain rfl : column = name := by simpa using h
        exact List.mem_map.mpr ⟨_, List.mem_of_getElem? hitem, rfl⟩

theorem expressions_field (q : Select) (f : SelectField) {e : String}
    (h : e ∈ (q.field f).expressions) : e ∈ q.expressions ∨ e ∈ f.expressions := by
  have hfield : (q.field f).expressions = { q with fields := q.fields ++ [f] }.expressions := by
    unfold field
    cases f.check <;> rfl
  rw [hfield] at h
  simp only [expressions, List.flatMap_append, List.flatMap_singleton, List.mem_append] at h ⊢
  tauto

theorem expressions_orderBy (q : Select) (column : String) {e : String}
    (h : e ∈ (q.orderBy column).expressions) : e ∈ q.expressions ∨ e = column := by
  simp only [expressions, orderBy, List.mem_append, List.mem_map] at h ⊢
  rcases h with h | ⟨item, hitem, rfl⟩
  · exact .inl (.inl h)
  · exact (mem_items_select hitem).imp_left fun hitem => .inr ⟨item, hitem, rfl⟩

theorem expressions_direction (q : Select) (d : Direction) {e : String}
    (h : e ∈ (q.direction d).expressions) : e ∈ q.expressions := by
  unfold direction at h
  cases hd : q.ordering.setDirection d with
  | error err =>
    rw [hd] at h
    exact h
  | ok o =>
    rw [hd] at h
    rw [expressions, List.mem_append] at h ⊢
    exact h.imp_right (mem_items_setDirection hd)

/-- A call brings its own texts and no others. -/
theorem expressions_apply (q : Select) (call : Call) {e : String}
    (h : e ∈ (q.apply call).expressions) : e ∈ q.expressions ∨ e ∈ call.expressions := by
  cases call with
  | field f => exact expressions_field q f h
  | condition c =>
    simp only [expressions, apply, condition, List.map_append, List.mem_append, List.map_cons,
      List.map_nil] at h ⊢
    simp only [Call.expressions]
    tauto
  | groupBy columns =>
    simp only [expressions, apply, groupBy, List.mem_append] at h ⊢
    simp only [Call.expressions]
    tauto
  | orderBy column => exact (expressions_orderBy q column h).imp_right List.mem_singleton.mpr
  | orderByDesc column =>
    have h := expressions_direction (q.orderBy column) .desc h
    exact (expressions_orderBy q column h).imp_right List.mem_singleton.mpr
  | direction d => exact .inl (expressions_direction q d h)
  | _ => exact .inl h

/-- **The texts of a selection that are written as they are** have come with its calls. -/
theorem expressions_run (q : Select) (calls : List Call) {e : String}
    (h : e ∈ (q.run calls).expressions) :
    e ∈ q.expressions ∨ e ∈ calls.flatMap Call.expressions :=
  foldl_mem (fun q call => expressions_apply q call) q calls h

/-- The first state of a selection of some fields is that of a chain of calls. -/
theorem ofFields_eq_run (fields : List SelectField) :
    ofFields fields = all.run (fields.map .field) := by
  rw [ofFields, run, List.foldl_map]
  rfl

end Select

/-! ## Insertions -/

namespace Insert

/-- The table that a call inserts into. -/
def Call.table? : Call → Option String
  | .into table => some table
  | _ => none

/-- What a call says of conflicts. -/
def Call.conflict? : Call → Option Conflict
  | .onConflict column action => some ⟨column, action⟩
  | _ => none

/-- What a call inserts. -/
def Call.rows? : Call → Option Rows
  | .values record => some (.single record)
  | .valuesMany records => some (.many records)
  | _ => none

theorem rows_apply (q : Insert) (call : Call) :
    some (q.apply call).rows = call.rows?.or (some q.rows) := by
  cases call <;> rfl

/-- **What is inserted** is what the calls have said last. -/
theorem rows_run (q : Insert) (calls : List Call) :
    (q.run calls).rows = (calls.filterMap Call.rows?).getLast?.getD q.rows := by
  have hrows := foldl_or (fun q : Insert => some q.rows) rows_apply q calls
  rw [Option.or_some] at hrows
  exact Option.some.inj hrows

theorem table_apply (q : Insert) (call : Call) :
    (q.apply call).table? = call.table?.or q.table? := by
  cases call <;> rfl

/-- **The table of an insertion** is the one that the calls have named last. -/
theorem table_run (q : Insert) (calls : List Call) :
    (q.run calls).table? = (calls.filterMap Call.table?).getLast?.or q.table? :=
  foldl_or Insert.table? table_apply q calls

theorem conflict_apply (q : Insert) (call : Call) :
    (q.apply call).conflict? = call.conflict?.or q.conflict? := by
  cases call <;> rfl

/-- **The conflict clause of an insertion** is what the calls have said last. -/
theorem conflict_run (q : Insert) (calls : List Call) :
    (q.run calls).conflict? = (calls.filterMap Call.conflict?).getLast?.or q.conflict? :=
  foldl_or Insert.conflict? conflict_apply q calls

end Insert

/-! ## Updates -/

namespace Update

/-- The condition that a call adds. -/
def Call.condition? : Call → Option Condition
  | .condition c => some c
  | _ => none

/-- What a call assigns. -/
def Call.entries : Call → List (String × Value)
  | .set record => record.toList
  | .setValue column v => [(column, v)]
  | .condition _ => []

/-- The texts of a call that are written as they are. -/
def Call.expressions : Call → List String
  | .condition c => [c.field]
  | _ => []

/-- The values in an update, in the order of its clauses. -/
def values (q : Update) : List Value :=
  q.assignments.values ++ q.conditions.flatMap Condition.values

theorem conditions_apply (q : Update) (call : Call) :
    (q.apply call).conditions = q.conditions ++ call.condition?.toList := by
  cases call with
  | condition => rfl
  | _ => exact (List.append_nil _).symm

theorem assignments_apply (q : Update) (call : Call) :
    (q.apply call).assignments = q.assignments.insertAll call.entries := by
  cases call <;> rfl

/-- **The conditions of an update** are those that the calls have added, in order. -/
theorem conditions_run (q : Update) (calls : List Call) :
    (q.run calls).conditions = q.conditions ++ calls.filterMap Call.condition? :=
  foldl_append conditions_apply q calls

/-- **The assignments of an update** are what the calls have assigned, one entry after the other. -/
theorem assignments_run (q : Update) (calls : List Call) :
    (q.run calls).assignments = q.assignments.insertAll (calls.flatMap Call.entries) := by
  induction calls generalizing q with
  | nil => rfl
  | cons call calls ih =>
    show ((q.apply call).run calls).assignments = _
    rw [ih, assignments_apply, List.flatMap_cons]
    unfold Record.insertAll
    rw [List.foldl_append]

/-- No call changes the table of an update. -/
theorem table_run (q : Update) (calls : List Call) : (q.run calls).table = q.table := by
  induction calls generalizing q with
  | nil => rfl
  | cons call calls ih =>
    show ((q.apply call).run calls).table = q.table
    rw [ih]
    cases call <;> rfl

end Update

/-! ## Deletions -/

namespace Delete

/-- The condition that a call adds. -/
def Call.condition? : Call → Option Condition
  | .condition c => some c
  | _ => none

/-- The table that a call deletes from. -/
def Call.table? : Call → Option String
  | .fromTable table => some table
  | .condition _ => none

/-- The texts of a call that are written as they are. -/
def Call.expressions : Call → List String
  | .condition c => [c.field]
  | _ => []

theorem conditions_apply (q : Delete) (call : Call) :
    (q.apply call).conditions = q.conditions ++ call.condition?.toList := by
  cases call with
  | condition => rfl
  | _ => exact (List.append_nil _).symm

/-- **The conditions of a deletion** are those that the calls have added, in order. -/
theorem conditions_run (q : Delete) (calls : List Call) :
    (q.run calls).conditions = q.conditions ++ calls.filterMap Call.condition? :=
  foldl_append conditions_apply q calls

theorem table_apply (q : Delete) (call : Call) :
    (q.apply call).table? = call.table?.or q.table? := by
  cases call <;> rfl

/-- **The table of a deletion** is the one that the calls have named last. -/
theorem table_run (q : Delete) (calls : List Call) :
    (q.run calls).table? = (calls.filterMap Call.table?).getLast?.or q.table? :=
  foldl_or Delete.table? table_apply q calls

end Delete

/-! ## Chains -/

/-- **A statement about data that is put together call by call**, from its first state on. -/
inductive Chain where
  /-- A selection of some fields; of everything, if there are none. -/
  | select (fields : List SelectField) (calls : List Select.Call)
  /-- An insertion. -/
  | insert (calls : List Insert.Call)
  /-- An update of a table. -/
  | update (table : String) (calls : List Update.Call)
  /-- A deletion. -/
  | delete (calls : List Delete.Call)

namespace Chain

/-- **The statement at the end of a chain.** -/
def build : Chain → Except Error Statement
  | select fields calls => ((Select.ofFields fields).run calls).build
  | insert calls => (Insert.start.run calls).build
  | update table calls => ((Update.ofTable table).run calls).build
  | delete calls => (Delete.start.run calls).build

/-- **The texts in a chain that are written without being looked at**: fields of conditions,
selected fields, columns and other names of aggregates, and what is grouped and sorted by. -/
def expressions : Chain → List String
  | select fields calls =>
    fields.flatMap SelectField.expressions ++ calls.flatMap Select.Call.expressions
  | insert _ => []
  | update _ calls => calls.flatMap Update.Call.expressions
  | delete calls => calls.flatMap Delete.Call.expressions

/-- **The values given in a chain**, in the order of the clauses of its statement: what is inserted
or assigned, the operands of the conditions as they were added, the number of rows to be taken, the
number of rows to be skipped. A column is assigned the value that it is given last, in the place in
which it came first. -/
def values : Chain → List Value
  | select _ calls =>
    (calls.filterMap Select.Call.condition?).flatMap Condition.values
      ++ ((calls.filterMap Select.Call.limit?).getLast?.toList
        ++ (calls.filterMap Select.Call.offset?).getLast?.toList).map Pagination.amountValue
  | insert calls => ((calls.filterMap Insert.Call.rows?).getLast?.getD .none).values
  | update _ calls =>
    let entries := calls.flatMap Update.Call.entries
    (entries.map Prod.fst).eraseDups.map (Record.lastValue entries)
      ++ (calls.filterMap Update.Call.condition?).flatMap Condition.values
  | delete calls => (calls.filterMap Delete.Call.condition?).flatMap Condition.values

/-! ### The state that a chain leads to -/

theorem table_select (fields : List SelectField) (calls : List Select.Call) :
    ((Select.ofFields fields).run calls).table?
      = (calls.filterMap Select.Call.table?).getLast? := by
  have hfields : fields.filterMap (Select.Call.table? ∘ Select.Call.field) = [] :=
    List.filterMap_eq_nil_iff.mpr fun _ _ => rfl
  rw [Select.table_run, Select.ofFields_eq_run, Select.table_run, List.filterMap_map, hfields]
  exact Option.or_none

theorem assignments_update (table : String) (calls : List Update.Call) :
    ((Update.ofTable table).run calls).assignments
      = Record.ofList (calls.flatMap Update.Call.entries) :=
  Update.assignments_run _ _

/-- **The columns of an update** are those that the calls have assigned, each in the place in which
it came first. -/
theorem keys_update (table : String) (calls : List Update.Call) :
    ((Update.ofTable table).run calls).assignments.keys
      = ((calls.flatMap Update.Call.entries).map Prod.fst).eraseDups := by
  rw [assignments_update, Record.keys, Record.entries_ofList, List.map_map]
  exact List.map_id _

theorem mem_expressions_select {fields : List SelectField} {calls : List Select.Call} {e : String}
    (h : e ∈ ((Select.ofFields fields).run calls).expressions) :
    e ∈ (select fields calls).expressions := by
  rw [expressions, List.mem_append]
  rcases Select.expressions_run _ calls h with h | h
  · rw [Select.ofFields_eq_run] at h
    rcases Select.expressions_run _ _ h with h | h
    · cases h
    · rw [List.flatMap_map] at h
      exact .inl h
  · exact .inr h

theorem field_mem_expressions_update {table : String} {calls : List Update.Call} {c : Condition}
    (h : c ∈ ((Update.ofTable table).run calls).conditions) :
    c.field ∈ (update table calls).expressions := by
  rw [Update.conditions_run] at h
  obtain ⟨call, hcall, hc⟩ := List.mem_filterMap.mp h
  refine List.mem_flatMap.mpr ⟨call, hcall, ?_⟩
  cases call <;> cases hc
  exact List.mem_cons_self

theorem field_mem_expressions_delete {calls : List Delete.Call} {c : Condition}
    (h : c ∈ (Delete.start.run calls).conditions) : c.field ∈ (delete calls).expressions := by
  rw [Delete.conditions_run] at h
  obtain ⟨call, hcall, hc⟩ := List.mem_filterMap.mp h
  refine List.mem_flatMap.mpr ⟨call, hcall, ?_⟩
  cases call <;> cases hc
  exact List.mem_cons_self

end Chain

end PgStatement
