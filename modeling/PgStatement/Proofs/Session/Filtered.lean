import Mathlib.Algebra.GroupWithZero.Nat
import PgStatement.Proofs.SearchCondition.Meaning
import PgStatement.Proofs.Session.Request
import PgStatement.Session.Run

/-!
# No change without a condition

An update and a deletion change rows that are there, and without a condition they would change every
row. The two are treated as one thing here, a `Change`, which is put together call by call and run
in a session. What is shown of it is that the server never receives a change without a condition,
and that the conditions it receives are all that were given (`Change.filtered`).

Two places of the program are concerned with this. A change without conditions is refused before
anything is written, and the clause of a change that is written has a predicate for each condition;
the writer of clauses itself would take no offence at an empty list.
-/

namespace PgStatement

open SearchCondition

/-! ## The predicates of a clause -/

namespace Where

/-- **The predicates of conditions**, each numbered after the values of the ones before it. -/
inductive Predicates : (bound : Nat) → List Condition → List String → Prop where
  | nil {bound : Nat} : Predicates bound [] []
  | cons {bound : Nat} {c : Condition} {f : Fragment} {conditions : List Condition}
    {predicates : List String} (hform : c.Form f)
    (h : Predicates (bound + c.values.length) conditions predicates) :
    Predicates bound (c :: conditions) (f.text bound :: predicates)

/-- Predicates behind the connectors of their conditions. -/
def further (conditions : List Condition) (predicates : List String) : String :=
  String.join (List.zipWith (fun c text => " " ++ c.connector.sql ++ " " ++ text) conditions
    predicates)

/-- **What is written behind WHERE**: predicates with the connectors of their conditions between. -/
def body (conditions : List Condition) (predicates : List String) : String :=
  String.join (predicates.take 1) ++ further conditions.tail predicates.tail

theorem Predicates.length_eq {bound : Nat} {conditions : List Condition}
    {predicates : List String} (h : Predicates bound conditions predicates) :
    predicates.length = conditions.length := by
  induction h with
  | nil => rfl
  | cons _ _ ih => rw [List.length_cons, List.length_cons, ih]

theorem exists_predicates_of_further {conditions : List Condition} {fs : List Fragment}
    (h : List.Forall₂ Further conditions fs) (bound : Nat) :
    ∃ predicates, Predicates bound conditions predicates
      ∧ Fragment.text bound fs.flatten = further conditions predicates := by
  induction h generalizing bound with
  | nil => exact ⟨[], .nil, rfl⟩
  | @cons c f conditions fs hf _ ih =>
    obtain ⟨g, hg, rfl⟩ := hf
    have hform := Condition.form_of_fragment hg
    obtain ⟨predicates, hpredicates, htext⟩ := ih (bound + c.values.length)
    refine ⟨g.text bound :: predicates, .cons hform hpredicates, ?_⟩
    rw [List.flatten_cons, List.cons_append, Fragment.text_raw, Fragment.text_append,
      Condition.values_of_form hform, htext, further, further, List.zipWith_cons_cons,
      String.join_cons]
    simp only [String.append_assoc]

/-- **A written clause has a predicate for each condition.** -/
theorem exists_predicates_of_clause? {conditions : List Condition} {clause : Option Fragment}
    (h : clause? conditions = .ok clause) (hne : conditions ≠ []) (bound : Nat) :
    ∃ written predicates, clause = some written ∧ Predicates bound conditions predicates
      ∧ written.text bound = "WHERE " ++ body conditions predicates := by
  rcases eq_of_clause? h with ⟨hnil, -⟩ | ⟨first, rest, f, fs, rfl, hf, hfs, rfl⟩
  · exact absurd hnil hne
  · have hform := Condition.form_of_fragment hf
    obtain ⟨predicates, hpredicates, htext⟩ :=
      exists_predicates_of_further hfs (bound + first.values.length)
    refine ⟨_, f.text bound :: predicates, rfl, .cons hform hpredicates, ?_⟩
    rw [List.cons_append, Fragment.text_raw, Fragment.text_append, Condition.values_of_form hform,
      htext]
    rfl

end Where

/-! ## The predicates of a formula -/

namespace SearchCondition

/-- **How many predicates a formula is made of**, truth values among them. -/
def Formula.predicateCount : Formula → Nat
  | .scalar _ | .predicate _ _ _ => 1
  | .not f => f.predicateCount
  | .joined _ parts => (parts.map predicateCount).sum

end SearchCondition

namespace Where

/-- The runs of formulas are the formulas. -/
theorem flatten_runs (first : Formula) (rest : List (Connector × Formula)) :
    (runs first rest).flatten = first :: rest.map Prod.snd := by
  induction rest generalizing first with
  | nil => rfl
  | cons item rest ih =>
    obtain ⟨connector, f⟩ := item
    cases connector with
    | or =>
      rw [runs, List.flatten_cons, ih]
      rfl
    | and =>
      obtain ⟨run, others, hruns⟩ := exists_runs f rest
      have hf := ih f
      rw [runs, hruns]
      rw [hruns] at hf
      exact congrArg (first :: ·) hf

theorem predicateCount_runs (runs : List (List Formula)) :
    (Formula.joined .or (runs.map (.joined .and))).predicateCount
      = (runs.flatten.map Formula.predicateCount).sum := by
  have hrun : Formula.predicateCount ∘ Formula.joined .and
      = fun run => (run.map Formula.predicateCount).sum := by
    funext run
    rw [Function.comp_apply, Formula.predicateCount]
  rw [Formula.predicateCount, List.map_map, hrun, List.map_flatten, List.sum_flatten, List.map_map]
  rfl

theorem predicateCount_leaf (bound : Nat) (c : Condition) :
    (c.leaf bound).predicateCount = 1 := by
  rcases c.leaf_cases bound with ⟨-, -, h⟩ | h <;> rw [h, Formula.predicateCount]

theorem predicateCount_leaves (bound : Nat) (conditions : List Condition) :
    ((leaves bound conditions).map fun leaf => leaf.2.predicateCount).sum = conditions.length := by
  induction conditions generalizing bound with
  | nil => rfl
  | cons c conditions ih =>
    rw [leaves, List.map_cons, List.sum_cons, ih, predicateCount_leaf, List.length_cons,
      Nat.add_comm]

/-- **What conditions say has a predicate for each of them.** -/
theorem predicateCount_formula (bound : Nat) (conditions : List Condition) :
    (formula bound conditions).predicateCount = conditions.length := by
  cases conditions with
  | nil =>
    rw [formula, Formula.predicateCount]
    rfl
  | cons first rest =>
    have hrest := predicateCount_leaves (bound + first.values.length) rest
    rw [formula, predicateCount_runs, flatten_runs, List.map_cons, List.map_map, List.sum_cons,
      predicateCount_leaf, List.length_cons, ← hrest, Nat.add_comm]
    rfl

end Where

/-! ## Changes -/

/-- An update without conditions is not built, whatever else is missing. -/
theorem Update.build_of_conditions_eq_nil {q : Update} (h : q.conditions = []) :
    ∃ e, q.build = .error e ∧ e.kind ≠ .notConnected
      ∧ (IsIdentifier q.table → q.assignments.isEmpty = false → e = Update.unfiltered q.table) := by
  rw [Update.build, h]
  cases hcheck : Identifier.check "table" q.table with
  | error e =>
    refine ⟨e, rfl, Identifier.kind_of_check hcheck ▸ nofun, fun htable _ => ?_⟩
    rw [Identifier.check_eq_ok_iff.mpr htable] at hcheck
    cases hcheck
  | ok _ =>
    cases hassignments : q.assignments.isEmpty with
    | true => exact ⟨Update.missingValues, rfl, nofun, nofun⟩
    | false => exact ⟨Update.unfiltered q.table, rfl, nofun, fun _ _ => rfl⟩

/-- A deletion without conditions is not built, whatever else is missing. -/
theorem Delete.build_of_conditions_eq_nil {q : Delete} (h : q.conditions = []) :
    ∃ e, q.build = .error e ∧ e.kind ≠ .notConnected
      ∧ ∀ table, q.table? = some table → IsIdentifier table → e = Delete.unfiltered table := by
  rw [Delete.build, h]
  cases htable : q.table? with
  | none => exact ⟨Delete.missingTable, rfl, nofun, nofun⟩
  | some table =>
    simp only
    cases hcheck : Identifier.check "table" table with
    | error e =>
      refine ⟨e, rfl, Identifier.kind_of_check hcheck ▸ nofun, ?_⟩
      rintro _ ⟨⟩ hname
      rw [Identifier.check_eq_ok_iff.mpr hname] at hcheck
      cases hcheck
    | ok _ =>
      refine ⟨Delete.unfiltered table, rfl, nofun, ?_⟩
      rintro _ ⟨⟩ -
      rfl

/-- **A change of rows that are there**, put together call by call. -/
inductive Change where
  /-- An update of a table. -/
  | update (table : String) (calls : List Update.Call)
  /-- A deletion. -/
  | delete (calls : List Delete.Call)

namespace Change

/-- The conditions that the calls have recorded. -/
def conditions : Change → List Condition
  | update _ calls => calls.filterMap Update.Call.condition?
  | delete calls => calls.filterMap Delete.Call.condition?

/-- The table, if there is one; of a deletion the one named last. -/
def table? : Change → Option String
  | update table _ => some table
  | delete calls => (calls.filterMap Delete.Call.table?).getLast?

/-- The columns that the calls have assigned, each of them once. -/
def columns : Change → List String
  | update _ calls => ((calls.flatMap Update.Call.entries).map Prod.fst).eraseDups
  | delete _ => []

/-- Nothing but a condition is missing: the table is an identifier, and an update assigns
something. -/
def IsAddressed : Change → Prop
  | update table calls => IsIdentifier table ∧ calls.flatMap Update.Call.entries ≠ []
  | delete calls => ∃ table, (delete calls).table? = some table ∧ IsIdentifier table

/-- The error of a change of every row. -/
def unfiltered (change : Change) (table : String) : Error :=
  match change with
  | update _ _ => Update.unfiltered table
  | delete _ => Delete.unfiltered table

/-- What is written before WHERE. -/
def head (change : Change) (table : String) : String :=
  match change with
  | update _ _ =>
    "UPDATE " ++ table ++ " SET "
      ++ ", ".intercalate ((change.columns.zipIdx 1).map fun item =>
        item.1 ++ " = " ++ placeholder item.2)
  | delete _ => "DELETE FROM " ++ table

/-- What is written behind the clause. -/
def tail : Change → String
  | update _ _ => " RETURNING *"
  | delete _ => ""

/-- The statement. -/
def build : Change → Except Error Statement
  | update table calls => ((Update.ofTable table).run calls).build
  | delete calls => (Delete.start.run calls).build

/-- **The run of a change** in a session, whatever it gives. -/
def run (s : Session) : Change → Outcome Unit
  | update table calls => (s.update ((Update.ofTable table).run calls)).map fun _ => ()
  | delete calls => (s.delete (Delete.start.run calls)).map fun _ => ()

/-! ### Changes with conditions -/

variable {change : Change} {statement : Statement}

theorem conditions_update (table : String) (calls : List Update.Call) :
    ((Update.ofTable table).run calls).conditions = (update table calls).conditions :=
  Update.conditions_run _ _

theorem conditions_delete (calls : List Delete.Call) :
    (Delete.start.run calls).conditions = (delete calls).conditions :=
  Delete.conditions_run _ _

theorem table_delete (calls : List Delete.Call) :
    (Delete.start.run calls).table? = (delete calls).table? := by
  rw [Delete.table_run]
  exact Option.or_none

theorem columns_update (table : String) (calls : List Update.Call) :
    ((Update.ofTable table).run calls).assignments.toList.map Prod.fst
      = (update table calls).columns :=
  Chain.keys_update table calls

/-- **What a change is written as**: its head, a clause behind a space, and its tail. -/
theorem eq_of_build (h : change.build = .ok statement) :
    ∃ table clause, change.table? = some table ∧ IsIdentifier table ∧ change.conditions ≠ []
      ∧ Where.clause? change.conditions = .ok clause
      ∧ statement.sql = change.head table
        ++ (Fragment.clause clause).text change.columns.length ++ change.tail := by
  cases change with
  | update table calls =>
    obtain ⟨-, -, hcheck, hne, -, -, -⟩ := Update.eq_of_build h
    obtain ⟨clause, hclause, hsql, -⟩ := Update.sql_of_build h
    rw [conditions_update] at hne hclause
    rw [Update.table_run] at hcheck hsql
    have hcolumns : ((Update.ofTable table).run calls).assignments.keys
        = (update table calls).columns := columns_update table calls
    rw [hcolumns] at hsql
    exact ⟨table, clause, rfl, Identifier.check_eq_ok_iff.mp hcheck, hne, hclause, hsql⟩
  | delete calls =>
    obtain ⟨table, clause, htable, hcheck, hne, hclause, rfl⟩ := Delete.eq_of_build h
    rw [conditions_delete] at hne hclause
    rw [table_delete] at htable
    refine ⟨table, clause, htable, Identifier.check_eq_ok_iff.mp hcheck, hne, hclause, ?_⟩
    rw [Statement.sql_ofFragment, Fragment.text_raw]
    exact String.append_empty.symm

/-! ### Changes without conditions -/

/-- What calls assign is not nothing. -/
theorem isEmpty_assignments {table : String} {calls : List Update.Call}
    (h : calls.flatMap Update.Call.entries ≠ []) :
    ((Update.ofTable table).run calls).assignments.isEmpty = false := by
  obtain ⟨entry, hentry⟩ := List.exists_mem_of_ne_nil _ h
  have hcolumn : entry.1 ∈ (update table calls).columns :=
    List.mem_eraseDups.mpr (List.mem_map_of_mem hentry)
  rw [← columns_update] at hcolumn
  obtain ⟨assigned, hassigned, -⟩ := List.mem_map.mp hcolumn
  exact List.isEmpty_eq_false_iff.mpr (List.ne_nil_of_mem hassigned)

/-- **A change without conditions is not built.** If nothing else is missing, the error says so. -/
theorem build_of_conditions_eq_nil (h : change.conditions = []) :
    ∃ e, change.build = .error e ∧ e.kind ≠ .notConnected
      ∧ (change.IsAddressed → ∃ table, change.table? = some table
        ∧ e = change.unfiltered table) := by
  cases change with
  | update table calls =>
    obtain ⟨e, he, hkind, haddressed⟩ :=
      Update.build_of_conditions_eq_nil ((conditions_update table calls).trans h)
    refine ⟨e, he, hkind, fun ⟨htable, hentries⟩ => ⟨table, rfl, ?_⟩⟩
    rw [Update.table_run] at haddressed
    exact haddressed htable (isEmpty_assignments hentries)
  | delete calls =>
    obtain ⟨e, he, hkind, haddressed⟩ :=
      Delete.build_of_conditions_eq_nil ((conditions_delete calls).trans h)
    refine ⟨e, he, hkind, fun ⟨table, hsome, htable⟩ => ⟨table, hsome, ?_⟩⟩
    exact haddressed table ((table_delete calls).trans hsome) htable

/-! ### What the server receives -/

theorem run_of_build_eq_error {e : Error} (h : change.build = .error e) (s : Session) :
    change.run s = .quiet (.error e) s := by
  cases change with
  | update table calls =>
    rw [run, Session.update, show ((Update.ofTable table).run calls).build = .error e from h]
    rfl
  | delete calls =>
    rw [run, Session.delete, show (Delete.start.run calls).build = .error e from h]
    rfl

/-- The server receives the statement of a change, or nothing. -/
theorem sent_run (change : Change) (s : Session) :
    (change.run s).sent = [] ∨ ∃ statement sent, change.build = .ok statement
      ∧ (change.run s).sent = [sent] ∧ sent.sql = statement.sql := by
  cases hbuild : change.build with
  | error e => exact .inl (by rw [run_of_build_eq_error hbuild]; rfl)
  | ok statement =>
    have hsent : (change.run s).sent = (s.request statement).sent := by
      cases change with
      | update table calls =>
        have hbuild : ((Update.ofTable table).run calls).build = .ok statement := hbuild
        rw [run, Outcome.sent_map, Session.update, hbuild, Session.runBuilt, Session.sent_fetch]
      | delete calls =>
        have hbuild : (Delete.start.run calls).build = .ok statement := hbuild
        rw [run, Outcome.sent_map, Session.delete, hbuild, Session.runBuilt, Session.sent_execute]
    rw [hsent]
    exact (Session.sent_request s statement).imp_right fun ⟨sent, h, hsql⟩ =>
      ⟨statement, sent, rfl, h, hsql⟩

/-- **No change is sent without a condition.** Of every update and every deletion that is put
together call by call, in every session: the server receives one statement or none. If it receives
one, then conditions were recorded, and behind WHERE the statement has a predicate for each of them,
in order and with their connectors; if the conditions are on columns, it is read as a search
condition with as many predicates, and as nothing else. If no condition was recorded, the change
fails with an error that does not depend on the session: nothing is sent, nothing is logged and the
session stays as it is. It is the error of a change of every row, unless the table or what is to be
assigned is missing too. -/
theorem filtered (change : Change) :
    (∀ s, (change.run s).sent = [] ∨ ∃ sent table predicates,
        (change.run s).sent = [sent] ∧ change.table? = some table ∧ IsIdentifier table
        ∧ change.conditions ≠ []
        ∧ sent.sql = change.head table ++ " WHERE " ++ Where.body change.conditions predicates
          ++ change.tail
        ∧ Where.Predicates change.columns.length change.conditions predicates
        ∧ predicates.length = change.conditions.length
        ∧ ((∀ c ∈ change.conditions, IsColumn c.field) →
          ∃ f, (∀ g, Denotes (Where.body change.conditions predicates) g ↔ g = f)
            ∧ f.predicateCount = change.conditions.length))
      ∧ (change.conditions = [] → ∃ e, (∀ s, change.run s = .quiet (.error e) s)
        ∧ e.kind ≠ .notConnected
        ∧ (change.IsAddressed → e.kind = .unsafeOperation ∧ ∃ table, change.table? = some table
          ∧ e = change.unfiltered table)) := by
  constructor
  · intro s
    -- what was built, and what the clause in it is read as
    refine (change.sent_run s).imp_right ?_
    rintro ⟨statement, sent, hbuild, hsent, hsql⟩
    obtain ⟨table, clause, htable, hname, hne, hclause, htext⟩ := eq_of_build hbuild
    obtain ⟨written, predicates, rfl, hpredicates, hwritten⟩ :=
      Where.exists_predicates_of_clause? hclause hne change.columns.length
    refine ⟨sent, table, predicates, hsent, htable, hname, hne, ?_, hpredicates,
      hpredicates.length_eq, fun hcolumns => ?_⟩
    · have hspace (t : String) : " " ++ ("WHERE " ++ t) = " WHERE " ++ t := by
        rw [← String.append_assoc]
        rfl
      rw [hsql, htext, Fragment.clause, Fragment.text_raw, hwritten, hspace,
        ← String.append_assoc]
    · obtain ⟨body, hbody, hdenotes⟩ :=
        Where.denotes_of_clause? hcolumns hclause change.columns.length
      obtain rfl : Where.body change.conditions predicates = body :=
        String.append_right_inj _ |>.mp (hwritten.symm.trans hbody)
      exact ⟨_, fun g => ⟨fun hg => hg.unique hdenotes, fun hg => hg ▸ hdenotes⟩,
        Where.predicateCount_formula _ _⟩
  · intro hnone
    obtain ⟨e, hbuild, hkind, haddressed⟩ := build_of_conditions_eq_nil hnone
    refine ⟨e, run_of_build_eq_error hbuild, hkind, fun h => ?_⟩
    obtain ⟨table, htable, rfl⟩ := haddressed h
    refine ⟨?_, table, htable, rfl⟩
    cases change <;> rfl

/-- An update of one row. -/
def birthday : Change :=
  .update "users" [.setValue "age" (.int 30), .filter .and "id" (.equals (.int 7))]

/-- A deletion of every row. -/
def everyone : Change := .delete [.fromTable "users"]

/-- A session that is connected. -/
def connected : Session := ⟨.ofUrl "postgres://localhost/shop", some .live, []⟩

theorem filtered_users :
    (∃ sent predicates, (birthday.run connected).sent = [sent]
        ∧ sent.sql = "UPDATE users SET age = $1 WHERE id = $2 RETURNING *"
        ∧ Where.Predicates 1 birthday.conditions predicates ∧ predicates.length = 1)
      ∧ ∀ s, everyone.run s = .quiet (.error (Delete.unfiltered "users")) s := by
  have hname : IsIdentifier "users" := by
    have hcheck : Identifier.check "table" "users" = .ok () := rfl
    exact Identifier.check_eq_ok_iff.mp hcheck
  constructor
  · have hsent : (birthday.run connected).sent
        = [⟨"UPDATE users SET age = $1 WHERE id = $2 RETURNING *", none⟩] := rfl
    rcases (filtered birthday).1 connected with
      hnone | ⟨sent, _, predicates, h, -, -, -, -, hpredicates, hlength, -⟩
    · rw [hsent] at hnone
      cases hnone
    · rw [hsent] at h
      obtain rfl := (List.cons.inj h).1
      exact ⟨_, predicates, hsent, rfl, hpredicates, hlength⟩
  · obtain ⟨e, hrun, -, haddressed⟩ := (filtered everyone).2 rfl
    obtain ⟨-, table, htable, rfl⟩ := haddressed ⟨"users", rfl, hname⟩
    obtain rfl : "users" = table := Option.some.inj htable
    exact hrun

end Change

end PgStatement
