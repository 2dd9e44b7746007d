import PgStatement.Proofs.Identifier
import PgStatement.Proofs.Numbering

/-!
# Names in statements about data

A statement about data is spelled with four things: words of SQL, of which there are only a few
(`IsWord`), placeholders, expressions that are written as they were given, and names. The names are
those of the table, of the columns that are inserted or assigned, and of the column of a conflict
clause. Each of them is an identifier in every statement that is built, and nothing else of what was
given gets into the text without being meant to be an expression (`Chain.names_checked`).

Which names these are is read off the calls (`Chain.names`), and where they stand off the text:
`Spells` takes a text apart and lists the names in it, from left to right. The fields of a record
that an insertion leaves out are not among them and may be anything.
-/

namespace PgStatement

/-- The words and signs that stand in every statement of a kind, as they are. -/
def keywords : List String :=
  ["", " ", ", ", " (", "(", ")", "*", " = ", " AND ", "SELECT ", "DISTINCT ", " AS ",
  " FROM ", "WHERE ",
    "FALSE", "TRUE", "GROUP BY ", "ORDER BY ", "LIMIT ", "OFFSET ", "INSERT INTO ", ") VALUES ",
    " ON CONFLICT (", ") DO NOTHING", "UPDATE ", " SET ", "DELETE FROM ", " RETURNING *"]

/-- **The words and signs of SQL** in statements about data. -/
inductive IsWord : String → Prop where
  | keyword {w : String} (h : w ∈ keywords) : IsWord w
  | operator (o : Operator) : IsWord o.sql
  | connector (c : Connector) : IsWord c.sql
  | function (f : AggregateFunction) : IsWord f.sql
  | direction (d : Direction) : IsWord d.sql

/-- **A text is spelled**: it has the names of a list, in order and each an identifier, and besides
them words of SQL, placeholders and some of the expressions that were given. -/
inductive Spells (expressions : List String) : List String → String → Prop where
  | word {w : String} (h : IsWord w) : Spells expressions [] w
  | placeholder (n : Nat) : Spells expressions [] (placeholder n)
  | given {e : String} (h : e ∈ expressions) : Spells expressions [] e
  | name {n : String} (h : IsIdentifier n) : Spells expressions [n] n
  | append {a b : List String} {s t : String} (hs : Spells expressions a s)
    (ht : Spells expressions b t) : Spells expressions (a ++ b) (s ++ t)

/-- A fragment is spelled, wherever its placeholders begin. -/
def Fragment.IsSpelled (expressions names : List String) (f : Fragment) : Prop :=
  ∀ bound, Spells expressions names (f.text bound)

variable {expressions : List String}

namespace Spells

theorem keyword {w : String} (h : w ∈ keywords) : Spells expressions [] w := .word (.keyword h)

theorem empty : Spells expressions [] "" := .keyword (by decide)

theorem space : Spells expressions [] " " := .keyword (by decide)

theorem comma : Spells expressions [] ", " := .keyword (by decide)

theorem isIdentifier {names : List String} {text : String} (h : Spells expressions names text) :
    ∀ n ∈ names, IsIdentifier n := by
  induction h with
  | word | placeholder | given => exact fun _ hn => absurd hn List.not_mem_nil
  | name h => exact List.forall_mem_singleton.mpr h
  | append _ _ ihs iht => exact List.forall_mem_append.mpr ⟨ihs, iht⟩

/-- Texts behind one another, with a text without names between. -/
theorem intercalate {separator : String} (hseparator : Spells expressions [] separator)
    {lists : List (List String)} {texts : List String}
    (h : List.Forall₂ (Spells expressions) lists texts) :
    Spells expressions lists.flatten (separator.intercalate texts) := by
  induction h with
  | nil =>
    rw [String.intercalate_nil]
    exact .empty
  | @cons list text lists texts htext h ih =>
    cases h with
    | nil =>
      rw [List.flatten_singleton, String.intercalate_singleton]
      exact htext
    | cons hother h =>
      have hfirst := htext.append hseparator
      rw [List.append_nil] at hfirst
      rw [String.intercalate_cons_cons]
      exact hfirst.append ih

/-- Texts without names behind one another, with another between. -/
theorem intercalate_of_forall {separator : String} (hseparator : Spells expressions [] separator)
    {texts : List String} (h : ∀ text ∈ texts, Spells expressions [] text) :
    Spells expressions [] (separator.intercalate texts) := by
  have hall : List.Forall₂ (Spells expressions) (texts.map fun _ => []) texts := by
    rw [List.forall₂_map_left_iff, List.forall₂_same]
    exact h
  have hjoined := intercalate hseparator hall
  rwa [List.flatten_eq_nil_iff.mpr (List.forall_mem_map.mpr fun _ _ => rfl)] at hjoined

/-- Identifiers with commas between. -/
theorem identifiers {ns : List String} (h : ∀ n ∈ ns, IsIdentifier n) :
    Spells expressions ns (", ".intercalate ns) := by
  have hall : List.Forall₂ (Spells expressions) (ns.map fun n => [n]) ns := by
    rw [List.forall₂_map_left_iff, List.forall₂_same]
    exact fun n hn => .name (h n hn)
  have hjoined := intercalate .comma hall
  rwa [← List.flatMap_def, List.flatMap_singleton'] at hjoined

end Spells

namespace Fragment.IsSpelled

theorem nil : IsSpelled expressions [] [] := fun _ => Spells.empty

theorem raw {a b : List String} {t : String} {f : Fragment} (ht : Spells expressions a t)
    (hf : IsSpelled expressions b f) : IsSpelled expressions (a ++ b) (.raw t :: f) := by
  intro bound
  rw [text_raw]
  exact ht.append (hf bound)

theorem value (v : Value) {names : List String} {f : Fragment}
    (hf : IsSpelled expressions names f) :
    IsSpelled expressions names (.value v :: f) := by
  intro bound
  rw [text_value]
  exact .append (.placeholder _) (hf _)

theorem append {a b : List String} {f g : Fragment} (hf : IsSpelled expressions a f)
    (hg : IsSpelled expressions b g) : IsSpelled expressions (a ++ b) (f ++ g) := by
  intro bound
  rw [text_append]
  exact (hf bound).append (hg _)

/-- Fragments behind one another, with a text without names between. -/
theorem join {separator : String} (hseparator : Spells expressions [] separator)
    {lists : List (List String)}
    {fs : List Fragment} (h : List.Forall₂ (IsSpelled expressions) lists fs) :
    IsSpelled expressions lists.flatten (Fragment.join separator fs) := by
  intro bound
  rw [text_join]
  refine .intercalate hseparator ?_
  induction h generalizing bound with
  | nil => exact .nil
  | cons hf _ ih => exact .cons (hf bound) (ih _)

/-- Fragments without names behind one another. -/
theorem flatten_of_forall {fs : List Fragment} (h : ∀ f ∈ fs, IsSpelled expressions [] f) :
    IsSpelled expressions [] fs.flatten := by
  induction fs with
  | nil => exact nil
  | cons f fs ih =>
    rw [List.forall_mem_cons] at h
    exact h.1.append (ih h.2)

end Fragment.IsSpelled

/-! ## Conditions and amounts -/

theorem spells_left {c : Condition} (h : c.field ∈ expressions) : Spells expressions [] c.left := by
  exact ((Spells.given h).append .space).append (.word (.operator c.operator))

/-- Values in parentheses. -/
theorem isSpelled_tuple (vs : List Value) :
    Fragment.IsSpelled expressions [] (Fragment.tuple vs) := by
  have hall : List.Forall₂ (Fragment.IsSpelled expressions) (vs.map fun _ => [])
      (vs.map fun v => [.value v]) := by
    rw [List.forall₂_map_left_iff, List.forall₂_map_right_iff, List.forall₂_same]
    exact fun v _ => .value v .nil
  have hjoined := Fragment.IsSpelled.join .comma hall
  rw [List.flatten_eq_nil_iff.mpr (List.forall_mem_map.mpr fun _ _ => rfl)] at hjoined
  have hopen : Spells expressions [] "(" := .keyword (by decide)
  have hclose : Spells expressions [] ")" := .keyword (by decide)
  exact (Fragment.IsSpelled.raw hopen hjoined).append (.raw hclose .nil)

/-- **A condition is spelled** with its field. -/
theorem isSpelled_of_form {c : Condition} {f : Fragment} (h : c.Form f)
    (hc : c.field ∈ expressions) :
    f.IsSpelled expressions [] := by
  have hleft : Spells expressions [] (c.left ++ " ") := (spells_left hc).append .space
  have hand : Spells expressions [] " AND " := .keyword (by decide)
  cases h with
  | nothing => exact .raw (spells_left hc) .nil
  | single v => exact .raw hleft (.value v .nil)
  | pair low high => exact .raw hleft (.value low (.raw hand (.value high .nil)))
  | emptyList =>
    refine .raw (.keyword ?_) .nil
    unfold Condition.emptyListSql
    split <;> decide
  | list values => exact .raw hleft (isSpelled_tuple values)

/-- **A clause is spelled** with the fields of its conditions. -/
theorem isSpelled_of_clause? {conditions : List Condition} {clause : Option Fragment}
    (h : Where.clause? conditions = .ok clause) (hc : ∀ c ∈ conditions, c.field ∈ expressions) :
    (Fragment.clause clause).IsSpelled expressions [] := by
  obtain ⟨rfl, rfl⟩ | ⟨first, rest, f, fs, rfl, hf, hfs, rfl⟩ := Where.eq_of_clause? h
  · exact .nil
  · rw [List.forall_mem_cons] at hc
    have hwhere : Spells expressions [] "WHERE " := .keyword (by decide)
    have hfirst := isSpelled_of_form (Condition.form_of_fragment hf) hc.1
    have hrest : ∀ f ∈ fs, f.IsSpelled expressions [] := by
      intro f hf
      obtain ⟨c, hmem, g, hg, rfl⟩ := exists_of_forall₂_right hfs hf
      have hconnector : Spells expressions [] (" " ++ c.connector.sql ++ " ") :=
        (Spells.space.append (.word (.connector c.connector))).append .space
      exact .raw hconnector (isSpelled_of_form (Condition.form_of_fragment hg) (hc.2 c hmem))
    exact .raw .space (.raw hwhere (hfirst.append (.flatten_of_forall hrest)))

/-- Amounts are spelled with nothing that was given. -/
theorem isSpelled_pages {p : Pagination} {pages : List Fragment}
    (h : p.fragments.result = .ok pages) :
    Fragment.IsSpelled expressions [] (pages.flatMap fun page => Fragment.clause (some page)) := by
  have hpage (keyword : String) (hkeyword : keyword ++ " " ∈ keywords) (amount : UInt64) :
      (Fragment.clause (some (Pagination.page keyword amount))).IsSpelled expressions [] :=
    .raw .space (.raw (.keyword hkeyword) (.value _ .nil))
  rw [Pagination.eq_of_fragments h, List.flatMap_def]
  refine .flatten_of_forall fun f hf => ?_
  obtain ⟨page, hmem, rfl⟩ := List.mem_map.mp hf
  rcases List.mem_append.mp hmem with hmem | hmem
  · obtain ⟨amount, -, rfl⟩ := List.mem_map.mp hmem
    exact hpage "LIMIT" (by decide) amount
  · obtain ⟨amount, -, rfl⟩ := List.mem_map.mp hmem
    exact hpage "OFFSET" (by decide) amount

/-! ## Selections -/

theorem spells_aggregate {a : Aggregate} (hcolumn : a.column ∈ expressions)
    (hlabel : ∀ label ∈ a.label?, label ∈ expressions) : Spells expressions [] a.sql := by
  have hfunction : Spells expressions [] a.function.sql := .word (.function a.function)
  have hopen : Spells expressions [] "(" := .keyword (by decide)
  have hclose : Spells expressions [] ")" := .keyword (by decide)
  have has : Spells expressions [] " AS " := .keyword (by decide)
  have hargument : Spells expressions [] (if Text.isBlankText a.column then "*" else a.column) := by
    split
    · exact .keyword (by decide)
    · exact .given hcolumn
  have hcall := ((hfunction.append hopen).append hargument).append hclose
  unfold Aggregate.sql
  cases hl : a.label? with
  | none => exact hcall
  | some label => exact (hcall.append has).append (.given (hlabel label hl))

theorem spells_field {f : SelectField} (h : ∀ e ∈ f.expressions, e ∈ expressions) :
    Spells expressions [] f.sql := by
  cases f with
  | column expression => exact .given (h expression List.mem_cons_self)
  | aggregate a =>
    refine spells_aggregate (h a.column List.mem_cons_self) fun label hlabel => ?_
    exact h label (List.mem_cons_of_mem _ (Option.mem_toList.mpr hlabel))

namespace Select

variable {q : Select} {s : Statement}

theorem spells_head (h : ∀ e ∈ q.fields.flatMap SelectField.expressions, e ∈ expressions) :
    Spells expressions [] q.head := by
  have hdistinct : (if q.isDistinct then "DISTINCT " else "") ∈ keywords := by split <;> decide
  have hfields : Spells expressions []
      (if q.fields.isEmpty then "*" else ", ".intercalate (q.fields.map SelectField.sql)) := by
    split
    · exact .keyword (by decide)
    · refine .intercalate_of_forall .comma fun text htext => ?_
      obtain ⟨f, hf, rfl⟩ := List.mem_map.mp htext
      exact spells_field fun e he => h e (List.mem_flatMap.mpr ⟨f, hf, he⟩)
  have hselect : Spells expressions [] ("SELECT " ++ if q.isDistinct then "DISTINCT " else "") :=
    .append (.keyword (by decide)) (.keyword hdistinct)
  exact (hselect.append hfields).append (.keyword (by decide))

theorem spells_groups {groups : Option String} (h : q.groupClause = .ok groups)
    (hgroups : ∀ e ∈ q.groups, e ∈ expressions) : ∀ text ∈ groups, Spells expressions [] text := by
  intro text htext
  rw [eq_of_groupClause h text htext]
  have hcolumns : Spells expressions [] (", ".intercalate q.groups) :=
    .intercalate_of_forall .comma fun e he => .given (hgroups e he)
  exact .append (.keyword (by decide)) hcolumns

theorem spells_ordering {o : OrderBy} {ordering : Option String} (h : o.clause? = .ok ordering)
    (hitems : ∀ e ∈ o.items.map Prod.fst, e ∈ expressions) :
    ∀ text ∈ ordering, Spells expressions [] text := by
  intro text htext
  obtain ⟨items, rfl, hsql⟩ := eq_of_orderClause h text htext
  have hjoined : Spells expressions [] (", ".intercalate items) := by
    refine .intercalate_of_forall .comma fun item hitem => ?_
    obtain ⟨entry, hentry, rfl⟩ := hsql item hitem
    have hfield : Spells expressions [] entry.1 := .given (hitems _ (List.mem_map_of_mem hentry))
    exact (hfield.append .space).append (.word (.direction entry.2))
  exact .append (.keyword (by decide)) hjoined

/-- A clause that is written as a text. -/
theorem isSpelled_text {text? : Option String} (h : ∀ text ∈ text?, Spells expressions [] text) :
    (Fragment.clause (text?.map fun s => [.raw s])).IsSpelled expressions [] := by
  cases text? with
  | none => exact .nil
  | some text =>
    exact .raw .space (.raw (h text rfl) .nil)

/-- **A selection is spelled** with the name of its table. -/
theorem spells_build (h : q.build = .ok s) (hq : ∀ e ∈ q.expressions, e ∈ expressions) :
    Spells expressions q.table?.toList s.sql := by
  obtain ⟨table, f, htable, hcheck, hf, rfl⟩ := eq_of_build h
  obtain ⟨conditions, groups, ordering, pages, hconditions, hgroups, hordering, hpages, rfl⟩ :=
    eq_of_clauses hf
  simp only [Select.expressions, List.forall_mem_append, List.forall_mem_map] at hq
  obtain ⟨⟨⟨hfields, hwhere⟩, hgroup⟩, horder⟩ := hq
  have hhead : Spells expressions [table] (q.head ++ table) :=
    (spells_head hfields).append (.name (Identifier.check_eq_ok_iff.mp hcheck))
  have hclauses := (((isSpelled_of_clause? hconditions hwhere).append
    (isSpelled_text (spells_groups hgroups hgroup))).append
      (isSpelled_text (spells_ordering hordering (List.forall_mem_map.mpr horder)))).append
        (isSpelled_pages hpages)
  rw [htable]
  exact Fragment.IsSpelled.raw hhead hclauses 0

end Select

/-! ## Insertions -/

/-- The columns that rows are inserted into: the fields of the first record. -/
def Rows.columns : Rows → List String
  | .none => []
  | .single record => record.keys
  | .many [] => []
  | .many (first :: _) => first.keys

namespace Insert

variable {q : Insert} {s : Statement}

theorem columns_of_grid {rows : Rows} {columns : List String} {grid : List (List Value)}
    (h : Insert.grid rows = .ok (columns, grid)) : columns = rows.columns := by
  unfold Insert.grid at h
  split at h
  · cases h
  · split at h <;> cases h
    rfl
  · cases h
  · split at h <;> cases h
    rfl

theorem isSpelled_rows (rows : List (List Value)) :
    Fragment.IsSpelled expressions [] (Fragment.join ", " (rows.map Fragment.tuple)) := by
  have hall : List.Forall₂ (Fragment.IsSpelled expressions) (rows.map fun _ => [])
      (rows.map Fragment.tuple) := by
    rw [List.forall₂_map_left_iff, List.forall₂_map_right_iff, List.forall₂_same]
    exact fun row _ => isSpelled_tuple row
  have hjoined := Fragment.IsSpelled.join .comma hall
  rwa [List.flatten_eq_nil_iff.mpr (List.forall_mem_map.mpr fun _ _ => rfl)] at hjoined

theorem spells_conflict {conflict? : Option Conflict} {conflict : String}
    (h : conflictSql conflict? = .ok conflict) :
    Spells expressions (conflict?.toList.map Conflict.column) conflict := by
  unfold conflictSql at h
  split at h
  · cases h
    exact .empty
  · obtain ⟨_, hcheck, h⟩ := bind_eq_ok_iff.mp h
    split at h
    · cases h
      have hopen : Spells expressions [] " ON CONFLICT (" := .keyword (by decide)
      exact (hopen.append (.name (Identifier.check_eq_ok_iff.mp hcheck))).append
        (.keyword (by decide))
    · cases h

/-- **An insertion is spelled** with the names of its table, of the columns of its first record and
of the column of its conflict clause. -/
theorem spells_build (h : q.build = .ok s) :
    Spells expressions (q.table?.toList ++ q.rows.columns ++ q.conflict?.toList.map Conflict.column)
      s.sql := by
  obtain ⟨table, columns, rows, conflict, htable, hcheck, hgrid, hcolumns, hconflict, rfl⟩ :=
    eq_of_build h
  obtain rfl := columns_of_grid hgrid
  have hinto : Spells expressions [table] ("INSERT INTO " ++ table) :=
    .append (.keyword (by decide)) (.name (Identifier.check_eq_ok_iff.mp hcheck))
  have hopen : Spells expressions [] " (" := .keyword (by decide)
  have hvalues : Spells expressions [] ") VALUES " := .keyword (by decide)
  have hreturning : Spells expressions [] " RETURNING *" := .keyword (by decide)
  have hhead := ((hinto.append hopen).append (.identifiers fun column hcolumn =>
    Identifier.check_eq_ok_iff.mp (hcolumns column hcolumn))).append hvalues
  have hspelled := ((Fragment.IsSpelled.raw hhead (isSpelled_rows rows)).append
    (.raw ((spells_conflict hconflict).append hreturning) .nil)) 0
  simp only [List.append_nil] at hspelled
  rw [htable]
  exact hspelled

end Insert

/-! ## Updates and deletions -/

theorem Update.spells_build {q : Update} {s : Statement} (h : q.build = .ok s)
    (hq : ∀ c ∈ q.conditions, c.field ∈ expressions) :
    Spells expressions (q.table :: q.assignments.keys) s.sql := by
  obtain ⟨assignments, clause, hcheck, -, hassignments, hclause, rfl⟩ := Update.eq_of_build h
  have hhead : Spells expressions [q.table] ("UPDATE " ++ q.table ++ " SET ") :=
    .append (.append (.keyword (by decide)) (.name (Identifier.check_eq_ok_iff.mp hcheck)))
      (.keyword (by decide))
  have hall : List.Forall₂ (Fragment.IsSpelled expressions)
      (q.assignments.toList.map fun entry => [entry.1]) assignments := by
    rw [List.forall₂_map_left_iff]
    refine hassignments.imp fun entry f hf => ?_
    obtain ⟨hcolumn, rfl⟩ := Update.eq_of_assignmentPart hf
    have hequals : Spells expressions [entry.1] (entry.1 ++ " = ") :=
      .append (.name (Identifier.check_eq_ok_iff.mp hcolumn)) (.keyword (by decide))
    exact .raw hequals (.value entry.2 .nil)
  have hjoined := Fragment.IsSpelled.join .comma hall
  have hcolumns :
      (q.assignments.toList.map fun entry => [entry.1]).flatten = q.assignments.keys := by
    rw [← List.flatMap_def]
    exact List.flatMap_pure_eq_map Prod.fst _
  rw [hcolumns] at hjoined
  have hreturning : Spells expressions [] " RETURNING *" := .keyword (by decide)
  have hspelled := (((Fragment.IsSpelled.raw hhead hjoined).append
    (isSpelled_of_clause? hclause hq)).append (.raw hreturning .nil)) 0
  simp only [List.append_nil] at hspelled
  exact hspelled

/-- **A deletion is spelled** with the name of its table. -/
theorem Delete.spells_build {q : Delete} {s : Statement} (h : q.build = .ok s)
    (hq : ∀ c ∈ q.conditions, c.field ∈ expressions) :
    Spells expressions q.table?.toList s.sql := by
  obtain ⟨table, clause, htable, hcheck, -, hclause, rfl⟩ := Delete.eq_of_build h
  have hhead : Spells expressions [table] ("DELETE FROM " ++ table) :=
    .append (.keyword (by decide)) (.name (Identifier.check_eq_ok_iff.mp hcheck))
  rw [htable]
  exact Fragment.IsSpelled.raw hhead (isSpelled_of_clause? hclause hq) 0

/-! ## Chains -/

namespace Chain

/-- **The names in a statement**, from left to right: of the table, the one that was named last, of
the columns that are inserted or assigned, and of the column of a conflict clause. What is inserted
and what a conflict means is what was said last; a column that is assigned more than once comes
once. -/
def names : Chain → List String
  | select _ calls => (calls.filterMap Select.Call.table?).getLast?.toList
  | insert calls =>
    (calls.filterMap Insert.Call.table?).getLast?.toList
      ++ ((calls.filterMap Insert.Call.rows?).getLast?.getD .none).columns
      ++ (calls.filterMap Insert.Call.conflict?).getLast?.toList.map Conflict.column
  | update table calls => table :: ((calls.flatMap Update.Call.entries).map Prod.fst).eraseDups
  | delete calls => (calls.filterMap Delete.Call.table?).getLast?.toList

/-- **A statement is spelled with its names**, each of them an identifier. -/
theorem spells_build {c : Chain} {s : Statement} (h : c.build = .ok s) :
    Spells c.expressions c.names s.sql := by
  cases c with
  | select fields calls =>
    have hspelled := Select.spells_build h fun e he => mem_expressions_select he
    rw [table_select] at hspelled
    exact hspelled
  | insert calls =>
    have hspelled : Spells (insert calls).expressions _ s.sql := Insert.spells_build h
    rw [Insert.table_run, Insert.rows_run, Insert.conflict_run] at hspelled
    simp only [Insert.start, Option.or_none] at hspelled
    exact hspelled
  | update table calls =>
    have hspelled := Update.spells_build h fun c hc => field_mem_expressions_update hc
    rw [Update.table_run, keys_update] at hspelled
    exact hspelled
  | delete calls =>
    have hspelled := Delete.spells_build h fun c hc => field_mem_expressions_delete hc
    rw [Delete.table_run] at hspelled
    simp only [Delete.start, Option.or_none] at hspelled
    exact hspelled

/-- **Names in statements about data are checked.** Exactly identifiers are let in, whatever they
are to name; and a statement at the end of a chain has the names that the calls give it, in order
and each an identifier, and nothing else but words of SQL, placeholders and the expressions in the
chain. -/
theorem names_checked :
    (∀ role name, Identifier.check role name = .ok () ↔ IsIdentifier name)
      ∧ ∀ (c : Chain) (s : Statement), c.build = .ok s →
        (∀ name ∈ c.names, IsIdentifier name) ∧ Spells c.expressions c.names s.sql :=
  ⟨fun _ _ => Identifier.check_eq_ok_iff, fun _ _ h =>
    ⟨(spells_build h).isIdentifier, spells_build h⟩⟩

/-- Two records, the second of which has a field of no name that an insertion could write. -/
def visits : Chain :=
  .insert [.into "logs", .valuesMany [.ofEntries [("page", .text "/"), ("at", .null)],
    .ofEntries [("at", .int 5), ("x); DROP TABLE logs; --", .int 1)]],
    .onConflict "page" .doNothing,
    .into "shop.visits"]

theorem names_checked_visits :
    ∃ s, visits.build = .ok s
      ∧ s.sql = "INSERT INTO shop.visits (page, at) VALUES ($1, $2), ($3, $4) "
        ++ "ON CONFLICT (page) DO NOTHING RETURNING *"
      ∧ (∀ name ∈ ["shop.visits", "page", "at", "page"], IsIdentifier name)
      ∧ Spells [] ["shop.visits", "page", "at", "page"] s.sql := by
  obtain ⟨s, hs⟩ : ∃ s, visits.build = .ok s := ⟨_, rfl⟩
  refine ⟨s, hs, ?_, names_checked.2 visits s hs⟩
  obtain rfl := Except.ok.inj hs
  rfl

end Chain

end PgStatement
