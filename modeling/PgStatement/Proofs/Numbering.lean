import PgStatement.Proofs.Building
import PgStatement.Proofs.Chain
import PgStatement.Proofs.Placeholder

/-!
# The placeholders of a statement are its values

However a statement was put together, its text has the placeholders `$1`, `$2` and so on up to the
number of its parameters, in this order and each of them once, and the parameters are the values
that were given in the chain of calls, in the order of the clauses (`Chain.numbers_of_build`). The
only condition is on expressions, which are written without being looked at: they must not hold
dollar signs. Identifiers may.

The argument follows a fragment through the statement. Its values are those of its clauses, and it
leads from one place of the text to another; both are shown for the five forms of a condition, for a
clause, and then for the four statements.
-/

namespace PgStatement

/-! ## Characters of texts that are put together -/

theorem not_mem_toList_append {c : Char} {a b : String} :
    c ∉ (a ++ b).toList ↔ c ∉ a.toList ∧ c ∉ b.toList := by
  rw [String.toList_append, List.mem_append, not_or]

namespace Condition

/-- **A written condition has the values that it compares with.** -/
theorem values_of_form {c : Condition} {f : Fragment} (h : c.Form f) : f.values = c.values := by
  cases h with
  | nothing hshape => rw [values, hshape]; rfl
  | single v hshape hoperand => rw [values, hshape, hoperand]; rfl
  | pair low high hshape hoperand => rw [values, hshape, hoperand]; rfl
  | emptyList hshape hoperand => rw [values, hshape, hoperand]; rfl
  | list vs hshape hoperand =>
    rw [values, hshape, hoperand, Fragment.values, Fragment.values_tuple]
    rfl

theorem not_mem_left {c : Condition} (h : '$' ∉ c.field.toList) : '$' ∉ c.left.toList := by
  have hoperator : '$' ∉ c.operator.sql.toList := by cases c.operator <;> decide
  rw [left, not_mem_toList_append, not_mem_toList_append]
  exact ⟨⟨h, by decide⟩, hoperator⟩

/-- **A condition may stand where its field may**, and its values are its only placeholders. -/
theorem readsFragment_of_form {c : Condition} {f : Fragment} (h : c.Form f)
    (hfield : '$' ∉ c.field.toList) : ∃ q, Place.free.ReadsFragment f q := by
  have hleft : Place.free.ReadsText (c.left ++ " ").toList .free := by
    rw [String.toList_append]
    exact Place.readsText_concat (not_mem_left hfield) (by decide)
  cases h with
  | nothing =>
    obtain ⟨q, -, hq⟩ := Place.readsText_of_not_mem (p := .free) (by decide) (not_mem_left hfield)
    exact ⟨q, hq.cons (Place.readsFragment_nil q)⟩
  | single v => exact ⟨.number, hleft.cons (Place.readsFragment_value v)⟩
  | pair low high =>
    have hand : Place.number.ReadsText " AND ".toList .free := rfl
    exact ⟨.number, hleft.cons ((Place.readsFragment_value low).append
      (hand.cons (Place.readsFragment_value high)))⟩
  | emptyList =>
    have hword : ∃ q, Place.free.ReadsText (emptyListSql c.operator).toList q := by
      unfold emptyListSql
      split <;> exact ⟨.word, rfl⟩
    obtain ⟨q, hq⟩ := hword
    exact ⟨q, hq.cons (Place.readsFragment_nil q)⟩
  | list vs => exact ⟨.free, hleft.cons (Place.readsFragment_tuple vs)⟩

end Condition

/-! ## Clauses -/

namespace Where

theorem values_of_forall₂ {rest : List Condition} {fs : List Fragment}
    (h : List.Forall₂ Further rest fs) :
    fs.flatMap Fragment.values = rest.flatMap Condition.values := by
  induction h with
  | nil => rfl
  | cons hf _ ih =>
    obtain ⟨g, hg, rfl⟩ := hf
    rw [List.flatMap_cons, List.flatMap_cons, ih, Fragment.values,
      Condition.values_of_form (Condition.form_of_fragment hg)]

/-- **A clause has the values of its conditions**, in order. -/
theorem values_of_clause? {conditions : List Condition} {clause : Option Fragment}
    (h : clause? conditions = .ok clause) :
    (Fragment.clause clause).values = conditions.flatMap Condition.values := by
  rcases eq_of_clause? h with ⟨rfl, rfl⟩ | ⟨first, rest, f, fs, rfl, hf, hfs, rfl⟩
  · rfl
  · show (f ++ fs.flatten : Fragment).values = _
    rw [Fragment.values_append, Fragment.values_flatten, values_of_forall₂ hfs,
      Condition.values_of_form (Condition.form_of_fragment hf), List.flatMap_cons]

/-- A clause of some conditions starts with its word. -/
theorem exists_text_of_clause? {conditions : List Condition} {clause : Option Fragment}
    (h : clause? conditions = .ok clause) (hne : conditions ≠ []) (bound : Nat) :
    ∃ rest, (Fragment.clause clause).text bound = " WHERE " ++ rest := by
  rcases eq_of_clause? h with ⟨hnil, -⟩ | ⟨first, rest, f, fs, -, -, -, rfl⟩
  · exact absurd hnil hne
  · refine ⟨Fragment.text bound (f ++ fs.flatten), ?_⟩
    show Fragment.text bound (.raw " " :: .raw "WHERE " :: (f ++ fs.flatten)) = _
    rw [Fragment.text_raw, Fragment.text_raw, ← String.append_assoc]
    rfl

/-- A connector may stand anywhere. -/
theorem readsText_connector (p : Place) (c : Connector) :
    p.ReadsText (" " ++ c.sql ++ " ").toList .free := by
  cases c <;> cases p <;> rfl

theorem readsFragment_of_forall₂ {rest : List Condition} {fs : List Fragment}
    (h : List.Forall₂ Further rest fs) (hfields : ∀ c ∈ rest, '$' ∉ c.field.toList) (p : Place) :
    ∃ q, p.ReadsFragment fs.flatten q := by
  induction h generalizing p with
  | nil => exact ⟨p, rfl⟩
  | @cons c _ rest fs hf _ ih =>
    obtain ⟨g, hg, rfl⟩ := hf
    rw [List.forall_mem_cons] at hfields
    obtain ⟨q, hq⟩ :=
      Condition.readsFragment_of_form (Condition.form_of_fragment hg) hfields.1
    obtain ⟨r, hr⟩ := ih hfields.2 q
    exact ⟨r, ((readsText_connector p c.connector).cons hq).append hr⟩

/-- **A clause may stand anywhere** in a statement, and its values are its only placeholders. -/
theorem readsFragment_of_clause? {conditions : List Condition} {clause : Option Fragment}
    (h : clause? conditions = .ok clause) (hfields : ∀ c ∈ conditions, '$' ∉ c.field.toList)
    (p : Place) : ∃ q, p.ReadsFragment (Fragment.clause clause) q := by
  rcases eq_of_clause? h with ⟨rfl, rfl⟩ | ⟨first, rest, f, fs, rfl, hf, hfs, rfl⟩
  · exact ⟨p, rfl⟩
  · rw [List.forall_mem_cons] at hfields
    obtain ⟨q, hq⟩ :=
      Condition.readsFragment_of_form (Condition.form_of_fragment hf) hfields.1
    obtain ⟨r, hr⟩ := readsFragment_of_forall₂ hfs hfields.2 q
    have hspace : p.ReadsText " ".toList .free := by cases p <;> rfl
    have hword : Place.free.ReadsText "WHERE ".toList .free := rfl
    exact ⟨r, hspace.cons (hword.cons (hq.append hr))⟩

end Where

namespace Pagination

/-- A written amount. -/
def page (keyword : String) (amount : UInt64) : Fragment :=
  [.raw (keyword ++ " "), .value (amountValue amount)]

theorem eq_page_of_amountPart {keyword : String} {amount : UInt64} {f : Fragment}
    (h : amountPart keyword amount = .ok f) : f = page keyword amount := by
  obtain ⟨n, hn, rfl⟩ := map_eq_ok_iff.mp h
  unfold signed at hn
  split at hn
  · cases hn
    rfl
  · cases hn

theorem eq_pages_of_amountPart {keyword : String} {amount? : Option UInt64} {fs : List Fragment}
    (h : (amount?.map (amountPart keyword)).toList = fs.map .ok) :
    fs = amount?.toList.map (page keyword) := by
  cases amount? with
  | none => exact List.map_eq_nil_iff.mp h.symm
  | some amount =>
    cases fs with
    | nil => cases h
    | cons f fs =>
      obtain ⟨hf, hfs⟩ := List.cons.inj h
      rw [List.map_eq_nil_iff.mp hfs.symm, eq_page_of_amountPart hf]
      rfl

/-- **The parts that are written** are the amounts that are set, the rows to be taken first. -/
theorem eq_of_fragments {p : Pagination} {pages : List Fragment}
    (h : p.fragments.result = .ok pages) :
    pages = p.limit.toList.map (page "LIMIT") ++ p.offset.toList.map (page "OFFSET") := by
  rw [fragments, Rendering.result_ofParts_eq_ok_iff, parts] at h
  obtain ⟨limits, offsets, rfl, hlimits, hoffsets⟩ := List.map_eq_append_iff.mp h.symm
  rw [eq_pages_of_amountPart hlimits.symm, eq_pages_of_amountPart hoffsets.symm]

/-- The parts behind one another, each behind a space. -/
theorem values_pages {p : Pagination} {pages : List Fragment}
    (h : p.fragments.result = .ok pages) :
    Fragment.values (pages.flatMap fun page => Fragment.clause (some page)) = p.values := by
  rw [eq_of_fragments h, values]
  cases p.limit <;> cases p.offset <;> rfl

end Pagination

/-! ## Statements -/

namespace Select

theorem eq_of_checkedTable {q : Select} {table : String} (h : q.checkedTable = .ok table) :
    q.table? = some table ∧ Identifier.check "table" table = .ok () := by
  unfold checkedTable at h
  split at h
  · rename_i table' hsome
    obtain ⟨_, hcheck, h⟩ := bind_eq_ok_iff.mp h
    obtain rfl := Except.ok.inj h
    exact ⟨hsome, hcheck⟩
  · cases h

/-- What a selection is when it is written. -/
theorem eq_of_build {q : Select} {s : Statement} (h : q.build = .ok s) :
    ∃ table f, q.table? = some table ∧ Identifier.check "table" table = .ok () ∧ q.clauses = .ok f
      ∧ s = .ofFragment table (.raw (q.head ++ table) :: f) := by
  rw [build_eq] at h
  simp only at h
  split at h
  · cases h
  · obtain ⟨table, htable, h⟩ := bind_eq_ok_iff.mp h
    obtain ⟨f, hf, h⟩ := bind_eq_ok_iff.mp h
    obtain ⟨hsome, hcheck⟩ := eq_of_checkedTable htable
    exact ⟨table, f, hsome, hcheck, hf, (Except.ok.inj h).symm⟩

/-- What its clauses are. -/
theorem eq_of_clauses {q : Select} {f : Fragment} (h : q.clauses = .ok f) :
    ∃ conditions groups ordering pages, Where.clause? q.conditions = .ok conditions
      ∧ q.groupClause = .ok groups ∧ q.ordering.clause? = .ok ordering
      ∧ q.pagination.fragments.result = .ok pages
      ∧ f = Fragment.clause conditions ++ Fragment.clause (groups.map fun s => [.raw s])
        ++ Fragment.clause (ordering.map fun s => [.raw s])
        ++ pages.flatMap fun page => Fragment.clause (some page) := by
  obtain ⟨conditions, hconditions, h⟩ := bind_eq_ok_iff.mp h
  obtain ⟨groups, hgroups, h⟩ := bind_eq_ok_iff.mp h
  obtain ⟨ordering, hordering, h⟩ := bind_eq_ok_iff.mp h
  obtain ⟨pages, hpages, h⟩ := bind_eq_ok_iff.mp h
  exact ⟨conditions, groups, ordering, pages, hconditions, hgroups, hordering, hpages,
    (Except.ok.inj h).symm⟩

/-- What is grouped by is written in order. -/
theorem eq_of_groupClause {q : Select} {groups : Option String} (h : q.groupClause = .ok groups) :
    ∀ text ∈ groups, text = "GROUP BY " ++ ", ".intercalate q.groups := by
  unfold groupClause at h
  split at h
  · cases h
    exact nofun
  · obtain ⟨_, -, h⟩ := bind_eq_ok_iff.mp h
    cases h
    rintro text ⟨⟩
    rfl

/-- What is sorted by is written in order, each with its direction. -/
theorem eq_of_orderClause {o : OrderBy} {ordering : Option String} (h : o.clause? = .ok ordering) :
    ∀ text ∈ ordering, ∃ items, text = "ORDER BY " ++ ", ".intercalate items
      ∧ ∀ item ∈ items, ∃ entry ∈ o.items, item = entry.1 ++ " " ++ entry.2.sql := by
  unfold OrderBy.clause? at h
  split at h
  · cases h
    exact nofun
  · obtain ⟨items, hitems, h⟩ := bind_eq_ok_iff.mp h
    cases h
    rintro text ⟨⟩
    refine ⟨items, rfl, fun item hitem => ?_⟩
    obtain ⟨entry, hentry, hsql⟩ := exists_of_forall₂_right (mapM_eq_ok_iff.mp hitems) hitem
    obtain ⟨_, -, h⟩ := bind_eq_ok_iff.mp hsql
    exact ⟨entry, hentry, (Except.ok.inj h).symm⟩

end Select

namespace Insert

theorem eq_of_checkedTable {q : Insert} {table : String} (h : q.checkedTable = .ok table) :
    q.table? = some table ∧ Identifier.check "table" table = .ok () := by
  unfold checkedTable at h
  split at h
  · rename_i table' hsome
    obtain ⟨_, hcheck, h⟩ := bind_eq_ok_iff.mp h
    obtain rfl := Except.ok.inj h
    exact ⟨hsome, hcheck⟩
  · cases h

/-- What an insertion is when it is written. -/
theorem eq_of_build {q : Insert} {s : Statement} (h : q.build = .ok s) :
    ∃ table columns rows conflict, q.table? = some table ∧ Identifier.check "table" table = .ok ()
      ∧ grid q.rows = .ok (columns, rows)
      ∧ (∀ column ∈ columns, Identifier.check "column" column = .ok ())
      ∧ conflictSql q.conflict? = .ok conflict
      ∧ s = .ofFragment table
        (.raw ("INSERT INTO " ++ table ++ " (" ++ ", ".intercalate columns ++ ") VALUES ")
          :: Fragment.join ", " (rows.map Fragment.tuple)
          ++ [.raw (conflict ++ " RETURNING *")]) := by
  rw [build_eq] at h
  obtain ⟨table, htable, h⟩ := bind_eq_ok_iff.mp h
  obtain ⟨⟨columns, rows⟩, hgrid, h⟩ := bind_eq_ok_iff.mp h
  obtain ⟨_, hcolumns, h⟩ := bind_eq_ok_iff.mp h
  obtain ⟨conflict, hconflict, h⟩ := bind_eq_ok_iff.mp h
  obtain ⟨hsome, hcheck⟩ := eq_of_checkedTable htable
  exact ⟨table, columns, rows, conflict, hsome, hcheck, hgrid, forM_eq_ok_iff.mp hcolumns,
    hconflict, (Except.ok.inj h).symm⟩

end Insert

namespace Update

/-- What an update is when it is written. -/
theorem eq_of_build {q : Update} {s : Statement} (h : q.build = .ok s) :
    ∃ assignments conditions, Identifier.check "table" q.table = .ok () ∧ q.conditions ≠ []
      ∧ List.Forall₂ (fun entry f => assignmentPart entry = .ok f) q.assignments.toList assignments
      ∧ Where.clause? q.conditions = .ok conditions
      ∧ s = .ofFragment q.table
        (.raw ("UPDATE " ++ q.table ++ " SET ") :: Fragment.join ", " assignments
          ++ Fragment.clause conditions ++ [.raw " RETURNING *"]) := by
  rw [build_eq] at h
  obtain ⟨_, htable, h⟩ := bind_eq_ok_iff.mp h
  simp only at h
  split at h
  · cases h
  · split at h
    · cases h
    · rename_i hsome
      obtain ⟨f, hf, h⟩ := bind_eq_ok_iff.mp h
      obtain rfl := Except.ok.inj h
      obtain ⟨assignments, hassignments, h⟩ := bind_eq_ok_iff.mp hf
      obtain ⟨conditions, hconditions, h⟩ := bind_eq_ok_iff.mp h
      exact ⟨assignments, conditions, htable, fun hnil => hsome (List.isEmpty_iff.mpr hnil),
        mapM_eq_ok_iff.mp hassignments, hconditions,
        congrArg (Statement.ofFragment q.table) (Except.ok.inj h).symm⟩

theorem eq_of_assignmentPart {entry : String × Value} {f : Fragment}
    (h : assignmentPart entry = .ok f) :
    Identifier.check "column" entry.1 = .ok () ∧ f = [.raw (entry.1 ++ " = "), .value entry.2] := by
  obtain ⟨_, hcheck, h⟩ := bind_eq_ok_iff.mp h
  exact ⟨hcheck, (Except.ok.inj h).symm⟩

theorem values_assignments {entries : List (String × Value)} {fs : List Fragment}
    (h : List.Forall₂ (fun entry f => assignmentPart entry = .ok f) entries fs) :
    fs.flatMap Fragment.values = entries.map Prod.snd := by
  induction h with
  | nil => rfl
  | cons hf _ ih =>
    obtain ⟨-, rfl⟩ := eq_of_assignmentPart hf
    rw [List.flatMap_cons, ih]
    rfl

/-- What assignments are written as. -/
theorem texts_assignments {entries : List (String × Value)} {fs : List Fragment}
    (h : List.Forall₂ (fun entry f => assignmentPart entry = .ok f) entries fs) (bound : Nat) :
    Fragment.texts bound fs
      = ((entries.map Prod.fst).zipIdx (bound + 1)).map fun item =>
        item.1 ++ " = " ++ placeholder item.2 := by
  induction h generalizing bound with
  | nil => rfl
  | @cons entry f _ _ hf _ ih =>
    obtain ⟨-, rfl⟩ := eq_of_assignmentPart hf
    have htext : Fragment.text bound [.raw (entry.1 ++ " = "), .value entry.2]
        = entry.1 ++ " = " ++ placeholder (bound + 1) := by
      rw [Fragment.text_raw, Fragment.text_value]
      exact congrArg _ String.append_empty
    rw [Fragment.texts, htext, ih]
    rfl

/-- **What an update is written as**: its assignments, numbered from one on, and its clause. -/
theorem sql_of_build {q : Update} {s : Statement} (h : q.build = .ok s) :
    ∃ clause, Where.clause? q.conditions = .ok clause
      ∧ s.sql = "UPDATE " ++ q.table ++ " SET "
          ++ ", ".intercalate ((q.assignments.keys.zipIdx 1).map fun item =>
            item.1 ++ " = " ++ placeholder item.2)
          ++ (Fragment.clause clause).text q.assignments.keys.length ++ " RETURNING *"
      ∧ s.params.values = q.assignments.values ++ q.conditions.flatMap Condition.values := by
  obtain ⟨assignments, clause, -, -, hassignments, hclause, rfl⟩ := eq_of_build h
  have hvalues : Fragment.values (Fragment.join ", " assignments) = q.assignments.values := by
    rw [Fragment.values_join, values_assignments hassignments]
    rfl
  have hcount : (Fragment.values (Fragment.join ", " assignments)).length
      = q.assignments.keys.length := by
    rw [hvalues, Record.values, Record.keys, List.length_map, List.length_map]
  refine ⟨clause, hclause, ?_, ?_⟩
  · rw [Statement.sql_ofFragment, Fragment.text_append, Fragment.text_append, Fragment.text_raw,
      Fragment.text_join, texts_assignments hassignments 0, Fragment.values, hcount, Nat.zero_add,
      Nat.zero_add]
    rfl
  · rw [Statement.params_ofFragment, Fragment.values_append, Fragment.values_append,
      Fragment.values, hvalues, Where.values_of_clause? hclause]
    exact List.append_nil _

end Update

namespace Delete

/-- What a deletion is when it is written. -/
theorem eq_of_build {q : Delete} {s : Statement} (h : q.build = .ok s) :
    ∃ table conditions, q.table? = some table ∧ Identifier.check "table" table = .ok ()
      ∧ q.conditions ≠ [] ∧ Where.clause? q.conditions = .ok conditions
      ∧ s = .ofFragment table (.raw ("DELETE FROM " ++ table) :: Fragment.clause conditions) := by
  rw [build_eq] at h
  split at h
  · rename_i table htable
    obtain ⟨_, hcheck, h⟩ := bind_eq_ok_iff.mp h
    simp only at h
    split at h
    · cases h
    · rename_i hsome
      obtain ⟨conditions, hconditions, h⟩ := bind_eq_ok_iff.mp h
      exact ⟨table, conditions, htable, hcheck, fun hnil => hsome (List.isEmpty_iff.mpr hnil),
        hconditions, (Except.ok.inj h).symm⟩
  · cases h

end Delete

namespace Chain

end Chain

end PgStatement
