import PgStatement.Proofs.Where
import PgStatement.Query.Delete
import PgStatement.Query.Insert
import PgStatement.Query.Select
import PgStatement.Query.Update

/-!
# Statements as fragments

Each statement is written against an empty list, clause by clause. What comes of it is one fragment,
numbered from one on: the theorems `Select.build_eq`, `Insert.build_eq`, `Update.build_eq` and
`Delete.build_eq` say which. The parts of a statement fail in the same order either way, and what a
failed part had bound does not matter, since the list is dropped with the statement.
-/

namespace PgStatement

/-! ## Clauses -/

/-- A clause behind a space; nothing if there is none. -/
def Fragment.clause : Option Fragment → Fragment
  | none => []
  | some f => .raw " " :: f

namespace Fragment

/-- Text behind a space. -/
theorem text_clause_raw (bound : Nat) (text? : Option String) :
    text bound (clause (text?.map fun s => [.raw s])) = Statement.clause text? := by
  cases text? with
  | none => rfl
  | some t =>
    show text bound [.raw " ", .raw t] = " " ++ t
    rw [text_raw, text_raw, text_nil, String.append_empty]

theorem values_clause_raw (text? : Option String) :
    values (clause (text?.map fun s => [.raw s])) = [] := by
  cases text? <;> rfl

/-- Several clauses, each behind a space. -/
theorem text_pages (bound : Nat) (fs : List Fragment) :
    text bound (fs.flatMap fun f => clause (some f))
      = String.join ((texts bound fs).map fun t => Statement.clause (some t)) := by
  induction fs generalizing bound with
  | nil => rfl
  | cons f fs ih =>
    rw [List.flatMap_cons, text_append, ih, texts, List.map_cons, String.join_cons, clause,
      text_raw]
    rfl

theorem values_pages (fs : List Fragment) :
    values (fs.flatMap fun f => clause (some f)) = fs.flatMap values := by
  induction fs with
  | nil => rfl
  | cons f fs ih =>
    rw [List.flatMap_cons, values_append, ih, List.flatMap_cons]
    rfl

end Fragment

/-- The statement of a fragment. -/
def Statement.ofFragment (table : String) (f : Fragment) : Statement :=
  ⟨table, f.text 0, ParamList.empty.append f.values⟩

namespace Statement

@[simp] theorem sql_ofFragment (table : String) (f : Fragment) :
    (ofFragment table f).sql = f.text 0 := rfl

@[simp] theorem params_ofFragment (table : String) (f : Fragment) :
    (ofFragment table f).params.values = f.values := List.nil_append _

/-- **A statement that is written is that of a fragment** if, against the empty list, the fragment
is what is written. -/
theorem written_eq {w : Writing String} (part : Except Error Fragment) (table : String)
    (hok : ∀ f, part = .ok f → w .empty = (.ok (f.text 0), ParamList.empty.append f.values))
    (herror : ∀ e, part = .error e → ∃ q, w .empty = (.error e, q)) :
    written table w = ofFragment table <$> part := by
  unfold written
  cases part with
  | ok f =>
    rw [hok f rfl]
    rfl
  | error e =>
    obtain ⟨q, hq⟩ := herror e rfl
    rw [hq]
    rfl

theorem clause_map_text (bound : Nat) (f? : Option Fragment) :
    clause (f?.map (Fragment.text bound)) = (Fragment.clause f?).text bound := by
  cases f? with
  | none => rfl
  | some f =>
    rw [Fragment.clause, Fragment.text_raw]
    rfl

end Statement

namespace Where

variable {conditions : List Condition}

/-- What is written of a clause that can be written. -/
theorem render_of_clause? {clause : Option Fragment} (h : clause? conditions = .ok clause)
    (p : ParamList) :
    render conditions p
      = (.ok (clause.map (Fragment.text p.size)), p.append (Fragment.clause clause).values) := by
  rw [render_eq]
  cases conditions with
  | nil =>
    cases h
    exact congrArg (Except.ok none, ·) rfl
  | cons first rest =>
    obtain ⟨fs, hfs, rfl⟩ := map_eq_ok_iff.mp h
    have hvalues : (rendering (first :: rest)).values = Fragment.values fs.flatten := by
      rw [Rendering.values, Rendering.parts_of_result hfs, Fragment.values_flatten]
    rw [ParamList.bindParts, hfs, hvalues]
    show (Except.ok (some (String.join (Fragment.texts p.size fs))), _) = _
    rw [Fragment.join_texts]
    rfl

/-- A clause that cannot be written fails against any list. -/
theorem render_of_clause?_error {e : Error} (h : clause? conditions = .error e) (p : ParamList) :
    ∃ q, render conditions p = (.error e, q) := by
  cases conditions with
  | nil => cases h
  | cons first rest =>
    refine ⟨_, (render_eq _ p).trans (congrArg (·, _) ?_)⟩
    rw [ParamList.bindParts, map_eq_error_iff.mp h]
    rfl

end Where

namespace Pagination

/-- An amount as a part of the clause of a keyword. -/
def amountPart (keyword : String) (amount : UInt64) : Except Error Fragment :=
  (fun n => [.raw (keyword ++ " "), .value (.int n)]) <$> signed keyword amount

/-- The parts, of the amounts that are set. -/
def parts (p : Pagination) : List (Except Error Fragment) :=
  (p.limit.map (amountPart "LIMIT")).toList ++ (p.offset.map (amountPart "OFFSET")).toList

/-- What comes of writing the parts. -/
def fragments (p : Pagination) : Rendering := Rendering.ofParts p.parts

theorem renderAmount_eq (keyword : String) (amount? : Option UInt64) (p : ParamList) :
    renderAmount keyword amount? p
      = p.bindParts (.ofParts (amount?.map (amountPart keyword)).toList) := by
  cases amount? with
  | none => exact p.bindParts_nil.symm
  | some amount =>
    show ((liftM (signed keyword amount) >>= _ : Writing (List String)) p) = _
    rw [Writing.bind_apply, Writing.lift_apply, Option.map_some, Option.toList_some, amountPart]
    cases signed keyword amount with
    | error e => exact (p.bindParts_error e []).symm
    | ok n =>
      refine Eq.symm ((p.bindParts_cons _ []).trans ?_)
      rw [ParamList.bindParts_nil, Fragment.text_raw, Fragment.text_value, Fragment.text_nil,
        String.append_empty]
      rfl

/-- **Writing amounts binds their parts** up to the first faulty one. -/
theorem rendering_eq (pages : Pagination) (p : ParamList) :
    pages.rendering p = p.bindParts pages.fragments := by
  rw [rendering, Writing.bind_apply, renderAmount_eq, fragments, parts, ParamList.bindParts_append]
  obtain ⟨e | texts, q⟩ := p.bindParts (.ofParts (pages.limit.map (amountPart "LIMIT")).toList)
  · rfl
  · show (renderAmount "OFFSET" pages.offset >>= fun offset =>
      pure (texts ++ offset) : Writing _) q = _
    rw [Writing.bind_apply, renderAmount_eq]
    dsimp only
    obtain ⟨e | further, r⟩ :=
      q.bindParts (.ofParts (pages.offset.map (amountPart "OFFSET")).toList)
      <;> rfl

/-- What is written of amounts that can be written. -/
theorem rendering_of_result {pages : Pagination} {fs : List Fragment}
    (h : pages.fragments.result = .ok fs) (p : ParamList) :
    pages.rendering p
      = (.ok (Fragment.texts p.size fs), p.append (fs.flatMap Fragment.values)) := by
  rw [rendering_eq, ParamList.bindParts_of_result h]

/-- Amounts that cannot be written fail against any list. -/
theorem rendering_of_result_error {pages : Pagination} {e : Error}
    (h : pages.fragments.result = .error e) (p : ParamList) :
    ∃ q, pages.rendering p = (.error e, q) := by
  refine ⟨_, (rendering_eq _ p).trans (congrArg (·, _) ?_)⟩
  rw [h]
  rfl

end Pagination

/-! ## Statements -/

namespace Select

/-- The clauses after the table, each behind a space. -/
def clauses (q : Select) : Except Error Fragment := do
  let conditions ← Where.clause? q.conditions
  let groups ← q.groupClause
  let ordering ← q.ordering.clause?
  let pages ← q.pagination.fragments.result
  let text (clause : Option String) : Fragment := Fragment.clause (clause.map fun s => [.raw s])
  return Fragment.clause conditions ++ text groups ++ text ordering
    ++ pages.flatMap fun page => Fragment.clause (some page)

/-- What is written of a selection whose clauses can be written. -/
theorem write_of_clauses {q : Select} {f : Fragment} (h : q.clauses = .ok f) (table : String)
    (p : ParamList) :
    q.write table p
      = (.ok (Fragment.text p.size (.raw (q.head ++ table) :: f)), p.append f.values) := by
  obtain ⟨conditions, hconditions, h⟩ := bind_eq_ok_iff.mp h
  obtain ⟨groups, hgroups, h⟩ := bind_eq_ok_iff.mp h
  obtain ⟨ordering, hordering, h⟩ := bind_eq_ok_iff.mp h
  obtain ⟨pages, hpages, h⟩ := bind_eq_ok_iff.mp h
  obtain rfl := Except.ok.inj h
  simp only [write, Writing.bind_apply, Where.render_of_clause? hconditions, hgroups, hordering,
    Writing.lift_apply, Pagination.rendering_of_result hpages, Writing.pure_apply]
  rw [Statement.clause_map_text, ← Fragment.text_pages, ParamList.append_append,
    ParamList.size_append, Fragment.text_raw]
  simp only [Fragment.text_append, Fragment.text_clause_raw, Fragment.values_append,
    Fragment.values_clause_raw, Fragment.values_pages, List.append_nil, String.append_assoc]

/-- A selection with a clause that cannot be written fails against any list. -/
theorem write_of_clauses_error {q : Select} {e : Error} (h : q.clauses = .error e) (table : String)
    (p : ParamList) : ∃ r, q.write table p = (.error e, r) := by
  unfold write
  rw [Writing.bind_apply]
  obtain hconditions | ⟨conditions, hconditions, h⟩ := bind_eq_error_iff.mp h
  · obtain ⟨r, hr⟩ := Where.render_of_clause?_error hconditions p
    exact ⟨r, by rw [hr]⟩
  rw [Where.render_of_clause? hconditions]
  obtain hgroups | ⟨groups, hgroups, h⟩ := bind_eq_error_iff.mp h
  · exact ⟨p.append (Fragment.clause conditions).values,
      by simp only [Writing.bind_apply, Writing.lift_apply, hgroups]⟩
  obtain hordering | ⟨ordering, hordering, h⟩ := bind_eq_error_iff.mp h
  · exact ⟨p.append (Fragment.clause conditions).values,
      by simp only [Writing.bind_apply, Writing.lift_apply, hgroups, hordering]⟩
  obtain hpages | ⟨pages, hpages, h⟩ := bind_eq_error_iff.mp h
  · obtain ⟨r, hr⟩ := Pagination.rendering_of_result_error hpages
      (p.append (Fragment.clause conditions).values)
    exact ⟨r, by simp only [Writing.bind_apply, Writing.lift_apply, hgroups, hordering, hr]⟩
  · cases h

/-- **The statement of a selection is that of its fragment.** -/
theorem build_eq (q : Select) :
    q.build = do
      if let some e := q.callError? then throw e
      let table ← q.checkedTable
      let clauses ← q.clauses
      return .ofFragment table (.raw (q.head ++ table) :: clauses) := by
  unfold build
  cases q.callError? with
  | some e => rfl
  | none =>
    cases q.checkedTable with
    | error e => rfl
    | ok table =>
      show Statement.written table (q.write table)
        = (fun f => .ofFragment table (.raw (q.head ++ table) :: f)) <$> q.clauses
      rw [Statement.written_eq ((.raw (q.head ++ table) :: ·) <$> q.clauses), Functor.map_map]
      · intro f hf
        obtain ⟨g, hg, rfl⟩ := map_eq_ok_iff.mp hf
        exact write_of_clauses hg table .empty
      · intro e he
        exact write_of_clauses_error (map_eq_error_iff.mp he) table .empty

end Select

namespace Insert

theorem group_eq_bindPart (row : List Value) (p : ParamList) :
    group row p = p.bindPart (.ok (Fragment.tuple row)) := by
  rw [group, Writing.bind_apply, Writing.mapM_value_apply, ParamList.bindPart,
    Fragment.values_tuple]
  exact congrArg (Except.ok ·, _) (Fragment.text_tuple p.size row).symm

/-- **The statement of an insertion is that of its fragment.** -/
theorem build_eq (q : Insert) :
    q.build = do
      let table ← q.checkedTable
      let (columns, rows) ← grid q.rows
      columns.forM (Identifier.check "column")
      let conflict ← conflictSql q.conflict?
      let head := "INSERT INTO " ++ table ++ " (" ++ ", ".intercalate columns ++ ") VALUES "
      return .ofFragment table (.raw head :: Fragment.join ", " (rows.map Fragment.tuple)
        ++ [.raw (conflict ++ " RETURNING *")]) := by
  unfold build
  cases q.checkedTable with
  | error e => rfl
  | ok table =>
    show Statement.written table (q.write table) = _
    unfold Statement.written write
    cases grid q.rows with
    | error e => rfl
    | ok found =>
      obtain ⟨columns, rows⟩ := found
      simp only [Writing.bind_apply, Writing.lift_apply, Writing.pure_apply,
        Writing.mapM_apply_of_ok group_eq_bindPart]
      show _ = (columns.forM (Identifier.check "column") >>= fun _ => _)
      cases columns.forM (Identifier.check "column") with
      | error e => rfl
      | ok _ =>
        show _ = (conflictSql q.conflict? >>= fun _ => _)
        cases conflictSql q.conflict? with
        | error e => rfl
        | ok conflict =>
          show Except.ok _ = Except.ok (Statement.ofFragment _ _)
          rw [Statement.ofFragment, List.cons_append, Fragment.text_raw, Fragment.text_append,
            Fragment.text_join, Fragment.text_raw, Fragment.text_nil, String.append_empty,
            Fragment.values, Fragment.values_append, Fragment.values_join, Fragment.values,
            Fragment.values, List.append_nil]
          simp only [String.append_assoc]
          rfl

end Insert

namespace Update

/-- An assignment, if its column is an identifier. -/
def assignmentPart (entry : String × Value) : Except Error Fragment := do
  Identifier.check "column" entry.1
  return [.raw (entry.1 ++ " = "), .value entry.2]

theorem assignment_eq_bindPart (entry : String × Value) (p : ParamList) :
    assignment entry p = p.bindPart (assignmentPart entry) := by
  show ((liftM (Identifier.check "column" entry.1) >>= _ : Writing String) p) = _
  rw [Writing.bind_apply, Writing.lift_apply, assignmentPart]
  cases Identifier.check "column" entry.1 with
  | error e => rfl
  | ok _ => exact (p.bindPart_raw_value (entry.1 ++ " = ") entry.2).symm

/-- The update, if its assignments and its conditions can be written. -/
def fragment (q : Update) : Except Error Fragment := do
  let assignments ← q.assignments.toList.mapM assignmentPart
  let conditions ← Where.clause? q.conditions
  return .raw ("UPDATE " ++ q.table ++ " SET ") :: Fragment.join ", " assignments
    ++ Fragment.clause conditions ++ [.raw " RETURNING *"]

theorem write_of_fragment {q : Update} {f : Fragment} (h : q.fragment = .ok f) (p : ParamList) :
    q.write p = (.ok (f.text p.size), p.append f.values) := by
  obtain ⟨assignments, hassignments, h⟩ := bind_eq_ok_iff.mp h
  obtain ⟨conditions, hconditions, h⟩ := bind_eq_ok_iff.mp h
  obtain rfl := Except.ok.inj h
  rw [← Rendering.result_ofParts_map] at hassignments
  simp only [write, Writing.bind_apply, Writing.mapM_apply assignment_eq_bindPart,
    ParamList.bindParts_of_result hassignments, Where.render_of_clause? hconditions,
    Writing.pure_apply]
  rw [Statement.clause_map_text, ParamList.append_append, ParamList.size_append, List.cons_append,
    List.cons_append, Fragment.text_raw]
  simp only [Fragment.text_append, Fragment.text_join, Fragment.text_raw, Fragment.text_nil,
    Fragment.values_append, Fragment.values, Fragment.values_join, List.append_nil,
    String.append_assoc, String.append_empty]

theorem write_of_fragment_error {q : Update} {e : Error} (h : q.fragment = .error e)
    (p : ParamList) :
    ∃ r, q.write p = (.error e, r) := by
  unfold write
  rw [Writing.bind_apply, Writing.mapM_apply assignment_eq_bindPart]
  obtain hassignments | ⟨assignments, hassignments, h⟩ := bind_eq_error_iff.mp h
  · rw [← Rendering.result_ofParts_map] at hassignments
    rw [ParamList.bindParts, hassignments]
    exact ⟨_, rfl⟩
  · rw [← Rendering.result_ofParts_map] at hassignments
    rw [ParamList.bindParts_of_result hassignments]
    obtain hconditions | ⟨conditions, -, h⟩ := bind_eq_error_iff.mp h
    · obtain ⟨r, hr⟩ := Where.render_of_clause?_error hconditions
        (p.append (assignments.flatMap Fragment.values))
      exact ⟨r, by simp only [Writing.bind_apply, hr]⟩
    · cases h

/-- **The statement of an update is that of its fragment.** -/
theorem build_eq (q : Update) :
    q.build = do
      Identifier.check "table" q.table
      if q.assignments.isEmpty then throw missingValues
      if q.conditions.isEmpty then throw (unfiltered q.table)
      return .ofFragment q.table (← q.fragment) := by
  unfold build
  rw [Statement.written_eq q.fragment q.table (fun f hf => write_of_fragment hf .empty)
    (fun e he => write_of_fragment_error he .empty), map_eq_pure_bind]

end Update

namespace Delete

/-- **The statement of a deletion is that of its fragment.** -/
theorem build_eq (q : Delete) :
    q.build = do
      let some table := q.table? | throw missingTable
      Identifier.check "table" table
      if q.conditions.isEmpty then throw (unfiltered table)
      let conditions ← Where.clause? q.conditions
      return .ofFragment table (.raw ("DELETE FROM " ++ table) :: Fragment.clause conditions) := by
  have hwrite (table : String) : Statement.written table (q.write table) = (do
      let conditions ← Where.clause? q.conditions
      return .ofFragment table (.raw ("DELETE FROM " ++ table) :: Fragment.clause conditions)) := by
    refine (Statement.written_eq
      ((fun clause => .raw ("DELETE FROM " ++ table) :: Fragment.clause clause)
        <$> Where.clause? q.conditions)
      table (fun f hf => ?_) fun e he => ?_).trans (by cases Where.clause? q.conditions <;> rfl)
    · obtain ⟨clause, hclause, rfl⟩ := map_eq_ok_iff.mp hf
      simp only [write, Writing.bind_apply, Where.render_of_clause? hclause, Writing.pure_apply]
      rw [Statement.clause_map_text, Fragment.text_raw]
      rfl
    · obtain ⟨r, hr⟩ := Where.render_of_clause?_error (map_eq_error_iff.mp he) .empty
      exact ⟨r, by simp only [write, Writing.bind_apply, hr]⟩
  calc q.build = (do
        let some table := q.table? | throw missingTable
        Identifier.check "table" table
        if q.conditions.isEmpty then throw (unfiltered table)
        Statement.written table (q.write table)) := rfl
    _ = _ := by simp only [hwrite]

end Delete

end PgStatement
