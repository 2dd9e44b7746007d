import PgStatement.Condition.Basic
import PgStatement.Proofs.Fragment

/-!
# Conditions and clauses as they are written

Writing a condition against a list of values binds the fragment of the condition to it, and writing
a clause binds the parts of its conditions up to the first faulty one (`Condition.render_eq`,
`Where.render_eq`). A fragment knows no list, so this is where the checks and the placeholders,
which alternate on the way, come apart.

A condition that is written has one of five forms, by what its operator needs on the right-hand side
(`Condition.Form`), and a clause is the forms of its conditions with connectors between. These two
facts are all that is to be known of how a WHERE clause comes about; what holds of clauses is shown
of the five forms, and then along the list of the conditions.
-/

namespace PgStatement

/-! ## Conditions -/

namespace Condition

/-- **The condition as a fragment**, or what is wrong with it. -/
def fragment (c : Condition) : Except Fault Fragment :=
  let left := c.field ++ " " ++ c.operator.sql
  if Text.isBlankText c.field then .error .blankField
  else
    match c.operator.shape, c.operand with
    | .nothing, _ => .ok [.raw left]
    | .single, .single v => .ok [.raw (left ++ " "), .value v]
    | .pair, .pair low high =>
      if low.isNull || high.isNull then .error (.nullBound c.operator c.field)
      else .ok [.raw (left ++ " "), .value low, .raw " AND ", .value high]
    | .list, .list [] => .ok [.raw (emptyListSql c.operator)]
    | .list, .list values =>
      if values.any Value.isNull then .error (.nullMember c.operator c.field)
      else .ok (.raw (left ++ " ") :: Fragment.tuple values)
    | _, operand => .error (.wrongShape c.operator c.field operand)

/-- The condition as a part of a statement. -/
def part (c : Condition) : Except Error Fragment := c.fragment.mapError Fault.error

theorem bindPart_tuple (p : ParamList) (left : String) (vs : List Value) :
    p.bindPart (.ok (.raw (left ++ " ") :: Fragment.tuple vs))
      = (.ok (left ++ " ("
          ++ ", ".intercalate (Fragment.texts p.size (vs.map fun v => [.value v])) ++ ")"),
        p.append vs) := by
  have hopen : left ++ " (" = left ++ " " ++ "(" := by
    rw [String.append_assoc]
    rfl
  rw [ParamList.bindPart, Fragment.text_raw, Fragment.text_tuple, Fragment.values,
    Fragment.values_tuple, ← String.append_assoc, ← String.append_assoc, hopen]

/-- **Writing a condition binds its fragment**, and a faulty one binds nothing. The cases are those
of what the operator needs; where the operand has another shape both sides fail alike. -/
theorem render_eq (c : Condition) (p : ParamList) : c.render p = p.bindPart c.part := by
  unfold render part fragment
  simp only
  split
  · rfl
  · generalize c.operand = operand
    cases c.operator.shape with
    | nothing => exact (p.bindPart_raw _).symm
    | single =>
      cases operand with
      | single v => exact (p.bindPart_raw_value _ v).symm
      | _ => rfl
    | pair =>
      cases operand with
      | pair low high =>
        by_cases hnull : (low.isNull || high.isNull) = true
        · simp only [if_pos hnull]
          rfl
        · simp only [if_neg hnull]
          show (Except.ok _, (p.append [low]).append [high]) = p.bindPart (.ok _)
          rw [ParamList.bindPart, ParamList.append_append, Fragment.text_raw, Fragment.text_value,
            Fragment.text_raw, Fragment.text_value, Fragment.text_nil, String.append_empty,
            ← String.append_assoc, ← String.append_assoc, ParamList.size_append]
          rfl
      | _ => rfl
    | list =>
      cases operand with
      | list vs =>
        cases vs with
        | nil => exact (p.bindPart_raw _).symm
        | cons v vs =>
          by_cases hnull : (v :: vs).any Value.isNull = true
          · simp only [if_pos hnull]
            rfl
          · simp only [if_neg hnull]
            rw [Writing.bind_apply, Writing.mapM_value_apply]
            exact (bindPart_tuple p _ (v :: vs)).symm
      | _ => rfl

/-- What a condition is written with before its operand. -/
def left (c : Condition) : String := c.field ++ " " ++ c.operator.sql

/-- **The forms of a written condition.** -/
inductive Form (c : Condition) : Fragment → Prop where
  /-- The operator needs nothing. -/
  | nothing (hshape : c.operator.shape = .nothing) : Form c [.raw c.left]
  /-- The operator needs one value. -/
  | single (v : Value) (hshape : c.operator.shape = .single) (hoperand : c.operand = .single v) :
    Form c [.raw (c.left ++ " "), .value v]
  /-- The operator needs two bounds. -/
  | pair (low high : Value) (hshape : c.operator.shape = .pair)
    (hoperand : c.operand = .pair low high) :
    Form c [.raw (c.left ++ " "), .value low, .raw " AND ", .value high]
  /-- The operator needs a list, and the list is empty. -/
  | emptyList (hshape : c.operator.shape = .list) (hoperand : c.operand = .list []) :
    Form c [.raw (emptyListSql c.operator)]
  /-- The operator needs a list, and the list has values. -/
  | list (values : List Value) (hshape : c.operator.shape = .list)
    (hoperand : c.operand = .list values) :
    Form c (.raw (c.left ++ " ") :: Fragment.tuple values)

/-- **What is written has one of the forms.** -/
theorem form_of_fragment {c : Condition} {f : Fragment} (h : c.fragment = .ok f) : c.Form f := by
  unfold fragment at h
  simp only at h
  split at h
  · cases h
  · split at h
    · rename_i hshape
      cases h
      exact .nothing hshape
    · rename_i v hshape hoperand
      cases h
      exact .single v hshape hoperand
    · rename_i low high hshape hoperand
      split at h
      · cases h
      · cases h
        exact .pair low high hshape hoperand
    · rename_i hshape hoperand
      cases h
      exact .emptyList hshape hoperand
    · rename_i values _ hshape hoperand
      split at h
      · cases h
      · cases h
        exact .list values hshape hoperand
    · cases h

/-- A part of a statement is written if the condition is. -/
theorem part_eq_ok_iff {c : Condition} {f : Fragment} : c.part = .ok f ↔ c.fragment = .ok f := by
  unfold part
  cases c.fragment with
  | error e => exact ⟨nofun, nofun⟩
  | ok g => exact ⟨fun h => congrArg _ (Except.ok.inj h), fun h => congrArg _ (Except.ok.inj h)⟩

end Condition

/-! ## Clauses -/

namespace Where

/-- The conditions after the first, each behind its connector. -/
def furtherParts (conditions : List Condition) : List (Except Error Fragment) :=
  conditions.map fun c => (.raw (" " ++ c.connector.sql ++ " ") :: ·) <$> c.part

/-- The parts of a clause. The connector of the first condition is not written. -/
def parts : List Condition → List (Except Error Fragment)
  | [] => []
  | first :: rest => ((.raw "WHERE " :: ·) <$> first.part) :: furtherParts rest

/-- What comes of writing a clause. -/
def rendering (conditions : List Condition) : Rendering := Rendering.ofParts (parts conditions)

/-- **The clause as a fragment**; none if there are no conditions. -/
def clause? (conditions : List Condition) : Except Error (Option Fragment) :=
  match conditions with
  | [] => .ok none
  | conditions => (fun parts => some parts.flatten) <$> (rendering conditions).result

theorem furtherParts_cons_of_ok {c : Condition} {f : Fragment} (h : c.part = .ok f)
    (rest : List Condition) :
    furtherParts (c :: rest)
      = .ok (.raw (" " ++ c.connector.sql ++ " ") :: f) :: furtherParts rest := by
  rw [furtherParts, List.map_cons, h]
  rfl

theorem furtherParts_cons_of_error {c : Condition} {e : Error} (h : c.part = .error e)
    (rest : List Condition) : furtherParts (c :: rest) = .error e :: furtherParts rest := by
  rw [furtherParts, List.map_cons, h]
  rfl

/-- Conditions after the first are written behind the text so far. -/
theorem renderFrom_eq {position : Nat} (hposition : 0 < position) (sql : String)
    (conditions : List Condition) (p : ParamList) :
    renderFrom position sql conditions p
      = ((fun texts => sql ++ String.join texts)
          <$> (p.bindParts (.ofParts (furtherParts conditions))).1,
        (p.bindParts (.ofParts (furtherParts conditions))).2) := by
  induction conditions generalizing position sql p with
  | nil =>
    rw [furtherParts, List.map_nil, ParamList.bindParts_nil]
    show (Except.ok sql, p) = (Except.ok (sql ++ ""), p)
    rw [String.append_empty]
  | cons c rest ih =>
    rw [renderFrom, if_pos hposition, Writing.bind_apply, Condition.render_eq]
    cases h : c.part with
    | error e =>
      rw [furtherParts_cons_of_error h, ParamList.bindParts_error]
      rfl
    | ok f =>
      rw [furtherParts_cons_of_ok h, ParamList.bindParts_cons, Functor.map_map]
      show renderFrom _ _ rest (p.append f.values) = _
      rw [ih (Nat.succ_pos _)]
      refine congrArg₂ Prod.mk (congrArg (· <$> _) (funext fun texts => ?_)) rfl
      rw [String.join_cons, Fragment.text_raw]
      simp only [String.append_assoc]

/-- **Writing a clause binds its parts** up to the first faulty one. -/
theorem render_eq (conditions : List Condition) (p : ParamList) :
    render conditions p
      = ((fun texts => if conditions.isEmpty then none else some (String.join texts))
          <$> (p.bindParts (rendering conditions)).1,
        (p.bindParts (rendering conditions)).2) := by
  cases conditions with
  | nil =>
    rw [rendering, parts, ParamList.bindParts_nil]
    rfl
  | cons first rest =>
    show (some <$> renderFrom 0 "WHERE " (first :: rest)) p = _
    rw [Writing.map_apply, renderFrom, rendering, parts, Writing.bind_apply, Condition.render_eq]
    cases first.part with
    | error e =>
      show (Except.error e, p) = (_, (p.bindParts (.ofParts (.error e :: furtherParts rest))).2)
      rw [ParamList.bindParts_error]
      rfl
    | ok f =>
      show (some <$> (renderFrom 1 ("WHERE " ++ f.text p.size) rest (p.append f.values)).1,
          (renderFrom 1 ("WHERE " ++ f.text p.size) rest (p.append f.values)).2)
        = (_ <$> (p.bindParts (.ofParts (.ok (.raw "WHERE " :: f) :: furtherParts rest))).1,
          (p.bindParts (.ofParts (.ok (.raw "WHERE " :: f) :: furtherParts rest))).2)
      rw [renderFrom_eq Nat.one_pos, ParamList.bindParts_cons, Functor.map_map, Functor.map_map]
      refine congrArg₂ Prod.mk (congrArg (· <$> _) (funext fun texts => ?_)) rfl
      rw [String.join_cons, Fragment.text_raw]
      rfl

/-- A written condition behind its connector. -/
def Further (c : Condition) (f : Fragment) : Prop :=
  ∃ g, c.fragment = .ok g ∧ f = .raw (" " ++ c.connector.sql ++ " ") :: g

/-- The conditions after the first are written, each behind its connector. -/
theorem forall₂_of_furtherParts {conditions : List Condition} {fs : List Fragment}
    (h : furtherParts conditions = fs.map .ok) : List.Forall₂ Further conditions fs := by
  induction conditions generalizing fs with
  | nil =>
    rw [List.map_eq_nil_iff.mp h.symm]
    exact .nil
  | cons c rest ih =>
    cases fs with
    | nil => cases h
    | cons f fs =>
      obtain ⟨hpart, hrest⟩ := List.cons.inj h
      obtain ⟨g, hg, rfl⟩ := map_eq_ok_iff.mp hpart
      exact .cons ⟨g, Condition.part_eq_ok_iff.mp hg, rfl⟩ (ih hrest)

/-- **What a written clause is**: nothing without conditions, and else the forms of the conditions
with connectors between. -/
theorem eq_of_clause? {conditions : List Condition} {clause : Option Fragment}
    (h : clause? conditions = .ok clause) :
    (conditions = [] ∧ clause = none)
      ∨ ∃ first rest f fs, conditions = first :: rest ∧ first.fragment = .ok f
        ∧ List.Forall₂ Further rest fs ∧ clause = some (.raw "WHERE " :: f ++ fs.flatten) := by
  cases conditions with
  | nil =>
    cases h
    exact .inl ⟨rfl, rfl⟩
  | cons first rest =>
    refine .inr ?_
    obtain ⟨parts, hparts, rfl⟩ := map_eq_ok_iff.mp h
    rw [rendering, Rendering.result_ofParts_eq_ok_iff] at hparts
    cases parts with
    | nil => cases hparts
    | cons part parts =>
      obtain ⟨hfirst, hrest⟩ := List.cons.inj hparts
      obtain ⟨f, hf, rfl⟩ := map_eq_ok_iff.mp hfirst
      exact ⟨first, rest, f, parts, rfl, Condition.part_eq_ok_iff.mp hf,
        forall₂_of_furtherParts hrest, rfl⟩

end Where

end PgStatement
