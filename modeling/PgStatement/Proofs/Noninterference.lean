import PgStatement.Proofs.Building
import PgStatement.Proofs.Chain

/-!
# Values do not show in the text of a statement

Two chains of calls are alike (`Chain.Alike`) if they differ in values only: in what is inserted,
assigned or compared with, in patterns and texts that are looked for, in amounts. Some values are
looked at on the way to a statement, and of these something must be the same on both sides. A null
is refused as a bound of a range and in a list, an empty list is written as a truth value, and an
amount must fit a signed integer.

Chains that are alike lead to the same end (`Chain.Alike.agree_build`): to statements of one text
with equally many parameters, or to errors of one kind. It is shown in the way in which the
statement comes about. Calls that are alike keep states alike, by one step and then along the chain.
States that are alike have clauses that are, and fragments that are alike differ in no character of
their text.
-/

namespace PgStatement

-- powers are those of the core library, whatever else is imported further on
attribute [local instance (high)] instPowNat

/-! ## Fragments -/

/-- Pieces that differ in a value at most. -/
inductive Piece.Alike : Piece → Piece → Prop where
  | raw (text : String) : Alike (.raw text) (.raw text)
  | value (v w : Value) : Alike (.value v) (.value w)

/-- **Fragments that differ in values only.** -/
abbrev Fragment.Alike : Fragment → Fragment → Prop := List.Forall₂ Piece.Alike

namespace Fragment

variable {f g : Fragment}

theorem alike_raw (text : String) : Alike [.raw text] [.raw text] := .cons (.raw text) .nil

/-- As many values stand in both. -/
theorem length_values_of_alike (h : f.Alike g) : f.values.length = g.values.length := by
  induction h with
  | nil => rfl
  | cons hpiece _ ih =>
    cases hpiece with
    | raw => exact ih
    | value v w => exact congrArg Nat.succ ih

/-- **Both have the same text.** -/
theorem text_of_alike (h : f.Alike g) (bound : Nat) : f.text bound = g.text bound := by
  refine congrArg String.join ?_
  induction h generalizing bound with
  | nil => rfl
  | cons hpiece _ ih =>
    cases hpiece with
    | raw text => exact congrArg (text :: ·) (ih bound)
    | value v w => exact congrArg (placeholder (bound + 1) :: ·) (ih (bound + 1))

theorem alike_join (separator : String) {fs gs : List Fragment} (h : List.Forall₂ Alike fs gs) :
    Alike (join separator fs) (join separator gs) := by
  induction h with
  | nil => exact .nil
  | cons hf hfs ih =>
    cases hfs with
    | nil => exact hf
    | cons => exact List.rel_append hf (.cons (.raw separator) ih)

theorem alike_clause {f g : Option Fragment} (h : Option.Rel Alike f g) :
    Alike (clause f) (clause g) := by
  cases h with
  | none => exact .nil
  | some h => exact .cons (.raw " ") h

/-- Lists of equally many values are written alike. -/
theorem alike_values {values others : List Value} (h : values.length = others.length) :
    List.Forall₂ Alike (values.map fun v => [.value v]) (others.map fun v => [.value v]) := by
  rw [List.forall₂_map_left_iff, List.forall₂_map_right_iff, List.forall₂_iff_get]
  exact ⟨h, fun _ _ _ => .cons (.value _ _) .nil⟩

end Fragment

/-- Statements in which no value shows: of the same text, with equally many parameters. -/
def Statement.Alike (s t : Statement) : Prop := s.sql = t.sql ∧ s.params.size = t.params.size

theorem Statement.alike_ofFragment (table : String) {f g : Fragment} (h : f.Alike g) :
    (ofFragment table f).Alike (ofFragment table g) := by
  refine ⟨Fragment.text_of_alike h 0, ?_⟩
  unfold ParamList.size
  rw [params_ofFragment, params_ofFragment]
  exact Fragment.length_values_of_alike h

/-! ## Conditions -/

/-- Values both of which are null, or neither. -/
def Value.SameNullness (v w : Value) : Prop := v.isNull = w.isNull

/-- **Comparisons that differ in values only.** A single value, a pattern or a text may be any
other; bounds and members keep being null or not, and lists keep their lengths. -/
inductive Comparison.Alike : Comparison → Comparison → Prop where
  | equals (v w : Value) : Alike (.equals v) (.equals w)
  | notEquals (v w : Value) : Alike (.notEquals v) (.notEquals w)
  | greaterThan (v w : Value) : Alike (.greaterThan v) (.greaterThan w)
  | greaterThanOrEqual (v w : Value) : Alike (.greaterThanOrEqual v) (.greaterThanOrEqual w)
  | lessThan (v w : Value) : Alike (.lessThan v) (.lessThan w)
  | lessThanOrEqual (v w : Value) : Alike (.lessThanOrEqual v) (.lessThanOrEqual w)
  | between {low high low' high' : Value} (hlow : low.SameNullness low')
    (hhigh : high.SameNullness high') : Alike (.between low high) (.between low' high')
  | notBetween {low high low' high' : Value} (hlow : low.SameNullness low')
    (hhigh : high.SameNullness high') : Alike (.notBetween low high) (.notBetween low' high')
  | inList {values others : List Value} (h : List.Forall₂ Value.SameNullness values others) :
    Alike (.inList values) (.inList others)
  | notIn {values others : List Value} (h : List.Forall₂ Value.SameNullness values others) :
    Alike (.notIn values) (.notIn others)
  | isNull : Alike .isNull .isNull
  | isNotNull : Alike .isNotNull .isNotNull
  | like (pattern other : String) : Alike (.like pattern) (.like other)
  | notLike (pattern other : String) : Alike (.notLike pattern) (.notLike other)
  | ilike (pattern other : String) : Alike (.ilike pattern) (.ilike other)
  | notIlike (pattern other : String) : Alike (.notIlike pattern) (.notIlike other)
  | contains (text other : String) : Alike (.contains text) (.contains other)
  | notContains (text other : String) : Alike (.notContains text) (.notContains other)
  | startsWith (text other : String) : Alike (.startsWith text) (.startsWith other)
  | endsWith (text other : String) : Alike (.endsWith text) (.endsWith other)

/-- Operands that differ in values only. -/
inductive Operand.Alike : Operand → Operand → Prop where
  | none : Alike .none .none
  | single (v w : Value) : Alike (.single v) (.single w)
  | pair {low high low' high' : Value} (hlow : low.SameNullness low')
    (hhigh : high.SameNullness high') : Alike (.pair low high) (.pair low' high')
  | list {values others : List Value} (h : List.Forall₂ Value.SameNullness values others) :
    Alike (.list values) (.list others)

/-- **Conditions that differ in values only.** -/
inductive Condition.Alike : Condition → Condition → Prop where
  | mk (field : String) (operator : Operator) {a b : Operand} (connector : Connector)
    (h : a.Alike b) : Alike ⟨field, operator, a, connector⟩ ⟨field, operator, b, connector⟩

theorem Comparison.Alike.toCondition {c d : Comparison} (h : c.Alike d) (connector : Connector)
    (field : String) : (c.toCondition connector field).Alike (d.toCondition connector field) := by
  cases h with
  | between hlow hhigh => exact .mk _ _ _ (.pair hlow hhigh)
  | notBetween hlow hhigh => exact .mk _ _ _ (.pair hlow hhigh)
  | inList h => exact .mk _ _ _ (.list h)
  | notIn h => exact .mk _ _ _ (.list h)
  | isNull => exact .mk _ _ _ .none
  | isNotNull => exact .mk _ _ _ .none
  | _ => exact .mk _ _ _ (.single _ _)

theorem any_isNull_eq {values others : List Value}
    (h : List.Forall₂ Value.SameNullness values others) :
    values.any Value.isNull = others.any Value.isNull := by
  induction h with
  | nil => rfl
  | cons hv _ ih => rw [List.any_cons, List.any_cons, hv, ih]

namespace Condition.Alike

/-- **Conditions that are alike are written alike**, or refused alike: what is looked at is whether
bounds and members are null, whether a list is empty, and of which shape the operand is. -/
theorem agree_part {c d : Condition} (h : c.Alike d) :
    Agree Fragment.Alike c.part d.part := by
  obtain ⟨field, operator, connector, h⟩ := h
  unfold part fragment
  simp only
  split
  · exact .error rfl
  · generalize operator.shape = shape
    cases h with
    | none =>
      cases shape with
      | nothing => exact .ok (Fragment.alike_raw _)
      | _ => exact .error rfl
    | single v w =>
      cases shape with
      | nothing => exact .ok (Fragment.alike_raw _)
      | single => exact .ok (.cons (.raw _) (.cons (.value v w) .nil))
      | _ => exact .error rfl
    | @pair low high low' high' hlow hhigh =>
      cases shape with
      | nothing => exact .ok (Fragment.alike_raw _)
      | pair =>
        simp only
        rw [hlow, hhigh]
        split
        · exact .error rfl
        · exact .ok (.cons (.raw _) (.cons (.value low low') (.cons (.raw _)
            (.cons (.value high high') .nil))))
      | _ => exact .error rfl
    | list h =>
      cases shape with
      | nothing => exact .ok (Fragment.alike_raw _)
      | list =>
        cases h with
        | nil => exact .ok (Fragment.alike_raw _)
        | cons hv hvs =>
          have hlist := List.Forall₂.cons hv hvs
          simp only
          rw [any_isNull_eq hlist]
          split
          · exact .error rfl
          · refine .ok (.cons (.raw _) (.cons (.raw "(") (List.rel_append ?_
              (Fragment.alike_raw ")"))))
            exact Fragment.alike_join ", " (Fragment.alike_values hlist.length_eq)
      | _ => exact .error rfl

end Condition.Alike

theorem isEmpty_eq_of_alike {conditions others : List Condition}
    (h : List.Forall₂ Condition.Alike conditions others) : conditions.isEmpty = others.isEmpty := by
  cases h <;> rfl

/-- **Clauses of conditions that are alike** are written alike. -/
theorem Where.agree_clause? {conditions others : List Condition}
    (h : List.Forall₂ Condition.Alike conditions others) :
    Agree (Option.Rel Fragment.Alike) (clause? conditions) (clause? others) := by
  have hbehind : ∀ {c d : Condition} (text : String), c.Alike d →
      Agree Fragment.Alike ((.raw text :: ·) <$> c.part) ((.raw text :: ·) <$> d.part) :=
    fun text hc => hc.agree_part.map fun _ _ hf => .cons (.raw text) hf
  cases h with
  | nil => exact .ok .none
  | @cons first first' rest rest' hfirst hrest =>
    have hfurther :
        List.Forall₂ (Agree Fragment.Alike) (furtherParts rest) (furtherParts rest') := by
      refine List.rel_map (fun c d hc => ?_) hrest
      have hconnector : c.connector = d.connector := by cases hc; rfl
      rw [hconnector]
      exact hbehind _ hc
    exact (Agree.result_ofParts (.cons (hbehind "WHERE " hfirst) hfurther)).map
      fun _ _ hparts => .some (List.rel_flatten hparts)

/-! ## Amounts -/

/-- Amounts both of which fit a signed integer, or neither. -/
def SameSide (amount other : UInt64) : Prop :=
  amount.toNat < 2 ^ (63 : Nat) ↔ other.toNat < 2 ^ (63 : Nat)

namespace Pagination

/-- Amounts that are set on both sides or on neither, and are on the same side of the bound. -/
inductive Alike : Pagination → Pagination → Prop where
  | mk {limit limit' offset offset' : Option UInt64} (hlimit : Option.Rel SameSide limit limit')
    (hoffset : Option.Rel SameSide offset offset') : Alike ⟨limit, offset⟩ ⟨limit', offset'⟩

theorem agree_amountPart (keyword : String) {amount other : UInt64} (h : SameSide amount other) :
    Agree Fragment.Alike (amountPart keyword amount) (amountPart keyword other) := by
  unfold amountPart signed
  by_cases hamount : amount.toNat < 2 ^ (63 : Nat)
  · rw [if_pos hamount, if_pos (h.mp hamount)]
    exact .ok (.cons (.raw _) (.cons (.value _ _) .nil))
  · rw [if_neg hamount, if_neg (hamount ∘ h.mpr)]
    exact .error rfl

/-- **The parts of amounts that are alike** are written alike. -/
theorem Alike.agree_result {p q : Pagination} (h : p.Alike q) :
    Agree (List.Forall₂ Fragment.Alike) p.fragments.result q.fragments.result := by
  have hpart : ∀ (keyword : String) {a b : Option UInt64}, Option.Rel SameSide a b →
      List.Forall₂ (Agree Fragment.Alike) (a.map (amountPart keyword)).toList
        (b.map (amountPart keyword)).toList := by
    intro keyword a b hab
    cases hab with
    | none => exact .nil
    | some hab => exact .cons (agree_amountPart keyword hab) .nil
  obtain ⟨hlimit, hoffset⟩ := h
  exact Agree.result_ofParts (List.rel_append (hpart "LIMIT" hlimit) (hpart "OFFSET" hoffset))

end Pagination

/-! ## Selections -/

namespace Select

/-- Calls that differ in values only. -/
inductive Call.Alike : Call → Call → Prop where
  | field (f : SelectField) : Alike (.field f) (.field f)
  | distinct : Alike .distinct .distinct
  | fromTable (table : String) : Alike (.fromTable table) (.fromTable table)
  | condition {c d : Condition} (h : c.Alike d) : Alike (.condition c) (.condition d)
  | groupBy (columns : List String) : Alike (.groupBy columns) (.groupBy columns)
  | orderBy (field : String) : Alike (.orderBy field) (.orderBy field)
  | orderByDesc (field : String) : Alike (.orderByDesc field) (.orderByDesc field)
  | direction (d : Direction) : Alike (.direction d) (.direction d)
  | limit {amount other : UInt64} (h : SameSide amount other) :
    Alike (.limit amount) (.limit other)
  | offset {amount other : UInt64} (h : SameSide amount other) :
    Alike (.offset amount) (.offset other)

/-- Selections that differ in values only. -/
inductive Alike : Select → Select → Prop where
  | mk {fields : List SelectField} {isDistinct : Bool} {table? : Option String}
    {conditions others : List Condition} {groups : List String} {ordering : OrderBy}
    {p q : Pagination} {callError? : Option Error}
    (hconditions : List.Forall₂ Condition.Alike conditions others) (hpagination : p.Alike q) :
    Alike ⟨fields, isDistinct, table?, conditions, groups, ordering, p, callError?⟩
      ⟨fields, isDistinct, table?, others, groups, ordering, q, callError?⟩

namespace Alike

theorem direction {q r : Select} (h : q.Alike r) (d : Direction) :
    (q.direction d).Alike (r.direction d) := by
  obtain ⟨hconditions, hpagination⟩ := h
  unfold Select.direction
  simp only
  split
  · exact .mk hconditions hpagination
  · exact .mk hconditions hpagination

/-- **A step**: calls that are alike keep selections alike. -/
theorem apply {q r : Select} (h : q.Alike r) {call other : Call} (hcall : call.Alike other) :
    (q.apply call).Alike (r.apply other) := by
  cases hcall with
  | direction d => exact h.direction d
  | orderByDesc field =>
    obtain ⟨hconditions, hpagination⟩ := h
    exact direction (.mk hconditions hpagination) .desc
  | field f =>
    obtain ⟨hconditions, hpagination⟩ := h
    show Alike (Select.field _ f) (Select.field _ f)
    unfold Select.field
    cases f.check with
    | ok => exact .mk hconditions hpagination
    | error e => exact .mk hconditions hpagination
  | condition hc =>
    obtain ⟨hconditions, hpagination⟩ := h
    exact .mk (List.rel_append hconditions (.cons hc .nil)) hpagination
  | limit hamount =>
    obtain ⟨hconditions, hlimit, hoffset⟩ := h
    exact .mk hconditions (.mk (.some hamount) hoffset)
  | offset hamount =>
    obtain ⟨hconditions, hlimit, hoffset⟩ := h
    exact .mk hconditions (.mk hlimit (.some hamount))
  | _ =>
    obtain ⟨hconditions, hpagination⟩ := h
    exact .mk hconditions hpagination

/-- **A run**: chains of calls that are alike keep selections alike. -/
theorem run {q r : Select} (h : q.Alike r) {calls others : List Call}
    (hcalls : List.Forall₂ Call.Alike calls others) : (q.run calls).Alike (r.run others) :=
  List.rel_foldl (fun _ _ hstep _ _ hcall => hstep.apply hcall) h hcalls

theorem agree_clauses {q r : Select} (h : q.Alike r) :
    Agree Fragment.Alike q.clauses r.clauses := by
  obtain ⟨hconditions, hpagination⟩ := h
  refine (Where.agree_clause? hconditions).bind fun _ _ hwhere => ?_
  refine (Agree.refl (fun _ => rfl) (groupClause _)).bind fun groups _ hgroups => ?_
  subst hgroups
  refine (Agree.refl (fun _ => rfl) (OrderBy.clause? _)).bind fun ordering _ hordering => ?_
  subst hordering
  refine hpagination.agree_result.bind fun _ _ hpages => .ok ?_
  have hrefl : ∀ f : Fragment, f.Alike f := fun f =>
    List.forall₂_same.mpr fun piece _ => by cases piece <;> constructor
  refine List.rel_append (List.rel_append (List.rel_append (Fragment.alike_clause hwhere)
    (hrefl _)) (hrefl _)) ?_
  exact List.rel_flatMap hpages fun _ _ hpage => Fragment.alike_clause (.some hpage)

/-- **Selections that are alike** lead to the same end. -/
theorem agree_build {q r : Select} (h : q.Alike r) : Agree Statement.Alike q.build r.build := by
  have hclauses := h.agree_clauses
  obtain ⟨hconditions, hpagination⟩ := h
  rw [build_eq, build_eq]
  simp only
  split
  · exact .error rfl
  · refine (Agree.refl (fun _ => rfl) (checkedTable _)).bind fun table _ htable => ?_
    subst htable
    exact hclauses.bind fun _ _ hf =>
      .ok (Statement.alike_ofFragment _ (.cons (.raw _) hf))

end Alike

end Select

/-! ## Insertions -/

namespace Record

/-- Records of the same fields, in the same order. -/
def SameFields (r s : Record) : Prop := r.keys = s.keys

theorem length_values (r : Record) : r.values.length = r.keys.length := by
  rw [values, keys, List.length_map, List.length_map]

theorem isEmpty_eq (r : Record) : r.isEmpty = r.keys.isEmpty := by
  rw [isEmpty, keys, List.isEmpty_map]

theorem findIdx?_isEmpty_eq {records others : List Record}
    (h : List.Forall₂ SameFields records others) :
    records.findIdx? isEmpty = others.findIdx? isEmpty := by
  induction h with
  | nil => rfl
  | @cons record other _ _ hrecord _ ih =>
    rw [List.findIdx?_cons, List.findIdx?_cons, record.isEmpty_eq, other.isEmpty_eq, hrecord, ih]

end Record

/-- Rows of the same fields. -/
inductive Rows.Alike : Rows → Rows → Prop where
  | none : Alike .none .none
  | single {record other : Record} (h : record.SameFields other) :
    Alike (.single record) (.single other)
  | many {records others : List Record} (h : List.Forall₂ Record.SameFields records others) :
    Alike (.many records) (.many others)

namespace Insert

/-- Calls that differ in values only. -/
inductive Call.Alike : Call → Call → Prop where
  | into (table : String) : Alike (.into table) (.into table)
  | values {record other : Record} (h : record.SameFields other) :
    Alike (.values record) (.values other)
  | valuesMany {records others : List Record}
    (h : List.Forall₂ Record.SameFields records others) :
    Alike (.valuesMany records) (.valuesMany others)
  | onConflict (column : String) (action : ConflictAction) :
    Alike (.onConflict column action) (.onConflict column action)

/-- Insertions that differ in values only. -/
inductive Alike : Insert → Insert → Prop where
  | mk {table? : Option String} {rows others : Rows} {conflict? : Option Conflict}
    (h : rows.Alike others) : Alike ⟨table?, rows, conflict?⟩ ⟨table?, others, conflict?⟩

/-- Columns that are the same, with rows of the same lengths. -/
def GridAlike (a b : List String × List (List Value)) : Prop :=
  a.1 = b.1 ∧ List.Forall₂ (fun row other => row.length = other.length) a.2 b.2

/-- **Rows of the same fields** have the same columns, and the same place may be empty. -/
theorem agree_grid {rows others : Rows} (h : rows.Alike others) :
    Agree GridAlike (grid rows) (grid others) := by
  cases h with
  | none => exact .error rfl
  | @single record other h =>
    unfold grid
    simp only
    rw [record.isEmpty_eq, other.isEmpty_eq, h]
    split
    · exact .error rfl
    · refine .ok ⟨rfl, .cons ?_ .nil⟩
      rw [record.length_values, other.length_values, h]
  | many h =>
    cases h with
    | nil => exact .error rfl
    | @cons first first' rest rest' hfirst hrest =>
      have hrecords := List.Forall₂.cons hfirst hrest
      unfold grid
      simp only
      rw [Record.findIdx?_isEmpty_eq hrecords]
      split
      · exact .error rfl
      · refine .ok ⟨hfirst, List.rel_map (fun record other _ => ?_) hrecords⟩
        rw [hfirst]
        unfold row
        rw [List.length_map, List.length_map]

namespace Alike

/-- **A step**: calls that are alike keep insertions alike. -/
theorem apply {q r : Insert} (h : q.Alike r) {call other : Call} (hcall : call.Alike other) :
    (q.apply call).Alike (r.apply other) := by
  obtain ⟨h⟩ := h
  cases hcall with
  | values hrecord => exact .mk (.single hrecord)
  | valuesMany hrecords => exact .mk (.many hrecords)
  | _ => exact .mk h

/-- **A run**: chains of calls that are alike keep insertions alike. -/
theorem run {q r : Insert} (h : q.Alike r) {calls others : List Call}
    (hcalls : List.Forall₂ Call.Alike calls others) : (q.run calls).Alike (r.run others) :=
  List.rel_foldl (fun _ _ hstep _ _ hcall => hstep.apply hcall) h hcalls

/-- **Insertions that are alike** lead to the same end. -/
theorem agree_build {q r : Insert} (h : q.Alike r) : Agree Statement.Alike q.build r.build := by
  obtain ⟨h⟩ := h
  rw [build_eq, build_eq]
  refine (Agree.refl (fun _ => rfl) (checkedTable _)).bind fun table _ htable => ?_
  subst htable
  refine (agree_grid h).bind fun ⟨columns, rows⟩ ⟨_, others⟩ ⟨hcolumns, hrows⟩ => ?_
  subst hcolumns
  refine (Agree.refl (fun _ => rfl) (columns.forM (Identifier.check "column"))).bind
    fun _ _ _ => ?_
  refine (Agree.refl (fun _ => rfl) (conflictSql _)).bind fun conflict _ hconflict => ?_
  subst hconflict
  refine .ok (Statement.alike_ofFragment table (.cons (.raw _) (List.rel_append ?_
    (Fragment.alike_raw _))))
  refine Fragment.alike_join ", " (List.rel_map (fun row other hrow => ?_) hrows)
  exact .cons (.raw "(") (List.rel_append
    (Fragment.alike_join ", " (Fragment.alike_values hrow)) (Fragment.alike_raw ")"))

end Alike

end Insert

/-! ## Updates -/

namespace Record

theorem SameFields.insert {r s : Record} (h : r.SameFields s) (field : String) (v w : Value) :
    (r.insert field v).SameFields (s.insert field w) := by
  unfold SameFields
  rw [keys_insert, keys_insert, h]

/-- Storing entries under the same names keeps the names the same. -/
theorem SameFields.insertAll {r s : Record} (h : r.SameFields s)
    {entries others : List (String × Value)} (hnames : entries.map Prod.fst = others.map Prod.fst) :
    (r.insertAll entries).SameFields (s.insertAll others) := by
  have hentries : List.Forall₂ (fun entry other => entry.1 = other.1) entries others := by
    rw [← List.forall₂_eq_eq_eq, List.forall₂_map_left_iff, List.forall₂_map_right_iff] at hnames
    exact hnames
  clear hnames
  induction hentries generalizing r s with
  | nil => exact h
  | @cons entry other _ _ hentry _ ih =>
    refine ih ?_
    show (r.insert entry.1 entry.2).SameFields (s.insert other.1 other.2)
    rw [hentry]
    exact h.insert other.1 entry.2 other.2

end Record

namespace Update

/-- Calls that differ in values only. -/
inductive Call.Alike : Call → Call → Prop where
  | set {record other : Record} (h : record.SameFields other) : Alike (.set record) (.set other)
  | setValue (column : String) (v w : Value) : Alike (.setValue column v) (.setValue column w)
  | condition {c d : Condition} (h : c.Alike d) : Alike (.condition c) (.condition d)

/-- Updates that differ in values only. -/
inductive Alike : Update → Update → Prop where
  | mk {table : String} {assignments others : Record} {conditions conditions' : List Condition}
    (hassignments : assignments.SameFields others)
    (hconditions : List.Forall₂ Condition.Alike conditions conditions') :
    Alike ⟨table, assignments, conditions⟩ ⟨table, others, conditions'⟩

namespace Alike

/-- **A step**: calls that are alike keep updates alike. -/
theorem apply {q r : Update} (h : q.Alike r) {call other : Call} (hcall : call.Alike other) :
    (q.apply call).Alike (r.apply other) := by
  obtain ⟨hassignments, hconditions⟩ := h
  cases hcall with
  | set hrecord => exact .mk (hassignments.insertAll hrecord) hconditions
  | setValue column v w => exact .mk (hassignments.insert column v w) hconditions
  | condition hc => exact .mk hassignments (List.rel_append hconditions (.cons hc .nil))

/-- **A run**: chains of calls that are alike keep updates alike. -/
theorem run {q r : Update} (h : q.Alike r) {calls others : List Call}
    (hcalls : List.Forall₂ Call.Alike calls others) : (q.run calls).Alike (r.run others) :=
  List.rel_foldl (fun _ _ hstep _ _ hcall => hstep.apply hcall) h hcalls

/-- **Updates that are alike** lead to the same end. -/
theorem agree_build {q r : Update} (h : q.Alike r) : Agree Statement.Alike q.build r.build := by
  obtain @⟨table, assignments, others, conditions, conditions', hassignments, hconditions⟩ := h
  have hset : Agree (List.Forall₂ Fragment.Alike) (assignments.toList.mapM assignmentPart)
      (others.toList.mapM assignmentPart) := by
    have hentries : List.Forall₂ (fun entry other => entry.1 = other.1) assignments.toList
        others.toList := by
      have hnames : assignments.toList.map Prod.fst = others.toList.map Prod.fst := hassignments
      rw [← List.forall₂_eq_eq_eq, List.forall₂_map_left_iff, List.forall₂_map_right_iff] at hnames
      exact hnames
    refine Agree.mapM (fun entry other hentry => ?_) hentries
    unfold assignmentPart
    rw [hentry]
    exact (Agree.refl (fun _ => rfl) (Identifier.check "column" other.1)).bind fun _ _ _ =>
      .ok (.cons (.raw _) (.cons (.value _ _) .nil))
  rw [build_eq, build_eq]
  simp only
  rw [assignments.isEmpty_eq, others.isEmpty_eq, hassignments, isEmpty_eq_of_alike hconditions]
  refine (Agree.refl (fun _ => rfl) (Identifier.check "table" table)).bind fun _ _ _ => ?_
  split
  · exact .error rfl
  · split
    · exact .error rfl
    · have hfragment : Agree Fragment.Alike
          (fragment ⟨table, assignments, conditions⟩) (fragment ⟨table, others, conditions'⟩) := by
        refine hset.bind fun _ _ hset => ?_
        refine (Where.agree_clause? hconditions).bind fun _ _ hwhere => .ok ?_
        exact List.rel_append (List.rel_append (.cons (.raw _) (Fragment.alike_join ", " hset))
          (Fragment.alike_clause hwhere)) (Fragment.alike_raw _)
      exact hfragment.bind fun _ _ hf => .ok (Statement.alike_ofFragment table hf)

end Alike

end Update

/-! ## Deletions -/

namespace Delete

/-- Calls that differ in values only. -/
inductive Call.Alike : Call → Call → Prop where
  | fromTable (table : String) : Alike (.fromTable table) (.fromTable table)
  | condition {c d : Condition} (h : c.Alike d) : Alike (.condition c) (.condition d)

/-- Deletions that differ in values only. -/
inductive Alike : Delete → Delete → Prop where
  | mk {table? : Option String} {conditions others : List Condition}
    (h : List.Forall₂ Condition.Alike conditions others) :
    Alike ⟨table?, conditions⟩ ⟨table?, others⟩

namespace Alike

/-- **A step**: calls that are alike keep deletions alike. -/
theorem apply {q r : Delete} (h : q.Alike r) {call other : Call} (hcall : call.Alike other) :
    (q.apply call).Alike (r.apply other) := by
  obtain ⟨h⟩ := h
  cases hcall with
  | fromTable table => exact .mk h
  | condition hc => exact .mk (List.rel_append h (.cons hc .nil))

/-- **A run**: chains of calls that are alike keep deletions alike. -/
theorem run {q r : Delete} (h : q.Alike r) {calls others : List Call}
    (hcalls : List.Forall₂ Call.Alike calls others) : (q.run calls).Alike (r.run others) :=
  List.rel_foldl (fun _ _ hstep _ _ hcall => hstep.apply hcall) h hcalls

/-- **Deletions that are alike** lead to the same end. -/
theorem agree_build {q r : Delete} (h : q.Alike r) : Agree Statement.Alike q.build r.build := by
  obtain ⟨h⟩ := h
  rw [build_eq, build_eq]
  simp only
  split
  · rw [isEmpty_eq_of_alike h]
    refine (Agree.refl (fun _ => rfl) (Identifier.check "table" _)).bind fun _ _ _ => ?_
    split
    · exact .error rfl
    · refine (Where.agree_clause? h).bind fun _ _ hwhere => ?_
      exact .ok (Statement.alike_ofFragment _ (.cons (.raw _) (Fragment.alike_clause hwhere)))
  · exact .error rfl

end Alike

end Delete

/-! ## Chains -/

namespace Chain

/-- **Chains that differ in values only.** -/
inductive Alike : Chain → Chain → Prop where
  | select (fields : List SelectField) {calls others : List Select.Call}
    (h : List.Forall₂ Select.Call.Alike calls others) :
    Alike (.select fields calls) (.select fields others)
  | insert {calls others : List Insert.Call} (h : List.Forall₂ Insert.Call.Alike calls others) :
    Alike (.insert calls) (.insert others)
  | update (table : String) {calls others : List Update.Call}
    (h : List.Forall₂ Update.Call.Alike calls others) :
    Alike (.update table calls) (.update table others)
  | delete {calls others : List Delete.Call} (h : List.Forall₂ Delete.Call.Alike calls others) :
    Alike (.delete calls) (.delete others)

/-- **No value shows in the text of a statement.** Two chains that differ in values only lead to
statements of the same text with equally many parameters, or both to errors, of one kind. -/
theorem build_of_alike {c d : Chain} (h : c.Alike d) :
    (∃ s t, c.build = .ok s ∧ d.build = .ok t ∧ s.sql = t.sql ∧ s.params.size = t.params.size)
      ∨ ∃ e f, c.build = .error e ∧ d.build = .error f ∧ e.kind = f.kind := by
  have hagree : Agree Statement.Alike c.build d.build := by
    cases h with
    | select fields h =>
      have hstart : (Select.ofFields fields).Alike (Select.ofFields fields) := by
        rw [Select.ofFields_eq_run]
        refine Select.Alike.run (.mk .nil (.mk .none .none)) ?_
        rw [List.forall₂_map_left_iff, List.forall₂_map_right_iff, List.forall₂_same]
        exact fun f _ => .field f
      exact (hstart.run h).agree_build
    | insert h => exact (Insert.Alike.run (.mk .none) h).agree_build
    | update table h => exact (Update.Alike.run (.mk rfl .nil) h).agree_build
    | delete h => exact (Delete.Alike.run (.mk .nil) h).agree_build
  generalize c.build = x at hagree ⊢
  generalize d.build = y at hagree ⊢
  cases hagree with
  | ok h => exact .inl ⟨_, _, rfl, rfl, h.1, h.2⟩
  | error h => exact .inr ⟨_, _, rfl, rfl, h⟩

/-- A selection by a part of a name and a range. -/
def search (name : String) (least : Value) (amount : UInt64) : Chain :=
  .select [] [.fromTable "users", .filter .and "name" (.contains name),
    .filter .and "age" (.between least (.int 99)), .limit amount]

theorem build_search :
    ∃ s t, (search "ann" (.int 18) 10).build = .ok s
      ∧ (search "'; DROP TABLE users; --" (.text "$1") 0).build = .ok t
      ∧ s.sql = t.sql ∧ s.params.size = t.params.size := by
  have hage : (Comparison.between (.int 18) (.int 99)).Alike (.between (.text "$1") (.int 99)) :=
    .between rfl rfl
  have halike : Alike (search "ann" (.int 18) 10)
      (search "'; DROP TABLE users; --" (.text "$1") 0) :=
    .select [] (.cons (.fromTable "users")
      (.cons (.condition (Comparison.Alike.toCondition (.contains _ _) .and "name"))
        (.cons (.condition (hage.toCondition .and "age"))
          (.cons (.limit ⟨by decide, by decide⟩) .nil))))
  refine (build_of_alike halike).resolve_right ?_
  rintro ⟨e, f, he, -⟩
  cases he

end Chain

end PgStatement
