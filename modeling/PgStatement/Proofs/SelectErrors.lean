import PgStatement.Proofs.Acceptance
import PgStatement.Proofs.Ordering

/-!
# Errors of selections

Errors of a selection come from three moments. Fields and directions are looked at when they are
given, the table when the statement is built, and all that is in the clauses when they are written.
The first error of the first kind is kept, whatever is called afterwards; the others come up only if
there is none.

What is faulty when it is given is said without the state that the error is kept in: a field with
which something is wrong, and a direction before which no field to sort by was asked for
(`Call.Faulty`). The error that is kept is that of the first faulty call (`callError?_run`). With
what clauses hinge on, this settles how every chain ends (`build_outcome`): which chains lead to a
statement, and what the error is that all others lead to.

What is said of a field always has the operand that its operator needs. Selections give access to
their list of conditions too, so that a chain may hold conditions of any shape.
-/

namespace PgStatement

namespace Select

/-! ## Faulty calls -/

/-- The field to sort by that a call asks for. -/
def Call.orderField? : Call → Option String
  | .orderBy column | .orderByDesc column => some column
  | _ => none

/-- **Calls that are faulty when they are made**, after other calls, with what is reported. -/
inductive Call.Faulty (before : List Call) : Call → String → Prop where
  /-- Something is wrong with a field. -/
  | field {f : SelectField} {message : String} (h : f.Complaint message) :
    Faulty before (.field f) message
  /-- A direction comes before any field to sort by. -/
  | direction {d : Direction} (h : before.filterMap Call.orderField? = []) :
    Faulty before (.direction d) (d.callName ++ " requires a preceding order_by()")

/-- **Chains without a faulty call.** -/
def Sound (calls : List Call) : Prop :=
  ∀ before call after, calls = before ++ call :: after → ∀ message, ¬call.Faulty before message

/-- **What the first faulty call of a chain reports.** -/
def FirstFault (calls : List Call) (message : String) : Prop :=
  ∃ before call after, calls = before ++ call :: after ∧ Sound before ∧ call.Faulty before message

section Faults

variable {calls : List Call} {call : Call} {message : String}

/-- A call of a longer chain is the last one or a call of the shorter chain. -/
theorem concat_eq_iff {before after : List Call} {other : Call} :
    calls ++ [call] = before ++ other :: after
      ↔ (∃ rest, after = rest ++ [call] ∧ calls = before ++ other :: rest)
        ∨ after = [] ∧ calls = before ∧ call = other := by
  rcases after.eq_nil_or_concat' with rfl | ⟨rest, last, rfl⟩
  · rw [List.append_singleton_inj]
    simp
  · rw [← List.cons_append, ← List.append_assoc, List.append_singleton_inj]
    constructor
    · rintro ⟨rfl, rfl⟩
      exact .inl ⟨rest, rfl, rfl⟩
    · rintro (⟨others, heq, rfl⟩ | ⟨hnil, -⟩)
      · obtain ⟨rfl, rfl⟩ := List.append_singleton_inj.mp heq
        exact ⟨rfl, rfl⟩
      · exact absurd hnil (List.append_ne_nil_of_right_ne_nil rest (List.cons_ne_nil last []))

theorem sound_concat : Sound (calls ++ [call]) ↔ Sound calls
    ∧ ∀ message, ¬call.Faulty calls message := by
  unfold Sound
  simp only [concat_eq_iff]
  constructor
  · intro h
    exact ⟨fun before other after heq => h before other _ (.inl ⟨after, rfl, heq⟩),
      h calls call [] (.inr ⟨rfl, rfl, rfl⟩)⟩
  · rintro ⟨h, hlast⟩ before other after (⟨rest, rfl, heq⟩ | ⟨rfl, rfl, rfl⟩)
    · exact h before other rest heq
    · exact hlast

theorem firstFault_concat : FirstFault (calls ++ [call]) message
    ↔ FirstFault calls message ∨ Sound calls ∧ call.Faulty calls message := by
  unfold FirstFault
  simp only [concat_eq_iff]
  constructor
  · rintro ⟨before, other, after, ⟨rest, rfl, heq⟩ | ⟨rfl, rfl, rfl⟩, hsound, hfaulty⟩
    · exact .inl ⟨before, other, rest, heq, hsound, hfaulty⟩
    · exact .inr ⟨hsound, hfaulty⟩
  · rintro (⟨before, other, after, heq, hsound, hfaulty⟩ | ⟨hsound, hfaulty⟩)
    · exact ⟨before, other, _, .inl ⟨after, rfl, heq⟩, hsound, hfaulty⟩
    · exact ⟨calls, call, [], .inr ⟨rfl, rfl, rfl⟩, hsound, hfaulty⟩

theorem sound_nil : Sound [] := fun before _ _ h => absurd h.symm (by simp)

/-- A chain with a faulty call has a first one. -/
theorem sound_iff : Sound calls ↔ ∀ message, ¬FirstFault calls message := by
  induction calls using List.reverseRecOn with
  | nil => exact iff_of_true sound_nil fun _ ⟨_, _, _, h, _⟩ => absurd h.symm (by simp)
  | append_singleton calls call ih =>
    simp only [sound_concat, firstFault_concat, not_or, forall_and, ← ih]
    exact and_congr_right fun h => forall_congr' fun _ => by simp [h]

/-- **A chain without a faulty call** has valid fields only, and no direction before the first field
to sort by. -/
theorem sound_iff_valid : Sound calls
    ↔ (∀ f, .field f ∈ calls → f.IsValid)
      ∧ ∀ before d after, calls = before ++ .direction d :: after →
        before.filterMap Call.orderField? ≠ [] := by
  constructor
  · intro h
    constructor
    · intro f hf
      obtain ⟨before, after, heq⟩ := List.append_of_mem hf
      exact SelectField.isValid_iff.mpr fun message hcomplaint =>
        h before _ after heq message (.field hcomplaint)
    · exact fun before d after heq hnone => h before _ after heq _ (.direction hnone)
  · rintro ⟨hfields, hdirections⟩ before call after heq message hfaulty
    cases hfaulty with
    | @field f _ hcomplaint =>
      refine hcomplaint.not_isValid (hfields f ?_)
      rw [heq]
      exact List.mem_append_right _ List.mem_cons_self
    | direction hnone => exact hdirections before _ after heq hnone

end Faults

/-! ## The error that is kept -/

/-- The ordering of a chain has the fields that were asked for. -/
theorem select_mem_iff {calls : List Call} {field : String} :
    .select field ∈ calls.flatMap OrderBy.Call.ofSelect
      ↔ field ∈ calls.filterMap Call.orderField? := by
  rw [List.mem_flatMap, List.mem_filterMap]
  refine exists_congr fun call => and_congr_right fun _ => ?_
  cases call <;> simp [OrderBy.Call.ofSelect, Call.orderField?, eq_comm]

theorem follows_ordering (calls : List Call) :
    (all.run calls).ordering.Follows (calls.flatMap OrderBy.Call.ofSelect) := by
  rw [OrderBy.ordering_run]
  exact OrderBy.follows_run _

/-- **A call runs into an error if it is faulty.** -/
theorem fault?_run {calls : List Call} {call : Call} {e : Error} :
    (all.run calls).fault? call = some e
      ↔ ∃ message, e = .invalidArgument message ∧ call.Faulty calls message := by
  cases call with
  | field f =>
    have hfault : (all.run calls).fault? (.field f) = some e ↔ f.check = .error e :=
      errorOf?_eq_some_iff
    rw [hfault, SelectField.check_eq_error_iff]
    refine exists_congr fun message => and_congr_right fun _ => ⟨.field, fun h => ?_⟩
    cases h with
    | field h => exact h
  | direction d =>
    have hfault : (all.run calls).fault? (.direction d) = some e
        ↔ (all.run calls).ordering.setDirection d = .error e := errorOf?_eq_some_iff
    have hnone : (all.run calls).ordering.current = none
      ↔ calls.filterMap Call.orderField? = [] := by
      rw [(follows_ordering calls).current_eq_none_iff, List.eq_nil_iff_forall_not_mem]
      exact forall_congr' fun _ => not_congr select_mem_iff
    rw [hfault, (follows_ordering calls).setDirection_eq_error_iff, hnone]
    constructor
    · rintro ⟨h, rfl⟩
      exact ⟨_, rfl, .direction h⟩
    · rintro ⟨_, rfl, h⟩
      cases h with
      | direction h => exact ⟨h, rfl⟩
  | orderByDesc column =>
    obtain ⟨o, ho⟩ := (all.run calls).ordering.exists_setDirection_select column .desc
    refine iff_of_false (fun h => ?_) fun ⟨_, _, h⟩ => nomatch h
    exact nomatch ho.symm.trans (errorOf?_eq_some_iff.mp h)
  | _ => exact iff_of_false nofun fun ⟨_, _, h⟩ => nomatch h

/-- **The error that is kept** is that of the first faulty call. -/
theorem callError?_run {calls : List Call} {e : Error} : (all.run calls).callError? = some e
    ↔ ∃ message, e = .invalidArgument message ∧ FirstFault calls message := by
  induction calls using List.reverseRecOn generalizing e with
  | nil => exact iff_of_false nofun fun ⟨_, _, h⟩ => sound_iff.mp sound_nil _ h
  | append_singleton calls call ih =>
    have hrun : all.run (calls ++ [call]) = (all.run calls).apply call := List.foldl_concat ..
    simp only [hrun, callError?_apply, firstFault_concat]
    cases hkept : (all.run calls).callError? with
    | some kept =>
      -- a call before was faulty, so that it makes no difference whether the last one is
      obtain ⟨message, rfl, hfirst⟩ := ih.mp hkept
      have hnot : ¬Sound calls := fun h => sound_iff.mp h message hfirst
      rw [Option.some_or, ← hkept, ih]
      simp only [hnot, false_and, or_false]
    | none =>
      have hsound : Sound calls := sound_iff.mpr fun message h => by
        rw [ih.mpr ⟨message, rfl, h⟩] at hkept
        cases hkept
      rw [Option.none_or, fault?_run]
      simp only [hsound, true_and, sound_iff.mp hsound, false_or]

/-! ## The end of a chain -/

/-- The columns to group by that a call adds. -/
def Call.columns : Call → List String
  | .groupBy columns => columns
  | _ => []

theorem groups_apply (q : Select) (call : Call) :
    (q.apply call).groups = q.groups ++ call.columns := by
  cases call with
  | groupBy columns => rfl
  | _ =>
    refine Eq.trans ?_ (List.append_nil q.groups).symm
    exact separates.other (k := .groups) nofun

/-- **What a selection is grouped by** is what the calls have added, in order. -/
theorem groups_run (q : Select) (calls : List Call) :
    (q.run calls).groups = q.groups ++ calls.flatMap Call.columns := by
  induction calls generalizing q with
  | nil => exact (List.append_nil _).symm
  | cons call calls ih =>
    rw [List.flatMap_cons, ← List.append_assoc, ← groups_apply]
    exact ih (q.apply call)

/-- **Chains that lead to a statement.** -/
structure IsAcceptable (calls : List Call) : Prop where
  /-- All fields are valid. -/
  fields (f : SelectField) (h : .field f ∈ calls) : f.IsValid
  /-- No direction comes before the first field to sort by. -/
  directions (before : List Call) (d : Direction) (after : List Call)
    (h : calls = before ++ .direction d :: after) : before.filterMap Call.orderField? ≠ []
  /-- A table is set, and the last one is an identifier. -/
  table : ∃ table, (calls.filterMap Call.table?).getLast? = some table ∧ IsIdentifier table
  /-- All conditions can be written. -/
  conditions (c : Condition) (h : c ∈ calls.filterMap Call.condition?) : c.IsRenderable
  /-- No column to group by is blank. -/
  groups (column : String) (h : column ∈ calls.flatMap Call.columns) :
    Text.isBlankText column = false
  /-- No field to sort by is blank. -/
  ordering (column : String) (h : column ∈ calls.filterMap Call.orderField?) :
    Text.isBlankText column = false
  /-- The last limit fits a signed integer. -/
  limit : Pagination.IsInRange (calls.filterMap Call.limit?).getLast?
  /-- The last offset fits a signed integer. -/
  offset : Pagination.IsInRange (calls.filterMap Call.offset?).getLast?

/-- **How a chain ends.** -/
structure Outcome (calls : List Call) (result : Except Error Statement) : Prop where
  /-- It leads to a statement exactly if it is acceptable. -/
  ok_iff : (∃ s, result = .ok s) ↔ IsAcceptable calls
  /-- There is a first faulty call exactly if a field is not valid or a direction comes too
  early. -/
  exists_firstFault_iff : (∃ message, FirstFault calls message)
    ↔ ¬((∀ f, .field f ∈ calls → f.IsValid) ∧ ∀ before d after,
      calls = before ++ .direction d :: after → before.filterMap Call.orderField? ≠ [])
  /-- The error is that of the first faulty call, if there is one. -/
  faulty {message : String} (h : FirstFault calls message) :
    result = .error (.invalidArgument message)
  /-- If there is none, it is missing that the table be set, or an argument is not acceptable. -/
  kind {e : Error} (h : result = .error e) (hnone : ∀ message, ¬FirstFault calls message) :
    e.kind = if calls.filterMap Call.table? = [] then .configuration else .invalidArgument

/-- A selection without a table. -/
theorem build_of_table?_eq_none {q : Select} (hkept : q.callError? = none) (h : q.table? = none) :
    q.build = .error missingTable := by
  rw [build_eq, hkept, checkedTable, h]
  rfl

/-- **A selection of a table** hinges on the table and all that is in the clauses. -/
theorem hingesOn_build {q : Select} {table : String} (hkept : q.callError? = none)
    (h : q.table? = some table) : HingesOn q.build (IsIdentifier table
      ∧ (∀ c ∈ q.conditions, c.IsRenderable)
      ∧ (∀ column ∈ q.groups, Text.isBlankText column = false)
      ∧ (∀ field ∈ q.ordering.items.map Prod.fst, Text.isBlankText field = false)
      ∧ Pagination.IsInRange q.pagination.limit ∧ Pagination.IsInRange q.pagination.offset) := by
  rw [build_eq, hkept, checkedTable, h]
  exact ((hingesOn_check "table" table).map _).bind fun _ => q.hingesOn_clauses.map _

/-- What a chain sets and adds, as its calls say it. -/
theorem parts_run (calls : List Call) :
    (all.run calls).table? = (calls.filterMap Call.table?).getLast?
    ∧ (all.run calls).conditions = calls.filterMap Call.condition?
    ∧ (all.run calls).groups = calls.flatMap Call.columns
    ∧ (∀ column, column ∈ (all.run calls).ordering.items.map Prod.fst
      ↔ column ∈ calls.filterMap Call.orderField?)
    ∧ (all.run calls).pagination
      = ⟨(calls.filterMap Call.limit?).getLast?, (calls.filterMap Call.offset?).getLast?⟩ := by
  refine ⟨(table_run all calls).trans Option.or_none, conditions_run all calls,
    groups_run all calls, fun column => ?_, ?_⟩
  · exact (follows_ordering calls).sorts.mem_fields_iff.trans select_mem_iff
  · rw [pagination_run]
    exact congrArg₂ Pagination.mk Option.or_none Option.or_none

theorem callError?_eq_none_iff {calls : List Call} :
    (all.run calls).callError? = none ↔ Sound calls := by
  rw [sound_iff, Option.eq_none_iff_forall_ne_some]
  constructor
  · exact fun h message hfirst => h _ (callError?_run.mpr ⟨message, rfl, hfirst⟩)
  · intro h e he
    obtain ⟨message, -, hfirst⟩ := callError?_run.mp he
    exact h message hfirst

/-- A chain without a faulty call leads to a statement if it is acceptable. -/
theorem exists_build_iff {calls : List Call} (hsound : Sound calls) :
    (∃ s, (all.run calls).build = .ok s) ↔ IsAcceptable calls := by
  obtain ⟨htable, hconditions, hgroups, hordering, hpages⟩ := parts_run calls
  have hkept := callError?_eq_none_iff.mpr hsound
  cases hlast : (calls.filterMap Call.table?).getLast? with
  | none =>
    rw [build_of_table?_eq_none hkept (htable.trans hlast)]
    refine iff_of_false nofun fun h => ?_
    obtain ⟨table, hsome, -⟩ := h.table
    exact nomatch hlast.symm.trans hsome
  | some table =>
    rw [(hingesOn_build hkept (htable.trans hlast)).ok_iff]
    simp only [hconditions, hgroups, hordering, hpages]
    obtain ⟨hfields, hdirections⟩ := sound_iff_valid.mp hsound
    constructor
    · rintro ⟨hname, hconditions, hgroups, hordering, hlimit, hoffset⟩
      exact ⟨hfields, hdirections, ⟨table, hlast, hname⟩, hconditions, hgroups, hordering, hlimit,
        hoffset⟩
    · intro h
      obtain ⟨other, hother, hname⟩ := h.table
      obtain rfl := Option.some.inj (hlast.symm.trans hother)
      exact ⟨hname, h.conditions, h.groups, h.ordering, h.limit, h.offset⟩

theorem outcome_build (calls : List Call) : Outcome calls (all.run calls).build where
  ok_iff := by
    by_cases hsound : Sound calls
    · exact exists_build_iff hsound
    · have hfirst : ∃ message, FirstFault calls message := by
        rwa [sound_iff, not_forall_not] at hsound
      obtain ⟨message, hfirst⟩ := hfirst
      rw [build_of_callError? (callError?_run.mpr ⟨message, rfl, hfirst⟩)]
      exact iff_of_false nofun fun h => hsound (sound_iff_valid.mpr ⟨h.fields, h.directions⟩)
  exists_firstFault_iff := by rw [← sound_iff_valid, sound_iff, not_forall_not]
  faulty {message} h := build_of_callError? (callError?_run.mpr ⟨message, rfl, h⟩)
  kind {e} h hnone := by
    have hkept := callError?_eq_none_iff.mpr (sound_iff.mpr hnone)
    have htable := (parts_run calls).1
    cases hlast : (calls.filterMap Call.table?).getLast? with
    | none =>
      rw [build_of_table?_eq_none hkept (htable.trans hlast)] at h
      rw [if_pos (List.getLast?_eq_none_iff.mp hlast), ← Except.error.inj h]
      rfl
    | some table =>
      have hne : calls.filterMap Call.table? ≠ [] := fun hnil => by
        rw [hnil] at hlast
        cases hlast
      rw [if_neg hne]
      exact (hingesOn_build hkept (htable.trans hlast)).kind h

/-- **How every chain ends**: in a statement exactly if everything in it is acceptable, else in the
error of the first faulty call, and if no call was faulty in an error about the table or an
argument. -/
theorem build_outcome (fields : List SelectField) (calls : List Call) :
    Outcome (fields.map .field ++ calls) ((ofFields fields).run calls).build := by
  have hstate : (ofFields fields).run calls = all.run (fields.map .field ++ calls) := by
    rw [ofFields_eq_run, run, run, run, List.foldl_append]
  rw [hstate]
  exact outcome_build _

/-- A chain with two faulty calls and a table that is no identifier. -/
def misled : List Call :=
  [.fromTable "open tickets", .direction .desc, .condition ⟨"state", .eq, .none, .and⟩,
    .field (.aggregate (.of .sum ""))]

/-- A chain that is acceptable in the end, with a condition that is added as it is. -/
def amended : List Call :=
  [.fromTable "open tickets", .orderBy "opened", .direction .desc,
    .condition ⟨"state", .oneOf, .list [.text "new", .text "held"], .and⟩, .limit 20,
    .fromTable "tickets"]

theorem build_outcome_tickets :
    ((ofFields [.column "id"]).run misled).build
        = .error (.invalidArgument "desc() requires a preceding order_by()")
      ∧ IsAcceptable (.field (.column "id") :: amended) := by
  refine ⟨(build_outcome [.column "id"] misled).faulty ?_,
    (build_outcome [.column "id"] amended).ok_iff.mp ⟨_, rfl⟩⟩
  have hsound : Sound [.field (.column "id"), .fromTable "open tickets"] := by
    refine sound_iff_valid.mpr ⟨fun f hf => ?_, fun before d after heq => ?_⟩
    · obtain rfl : f = .column "id" := by simpa using hf
      rfl
    · have hmem : Call.direction d ∈ [.field (.column "id"), .fromTable "open tickets"] :=
        heq ▸ List.mem_append_right _ List.mem_cons_self
      simp at hmem
  exact ⟨[.field (.column "id"), .fromTable "open tickets"], _, _, rfl, hsound, .direction rfl⟩

end Select

end PgStatement
