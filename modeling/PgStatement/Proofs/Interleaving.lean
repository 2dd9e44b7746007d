import PgStatement.Proofs.Chain
import PgStatement.Proofs.Result

/-!
# Calls of different clauses

The calls on a statement belong to its clauses, and a clause is written of its own calls alone:
calls of different clauses may come in any order. Two chains that have the same calls clause by
clause (`SameCalls`) lead to the same statement, or both to errors of one kind
(`Chain.build_of_interleaved`).

That a clause keeps to itself is a matter of single calls (`Separates`): a call changes the part of
the state that its clause stands for, depending on nothing but this part, and no other part. There
is one exception. A selection notes the first error of a call, whichever clause the call belongs to,
so that the error itself depends on the order. Whether there is one does not, since a clause runs
into an error with others between its calls exactly if it does without them
(`Separates.flag_foldl_iff`).
-/

namespace PgStatement

/-! ## Calls clause by clause -/

section Clauses

variable {σ κ ι : Type} [DecidableEq ι] {γ : ι → Type}

/-- The calls of a clause, in order. -/
def callsOf (clause : κ → ι) (k : ι) (calls : List κ) : List κ :=
  calls.filter fun call => clause call = k

/-- **Chains with the same calls, clause by clause.** -/
def SameCalls (clause : κ → ι) (calls others : List κ) : Prop :=
  ∀ k, callsOf clause k calls = callsOf clause k others

theorem callsOf_cons (clause : κ → ι) (k : ι) (call : κ) (calls : List κ) :
    callsOf clause k (call :: calls)
      = if clause call = k then call :: callsOf clause k calls else callsOf clause k calls := by
  unfold callsOf
  rw [List.filter_cons]
  simp only [decide_eq_true_eq]

theorem callsOf_concat (clause : κ → ι) (k : ι) (calls : List κ) (call : κ) :
    callsOf clause k (calls ++ [call])
      = if clause call = k then callsOf clause k calls ++ [call] else callsOf clause k calls := by
  have happend :
      callsOf clause k (calls ++ [call]) = callsOf clause k calls ++ callsOf clause k [call] :=
    List.filter_append calls [call]
  rw [happend, callsOf_cons]
  split
  · rfl
  · exact List.append_nil _

/-- **Clauses are kept apart**: a call changes the part of its own clause, in a way that depends on
this part only, and leaves the others as they are. -/
structure Separates (apply : σ → κ → σ) (clause : κ → ι) (part : (k : ι) → σ → γ k) : Prop where
  /-- The parts of other clauses stay. -/
  other {q : σ} {call : κ} {k : ι} (h : clause call ≠ k) : part k (apply q call) = part k q
  /-- The part of the clause changes as it would in any other state. -/
  own {q r : σ} {call : κ} (h : part (clause call) q = part (clause call) r) :
    part (clause call) (apply q call) = part (clause call) (apply r call)

namespace Separates

variable {apply : σ → κ → σ} {clause : κ → ι} {part : (k : ι) → σ → γ k}

/-- **A part after a run** is what the calls of its clause alone make of it. -/
theorem part_foldl (h : Separates apply clause part) {k : ι} {q r : σ} (hpart : part k q = part k r)
    (calls : List κ) :
    part k (calls.foldl apply q) = part k ((callsOf clause k calls).foldl apply r) := by
  induction calls generalizing q r with
  | nil => exact hpart
  | cons call calls ih =>
    rw [List.foldl_cons, callsOf_cons]
    split
    · rename_i hclause
      subst hclause
      exact ih (h.own hpart)
    · rename_i hclause
      exact ih ((h.other hclause).trans hpart)

/-- **Runs of the same calls** lead to the same parts. -/
theorem part_eq (h : Separates apply clause part) {calls others : List κ}
    (hcalls : SameCalls clause calls others) (q : σ) (k : ι) :
    part k (calls.foldl apply q) = part k (others.foldl apply q) := by
  rw [h.part_foldl rfl, hcalls k, ← h.part_foldl rfl]

/-- **A flag that calls raise** is raised in a run if it is in the run of one of the clauses alone.
Whether a call raises it must depend on the part of its clause only. -/
theorem flag_foldl_iff (h : Separates apply clause part) (flag : σ → Bool) {raises : σ → κ → Bool}
    (hflag : ∀ q call, flag (apply q call) = (flag q || raises q call))
    (hraises : ∀ {q r call}, part (clause call) q = part (clause call) r →
      raises q call = raises r call) {q : σ} (hq : flag q = false) (calls : List κ) :
    flag (calls.foldl apply q) = true
      ↔ ∃ k, flag ((callsOf clause k calls).foldl apply q) = true := by
  induction calls using List.reverseRecOn with
  | nil =>
    rw [List.foldl_nil, hq]
    refine iff_of_false Bool.false_ne_true ?_
    rintro ⟨k, hk⟩
    exact Bool.false_ne_true (hq.symm.trans hk)
  | append_singleton calls call ih =>
    rw [List.foldl_concat, hflag, Bool.or_eq_true, ih]
    have hcall : raises (calls.foldl apply q) call
        = raises ((callsOf clause (clause call) calls).foldl apply q) call :=
      hraises (h.part_foldl rfl calls)
    constructor
    · rintro (⟨k, hk⟩ | hraised)
      · refine ⟨k, ?_⟩
        rw [callsOf_concat]
        split
        · rw [List.foldl_concat, hflag, hk, Bool.true_or]
        · exact hk
      · refine ⟨clause call, ?_⟩
        rw [callsOf_concat, if_pos rfl, List.foldl_concat, hflag, ← hcall, hraised, Bool.or_true]
    · rintro ⟨k, hk⟩
      rw [callsOf_concat] at hk
      split at hk
      · rename_i hclause
        subst hclause
        rw [List.foldl_concat, hflag, Bool.or_eq_true, ← hcall] at hk
        exact hk.imp_left fun hk => ⟨_, hk⟩
      · exact .inl ⟨k, hk⟩

end Separates

end Clauses

attribute [ext] Pagination Select Insert Update Delete

/-! ## Selections -/

namespace Select

/-- The clauses of a selection. -/
inductive Clause where
  | fields | distinct | table | conditions | groups | ordering | limit | offset
  deriving DecidableEq

/-- The clause of a call. A direction belongs to the ordering, as the fields to sort by do. -/
def Call.clause : Call → Clause
  | .field _ => .fields
  | .distinct => .distinct
  | .fromTable _ => .table
  | .condition _ => .conditions
  | .groupBy _ => .groups
  | .orderBy _ | .orderByDesc _ | .direction _ => .ordering
  | .limit _ => .limit
  | .offset _ => .offset

/-- What the state holds of a clause. -/
def Clause.Part : Clause → Type
  | .fields => List SelectField
  | .distinct => Bool
  | .table => Option String
  | .conditions => List Condition
  | .groups => List String
  | .ordering => OrderBy
  | .limit | .offset => Option UInt64

/-- The part of the state that a clause stands for. -/
def part : (k : Clause) → Select → k.Part
  | .fields, q => q.fields
  | .distinct, q => q.isDistinct
  | .table, q => q.table?
  | .conditions, q => q.conditions
  | .groups, q => q.groups
  | .ordering, q => q.ordering
  | .limit, q => q.pagination.limit
  | .offset, q => q.pagination.offset

/-- Whether a call runs into an error. -/
def raises (q : Select) : Call → Bool
  | .field f => !f.check.isOk
  | .direction d => !(q.ordering.setDirection d).isOk
  | .orderByDesc column => !((q.ordering.select column).setDirection .desc).isOk
  | _ => false

variable {q r : Select}

/-- A field changes the fields, and maybe the error. -/
theorem exists_field (q : Select) (f : SelectField) :
    ∃ e?, q.field f = { q with fields := q.fields ++ [f], callError? := e? } := by
  unfold field
  cases f.check <;> exact ⟨_, rfl⟩

/-- A direction changes the ordering or the error. -/
theorem exists_direction (q : Select) (d : Direction) :
    ∃ e?, q.direction d
      = { q with
          ordering := (q.ordering.setDirection d).toOption.getD q.ordering, callError? := e? } := by
  unfold direction
  cases q.ordering.setDirection d <;> exact ⟨_, rfl⟩

theorem part_direction {k : Clause} (d : Direction) (hk : Clause.ordering ≠ k) :
    part k (q.direction d) = part k q := by
  obtain ⟨e?, he⟩ := exists_direction q d
  rw [he]
  cases k with
  | ordering => exact absurd rfl hk
  | _ => rfl

theorem ordering_direction (d : Direction) (h : q.ordering = r.ordering) :
    (q.direction d).ordering = (r.direction d).ordering := by
  obtain ⟨e?, he⟩ := exists_direction q d
  obtain ⟨f?, hf⟩ := exists_direction r d
  rw [he, hf, h]

/-- **The clauses of a selection are kept apart.** -/
theorem separates : Separates apply Call.clause part where
  other {q call k} h := by
    cases call with
    | field f =>
      obtain ⟨e?, he⟩ := exists_field q f
      show part k (q.field f) = part k q
      rw [he]
      cases k with
      | fields => exact absurd rfl h
      | _ => rfl
    | direction d => exact part_direction d h
    | orderByDesc column =>
      refine (part_direction (q := q.orderBy column) .desc h).trans ?_
      cases k with
      | ordering => exact absurd rfl h
      | _ => rfl
    | _ => cases k <;> first | rfl | exact absurd rfl h
  own {q r call} h := by
    cases call with
    | field f =>
      obtain ⟨e?, he⟩ := exists_field q f
      obtain ⟨f?, hf⟩ := exists_field r f
      show (q.field f).fields = (r.field f).fields
      rw [he, hf]
      exact congrArg (· ++ [f]) h
    | condition c => exact congrArg (· ++ [c]) h
    | groupBy columns => exact congrArg (· ++ columns) h
    | orderBy column => exact congrArg (OrderBy.select · column) h
    | orderByDesc column => exact ordering_direction .desc (congrArg (OrderBy.select · column) h)
    | direction d => exact ordering_direction d h
    | _ => rfl

/-- The error of a call, if it runs into one. -/
def fault? (q : Select) : Call → Option Error
  | .field f => errorOf? f.check
  | .direction d => errorOf? (q.ordering.setDirection d)
  | .orderByDesc column => errorOf? ((q.ordering.select column).setDirection .desc)
  | _ => none

theorem callError?_noteError (q : Select) (e : Error) :
    (q.noteError e).callError? = q.callError?.or (some e) := by
  unfold noteError
  cases q.callError? <;> rfl

theorem callError?_direction (q : Select) (d : Direction) :
    (q.direction d).callError? = q.callError?.or (errorOf? (q.ordering.setDirection d)) := by
  unfold direction
  cases q.ordering.setDirection d with
  | ok o => exact Option.or_none.symm
  | error e => exact callError?_noteError q e

/-- **The first error is kept**: that of a call only if there was none before. -/
theorem callError?_apply (q : Select) (call : Call) :
    (q.apply call).callError? = q.callError?.or (q.fault? call) := by
  cases call with
  | field f =>
    show (q.field f).callError? = q.callError?.or (errorOf? f.check)
    unfold field
    cases f.check with
    | ok => exact Option.or_none.symm
    | error e => exact callError?_noteError _ e
  | direction d => exact callError?_direction q d
  | orderByDesc column => exact callError?_direction (q.orderBy column) .desc
  | _ => exact Option.or_none.symm

theorem isSome_fault? (q : Select) (call : Call) : (q.fault? call).isSome = q.raises call := by
  cases call with
  | field f => exact isSome_errorOf? _
  | direction d => exact isSome_errorOf? _
  | orderByDesc column => exact isSome_errorOf? _
  | _ => rfl

/-- **An error is noted** if a call runs into it or one before has done so. -/
theorem isSome_callError?_apply (q : Select) (call : Call) :
    (q.apply call).callError?.isSome = (q.callError?.isSome || q.raises call) := by
  rw [callError?_apply, Option.isSome_or, isSome_fault?]

theorem raises_eq {call : Call} (h : part call.clause q = part call.clause r) :
    q.raises call = r.raises call := by
  cases call with
  | direction d =>
    have hordering : q.ordering = r.ordering := h
    rw [raises, raises, hordering]
  | orderByDesc column =>
    have hordering : q.ordering = r.ordering := h
    rw [raises, raises, hordering]
  | _ => rfl

/-! ### The errors that are noted -/

theorem kind_of_checkField {role text : String} {e : Error} (h : checkField role text = .error e) :
    e.kind = .invalidArgument := by
  unfold checkField at h
  split at h
  · obtain rfl := Except.error.inj h
    rfl
  · cases h

theorem kind_of_aggregateCheck {a : Aggregate} {e : Error} (h : a.check = .error e) :
    e.kind = .invalidArgument := by
  unfold Aggregate.check at h
  split at h
  · obtain rfl := Except.error.inj h
    rfl
  · split at h
    · obtain rfl := Except.error.inj h
      rfl
    · cases h

theorem kind_of_fieldCheck {f : SelectField} {e : Error} (h : f.check = .error e) :
    e.kind = .invalidArgument := by
  cases f with
  | column expression => exact kind_of_checkField h
  | aggregate a => exact kind_of_aggregateCheck h

theorem kind_of_setDirection {o : OrderBy} {d : Direction} {e : Error}
    (h : o.setDirection d = .error e) : e.kind = .invalidArgument := by
  unfold OrderBy.setDirection at h
  split at h
  · obtain rfl := Except.error.inj h
    rfl
  · split at h
    · obtain rfl := Except.error.inj h
      rfl
    · cases h

/-- Selections in which an error, if there is one, is about an argument. -/
def NotesArguments (q : Select) : Prop := ∀ e, q.callError? = some e → e.kind = .invalidArgument

theorem kind_of_fault? {call : Call} {e : Error} (h : q.fault? call = some e) :
    e.kind = .invalidArgument := by
  cases call with
  | field f => exact kind_of_fieldCheck (errorOf?_eq_some_iff.mp h)
  | direction d => exact kind_of_setDirection (errorOf?_eq_some_iff.mp h)
  | orderByDesc column => exact kind_of_setDirection (errorOf?_eq_some_iff.mp h)
  | _ => cases h

/-- **A step**: a call notes an error about an argument, if any. -/
theorem NotesArguments.apply (h : q.NotesArguments) (call : Call) :
    (q.apply call).NotesArguments := by
  intro e he
  rw [callError?_apply, Option.or_eq_some_iff] at he
  rcases he with he | ⟨-, he⟩
  · exact h e he
  · exact kind_of_fault? he

/-- **A run**: all errors that calls note are about arguments. -/
theorem NotesArguments.run (h : q.NotesArguments) (calls : List Call) :
    (q.run calls).NotesArguments := by
  unfold Select.run
  induction calls generalizing q with
  | nil => exact h
  | cons call calls ih => exact ih (h.apply call)

/-! ### The statement -/

/-- A selection is what it holds of its clauses, and its error. -/
theorem eq_of_part_eq (hpart : ∀ k, part k q = part k r) (herror : q.callError? = r.callError?) :
    q = r :=
  Select.ext (hpart .fields) (hpart .distinct) (hpart .table) (hpart .conditions) (hpart .groups)
    (hpart .ordering) (Pagination.ext (hpart .limit) (hpart .offset)) herror

theorem build_of_callError? {e : Error} (h : q.callError? = some e) : q.build = .error e := by
  rw [build, h]
  rfl

/-- Two selections that hold the same of every clause lead to the same end, if both or neither have
noted an error. -/
theorem agree_build_of_part_eq (hpart : ∀ k, part k q = part k r)
    (hflag : q.callError?.isSome = r.callError?.isSome) (hq : q.NotesArguments)
    (hr : r.NotesArguments) : Agree Eq q.build r.build := by
  cases he : q.callError? with
  | none =>
    rw [he, Option.isSome_none, eq_comm, Option.isSome_eq_false_iff,
      Option.isNone_iff_eq_none] at hflag
    rw [eq_of_part_eq hpart (he.trans hflag.symm)]
    exact .refl (fun _ => rfl) _
  | some e =>
    rw [he, Option.isSome_some, eq_comm] at hflag
    obtain ⟨f, hf⟩ := Option.isSome_iff_exists.mp hflag
    rw [build_of_callError? he, build_of_callError? hf]
    exact .error ((hq e he).trans (hr f hf).symm)

/-- **Selections of the same calls** lead to the same end. -/
theorem agree_build_of_sameCalls {calls others : List Call}
    (h : SameCalls Call.clause calls others) :
    Agree Eq (all.run calls).build (all.run others).build := by
  have hnone : all.NotesArguments := nofun
  refine agree_build_of_part_eq (separates.part_eq h all) ?_ (hnone.run calls) (hnone.run others)
  have hflag (calls : List Call) : (all.run calls).callError?.isSome = true
      ↔ ∃ k, (all.run (callsOf Call.clause k calls)).callError?.isSome = true :=
    separates.flag_foldl_iff
      (fun q => q.callError?.isSome) isSome_callError?_apply raises_eq rfl calls
  rw [Bool.eq_iff_iff, hflag calls, hflag others]
  simp only [h _]

end Select

/-! ## Insertions -/

namespace Insert

/-- The clauses of an insertion. -/
inductive Clause where
  | table | rows | conflict
  deriving DecidableEq

/-- The clause of a call. -/
def Call.clause : Call → Clause
  | .into _ => .table
  | .values _ | .valuesMany _ => .rows
  | .onConflict _ _ => .conflict

/-- What the state holds of a clause. -/
def Clause.Part : Clause → Type
  | .table => Option String
  | .rows => Rows
  | .conflict => Option Conflict

/-- The part of the state that a clause stands for. -/
def part : (k : Clause) → Insert → k.Part
  | .table, q => q.table?
  | .rows, q => q.rows
  | .conflict, q => q.conflict?

/-- **The clauses of an insertion are kept apart.** -/
theorem separates : Separates apply Call.clause part where
  other {q call k} h := by cases call <;> cases k <;> first | rfl | exact absurd rfl h
  own {q r call} h := by cases call <;> rfl

/-- **Insertions of the same calls** are the same. -/
theorem run_of_sameCalls {calls others : List Call} (h : SameCalls Call.clause calls others)
    (q : Insert) : q.run calls = q.run others := by
  have hpart := separates.part_eq h q
  exact Insert.ext (hpart .table) (hpart .rows) (hpart .conflict)

end Insert

/-! ## Updates -/

namespace Update

/-- The clauses of an update that calls belong to. None of them sets the table. -/
inductive Clause where
  | assignments | conditions
  deriving DecidableEq

/-- The clause of a call. -/
def Call.clause : Call → Clause
  | .set _ | .setValue _ _ => .assignments
  | .condition _ => .conditions

/-- What the state holds of a clause, besides the table. -/
def Clause.Part : Clause → Type
  | .assignments => Record
  | .conditions => List Condition

/-- The part of the state that a clause stands for. -/
def part : (k : Clause) → Update → k.Part
  | .assignments, q => q.assignments
  | .conditions, q => q.conditions

/-- **The clauses of an update are kept apart.** -/
theorem separates : Separates apply Call.clause part where
  other {q call k} h := by cases call <;> cases k <;> first | rfl | exact absurd rfl h
  own {q r call} h := by
    cases call with
    | set values => exact congrArg (Record.insertAll · values.toList) h
    | setValue column v => exact congrArg (Record.insert · column v) h
    | condition c => exact congrArg (· ++ [c]) h

/-- **Updates of the same calls** are the same. -/
theorem run_of_sameCalls {calls others : List Call} (h : SameCalls Call.clause calls others)
    (q : Update) : q.run calls = q.run others := by
  have htable : (q.run calls).table = (q.run others).table := by rw [table_run, table_run]
  have hpart := separates.part_eq h q
  exact Update.ext htable (hpart .assignments) (hpart .conditions)

end Update

/-! ## Deletions -/

namespace Delete

/-- The clauses of a deletion. -/
inductive Clause where
  | table | conditions
  deriving DecidableEq

/-- The clause of a call. -/
def Call.clause : Call → Clause
  | .fromTable _ => .table
  | .condition _ => .conditions

/-- What the state holds of a clause. -/
def Clause.Part : Clause → Type
  | .table => Option String
  | .conditions => List Condition

/-- The part of the state that a clause stands for. -/
def part : (k : Clause) → Delete → k.Part
  | .table, q => q.table?
  | .conditions, q => q.conditions

/-- **The clauses of a deletion are kept apart.** -/
theorem separates : Separates apply Call.clause part where
  other {q call k} h := by cases call <;> cases k <;> first | rfl | exact absurd rfl h
  own {q r call} h := by
    cases call with
    | fromTable table => rfl
    | condition c => exact congrArg (· ++ [c]) h

/-- **Deletions of the same calls** are the same. -/
theorem run_of_sameCalls {calls others : List Call} (h : SameCalls Call.clause calls others)
    (q : Delete) : q.run calls = q.run others := by
  have hpart := separates.part_eq h q
  exact Delete.ext (hpart .table) (hpart .conditions)

end Delete

/-! ## Chains -/

namespace Chain

/-- **Chains with the same calls, clause by clause.** The fields that a selection starts with count
as calls; an update starts with its table. -/
inductive Interleaved : Chain → Chain → Prop where
  | select {fields others : List SelectField} {calls otherCalls : List Select.Call}
    (h : SameCalls Select.Call.clause (fields.map .field ++ calls)
      (others.map .field ++ otherCalls)) :
    Interleaved (.select fields calls) (.select others otherCalls)
  | insert {calls others : List Insert.Call} (h : SameCalls Insert.Call.clause calls others) :
    Interleaved (.insert calls) (.insert others)
  | update (table : String) {calls others : List Update.Call}
    (h : SameCalls Update.Call.clause calls others) :
    Interleaved (.update table calls) (.update table others)
  | delete {calls others : List Delete.Call} (h : SameCalls Delete.Call.clause calls others) :
    Interleaved (.delete calls) (.delete others)

theorem build_select (fields : List SelectField) (calls : List Select.Call) :
    (select fields calls).build = (Select.all.run (fields.map .field ++ calls)).build := by
  rw [build, Select.ofFields_eq_run, Select.run, Select.run, Select.run, List.foldl_append]

/-- **Calls of different clauses may come in any order.** Two chains with the same calls, clause by
clause, lead to the same statement, or both to errors, of one kind. -/
theorem build_of_interleaved {c d : Chain} (h : c.Interleaved d) :
    (∃ s, c.build = .ok s ∧ d.build = .ok s)
      ∨ ∃ e f, c.build = .error e ∧ d.build = .error f ∧ e.kind = f.kind := by
  have hagree : Agree Eq c.build d.build := by
    have hrefl {x y : Except Error Statement} (h : x = y) : Agree Eq x y :=
      h ▸ .refl (fun _ => rfl) x
    cases h with
    | select h =>
      rw [build_select, build_select]
      exact Select.agree_build_of_sameCalls h
    | insert h => exact hrefl (congrArg Insert.build (Insert.run_of_sameCalls h _))
    | update table h => exact hrefl (congrArg Update.build (Update.run_of_sameCalls h _))
    | delete h => exact hrefl (congrArg Delete.build (Delete.run_of_sameCalls h _))
  generalize c.build = x at hagree ⊢
  generalize d.build = y at hagree ⊢
  cases hagree with
  | ok h => exact .inl ⟨_, rfl, h ▸ rfl⟩
  | error h => exact .inr ⟨_, _, rfl, rfl, h⟩

/-- The newest users, clause by clause. -/
def newest : Chain :=
  .select [.column "name"] [.fromTable "users", .filter .and "age" (.between (.int 18) (.int 99)),
    .orderBy "created", .orderBy "name", .direction .desc, .limit 10]

/-- The same with the clauses mixed up. -/
def newestMixed : Chain :=
  .select [] [.orderBy "created", .limit 10, .orderBy "name", .field (.column "name"),
    .filter .and "age" (.between (.int 18) (.int 99)), .direction .desc, .fromTable "users"]

theorem build_newest :
    newest.Interleaved newestMixed ∧ ∃ s, newest.build = .ok s ∧ newestMixed.build = .ok s := by
  have h : newest.Interleaved newestMixed := .select fun k => by cases k <;> rfl
  refine ⟨h, (build_of_interleaved h).resolve_right ?_⟩
  rintro ⟨e, f, he, -⟩
  cases he

end Chain

end PgStatement
