import PgStatement.Proofs.ColumnCalls
import PgStatement.Proofs.TableNames

/-!
# The operations that calls record

An alteration leads from the table to a new column and back, or to changes of a column and back, and
the operations recorded so far are handed from one to the other. A chain of calls falls into
sections (`AlterTable.Section`): a single call on the table, a new column with all that is said of
it, or changes of a column in a row. Every chain does (`AlterTable.Chain.exists_sections`), if what
is being defined at its end is taken for finished.

What is recorded can then be said section by section, without following the chain: one operation for
each call on the table, one for a new column, and one for each change of a column. Nothing is lost
on the way, and nothing is recorded twice (`AlterTable.Chain.table_eq_ok_iff`).
-/

namespace PgStatement

namespace AlterTable

/-! ## Sections -/

/-- The operation of a call on the table. -/
def Call.operation : Call .table .table → AlterOperation
  | .acceptColumn c => .addColumn c
  | .dropColumn name cascade => .dropColumn name cascade
  | .renameColumn name newName => .renameColumn name newName
  | .renameTable newName => .renameTable newName
  | .addConstraint name kind definition => .addConstraint name kind definition
  | .dropConstraint name cascade => .dropConstraint name cascade

/-- **A section of a chain of calls**, which begins and ends at the table. -/
inductive Section where
  /-- A call on the table. -/
  | direct (call : Call .table .table)
  /-- A new column, and what is said of it. -/
  | newColumn (name : String) (calls : List ColumnCall)
  /-- Changes of a column in a row. -/
  | changes (column : String) (changes : List Change)

namespace Section

/-- **The operations of a section.** -/
def operations : Section → List AlterOperation
  | .direct call => [call.operation]
  | .newColumn name calls => [.addColumn (.defined name calls)]
  | .changes column cs => cs.map (Change.operation column)

/-- A new column needs an identifier for its name, and a type. -/
def IsAccepted : Section → Prop
  | .newColumn name calls => IsIdentifier name ∧ calls.filterMap ColumnCall.sqlType? ≠ []
  | _ => True

end Section

namespace Chain

/-- A chain, and then what is said of a new column. -/
def defining (calls : Chain .table .column) (more : List ColumnCall) : Chain .table .column :=
  more.foldl (fun calls call => calls.snoc (.define call)) calls

/-- A chain, and then changes of a column. -/
def changing (calls : Chain .table .change) (more : List Change) : Chain .table .change :=
  more.foldl (fun calls c => calls.snoc (.change c)) calls

/-- A chain, and then a section. -/
def append (calls : Chain .table .table) : Section → Chain .table .table
  | .direct call => calls.snoc call
  | .newColumn name more => ((calls.snoc (.addColumn name)).defining more).snoc .columnDone
  | .changes column more => ((calls.snoc (.modifyColumn column)).changing more).snoc .changeDone

/-- **The chain of sections.** -/
def ofSections (sections : List Section) : Chain .table .table := sections.foldl append .nil

/-- A chain with a call that finishes what is being defined at its end. -/
def closed : {phase : Phase} → Chain .table phase → Chain .table .table
  | .table, calls => calls
  | .column, calls => calls.snoc .columnDone
  | .change, calls => calls.snoc .changeDone

theorem defining_concat (calls : Chain .table .column) (more : List ColumnCall)
    (call : ColumnCall) :
    calls.defining (more ++ [call]) = (calls.defining more).snoc (.define call) :=
  List.foldl_concat _ _ _ _

theorem changing_concat (calls : Chain .table .change) (more : List Change) (c : Change) :
    calls.changing (more ++ [c]) = (calls.changing more).snoc (.change c) :=
  List.foldl_concat _ _ _ _

theorem ofSections_concat (sections : List Section) (part : Section) :
    ofSections (sections ++ [part]) = (ofSections sections).append part :=
  List.foldl_concat _ _ _ _

/-- A chain is made of sections, and of the beginning of one if it does not end at the table. -/
def IsSectioned : (phase : Phase) → Chain .table phase → Prop
  | .table, calls => ∃ sections, calls = ofSections sections
  | .column, calls => ∃ sections name more,
    calls = ((ofSections sections).snoc (.addColumn name)).defining more
  | .change, calls => ∃ sections column more,
    calls = ((ofSections sections).snoc (.modifyColumn column)).changing more

theorem isSectioned : {phase : Phase} → (calls : Chain .table phase) → IsSectioned phase calls
  | _, .nil => ⟨[], rfl⟩
  | _, .snoc calls call => by
    -- the last call begins a section, goes on with one, or finishes one
    have hcalls := isSectioned calls
    cases call with
    | addColumn name =>
      obtain ⟨sections, rfl⟩ := hcalls
      exact ⟨sections, name, [], rfl⟩
    | modifyColumn name =>
      obtain ⟨sections, rfl⟩ := hcalls
      exact ⟨sections, name, [], rfl⟩
    | define call =>
      obtain ⟨sections, name, more, rfl⟩ := hcalls
      exact ⟨sections, name, more ++ [call], (defining_concat _ _ _).symm⟩
    | change c =>
      obtain ⟨sections, column, more, rfl⟩ := hcalls
      exact ⟨sections, column, more ++ [c], (changing_concat _ _ _).symm⟩
    | columnDone =>
      obtain ⟨sections, name, more, rfl⟩ := hcalls
      exact ⟨_, (ofSections_concat sections (.newColumn name more)).symm⟩
    | changeDone =>
      obtain ⟨sections, column, more, rfl⟩ := hcalls
      exact ⟨_, (ofSections_concat sections (.changes column more)).symm⟩
    | acceptColumn | dropColumn | renameColumn | renameTable | addConstraint | dropConstraint =>
      obtain ⟨sections, rfl⟩ := hcalls
      exact ⟨_, (ofSections_concat sections (.direct _)).symm⟩

/-- **Every chain is made of sections**, once what is being defined is finished. -/
theorem exists_sections {phase : Phase} (calls : Chain .table phase) :
    ∃ sections, calls.closed = ofSections sections := by
  cases phase with
  | table => exact isSectioned calls
  | column => exact isSectioned (calls.snoc .columnDone)
  | change => exact isSectioned (calls.snoc .changeDone)

/-! ## What is recorded -/

theorem run_defining_eq_ok_iff {calls : Chain .table .column} {more : List ColumnCall}
    {t : AlterTable} {p : PendingColumn AlterTable} :
    (calls.defining more).run t = .ok p
      ↔ ∃ q : PendingColumn AlterTable, calls.run t = .ok q
        ∧ p = ⟨q.owner, more.foldl ColumnDefinition.apply q.column⟩ := by
  induction more using List.reverseRecOn generalizing p with
  | nil => exact ⟨fun h => ⟨p, h, rfl⟩, by rintro ⟨q, h, rfl⟩; exact h⟩
  | append_singleton more call ih =>
    rw [defining_concat, run, bind_eq_ok_iff]
    simp only [ih, List.foldl_concat]
    constructor
    · rintro ⟨_, ⟨q, hq, rfl⟩, h⟩
      exact ⟨q, hq, (Except.ok.inj h).symm⟩
    · rintro ⟨q, hq, rfl⟩
      exact ⟨_, ⟨q, hq, rfl⟩, rfl⟩

theorem run_changing_eq_ok_iff {calls : Chain .table .change} {more : List Change}
    {t : AlterTable} {m : ColumnModification} :
    (calls.changing more).run t = .ok m
      ↔ ∃ n : ColumnModification, calls.run t = .ok n
        ∧ m = ⟨⟨n.table.name, n.table.operations ++ more.map (Change.operation n.column)⟩,
          n.column⟩ := by
  induction more using List.reverseRecOn generalizing m with
  | nil =>
    simp only [List.map_nil, List.append_nil]
    exact ⟨fun h => ⟨m, h, rfl⟩, by rintro ⟨n, h, rfl⟩; exact h⟩
  | append_singleton more c ih =>
    rw [changing_concat, run, bind_eq_ok_iff]
    simp only [ih, List.map_append, ← List.append_assoc]
    constructor
    · rintro ⟨_, ⟨n, hn, rfl⟩, h⟩
      exact ⟨n, hn, (Except.ok.inj h).symm⟩
    · rintro ⟨n, hn, rfl⟩
      exact ⟨_, ⟨n, hn, rfl⟩, rfl⟩

/-- **A section adds its operations**, if it is accepted. -/
theorem run_append_eq_ok_iff {calls : Chain .table .table} {part : Section}
    {t u : AlterTable} :
    (calls.append part).run t = .ok u
      ↔ ∃ v : AlterTable, calls.run t = .ok v ∧ part.IsAccepted
        ∧ u = ⟨v.name, v.operations ++ part.operations⟩ := by
  cases part with
  | direct call =>
    have happly (v : AlterTable) : call.apply v = .ok (v.record call.operation) := by
      cases call <;> rfl
    rw [append, run, bind_eq_ok_iff]
    constructor
    · rintro ⟨v, hv, h⟩
      rw [happly] at h
      exact ⟨v, hv, trivial, (Except.ok.inj h).symm⟩
    · rintro ⟨v, hv, -, rfl⟩
      exact ⟨v, hv, happly v⟩
  | newColumn name more =>
    rw [append, run, bind_eq_ok_iff]
    constructor
    · rintro ⟨p, hp, h⟩
      obtain ⟨q, hq, rfl⟩ := run_defining_eq_ok_iff.mp hp
      rw [run, bind_eq_ok_iff] at hq
      obtain ⟨v, hv, hadd⟩ := hq
      obtain ⟨_, hname, hadd⟩ := bind_eq_ok_iff.mp hadd
      obtain rfl := Except.ok.inj hadd
      obtain ⟨⟨owner, column⟩, hfinish, h⟩ := bind_eq_ok_iff.mp h
      obtain ⟨htype, rfl, rfl⟩ := PendingColumn.finish_eq_ok_iff.mp hfinish
      obtain rfl := Except.ok.inj h
      rw [ColumnDefinition.foldl_apply] at htype ⊢
      refine ⟨owner, hv, ⟨Identifier.check_eq_ok_iff.mp hname, ?_⟩, rfl⟩
      exact ColumnDefinition.isSome_sqlType_defined.mp htype
    · rintro ⟨v, hv, ⟨hname, htype⟩, rfl⟩
      have hadd : (calls.snoc (.addColumn name)).run t = .ok ⟨v, .named name⟩ := by
        have hcheck : Identifier.check "column" name = .ok () :=
          Identifier.check_eq_ok_iff.mpr hname
        rw [run, hv]
        show (Identifier.check "column" name >>= fun _ => _) = _
        rw [hcheck]
        rfl
      refine ⟨_, run_defining_eq_ok_iff.mpr ⟨_, hadd, rfl⟩, ?_⟩
      rw [ColumnDefinition.foldl_apply]
      refine bind_eq_ok_iff.mpr ⟨_, PendingColumn.finish_eq_ok_iff.mpr ⟨?_, rfl, rfl⟩, rfl⟩
      exact ColumnDefinition.isSome_sqlType_defined.mpr htype
  | changes column more =>
    rw [append, run, bind_eq_ok_iff]
    constructor
    · rintro ⟨m, hm, h⟩
      obtain ⟨n, hn, rfl⟩ := run_changing_eq_ok_iff.mp hm
      rw [run, bind_eq_ok_iff] at hn
      obtain ⟨v, hv, hmodify⟩ := hn
      obtain rfl := Except.ok.inj hmodify
      exact ⟨v, hv, trivial, (Except.ok.inj h).symm⟩
    · rintro ⟨v, hv, -, rfl⟩
      have hmodify : (calls.snoc (.modifyColumn column)).run t = .ok ⟨v, column⟩ := by
        rw [run, hv]
        rfl
      exact ⟨_, run_changing_eq_ok_iff.mpr ⟨_, hmodify, rfl⟩, rfl⟩

/-- **The operations of sections are recorded** in order, and nothing else. -/
theorem run_ofSections_eq_ok_iff {name : String} {sections : List Section} {t : AlterTable} :
    (ofSections sections).run (named name) = .ok t
      ↔ (∀ part ∈ sections, part.IsAccepted)
        ∧ t = ⟨name, sections.flatMap Section.operations⟩ := by
  induction sections using List.reverseRecOn generalizing t with
  | nil =>
    rw [ofSections, List.foldl_nil, run, Except.ok.injEq]
    exact ⟨fun h => ⟨fun _ hmem => absurd hmem List.not_mem_nil, h.symm⟩, fun h => h.2.symm⟩
  | append_singleton sections part ih =>
    rw [ofSections_concat, run_append_eq_ok_iff]
    simp only [ih, List.forall_mem_append, List.forall_mem_singleton, List.flatMap_append,
      List.flatMap_singleton]
    constructor
    · rintro ⟨_, ⟨haccepted, rfl⟩, hlast, rfl⟩
      exact ⟨⟨haccepted, hlast⟩, rfl⟩
    · rintro ⟨⟨haccepted, hlast⟩, rfl⟩
      exact ⟨_, ⟨haccepted, rfl⟩, hlast, rfl⟩

/-- What is being defined at the end of a chain is finished with it. -/
theorem run_closed (name : String) {phase : Phase} (calls : Chain .table phase) :
    calls.closed.run (named name) = calls.table name := by
  cases phase with
  | table => exact (bind_pure _).symm
  | column => rw [closed, run, table]; rfl
  | change => rw [closed, run, table]; rfl

/-- **What a chain of calls records**: the operations of its sections. -/
theorem table_eq_ok_iff {name : String} {phase : Phase} {calls : Chain .table phase}
    {sections : List Section} (h : calls.closed = ofSections sections) {t : AlterTable} :
    calls.table name = .ok t
      ↔ (∀ part ∈ sections, part.IsAccepted)
        ∧ t = ⟨name, sections.flatMap Section.operations⟩ := by
  rw [← run_closed, h, run_ofSections_eq_ok_iff]

end Chain

end AlterTable

end PgStatement
