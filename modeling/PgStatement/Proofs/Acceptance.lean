import PgStatement.Proofs.Building
import PgStatement.Proofs.Identifier

/-!
# What is accepted

Names, fields, operands and amounts are accepted or not, each where it is written, and a clause is
written if everything in it is accepted. What a step of writing `HingesOn` is said here without the
step: of what is written, what it looks like. If that is not so, the error says that an argument is
not acceptable; there is nothing else that can go wrong in a clause.

What a step hinges on follows from the steps it is put together from (`HingesOn.bind`,
`HingesOn.mapM`), so there is one lemma for each function that writes something.
-/

namespace PgStatement

-- powers are those of the core library, whatever else is imported further on
attribute [local instance (high)] instPowNat

/-! ## Steps that hinge on something -/

/-- **What a step hinges on**: it succeeds exactly if this holds. If it does not, an argument is not
acceptable. -/
structure HingesOn {α : Type} (x : Except Error α) (p : Prop) : Prop where
  /-- The step succeeds exactly if this holds. -/
  ok_iff : (∃ a, x = .ok a) ↔ p
  /-- All that can be wrong is an argument. -/
  kind {e : Error} (h : x = .error e) : e.kind = .invalidArgument

namespace HingesOn

variable {α β : Type} {p q : Prop}

theorem of_ok {a : α} (h : p) : HingesOn (.ok a) p := ⟨iff_of_true ⟨a, rfl⟩ h, nofun⟩

theorem of_error {e : Error} (h : ¬p) (hkind : e.kind = .invalidArgument) :
    HingesOn (.error e : Except Error α) p := by
  refine ⟨iff_of_false nofun h, fun he => ?_⟩
  rwa [← Except.error.inj he]

theorem congr {x : Except Error α} (h : HingesOn x p) (hpq : p ↔ q) : HingesOn x q :=
  ⟨h.ok_iff.trans hpq, h.kind⟩

/-- **One step after the other** hinges on both. -/
theorem bind {x : Except Error α} {f : α → Except Error β} (h : HingesOn x p)
    (hf : ∀ a, HingesOn (f a) q) : HingesOn (x >>= f) (p ∧ q) := by
  cases x with
  | error e =>
    have hp : ¬p := fun hp => nomatch h.ok_iff.mpr hp
    exact of_error (fun hpq => hp hpq.1) (h.kind rfl)
  | ok a =>
    have hp : p := h.ok_iff.mp ⟨a, rfl⟩
    exact (hf a).congr (and_iff_right hp).symm

/-- What is done with the result makes no difference. -/
theorem map {x : Except Error α} (f : α → β) (h : HingesOn x p) : HingesOn (f <$> x) p := by
  cases x with
  | error e => exact of_error (fun hp => nomatch h.ok_iff.mpr hp) (h.kind rfl)
  | ok a => exact of_ok (h.ok_iff.mp ⟨a, rfl⟩)

/-- **A step for each item** hinges on all of them. -/
theorem mapM {f : α → Except Error β} {P : α → Prop} (h : ∀ a, HingesOn (f a) (P a)) (as : List α) :
    HingesOn (as.mapM f) (∀ a ∈ as, P a) := by
  induction as with
  | nil => exact of_ok (List.forall_mem_nil _)
  | cons a as ih =>
    rw [List.mapM_cons]
    exact ((h a).bind fun b => ih.map (b :: ·)).congr List.forall_mem_cons.symm

/-- **A check of each item** hinges on all of them. -/
theorem forM {f : α → Except Error Unit} {P : α → Prop} (h : ∀ a, HingesOn (f a) (P a))
    (as : List α) :
    HingesOn (as.forM f) (∀ a ∈ as, P a) := by
  induction as with
  | nil => exact of_ok (List.forall_mem_nil _)
  | cons a as ih =>
    show HingesOn (f a >>= fun _ => as.forM f) _
    exact ((h a).bind fun _ => ih).congr List.forall_mem_cons.symm

/-- A clause without parts is written. -/
theorem result_nil : HingesOn (Rendering.ofParts []).result True := of_ok trivial

/-- **A clause** hinges on its first part and the others. -/
theorem result_cons {part : Except Error Fragment} {rest : List (Except Error Fragment)}
    (h : HingesOn part p) (hrest : HingesOn (Rendering.ofParts rest).result q) :
    HingesOn (Rendering.ofParts (part :: rest)).result (p ∧ q) := by
  rw [Rendering.result_ofParts_cons]
  exact h.bind fun f => hrest.map (f :: ·)

end HingesOn

/-! ## Names and fields -/

theorem hingesOn_checkField (role text : String) :
    HingesOn (checkField role text) (Text.isBlankText text = false) := by
  unfold checkField
  split
  · rename_i hblank
    exact .of_error (ne_false_of_eq_true hblank) rfl
  · rename_i hblank
    exact .of_ok (Bool.of_not_eq_true hblank)

theorem hingesOn_check (role name : String) :
    HingesOn (Identifier.check role name) (IsIdentifier name) := by
  have hiff : Identifier.check role name = .ok () ↔ IsIdentifier name := Identifier.check_eq_ok_iff
  refine ⟨?_, Identifier.kind_of_check⟩
  rw [← hiff]
  exact ⟨fun ⟨(), h⟩ => h, fun h => ⟨(), h⟩⟩

namespace SelectField

/-- **Valid fields**: expressions that are not blank, and aggregates that have a column, unless they
count, and no blank alias. -/
def IsValid : SelectField → Prop
  | .column expression => Text.isBlankText expression = false
  | .aggregate a => (a.function = .count ∨ Text.isBlankText a.column = false)
      ∧ ∀ label ∈ a.label?, Text.isBlankText label = false

/-- **What is wrong with a field**, as it is reported. Of an aggregate the column is looked at
first. -/
inductive Complaint : SelectField → String → Prop where
  /-- The expression is blank. -/
  | blank {expression : String} (h : Text.isBlankText expression = true) :
    Complaint (.column expression) "SELECT field cannot be empty"
  /-- The function needs a column. -/
  | noColumn {a : Aggregate} (hfunction : a.function ≠ .count)
    (hcolumn : Text.isBlankText a.column = true) :
    Complaint (.aggregate a) (a.function.sql ++ " requires a column")
  /-- The alias is blank. -/
  | blankAlias {a : Aggregate} (hcolumn : a.function = .count ∨ Text.isBlankText a.column = false)
    {label : String} (hlabel : a.label? = some label) (hblank : Text.isBlankText label = true) :
    Complaint (.aggregate a) "Aggregate alias cannot be empty"

theorem Complaint.not_isValid {f : SelectField} {message : String} (h : f.Complaint message) :
    ¬f.IsValid := by
  cases h with
  | blank h => exact ne_false_of_eq_true h
  | noColumn hfunction hcolumn =>
    rintro ⟨hcount | hnamed, -⟩
    · exact hfunction hcount
    · exact ne_false_of_eq_true hcolumn hnamed
  | blankAlias _ hlabel hblank => exact fun hvalid => ne_false_of_eq_true hblank (hvalid.2 _ hlabel)

theorem Complaint.unique {f : SelectField} {message other : String} (h : f.Complaint message)
    (h' : f.Complaint other) : message = other := by
  cases h with
  | blank => cases h'; rfl
  | noColumn hfunction hcolumn =>
    cases h' with
    | noColumn => rfl
    | blankAlias hcolumn' =>
        exact absurd (hcolumn'.resolve_left hfunction) (ne_false_of_eq_true hcolumn)
  | blankAlias hcolumn =>
    cases h' with
    | noColumn hfunction hcolumn' =>
      exact absurd (hcolumn.resolve_left hfunction) (ne_false_of_eq_true hcolumn')
    | blankAlias => rfl

/-- The check of a field lets it in and it is valid, or it says what is wrong. -/
theorem check_cases (f : SelectField) : (f.check = .ok () ∧ f.IsValid)
    ∨ ∃ message, f.check = .error (.invalidArgument message) ∧ f.Complaint message := by
  cases f with
  | column expression =>
    simp only [check, checkField]
    split
    · exact .inr ⟨_, rfl, .blank ‹_›⟩
    · exact .inl ⟨rfl, Bool.of_not_eq_true ‹_›⟩
  | aggregate a =>
    simp only [check, Aggregate.check]
    split
    · rename_i h
      rw [Bool.and_eq_true, bne_iff_ne] at h
      exact .inr ⟨_, rfl, .noColumn h.2 h.1⟩
    · rename_i h
      have hcolumn : a.function = .count ∨ Text.isBlankText a.column = false := by
        rw [Bool.and_eq_true, bne_iff_ne, not_and_or, not_ne_iff] at h
        exact h.symm.imp_right Bool.of_not_eq_true
      unfold Aggregate.hasBlankAlias
      cases hlabel : a.label? with
      | none => exact .inl ⟨rfl, hcolumn, fun label h => nomatch hlabel.symm.trans h⟩
      | some label =>
        cases hblank : Text.isBlankText label with
        | true =>
          refine .inr ⟨_, ?_, .blankAlias hcolumn hlabel hblank⟩
          rw [Option.any_some, hblank]
          rfl
        | false =>
          refine .inl ⟨?_, hcolumn, fun other h => ?_⟩
          · rw [Option.any_some, hblank]
            rfl
          · obtain rfl := Option.some.inj (hlabel.symm.trans h)
            exact hblank

/-- **Exactly what is wrong with a field is reported.** -/
theorem check_eq_error_iff {f : SelectField} {e : Error} :
    f.check = .error e ↔ ∃ message, e = .invalidArgument message ∧ f.Complaint message := by
  rcases f.check_cases with ⟨hcheck, hvalid⟩ | ⟨message, hcheck, hcomplaint⟩
  · rw [hcheck]
    exact iff_of_false nofun fun ⟨_, _, h⟩ => h.not_isValid hvalid
  · rw [hcheck, Except.error.injEq]
    constructor
    · rintro rfl
      exact ⟨message, rfl, hcomplaint⟩
    · rintro ⟨other, rfl, h⟩
      rw [hcomplaint.unique h]

/-- Nothing is wrong with a valid field, and something with any other. -/
theorem isValid_iff {f : SelectField} : f.IsValid ↔ ∀ message, ¬f.Complaint message := by
  refine ⟨fun h _ hcomplaint => hcomplaint.not_isValid h, fun h => ?_⟩
  rcases f.check_cases with ⟨-, hvalid⟩ | ⟨message, -, hcomplaint⟩
  · exact hvalid
  · exact absurd hcomplaint (h message)

end SelectField

/-! ## Conditions -/

/-- **Operands that fit** what an operator needs. Nulls fit neither as bounds nor in a list. -/
inductive OperandShape.Fits : OperandShape → Operand → Prop where
  /-- What is not needed is not looked at. -/
  | nothing (operand : Operand) : Fits .nothing operand
  | single (v : Value) : Fits .single (.single v)
  | pair {low high : Value} (hlow : low ≠ .null) (hhigh : high ≠ .null) :
    Fits .pair (.pair low high)
  | list {values : List Value} (h : Value.null ∉ values) : Fits .list (.list values)

namespace Condition

/-- **Conditions that can be written.** -/
structure IsRenderable (c : Condition) : Prop where
  /-- The field is not blank. -/
  named : Text.isBlankText c.field = false
  /-- The operand fits the operator. -/
  fits : c.operator.shape.Fits c.operand

theorem exists_fragment_iff (c : Condition) : (∃ f, c.fragment = .ok f) ↔ c.IsRenderable := by
  obtain ⟨field, operator, operand, connector⟩ := c
  unfold fragment
  simp only
  split
  · rename_i hblank
    exact iff_of_false nofun fun h => ne_false_of_eq_true hblank h.named
  · rename_i hblank
    have hnamed : Text.isBlankText field = false := Bool.of_not_eq_true hblank
    have hiff : IsRenderable ⟨field, operator, operand, connector⟩ ↔ operator.shape.Fits operand :=
      ⟨IsRenderable.fits, fun h => ⟨hnamed, h⟩⟩
    rw [hiff]
    generalize operator.shape = shape
    cases shape with
    | nothing => exact iff_of_true ⟨_, rfl⟩ (.nothing operand)
    | single =>
      cases operand with
      | single v => exact iff_of_true ⟨_, rfl⟩ (.single v)
      | _ => exact iff_of_false nofun nofun
    | pair =>
      cases operand with
      | pair low high =>
        simp only
        split
        · rename_i hnull
          rw [Bool.or_eq_true, Value.isNull_iff, Value.isNull_iff] at hnull
          refine iff_of_false nofun fun h => ?_
          cases h with
          | pair hlow hhigh => exact hnull.elim hlow hhigh
        · rename_i hnull
          rw [Bool.or_eq_true, Value.isNull_iff, Value.isNull_iff, not_or] at hnull
          exact iff_of_true ⟨_, rfl⟩ (.pair hnull.1 hnull.2)
      | _ => exact iff_of_false nofun nofun
    | list =>
      cases operand with
      | list values =>
        have hnull : values.any Value.isNull = true ↔ Value.null ∈ values := by
          simp [Value.isNull_iff]
        cases values with
        | nil => exact iff_of_true ⟨_, rfl⟩ (.list List.not_mem_nil)
        | cons v values =>
          simp only
          split
          · refine iff_of_false nofun fun h => ?_
            cases h with
            | list hmem => exact hmem (hnull.mp ‹_›)
          · exact iff_of_true ⟨_, rfl⟩ (.list fun hmem => absurd (hnull.mpr hmem) ‹_›)
      | _ => exact iff_of_false nofun nofun

theorem hingesOn_part (c : Condition) : HingesOn c.part c.IsRenderable := by
  rw [← exists_fragment_iff]
  unfold part
  cases c.fragment with
  | ok f => exact .of_ok ⟨f, rfl⟩
  | error fault => exact .of_error nofun rfl

end Condition

namespace Where

theorem hingesOn_furtherParts (conditions : List Condition) :
    HingesOn (Rendering.ofParts (furtherParts conditions)).result
      (∀ c ∈ conditions, c.IsRenderable) := by
  induction conditions with
  | nil => exact HingesOn.result_nil.congr (iff_of_true trivial (List.forall_mem_nil _))
  | cons c rest ih =>
    exact (HingesOn.result_cons (c.hingesOn_part.map _) ih).congr List.forall_mem_cons.symm

/-- **A clause** hinges on its conditions. -/
theorem hingesOn_clause? (conditions : List Condition) :
    HingesOn (clause? conditions) (∀ c ∈ conditions, c.IsRenderable) := by
  cases conditions with
  | nil => exact .of_ok (List.forall_mem_nil _)
  | cons first rest =>
    refine HingesOn.map _ ?_
    exact (HingesOn.result_cons (first.hingesOn_part.map _) (hingesOn_furtherParts rest)).congr
      List.forall_mem_cons.symm

end Where

/-! ## Groups, orderings and amounts -/

theorem Select.hingesOn_groupClause (q : Select) :
    HingesOn q.groupClause (∀ column ∈ q.groups, Text.isBlankText column = false) := by
  unfold groupClause
  split
  · rename_i hempty
    rw [List.isEmpty_iff.mp hempty]
    exact .of_ok (List.forall_mem_nil _)
  · exact (HingesOn.forM (hingesOn_checkField "GROUP BY column") q.groups).map
      fun _ => some ("GROUP BY " ++ ", ".intercalate q.groups)

theorem OrderBy.hingesOn_clause? (o : OrderBy) :
    HingesOn o.clause? (∀ field ∈ o.items.map Prod.fst, Text.isBlankText field = false) := by
  unfold clause?
  split
  · rename_i hempty
    rw [List.isEmpty_iff.mp hempty]
    exact .of_ok (List.forall_mem_nil _)
  · have hitem (item : String × Direction) :
        HingesOn (itemSql item) (Text.isBlankText item.1 = false) :=
      (hingesOn_checkField "ORDER BY field" item.1).map fun _ => item.1 ++ " " ++ item.2.sql
    refine ((HingesOn.mapM hitem o.items).map fun items =>
      some ("ORDER BY " ++ ", ".intercalate items)).congr ?_
    exact (List.forall_mem_map (P := fun field => Text.isBlankText field = false)).symm

namespace Pagination

theorem hingesOn_amountPart (keyword : String) (amount : UInt64) :
    HingesOn (amountPart keyword amount) (amount.toNat < 2 ^ (63 : Nat)) := by
  have hsigned : HingesOn (signed keyword amount) (amount.toNat < 2 ^ (63 : Nat)) := by
    unfold signed
    split
    · exact .of_ok ‹_›
    · exact .of_error ‹_› rfl
  exact hsigned.map _

/-- Amounts that fit a signed integer. -/
def IsInRange (amount? : Option UInt64) : Prop := ∀ amount ∈ amount?, amount.toNat < 2 ^ (63 : Nat)

theorem hingesOn_fragments (p : Pagination) :
    HingesOn p.fragments.result (IsInRange p.limit ∧ IsInRange p.offset) := by
  obtain ⟨limit, offset⟩ := p
  have hoffset : HingesOn (Rendering.ofParts (offset.map (amountPart "OFFSET")).toList).result
      (IsInRange offset) := by
    cases offset with
    | none => exact HingesOn.result_nil.congr (iff_of_true trivial nofun)
    | some amount =>
      refine (HingesOn.result_cons
        (hingesOn_amountPart "OFFSET" amount) HingesOn.result_nil).congr ?_
      simp [IsInRange]
  cases limit with
  | none => exact hoffset.congr (iff_and_self.mpr fun _ => nofun)
  | some amount =>
    refine (HingesOn.result_cons (hingesOn_amountPart "LIMIT" amount) hoffset).congr ?_
    simp [IsInRange]

end Pagination

/-- **The clauses of a selection** hinge on all that is in them. -/
theorem Select.hingesOn_clauses (q : Select) :
    HingesOn q.clauses ((∀ c ∈ q.conditions, c.IsRenderable)
      ∧ (∀ column ∈ q.groups, Text.isBlankText column = false)
      ∧ (∀ field ∈ q.ordering.items.map Prod.fst, Text.isBlankText field = false)
      ∧ Pagination.IsInRange q.pagination.limit ∧ Pagination.IsInRange q.pagination.offset) :=
  (Where.hingesOn_clause? q.conditions).bind fun _ => q.hingesOn_groupClause.bind fun _ =>
    q.ordering.hingesOn_clause?.bind fun _ => q.pagination.hingesOn_fragments.map _

end PgStatement
