import Mathlib.Data.List.Forall2
import PgStatement.Error

/-!
# Steps that may fail

Statements, clauses and values are written step by step, and every step may fail. Two questions come
up again and again. When did all steps succeed, and what did each of them give? That is answered by
taking a chain of steps apart (`bind_eq_ok_iff`, `mapM_eq_ok_iff`). And when do two chains go the
same way although they are about different values? That is what `Agree` says: both succeed, with
results that are related, or both fail with errors of one kind. The relation is kept by every way in
which steps are put together, so that it has to be shown of the single steps only.
-/

namespace PgStatement

section Steps

variable {ε α β : Type}

/-- Two steps succeed if the first one does and the second one does with its result. -/
theorem bind_eq_ok_iff {x : Except ε α} {f : α → Except ε β} {b : β} :
    (x >>= f) = .ok b ↔ ∃ a, x = .ok a ∧ f a = .ok b := by
  cases x with
  | error e =>
    show Except.error e = .ok b ↔ _
    simp
  | ok a =>
    show f a = .ok b ↔ _
    simp

/-- A step succeeds if it does before its result is changed. -/
theorem exists_bind_ok_iff {x : Except ε α} {f : α → β} :
    (∃ b, (x >>= fun a => .ok (f a)) = .ok b) ↔ ∃ a, x = .ok a := by
  constructor
  · rintro ⟨b, h⟩
    obtain ⟨a, ha, -⟩ := bind_eq_ok_iff.mp h
    exact ⟨a, ha⟩
  · rintro ⟨a, ha⟩
    exact ⟨f a, bind_eq_ok_iff.mpr ⟨a, ha, rfl⟩⟩

/-- Two steps fail if the first one does, or the second one does with its result. -/
theorem bind_eq_error_iff {x : Except ε α} {f : α → Except ε β} {e : ε} :
    (x >>= f) = .error e ↔ x = .error e ∨ ∃ a, x = .ok a ∧ f a = .error e := by
  cases x with
  | error e' =>
    show Except.error e' = .error e ↔ _
    simp
  | ok a =>
    show f a = .error e ↔ _
    simp

/-- What does not succeed fails. -/
theorem exists_eq_error_iff {x : Except ε α} : (∃ e, x = .error e) ↔ ¬∃ a, x = .ok a := by
  cases x with
  | error e => exact iff_of_true ⟨e, rfl⟩ nofun
  | ok a => exact iff_of_false nofun (not_not.mpr ⟨a, rfl⟩)

/-- A result that is changed was there before. -/
theorem map_eq_ok_iff {x : Except ε α} {f : α → β} {b : β} :
    (f <$> x) = .ok b ↔ ∃ a, x = .ok a ∧ f a = b := by
  cases x with
  | error e =>
    show Except.error e = .ok b ↔ _
    simp
  | ok a =>
    show Except.ok (f a) = .ok b ↔ _
    simp

/-- What failed before fails with the same error. -/
theorem map_eq_error_iff {x : Except ε α} {f : α → β} {e : ε} :
    (f <$> x) = .error e ↔ x = .error e := by
  cases x with
  | error e' =>
    show Except.error e' = .error e ↔ _
    simp
  | ok a =>
    show Except.ok (f a) = .error e ↔ _
    simp

/-- A result that hinges on a condition is there if the condition holds. -/
theorem exists_map_ite_iff {p : Prop} [Decidable p] {a : α} {e : ε} {f : α → β} :
    (∃ b, f <$> (if p then .ok a else .error e : Except ε α) = .ok b) ↔ p := by
  by_cases h : p
  · rw [if_pos h]
    exact iff_of_true ⟨f a, rfl⟩ h
  · rw [if_neg h]
    exact iff_of_false nofun h

/-- **A step for each item** succeeds if all of them do. -/
theorem mapM_eq_ok_iff {f : α → Except ε β} {as : List α} {bs : List β} :
    as.mapM f = .ok bs ↔ List.Forall₂ (fun a b => f a = .ok b) as bs := by
  induction as generalizing bs with
  | nil =>
    rw [List.mapM_nil, List.forall₂_nil_left_iff]
    show Except.ok [] = .ok bs ↔ bs = []
    rw [Except.ok.injEq, eq_comm]
  | cons a as ih =>
    rw [List.mapM_cons, List.forall₂_cons_left_iff, bind_eq_ok_iff]
    constructor
    · rintro ⟨b, hb, h⟩
      obtain ⟨bs', hbs, h⟩ := bind_eq_ok_iff.mp h
      exact ⟨b, bs', hb, ih.mp hbs, (Except.ok.inj h).symm⟩
    · rintro ⟨b, bs', hb, hbs, rfl⟩
      exact ⟨b, hb, bind_eq_ok_iff.mpr ⟨bs', ih.mpr hbs, rfl⟩⟩

/-- **A step for each item** fails if the step for one of them does, after others that succeed. -/
theorem mapM_eq_error_iff {f : α → Except ε β} {as : List α} {e : ε} :
    as.mapM f = .error e
      ↔ ∃ front a rest bs, as = front ++ a :: rest ∧ front.mapM f = .ok bs ∧ f a = .error e := by
  induction as with
  | nil =>
    refine iff_of_false nofun ?_
    rintro ⟨front, a, rest, bs, h, -⟩
    cases front <;> cases h
  | cons a as ih =>
    rw [List.mapM_cons]
    cases ha : f a with
    | error e' =>
      constructor
      · intro h
        obtain rfl := Except.error.inj h
        exact ⟨[], a, as, [], rfl, rfl, ha⟩
      · rintro ⟨front, a', rest, bs, h, hfront, ha'⟩
        cases front with
        | nil =>
          obtain ⟨rfl, rfl⟩ := List.cons.inj h
          obtain rfl := Except.error.inj (ha.symm.trans ha')
          rfl
        | cons b front =>
          obtain ⟨rfl, rfl⟩ := List.cons.inj h
          rw [List.mapM_cons, ha] at hfront
          cases hfront
    | ok b =>
      show (b :: ·) <$> as.mapM f = .error e ↔ _
      rw [map_eq_error_iff, ih]
      constructor
      · rintro ⟨front, a', rest, bs, rfl, hfront, ha'⟩
        refine ⟨a :: front, a', rest, b :: bs, rfl, ?_, ha'⟩
        rw [List.mapM_cons, ha, hfront]
        rfl
      · rintro ⟨front, a', rest, bs, h, hfront, ha'⟩
        cases front with
        | nil =>
          obtain ⟨rfl, rfl⟩ := List.cons.inj h
          rw [ha] at ha'
          cases ha'
        | cons c front =>
          obtain ⟨rfl, rfl⟩ := List.cons.inj h
          rw [List.mapM_cons, ha] at hfront
          obtain ⟨bs, hbs, -⟩ := map_eq_ok_iff.mp hfront
          exact ⟨front, a', rest, bs, rfl, hbs, ha'⟩

/-- If a step for each item fails, it is the step for one of them that does. -/
theorem exists_of_mapM_eq_error {f : α → Except ε β} {as : List α} {e : ε}
    (h : as.mapM f = .error e) : ∃ a ∈ as, f a = .error e := by
  obtain ⟨front, a, rest, bs, rfl, -, ha⟩ := mapM_eq_error_iff.mp h
  exact ⟨a, List.mem_append_right _ List.mem_cons_self, ha⟩

/-- If there is something for each item, then there is a list of it. -/
theorem exists_forall₂_of_forall {R : α → β → Prop} {as : List α}
    (h : ∀ a ∈ as, ∃ b, R a b) : ∃ bs, List.Forall₂ R as bs := by
  induction as with
  | nil => exact ⟨[], .nil⟩
  | cons a as ih =>
    rw [List.forall_mem_cons] at h
    obtain ⟨⟨b, hb⟩, h⟩ := h
    obtain ⟨bs, hbs⟩ := ih h
    exact ⟨b :: bs, .cons hb hbs⟩

/-- What steps for the items of a list gave comes from one of the items. -/
theorem exists_of_forall₂_right {R : α → β → Prop} {as : List α} {bs : List β}
    (h : List.Forall₂ R as bs) {b : β} (hb : b ∈ bs) : ∃ a ∈ as, R a b := by
  induction h with
  | nil => cases hb
  | cons hab _ ih =>
    rcases List.mem_cons.mp hb with rfl | hb
    · exact ⟨_, List.mem_cons_self, hab⟩
    · obtain ⟨a, ha, h⟩ := ih hb
      exact ⟨a, List.mem_cons_of_mem _ ha, h⟩

/-- What steps for the items of a list gave has something for each of the items. -/
theorem exists_of_forall₂_left {R : α → β → Prop} {as : List α} {bs : List β}
    (h : List.Forall₂ R as bs) {a : α} (ha : a ∈ as) : ∃ b ∈ bs, R a b :=
  exists_of_forall₂_right (List.Forall₂.flip h) ha

/-- **A check of each item** passes if all of them pass. -/
theorem forM_eq_ok_iff {f : α → Except ε Unit} {as : List α} :
    as.forM f = .ok () ↔ ∀ a ∈ as, f a = .ok () := by
  induction as with
  | nil => exact ⟨fun _ a ha => absurd ha List.not_mem_nil, fun _ => rfl⟩
  | cons a as ih =>
    show (f a >>= fun _ => as.forM f) = .ok () ↔ _
    rw [bind_eq_ok_iff, ih, List.forall_mem_cons]
    exact ⟨fun ⟨_, ha, h⟩ => ⟨ha, h⟩, fun ⟨ha, h⟩ => ⟨(), ha, h⟩⟩

/-- The error of a step, if it fails. -/
def errorOf? : Except ε α → Option ε
  | .ok _ => none
  | .error e => some e

theorem errorOf?_eq_some_iff {x : Except ε α} {e : ε} : errorOf? x = some e ↔ x = .error e := by
  cases x <;> simp [errorOf?]

theorem isSome_errorOf? (x : Except ε α) : (errorOf? x).isSome = !x.isOk := by
  cases x <;> rfl

end Steps

/-! ## Two runs -/

/-- **Two runs agree**: both succeed, with related results, or both fail, with errors of one
kind. -/
inductive Agree {α β : Type} (R : α → β → Prop) : Except Error α → Except Error β → Prop where
  /-- Both succeed. -/
  | ok {a : α} {b : β} (h : R a b) : Agree R (.ok a) (.ok b)
  /-- Both fail. -/
  | error {e f : Error} (h : e.kind = f.kind) : Agree R (.error e) (.error f)

namespace Agree

variable {α β γ δ : Type}

/-- A run agrees with itself. -/
theorem refl {R : α → α → Prop} (hR : ∀ a, R a a) (x : Except Error α) : Agree R x x := by
  cases x with
  | ok a => exact .ok (hR a)
  | error e => exact .error rfl

/-- **Runs that agree may be continued** by steps that agree. -/
theorem bind {R : α → β → Prop} {S : γ → δ → Prop} {x : Except Error α} {y : Except Error β}
    {f : α → Except Error γ} {g : β → Except Error δ} (h : Agree R x y)
    (hfg : ∀ a b, R a b → Agree S (f a) (g b)) : Agree S (x >>= f) (y >>= g) := by
  cases h with
  | ok h => exact hfg _ _ h
  | error h => exact .error h

/-- Results that are related may be changed to others that are. -/
theorem map {R : α → β → Prop} {S : γ → δ → Prop} {x : Except Error α} {y : Except Error β}
    {f : α → γ} {g : β → δ} (h : Agree R x y) (hfg : ∀ a b, R a b → S (f a) (g b)) :
    Agree S (f <$> x) (g <$> y) := by
  cases h with
  | ok h => exact .ok (hfg _ _ h)
  | error h => exact .error h

/-- **Steps for the items of two lists** agree if those of items in the same place do. -/
theorem mapM {P : α → β → Prop} {R : γ → δ → Prop} {f : α → Except Error γ}
    {g : β → Except Error δ} (hfg : ∀ a b, P a b → Agree R (f a) (g b)) {as : List α}
    {bs : List β} (h : List.Forall₂ P as bs) :
    Agree (List.Forall₂ R) (as.mapM f) (bs.mapM g) := by
  induction h with
  | nil => exact .ok .nil
  | cons hab _ ih =>
    rw [List.mapM_cons, List.mapM_cons]
    exact (hfg _ _ hab).bind fun _ _ hc => ih.bind fun _ _ hcs => .ok (.cons hc hcs)

end Agree

end PgStatement
