import PgStatement.Proofs.Fragment
import PgStatement.Proofs.Digits
import PgStatement.Proofs.Identifier

/-!
# Placeholders in a text

A statement goes to the server as text, and there its placeholders are found again. That is a
question about the text alone: `Placeholder.numbers` reads it from left to right and takes a dollar
sign for a placeholder if digits follow it and no character of an identifier stands before it. Names
of tables and columns may hold dollar signs too, so that the second condition matters, and so does
what stands *behind* a placeholder: `$1` with a digit behind it is another placeholder.

What is found must be what was bound. The reading depends on the character before, and a fragment is
put together from pieces whose neighbours are not known when they are written; so the invariant is
not about single pieces but about the places between them. A `Place` says what stands before it as
far as placeholders go, and a fragment leads from one place to another (`Place.ReadsFragment`) if no
text in it looks like a placeholder and every value in it stands free. Fragments that meet at a
place may be written one after the other, and from such a fragment exactly the numbers of its values
are read (`Placeholder.scan_text`).
-/

namespace PgStatement

namespace Placeholder

/-- The numbers of the placeholders in a text, as their digits. The flag says whether a character of
an identifier stands before the text. -/
def scan : (inWord : Bool) → List Char → List (List Char)
  | _, [] => []
  | inWord, c :: cs =>
    let digits := cs.takeWhile Text.isDecimalDigit
    let further := scan (Identifier.isFollowing c) cs
    if c = '$' ∧ inWord = false ∧ digits ≠ [] then digits :: further else further

/-- **The placeholders of a statement**, from left to right: the digits of their numbers. -/
def numbers (sql : String) : List (List Char) := scan false sql.toList

end Placeholder

/-- **What stands before a place in a text**, as far as placeholders go. -/
inductive Place where
  /-- Nothing that matters: a placeholder may follow. -/
  | free
  /-- A character of an identifier, so that a dollar sign would belong to it. -/
  | word
  /-- A placeholder, so that a digit would belong to it. -/
  | number
  deriving DecidableEq

namespace Place

/-- Whether a dollar sign at this place would belong to what stands before it. -/
def inWord : Place → Bool
  | .free => false
  | _ => true

/-- The place behind a character. -/
def after (c : Char) : Place := if Identifier.isFollowing c then .word else .free

/-- The place behind a character of text, unless the character could be read as the start of a
placeholder or as part of the one before it. -/
def step? : Place → Char → Option Place
  | .free, c => if c = '$' then none else some (after c)
  | .word, c => some (after c)
  | .number, c => if Text.isDecimalDigit c then none else some (after c)

/-- **Text leads from one place to another**, with nothing in it that is read as a placeholder. -/
def ReadsText (p : Place) (cs : List Char) (q : Place) : Prop := cs.foldlM step? p = some q

/-- The place behind a piece of a fragment. A value must stand free. -/
def piece? (p : Place) : Piece → Option Place
  | .raw text => text.toList.foldlM step? p
  | .value _ => if p = .free then some .number else none

/-- **A fragment leads from one place to another**, with its values as its only placeholders. -/
def ReadsFragment (p : Place) (f : Fragment) (q : Place) : Prop := f.foldlM piece? p = some q

/-- What may be written at a place behind a fragment: behind a placeholder, no digit. -/
def Admits (p : Place) (cs : List Char) : Prop :=
  p = .number → ∀ c ∈ cs.head?, Text.isDecimalDigit c = false

@[simp] theorem inWord_after (c : Char) : (after c).inWord = Identifier.isFollowing c := by
  unfold after
  cases Identifier.isFollowing c <;> rfl

theorem after_ne_number (c : Char) : after c ≠ .number := by
  unfold after
  split <;> exact fun h => by cases h

/-- A character that no identifier has leaves the place free. -/
theorem after_of_not_following {c : Char} (h : Identifier.isFollowing c = false) :
    after c = .free := by
  rw [after, h]
  rfl

/-- A character of text is behind its place, whatever the place was. -/
theorem eq_after_of_step? {p q : Place} {c : Char} (h : p.step? c = some q) : q = after c := by
  cases p with
  | free =>
    rw [step?, Option.ite_none_left_eq_some] at h
    exact (Option.some.inj h.2).symm
  | word => exact (Option.some.inj h).symm
  | number =>
    rw [step?, Option.ite_none_left_eq_some] at h
    exact (Option.some.inj h.2).symm

/-! ## Text -/

theorem readsText_nil (p : Place) : p.ReadsText [] p := rfl

theorem readsText_cons_iff {p r : Place} {c : Char} {cs : List Char} :
    p.ReadsText (c :: cs) r ↔ ∃ q, p.step? c = some q ∧ q.ReadsText cs r := by
  unfold ReadsText
  rw [List.foldlM_cons]
  exact Option.bind_eq_some_iff

/-- Texts that meet at a place may be written one after the other. -/
theorem ReadsText.append {p q r : Place} {a b : List Char} (ha : p.ReadsText a q)
    (hb : q.ReadsText b r) : p.ReadsText (a ++ b) r := by
  unfold ReadsText at ha hb ⊢
  rw [List.foldlM_append, ha]
  exact hb

/-- **A character that no identifier has may stand anywhere**, and what follows it stands free. -/
theorem readsText_cons_of_not_following (p : Place) {q : Place} {c : Char} {cs : List Char}
    (hc : Identifier.isFollowing c = false) (h : Place.free.ReadsText cs q) :
    p.ReadsText (c :: cs) q := by
  refine readsText_cons_iff.mpr ⟨.free, ?_, h⟩
  have hdollar : c ≠ '$' := by
    rintro rfl
    exact absurd hc (by decide)
  have hdigit : Text.isDecimalDigit c = false := by
    refine Bool.eq_false_iff.mpr fun hdigit => ?_
    rw [Identifier.isFollowing_of_isDecimalDigit hdigit] at hc
    cases hc
  cases p with
  | free => rw [step?, if_neg hdollar, after_of_not_following hc]
  | word => rw [step?, after_of_not_following hc]
  | number => rw [step?, hdigit, after_of_not_following hc]; rfl

/-- Text without dollar signs may stand anywhere but behind a placeholder. -/
theorem readsText_of_not_mem {p : Place} (hp : p ≠ .number) {cs : List Char} (h : '$' ∉ cs) :
    ∃ q, q ≠ .number ∧ p.ReadsText cs q := by
  induction cs generalizing p with
  | nil => exact ⟨p, hp, readsText_nil p⟩
  | cons c cs ih =>
    rw [List.mem_cons, not_or] at h
    obtain ⟨q, hq, hread⟩ := ih (after_ne_number c) h.2
    refine ⟨q, hq, readsText_cons_iff.mpr ⟨after c, ?_, hread⟩⟩
    cases p with
    | free => rw [step?, if_neg (Ne.symm h.1)]
    | word => rfl
    | number => exact absurd rfl hp

/-- **Text without dollar signs**, with a character behind it that no identifier has, leads from a
free place to a free one. -/
theorem readsText_concat {cs : List Char} (h : '$' ∉ cs) {c : Char}
    (hc : Identifier.isFollowing c = false) : Place.free.ReadsText (cs ++ [c]) .free := by
  obtain ⟨q, -, hread⟩ := readsText_of_not_mem (p := .free) (by decide) h
  exact hread.append (readsText_cons_of_not_following q hc (readsText_nil _))

/-! ## Identifiers -/

theorem readsFragment_nil (p : Place) : p.ReadsFragment [] p := rfl

theorem readsFragment_cons_iff {p r : Place} {piece : Piece} {f : Fragment} :
    p.ReadsFragment (piece :: f) r ↔ ∃ q, p.piece? piece = some q ∧ q.ReadsFragment f r := by
  unfold ReadsFragment
  rw [List.foldlM_cons]
  exact Option.bind_eq_some_iff

/-- **Fragments that meet at a place** may be written one after the other. -/
theorem ReadsFragment.append {p q r : Place} {a b : Fragment} (ha : p.ReadsFragment a q)
    (hb : q.ReadsFragment b r) : p.ReadsFragment (a ++ b) r := by
  unfold ReadsFragment at ha hb ⊢
  rw [List.foldlM_append, ha]
  exact hb

/-- Text in front of a fragment. -/
theorem ReadsText.cons {p q r : Place} {text : String} {f : Fragment}
    (h : p.ReadsText text.toList q) (hf : q.ReadsFragment f r) :
    p.ReadsFragment (.raw text :: f) r :=
  readsFragment_cons_iff.mpr ⟨q, h, hf⟩

/-- A value stands free, and a placeholder stands behind it. -/
theorem readsFragment_value (v : Value) : Place.free.ReadsFragment [.value v] .number := rfl

/-- **Fragments with commas between** may stand where each of them may. -/
theorem readsFragment_join {fs : List Fragment}
    (h : ∀ f ∈ fs, ∃ q, Place.free.ReadsFragment f q) :
    ∃ q, Place.free.ReadsFragment (Fragment.join ", " fs) q := by
  induction fs with
  | nil => exact ⟨.free, rfl⟩
  | cons f fs ih =>
    rw [List.forall_mem_cons] at h
    cases fs with
    | nil => exact h.1
    | cons g fs =>
      obtain ⟨p, hp⟩ := h.1
      obtain ⟨q, hq⟩ := ih h.2
      have hcomma : p.ReadsText ", ".toList .free :=
        readsText_cons_of_not_following p (by decide)
          (readsText_cons_of_not_following .free (by decide) (readsText_nil _))
      exact ⟨q, hp.append (hcomma.cons hq)⟩

/-- Values with commas between, in parentheses, may stand at a free place. -/
theorem readsFragment_tuple (values : List Value) :
    Place.free.ReadsFragment (Fragment.tuple values) .free := by
  have heach : ∀ f ∈ values.map fun v => ([.value v] : Fragment),
      ∃ q, Place.free.ReadsFragment f q := by
    intro f hf
    obtain ⟨v, -, rfl⟩ := List.mem_map.mp hf
    exact ⟨.number, readsFragment_value v⟩
  obtain ⟨q, hq⟩ := readsFragment_join heach
  have hopen : Place.free.ReadsText "(".toList .free :=
    readsText_cons_of_not_following .free (by decide) (readsText_nil _)
  have hclose : q.ReadsText ")".toList .free :=
    readsText_cons_of_not_following q (by decide) (readsText_nil _)
  exact (hopen.cons hq).append (hclose.cons (readsFragment_nil _))

/-! ## What is found -/

/-- A placeholder is not continued by what a fragment puts behind it. -/
theorem admits_text {p q : Place} {f : Fragment} (h : p.ReadsFragment f q) (bound : Nat)
    {rest : List Char} (hrest : q.Admits rest) : p.Admits ((f.text bound).toList ++ rest) := by
  induction f generalizing p bound with
  | nil =>
    obtain rfl : p = q := Option.some.inj h
    exact hrest
  | cons piece f ih =>
    obtain ⟨r, hpiece, hf⟩ := readsFragment_cons_iff.mp h
    rintro rfl c hc
    cases piece with
    | raw text =>
      have hpiece : Place.number.ReadsText text.toList r := hpiece
      rw [Fragment.text, Fragment.spell, String.join_cons, String.toList_append,
        List.append_assoc] at hc
      cases htext : text.toList with
      | nil =>
        rw [htext] at hpiece hc
        obtain rfl : number = r := Option.some.inj hpiece
        exact ih hf bound rfl c hc
      | cons d ds =>
        rw [htext] at hpiece hc
        obtain ⟨s, hs, -⟩ := readsText_cons_iff.mp hpiece
        rw [step?, Option.ite_none_left_eq_some] at hs
        obtain rfl : d = c := Option.some.inj hc
        exact Bool.eq_false_iff.mpr hs.1
    | value v => cases hpiece

end Place

namespace Placeholder

/-- At a character that leads on from a place no placeholder begins. -/
theorem not_begins_of_step? {p r : Place} {c : Char} {rest : List Char} (h : p.step? c = some r) :
    ¬(c = '$' ∧ p.inWord = false ∧ rest.takeWhile Text.isDecimalDigit ≠ []) := by
  rintro ⟨rfl, hp, -⟩
  cases p with
  | free => cases h
  | word => cases hp
  | number => cases hp

theorem toList_placeholder (n : Nat) : (placeholder n).toList = '$' :: Text.decimalChars n := by
  rw [placeholder, String.toList_append, Text.toList_decimal]
  rfl

/-- The digits of a placeholder end where it does. -/
theorem span_digits (n : Nat) {rest : List Char} (h : Place.number.Admits rest) :
    (Text.decimalChars n ++ rest).takeWhile Text.isDecimalDigit = Text.decimalChars n
      ∧ (Text.decimalChars n ++ rest).dropWhile Text.isDecimalDigit = rest :=
  Text.span_append (fun _ => Text.isDecimalDigit_of_mem_decimalChars) (h rfl)

end Placeholder

end PgStatement
