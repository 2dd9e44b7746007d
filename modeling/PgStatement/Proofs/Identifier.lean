import PgStatement.Identifier
import PgStatement.Proofs.Digits

/-!
# What identifiers look like

The check of names looks for the first thing wrong with a name. Here it is said without the check
what a name looks like that is let in: one or more parts with single points between, each of them a
letter or an underscore with letters, digits, underscores and dollar signs behind (`IsIdentifier`).
Exactly these are let in, in whatever role (`Identifier.check_eq_ok_iff`).
-/

namespace PgStatement

namespace Identifier

/-- A letter of ASCII. -/
def IsLetter (c : Char) : Prop := ('A' ≤ c ∧ c ≤ 'Z') ∨ ('a' ≤ c ∧ c ≤ 'z')

/-- A digit of ASCII. -/
def IsDigit (c : Char) : Prop := '0' ≤ c ∧ c ≤ '9'

/-- **A part of an identifier.** -/
def IsPart (cs : List Char) : Prop :=
  ∃ first rest, cs = first :: rest ∧ (IsLetter first ∨ first = '_')
    ∧ ∀ c ∈ rest, IsLetter c ∨ IsDigit c ∨ c = '_' ∨ c = '$'

end Identifier

/-- **A bare identifier**: one or more parts with single points between. -/
def IsIdentifier (name : String) : Prop :=
  ∃ parts : List (List Char), parts ≠ [] ∧ (∀ part ∈ parts, Identifier.IsPart part)
    ∧ name.toList = ['.'].intercalate parts

namespace Identifier

/-- Identifiers may hold digits. -/
theorem isFollowing_of_isDecimalDigit {c : Char} (h : Text.isDecimalDigit c = true) :
    isFollowing c = true := by
  rw [Text.isDecimalDigit_eq_isDigit] at h
  rw [isFollowing, Char.isAlphanum, h, Bool.or_true, Bool.or_true]

theorem isAlpha_iff (c : Char) : c.isAlpha = true ↔ IsLetter c := by
  show (decide ('A' ≤ c ∧ c ≤ 'Z') || (decide ('a' ≤ c) && decide (c ≤ 'z'))) = true ↔ _
  simp only [Bool.or_eq_true, Bool.and_eq_true, decide_eq_true_eq]
  rfl

theorem isStart_iff (c : Char) : isStart c = true ↔ IsLetter c ∨ c = '_' := by
  rw [isStart, Bool.or_eq_true, beq_iff_eq, isAlpha_iff, or_comm]

theorem isFollowing_iff (c : Char) :
    isFollowing c = true ↔ IsLetter c ∨ IsDigit c ∨ c = '_' ∨ c = '$' := by
  have hdigit : c.isDigit = true ↔ IsDigit c := by
    simp only [Char.isDigit, Bool.and_eq_true, decide_eq_true_eq]
    rfl
  simp only [isFollowing, Char.isAlphanum, Bool.or_eq_true, beq_iff_eq, isAlpha_iff, hdigit]
  rw [or_comm, or_assoc]

/-- Nothing is wrong with the parts of identifiers, and with nothing else. -/
theorem partFault?_eq_none_iff {cs : List Char} : partFault? cs = none ↔ IsPart cs := by
  cases cs with
  | nil => exact ⟨nofun, fun ⟨_, _, h, _⟩ => by cases h⟩
  | cons c cs =>
    have hrest : (cs.find? fun c => !isFollowing c) = none
        ↔ ∀ c ∈ cs, IsLetter c ∨ IsDigit c ∨ c = '_' ∨ c = '$' := by
      simp only [List.find?_eq_none, Bool.not_eq_true', Bool.not_eq_false, isFollowing_iff]
    rw [partFault?]
    split
    · rename_i hstart
      rw [Option.map_eq_none_iff, hrest]
      constructor
      · exact fun h => ⟨c, cs, rfl, (isStart_iff c).mp hstart, h⟩
      · rintro ⟨_, _, heq, -, h⟩
        obtain ⟨rfl, rfl⟩ := List.cons.inj heq
        exact h
    · rename_i hstart
      refine ⟨nofun, ?_⟩
      rintro ⟨_, _, heq, hfirst, -⟩
      obtain ⟨rfl, rfl⟩ := List.cons.inj heq
      exact absurd ((isStart_iff _).mpr hfirst) hstart

/-- The parts of a name are what points separate. -/
theorem parts_eq_splitOn (cs : List Char) : parts cs = cs.splitOn '.' := by
  induction cs with
  | nil => rfl
  | cons c cs ih =>
    rw [parts, ih, List.splitOn, List.splitOn, List.splitOnP_cons_eq_if_modifyHead]
    by_cases hc : c = '.'
    · subst hc
      rfl
    · rw [if_neg hc, if_neg (by simpa using hc)]
      cases hparts : cs.splitOnP (· == '.') with
      | nil => exact absurd hparts (List.splitOnP_ne_nil _ cs)
      | cons part rest => rfl

theorem not_mem_of_isPart {part : List Char} (h : IsPart part) : '.' ∉ part := by
  obtain ⟨first, rest, rfl, hfirst, hrest⟩ := h
  rw [List.mem_cons, not_or]
  constructor
  · rintro rfl
    exact absurd ((isStart_iff '.').mpr hfirst) (by decide)
  · intro hmem
    exact absurd ((isFollowing_iff '.').mpr (hrest '.' hmem)) (by decide)

/-- **Exactly identifiers are let in**, in every role. -/
theorem check_eq_ok_iff {role name : String} : check role name = .ok () ↔ IsIdentifier name := by
  have hfault : check role name = .ok () ↔ fault? name = none := by
    unfold check
    cases fault? name with
    | none => exact ⟨fun _ => rfl, fun _ => rfl⟩
    | some fault => exact ⟨nofun, nofun⟩
  have hparts : fault? name = none ↔ ∀ part ∈ parts name.toList, IsPart part := by
    unfold fault?
    split
    · rename_i hempty
      rw [String.isEmpty_iff] at hempty
      subst hempty
      refine ⟨nofun, fun h => ?_⟩
      exact absurd (partFault?_eq_none_iff.mpr (h [] List.mem_cons_self)) nofun
    · rw [List.findSome?_eq_none_iff]
      simp only [partFault?_eq_none_iff]
  rw [hfault, hparts, parts_eq_splitOn]
  constructor
  · intro h
    exact ⟨_, List.splitOnP_ne_nil _ name.toList, h, (List.intercalate_splitOn '.').symm⟩
  · rintro ⟨ps, hne, hps, hname⟩
    rw [hname, List.splitOn_intercalate '.' (fun part hpart => not_mem_of_isPart (hps part hpart))
      hne]
    exact hps

/-- A name that is not let in is an argument that is not acceptable. -/
theorem kind_of_check {role name : String} {e : Error} (h : check role name = .error e) :
    e.kind = .invalidArgument := by
  unfold check at h
  split at h
  · cases h
  · obtain rfl := Except.error.inj h
    rfl

/-- Behind a part come points and characters of parts. -/
theorem isFollowing_of_mem_intercalate {part : List Char} {rest : List (List Char)}
    (hpart : ∀ c ∈ part, isFollowing c = true) (hrest : ∀ part ∈ rest, IsPart part)
    {c : Char} (h : c ∈ ['.'].intercalate (part :: rest)) : isFollowing c = true ∨ c = '.' := by
  induction rest generalizing part with
  | nil =>
    rw [List.intercalate_singleton] at h
    exact .inl (hpart c h)
  | cons next rest ih =>
    rw [List.forall_mem_cons] at hrest
    rw [List.intercalate_cons_cons, List.mem_append, List.mem_append, List.mem_singleton] at h
    rcases h with (h | rfl) | h
    · exact .inl (hpart c h)
    · exact .inr rfl
    · obtain ⟨first, more, rfl, hfirst, hmore⟩ := hrest.1
      refine ih (fun d hd => ?_) hrest.2 h
      rw [isFollowing_iff]
      rcases List.mem_cons.mp hd with rfl | hd
      · exact hfirst.imp_right fun h => .inr (.inl h)
      · exact hmore d hd

/-- **An identifier is a word**, apart from the points in it. -/
theorem exists_cons_of_isIdentifier {name : String} (h : IsIdentifier name) :
    ∃ c cs, name.toList = c :: cs ∧ isStart c = true
      ∧ ∀ d ∈ cs, isFollowing d = true ∨ d = '.' := by
  obtain ⟨parts, hne, hparts, hname⟩ := h
  cases parts with
  | nil => exact absurd rfl hne
  | cons part rest =>
    rw [List.forall_mem_cons] at hparts
    obtain ⟨⟨first, more, rfl, hfirst, hmore⟩, hrest⟩ := hparts
    refine ⟨first, _, hname.trans List.intercalate_cons_cons_left, (isStart_iff first).mpr hfirst,
      fun d hd => isFollowing_of_mem_intercalate (fun c hc => ?_) hrest hd⟩
    exact (isFollowing_iff c).mpr (hmore c hc)

end Identifier

end PgStatement
