import Mathlib.Data.List.Forall2
import Mathlib.Data.List.Infix
import Mathlib.Data.List.Induction
import PgStatement.Condition.Comparison

/-!
# What patterns match

A pattern is read from left to right as a sequence of demands on a text: a percent sign asks for
any text, an underscore for any one character, a backslash and the character after it for that very
character, and every other character for itself (`LikePattern.elements?`). A pattern that ends in a
backslash with nothing behind it cannot be read. A text matches if it can be cut into pieces that
meet the demands in order (`LikePattern.Fits`). There may be many ways to cut it, since any text
will do for a percent sign.

Which characters count as the same is left open: they are equal for LIKE, and differ at most in case
for ILIKE. What is shown holds of any relation.

An escaped text asks for its own characters, one after the other, and for nothing else. That is
proved of an escaped text *with any pattern behind it* (`elements?_escapeChars_append`), because a
percent sign is put there, and what has to be excluded is that a backslash at the end of the text
takes the meaning from it.
-/

namespace PgStatement

namespace LikePattern

/-! ## Patterns and what they ask for -/

/-- What a pattern asks for at a place. -/
inductive Element where
  /-- Any text. -/
  | anyText
  /-- Any one character. -/
  | anyOne
  /-- A given character. -/
  | exactly (c : Char)
  deriving DecidableEq

/-- What a character without a backslash before it asks for. -/
def Element.of (c : Char) : Element :=
  if c = '%' then .anyText else if c = '_' then .anyOne else .exactly c

/-- What a pattern asks for from a place on. The flag says whether a backslash stands before the
place. -/
def read? : (escaped : Bool) → List Char → Option (List Element)
  | false, [] => some []
  | true, [] => none
  | false, c :: cs => if c = '\\' then read? true cs else (.of c :: ·) <$> read? false cs
  | true, c :: cs => (.exactly c :: ·) <$> read? false cs

/-- **What a pattern asks for**, in order; nothing if the pattern cannot be read. -/
def elements? (pattern : String) : Option (List Element) := read? false pattern.toList

/-- The number of backslashes at the end. -/
def trailingBackslashes (cs : List Char) : Nat := (cs.reverse.takeWhile (· == '\\')).length

/-- **A pattern ends in an unpaired backslash** if the number of backslashes at its end is odd. -/
def EndsUnpaired (pattern : String) : Prop := trailingBackslashes pattern.toList % 2 = 1

instance (pattern : String) : Decidable (EndsUnpaired pattern) :=
  inferInstanceAs (Decidable (_ = _))

/-! ## Matching -/

section Matching

variable (same : Char → Char → Prop)

/-- **A text fits** what is asked for if it can be cut into pieces that do, in order. -/
def Fits : List Element → List Char → Prop
  | [], text => text = []
  | .anyText :: elements, text => ∃ rest ∈ text.tails, Fits elements rest
  | .anyOne :: elements, text =>
    match text with
    | [] => False
    | _ :: rest => Fits elements rest
  | .exactly c :: elements, text =>
    match text with
    | [] => False
    | d :: rest => same c d ∧ Fits elements rest

/-- **A text matches a pattern** if it fits what the pattern asks for. -/
def Matches (pattern text : String) : Prop :=
  ∃ elements ∈ elements? pattern, Fits same elements text.toList

/-- Texts that are the same, character by character. -/
def Alike (s t : List Char) : Prop := List.Forall₂ same s t

instance Fits.decidable [DecidableRel same] :
    (elements : List Element) → (text : List Char) → Decidable (Fits same elements text)
  | [], text => inferInstanceAs (Decidable (text = []))
  | .anyText :: elements, text =>
    have := fun rest => Fits.decidable elements rest
    inferInstanceAs (Decidable (∃ rest ∈ text.tails, Fits same elements rest))
  | .anyOne :: _, [] => inferInstanceAs (Decidable False)
  | .anyOne :: elements, _ :: rest => Fits.decidable elements rest
  | .exactly _ :: _, [] => inferInstanceAs (Decidable False)
  | .exactly c :: elements, d :: rest =>
    have := Fits.decidable elements rest
    inferInstanceAs (Decidable (same c d ∧ Fits same elements rest))

instance [DecidableRel same] (pattern text : String) : Decidable (Matches same pattern text) :=
  inferInstanceAs (Decidable (∃ elements ∈ elements? pattern, Fits same elements text.toList))

variable {same}

/-- Any text fits before a text that fits the rest. -/
theorem fits_anyText_iff {elements : List Element} {text : List Char} :
    Fits same (.anyText :: elements) text
      ↔ ∃ skipped rest, text = skipped ++ rest ∧ Fits same elements rest := by
  constructor
  · rintro ⟨rest, hrest, h⟩
    obtain ⟨skipped, rfl⟩ := (List.mem_tails _ _).mp hrest
    exact ⟨skipped, rest, rfl, h⟩
  · rintro ⟨skipped, rest, rfl, h⟩
    exact ⟨rest, (List.mem_tails _ _).mpr (List.suffix_append skipped rest), h⟩

/-- A percent sign at the end asks for nothing. -/
theorem fits_singleton_anyText (text : List Char) : Fits same [.anyText] text :=
  fits_anyText_iff.mpr ⟨text, [], (List.append_nil text).symm, rfl⟩

/-- **Given characters before other demands** are met by a text that starts with them. The induction
is on the characters, and whatever is asked for behind them stays as it is. -/
theorem fits_exactly_append_iff {cs text : List Char} {elements : List Element} :
    Fits same (cs.map .exactly ++ elements) text
      ↔ ∃ head rest, text = head ++ rest ∧ Alike same cs head ∧ Fits same elements rest := by
  induction cs generalizing text with
  | nil =>
    constructor
    · intro h
      exact ⟨[], text, rfl, .nil, h⟩
    · rintro ⟨head, rest, rfl, hhead, h⟩
      cases hhead
      exact h
  | cons c cs ih =>
    cases text with
    | nil =>
      refine ⟨fun h => h.elim, ?_⟩
      rintro ⟨head, rest, htext, hhead, -⟩
      cases hhead
      cases htext
    | cons d text =>
      show same c d ∧ Fits same (cs.map .exactly ++ elements) text ↔ _
      rw [ih]
      constructor
      · rintro ⟨hcd, head, rest, rfl, hhead, h⟩
        exact ⟨d :: head, rest, rfl, .cons hcd hhead, h⟩
      · rintro ⟨head, rest, htext, hhead, h⟩
        obtain ⟨_, _, hcd, hcs, rfl⟩ := List.forall₂_cons_left_iff.mp hhead
        obtain ⟨rfl, rfl⟩ := List.cons.inj htext
        exact ⟨hcd, _, rest, rfl, hcs, h⟩

/-- Given characters alone are met by themselves. -/
theorem fits_exactly_iff {cs text : List Char} :
    Fits same (cs.map .exactly) text ↔ Alike same cs text := by
  rw [← List.append_nil (cs.map Element.exactly), fits_exactly_append_iff]
  constructor
  · rintro ⟨head, rest, rfl, hhead, rfl⟩
    rwa [List.append_nil]
  · intro h
    exact ⟨text, [], (List.append_nil text).symm, h, rfl⟩

/-- A pattern that can be read matches what fits its demands. -/
theorem matches_iff_of_elements? {pattern text : String} {elements : List Element}
    (h : elements? pattern = some elements) :
    Matches same pattern text ↔ Fits same elements text.toList := by
  unfold Matches
  rw [h]
  exact ⟨fun ⟨_, hmem, hfits⟩ => Option.some.inj hmem ▸ hfits, fun hfits => ⟨_, rfl, hfits⟩⟩

end Matching

/-! ## Escaped texts -/

/-- A character without a meaning of its own asks for itself. -/
theorem Element.of_eq_exactly {c : Char} (h : isSpecial c = false) : Element.of c = .exactly c := by
  simp only [isSpecial, Bool.or_eq_false_iff, beq_eq_false_iff_ne] at h
  rw [of, if_neg h.1.2, if_neg h.2]

/-- **An escaped text asks for its own characters**, whatever pattern stands behind it. -/
theorem elements?_escapeChars_append (cs pattern : List Char) :
    read? false (escapeChars cs ++ pattern) = (cs.map .exactly ++ ·) <$> read? false pattern := by
  induction cs with
  | nil => exact Option.map_id'.symm
  | cons c cs ih =>
    have hrest : read? false (escapeChars (c :: cs) ++ pattern)
        = (Element.exactly c :: ·) <$> read? false (escapeChars cs ++ pattern) := by
      rw [escapeChars]
      split
      · rfl
      · rename_i hspecial
        rw [Bool.not_eq_true] at hspecial
        have hplain : c ≠ '\\' := by
          rintro rfl
          cases hspecial
        rw [List.cons_append, read?, if_neg hplain, Element.of_eq_exactly hspecial]
    rw [hrest, ih]
    exact Option.map_map _ _ _

theorem elements?_escape (s : String) : elements? (escape s) = some (s.toList.map .exactly) := by
  have h := elements?_escapeChars_append s.toList []
  rw [List.append_nil] at h
  rw [elements?, toList_escape, h]
  exact congrArg some (List.append_nil _)

theorem elements?_startsWith (s : String) :
    elements? (startsWith s) = some (s.toList.map .exactly ++ [.anyText]) := by
  rw [elements?, startsWith, String.toList_append, toList_escape, elements?_escapeChars_append]
  rfl

theorem elements?_endsWith (s : String) :
    elements? (endsWith s) = some (.anyText :: s.toList.map .exactly) := by
  have h : (endsWith s).toList = '%' :: (escape s).toList := by
    rw [endsWith, String.toList_append]
    rfl
  rw [elements?, h]
  exact congrArg ((Element.anyText :: ·) <$> ·) (elements?_escape s)

theorem elements?_contains (s : String) :
    elements? (contains s) = some (.anyText :: (s.toList.map .exactly ++ [.anyText])) := by
  have h : (contains s).toList = '%' :: (startsWith s).toList := by
    rw [contains, startsWith, String.append_assoc, String.toList_append]
    rfl
  rw [elements?, h]
  exact congrArg ((Element.anyText :: ·) <$> ·) (elements?_startsWith s)

theorem trailingBackslashes_concat (cs : List Char) (c : Char) :
    trailingBackslashes (cs ++ [c]) = if c = '\\' then trailingBackslashes cs + 1 else 0 := by
  unfold trailingBackslashes
  rw [List.reverse_append, List.reverse_singleton, List.singleton_append, List.takeWhile_cons]
  by_cases h : c = '\\'
  · subst h
    rfl
  · rw [if_neg h, if_neg (by simpa using h), List.length_nil]

/-- **Backslashes come in pairs** at the end of an escaped text. -/
theorem trailingBackslashes_escapeChars (cs : List Char) :
    trailingBackslashes (escapeChars cs) % 2 = 0 := by
  induction cs using List.reverseRecOn with
  | nil => rfl
  | append_singleton cs c ih =>
    rw [escapeChars_append]
    by_cases hc : c = '\\'
    · subst hc
      show trailingBackslashes (escapeChars cs ++ ['\\', '\\']) % 2 = 0
      rw [← List.singleton_append, ← List.append_assoc, trailingBackslashes_concat, if_pos rfl,
        trailingBackslashes_concat, if_pos rfl]
      omega
    · -- the character itself comes last, with a backslash before it or without one
      have hlast : ∃ before, escapeChars cs ++ escapeChars [c] = before ++ [c] := by
        by_cases hspecial : isSpecial c = true
        · exact ⟨escapeChars cs ++ ['\\'], by simp [escapeChars, hspecial]⟩
        · exact ⟨escapeChars cs, by simp [escapeChars, hspecial]⟩
      obtain ⟨before, hbefore⟩ := hlast
      rw [hbefore, trailingBackslashes_concat, if_neg hc]

end LikePattern

/-! ## Patterns of comparisons -/

/-- **A comparison binds a pattern**: unless the field is blank, it is written as the field, an
operator and a placeholder, and the value that is bound is the pattern. -/
def Comparison.Binds (c : Comparison) (operator : Operator) (pattern : String) : Prop :=
  ∀ connector field p, (c.toCondition connector field).render p
    = if Text.isBlankText field then (.error (Condition.Fault.error .blankField), p)
      else (.ok (field ++ " " ++ operator.sql ++ " " ++ placeholder (p.size + 1)),
        p.append [.text pattern])

/-- A comparison with an operator that needs one value binds that value. -/
theorem Comparison.binds_of_operand {c : Comparison} {pattern : String}
    (hshape : c.operator.shape = .single) (hoperand : c.operand = .single (.text pattern)) :
    c.Binds c.operator pattern := by
  intro connector field p
  unfold Condition.render toCondition
  simp only [hshape, hoperand]
  split <;> rfl

namespace LikePattern

/-- **Looking for a text is looking for its characters.** The escaped text matches itself and
nothing else, and the patterns that comparisons bind match the texts that hold it, start with it or
end with it; not to hold a text is asked for by the same pattern as to hold it. An escaped text does
not end in an unpaired backslash. -/
theorem matches_literally (same : Char → Char → Prop) (s t : String) :
    (Matches same (escape s) t ↔ Alike same s.toList t.toList)
      ∧ ¬EndsUnpaired (escape s)
      ∧ (∃ pattern, (Comparison.contains s).Binds .ilike pattern
        ∧ (Comparison.notContains s).Binds .notIlike pattern
        ∧ (Matches same pattern t
          ↔ ∃ before found after, t.toList = before ++ found ++ after ∧ Alike same s.toList found))
      ∧ (∃ pattern, (Comparison.startsWith s).Binds .ilike pattern
        ∧ (Matches same pattern t
          ↔ ∃ found after, t.toList = found ++ after ∧ Alike same s.toList found))
      ∧ ∃ pattern, (Comparison.endsWith s).Binds .ilike pattern
        ∧ (Matches same pattern t
          ↔ ∃ before found, t.toList = before ++ found ∧ Alike same s.toList found) := by
  refine ⟨?_, ?_, ⟨contains s, Comparison.binds_of_operand rfl rfl,
      Comparison.binds_of_operand rfl rfl, ?_⟩,
    ⟨startsWith s, Comparison.binds_of_operand rfl rfl, ?_⟩,
    ⟨endsWith s, Comparison.binds_of_operand rfl rfl, ?_⟩⟩
  · rw [matches_iff_of_elements? (elements?_escape s), fits_exactly_iff]
  · unfold EndsUnpaired
    rw [toList_escape, trailingBackslashes_escapeChars]
    decide
  · rw [matches_iff_of_elements? (elements?_contains s), fits_anyText_iff]
    simp only [fits_exactly_append_iff, fits_singleton_anyText, and_true]
    constructor
    · rintro ⟨before, rest, ht, found, after, rfl, hfound⟩
      exact ⟨before, found, after, by rw [ht, List.append_assoc], hfound⟩
    · rintro ⟨before, found, after, ht, hfound⟩
      exact ⟨before, found ++ after, by rw [ht, List.append_assoc], found, after, rfl, hfound⟩
  · rw [matches_iff_of_elements? (elements?_startsWith s), fits_exactly_append_iff]
    simp only [fits_singleton_anyText, and_true]
  · rw [matches_iff_of_elements? (elements?_endsWith s), fits_anyText_iff]
    simp only [fits_exactly_iff]

/-- A percent sign and a backslash at the end of a text are looked for like any other character. -/
example : Matches (fun c d => c.toLower = d.toLower) (contains "5%\\") "UP TO 5%\\N"
    ∧ ¬Matches (fun c d => c.toLower = d.toLower) (contains "5%\\") "5 0%\\" := by decide

end LikePattern

end PgStatement
