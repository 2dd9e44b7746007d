import PgStatement.Proofs.Acceptance
import PgStatement.Proofs.Numbering

/-!
# Clauses do not depend on where they stand

A clause is written behind others, and its values are numbered after theirs. Nothing else of it
depends on them: wherever it is written, it fails with the same error or is the same text up to the
numbers of its placeholders, and it binds the same values behind those that are bound already
(`ParamList.written_anywhere`).

What is the same about two such texts is a `Template`, text that stays as it is and numbers that
move together. A field may hold anything, a dollar sign with digits behind it too, and what it holds
is no number of a template. Where no field holds a dollar sign this can be said of the text alone,
and one text is found from the other by reading it (`Placeholder.renumber`).
-/

namespace PgStatement

-- powers are those of the core library, whatever else is imported further on
attribute [local instance (high)] instPowNat

/-! ## Templates -/

/-- A part of a text with placeholders. -/
inductive Mark where
  /-- Text that stays as it is. -/
  | kept (text : String)
  /-- The number of a placeholder. -/
  | place (number : Nat)

namespace Mark

/-- The part in a text in which all numbers are so much higher. -/
def text (shift : Nat) : Mark → String
  | .kept text => text
  | .place number => placeholder (number + shift)

/-- The number, if the part is one. -/
def number? : Mark → Option Nat
  | .kept _ => none
  | .place number => some number

end Mark

/-- **A text with numbered places.** -/
abbrev Template := List Mark

namespace Template

/-- **The text of a template** with all numbers so much higher. -/
def text (shift : Nat) (t : Template) : String := String.join (t.map (Mark.text shift))

/-- The numbers of a template, from left to right. -/
def numbers (t : Template) : List Nat := t.filterMap Mark.number?

/-- A text stays as it is: some text that does begins with it. -/
def Keeps (t : Template) (text : String) : Prop := ∃ more, Mark.kept (text ++ more) ∈ t

end Template

namespace Fragment

/-- The template of a fragment when so many values were bound before. -/
def template (bound : Nat) : Fragment → Template
  | [] => []
  | .raw text :: rest => .kept text :: template bound rest
  | .value _ :: rest => .place (bound + 1) :: template (bound + 1) rest

/-- **The text of a fragment is that of its template**, at whatever place. -/
theorem text_template (shift bound : Nat) (f : Fragment) :
    (template bound f).text shift = f.text (bound + shift) := by
  induction f generalizing bound with
  | nil => rfl
  | cons piece f ih =>
    cases piece with
    | raw t =>
      rw [text_raw, ← ih bound, template, Template.text, List.map_cons, String.join_cons]
      rfl
    | value v =>
      have hbound : bound + 1 + shift = bound + shift + 1 := by omega
      rw [text_value, ← hbound, ← ih (bound + 1), template, Template.text, List.map_cons,
        String.join_cons]
      rfl

/-- The numbers of a template are those of the values. -/
theorem numbers_template (bound : Nat) (f : Fragment) :
    (template bound f).numbers = List.range' (bound + 1) f.values.length := by
  induction f generalizing bound with
  | nil => rfl
  | cons piece f ih =>
    cases piece with
    | raw t => exact ih bound
    | value v =>
      rw [values, List.length_cons, List.range'_succ, ← ih (bound + 1)]
      rfl

/-- Text that is written stays. -/
theorem kept_mem_template {text : String} {f : Fragment} (h : .raw text ∈ f) (bound : Nat) :
    .kept text ∈ template bound f := by
  induction f generalizing bound with
  | nil => cases h
  | cons piece f ih =>
    rcases List.mem_cons.mp h with rfl | hrest
    · exact List.mem_cons_self
    · cases piece with
      | raw _ => exact List.mem_cons_of_mem _ (ih hrest bound)
      | value _ => exact List.mem_cons_of_mem _ (ih hrest (bound + 1))

end Fragment

/-! ## Renumbering a text -/

namespace Placeholder

/-- **A text with all of its placeholders so much higher.** The flag says whether a character of an
identifier stands before the text. -/
def renumber (shift : Nat) : (inWord : Bool) → List Char → List Char
  | _, [] => []
  | inWord, c :: cs =>
    if c = '$' ∧ inWord = false ∧ cs.takeWhile Text.isDecimalDigit ≠ [] then
      '$' :: (Text.decimalChars (Text.ofDecimalChars (cs.takeWhile Text.isDecimalDigit) + shift)
        ++ renumber shift true (cs.dropWhile Text.isDecimalDigit))
    else c :: renumber shift (Identifier.isFollowing c) cs
termination_by _ cs => cs.length
decreasing_by
  · exact Nat.lt_succ_of_le (List.dropWhile_sublist _).length_le
  · exact Nat.lt_succ_self _

/-- A statement with all of its placeholders so much higher. -/
def renumbered (shift : Nat) (sql : String) : String :=
  String.ofList (renumber shift false sql.toList)

variable {shift : Nat}

/-- Text without placeholders stays as it is. -/
theorem renumber_of_readsText {p q : Place} {cs : List Char} (h : p.ReadsText cs q)
    (rest : List Char) :
    renumber shift p.inWord (cs ++ rest) = cs ++ renumber shift q.inWord rest := by
  induction cs generalizing p with
  | nil =>
    obtain rfl : p = q := Option.some.inj h
    rfl
  | cons c cs ih =>
    obtain ⟨r, hstep, hcs⟩ := Place.readsText_cons_iff.mp h
    rw [List.cons_append, renumber, if_neg (not_begins_of_step? hstep), List.cons_append, ← ih hcs,
      Place.eq_after_of_step? hstep, Place.inWord_after]

/-- **A placeholder that stands free** is renumbered. -/
theorem renumber_placeholder (n : Nat) {rest : List Char} (h : Place.number.Admits rest) :
    renumber shift false ((placeholder n).toList ++ rest)
      = (placeholder (n + shift)).toList ++ renumber shift true rest := by
  obtain ⟨hdigits, hrest⟩ := span_digits n h
  rw [toList_placeholder, toList_placeholder, List.cons_append, renumber,
    if_pos ⟨rfl, rfl, hdigits.symm ▸ Text.decimalChars_ne_nil n⟩, hdigits, hrest,
    Text.ofDecimalChars_decimalChars, List.cons_append]

/-- **The text of a fragment is renumbered** where its values are its only placeholders. -/
theorem renumber_text {p q : Place} {f : Fragment} (h : p.ReadsFragment f q) (bound : Nat)
    {rest : List Char} (hrest : q.Admits rest) :
    renumber shift p.inWord ((f.text bound).toList ++ rest)
      = (f.text (bound + shift)).toList ++ renumber shift q.inWord rest := by
  induction f generalizing p bound with
  | nil =>
    obtain rfl : p = q := Option.some.inj h
    rfl
  | cons piece f ih =>
    obtain ⟨r, hpiece, hf⟩ := Place.readsFragment_cons_iff.mp h
    cases piece with
    | raw text =>
      rw [Fragment.text_raw, Fragment.text_raw, String.toList_append, String.toList_append,
        List.append_assoc, renumber_of_readsText (q := r) hpiece, ih hf, List.append_assoc]
    | value v =>
      rw [Place.piece?, Option.ite_none_right_eq_some] at hpiece
      obtain ⟨rfl, hr⟩ := hpiece
      obtain rfl : Place.number = r := Option.some.inj hr
      have hbound : bound + 1 + shift = bound + shift + 1 := by omega
      rw [Fragment.text_value, Fragment.text_value, String.toList_append, String.toList_append,
        List.append_assoc, ← hbound, List.append_assoc, ← ih hf (bound + 1)]
      exact renumber_placeholder (bound + 1) (Place.admits_text hf (bound + 1) hrest)

/-- A text that is read from its beginning is renumbered as a whole. -/
theorem renumbered_text {f : Fragment} {q : Place} (h : Place.free.ReadsFragment f q)
    (bound : Nat) :
    renumbered shift (f.text bound) = f.text (bound + shift) := by
  have hend : q.Admits [] := fun _ c hc => by cases hc
  have hread : renumber shift false ((f.text bound).toList ++ []) = _ := renumber_text h bound hend
  rw [List.append_nil, renumber, List.append_nil] at hread
  exact String.toList_inj.mp (String.toList_ofList.trans hread)

end Placeholder

/-! ## The first part that fails -/

/-- **Parts are written up to the first that fails**, and what is written before that one stays. -/
theorem Rendering.ofParts_map_cases {α : Type} (part : α → Except Error Fragment) (items : List α) :
    (∃ fs, List.Forall₂ (fun a f => part a = .ok f) items fs
      ∧ ofParts (items.map part) = ⟨fs, none⟩)
      ∨ ∃ front a rest fs e, items = front ++ a :: rest
        ∧ List.Forall₂ (fun a f => part a = .ok f) front fs ∧ part a = .error e
        ∧ ofParts (items.map part) = ⟨fs, some e⟩ := by
  induction items with
  | nil => exact .inl ⟨[], .nil, rfl⟩
  | cons a items ih =>
    cases ha : part a with
    | error e =>
      refine .inr ⟨[], a, items, [], e, rfl, .nil, ha, ?_⟩
      rw [List.map_cons, ha, ofParts]
    | ok f =>
      obtain ⟨fs, hfs, hrest⟩ | ⟨front, b, rest, fs, e, rfl, hfs, hb, hrest⟩ := ih
      · refine .inl ⟨f :: fs, .cons ha hfs, ?_⟩
        rw [List.map_cons, ha, ofParts, hrest]
      · refine .inr ⟨a :: front, b, rest, f :: fs, e, rfl, .cons ha hfs, hb, ?_⟩
        rw [List.map_cons, ha, ofParts, hrest]

/-! ## Conditions -/

/-- Whether the field of a condition is written: nothing is looked for in an empty list. -/
def Condition.WritesField (c : Condition) : Prop :=
  ¬(c.operator.shape = .list ∧ c.operand = .list [])

/-- **Templates of conditions**: their numbers are those of the values, and the fields stay as they
are. -/
structure Template.IsOf (t : Template) (conditions : List Condition) : Prop where
  /-- There is a number for each value, from one on and in order. -/
  numbers_eq : t.numbers = List.range' 1 (conditions.flatMap Condition.values).length
  /-- Whatever a field holds, it stays. -/
  keeps : ∀ c ∈ conditions, c.WritesField → t.Keeps c.field
  /-- Where no field holds a dollar sign, all placeholders of the text are numbers of the
  template. -/
  renumbered : (∀ c ∈ conditions, '$' ∉ c.field.toList) →
    ∀ shift, t.text shift = Placeholder.renumbered shift (t.text 0)

theorem Template.isOf_template {f : Fragment} {conditions : List Condition}
    (hvalues : f.values = conditions.flatMap Condition.values)
    (hkept : ∀ c ∈ conditions, c.WritesField → ∃ more, .raw (c.field ++ more) ∈ f)
    (hread : (∀ c ∈ conditions, '$' ∉ c.field.toList) → ∃ q, Place.free.ReadsFragment f q) :
    (f.template 0).IsOf conditions where
  numbers_eq := by rw [Fragment.numbers_template, hvalues]
  keeps c hc hfield := by
    obtain ⟨more, hmore⟩ := hkept c hc hfield
    exact ⟨more, Fragment.kept_mem_template hmore 0⟩
  renumbered hfields shift := by
    obtain ⟨q, hq⟩ := hread hfields
    rw [Fragment.text_template, Fragment.text_template, Placeholder.renumbered_text hq]

namespace Condition

theorem raw_mem_of_form {c : Condition} {f : Fragment} (h : c.Form f) (hfield : c.WritesField) :
    ∃ more, .raw (c.field ++ more) ∈ f := by
  have hleft : c.left = c.field ++ (" " ++ c.operator.sql) := String.append_assoc
  have hblank : c.left ++ " " = c.field ++ (" " ++ c.operator.sql ++ " ") := by
    rw [hleft, String.append_assoc]
  cases h with
  | nothing =>
    rw [hleft]
    exact ⟨_, List.mem_cons_self⟩
  | emptyList hshape hoperand => exact absurd ⟨hshape, hoperand⟩ hfield
  | single | pair | list =>
    rw [hblank]
    exact ⟨_, List.mem_cons_self⟩

theorem values_of_part {c : Condition} {f : Fragment} (h : c.part = .ok f) : f.values = c.values :=
  values_of_form (form_of_fragment (part_eq_ok_iff.mp h))

theorem isRenderable_of_part {c : Condition} {f : Fragment} (h : c.part = .ok f) : c.IsRenderable :=
  c.hingesOn_part.ok_iff.mp ⟨f, h⟩

theorem not_isRenderable_of_part {c : Condition} {e : Error} (h : c.part = .error e) :
    ¬c.IsRenderable := by
  rw [← c.hingesOn_part.ok_iff, h]
  exact nofun

theorem render_of_part {c : Condition} {f : Fragment} (h : c.part = .ok f) (p : ParamList) :
    c.render p = (.ok (f.text p.size), p.append c.values) := by
  rw [render_eq, h, ParamList.bindPart, values_of_part h]

theorem render_of_part_error {c : Condition} {e : Error} (h : c.part = .error e) (p : ParamList) :
    c.render p = (.error e, p) := by
  rw [render_eq, h, ParamList.bindPart]

theorem isOf_of_part {c : Condition} {f : Fragment} (h : c.part = .ok f) :
    (f.template 0).IsOf [c] := by
  have hform := form_of_fragment (part_eq_ok_iff.mp h)
  refine Template.isOf_template ?_ ?_ fun hfields => ?_
  · rw [values_of_part h, List.flatMap_singleton]
  · exact List.forall_mem_singleton.mpr (raw_mem_of_form hform)
  · exact readsFragment_of_form hform (hfields c List.mem_cons_self)

end Condition

/-! ## Clauses -/

namespace Where

/-- The conditions, each behind the text that is written before it. -/
def led : List Condition → List (String × Condition)
  | [] => []
  | first :: rest => ("WHERE ", first) :: rest.map fun c => (" " ++ c.connector.sql ++ " ", c)

/-- A condition behind a text, as a part of a clause. -/
def ledPart (item : String × Condition) : Except Error Fragment :=
    (.raw item.1 :: ·) <$> item.2.part

theorem parts_eq_map (conditions : List Condition) :
    parts conditions = (led conditions).map ledPart := by
  cases conditions with
  | nil => rfl
  | cons first rest =>
    rw [led, List.map_cons, List.map_map]
    rfl

theorem map_snd_led (conditions : List Condition) : (led conditions).map Prod.snd = conditions := by
  cases conditions with
  | nil => rfl
  | cons first rest =>
    rw [led, List.map_cons, List.map_map]
    exact congrArg _ (List.map_id rest)

variable {items : List (String × Condition)} {fs : List Fragment}

theorem values_of_ledParts (h : List.Forall₂ (fun item f => ledPart item = .ok f) items fs) :
    fs.flatMap Fragment.values = (items.map Prod.snd).flatMap Condition.values := by
  induction h with
  | nil => rfl
  | cons hf _ ih =>
    obtain ⟨g, hg, rfl⟩ := map_eq_ok_iff.mp hf
    rw [List.flatMap_cons, List.map_cons, List.flatMap_cons, ih, Fragment.values,
      Condition.values_of_part hg]

theorem isRenderable_of_ledParts (h : List.Forall₂ (fun item f => ledPart item = .ok f) items fs) :
    ∀ c ∈ items.map Prod.snd, c.IsRenderable := by
  induction h with
  | nil => exact nofun
  | cons hf _ ih =>
    obtain ⟨g, hg, -⟩ := map_eq_ok_iff.mp hf
    exact List.forall_mem_cons.mpr ⟨Condition.isRenderable_of_part hg, ih⟩

theorem raw_mem_of_ledParts (h : List.Forall₂ (fun item f => ledPart item = .ok f) items fs) :
    ∀ c ∈ items.map Prod.snd, c.WritesField → ∃ more, .raw (c.field ++ more) ∈ fs.flatten := by
  induction h with
  | nil => exact nofun
  | cons hf _ ih =>
    obtain ⟨g, hg, rfl⟩ := map_eq_ok_iff.mp hf
    refine List.forall_mem_cons.mpr ⟨fun hfield => ?_, fun c hc hfield => ?_⟩
    · obtain ⟨more, hmore⟩ :=
        Condition.raw_mem_of_form
        (Condition.form_of_fragment (Condition.part_eq_ok_iff.mp hg)) hfield
      exact ⟨more, List.mem_append_left _ (List.mem_cons_of_mem _ hmore)⟩
    · obtain ⟨more, hmore⟩ := ih c hc hfield
      exact ⟨more, List.mem_append_right _ hmore⟩

/-- What comes of writing a clause: the parts up to the first condition that cannot be written. -/
theorem rendering_cases (conditions : List Condition) :
    (∃ fs, List.Forall₂ (fun item f => ledPart item = .ok f) (led conditions) fs
        ∧ rendering conditions = ⟨fs, none⟩)
      ∨ ∃ front failing rest fs e, conditions = front ++ failing :: rest
        ∧ (∀ c ∈ front, c.IsRenderable) ∧ failing.part = .error e
        ∧ fs.flatMap Fragment.values = front.flatMap Condition.values
        ∧ rendering conditions = ⟨fs, some e⟩ := by
  rw [rendering, parts_eq_map]
  obtain hall | ⟨front, item, rest, fs, e, hled, hfs, he, hrendering⟩ :=
    Rendering.ofParts_map_cases ledPart (led conditions)
  · exact .inl hall
  · refine .inr ⟨front.map Prod.snd, item.2, rest.map Prod.snd, fs, e, ?_,
      isRenderable_of_ledParts hfs, map_eq_error_iff.mp he, values_of_ledParts hfs, hrendering⟩
    rw [← map_snd_led conditions, hled, List.map_append, List.map_cons]

theorem readsFragment_of_rendering {conditions : List Condition}
    (h : rendering conditions = ⟨fs, none⟩) (hfields : ∀ c ∈ conditions, '$' ∉ c.field.toList) :
    ∃ q, Place.free.ReadsFragment fs.flatten q := by
  cases conditions with
  | nil =>
    obtain rfl : [] = fs := congrArg Rendering.parts h
    exact ⟨.free, rfl⟩
  | cons first rest =>
    have hclause : clause? (first :: rest) = .ok (some fs.flatten) := by
      rw [clause?, h]
      · rfl
      · exact nofun
    -- the space before a clause leads to where it started
    obtain ⟨q, hq⟩ := readsFragment_of_clause? hclause hfields .free
    obtain ⟨r, hspace, hread⟩ := Place.readsFragment_cons_iff.mp hq
    obtain rfl : Place.free = r := Option.some.inj hspace
    exact ⟨q, hread⟩

theorem isOf_of_rendering {conditions : List Condition}
    (hfs : List.Forall₂ (fun item f => ledPart item = .ok f) (led conditions) fs)
    (hrendering : rendering conditions = ⟨fs, none⟩) :
    (Fragment.template 0 fs.flatten).IsOf conditions := by
  have hvalues := values_of_ledParts hfs
  have hkept := raw_mem_of_ledParts hfs
  rw [map_snd_led] at hvalues hkept
  refine Template.isOf_template ?_ hkept (readsFragment_of_rendering hrendering)
  rw [Fragment.values_flatten, hvalues]

/-- What comes of writing a clause against a list: all of it, or the values of the conditions before
the first one that cannot be written. -/
theorem render_cases (conditions : List Condition) :
    (∃ front failing rest e, conditions = front ++ failing :: rest ∧ (∀ c ∈ front, c.IsRenderable)
        ∧ failing.part = .error e
        ∧ ∀ p, render conditions p = (.error e, p.append (front.flatMap Condition.values)))
      ∨ ((∀ c ∈ conditions, c.IsRenderable) ∧ ∃ t : Template, t.IsOf conditions
        ∧ ∀ p, render conditions p = (.ok (if conditions = [] then none else some (t.text p.size)),
          p.append (conditions.flatMap Condition.values))) := by
  obtain ⟨fs, hfs, hrendering⟩ | ⟨front, failing, rest, fs, e, hconditions, hfront, he, hvalues,
    hrendering⟩ := rendering_cases conditions
  · have hvalues := values_of_ledParts hfs
    have hrenderable := isRenderable_of_ledParts hfs
    rw [map_snd_led] at hvalues hrenderable
    refine .inr ⟨hrenderable, _, isOf_of_rendering hfs hrendering, fun p => ?_⟩
    rw [render_eq, hrendering, Fragment.text_template, Nat.zero_add, ← Fragment.join_texts,
      ← hvalues]
    simp only [← List.isEmpty_iff]
    rfl
  · refine .inl ⟨front, failing, rest, e, hconditions, hfront, he, fun p => ?_⟩
    rw [render_eq, hrendering, ← hvalues]
    rfl

end Where

/-! ## Limits and offsets -/

namespace Pagination

/-- The amounts that are set, each with its keyword. -/
def amounts (p : Pagination) : List (String × UInt64) :=
  p.limit.toList.map ("LIMIT", ·) ++ p.offset.toList.map ("OFFSET", ·)

theorem parts_eq_map (p : Pagination) :
    p.parts = p.amounts.map fun item => amountPart item.1 item.2 := by
  obtain ⟨limit, offset⟩ := p
  cases limit <;> cases offset <;> rfl

theorem values_eq_map (p : Pagination) :
    p.values = p.amounts.map fun item => amountValue item.2 := by
  obtain ⟨limit, offset⟩ := p
  cases limit <;> cases offset <;> rfl

/-- What amounts are written as, numbered after what was bound before. -/
theorem texts_of_amountParts {items : List (String × UInt64)} {fs : List Fragment}
    (h : List.Forall₂ (fun item f => amountPart item.1 item.2 = .ok f) items fs) (bound : Nat) :
    Fragment.texts bound fs
        = (items.zipIdx (bound + 1)).map (fun item => item.1.1 ++ " " ++ placeholder item.2)
      ∧ fs.flatMap Fragment.values = items.map (fun item => amountValue item.2)
      ∧ ∀ item ∈ items, item.2.toNat < 2 ^ (63 : Nat) := by
  induction h generalizing bound with
  | nil => exact ⟨rfl, rfl, nofun⟩
  | @cons item f _ _ hf _ ih =>
    obtain ⟨htexts, hvalues, hrange⟩ := ih (bound + 1)
    obtain rfl := eq_page_of_amountPart hf
    have htext :
        Fragment.text bound (page item.1 item.2) = item.1 ++ " " ++ placeholder (bound + 1) := by
      rw [page, Fragment.text_raw, Fragment.text_value]
      exact congrArg _ String.append_empty
    refine ⟨?_, ?_, List.forall_mem_cons.mpr
      ⟨(hingesOn_amountPart item.1 item.2).ok_iff.mp ⟨_, hf⟩, hrange⟩⟩
    · rw [Fragment.texts, htext]
      exact congrArg _ htexts
    · rw [List.flatMap_cons, hvalues]
      rfl

/-- What comes of writing amounts against a list: all of them, or the values of those before the
first one that is out of range. -/
theorem render_cases (pages : Pagination) :
    (∃ front failing rest e, pages.amounts = front ++ failing :: rest
        ∧ (∀ item ∈ front, item.2.toNat < 2 ^ (63 : Nat)) ∧ 2 ^ (63 : Nat) ≤ failing.2.toNat
        ∧ ∀ p : ParamList, p.render pages.rendering
          = (.error e, p.append (front.map fun item => amountValue item.2)))
      ∨ ((∀ item ∈ pages.amounts, item.2.toNat < 2 ^ (63 : Nat))
        ∧ ∀ p : ParamList, p.render pages.rendering
          = (.ok ((pages.amounts.zipIdx (p.size + 1)).map fun item =>
              item.1.1 ++ " " ++ placeholder item.2), p.append pages.values)) := by
  simp only [ParamList.render, rendering_eq, fragments]
  rw [parts_eq_map, values_eq_map]
  obtain ⟨fs, hfs, hrendering⟩ | ⟨front, failing, rest, fs, e, hamounts, hfs, he, hrendering⟩ :=
    Rendering.ofParts_map_cases
    (fun item : String × UInt64 => amountPart item.1 item.2) pages.amounts
  · refine .inr ⟨(texts_of_amountParts hfs 0).2.2, fun p => ?_⟩
    obtain ⟨htexts, hvalues, -⟩ := texts_of_amountParts hfs p.size
    rw [hrendering, ← htexts, ← hvalues]
    rfl
  · obtain ⟨-, hvalues, hrange⟩ := texts_of_amountParts hfs 0
    have hfailing : 2 ^ (63 : Nat) ≤ failing.2.toNat := by
      refine Nat.le_of_not_lt fun hlt => ?_
      obtain ⟨f, hf⟩ := (hingesOn_amountPart failing.1 failing.2).ok_iff.mpr hlt
      rw [hf] at he
      cases he
    refine .inl ⟨front, failing, rest, e, hamounts, hrange, hfailing, fun p => ?_⟩
    rw [hrendering, ← hvalues]
    rfl

end Pagination

/-! ## Writing anywhere -/

/-- **Clauses are written the same everywhere.** Take any condition, any list of conditions and any
amounts. Each of them succeeds wherever it is written or nowhere, and if it fails, then with the
same error. What is written is the text of one template, with numbers from behind the values that
are bound already, and its own values are bound behind those. A condition that fails binds nothing;
a clause that fails binds what the conditions before the failing one compare with, and amounts that
fail bind those before the one that is out of range. -/
theorem ParamList.written_anywhere (c : Condition) (conditions : List Condition)
    (pages : Pagination) :
    ((¬c.IsRenderable ∧ ∃ e, ∀ p, c.render p = (.error e, p))
        ∨ (c.IsRenderable ∧ ∃ t : Template, t.IsOf [c]
          ∧ ∀ p, c.render p = (.ok (t.text p.size), p.append c.values)))
      ∧ ((∃ front failing rest e, conditions = front ++ failing :: rest
            ∧ (∀ b ∈ front, b.IsRenderable) ∧ ¬failing.IsRenderable
            ∧ ∀ p, failing.render p = (.error e, p)
              ∧ Where.render conditions p = (.error e, p.append (front.flatMap Condition.values)))
        ∨ ((∀ b ∈ conditions, b.IsRenderable) ∧ ∃ t : Template, t.IsOf conditions
          ∧ ∀ p, Where.render conditions p
            = (.ok (if conditions = [] then none else some (t.text p.size)),
              p.append (conditions.flatMap Condition.values))))
      ∧ ((∃ front failing rest e, pages.amounts = front ++ failing :: rest
            ∧ (∀ item ∈ front, item.2.toNat < 2 ^ (63 : Nat)) ∧ 2 ^ (63 : Nat) ≤ failing.2.toNat
            ∧ ∀ p : ParamList, p.render pages.rendering
              = (.error e, p.append (front.map fun item => Pagination.amountValue item.2)))
        ∨ ((∀ item ∈ pages.amounts, item.2.toNat < 2 ^ (63 : Nat))
          ∧ ∀ p : ParamList, p.render pages.rendering
            = (.ok ((pages.amounts.zipIdx (p.size + 1)).map fun item =>
                item.1.1 ++ " " ++ placeholder item.2), p.append pages.values))) := by
  refine ⟨?_, ?_, pages.render_cases⟩
  · cases h : c.part with
    | error e =>
      exact .inl ⟨Condition.not_isRenderable_of_part h, e, Condition.render_of_part_error h⟩
    | ok f =>
      refine .inr ⟨Condition.isRenderable_of_part h, _, Condition.isOf_of_part h, fun p => ?_⟩
      rw [Condition.render_of_part h, Fragment.text_template, Nat.zero_add]
  · obtain ⟨front, failing, rest, e, hconditions, hfront, he, hrender⟩ | hwritten :=
      Where.render_cases conditions
    · exact .inl
        ⟨front, failing, rest, e, hconditions, hfront, Condition.not_isRenderable_of_part he,
        fun p => ⟨Condition.render_of_part_error he p, hrender p⟩⟩
    · exact .inr hwritten

end PgStatement
