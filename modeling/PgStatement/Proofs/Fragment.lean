import PgStatement.ParamList
import PgStatement.Proofs.Result

/-!
# Fragments of statements

The parts of a statement are written one after the other against one list of values, and each step
may change the list. What comes of it can be told without the list. A `Fragment` is a sequence of
pieces each of which is written text or a bound value, and fragments are put together by appending.
Numbering them comes last: where a value stands, the text has its placeholder, and the values
themselves are the parameters, in order. How many values were bound before matters for the numbers
alone (`Fragment.spell`).

What is written against a list is shown to be some fragment bound to that list
(`ParamList.bindPart`, `ParamList.bindParts`), and what holds of all statements is then shown of
fragments.
-/

namespace PgStatement

/-- A piece of a statement. -/
inductive Piece where
  /-- Text, as it is written. -/
  | raw (text : String)
  /-- A bound value, written as a placeholder. -/
  | value (v : Value)

/-- **Text with values in it.** -/
abbrev Fragment := List Piece

namespace Fragment

/-- The bound values, in order. -/
def values : Fragment → List Value
  | [] => []
  | .raw _ :: rest => values rest
  | .value v :: rest => v :: values rest

/-- The pieces as they are written when so many values were bound before. -/
def spell (bound : Nat) : Fragment → List String
  | [] => []
  | .raw text :: rest => text :: spell bound rest
  | .value _ :: rest => placeholder (bound + 1) :: spell (bound + 1) rest

/-- **The text of a fragment** when so many values were bound before. -/
def text (bound : Nat) (f : Fragment) : String := String.join (spell bound f)

/-- Fragments one after the other, with a text between. -/
def join (separator : String) : List Fragment → Fragment
  | [] => []
  | [f] => f
  | f :: fs => f ++ .raw separator :: join separator fs

@[simp] theorem values_append (a b : Fragment) : values (a ++ b) = values a ++ values b := by
  induction a with
  | nil => rfl
  | cons piece a ih => cases piece <;> simp [values, ih]

/-- What follows is numbered after what is bound before it. -/
theorem spell_append (bound : Nat) (a b : Fragment) :
    spell bound (a ++ b) = spell bound a ++ spell (bound + (values a).length) b := by
  induction a generalizing bound with
  | nil => rfl
  | cons piece a ih =>
    cases piece with
    | raw text => simp [spell, values, ih]
    | value v =>
      have hbound : bound + 1 + (values a).length = bound + (values (.value v :: a)).length := by
        rw [values, List.length_cons]
        omega
      rw [List.cons_append, spell, ih, hbound, spell, List.cons_append]

/-- The text of an appended fragment continues the numbering. -/
theorem text_append (bound : Nat) (a b : Fragment) :
    text bound (a ++ b) = text bound a ++ text (bound + (values a).length) b := by
  rw [text, spell_append, String.join_append]
  rfl

/-- Several fragments, each numbered after the ones before it. -/
def texts : (bound : Nat) → List Fragment → List String
  | _, [] => []
  | bound, f :: fs => text bound f :: texts (bound + (values f).length) fs

/-! ### Texts and values of fragments that are put together -/

theorem text_nil (bound : Nat) : text bound [] = "" := rfl

theorem text_raw (bound : Nat) (t : String) (f : Fragment) :
    text bound (.raw t :: f) = t ++ text bound f := by
  rw [text, spell, String.join_cons, text]

theorem text_value (bound : Nat) (v : Value) (f : Fragment) :
    text bound (.value v :: f) = placeholder (bound + 1) ++ text (bound + 1) f := by
  rw [text, spell, String.join_cons, text]

theorem text_join (bound : Nat) (separator : String) (fs : List Fragment) :
    text bound (join separator fs) = separator.intercalate (texts bound fs) := by
  induction fs generalizing bound with
  | nil => rfl
  | cons f fs ih =>
    cases fs with
    | nil => rw [join, texts, texts, String.intercalate_singleton]
    | cons g fs =>
      rw [join, text_append, text_raw, ih]
      · show _ = separator.intercalate (text bound f :: text _ g :: texts _ fs)
        rw [String.intercalate_cons_cons, String.append_assoc]
        rfl
      · exact List.cons_ne_nil _ _

/-- The texts of fragments, one after the other. -/
theorem join_texts (bound : Nat) (fs : List Fragment) :
    String.join (texts bound fs) = text bound fs.flatten := by
  induction fs generalizing bound with
  | nil => rfl
  | cons f fs ih => rw [texts, String.join_cons, ih, List.flatten_cons, text_append]

theorem values_join (separator : String) (fs : List Fragment) :
    (join separator fs).values = fs.flatMap values := by
  induction fs with
  | nil => rfl
  | cons f fs ih =>
    cases fs with
    | nil => exact (List.append_nil _).symm
    | cons g fs =>
      show (f ++ .raw separator :: join separator (g :: fs) : Fragment).values = _
      rw [values_append]
      exact congrArg (values f ++ ·) ih

theorem values_flatten (fs : List Fragment) : values fs.flatten = fs.flatMap values := by
  induction fs with
  | nil => rfl
  | cons f fs ih => rw [List.flatten_cons, values_append, ih, List.flatMap_cons]

/-- Values that are listed are the values of the list. -/
theorem flatMap_values_singleton (vs : List Value) :
    (vs.map fun v => ([.value v] : Fragment)).flatMap values = vs := by
  induction vs with
  | nil => rfl
  | cons v vs ih => rw [List.map_cons, List.flatMap_cons, ih]; rfl

/-- Values in parentheses, with commas between. -/
def tuple (vs : List Value) : Fragment :=
  .raw "(" :: join ", " (vs.map fun v => [.value v]) ++ [.raw ")"]

theorem values_tuple (vs : List Value) : (tuple vs).values = vs := by
  rw [tuple, List.cons_append, values, values_append, values_join, flatMap_values_singleton]
  exact List.append_nil vs

theorem text_tuple (bound : Nat) (vs : List Value) :
    (tuple vs).text bound
      = "(" ++ ", ".intercalate (texts bound (vs.map fun v => [.value v])) ++ ")" := by
  rw [tuple, List.cons_append, text_raw, text_append, text_join, text_raw, text_nil,
    String.append_empty, String.append_assoc]

end Fragment

/-! ## Parts that may fail

A clause is made of parts, and a part may be faulty. What comes of writing them in order is the
parts before the first faulty one, and the error of that one. The parts before it stay bound. -/

/-- **What comes of writing parts in order.** -/
structure Rendering where
  /-- The parts that were written. -/
  parts : List Fragment
  /-- The error of the first part that was not. -/
  error? : Option Error

namespace Rendering

/-- Writes parts up to the first faulty one. -/
def ofParts : List (Except Error Fragment) → Rendering
  | [] => ⟨[], none⟩
  | .error e :: _ => ⟨[], some e⟩
  | .ok part :: rest =>
    let rendering := ofParts rest
    ⟨part :: rendering.parts, rendering.error?⟩

/-- The values of the parts that were written. -/
def values (r : Rendering) : List Value := r.parts.flatMap Fragment.values

/-- All parts, or the error. -/
def result (r : Rendering) : Except Error (List Fragment) :=
  match r.error? with
  | none => .ok r.parts
  | some e => .error e

/-- A clause is written if its first part is and the others are. -/
theorem result_ofParts_cons (part : Except Error Fragment) (rest : List (Except Error Fragment)) :
    (ofParts (part :: rest)).result
      = part >>= fun f => (f :: ·) <$> (ofParts rest).result := by
  cases part with
  | error e => rfl
  | ok f =>
    show (ofParts (.ok f :: rest)).result = (f :: ·) <$> (ofParts rest).result
    unfold result
    rw [ofParts]
    cases (ofParts rest).error? <;> rfl

theorem parts_of_result {r : Rendering} {fs : List Fragment} (h : r.result = .ok fs) :
    r.parts = fs := by
  unfold result at h
  split at h
  · exact Except.ok.inj h
  · cases h

theorem result_ofParts_map {α : Type} (part : α → Except Error Fragment) (items : List α) :
    (ofParts (items.map part)).result = items.mapM part := by
  induction items with
  | nil => rfl
  | cons a items ih =>
    rw [List.map_cons, result_ofParts_cons, List.mapM_cons, ih]
    rfl

/-- **A clause is written if all of its parts are**, and then it is these parts. -/
theorem result_ofParts_eq_ok_iff {parts : List (Except Error Fragment)} {fs : List Fragment} :
    (ofParts parts).result = .ok fs ↔ parts = fs.map .ok := by
  induction parts generalizing fs with
  | nil =>
    show Except.ok [] = .ok fs ↔ _
    rw [Except.ok.injEq, eq_comm, @eq_comm _ _ (fs.map _), List.map_eq_nil_iff]
  | cons part rest ih =>
    rw [result_ofParts_cons, bind_eq_ok_iff]
    constructor
    · rintro ⟨f, rfl, h⟩
      obtain ⟨gs, hgs, rfl⟩ := map_eq_ok_iff.mp h
      rw [ih.mp hgs, List.map_cons]
    · intro h
      cases fs with
      | nil => exact absurd h (List.cons_ne_nil _ _)
      | cons f fs =>
        rw [List.map_cons, List.cons.injEq] at h
        exact ⟨f, h.1, map_eq_ok_iff.mpr ⟨fs, ih.mpr h.2, rfl⟩⟩

end Rendering

/-- **Clauses agree** if their parts do. -/
theorem Agree.result_ofParts {R : Fragment → Fragment → Prop}
    {parts others : List (Except Error Fragment)} (h : List.Forall₂ (Agree R) parts others) :
    Agree (List.Forall₂ R) (Rendering.ofParts parts).result (Rendering.ofParts others).result := by
  induction h with
  | nil => exact .ok .nil
  | cons hpart _ ih =>
    rw [Rendering.result_ofParts_cons, Rendering.result_ofParts_cons]
    exact hpart.bind fun _ _ hf => ih.map fun _ _ hfs => .cons hf hfs

/-! ## Fragments bound to a list -/

namespace ParamList

/-- Binds the values of a fragment, and answers its text. What is faulty binds nothing. -/
def bindPart (p : ParamList) : Except Error Fragment → Except Error String × ParamList
  | .ok f => (.ok (f.text p.size), p.append f.values)
  | .error e => (.error e, p)

/-- Binds the values of parts up to the first faulty one, and answers their texts or its error. -/
def bindParts (p : ParamList) (r : Rendering) : Except Error (List String) × ParamList :=
  (Fragment.texts p.size <$> r.result, p.append r.values)

theorem append_nil (p : ParamList) : p.append [] = p := by
  rw [append, List.append_nil]

theorem append_append (p : ParamList) (a b : List Value) :
    (p.append a).append b = p.append (a ++ b) := by
  rw [append, append, append, List.append_assoc]

theorem bindPart_raw (p : ParamList) (s : String) : p.bindPart (.ok [.raw s]) = (.ok s, p) := by
  rw [bindPart, Fragment.text_raw, Fragment.text_nil, String.append_empty]
  exact congrArg (Except.ok s, ·) p.append_nil

theorem bindPart_raw_value (p : ParamList) (s : String) (v : Value) :
    p.bindPart (.ok [.raw s, .value v]) = (.ok (s ++ placeholder (p.size + 1)), p.append [v]) := by
  rw [bindPart, Fragment.text_raw, Fragment.text_value, Fragment.text_nil, String.append_empty]
  rfl

theorem bindParts_nil (p : ParamList) : p.bindParts (.ofParts []) = (.ok [], p) :=
  congrArg (Except.ok [], ·) p.append_nil

theorem bindParts_error (p : ParamList) (e : Error) (rest : List (Except Error Fragment)) :
    p.bindParts (.ofParts (.error e :: rest)) = (.error e, p) :=
  congrArg (Except.error e, ·) p.append_nil

/-- Parts are bound one after the other. -/
theorem bindParts_cons (p : ParamList) (f : Fragment) (rest : List (Except Error Fragment)) :
    p.bindParts (.ofParts (.ok f :: rest))
      = ((f.text p.size :: ·) <$> ((p.append f.values).bindParts (.ofParts rest)).1,
        ((p.append f.values).bindParts (.ofParts rest)).2) := by
  unfold bindParts
  rw [Rendering.result_ofParts_cons, append_append, size_append]
  refine congrArg₂ Prod.mk ?_ rfl
  cases (Rendering.ofParts rest).result <;> rfl

theorem bindParts_of_result {r : Rendering} {fs : List Fragment} (h : r.result = .ok fs)
    (p : ParamList) :
    p.bindParts r = (.ok (Fragment.texts p.size fs), p.append (fs.flatMap Fragment.values)) := by
  rw [bindParts, h, Rendering.values, Rendering.parts_of_result h]
  rfl

/-- Parts of which all are written before others are bound before these. -/
theorem bindParts_append (p : ParamList) (front rest : List (Except Error Fragment)) :
    p.bindParts (.ofParts (front ++ rest)) = match p.bindParts (.ofParts front) with
      | (.ok texts, q) =>
        ((texts ++ ·) <$> (q.bindParts (.ofParts rest)).1, (q.bindParts (.ofParts rest)).2)
      | (.error e, q) => (.error e, q) := by
  induction front generalizing p with
  | nil =>
    rw [List.nil_append, bindParts_nil]
    exact congrArg (·, _) (id_map _).symm
  | cons part front ih =>
    cases part with
    | error e => rw [List.cons_append, bindParts_error, bindParts_error]
    | ok f =>
      rw [List.cons_append, bindParts_cons, bindParts_cons, ih]
      obtain ⟨texts | e, q⟩ := (p.append f.values).bindParts (.ofParts front)
      · rfl
      · exact congrArg (·, _) (Functor.map_map _ _ _)

end ParamList

namespace Writing

variable {α : Type}

/-- **Steps that bind a part each** bind the parts up to the first faulty one. -/
theorem mapM_apply {step : α → Writing String} {part : α → Except Error Fragment}
    (h : ∀ a p, step a p = p.bindPart (part a)) (items : List α) (p : ParamList) :
    items.mapM step p = p.bindParts (.ofParts (items.map part)) := by
  induction items generalizing p with
  | nil => exact p.bindParts_nil.symm
  | cons a items ih =>
    rw [List.mapM_cons, bind_apply, h, List.map_cons]
    cases part a with
    | error e => exact (p.bindParts_error e _).symm
    | ok f =>
      show (items.mapM step >>= fun texts => pure (f.text p.size :: texts) : Writing _) _ = _
      rw [bind_apply, ih, ParamList.bindParts_cons]
      obtain ⟨e | texts, q⟩ := (p.append f.values).bindParts (.ofParts (items.map part)) <;> rfl

/-- A value is a part that is never faulty. -/
theorem value_eq_bindPart (v : Value) (p : ParamList) :
    value v p = p.bindPart (.ok [.value v]) := by
  rw [ParamList.bindPart, Fragment.text_value, Fragment.text_nil, String.append_empty]
  rfl

/-- Parts that are never faulty are all bound. -/
theorem mapM_apply_of_ok {step : α → Writing String} {part : α → Fragment}
    (h : ∀ a p, step a p = p.bindPart (.ok (part a))) (items : List α) (p : ParamList) :
    items.mapM step p = (.ok (Fragment.texts p.size (items.map part)),
      p.append ((items.map part).flatMap Fragment.values)) := by
  have hparts : (Rendering.ofParts (items.map fun a => .ok (part a))).result
      = .ok (items.map part) :=
    Rendering.result_ofParts_eq_ok_iff.mpr (List.map_map).symm
  rw [mapM_apply h, ParamList.bindParts_of_result hparts]

/-- What is written of several values. -/
theorem mapM_value_apply (vs : List Value) (p : ParamList) :
    vs.mapM value p
      = (.ok (Fragment.texts p.size (vs.map fun v => [.value v])), p.append vs) := by
  rw [mapM_apply_of_ok value_eq_bindPart, Fragment.flatMap_values_singleton]

end Writing

end PgStatement
