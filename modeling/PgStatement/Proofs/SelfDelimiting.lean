import Mathlib.Data.List.Forall2
import PgStatement.Proofs.Constant
import PgStatement.Proofs.Identifier
import PgStatement.Proofs.Result

/-!
# Literals end where they end

A default is written into the middle of a statement, and the server finds out by reading it where it
ends. What it reads is defined here: tokens from left to right, a quoted string up to the first
quote that no other quote follows, and every other token for as long as it goes on
(`SqlToken.token?`); and then a constant from its tokens, an array from as many as it takes
(`SqlToken.constant?`).

Behind a literal stands a comma, a parenthesis, a bracket, a blank or nothing, and none of these
goes on a token. So the reader stops at the end of the literal wherever it is written, and has what
the value is: nothing in a quoted text ends it early, and nothing behind it is taken for a part of
it (`Value.literal_selfDelimiting`).
-/

namespace PgStatement

/-- **What a constant is read as.** -/
inductive SqlConstant where
  /-- A keyword. -/
  | keyword (word : List Char)
  /-- A number with a minus sign or without. -/
  | number (negative : Bool) (text : List Char)
  /-- A quoted string, each pair of quotes in it read as one. -/
  | quoted (content : List Char)
  /-- An array. -/
  | array (elements : List SqlConstant)

/-! ## The reader -/

/-- Reads on behind an opening quote. The string ends at the first quote that no other one
follows. -/
def Quote.close? : List Char → Option (List Char × List Char)
  | [] => none
  | '\'' :: '\'' :: rest => (close? rest).map (Prod.map ('\'' :: ·) id)
  | c :: rest => if c = '\'' then some ([], rest) else (close? rest).map (Prod.map (c :: ·) id)

/-- A token of a constant. -/
inductive SqlToken where
  | word (text : List Char)
  | number (text : List Char)
  | quoted (content : List Char)
  /-- Any other character. -/
  | mark (c : Char)

namespace SqlToken

/-- Whether a character goes on a word or a number. -/
def goesOn (c : Char) : Bool := Identifier.isFollowing c || c == '.'

/-- **The first token of a text**, and the text behind it. -/
def token? : List Char → Option (SqlToken × List Char)
  | [] => none
  | c :: cs =>
    if c.isWhitespace then token? cs
    else if c = '\'' then (Quote.close? cs).map (Prod.map .quoted id)
    else if Text.isDecimalDigit c || Identifier.isStart c then
      let run := c :: cs.takeWhile goesOn
      some (if Text.isDecimalDigit c then .number run else .word run, cs.dropWhile goesOn)
    else some (.mark c, cs)

mutual

/-- The constant that a text begins with, and the text behind it. No constant takes more steps than
it has characters. -/
def constantIn? : (steps : Nat) → List Char → Option (SqlConstant × List Char)
  | 0, _ => none
  | steps + 1, cs =>
    match token? cs with
    | some (.quoted content, rest) => some (.quoted content, rest)
    | some (.number text, rest) => some (.number false text, rest)
    | some (.mark '-', rest) =>
      match token? rest with
      | some (.number text, rest) => some (.number true text, rest)
      | _ => none
    | some (.word text, rest) =>
      if text = "ARRAY".toList then
        match token? rest with
        | some (.mark '[', rest) =>
          match token? rest with
          | some (.mark ']', rest) => some (.array [], rest)
          | _ => (elementsIn? steps rest).map (Prod.map .array id)
        | _ => none
      else some (.keyword text, rest)
    | _ => none

/-- One or more elements of an array up to its closing bracket, and the text behind that. -/
def elementsIn? : (steps : Nat) → List Char → Option (List SqlConstant × List Char)
  | 0, _ => none
  | steps + 1, cs =>
    match constantIn? steps cs with
    | some (element, rest) =>
      match token? rest with
      | some (.mark ']', rest) => some ([element], rest)
      | some (.mark ',', rest) => (elementsIn? steps rest).map (Prod.map (element :: ·) id)
      | _ => none
    | none => none

end

/-- **Reads the constant that a text begins with**; what is left is the text behind it. -/
def constant? (cs : List Char) : Option (SqlConstant × List Char) := constantIn? cs.length cs

/-- A text that goes on nothing written before it. -/
def Apart (rest : List Char) : Prop := ∀ c ∈ rest.head?, goesOn c = false ∧ c ≠ '\''

/-! ## Tokens -/

variable {c : Char} {cs rest : List Char}

/-- A string whose quotes are all in pairs is closed by the quote behind it, unless one more
follows. -/
theorem close?_of_undouble? {content : List Char} (h : Quote.undouble? cs = some content)
    (hrest : Apart rest) : Quote.close? (cs ++ '\'' :: rest) = some (content, rest) := by
  induction cs using Quote.undouble?.induct generalizing content with
  | case1 =>
    obtain rfl : [] = content := Option.some.inj h
    cases rest with
    | nil => rfl
    | cons d rest =>
      have hd : d ≠ '\'' := (hrest d rfl).2
      rw [List.nil_append, Quote.close?, if_pos rfl]
      exact fun _ _ h => absurd (List.cons.inj h).1 hd
  | case2 cs ih =>
    rw [Quote.undouble?, Option.map_eq_some_iff] at h
    obtain ⟨more, hmore, rfl⟩ := h
    rw [List.cons_append, List.cons_append, Quote.close?, ih hmore]
    rfl
  | case3 cs hpair =>
    rw [Quote.undouble?, if_pos rfl] at h
    · cases h
    · exact hpair
  | case4 c cs hpair hc ih =>
    rw [Quote.undouble?, if_neg hc, Option.map_eq_some_iff] at h
    · obtain ⟨more, hmore, rfl⟩ := h
      rw [List.cons_append, Quote.close?, if_neg hc, ih hmore]
      · rfl
      · exact fun _ h => absurd h hc
    · exact hpair

theorem token?_quoted {content : List Char} (h : Quote.undouble? cs = some content)
    (hrest : Apart rest) :
    token? ('\'' :: (cs ++ '\'' :: rest)) = some (.quoted content, rest) := by
  rw [token?, if_neg (by decide), if_pos rfl, close?_of_undouble? h hrest]
  rfl

/-- **A number or a word ends** where nothing goes it on. -/
theorem token?_run (hc : (Text.isDecimalDigit c || Identifier.isStart c) = true)
    (hcs : ∀ c ∈ cs, goesOn c = true) (hrest : Apart rest) :
    token? (c :: (cs ++ rest))
      = some (if Text.isDecimalDigit c then .number (c :: cs) else .word (c :: cs), rest) := by
  obtain ⟨htake, hdrop⟩ := Text.span_append hcs fun c hc => (hrest c hc).1
  have hblank : ¬c.isWhitespace = true := by
    intro h
    simp only [Char.isWhitespace, Bool.or_eq_true, decide_eq_true_eq] at h
    rcases h with ((rfl | rfl) | rfl) | rfl <;> cases hc
  have hquote : c ≠ '\'' := by
    rintro rfl
    cases hc
  rw [token?, if_neg hblank, if_neg hquote, if_pos hc, htake, hdrop]

theorem token?_mark (hc : c = '[' ∨ c = ']' ∨ c = ',' ∨ c = '-') (cs : List Char) :
    token? (c :: cs) = some (.mark c, cs) := by
  obtain rfl | rfl | rfl | rfl := hc <;> rfl

theorem token?_blank (cs : List Char) : token? (' ' :: cs) = token? cs := by
  rw [token?, if_pos (by decide)]

/-! ## Constants -/

/-- **A text is read as a constant** wherever nothing goes it on. -/
def ReadsAs (cs : List Char) (k : SqlConstant) : Prop :=
  ∀ rest steps, Apart rest → cs.length ≤ steps → constantIn? steps (cs ++ rest) = some (k, rest)

theorem constantIn?_blank (steps : Nat) (cs : List Char) :
    constantIn? steps (' ' :: cs) = constantIn? steps cs := by
  cases steps with
  | zero => rfl
  | succ steps => rw [constantIn?, constantIn?, token?_blank]

theorem elementsIn?_blank (steps : Nat) (cs : List Char) :
    elementsIn? steps (' ' :: cs) = elementsIn? steps cs := by
  cases steps with
  | zero => rfl
  | succ steps => rw [elementsIn?, elementsIn?, constantIn?_blank]

theorem readsAs_quoted {content : List Char} (h : Quote.undouble? cs = some content) :
    ReadsAs ('\'' :: (cs ++ ['\''])) (.quoted content) := by
  rintro rest (_ | steps) hrest hsteps
  · cases hsteps
  · rw [List.cons_append, List.append_assoc, List.singleton_append, constantIn?,
      token?_quoted h hrest]

theorem readsAs_keyword (hdigit : Text.isDecimalDigit c = false) (hc : Identifier.isStart c = true)
    (hcs : ∀ c ∈ cs, goesOn c = true) (harray : c :: cs ≠ "ARRAY".toList) :
    ReadsAs (c :: cs) (.keyword (c :: cs)) := by
  rintro rest (_ | steps) hrest hsteps
  · cases hsteps
  · rw [List.cons_append, constantIn?, token?_run (Bool.or_eq_true_iff.mpr (.inr hc)) hcs hrest,
      if_neg (Bool.eq_false_iff.mp hdigit)]
    exact if_neg harray

/-- A decimal number is one token. -/
theorem exists_cons_of_isUnsigned {text : List Char} {q : ℚ} (h : Text.IsUnsigned text q) :
    ∃ c cs, text = c :: cs ∧ Text.isDecimalDigit c = true ∧ ∀ c ∈ cs, goesOn c = true := by
  have hdigit : ∀ c, Text.isDecimalDigit c = true → goesOn c = true := fun c hc => by
    rw [goesOn, Identifier.isFollowing_of_isDecimalDigit hc, Bool.true_or]
  have hcons {digits fraction : List Char} (hdigits : Text.IsDigits digits)
      (hfraction : ∀ c ∈ fraction, goesOn c = true) :
      ∃ c cs, digits ++ fraction = c :: cs ∧ Text.isDecimalDigit c = true
        ∧ ∀ c ∈ cs, goesOn c = true := by
    obtain ⟨hne, hdigits⟩ := hdigits
    obtain ⟨c, cs, rfl⟩ := List.exists_cons_of_ne_nil hne
    rw [List.forall_mem_cons] at hdigits
    exact ⟨c, cs ++ fraction, rfl, hdigits.1, List.forall_mem_append.mpr
      ⟨fun c hc => hdigit c (hdigits.2 c hc), hfraction⟩⟩
  cases h with
  | integral hdigits =>
    rw [← List.append_nil text]
    exact hcons hdigits nofun
  | fractional hdigits hfraction =>
    exact hcons hdigits (List.forall_mem_cons.mpr
      ⟨by decide, fun c hc => hdigit c (hfraction.2 c hc)⟩)

theorem readsAs_number {text : List Char} {q : ℚ} (h : Text.IsUnsigned text q) (negative : Bool) :
    ReadsAs ((if negative then ['-'] else []) ++ text) (.number negative text) := by
  obtain ⟨c, cs, rfl, hc, hcs⟩ := exists_cons_of_isUnsigned h
  rintro rest (_ | steps) hrest hsteps
  · cases negative <;> cases hsteps
  · have hnumber : token? (c :: (cs ++ rest)) = some (.number (c :: cs), rest) := by
      rw [token?_run (Bool.or_eq_true_iff.mpr (.inl hc)) hcs hrest, if_pos hc]
    cases negative with
    | false =>
      show constantIn? (steps + 1) (c :: (cs ++ rest)) = _
      rw [constantIn?, hnumber]
    | true =>
      show constantIn? (steps + 1) ('-' :: c :: (cs ++ rest)) = _
      simp only [constantIn?, token?_mark (.inr (.inr (.inr rfl))), hnumber]

/-- What encloses and separates elements goes on none of them. -/
theorem apart_mark (hc : c = '[' ∨ c = ']' ∨ c = ',') (cs : List Char) : Apart (c :: cs) := by
  rintro _ ⟨⟩
  obtain rfl | rfl | rfl := hc <;> decide

theorem elementsIn?_last {steps : Nat} {k : SqlConstant}
    (h : constantIn? steps cs = some (k, ']' :: rest)) :
    elementsIn? (steps + 1) cs = some ([k], rest) := by
  simp only [elementsIn?, h, token?_mark (.inr (.inl rfl))]

theorem elementsIn?_more {steps : Nat} {k : SqlConstant} {ks : List SqlConstant}
    {more : List Char} (h : constantIn? steps cs = some (k, ',' :: more))
    (hmore : elementsIn? steps more = some (ks, rest)) :
    elementsIn? (steps + 1) cs = some (k :: ks, rest) := by
  simp only [elementsIn?, h, token?_mark (.inr (.inr (.inl rfl))), hmore]
  rfl

/-- **The elements of an array are read one by one**, and after them its closing bracket. -/
theorem elementsIn?_texts {text : List Char} {texts : List (List Char)} {k : SqlConstant}
    {ks : List SqlConstant} (h : ReadsAs text k) (hs : List.Forall₂ ReadsAs texts ks)
    (rest : List Char) (steps : Nat)
    (hsteps : (", ".toList.intercalate (text :: texts)).length < steps) :
    elementsIn? steps (", ".toList.intercalate (text :: texts) ++ ']' :: rest)
      = some (k :: ks, rest) := by
  obtain ⟨steps, rfl⟩ := Nat.exists_eq_add_one_of_ne_zero (Nat.ne_zero_of_lt hsteps)
  induction hs generalizing text k steps with
  | nil =>
    rw [List.intercalate_singleton] at hsteps ⊢
    exact elementsIn?_last
      (h _ steps (apart_mark (.inr (.inl rfl)) rest) (Nat.le_of_lt_succ hsteps))
  | @cons next j texts ks hnext _ ih =>
    have hblank : (", ".toList).length = 2 := rfl
    rw [List.intercalate_cons_cons, List.length_append, List.length_append, hblank] at hsteps
    rw [List.intercalate_cons_cons, List.append_assoc, List.append_assoc]
    obtain ⟨steps, rfl⟩ : ∃ fewer, steps = fewer + 1 := ⟨steps - 1, by omega⟩
    refine elementsIn?_more (h _ _ (apart_mark (.inr (.inr rfl)) _) (by omega)) ?_
    exact (elementsIn?_blank _ _).trans (ih hnext steps (by omega))

theorem constantIn?_empty {steps : Nat}
    (h : token? cs = some (.word "ARRAY".toList, '[' :: ']' :: rest)) :
    constantIn? (steps + 1) cs = some (.array [], rest) := by
  simp only [constantIn?, h, if_pos, token?_mark (.inl rfl), token?_mark (.inr (.inl rfl))]

theorem constantIn?_array {steps : Nat} {ks : List SqlConstant} {more : List Char}
    (h : token? cs = some (.word "ARRAY".toList, '[' :: more))
    (helements : elementsIn? steps more = some (ks, rest)) :
    constantIn? (steps + 1) cs = some (.array ks, rest) := by
  -- elements do not begin with a closing bracket
  have hmore : ∀ after, token? more ≠ some (.mark ']', after) := by
    intro after htoken
    match steps with
    | 0 | 1 => cases helements
    | steps + 2 =>
      rw [elementsIn?, constantIn?, htoken] at helements
      cases helements
  simp only [constantIn?, h, if_pos, token?_mark (.inl rfl), helements]
  rfl

/-- **An array is read up to its closing bracket**, whatever stands in its elements. -/
theorem readsAs_array {texts : List (List Char)} {ks : List SqlConstant}
    (h : List.Forall₂ ReadsAs texts ks) :
    ReadsAs ("ARRAY[".toList ++ (", ".toList.intercalate texts ++ [']'])) (.array ks) := by
  rintro rest (_ | steps) - hsteps
  · cases hsteps
  · have hassoc : "ARRAY[".toList ++ (", ".toList.intercalate texts ++ [']']) ++ rest
        = 'A' :: ("RRAY".toList ++ '[' :: (", ".toList.intercalate texts ++ ']' :: rest)) := by
      rw [List.append_assoc, List.append_assoc]
      rfl
    have hword :
        token? ('A' :: ("RRAY".toList ++ '[' :: (", ".toList.intercalate texts ++ ']' :: rest)))
          = some (.word "ARRAY".toList, '[' :: (", ".toList.intercalate texts ++ ']' :: rest)) :=
      token?_run rfl (List.all_eq_true.mp rfl) (apart_mark (.inl rfl) _)
    rw [hassoc]
    cases h with
    | nil => exact constantIn?_empty hword
    | cons htext htexts =>
      refine constantIn?_array hword (elementsIn?_texts htext htexts rest steps ?_)
      have hlength : ("ARRAY[".toList).length = 6 := rfl
      rw [List.length_append, List.length_append, hlength] at hsteps
      omega

end SqlToken

/-! ## Literals -/

namespace Value

/-- **What a value is read as.** The digits of an integer denote it, and a quoted string holds the
text of the value. -/
inductive IsReadAs : Value → SqlConstant → Prop where
  | null : IsReadAs .null (.keyword "NULL".toList)
  | true : IsReadAs (.bool true) (.keyword "TRUE".toList)
  | false : IsReadAs (.bool false) (.keyword "FALSE".toList)
  | int {i : Int64} {digits : List Char} (hdigits : Text.IsDigits digits)
    (hvalue : Text.ofDecimalChars digits = i.toInt.natAbs) :
    IsReadAs (.int i) (.number (decide (i.toInt < 0)) digits)
  | float {d : Double} {text : List Char} {q : ℚ} (h : Text.IsUnsigned text q)
    (hnearest : Format.binary64.IsNearest q d.pattern) :
    IsReadAs (.float d) (.number d.isNegative text)
  | quoted {v : Value} {content : List Char} (h : v.IsQuotedAs content) :
    IsReadAs v (.quoted content)
  | list {items : List Value} {elements : List SqlConstant}
    (hlength : items.length = elements.length)
    (h : ∀ item ∈ items.zip elements, IsReadAs item.1 item.2) :
    IsReadAs (.list items) (.array elements)

/-- The constant that the literal of a value is read as wherever nothing goes it on. -/
theorem exists_readsAs_literal {v : Value} (h : v.IsFinite) :
    ∃ k, v.IsReadAs k ∧ SqlToken.ReadsAs v.literal.toList k := by
  induction h with
  | @float d h =>
    obtain ⟨text, q, htext, hunsigned, hnearest⟩ := Double.toList_text_literal h
    refine ⟨_, .float hunsigned hnearest, ?_⟩
    rw [literal, htext]
    exact SqlToken.readsAs_number hunsigned d.isNegative
  | @list items _ ih =>
    obtain ⟨elements, helements⟩ := exists_forall₂_of_forall ih
    obtain ⟨hlength, hzip⟩ := List.forall₂_iff_zip.mp helements
    refine ⟨_, .list hlength fun item hitem => (hzip hitem).1, ?_⟩
    rw [toList_literal_list]
    refine SqlToken.readsAs_array ?_
    rw [List.forall₂_map_left_iff]
    exact helements.imp fun _ _ h => h.2
  | @other v hfloat hlist =>
    obtain ⟨s, hliteral, hquoted⟩ | rfl | ⟨b, rfl⟩ | ⟨i, rfl⟩ | ⟨d, rfl⟩ | ⟨items, rfl⟩ :=
      literal_cases v
    · refine ⟨_, .quoted hquoted, ?_⟩
      rw [hliteral, Quote.toList_literal]
      exact SqlToken.readsAs_quoted (Quote.undouble?_double s.toList)
    · exact ⟨_, .null, SqlToken.readsAs_keyword rfl rfl (List.all_eq_true.mp rfl) (by decide)⟩
    · cases b with
      | true =>
        exact ⟨_, .true, SqlToken.readsAs_keyword rfl rfl (List.all_eq_true.mp rfl) (by decide)⟩
      | false =>
        exact ⟨_, .false, SqlToken.readsAs_keyword rfl rfl (List.all_eq_true.mp rfl) (by decide)⟩
    · have hdigits := Text.isDigits_decimalChars i.toInt.natAbs
      refine ⟨_, .int hdigits (Text.ofDecimalChars_decimalChars _), ?_⟩
      rw [literal, Text.toList_signedDecimal]
      have hread := SqlToken.readsAs_number (.integral hdigits) (decide (i.toInt < 0))
      simpa only [decide_eq_true_eq] using hread
    · exact absurd rfl (hfloat d)
    · exact absurd rfl (hlist items)

/-- **Literals are read alone, and as what they stand for.** Whatever a value holds that has no
number but finite ones, and however deep its arrays are: of its literal, with nothing, a comma, a
parenthesis, a bracket or a blank behind it, the reader takes exactly the literal. -/
theorem literal_selfDelimiting {v : Value} (hv : v.IsFinite) {rest : List Char}
    (hrest : ∀ c ∈ rest.head?, c = ',' ∨ c = ')' ∨ c = ']' ∨ c = ' ') :
    ∃ k, v.IsReadAs k ∧ SqlToken.constant? (v.literal.toList ++ rest) = some (k, rest) := by
  obtain ⟨k, hk, hread⟩ := exists_readsAs_literal hv
  refine ⟨k, hk, hread rest _ (fun c hc => ?_) ?_⟩
  · rcases hrest c hc with rfl | rfl | rfl | rfl <;> decide
  · rw [List.length_append]
    exact Nat.le_add_right _ _

/-- The inner one of two arrays. -/
def within : Value :=
  .list [.int (-5), .json (.object [("a'", .array [.float ⟨0x4480f0cf064dd592⟩, .null])]), .list []]

/-- What it is read as. -/
def withinConstant : SqlConstant :=
  .array [.number true "5".toList, .quoted "\x7b\"a'\":[1e+22,null]\x7d".toList, .array []]

/-- Values of all kinds that are quoted or have digits, in two arrays. -/
def nested : Value :=
  .list [.text "it's], '", .bytes [0x00, 0xff], .float ⟨0xbfb999999999999a⟩,
    .date ⟨11016, by decide⟩,
    .timestamp ⟨951827696, 789000000, by decide, by decide, by decide⟩,
    .uuid ⟨[0x55, 0x0e, 0x84, 0x00, 0xe2, 0x9b, 0x41, 0xd4, 0xa7, 0x16, 0x44, 0x66, 0x55, 0x44, 0,
      1], rfl⟩,
    within]

/-- What they are read as. -/
def nestedConstant : SqlConstant :=
  .array [.quoted "it's], '".toList, .quoted "\\x00ff".toList, .number true "0.1".toList,
    .quoted "2000-02-29".toList, .quoted "2000-02-29T12:34:56.789+00:00".toList,
    .quoted "550e8400-e29b-41d4-a716-446655440001".toList, withinConstant]

theorem isFinite_nested : nested.IsFinite := by
  have hother {v : Value} {items : List Value} (hfloat : ∀ d, v ≠ .float d)
      (hlist : ∀ items, v ≠ .list items) (h : ∀ item ∈ items, item.IsFinite) :
      ∀ item ∈ v :: items, item.IsFinite :=
    List.forall_mem_cons.mpr ⟨.other hfloat hlist, h⟩
  have hinner : ∀ item ∈ [Value.list []], item.IsFinite :=
    List.forall_mem_singleton.mpr (.list nofun)
  refine .list (hother nofun nofun (hother nofun nofun (List.forall_mem_cons.mpr
    ⟨.float rfl, hother nofun nofun (hother nofun nofun (hother nofun nofun ?_))⟩)))
  exact List.forall_mem_singleton.mpr (.list (hother nofun nofun (hother nofun nofun hinner)))

theorem readsAs_nested : SqlToken.ReadsAs nested.literal.toList nestedConstant := by
  have hquoted {s : String} (content : String) (h : s = content) :
      SqlToken.ReadsAs (Quote.literal s).toList (.quoted content.toList) := by
    rw [h, Quote.toList_literal]
    exact SqlToken.readsAs_quoted (Quote.undouble?_double content.toList)
  have hnumber {s : String} {text : List Char} {q : ℚ} (htext : Text.IsUnsigned text q)
      (h : s.toList = '-' :: text) : SqlToken.ReadsAs s.toList (.number true text) :=
    h ▸ SqlToken.readsAs_number htext true
  have hdigit {c : Char} (h : Text.isDecimalDigit c = true) : Text.IsDigits [c] :=
    ⟨List.cons_ne_nil c [], List.forall_mem_singleton.mpr h⟩
  have hfive : Text.IsUnsigned ['5'] _ := .integral (hdigit rfl)
  have htenth := @Text.IsUnsigned.fractional ['0'] ['1'] (hdigit rfl) (hdigit rfl)
  have hwithin : SqlToken.ReadsAs within.literal.toList withinConstant := by
    rw [within, toList_literal_list]
    refine SqlToken.readsAs_array (.cons (hnumber hfive ?_) (.cons (hquoted _ ?_)
      (.cons (SqlToken.readsAs_array .nil) .nil)))
    all_goals decide +kernel
  rw [nested, toList_literal_list]
  refine SqlToken.readsAs_array (.cons (hquoted _ rfl) (.cons (hquoted _ ?_)
    (.cons (hnumber htenth ?_) (.cons (hquoted _ ?_) (.cons (hquoted _ ?_)
      (.cons (hquoted _ ?_) (.cons hwithin .nil)))))))
  all_goals decide +kernel

/-- Quotes and brackets in a text are not those of an array around it. -/
theorem literal_nested_selfDelimiting :
    nested.literal = "ARRAY['it''s], ''', '\\x00ff', -0.1, '2000-02-29', "
        ++ "'2000-02-29T12:34:56.789+00:00', '550e8400-e29b-41d4-a716-446655440001', "
        ++ "ARRAY[-5, '\x7b\"a''\":[1e+22,null]\x7d', ARRAY[]]]"
      ∧ nested.IsReadAs nestedConstant
      ∧ SqlToken.constant? (nested.literal.toList ++ ", 'x'".toList)
        = some (nestedConstant, ", 'x'".toList) := by
  have hrest : ∀ c ∈ (", 'x'".toList).head?, c = ',' ∨ c = ')' ∨ c = ']' ∨ c = ' ' := by
    rintro _ ⟨⟩
    exact .inl rfl
  obtain ⟨k, hk, hread⟩ := literal_selfDelimiting isFinite_nested hrest
  have hliteral : nested.literal = "ARRAY['it''s], ''', '\\x00ff', -0.1, '2000-02-29', "
      ++ "'2000-02-29T12:34:56.789+00:00', '550e8400-e29b-41d4-a716-446655440001', "
      ++ "ARRAY[-5, '\x7b\"a''\":[1e+22,null]\x7d', ARRAY[]]]" := by decide +kernel
  have hconstant : SqlToken.constant? (nested.literal.toList ++ ", 'x'".toList)
      = some (nestedConstant, ", 'x'".toList) := by
    refine readsAs_nested _ _ (SqlToken.apart_mark (.inr (.inr rfl)) _) ?_
    rw [List.length_append]
    exact Nat.le_add_right _ _
  obtain ⟨rfl, -⟩ := Prod.mk.inj (Option.some.inj (hread.symm.trans hconstant))
  exact ⟨hliteral, hk, hread⟩

end Value

end PgStatement
