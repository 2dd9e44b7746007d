import PgStatement.Proofs.Constant
import PgStatement.Proofs.Identifier
import PgStatement.Proofs.Result
import PgStatement.Table.Alter

/-!
# Defaults stay in their place

A default is written into the definition of a column, with more of the statement behind it. It stays
in its place if a reader who comes to the end of it is where he was at its beginning: outside of
strings and comments, with no bracket open that was not open before, and still in the same item of
the list that he reads. `IsEnclosed` reads a text this way, character by character, and is not
concerned with what the text says.

Constants are enclosed (`Value.IsConstant.isEnclosed`), and so are calls of a function without
arguments whose name is an identifier (`isEnclosed_of_isCall`). A default is one or the other
(`Value.default_enclosed`), but for one case. Any text that ends in a pair of parentheses is taken
for a call and written as it is, and nobody looks at what stands before the parentheses; if that is
no identifier, then the text may end the statement and begin another (`Value.default_breaks_out`).
-/

namespace PgStatement

/-! ## Reading past a text -/

namespace Enclosure

/-- What closes a bracket. -/
def closer? : Char → Option Char
  | '(' => some ')'
  | '[' => some ']'
  | _ => none

/-- What may not stand outside of strings: a semicolon, the quote of a quoted name, the beginning of
a comment, and a comma where no bracket is open. -/
def isBreak (closers : List Char) (c : Char) (rest : List Char) : Bool :=
  c == ';' || c == '"' || (c == ',' && closers.isEmpty) || (c == '-' && rest.head? == some '-')
    || (c == '/' && rest.head? == some '*')

/-- **Reads past a text**, with the brackets to be closed, the innermost first, and whether the
reader is in a string. A pair of quotes in a string ends it and begins it again. -/
def scan : (closers : List Char) → (quoted : Bool) → List Char → Bool
  | closers, quoted, [] => closers.isEmpty && !quoted
  | closers, true, c :: rest => scan closers (c != '\'') rest
  | closers, false, c :: rest =>
    if c = '\'' then scan closers true rest
    else
      match closer? c with
      | some closer => scan (closer :: closers) false rest
      | none =>
        if c = ')' ∨ c = ']' then closers.head? == some c && scan closers.tail false rest
        else !isBreak closers c rest && scan closers false rest

/-- A character that means nothing to the reader. -/
def isPlain (c : Char) : Bool := c.isAlphanum || c == '_' || c == '$' || c == '.' || c == ' '

end Enclosure

/-- **A text is enclosed** if a reader passes it and is where he was. -/
def IsEnclosed (cs : List Char) : Prop := Enclosure.scan [] false cs = true

instance (cs : List Char) : Decidable (IsEnclosed cs) := inferInstanceAs (Decidable (_ = true))

namespace Enclosure

variable {closers : List Char} {cs rest : List Char} {c : Char}

/-- Whatever is behind a text, the reader comes to it as he came to the text. -/
def Passes (closers cs : List Char) : Prop :=
  ∀ rest, scan closers false (cs ++ rest) = scan closers false rest

theorem passes_nil : Passes closers [] := fun _ => rfl

theorem Passes.append {ds : List Char} (hc : Passes closers cs) (hd : Passes closers ds) :
    Passes closers (cs ++ ds) := by
  intro rest
  rw [List.append_assoc, hc, hd]

theorem Passes.isEnclosed (h : Passes [] cs) : IsEnclosed cs := by
  have hend := h []
  rw [List.append_nil] at hend
  exact hend

/-- A character outside of strings that is no quote and no bracket is passed if nothing breaks. -/
theorem scan_cons (hquote : c ≠ '\'') (hopen : closer? c = none) (hclose : c ≠ ')' ∧ c ≠ ']')
    (hbreak : isBreak closers c rest = false) :
    scan closers false (c :: rest) = scan closers false rest := by
  rw [scan, if_neg hquote, hopen]
  simp only [hclose.1, hclose.2, or_self, if_false, hbreak, Bool.not_false, Bool.true_and]

theorem passes_plain (h : cs.all isPlain = true) : Passes closers cs := by
  induction cs with
  | nil => exact passes_nil
  | cons c cs ih =>
    rw [List.all_cons, Bool.and_eq_true] at h
    intro rest
    have hne : ∀ d, isPlain d = false → c ≠ d := by
      rintro d hd rfl
      exact absurd h.1 (Bool.eq_false_iff.mp hd)
    have hopen : closer? c = none := by
      unfold closer?
      split
      · exact absurd rfl (hne '(' (by decide))
      · exact absurd rfl (hne '[' (by decide))
      · rfl
    have hbreak : isBreak closers c (cs ++ rest) = false := by
      simp [isBreak, hne ';' (by decide), hne '"' (by decide), hne ',' (by decide),
        hne '-' (by decide), hne '/' (by decide)]
    rw [List.cons_append, scan_cons (hne '\'' (by decide)) hopen
      ⟨hne ')' (by decide), hne ']' (by decide)⟩ hbreak]
    exact ih h.2 rest

/-- A minus sign is passed if no other one is behind it. -/
theorem Passes.minus (h : Passes closers cs) (hne : cs ≠ []) (hhead : cs.head? ≠ some '-') :
    Passes closers ('-' :: cs) := by
  intro rest
  have hbreak : isBreak closers '-' (cs ++ rest) = false := by
    rw [isBreak, List.head?_append_of_ne_nil _ hne]
    simp [hhead]
  rw [List.cons_append, scan_cons (by decide) rfl (by decide) hbreak, h]

theorem passes_comma (h : closers ≠ []) : Passes closers [','] := by
  intro rest
  have hbreak : isBreak closers ',' rest = false := by simp [isBreak, h]
  exact scan_cons (by decide) rfl (by decide) hbreak

/-- What is passed in a bracket is passed with the bracket. -/
theorem Passes.bracket (h : Passes (']' :: closers) cs) :
    Passes closers ('[' :: (cs ++ [']'])) := by
  intro rest
  have hopen (ds : List Char) :
      scan closers false ('[' :: ds) = scan (']' :: closers) false ds := by
    rw [scan]
    rfl
  have hclose : scan (']' :: closers) false (']' :: rest) = scan closers false rest := by
    rw [scan]
    rfl
  rw [List.cons_append, hopen, List.append_assoc, h]
  exact hclose

/-- Texts with commas between are passed in a bracket. -/
theorem passes_intercalate (hclosers : closers ≠ []) {texts : List (List Char)}
    (h : ∀ cs ∈ texts, Passes closers cs) : Passes closers (", ".toList.intercalate texts) := by
  have hblank : Passes closers [' '] := passes_plain rfl
  have hseparator : Passes closers ", ".toList := (passes_comma hclosers).append hblank
  induction texts with
  | nil => exact passes_nil
  | cons cs rest ih =>
    rw [List.forall_mem_cons] at h
    cases rest with
    | nil =>
      rw [List.intercalate_singleton]
      exact h.1
    | cons ds rest =>
      rw [List.intercalate_cons_cons, List.append_assoc]
      exact h.1.append (hseparator.append (ih h.2))

/-- What is quoted is passed: a pair of quotes takes the reader out of the string and back in. -/
theorem passes_quoted {content : List Char} (h : Quote.undouble? cs = some content) :
    Passes closers ('\'' :: (cs ++ ['\''])) := by
  intro rest
  have hopen (ds : List Char) : scan closers false ('\'' :: ds) = scan closers true ds := by
    rw [scan, if_pos rfl]
  suffices hbody : scan closers true (cs ++ '\'' :: rest) = scan closers false rest by
    rw [List.cons_append, hopen, List.append_assoc]
    exact hbody
  fun_induction Quote.undouble? cs generalizing content with
  | case1 => rw [List.nil_append, scan]; rfl
  | case2 cs ih =>
    obtain ⟨more, hmore, -⟩ := Option.map_eq_some_iff.mp h
    have hpair (ds : List Char) :
        scan closers true ('\'' :: '\'' :: ds) = scan closers true ds := by
      rw [scan]
      exact hopen ds
    rw [List.cons_append, List.cons_append, hpair, ih hmore]
  | case3 => cases h
  | case4 c cs _ hc ih =>
    obtain ⟨more, hmore, -⟩ := Option.map_eq_some_iff.mp h
    rw [List.cons_append, scan, bne_iff_ne.mpr hc, ih hmore]

/-- An array of what is passed everywhere is passed. -/
theorem passes_array {texts : List (List Char)} (h : ∀ cs ∈ texts, ∀ closers, Passes closers cs) :
    Passes closers ("ARRAY[".toList ++ (", ".toList.intercalate texts ++ [']'])) := by
  have hitems : Passes (']' :: closers) (", ".toList.intercalate texts) :=
    passes_intercalate (List.cons_ne_nil _ _) fun cs hcs => h cs hcs _
  have harray : Passes closers "ARRAY".toList := passes_plain rfl
  exact harray.append hitems.bracket

/-! ## Constants and calls -/

theorem isPlain_of_isDecimalDigit (h : Text.isDecimalDigit c = true) : isPlain c = true := by
  have hdigit : c.isDigit = true := h
  simp [isPlain, Char.isAlphanum, hdigit]

theorem passes_digits (h : Text.IsDigits cs) : Passes closers cs :=
  passes_plain (List.all_eq_true.mpr fun c hc => isPlain_of_isDecimalDigit (h.2 c hc))

/-- A number is passed with its sign. -/
theorem passes_signed {sign : List Char} (hsign : sign = [] ∨ sign = ['-']) (h : Text.IsDigits cs)
    (hrest : Passes closers rest) : Passes closers (sign ++ (cs ++ rest)) := by
  have hnumber := (passes_digits h).append hrest
  rcases hsign with rfl | rfl
  · exact hnumber
  · refine hnumber.minus (List.append_ne_nil_of_left_ne_nil h.1 _) ?_
    rw [List.head?_append_of_ne_nil _ h.1]
    intro hhead
    exact absurd (h.2 _ (List.mem_of_head? hhead)) (by decide)

end Enclosure

open Enclosure

/-- **Constants are passed**, wherever they stand. -/
theorem Value.IsConstant.passes {v : Value} {cs : List Char} (h : v.IsConstant cs)
    (closers : List Char) : Passes closers cs := by
  induction h generalizing closers with
  | null | true | false => exact passes_plain rfl
  | @int i digits hdigits _ =>
    rw [← List.append_nil digits]
    refine passes_signed ?_ hdigits passes_nil
    split
    · exact .inr rfl
    · exact .inl rfl
  | @float d cs q h _ =>
    have hsign : (if d.isNegative then ['-'] else []) = []
        ∨ (if d.isNegative then ['-'] else []) = ['-'] := by
      split
      · exact .inr rfl
      · exact .inl rfl
    cases h with
    | integral hdigits =>
      rw [← List.append_nil cs]
      exact passes_signed hsign hdigits passes_nil
    | fractional hdigits hfraction =>
      have hpoint : Passes closers ['.'] := passes_plain rfl
      exact passes_signed hsign hdigits (hpoint.append (passes_digits hfraction))
  | quoted _ h => exact passes_quoted h
  | @list items texts hlength _ ih =>
    refine passes_array fun cs hcs closers => ?_
    obtain ⟨item, hitem⟩ : ∃ item, (item, cs) ∈ items.zip texts := by
      rw [← List.map_snd_zip (Nat.le_of_eq hlength.symm)] at hcs
      obtain ⟨⟨item, _⟩, hitem, rfl⟩ := List.mem_map.mp hcs
      exact ⟨item, hitem⟩
    exact ih _ hitem closers

/-- What is written for a number that is not finite is passed, although it is no constant. -/
theorem Double.passes_text {d : Double} (h : d.isFinite = false) (closers : List Char) :
    Passes closers (d.text Layout.literal).toList := by
  have hinf : Passes closers "inf".toList := passes_plain rfl
  rw [text_of_not_isFinite _ h]
  simp only [Layout.literal]
  split
  · exact passes_plain rfl
  · split
    · exact hinf.minus (by decide) (by decide)
    · exact hinf

/-- **Literals are passed**, those of numbers that are not finite as well. -/
theorem Value.passes_literal (v : Value) (closers : List Char) :
    Passes closers v.literal.toList := by
  cases v with
  | float d =>
    cases h : d.isFinite with
    | true => exact (isConstant_literal (.float h)).passes closers
    | false => exact d.passes_text h closers
  | list items =>
    rw [toList_literal_list]
    refine passes_array fun cs hcs closers => ?_
    obtain ⟨item, hitem, rfl⟩ := List.mem_map.mp hcs
    exact passes_literal item closers
  | _ =>
    refine (isConstant_literal (.other ?_ ?_)).passes closers
    all_goals nofun
termination_by v
decreasing_by
  have hlt := List.sizeOf_lt_of_mem hitem
  simp_wf
  omega

/-- A call of a function without arguments, by its name. -/
def IsCall (cs : List Char) : Prop := ∃ name, IsIdentifier name ∧ cs = name.toList ++ "()".toList

theorem isEnclosed_of_isCall {cs : List Char} (h : IsCall cs) : IsEnclosed cs := by
  obtain ⟨name, hname, rfl⟩ := h
  obtain ⟨first, more, htext, hfirst, hmore⟩ := Identifier.exists_cons_of_isIdentifier hname
  have hplain : name.toList.all isPlain = true := by
    rw [htext, List.all_eq_true, List.forall_mem_cons]
    constructor
    · simp only [Identifier.isStart, Bool.or_eq_true, beq_iff_eq] at hfirst
      rcases hfirst with rfl | hletter
      · rfl
      · simp [isPlain, Char.isAlphanum, hletter]
    · intro c hc
      rcases hmore c hc with h | rfl
      · simp only [Identifier.isFollowing, Bool.or_eq_true, beq_iff_eq] at h
        rcases h with (rfl | rfl) | h <;> simp_all [isPlain]
      · rfl
  have hparentheses : Passes [] "()".toList := fun _ => rfl
  exact ((passes_plain hplain).append hparentheses).isEnclosed

/-! ## Defaults -/

namespace Value

/-- A text that ends like a call is something with a pair of parentheses behind it. -/
theorem endsInCall_iff {s : String} : endsInCall s = true ↔ ∃ name, s = name ++ "()" := by
  rw [endsInCall, List.isSuffixOf_iff_suffix]
  constructor
  · rintro ⟨cs, h⟩
    refine ⟨String.ofList cs, String.toList_inj.mp ?_⟩
    rw [String.toList_append, String.toList_ofList, ← h]
    rfl
  · rintro ⟨name, rfl⟩
    exact ⟨name.toList, by rw [String.toList_append]; rfl⟩

/-- A default that is no call is the literal. -/
theorem defaultSql_eq_literal {v : Value} (h : ∀ name, v ≠ .text (name ++ "()")) :
    v.defaultSql = v.literal := by
  cases v with
  | text s =>
    rw [defaultSql, if_neg]
    intro hcall
    obtain ⟨name, rfl⟩ := endsInCall_iff.mp hcall
    exact h name rfl
  | _ => rfl

/-- **Defaults stay in their place.** Unless a value is a text that ends in a pair of parentheses,
its default is enclosed, and it is a constant of the value if no floating-point number in it is
infinite or none. A text that ends so is written as it is; it is a call exactly if an identifier
stands before the parentheses, and then it is enclosed as well. The default of a column and a change
of it write nothing else of the value. -/
theorem default_enclosed (v : Value) :
    ((∀ name, v ≠ .text (name ++ "()")) →
        IsEnclosed v.defaultSql.toList ∧ (v.IsFinite → v.IsConstant v.defaultSql.toList))
      ∧ (∀ name, v = .text (name ++ "()") →
        v.defaultSql = name ++ "()"
          ∧ (IsCall v.defaultSql.toList ↔ IsIdentifier name)
          ∧ (IsIdentifier name → IsEnclosed v.defaultSql.toList))
      ∧ (ColumnConstraint.default v).sql = "DEFAULT " ++ v.defaultSql
      ∧ ∀ column, IsIdentifier column → (AlterOperation.setDefault column v).sql
        = .ok ("ALTER COLUMN " ++ column ++ " SET DEFAULT " ++ v.defaultSql) := by
  refine ⟨fun hcall => ?_, ?_, rfl, fun column hcolumn => ?_⟩
  · rw [defaultSql_eq_literal hcall]
    exact ⟨(v.passes_literal []).isEnclosed, isConstant_literal⟩
  · rintro name rfl
    have hverbatim : defaultSql (.text (name ++ "()")) = name ++ "()" := by
      rw [defaultSql, if_pos (endsInCall_iff.mpr ⟨name, rfl⟩)]
    have hcall : IsCall (name ++ "()").toList ↔ IsIdentifier name := by
      rw [String.toList_append]
      constructor
      · rintro ⟨other, hother, htext⟩
        rw [String.toList_inj.mp (List.append_cancel_right htext)]
        exact hother
      · exact fun hname => ⟨name, hname, rfl⟩
    rw [hverbatim]
    exact ⟨rfl, hcall, fun hname => isEnclosed_of_isCall (hcall.mpr hname)⟩
  · have hcheck : Identifier.check "column" column = .ok () :=
      Identifier.check_eq_ok_iff.mpr hcolumn
    rw [AlterOperation.sql, AlterOperation.onColumn, hcheck]
    rfl

theorem default_enclosed_mixed :
    defaultSql (.list [.text "it's; --", .int (-3), .list [.null, .bool true]])
        = "ARRAY['it''s; --', -3, ARRAY[NULL, TRUE]]"
      ∧ IsConstant (.list [.text "it's; --", .int (-3), .list [.null, .bool true]])
        "ARRAY['it''s; --', -3, ARRAY[NULL, TRUE]]".toList
      ∧ IsEnclosed "ARRAY['it''s; --', -3, ARRAY[NULL, TRUE]]".toList
      ∧ IsCall "pg_catalog.now()".toList ∧ IsEnclosed "pg_catalog.now()".toList := by
  have hfinite : IsFinite (.list [.text "it's; --", .int (-3), .list [.null, .bool true]]) := by
    refine .list fun item hitem => ?_
    simp only [List.mem_cons, List.not_mem_nil, or_false] at hitem
    obtain rfl | rfl | rfl := hitem
    · exact .other nofun nofun
    · exact .other nofun nofun
    · refine .list fun item hitem => ?_
      simp only [List.mem_cons, List.not_mem_nil, or_false] at hitem
      obtain rfl | rfl := hitem <;> exact .other nofun nofun
  have hcheck : Identifier.check "function" "pg_catalog.now" = .ok () := rfl
  have hname : IsIdentifier "pg_catalog.now" := Identifier.check_eq_ok_iff.mp hcheck
  have htext : defaultSql (.list [.text "it's; --", .int (-3), .list [.null, .bool true]])
      = "ARRAY['it''s; --', -3, ARRAY[NULL, TRUE]]" := by decide
  obtain ⟨henclosed, hconstant⟩ :=
    (default_enclosed (.list [.text "it's; --", .int (-3), .list [.null, .bool true]])).1 nofun
  obtain ⟨-, hcall, hcallEnclosed⟩ :=
    (default_enclosed (.text "pg_catalog.now()")).2.1 "pg_catalog.now" rfl
  rw [htext] at hconstant henclosed
  exact ⟨htext, hconstant hfinite, henclosed, hcall.mpr hname, hcallEnclosed hname⟩

/-- **A text that ends like a call may break out**, and a number that is not finite is no
constant. -/
theorem default_breaks_out :
    (defaultSql (.text "0); DROP TABLE users; --()") = "0); DROP TABLE users; --()"
        ∧ ¬ IsConstant (.text "0); DROP TABLE users; --()") "0); DROP TABLE users; --()".toList
        ∧ ¬ IsCall "0); DROP TABLE users; --()".toList
        ∧ ¬ IsEnclosed "0); DROP TABLE users; --()".toList)
      ∧ defaultSql (.float ⟨0x7ff0000000000000⟩) = "inf"
      ∧ ¬ IsConstant (.float ⟨0x7ff0000000000000⟩) "inf".toList := by
  refine ⟨⟨by decide, ?_, fun hcall => ?_, by decide⟩, by decide, ?_⟩
  · -- the only constants of a text are quoted
    generalize htext : "0); DROP TABLE users; --()".toList = cs
    rintro (_ | _ | _ | _ | _ | ⟨-, -⟩ | _)
    cases htext
  · exact absurd (isEnclosed_of_isCall hcall) (by decide)
  · have htext : ['i', 'n', 'f'] = "inf".toList := rfl
    generalize "inf".toList = cs at htext ⊢
    intro h
    cases h with
    | float h _ =>
      obtain ⟨c, cs, rfl, hdigit⟩ := h.exists_digit
      rw [← (List.cons.inj htext).1] at hdigit
      exact absurd hdigit (by decide)
    | quoted hcontent _ => cases hcontent

end Value

end PgStatement
