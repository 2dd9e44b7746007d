import PgStatement.Proofs.Calendar
import PgStatement.Proofs.JsonText
import PgStatement.Proofs.Uuid
import PgStatement.Value.Literal

/-!
# Constants of SQL

A constant is a keyword, a decimal number with a minus sign or without, a quoted string or an array
of constants. Which of them a value is written as, and what the constant must hold to stand for
*this* value, is said here without the writer (`Value.IsConstant`): the digits of an integer denote
it, a floating-point number is nearest to what its digits denote, and a quoted string holds the text
of the value when every pair of quotes in it is read as one. What the text of a value is, is a
matter of its grammar (`Value.IsQuotedAs`).

The writer keeps to that for every value, however deep its arrays are (`Value.isConstant_literal`),
with one exception: a floating-point number that is not finite has no digits, and what is written
for it is no constant.
-/

namespace PgStatement

namespace Quote

/-- The characters between the quotes of a quoted string, each pair of quotes read as one; none if a
quote stands alone, since the string would end there. -/
def undouble? : List Char → Option (List Char)
  | [] => some []
  | '\'' :: '\'' :: rest => (undouble? rest).map ('\'' :: ·)
  | c :: rest => if c = '\'' then none else (undouble? rest).map (c :: ·)

/-- Quotes that are written twice are read as one. -/
theorem undouble?_double (cs : List Char) : undouble? (double cs) = some cs := by
  induction cs with
  | nil => rfl
  | cons c cs ih =>
    by_cases hc : c = '\''
    · rw [double, if_pos hc, undouble?, ih, hc]
      rfl
    · rw [double, if_neg hc, undouble?, if_neg hc, ih]
      · rfl
      · exact fun _ h => absurd h hc

theorem toList_literal (s : String) :
    (literal s).toList = '\'' :: (double s.toList ++ ['\'']) := by
  rw [literal, String.toList_ofList, List.cons_append]

end Quote

/-! ## Constants -/

namespace Value

/-- **Values without floating-point numbers that are not finite**, at any depth. -/
inductive IsFinite : Value → Prop where
  | float {d : Double} (h : d.isFinite = true) : IsFinite (.float d)
  | list {items : List Value} (h : ∀ item ∈ items, IsFinite item) : IsFinite (.list items)
  | other {v : Value} (hfloat : ∀ d, v ≠ .float d) (hlist : ∀ items, v ≠ .list items) : IsFinite v

/-- **The text that a value is quoted as**: a text itself, bytes in hexadecimal behind `\x`, and
moments, dates, identifiers and documents in their own form. -/
inductive IsQuotedAs : Value → List Char → Prop where
  | text (s : String) : IsQuotedAs (.text s) s.toList
  | bytes {raw : Bytes} {digits : List Char} (h : Text.IsHex raw digits) :
    IsQuotedAs (.bytes raw) ('\\' :: 'x' :: digits)
  | timestamp {t : Timestamp} {cs : List Char} (h : t.IsWrittenAs cs) : IsQuotedAs (.timestamp t) cs
  | date {d : Date} {cs : List Char} (h : d.IsWrittenAs cs) : IsQuotedAs (.date d) cs
  | uuid {u : Uuid} {cs : List Char} (h : u.IsWrittenAs cs) : IsQuotedAs (.uuid u) cs
  | json {document : Json} {cs : List Char} (h : document.IsWrittenAs cs) :
    IsQuotedAs (.json document) cs

/-- **The values that are quoted**, and all others. -/
theorem literal_cases (v : Value) :
    (∃ s, v.literal = Quote.literal s ∧ v.IsQuotedAs s.toList) ∨ v = .null ∨ (∃ b, v = .bool b)
      ∨ (∃ i, v = .int i) ∨ (∃ d, v = .float d) ∨ ∃ items, v = .list items := by
  cases v with
  | null => exact .inr (.inl rfl)
  | bool b => exact .inr (.inr (.inl ⟨b, rfl⟩))
  | int i => exact .inr (.inr (.inr (.inl ⟨i, rfl⟩)))
  | float d => exact .inr (.inr (.inr (.inr (.inl ⟨d, rfl⟩))))
  | list items => exact .inr (.inr (.inr (.inr (.inr ⟨items, rfl⟩))))
  | text s => exact .inl ⟨_, rfl, .text s⟩
  | bytes raw =>
    have hhex : (Text.hex raw).toList = Text.hexChars raw := String.toList_ofList
    refine .inl ⟨_, rfl, ?_⟩
    rw [String.toList_append, hhex]
    exact .bytes (Text.isHex_hexChars raw)
  | timestamp t => exact .inl ⟨_, rfl, .timestamp t.isWrittenAs_text⟩
  | date d => exact .inl ⟨_, rfl, .date d.isWrittenAs_text⟩
  | uuid u => exact .inl ⟨_, rfl, .uuid u.isWrittenAs_text⟩
  | json document => exact .inl ⟨_, rfl, .json document.isWrittenAs_text⟩

/-- **The constants of a value.** -/
inductive IsConstant : Value → List Char → Prop where
  | null : IsConstant .null "NULL".toList
  | true : IsConstant (.bool true) "TRUE".toList
  | false : IsConstant (.bool false) "FALSE".toList
  | int {i : Int64} {digits : List Char} (hdigits : Text.IsDigits digits)
    (hvalue : Text.ofDecimalChars digits = i.toInt.natAbs) :
    IsConstant (.int i) ((if i.toInt < 0 then ['-'] else []) ++ digits)
  | float {d : Double} {cs : List Char} {q : ℚ} (h : Text.IsUnsigned cs q)
    (hnearest : Format.binary64.IsNearest q d.pattern) :
    IsConstant (.float d) ((if d.isNegative then ['-'] else []) ++ cs)
  | quoted {v : Value} {content cs : List Char} (hcontent : v.IsQuotedAs content)
    (h : Quote.undouble? cs = some content) : IsConstant v ('\'' :: (cs ++ ['\'']))
  | list {items : List Value} {texts : List (List Char)} (hlength : items.length = texts.length)
    (h : ∀ item ∈ items.zip texts, IsConstant item.1 item.2) :
    IsConstant (.list items) ("ARRAY[".toList ++ (", ".toList.intercalate texts ++ [']']))

/-- The literal of an array, from those of its items. -/
theorem toList_literal_list (items : List Value) :
    (literal (.list items)).toList
      = "ARRAY[".toList
        ++ (", ".toList.intercalate (items.map fun v => v.literal.toList) ++ [']']) := by
  rw [literal, literals_eq_map, String.toList_append, String.toList_append,
    String.toList_intercalate, List.map_map, List.append_assoc]
  rfl

/-- **The literal of a value is a constant of it.** -/
theorem isConstant_literal {v : Value} (h : v.IsFinite) : IsConstant v v.literal.toList := by
  induction h with
  | float h =>
    obtain ⟨cs, q, htext, hunsigned, hnearest⟩ := Double.toList_text_literal h
    rw [literal, htext]
    exact .float hunsigned hnearest
  | @list items _ ih =>
    rw [toList_literal_list]
    refine .list (List.length_map _).symm fun item hitem => ?_
    rw [← List.map_prod_left_eq_zip] at hitem
    obtain ⟨v, hv, rfl⟩ := List.mem_map.mp hitem
    exact ih v hv
  | @other v hfloat hlist =>
    obtain ⟨s, hliteral, hquoted⟩ | rfl | ⟨b, rfl⟩ | ⟨i, rfl⟩ | ⟨d, rfl⟩ | ⟨items, rfl⟩ :=
      literal_cases v
    · rw [hliteral, Quote.toList_literal]
      exact .quoted hquoted (Quote.undouble?_double s.toList)
    · exact .null
    · cases b with
      | true => exact .true
      | false => exact .false
    · rw [literal, Text.toList_signedDecimal]
      exact .int (Text.isDigits_decimalChars _) (Text.ofDecimalChars_decimalChars _)
    · exact absurd rfl (hfloat d)
    · exact absurd rfl (hlist items)

end Value

end PgStatement
