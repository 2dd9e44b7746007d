import PgStatement.Json.Token
import PgStatement.Proofs.Double.Text

/-!
# The grammar of JSON texts

What a document is written as is said by the grammar of JSON, without the writer
(`Json.IsWrittenAs`). Integers are digits without a zero in front, and what they denote is the
integer. Floating-point numbers have a point or an exponent, so that they are not taken for
integers, and of all such numbers the one meant is nearest to what is denoted. In a string a
character stands for itself or is escaped; arrays and objects enclose their parts in order, with
commas between and no blanks.

The compact text keeps to that at every depth (`Json.isWrittenAs_text`).
-/

namespace PgStatement

namespace Json

open Text (IsDigits IsUnpadded IsScientific ofDecimalChars)

/-- **The characters of a string and how they stand between the quotation marks.** Controls,
quotation marks and backslashes are escaped, by a letter or by four hexadecimal digits. -/
inductive IsEscaped : (content : List Char) → List Char → Prop where
  | nil : IsEscaped [] []
  | plain {c : Char} {content cs : List Char} (hc : 0x20 ≤ c.toNat ∧ c ≠ '"' ∧ c ≠ '\\')
    (h : IsEscaped content cs) : IsEscaped (c :: content) (c :: cs)
  | letter {c letter : Char} {content cs : List Char} (hc : escape? letter = some c)
    (h : IsEscaped content cs) : IsEscaped (c :: content) ('\\' :: letter :: cs)
  | code {c w x y z : Char} {content cs : List Char} (hc : codeUnit? w x y z = some c.toNat)
    (h : IsEscaped content cs) :
    IsEscaped (c :: content) ('\\' :: 'u' :: w :: x :: y :: z :: cs)

/-- **A string between quotation marks.** -/
def IsString (s : String) (cs : List Char) : Prop :=
  ∃ escaped, cs = '"' :: (escaped ++ ['"']) ∧ IsEscaped s.toList escaped

/-- **The text of a document.** A number that is not finite is null. -/
inductive IsWrittenAs : Json → List Char → Prop where
  | null : IsWrittenAs .null "null".toList
  | true : IsWrittenAs (.bool true) "true".toList
  | false : IsWrittenAs (.bool false) "false".toList
  | int {i : Int} {digits : List Char} (hdigits : IsDigits digits) (hunpadded : IsUnpadded digits)
    (hvalue : ofDecimalChars digits = i.natAbs) :
    IsWrittenAs (.int i) ((if i < 0 then ['-'] else []) ++ digits)
  | float {d : Double} {cs : List Char} {q : ℚ} (h : IsScientific cs q)
    (hpoint : '.' ∈ cs ∨ 'e' ∈ cs) (hnearest : Format.binary64.IsNearest q d.pattern) :
    IsWrittenAs (.float d) ((if d.isNegative then ['-'] else []) ++ cs)
  | notFinite {d : Double} (h : d.isFinite = false) : IsWrittenAs (.float d) "null".toList
  | string {s : String} {cs : List Char} (h : IsString s cs) : IsWrittenAs (.string s) cs
  | array {items : List Json} {texts : List (List Char)} (hlength : items.length = texts.length)
    (h : ∀ item ∈ items.zip texts, IsWrittenAs item.1 item.2) :
    IsWrittenAs (.array items) ('[' :: (",".toList.intercalate texts ++ [']']))
  | object {members : List (String × Json)} {texts : List (List Char × List Char)}
    (hlength : members.length = texts.length)
    (hkeys : ∀ member ∈ members.zip texts, IsString member.1.1 member.2.1)
    (h : ∀ member ∈ members.zip texts, IsWrittenAs member.1.2 member.2.2) :
    IsWrittenAs (.object members)
      ('\x7b' :: (",".toList.intercalate (texts.map fun text => text.1 ++ ':' :: text.2)
        ++ ['\x7d']))

/-! ## Strings -/

/-- Each character is escaped by itself. -/
theorem isEscaped_escapedChar {c : Char} {content cs : List Char} (h : IsEscaped content cs) :
    IsEscaped (c :: content) (escapedChar c ++ cs) := by
  unfold escapedChar
  split
  · exact .letter rfl h
  · exact .letter rfl h
  · exact .letter rfl h
  · exact .letter rfl h
  · exact .letter rfl h
  · exact .letter rfl h
  · exact .letter rfl h
  · rename_i hquote hbackslash _ _ _ _ _
    split
    · rename_i hcontrol
      refine .code ?_ h
      have hzero : Text.hexValue? '0' = some 0 := rfl
      rw [codeUnit?, hzero, Text.hexValue?_hexDigit (by omega), Text.hexValue?_hexDigit (by omega)]
      show some _ = some _
      congr 1
      omega
    · rename_i hcontrol
      exact .plain ⟨Nat.le_of_not_lt hcontrol, hquote, hbackslash⟩ h

theorem isString_stringText (s : String) : IsString s (stringText s).toList := by
  refine ⟨s.toList.flatMap escapedChar, ?_, ?_⟩
  · rw [stringText, String.toList_ofList, List.cons_append]
  · induction s.toList with
    | nil => exact .nil
    | cons c content ih =>
      rw [List.flatMap_cons]
      exact isEscaped_escapedChar ih

/-! ## Documents -/

theorem itemTexts_eq_map (items : List Json) : itemTexts items = items.map text := by
  induction items with
  | nil => rfl
  | cons item items ih => rw [itemTexts, List.map_cons, ih]

theorem memberTexts_eq_map (members : List (String × Json)) :
    memberTexts members = members.map fun member =>
      stringText member.1 ++ ":" ++ text member.2 := by
  induction members with
  | nil => rfl
  | cons member members ih => rw [memberTexts, List.map_cons, ih]

theorem toList_text_array (items : List Json) :
    (text (.array items)).toList
      = '[' :: (",".toList.intercalate (items.map fun item => item.text.toList) ++ [']']) := by
  rw [text, itemTexts_eq_map, String.toList_append, String.toList_append, String.toList_intercalate,
    List.map_map, List.append_assoc]
  rfl

theorem toList_text_object (members : List (String × Json)) :
    (text (.object members)).toList
      = '\x7b' :: (",".toList.intercalate ((members.map fun member =>
          ((stringText member.1).toList, member.2.text.toList)).map fun text =>
            text.1 ++ ':' :: text.2) ++ ['\x7d']) := by
  have hmember (member : String × Json) :
      (stringText member.1 ++ ":" ++ text member.2).toList
        = (stringText member.1).toList ++ ':' :: member.2.text.toList := by
    rw [String.toList_append, String.toList_append, List.append_assoc]
    rfl
  rw [text, memberTexts_eq_map, String.toList_append, String.toList_append,
    String.toList_intercalate, List.map_map, List.map_map, List.append_assoc]
  simp only [Function.comp_def, hmember]
  rfl

theorem isWrittenAs_float (d : Double) : IsWrittenAs (.float d) (text (.float d)).toList := by
  rw [text]
  cases h : d.isFinite with
  | true =>
    obtain ⟨cs, q, htext, hscientific, hpoint, hnearest⟩ := Double.toList_text_json h
    rw [htext]
    exact .float hscientific hpoint hnearest
  | false =>
    rw [Double.text_of_not_isFinite _ h]
    simp only [Layout.json, ite_self]
    exact .notFinite h

/-- **The compact text is a text of the document.** -/
theorem isWrittenAs_text (document : Json) : document.IsWrittenAs document.text.toList := by
  cases document with
  | null => exact .null
  | bool b =>
    cases b with
    | true => exact .true
    | false => exact .false
  | int i =>
    rw [text, Text.toList_signedDecimal]
    exact .int (Text.isDigits_decimalChars _) (Text.isUnpadded_decimalChars _)
      (Text.ofDecimalChars_decimalChars _)
  | float d => exact isWrittenAs_float d
  | string s => exact .string (isString_stringText s)
  | array items =>
    rw [toList_text_array]
    refine .array (List.length_map _).symm fun item hitem => ?_
    rw [← List.map_prod_left_eq_zip] at hitem
    obtain ⟨item, hmem, rfl⟩ := List.mem_map.mp hitem
    exact isWrittenAs_text item
  | object members =>
    rw [toList_text_object]
    refine .object (List.length_map _).symm (fun member hmember => ?_) fun member hmember => ?_
    all_goals
      rw [← List.map_prod_left_eq_zip] at hmember
      obtain ⟨⟨key, value⟩, hmem, rfl⟩ := List.mem_map.mp hmember
    · exact isString_stringText key
    · exact isWrittenAs_text value
termination_by document
decreasing_by
  · have hlt := List.sizeOf_lt_of_mem hmem
    simp_wf
    omega
  · have hlt := List.sizeOf_lt_of_mem hmem
    simp_wf
    rw [Prod.mk.sizeOf_spec] at hlt
    omega

end Json

end PgStatement
