/-!
# Blank characters

A character is **blank** when it has the Unicode property `White_Space`. There are twenty-five of
them; the ASCII ones are not enough, since a field name made of ideographic spaces is as empty as
one made of ordinary ones.

`isBlankText` asks whether a text holds nothing else, and `trim` cuts blanks off both ends. The two
agree: a text is blank exactly when trimming leaves nothing (`trimChars_eq_nil_iff`).
-/

namespace PgStatement.Text

/-- The property `White_Space`: tab to carriage return, space, next line, and the separators. -/
def isBlank (c : Char) : Bool :=
  let n := c.toNat
  (9 ≤ n && n ≤ 13) || n == 0x20 || n == 0x85 || n == 0xa0 || n == 0x1680
    || (0x2000 ≤ n && n ≤ 0x200a) || n == 0x2028 || n == 0x2029 || n == 0x202f
    || n == 0x205f || n == 0x3000

/-- **Blank text**: no character of it is anything but blank. The empty text is blank. -/
def isBlankText (s : String) : Bool := s.toList.all isBlank

/-- Characters without the blanks at their two ends. -/
def trimChars (cs : List Char) : List Char :=
  ((cs.dropWhile isBlank).reverse.dropWhile isBlank).reverse

/-- Text without the blanks at its two ends. -/
def trim (s : String) : String := String.ofList (trimChars s.toList)

/-- Nothing is left of a list whose leading blanks are dropped exactly if it is blank. -/
theorem dropWhile_isBlank_eq_nil_iff (cs : List Char) :
    cs.dropWhile isBlank = [] ↔ cs.all isBlank = true := by
  induction cs with
  | nil => simp
  | cons c cs ih => by_cases h : isBlank c = true <;> simp_all

/-- Trimming leaves nothing exactly of blank text: dropping leading blanks ends at a character that
is not one, and the second pass cannot remove that. -/
theorem trimChars_eq_nil_iff (cs : List Char) : trimChars cs = [] ↔ cs.all isBlank = true := by
  rw [trimChars, List.reverse_eq_nil_iff, dropWhile_isBlank_eq_nil_iff]
  induction cs with
  | nil => simp
  | cons c cs ih =>
    by_cases h : isBlank c = true
    · simpa [List.dropWhile_cons, h] using ih
    · simp [h]

end PgStatement.Text
