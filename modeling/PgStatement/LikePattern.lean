/-!
# Patterns of LIKE

In a pattern `%` stands for any text, `_` for any one character, and a backslash takes the meaning
from the character after it. Escaping puts a backslash before these three characters, and the
pattern then stands for the text itself. Patterns that ask for a text inside, at the start or at the
end of another are the escaped text with `%` where anything may stand.
-/

namespace PgStatement.LikePattern

/-- Whether a character has a meaning of its own in a pattern. -/
def isSpecial (c : Char) : Bool := c == '\\' || c == '%' || c == '_'

/-- Characters with a backslash before those that have a meaning. -/
def escapeChars : List Char → List Char
  | [] => []
  | c :: cs => if isSpecial c then '\\' :: c :: escapeChars cs else c :: escapeChars cs

/-- **The pattern of a text itself.** -/
def escape (s : String) : String := String.ofList (escapeChars s.toList)

/-- The pattern of texts that hold a text. -/
def contains (s : String) : String := "%" ++ escape s ++ "%"

/-- The pattern of texts that start with a text. -/
def startsWith (s : String) : String := escape s ++ "%"

/-- The pattern of texts that end with a text. -/
def endsWith (s : String) : String := "%" ++ escape s

@[simp] theorem escapeChars_append (a b : List Char) :
    escapeChars (a ++ b) = escapeChars a ++ escapeChars b := by
  induction a with
  | nil => rfl
  | cons c a ih => by_cases h : isSpecial c = true <;> simp [escapeChars, h, ih]

@[simp] theorem toList_escape (s : String) : (escape s).toList = escapeChars s.toList := by
  simp [escape]

end PgStatement.LikePattern
