import PgStatement.Json.Number

/-!
# Tokens of JSON text

A text is cut into tokens before its structure is looked at: brackets, punctuation, and the scalars
– strings with their escapes resolved, numbers, and the three words. Blanks between tokens are the
four that JSON allows and no others.
-/

namespace PgStatement.Json

/-- **A token of JSON text.** -/
inductive Token where
  /-- An opening bracket. -/
  | openArray
  /-- A closing bracket. -/
  | closeArray
  /-- An opening brace. -/
  | openObject
  /-- A closing brace. -/
  | closeObject
  /-- A comma. -/
  | comma
  /-- A colon. -/
  | colon
  /-- A string. -/
  | string (s : String)
  /-- A number or a word: a document of its own. -/
  | scalar (value : Json)

/-- The blanks between tokens. -/
def isSpace (c : Char) : Bool := c == ' ' || c == '\n' || c == '\t' || c == '\r'

/-- The number that four hexadecimal digits stand for. -/
def codeUnit? (a b c d : Char) : Option Nat := do
  let a ← Text.hexValue? a
  let b ← Text.hexValue? b
  let c ← Text.hexValue? c
  let d ← Text.hexValue? d
  return ((a * 16 + b) * 16 + c) * 16 + d

/-- The character that stands for itself after a backslash, or is abbreviated by a letter. -/
def escape? : Char → Option Char
  | '"' => some '"'
  | '\\' => some '\\'
  | '/' => some '/'
  | 'b' => some '\x08'
  | 'f' => some '\x0c'
  | 'n' => some '\n'
  | 'r' => some '\r'
  | 't' => some '\t'
  | _ => none

/-- The rest of a string after its opening quotation mark, and what follows. Escaped code units from
`D800` to `DFFF` are halves of a character, so `high` remembers a first half until the second one
comes; a half alone is no string. -/
def string? (high : Option Nat) (read : List Char) : List Char → Option (String × List Char)
  | [] => none
  | '"' :: rest =>
    match high with
    | none => some (String.ofList read.reverse, rest)
    | some _ => none
  | '\\' :: 'u' :: a :: b :: c :: d :: rest =>
    match codeUnit? a b c d, high with
    | none, _ => none
    | some unit, none =>
      if 0xd800 ≤ unit && unit < 0xdc00 then string? (some unit) read rest
      else if 0xdc00 ≤ unit && unit < 0xe000 then none
      else string? none (Char.ofNat unit :: read) rest
    | some unit, some first =>
      if 0xdc00 ≤ unit && unit < 0xe000 then
        let code := 0x10000 + (first - 0xd800) * 0x400 + (unit - 0xdc00)
        string? none (Char.ofNat code :: read) rest
      else none
  | '\\' :: c :: rest =>
    match high, escape? c with
    | none, some escaped => string? none (escaped :: read) rest
    | _, _ => none
  | c :: rest =>
    match high with
    | none => if c.toNat < 0x20 then none else string? none (c :: read) rest
    | some _ => none

/-- The token at the front of a text that starts with no blank, and the rest. -/
def token? : List Char → Option (Token × List Char)
  | '[' :: rest => some (.openArray, rest)
  | ']' :: rest => some (.closeArray, rest)
  | '\x7b' :: rest => some (.openObject, rest)
  | '\x7d' :: rest => some (.closeObject, rest)
  | ',' :: rest => some (.comma, rest)
  | ':' :: rest => some (.colon, rest)
  | '"' :: rest => (string? none [] rest).map fun (s, rest) => (.string s, rest)
  | 'n' :: 'u' :: 'l' :: 'l' :: rest => some (.scalar .null, rest)
  | 't' :: 'r' :: 'u' :: 'e' :: rest => some (.scalar (.bool true), rest)
  | 'f' :: 'a' :: 'l' :: 's' :: 'e' :: rest => some (.scalar (.bool false), rest)
  | cs => (number? cs).map fun (value, rest) => (.scalar value, rest)

/-- The tokens of a text, one for each unit of fuel at most. -/
def tokensWithin : (fuel : Nat) → List Char → Option (List Token)
  | 0, cs => if cs.all isSpace then some [] else none
  | fuel + 1, cs =>
    match cs.dropWhile isSpace with
    | [] => some []
    | cs =>
      match token? cs with
      | none => none
      | some (token, rest) => (tokensWithin fuel rest).map (token :: ·)

/-- **The tokens of a text**. There are no more of them than characters. -/
def tokens? (s : String) : Option (List Token) := tokensWithin s.length s.toList

end PgStatement.Json
