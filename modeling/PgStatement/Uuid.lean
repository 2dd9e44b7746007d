import PgStatement.Text.Digits
import PgStatement.Bytes.BigEndian

/-!
# Universally unique identifiers

A `Uuid` is sixteen bytes. It is written as thirty-two lower-case hexadecimal digits in five groups
with hyphens between, and read in four forms: the written one, the same in braces or behind
`urn:uuid:`, and the bare digits. The case of letters does not matter in any of them.
-/

namespace PgStatement

/-- **A universally unique identifier.** -/
structure Uuid where
  /-- The bytes, in the order of the text. -/
  bytes : Bytes
  /-- There are sixteen of them. -/
  length_bytes : bytes.length = 16
  deriving DecidableEq

namespace Uuid

/-- The identifier with the given bytes, if there are sixteen. -/
def ofBytes? (bytes : Bytes) : Option Uuid :=
  if h : bytes.length = 16 then some ⟨bytes, h⟩ else none

/-- Characters in groups of the given lengths, with hyphens between, the rest in a last group. -/
def hyphenate : (groups : List Nat) → List Char → List Char
  | [], cs => cs
  | n :: groups, cs => cs.take n ++ '-' :: hyphenate groups (cs.drop n)

/-- Characters without the hyphens that `hyphenate` puts in; none if one is missing. -/
def unhyphenate? : (groups : List Nat) → List Char → Option (List Char)
  | [], cs => some cs
  | n :: groups, cs =>
    match cs.drop n with
    | '-' :: rest => (unhyphenate? groups rest).map (cs.take n ++ ·)
    | _ => none

/-- The lengths of the groups before the last. -/
def groups : List Nat := [8, 4, 4, 4]

/-- The identifier as text. -/
def text (u : Uuid) : String := String.ofList (hyphenate groups (Text.hexChars u.bytes))

/-- The identifier that bare hexadecimal digits stand for. -/
def ofDigits? (cs : List Char) : Option Uuid := (Text.bytesOfHex? cs).bind ofBytes?

/-- The identifier that hyphenated digits stand for. -/
def ofHyphenated? (cs : List Char) : Option Uuid := (unhyphenate? groups cs).bind ofDigits?

/-- What stands in front of the hyphenated form in a name of the `urn` scheme, in lower case. -/
def urn : List Char := "urn:uuid:".toList

/-- **The identifier that a text stands for**, in one of the four forms. -/
def ofText? (s : String) : Option Uuid :=
  let cs := s.toList
  if cs.length = 32 then ofDigits? cs
  else if cs.length = 36 then ofHyphenated? cs
  else if cs.length = 38 then
    if cs.head? = some '\x7b' && cs.getLast? = some '\x7d' then ofHyphenated? (cs.drop 1).dropLast
    else none
  else if cs.length = 45 then
    if (cs.take 9).map Char.toLower = urn then ofHyphenated? (cs.drop 9) else none
  else none

@[simp] theorem ofBytes?_bytes (u : Uuid) : ofBytes? u.bytes = some u := by
  rw [ofBytes?, dif_pos u.length_bytes]

end Uuid

end PgStatement
