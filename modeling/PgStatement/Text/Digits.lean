/-!
# Digits

Numbers are written in decimal or in lower-case hexadecimal, sometimes padded with zeros to a width.
Texts are assembled as lists of characters, so that the laws of lists apply to them: the decimal
digits of `n` are `Nat.toDigits 10 n`, for which the core library has the reading back
(`Nat.ofDigitChars`).
-/

namespace PgStatement.Text

/-- The decimal digits of a natural number, without leading zeros; `0` for zero. -/
def decimalChars (n : Nat) : List Char := Nat.toDigits 10 n

/-- The decimal digits of a natural number, with zeros in front up to the width. -/
def paddedChars (width n : Nat) : List Char := (decimalChars n).leftpad width '0'

/-- The decimal text of a natural number. -/
def decimal (n : Nat) : String := String.ofList (decimalChars n)

/-- The decimal text of an integer: a minus sign in front of a negative one. -/
def signedDecimal (i : Int) : String :=
  if i < 0 then "-" ++ decimal i.natAbs else decimal i.natAbs

/-- A decimal digit character of ASCII. -/
def isDecimalDigit (c : Char) : Bool := '0' ≤ c && c ≤ '9'

/-- The number a digit character stands for. -/
def digitValue (c : Char) : Nat := c.toNat - '0'.toNat

/-- The number that a list of decimal digits denotes, the most significant one first. -/
def ofDecimalChars (cs : List Char) : Nat := cs.foldl (fun n c => 10 * n + digitValue c) 0

@[simp] theorem toList_decimal (n : Nat) : (decimal n).toList = decimalChars n := by
  simp [decimal]

/-- Zeros are written in front only where digits are missing. -/
theorem paddedChars_of_le {width n : Nat} (h : width ≤ (decimalChars n).length) :
    paddedChars width n = decimalChars n := by
  simp [paddedChars, List.leftpad, Nat.sub_eq_zero_of_le h]

/-- The lower-case hexadecimal digit of a number below sixteen. -/
def hexDigit (n : Nat) : Char := Nat.digitChar n

/-- The number a hexadecimal digit of either case stands for. -/
def hexValue? (c : Char) : Option Nat :=
  if '0' ≤ c && c ≤ '9' then some (c.toNat - '0'.toNat)
  else if 'a' ≤ c && c ≤ 'f' then some (c.toNat - 'a'.toNat + 10)
  else if 'A' ≤ c && c ≤ 'F' then some (c.toNat - 'A'.toNat + 10)
  else none

/-- The two hexadecimal digits of a byte. -/
def hexByte (b : UInt8) : List Char := [hexDigit (b.toNat / 16), hexDigit (b.toNat % 16)]

/-- Bytes as lower-case hexadecimal digits, two each. -/
def hexChars (bytes : List UInt8) : List Char := bytes.flatMap hexByte

/-- Bytes as hexadecimal text. -/
def hex (bytes : List UInt8) : String := String.ofList (hexChars bytes)

/-- The bytes a list of hexadecimal digits stands for; none if a digit is missing or is not one. -/
def bytesOfHex? : List Char → Option (List UInt8)
  | [] => some []
  | [_] => none
  | high :: low :: rest =>
    match hexValue? high, hexValue? low with
    | some x, some y => (bytesOfHex? rest).map (UInt8.ofNat (16 * x + y) :: ·)
    | _, _ => none

/-- A digit reads back as the number it was written from. -/
theorem hexValue?_hexDigit {n : Nat} (h : n < 16) : hexValue? (hexDigit n) = some n := by
  rcases n with _ | _ | _ | _ | _ | _ | _ | _ | _ | _ | _ | _ | _ | _ | _ | _ | n
  all_goals first | rfl | omega

/-- **Hexadecimal digits read back** as the bytes they were written from. -/
theorem bytesOfHex?_hexChars (bytes : List UInt8) :
    bytesOfHex? (hexChars bytes) = some bytes := by
  induction bytes with
  | nil => rfl
  | cons b bytes ih =>
    have hb := b.toNat_lt
    have hsplit : 16 * (b.toNat / 16) + b.toNat % 16 = b.toNat := by omega
    have ih' : bytesOfHex? (bytes.flatMap hexByte) = some bytes := ih
    simp only [hexChars, List.flatMap_cons, hexByte, List.cons_append, List.nil_append,
      bytesOfHex?, hexValue?_hexDigit (show b.toNat / 16 < 16 by omega),
      hexValue?_hexDigit (show b.toNat % 16 < 16 by omega), Option.map_eq_some_iff]
    exact ⟨bytes, ih', by rw [hsplit]; simp⟩

end PgStatement.Text
