import PgStatement.Bytes.BigEndian
import PgStatement.Wire.Fault

/-!
# Network addresses

An address has a family, the number of bits of its network, a mark that says whether it is a network
or a host, and its bytes: four in the old family, sixteen in the new one. The text is that of the
bytes, and the number of bits behind a slash unless it is that of a full host address.

The bytes of the old family are written in decimal with points between. The new family is written as
eight hexadecimal numbers with colons between, the longest run of at least two zeros, the first if
there are several, left out between two colons. An address of the old family that is embedded in the
new one is written as such.
-/

namespace PgStatement.Wire

/-- The families of addresses. -/
inductive Family where
  /-- Addresses of four bytes. -/
  | four
  /-- Addresses of sixteen bytes. -/
  | six
  deriving DecidableEq

namespace Family

/-- The family of a code. -/
def ofCode? (code : UInt8) : Option Family :=
  if code = 2 then some .four else if code = 3 then some .six else none

/-- The number of bytes of an address. -/
def size : Family → Nat
  | .four => 4
  | .six => 16

/-- The number of bits of an address. -/
def bits (f : Family) : Nat := 8 * f.size

end Family

/-- **A network address.** -/
structure Address where
  /-- The family. -/
  family : Family
  /-- The number of bits of the network. -/
  bits : Nat
  /-- Whether it stands for a network. -/
  network : Bool
  /-- The bytes. -/
  bytes : Bytes
  deriving DecidableEq

namespace Address

/-- **The address that bytes stand for**: four bytes of header, with the length of what follows. -/
def decode (raw : Bytes) : Except Fault Address :=
  match raw with
  | code :: bits :: network :: length :: bytes =>
    if bytes.length ≠ length.toNat then .error (.addressLength bytes.length)
    else
      match Family.ofCode? code with
      | some family =>
        if bytes.length = family.size then .ok ⟨family, bits.toNat, network ≠ 0, bytes⟩
        else .error (.addressFamily code.toNat length.toNat)
      | none => .error (.addressFamily code.toNat length.toNat)
  | _ => .error .addressTruncated

/-- Bytes in decimal with points between. -/
def pointedChars (bytes : Bytes) : List Char :=
  ['.'].intercalate (bytes.map fun b => Text.decimalChars b.toNat)

/-- Pairs of bytes as numbers. -/
def segments : Bytes → List Nat
  | high :: low :: rest => BigEndian.toNat [high, low] :: segments rest
  | _ => []

/-- Numbers in hexadecimal with colons between. -/
def colonChars (segments : List Nat) : List Char :=
  [':'].intercalate (segments.map (Nat.toDigits 16))

/-- The number of zeros at the front. -/
def zeros (segments : List Nat) : Nat := (segments.takeWhile (· == 0)).length

/-- The start and length of the longest run of zeros, the first of several. -/
def longestRun (segments : List Nat) : Nat × Nat :=
  (List.range segments.length).foldl
    (fun best start =>
      let length := zeros (segments.drop start)
      if best.2 < length then (start, length) else best)
    (0, 0)

/-- Eight numbers, the longest run of zeros left out. -/
def compressedChars (segments : List Nat) : List Char :=
  let (start, length) := longestRun segments
  if 1 < length then
    colonChars (segments.take start) ++ ':' :: ':' :: colonChars (segments.drop (start + length))
  else colonChars segments

/-- What an address of the old family is embedded behind. -/
def embedding : Bytes := [0, 0, 0, 0, 0, 0, 0, 0, 0, 0, 0xff, 0xff]

/-- The bytes as text. -/
def bytesChars : Family → Bytes → List Char
  | .four, bytes => pointedChars bytes
  | .six, bytes =>
    if bytes.take 12 = embedding then "::ffff:".toList ++ pointedChars (bytes.drop 12)
    else compressedChars (segments bytes)

/-- **The address as text.** -/
def text (a : Address) : String :=
  String.ofList (bytesChars a.family a.bytes
    ++ (if a.network || a.bits ≠ a.family.bits then '/' :: Text.decimalChars a.bits else []))

end Address

end PgStatement.Wire
