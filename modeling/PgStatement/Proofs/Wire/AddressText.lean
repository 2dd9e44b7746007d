import PgStatement.Proofs.Result
import PgStatement.Proofs.Wire.Segments

/-!
# Network addresses are read back

The bytes of an address have one of two layouts, and nothing else is accepted
(`Address.decode_eq_ok_iff`): a header of four bytes that names the family and the length, and as
many bytes as the family has. The number of bits and the mark of a network may be anything.

From the text of an address its family, its bytes and the number of its bits are read
(`Address.read?_text`). The family is told by the colons, which the other family never has, and the
number of bits stands behind a slash or is that of a full host address. So addresses that differ in
any of these are never written alike (`Address.decoded_without_loss`). Only the mark of a network is
not always seen: of an address with fewer bits than a host it makes no difference to the text.
-/

namespace PgStatement.Wire.Address

open Text

variable {a : Address} {raw bytes : Bytes}

/-! ## The layout -/

/-- **The bytes of an address**: the code of its family, the number of bits, the mark, which is not
zero for a network, the number of the bytes that follow, and these bytes. -/
inductive IsLaidOut : Bytes → Address → Prop where
  /-- An address of four bytes. -/
  | four (bits mark : UInt8) {bytes : Bytes} (h : bytes.length = 4) :
    IsLaidOut (2 :: bits :: mark :: 4 :: bytes) ⟨.four, bits.toNat, mark ≠ 0, bytes⟩
  /-- An address of sixteen bytes. -/
  | six (bits mark : UInt8) {bytes : Bytes} (h : bytes.length = 16) :
    IsLaidOut (3 :: bits :: mark :: 16 :: bytes) ⟨.six, bits.toNat, mark ≠ 0, bytes⟩

theorem IsLaidOut.length_bytes (h : IsLaidOut raw a) : a.bytes.length = a.family.size := by
  cases h with
  | four bits mark h => exact h
  | six bits mark h => exact h

theorem code_of_ofCode? {code : UInt8} {f : Family} (h : Family.ofCode? code = some f) :
    code = match f with
      | .four => 2
      | .six => 3 := by
  unfold Family.ofCode? at h
  split at h
  · rename_i hcode
    obtain rfl := Option.some.inj h
    exact hcode
  · split at h
    · rename_i hcode
      obtain rfl := Option.some.inj h
      exact hcode
    · cases h

/-- **Exactly what is laid out is accepted.** -/
theorem decode_eq_ok_iff : decode raw = .ok a ↔ IsLaidOut raw a := by
  constructor
  · intro h
    unfold decode at h
    split at h
    · rename_i code bits mark length bytes
      split at h
      · cases h
      · rename_i hlength
        split at h
        · rename_i family hfamily
          split at h
          · rename_i hsize
            -- the length is that of the bytes that follow, and these are as many as the family has
            have hsize' : length = UInt8.ofNat family.size := by
              rw [← hsize, not_not.mp hlength, UInt8.ofNat_toNat]
            obtain rfl := Except.ok.inj h
            rw [code_of_ofCode? hfamily, hsize']
            cases family with
            | four => exact .four bits mark hsize
            | six => exact .six bits mark hsize
          · cases h
        · cases h
    · cases h
  · intro h
    cases h with
    | four bits mark h =>
      rw [decode, if_neg (by rw [h]; decide)]
      exact if_pos h
    | six bits mark h =>
      rw [decode, if_neg (by rw [h]; decide)]
      exact if_pos h

/-! ## The reader -/

/-- **What is read from the text of an address.** -/
structure Reading where
  /-- The family. -/
  family : Family
  /-- The bytes. -/
  bytes : Bytes
  /-- The number of bits of the network. -/
  bits : Nat
  deriving DecidableEq

/-- The bytes of an address of a family. -/
def bytes? : Family → List Char → Option Bytes
  | .four, cs => four? cs
  | .six, cs => sixteen? cs

/-- The number of bits: the one behind a slash, or that of a full host address if there is none. -/
def bits? (f : Family) : List Char → Option Nat
  | [] => some f.bits
  | '/' :: cs => number? cs
  | _ => none

/-- The characters before the slash. -/
def bytesPart (text : String) : List Char := text.toList.takeWhile (· != '/')

/-- The characters from the slash on. -/
def bitsPart (text : String) : List Char := text.toList.dropWhile (· != '/')

/-- The family of an address: only the new one is written with colons. -/
def familyOf (cs : List Char) : Family := if ':' ∈ cs then .six else .four

/-- **The address** in a text. -/
def read? (text : String) : Option Reading := do
  let family := familyOf (bytesPart text)
  let bytes ← bytes? family (bytesPart text)
  let bits ← bits? family (bitsPart text)
  return ⟨family, bytes, bits⟩

/-! ## Addresses are read as they were written -/

theorem bytes?_bytesChars {f : Family} (h : bytes.length = f.size) :
    bytes? f (bytesChars f bytes) = some bytes := by
  cases f with
  | four => exact four?_pointedChars h
  | six =>
    rw [bytes?, bytesChars]
    split
    · rename_i hembedded
      have hlength : (bytes.drop 12).length = 4 := by
        rw [List.length_drop, h]
        rfl
      rw [sixteen?_embedded hlength, ← hembedded, List.take_append_drop]
    · exact sixteen?_compressedChars h

/-- **An address has no slash in it.** -/
theorem slash_not_mem_bytesChars (f : Family) (bytes : Bytes) : '/' ∉ bytesChars f bytes := by
  have hpointed : ∀ bytes, '/' ∉ pointedChars bytes := fun bytes h => by
    obtain h | h := mem_pointedChars h
    · cases h
    · cases h
  cases f with
  | four => exact hpointed bytes
  | six =>
    rw [bytesChars]
    split
    · rw [List.mem_append, not_or]
      exact ⟨by decide, hpointed _⟩
    · intro h
      obtain h | h := mem_compressedChars h
      · cases h
      · cases h

/-- **The family is told by the colons.** -/
theorem familyOf_bytesChars {f : Family} (h : bytes.length = f.size) :
    familyOf (bytesChars f bytes) = f := by
  cases f with
  | four => exact if_neg colon_not_mem_pointedChars
  | six =>
    refine if_pos ?_
    rw [bytesChars]
    split
    · exact List.mem_append_left _ (by decide)
    · refine colon_mem_compressedChars ?_
      rw [length_segments, h]
      decide

/-- What stands behind the bytes. -/
def bitsChars (a : Address) : List Char :=
  if a.network || a.bits ≠ a.family.bits then '/' :: decimalChars a.bits else []

/-- **The bytes end where the number of bits begins.** -/
theorem parts_text (a : Address) :
    bytesPart a.text = bytesChars a.family a.bytes ∧ bitsPart a.text = bitsChars a := by
  have hbytes : ∀ c ∈ bytesChars a.family a.bytes, (c != '/') = true := fun c hc => by
    rw [bne_iff_ne]
    rintro rfl
    exact slash_not_mem_bytesChars _ _ hc
  have hbits : ∀ c ∈ (bitsChars a).head?, (c != '/') = false := by
    unfold bitsChars
    split
    · rintro c ⟨⟩
      rfl
    · exact nofun
  rw [bytesPart, bitsPart, text, String.toList_ofList]
  exact span_append hbytes hbits

theorem bits?_bitsChars (a : Address) : bits? a.family (bitsChars a) = some a.bits := by
  unfold bitsChars
  split
  · exact Clock.number?_decimalChars a.bits
  · rename_i h
    rw [Bool.or_eq_true, decide_eq_true_eq, not_or, not_not] at h
    exact congrArg some h.2.symm

/-- **An address is read as it was written.** -/
theorem read?_text (h : a.bytes.length = a.family.size) :
    read? a.text = some ⟨a.family, a.bytes, a.bits⟩ := by
  obtain ⟨hbytes, hbits⟩ := parts_text a
  simp only [read?, hbytes, hbits, familyOf_bytesChars h, bytes?_bytesChars h, bits?_bitsChars]
  rfl

/-- **The number of bits is written** of networks, and of hosts if it is not the full one. -/
theorem slash_mem_text_iff (a : Address) :
    '/' ∈ a.text.toList ↔ a.network = true ∨ a.bits ≠ a.family.bits := by
  rw [text, String.toList_ofList, List.mem_append, or_iff_right (slash_not_mem_bytesChars _ _)]
  split
  · rename_i h
    rw [Bool.or_eq_true, decide_eq_true_eq] at h
    exact iff_of_true List.mem_cons_self h
  · rename_i h
    rw [Bool.or_eq_true, decide_eq_true_eq] at h
    exact iff_of_false List.not_mem_nil h

/-- **The text of an address loses nothing** but the mark of a network. Bytes are read if they are
laid out as an address. From the text its family, its bytes and the number of its bits are read
back; the number is written if the address is marked as a network or the number is not that of a
full host address. So addresses that are read as the same text agree in all three. -/
theorem decoded_without_loss :
    (∀ raw : Bytes, (∃ text, Address.text <$> decode raw = .ok text) ↔ ∃ a, IsLaidOut raw a)
      ∧ (∀ (raw : Bytes) (a : Address), IsLaidOut raw a → ∃ text,
        Address.text <$> decode raw = .ok text
          ∧ read? text = some ⟨a.family, a.bytes, a.bits⟩
          ∧ ('/' ∈ text.toList ↔ a.network = true ∨ a.bits ≠ a.family.bits))
      ∧ ∀ (raw other : Bytes) (a b : Address), IsLaidOut raw a → IsLaidOut other b →
        Address.text <$> decode raw = Address.text <$> decode other →
        a.family = b.family ∧ a.bytes = b.bytes ∧ a.bits = b.bits := by
  refine ⟨fun raw => ?_, fun raw a h => ?_, fun raw other a b ha hb h => ?_⟩
  · constructor
    · rintro ⟨text, h⟩
      obtain ⟨a, ha, -⟩ := map_eq_ok_iff.mp h
      exact ⟨a, decode_eq_ok_iff.mp ha⟩
    · rintro ⟨a, h⟩
      exact ⟨a.text, map_eq_ok_iff.mpr ⟨a, decode_eq_ok_iff.mpr h, rfl⟩⟩
  · exact ⟨a.text, map_eq_ok_iff.mpr ⟨a, decode_eq_ok_iff.mpr h, rfl⟩, read?_text h.length_bytes,
      slash_mem_text_iff a⟩
  · rw [decode_eq_ok_iff.mpr ha, decode_eq_ok_iff.mpr hb] at h
    have hread := congrArg read? (Except.ok.inj h)
    rw [read?_text ha.length_bytes, read?_text hb.length_bytes, Option.some.injEq,
      Reading.mk.injEq] at hread
    exact hread

/-- A network of the new family with two runs of zeros, and an address of the old family beside the
same one embedded in the new. -/
theorem decoded_without_loss_embedded :
    IsLaidOut [3, 64, 1, 16, 32, 1, 13, 184, 0, 0, 0, 0, 0, 1, 0, 0, 0, 0, 0, 1]
        ⟨.six, 64, true, [32, 1, 13, 184, 0, 0, 0, 0, 0, 1, 0, 0, 0, 0, 0, 1]⟩
      ∧ Address.text <$> decode [3, 64, 1, 16, 32, 1, 13, 184, 0, 0, 0, 0, 0, 1, 0, 0, 0, 0, 0, 1]
        = .ok "2001:db8::1:0:0:1/64"
      ∧ read? "2001:db8::1:0:0:1/64"
        = some ⟨.six, [32, 1, 13, 184, 0, 0, 0, 0, 0, 1, 0, 0, 0, 0, 0, 1], 64⟩
      ∧ IsLaidOut [2, 32, 0, 4, 10, 0, 0, 1] ⟨.four, 32, false, [10, 0, 0, 1]⟩
      ∧ IsLaidOut [3, 128, 0, 16, 0, 0, 0, 0, 0, 0, 0, 0, 0, 0, 255, 255, 10, 0, 0, 1]
        ⟨.six, 128, false, embedding ++ [10, 0, 0, 1]⟩
      ∧ Address.text <$> decode [2, 32, 0, 4, 10, 0, 0, 1]
        ≠ Address.text <$> decode
          [3, 128, 0, 16, 0, 0, 0, 0, 0, 0, 0, 0, 0, 0, 255, 255, 10, 0, 0, 1] := by
  have hnetwork := @IsLaidOut.six 64 1 [32, 1, 13, 184, 0, 0, 0, 0, 0, 1, 0, 0, 0, 0, 0, 1] rfl
  have hfour := @IsLaidOut.four 32 0 [10, 0, 0, 1] rfl
  have hembedded := @IsLaidOut.six 128 0 (embedding ++ [10, 0, 0, 1]) rfl
  have htext : Address.text <$> decode
      [3, 64, 1, 16, 32, 1, 13, 184, 0, 0, 0, 0, 0, 1, 0, 0, 0, 0, 0, 1]
      = .ok "2001:db8::1:0:0:1/64" := by decide
  obtain ⟨text, hdecode, hread, -⟩ := decoded_without_loss.2.1 _ _ hnetwork
  obtain rfl := Except.ok.inj (htext.symm.trans hdecode)
  refine ⟨hnetwork, htext, hread, hfour, hembedded, fun h => ?_⟩
  exact absurd (decoded_without_loss.2.2 _ _ _ _ hfour hembedded h).1 (by decide)

end PgStatement.Wire.Address
