import PgStatement.Bytes.BigEndian

/-!
# Text as bytes

Texts travel in UTF-8. Every text has one encoding, and bytes decode only if they are the encoding
of a text, so that the two directions are inverse to each other (`decode?_eq_some_iff`).
-/

namespace PgStatement.Utf8

/-- The encoding of a text. -/
def encode (s : String) : Bytes := s.toByteArray.data.toList

/-- The text that bytes encode, if they do. -/
def decode? (bytes : Bytes) : Option String := String.fromUTF8? ⟨bytes.toArray⟩

/-- **Decoding is the inverse of encoding.** -/
theorem decode?_eq_some_iff {bytes : Bytes} {s : String} :
    decode? bytes = some s ↔ bytes = encode s := by
  constructor
  · intro h
    unfold decode? String.fromUTF8? at h
    split at h
    · cases Option.some.inj h
      simp [encode, String.fromUTF8]
    · exact absurd h (by simp)
  · rintro rfl
    have hs : (⟨(encode s).toArray⟩ : ByteArray) = s.toByteArray := by simp [encode]
    rw [decode?, hs, String.fromUTF8?, dif_pos s.isValidUTF8]
    rfl

@[simp] theorem decode?_encode (s : String) : decode? (encode s) = some s :=
  decode?_eq_some_iff.2 rfl

end PgStatement.Utf8
