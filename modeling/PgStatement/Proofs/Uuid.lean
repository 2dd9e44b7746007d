import PgStatement.Proofs.Digits
import PgStatement.Uuid

/-!
# Identifiers and the texts that name them

Bytes in hexadecimal are two digits for each byte (`Text.IsHex`), and an identifier is written as
the digits of its sixteen bytes, in lower case and in five groups with hyphens between
(`Uuid.IsWrittenAs`). An identifier is named by more texts than the one that it is written as: the
digits may stand without hyphens, and with hyphens in braces or behind the name of the scheme
(`Uuid.IsNamedBy`). What the library reads is exactly what is named (`Uuid.ofText?_eq_some_iff`).
-/

namespace PgStatement

namespace Text

/-- A hexadecimal digit in lower case. -/
def IsLowerHex (c : Char) : Prop := isDecimalDigit c = true ∨ 'a' ≤ c ∧ c ≤ 'f'

/-- **Bytes in lower-case hexadecimal**, two digits each. -/
def IsHex (bytes : Bytes) (cs : List Char) : Prop :=
  (∀ c ∈ cs, IsLowerHex c) ∧ bytesOfHex? cs = some bytes

theorem isLowerHex_hexDigit {n : Nat} (h : n < 16) : IsLowerHex (hexDigit n) := by
  unfold IsLowerHex
  revert n
  decide

theorem isHex_hexChars (bytes : Bytes) : IsHex bytes (hexChars bytes) := by
  refine ⟨fun c hc => ?_, bytesOfHex?_hexChars bytes⟩
  obtain ⟨b, -, hc⟩ := List.mem_flatMap.mp hc
  have hlt := b.toNat_lt
  obtain rfl | hc := List.mem_cons.mp hc
  · exact isLowerHex_hexDigit (by omega)
  · rw [List.mem_singleton.mp hc]
    exact isLowerHex_hexDigit (by omega)

/-- Two digits are read for each byte. -/
theorem length_of_bytesOfHex? {cs : List Char} {bytes : Bytes} (h : bytesOfHex? cs = some bytes) :
    cs.length = 2 * bytes.length := by
  fun_induction bytesOfHex? cs generalizing bytes with
  | case1 =>
    cases h
    rfl
  | case2 => cases h
  | case3 high low rest x y _ _ ih =>
    obtain ⟨more, hmore, rfl⟩ := Option.map_eq_some_iff.mp h
    rw [List.length_cons, List.length_cons, List.length_cons, ih hmore]
    omega
  | case4 => cases h

end Text

namespace Uuid

open Text (IsHex bytesOfHex?)

/-- **Characters in groups of the given lengths** with hyphens between, what is left in a last
group. -/
inductive IsHyphenated : (groups : List Nat) → (digits : List Char) → List Char → Prop where
  | last (digits : List Char) : IsHyphenated [] digits digits
  | group {n : Nat} {groups : List Nat} {first digits cs : List Char} (hlength : first.length = n)
    (h : IsHyphenated groups digits cs) :
    IsHyphenated (n :: groups) (first ++ digits) (first ++ '-' :: cs)

/-- **The text of an identifier**: the digits of its bytes in groups of eight, four, four, four and
twelve. -/
def IsWrittenAs (u : Uuid) (cs : List Char) : Prop :=
  ∃ digits, IsHex u.bytes digits ∧ IsHyphenated [8, 4, 4, 4] digits cs

/-- **The texts that name an identifier**, with digits of either case. -/
inductive IsNamedBy (u : Uuid) : List Char → Prop where
  | digits {cs : List Char} (h : bytesOfHex? cs = some u.bytes) : IsNamedBy u cs
  | hyphenated {digits cs : List Char} (h : bytesOfHex? digits = some u.bytes)
    (hcs : IsHyphenated [8, 4, 4, 4] digits cs) : IsNamedBy u cs
  | braced {digits cs : List Char} (h : bytesOfHex? digits = some u.bytes)
    (hcs : IsHyphenated [8, 4, 4, 4] digits cs) : IsNamedBy u ('\x7b' :: (cs ++ ['\x7d']))
  | urn {digits scheme cs : List Char} (h : bytesOfHex? digits = some u.bytes)
    (hscheme : scheme.map Char.toLower = "urn:uuid:".toList)
    (hcs : IsHyphenated [8, 4, 4, 4] digits cs) : IsNamedBy u (scheme ++ cs)

/-! ## Groups -/

variable {groups : List Nat} {digits cs : List Char} {u : Uuid}

theorem isHyphenated_hyphenate (h : groups.foldr Nat.add 0 ≤ digits.length) :
    IsHyphenated groups digits (hyphenate groups digits) := by
  induction groups generalizing digits with
  | nil => exact .last digits
  | cons n groups ih =>
    rw [List.foldr_cons, Nat.add_eq] at h
    have hrest : groups.foldr Nat.add 0 ≤ (digits.drop n).length := by
      rw [List.length_drop]
      omega
    have hgroup := IsHyphenated.group (List.length_take_of_le (show n ≤ digits.length by omega))
      (ih hrest)
    rwa [List.take_append_drop] at hgroup

theorem unhyphenate?_eq_some_iff :
    unhyphenate? groups cs = some digits ↔ IsHyphenated groups digits cs := by
  constructor
  · intro h
    induction groups generalizing cs digits with
    | nil => exact Option.some.inj h ▸ .last cs
    | cons n groups ih =>
      rw [unhyphenate?] at h
      split at h
      · rename_i rest hdrop
        obtain ⟨more, hmore, rfl⟩ := Option.map_eq_some_iff.mp h
        have hlength : (cs.take n).length = n := by
          refine List.length_take_of_le (Nat.le_of_not_lt fun hlt => ?_)
          rw [List.drop_of_length_le (Nat.le_of_lt hlt)] at hdrop
          cases hdrop
        have hgroup := IsHyphenated.group hlength (ih hmore)
        rwa [← hdrop, List.take_append_drop] at hgroup
      · cases h
  · intro h
    induction h with
    | last => rfl
    | @group n groups first digits cs hlength _ ih =>
      have hle := Nat.le_of_eq hlength
      have hge := Nat.le_of_eq hlength.symm
      rw [unhyphenate?, List.drop_append_of_le_length hge, List.drop_of_length_le hle,
        List.nil_append]
      simp only
      rw [ih, List.take_append_of_le_length hge, List.take_of_length_le hle]
      rfl

theorem IsHyphenated.length_eq (h : IsHyphenated groups digits cs) :
    cs.length = digits.length + groups.length := by
  induction h with
  | last => rfl
  | group _ _ ih =>
    rw [List.length_append, List.length_append, List.length_cons, List.length_cons, ih]
    omega

/-! ## Texts -/

/-- The digits of an identifier are thirty-two. -/
theorem length_digits (h : bytesOfHex? digits = some u.bytes) : digits.length = 32 := by
  rw [Text.length_of_bytesOfHex? h, u.length_bytes]

theorem isWrittenAs_text (u : Uuid) : u.IsWrittenAs u.text.toList := by
  have hhex := Text.isHex_hexChars u.bytes
  rw [text, String.toList_ofList]
  refine ⟨_, hhex, isHyphenated_hyphenate ?_⟩
  rw [length_digits hhex.2]
  decide

theorem ofDigits?_eq_some_iff : ofDigits? cs = some u ↔ bytesOfHex? cs = some u.bytes := by
  rw [ofDigits?, Option.bind_eq_some_iff]
  constructor
  · rintro ⟨bytes, hbytes, h⟩
    unfold ofBytes? at h
    split at h
    · exact Option.some.inj h ▸ hbytes
    · cases h
  · exact fun h => ⟨_, h, ofBytes?_bytes u⟩

theorem ofHyphenated?_eq_some_iff : ofHyphenated? cs = some u
    ↔ ∃ digits, bytesOfHex? digits = some u.bytes ∧ IsHyphenated [8, 4, 4, 4] digits cs := by
  rw [ofHyphenated?, Option.bind_eq_some_iff]
  refine exists_congr fun digits => ?_
  rw [ofDigits?_eq_some_iff, and_comm]
  exact and_congr_right fun _ => unhyphenate?_eq_some_iff

/-- A text in braces. -/
theorem exists_braced (hhead : cs.head? = some '\x7b') (hlast : cs.getLast? = some '\x7d') :
    cs = '\x7b' :: ((cs.drop 1).dropLast ++ ['\x7d']) := by
  obtain ⟨rest, rfl⟩ := List.head?_eq_some_iff.mp hhead
  obtain ⟨front, hfront⟩ := List.getLast?_eq_some_iff.mp hlast
  cases front with
  | nil => exact absurd (List.cons.inj hfront).1 (by decide)
  | cons c front =>
    have hrest : rest = front ++ ['\x7d'] := (List.cons.inj hfront).2
    rw [List.drop_one, List.tail_cons, hrest, List.dropLast_concat]

/-- What is read names what it is read as. -/
theorem isNamedBy_of_ofText? {s : String} (h : ofText? s = some u) : u.IsNamedBy s.toList := by
  unfold ofText? at h
  generalize s.toList = cs at h ⊢
  simp only at h
  split at h
  · exact .digits (ofDigits?_eq_some_iff.mp h)
  split at h
  · obtain ⟨digits, hdigits, hcs⟩ := ofHyphenated?_eq_some_iff.mp h
    exact .hyphenated hdigits hcs
  split at h
  · split at h
    · rename_i hbraces
      rw [Bool.and_eq_true, decide_eq_true_eq, decide_eq_true_eq] at hbraces
      obtain ⟨digits, hdigits, hcs⟩ := ofHyphenated?_eq_some_iff.mp h
      rw [exists_braced hbraces.1 hbraces.2]
      exact .braced hdigits hcs
    · cases h
  split at h
  · split at h
    · rename_i hscheme
      obtain ⟨digits, hdigits, hcs⟩ := ofHyphenated?_eq_some_iff.mp h
      rw [← List.take_append_drop 9 cs]
      exact .urn hdigits hscheme hcs
    · cases h
  · cases h

/-- **What is read is what is named.** The four forms have different lengths. -/
theorem ofText?_eq_some_iff {s : String} : ofText? s = some u ↔ u.IsNamedBy s.toList := by
  refine ⟨isNamedBy_of_ofText?, fun h => ?_⟩
  unfold ofText?
  generalize s.toList = cs at h ⊢
  have hhyphenated {digits cs : List Char} (hdigits : bytesOfHex? digits = some u.bytes)
      (hcs : IsHyphenated [8, 4, 4, 4] digits cs) :
      cs.length = 36 ∧ ofHyphenated? cs = some u :=
    ⟨hcs.length_eq.trans (congrArg (· + 4) (length_digits hdigits)),
      ofHyphenated?_eq_some_iff.mpr ⟨_, hdigits, hcs⟩⟩
  cases h with
  | digits h =>
    rw [if_pos (length_digits h)]
    exact ofDigits?_eq_some_iff.mpr h
  | hyphenated hdigits hcs =>
    obtain ⟨hlength, hread⟩ := hhyphenated hdigits hcs
    rw [if_neg (by omega), if_pos hlength]
    exact hread
  | @braced digits cs hdigits hcs =>
    obtain ⟨hlength, hread⟩ := hhyphenated hdigits hcs
    have hbraced : ('\x7b' :: (cs ++ ['\x7d'])).length = 38 := by
      rw [List.length_cons, List.length_append, hlength]
      rfl
    have hbraces : (decide (('\x7b' :: (cs ++ ['\x7d'])).head? = some '\x7b')
        && decide (('\x7b' :: (cs ++ ['\x7d'])).getLast? = some '\x7d')) = true := by
      rw [← List.cons_append, List.getLast?_concat]
      rfl
    rw [if_neg (by omega), if_neg (by omega), if_pos hbraced, if_pos hbraces, List.drop_one,
      List.tail_cons, List.dropLast_concat]
    exact hread
  | @urn digits scheme cs hdigits hscheme hcs =>
    obtain ⟨hlength, hread⟩ := hhyphenated hdigits hcs
    have hnine : scheme.length = 9 := by
      rw [← List.length_map Char.toLower, hscheme]
      rfl
    have hnamed : (scheme ++ cs).length = 45 := by rw [List.length_append, hnine, hlength]
    rw [if_neg (by omega), if_neg (by omega), if_neg (by omega), if_pos hnamed,
      List.take_left' hnine, if_pos (show _ = urn from hscheme), List.drop_left' hnine]
    exact hread

end Uuid

end PgStatement
