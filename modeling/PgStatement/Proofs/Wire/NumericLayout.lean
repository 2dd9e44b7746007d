import PgStatement.Proofs.Wire.NumericBytes

/-!
# What is taken for a decimal number

A reader of a format may check what it reads, or read as far as it needs. Bytes are a decimal number
as the format has it if as many groups as they announce are there and nothing behind them, and each
group has four decimal digits (`Numeric.IsLaidOut`). All such bytes are read, but not only such
bytes.

What is looked at is less (`Numeric.IsComplete`): the fields before the groups and, unless the sign
says that the number is none, the announced groups. So bytes that end too early are refused, as is a
sign that is not known, and what was read is what the bytes begin with (`Numeric.decode_eq_ok_iff`).
But bytes behind the groups are passed over, announced groups need not be there behind the sign of a
special value, and a group may be any number of two bytes, which is then written with five digits.
-/

namespace PgStatement.Wire

namespace Numeric

/-! ## The layout -/

/-- How many groups the first field announces. -/
def announced (raw : Bytes) : Nat := BigEndian.toNat (field raw 0)

/-- The third field, which is the code of the sign. -/
def signCode (raw : Bytes) : Nat := BigEndian.toNat (field raw 4)

/-- **A decimal number as the format has it.** -/
structure IsLaidOut (raw : Bytes) : Prop where
  /-- The announced groups are there, and nothing behind them. -/
  length_eq : raw.length = 8 + 2 * announced raw
  /-- The sign is known. -/
  sign_known : ∃ sign : Sign, signCode raw = sign.code
  /-- Groups have four digits. -/
  group_lt : ∀ i < announced raw, BigEndian.toNat (field raw (8 + 2 * i)) < 10000

/-- The signs of numbers that are some. -/
def Sign.IsFinite (sign : Sign) : Prop := sign = .positive ∨ sign = .negative

instance (sign : Sign) : Decidable sign.IsFinite := inferInstanceAs (Decidable (_ ∨ _))

/-- **What is looked at**: that the fields before the groups are there, that the sign is known, and
that a finite number has as many groups as it announces. -/
structure IsComplete (raw : Bytes) : Prop where
  /-- There are four fields. -/
  header : 8 ≤ raw.length
  /-- The sign is known, and a finite number has its groups. -/
  groups : ∃ sign : Sign, signCode raw = sign.code
    ∧ (sign.IsFinite → 8 + 2 * announced raw ≤ raw.length)

/-- The sign of a number. -/
def sign : Numeric → Sign
  | .nan => .nan
  | .infinity => .infinity
  | .negativeInfinity => .negativeInfinity
  | .finite negative _ _ _ => if negative then .negative else .positive

/-- **The number that bytes begin with**: a finite one with all its fields, a special one with the
four fields before the groups. -/
def BeginsWith (raw : Bytes) : Numeric → Prop
  | .finite negative weight scale groups =>
    ∃ front behind, raw = front ++ behind ∧ HasFields front negative weight scale groups
  | n => 8 ≤ raw.length ∧ signCode raw = n.sign.code

theorem IsLaidOut.isComplete {raw : Bytes} (h : IsLaidOut raw) : IsComplete raw := by
  obtain ⟨sign, hsign⟩ := h.sign_known
  have hlength := h.length_eq
  exact ⟨by omega, sign, hsign, fun _ => hlength.ge⟩

/-! ## Reading the groups -/

variable {raw rest : Bytes} {count : Nat} {groups : List Nat}

/-- What is read are words at the front of the bytes. -/
theorem exists_of_words? (h : words? count rest = some groups) :
    groups.length = count ∧ (∀ g ∈ groups, g < 2 ^ 16)
      ∧ ∃ behind, rest = groups.flatMap word ++ behind := by
  induction count, rest using words?.induct generalizing groups with
  | case1 rest =>
    rw [words?, Option.some.injEq] at h
    subst h
    exact ⟨rfl, nofun, rest, rfl⟩
  | case2 count high low rest ih =>
    have hword : word (BigEndian.toNat [high, low]) = [high, low] :=
      BigEndian.ofNat_toNat [high, low]
    have hbound : BigEndian.toNat [high, low] < 2 ^ 16 := by
      simpa using BigEndian.toNat_lt [high, low]
    rw [words?, Option.map_eq_some_iff] at h
    obtain ⟨groups, h, rfl⟩ := h
    obtain ⟨hlength, hlt, behind, rfl⟩ := ih h
    refine ⟨congrArg (· + 1) hlength, List.forall_mem_cons.mpr ⟨hbound, hlt⟩, behind, ?_⟩
    rw [List.flatMap_cons, hword]
    rfl
  | case3 count rest hshort =>
    rw [words?] at h
    · cases h
    · exact hshort

/-- Groups are missing only if bytes are. -/
theorem exists_words?_iff :
    (∃ groups, words? count rest = some groups) ↔ 2 * count ≤ rest.length := by
  induction count, rest using words?.induct with
  | case1 rest => exact iff_of_true ⟨[], by rw [words?]⟩ (Nat.zero_le _)
  | case2 count high low rest ih =>
    simp only [words?, Option.map_eq_some_iff, List.length_cons]
    constructor
    · rintro ⟨_, groups, h, -⟩
      have hlength := ih.mp ⟨groups, h⟩
      omega
    · intro hlength
      obtain ⟨groups, h⟩ := ih.mpr (by omega)
      exact ⟨_, groups, h, rfl⟩
  | case3 count rest hshort =>
    refine iff_of_false ?_ ?_
    · rintro ⟨groups, h⟩
      rw [words?] at h
      · cases h
      · exact hshort
    · intro hlength
      match rest, hlength with
      | high :: low :: rest, _ => exact hshort high low rest rfl

/-! ## Fields of bytes that go on -/

variable {front behind : Bytes} {place : Nat}

theorem field_append (h : place + 2 ≤ front.length) :
    field (front ++ behind) place = field front place := by
  have hrest : 2 ≤ (front.drop place).length := by
    rw [List.length_drop]
    omega
  rw [field, List.drop_append_of_le_length (by omega), List.take_append_of_le_length hrest, field]

theorem field_length_add (front behind : Bytes) (place : Nat) :
    field (front ++ behind) (front.length + place) = field behind place := by
  rw [field, List.drop_length_add_append, field]

theorem length_flatMap_word (groups : List Nat) :
    (groups.flatMap word).length = 2 * groups.length := by
  induction groups with
  | nil => rfl
  | cons g groups ih =>
    rw [List.flatMap_cons, List.length_append, ih, word, BigEndian.length_ofNat, List.length_cons]
    omega

theorem field_flatMap_word (groups : List Nat) (i : Nat) (h : i < groups.length) :
    field (groups.flatMap word) (2 * i) = word groups[i] := by
  induction groups generalizing i with
  | nil => cases h
  | cons g groups ih =>
    obtain ⟨first, second, hg⟩ := word_eq g
    rw [List.flatMap_cons]
    cases i with
    | zero =>
      rw [hg]
      exact hg.symm
    | succ i =>
      have hplace : 2 * (i + 1) = (word g).length + 2 * i := by
        rw [hg, List.length_cons, List.length_singleton]
        omega
      rw [hplace, field_length_add, ih i (Nat.lt_of_succ_lt_succ h), List.getElem_cons_succ]

/-! ## Reading a number -/

theorem ofCode?_eq_some_iff {code : Nat} {sign : Sign} :
    Sign.ofCode? code = some sign ↔ code = sign.code := by
  refine ⟨fun h => ?_, fun h => h ▸ ofCode?_code sign⟩
  unfold Sign.ofCode? at h
  have hfound := List.find?_some h
  exact (beq_iff_eq.mp hfound).symm

theorem decode_of_short (h : raw.length < 8) : decode raw = .error .numericTruncated := by
  unfold decode
  split
  · simp only [List.length_cons] at h
    omega
  · rfl

/-- Bytes with four fields are read by the sign. -/
theorem decode_of_header (h : 8 ≤ raw.length) :
    decode raw =
      match Sign.ofCode? (signCode raw) with
      | none => .error (.numericSign (signCode raw))
      | some .nan => .ok .nan
      | some .infinity => .ok .infinity
      | some .negativeInfinity => .ok .negativeInfinity
      | some sign =>
        match words? (announced raw) (raw.drop 8) with
        | some groups =>
          .ok (.finite (sign == .negative) (BigEndian.toInt (field raw 2))
            (BigEndian.toNat (field raw 6)) groups)
        | none => .error .numericTruncated := by
  match raw, h with
  | _ :: _ :: _ :: _ :: _ :: _ :: _ :: _ :: _, _ => rfl

variable {sign : Sign} {negative : Bool} {weight : Int} {scale : Nat}

/-- Behind a sign that is known, a special value is read without its groups. -/
theorem decode_of_special (h : 8 ≤ raw.length) {n : Numeric} (hn : n.IsSpecial)
    (hsign : signCode raw = n.sign.code) : decode raw = .ok n := by
  rw [decode_of_header h, ofCode?_eq_some_iff.mpr hsign]
  cases n with
  | finite => cases hn
  | nan | infinity | negativeInfinity => rfl

/-- Behind the sign of a finite number, its groups are read. -/
theorem decode_of_isFinite (h : 8 ≤ raw.length) (hfinite : sign.IsFinite)
    (hsign : signCode raw = sign.code) :
    decode raw =
      match words? (announced raw) (raw.drop 8) with
      | some groups =>
        .ok (.finite (sign == .negative) (BigEndian.toInt (field raw 2))
          (BigEndian.toNat (field raw 6)) groups)
      | none => .error .numericTruncated := by
  rw [decode_of_header h, ofCode?_eq_some_iff.mpr hsign]
  obtain rfl | rfl := hfinite
  · rfl
  · rfl

/-- Bytes with fields, and the groups behind them, have the fields of the number. -/
theorem hasFields_take_append (h : 8 ≤ raw.length) (hcount : groups.length = announced raw)
    (hlt : ∀ g ∈ groups, g < 2 ^ 16)
    (hsign : signCode raw = if negative then Sign.negative.code else Sign.positive.code) :
    HasFields (raw.take 8 ++ groups.flatMap word) negative (BigEndian.toInt (field raw 2))
      (BigEndian.toNat (field raw 6)) groups := by
  have hlength : (raw.take 8).length = 8 := List.length_take_of_le h
  have hfield : ∀ place, place + 2 ≤ 8 →
      field (raw.take 8 ++ groups.flatMap word) place = field raw place := by
    intro place hplace
    have hfront : place + 2 ≤ (raw.take 8).length := by omega
    have hraw : field (raw.take 8 ++ raw.drop 8) place = field (raw.take 8) place :=
      field_append hfront
    rw [field_append hfront, ← hraw, List.take_append_drop]
  refine ⟨?_, ?_, ?_, ?_, ?_, fun i hi => ?_⟩
  · rw [List.length_append, hlength, length_flatMap_word]
  · rw [hfield 0 (by decide), hcount, announced]
  · rw [hfield 2 (by decide)]
  · rw [hfield 4 (by decide)]
    exact hsign
  · rw [hfield 6 (by decide)]
  · have hplace : 8 + 2 * i = (raw.take 8).length + 2 * i := by rw [hlength]
    rw [hplace, field_length_add, field_flatMap_word groups i hi,
      toNat_word (hlt _ (List.getElem_mem hi))]

theorem HasFields.lt (h : HasFields raw negative weight scale groups) :
    ∀ g ∈ groups, g < 2 ^ 16 := by
  intro g hg
  obtain ⟨i, hi, rfl⟩ := List.getElem_of_mem hg
  have hlength := h.length_eq
  have hbound := BigEndian.toNat_lt (field raw (8 + 2 * i))
  rw [h.group_eq i hi, length_field (by omega)] at hbound
  exact hbound

theorem isFinite_sign : (finite negative weight scale groups).sign.IsFinite := by
  cases negative with
  | true => exact .inr rfl
  | false => exact .inl rfl

/-- **What is read has four fields**, and the sign that the third one says. -/
theorem sign_of_decode {n : Numeric} (h : decode raw = .ok n) :
    8 ≤ raw.length ∧ signCode raw = n.sign.code := by
  have hlength : 8 ≤ raw.length := by
    by_contra hshort
    rw [decode_of_short (Nat.lt_of_not_le hshort)] at h
    cases h
  refine ⟨hlength, ?_⟩
  cases hcode : Sign.ofCode? (signCode raw) with
  | none =>
    rw [decode_of_header hlength, hcode] at h
    cases h
  | some sign =>
    have hsign := ofCode?_eq_some_iff.mp hcode
    rw [hsign]
    by_cases hfinite : sign.IsFinite
    · rw [decode_of_isFinite hlength hfinite hsign] at h
      split at h
      · cases h
        obtain rfl | rfl := hfinite
        · rfl
        · rfl
      · cases h
    · rw [decode_of_header hlength, hcode] at h
      cases sign with
      | positive => exact absurd (.inl rfl) hfinite
      | negative => exact absurd (.inr rfl) hfinite
      | nan | infinity | negativeInfinity =>
        cases h
        rfl

/-- **A number is read** if it is the one that the bytes begin with. -/
theorem decode_eq_ok_iff {n : Numeric} : decode raw = .ok n ↔ BeginsWith raw n := by
  constructor
  · intro h
    obtain ⟨hlength, hsign⟩ := sign_of_decode h
    cases n with
    | nan | infinity | negativeInfinity => exact ⟨hlength, hsign⟩
    | finite negative weight scale groups =>
      rw [decode_of_isFinite hlength isFinite_sign hsign] at h
      split at h
      · rename_i hwords
        obtain ⟨hcount, hlt, behind, hdrop⟩ := exists_of_words? hwords
        simp only [Except.ok.injEq, finite.injEq] at h
        obtain ⟨-, rfl, rfl, rfl⟩ := h
        -- The number is in the four fields and the groups that were read; the rest is behind it.
        refine ⟨_, behind, ?_, hasFields_take_append hlength hcount hlt ?_⟩
        · rw [List.append_assoc, ← hdrop, List.take_append_drop]
        · rw [hsign, sign]
          exact apply_ite Sign.code _ _ _
      · cases h
  · intro h
    cases n with
    | nan | infinity | negativeInfinity => exact decode_of_special h.1 trivial h.2
    | finite negative weight scale groups =>
      obtain ⟨front, behind, rfl, hfields⟩ := h
      obtain ⟨hscale, hcount, hlow, hhigh⟩ := hfields.fits
      rw [hfields.eq_header_append, List.append_assoc,
        decode_header_append _ _ hcount hscale hlow hhigh, words?_flatMap_word hfields.lt]
      cases negative with
      | true => rfl
      | false => rfl

/-- **Bytes are read** if they have what is looked at. -/
theorem exists_decode_iff : (∃ n, decode raw = .ok n) ↔ IsComplete raw := by
  constructor
  · rintro ⟨n, h⟩
    obtain ⟨hlength, hsign⟩ := sign_of_decode h
    refine ⟨hlength, n.sign, hsign, fun hfinite => ?_⟩
    rw [decode_of_isFinite hlength hfinite hsign] at h
    split at h
    · rename_i groups hwords
      have hdrop := exists_words?_iff.mp ⟨groups, hwords⟩
      rw [List.length_drop] at hdrop
      omega
    · cases h
  · rintro ⟨hlength, sign, hsign, hgroups⟩
    by_cases hfinite : sign.IsFinite
    · have hdrop : 2 * announced raw ≤ (raw.drop 8).length := by
        have hannounced := hgroups hfinite
        rw [List.length_drop]
        omega
      obtain ⟨groups, hwords⟩ := exists_words?_iff.mpr hdrop
      rw [decode_of_isFinite hlength hfinite hsign, hwords]
      exact ⟨_, rfl⟩
    · cases sign with
      | positive => exact absurd (.inl rfl) hfinite
      | negative => exact absurd (.inr rfl) hfinite
      | nan => exact ⟨.nan, decode_of_special hlength trivial hsign⟩
      | infinity => exact ⟨.infinity, decode_of_special hlength trivial hsign⟩
      | negativeInfinity => exact ⟨.negativeInfinity, decode_of_special hlength trivial hsign⟩

end Numeric

/-- **Which bytes are taken for a decimal number.** Bytes are read if they have the fields before
the groups, a sign that is known and, if it is the sign of a finite number, the announced groups.
The number is the one that they begin with. All bytes that are laid out as the format has it are
among them. -/
theorem decodeNumeric_begins (raw : Bytes) :
    ((∃ n, Numeric.decode raw = .ok n) ↔ Numeric.IsComplete raw)
      ∧ (∀ n, Numeric.decode raw = .ok n ↔ Numeric.BeginsWith raw n)
      ∧ (Numeric.IsLaidOut raw → ∃ n, Numeric.decode raw = .ok n) :=
  ⟨Numeric.exists_decode_iff, fun _ => Numeric.decode_eq_ok_iff,
    fun h => Numeric.exists_decode_iff.mpr h.isComplete⟩

/-- The price -12.50, with a group behind it and without. -/
theorem decodeNumeric_begins_price :
    Numeric.IsLaidOut [0, 2, 0, 0, 0x40, 0, 0, 2, 0, 12, 0x13, 0x88]
      ∧ (∃ n, Numeric.decode [0, 2, 0, 0, 0x40, 0, 0, 2, 0, 12, 0x13, 0x88] = .ok n)
      ∧ Numeric.decode [0, 2, 0, 0, 0x40, 0, 0, 2, 0, 12, 0x13, 0x88]
        = .ok (.finite true 0 2 [12, 5000])
      ∧ Numeric.decode [0, 2, 0, 0, 0x40, 0, 0, 2, 0, 12, 0x13, 0x88, 0, 1]
        = .ok (.finite true 0 2 [12, 5000]) := by
  have hfields :
      Numeric.HasFields [0, 2, 0, 0, 0x40, 0, 0, 2, 0, 12, 0x13, 0x88] true 0 2 [12, 5000] :=
    ⟨rfl, by decide, by decide, by decide, by decide, by decide⟩
  have hlaidOut : Numeric.IsLaidOut [0, 2, 0, 0, 0x40, 0, 0, 2, 0, 12, 0x13, 0x88] :=
    ⟨by decide, ⟨.negative, by decide⟩, by decide⟩
  refine ⟨hlaidOut, (decodeNumeric_begins _).2.2 hlaidOut, ?_, ?_⟩
  · exact ((decodeNumeric_begins _).2.1 _).mpr ⟨_, [], (List.append_nil _).symm, hfields⟩
  · exact ((decodeNumeric_begins _).2.1 _).mpr ⟨_, [0, 1], rfl, hfields⟩

/-- **Bytes that the format does not have are read** as if they were numbers: with a byte behind the
groups, with a group of five digits, and with fewer groups than are announced. -/
theorem decodeNumeric_malformed :
    (Numeric.text <$> Numeric.decode [0, 0, 0, 0, 0, 0, 0, 0, 255] = .ok "0"
        ∧ ¬Numeric.IsLaidOut [0, 0, 0, 0, 0, 0, 0, 0, 255])
      ∧ (Numeric.text <$> Numeric.decode [0, 1, 0, 0, 0, 0, 0, 0, 0x27, 0x10] = .ok "10000"
        ∧ ¬Numeric.IsLaidOut [0, 1, 0, 0, 0, 0, 0, 0, 0x27, 0x10])
      ∧ (Numeric.text <$> Numeric.decode [0, 1, 0, 0, 0xc0, 0, 0, 0] = .ok "NaN"
        ∧ ¬Numeric.IsLaidOut [0, 1, 0, 0, 0xc0, 0, 0, 0]) := by
  refine ⟨⟨by decide, fun h => ?_⟩, ⟨by decide, fun h => ?_⟩, by decide, fun h => ?_⟩
  · exact absurd h.length_eq (by decide)
  · exact absurd (h.group_lt 0 (by decide)) (by decide)
  · exact absurd h.length_eq (by decide)

end PgStatement.Wire
