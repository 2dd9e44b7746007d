/-!
# Big-endian integers

All integers of the wire format have a fixed number of bytes, the most significant byte first;
signed ones are in two's complement. A number is written modulo its range (`ofNat`, `ofInt`), and
what was in range reads back (`toNat_ofNat`, `toInt_ofInt`); in the other direction, the bytes read
are the bytes written (`ofNat_toNat`, `ofInt_toInt`).
-/

namespace PgStatement

-- powers are those of the core library, whatever else is imported further on
attribute [local instance (high)] instPowNat

/-- A sequence of bytes. Lists, because every format here is read and written front to back. -/
abbrev Bytes := List UInt8

/-- The first bytes and the rest, if there are that many. -/
def Bytes.take? : (count : Nat) → Bytes → Option (Bytes × Bytes)
  | 0, bytes => some ([], bytes)
  | _ + 1, [] => none
  | count + 1, b :: rest => (Bytes.take? count rest).map fun (front, rest) => (b :: front, rest)

/-- What is taken off the front is all that is missing from the rest. -/
theorem Bytes.take?_eq_some_iff {count : Nat} {bytes front rest : Bytes} :
    Bytes.take? count bytes = some (front, rest)
      ↔ bytes = front ++ rest ∧ front.length = count := by
  induction count generalizing bytes front with
  | zero =>
    rw [Bytes.take?, Option.some.injEq, Prod.mk.injEq, List.length_eq_zero_iff]
    constructor
    · rintro ⟨rfl, rfl⟩
      exact ⟨rfl, rfl⟩
    · rintro ⟨rfl, rfl⟩
      exact ⟨rfl, rfl⟩
  | succ count ih =>
    cases bytes with
    | nil =>
      rw [Bytes.take?]
      constructor
      · intro h
        cases h
      · rintro ⟨h, hlen⟩
        rw [(List.append_eq_nil_iff.1 h.symm).1] at hlen
        cases hlen
    | cons b bytes =>
      rw [Bytes.take?, Option.map_eq_some_iff]
      constructor
      · rintro ⟨⟨front', rest'⟩, h, heq⟩
        obtain ⟨rfl, rfl⟩ := heq
        obtain ⟨rfl, hlen⟩ := ih.1 h
        exact ⟨rfl, congrArg (· + 1) hlen⟩
      · rintro ⟨h, hlen⟩
        cases front with
        | nil => cases hlen
        | cons c front =>
          rw [List.cons_append, List.cons.injEq] at h
          obtain ⟨rfl, rfl⟩ := h
          exact ⟨(front, rest), ih.2 ⟨rfl, Nat.succ.inj hlen⟩, rfl⟩

theorem Bytes.take?_append (front rest : Bytes) :
    Bytes.take? front.length (front ++ rest) = some (front, rest) :=
  Bytes.take?_eq_some_iff.2 ⟨rfl, rfl⟩

namespace BigEndian

/-- A natural number as so many bytes, reduced modulo what they can hold. -/
def ofNat : (width : Nat) → Nat → Bytes
  | 0, _ => []
  | width + 1, n => UInt8.ofNat (n / 256 ^ width) :: ofNat width (n % 256 ^ width)

/-- The natural number that bytes stand for. -/
def toNat : Bytes → Nat
  | [] => 0
  | b :: rest => b.toNat * 256 ^ rest.length + toNat rest

/-- An integer as so many bytes in two's complement, reduced modulo what they can hold. -/
def ofInt (width : Nat) (i : Int) : Bytes := ofNat width (i % (256 ^ width : Nat)).toNat

/-- The integer that bytes stand for in two's complement. -/
def toInt (bytes : Bytes) : Int :=
  if 2 * toNat bytes < 256 ^ bytes.length then toNat bytes
  else (toNat bytes : Int) - (256 ^ bytes.length : Nat)

@[simp] theorem length_ofNat (width n : Nat) : (ofNat width n).length = width := by
  induction width generalizing n with
  | zero => rfl
  | succ width ih => simp [ofNat, ih]

@[simp] theorem length_ofInt (width : Nat) (i : Int) : (ofInt width i).length = width :=
  length_ofNat _ _

theorem toNat_lt (bytes : Bytes) : toNat bytes < 256 ^ bytes.length := by
  induction bytes with
  | nil => simp [toNat]
  | cons b rest ih =>
    have hb : b.toNat + 1 ≤ 256 := b.toNat_lt
    have hmul : (b.toNat + 1) * 256 ^ rest.length ≤ 256 * 256 ^ rest.length :=
      Nat.mul_le_mul_right _ hb
    simp only [toNat, List.length_cons, Nat.pow_succ]
    rw [Nat.add_mul] at hmul
    omega

/-- What bytes hold fits their number. -/
theorem toInt_bounds (bytes : Bytes) :
    -(256 ^ bytes.length : Nat) ≤ 2 * toInt bytes
      ∧ 2 * toInt bytes < (256 ^ bytes.length : Nat) := by
  have hlt := toNat_lt bytes
  unfold toInt
  generalize 256 ^ bytes.length = m at hlt ⊢
  split <;> omega

/-- **Written numbers read back**, when they fit. -/
theorem toNat_ofNat {width n : Nat} (h : n < 256 ^ width) : toNat (ofNat width n) = n := by
  induction width generalizing n with
  | zero =>
    have : n = 0 := by simpa using h
    simp [ofNat, toNat, this]
  | succ width ih =>
    have hpos : 0 < 256 ^ width := Nat.pow_pos (by decide)
    have hq : n / 256 ^ width < 256 := by
      rw [Nat.div_lt_iff_lt_mul hpos]
      rwa [Nat.pow_succ, Nat.mul_comm] at h
    have hb : (UInt8.ofNat (n / 256 ^ width)).toNat = n / 256 ^ width := by
      rw [UInt8.toNat_ofNat']
      exact Nat.mod_eq_of_lt hq
    rw [ofNat, toNat, length_ofNat, ih (Nat.mod_lt _ hpos), hb]
    exact Nat.div_add_mod' n (256 ^ width)

/-- **Bytes that were read are written again.** -/
theorem ofNat_toNat (bytes : Bytes) : ofNat bytes.length (toNat bytes) = bytes := by
  induction bytes with
  | nil => rfl
  | cons b rest ih =>
    have hpos : 0 < 256 ^ rest.length := Nat.pow_pos (by decide)
    have hlt := toNat_lt rest
    have hdiv : (b.toNat * 256 ^ rest.length + toNat rest) / 256 ^ rest.length = b.toNat := by
      rw [Nat.add_comm, Nat.add_mul_div_right _ _ hpos, Nat.div_eq_of_lt hlt, Nat.zero_add]
    have hmod : (b.toNat * 256 ^ rest.length + toNat rest) % 256 ^ rest.length
        = toNat rest := by
      rw [Nat.add_comm, Nat.add_mul_mod_self_right, Nat.mod_eq_of_lt hlt]
    rw [List.length_cons, toNat, ofNat, hdiv, hmod, ih]
    simp

/-- **Written integers read back**, when they fit. -/
theorem toInt_ofInt {width : Nat} {i : Int} (hlow : -(256 ^ width : Nat) ≤ 2 * i)
    (hhigh : 2 * i < (256 ^ width : Nat)) : toInt (ofInt width i) = i := by
  have hpos : 0 < 256 ^ width := Nat.pow_pos (by decide)
  generalize hm : 256 ^ width = m at *
  have hr : (i % (m : Int)).toNat < 256 ^ width := by
    have := Int.emod_lt_of_pos i (show (0 : Int) < m by omega)
    have := Int.emod_nonneg i (show (m : Int) ≠ 0 by omega)
    omega
  rw [toInt, ofInt, length_ofNat, hm, toNat_ofNat hr]
  by_cases hi : 0 ≤ i
  · have : i % (m : Int) = i := Int.emod_eq_of_lt hi (by omega)
    rw [this, if_pos (by omega)]
    omega
  · have : i % (m : Int) = i + m := by
      rw [← Int.add_emod_right]
      exact Int.emod_eq_of_lt (by omega) (by omega)
    rw [this, if_neg (by omega)]
    omega

/-- Integers of four and of eight bytes always fit. -/
theorem toInt_ofInt_int32 (i : Int32) : toInt (ofInt 4 i.toInt) = i.toInt := by
  have hlow := i.le_toInt
  have hhigh := i.toInt_lt
  exact toInt_ofInt (by omega) (by omega)

theorem toInt_ofInt_int64 (i : Int64) : toInt (ofInt 8 i.toInt) = i.toInt := by
  have hlow := i.le_toInt
  have hhigh := i.toInt_lt
  exact toInt_ofInt (by omega) (by omega)

/-- **Bytes that were read as a signed integer are written again.** -/
theorem ofInt_toInt (bytes : Bytes) : ofInt bytes.length (toInt bytes) = bytes := by
  have hlt := toNat_lt bytes
  have hmod : (toInt bytes % (256 ^ bytes.length : Nat)).toNat = toNat bytes := by
    unfold toInt
    generalize 256 ^ bytes.length = m at *
    split
    · rw [Int.emod_eq_of_lt (by omega) (by omega)]
      omega
    · rw [Int.sub_emod_right, Int.emod_eq_of_lt (by omega) (by omega)]
      omega
  rw [ofInt, hmod]
  exact ofNat_toNat bytes

theorem ofInt_toInt_of_length {bytes : Bytes} {width : Nat} (h : bytes.length = width) :
    ofInt width (toInt bytes) = bytes := by
  rw [← h, ofInt_toInt]

end BigEndian

end PgStatement
