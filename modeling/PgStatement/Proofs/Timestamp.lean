import PgStatement.Calendar.Timestamp

/-!
# Moments in microseconds

A moment is sent in whole microseconds. What is below is cut off toward 1 January 2000
(`Timestamp.cut`), so that a moment before that date may move into the next second, and even into
the next day. It never leaves the calendar, unless it is a leap second, of which the format knows
nothing.
-/

namespace PgStatement.Timestamp

-- powers are those of the core library, whatever else is imported further on
attribute [local instance (high)] instPowNat

variable {t : Timestamp}

/-- Nanoseconds since 1 January 2000. -/
def nanoseconds (t : Timestamp) : Int := (t.second - wireEpoch) * 1000000000 + t.nano

/-- **The moment in whole microseconds**, the rest being cut off toward 1 January 2000. -/
def cut (t : Timestamp) : Timestamp :=
  let kept := t.nanoseconds.tdiv 1000 * 1000
  (ofUnix? (wireEpoch + kept / 1000000000) (kept % 1000000000).toNat).getD t

/-- How far a moment moves when it is cut. -/
theorem tdiv_bounds (n : Int) :
    (0 ≤ n ∧ n.tdiv 1000 = n / 1000)
      ∨ (n < 0 ∧ n ≤ n.tdiv 1000 * 1000 ∧ n.tdiv 1000 * 1000 < n + 1000 ∧ n.tdiv 1000 ≤ 0) := by
  by_cases h : 0 ≤ n
  · exact .inl ⟨h, Int.tdiv_eq_ediv_of_nonneg h⟩
  · have hneg : n.tdiv 1000 = -((-n) / 1000) := by
      rw [← Int.tdiv_eq_ediv_of_nonneg (by omega), Int.neg_tdiv, Int.neg_neg]
    omega

theorem microseconds_eq (t : Timestamp) : t.microseconds = t.nanoseconds.tdiv 1000 := rfl

/-- The number of seconds of a moment that is cut. -/
theorem inRange_cut (h : t.nano < 1000000000) :
    Date.firstDay ≤ (wireEpoch + t.microseconds / 1000000) / 86400
      ∧ (wireEpoch + t.microseconds / 1000000) / 86400 ≤ Date.lastDay := by
  have hrange := t.inRange
  have hbounds := tdiv_bounds t.nanoseconds
  rw [microseconds_eq]
  generalize t.nanoseconds.tdiv 1000 = micros at hbounds ⊢
  unfold nanoseconds wireEpoch at hbounds
  unfold wireEpoch
  unfold Date.firstDay Date.lastDay at hrange ⊢
  omega

theorem ofMicroseconds?_eq (micros : Int) :
    ofMicroseconds? micros
      = ofUnix? (wireEpoch + micros * 1000 / 1000000000) (micros * 1000 % 1000000000).toNat := by
  have hsecond : micros * 1000 / 1000000000 = micros / 1000000 := by omega
  have hnano : (micros * 1000 % 1000000000).toNat = (micros % 1000000).toNat * 1000 := by omega
  rw [hsecond, hnano]
  rfl

/-- Microseconds are a moment if their day is in the calendar. -/
theorem exists_ofMicroseconds? {micros : Int}
    (h : Date.firstDay ≤ (wireEpoch + micros / 1000000) / 86400
      ∧ (wireEpoch + micros / 1000000) / 86400 ≤ Date.lastDay) :
    ∃ moment, ofMicroseconds? micros = some moment := by
  refine Option.isSome_iff_exists.mp ?_
  unfold ofMicroseconds? ofUnix?
  rw [dif_pos ⟨h, by omega, by omega⟩]
  rfl

/-- **The moment that is read** is the one that was sent, in whole microseconds. -/
theorem ofMicroseconds?_microseconds (h : t.nano < 1000000000) :
    ofMicroseconds? t.microseconds = some t.cut := by
  obtain ⟨moment, hmoment⟩ := exists_ofMicroseconds? (inRange_cut h)
  rw [hmoment]
  rw [ofMicroseconds?_eq] at hmoment
  unfold cut
  simp only
  rw [← microseconds_eq, hmoment]
  rfl

theorem nanoseconds_of_ofMicroseconds? {micros : Int} (h : ofMicroseconds? micros = some t) :
    t.nanoseconds = micros * 1000 := by
  rw [ofMicroseconds?_eq] at h
  unfold ofUnix? at h
  split at h
  · rw [← Option.some.inj h]
    unfold nanoseconds
    simp only
    omega
  · cases h

/-- A moment that is read is no leap second. -/
theorem nano_lt_of_ofMicroseconds? {micros : Int} (h : ofMicroseconds? micros = some t) :
    t.nano < 1000000000 := by
  unfold ofMicroseconds? ofUnix? at h
  split at h
  · rw [← Option.some.inj h]
    simp only
    omega
  · cases h

/-- **A moment that is read** is sent in the microseconds that it was read from. -/
theorem microseconds_of_ofMicroseconds? {micros : Int} (h : ofMicroseconds? micros = some t) :
    t.microseconds = micros := by
  rw [microseconds_eq, nanoseconds_of_ofMicroseconds? h, Int.mul_tdiv_cancel _ (by decide)]

/-- Nothing else changes. -/
theorem nanoseconds_cut (h : t.nano < 1000000000) :
    t.cut.nanoseconds = t.nanoseconds.tdiv 1000 * 1000 :=
  nanoseconds_of_ofMicroseconds? (ofMicroseconds?_microseconds h)

/-- A moment fits the eight bytes that it is sent in. -/
theorem microseconds_bounds (h : t.nano < 1000000000) :
    -(256 ^ (8 : Nat) : Nat) ≤ 2 * t.microseconds
      ∧ 2 * t.microseconds < (256 ^ (8 : Nat) : Nat) := by
  have hrange := inRange_cut h
  have hpower : ((256 ^ (8 : Nat) : Nat) : Int) = 18446744073709551616 := rfl
  unfold wireEpoch Date.firstDay Date.lastDay at hrange
  omega

end PgStatement.Timestamp
