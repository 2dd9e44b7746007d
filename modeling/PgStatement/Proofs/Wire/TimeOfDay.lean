import PgStatement.Proofs.Wire.Canonical
import PgStatement.Proofs.Wire.Clock

/-!
# Times of day are read back

A time of day comes with a zone or without one, and the two are written by different writers. Here
it is shown what their texts still say.

A time with a zone is followed by its offset, whose groups are written as far as they are needed.
The text is cut at the first sign, and what stands on either side is read on its own
(`ZonedTime.read?`). That gives the microseconds and the seconds to the west from which the text was
written, so nothing is lost (`ZonedTime.recovered_from_text`).

A time without a zone is read in the same way, but its writer drops whole days. The two agree on
counts below a day, and only on these (`times_agree_before_midnight`): the midnight at the end of a
day, which a server can send, is not told from the one at its beginning (`time_of_endOfDay`).
-/

namespace PgStatement.Wire

open Text

namespace ZonedTime

/-! ## The reader -/

/-- **An offset from universal time** as it is written. -/
structure Offset where
  /-- Whether its sign is a plus. -/
  east : Bool
  /-- The hours. -/
  hours : Nat
  /-- The minutes, if they are written. -/
  minutes : Option Nat
  /-- The seconds, if they are written. -/
  seconds : Option Nat
  deriving DecidableEq

/-- The offset as seconds to the west. -/
def Offset.west (o : Offset) : Int :=
  let seconds : Nat := o.hours * 3600 + o.minutes.getD 0 * 60 + o.seconds.getD 0
  if o.east then -seconds else seconds

/-- The hours of an offset, and behind colons its minutes and its seconds if there are any. -/
def offsetIn? (east : Bool) (cs : List Char) : Option Offset :=
  match cs.splitOn ':' with
  | [] => none
  | hours :: groups => do
    let h ← Clock.hours? hours
    let sixtieths ← groups.mapM Clock.sixtieths?
    if sixtieths.length ≤ 2 then some ⟨east, h, sixtieths[0]?, sixtieths[1]?⟩ else none

/-- An offset from its sign on. -/
def offset? : List Char → Option Offset
  | '+' :: cs => offsetIn? true cs
  | '-' :: cs => offsetIn? false cs
  | _ => none

/-- Whether a character begins an offset. -/
def isSign (c : Char) : Bool := c == '+' || c == '-'

/-- The characters before the offset. -/
def clockPart (text : String) : List Char := text.toList.takeWhile (!isSign ·)

/-- The characters from the offset on. -/
def offsetPart (text : String) : List Char := text.toList.dropWhile (!isSign ·)

/-- **The time and the offset** in a text: microseconds, and the parts of the offset. -/
def read? (text : String) : Option (Nat × Offset) := do
  let micros ← Clock.micros? (clockPart text)
  let offset ← offset? (offsetPart text)
  return (micros, offset)

/-! ## Offsets are read as they were written -/

/-- Minutes and seconds, as far as they are needed. -/
def sixtiethsOf (seconds : Nat) : List Nat :=
  if seconds % 3600 = 0 then []
  else (seconds % 3600 / 60) :: if seconds % 60 = 0 then [] else [seconds % 60]

/-- An offset with the parts that it needs. -/
def offsetOf (west : Int) : Offset where
  east := west ≤ 0
  hours := west.natAbs / 3600
  minutes := (sixtiethsOf west.natAbs)[0]?
  seconds := (sixtiethsOf west.natAbs)[1]?

variable {seconds : Nat} {west : Int}

theorem length_sixtiethsOf (seconds : Nat) : (sixtiethsOf seconds).length ≤ 2 := by
  unfold sixtiethsOf
  split
  · exact Nat.zero_le 2
  · split
    · exact Nat.le_succ 1
    · exact Nat.le_refl 2

theorem lt_of_mem_sixtiethsOf : ∀ n ∈ sixtiethsOf seconds, n < 60 := by
  unfold sixtiethsOf
  split
  · exact nofun
  · refine List.forall_mem_cons.mpr ⟨by omega, ?_⟩
    split
    · exact nofun
    · exact List.forall_mem_singleton.mpr (by omega)

/-- Minutes are needed if the hours are not whole. -/
theorem isSome_minutes_iff : (offsetOf west).minutes.isSome ↔ ¬(3600 : Int) ∣ west := by
  have hdvd : (3600 : Int) ∣ west ↔ west.natAbs % 3600 = 0 := by omega
  rw [hdvd, offsetOf, sixtiethsOf]
  split
  · rename_i h
    exact iff_of_false nofun (not_not.mpr h)
  · rename_i h
    exact iff_of_true rfl h

/-- Seconds are needed if the minutes are not whole. -/
theorem isSome_seconds_iff : (offsetOf west).seconds.isSome ↔ ¬(60 : Int) ∣ west := by
  have hdvd : (60 : Int) ∣ west ↔ west.natAbs % 60 = 0 := by omega
  rw [hdvd, offsetOf, sixtiethsOf]
  split
  · exact iff_of_false nofun (by omega)
  · split
    · rename_i h
      exact iff_of_false nofun (not_not.mpr h)
    · rename_i h
      exact iff_of_true rfl h

theorem total_sixtiethsOf (seconds : Nat) :
    seconds / 3600 * 3600 + (sixtiethsOf seconds)[0]?.getD 0 * 60 + (sixtiethsOf seconds)[1]?.getD 0
      = seconds := by
  unfold sixtiethsOf
  split
  · show seconds / 3600 * 3600 + 0 * 60 + 0 = seconds
    omega
  · split
    · show seconds / 3600 * 3600 + seconds % 3600 / 60 * 60 + 0 = seconds
      omega
    · show seconds / 3600 * 3600 + seconds % 3600 / 60 * 60 + seconds % 60 = seconds
      omega

theorem west_offsetOf (west : Int) : (offsetOf west).west = west := by
  unfold Offset.west offsetOf
  simp only [total_sixtiethsOf, decide_eq_true_eq]
  split
  · omega
  · omega

/-- The text of an offset: a sign, and its groups with colons between. -/
theorem offsetChars_eq (west : Int) :
    offsetChars west = (if west ≤ 0 then '+' else '-')
      :: [':'].intercalate
        (paddedChars 2 (west.natAbs / 3600) :: (sixtiethsOf west.natAbs).map (paddedChars 2)) := by
  have hsign : (if 0 < west then '-' else '+') = if west ≤ 0 then '+' else '-' := by
    by_cases h : 0 < west
    · rw [if_pos h, if_neg (by omega)]
    · rw [if_neg h, if_pos (by omega)]
  simp only [offsetChars, hsign, List.cons_append]
  refine congrArg _ ?_
  unfold sixtiethsOf
  split
  · rw [List.map_nil, List.intercalate_singleton, List.append_nil]
  · split
    · rw [List.map_singleton, List.intercalate_cons_cons, List.intercalate_singleton,
        List.append_nil, List.append_assoc]
      rfl
    · rw [List.map_cons, List.map_singleton, List.intercalate_cons_cons, List.intercalate_cons_cons,
        List.intercalate_singleton, List.append_assoc, List.append_assoc]
      rfl

theorem mapM_sixtieths? {ns : List Nat} (h : ∀ n ∈ ns, n < 60) :
    (ns.map (paddedChars 2)).mapM Clock.sixtieths? = some ns := by
  have hread : ns.mapM (Clock.sixtieths? ∘ paddedChars 2) = some (ns.map id) :=
    mapM_eq_some_map fun n hn => Clock.sixtieths?_paddedChars (h n hn)
  rw [List.mapM_map, hread, List.map_id]

theorem offsetIn?_groups (east : Bool) (seconds : Nat) :
    offsetIn? east ([':'].intercalate
        (paddedChars 2 (seconds / 3600) :: (sixtiethsOf seconds).map (paddedChars 2)))
      = some ⟨east, seconds / 3600, (sixtiethsOf seconds)[0]?, (sixtiethsOf seconds)[1]?⟩ := by
  have hcolon :
      ∀ group ∈ paddedChars 2 (seconds / 3600) :: (sixtiethsOf seconds).map (paddedChars 2),
        ':' ∉ group := by
    refine List.forall_mem_cons.mpr ⟨?_, List.forall_mem_map.mpr fun n _ => ?_⟩
    · exact Clock.colon_not_mem fun _ => isDecimalDigit_of_mem_paddedChars
    · exact Clock.colon_not_mem fun _ => isDecimalDigit_of_mem_paddedChars
  rw [offsetIn?, List.splitOn_intercalate ':' hcolon (List.cons_ne_nil _ _)]
  simp only [Clock.hours?_paddedChars, mapM_sixtieths? lt_of_mem_sixtiethsOf]
  exact if_pos (length_sixtiethsOf seconds)

/-- **An offset is read as it was written.** -/
theorem offset?_offsetChars (west : Int) : offset? (offsetChars west) = some (offsetOf west) := by
  rw [offsetChars_eq, offsetOf]
  by_cases h : west ≤ 0
  · rw [if_pos h, decide_eq_true h]
    exact offsetIn?_groups true west.natAbs
  · rw [if_neg h, decide_eq_false h]
    exact offsetIn?_groups false west.natAbs

/-! ## Nothing is lost -/

/-- **A time ends where its offset begins**, since a time has no sign in it. -/
theorem parts_text (t : ZonedTime) :
    clockPart t.text = timeChars t.micros.natAbs ∧ offsetPart t.text = offsetChars t.west := by
  have hclock : ∀ c ∈ timeChars t.micros.natAbs, (!isSign c) = true := by
    intro c hc
    obtain h | rfl | rfl := Clock.mem_timeChars hc
    · have hplus : c ≠ '+' := by
        rintro rfl
        cases h
      have hminus : c ≠ '-' := by
        rintro rfl
        cases h
      rw [isSign, beq_eq_false_iff_ne.mpr hplus, beq_eq_false_iff_ne.mpr hminus]
      rfl
    · rfl
    · rfl
  have hoffset : ∀ c ∈ (offsetChars t.west).head?, (!isSign c) = false := by
    intro c hc
    rw [offsetChars_eq, List.head?_cons, Option.mem_def, Option.some.injEq] at hc
    rw [← hc]
    split
    · rfl
    · rfl
  rw [clockPart, offsetPart, text, String.toList_ofList]
  exact span_append hclock hoffset

/-- **A time with a zone is read as it was written.** -/
theorem read?_text (t : ZonedTime) : read? t.text = some (t.micros.natAbs, offsetOf t.west) := by
  obtain ⟨hclock, hoffset⟩ := parts_text t
  rw [read?, hclock, hoffset, Clock.micros?_timeChars, offset?_offsetChars]
  rfl

/-- The bytes of a time with a zone. -/
def bytes (micros : Int64) (west : Int32) : Bytes :=
  BigEndian.ofInt 8 micros.toInt ++ BigEndian.ofInt 4 west.toInt

theorem decode_bytes (micros : Int64) (west : Int32) :
    decode (bytes micros west) = .ok ⟨micros.toInt, west.toInt⟩ := by
  have hlength : (bytes micros west).length = 12 := by
    simp only [bytes, List.length_append, BigEndian.length_ofInt]
  rw [decode, if_pos hlength, bytes, List.take_left' (BigEndian.length_ofInt 8 _),
    List.drop_left' (BigEndian.length_ofInt 8 _), BigEndian.toInt_ofInt_int64,
    BigEndian.toInt_ofInt_int32]

/-- **The text of a time with a zone loses nothing.** The microseconds and the zone are read back
from it: the offset has a plus if it is to the east or none, minutes if it is not whole hours, and
seconds if it is not whole minutes. So different times are never read as the same text. Bytes are
read if there are twelve of them. -/
theorem recovered_from_text :
    (∀ (micros : Int64) (west : Int32), 0 ≤ micros.toInt →
    ∃ (text : String) (time : Nat) (offset : Offset),
        ZonedTime.text <$> decode (bytes micros west) = .ok text
          ∧ read? text = some (time, offset)
          ∧ (time : Int) = micros.toInt ∧ offset.west = west.toInt
          ∧ (offset.east = true ↔ west.toInt ≤ 0)
          ∧ (offset.minutes.isSome ↔ ¬(3600 : Int) ∣ west.toInt)
          ∧ (offset.seconds.isSome ↔ ¬(60 : Int) ∣ west.toInt))
      ∧ (∀ (micros other : Int64) (west zone : Int32), 0 ≤ micros.toInt → 0 ≤ other.toInt →
        ZonedTime.text <$> decode (bytes micros west)
          = ZonedTime.text <$> decode (bytes other zone) →
        micros = other ∧ west = zone)
      ∧ ∀ raw : Bytes, (∃ text, ZonedTime.text <$> decode raw = .ok text) ↔ raw.length = 12 := by
  refine ⟨fun micros west hmicros => ?_, fun micros other west zone hmicros hother h => ?_,
    fun _ => exists_map_ite_iff⟩
  · refine ⟨_, _, _, map_eq_ok_iff.mpr ⟨_, decode_bytes micros west, rfl⟩, read?_text _,
      Int.natAbs_of_nonneg hmicros, west_offsetOf _, decide_eq_true_iff, isSome_minutes_iff,
      isSome_seconds_iff⟩
  · rw [decode_bytes, decode_bytes] at h
    have hread := congrArg read? (Except.ok.inj h)
    rw [read?_text, read?_text, Option.some.injEq, Prod.mk.injEq] at hread
    -- The parts of an offset are not compared one by one, but by the seconds that they come to.
    have hwest := congrArg Offset.west hread.2
    rw [west_offsetOf, west_offsetOf] at hwest
    have htime : micros.toInt = other.toInt := by
      have habs := hread.1
      simp only at habs
      omega
    exact ⟨Int64.toInt_inj.mp htime, Int32.toInt_inj.mp hwest⟩

/-- The last microsecond that can be counted, in the easternmost zone. -/
theorem recovered_from_text_easternmost :
    0 ≤ Int64.maxValue.toInt
      ∧ ZonedTime.text <$> decode (bytes Int64.maxValue Int32.minValue)
        = .ok "2562047788:00:54.775807+596523:14:08"
      ∧ (∃ (time : Nat) (offset : Offset),
        read? "2562047788:00:54.775807+596523:14:08" = some (time, offset)
          ∧ (time : Int) = Int64.maxValue.toInt ∧ offset.west = Int32.minValue.toInt)
      ∧ ZonedTime.text <$> decode (bytes Int64.maxValue Int32.minValue)
        ≠ ZonedTime.text <$> decode (bytes Int64.maxValue Int32.maxValue) := by
  have hmicros : 0 ≤ Int64.maxValue.toInt := by decide
  have htext : ZonedTime.text <$> decode (bytes Int64.maxValue Int32.minValue)
      = .ok "2562047788:00:54.775807+596523:14:08" := by decide
  obtain ⟨text, time, offset, hdecode, hread, htime, hwest, -⟩ :=
    recovered_from_text.1 Int64.maxValue Int32.minValue hmicros
  obtain rfl := Except.ok.inj (htext.symm.trans hdecode)
  refine ⟨hmicros, htext, ⟨time, offset, hread, htime, hwest⟩, fun h => ?_⟩
  exact absurd (recovered_from_text.2.1 _ _ _ _ hmicros hmicros h).2 (by decide)

end ZonedTime

/-! ## Times without a zone -/

/-- The bytes of a time without a zone. -/
def timeBytes (micros : Int64) : Bytes := BigEndian.ofInt 8 micros.toInt

/-- The text of the microseconds since midnight, without a zone. -/
def timeText (micros : Nat) : String :=
  String.ofList (Clock.chars (micros / 1000000) (micros % 1000000 * 1000))

variable {micros other : Int64}

theorem micros?_timeText (micros : Nat) : Clock.micros? (timeText micros).toList = some micros := by
  rw [timeText, String.toList_ofList, Clock.micros?_chars]

/-- **Days are dropped** from a time without a zone. -/
theorem decode_timeBytes (micros : Int64) :
    decode (.builtin .time) (timeBytes micros)
      = .ok (.text (timeText (micros.toInt % microsPerDay).toNat)) := by
  refine bind_eq_ok_iff.mpr ⟨micros.toInt, ?_, rfl⟩
  rw [timeBytes, decodeSigned_of_length _ (BigEndian.length_ofInt 8 _), BigEndian.toInt_ofInt_int64]

/-- **Days are kept** in front of a zone. -/
theorem decode_zonedBytes (micros : Int64) (west : Int32) :
    decode (.builtin .timetz) (ZonedTime.bytes micros west)
      = .ok (.text (ZonedTime.text ⟨micros.toInt, west.toInt⟩)) :=
  map_eq_ok_iff.mpr ⟨_, ZonedTime.decode_bytes micros west, rfl⟩

theorem micros?_clockPart (hmicros : 0 ≤ micros.toInt) (west : Int) :
    Clock.micros? (ZonedTime.clockPart (ZonedTime.text ⟨micros.toInt, west⟩))
      = some micros.toInt.toNat := by
  have habs : micros.toInt.natAbs = micros.toInt.toNat := by omega
  rw [(ZonedTime.parts_text _).1, Clock.micros?_timeChars, habs]

/-- Without its days, a count is the same if it has none. -/
theorem toNat_emod_microsPerDay_eq_iff (hmicros : 0 ≤ micros.toInt) :
    (micros.toInt % microsPerDay).toNat = micros.toInt.toNat ↔ micros.toInt < microsPerDay := by
  unfold microsPerDay
  omega

/-- Times without a zone have the same text if they differ by whole days. -/
theorem decode_timeBytes_eq_iff :
    decode (.builtin .time) (timeBytes micros) = decode (.builtin .time) (timeBytes other)
      ↔ micros.toInt % microsPerDay = other.toInt % microsPerDay := by
  rw [decode_timeBytes, decode_timeBytes]
  constructor
  · intro h
    have hread :=
      congrArg (fun text => Clock.micros? text.toList) (Value.text.inj (Except.ok.inj h))
    simp only [micros?_timeText, Option.some.injEq] at hread
    unfold microsPerDay at hread ⊢
    omega
  · intro h
    rw [h]

/-- **Times with and without a zone are the same before midnight.** Of a count of microseconds, both
denote the count if it is less than a day. From a day on, only the time with a zone does, and the
other one denotes what is left after the days. So the texts of times without a zone are different
for counts that are less than a day, and the same for counts that differ by whole days. -/
theorem times_agree_before_midnight (micros : Int64) (hmicros : 0 ≤ micros.toInt) :
    (∃ time zoned : String, decode (.builtin .time) (timeBytes micros) = .ok (.text time)
        ∧ decode (.builtin .timetz) (ZonedTime.bytes micros 0) = .ok (.text zoned)
        ∧ Clock.micros? time.toList = some (micros.toInt % microsPerDay).toNat
        ∧ Clock.micros? (ZonedTime.clockPart zoned) = some micros.toInt.toNat
        ∧ (Clock.micros? time.toList = Clock.micros? (ZonedTime.clockPart zoned)
          ↔ micros.toInt < microsPerDay))
      ∧ ∀ other : Int64,
        decode (.builtin .time) (timeBytes micros) = decode (.builtin .time) (timeBytes other)
          ↔ micros.toInt % microsPerDay = other.toInt % microsPerDay := by
  have htime := micros?_timeText (micros.toInt % microsPerDay).toNat
  have hzoned := micros?_clockPart hmicros (0 : Int32).toInt
  refine ⟨⟨_, _, decode_timeBytes micros, decode_zonedBytes micros 0, htime, hzoned, ?_⟩,
    fun _ => decode_timeBytes_eq_iff⟩
  rw [htime, hzoned, Option.some.injEq, toNat_emod_microsPerDay_eq_iff hmicros]

/-- The last microsecond of a day, and the midnight behind it. -/
theorem times_agree_before_midnight_last :
    0 ≤ (86399999999 : Int64).toInt
      ∧ decode (.builtin .time) (timeBytes 86399999999) = .ok (.text "23:59:59.999999")
      ∧ decode (.builtin .timetz) (ZonedTime.bytes 86399999999 0) = .ok (.text "23:59:59.999999+00")
      ∧ Clock.micros? "23:59:59.999999".toList = some 86399999999
      ∧ decode (.builtin .time) (timeBytes 86400000000)
        = decode (.builtin .time) (timeBytes 0) := by
  have htime : timeText ((86399999999 : Int64).toInt % microsPerDay).toNat = "23:59:59.999999" := by
    decide
  have hzoned : ZonedTime.text ⟨(86399999999 : Int64).toInt, (0 : Int32).toInt⟩
      = "23:59:59.999999+00" := by decide
  obtain ⟨time, zoned, hdecode, -, hread, -⟩ :=
    (times_agree_before_midnight 86399999999 (by decide)).1
  rw [decode_timeBytes, htime] at hdecode
  obtain rfl := Value.text.inj (Except.ok.inj hdecode)
  rw [decode_timeBytes 86399999999, htime, decode_zonedBytes, hzoned]
  exact ⟨by decide, rfl, rfl, hread,
    ((times_agree_before_midnight 86400000000 (by decide)).2 0).mpr (by decide)⟩

/-- **The midnight at the end of a day** is read as the one at its beginning without a zone, and as
what it is with one. -/
theorem time_of_endOfDay :
    decode (.builtin .time) (timeBytes 86400000000) = .ok (.text "00:00:00")
      ∧ decode (.builtin .time) (timeBytes 0) = .ok (.text "00:00:00")
      ∧ decode (.builtin .timetz) (ZonedTime.bytes 86400000000 0) = .ok (.text "24:00:00+00")
      ∧ Clock.micros? "00:00:00".toList = some 0
      ∧ Clock.micros? (ZonedTime.clockPart "24:00:00+00") = some 86400000000 := by
  have hend : timeText ((86400000000 : Int64).toInt % microsPerDay).toNat = "00:00:00" := by decide
  have hstart : timeText ((0 : Int64).toInt % microsPerDay).toNat = "00:00:00" := by decide
  have hzoned :
      ZonedTime.text ⟨(86400000000 : Int64).toInt, (0 : Int32).toInt⟩ = "24:00:00+00" := by
    decide
  have hclock : Clock.micros? (ZonedTime.clockPart "24:00:00+00") = some 86400000000 := by
    rw [← hzoned, micros?_clockPart (by decide)]
    rfl
  rw [decode_timeBytes, hend, decode_timeBytes, hstart, decode_zonedBytes, hzoned]
  exact ⟨rfl, rfl, rfl, hstart ▸ micros?_timeText _, hclock⟩

end PgStatement.Wire
