import PgStatement.Proofs.Wire.RoundTrip

/-!
# Cells are written as they were read

A cell that was read can be written back, and the server gets the bytes that it sent
(`encode_of_isCanonical`). Reading forgets a lot of them: how wide an integer was, which kind of
text or of moment it was, and all of the header of an array. The writer has to find this again, and
the type is all that it has.

For the bytes to be the same, they must be the ones that a server sends. A truth value is zero or
one, although any byte but zero is read as true; an array has one dimension, its true flag and the
number of its element type, at none of which the reader looks. What these bytes are is said here by
their layout, field by field and without the writer (`WireType.IsCanonical`). A type with no form of
its own below – decimal numbers, documents, floating-point numbers, intervals – has no canonical
bytes.
-/

namespace PgStatement.Wire

/-! ## The layout of cells -/

/-- Bytes that are a signed integer in four bytes. -/
def HoldsInt (field : Bytes) (i : Int) : Prop := field.length = 4 ∧ BigEndian.toInt field = i

/-- Bytes that are a text. -/
def HoldsText (raw : Bytes) : Prop := (⟨raw.toArray⟩ : ByteArray).IsValidUTF8

/-- A day of the calendar, counted from 1 January 1970. -/
def IsDay (day : Int) : Prop := Date.firstDay ≤ day ∧ day ≤ Date.lastDay

namespace ArrayFormat

/-- **The elements of an array in a row**, each behind its length, a null as a length of minus
one. -/
inductive IsRow (canonical : Bytes → Prop) : List (Option Bytes) → Bytes → Prop where
  | nil : IsRow canonical [] []
  | null {field rest : Bytes} {elements : List (Option Bytes)} (hfield : HoldsInt field (-1))
    (h : IsRow canonical elements rest) : IsRow canonical (none :: elements) (field ++ rest)
  | value {field raw rest : Bytes} {elements : List (Option Bytes)}
    (hfield : HoldsInt field raw.length) (hraw : canonical raw)
    (h : IsRow canonical elements rest) :
    IsRow canonical (some raw :: elements) (field ++ (raw ++ rest))

/-- **An array as a server sends it**, of one dimension and not empty: the number of dimensions, the
flag for nulls, the number of the element type, the length, the lower bound, and the elements. -/
inductive IsCanonical (lowerBound : Int) (elementOid : Nat) (canonical : Bytes → Prop) :
    Bytes → Prop where
  | mk {dimensions flag oid length bound body : Bytes} {elements : List (Option Bytes)}
    (hne : elements ≠ []) (hdimensions : HoldsInt dimensions 1)
    (hflag : HoldsInt flag (if none ∈ elements then 1 else 0))
    (hoid : oid.length = 4 ∧ BigEndian.toNat oid = elementOid)
    (hlength : HoldsInt length elements.length) (hbound : HoldsInt bound lowerBound)
    (hbody : IsRow canonical elements body) :
    IsCanonical lowerBound elementOid canonical
      (dimensions ++ flag ++ oid ++ length ++ bound ++ body)

end ArrayFormat

/-- **The bytes of a builtin type** that holds a single value, as a server sends them. -/
def Builtin.IsCanonical : Builtin → Bytes → Prop
  | .bool, raw => raw = [0] ∨ raw = [1]
  | .int2, raw => raw.length = 2
  | .int4, raw | .oid, raw => raw.length = 4
  | .int8, raw => raw.length = 8
  | .text, raw | .varchar, raw | .bpchar, raw | .name, raw | .unknown, raw => HoldsText raw
  | .bytea, _ => True
  | .uuid, raw => raw.length = 16
  | .date, raw => raw.length = 4 ∧ IsDay (Date.wireEpoch + BigEndian.toInt raw)
  | .timestamp, raw | .timestamptz, raw =>
    raw.length = 8 ∧ IsDay ((Timestamp.wireEpoch + BigEndian.toInt raw / 1000000) / 86400)
  | _, _ => False

/-- The lower bound of the builtin arrays, which is not one for two of them. -/
def Builtin.firstIndex : Builtin → Int
  | .int2vector | .oidvector => 0
  | _ => 1

/-- **The bytes of a type, as a server sends them.** -/
def WireType.IsCanonical : WireType → Bytes → Prop
  | .builtin b, raw =>
    match b.element? with
    | some element =>
      ArrayFormat.IsCanonical b.firstIndex element.typeOid element.IsCanonical raw
    | none => b.IsCanonical raw
  | .simple d, raw => d.name = "citext" ∧ HoldsText raw
  | .enum _ _, raw => HoldsText raw
  | .domain _ base, raw => base.IsCanonical raw
  | .array _ element, raw => ArrayFormat.IsCanonical 1 element.oid element.IsCanonical raw

variable {ty element : WireType} {raw : Bytes}

/-! ## Fields -/

theorem HoldsInt.eq_ofInt {field : Bytes} {i : Int} (h : HoldsInt field i) :
    field = BigEndian.ofInt 4 i := by
  obtain ⟨hlength, rfl⟩ := h
  rw [← hlength, BigEndian.ofInt_toInt]

/-- A length in a field fits the format. -/
theorem HoldsInt.le_maxLength {field : Bytes} {n : Nat} (h : HoldsInt field n) : n ≤ maxLength := by
  obtain ⟨hlength, hvalue⟩ := h
  have hlt := BigEndian.toNat_lt field
  have hpower : 256 ^ 4 = 4294967296 := rfl
  unfold BigEndian.toInt at hvalue
  unfold maxLength
  rw [hlength, hpower] at hlt hvalue
  split at hvalue <;> omega

/-- The integer that bytes hold is written as these bytes. -/
theorem encodeSigned_toInt (raw : Bytes) :
    encodeSigned raw.length (BigEndian.toInt raw) = .ok raw := by
  rw [encodeSigned, if_pos (BigEndian.toInt_bounds raw), BigEndian.ofInt_toInt]

theorem encodeUnsigned_toNat (raw : Bytes) :
    encodeUnsigned raw.length (BigEndian.toNat raw) = .ok raw := by
  have hlt := BigEndian.toNat_lt raw
  rw [encodeUnsigned, if_pos (by omega), Int.toNat_natCast, BigEndian.ofNat_toNat]

/-- Bytes of the right number are read as the integer that they hold, since it is written as
them. -/
theorem decodeSigned_of_length {width : Nat} (leftover : Fault) (h : raw.length = width) :
    decodeSigned width leftover raw = .ok (BigEndian.toInt raw) := by
  subst h
  exact decodeSigned_encodeSigned leftover (encodeSigned_toInt raw)

theorem decodeUnsigned_of_length {width : Nat} (h : raw.length = width) :
    decodeUnsigned width raw = .ok (BigEndian.toNat raw) := by
  subst h
  obtain ⟨n, hn, hread⟩ := decodeUnsigned_encodeUnsigned (encodeUnsigned_toNat raw)
  rw [hread, Int.natCast_inj.mp hn]

/-- An integer of at most eight bytes is a value without loss. -/
theorem toInt_ofInt_toInt (h : raw.length ≤ 8) :
    (Int64.ofInt (BigEndian.toInt raw)).toInt = BigEndian.toInt raw := by
  have hbounds := BigEndian.toInt_bounds raw
  have hpower : 256 ^ raw.length ≤ 256 ^ 8 := Nat.pow_le_pow_right (by decide) h
  have height : 256 ^ 8 = 18446744073709551616 := rfl
  generalize 256 ^ raw.length = m at hbounds hpower
  exact Int64.toInt_ofInt_of_le (by omega) (by omega)

/-! ## Single values -/

/-- **Bytes are kept** by a type if they are read as a value that is written as them. -/
def WireType.Keeps (ty : WireType) (raw : Bytes) : Prop :=
  ∃ v, decode ty raw = .ok v ∧ encode v ty = .ok (some raw)

/-- Integers are kept in any width that a value has room for. -/
theorem keeps_signed {b : Builtin} {width : Nat} {leftover : Fault}
    (hdecode : decode (.builtin b) raw = intValue <$> decodeSigned width leftover raw)
    (hencode : ∀ i : Int64, encode (.int i) (.builtin b) = some <$> encodeSigned width i.toInt)
    (hwidth : width ≤ 8) (h : raw.length = width) : (WireType.builtin b).Keeps raw := by
  subst h
  refine ⟨intValue (BigEndian.toInt raw), ?_, ?_⟩
  · rw [hdecode, decodeSigned_of_length leftover rfl]
    rfl
  · rw [intValue, hencode, toInt_ofInt_toInt hwidth, encodeSigned_toInt]
    rfl

theorem keeps_oid (h : raw.length = 4) : (WireType.builtin .oid).Keeps raw := by
  have hlt := BigEndian.toNat_lt raw
  rw [h] at hlt
  have hpower : 256 ^ 4 = 4294967296 := rfl
  have hvalue : (Int64.ofInt (BigEndian.toNat raw)).toInt = BigEndian.toNat raw :=
    Int64.toInt_ofInt_of_le (by omega) (by omega)
  refine ⟨intValue (BigEndian.toNat raw), ?_, ?_⟩
  · show (fun n : Int => intValue n) <$> (decodeUnsigned 4 raw >>= fun n => pure (n : Int)) = _
    rw [decodeUnsigned_of_length h]
    rfl
  · show some <$> encodeUnsigned 4 (Int64.ofInt (BigEndian.toNat raw)).toInt = _
    rw [hvalue, ← h, encodeUnsigned_toNat]
    rfl

/-- Texts are kept by every type that reads them and writes them as they are. -/
theorem keeps_text (hdecode : decode ty raw = decodeText raw)
    (hencode : ∀ s, encode (.text s) ty = .ok (some (Utf8.encode s))) (h : HoldsText raw) :
    ty.Keeps raw := by
  have hsome : Utf8.decode? raw = some (String.fromUTF8 ⟨raw.toArray⟩ h) := dif_pos h
  refine ⟨.text (String.fromUTF8 ⟨raw.toArray⟩ h), ?_, ?_⟩
  · rw [hdecode, decodeText, hsome]
  · rw [hencode, ← Utf8.decode?_eq_some_iff.mp hsome]

theorem keeps_date (h : Builtin.date.IsCanonical raw) : (WireType.builtin .date).Keeps raw := by
  obtain ⟨hlength, hday⟩ := h
  have hsome : Date.ofDay? (Date.wireEpoch + BigEndian.toInt raw) = some ⟨_, hday⟩ := dif_pos hday
  refine ⟨.date ⟨_, hday⟩, ?_, ?_⟩
  · refine bind_eq_ok_iff.mpr ⟨_, decodeSigned_of_length _ hlength, ?_⟩
    rw [hsome]
  · show Except.ok (some (BigEndian.ofInt 4 (Date.wireEpoch + BigEndian.toInt raw
      - Date.wireEpoch))) = _
    rw [add_sub_cancel_left, ← hlength, BigEndian.ofInt_toInt]

theorem keeps_timestamp {b : Builtin}
    (hdecode : decode (.builtin b) raw = decodeTimestamp raw)
    (hencode : ∀ t : Timestamp, encode (.timestamp t) (.builtin b)
      = .ok (some (BigEndian.ofInt 8 t.microseconds)))
    (h : Builtin.timestamp.IsCanonical raw) : (WireType.builtin b).Keeps raw := by
  obtain ⟨hlength, hday⟩ := h
  obtain ⟨t, ht⟩ := Timestamp.exists_ofMicroseconds? hday
  refine ⟨.timestamp t, ?_, ?_⟩
  · rw [hdecode]
    refine bind_eq_ok_iff.mpr ⟨_, decodeSigned_of_length _ hlength, ?_⟩
    rw [ht]
  · rw [hencode, Timestamp.microseconds_of_ofMicroseconds? ht, ← hlength, BigEndian.ofInt_toInt]

/-- **Builtin types that hold a single value keep their bytes.** -/
theorem keeps_builtin {b : Builtin} (h : b.IsCanonical raw) : (WireType.builtin b).Keeps raw := by
  cases b with
  | bool =>
    obtain rfl | rfl := h
    · exact ⟨.bool false, rfl, rfl⟩
    · exact ⟨.bool true, rfl, rfl⟩
  | int2 | int4 | int8 => exact keeps_signed rfl (fun _ => rfl) (by decide) h
  | oid => exact keeps_oid h
  | text | varchar | bpchar | name | unknown => exact keeps_text rfl (fun _ => rfl) h
  | bytea => exact ⟨.bytes raw, rfl, rfl⟩
  | uuid =>
    have hsome : Uuid.ofBytes? raw = some ⟨raw, h⟩ := dif_pos h
    refine ⟨.uuid ⟨raw, h⟩, ?_, rfl⟩
    show decodeUuid raw = _
    rw [decodeUuid, hsome]
  | date => exact keeps_date h
  | timestamp | timestamptz => exact keeps_timestamp rfl (fun _ => rfl) h
  | _ => exact h.elim

/-! ## Arrays -/

namespace ArrayFormat

variable {canonical : Bytes → Prop} {elements : List (Option Bytes)} {body : Bytes}

theorem IsRow.eq_flatMap (h : IsRow canonical elements body) :
    body = elements.flatMap elementBytes := by
  induction h with
  | nil => rfl
  | null hfield _ ih => rw [hfield.eq_ofInt, List.flatMap_cons, elementBytes, ih]
  | value hfield _ _ ih =>
    rw [hfield.eq_ofInt, List.flatMap_cons, elementBytes, ih, List.append_assoc]

/-- Every element that is not null is canonical, and its length fits the format. -/
theorem IsRow.of_mem (h : IsRow canonical elements body) {raw : Bytes}
    (hraw : some raw ∈ elements) :
    canonical raw ∧ raw.length ≤ maxLength := by
  induction h with
  | nil => cases hraw
  | null _ _ ih => exact ih ((List.mem_cons.mp hraw).resolve_left nofun)
  | value hfield hcanonical _ ih =>
    rcases List.mem_cons.mp hraw with hhead | hrest
    · obtain rfl := Option.some.inj hhead
      exact ⟨hcanonical, hfield.le_maxLength⟩
    · exact ih hrest

/-- **The canonical bytes of an array** are those that are written of its elements. -/
theorem IsCanonical.eq_encode {lowerBound : Int} {elementOid : Nat}
    (h : IsCanonical lowerBound elementOid canonical raw) :
    ∃ elements body, IsRow canonical elements body ∧ elements.length ≤ maxLength
      ∧ raw = encode lowerBound elementOid elements := by
  obtain @⟨_, _, oid, _, _, body, elements, -, hdimensions, hflag, hoid, hlength, hbound,
    hbody⟩ := h
  have hnulls : elements.any Option.isNone = true ↔ none ∈ elements := by simp
  have hnumber : oid = BigEndian.ofNat 4 elementOid := by
    rw [← hoid.1, ← hoid.2, BigEndian.ofNat_toNat]
  refine ⟨elements, body, hbody, hlength.le_maxLength, ?_⟩
  rw [encode, hdimensions.eq_ofInt, hflag.eq_ofInt, hnumber, hlength.eq_ofInt, hbound.eq_ofInt,
    hbody.eq_flatMap]
  simp only [hnulls]

end ArrayFormat

/-- Items are written as elements, one by one. -/
theorem encodeItems_of_forall₂ {elements : List (Option Bytes)} {values : List Value}
    (h : List.Forall₂ (fun cell v => encode v ty = .ok cell) elements values)
    (hlength : ∀ raw, some raw ∈ elements → raw.length ≤ maxLength) :
    encodeItems values ty = .ok elements := by
  induction h with
  | nil => rw [encodeItems]
  | @cons cell v elements values hcell _ ih =>
    have hfits : ¬maxLength < (cell.getD []).length := by
      cases cell with
      | none => exact Nat.not_lt_zero _
      | some raw => exact Nat.not_lt.mpr (hlength raw List.mem_cons_self)
    rw [encodeItems, hcell]
    refine bind_eq_ok_iff.mpr ⟨cell, rfl, ?_⟩
    rw [if_neg hfits]
    exact bind_eq_ok_iff.mpr
      ⟨elements, ih fun raw hraw => hlength raw (List.mem_cons_of_mem _ hraw), rfl⟩

/-- **An array keeps its bytes** if its elements do. -/
theorem keeps_array {canonical : Bytes → Prop} {bound : Int} (hbase : ty.base = ty)
    (helement : ty.element? = some element) (hbound : lowerBound ty = bound)
    (hkeeps : ∀ raw, canonical raw → element.Keeps raw)
    (h : ArrayFormat.IsCanonical bound element.oid canonical raw) : ty.Keeps raw := by
  obtain ⟨elements, body, hrow, hcount, rfl⟩ := h.eq_encode
  obtain ⟨values, hvalues⟩ : ∃ values, List.Forall₂ (fun cell v =>
      decodeCell element cell = .ok v ∧ encode v element = .ok cell) elements values := by
    refine exists_forall₂_of_forall fun cell hcell => ?_
    cases cell with
    | none => exact ⟨.null, rfl, by rw [encode]⟩
    | some raw => exact hkeeps raw (hrow.of_mem hcell).1
  have hlength : ∀ raw, some raw ∈ elements → raw.length ≤ maxLength := fun raw hraw =>
    (hrow.of_mem hraw).2
  have hread := ArrayFormat.decode_encode bound element.oid hcount hlength
    (hvalues.imp fun _ _ hcell => hcell.1)
  have hwritten := encodeItems_of_forall₂ (hvalues.imp fun _ _ hcell => hcell.2) hlength
  refine ⟨.list values, ?_, ?_⟩
  · rw [decode_of_element? helement, hread]
    rfl
  · rw [encode, hbase, helement]
    simp only
    rw [if_neg (hvalues.length_eq ▸ Nat.not_lt.mpr hcount), hwritten, hbound]
    rfl

/-! ## Types -/

/-- **Cells are written as they were read.** Bytes that a server sends for a type are read as a
value, and this value is written as the type in the same bytes. -/
theorem encode_of_isCanonical (h : ty.IsCanonical raw) :
    ∃ v, decode ty raw = .ok v ∧ encode v ty = .ok (some raw) := by
  suffices hkeeps : ty.Keeps raw from hkeeps
  induction ty generalizing raw with
  | builtin b =>
    rw [WireType.IsCanonical] at h
    cases he : b.element? with
    | none =>
      rw [he] at h
      exact keeps_builtin h
    | some e =>
      rw [he] at h
      have hbound : lowerBound (.builtin b) = b.firstIndex := by cases b <;> rfl
      have helement : (WireType.builtin b).element? = some (.builtin e) :=
        Option.map_eq_some_iff.mpr ⟨e, he, rfl⟩
      exact keeps_array rfl helement hbound (fun _ => keeps_builtin) h
  | simple d =>
    obtain ⟨hname, htext⟩ := h
    have hplain : isPlainTextName d.name = true := beq_iff_eq.mpr hname
    have hsends : sendsText (.simple d) = true := beq_iff_eq.mpr hname
    refine keeps_text (if_pos hsends) (fun s => ?_) htext
    show some <$> (if isPlainTextName d.name then _ else _) = _
    rw [if_pos hplain]
    rfl
  | enum d labels => exact keeps_text rfl (fun _ => rfl) h
  | domain d base ih =>
    obtain ⟨v, hread, hwritten⟩ := ih h
    exact ⟨v, hread, (encode_domain v d base).trans hwritten⟩
  | array d element ih => exact keeps_array rfl rfl rfl (fun _ => ih) h

/-- Rows of seats, each an array under a domain, and counted from zero where the outer one is
not. -/
def seatRows : WireType :=
  .array ⟨"_seats", "public", 16405⟩ (.domain ⟨"seats", "hall", 16404⟩ (.builtin .int2vector))

/-- A missing row, and a row of the seats 7 and -2. -/
def seatRowsRaw : Bytes :=
  [0, 0, 0, 1, 0, 0, 0, 1, 0, 0, 64, 20, 0, 0, 0, 2, 0, 0, 0, 1,
    255, 255, 255, 255,
    0, 0, 0, 32, 0, 0, 0, 1, 0, 0, 0, 0, 0, 0, 0, 21, 0, 0, 0, 2, 0, 0, 0, 0,
    0, 0, 0, 2, 0, 7, 0, 0, 0, 2, 255, 254]

theorem encode_of_isCanonical_seatRows :
    seatRows.IsCanonical seatRowsRaw
      ∧ ∃ v, decode seatRows seatRowsRaw = .ok v ∧ encode v seatRows = .ok (some seatRowsRaw) := by
  have hseats : (WireType.builtin .int2vector).IsCanonical ([0, 0, 0, 1] ++ [0, 0, 0, 0]
      ++ [0, 0, 0, 21] ++ [0, 0, 0, 2] ++ [0, 0, 0, 0]
      ++ ([0, 0, 0, 2] ++ ([0, 7] ++ ([0, 0, 0, 2] ++ ([255, 254] ++ []))))) :=
    .mk (List.cons_ne_nil (some [0, 7]) [some [255, 254]]) ⟨rfl, by decide⟩ ⟨rfl, by decide⟩
      ⟨rfl, by decide⟩ ⟨rfl, by decide⟩ ⟨rfl, by decide⟩
      (.value ⟨rfl, by decide⟩ rfl (.value ⟨rfl, by decide⟩ rfl .nil))
  have hrows : seatRows.IsCanonical ([0, 0, 0, 1] ++ [0, 0, 0, 1] ++ [0, 0, 64, 20] ++ [0, 0, 0, 2]
      ++ [0, 0, 0, 1]
      ++ ([255, 255, 255, 255] ++ ([0, 0, 0, 32] ++ (seatRowsRaw.drop 28 ++ [])))) :=
    .mk (List.cons_ne_nil none [some (seatRowsRaw.drop 28)]) ⟨rfl, by decide⟩ ⟨rfl, by decide⟩
      ⟨rfl, by decide⟩ ⟨rfl, by decide⟩ ⟨rfl, by decide⟩
      (.null ⟨rfl, by decide⟩ (.value ⟨rfl, by decide⟩ hseats .nil))
  exact ⟨hrows, encode_of_isCanonical hrows⟩

end PgStatement.Wire
