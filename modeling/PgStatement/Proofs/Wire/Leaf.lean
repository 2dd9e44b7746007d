import PgStatement.Proofs.Timestamp
import PgStatement.Proofs.Wire.Numeric
import PgStatement.Wire.Decode

/-!
# Single values come back

A value is written by what it is and then by the type, and read by the type alone. That the two stay
in step is shown here for types that are neither arrays nor domains (`WireType.IsLeaf`), kind of
value by kind of value: whatever is written is read, as the same value or in the form that the type
has for it (`receivedLeaf`). A kind of value that the type does not take is not written, so that
there is nothing to be read.
-/

namespace PgStatement

open Text

/-! ## Texts without blanks -/

theorem Text.trim_eq_self {s : String} (h : ∀ c ∈ s.toList, isBlank c = false) : trim s = s := by
  have hdrop : ∀ cs : List Char, (∀ c ∈ cs, isBlank c = false) → cs.dropWhile isBlank = cs := by
    intro cs hcs
    cases cs with
    | nil => rfl
    | cons c cs =>
      rw [List.dropWhile_cons_of_neg]
      rw [hcs c List.mem_cons_self]
      nofun
  have hreverse : ∀ c ∈ s.toList.reverse, isBlank c = false := fun c hc =>
    h c (List.mem_reverse.mp hc)
  rw [trim, trimChars, hdrop _ h, hdrop _ hreverse, List.reverse_reverse, String.ofList_toList]

theorem Text.isBlank_of_isDecimalDigit {c : Char} (h : isDecimalDigit c = true) :
    isBlank c = false := by
  obtain ⟨hlow, hhigh⟩ := digit_bounds h
  have h0 : '0'.toNat = 48 := rfl
  have h9 : '9'.toNat = 57 := rfl
  unfold isBlank
  simp only [Bool.or_eq_false_iff, Bool.and_eq_false_iff, decide_eq_false_iff_not,
    beq_eq_false_iff_ne]
  omega

namespace Wire

/-- No blanks stand in or around a decimal number. -/
theorem DecimalText.IsReadingOf.trim_eq {d : DecimalText} {s : String}
    (h : d.IsReadingOf s.toList) :
    trim s = s := by
  have hdigits := List.forall_mem_append.mp h.digits
  obtain ⟨sign, point, hs, hsign, hpoint, -, -⟩ := h
  refine trim_eq_self ?_
  rw [hs]
  simp only [List.forall_mem_append]
  refine ⟨⟨?_, fun c hc => isBlank_of_isDecimalDigit (hdigits.1 c hc)⟩, ?_⟩
  · obtain ⟨rfl, -⟩ | ⟨rfl | rfl, -⟩ := hsign
    · exact List.forall_mem_singleton.mpr rfl
    · exact nofun
    · exact List.forall_mem_singleton.mpr rfl
  · obtain rfl | ⟨rfl, -⟩ := hpoint
    · exact List.forall_mem_cons.mpr
        ⟨rfl, fun c hc => isBlank_of_isDecimalDigit (hdigits.2 c hc)⟩
    · exact nofun

/-! ## Integers as decimal numbers -/

theorem dropWhile_decimalChars (n : Nat) :
    (if (decimalChars n).dropWhile (· == '0') = [] then ['0']
      else (decimalChars n).dropWhile (· == '0')) = decimalChars n := by
  rcases Nat.eq_zero_or_pos n with rfl | hn
  · rfl
  · have hdrop : (decimalChars n).dropWhile (· == '0') = decimalChars n := by
      have hhead := head?_decimalChars hn
      cases hchars : decimalChars n with
      | nil => rfl
      | cons c rest =>
        rw [hchars, List.head?_cons] at hhead
        rw [List.dropWhile_cons_of_neg]
        exact fun hc => hhead (congrArg some (beq_iff_eq.mp hc))
    rw [hdrop, if_neg (decimalChars_ne_nil n)]

/-- **An integer is in its one form already.** -/
theorem canonicalText_signedDecimal (i : Int) :
    Numeric.canonicalText (signedDecimal i) = signedDecimal i := by
  have hread : DecimalText.IsReadingOf ⟨decide (i < 0), decimalChars i.natAbs, []⟩
      (signedDecimal i).toList := by
    refine ⟨if i < 0 then ['-'] else [], [], ?_, ?_, .inr ⟨rfl, rfl⟩, ?_, ?_⟩
    · rw [toList_signedDecimal, List.append_nil]
    · by_cases hi : i < 0
      · rw [if_pos hi]
        exact .inl ⟨rfl, decide_eq_true hi⟩
      · rw [if_neg hi]
        exact .inr ⟨.inl rfl, decide_eq_false hi⟩
    · rw [List.append_nil]
      exact fun c hc => isDecimalDigit_of_mem_decimalChars hc
    · rw [List.append_nil]
      exact decimalChars_ne_nil _
  have hnegative : DecimalText.IsNegative ⟨decide (i < 0), decimalChars i.natAbs, []⟩ ↔ i < 0 := by
    unfold DecimalText.IsNegative DecimalText.magnitude
    simp only [decide_eq_true_eq, List.append_nil, ofDecimalChars_decimalChars, List.length_nil,
      pow_zero, div_one, Nat.cast_ne_zero]
    omega
  rw [Numeric.canonicalText_of_isReadingOf (hread.trim_eq.symm ▸ hread), DecimalText.canonical,
    dropWhile_decimalChars, if_pos rfl, List.append_nil, ← String.toList_inj, String.toList_ofList,
    toList_signedDecimal, if_congr hnegative rfl rfl]

/-! ## Identifiers are no decimal numbers -/

/-- In a decimal number no hyphen comes after the first character. -/
theorem hyphen_not_mem_tail {s : String} {n : Numeric} (h : Numeric.ofText s = .ok n) :
    '-' ∉ (trim s).toList.tail := by
  rcases Numeric.ofText_cases h with ⟨hs, -⟩ | ⟨d, hread, -⟩
  · simp only [Numeric.specialTexts, List.mem_cons, List.not_mem_nil, or_false] at hs
    rcases hs with hs | hs | hs <;> rw [hs] <;> decide
  · have hdigits := List.forall_mem_append.mp hread.digits
    obtain ⟨sign, point, hcs, hsign, hpoint, -, -⟩ := hread
    have hrest : '-' ∉ d.integral ++ point := by
      rw [List.mem_append, not_or]
      refine ⟨fun hmem => absurd (hdigits.1 _ hmem) (by decide), fun hmem => ?_⟩
      obtain rfl | ⟨rfl, -⟩ := hpoint
      · rcases List.mem_cons.mp hmem with hdot | hmem
        · exact absurd hdot (by decide)
        · exact absurd (hdigits.2 _ hmem) (by decide)
      · cases hmem
    rw [hcs, List.append_assoc]
    obtain ⟨rfl, -⟩ | ⟨rfl | rfl, -⟩ := hsign
    · exact hrest
    · exact fun hmem => hrest (List.mem_of_mem_tail hmem)
    · exact hrest

theorem isBlank_hexDigit {n : Nat} (h : n < 16) : isBlank (hexDigit n) = false := by
  revert n
  decide

theorem mem_hyphenate {groups : List Nat} {cs : List Char} {c : Char}
    (h : c ∈ Uuid.hyphenate groups cs) : c = '-' ∨ c ∈ cs := by
  induction groups generalizing cs with
  | nil => exact .inr h
  | cons n groups ih =>
    rw [Uuid.hyphenate, List.mem_append, List.mem_cons] at h
    rcases h with h | h | h
    · exact .inr (List.mem_of_mem_take h)
    · exact .inl h
    · exact (ih h).imp_right List.mem_of_mem_drop

theorem length_hexChars (bytes : Bytes) : (hexChars bytes).length = 2 * bytes.length := by
  induction bytes with
  | nil => rfl
  | cons b bytes ih =>
    rw [hexChars, List.flatMap_cons, List.length_append, List.length_cons]
    show 2 + (hexChars bytes).length = _
    omega

theorem ofText_uuid (u : Uuid) (n : Numeric) : Numeric.ofText u.text ≠ .ok n := by
  intro h
  have htrim : trim u.text = u.text := by
    refine trim_eq_self fun c hc => ?_
    rw [Uuid.text, String.toList_ofList] at hc
    rcases mem_hyphenate hc with rfl | hc
    · rfl
    · obtain ⟨b, -, hb⟩ := List.mem_flatMap.mp hc
      have hlt := b.toNat_lt
      simp only [hexByte, List.mem_cons, List.not_mem_nil, or_false] at hb
      rcases hb with rfl | rfl
      · exact isBlank_hexDigit (by omega)
      · exact isBlank_hexDigit (by omega)
  have htail := hyphen_not_mem_tail h
  rw [htrim, Uuid.text, String.toList_ofList] at htail
  have hlength := length_hexChars u.bytes
  rw [u.length_bytes] at hlength
  refine htail ?_
  show '-' ∈ ((hexChars u.bytes).take 8 ++ '-' :: _).tail
  cases htake : (hexChars u.bytes).take 8 with
  | nil =>
    have hzero := congrArg List.length htake
    rw [List.length_take, hlength] at hzero
    cases hzero
  | cons c cs =>
    rw [List.cons_append, List.tail_cons]
    exact List.mem_append_right _ List.mem_cons_self

/-- **An identifier is not sent as a decimal number.** -/
theorem encodeNumeric_uuid (u : Uuid) (raw : Bytes) : encodeNumeric u.text ≠ .ok raw := by
  intro h
  obtain ⟨n, hn, -⟩ := bind_eq_ok_iff.mp h
  exact ofText_uuid u n hn

/-! ## Types -/

/-- Builtin types whose values come back: as they were sent, or in a form that stands for the
same. -/
def Builtin.isExact : Builtin → Bool
  | .bool | .int2 | .int4 | .int8 | .oid | .numeric | .text | .varchar | .bpchar | .name | .unknown
  | .bytea | .uuid | .date | .timestamp | .timestamptz => true
  | _ => false

/-- **Types that hold a single value**, and give it back. -/
inductive WireType.IsLeaf : WireType → Prop where
  | builtin {b : Builtin} (h : b.isExact = true) : IsLeaf (.builtin b)
  | citext {d : Declaration} (h : d.name = "citext") : IsLeaf (.simple d)
  | enum (d : Declaration) (labels : List String) : IsLeaf (.enum d labels)

/-- **The value that comes back** from a type that holds a single value. -/
def receivedLeaf (v : Value) (ty : WireType) : Value :=
  match v with
  | .int i =>
    match ty with
    | .builtin .numeric => .text (signedDecimal i.toInt)
    | _ => .int i
  | .text s =>
    match ty with
    | .builtin .numeric => .text (Numeric.canonicalText s)
    | .builtin .uuid => ((Uuid.ofText? s).map Value.uuid).getD (.text s)
    | _ => .text s
  | .uuid u =>
    match ty with
    | .builtin .uuid => .uuid u
    | _ => .text u.text
  | .timestamp t =>
    match ty with
    | .builtin .date => .date t.date
    | _ => .timestamp t.cut
  | v => v

variable {ty : WireType} {raw : Bytes}

/-! ## Kinds of values -/

theorem decodeSigned_encodeSigned {width : Nat} {i : Int} (leftover : Fault)
    (h : encodeSigned width i = .ok raw) : decodeSigned width leftover raw = .ok i := by
  unfold encodeSigned at h
  split at h
  · rename_i hfits
    cases h
    have htake := Bytes.take?_append (BigEndian.ofInt width i) []
    rw [BigEndian.length_ofInt, List.append_nil] at htake
    rw [decodeSigned, htake]
    exact congrArg Except.ok (BigEndian.toInt_ofInt hfits.1 hfits.2)
  · cases h

theorem decodeUnsigned_encodeUnsigned {width : Nat} {i : Int}
    (h : encodeUnsigned width i = .ok raw) :
    ∃ n : Nat, (n : Int) = i ∧ decodeUnsigned width raw = .ok n := by
  unfold encodeUnsigned at h
  split at h
  · rename_i hfits
    cases h
    have htake := Bytes.take?_append (BigEndian.ofNat width i.toNat) []
    rw [BigEndian.length_ofNat, List.append_nil] at htake
    refine ⟨i.toNat, Int.toNat_of_nonneg hfits.1, ?_⟩
    rw [decodeUnsigned, htake]
    exact congrArg Except.ok (BigEndian.toNat_ofNat (by omega))
  · cases h

theorem decode_encodeBool {b : Bool} (h : encodeBool b ty = .ok raw) :
    decodeScalar ty raw = .ok (.bool b) := by
  unfold encodeBool at h
  split at h
  · cases h
    cases b <;> rfl
  · cases h

theorem decode_encodeInt (hty : ty.IsLeaf) {i : Int64} (h : encodeInt i.toInt ty = .ok raw) :
    decodeScalar ty raw = .ok (receivedLeaf (.int i) ty) := by
  have hsigned : ∀ {width : Nat} (leftover : Fault), encodeSigned width i.toInt = .ok raw →
      intValue <$> decodeSigned width leftover raw = .ok (.int i) := by
    intro width leftover h
    rw [decodeSigned_encodeSigned leftover h]
    exact congrArg (Except.ok ∘ Value.int) (Int64.ofInt_toInt i)
  unfold encodeInt at h
  split at h
  · exact hsigned .bufferSize h
  · exact hsigned .bufferSize h
  · exact hsigned .bufferSize h
  · obtain ⟨n, hn, hread⟩ := decodeUnsigned_encodeUnsigned h
    refine map_eq_ok_iff.mpr ⟨(n : Int), bind_eq_ok_iff.mpr ⟨n, hread, rfl⟩, ?_⟩
    rw [hn]
    exact congrArg Value.int (Int64.ofInt_toInt i)
  · cases hty with
    | builtin hb => cases hb
  · cases hty with
    | builtin hb => cases hb
  · obtain ⟨n, hn, htext⟩ := map_eq_ok_iff.mp (decode_encodeNumeric h)
    rw [canonicalText_signedDecimal] at htext
    refine map_eq_ok_iff.mpr ⟨n, hn, ?_⟩
    rw [htext]
    rfl
  · cases h

theorem decodeText_encode (s : String) : decodeText (Utf8.encode s) = .ok (.text s) := by
  rw [decodeText, Utf8.decode?_encode]

theorem isPlainTextName_builtin {b : Builtin} (h : b.isExact = true) :
    isPlainTextName (WireType.builtin b).name = false
      ∧ isVersionedTextName (WireType.builtin b).name = false := by
  cases b with
  | other => cases h
  | _ => exact ⟨rfl, rfl⟩

theorem decode_encodePlainText (hty : ty.IsLeaf) (henum : ∀ d labels, ty ≠ .enum d labels)
    {s : String} (h : encodePlainText s ty = .ok raw) : decodeScalar ty raw = .ok (.text s) := by
  cases hty with
  | @builtin b hb =>
    unfold encodePlainText at h
    split at h
    case h_6 =>
      rw [(isPlainTextName_builtin hb).1, (isPlainTextName_builtin hb).2] at h
      cases h
    all_goals
      rename_i hbuiltin
      cases hbuiltin
      cases h
      exact decodeText_encode s
  | @citext d hd =>
    have hplain : isPlainTextName (WireType.simple d).name = true := beq_iff_eq.mpr hd
    have hsends : sendsText (.simple d) = true := beq_iff_eq.mpr hd
    unfold encodePlainText at h
    simp only at h
    rw [if_pos hplain] at h
    cases h
    show (if sendsText (.simple d) then _ else _) = _
    rw [if_pos hsends]
    exact decodeText_encode s
  | enum d labels => exact absurd rfl (henum d labels)

theorem receivedLeaf_text (s : String) (huuid : ty ≠ .builtin .uuid)
    (hnumeric : ty ≠ .builtin .numeric) : receivedLeaf (.text s) ty = .text s := by
  unfold receivedLeaf
  simp only

theorem decode_encodeText (hty : ty.IsLeaf) {s : String} (h : encodeText s ty = .ok raw) :
    decodeScalar ty raw = .ok (receivedLeaf (.text s) ty) := by
  unfold encodeText at h
  split at h
  · split at h
    · rename_i u hu
      cases h
      show decodeUuid u.bytes = .ok (((Uuid.ofText? s).map Value.uuid).getD (.text s))
      rw [decodeUuid, Uuid.ofBytes?_bytes, hu]
      rfl
    · cases h
  · cases hty with
    | builtin hb => cases hb
  · cases hty with
    | builtin hb => cases hb
  · obtain ⟨n, hn, htext⟩ := map_eq_ok_iff.mp (decode_encodeNumeric h)
    refine map_eq_ok_iff.mpr ⟨n, hn, ?_⟩
    rw [htext]
    rfl
  · cases h
    exact decodeText_encode s
  · rename_i huuid _ _ hnumeric henum
    rw [receivedLeaf_text s huuid hnumeric]
    exact decode_encodePlainText hty henum h

theorem decode_encodeBytes {bytes : Bytes} (h : encodeBytes bytes ty = .ok raw) :
    decodeScalar ty raw = .ok (.bytes bytes) := by
  unfold encodeBytes at h
  split at h
  · cases h
    rfl
  · cases h

theorem decode_encodeDate {d : Date} (h : encodeDate d ty = .ok raw) :
    decodeScalar ty raw = .ok (.date d) := by
  unfold encodeDate at h
  split at h
  · cases h
    have hday := d.inRange
    have hpower : ((256 ^ 4 : Nat) : Int) = 4294967296 := rfl
    unfold Date.firstDay Date.lastDay at hday
    have hread : decodeSigned 4 (.notDrained "date") (BigEndian.ofInt 4 (d.day - Date.wireEpoch))
        = .ok (d.day - Date.wireEpoch) := by
      refine decodeSigned_encodeSigned _ (if_pos ?_)
      unfold Date.wireEpoch
      omega
    refine bind_eq_ok_iff.mpr ⟨_, hread, ?_⟩
    have hback : Date.wireEpoch + (d.day - Date.wireEpoch) = d.day := by omega
    rw [hback, Date.ofDay?_day]
  · cases h

theorem decode_encodeTimestamp {t : Timestamp} (ht : t.nano < 1000000000)
    (h : encodeTimestamp t ty = .ok raw) :
    decodeScalar ty raw = .ok (receivedLeaf (.timestamp t) ty) := by
  have hmoment : decodeTimestamp (BigEndian.ofInt 8 t.microseconds) = .ok (.timestamp t.cut) := by
    have hread : decodeSigned 8 (.notDrained "timestamp") (BigEndian.ofInt 8 t.microseconds)
        = .ok t.microseconds :=
      decodeSigned_encodeSigned _ (if_pos (Timestamp.microseconds_bounds ht))
    refine bind_eq_ok_iff.mpr ⟨_, hread, ?_⟩
    rw [Timestamp.ofMicroseconds?_microseconds ht]
  unfold encodeTimestamp at h
  split at h
  · cases h
    exact hmoment
  · cases h
    exact hmoment
  · exact decode_encodeDate h
  · cases h

theorem decode_encodeUuid (hty : ty.IsLeaf) {u : Uuid} (h : encodeUuid u ty = .ok raw) :
    decodeScalar ty raw = .ok (receivedLeaf (.uuid u) ty) := by
  unfold encodeUuid at h
  split at h
  · cases h
    show decodeUuid u.bytes = .ok (.uuid u)
    rw [decodeUuid, Uuid.ofBytes?_bytes]
  · rename_i huuid
    by_cases hnumeric : ty = .builtin .numeric
    · subst hnumeric
      exact absurd h (encodeNumeric_uuid u raw)
    · have hreceived : receivedLeaf (.uuid u) ty = .text u.text := by
        unfold receivedLeaf
        simp only
      rw [hreceived, ← receivedLeaf_text u.text huuid hnumeric]
      exact decode_encodeText hty h

end Wire

end PgStatement
