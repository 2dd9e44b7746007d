import PgStatement.Proofs.Uuid
import PgStatement.Proofs.Wire.Array
import PgStatement.Proofs.Wire.Leaf

/-!
# Values come back

Whatever is written as a type is read as this type: the same value, or the form that the type has
for it (`received`). This holds of all types that are put together by arrays and domains from types
that hold a single value (`WireType.IsPlain`), of any depth and in any order, and of all values but
floating-point numbers, documents and leap seconds (`Value.IsPlain`).

Writer and reader go different ways. The writer looks at the value first and takes the domains off
whenever it needs the type; the reader looks at the type first and takes off one layer at a time.
The induction is on the type, layer by layer, and for an array the reader of its elements is right
by the induction hypothesis (`decodeCell_encode`).
-/

namespace PgStatement

open Text

/-- **Values without floating-point numbers, documents and leap seconds.** -/
inductive Value.IsPlain : Value → Prop where
  | null : IsPlain .null
  | bool (b : Bool) : IsPlain (.bool b)
  | int (i : Int64) : IsPlain (.int i)
  | text (s : String) : IsPlain (.text s)
  | bytes (bytes : Bytes) : IsPlain (.bytes bytes)
  | timestamp {t : Timestamp} (h : t.nano < 1000000000) : IsPlain (.timestamp t)
  | date (d : Date) : IsPlain (.date d)
  | uuid (u : Uuid) : IsPlain (.uuid u)
  | list {items : List Value} (h : ∀ item ∈ items, IsPlain item) : IsPlain (.list items)

namespace Wire

/-- The names by which texts are written that are not of a builtin type. -/
def textNames : List String := ["citext", "ltree", "lquery", "ltxtquery"]

/-- **Types that give values back**: those that hold a single value, and domains and arrays of such
types. An array must not have the name of a type of texts. -/
inductive WireType.IsPlain : WireType → Prop where
  | leaf {ty : WireType} (h : ty.IsLeaf) : IsPlain ty
  | builtinArray {b element : Builtin} (helement : b.element? = some element)
    (h : element.isExact = true) : IsPlain (.builtin b)
  | domain (d : Declaration) {base : WireType} (h : base.IsPlain) : IsPlain (.domain d base)
  | array {d : Declaration} {element : WireType} (hname : d.name ∉ textNames)
    (h : element.IsPlain) : IsPlain (.array d element)

mutual

/-- **The value that comes back** from a type: of an array item by item, and else by the type under
all domains. -/
def received : Value → WireType → Value
  | .list items, ty =>
    match ty.base.element? with
    | some element => .list (receivedItems items element)
    | none => .list items
  | v, ty => receivedLeaf v ty.base

/-- The items that come back from an array. -/
def receivedItems : List Value → WireType → List Value
  | [], _ => []
  | item :: items, ty => received item ty :: receivedItems items ty

end

theorem receivedItems_eq_map (items : List Value) (ty : WireType) :
    receivedItems items ty = items.map (received · ty) := by
  induction items with
  | nil => rw [receivedItems, List.map_nil]
  | cons item items ih => rw [receivedItems, List.map_cons, ih]

variable {ty element : WireType} {v : Value} {cell : Option Bytes} {raw : Bytes}

theorem received_of_ne_list (hv : ∀ items, v ≠ .list items) :
    received v ty = receivedLeaf v ty.base := by
  rw [received]
  exact hv

/-! ## Layers of types -/

theorem encode_domain (v : Value) (d : Declaration) (base : WireType) :
    encode v (.domain d base) = encode v base := by
  cases v <;> simp only [encode, WireType.base]

theorem received_domain (v : Value) (d : Declaration) (base : WireType) :
    received v (.domain d base) = received v base := by
  cases v <;> simp only [received, WireType.base]

theorem WireType.IsLeaf.base_eq (h : ty.IsLeaf) : ty.base = ty := by
  cases h <;> rfl

theorem WireType.IsLeaf.element?_eq (h : ty.IsLeaf) : ty.element? = none := by
  cases h with
  | @builtin b hb => cases b <;> first | rfl | cases hb
  | citext => rfl
  | enum => rfl

theorem WireType.IsLeaf.decode_eq (h : ty.IsLeaf) (raw : Bytes) :
    decode ty raw = decodeScalar ty raw := by
  have helement := h.element?_eq
  cases h with
  | @builtin b hb =>
    have hnone : b.element? = none := Option.map_eq_none_iff.mp helement
    rw [decode, hnone]
  | citext => rfl
  | enum => rfl

/-- **Arrays are read by their elements**, builtin ones as well. -/
theorem decode_of_element? (h : ty.element? = some element) (raw : Bytes) :
    decode ty raw = .list <$> ArrayFormat.decode (decodeCell element) raw := by
  cases ty with
  | array d element =>
    cases h
    rfl
  | builtin b =>
    obtain ⟨e, he, rfl⟩ := Option.map_eq_some_iff.mp h
    have hread : decodeCell (.builtin e) = nullable (decodeScalar (.builtin e)) := by
      have hnone := Builtin.element?_of_element? he
      funext cell
      cases cell with
      | none => rfl
      | some raw =>
        show decode (.builtin e) raw = decodeScalar (.builtin e) raw
        rw [decode, hnone]
    rw [decode, he, hread]
  | _ => cases h

/-! ## Single values -/

/-- **What is written as a type that holds a single value** is read as it. -/
theorem decodeCell_encode_leaf (hty : ty.IsLeaf) (hv : v.IsPlain) (h : encode v ty = .ok cell) :
    decodeCell ty cell = .ok (received v ty) := by
  have hsome : ∀ {result : Except Fault Bytes} {value : Value},
      some <$> result = .ok cell → (∀ raw, result = .ok raw → decodeScalar ty raw = .ok value) →
      decodeCell ty cell = .ok value := by
    intro result value hresult hread
    obtain ⟨raw, hraw, rfl⟩ := map_eq_ok_iff.mp hresult
    exact (hty.decode_eq raw).trans (hread raw hraw)
  have hbase := hty.base_eq
  by_cases hlist : ∃ items, v = .list items
  · obtain ⟨items, rfl⟩ := hlist
    rw [encode, hbase, hty.element?_eq] at h
    cases h
  · rw [received_of_ne_list (fun items hitems => hlist ⟨items, hitems⟩), hbase]
    cases hv with
    | list => exact absurd ⟨_, rfl⟩ hlist
    | null =>
      rw [encode] at h
      cases h
      rfl
    | bool b =>
      rw [encode, hbase] at h
      exact hsome h fun raw => decode_encodeBool
    | int i =>
      rw [encode, hbase] at h
      exact hsome h fun raw => decode_encodeInt hty
    | text s =>
      rw [encode, hbase] at h
      exact hsome h fun raw => decode_encodeText hty
    | bytes bytes =>
      rw [encode, hbase] at h
      exact hsome h fun raw => decode_encodeBytes
    | timestamp ht =>
      rw [encode, hbase] at h
      exact hsome h fun raw => decode_encodeTimestamp ht
    | date d =>
      rw [encode, hbase] at h
      exact hsome h fun raw => decode_encodeDate
    | uuid u =>
      rw [encode, hbase] at h
      exact hsome h fun raw => decode_encodeUuid hty

/-! ## Arrays -/

/-- An array is not among the types that texts are written as by name. -/
theorem isPlainTextName_array (hname : ∀ d e, ty = .array d e → d.name ∉ textNames)
    (helement : ty.element? = some element) :
    isPlainTextName ty.name = false ∧ isVersionedTextName ty.name = false := by
  cases ty with
  | builtin b => cases b <;> first | exact ⟨rfl, rfl⟩ | cases helement
  | array d e =>
    have hmem := hname d e rfl
    simp only [textNames, List.mem_cons, List.not_mem_nil, or_false, not_or] at hmem
    unfold isPlainTextName isVersionedTextName
    simp only [Bool.or_eq_false_iff, beq_eq_false_iff_ne]
    exact ⟨hmem.1, ⟨hmem.2.1, hmem.2.2.1⟩, hmem.2.2.2⟩
  | _ => cases helement

/-- A text is not written as an array. -/
theorem element?_of_encodeText (hname : ∀ d e, ty = .array d e → d.name ∉ textNames) {s : String}
    (h : encodeText s ty = .ok raw) : ty.element? = none := by
  unfold encodeText at h
  split at h
  · rfl
  · rfl
  · rfl
  · rfl
  · rfl
  · unfold encodePlainText at h
    split at h
    · rfl
    · rfl
    · rfl
    · rfl
    · rfl
    · cases helement : ty.element? with
      | none => rfl
      | some element =>
        have hplain := isPlainTextName_array hname helement
        rw [hplain.1, hplain.2] at h
        cases h

/-- **What is written as an array** is a list, or null. -/
theorem null_or_list_of_encode (hbase : ty.base = ty) (helement : ty.element? = some element)
    (hname : ∀ d e, ty = .array d e → d.name ∉ textNames) (hv : v.IsPlain)
    (h : encode v ty = .ok cell) : (v = .null ∧ cell = none) ∨ ∃ items, v = .list items := by
  have hnone : ∀ {result : Except Fault Bytes}, some <$> result = .ok cell →
      (∀ raw, result = .ok raw → ty.element? = none) → False := by
    intro result hresult hread
    obtain ⟨raw, hraw, -⟩ := map_eq_ok_iff.mp hresult
    rw [hread raw hraw] at helement
    cases helement
  cases hv with
  | null =>
    rw [encode] at h
    cases h
    exact .inl ⟨rfl, rfl⟩
  | list => exact .inr ⟨_, rfl⟩
  | text s =>
    rw [encode, hbase] at h
    exact (hnone h fun raw => element?_of_encodeText hname).elim
  | uuid u =>
    rw [encode, hbase] at h
    refine (hnone h fun raw hraw => ?_).elim
    unfold encodeUuid at hraw
    split at hraw
    · rfl
    · exact element?_of_encodeText hname hraw
  | bool b =>
    rw [encode, hbase] at h
    refine (hnone h fun raw hraw => ?_).elim
    unfold encodeBool at hraw
    split at hraw <;> first | rfl | cases hraw
  | int i =>
    rw [encode, hbase] at h
    refine (hnone h fun raw hraw => ?_).elim
    unfold encodeInt at hraw
    split at hraw <;> first | rfl | cases hraw
  | bytes bytes =>
    rw [encode, hbase] at h
    refine (hnone h fun raw hraw => ?_).elim
    unfold encodeBytes at hraw
    split at hraw <;> first | rfl | cases hraw
  | timestamp =>
    rw [encode, hbase] at h
    refine (hnone h fun raw hraw => ?_).elim
    unfold encodeTimestamp at hraw
    split at hraw <;> first | rfl | cases hraw
  | date d =>
    rw [encode, hbase] at h
    refine (hnone h fun raw hraw => ?_).elim
    unfold encodeDate at hraw
    split at hraw <;> first | rfl | cases hraw

/-- Items that were written, one by one. -/
theorem forall₂_of_encodeItems {items : List Value} {elements : List (Option Bytes)}
    (h : encodeItems items ty = .ok elements) :
    List.Forall₂ (fun item cell => encode item ty = .ok cell
      ∧ (cell.getD []).length ≤ maxLength) items elements := by
  induction items generalizing elements with
  | nil =>
    rw [encodeItems] at h
    cases h
    exact .nil
  | cons item items ih =>
    rw [encodeItems] at h
    obtain ⟨cell, hcell, h⟩ := bind_eq_ok_iff.mp h
    split at h
    · cases h
    · rename_i hlength
      obtain ⟨rest, hrest, h⟩ := bind_eq_ok_iff.mp h
      cases h
      exact .cons ⟨hcell, Nat.le_of_not_lt hlength⟩ (ih hrest)

/-- What holds of each item and its bytes holds of the items that come back. -/
theorem forall₂_received {items : List Value} {elements : List (Option Bytes)}
    (h : List.Forall₂ (fun item cell => encode item element = .ok cell
      ∧ (cell.getD []).length ≤ maxLength) items elements)
    (hitems : ∀ item ∈ items, ∀ cell, encode item element = .ok cell →
      decodeCell element cell = .ok (received item element)) :
    List.Forall₂ (fun cell value => decodeCell element cell = .ok value) elements
      (items.map (received · element)) := by
  induction h with
  | nil => exact .nil
  | cons hcell _ ih =>
    rw [List.forall_mem_cons] at hitems
    exact .cons (hitems.1 _ hcell.1) (ih hitems.2)

/-- **A list that was written as an array** is read as an array, if its items are read. -/
theorem decodeCell_encode_list {items : List Value} (hbase : ty.base = ty)
    (helement : ty.element? = some element)
    (hitems : ∀ item ∈ items, ∀ cell, encode item element = .ok cell →
      decodeCell element cell = .ok (received item element))
    (h : encode (.list items) ty = .ok cell) :
    decodeCell ty cell = .ok (received (.list items) ty) := by
  rw [encode, hbase, helement] at h
  simp only at h
  split at h
  · cases h
  · rename_i hcount
    obtain ⟨elements, helements, h⟩ := bind_eq_ok_iff.mp h
    cases h
    have hall := forall₂_of_encodeItems helements
    have hlength : ∀ raw, some raw ∈ elements → raw.length ≤ maxLength := by
      intro raw hraw
      obtain ⟨item, -, -, hbound⟩ := exists_of_forall₂_right hall hraw
      exact hbound
    have hreceived := forall₂_received hall hitems
    have hdecode := ArrayFormat.decode_encode (lowerBound ty) element.oid
      (hall.length_eq ▸ Nat.le_of_not_lt hcount) hlength hreceived
    rw [received, hbase, helement]
    simp only
    rw [receivedItems_eq_map]
    show decode ty _ = _
    rw [decode_of_element? helement, hdecode]
    rfl

/-- **What is written is read**, whatever the layers of the type. -/
theorem decodeCell_encode (hty : ty.IsPlain) (hv : v.IsPlain) (h : encode v ty = .ok cell) :
    decodeCell ty cell = .ok (received v ty) := by
  induction hty generalizing v cell with
  | leaf hleaf => exact decodeCell_encode_leaf hleaf hv h
  | domain d _ ih =>
    rw [encode_domain] at h
    rw [received_domain, ← ih hv h]
    cases cell <;> rfl
  | @builtinArray b e he hexact =>
    have helement : (WireType.builtin b).element? = some (.builtin e) :=
      Option.map_eq_some_iff.mpr ⟨e, he, rfl⟩
    rcases null_or_list_of_encode rfl helement nofun hv h with ⟨rfl, rfl⟩ | ⟨items, rfl⟩
    · rfl
    · cases hv with
      | list hitems =>
        exact decodeCell_encode_list rfl helement (fun item hitem cell =>
          decodeCell_encode_leaf (.builtin hexact) (hitems item hitem)) h
  | @array d e hname _ ih =>
    have hnames : ∀ d' e', WireType.array d e = .array d' e' → d'.name ∉ textNames := by
      rintro _ _ ⟨⟩
      exact hname
    rcases null_or_list_of_encode rfl rfl hnames hv h with ⟨rfl, rfl⟩ | ⟨items, rfl⟩
    · rfl
    · cases hv with
      | list hitems =>
        exact decodeCell_encode_list rfl rfl (fun item hitem cell => ih (hitems item hitem)) h

/-! ## Integers -/

/-- The smallest and the largest integer of a type, of the types of integers. -/
def Builtin.intBounds? : Builtin → Option (Int × Int)
  | .int2 => some (-2 ^ 15, 2 ^ 15 - 1)
  | .int4 => some (-2 ^ 31, 2 ^ 31 - 1)
  | .int8 => some (-2 ^ 63, 2 ^ 63 - 1)
  | .oid => some (0, 2 ^ 32 - 1)
  | _ => none

theorem exists_encodeSigned_iff {width : Nat} {i low high : Int}
    (hlow : 2 * low = -(256 ^ width : Nat)) (hhigh : 2 * high + 2 = (256 ^ width : Nat)) :
    (∃ raw, encodeSigned width i = .ok raw) ↔ low ≤ i ∧ i ≤ high := by
  unfold encodeSigned
  split
  · rename_i hfits
    exact iff_of_true ⟨_, rfl⟩ (by omega)
  · rename_i hfits
    exact iff_of_false (fun ⟨raw, hraw⟩ => nomatch hraw) (by omega)

theorem exists_encodeUnsigned_iff {width : Nat} {i high : Int}
    (hhigh : high + 1 = (256 ^ width : Nat)) :
    (∃ raw, encodeUnsigned width i = .ok raw) ↔ 0 ≤ i ∧ i ≤ high := by
  unfold encodeUnsigned
  split
  · rename_i hfits
    exact iff_of_true ⟨_, rfl⟩ (by omega)
  · rename_i hfits
    exact iff_of_false (fun ⟨raw, hraw⟩ => nomatch hraw) (by omega)

/-- **An integer is written if it is one of the type**, under any number of domains. -/
theorem encode_int_iff {i : Int64} {b : Builtin} {low high : Int} (hb : ty.base = .builtin b)
    (hbounds : b.intBounds? = some (low, high)) :
    (∃ raw, encode (.int i) ty = .ok (some raw)) ↔ low ≤ i.toInt ∧ i.toInt ≤ high := by
  have hsome : (∃ raw, encode (.int i) ty = .ok (some raw))
      ↔ ∃ raw, encodeInt i.toInt (.builtin b) = .ok raw := by
    rw [encode, hb]
    refine exists_congr fun raw => map_eq_ok_iff.trans ⟨?_, fun h => ⟨raw, h, rfl⟩⟩
    rintro ⟨raw', h, ⟨⟩⟩
    exact h
  rw [hsome]
  cases b with
  | int2 =>
    cases hbounds
    exact exists_encodeSigned_iff rfl rfl
  | int4 =>
    cases hbounds
    exact exists_encodeSigned_iff rfl rfl
  | int8 =>
    cases hbounds
    exact exists_encodeSigned_iff rfl rfl
  | oid =>
    cases hbounds
    exact exists_encodeUnsigned_iff rfl
  | _ => cases hbounds

/-! ## What comes back -/

/-- **The one form of a text that is sent as a decimal number**: that of the number it is read as,
or the text without the blanks around it if it stands for no number. -/
def Numeric.IsFormOf (form s : String) : Prop :=
  trim s ∈ specialTexts ∧ form = trim s
    ∨ ∃ d : DecimalText, d.IsReadingOf (trim s).toList ∧ form = String.ofList d.canonical

/-- **The value that comes back.** Most values come back as they are; what else may come back
depends on the type under the domains. Integers and texts become decimal numbers in their one form,
texts the identifiers that they name, identifiers texts and moments dates. A moment loses what is
below a microsecond, toward 1 January 2000. Of an array each element comes back as it would
alone. -/
inductive IsReceived : Value → WireType → Value → Prop where
  | null (ty : WireType) : IsReceived .null ty .null
  | bool (b : Bool) (ty : WireType) : IsReceived (.bool b) ty (.bool b)
  | bytes (bytes : Bytes) (ty : WireType) : IsReceived (.bytes bytes) ty (.bytes bytes)
  | date (d : Date) (ty : WireType) : IsReceived (.date d) ty (.date d)
  | int (i : Int64) {ty : WireType} (hty : ty.base ≠ .builtin .numeric) :
    IsReceived (.int i) ty (.int i)
  | intAsNumeric {i : Int64} {ty : WireType} {form : String} {digits : List Char}
    (hty : ty.base = .builtin .numeric) (hdigits : IsDigits digits) (hunpadded : IsUnpadded digits)
    (hvalue : ofDecimalChars digits = i.toInt.natAbs)
    (hform : form.toList = (if i.toInt < 0 then ['-'] else []) ++ digits) :
    IsReceived (.int i) ty (.text form)
  | text (s : String) {ty : WireType} (huuid : ty.base ≠ .builtin .uuid)
    (hnumeric : ty.base ≠ .builtin .numeric) : IsReceived (.text s) ty (.text s)
  | textAsNumeric {s form : String} {ty : WireType} (hty : ty.base = .builtin .numeric)
    (hform : Numeric.IsFormOf form s) : IsReceived (.text s) ty (.text form)
  | textAsUuid {s : String} {u : Uuid} {ty : WireType} (hty : ty.base = .builtin .uuid)
    (hnamed : u.IsNamedBy s.toList) : IsReceived (.text s) ty (.uuid u)
  | uuid (u : Uuid) {ty : WireType} (hty : ty.base = .builtin .uuid) :
    IsReceived (.uuid u) ty (.uuid u)
  | uuidAsText {u : Uuid} {s : String} {ty : WireType} (hty : ty.base ≠ .builtin .uuid)
    (hwritten : u.IsWrittenAs s.toList) : IsReceived (.uuid u) ty (.text s)
  | timestamp {t kept : Timestamp} {ty : WireType} (hty : ty.base ≠ .builtin .date)
    (hnano : kept.nano < 1000000000)
    (hkept : kept.nanoseconds = t.nanoseconds.tdiv 1000 * 1000) :
    IsReceived (.timestamp t) ty (.timestamp kept)
  | timestampAsDate {t : Timestamp} {d : Date} {ty : WireType} (hty : ty.base = .builtin .date)
    (hday : d.day = t.second / 86400) : IsReceived (.timestamp t) ty (.date d)
  | list {items values : List Value} {ty element : WireType}
    (helement : ty.base.element? = some element) (hlength : items.length = values.length)
    (h : ∀ item ∈ items.zip values, IsReceived item.1 element item.2) :
    IsReceived (.list items) ty (.list values)

theorem isFormOf_of_encodeNumeric {s : String} (h : encodeNumeric s = .ok raw) :
    Numeric.IsFormOf (Numeric.canonicalText s) s := by
  obtain ⟨n, hn, -⟩ := bind_eq_ok_iff.mp h
  obtain ⟨hs, -⟩ | ⟨d, hread, -⟩ := Numeric.ofText_cases hn
  · exact .inl ⟨hs, Numeric.canonicalText_of_special hs⟩
  · exact .inr ⟨d, hread, Numeric.canonicalText_of_isReadingOf hread⟩

theorem isReceived_int (i : Int64) (ty : WireType) :
    IsReceived (.int i) ty (receivedLeaf (.int i) ty.base) := by
  by_cases hty : ty.base = .builtin .numeric
  · rw [hty]
    exact .intAsNumeric hty (isDigits_decimalChars _) (isUnpadded_decimalChars _)
      (ofDecimalChars_decimalChars _) (toList_signedDecimal _)
  · have hsame : receivedLeaf (.int i) ty.base = .int i := by
      unfold receivedLeaf
      simp only
    rw [hsame]
    exact .int i hty

theorem isReceived_text {s : String} (h : encodeText s ty.base = .ok raw) :
    IsReceived (.text s) ty (receivedLeaf (.text s) ty.base) := by
  by_cases hnumeric : ty.base = .builtin .numeric
  · rw [hnumeric] at h ⊢
    exact .textAsNumeric hnumeric (isFormOf_of_encodeNumeric h)
  · by_cases huuid : ty.base = .builtin .uuid
    · rw [huuid] at h ⊢
      cases hread : Uuid.ofText? s with
      | none =>
        unfold encodeText at h
        simp only [hread] at h
        cases h
      | some u =>
        have hreceived : receivedLeaf (.text s) (.builtin .uuid) = .uuid u := by
          show ((Uuid.ofText? s).map Value.uuid).getD (.text s) = _
          rw [hread]
          rfl
        rw [hreceived]
        exact .textAsUuid huuid (Uuid.ofText?_eq_some_iff.mp hread)
    · rw [receivedLeaf_text s huuid hnumeric]
      exact .text s huuid hnumeric

theorem isReceived_uuid (u : Uuid) (ty : WireType) :
    IsReceived (.uuid u) ty (receivedLeaf (.uuid u) ty.base) := by
  by_cases hty : ty.base = .builtin .uuid
  · rw [hty]
    exact .uuid u hty
  · have hreceived : receivedLeaf (.uuid u) ty.base = .text u.text := by
      unfold receivedLeaf
      simp only
    rw [hreceived]
    exact .uuidAsText hty u.isWrittenAs_text

theorem isReceived_timestamp {t : Timestamp} (ht : t.nano < 1000000000) (ty : WireType) :
    IsReceived (.timestamp t) ty (receivedLeaf (.timestamp t) ty.base) := by
  by_cases hty : ty.base = .builtin .date
  · rw [hty]
    exact .timestampAsDate hty rfl
  · have hreceived : receivedLeaf (.timestamp t) ty.base = .timestamp t.cut := by
      unfold receivedLeaf
      simp only
    rw [hreceived]
    exact .timestamp hty
      (Timestamp.nano_lt_of_ofMicroseconds? (Timestamp.ofMicroseconds?_microseconds ht))
      (Timestamp.nanoseconds_cut ht)

/-- **What was written comes back** in the form that the type has for it. -/
theorem isReceived_received (hv : v.IsPlain) (h : encode v ty = .ok cell) :
    IsReceived v ty (received v ty) := by
  induction hv generalizing ty cell with
  | null => exact .null ty
  | bool b => exact .bool b ty
  | bytes bytes => exact .bytes bytes ty
  | date d => exact .date d ty
  | int i => exact isReceived_int i ty
  | text s =>
    rw [encode] at h
    obtain ⟨raw, hraw, -⟩ := map_eq_ok_iff.mp h
    exact isReceived_text hraw
  | timestamp ht => exact isReceived_timestamp ht ty
  | uuid u => exact isReceived_uuid u ty
  | @list items _ ih =>
    rw [encode] at h
    cases helement : ty.base.element? with
    | none =>
      rw [helement] at h
      cases h
    | some element =>
      rw [helement] at h
      simp only at h
      split at h
      · cases h
      · obtain ⟨elements, helements, -⟩ := bind_eq_ok_iff.mp h
        have hall := forall₂_of_encodeItems helements
        rw [received, helement]
        simp only
        rw [receivedItems_eq_map]
        refine .list helement (List.length_map _).symm fun item hitem => ?_
        rw [← List.map_prod_left_eq_zip] at hitem
        obtain ⟨item, hmem, rfl⟩ := List.mem_map.mp hitem
        obtain ⟨cell, -, hcell, -⟩ := exists_of_forall₂_left hall hmem
        exact ih item hmem hcell

/-- **Values come back.** What is written as a type is read as this type, as the value that is to
come back; and an integer is written as a type of integers if and only if it is one of it. -/
theorem received_of_encode (hty : ty.IsPlain) (hv : v.IsPlain) :
    (∀ raw, encode v ty = .ok (some raw) →
        ∃ value, decode ty raw = .ok value ∧ IsReceived v ty value)
      ∧ ∀ (i : Int64) (b : Builtin) (low high : Int), v = .int i → ty.base = .builtin b →
        b.intBounds? = some (low, high) →
        ((∃ raw, encode v ty = .ok (some raw)) ↔ low ≤ i.toInt ∧ i.toInt ≤ high) := by
  refine ⟨fun raw h => ⟨_, decodeCell_encode hty hv h, isReceived_received hv h⟩, ?_⟩
  rintro i b low high rfl hb hbounds
  exact encode_int_iff hb hbounds

/-- An array of a domain over an array of decimal numbers. -/
def priceLists : WireType :=
  .array ⟨"_prices", "public", 16403⟩ (.domain ⟨"prices", "shop", 16402⟩ (.builtin .numericArray))

/-- The last nanosecond of 31 December 1969. -/
def newYearsEve : Timestamp := ⟨-1, 999999999, by decide, by decide, by decide⟩

/-- An identifier with sixteen different bytes. -/
def sampleUuid : Uuid :=
  ⟨[0x01, 0x23, 0x45, 0x67, 0x89, 0xab, 0xcd, 0xef, 0xfe, 0xdc, 0xba, 0x98, 0x76, 0x54, 0x32, 0x10],
    rfl⟩

/-- A value is written as these bytes, and what is read of them is what comes back. -/
def ComesBackAs (v : Value) (ty : WireType) (raw : Bytes) (value : Value) : Prop :=
  encode v ty = .ok (some raw) ∧ decode ty raw = .ok value ∧ IsReceived v ty value

/-- Decimal numbers, moments and identifiers come back from arrays in the form of their type. -/
theorem received_priceLists :
    (∃ raw, ComesBackAs (.list [.list [.int (-70), .null, .text "+0.50"], .null]) priceLists raw
      (.list [.list [.text "-70", .null, .text "0.50"], .null]))
    ∧ ComesBackAs (.list [.timestamp newYearsEve]) (.builtin .dateArray)
      (ArrayFormat.encode 1 1082 [some (BigEndian.ofInt 4 (-10958))])
      (.list [.date ⟨-1, by decide⟩])
    ∧ ComesBackAs (.list [.timestamp newYearsEve]) (.builtin .timestamptzArray)
      (ArrayFormat.encode 1 1184 [some (BigEndian.ofInt 8 (-946684800000000))])
      (.list [.timestamp ⟨0, 0, by decide, by decide, by decide⟩])
    ∧ ComesBackAs (.list [.text "\x7b01234567-89AB-CDEF-FEDC-BA9876543210\x7d"])
      (.builtin .uuidArray) (ArrayFormat.encode 1 2950 [some sampleUuid.bytes])
      (.list [.uuid sampleUuid])
    ∧ ComesBackAs (.list [.uuid sampleUuid]) (.builtin .textArray)
      (ArrayFormat.encode 1 25 [some (Utf8.encode "01234567-89ab-cdef-fedc-ba9876543210")])
      (.list [.text "01234567-89ab-cdef-fedc-ba9876543210"]) := by
  have hback {v value : Value} {ty : WireType} {raw : Bytes} (hty : ty.IsPlain) (hv : v.IsPlain)
      (hencode : encode v ty = .ok (some raw)) (hvalue : received v ty = value) :
      ComesBackAs v ty raw value := by
    have hdecode : decode ty raw = .ok value := hvalue ▸ decodeCell_encode hty hv hencode
    obtain ⟨other, hother, hreceived⟩ := (received_of_encode hty hv).1 raw hencode
    obtain rfl := Except.ok.inj (hother.symm.trans hdecode)
    exact ⟨hencode, hdecode, hreceived⟩
  have hsingle {v : Value} (hv : v.IsPlain) : (Value.list [v]).IsPlain :=
    .list (List.forall_mem_singleton.mpr hv)
  have hpriceLists : priceLists.IsPlain := .array (by decide) (.domain _ (.builtinArray rfl rfl))
  have hprices : (Value.list [.list [.int (-70), .null, .text "+0.50"], .null]).IsPlain := by
    refine .list (List.forall_mem_cons.mpr ⟨.list ?_, List.forall_mem_singleton.mpr .null⟩)
    exact List.forall_mem_cons.mpr
      ⟨.int _, List.forall_mem_cons.mpr ⟨.null, List.forall_mem_singleton.mpr (.text _)⟩⟩
  have hmoment : (Value.list [.timestamp newYearsEve]).IsPlain := hsingle (.timestamp (by decide))
  exact ⟨⟨_, hback hpriceLists hprices rfl rfl⟩,
    hback (.builtinArray rfl rfl) hmoment (by decide +kernel) rfl,
    hback (.builtinArray rfl rfl) hmoment (by decide +kernel) rfl,
    hback (.builtinArray rfl rfl) (hsingle (.text _)) (by decide +kernel) rfl,
    hback (.builtinArray rfl rfl) (hsingle (.uuid _)) (by decide +kernel) rfl⟩

end Wire

end PgStatement
