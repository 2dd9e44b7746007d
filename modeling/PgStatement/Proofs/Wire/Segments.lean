import PgStatement.Proofs.Wire.Clock

/-!
# Numbers with colons between

An address of sixteen bytes is written as eight numbers in hexadecimal, and where zeros follow each
other they may be left out. Here is the reader of such texts: groups with colons between, each a
number of up to four digits or, behind the others, the four bytes of an embedded address; and at
most once two colons next to each other, which stand for all the numbers that are missing
(`Address.sixteen?`).

What the writer leaves out is a run of zeros (`Address.isRun_longestRun`). That is all the reader
relies on: which of several runs it is does not matter for it (`Address.sixteen?_compressedChars`).
-/

namespace PgStatement

/-! ## Hexadecimal numbers -/

namespace Text

/-- Whether a character is a hexadecimal digit. -/
def isHexDigit (c : Char) : Bool := (hexValue? c).isSome

/-- A number with another hexadecimal digit behind it. -/
def hexStep? (n : Nat) (c : Char) : Option Nat := (hexValue? c).map (16 * n + ·)

/-- **The number that hexadecimal digits denote**; none if there is something else among them. -/
def hexNumber? (cs : List Char) : Option Nat := cs.foldlM hexStep? 0

theorem hexStep?_digitChar (n : Nat) {digit : Nat} (h : digit < 16) :
    hexStep? n (Nat.digitChar digit) = some (16 * n + digit) := by
  rw [hexStep?, ← hexDigit, hexValue?_hexDigit h, Option.map_some]

/-- **A hexadecimal number is read as it was written.** -/
theorem hexNumber?_toDigits (n : Nat) : hexNumber? (Nat.toDigits 16 n) = some n := by
  induction n using Nat.strongRecOn with
  | ind n ih =>
    rw [Nat.toDigits_eq_if (by decide)]
    split
    · rename_i hsmall
      rw [hexNumber?, List.foldlM_cons, hexStep?_digitChar 0 hsmall, Nat.mul_zero, Nat.zero_add]
      rfl
    · rename_i hlarge
      have hfront : (Nat.toDigits 16 (n / 16)).foldlM hexStep? 0 = some (n / 16) :=
        ih (n / 16) (by omega)
      have hlast := hexStep?_digitChar (n / 16) (Nat.mod_lt n (show 0 < 16 by decide))
      rw [hexNumber?, List.foldlM_append, hfront]
      show hexStep? (n / 16) (Nat.digitChar (n % 16)) >>= pure = some n
      rw [hlast, Nat.div_add_mod]
      rfl

/-- Nothing but digits is read. -/
theorem isHexDigit_of_foldlM {cs : List Char} {n m : Nat} (h : cs.foldlM hexStep? n = some m) :
    ∀ c ∈ cs, isHexDigit c = true := by
  induction cs generalizing n with
  | nil => exact nofun
  | cons c cs ih =>
    rw [List.foldlM_cons] at h
    obtain ⟨k, hk, h⟩ := Option.bind_eq_some_iff.mp h
    obtain ⟨digit, hdigit, -⟩ := Option.map_eq_some_iff.mp hk
    exact List.forall_mem_cons.mpr ⟨Option.isSome_of_eq_some hdigit, ih h⟩

theorem isHexDigit_of_mem_toDigits {n : Nat} {c : Char} (h : c ∈ Nat.toDigits 16 n) :
    isHexDigit c = true :=
  isHexDigit_of_foldlM (hexNumber?_toDigits n) c h

end Text

namespace Wire.Address

open Text

/-! ## The reader -/

/-- A number of an address: one to four hexadecimal digits. -/
def segment? (cs : List Char) : Option Nat :=
  if cs ≠ [] ∧ cs.length ≤ 4 then hexNumber? cs else none

/-- A byte in decimal. -/
def byte? (cs : List Char) : Option UInt8 :=
  ((number? cs).filter (· < 256)).map UInt8.ofNat

/-- **Four bytes** in decimal with points between. -/
def four? (cs : List Char) : Option Bytes :=
  ((cs.splitOn '.').mapM byte?).filter (·.length = 4)

/-- The numbers of a group: one, or the two that four bytes make. -/
def group? (cs : List Char) : Option (List Nat) :=
  if '.' ∈ cs then (four? cs).map segments else (segment? cs).map ([·])

/-- The numbers of groups with colons between, if there are any. -/
def groups? (cs : List Char) : Option (List Nat) :=
  if cs = [] then some [] else ((cs.splitOn ':').mapM group?).map List.flatten

/-- What stands before and behind the first two colons that are next to each other. -/
def gap? : List Char → Option (List Char × List Char)
  | [] => none
  | c :: cs =>
    if c = ':' ∧ cs.head? = some ':' then some ([], cs.tail)
    else (gap? cs).map fun (front, back) => (c :: front, back)

/-- **Eight numbers**; where two colons are next to each other, those that are missing are zeros. -/
def eight? (cs : List Char) : Option (List Nat) :=
  match gap? cs with
  | none => (groups? cs).filter (·.length = 8)
  | some (front, back) => do
    let ns ← groups? front
    let ms ← groups? back
    if ns.length + ms.length < 8 then
      some (ns ++ List.replicate (8 - (ns.length + ms.length)) 0 ++ ms)
    else none

/-- **Sixteen bytes** as eight numbers. -/
def sixteen? (cs : List Char) : Option Bytes :=
  (eight? cs).map (List.flatMap (BigEndian.ofNat 2))

/-! ## Bytes and numbers -/

variable {bytes : Bytes} {numbers : List Nat}

/-- **Pairs of bytes are read back** from their numbers. -/
theorem flatMap_segments : {bytes : Bytes} → bytes.length % 2 = 0 →
    (segments bytes).flatMap (BigEndian.ofNat 2) = bytes
  | [], _ => rfl
  | [_], h => nomatch h
  | high :: low :: rest, h => by
    have hrest : rest.length % 2 = 0 := by
      rw [List.length_cons, List.length_cons] at h
      omega
    have hpair : BigEndian.ofNat 2 (BigEndian.toNat [high, low]) = [high, low] :=
      BigEndian.ofNat_toNat [high, low]
    rw [segments, List.flatMap_cons, hpair, flatMap_segments hrest]
    rfl

theorem length_segments : (bytes : Bytes) → (segments bytes).length = bytes.length / 2
  | [] => rfl
  | [_] => by simp [segments]
  | high :: low :: rest => by
    rw [segments, List.length_cons, length_segments rest, List.length_cons, List.length_cons]
    omega

theorem lt_of_mem_segments : {bytes : Bytes} → ∀ n ∈ segments bytes, n < 65536
  | [], _, h => nomatch h
  | [_], _, h => nomatch h
  | high :: low :: rest, n, h => by
    obtain rfl | h := List.mem_cons.mp h
    · have hlt : BigEndian.toNat [high, low] < 256 ^ 2 := BigEndian.toNat_lt [high, low]
      omega
    · exact lt_of_mem_segments n h

/-! ## Groups are read as they were written -/

/-- Of four bytes, each is read as it was written. -/
theorem byte?_decimalChars (b : UInt8) : byte? (decimalChars b.toNat) = some b := by
  rw [byte?, Clock.number?_decimalChars, Option.filter_some, if_pos (decide_eq_true b.toNat_lt),
    Option.map_some, UInt8.ofNat_toNat]

theorem segment?_toDigits {n : Nat} (h : n < 65536) : segment? (Nat.toDigits 16 n) = some n := by
  have hlength : (Nat.toDigits 16 n).length ≤ 4 :=
    (Nat.length_toDigits_le_iff (by decide) (by decide)).mpr h
  rw [segment?, if_pos ⟨Nat.toDigits_ne_nil, hlength⟩, hexNumber?_toDigits]

/-- Points and colons are no digits. -/
theorem not_mem_decimalChars {c : Char} (hc : isDecimalDigit c = false) (n : Nat) :
    c ∉ decimalChars n := fun h => by
  rw [isDecimalDigit_of_mem_decimalChars h] at hc
  cases hc

theorem not_mem_toDigits {c : Char} (hc : isHexDigit c = false) (n : Nat) :
    c ∉ Nat.toDigits 16 n := fun h => by
  rw [isHexDigit_of_mem_toDigits h] at hc
  cases hc

/-- **Four bytes are read as they were written.** -/
theorem four?_pointedChars (h : bytes.length = 4) : four? (pointedChars bytes) = some bytes := by
  have hpoint : ∀ cs ∈ bytes.map fun b => decimalChars b.toNat, '.' ∉ cs :=
    List.forall_mem_map.mpr fun b _ => not_mem_decimalChars rfl b.toNat
  have hne : bytes.map (fun b => decimalChars b.toNat) ≠ [] := fun hnil => by
    rw [List.map_eq_nil_iff.mp hnil] at h
    cases h
  have hbytes : bytes.mapM (byte? ∘ fun b => decimalChars b.toNat) = some (bytes.map id) :=
    mapM_eq_some_map fun b _ => byte?_decimalChars b
  rw [four?, pointedChars, List.splitOn_intercalate '.' hpoint hne, List.mapM_map, hbytes,
    List.map_id, Option.filter_some, if_pos (decide_eq_true h)]

theorem mem_pointedChars {c : Char} (h : c ∈ pointedChars bytes) :
    isDecimalDigit c = true ∨ c = '.' := by
  obtain h | ⟨cs, hcs, h⟩ := mem_intercalate h
  · exact .inr (List.mem_singleton.mp h)
  · obtain ⟨b, -, rfl⟩ := List.mem_map.mp hcs
    exact .inl (isDecimalDigit_of_mem_decimalChars h)

theorem colon_not_mem_pointedChars : ':' ∉ pointedChars bytes := fun h => by
  obtain h | h := mem_pointedChars h
  · cases h
  · cases h

theorem point_mem_pointedChars (h : bytes.length = 4) : '.' ∈ pointedChars bytes := by
  match bytes, h with
  | _ :: _ :: _, _ =>
    rw [pointedChars, List.map_cons, List.map_cons, List.intercalate_cons_cons]
    exact List.mem_append_left _ (List.mem_append_right _ List.mem_cons_self)

theorem group?_toDigits {n : Nat} (h : n < 65536) : group? (Nat.toDigits 16 n) = some [n] := by
  rw [group?, if_neg (not_mem_toDigits rfl n), segment?_toDigits h, Option.map_some]

theorem group?_pointedChars (h : bytes.length = 4) :
    group? (pointedChars bytes) = some (segments bytes) := by
  rw [group?, if_pos (point_mem_pointedChars h), four?_pointedChars h, Option.map_some]

theorem colonChars_singleton (n : Nat) : colonChars [n] = Nat.toDigits 16 n :=
  List.intercalate_singleton

theorem colonChars_cons_cons (n m : Nat) (rest : List Nat) :
    colonChars (n :: m :: rest) = Nat.toDigits 16 n ++ ':' :: colonChars (m :: rest) := by
  rw [colonChars, List.map_cons, List.map_cons, List.intercalate_cons_cons, List.append_assoc]
  rfl

/-- Numbers begin with a digit. -/
theorem exists_cons_colonChars (n : Nat) (rest : List Nat) :
    ∃ c cs, colonChars (n :: rest) = c :: cs ∧ isHexDigit c = true := by
  obtain ⟨c, cs, hdigits⟩ := List.exists_cons_of_ne_nil (Nat.toDigits_ne_nil (n := n) (b := 16))
  have hc : isHexDigit c = true :=
    isHexDigit_of_mem_toDigits (hdigits ▸ List.mem_cons_self : c ∈ Nat.toDigits 16 n)
  cases rest with
  | nil => exact ⟨c, cs, (colonChars_singleton n).trans hdigits, hc⟩
  | cons m rest => exact ⟨c, _, by rw [colonChars_cons_cons, hdigits, List.cons_append], hc⟩

/-- **Numbers with colons between** are read as they were written. -/
theorem groups?_colonChars (h : ∀ n ∈ numbers, n < 65536) :
    groups? (colonChars numbers) = some numbers := by
  cases numbers with
  | nil => rfl
  | cons n rest =>
    have hcolon : ∀ cs ∈ (n :: rest).map (Nat.toDigits 16), ':' ∉ cs :=
      List.forall_mem_map.mpr fun n _ => not_mem_toDigits rfl n
    have hgroups : (n :: rest).mapM (group? ∘ Nat.toDigits 16) = some ((n :: rest).map ([·])) :=
      mapM_eq_some_map fun n hn => group?_toDigits (h n hn)
    have hne : colonChars (n :: rest) ≠ [] := by
      obtain ⟨c, cs, hcons, -⟩ := exists_cons_colonChars n rest
      rw [hcons]
      exact List.cons_ne_nil c cs
    rw [groups?, if_neg hne, colonChars, List.splitOn_intercalate ':' hcolon (List.cons_ne_nil _ _),
      List.mapM_map, hgroups, Option.map_some, ← List.flatMap_def, List.flatMap_singleton']

/-- Numbers with colons between are written with digits and colons. -/
theorem mem_colonChars {numbers : List Nat} {c : Char} (h : c ∈ colonChars numbers) :
    isHexDigit c = true ∨ c = ':' := by
  obtain h | ⟨cs, hcs, h⟩ := mem_intercalate h
  · exact .inr (List.mem_singleton.mp h)
  · obtain ⟨n, -, rfl⟩ := List.mem_map.mp hcs
    exact .inl (isHexDigit_of_mem_toDigits h)

theorem mem_compressedChars {numbers : List Nat} {c : Char} (h : c ∈ compressedChars numbers) :
    isHexDigit c = true ∨ c = ':' := by
  rw [compressedChars] at h
  split at h
  split at h
  · rw [List.mem_append, List.mem_cons, List.mem_cons] at h
    obtain h | rfl | rfl | h := h
    · exact mem_colonChars h
    · exact .inr rfl
    · exact .inr rfl
    · exact mem_colonChars h
  · exact mem_colonChars h

/-- Two numbers have a colon between them. -/
theorem colon_mem_compressedChars (h : 2 ≤ numbers.length) : ':' ∈ compressedChars numbers := by
  rw [compressedChars]
  split
  split
  · exact List.mem_append_right _ List.mem_cons_self
  · match numbers, h with
    | n :: m :: rest, _ =>
      rw [colonChars_cons_cons]
      exact List.mem_append_right _ List.mem_cons_self

/-! ## Two colons next to each other -/

theorem gap?_append {front : List Char} (h : ':' ∉ front) (cs : List Char) :
    gap? (front ++ cs) = (gap? cs).map fun (f, b) => (front ++ f, b) := by
  induction front with
  | nil => exact Option.map_id'.symm
  | cons c front ih =>
    rw [List.mem_cons, not_or] at h
    rw [List.cons_append, gap?, if_neg fun hc => h.1 hc.1.symm, ih h.2, Option.map_map]
    rfl

/-- **There is no gap among numbers**: if there is one, it stands behind them. -/
theorem gap?_colonChars_append (numbers : List Nat) (cs : List Char) :
    gap? (colonChars numbers ++ cs) = (gap? cs).map fun (f, b) => (colonChars numbers ++ f, b) := by
  induction numbers with
  | nil => exact Option.map_id'.symm
  | cons n rest ih =>
    cases rest with
    | nil =>
      rw [colonChars_singleton]
      exact gap?_append (not_mem_toDigits rfl n) cs
    | cons m rest =>
      have hdigit : (colonChars (m :: rest) ++ cs).head? ≠ some ':' := by
        obtain ⟨c, more, hcons, hc⟩ := exists_cons_colonChars m rest
        rw [hcons, List.cons_append, List.head?_cons]
        rintro ⟨⟩
        cases hc
      rw [colonChars_cons_cons, List.append_assoc, gap?_append (not_mem_toDigits rfl n),
        List.cons_append, gap?, if_neg fun h => hdigit h.2, ih, Option.map_map, Option.map_map]
      refine congrArg (Option.map · (gap? cs)) (funext fun (f, b) => ?_)
      simp only [Function.comp_apply, List.append_assoc, List.cons_append]

/-! ## What is left out -/

/-- A run of zeros among numbers, by its start and its length. -/
def IsRun (numbers : List Nat) (run : Nat × Nat) : Prop :=
  numbers = numbers.take run.1 ++ List.replicate run.2 0 ++ numbers.drop (run.1 + run.2)

theorem isRun_zeros (numbers : List Nat) (start : Nat) :
    IsRun numbers (start, zeros (numbers.drop start)) := by
  have hsplit := List.takeWhile_append_dropWhile (p := (· == 0)) (l := numbers.drop start)
  have hzeros : (numbers.drop start).takeWhile (· == 0)
      = List.replicate (zeros (numbers.drop start)) 0 :=
    List.eq_replicate_of_mem fun n hn => beq_iff_eq.mp (List.all_eq_true.mp List.all_takeWhile n hn)
  have hrest : (numbers.drop start).dropWhile (· == 0)
      = numbers.drop (start + zeros (numbers.drop start)) :=
    calc (numbers.drop start).dropWhile (· == 0)
        = ((numbers.drop start).takeWhile (· == 0) ++ (numbers.drop start).dropWhile (· == 0)).drop
          (zeros (numbers.drop start)) := (List.drop_left' rfl).symm
      _ = (numbers.drop start).drop (zeros (numbers.drop start)) := congrArg (List.drop _) hsplit
      _ = numbers.drop (start + zeros (numbers.drop start)) := List.drop_drop
  rw [IsRun, ← hzeros, ← hrest, List.append_assoc, hsplit, List.take_append_drop]

/-- **What is left out is a run of zeros.** -/
theorem isRun_longestRun (numbers : List Nat) : IsRun numbers (longestRun numbers) := by
  refine List.foldlRecOn _ _ rfl fun best hbest start _ => ?_
  simp only
  split
  · exact isRun_zeros numbers start
  · exact hbest

/-- Numbers on both sides of a gap are read with the zeros that are missing. -/
theorem eight?_of_gap? {cs front back : List Char} {ns ms : List Nat}
    (hgap : gap? cs = some (front, back))
    (hfront : groups? front = some ns) (hback : groups? back = some ms)
    (h : ns.length + ms.length < 8) :
    eight? cs = some (ns ++ List.replicate (8 - (ns.length + ms.length)) 0 ++ ms) := by
  rw [eight?, hgap]
  simp only [hfront, hback, Option.bind_eq_bind, Option.bind_some]
  exact if_pos h

/-- Numbers of which a run is left out are read with it. -/
theorem eight?_gap (hlength : numbers.length = 8) (h : ∀ n ∈ numbers, n < 65536)
    {start length : Nat}
    (hrun : IsRun numbers (start, length)) (hone : 1 < length) :
    eight?
      (colonChars (numbers.take start) ++ ':' :: ':' :: colonChars (numbers.drop (start + length)))
      = some numbers := by
  have hgap : gap? (colonChars (numbers.take start)
        ++ ':' :: ':' :: colonChars (numbers.drop (start + length)))
      = some (colonChars (numbers.take start), colonChars (numbers.drop (start + length))) := by
    rw [gap?_colonChars_append, gap?, if_pos ⟨rfl, rfl⟩, Option.map_some]
    exact congrArg (fun front => some (front, _)) (List.append_nil _)
  have hfront := groups?_colonChars fun n hn => h n (List.mem_of_mem_take (i := start) hn)
  have hback := groups?_colonChars fun n hn => h n (List.mem_of_mem_drop (i := start + length) hn)
  have hsum :
      8 = (numbers.take start).length + length + (numbers.drop (start + length)).length := by
    have hlengths := congrArg List.length hrun
    rwa [List.length_append, List.length_append, List.length_replicate, hlength] at hlengths
  have hmissing : 8 - ((numbers.take start).length + (numbers.drop (start + length)).length)
    = length := by
    omega
  rw [eight?_of_gap? hgap hfront hback (by omega), hmissing]
  exact congrArg some hrun.symm

/-- **Eight numbers are read as they were written**, whether some of them are left out or not. -/
theorem eight?_compressedChars (hlength : numbers.length = 8) (h : ∀ n ∈ numbers, n < 65536) :
    eight? (compressedChars numbers) = some numbers := by
  have hrun := isRun_longestRun numbers
  rw [compressedChars]
  split
  rename_i start length heq
  rw [heq] at hrun
  split
  · rename_i hone
    exact eight?_gap hlength h hrun hone
  · have hgap := gap?_colonChars_append numbers []
    rw [List.append_nil] at hgap
    rw [eight?, hgap]
    show (groups? (colonChars numbers)).filter (·.length = 8) = some numbers
    rw [groups?_colonChars h, Option.filter_some, if_pos (decide_eq_true hlength)]

theorem sixteen?_compressedChars (h : bytes.length = 16) :
    sixteen? (compressedChars (segments bytes)) = some bytes := by
  have hlength : (segments bytes).length = 8 := by
    rw [length_segments, h]
  rw [sixteen?, eight?_compressedChars hlength lt_of_mem_segments, Option.map_some,
    flatMap_segments]
  rw [h]

theorem groups?_embedded (h : bytes.length = 4) :
    groups? ("ffff:".toList ++ pointedChars bytes) = some (0xffff :: segments bytes) := by
  have hjoined : "ffff:".toList ++ pointedChars bytes
      = [':'].intercalate ["ffff".toList, pointedChars bytes] := by
    rw [List.intercalate_cons_cons, List.intercalate_singleton]
    rfl
  have hcolon : ∀ cs ∈ ["ffff".toList, pointedChars bytes], ':' ∉ cs :=
    List.forall_mem_cons.mpr ⟨by decide, List.forall_mem_singleton.mpr colon_not_mem_pointedChars⟩
  have hne : "ffff:".toList ++ pointedChars bytes ≠ [] := List.cons_ne_nil _ _
  have hword : group? "ffff".toList = some [0xffff] := by decide
  rw [groups?, if_neg hne, hjoined, List.splitOn_intercalate ':' hcolon (List.cons_ne_nil _ _),
    List.mapM_cons, List.mapM_cons, hword, group?_pointedChars h]
  exact congrArg (fun numbers => some (0xffff :: numbers)) (List.append_nil (segments bytes))

/-- **An embedded address is read** with the bytes that it is embedded behind. -/
theorem sixteen?_embedded (h : bytes.length = 4) :
    sixteen? ("::ffff:".toList ++ pointedChars bytes) = some (embedding ++ bytes) := by
  have hgap : gap? ("::ffff:".toList ++ pointedChars bytes)
      = some ([], "ffff:".toList ++ pointedChars bytes) := rfl
  have hlength : (0xffff :: segments bytes).length = 3 := by
    rw [List.length_cons, length_segments, h]
  have hpairs : (segments bytes).flatMap (BigEndian.ofNat 2) = bytes := flatMap_segments (by rw [h])
  have height := eight?_of_gap? hgap rfl (groups?_embedded h) (by rw [hlength]; decide)
  rw [sixteen?, height, hlength, Option.map_some, List.flatMap_append, List.flatMap_cons, hpairs]
  rfl

end Wire.Address

end PgStatement
