import Mathlib.Data.List.Induction
import Mathlib.Data.List.Sort
import PgStatement.Proofs.Interleaving

/-!
# Orderings as sorted by time

An ordering keeps its current field by position, in a list in which every direction moves a field to
the end. What comes of it can be told without any position, from the calls alone. A direction is
given to the field that was asked for last (`OrderBy.directions`). Of each field only the last
direction that it was given counts, and so does the moment at which that was (`OrderBy.place`); a
field that was given none is in ascending direction, and its moment is that of the first call that
asked for it.

The fields that were asked for, in the order of these moments, are the ordering of a chain
(`OrderBy.Sorts`); there is at most one (`OrderBy.Sorts.unique`). After any chain of calls the list
is that ordering, and the position is that of the field that was asked for last
(`OrderBy.sorted_by_time`).
-/

namespace PgStatement

namespace OrderBy

/-! ## Calls -/

/-- A call on an ordering. -/
inductive Call where
  /-- A field is asked for. -/
  | select (field : String)
  /-- A direction is given. -/
  | direction (d : Direction)
  deriving DecidableEq

/-- The ordering after a call. A direction that is refused leaves it as it is. -/
def apply (o : OrderBy) : Call → OrderBy
  | .select field => o.select field
  | .direction d => (o.setDirection d).toOption.getD o

/-- **The ordering after a chain of calls** on the empty one. -/
def run (calls : List Call) : OrderBy := calls.foldl apply empty

/-- The field that a call asks for. -/
def Call.field? : Call → Option String
  | .select field => some field
  | .direction _ => none

/-- The field that a chain asked for last. -/
def lastField? (calls : List Call) : Option String := (calls.filterMap Call.field?).getLast?

/-- The direction that a call gives a field after other calls. -/
def given? (calls : List Call) (field : String) : Call → Option Direction
  | .select _ => none
  | .direction d => if lastField? calls = some field then some d else none

/-- **The directions that a chain gives a field**, each with the number of calls before it. -/
def directions (calls : List Call) (field : String) : List (Nat × Direction) :=
  calls.zipIdx.filterMap fun (call, time) =>
    (given? (calls.take time) field call).map fun d => (time, d)

/-- The last direction that a chain gives a field, with the number of calls before it. -/
def lastDirection? (calls : List Call) (field : String) : Option (Nat × Direction) :=
  (directions calls field).getLast?

/-- **The direction of a field after a chain**: the last one that it was given. -/
def directionOf (calls : List Call) (field : String) : Direction :=
  ((lastDirection? calls field).map Prod.snd).getD .asc

/-- **The place of a field after a chain**: how many calls came before the one that gave it a
direction last, or, if there was none, before the one that asked for it first. -/
def place (calls : List Call) (field : String) : Nat :=
  ((lastDirection? calls field).map Prod.fst).getD (calls.idxOf (.select field))

/-- **The ordering of a chain**, as a list: the fields that were asked for, in the order of their
places. -/
structure Sorts (calls : List Call) (items : List (String × Direction)) : Prop where
  /-- The fields are those that were asked for, in the direction that they were given. -/
  mem_iff (field : String) (d : Direction) :
    (field, d) ∈ items ↔ .select field ∈ calls ∧ d = directionOf calls field
  /-- They come in the order of their places. -/
  sorted : items.Pairwise fun a b => place calls a.1 < place calls b.1

/-- **A chain has one ordering.** -/
theorem Sorts.unique {calls : List Call} {items others : List (String × Direction)}
    (h : Sorts calls items) (h' : Sorts calls others) : items = others := by
  refine List.Pairwise.eq_of_mem_iff
    (r := Order.Preimage (fun item : String × Direction => place calls item.1) (· < ·))
    h.sorted h'.sorted fun item => ?_
  rw [h.mem_iff, h'.mem_iff]

/-! ### One more call -/

section Calls

variable {calls : List Call} {field other : String} {call : Call}

theorem lastField?_concat (calls : List Call) (call : Call) :
    lastField? (calls ++ [call]) = call.field?.or (lastField? calls) := by
  unfold lastField?
  rw [List.filterMap_append, List.getLast?_append]
  cases call <;> rfl

theorem directions_concat (calls : List Call) (call : Call) (field : String) :
    directions (calls ++ [call]) field
      = directions calls field
        ++ ((given? calls field call).map fun d => (calls.length, d)).toList := by
  unfold directions
  rw [List.zipIdx_append, List.filterMap_append]
  congr 1
  · -- what comes before a call is not changed by a call after it
    refine List.filterMap_congr fun ⟨before, time⟩ hitem => ?_
    obtain ⟨-, hlt, -⟩ := List.mem_zipIdx hitem
    have htime : time ≤ calls.length := by omega
    dsimp only
    rw [List.take_append_of_le_length htime]
  · cases h : given? calls field call <;> simp [h]

theorem lastDirection?_concat (calls : List Call) (call : Call) (field : String) :
    lastDirection? (calls ++ [call]) field
      = ((given? calls field call).map fun d => (calls.length, d)).or
        (lastDirection? calls field) := by
  unfold lastDirection?
  rw [directions_concat, List.getLast?_append]
  cases given? calls field call <;> rfl

/-- The field that was asked for last was asked for. -/
theorem mem_of_lastField? (h : lastField? calls = some field) : .select field ∈ calls := by
  obtain ⟨call, hcall, hfield⟩ := List.mem_filterMap.mp (List.mem_of_getLast? h)
  cases call with
  | select other =>
    obtain rfl := Option.some.inj hfield
    exact hcall
  | direction d => cases hfield

/-- Directions are given to fields that were asked for before. -/
theorem of_mem_directions {time : Nat} {d : Direction} (h : (time, d) ∈ directions calls field) :
    time < calls.length ∧ .select field ∈ calls := by
  obtain ⟨⟨call, index⟩, hitem, hgiven⟩ := List.mem_filterMap.mp h
  obtain ⟨d', hd', heq⟩ := Option.map_eq_some_iff.mp hgiven
  obtain ⟨rfl, rfl⟩ := Prod.mk.inj heq
  obtain ⟨-, hlt, -⟩ := List.mem_zipIdx hitem
  refine ⟨by omega, ?_⟩
  cases call with
  | select other => cases hd'
  | direction d =>
    by_cases hlast : lastField? (calls.take index) = some field
    · exact List.mem_of_mem_take (mem_of_lastField? hlast)
    · rw [given?, if_neg hlast] at hd'
      cases hd'

theorem lastDirection?_eq_none (h : .select field ∉ calls) : lastDirection? calls field = none := by
  unfold lastDirection?
  rw [List.getLast?_eq_none_iff, List.eq_nil_iff_forall_not_mem]
  exact fun item hitem => h (of_mem_directions hitem).2

/-- The place of a field is a moment of the chain. -/
theorem place_lt (h : .select field ∈ calls) : place calls field < calls.length := by
  unfold place
  cases hlast : lastDirection? calls field with
  | none => exact List.idxOf_lt_length_iff.mpr h
  | some item => exact (of_mem_directions (List.mem_of_getLast? hlast)).1

/-! Which field a call moves, and that it leaves the direction and the place of all others. -/

theorem directionOf_concat_of_given? (h : given? calls field call = none) :
    directionOf (calls ++ [call]) field = directionOf calls field := by
  unfold directionOf
  rw [lastDirection?_concat, h]
  rfl

/-- A field that is asked for makes no difference to directions. -/
theorem directionOf_concat_select (calls : List Call) (field other : String) :
    directionOf (calls ++ [.select field]) other = directionOf calls other :=
  directionOf_concat_of_given? rfl

theorem place_concat_of_given? (h : given? calls field call = none) (hmem : .select field ∈ calls) :
    place (calls ++ [call]) field = place calls field := by
  unfold place
  rw [lastDirection?_concat, h, List.idxOf_append_of_mem hmem]
  rfl

/-- A field that is asked for the first time comes last, in ascending direction. -/
theorem place_concat_select (h : .select field ∉ calls) :
    place (calls ++ [.select field]) field = calls.length
      ∧ directionOf (calls ++ [.select field]) field = .asc := by
  unfold place directionOf
  rw [lastDirection?_concat, lastDirection?_eq_none h, List.idxOf_append_of_notMem h]
  exact ⟨by simp [given?], rfl⟩

/-- A field that is given a direction comes last, in that direction. -/
theorem place_concat_direction (h : lastField? calls = some field) (d : Direction) :
    place (calls ++ [.direction d]) field = calls.length
      ∧ directionOf (calls ++ [.direction d]) field = d := by
  unfold place directionOf
  rw [lastDirection?_concat, given?, if_pos h]
  exact ⟨rfl, rfl⟩

end Calls

/-! ## Following a chain -/

/-- **What every call keeps**: the list is the ordering of the chain, and the position is that of
the field that was asked for last. -/
structure Follows (o : OrderBy) (calls : List Call) : Prop where
  /-- The list is the ordering of the chain. -/
  sorts : Sorts calls o.items
  /-- As long as there is no current field, none was asked for. -/
  of_none (h : o.current = none) (field : String) : .select field ∉ calls
  /-- The position of the current field is in range, and the field is the one that was asked for
  last. -/
  of_some {index : Nat} (h : o.current = some index) :
    ∃ hindex : index < o.items.length, lastField? calls = some o.items[index].1

variable {o : OrderBy} {calls : List Call}

/-- No field is listed twice, since no two items have the same place. -/
theorem Sorts.nodup {items : List (String × Direction)} (h : Sorts calls items) :
    (items.map Prod.fst).Nodup := by
  refine List.pairwise_map.mpr (h.sorted.imp fun {a b} hlt hab => ?_)
  rw [hab] at hlt
  exact Nat.lt_irrefl _ hlt

theorem Sorts.mem_fields_iff {items : List (String × Direction)} (h : Sorts calls items)
    {field : String} : field ∈ items.map Prod.fst ↔ .select field ∈ calls := by
  rw [List.mem_map]
  constructor
  · rintro ⟨⟨_, d⟩, hmem, rfl⟩
    exact ((h.mem_iff _ d).mp hmem).1
  · intro hmem
    exact ⟨(field, _), (h.mem_iff field _).mpr ⟨hmem, rfl⟩, rfl⟩

/-- Nothing is listed if no field was asked for. -/
theorem sorts_nil (h : ∀ field, .select field ∉ calls) : Sorts calls [] where
  mem_iff field _ := iff_of_false List.not_mem_nil fun hmem => h field hmem.1
  sorted := .nil

theorem Sorts.eq_nil_iff {items : List (String × Direction)} (h : Sorts calls items) :
    items = [] ↔ ∀ field, .select field ∉ calls := by
  refine ⟨?_, fun hnone => h.unique (sorts_nil hnone)⟩
  rintro rfl field hmem
  exact List.not_mem_nil ((h.mem_iff field _).mpr ⟨hmem, rfl⟩)

/-- What is left of a list of fields without the one at a position. -/
theorem mem_eraseIdx_iff_ne {items : List (String × Direction)} (h : (items.map Prod.fst).Nodup)
    {index : Nat} (hindex : index < items.length) {item : String × Direction} :
    item ∈ items.eraseIdx index ↔ item ∈ items ∧ item.1 ≠ items[index].1 := by
  rw [List.mem_eraseIdx_iff_getElem]
  constructor
  · rintro ⟨other, hother, hne, rfl⟩
    refine ⟨List.getElem_mem hother, fun heq => hne ?_⟩
    have hlength : (items.map Prod.fst).length = items.length := List.length_map _
    have hother' : other < (items.map Prod.fst).length := hlength ▸ hother
    have hindex' : index < (items.map Prod.fst).length := hlength ▸ hindex
    have hfields : (items.map Prod.fst)[other] = (items.map Prod.fst)[index] := by simpa using heq
    exact h.getElem_inj_iff.mp hfields
  · rintro ⟨hmem, hne⟩
    obtain ⟨other, hother, rfl⟩ := List.getElem_of_mem hmem
    exact ⟨other, hother, fun heq => hne (by subst heq; rfl), rfl⟩

/-- Fields that a call does not give a direction keep their order. -/
theorem Sorts.pairwise_kept {items kept : List (String × Direction)} (h : Sorts calls items)
    {call : Call} (hkept : kept.Sublist items)
    (hgiven : ∀ item ∈ kept, given? calls item.1 call = none) :
    kept.Pairwise fun a b => place (calls ++ [call]) a.1 < place (calls ++ [call]) b.1 := by
  have hasked : ∀ item ∈ kept, .select item.1 ∈ calls := fun item hitem =>
    ((h.mem_iff item.1 item.2).mp (hkept.subset hitem)).1
  refine (h.sorted.sublist hkept).imp_of_mem fun {a b} ha hb hlt => ?_
  rwa [place_concat_of_given? (hgiven a ha) (hasked a ha),
    place_concat_of_given? (hgiven b hb) (hasked b hb)]

/-- A field whose place is that of the last call comes after fields that keep their places. -/
theorem Sorts.pairwise_concat {items kept : List (String × Direction)} (h : Sorts calls items)
    {call : Call} (hkept : kept.Sublist items)
    (hgiven : ∀ item ∈ kept, given? calls item.1 call = none) {moved : String × Direction}
    (hmoved : place (calls ++ [call]) moved.1 = calls.length) :
    (kept ++ [moved]).Pairwise fun a b =>
      place (calls ++ [call]) a.1 < place (calls ++ [call]) b.1 := by
  rw [List.pairwise_append]
  refine ⟨h.pairwise_kept hkept hgiven, List.pairwise_singleton _ _,
    fun item hitem other hother => ?_⟩
  obtain rfl := List.mem_singleton.mp hother
  have hasked := ((h.mem_iff item.1 item.2).mp (hkept.subset hitem)).1
  rw [hmoved, place_concat_of_given? (hgiven item hitem) hasked]
  exact place_lt hasked

/-- A field that was asked for before is asked for again: the ordering stays. -/
theorem Sorts.select_of_mem {items : List (String × Direction)} (h : Sorts calls items)
    {field : String} (hmem : .select field ∈ calls) : Sorts (calls ++ [.select field]) items where
  mem_iff other d := by
    rw [h.mem_iff, directionOf_concat_select, List.mem_append, List.mem_singleton]
    refine and_congr_left fun _ => (or_iff_left_of_imp fun heq => ?_).symm
    rwa [heq]
  sorted := h.pairwise_kept (.refl _) fun _ _ => rfl

/-- A field is asked for that was not asked for before: it comes last, in ascending direction. -/
theorem Sorts.select_of_not_mem {items : List (String × Direction)} (h : Sorts calls items)
    {field : String} (hmem : .select field ∉ calls) :
    Sorts (calls ++ [.select field]) (items ++ [(field, .asc)]) where
  mem_iff other d := by
    rw [List.mem_append, List.mem_append, List.mem_singleton, List.mem_singleton, h.mem_iff,
      Prod.mk.injEq, Call.select.injEq]
    by_cases heq : other = field
    · subst heq
      simp [hmem, (place_concat_select hmem).2]
    · simp [heq, directionOf_concat_select]
  sorted := h.pairwise_concat (.refl _) (fun _ _ => rfl) (place_concat_select hmem).1

/-- A direction is given: the field that was asked for last comes last, in that direction. -/
theorem Sorts.direction {items : List (String × Direction)} (h : Sorts calls items) {index : Nat}
    (hindex : index < items.length) (hlast : lastField? calls = some items[index].1)
    (d : Direction) :
    Sorts (calls ++ [.direction d]) (items.eraseIdx index ++ [(items[index].1, d)]) := by
  have hgiven {field : String} (hne : field ≠ items[index].1) :
      given? calls field (.direction d) = none := by
    rw [given?, hlast, if_neg]
    exact fun heq => hne (Option.some.inj heq).symm
  constructor
  case mem_iff =>
    intro field e
    have hasked : .select field ∈ calls ++ [Call.direction d] ↔ .select field ∈ calls := by simp
    rw [hasked, List.mem_append, mem_eraseIdx_iff_ne h.nodup hindex, List.mem_singleton, h.mem_iff,
      Prod.mk.injEq]
    by_cases heq : field = items[index].1
    · subst heq
      simp [mem_of_lastField? hlast, (place_concat_direction hlast d).2]
    · simp [heq, directionOf_concat_of_given? (hgiven heq)]
  case sorted =>
    refine h.pairwise_concat (List.eraseIdx_sublist ..) (fun item hitem => hgiven ?_)
      (place_concat_direction hlast d).1
    exact ((mem_eraseIdx_iff_ne h.nodup hindex).mp hitem).2

/-! ### Calls one after the other -/

theorem follows_empty : empty.Follows [] where
  sorts := sorts_nil fun _ => List.not_mem_nil
  of_none _ _ := List.not_mem_nil
  of_some h := nomatch h

/-- **What asking for a field does**: it makes the field current, where it is listed or at the
end. -/
theorem select_cases (o : OrderBy) (field : String) :
    (∃ index, ∃ hindex : index < o.items.length, o.items[index].1 = field
        ∧ o.select field = ⟨o.items, some index⟩)
      ∨ field ∉ o.items.map Prod.fst
        ∧ o.select field = ⟨o.items ++ [(field, .asc)], some o.items.length⟩ := by
  unfold select
  cases hfind : o.items.findIdx? fun item => item.1 == field with
  | some index =>
    obtain ⟨hindex, heq, -⟩ := List.findIdx?_eq_some_iff_getElem.mp hfind
    exact .inl ⟨index, hindex, eq_of_beq heq, rfl⟩
  | none =>
    refine .inr ⟨fun hmem => ?_, rfl⟩
    obtain ⟨item, hitem, heq⟩ := List.mem_map.mp hmem
    have hfalse := List.findIdx?_eq_none_iff.mp hfind item hitem
    exact Bool.false_ne_true (hfalse.symm.trans (beq_iff_eq.mpr heq))

/-- A direction before any field is refused. -/
theorem setDirection_eq_error (d : Direction) (h : o.current = none) :
    o.setDirection d = .error (noField d) := by
  unfold setDirection
  rw [h]

/-- **What a direction does**: it moves the current field to the end. -/
theorem setDirection_eq_ok (d : Direction) {index : Nat} (h : o.current = some index)
    (hindex : index < o.items.length) :
    o.setDirection d = .ok ⟨o.items.eraseIdx index ++ [(o.items[index].1, d)],
      some (o.items.eraseIdx index).length⟩ := by
  unfold setDirection
  simp only [h, List.getElem?_eq_getElem hindex]

/-- A field that was just asked for can be given a direction. -/
theorem exists_setDirection_select (o : OrderBy) (field : String) (d : Direction) :
    ∃ p, (o.select field).setDirection d = .ok p := by
  obtain ⟨index, hindex, -, hselect⟩ | ⟨-, hselect⟩ := o.select_cases field
  · rw [hselect]
    exact ⟨_, setDirection_eq_ok (o := ⟨o.items, some index⟩) d rfl hindex⟩
  · rw [hselect]
    exact ⟨_, setDirection_eq_ok (o := ⟨_, some o.items.length⟩) d rfl (by simp)⟩

/-- **A field is asked for.** -/
theorem Follows.select (h : o.Follows calls) (field : String) :
    (o.select field).Follows (calls ++ [.select field]) := by
  have hlast : lastField? (calls ++ [.select field]) = some field := lastField?_concat calls _
  obtain ⟨index, hindex, heq, hselect⟩ | ⟨hnew, hselect⟩ := o.select_cases field
  · have hmem : .select field ∈ calls := by
      rw [← h.sorts.mem_fields_iff, ← heq]
      exact List.mem_map_of_mem (List.getElem_mem hindex)
    rw [hselect]
    refine ⟨h.sorts.select_of_mem hmem, nofun, fun hcurrent => ?_⟩
    obtain rfl := Option.some.inj hcurrent
    exact ⟨hindex, hlast.trans (congrArg some heq.symm)⟩
  · have hmem : .select field ∉ calls := mt h.sorts.mem_fields_iff.mpr hnew
    rw [hselect]
    refine ⟨h.sorts.select_of_not_mem hmem, nofun, fun hcurrent => ?_⟩
    obtain rfl := Option.some.inj hcurrent
    refine ⟨by simp, hlast.trans ?_⟩
    simp

/-- **A direction is given.** -/
theorem Follows.direction (h : o.Follows calls) (d : Direction) :
    (o.apply (.direction d)).Follows (calls ++ [.direction d]) := by
  have hlast : lastField? (calls ++ [.direction d]) = lastField? calls := lastField?_concat calls _
  show ((o.setDirection d).toOption.getD o).Follows _
  cases hcurrent : o.current with
  | none =>
    -- nothing is listed before, and the refused direction does not change that
    have hnone : ∀ field, .select field ∉ calls ++ [Call.direction d] := fun field => by
      simp [h.of_none hcurrent field]
    rw [setDirection_eq_error d hcurrent]
    refine ⟨?_, fun _ => hnone, fun heq => absurd (hcurrent.symm.trans heq) nofun⟩
    show Sorts _ o.items
    rw [h.sorts.eq_nil_iff.mpr (h.of_none hcurrent)]
    exact sorts_nil hnone
  | some index =>
    obtain ⟨hindex, hfield⟩ := h.of_some hcurrent
    rw [setDirection_eq_ok d hcurrent hindex]
    show Follows ⟨_, some _⟩ _
    refine ⟨h.sorts.direction hindex hfield d, nofun, fun heq => ?_⟩
    obtain rfl := Option.some.inj heq
    refine ⟨by simp, ?_⟩
    rw [hlast, hfield]
    simp

/-- **An ordering follows the chain of calls on it.** -/
theorem follows_run (calls : List Call) : (run calls).Follows calls := by
  induction calls using List.reverseRecOn with
  | nil => exact follows_empty
  | append_singleton calls call ih =>
    rw [run, List.foldl_concat]
    cases call with
    | select field => exact ih.select field
    | direction d => exact ih.direction d

/-! ## Selections -/

/-- What a call on a selection asks of its ordering. -/
def Call.ofSelect : Select.Call → List Call
  | .orderBy field => [.select field]
  | .orderByDesc field => [.select field, .direction .desc]
  | .direction d => [.direction d]
  | _ => []

theorem ordering_direction (q : Select) (d : Direction) :
    (q.direction d).ordering = q.ordering.apply (.direction d) := by
  obtain ⟨e?, he⟩ := Select.exists_direction q d
  rw [he]
  rfl

theorem ordering_apply (q : Select) (call : Select.Call) :
    (q.apply call).ordering = (Call.ofSelect call).foldl apply q.ordering := by
  cases call with
  | orderBy field => rfl
  | direction d => exact ordering_direction q d
  | orderByDesc field => exact ordering_direction (q.orderBy field) .desc
  | _ => exact Select.separates.other (k := .ordering) nofun

/-- **The ordering of a selection** is that of the calls that are about it. -/
theorem ordering_run (q : Select) (calls : List Select.Call) :
    (q.run calls).ordering = (calls.flatMap Call.ofSelect).foldl apply q.ordering := by
  induction calls generalizing q with
  | nil => rfl
  | cons call calls ih =>
    rw [List.flatMap_cons, List.foldl_append, ← ordering_apply]
    exact ih (q.apply call)

/-! ## The ordering of a chain -/

/-- **What a chain of calls keeps of an ordering.** -/
structure Keeps (o : OrderBy) (calls : List Call) : Prop where
  /-- A field that was asked for is listed once, and no other is listed. -/
  count_eq (field : String) :
    (o.items.map Prod.fst).count field = if .select field ∈ calls then 1 else 0
  /-- There is a current field if any is listed. -/
  isSome_current_iff : o.current.isSome = true ↔ o.items ≠ []
  /-- Its position is in range, and it is the field that was asked for last. -/
  current {index : Nat} (h : o.current = some index) :
    ∃ hindex : index < o.items.length, lastField? calls = some o.items[index].1
  /-- A direction is refused if no field was asked for before. -/
  refused_iff (d : Direction) :
    (∃ e, o.setDirection d = .error e) ↔ ∀ field, .select field ∉ calls
  /-- It is refused with an error of its own, and nothing changes. -/
  refused {d : Direction} {e : Error} (h : o.setDirection d = .error e) :
    e = noField d ∧ o.apply (.direction d) = o
  /-- The list is the ordering of the chain. -/
  sorts : Sorts calls o.items

theorem Follows.current_eq_none_iff (h : o.Follows calls) :
    o.current = none ↔ ∀ field, .select field ∉ calls := by
  refine ⟨h.of_none, fun hnone => ?_⟩
  cases hcurrent : o.current with
  | none => rfl
  | some index =>
    obtain ⟨_, hfield⟩ := h.of_some hcurrent
    exact absurd (mem_of_lastField? hfield) (hnone _)

theorem Follows.setDirection_eq_error_iff (h : o.Follows calls) {d : Direction} {e : Error} :
    o.setDirection d = .error e ↔ o.current = none ∧ e = noField d := by
  cases hcurrent : o.current with
  | none =>
    rw [setDirection_eq_error d hcurrent, Except.error.injEq]
    exact ⟨fun heq => ⟨rfl, heq.symm⟩, fun heq => heq.2.symm⟩
  | some index =>
    rw [setDirection_eq_ok d hcurrent (h.of_some hcurrent).1]
    exact iff_of_false nofun nofun

theorem Follows.keeps (h : o.Follows calls) : o.Keeps calls where
  count_eq field := by
    rw [h.sorts.nodup.count]
    exact if_congr h.sorts.mem_fields_iff rfl rfl
  isSome_current_iff := by
    rw [Option.isSome_iff_ne_none, ne_eq, ne_eq, h.current_eq_none_iff, h.sorts.eq_nil_iff]
  current := h.of_some
  refused_iff d := by
    rw [← h.current_eq_none_iff]
    refine ⟨fun ⟨_, he⟩ => (h.setDirection_eq_error_iff.mp he).1, fun hnone => ?_⟩
    exact ⟨_, setDirection_eq_error d hnone⟩
  refused {d e} he := by
    refine ⟨(h.setDirection_eq_error_iff.mp he).2, ?_⟩
    rw [apply, he]
    rfl
  sorts := h.sorts

/-- **An ordering lists what its chain asked for, sorted by time.** -/
theorem sorted_by_time :
    (∀ calls : List Call, (run calls).Keeps calls
        ∧ ∀ items, Sorts calls items → items = (run calls).items)
      ∧ ∀ (fields : List SelectField) (calls : List Select.Call),
        ((Select.ofFields fields).run calls).ordering = run (calls.flatMap Call.ofSelect) := by
  refine ⟨fun calls => ⟨(follows_run calls).keeps, fun items h => ?_⟩, fun fields calls => ?_⟩
  · exact h.unique (follows_run calls).sorts
  · have hfields : (fields.map Select.Call.field).flatMap Call.ofSelect = [] := by
      rw [List.flatMap_map]
      exact List.flatMap_eq_nil_iff.mpr fun _ _ => rfl
    rw [ordering_run, Select.ofFields_eq_run, ordering_run, hfields]
    rfl

/-- A chain that asks for fields again, and gives directions before and after. -/
def visits : List Call :=
  [.direction .desc, .select "day", .direction .desc, .select "page", .select "day",
  .direction .asc,
    .select "user", .select "page"]

theorem sorted_by_time_visits :
    Sorts visits [("page", .asc), ("day", .asc), ("user", .asc)] ∧ (run visits).current = some 0
      ∧ lastField? visits = some "page" := by
  have hrun : run visits = ⟨[("page", .asc), ("day", .asc), ("user", .asc)], some 0⟩ := rfl
  have hkeeps := (sorted_by_time.1 visits).1
  rw [hrun] at hkeeps
  exact ⟨hkeeps.sorts, by rw [hrun], (hkeeps.current rfl).2⟩

end OrderBy

end PgStatement
