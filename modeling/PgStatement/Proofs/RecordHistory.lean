import Mathlib.Data.List.DropRight
import Mathlib.Data.List.Induction
import Mathlib.Data.List.Sort
import PgStatement.Proofs.RecordKeys

/-!
# Records as ordered maps

A record is a list of entries, and each operation on it searches that list in its own way. What a
record stands for is an ordered map, and which one it is can be told without any list, from what was
done to the record (`Record.Deed`). Of each name only what was done since its entry was taken away
last is of interest. The value of the name is what was stored under it last in that time
(`Record.lastStored?`), and the place of the name is given by the moment at which it was stored
first in that time (`Record.firstStored`).

A list of entries that has these values in the order of these moments is the ordered map of the
history (`Record.Lists`); there is at most one (`Record.Lists.unique`). After any run of operations
the record is that list, all that can be asked of a record agrees with it, and each operation
answers and changes what it should (`Record.ordered_map`). Since an update stores what it assigns in
a record, what it assigns is an ordered map as well, of names from which nothing is taken away.
-/

namespace PgStatement

namespace Record

/-! ## Histories -/

/-- What is done to the names of a record, one thing at a time. -/
inductive Deed where
  /-- A value is stored under a name. -/
  | store (field : String) (value : Value)
  /-- The entry of a name is removed. -/
  | remove (field : String)
  /-- All entries are removed. -/
  | clear

namespace Deed

/-- Whether a deed takes the entry of a name away. -/
def takes (field : String) : Deed → Bool
  | .store _ _ => false
  | .remove other => other == field
  | .clear => true

/-- The value that a deed stores under a name. -/
def value? (field : String) : Deed → Option Value
  | .store other value => if other = field then some value else none
  | _ => none

theorem value?_eq_none_of_takes {field : String} {d : Deed} (h : d.takes field = true) :
    d.value? field = none := by
  cases d with
  | store => cases h
  | remove => rfl
  | clear => rfl

end Deed

/-- What was done up to the moment at which the entry of a name was taken away last. -/
def untilTaken (deeds : List Deed) (field : String) : List Deed :=
  deeds.rdropWhile fun d => !d.takes field

/-- What was done since the entry of a name was taken away last. -/
def sinceTaken (deeds : List Deed) (field : String) : List Deed :=
  deeds.rtakeWhile fun d => !d.takes field

/-- **The value that a history gives a name**: the one that was stored last since its entry was
taken away last. -/
def lastStored? (deeds : List Deed) (field : String) : Option Value :=
  ((sinceTaken deeds field).filterMap (Deed.value? field)).getLast?

/-- **The place that a history gives a name**: how much had been done when it was stored for the
first time since its entry was taken away last. -/
def firstStored (deeds : List Deed) (field : String) : Nat :=
  (untilTaken deeds field).length
    + (sinceTaken deeds field).findIdx fun d => (d.value? field).isSome

/-- **The ordered map of a history**, as a list of entries: it has the values that the history gives
the names, in the order of their places. -/
structure Lists (deeds : List Deed) (entries : List (String × Value)) : Prop where
  /-- A name has the value that was stored last. -/
  mem_iff (field : String) (value : Value) :
    (field, value) ∈ entries ↔ lastStored? deeds field = some value
  /-- Names come in the order in which they were stored first. -/
  sorted : entries.Pairwise fun a b => firstStored deeds a.1 < firstStored deeds b.1

/-- **A history gives one ordered map.** -/
theorem Lists.unique {deeds : List Deed} {entries others : List (String × Value)}
    (h : Lists deeds entries) (h' : Lists deeds others) : entries = others := by
  refine List.Pairwise.eq_of_mem_iff
    (r := Order.Preimage (fun entry : String × Value => firstStored deeds entry.1) (· < ·))
    h.sorted h'.sorted fun entry => ?_
  rw [h.mem_iff, h'.mem_iff]

/-! ### One more deed -/

section Deeds

variable {deeds : List Deed} {field : String} {d : Deed}

theorem untilTaken_concat (deeds : List Deed) (field : String) (d : Deed) :
    untilTaken (deeds ++ [d]) field
      = if d.takes field then deeds ++ [d] else untilTaken deeds field := by
  unfold untilTaken
  rw [List.rdropWhile_concat]
  cases d.takes field <;> rfl

theorem sinceTaken_concat (deeds : List Deed) (field : String) (d : Deed) :
    sinceTaken (deeds ++ [d]) field
      = if d.takes field then [] else sinceTaken deeds field ++ [d] := by
  unfold sinceTaken
  rw [List.rtakeWhile_concat]
  cases d.takes field <;> rfl

/-- **The value of a name after one more deed.** -/
theorem lastStored?_concat (deeds : List Deed) (field : String) (d : Deed) :
    lastStored? (deeds ++ [d]) field
      = if d.takes field then none else (d.value? field).or (lastStored? deeds field) := by
  unfold lastStored?
  rw [sinceTaken_concat]
  split
  · rfl
  · rw [List.filterMap_append, List.getLast?_append]
    cases hd : d.value? field with
    | none => rw [List.filterMap_cons_none hd]; rfl
    | some value => rw [List.filterMap_cons_some hd]; rfl

/-- A name has a value if it was stored since its entry was taken away last. -/
theorem isSome_lastStored?_iff :
    (lastStored? deeds field).isSome = true
      ↔ ∃ d ∈ sinceTaken deeds field, (d.value? field).isSome = true := by
  rw [lastStored?, Option.isSome_iff_ne_none, ne_eq, List.getLast?_eq_none_iff,
    List.filterMap_eq_nil_iff]
  simp only [not_forall, exists_prop, Option.isSome_iff_ne_none, ne_eq]

/-- A name keeps its place while its entry is not taken away. -/
theorem firstStored_concat (h : (lastStored? deeds field).isSome = true)
    (hd : d.takes field = false) :
    firstStored (deeds ++ [d]) field = firstStored deeds field := by
  have hfound := List.findIdx_lt_length.mpr (isSome_lastStored?_iff.mp h)
  unfold firstStored
  rw [untilTaken_concat, sinceTaken_concat, hd]
  simp only [Bool.false_eq_true, if_false]
  rw [List.findIdx_append, if_pos hfound]

theorem length_untilTaken_add (deeds : List Deed) (field : String) :
    (untilTaken deeds field).length + (sinceTaken deeds field).length = deeds.length := by
  rw [← List.length_append, untilTaken, sinceTaken, List.rdropWhile_append_rtakeWhile]

/-- A name that has no value gets its place at the end. -/
theorem firstStored_concat_of_none (h : lastStored? deeds field = none)
    (hd : (d.value? field).isSome = true) : firstStored (deeds ++ [d]) field = deeds.length := by
  have htakes : d.takes field = false := by
    rw [Bool.eq_false_iff]
    intro htakes
    rw [Deed.value?_eq_none_of_takes htakes] at hd
    cases hd
  have hnone : ¬∃ d ∈ sinceTaken deeds field, (d.value? field).isSome = true := by
    rw [← isSome_lastStored?_iff, h]
    exact Bool.false_ne_true
  have hsplit := length_untilTaken_add deeds field
  unfold firstStored
  rw [untilTaken_concat, sinceTaken_concat, htakes]
  simp only [Bool.false_eq_true, if_false]
  rw [List.findIdx_append, if_neg (fun hlt => hnone (List.findIdx_lt_length.mp hlt)),
    List.findIdx_cons, hd]
  simpa using hsplit

/-- A name that has a value was stored in the past. -/
theorem firstStored_lt (h : (lastStored? deeds field).isSome = true) :
    firstStored deeds field < deeds.length := by
  have hfound := List.findIdx_lt_length.mpr (isSome_lastStored?_iff.mp h)
  have hsplit := length_untilTaken_add deeds field
  unfold firstStored
  omega

end Deeds

/-! ## Operations through the names -/

section Names

variable {r : Record} {field : String}

/-- Storing under a name changes what is found under it. -/
theorem get?_insert (r : Record) (field : String) (value : Value) (other : String) :
    (r.insert field value).get? other = if other = field then some value else r.get? other := by
  obtain ⟨entries⟩ := r
  show ((insertEntry field value entries).find? fun entry => entry.1 == other).map Prod.snd
    = if other = field then some value
      else (entries.find? fun entry => entry.1 == other).map Prod.snd
  induction entries with
  | nil =>
    by_cases h : other = field
    · subst h
      simp [insertEntry]
    · simp [insertEntry, h, Ne.symm h]
  | cons entry rest ih =>
    obtain ⟨k, v⟩ := entry
    by_cases hk : k = field
    · subst hk
      rw [insertEntry, if_pos rfl]
      by_cases h : other = k
      · subst h
        simp
      · simp [h, Ne.symm h]
    · rw [insertEntry, if_neg hk]
      by_cases h : k = other
      · subst h
        simp [hk]
      · rw [List.find?_cons_of_neg (by simpa using h), List.find?_cons_of_neg (by simpa using h),
          ih]

/-- **Removing a name takes its entry away** and no other, if every name comes once. -/
theorem toList_erase (h : r.keys.Nodup) (field : String) :
    (r.erase field).toList = r.toList.filter fun entry => entry.1 != field := by
  obtain ⟨entries⟩ := r
  show entries.eraseP (fun entry => entry.1 == field) = _
  unfold toList
  induction entries with
  | nil => rfl
  | cons entry rest ih =>
    obtain ⟨hk, hrest⟩ := List.nodup_cons.mp h
    by_cases hfield : entry.1 = field
    · subst hfield
      have hothers : ∀ other ∈ rest, (other.1 != entry.1) = true := by
        intro other hother
        rw [bne_iff_ne]
        rintro heq
        exact hk (heq ▸ List.mem_map_of_mem hother)
      rw [List.eraseP_cons_of_pos (by simp), List.filter_cons_of_neg (by simp),
        List.filter_eq_self.mpr hothers]
    · rw [List.eraseP_cons_of_neg (by simpa using hfield),
        List.filter_cons_of_pos (by simpa using hfield), ih hrest]

theorem get?_erase (h : r.keys.Nodup) (field other : String) :
    (r.erase field).get? other = if other = field then none else r.get? other := by
  ext value
  rw [← mem_toList_iff (nodup_keys_erase h field), toList_erase h, List.mem_filter,
    mem_toList_iff h, bne_iff_ne]
  by_cases hother : other = field
  · simp [hother]
  · simp [hother]

/-- Names that are new are stored at the end. -/
theorem toList_insert_of_not_mem (h : field ∉ r.keys) (value : Value) :
    (r.insert field value).toList = r.toList ++ [(field, value)] := by
  obtain ⟨entries⟩ := r
  show insertEntry field value entries = entries ++ [(field, value)]
  induction entries with
  | nil => rfl
  | cons entry rest ih =>
    have hentry : entry.1 ≠ field ∧ field ∉ rest.map Prod.fst := by
      have h' : field ∉ entry.1 :: rest.map Prod.fst := h
      rw [List.mem_cons, not_or] at h'
      exact ⟨Ne.symm h'.1, h'.2⟩
    rw [insertEntry, if_neg hentry.1, ih hentry.2, List.cons_append]

theorem toList_insertAll {entries : List (String × Value)}
    (h : (r.keys ++ entries.map Prod.fst).Nodup) :
    (r.insertAll entries).toList = r.toList ++ entries := by
  induction entries generalizing r with
  | nil => exact (List.append_nil _).symm
  | cons entry entries ih =>
    have hnew : entry.1 ∉ r.keys := fun hmem => by
      have hdisjoint := (List.nodup_append.mp h).2.2 _ hmem entry.1 List.mem_cons_self
      exact hdisjoint rfl
    have hkeys : ((r.insert entry.1 entry.2).keys ++ entries.map Prod.fst).Nodup := by
      rw [keys_insert, if_neg hnew, List.append_assoc]
      exact h
    show ((r.insert entry.1 entry.2).insertAll entries).toList = _
    rw [ih hkeys, toList_insert_of_not_mem hnew, List.append_assoc]
    rfl

end Names

/-! ## The ordered map of a record -/

/-- The record after a deed. -/
def follow (r : Record) : Deed → Record
  | .store field value => r.insert field value
  | .remove field => r.erase field
  | .clear => empty

/-- **A record follows a history**: every name comes once, with the value that the history gives it,
in the order of the places that it gives. -/
structure Follows (r : Record) (deeds : List Deed) : Prop where
  /-- No name comes twice. -/
  nodup_keys : r.keys.Nodup
  /-- Under a name stands what was stored last. -/
  get?_eq (field : String) : r.get? field = lastStored? deeds field
  /-- Names stand in the order in which they were stored first. -/
  sorted : r.keys.Pairwise fun a b => firstStored deeds a < firstStored deeds b

theorem follows_nil : empty.Follows [] := ⟨List.nodup_nil, fun _ => rfl, .nil⟩

namespace Follows

variable {r : Record} {deeds : List Deed} {field : String} {d : Deed}

theorem isSome_of_mem (h : r.Follows deeds) (hmem : field ∈ r.keys) :
    (lastStored? deeds field).isSome = true := by
  rw [← h.get?_eq, ← mem_keys_iff]
  exact hmem

/-- Names whose entries are not taken away stay in their order. -/
theorem sorted_concat (h : r.Follows deeds) {names : List String} (hnames : names.Sublist r.keys)
    (hd : ∀ name ∈ names, d.takes name = false) :
    names.Pairwise fun a b => firstStored (deeds ++ [d]) a < firstStored (deeds ++ [d]) b := by
  refine (h.sorted.sublist hnames).imp_of_mem fun {a b} ha hb hab => ?_
  rw [firstStored_concat (h.isSome_of_mem (hnames.subset ha)) (hd a ha),
    firstStored_concat (h.isSome_of_mem (hnames.subset hb)) (hd b hb)]
  exact hab

theorem store (h : r.Follows deeds) (field : String) (value : Value) :
    (r.insert field value).Follows (deeds ++ [.store field value]) where
  nodup_keys := nodup_keys_insert h.nodup_keys field value
  get?_eq other := by
    rw [get?_insert, lastStored?_concat, h.get?_eq]
    by_cases hother : other = field
    · subst hother
      simp [Deed.takes, Deed.value?]
    · simp [Deed.takes, Deed.value?, hother, Ne.symm hother]
  sorted := by
    have hstay :=
      h.sorted_concat (d := .store field value) (List.Sublist.refl r.keys) fun _ _ => rfl
    rw [keys_insert]
    split
    · exact hstay
    · rename_i hnew
      refine List.pairwise_append.mpr ⟨hstay, List.pairwise_singleton _ _, fun a ha b hb => ?_⟩
      -- the new name comes after all that were stored before
      obtain rfl := List.mem_singleton.mp hb
      have hnone : lastStored? deeds b = none := by
        rw [← h.get?_eq, ← Option.not_isSome_iff_eq_none, ← mem_keys_iff]
        exact hnew
      rw [firstStored_concat (h.isSome_of_mem ha) rfl,
        firstStored_concat_of_none hnone (by simp [Deed.value?])]
      exact firstStored_lt (h.isSome_of_mem ha)

theorem remove (h : r.Follows deeds) (field : String) :
    (r.erase field).Follows (deeds ++ [.remove field]) where
  nodup_keys := nodup_keys_erase h.nodup_keys field
  get?_eq other := by
    rw [get?_erase h.nodup_keys, lastStored?_concat, h.get?_eq]
    by_cases hother : other = field
    · simp [Deed.takes, hother]
    · simp [Deed.takes, Deed.value?, hother, Ne.symm hother]
  sorted := by
    rw [keys_erase]
    refine h.sorted_concat (List.erase_sublist) fun name hname => ?_
    rw [h.nodup_keys.mem_erase_iff] at hname
    simpa [Deed.takes] using hname.1.symm

theorem clear (deeds : List Deed) : empty.Follows (deeds ++ [.clear]) where
  nodup_keys := List.nodup_nil
  get?_eq other := by
    rw [lastStored?_concat]
    rfl
  sorted := .nil

/-- **A step**: a record that follows a history goes on to follow it. -/
theorem follow (h : r.Follows deeds) (d : Deed) : (r.follow d).Follows (deeds ++ [d]) := by
  cases d with
  | store field value => exact h.store field value
  | remove field => exact h.remove field
  | clear => exact clear deeds

/-- **The entries of a record are the ordered map** of its history. -/
theorem lists (h : r.Follows deeds) : Lists deeds r.toList where
  mem_iff field value := by rw [mem_toList_iff h.nodup_keys, h.get?_eq]
  sorted := (List.pairwise_map (f := Prod.fst)).mp h.sorted

end Follows

/-- **A run**: what is done one after the other is followed. -/
theorem follows_foldl (deeds : List Deed) : (deeds.foldl follow empty).Follows deeds := by
  induction deeds using List.reverseRecOn with
  | nil => exact follows_nil
  | append_singleton deeds d ih =>
    rw [List.foldl_concat]
    exact ih.follow d

/-! ## Runs of operations -/

/-- An operation on a record. -/
inductive Operation where
  /-- The record is changed. -/
  | change (c : Change)
  /-- The record gives way to one that is collected from entries. -/
  | collect (entries : List (String × Value))

/-- What is done by storing entries one after the other. -/
def stores (entries : List (String × Value)) : List Deed :=
  entries.map fun entry => .store entry.1 entry.2

/-- What an operation does. -/
def Operation.deeds : Operation → List Deed
  | .change (.set field value) => [.store field value]
  | .change (.insert field value) => [.store field value]
  | .change (.remove field) => [.remove field]
  | .collect entries => .clear :: stores entries

/-- The record after an operation. -/
def perform (r : Record) : Operation → Record
  | .change c => r.change c
  | .collect entries => ofList entries

/-- **The record after operations** on the empty one. -/
def run (operations : List Operation) : Record := operations.foldl perform empty

theorem insertAll_eq_foldl (r : Record) (entries : List (String × Value)) :
    r.insertAll entries = (stores entries).foldl follow r := by
  rw [insertAll, stores, List.foldl_map]
  rfl

theorem perform_eq_foldl (r : Record) (o : Operation) : r.perform o = o.deeds.foldl follow r := by
  cases o with
  | change c => cases c <;> rfl
  | collect entries => exact insertAll_eq_foldl empty entries

theorem run_eq_foldl (operations : List Operation) :
    run operations = (operations.flatMap Operation.deeds).foldl follow empty := by
  rw [run, List.foldl_flatMap]
  exact List.foldl_ext _ _ _ fun r o _ => perform_eq_foldl r o

/-- **All that can be asked of a record** agrees with a list of entries. -/
structure Shows (r : Record) (entries : List (String × Value)) : Prop where
  /-- The entries are those of the list, in its order. -/
  toList_eq : r.toList = entries
  /-- The names are those of the list, in its order. -/
  keys_eq : r.keys = entries.map Prod.fst
  /-- The values are those of the list, in its order. -/
  values_eq : r.values = entries.map Prod.snd
  /-- There are as many entries as in the list. -/
  size_eq : r.size = entries.length
  /-- There is none if the list has none. -/
  isEmpty_iff : r.isEmpty = true ↔ entries = []
  /-- A name is there if the list has an entry of it. -/
  contains_iff (field : String) : r.contains field = true ↔ ∃ value, (field, value) ∈ entries
  /-- What is found under a name is what the list has under it. -/
  get?_iff (field : String) (value : Value) : r.get? field = some value ↔ (field, value) ∈ entries

theorem shows_toList {r : Record} (h : r.keys.Nodup) : r.Shows r.toList where
  toList_eq := rfl
  keys_eq := rfl
  values_eq := rfl
  size_eq := rfl
  isEmpty_iff := List.isEmpty_iff
  contains_iff field := by rw [contains_iff, keys, List.mem_map]; simp [toList]
  get?_iff field value := (mem_toList_iff h field value).symm

/-- **The next operation**, after what a history says was done: what it answers, and what it
changes. -/
structure Continues (r : Record) (deeds : List Deed) : Prop where
  /-- Storing answers the value that it replaces. -/
  exchange_fst (field : String) (value : Value) :
    (r.exchange field value).1 = lastStored? deeds field
  /-- A name whose value is replaced keeps its place. -/
  keys_exchange {field : String} (value : Value) (h : field ∈ r.keys) :
    (r.exchange field value).2.keys = r.keys
  /-- Removing answers the value that is removed. -/
  extract_fst (field : String) : (r.extract field).1 = lastStored? deeds field
  /-- Exactly the entry of the name is removed, and the others keep their order. -/
  toList_extract (field : String) :
    (r.extract field).2.toList = r.toList.filter fun entry => entry.1 != field
  /-- A name that is removed and stored again comes last. -/
  keys_insert_extract (field : String) (value : Value) :
    ((r.extract field).2.insert field value).keys = r.keys.filter (· != field) ++ [field]
  /-- The record is collected again from its own entries. -/
  ofList_toList : ofList r.toList = r

theorem Follows.continues {r : Record} {deeds : List Deed} (h : r.Follows deeds) :
    r.Continues deeds where
  exchange_fst field _ := h.get?_eq field
  keys_exchange value hmem := by
    show (r.insert _ value).keys = _
    rw [keys_insert, if_pos hmem]
  extract_fst field := h.get?_eq field
  toList_extract field := toList_erase h.nodup_keys field
  keys_insert_extract field value := by
    show ((r.erase field).insert field value).keys = _
    rw [keys_insert, keys_erase, if_neg h.nodup_keys.not_mem_erase, h.nodup_keys.erase_eq_filter]
  ofList_toList := by
    have hkeys : (empty.keys ++ r.toList.map Prod.fst).Nodup := h.nodup_keys
    have hentries : (ofList r.toList).entries = r.entries := toList_insertAll hkeys
    exact congrArg Record.mk hentries

/-! ## What updates assign -/

/-- **What an update assigns**, of entries that it was given one after the other: each column once,
in the order in which the columns were mentioned first, its last value. -/
structure Assigns (q : Update) (given : List (String × Value)) : Prop where
  /-- A column has the last value, in the place of its first mention. -/
  toList_eq : q.assignments.toList
    = (given.map Prod.fst).eraseDups.map fun column => (column, lastValue given column)
  /-- It is the ordered map of what was stored. -/
  lists : Lists (stores given) q.assignments.toList
  /-- It is what is written between SET and WHERE, with its values as the first parameters. -/
  written (s : Statement) (h : q.build = .ok s) :
    ∃ rest more, s.sql = "UPDATE " ++ q.table ++ " SET "
        ++ ", ".intercalate ((q.assignments.keys.zipIdx 1).map fun item =>
          item.1 ++ " = " ++ placeholder item.2)
        ++ " WHERE " ++ rest
      ∧ s.params.values = q.assignments.values ++ more

theorem assigns_run (table : String) (calls : List Update.Call) :
    Assigns ((Update.ofTable table).run calls) (calls.flatMap Update.Call.entries) where
  toList_eq := by
    rw [Chain.assignments_update, toList, entries_ofList]
  lists := by
    rw [Chain.assignments_update, ofList, insertAll_eq_foldl]
    exact (follows_foldl _).lists
  written s h := by
    obtain ⟨clause, hclause, hsql, hvalues⟩ := Update.sql_of_build h
    obtain ⟨-, -, -, hne, -, -, -⟩ := Update.eq_of_build h
    obtain ⟨rest, hrest⟩ := Where.exists_text_of_clause? hclause hne _
    refine ⟨rest ++ " RETURNING *", _, ?_, hvalues⟩
    rw [hsql, hrest]
    simp only [String.append_assoc]

/-- **A record is the ordered map of its history.** -/
theorem ordered_map :
    (∀ operations : List Operation, ∃ entries,
        Lists (operations.flatMap Operation.deeds) entries
        ∧ (∀ others, Lists (operations.flatMap Operation.deeds) others → others = entries)
        ∧ (run operations).keys.Nodup
        ∧ (∀ field, (run operations).get? field
          = lastStored? (operations.flatMap Operation.deeds) field)
        ∧ (run operations).Shows entries
        ∧ (run operations).Continues (operations.flatMap Operation.deeds))
      ∧ ∀ (table : String) (calls : List Update.Call),
        Assigns ((Update.ofTable table).run calls) (calls.flatMap Update.Call.entries) := by
  refine ⟨fun operations => ?_, assigns_run⟩
  have h := follows_foldl (operations.flatMap Operation.deeds)
  rw [← run_eq_foldl] at h
  exact ⟨_, h.lists, fun _ hothers => hothers.unique h.lists, h.nodup_keys, h.get?_eq,
    shows_toList h.nodup_keys, h.continues⟩

/-- A record from which a name is removed that is stored again later, while another one is
replaced. -/
def seats : List Operation :=
  [.collect [("row", .int 1), ("price", .int 20), ("row", .int 2)], .change (.remove "row"),
    .change (.set "guest" .null), .change (.insert "row" (.int 3)),
    .change (.set "price" (.int 25))]

/-- An update that mentions a column twice. -/
def reprice : List Update.Call :=
  [.setValue "price" (.int 20), .filter .and "id" (.equals (.int 7)),
    .set (.ofEntries [("guest", .null), ("price", .int 25)])]

theorem ordered_map_seats :
    (∃ entries, Lists (seats.flatMap Operation.deeds) entries ∧ (run seats).Shows entries
        ∧ entries = [("price", .int 25), ("guest", .null), ("row", .int 3)])
      ∧ Assigns ((Update.ofTable "seats").run reprice) (reprice.flatMap Update.Call.entries)
      ∧ ((Update.ofTable "seats").run reprice).build.map Statement.sql
        = .ok "UPDATE seats SET price = $1, guest = $2 WHERE id = $3 RETURNING *" := by
  refine ⟨?_, ordered_map.2 "seats" reprice, congrArg Except.ok (String.toList_inj.mp rfl)⟩
  obtain ⟨entries, hlists, -, -, -, hshows, -⟩ := ordered_map.1 seats
  exact ⟨entries, hlists, hshows, hshows.toList_eq.symm.trans rfl⟩

end Record

end PgStatement
