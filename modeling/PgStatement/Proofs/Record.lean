import Mathlib.Data.List.Induction
import PgStatement.Record

/-!
# What a record is after it was stored into

Storing entries one after the other gives a record that can be told from the list of entries alone:
its names are those of the list, each where it came first, and the value of a name is the one that
came last (`Record.entries_ofList`). What is found under a name is its entry, as long as no name
comes twice (`Record.mem_toList_iff`).
-/

namespace PgStatement.Record

/-- The value that a list of entries gives a name last; null if it gives none. -/
def lastValue (entries : List (String × Value)) (field : String) : Value :=
  ((entries.filter fun entry => entry.1 == field).getLast?.map Prod.snd).getD .null

/-- A later entry counts for its own name and for no other. -/
theorem lastValue_concat (entries : List (String × Value)) (k : String) (v : Value)
    (field : String) :
    lastValue (entries ++ [(k, v)]) field = if field = k then v else lastValue entries field := by
  unfold lastValue
  rw [List.filter_append]
  by_cases h : field = k
  · subst h
    rw [if_pos rfl, List.filter_cons_of_pos (by simp), List.filter_nil, List.getLast?_concat]
    rfl
  · rw [if_neg h, List.filter_cons_of_neg (by simpa using Ne.symm h), List.filter_nil,
      List.append_nil]

/-- **Storing under a name**, in entries that are given by their names: the value changes at the
name, which comes last if it is new. -/
theorem insertEntry_map {names : List String} (hnames : names.Nodup) (value : String → Value)
    (field : String) (v : Value) :
    insertEntry field v (names.map fun name => (name, value name))
      = (if field ∈ names then names else names ++ [field]).map
        fun name => (name, if name = field then v else value name) := by
  induction names with
  | nil =>
    rw [if_neg List.not_mem_nil]
    simp [insertEntry]
  | cons name names ih =>
    rw [List.nodup_cons] at hnames
    rw [List.map_cons, insertEntry]
    by_cases h : name = field
    · subst h
      rw [if_pos rfl, if_pos List.mem_cons_self, List.map_cons, if_pos rfl, List.cons.injEq]
      refine ⟨rfl, List.map_congr_left fun other hother => ?_⟩
      -- the name comes once, so that the other entries keep their values
      rw [if_neg]
      rintro rfl
      exact hnames.1 hother
    · rw [if_neg h, ih hnames.2]
      by_cases hmem : field ∈ names
      · rw [if_pos hmem, if_pos (List.mem_cons_of_mem _ hmem), List.map_cons, if_neg h]
      · rw [if_neg hmem, if_neg (by simp [hmem, Ne.symm h]), List.cons_append, List.map_cons,
          if_neg h]

theorem eraseDups_concat (names : List String) (name : String) :
    (names ++ [name]).eraseDups
      = if name ∈ names.eraseDups then names.eraseDups else names.eraseDups ++ [name] := by
  rw [List.eraseDups_append]
  by_cases h : name ∈ names
  · rw [if_pos (List.mem_eraseDups.mpr h)]
    simp [List.removeAll, h]
  · rw [if_neg (fun hmem => h (List.mem_eraseDups.mp hmem))]
    simp [List.removeAll, h, List.eraseDups_cons]

theorem nodup_eraseDups (names : List String) : names.eraseDups.Nodup := by
  induction names using List.reverseRecOn with
  | nil => exact List.nodup_nil
  | append_singleton names name ih =>
    rw [eraseDups_concat]
    split
    · exact ih
    · rename_i hmem
      exact List.nodup_append.mpr ⟨ih, List.pairwise_singleton _ _, by
        rintro a ha b hb rfl
        rw [List.mem_singleton] at hb
        exact hmem (hb ▸ ha)⟩

/-- **The entries of a record that was stored entry by entry**: the names in the order in which they
came first, each with the value that came last. -/
theorem entries_ofList (entries : List (String × Value)) :
    (ofList entries).entries
      = (entries.map Prod.fst).eraseDups.map fun field => (field, lastValue entries field) := by
  induction entries using List.reverseRecOn with
  | nil => rfl
  | append_singleton entries entry ih =>
    obtain ⟨k, v⟩ := entry
    have hstore : ofList (entries ++ [(k, v)]) = (ofList entries).insert k v := by
      unfold ofList insertAll
      rw [List.foldl_append]
      rfl
    rw [hstore]
    show insertEntry k v (ofList entries).entries = _
    rw [ih, insertEntry_map (nodup_eraseDups _), List.map_append, List.map_cons, List.map_nil,
      eraseDups_concat]
    exact List.map_congr_left fun field _ => by rw [lastValue_concat]

/-! ## What is found under a name -/

/-- A name has an entry if a value is found under it. -/
theorem mem_keys_iff (r : Record) (field : String) :
    field ∈ r.keys ↔ (r.get? field).isSome = true := by
  simp [keys, get?]

/-- What is found under a name is its entry, if every name comes once. -/
theorem mem_toList_iff {r : Record} (h : r.keys.Nodup) (field : String) (value : Value) :
    (field, value) ∈ r.toList ↔ r.get? field = some value := by
  obtain ⟨entries⟩ := r
  show _ ∈ entries ↔ (entries.find? fun entry => entry.1 == field).map Prod.snd = some value
  induction entries with
  | nil => simp
  | cons entry rest ih =>
    obtain ⟨k, v⟩ := entry
    obtain ⟨hk, hrest⟩ := List.nodup_cons.mp h
    rw [List.mem_cons]
    by_cases hfield : k = field
    · subst hfield
      have hnot : (k, value) ∉ rest := fun hmem => hk (List.mem_map.mpr ⟨_, hmem, rfl⟩)
      rw [List.find?_cons_of_pos (by simp), or_iff_left hnot]
      simp [eq_comm]
    · rw [List.find?_cons_of_neg (by simpa using hfield), ← ih hrest, or_iff_right]
      exact fun heq => hfield (congrArg Prod.fst heq).symm

end PgStatement.Record
