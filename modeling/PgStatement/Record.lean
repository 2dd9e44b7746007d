import PgStatement.Identifier
import PgStatement.Value.Document

/-!
# Records

A `Record` maps field names to values and keeps the order in which fields came. It is what is
inserted and assigned, and what every row of a result becomes. Storing under a name that is there
replaces the value and keeps the place; a field that is removed and stored again comes last.

A record made by these operations has each name once. A row is taken as it comes, column by column,
even if two columns share a name (`Record.ofEntries`); then the first one is found.
-/

namespace PgStatement

/-- **An ordered map from field names to values.** -/
structure Record where
  /-- The fields with their values, in order. -/
  entries : List (String × Value)

namespace Record

/-- The record without fields. -/
def empty : Record := ⟨[]⟩

instance : Inhabited Record := ⟨empty⟩

/-- A record of the given entries, as they are. -/
def ofEntries (entries : List (String × Value)) : Record := ⟨entries⟩

/-- The entries, in order. -/
def toList (r : Record) : List (String × Value) := r.entries

/-- The field names, in order. -/
def keys (r : Record) : List String := r.entries.map Prod.fst

/-- The values, in order. -/
def values (r : Record) : List Value := r.entries.map Prod.snd

/-- The number of entries. -/
def size (r : Record) : Nat := r.entries.length

/-- Whether there are no entries. -/
def isEmpty (r : Record) : Bool := r.entries.isEmpty

/-- The value stored under a name, the first if there are several. -/
def get? (r : Record) (field : String) : Option Value :=
  (r.entries.find? fun entry => entry.1 == field).map Prod.snd

/-- Whether a value is stored under a name. -/
def contains (r : Record) (field : String) : Bool :=
  r.entries.any fun entry => entry.1 == field

/-- Entries with a value stored under a name: in the place of the first such entry, or at the
end. -/
def insertEntry (field : String) (value : Value) :
    List (String × Value) → List (String × Value)
  | [] => [(field, value)]
  | (k, v) :: rest =>
    if k = field then (k, value) :: rest else (k, v) :: insertEntry field value rest

/-- **Stores a value** under a name. -/
def insert (r : Record) (field : String) (value : Value) : Record :=
  ⟨insertEntry field value r.entries⟩

/-- Stores a value, and answers the one it replaces. -/
def exchange (r : Record) (field : String) (value : Value) : Option Value × Record :=
  (r.get? field, r.insert field value)

/-- **Removes** the entry of a name, the first if there are several. -/
def erase (r : Record) (field : String) : Record :=
  ⟨r.entries.eraseP fun entry => entry.1 == field⟩

/-- Removes the entry of a name, and answers its value. -/
def extract (r : Record) (field : String) : Option Value × Record :=
  (r.get? field, r.erase field)

/-- Stores all entries of a list, one after the other. -/
def insertAll (r : Record) (entries : List (String × Value)) : Record :=
  entries.foldl (fun r entry => r.insert entry.1 entry.2) r

/-- The record of a list of entries: of several with one name the last value, in the first place. -/
def ofList (entries : List (String × Value)) : Record := empty.insertAll entries

/-- The value stored under a name, or an error. -/
def require (r : Record) (field : String) : Except Error Value :=
  match r.get? field with
  | some value => .ok value
  | none => .error (.invalidArgument ("record has no field '" ++ field ++ "'"))

/-- Equality of records: the same names in the same order, with equal values. -/
def equals (a b : Record) : Bool :=
  a.keys == b.keys && Value.equalItems a.values b.values

/-- **The record as a JSON object**, its members in the order of the fields. -/
def jsonText (r : Record) : String :=
  let members := r.entries.map fun (field, value) => Json.stringText field ++ ":" ++ value.jsonText
  "\x7b" ++ ",".intercalate members ++ "\x7d"

/-! ## Small laws -/

/-- Storing adds a name only if it is new, and then at the end. -/
theorem keys_insert (r : Record) (field : String) (value : Value) :
    (r.insert field value).keys = if field ∈ r.keys then r.keys else r.keys ++ [field] := by
  obtain ⟨entries⟩ := r
  show (insertEntry field value entries).map Prod.fst = _
  unfold keys
  induction entries with
  | nil => rfl
  | cons entry rest ih =>
    obtain ⟨k, v⟩ := entry
    by_cases h : k = field
    · subst h
      simp [insertEntry]
    · have h' : field ≠ k := fun e => h e.symm
      rw [insertEntry, if_neg h, List.map_cons, ih]
      by_cases hmem : field ∈ rest.map Prod.fst
      · simp only [List.map_cons, List.mem_cons, h', hmem, or_true, if_true]
      · simp only [List.map_cons, List.mem_cons, h', hmem, or_self, if_false, List.cons_append]

/-- **Storing keeps names distinct.** -/
theorem nodup_keys_insert {r : Record} (h : r.keys.Nodup) (field : String) (value : Value) :
    (r.insert field value).keys.Nodup := by
  rw [keys_insert]
  split
  · exact h
  · rename_i hmem
    rw [List.nodup_append]
    refine ⟨h, List.pairwise_singleton _ _, ?_⟩
    rintro a ha b hb rfl
    rw [List.mem_singleton] at hb
    exact hmem (hb ▸ ha)

end Record

end PgStatement
