import PgStatement.Proofs.Numbering
import PgStatement.Session.Reply

/-!
# Records with one entry for each name

Storing under a name looks for the name first, and removing takes the first entry of a name away. A
record in which every name comes once stays so (`Record.nodup_keys_change`), whatever is stored and
removed.

Records come from three places: they are empty, they are collected from entries, which is storing
entry by entry, or they are rows of a result. A row is taken as it comes: its names are those of the
columns, in order (`Record.keys_of_row`), and a result may have two columns of one name. So a record
has one entry for each name if it does not come from such a row (`Record.one_entry_each`), and
otherwise it need not (`Record.two_entries_of_row`): the name that is removed is then still there,
and an insertion of the record names a column twice.
-/

namespace PgStatement

namespace Record

/-! ## Changes -/

/-- A change of a record. -/
inductive Change where
  /-- A value is stored. -/
  | set (field : String) (value : Value)
  /-- A value is stored, and the one it replaces is answered. -/
  | insert (field : String) (value : Value)
  /-- An entry is removed, and its value is answered. -/
  | remove (field : String)

/-- The record after a change. -/
def change (r : Record) : Change → Record
  | .set field value => r.insert field value
  | .insert field value => (r.exchange field value).2
  | .remove field => (r.extract field).2

theorem contains_iff (r : Record) (field : String) : r.contains field = true ↔ field ∈ r.keys := by
  simp [contains, keys]

/-- Removing takes the first such name away. -/
theorem keys_erase (r : Record) (field : String) : (r.erase field).keys = r.keys.erase field := by
  rw [keys, keys, List.erase_eq_eraseP', List.eraseP_map]
  rfl

theorem nodup_keys_erase {r : Record} (h : r.keys.Nodup) (field : String) :
    (r.erase field).keys.Nodup := by
  rw [keys_erase]
  exact h.erase field

/-- **What is removed is gone**, if every name comes once. -/
theorem contains_erase {r : Record} (h : r.keys.Nodup) (field : String) :
    (r.erase field).contains field = false := by
  rw [Bool.eq_false_iff, ne_eq, contains_iff, keys_erase]
  exact h.not_mem_erase

/-- **A change keeps names distinct.** -/
theorem nodup_keys_change {r : Record} (h : r.keys.Nodup) (c : Change) :
    (r.change c).keys.Nodup := by
  cases c with
  | set field value => exact nodup_keys_insert h field value
  | insert field value => exact nodup_keys_insert h field value
  | remove field => exact nodup_keys_erase h field

theorem nodup_keys_insertAll {r : Record} (h : r.keys.Nodup) (entries : List (String × Value)) :
    (r.insertAll entries).keys.Nodup := by
  unfold insertAll
  induction entries generalizing r with
  | nil => exact h
  | cons entry entries ih => exact ih (nodup_keys_insert h entry.1 entry.2)

/-! ## Rows -/

/-- The fields of a row that is read are those of its columns. -/
theorem map_fst_of_decodeFrom {index : Nat} {columns : List (String × Wire.WireType)}
    {cells : List (Option Bytes)} {entries : List (String × Value)}
    (hcells : cells.length = columns.length)
    (h : Reply.decodeFrom index columns cells = .ok entries) :
    entries.map Prod.fst = columns.map Prod.fst := by
  induction columns generalizing index cells entries with
  | nil =>
    cases h
    rfl
  | cons column columns ih =>
    obtain ⟨name, ty⟩ := column
    cases cells with
    | nil => cases hcells
    | cons cell cells =>
      rw [Reply.decodeFrom] at h
      split at h
      · cases h
      · obtain ⟨rest, hrest, rfl⟩ := map_eq_ok_iff.mp h
        rw [List.map_cons, List.map_cons, ih (Nat.succ.inj hcells) hrest]

/-- **The names of a row are those of its columns**, in order, also if one of them comes twice. -/
theorem keys_of_row {columns : List (String × Wire.WireType)} {cells : List (Option Bytes)}
    {r : Record} (hcells : cells.length = columns.length) (h : Reply.record columns cells = .ok r) :
    r.keys = columns.map Prod.fst := by
  obtain ⟨entries, hentries, rfl⟩ := map_eq_ok_iff.mp h
  exact map_fst_of_decodeFrom hcells hentries

/-! ## Where records come from -/

/-- **Records as they come about**, but for rows in which a column name comes twice. -/
inductive Arises : Record → Prop where
  /-- The record without fields. -/
  | empty : Arises empty
  /-- A record that is collected from entries. -/
  | collected (entries : List (String × Value)) : Arises (ofList entries)
  /-- A row, with a cell for each column, of columns with distinct names. -/
  | row {columns : List (String × Wire.WireType)} {cells : List (Option Bytes)} {r : Record}
    (hcells : cells.length = columns.length) (h : Reply.record columns cells = .ok r)
    (hnames : (columns.map Prod.fst).Nodup) : Arises r
  /-- A record that is changed. -/
  | change {r : Record} (h : Arises r) (c : Change) : Arises (r.change c)

theorem Arises.nodup_keys {r : Record} (h : Arises r) : r.keys.Nodup := by
  induction h with
  | empty => exact List.nodup_nil
  | collected entries => exact nodup_keys_insertAll (r := .empty) List.nodup_nil entries
  | row hcells h hnames => exact keys_of_row hcells h ▸ hnames
  | change _ c ih => exact nodup_keys_change ih c

/-- **An insertion of one record names its fields**, in order. -/
theorem columns_of_build {q : Insert} {r : Record} {s : Statement} (hrows : q.rows = .single r)
    (h : q.build = .ok s) :
    ∃ table rest, s.sql
      = "INSERT INTO " ++ table ++ " (" ++ ", ".intercalate r.keys ++ ") VALUES " ++ rest := by
  obtain ⟨table, columns, rows, conflict, -, -, hgrid, -, -, rfl⟩ := Insert.eq_of_build h
  rw [hrows, Insert.grid] at hgrid
  split at hgrid
  · cases hgrid
  · cases hgrid
    refine ⟨table,
      String.join (Fragment.spell 0 (Fragment.join ", " ([r.values].map Fragment.tuple)
      ++ [.raw (conflict ++ " RETURNING *")])), ?_⟩
    rw [Statement.sql_ofFragment, List.cons_append, Fragment.text, Fragment.spell, String.join_cons]

/-- **A record has one entry for each name** if it does not come from a row in which a column name
comes twice: its names are distinct, a name that is removed is gone, and an insertion of it names
its fields, each of them once. -/
theorem one_entry_each {r : Record} (h : Arises r) :
    r.keys.Nodup
      ∧ (∀ field, (r.extract field).2.contains field = false)
      ∧ ∀ (q : Insert) (s : Statement), q.rows = .single r → q.build = .ok s →
        ∃ table rest, s.sql
          = "INSERT INTO " ++ table ++ " (" ++ ", ".intercalate r.keys ++ ") VALUES " ++ rest :=
  ⟨h.nodup_keys, contains_erase h.nodup_keys, fun _ _ hrows hbuild => columns_of_build hrows hbuild⟩

/-- The columns of a table with an identifier and a name. -/
def userColumns : List (String × Wire.WireType) :=
  [("id", .builtin .int4), ("name", .builtin .text)]

/-- A row of a user without a name. -/
def userCells : List (Option Bytes) := [some [0, 0, 0, 1], none]

theorem one_entry_each_user :
    ∃ row, Reply.record userColumns userCells = .ok row
      ∧ Arises ((row.change (.insert "name" (.text "Ada"))).change (.remove "id"))
      ∧ ((row.change (.insert "name" (.text "Ada"))).change (.remove "id")).keys.Nodup
      ∧ ((((row.change (.insert "name" (.text "Ada"))).change (.remove "id")).extract
          "name").2.contains "name") = false
      ∧ ∃ table rest,
        (Insert.start.into "users" |>.values
          ((row.change (.insert "name" (.text "Ada"))).change (.remove "id"))).build.map
            Statement.sql
          = .ok ("INSERT INTO " ++ table ++ " (" ++ ", ".intercalate ["name"] ++ ") VALUES "
            ++ rest) := by
  have hrow : Reply.record userColumns userCells
      = .ok ⟨[("id", .int 1), ("name", .null)]⟩ := by cbv
  have harises := ((Arises.row rfl hrow (by decide)).change (.insert "name" (.text "Ada"))).change
    (.remove "id")
  obtain ⟨hnodup, hremoved, hinsert⟩ := one_entry_each harises
  obtain ⟨table, rest, hsql⟩ := hinsert (Insert.start.into "users" |>.values _) _ rfl rfl
  exact ⟨_, hrow, harises, hnodup, hremoved "name", table, rest, congrArg Except.ok hsql⟩

/-- **A row of columns that share a name has two entries of that name**: what is removed is still
there, and an insertion of the row names the column twice. -/
theorem two_entries_of_row :
    ∃ row, Reply.record [("id", .builtin .int4), ("id", .builtin .int4)]
        [some [0, 0, 0, 1], some [0, 0, 0, 2]] = .ok row
      ∧ ¬row.keys.Nodup
      ∧ (row.extract "id").2.contains "id" = true
      ∧ (Insert.start.into "users" |>.values row).build.map Statement.sql
        = .ok "INSERT INTO users (id, id) VALUES ($1, $2) RETURNING *" := by
  refine ⟨⟨[("id", .int 1), ("id", .int 2)]⟩, by cbv, by decide, by decide, ?_⟩
  exact congrArg Except.ok (String.toList_inj.mp rfl)

end Record

end PgStatement
