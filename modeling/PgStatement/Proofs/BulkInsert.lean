import PgStatement.Proofs.Identifier
import PgStatement.Proofs.Numbering
import PgStatement.Proofs.Record

/-!
# Insertions of many records

Records that are inserted together need not have the same fields. The first one says what the
columns are; of the others, in whatever order their fields come, the values of these columns are
taken, and null stands for what a record does not have. The statement has one row of placeholders
for each record and a single list of parameters, so that the value of a record for a column must
stand in exactly one place of that list: behind all values of the records before, and behind those
of the columns before (`Insert.Stores`). Fields that are not among the columns are left out, and
each of them is named by the warning about its record (`Insert.Warns`). An entry of a record is
either a parameter or in a warning.

Which insertions lead to a statement is said by `Insert.IsInsertable`; everything is put together in
`Insert.bulk_insert`.
-/

namespace PgStatement

/-! ## Lists of rows -/

section Rows

variable {α β : Type} {f : α → List β} {n : Nat}

/-- Rows of one length, one after the other: an item stands behind all rows before its own. -/
theorem getElem?_flatMap_rows {as : List α} (h : ∀ a ∈ as, (f a).length = n) {i j : Nat}
    (hi : i < as.length) (hj : j < n) : (as.flatMap f)[i * n + j]? = (f as[i])[j]? := by
  induction as generalizing i with
  | nil => exact absurd hi (Nat.not_lt_zero i)
  | cons a as ih =>
    obtain ⟨ha, has⟩ := List.forall_mem_cons.mp h
    rw [List.flatMap_cons]
    -- the place is in the first row, or a whole row behind a place in the others
    cases i with
    | zero =>
      rw [Nat.zero_mul, Nat.zero_add, List.getElem?_append_left (ha ▸ hj)]
      rfl
    | succ i =>
      have hplace : (i + 1) * n + j = (f a).length + (i * n + j) := by
        rw [ha, Nat.succ_mul]
        omega
      rw [hplace, List.getElem?_append_right (Nat.le_add_right _ _), Nat.add_sub_cancel_left]
      exact ih has (Nat.lt_of_succ_lt_succ hi)

theorem length_flatMap_rows {as : List α} (h : ∀ a ∈ as, (f a).length = n) :
    (as.flatMap f).length = as.length * n := by
  rw [List.length_flatMap, List.map_congr_left h, List.map_const', List.sum_replicate_nat]

end Rows

namespace Fragment

/-- Values that are listed are written as placeholders that follow each other. -/
theorem texts_values (bound : Nat) (values : List Value) :
    texts bound (values.map fun v => [.value v])
      = (List.range values.length).map fun j => placeholder (bound + j + 1) := by
  induction values generalizing bound with
  | nil => rfl
  | cons v values ih =>
    have hfirst : text bound [.value v] = placeholder (bound + 1) := by
      rw [text_value]
      exact String.append_empty
    have hnext : (Fragment.values [.value v]).length = 1 := rfl
    rw [List.map_cons, texts, hfirst, hnext, ih, List.length_cons, List.range_succ_eq_map,
      List.map_cons, List.map_map]
    refine congrArg _ (List.map_congr_left fun j _ => congrArg placeholder ?_)
    omega

end Fragment

namespace Insert

/-! ## The statement -/

theorem length_row (columns : List String) (record : Record) :
    (row columns record).length = columns.length := List.length_map _

/-- The placeholders of a row that so many values come before. -/
def rowSql (bound width : Nat) : String :=
  "(" ++ ", ".intercalate ((List.range width).map fun j => placeholder (bound + j + 1)) ++ ")"

theorem text_tuple_eq_rowSql (bound : Nat) (values : List Value) :
    (Fragment.tuple values).text bound = rowSql bound values.length := by
  rw [Fragment.text_tuple, Fragment.texts_values, rowSql]

/-- Rows of one length are numbered one after the other. -/
theorem texts_rows (bound width : Nat) {rows : List (List Value)}
    (h : ∀ row ∈ rows, row.length = width) :
    Fragment.texts bound (rows.map Fragment.tuple)
      = (List.range rows.length).map fun i => rowSql (bound + i * width) width := by
  induction rows generalizing bound with
  | nil => rfl
  | cons row rows ih =>
    obtain ⟨hrow, hrows⟩ := List.forall_mem_cons.mp h
    rw [List.map_cons, Fragment.texts, Fragment.values_tuple, text_tuple_eq_rowSql, hrow,
      ih _ hrows, List.length_cons, List.range_succ_eq_map, List.map_cons, List.map_map,
      Nat.zero_mul, Nat.add_zero]
    refine congrArg _ (List.map_congr_left fun i _ => congrArg (rowSql · width) ?_)
    rw [Nat.succ_mul]
    omega

/-- Rows between two texts. -/
theorem text_rows (before after : String) (width : Nat) {rows : List (List Value)}
    (h : ∀ row ∈ rows, row.length = width) :
    Fragment.text 0 (.raw before :: Fragment.join ", " (rows.map Fragment.tuple) ++ [.raw after])
      = before ++ ", ".intercalate ((List.range rows.length).map fun i => rowSql (i * width) width)
        ++ after := by
  have hafter (bound : Nat) : Fragment.text bound [.raw after] = after := by
    rw [Fragment.text_raw]
    exact String.append_empty
  rw [List.cons_append, Fragment.text_raw, Fragment.text_append, Fragment.text_join,
    texts_rows 0 width h, hafter, String.append_assoc]
  simp only [Nat.zero_add]

/-- The conflict clause of a conflict that skips rows. -/
def conflictText : Option Conflict → String
  | none => ""
  | some conflict => " ON CONFLICT (" ++ conflict.column ++ ") DO NOTHING"

/-- **The text of an insertion of many records**: the columns, and a row of placeholders for each
record. -/
def bulkSql (table : String) (columns : List String) (count : Nat) (conflict? : Option Conflict) :
    String :=
  "INSERT INTO " ++ table ++ " (" ++ ", ".intercalate columns ++ ") VALUES "
    ++ ", ".intercalate ((List.range count).map fun i => rowSql (i * columns.length) columns.length)
    ++ conflictText conflict? ++ " RETURNING *"

/-- **Insertions that lead to a statement.** -/
structure IsInsertable (table? : Option String) (records : List Record)
    (conflict? : Option Conflict) : Prop where
  /-- A table is set, and it is an identifier. -/
  table : ∃ table, table? = some table ∧ IsIdentifier table
  /-- There are records. -/
  nonempty : records ≠ []
  /-- Each of them has fields. -/
  filled : ∀ r ∈ records, r.keys ≠ []
  /-- The fields of the first one are identifiers. -/
  columns : ∀ first ∈ records.head?, ∀ column ∈ first.keys, IsIdentifier column
  /-- On a conflict in a column that is an identifier rows are skipped, if anything is said of
  conflicts. -/
  conflict : ∀ conflict ∈ conflict?, conflict.action = .doNothing ∧ IsIdentifier conflict.column

/-! ### What the parts hinge on -/

theorem isEmpty_iff_keys (r : Record) : r.isEmpty = true ↔ r.keys = [] := by
  rw [Record.isEmpty, List.isEmpty_iff, Record.keys, List.map_eq_nil_iff]

theorem checkedTable_eq_ok_iff {q : Insert} {table : String} :
    q.checkedTable = .ok table ↔ q.table? = some table ∧ IsIdentifier table := by
  constructor
  · intro h
    obtain ⟨hsome, hcheck⟩ := eq_of_checkedTable h
    exact ⟨hsome, Identifier.check_eq_ok_iff.mp hcheck⟩
  · rintro ⟨hsome, hname⟩
    have hcheck : Identifier.check "table" table = .ok () := Identifier.check_eq_ok_iff.mpr hname
    rw [checkedTable, hsome]
    show (Identifier.check "table" table >>= fun _ => .ok table) = .ok table
    rw [hcheck]
    rfl

/-- Rows are made of records that all have fields. -/
theorem grid_eq_ok_iff {records : List Record} {columns : List String} {rows : List (List Value)} :
    grid (.many records) = .ok (columns, rows)
      ↔ (∀ r ∈ records, r.keys ≠ []) ∧ ∃ first, records.head? = some first ∧ columns = first.keys
        ∧ rows = records.map (row first.keys) := by
  cases records with
  | nil => exact iff_of_false nofun fun ⟨_, _, h, _⟩ => nomatch h
  | cons first rest =>
    have hfilled : (first :: rest).findIdx? Record.isEmpty = none
        ↔ ∀ r ∈ first :: rest, r.keys ≠ [] := by
      rw [List.findIdx?_eq_none_iff]
      refine forall₂_congr fun r _ => ?_
      rw [ne_eq, ← isEmpty_iff_keys, Bool.not_eq_true]
    rw [← hfilled, grid]
    cases (first :: rest).findIdx? Record.isEmpty with
    | some index => exact iff_of_false nofun fun h => nomatch h.1
    | none =>
      constructor
      · intro h
        obtain ⟨rfl, rfl⟩ := Prod.mk.inj (Except.ok.inj h)
        exact ⟨rfl, first, rfl, rfl, rfl⟩
      · rintro ⟨-, _, hfirst, rfl, rfl⟩
        obtain rfl := Option.some.inj hfirst
        rfl

/-- The first record without fields is reported. -/
theorem grid_eq_error {records : List Record} {i : Nat} (hi : i < records.length)
    (hempty : records[i].keys = []) (hfirst : ∀ k, ∀ hk : k < i, records[k].keys ≠ []) :
    grid (.many records) = .error (.invalidArgument
      ("Insert record at index " ++ Text.decimal i ++ " cannot be empty")) := by
  have hfind : records.findIdx? Record.isEmpty = some i := by
    refine List.findIdx?_eq_some_iff_getElem.mpr
      ⟨hi, (isEmpty_iff_keys _).mpr hempty, fun k hk => ?_⟩
    exact fun h => hfirst k hk ((isEmpty_iff_keys _).mp h)
  cases records with
  | nil => exact absurd hi (Nat.not_lt_zero i)
  | cons first rest => rw [grid, hfind]

/-- A conflict clause is written if rows are skipped. -/
theorem conflictSql_eq_ok_iff {conflict? : Option Conflict} {text : String} :
    conflictSql conflict? = .ok text
      ↔ (∀ conflict ∈ conflict?, conflict.action = .doNothing ∧ IsIdentifier conflict.column)
        ∧ text = conflictText conflict? := by
  cases conflict? with
  | none => exact ⟨fun h => ⟨nofun, (Except.ok.inj h).symm⟩, fun h => congrArg Except.ok h.2.symm⟩
  | some conflict =>
    obtain ⟨column, action⟩ := conflict
    have hforall : (∀ conflict ∈ some (Conflict.mk column action),
        conflict.action = .doNothing ∧ IsIdentifier conflict.column)
          ↔ action = .doNothing ∧ IsIdentifier column := by simp
    rw [hforall, conflictSql, bind_eq_ok_iff]
    cases action with
    | doUpdate => exact iff_of_false (fun ⟨_, _, h⟩ => nomatch h) fun h => nomatch h.1.1
    | doNothing =>
      constructor
      · rintro ⟨_, hcheck, h⟩
        exact ⟨⟨rfl, Identifier.check_eq_ok_iff.mp hcheck⟩, (Except.ok.inj h).symm⟩
      · rintro ⟨⟨-, hname⟩, rfl⟩
        exact ⟨(), Identifier.check_eq_ok_iff.mpr hname, rfl⟩

section Insertable

variable {table? : Option String} {records : List Record} {conflict? : Option Conflict}

theorem IsInsertable.checkedTable_eq (h : IsInsertable table? records conflict?) {table : String}
    (hsome : table? = some table) :
    checkedTable ⟨table?, .many records, conflict?⟩ = .ok table := by
  obtain ⟨other, hother, hname⟩ := h.table
  obtain rfl := Option.some.inj (hsome.symm.trans hother)
  exact checkedTable_eq_ok_iff.mpr ⟨hsome, hname⟩

theorem IsInsertable.grid_eq (h : IsInsertable table? records conflict?) {first : Record}
    (hfirst : records.head? = some first) :
    grid (.many records) = .ok (first.keys, records.map (row first.keys)) :=
  grid_eq_ok_iff.mpr ⟨h.filled, first, hfirst, rfl, rfl⟩

/-- **An insertion that can be written is written.** -/
theorem IsInsertable.exists_build (h : IsInsertable table? records conflict?) :
    ∃ s, build ⟨table?, .many records, conflict?⟩ = .ok s := by
  obtain ⟨table, hsome, -⟩ := h.table
  obtain ⟨first, hfirst⟩ := Option.isSome_iff_exists.mp (List.isSome_head?.mpr h.nonempty)
  have hcolumns : first.keys.forM (Identifier.check "column") = .ok () :=
    forM_eq_ok_iff.mpr fun column hcolumn =>
      Identifier.check_eq_ok_iff.mpr (h.columns first hfirst column hcolumn)
  have hconflict := conflictSql_eq_ok_iff.mpr ⟨h.conflict, rfl⟩
  rw [build_eq]
  exact ⟨_,
    bind_eq_ok_iff.mpr ⟨table, h.checkedTable_eq hsome, bind_eq_ok_iff.mpr ⟨_, h.grid_eq hfirst,
    bind_eq_ok_iff.mpr ⟨(), hcolumns, bind_eq_ok_iff.mpr ⟨_, hconflict, rfl⟩⟩⟩⟩⟩

/-- **What an insertion of many records is written as**, if it is. -/
theorem of_build {s : Statement} (h : build ⟨table?, .many records, conflict?⟩ = .ok s) :
    IsInsertable table? records conflict? ∧ ∃ table first, table? = some table
      ∧ records.head? = some first ∧ s.table = table
      ∧ s.sql = bulkSql table first.keys records.length conflict?
      ∧ s.params.values = records.flatMap (row first.keys) := by
  obtain ⟨table, columns, rows, conflict, hsome, htable, hgrid, hcolumns, hconflict, rfl⟩ :=
    eq_of_build h
  obtain ⟨hfilled, first, hfirst, rfl, rfl⟩ := grid_eq_ok_iff.mp hgrid
  obtain ⟨hskips, rfl⟩ := conflictSql_eq_ok_iff.mp hconflict
  refine ⟨⟨⟨table, hsome, Identifier.check_eq_ok_iff.mp htable⟩, ?_, hfilled, ?_, hskips⟩,
    table, first, hsome, hfirst, rfl, ?_, ?_⟩
  · rintro rfl
    cases hfirst
  · rintro other hother column hcolumn
    obtain rfl := Option.some.inj (hfirst.symm.trans hother)
    exact Identifier.check_eq_ok_iff.mp (hcolumns column hcolumn)
  · have hrows : ∀ values ∈ records.map (row first.keys), values.length = first.keys.length :=
      List.forall_mem_map.mpr fun r _ => length_row first.keys r
    rw [Statement.sql_ofFragment, text_rows _ _ _ hrows, List.length_map, ← String.append_assoc]
    rfl
  · rw [Statement.params_ofFragment, List.cons_append, Fragment.values, Fragment.values_append,
      Fragment.values_join, List.flatMap_map, List.flatMap_map]
    simp only [Fragment.values_tuple]
    exact List.append_nil _

end Insertable

/-! ## Places of values -/

/-- **Every value has its place**: the value of a record for a column stands behind the values of
the records before, and behind those of the columns before. -/
structure Stores (columns : List String) (records : List Record) (values : List Value) : Prop where
  /-- There is a value of each record for each column. -/
  length_eq : values.length = records.length * columns.length
  /-- The values of a record that are for columns are in their places. -/
  stored {i j : Nat} (hi : i < records.length) (hj : j < columns.length) {v : Value}
    (h : (columns[j], v) ∈ records[i].toList) : values[i * columns.length + j]? = some v
  /-- Null is in the places of columns that a record does not have. -/
  padded {i j : Nat} (hi : i < records.length) (hj : j < columns.length)
    (h : columns[j] ∉ records[i].keys) : values[i * columns.length + j]? = some .null

theorem stores_flatMap {records : List Record} (hdistinct : ∀ r ∈ records, r.keys.Nodup)
    (columns : List String) : Stores columns records (records.flatMap (row columns)) where
  length_eq := length_flatMap_rows fun r _ => length_row columns r
  stored {i j} hi hj {v} h := by
    have hget := (Record.mem_toList_iff (hdistinct _ (List.getElem_mem hi)) _ _).mp h
    rw [getElem?_flatMap_rows (fun r _ => length_row columns r) hi hj, row, List.getElem?_map,
      List.getElem?_eq_getElem hj, Option.map_some, hget, Option.getD_some]
  padded {i j} hi hj h := by
    rw [Record.mem_keys_iff, Option.not_isSome_iff_eq_none] at h
    rw [getElem?_flatMap_rows (fun r _ => length_row columns r) hi hj, row, List.getElem?_map,
      List.getElem?_eq_getElem hj, Option.map_some, h, Option.getD_none]

/-! ## Warnings -/

/-- The fields of a record that are not among the columns, in order. -/
def dropped (columns : List String) (record : Record) : List String :=
  record.keys.filter (· ∉ columns)

/-- The warning about a record, if it has fields that are left out. -/
def warningAbout (table : String) (columns : List String) (index : Nat) (record : Record) :
    List DroppedFields :=
  if dropped columns record = [] then [] else [⟨table, index, dropped columns record⟩]

/-- **Warnings tell what is left out**: one for each record that has fields which are not among the
columns, with all of these fields, and none for the others. -/
structure Warns (table : String) (columns : List String) (records : List Record)
    (warnings : List DroppedFields) : Prop where
  /-- There is one warning about a record with such fields, and none about another. -/
  filter_eq {i : Nat} (hi : i < records.length) :
    warnings.filter (fun w => w.index == i) = warningAbout table columns i records[i]
  /-- All warnings are about one of the records. -/
  index_lt {w : DroppedFields} (h : w ∈ warnings) : w.index < records.length

section Warnings

variable {table : String} {columns : List String} {records : List Record}

theorem droppedFrom_cons (index : Nat) (record : Record) (rest : List Record) :
    droppedFrom table columns index (record :: rest)
      = warningAbout table columns index record ++ droppedFrom table columns (index + 1) rest := by
  have hfields :
      (record.keys.filter fun field => !columns.contains field) = dropped columns record :=
    List.filter_congr fun field _ => by simp
  rw [droppedFrom]
  simp only [hfields, List.isEmpty_iff]
  unfold warningAbout
  split <;> rfl

theorem index_of_mem_warningAbout {index : Nat} {record : Record} {w : DroppedFields}
    (h : w ∈ warningAbout table columns index record) : w.index = index := by
  unfold warningAbout at h
  split at h
  · cases h
  · rw [List.mem_singleton.mp h]

/-- Warnings are about records from the first position on. -/
theorem index_of_mem_droppedFrom {index : Nat} {w : DroppedFields}
    (h : w ∈ droppedFrom table columns index records) :
    index ≤ w.index ∧ w.index < index + records.length := by
  induction records generalizing index with
  | nil => cases h
  | cons record rest ih =>
    rw [droppedFrom_cons, List.mem_append] at h
    rw [List.length_cons]
    rcases h with h | h
    · have := index_of_mem_warningAbout h
      omega
    · have := ih h
      omega

/-- **The warnings about one record**, whatever the others have. -/
theorem filter_droppedFrom (index : Nat) {i : Nat} (hi : i < records.length) :
    (droppedFrom table columns index records).filter (fun w => w.index == index + i)
      = warningAbout table columns (index + i) records[i] := by
  induction records generalizing index i with
  | nil => exact absurd hi (Nat.not_lt_zero i)
  | cons record rest ih =>
    rw [droppedFrom_cons, List.filter_append]
    cases i with
    | zero =>
      -- the first warning is the one that is asked for, and those about later records have other
      -- indices
      have hown : (warningAbout table columns index record).filter (fun w => w.index == index + 0)
          = warningAbout table columns index record :=
        List.filter_eq_self.mpr fun w hw => beq_iff_eq.mpr (index_of_mem_warningAbout hw)
      have hlater :
          (droppedFrom table columns (index + 1) rest).filter (fun w => w.index == index + 0)
            = [] := by
        refine List.filter_eq_nil_iff.mpr fun w hw heq => ?_
        have := index_of_mem_droppedFrom hw
        have := beq_iff_eq.mp heq
        omega
      rw [hown, hlater, List.append_nil]
      rfl
    | succ i =>
      have hown :
          (warningAbout table columns index record).filter (fun w => w.index == index + (i + 1))
            = [] := by
        refine List.filter_eq_nil_iff.mpr fun w hw heq => ?_
        have := index_of_mem_warningAbout hw
        have := beq_iff_eq.mp heq
        omega
      have hplace : index + (i + 1) = index + 1 + i := by omega
      rw [hown, List.nil_append, hplace]
      exact ih (index + 1) (Nat.lt_of_succ_lt_succ hi)

theorem warns_droppedFrom : Warns table columns records (droppedFrom table columns 0 records) where
  filter_eq {i} hi := by
    have hfilter : (droppedFrom table columns 0 records).filter (fun w => w.index == 0 + i)
        = warningAbout table columns (0 + i) records[i] := filter_droppedFrom 0 hi
    rwa [Nat.zero_add] at hfilter
  index_lt {w} h := by simpa using (index_of_mem_droppedFrom h).2

/-- **The warnings of an insertion** that can be written. -/
theorem warns_warnings {table? : Option String} {conflict? : Option Conflict}
    (h : IsInsertable table? records conflict?) (hsome : table? = some table) {first : Record}
    (hfirst : records.head? = some first) :
    Warns table first.keys records (warnings ⟨table?, .many records, conflict?⟩) := by
  rw [warnings, h.checkedTable_eq hsome, h.grid_eq hfirst]
  exact warns_droppedFrom

/-- **No entry is lost**: it is among the values, or in the warning about its record. -/
theorem Stores.kept {values : List Value} {warnings : List DroppedFields}
    (h : Stores columns records values) (hwarns : Warns table columns records warnings) {i : Nat}
    (hi : i < records.length) {column : String} {v : Value}
    (hentry : (column, v) ∈ records[i].toList) :
    (∃ j, ∃ hj : j < columns.length, columns[j] = column ∧ values[i * columns.length + j]? = some v)
      ∨ ∃ w ∈ warnings, w.index = i ∧ column ∈ w.fields := by
  by_cases hcolumn : column ∈ columns
  · obtain ⟨j, hj, rfl⟩ := List.getElem_of_mem hcolumn
    exact .inl ⟨j, hj, rfl, h.stored hi hj hentry⟩
  · have hdropped : column ∈ dropped columns records[i] :=
      List.mem_filter.mpr ⟨List.mem_map.mpr ⟨_, hentry, rfl⟩, decide_eq_true hcolumn⟩
    have hwarning : DroppedFields.mk table i (dropped columns records[i])
        ∈ warnings.filter fun w => w.index == i := by
      rw [hwarns.filter_eq hi, warningAbout, if_neg (List.ne_nil_of_mem hdropped)]
      exact List.mem_singleton_self _
    exact .inr ⟨_, (List.mem_filter.mp hwarning).1, rfl, hdropped⟩

end Warnings

/-! ## What comes of an insertion -/

/-- **An insertion of many records as it is written**: where all values are, and what is left
out. -/
structure Writes (table : String) (columns : List String) (records : List Record)
    (conflict? : Option Conflict) (s : Statement) (warnings : List DroppedFields) : Prop where
  /-- It is about the table. -/
  table_eq : s.table = table
  /-- It lists the columns, and has a row of placeholders for each record. -/
  sql_eq : s.sql = bulkSql table columns records.length conflict?
  /-- The parameters are the values of the records. -/
  stores : Stores columns records s.params.values
  /-- Warnings tell what is left out. -/
  warns : Warns table columns records warnings
  /-- No entry of a record is lost: it is a parameter, or in the warning about the record. -/
  kept {i : Nat} (hi : i < records.length) {column : String} {v : Value}
    (h : (column, v) ∈ records[i].toList) :
    (∃ j, ∃ hj : j < columns.length, columns[j] = column
        ∧ s.params.values[i * columns.length + j]? = some v)
      ∨ ∃ w ∈ warnings, w.index = i ∧ column ∈ w.fields

/-- **What comes of an insertion of many records.** -/
structure BulkOutcome (table? : Option String) (records : List Record)
    (conflict? : Option Conflict) : Prop where
  /-- An insertion that can be written is written, with all that is in its records, if no field of a
  record comes twice. -/
  written (hdistinct : ∀ r ∈ records, r.keys.Nodup) (h : IsInsertable table? records conflict?) :
    ∃ table first s, table? = some table ∧ records.head? = some first
    ∧ build ⟨table?, .many records, conflict?⟩ = .ok s
    ∧ Writes table first.keys records conflict? s (warnings ⟨table?, .many records, conflict?⟩)
  /-- All others fail. -/
  refused (h : ¬IsInsertable table? records conflict?) :
    ∃ e, build ⟨table?, .many records, conflict?⟩ = .error e
  /-- If the table is an identifier, the first record without fields is what is reported. -/
  empty {table : String} (htable : table? = some table) (hname : IsIdentifier table) {i : Nat}
    (hi : i < records.length) (hempty : records[i].keys = [])
    (hfirst : ∀ k, ∀ hk : k < i, records[k].keys ≠ []) :
    build ⟨table?, .many records, conflict?⟩ = .error (.invalidArgument
      ("Insert record at index " ++ Text.decimal i ++ " cannot be empty"))

/-- **Every value that is inserted has its place.** -/
theorem bulk_insert (table? : Option String) (records : List Record) (conflict? : Option Conflict) :
    BulkOutcome table? records conflict? where
  written hdistinct h := by
    obtain ⟨s, hs⟩ := h.exists_build
    obtain ⟨-, table, first, hsome, hfirst, htable, hsql, hvalues⟩ := of_build hs
    have hstores : Stores first.keys records s.params.values :=
      hvalues ▸ stores_flatMap hdistinct first.keys
    have hwarns := warns_warnings h hsome hfirst
    exact ⟨table, first, s, hsome, hfirst, hs, htable, hsql, hstores, hwarns, hstores.kept hwarns⟩
  refused h := by
    cases hbuild : build ⟨table?, .many records, conflict?⟩ with
    | ok s => exact absurd (of_build hbuild).1 h
    | error e => exact ⟨e, rfl⟩
  empty {table} htable hname {i} hi hempty hfirst := by
    have hgrid := grid_eq_error hi hempty hfirst
    have hchecked : checkedTable ⟨table?, .many records, conflict?⟩ = .ok table :=
      checkedTable_eq_ok_iff.mpr ⟨htable, hname⟩
    rw [build_eq, hchecked]
    show (grid (.many records) >>= _) = _
    rw [hgrid]
    rfl

/-- Records whose fields come in another order, are missing, or are not among the columns. -/
def guests : List Record :=
  [.ofEntries [("id", .int 1), ("name", .text "Ada")],
    .ofEntries [("seat", .int 7), ("name", .text "Bo"), ("id", .int 2)],
    .ofEntries [("id", .int 3), ("note", .null), ("table", .int 4)]]

theorem bulk_insert_guests :
    (∃ s, build ⟨some "guests", .many guests, some ⟨"id", .doNothing⟩⟩ = .ok s
        ∧ Stores ["id", "name"] guests s.params.values
        ∧ s.sql = "INSERT INTO guests (id, name) VALUES ($1, $2), ($3, $4), ($5, $6)"
          ++ " ON CONFLICT (id) DO NOTHING RETURNING *")
      ∧ warnings ⟨some "guests", .many guests, some ⟨"id", .doNothing⟩⟩
        = [⟨"guests", 1, ["seat"]⟩, ⟨"guests", 2, ["note", "table"]⟩]
      ∧ build ⟨some "guests", .many (guests ++ [.empty]), none⟩
        = .error (.invalidArgument "Insert record at index 3 cannot be empty") := by
  have hname {name : String} (h : Identifier.check "column" name = .ok ()) : IsIdentifier name :=
    Identifier.check_eq_ok_iff.mp h
  have htable : IsIdentifier "guests" := hname rfl
  have hcolumn : IsIdentifier "id" ∧ IsIdentifier "name" := ⟨hname rfl, hname rfl⟩
  have hinsertable : IsInsertable (some "guests") guests (some ⟨"id", .doNothing⟩) := by
    refine ⟨⟨_, rfl, htable⟩, List.cons_ne_nil _ _, by decide, ?_, ?_⟩
    · rintro _ ⟨⟩
      simpa [Record.keys, Record.ofEntries] using hcolumn
    · rintro _ ⟨⟩
      exact ⟨rfl, hcolumn.1⟩
  refine ⟨?_, rfl, ?_⟩
  · obtain ⟨table, first, s, hsome, hfirst, hbuild, hwrites⟩ :=
      (bulk_insert (some "guests") guests (some ⟨"id", .doNothing⟩)).written (by decide) hinsertable
    obtain rfl := Option.some.inj hsome
    obtain rfl := Option.some.inj hfirst
    exact ⟨s, hbuild, hwrites.stores, hwrites.sql_eq.trans (String.toList_inj.mp rfl)⟩
  · have hempty := (bulk_insert (some "guests") (guests ++ [.empty]) none).empty (i := 3) rfl htable
      (by decide) rfl (by decide)
    rw [hempty]
    exact congrArg (fun problem => Except.error (Error.invalidArgument problem))
      (String.toList_inj.mp rfl)

end Insert

end PgStatement
