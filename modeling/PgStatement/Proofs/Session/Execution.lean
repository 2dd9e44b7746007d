import PgStatement.Proofs.RecordKeys
import PgStatement.Proofs.Session.Request

/-!
# All of a statement or nothing

A statement needs a connection and a text that can be sent; the server prepares it, its values are
written and sent, the server executes it, and the rows that come back are read. Any of this can
fail. Values are sent only if there is one for each parameter and all of them can be written, each
as the type in its own place, and rows are handed on only if all of their cells can be read.
Whatever fails, there is one error, and it is reported once (`Session.all_or_nothing`).

The server is known by its next reply. How far a statement gets with it is said in three steps,
`Session.Prepares`, `Session.Executes` and `Session.Answers`, and what stops it by the ways of
`Session.Fails`, in the order in which they are met.
-/

namespace PgStatement

/-! ## Results under their numbers -/

/-- Collects results, up to the first failure, which is reported with its number. -/
def collect {β : Type} (report : Nat → Wire.Fault → Error) :
    (index : Nat) → List (Except Wire.Fault β) → Except Error (List β)
  | _, [] => .ok []
  | index, .error cause :: _ => .error (report index cause)
  | index, .ok b :: results => (b :: ·) <$> collect report (index + 1) results

/-- **The first failure** among results, as it is reported under its number. -/
def FirstFailure {β : Type} (report : Nat → Wire.Fault → Error)
    (results : List (Except Wire.Fault β)) (e : Error) : Prop :=
  ∃ (done : List β) (cause : Wire.Fault) (rest : List (Except Wire.Fault β)),
    results = done.map .ok ++ .error cause :: rest ∧ e = report done.length cause

section Collect

variable {α β γ : Type} {report : Nat → Wire.Fault → Error} {index : Nat} {e : Error}

theorem collect_eq_ok_iff {results : List (Except Wire.Fault β)} {bs : List β} :
    collect report index results = .ok bs ↔ results = bs.map .ok := by
  induction results generalizing index bs with
  | nil => rw [collect, Except.ok.injEq, eq_comm, @eq_comm _ [] (bs.map _), List.map_eq_nil_iff]
  | cons result results ih =>
    cases result with
    | error cause =>
      refine iff_of_false nofun fun h => ?_
      cases bs <;> cases h
    | ok b =>
      rw [collect, map_eq_ok_iff]
      constructor
      · rintro ⟨rest, hrest, rfl⟩
        rw [ih.mp hrest, List.map_cons]
      · intro h
        cases bs with
        | nil => cases h
        | cons b' rest =>
          obtain ⟨hb, hrest⟩ := List.cons.inj h
          obtain rfl := Except.ok.inj hb
          exact ⟨rest, ih.mpr hrest, rfl⟩

/-- **The failure that is reported is the first one.** -/
theorem collect_eq_error_iff {results : List (Except Wire.Fault β)} :
    collect report index results = .error e
      ↔ FirstFailure (fun number => report (index + number)) results e := by
  induction results generalizing index with
  | nil =>
    refine iff_of_false nofun ?_
    rintro ⟨done, cause, rest, h, -⟩
    cases done <;> cases h
  | cons result results ih =>
    cases result with
    | error cause =>
      rw [collect, Except.error.injEq]
      constructor
      · rintro rfl
        exact ⟨[], cause, results, rfl, rfl⟩
      · rintro ⟨done, cause', rest, h, rfl⟩
        cases done with
        | nil =>
          obtain rfl := Except.error.inj (List.cons.inj h).1
          rfl
        | cons => cases h
    | ok b =>
      rw [collect, map_eq_error_iff, ih]
      constructor
      · rintro ⟨done, cause, rest, rfl, rfl⟩
        refine ⟨b :: done, cause, rest, rfl, ?_⟩
        show report (index + 1 + done.length) cause = report (index + (done.length + 1)) cause
        rw [Nat.add_assoc, Nat.add_comm 1]
      · rintro ⟨done, cause, rest, h, rfl⟩
        cases done with
        | nil => cases h
        | cons b' done =>
          refine ⟨done, cause, rest, (List.cons.inj h).2, ?_⟩
          show report (index + (done.length + 1)) cause = report (index + 1 + done.length) cause
          rw [Nat.add_assoc, Nat.add_comm 1]

/-- The results for two lists are given place by place. -/
theorem zipWith_eq_map_ok_iff {f : α → β → Except Wire.Fault γ} {as : List α} {bs : List β}
    {cs : List γ} :
    List.zipWith f as bs = cs.map .ok
      ↔ List.Forall₂ (fun place c => f place.1 place.2 = .ok c) (as.zip bs) cs := by
  rw [← List.map_uncurry_zip_eq_zipWith, ← List.forall₂_eq_eq_eq, List.forall₂_map_left_iff,
    List.forall₂_map_right_iff]
  rfl

end Collect

namespace Reply

/-! ## Values on the way out -/

/-- **Values written as the types of their parameters**, one for each and each in its own place. -/
structure Writes (r : Reply) (values : List Value) (cells : List (Option Bytes)) : Prop where
  /-- There is a value for each parameter. -/
  count : r.parameterTypes.length = values.length
  /-- The values are written in order. -/
  written : List.Forall₂ (fun place cell => Wire.encode place.2 place.1 = .ok cell)
    (r.parameterTypes.zip values) cells

/-- How a value is reported that cannot be written. -/
def parameterError (index : Nat) (cause : Wire.Fault) : Error := .backend (.parameter index cause)

theorem encodeFrom_eq_collect (index : Nat) (types : List Wire.WireType) (values : List Value) :
    encodeFrom index types values
      = collect parameterError index
        (List.zipWith (fun ty v => Wire.encode v ty) types values) := by
  fun_induction encodeFrom index types values with
  | case1 index ty types v values cause hcell =>
    rw [List.zipWith_cons_cons, hcell, collect, parameterError]
  | case2 index ty types v values cell hcell ih => rw [List.zipWith_cons_cons, hcell, collect, ih]
  | case3 types index values hcons =>
    cases types with
    | nil => rw [List.zipWith_nil_left, collect]
    | cons ty types =>
      cases values with
      | nil => rw [List.zipWith_nil_right, collect]
      | cons v values => exact absurd rfl (hcons ty types v values rfl)

/-- **Values are sent if they are written**, and as they are. -/
theorem encodeParams_eq_ok_iff {r : Reply} {values : List Value} {cells : List (Option Bytes)} :
    encodeParams r.parameterTypes values = .ok cells ↔ r.Writes values cells := by
  unfold encodeParams
  split
  · rename_i hcount
    rw [encodeFrom_eq_collect, collect_eq_ok_iff, zipWith_eq_map_ok_iff]
    exact ⟨fun h => ⟨hcount, h⟩, fun h => h.written⟩
  · rename_i hcount
    exact iff_of_false nofun fun h => hcount h.count

/-- **Values are not sent** if there are too few or too many, or for the first that cannot be
written. -/
theorem encodeParams_eq_error_iff {types : List Wire.WireType} {values : List Value} {e : Error} :
    encodeParams types values = .error e
      ↔ (types.length ≠ values.length
          ∧ e = .backend (.parameterCount types.length values.length))
        ∨ types.length = values.length
          ∧ FirstFailure parameterError
            (List.zipWith (fun ty v => Wire.encode v ty) types values) e := by
  unfold encodeParams
  split
  · rename_i hcount
    rw [encodeFrom_eq_collect, collect_eq_error_iff]
    simp only [Nat.zero_add, ne_eq, hcount, not_true, false_and, false_or, true_and]
  · rename_i hcount
    simp only [Except.error.injEq, ne_eq, hcount, not_false_eq_true, true_and, false_and, or_false,
      eq_comm]

/-! ## Rows on the way in -/

/-- **What a cell holds**: null if it is missing, else the value of its bytes. -/
inductive IsCell (ty : Wire.WireType) : Option Bytes → Value → Prop where
  | null : IsCell ty none .null
  | value {raw : Bytes} {v : Value} (h : Wire.decode ty raw = .ok v) : IsCell ty (some raw) v

theorem decodeCell_eq_ok_iff {ty : Wire.WireType} {cell : Option Bytes} {v : Value} :
    Wire.decodeCell ty cell = .ok v ↔ IsCell ty cell v := by
  constructor
  · intro h
    cases cell with
    | none =>
      obtain rfl := Except.ok.inj h
      exact .null
    | some raw => exact .value h
  · rintro (_ | h)
    · rfl
    · exact h

/-- A field of a record, of a column and its cell: the name of the column, with what the cell
holds. -/
def IsField (place : (String × Wire.WireType) × Option Bytes) (field : String × Value) : Prop :=
  field.1 = place.1.1 ∧ IsCell place.1.2 place.2 field.2

/-- **A row as a record**: a field for each column with a cell, in order. -/
def IsRow (columns : List (String × Wire.WireType)) (cells : List (Option Bytes))
    (record : Record) : Prop :=
  List.Forall₂ IsField (columns.zip cells) record.entries

variable {columns : List (String × Wire.WireType)} {cells : List (Option Bytes)} {r : Record}

/-- A column and its cell as a field. -/
def field (column : String × Wire.WireType) (cell : Option Bytes) :
    Except Wire.Fault (String × Value) :=
  (column.1, ·) <$> Wire.decodeCell column.2 cell

theorem field_eq_ok_iff {column : String × Wire.WireType} {cell : Option Bytes}
    {f : String × Value} : field column cell = .ok f ↔ IsField (column, cell) f := by
  rw [field, map_eq_ok_iff]
  constructor
  · rintro ⟨v, hv, rfl⟩
    exact ⟨rfl, decodeCell_eq_ok_iff.mp hv⟩
  · rintro ⟨hname, hcell⟩
    exact ⟨f.2, decodeCell_eq_ok_iff.mpr hcell, Prod.ext hname.symm rfl⟩

/-- How a cell is reported that cannot be read. -/
def columnError (index : Nat) (cause : Wire.Fault) : Error := .backend (.column index cause)

theorem decodeFrom_eq_collect (index : Nat) (columns : List (String × Wire.WireType))
    (cells : List (Option Bytes)) :
    decodeFrom index columns cells
      = collect columnError index (List.zipWith field columns cells) := by
  fun_induction decodeFrom index columns cells with
  | case1 index name ty columns cell cells cause hcell =>
    rw [List.zipWith_cons_cons, field, hcell]
    rfl
  | case2 index name ty columns cell cells v hcell ih =>
    rw [List.zipWith_cons_cons, field, hcell, ih]
    rfl
  | case3 columns index cells hcons =>
    cases columns with
    | nil => rw [List.zipWith_nil_left, collect]
    | cons column columns =>
      cases cells with
      | nil => rw [List.zipWith_nil_right, collect]
      | cons cell cells => exact absurd rfl (hcons column.1 column.2 columns cell cells rfl)

/-- **A row is read if each of its cells is.** -/
theorem record_eq_ok_iff : record columns cells = .ok r ↔ IsRow columns cells r := by
  have hentries : decodeFrom 0 columns cells = .ok r.entries ↔ IsRow columns cells r := by
    rw [decodeFrom_eq_collect, collect_eq_ok_iff, zipWith_eq_map_ok_iff]
    simp only [field_eq_ok_iff]
    rfl
  rw [← hentries, record, map_eq_ok_iff]
  constructor
  · rintro ⟨entries, h, rfl⟩
    exact h
  · exact fun h => ⟨r.entries, h, rfl⟩

theorem exists_isRow_iff :
    (∃ r, IsRow columns cells r)
      ↔ ∀ place ∈ columns.zip cells, ∃ v, IsCell place.1.2 place.2 v := by
  constructor
  · rintro ⟨r, hr⟩ place hplace
    obtain ⟨f, -, -, hcell⟩ := exists_of_forall₂_right hr.flip hplace
    exact ⟨f.2, hcell⟩
  · intro h
    obtain ⟨entries, hentries⟩ : ∃ entries, List.Forall₂ IsField (columns.zip cells) entries := by
      refine exists_forall₂_of_forall fun place hplace => ?_
      obtain ⟨v, hv⟩ := h place hplace
      exact ⟨(place.1.1, v), rfl, hv⟩
    exact ⟨.ofEntries entries, hentries⟩

theorem records_eq_ok_iff {r : Reply} {records : List Record} :
    r.records = .ok records ↔ List.Forall₂ (IsRow r.columns) r.rows records := by
  rw [Reply.records, mapM_eq_ok_iff]
  simp only [record_eq_ok_iff]

/-- **A cell of a reply cannot be read**, and all cells before it can, row by row. -/
def Unreadable (r : Reply) (e : Error) : Prop :=
  ∃ (front : List (List (Option Bytes))) (cells : List (Option Bytes))
    (rest : List (List (Option Bytes))) (records : List Record),
    r.rows = front ++ cells :: rest ∧ List.Forall₂ (IsRow r.columns) front records
      ∧ FirstFailure columnError (List.zipWith field r.columns cells) e

theorem records_eq_error_iff {r : Reply} {e : Error} : r.records = .error e ↔ r.Unreadable e := by
  have hrow (cells : List (Option Bytes)) : record r.columns cells = .error e
      ↔ FirstFailure columnError (List.zipWith field r.columns cells) e := by
    rw [record, map_eq_error_iff, decodeFrom_eq_collect, collect_eq_error_iff]
    simp only [Nat.zero_add]
  rw [Reply.records, mapM_eq_error_iff]
  simp only [mapM_eq_ok_iff, record_eq_ok_iff, hrow]
  rfl

end Reply

namespace Session

variable {s : Session} {statement : Statement} {e : Error}

/-- The reply that the next statement gets. -/
def reply (s : Session) : Reply := s.server.headD .exhausted

/-! ## How far a statement gets -/

/-- **A statement is prepared**: it can be sent, and the server accepts its text. -/
structure Prepares (s : Session) (statement : Statement) : Prop where
  /-- There is a connection to send it over. -/
  live : s.connection? = some .live
  /-- The text can be put into a message. -/
  sendable : hasNul statement.sql = false
  /-- The server does not refuse it and does not hang up. -/
  accepted : s.reply.obstacle? .prepare = none

/-- **A statement is executed** with values as they are written. -/
structure Executes (s : Session) (statement : Statement) (cells : List (Option Bytes)) : Prop
    extends Prepares s statement where
  /-- All values are written. -/
  writes : s.reply.Writes statement.params.values cells

/-- **A statement is answered** with the rows or the count of the reply. -/
def Answers (s : Session) (statement : Statement) : Prop :=
  ∃ cells, s.Executes statement cells ∧ s.reply.obstacle? .execute = none

/-- **The ways that a statement can fail** before it is answered, in the order in which they are
met. -/
inductive Fails (s : Session) (statement : Statement) : Error → Prop where
  /-- No connection is held. -/
  | notConnected (h : s.connection? = none) : Fails s statement .notConnected
  /-- The connection that is held is lost. -/
  | lost (h : s.connection? = some .lost) : Fails s statement .connectionClosed
  /-- The text cannot be put into a message. -/
  | unsendable (h : s.connection? = some .live) (hnul : hasNul statement.sql = true) :
    Fails s statement (.backend (.unsendable .unexpectedEnd))
  /-- The server does not prepare the statement. -/
  | prepare {e : Error} (h : s.connection? = some .live) (hnul : hasNul statement.sql = false)
    (hobstacle : s.reply.obstacle? .prepare = some e) : Fails s statement e
  /-- There are too few or too many values. -/
  | count (h : s.Prepares statement)
    (hcount : s.reply.parameterTypes.length ≠ statement.params.values.length) :
    Fails s statement (.backend
      (.parameterCount s.reply.parameterTypes.length statement.params.values.length))
  /-- A value cannot be written, and all before it can. -/
  | parameter {e : Error} (h : s.Prepares statement)
    (hcount : s.reply.parameterTypes.length = statement.params.values.length)
    (hvalue : FirstFailure Reply.parameterError (List.zipWith (fun ty v => Wire.encode v ty)
      s.reply.parameterTypes statement.params.values) e) : Fails s statement e
  /-- The server does not execute the statement. -/
  | execute {e : Error} {cells : List (Option Bytes)} (h : s.Executes statement cells)
    (hobstacle : s.reply.obstacle? .execute = some e) : Fails s statement e

/-! ### What comes of it -/

theorem request_of_sendable (h : s.connection? = some .live) (hnul : hasNul statement.sql = false) :
    s.request statement
      = ⟨(s.reply.exchange statement).2, s.afterReply (s.reply.exchange statement).2,
        [(s.reply.exchange statement).1], []⟩ := by
  rw [request, h]
  exact if_neg (Bool.eq_false_iff.mp hnul)

theorem Executes.exchange {cells : List (Option Bytes)} (h : s.Executes statement cells) :
    s.reply.exchange statement
      = (⟨statement.sql, some cells⟩,
        (s.reply.obstacle? .execute).elim (.ok s.reply) .error) := by
  rw [Reply.exchange, h.accepted]
  simp only
  rw [Reply.encodeParams_eq_ok_iff.mpr h.writes]
  cases s.reply.obstacle? .execute <;> rfl

/-- **A statement that fails gives the error of its failure.** -/
theorem result_request_of_fails (h : s.Fails statement e) :
    (s.request statement).result = .error e := by
  cases h with
  | notConnected h =>
    rw [request_of_none h]
    rfl
  | lost h =>
    rw [request_of_lost h]
    rfl
  | unsendable h hnul =>
    rw [request, h]
    simp only
    rw [if_pos hnul]
    rfl
  | prepare h hnul hobstacle =>
    rw [request_of_sendable h hnul, Reply.exchange, hobstacle]
  | count h hcount =>
    rw [request_of_sendable h.live h.sendable, Reply.exchange, h.accepted]
    simp only
    rw [Reply.encodeParams_eq_error_iff.mpr (.inl ⟨hcount, rfl⟩)]
  | parameter h hcount hvalue =>
    rw [request_of_sendable h.live h.sendable, Reply.exchange, h.accepted]
    simp only
    rw [Reply.encodeParams_eq_error_iff.mpr (.inr ⟨hcount, hvalue⟩)]
  | execute h hobstacle =>
    rw [request_of_sendable h.live h.sendable, h.exchange, hobstacle]
    rfl

theorem result_request_of_answers (h : s.Answers statement) :
    (s.request statement).result = .ok s.reply := by
  obtain ⟨cells, h, hopen⟩ := h
  rw [request_of_sendable h.live h.sendable, h.exchange, hopen]
  rfl

/-- **Every statement fails or is answered.** -/
theorem fails_or_answers (s : Session) (statement : Statement) :
    (∃ e, s.Fails statement e) ∨ s.Answers statement := by
  cases hconnection : s.connection? with
  | none => exact .inl ⟨_, .notConnected hconnection⟩
  | some connection =>
    cases connection with
    | lost => exact .inl ⟨_, .lost hconnection⟩
    | live =>
      cases hnul : hasNul statement.sql with
      | true => exact .inl ⟨_, .unsendable hconnection hnul⟩
      | false =>
        cases hprepare : s.reply.obstacle? .prepare with
        | some e => exact .inl ⟨e, .prepare hconnection hnul hprepare⟩
        | none =>
          have hprepares : s.Prepares statement := ⟨hconnection, hnul, hprepare⟩
          cases hparams : Reply.encodeParams s.reply.parameterTypes statement.params.values with
          | error e =>
            obtain ⟨hcount, -⟩ | ⟨hcount, hvalue⟩ := Reply.encodeParams_eq_error_iff.mp hparams
            · exact .inl ⟨_, .count hprepares hcount⟩
            · exact .inl ⟨_, .parameter hprepares hcount hvalue⟩
          | ok cells =>
            have hexecutes : s.Executes statement cells :=
              ⟨hprepares, Reply.encodeParams_eq_ok_iff.mp hparams⟩
            cases hexecute : s.reply.obstacle? .execute with
            | some e => exact .inl ⟨e, .execute hexecutes hexecute⟩
            | none => exact .inr ⟨cells, hexecutes, hexecute⟩

theorem result_request_eq_error_iff :
    (s.request statement).result = .error e ↔ s.Fails statement e := by
  refine ⟨fun h => ?_, result_request_of_fails⟩
  obtain ⟨e', hfails⟩ | hanswers := s.fails_or_answers statement
  · obtain rfl := Except.error.inj (h.symm.trans (result_request_of_fails hfails))
    exact hfails
  · cases h.symm.trans (result_request_of_answers hanswers)

theorem result_request_eq_ok_iff {r : Reply} :
    (s.request statement).result = .ok r ↔ s.Answers statement ∧ r = s.reply := by
  constructor
  · intro h
    obtain ⟨e, hfails⟩ | hanswers := s.fails_or_answers statement
    · cases h.symm.trans (result_request_of_fails hfails)
    · exact ⟨hanswers, Except.ok.inj (h.symm.trans (result_request_of_answers hanswers))⟩
  · rintro ⟨h, rfl⟩
    exact result_request_of_answers h

/-- **Values are sent if the statement is executed with them.** -/
theorem sent_request_eq_iff {cells : List (Option Bytes)} :
    (s.request statement).sent = [⟨statement.sql, some cells⟩] ↔ s.Executes statement cells := by
  constructor
  · intro h
    have hrequest := requested_request s statement
    generalize s.request statement = o at h hrequest
    cases hrequest with
    | notConnected | lost | unsendable => cases h
    | exchanged hlive hnul =>
      have hsent : (s.reply.exchange statement).1 = ⟨statement.sql, some cells⟩ :=
        (List.cons.inj h).1
      unfold Reply.exchange at hsent
      split at hsent
      · cases hsent
      · rename_i haccepted
        split at hsent
        · cases hsent
        · rename_i hparams
          obtain rfl := Option.some.inj (Sent.mk.inj hsent).2
          exact ⟨⟨hlive, hnul, haccepted⟩, Reply.encodeParams_eq_ok_iff.mp hparams⟩
  · intro h
    rw [request_of_sendable h.live h.sendable, h.exchange]

/-! ## Rows, counts and reports -/

theorem result_fetch (s : Session) (statement : Statement) :
    (s.fetch statement).result = (s.request statement).result >>= Reply.records := by
  rw [fetch, Outcome.result_after, Outcome.result_onFailure]
  rfl

theorem result_execute (s : Session) (statement : Statement) :
    (s.execute statement).result = Reply.affected <$> (s.request statement).result := by
  rw [execute, Outcome.result_after, Outcome.result_onFailure]
  rfl

theorem result_fetch_eq_ok_iff {records : List Record} :
    (s.fetch statement).result = .ok records
      ↔ s.Answers statement ∧ List.Forall₂ (Reply.IsRow s.reply.columns) s.reply.rows records := by
  rw [result_fetch, bind_eq_ok_iff, ← Reply.records_eq_ok_iff]
  constructor
  · rintro ⟨r, hr, hrecords⟩
    obtain ⟨hanswers, rfl⟩ := result_request_eq_ok_iff.mp hr
    exact ⟨hanswers, hrecords⟩
  · rintro ⟨hanswers, hrecords⟩
    exact ⟨s.reply, result_request_of_answers hanswers, hrecords⟩

theorem result_fetch_eq_error_iff :
    (s.fetch statement).result = .error e
      ↔ s.Fails statement e ∨ s.Answers statement ∧ s.reply.Unreadable e := by
  rw [result_fetch]
  constructor
  · intro h
    obtain ⟨e', hfails⟩ | hanswers := s.fails_or_answers statement
    · rw [result_request_of_fails hfails] at h
      obtain rfl := Except.error.inj h
      exact .inl hfails
    · rw [result_request_of_answers hanswers] at h
      exact .inr ⟨hanswers, Reply.records_eq_error_iff.mp h⟩
  · rintro (hfails | ⟨hanswers, hunreadable⟩)
    · rw [result_request_of_fails hfails]
      rfl
    · rw [result_request_of_answers hanswers]
      exact Reply.records_eq_error_iff.mpr hunreadable

theorem logs_request (s : Session) (statement : Statement) : (s.request statement).logs = [] := by
  have h := requested_request s statement
  generalize s.request statement = o at h
  cases h <;> rfl

end Session

/-! ## Reports of failures -/

/-- An event that says that a statement failed. -/
def LogEvent.isFailure (event : LogEvent) : Bool := event.message == "statement failed"

/-- Values are shown one by one. -/
theorem Value.inspectItems_eq_map (values : List Value) :
    inspectItems values = values.map inspect := by
  induction values with
  | nil => rfl
  | cons v values ih => rw [inspectItems, ih, List.map_cons]

/-- **An event is the report of a failed statement**: it holds the statement with all of its values
and the error, and what is read off it shows every one of them. -/
structure LogEvent.IsReport (event : LogEvent) (database : String) (statement : Statement)
    (e : Error) : Prop where
  /-- What happened. -/
  eq : event = .statementFailed database statement e
  /-- It is logged as an error. -/
  level_eq : event.level = .error
  /-- Its fields, that of the parameters with each of the values in order. -/
  fields_eq : event.fields
    = [("database", database), ("table", statement.table), ("sql", statement.sql),
      ("params", "[" ++ ", ".intercalate (statement.params.values.map Value.inspect) ++ "]"),
      ("error", e.message)]

theorem LogEvent.isReport_statementFailed (database : String) (statement : Statement) (e : Error) :
    (statementFailed database statement e).IsReport database statement e where
  eq := rfl
  level_eq := rfl
  fields_eq := by
    rw [← Value.inspectItems_eq_map]
    rfl

/-- **A failure is reported once**, with the statement, all of its values and the error; nothing is
reported of a success. -/
def Outcome.Reports {α : Type} (o : Outcome α) (database : String) (statement : Statement) : Prop :=
  match o.result with
  | .ok _ => o.logs.filter LogEvent.isFailure = []
  | .error e =>
    ∃ event, o.logs.filter LogEvent.isFailure = [event] ∧ event.IsReport database statement e

theorem Outcome.reports_onFailure {α : Type} {o : Outcome α} {events : List LogEvent}
    {database : String} {statement : Statement} (hlogs : o.logs = [])
    (hevents : events.filter LogEvent.isFailure = []) :
    ((o.onFailure (.statementFailed database statement)).after events).Reports database
    statement := by
  obtain ⟨result, session, sent, logs⟩ := o
  subst hlogs
  cases result with
  | ok a =>
    show (events ++ []).filter LogEvent.isFailure = []
    rw [List.append_nil, hevents]
  | error e =>
    refine ⟨_, ?_, LogEvent.isReport_statementFailed database statement e⟩
    show (events ++ [LogEvent.statementFailed database statement e]).filter LogEvent.isFailure = _
    rw [List.filter_append, hevents]
    rfl

namespace Session

/-- **A statement is all or nothing.** It is sent at most once. Values are sent with it exactly if
it is executed, and they are then the written ones. Records are handed on exactly if it is answered
and each cell of each row can be read; they are then the rows, in order, a field for each column. If
not, the result is the first failure. A failure is reported once, a success never, and the same
holds of statements that give a count. -/
theorem all_or_nothing (s : Session) (statement : Statement) :
    ((s.fetch statement).sent = []
        ∨ ∃ sent, (s.fetch statement).sent = [sent] ∧ sent.sql = statement.sql)
      ∧ (∀ cells, (s.fetch statement).sent = [⟨statement.sql, some cells⟩]
        ↔ s.Executes statement cells)
      ∧ ((∃ records, (s.fetch statement).result = .ok records)
        ↔ s.Answers statement ∧ ∀ cells ∈ s.reply.rows, ∀ place ∈ s.reply.columns.zip cells,
          ∃ v, Reply.IsCell place.1.2 place.2 v)
      ∧ (∀ records, (s.fetch statement).result = .ok records →
        List.Forall₂ (fun cells record => Reply.IsRow s.reply.columns cells record
          ∧ (cells.length = s.reply.columns.length → record.keys = s.reply.columns.map Prod.fst))
          s.reply.rows records)
      ∧ (∀ e, (s.fetch statement).result = .error e
        ↔ s.Fails statement e ∨ s.Answers statement ∧ s.reply.Unreadable e)
      ∧ (∀ e, (s.execute statement).result = .error e ↔ s.Fails statement e)
      ∧ (s.fetch statement).Reports s.database statement
      ∧ (s.execute statement).Reports s.database statement := by
  refine ⟨?_, ?_, ?_, ?_, ?_, ?_, ?_, ?_⟩
  · rw [sent_fetch]
    exact sent_request s statement
  · intro cells
    rw [sent_fetch]
    exact sent_request_eq_iff
  · simp only [result_fetch_eq_ok_iff, exists_and_left, ← Reply.exists_isRow_iff]
    refine and_congr_right fun _ => ⟨?_, exists_forall₂_of_forall⟩
    rintro ⟨records, hrecords⟩ cells hcells
    obtain ⟨record, -, hrecord⟩ := exists_of_forall₂_right hrecords.flip hcells
    exact ⟨record, hrecord⟩
  · intro records h
    refine (result_fetch_eq_ok_iff.mp h).2.imp fun cells record hrecord =>
      ⟨hrecord, fun hcells => ?_⟩
    exact Record.keys_of_row hcells (Reply.record_eq_ok_iff.mpr hrecord)
  · exact fun e => result_fetch_eq_error_iff
  · intro e
    rw [result_execute, map_eq_error_iff]
    exact result_request_eq_error_iff
  · exact Outcome.reports_onFailure (logs_request s statement) rfl
  · exact Outcome.reports_onFailure (logs_request s statement) rfl

/-- A server that prepares a statement with three parameters and then refuses it. -/
def conflicting : Session :=
  ⟨.ofUrl "", some .live, [⟨[.builtin .int8, .builtin .text, .builtin .date], [], [], "",
    some ⟨.execute, "23505", "duplicate key"⟩, none⟩]⟩

/-- A statement with three values. -/
def joining : Statement :=
  ⟨"members", "INSERT INTO members (id, name, since) VALUES ($1, $2, $3)",
    ⟨[.int 7, .text "Ada", .null]⟩⟩

/-- The one report of a statement that is refused. -/
theorem all_or_nothing_refused : ∃ event,
    (conflicting.fetch joining).logs.filter LogEvent.isFailure = [event]
      ∧ event = .statementFailed "default" joining (.backend (.refused "23505" "duplicate key"))
      ∧ event.level = .error
      ∧ event.fields = [("database", "default"), ("table", "members"),
        ("sql", "INSERT INTO members (id, name, since) VALUES ($1, $2, $3)"),
        ("params", "[Int(7), Text(\"Ada\"), Null]"),
        ("error", "Backend error: db error")] := by
  have hresult : (conflicting.fetch joining).result
      = .error (.backend (.refused "23505" "duplicate key")) := rfl
  have hreports := (all_or_nothing conflicting joining).2.2.2.2.2.2.1
  rw [Outcome.Reports, hresult] at hreports
  obtain ⟨event, hevents, hreport⟩ := hreports
  refine ⟨event, hevents, hreport.eq, hreport.level_eq, hreport.fields_eq.trans ?_⟩
  decide

end Session

end PgStatement
