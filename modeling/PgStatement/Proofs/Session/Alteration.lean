import PgStatement.Proofs.AlterSections
import PgStatement.Proofs.Session.Request
import PgStatement.Session.Run

/-!
# Alterations run in order

An alteration is as many statements as it has operations. All of them are written before the first
is sent, so that an alteration with something wrong in it sends nothing at all
(`AlterTable.statements_eq_ok_iff`). Then they are sent one by one, up to the first one that fails
(`Session.RunsInOrder`), and what was done before is not undone: the log says how many operations
were applied, and out of how many.

A statement fails at the server, with its reply, or before it has come there: a text that cannot be
put into a message is refused on this side of the connection, and the server never sees it
(`Session.alter_unsendable`).
-/

namespace PgStatement

/-! ## Writing all statements -/

namespace AlterTable

/-- The statement of an operation, if it can be written. -/
def IsStatement (name : String) (operation : AlterOperation) (text : String) : Prop :=
  ∃ sql, operation.sql = .ok sql ∧ text = "ALTER TABLE " ++ name ++ " " ++ sql

/-- **All statements are written, or none**: the table must be an identifier, there must be
something to do, and every operation must be written. -/
theorem statements_eq_ok_iff {t : AlterTable} {texts : List String} :
    t.statements = .ok texts ↔ IsIdentifier t.name ∧ t.operations ≠ []
      ∧ List.Forall₂ (IsStatement t.name) t.operations texts := by
  have hstatement (operation : AlterOperation) (text : String) :
      (do return "ALTER TABLE " ++ t.name ++ " " ++ (← operation.sql)) = Except.ok text
        ↔ IsStatement t.name operation text := by
    rw [bind_eq_ok_iff]
    exact exists_congr fun sql => and_congr_right fun _ => ⟨fun h => (Except.ok.inj h).symm,
      fun h => congrArg Except.ok h.symm⟩
  rw [statements, bind_eq_ok_iff]
  constructor
  · rintro ⟨_, hname, h⟩
    simp only at h
    split at h
    · cases h
    · rename_i hsome
      refine ⟨Identifier.check_eq_ok_iff.mp hname,
        fun hnil => hsome (List.isEmpty_iff.mpr hnil), ?_⟩
      exact (mapM_eq_ok_iff.mp h).imp fun operation text => (hstatement operation text).mp
  · rintro ⟨hname, hne, hstatements⟩
    refine ⟨(), Identifier.check_eq_ok_iff.mpr hname, ?_⟩
    simp only
    rw [if_neg fun hnil => hne (List.isEmpty_iff.mp hnil)]
    exact mapM_eq_ok_iff.mpr (hstatements.imp fun operation text => (hstatement operation text).mpr)

/-- **What keeps an alteration from being written**: a section that is not accepted, a table that is
no identifier, nothing to do, or an operation that cannot be written. -/
def IsRefused (name : String) (sections : List Section) : Prop :=
  (∃ part ∈ sections, ¬ part.IsAccepted) ∨ ¬ IsIdentifier name
    ∨ sections.flatMap Section.operations = []
    ∨ ∃ operation ∈ sections.flatMap Section.operations, ∀ sql, operation.sql ≠ .ok sql

/-- Nothing else keeps it from being written. -/
theorem not_isRefused_iff {name : String} {sections : List Section} :
    ¬ IsRefused name sections ↔ (∀ part ∈ sections, part.IsAccepted)
      ∧ ∃ texts, statements ⟨name, sections.flatMap Section.operations⟩ = .ok texts := by
  rw [IsRefused]
  push Not
  refine and_congr_right fun _ => ⟨?_, ?_⟩
  · rintro ⟨hname, hne, hsqls⟩
    obtain ⟨texts, htexts⟩ : ∃ texts,
        List.Forall₂ (IsStatement name) (sections.flatMap Section.operations) texts := by
      refine exists_forall₂_of_forall fun operation hoperation => ?_
      obtain ⟨sql, hsql⟩ := hsqls operation hoperation
      exact ⟨_, sql, hsql, rfl⟩
    exact ⟨texts, statements_eq_ok_iff.mpr ⟨hname, hne, htexts⟩⟩
  · rintro ⟨texts, htexts⟩
    obtain ⟨hname, hne, hstatements⟩ := statements_eq_ok_iff.mp htexts
    refine ⟨hname, hne, fun operation hoperation => ?_⟩
    obtain ⟨_, -, sql, hsql, -⟩ := exists_of_forall₂_right hstatements.flip hoperation
    exact ⟨sql, hsql⟩

end AlterTable

namespace Session

variable {s : Session} {statement : Statement} {e : Error} {table text : String}
  {texts : List String} {applied total : Nat}

/-- What a statement comes to over a live connection: what the reply makes of it, if its text can be
put into a message at all. -/
def answer (r : Reply) (statement : Statement) : Except Error Unit :=
  if hasNul statement.sql then .error (.backend (.unsendable .unexpectedEnd))
  else (fun _ => ()) <$> (r.exchange statement).2

/-- **Statements are run in order**, each of them against the next reply of the server, up to the
first one that fails. If all pass, the run succeeds and all of them were sent. Else its result is
the failure, and sent were those that passed and the one that failed, but for one that could not be
put into a message. Every statement is logged before it is tried, and the failure behind it, with
the number of operations that were applied, so many of them before this run, and the number of all
of them. -/
def RunsInOrder (s : Session) (table : String) (applied total : Nat) (texts : List String)
    (o : Outcome Unit) : Prop :=
  ∃ passed ≤ texts.length,
    (∀ i text, i < passed → texts[i]? = some text →
      answer (s.server.getD i .exhausted) (.ofText table text) = .ok ())
    ∧ ((passed = texts.length ∧ o.result = .ok () ∧ o.sent.map Sent.sql = texts
        ∧ o.logs = texts.map fun text => .execute s.database (.ofText table text))
      ∨ ∃ text e, texts[passed]? = some text
        ∧ answer (s.server.getD passed .exhausted) (.ofText table text) = .error e
        ∧ o.result = .error e
        ∧ o.sent.map Sent.sql = texts.take (if hasNul text then passed else passed + 1)
        ∧ o.logs = (texts.take (passed + 1)).map (fun text =>
            .execute s.database (.ofText table text))
          ++ [.statementFailed s.database (.ofText table text) e,
            .alterStopped table (applied + passed) total])

/-! ## One statement -/

/-- **A statement over a live connection** comes to what the next reply makes of it. -/
theorem execute_of_live (h : s.connection? = some .live) (statement : Statement) :
    (∃ e, answer (s.server.headD .exhausted) statement = .error e
        ∧ (s.execute statement).result = .error e
        ∧ (s.execute statement).logs
          = [.execute s.database statement, .statementFailed s.database statement e])
      ∨ (answer (s.server.headD .exhausted) statement = .ok ()
        ∧ (∃ count, (s.execute statement).result = .ok count)
        ∧ (s.execute statement).session
          = { s with connection? := some .live, server := s.server.tail }
        ∧ (s.execute statement).logs = [.execute s.database statement]) := by
  have hrequest := requested_request s statement
  rw [execute]
  generalize s.request statement = o at hrequest
  cases hrequest with
  | notConnected hnone | lost hnone =>
    rw [h] at hnone
    cases hnone
  | unsendable _ hnul =>
    refine .inl ⟨_, ?_, rfl, rfl⟩
    rw [answer, if_pos hnul]
  | exchanged _ hnul =>
    rw [answer, if_neg (Bool.eq_false_iff.mp hnul)]
    cases (s.server.headD .exhausted).exchange statement with
    | mk sent result =>
      cases result with
      | error e => exact .inl ⟨e, rfl, rfl, rfl⟩
      | ok r => exact .inr ⟨rfl, ⟨_, rfl⟩, rfl, rfl⟩

theorem hasNul_of_answer {r : Reply} (h : answer r statement = .ok ()) :
    hasNul statement.sql = false := by
  unfold answer at h
  split at h
  · cases h
  · rename_i hnul
    exact Bool.eq_false_iff.mpr hnul

/-! ## All statements -/

theorem runsInOrder_nil (s : Session) (table : String) (applied total : Nat) :
    s.RunsInOrder table applied total [] (.quiet (.ok ()) s) :=
  ⟨0, Nat.le_refl 0, nofun, .inl ⟨rfl, rfl, rfl, rfl⟩⟩

/-- Statements of which the first one fails. -/
theorem runsInOrder_stop (h : s.connection? = some .live) (texts : List String)
    (hanswer : answer (s.server.headD .exhausted) (.ofText table text) = .error e)
    {o : Outcome Unit}
    (hresult : o.result = .error e) (hsent : o.sent = (s.request (.ofText table text)).sent)
    (hlogs : o.logs = [.execute s.database (.ofText table text),
      .statementFailed s.database (.ofText table text) e, .alterStopped table applied total]) :
    s.RunsInOrder table applied total (text :: texts) o := by
  refine ⟨0, Nat.zero_le _, nofun, .inr ⟨text, e, rfl, ?_, hresult, ?_, hlogs⟩⟩
  · rw [← List.headD_eq_getD]
    exact hanswer
  · rw [hsent, sql_request h]
    show (if hasNul text then [] else [text]) = _
    split <;> rfl

/-- Statements of which the first one passes. -/
theorem RunsInOrder.cons
    (hanswer : answer (s.server.headD .exhausted) (.ofText table text) = .ok ()) {o : Outcome Unit}
    {sent : List Sent} (hsent : sent.map Sent.sql = [text])
    (h : RunsInOrder { s with connection? := some .live, server := s.server.tail } table
      (applied + 1) total texts o) :
    s.RunsInOrder table applied total (text :: texts)
      { o with
        sent := sent ++ o.sent
        logs := [.execute s.database (.ofText table text)] ++ o.logs } := by
  obtain ⟨passed, hpassed, hbefore, hrest⟩ := h
  have hreply (i : Nat) : s.server.tail.getD i .exhausted = s.server.getD (i + 1) .exhausted := by
    cases s.server <;> rfl
  refine ⟨passed + 1, Nat.succ_le_succ hpassed, fun i other hi hother => ?_, ?_⟩
  · cases i with
    | zero =>
      obtain rfl : text = other := Option.some.inj hother
      rw [← List.headD_eq_getD]
      exact hanswer
    | succ i =>
      rw [← hreply]
      exact hbefore i other (Nat.lt_of_succ_lt_succ hi) hother
  · rcases hrest with ⟨rfl, hresult, hall, hlogs⟩
      | ⟨other, e, hother, hfails, hresult, hsome, hlogs⟩
    · refine .inl ⟨rfl, hresult, ?_, ?_⟩
      · rw [List.map_append, hsent, hall]
        rfl
      · rw [hlogs]
        rfl
    · refine .inr ⟨other, e, hother, ?_, hresult, ?_, ?_⟩
      · rw [← hreply]
        exact hfails
      · rw [List.map_append, hsent, hsome]
        split <;> rfl
      · rw [hlogs, Nat.add_right_comm, Nat.add_assoc applied]
        rfl

/-- **The statements of an alteration are run in order.** -/
theorem applyFrom_of_live (h : s.connection? = some .live) (table : String) (total applied : Nat)
    (texts : List String) :
    s.RunsInOrder table applied total texts (applyFrom table total applied texts s) := by
  -- a statement that passes leaves the connection live and the server with one reply less
  induction texts generalizing s applied with
  | nil => exact runsInOrder_nil s table applied total
  | cons text texts ih =>
    rw [applyFrom]
    rcases execute_of_live h (.ofText table text) with
      ⟨e, hanswer, hresult, hlogs⟩ | ⟨hanswer, ⟨count, hresult⟩, hsession, hlogs⟩
    · simp only [hresult]
      exact runsInOrder_stop h texts hanswer rfl (sent_execute _ _) (by rw [hlogs]; rfl)
    · simp only [hresult, hsession, hlogs]
      refine .cons hanswer ?_ (ih rfl (applied + 1))
      rw [sent_execute, sql_request h, if_neg (Bool.eq_false_iff.mp (hasNul_of_answer hanswer))]
      rfl

/-- Without a live connection, the first statement fails and none is sent. -/
theorem applyFrom_of_request (hrequest : s.request (.ofText table text) = .quiet (.error e) s)
    (texts : List String) (applied total : Nat) :
    (applyFrom table total applied (text :: texts) s).result = .error e
      ∧ (applyFrom table total applied (text :: texts) s).sent = [] := by
  rw [applyFrom, execute, hrequest]
  exact ⟨rfl, rfl⟩

/-! ## Alterations -/

open AlterTable (Section IsRefused IsStatement)

variable {name : String} {phase : AlterTable.Phase} {calls : AlterTable.Chain .table phase}

/-- **The run of an alteration** that is put together call by call. What fails while it is put
together ends it. -/
def alter (s : Session) (name : String) {phase : AlterTable.Phase}
    (calls : AlterTable.Chain .table phase) : Outcome Unit :=
  s.runBuilt (calls.table name) s.alterTable

theorem alter_of_statements {t : AlterTable} (htable : calls.table name = .ok t)
    {texts : List String} (htexts : t.statements = .ok texts) (s : Session) :
    s.alter name calls = applyFrom t.name texts.length 0 texts s := by
  rw [alter, htable, runBuilt, alterTable, htexts, runBuilt]

/-- **An alteration that is not written is not run.** -/
theorem alter_of_not_written (h : ∀ t texts, calls.table name = .ok t → t.statements ≠ .ok texts) :
    ∃ e, ∀ s : Session, s.alter name calls = .quiet (.error e) s := by
  cases htable : calls.table name with
  | error e => exact ⟨e, fun s => by rw [alter, htable, runBuilt]⟩
  | ok t =>
    cases htexts : t.statements with
    | error e => exact ⟨e, fun s => by rw [alter, htable, runBuilt, alterTable, htexts, runBuilt]⟩
    | ok texts => exact absurd htexts (h t texts htable)

/-- **Alterations are run in order, all or up to the first failure.** Every chain of calls is a
chain of sections, and what it records is the operations of the sections, in order. If it is
refused, nothing is sent, whatever the session is. Else there is a statement for each operation, and
over a live connection these are run in order: all of them with success, or those before the first
that fails and this one, with its failure as the result and the number of those before it in the
log. Over a connection that is lost, and without one, nothing is sent. -/
theorem alter_in_order (name : String) {phase : AlterTable.Phase}
    (calls : AlterTable.Chain .table phase) :
    (∃ sections, calls.closed = .ofSections sections)
      ∧ ∀ sections, calls.closed = .ofSections sections →
        (∀ t, calls.table name = .ok t ↔ (∀ part ∈ sections, part.IsAccepted)
          ∧ t = ⟨name, sections.flatMap Section.operations⟩)
        ∧ (IsRefused name sections → ∃ e, ∀ s : Session, s.alter name calls = .quiet (.error e) s)
        ∧ (¬ IsRefused name sections → ∃ texts,
          List.Forall₂ (IsStatement name) (sections.flatMap Section.operations) texts
          ∧ ∀ s : Session,
            (s.connection? = some .live →
              s.RunsInOrder name 0 texts.length texts (s.alter name calls))
            ∧ (s.connection? = some .lost → (s.alter name calls).result = .error .connectionClosed
              ∧ (s.alter name calls).sent = [])
            ∧ (s.connection? = none → (s.alter name calls).result = .error .notConnected
              ∧ (s.alter name calls).sent = [])) := by
  refine ⟨calls.exists_sections, fun sections hsections => ?_⟩
  have htable (t : AlterTable) : calls.table name = .ok t
      ↔ (∀ part ∈ sections, part.IsAccepted) ∧ t = ⟨name, sections.flatMap Section.operations⟩ :=
    AlterTable.Chain.table_eq_ok_iff hsections
  refine ⟨htable, fun hrefused => ?_, fun hwritten => ?_⟩
  · refine alter_of_not_written fun t texts ht htexts => ?_
    obtain ⟨haccepted, rfl⟩ := (htable t).mp ht
    exact AlterTable.not_isRefused_iff.mpr ⟨haccepted, texts, htexts⟩ hrefused
  · obtain ⟨haccepted, texts, htexts⟩ := AlterTable.not_isRefused_iff.mp hwritten
    obtain ⟨-, hne, hstatements⟩ := AlterTable.statements_eq_ok_iff.mp htexts
    refine ⟨texts, hstatements, fun s => ?_⟩
    rw [alter_of_statements ((htable _).mpr ⟨haccepted, rfl⟩) htexts s]
    -- there is a first statement, and it is all that is tried without a live connection
    obtain ⟨text, rest, rfl⟩ : ∃ text rest, texts = text :: rest := by
      refine List.exists_cons_of_ne_nil fun hnil => hne ?_
      rw [hnil] at hstatements
      exact List.forall₂_nil_right_iff.mp hstatements
    exact ⟨fun h => applyFrom_of_live h name _ 0 _,
      fun h => applyFrom_of_request (request_of_lost h _) rest 0 _,
      fun h => applyFrom_of_request (request_of_none h _) rest 0 _⟩

/-- A new column, and two changes of another one. -/
def nickname : AlterTable.Chain .table .table :=
  ((((((AlterTable.Chain.nil.snoc (.addColumn "nickname")).snoc
    (.define (.sqlType "varchar(50)"))).snoc .columnDone).snoc (.modifyColumn "age")).snoc
      (.change .setNotNull)).snoc (.change .dropDefault)).snoc .changeDone

/-- A session with a server that accepts one alteration and refuses the next. -/
def refusing : Session :=
  ⟨.ofUrl "postgres://localhost/shop", some .live,
    [⟨[], [], [], "ALTER TABLE", none, none⟩,
      ⟨[], [], [], "", some ⟨.execute, "23502", "column contains null values"⟩, none⟩]⟩

theorem alter_in_order_nickname :
    RunsInOrder refusing "users" 0 3
        ["ALTER TABLE users ADD COLUMN nickname VARCHAR(50)",
          "ALTER TABLE users ALTER COLUMN age SET NOT NULL",
          "ALTER TABLE users ALTER COLUMN age DROP DEFAULT"] (alter refusing "users" nickname)
      ∧ (alter refusing "users" nickname).result
        = .error (.backend (.refused "23502" "column contains null values")) := by
  obtain ⟨htable, -, hrun⟩ := (alter_in_order "users" nickname).2
    [.newColumn "nickname" [.sqlType "varchar(50)"], .changes "age" [.setNotNull, .dropDefault]] rfl
  have hchain : nickname.table "users" = .ok ⟨"users", [.addColumn ⟨"nickname",
      some "VARCHAR(50)", []⟩, .setNotNull "age", .dropDefault "age"]⟩ := by
    simp only [AlterTable.Chain.table, AlterTable.Chain.run, nickname]
    rfl
  have htexts : AlterTable.statements ⟨"users", [.addColumn ⟨"nickname", some "VARCHAR(50)", []⟩,
      .setNotNull "age", .dropDefault "age"]⟩ = .ok
        ["ALTER TABLE users ADD COLUMN nickname VARCHAR(50)",
          "ALTER TABLE users ALTER COLUMN age SET NOT NULL",
          "ALTER TABLE users ALTER COLUMN age DROP DEFAULT"] := rfl
  obtain ⟨texts, hstatements, hsession⟩ := hrun <| AlterTable.not_isRefused_iff.mpr
    ⟨((htable _).mp hchain).1, _, htexts⟩
  obtain ⟨hname, hne, -⟩ := AlterTable.statements_eq_ok_iff.mp htexts
  have hsame := AlterTable.statements_eq_ok_iff.mpr ⟨hname, hne, hstatements⟩
  obtain rfl := Except.ok.inj (htexts.symm.trans hsame)
  refine ⟨(hsession refusing).1 rfl, ?_⟩
  rw [alter_of_statements hchain htexts]
  rfl

/-- A constraint that cannot be put into a message, between two operations that can. -/
def unsendable : AlterTable.Chain .table .table :=
  ((AlterTable.Chain.nil.snoc (.dropColumn "a" false)).snoc
    (.addConstraint "c" "check" "(b <> '\x00')")).snoc (.dropColumn "d" false)

/-- A session with a server that accepts three alterations. -/
def accepting : Session :=
  ⟨.ofUrl "postgres://localhost/shop", some .live,
    List.replicate 3 ⟨[], [], [], "ALTER TABLE", none, none⟩⟩

/-- **An alteration may fail although the server fails none of its statements**, and then the
statement that fails is not sent. -/
theorem alter_unsendable :
    ∃ texts, (unsendable.table "users" >>= AlterTable.statements) = .ok texts ∧ texts.length = 3
      ∧ (∀ i text, texts[i]? = some text →
        ∃ r, ((accepting.server.getD i .exhausted).exchange (.ofText "users" text)).2 = .ok r)
      ∧ (alter accepting "users" unsendable).result
        = .error (.backend (.unsendable .unexpectedEnd))
      ∧ (alter accepting "users" unsendable).sent.map Sent.sql = texts.take 1 := by
  have hchain : unsendable.table "users" = .ok ⟨"users", [.dropColumn "a" false,
      .addConstraint "c" "check" "(b <> '\x00')", .dropColumn "d" false]⟩ := by
    simp only [AlterTable.Chain.table, AlterTable.Chain.run, unsendable]
    rfl
  have htexts : AlterTable.statements ⟨"users", [.dropColumn "a" false,
      .addConstraint "c" "check" "(b <> '\x00')", .dropColumn "d" false]⟩
      = .ok ["ALTER TABLE users DROP COLUMN a",
        "ALTER TABLE users ADD CONSTRAINT c CHECK (b <> '\x00')",
        "ALTER TABLE users DROP COLUMN d"] := rfl
  rw [hchain, alter_of_statements hchain htexts]
  refine ⟨_, htexts, rfl, ?_, rfl, rfl⟩
  rintro (_ | _ | _ | i) text htext
  · exact ⟨_, rfl⟩
  · exact ⟨_, rfl⟩
  · exact ⟨_, rfl⟩
  · cases htext

end Session

end PgStatement
