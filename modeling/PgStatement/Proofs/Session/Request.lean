import PgStatement.Proofs.Result
import PgStatement.Session.Basic

/-!
# What becomes of a statement

A statement comes to nothing without a connection, on a lost one, and if its text cannot be put into
a message; else it is exchanged for the next reply of the server. These four ways are all that there
is to know of a request (`Session.Requested`), and what holds of statements is shown for each of
them. Only in the last way anything is sent, and it is this statement and nothing else.

The connection is lost on the way exactly if the server hangs up at the stage that the statement has
come to (`Reply.result_exchange_closed_iff`). No other failure looks like that.
-/

namespace PgStatement

/-- The stage that a statement has come to. -/
def Sent.stage (sent : Sent) : Stage := if sent.params?.isSome then .execute else .prepare

namespace Reply

variable {r : Reply} {statement : Statement} {stage : Stage} {e : Error}

/-- The server receives the text of the statement. -/
theorem sql_exchange (r : Reply) (statement : Statement) :
    (r.exchange statement).1.sql = statement.sql := by
  unfold exchange
  split
  · rfl
  · split <;> rfl

/-! ## How a connection is lost -/

theorem obstacle?_eq_closed_iff :
    r.obstacle? stage = some .connectionClosed ↔ r.hangUp? = some stage := by
  unfold obstacle?
  split
  · rename_i h
    exact ⟨fun _ => h, fun _ => rfl⟩
  · rename_i h
    refine ⟨fun hobstacle => ?_, fun hhangUp => absurd hhangUp h⟩
    split at hobstacle
    · split at hobstacle <;> cases hobstacle
    · cases hobstacle

/-- Values that cannot be written leave the connection alone. -/
theorem kind_of_encodeFrom {index : Nat} {types : List Wire.WireType} {values : List Value}
    (h : encodeFrom index types values = .error e) : e.kind = .backend := by
  fun_induction encodeFrom index types values with
  | case1 =>
    obtain rfl := Except.error.inj h
    rfl
  | case2 index ty types v values cell hcell ih => exact ih (map_eq_error_iff.mp h)
  | case3 => cases h

theorem kind_of_encodeParams {types : List Wire.WireType} {values : List Value}
    (h : encodeParams types values = .error e) : e.kind = .backend := by
  unfold encodeParams at h
  split at h
  · exact kind_of_encodeFrom h
  · obtain rfl := Except.error.inj h
    rfl

/-- **A connection is lost if the server hangs up** at the stage that the statement has come to. -/
theorem result_exchange_closed_iff (r : Reply) (statement : Statement) :
    (r.exchange statement).2 = .error .connectionClosed
      ↔ r.hangUp? = some (r.exchange statement).1.stage := by
  unfold exchange
  split
  · rename_i e hprepare
    rw [Except.error.injEq, ← Option.some.injEq, ← hprepare]
    exact obstacle?_eq_closed_iff
  · rename_i hprepare
    have hopen : r.hangUp? ≠ some .prepare := by
      rw [ne_eq, ← obstacle?_eq_closed_iff, hprepare]
      nofun
    split
    · rename_i e hparams
      refine ⟨fun he => ?_, fun hhangUp => absurd hhangUp hopen⟩
      obtain rfl := Except.error.inj he
      cases kind_of_encodeParams hparams
    · show _ ↔ r.hangUp? = some .execute
      rw [← obstacle?_eq_closed_iff]
      split
      · rename_i e hexecute
        rw [hexecute, Except.error.injEq, Option.some.injEq]
      · rename_i hexecute
        rw [hexecute]
        exact ⟨nofun, nofun⟩

/-- **All other failures of a statement are reported by the backend.** -/
theorem kind_of_exchange (h : (r.exchange statement).2 = .error e) :
    e = .connectionClosed ∨ e.kind = .backend := by
  have hobstacle {stage : Stage} (h : r.obstacle? stage = some e) :
      e = .connectionClosed ∨ e.kind = .backend := by
    unfold obstacle? at h
    split at h
    · exact .inl (Option.some.inj h).symm
    · split at h
      · split at h
        · obtain rfl := Option.some.inj h
          exact .inr rfl
        · cases h
      · cases h
  unfold exchange at h
  split at h
  · rename_i hprepare
    obtain rfl := Except.error.inj h
    exact hobstacle hprepare
  · split at h
    · rename_i hparams
      obtain rfl := Except.error.inj h
      exact .inr (kind_of_encodeParams hparams)
    · simp only at h
      split at h
      · rename_i hexecute
        obtain rfl := Except.error.inj h
        exact hobstacle hexecute
      · cases h

/-- Cells that cannot be read leave the connection alone. -/
theorem kind_of_decodeFrom {index : Nat} {columns : List (String × Wire.WireType)}
    {cells : List (Option Bytes)} (h : decodeFrom index columns cells = .error e) :
    e.kind = .backend := by
  fun_induction decodeFrom index columns cells with
  | case1 =>
    obtain rfl := Except.error.inj h
    rfl
  | case2 index name ty columns cell cells v hcell ih => exact ih (map_eq_error_iff.mp h)
  | case3 => cases h

theorem kind_of_records (h : r.records = .error e) : e.kind = .backend := by
  obtain ⟨cells, -, hcells⟩ := exists_of_mapM_eq_error h
  exact kind_of_decodeFrom (map_eq_error_iff.mp hcells)

end Reply

namespace Session

variable {s : Session} {statement : Statement}

/-- **The ways that a request can go.** -/
inductive Requested (s : Session) (statement : Statement) : Outcome Reply → Prop where
  /-- No connection is held. -/
  | notConnected (h : s.connection? = none) :
    Requested s statement (.quiet (.error .notConnected) s)
  /-- The connection that is held is lost. -/
  | lost (h : s.connection? = some .lost) :
    Requested s statement (.quiet (.error .connectionClosed) s)
  /-- The text cannot be put into a message. -/
  | unsendable (h : s.connection? = some .live) (hnul : hasNul statement.sql = true) :
    Requested s statement (.quiet (.error (.backend (.unsendable .unexpectedEnd))) s)
  /-- The statement is exchanged for the next reply. -/
  | exchanged (h : s.connection? = some .live) (hnul : hasNul statement.sql = false) :
    Requested s statement
      ⟨((s.server.headD .exhausted).exchange statement).2,
        s.afterReply ((s.server.headD .exhausted).exchange statement).2,
        [((s.server.headD .exhausted).exchange statement).1], []⟩

theorem requested_request (s : Session) (statement : Statement) :
    s.Requested statement (s.request statement) := by
  unfold request
  split
  · rename_i h
    exact .notConnected h
  · rename_i h
    exact .lost h
  · rename_i h
    split
    · rename_i hnul
      exact .unsendable h hnul
    · rename_i hnul
      exact .exchanged h (Bool.not_eq_true _ ▸ hnul)

/-- **A request sends its statement or nothing.** -/
theorem sent_request (s : Session) (statement : Statement) :
    (s.request statement).sent = []
      ∨ ∃ sent, (s.request statement).sent = [sent] ∧ sent.sql = statement.sql := by
  have h := requested_request s statement
  generalize s.request statement = o at h
  cases h with
  | notConnected | lost | unsendable => exact .inl rfl
  | exchanged => exact .inr ⟨_, rfl, Reply.sql_exchange _ _⟩

/-! ## Rows and counts

Whether rows or a count are asked for makes no difference to the server and to the connection. -/

theorem sent_fetch (s : Session) (statement : Statement) :
    (s.fetch statement).sent = (s.request statement).sent := by
  rw [fetch, Outcome.sent_after, Outcome.sent_onFailure, Outcome.sent_bindResult]

theorem sent_execute (s : Session) (statement : Statement) :
    (s.execute statement).sent = (s.request statement).sent := by
  rw [execute, Outcome.sent_after, Outcome.sent_onFailure, Outcome.sent_map]

theorem session_fetch (s : Session) (statement : Statement) :
    (s.fetch statement).session = (s.request statement).session := by
  rw [fetch, Outcome.session_after, Outcome.session_onFailure, Outcome.session_bindResult]

theorem session_execute (s : Session) (statement : Statement) :
    (s.execute statement).session = (s.request statement).session := by
  rw [execute, Outcome.session_after, Outcome.session_onFailure, Outcome.session_map]

/-! ## Requests without a connection -/

theorem request_of_none (h : s.connection? = none) (statement : Statement) :
    s.request statement = .quiet (.error .notConnected) s := by
  rw [request, h]

theorem request_of_lost (h : s.connection? = some .lost) (statement : Statement) :
    s.request statement = .quiet (.error .connectionClosed) s := by
  rw [request, h]

/-! ## Requests over a live connection -/

/-- A request is not sent only if its text cannot be put into a message. -/
theorem sql_request (h : s.connection? = some .live) (statement : Statement) :
    (s.request statement).sent.map Sent.sql
      = if hasNul statement.sql then [] else [statement.sql] := by
  have hrequest := requested_request s statement
  generalize s.request statement = o at hrequest
  cases hrequest with
  | notConnected hnone | lost hnone =>
    rw [h] at hnone
    cases hnone
  | unsendable _ hnul =>
    rw [if_pos hnul]
    rfl
  | exchanged _ hnul =>
    rw [if_neg (Bool.eq_false_iff.mp hnul)]
    exact congrArg (· :: []) (Reply.sql_exchange _ _)

/-- The connection is live after every result but one. -/
theorem connection_afterReply {α : Type} (s : Session) {result : Except Error α}
    (h : result ≠ .error .connectionClosed) :
    (s.afterReply result).connection? = some .live := by
  cases result with
  | ok _ => rfl
  | error e =>
    cases e with
    | connectionClosed => exact absurd rfl h
    | _ => rfl

/-- **A live connection is lost exactly if the server hangs up** at the stage that the statement has
come to; the result says so, and the connection stays live with every other result. -/
theorem connection_request (h : s.connection? = some .live) (statement : Statement) :
    ((s.request statement).result ≠ .error .notConnected)
      ∧ ((s.request statement).result = .error .connectionClosed
        ↔ ∃ sent, (s.request statement).sent = [sent]
          ∧ (s.server.headD .exhausted).hangUp? = some sent.stage)
      ∧ ((s.request statement).result = .error .connectionClosed →
        (s.request statement).session.connection? = some .lost)
      ∧ ((s.request statement).result ≠ .error .connectionClosed →
        (s.request statement).session.connection? = some .live) := by
  have hrequest := requested_request s statement
  generalize s.request statement = o at hrequest
  cases hrequest with
  | notConnected hnone | lost hnone =>
    rw [h] at hnone
    cases hnone
  | unsendable _ _ => exact ⟨nofun, iff_of_false nofun nofun, nofun, fun _ => h⟩
  | exchanged _ _ =>
    refine ⟨fun hresult => ?_, ?_, fun hclosed => ?_, connection_afterReply s⟩
    · rcases Reply.kind_of_exchange hresult with h | h <;> cases h
    · rw [Reply.result_exchange_closed_iff]
      constructor
      · exact fun hhangUp => ⟨_, rfl, hhangUp⟩
      · rintro ⟨sent, hsent, hhangUp⟩
        obtain rfl := (List.cons.inj hsent).1
        exact hhangUp
    · have hresult : ((s.server.headD .exhausted).exchange statement).2
          = .error .connectionClosed := hclosed
      rw [hresult]
      rfl

end Session

end PgStatement
