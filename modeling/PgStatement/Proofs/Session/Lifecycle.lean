import Mathlib.Data.List.Induction
import PgStatement.Proofs.Session.Request

/-!
# The life of a session

Two things happen to the connection of a session: calls connect it, disconnect it and send
statements over it, and the server hangs up, at any time. What holds after every run of such events
(`Session.lifecycle`) is read off the connection alone, which has three states and not two: a
session that the server has hung up on goes on holding what is left of its connection, and is
connected in its own eyes until it is disconnected.

Only connecting and disconnecting change whether a connection is held (`Session.isConnected_step`).
Whether it is live is changed by the server alone, between two statements or during one.
-/

namespace PgStatement.Session

/-- **What happens to a session.** -/
inductive Event where
  /-- It is to be connected, and this is what is found at the address. -/
  | connect (endpoint : Endpoint)
  /-- It is to be disconnected. -/
  | disconnect
  /-- A statement that gives rows is to be run. -/
  | fetch (statement : Statement)
  /-- A statement that gives a count is to be run. -/
  | execute (statement : Statement)
  /-- The server hangs up. -/
  | hangUp

/-- The statement that is to be run. -/
def Event.statement? : Event → Option Statement
  | fetch statement | execute statement => some statement
  | _ => none

/-- What comes of an event, whatever a statement gives. -/
def step (s : Session) : Event → Outcome Unit
  | .connect endpoint => s.connect endpoint
  | .disconnect => s.disconnect
  | .fetch statement => (s.fetch statement).map fun _ => ()
  | .execute statement => (s.execute statement).map fun _ => ()
  | .hangUp => .quiet (.ok ()) s.hungUp

/-- **The session after a run of events.** -/
def after (s : Session) (events : List Event) : Session :=
  events.foldl (fun s event => (s.step event).session) s

variable {s : Session} {event : Event} {endpoint : Endpoint} {statement : Statement} {e : Error}

theorem after_cons (s : Session) (event : Event) (events : List Event) :
    s.after (event :: events) = (s.step event).session.after events := rfl

theorem after_concat (s : Session) (events : List Event) (event : Event) :
    s.after (events ++ [event]) = ((s.after events).step event).session := List.foldl_concat _ _ _ _

/-! ## Connecting -/

/-- **While a connection is held, no other is opened.** -/
theorem connect_of_isConnected (h : s.isConnected = true) (endpoint : Endpoint) :
    s.connect endpoint = ⟨.ok (), s, [], [.alreadyConnected s.database]⟩ := by
  rw [connect, if_pos h]

/-- A session that is not connected gets a live connection, or none with an error. -/
theorem connection_connect (h : s.isConnected = false) (endpoint : Endpoint) :
    ((s.connect endpoint).result = .ok ()
        ∧ (s.connect endpoint).session = { s with connection? := some .live })
      ∨ ((s.connect endpoint).result ≠ .ok () ∧ (s.connect endpoint).session = s) := by
  rw [connect, if_neg (Bool.eq_false_iff.mp h)]
  split
  · exact .inr ⟨nofun, rfl⟩
  · exact .inl ⟨rfl, rfl⟩

/-- **A session is connected after connecting** if that succeeds, and else it is not. -/
theorem isConnected_connect (s : Session) (endpoint : Endpoint) :
    (s.connect endpoint).session.isConnected = true ↔ (s.connect endpoint).result = .ok () := by
  cases hheld : s.isConnected with
  | true =>
    rw [connect_of_isConnected hheld]
    exact iff_of_true hheld rfl
  | false =>
    rcases connection_connect hheld endpoint with ⟨hresult, hsession⟩ | ⟨hresult, hsession⟩
    · rw [hsession]
      exact iff_of_true rfl hresult
    · rw [hsession, hheld]
      exact iff_of_false Bool.false_ne_true hresult

/-! ## Statements -/

theorem session_step (h : event.statement? = some statement) :
    (s.step event).session = (s.request statement).session := by
  cases event <;> cases h
  · rw [step, Outcome.session_map, session_fetch]
  · rw [step, Outcome.session_map, session_execute]

theorem sent_step (h : event.statement? = some statement) :
    (s.step event).sent = (s.request statement).sent := by
  cases event <;> cases h
  · rw [step, Outcome.sent_map, sent_fetch]
  · rw [step, Outcome.sent_map, sent_execute]

/-- What is made of a reply fails as the backend does, and all other failures are those of the
request. -/
theorem result_step_eq_error_iff (h : event.statement? = some statement)
    (hkind : e.kind ≠ .backend) :
    (s.step event).result = .error e ↔ (s.request statement).result = .error e := by
  cases event <;> cases h
  · show (fun _ => ()) <$> (s.fetch statement).result = .error e ↔ _
    rw [map_eq_error_iff, fetch, Outcome.result_after, Outcome.result_onFailure]
    show (s.request statement).result >>= Reply.records = .error e ↔ _
    cases (s.request statement).result with
    | error e' =>
      show Except.error e' = Except.error e ↔ _
      rw [Except.error.injEq, Except.error.injEq]
    | ok r =>
      refine iff_of_false (fun hrecords => hkind (Reply.kind_of_records hrecords)) fun hok => ?_
      cases hok
  · show (fun _ => ()) <$> (s.execute statement).result = .error e ↔ _
    rw [map_eq_error_iff, execute, Outcome.result_after, Outcome.result_onFailure]
    exact map_eq_error_iff

/-- **A statement changes nothing about whether a connection is held.** -/
theorem isConnected_statement (h : event.statement? = some statement) :
    (s.step event).session.isConnected = s.isConnected := by
  rw [session_step h, isConnected_request]

/-! ## Runs -/

/-- **What an event does to being connected.** -/
theorem isConnected_step (s : Session) (event : Event) :
    (s.step event).session.isConnected = true
      ↔ (∃ endpoint, event = .connect endpoint ∧ (s.connect endpoint).result = .ok ())
        ∨ (event ≠ .disconnect ∧ s.isConnected = true) := by
  cases event with
  | connect endpoint =>
    rw [step, isConnected_connect]
    constructor
    · exact fun h => .inl ⟨endpoint, rfl, h⟩
    · rintro (⟨_, ⟨⟩, h⟩ | ⟨-, h⟩)
      · exact h
      · rw [connect_of_isConnected h]
  | disconnect =>
      exact iff_of_false Bool.false_ne_true (by rintro (⟨_, ⟨⟩, _⟩ | ⟨h, _⟩); exact h rfl)
  | fetch statement | execute statement =>
    rw [isConnected_statement rfl]
    exact ⟨fun h => .inr ⟨nofun, h⟩, by rintro (⟨_, ⟨⟩, _⟩ | ⟨-, h⟩); exact h⟩
  | hangUp =>
    have hheld : s.hungUp.isConnected = s.isConnected := Option.isSome_map
    rw [step, Outcome.quiet, hheld]
    exact ⟨fun h => .inr ⟨nofun, h⟩, by rintro (⟨_, ⟨⟩, _⟩ | ⟨-, h⟩); exact h⟩

/-- In a run of events, connecting has succeeded after the session was disconnected last. -/
def Opened (s : Session) (events : List Event) : Prop :=
  ∃ before endpoint later, events = before ++ .connect endpoint :: later
    ∧ .disconnect ∉ later ∧ ((s.after before).connect endpoint).result = .ok ()

/-- The last event of a run opens a connection, or one was opened before and the event does not
close it. -/
theorem opened_concat_iff (s : Session) (events : List Event) (event : Event) :
    s.Opened (events ++ [event])
      ↔ (∃ endpoint, event = .connect endpoint
          ∧ ((s.after events).connect endpoint).result = .ok ())
        ∨ (event ≠ .disconnect ∧ s.Opened events) := by
  constructor
  · rintro ⟨before, endpoint, later, hevents, hlater, hresult⟩
    rcases List.eq_nil_or_concat later with rfl | ⟨later, last, rfl⟩
    · obtain ⟨rfl, hevent⟩ := List.append_inj' hevents rfl
      exact .inl ⟨endpoint, (List.cons.inj hevent).1, hresult⟩
    · rw [List.concat_eq_append, ← List.cons_append, ← List.append_assoc] at hevents
      obtain ⟨rfl, hevent⟩ := List.append_inj' hevents rfl
      obtain rfl := (List.cons.inj hevent).1
      rw [List.concat_eq_append, List.mem_append, List.mem_singleton, not_or] at hlater
      exact .inr ⟨fun h => hlater.2 h.symm, before, endpoint, later, rfl, hlater.1, hresult⟩
  · rintro (⟨endpoint, rfl, hresult⟩ | ⟨hevent, before, endpoint, later, rfl, hlater, hresult⟩)
    · exact ⟨events, endpoint, [], rfl, List.not_mem_nil, hresult⟩
    · refine ⟨before, endpoint, later ++ [event], by simp, ?_, hresult⟩
      rw [List.mem_append, List.mem_singleton, not_or]
      exact ⟨hlater, hevent.symm⟩

/-- **A session is connected after a run** exactly if connecting has succeeded after it was
disconnected last, or if it was connected before and never disconnected. -/
theorem isConnected_after (s : Session) (events : List Event) :
    (s.after events).isConnected = true
      ↔ s.Opened events ∨ (.disconnect ∉ events ∧ s.isConnected = true) := by
  -- from the end of the run, since what counts is what came last
  induction events using List.reverseRecOn with
  | nil =>
    have hnone : ¬ s.Opened [] := by
      rintro ⟨before, endpoint, later, h, -⟩
      exact List.append_ne_nil_of_right_ne_nil before (List.cons_ne_nil _ _) h.symm
    exact ⟨fun h => .inr ⟨List.not_mem_nil, h⟩, fun h => (h.resolve_left hnone).2⟩
  | append_singleton events event ih =>
    have hne : ¬ Event.disconnect = event ↔ event ≠ .disconnect := ne_comm
    rw [after_concat, isConnected_step, ih, opened_concat_iff, List.mem_append,
      List.mem_singleton, not_or, hne, and_or_left, or_assoc, ← and_assoc,
      and_comm (a := .disconnect ∉ events)]

/-- **A lost connection stays lost** until the session is disconnected. -/
theorem connection_after_of_lost (h : s.connection? = some .lost) {events : List Event}
    (hevents : .disconnect ∉ events) : (s.after events).connection? = some .lost := by
  induction events generalizing s with
  | nil => exact h
  | cons event events ih =>
    rw [List.mem_cons, not_or] at hevents
    rw [after_cons]
    refine ih ?_ hevents.2
    have hheld : s.isConnected = true := by rw [isConnected, h]; rfl
    cases event with
    | connect endpoint => rw [step, connect_of_isConnected hheld, h]
    | disconnect => exact absurd rfl hevents.1
    | fetch statement | execute statement =>
      rw [session_step rfl, request_of_lost h, Outcome.quiet, h]
    | hangUp => rw [step, Outcome.quiet, hungUp, h]; rfl

/-! ## The life of a session -/

/-- What statements come to, by the connection of the session. -/
theorem statement_outcome (s : Session) (h : event.statement? = some statement) :
    ((s.step event).result = .error .notConnected ↔ s.connection? = none)
      ∧ ((s.step event).result = .error .connectionClosed ↔ s.connection? = some .lost
        ∨ (s.connection? = some .live ∧ ∃ sent, (s.step event).sent = [sent]
          ∧ (s.server.headD .exhausted).hangUp? = some sent.stage))
      ∧ ((s.step event).result = .error .connectionClosed
        ↔ (s.step event).session.connection? = some .lost)
      ∧ (s.connection? ≠ some .live → (s.step event).sent = []) := by
  have hnone := result_step_eq_error_iff (s := s) (e := .notConnected) h nofun
  have hclosed := result_step_eq_error_iff (s := s) (e := .connectionClosed) h nofun
  rw [hnone, hclosed, sent_step h, session_step h]
  cases hconnection : s.connection? with
  | none =>
    rw [request_of_none hconnection]
    exact ⟨iff_of_true rfl rfl, iff_of_false nofun nofun,
      iff_of_false nofun (by rw [Outcome.quiet, hconnection]; nofun), fun _ => rfl⟩
  | some connection =>
    cases connection with
    | lost =>
      rw [request_of_lost hconnection]
      exact ⟨iff_of_false nofun nofun, iff_of_true rfl (.inl rfl), iff_of_true rfl hconnection,
        fun _ => rfl⟩
    | live =>
      obtain ⟨hheld, hhangUp, hlost, hlive⟩ := connection_request hconnection statement
      refine ⟨iff_of_false hheld nofun, ?_, ⟨hlost, fun h => ?_⟩, fun h => absurd rfl h⟩
      · rw [hhangUp]
        exact ⟨fun h => .inr ⟨rfl, h⟩, fun h => (h.resolve_left nofun).2⟩
      · by_contra hresult
        rw [hlive hresult] at h
        cases h

/-- **The life of a session**, which begins without a connection, after any run of events, whatever
the server does. It is connected exactly if connecting has succeeded after it was disconnected last.
If connecting fails, it is not connected; while it is connected, it is not connected once more. When
the server has hung up, the connection is lost until the session is disconnected.

Running a statement does not change whether it is connected. The result says so if it is not, and
then nothing is sent; the result says that the connection is closed exactly if it was lost before,
and then nothing is sent, or if the server hangs up on the statement. Over a live connection the
server receives every statement whose text can be put into a message. If connecting succeeds in a
session that is not connected, as it is not after being disconnected, then the connection is live,
and the server receives the next statement again. -/
theorem lifecycle (config : Config) (server : List Reply) (events : List Event) :
    let s := (start config server).after events
    (s.isConnected = true ↔ (start config server).Opened events)
      ∧ (∀ endpoint, (s.connect endpoint).result ≠ .ok () →
        (s.connect endpoint).session.isConnected = false)
      ∧ (s.isConnected = true → ∀ endpoint,
        s.connect endpoint = ⟨.ok (), s, [], [.alreadyConnected s.database]⟩)
      ∧ (s.isConnected = true → ∀ later, .disconnect ∉ later →
        (s.hungUp.after later).connection? = some .lost)
      ∧ s.disconnect.session.isConnected = false
      ∧ ∀ event statement, event.statement? = some statement →
        (s.step event).session.isConnected = s.isConnected
        ∧ ((s.step event).result = .error .notConnected ↔ s.isConnected = false)
        ∧ ((s.step event).result = .error .connectionClosed ↔ s.connection? = some .lost
          ∨ (s.connection? = some .live ∧ ∃ sent, (s.step event).sent = [sent]
            ∧ (s.server.headD .exhausted).hangUp? = some sent.stage))
        ∧ ((s.step event).result = .error .connectionClosed
          ↔ (s.step event).session.connection? = some .lost)
        ∧ (s.connection? ≠ some .live → (s.step event).sent = [])
        ∧ (s.connection? = some .live → (s.step event).sent.map Sent.sql
          = if hasNul statement.sql then [] else [statement.sql])
        ∧ (s.isConnected = false → ∀ endpoint, (s.connect endpoint).result = .ok () →
          (s.connect endpoint).session.connection? = some .live
          ∧ ((s.connect endpoint).session.step event).sent.map Sent.sql
            = if hasNul statement.sql then [] else [statement.sql]) := by
  intro s
  refine ⟨?_, fun endpoint hresult => ?_, fun hheld => connect_of_isConnected hheld, ?_, rfl, ?_⟩
  · rw [isConnected_after]
    exact or_iff_left fun h => absurd h.2 Bool.false_ne_true
  · rw [Bool.eq_false_iff, ne_eq, isConnected_connect]
    exact hresult
  · intro hheld later hlater
    refine connection_after_of_lost ?_ hlater
    obtain ⟨connection, hconnection⟩ := Option.isSome_iff_exists.mp hheld
    rw [hungUp, hconnection]
    rfl
  · intro event statement h
    obtain ⟨hnone, hclosed, hlost, hsent⟩ := statement_outcome s h
    have hreaches {u : Session} (hlive : u.connection? = some .live) :
        (u.step event).sent.map Sent.sql
          = if hasNul statement.sql then [] else [statement.sql] := by
      rw [sent_step h]
      exact sql_request hlive statement
    refine ⟨isConnected_statement h, ?_, hclosed, hlost, hsent, hreaches,
      fun hheld endpoint hresult => ?_⟩
    · rw [hnone, isConnected, Option.isSome_eq_false_iff, Option.isNone_iff_eq_none]
    · obtain ⟨-, hsession⟩ := (connection_connect hheld endpoint).resolve_right
        fun hfailed => hfailed.1 hresult
      rw [hsession]
      exact ⟨rfl, hreaches rfl⟩

/-- A connection that is opened at the second attempt and hung up on. -/
def mishaps : List Event :=
  [.connect .unreachable, .connect .reachable, .hangUp, .fetch (.ofText "users" "SELECT 1")]

theorem lifecycle_mishaps :
    (start (.ofUrl "postgres://localhost/shop") []).Opened mishaps
      ∧ (((start (.ofUrl "postgres://localhost/shop") []).after mishaps).step
          (.execute (.ofText "users" "SELECT 1"))).result = .error .connectionClosed
      ∧ ((((start (.ofUrl "postgres://localhost/shop") []).after (mishaps ++ [.disconnect])).connect
          .reachable).session.step (.execute (.ofText "users" "SELECT 1"))).sent.map Sent.sql
        = ["SELECT 1"] := by
  obtain ⟨hopened, -, -, -, -, hstatement⟩ :=
    lifecycle (.ofUrl "postgres://localhost/shop") [] mishaps
  obtain ⟨-, -, -, -, -, hagain⟩ :=
    lifecycle (.ofUrl "postgres://localhost/shop") [] (mishaps ++ [.disconnect])
  refine ⟨hopened.mp rfl, ?_, ?_⟩
  · exact (hstatement _ _ rfl).2.2.1.mpr (.inl rfl)
  · exact ((hagain (.execute (.ofText "users" "SELECT 1")) _ rfl).2.2.2.2.2.2 rfl .reachable rfl).2

end PgStatement.Session
