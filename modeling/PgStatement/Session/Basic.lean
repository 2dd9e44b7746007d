import PgStatement.Session.Config
import PgStatement.Session.LogEvent
import PgStatement.Session.Reply

/-!
# Sessions

A session is a manager with its settings, the connection it holds, if any, and the server at the
other end, as the list of its replies to come. Each operation gives an `Outcome`: a result, the
session afterwards, what the server received and what was logged.

A connection is live or lost. The server can hang up during a statement or at any other time; the
manager goes on holding the lost connection, and is still connected in its own eyes, until it
disconnects. Statements on a lost connection fail and send nothing.
-/

namespace PgStatement

/-- A connection that is held. -/
inductive Connection where
  /-- It can be used. -/
  | live
  /-- The server has hung up. -/
  | lost
  deriving DecidableEq

/-- What is found at the address of the database. -/
inductive Endpoint where
  /-- The address cannot be read. -/
  | malformed
  /-- Nobody answers. -/
  | unreachable
  /-- A server answers. -/
  | reachable
  deriving DecidableEq

/-- **A manager and the server it talks to.** -/
structure Session where
  /-- The settings. -/
  config : Config
  /-- The connection, if one is held. -/
  connection? : Option Connection
  /-- The replies of the server to come. -/
  server : List Reply

/-- **What an operation of a session gives.** -/
structure Outcome (α : Type) where
  /-- The result. -/
  result : Except Error α
  /-- The session afterwards. -/
  session : Session
  /-- What the server received. -/
  sent : List Sent
  /-- What was logged. -/
  logs : List LogEvent

namespace Outcome

/-- An outcome of which neither the server nor the log knows. -/
def quiet {α : Type} (result : Except Error α) (s : Session) : Outcome α := ⟨result, s, [], []⟩

/-- The outcome with the result read further, which may fail. -/
def bindResult {α β : Type} (o : Outcome α) (f : α → Except Error β) : Outcome β :=
  { o with result := o.result >>= f }

/-- The outcome with another result. -/
def map {α β : Type} (f : α → β) (o : Outcome α) : Outcome β := { o with result := f <$> o.result }

/-- The outcome with events logged before. -/
def after {α : Type} (events : List LogEvent) (o : Outcome α) : Outcome α :=
  { o with logs := events ++ o.logs }

/-- The outcome with an event logged if it is a failure. -/
def onFailure {α : Type} (o : Outcome α) (event : Error → LogEvent) : Outcome α :=
  match o.result with
  | .ok _ => o
  | .error e => { o with logs := o.logs ++ [event e] }

/-! ### Logging touches nothing else -/

variable {α β : Type}

@[simp] theorem result_after (events : List LogEvent) (o : Outcome α) :
    (o.after events).result = o.result := rfl

@[simp] theorem session_after (events : List LogEvent) (o : Outcome α) :
    (o.after events).session = o.session := rfl

@[simp] theorem sent_after (events : List LogEvent) (o : Outcome α) :
    (o.after events).sent = o.sent := rfl

@[simp] theorem result_onFailure (o : Outcome α) (event : Error → LogEvent) :
    (o.onFailure event).result = o.result := by
  unfold onFailure
  split <;> rfl

@[simp] theorem session_onFailure (o : Outcome α) (event : Error → LogEvent) :
    (o.onFailure event).session = o.session := by
  unfold onFailure
  split <;> rfl

@[simp] theorem sent_onFailure (o : Outcome α) (event : Error → LogEvent) :
    (o.onFailure event).sent = o.sent := by
  unfold onFailure
  split <;> rfl

@[simp] theorem session_bindResult (o : Outcome α) (f : α → Except Error β) :
    (o.bindResult f).session = o.session := rfl

@[simp] theorem sent_bindResult (o : Outcome α) (f : α → Except Error β) :
    (o.bindResult f).sent = o.sent := rfl

@[simp] theorem session_map (f : α → β) (o : Outcome α) : (o.map f).session = o.session := rfl

@[simp] theorem sent_map (f : α → β) (o : Outcome α) : (o.map f).sent = o.sent := rfl

end Outcome

namespace Session

/-- The session of a manager that is not connected. -/
def start (config : Config) (server : List Reply) : Session := ⟨config, none, server⟩

/-- Whether a connection is held, open or lost. -/
def isConnected (s : Session) : Bool := s.connection?.isSome

/-- The manager as it is shown: its settings and whether it is connected. -/
def inspect (s : Session) : String :=
  "DatabaseManager \x7b config: " ++ s.config.inspect ++ ", connected: "
    ++ (if s.isConnected then "true" else "false") ++ " \x7d"

/-- The name in log events. -/
def database (s : Session) : String := s.config.name

/-! ## Connecting -/

/-- Whether a text holds the character that ends texts on the wire. -/
def hasNul (text : String) : Bool := text.toList.contains '\x00'

/-- What keeps a connection from being opened: the text that is logged, and the error. -/
def connectFailure? (config : Config) : Endpoint → Option (String × Error)
  | .malformed =>
    let e := Error.configuration "invalid database URL: invalid connection string"
    some (e.message, e)
  | .unreachable =>
    let problem := "error connecting to server"
    some (problem, .connection problem)
  | .reachable =>
    let problem := "error encoding message to server"
    if config.applicationName?.any hasNul then some (problem, .connection problem) else none

/-- **Opens a connection**, unless one is held. -/
def connect (s : Session) (endpoint : Endpoint) : Outcome Unit :=
  if s.isConnected then ⟨.ok (), s, [], [.alreadyConnected s.database]⟩
  else
    match connectFailure? s.config endpoint with
    | some (problem, e) => ⟨.error e, s, [], [.connectFailed s.database problem]⟩
    | none => ⟨.ok (), { s with connection? := some .live }, [], [.connected s.database]⟩

/-- **Closes the connection**, if one is held. The task that serves the connection is awaited here.
Nothing in the manager cancels it, so the event of a task that was cancelled or crashed is left out,
and so is what the task itself logs when the server breaks off: it belongs to no operation. -/
def disconnect (s : Session) : Outcome Unit :=
  let event :=
    if s.isConnected then LogEvent.disconnected s.database
    else LogEvent.alreadyDisconnected s.database
  ⟨.ok (), { s with connection? := none }, [], [event]⟩

/-- The session after the server has hung up of its own accord. -/
def hungUp (s : Session) : Session :=
  { s with connection? := s.connection?.map fun _ => .lost }

/-! ## Statements -/

/-- The session after a statement that came out in some way. -/
def afterReply {α : Type} (s : Session) (result : Except Error α) : Session :=
  let connection :=
    match result with
    | .error .connectionClosed => Connection.lost
    | _ => Connection.live
  { s with connection? := some connection, server := s.server.tail }

/-- **Sends a statement** over the connection, if it is live, and awaits the reply. -/
def request (s : Session) (statement : Statement) : Outcome Reply :=
  match s.connection? with
  | none => .quiet (.error .notConnected) s
  | some .lost => .quiet (.error .connectionClosed) s
  | some .live =>
    -- what cannot be written as a message is refused here, and the server never sees it
    if hasNul statement.sql then .quiet (.error (.backend (.unsendable .unexpectedEnd))) s
    else
      let (sent, result) := (s.server.headD .exhausted).exchange statement
      ⟨result, s.afterReply result, [sent], []⟩

/-- **A request keeps the connection or its absence**, even when the connection is lost on the
way. -/
theorem isConnected_request (s : Session) (statement : Statement) :
    (s.request statement).session.isConnected = s.isConnected := by
  unfold request
  split
  · rfl
  · rfl
  · rename_i h
    split
    · rfl
    · simp [afterReply, isConnected, h]

/-- **Runs a statement that gives rows.** -/
def fetch (s : Session) (statement : Statement) : Outcome (List Record) :=
  (((s.request statement).bindResult Reply.records).onFailure
    (.statementFailed s.database statement)).after [.query s.database statement]

/-- **Runs a statement that gives a count**, of the rows concerned. -/
def execute (s : Session) (statement : Statement) : Outcome UInt64 :=
  (((s.request statement).map Reply.affected).onFailure
    (.statementFailed s.database statement)).after [.execute s.database statement]

end Session

end PgStatement
