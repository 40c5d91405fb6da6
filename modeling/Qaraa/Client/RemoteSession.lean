import Qaraa.Client.Listeners
import Qaraa.Library.KeyedQueue

/-!
`packages/client/src/remote-session.ts`: a session of a server, seen by a client.

What a session does is cut at its awaits. A step is one callback: a caller's call, a segment
of a mutation, an event of a socket, a stage of the reconnect task, or one queued
notification.

* `RemoteSession`: the variables of the closure, and the log of its acts.
* `SessionCall`, `RemoteSession.perform`: what a caller, or a listener while it is called,
  does with the session.
* `RemoteSession.notify`, `RemoteSession.enqueue`: the two ways a snapshot comes in.
* `RemoteSession.resume`: a mutation up to its next await.
* `RemoteSession.scheduleReconnect`, `RemoteSession.openSocket`, `RemoteSession.socketEvent`:
  the stream.
* `createRemoteSession`, `RemoteSession.step`, `RemoteSession.run`: the session.
-/

namespace Qaraa.Client

open Ordered KeyedQueue

/-! ### Data -/

/-- `RecitationObservation`, as the caller hands it over. -/
structure Submission where
  observationId : String
  sourceRevision : JsValue
  isFinal : JsValue
  receivedAtMs : JsValue
  tokens : JsValue

/-- The options, with the attempts of the retry policy. `createRequestId` makes the ids in
the order they are asked for. -/
structure RemoteOptions where
  sessionId : String
  maxAttempts : ℕ
  positive : 1 ≤ maxAttempts
  createRequestId : ℕ → String

/-- What a mutation asks for. -/
inductive Kind where
  | submission (observationId : String)
  | reset
  deriving DecidableEq

/-- What a mutation has when it awaits. The first frame is its call; `attempt` is the request
it waits for or has failed with. -/
inductive Mutation where
  | submit (o : Submission)
  | submitting (o : Submission) (requestId : String) (attempt : ℕ)
  | retrying (o : Submission) (requestId : String) (attempt : ℕ)
  | reset (location : Option QuranLocation)
  | resetting (location : Option QuranLocation) (requestId : String)

/-- What a mutation asks for, wherever it stands. -/
def Mutation.kind : Mutation → Kind
  | .submit o | .submitting o _ _ | .retrying o _ _ => .submission o.observationId
  | .reset _ | .resetting _ _ => .reset

/-- How the promise of a mutation settles. -/
abbrev Outcome := Except SessionError ReadingSnapshot

/-- The promises of `mutationTail`. A segment brings the next frame or the outcome. -/
abbrev Mutations := State Unit Unit Mutation Outcome

/-- The mutations as one chain of promises: a segment brings its own result, and nothing else
touches the chain. -/
def mutationQueue : Program Unit Unit Mutation (Mutation ⊕ Outcome) Outcome Empty where
  resume := fun _ _ next _ => ((), next)
  touch := fun _ change _ => change.elim

/-- The ticket tells one promise from another. -/
structure InFlightSubmission where
  resetSequence : ℕ
  ticket : ℕ
  deriving DecidableEq

/-- The body of a request. -/
inductive RemoteCommand where
  | submit (command : ObservationSubmitCommand)
  | reset (command : SessionResetCommand)

/-- A request that was sent, and the mutation that has sent it. -/
structure Request where
  ticket : ℕ
  command : RemoteCommand

/-- A socket the factory has made: the number it got, the revision in its URL, and whether
the listeners are attached. -/
structure Socket where
  generation : ℕ
  lastSnapshotRevision : ℕ
  attached : Bool

/-- Where the reconnect task stands. -/
inductive ReconnectStage where
  | idle
  | delaying
  /-- Its `finally` handler is still to run. -/
  | finishing
  deriving DecidableEq

/-- What a session does that others can see. -/
inductive Act where
  | heard (listener : ℕ) (snapshot : ReadingSnapshot)
  /-- A call is rejected because the session is closed. -/
  | refused
  /-- A submission is answered with the snapshot held. -/
  | held (observationId : String)
  /-- A submission is answered with the promise of one in flight. -/
  | shared (observationId : String) (ticket : ℕ)
  | queued (ticket : ℕ) (kind : Kind)
  /-- A request of a mutation is sent. -/
  | fetched (ticket : ℕ) (kind : Kind)
  /-- A mutation has got the snapshot it asked for. -/
  | succeeded (ticket : ℕ) (kind : Kind)
  | resolved (ticket : ℕ) (kind : Kind)
  | failed (ticket : ℕ) (kind : Kind) (error : SessionError)
  /-- A reconnect attempt is scheduled. -/
  | attempted
  /-- The socket factory is called with this revision in the URL. -/
  | dialed (lastSnapshotRevision : ℕ)
  /-- The current socket has opened. -/
  | connected
  /-- The current socket has closed. -/
  | hungUp (code : Option ℕ)
  | closed
  deriving DecidableEq

/-- The variables of the closure. `sockets`, `requests` and `acts` are what it has made, sent
and done; the stage is where the function in `reconnectTask` has come. -/
structure RemoteSession where
  closed : Bool
  listeners : OrderedSet ℕ
  snapshot : ReadingSnapshot
  queuedNotifications : List ReadingSnapshot
  requestSequence : ℕ
  mutations : Mutations
  scheduledResetSequence : ℕ
  pendingResetCount : ℤ
  acknowledged : OrderedSet String
  submissions : OrderedMap String InFlightSubmission
  socket : Option ℕ
  socketGeneration : ℕ
  socketDisposer : Option ℕ
  sockets : List Socket
  reconnectAttempts : ℕ
  reconnectTask : Bool
  reconnectStage : ReconnectStage
  requests : List Request
  acts : List Act

/-- What a caller does with a session, or a listener while it is called. A new listener comes
with what it does in its first call. -/
inductive SessionCall where
  | submit (o : Submission)
  | reset (location : Option QuranLocation)
  | subscribe (listener : ℕ) (calls : List SessionCall) (throws : Bool)
  | unsubscribe (listener : ℕ)
  | close

/-- What a listener does with the session while it is called, and whether it throws. -/
structure Behaviour where
  calls : List SessionCall := []
  throws : Bool := false

/-- What each listener does with a snapshot. -/
abbrev Behaviours := ℕ → ReadingSnapshot → Behaviour

/-- What becomes of a request. -/
inductive Response where
  /-- The fetch is rejected. -/
  | failed (retryable : Bool)
  /-- No JSON, no event, or not the event asked for. -/
  | unusable
  | refused (error : QaraaProtocolError)
  | updated (snapshot : ReadingSnapshot)

/-- The error of a response that brings no snapshot. -/
def Response.error : Response → SessionError
  | .failed retryable => .transport retryable
  | .refused error => .protocol error
  | _ => .transport false

/-- What a mutation is given until its next await. -/
structure Answer where
  response : Response := .failed true
  slept : Bool := true
  behave : Behaviours := fun _ _ => {}

/-- What the socket factory does. -/
inductive Dial where
  | created
  | threw (retryable : Bool)

/-- How the delay of a reconnect attempt ends. -/
inductive Delay where
  | rejected
  | elapsed (dial : Dial)

/-- An event of a socket. A message comes with its snapshot if it is a valid event of the
session. -/
inductive SocketEvent where
  | opened
  | message (snapshot : Option ReadingSnapshot)
  | closed (code : Option ℕ)

/-- `retryableSocketClose`. -/
def retryableSocketClose (code : ℕ) : Bool :=
  code != 1000 && code != 1008 && code != 4404 && code != 4406

/-- The command a submission is sent as. -/
def Submission.command (options : RemoteOptions) (requestId : String) (o : Submission) :
    ObservationSubmitCommand :=
  ⟨requestId, options.sessionId, .string o.observationId, o.sourceRevision, o.isFinal,
    o.receivedAtMs, o.tokens⟩

namespace RemoteSession

/-- An act is logged. -/
def act (s : RemoteSession) (act : Act) : RemoteSession := { s with acts := s.acts ++ [act] }

/-! ### Calls -/

/-- `listeners.add`. -/
def join (s : RemoteSession) (listener : ℕ) : RemoteSession :=
  { s with listeners := s.listeners.add listener }

/-- `listeners.delete`. -/
def leave (s : RemoteSession) (listener : ℕ) : RemoteSession :=
  { s with listeners := s.listeners.delete listener }

/-- `listener(snapshot)`. -/
def hear (s : RemoteSession) (listener : ℕ) : RemoteSession := s.act (.heard listener s.snapshot)

/-- `enqueueMutation`. -/
def enqueueMutation (s : RemoteSession) (mutation : Mutation) : RemoteSession :=
  { s with
    mutations := State.step mutationQueue s.mutations (.call () mutation)
    acts := s.acts ++ [.queued s.mutations.entries.length mutation.kind] }

/-- A submission that is neither known nor in flight. -/
def enqueueSubmission (s : RemoteSession) (o : Submission) : RemoteSession :=
  { s.enqueueMutation (.submit o) with
    submissions := s.submissions.set o.observationId
      ⟨s.scheduledResetSequence, s.mutations.entries.length⟩ }

/-- `submit`, up to the promise it returns. -/
def submit (s : RemoteSession) (o : Submission) : RemoteSession :=
  if s.closed then s.act .refused
  else if s.pendingResetCount = 0 ∧ s.acknowledged.has o.observationId = true then
    s.act (.held o.observationId)
  else
    match s.submissions.get o.observationId with
    | some existing =>
        if existing.resetSequence = s.scheduledResetSequence then
          s.act (.shared o.observationId existing.ticket)
        else s.enqueueSubmission o
    | none => s.enqueueSubmission o

/-- A reset of an open session. -/
def enqueueReset (s : RemoteSession) (location : Option QuranLocation) : RemoteSession :=
  { s.enqueueMutation (.reset location) with
    scheduledResetSequence := s.scheduledResetSequence + 1
    pendingResetCount := s.pendingResetCount + 1 }

/-- `reset`, up to the promise it returns. -/
def reset (s : RemoteSession) (location : Option QuranLocation) : RemoteSession :=
  if s.closed then s.act .refused else s.enqueueReset location

/-- `disposeSocketListeners` of one socket. -/
def disposeSocketListeners (s : RemoteSession) (generation : ℕ) : RemoteSession :=
  { s with
    sockets := s.sockets.map fun socket =>
      if socket.generation = generation then { socket with attached := false } else socket
    socketDisposer := if s.socketDisposer = some generation then none else s.socketDisposer }

/-- `socketDisposer?.()`. -/
def disposeSocket (s : RemoteSession) : RemoteSession :=
  match s.socketDisposer with
  | some generation => s.disposeSocketListeners generation
  | none => s

/-- `close`. The two tails it replaces are never looked at again: every later call is
refused, and no notification is queued any more. -/
def close (s : RemoteSession) : RemoteSession :=
  if s.closed then s
  else
    { s.disposeSocket with
      closed := true
      listeners := .empty
      acknowledged := .empty
      submissions := .empty
      queuedNotifications := []
      reconnectTask := false
      socketDisposer := none
      socket := none
      socketGeneration := s.socketGeneration + 1
      acts := s.acts ++ [.closed] }

mutual

/-- A call of the session by a listener or otherwise. -/
def perform : SessionCall → RemoteSession → RemoteSession
  | .submit o, s => s.submit o
  | .reset location, s => s.reset location
  | .subscribe listener calls throws, s =>
      if s.closed then s.act .refused
      else
        let called := performAll calls ((s.join listener).hear listener)
        if throws then called.leave listener else called
  | .unsubscribe listener, s => s.leave listener
  | .close, s => s.close

/-- The calls one listener makes, one after the other. -/
def performAll : List SessionCall → RemoteSession → RemoteSession
  | [], s => s
  | call :: rest, s => performAll rest (perform call s)

end

/-! ### Snapshots -/

/-- One round of the loop over the copy of the listeners. -/
def callNext (behave : Behaviours) (s : RemoteSession) (listener : ℕ) : RemoteSession :=
  if s.closed || !s.listeners.has listener then s
  else
    let behaviour := behave listener s.snapshot
    let called := performAll behaviour.calls (s.hear listener)
    if behaviour.throws then called.leave listener else called

/-- `notify`. -/
def notify (behave : Behaviours) (next : ReadingSnapshot) (s : RemoteSession) : RemoteSession :=
  if s.closed ∨ next.revision ≤ s.snapshot.revision then s
  else s.listeners.items.foldl (callNext behave) { s with snapshot := next }

/-- `enqueue`: the snapshot waits for its turn in `notificationTail`. -/
def enqueue (next : ReadingSnapshot) (s : RemoteSession) : RemoteSession :=
  if s.closed ∨ next.revision ≤ s.snapshot.revision then s
  else { s with queuedNotifications := s.queuedNotifications ++ [next] }

/-- The next callback of `notificationTail`. -/
def deliverNext (behave : Behaviours) (s : RemoteSession) : RemoteSession :=
  match s.queuedNotifications with
  | [] => s
  | next :: rest => notify behave next { s with queuedNotifications := rest }

/-! ### Mutations -/

/-- A request with a new id. -/
def send (s : RemoteSession) (ticket : ℕ) (kind : Kind) (command : RemoteCommand) :
    RemoteSession :=
  { s with
    requests := s.requests ++ [⟨ticket, command⟩]
    acts := s.acts ++ [.fetched ticket kind] }

/-- `createRequestId` has been called. -/
def identify (s : RemoteSession) : RemoteSession :=
  { s with requestSequence := s.requestSequence + 1 }

/-- A mutation ends with an error. -/
def rejectWith (s : RemoteSession) (error : SessionError) :
    RemoteSession × (Mutation ⊕ Outcome) := (s, .inr (.error error))

/-- A submission has been answered. -/
def acknowledge (s : RemoteSession) (ticket : ℕ) (observationId : String) : RemoteSession :=
  { s with
    acknowledged := if s.closed then s.acknowledged else s.acknowledged.add observationId
    acts := s.acts ++ [.succeeded ticket (.submission observationId)] }

/-- A reset has been answered. -/
def forget (s : RemoteSession) (ticket : ℕ) : RemoteSession :=
  { s with acknowledged := .empty, acts := s.acts ++ [.succeeded ticket .reset] }

/-- A mutation up to its next await. -/
def proceed (options : RemoteOptions) (ticket : ℕ) (answer : Answer) (s : RemoteSession) :
    Mutation → RemoteSession × (Mutation ⊕ Outcome)
  | .submit o =>
      if s.closed then s.rejectWith .closed
      else if s.acknowledged.has o.observationId then (s, .inr (.ok s.snapshot))
      else
        let requestId := options.createRequestId s.requestSequence
        (s.identify.send ticket (.submission o.observationId)
          (.submit (o.command options requestId)), .inl (.submitting o requestId 1))
  | .submitting o requestId attempt =>
      match answer.response with
      | .updated next =>
          let s := (s.acknowledge ticket o.observationId).notify answer.behave next
          (s, .inr (.ok s.snapshot))
      | .failed true =>
          if attempt = options.maxAttempts then s.rejectWith (.transport true)
          else (s, .inl (.retrying o requestId attempt))
      | response => s.rejectWith response.error
  | .retrying o requestId attempt =>
      if !answer.slept then s.rejectWith .rejected
      else if s.closed then s.rejectWith .closed
      else
        (s.send ticket (.submission o.observationId) (.submit (o.command options requestId)),
          .inl (.submitting o requestId (attempt + 1)))
  | .reset location =>
      if s.closed then s.rejectWith .closed
      else
        let requestId := options.createRequestId s.requestSequence
        (s.identify.send ticket .reset (.reset ⟨requestId, options.sessionId, location⟩),
          .inl (.resetting location requestId))
  | .resetting _ _ =>
      match answer.response with
      | .updated next =>
          let s := (s.forget ticket).notify answer.behave next
          (s, .inr (.ok s.snapshot))
      | response => s.rejectWith response.error

/-- What the end of a segment shows. -/
def settling (ticket : ℕ) (kind : Kind) : Mutation ⊕ Outcome → List Act
  | .inl _ => []
  | .inr (.ok _) => [.resolved ticket kind]
  | .inr (.error error) => [.failed ticket kind error]

/-- The promise of a mutation after a segment. -/
def goOn (s : RemoteSession) (ticket : ℕ) (kind : Kind) (next : Mutation ⊕ Outcome) :
    RemoteSession :=
  { s with
    mutations := State.step mutationQueue s.mutations (.resume ticket next)
    acts := s.acts ++ settling ticket kind next }

/-- The segment of a mutation after what it waits for. -/
def resume (options : RemoteOptions) (ticket : ℕ) (answer : Answer) (s : RemoteSession) :
    RemoteSession :=
  match s.mutations.entries[ticket]? with
  | some ⟨_, _, _, .running frame⟩ =>
      let after := s.proceed options ticket answer frame
      after.1.goOn ticket frame.kind after.2
  | _ => s

/-- A mutation starts when the one before it has settled. -/
def start (s : RemoteSession) (ticket : ℕ) : RemoteSession :=
  { s with mutations := State.step mutationQueue s.mutations (.start ticket) }

/-- The promise is no longer in the way of the next one. -/
def drain (s : RemoteSession) (ticket : ℕ) : RemoteSession :=
  { s with mutations := State.step mutationQueue s.mutations (.drain ticket) }

/-- The `finally` handlers of `submit` and `reset`. -/
def finish (s : RemoteSession) (ticket : ℕ) : Kind → RemoteSession
  | .submission observationId =>
      if (s.submissions.get observationId).map InFlightSubmission.ticket = some ticket then
        { s with submissions := s.submissions.delete observationId }
      else s
  | .reset => { s with pendingResetCount := s.pendingResetCount - 1 }

/-- The reactions to the promise of a mutation: `mutationTail` first, then `finally`. -/
def settle (s : RemoteSession) (ticket : ℕ) : RemoteSession :=
  match s.mutations.entries[ticket]? with
  | some ⟨_, call, _, .settled _⟩ => (s.drain ticket).finish ticket call.kind
  | _ => s

/-! ### The stream -/

/-- `scheduleReconnect`, up to its first wait. -/
def scheduleReconnect (options : RemoteOptions) (s : RemoteSession) : RemoteSession :=
  if s.closed ∨ s.reconnectTask = true ∨ s.socket.isSome ∨
      options.maxAttempts ≤ s.reconnectAttempts then s
  else
    { s with
      reconnectAttempts := s.reconnectAttempts + 1
      reconnectTask := true
      reconnectStage := .delaying
      acts := s.acts ++ [.attempted] }

/-- The socket the factory has made becomes the current one. -/
def attach (s : RemoteSession) : RemoteSession :=
  { s with
    socketGeneration := s.socketGeneration + 1
    socket := some (s.socketGeneration + 1)
    socketDisposer := some (s.socketGeneration + 1)
    sockets := s.sockets ++ [⟨s.socketGeneration + 1, s.snapshot.revision, true⟩] }

/-- `openSocket` of an open session. -/
def openSocket (dial : Dial) (s : RemoteSession) : RemoteSession :=
  let dialed := s.act (.dialed s.snapshot.revision)
  match dial with
  | .created => dialed.attach
  | .threw _ => dialed

/-- No attempt is left. -/
def exhaust (options : RemoteOptions) (s : RemoteSession) : RemoteSession :=
  { s with reconnectAttempts := options.maxAttempts }

/-- The reconnect task when its delay is over. -/
def delayed (options : RemoteOptions) (delay : Delay) (s : RemoteSession) : RemoteSession :=
  if s.reconnectStage = .delaying then
    let s := { s with reconnectStage := .finishing }
    match delay with
    | .rejected => s.exhaust options
    | .elapsed dial =>
        if s.closed ∨ s.socket.isSome then s
        else
          match dial with
          | .threw false => (s.openSocket dial).exhaust options
          | _ => s.openSocket dial
  else s

/-- The `finally` handler of the reconnect task. -/
def reconnected (options : RemoteOptions) (s : RemoteSession) : RemoteSession :=
  if s.reconnectStage = .finishing then
    let s := { s with reconnectStage := .idle, reconnectTask := false }
    if s.closed ∨ s.socket.isSome ∨ options.maxAttempts ≤ s.reconnectAttempts then s
    else s.scheduleReconnect options
  else s

/-- `closeListener` of the current socket. -/
def hangUp (options : RemoteOptions) (generation : ℕ) (code : Option ℕ) (s : RemoteSession) :
    RemoteSession :=
  let s := { s.disposeSocketListeners generation with
    socket := none
    acts := s.acts ++ [.hungUp code] }
  match code with
  | some code => if !s.closed && retryableSocketClose code then s.scheduleReconnect options else s
  | none => s

/-- The listeners of a socket. -/
def socketEvent (options : RemoteOptions) (generation : ℕ) (event : SocketEvent)
    (s : RemoteSession) : RemoteSession :=
  if s.sockets.any fun socket => socket.generation == generation && socket.attached then
    match event with
    | .opened =>
        if s.closed ∨ generation ≠ s.socketGeneration then s
        else { s with reconnectAttempts := 0, acts := s.acts ++ [.connected] }
    | .message none => s
    | .message (some snapshot) =>
        if s.closed ∨ generation ≠ s.socketGeneration then s else s.enqueue snapshot
    | .closed code =>
        if generation ≠ s.socketGeneration then s else s.hangUp options generation code
  else s

end RemoteSession

/-! ### The session -/

/-- What can happen to a session. -/
inductive RemoteAction where
  | call (call : SessionCall)
  | start (ticket : ℕ)
  | resume (ticket : ℕ) (answer : Answer)
  | settle (ticket : ℕ)
  | deliver (behave : Behaviours)
  | delayed (delay : Delay)
  | reconnected
  | socketEvent (generation : ℕ) (event : SocketEvent)

namespace RemoteSession

/-- A session that has only loaded its snapshot. -/
def loaded (snapshot : ReadingSnapshot) : RemoteSession where
  closed := false
  listeners := .empty
  snapshot := snapshot
  queuedNotifications := []
  requestSequence := 0
  mutations := .empty
  scheduledResetSequence := 0
  pendingResetCount := 0
  acknowledged := .empty
  submissions := .empty
  socket := none
  socketGeneration := 0
  socketDisposer := none
  sockets := []
  reconnectAttempts := 0
  reconnectTask := false
  reconnectStage := .idle
  requests := []
  acts := []

/-- What happens next. -/
def step (options : RemoteOptions) (s : RemoteSession) : RemoteAction → RemoteSession
  | .call call => perform call s
  | .start ticket => s.start ticket
  | .resume ticket answer => s.resume options ticket answer
  | .settle ticket => s.settle ticket
  | .deliver behave => s.deliverNext behave
  | .delayed delay => s.delayed options delay
  | .reconnected => s.reconnected options
  | .socketEvent generation event => s.socketEvent options generation event

/-- A run of the session. -/
def run (options : RemoteOptions) (s : RemoteSession) (actions : List RemoteAction) :
    RemoteSession := actions.foldl (step options) s

lemma run_concat (options : RemoteOptions) (s : RemoteSession) (actions : List RemoteAction)
    (action : RemoteAction) :
    s.run options (actions ++ [action]) = (s.run options actions).step options action := by
  rw [run, List.foldl_append]
  rfl

end RemoteSession

/-- Creates a remote session from the outcome of its first request and what the socket
factory does. -/
def createRemoteSession (options : RemoteOptions) (first : Except SessionError ReadingSnapshot)
    (dial : Dial) : Except SessionError RemoteSession := do
  let snapshot ← first
  let opened := (RemoteSession.loaded snapshot).openSocket dial
  match dial with
  | .created => return opened
  | .threw false => throw (.transport false)
  | .threw true => return opened.scheduleReconnect options

end Qaraa.Client
