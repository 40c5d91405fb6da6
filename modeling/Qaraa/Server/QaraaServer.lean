import Qaraa.Server.WebSocket

/-!
`createQaraaServer` of `packages/server/src/http.ts`: the service behind its two adapters.

Nobody but the adapters calls the service: a request that passes the checks calls it once, a
socket with a valid negotiation subscribes to it once.

* `Exchange`: a request and its reply.
* `ServerAnswer`: what the store, the corpus resolver and the sockets contribute until the next
  await of an operation.
* `QaraaServer`: the service, the exchanges and the sockets.
* `QaraaServer.receive`, `answer`: the REST side; `connect`, `settle`, `flush`, `close`: the
  sockets; `proceed`: an operation of the service goes on.
* `ServerAction`, `QaraaServer.step`, `QaraaServer.run`: the server.
-/

namespace Qaraa.SessionService

open Ordered KeyedQueue

/-! ### The state -/

/-- A request: the promise of its operation, unless it was turned away, and its reply. -/
structure Exchange where
  request : HttpRequest
  ticket : Option ℕ
  reply : Option HttpReply

/-- `fails` says for which socket `send` throws on which snapshot. -/
structure ServerAnswer where
  corpus : ResolverAnswer := .rejected
  store : StoreVerdict := .committed
  fails : ℕ → ReadingSnapshot → Bool := fun _ _ => false

/-- The exchanges and the sockets have the numbers of their positions. -/
structure QaraaServer where
  service : Service := State.empty
  exchanges : List Exchange := []
  connections : List StreamConnection := []

/-- The result of a promise of the service. -/
def Service.outcome (s : Service) (ticket : Option ℕ) : Option Outcome :=
  ticket.bind fun ticket => s.entries[ticket]?.bind fun entry => entry.phase.result

/-! ### Listeners -/

/-- Whether a socket holds a subscriber, or the one its subscription is about to make. -/
def StreamConnection.holds (connection : StreamConnection) (ticket index : ℕ) : Bool :=
  connection.index == some index || (connection.ticket == some ticket && connection.index.isNone)

/-- The events a subscriber was called with in a step of the service. -/
def calledWith (index : Option ℕ) (before after : SessionSlot) : List SnapshotUpdatedEvent :=
  (after.delivered.drop before.delivered.length).filterMap fun delivered =>
    if some delivered.1 = index then some delivered.2 else none

/-- What a segment of an operation does to a socket of its session. -/
def StreamConnection.follow (connection : StreamConnection) (fails : ReadingSnapshot → Bool)
    (ticket : ℕ) (before after : SessionSlot) : StreamConnection :=
  let index :=
    if connection.ticket = some ticket ∧ before.subscriptions < after.subscriptions then
      some before.subscriptions
    else connection.index
  (calledWith index before after).foldl (fun connection event => connection.listen fails event)
    { connection with index := index }

namespace QaraaServer

variable (options : ServiceOptions)

/-- Whether the listener of a subscriber throws: its socket is open and `send` does. -/
def throws (s : QaraaServer) (sessionId : String) (ticket : ℕ)
    (fails : ℕ → ReadingSnapshot → Bool) (index : ℕ) (snapshot : ReadingSnapshot) : Bool :=
  (List.range s.connections.length).any fun number =>
    match s.connections[number]? with
    | some connection => connection.request.sessionId == sessionId &&
        connection.holds ticket index && !connection.disconnected && fails number snapshot
    | none => false

/-! ### The service -/

/-- An operation goes on. No listener makes anybody leave. -/
def proceed (s : QaraaServer) (ticket : ℕ) (answer : ServerAnswer) : QaraaServer :=
  match s.service.entries[ticket]? with
  | none => s
  | some entry =>
      let service := s.service.step options (.proceed ticket
        { corpus := answer.corpus, store := answer.store
          throws := s.throws entry.key ticket answer.fails })
      { s with
        service := service
        connections := s.connections.mapIdx fun number connection =>
          if connection.request.sessionId = entry.key then
            connection.follow (answer.fails number) ticket (s.service.slot entry.key)
              (service.slot entry.key)
          else connection }

/-! ### Requests -/

/-- A request comes in; `newId` is what `#createSessionId` makes for it. -/
def receive (s : QaraaServer) (request : HttpRequest) (newId : String) : QaraaServer :=
  let reply (reply : HttpReply) : QaraaServer :=
    { s with exchanges := s.exchanges ++ [⟨request, none, some reply⟩] }
  match request.intake with
  | .unknownRoute => reply (unknownRouteReply request)
  | .invalidJson observations => reply (invalidJsonReply request observations)
  | .failed => reply (failedReply request)
  | .routed route =>
      match request.action s.exchanges.length newId route with
      | .error error => reply (respond request route (.error error))
      | .ok action =>
          match s.service.refusal options action with
          | some error => reply (respond request route (.error error))
          | none =>
              { s with
                service := s.service.step options action
                exchanges := s.exchanges ++ [⟨request, some s.service.entries.length, none⟩] }

/-- A request is answered once its operation has ended. -/
def answer (s : QaraaServer) (number : ℕ) : QaraaServer :=
  { s with
    exchanges := s.exchanges.modify number fun exchange =>
      match exchange.reply, exchange.request.intake, s.service.outcome exchange.ticket with
      | none, .routed route, some outcome =>
          { exchange with reply := some (respond exchange.request route outcome) }
      | _, _, _ => exchange }

/-! ### Sockets -/

/-- A socket comes in; `fails` says whether an error cannot be sent on it. -/
def connect (s : QaraaServer) (request : StreamRequest) (fails : Bool) : QaraaServer :=
  match negotiate request with
  | none =>
      { s with
        connections := s.connections ++
          [StreamConnection.sendErrorAndClose { request := request } negotiationError 4406 fails] }
  | some lastSnapshotRevision =>
      { s with
        service := s.service.step options (.subscribe s.connections.length
          ⟨request.id, request.sessionId, lastSnapshotRevision⟩)
        connections := s.connections
          ++ [{ request := request, ticket := some s.service.entries.length }] }

/-- The reaction to the promise of a subscription. -/
def settle (s : QaraaServer) (number : ℕ) (fails : Bool) : QaraaServer :=
  match s.connections[number]? with
  | none => s
  | some connection =>
      if connection.handled then s
      else
        match s.service.outcome connection.ticket with
        | some (.ok (.subscribed index)) =>
            { s with
              service :=
                if connection.disconnected then
                  s.service.step options (.unsubscribe connection.request.sessionId index)
                else s.service
              connections := s.connections.set number (connection.onSubscribed index) }
        | some (.error error) =>
            { s with connections := s.connections.set number (connection.onRejected error fails) }
        | _ => s

/-- The callback of an error that was sent. -/
def flush (s : QaraaServer) (number : ℕ) : QaraaServer :=
  { s with connections := s.connections.modify number StreamConnection.flushed }

/-- The `close` event of a socket. -/
def close (s : QaraaServer) (number : ℕ) : QaraaServer :=
  match s.connections[number]? with
  | none => s
  | some connection =>
      { s with
        service :=
          match connection.unsubscribe with
          | some index =>
              s.service.step options (.unsubscribe connection.request.sessionId index)
          | none => s.service
        connections := s.connections.set number connection.onClose }

end QaraaServer

/-! ### The server -/

/-- What can happen at a server. -/
inductive ServerAction where
  | receive (request : HttpRequest) (newId : String)
  | answer (exchange : ℕ)
  | connect (request : StreamRequest) (fails : Bool)
  | settle (connection : ℕ) (fails : Bool)
  | flush (connection : ℕ)
  | close (connection : ℕ)
  | start (ticket : ℕ)
  | proceed (ticket : ℕ) (answer : ServerAnswer)
  | drain (ticket : ℕ)
  | clean (ticket : ℕ)

namespace QaraaServer

variable (options : ServiceOptions)

/-- What happens next. -/
def step (s : QaraaServer) : ServerAction → QaraaServer
  | .receive request newId => s.receive options request newId
  | .answer exchange => s.answer exchange
  | .connect request fails => s.connect options request fails
  | .settle connection fails => s.settle options connection fails
  | .flush connection => s.flush connection
  | .close connection => s.close options connection
  | .start ticket => { s with service := s.service.step options (.start ticket) }
  | .proceed ticket answer => s.proceed options ticket answer
  | .drain ticket => { s with service := s.service.step options (.drain ticket) }
  | .clean ticket => { s with service := s.service.step options (.clean ticket) }

/-- A run of the server. -/
def run (s : QaraaServer) (actions : List ServerAction) : QaraaServer :=
  actions.foldl (step options) s

lemma run_concat (s : QaraaServer) (actions : List ServerAction) (action : ServerAction) :
    s.run options (actions ++ [action]) = (s.run options actions).step options action := by
  rw [run, List.foldl_append]
  rfl

end QaraaServer

end Qaraa.SessionService
