import Qaraa.Client.Requests
import Qaraa.Server.Subscribers

/-!
A remote session, the service and the network between them.

A request is a `fetch` of the client. It reaches the server at most once, at any time after it
was sent, also after its `fetch` has been rejected; a `fetch` that is not rejected brings what
the server has answered. The messages of a socket arrive in order until it closes.

* `Arrival`, `Connection`: what has come to the server.
* `RemoteSystem`: the service, the client, and all that is between them.
* `RemoteSystem.serve`, `RemoteSystem.arrive`, `RemoteSystem.turnAway`,
  `RemoteSystem.accept`, `RemoteSystem.hangUp`: the server's side.
* `RemoteSystem.respond`, `RemoteSystem.receive`, `RemoteSystem.act`: the client's side.
* `openSystem`, `RemoteSystem.step`, `RemoteSystem.run`: the system.
-/

namespace Qaraa.Remote

open Ordered KeyedQueue Client SessionService

/-! ### The state -/

/-- A request that has come to the server: the promise of its operation, unless it was turned
away, and how many states the session had been in. -/
structure Arrival where
  request : ℕ
  ticket : Option ℕ
  since : ℕ

/-- A socket that has come to the server: the promise of its subscription, the index of its
subscriber once there is one, whether it is open there, and the messages that are on their way. -/
structure Connection where
  generation : ℕ
  ticket : ℕ
  index : Option ℕ
  isOpen : Bool
  inFlight : List ReadingSnapshot

/-- The options of both sides. -/
structure SystemOptions where
  service : ServiceOptions
  client : RemoteOptions

/-- `rejected` are the requests whose `fetch` was rejected. `past` are the states the session
has been in at the server, which only statements read. -/
structure RemoteSystem where
  service : Service
  client : RemoteSession
  arrivals : List Arrival
  rejected : List ℕ
  connections : List Connection
  past : List SessionSlot

/-! ### Callers -/

/-- The number of a request of the client as a caller of the service: an odd one. -/
def own (request : ℕ) : ℕ := 2 * request + 1

/-- A call of somebody else: its number is an even one. -/
def foreign : ServiceAction → ServiceAction
  | .reset caller command => .reset (2 * caller) command
  | .submit caller command => .submit (2 * caller) command
  | action => action

/-- The call of the service a request is for. -/
def callOf (request : ℕ) : RemoteCommand → ServiceAction
  | .submit command => .submit (own request) command
  | .reset command => .reset (own request) command

/-! ### Sockets and responses -/

/-- The index of the subscriber a subscription has got in a step of the service. -/
def Connection.joined (action : ServiceAction) (before after : SessionSlot)
    (connection : Connection) : Option ℕ :=
  match action with
  | .proceed ticket _ =>
      if ticket = connection.ticket ∧ before.subscriptions < after.subscriptions then
        some before.subscriptions
      else connection.index
  | _ => connection.index

/-- The snapshots a subscriber was called with in a step of the service. -/
def sentTo (index : Option ℕ) (before after : SessionSlot) : List ReadingSnapshot :=
  match index with
  | some index => (after.received index).drop (before.received index).length
  | none => []

/-- What a step of the service does to a socket. -/
def Connection.follow (action : ServiceAction) (before after : SessionSlot)
    (connection : Connection) : Connection :=
  let index := connection.joined action before after
  { connection with
    index := index
    inFlight := connection.inFlight ++ if connection.isOpen then sentTo index before after else [] }

/-- Whether a response is what the service has answered with, or the HTTP adapter by itself. -/
def reports : Response → Option SessionService.Outcome → Bool
  | .updated snapshot, some (.ok (.updated event)) => snapshot == event.snapshot
  | .refused _, some (.ok _) => false
  | .refused _, _ => true
  | .unusable, _ => true
  | _, _ => false

namespace RemoteSystem

variable (options : SystemOptions)

/-- The session at the server. -/
def slot (s : RemoteSystem) : SessionSlot := s.service.slot options.client.sessionId

/-! ### The server's side -/

/-- The service takes a step. -/
def serve (action : ServiceAction) (s : RemoteSystem) : RemoteSystem :=
  let service := s.service.step options.service action
  let after := service.slot options.client.sessionId
  { s with
    service := service
    connections := s.connections.map (Connection.follow action (s.slot options) after)
    past := s.past ++ [after] }

/-- The request has come to the server. -/
def hasArrived (s : RemoteSystem) (request : ℕ) : Bool :=
  s.arrivals.any fun arrival => arrival.request == request

/-- A request reaches the service. -/
def arrive (request : ℕ) (s : RemoteSystem) : RemoteSystem :=
  match s.client.requests[request]? with
  | none => s
  | some sent =>
      if s.hasArrived request then s
      else
        let action := callOf request sent.command
        let ticket := if (s.service.refusal options.service action).isSome then none
          else some s.service.entries.length
        { s.serve options action with
          arrivals := s.arrivals ++ [⟨request, ticket, s.past.length⟩] }

/-- The HTTP adapter answers a request itself. -/
def turnAway (request : ℕ) (s : RemoteSystem) : RemoteSystem :=
  if request < s.client.requests.length ∧ s.hasArrived request = false then
    { s with arrivals := s.arrivals ++ [⟨request, none, s.past.length⟩] }
  else s

/-- A socket reaches the service, under a request id the WebSocket adapter has made. -/
def accept (generation : ℕ) (requestId : String) (s : RemoteSystem) : RemoteSystem :=
  match s.client.sockets.find? fun socket => socket.generation == generation with
  | none => s
  | some socket =>
      if s.connections.any fun connection => connection.generation == generation then s
      else
        let served := s.serve options (.subscribe generation
          ⟨requestId, options.client.sessionId, socket.lastSnapshotRevision⟩)
        { served with
          connections := served.connections
            ++ [⟨generation, s.service.entries.length, none, true, []⟩] }

/-- A socket closes at the server; the adapter sends nothing on it any more. -/
def hangUp (generation : ℕ) (s : RemoteSystem) : RemoteSystem :=
  { s with
    connections := s.connections.map fun connection =>
      if connection.generation = generation then { connection with isOpen := false }
      else connection }

/-! ### The client's side -/

/-- The last request of a mutation. -/
def lastRequest (s : RemoteSystem) (ticket : ℕ) : Option ℕ :=
  (List.range s.client.requests.length).reverse.find? fun request =>
    (s.client.requests[request]?.map Request.ticket) == some ticket

/-- The request whose answer a mutation awaits. -/
def awaited (s : RemoteSystem) (ticket : ℕ) : Option ℕ :=
  match s.client.mutations.entries[ticket]? with
  | some ⟨_, _, _, .running frame⟩ =>
      if (frame.awaited options.client).isSome then s.lastRequest ticket else none
  | _ => none

/-- Whether a response is what the server has answered a request. -/
def answers (s : RemoteSystem) (request : ℕ) (response : Response) : Bool :=
  s.arrivals.any fun arrival => arrival.request == request &&
    match arrival.ticket with
    | none => reports response none
    | some ticket =>
        match s.service.entries[ticket]?.bind fun entry => entry.phase.result with
        | some outcome => reports response (some outcome)
        | none => false

/-- A mutation goes on. If it awaits a request, the `fetch` is rejected or brings the server's
answer. -/
def respond (ticket : ℕ) (answer : Client.Answer) (s : RemoteSystem) : RemoteSystem :=
  let next := { s with client := s.client.step options.client (.resume ticket answer) }
  match s.awaited options ticket with
  | none => next
  | some request =>
      match answer.response with
      | .failed _ => { next with rejected := s.rejected ++ [request] }
      | response => if s.answers request response then next else s

/-- The next message of a socket comes in. -/
def receive (generation : ℕ) (s : RemoteSystem) : RemoteSystem :=
  match s.connections.find? fun connection => connection.generation == generation with
  | none => s
  | some connection =>
      match connection.inFlight with
      | [] => s
      | snapshot :: rest =>
          { s with
            client := s.client.step options.client
              (.socketEvent generation (.message (some snapshot)))
            connections := s.connections.map fun connection =>
              if connection.generation = generation then { connection with inFlight := rest }
              else connection }

/-- The client takes a step. -/
def act (action : RemoteAction) (s : RemoteSystem) : RemoteSystem :=
  match action with
  | .resume ticket answer => s.respond options ticket answer
  | .socketEvent _ (.message (some _)) => s
  | action => { s with client := s.client.step options.client action }

end RemoteSystem

/-! ### The system -/

/-- What can happen. -/
inductive SystemAction where
  /-- The service goes on, or somebody else calls it. -/
  | serve (action : ServiceAction)
  | arrive (request : ℕ)
  | turnAway (request : ℕ)
  | accept (generation : ℕ) (requestId : String)
  | hangUp (generation : ℕ)
  | receive (generation : ℕ)
  | act (action : RemoteAction)

/-- The client is created on a session of a service, from the answer to its first request. -/
def openSystem (options : SystemOptions) (earlier : List ServiceAction) (ticket : ℕ) (dial : Dial) :
    Option RemoteSystem :=
  let service := Service.run options.service State.empty (earlier.map foreign)
  match service.entries[ticket]? with
  | some ⟨_, .get command, _, phase⟩ =>
      match phase.result with
      | some (.ok (.updated event)) =>
          if command.sessionId = options.client.sessionId then
            match createRemoteSession options.client (.ok event.snapshot) dial with
            | .ok client =>
                some ⟨service, client, [], [], [], [service.slot options.client.sessionId]⟩
            | .error _ => none
          else none
      | _ => none
  | _ => none

namespace RemoteSystem

variable (options : SystemOptions)

/-- What happens next. -/
def step (s : RemoteSystem) : SystemAction → RemoteSystem
  | .serve action => s.serve options (foreign action)
  | .arrive request => s.arrive options request
  | .turnAway request => s.turnAway request
  | .accept generation requestId => s.accept options generation requestId
  | .hangUp generation => s.hangUp generation
  | .receive generation => s.receive options generation
  | .act action => s.act options action

/-- A run of the system. -/
def run (s : RemoteSystem) (actions : List SystemAction) : RemoteSystem :=
  actions.foldl (step options) s

lemma run_concat (s : RemoteSystem) (actions : List SystemAction) (action : SystemAction) :
    s.run options (actions ++ [action]) = (s.run options actions).step options action := by
  rw [run, List.foldl_append]
  rfl

end RemoteSystem

end Qaraa.Remote
