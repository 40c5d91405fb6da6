import Qaraa.Server.Naming
import Qaraa.Server.QaraaServer

/-!
What a step of a server does, and who its operations belong to.

* `ServiceAction.call?`, `newCalls_of_admitted`: the operation a call of the service adds.
* `ServerStep`, `step_serverStep`: all that a step of a server can do.
* `run_service`: the service of a server runs as a service.
* `Wired`, `wired_run`: **every operation of the service belongs to one request or one socket**,
  which has called it.
-/

namespace Qaraa.SessionService

open Fallible Ordered KeyedQueue

/-! ### Calls -/

/-- The operation a call of the service is, when it is admitted. -/
def ServiceAction.call? : ServiceAction → Option (String × Frame)
  | .create sessionId command => some (sessionId, .create command)
  | .get command => some (command.sessionId, .get command)
  | .reset caller command => some (command.sessionId, .reset caller command)
  | .submit caller command =>
      match admitObservation command with
      | .ok o => some (command.sessionId, .submit caller command.requestId o)
      | .error _ => none
  | .resume command => some (command.sessionId, .resume command)
  | .subscribe listener command => some (command.sessionId, .subscribe listener command)
  | .delete command => some (command.sessionId, .delete command)
  | _ => none

lemma newCalls_of_admitted {options : ServiceOptions} {s : Service} {action : ServiceAction}
    (h : s.refusal options action = none) :
    s.newCalls options action = action.call?.toList := by
  rw [Service.newCalls, Service.queueActions.eq_def, h]
  cases action with
  | submit caller command =>
      dsimp only [ServiceAction.call?]
      cases admitObservation command <;> rfl
  | _ => rfl

/-- A request that is admitted calls an operation, which subscribes to nothing. -/
lemma action_call {request : HttpRequest} {caller : ℕ} {newId : String} {route : Route}
    {action : ServiceAction} (haction : request.action caller newId route = .ok action)
    {options : ServiceOptions} {s : Service} (hadmitted : s.refusal options action = none) :
    ∃ key frame, action.call? = some (key, frame) ∧
      ∀ listener command, frame ≠ .subscribe listener command := by
  cases route with
  | create =>
      rw [HttpRequest.action, bind_eq_ok] at haction
      obtain ⟨-, -, heq⟩ := haction
      cases pure_eq_ok.mp heq
      exact ⟨_, _, rfl, fun _ _ hne => by cases hne⟩
  | get sessionId =>
      rw [HttpRequest.action, bind_eq_ok] at haction
      obtain ⟨-, -, heq⟩ := haction
      cases pure_eq_ok.mp heq
      exact ⟨_, _, rfl, fun _ _ hne => by cases hne⟩
  | reset sessionId =>
      rw [HttpRequest.action, bind_eq_ok] at haction
      obtain ⟨-, -, haction⟩ := haction
      rw [bind_eq_ok] at haction
      obtain ⟨-, -, heq⟩ := haction
      cases pure_eq_ok.mp heq
      exact ⟨_, _, rfl, fun _ _ hne => by cases hne⟩
  | observations sessionId =>
      rw [HttpRequest.action, bind_eq_ok] at haction
      obtain ⟨-, -, haction⟩ := haction
      rw [bind_eq_ok] at haction
      obtain ⟨-, -, heq⟩ := haction
      cases pure_eq_ok.mp heq
      rw [Service.refusal] at hadmitted
      rw [ServiceAction.call?]
      cases hchecked : admitObservation (readSubmit request.body) with
      | error error =>
          rw [hchecked] at hadmitted
          cases hadmitted
      | ok o => exact ⟨_, _, rfl, fun _ _ hne => by cases hne⟩
  | resume sessionId =>
      rw [HttpRequest.action, bind_eq_ok] at haction
      obtain ⟨-, -, haction⟩ := haction
      rw [bind_eq_ok] at haction
      obtain ⟨-, -, heq⟩ := haction
      cases pure_eq_ok.mp heq
      exact ⟨_, _, rfl, fun _ _ hne => by cases hne⟩
  | delete sessionId =>
      rw [HttpRequest.action, bind_eq_ok] at haction
      obtain ⟨-, -, heq⟩ := haction
      cases pure_eq_ok.mp heq
      exact ⟨_, _, rfl, fun _ _ hne => by cases hne⟩

/-! ### Steps -/

variable (options : ServiceOptions)

/-- The errors a request is turned away with: it has no route, its checks fail, or its call is
refused. -/
inductive TurnedAway (s : QaraaServer) (request : HttpRequest) (newId : String) :
    TrustedProtocolError → Prop where
  | unrouted (error : TrustedProtocolError) (once : error.retryable = false) :
      TurnedAway s request newId error
  | failed (route : Route) (error : ServiceError)
      (fails : request.action s.exchanges.length newId route = .error error) :
      TurnedAway s request newId (safeError error)
  | refused (action : ServiceAction) (error : ServiceError)
      (refusal : s.service.refusal options action = some error) :
      TurnedAway s request newId (safeError error)

/-- The reply that reports an error, under the id of the request. -/
def HttpRequest.report (request : HttpRequest) (error : TrustedProtocolError) : HttpReply :=
  ⟨errorStatus error, .error (error.toEnvelope request.errorId)⟩

/-- All that a step of a server can do. -/
inductive ServerStep (s : QaraaServer) : ServerAction → QaraaServer → Prop where
  | idle (action : ServerAction) : ServerStep s action s
  | turnedAway (request : HttpRequest) (newId : String) (error : TrustedProtocolError)
      (away : TurnedAway options s request newId error) :
      ServerStep s (.receive request newId)
        { s with exchanges := s.exchanges ++ [⟨request, none, some (request.report error)⟩] }
  | called (request : HttpRequest) (newId : String) (route : Route) (action : ServiceAction)
      (routed : request.intake = .routed route)
      (calls : request.action s.exchanges.length newId route = .ok action)
      (admitted : s.service.refusal options action = none) :
      ServerStep s (.receive request newId)
        { s with
          service := s.service.step options action
          exchanges := s.exchanges ++ [⟨request, some s.service.entries.length, none⟩] }
  | answered (number : ℕ) : ServerStep s (.answer number) (s.answer number)
  | refused (request : StreamRequest) (fails : Bool) (invalid : negotiate request = none) :
      ServerStep s (.connect request fails)
        { s with
          connections := s.connections ++ [StreamConnection.sendErrorAndClose
            { request := request } negotiationError 4406 fails] }
  | subscribed (request : StreamRequest) (fails : Bool) (lastSnapshotRevision : ℕ)
      (valid : negotiate request = some lastSnapshotRevision) :
      ServerStep s (.connect request fails)
        { s with
          service := s.service.step options (.subscribe s.connections.length
            ⟨request.id, request.sessionId, lastSnapshotRevision⟩)
          connections := s.connections
            ++ [{ request := request, ticket := some s.service.entries.length }] }
  | fulfilled (number : ℕ) (fails : Bool) (connection : StreamConnection) (index : ℕ)
      (get : s.connections[number]? = some connection) (pending : connection.handled = false)
      (outcome : s.service.outcome connection.ticket = some (.ok (.subscribed index))) :
      ServerStep s (.settle number fails)
        { s with
          service :=
            if connection.disconnected then
              s.service.step options (.unsubscribe connection.request.sessionId index)
            else s.service
          connections := s.connections.set number (connection.onSubscribed index) }
  | rejected (number : ℕ) (fails : Bool) (connection : StreamConnection) (error : ServiceError)
      (get : s.connections[number]? = some connection) (pending : connection.handled = false)
      (outcome : s.service.outcome connection.ticket = some (.error error)) :
      ServerStep s (.settle number fails)
        { s with connections := s.connections.set number (connection.onRejected error fails) }
  | flushed (number : ℕ) : ServerStep s (.flush number) (s.flush number)
  | closed (number : ℕ) (connection : StreamConnection)
      (get : s.connections[number]? = some connection) :
      ServerStep s (.close number)
        { s with
          service :=
            match connection.unsubscribe with
            | some index =>
                s.service.step options (.unsubscribe connection.request.sessionId index)
            | none => s.service
          connections := s.connections.set number connection.onClose }
  | queued (action : ServerAction) (serviceAction : ServiceAction)
      (isQueued : (∃ ticket, serviceAction = .start ticket) ∨
        (∃ ticket, serviceAction = .drain ticket) ∨ ∃ ticket, serviceAction = .clean ticket) :
      ServerStep s action { s with service := s.service.step options serviceAction }
  | proceeded (ticket : ℕ) (answer : ServerAnswer) :
      ServerStep s (.proceed ticket answer) (s.proceed options ticket answer)

lemma receive_serverStep (s : QaraaServer) (request : HttpRequest) (newId : String) :
    ServerStep options s (.receive request newId) (s.receive options request newId) := by
  rw [QaraaServer.receive]
  dsimp only
  split
  · exact .turnedAway request newId _ (.unrouted
      ⟨.sessionNotFound, "Route was not found", false, none⟩ rfl)
  · rename_i observations hintake
    have hstatus : invalidJsonReply request observations = request.report
        ⟨if observations then .invalidObservation else .invalidCorpus,
          "Request body is not valid JSON", false, none⟩ := by
      cases observations <;> rfl
    rw [hstatus]
    exact .turnedAway request newId _ (.unrouted _ rfl)
  · exact .turnedAway request newId _ (.unrouted internalError rfl)
  · rename_i route hroute
    split
    · rename_i error herror
      exact .turnedAway request newId _ (.failed route error herror)
    · rename_i action haction
      split
      · rename_i error herror
        exact .turnedAway request newId _ (.refused action error herror)
      · rename_i hadmitted
        exact .called request newId route action hroute haction hadmitted

lemma settle_serverStep (s : QaraaServer) (number : ℕ) (fails : Bool) :
    ServerStep options s (.settle number fails) (s.settle options number fails) := by
  rw [QaraaServer.settle]
  split
  · exact .idle _
  · rename_i connection hget
    split
    · exact .idle _
    · rename_i hpending
      split
      · rename_i index houtcome
        exact .fulfilled number fails connection index hget (Bool.eq_false_iff.mpr hpending)
          houtcome
      · rename_i error houtcome
        exact .rejected number fails connection error hget (Bool.eq_false_iff.mpr hpending) houtcome
      · exact .idle _

/-- **What a step of a server does.** -/
theorem step_serverStep (s : QaraaServer) (action : ServerAction) :
    ServerStep options s action (s.step options action) := by
  cases action with
  | receive request newId => exact receive_serverStep options s request newId
  | answer number => exact .answered number
  | connect request fails =>
      rw [QaraaServer.step, QaraaServer.connect]
      split
      · rename_i hinvalid
        exact .refused request fails hinvalid
      · rename_i lastSnapshotRevision hvalid
        exact .subscribed request fails lastSnapshotRevision hvalid
  | settle number fails => exact settle_serverStep options s number fails
  | flush number => exact .flushed number
  | close number =>
      rw [QaraaServer.step, QaraaServer.close]
      split
      · exact .idle _
      · rename_i connection hget
        exact .closed number connection hget
  | start ticket => exact .queued _ (.start ticket) (Or.inl ⟨ticket, rfl⟩)
  | proceed ticket answer => exact .proceeded ticket answer
  | drain ticket => exact .queued _ (.drain ticket) (Or.inr (Or.inl ⟨ticket, rfl⟩))
  | clean ticket => exact .queued _ (.clean ticket) (Or.inr (Or.inr ⟨ticket, rfl⟩))

/-! ### The service of a server -/

/-- Whether the store answers with a verdict, if it is asked. -/
def ServerAction.onStore (action : ServerAction) (verdicts : List StoreVerdict) : Bool :=
  match action with
  | .proceed _ contribution => verdicts.contains contribution.store
  | _ => true

lemma onStore_of_call {action : ServiceAction} {key : String} {frame : Frame}
    (h : action.call? = some (key, frame)) (verdicts : List StoreVerdict) :
    action.onStore verdicts = true := by
  cases action with
  | proceed ticket answer => cases h
  | _ => rfl

/-- The service of a server takes at most one step. -/
lemma step_service (s : QaraaServer) (action : ServerAction) :
    (s.step options action).service = s.service ∨ ∃ serviceAction,
      (s.step options action).service = s.service.step options serviceAction ∧
        ∀ verdicts, action.onStore verdicts = true → serviceAction.onStore verdicts = true := by
  have hstep := step_serverStep options s action
  generalize s.step options action = after at hstep
  cases hstep with
  | idle _ => exact Or.inl rfl
  | turnedAway request newId error away => exact Or.inl rfl
  | called request newId route serviceAction routed calls admitted =>
      obtain ⟨key, frame, hcall, -⟩ := action_call calls admitted
      exact Or.inr ⟨serviceAction, rfl, fun verdicts _ => onStore_of_call hcall verdicts⟩
  | answered number => exact Or.inl rfl
  | refused request fails invalid => exact Or.inl rfl
  | subscribed request fails lastSnapshotRevision valid =>
      exact Or.inr ⟨.subscribe _ _, rfl, fun _ _ => rfl⟩
  | fulfilled number fails connection index get pending outcome =>
      cases hdisconnected : connection.disconnected with
      | true => exact Or.inr ⟨.unsubscribe _ _, rfl, fun _ _ => rfl⟩
      | false => exact Or.inl rfl
  | rejected number fails connection error get pending outcome => exact Or.inl rfl
  | flushed number => exact Or.inl rfl
  | closed number connection get =>
      cases hunsubscribe : connection.unsubscribe with
      | some index => exact Or.inr ⟨.unsubscribe _ _, rfl, fun _ _ => rfl⟩
      | none => exact Or.inl rfl
  | queued _ serviceAction isQueued =>
      refine Or.inr ⟨serviceAction, rfl, fun _ _ => ?_⟩
      rcases isQueued with ⟨ticket, rfl⟩ | ⟨ticket, rfl⟩ | ⟨ticket, rfl⟩ <;> rfl
  | proceeded ticket answer =>
      rw [QaraaServer.proceed]
      split
      · exact Or.inl rfl
      · exact Or.inr ⟨_, rfl, fun _ hstore => hstore⟩

/-- **The service of a server runs as a service.** -/
theorem run_service (actions : List ServerAction) {verdicts : List StoreVerdict}
    (h : ∀ action ∈ actions, action.onStore verdicts = true) :
    ∃ serviceActions, (QaraaServer.run options {} actions).service
        = Service.run options State.empty serviceActions ∧
      ∀ action ∈ serviceActions, action.onStore verdicts = true := by
  induction actions using List.reverseRecOn with
  | nil => exact ⟨[], rfl, fun _ hmem => by cases hmem⟩
  | append_singleton actions action ih =>
      obtain ⟨serviceActions, hservice, hstore⟩ := ih fun a ha => h a (by simp [ha])
      rw [QaraaServer.run_concat]
      rcases step_service options (QaraaServer.run options {} actions) action with
        heq | ⟨serviceAction, heq, hverdict⟩
      · exact ⟨serviceActions, heq.trans hservice, hstore⟩
      · refine ⟨serviceActions ++ [serviceAction], ?_, fun a ha => ?_⟩
        · rw [heq, hservice, run_concat]
        · rcases List.mem_append.mp ha with ha | ha
          · exact hstore a ha
          · rw [List.mem_singleton.mp ha]
            exact hverdict verdicts (h action (by simp))

/-! ### Who calls -/

/-- What a socket has been called with, in the order of the calls. -/
lemma foldl_listen (connection : StreamConnection) (fails : ReadingSnapshot → Bool)
    (events : List SnapshotUpdatedEvent) :
    events.foldl (fun connection event => connection.listen fails event) connection
      = { connection with sent := connection.sent ++ if connection.disconnected then [] else
          (events.filter fun event => !fails event.snapshot).map .event } := by
  induction events generalizing connection with
  | nil => cases hdisconnected : connection.disconnected <;> simp [← hdisconnected]
  | cons event events ih =>
      rw [List.foldl_cons, ih, StreamConnection.listen]
      cases hdisconnected : connection.disconnected with
      | true => simp [hdisconnected]
      | false => cases hfails : fails event.snapshot <;> simp [hdisconnected, hfails]

/-- A socket after a segment of its session. -/
lemma follow_eq (connection : StreamConnection) (fails : ReadingSnapshot → Bool) (ticket : ℕ)
    (before after : SessionSlot) : ∃ index sent,
    connection.follow fails ticket before after
      = { connection with index := index, sent := connection.sent ++ sent } :=
  ⟨_, _, foldl_listen _ _ _⟩

/-- The request of an exchange and its promise. -/
def Exchange.wire (exchange : Exchange) : HttpRequest × Option ℕ :=
  (exchange.request, exchange.ticket)

/-- The request of a socket and its promise. -/
def StreamConnection.wire (connection : StreamConnection) : StreamRequest × Option ℕ :=
  (connection.request, connection.ticket)

/-- The requests and the promises of a server are the same. -/
structure SameWires (s after : QaraaServer) : Prop where
  exchanges : after.exchanges.map Exchange.wire = s.exchanges.map Exchange.wire
  connections : after.connections.map StreamConnection.wire
    = s.connections.map StreamConnection.wire

lemma map_set_of_eq {α β : Type} {f : α → β} {items : List α} {number : ℕ} {old new : α}
    (hget : items[number]? = some old) (hsame : f new = f old) :
    (items.set number new).map f = items.map f := by
  refine List.ext_getElem? fun i => ?_
  rw [List.getElem?_map, List.getElem?_map, List.getElem?_set]
  split
  · rename_i heq
    subst heq
    rw [hget, if_pos (List.getElem?_eq_some_iff.mp hget).1]
    exact congrArg some hsame
  · rfl

lemma map_modify_of_eq {α β : Type} {f : α → β} {items : List α} {number : ℕ} {change : α → α}
    (hsame : ∀ a, f (change a) = f a) : (items.modify number change).map f = items.map f := by
  refine List.ext_getElem? fun i => ?_
  rw [List.getElem?_map, List.getElem?_map, List.getElem?_modify]
  cases items[i]? with
  | none => rfl
  | some a => by_cases hi : number = i <;> simp [hi, hsame]

lemma map_mapIdx_of_eq {α β : Type} {f : α → β} {items : List α} {change : ℕ → α → α}
    (hsame : ∀ i a, f (change i a) = f a) : (items.mapIdx change).map f = items.map f := by
  refine List.ext_getElem? fun i => ?_
  rw [List.getElem?_map, List.getElem?_map, List.getElem?_mapIdx]
  cases items[i]? with
  | none => rfl
  | some a => simp [hsame]

/-- What is done to the socket itself leaves its subscription. -/
structure SameSubscription (connection after : StreamConnection) : Prop where
  wire : after.wire = connection.wire
  handled : after.handled = connection.handled
  disconnected : after.disconnected = connection.disconnected
  unsubscribe : after.unsubscribe = connection.unsubscribe

lemma close_same (connection : StreamConnection) (code : ℕ × QaraaErrorCode) :
    SameSubscription connection (connection.close code) := by
  rw [StreamConnection.close]
  split <;> exact ⟨rfl, rfl, rfl, rfl⟩

lemma sendErrorAndClose_same (connection : StreamConnection) (error : TrustedProtocolError)
    (code : ℕ) (fails : Bool) :
    SameSubscription connection (connection.sendErrorAndClose error code fails) := by
  rw [StreamConnection.sendErrorAndClose]
  dsimp only
  split
  · obtain ⟨hwire, hhandled, hdisconnected, hunsubscribe⟩ := close_same
      { connection with closing := some (code, error.code) } (code, error.code)
    exact ⟨hwire, hhandled, hdisconnected, hunsubscribe⟩
  · exact ⟨rfl, rfl, rfl, rfl⟩

lemma onRejected_same (connection : StreamConnection) (error : ServiceError) (fails : Bool) :
    SameSubscription { connection with handled := true } (connection.onRejected error fails) := by
  rw [StreamConnection.onRejected.eq_def]
  dsimp only
  split
  · exact ⟨rfl, rfl, rfl, rfl⟩
  · cases error <;> exact sendErrorAndClose_same _ _ _ _

lemma flushed_same (connection : StreamConnection) :
    SameSubscription connection connection.flushed := by
  rw [StreamConnection.flushed]
  split
  · exact close_same _ _
  · exact ⟨rfl, rfl, rfl, rfl⟩

lemma follow_same (connection : StreamConnection) (fails : ReadingSnapshot → Bool) (ticket : ℕ)
    (before after : SessionSlot) :
    SameSubscription connection (connection.follow fails ticket before after) := by
  obtain ⟨index, sent, heq⟩ := follow_eq connection fails ticket before after
  rw [heq]
  exact ⟨rfl, rfl, rfl, rfl⟩

lemma answer_wires (s : QaraaServer) (number : ℕ) : SameWires s (s.answer number) where
  exchanges := map_modify_of_eq fun exchange => by split <;> rfl
  connections := rfl

lemma proceed_wires (s : QaraaServer) (ticket : ℕ) (answer : ServerAnswer) :
    SameWires s (s.proceed options ticket answer) := by
  rw [QaraaServer.proceed]
  split
  · exact ⟨rfl, rfl⟩
  · refine ⟨rfl, map_mapIdx_of_eq fun number connection => ?_⟩
    split
    · exact (follow_same connection _ _ _ _).wire
    · rfl

/-- The promises of a server. -/
def QaraaServer.tickets (s : QaraaServer) : List ℕ :=
  s.exchanges.filterMap Exchange.ticket ++ s.connections.filterMap StreamConnection.ticket

lemma SameWires.tickets {s after : QaraaServer} (h : SameWires s after) :
    after.tickets = s.tickets := by
  have hexchanges : ∀ exchanges : List Exchange, exchanges.filterMap Exchange.ticket
      = (exchanges.map Exchange.wire).filterMap Prod.snd := by
    intro exchanges
    rw [List.filterMap_map]
    rfl
  have hconnections : ∀ connections : List StreamConnection,
      connections.filterMap StreamConnection.ticket
        = (connections.map StreamConnection.wire).filterMap Prod.snd := by
    intro connections
    rw [List.filterMap_map]
    rfl
  rw [QaraaServer.tickets, hexchanges, hconnections, h.exchanges, h.connections, ← hexchanges,
    ← hconnections]
  rfl

/-- Whose the operations of a server are: each is that of one request or of one socket, which has
called it. -/
structure Wired (s : QaraaServer) : Prop where
  tickets : s.tickets.Perm (List.range s.service.calls.length)
  exchanges : ∀ (number : ℕ) (request : HttpRequest) (ticket : ℕ),
    (s.exchanges.map Exchange.wire)[number]? = some (request, some ticket) →
      ∃ (route : Route) (newId : String) (action : ServiceAction) (call : String × Frame),
        request.intake = .routed route ∧ request.action number newId route = .ok action ∧
        action.call? = some call ∧ (∀ listener command, call.2 ≠ .subscribe listener command) ∧
          s.service.calls[ticket]? = some call
  sockets : ∀ (number : ℕ) (request : StreamRequest) (ticket : ℕ),
    (s.connections.map StreamConnection.wire)[number]? = some (request, some ticket) →
      ∃ lastSnapshotRevision, negotiate request = some lastSnapshotRevision ∧
        s.service.calls[ticket]? = some (request.sessionId, .subscribe number
          ⟨request.id, request.sessionId, lastSnapshotRevision⟩)

/-- Nothing is called. -/
lemma Wired.quiet {s after : QaraaServer} (h : Wired s) (hwires : SameWires s after)
    (hcalls : after.service.calls = s.service.calls) : Wired after where
  tickets := by
    rw [hwires.tickets, hcalls]
    exact h.tickets
  exchanges := by
    rw [hwires.exchanges, hcalls]
    exact h.exchanges
  sockets := by
    rw [hwires.connections, hcalls]
    exact h.sockets

/-- A call of the service that is no operation. -/
lemma calls_of_none {s : Service} {action : ServiceAction} (hcall : action.call? = none)
    (hadmitted : s.refusal options action = none) : (s.step options action).calls = s.calls := by
  rw [Service.calls_step, newCalls_of_admitted hadmitted, hcall]
  exact List.append_nil _

lemma calls_of_some {s : Service} {action : ServiceAction} {call : String × Frame}
    (hcall : action.call? = some call) (hadmitted : s.refusal options action = none) :
    (s.step options action).calls = s.calls ++ [call] := by
  rw [Service.calls_step, newCalls_of_admitted hadmitted, hcall]
  rfl

lemma getElem?_calls_append {calls : List (String × Frame)} {ticket : ℕ} {call new : String × Frame}
    (h : calls[ticket]? = some call) : (calls ++ [new])[ticket]? = some call := by
  rw [List.getElem?_append_left (List.getElem?_eq_some_iff.mp h).1, h]

/-- A new item is the last one of a list, or an old one is where it was. -/
lemma getElem?_concat_cases {α : Type} {items : List α} {item found : α} {number : ℕ}
    (h : (items ++ [item])[number]? = some found) :
    items[number]? = some found ∨ number = items.length ∧ found = item := by
  rcases Nat.lt_or_ge number items.length with hlt | hle
  · rw [List.getElem?_append_left hlt] at h
    exact Or.inl h
  · rw [List.getElem?_append_right hle] at h
    have hzero : number - items.length = 0 := by
      have hlt := (List.getElem?_eq_some_iff.mp h).1
      rw [List.length_singleton] at hlt
      omega
    rw [hzero] at h
    exact Or.inr ⟨by omega, (Option.some.inj h).symm⟩

/-- A request was turned away. -/
lemma Wired.turnedAway {s : QaraaServer} (h : Wired s) (request : HttpRequest) (reply : HttpReply) :
    Wired { s with exchanges := s.exchanges ++ [⟨request, none, some reply⟩] } where
  tickets := by
    have hsame : QaraaServer.tickets
        { s with exchanges := s.exchanges ++ [⟨request, none, some reply⟩] } = s.tickets := by
      simp [QaraaServer.tickets]
    rw [hsame]
    exact h.tickets
  exchanges := by
    intro number request' ticket hget
    rw [List.map_append] at hget
    rcases getElem?_concat_cases hget with hold | ⟨-, heq⟩
    · exact h.exchanges number request' ticket hold
    · cases heq
  sockets := h.sockets

/-- A request calls its operation. -/
lemma Wired.called {s : QaraaServer} (h : Wired s) {request : HttpRequest} {newId : String}
    {route : Route} {action : ServiceAction} (routed : request.intake = .routed route)
    (calls : request.action s.exchanges.length newId route = .ok action)
    (admitted : s.service.refusal options action = none) :
    Wired { s with
      service := s.service.step options action
      exchanges := s.exchanges ++ [⟨request, some s.service.entries.length, none⟩] } := by
  obtain ⟨key, frame, hcall, hnot⟩ := action_call calls admitted
  have hcalls := calls_of_some options hcall admitted
  have hlength : s.service.calls.length = s.service.entries.length := s.service.calls_length
  refine ⟨?_, fun number request' ticket hget => ?_, fun number request' ticket hget => ?_⟩
  · rw [hcalls, List.length_append, List.length_singleton, List.range_succ, hlength]
    have hperm := (h.tickets.append_right [s.service.entries.length])
    rw [hlength] at hperm
    refine List.Perm.trans ?_ hperm
    rw [QaraaServer.tickets, QaraaServer.tickets, List.filterMap_append, List.append_assoc,
      List.append_assoc]
    exact List.Perm.append_left _ List.perm_append_comm
  · rw [List.map_append] at hget
    rw [hcalls]
    rcases getElem?_concat_cases hget with hold | ⟨hnumber, heq⟩
    · obtain ⟨route', newId', action', call, hrouted, haction, hsome, hother, hfound⟩ :=
        h.exchanges number request' ticket hold
      exact ⟨route', newId', action', call, hrouted, haction, hsome, hother,
        getElem?_calls_append hfound⟩
    · cases heq
      rw [List.length_map] at hnumber
      subst hnumber
      refine ⟨route, newId, action, _, routed, calls, hcall, hnot, ?_⟩
      rw [← hlength, List.getElem?_concat_length]
  · rw [hcalls]
    obtain ⟨lastSnapshotRevision, hvalid, hfound⟩ := h.sockets number request' ticket hget
    exact ⟨lastSnapshotRevision, hvalid, getElem?_calls_append hfound⟩

/-- A socket is turned away. -/
lemma Wired.refused {s : QaraaServer} (h : Wired s) (connection : StreamConnection)
    (hticket : connection.ticket = none) :
    Wired { s with connections := s.connections ++ [connection] } where
  tickets := by
    have hsame : QaraaServer.tickets { s with connections := s.connections ++ [connection] }
        = s.tickets := by
      simp [QaraaServer.tickets, hticket]
    rw [hsame]
    exact h.tickets
  exchanges := h.exchanges
  sockets := by
    intro number request' ticket hget
    rw [List.map_append] at hget
    rcases getElem?_concat_cases hget with hold | ⟨-, heq⟩
    · exact h.sockets number request' ticket hold
    · rw [StreamConnection.wire, hticket] at heq
      cases heq

/-- A socket subscribes. -/
lemma Wired.subscribed {s : QaraaServer} (h : Wired s) {request : StreamRequest}
    {lastSnapshotRevision : ℕ} (valid : negotiate request = some lastSnapshotRevision) :
    Wired { s with
      service := s.service.step options (.subscribe s.connections.length
        ⟨request.id, request.sessionId, lastSnapshotRevision⟩)
      connections := s.connections
        ++ [{ request := request, ticket := some s.service.entries.length }] } := by
  have hcalls : (s.service.step options (.subscribe s.connections.length
      ⟨request.id, request.sessionId, lastSnapshotRevision⟩)).calls = s.service.calls
        ++ [(request.sessionId, .subscribe s.connections.length
          ⟨request.id, request.sessionId, lastSnapshotRevision⟩)] :=
    calls_of_some options rfl rfl
  have hlength : s.service.calls.length = s.service.entries.length := s.service.calls_length
  refine ⟨?_, fun number request' ticket hget => ?_, fun number request' ticket hget => ?_⟩
  · rw [hcalls, List.length_append, List.length_singleton, List.range_succ, hlength]
    have hperm := (h.tickets.append_right [s.service.entries.length])
    rw [hlength] at hperm
    refine List.Perm.trans ?_ hperm
    rw [QaraaServer.tickets, QaraaServer.tickets, List.filterMap_append, List.append_assoc]
    exact List.Perm.refl _
  · rw [hcalls]
    obtain ⟨route', newId', action', call, hrouted, haction, hsome, hother, hfound⟩ :=
      h.exchanges number request' ticket hget
    exact ⟨route', newId', action', call, hrouted, haction, hsome, hother,
      getElem?_calls_append hfound⟩
  · rw [List.map_append] at hget
    rw [hcalls]
    rcases getElem?_concat_cases hget with hold | ⟨hnumber, heq⟩
    · obtain ⟨last, hvalid, hfound⟩ := h.sockets number request' ticket hold
      exact ⟨last, hvalid, getElem?_calls_append hfound⟩
    · cases heq
      rw [List.length_map] at hnumber
      subst hnumber
      refine ⟨lastSnapshotRevision, valid, ?_⟩
      rw [← hlength, List.getElem?_concat_length]

/-- **Every step keeps the operations with their owners.** -/
theorem Wired.step {s : QaraaServer} (h : Wired s) (action : ServerAction) :
    Wired (s.step options action) := by
  have hstep := step_serverStep options s action
  generalize s.step options action = after at hstep
  cases hstep with
  | idle _ => exact h
  | turnedAway request newId error away => exact h.turnedAway request _
  | called request newId route serviceAction routed calls admitted =>
      exact h.called options routed calls admitted
  | answered number => exact h.quiet (answer_wires s number) rfl
  | refused request fails invalid =>
      refine h.refused _ ?_
      exact congrArg Prod.snd (sendErrorAndClose_same { request := request } _ _ _).wire
  | subscribed request fails lastSnapshotRevision valid => exact h.subscribed options valid
  | fulfilled number fails connection index get pending outcome =>
      refine h.quiet ⟨rfl, map_set_of_eq get rfl⟩ ?_
      dsimp only
      split
      · exact calls_of_none options rfl rfl
      · rfl
  | rejected number fails connection error get pending outcome =>
      exact h.quiet ⟨rfl, map_set_of_eq get (onRejected_same _ _ _).wire⟩ rfl
  | flushed number => exact h.quiet ⟨rfl, map_modify_of_eq fun c => (flushed_same c).wire⟩ rfl
  | closed number connection get =>
      refine h.quiet ⟨rfl, map_set_of_eq get rfl⟩ ?_
      dsimp only
      split
      · exact calls_of_none options rfl rfl
      · rfl
  | queued _ serviceAction isQueued =>
      refine h.quiet ⟨rfl, rfl⟩ ?_
      rcases isQueued with ⟨ticket, rfl⟩ | ⟨ticket, rfl⟩ | ⟨ticket, rfl⟩
      · exact calls_of_none options rfl rfl
      · exact calls_of_none options rfl rfl
      · exact calls_of_none options rfl rfl
  | proceeded ticket answer =>
      refine h.quiet (proceed_wires options s ticket answer) ?_
      rw [QaraaServer.proceed]
      split
      · rfl
      · exact calls_of_none options rfl rfl

/-- **Every operation of the service belongs to one request or one socket.** -/
theorem wired_run (actions : List ServerAction) : Wired (QaraaServer.run options {} actions) := by
  induction actions using List.reverseRecOn with
  | nil =>
      exact ⟨List.Perm.refl _, fun _ _ _ hget => (by cases hget), fun _ _ _ hget => (by cases hget)⟩
  | append_singleton actions action ih =>
      rw [QaraaServer.run_concat]
      exact ih.step options action

end Qaraa.SessionService
