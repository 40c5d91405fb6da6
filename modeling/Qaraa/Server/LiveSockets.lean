import Qaraa.Server.ServerRuns

/-!
The subscribers of a server and its sockets.

* `Attached`: what the adapter knows of a subscription it has handled: the number of its
  subscriber, which is gone once the socket is.
* `attached_run`: it knows that in every run.
* `StreamConnection.live`: a socket that is open, or whose subscription is still to be handled.
* `no_stray_subscriber`: **every subscriber is that of one live socket, and there are no more
  subscribers than live sockets**.
-/

namespace Qaraa.SessionService

open Fallible Ordered KeyedQueue

/-! ### Promises -/

lemma outcome_eq_some {s : Service} {ticket : ℕ} {outcome : Outcome} :
    s.outcome (some ticket) = some outcome ↔
      ∃ sessionId call, s.Resolves ticket sessionId call outcome := by
  rw [Service.outcome, Option.bind_some]
  constructor
  · intro h
    obtain ⟨⟨key, call, previous, phase⟩, hentry, hresult⟩ := Option.bind_eq_some_iff.mp h
    exact ⟨key, call, previous, phase, hentry, hresult⟩
  · rintro ⟨sessionId, call, previous, phase, hentry, hresult⟩
    rw [hentry]
    exact hresult

/-- A promise that has settled keeps its result. -/
lemma outcome_step {s : Service} {ticket : Option ℕ} {outcome : Outcome}
    (h : s.outcome ticket = some outcome) (options : ServiceOptions) (action : ServiceAction) :
    (s.step options action).outcome ticket = some outcome := by
  cases ticket with
  | none => cases h
  | some ticket =>
      obtain ⟨sessionId, call, hresolves⟩ := outcome_eq_some.mp h
      exact outcome_eq_some.mpr ⟨sessionId, call, hresolves.step options action⟩

/-- The call of a promise that has settled. -/
lemma Service.Resolves.call {s : Service} {ticket : ℕ} {sessionId : String} {call : Frame}
    {outcome : Outcome} (h : s.Resolves ticket sessionId call outcome) :
    s.calls[ticket]? = some (sessionId, call) := by
  obtain ⟨previous, phase, hentry, -⟩ := h
  rw [s.calls_getElem, hentry]
  rfl

/-! ### What the adapter knows -/

/-- A service has run. -/
def Service.HasRun (options : ServiceOptions) (s : Service) : Prop :=
  ∃ actions, s = Service.run options State.empty actions

/-- What the adapter knows of a subscription it has handled. -/
structure Attached (s : Service) (connection : StreamConnection) : Prop where
  settled : connection.handled = true → ∃ outcome, s.outcome connection.ticket = some outcome ∧
    ∀ index, outcome = .ok (.subscribed index) → connection.unsubscribe = some index
  called : ∀ index, connection.unsubscribe = some index → ∃ ticket call,
    s.Resolves ticket connection.request.sessionId call (.ok (.subscribed index))
  left : connection.disconnected = true → ∀ index, connection.unsubscribe = some index →
    ∀ subscriber ∈ (s.slot connection.request.sessionId).subscribers, subscriber.index ≠ index

namespace Attached

variable {s : Service} {connection : StreamConnection}

/-- Nothing but the subscription matters. -/
lemma congr (h : Attached s connection) {after : StreamConnection}
    (hsame : SameSubscription connection after) : Attached s after := by
  obtain ⟨hrequest, hticket⟩ := Prod.mk.inj hsame.wire
  refine ⟨?_, ?_, ?_⟩
  · rw [hsame.handled, hticket, hsame.unsubscribe]
    exact h.settled
  · rw [hsame.unsubscribe, hrequest]
    exact h.called
  · rw [hsame.disconnected, hsame.unsubscribe, hrequest]
    exact h.left

/-- A socket whose subscription is not handled yet. -/
lemma fresh (hhandled : connection.handled = false) (hunsubscribe : connection.unsubscribe = none) :
    Attached s connection where
  settled := by
    intro htrue
    rw [hhandled] at htrue
    cases htrue
  called := by
    intro index hsome
    rw [hunsubscribe] at hsome
    cases hsome
  left := by
    intro _ index hsome
    rw [hunsubscribe] at hsome
    cases hsome

/-- **The service goes on**: a number that has left is not given again. -/
lemma step (h : Attached s connection) {options : ServiceOptions} (hrun : s.HasRun options)
    (action : ServiceAction) : Attached (s.step options action) connection where
  settled := by
    intro hhandled
    obtain ⟨outcome, houtcome, hnumber⟩ := h.settled hhandled
    exact ⟨outcome, outcome_step houtcome options action, hnumber⟩
  called := by
    intro index hunsubscribe
    obtain ⟨ticket, call, hresolves⟩ := h.called index hunsubscribe
    exact ⟨ticket, call, hresolves.step options action⟩
  left := by
    intro hdisconnected index hunsubscribe subscriber hmem
    rcases step_joined options s action hmem with hold | ⟨hindex, -⟩
    · exact h.left hdisconnected index hunsubscribe subscriber hold
    · obtain ⟨ticket, call, hresolves⟩ := h.called index hunsubscribe
      obtain ⟨actions, rfl⟩ := hrun
      have hgiven := given_of_run options actions hresolves
      omega

end Attached

/-- After an unsubscribe function was called its subscriber is gone. -/
lemma unsubscribe_left (options : ServiceOptions) (s : Service) (sessionId : String) (index : ℕ) :
    ∀ subscriber ∈ ((s.step options (.unsubscribe sessionId index)).slot sessionId).subscribers,
      subscriber.index ≠ index := by
  intro subscriber hmem
  have hslot := slot_step options s sessionId (.unsubscribe sessionId index)
  have hevent : sessionEvent options s sessionId (.unsubscribe sessionId index)
      = some (.inr index) := if_pos rfl
  rw [hevent] at hslot
  dsimp only at hslot
  rw [hslot, releaseSubscriber_eq] at hmem
  simpa using (List.mem_filter.mp hmem).2

/-- A server whose adapter knows its subscriptions. -/
def AllAttached (options : ServiceOptions) (s : QaraaServer) : Prop :=
  s.service.HasRun options ∧ ∀ connection ∈ s.connections, Attached s.service connection

variable {options : ServiceOptions}

/-- The service of a server goes on. -/
lemma AllAttached.served {s : QaraaServer} (h : AllAttached options s) (action : ServiceAction) :
    AllAttached options { s with service := s.service.step options action } := by
  refine ⟨?_, fun connection hmem => (h.2 connection hmem).step h.1 action⟩
  obtain ⟨actions, hrun⟩ := h.1
  refine ⟨actions ++ [action], ?_⟩
  rw [run_concat]
  exact congrArg (Service.step options · action) hrun

/-- One more socket. -/
lemma AllAttached.append {s : QaraaServer} (h : AllAttached options s)
    {connection : StreamConnection} (hnew : Attached s.service connection) :
    AllAttached options { s with connections := s.connections ++ [connection] } := by
  refine ⟨h.1, fun found hmem => ?_⟩
  rcases List.mem_append.mp hmem with hold | hlast
  · exact h.2 found hold
  · rw [List.mem_singleton.mp hlast]
    exact hnew

/-- One socket has changed. -/
lemma AllAttached.set {s : QaraaServer} (h : AllAttached options s) (number : ℕ)
    {connection : StreamConnection} (hnew : Attached s.service connection) :
    AllAttached options { s with connections := s.connections.set number connection } := by
  refine ⟨h.1, fun found hmem => ?_⟩
  rcases List.mem_or_eq_of_mem_set hmem with hold | rfl
  · exact h.2 found hold
  · exact hnew

/-- The number a socket's subscription was answered with is one of its session. -/
lemma resolves_of_outcome {s : QaraaServer} (hwired : Wired s) {number : ℕ}
    {connection : StreamConnection} (hget : s.connections[number]? = some connection)
    {outcome : Outcome} (h : s.service.outcome connection.ticket = some outcome) :
    ∃ ticket call, s.service.Resolves ticket connection.request.sessionId call outcome := by
  cases hticket : connection.ticket with
  | none =>
      rw [hticket] at h
      cases h
  | some ticket =>
      rw [hticket] at h
      obtain ⟨sessionId, call, hresolves⟩ := outcome_eq_some.mp h
      have hwire : (s.connections.map StreamConnection.wire)[number]?
          = some (connection.request, some ticket) := by
        rw [List.getElem?_map, hget, Option.map_some, StreamConnection.wire, hticket]
      obtain ⟨last, -, hcall⟩ := hwired.sockets number connection.request ticket hwire
      rw [hresolves.call] at hcall
      cases hcall
      exact ⟨ticket, _, hresolves⟩

/-- The promise of a subscription is fulfilled. -/
lemma AllAttached.fulfilled {s : QaraaServer} (h : AllAttached options s) (hwired : Wired s)
    {number : ℕ} {connection : StreamConnection} {index : ℕ}
    (hget : s.connections[number]? = some connection)
    (houtcome : s.service.outcome connection.ticket = some (.ok (.subscribed index))) :
    AllAttached options { s with
      service :=
        if connection.disconnected then
          s.service.step options (.unsubscribe connection.request.sessionId index)
        else s.service
      connections := s.connections.set number (connection.onSubscribed index) } := by
  obtain ⟨ticket, call, hresolves⟩ := resolves_of_outcome hwired hget houtcome
  cases hdisconnected : connection.disconnected with
  | true =>
      refine (h.served (.unsubscribe connection.request.sessionId index)).set number
        ⟨fun _ => ⟨_, outcome_step houtcome _ _, fun index' heq => ?_⟩, fun index' heq => ?_,
          fun _ index' heq => ?_⟩
      · cases heq
        rfl
      · cases heq
        exact ⟨ticket, call, hresolves.step options _⟩
      · cases heq
        exact unsubscribe_left options s.service connection.request.sessionId index
  | false =>
      refine h.set number
        ⟨fun _ => ⟨_, houtcome, fun index' heq => ?_⟩, fun index' heq => ?_, fun htrue => ?_⟩
      · cases heq
        rfl
      · cases heq
        exact ⟨ticket, call, hresolves⟩
      · change connection.disconnected = true at htrue
        rw [hdisconnected] at htrue
        cases htrue

/-- The promise of a subscription is rejected. -/
lemma AllAttached.rejected {s : QaraaServer} (h : AllAttached options s) {number : ℕ}
    {connection : StreamConnection} {error : ServiceError}
    (hget : s.connections[number]? = some connection)
    (houtcome : s.service.outcome connection.ticket = some (.error error)) (fails : Bool) :
    AllAttached options
      { s with connections := s.connections.set number (connection.onRejected error fails) } := by
  have hold := h.2 connection (List.mem_of_getElem? hget)
  have hhandled : Attached s.service { connection with handled := true } :=
    ⟨fun _ => ⟨_, houtcome, fun _ heq => by cases heq⟩, hold.called, hold.left⟩
  exact h.set number (hhandled.congr (onRejected_same connection error fails))

/-- A socket closes. -/
lemma AllAttached.closed {s : QaraaServer} (h : AllAttached options s) {number : ℕ}
    {connection : StreamConnection} (hget : s.connections[number]? = some connection) :
    AllAttached options { s with
      service :=
        match connection.unsubscribe with
        | some index => s.service.step options (.unsubscribe connection.request.sessionId index)
        | none => s.service
      connections := s.connections.set number connection.onClose } := by
  have hold := h.2 connection (List.mem_of_getElem? hget)
  cases hunsubscribe : connection.unsubscribe with
  | some index =>
      obtain ⟨hsettled, hcalled, -⟩ := hold.step h.1
        (.unsubscribe connection.request.sessionId index)
      refine (h.served (.unsubscribe connection.request.sessionId index)).set number
        ⟨hsettled, hcalled, fun _ index' heq => ?_⟩
      change connection.unsubscribe = some index' at heq
      rw [hunsubscribe] at heq
      cases heq
      exact unsubscribe_left options s.service connection.request.sessionId index
  | none =>
      refine h.set number ⟨hold.settled, hold.called, fun _ index' heq => ?_⟩
      change connection.unsubscribe = some index' at heq
      rw [hunsubscribe] at heq
      cases heq

/-- An operation of the service goes on. -/
lemma AllAttached.proceeded {s : QaraaServer} (h : AllAttached options s) (ticket : ℕ)
    (answer : ServerAnswer) : AllAttached options (s.proceed options ticket answer) := by
  rw [QaraaServer.proceed]
  split
  · exact h
  · rename_i entry hentry
    obtain ⟨hrun, hattached⟩ := h.served (.proceed ticket
      { corpus := answer.corpus, store := answer.store
        throws := s.throws entry.key ticket answer.fails })
    refine ⟨hrun, fun connection hmem => ?_⟩
    obtain ⟨number, hlt, heq⟩ := List.mem_mapIdx.mp hmem
    have hold := hattached _ (List.getElem_mem hlt)
    rw [← heq]
    split
    · exact hold.congr (follow_same _ _ _ _ _)
    · exact hold

/-- **Every step keeps what the adapter knows.** -/
theorem AllAttached.step {s : QaraaServer} (h : AllAttached options s) (hwired : Wired s)
    (action : ServerAction) : AllAttached options (s.step options action) := by
  have hstep := step_serverStep options s action
  generalize s.step options action = after at hstep
  cases hstep with
  | idle _ => exact h
  | turnedAway request newId error away => exact h
  | called request newId route serviceAction routed calls admitted => exact h.served serviceAction
  | answered number => exact h
  | refused request fails invalid =>
      have hfresh : Attached s.service { request := request } := .fresh rfl rfl
      exact h.append (hfresh.congr (sendErrorAndClose_same _ _ _ _))
  | subscribed request fails lastSnapshotRevision valid =>
      obtain ⟨hrun, hattached⟩ := h.served (.subscribe s.connections.length
        ⟨request.id, request.sessionId, lastSnapshotRevision⟩)
      refine ⟨hrun, fun connection hmem => ?_⟩
      rcases List.mem_append.mp hmem with hold | hlast
      · exact hattached connection hold
      · rw [List.mem_singleton.mp hlast]
        exact .fresh rfl rfl
  | fulfilled number fails connection index get pending outcome =>
      exact h.fulfilled hwired get outcome
  | rejected number fails connection error get pending outcome =>
      exact h.rejected get outcome fails
  | flushed number =>
      refine ⟨h.1, fun connection hmem => ?_⟩
      obtain ⟨i, hi⟩ := List.mem_iff_getElem?.mp hmem
      rw [QaraaServer.flush] at hi
      dsimp only at hi
      rw [List.getElem?_modify] at hi
      obtain ⟨old, hold, heq⟩ := Option.map_eq_some_iff.mp hi
      have hattached := h.2 old (List.mem_of_getElem? hold)
      split at heq
      · rw [← heq]
        exact hattached.congr (flushed_same old)
      · rw [← heq]
        exact hattached
  | closed number connection get => exact h.closed get
  | queued _ serviceAction isQueued => exact h.served serviceAction
  | proceeded ticket answer => exact h.proceeded ticket answer

/-- Every connection is attached to the service in every run. -/
theorem attached_run (options : ServiceOptions) (actions : List ServerAction) :
    AllAttached options (QaraaServer.run options {} actions) := by
  induction actions using List.reverseRecOn with
  | nil => exact ⟨⟨[], rfl⟩, fun _ hmem => by cases hmem⟩
  | append_singleton actions action ih =>
      rw [QaraaServer.run_concat]
      exact ih.step (wired_run options actions) action

/-! ### Live sockets -/

/-- A socket that is open, or whose subscription is still to be handled. -/
def StreamConnection.live (connection : StreamConnection) : Bool :=
  !(connection.disconnected && connection.handled)

/-- An operation that subscribes belongs to the socket with the number of the listener. -/
lemma socket_of_call {s : QaraaServer} (hwired : Wired s) {ticket listener : ℕ}
    {sessionId : String} {command : SessionResumeCommand}
    (hcall : s.service.calls[ticket]? = some (sessionId, .subscribe listener command)) :
    ∃ connection, s.connections[listener]? = some connection ∧
      connection.request.sessionId = sessionId ∧ connection.ticket = some ticket := by
  have hmem : ticket ∈ s.tickets := by
    rw [hwired.tickets.mem_iff, List.mem_range]
    exact (List.getElem?_eq_some_iff.mp hcall).1
  rcases List.mem_append.mp hmem with hexchange | hsocket
  · obtain ⟨exchange, hmem, hticket⟩ := List.mem_filterMap.mp hexchange
    obtain ⟨number, hget⟩ := List.mem_iff_getElem?.mp hmem
    have hwire : (s.exchanges.map Exchange.wire)[number]?
        = some (exchange.request, some ticket) := by
      rw [List.getElem?_map, hget, Option.map_some, Exchange.wire, hticket]
    obtain ⟨-, -, -, call, -, -, -, hother, hfound⟩ :=
      hwired.exchanges number exchange.request ticket hwire
    rw [hfound] at hcall
    cases hcall
    exact absurd rfl (hother listener command)
  · obtain ⟨connection, hmem, hticket⟩ := List.mem_filterMap.mp hsocket
    obtain ⟨number, hget⟩ := List.mem_iff_getElem?.mp hmem
    have hwire : (s.connections.map StreamConnection.wire)[number]?
        = some (connection.request, some ticket) := by
      rw [List.getElem?_map, hget, Option.map_some, StreamConnection.wire, hticket]
    obtain ⟨last, -, hfound⟩ := hwired.sockets number connection.request ticket hwire
    rw [hfound] at hcall
    cases hcall
    exact ⟨connection, hget, rfl, hticket⟩

/-- A subscriber is that of a live socket. -/
lemma live_of_subscriber {s : QaraaServer} (h : AllAttached options s) (hwired : Wired s)
    {sessionId : String} {subscriber : SessionSubscriber}
    (hmem : subscriber ∈ (s.service.slot sessionId).subscribers) :
    ∃ connection ticket, s.connections[subscriber.listener]? = some connection ∧
      connection.request.sessionId = sessionId ∧ connection.live = true ∧
      connection.ticket = some ticket ∧
      s.service.Resolves ticket sessionId (.subscribe subscriber.listener subscriber.command)
        (.ok (.subscribed subscriber.index)) := by
  obtain ⟨actions, hrun⟩ := h.1
  obtain ⟨ticket, hresolves⟩ : ∃ ticket, s.service.Resolves ticket sessionId
      (.subscribe subscriber.listener subscriber.command)
      (.ok (.subscribed subscriber.index)) := by
    rw [hrun] at hmem ⊢
    exact resolved_of_run options actions hmem
  obtain ⟨connection, hget, hsession, hticket⟩ := socket_of_call hwired hresolves.call
  refine ⟨connection, ticket, hget, hsession, ?_, hticket, hresolves⟩
  have hattached := h.2 connection (List.mem_of_getElem? hget)
  by_contra hdead
  have hboth : connection.disconnected = true ∧ connection.handled = true := by
    simpa [StreamConnection.live] using hdead
  obtain ⟨outcome, houtcome, hnumber⟩ := hattached.settled hboth.2
  rw [hticket, outcome_eq_some.mpr ⟨sessionId, _, hresolves⟩] at houtcome
  subst hsession
  exact hattached.left hboth.1 subscriber.index (hnumber _ (Option.some.inj houtcome).symm)
    subscriber hmem rfl

/-- Two subscribers of one socket are one. -/
lemma subscriber_unique {s : QaraaServer} (h : AllAttached options s) (hwired : Wired s)
    {first second : String} {subscriber other : SessionSubscriber}
    (hmem : subscriber ∈ (s.service.slot first).subscribers)
    (hother : other ∈ (s.service.slot second).subscribers)
    (hlistener : subscriber.listener = other.listener) :
    first = second ∧ subscriber.index = other.index := by
  obtain ⟨connection, ticket, hget, hsession, -, hticket, hresolves⟩ :=
    live_of_subscriber h hwired hmem
  obtain ⟨connection', ticket', hget', hsession', -, hticket', hresolves'⟩ :=
    live_of_subscriber h hwired hother
  rw [hlistener, hget'] at hget
  cases hget
  rw [hticket'] at hticket
  cases hticket
  refine ⟨hsession.symm.trans hsession', ?_⟩
  have hsame := (outcome_eq_some.mpr ⟨first, _, hresolves⟩).symm.trans
    (outcome_eq_some.mpr ⟨second, _, hresolves'⟩)
  exact Reply.subscribed.inj (Except.ok.inj (Option.some.inj hsame))

/-- A filtered list has the length of the positions it keeps. -/
lemma length_filter_positions {α : Type} (p : α → Bool) (items : List α) :
    (items.filter p).length
      = (((List.finRange items.length).filter fun i => p (items.get i)).map Fin.val).length := by
  conv_lhs => rw [← List.map_get_finRange items]
  rw [List.filter_map, List.length_map, List.length_map]
  rfl

/-- **No stray subscribers.** In every run of a server, whatever its sockets, requests, store and
listeners do in whichever order, every subscriber of the service is that of one socket of its
session, which is open or whose subscription is still to be handled; no socket has two of them;
and the service counts no more subscribers than there are such sockets. -/
theorem no_stray_subscriber (options : ServiceOptions) (actions : List ServerAction) :
    let s := QaraaServer.run options {} actions
    (∀ sessionId, ∀ subscriber ∈ (s.service.slot sessionId).subscribers, ∃ connection,
      s.connections[subscriber.listener]? = some connection ∧
      connection.request.sessionId = sessionId ∧ connection.live = true) ∧
    (∀ sessionId, ((s.service.slot sessionId).subscribers.map SessionSubscriber.listener).Nodup) ∧
    s.service.subscriberCount ≤ (s.connections.filter StreamConnection.live).length := by
  intro s
  have hattached : AllAttached options s := attached_run options actions
  have hwired : Wired s := wired_run options actions
  obtain ⟨serviceActions, hrun⟩ := hattached.1
  have hcounted : ∀ sessionId, Counted (s.service.slot sessionId) := by
    intro sessionId
    rw [hrun]
    exact counted_run options serviceActions sessionId
  have hnodup : ∀ sessionId,
      ((s.service.slot sessionId).subscribers.map SessionSubscriber.listener).Nodup := by
    intro sessionId
    have hsubscribers := List.Nodup.of_map _ (hcounted sessionId).distinct
    have hdistinct := (List.nodup_map_iff_inj_on hsubscribers).mp (hcounted sessionId).distinct
    refine (List.nodup_map_iff_inj_on hsubscribers).mpr ?_
    intro subscriber hmem other hother heq
    exact hdistinct subscriber hmem other hother
      (subscriber_unique hattached hwired hmem hother heq).2
  refine ⟨fun sessionId subscriber hmem => ?_, hnodup, ?_⟩
  · obtain ⟨connection, -, hget, hsession, hlive, -⟩ := live_of_subscriber hattached hwired hmem
    exact ⟨connection, hget, hsession, hlive⟩
  -- the listeners of all slots are distinct positions of live sockets, so they are no more than
  -- these
  · set listeners : List ℕ := s.service.slots.entries.flatMap fun entry =>
      entry.2.subscribers.map SessionSubscriber.listener with hlisteners
    have hslot : ∀ entry ∈ s.service.slots.entries, s.service.slot entry.1 = entry.2 := by
      intro entry hmem
      rw [State.slot, OrderedMap.get_eq_some_iff.mpr hmem]
      rfl
    have hcount : s.service.subscriberCount = listeners.length := by
      rw [subscriberCount_eq hcounted, State.slotTotal, OrderedMap.values, hlisteners,
        List.length_flatMap, Nat.cast_list_sum, List.map_map, List.map_map]
      refine congrArg List.sum (List.map_congr_left fun entry _ => ?_)
      rw [Function.comp_apply, Function.comp_apply, List.length_map]
      rfl
    have hdistinct : listeners.Nodup := by
      refine List.nodup_flatMap.mpr ⟨fun entry hmem => ?_, ?_⟩
      · rw [← hslot entry hmem]
        exact hnodup entry.1
      · refine List.Pairwise.imp_of_mem ?_ (List.pairwise_map.mp s.service.slots.nodup)
        intro first second hfirst hsecond hne listener hmem hmem'
        obtain ⟨subscriber, hsubscriber, heq⟩ := List.mem_map.mp hmem
        obtain ⟨other, hother, heq'⟩ := List.mem_map.mp hmem'
        rw [← hslot first hfirst] at hsubscriber
        rw [← hslot second hsecond] at hother
        exact hne (subscriber_unique hattached hwired hsubscriber hother (heq.trans heq'.symm)).1
    rw [hcount, length_filter_positions]
    refine Int.ofNat_le.mpr (hdistinct.subperm fun listener hmem => ?_).length_le
    obtain ⟨entry, hentry, hlistener⟩ := List.mem_flatMap.mp hmem
    obtain ⟨subscriber, hsubscriber, rfl⟩ := List.mem_map.mp hlistener
    rw [← hslot entry hentry] at hsubscriber
    obtain ⟨connection, -, hget, -, hlive, -⟩ :=
      live_of_subscriber hattached hwired hsubscriber
    obtain ⟨hlt, hget⟩ := List.getElem?_eq_some_iff.mp hget
    refine List.mem_map.mpr ⟨⟨subscriber.listener, hlt⟩, List.mem_filter.mpr
      ⟨List.mem_finRange _, ?_⟩, rfl⟩
    change StreamConnection.live s.connections[subscriber.listener] = true
    rw [hget]
    exact hlive

end Qaraa.SessionService
