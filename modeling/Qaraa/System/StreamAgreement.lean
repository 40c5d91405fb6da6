import Qaraa.System.AcceptedSubmissions
import Qaraa.Client.SnapshotFlow
import Qaraa.Server.Joining

/-!
The snapshot of a remote session and that of the server.

* `Upheld`: all snapshots on their way belong to the past of the session, and what the current
  socket was sent is on its way, queued, or not newer than what the client holds.
* `Upheld.step`, `Upheld.run`: **every step of the system upholds it**.
* `no_lost_update`: the stored snapshot is held by the client, or it is on its way to it.
-/

namespace Qaraa.Remote

open Ordered KeyedQueue Client SessionService

variable {options : SystemOptions} {s s' : RemoteSystem}

/-! ### Sockets at the server -/

/-- What a socket has asked for, as its subscription was called and as the client has dialed. -/
def Asked (options : SystemOptions) (s : RemoteSystem) (connection : Connection) : Prop :=
  ∃ command : SessionResumeCommand, s.service.calls[connection.ticket]?
      = some (options.client.sessionId, .subscribe connection.generation command) ∧
    (connection.generation, command.lastSnapshotRevision) ∈ s.client.sockets.map Socket.dialed

/-- What the client is owed is kept for it: held, queued, on its way or due. -/
structure Upheld (options : SystemOptions) (s : RemoteSystem) : Prop where
  kept : Kept s.service options.client.sessionId
  wired : s.client.Wired options.client
  snapshot : (s.slot options).Past s.client.snapshot
  queued : ∀ next ∈ s.client.queuedNotifications, (s.slot options).Past next
  dialed : ∀ socket ∈ s.client.sockets,
    socket.lastSnapshotRevision ≤ s.client.snapshot.revision
  inFlight : ∀ connection ∈ s.connections, ∀ next ∈ connection.inFlight, (s.slot options).Past next
  distinct : (s.connections.map Connection.generation).Nodup
  asked : ∀ connection ∈ s.connections, Asked options s connection
  joined : ∀ connection ∈ s.connections, ∀ index, connection.index = some index →
    index < (s.slot options).subscriptions ∧ ∀ subscriber ∈ (s.slot options).subscribers,
      subscriber.index = index → (connection.generation, subscriber.command.lastSnapshotRevision)
        ∈ s.client.sockets.map Socket.dialed
  caught : ∀ connection ∈ s.connections, connection.isOpen = true →
    s.client.socket = some connection.generation → ∀ index, connection.index = some index →
      ∀ next ∈ (s.slot options).received index, next ∈ connection.inFlight ∨
        next ∈ s.client.queuedNotifications ∨ next.revision ≤ s.client.snapshot.revision

/-- The number of a subscriber after a step of the service. -/
lemma joined_cases (action : ServiceAction) (before after : SessionSlot) (connection : Connection) :
    connection.joined action before after = connection.index ∨
      before.subscriptions < after.subscriptions ∧
        connection.joined action before after = some before.subscriptions ∧
          ∃ answer, action = .proceed connection.ticket answer := by
  rw [Connection.joined.eq_def]
  split
  · rename_i ticket answer
    split
    · rename_i hjoins
      obtain ⟨rfl, hlt⟩ := hjoins
      exact Or.inr ⟨hlt, rfl, answer, rfl⟩
    · exact Or.inl rfl
  · exact Or.inl rfl

/-- What the client's side does to a socket: it takes messages in, or the socket closes. -/
structure Shifted (s s' : RemoteSystem) (before after : Connection) : Prop where
  generation : after.generation = before.generation
  ticket : after.ticket = before.ticket
  index : after.index = before.index
  isOpen : after.isOpen = true → before.isOpen = true
  inFlight : ∀ next ∈ after.inFlight, next ∈ before.inFlight
  taken : s.client.socket = some before.generation → ∀ next ∈ before.inFlight,
    next ∈ after.inFlight ∨ next ∈ s'.client.queuedNotifications ∨
      next.revision ≤ s'.client.snapshot.revision

lemma Shifted.refl (connection : Connection) : Shifted s s' connection connection :=
  ⟨rfl, rfl, rfl, id, fun _ => id, fun _ _ => Or.inl⟩

/-- What a subscriber is sent in a step, and what it had received. -/
lemma mem_sentTo {before after : SessionSlot} {index : ℕ}
    (hreceived : before.received index <+: after.received index) {next : ReadingSnapshot} :
    next ∈ after.received index ↔
      next ∈ before.received index ∨ next ∈ sentTo (some index) before after := by
  obtain ⟨new, hnew⟩ := hreceived
  rw [sentTo, ← hnew, List.drop_left, List.mem_append]

namespace Upheld

/-- A socket asks for the same while the service goes on. -/
lemma asked_served {call : ServiceAction} {connection : Connection}
    (h : Asked options s connection) (hservice : s'.service = s.service.step options.service call)
    (hclient : s'.client = s.client) : Asked options s' connection := by
  obtain ⟨command, hcall, hdialed⟩ := h
  refine ⟨command, ?_, hclient ▸ hdialed⟩
  rw [hservice, Service.calls_step,
    List.getElem?_append_left (List.getElem?_eq_some_iff.mp hcall).1, hcall]

/-- The subscriber that joins for a socket has the command of its subscription. -/
lemma joined_command (h : Upheld options s) {connection : Connection}
    (hasked : Asked options s connection) {call : Frame} {previous : Option ℕ} {listener : ℕ}
    {command : SessionResumeCommand} {record : Option SessionRecord}
    (hentry : s.service.entries[connection.ticket]? = some ⟨options.client.sessionId, call,
      previous, .running (.subscribeRead listener command record)⟩) :
    (connection.generation, command.lastSnapshotRevision)
      ∈ s.client.sockets.map Socket.dialed := by
  obtain ⟨command', hcall, hdialed⟩ := hasked
  rw [Service.calls_getElem, hentry] at hcall
  have hsame : call = .subscribe connection.generation command' :=
    (Prod.mk.inj (Option.some.inj hcall)).2
  have hleads := h.kept.chronicled.frames (connection.ticket, _)
    (State.mem_queue.mpr ⟨hentry, rfl⟩) _ rfl
  rw [hsame] at hleads
  rcases hleads.of_subscribe with heq | ⟨record', heq⟩
  · cases heq
  · cases heq
    exact hdialed

/-- A socket that was there before the service took a step. -/
lemma followed (h : Upheld options s) {call : ServiceAction}
    (hservice : s'.service = s.service.step options.service call)
    (hlater : Later (s.slot options) (s'.slot options)) {connection : Connection}
    (hmem : connection ∈ s.connections) {index : ℕ}
    (hindex : connection.joined call (s.slot options) (s'.slot options) = some index) :
    (index < (s'.slot options).subscriptions ∧ ∀ subscriber ∈ (s'.slot options).subscribers,
      subscriber.index = index → (connection.generation, subscriber.command.lastSnapshotRevision)
        ∈ s.client.sockets.map Socket.dialed) ∧
    (connection.isOpen = true → s.client.socket = some connection.generation →
      ∀ next ∈ (s'.slot options).received index,
        next ∈ connection.inFlight ++ sentTo (some index) (s.slot options) (s'.slot options) ∨
          next ∈ s.client.queuedNotifications ∨ next.revision ≤ s.client.snapshot.revision) := by
  obtain ⟨published, hstreams, -⟩ := h.kept.published
  have hnew : ∀ subscriber ∈ (s'.slot options).subscribers,
      subscriber ∈ (s.slot options).subscribers ∨
        subscriber.index = (s.slot options).subscriptions ∧
          ∃ ticket answer call' previous listener record, call = .proceed ticket answer ∧
            s.service.entries[ticket]? = some ⟨options.client.sessionId, call', previous,
              .running (.subscribeRead listener subscriber.command record)⟩ := by
    intro subscriber hsubscriber
    rw [RemoteSystem.slot, hservice] at hsubscriber
    exact step_joined options.service s.service call hsubscriber
  rcases joined_cases call (s.slot options) (s'.slot options) connection with
    hsame | ⟨hlt, hjoins, answer, rfl⟩
  -- a socket that had its subscriber is sent what the subscriber receives
  · rw [hsame] at hindex
    obtain ⟨hmade, hdialed⟩ := h.joined connection hmem index hindex
    refine ⟨⟨hmade.trans_le hlater.subscriptions, fun subscriber hsubscriber heq => ?_⟩,
      fun hopen hcurrent next hnext => ?_⟩
    · rcases hnew subscriber hsubscriber with hold | ⟨hfresh, -⟩
      · exact hdialed subscriber hold heq
      · omega
    · rcases (mem_sentTo (hlater.received index)).mp hnext with hold | hsent
      · exact (h.caught connection hmem hopen hcurrent index hindex next hold).imp_left
          (List.mem_append_left _)
      · exact Or.inl (List.mem_append_right _ hsent)
  · rw [hjoins] at hindex
    cases hindex
    refine ⟨⟨hlt, fun subscriber hsubscriber heq => ?_⟩, fun _ _ next hnext => ?_⟩
    · rcases hnew subscriber hsubscriber with hold | ⟨-, ticket, answer', call', previous, listener,
        record, haction, hentry⟩
      · have hmade := (hstreams.each subscriber hold).made
        change subscriber.index < (s.slot options).subscriptions at hmade
        omega
      · cases haction
        exact h.joined_command (h.asked connection hmem) hentry
    · -- the number is new: nothing had been sent under it
      rcases (mem_sentTo (hlater.received _)).mp hnext with hold | hsent
      · have hnone := hstreams.received_nil
        rw [show (s.slot options).received (s.slot options).subscriptions = [] from hnone] at hold
        cases hold
      · exact Or.inl (List.mem_append_right _ hsent)

/-- The service takes a step, and a socket may come in with it. -/
lemma served (h : Upheld options s) {call : ServiceAction}
    (hspares : call.Spares options.client.sessionId)
    (hservice : s'.service = s.service.step options.service call) (hclient : s'.client = s.client)
    {new : List Connection} (hconnections : s'.connections
      = s.connections.map (Connection.follow call (s.slot options) (s'.slot options)) ++ new)
    (hnew : ∀ connection ∈ new, connection.index = none ∧ connection.inFlight = [] ∧
      Asked options s' connection)
    (hdistinct : (s'.connections.map Connection.generation).Nodup) : Upheld options s' := by
  obtain ⟨hkept, hlater⟩ := h.kept.step options.service hspares
  rw [← hservice] at hkept
  have hlater : Later (s.slot options) (s'.slot options) := by
    rw [RemoteSystem.slot, RemoteSystem.slot, hservice]
    exact hlater
  -- every socket is an old one that follows the step, or comes in new without a subscriber
  have hcases : ∀ connection ∈ s'.connections, (∃ old ∈ s.connections,
      connection = old.follow call (s.slot options) (s'.slot options)) ∨ connection ∈ new := by
    intro connection hmem
    rw [hconnections] at hmem
    refine (List.mem_append.mp hmem).imp_left fun hmem => ?_
    obtain ⟨old, hold, rfl⟩ := List.mem_map.mp hmem
    exact ⟨old, hold, rfl⟩
  refine ⟨hkept, hclient ▸ h.wired, hclient ▸ hlater.past _ h.snapshot, fun next hmem => ?_,
    hclient ▸ h.dialed, fun connection hmem next hnext => ?_, hdistinct, fun connection hmem => ?_,
    fun connection hmem index hindex => ?_, fun connection hmem hopen hcurrent index hindex => ?_⟩
  · rw [hclient] at hmem
    exact hlater.past next (h.queued next hmem)
  · rcases hcases connection hmem with ⟨old, hold, rfl⟩ | hmem
    · rcases List.mem_append.mp hnext with hnext | hsent
      · exact hlater.past next (h.inFlight old hold next hnext)
      · split at hsent
        · rw [sentTo.eq_def] at hsent
          split at hsent
          · exact hkept.received (List.mem_of_mem_drop hsent)
          · cases hsent
        · cases hsent
    · rw [(hnew connection hmem).2.1] at hnext
      cases hnext
  · rcases hcases connection hmem with ⟨old, hold, rfl⟩ | hmem
    · exact asked_served (h.asked old hold) hservice hclient
    · exact (hnew connection hmem).2.2
  · rw [hclient]
    rcases hcases connection hmem with ⟨old, hold, rfl⟩ | hmem
    · exact (h.followed hservice hlater hold hindex).1
    · rw [(hnew connection hmem).1] at hindex
      cases hindex
  · rw [hclient] at hcurrent ⊢
    rcases hcases connection hmem with ⟨old, hold, rfl⟩ | hmem
    · have hall := (h.followed hservice hlater hold hindex).2 hopen hcurrent
      have hflight : (old.follow call (s.slot options) (s'.slot options)).inFlight
          = old.inFlight ++ sentTo (some index) (s.slot options) (s'.slot options) := by
        rw [Connection.follow]
        dsimp only
        rw [if_pos (show old.isOpen = true from hopen),
          show old.joined call (s.slot options) (s'.slot options) = some index from hindex]
      rw [hflight]
      exact hall
    · rw [(hnew connection hmem).1] at hindex
      cases hindex

/-- A socket that is the current one after a step of the client has been it before. -/
lemma current_before (h : Upheld options s) {incoming : List ReadingSnapshot}
    (hflows : RemoteSession.Flows incoming s.client s'.client) {connection : Connection}
    (hmem : connection ∈ s.connections)
    (hcurrent : s'.client.socket = some connection.generation) :
    s.client.socket = some connection.generation ∧ ∀ next ∈ s.client.queuedNotifications,
      next ∈ s'.client.queuedNotifications ∨ next.revision ≤ s'.client.snapshot.revision := by
  rcases hflows.current with ⟨hsocket, hkept⟩ | hfresh
  · exact ⟨hsocket ▸ hcurrent, hkept⟩
  -- a socket made in this step has a number of its own
  · obtain ⟨command, -, hdialed⟩ := h.asked connection hmem
    obtain ⟨socket, hsocket, heq⟩ := List.mem_map.mp hdialed
    have hknown := h.wired.known socket hsocket
    have hgeneration : socket.generation = connection.generation := congrArg Prod.fst heq
    have hlt := hfresh _ hcurrent
    omega

/-- The client takes a step. -/
lemma moved (h : Upheld options s) (hservice : s'.service = s.service)
    (hwired : s'.client.Wired options.client) {incoming : List ReadingSnapshot}
    (hflows : RemoteSession.Flows incoming s.client s'.client)
    (hincoming : ∀ next ∈ incoming, (s.slot options).Past next) {change : Connection → Connection}
    (hconnections : s'.connections = s.connections.map change)
    (hchange : ∀ connection ∈ s.connections, Shifted s s' connection (change connection)) :
    Upheld options s' := by
  have hslot : s'.slot options = s.slot options := by
    rw [RemoteSystem.slot, RemoteSystem.slot, hservice]
  have hold : ∀ connection ∈ s'.connections, ∃ old ∈ s.connections, connection = change old := by
    intro connection hmem
    rw [hconnections] at hmem
    obtain ⟨old, hold, rfl⟩ := List.mem_map.mp hmem
    exact ⟨old, hold, rfl⟩
  have hdialed : ∀ {pair}, pair ∈ s.client.sockets.map Socket.dialed →
      pair ∈ s'.client.sockets.map Socket.dialed := fun hmem => hflows.sockets.subset hmem
  refine ⟨hservice ▸ h.kept, hwired, ?_, fun next hmem => ?_, fun socket hmem => ?_,
    fun connection hmem next hnext => ?_, ?_, fun connection hmem => ?_,
    fun connection hmem index hindex => ?_,
    fun connection hmem hopen hcurrent index hindex next hnext => ?_⟩
  · rw [hslot]
    -- the new snapshot is the old one, one that was queued or one that comes in
    rcases hflows.snapshot with heq | hmem | hmem
    · exact heq ▸ h.snapshot
    · exact h.queued _ hmem
    · exact hincoming _ hmem
  · rw [hslot]
    exact (hflows.queued next hmem).elim (h.queued next) (hincoming next)
  · rcases hflows.dialed socket hmem with hmem | hle
    · obtain ⟨earlier, hearlier, heq⟩ := List.mem_map.mp hmem
      rw [← show earlier.lastSnapshotRevision = socket.lastSnapshotRevision from
        congrArg Prod.snd heq]
      exact (h.dialed earlier hearlier).trans hflows.forward
    · exact hle
  · obtain ⟨old, hfrom, rfl⟩ := hold connection hmem
    rw [hslot]
    exact h.inFlight old hfrom next ((hchange old hfrom).inFlight next hnext)
  · have hsame : s'.connections.map Connection.generation
        = s.connections.map Connection.generation := by
      rw [hconnections, List.map_map]
      exact List.map_congr_left fun connection hmem => (hchange connection hmem).generation
    exact hsame ▸ h.distinct
  · obtain ⟨old, hfrom, rfl⟩ := hold connection hmem
    obtain ⟨command, hcall, hmemDialed⟩ := h.asked old hfrom
    rw [Asked, (hchange old hfrom).ticket, (hchange old hfrom).generation, hservice]
    exact ⟨command, hcall, hdialed hmemDialed⟩
  · obtain ⟨old, hfrom, rfl⟩ := hold connection hmem
    rw [hslot, (hchange old hfrom).generation]
    rw [(hchange old hfrom).index] at hindex
    obtain ⟨hmade, hcommand⟩ := h.joined old hfrom index hindex
    exact ⟨hmade, fun subscriber hsubscriber heq => hdialed (hcommand subscriber hsubscriber heq)⟩
  · obtain ⟨old, hfrom, rfl⟩ := hold connection hmem
    rw [(hchange old hfrom).index] at hindex
    rw [(hchange old hfrom).generation] at hcurrent
    -- what was sent on the current socket is still on its way, queued, or not newer than what is
    -- held
    obtain ⟨hbefore, hkept⟩ := h.current_before hflows hfrom hcurrent
    rw [hslot] at hnext
    rcases h.caught old hfrom ((hchange old hfrom).isOpen hopen) hbefore index hindex next hnext
      with hflight | hqueue | hle
    · exact (hchange old hfrom).taken hbefore next hflight
    · exact Or.inr (hkept next hqueue)
    · exact Or.inr (Or.inr (hle.trans hflows.forward))

/-- The sockets stay as they are. -/
lemma stepped (h : Upheld options s) (hservice : s'.service = s.service)
    (hwired : s'.client.Wired options.client) {incoming : List ReadingSnapshot}
    (hflows : RemoteSession.Flows incoming s.client s'.client)
    (hincoming : ∀ next ∈ incoming, (s.slot options).Past next)
    (hconnections : s'.connections = s.connections) : Upheld options s' := by
  have hsame : s'.connections = s.connections.map id := by rw [hconnections, List.map_id]
  exact h.moved hservice hwired hflows hincoming hsame fun connection _ => .refl connection

/-- The next message of a socket comes in. -/
lemma receive (h : Upheld options s) (generation : ℕ) :
    Upheld options (s.receive options generation) := by
  rw [RemoteSystem.receive]
  split
  · exact h
  · rename_i connection hfound
    have hmem := List.mem_of_find?_eq_some hfound
    have hgeneration : connection.generation = generation := by
      simpa using List.find?_some hfound
    split
    · exact h
    · rename_i snapshot rest hflight
      have hpast := h.inFlight connection hmem snapshot (hflight ▸ List.mem_cons_self ..)
      have hwired := RemoteSession.run_wired h.wired
        [.socketEvent generation (.message (some snapshot))]
      have hflows : RemoteSession.Flows [snapshot] s.client (s.client.socketEvent options.client
          generation (.message (some snapshot))) := by
        refine RemoteSession.socketEvent_flows generation _ s.client fun next heq => ?_
        cases heq
        exact List.mem_singleton_self _
      refine h.moved rfl hwired hflows (fun next hnext => ?_) rfl fun other hother => ?_
      · rw [List.mem_singleton.mp hnext]
        exact hpast
      · by_cases heq : other.generation = generation
        · -- it is the socket itself
          have hself : other = connection :=
            List.inj_on_of_nodup_map h.distinct hother hmem (heq.trans hgeneration.symm)
          rw [if_pos heq]
          refine ⟨rfl, rfl, rfl, id, fun next hnext => ?_, fun hcurrent next hnext => ?_⟩
          · rw [hself, hflight]
            exact List.mem_cons_of_mem _ hnext
          · rw [hself, hflight] at hnext
            rcases List.mem_cons.mp hnext with rfl | hnext
            · rw [heq] at hcurrent
              exact Or.inr (RemoteSession.message_flows h.wired hcurrent next)
            · exact Or.inl hnext
        · rw [if_neg heq]
          exact .refl other

/-- A socket closes at the server. -/
lemma hangUp (h : Upheld options s) (generation : ℕ) : Upheld options (s.hangUp generation) := by
  have hflows : RemoteSession.Flows [] s.client s.client := .refl _
  refine h.moved rfl h.wired hflows (fun _ hnext => (by cases hnext)) rfl fun connection _ => ?_
  split
  · exact ⟨rfl, rfl, rfl, fun hopen => (by cases hopen), fun _ => id, fun _ _ => Or.inl⟩
  · exact .refl connection

/-- A step of the client that is no message. -/
lemma acted (h : Upheld options s) (hservice : s'.service = s.service) (action : RemoteAction)
    (hclient : s'.client = s.client.step options.client action)
    (hconnections : s'.connections = s.connections)
    (hanswer : ∀ ticket answer frame command next, action = .resume ticket answer →
      s.client.Runs ticket frame → frame.awaited options.client = some command →
        answer.response = .updated next → (s.slot options).Past next)
    (hmessage : ∀ generation next, action ≠ .socketEvent generation (.message (some next))) :
    Upheld options s' := by
  have hwired : s'.client.Wired options.client :=
    hclient ▸ RemoteSession.run_wired h.wired [action]
  -- at most one snapshot comes in
  obtain ⟨incoming, hpast, hall⟩ : ∃ incoming : List ReadingSnapshot,
      (∀ next ∈ incoming, (s.slot options).Past next) ∧
        ∀ ticket answer frame command next, action = .resume ticket answer →
          s.client.Runs ticket frame → frame.awaited options.client = some command →
            answer.response = .updated next → next ∈ incoming := by
    by_cases hsome : ∃ ticket answer frame command next, action = .resume ticket answer ∧
        s.client.Runs ticket frame ∧ frame.awaited options.client = some command ∧
          answer.response = .updated next
    · obtain ⟨ticket, answer, frame, command, next, rfl, hruns, hawaited, hresponse⟩ := hsome
      refine ⟨[next], fun other hmem => ?_, fun _ _ _ _ other heq _ _ hother => ?_⟩
      · rw [List.mem_singleton.mp hmem]
        exact hanswer _ _ _ _ _ rfl hruns hawaited hresponse
      · cases heq
        rw [hresponse] at hother
        cases hother
        exact List.mem_singleton_self _
    · refine ⟨[], fun _ hmem => (by cases hmem), fun ticket answer frame command next heq hruns
        hawaited hresponse => ?_⟩
      exact absurd ⟨ticket, answer, frame, command, next, heq, hruns, hawaited, hresponse⟩ hsome
  have hflows : RemoteSession.Flows incoming s.client s'.client := hclient ▸
    RemoteSession.step_flows h.wired action hall fun generation next heq =>
      absurd heq (hmessage generation next)
  exact h.stepped hservice hwired hflows hpast hconnections

/-- A mutation goes on. -/
lemma respond (h : Upheld options s) (hlinked : Linked options s) (ticket : ℕ)
    (answer : Client.Answer) : Upheld options (s.respond options ticket answer) := by
  have hnone : ∀ generation next, RemoteAction.resume ticket answer
      ≠ .socketEvent generation (.message (some next)) := fun _ _ heq => by cases heq
  rw [RemoteSystem.respond]
  dsimp only
  split
  · rename_i hidle
    refine h.acted rfl (.resume ticket answer) rfl rfl (fun _ _ frame command next heq hruns
      hawaited _ => ?_) hnone
    cases heq
    rw [awaited_none hlinked.tracked hidle hruns] at hawaited
    cases hawaited
  · rename_i request hawaited
    split
    · rename_i retryable hresponse
      refine h.acted rfl (.resume ticket answer) rfl rfl (fun _ _ _ _ next heq _ _ hupdated => ?_)
        hnone
      cases heq
      rw [hresponse] at hupdated
      cases hupdated
    · split
      · rename_i hanswers
        refine h.acted rfl (.resume ticket answer) rfl rfl (fun _ _ _ _ next heq _ _ hupdated => ?_)
          hnone
        cases heq
        rw [hupdated] at hanswers
        obtain ⟨arrival, hmem, -, operation, entry, event, hticket, hentry, hresult, rfl⟩ :=
          answers_updated hanswers
        obtain ⟨sent, frame, -, -, hcall⟩ := hlinked.called arrival hmem operation hticket
        rw [Service.calls_getElem, hentry] at hcall
        exact h.kept.answered hentry (Prod.mk.inj (Option.some.inj hcall)).1 hresult
      · exact h

/-- The service takes a step, and no socket comes in. -/
lemma serve (h : Upheld options s) {call : ServiceAction}
    (hspares : call.Spares options.client.sessionId) : Upheld options (s.serve options call) := by
  have hconnections : (s.serve options call).connections
      = s.connections.map (Connection.follow call (s.slot options)
        ((s.serve options call).slot options)) ++ [] := (List.append_nil _).symm
  refine h.served hspares rfl rfl hconnections (fun _ hmem => (by cases hmem)) ?_
  show ((s.connections.map _).map Connection.generation).Nodup
  rw [List.map_map]
  exact h.distinct

/-- Arrivals do not matter to it. -/
lemma congr (h : Upheld options s) (hservice : s'.service = s.service)
    (hclient : s'.client = s.client) (hconnections : s'.connections = s.connections) :
    Upheld options s' := by
  have hflows : RemoteSession.Flows [] s.client s'.client := hclient ▸ .refl _
  exact h.stepped hservice (hclient ▸ h.wired) hflows (fun _ hnext => (by cases hnext)) hconnections

/-- A socket reaches the service. -/
lemma accept (h : Upheld options s) (generation : ℕ) (requestId : String) :
    Upheld options (s.accept options generation requestId) := by
  rw [RemoteSystem.accept]
  split
  · exact h
  · rename_i socket hfound
    split
    · exact h
    · rename_i hnew
      have hgeneration : socket.generation = generation := by simpa using List.find?_some hfound
      have hspares : (ServiceAction.subscribe generation ⟨requestId, options.client.sessionId,
          socket.lastSnapshotRevision⟩).Spares options.client.sessionId :=
        ⟨rfl, fun _ heq => (by cases heq)⟩
      refine h.served hspares rfl rfl rfl (fun connection hmem => ?_) ?_
      · rw [List.mem_singleton.mp hmem]
        refine ⟨rfl, rfl, ⟨requestId, options.client.sessionId, socket.lastSnapshotRevision⟩, ?_,
          ?_⟩
        · show (s.service.step options.service _).calls[s.service.entries.length]? = _
          rw [Service.calls_step, ← Service.calls_length, List.getElem?_append_right le_rfl,
            Nat.sub_self]
          rfl
        · exact List.mem_map.mpr ⟨socket, List.mem_of_find?_eq_some hfound, by
            rw [Socket.dialed, hgeneration]⟩
      · show ((s.connections.map _ ++ [_]).map Connection.generation).Nodup
        rw [List.map_append, List.map_map, List.nodup_append]
        refine ⟨h.distinct, List.nodup_singleton _, fun a ha b hb heq => hnew ?_⟩
        obtain ⟨connection, hmem, rfl⟩ := List.mem_map.mp ha
        rw [List.any_eq_true]
        refine ⟨connection, hmem, beq_iff_eq.mpr ?_⟩
        rw [List.map_singleton, List.mem_singleton] at hb
        exact heq.trans hb

end Upheld

/-! ### Runs -/

/-- The step removes no record of the session, and no store update fails late in it. -/
def SystemAction.Spares (sessionId : String) : SystemAction → Prop
  | .serve action => action.Spares sessionId
  | _ => True

instance (sessionId : String) (action : SystemAction) : Decidable (action.Spares sessionId) :=
  match action with
  | .serve action => inferInstanceAs (Decidable (action.Spares sessionId))
  | .arrive _ | .turnAway _ | .accept _ _ | .hangUp _ | .receive _ | .act _ => isTrue trivial

/-- Somebody else's call removes a record when the call does. -/
lemma foreign_spares {action : ServiceAction} {sessionId : String} (h : action.Spares sessionId) :
    (foreign action).Spares sessionId := by
  refine ⟨(foreign_onStore action _).trans h.1, fun command heq => h.2 command ?_⟩
  cases action <;> first | exact heq | cases heq

/-- A request removes no record. -/
lemma callOf_spares (request : ℕ) (command : RemoteCommand) (sessionId : String) :
    (callOf request command).Spares sessionId := by
  cases command with
  | submit command => exact ⟨rfl, fun _ heq => by cases heq⟩
  | reset command => exact ⟨rfl, fun _ heq => by cases heq⟩

namespace Upheld

/-- **Every step of the system upholds it.** -/
theorem step (h : Upheld options s) (hlinked : Linked options s) {action : SystemAction}
    (hspares : action.Spares options.client.sessionId) :
    Upheld options (s.step options action) := by
  cases action with
  | serve call => exact h.serve (foreign_spares hspares)
  | arrive request =>
      rw [RemoteSystem.step, RemoteSystem.arrive]
      split
      · exact h
      · rename_i sent hsent
        split
        · exact h
        · exact (h.serve (callOf_spares request sent.command _)).congr rfl rfl rfl
  | turnAway request =>
      rw [RemoteSystem.step, RemoteSystem.turnAway]
      split
      · exact h.congr rfl rfl rfl
      · exact h
  | accept generation requestId => exact h.accept generation requestId
  | hangUp generation => exact h.hangUp generation
  | receive generation => exact h.receive generation
  | act action =>
      rw [RemoteSystem.step, RemoteSystem.act.eq_def]
      split
      · exact h.respond hlinked _ _
      · exact h
      · rename_i hresume hmessage
        exact h.acted rfl action rfl rfl
          (fun ticket answer _ _ _ heq => absurd heq (hresume ticket answer)) hmessage

/-- **Every run of the system upholds it.** -/
theorem run (h : Upheld options s) (hlinked : Linked options s) {actions : List SystemAction}
    (hspares : ∀ action ∈ actions, action.Spares options.client.sessionId) :
    Upheld options (s.run options actions) := by
  induction actions using List.reverseRecOn with
  | nil => exact h
  | append_singleton actions action ih =>
      rw [RemoteSystem.run_concat]
      exact (ih fun action hmem => hspares action (List.mem_append_left _ hmem)).step
        (hlinked.run actions) (hspares action (List.mem_append_right _ (List.mem_singleton_self _)))

end Upheld

lemma Opened.upheld {earlier : List ServiceAction} (h : Opened options earlier s)
    (hspares : ∀ action ∈ earlier, action.Spares options.client.sessionId) : Upheld options s := by
  obtain ⟨ticket, entry, event, dial, hentry, hkey, hresult, hclient⟩ := h.client
  have hkept : Kept s.service options.client.sessionId := by
    rw [h.service]
    refine Kept.run options.service fun action hmem => ?_
    obtain ⟨call, hcall, rfl⟩ := List.mem_map.mp hmem
    exact foreign_spares (hspares call hcall)
  have hflows : RemoteSession.Flows [] (RemoteSession.loaded event.snapshot) s.client :=
    RemoteSession.createRemoteSession_flows hclient
  have hnone : ∀ {connection : Connection}, connection ∉ s.connections := by
    rw [h.connections]
    exact List.not_mem_nil
  refine ⟨hkept, RemoteSession.createRemoteSession_wired hclient, ?_, fun next hmem => ?_,
    fun socket hmem => ?_, fun _ hmem => absurd hmem hnone, ?_, fun _ hmem => absurd hmem hnone,
    fun _ hmem => absurd hmem hnone, fun _ hmem => absurd hmem hnone⟩
  · rcases hflows.snapshot with heq | hmem | hmem
    · rw [heq]
      exact hkept.answered hentry hkey hresult
    · exact absurd hmem List.not_mem_nil
    · exact absurd hmem List.not_mem_nil
  · rcases hflows.queued next hmem with hmem | hmem
    · exact absurd hmem List.not_mem_nil
    · exact absurd hmem List.not_mem_nil
  · exact (hflows.dialed socket hmem).resolve_left List.not_mem_nil
  · rw [h.connections]
    exact List.nodup_nil

/-- The snapshot of the client only moves forward. -/
lemma Upheld.forward (h : Upheld options s) (hlinked : Linked options s)
    {actions : List SystemAction}
    (hspares : ∀ action ∈ actions, action.Spares options.client.sessionId) :
    s.client.snapshot.revision ≤ (s.run options actions).client.snapshot.revision := by
  induction actions using List.reverseRecOn with
  | nil => exact le_rfl
  | append_singleton actions action ih =>
      have hearlier : ∀ action ∈ actions, action.Spares options.client.sessionId :=
        fun action hmem => hspares action (List.mem_append_left _ hmem)
      rw [RemoteSystem.run_concat]
      refine (ih hearlier).trans ?_
      have hwired := (h.run hlinked hearlier).wired
      have hturn := step_turn options (s.run options actions) action
      generalize (s.run options actions).step options action = s' at hturn ⊢
      cases hturn with
      | stepped step _ _ _ hclient _ _ => exact hclient ▸ RemoteSession.step_forward hwired step
      | resumed _ _ _ _ _ hclient _ _ => exact hclient ▸ RemoteSession.step_forward hwired _
      | lost _ _ _ _ _ _ _ hclient _ _ => exact hclient ▸ RemoteSession.step_forward hwired _
      | answered _ _ _ _ _ _ _ hclient _ _ => exact hclient ▸ RemoteSession.step_forward hwired _
      | served _ _ _ _ hclient _ _ => exact (congrArg (·.snapshot.revision) hclient).ge
      | arrived _ _ _ _ _ _ hclient _ _ => exact (congrArg (·.snapshot.revision) hclient).ge
      | turnedAway _ _ _ _ _ hclient _ _ => exact (congrArg (·.snapshot.revision) hclient).ge
      | nothing _ _ hclient _ _ => exact (congrArg (·.snapshot.revision) hclient).ge

/-! ### No lost update -/

/-- The current socket of the client is open at the server and has a subscriber there. -/
def Subscribed (options : SystemOptions) (s : RemoteSystem) (connection : Connection) : Prop :=
  connection ∈ s.connections ∧ connection.isOpen = true ∧
    s.client.socket = some connection.generation ∧
      ∃ subscriber ∈ (s.slot options).subscribers, connection.index = some subscriber.index

/-- The newest snapshot the server has published is held or on its way. -/
lemma Upheld.newest (h : Upheld options s) {connection : Connection}
    (hsubscribed : Subscribed options s connection) {record : SessionRecord}
    (hrecord : (s.slot options).record = some record) {published : ℕ}
    (hstreams : Streams (s.slot options) published) (heq : record.snapshot.revision = published) :
    s.client.snapshot = record.snapshot ∨ record.snapshot ∈ s.client.queuedNotifications ∨
      record.snapshot ∈ connection.inFlight := by
  obtain ⟨hmem, hopen, hcurrent, subscriber, hsubscriber, hindex⟩ := hsubscribed
  have hsame : ∀ {next : ReadingSnapshot}, (s.slot options).Past next →
      next.revision = published → next = record.snapshot := by
    intro next hpast hrevision
    obtain ⟨record', hrecord', hcase⟩ := hpast
    rw [hrecord] at hrecord'
    cases hrecord'
    exact hcase.resolve_right fun hlt => by omega
  have hheld : published ≤ s.client.snapshot.revision → s.client.snapshot = record.snapshot := by
    intro hle
    have hbound := h.snapshot.revision_le hrecord
    exact hsame h.snapshot (by omega)
  rcases (hstreams.each subscriber hsubscriber).newest with hasked | ⟨next, hnext, hrevision⟩
  · obtain ⟨-, hdialed⟩ := h.joined connection hmem _ hindex
    obtain ⟨socket, hsocket, hpair⟩ := List.mem_map.mp (hdialed subscriber hsubscriber rfl)
    have hle := h.dialed socket hsocket
    have hlast : socket.lastSnapshotRevision = subscriber.command.lastSnapshotRevision :=
      congrArg Prod.snd hpair
    exact Or.inl (hheld (by omega))
  · have hnewest := hsame (h.kept.received hnext) hrevision
    rcases h.caught connection hmem hopen hcurrent _ hindex next hnext with hflight | hqueue | hle
    · exact Or.inr (Or.inr (hnewest ▸ hflight))
    · exact Or.inr (Or.inl (hnewest ▸ hqueue))
    · exact Or.inl (hheld (hrevision ▸ hle))

/-- **No update is lost.** In every run of a remote session against a service that does not
delete the session and whose store does not fail after an update has run:

1. the session is there, and the client's snapshot is the stored one or has a lower revision;
2. the revision of the client's snapshot never decreases;
3. while the client's current socket is subscribed at the server, the stored snapshot is held
   by the client, queued in it, on its way over the socket, or about to be published. -/
theorem no_lost_update (options : SystemOptions) (earlier : List ServiceAction) (ticket : ℕ)
    (dial : Dial) (system : RemoteSystem)
    (opened : openSystem options earlier ticket dial = some system)
    (earlierSpares : ∀ action ∈ earlier, action.Spares options.client.sessionId)
    (actions : List SystemAction)
    (spares : ∀ action ∈ actions, action.Spares options.client.sessionId) :
    let s := system.run options actions
    (∃ record, (s.slot options).record = some record ∧
      (s.client.snapshot = record.snapshot ∨
        s.client.snapshot.revision < record.snapshot.revision)) ∧
    (∀ more : List SystemAction, (∀ action ∈ more, action.Spares options.client.sessionId) →
      s.client.snapshot.revision ≤ (s.run options more).client.snapshot.revision) ∧
    ∀ connection, Subscribed options s connection → ∀ record,
      (s.slot options).record = some record →
      s.client.snapshot = record.snapshot ∨ record.snapshot ∈ s.client.queuedNotifications ∨
        record.snapshot ∈ connection.inFlight ∨
        ∃ y ∈ s.service.queue options.client.sessionId, ∃ requestId,
          y.2.phase = .running (.publish requestId record.snapshot true) := by
  intro s
  have hopened := openSystem_opened opened
  have hlinked : Linked options s := hopened.linked.run actions
  have hupheld : Upheld options s := (hopened.upheld earlierSpares).run hopened.linked spares
  refine ⟨hupheld.snapshot, fun more hmore => hupheld.forward hlinked hmore,
    fun connection hsubscribed record hrecord => ?_⟩
  obtain ⟨published, hstreams, hpublished⟩ := hupheld.kept.published
  rcases hpublished record hrecord with heq | ⟨-, hdue⟩
  · exact (hupheld.newest hsubscribed hrecord hstreams heq).imp_right (Or.imp_right Or.inl)
  · exact Or.inr (Or.inr (Or.inr hdue))

/-- The socket of the client is accepted and subscribed; somebody else submits an observation. -/
def streamedRun : List SystemAction :=
  .accept 1 "w" :: (serveSample 2 2 ++ .submit 0 (sampleCommand "a" 1 ["p0"])
    :: serveSample 3 2).map .serve

/-- The client of the sample has the snapshot of the record, or it is on its way. -/
theorem no_lost_update_sample :
    let s := openedSystem.run systemSample streamedRun
    ∃ connection record, Subscribed systemSample s connection ∧
      (s.slot systemSample).record = some record ∧
        (s.client.snapshot = record.snapshot ∨ record.snapshot ∈ s.client.queuedNotifications ∨
          record.snapshot ∈ connection.inFlight ∨
          ∃ y ∈ s.service.queue "A", ∃ requestId,
            y.2.phase = .running (.publish requestId record.snapshot true)) := by
  intro s
  have hsubscribed : ∃ connection ∈ s.connections, connection.isOpen = true ∧
      s.client.socket = some connection.generation ∧
        ∃ subscriber ∈ (s.slot systemSample).subscribers,
          connection.index = some subscriber.index := by decide +kernel
  have hsome : (s.slot systemSample).record.isSome = true := by decide +kernel
  obtain ⟨connection, hconnection⟩ := hsubscribed
  obtain ⟨record, hrecord⟩ := Option.isSome_iff_exists.mp hsome
  obtain ⟨-, -, hnewest⟩ := no_lost_update systemSample openedCalls 1 .created openedSystem
    openedSystem_opened (by decide +kernel) streamedRun (by decide +kernel)
  exact ⟨connection, record, hconnection, hrecord, hnewest connection hconnection record hrecord⟩

/-- The snapshot is on its way, and comes in. -/
example : ((openedSystem.run systemSample streamedRun).client.snapshot.revision,
    (openedSystem.run systemSample (streamedRun ++ [.receive 1, .act (.deliver fun _ _ => {})])
      ).client.snapshot.revision) = (0, 1) := by decide +kernel

end Qaraa.Remote
