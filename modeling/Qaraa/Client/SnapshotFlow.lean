import Qaraa.Client.Requests
import Qaraa.Client.StreamInvariant

/-!
How snapshots pass through a remote session.

* `Flows`: the snapshot held only moves forward, and comes from those that are queued or come
  in; while a socket stays the current one, no queued snapshot is forgotten.
* `step_flows`: **every step of a session lets them flow**.
* `message_flows`: a message of the current socket is queued, or older than what is held.
-/

namespace Qaraa.Client

open Ordered KeyedQueue

/-- The number of a socket and the revision in its URL. -/
def Socket.dialed (socket : Socket) : ℕ × ℕ := (socket.generation, socket.lastSnapshotRevision)

namespace RemoteSession

variable {s s' s'' : RemoteSession} {options : RemoteOptions} {incoming : List ReadingSnapshot}

/-- What becomes of the snapshots of a session while others come in. -/
structure Flows (incoming : List ReadingSnapshot) (s s' : RemoteSession) : Prop where
  forward : s.snapshot.revision ≤ s'.snapshot.revision
  snapshot : s'.snapshot = s.snapshot ∨ s'.snapshot ∈ s.queuedNotifications ∨
    s'.snapshot ∈ incoming
  queued : ∀ next ∈ s'.queuedNotifications, next ∈ s.queuedNotifications ∨ next ∈ incoming
  generation : s.socketGeneration ≤ s'.socketGeneration
  current : (s'.socket = s.socket ∧ ∀ next ∈ s.queuedNotifications,
      next ∈ s'.queuedNotifications ∨ next.revision ≤ s'.snapshot.revision) ∨
    ∀ generation, s'.socket = some generation → s.socketGeneration < generation
  sockets : s.sockets.map Socket.dialed <+: s'.sockets.map Socket.dialed
  dialed : ∀ socket ∈ s'.sockets, socket.dialed ∈ s.sockets.map Socket.dialed ∨
    socket.lastSnapshotRevision ≤ s'.snapshot.revision

namespace Flows

/-- The snapshots, the queue and the sockets stay as they are, but for listeners. -/
lemma same (hsnapshot : s'.snapshot = s.snapshot)
    (hqueued : s'.queuedNotifications = s.queuedNotifications) (hsocket : s'.socket = s.socket)
    (hgeneration : s'.socketGeneration = s.socketGeneration)
    (hsockets : s'.sockets.map Socket.dialed = s.sockets.map Socket.dialed) :
    Flows incoming s s' where
  forward := (congrArg ReadingSnapshot.revision hsnapshot).ge
  snapshot := Or.inl hsnapshot
  queued := fun _ hmem => Or.inl (hqueued ▸ hmem)
  generation := hgeneration.ge
  current := Or.inl ⟨hsocket, fun _ hmem => Or.inl (hqueued ▸ hmem)⟩
  sockets := hsockets ▸ List.prefix_refl _
  dialed := fun _ hmem => Or.inl (hsockets ▸ List.mem_map_of_mem hmem)

lemma refl (s : RemoteSession) : Flows incoming s s := same rfl rfl rfl rfl rfl

lemma trans (h : Flows incoming s s') (h' : Flows incoming s' s'') : Flows incoming s s'' where
  forward := h.forward.trans h'.forward
  snapshot := by
    rcases h'.snapshot with heq | hmem | hmem
    · rw [heq]
      exact h.snapshot
    · exact Or.inr (h.queued _ hmem)
    · exact Or.inr (Or.inr hmem)
  queued := fun next hmem => (h'.queued next hmem).elim (h.queued next) Or.inr
  generation := h.generation.trans h'.generation
  current := by
    rcases h'.current with ⟨hsocket', hkept'⟩ | hfresh'
    · rcases h.current with ⟨hsocket, hkept⟩ | hfresh
      · refine Or.inl ⟨hsocket'.trans hsocket, fun next hmem => ?_⟩
        rcases hkept next hmem with hmem' | hle
        · exact hkept' next hmem'
        · exact Or.inr (hle.trans h'.forward)
      · exact Or.inr fun generation hcurrent => hfresh generation (hsocket' ▸ hcurrent)
    · exact Or.inr fun generation hcurrent =>
        h.generation.trans_lt (hfresh' generation hcurrent)
  sockets := h.sockets.trans h'.sockets
  dialed := fun socket hmem => by
    rcases h'.dialed socket hmem with hold | hle
    · obtain ⟨socket', hmem', heq⟩ := List.mem_map.mp hold
      rcases h.dialed socket' hmem' with hold' | hle
      · exact Or.inl (heq ▸ hold')
      · refine Or.inr ?_
        rw [← show socket'.lastSnapshotRevision = socket.lastSnapshotRevision from
          congrArg Prod.snd heq]
        exact hle.trans h'.forward
    · exact Or.inr hle

/-- There is no current socket any more. -/
lemma dropped (hsnapshot : s'.snapshot = s.snapshot)
    (hqueued : ∀ next ∈ s'.queuedNotifications, next ∈ s.queuedNotifications)
    (hsocket : s'.socket = none) (hgeneration : s.socketGeneration ≤ s'.socketGeneration)
    (hsockets : s'.sockets.map Socket.dialed = s.sockets.map Socket.dialed) :
    Flows incoming s s' where
  forward := (congrArg ReadingSnapshot.revision hsnapshot).ge
  snapshot := Or.inl hsnapshot
  queued := fun next hmem => Or.inl (hqueued next hmem)
  generation := hgeneration
  current := Or.inr fun generation hcurrent => by
    rw [hsocket] at hcurrent
    cases hcurrent
  sockets := hsockets ▸ List.prefix_refl _
  dialed := fun _ hmem => Or.inl (hsockets ▸ List.mem_map_of_mem hmem)

/-- A newer snapshot that comes in or has been queued is taken. -/
lemma adopted {next : ReadingSnapshot} (hnext : next ∈ s.queuedNotifications ∨ next ∈ incoming)
    (hnewer : s.snapshot.revision < next.revision) :
    Flows incoming s { s with snapshot := next } where
  forward := hnewer.le
  snapshot := Or.inr hnext
  queued := fun _ hmem => Or.inl hmem
  generation := le_rfl
  current := Or.inl ⟨rfl, fun _ hmem => Or.inl hmem⟩
  sockets := List.prefix_refl _
  dialed := fun _ hmem => Or.inl (List.mem_map_of_mem hmem)

end Flows

/-! ### Calls -/

lemma disposeSocketListeners_dialed (s : RemoteSession) (generation : ℕ) :
    (s.disposeSocketListeners generation).sockets.map Socket.dialed
      = s.sockets.map Socket.dialed := by
  rw [disposeSocketListeners, List.map_map]
  refine List.map_congr_left fun socket _ => ?_
  rw [Function.comp_apply]
  split <;> rfl

lemma close_flows (s : RemoteSession) : Flows incoming s s.close := by
  rw [close]
  split
  · exact .refl s
  · refine .dropped ?_ (fun _ hmem => absurd hmem List.not_mem_nil) rfl (Nat.le_succ _) ?_
    · show s.disposeSocket.snapshot = s.snapshot
      rw [disposeSocket]
      split <;> rfl
    · show s.disposeSocket.sockets.map Socket.dialed = _
      rw [disposeSocket]
      split
      · exact s.disposeSocketListeners_dialed _
      · rfl

lemma submit_flows (s : RemoteSession) (o : Submission) : Flows incoming s (s.submit o) := by
  rw [submit]
  split
  · exact .same rfl rfl rfl rfl rfl
  · split
    · exact .same rfl rfl rfl rfl rfl
    · split
      · split <;> exact .same rfl rfl rfl rfl rfl
      · exact .same rfl rfl rfl rfl rfl

lemma reset_flows (s : RemoteSession) (location : Option QuranLocation) :
    Flows incoming s (s.reset location) := by
  rw [reset]
  split <;> exact .same rfl rfl rfl rfl rfl

mutual

lemma perform_flows : ∀ (call : SessionCall) (s : RemoteSession), Flows incoming s (perform call s)
  | .submit o, s => by
      rw [perform]
      exact submit_flows s o
  | .reset location, s => by
      rw [perform]
      exact reset_flows s location
  | .subscribe listener calls throws, s => by
      rw [perform]
      split
      · exact .same rfl rfl rfl rfl rfl
      · have hheard : Flows incoming s ((s.join listener).hear listener) :=
          .same rfl rfl rfl rfl rfl
        have hcalled := hheard.trans (performAll_flows calls _)
        dsimp only
        split
        · exact hcalled.trans (.same rfl rfl rfl rfl rfl)
        · exact hcalled
  | .unsubscribe listener, s => by
      rw [perform]
      exact .same rfl rfl rfl rfl rfl
  | .close, s => by
      rw [perform]
      exact close_flows s

lemma performAll_flows : ∀ (calls : List SessionCall) (s : RemoteSession),
    Flows incoming s (performAll calls s)
  | [], s => by
      rw [performAll]
      exact .refl s
  | call :: rest, s => by
      rw [performAll]
      exact (perform_flows call s).trans (performAll_flows rest _)

end

/-! ### Snapshots -/

lemma callNext_flows (behave : Behaviours) (s : RemoteSession) (listener : ℕ) :
    Flows incoming s (callNext behave s listener) := by
  rw [callNext]
  split
  · exact .refl s
  · have hheard : Flows incoming s (s.hear listener) := .same rfl rfl rfl rfl rfl
    have hcalled := hheard.trans (performAll_flows (behave listener s.snapshot).calls _)
    dsimp only
    split
    · exact hcalled.trans (.same rfl rfl rfl rfl rfl)
    · exact hcalled

lemma callAll_flows (behave : Behaviours) (listeners : List ℕ) (s : RemoteSession) :
    Flows incoming s (listeners.foldl (callNext behave) s) := by
  induction listeners generalizing s with
  | nil => exact .refl s
  | cons listener listeners ih => exact (callNext_flows behave s listener).trans (ih _)

lemma notify_flows (behave : Behaviours) {next : ReadingSnapshot}
    (hnext : next ∈ incoming) (s : RemoteSession) : Flows incoming s (s.notify behave next) := by
  rw [notify]
  split
  · exact .refl s
  · rename_i hgo
    rw [not_or, not_le] at hgo
    exact (Flows.adopted (Or.inr hnext) hgo.2).trans (callAll_flows behave _ _)

/-- The first queued snapshot is delivered: it is taken, or older than what is held. -/
lemma deliverNext_flows (hwired : s.Wired options) (behave : Behaviours) :
    Flows incoming s (s.deliverNext behave) := by
  rw [deliverNext]
  split
  · exact .refl s
  · rename_i next rest hqueue
    have hnext : next ∈ s.queuedNotifications := hqueue ▸ List.mem_cons_self ..
    have hrest : ∀ other ∈ rest, other ∈ s.queuedNotifications := fun other hmem =>
      hqueue ▸ List.mem_cons_of_mem _ hmem
    rw [notify]
    split
    · rename_i hold
      refine ⟨le_rfl, Or.inl rfl, fun other hmem => Or.inl (hrest other hmem), le_rfl, ?_,
        List.prefix_refl _, fun socket hmem => Or.inl (List.mem_map_of_mem hmem)⟩
      rcases hold with hclosed | hle
      · have hnone : s.socket = none := hwired.shut hclosed
        refine Or.inr fun generation hcurrent => ?_
        rw [show s.socket = some generation from hcurrent] at hnone
        cases hnone
      · refine Or.inl ⟨rfl, fun other hmem => ?_⟩
        rw [hqueue] at hmem
        rcases List.mem_cons.mp hmem with rfl | hmem
        · exact Or.inr hle
        · exact Or.inl hmem
    · rename_i hgo
      rw [not_or, not_le] at hgo
      have htaken : Flows incoming s
          { s with queuedNotifications := rest, snapshot := next } := by
        refine ⟨hgo.2.le, Or.inr (Or.inl hnext), fun other hmem => Or.inl (hrest other hmem),
          le_rfl, Or.inl ⟨rfl, fun other hmem => ?_⟩, List.prefix_refl _,
          fun socket hmem => Or.inl (List.mem_map_of_mem hmem)⟩
        rw [hqueue] at hmem
        rcases List.mem_cons.mp hmem with rfl | hmem
        · exact Or.inr le_rfl
        · exact Or.inl hmem
      exact htaken.trans (callAll_flows behave _ _)

/-! ### Mutations -/

/-- What has gone on with its segment. -/
lemma Flows.goOn (h : Flows incoming s s') (ticket : ℕ) (kind : Kind) (next : Mutation ⊕ Outcome) :
    Flows incoming s (s'.goOn ticket kind next) :=
  h.trans (.same rfl rfl rfl rfl rfl)

/-- A segment takes the snapshot it has been answered with. -/
lemma resume_flows (ticket : ℕ) (answer : Answer)
    (hanswer : ∀ frame command next, s.Runs ticket frame → frame.awaited options = some command →
      answer.response = .updated next → next ∈ incoming) :
    Flows incoming s (s.resume options ticket answer) := by
  rw [resume]
  split
  · rename_i key call previous frame hentry
    have hruns : s.Runs ticket frame := ⟨key, call, previous, hentry⟩
    have hstays : ∀ next, Flows incoming s (s.goOn ticket frame.kind next) := fun next =>
      (Flows.refl s).goOn ticket _ next
    cases frame with
    | submit o =>
        rw [proceed]
        split
        · exact hstays _
        · split
          · exact hstays _
          · exact .same rfl rfl rfl rfl rfl
    | submitting o requestId attempt =>
        rw [proceed]
        split
        · rename_i next hresponse
          have hacknowledged : Flows incoming s (s.acknowledge ticket o.observationId) :=
            .same rfl rfl rfl rfl rfl
          have hnext := hanswer _ _ next hruns rfl hresponse
          exact (hacknowledged.trans (notify_flows answer.behave hnext _)).goOn ticket _ _
        · split
          · exact hstays _
          · exact hstays _
        · exact hstays _
    | retrying o requestId attempt =>
        rw [proceed]
        split
        · exact hstays _
        · split
          · exact hstays _
          · exact .same rfl rfl rfl rfl rfl
    | reset location =>
        rw [proceed]
        split
        · exact hstays _
        · exact .same rfl rfl rfl rfl rfl
    | resetting location requestId =>
        rw [proceed]
        split
        · rename_i next hresponse
          have hforgot : Flows incoming s (s.forget ticket) := .same rfl rfl rfl rfl rfl
          have hnext := hanswer _ _ next hruns rfl hresponse
          exact (hforgot.trans (notify_flows answer.behave hnext _)).goOn ticket _ _
        · exact hstays _
  · exact .refl s

lemma settle_flows (s : RemoteSession) (ticket : ℕ) : Flows incoming s (s.settle ticket) := by
  rw [settle]
  split
  · rw [finish.eq_def]
    split
    · split <;> exact .same rfl rfl rfl rfl rfl
    · exact .same rfl rfl rfl rfl rfl
  · exact .refl s

/-! ### The stream -/

lemma scheduleReconnect_flows (s : RemoteSession) :
    Flows incoming s (s.scheduleReconnect options) := by
  rw [scheduleReconnect]
  split
  · exact .refl s
  · exact .same rfl rfl rfl rfl rfl

/-- A new socket asks for what is newer than the snapshot held. -/
lemma openSocket_flows (dial : Dial) (s : RemoteSession) :
    Flows incoming s (s.openSocket dial) := by
  cases dial with
  | threw retryable => exact .same rfl rfl rfl rfl rfl
  | created =>
      refine ⟨le_rfl, Or.inl rfl, fun _ hmem => Or.inl hmem, Nat.le_succ _,
        Or.inr fun generation hcurrent => ?_, ?_, fun socket hmem => ?_⟩
      · obtain rfl : s.socketGeneration + 1 = generation := Option.some.inj hcurrent
        exact Nat.lt_succ_self _
      · show _ <+: (s.sockets ++ [_]).map Socket.dialed
        rw [List.map_append]
        exact List.prefix_append _ _
      · rcases List.mem_append.mp (show socket ∈ s.sockets ++ [_] from hmem) with hold | hnew
        · exact Or.inl (List.mem_map_of_mem hold)
        · rw [List.mem_singleton.mp hnew]
          exact Or.inr le_rfl

lemma delayed_flows (delay : Delay) (s : RemoteSession) :
    Flows incoming s (s.delayed options delay) := by
  rw [delayed]
  split
  · have hstage : Flows incoming s { s with reconnectStage := .finishing } :=
      .same rfl rfl rfl rfl rfl
    dsimp only
    split
    · exact hstage.trans (.same rfl rfl rfl rfl rfl)
    · split
      · exact hstage
      · split
        · exact hstage.trans ((openSocket_flows _ _).trans (.same rfl rfl rfl rfl rfl))
        · exact hstage.trans (openSocket_flows _ _)
  · exact .refl s

lemma reconnected_flows (s : RemoteSession) : Flows incoming s (s.reconnected options) := by
  rw [reconnected]
  split
  · have hstage : Flows incoming s
        { s with reconnectStage := .idle, reconnectTask := false } := .same rfl rfl rfl rfl rfl
    dsimp only
    split
    · exact hstage
    · exact hstage.trans (scheduleReconnect_flows _)
  · exact .refl s

lemma hangUp_flows (generation : ℕ) (code : Option ℕ) (s : RemoteSession) :
    Flows incoming s (s.hangUp options generation code) := by
  have hdropped : Flows incoming s { s.disposeSocketListeners generation with
      socket := none
      acts := s.acts ++ [.hungUp code] } :=
    .dropped rfl (fun _ hmem => hmem) rfl le_rfl (s.disposeSocketListeners_dialed generation)
  rw [hangUp.eq_def]
  dsimp only
  split
  · split
    · exact hdropped.trans (scheduleReconnect_flows _)
    · exact hdropped
  · exact hdropped

/-- An event of a socket: its message is queued, or older than what is held. -/
lemma socketEvent_flows (generation : ℕ) (event : SocketEvent) (s : RemoteSession)
    (hmessage : ∀ next, event = .message (some next) → next ∈ incoming) :
    Flows incoming s (s.socketEvent options generation event) := by
  rw [socketEvent.eq_def]
  split
  · cases event with
    | opened =>
        dsimp only
        split
        · exact .refl s
        · exact .same rfl rfl rfl rfl rfl
    | closed code =>
        dsimp only
        split
        · exact .refl s
        · exact hangUp_flows generation code s
    | message snapshot =>
        cases snapshot with
        | none => exact .refl s
        | some next =>
            dsimp only
            split
            · exact .refl s
            · rw [enqueue]
              split
              · exact .refl s
              · refine ⟨le_rfl, Or.inl rfl, fun other hmem => ?_, le_rfl,
                  Or.inl ⟨rfl, fun _ hmem => Or.inl (List.mem_append_left _ hmem)⟩,
                  List.prefix_refl _, fun _ hmem => Or.inl (List.mem_map_of_mem hmem)⟩
                refine (List.mem_append.mp hmem).imp_right fun hnew => ?_
                rw [List.mem_singleton.mp hnew]
                exact hmessage next rfl
  · exact .refl s

/-- **A message of the current socket is queued, or not newer than what is held.** -/
lemma message_flows (h : s.Wired options) {generation : ℕ} (hcurrent : s.socket = some generation)
    (next : ReadingSnapshot) :
    next ∈ (s.socketEvent options generation (.message (some next))).queuedNotifications ∨
      next.revision
        ≤ (s.socketEvent options generation (.message (some next))).snapshot.revision := by
  obtain ⟨socket, hmem, hgeneration, hattached⟩ := h.listening generation hcurrent
  have hany : (s.sockets.any fun socket => socket.generation == generation && socket.attached)
      = true := List.any_eq_true.mpr ⟨socket, hmem, by simp [hgeneration, hattached]⟩
  have hopen : s.closed = false := by
    by_contra hclosed
    rw [h.shut (by simpa using hclosed)] at hcurrent
    cases hcurrent
  rw [socketEvent, if_pos hany]
  rw [if_neg (by simp [hopen, (h.current generation hcurrent).1]), enqueue]
  split
  · rename_i hold
    exact Or.inr (hold.resolve_left (by simp [hopen]))
  · exact Or.inl (List.mem_append_right _ (List.mem_singleton_self _))

/-- **The snapshots of a session flow in every step.** -/
theorem step_flows (h : s.Wired options) (action : RemoteAction)
    (hanswer : ∀ ticket answer frame command next, action = .resume ticket answer →
      s.Runs ticket frame → frame.awaited options = some command →
        answer.response = .updated next → next ∈ incoming)
    (hmessage : ∀ generation next, action = .socketEvent generation (.message (some next)) →
      next ∈ incoming) : Flows incoming s (s.step options action) := by
  cases action with
  | call call => exact perform_flows call s
  | start ticket => exact .same rfl rfl rfl rfl rfl
  | resume ticket answer =>
      exact resume_flows ticket answer fun frame command next => hanswer ticket answer frame command
        next rfl
  | settle ticket => exact settle_flows s ticket
  | deliver behave => exact deliverNext_flows h behave
  | delayed delay => exact delayed_flows delay s
  | reconnected => exact reconnected_flows s
  | socketEvent generation event =>
      refine socketEvent_flows generation event s fun next heq => hmessage generation next ?_
      rw [heq]

/-- The snapshot held only moves forward. -/
lemma step_forward (h : s.Wired options) (action : RemoteAction) :
    s.snapshot.revision ≤ (s.step options action).snapshot.revision := by
  obtain ⟨incoming, hanswer, hmessage⟩ : ∃ incoming : List ReadingSnapshot,
      (∀ ticket answer next, action = .resume ticket answer → answer.response = .updated next →
        next ∈ incoming) ∧
      ∀ generation next, action = .socketEvent generation (.message (some next)) →
        next ∈ incoming := by
    cases action with
    | resume ticket answer =>
        cases hresponse : answer.response with
        | updated next =>
            refine ⟨[next], fun _ _ other heq hother => ?_, fun _ _ heq => (by cases heq)⟩
            cases heq
            rw [hresponse] at hother
            cases hother
            exact List.mem_singleton_self _
        | _ =>
            refine ⟨[], fun _ _ other heq hother => ?_, fun _ _ heq => (by cases heq)⟩
            cases heq
            rw [hresponse] at hother
            cases hother
    | socketEvent generation event =>
        cases event with
        | message snapshot =>
            refine ⟨snapshot.toList, fun _ _ _ heq => (by cases heq), fun _ next heq => ?_⟩
            cases heq
            exact List.mem_singleton_self _
        | _ => exact ⟨[], fun _ _ _ heq => (by cases heq), fun _ _ heq => (by cases heq)⟩
    | _ => exact ⟨[], fun _ _ _ heq => (by cases heq), fun _ _ heq => (by cases heq)⟩
  have hflows : Flows incoming s (s.step options action) := step_flows h action
    (fun ticket answer _ _ next heq _ _ => hanswer ticket answer next heq) hmessage
  exact hflows.forward

/-- A session that is created holds the snapshot it has loaded, and has dialed with it. -/
lemma createRemoteSession_flows {first : ReadingSnapshot} {dial : Dial}
    (h : createRemoteSession options (.ok first) dial = .ok s) :
    Flows incoming (loaded first) s := by
  have hopened : Flows incoming (loaded first) ((loaded first).openSocket dial) :=
    openSocket_flows dial _
  cases dial with
  | created =>
      cases h
      exact hopened
  | threw retryable =>
      cases retryable with
      | false => cases h
      | true =>
          cases h
          exact hopened.trans (scheduleReconnect_flows _)

end RemoteSession

end Qaraa.Client
