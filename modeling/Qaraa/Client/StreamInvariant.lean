import Qaraa.Client.AfterClose

/-!
The invariant of the stream of a remote session.

* `OffStream`, `Move.offStream`: what the moves apart from the stream leave alone.
* `attemptsSince`: the reconnect attempts since the last opening.
* `Wired`: the current socket is the only one with its listeners attached, the task waits
  only while there is none, and the attempts are counted.
* `run_wired`: **it holds in every state of every run**.
-/

namespace Qaraa.Client

open Ordered KeyedQueue Chronicle

/-- Whether an act is one of the stream. -/
def Act.streamed : Act → Bool
  | .attempted | .dialed _ | .connected | .hungUp _ => true
  | _ => false

/-- The reconnect attempts after the last opening of a socket. -/
def attemptsSince (log : List Act) : ℕ :=
  log.foldl (fun count act =>
    match act with
    | .attempted => count + 1
    | .connected => 0
    | _ => count) 0

lemma attemptsSince_concat (log : List Act) (act : Act) :
    attemptsSince (log ++ [act]) = match act with
      | .attempted => attemptsSince log + 1
      | .connected => 0
      | _ => attemptsSince log := by
  rw [attemptsSince, List.foldl_append]
  rfl

/-- Acts outside of the stream are no attempts. -/
lemma attemptsSince_append (log : List Act) {new : List Act}
    (h : ∀ act ∈ new, act.streamed = false) :
    attemptsSince (log ++ new) = attemptsSince log := by
  induction new using List.reverseRecOn with
  | nil => rw [List.append_nil]
  | append_singleton new act ih =>
      rw [← List.append_assoc, attemptsSince_concat, ih fun a ha => h a (by simp [ha])]
      have hact := h act (by simp)
      cases act <;> first | rfl | cases hact

namespace RemoteSession

variable {s s' : RemoteSession} {options : RemoteOptions}

/-- A change that leaves the stream alone. -/
structure OffStream (s s' : RemoteSession) : Prop where
  closed : s'.closed = s.closed
  socket : s'.socket = s.socket
  generation : s'.socketGeneration = s.socketGeneration
  disposer : s'.socketDisposer = s.socketDisposer
  sockets : s'.sockets = s.sockets
  attempts : s'.reconnectAttempts = s.reconnectAttempts
  task : s'.reconnectTask = s.reconnectTask
  stage : s'.reconnectStage = s.reconnectStage
  acts : ∃ new, s'.acts = s.acts ++ new ∧ ∀ act ∈ new, act.streamed = false

lemma OffStream.same (h : s' = { s with
      listeners := s'.listeners
      snapshot := s'.snapshot
      queuedNotifications := s'.queuedNotifications
      requestSequence := s'.requestSequence
      mutations := s'.mutations
      scheduledResetSequence := s'.scheduledResetSequence
      pendingResetCount := s'.pendingResetCount
      acknowledged := s'.acknowledged
      submissions := s'.submissions
      requests := s'.requests
      acts := s'.acts }) {new : List Act} (hacts : s'.acts = s.acts ++ new)
    (hnew : ∀ act ∈ new, act.streamed = false) : OffStream s s' := by
  refine ⟨?_, ?_, ?_, ?_, ?_, ?_, ?_, ?_, new, hacts, hnew⟩
  all_goals rw [h]

/-- The moves apart from the stream leave it alone, but for the closing. -/
lemma Exchange.offStream (h : Exchange s s') :
    OffStream s s' ∨ s.closed = false ∧ s' = s.close := by
  cases h with
  | listeners listeners => exact Or.inl (.same rfl (List.append_nil _).symm (by simp))
  | adopted next _ _ => exact Or.inl (.same rfl (List.append_nil _).symm (by simp))
  | heard listener _ => exact Or.inl (.same rfl rfl (by simp [Act.streamed]))
  | refused _ => exact Or.inl (.same rfl rfl (by simp [Act.streamed]))
  | held observationId _ _ _ => exact Or.inl (.same rfl rfl (by simp [Act.streamed]))
  | shared observationId existing _ _ _ => exact Or.inl (.same rfl rfl (by simp [Act.streamed]))
  | submitted o _ => exact Or.inl (.same rfl rfl (by simp [Act.streamed]))
  | reset location _ => exact Or.inl (.same rfl rfl (by simp [Act.streamed]))
  | closed hopen => exact Or.inr ⟨hopen, rfl⟩

lemma settle_acts (s : RemoteSession) (ticket : ℕ) : (s.settle ticket).acts = s.acts := by
  rw [settle]
  split
  · rw [finish.eq_def]
    split
    · split <;> rfl
    · rfl
  · rfl

lemma settle_offStream (s : RemoteSession) (ticket : ℕ) : OffStream s (s.settle ticket) := by
  have hacts := (s.settle_acts ticket).trans (List.append_nil _).symm
  have hnone : ∀ act ∈ ([] : List Act), act.streamed = false := by simp
  refine OffStream.same ?_ hacts hnone
  rw [settle]
  split
  · rw [finish.eq_def]
    split
    · split <;> rfl
    · rfl
  · rfl

lemma Move.offStream (h : Move s s') : OffStream s s' ∨ s.closed = false ∧ s' = s.close := by
  cases h with
  | exchanged hexchange => exact hexchange.offStream
  | enqueued next _ => exact Or.inl (.same rfl (List.append_nil _).symm (by simp))
  | dequeued next rest _ => exact Or.inl (.same rfl (List.append_nil _).symm (by simp))
  | started ticket => exact Or.inl (.same rfl (List.append_nil _).symm (by simp))
  | identified => exact Or.inl (.same rfl (List.append_nil _).symm (by simp))
  | sent ticket frame next command _ _ _ _ _ =>
      exact Or.inl (.same rfl (List.append_assoc _ _ _) (by simp [settling, Act.streamed]))
  | waited ticket frame next _ _ _ _ =>
      exact Or.inl (.same rfl rfl (by simp [settling]))
  | acknowledged ticket frame observationId _ _ _ =>
      exact Or.inl (.same rfl rfl (by simp [Act.streamed]))
  | forgot ticket frame _ _ _ => exact Or.inl (.same rfl rfl (by simp [Act.streamed]))
  | resolved ticket frame _ _ => exact Or.inl (.same rfl rfl (by simp [settling, Act.streamed]))
  | failed ticket frame error _ _ =>
      exact Or.inl (.same rfl rfl (by simp [settling, Act.streamed]))
  | settled ticket => exact Or.inl (s.settle_offStream ticket)

/-! ### The invariant -/

/-- The current socket, the reconnect task and the count of attempts. -/
structure Wired (options : RemoteOptions) (s : RemoteSession) : Prop where
  attached : ∀ socket ∈ s.sockets, socket.attached = true → s.socket = some socket.generation
  current : ∀ generation, s.socket = some generation →
    generation = s.socketGeneration ∧ s.socketDisposer = some generation
  listening : ∀ generation, s.socket = some generation →
    ∃ socket ∈ s.sockets, socket.generation = generation ∧ socket.attached = true
  shut : s.closed = true → s.socket = none
  disposer : ∀ generation, s.socketDisposer = some generation → s.socket = some generation
  known : ∀ socket ∈ s.sockets, socket.generation ≤ s.socketGeneration
  distinct : (s.sockets.map Socket.generation).Nodup
  delaying : s.reconnectStage = .delaying → s.socket = none
  task : s.closed = false → (s.reconnectTask = true ↔ s.reconnectStage ≠ .idle)
  attempts : s.reconnectAttempts ≤ options.maxAttempts
  counted : attemptsSince s.acts ≤ s.reconnectAttempts
  spaced : Obeys (fun log act => act = .attempted → attemptsSince log < options.maxAttempts) s.acts

namespace Wired

lemma fresh (snapshot : ReadingSnapshot) : (loaded snapshot).Wired options where
  attached := fun socket h => by simp [loaded] at h
  current := nofun
  listening := nofun
  shut := nofun
  disposer := nofun
  known := fun socket h => by simp [loaded] at h
  distinct := List.nodup_nil
  delaying := nofun
  task := fun _ => by simp [loaded]
  attempts := Nat.zero_le _
  counted := le_rfl
  spaced := .nil

/-- The log of acts outside of the stream. -/
lemma log (h : s.Wired options) {new : List Act} (hnew : ∀ act ∈ new, act.streamed = false) :
    attemptsSince (s.acts ++ new) ≤ s.reconnectAttempts ∧
      Obeys (fun log act => act = .attempted → attemptsSince log < options.maxAttempts)
        (s.acts ++ new) := by
  refine ⟨(attemptsSince_append s.acts hnew).symm ▸ h.counted, ?_⟩
  induction new using List.reverseRecOn with
  | nil => exact (List.append_nil s.acts).symm ▸ h.spaced
  | append_singleton new act ih =>
      rw [← List.append_assoc]
      refine (ih fun a ha => hnew a (by simp [ha])).concat ?_
      rintro rfl
      exact absurd (hnew .attempted (by simp)) (by decide)

lemma offStream (h : s.Wired options) (hoff : OffStream s s') : s'.Wired options := by
  obtain ⟨new, hacts, hnew⟩ := hoff.acts
  obtain ⟨hcounted, hspaced⟩ := h.log hnew
  constructor
  · rw [hoff.sockets, hoff.socket]
    exact h.attached
  · rw [hoff.socket, hoff.generation, hoff.disposer]
    exact h.current
  · rw [hoff.socket, hoff.sockets]
    exact h.listening
  · rw [hoff.closed, hoff.socket]
    exact h.shut
  · rw [hoff.socket, hoff.disposer]
    exact h.disposer
  · rw [hoff.sockets, hoff.generation]
    exact h.known
  · rw [hoff.sockets]
    exact h.distinct
  · rw [hoff.stage, hoff.socket]
    exact h.delaying
  · rw [hoff.closed, hoff.task, hoff.stage]
    exact h.task
  · rw [hoff.attempts]
    exact h.attempts
  · rw [hacts, hoff.attempts]
    exact hcounted
  · rw [hacts]
    exact hspaced

/-- The listeners of the current socket are removed. -/
lemma detached {sockets : List Socket} {generation : ℕ} {socket : Socket}
    (hmem : socket ∈ sockets.map fun socket =>
      if socket.generation = generation then { socket with attached := false } else socket) :
    ∃ old ∈ sockets, socket.generation = old.generation ∧
      (socket.attached = true → old.attached = true ∧ old.generation ≠ generation) := by
  obtain ⟨old, hold, rfl⟩ := List.mem_map.mp hmem
  refine ⟨old, hold, ?_, ?_⟩
  · split <;> rfl
  · split
    · exact nofun
    · rename_i hne
      exact fun hattached => ⟨hattached, hne⟩

/-- No socket keeps its listeners when those of the current one are removed. -/
lemma all_detached (h : s.Wired options) {generation : ℕ} (hcurrent : s.socket = some generation) :
    ∀ socket ∈ (s.disposeSocketListeners generation).sockets, socket.attached = false := by
  intro socket hmem
  obtain ⟨old, hold, -, hkept⟩ := detached hmem
  by_contra hattached
  obtain ⟨hattached, hne⟩ := hkept (by simpa using hattached)
  exact hne (Option.some.inj ((h.attached old hold hattached).symm.trans hcurrent))

lemma generations_disposed (s : RemoteSession) (generation : ℕ) :
    (s.disposeSocketListeners generation).sockets.map Socket.generation
      = s.sockets.map Socket.generation := by
  rw [disposeSocketListeners, List.map_map]
  refine List.map_congr_left fun socket _ => ?_
  rw [Function.comp_apply]
  split <;> rfl

/-- The current socket is given up: its listeners are removed and nothing takes its place. -/
lemma drop (h : s.Wired options) (hnone : ∀ socket ∈ s'.sockets, socket.attached = false)
    (hsockets : s'.sockets.map Socket.generation = s.sockets.map Socket.generation)
    (hsocket : s'.socket = none) (hdisposer : s'.socketDisposer = none)
    (hgeneration : s.socketGeneration ≤ s'.socketGeneration)
    (hstage : s'.reconnectStage = s.reconnectStage)
    (htask : s'.closed = false → s'.reconnectTask = s.reconnectTask ∧ s.closed = false)
    (hattempts : s'.reconnectAttempts = s.reconnectAttempts) {act : Act}
    (hacts : s'.acts = s.acts ++ [act]) (hact : act ≠ .attempted ∧ act ≠ .connected) :
    s'.Wired options := by
  have hcount : attemptsSince (s.acts ++ [act]) = attemptsSince s.acts := by
    rw [attemptsSince_concat]
    cases act <;> first | rfl | exact absurd rfl hact.1 | exact absurd rfl hact.2
  constructor
  · intro socket hmem hattached
    rw [hnone socket hmem] at hattached
    cases hattached
  · rw [hsocket]
    exact nofun
  · rw [hsocket]
    exact nofun
  · exact fun _ => hsocket
  · rw [hdisposer]
    exact nofun
  · intro socket hmem
    obtain ⟨old, hold, heq⟩ := List.mem_map.mp (hsockets ▸ List.mem_map_of_mem hmem)
    rw [← heq]
    exact (h.known old hold).trans hgeneration
  · rw [hsockets]
    exact h.distinct
  · exact fun _ => hsocket
  · intro hopen
    obtain ⟨heq, hwas⟩ := htask hopen
    rw [heq, hstage]
    exact h.task hwas
  · rw [hattempts]
    exact h.attempts
  · rw [hacts, hcount, hattempts]
    exact h.counted
  · rw [hacts]
    exact h.spaced.concat fun heq => absurd heq hact.1

/-- Without a current socket none has its listeners attached. -/
lemma idle (h : s.Wired options) (hnone : s.socket = none) :
    ∀ socket ∈ s.sockets, socket.attached = false := by
  intro socket hmem
  by_contra hattached
  have hcurrent := h.attached socket hmem (by simpa using hattached)
  rw [hnone] at hcurrent
  cases hcurrent

/-- The session is closed. -/
lemma close (h : s.Wired options) (hopen : s.closed = false) : s.close.Wired options := by
  rw [RemoteSession.close, if_neg (by simp [hopen])]
  cases hsocket : s.socket with
  | none =>
      have hdisposer : s.disposeSocket = s := by
        rw [disposeSocket]
        split
        · rename_i generation hdisposer
          rw [h.disposer generation hdisposer] at hsocket
          cases hsocket
        · rfl
      rw [hdisposer]
      exact h.drop (h.idle hsocket) rfl rfl rfl (Nat.le_succ _) rfl (by rintro ⟨⟩) rfl rfl
        ⟨by rintro ⟨⟩, by rintro ⟨⟩⟩
  | some generation =>
      have hdisposer : s.disposeSocket = s.disposeSocketListeners generation := by
        rw [disposeSocket, (h.current generation hsocket).2]
      rw [hdisposer]
      exact h.drop (h.all_detached hsocket) (generations_disposed s generation) rfl rfl
        (Nat.le_succ _) rfl (by rintro ⟨⟩) rfl rfl ⟨by rintro ⟨⟩, by rintro ⟨⟩⟩

/-- A reconnect attempt is scheduled. -/
lemma scheduleReconnect (h : s.Wired options) : (s.scheduleReconnect options).Wired options := by
  rw [RemoteSession.scheduleReconnect]
  split
  · exact h
  · rename_i hgo
    simp only [not_or, not_le, Option.not_isSome_iff_eq_none] at hgo
    obtain ⟨-, -, hsocket, hlt⟩ := hgo
    refine ⟨h.attached, h.current, h.listening, h.shut, h.disposer, h.known, h.distinct,
      fun _ => hsocket, fun _ => ⟨fun _ => by rintro ⟨⟩, fun _ => rfl⟩, hlt, ?_,
      h.spaced.concat fun _ => ?_⟩
    · rw [attemptsSince_concat]
      exact Nat.succ_le_succ h.counted
    · exact lt_of_le_of_lt h.counted hlt

/-- The factory makes a socket while there is none. -/
lemma openSocket (h : s.Wired options) (hopen : s.closed = false) (hsocket : s.socket = none)
    (hstage : s.reconnectStage ≠ .delaying) (dial : Dial) :
    (s.openSocket dial).Wired options := by
  have hcounted :
      attemptsSince (s.acts ++ [.dialed s.snapshot.revision]) ≤ s.reconnectAttempts := by
    rw [attemptsSince_concat]
    exact h.counted
  have hspaced : Obeys (fun log act => act = .attempted → attemptsSince log < options.maxAttempts)
      (s.acts ++ [.dialed s.snapshot.revision]) := h.spaced.concat nofun
  cases dial with
  | threw retryable =>
      exact ⟨h.attached, h.current, h.listening, h.shut, h.disposer, h.known, h.distinct,
        h.delaying, h.task, h.attempts, hcounted, hspaced⟩
  | created =>
      have hcases : ∀ socket, socket ∈ s.sockets ++
          [⟨s.socketGeneration + 1, s.snapshot.revision, true⟩] → socket ∈ s.sockets ∨
            socket = ⟨s.socketGeneration + 1, s.snapshot.revision, true⟩ := fun socket hmem =>
        (List.mem_append.mp hmem).imp_right List.mem_singleton.mp
      refine ⟨fun socket hmem hattached => ?_, fun generation hcurrent => ?_,
        fun generation hcurrent => ?_, fun hclosed => ?_,
        fun generation hdisposer => hdisposer, fun socket hmem => ?_, ?_,
        fun hdelaying => absurd hdelaying hstage, h.task, h.attempts, hcounted, hspaced⟩
      · rcases hcases socket hmem with hold | rfl
        · rw [h.idle hsocket socket hold] at hattached
          cases hattached
        · rfl
      · cases hcurrent
        exact ⟨rfl, rfl⟩
      · cases hcurrent
        exact ⟨_, List.mem_append_right _ (List.mem_singleton_self _), rfl, rfl⟩
      · exact absurd (hopen.symm.trans hclosed) (by decide)
      · rcases hcases socket hmem with hold | rfl
        · exact (h.known socket hold).trans (Nat.le_succ _)
        · exact le_rfl
      · show ((s.sockets ++ [_]).map Socket.generation).Nodup
        rw [List.map_append, List.nodup_append]
        refine ⟨h.distinct, List.nodup_singleton _, fun a ha b hb => ?_⟩
        obtain ⟨socket, hmem, rfl⟩ := List.mem_map.mp ha
        have hle := h.known socket hmem
        rw [List.map_singleton, List.mem_singleton] at hb
        rw [hb]
        exact Nat.ne_of_lt (Nat.lt_succ_of_le hle)

/-- The attempts are used up. -/
lemma exhaust (h : s.Wired options) : (s.exhaust options).Wired options :=
  ⟨h.attached, h.current, h.listening, h.shut, h.disposer, h.known, h.distinct, h.delaying,
    h.task, le_rfl, h.counted.trans h.attempts, h.spaced⟩

lemma delayed (h : s.Wired options) (delay : Delay) : (s.delayed options delay).Wired options := by
  rw [RemoteSession.delayed]
  split
  · rename_i hdelaying
    have hstage : ({ s with reconnectStage := .finishing } : RemoteSession).Wired options :=
      ⟨h.attached, h.current, h.listening, h.shut, h.disposer, h.known, h.distinct, (by rintro ⟨⟩),
        fun hopen => (h.task hopen).trans
          ⟨fun _ => by rintro ⟨⟩, fun _ => by rw [hdelaying]; rintro ⟨⟩⟩,
        h.attempts,
        h.counted, h.spaced⟩
    cases delay with
    | rejected => exact hstage.exhaust
    | elapsed dial =>
        dsimp only
        split
        · exact hstage
        · rename_i hgo
          rw [not_or, Bool.not_eq_true] at hgo
          have hopened := hstage.openSocket hgo.1 (h.delaying hdelaying) (by rintro ⟨⟩) dial
          split
          · exact hopened.exhaust
          · exact hopened
  · exact h

lemma reconnected (h : s.Wired options) : (s.reconnected options).Wired options := by
  rw [RemoteSession.reconnected]
  split
  · have hstage : ({ s with reconnectStage := .idle, reconnectTask := false } :
        RemoteSession).Wired options :=
      ⟨h.attached, h.current, h.listening, h.shut, h.disposer, h.known, h.distinct, (by rintro ⟨⟩),
        fun _ => ⟨by rintro ⟨⟩, fun hne => absurd rfl hne⟩, h.attempts, h.counted, h.spaced⟩
    dsimp only
    split
    · exact hstage
    · exact hstage.scheduleReconnect
  · exact h

/-- An event reaches only the current socket. -/
lemma attached_any (h : s.Wired options) {generation : ℕ}
    (hany : (s.sockets.any fun socket =>
      socket.generation == generation && socket.attached) = true) :
    s.socket = some generation := by
  obtain ⟨socket, hmem, hsocket⟩ := List.any_eq_true.mp hany
  rw [Bool.and_eq_true, beq_iff_eq] at hsocket
  rw [h.attached socket hmem hsocket.2, hsocket.1]

/-- The current socket, closed. -/
lemma hangUp (h : s.Wired options) {generation : ℕ} (hcurrent : s.socket = some generation)
    (code : Option ℕ) : (s.hangUp options generation code).Wired options := by
  have hdropped : ({ s.disposeSocketListeners generation with
      socket := none
      acts := s.acts ++ [.hungUp code] } : RemoteSession).Wired options := by
    refine h.drop (h.all_detached hcurrent) (generations_disposed s generation) rfl ?_ le_rfl rfl
      (fun hopen => ⟨rfl, hopen⟩) rfl rfl ⟨nofun, nofun⟩
    show (if s.socketDisposer = some generation then none else s.socketDisposer) = none
    rw [if_pos (h.current generation hcurrent).2]
  rw [RemoteSession.hangUp.eq_def]
  dsimp only
  split
  · split
    · exact hdropped.scheduleReconnect
    · exact hdropped
  · exact hdropped

lemma stream (h : s.Wired options) {action : RemoteAction}
    (hstep : StreamStep options s action s') : s'.Wired options := by
  cases hstep with
  | delayed delay => exact h.delayed delay
  | reconnected => exact h.reconnected
  | opened generation =>
      rw [socketEvent.eq_def]
      split
      · dsimp only
        split
        · exact h
        · refine ⟨h.attached, h.current, h.listening, h.shut, h.disposer, h.known, h.distinct,
            h.delaying, h.task, Nat.zero_le _, ?_, h.spaced.concat (by rintro ⟨⟩)⟩
          rw [attemptsSince_concat]
      · exact h
  | hungUp generation code =>
      rw [socketEvent.eq_def]
      split
      · rename_i hany
        dsimp only
        split
        · exact h
        · exact h.hangUp (h.attached_any hany) code
      · exact h

lemma move (h : s.Wired options) (hmove : Move s s') : s'.Wired options := by
  rcases hmove.offStream with hoff | ⟨hopen, rfl⟩
  · exact h.offStream hoff
  · exact h.close hopen

end Wired

lemma createRemoteSession_wired {first : Except SessionError ReadingSnapshot} {dial : Dial}
    {session : RemoteSession} (h : createRemoteSession options first dial = .ok session) :
    session.Wired options := by
  cases first with
  | error error => cases h
  | ok snapshot =>
      have hopened : ((loaded snapshot).openSocket dial).Wired options :=
        (Wired.fresh snapshot).openSocket rfl rfl nofun dial
      cases dial with
      | created =>
          cases h
          exact hopened
      | threw retryable =>
          cases retryable with
          | false => cases h
          | true =>
              cases h
              exact hopened.scheduleReconnect

/-- **The invariant of the stream holds in every run.** -/
theorem run_wired (h : s.Wired options) (actions : List RemoteAction) :
    (s.run options actions).Wired options :=
  run_holds options (fun _ _ hmove h => h.move hmove) (fun _ _ _ hstep h => h.stream hstep) h
    actions

end RemoteSession

end Qaraa.Client
