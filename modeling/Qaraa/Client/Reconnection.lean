import Qaraa.Client.StreamInvariant

/-!
How a remote session reconnects.

* `reconnection_bounded`: **one current socket, events of others ignored, current revisions
  in the URLs, and at most `maxAttempts` attempts between two openings**.
* `Overridden`: a terminal close code that comes before the handler of the reconnect task has
  run, which then reconnects nevertheless.
* `terminal_close_final`: **without one, a terminal close code ends the stream**.
-/

namespace Qaraa.Client

open Ordered KeyedQueue Chronicle

/-! ### Bounds -/

/-- Attempts without an opening among them add up. -/
lemma attemptsSince_append_count (log : List Act) {mid : List Act} (h : Act.connected ∉ mid) :
    attemptsSince (log ++ mid) = attemptsSince log + mid.count .attempted := by
  induction mid using List.reverseRecOn with
  | nil => rw [List.append_nil, List.count_nil, Nat.add_zero]
  | append_singleton mid act ih =>
      rw [← List.append_assoc, attemptsSince_concat, List.count_append,
        ih fun hmem => h (List.mem_append_left _ hmem)]
      cases act with
      | attempted => simp [Nat.add_assoc]
      | connected => exact absurd (by simp) h
      | _ => simp

/-- Each attempt is made below the limit, so that it is never passed. -/
lemma attemptsSince_le {limit : ℕ} {log : List Act}
    (h : Obeys (fun log act => act = .attempted → attemptsSince log < limit) log) :
    attemptsSince log ≤ limit := by
  induction log using List.reverseRecOn with
  | nil => exact Nat.zero_le _
  | append_singleton log act ih =>
      have hlog := ih fun before entry after hsplit =>
        h before entry (after ++ [act]) (by rw [hsplit]; simp)
      have hact := h log act [] rfl
      rw [attemptsSince_concat]
      cases act with
      | attempted => exact hact rfl
      | connected => exact Nat.zero_le _
      | _ => exact hlog

namespace RemoteSession

variable {s s' : RemoteSession} {options : RemoteOptions}

lemma Wired.attempts_between (h : s.Wired options) {before mid after : List Act}
    (hacts : s.acts = before ++ mid ++ after) (hmid : Act.connected ∉ mid) :
    mid.count .attempted ≤ options.maxAttempts := by
  have hobeys : Obeys (fun log act => act = .attempted → attemptsSince log < options.maxAttempts)
      (before ++ mid) := fun earlier entry later hsplit =>
    h.spaced earlier entry (later ++ after) (by rw [hacts, hsplit]; simp)
  have hle := attemptsSince_le hobeys
  rw [attemptsSince_append_count before hmid] at hle
  omega

/-- At most one socket has its listeners attached. -/
lemma Wired.one_attached (h : s.Wired options) :
    (s.sockets.filter Socket.attached).length ≤ 1 := by
  have hnodup : ((s.sockets.filter Socket.attached).map Socket.generation).Nodup :=
    h.distinct.sublist (List.filter_sublist.map _)
  have hsame : ∀ generation ∈ (s.sockets.filter Socket.attached).map Socket.generation,
      some generation = s.socket := by
    intro generation hmem
    obtain ⟨socket, hsocket, rfl⟩ := List.mem_map.mp hmem
    obtain ⟨hold, hattached⟩ := List.mem_filter.mp hsocket
    exact (h.attached socket hold hattached).symm
  rw [← List.length_map Socket.generation]
  generalize (s.sockets.filter Socket.attached).map Socket.generation = generations at hnodup hsame
  match generations with
  | [] => exact Nat.zero_le _
  | [_] => exact le_rfl
  | first :: second :: rest =>
      have heq : first = second :=
        Option.some.inj ((hsame first (by simp)).trans (hsame second (by simp)).symm)
      simp [heq] at hnodup

/-- Events of a socket that is not the current one change nothing. -/
lemma Wired.ignored (h : s.Wired options) {generation : ℕ} (hother : s.socket ≠ some generation)
    (event : SocketEvent) : s.step options (.socketEvent generation event) = s := by
  rw [step, socketEvent.eq_def, if_neg fun hany => hother (h.attached_any hany)]

lemma Move.streamless (h : Move s s') :
    ∃ new, s'.acts = s.acts ++ new ∧ ∀ act ∈ new, act.streamed = false := by
  rcases h.offStream with hoff | ⟨hopen, rfl⟩
  · exact hoff.acts
  · refine ⟨[.closed], ?_, by simp [Act.streamed]⟩
    rw [close, if_neg (by simp [hopen])]

lemma Moves.streamless (h : Moves s s') :
    ∃ new, s'.acts = s.acts ++ new ∧ ∀ act ∈ new, act.streamed = false := by
  induction h with
  | refl => exact ⟨[], (List.append_nil _).symm, by simp⟩
  | tail _ hlast ih =>
      obtain ⟨new, hacts, hnew⟩ := ih
      obtain ⟨more, hmore, hcalm⟩ := Move.streamless hlast
      refine ⟨new ++ more, by rw [hmore, hacts, List.append_assoc], fun act hact => ?_⟩
      exact (List.mem_append.mp hact).elim (hnew act) (hcalm act)

/-- What a step writes: outside of the stream no act of the stream, and otherwise a socket is
dialed with the snapshot held. -/
lemma step_acts (options : RemoteOptions) (s : RemoteSession) (action : RemoteAction) :
    ∃ new, (s.step options action).acts = s.acts ++ new ∧
      ((∀ act ∈ new, act.streamed = false) ∨
        StreamStep options s action (s.step options action) ∧ ∀ act ∈ new, OfStream s act) := by
  rcases step_cases options s action with hmoves | hstep
  · obtain ⟨new, hacts, hcalm⟩ := Moves.streamless hmoves
    exact ⟨new, hacts, Or.inl hcalm⟩
  · obtain ⟨new, hacts, hnew⟩ := hstep.onlyStream.acts
    exact ⟨new, hacts, Or.inr ⟨hstep, hnew⟩⟩

/-- Every socket is dialed with the revision of the snapshot held then. -/
lemma step_dialed (options : RemoteOptions) (s : RemoteSession) (action : RemoteAction) :
    ∃ new, (s.step options action).acts = s.acts ++ new ∧
      ∀ revision, Act.dialed revision ∈ new → revision = s.snapshot.revision := by
  obtain ⟨new, hacts, hnew⟩ := step_acts options s action
  refine ⟨new, hacts, fun revision hdialed => ?_⟩
  rcases hnew with hcalm | ⟨-, hstream⟩
  · cases hcalm _ hdialed
  · exact (hstream _ hdialed).2

end RemoteSession

/-- **The reconnect machine keeps its bounds.** In every run of a remote session at most one
socket has its listeners attached, which is the current one; events of any other socket change
nothing; every step that calls the socket factory does so with the revision of the snapshot
held then; and at most `maxAttempts` attempts are made in any stretch of the run in which no
socket opens. -/
theorem reconnection_bounded (options : RemoteOptions)
    (first : Except SessionError ReadingSnapshot) (dial : Dial) (session : RemoteSession)
    (created : createRemoteSession options first dial = .ok session)
    (actions : List RemoteAction) :
    let s := session.run options actions
    (s.sockets.filter Socket.attached).length ≤ 1 ∧
    (∀ socket ∈ s.sockets, socket.attached = true → s.socket = some socket.generation) ∧
    (∀ (generation : ℕ) (event : SocketEvent), s.socket ≠ some generation →
      s.step options (.socketEvent generation event) = s) ∧
    (∀ action, ∃ new, (s.step options action).acts = s.acts ++ new ∧
      ∀ revision, Act.dialed revision ∈ new → revision = s.snapshot.revision) ∧
    ∀ before mid after : List Act, s.acts = before ++ mid ++ after → Act.connected ∉ mid →
      mid.count .attempted ≤ options.maxAttempts := by
  intro s
  have h : s.Wired options := RemoteSession.run_wired
    (RemoteSession.createRemoteSession_wired created) actions
  exact ⟨h.one_attached, h.attached, fun generation event hother => h.ignored hother event,
    RemoteSession.step_dialed options s, fun before mid after hacts => h.attempts_between hacts⟩

/-- The only attempt of the sample is used up by a socket that never opens. -/
def lostSockets : List RemoteAction :=
  [.socketEvent 1 (.closed (some 1006)), .delayed (.elapsed .created), .reconnected,
    .socketEvent 2 (.closed (some 1006))]

/-- The session of the sample loses two sockets, and makes one attempt in a row. -/
theorem reconnection_bounded_sample :
    (openedSample.run remoteSample lostSockets).acts.count .attempted ≤ 1 :=
  (reconnection_bounded remoteSample (.ok (sampleSnapshot 0)) .created openedSample
    openedSample_created lostSockets).2.2.2.2 [] _ [] (List.append_nil _).symm
    (by decide +kernel)

/-! ### Terminal close codes -/

namespace RemoteSession

variable {s s' : RemoteSession} {options : RemoteOptions}

/-- A terminal close code comes while the handler of the reconnect task is still to run and
attempts are left. -/
def Overridden (options : RemoteOptions) (s : RemoteSession) (action : RemoteAction) : Prop :=
  ∃ generation code, action = .socketEvent generation (.closed (some code)) ∧
    s.socket = some generation ∧ retryableSocketClose code = false ∧
    s.reconnectStage = .finishing ∧ s.reconnectAttempts < options.maxAttempts

/-- Nothing is left that could call the socket factory again. -/
def Dead (options : RemoteOptions) (s : RemoteSession) : Prop :=
  s.closed = true ∨ s.socket = none ∧ (s.reconnectStage = .idle ∨
    s.reconnectStage = .finishing ∧ options.maxAttempts ≤ s.reconnectAttempts)

lemma Dead.move (h : s.Dead options) (hmove : Move s s') : s'.Dead options := by
  rcases hmove.offStream with hoff | ⟨-, rfl⟩
  · rw [Dead, hoff.closed, hoff.socket, hoff.stage, hoff.attempts]
    exact h
  · exact Or.inl s.close_closed

/-- A step of the stream of a dead session writes nothing, and it stays dead. -/
lemma Dead.stream (h : s.Dead options) (hwired : s.Wired options) {action : RemoteAction}
    (hstep : StreamStep options s action s') : s'.Dead options ∧ s'.acts = s.acts := by
  have hnone : s.socket = none := h.elim hwired.shut And.left
  have hignored : ∀ generation event, s.socketEvent options generation event = s :=
    fun generation event => hwired.ignored (by simp [hnone]) event
  cases hstep with
  | opened generation =>
      rw [hignored]
      exact ⟨h, rfl⟩
  | hungUp generation code =>
      rw [hignored]
      exact ⟨h, rfl⟩
  | delayed delay =>
      rw [delayed]
      split
      · rename_i hdelaying
        have hclosed : s.closed = true := h.resolve_right <| by
          rintro ⟨-, hstage⟩
          rw [hdelaying] at hstage
          obtain ⟨⟨⟩⟩ | ⟨⟨⟩, -⟩ := hstage
        cases delay with
        | rejected => exact ⟨Or.inl hclosed, rfl⟩
        | elapsed dial =>
            dsimp only
            rw [if_pos (Or.inl hclosed)]
            exact ⟨Or.inl hclosed, rfl⟩
      · exact ⟨h, rfl⟩
  | reconnected =>
      rw [reconnected]
      split
      · rename_i hfinishing
        have hover : s.closed = true ∨ options.maxAttempts ≤ s.reconnectAttempts :=
          h.imp_right <| by
            rintro ⟨-, hstage⟩
            rw [hfinishing] at hstage
            obtain ⟨⟨⟩⟩ | ⟨-, hattempts⟩ := hstage
            exact hattempts
        dsimp only
        rw [if_pos (hover.imp_right Or.inr)]
        exact ⟨h.imp_right fun hdead => ⟨hdead.1, Or.inl rfl⟩, rfl⟩
      · exact ⟨h, rfl⟩

/-- The close event of a terminal code leaves the session dead, unless it is overridden. -/
lemma dead_of_terminal (h : s.Wired options) {generation code : ℕ}
    (hcurrent : s.socket = some generation) (hterminal : retryableSocketClose code = false)
    (hover : ¬s.Overridden options (.socketEvent generation (.closed (some code)))) :
    (s.hangUp options generation (some code)).Dead options := by
  rw [hangUp.eq_def]
  dsimp only
  rw [if_neg (by simp [hterminal])]
  refine Or.inr ⟨rfl, ?_⟩
  show s.reconnectStage = .idle ∨ s.reconnectStage = .finishing ∧ _ ≤ s.reconnectAttempts
  cases hstage : s.reconnectStage with
  | idle => exact Or.inl rfl
  | delaying =>
      rw [h.delaying hstage] at hcurrent
      cases hcurrent
  | finishing =>
      refine Or.inr ⟨rfl, not_lt.mp fun hlt => hover ?_⟩
      exact ⟨generation, code, rfl, hcurrent, hterminal, hstage, hlt⟩

lemma delayed_acts (options : RemoteOptions) (delay : Delay) (s : RemoteSession) :
    (s.delayed options delay).acts = s.acts ∨
      (s.delayed options delay).acts = s.acts ++ [.dialed s.snapshot.revision] := by
  rw [delayed]
  split
  · cases delay with
    | rejected => exact Or.inl rfl
    | elapsed dial =>
        dsimp only
        split
        · exact Or.inl rfl
        · right
          cases dial with
          | created => rfl
          | threw retryable => cases retryable <;> rfl
  · exact Or.inl rfl

lemma scheduleReconnect_acts (options : RemoteOptions) (s : RemoteSession) :
    (s.scheduleReconnect options).acts = s.acts ∨
      (s.scheduleReconnect options).acts = s.acts ++ [.attempted] := by
  rw [scheduleReconnect]
  split
  · exact Or.inl rfl
  · exact Or.inr rfl

lemma reconnected_acts (options : RemoteOptions) (s : RemoteSession) :
    (s.reconnected options).acts = s.acts ∨
      (s.reconnected options).acts = s.acts ++ [.attempted] := by
  rw [reconnected]
  split
  · dsimp only
    split
    · exact Or.inl rfl
    · exact scheduleReconnect_acts options _
  · exact Or.inl rfl

lemma opened_acts (options : RemoteOptions) (generation : ℕ) (s : RemoteSession) :
    (s.socketEvent options generation .opened).acts = s.acts ∨
      (s.socketEvent options generation .opened).acts = s.acts ++ [.connected] := by
  rw [socketEvent.eq_def]
  split
  · dsimp only
    split
    · exact Or.inl rfl
    · exact Or.inr rfl
  · exact Or.inl rfl

/-- No socket has been dialed after a terminal close code, and after one the session is
dead. -/
structure Final (options : RemoteOptions) (s : RemoteSession) : Prop where
  wired : s.Wired options
  dead : ∀ code, .hungUp (some code) ∈ s.acts → retryableSocketClose code = false →
    s.Dead options
  log : Obeys (fun log act => ∀ revision, act = .dialed revision →
    ∀ code, .hungUp (some code) ∈ log → retryableSocketClose code = true) s.acts

namespace Final

/-- Acts are written, none of which dials a socket. -/
lemma undialed (h : s.Final options) (hwired : s'.Wired options) {new : List Act}
    (hacts : s'.acts = s.acts ++ new) (hdialed : ∀ revision, .dialed revision ∉ new)
    (hdead : ∀ code, .hungUp (some code) ∈ new → retryableSocketClose code = false →
      s'.Dead options)
    (hkept : s.Dead options → s'.Dead options) : s'.Final options where
  wired := hwired
  dead := by
    intro code hmem hterminal
    rw [hacts, List.mem_append] at hmem
    rcases hmem with hmem | hmem
    · exact hkept (h.dead code hmem hterminal)
    · exact hdead code hmem hterminal
  log := by
    rw [hacts]
    clear hacts hdead
    induction new using List.reverseRecOn with
    | nil => exact (List.append_nil s.acts).symm ▸ h.log
    | append_singleton new act ih =>
        rw [← List.append_assoc]
        refine (ih fun revision hmem => hdialed revision (List.mem_append_left _ hmem)).concat ?_
        rintro revision rfl
        exact absurd (by simp) (hdialed revision)

/-- A session that is not dead dials a socket. -/
lemma dialed (h : s.Final options) (hwired : s'.Wired options) {revision : ℕ}
    (hacts : s'.acts = s.acts ++ [.dialed revision]) (halive : ¬s.Dead options) :
    s'.Final options where
  wired := hwired
  dead := by
    intro code hmem hterminal
    rw [hacts, List.mem_append] at hmem
    exact absurd (h.dead code (hmem.resolve_right (by simp)) hterminal) halive
  log := by
    rw [hacts]
    refine h.log.concat fun _ _ code hmem => ?_
    by_contra hterminal
    exact halive (h.dead code hmem ((Bool.not_eq_true _).mp hterminal))

lemma move (h : s.Final options) (hmove : Move s s') : s'.Final options := by
  obtain ⟨new, hacts, hcalm⟩ := hmove.streamless
  exact h.undialed (h.wired.move hmove) hacts (fun _ hmem => (by cases hcalm _ hmem))
    (fun _ hmem => (by cases hcalm _ hmem)) fun hdead => hdead.move hmove

lemma hangUp (h : s.Final options) {generation : ℕ} {code : Option ℕ}
    (hcurrent : s.socket = some generation)
    (hover : ¬s.Overridden options (.socketEvent generation (.closed code))) :
    (s.hangUp options generation code).Final options := by
  have halive : ¬s.Dead options := by
    rintro (hclosed | ⟨hnone, -⟩)
    · rw [h.wired.shut hclosed] at hcurrent
      cases hcurrent
    · rw [hnone] at hcurrent
      cases hcurrent
  have hacts : (s.hangUp options generation code).acts = s.acts ++ [.hungUp code] ∨
      (s.hangUp options generation code).acts = s.acts ++ [.hungUp code, .attempted] := by
    rw [RemoteSession.hangUp.eq_def]
    dsimp only
    split
    · split
      · refine (scheduleReconnect_acts options _).imp_right fun hacts => ?_
        rw [hacts, List.append_assoc, List.singleton_append]
      · exact Or.inl rfl
    · exact Or.inl rfl
  have hwired := h.wired.hangUp hcurrent code
  have hdead : ∀ terminal, code = some terminal → retryableSocketClose terminal = false →
      (s.hangUp options generation code).Dead options := by
    rintro terminal rfl hterminal
    exact dead_of_terminal h.wired hcurrent hterminal hover
  rcases hacts with hacts | hacts
  · exact h.undialed hwired hacts (by simp) (by simpa using fun terminal => hdead terminal ∘ .symm)
      fun hdead => absurd hdead halive
  · exact h.undialed hwired hacts (by simp) (by simpa using fun terminal => hdead terminal ∘ .symm)
      fun hdead => absurd hdead halive

lemma stream (h : s.Final options) {action : RemoteAction}
    (hstep : StreamStep options s action s') (hover : ¬s.Overridden options action) :
    s'.Final options := by
  by_cases hdead : s.Dead options
  · obtain ⟨hkept, hacts⟩ := hdead.stream h.wired hstep
    exact h.undialed (h.wired.stream hstep) (hacts.trans (List.append_nil _).symm) (by simp)
      (by simp) fun _ => hkept
  have hwired := h.wired.stream hstep
  have hkept : s.Dead options → s'.Dead options := fun h => absurd h hdead
  have hsame : s'.acts = s.acts → s'.Final options := fun hacts =>
    h.undialed hwired (hacts.trans (List.append_nil _).symm) (by simp) (by simp) hkept
  cases hstep with
  | delayed delay =>
      rcases delayed_acts options delay s with hacts | hacts
      · exact hsame hacts
      · exact h.dialed hwired hacts hdead
  | reconnected =>
      rcases reconnected_acts options s with hacts | hacts
      · exact hsame hacts
      · exact h.undialed hwired hacts (by simp) (by simp) hkept
  | opened generation =>
      rcases opened_acts options generation s with hacts | hacts
      · exact hsame hacts
      · exact h.undialed hwired hacts (by simp) (by simp) hkept
  | hungUp generation code =>
      by_cases hcurrent : s.socket = some generation
      · rw [socketEvent.eq_def] at hsame ⊢
        split
        · dsimp only
          split
          · exact h
          · exact h.hangUp hcurrent hover
        · exact h
      · exact hsame (congrArg acts (h.wired.ignored hcurrent (.closed code)))

lemma step (h : s.Final options) {action : RemoteAction}
    (hover : ¬s.Overridden options action) : (s.step options action).Final options := by
  rcases step_cases options s action with hmoves | hstep
  · exact hmoves.holds (fun _ _ hmove h => h.move hmove) h
  · exact h.stream hstep hover

end Final

lemma createRemoteSession_final {first : Except SessionError ReadingSnapshot} {dial : Dial}
    {session : RemoteSession} (h : createRemoteSession options first dial = .ok session) :
    session.Final options := by
  have hwired := createRemoteSession_wired h
  have hacts : ∀ act ∈ session.acts, ∀ code, act ≠ .hungUp code := by
    cases first with
    | error error => cases h
    | ok snapshot =>
        cases dial with
        | created =>
            cases h
            simp [openSocket, attach, RemoteSession.act, loaded]
        | threw retryable =>
            cases retryable with
            | false => cases h
            | true =>
                cases h
                rcases scheduleReconnect_acts options ((loaded snapshot).openSocket (.threw true))
                  with hacts | hacts <;>
                  rw [hacts] <;> simp [openSocket, RemoteSession.act, loaded]
  refine ⟨hwired, fun code hmem => absurd rfl (hacts _ hmem _), ?_⟩
  rintro before act after hsplit - - code hmem
  refine absurd rfl (hacts _ ?_ (some code))
  rw [hsplit]
  exact List.mem_append_left _ hmem

/-- A run in which no terminal close code is overridden. -/
lemma run_final (h : s.Final options) (actions : List RemoteAction)
    (hover : ∀ before action after, actions = before ++ action :: after →
      ¬(s.run options before).Overridden options action) :
    (s.run options actions).Final options := by
  induction actions using List.reverseRecOn with
  | nil => exact h
  | append_singleton actions action ih =>
      rw [run_concat]
      refine (ih fun before other after hsplit => ?_).step (hover actions action [] rfl)
      exact hover before other (after ++ [action]) (by rw [hsplit]; simp)

lemma reconnected_schedules (hstage : s.reconnectStage = .finishing) (hopen : s.closed = false)
    (hnone : s.socket = none) (hlt : s.reconnectAttempts < options.maxAttempts) :
    s.reconnected options = { s with
      reconnectAttempts := s.reconnectAttempts + 1
      reconnectTask := true
      reconnectStage := .delaying
      acts := s.acts ++ [.attempted] } := by
  rw [reconnected, if_pos hstage]
  dsimp only
  rw [if_neg (by simp [hopen, hnone, hlt]), scheduleReconnect,
    if_neg (by simp [hopen, hnone, hlt])]

/-- The handler of the reconnect task schedules an attempt, which dials a socket. -/
lemma reconnected_dials (hstage : s.reconnectStage = .finishing) (hopen : s.closed = false)
    (hnone : s.socket = none) (hlt : s.reconnectAttempts < options.maxAttempts) :
    ((s.reconnected options).delayed options (.elapsed .created)).acts
      = s.acts ++ [.attempted, .dialed s.snapshot.revision] := by
  rw [reconnected_schedules hstage hopen hnone hlt, delayed, if_pos rfl]
  dsimp only
  rw [if_neg (by simp [hopen, hnone])]
  simp [openSocket, attach, RemoteSession.act]

/-- An overridden close code is followed by another socket. -/
lemma Overridden.dialed {action : RemoteAction} (h : s.Overridden options action)
    (hwired : s.Wired options) :
    ∃ code, retryableSocketClose code = false ∧
      (s.run options [action, .reconnected, .delayed (.elapsed .created)]).acts
        = s.acts ++ [.hungUp (some code), .attempted, .dialed s.snapshot.revision] := by
  obtain ⟨generation, code, rfl, hcurrent, hterminal, hstage, hlt⟩ := h
  refine ⟨code, hterminal, ?_⟩
  have hopen : s.closed = false := by
    by_contra hclosed
    rw [hwired.shut (by simpa using hclosed)] at hcurrent
    cases hcurrent
  obtain ⟨socket, hmem, hgeneration, hattached⟩ := hwired.listening generation hcurrent
  have hany : (s.sockets.any fun socket =>
      socket.generation == generation && socket.attached) = true :=
    List.any_eq_true.mpr ⟨socket, hmem, by simp [hgeneration, hattached]⟩
  have hgeneration := (hwired.current generation hcurrent).1
  have hhung : s.step options (.socketEvent generation (.closed (some code)))
      = { s.disposeSocketListeners generation with
          socket := none
          acts := s.acts ++ [.hungUp (some code)] } := by
    rw [RemoteSession.step, socketEvent.eq_def, if_pos hany]
    dsimp only
    rw [if_neg (not_not.mpr hgeneration), hangUp.eq_def]
    dsimp only
    rw [if_neg (by simp [hterminal])]
  refine (@reconnected_dials _ options (hhung ▸ hstage) (hhung ▸ hopen) (hhung ▸ rfl)
    (hhung ▸ hlt)).trans ?_
  rw [hhung]
  simp [disposeSocketListeners]

end RemoteSession

/-- **Only an overridden terminal close code does not end the stream.** In every run of a
remote session in which no terminal close code is overridden, no socket is dialed after a
terminal close code of the current socket; and each close code that is overridden can be
followed by another socket. -/
theorem terminal_close_final (options : RemoteOptions)
    (first : Except SessionError ReadingSnapshot) (dial : Dial) (session : RemoteSession)
    (created : createRemoteSession options first dial = .ok session)
    (actions : List RemoteAction) :
    ((∀ (before : List RemoteAction) (action : RemoteAction) (after : List RemoteAction),
        actions = before ++ action :: after →
        ¬(session.run options before).Overridden options action) →
      ∀ (before after : List Act) (code : ℕ),
        (session.run options actions).acts = before ++ .hungUp (some code) :: after →
        retryableSocketClose code = false → ∀ revision, Act.dialed revision ∉ after) ∧
    ∀ action, (session.run options actions).Overridden options action →
      ∃ (code revision : ℕ), retryableSocketClose code = false ∧
        (session.run options (actions ++ [action, .reconnected,
            .delayed (.elapsed .created)])).acts
          = (session.run options actions).acts
            ++ [.hungUp (some code), .attempted, .dialed revision] := by
  refine ⟨fun hover before after code hacts hterminal revision hmem => ?_,
    fun action hover => ?_⟩
  · obtain ⟨mid, rest, rfl⟩ := List.append_of_mem hmem
    have hfinal := RemoteSession.run_final (RemoteSession.createRemoteSession_final created)
      actions hover
    have hretry := hfinal.log (before ++ .hungUp (some code) :: mid) (.dialed revision) rest
      (by rw [hacts]; simp) revision rfl code (by simp)
    rw [hterminal] at hretry
    cases hretry
  · obtain ⟨code, hterminal, hacts⟩ := hover.dialed (RemoteSession.run_wired
      (RemoteSession.createRemoteSession_wired created) actions)
    refine ⟨code, _, hterminal, Eq.trans ?_ hacts⟩
    rw [RemoteSession.run, List.foldl_append]
    rfl

/-- Options with two attempts. -/
def patientSample : RemoteOptions := ⟨"A", 2, by decide, fun n => toString n⟩

/-- A lost socket is replaced by one that closes for good before the handler of the reconnect
task has run. -/
def overriddenSample : List RemoteAction :=
  [.socketEvent 1 (.closed (some 1006)), .delayed (.elapsed .created),
    .socketEvent 2 (.closed (some 1000)), .reconnected, .delayed (.elapsed .created)]

/-- A terminal close code of the first socket. -/
def hungUpSample : List RemoteAction :=
  [.socketEvent 1 (.closed (some 1000)), .delayed (.elapsed .created)]

/-- The socket of the sample is closed for good, and no other one is created. -/
theorem terminal_close_final_sample :
    Act.dialed 0 ∉ (openedSample.run remoteSample hungUpSample).acts.drop 2 := by
  refine (terminal_close_final remoteSample (.ok (sampleSnapshot 0)) .created openedSample
    openedSample_created hungUpSample).1 (fun before action after hsplit => ?_) [.dialed 0] _ 1000
    (by decide +kernel) rfl 0
  rintro ⟨generation, code, rfl, -, -, hstage, -⟩
  match before with
  | [] => cases hstage
  | [_] => simp [hungUpSample] at hsplit
  | _ :: _ :: _ => simp [hungUpSample] at hsplit

/-- The session of the sample creates another socket after the terminal close code. -/
theorem overridden_sample_dials :
    ¬∀ (options : RemoteOptions) (first : Except SessionError ReadingSnapshot) (dial : Dial)
      (session : RemoteSession), createRemoteSession options first dial = .ok session →
      ∀ (actions : List RemoteAction) (before after : List Act) (code : ℕ),
        (session.run options actions).acts = before ++ .hungUp (some code) :: after →
        retryableSocketClose code = false → ∀ revision, Act.dialed revision ∉ after := by
  intro hclaim
  have hacts : (openedSample.run patientSample overriddenSample).acts
      = [.dialed 0, .hungUp (some 1006), .attempted, .dialed 0]
        ++ .hungUp (some 1000) :: [.attempted, .dialed 0] := by
    decide +kernel
  exact hclaim patientSample (.ok (sampleSnapshot 0)) .created openedSample rfl overriddenSample
    _ _ 1000 hacts rfl 0 (by decide)

end Qaraa.Client
