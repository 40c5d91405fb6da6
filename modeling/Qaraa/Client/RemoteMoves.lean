import Qaraa.Client.RemoteSession
import Mathlib.Logic.Relation

/-!
What a step of a remote session can do, said once.

* `Exchange`: what passes between a session and its callers and listeners, each move with
  the condition it is made under.
* `Move`: these and the moves of the two queues.
* `perform_exchanges`, `notify_exchanges`, `resume_moves`: calls, publications and segments
  of mutations are sequences of moves.
* `StreamStep.onlyStream`: a step of the stream leaves the rest of the session alone.
* `run_holds`: **what every move and every step of the stream keeps holds in every run**.
-/

namespace Qaraa.Client

open Ordered KeyedQueue Relation

/-- A request has been sent for the mutation. -/
def Mutation.Sent : Mutation → Prop
  | .submitting _ _ _ | .retrying _ _ _ | .resetting _ _ => True
  | _ => False

namespace RemoteSession

/-- A mutation is under way. -/
def Runs (s : RemoteSession) (ticket : ℕ) (frame : Mutation) : Prop :=
  ∃ key call previous, s.mutations.entries[ticket]? = some ⟨key, call, previous, .running frame⟩

/-- What passes between a session and its callers and listeners. -/
inductive Exchange (s : RemoteSession) : RemoteSession → Prop
  | listeners (listeners : OrderedSet ℕ) : Exchange s { s with listeners := listeners }
  | heard (listener : ℕ) (isOpen : s.closed = false) : Exchange s (s.hear listener)
  | refused (isClosed : s.closed = true) : Exchange s (s.act .refused)
  | held (observationId : String) (isOpen : s.closed = false) (noReset : s.pendingResetCount = 0)
      (known : s.acknowledged.has observationId = true) :
      Exchange s (s.act (.held observationId))
  | shared (observationId : String) (existing : InFlightSubmission) (isOpen : s.closed = false)
      (found : s.submissions.get observationId = some existing)
      (current : existing.resetSequence = s.scheduledResetSequence) :
      Exchange s (s.act (.shared observationId existing.ticket))
  | submitted (o : Submission) (isOpen : s.closed = false) : Exchange s (s.enqueueSubmission o)
  | reset (location : Option QuranLocation) (isOpen : s.closed = false) :
      Exchange s (s.enqueueReset location)
  | closed (isOpen : s.closed = false) : Exchange s s.close
  | adopted (next : ReadingSnapshot) (isOpen : s.closed = false)
      (newer : s.snapshot.revision < next.revision) : Exchange s { s with snapshot := next }

/-- What a session does apart from its stream. -/
inductive Move (s : RemoteSession) : RemoteSession → Prop
  | exchanged {s' : RemoteSession} (exchange : Exchange s s') : Move s s'
  | enqueued (next : ReadingSnapshot) (isOpen : s.closed = false) :
      Move s { s with queuedNotifications := s.queuedNotifications ++ [next] }
  | dequeued (next : ReadingSnapshot) (rest : List ReadingSnapshot)
      (first : s.queuedNotifications = next :: rest) : Move s { s with queuedNotifications := rest }
  | started (ticket : ℕ) : Move s (s.start ticket)
  | identified : Move s s.identify
  | sent (ticket : ℕ) (frame next : Mutation) (command : RemoteCommand) (isOpen : s.closed = false)
      (runs : s.Runs ticket frame) (same : next.kind = frame.kind) (awaits : next.Sent)
      (fresh : frame.Sent ∨ ∀ observationId, frame.kind = .submission observationId →
        s.acknowledged.has observationId = false) :
      Move s ((s.send ticket frame.kind command).goOn ticket frame.kind (.inl next))
  | waited (ticket : ℕ) (frame next : Mutation) (runs : s.Runs ticket frame)
      (same : next.kind = frame.kind) (sent : frame.Sent) (awaits : next.Sent) :
      Move s (s.goOn ticket frame.kind (.inl next))
  | acknowledged (ticket : ℕ) (frame : Mutation) (observationId : String)
      (runs : s.Runs ticket frame) (kind : frame.kind = .submission observationId)
      (sent : frame.Sent) : Move s (s.acknowledge ticket observationId)
  | forgot (ticket : ℕ) (frame : Mutation) (runs : s.Runs ticket frame)
      (kind : frame.kind = .reset) (sent : frame.Sent) : Move s (s.forget ticket)
  | resolved (ticket : ℕ) (frame : Mutation) (runs : s.Runs ticket frame)
      (basis : frame.Sent ∨ s.closed = false ∧ ∃ observationId,
        frame.kind = .submission observationId ∧ s.acknowledged.has observationId = true) :
      Move s (s.goOn ticket frame.kind (.inr (.ok s.snapshot)))
  | failed (ticket : ℕ) (frame : Mutation) (error : SessionError) (runs : s.Runs ticket frame)
      (basis : frame.Sent ∨ error = .closed ∧ s.closed = true) :
      Move s (s.goOn ticket frame.kind (.inr (.error error)))
  | settled (ticket : ℕ) : Move s (s.settle ticket)

/-- Any number of exchanges. -/
abbrev Exchanges : RemoteSession → RemoteSession → Prop := ReflTransGen Exchange

/-- Any number of moves. -/
abbrev Moves : RemoteSession → RemoteSession → Prop := ReflTransGen Move

variable {s s' : RemoteSession}

lemma Exchange.exchanges (h : Exchange s s') : Exchanges s s' := .single h

lemma Move.moves (h : Move s s') : Moves s s' := .single h

lemma Exchanges.moves (h : Exchanges s s') : Moves s s' := by
  induction h with
  | refl => exact .refl
  | tail _ hlast ih => exact ih.tail (.exchanged hlast)

/-! ### Calls -/

lemma submit_exchanges (s : RemoteSession) (o : Submission) : Exchanges s (s.submit o) := by
  rw [submit]
  split
  · rename_i hclosed
    exact (Exchange.refused hclosed).exchanges
  · rename_i hopen
    rw [Bool.not_eq_true] at hopen
    split
    · rename_i hknown
      exact (Exchange.held _ hopen hknown.1 hknown.2).exchanges
    · split
      · rename_i existing hfound
        split
        · rename_i hcurrent
          exact (Exchange.shared _ existing hopen hfound hcurrent).exchanges
        · exact (Exchange.submitted o hopen).exchanges
      · exact (Exchange.submitted o hopen).exchanges

lemma reset_exchanges (s : RemoteSession) (location : Option QuranLocation) :
    Exchanges s (s.reset location) := by
  rw [reset]
  split
  · rename_i hclosed
    exact (Exchange.refused hclosed).exchanges
  · rename_i hopen
    exact (Exchange.reset location (by simpa using hopen)).exchanges

lemma close_exchanges (s : RemoteSession) : Exchanges s s.close := by
  cases hclosed : s.closed with
  | true =>
      rw [close, if_pos hclosed]
  | false => exact (Exchange.closed hclosed).exchanges

mutual

lemma perform_exchanges : ∀ (call : SessionCall) (s : RemoteSession), Exchanges s (perform call s)
  | .submit o, s => by
      rw [perform]
      exact submit_exchanges s o
  | .reset location, s => by
      rw [perform]
      exact reset_exchanges s location
  | .subscribe listener calls throws, s => by
      rw [perform]
      split
      · rename_i hclosed
        exact (Exchange.refused hclosed).exchanges
      · rename_i hopen
        have hcalled : Exchanges s (performAll calls ((s.join listener).hear listener)) :=
          ((Exchange.listeners _).exchanges.tail (.heard listener (by simpa using hopen))).trans
            (performAll_exchanges calls _)
        dsimp only
        split
        · exact hcalled.tail (.listeners _)
        · exact hcalled
  | .unsubscribe listener, s => by
      rw [perform]
      exact (Exchange.listeners _).exchanges
  | .close, s => by
      rw [perform]
      exact close_exchanges s

lemma performAll_exchanges : ∀ (calls : List SessionCall) (s : RemoteSession),
    Exchanges s (performAll calls s)
  | [], s => by
      rw [performAll]
  | call :: rest, s => by
      rw [performAll]
      exact (perform_exchanges call s).trans (performAll_exchanges rest _)

end

/-! ### Publications -/

lemma callNext_exchanges (behave : Behaviours) (s : RemoteSession) (listener : ℕ) :
    Exchanges s (callNext behave s listener) := by
  rw [callNext]
  split
  · exact .refl
  · rename_i hcall
    rw [Bool.or_eq_true, not_or, Bool.not_eq_true] at hcall
    have hcalled : Exchanges s (performAll (behave listener s.snapshot).calls (s.hear listener)) :=
      (Exchange.heard listener hcall.1).exchanges.trans (performAll_exchanges _ _)
    dsimp only
    split
    · exact hcalled.tail (.listeners _)
    · exact hcalled

lemma callAll_exchanges (behave : Behaviours) (listeners : List ℕ) (s : RemoteSession) :
    Exchanges s (listeners.foldl (callNext behave) s) := by
  induction listeners generalizing s with
  | nil => exact .refl
  | cons listener listeners ih => exact (callNext_exchanges behave s listener).trans (ih _)

lemma notify_exchanges (behave : Behaviours) (next : ReadingSnapshot) (s : RemoteSession) :
    Exchanges s (s.notify behave next) := by
  rw [notify]
  split
  · exact .refl
  · rename_i hgo
    rw [not_or, not_le, Bool.not_eq_true] at hgo
    exact (Exchange.adopted next hgo.1 hgo.2).exchanges.trans (callAll_exchanges behave _ _)

lemma enqueue_moves (next : ReadingSnapshot) (s : RemoteSession) : Moves s (s.enqueue next) := by
  rw [enqueue]
  split
  · exact .refl
  · rename_i hgo
    rw [not_or, Bool.not_eq_true] at hgo
    exact (Move.enqueued next hgo.1).moves

lemma deliverNext_moves (behave : Behaviours) (s : RemoteSession) :
    Moves s (s.deliverNext behave) := by
  rw [deliverNext]
  split
  · exact .refl
  · rename_i next rest hfirst
    exact (Move.dequeued next rest hfirst).moves.trans (notify_exchanges behave next _).moves

/-! ### Mutations -/

/-- The promises there are stay as they are when a mutation is called. -/
lemma enqueueMutation_entries (s : RemoteSession) (mutation : Mutation) {ticket : ℕ}
    {entry : Entry Unit Mutation Outcome} (h : s.mutations.entries[ticket]? = some entry) :
    (s.enqueueMutation mutation).mutations.entries[ticket]? = some entry := by
  show (s.mutations.entries ++ [_])[ticket]? = _
  rw [List.getElem?_append_left (List.getElem?_eq_some_iff.mp h).1, h]

/-- No exchange moves a promise on. -/
lemma Exchange.entries (h : Exchange s s') {ticket : ℕ} {entry : Entry Unit Mutation Outcome}
    (hentry : s.mutations.entries[ticket]? = some entry) :
    s'.mutations.entries[ticket]? = some entry := by
  cases h with
  | submitted o _ => exact s.enqueueMutation_entries _ hentry
  | reset location _ => exact s.enqueueMutation_entries _ hentry
  | closed hopen =>
      rw [close, if_neg (by simp [hopen])]
      rw [disposeSocket]
      split <;> exact hentry
  | _ => exact hentry

lemma Exchanges.runs (h : Exchanges s s') {ticket : ℕ} {frame : Mutation}
    (hruns : s.Runs ticket frame) : s'.Runs ticket frame := by
  obtain ⟨key, call, previous, hentry⟩ := hruns
  refine ⟨key, call, previous, ?_⟩
  induction h with
  | refl => exact hentry
  | tail _ hlast ih => exact hlast.entries ih

lemma resume_moves (options : RemoteOptions) (ticket : ℕ) (answer : Answer) (s : RemoteSession) :
    Moves s (s.resume options ticket answer) := by
  rw [resume]
  split
  · rename_i key call previous frame hentry
    have hruns : s.Runs ticket frame := ⟨key, call, previous, hentry⟩
    have hreject : ∀ error, frame.Sent ∨ error = .closed ∧ s.closed = true →
        Moves s ((s.rejectWith error).1.goOn ticket frame.kind (s.rejectWith error).2) :=
      fun error hbasis => (Move.failed ticket frame error hruns hbasis).moves
    cases frame with
    | submit o =>
        rw [proceed]
        split
        · rename_i hclosed
          exact hreject _ (Or.inr ⟨rfl, hclosed⟩)
        · rename_i hopen
          rw [Bool.not_eq_true] at hopen
          split
          · rename_i hknown
            exact (Move.resolved ticket _ hruns (Or.inr ⟨hopen, _, rfl, hknown⟩)).moves
          · rename_i hnew
            refine Move.identified.moves.tail (.sent ticket (.submit o) _ _ hopen hruns rfl trivial
              (Or.inr fun observationId hkind => ?_))
            cases hkind
            exact (Bool.not_eq_true _).mp hnew
    | submitting o requestId attempt =>
        rw [proceed]
        split
        -- the snapshot is acknowledged, the listeners run, and only then does the call resolve
        · rename_i next _
          have hnotify := notify_exchanges answer.behave next
            (s.acknowledge ticket o.observationId)
          exact ((Move.acknowledged ticket _ o.observationId hruns rfl trivial).moves.trans
            hnotify.moves).tail (.resolved ticket (.submitting o requestId attempt)
              (hnotify.runs hruns) (Or.inl trivial))
        · split
          · exact hreject _ (Or.inl trivial)
          · exact (Move.waited ticket _ (.retrying o requestId attempt) hruns rfl trivial
              trivial).moves
        · exact hreject _ (Or.inl trivial)
    | retrying o requestId attempt =>
        rw [proceed]
        split
        · exact hreject _ (Or.inl trivial)
        · split
          · exact hreject _ (Or.inl trivial)
          · rename_i hopen
            exact (Move.sent ticket (.retrying o requestId attempt)
              (.submitting o requestId (attempt + 1)) _ (by simpa using hopen) hruns rfl trivial
              (Or.inl trivial)).moves
    | reset location =>
        rw [proceed]
        split
        · rename_i hclosed
          exact hreject _ (Or.inr ⟨rfl, hclosed⟩)
        · rename_i hopen
          rw [Bool.not_eq_true] at hopen
          exact Move.identified.moves.tail (.sent ticket (.reset location) _ _ hopen hruns rfl
            trivial (Or.inr fun _ hkind => (by cases hkind)))
    | resetting location requestId =>
        rw [proceed]
        split
        · rename_i next _
          have hnotify := notify_exchanges answer.behave next (s.forget ticket)
          exact ((Move.forgot ticket _ hruns rfl trivial).moves.trans hnotify.moves).tail
            (.resolved ticket (.resetting location requestId) (hnotify.runs hruns)
              (Or.inl trivial))
        · exact hreject _ (Or.inl trivial)
  · exact .refl

/-! ### Runs -/

/-- A step of the stream. -/
inductive StreamStep (options : RemoteOptions) (s : RemoteSession) :
    RemoteAction → RemoteSession → Prop
  | delayed (delay : Delay) : StreamStep options s (.delayed delay) (s.delayed options delay)
  | reconnected : StreamStep options s .reconnected (s.reconnected options)
  | opened (generation : ℕ) : StreamStep options s (.socketEvent generation .opened)
      (s.socketEvent options generation .opened)
  | hungUp (generation : ℕ) (code : Option ℕ) :
      StreamStep options s (.socketEvent generation (.closed code))
        (s.socketEvent options generation (.closed code))

/-- An act of the stream: a socket is dialed with the snapshot held, and only while the session
is open. -/
def OfStream (s : RemoteSession) : Act → Prop
  | .attempted | .connected | .hungUp _ => True
  | .dialed lastSnapshotRevision => s.closed = false ∧ lastSnapshotRevision = s.snapshot.revision
  | _ => False

/-- A change of the stream leaves the rest of the session alone. -/
structure OnlyStream (s s' : RemoteSession) : Prop where
  closed : s'.closed = s.closed
  snapshot : s'.snapshot = s.snapshot
  queued : s'.queuedNotifications = s.queuedNotifications
  mutations : s'.mutations = s.mutations
  scheduled : s'.scheduledResetSequence = s.scheduledResetSequence
  pending : s'.pendingResetCount = s.pendingResetCount
  acknowledged : s'.acknowledged = s.acknowledged
  submissions : s'.submissions = s.submissions
  requests : s'.requests = s.requests
  acts : ∃ new, s'.acts = s.acts ++ new ∧ ∀ act ∈ new, OfStream s act

lemma OnlyStream.refl (s : RemoteSession) : OnlyStream s s :=
  ⟨rfl, rfl, rfl, rfl, rfl, rfl, rfl, rfl, rfl, [], (List.append_nil _).symm,
    fun _ h => (by cases h)⟩

lemma OnlyStream.trans {s'' : RemoteSession} (h : OnlyStream s s') (h' : OnlyStream s' s'') :
    OnlyStream s s'' := by
  obtain ⟨new, hnew, hstream⟩ := h.acts
  obtain ⟨new', hnew', hstream'⟩ := h'.acts
  refine ⟨h'.closed.trans h.closed, h'.snapshot.trans h.snapshot, h'.queued.trans h.queued,
    h'.mutations.trans h.mutations, h'.scheduled.trans h.scheduled, h'.pending.trans h.pending,
    h'.acknowledged.trans h.acknowledged, h'.submissions.trans h.submissions,
    h'.requests.trans h.requests, new ++ new', by rw [hnew', hnew, List.append_assoc], ?_⟩
  intro act hact
  rcases List.mem_append.mp hact with hact | hact
  · exact hstream act hact
  · have := hstream' act hact
    cases act with
    | dialed lastSnapshotRevision => exact ⟨h.closed ▸ this.1, h.snapshot ▸ this.2⟩
    | _ => exact this

lemma scheduleReconnect_onlyStream (options : RemoteOptions) (s : RemoteSession) :
    OnlyStream s (s.scheduleReconnect options) := by
  rw [scheduleReconnect]
  split
  · exact .refl s
  · exact ⟨rfl, rfl, rfl, rfl, rfl, rfl, rfl, rfl, rfl, [.attempted], rfl, by simp [OfStream]⟩

lemma openSocket_onlyStream (dial : Dial) (hopen : s.closed = false) :
    OnlyStream s (s.openSocket dial) := by
  have hacts : ∀ act ∈ [Act.dialed s.snapshot.revision], OfStream s act := by
    intro act hact
    rw [List.mem_singleton.mp hact]
    exact ⟨hopen, rfl⟩
  cases dial with
  | created => exact ⟨rfl, rfl, rfl, rfl, rfl, rfl, rfl, rfl, rfl, _, rfl, hacts⟩
  | threw retryable => exact ⟨rfl, rfl, rfl, rfl, rfl, rfl, rfl, rfl, rfl, _, rfl, hacts⟩

lemma delayed_onlyStream (options : RemoteOptions) (delay : Delay) (s : RemoteSession) :
    OnlyStream s (s.delayed options delay) := by
  have hcalm : ∀ s' : RemoteSession, OnlyStream s s' → OnlyStream s (s'.exhaust options) :=
    fun s' h => h.trans ⟨rfl, rfl, rfl, rfl, rfl, rfl, rfl, rfl, rfl, [],
      (List.append_nil _).symm, fun _ h => (by cases h)⟩
  have hstage : OnlyStream s { s with reconnectStage := .finishing } :=
    ⟨rfl, rfl, rfl, rfl, rfl, rfl, rfl, rfl, rfl, [], (List.append_nil _).symm,
      fun _ h => (by cases h)⟩
  rw [delayed]
  split
  · cases delay with
    | rejected => exact hcalm _ hstage
    | elapsed dial =>
        dsimp only
        split
        · exact hstage
        · rename_i hgo
          rw [not_or, Bool.not_eq_true] at hgo
          have hopened := hstage.trans (openSocket_onlyStream dial hgo.1)
          split
          · exact hcalm _ hopened
          · exact hopened
  · exact .refl s

lemma reconnected_onlyStream (options : RemoteOptions) (s : RemoteSession) :
    OnlyStream s (s.reconnected options) := by
  have hstage : OnlyStream s { s with reconnectStage := .idle, reconnectTask := false } :=
    ⟨rfl, rfl, rfl, rfl, rfl, rfl, rfl, rfl, rfl, [], (List.append_nil _).symm,
      fun _ h => (by cases h)⟩
  rw [reconnected]
  split
  · dsimp only
    split
    · exact hstage
    · exact hstage.trans (scheduleReconnect_onlyStream options _)
  · exact .refl s

lemma hangUp_onlyStream (options : RemoteOptions) (generation : ℕ) (code : Option ℕ)
    (s : RemoteSession) : OnlyStream s (s.hangUp options generation code) := by
  have hdropped : OnlyStream s { s.disposeSocketListeners generation with
      socket := none
      acts := s.acts ++ [.hungUp code] } :=
    ⟨rfl, rfl, rfl, rfl, rfl, rfl, rfl, rfl, rfl, [.hungUp code], rfl, by simp [OfStream]⟩
  rw [hangUp.eq_def]
  dsimp only
  split
  · split
    · exact hdropped.trans (scheduleReconnect_onlyStream options _)
    · exact hdropped
  · exact hdropped

/-- A step of the stream leaves the rest of the session alone. -/
lemma StreamStep.onlyStream {options : RemoteOptions} {action : RemoteAction}
    (h : StreamStep options s action s') : OnlyStream s s' := by
  cases h with
  | delayed delay => exact delayed_onlyStream options delay s
  | reconnected => exact reconnected_onlyStream options s
  | opened generation =>
      rw [socketEvent.eq_def]
      split
      · dsimp only
        split
        · exact .refl s
        · exact ⟨rfl, rfl, rfl, rfl, rfl, rfl, rfl, rfl, rfl, [.connected], rfl,
            by simp [OfStream]⟩
      · exact .refl s
  | hungUp generation code =>
      rw [socketEvent.eq_def]
      split
      · dsimp only
        split
        · exact .refl s
        · exact hangUp_onlyStream options generation code s
      · exact .refl s

lemma step_cases (options : RemoteOptions) (s : RemoteSession) (action : RemoteAction) :
    Moves s (s.step options action) ∨ StreamStep options s action (s.step options action) := by
  cases action with
  | call call => exact Or.inl (perform_exchanges call s).moves
  | start ticket => exact Or.inl (Move.started ticket).moves
  | resume ticket answer => exact Or.inl (resume_moves options ticket answer s)
  | settle ticket => exact Or.inl (Move.settled ticket).moves
  | deliver behave => exact Or.inl (deliverNext_moves behave s)
  | delayed delay => exact Or.inr (.delayed delay)
  | reconnected => exact Or.inr .reconnected
  | socketEvent generation event =>
      cases event with
      | opened => exact Or.inr (.opened generation)
      | closed code => exact Or.inr (.hungUp generation code)
      | message snapshot =>
          left
          rw [step, socketEvent.eq_def]
          split
          · cases snapshot with
            | none => exact .refl
            | some snapshot =>
                dsimp only
                split
                · exact .refl
                · exact enqueue_moves snapshot s
          · exact .refl

/-- A session is created from the snapshot it has loaded, by steps of its stream. -/
lemma createRemoteSession_onlyStream {options : RemoteOptions}
    {first : Except SessionError ReadingSnapshot} {dial : Dial} {session : RemoteSession}
    (h : createRemoteSession options first dial = .ok session) :
    ∃ snapshot, first = .ok snapshot ∧ OnlyStream (loaded snapshot) session := by
  cases first with
  | error error => cases h
  | ok snapshot =>
      have hopened := openSocket_onlyStream (s := loaded snapshot) dial rfl
      refine ⟨snapshot, rfl, ?_⟩
      cases dial with
      | created =>
          cases h
          exact hopened
      | threw retryable =>
          cases retryable with
          | false => cases h
          | true =>
              cases h
              exact hopened.trans (scheduleReconnect_onlyStream options _)

lemma Moves.holds {P : RemoteSession → Prop} (hmove : ∀ s s', Move s s' → P s → P s')
    (h : Moves s s') (hs : P s) : P s' := by
  induction h with
  | refl => exact hs
  | tail _ hlast ih => exact hmove _ _ hlast ih

/-- **What every move and every step of the stream keeps holds in every run.** -/
theorem run_holds {P : RemoteSession → Prop} (options : RemoteOptions)
    (hmove : ∀ s s', Move s s' → P s → P s')
    (hstream : ∀ s action s', StreamStep options s action s' → P s → P s')
    (hs : P s) (actions : List RemoteAction) : P (s.run options actions) := by
  induction actions using List.reverseRecOn with
  | nil => exact hs
  | append_singleton actions action ih =>
      rw [run_concat]
      rcases step_cases options (s.run options actions) action with hmoves | hstep
      · exact hmoves.holds hmove ih
      · exact hstream _ action _ hstep ih

end RemoteSession

end Qaraa.Client
