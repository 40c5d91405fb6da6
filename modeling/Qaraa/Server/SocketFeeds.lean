import Qaraa.Server.Listening

/-!
What a socket is sent of what its subscriber receives, in the runs of a server.

* `outcome_back`: **a promise gets its result in the last segment of its operation**.
* `Served`: the subscriber of a socket, and what the socket was sent of what it received.
* `Served.quiet`, `Served.proceeded`: it holds whatever the service does.
-/

namespace Qaraa.SessionService

open Fallible Ordered KeyedQueue

variable {options : ServiceOptions}

/-! ### Promises -/

lemma outcome_entry {s : Service} {ticket : ℕ} {outcome : Outcome} :
    s.outcome (some ticket) = some outcome ↔
      ∃ entry, s.entries[ticket]? = some entry ∧ entry.phase.result = some outcome := by
  rw [Service.outcome, Option.bind_some]
  exact Option.bind_eq_some_iff

/-- Only an operation that goes on resumes a promise. -/
lemma queueActions_resume {s : Service} {action : ServiceAction} {ticket : ℕ} {answer : Answer}
    (h : Action.resume ticket answer ∈ s.queueActions options action) :
    ∃ given, action = .proceed ticket given ∧ answer = s.answering options given := by
  rw [Service.queueActions.eq_def] at h
  split at h
  · cases h
  · cases action with
    | proceed ticket' given =>
        cases List.mem_singleton.mp h
        exact ⟨given, rfl, rfl⟩
    | submit caller command =>
        dsimp only at h
        split at h
        · cases List.mem_singleton.mp h
        · cases h
    | create sessionId command => simp at h
    | _ => cases List.mem_singleton.mp h

/-- **A promise gets its result in the last segment of its operation.** -/
theorem outcome_back {s : Service} {action : ServiceAction} {ticket : ℕ} {outcome : Outcome}
    (h : (s.step options action).outcome (some ticket) = some outcome) :
    s.outcome (some ticket) = some outcome ∨ ∃ answer sessionId call previous frame,
      action = .proceed ticket answer ∧
      s.entries[ticket]? = some ⟨sessionId, call, previous, .running frame⟩ ∧
      (proceed options sessionId frame (s.answering options answer) (s.slot sessionId)).2
        = .inr outcome := by
  by_cases hproceed : ∃ ticket' answer, action = .proceed ticket' answer
  · obtain ⟨ticket', answer, rfl⟩ := hproceed
    obtain ⟨entry, hentry, hresult⟩ := outcome_entry.mp h
    have hentry : (State.step (program options) s
        (.resume ticket' (s.answering options answer))).entries[ticket]? = some entry := hentry
    rcases State.result_step (program options) hentry hresult with
      ⟨old, hold, hbefore⟩ | ⟨given, call, previous, frame, haction, hrunning, hended⟩
    · exact Or.inl (outcome_entry.mpr ⟨old, hold, hbefore⟩)
    · cases haction
      exact Or.inr ⟨answer, entry.key, call, previous, frame, rfl, hrunning, hended⟩
  · refine Or.inl ?_
    rw [Service.step] at h
    have hquiet : ∀ queueAction ∈ s.queueActions options action, ∀ ticket answer,
        queueAction ≠ .resume ticket answer := by
      rintro _ hmem ticket answer rfl
      obtain ⟨given, haction, -⟩ := queueActions_resume hmem
      exact hproceed ⟨ticket, given, haction⟩
    generalize s.queueActions options action = queueActions at h hquiet
    induction queueActions using List.reverseRecOn with
    | nil => exact h
    | append_singleton queueActions queueAction ih =>
        rw [State.run_concat] at h
        obtain ⟨entry, hentry, hresult⟩ := outcome_entry.mp h
        rcases State.result_step (program options) hentry hresult with
          ⟨old, hold, hbefore⟩ | ⟨given, call, previous, frame, haction, -, -⟩
        · exact ih (outcome_entry.mpr ⟨old, hold, hbefore⟩)
            fun action hmem => hquiet action (List.mem_append_left _ hmem)
        · exact absurd haction (hquiet queueAction (by simp) ticket given)

/-- What happens to the slot of a session when no operation goes on. -/
lemma slot_quiet (options : ServiceOptions) {s : Service} {action : ServiceAction}
    (hquiet : ∀ ticket answer, action ≠ .proceed ticket answer) (sessionId : String) :
    ((s.step options action).slot sessionId).delivered = (s.slot sessionId).delivered ∧
    ((s.step options action).slot sessionId).subscriptions = (s.slot sessionId).subscriptions ∧
    ∀ subscriber ∈ ((s.step options action).slot sessionId).subscribers,
      subscriber ∈ (s.slot sessionId).subscribers := by
  have hslot := slot_step options s sessionId action
  split at hslot
  · rename_i frame answer hevent
    obtain ⟨ticket, given, -, -, haction, -⟩ := sessionEvent_segment hevent
    exact absurd haction (hquiet ticket given)
  · rw [hslot, releaseSubscriber_eq]
    exact ⟨rfl, rfl, fun subscriber hmem => List.mem_of_mem_filter hmem⟩
  · rw [hslot.subscribers]
    exact ⟨hslot.delivered, hslot.subscriptions, fun _ hmem => hmem⟩

/-! ### Subscribers of sockets -/

/-- A socket that gets its subscriber joins at the stored record. -/
def JoinsStored (since : StreamRequest → SessionRecord → ℕ → Prop) (service : Service)
    (connection after : StreamConnection) : Prop :=
  connection.index = none →
    after.index = some (service.slot connection.request.sessionId).subscriptions →
    ∀ record, (service.slot connection.request.sessionId).record = some record →
      since connection.request record record.snapshot.revision

/-- What a socket was sent of what its subscriber received; `since` says which revisions were stored
of the session of a request after a subscriber of the socket was registered. -/
structure Served (since : StreamRequest → SessionRecord → ℕ → Prop) (s : Service)
    (connection : StreamConnection) : Prop where
  unborn : connection.index = none → connection.events = []
  fed : ∀ index, connection.index = some index → ∃ last joined,
    negotiate connection.request = some last ∧
      Fed (since connection.request) last joined (s.slot connection.request.sessionId) connection
        index
  ended : ∀ index, connection.index = some index → ∃ outcome,
    s.outcome connection.ticket = some outcome ∧
      ∀ subscriber ∈ (s.slot connection.request.sessionId).subscribers,
        subscriber.index = index → outcome = .ok (.subscribed index)
  answered : ∀ index, s.outcome connection.ticket = some (.ok (.subscribed index)) →
    connection.index = some index

namespace Served

variable {since : StreamRequest → SessionRecord → ℕ → Prop} {s : Service}
  {connection : StreamConnection}

/-- More was stored meanwhile. -/
lemma mono (h : Served since s connection) {later : StreamRequest → SessionRecord → ℕ → Prop}
    (hlater : ∀ joined published, since connection.request joined published →
      later connection.request joined published) : Served later s connection where
  unborn := h.unborn
  fed := fun index hsome => by
    obtain ⟨last, joined, hnegotiate, hfed⟩ := h.fed index hsome
    exact ⟨last, joined, hnegotiate, hfed.mono hlater⟩
  ended := h.ended
  answered := h.answered

/-- Only what it was sent matters, and whether it is open. -/
lemma congr (h : Served since s connection) {after : StreamConnection}
    (hwire : after.wire = connection.wire) (hindex : after.index = connection.index)
    (hevents : after.events = connection.events)
    (hopen : after.disconnected = false → connection.disconnected = false) :
    Served since s after := by
  obtain ⟨hrequest, hticket⟩ := Prod.mk.inj hwire
  obtain ⟨hunborn, hfed, hended, hanswered⟩ := h
  refine ⟨?_, fun index hsome => ?_, ?_, ?_⟩
  · rw [hindex, hevents]
    exact hunborn
  · rw [hindex] at hsome
    obtain ⟨last, joined, hnegotiate, hindexFed⟩ := hfed index hsome
    rw [hrequest]
    exact ⟨last, joined, hnegotiate, hindexFed.congr hrequest hevents hopen⟩
  · rw [hindex, hticket, hrequest]
    exact hended
  · rw [hindex, hticket]
    exact hanswered

/-- A socket without a subscriber, whose promise has not settled. -/
lemma fresh (hindex : connection.index = none) (hevents : connection.events = [])
    (hpending : s.outcome connection.ticket = none) : Served since s connection := by
  refine ⟨fun _ => hevents, fun index hsome => ?_, fun index hsome => ?_, fun index hsome => ?_⟩
  · rw [hindex] at hsome
    cases hsome
  · rw [hindex] at hsome
    cases hsome
  · rw [hpending] at hsome
    cases hsome

/-- Nothing is delivered to its session, subscribers may leave, and its promise is as it was. -/
lemma still (h : Served since s connection) {after : Service}
    (hdelivered : (after.slot connection.request.sessionId).delivered
      = (s.slot connection.request.sessionId).delivered)
    (hsubscriptions : (after.slot connection.request.sessionId).subscriptions
      = (s.slot connection.request.sessionId).subscriptions)
    (hsubscribers : ∀ subscriber ∈ (after.slot connection.request.sessionId).subscribers,
      subscriber ∈ (s.slot connection.request.sessionId).subscribers)
    (houtcome : after.outcome connection.ticket = s.outcome connection.ticket) :
    Served since after connection := by
  refine ⟨h.unborn, fun index hsome => ?_, fun index hsome => ?_, fun index hsome => ?_⟩
  · obtain ⟨last, joined, hnegotiate, hfed⟩ := h.fed index hsome
    exact ⟨last, joined, hnegotiate, hfed.quiet hdelivered hsubscriptions.ge hsubscribers⟩
  · obtain ⟨outcome, hended, hlive⟩ := h.ended index hsome
    exact ⟨outcome, houtcome.trans hended,
      fun subscriber hmem => hlive subscriber (hsubscribers subscriber hmem)⟩
  · exact h.answered index (houtcome ▸ hsome)

end Served

/-- A promise whose operation does not go on keeps its result, or has none. -/
lemma outcome_same {s : Service} {action : ServiceAction} {ticket : Option ℕ}
    (h : ∀ ticket' answer entry frame, ticket = some ticket' → action = .proceed ticket' answer →
      s.entries[ticket']? = some entry → entry.phase ≠ .running frame) :
    (s.step options action).outcome ticket = s.outcome ticket := by
  cases hbefore : s.outcome ticket with
  | some outcome => exact outcome_step hbefore options action
  | none =>
      cases ticket with
      | none => rfl
      | some ticket =>
          refine Option.eq_none_iff_forall_ne_some.mpr fun outcome hafter => ?_
          rcases outcome_back hafter with hold | ⟨answer, _, _, _, frame, haction, hentry, -⟩
          · rw [hbefore] at hold
            cases hold
          · exact h ticket answer _ frame rfl haction hentry rfl

/-- No operation goes on. -/
lemma Served.quiet {since : StreamRequest → SessionRecord → ℕ → Prop} {s : Service}
    {connection : StreamConnection} (h : Served since s connection) {action : ServiceAction}
    (hquiet : ∀ ticket answer, action ≠ .proceed ticket answer) :
    Served since (s.step options action) connection := by
  obtain ⟨hdelivered, hsubscriptions, hsubscribers⟩ :=
    slot_quiet options hquiet connection.request.sessionId
  exact h.still hdelivered hsubscriptions hsubscribers
    (outcome_same fun _ _ _ _ _ haction => absurd haction (hquiet _ _))

/-- A segment that delivers nothing to its session does nothing to a socket. -/
lemma follow_still (connection : StreamConnection) (fails : ReadingSnapshot → Bool) (ticket : ℕ)
    {before after : SessionSlot} (h : SameStreams before after) :
    connection.follow fails ticket before after = connection := by
  have hcalls : ∀ index, calledWith index before after = [] :=
    fun index => calledWith_same h.delivered index
  rw [StreamConnection.follow, if_neg fun hjoins => absurd h.subscriptions hjoins.2.ne']
  rw [hcalls]
  rfl

/-- What the promise of a socket is for. -/
lemma call_of_socket {s : QaraaServer} (hwired : Wired s) {number : ℕ}
    {connection : StreamConnection} (hget : s.connections[number]? = some connection) {ticket : ℕ}
    (hticket : connection.ticket = some ticket) {entry : Entry String Frame Outcome}
    (hentry : s.service.entries[ticket]? = some entry) :
    entry.key = connection.request.sessionId ∧ ∃ last, negotiate connection.request = some last ∧
      entry.call
        = .subscribe number ⟨connection.request.id, connection.request.sessionId, last⟩ := by
  have hwire : (s.connections.map StreamConnection.wire)[number]?
      = some (connection.request, some ticket) := by
    rw [List.getElem?_map, hget, Option.map_some, StreamConnection.wire, hticket]
  obtain ⟨last, hnegotiate, hcall⟩ := hwired.sockets number connection.request ticket hwire
  rw [s.service.calls_getElem, hentry, Option.map_some] at hcall
  obtain ⟨hkey, hsame⟩ := Prod.mk.inj (Option.some.inj hcall)
  exact ⟨hkey, last, hnegotiate, hsame⟩

section

variable {since : StreamRequest → SessionRecord → ℕ → Prop} {s : QaraaServer} {number : ℕ}
  {connection : StreamConnection} {ticket : ℕ}

/-- A call of a socket's listener that fails makes the listener throw. -/
lemma throws_of_fails (hget : s.connections[number]? = some connection) {index : ℕ}
    (hholds : connection.holds ticket index = true) {fails : ℕ → ReadingSnapshot → Bool}
    {snapshot : ReadingSnapshot} (hopen : connection.disconnected = false)
    (hfails : fails number snapshot = true) :
    s.throws connection.request.sessionId ticket fails index snapshot = true := by
  rw [QaraaServer.throws, List.any_eq_true]
  refine ⟨number, List.mem_range.mpr (List.getElem?_eq_some_iff.mp hget).1, ?_⟩
  rw [hget]
  dsimp only
  rw [hholds, hopen, hfails]
  simp

/-- What an operation of the service is given, as the adapter answers. -/
def QaraaServer.given (s : QaraaServer) (sessionId : String) (ticket : ℕ) (answer : ServerAnswer) :
    Answer :=
  { corpus := answer.corpus, store := answer.store
    throws := s.throws sessionId ticket answer.fails }

/-- **A socket whose subscription ends in this segment**: it has a subscriber from now on. -/
lemma Served.joins (h : Served since s.service connection) (hwired : Wired s)
    (hsound : Sound s.service)
    (hpurposeful : Purposeful s.service connection.request.sessionId)
    (hget : s.connections[number]? = some connection) {call frame : Frame} {previous : Option ℕ}
    (hentry : s.service.entries[ticket]?
      = some ⟨connection.request.sessionId, call, previous, .running frame⟩)
    (answer : ServerAnswer) {after : Service}
    (heq : after = s.service.step options
      (.proceed ticket (s.given connection.request.sessionId ticket answer)))
    (hticket : connection.ticket = some ticket)
    (hmore : (s.service.slot connection.request.sessionId).subscriptions
      < (after.slot connection.request.sessionId).subscriptions)
    (hsince : JoinsStored since s.service connection (connection.follow (answer.fails number) ticket
      (s.service.slot connection.request.sessionId)
      (after.slot connection.request.sessionId))) :
    Served since after (connection.follow (answer.fails number) ticket
      (s.service.slot connection.request.sessionId)
      (after.slot connection.request.sessionId)) := by
  obtain ⟨hslot, hafter⟩ := Service.step_proceed options hentry
    (s.given connection.request.sessionId ticket answer)
  rw [← heq] at hslot hafter
  have hqueue : (ticket, _) ∈ s.service.queue connection.request.sessionId :=
    State.mem_queue.mpr ⟨hentry, rfl⟩
  -- a socket with a subscriber has a settled promise, but this operation still runs
  have hnone : connection.index = none := by
    cases hindex : connection.index with
    | none => rfl
    | some index =>
        obtain ⟨outcome, houtcome, -⟩ := h.ended index hindex
        rw [hticket] at houtcome
        obtain ⟨entry, hfound, hresult⟩ := outcome_entry.mp houtcome
        rw [hentry] at hfound
        cases hfound
        cases hresult
  obtain ⟨-, last, hnegotiate, hcall⟩ := call_of_socket hwired hget hticket hentry
  have hpurpose := hpurposeful.answers.frames (ticket, _) hqueue frame rfl
  dsimp only at hcall
  subst hcall
  have hnow := hmore
  rw [hslot] at hmore
  -- only the last segment of a subscription makes a subscriber
  rcases proceed_subscriptions options frame (s.service.answering options
      (s.given connection.request.sessionId ticket answer))
      (s.service.slot connection.request.sessionId) with hsame | ⟨listener, command, record, rfl⟩
  · exact absurd hsame hmore.ne'
  · cases hpurpose
    obtain ⟨hsettled, hrecord⟩ := (hsound connection.request.sessionId).2.busy (ticket, _) hqueue
      _ rfl
    have hgiven := @proceed_given connection.request.sessionId
      (s.service.slot connection.request.sessionId) options (.subscribeRead number
        ⟨connection.request.id, connection.request.sessionId, last⟩ record)
      (s.service.answering options (s.given connection.request.sessionId ticket answer))
    have hjoined := @proceed_subscribed connection.request.sessionId
      (s.service.slot connection.request.sessionId) options (.subscribeRead number
        ⟨connection.request.id, connection.request.sessionId, last⟩ record)
      (s.service.answering options (s.given connection.request.sessionId ticket answer))
    cases record with
    | none => exact absurd hmore (lt_irrefl _)
    | some record =>
        by_cases hfull : (s.service.answering options
            (s.given connection.request.sessionId ticket answer)).full = true
        · rw [proceed, if_pos hfull] at hmore
          exact absurd hmore (lt_irrefl _)
        · rw [proceed, if_neg hfull] at hslot hafter hgiven hjoined
          have hholds : connection.holds ticket
              (s.service.slot connection.request.sessionId).subscriptions = true := by
            rw [StreamConnection.holds, hticket, hnone]
            simp
          have hindex := follow_index connection (answer.fails number) ticket
            (s.service.slot connection.request.sessionId)
            (after.slot connection.request.sessionId)
          rw [if_pos ⟨hticket, hnow⟩] at hindex
          have hstored : since connection.request record record.snapshot.revision :=
            hsince hnone hindex record hrecord.symm
          -- the replay of that segment is what the socket is sent first
          have hfed : Fed (since connection.request) last record
              (after.slot connection.request.sessionId)
              (connection.follow (answer.fails number) ticket
                (s.service.slot connection.request.sessionId)
                (after.slot connection.request.sessionId))
              (s.service.slot connection.request.sessionId).subscriptions := by
            rw [hslot]
            have hid : SessionResumeCommand.requestId ⟨connection.request.id,
                connection.request.sessionId, last⟩ = connection.request.id := rfl
            refine Fed.join hstored (h.unborn hnone) hsettled hrecord.symm hid hticket ?_
            exact fun snapshot hopen hfails => throws_of_fails hget hholds hopen hfails
          obtain ⟨left, outcome, hadd, -⟩ := addSubscriber_cases
            (s.service.answering options (s.given connection.request.sessionId ticket answer))
            connection.request.sessionId number
            ⟨connection.request.id, connection.request.sessionId, last⟩ record
            (s.service.slot connection.request.sessionId)
          rw [hadd] at hafter hgiven hjoined hslot
          have hended : after.outcome connection.ticket = some outcome := by
            rw [hticket]
            exact outcome_entry.mpr ⟨_, hafter, rfl⟩
          have hwire := (follow_same connection (answer.fails number) ticket
            (s.service.slot connection.request.sessionId)
            (after.slot connection.request.sessionId)).wire
          generalize connection.follow (answer.fails number) ticket
            (s.service.slot connection.request.sessionId)
            (after.slot connection.request.sessionId) = fed at hfed hindex hwire ⊢
          obtain ⟨hrequest, hsameTicket⟩ := Prod.mk.inj hwire
          refine ⟨fun hunborn => ?_, fun index hsome => ?_, fun index hsome => ?_,
            fun index hsome => ?_⟩
          · rw [hindex] at hunborn
            cases hunborn
          · rw [hindex] at hsome
            cases hsome
            rw [hrequest]
            exact ⟨last, record, hnegotiate, hfed⟩
          · rw [hindex] at hsome
            cases hsome
            rw [hsameTicket, hrequest]
            refine ⟨outcome, hended, fun subscriber hmem hnumber => ?_⟩
            rw [hslot] at hmem
            rcases hjoined hmem with hold | ⟨-, -, houtcome⟩
            -- numbers are not given twice: it is none of the earlier subscribers
            · obtain ⟨runtime, -, -, hstreams⟩ := hsettled.live hrecord.symm
              exact absurd hnumber (hstreams.each subscriber hold).made.ne
            · rw [hnumber] at houtcome
              exact Sum.inr.inj houtcome
          · rw [hsameTicket, hended] at hsome
            cases hsome
            rw [hindex, (hgiven rfl).1]

/-- **The operation of the session that runs goes on**: what a socket was sent of what its
subscriber received. -/
theorem Served.proceeded (h : Served since s.service connection) (hwired : Wired s)
    (hsound : Sound s.service)
    (hpurposeful : Purposeful s.service connection.request.sessionId)
    (hget : s.connections[number]? = some connection) {call frame : Frame} {previous : Option ℕ}
    (hentry : s.service.entries[ticket]?
      = some ⟨connection.request.sessionId, call, previous, .running frame⟩)
    (answer : ServerAnswer) {after : Service}
    (heq : after = s.service.step options
      (.proceed ticket (s.given connection.request.sessionId ticket answer)))
    (hsince : JoinsStored since s.service connection (connection.follow (answer.fails number) ticket
      (s.service.slot connection.request.sessionId)
      (after.slot connection.request.sessionId)))
    (hstored : ∀ joined published record, since connection.request joined published →
      (s.service.slot connection.request.sessionId).record = some record →
        since connection.request joined record.snapshot.revision) :
    Served since after (connection.follow (answer.fails number) ticket
      (s.service.slot connection.request.sessionId)
      (after.slot connection.request.sessionId)) := by
  by_cases hjoins : connection.ticket = some ticket ∧
      (s.service.slot connection.request.sessionId).subscriptions
        < (after.slot connection.request.sessionId).subscriptions
  · exact h.joins hwired hsound hpurposeful hget hentry answer heq hjoins.1 hjoins.2 hsince
  · obtain ⟨hslot, hafter⟩ := Service.step_proceed options hentry
      (s.given connection.request.sessionId ticket answer)
    rw [← heq] at hslot hafter
    have hindex := follow_index connection (answer.fails number) ticket
      (s.service.slot connection.request.sessionId) (after.slot connection.request.sessionId)
    rw [if_neg hjoins] at hindex
    have hevents := follow_events connection (answer.fails number) ticket
      (s.service.slot connection.request.sessionId) (after.slot connection.request.sessionId)
    rw [hindex] at hevents
    have hwire := (follow_same connection (answer.fails number) ticket
      (s.service.slot connection.request.sessionId)
      (after.slot connection.request.sessionId)).wire
    -- a socket that had a subscriber before follows the segment
    have hfed : ∀ index, connection.index = some index → ∃ last joined,
        negotiate connection.request = some last ∧
        Fed (since connection.request) last joined (after.slot connection.request.sessionId)
          (connection.follow (answer.fails number) ticket
            (s.service.slot connection.request.sessionId)
            (after.slot connection.request.sessionId)) index := by
      intro index hsome
      obtain ⟨last, joined, hnegotiate, hfed⟩ := h.fed index hsome
      refine ⟨last, joined, hnegotiate, ?_⟩
      have hmidway := (hsound connection.request.sessionId).2.busy (ticket, _)
        (State.mem_queue.mpr ⟨hentry, rfl⟩) frame rfl
      have hholds : connection.holds ticket index = true := by
        rw [StreamConnection.holds, hsome]
        simp
      rw [hsome, hslot] at hindex
      rw [hslot]
      exact hfed.follow hstored options hmidway
        (fun snapshot hopen hfails => throws_of_fails hget hholds hopen hfails) hindex
    generalize connection.follow (answer.fails number) ticket
      (s.service.slot connection.request.sessionId)
      (after.slot connection.request.sessionId) = fed at hfed hindex hevents hwire ⊢
    obtain ⟨hrequest, hsameTicket⟩ := Prod.mk.inj hwire
    refine ⟨fun hunborn => ?_, fun index hsome => ?_, fun index hsome => ?_, fun index hsome => ?_⟩
    · rw [hindex] at hunborn
      rw [hevents, hunborn, calledWith_none, List.filter_nil, ite_self, List.append_nil]
      exact h.unborn hunborn
    · rw [hindex] at hsome
      rw [hrequest]
      exact hfed index hsome
    · rw [hindex] at hsome
      obtain ⟨outcome, houtcome, hlive⟩ := h.ended index hsome
      obtain ⟨last, joined, -, hold⟩ := h.fed index hsome
      rw [hsameTicket, hrequest, heq]
      refine ⟨outcome, outcome_step houtcome options _, fun subscriber hmem hnumber => ?_⟩
      rw [← heq, hslot] at hmem
      exact hlive subscriber (joined_of_given options hold.given hmem hnumber) hnumber
    · rw [hsameTicket] at hsome
      rw [hindex]
      cases hticket : connection.ticket with
      | none =>
          rw [hticket] at hsome
          cases hsome
      | some ticket' =>
          rw [hticket, heq] at hsome
          rcases outcome_back hsome with
            hold | ⟨given, sessionId, _, _, frame', haction, hfound, hended⟩
          · exact h.answered index (hticket ▸ hold)
          · cases haction
            rw [hentry] at hfound
            cases hfound
            -- a subscription that ends in this segment makes a subscriber, the case excluded here
            have hmore := (proceed_given options hended).2
            refine absurd ⟨hticket, ?_⟩ hjoins
            rw [hslot, hmore]
            exact Nat.lt_succ_self _

end

end Qaraa.SessionService
