import Qaraa.Server.LiveSockets

/-!
What the listener of a socket is called with, and what its socket is sent of it.

* `SessionSlot.heard`: the events a listener was called with.
* `publish_thrown`, `addSubscriber_sent`: a call that throws is the last one.
* `segment_heard`: **what a segment calls a subscriber with**.
* `Fed`, `Fed.follow`, `Fed.join`: what was sent on a socket is what its listener was called with,
  up to the first call that failed.
-/

namespace Qaraa.SessionService

open Fallible Ordered KeyedQueue

variable {sessionId : String} {slot : SessionSlot} {answer : Answer}

/-! ### Calls of a listener -/

/-- The events the listener of a subscriber was called with. -/
def SessionSlot.heard (slot : SessionSlot) (index : ℕ) : List SnapshotUpdatedEvent :=
  slot.delivered.filterMap fun d => if d.1 = index then some d.2 else none

lemma received_eq (slot : SessionSlot) (index : ℕ) :
    slot.received index = (slot.heard index).map SnapshotUpdatedEvent.snapshot := by
  rw [SessionSlot.received, SessionSlot.heard, List.map_filterMap]
  refine List.filterMap_congr fun d _ => ?_
  split <;> rfl

/-- The calls of a step come after the earlier ones. -/
lemma heard_eq {before after : SessionSlot} (h : before.delivered <+: after.delivered)
    (index : ℕ) :
    after.heard index = before.heard index ++ calledWith (some index) before after := by
  obtain ⟨new, hnew⟩ := h
  have hcalls : calledWith (some index) before after
      = new.filterMap fun d => if d.1 = index then some d.2 else none := by
    rw [calledWith, ← hnew, List.drop_left]
    refine List.filterMap_congr fun d _ => ?_
    by_cases hindex : d.1 = index <;> simp [hindex]
  rw [hcalls, SessionSlot.heard, SessionSlot.heard, ← hnew, List.filterMap_append]

lemma calledWith_none (before after : SessionSlot) : calledWith none before after = [] :=
  List.filterMap_eq_nil_iff.mpr fun _ _ => if_neg fun heq => by cases heq

/-- Nobody is called where nothing is delivered. -/
lemma calledWith_same {before after : SessionSlot} (h : after.delivered = before.delivered)
    (index : Option ℕ) : calledWith index before after = [] := by
  rw [calledWith, h, List.drop_length]
  rfl

/-! ### Publications -/

/-- A publication calls each subscriber with one event. -/
lemma calledWith_publish (hdistinct : (slot.subscribers.map SessionSubscriber.index).Nodup)
    (answer : Answer) (sessionId : String) (snapshot : ReadingSnapshot)
    {subscriber : SessionSubscriber} (hmem : subscriber ∈ slot.subscribers) :
    calledWith (some subscriber.index) slot (slot.publish answer sessionId snapshot)
      = [SessionSlot.event sessionId subscriber.requestId snapshot] := by
  obtain ⟨stay, registered, count, heq⟩ := publish_eq answer sessionId snapshot slot
  have hinj := (List.nodup_map_iff_inj_on (List.Nodup.of_map _ hdistinct)).mp hdistinct
  rw [heq, calledWith, List.drop_left, List.filterMap_map]
  refine Eq.trans (List.filterMap_congr fun other hother => ?_) (filterMap_index hdistinct hmem _)
  by_cases hindex : other.index = subscriber.index
  · rw [hinj other hother subscriber hmem hindex]
    simp
  · simp [hindex]

/-- It calls nobody else. -/
lemma calledWith_publish_of_ne (answer : Answer) (sessionId : String) (snapshot : ReadingSnapshot)
    {index : ℕ} (hne : ∀ subscriber ∈ slot.subscribers, subscriber.index ≠ index) :
    calledWith (some index) slot (slot.publish answer sessionId snapshot) = [] := by
  obtain ⟨stay, registered, count, heq⟩ := publish_eq answer sessionId snapshot slot
  rw [heq, calledWith, List.drop_left, List.filterMap_map]
  refine List.filterMap_eq_nil_iff.mpr fun subscriber hmem => if_neg fun hsome => ?_
  exact hne subscriber hmem (Option.some.inj hsome)

/-- A call of a publication adds no subscriber. -/
lemma publishTo_subset {snapshot : ReadingSnapshot} {called found : SessionSubscriber}
    (h : found ∈ (publishTo answer sessionId snapshot slot called).subscribers) :
    found ∈ slot.subscribers := by
  obtain ⟨registered, count, heq⟩ := deliver_eq slot sessionId called snapshot
    (answer.leaves called.index snapshot)
  rw [publishTo, heq] at h
  split at h
  · rw [releaseSubscriber_eq] at h
    exact List.mem_of_mem_filter (List.mem_of_mem_filter h)
  · exact List.mem_of_mem_filter h

/-- It releases the subscriber whose listener throws. -/
lemma publishTo_thrown {snapshot : ReadingSnapshot} {called found : SessionSubscriber}
    (hthrows : answer.throws called.index snapshot = true)
    (h : found ∈ (publishTo answer sessionId snapshot slot called).subscribers) :
    found.index ≠ called.index := by
  rw [publishTo, if_pos hthrows, releaseSubscriber_eq] at h
  simpa using (List.mem_filter.mp h).2

/-- **A listener that throws is not called again.** -/
lemma publish_thrown {snapshot : ReadingSnapshot} {index : ℕ}
    (hthrows : answer.throws index snapshot = true) {found : SessionSubscriber}
    (h : found ∈ (slot.publish answer sessionId snapshot).subscribers) : found.index ≠ index := by
  have key : ∀ (called : List SessionSubscriber) (slot : SessionSlot),
      found ∈ (called.foldl (publishTo answer sessionId snapshot) slot).subscribers →
      found ∈ slot.subscribers ∧ ∀ subscriber ∈ called, subscriber.index = index →
        found.index ≠ index := by
    intro called
    induction called with
    | nil => exact fun slot hfound => ⟨hfound, fun _ hmem => by cases hmem⟩
    | cons first called ih =>
        intro slot hfound
        obtain ⟨hfirst, hlater⟩ := ih _ hfound
        refine ⟨publishTo_subset hfirst, fun subscriber hmem hindex => ?_⟩
        rcases List.mem_cons.mp hmem with rfl | hmem
        · subst hindex
          exact publishTo_thrown hthrows hfirst
        · exact hlater subscriber hmem hindex
  obtain ⟨hmem, hall⟩ := key slot.subscribers slot h
  exact fun hindex => hall found hmem hindex hindex

/-! ### Replays -/

/-- A replay goes on as long as no call throws. -/
lemma replay_sent (answer : Answer) (sessionId : String) (subscriber : SessionSubscriber)
    (snapshots : List ReadingSnapshot) (slot : SessionSlot) :
    ∃ sent : List ReadingSnapshot, (slot.replay answer sessionId subscriber snapshots).1.delivered
        = slot.delivered ++ sent.map (fun snapshot =>
          (subscriber.index, SessionSlot.event sessionId subscriber.requestId snapshot)) ∧
      (∀ snapshot ∈ sent.dropLast, answer.throws subscriber.index snapshot = false) ∧
      ((slot.replay answer sessionId subscriber snapshots).2 = true →
        ∀ snapshot ∈ sent, answer.throws subscriber.index snapshot = false) := by
  induction snapshots generalizing slot with
  | nil =>
      refine ⟨[], (List.append_nil _).symm, fun _ hmem => ?_, fun _ _ hmem => ?_⟩
      · cases hmem
      · cases hmem
  | cons snapshot rest ih =>
      rw [SessionSlot.replay]
      split
      · exact ih slot
      · obtain ⟨registered, count, hdeliver⟩ := deliver_eq slot sessionId subscriber snapshot
          ((answer.leaves subscriber.index snapshot).filter (· ≠ subscriber.index))
        dsimp only
        split
        · refine ⟨[snapshot], ?_, fun _ hmem => (by cases hmem), fun h => (by cases h)⟩
          rw [hdeliver]
          rfl
        · rename_i hquiet
          obtain ⟨sent, hsent, hinit, hall⟩ := ih (slot.deliver sessionId subscriber snapshot
            ((answer.leaves subscriber.index snapshot).filter (· ≠ subscriber.index)))
          refine ⟨snapshot :: sent, ?_, fun found hmem => ?_, fun h found hmem => ?_⟩
          · rw [hsent, hdeliver, List.map_cons, List.append_assoc]
            rfl
          · cases sent with
            | nil => cases hmem
            | cons next sent =>
                rw [List.dropLast_cons_cons] at hmem
                rcases List.mem_cons.mp hmem with rfl | hmem
                · exact Bool.eq_false_iff.mpr hquiet
                · exact hinit found hmem
          · rcases List.mem_cons.mp hmem with rfl | hmem
            · exact Bool.eq_false_iff.mpr hquiet
            · exact hall h found hmem

/-- **What `subscribe` calls a new listener with**: retained snapshots up to the first call that
throws, which ends the subscription. -/
lemma addSubscriber_sent (answer : Answer) (sessionId : String) (listener : ℕ)
    (command : SessionResumeCommand) (record : SessionRecord) (slot : SessionSlot) :
    ∃ sent : List ReadingSnapshot,
      (addSubscriber answer sessionId listener command record slot).1.delivered
        = slot.delivered ++ sent.map (fun snapshot =>
          (slot.subscriptions, SessionSlot.event sessionId command.requestId snapshot)) ∧
      (sent <+: record.snapshots.filter fun snapshot =>
        command.lastSnapshotRevision < snapshot.revision) ∧
      (∀ snapshot ∈ sent.dropLast, answer.throws slot.subscriptions snapshot = false) ∧
      ((addSubscriber answer sessionId listener command record slot).2
          = .inr (.ok (.subscribed slot.subscriptions)) →
        ∀ snapshot ∈ sent, answer.throws slot.subscriptions snapshot = false) := by
  obtain ⟨after, outcome, heq, -, -, -, -, -, sent, stay, hdelivered, hpre, -⟩ :=
    addSubscriber_cases answer sessionId listener command record slot
  set subscriber : SessionSubscriber :=
    ⟨slot.subscriptions, command.requestId, listener, command, record⟩ with hsubscriber
  set added : SessionSlot :=
    { slot with
      registered := true
      subscribers := slot.subscribers ++ [subscriber]
      subscriberCount := slot.subscriberCount + 1
      subscriptions := slot.subscriptions + 1 } with hadded
  obtain ⟨sent', hsent', hinit, hall⟩ :=
    replay_sent answer sessionId subscriber record.snapshots added
  have hcalls : (addSubscriber answer sessionId listener command record slot).1.delivered
      = slot.delivered ++ sent'.map (fun snapshot =>
        (slot.subscriptions, SessionSlot.event sessionId command.requestId snapshot)) := by
    rw [addSubscriber]
    dsimp only
    rw [← hsubscriber, ← hadded]
    cases hreplay : added.replay answer sessionId subscriber record.snapshots with
    | mk replayed complete =>
        rw [hreplay] at hsent'
        cases complete with
        | true => exact hsent'
        | false =>
            dsimp only
            rw [rejectWith, releaseSubscriber_eq]
            exact hsent'
  have hsame : sent' = sent := by
    rw [heq] at hcalls
    dsimp only at hcalls
    rw [hdelivered, List.map_map, List.append_cancel_left_eq] at hcalls
    refine (List.map_injective_iff.mpr ?_ hcalls).symm
    intro first second hboth
    exact congrArg (fun d : ℕ × SnapshotUpdatedEvent => d.2.snapshot) hboth
  subst hsame
  refine ⟨sent', hcalls, hpre, hinit, fun houtcome => hall ?_⟩
  rw [addSubscriber] at houtcome
  dsimp only at houtcome
  rw [← hsubscriber, ← hadded] at houtcome
  cases hreplay : added.replay answer sessionId subscriber record.snapshots with
  | mk replayed complete =>
      rw [hreplay] at houtcome
      cases complete with
      | true => rfl
      | false => cases houtcome

/-! ### Segments -/

/-- Only the subscriber that joins has a number that was not given before. -/
lemma joined_of_given (options : ServiceOptions) {frame : Frame} {index : ℕ}
    (hgiven : index < slot.subscriptions) {subscriber : SessionSubscriber}
    (hmem : subscriber ∈ (proceed options sessionId frame answer slot).1.subscribers)
    (hindex : subscriber.index = index) : subscriber ∈ slot.subscribers := by
  rcases proceed_joined options hmem with hold | ⟨hnew, -⟩
  · exact hold
  · omega

/-- **What a segment calls a subscriber with**: nothing, or the stored snapshot, which has the next
revision and is the last one if the listener throws. -/
theorem segment_heard (options : ServiceOptions) {frame : Frame}
    (h : Midway sessionId frame slot) (answer : Answer) {index : ℕ}
    (hgiven : index < slot.subscriptions) :
    slot.delivered <+: (proceed options sessionId frame answer slot).1.delivered ∧
    (calledWith (some index) slot (proceed options sessionId frame answer slot).1 = [] ∨
      ∃ subscriber ∈ slot.subscribers, ∃ published record, subscriber.index = index ∧
        slot.record = some record ∧ Streams slot published ∧
        record.snapshot.revision = published + 1 ∧
        calledWith (some index) slot (proceed options sessionId frame answer slot).1
          = [SessionSlot.event sessionId subscriber.requestId record.snapshot] ∧
        (answer.throws index record.snapshot = true →
          ∀ found ∈ (proceed options sessionId frame answer slot).1.subscribers,
            found.index ≠ index)) := by
  by_cases hleaves : frame.LeavesSubscribers
  · have hsame := (proceed_sameStreams options sessionId hleaves answer slot).delivered
    exact ⟨hsame ▸ List.prefix_refl _, Or.inl (calledWith_same hsame _)⟩
  · cases frame with
    | publish requestId snapshot changed =>
        cases changed with
        | false => exact absurd trivial hleaves
        | true =>
            obtain ⟨runtime, record, published, -, hrecord, -, hstreams, rfl, hrevision⟩ := h
            change slot.delivered <+: (slot.publish answer sessionId _).delivered ∧
              (calledWith (some index) slot (slot.publish answer sessionId _) = [] ∨ _)
            refine ⟨?_, ?_⟩
            · obtain ⟨stay, registered, count, heq⟩ :=
                publish_eq answer sessionId record.snapshot slot
              rw [heq]
              exact List.prefix_append _ _
            · by_cases hsome : ∃ subscriber ∈ slot.subscribers, subscriber.index = index
              · obtain ⟨subscriber, hmem, rfl⟩ := hsome
                exact Or.inr ⟨subscriber, hmem, published, record, rfl, hrecord, hstreams,
                  hrevision,
                  calledWith_publish hstreams.distinct answer sessionId record.snapshot hmem,
                  fun hthrows found hfound => publish_thrown hthrows hfound⟩
              · refine Or.inl (calledWith_publish_of_ne answer sessionId record.snapshot ?_)
                exact fun subscriber hmem hindex => hsome ⟨subscriber, hmem, hindex⟩
    | subscribeRead listener command record =>
        cases record with
        | none => exact absurd trivial hleaves
        | some record =>
            rw [proceed]
            split
            · exact ⟨List.prefix_refl _, Or.inl (calledWith_same rfl _)⟩
            · obtain ⟨sent, hsent, -⟩ :=
                addSubscriber_sent answer sessionId listener command record slot
              refine ⟨hsent ▸ List.prefix_append _ _, Or.inl ?_⟩
              rw [calledWith, hsent, List.drop_left, List.filterMap_map]
              refine List.filterMap_eq_nil_iff.mpr fun snapshot _ => if_neg fun heq => ?_
              have hindex : slot.subscriptions = index := Option.some.inj heq
              omega
    | deleteDone command deleted =>
        cases deleted with
        | false => exact absurd trivial hleaves
        | true => exact ⟨List.prefix_refl _, Or.inl (calledWith_same rfl _)⟩
    | _ => exact absurd trivial hleaves

/-! ### Sockets -/

/-- The event of a message. -/
def StreamMessage.event? : StreamMessage → Option SnapshotUpdatedEvent
  | .event update => some update
  | .error _ => none

/-- The events a socket was sent. -/
def StreamConnection.events (connection : StreamConnection) : List SnapshotUpdatedEvent :=
  connection.sent.filterMap StreamMessage.event?

/-- The revisions a subscriber is streamed that joined at one and knew another. -/
def streamed (last joined published : ℕ) : List ℕ :=
  ((retained joined).filter fun revision => last < revision)
    ++ List.range' (joined + 1) (published - joined)

lemma streamed_succ {last joined published : ℕ} (h : joined ≤ published) :
    streamed last joined (published + 1) = streamed last joined published ++ [published + 1] := by
  have hlater : published + 1 - joined = (published - joined) + 1 := by omega
  have hrevision : joined + 1 + 1 * (published - joined) = published + 1 := by omega
  rw [streamed, streamed, hlater, List.range'_concat, hrevision, List.append_assoc]

/-- The number a socket's subscriber has after a segment. -/
lemma follow_index (connection : StreamConnection) (fails : ReadingSnapshot → Bool) (ticket : ℕ)
    (before after : SessionSlot) : (connection.follow fails ticket before after).index =
      if connection.ticket = some ticket ∧ before.subscriptions < after.subscriptions then
        some before.subscriptions
      else connection.index := by
  rw [StreamConnection.follow, foldl_listen]

/-- The events a socket is sent in a segment. -/
lemma follow_events (connection : StreamConnection) (fails : ReadingSnapshot → Bool) (ticket : ℕ)
    (before after : SessionSlot) : (connection.follow fails ticket before after).events
      = connection.events ++ if connection.disconnected then [] else
        (calledWith (connection.follow fails ticket before after).index before after).filter
          fun event => !fails event.snapshot := by
  rw [follow_index, StreamConnection.follow, foldl_listen]
  dsimp only
  rw [StreamConnection.events, List.filterMap_append]
  refine congrArg _ ?_
  split
  · rfl
  · rw [List.filterMap_map]
    exact List.filterMap_some

/-- All but the last pass the test: those that pass come first. -/
lemma prefix_filter {α : Type} {p : α → Bool} {items : List α}
    (h : ∀ item ∈ items.dropLast, p item = true) : items.filter p <+: items := by
  rcases List.eq_nil_or_concat' items with rfl | ⟨init, last, rfl⟩
  · exact List.prefix_refl _
  · rw [List.dropLast_concat] at h
    rw [List.filter_append, List.filter_eq_self.mpr h]
    refine (List.prefix_append_right_inj _).mpr ?_
    cases hlast : p last <;> simp [hlast]

/-- What a socket was sent of what the listener of its subscriber was called with. `last` is the
revision it negotiated and `joined` the record with which its subscriber was registered; `since`
says which revisions were stored after that. -/
structure Fed (since : SessionRecord → ℕ → Prop) (last : ℕ) (joined : SessionRecord)
    (slot : SessionSlot) (connection : StreamConnection) (index : ℕ) : Prop where
  given : index < slot.subscriptions
  sent : connection.events <+: slot.heard index
  kept : connection.disconnected = false → ∀ subscriber ∈ slot.subscribers,
    subscriber.index = index → connection.events = slot.heard index
  named : ∀ event ∈ slot.heard index, event.requestId = connection.request.id ∧
    event.sessionId = connection.request.sessionId
  command : ∀ subscriber ∈ slot.subscribers, subscriber.index = index →
    subscriber.requestId = connection.request.id ∧
      subscriber.command.lastSnapshotRevision = last ∧ subscriber.joined = joined
  stream : ∃ published, since joined published ∧
    (slot.heard index).map (fun event => event.snapshot.revision)
      <+: streamed last joined.snapshot.revision published

namespace Fed

variable {since : SessionRecord → ℕ → Prop} {last index : ℕ} {joined : SessionRecord}
  {connection : StreamConnection}

/-- More was stored meanwhile. -/
lemma mono (h : Fed since last joined slot connection index)
    {later : SessionRecord → ℕ → Prop}
    (hlater : ∀ joined published, since joined published → later joined published) :
    Fed later last joined slot connection index where
  given := h.given
  sent := h.sent
  kept := h.kept
  named := h.named
  command := h.command
  stream := by
    obtain ⟨published, hsince, hstream⟩ := h.stream
    exact ⟨published, hlater joined published hsince, hstream⟩

/-- Nothing is delivered, and subscribers may leave. -/
lemma quiet (h : Fed since last joined slot connection index) {after : SessionSlot}
    (hdelivered : after.delivered = slot.delivered)
    (hsubscriptions : slot.subscriptions ≤ after.subscriptions)
    (hsubscribers : ∀ subscriber ∈ after.subscribers, subscriber ∈ slot.subscribers) :
    Fed since last joined after connection index := by
  have hheard : after.heard index = slot.heard index := by
    rw [SessionSlot.heard, hdelivered]
    rfl
  obtain ⟨hgiven, hsent, hkept, hnamed, hcommand, hstream⟩ := h
  rw [← hheard] at hsent hkept hnamed hstream
  exact ⟨hgiven.trans_le hsubscriptions, hsent,
    fun hopen subscriber hmem => hkept hopen subscriber (hsubscribers subscriber hmem), hnamed,
    fun subscriber hmem => hcommand subscriber (hsubscribers subscriber hmem), hstream⟩

/-- Only the events of the socket matter, and whether it is open. -/
lemma congr (h : Fed since last joined slot connection index) {after : StreamConnection}
    (hrequest : after.request = connection.request) (hevents : after.events = connection.events)
    (hopen : after.disconnected = false → connection.disconnected = false) :
    Fed since last joined slot after index where
  given := h.given
  sent := hevents ▸ h.sent
  kept := fun hafter => by
    rw [hevents]
    exact h.kept (hopen hafter)
  named := by
    rw [hrequest]
    exact h.named
  command := by
    rw [hrequest]
    exact h.command
  stream := h.stream

/-- **A segment of the session**: what its listener is called with is sent, unless that fails. -/
theorem follow (h : Fed since last joined slot connection index)
    (hstored : ∀ joined published record, since joined published → slot.record = some record →
      since joined record.snapshot.revision)
    (options : ServiceOptions) {frame : Frame}
    (hmidway : Midway connection.request.sessionId frame slot) {answer : Answer}
    {fails : ReadingSnapshot → Bool} {ticket : ℕ}
    (hthrows : ∀ snapshot, connection.disconnected = false → fails snapshot = true →
      answer.throws index snapshot = true)
    (hindex : (connection.follow fails ticket slot
      (proceed options connection.request.sessionId frame answer slot).1).index = some index) :
    Fed since last joined (proceed options connection.request.sessionId frame answer slot).1
      (connection.follow fails ticket slot
        (proceed options connection.request.sessionId frame answer slot).1) index := by
  obtain ⟨hpre, hcalls⟩ := segment_heard options hmidway answer h.given
  have hjoined : ∀ subscriber ∈
      (proceed options connection.request.sessionId frame answer slot).1.subscribers,
      subscriber.index = index → subscriber ∈ slot.subscribers :=
    fun _ hmem hsame => joined_of_given options h.given hmem hsame
  have hnumbers : slot.subscriptions
      ≤ (proceed options connection.request.sessionId frame answer slot).1.subscriptions :=
    proceed_subscriptions_le options frame answer slot
  have hheard := heard_eq hpre index
  have hevents := follow_events connection fails ticket slot
    (proceed options connection.request.sessionId frame answer slot).1
  rw [hindex] at hevents
  have hsame := follow_same connection fails ticket slot
    (proceed options connection.request.sessionId frame answer slot).1
  have hrequest : (connection.follow fails ticket slot (proceed options
      connection.request.sessionId frame answer slot).1).request = connection.request :=
    congrArg Prod.fst hsame.wire
  have hopen := hsame.disconnected
  generalize connection.follow fails ticket slot
    (proceed options connection.request.sessionId frame answer slot).1 = fed
    at hindex hevents hrequest hopen ⊢
  generalize (proceed options connection.request.sessionId frame answer slot).1 = after
    at hpre hcalls hjoined hnumbers hheard hevents ⊢
  -- a segment calls the listener of a subscriber once or not at all
  rcases hcalls with
    hnone | ⟨subscriber, hmem, published, record, rfl, hrecord, hstreams, hnext, hone, hlast⟩
  · rw [hnone, List.append_nil] at hheard
    rw [hnone, List.filter_nil, ite_self, List.append_nil] at hevents
    refine ⟨h.given.trans_le hnumbers, ?_, fun hstill found hfound hfoundIndex => ?_, ?_,
      fun found hfound hfoundIndex => ?_, ?_⟩
    · rw [hevents, hheard]
      exact h.sent
    · rw [hevents, hheard]
      exact h.kept (hopen ▸ hstill) found (hjoined found hfound hfoundIndex) hfoundIndex
    · rw [hheard, hrequest]
      exact h.named
    · rw [hrequest]
      exact h.command found (hjoined found hfound hfoundIndex) hfoundIndex
    · rw [hheard]
      exact h.stream
  · obtain ⟨hrequestId, hcommand, hjoin⟩ := h.command subscriber hmem rfl
    have hstreamed := hstreams.each subscriber hmem
    have hkept := fun hstill => h.kept hstill subscriber hmem rfl
    rw [hone] at hheard hevents
    refine ⟨h.given.trans_le hnumbers, ?_, fun hstill found hfound hfoundIndex => ?_,
      fun event hevent => ?_, fun found hfound hfoundIndex => ?_, ?_⟩
    -- a closed socket is sent nothing more, an open one unless the call fails
    · cases hdisconnected : connection.disconnected with
      | true =>
          rw [hdisconnected, if_pos rfl, List.append_nil] at hevents
          rw [hevents, hheard]
          exact h.sent.trans (List.prefix_append _ _)
      | false =>
          rw [hevents, hheard, hkept hdisconnected, hdisconnected]
          refine (List.prefix_append_right_inj _).mpr (prefix_filter fun _ hinit => ?_)
          cases hinit
    · rw [hopen] at hstill
      -- a subscriber that stays has not thrown
      have hsent : fails record.snapshot = false := by
        by_contra hfails
        have hthrown := hthrows record.snapshot hstill (Bool.eq_true_of_not_eq_false hfails)
        exact hlast hthrown found hfound hfoundIndex
      rw [hevents, hheard, hkept hstill, hstill, if_neg Bool.false_ne_true]
      refine congrArg _ (List.filter_eq_self.mpr fun event hevent => ?_)
      rw [List.mem_singleton.mp hevent]
      change (!fails record.snapshot) = true
      rw [hsent]
      rfl
    · rw [hheard] at hevent
      rw [hrequest]
      rcases List.mem_append.mp hevent with hold | hnew
      · exact h.named event hold
      · rw [List.mem_singleton.mp hnew]
        exact ⟨hrequestId, rfl⟩
    · rw [hrequest]
      exact h.command found (hjoined found hfound hfoundIndex) hfoundIndex
    -- the record published now is stored now, and later than the subscription
    · obtain ⟨earlier, hsince, -⟩ := h.stream
      refine ⟨record.snapshot.revision, hstored joined earlier record hsince hrecord, ?_⟩
      have hreceived := hstreamed.received
      rw [received_eq, List.map_map, hcommand, hjoin] at hreceived
      have hall : (slot.heard subscriber.index).map (fun event => event.snapshot.revision)
          = streamed last joined.snapshot.revision published := hreceived
      have hle : joined.snapshot.revision ≤ published := hjoin ▸ hstreamed.joined
      rw [hheard, List.map_append, hnext, streamed_succ hle, hall, ← hnext]
      exact List.prefix_refl _

/-- **The last segment of the subscription**: retained snapshots are sent, up to the first call that
fails. -/
theorem join {listener : ℕ} {command : SessionResumeCommand}
    {record : SessionRecord} (hsince : since record record.snapshot.revision)
    (hunborn : connection.events = []) (hsettled : Settled slot)
    (hrecord : slot.record = some record) (hid : command.requestId = connection.request.id)
    {answer : Answer} {fails : ReadingSnapshot → Bool} {ticket : ℕ}
    (hticket : connection.ticket = some ticket)
    (hthrows : ∀ snapshot, connection.disconnected = false → fails snapshot = true →
      answer.throws slot.subscriptions snapshot = true) :
    Fed since command.lastSnapshotRevision record
      (addSubscriber answer connection.request.sessionId listener command record slot).1
      (connection.follow fails ticket slot
        (addSubscriber answer connection.request.sessionId listener command record slot).1)
      slot.subscriptions := by
  obtain ⟨runtime, -, hagrees, hstreams⟩ := hsettled.live hrecord
  obtain ⟨sent, hsent, hpre, hinit, hall⟩ := addSubscriber_sent answer
    connection.request.sessionId listener command record slot
  obtain ⟨after, outcome, heq, -, -, -, hsubscriptions, -, replayed, stay, -, -, hcases⟩ :=
    addSubscriber_cases answer connection.request.sessionId listener command record slot
  rw [heq] at hsent hall ⊢
  dsimp only at hsent hall ⊢
  -- a new number has received nothing
  have hfresh : slot.heard slot.subscriptions = [] := by
    have hnone := hstreams.received_nil
    rw [received_eq] at hnone
    exact List.map_eq_nil_iff.mp hnone
  have hcalled : calledWith (some slot.subscriptions) slot after = sent.map
      (SessionSlot.event connection.request.sessionId command.requestId) := by
    rw [calledWith, hsent, List.drop_left, List.filterMap_map]
    refine Eq.trans (List.filterMap_congr fun snapshot _ => if_pos rfl) ?_
    exact congrFun List.filterMap_eq_map sent
  have hgrows : slot.delivered <+: after.delivered := hsent ▸ List.prefix_append _ _
  have hheard := heard_eq hgrows slot.subscriptions
  rw [hfresh, List.nil_append, hcalled] at hheard
  have hindex := follow_index connection fails ticket slot after
  rw [if_pos ⟨hticket, by omega⟩] at hindex
  have hevents := follow_events connection fails ticket slot after
  rw [hindex, hunborn, List.nil_append, hcalled] at hevents
  have hsame := follow_same connection fails ticket slot after
  have hrequest : (connection.follow fails ticket slot after).request = connection.request :=
    congrArg Prod.fst hsame.wire
  have hopen := hsame.disconnected
  -- a subscriber with the new number is the one that joins, and its promise is fulfilled
  have hjoined : ∀ subscriber ∈ after.subscribers, subscriber.index = slot.subscriptions →
      outcome = .ok (.subscribed slot.subscriptions) ∧
        subscriber = ⟨slot.subscriptions, command.requestId, listener, command, record⟩ := by
    intro subscriber hmem hnumber
    have hold : subscriber ∉ slot.subscribers := fun hbefore =>
      absurd hnumber (hstreams.each subscriber hbefore).made.ne
    rcases hcases with ⟨hsubscribers, houtcome, -⟩ | ⟨hsubscribers, -⟩
    · rw [hsubscribers] at hmem
      rcases List.mem_append.mp hmem with hbefore | hnew
      · exact absurd (List.mem_of_mem_filter hbefore) hold
      · exact ⟨houtcome, List.mem_singleton.mp hnew⟩
    · rw [hsubscribers] at hmem
      exact absurd (List.mem_of_mem_filter hmem) hold
  -- a call of the listener only fails where it throws
  have hquiet : connection.disconnected = false → ∀ snapshot,
      answer.throws slot.subscriptions snapshot = false → fails snapshot = false := by
    intro hstill snapshot hthrown
    by_contra hfails
    rw [hthrows snapshot hstill (Bool.eq_true_of_not_eq_false hfails)] at hthrown
    cases hthrown
  generalize connection.follow fails ticket slot after = fed at hevents hrequest hopen ⊢
  refine ⟨by omega, ?_, fun hstill subscriber hmem hnumber => ?_, fun event hevent => ?_,
    fun subscriber hmem hnumber => ?_, record.snapshot.revision, hsince, ?_⟩
  · rw [hevents, hheard]
    cases hdisconnected : connection.disconnected with
    | true => exact List.nil_prefix
    | false =>
        refine prefix_filter fun event hmem => ?_
        rw [← List.map_dropLast] at hmem
        obtain ⟨snapshot, hsnapshot, rfl⟩ := List.mem_map.mp hmem
        change (!fails snapshot) = true
        rw [hquiet hdisconnected snapshot (hinit snapshot hsnapshot)]
        rfl
  · rw [hopen] at hstill
    rw [hevents, hheard, hstill, if_neg Bool.false_ne_true]
    refine List.filter_eq_self.mpr fun event hevent => ?_
    obtain ⟨snapshot, hsnapshot, rfl⟩ := List.mem_map.mp hevent
    change (!fails snapshot) = true
    rw [hquiet hstill snapshot
      (hall (congrArg Sum.inr (hjoined subscriber hmem hnumber).1) snapshot hsnapshot)]
    rfl
  · rw [hheard] at hevent
    obtain ⟨snapshot, -, rfl⟩ := List.mem_map.mp hevent
    rw [hrequest]
    exact ⟨hid, rfl⟩
  · rw [(hjoined subscriber hmem hnumber).2, hrequest]
    exact ⟨hid, rfl, rfl⟩
  · rw [hheard, List.map_map, streamed, Nat.sub_self, List.range'_zero, List.append_nil,
      ← hagrees.window, List.filter_map]
    exact hpre.map ReadingSnapshot.revision

end Fed

end Qaraa.SessionService
