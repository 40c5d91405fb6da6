import Qaraa.Server.StoreFailures

/-!
What the subscribers of a service receive over whole runs.

* `Midway.streams`: whatever runs, the subscribers have received all revisions but one
  that is about to be published.
* `proceed_subscribers`, `subscribed_at`: a subscriber enters at one step, with the record
  of that moment.
* `streaming_gap_free`: **a subscriber receives the retained revisions after the one it
  acknowledged, then every later one once, in order**.
-/

namespace Qaraa.SessionService

open Fallible Ordered KeyedQueue

/-- The revisions a session has published, one below the stored one while a publication is
due. -/
def PublishedUpTo (slot : SessionSlot) (frame : Option Frame) (published : ℕ) : Prop :=
  Streams slot published ∧ ∀ record, slot.record = some record →
    record.snapshot.revision = published ∨ record.snapshot.revision = published + 1 ∧
      ∃ requestId, frame = some (.publish requestId record.snapshot true)

lemma Settled.streams {slot : SessionSlot} (h : Settled slot) (frame : Option Frame) :
    ∃ published, PublishedUpTo slot frame published := by
  cases hrecord : slot.record with
  | none =>
      obtain ⟨published, hstreams, -⟩ := h
      exact ⟨published, hstreams, fun _ hsome => (by rw [hrecord] at hsome; cases hsome)⟩
  | some record =>
      obtain ⟨-, -, -, hstreams⟩ := h.live hrecord
      refine ⟨_, hstreams, fun _ hsome => Or.inl ?_⟩
      rw [hrecord] at hsome
      cases hsome
      rfl

/-- Whatever runs, at most the next revision is still to be published. -/
lemma Midway.streams {sessionId : String} {slot : SessionSlot} {frame : Frame}
    (h : Midway sessionId frame slot) : ∃ published, PublishedUpTo slot (some frame) published := by
  cases frame with
  | createStore command runtime => exact h.1.streams _
  | getRead command record => exact h.1.streams _
  | resumeRead command record => exact h.1.streams _
  | subscribeRead listener command record => exact h.1.streams _
  | createDone command runtime =>
      obtain ⟨hfresh, hrecord, hsubscribers, published, hstreams⟩ := h
      refine ⟨0, ⟨fun s hs => ?_, ?_, hstreams.made⟩, fun record hrec => Or.inl ?_⟩
      · rw [hsubscribers] at hs
        cases hs
      · rw [hsubscribers]
        exact List.nodup_nil
      · rw [hrecord] at hrec
        cases hrec
        exact hfresh.revision
  | publish requestId snapshot changed =>
      obtain ⟨runtime, record, published, -, hrecord, -, hstreams, rfl, hrevision⟩ := h
      refine ⟨published, hstreams, fun record' hrec => ?_⟩
      rw [hrecord] at hrec
      cases hrec
      cases changed with
      | false => exact Or.inl hrevision
      | true => exact Or.inr ⟨hrevision, requestId, rfl⟩
  | deleteDone command deleted =>
      obtain ⟨hrecord, ⟨published, hstreams⟩, -⟩ := h
      exact ⟨published, hstreams, fun _ hsome => (by rw [hrecord] at hsome; cases hsome)⟩
  | create command => exact Settled.streams h _
  | get command => exact Settled.streams h _
  | reset caller command => exact Settled.streams h _
  | submit caller requestId o => exact Settled.streams h _
  | resume command => exact Settled.streams h _
  | subscribe listener command => exact Settled.streams h _
  | delete command => exact Settled.streams h _

/-! ### The moment of subscription -/

/-- A segment adds at most one subscriber, who has read the stored record. -/
lemma proceed_subscribers (options : ServiceOptions) {sessionId : String} {slot : SessionSlot}
    {frame : Frame} (answer : Answer) (h : Midway sessionId frame slot)
    {subscriber : SessionSubscriber}
    (hmem : subscriber ∈ (proceed options sessionId frame answer slot).1.subscribers) :
    subscriber ∈ slot.subscribers ∨ slot.record = some subscriber.joined := by
  cases frame with
  | create command =>
      rw [proceed] at hmem
      split at hmem <;> exact Or.inl hmem
  | createStore command runtime =>
      rw [proceed] at hmem
      split at hmem
      · split at hmem <;> exact Or.inl hmem
      · exact Or.inl hmem
  | createDone command runtime => exact Or.inl hmem
  | get command =>
      rw [proceed, read_fst] at hmem
      exact Or.inl hmem
  | getRead command record =>
      cases record with
      | none => exact Or.inl hmem
      | some record => exact Or.inl hmem
  | reset caller command =>
      rw [proceed] at hmem
      split at hmem
      · exact Or.inl hmem
      · split at hmem
        · exact Or.inl hmem
        · rw [settleUpdate_fst, (update_same _ _ fun record =>
            resetRecord_same caller command _ slot record).subscribers] at hmem
          exact Or.inl hmem
  | submit caller requestId o =>
      rw [proceed, settleUpdate_fst, (update_same _ _ fun record =>
        submitRecord_same caller sessionId o slot record).subscribers] at hmem
      exact Or.inl hmem
  | publish requestId snapshot changed =>
      cases changed with
      | false => exact Or.inl hmem
      | true =>
          -- a publication only releases subscribers
          obtain ⟨stay, registered, count, heq⟩ := publish_eq answer sessionId snapshot slot
          change subscriber ∈ (slot.publish answer sessionId snapshot).subscribers at hmem
          rw [heq] at hmem
          exact Or.inl (List.mem_of_mem_filter hmem)
  | resume command =>
      rw [proceed, read_fst] at hmem
      exact Or.inl hmem
  | resumeRead command record =>
      cases record with
      | none => exact Or.inl hmem
      | some record => exact Or.inl hmem
  | subscribe listener command =>
      rw [proceed, read_fst] at hmem
      exact Or.inl hmem
  | subscribeRead listener command record =>
      cases record with
      | none => exact Or.inl hmem
      | some record =>
          rw [proceed] at hmem
          split at hmem
          · exact Or.inl hmem
          -- the one who joins does so at the record that was read, which is still stored
          · obtain ⟨after, outcome, heq, -, -, -, -, -, sent, stay, -, -, hcases⟩ :=
              addSubscriber_cases answer sessionId listener command record slot
            rw [heq] at hmem
            rcases hcases with ⟨hsubscribers, -, -⟩ | ⟨hsubscribers, -⟩
            · rw [show (after, (Sum.inr outcome : Frame ⊕ Outcome)).1 = after from rfl,
                hsubscribers] at hmem
              rcases List.mem_append.mp hmem with hold | hnew
              · exact Or.inl (List.mem_of_mem_filter hold)
              · rw [List.mem_singleton.mp hnew]
                exact Or.inr h.2.symm
            · rw [show (after, (Sum.inr outcome : Frame ⊕ Outcome)).1 = after from rfl,
                hsubscribers] at hmem
              exact Or.inl (List.mem_of_mem_filter hmem)
  | delete command =>
      rw [proceed] at hmem
      split at hmem <;> exact Or.inl hmem
  | deleteDone command deleted =>
      cases deleted with
      | false => exact Or.inl hmem
      | true => cases hmem

/-- One queue action adds at most one subscriber, when an operation goes on. -/
lemma queue_subscribers (options : ServiceOptions) {s : Service} (h : Sound s)
    (action : Action String Frame Answer Change) (sessionId : String)
    {subscriber : SessionSubscriber}
    (hmem : subscriber ∈ ((State.step (program options) s action).slot sessionId).subscribers) :
    subscriber ∈ (s.slot sessionId).subscribers ∨
      (s.slot sessionId).record = some subscriber.joined ∧ ∃ ticket answer,
        action = .resume ticket answer := by
  rcases step_move (program options) s action sessionId with ⟨heq, -⟩ | hmove
  · have hslot : (State.step (program options) s action).slot sessionId = s.slot sessionId :=
      congrArg Local.slot heq
    rw [hslot] at hmem
    exact Or.inl hmem
  · change subscriber ∈ ((State.step (program options) s action).at sessionId).slot.subscribers
      at hmem
    generalize (State.step (program options) s action).at sessionId = after at hmove hmem
    generalize hevent : s.eventAt action sessionId = event at hmove
    cases hmove with
    | called ticket frame _ => exact Or.inl hmem
    | started y _ _ _ => exact Or.inl hmem
    | drained y _ _ _ => exact Or.inl hmem
    | cleaned y _ _ _ => exact Or.inl hmem
    | touched change =>
        cases change with
        | reserve => exact Or.inl hmem
        | unsubscribe index =>
            change subscriber ∈ ((s.slot sessionId).releaseSubscriber index).subscribers at hmem
            rw [releaseSubscriber_eq] at hmem
            exact Or.inl (List.mem_of_mem_filter hmem)
    | resumed y hy frame hphase answer =>
        rcases proceed_subscribers options answer ((h sessionId).2.busy y hy frame hphase) hmem
          with hold | hnew
        · exact Or.inl hold
        · refine Or.inr ⟨hnew, ?_⟩
          cases action with
          | resume ticket answer' => exact ⟨ticket, answer', rfl⟩
          | call key frame' => simp [State.eventAt, State.event] at hevent
          | touch key change => simp [State.eventAt, State.event] at hevent
          | start ticket => cases hevent
          | drain ticket => cases hevent
          | clean ticket => cases hevent

/-- A step of a service adds at most one subscriber, who has read the stored record. -/
lemma step_subscribers (options : ServiceOptions) {s : Service} (h : Sound s)
    (action : ServiceAction) (sessionId : String) {subscriber : SessionSubscriber}
    (hmem : subscriber ∈ ((Service.step options s action).slot sessionId).subscribers) :
    subscriber ∈ (s.slot sessionId).subscribers ∨
      (s.slot sessionId).record = some subscriber.joined := by
  have hone : ∀ queueAction, subscriber ∈
      ((State.step (program options) s queueAction).slot sessionId).subscribers →
      subscriber ∈ (s.slot sessionId).subscribers ∨
        (s.slot sessionId).record = some subscriber.joined :=
    fun queueAction hmem => (queue_subscribers options h queueAction sessionId hmem).imp_right
      And.left
  have hstep := step_cases options s action
  generalize Service.step options s action = after at hstep hmem
  cases hstep with
  | refused => exact Or.inl hmem
  | called sessionId frame _ => exact hone _ hmem
  | left sessionId index => exact hone _ hmem
  | quiet queueAction _ _ => exact hone _ hmem
  | proceeded ticket answer _ => exact hone _ hmem
  | created sessionId' command _ =>
      rcases queue_subscribers options (h.touch options sessionId' .reserve) _ sessionId hmem
        with hmem | ⟨-, ticket, answer, heq⟩
      · exact hone _ hmem
      · cases heq

/-- The moment a subscriber has entered: the next step made it a subscriber, and it has
read the record stored then. -/
lemma subscribed_at (options : ServiceOptions) {actions : List ServiceAction}
    (hclean : ∀ action ∈ actions, ∀ s, CleanFailure s action) (sessionId : String)
    {subscriber : SessionSubscriber}
    (hmem : subscriber ∈ ((Service.run options State.empty actions).slot sessionId).subscribers) :
    ∃ earlier action later, actions = earlier ++ action :: later ∧
      ((Service.run options State.empty earlier).slot sessionId).record
        = some subscriber.joined ∧
      subscriber ∉ ((Service.run options State.empty earlier).slot sessionId).subscribers ∧
      subscriber ∈ ((Service.run options State.empty (earlier ++ [action])).slot
        sessionId).subscribers := by
  induction actions using List.reverseRecOn with
  | nil => cases hmem
  | append_singleton earlier action ih =>
      have hrun : Service.run options State.empty (earlier ++ [action])
          = Service.step options (Service.run options State.empty earlier) action := by
        rw [Service.run, List.foldl_append]
        rfl
      have hsound : Sound (Service.run options State.empty earlier) := run_sound options
        sound_empty (Along.of_forall options (fun a ha => hclean a (by simp [ha])) State.empty)
      by_cases hold : subscriber
          ∈ ((Service.run options State.empty earlier).slot sessionId).subscribers
      · obtain ⟨before, action', after, rfl, hjoined⟩ :=
          ih (fun a ha => hclean a (by simp [ha])) hold
        exact ⟨before, action', after ++ [action], by simp, hjoined⟩
      · refine ⟨earlier, action, [], rfl, ?_, hold, hmem⟩
        rw [hrun] at hmem
        exact (step_subscribers options hsound action sessionId hmem).resolve_left hold

/-- **A stream has no gaps and no repetitions.** In every run of a service over a store
that commits what it is given, at any point each subscriber of a session, who subscribed
with a revision when the record was `joined`, has received the retained revisions after
that one, at most 256, and then every later revision once, in order, up to the stored
one, which may be about to be published. -/
theorem streaming_gap_free (options : ServiceOptions) (actions : List ServiceAction)
    (hdefault : ∀ action ∈ actions, action.onStore [.committed] = true) (sessionId : String)
    (subscriber : SessionSubscriber) :
    let s := Service.run options State.empty actions
    subscriber ∈ (s.slot sessionId).subscribers →
    (∃ earlier action later, actions = earlier ++ action :: later ∧
      ((Service.run options State.empty earlier).slot sessionId).record
        = some subscriber.joined ∧
      subscriber ∉ ((Service.run options State.empty earlier).slot sessionId).subscribers ∧
      subscriber ∈ ((Service.run options State.empty (earlier ++ [action])).slot
        sessionId).subscribers) ∧
    ∃ published, subscriber.joined.snapshot.revision ≤ published ∧
      ((s.slot sessionId).received subscriber.index).map ReadingSnapshot.revision
        = ((retained subscriber.joined.snapshot.revision).filter fun revision =>
            subscriber.command.lastSnapshotRevision < revision)
          ++ List.range' (subscriber.joined.snapshot.revision + 1)
            (published - subscriber.joined.snapshot.revision) ∧
      ∀ record, (s.slot sessionId).record = some record →
        record.snapshot.revision = published ∨ record.snapshot.revision = published + 1 ∧
          ∃ y ∈ s.queue sessionId, ∃ requestId,
            y.2.phase = .running (.publish requestId record.snapshot true) := by
  have hclean : ∀ action ∈ actions, ∀ s, CleanFailure s action := by
    intro action haction s
    have hcommits := hdefault action haction
    cases action with
    | proceed ticket answer =>
        intro hfailed
        rw [ServiceAction.onStore, hfailed] at hcommits
        cases hcommits
    | _ => trivial
  intro s hmem
  have hsound : Sound s := run_sound options sound_empty
    (Along.of_forall options hclean State.empty)
  refine ⟨subscribed_at options hclean sessionId hmem, ?_⟩
  by_cases hidle : ∀ y ∈ s.queue sessionId, ∀ frame, y.2.phase ≠ .running frame
  · obtain ⟨published, hstreams, hrecord⟩ := (hsound.settled hidle).streams none
    obtain ⟨-, hjoined, hreceived⟩ := hstreams.each subscriber hmem
    refine ⟨published, hjoined, hreceived, fun record hrec => ?_⟩
    rcases hrecord record hrec with heq | ⟨-, requestId, hnone⟩
    · exact Or.inl heq
    · cases hnone
  · simp only [not_forall, not_not] at hidle
    obtain ⟨y, hy, frame, hframe⟩ := hidle
    obtain ⟨published, hstreams, hrecord⟩ := ((hsound sessionId).2.busy y hy frame hframe).streams
    obtain ⟨-, hjoined, hreceived⟩ := hstreams.each subscriber hmem
    refine ⟨published, hjoined, hreceived, fun record hrec => ?_⟩
    rcases hrecord record hrec with heq | ⟨hnext, requestId, hsome⟩
    · exact Or.inl heq
    · cases hsome
      exact Or.inr ⟨hnext, y, hy, requestId, hframe⟩

/-- Two observations are submitted, then somebody subscribes who knows the first revision, and a
third is submitted. -/
def streamedSample : List ServiceAction :=
  [createSample] ++ serveSample 0 3 ++ [.submit 0 (sampleCommand "a" 1 ["p0"])] ++ serveSample 1 2
    ++ [.submit 0 (sampleCommand "b" 1 ["p1"])] ++ serveSample 2 2
    ++ [.subscribe 0 ⟨"r", "A", 1⟩] ++ serveSample 3 2
    ++ [.submit 0 (sampleCommand "c" 1 ["p2"])] ++ serveSample 4 2

/-- The second revision is replayed, and the third is published. -/
theorem streaming_gap_free_sample :
    ∃ subscriber ∈ ((Service.run singleOptions State.empty streamedSample).slot "A").subscribers,
      subscriber.joined.snapshot.revision = 2 ∧ subscriber.command.lastSnapshotRevision = 1 ∧
      ∃ published, subscriber.joined.snapshot.revision ≤ published ∧
        [2, 3] = ((retained subscriber.joined.snapshot.revision).filter fun revision =>
              subscriber.command.lastSnapshotRevision < revision)
            ++ List.range' (subscriber.joined.snapshot.revision + 1)
              (published - subscriber.joined.snapshot.revision) := by
  have hone : (((Service.run singleOptions State.empty streamedSample).slot "A").subscribers.map
      fun subscriber => (subscriber.index, subscriber.joined.snapshot.revision,
        subscriber.command.lastSnapshotRevision)) = [(0, 2, 1)] := by decide +kernel
  obtain ⟨subscriber, hsubscriber, hfields⟩ := List.map_eq_singleton_iff.mp hone
  have hmem : subscriber
      ∈ ((Service.run singleOptions State.empty streamedSample).slot "A").subscribers := by
    rw [hsubscriber]
    exact List.mem_singleton_self _
  obtain ⟨hindex, hfields⟩ := Prod.mk.inj hfields
  obtain ⟨hjoined, hlast⟩ := Prod.mk.inj hfields
  have htwo : (((Service.run singleOptions State.empty streamedSample).slot "A").received 0).map
      ReadingSnapshot.revision = [2, 3] := by decide +kernel
  obtain ⟨-, published, hle, hreceived, -⟩ :=
    streaming_gap_free singleOptions streamedSample (by decide) "A" subscriber hmem
  rw [hindex, htwo] at hreceived
  exact ⟨subscriber, hmem, hjoined, hlast, published, hle, hreceived⟩

end Qaraa.SessionService
