import Qaraa.Server.AfterRelease
import Qaraa.Server.ChangeLog
import Qaraa.Server.Streaming

/-!
How subscribers join a session that is kept, and what it has sent them.

* `step_joined`: **a subscriber joins under the next number, in the last segment of its
  `subscribe`**.
* `Kept.published`: what a kept session has published, up to a publication that is due.
* `Streamed.newest`: a subscriber has received the revision published last, unless it had it.
-/

namespace Qaraa.SessionService

open Fallible Ordered KeyedQueue Relation

variable {sessionId : String} {slot after : SessionSlot}

/-! ### Segments -/

/-- A subscriber joins under the next number, when its record has been read. -/
lemma proceed_joined (options : ServiceOptions) {frame : Frame} {answer : Answer}
    {subscriber : SessionSubscriber}
    (hmem : subscriber ∈ (proceed options sessionId frame answer slot).1.subscribers) :
    subscriber ∈ slot.subscribers ∨ subscriber.index = slot.subscriptions ∧
      ∃ listener record, frame = .subscribeRead listener subscriber.command record := by
  by_cases hleaves : frame.LeavesSubscribers
  · rw [(proceed_sameStreams options sessionId hleaves answer slot).subscribers] at hmem
    exact Or.inl hmem
  · cases frame with
    | publish requestId snapshot changed =>
        cases changed with
        | false => exact absurd trivial hleaves
        | true =>
            obtain ⟨stay, registered, count, heq⟩ := publish_eq answer sessionId snapshot slot
            change subscriber ∈ (slot.publish answer sessionId snapshot).subscribers at hmem
            rw [heq] at hmem
            exact Or.inl (List.mem_of_mem_filter hmem)
    | subscribeRead listener command record =>
        cases record with
        | none => exact absurd trivial hleaves
        | some record =>
            rw [proceed] at hmem
            split at hmem
            · exact Or.inl hmem
            · obtain ⟨after, outcome, heq, -, -, -, -, -, sent, stay, -, -, hcases⟩ :=
                addSubscriber_cases answer sessionId listener command record slot
              rw [heq] at hmem
              rcases hcases with ⟨hsubscribers, -, -⟩ | ⟨hsubscribers, -⟩
              · rw [hsubscribers] at hmem
                rcases List.mem_append.mp hmem with hold | hnew
                · exact Or.inl (List.mem_of_mem_filter hold)
                · rw [List.mem_singleton.mp hnew]
                  exact Or.inr ⟨rfl, listener, _, rfl⟩
              · rw [hsubscribers] at hmem
                exact Or.inl (List.mem_of_mem_filter hmem)
    | deleteDone command deleted =>
        cases deleted with
        | false => exact absurd trivial hleaves
        | true => cases hmem
    | _ => exact absurd trivial hleaves

/-- Numbers are only given to those that join. -/
lemma proceed_subscriptions (options : ServiceOptions) (frame : Frame) (answer : Answer)
    (slot : SessionSlot) :
    (proceed options sessionId frame answer slot).1.subscriptions = slot.subscriptions ∨
      ∃ listener command record, frame = .subscribeRead listener command record := by
  by_cases hleaves : frame.LeavesSubscribers
  · exact Or.inl (proceed_sameStreams options sessionId hleaves answer slot).subscriptions
  · cases frame with
    | publish requestId snapshot changed =>
        cases changed with
        | false => exact absurd trivial hleaves
        | true =>
            obtain ⟨stay, registered, count, heq⟩ := publish_eq answer sessionId snapshot slot
            refine Or.inl ?_
            show (slot.publish answer sessionId snapshot).subscriptions = slot.subscriptions
            rw [heq]
    | subscribeRead listener command record => exact Or.inr ⟨listener, command, record, rfl⟩
    | deleteDone command deleted =>
        cases deleted with
        | false => exact absurd trivial hleaves
        | true => exact Or.inl rfl
    | _ => exact absurd trivial hleaves

/-! ### Steps -/

/-- A segment of a session is one of an operation that runs. -/
lemma sessionEvent_segment {options : ServiceOptions} {s : Service} {action : ServiceAction}
    {frame : Frame} {answer : Answer}
    (h : sessionEvent options s sessionId action = some (.inl (frame, answer))) :
    ∃ ticket answer' call previous, action = .proceed ticket answer' ∧
      s.entries[ticket]? = some ⟨sessionId, call, previous, .running frame⟩ := by
  cases action with
  | proceed ticket answer' =>
      rw [sessionEvent] at h
      split at h
      · rename_i key call previous frame' hentry
        split at h
        · rename_i hkey
          cases h
          subst hkey
          exact ⟨ticket, answer', call, previous, rfl, hentry⟩
        · cases h
      · cases h
  | unsubscribe key index =>
      rw [sessionEvent] at h
      split at h <;> cases h
  | _ => cases h

/-- **A subscriber joins under the next number, in the last segment of its `subscribe`.** -/
theorem step_joined (options : ServiceOptions) (s : Service) (action : ServiceAction)
    {subscriber : SessionSubscriber}
    (hmem : subscriber ∈ ((s.step options action).slot sessionId).subscribers) :
    subscriber ∈ (s.slot sessionId).subscribers ∨
      subscriber.index = (s.slot sessionId).subscriptions ∧
        ∃ ticket answer call previous listener record, action = .proceed ticket answer ∧
          s.entries[ticket]? = some ⟨sessionId, call, previous,
            .running (.subscribeRead listener subscriber.command record)⟩ := by
  have hslot := slot_step options s sessionId action
  split at hslot
  · rename_i frame answer hevent
    rw [hslot] at hmem
    refine (proceed_joined options hmem).imp_right ?_
    rintro ⟨hindex, listener, record, rfl⟩
    obtain ⟨ticket, answer', call, previous, haction, hentry⟩ := sessionEvent_segment hevent
    exact ⟨hindex, ticket, answer', call, previous, listener, record, haction, hentry⟩
  · rw [hslot, releaseSubscriber_eq] at hmem
    exact Or.inl (List.mem_of_mem_filter hmem)
  · rw [hslot.subscribers] at hmem
    exact Or.inl hmem

/-- The record a subscription has read is read for its command. -/
lemma Frame.Leads.of_subscribe {listener : ℕ} {command : SessionResumeCommand} {frame : Frame}
    (h : (Frame.subscribe listener command).Leads frame) :
    frame = .subscribe listener command ∨
      ∃ record, frame = .subscribeRead listener command record := by
  induction h with
  | refl => exact Or.inl rfl
  | tail _ hlast ih =>
      obtain ⟨slot, hnext⟩ := hlast
      rcases ih with rfl | ⟨record, rfl⟩
      · cases hnext with
        | subscribes _ _ => exact Or.inr ⟨_, rfl⟩
        | publishes _ _ hmakes _ _ _ => exact hmakes.elim
      · cases hnext with
        | publishes _ _ hmakes _ _ _ => exact hmakes.elim

/-! ### What was sent -/

/-- The snapshots a subscriber has received stay. -/
lemma Later.received (h : Later slot after) (index : ℕ) :
    slot.received index <+: after.received index :=
  h.delivered.filterMap _

/-- A subscriber has received the revision published last, or had it when it subscribed. -/
lemma Streamed.newest {published : ℕ} {subscriber : SessionSubscriber}
    (h : Streamed slot published subscriber) :
    published ≤ subscriber.command.lastSnapshotRevision ∨
      ∃ snapshot ∈ slot.received subscriber.index, snapshot.revision = published := by
  have hreceived : published ∈ (slot.received subscriber.index).map ReadingSnapshot.revision ∨
      published ≤ subscriber.command.lastSnapshotRevision := by
    rw [h.received, List.mem_append, List.mem_filter]
    rcases h.joined.lt_or_eq with hlt | heq
    · refine Or.inl (Or.inr (List.mem_range'_1.mpr ?_))
      omega
    · by_cases hnew : subscriber.command.lastSnapshotRevision < published
      · refine Or.inl (Or.inl ⟨?_, by simpa using hnew⟩)
        rw [heq, retained, List.rtake_eq_reverse_take_reverse, List.range_succ, List.reverse_concat]
        simp [SNAPSHOT_LIMIT]
      · exact Or.inr (not_lt.mp hnew)
  rcases hreceived with hmem | hle
  · obtain ⟨snapshot, hmem, heq⟩ := List.mem_map.mp hmem
    exact Or.inr ⟨snapshot, hmem, heq⟩
  · exact Or.inl hle

instance (action : ServiceAction) (sessionId : String) : Decidable (action.Spares sessionId) :=
  match action with
  | .delete command => decidable_of_iff (command.sessionId ≠ sessionId)
      ⟨fun hne => ⟨rfl, fun _ heq => by cases heq; exact hne⟩, fun h => h.2 command rfl⟩
  | .create _ _ | .get _ | .reset _ _ | .submit _ _ | .resume _ | .subscribe _ _ | .unsubscribe _ _
  | .start _ | .drain _ | .clean _ => isTrue ⟨rfl, fun _ heq => by cases heq⟩
  | .proceed _ answer => decidable_of_iff ([StoreVerdict.committed, .refused].contains answer.store)
      ⟨fun h => ⟨h, fun _ heq => by cases heq⟩, fun h => h.1⟩

namespace Kept

variable {s : Service}

/-- A session that every action spares is kept. -/
lemma run (options : ServiceOptions) {actions : List ServiceAction}
    (hspares : ∀ action ∈ actions, action.Spares sessionId) :
    Kept (Service.run options State.empty actions) sessionId := by
  induction actions using List.reverseRecOn with
  | nil => exact .empty sessionId
  | append_singleton actions action ih =>
      rw [run_concat]
      exact ((ih fun a ha => hspares a (List.mem_append_left _ ha)).step options
        (hspares action (List.mem_append_right _ (List.mem_singleton_self _)))).1

/-- All a kept session has sent belongs to its past. -/
lemma delivered (h : Kept s sessionId) : ∀ d ∈ (s.slot sessionId).delivered,
    (s.slot sessionId).Past d.2.snapshot := by
  by_cases hidle : ∀ y ∈ s.queue sessionId, ∀ frame, y.2.phase ≠ .running frame
  · exact (h.holds.idle hidle).2.delivered
  · simp only [not_forall, not_not] at hidle
    obtain ⟨y, hy, frame, hframe⟩ := hidle
    exact (h.holds.busy y hy frame hframe).tidy.delivered

lemma received (h : Kept s sessionId) {index : ℕ} {snapshot : ReadingSnapshot}
    (hmem : snapshot ∈ (s.slot sessionId).received index) : (s.slot sessionId).Past snapshot := by
  obtain ⟨d, hd, hsnapshot⟩ := List.mem_filterMap.mp hmem
  split at hsnapshot
  · cases hsnapshot
    exact h.delivered d hd
  · cases hsnapshot

/-- What a kept session has answered belongs to its past. -/
lemma answered (h : Kept s sessionId) {ticket : ℕ} {entry : Entry String Frame Outcome}
    (hentry : s.entries[ticket]? = some entry) (hkey : entry.key = sessionId)
    {event : SnapshotUpdatedEvent} (hresult : entry.phase.result = some (.ok (.updated event))) :
    (s.slot sessionId).Past event.snapshot :=
  h.holds.results (ticket, entry) (State.mem_queue.mpr ⟨hentry, hkey⟩) _ hresult event rfl

/-- **What a kept session has published**: the stored revision, or the one before it while the
publication is due. -/
theorem published (h : Kept s sessionId) :
    ∃ published, Streams (s.slot sessionId) published ∧
      ∀ record, (s.slot sessionId).record = some record → record.snapshot.revision = published ∨
        record.snapshot.revision = published + 1 ∧ ∃ y ∈ s.queue sessionId, ∃ requestId,
          y.2.phase = .running (.publish requestId record.snapshot true) := by
  by_cases hidle : ∀ y ∈ s.queue sessionId, ∀ frame, y.2.phase ≠ .running frame
  · obtain ⟨published, hstreams, hrecord⟩ := (h.holds.idle hidle).1.streams none
    refine ⟨published, hstreams, fun record hsome => Or.inl ?_⟩
    refine (hrecord record hsome).resolve_right ?_
    rintro ⟨-, requestId, hnone⟩
    cases hnone
  · simp only [not_forall, not_not] at hidle
    obtain ⟨y, hy, frame, hframe⟩ := hidle
    obtain ⟨published, hstreams, hrecord⟩ := (h.holds.busy y hy frame hframe).midway.streams
    refine ⟨published, hstreams, fun record hsome => (hrecord record hsome).imp_right ?_⟩
    rintro ⟨hnext, requestId, heq⟩
    cases heq
    exact ⟨hnext, y, hy, requestId, hframe⟩

end Kept

end Qaraa.SessionService
