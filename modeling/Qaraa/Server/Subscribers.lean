import Qaraa.Server.Agreement

/-!
What the subscribers of a session receive.

* `SessionSlot.received`: the snapshots a subscriber's listener was called with.
* `publish_eq`, `replay_eq`: all that publication and replay change.
* `Streamed`, `Streams`: a subscriber has received the retained revisions after the one it
  acknowledged, then each later one once.
* `Streams.publish`, `Streams.addSubscriber`: publication sends the next revision to all,
  and **replay and publication leave no gap between them**.
-/

namespace Qaraa.SessionService

open Fallible Ordered

/-- The snapshots the listener of a subscriber was called with. -/
def SessionSlot.received (slot : SessionSlot) (index : ℕ) : List ReadingSnapshot :=
  slot.delivered.filterMap fun d => if d.1 = index then some d.2.snapshot else none

/-- The subscribers and what they were sent are as before. -/
structure SameStreams (slot after : SessionSlot) : Prop where
  subscribers : after.subscribers = slot.subscribers
  subscriptions : after.subscriptions = slot.subscriptions
  delivered : after.delivered = slot.delivered

/-! ### Changes of the tracker -/

lemma resetRecord_same (caller : ℕ) (command : SessionResetCommand) (runtime : SessionRuntime)
    (slot : SessionSlot) (record : SessionRecord) :
    SameStreams slot (resetRecord caller command runtime slot record).1 := by
  rw [resetRecord]
  split <;> exact ⟨rfl, rfl, rfl⟩

lemma submitRecord_same (caller : ℕ) (sessionId : String) (o : CheckedObservation)
    (slot : SessionSlot) (record : SessionRecord) :
    SameStreams slot (submitRecord caller sessionId o slot record).1 := by
  rw [submitRecord]
  split
  · exact ⟨rfl, rfl, rfl⟩
  · split
    · exact ⟨rfl, rfl, rfl⟩
    · split
      · exact ⟨rfl, rfl, rfl⟩
      · split
        · exact ⟨rfl, rfl, rfl⟩
        · dsimp only
          split <;> exact ⟨rfl, rfl, rfl⟩

/-- Store updates send nothing. -/
lemma update_same (verdict : StoreVerdict) (sessionId : String) {slot : SessionSlot}
    {mutate : SessionRecord → Mutation}
    (hmutate : ∀ record, SameStreams slot (mutate record).1) :
    SameStreams slot (update verdict sessionId mutate slot).1 := by
  rw [update]
  split
  · exact ⟨rfl, rfl, rfl⟩
  · rename_i record _
    have hsame := hmutate record
    cases verdict with
    | refused => exact ⟨rfl, rfl, rfl⟩
    | failed => exact hsame
    | committed =>
        dsimp only
        generalize mutate record = mutation at hsame
        obtain ⟨after, outcome⟩ := mutation
        cases outcome with
        | error error => exact hsame
        | ok result => exact ⟨hsame.subscribers, hsame.subscriptions, hsame.delivered⟩

lemma settleUpdate_fst (requestId : String) (mutation : Mutation) :
    (settleUpdate requestId mutation).1 = mutation.1 := by
  obtain ⟨after, outcome⟩ := mutation
  cases outcome <;> rfl

lemma read_fst (answer : Answer) (slot : SessionSlot) (next : Option SessionRecord → Frame) :
    (read answer slot next).1 = slot := by
  rw [read]
  split <;> rfl

/-! ### Publication and replay -/

/-- A subscriber of a copy of the set is called once. -/
lemma filterMap_index {subscribers : List SessionSubscriber}
    (h : (subscribers.map SessionSubscriber.index).Nodup) {subscriber : SessionSubscriber}
    (hmem : subscriber ∈ subscribers) {α : Type} (a : α) :
    (subscribers.filterMap fun s => if s.index = subscriber.index then some a else none)
      = [a] := by
  induction subscribers with
  | nil => cases hmem
  | cons s rest ih =>
      obtain ⟨hnot, hrest⟩ := List.nodup_cons.mp h
      rcases List.mem_cons.mp hmem with rfl | hmem
      · have hnone : (rest.filterMap fun s =>
            if s.index = subscriber.index then some a else none) = [] := by
          refine List.filterMap_eq_nil_iff.mpr fun t ht => if_neg fun heq => hnot ?_
          rw [← heq]
          exact List.mem_map_of_mem ht
        rw [List.filterMap_cons, if_pos rfl, hnone]
      · have hne : s.index ≠ subscriber.index := fun heq =>
          hnot (heq ▸ List.mem_map_of_mem hmem)
        rw [List.filterMap_cons, if_neg hne]
        exact ih hrest hmem

/-- A released subscriber leaves the set. -/
lemma releaseSubscriber_eq (slot : SessionSlot) (index : ℕ) :
    slot.releaseSubscriber index = { slot with
      registered := (slot.releaseSubscriber index).registered
      subscribers := slot.subscribers.filter fun subscriber => subscriber.index != index
      subscriberCount := (slot.releaseSubscriber index).subscriberCount } := by
  rw [SessionSlot.releaseSubscriber]
  split
  · rfl
  · rename_i hnone
    have hall : slot.subscribers.filter (fun subscriber => subscriber.index != index)
        = slot.subscribers := by
      refine List.filter_eq_self.mpr fun s hs => ?_
      rw [bne_iff_ne]
      rintro rfl
      exact hnone (List.any_eq_true.mpr ⟨s, hs, by simp⟩)
    rw [hall]

/-- Subscribers leave one after the other. -/
lemma release_all_eq (leaving : List ℕ) (slot : SessionSlot) :
    ∃ registered count, leaving.foldl SessionSlot.releaseSubscriber slot = { slot with
      registered := registered
      subscribers := slot.subscribers.filter fun subscriber => decide (subscriber.index ∉ leaving)
      subscriberCount := count } := by
  induction leaving generalizing slot with
  | nil => exact ⟨slot.registered, slot.subscriberCount, by simp⟩
  | cons index leaving ih =>
      obtain ⟨registered, count, heq⟩ := ih (slot.releaseSubscriber index)
      have hboth : (slot.releaseSubscriber index).subscribers.filter
            (fun subscriber => decide (subscriber.index ∉ leaving))
          = slot.subscribers.filter fun subscriber =>
            decide (subscriber.index ∉ index :: leaving) := by
        rw [releaseSubscriber_eq]
        dsimp only
        rw [List.filter_filter]
        refine List.filter_congr fun s _ => ?_
        rw [Bool.eq_iff_iff]
        simp [and_comm]
      refine ⟨registered, count, ?_⟩
      rw [List.foldl_cons, heq, hboth, releaseSubscriber_eq]

/-- A call of a listener. -/
lemma deliver_eq (slot : SessionSlot) (sessionId : String) (subscriber : SessionSubscriber)
    (snapshot : ReadingSnapshot) (leaving : List ℕ) :
    ∃ registered count, slot.deliver sessionId subscriber snapshot leaving = { slot with
      registered := registered
      subscribers := slot.subscribers.filter fun s => decide (s.index ∉ leaving)
      subscriberCount := count
      delivered := slot.delivered ++
        [(subscriber.index, SessionSlot.event sessionId subscriber.requestId snapshot)] } := by
  obtain ⟨registered, count, heq⟩ := release_all_eq leaving { slot with
    delivered := slot.delivered ++
      [(subscriber.index, SessionSlot.event sessionId subscriber.requestId snapshot)] }
  exact ⟨registered, count, heq⟩

/-- One call of a publication. -/
def publishTo (answer : Answer) (sessionId : String) (snapshot : ReadingSnapshot)
    (slot : SessionSlot) (subscriber : SessionSubscriber) : SessionSlot :=
  let slot := slot.deliver sessionId subscriber snapshot (answer.leaves subscriber.index snapshot)
  if answer.throws subscriber.index snapshot then slot.releaseSubscriber subscriber.index
  else slot

/-- A publication calls every subscriber of the set once and releases some. -/
lemma publish_eq (answer : Answer) (sessionId : String) (snapshot : ReadingSnapshot)
    (slot : SessionSlot) :
    ∃ stay registered count, slot.publish answer sessionId snapshot = { slot with
      registered := registered
      subscribers := slot.subscribers.filter stay
      subscriberCount := count
      delivered := slot.delivered ++ slot.subscribers.map fun s =>
        (s.index, SessionSlot.event sessionId s.requestId snapshot) } := by
  have key : ∀ (called : List SessionSubscriber) (slot : SessionSlot), ∃ stay registered count,
      called.foldl (publishTo answer sessionId snapshot) slot = { slot with
        registered := registered
        subscribers := slot.subscribers.filter stay
        subscriberCount := count
        delivered := slot.delivered ++ called.map fun s =>
          (s.index, SessionSlot.event sessionId s.requestId snapshot) } := by
    intro called
    induction called with
    | nil => exact fun slot => ⟨fun _ => true, slot.registered, slot.subscriberCount, by simp⟩
    | cons s called ih =>
        intro slot
        obtain ⟨stay, registered, count, heq⟩ := ih (publishTo answer sessionId snapshot slot s)
        obtain ⟨_, _, hdeliver⟩ := deliver_eq slot sessionId s snapshot
          (answer.leaves s.index snapshot)
        rw [List.foldl_cons, heq, publishTo, hdeliver]
        split
        · refine ⟨fun t => stay t && (t.index != s.index &&
            decide (t.index ∉ answer.leaves s.index snapshot)), registered, count, ?_⟩
          rw [releaseSubscriber_eq]
          simp [List.filter_filter]
        · exact ⟨fun t => stay t && decide (t.index ∉ answer.leaves s.index snapshot),
            registered, count, by simp [List.filter_filter]⟩
  obtain ⟨stay, registered, count, heq⟩ := key slot.subscribers slot
  refine ⟨stay, registered && (slot.subscribers.filter stay).length != 0, count, ?_⟩
  change (let slot := slot.subscribers.foldl (publishTo answer sessionId snapshot) slot
    { slot with registered := slot.registered && slot.subscribers.length != 0 }) = _
  rw [heq]

/-- A replay calls one listener with the retained snapshots that are new to it, and stops
when a call throws; others may leave. -/
lemma replay_eq (answer : Answer) (sessionId : String) (subscriber : SessionSubscriber)
    (snapshots : List ReadingSnapshot) (slot : SessionSlot) :
    ∃ sent stay registered count,
      (slot.replay answer sessionId subscriber snapshots).1 = { slot with
        registered := registered
        subscribers := slot.subscribers.filter stay
        subscriberCount := count
        delivered := slot.delivered ++ sent.map fun snapshot =>
          (subscriber.index, SessionSlot.event sessionId subscriber.requestId snapshot) } ∧
      (∀ s : SessionSubscriber, s.index = subscriber.index → stay s = true) ∧
      sent <+: (snapshots.filter fun snapshot =>
        subscriber.command.lastSnapshotRevision < snapshot.revision) ∧
      ((slot.replay answer sessionId subscriber snapshots).2 = true →
        sent = snapshots.filter fun snapshot =>
          subscriber.command.lastSnapshotRevision < snapshot.revision) := by
  induction snapshots generalizing slot with
  | nil =>
      exact ⟨[], fun _ => true, slot.registered, slot.subscriberCount,
        by simp [SessionSlot.replay], fun _ _ => rfl, List.prefix_refl _, fun _ => rfl⟩
  | cons snapshot rest ih =>
      rw [SessionSlot.replay]
      split
      · rename_i hold
        obtain ⟨sent, stay, registered, count, hslot, hstay, hpre, hall⟩ := ih slot
        rw [List.filter_cons_of_neg (by simpa using hold)]
        exact ⟨sent, stay, registered, count, hslot, hstay, hpre, hall⟩
      · rename_i hnew
        rw [List.filter_cons_of_pos (by simpa using hnew)]
        set leaving := (answer.leaves subscriber.index snapshot).filter (· ≠ subscriber.index)
          with hleaving
        have hkept : ∀ s : SessionSubscriber, s.index = subscriber.index → s.index ∉ leaving := by
          rintro s hs hmem
          rw [hleaving, List.mem_filter] at hmem
          exact absurd hs (of_decide_eq_true hmem.2)
        obtain ⟨registered₀, count₀, hdeliver⟩ :=
          deliver_eq slot sessionId subscriber snapshot leaving
        dsimp only
        split
        · exact ⟨[snapshot], _, registered₀, count₀, hdeliver,
            fun s hs => decide_eq_true (hkept s hs), by simp, fun h => by cases h⟩
        · obtain ⟨sent, stay, registered, count, hslot, hstay, hpre, hall⟩ :=
            ih (slot.deliver sessionId subscriber snapshot leaving)
          refine ⟨snapshot :: sent, fun s => stay s && decide (s.index ∉ leaving), registered,
            count, ?_, fun s hs => ?_, List.cons_prefix_cons.mpr ⟨rfl, hpre⟩, fun h => ?_⟩
          · rw [hslot, hdeliver]
            simp [List.filter_filter]
          · exact Bool.and_eq_true_iff.mpr ⟨hstay s hs, decide_eq_true (hkept s hs)⟩
          · rw [hall h]

/-! ### Streams -/

/-- What a subscriber has received when the session has published a revision. -/
structure Streamed (slot : SessionSlot) (published : ℕ) (subscriber : SessionSubscriber) :
    Prop where
  made : subscriber.index < slot.subscriptions
  joined : subscriber.joined.snapshot.revision ≤ published
  received : (slot.received subscriber.index).map ReadingSnapshot.revision
    = ((retained subscriber.joined.snapshot.revision).filter fun revision =>
        subscriber.command.lastSnapshotRevision < revision)
      ++ List.range' (subscriber.joined.snapshot.revision + 1)
        (published - subscriber.joined.snapshot.revision)

/-- All subscribers of a session have received what it has published. -/
structure Streams (slot : SessionSlot) (published : ℕ) : Prop where
  each : ∀ subscriber ∈ slot.subscribers, Streamed slot published subscriber
  distinct : (slot.subscribers.map SessionSubscriber.index).Nodup
  made : ∀ d ∈ slot.delivered, d.1 < slot.subscriptions

namespace Streams

variable {slot : SessionSlot} {published : ℕ}

/-- Nothing but the subscribers and their events matters. -/
lemma congr (h : Streams slot published) {after : SessionSlot} (hsame : SameStreams slot after) :
    Streams after published where
  each := by
    rw [hsame.subscribers]
    intro s hs
    obtain ⟨hmade, hjoined, hreceived⟩ := h.each s hs
    refine ⟨hsame.subscriptions ▸ hmade, hjoined, ?_⟩
    rw [SessionSlot.received, hsame.delivered]
    exact hreceived
  distinct := hsame.subscribers ▸ h.distinct
  made := by
    rw [hsame.delivered, hsame.subscriptions]
    exact h.made

/-- Subscribers may leave. -/
lemma filter (h : Streams slot published) (stay : SessionSubscriber → Bool) (registered : Bool)
    (count : ℤ) :
    Streams { slot with
      registered := registered
      subscribers := slot.subscribers.filter stay
      subscriberCount := count } published where
  each := fun s hs => by
    obtain ⟨hmade, hjoined, hreceived⟩ := h.each s (List.mem_of_mem_filter hs)
    exact ⟨hmade, hjoined, hreceived⟩
  distinct := h.distinct.sublist (List.filter_sublist.map _)
  made := h.made

lemma release (h : Streams slot published) (index : ℕ) :
    Streams (slot.releaseSubscriber index) published := by
  rw [releaseSubscriber_eq]
  exact h.filter _ _ _

/-- With no subscriber left nothing is to be received. -/
lemma clear (h : Streams slot published) (registered : Bool) (count : ℤ) (published' : ℕ) :
    Streams { slot with
      registered := registered
      subscribers := []
      subscriberCount := count } published' :=
  ⟨fun _ hs => (by cases hs), List.nodup_nil, h.made⟩

/-- A publication sends the next revision to every subscriber. -/
lemma publish (h : Streams slot published) (answer : Answer) (sessionId : String)
    {snapshot : ReadingSnapshot} (hnext : snapshot.revision = published + 1) :
    Streams (slot.publish answer sessionId snapshot) (published + 1) := by
  obtain ⟨stay, registered, count, heq⟩ := publish_eq answer sessionId snapshot slot
  rw [heq]
  refine ⟨fun s hs => ?_, ?_, fun d hd => ?_⟩
  · have hmem := List.mem_of_mem_filter hs
    obtain ⟨hmade, hjoined, hreceived⟩ := h.each s hmem
    refine ⟨hmade, by omega, ?_⟩
    have hone := filterMap_index h.distinct hmem snapshot
    have hnow : ∀ d : SessionSubscriber,
        (if d.index = s.index then some snapshot else none) =
          if (d.index, SessionSlot.event sessionId d.requestId snapshot).1 = s.index then
            some (d.index, SessionSlot.event sessionId d.requestId snapshot).2.snapshot
          else none := fun _ => rfl
    simp only [hnow] at hone
    rw [SessionSlot.received] at hreceived ⊢
    dsimp only
    have hlater : published + 1 - s.joined.snapshot.revision
        = (published - s.joined.snapshot.revision) + 1 := by omega
    rw [List.filterMap_append, List.filterMap_map, List.map_append, hreceived, hlater,
      List.range'_concat, ← List.append_assoc]
    refine congrArg _ ?_
    have hrev : s.joined.snapshot.revision + 1 + 1 * (published - s.joined.snapshot.revision)
        = snapshot.revision := by omega
    rw [hrev]
    exact congrArg (List.map ReadingSnapshot.revision) hone
  · exact h.distinct.sublist (List.filter_sublist.map _)
  · rcases List.mem_append.mp hd with hd | hd
    · exact h.made d hd
    · obtain ⟨s, hs, rfl⟩ := List.mem_map.mp hd
      exact (h.each s hs).made

/-- A subscriber of a later number has received nothing. -/
lemma received_nil (h : Streams slot published) : slot.received slot.subscriptions = [] := by
  refine List.filterMap_eq_nil_iff.mpr fun d hd => if_neg fun heq => ?_
  have := h.made d hd
  omega

end Streams

/-- What a replay sends to the other subscribers: nothing. -/
lemma received_append_of_ne (slot : SessionSlot) {index index' : ℕ} (hne : index' ≠ index)
    (sent : List SnapshotUpdatedEvent) :
    ({ slot with delivered := slot.delivered ++ sent.map fun e => (index, e) } :
      SessionSlot).received index' = slot.received index' := by
  have hnone : (sent.map fun e => (index, e)).filterMap
      (fun d : ℕ × SnapshotUpdatedEvent => if d.1 = index' then some d.2.snapshot else none)
        = [] := by
    refine List.filterMap_eq_nil_iff.mpr fun d hd => ?_
    obtain ⟨e, -, rfl⟩ := List.mem_map.mp hd
    exact if_neg (Ne.symm hne)
  rw [SessionSlot.received, SessionSlot.received, List.filterMap_append, hnone, List.append_nil]

lemma received_append_self (slot : SessionSlot) (index : ℕ) (sent : List SnapshotUpdatedEvent) :
    ({ slot with delivered := slot.delivered ++ sent.map fun e => (index, e) } :
      SessionSlot).received index
        = slot.received index ++ sent.map SnapshotUpdatedEvent.snapshot := by
  have hall : (sent.map fun e => (index, e)).filterMap
      (fun d : ℕ × SnapshotUpdatedEvent => if d.1 = index then some d.2.snapshot else none)
        = sent.map SnapshotUpdatedEvent.snapshot := by
    rw [List.filterMap_map, ← List.filterMap_eq_map]
    refine List.filterMap_congr fun e _ => ?_
    simp
  rw [SessionSlot.received, SessionSlot.received, List.filterMap_append, hall]

/-- What `subscribe` leaves: the subscriber with the whole replay, or no trace but the
events of a replay cut short. -/
lemma addSubscriber_cases (answer : Answer) (sessionId : String) (listener : ℕ)
    (command : SessionResumeCommand) (record : SessionRecord) (slot : SessionSlot) :
    ∃ after outcome, addSubscriber answer sessionId listener command record slot
        = (after, .inr outcome) ∧
      after.record = slot.record ∧ after.runtime = slot.runtime ∧ after.applied = slot.applied ∧
      after.subscriptions = slot.subscriptions + 1 ∧
      (∀ event, outcome ≠ .ok (.updated event)) ∧
      ∃ (sent : List ReadingSnapshot) (stay : SessionSubscriber → Bool),
        after.delivered = slot.delivered ++ (sent.map
          (SessionSlot.event sessionId command.requestId)).map (fun e => (slot.subscriptions, e)) ∧
        (sent <+: record.snapshots.filter fun snapshot =>
          command.lastSnapshotRevision < snapshot.revision) ∧
        ((after.subscribers = slot.subscribers.filter stay
            ++ [⟨slot.subscriptions, command.requestId, listener, command, record⟩] ∧
          outcome = .ok (.subscribed slot.subscriptions) ∧
          sent = record.snapshots.filter fun snapshot =>
            command.lastSnapshotRevision < snapshot.revision) ∨
        (after.subscribers = slot.subscribers.filter stay ∧ outcome = .error .rejected)) := by
  set subscriber : SessionSubscriber :=
    ⟨slot.subscriptions, command.requestId, listener, command, record⟩ with hsubscriber
  set added : SessionSlot :=
    { slot with
      registered := true
      subscribers := slot.subscribers ++ [subscriber]
      subscriberCount := slot.subscriberCount + 1
      subscriptions := slot.subscriptions + 1 } with hadded
  obtain ⟨sent, stay, registered, count, hslot, hstay, hpre, hall⟩ :=
    replay_eq answer sessionId subscriber record.snapshots added
  rw [addSubscriber]
  dsimp only
  rw [← hsubscriber, ← hadded]
  cases hreplay : added.replay answer sessionId subscriber record.snapshots with
  | mk replayed complete =>
      rw [hreplay] at hslot hall
      dsimp only at hslot hall
      have hevents : replayed.delivered = slot.delivered
          ++ (sent.map (SessionSlot.event sessionId command.requestId)).map
            fun e => (slot.subscriptions, e) := by
        rw [hslot, List.map_map]
        rfl
      have hsubscribers : replayed.subscribers
          = slot.subscribers.filter stay ++ [subscriber] := by
        rw [hslot]
        dsimp only
        rw [hadded, List.filter_append, List.filter_cons_of_pos (hstay subscriber rfl),
          List.filter_nil]
      cases complete with
      | true =>
          refine ⟨_, _, rfl, ?_, ?_, ?_, ?_, by simp, sent, stay, hevents, hpre,
            Or.inl ⟨hsubscribers, rfl, hall rfl⟩⟩
          all_goals rw [hslot]
      | false =>
          refine ⟨_, _, rfl, ?_, ?_, ?_, ?_, by simp, sent,
            fun s => stay s && (s.index != slot.subscriptions), ?_, hpre, Or.inr ⟨?_, rfl⟩⟩
          · rw [releaseSubscriber_eq, hslot]
          · rw [releaseSubscriber_eq, hslot]
          · rw [releaseSubscriber_eq, hslot]
          · rw [releaseSubscriber_eq, hslot]
          · rw [releaseSubscriber_eq]
            exact hevents
          · rw [releaseSubscriber_eq]
            dsimp only
            rw [hsubscribers, List.filter_append, List.filter_filter]
            simp [hsubscriber, Bool.and_comm]

/-- **Between replay and publication there is no gap**: a subscriber added to a session
that has published all its revisions has received the retained ones that are new to it. -/
theorem Streams.addSubscriber {slot : SessionSlot} {record : SessionRecord}
    (h : Streams slot record.snapshot.revision)
    (hwindow : record.snapshots.map ReadingSnapshot.revision = retained record.snapshot.revision)
    (answer : Answer) (sessionId : String) (listener : ℕ) (command : SessionResumeCommand) :
    Streams (addSubscriber answer sessionId listener command record slot).1
      record.snapshot.revision := by
  obtain ⟨after, outcome, heq, -, -, -, hsubscriptions, -, sent, stay, hdelivered, -, hcases⟩ :=
    addSubscriber_cases answer sessionId listener command record slot
  have hreceived : ∀ index', after.received index'
      = ({ slot with delivered := slot.delivered ++ (sent.map
          (SessionSlot.event sessionId command.requestId)).map fun e => (slot.subscriptions, e) } :
        SessionSlot).received index' := by
    intro index'
    rw [SessionSlot.received, hdelivered]
    rfl
  have hmade : ∀ d ∈ after.delivered, d.1 < after.subscriptions := by
    intro d hd
    rw [hdelivered] at hd
    rw [hsubscriptions]
    rcases List.mem_append.mp hd with hd | hd
    · exact Nat.lt_succ_of_lt (h.made d hd)
    · obtain ⟨e, -, rfl⟩ := List.mem_map.mp hd
      exact Nat.lt_succ_self _
  have hold : ∀ s ∈ slot.subscribers, Streamed after record.snapshot.revision s := by
    intro s hs
    obtain ⟨hlt, hjoined, hgot⟩ := h.each s hs
    refine ⟨by omega, hjoined, ?_⟩
    rw [hreceived, received_append_of_ne slot (Nat.ne_of_lt hlt)]
    exact hgot
  rw [heq]
  rcases hcases with ⟨hsubscribers, -, hsent⟩ | ⟨hsubscribers, -⟩
  · refine ⟨fun s hs => ?_, ?_, hmade⟩
    · rw [hsubscribers] at hs
      rcases List.mem_append.mp hs with hs | hs
      · exact hold s (List.mem_of_mem_filter hs)
      · rw [List.mem_singleton.mp hs]
        refine ⟨by dsimp only; omega, le_refl _, ?_⟩
        have hevents : (sent.map (SessionSlot.event sessionId command.requestId)).map
            SnapshotUpdatedEvent.snapshot = sent := by
          rw [List.map_map]
          exact List.map_id _
        dsimp only
        rw [hreceived, received_append_self, h.received_nil, List.nil_append, hevents, hsent,
          Nat.sub_self, List.range'_zero, List.append_nil, ← hwindow, List.filter_map]
        rfl
    · rw [hsubscribers, List.map_append, List.nodup_append]
      refine ⟨h.distinct.sublist (List.filter_sublist.map _), List.nodup_singleton _,
        fun i hi j hj hij => ?_⟩
      obtain ⟨s, hs, rfl⟩ := List.mem_map.mp hi
      have := (h.each s (List.mem_of_mem_filter hs)).made
      simp only [List.map_singleton, List.mem_singleton] at hj
      omega
  · refine ⟨fun s hs => ?_, ?_, hmade⟩
    · rw [hsubscribers] at hs
      exact hold s (List.mem_of_mem_filter hs)
    · rw [hsubscribers]
      exact h.distinct.sublist (List.filter_sublist.map _)

end Qaraa.SessionService
