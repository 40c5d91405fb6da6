import Qaraa.Server.SubscriberCapacity
import Qaraa.Server.StoreFailures

/-!
Whether a listener is called after its subscriber has left.

* `Occurrence`, `segmentLog`, `trace`: the calls of listeners and the departures of subscribers
  in a run, in the order in which they happen. A subscriber leaves when its unsubscribe
  function is called, by a listener or otherwise, when its listener throws and when the
  session is deleted.
* `Silent`: no listener is called after its subscriber has left.
* `Considerate`: in a publication no listener makes a subscriber leave that is still to be
  called.
* `trace_calls`: the calls of a trace are the events the session has delivered.
* `silent_after_release`: **a run is silent exactly when its publications are considerate**.
* `called_after_release`: a listener that unsubscribes the next one does not stop its call.
-/

namespace Qaraa.SessionService

open Fallible Ordered KeyedQueue

/-! ### Traces -/

/-- Something that happens to a subscriber of a session. -/
inductive Occurrence where
  | called (index : ℕ)
  | released (index : ℕ)
  deriving DecidableEq

/-- The calls of unsubscribe functions that have been made; the first `made` subscribers
have one. -/
def releases (made : ℕ) (leaving : List ℕ) : List Occurrence :=
  (leaving.filter (· < made)).map .released

/-- One call of a publication: the subscribers the listener makes leave, and its own release
if it throws. -/
def callLog (answer : Answer) (made : ℕ) (snapshot : ReadingSnapshot) (index : ℕ) :
    List Occurrence :=
  .called index :: (releases made (answer.leaves index snapshot) ++
    if answer.throws index snapshot then [.released index] else [])

/-- The calls of a replay, up to the first that throws. -/
def replayLog (answer : Answer) (index : ℕ) (command : SessionResumeCommand) :
    List ReadingSnapshot → List Occurrence
  | [] => []
  | snapshot :: rest =>
      if snapshot.revision ≤ command.lastSnapshotRevision then replayLog answer index command rest
      else
        .called index :: (releases index (answer.leaves index snapshot) ++
          if answer.throws index snapshot then [.released index]
          else replayLog answer index command rest)

/-- What happens to the subscribers in a segment of an operation. -/
def segmentLog (frame : Frame) (answer : Answer) (slot : SessionSlot) : List Occurrence :=
  match frame with
  | .publish _ snapshot true =>
      slot.subscribers.flatMap fun s => callLog answer slot.subscriptions snapshot s.index
  | .subscribeRead _ command (some record) =>
      if answer.full then [] else replayLog answer slot.subscriptions command record.snapshots
  | .deleteDone _ true => slot.subscribers.map fun s => .released s.index
  | _ => []

/-- What an action is for one session: a segment of an operation, or an unsubscribe function
that is called outside of any. -/
def sessionEvent (options : ServiceOptions) (s : Service) (sessionId : String) :
    ServiceAction → Option ((Frame × Answer) ⊕ ℕ)
  | .proceed ticket answer =>
      match s.entries[ticket]? with
      | some ⟨key, _, _, .running frame⟩ =>
          if key = sessionId then some (.inl (frame, s.answering options answer)) else none
      | _ => none
  | .unsubscribe key index => if key = sessionId then some (.inr index) else none
  | _ => none

/-- What an action makes happen to the subscribers of a session. -/
def occurrences (options : ServiceOptions) (s : Service) (sessionId : String)
    (action : ServiceAction) : List Occurrence :=
  match sessionEvent options s sessionId action with
  | some (.inl (frame, answer)) => segmentLog frame answer (s.slot sessionId)
  | some (.inr index) => releases (s.slot sessionId).subscriptions [index]
  | none => []

/-- What happens to the subscribers of a session in a run. -/
def trace (options : ServiceOptions) (sessionId : String) : Service → List ServiceAction →
    List Occurrence
  | _, [] => []
  | s, action :: rest =>
      occurrences options s sessionId action ++ trace options sessionId (s.step options action) rest

/-- No listener is called after its subscriber has left. -/
def Silent (log : List Occurrence) : Prop :=
  log.Pairwise fun earlier later => ∀ index, earlier = .released index → later ≠ .called index

/-- In a publication no listener makes a subscriber leave that is still to be called. -/
def ConsiderateSegment (frame : Frame) (answer : Answer) (slot : SessionSlot) : Prop :=
  match frame with
  | .publish _ snapshot true =>
      slot.subscribers.Pairwise fun earlier later =>
        later.index ∉ answer.leaves earlier.index snapshot
  | _ => True

/-- What happens next is considerate. -/
def Considerate (options : ServiceOptions) (s : Service) (sessionId : String)
    (action : ServiceAction) : Prop :=
  match sessionEvent options s sessionId action with
  | some (.inl (frame, answer)) => ConsiderateSegment frame answer (s.slot sessionId)
  | _ => True

/-! ### Silence -/

lemma silent_append {log log' : List Occurrence} :
    Silent (log ++ log') ↔
      Silent log ∧ Silent log' ∧ ∀ index, .released index ∈ log → .called index ∉ log' := by
  rw [Silent, List.pairwise_append]
  refine and_congr_right fun _ => and_congr_right fun _ => ?_
  constructor
  · intro h index hreleased hcalled
    exact h _ hreleased _ hcalled index rfl rfl
  · rintro h _ hreleased _ hcalled index rfl rfl
    exact h index hreleased hcalled

lemma silent_called {index : ℕ} {log : List Occurrence} :
    Silent (.called index :: log) ↔ Silent log := by
  rw [Silent, List.pairwise_cons]
  exact and_iff_right fun _ _ _ heq => by cases heq

/-- Departures alone are silent. -/
lemma silent_of_not_called {log : List Occurrence} (h : ∀ index, .called index ∉ log) :
    Silent log := by
  induction log with
  | nil => exact .nil
  | cons o log ih =>
      refine List.pairwise_cons.mpr ⟨fun later hlater index _ heq => ?_, ih fun index hcalled =>
        h index (List.mem_cons_of_mem _ hcalled)⟩
      rw [heq] at hlater
      exact h index (List.mem_cons_of_mem _ hlater)

lemma mem_releases {made index : ℕ} {leaving : List ℕ} :
    .released index ∈ releases made leaving ↔ index ∈ leaving ∧ index < made := by
  simp [releases]

lemma called_notMem_releases {made index : ℕ} {leaving : List ℕ} :
    .called index ∉ releases made leaving := by
  simp [releases]

/-- A single call, and the departures in it, is silent. -/
lemma silent_callLog (answer : Answer) (made : ℕ) (snapshot : ReadingSnapshot) (index : ℕ) :
    Silent (callLog answer made snapshot index) := by
  rw [callLog, silent_called]
  refine silent_of_not_called fun index' hcalled => ?_
  rcases List.mem_append.mp hcalled with hcalled | hcalled
  · exact called_notMem_releases hcalled
  · split at hcalled <;> simp at hcalled

lemma called_mem_callLog {answer : Answer} {made : ℕ} {snapshot : ReadingSnapshot}
    {index index' : ℕ} : .called index' ∈ callLog answer made snapshot index ↔ index' = index := by
  rw [callLog, List.mem_cons, Occurrence.called.injEq]
  refine or_iff_left fun hcalled => ?_
  rcases List.mem_append.mp hcalled with hcalled | hcalled
  · exact called_notMem_releases hcalled
  · split at hcalled <;> simp at hcalled

lemma released_mem_callLog {answer : Answer} {made : ℕ} {snapshot : ReadingSnapshot}
    {index index' : ℕ} : .released index' ∈ callLog answer made snapshot index ↔
      (index' ∈ answer.leaves index snapshot ∧ index' < made) ∨
      (answer.throws index snapshot = true ∧ index' = index) := by
  rw [callLog, List.mem_cons, List.mem_append, mem_releases]
  cases answer.throws index snapshot <;> simp

/-- **A publication is silent exactly when it is considerate.** -/
theorem silent_publish {answer : Answer} {made : ℕ} {snapshot : ReadingSnapshot} {called : List ℕ}
    (hdistinct : called.Nodup) (hmade : ∀ index ∈ called, index < made) :
    Silent (called.flatMap (callLog answer made snapshot)) ↔
      called.Pairwise fun earlier later => later ∉ answer.leaves earlier snapshot := by
  induction called with
  | nil => exact iff_of_true .nil .nil
  | cons index called ih =>
      rw [List.nodup_cons] at hdistinct
      rw [List.forall_mem_cons] at hmade
      rw [List.flatMap_cons, silent_append, List.pairwise_cons, ih hdistinct.2 hmade.2, and_comm,
        and_iff_left (silent_callLog answer made snapshot index), and_comm]
      refine and_congr_left fun _ => forall_congr' fun index' => ?_
      rw [released_mem_callLog, List.mem_flatMap]
      simp only [called_mem_callLog, exists_eq_right']
      constructor
      · intro h hmem hleaves
        exact h (Or.inl ⟨hleaves, hmade.2 index' hmem⟩) hmem
      · rintro h (⟨hleaves, -⟩ | ⟨-, rfl⟩) hmem
        · exact h hmem hleaves
        · exact hdistinct.1 hmem

lemma called_mem_replayLog {answer : Answer} {index index' : ℕ} {command : SessionResumeCommand}
    {snapshots : List ReadingSnapshot}
    (h : .called index' ∈ replayLog answer index command snapshots) : index' = index := by
  induction snapshots with
  | nil => cases h
  | cons snapshot rest ih =>
      rw [replayLog] at h
      split at h
      · exact ih h
      · rcases List.mem_cons.mp h with heq | h
        · exact Occurrence.called.inj heq
        · rcases List.mem_append.mp h with h | h
          · exact absurd h called_notMem_releases
          · split at h
            · simp at h
            · exact ih h

/-- A replay calls one listener until it throws; the others may leave. -/
lemma silent_replay (answer : Answer) (index : ℕ) (command : SessionResumeCommand)
    (snapshots : List ReadingSnapshot) : Silent (replayLog answer index command snapshots) := by
  induction snapshots with
  | nil => exact .nil
  | cons snapshot rest ih =>
      rw [replayLog]
      split
      · exact ih
      · rw [silent_called, silent_append]
        refine ⟨silent_of_not_called fun _ => called_notMem_releases, ?_,
          fun index' h hcalled => ?_⟩
        · split
          · exact silent_of_not_called (by simp)
          · exact ih
        · have hlt := (mem_releases.mp h).2
          split at hcalled
          · simp at hcalled
          · exact absurd (called_mem_replayLog hcalled) hlt.ne

/-! ### Who has left -/

section

variable {slot : SessionSlot} {answer : Answer} {sessionId : String} {snapshot : ReadingSnapshot}

/-- Who is in the set of a session. -/
def SessionSlot.members (slot : SessionSlot) : List ℕ :=
  slot.subscribers.map SessionSubscriber.index

lemma mem_members_release {index index' : ℕ} :
    index' ∈ (slot.releaseSubscriber index).members ↔ index' ∈ slot.members ∧ index' ≠ index := by
  rw [SessionSlot.members, SessionSlot.members, releaseSubscriber_eq]
  simp only [List.mem_map, List.mem_filter, bne_iff_ne]
  constructor
  · rintro ⟨s, ⟨hs, hne⟩, rfl⟩
    exact ⟨⟨s, hs, rfl⟩, hne⟩
  · rintro ⟨⟨s, hs, rfl⟩, hne⟩
    exact ⟨s, ⟨hs, hne⟩, rfl⟩

lemma mem_members_deliver {subscriber : SessionSubscriber} {leaving : List ℕ} {index : ℕ} :
    index ∈ (slot.deliver sessionId subscriber snapshot leaving).members ↔
      index ∈ slot.members ∧ index ∉ leaving := by
  obtain ⟨registered, count, heq⟩ := deliver_eq slot sessionId subscriber snapshot leaving
  rw [SessionSlot.members, SessionSlot.members, heq]
  simp only [List.mem_map, List.mem_filter, decide_eq_true_eq]
  constructor
  · rintro ⟨s, ⟨hs, hne⟩, rfl⟩
    exact ⟨⟨s, hs, rfl⟩, hne⟩
  · rintro ⟨⟨s, hs, rfl⟩, hne⟩
    exact ⟨s, ⟨hs, hne⟩, rfl⟩

lemma mem_members_publishTo {subscriber : SessionSubscriber} {index : ℕ} :
    index ∈ (publishTo answer sessionId snapshot slot subscriber).members ↔
      index ∈ slot.members ∧ index ∉ answer.leaves subscriber.index snapshot ∧
        ¬(answer.throws subscriber.index snapshot = true ∧ index = subscriber.index) := by
  rw [publishTo]
  split
  · rename_i hthrows
    rw [mem_members_release, mem_members_deliver]
    simp only [hthrows, true_and, and_assoc, ne_eq]
  · rename_i hreturns
    rw [mem_members_deliver]
    simp only [hreturns, false_and, not_false_eq_true, and_true, Bool.false_eq_true]

/-- Who leaves in a publication is not in the set after it. -/
lemma mem_members_publish {index : ℕ} :
    index ∈ (slot.publish answer sessionId snapshot).members ↔
      index ∈ slot.members ∧ ∀ s ∈ slot.subscribers, index ∉ answer.leaves s.index snapshot ∧
        ¬(answer.throws s.index snapshot = true ∧ index = s.index) := by
  have key : ∀ (called : List SessionSubscriber) (slot : SessionSlot),
      index ∈ (called.foldl (publishTo answer sessionId snapshot) slot).members ↔
        index ∈ slot.members ∧ ∀ s ∈ called, index ∉ answer.leaves s.index snapshot ∧
          ¬(answer.throws s.index snapshot = true ∧ index = s.index) := by
    intro called
    induction called with
    | nil => simp
    | cons s called ih =>
        intro slot
        rw [List.foldl_cons, ih, mem_members_publishTo, List.forall_mem_cons, and_assoc]
  exact key slot.subscribers slot

lemma members_replay {subscriber : SessionSubscriber} {snapshots : List ReadingSnapshot} {index : ℕ}
    (h : index ∈ (slot.replay answer sessionId subscriber snapshots).1.members) :
    index ∈ slot.members ∧ (.released index ∈ replayLog answer subscriber.index subscriber.command
      snapshots → index = subscriber.index ∧
        (slot.replay answer sessionId subscriber snapshots).2 = false) := by
  induction snapshots generalizing slot with
  | nil => exact ⟨h, fun hreleased => by cases hreleased⟩
  | cons snapshot rest ih =>
      rw [SessionSlot.replay] at h ⊢
      rw [replayLog]
      split at h
      · rename_i hold
        rw [if_pos hold, if_pos hold]
        exact ih h
      · rename_i hnew
        rw [if_neg hnew, if_neg hnew]
        dsimp only at h ⊢
        have hleaves : index ∈ (slot.deliver sessionId subscriber snapshot
            ((answer.leaves subscriber.index snapshot).filter (· ≠ subscriber.index))).members →
            index ∈ slot.members ∧ .released index ∉
              releases subscriber.index (answer.leaves subscriber.index snapshot) := by
          intro hmem
          obtain ⟨hmem, hstays⟩ := mem_members_deliver.mp hmem
          refine ⟨hmem, fun hreleased => hstays ?_⟩
          obtain ⟨hleaving, hlt⟩ := mem_releases.mp hreleased
          exact List.mem_filter.mpr ⟨hleaving, by simpa using hlt.ne⟩
        cases hthrows : answer.throws subscriber.index snapshot with
        | true =>
            rw [hthrows, if_pos rfl] at h
            obtain ⟨hmem, hstays⟩ := hleaves h
            refine ⟨hmem, fun hreleased => ?_⟩
            rw [if_pos rfl, List.mem_cons, List.mem_append, List.mem_singleton] at hreleased
            rcases hreleased with heq | hreleased | heq
            · cases heq
            · exact absurd hreleased hstays
            · exact ⟨Occurrence.released.inj heq, by rw [if_pos rfl]⟩
        | false =>
            rw [hthrows, if_neg Bool.false_ne_true] at h
            obtain ⟨hmem, hrest⟩ := ih h
            obtain ⟨hmem, hstays⟩ := hleaves hmem
            refine ⟨hmem, fun hreleased => ?_⟩
            rw [if_neg Bool.false_ne_true, List.mem_cons, List.mem_append] at hreleased
            rw [if_neg Bool.false_ne_true]
            rcases hreleased with heq | hreleased | hreleased
            · cases heq
            · exact absurd hreleased hstays
            · exact hrest hreleased

/-- Who leaves while a subscriber is added is not in the set after it. -/
lemma members_addSubscriber {listener : ℕ} {command : SessionResumeCommand} {record : SessionRecord}
    {index : ℕ}
    (h : index ∈ (addSubscriber answer sessionId listener command record slot).1.members) :
    (index ∈ slot.members ∨ index = slot.subscriptions) ∧
      .released index ∉ replayLog answer slot.subscriptions command record.snapshots := by
  rw [addSubscriber] at h
  dsimp only at h
  set subscriber : SessionSubscriber :=
    ⟨slot.subscriptions, command.requestId, listener, command, record⟩ with hsubscriber
  set added : SessionSlot :=
    { slot with
      registered := true
      subscribers := slot.subscribers ++ [subscriber]
      subscriberCount := slot.subscriberCount + 1
      subscriptions := slot.subscriptions + 1 } with hadded
  have hmembers : ∀ index, index ∈ added.members ↔
      index ∈ slot.members ∨ index = slot.subscriptions := by
    intro index
    rw [hadded, SessionSlot.members, List.map_append, List.mem_append, hsubscriber]
    simp [SessionSlot.members]
  cases hreplay : added.replay answer sessionId subscriber record.snapshots with
  | mk replayed complete =>
      have hreplayed : index ∈ replayed.members → (index ∈ added.members ∧
          (.released index ∈ replayLog answer slot.subscriptions command record.snapshots →
            index = slot.subscriptions ∧ complete = false)) := by
        intro hmem
        have hall := @members_replay added answer sessionId subscriber record.snapshots index
        rw [hreplay] at hall
        exact hall hmem
      rw [hreplay] at h
      cases complete with
      | true =>
          obtain ⟨hadd, hstays⟩ := hreplayed h
          exact ⟨(hmembers index).mp hadd, fun hreleased => by cases (hstays hreleased).2⟩
      | false =>
          obtain ⟨hmem, hne⟩ := mem_members_release.mp h
          obtain ⟨hadd, hstays⟩ := hreplayed hmem
          exact ⟨(hmembers index).mp hadd, fun hreleased => hne (hstays hreleased).1⟩

lemma subscriptions_addSubscriber (listener : ℕ) (command : SessionResumeCommand)
    (record : SessionRecord) :
    (addSubscriber answer sessionId listener command record slot).1.subscriptions
      = slot.subscriptions + 1 := by
  obtain ⟨after, outcome, heq, -, -, -, hsubscriptions, -⟩ :=
    addSubscriber_cases answer sessionId listener command record slot
  rw [heq]
  exact hsubscriptions

/-! ### Segments -/

/-- What has happened so far fits the set: who has left is not in it. -/
structure Departed (log : List Occurrence) (slot : SessionSlot) : Prop where
  made : ∀ index, .released index ∈ log → index < slot.subscriptions
  gone : ∀ index, .released index ∈ log → index ∉ slot.members

lemma Departed.congr {log : List Occurrence} {after : SessionSlot} (h : Departed log slot)
    (hsame : SameStreams slot after) : Departed log after := by
  refine ⟨fun index hreleased => ?_, fun index hreleased => ?_⟩
  · rw [hsame.subscriptions]
    exact h.made index hreleased
  · rw [SessionSlot.members, hsame.subscribers]
    exact h.gone index hreleased

lemma Departed.unsubscribe {log : List Occurrence} (h : Departed log slot) (index : ℕ) :
    Departed (log ++ releases slot.subscriptions [index]) (slot.releaseSubscriber index) := by
  have hsubscriptions : (slot.releaseSubscriber index).subscriptions = slot.subscriptions := by
    rw [releaseSubscriber_eq]
  refine ⟨fun index' hreleased => ?_, fun index' hreleased hmem => ?_⟩
  · rw [hsubscriptions]
    rcases List.mem_append.mp hreleased with hreleased | hreleased
    · exact h.made index' hreleased
    · exact (mem_releases.mp hreleased).2
  · obtain ⟨hmem, hne⟩ := mem_members_release.mp hmem
    rcases List.mem_append.mp hreleased with hreleased | hreleased
    · exact h.gone index' hreleased hmem
    · exact hne (List.mem_singleton.mp (mem_releases.mp hreleased).1)

lemma Departed.publish {log : List Occurrence} (h : Departed log slot) (hcount : Counted slot)
    (sessionId : String) (answer : Answer) (snapshot : ReadingSnapshot) :
    Departed (log ++ slot.subscribers.flatMap fun s =>
        callLog answer slot.subscriptions snapshot s.index)
      (slot.publish answer sessionId snapshot) := by
  have hsubscriptions : (slot.publish answer sessionId snapshot).subscriptions
      = slot.subscriptions := by
    obtain ⟨stay, registered, count, heq⟩ := publish_eq answer sessionId snapshot slot
    rw [heq]
  refine ⟨fun index hreleased => ?_, fun index hreleased hmem => ?_⟩
  · rw [hsubscriptions]
    rcases List.mem_append.mp hreleased with hreleased | hreleased
    · exact h.made index hreleased
    · obtain ⟨s, hs, hreleased⟩ := List.mem_flatMap.mp hreleased
      rcases released_mem_callLog.mp hreleased with ⟨-, hlt⟩ | ⟨-, rfl⟩
      · exact hlt
      · exact hcount.made s hs
  · obtain ⟨hmem, hstays⟩ := mem_members_publish.mp hmem
    rcases List.mem_append.mp hreleased with hreleased | hreleased
    · exact h.gone index hreleased hmem
    · obtain ⟨s, hs, hreleased⟩ := List.mem_flatMap.mp hreleased
      rcases released_mem_callLog.mp hreleased with ⟨hleaves, -⟩ | hthrows
      · exact (hstays s hs).1 hleaves
      · exact (hstays s hs).2 hthrows

lemma released_mem_replayLog {index index' : ℕ} {command : SessionResumeCommand}
    {snapshots : List ReadingSnapshot}
    (h : .released index' ∈ replayLog answer index command snapshots) : index' ≤ index := by
  induction snapshots with
  | nil => cases h
  | cons snapshot rest ih =>
      rw [replayLog] at h
      split at h
      · exact ih h
      · rcases List.mem_cons.mp h with heq | h
        · cases heq
        · rcases List.mem_append.mp h with h | h
          · exact (mem_releases.mp h).2.le
          · split at h
            · exact le_of_eq (Occurrence.released.inj (List.mem_singleton.mp h))
            · exact ih h

lemma Departed.addSubscriber {log : List Occurrence} (h : Departed log slot)
    (sessionId : String) (answer : Answer) (listener : ℕ) (command : SessionResumeCommand)
    (record : SessionRecord) :
    Departed (log ++ replayLog answer slot.subscriptions command record.snapshots)
      (addSubscriber answer sessionId listener command record slot).1 := by
  refine ⟨fun index hreleased => ?_, fun index hreleased hmem => ?_⟩
  · rw [subscriptions_addSubscriber]
    rcases List.mem_append.mp hreleased with hreleased | hreleased
    · exact Nat.lt_succ_of_lt (h.made index hreleased)
    · exact Nat.lt_succ_of_le (released_mem_replayLog hreleased)
  · obtain ⟨hbefore, hstays⟩ := members_addSubscriber hmem
    rcases List.mem_append.mp hreleased with hreleased | hreleased
    · rcases hbefore with hbefore | rfl
      · exact h.gone index hreleased hbefore
      · exact absurd (h.made _ hreleased) (lt_irrefl _)
    · exact hstays hreleased

/-- An operation whose next segment is none of those in which subscribers come, go or are
called. -/
def Frame.LeavesSubscribers : Frame → Prop
  | .publish _ _ true => False
  | .subscribeRead _ _ (some _) => False
  | .deleteDone _ true => False
  | _ => True

lemma SameStreams.of_eq {after : SessionSlot} (h : after = slot) : SameStreams slot after := by
  rw [h]
  exact ⟨rfl, rfl, rfl⟩

lemma proceed_sameStreams (options : ServiceOptions) (sessionId : String) {frame : Frame}
    (hframe : frame.LeavesSubscribers) (answer : Answer) (slot : SessionSlot) :
    SameStreams slot (proceed options sessionId frame answer slot).1 := by
  cases frame with
  | create command =>
      rw [proceed]
      split
      · exact ⟨rfl, rfl, rfl⟩
      · exact .of_eq rfl
  | createStore command runtime =>
      rw [proceed]
      split
      · split
        · exact ⟨rfl, rfl, rfl⟩
        · exact ⟨rfl, rfl, rfl⟩
      · exact ⟨rfl, rfl, rfl⟩
  | createDone command runtime => exact ⟨rfl, rfl, rfl⟩
  | get command => exact .of_eq (read_fst _ _ _)
  | getRead command record => cases record <;> exact .of_eq rfl
  | reset caller command =>
      rw [proceed]
      split
      · exact .of_eq rfl
      · rename_i runtime hruntime
        split
        · exact .of_eq rfl
        · rw [settleUpdate_fst]
          exact update_same _ _ fun record => resetRecord_same caller command runtime slot record
  | submit caller requestId o =>
      rw [proceed, settleUpdate_fst]
      exact update_same _ _ fun record => submitRecord_same caller sessionId o slot record
  | publish requestId snapshot changed =>
      cases changed with
      | false => exact .of_eq rfl
      | true => cases hframe
  | resume command => exact .of_eq (read_fst _ _ _)
  | resumeRead command record => cases record <;> exact .of_eq rfl
  | subscribe listener command => exact .of_eq (read_fst _ _ _)
  | subscribeRead listener command record =>
      cases record with
      | none => exact .of_eq rfl
      | some record => cases hframe
  | delete command =>
      rw [proceed]
      split
      · exact ⟨rfl, rfl, rfl⟩
      · exact .of_eq rfl
  | deleteDone command deleted =>
      cases deleted with
      | false => exact .of_eq rfl
      | true => cases hframe

lemma segmentLog_of_leaves {frame : Frame} (hframe : frame.LeavesSubscribers) (answer : Answer)
    (slot : SessionSlot) : segmentLog frame answer slot = [] ∧
      ConsiderateSegment frame answer slot := by
  cases frame with
  | publish requestId snapshot changed =>
      cases changed with
      | false => exact ⟨rfl, trivial⟩
      | true => cases hframe
  | subscribeRead listener command record =>
      cases record with
      | none => exact ⟨rfl, trivial⟩
      | some record => cases hframe
  | deleteDone command deleted =>
      cases deleted with
      | false => exact ⟨rfl, trivial⟩
      | true => cases hframe
  | _ => exact ⟨rfl, trivial⟩

/-- The calls of a publication are calls of members. -/
lemma called_mem_publish {index : ℕ}
    (h : .called index ∈ slot.subscribers.flatMap fun s =>
      callLog answer slot.subscriptions snapshot s.index) : index ∈ slot.members := by
  obtain ⟨s, hs, hcalled⟩ := List.mem_flatMap.mp h
  rw [called_mem_callLog.mp hcalled]
  exact List.mem_map_of_mem hs

/-- **A segment is silent exactly when it is considerate**, and who leaves in it is gone. -/
theorem segment_silent (options : ServiceOptions) (sessionId : String) {log : List Occurrence}
    (h : Departed log slot) (hcount : Counted slot) (hsilent : Silent log) (frame : Frame)
    (answer : Answer) :
    Departed (log ++ segmentLog frame answer slot)
        (proceed options sessionId frame answer slot).1 ∧
      (Silent (log ++ segmentLog frame answer slot) ↔ ConsiderateSegment frame answer slot) := by
  by_cases hframe : frame.LeavesSubscribers
  · have hlog := segmentLog_of_leaves hframe answer slot
    rw [hlog.1, List.append_nil]
    exact ⟨h.congr (proceed_sameStreams options sessionId hframe answer slot),
      iff_of_true hsilent hlog.2⟩
  · cases frame with
    | publish requestId snapshot changed =>
        cases changed with
        | false => exact absurd trivial hframe
        | true =>
            refine ⟨h.publish hcount sessionId answer snapshot, ?_⟩
            -- a publication is silent in itself when each listener spares those not called yet
            have hpublish := @silent_publish answer slot.subscriptions snapshot slot.members
              hcount.distinct fun index hindex => by
                obtain ⟨s, hs, rfl⟩ := List.mem_map.mp hindex
                exact hcount.made s hs
            rw [SessionSlot.members, List.flatMap_map, List.pairwise_map] at hpublish
            rw [segmentLog, ConsiderateSegment, silent_append, hpublish]
            refine ⟨fun hall => hall.2.1, fun hall => ⟨hsilent, hall, fun index hreleased => ?_⟩⟩
            exact fun hcalled => h.gone index hreleased (called_mem_publish hcalled)
    | subscribeRead listener command record =>
        cases record with
        | none => exact absurd trivial hframe
        | some record =>
            rw [proceed, segmentLog]
            split
            · rw [List.append_nil]
              exact ⟨h, iff_of_true hsilent trivial⟩
            · refine ⟨h.addSubscriber sessionId answer listener command record,
                iff_of_true (silent_append.mpr ⟨hsilent, silent_replay _ _ _ _, ?_⟩) trivial⟩
              intro index hreleased hcalled
              -- the replay calls the new subscriber only, which has not left
              exact absurd (called_mem_replayLog hcalled) (h.made index hreleased).ne
    | deleteDone command deleted =>
        cases deleted with
        | false => exact absurd trivial hframe
        | true =>
            -- a deletion releases all and calls nobody
            have hnone : ∀ index, .called index ∉ slot.subscribers.map fun s =>
                Occurrence.released s.index := by simp
            refine ⟨⟨fun index hreleased => ?_, fun index _ hmem => by cases hmem⟩,
              iff_of_true (silent_append.mpr ⟨hsilent, silent_of_not_called hnone, ?_⟩) trivial⟩
            · rcases List.mem_append.mp hreleased with hreleased | hreleased
              · exact h.made index hreleased
              · obtain ⟨s, hs, heq⟩ := List.mem_map.mp hreleased
                rw [← Occurrence.released.inj heq]
                exact hcount.made s hs
            · exact fun index _ hcalled => hnone index hcalled
    | _ => exact absurd trivial hframe

/-! ### Calls -/

/-- The calls among what happens. -/
def calls (log : List Occurrence) : List ℕ :=
  log.filterMap fun
    | .called index => some index
    | .released _ => none

lemma calls_append (log log' : List Occurrence) : calls (log ++ log') = calls log ++ calls log' :=
  List.filterMap_append

lemma calls_called (index : ℕ) (log : List Occurrence) :
    calls (.called index :: log) = index :: calls log := rfl

lemma calls_of_not_called {log : List Occurrence} (h : ∀ index, .called index ∉ log) :
    calls log = [] := by
  refine List.filterMap_eq_nil_iff.mpr fun o ho => ?_
  cases o with
  | called index => exact absurd ho (h index)
  | released index => rfl

lemma calls_callLog (made index : ℕ) : calls (callLog answer made snapshot index) = [index] := by
  have hnone : calls (releases made (answer.leaves index snapshot) ++
      if answer.throws index snapshot then [.released index] else []) = [] := by
    refine calls_of_not_called fun index' hcalled => ?_
    rcases List.mem_append.mp hcalled with hcalled | hcalled
    · exact called_notMem_releases hcalled
    · split at hcalled <;> simp at hcalled
  rw [callLog, calls_called, hnone]

lemma delivered_replay (subscriber : SessionSubscriber) (snapshots : List ReadingSnapshot)
    (slot : SessionSlot) :
    (slot.replay answer sessionId subscriber snapshots).1.delivered.map Prod.fst
      = slot.delivered.map Prod.fst
        ++ calls (replayLog answer subscriber.index subscriber.command snapshots) := by
  induction snapshots generalizing slot with
  | nil => exact (List.append_nil _).symm
  | cons snapshot rest ih =>
      rw [SessionSlot.replay, replayLog]
      split
      · exact ih slot
      · have hnone :
            calls (releases subscriber.index (answer.leaves subscriber.index snapshot)) = [] :=
          calls_of_not_called fun _ => called_notMem_releases
        obtain ⟨registered, count, hdeliver⟩ := deliver_eq slot sessionId subscriber snapshot
          ((answer.leaves subscriber.index snapshot).filter (· ≠ subscriber.index))
        have hdelivered : (slot.deliver sessionId subscriber snapshot ((answer.leaves
            subscriber.index snapshot).filter (· ≠ subscriber.index))).delivered.map Prod.fst
              = slot.delivered.map Prod.fst ++ [subscriber.index] := by
          rw [hdeliver]
          dsimp only
          rw [List.map_append]
          rfl
        rw [calls_called, calls_append, hnone, List.nil_append]
        dsimp only
        split
        · exact hdelivered
        · rw [ih, hdelivered, List.append_assoc]
          rfl

/-- The calls of a segment are the events it delivers. -/
lemma segment_calls (options : ServiceOptions) (sessionId : String) (frame : Frame)
    (answer : Answer) (slot : SessionSlot) :
    (proceed options sessionId frame answer slot).1.delivered.map Prod.fst
      = slot.delivered.map Prod.fst ++ calls (segmentLog frame answer slot) := by
  by_cases hframe : frame.LeavesSubscribers
  · rw [(proceed_sameStreams options sessionId hframe answer slot).delivered,
      (segmentLog_of_leaves hframe answer slot).1]
    exact (List.append_nil _).symm
  · cases frame with
    | publish requestId snapshot changed =>
        cases changed with
        | false => exact absurd trivial hframe
        | true =>
            obtain ⟨stay, registered, count, heq⟩ := publish_eq answer sessionId snapshot slot
            have hcalls : ∀ called : List SessionSubscriber, calls (called.flatMap fun s =>
                callLog answer slot.subscriptions snapshot s.index)
                  = called.map SessionSubscriber.index := by
              intro called
              induction called with
              | nil => rfl
              | cons s called ih => rw [List.flatMap_cons, calls_append, calls_callLog, ih]; rfl
            rw [segmentLog, hcalls]
            show (slot.publish answer sessionId snapshot).delivered.map Prod.fst = _
            rw [heq, List.map_append, List.map_map]
            rfl
    | subscribeRead listener command record =>
        cases record with
        | none => exact absurd trivial hframe
        | some record =>
            rw [proceed, segmentLog]
            split
            · exact (List.append_nil _).symm
            · rw [addSubscriber]
              dsimp only
              set subscriber : SessionSubscriber :=
                ⟨slot.subscriptions, command.requestId, listener, command, record⟩
              set added : SessionSlot :=
                { slot with
                  registered := true
                  subscribers := slot.subscribers ++ [subscriber]
                  subscriberCount := slot.subscriberCount + 1
                  subscriptions := slot.subscriptions + 1 }
              have hreplay := @delivered_replay answer sessionId subscriber record.snapshots added
              split
              · rename_i replayed heq
                rw [heq] at hreplay
                exact hreplay
              · rename_i replayed heq
                rw [heq] at hreplay
                rw [rejectWith, releaseSubscriber_eq]
                exact hreplay
    | deleteDone command deleted =>
        cases deleted with
        | false => exact absurd trivial hframe
        | true =>
            rw [segmentLog, calls_of_not_called (by simp)]
            exact (List.append_nil _).symm
    | _ => exact absurd trivial hframe

end

/-! ### Runs -/

/-- What an action does to the slot of a session. -/
lemma slot_step (options : ServiceOptions) (s : Service) (sessionId : String)
    (action : ServiceAction) :
    match sessionEvent options s sessionId action with
    | some (.inl (frame, answer)) => (s.step options action).slot sessionId
        = (proceed options sessionId frame answer (s.slot sessionId)).1
    | some (.inr index) => (s.step options action).slot sessionId
        = (s.slot sessionId).releaseSubscriber index
    | none => SameStreams (s.slot sessionId) ((s.step options action).slot sessionId) := by
  -- all actions but a creation are one action of the queue
  have hone : ∀ queueAction : Action String Frame Answer Change,
      s.queueActions options action = [queueAction] →
      (s.step options action).slot sessionId = ((s.eventAt queueAction sessionId).elim
        (s.slot sessionId) (Event.after (program options) sessionId (s.slot sessionId))) := by
    intro queueAction hactions
    rw [Service.step, hactions, ← State.slot_step]
    rfl
  cases action with
  | create key command =>
      show SameStreams (s.slot sessionId)
        ((s.step options (.create key command)).slot sessionId)
      rw [Service.step, Service.queueActions]
      split
      · exact .of_eq rfl
      -- a reservation and a call change nothing of the subscribers
      · have hslot : (State.run (program options) s
            [.touch key .reserve, .call key (.create command)]).slot sessionId
              = ((s.eventAt (.touch key .reserve) sessionId).elim (s.slot sessionId)
                (Event.after (program options) sessionId (s.slot sessionId))) :=
          State.slot_step (program options) s (.touch key .reserve) sessionId
        rw [hslot, State.eventAt, State.event, Option.bind_some]
        split
        · exact ⟨rfl, rfl, rfl⟩
        · exact .of_eq rfl
  | submit caller command =>
      show SameStreams (s.slot sessionId)
        ((s.step options (.submit caller command)).slot sessionId)
      rw [Service.step, Service.queueActions]
      split
      · exact .of_eq rfl
      · split
        · exact .of_eq rfl
        · exact .of_eq rfl
  | unsubscribe key index =>
      have hslot := hone _ rfl
      rw [State.eventAt, State.event, Option.bind_some] at hslot
      rw [sessionEvent]
      by_cases hkey : key = sessionId
      · rw [if_pos hkey] at hslot ⊢
        exact hslot
      · rw [if_neg hkey] at hslot ⊢
        exact .of_eq hslot
  | proceed ticket answer =>
      have hslot := hone _ rfl
      rw [State.eventAt, State.event] at hslot
      rw [sessionEvent]
      cases hentry : s.entries[ticket]? with
      | none =>
          rw [hentry] at hslot
          exact .of_eq hslot
      | some entry =>
          rw [hentry] at hslot
          obtain ⟨key, call, previous, phase⟩ := entry
          cases phase with
          | running frame =>
              rw [Option.bind_some] at hslot
              dsimp only at hslot ⊢
              by_cases hkey : key = sessionId
              · rw [if_pos hkey] at hslot ⊢
                exact hslot
              · rw [if_neg hkey] at hslot ⊢
                exact .of_eq hslot
          | _ => exact .of_eq hslot
  | start ticket => exact .of_eq (hone _ rfl)
  | drain ticket => exact .of_eq (hone _ rfl)
  | clean ticket => exact .of_eq (hone _ rfl)
  | _ => exact .of_eq rfl

lemma run_concat (options : ServiceOptions) (actions : List ServiceAction)
    (action : ServiceAction) :
    Service.run options State.empty (actions ++ [action])
      = (Service.run options State.empty actions).step options action := by
  rw [Service.run, List.foldl_append]
  rfl

lemma trace_concat (options : ServiceOptions) (sessionId : String) (s : Service)
    (actions : List ServiceAction) (action : ServiceAction) :
    trace options sessionId s (actions ++ [action]) = trace options sessionId s actions
      ++ occurrences options (Service.run options s actions) sessionId action := by
  induction actions generalizing s with
  | nil => simp [trace, Service.run]
  | cons first rest ih =>
      rw [List.cons_append, trace, trace, ih, List.append_assoc]
      rfl

/-- **The calls of a trace** are the events a session has delivered, in their order. -/
theorem trace_calls (options : ServiceOptions) (sessionId : String)
    (actions : List ServiceAction) :
    calls (trace options sessionId State.empty actions)
      = ((Service.run options State.empty actions).slot sessionId).delivered.map Prod.fst := by
  induction actions using List.reverseRecOn with
  | nil => rfl
  | append_singleton actions action ih =>
      have hslot := slot_step options (Service.run options State.empty actions) sessionId action
      rw [trace_concat, run_concat, calls_append, ih, occurrences]
      cases hevent : sessionEvent options (Service.run options State.empty actions) sessionId
          action with
      | none =>
          rw [hevent] at hslot
          rw [hslot.delivered]
          exact List.append_nil _
      | some event =>
          rw [hevent] at hslot
          cases event with
          | inl segment =>
              dsimp only at hslot ⊢
              rw [hslot, segment_calls]
          | inr index =>
              dsimp only at hslot ⊢
              rw [hslot, releaseSubscriber_eq,
                calls_of_not_called fun _ => called_notMem_releases, List.append_nil]

/-- One action of a run. -/
lemma silent_step (options : ServiceOptions) {s : Service} (sessionId : String)
    {log : List Occurrence} (h : Departed log (s.slot sessionId))
    (hcount : Counted (s.slot sessionId)) (hsilent : Silent log) (action : ServiceAction) :
    Departed (log ++ occurrences options s sessionId action)
        ((s.step options action).slot sessionId) ∧
      (Silent (log ++ occurrences options s sessionId action) ↔
        Considerate options s sessionId action) := by
  have hslot := slot_step options s sessionId action
  rw [occurrences, Considerate]
  cases hevent : sessionEvent options s sessionId action with
  | none =>
      rw [hevent] at hslot
      rw [List.append_nil]
      exact ⟨h.congr hslot, iff_of_true hsilent trivial⟩
  | some event =>
      rw [hevent] at hslot
      cases event with
      | inl segment =>
          obtain ⟨frame, answer⟩ := segment
          dsimp only at hslot ⊢
          rw [hslot]
          exact segment_silent options sessionId h hcount hsilent frame answer
      | inr index =>
          dsimp only at hslot ⊢
          rw [hslot]
          refine ⟨h.unsubscribe index, iff_of_true (silent_append.mpr ⟨hsilent,
            silent_of_not_called fun _ => called_notMem_releases, ?_⟩) trivial⟩
          exact fun _ _ => called_notMem_releases

/-- **Calls after release.** In a run of a service the calls of listeners are the events the
session has delivered, and no listener is called after its subscriber has left, exactly when no
listener called in a publication makes a subscriber leave that the publication has yet to call. -/
theorem silent_after_release (options : ServiceOptions) (sessionId : String)
    (actions : List ServiceAction) :
    calls (trace options sessionId State.empty actions)
        = ((Service.run options State.empty actions).slot sessionId).delivered.map Prod.fst ∧
      (Silent (trace options sessionId State.empty actions) ↔
        ∀ (before : List ServiceAction) (action : ServiceAction) (after : List ServiceAction),
          actions = before ++ action :: after →
          Considerate options (Service.run options State.empty before) sessionId action) := by
  refine ⟨trace_calls options sessionId actions, ?_⟩
  have key : (Silent (trace options sessionId State.empty actions) ↔
      ∀ before action after, actions = before ++ action :: after →
        Considerate options (Service.run options State.empty before) sessionId action) ∧
      (Silent (trace options sessionId State.empty actions) →
        Departed (trace options sessionId State.empty actions)
          ((Service.run options State.empty actions).slot sessionId)) := by
    induction actions using List.reverseRecOn with
    | nil =>
        refine ⟨iff_of_true .nil fun before action after heq => ?_, fun _ => ⟨?_, ?_⟩⟩
        · exact absurd heq (by simp)
        · exact fun index hreleased => by cases hreleased
        · exact fun index hreleased => by cases hreleased
    | append_singleton actions action ih =>
        obtain ⟨hiff, hdeparted⟩ := ih
        have hcount := counted_run options actions sessionId
        have hstep := fun hsilent =>
          silent_step options sessionId (hdeparted hsilent) hcount hsilent action
        rw [trace_concat, run_concat]
        refine ⟨⟨fun hsilent before action' after heq => ?_, fun hall => ?_⟩, fun hsilent => ?_⟩
        · have hbefore := (silent_append.mp hsilent).1
          rcases List.eq_nil_or_concat after with rfl | ⟨init, last, rfl⟩
          · obtain ⟨rfl, hlast⟩ := List.append_inj' heq rfl
            cases hlast
            exact (hstep hbefore).2.mp hsilent
          · rw [List.concat_eq_append, ← List.cons_append, ← List.append_assoc] at heq
            obtain ⟨rfl, -⟩ := List.append_inj' heq rfl
            exact hiff.mp hbefore before action' init rfl
        · have hbefore := hiff.mpr fun before action' after heq =>
            hall before action' (after ++ [action]) (by rw [heq]; simp)
          exact (hstep hbefore).2.mpr (hall actions action [] rfl)
        · exact (hstep (silent_append.mp hsilent).1).1
  exact key.1

/-- Two subscribers and a publication. The first listener makes the second subscriber leave. -/
def inconsiderate : List ServiceAction :=
  [createSample] ++ serveSample 0 3
    ++ [.subscribe 0 ⟨"r", "A", 0⟩] ++ serveSample 1 2
    ++ [.subscribe 1 ⟨"r", "A", 0⟩] ++ serveSample 2 2
    ++ [.submit 0 (sampleCommand "a" 1 ["p0"]), .start 3, .proceed 3 {},
      .proceed 3 { leaves := fun index _ => if index = 0 then [1] else [] }]

/-- The options of a service with room for two subscribers. -/
def pairOptions : ServiceOptions := ⟨some (sampleCorpus 5), false, 1, 2⟩

/-- The second listener is called after its subscriber has left. -/
theorem called_after_release :
    trace pairOptions "A" State.empty inconsiderate = [.called 0, .released 1, .called 1] ∧
      ¬Silent (trace pairOptions "A" State.empty inconsiderate) := by
  have htrace : trace pairOptions "A" State.empty inconsiderate
      = [.called 0, .released 1, .called 1] := by decide +kernel
  refine ⟨htrace, fun hsilent => ?_⟩
  rw [htrace, silent_called] at hsilent
  exact (List.pairwise_cons.mp hsilent).1 (.called 1) (by simp) 1 rfl rfl

end Qaraa.SessionService
