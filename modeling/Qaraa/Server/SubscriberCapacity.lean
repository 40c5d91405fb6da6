import Qaraa.Library.Totals
import Qaraa.Server.SessionInvariant

/-!
The subscriber capacity of a service: the counter, the sets and what is registered.

* `Counted`: a session counts its subscribers, tells them apart, and has a set registered
  exactly when somebody is in it.
* `Counted.release`, `Counted.publish`, `Counted.addSubscriber`: the four ways a subscriber
  leaves release it once, in whatever order they come.
* `proceed_subscriberStep`, `SubscriberStep.counted`, `SubscriberStep.size`: every segment keeps
  the count, and makes room only for one subscriber at a time, when the capacity is not exhausted.
* `subscriber_capacity`: **subscriber capacity accounting**.
-/

namespace Qaraa.SessionService

open Fallible Ordered KeyedQueue

/-! ### One session -/

/-- The subscribers of a session are counted. -/
structure Counted (slot : SessionSlot) : Prop where
  count : slot.subscriberCount = slot.subscribers.length
  registered : slot.registered = true ↔ slot.subscribers ≠ []
  distinct : (slot.subscribers.map SessionSubscriber.index).Nodup
  made : ∀ s ∈ slot.subscribers, s.index < slot.subscriptions

/-- The subscribers and their count are as before. -/
structure SameSubscribers (slot after : SessionSlot) : Prop where
  registered : after.registered = slot.registered
  subscribers : after.subscribers = slot.subscribers
  count : after.subscriberCount = slot.subscriberCount
  subscriptions : after.subscriptions = slot.subscriptions

section

variable {slot after : SessionSlot} {sessionId : String}

lemma SameSubscribers.refl (slot : SessionSlot) : SameSubscribers slot slot :=
  ⟨rfl, rfl, rfl, rfl⟩

lemma Counted.congr (h : Counted slot) (hsame : SameSubscribers slot after) : Counted after := by
  obtain ⟨hregistered, hsubscribers, hcount, hsubscriptions⟩ := hsame
  refine ⟨?_, ?_, ?_, ?_⟩
  · rw [hcount, hsubscribers, h.count]
  · rw [hregistered, hsubscribers, h.registered]
  · rw [hsubscribers]
    exact h.distinct
  · rw [hsubscribers, hsubscriptions]
    exact h.made

/-- One subscriber out of a set that tells them apart. -/
lemma length_filter_index {subscribers : List SessionSubscriber}
    (h : (subscribers.map SessionSubscriber.index).Nodup) {index : ℕ}
    (hmem : index ∈ subscribers.map SessionSubscriber.index) :
    (subscribers.filter fun s => s.index != index).length + 1 = subscribers.length := by
  have hmap : (subscribers.filter fun s => s.index != index).map SessionSubscriber.index
      = (subscribers.map SessionSubscriber.index).erase index := by
    rw [h.erase_eq_filter, List.filter_map]
    rfl
  have hlength := congrArg List.length hmap
  rw [List.length_map, List.length_erase_of_mem hmem, List.length_map] at hlength
  have hpos : 0 < subscribers.length := by
    rw [← List.length_map (f := SessionSubscriber.index)]
    exact List.length_pos_of_mem hmem
  omega

/-- **A subscriber is released once**: a second release finds nobody. -/
theorem Counted.release (h : Counted slot) (index : ℕ) :
    Counted (slot.releaseSubscriber index) := by
  rw [SessionSlot.releaseSubscriber]
  split
  · rename_i hany
    obtain ⟨s, hs, hindex⟩ := List.any_eq_true.mp hany
    have hlength := length_filter_index h.distinct
      (List.mem_map.mpr ⟨s, hs, of_decide_eq_true hindex⟩)
    have hregistered : slot.registered = true := h.registered.mpr (List.ne_nil_of_mem hs)
    refine ⟨?_, ?_, h.distinct.sublist (List.filter_sublist.map _), fun t ht =>
      h.made t (List.mem_of_mem_filter ht)⟩
    · dsimp only
      rw [h.count]
      omega
    · dsimp only
      rw [hregistered, Bool.true_and, bne_iff_ne, ne_eq, List.length_eq_zero_iff]
  · exact h

lemma Counted.releaseAll (h : Counted slot) (leaving : List ℕ) :
    Counted (leaving.foldl SessionSlot.releaseSubscriber slot) :=
  Loop.foldl_induction (P := fun _ slot => Counted slot) h fun _ index _ _ h => h.release index

lemma Counted.deliver (h : Counted slot) (sessionId : String) (subscriber : SessionSubscriber)
    (snapshot : ReadingSnapshot) (leaving : List ℕ) :
    Counted (slot.deliver sessionId subscriber snapshot leaving) := by
  have hcalled : Counted { slot with
      delivered := slot.delivered ++
        [(subscriber.index, SessionSlot.event sessionId subscriber.requestId snapshot)] } :=
    h.congr ⟨rfl, rfl, rfl, rfl⟩
  exact hcalled.releaseAll leaving

/-- A publication whose listeners throw and leave as they like. -/
lemma Counted.publish (h : Counted slot) (answer : Answer) (sessionId : String)
    (snapshot : ReadingSnapshot) : Counted (slot.publish answer sessionId snapshot) := by
  have hcalled : Counted (slot.subscribers.foldl (publishTo answer sessionId snapshot) slot) := by
    refine Loop.foldl_induction (P := fun _ slot => Counted slot) h ?_
    intro _ subscriber slot _ h
    have hdelivered := h.deliver sessionId subscriber snapshot
      (answer.leaves subscriber.index snapshot)
    rw [publishTo]
    split
    · exact hdelivered.release _
    · exact hdelivered
  refine ⟨hcalled.count, ?_, hcalled.distinct, hcalled.made⟩
  show (_ && _) = true ↔ _
  rw [Bool.and_eq_true, bne_iff_ne, ne_eq, List.length_eq_zero_iff]
  exact ⟨And.right, fun hne => ⟨hcalled.registered.mpr hne, hne⟩⟩

lemma Counted.replay (answer : Answer) (sessionId : String) (subscriber : SessionSubscriber)
    (snapshots : List ReadingSnapshot) (h : Counted slot) :
    Counted (slot.replay answer sessionId subscriber snapshots).1 := by
  induction snapshots generalizing slot with
  | nil => exact h
  | cons snapshot rest ih =>
      rw [SessionSlot.replay]
      split
      · exact ih h
      · have hdelivered := h.deliver sessionId subscriber snapshot
          ((answer.leaves subscriber.index snapshot).filter (· ≠ subscriber.index))
        dsimp only
        split
        · exact hdelivered
        · exact ih hdelivered

/-- A subscription, also one whose replay throws. -/
lemma Counted.addSubscriber (h : Counted slot) (answer : Answer) (sessionId : String)
    (listener : ℕ) (command : SessionResumeCommand) (record : SessionRecord) :
    Counted (addSubscriber answer sessionId listener command record slot).1 := by
  set subscriber : SessionSubscriber :=
    ⟨slot.subscriptions, command.requestId, listener, command, record⟩ with hsubscriber
  have hadded : Counted { slot with
      registered := true
      subscribers := slot.subscribers ++ [subscriber]
      subscriberCount := slot.subscriberCount + 1
      subscriptions := slot.subscriptions + 1 } := by
    refine ⟨?_, ?_, ?_, fun s hs => ?_⟩
    · dsimp only
      rw [h.count, List.length_append, List.length_singleton]
      push_cast
      rfl
    · simp
    · dsimp only
      rw [List.map_append, List.map_singleton, List.nodup_append]
      refine ⟨h.distinct, List.nodup_singleton _, fun i hi j hj hij => ?_⟩
      obtain ⟨s, hs, rfl⟩ := List.mem_map.mp hi
      have := h.made s hs
      rw [List.mem_singleton.mp hj, hsubscriber] at hij
      exact absurd hij (Nat.ne_of_lt this)
    · rcases List.mem_append.mp hs with hs | hs
      · exact Nat.lt_succ_of_lt (h.made s hs)
      · rw [List.mem_singleton.mp hs, hsubscriber]
        exact Nat.lt_succ_self _
  have hreplayed := hadded.replay answer sessionId subscriber record.snapshots
  rw [SessionService.addSubscriber]
  dsimp only
  rw [← hsubscriber]
  split
  · rename_i replayed heq
    rw [heq] at hreplayed
    exact hreplayed
  · rename_i replayed heq
    rw [heq] at hreplayed
    exact hreplayed.release _

/-! ### One segment -/

/-- What a segment does to the subscribers. -/
inductive SubscriberStep (sessionId : String) (answer : Answer) (slot : SessionSlot) :
    SessionSlot → Prop where
  | kept (after : SessionSlot) (same : SameSubscribers slot after) :
      SubscriberStep sessionId answer slot after
  | published (snapshot : ReadingSnapshot) :
      SubscriberStep sessionId answer slot (slot.publish answer sessionId snapshot)
  | subscribed (listener : ℕ) (command : SessionResumeCommand) (record : SessionRecord)
      (room : answer.full = false) :
      SubscriberStep sessionId answer slot
        (addSubscriber answer sessionId listener command record slot).1
  | cleared (after : SessionSlot) (registered : after.registered = false)
      (subscribers : after.subscribers = [])
      (count : after.subscriberCount = slot.subscriberCount - slot.subscribers.length) :
      SubscriberStep sessionId answer slot after

lemma resetRecord_subscribers (caller : ℕ) (command : SessionResetCommand)
    (runtime : SessionRuntime) (record : SessionRecord) :
    SameSubscribers slot (resetRecord caller command runtime slot record).1 := by
  rw [resetRecord]
  split
  · exact .refl slot
  · exact ⟨rfl, rfl, rfl, rfl⟩

lemma submitRecord_subscribers (caller : ℕ) (sessionId : String) (o : CheckedObservation)
    (record : SessionRecord) :
    SameSubscribers slot (submitRecord caller sessionId o slot record).1 := by
  rw [submitRecord]
  split
  · exact .refl slot
  · split
    · exact .refl slot
    · split
      · exact .refl slot
      · split
        · exact .refl slot
        · dsimp only
          split
          · exact ⟨rfl, rfl, rfl, rfl⟩
          · exact ⟨rfl, rfl, rfl, rfl⟩

lemma update_subscribers (verdict : StoreVerdict) {mutate : SessionRecord → Mutation}
    (hmutate : ∀ record, SameSubscribers slot (mutate record).1) :
    SameSubscribers slot (update verdict sessionId mutate slot).1 := by
  rw [update]
  split
  · exact .refl slot
  · rename_i record _
    have hsame := hmutate record
    cases verdict with
    | refused => exact .refl slot
    | failed => exact hsame
    | committed =>
        dsimp only
        generalize mutate record = mutation at hsame
        obtain ⟨changed, outcome⟩ := mutation
        cases outcome with
        | error error => exact hsame
        | ok result =>
            exact ⟨hsame.registered, hsame.subscribers, hsame.count, hsame.subscriptions⟩

/-- **What a segment does to the subscribers.** -/
theorem proceed_subscriberStep (options : ServiceOptions) (sessionId : String) (frame : Frame)
    (answer : Answer) (slot : SessionSlot) :
    SubscriberStep sessionId answer slot (proceed options sessionId frame answer slot).1 := by
  cases frame with
  | create command =>
      rw [proceed]
      split
      · exact .kept _ ⟨rfl, rfl, rfl, rfl⟩
      · exact .kept _ (.refl slot)
  | createStore command runtime =>
      rw [proceed]
      split
      · split
        · exact .kept _ ⟨rfl, rfl, rfl, rfl⟩
        · exact .kept _ ⟨rfl, rfl, rfl, rfl⟩
      · exact .kept _ ⟨rfl, rfl, rfl, rfl⟩
  | createDone command runtime => exact .kept _ ⟨rfl, rfl, rfl, rfl⟩
  | get command =>
      rw [proceed, read_fst]
      exact .kept _ (.refl slot)
  | getRead command record => cases record <;> exact .kept _ (.refl slot)
  | reset caller command =>
      rw [proceed]
      split
      · exact .kept _ (.refl slot)
      · rename_i runtime hruntime
        split
        · exact .kept _ (.refl slot)
        · rw [settleUpdate_fst]
          exact .kept _ (update_subscribers _ fun record =>
            resetRecord_subscribers caller command runtime record)
  | submit caller requestId o =>
      rw [proceed, settleUpdate_fst]
      exact .kept _ (update_subscribers _ fun record =>
        submitRecord_subscribers caller sessionId o record)
  | publish requestId snapshot changed =>
      rw [proceed]
      cases changed with
      | false => exact .kept _ (.refl slot)
      | true => exact .published snapshot
  | resume command =>
      rw [proceed, read_fst]
      exact .kept _ (.refl slot)
  | resumeRead command record => cases record <;> exact .kept _ (.refl slot)
  | subscribe listener command =>
      rw [proceed, read_fst]
      exact .kept _ (.refl slot)
  | subscribeRead listener command record =>
      cases record with
      | none => exact .kept _ (.refl slot)
      | some record =>
          rw [proceed]
          split
          · exact .kept _ (.refl slot)
          · rename_i hroom
            have hroom : answer.full = false := Bool.eq_false_of_not_eq_true hroom
            exact .subscribed listener command record hroom
  | delete command =>
      rw [proceed]
      split
      · exact .kept _ ⟨rfl, rfl, rfl, rfl⟩
      · exact .kept _ (.refl slot)
  | deleteDone command deleted =>
      cases deleted with
      | false => exact .kept _ (.refl slot)
      | true => exact .cleared _ rfl rfl rfl

lemma SubscriberStep.counted {answer : Answer} (hstep : SubscriberStep sessionId answer slot after)
    (h : Counted slot) : Counted after := by
  cases hstep with
  | kept _ same => exact h.congr same
  | published snapshot => exact h.publish answer sessionId snapshot
  | subscribed listener command record _ =>
      exact h.addSubscriber answer sessionId listener command record
  | cleared _ registered subscribers count =>
      refine ⟨?_, ?_, ?_, ?_⟩
      · rw [count, subscribers, h.count, sub_self]
        rfl
      · simp [registered, subscribers]
      · rw [subscribers]
        exact List.nodup_nil
      · intro s hs
        rw [subscribers] at hs
        cases hs

/-- Somebody new comes only where there is room. -/
lemma SubscriberStep.size {answer : Answer} (hstep : SubscriberStep sessionId answer slot after) :
    after.subscribers.length ≤ slot.subscribers.length ∨
      (answer.full = false ∧ after.subscribers.length ≤ slot.subscribers.length + 1) := by
  cases hstep with
  | kept _ same =>
      rw [same.subscribers]
      exact Or.inl (le_refl _)
  | published snapshot =>
      obtain ⟨stay, registered, count, heq⟩ := publish_eq answer sessionId snapshot slot
      rw [heq]
      exact Or.inl (List.length_filter_le _ _)
  | subscribed listener command record room =>
      obtain ⟨after, outcome, heq, -, -, -, -, -, sent, stay, -, -, hcases⟩ :=
        addSubscriber_cases answer sessionId listener command record slot
      have hfilter := List.length_filter_le stay slot.subscribers
      rw [heq]
      refine Or.inr ⟨room, ?_⟩
      rcases hcases with ⟨hsubscribers, -, -⟩ | ⟨hsubscribers, -⟩
      · rw [hsubscribers, List.length_append, List.length_singleton]
        omega
      · rw [hsubscribers]
        omega
  | cleared _ registered subscribers count =>
      rw [subscribers]
      exact Or.inl (Nat.zero_le _)

/-- The rule of the count: it holds at every moment. -/
lemma countedRule (options : ServiceOptions) (sessionId : String) :
    Rule (program options) sessionId Called Frame.IsCall Counted (fun _ => Counted)
      (fun _ _ => True) where
  call := fun _ _ _ h => h
  start := fun _ _ _ h => h
  next := fun _ frame answer slot _ _ h _ =>
    (proceed_subscriberStep options sessionId frame answer slot).counted h
  done := fun _ frame answer slot _ _ h _ =>
    ⟨(proceed_subscriberStep options sessionId frame answer slot).counted h, trivial⟩
  kept := fun _ _ _ _ _ _ _ _ => trivial
  touch := fun change slot _ h => by
    cases change with
    | reserve => exact h.congr ⟨rfl, rfl, rfl, rfl⟩
    | unsubscribe index => exact h.release index
  touchRunning := fun _ change slot _ h => by
    cases change with
    | reserve => exact h.congr ⟨rfl, rfl, rfl, rfl⟩
    | unsubscribe index => exact h.release index
  touchKept := fun _ _ _ _ _ => trivial

end

/-! ### Runs -/

lemma counted_default : Counted default := by
  refine ⟨rfl, ?_, List.nodup_nil, fun _ hs => by cases hs⟩
  show false = true ↔ ([] : List SessionSubscriber) ≠ []
  simp

lemma counted_run (options : ServiceOptions) (actions : List ServiceAction) (sessionId : String) :
    Counted ((Service.run options State.empty actions).slot sessionId) := by
  obtain ⟨-, hholds⟩ := run_rule (countedRule options sessionId) counted_default actions
  by_cases hrunning : ∃ y ∈ (Service.run options State.empty actions).queue sessionId, ∃ frame,
      y.2.phase = .running frame
  · obtain ⟨y, hy, frame, hphase⟩ := hrunning
    exact hholds.busy y hy frame hphase
  · exact hholds.idle fun y hy frame hphase => hrunning ⟨y, hy, frame, hphase⟩

/-- The number of subscribers of a session. -/
def SessionSlot.size (slot : SessionSlot) : ℤ := slot.subscribers.length

/-- The counter of the service is the number of all subscribers. -/
lemma subscriberCount_eq {s : Service} (h : ∀ sessionId, Counted (s.slot sessionId)) :
    s.subscriberCount = s.slotTotal SessionSlot.size := by
  refine congrArg List.sum (List.map_congr_left fun slot hslot => ?_)
  obtain ⟨⟨sessionId, _⟩, hmem, rfl⟩ := List.mem_map.mp hslot
  have hget := OrderedMap.get_eq_some_iff.mpr hmem
  have hcount := (h sessionId).count
  rw [State.slot, hget] at hcount
  exact hcount

section

variable {options : ServiceOptions} {s : Service}

/-- A queue action from outside makes nobody new a subscriber. -/
lemma size_touch (options : ServiceOptions) (s : Service) (sessionId : String) (change : Change) :
    (State.step (program options) s (.touch sessionId change)).slotTotal SessionSlot.size
      ≤ s.slotTotal SessionSlot.size := by
  have hsize : ((program options).touch sessionId change (s.slot sessionId)).size
      ≤ (s.slot sessionId).size := by
    cases change with
    | reserve => exact le_refl _
    | unsubscribe index =>
        show ((s.slot sessionId).releaseSubscriber index).size ≤ _
        rw [releaseSubscriber_eq]
        exact Int.ofNat_le.mpr (List.length_filter_le _ _)
  rw [State.slotTotal_touch (program options) rfl]
  omega

/-- An operation goes on with the capacity as it stands. -/
lemma size_proceed (hcount : s.subscriberCount = s.slotTotal SessionSlot.size)
    (h : s.slotTotal SessionSlot.size ≤ options.maxSubscribers) (ticket : ℕ) (answer : Answer) :
    (State.step (program options) s (.resume ticket (s.answering options answer))).slotTotal
      SessionSlot.size ≤ options.maxSubscribers := by
  rcases State.resume_totals (program options) s ticket (s.answering options answer) with
    heq | ⟨sessionId, call, previous, frame, -, hslots, -⟩
  · rw [heq]
    exact h
  · have hsize := (proceed_subscriberStep options sessionId frame (s.answering options answer)
      (s.slot sessionId)).size
    rw [hslots _ rfl]
    change _ - ((s.slot sessionId).subscribers.length : ℤ) + ((proceed options sessionId frame
      (s.answering options answer) (s.slot sessionId)).1.subscribers.length : ℤ) ≤ _
    rcases hsize with hless | ⟨hroom, hmore⟩
    · omega
    · have hfree : s.subscriberCount < options.maxSubscribers :=
        not_le.mp (of_decide_eq_false hroom)
      omega

/-- Every step stays within the capacity. -/
lemma size_step (hcount : s.subscriberCount = s.slotTotal SessionSlot.size)
    (h : s.slotTotal SessionSlot.size ≤ options.maxSubscribers) (action : ServiceAction) :
    (s.step options action).slotTotal SessionSlot.size ≤ options.maxSubscribers := by
  have hstep := step_cases options s action
  generalize Service.step options s action = after at hstep
  cases hstep with
  | refused => exact h
  | created sessionId command isCreate admitted =>
      exact (size_touch options s sessionId .reserve).trans h
  | called sessionId frame isCall isOther => exact h
  | quiet queueAction silent moves =>
      rw [(State.quiet_totals (program options) silent moves).1]
      exact h
  | proceeded ticket answer _ => exact size_proceed hcount h ticket answer
  | left sessionId index => exact (size_touch options s sessionId (.unsubscribe index)).trans h

lemma size_run (options : ServiceOptions) (actions : List ServiceAction) :
    (Service.run options State.empty actions).slotTotal SessionSlot.size
      ≤ options.maxSubscribers := by
  induction actions using List.reverseRecOn with
  | nil => exact Int.natCast_nonneg _
  | append_singleton actions action ih =>
      have hcount := subscriberCount_eq fun sessionId => counted_run options actions sessionId
      rw [Service.run, List.foldl_append]
      exact size_step hcount ih action

end

/-- **Subscriber capacity accounting.** In every state of a run of a service, whatever its
listeners throw and whoever leaves when: the counter is the sum of the sizes of the sets, it
is between `0` and `maxSubscribers`, and a set is registered exactly when it has somebody in
it, also while operations run. -/
theorem subscriber_capacity (options : ServiceOptions) (actions : List ServiceAction) :
    let s := Service.run options State.empty actions
    s.subscriberCount = (s.slots.values.map fun slot => (slot.subscribers.length : ℤ)).sum ∧
    0 ≤ s.subscriberCount ∧ s.subscriberCount ≤ options.maxSubscribers ∧
    ∀ sessionId, (s.slot sessionId).registered = true ↔ (s.slot sessionId).subscribers ≠ [] := by
  intro s
  have hcount : s.subscriberCount = s.slotTotal SessionSlot.size :=
    subscriberCount_eq fun sessionId => counted_run options actions sessionId
  refine ⟨hcount, ?_, ?_, fun sessionId => (counted_run options actions sessionId).registered⟩
  · rw [hcount]
    exact State.slotTotal_nonneg (fun slot => Int.natCast_nonneg _) s
  · rw [hcount]
    exact size_run options actions

end Qaraa.SessionService
