import Qaraa.Client.AdapterController

/-!
The controller follows the session.

* `pending`: the snapshots the queued microtasks can still apply.
* `EventStep`: what an event does, in cases; `eventStep`: every event goes one of these ways.
* `Follows`: the invariant. The snapshot shown is behind the one the session holds, applying
  what is pending closes the gap while the controller is connected, nothing is pending while it
  is not, and its subscription is the session's only one.
* `Follows.step`, `run_follows`: **every event keeps it**.
* `IsStale`: a microtask that will not change the snapshot any more; `run_microtasks`: the queue
  is first in, first out.
* `controller_converges`: what follows for the snapshot, the subscriptions and the close.
-/

namespace Qaraa.Client.AdapterController

open Newest

/-! ### The queue -/

/-- The snapshot a microtask can still apply, at a lifecycle revision. -/
def pendingAt (lifecycleRevision : ℕ) : Microtask → Option ReadingSnapshot
  | .accept next acceptedAt => if acceptedAt = lifecycleRevision then some next else none
  | .closeSession => none

/-- The snapshots the queued microtasks can still apply. -/
def pending (controller : AdapterController) : List ReadingSnapshot :=
  controller.microtasks.filterMap (pendingAt controller.lifecycleRevision)

/-- The microtask that closes the session. -/
def isCloseSession : Microtask → Bool
  | .closeSession => true
  | .accept _ _ => false

/-- The snapshots a controller accepts of one publication. -/
def accepted (controller : AdapterController) (next : ReadingSnapshot) : List ReadingSnapshot :=
  if next.revision ≤ controller.state.snapshot.revision then [] else [next]

lemma acceptSnapshot_eq (controller : AdapterController) (next : ReadingSnapshot) :
    controller.acceptSnapshot next = { controller with
      microtasks := controller.microtasks
        ++ (controller.accepted next).map (.accept · controller.lifecycleRevision) } := by
  rw [acceptSnapshot, accepted]
  split
  · simp
  · rfl

/-- What is accepted is what moves a register on, wherever the register has got to. -/
lemma newest_accepted (controller : AdapterController) (next : ReadingSnapshot)
    (writes : List ReadingSnapshot) :
    newest ReadingSnapshot.revision controller.state.snapshot (writes ++ controller.accepted next)
      = keepNewer ReadingSnapshot.revision
        (newest ReadingSnapshot.revision controller.state.snapshot writes) next := by
  rw [accepted]
  split
  · rename_i hle
    rw [List.append_nil, keepNewer_newest_of_le hle]
  · exact newest_concat _ _ _

/-- A publication is accepted once for every active subscription. -/
lemma publish_eq (controller : AdapterController) (next : ReadingSnapshot) :
    controller.publish next = { controller with
      session := controller.session.hold next
      microtasks := controller.microtasks ++ controller.session.active.flatMap fun _ =>
        (controller.accepted next).map (.accept · controller.lifecycleRevision) } := by
  have hfold : ∀ (l : List ℕ) (c : AdapterController),
      l.foldl (fun controller _ => controller.acceptSnapshot next) c = { c with
        microtasks := c.microtasks
          ++ l.flatMap fun _ => (c.accepted next).map (.accept · c.lifecycleRevision) } := by
    intro l
    induction l with
    | nil => simp
    | cons _ l ih =>
        intro c
        rw [List.foldl_cons, ih, acceptSnapshot_eq, List.flatMap_cons, ← List.append_assoc]
        rfl
  rw [publish, hfold]
  rfl

/-- What `connect` does when it subscribes. -/
lemma connect_eq {controller : AdapterController} (hopen : controller.closed = false)
    (hreleased : controller.unsubscribe = none) :
    controller.connect = { controller with
      state := { controller.state with status := .ready }
      unsubscribe := some controller.session.subscribeCount
      session := controller.session.subscribe
      microtasks := controller.microtasks ++ (controller.accepted controller.session.current).map
        (.accept · controller.lifecycleRevision) } := by
  rw [connect, if_neg (by simp [hopen, hreleased])]
  dsimp only
  rw [acceptSnapshot_eq]
  rfl

/-! ### Events -/

/-- Only the status, the error and the answers to calls change. -/
structure Answered (before after : AdapterController) : Prop where
  snapshot : after.state.snapshot = before.state.snapshot
  unsubscribe : after.unsubscribe = before.unsubscribe
  closed : after.closed = before.closed
  lifecycleRevision : after.lifecycleRevision = before.lifecycleRevision
  closePromise : after.closePromise.isSome = before.closePromise.isSome
  microtasks : after.microtasks = before.microtasks
  session : after.session = before.session

/-- What an event does. -/
inductive EventStep (controller : AdapterController) : AdapterEvent → AdapterController → Prop where
  | connected (hopen : controller.closed = false) (hreleased : controller.unsubscribe = none) :
      EventStep controller .connect { controller with
        state := { controller.state with status := .ready }
        unsubscribe := some controller.session.subscribeCount
        session := controller.session.subscribe
        microtasks := controller.microtasks ++ (controller.accepted controller.session.current).map
          (.accept · controller.lifecycleRevision) }
  | connectedBefore (hskip : controller.closed = true ∨ controller.unsubscribe.isSome = true) :
      EventStep controller .connect controller
  | disposed : EventStep controller .dispose controller.dispose
  | closing (hnone : controller.closePromise = none) :
      EventStep controller .close { controller.dispose with
        closed := true
        closePromise := some .disposing
        microtasks := controller.microtasks ++ [.closeSession] }
  | closedBefore (hsome : controller.closePromise.isSome = true) :
      EventStep controller .close controller
  | submitted (observation : JsValue) {after : AdapterController}
      (h : Answered controller after) : EventStep controller (.submit observation) after
  | resetted (location : Option QuranLocation) {after : AdapterController}
      (h : Answered controller after) : EventStep controller (.reset location) after
  | settled (index : ℕ) (outcome : Except Rejection ReadingSnapshot) {after : AdapterController}
      (h : Answered controller after) : EventStep controller (.settle index outcome) after
  | sessionClosed (failure : Option Rejection) {after : AdapterController}
      (h : Answered controller after) : EventStep controller (.sessionClosed failure) after
  | published (next : ReadingSnapshot) :
      EventStep controller (.publish next) { controller with
        session := controller.session.hold next
        microtasks := controller.microtasks ++ controller.session.active.flatMap fun _ =>
          (controller.accepted next).map (.accept · controller.lifecycleRevision) }
  | idle (hempty : controller.microtasks = []) : EventStep controller .microtask controller
  | applied (next : ReadingSnapshot) (rest : List Microtask)
      (hmicrotasks : controller.microtasks = .accept next controller.lifecycleRevision :: rest)
      (hopen : controller.closed = false)
      (hnewer : controller.state.snapshot.revision < next.revision) :
      EventStep controller .microtask { controller with
        state := { controller.state with snapshot := next, status := .ready }
        microtasks := rest }
  | dropped (next : ReadingSnapshot) (acceptedAt : ℕ) (rest : List Microtask)
      (hmicrotasks : controller.microtasks = .accept next acceptedAt :: rest)
      (hdrop : controller.closed = true ∨ acceptedAt ≠ controller.lifecycleRevision
        ∨ next.revision ≤ controller.state.snapshot.revision) :
      EventStep controller .microtask { controller with microtasks := rest }
  | sessionCalled (rest : List Microtask)
      (hmicrotasks : controller.microtasks = .closeSession :: rest) :
      EventStep controller .microtask { controller with
        microtasks := rest
        closePromise := some .closing
        session := controller.session.close }

lemma action_answered (controller : AdapterController)
    (command : JsValue ⊕ Option QuranLocation) :
    Answered controller (controller.action command) := by
  rw [action]
  split
  · exact ⟨rfl, rfl, rfl, rfl, rfl, rfl, rfl⟩
  · exact ⟨rfl, rfl, rfl, rfl, rfl, rfl, rfl⟩

lemma settle_answered (controller : AdapterController) (index : ℕ)
    (outcome : Except Rejection ReadingSnapshot) :
    Answered controller (controller.settle index outcome) := by
  rw [settle]
  split
  · dsimp only
    split
    · exact ⟨rfl, rfl, rfl, rfl, rfl, rfl, rfl⟩
    · exact ⟨rfl, rfl, rfl, rfl, rfl, rfl, rfl⟩
  · exact ⟨rfl, rfl, rfl, rfl, rfl, rfl, rfl⟩

lemma finishClose_answered (controller : AdapterController) (failure : Option Rejection) :
    Answered controller (controller.finishClose failure) := by
  rw [finishClose]
  split
  · rename_i hclosing
    exact ⟨rfl, rfl, rfl, rfl, by rw [hclosing]; rfl, rfl, rfl⟩
  · exact ⟨rfl, rfl, rfl, rfl, rfl, rfl, rfl⟩

/-- **The ways an event goes.** -/
lemma eventStep (controller : AdapterController) (event : AdapterEvent) :
    EventStep controller event (controller.step event) := by
  cases event with
  | connect =>
      by_cases hskip : controller.closed = true ∨ controller.unsubscribe.isSome = true
      · rw [step, connect, if_pos hskip]
        exact .connectedBefore hskip
      · rw [not_or, Bool.not_eq_true, Option.not_isSome_iff_eq_none] at hskip
        rw [step, connect_eq hskip.1 hskip.2]
        exact .connected hskip.1 hskip.2
  | dispose => exact .disposed
  | close =>
      rw [step, close]
      split
      · rename_i hsome
        exact .closedBefore (by rw [hsome]; rfl)
      · rename_i hnone
        exact .closing hnone
  | submit observation => exact .submitted _ (controller.action_answered _)
  | reset location => exact .resetted _ (controller.action_answered _)
  | settle index outcome => exact .settled _ _ (controller.settle_answered _ _)
  | sessionClosed failure => exact .sessionClosed _ (controller.finishClose_answered _)
  | publish next =>
      rw [step, publish_eq]
      exact .published next
  | microtask =>
      rw [step, runMicrotask]
      split
      · rename_i hempty
        exact .idle hempty
      · rename_i next acceptedAt rest hmicrotasks
        rw [applySnapshot]
        split
        · rename_i hdrop
          exact .dropped next acceptedAt rest hmicrotasks hdrop
        · rename_i hlive
          simp only [not_or, Bool.not_eq_true, not_not, not_le] at hlive
          obtain ⟨hopen, rfl, hnewer⟩ := hlive
          exact .applied next rest hmicrotasks hopen hnewer
      · rename_i rest hmicrotasks
        exact .sessionCalled rest hmicrotasks

/-! ### The invariant -/

/-- The controller follows the session. -/
structure Follows (controller : AdapterController) : Prop where
  acceptedAt_le : ∀ next acceptedAt, .accept next acceptedAt ∈ controller.microtasks →
    acceptedAt ≤ controller.lifecycleRevision
  behind : Behind ReadingSnapshot.revision controller.state.snapshot controller.session.current
  connected : controller.unsubscribe.isSome = true →
    newest ReadingSnapshot.revision controller.state.snapshot controller.pending
      = controller.session.current
  released : controller.unsubscribe = none → controller.pending = []
  closed : controller.closed = true → controller.unsubscribe = none
  active : controller.session.active = controller.unsubscribe.toList
  counts : controller.session.subscribeCount
    = controller.session.unsubscribeCount + controller.session.active.length
  closePromise : controller.closePromise.isSome = controller.closed
  closeCount : controller.session.closeCount + controller.microtasks.countP isCloseSession
    = if controller.closed then 1 else 0

lemma createAdapterController_follows (snapshot : ReadingSnapshot) :
    (createAdapterController snapshot).Follows where
  acceptedAt_le := by rintro next acceptedAt ⟨⟩
  behind := Behind.refl _
  connected := by rintro ⟨⟩
  released := fun _ => rfl
  closed := by rintro ⟨⟩
  active := rfl
  counts := rfl
  closePromise := rfl
  closeCount := rfl

/-- Status, error and the answers to calls are not part of the invariant. -/
lemma Follows.of_answered {controller after : AdapterController} (h : controller.Follows)
    (hsame : Answered controller after) : after.Follows := by
  have hpending : after.pending = controller.pending := by
    rw [pending, hsame.microtasks, hsame.lifecycleRevision]
    rfl
  constructor
  · rw [hsame.microtasks, hsame.lifecycleRevision]
    exact h.acceptedAt_le
  · rw [hsame.snapshot, hsame.session]
    exact h.behind
  · rw [hsame.unsubscribe, hsame.snapshot, hpending, hsame.session]
    exact h.connected
  · rw [hsame.unsubscribe, hpending]
    exact h.released
  · rw [hsame.closed, hsame.unsubscribe]
    exact h.closed
  · rw [hsame.session, hsame.unsubscribe]
    exact h.active
  · rw [hsame.session]
    exact h.counts
  · rw [hsame.closePromise, hsame.closed]
    exact h.closePromise
  · rw [hsame.session, hsame.microtasks, hsame.closed]
    exact h.closeCount

/-- Snapshots accepted now are pending. -/
lemma pending_append (controller : AdapterController) (added : List ReadingSnapshot) :
    (controller.microtasks
        ++ added.map (Microtask.accept · controller.lifecycleRevision)).filterMap
        (pendingAt controller.lifecycleRevision) = controller.pending ++ added := by
  have hadded : (added.map (Microtask.accept · controller.lifecycleRevision)).filterMap
      (pendingAt controller.lifecycleRevision) = added := by
    induction added with
    | nil => rfl
    | cons next added ih =>
        have hnext : pendingAt controller.lifecycleRevision
            (.accept next controller.lifecycleRevision) = some next := if_pos rfl
        rw [List.map_cons, List.filterMap_cons_some hnext, ih]
  rw [List.filterMap_append, hadded]
  rfl

lemma countP_accept (added : List ReadingSnapshot) (acceptedAt : ℕ) :
    (added.map (Microtask.accept · acceptedAt)).countP isCloseSession = 0 := by
  rw [List.countP_eq_zero]
  intro microtask hmem
  obtain ⟨next, -, rfl⟩ := List.mem_map.mp hmem
  exact Bool.false_ne_true

/-- Nothing of what was queued before is pending after a release. -/
lemma Follows.pendingAt_succ {controller : AdapterController} (h : controller.Follows) :
    controller.microtasks.filterMap (pendingAt (controller.lifecycleRevision + 1)) = [] := by
  rw [List.filterMap_eq_nil_iff]
  intro microtask hmem
  cases microtask with
  | accept next acceptedAt =>
      have hle := h.acceptedAt_le next acceptedAt hmem
      exact if_neg (by omega)
  | closeSession => rfl

/-- A release leaves the session without subscriptions, and otherwise as it was. -/
lemma Follows.dispose_session {controller : AdapterController} (h : controller.Follows) :
    controller.dispose.session = { controller.session with
      active := []
      unsubscribeCount := controller.session.subscribeCount } := by
  have hactive := h.active
  have hcounts := h.counts
  rw [AdapterController.dispose]
  dsimp only
  cases hunsubscribe : controller.unsubscribe with
  | none =>
      rw [hunsubscribe, Option.toList_none] at hactive
      rw [hactive, List.length_nil, Nat.add_zero] at hcounts
      calc controller.session = { controller.session with
            active := controller.session.active
            unsubscribeCount := controller.session.unsubscribeCount } := rfl
        _ = _ := by rw [hactive, ← hcounts]
  | some subscription =>
      rw [hunsubscribe, Option.toList_some] at hactive
      rw [hactive, List.length_singleton] at hcounts
      dsimp only
      rw [SessionSide.unsubscribe, hactive, if_pos (List.mem_singleton_self _), hcounts,
        List.erase_cons_head]

lemma Follows.dispose {controller : AdapterController} (h : controller.Follows) :
    controller.dispose.Follows := by
  have hsession := h.dispose_session
  constructor
  · intro next acceptedAt hmem
    exact (h.acceptedAt_le next acceptedAt hmem).trans (Nat.le_succ _)
  · rw [hsession]
    exact h.behind
  · rintro ⟨⟩
  · intro _
    exact h.pendingAt_succ
  · intro _
    rfl
  · rw [hsession]
    rfl
  · rw [hsession]
    rfl
  · exact h.closePromise
  · rw [hsession]
    exact h.closeCount

/-- A subscription: the snapshot delivered at once closes the gap. -/
lemma Follows.connected_step {controller : AdapterController} (h : controller.Follows)
    (hopen : controller.closed = false) (hreleased : controller.unsubscribe = none) :
    ({ controller with
      state := { controller.state with status := .ready }
      unsubscribe := some controller.session.subscribeCount
      session := controller.session.subscribe
      microtasks := controller.microtasks ++ (controller.accepted controller.session.current).map
        (.accept · controller.lifecycleRevision) } : AdapterController).Follows := by
  have hnone := h.released hreleased
  have hactive := h.active
  rw [hreleased, Option.toList_none] at hactive
  constructor
  · intro next acceptedAt hmem
    rcases List.mem_append.mp hmem with hmem | hmem
    · exact h.acceptedAt_le next acceptedAt hmem
    · obtain ⟨_, -, heq⟩ := List.mem_map.mp hmem
      cases heq
      exact le_rfl
  · exact h.behind
  · intro _
    rw [pending]
    dsimp only
    rw [pending_append, newest_accepted, hnone, newest_nil, h.behind.keepNewer_eq]
    rfl
  · rintro ⟨⟩
  · intro hclosed
    rw [hopen] at hclosed
    cases hclosed
  · show controller.session.active ++ [controller.session.subscribeCount] = _
    rw [hactive]
    rfl
  · have hcounts := h.counts
    show controller.session.subscribeCount + 1 = controller.session.unsubscribeCount
      + (controller.session.active ++ [controller.session.subscribeCount]).length
    rw [List.length_append, List.length_singleton]
    omega
  · exact h.closePromise
  · dsimp only
    rw [List.countP_append, countP_accept]
    exact h.closeCount

/-- The first call of `close`. -/
lemma Follows.closing_step {controller : AdapterController} (h : controller.Follows)
    (hnone : controller.closePromise = none) :
    ({ controller.dispose with
      closed := true
      closePromise := some .disposing
      microtasks := controller.microtasks ++ [.closeSession] } : AdapterController).Follows := by
  have hdispose := h.dispose
  have hopen : controller.closed = false := by
    rw [← h.closePromise, hnone]
    rfl
  have hcount := hdispose.closeCount
  rw [show controller.dispose.closed = false from hopen] at hcount
  refine ⟨?_, hdispose.behind, by rintro ⟨⟩, fun _ => ?_, fun _ => rfl, hdispose.active,
    hdispose.counts, rfl, ?_⟩
  · intro next acceptedAt hmem
    rcases List.mem_append.mp hmem with hmem | hmem
    · exact hdispose.acceptedAt_le next acceptedAt hmem
    · rw [List.mem_singleton] at hmem
      cases hmem
  · rw [pending]
    dsimp only
    rw [List.filterMap_append]
    exact List.append_eq_nil_iff.mpr ⟨h.pendingAt_succ, rfl⟩
  · calc controller.dispose.session.closeCount
          + (controller.microtasks ++ [Microtask.closeSession]).countP isCloseSession
        = controller.dispose.session.closeCount
          + controller.microtasks.countP isCloseSession + 1 := by
            rw [List.countP_append, ← Nat.add_assoc]
            rfl
      _ = 1 := congrArg (· + 1) hcount

lemma Follows.published_step {controller : AdapterController} (h : controller.Follows)
    (next : ReadingSnapshot) :
    ({ controller with
      session := controller.session.hold next
      microtasks := controller.microtasks ++ controller.session.active.flatMap fun _ =>
        (controller.accepted next).map (.accept · controller.lifecycleRevision) }
      : AdapterController).Follows := by
  have hactive := h.active
  have hbehind : Behind ReadingSnapshot.revision controller.state.snapshot
      (controller.session.hold next).current := h.behind.trans (behind_keepNewer _ _)
  rcases Option.eq_none_or_eq_some controller.unsubscribe with hreleased | ⟨_, hconnected⟩
  · rw [hreleased, Option.toList_none] at hactive
    rw [hactive, List.flatMap_nil, List.append_nil]
    refine ⟨h.acceptedAt_le, hbehind, ?_, h.released, h.closed, h.active, h.counts,
      h.closePromise, h.closeCount⟩
    intro hconnected
    dsimp only at hconnected
    rw [hreleased] at hconnected
    cases hconnected
  · rw [hconnected, Option.toList_some] at hactive
    rw [hactive, List.flatMap_singleton]
    refine ⟨?_, hbehind, ?_, ?_, h.closed, h.active, h.counts, h.closePromise, ?_⟩
    · intro queued acceptedAt hmem
      rcases List.mem_append.mp hmem with hmem | hmem
      · exact h.acceptedAt_le queued acceptedAt hmem
      · obtain ⟨_, -, heq⟩ := List.mem_map.mp hmem
        cases heq
        exact le_rfl
    · intro _
      rw [pending]
      dsimp only
      rw [pending_append, newest_accepted, h.connected (by rw [hconnected]; rfl)]
      rfl
    · intro hreleased
      dsimp only at hreleased
      rw [hconnected] at hreleased
      cases hreleased
    · dsimp only
      rw [List.countP_append, countP_accept]
      exact h.closeCount

/-- What a controller that follows has queued first. -/
structure Queued (controller : AdapterController) (microtask : Microtask) (rest : List Microtask) :
    Prop where
  acceptedAt_le : ∀ next acceptedAt, .accept next acceptedAt ∈ rest →
    acceptedAt ≤ controller.lifecycleRevision
  pending : controller.pending = (pendingAt controller.lifecycleRevision microtask).toList
    ++ rest.filterMap (pendingAt controller.lifecycleRevision)
  closeCount : controller.session.closeCount
    + (rest.countP isCloseSession + if isCloseSession microtask then 1 else 0)
      = if controller.closed then 1 else 0

lemma Follows.queued {controller : AdapterController} (h : controller.Follows)
    {microtask : Microtask} {rest : List Microtask}
    (hmicrotasks : controller.microtasks = microtask :: rest) :
    controller.Queued microtask rest where
  acceptedAt_le := fun next acceptedAt hmem =>
    h.acceptedAt_le next acceptedAt (hmicrotasks ▸ List.mem_cons_of_mem _ hmem)
  pending := by
    rw [AdapterController.pending, hmicrotasks, List.filterMap_cons]
    cases pendingAt controller.lifecycleRevision microtask with
    | none => rfl
    | some next => rfl
  closeCount := by
    rw [← List.countP_cons, ← hmicrotasks]
    exact h.closeCount

/-- A microtask that applies a snapshot: the rest of the queue closes the rest of the gap. -/
lemma Follows.applied_step {controller : AdapterController} (h : controller.Follows)
    {next : ReadingSnapshot} {rest : List Microtask}
    (hmicrotasks : controller.microtasks = .accept next controller.lifecycleRevision :: rest)
    (hnewer : controller.state.snapshot.revision < next.revision) :
    ({ controller with
      state := { controller.state with snapshot := next, status := .ready }
      microtasks := rest } : AdapterController).Follows := by
  obtain ⟨hle, hpending, hcount⟩ := h.queued hmicrotasks
  have hlive : pendingAt controller.lifecycleRevision
      (.accept next controller.lifecycleRevision) = some next := if_pos rfl
  rw [hlive, Option.toList_some, List.singleton_append] at hpending
  have hconnected : controller.unsubscribe.isSome = true := by
    by_contra hnone
    have hreleased := h.released (Option.not_isSome_iff_eq_none.mp hnone)
    rw [hpending] at hreleased
    cases hreleased
  have hrest := h.connected hconnected
  rw [hpending, newest_cons_of_lt hnewer] at hrest
  refine ⟨hle, ?_, fun _ => hrest, ?_, h.closed, h.active, h.counts, h.closePromise, hcount⟩
  · dsimp only
    rw [← hrest]
    exact behind_newest _ _
  · intro hnone
    dsimp only at hnone
    rw [hnone] at hconnected
    cases hconnected

/-- A microtask that drops its snapshot: it was not pending, or it closed no gap. -/
lemma Follows.dropped_step {controller : AdapterController} (h : controller.Follows)
    {next : ReadingSnapshot} {acceptedAt : ℕ} {rest : List Microtask}
    (hmicrotasks : controller.microtasks = .accept next acceptedAt :: rest)
    (hdrop : controller.closed = true ∨ acceptedAt ≠ controller.lifecycleRevision
      ∨ next.revision ≤ controller.state.snapshot.revision) :
    ({ controller with microtasks := rest } : AdapterController).Follows := by
  obtain ⟨hle, hpending, hcount⟩ := h.queued hmicrotasks
  have hreleased := h.released
  rw [hpending, List.append_eq_nil_iff] at hreleased
  refine ⟨hle, h.behind, ?_, fun hnone => (hreleased hnone).2, h.closed, h.active, h.counts,
    h.closePromise, hcount⟩
  intro hconnected
  have hgap := h.connected hconnected
  rw [hpending] at hgap
  rcases hdrop with hclosed | hstale | hold
  · have hnone : controller.unsubscribe = none := h.closed hclosed
    rw [hnone] at hconnected
    cases hconnected
  · rw [pendingAt, if_neg hstale] at hgap
    exact hgap
  · rw [pendingAt] at hgap
    split at hgap
    · rw [Option.toList_some, List.singleton_append, newest_cons_of_le hold] at hgap
      exact hgap
    · exact hgap

/-- The microtask of `close` calls the session, which has not been called before. -/
lemma Follows.sessionCalled_step {controller : AdapterController} (h : controller.Follows)
    {rest : List Microtask} (hmicrotasks : controller.microtasks = .closeSession :: rest) :
    ({ controller with
      microtasks := rest
      closePromise := some .closing
      session := controller.session.close } : AdapterController).Follows := by
  obtain ⟨hle, hpending, hcount⟩ := h.queued hmicrotasks
  have hconnected := h.connected
  have hreleased := h.released
  rw [show controller.pending = rest.filterMap (pendingAt controller.lifecycleRevision) from
    hpending] at hconnected hreleased
  have hclosed : controller.closed = true := by
    by_contra hopen
    rw [if_neg hopen] at hcount
    simp [isCloseSession] at hcount
  refine ⟨hle, h.behind, hconnected, hreleased, h.closed, h.active, h.counts, hclosed.symm, ?_⟩
  calc controller.session.closeCount + 1 + rest.countP isCloseSession
      = controller.session.closeCount + (rest.countP isCloseSession + 1) := by omega
    _ = _ := hcount

/-- **Every event keeps the invariant.** -/
theorem Follows.step {controller : AdapterController} (h : controller.Follows)
    (event : AdapterEvent) : (controller.step event).Follows := by
  have hevent := controller.eventStep event
  generalize controller.step event = after at hevent ⊢
  cases hevent with
  | connected hopen hreleased => exact h.connected_step hopen hreleased
  | connectedBefore => exact h
  | disposed => exact h.dispose
  | closing hnone => exact h.closing_step hnone
  | closedBefore => exact h
  | submitted _ hsame => exact h.of_answered hsame
  | resetted _ hsame => exact h.of_answered hsame
  | settled _ _ hsame => exact h.of_answered hsame
  | sessionClosed _ hsame => exact h.of_answered hsame
  | published next => exact h.published_step next
  | idle => exact h
  | applied next rest hmicrotasks _ hnewer => exact h.applied_step hmicrotasks hnewer
  | dropped next acceptedAt rest hmicrotasks hdrop => exact h.dropped_step hmicrotasks hdrop
  | sessionCalled rest hmicrotasks => exact h.sessionCalled_step hmicrotasks

/-- **The controller follows the session through every run.** -/
theorem run_follows (snapshot : ReadingSnapshot) (events : List AdapterEvent) :
    ((createAdapterController snapshot).run events).Follows := by
  induction events using List.reverseRecOn with
  | nil => exact createAdapterController_follows snapshot
  | append_singleton events event ih =>
      rw [run_concat]
      exact ih.step event

/-! ### Runs -/

/-- The snapshots a session publishes, in order. -/
def published (events : List AdapterEvent) : List ReadingSnapshot :=
  events.filterMap fun event =>
    match event with
    | .publish next => some next
    | _ => none

/-- The event of a microtask. -/
def isMicrotask : AdapterEvent → Bool
  | .microtask => true
  | _ => false

/-- The event of a call of `close`. -/
def isClose : AdapterEvent → Bool
  | .close => true
  | _ => false

/-- No event moves the snapshot back. -/
lemma step_revision_le (controller : AdapterController) (event : AdapterEvent) :
    controller.state.snapshot.revision ≤ (controller.step event).state.snapshot.revision := by
  have hevent := controller.eventStep event
  generalize controller.step event = after at hevent ⊢
  cases hevent with
  | applied _ _ _ _ hnewer => exact hnewer.le
  | submitted _ hsame => rw [hsame.snapshot]
  | resetted _ hsame => rw [hsame.snapshot]
  | settled _ _ hsame => rw [hsame.snapshot]
  | sessionClosed _ hsame => rw [hsame.snapshot]
  | _ => exact le_rfl

lemma run_revision_le (controller : AdapterController) (events : List AdapterEvent) :
    controller.state.snapshot.revision ≤ (controller.run events).state.snapshot.revision := by
  induction events using List.reverseRecOn with
  | nil => exact le_rfl
  | append_singleton events event ih =>
      rw [run_concat]
      exact ih.trans (step_revision_le _ event)

/-- What the session holds is what it has published. -/
lemma Follows.step_current {controller : AdapterController} (h : controller.Follows)
    (event : AdapterEvent) : (controller.step event).session.current
      = newest ReadingSnapshot.revision controller.session.current (published [event]) := by
  have hevent := controller.eventStep event
  generalize controller.step event = after at hevent ⊢
  cases hevent with
  | disposed =>
      rw [h.dispose_session]
      rfl
  | closing =>
      dsimp only
      rw [h.dispose_session]
      rfl
  | submitted _ hsame =>
      rw [hsame.session]
      rfl
  | resetted _ hsame =>
      rw [hsame.session]
      rfl
  | settled _ _ hsame =>
      rw [hsame.session]
      rfl
  | sessionClosed _ hsame =>
      rw [hsame.session]
      rfl
  | _ => rfl

/-- A close is final, and only `close` closes. -/
lemma Follows.step_closed {controller : AdapterController} (h : controller.Follows)
    (event : AdapterEvent) :
    (controller.step event).closed = (controller.closed || isClose event) := by
  have hevent := controller.eventStep event
  generalize controller.step event = after at hevent ⊢
  cases hevent with
  | closedBefore hsome =>
      rw [← h.closePromise, hsome]
      rfl
  | closing => exact (Bool.or_true _).symm
  | submitted _ hsame => exact hsame.closed.trans (Bool.or_false _).symm
  | resetted _ hsame => exact hsame.closed.trans (Bool.or_false _).symm
  | settled _ _ hsame => exact hsame.closed.trans (Bool.or_false _).symm
  | sessionClosed _ hsame => exact hsame.closed.trans (Bool.or_false _).symm
  | _ => exact (Bool.or_false _).symm

/-- A lifecycle never goes back. -/
lemma step_lifecycle_le (controller : AdapterController) (event : AdapterEvent) :
    controller.lifecycleRevision ≤ (controller.step event).lifecycleRevision := by
  have hevent := controller.eventStep event
  generalize controller.step event = after at hevent ⊢
  cases hevent with
  | disposed => exact Nat.le_succ _
  | closing => exact Nat.le_succ _
  | submitted _ hsame => exact hsame.lifecycleRevision.ge
  | resetted _ hsame => exact hsame.lifecycleRevision.ge
  | settled _ _ hsame => exact hsame.lifecycleRevision.ge
  | sessionClosed _ hsame => exact hsame.lifecycleRevision.ge
  | _ => exact le_rfl

/-! ### Stale microtasks -/

/-- A microtask that will not change the snapshot any more. -/
def IsStale (controller : AdapterController) (microtask : Microtask) : Prop :=
  controller.closed = true ∨ ∀ next acceptedAt, microtask = .accept next acceptedAt →
    acceptedAt < controller.lifecycleRevision

lemma IsStale.run {controller : AdapterController} (hfollows : controller.Follows)
    {microtask : Microtask} (h : controller.IsStale microtask) (events : List AdapterEvent) :
    (controller.run events).Follows ∧ (controller.run events).IsStale microtask := by
  induction events using List.reverseRecOn with
  | nil => exact ⟨hfollows, h⟩
  | append_singleton events event ih =>
      obtain ⟨hfollows', hstale⟩ := ih
      rw [run_concat]
      refine ⟨hfollows'.step event, ?_⟩
      rcases hstale with hclosed | hold
      · refine Or.inl ?_
        rw [hfollows'.step_closed, hclosed]
        rfl
      · refine Or.inr fun next acceptedAt heq => ?_
        exact (hold next acceptedAt heq).trans_le (step_lifecycle_le _ event)

/-- A stale microtask at the head of the queue leaves the snapshot as it is. -/
lemma IsStale.runMicrotask {controller : AdapterController} {microtask : Microtask}
    (h : controller.IsStale microtask) (hhead : controller.microtasks.head? = some microtask) :
    controller.runMicrotask.state.snapshot = controller.state.snapshot := by
  have hevent := controller.eventStep .microtask
  change EventStep controller .microtask controller.runMicrotask at hevent
  generalize controller.runMicrotask = after at hevent ⊢
  cases hevent with
  | applied next rest hmicrotasks hopen =>
      rw [hmicrotasks, List.head?_cons, Option.some.injEq] at hhead
      rcases h with hclosed | hold
      · rw [hopen] at hclosed
        cases hclosed
      · exact absurd (hold next _ hhead.symm) (lt_irrefl _)
  | _ => rfl

/-- A microtask takes the first of the queue, every other event adds at its end. -/
lemma step_microtasks (controller : AdapterController) (event : AdapterEvent) :
    ∃ added, (controller.step event).microtasks
      = controller.microtasks.drop (if isMicrotask event then 1 else 0) ++ added := by
  have hevent := controller.eventStep event
  generalize controller.step event = after at hevent ⊢
  cases hevent with
  | connected => exact ⟨_, rfl⟩
  | closing => exact ⟨_, rfl⟩
  | published => exact ⟨_, rfl⟩
  | idle hempty => exact ⟨[], by rw [hempty]; rfl⟩
  | applied _ _ hmicrotasks => exact ⟨[], by rw [hmicrotasks, List.append_nil]; rfl⟩
  | dropped _ _ _ hmicrotasks => exact ⟨[], by rw [hmicrotasks, List.append_nil]; rfl⟩
  | sessionCalled _ hmicrotasks => exact ⟨[], by rw [hmicrotasks, List.append_nil]; rfl⟩
  | submitted _ hsame => exact ⟨[], by rw [hsame.microtasks, List.append_nil]; rfl⟩
  | resetted _ hsame => exact ⟨[], by rw [hsame.microtasks, List.append_nil]; rfl⟩
  | settled _ _ hsame => exact ⟨[], by rw [hsame.microtasks, List.append_nil]; rfl⟩
  | sessionClosed _ hsame => exact ⟨[], by rw [hsame.microtasks, List.append_nil]; rfl⟩
  | connectedBefore => exact ⟨[], (List.append_nil _).symm⟩
  | disposed => exact ⟨[], (List.append_nil _).symm⟩
  | closedBefore => exact ⟨[], (List.append_nil _).symm⟩

/-- The queue is first in, first out. -/
lemma run_microtasks (controller : AdapterController) (events : List AdapterEvent)
    (hcount : events.countP isMicrotask ≤ controller.microtasks.length) :
    ∃ added, (controller.run events).microtasks
      = controller.microtasks.drop (events.countP isMicrotask) ++ added := by
  induction events using List.reverseRecOn with
  | nil => exact ⟨[], (List.append_nil _).symm⟩
  | append_singleton events event ih =>
      rw [List.countP_append, List.countP_singleton] at hcount ⊢
      obtain ⟨added, hadded⟩ := ih (by omega)
      obtain ⟨added', hadded'⟩ := (controller.run events).step_microtasks event
      refine ⟨added ++ added', ?_⟩
      rw [run_concat, hadded', hadded, List.drop_append_of_le_length, List.drop_drop,
        List.append_assoc]
      rw [List.length_drop]
      omega

/-- A microtask queued before a release is stale after it. -/
lemma Follows.stale_of_release {controller : AdapterController} (h : controller.Follows)
    {event : AdapterEvent} (hevent : event = .dispose ∨ event = .close) {microtask : Microtask}
    (hqueued : microtask ∈ controller.microtasks) :
    (controller.step event).IsStale microtask := by
  rcases hevent with rfl | rfl
  · refine Or.inr fun next acceptedAt heq => ?_
    subst heq
    exact Nat.lt_succ_of_le (h.acceptedAt_le next acceptedAt hqueued)
  · refine Or.inl ?_
    rw [h.step_closed]
    exact Bool.or_true _

/-! ### Convergence -/

/-- The controller of a session that holds the snapshot, after a list of events. -/
def afterEvents (snapshot : ReadingSnapshot) (events : List AdapterEvent) : AdapterController :=
  (createAdapterController snapshot).run events

lemma afterEvents_append (snapshot : ReadingSnapshot) (events later : List AdapterEvent) :
    afterEvents snapshot (events ++ later) = (afterEvents snapshot events).run later :=
  List.foldl_append

lemma afterEvents_session (snapshot : ReadingSnapshot) (events : List AdapterEvent) :
    (afterEvents snapshot events).session.current
        = newest ReadingSnapshot.revision snapshot (published events) ∧
      (afterEvents snapshot events).closed = events.any isClose := by
  induction events using List.reverseRecOn with
  | nil => exact ⟨rfl, rfl⟩
  | append_singleton events event ih =>
      have hfollows := run_follows snapshot events
      have hpublished : published (events ++ [event]) = published events ++ published [event] :=
        List.filterMap_append
      rw [afterEvents, run_concat, hfollows.step_current, hfollows.step_closed, List.any_append,
        hpublished, newest_append]
      refine ⟨congrArg (newest ReadingSnapshot.revision · _) ih.1, ?_⟩
      rw [List.any_cons, List.any_nil, Bool.or_false]
      exact congrArg (· || isClose event) ih.2

/-- **The controller converges**, over every interleaving of calls, publications in any order
and microtasks. Its revision never decreases. A microtask that was queued before a `dispose` or
a `close` leaves the snapshot as it is, whatever happens in between. A connected controller
with an empty queue shows the newest snapshot the session has published. The session has
exactly one subscription of a connected controller and none otherwise. It is closed at most
once, never without a call of `close`, and after such a call as soon as the queue is empty. -/
theorem controller_converges (snapshot : ReadingSnapshot) (events : List AdapterEvent) :
    (∀ later, (afterEvents snapshot events).state.snapshot.revision
      ≤ (afterEvents snapshot (events ++ later)).state.snapshot.revision) ∧
    (∀ release later, release = .dispose ∨ release = .close →
      later.countP isMicrotask < (afterEvents snapshot events).microtasks.length →
        (afterEvents snapshot (events ++ release :: later ++ [.microtask])).state.snapshot
          = (afterEvents snapshot (events ++ release :: later)).state.snapshot) ∧
    ((afterEvents snapshot events).unsubscribe.isSome = true →
      (afterEvents snapshot events).closed = false →
      (afterEvents snapshot events).microtasks = [] →
        (afterEvents snapshot events).state.snapshot
          = newest ReadingSnapshot.revision snapshot (published events)) ∧
    ((afterEvents snapshot events).session.active
        = (afterEvents snapshot events).unsubscribe.toList ∧
      (afterEvents snapshot events).session.subscribeCount
        = (afterEvents snapshot events).session.unsubscribeCount
          + if (afterEvents snapshot events).unsubscribe.isSome then 1 else 0) ∧
    (afterEvents snapshot events).session.closeCount ≤ (if events.any isClose then 1 else 0) ∧
    ((afterEvents snapshot events).microtasks = [] →
      (afterEvents snapshot events).session.closeCount = if events.any isClose then 1 else 0) := by
  have hfollows : (afterEvents snapshot events).Follows := run_follows snapshot events
  obtain ⟨hcurrent, hclosed⟩ := afterEvents_session snapshot events
  have hcloseCount := hfollows.closeCount
  rw [hclosed] at hcloseCount
  refine ⟨?_, ?_, ?_, ⟨hfollows.active, ?_⟩, by omega, ?_⟩
  · intro later
    rw [afterEvents_append]
    exact run_revision_le _ later
  · intro release later hrelease hcount
    have hmicrotask : isMicrotask release = false := by
      rcases hrelease with rfl | rfl
      · rfl
      · rfl
    obtain ⟨added, hadded⟩ := (afterEvents snapshot events).run_microtasks (release :: later)
      (by rw [List.countP_cons_of_neg (by simp [hmicrotask])]; exact hcount.le)
    rw [List.countP_cons_of_neg (by simp [hmicrotask])] at hadded
    -- the microtask that runs last was queued before the release
    have hhead : ((afterEvents snapshot events).run (release :: later)).microtasks.head?
        = some ((afterEvents snapshot events).microtasks[later.countP isMicrotask]) := by
      rw [hadded, List.drop_eq_getElem_cons hcount]
      rfl
    have hstale := hfollows.stale_of_release hrelease (List.getElem_mem hcount)
    have hrun := (hstale.run (hfollows.step release) later).2
    rw [afterEvents_append, afterEvents_append]
    exact hrun.runMicrotask hhead
  · intro hconnected _ hempty
    have hgap := hfollows.connected hconnected
    rw [pending, hempty, hcurrent] at hgap
    exact hgap
  · rw [hfollows.counts, hfollows.active]
    cases (afterEvents snapshot events).unsubscribe with
    | none => rfl
    | some subscription => rfl
  · intro hempty
    rw [hempty] at hcloseCount
    exact hcloseCount

/-- A snapshot of a revision, at the first symbol. -/
def emptySnapshot (revision : ℕ) : ReadingSnapshot :=
  ⟨revision, none, ⟨⟨1, 1, 1, 1⟩, false, none⟩, ⟨⟨1, 1, 1, 1⟩, []⟩, none, none⟩

/-- A snapshot dropped by a `dispose` is shown after the next `connect`. -/
example : ((afterEvents (emptySnapshot 0) [.connect, .publish (emptySnapshot 2),
      .publish (emptySnapshot 1), .dispose, .microtask, .microtask]).state.snapshot.revision,
    (afterEvents (emptySnapshot 0) [.connect, .publish (emptySnapshot 2),
      .publish (emptySnapshot 1), .dispose, .microtask, .connect, .microtask,
      .microtask]).state.snapshot.revision) = (0, 2) := by
  decide

end Qaraa.Client.AdapterController
