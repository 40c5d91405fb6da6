import Qaraa.Client.AdapterConvergence

/-!
What the status of an adapter controller says about its actions.

* `isStart`, `SetsReady`: the events that write the status of an open controller.
* `StatusStep`, `Follows.statusStep`: what an event does to the status.
* `status_of_run`: an open controller is submitting exactly when the latest event that wrote the
  status was the start of an action; so it is not once all started actions are settled.
* `status_not_pending`: with two actions started, the first to be settled sets it to ready.
-/

namespace Qaraa.Client.AdapterController

/-- The start of an action. -/
def isStart : AdapterEvent → Bool
  | .submit _ => true
  | .reset _ => true
  | _ => false

/-- The event sets the status of an open controller to ready: a started action is settled, the
session is subscribed to, or a snapshot is applied. -/
def SetsReady (controller : AdapterController) : AdapterEvent → Prop
  | .settle index _ => ∃ command, controller.actions[index]? = some ⟨command, none⟩
  | .connect => controller.unsubscribe = none
  | .microtask => ∃ next rest,
      controller.microtasks = .accept next controller.lifecycleRevision :: rest ∧
        controller.state.snapshot.revision < next.revision
  | _ => False

/-- Some started action is not settled. -/
def HasPending (controller : AdapterController) : Prop :=
  ∃ action ∈ controller.actions, action.outcome = none

/-- The status and the actions after an event that leaves the controller open. -/
structure StatusStep (controller : AdapterController) (event : AdapterEvent)
    (after : AdapterController) : Prop where
  started : isStart event = true → after.state.status = .submitting ∧ after.HasPending
  ready : controller.SetsReady event → after.state.status = .ready
  kept : isStart event = false → ¬controller.SetsReady event →
    after.state.status = controller.state.status ∧ after.actions = controller.actions

/-- An event that neither starts an action nor sets the status. -/
lemma StatusStep.of_kept {controller after : AdapterController} {event : AdapterEvent}
    (hstart : isStart event = false) (hready : ¬controller.SetsReady event)
    (hstatus : after.state.status = controller.state.status)
    (hactions : after.actions = controller.actions) : StatusStep controller event after where
  started := fun h => by rw [hstart] at h; cases h
  ready := fun h => absurd h hready
  kept := fun _ _ => ⟨hstatus, hactions⟩

/-- An event that sets the status to ready. -/
lemma StatusStep.of_ready {controller after : AdapterController} {event : AdapterEvent}
    (hstart : isStart event = false) (hready : controller.SetsReady event)
    (hstatus : after.state.status = .ready) : StatusStep controller event after where
  started := fun h => by rw [hstart] at h; cases h
  ready := fun _ => hstatus
  kept := fun _ h => absurd hready h

lemma StatusStep.of_start {controller : AdapterController} {event : AdapterEvent}
    {command : JsValue ⊕ Option QuranLocation} (hopen : controller.closed = false)
    (hstart : isStart event = true) (hready : ¬controller.SetsReady event) :
    StatusStep controller event (controller.action command) := by
  have haction : (controller.action command).state.status = .submitting ∧
      (controller.action command).actions = controller.actions ++ [⟨command, none⟩] := by
    rw [action, if_neg (by simp [hopen])]
    exact ⟨rfl, rfl⟩
  refine ⟨fun _ => ⟨haction.1, ⟨command, none⟩, ?_, rfl⟩, fun h => absurd h hready, fun h => ?_⟩
  · rw [haction.2]
    exact List.mem_append_right _ (List.mem_singleton_self _)
  · rw [hstart] at h
    cases h

/-- **What an event does to the status** of an open controller. -/
lemma Follows.statusStep {controller : AdapterController} (h : controller.Follows)
    (hopen : controller.closed = false) {event : AdapterEvent} (hclose : isClose event = false) :
    StatusStep controller event (controller.step event) := by
  have hpromise : controller.closePromise = none := by
    rw [← Option.not_isSome_iff_eq_none, h.closePromise, hopen]
    exact Bool.false_ne_true
  cases event with
  | submit observation => exact .of_start hopen rfl id
  | reset location => exact .of_start hopen rfl id
  | close => cases hclose
  | dispose => exact .of_kept rfl id rfl rfl
  | publish next =>
      rw [AdapterController.step, publish_eq]
      exact .of_kept rfl id rfl rfl
  | sessionClosed failure =>
      rw [AdapterController.step, finishClose, hpromise]
      exact .of_kept rfl id rfl rfl
  | settle index outcome =>
      rw [AdapterController.step, settle]
      split
      · rename_i command hpending
        dsimp only
        rw [if_neg (by simp [hopen])]
        exact .of_ready rfl ⟨command, hpending⟩ rfl
      · rename_i hsettled
        refine .of_kept rfl ?_ rfl rfl
        rintro ⟨command, hpending⟩
        exact hsettled command hpending
  | connect =>
      have hevent := controller.eventStep .connect
      generalize controller.step .connect = after at hevent ⊢
      cases hevent with
      | connected _ hreleased => exact .of_ready rfl hreleased rfl
      | connectedBefore hskip =>
          refine .of_kept rfl (fun hreleased => ?_) rfl rfl
          have hnone : controller.unsubscribe = none := hreleased
          simp [hopen, hnone] at hskip
  | microtask =>
      have hevent := controller.eventStep .microtask
      generalize controller.step .microtask = after at hevent ⊢
      cases hevent with
      | idle hempty =>
          refine .of_kept rfl ?_ rfl rfl
          rintro ⟨next, rest, hmicrotasks, -⟩
          rw [hempty] at hmicrotasks
          cases hmicrotasks
      | applied next rest hmicrotasks _ hnewer =>
          exact .of_ready rfl ⟨next, rest, hmicrotasks, hnewer⟩ rfl
      | dropped next acceptedAt rest hmicrotasks hdrop =>
          refine .of_kept rfl ?_ rfl rfl
          rintro ⟨next', rest', hmicrotasks', hnewer⟩
          rw [hmicrotasks] at hmicrotasks'
          cases hmicrotasks'
          rcases hdrop with hclosed | hstale | hold
          · rw [hopen] at hclosed
            cases hclosed
          · exact hstale rfl
          · omega
      | sessionCalled rest hmicrotasks =>
          refine .of_kept rfl ?_ rfl rfl
          rintro ⟨next, rest', hmicrotasks', -⟩
          rw [hmicrotasks] at hmicrotasks'
          cases hmicrotasks'

/-! ### Runs -/

/-- The latest event of a run that wrote the status was the start of an action. -/
def LastWriteIsStart (snapshot : ReadingSnapshot) (events : List AdapterEvent) : Prop :=
  ∃ before start later, events = before ++ start :: later ∧ isStart start = true ∧
    ∀ pre event post, later = pre ++ event :: post →
      ¬(afterEvents snapshot (before ++ start :: pre)).SetsReady event

lemma lastWriteIsStart_concat {snapshot : ReadingSnapshot} {events : List AdapterEvent}
    {event : AdapterEvent} :
    LastWriteIsStart snapshot (events ++ [event]) ↔ isStart event = true ∨
      (LastWriteIsStart snapshot events ∧ ¬(afterEvents snapshot events).SetsReady event) := by
  constructor
  · rintro ⟨before, start, later, hsplit, hstart, hquiet⟩
    rcases List.eq_nil_or_concat later with rfl | ⟨init, last, rfl⟩
    · obtain ⟨rfl, hlast⟩ := List.append_inj' hsplit rfl
      obtain rfl : event = start := List.singleton_inj.mp hlast
      exact Or.inl hstart
    · rw [List.concat_eq_append, ← List.cons_append, ← List.append_assoc] at hsplit
      obtain ⟨rfl, hlast⟩ := List.append_inj' hsplit rfl
      obtain rfl : event = last := List.singleton_inj.mp hlast
      rw [List.concat_eq_append] at hquiet
      refine Or.inr ⟨⟨before, start, init, rfl, hstart, ?_⟩, hquiet init event [] rfl⟩
      rintro pre other post rfl
      exact hquiet pre other (post ++ [event]) (by simp)
  · rintro (hstart | ⟨⟨before, start, later, rfl, hstart, hquiet⟩, hready⟩)
    · refine ⟨events, event, [], rfl, hstart, ?_⟩
      intro pre other post hnil
      simp at hnil
    · refine ⟨before, start, later ++ [event], by simp, hstart, ?_⟩
      intro pre other post hsplit
      rcases List.eq_nil_or_concat post with rfl | ⟨init, last, rfl⟩
      · obtain ⟨rfl, hlast⟩ := List.append_inj' hsplit rfl
        obtain rfl : event = other := List.singleton_inj.mp hlast
        exact hready
      · rw [List.concat_eq_append, ← List.cons_append, ← List.append_assoc] at hsplit
        obtain ⟨rfl, -⟩ := List.append_inj' hsplit rfl
        exact hquiet pre other init rfl

/-- An open controller has been open all along. -/
lemma open_of_concat {snapshot : ReadingSnapshot} {events : List AdapterEvent}
    {event : AdapterEvent} (hopen : (afterEvents snapshot (events ++ [event])).closed = false) :
    (afterEvents snapshot events).closed = false ∧ isClose event = false := by
  have hclosed := (run_follows snapshot events).step_closed event
  rw [afterEvents, run_concat, hclosed, Bool.or_eq_false_iff] at hopen
  exact hopen

/-- **The status of an open controller**, over every interleaving of overlapping actions,
connects, disposes, publications and microtasks. It is `submitting` exactly when the latest
event that wrote it was the start of an action, the others being the settlement of a started
action, a connect that subscribes and the application of an accepted snapshot, which set it to
`ready` whatever is pending. So it is not `submitting` once all started actions are settled. -/
theorem status_of_run (snapshot : ReadingSnapshot) (events : List AdapterEvent)
    (hopen : (afterEvents snapshot events).closed = false) :
    ((afterEvents snapshot events).state.status = .submitting ↔
      LastWriteIsStart snapshot events) ∧
    ((∀ action ∈ (afterEvents snapshot events).actions, action.outcome ≠ none) →
      (afterEvents snapshot events).state.status ≠ .submitting) := by
  have hrun : ((afterEvents snapshot events).state.status = .submitting ↔
      LastWriteIsStart snapshot events) ∧
      ((afterEvents snapshot events).state.status = .submitting →
        (afterEvents snapshot events).HasPending) := by
    induction events using List.reverseRecOn with
    | nil =>
        refine ⟨iff_of_false (by rintro ⟨⟩) ?_, by rintro ⟨⟩⟩
        rintro ⟨before, start, later, hnil, -⟩
        simp at hnil
    | append_singleton events event ih =>
        obtain ⟨hbefore, hclose⟩ := open_of_concat hopen
        obtain ⟨hiff, hpending⟩ := ih hbefore
        have hafter : afterEvents snapshot (events ++ [event])
            = (afterEvents snapshot events).step event := run_concat _ _ _
        have hstep : StatusStep (afterEvents snapshot events) event
            ((afterEvents snapshot events).step event) :=
          (run_follows snapshot events).statusStep hbefore hclose
        rw [lastWriteIsStart_concat, ← hiff, hafter]
        by_cases hstart : isStart event = true
        · obtain ⟨hstatus, hhas⟩ := hstep.started hstart
          exact ⟨iff_of_true hstatus (Or.inl hstart), fun _ => hhas⟩
        · by_cases hready : (afterEvents snapshot events).SetsReady event
          · have hstatus := hstep.ready hready
            have hne : ¬((afterEvents snapshot events).step event).state.status = .submitting := by
              rw [hstatus]
              decide
            refine ⟨iff_of_false hne ?_, fun h => absurd h hne⟩
            rintro (h | h)
            · exact hstart h
            · exact h.2 hready
          · obtain ⟨hstatus, hactions⟩ := hstep.kept (by simpa using hstart) hready
            refine ⟨?_, fun h => ?_⟩
            · rw [hstatus]
              simp [hstart, hready]
            · obtain ⟨action, hmem, hnone⟩ := hpending (hstatus.symm.trans h)
              exact ⟨action, hactions ▸ hmem, hnone⟩
  refine ⟨hrun.1, fun hsettled hstatus => ?_⟩
  obtain ⟨action, hmem, hnone⟩ := hrun.2 hstatus
  exact hsettled action hmem hnone

/-- One submission is pending, and the last write to the status is its start. -/
theorem status_of_run_submitting :
    ((afterEvents (emptySnapshot 0) [.connect, .submit .null, .dispose]).state.status
        = .submitting ↔
      LastWriteIsStart (emptySnapshot 0) [.connect, .submit .null, .dispose]) ∧
    (afterEvents (emptySnapshot 0) [.connect, .submit .null, .dispose]).state.status
      = .submitting :=
  ⟨(status_of_run (emptySnapshot 0) [.connect, .submit .null, .dispose] rfl).1, rfl⟩

/-- With two actions started, the first settlement sets the status to ready while the other
action is pending. -/
theorem status_not_pending : ¬∀ (snapshot : ReadingSnapshot) (events : List AdapterEvent),
    (afterEvents snapshot events).closed = false → (afterEvents snapshot events).HasPending →
      (afterEvents snapshot events).state.status = .submitting := by
  intro hclaim
  have hpending : (afterEvents (emptySnapshot 0)
      [.submit .null, .submit .null, .settle 0 (.ok (emptySnapshot 1))]).HasPending :=
    ⟨⟨.inl .null, none⟩, List.mem_cons_of_mem _ (List.mem_singleton_self _), rfl⟩
  have hstatus := hclaim _ _ rfl hpending
  cases hstatus

end Qaraa.Client.AdapterController
