import Qaraa.Server.Subscribers

/-!
The invariant of a session through every run of a service.

* `Status`, `Settled`: between operations a session is absent, or its record agrees with
  its tracker and its subscribers have received all it has published.
* `Midway`: what an operation under way relies on.
* `Frame.Moves`, `CleanFailure`: the operations that move the tracker, and the condition on
  the store: an update that moves it does not fail.
* `proceed_reached`: **every segment of every operation keeps the invariant**.
* `Along`, `run_sound`: it holds in every state of a run whose steps meet the condition.
* `run_rule`: what every segment and every change from outside keep holds in every run.
-/

namespace Qaraa.SessionService

open Fallible Ordered KeyedQueue

/-! ### Between and during operations -/

/-- A session between operations. -/
inductive Status (slot : SessionSlot) (published : ℕ) : Prop where
  | absent (record : slot.record = none) (runtime : slot.runtime = none)
      (subscribers : slot.subscribers = [])
  | live (runtime : SessionRuntime) (record : SessionRecord) (tracks : slot.runtime = some runtime)
      (stores : slot.record = some record) (agrees : Agrees runtime record slot.applied)
      (current : record.snapshot.revision = published)

/-- What holds of a session while no operation runs. -/
def Settled (slot : SessionSlot) : Prop :=
  ∃ published, Streams slot published ∧ Status slot published

/-- What an operation relies on at each of its awaits. -/
def Midway (sessionId : String) : Frame → SessionSlot → Prop
  | .createStore _ runtime, slot => Settled slot ∧ runtime.Fresh
  | .createDone command runtime, slot =>
      runtime.Fresh ∧ slot.record = some (runtime.firstRecord sessionId command.corpusId) ∧
        slot.subscribers = [] ∧ ∃ published, Streams slot published
  | .getRead _ record, slot => Settled slot ∧ record = slot.record
  | .publish _ snapshot changed, slot =>
      ∃ runtime record published, slot.runtime = some runtime ∧ slot.record = some record ∧
        Agrees runtime record slot.applied ∧ Streams slot published ∧
        record.snapshot = snapshot ∧
        record.snapshot.revision = published + if changed then 1 else 0
  | .resumeRead _ record, slot => Settled slot ∧ record = slot.record
  | .subscribeRead _ _ record, slot => Settled slot ∧ record = slot.record
  | .deleteDone _ deleted, slot =>
      slot.record = none ∧ (∃ published, Streams slot published) ∧
        (deleted = false → Settled slot)
  | _, slot => Settled slot

/-- What a segment leaves. -/
def Reached (sessionId : String) (x : SessionSlot × (Frame ⊕ Outcome)) : Prop :=
  match x.2 with
  | .inl frame => Midway sessionId frame x.1
  | .inr _ => Settled x.1

/-- The frames operations start from. -/
def Frame.IsCall : Frame → Prop
  | .create _ | .get _ | .reset _ _ | .submit _ _ _ | .resume _ | .subscribe _ _ | .delete _ => True
  | _ => False

/-- Whether an operation moves the tracker in its store update: a reset to a location of
the corpus, or a submission the record admits. -/
def Frame.Moves (slot : SessionSlot) : Frame → Prop
  | .reset _ command => ∃ runtime, slot.runtime = some runtime ∧
      ∀ location ∈ command.location, hasLocation runtime.config.corpus location = true
  | .submit _ _ o => ∃ record, slot.record = some record ∧ record.Admits o.observation
  | _ => False

/-- What may happen at a session: its operations start from calls, and no store update
fails after moving the tracker. -/
def Allowed : Event Frame Answer Change → SessionSlot → Prop
  | .called _ frame, _ => frame.IsCall
  | .resumed _ frame answer, slot => answer.store = .failed → ¬frame.Moves slot
  | .touched _, _ => True

/-! ### One segment -/

variable {slot : SessionSlot} {sessionId : String}

/-- A change that touches neither the record nor the tracker, and leaves the streams as they
are. -/
structure SameSession (slot after : SessionSlot) : Prop where
  record : after.record = slot.record
  runtime : after.runtime = slot.runtime
  applied : after.applied = slot.applied
  streams : ∀ published, Streams slot published → Streams after published
  subscribers : slot.subscribers = [] → after.subscribers = []

lemma SameSession.reservation (slot : SessionSlot) (reserved : ℤ) :
    SameSession slot { slot with reservedSessions := reserved } :=
  ⟨rfl, rfl, rfl, fun _ h => h.congr ⟨rfl, rfl, rfl⟩, id⟩

lemma SameSession.release (slot : SessionSlot) (index : ℕ) :
    SameSession slot (slot.releaseSubscriber index) := by
  refine ⟨?_, ?_, ?_, fun _ h => h.release index, fun hnone => ?_⟩
  · rw [releaseSubscriber_eq]
  · rw [releaseSubscriber_eq]
  · rw [releaseSubscriber_eq]
  · rw [releaseSubscriber_eq, hnone]
    rfl

lemma Settled.congr (h : Settled slot) {after : SessionSlot} (hsame : SameSession slot after) :
    Settled after := by
  obtain ⟨published, hstreams, hstatus⟩ := h
  refine ⟨published, hsame.streams published hstreams, ?_⟩
  cases hstatus with
  | absent hrec hrun hsub =>
      exact .absent (hsame.record.trans hrec) (hsame.runtime.trans hrun) (hsame.subscribers hsub)
  | live runtime record htracks hstores hagrees hcurrent =>
      exact .live runtime record (hsame.runtime.trans htracks) (hsame.record.trans hstores)
        (hsame.applied ▸ hagrees) hcurrent

lemma Settled.releaseReservation (h : Settled slot) : Settled slot.releaseReservation :=
  h.congr (.reservation slot _)

lemma Midway.congr {frame : Frame} (h : Midway sessionId frame slot) {after : SessionSlot}
    (hsame : SameSession slot after) : Midway sessionId frame after := by
  cases frame with
  | createStore command runtime => exact ⟨h.1.congr hsame, h.2⟩
  | createDone command runtime =>
      obtain ⟨hfresh, hrec, hsubscribers, published, hstreams⟩ := h
      exact ⟨hfresh, hsame.record.trans hrec, hsame.subscribers hsubscribers, published,
        hsame.streams published hstreams⟩
  | getRead command record => exact ⟨h.1.congr hsame, h.2.trans hsame.record.symm⟩
  | resumeRead command record => exact ⟨h.1.congr hsame, h.2.trans hsame.record.symm⟩
  | subscribeRead listener command record =>
      exact ⟨h.1.congr hsame, h.2.trans hsame.record.symm⟩
  | publish requestId snapshot changed =>
      obtain ⟨runtime, record, published, hrun, hrec, hagrees, hstreams, hsnapshot⟩ := h
      exact ⟨runtime, record, published, hsame.runtime.trans hrun, hsame.record.trans hrec,
        hsame.applied ▸ hagrees, hsame.streams published hstreams, hsnapshot⟩
  | deleteDone command deleted =>
      obtain ⟨hrec, ⟨published, hstreams⟩, hsettled⟩ := h
      exact ⟨hsame.record.trans hrec, ⟨published, hsame.streams published hstreams⟩,
        fun hdeleted => (hsettled hdeleted).congr hsame⟩
  | create command => exact Settled.congr h hsame
  | get command => exact Settled.congr h hsame
  | reset caller command => exact Settled.congr h hsame
  | submit caller requestId o => exact Settled.congr h hsame
  | resume command => exact Settled.congr h hsame
  | subscribe listener command => exact Settled.congr h hsame
  | delete command => exact Settled.congr h hsame

/-- A stored record comes with a tracker it agrees with. -/
lemma Settled.live (h : Settled slot) {record : SessionRecord}
    (hrecord : slot.record = some record) :
    ∃ runtime, slot.runtime = some runtime ∧ Agrees runtime record slot.applied ∧
      Streams slot record.snapshot.revision := by
  obtain ⟨published, hstreams, hstatus⟩ := h
  cases hstatus with
  | absent hrec _ _ =>
      rw [hrec] at hrecord
      cases hrecord
  | live runtime record' htracks hstores hagrees hcurrent =>
      rw [hstores] at hrecord
      cases hrecord
      exact ⟨runtime, htracks, hagrees, hcurrent ▸ hstreams⟩

/-- Without a record there is no tracker. -/
lemma Settled.gone (h : Settled slot) (hrecord : slot.record = none) :
    slot.runtime = none ∧ slot.subscribers = [] := by
  obtain ⟨published, -, hstatus⟩ := h
  cases hstatus with
  | absent _ hrun hsub => exact ⟨hrun, hsub⟩
  | live _ _ _ hstores _ _ =>
      rw [hstores] at hrecord
      cases hrecord

/-- `reset` and `submit` after a store update. -/
lemma settleUpdate_reached (h : Settled slot) {record : SessionRecord}
    (hrecord : slot.record = some record) (requestId : String) {mutation : Mutation}
    (hstep : UpdateStep slot record mutation) :
    Reached sessionId (settleUpdate requestId mutation) := by
  obtain ⟨runtime, hruntime, hagrees, hstreams⟩ := h.live hrecord
  cases hstep with
  | rejected error => exact h
  | same =>
      exact ⟨runtime, record, _, hruntime, hrecord, hagrees, hstreams, rfl, by simp⟩
  | moved after next runtime' change hmoved =>
      have hsame : SameStreams slot { after with record := some next } := by
        rw [hmoved.result]
        exact ⟨rfl, rfl, rfl⟩
      refine ⟨runtime', next, record.snapshot.revision, ?_, rfl, ?_, hstreams.congr hsame, rfl,
        hmoved.revision⟩
      · show after.runtime = _
        rw [hmoved.result]
      · show Agrees runtime' next after.applied
        rw [hmoved.result]
        exact hmoved.agrees

/-- A reset that is carried out. -/
lemma reset_reached (h : Settled slot) {runtime : SessionRuntime}
    (hruntime : slot.runtime = some runtime) (caller : ℕ) (command : SessionResetCommand)
    (answer : Answer) (hclean : answer.store ≠ .failed) :
    Reached sessionId (settleUpdate command.requestId
      (update answer.store sessionId (resetRecord caller command runtime slot) slot)) := by
  cases hrecord : slot.record with
  | none =>
      rw [(h.gone hrecord).1] at hruntime
      cases hruntime
  | some record =>
      obtain ⟨runtime', hruntime', hagrees, -⟩ := h.live hrecord
      obtain rfl : runtime' = runtime := Option.some.inj (hruntime'.symm.trans hruntime)
      exact settleUpdate_reached h hrecord _ (update_step hrecord
        (resetRecord_step hagrees caller command) fun hfailed => absurd hfailed hclean)

/-- A submission the record does not admit leaves the session as it is. -/
lemma submitRecord_of_not_admits {caller : ℕ} {o : CheckedObservation} {record : SessionRecord}
    (h : ¬record.Admits o.observation) :
    (submitRecord caller sessionId o slot record).1 = slot := by
  rw [submitRecord]
  split
  · rfl
  · rename_i hnew
    rw [if_pos (not_le.mp fun hle => h ⟨hnew, hle⟩)]

/-- A submission. -/
lemma submit_reached (h : Settled slot) (caller : ℕ) (requestId : String) (o : CheckedObservation)
    (answer : Answer)
    (hclean : answer.store = .failed → ¬(Frame.submit caller requestId o).Moves slot) :
    Reached sessionId (settleUpdate requestId
      (update answer.store sessionId (submitRecord caller sessionId o slot) slot)) := by
  cases hrecord : slot.record with
  | none =>
      rw [update, hrecord]
      exact h
  | some record =>
      obtain ⟨runtime, hruntime, hagrees, -⟩ := h.live hrecord
      refine settleUpdate_reached h hrecord _ (update_step hrecord
        (submitRecord_step hagrees hruntime caller sessionId o) fun hfailed => ?_)
      exact submitRecord_of_not_admits fun hadmits => hclean hfailed ⟨record, hrecord, hadmits⟩

/-- A read of the store. -/
lemma read_reached (h : Settled slot) (answer : Answer) (next : Option SessionRecord → Frame)
    (hnext : Midway sessionId (next slot.record) slot) :
    Reached sessionId (read answer slot next) := by
  rw [read]
  split
  · exact hnext
  · exact h

/-- A subscription that has read the record. -/
lemma subscribe_reached (h : Settled slot) {record : SessionRecord}
    (hrecord : slot.record = some record) (answer : Answer) (listener : ℕ)
    (command : SessionResumeCommand) :
    Reached sessionId (addSubscriber answer sessionId listener command record slot) := by
  obtain ⟨runtime, hruntime, hagrees, hstreams⟩ := h.live hrecord
  have hafter := hstreams.addSubscriber hagrees.window answer sessionId listener command
  obtain ⟨after, outcome, heq, hrec, hrun, happlied, -⟩ :=
    addSubscriber_cases answer sessionId listener command record slot
  rw [heq] at hafter ⊢
  exact ⟨_, hafter, .live runtime record (hrun.trans hruntime) (hrec.trans hrecord)
    (happlied ▸ hagrees) rfl⟩

/-- **Every segment of every operation keeps the invariant.** -/
theorem proceed_reached (options : ServiceOptions) {frame : Frame} {answer : Answer}
    (hclean : answer.store = .failed → ¬frame.Moves slot) (h : Midway sessionId frame slot) :
    Reached sessionId (proceed options sessionId frame answer slot) := by
  cases frame with
  | create command =>
      rw [proceed]
      split
      · exact Settled.releaseReservation h
      · rename_i runtime hruntime
        exact ⟨h, createRuntime_fresh hruntime⟩
  | createStore command runtime =>
      obtain ⟨hsettled, hfresh⟩ := h
      rw [proceed]
      split
      · split
        · exact hsettled.releaseReservation
        · rename_i hnone
          rw [Option.not_isSome_iff_eq_none] at hnone
          -- nobody can be subscribed to a session without a record
          obtain ⟨-, hsubscribers⟩ := hsettled.gone hnone
          obtain ⟨published, hstreams, -⟩ := hsettled
          exact ⟨hfresh, rfl, hsubscribers, published, hstreams.congr ⟨rfl, rfl, rfl⟩⟩
      · exact hsettled.releaseReservation
  | createDone command runtime =>
      obtain ⟨hfresh, hrecord, hsubscribers, published, hstreams⟩ := h
      refine ⟨0, ⟨fun s hs => ?_, ?_, hstreams.made⟩, .live runtime _ rfl hrecord
        (hfresh.agrees _ _) hfresh.revision⟩
      · change s ∈ slot.subscribers at hs
        rw [hsubscribers] at hs
        cases hs
      · show (slot.subscribers.map SessionSubscriber.index).Nodup
        rw [hsubscribers]
        exact List.nodup_nil
  | get command => exact read_reached h _ _ ⟨h, rfl⟩
  | getRead command record =>
      cases record with
      | none => exact h.1
      | some record => exact h.1
  | reset caller command =>
      rw [proceed]
      split
      · exact h
      · rename_i runtime hruntime
        split
        · exact h
        · rename_i hlocation
          -- the location was found, so the tracker moves, which a late failure of the store is not
          -- allowed with
          refine reset_reached h hruntime caller command answer fun hfailed => ?_
          refine hclean hfailed ⟨runtime, hruntime, fun location hmem => ?_⟩
          by_contra hhas
          exact hlocation ⟨location, hmem, by simpa using hhas⟩
  | submit caller requestId o => exact submit_reached h caller requestId o answer hclean
  | publish requestId snapshot changed =>
      obtain ⟨runtime, record, published, hruntime, hrecord, hagrees, hstreams, rfl, hrevision⟩ := h
      cases changed with
      | false =>
          exact ⟨published, hstreams, .live runtime record hruntime hrecord hagrees hrevision⟩
      | true =>
          -- the stored revision was one ahead of what was published, and no longer is
          have hafter := hstreams.publish answer sessionId hrevision
          obtain ⟨stay, registered, count, heq⟩ := publish_eq answer sessionId record.snapshot slot
          rw [heq] at hafter
          refine ⟨published + 1, ?_, ?_⟩
          · simp only [proceed, if_true]
            rw [heq]
            exact hafter
          · simp only [proceed, if_true]
            rw [heq]
            exact .live runtime record hruntime hrecord hagrees hrevision
  | resume command => exact read_reached h _ _ ⟨h, rfl⟩
  | resumeRead command record =>
      cases record with
      | none => exact h.1
      | some record => exact h.1
  | subscribe listener command => exact read_reached h _ _ ⟨h, rfl⟩
  | subscribeRead listener command record =>
      obtain ⟨hsettled, hrecord⟩ := h
      cases record with
      | none => exact hsettled
      | some record =>
          rw [proceed]
          split
          · exact hsettled
          · exact subscribe_reached hsettled hrecord.symm answer listener command
  | delete command =>
      rw [proceed]
      split
      -- until the deletion is done the set of subscribers is still there
      · obtain ⟨published, hstreams, -⟩ := id h
        refine ⟨rfl, ⟨published, hstreams.congr ⟨rfl, rfl, rfl⟩⟩, fun hdeleted => ?_⟩
        have hnone : slot.record = none := Option.not_isSome_iff_eq_none.mp (by simp [hdeleted])
        refine Settled.congr h ⟨hnone.symm, rfl, rfl, fun _ h => h.congr ⟨rfl, rfl, rfl⟩, id⟩
      · exact h
  | deleteDone command deleted =>
      obtain ⟨hrecord, ⟨published, hstreams⟩, hsettled⟩ := h
      cases deleted with
      | false => exact hsettled rfl
      | true =>
          exact ⟨published, (hstreams.clear false 0 _).congr ⟨rfl, rfl, rfl⟩,
            .absent hrecord rfl rfl⟩

/-! ### Runs -/

/-- Every operation starts from a settled session. -/
lemma midway_of_isCall {frame : Frame} (hcall : frame.IsCall) (h : Settled slot) :
    Midway sessionId frame slot := by
  cases frame <;> first | exact h | exact hcall.elim

/-- Whatever happens outside of the operations keeps the session. -/
lemma touch_same (options : ServiceOptions) (change : Change) (slot : SessionSlot) :
    SameSession slot ((program options).touch sessionId change slot) := by
  cases change with
  | reserve => exact .reservation slot _
  | unsubscribe index => exact .release slot index

/-- The invariant rule of a session. -/
lemma sessionRule (options : ServiceOptions) (sessionId : String) :
    Rule (program options) sessionId Allowed Frame.IsCall Settled (Midway sessionId)
      (fun _ _ => True) where
  call := fun _ _ _ h => h
  start := fun _ _ hcall h => midway_of_isCall hcall h
  next := fun _ f i v f' hallowed h hafter => by
    have hreached := proceed_reached options hallowed h
    rw [Reached] at hreached
    rw [show (proceed options sessionId f i v).2 = .inl f' from hafter] at hreached
    exact hreached
  done := fun _ f i v r hallowed h hafter => by
    have hreached := proceed_reached options hallowed h
    rw [Reached] at hreached
    rw [show (proceed options sessionId f i v).2 = .inr r from hafter] at hreached
    exact ⟨hreached, trivial⟩
  kept := fun _ _ _ _ _ _ _ _ => trivial
  touch := fun d v _ h => h.congr (touch_same options d v)
  touchRunning := fun _ d v _ h => h.congr (touch_same options d v)
  touchKept := fun _ _ _ _ _ => trivial

/-- The invariant of one session. -/
abbrev Invariant (sessionId : String) (x : Local String SessionSlot Frame Outcome) : Prop :=
  Holds Frame.IsCall Settled (Midway sessionId) (fun _ _ => True) x

/-- Every step of a run meets a condition on the state it is taken in. -/
def Along (options : ServiceOptions) (ok : Service → ServiceAction → Prop) :
    Service → List ServiceAction → Prop
  | _, [] => True
  | s, action :: rest => ok s action ∧ Along options ok (s.step options action) rest

/-- No store update fails after it has moved the tracker. -/
def CleanFailure (s : Service) : ServiceAction → Prop
  | .proceed ticket answer => answer.store = .failed →
      ∀ sessionId call previous frame,
        s.entries[ticket]? = some ⟨sessionId, call, previous, .running frame⟩ →
          ¬frame.Moves (s.slot sessionId)
  | _ => True

lemma Along.of_forall (options : ServiceOptions) {ok : Service → ServiceAction → Prop}
    {actions : List ServiceAction} (h : ∀ action ∈ actions, ∀ s, ok s action) (s : Service) :
    Along options ok s actions := by
  induction actions generalizing s with
  | nil => trivial
  | cons action rest ih =>
      exact ⟨h action (by simp) s, ih (fun a ha => h a (by simp [ha])) _⟩

/-- Whether the store answers with a verdict, if it is asked. -/
def ServiceAction.onStore (action : ServiceAction) (verdicts : List StoreVerdict) : Bool :=
  match action with
  | .proceed _ answer => verdicts.contains answer.store
  | _ => true

/-- A store none of whose updates fails late fails cleanly. -/
lemma cleanFailure_of_onStore {action : ServiceAction}
    (h : action.onStore [.committed, .refused] = true) (s : Service) : CleanFailure s action := by
  cases action with
  | proceed ticket answer =>
      intro hfailed
      rw [ServiceAction.onStore, hfailed] at h
      cases h
  | _ => trivial

/-- What a step of the service does to the queue. -/
inductive ServiceStep (options : ServiceOptions) (s : Service) (action : ServiceAction) :
    Service → Prop where
  | refused : ServiceStep options s action s
  | created (sessionId : String) (command : SessionCreateCommand)
      (isCreate : action = .create sessionId command)
      (admitted : s.refusal options action = none) :
      ServiceStep options s action (State.step (program options)
        (State.step (program options) s (.touch sessionId .reserve))
        (.call sessionId (.create command)))
  | called (sessionId : String) (frame : Frame) (isCall : frame.IsCall)
      (isOther : ∀ command, frame ≠ .create command) :
      ServiceStep options s action (State.step (program options) s (.call sessionId frame))
  | quiet (queueAction : Action String Frame Answer Change) (silent : s.event queueAction = none)
      (moves : ∀ ticket answer, queueAction ≠ .resume ticket answer) :
      ServiceStep options s action (State.step (program options) s queueAction)
  | proceeded (ticket : ℕ) (answer : Answer) (isProceed : action = .proceed ticket answer) :
      ServiceStep options s action
        (State.step (program options) s (.resume ticket (s.answering options answer)))
  | left (sessionId : String) (index : ℕ) :
      ServiceStep options s action
        (State.step (program options) s (.touch sessionId (.unsubscribe index)))

lemma step_cases (options : ServiceOptions) (s : Service) (action : ServiceAction) :
    ServiceStep options s action (s.step options action) := by
  rw [Service.step, Service.queueActions.eq_def]
  split
  · exact .refused
  · rename_i hadmitted
    cases action with
    | create sessionId command =>
        exact .created sessionId command rfl (Option.not_isSome_iff_eq_none.mp hadmitted)
    | get command => exact .called _ _ trivial nofun
    | reset caller command => exact .called _ _ trivial nofun
    | submit caller command =>
        dsimp only
        split
        · exact .called _ _ trivial nofun
        · exact .refused
    | resume command => exact .called _ _ trivial nofun
    | subscribe listener command => exact .called _ _ trivial nofun
    | delete command => exact .called _ _ trivial nofun
    | unsubscribe sessionId index => exact .left sessionId index
    | start ticket => exact .quiet (.start ticket) rfl nofun
    | proceed ticket answer => exact .proceeded ticket answer rfl
    | drain ticket => exact .quiet (.drain ticket) rfl nofun
    | clean ticket => exact .quiet (.clean ticket) rfl nofun

/-- The queue of every session is orderly and its invariant holds. -/
def Sound (s : Service) : Prop :=
  ∀ sessionId, Orderly (s.at sessionId) ∧ Invariant sessionId (s.at sessionId)

lemma sound_empty : Sound State.empty := by
  intro sessionId
  refine ⟨Orderly.empty _, Holds.empty ⟨0, ⟨fun _ hs => ?_, List.nodup_nil, fun _ hd => ?_⟩,
    .absent rfl rfl rfl⟩⟩
  · cases hs
  · cases hd

/-- One queue action at which only what is allowed happens. -/
lemma Sound.queueStep {s : Service} (h : Sound s) (options : ServiceOptions)
    (action : Action String Frame Answer Change)
    (hallowed : ∀ sessionId e, s.eventAt action sessionId = some e →
      Allowed e (s.slot sessionId)) :
    Sound (State.step (program options) s action) := by
  intro sessionId
  obtain ⟨horderly, hinv⟩ := h sessionId
  exact ⟨run_orderly (program options) horderly [action],
    step_holds (sessionRule options sessionId) action horderly (hallowed sessionId) hinv⟩

/-- An operation is called. -/
lemma Sound.call {s : Service} (h : Sound s) (options : ServiceOptions) (sessionId : String)
    {frame : Frame} (hcall : frame.IsCall) :
    Sound (State.step (program options) s (.call sessionId frame)) := by
  refine h.queueStep options _ fun sessionId' e he => ?_
  rw [State.eventAt, State.event, Option.bind_some] at he
  split at he
  · cases he
    exact hcall
  · cases he

lemma Sound.touch {s : Service} (h : Sound s) (options : ServiceOptions) (sessionId : String)
    (change : Change) : Sound (State.step (program options) s (.touch sessionId change)) := by
  refine h.queueStep options _ fun sessionId' e he => ?_
  rw [State.eventAt, State.event, Option.bind_some] at he
  split at he
  · cases he
    trivial
  · cases he

/-- Every clean step of a service keeps the invariant of every session. -/
lemma Sound.step {s : Service} (h : Sound s) (options : ServiceOptions) (action : ServiceAction)
    (hclean : CleanFailure s action) : Sound (s.step options action) := by
  have hstep := step_cases options s action
  generalize Service.step options s action = after at hstep
  cases hstep with
  | refused => exact h
  | created sessionId command _ => exact (h.touch options sessionId .reserve).call options _ trivial
  | called sessionId frame hcall => exact h.call options sessionId hcall
  | left sessionId index => exact h.touch options sessionId _
  | quiet queueAction hsilent _ =>
      refine h.queueStep options queueAction fun sessionId e he => ?_
      rw [State.eventAt, hsilent] at he
      cases he
  | proceeded ticket answer hproceed =>
      subst hproceed
      refine h.queueStep options (.resume ticket (s.answering options answer)) ?_
      intro sessionId e he
      rw [State.eventAt, State.event] at he
      split at he
      · rename_i sessionId' call previous frame hentry
        rw [Option.bind_some] at he
        split at he
        · rename_i hsame
          cases he
          cases hsame
          exact fun hfailed => hclean hfailed _ _ _ _ hentry
        · cases he
      · cases he

/-- **The invariant holds in every state of a run whose store updates fail cleanly.** -/
theorem run_sound (options : ServiceOptions) {s : Service} (h : Sound s)
    {actions : List ServiceAction} (hclean : Along options CleanFailure s actions) :
    Sound (s.run options actions) := by
  induction actions generalizing s with
  | nil => exact h
  | cons action rest ih => exact ih (h.step options action hclean.1) hclean.2

/-- While no operation of a session runs, it is settled. -/
lemma Sound.settled {s : Service} (h : Sound s) {sessionId : String}
    (hidle : ∀ y ∈ s.queue sessionId, ∀ frame, y.2.phase ≠ .running frame) :
    Settled (s.slot sessionId) := (h sessionId).2.idle hidle

/-! ### Invariants of every run -/

/-- What happens in any run: operations start from calls. -/
def Called : Event Frame Answer Change → SessionSlot → Prop
  | .called _ frame, _ => frame.IsCall
  | _, _ => True

/-- A service calls nothing else. -/
lemma queueActions_called {options : ServiceOptions} {s : Service} {action : ServiceAction}
    {queueAction : Action String Frame Answer Change}
    (h : queueAction ∈ s.queueActions options action) {key : String} {frame : Frame}
    (hcall : queueAction = .call key frame) : frame.IsCall := by
  subst hcall
  rw [Service.queueActions.eq_def] at h
  split at h
  · cases h
  · cases action with
    | submit caller command =>
        dsimp only at h
        split at h
        · cases List.mem_singleton.mp h
          trivial
        · cases h
    | create sessionId command =>
        rcases List.mem_cons.mp h with h | h
        · cases h
        · cases List.mem_singleton.mp h
          trivial
    | get command =>
        cases List.mem_singleton.mp h
        trivial
    | reset caller command =>
        cases List.mem_singleton.mp h
        trivial
    | resume command =>
        cases List.mem_singleton.mp h
        trivial
    | subscribe listener command =>
        cases List.mem_singleton.mp h
        trivial
    | delete command =>
        cases List.mem_singleton.mp h
        trivial
    | unsubscribe sessionId index => cases List.mem_singleton.mp h
    | start ticket => cases List.mem_singleton.mp h
    | proceed ticket answer => cases List.mem_singleton.mp h
    | drain ticket => cases List.mem_singleton.mp h
    | clean ticket => cases List.mem_singleton.mp h

/-- What every segment and every change from outside keep holds in every run. -/
lemma run_rule {options : ServiceOptions} {sessionId : String} {P : SessionSlot → Prop}
    {Q : Frame → SessionSlot → Prop} {S : Outcome → SessionSlot → Prop}
    (rule : Rule (program options) sessionId Called Frame.IsCall P Q S) (hstart : P default)
    (actions : List ServiceAction) :
    Orderly ((Service.run options State.empty actions).at sessionId) ∧
      Holds Frame.IsCall P Q S ((Service.run options State.empty actions).at sessionId) := by
  refine Loop.foldl_induction (P := fun _ (s : Service) =>
    Orderly (s.at sessionId) ∧ Holds Frame.IsCall P Q S (s.at sessionId))
    ⟨Orderly.empty _, Holds.empty hstart⟩ ?_
  intro _ action s _ h
  refine run_holds rule (fun queueAction hmem s' e he => ?_) h
  cases e with
  | resumed ticket frame answer => trivial
  | touched change => trivial
  | called ticket frame =>
      cases queueAction with
      | call key frame' =>
          rw [State.eventAt, State.event, Option.bind_some] at he
          split at he
          · cases he
            exact queueActions_called hmem rfl
          · cases he
      | resume ticket' answer =>
          rw [State.eventAt, State.event] at he
          split at he
          · rw [Option.bind_some] at he
            split at he <;> cases he
          · cases he
      | touch key change =>
          rw [State.eventAt, State.event, Option.bind_some] at he
          split at he <;> cases he
      | start ticket' => cases he
      | drain ticket' => cases he
      | clean ticket' => cases he

end Qaraa.SessionService
