import Qaraa.Server.SessionInvariant
import Qaraa.Server.Serializability

/-!
Sessions over a store whose updates may be rejected.

* `Consistent`: the stored record of a live session is what its tracker has accepted.
* `store_failures_consistent`: **while no store update fails after it has moved the
  tracker, sessions stay consistent and a rejected submission can be made again**.
* `lost_update`: a submission whose update fails after `mutate` has run is lost: the
  tracker has it, the record never will.
-/

namespace Qaraa.SessionService

open Fallible Ordered KeyedQueue

/-- The record of a live session shows the snapshot of the tracker and the observations it
has accepted since the last reset. -/
def Consistent (slot : SessionSlot) : Prop :=
  ∀ runtime, slot.runtime = some runtime → ∃ record, slot.record = some record ∧
    record.snapshot = runtime.tracker.state.snapshot ∧
    record.observationIds = (runtime.tracker.history.accepted.map
      fun o => o.observationId).rtake OBSERVATION_ID_LIMIT ∧
    record.latestSourceRevision
      = (runtime.tracker.history.accepted.getLast?.map fun o => (o.sourceRevision : ℤ)).getD (-1)

lemma Settled.consistent {slot : SessionSlot} (h : Settled slot) : Consistent slot := by
  intro runtime hruntime
  obtain ⟨published, -, hstatus⟩ := h
  cases hstatus with
  | absent _ hnone _ =>
      rw [hnone] at hruntime
      cases hruntime
  | live runtime' record htracks hstores hagrees _ =>
      obtain rfl : runtime' = runtime := Option.some.inj (htracks.symm.trans hruntime)
      refine ⟨record, hstores, hagrees.snapshot, ?_, hagrees.latest.trans hagrees.tracker.latest⟩
      rw [hagrees.ids]
      exact hagrees.tracker.remembers.order

/-- A submission whose update is rejected leaves the session as it was. -/
lemma submit_rejected (options : ServiceOptions) (sessionId : String) {slot : SessionSlot}
    {caller : ℕ} {requestId : String} {o : CheckedObservation} (answer : Answer)
    (hclean : answer.store = .failed → ¬(Frame.submit caller requestId o).Moves slot)
    (hrejected : answer.store ≠ .committed) :
    (proceed options sessionId (.submit caller requestId o) answer slot).1 = slot := by
  rw [proceed, update]
  cases hrecord : slot.record with
  | none => rfl
  | some record =>
      cases hverdict : answer.store with
      | committed => exact absurd hverdict hrejected
      | refused => rfl
      | failed =>
          exact submitRecord_of_not_admits fun hadmits =>
            hclean hverdict ⟨record, hrecord, hadmits⟩

/-- A submission the record admits, whose update is committed, is applied and stored. -/
lemma submit_committed (options : ServiceOptions) (sessionId : String) {slot : SessionSlot}
    (caller : ℕ) (requestId : String) {o : CheckedObservation} (answer : Answer)
    (h : Settled slot) (hcommitted : answer.store = .committed) {record : SessionRecord}
    (hrecord : slot.record = some record) (hadmits : record.Admits o.observation) :
    ∃ next runtime,
      (proceed options sessionId (.submit caller requestId o) answer slot).1.record = some next ∧
      (proceed options sessionId (.submit caller requestId o) answer slot).1.runtime
        = some runtime ∧
      (proceed options sessionId (.submit caller requestId o) answer slot).2
        = .inl (.publish requestId next.snapshot true) ∧
      runtime.tracker.state.snapshot = next.snapshot ∧
      next.snapshot.observationId = some o.observation.observationId ∧
      next.snapshot.revision = record.snapshot.revision + 1 := by
  obtain ⟨runtime, hruntime, hagrees, -⟩ := h.live hrecord
  obtain ⟨after, next, -, heq, hmoved, -, -, hid⟩ :=
    submitRecord_fresh hagrees hruntime caller sessionId o hadmits
  have hproceed : proceed options sessionId (.submit caller requestId o) answer slot
      = ({ after with record := some next }, .inl (.publish requestId next.snapshot true)) := by
    rw [proceed, update, hrecord, hcommitted]
    dsimp only
    rw [heq]
    rfl
  rw [hproceed]
  refine ⟨next, _, rfl, ?_, rfl, hmoved.agrees.snapshot.symm, hid, hmoved.revision⟩
  dsimp only
  rw [hmoved.result]

/-- **Rejected store updates leave a session consistent.** In every run in which no store
update fails after it has moved the tracker: while no operation of a live session is under
way its record is what the tracker has accepted; a submission whose update is rejected
changes nothing; and a submission the record admits, also one that was rejected before, is
applied, stored and published when its update is committed. -/
theorem store_failures_consistent (options : ServiceOptions) (actions : List ServiceAction)
    (hclean : Along options CleanFailure State.empty actions) (sessionId : String) :
    let s := Service.run options State.empty actions
    ((∀ y ∈ s.queue sessionId, ∀ frame, y.2.phase ≠ .running frame) →
      Consistent (s.slot sessionId)) ∧
    ∀ ticket call previous caller requestId o answer,
      s.entries[ticket]? = some ⟨sessionId, call, previous,
        .running (.submit caller requestId o)⟩ →
      CleanFailure s (.proceed ticket answer) →
      let after := Service.step options s (.proceed ticket answer)
      (answer.store ≠ .committed → after.slot sessionId = s.slot sessionId) ∧
      (answer.store = .committed → ∀ record, (s.slot sessionId).record = some record →
        record.Admits o.observation →
        ∃ next runtime, (after.slot sessionId).record = some next ∧
          (after.slot sessionId).runtime = some runtime ∧
          runtime.tracker.state.snapshot = next.snapshot ∧
          next.snapshot.observationId = some o.observation.observationId ∧
          next.snapshot.revision = record.snapshot.revision + 1 ∧
          ∀ answer', ((Service.step options after (.proceed ticket answer')).slot
              sessionId).delivered
            = (after.slot sessionId).delivered ++ (after.slot sessionId).subscribers.map
              fun subscriber => (subscriber.index,
                SessionSlot.event sessionId subscriber.requestId next.snapshot)) := by
  have hsound := run_sound options sound_empty hclean
  intro s
  refine ⟨fun hidle => (hsound.settled hidle).consistent, ?_⟩
  intro ticket call previous caller requestId o answer hentry hstep after
  have hmidway : Settled (s.slot sessionId) :=
    (hsound sessionId).2.busy (ticket, _) (State.mem_queue.mpr ⟨hentry, rfl⟩) _ rfl
  have hmoves : answer.store = .failed →
      ¬(Frame.submit caller requestId o).Moves (s.slot sessionId) :=
    fun hfailed => hstep hfailed _ _ _ _ hentry
  obtain ⟨hslot, hnow⟩ := Service.step_proceed options hentry answer
  refine ⟨fun hrejected => ?_, fun hcommitted record hrecord hadmits => ?_⟩
  · exact hslot.trans (submit_rejected options sessionId _ hmoves hrejected)
  · obtain ⟨next, runtime, hrec, hrun, hframe, hsnapshot, hid, hrevision⟩ :=
      submit_committed options sessionId caller requestId (Service.answering options s answer)
        hmidway hcommitted hrecord hadmits
    refine ⟨next, runtime, (congrArg SessionSlot.record hslot).trans hrec,
      (congrArg SessionSlot.runtime hslot).trans hrun, hsnapshot, hid, hrevision,
      fun answer' => ?_⟩
    rw [hframe] at hnow
    obtain ⟨hlast, -⟩ := Service.step_proceed options hnow answer'
    obtain ⟨stay, registered, count, hpublish⟩ := publish_eq
      (Service.answering options after answer') sessionId next.snapshot (after.slot sessionId)
    exact (congrArg SessionSlot.delivered hlast).trans (congrArg SessionSlot.delivered hpublish)

/-! ### An update that fails late -/

/-- A submission to session `A`. -/
def sampleCommand (id : String) (sourceRevision : ℕ) (phonemes : List String) :
    ObservationSubmitCommand :=
  let value := sampleObservation id sourceRevision true phonemes
  ⟨"r", "A", value.field "observationId", value.field "sourceRevision", value.field "isFinal",
    value.field "receivedAtMs", value.field "tokens"⟩

/-- A submission to a session with one subscriber, the store answering with a verdict. -/
def submission (verdict : StoreVerdict) : List ServiceAction :=
  [createSample] ++ serveSample 0 3 ++ [.subscribe 0 ⟨"r", "A", 0⟩] ++ serveSample 1 2
    ++ [.submit 0 (sampleCommand "a" 1 ["p0"]), .start 2, .proceed 2 { store := verdict },
      .drain 2, .clean 2]

/-- The same observation submitted again. -/
def resubmission : List ServiceAction :=
  .submit 1 (sampleCommand "a" 1 ["p0"]) :: serveSample 3 2

/-- The revisions of the record and of the tracker, and how often subscribers were called. -/
def SessionSlot.progress (slot : SessionSlot) : Option ℕ × Option ℕ × ℕ :=
  (slot.record.map fun record => record.snapshot.revision,
    slot.runtime.map fun runtime => runtime.tracker.state.snapshot.revision,
    slot.delivered.length)

/-- A submission the store refuses, made again. -/
theorem store_failures_consistent_refused :
    Consistent ((Service.run singleOptions State.empty
      (submission .refused ++ resubmission)).slot "A") := by
  have hstore : ∀ action ∈ submission .refused ++ resubmission,
      action.onStore [.committed, .refused] = true := by decide
  have hclean := Along.of_forall singleOptions
    (fun action haction s => cleanFailure_of_onStore (hstore action haction) s) State.empty
  refine (store_failures_consistent singleOptions _ hclean "A").1 (idle_of_drained ?_ "A")
  decide +kernel

example : ((Service.run singleOptions State.empty (submission .refused ++ resubmission)).slot
    "A").progress = (some 1, some 1, 1) := by decide +kernel

/-- **An observation whose update fails late is lost**: with no operation in flight the
tracker is a revision ahead of the record, and the observation made again is neither
stored nor published. -/
theorem lost_update :
    let s := Service.run singleOptions State.empty (submission .failed)
    let s' := Service.run singleOptions s resubmission
    s.entries.all (fun e => e.phase.isDrained) = true ∧
    (s.slot "A").progress = (some 0, some 1, 0) ∧
    s'.entries.all (fun e => e.phase.isDrained) = true ∧
    (s'.slot "A").progress = (some 0, some 1, 0) := by
  decide +kernel

end Qaraa.SessionService
