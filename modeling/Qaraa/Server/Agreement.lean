import Qaraa.Server.SessionService

/-!
The stored record of a session and its tracker.

* `acceptedSince`: the ids accepted since the last reset.
* `Agrees`: the record shows the tracker's snapshot, ids and latest revision, and holds the
  last snapshots.
* `Moved`, `MutationStep`: what the `mutate` callbacks do: nothing, or one change of the
  tracker with a record that agrees.
* `createRuntime_fresh`, `resetRecord_step`, `submitRecord_step`: the three ways a tracker
  is touched.
* `update_step`: **a store update keeps the agreement unless it fails after a change**.
-/

namespace Qaraa.SessionService

open Fallible Ordered

/-- The ids accepted since the last reset. -/
def acceptedSince (applied : List Applied) : List String :=
  applied.foldl (fun ids change =>
    match change with
    | .reset _ => []
    | .accepted _ observationId => ids ++ [observationId]) []

lemma acceptedSince_reset (applied : List Applied) (caller : ℕ) :
    acceptedSince (applied ++ [.reset caller]) = [] := by
  rw [acceptedSince, List.foldl_append]
  rfl

lemma acceptedSince_accepted (applied : List Applied) (caller : ℕ) (id : String) :
    acceptedSince (applied ++ [.accepted caller id]) = acceptedSince applied ++ [id] := by
  rw [acceptedSince, List.foldl_append]
  rfl

/-! ### Agreement -/

/-- The revisions of the snapshots a record holds. -/
def retained (revision : ℕ) : List ℕ := (List.range (revision + 1)).rtake SNAPSHOT_LIMIT

/-- The record is what the tracker says, and holds the last snapshots. -/
structure Agrees (runtime : SessionRuntime) (record : SessionRecord) (applied : List Applied) :
    Prop where
  valid : ValidConfig runtime.config
  tracker : TrackerInvariant runtime.config runtime.tracker
  snapshot : record.snapshot = runtime.tracker.state.snapshot
  ids : record.observationIds = runtime.tracker.state.observationIdOrder
  latest : record.latestSourceRevision = runtime.tracker.state.latestSourceRevision
  window : record.snapshots.map ReadingSnapshot.revision = retained record.snapshot.revision
  last : record.snapshots.getLast? = some record.snapshot
  accepted : acceptedSince applied
    = runtime.tracker.history.accepted.map fun o => o.observationId
  revision : record.snapshot.revision = applied.length

namespace Agrees

variable {runtime : SessionRuntime} {record : SessionRecord} {applied : List Applied}

/-- The stored ids are the last accepted ones. -/
lemma ids_eq (h : Agrees runtime record applied) :
    record.observationIds = (acceptedSince applied).rtake OBSERVATION_ID_LIMIT := by
  rw [h.ids, h.accepted]
  exact h.tracker.remembers.order

/-- The record drops a submission exactly when the tracker would. -/
lemma duplicate_iff (h : Agrees runtime record applied) (observation : RecitationObservation) :
    Duplicate runtime.tracker.state observation ↔
      observation.observationId ∈ record.observationIds ∨
        (observation.sourceRevision : ℤ) < record.latestSourceRevision := by
  rw [Duplicate, OrderedSet.has_iff, h.tracker.remembers.ids, h.ids, h.latest]

lemma mem_snapshots_le (h : Agrees runtime record applied) {snapshot : ReadingSnapshot}
    (hmem : snapshot ∈ record.snapshots) :
    snapshot = record.snapshot ∨ snapshot.revision < record.snapshot.revision := by
  obtain ⟨older, holder⟩ := List.getLast?_eq_some_iff.mp h.last
  rw [holder] at hmem
  rcases List.mem_append.mp hmem with hold | hnew
  · have hsorted : (record.snapshots.map ReadingSnapshot.revision).Pairwise (· < ·) := by
      rw [h.window, retained, List.rtake]
      exact (List.pairwise_lt_range).sublist (List.drop_sublist _ _)
    rw [holder, List.map_append, List.pairwise_append] at hsorted
    exact Or.inr (hsorted.2.2 _ (List.mem_map_of_mem hold) _ (by simp))
  · exact Or.inl (List.mem_singleton.mp hnew)

end Agrees

/-- A new item enters a window, the oldest one goes when it is full. -/
lemma sliceLast_window {α : Type} {limit : ℕ} (window : List α) (item : α) :
    sliceLast limit (window.rtake limit ++ [item])
      = if limit < (window.rtake limit ++ [item]).length then (window.rtake limit ++ [item]).tail
        else window.rtake limit ++ [item] := by
  have hle : (window.rtake limit).length ≤ limit := by
    rw [List.rtake, List.length_drop]
    omega
  rw [sliceLast]
  split
  · rename_i hfull
    have hone : (window.rtake limit ++ [item]).length - limit = 1 := by
      rw [List.length_append, List.length_singleton] at hfull ⊢
      omega
    rw [hone, List.drop_one]
  · rename_i hfree
    rw [Nat.sub_eq_zero_of_le (not_lt.mp hfree), List.drop_zero]

/-- A later revision enters the window of snapshots. -/
lemma retained_succ (revision : ℕ) :
    retained (revision + 1) = sliceLast SNAPSHOT_LIMIT (retained revision ++ [revision + 1]) := by
  have hrange : List.range (revision + 1 + 1) = List.range (revision + 1) ++ [revision + 1] :=
    List.range_succ
  rw [retained, hrange, rtake_append_singleton, retained, sliceLast_window]

lemma map_sliceLast {α β : Type} (f : α → β) (limit : ℕ) (items : List α) :
    (sliceLast limit items).map f = sliceLast limit (items.map f) := by
  rw [sliceLast, sliceLast, List.map_drop, List.length_map]

/-- The next snapshot in a record. -/
lemma Agrees.extend {runtime : SessionRuntime} {record : SessionRecord}
    {applied : List Applied} {change : Applied} (h : Agrees runtime record applied)
    (next : SessionRuntime) (valid : ValidConfig next.config)
    (tracker : TrackerInvariant next.config next.tracker)
    (revision : next.tracker.state.snapshot.revision = record.snapshot.revision + 1)
    {ids : List String} (hids : ids = next.tracker.state.observationIdOrder)
    {latest : ℤ} (hlatest : latest = next.tracker.state.latestSourceRevision)
    (accepted : acceptedSince (applied ++ [change])
      = next.tracker.history.accepted.map fun o => o.observationId) :
    Agrees next (record.extend next.tracker.state.snapshot ids latest) (applied ++ [change]) where
  valid := valid
  tracker := tracker
  snapshot := rfl
  ids := hids
  latest := hlatest
  window := by
    rw [SessionRecord.extend]
    dsimp only
    rw [map_sliceLast, List.map_append, h.window, List.map_singleton, revision, ← retained_succ]
  last := by
    have hpos : (record.snapshots ++ [next.tracker.state.snapshot]).length - SNAPSHOT_LIMIT
        ≤ record.snapshots.length := by
      rw [List.length_append, List.length_singleton, SNAPSHOT_LIMIT]
      omega
    rw [SessionRecord.extend]
    dsimp only
    rw [sliceLast, List.drop_append_of_le_length hpos, List.getLast?_concat]
  accepted := accepted
  revision := by
    rw [SessionRecord.extend, List.length_append, List.length_singleton, ← h.revision]
    exact revision

/-! ### Creation -/

/-- A tracker nothing has happened to. -/
structure SessionRuntime.Fresh (runtime : SessionRuntime) : Prop where
  valid : ValidConfig runtime.config
  tracker : TrackerInvariant runtime.config runtime.tracker
  accepted : runtime.tracker.history.accepted = []
  revision : runtime.tracker.state.snapshot.revision = 0

/-- `createRuntime` makes the tracker of an accepted corpus. -/
lemma createRuntime_ok {options : ServiceOptions} {command : SessionCreateCommand}
    {answer : ResolverAnswer} {runtime : SessionRuntime}
    (h : createRuntime options command answer = .ok runtime) :
    ∃ tracker : CreatedTracker, tracker.initialLocation = command.initialLocation ∧
      tracker.findingMode = command.findingMode ∧
      runtime = ⟨tracker.run [], tracker.config⟩ := by
  rw [createRuntime, bind_eq_ok] at h
  obtain ⟨index, hindex, h⟩ := h
  rw [indexedCorpusFor, bind_eq_ok] at hindex
  obtain ⟨corpus, -, hindex⟩ := hindex
  rw [bind_eq_ok] at h
  obtain ⟨-, -, h⟩ := h
  rw [bind_eq_ok] at h
  obtain ⟨created, hcreated, h⟩ := h
  cases hi : indexCorpus corpus with
  | error error =>
      rw [hi] at hindex
      cases hindex
  | ok index' =>
      rw [hi] at hindex
      cases hindex
      cases hc : createReadingTracker ⟨index, command.initialLocation, command.findingMode⟩ with
      | error error =>
          rw [hc] at hcreated
          cases hcreated
      | ok created' =>
          rw [hc] at hcreated
          cases hcreated
          cases pure_eq_ok.mp h
          exact ⟨⟨corpus, index, command.initialLocation, command.findingMode, created.1, created.2,
            hi, hc⟩, rfl, rfl, rfl⟩

lemma createRuntime_fresh {options : ServiceOptions} {command : SessionCreateCommand}
    {answer : ResolverAnswer} {runtime : SessionRuntime}
    (h : createRuntime options command answer = .ok runtime) : runtime.Fresh := by
  obtain ⟨tracker, -, -, rfl⟩ := createRuntime_ok h
  obtain ⟨-, -, -, -, i, -, hcreated⟩ := createReadingTracker_ok tracker.creation
  refine ⟨tracker.valid, tracker.invariant [], rfl, ?_⟩
  show tracker.created.snapshot.revision = 0
  rw [hcreated]
  rfl

/-- The first record agrees. -/
lemma SessionRuntime.Fresh.agrees {runtime : SessionRuntime} (h : runtime.Fresh)
    (sessionId corpusId : String) :
    Agrees runtime (runtime.firstRecord sessionId corpusId) [] where
  valid := h.valid
  tracker := h.tracker
  snapshot := rfl
  ids := by
    have horder := h.tracker.remembers.order
    rw [h.accepted] at horder
    rw [horder]
    rfl
  latest := by
    rw [h.tracker.latest, h.accepted]
    rfl
  window := by
    show [runtime.tracker.state.snapshot.revision]
      = retained runtime.tracker.state.snapshot.revision
    rw [h.revision]
    rfl
  last := rfl
  accepted := by
    rw [h.accepted]
    rfl
  revision := h.revision

/-! ### Changes -/

/-- A change of the tracker, with the record it makes. -/
structure Moved (slot : SessionSlot) (record : SessionRecord) (after : SessionSlot)
    (next : SessionRecord) (runtime : SessionRuntime) (change : Applied) : Prop where
  result : after = { slot with runtime := some runtime, applied := slot.applied ++ [change] }
  agrees : Agrees runtime next (slot.applied ++ [change])
  revision : next.snapshot.revision = record.snapshot.revision + 1

/-- What `mutate` does. -/
inductive MutationStep (slot : SessionSlot) (record : SessionRecord) : Mutation → Prop where
  | threw (error : ServiceError) : MutationStep slot record (slot, .error error)
  | same : MutationStep slot record (slot, .ok (record, false))
  | moved (after : SessionSlot) (next : SessionRecord) (runtime : SessionRuntime)
      (change : Applied) (moved : Moved slot record after next runtime change) :
      MutationStep slot record (after, .ok (next, true))

variable {slot : SessionSlot} {runtime : SessionRuntime} {record : SessionRecord}

/-- The runtime after a command of its tracker. -/
def SessionRuntime.step (runtime : SessionRuntime) (command : TrackerCommand) : SessionRuntime :=
  ⟨runtime.tracker.step runtime.config command, runtime.config⟩

/-- A reset the tracker carries out. -/
lemma resetRecord_ok (h : Agrees runtime record slot.applied) (caller : ℕ)
    (command : SessionResetCommand) {result : ReadingSnapshot × TrackerState}
    (hreset : reset runtime.config runtime.tracker.state command.location = .ok result) :
    ∃ after next, resetRecord caller command runtime slot record = (after, .ok (next, true)) ∧
      Moved slot record after next (runtime.step (.reset command.location)) (.reset caller) ∧
      result.1 = next.snapshot ∧ result.2.snapshot = next.snapshot := by
  set tracker := runtime.tracker.step runtime.config (.reset command.location) with htracker
  have hstep : TrackerInvariant runtime.config tracker := h.tracker.step h.valid _
  obtain ⟨i, hi, hresult⟩ := bind_eq_ok.mp hreset
  have hstate : tracker.state = result.2 := by
    rw [htracker, Traced.step, stepTracker, applyCommand, hreset]
  have hnext : result.2 = TrackerState.initial i (runtime.tracker.state.snapshot.revision + 1)
      (command.location.getD runtime.config.defaultInitialLocation) := by
    rw [← pure_eq_ok.mp hresult]
  have hsnapshot : result.1 = result.2.snapshot := by
    rw [← pure_eq_ok.mp hresult]
  have hrevision : result.2.snapshot.revision = record.snapshot.revision + 1 := by
    rw [hnext, h.snapshot]
    rfl
  have hchanged : ¬result.2.snapshot.revision = runtime.tracker.state.snapshot.revision := by
    rw [hrevision, h.snapshot]
    omega
  have haccepted : tracker.history.accepted = [] := by
    rw [htracker, Traced.step]
    simp only [stepTracker, applyCommand, hreset, History.record, if_neg hchanged]
  have hagrees : Agrees (runtime.step (.reset command.location)) (record.extend result.1 [] (-1))
      (slot.applied ++ [.reset caller]) := by
    rw [hsnapshot, ← hstate]
    refine h.extend (runtime.step (.reset command.location)) h.valid hstep ?_ ?_ ?_ ?_
    · exact (congrArg (fun state => state.snapshot.revision) hstate).trans hrevision
    · refine Eq.symm ((congrArg TrackerState.observationIdOrder hstate).trans ?_)
      rw [hnext]
      rfl
    · refine Eq.symm ((congrArg TrackerState.latestSourceRevision hstate).trans ?_)
      rw [hnext]
      rfl
    · rw [acceptedSince_reset]
      exact (congrArg (List.map fun o => o.observationId) haccepted).symm
  refine ⟨_, _, ?_, ⟨rfl, hagrees, ?_⟩, rfl, hsnapshot.symm⟩
  · rw [resetRecord, hreset]
    rfl
  · show result.1.revision = _
    rw [hsnapshot]
    exact hrevision

/-- A reset of the tracker. -/
lemma resetRecord_step (h : Agrees runtime record slot.applied) (caller : ℕ)
    (command : SessionResetCommand) :
    MutationStep slot record (resetRecord caller command runtime slot record) := by
  cases hreset : reset runtime.config runtime.tracker.state command.location with
  | error error =>
      rw [resetRecord, hreset]
      exact .threw _
  | ok result =>
      obtain ⟨after, next, heq, hmoved, -, -⟩ := resetRecord_ok h caller command hreset
      rw [heq]
      exact .moved after next _ _ hmoved

/-- Whether a submission is neither remembered by a record nor out of date. -/
def SessionRecord.Admits (record : SessionRecord) (observation : RecitationObservation) : Prop :=
  observation.observationId ∉ record.observationIds ∧
    record.latestSourceRevision ≤ observation.sourceRevision

/-- A fresh submission is accepted by the tracker. -/
lemma submitRecord_fresh (h : Agrees runtime record slot.applied)
    (hslot : slot.runtime = some runtime) (caller : ℕ) (sessionId : String)
    (o : CheckedObservation) (hfresh : record.Admits o.observation) :
    ∃ after next state, submitRecord caller sessionId o slot record = (after, .ok (next, true)) ∧
      Moved slot record after next (runtime.step (.submit o.value))
        (.accepted caller o.observation.observationId) ∧
      submit runtime.config runtime.tracker.state o.value = .ok (next.snapshot, state) ∧
      state.snapshot = next.snapshot ∧
      next.snapshot.observationId = some o.observation.observationId := by
  obtain ⟨hnew, hcurrent⟩ := hfresh
  set tracker := runtime.tracker.step runtime.config (.submit o.value) with htracker
  have hstep : TrackerInvariant runtime.config tracker := h.tracker.step h.valid _
  rcases h.tracker.submit_cases h.valid o.checked with ⟨hdup, -⟩ | ⟨-, after, hsubmit, hacc⟩
  · rcases (h.duplicate_iff o.observation).mp hdup with hmem | hlt
    · exact absurd hmem hnew
    · omega
  · have hstate : tracker.state = after := by
      rw [htracker, Traced.step, stepTracker, applyCommand, hsubmit]
    have hchanged : ¬after.snapshot.revision = runtime.tracker.state.snapshot.revision := by
      have := hacc.revision
      omega
    have hrevision : after.snapshot.revision = record.snapshot.revision + 1 := by
      rw [h.snapshot]
      exact hacc.revision
    have haccepted : tracker.history.accepted
        = runtime.tracker.history.accepted ++ [o.observation] := by
      rw [htracker, Traced.step]
      simp only [stepTracker, applyCommand, hsubmit, History.record, o.checked, if_neg hchanged]
    have hids : sliceLast OBSERVATION_ID_LIMIT
        (record.observationIds ++ [o.observation.observationId])
          = tracker.state.observationIdOrder := by
      have horder := hstep.remembers.order
      have hwindow := rtake_append_singleton
        (runtime.tracker.history.accepted.map fun o => o.observationId) o.observation.observationId
        OBSERVATION_ID_LIMIT
      have hold := h.tracker.remembers.order
      rw [haccepted, List.map_append, List.map_singleton] at horder
      rw [horder]
      refine Eq.trans ?_ hwindow.symm
      rw [h.ids, hold]
      exact sliceLast_window _ _
    have hagrees : Agrees (runtime.step (.submit o.value)) (record.extend after.snapshot
        (sliceLast OBSERVATION_ID_LIMIT (record.observationIds ++ [o.observation.observationId]))
        o.observation.sourceRevision)
        (slot.applied ++ [.accepted caller o.observation.observationId]) := by
      rw [← hstate]
      refine h.extend (runtime.step (.submit o.value)) h.valid hstep ?_ hids ?_ ?_
      · exact (congrArg (fun state => state.snapshot.revision) hstate).trans hrevision
      · exact Eq.symm ((congrArg TrackerState.latestSourceRevision hstate).trans hacc.latest)
      · rw [acceptedSince_accepted, h.accepted]
        refine Eq.symm ((congrArg (List.map fun o => o.observationId) haccepted).trans ?_)
        rw [List.map_append]
        rfl
    rw [submitRecord, if_neg hnew, if_neg (not_lt.mpr hcurrent), hslot]
    simp only [hsubmit, if_neg hchanged]
    exact ⟨_, _, after, rfl, ⟨rfl, hagrees, hrevision⟩, rfl, rfl, hacc.observationId⟩

/-- A submission of the tracker. -/
lemma submitRecord_step (h : Agrees runtime record slot.applied)
    (hslot : slot.runtime = some runtime) (caller : ℕ) (sessionId : String)
    (o : CheckedObservation) :
    MutationStep slot record (submitRecord caller sessionId o slot record) := by
  by_cases hfresh : record.Admits o.observation
  · obtain ⟨after, next, -, heq, hmoved, -⟩ :=
      submitRecord_fresh h hslot caller sessionId o hfresh
    rw [heq]
    exact .moved after next _ _ hmoved
  · rw [submitRecord]
    split
    · exact .same
    · rename_i hnew
      split
      · exact .threw _
      · rename_i hcurrent
        exact absurd ⟨hnew, not_lt.mp hcurrent⟩ hfresh

/-! ### Store updates -/

/-- What is left of an update that keeps the agreement. -/
inductive UpdateStep (slot : SessionSlot) (record : SessionRecord) : Mutation → Prop where
  | rejected (error : ServiceError) : UpdateStep slot record (slot, .error error)
  | same : UpdateStep slot record (slot, .ok (record, false))
  | moved (after : SessionSlot) (next : SessionRecord) (runtime : SessionRuntime)
      (change : Applied) (moved : Moved slot record after next runtime change) :
      UpdateStep slot record ({ after with record := some next }, .ok (next, true))

/-- **A store update keeps the agreement unless it fails after a change.** -/
theorem update_step {verdict : StoreVerdict} {sessionId : String}
    {mutate : SessionRecord → Mutation} (hrecord : slot.record = some record)
    (hmutate : MutationStep slot record (mutate record))
    (hclean : verdict = .failed → (mutate record).1 = slot) :
    UpdateStep slot record (update verdict sessionId mutate slot) := by
  have hsame : ({ slot with record := some record } : SessionSlot) = slot := by
    rw [← hrecord]
  rw [update, hrecord]
  cases verdict with
  | refused => exact .rejected _
  | failed =>
      dsimp only
      rw [hclean rfl]
      exact .rejected _
  | committed =>
      dsimp only
      generalize mutate record = mutation at hmutate
      cases hmutate with
      | threw error => exact .rejected error
      | same =>
          dsimp only
          rw [hsame]
          exact .same
      | moved after next runtime change hmoved => exact .moved after next runtime change hmoved

end Qaraa.SessionService
