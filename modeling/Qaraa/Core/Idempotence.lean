import Qaraa.Core.SampleCorpus

/-!
Observations are applied at most once.

* `CheckedObservation`: a submitted value that passes the boundary validation.
* `submit_unchanged_iff`: a submission is dropped exactly when its id is in the window of
  the last accepted ids or its source revision is out of date; otherwise the revision
  grows by one.
* `accepted_ids_nodup`: when ids and source revisions determine each other, no id is
  accepted twice, whatever has left the window.
-/

namespace Qaraa

open Fallible Ordered

/-- A value that passes the boundary validation, with the observation it holds. -/
structure CheckedObservation where
  value : JsValue
  observation : RecitationObservation
  checked : validateObservation value = .ok observation

/-- The id is one of the last accepted ones, or the source revision is below the latest
accepted one. -/
def OutOfDate (accepted : List RecitationObservation) (observation : RecitationObservation) :
    Prop :=
  observation.observationId
      ∈ (accepted.map fun o => o.observationId).rtake OBSERVATION_ID_LIMIT ∨
    ∃ last ∈ accepted.getLast?, observation.sourceRevision < last.sourceRevision

lemma TrackerInvariant.duplicate_iff {config : TrackerConfig} {traced : Traced}
    (h : TrackerInvariant config traced) (observation : RecitationObservation) :
    Duplicate traced.state observation ↔ OutOfDate traced.history.accepted observation := by
  rw [Duplicate, OutOfDate, OrderedSet.has_iff, h.remembers.ids, h.remembers.order]
  refine or_congr_right ?_
  rw [h.latest]
  cases traced.history.accepted.getLast? with
  | none =>
      simp only [Option.map_none, Option.getD_none, Option.mem_def, reduceCtorEq, false_and,
        exists_false, iff_false, not_lt]
      omega
  | some last => simp

/-- Each id carries one source revision, and each source revision one id. -/
def Consistent (observations : List RecitationObservation) : Prop :=
  ∀ o ∈ observations, ∀ o' ∈ observations,
    o.observationId = o'.observationId ↔ o.sourceRevision = o'.sourceRevision

instance (observations : List RecitationObservation) : Decidable (Consistent observations) := by
  unfold Consistent
  infer_instance

/-- An id accepted before is out of date: it is still in the window, or its revision is
below the latest one. -/
lemma outOfDate_of_mem {accepted : List RecitationObservation}
    {observation : RecitationObservation}
    (hrevisions : accepted.Pairwise fun o o' => o.sourceRevision ≤ o'.sourceRevision)
    (hconsistent : Consistent (accepted ++ [observation]))
    (hmem : observation.observationId ∈ accepted.map fun o => o.observationId) :
    OutOfDate accepted observation := by
  obtain ⟨earlier, hearlier, hid⟩ := List.mem_map.mp hmem
  rcases List.eq_nil_or_concat accepted with rfl | ⟨init, last, hconcat⟩
  · simp at hearlier
  · rw [List.concat_eq_append] at hconcat
    have hrev : earlier.sourceRevision = observation.sourceRevision :=
      (hconsistent earlier (by simp [hearlier]) observation (by simp)).mp hid
    have hle : earlier.sourceRevision ≤ last.sourceRevision := by
      rw [hconcat] at hrevisions hearlier
      rcases List.mem_append.mp hearlier with hin | hin
      · exact (List.pairwise_append.mp hrevisions).2.2 earlier hin last (by simp)
      · rw [List.mem_singleton.mp hin]
    rcases Nat.lt_or_ge observation.sourceRevision last.sourceRevision with hlt | hge
    · exact Or.inr ⟨last, by simp [hconcat], hlt⟩
    · -- the revisions agree, so the last accepted id is the submitted one
      have hlast : last.observationId = observation.observationId :=
        (hconsistent last (by simp [hconcat]) observation (by simp)).mpr (by omega)
      refine Or.inl ?_
      rw [hconcat, List.map_append, List.map_singleton, rtake_append_singleton, hlast]
      have hwindow : ((init.map fun o => o.observationId).rtake OBSERVATION_ID_LIMIT).length
          ≤ OBSERVATION_ID_LIMIT := by
        rw [List.rtake, List.length_drop]
        omega
      split
      · rename_i hfull
        rw [List.tail_append_of_ne_nil]
        · simp
        · intro hnil
          rw [hnil] at hfull
          simp [OBSERVATION_ID_LIMIT] at hfull
      · simp

/-- A checked submission returns the current snapshot and changes nothing exactly when it
is out of date, and otherwise increases the revision by one. -/
lemma submit_unchanged_iff (tracker : CreatedTracker) (commands : List TrackerCommand)
    (o : CheckedObservation) :
    (submit tracker.config (tracker.run commands).state o.value
        = .ok (tracker.snapshotAfter commands, (tracker.run commands).state) ↔
      OutOfDate (tracker.run commands).history.accepted o.observation) ∧
    (OutOfDate (tracker.run commands).history.accepted o.observation ∨ ∃ after,
      submit tracker.config (tracker.run commands).state o.value = .ok (after.snapshot, after) ∧
        after.snapshot.revision = (tracker.snapshotAfter commands).revision + 1) := by
  have hinv := tracker.invariant commands
  have hiff := hinv.duplicate_iff o.observation
  rcases hinv.submit_cases tracker.valid o.checked with
    ⟨hdup, hsubmit⟩ | ⟨hnew, after, hsubmit, hacc⟩
  · exact ⟨⟨fun _ => hiff.mp hdup, fun _ => hsubmit⟩, Or.inl (hiff.mp hdup)⟩
  · refine ⟨⟨fun hsame => ?_, fun hout => absurd (hiff.mpr hout) hnew⟩,
      Or.inr ⟨after, hsubmit, hacc.revision⟩⟩
    rw [hsubmit] at hsame
    have hstate : after = (tracker.run commands).state := congrArg Prod.snd (Except.ok.inj hsame)
    have hrev := hacc.revision
    rw [hstate] at hrev
    omega

/-- The checked observations among the commands. -/
def submittedObservations (commands : List TrackerCommand) : List RecitationObservation :=
  commands.filterMap fun command =>
    match command with
    | .submit value => (validateObservation value).toOption
    | .reset _ => none

/-- What a step adds to the accepted observations. -/
lemma TrackerInvariant.accepted_step {config : TrackerConfig} (hvalid : ValidConfig config)
    {traced : Traced} (hinv : TrackerInvariant config traced) (command : TrackerCommand) :
    (traced.step config command).history.accepted = traced.history.accepted ∨
    (traced.step config command).history.accepted = [] ∨
    ∃ observation ∈ submittedObservations [command],
      ¬OutOfDate traced.history.accepted observation ∧
      (traced.step config command).history.accepted
        = traced.history.accepted ++ [observation] := by
  cases hinv.commandStep hvalid command with
  | unchanged hnext => exact Or.inl (by rw [hnext])
  | restarted location i _ _ hnext => exact Or.inr (Or.inl (by rw [hnext]))
  | accepted value observation after hcommand hcheck hnew hacc hnext =>
      refine Or.inr (Or.inr ⟨observation, ?_, ?_, by rw [hnext]⟩)
      · simp [hcommand, submittedObservations, hcheck, Except.toOption]
      · exact fun hout => hnew ((hinv.duplicate_iff observation).mpr hout)

/-- Consistent submissions are accepted under distinct ids. -/
lemma accepted_ids_nodup (tracker : CreatedTracker) {commands : List TrackerCommand}
    (h : Consistent (submittedObservations commands)) :
    (∀ o ∈ (tracker.run commands).history.accepted, o ∈ submittedObservations commands) ∧
      ((tracker.run commands).history.accepted.map fun o => o.observationId).Nodup := by
  induction commands using List.reverseRecOn with
  | nil => exact ⟨by simp [CreatedTracker.run, traceRun], List.nodup_nil⟩
  | append_singleton commands command ih =>
      have hsplit : submittedObservations (commands ++ [command])
          = submittedObservations commands ++ submittedObservations [command] := by
        rw [submittedObservations, List.filterMap_append]
        rfl
      rw [hsplit] at h
      obtain ⟨hmem, hnodup⟩ := ih fun o ho o' ho' => h o (by simp [ho]) o' (by simp [ho'])
      have hinv := tracker.invariant commands
      rw [tracker.run_concat, hsplit]
      rcases hinv.accepted_step tracker.valid command with hsame | hnone | ⟨o, ho, hnew, hadd⟩
      · rw [hsame]
        exact ⟨fun o ho => by simp [hmem o ho], hnodup⟩
      · rw [hnone]
        exact ⟨by simp, List.nodup_nil⟩
      · rw [hadd]
        constructor
        · intro o' ho'
          rcases List.mem_append.mp ho' with ho' | ho'
          · simp [hmem o' ho']
          · rw [List.mem_singleton.mp ho']
            exact List.mem_append_right _ ho
        · rw [List.map_append, List.map_singleton, List.nodup_append]
          refine ⟨hnodup, List.nodup_singleton _, fun id hid id' hid' hsame => hnew ?_⟩
          rw [List.mem_singleton.mp hid'] at hsame
          refine outOfDate_of_mem hinv.revisions (fun a ha b hb => h a ?_ b ?_) (hsame ▸ hid)
          · rcases List.mem_append.mp ha with ha | ha
            · simp [hmem a ha]
            · rw [List.mem_singleton.mp ha]
              exact List.mem_append_right _ ho
          · rcases List.mem_append.mp hb with hb | hb
            · simp [hmem b hb]
            · rw [List.mem_singleton.mp hb]
              exact List.mem_append_right _ ho

/-- **Observations are applied at most once.** A checked submission is dropped unchanged
exactly when its id is among the last accepted ones or its source revision is below the
latest, and otherwise increases the revision by one; and when ids and source revisions
determine each other over the run, no id is accepted twice between two resets. -/
theorem applied_at_most_once (tracker : CreatedTracker) (commands : List TrackerCommand) :
    (∀ o : CheckedObservation,
      (submit tracker.config (tracker.run commands).state o.value
          = .ok (tracker.snapshotAfter commands, (tracker.run commands).state) ↔
        OutOfDate (tracker.run commands).history.accepted o.observation) ∧
      (OutOfDate (tracker.run commands).history.accepted o.observation ∨ ∃ after,
        submit tracker.config (tracker.run commands).state o.value
          = .ok (after.snapshot, after) ∧
        after.snapshot.revision = (tracker.snapshotAfter commands).revision + 1)) ∧
    (Consistent (submittedObservations commands) →
      ((tracker.run commands).history.accepted.map fun o => o.observationId).Nodup) :=
  ⟨submit_unchanged_iff tracker commands, fun h => (accepted_ids_nodup tracker h).2⟩

/-- A run that replays its first observation after another one. -/
def replayRun : List TrackerCommand :=
  [.submit (sampleObservation "a" 1 true ["p0"]), .submit (sampleObservation "b" 2 true ["p1"]),
    .submit (sampleObservation "a" 1 true ["p0"])]

/-- The observation of the sample that is sent again is accepted once. -/
theorem applied_at_most_once_replay :
    ((sampleTracker.run replayRun).history.accepted.map fun o => o.observationId).Nodup :=
  (applied_at_most_once sampleTracker replayRun).2 (by decide +kernel)

end Qaraa
