import Qaraa.Core.SampleCorpus

/-!
What a tracker remembers of the time before a reset: the number of its revision, and nothing else.

* `TrackerState.shift`: a state with its revision moved.
* `submit_shift`, `stepTracker_shift`: **a command does the same whatever the revision is**.
* `TrackerCommand.explicit`: a command that does not depend on the initial location.
* `reset_forgets`: **after a reset a tracker shows what a new one shows**, under later revisions.
-/

namespace Qaraa

open Fallible Ordered

/-! ### Moved revisions -/

/-- The snapshot under a later revision. -/
def ReadingSnapshot.shift (offset : ℕ) (snapshot : ReadingSnapshot) : ReadingSnapshot :=
  { snapshot with revision := snapshot.revision + offset }

/-- The state under later revisions. -/
def TrackerState.shift (offset : ℕ) (state : TrackerState) : TrackerState :=
  { state with snapshot := state.snapshot.shift offset }

/-- What a command returns, with its revisions moved. -/
def shiftResult (offset : ℕ) (result : ReadingSnapshot × TrackerState) :
    ReadingSnapshot × TrackerState :=
  (result.1.shift offset, result.2.shift offset)

/-- The progress under later revisions. -/
def Progress.shift (offset : ℕ) (progress : Progress) : Progress :=
  { progress with state := progress.state.shift offset }

variable (offset : ℕ)

lemma rememberObservationId_shift (state : TrackerState) (id : String) :
    (state.shift offset).rememberObservationId id
      = (state.rememberObservationId id).shift offset := by
  obtain ⟨oldest, rest, horder⟩ : ∃ oldest rest,
      state.observationIdOrder ++ [id] = oldest :: rest :=
    List.exists_cons_of_ne_nil (by simp)
  have hremember : ∀ s : TrackerState, s.observationIdOrder = state.observationIdOrder →
      s.rememberObservationId id = if OBSERVATION_ID_LIMIT < (oldest :: rest).length then
        { s with
          observationIds := (s.observationIds.add id).delete oldest
          observationIdOrder := rest }
      else
        { s with
          observationIds := s.observationIds.add id
          observationIdOrder := oldest :: rest } := by
    intro s hsame
    simp only [TrackerState.rememberObservationId, hsame, horder]
  rw [hremember (state.shift offset) rfl, hremember state rfl]
  split <;> rfl

lemma completeWord_shift (state : TrackerState) (ordered : OrderedWord) :
    (state.shift offset).completeWord ordered = (state.completeWord ordered).shift offset := by
  rw [TrackerState.completeWord, TrackerState.completeWord]
  by_cases hdone : state.completedWordIdSet.has ordered.word.id = true
  · have hshifted : (state.shift offset).completedWordIdSet.has ordered.word.id = true := hdone
    rw [if_pos hdone, if_pos hshifted]
    rfl
  · have hshifted : ¬(state.shift offset).completedWordIdSet.has ordered.word.id = true := hdone
    rw [if_neg hdone, if_neg hshifted]
    rfl

lemma commitWord_shift (config : TrackerConfig) (candidate : AlignmentCandidate) (isFinal : Bool)
    (state : TrackerState) (wordId : String) :
    commitWord config candidate isFinal (state.shift offset) wordId
      = (commitWord config candidate isFinal state wordId).shift offset := by
  rw [commitWord, commitWord]
  split
  · rfl
  · rename_i ordered _
    change (if wordSupported candidate isFinal state.committedSymbol ordered.range = true then _
      else _) = _
    split
    · exact completeWord_shift offset state ordered
    · rfl

lemma commitSupportedWords_shift (config : TrackerConfig) (state : TrackerState)
    (candidate : AlignmentCandidate) (observation : RecitationObservation) :
    commitSupportedWords config (state.shift offset) candidate observation
      = (commitSupportedWords config state candidate observation).shift offset := by
  rw [commitSupportedWords, commitSupportedWords]
  induction collectTouchedWordIds candidate config.symbolWordIds generalizing state with
  | nil => rfl
  | cons wordId rest ih =>
      rw [List.foldl_cons, List.foldl_cons, commitWord_shift, ih]

lemma updateProvisionalFinding_shift (state : TrackerState) (corpus : IndexedCorpus)
    (candidate : AlignmentCandidate) (actualPhonemes : List String)
    (evidence : Option SubstitutionEvidence) :
    (state.shift offset).updateProvisionalFinding corpus candidate actualPhonemes evidence
      = ((state.updateProvisionalFinding corpus candidate actualPhonemes evidence).1.shift offset,
        (state.updateProvisionalFinding corpus candidate actualPhonemes evidence).2) := by
  rw [TrackerState.updateProvisionalFinding.eq_def, TrackerState.updateProvisionalFinding.eq_def]
  cases evidence with
  | none => rfl
  | some evidence =>
      dsimp only
      cases findingFingerprint corpus candidate evidence.operation actualPhonemes with
      | none => rfl
      | some fingerprint => rfl

lemma classifyCandidate_shift (config : TrackerConfig) (state : TrackerState)
    (observation : RecitationObservation) (candidate : AlignmentCandidate)
    (confidence : ConfidenceEvidence) :
    classifyCandidate config (state.shift offset) observation candidate confidence
      = ((classifyCandidate config state observation candidate confidence).1.shift offset,
        (classifyCandidate config state observation candidate confidence).2) := by
  rw [classifyCandidate, classifyCandidate]
  split
  · dsimp only
    rw [updateProvisionalFinding_shift]
  · rfl

lemma advancePosition_shift (config : TrackerConfig) (state : TrackerState)
    (observation : RecitationObservation) (candidate : AlignmentCandidate) :
    advancePosition config (state.shift offset) observation candidate
      = (advancePosition config state observation candidate).map fun result =>
          (result.1.shift offset, result.2) := by
  rw [advancePosition, advancePosition]
  dsimp only
  cases locationAt config.corpus (activeSymbolOf config candidate) with
  | error error => rfl
  | ok location =>
      have hcommit := commitSupportedWords_shift offset config
        { state with cursorSymbol := activeSymbolOf config candidate } candidate observation
      exact congrArg (fun committed => Except.ok (committed, _)) hcommit

lemma trackLocated_shift (config : TrackerConfig) (state : TrackerState)
    (observation : RecitationObservation) (located : Located) :
    trackLocated config (state.shift offset) observation located
      = (trackLocated config state observation located).map (Progress.shift offset) := by
  rw [trackLocated.eq_def, trackLocated.eq_def]
  cases located.best with
  | none => rfl
  | some candidate =>
      dsimp only
      have hconfidence : candidateConfidence (state.shift offset) observation candidate
          located.second = candidateConfidence state observation candidate located.second := rfl
      have hremembered : (state.shift offset).rememberHypothesis (hypothesisFingerprint candidate)
          = (state.rememberHypothesis (hypothesisFingerprint candidate)).shift offset := rfl
      rw [hconfidence, hremembered]
      generalize state.rememberHypothesis (hypothesisFingerprint candidate) = remembered
      split
      · rw [advancePosition_shift]
        cases advancePosition config remembered observation candidate with
        | error error => rfl
        | ok result =>
            obtain ⟨next, display⟩ := result
            have hclassified := classifyCandidate_shift offset config next observation candidate
              (candidateConfidence state observation candidate located.second)
            simp only [Except.map, ok_bind, hclassified]
            rfl
      · have hclassified := classifyCandidate_shift offset config remembered observation candidate
          (candidateConfidence state observation candidate located.second)
        simp only [ok_bind, hclassified]
        rfl

/-- The state in which `submit` locates a new observation. -/
def TrackerState.admitted (state : TrackerState) (checked : RecitationObservation) :
    TrackerState :=
  { state.rememberObservationId checked.observationId with
    latestSourceRevision := checked.sourceRevision }

/-- The part of `submit` for a new observation. -/
def submitNew (config : TrackerConfig) (state : TrackerState) (value : JsValue)
    (checked : RecitationObservation) : Except JsError (ReadingSnapshot × TrackerState) := do
  let located ← locateObservation config.corpus value state.cursorSymbol state.committedSymbol
  let progress ← trackLocated config state checked located
  let location ← locationAt config.corpus progress.state.committedSymbol
  let snapshot : ReadingSnapshot :=
    { revision := state.snapshot.revision + 1
      observationId := some checked.observationId
      display := progress.display
      commit := ⟨location, progress.state.completedWordIds⟩
      confidence := progress.confidence
      finding := progress.finding }
  return (snapshot, { progress.state with snapshot := snapshot })

lemma submit_eq (config : TrackerConfig) (state : TrackerState) (value : JsValue) :
    submit config state value = (validateObservation value >>= fun checked =>
      if state.observationIds.has checked.observationId
          ∨ (checked.sourceRevision : ℤ) < state.latestSourceRevision then
        pure (state.snapshot, state)
      else submitNew config (state.admitted checked) value checked) := rfl

lemma submitNew_shift (config : TrackerConfig) (state : TrackerState) (value : JsValue)
    (checked : RecitationObservation) :
    submitNew config (state.shift offset) value checked
      = (submitNew config state value checked).map (shiftResult offset) := by
  rw [submitNew, submitNew]
  change (locateObservation config.corpus value state.cursorSymbol state.committedSymbol
    >>= _) = _
  cases locateObservation config.corpus value state.cursorSymbol state.committedSymbol with
  | error error => rfl
  | ok located =>
      simp only [ok_bind, trackLocated_shift]
      cases trackLocated config state checked located with
      | error error => rfl
      | ok progress =>
          simp only [Except.map, ok_bind]
          change (locationAt config.corpus progress.state.committedSymbol >>= _) = _
          cases locationAt config.corpus progress.state.committedSymbol with
          | error error => rfl
          | ok location =>
              have hrevision : state.snapshot.revision + offset + 1
                  = state.snapshot.revision + 1 + offset := by omega
              exact congrArg (fun revision : ℕ =>
                let snapshot : ReadingSnapshot :=
                  ⟨revision, some checked.observationId, progress.display,
                    ⟨location, progress.state.completedWordIds⟩, progress.confidence,
                    progress.finding⟩
                Except.ok (snapshot, { progress.state with snapshot := snapshot })) hrevision

/-- **A submission does the same whatever the revision is.** -/
theorem submit_shift (config : TrackerConfig) (state : TrackerState) (value : JsValue) :
    submit config (state.shift offset) value
      = (submit config state value).map (shiftResult offset) := by
  rw [submit_eq, submit_eq]
  cases validateObservation value with
  | error error => rfl
  | ok checked =>
      have hadmitted : (state.shift offset).admitted checked
          = (state.admitted checked).shift offset := by
        rw [TrackerState.admitted, rememberObservationId_shift]
        rfl
      simp only [ok_bind, hadmitted, submitNew_shift]
      change (if state.observationIds.has checked.observationId = true
        ∨ (checked.sourceRevision : ℤ) < state.latestSourceRevision then _ else _) = _
      split <;> rfl

lemma reset_shift (config : TrackerConfig) (state : TrackerState)
    (location : Option QuranLocation) :
    reset config (state.shift offset) location
      = (reset config state location).map (shiftResult offset) := by
  rw [reset, reset]
  dsimp only
  cases symbolIndexAt config.corpus (location.getD config.defaultInitialLocation) with
  | error error => rfl
  | ok initialSymbol =>
      have hrevision : state.snapshot.revision + offset + 1
          = state.snapshot.revision + 1 + offset := by omega
      exact congrArg (fun revision : ℕ =>
        let next :=
          TrackerState.initial initialSymbol revision (location.getD config.defaultInitialLocation)
        Except.ok (next.snapshot, next)) hrevision

/-- **A command does the same whatever the revision is.** -/
theorem stepTracker_shift (config : TrackerConfig) (state : TrackerState)
    (command : TrackerCommand) :
    stepTracker config (state.shift offset) command
      = (stepTracker config state command).shift offset := by
  have hresult : applyCommand config (state.shift offset) command
      = (applyCommand config state command).map (shiftResult offset) := by
    cases command with
    | submit value => exact submit_shift offset config state value
    | reset location => exact reset_shift offset config state location
  rw [stepTracker, stepTracker, hresult]
  cases applyCommand config state command <;> rfl

/-! ### The initial location -/

/-- The command with the location it means. -/
def TrackerCommand.explicit (location : QuranLocation) : TrackerCommand → TrackerCommand
  | .reset none => .reset (some location)
  | command => command

/-- Where a tracker was created matters to a reset without a location only. -/
lemma stepTracker_explicit (config : TrackerConfig) (location : QuranLocation)
    (state : TrackerState) (command : TrackerCommand) :
    stepTracker { config with defaultInitialLocation := location } state
        (command.explicit config.defaultInitialLocation)
      = stepTracker config state command := by
  cases command with
  | submit value => rfl
  | reset target => cases target <;> rfl

/-! ### Resets -/

lemma traceRun_state (config : TrackerConfig) (created : TrackerState)
    (commands : List TrackerCommand) :
    (traceRun config created commands).state = commands.foldl (stepTracker config) created := by
  induction commands using List.reverseRecOn with
  | nil => rfl
  | append_singleton commands command ih =>
      rw [traceRun, List.foldl_append, List.foldl_append, ← ih]
      rfl

lemma foldl_shift (config : TrackerConfig) (state : TrackerState)
    (commands : List TrackerCommand) :
    commands.foldl (stepTracker config) (state.shift offset)
      = (commands.foldl (stepTracker config) state).shift offset := by
  induction commands using List.reverseRecOn with
  | nil => rfl
  | append_singleton commands command ih =>
      simp only [List.foldl_append, List.foldl_cons, List.foldl_nil, ih, stepTracker_shift]

lemma foldl_explicit (config : TrackerConfig) (location : QuranLocation) (state : TrackerState)
    (commands : List TrackerCommand) :
    (commands.map (.explicit config.defaultInitialLocation)).foldl
        (stepTracker { config with defaultInitialLocation := location }) state
      = commands.foldl (stepTracker config) state := by
  induction commands using List.reverseRecOn with
  | nil => rfl
  | append_singleton commands command ih =>
      simp only [List.map_append, List.map_cons, List.map_nil, List.foldl_append, List.foldl_cons,
        List.foldl_nil, ih, stepTracker_explicit]

/-- A reset leaves nothing but the revision. -/
lemma stepTracker_reset (config : TrackerConfig) (state : TrackerState)
    {location : Option QuranLocation} {i : ℕ}
    (hi : symbolIndexAt config.corpus (location.getD config.defaultInitialLocation) = .ok i) :
    stepTracker config state (.reset location)
      = (TrackerState.initial i 0 (location.getD config.defaultInitialLocation)).shift
        (state.snapshot.revision + 1) := by
  have hrevision : state.snapshot.revision + 1 = 0 + (state.snapshot.revision + 1) :=
    (Nat.zero_add _).symm
  rw [stepTracker, applyCommand, reset]
  dsimp only
  rw [hi]
  exact congrArg (fun revision : ℕ => TrackerState.initial i revision
    (location.getD config.defaultInitialLocation)) hrevision

/-- A tracker created at another location of the same corpus. -/
lemma created_elsewhere (tracker : CreatedTracker) {location : QuranLocation}
    {config : TrackerConfig} {created : TrackerState}
    (h : createReadingTracker ⟨tracker.index, some location, tracker.findingMode⟩
      = .ok (config, created)) :
    config = { tracker.config with defaultInitialLocation := location } ∧
      ∃ i, symbolIndexAt tracker.config.corpus location = .ok i ∧
        created = TrackerState.initial i 0 location := by
  have hcreation := tracker.creation
  rw [createReadingTracker] at hcreation h
  cases hfirst : tracker.index.symbols.head? with
  | none => simp [hfirst] at h
  | some first =>
      simp only [hfirst, bind_eq_ok, pure_eq_ok, Prod.mk.injEq, Option.getD_some] at hcreation h
      obtain ⟨mode, hmode, -, -, hconfig, -⟩ := hcreation
      obtain ⟨mode', hmode', i, hi, rfl, rfl⟩ := h
      rw [hmode] at hmode'
      cases hmode'
      rw [← hconfig]
      exact ⟨rfl, i, hi, rfl⟩

/-- **A reset forgets.** Whatever commands came before a reset to a location of the corpus, from
then on a tracker shows what a tracker shows that was created at this location for the same corpus
and the same finding mode and is given the same commands, under revisions that go on from the one
before the reset. A later reset without a location is given to the new tracker as one to the initial
location of the first: by itself it would go back to its own. -/
theorem reset_forgets (tracker : CreatedTracker) (before after : List TrackerCommand)
    (location : Option QuranLocation) {config : TrackerConfig} {created : TrackerState}
    (hcreated : createReadingTracker ⟨tracker.index,
      some (location.getD tracker.config.defaultInitialLocation), tracker.findingMode⟩
        = .ok (config, created)) :
    tracker.snapshotAfter (before ++ .reset location :: after)
      = (traceRun config created (after.map
          (.explicit tracker.config.defaultInitialLocation))).state.snapshot.shift
        ((tracker.snapshotAfter before).revision + 1) := by
  obtain ⟨rfl, i, hi, rfl⟩ := created_elsewhere tracker hcreated
  have hstate : (tracker.run (before ++ .reset location :: after)).state
      = (after.foldl (stepTracker tracker.config) (TrackerState.initial i 0
          (location.getD tracker.config.defaultInitialLocation))).shift
        ((tracker.snapshotAfter before).revision + 1) := by
    rw [CreatedTracker.run, traceRun_state, List.foldl_append, List.foldl_cons,
      ← traceRun_state tracker.config tracker.created before, stepTracker_reset _ _ hi,
      foldl_shift]
    rfl
  rw [CreatedTracker.snapshotAfter, hstate, traceRun_state, foldl_explicit]
  rfl

/-- What was heard before the reset is heard again. -/
theorem reset_forgets_sample :
    let heard := TrackerCommand.submit (sampleObservation "heard" 1 true ["p1", "p2"])
    sampleTracker.snapshotAfter [heard, .reset none, heard]
      = (sampleTracker.snapshotAfter [heard]).shift 2 := by
  have hcreated : (createReadingTracker ⟨sampleTracker.index,
      some (none.getD sampleTracker.config.defaultInitialLocation),
      sampleTracker.findingMode⟩).toOption.isSome = true := by
    decide +kernel
  exact (reset_forgets sampleTracker [_] [_] none (eq_ok_result hcreated)).trans
    (by decide +kernel)

end Qaraa
