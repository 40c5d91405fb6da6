import Qaraa.Core.FindingSoundness
import Qaraa.Library.Streak

/-!
Soft confirmations count consecutive evidence.

* `softFingerprint`: what an observation has heard at a state: the fingerprint of its
  substitution, when that passes the soft gate.
* `Heard`, `CreatedTracker.heard`: the observations accepted since the last reset, each with
  what it has heard.
* `trackLocated_provisional`: an accepted observation takes one step of a counter of
  repetitions (`Streak.count`).
* `softConfirmations_of_run`: **over every run the provisional finding is that counter's
  content**, so a soft finding has as many observations behind it as it says.
-/

namespace Qaraa

open Fallible Streak

/-! ### Evidence -/

section

variable (config : TrackerConfig) (state : TrackerState) (observation : RecitationObservation)

/-- The fingerprint of the candidate's substitution, when there is evidence of one that
passes the soft gate with two or three phonemes of context. -/
def candidateFingerprint (candidate : AlignmentCandidate) (confidence : ConfidenceEvidence) :
    Option String :=
  if config.findingMode = .substitutions ∧ candidate.isReread = false then
    match deriveSubstitutionEvidence candidate confidence with
    | none => none
    | some evidence =>
        let context := countFindingContextPhonemes candidate.alignment.operations evidence.operation
        if SOFT_CONFIDENCE_THRESHOLD ≤ evidence.confidence.combined ∧ 2 ≤ context ∧ context ≤ 3 then
          findingFingerprint config.corpus candidate evidence.operation
            (observationPhonemes observation)
        else none
  else none

/-- What an observation has heard at a state. -/
def softFingerprint : Option String :=
  match (locatedBy config state observation).best with
  | none => none
  | some candidate => candidateFingerprint config observation candidate
      (candidateConfidence state observation candidate (locatedBy config state observation).second)

end

/-- An accepted observation with what it has heard. -/
structure Heard where
  observation : RecitationObservation
  fingerprint : Option String

/-- A command that changed the revision is recorded: a reset starts over, a submission was
accepted. -/
def recordHeard (config : TrackerConfig) (before after : TrackerState) (heard : List Heard) :
    TrackerCommand → List Heard
  | .submit value =>
      match validateObservation value with
      | .error _ => heard
      | .ok observation =>
          if after.snapshot.revision = before.snapshot.revision then heard
          else heard ++ [⟨observation, softFingerprint config before observation⟩]
  | .reset _ => if after.snapshot.revision = before.snapshot.revision then heard else []

/-- A state with what has been heard on the way to it. -/
structure Listening where
  state : TrackerState
  heard : List Heard

/-- A command, heard with its fingerprint. -/
def Listening.step (config : TrackerConfig) (listening : Listening) (command : TrackerCommand) :
    Listening :=
  let next := stepTracker config listening.state command
  ⟨next, recordHeard config listening.state next listening.heard command⟩

/-- The observations accepted since the last reset, each with what it has heard. -/
def CreatedTracker.heard (tracker : CreatedTracker) (commands : List TrackerCommand) : List Heard :=
  (commands.foldl (Listening.step tracker.config) ⟨tracker.created, []⟩).heard

/-- The fingerprint of what a finding names. -/
def ConfirmedFinding.fingerprint (finding : ConfirmedFinding) : String :=
  finding.referenceSymbolId ++ "\x00" ++ finding.actualPhoneme ++ "\x00" ++ finding.referencePhoneme

/-! ### One observation -/

/-- The content of the counter. -/
def ProvisionalFinding.counter (provisional : ProvisionalFinding) : String × ℕ :=
  (provisional.fingerprint, provisional.confirmations)

/-- An advance is a step of the counter. -/
lemma advanceProvisionalFinding_counter (previous : Option ProvisionalFinding)
    (fingerprint : String) (evidence : SubstitutionEvidence) (context : ℕ) :
    (advanceProvisionalFinding previous fingerprint evidence context).map
        ProvisionalFinding.counter
      = count (previous.map ProvisionalFinding.counter)
          (if SOFT_CONFIDENCE_THRESHOLD ≤ evidence.confidence.combined ∧ 2 ≤ context ∧ context ≤ 3
            then some fingerprint else none) := by
  have hgate : passesSoftFindingGate evidence.confidence 2 context = true ↔
      SOFT_CONFIDENCE_THRESHOLD ≤ evidence.confidence.combined ∧ 2 ≤ context ∧ context ≤ 3 := by
    simp [passesSoftFindingGate, and_assoc]
  unfold advanceProvisionalFinding
  by_cases h : passesSoftFindingGate evidence.confidence 2 context = true
  · rw [if_neg (by simp [h]), if_pos (hgate.mp h)]
    cases previous with
    | none => rfl
    | some provisional => rfl
  · rw [if_pos (by simpa using h), if_neg (mt hgate.mpr h)]
    rfl

lemma advanceProvisionalFinding_fingerprint {previous : Option ProvisionalFinding}
    {fingerprint : String} {evidence : SubstitutionEvidence} {context : ℕ}
    {provisional : ProvisionalFinding}
    (h : advanceProvisionalFinding previous fingerprint evidence context = some provisional) :
    provisional.fingerprint = fingerprint := by
  unfold advanceProvisionalFinding at h
  split at h
  · cases h
  · cases previous with
    | none =>
        cases h
        rfl
    | some earlier =>
        cases h
        rfl

lemma classifyCandidate_provisional (config : TrackerConfig) (state : TrackerState)
    (observation : RecitationObservation) (candidate : AlignmentCandidate)
    (confidence : ConfidenceEvidence) :
    (classifyCandidate config state observation candidate confidence).1.provisionalFinding.map
        ProvisionalFinding.counter
      = count (state.provisionalFinding.map ProvisionalFinding.counter)
          (candidateFingerprint config observation candidate confidence) := by
  rw [classifyCandidate, candidateFingerprint]
  split
  · cases deriveSubstitutionEvidence candidate confidence with
    | none => rfl
    | some evidence =>
        simp only [TrackerState.updateProvisionalFinding]
        cases findingFingerprint config.corpus candidate evidence.operation
            (observationPhonemes observation) with
        | none =>
            dsimp only
            rw [ite_self]
            rfl
        | some fingerprint => exact advanceProvisionalFinding_counter _ _ _ _
  · rfl

lemma confirmationMode_soft {input : FindingClassificationInput}
    {confidence : ConfidenceEvidence} (h : confirmationMode input confidence = some .soft) :
    2 ≤ input.confirmations := by
  rw [confirmationMode] at h
  split at h
  · cases h
  · split at h
    · cases h
    · split at h
      · cases h
      · split at h
        · rename_i hsoft
          simp only [passesSoftFindingGate, Bool.and_eq_true, decide_eq_true_eq] at hsoft
          exact hsoft.1.1.2
        · cases h

/-- A soft finding has the confirmations it was classified with, at least two. -/
lemma classifyFindingWithEvidence_soft {input : FindingClassificationInput}
    {evidence : SubstitutionEvidence} {finding : ConfirmedFinding}
    (h : classifyFindingWithEvidence input (some evidence) = some finding)
    (hsoft : finding.confirmation = .soft) :
    finding.confirmations = input.confirmations ∧ 2 ≤ input.confirmations := by
  unfold classifyFindingWithEvidence at h
  cases hselected : substitutionOperation input.candidate with
  | none =>
      simp only [hselected, ite_self] at h
      cases h
  | some selected =>
      simp only [hselected] at h
      split_ifs at h
      cases hmode : confirmationMode input evidence.confidence with
      | none =>
          simp only [hmode] at h
          cases h
      | some confirmation =>
          simp only [hmode] at h
          split at h
          · obtain rfl : confirmation = .soft := by
              cases h
              exact hsoft
            cases h
            exact ⟨rfl, confirmationMode_soft hmode⟩
          · cases h

/-- A soft finding shows the count of the provisional finding, which has its fingerprint. -/
lemma classifyCandidate_soft {config : TrackerConfig} {state : TrackerState}
    {observation : RecitationObservation} {candidate : AlignmentCandidate}
    {confidence : ConfidenceEvidence} {finding : ConfirmedFinding}
    (hfinding : (classifyCandidate config state observation candidate confidence).2 = some finding)
    (hsoft : finding.confirmation = .soft) :
    2 ≤ finding.confirmations ∧
      (classifyCandidate config state observation candidate confidence).1.provisionalFinding
        = some ⟨finding.fingerprint, finding.confirmations⟩ := by
  rw [classifyCandidate] at hfinding ⊢
  split_ifs at hfinding ⊢
  · cases hevidence : deriveSubstitutionEvidence candidate confidence with
    | none =>
        rw [hevidence] at hfinding
        simp [classifyFindingWithEvidence] at hfinding
    | some evidence =>
        simp only [hevidence, TrackerState.updateProvisionalFinding] at hfinding ⊢
        cases hfingerprint : findingFingerprint config.corpus candidate evidence.operation
            (observationPhonemes observation) with
        | none =>
            simp only [hfingerprint] at hfinding
            have htwo : 2 ≤ 0 := (classifyFindingWithEvidence_soft hfinding hsoft).2
            omega
        | some fingerprint =>
            simp only [hfingerprint] at hfinding ⊢
            obtain ⟨hsame, htwo⟩ := classifyFindingWithEvidence_soft hfinding hsoft
            obtain ⟨hoperation, -, hactual, ⟨symbol, hsymbol, hid, -, hphoneme⟩, -⟩ :=
              classifyFindingWithEvidence_some hfinding
            dsimp only at hsame htwo hactual hsymbol
            -- the fingerprint is made of what the finding names
            obtain rfl : finding.fingerprint = fingerprint := by
              rw [findingFingerprint, ← hoperation, hsymbol, hactual] at hfingerprint
              rw [ConfirmedFinding.fingerprint, ← hid, ← hphoneme]
              exact Option.some.inj hfingerprint
            cases hnext : advanceProvisionalFinding state.provisionalFinding finding.fingerprint
                evidence (countFindingContextPhonemes candidate.alignment.operations
                  evidence.operation) with
            | none =>
                rw [hnext] at htwo
                exact absurd htwo (by decide)
            | some provisional =>
                rw [hnext, Option.map_some, Option.getD_some] at hsame htwo
                refine ⟨hsame ▸ htwo, congrArg some ?_⟩
                rw [hsame, ← advanceProvisionalFinding_fingerprint hnext]

/-- The steps for the located candidate take one step of the counter, and a soft finding
shows its content. -/
lemma trackLocated_provisional {config : TrackerConfig} {state : TrackerState}
    {observation : RecitationObservation} {located : Located} {progress : Progress}
    (h : trackLocated config state observation located = .ok progress) :
    progress.state.provisionalFinding.map ProvisionalFinding.counter
        = count (state.provisionalFinding.map ProvisionalFinding.counter)
          (match located.best with
          | none => none
          | some candidate => candidateFingerprint config observation candidate
              (candidateConfidence state observation candidate located.second)) ∧
      ∀ finding, progress.finding = some finding → finding.confirmation = .soft →
        2 ≤ finding.confirmations ∧ progress.state.provisionalFinding
          = some ⟨finding.fingerprint, finding.confirmations⟩ := by
  rw [trackLocated] at h
  cases hbest : located.best with
  | none =>
      rw [hbest] at h
      cases h
      refine ⟨?_, by rintro finding ⟨⟩⟩
      cases state.provisionalFinding with
      | none => rfl
      | some provisional => rfl
  | some candidate =>
      -- whether or not the position advances, the provisional finding is the one before
      obtain ⟨moved, hsame, hstate, hfinding⟩ : ∃ moved : TrackerState,
          moved.provisionalFinding = state.provisionalFinding ∧
          progress.state = (classifyCandidate config moved observation candidate
            (candidateConfidence state observation candidate located.second)).1 ∧
          progress.finding = (classifyCandidate config moved observation candidate
            (candidateConfidence state observation candidate located.second)).2 := by
        rw [hbest] at h
        dsimp only at h
        cases hgate : passesPositionGate
            (candidateConfidence state observation candidate located.second) with
        | false =>
            simp only [hgate, Bool.false_eq_true, if_false, ok_bind, pure_eq_ok] at h
            subst h
            exact ⟨state.rememberHypothesis (hypothesisFingerprint candidate), rfl, rfl, rfl⟩
        | true =>
            simp only [hgate, if_true, advancePosition, bind_eq_ok, pure_eq_ok] at h
            obtain ⟨_, ⟨location, -, rfl⟩, rfl⟩ := h
            refine ⟨_, ?_, rfl, rfl⟩
            rw [commitSupportedWords_frame]
            rfl
      rw [hstate, hfinding, ← hsame]
      exact ⟨classifyCandidate_provisional _ _ _ _ _,
        fun finding hfound hsoft => classifyCandidate_soft hfound hsoft⟩

/-- **One accepted observation** takes one step of the counter, and a soft finding shows its
content. -/
lemma submit_provisional {config : TrackerConfig} {state after : TrackerState} {value : JsValue}
    {observation : RecitationObservation} {snapshot : ReadingSnapshot}
    (hcheck : validateObservation value = .ok observation)
    (hnew : ¬Duplicate state observation)
    (hsubmit : submit config state value = .ok (snapshot, after)) :
    after.provisionalFinding.map ProvisionalFinding.counter
        = count (state.provisionalFinding.map ProvisionalFinding.counter)
          (softFingerprint config state observation) ∧
      ∀ finding, snapshot.finding = some finding → finding.confirmation = .soft →
        2 ≤ finding.confirmations ∧
          after.provisionalFinding = some ⟨finding.fingerprint, finding.confirmations⟩ := by
  have hnew' : ¬(state.observationIds.has observation.observationId = true ∨
      (observation.sourceRevision : ℤ) < state.latestSourceRevision) := hnew
  rw [submit, hcheck, ok_bind, if_neg hnew'] at hsubmit
  rw [rememberObservationId_frame] at hsubmit
  simp only [locateObservation_eq _ hcheck, ok_bind, bind_eq_ok, pure_eq_ok, Prod.mk.injEq]
    at hsubmit
  obtain ⟨progress, hprogress, location, -, rfl, rfl⟩ := hsubmit
  have hstep := trackLocated_provisional hprogress
  exact hstep

/-! ### Runs -/

/-- The provisional finding is the content of a counter that has read what was heard, and a
soft finding shows it. -/
structure Counted (traced : Traced) (listening : Listening) : Prop where
  state : listening.state = traced.state
  accepted : listening.heard.map Heard.observation = traced.history.accepted
  counts : Counts (listening.heard.map Heard.fingerprint)
    (traced.state.provisionalFinding.map ProvisionalFinding.counter)
  soft : ∀ finding, traced.state.snapshot.finding = some finding → finding.confirmation = .soft →
    2 ≤ finding.confirmations ∧ traced.state.provisionalFinding
      = some ⟨finding.fingerprint, finding.confirmations⟩

/-- A command that leaves the revision is not recorded. -/
lemma recordHeard_of_eq (config : TrackerConfig) {before after : TrackerState}
    (heard : List Heard) (command : TrackerCommand)
    (hrevision : after.snapshot.revision = before.snapshot.revision) :
    recordHeard config before after heard command = heard := by
  cases command with
  | reset location => exact if_pos hrevision
  | submit value =>
      rw [recordHeard]
      cases validateObservation value with
      | error e => rfl
      | ok observation => exact if_pos hrevision

/-- Every command keeps the count. -/
lemma Counted.step {config : TrackerConfig} (hvalid : ValidConfig config) {traced : Traced}
    {listening : Listening} (hinv : TrackerInvariant config traced)
    (h : Counted traced listening) (command : TrackerCommand) :
    Counted (traced.step config command) (listening.step config command) := by
  obtain ⟨state, heard⟩ := listening
  obtain rfl : state = traced.state := h.state
  obtain ⟨-, haccepted, hcounts, hsoft⟩ := h
  have hstate : (traced.step config command).state = stepTracker config traced.state command := rfl
  cases hinv.commandStep hvalid command with
  | unchanged hnext =>
      rw [hnext] at hstate
      rw [hnext, Listening.step]
      dsimp only
      rw [recordHeard_of_eq config heard command (by rw [← hstate]), ← hstate]
      exact ⟨rfl, haccepted, hcounts, hsoft⟩
  | restarted location i hreset _ hnext =>
      subst hreset
      have hrevision : ¬(stepTracker config traced.state (.reset location)).snapshot.revision
          = traced.state.snapshot.revision := by
        rw [← hstate, hnext]
        show ¬(traced.state.snapshot.revision + 1 = traced.state.snapshot.revision)
        omega
      have hheard : recordHeard config traced.state
          (stepTracker config traced.state (.reset location)) heard (.reset location) = [] :=
        if_neg hrevision
      rw [hnext, Listening.step]
      dsimp only
      rw [hheard, ← hstate, hnext]
      exact ⟨rfl, rfl, Counts.nil, by rintro finding ⟨⟩⟩
  | accepted value observation after hsubmit hcheck hnew hacc hnext =>
      subst hsubmit
      obtain ⟨hdup, -⟩ | ⟨-, after', hafter, -⟩ := hinv.submit_cases hvalid hcheck
      · exact absurd hdup hnew
      have hstep : stepTracker config traced.state (.submit value) = after' := by
        rw [stepTracker, applyCommand, hafter]
      obtain rfl : after = after' := by
        rw [← hstep, ← hstate, hnext]
      have hrevision : ¬after.snapshot.revision = traced.state.snapshot.revision := by
        have := hacc.revision
        omega
      have hheard : recordHeard config traced.state after heard (.submit value)
          = heard ++ [⟨observation, softFingerprint config traced.state observation⟩] := by
        rw [recordHeard, hcheck]
        exact if_neg hrevision
      rw [hnext, Listening.step]
      dsimp only
      rw [hstep, hheard]
      obtain ⟨hcount, hfound⟩ := submit_provisional hcheck hnew hafter
      refine ⟨rfl, ?_, ?_, hfound⟩
      · rw [List.map_append, haccepted]
        rfl
      · rw [List.map_append, hcount]
        exact hcounts.concat _

/-- Every run counts. -/
lemma CreatedTracker.counted (tracker : CreatedTracker) (commands : List TrackerCommand) :
    Counted (tracker.run commands)
      (commands.foldl (Listening.step tracker.config) ⟨tracker.created, []⟩) := by
  induction commands using List.reverseRecOn with
  | nil =>
      obtain ⟨-, -, -, -, i, -, hcreated⟩ := createReadingTracker_ok tracker.creation
      have hrun : (tracker.run []).state = tracker.created := rfl
      refine ⟨rfl, rfl, ?_, ?_⟩
      · rw [hrun, hcreated]
        exact Counts.nil
      · rw [hrun, hcreated]
        rintro finding ⟨⟩
  | append_singleton commands command ih =>
      rw [tracker.run_concat, List.foldl_append]
      exact ih.step tracker.valid (tracker.invariant commands) command

/-- The confirmations a tracker has for a fingerprint. -/
def TrackerState.confirmationsOf (state : TrackerState) (fingerprint : String) : ℕ :=
  match state.provisionalFinding with
  | none => 0
  | some provisional =>
      if provisional.fingerprint = fingerprint then provisional.confirmations else 0

lemma repetitions_counter (state : TrackerState) (fingerprint : String) :
    repetitions (state.provisionalFinding.map ProvisionalFinding.counter) fingerprint
      = state.confirmationsOf fingerprint := by
  rw [TrackerState.confirmationsOf]
  cases state.provisionalFinding with
  | none => rfl
  | some provisional => rfl

/-- A duplicate is not recorded. -/
lemma CreatedTracker.heard_duplicate (tracker : CreatedTracker) (commands : List TrackerCommand)
    {value : JsValue} {observation : RecitationObservation}
    (hcheck : validateObservation value = .ok observation)
    (hdup : Duplicate (tracker.run commands).state observation) :
    tracker.heard (commands ++ [.submit value]) = tracker.heard commands ∧
      (tracker.run (commands ++ [.submit value])).state = (tracker.run commands).state := by
  have hstep : stepTracker tracker.config (tracker.run commands).state (.submit value)
      = (tracker.run commands).state := by
    rw [stepTracker, applyCommand, submit_duplicate hcheck hdup]
  constructor
  · rw [CreatedTracker.heard, List.foldl_append, List.foldl_cons, List.foldl_nil, Listening.step,
      (tracker.counted commands).state]
    dsimp only
    rw [hstep, recordHeard_of_eq _ _ _ rfl]
    rfl
  · rw [tracker.run_concat]
    exact hstep

/-- **Soft confirmations count consecutive evidence, over any run.** The observations heard
are those accepted since the last reset. For every fingerprint the tracker's confirmations
are the length of the longest block of observations at the end that have all heard it, and
there is no provisional finding exactly when the latest of them has heard nothing. A
submission that is a duplicate or out of date changes neither. A soft finding has `k ≥ 2`
confirmations, and the last `k` observations have all heard what it names. -/
theorem softConfirmations_of_run (tracker : CreatedTracker) (commands : List TrackerCommand) :
    (tracker.heard commands).map Heard.observation = (tracker.run commands).history.accepted ∧
    (∀ fingerprint, IsGreatest
      {k : ℕ | List.replicate k (some fingerprint)
        <:+ (tracker.heard commands).map Heard.fingerprint}
      ((tracker.run commands).state.confirmationsOf fingerprint)) ∧
    ((tracker.run commands).state.provisionalFinding = none ↔
      ∀ fingerprint, ((tracker.heard commands).map Heard.fingerprint).getLast?
        ≠ some (some fingerprint)) ∧
    (∀ value observation, validateObservation value = .ok observation →
      Duplicate (tracker.run commands).state observation →
        tracker.heard (commands ++ [.submit value]) = tracker.heard commands ∧
        (tracker.run (commands ++ [.submit value])).state = (tracker.run commands).state) ∧
    ∀ finding, (tracker.snapshotAfter commands).finding = some finding →
      finding.confirmation = .soft →
        2 ≤ finding.confirmations ∧
        List.replicate finding.confirmations (some finding.fingerprint)
          <:+ (tracker.heard commands).map Heard.fingerprint := by
  obtain ⟨hstate, haccepted, hcounts, hsoft⟩ := tracker.counted commands
  have hblock : ∀ fingerprint, IsBlock ((tracker.heard commands).map Heard.fingerprint) fingerprint
      ((tracker.run commands).state.confirmationsOf fingerprint) := by
    intro fingerprint
    rw [← repetitions_counter]
    exact hcounts.isBlock fingerprint
  refine ⟨haccepted, hblock, ?_, ?_, ?_⟩
  · rw [← Option.map_eq_none_iff (f := ProvisionalFinding.counter)]
    exact hcounts.eq_none_iff
  · intro value observation hcheck hdup
    exact tracker.heard_duplicate commands hcheck hdup
  · intro finding hfinding hconfirmation
    obtain ⟨htwo, hprovisional⟩ := hsoft finding hfinding hconfirmation
    refine ⟨htwo, ?_⟩
    have hconfirmations : (tracker.run commands).state.confirmationsOf finding.fingerprint
        = finding.confirmations := by
      rw [TrackerState.confirmationsOf, hprovisional]
      exact if_pos rfl
    rw [← hconfirmations]
    exact (hblock finding.fingerprint).1

end Qaraa
