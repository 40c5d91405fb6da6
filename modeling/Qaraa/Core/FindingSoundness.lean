import Qaraa.Core.SampleCorpus

/-!
Every finding a tracker returns is a substitution it has evidence for.

* `classifyFindingWithEvidence_some`: a finding, taken apart.
* `finding_of_run`: over any run, a finding of an accepted observation names the observed
  and the expected phoneme of a substitution in the located candidate, has passed its
  gates, and is neither before the commit nor after the display.
-/

namespace Qaraa

open Fallible Ordered

/-- The first substitution is one of the operations. -/
lemma mem_of_firstSubstitution {operations : List AlignmentOperation}
    {operation : SubstitutionOperation} (h : firstSubstitution operations = some operation) :
    operation.toOperation ∈ operations := by
  induction operations with
  | nil => cases h
  | cons head rest ih =>
      cases head with
      | substitution i j =>
          cases h
          exact List.mem_cons_self
      | matched i j => exact List.mem_cons_of_mem _ (ih h)
      | insertion i => exact List.mem_cons_of_mem _ (ih h)
      | deletion j => exact List.mem_cons_of_mem _ (ih h)

/-- The evidence of a substitution keeps the candidate's alignment and margin. -/
lemma deriveSubstitutionEvidence_some {candidate : AlignmentCandidate}
    {confidence : ConfidenceEvidence} {evidence : SubstitutionEvidence}
    (h : deriveSubstitutionEvidence candidate confidence = some evidence) :
    evidence.operation.toOperation ∈ candidate.alignment.operations ∧
      evidence.confidence.alignment = confidence.alignment ∧
      evidence.confidence.margin = confidence.margin := by
  rw [deriveSubstitutionEvidence] at h
  split at h
  · cases h
  · split at h
    · cases h
    · rename_i operation hoperation
      cases h
      exact ⟨mem_of_firstSubstitution hoperation, rfl, rfl⟩

/-- The gates a finding can be confirmed by. -/
def ConfirmedBy (confidence : ConfidenceEvidence) (isFinal : Bool)
    (confirmations contextPhonemeCount : ℕ) : Prop :=
  passesPositionGate confidence = true ∧
    (passesImmediateFindingGate confidence = true ∨
      (isFinal = true ∧ passesFinalFindingGate confidence = true) ∨
      (passesSoftFindingGate confidence confirmations contextPhonemeCount = true ∧
        2 ≤ confirmations))

/-- A confirmation means that its gates have passed. -/
lemma confirmationMode_some {input : FindingClassificationInput}
    {confidence : ConfidenceEvidence} {confirmation : FindingConfirmation}
    (h : confirmationMode input confidence = some confirmation) :
    ConfirmedBy confidence input.observation.isFinal
      (if confirmation = .soft then input.confirmations else 1) input.contextPhonemeCount := by
  rw [confirmationMode] at h
  split at h
  · cases h
  · rename_i hposition
    refine ⟨by simpa using hposition, ?_⟩
    split at h
    · rename_i himmediate
      exact Or.inl himmediate
    · split at h
      · rename_i hfinal
        exact Or.inr (Or.inl (by simpa using hfinal))
      · split at h
        · rename_i hsoft
          cases h
          refine Or.inr (Or.inr ⟨hsoft, ?_⟩)
          simp only [passesSoftFindingGate, Bool.and_eq_true, decide_eq_true_eq] at hsoft
          exact hsoft.1.1.2
        · cases h

/-- A soft confirmation needs two confirmations, any other counts as one. -/
lemma confirmationMode_pos {input : FindingClassificationInput} {confidence : ConfidenceEvidence}
    {confirmation : FindingConfirmation}
    (h : confirmationMode input confidence = some confirmation) :
    1 ≤ if confirmation = .soft then input.confirmations else 1 := by
  rw [confirmationMode] at h
  split_ifs at h with _ _ _ hsoft
  · cases h
    exact le_rfl
  · cases h
    exact le_rfl
  · cases h
    simp only [passesSoftFindingGate, Bool.and_eq_true, decide_eq_true_eq] at hsoft
    rw [if_pos rfl]
    omega

/-- A finding, taken apart. -/
lemma classifyFindingWithEvidence_some {input : FindingClassificationInput}
    {evidence : SubstitutionEvidence} {finding : ConfirmedFinding}
    (h : classifyFindingWithEvidence input (some evidence) = some finding) :
    finding.operation = evidence.operation ∧ finding.confidence = evidence.confidence ∧
      input.actualPhonemes[finding.operation.actualIndex]? = some finding.actualPhoneme ∧
      (∃ symbol, input.corpus.symbols[input.candidate.symbolIndex
          + finding.operation.referenceIndex]? = some symbol ∧
        symbol.id = finding.referenceSymbolId ∧ symbol.location = finding.location ∧
        symbol.phoneme = finding.referencePhoneme) ∧
      ConfirmedBy finding.confidence input.observation.isFinal finding.confirmations
        input.contextPhonemeCount ∧
      finding.observationId = input.observation.observationId ∧ 1 ≤ finding.confirmations := by
  unfold classifyFindingWithEvidence at h
  cases hselected : substitutionOperation input.candidate with
  | none =>
      simp only [hselected, ite_self] at h
      cases h
  | some selected =>
      simp only [hselected] at h
      cases hmode : confirmationMode input evidence.confidence with
      | none =>
          simp only [hmode, ite_self] at h
          cases h
      | some confirmation =>
          cases hactual : input.actualPhonemes[evidence.operation.actualIndex]? with
          | none =>
              simp only [hmode, hactual, ite_self] at h
              cases h
          | some actualPhoneme =>
              cases hsymbol : input.corpus.symbols[input.candidate.symbolIndex
                  + evidence.operation.referenceIndex]? with
              | none =>
                  simp only [hmode, hactual, hsymbol, ite_self] at h
                  cases h
              | some symbol =>
                  simp only [hmode, hactual, hsymbol] at h
                  split at h
                  · cases h
                  · split at h
                    · cases h
                    · cases h
                      exact ⟨rfl, rfl, hactual, ⟨symbol, hsymbol, rfl, rfl, rfl⟩,
                        confirmationMode_some hmode, rfl, confirmationMode_pos hmode⟩

/-- **Findings are sound over any run.** When an accepted observation returns a finding,
findings are switched on; the finding's operation is a substitution of the located
candidate that joins the observed phoneme it names to the different phoneme of the corpus
symbol it names; its confidence has passed the position gate and one of the three finding
gates; the candidate does not start before the commit the tracker held; and the symbol is
not after the display of the same snapshot. -/
theorem finding_of_run (tracker : CreatedTracker) (commands : List TrackerCommand)
    {value : JsValue} {observation : RecitationObservation} {snapshot : ReadingSnapshot}
    {after : TrackerState} {finding : ConfirmedFinding}
    (hcheck : validateObservation value = .ok observation)
    (hsubmit : submit tracker.config (tracker.run commands).state value = .ok (snapshot, after))
    (haccepted : snapshot.revision ≠ (tracker.snapshotAfter commands).revision)
    (hfinding : snapshot.finding = some finding) :
    tracker.config.findingMode = .substitutions ∧
    (observationPhonemes observation)[finding.operation.actualIndex]?
      = some finding.actualPhoneme ∧
    finding.actualPhoneme ≠ finding.referencePhoneme ∧
    ∃ located candidate symbol committed display,
      locateObservation tracker.index value (tracker.run commands).state.cursorSymbol
        (tracker.run commands).state.committedSymbol = .ok located ∧
      located.best = some candidate ∧
      finding.operation.toOperation ∈ candidate.alignment.operations ∧
      tracker.index.symbols[candidate.symbolIndex + finding.operation.referenceIndex]?
        = some symbol ∧
      symbol.id = finding.referenceSymbolId ∧ symbol.location = finding.location ∧
      symbol.phoneme = finding.referencePhoneme ∧
      ConfirmedBy finding.confidence observation.isFinal finding.confirmations
        (countFindingContextPhonemes candidate.alignment.operations finding.operation) ∧
      symbolIndexAt tracker.index (tracker.snapshotAfter commands).commit.location
        = .ok committed ∧ committed ≤ candidate.symbolIndex ∧
      symbolIndexAt tracker.index snapshot.display.location = .ok display ∧
      candidate.symbolIndex + finding.operation.referenceIndex ≤ display := by
  have hinv := tracker.invariant commands
  have hvalid := tracker.valid
  have hcorpus := tracker.config_corpus
  obtain ⟨rfl, hacc⟩ : after.snapshot = snapshot ∧
      Accepted tracker.config (tracker.run commands).state observation after := by
    rcases hinv.submit_cases hvalid hcheck with ⟨-, hsame⟩ | ⟨-, next, hnext, hacc⟩
    · rw [hsubmit] at hsame
      obtain ⟨rfl, -⟩ := Prod.mk.inj (Except.ok.inj hsame)
      exact absurd rfl haccepted
    · rw [hsubmit] at hnext
      obtain ⟨rfl, rfl⟩ := Prod.mk.inj (Except.ok.inj hnext)
      exact ⟨rfl, hacc⟩
  have hlocate := locateObservation_eq tracker.config.corpus hcheck
    (tracker.run commands).state.cursorSymbol (tracker.run commands).state.committedSymbol
  -- every finding comes from the located candidate; a failed gate leaves none
  obtain ⟨candidate, hbest, hstep⟩ : ∃ candidate,
      (locatedBy tracker.config (tracker.run commands).state observation).best = some candidate ∧
      FindingStep tracker.config observation candidate
        (candidateConfidence (tracker.run commands).state observation candidate
          (locatedBy tracker.config (tracker.run commands).state observation).second)
        after.snapshot.finding ∧
      (passesPositionGate (candidateConfidence (tracker.run commands).state observation candidate
          (locatedBy tracker.config (tracker.run commands).state observation).second) = true →
        Advanced tracker.config (tracker.run commands).state observation candidate
          after.progress) := by
    cases hacc.step with
    | unlocated _ _ _ hnone =>
        have : after.snapshot.finding = none := hnone
        rw [hfinding] at this
        cases this
    | held candidate best gate _ _ hfind =>
        exact ⟨candidate, best, hfind, fun hpass => by rw [gate] at hpass; cases hpass⟩
    | advanced candidate best gate advanced _ hfind =>
        exact ⟨candidate, best, hfind, fun _ => advanced⟩
  obtain ⟨hfind, hadvanced⟩ := hstep
  obtain ⟨hmode, hreread, evidence, confirmations, hevidence, hclassify⟩ := hfind finding hfinding
  obtain ⟨hoperation, hconfidence, hactual, ⟨symbol, hsymbol, hid, hlocation, hphoneme⟩,
    hconfirmed, -⟩ := classifyFindingWithEvidence_some hclassify
  obtain ⟨hmem, halign, hmargin⟩ := deriveSubstitutionEvidence_some hevidence
  dsimp only at hactual hsymbol hconfirmed
  rw [← hoperation] at hmem hconfirmed
  have hsound : SoundCandidate tracker.config.corpus (observationPhonemes observation)
      (tracker.run commands).state.committedSymbol candidate := locate_sound hbest
  -- the substitution is one of the edit path, so the two phonemes differ
  have hdiffer : finding.actualPhoneme ≠ finding.referencePhoneme := by
    obtain ⟨m, hm, hle, hpath⟩ := hsound.span
    have hscript := editPath_editScript (observationPhonemes observation)
      (referencePhonemes tracker.config.corpus.symbols candidate.symbolIndex m)
    rw [hpath] at hmem
    obtain ⟨-, -, -, hlt, hne⟩ := hscript.of_substitution hmem
    rw [referencePhonemes_length] at hlt
    intro heq
    refine hne ?_
    rw [hactual, heq, ← hphoneme, referencePhonemes, List.getElem?_map, List.getElem?_take,
      if_pos (by omega), List.getElem?_drop, hsymbol]
    rfl
  have hgate := hconfirmed.1
  rw [hconfidence, passesPositionGate_congr halign hmargin] at hgate
  have hdisplay := hadvanced hgate
  have hactive : candidate.symbolIndex + finding.operation.referenceIndex
      ≤ activeSymbolOf tracker.config candidate := by
    refine (hsound.consumed_le (mem_consumedSymbols.mpr ⟨_, hmem, finding.operation.actualIndex,
      finding.operation.referenceIndex, rfl, rfl, rfl⟩)).1
  have hcommit : (tracker.run commands).state.committedSymbol ≤ candidate.symbolIndex := by
    have := hsound.isReread
    rw [hreread, eq_comm, decide_eq_false_iff_not] at this
    omega
  refine ⟨hmode, hactual, hdiffer, _, candidate, symbol, _, _, hcorpus ▸ hlocate, hbest, hmem,
    hcorpus ▸ hsymbol, hid, hlocation, hphoneme, hconfirmed, tracker.symbolIndexAt_eq hinv.commit,
    hcommit, tracker.symbolIndexAt_eq hdisplay.location, ?_⟩
  rw [hdisplay.cursorSymbol]
  exact hactive

/-- The five symbols of the sample, recited with a mistake at the third. -/
def mistaken : JsValue := sampleObservation "c" 3 true ["p0", "p1", "x", "p3", "p4"]

/-- The same position heard twice before, too unclear to move the reader. -/
def unclearRun : List TrackerCommand :=
  [.submit (sampleObservation "a" 1 true ["p0", "x", "y", "p3", "p4"]),
    .submit (sampleObservation "b" 2 true ["p0", "x", "y", "p3", "p4"])]

lemma mistaken_found :
    (submit sampleTracker.config (sampleTracker.run unclearRun).state mistaken).toOption.any
      (fun result => decide (result.1.revision ≠ (sampleTracker.snapshotAfter unclearRun).revision)
        && result.1.finding.isSome) = true := by
  decide +kernel

/-- The tracker of the sample reports the mistake: another phoneme was heard. -/
theorem finding_of_mistaken : ∃ snapshot after finding,
    submit sampleTracker.config (sampleTracker.run unclearRun).state mistaken
      = .ok (snapshot, after) ∧
    snapshot.finding = some finding ∧ finding.actualPhoneme ≠ finding.referencePhoneme := by
  have hcheck : (validateObservation mistaken).toOption.isSome = true := by decide +kernel
  have hfound := mistaken_found
  cases hsubmit : submit sampleTracker.config (sampleTracker.run unclearRun).state mistaken with
  | error e =>
      rw [hsubmit] at hfound
      cases hfound
  | ok result =>
      obtain ⟨snapshot, after⟩ := result
      simp only [hsubmit, Except.toOption, Option.any_some, Bool.and_eq_true, decide_eq_true_eq,
        Option.isSome_iff_exists] at hfound
      obtain ⟨hrev, finding, hfinding⟩ := hfound
      exact ⟨snapshot, after, finding, rfl, hfinding, (finding_of_run sampleTracker unclearRun
        (Fallible.eq_ok_result hcheck) hsubmit hrev hfinding).2.2.1⟩

end Qaraa
