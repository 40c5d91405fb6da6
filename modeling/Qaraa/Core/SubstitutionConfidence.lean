import Qaraa.Core.SnapshotShape
import Qaraa.Core.SpanScores

/-!
The confidence of a substitution, adjusted by `deriveSubstitutionEvidence`, against the
confidence `scoreConfidence` gives when it counts the matches after that substitution.

* `ConfidenceInput.weigh`: the weighted sum of a score, its lookahead left open.
* `FirstSubstitutionAt`: a substitution with what stands before and after it;
  `deriveSubstitutionEvidence_eq` is the evidence in these words.
* `SoundCandidate.matches_le`: a located path has no more matches than an observation may
  have phonemes, so its counts are safe integers.
* `substitutionEvidence_rescores`: **adjusting is scoring again**, for every candidate the
  search returns.
-/

namespace Qaraa

open Fallible

/-! ### Scores -/

/-- The lookahead of a count of matches. -/
def lookaheadOf (count : ℕ) : ℚ := min 1 ((count : ℚ) / 2)

/-- The weighted sum of a score, its lookahead left open. -/
def ConfidenceInput.weigh (input : ConfidenceInput) (lookahead : ℚ) : ℚ :=
  match alignedAcousticConfidence input with
  | none => clampUnit input.alignment * (4 / 10) + clampUnit input.stability * (25 / 100)
      + lookahead * (2 / 10) + clampUnit input.margin * (15 / 100)
  | some acoustic => clampUnit input.alignment * (34 / 100)
      + clampUnit input.stability * (2125 / 10000) + lookahead * (17 / 100)
      + clampUnit input.margin * (1275 / 10000) + acoustic * (15 / 100)

/-- The score of inputs whose count of matches is a safe integer. -/
lemma scoreConfidence_eq {input : ConfidenceInput}
    (h : input.matchedLookaheadCount ≤ maxSafeInteger) :
    scoreConfidence input =
      { alignment := clampUnit input.alignment
        stability := clampUnit input.stability
        lookahead := lookaheadOf input.matchedLookaheadCount
        matchedLookaheadCount := input.matchedLookaheadCount
        margin := clampUnit input.margin
        acoustic := alignedAcousticConfidence input
        combined := input.weigh (lookaheadOf input.matchedLookaheadCount) } := by
  rw [scoreConfidence, if_pos h]
  rfl

lemma scoreConfidence_weigh (input : ConfidenceInput) :
    (scoreConfidence input).combined = input.weigh (scoreConfidence input).lookahead := rfl

/-- Changing the lookahead changes the sum by the lookahead's weight. -/
lemma ConfidenceInput.weigh_add (input : ConfidenceInput) (before after : ℚ) :
    input.weigh before
        + (after - before) * (if alignedAcousticConfidence input = none then 2 / 10 else 17 / 100)
      = input.weigh after := by
  rw [ConfidenceInput.weigh, ConfidenceInput.weigh]
  cases alignedAcousticConfidence input with
  | none =>
      rw [if_pos rfl]
      dsimp only
      ring
  | some acoustic =>
      rw [if_neg (by simp)]
      dsimp only
      ring

/-! ### The first substitution -/

/-- The list's first substitution, with what stands before and after it. -/
structure FirstSubstitutionAt (operations before : List AlignmentOperation) (i j : ℕ)
    (after : List AlignmentOperation) : Prop where
  split : operations = before ++ .substitution i j :: after
  first : ∀ i' j', .substitution i' j' ∉ before

lemma firstSubstitution_eq_none {operations : List AlignmentOperation} :
    firstSubstitution operations = none ↔ ∀ i j, .substitution i j ∉ operations := by
  induction operations with
  | nil => simp [firstSubstitution]
  | cons head rest ih =>
      cases head with
      | substitution i j =>
          refine iff_of_false (by simp [firstSubstitution]) fun hall => ?_
          exact hall i j List.mem_cons_self
      | matched i j => simp [firstSubstitution, ih]
      | insertion i => simp [firstSubstitution, ih]
      | deletion j => simp [firstSubstitution, ih]

lemma exists_firstSubstitutionAt {operations : List AlignmentOperation}
    {operation : SubstitutionOperation} (h : firstSubstitution operations = some operation) :
    ∃ before after, FirstSubstitutionAt operations before operation.actualIndex
      operation.referenceIndex after := by
  induction operations with
  | nil => cases h
  | cons head rest ih =>
      cases head with
      | substitution i j =>
          cases h
          exact ⟨[], rest, rfl, by simp⟩
      | matched i j =>
          obtain ⟨before, after, hsplit, hfirst⟩ := ih h
          exact ⟨.matched i j :: before, after, by rw [hsplit]; rfl, by simpa using hfirst⟩
      | insertion i =>
          obtain ⟨before, after, hsplit, hfirst⟩ := ih h
          exact ⟨.insertion i :: before, after, by rw [hsplit]; rfl, by simpa using hfirst⟩
      | deletion j =>
          obtain ⟨before, after, hsplit, hfirst⟩ := ih h
          exact ⟨.deletion j :: before, after, by rw [hsplit]; rfl, by simpa using hfirst⟩

/-- The search for the operation's index finds the one it was taken from. -/
lemma substitutionLookaheadCount_eq {candidate : AlignmentCandidate}
    {before after : List AlignmentOperation} {operation : SubstitutionOperation}
    (h : FirstSubstitutionAt candidate.alignment.operations before operation.actualIndex
      operation.referenceIndex after) :
    substitutionLookaheadCount candidate operation = leadingMatches after := by
  have hindex : candidate.alignment.operations.idxOf operation.toOperation = before.length := by
    rw [h.split, SubstitutionOperation.toOperation, List.idxOf_append_of_notMem (h.first _ _),
      List.idxOf_cons_self, Nat.add_zero]
  have hafter : candidate.alignment.operations.drop (before.length + 1) = after := by
    rw [h.split, List.drop_append, List.drop_eq_nil_of_le (Nat.le_succ _)]
    simp
  rw [substitutionLookaheadCount, hindex, hafter]

/-- The evidence of a candidate whose first substitution is known. -/
lemma deriveSubstitutionEvidence_eq {candidate : AlignmentCandidate}
    {before after : List AlignmentOperation} {operation : SubstitutionOperation}
    (hreread : candidate.isReread = false)
    (hoperation : substitutionOperation candidate = some operation)
    (h : FirstSubstitutionAt candidate.alignment.operations before operation.actualIndex
      operation.referenceIndex after) (confidence : ConfidenceEvidence) :
    deriveSubstitutionEvidence candidate confidence = some
      { operation := operation
        confidence := { confidence with
          lookahead := lookaheadOf (leadingMatches after)
          matchedLookaheadCount := leadingMatches after
          combined := confidence.combined
            + (lookaheadOf (leadingMatches after) - confidence.lookahead)
              * (if confidence.acoustic = none then 2 / 10 else 17 / 100) } } := by
  rw [deriveSubstitutionEvidence, if_neg (by simp [hreread]), hoperation]
  dsimp only
  rw [substitutionLookaheadCount_eq h, lookaheadOf]

lemma deriveSubstitutionEvidence_eq_none {candidate : AlignmentCandidate}
    {confidence : ConfidenceEvidence} :
    deriveSubstitutionEvidence candidate confidence = none ↔
      candidate.isReread = true ∨ ∀ i j, .substitution i j ∉ candidate.alignment.operations := by
  rw [← firstSubstitution_eq_none, ← substitutionOperation, deriveSubstitutionEvidence]
  cases candidate.isReread with
  | true => simp
  | false =>
      cases substitutionOperation candidate with
      | none => simp
      | some operation => simp

/-! ### Counts of a located candidate -/

lemma leadingMatches_le (operations : List AlignmentOperation) :
    leadingMatches operations ≤ operations.countP AlignmentOperation.isMatch := by
  have hall : (operations.takeWhile AlignmentOperation.isMatch).countP AlignmentOperation.isMatch
      = (operations.takeWhile AlignmentOperation.isMatch).length :=
    List.countP_eq_length.mpr fun operation hmem => by
      simpa using List.all_eq_true.mp List.all_takeWhile operation hmem
  rw [leadingMatches, ← hall]
  exact (List.takeWhile_sublist _).countP_le

/-- The check counts the phonemes it accepts. -/
lemma observationPhonemes_length_le {value : JsValue} {observation : RecitationObservation}
    (h : validateObservation value = .ok observation) :
    (observationPhonemes observation).length ≤ observationLimits.maxPhonemes := by
  simp only [validateObservation, bind_eq_ok, pure_eq_ok] at h
  obtain ⟨-, -, id, -, -, -, revision, -, isFinal, -, received, -, values, -, -, -, -, -, pass,
    hpass, rfl⟩ := h
  have hcount : (pass.tokens.flatMap ObservationToken.phonemes).length = pass.phonemeCount ∧
      pass.phonemeCount ≤ observationLimits.maxPhonemes := by
    refine foldlM_induction (P := fun (_ : List JsValue) (pass : TokenPass) =>
      (pass.tokens.flatMap ObservationToken.phonemes).length = pass.phonemeCount ∧
        pass.phonemeCount ≤ observationLimits.maxPhonemes) hpass ⟨rfl, by decide⟩ ?_
    rintro - value before after ⟨hbefore, -⟩ hvisit
    simp only [visitToken, bind_eq_ok, pure_eq_ok, failIf_eq_ok] at hvisit
    obtain ⟨-, -, -, -, -, -, token, -, -, hle, rfl⟩ := hvisit
    refine ⟨?_, not_lt.mp hle⟩
    rw [List.flatMap_append, List.length_append, hbefore]
    simp
  rw [observationPhonemes]
  exact hcount.1 ▸ hcount.2

/-- The matches of a located path are no more than the phonemes observed. -/
lemma SoundCandidate.matches_le {index : IndexedCorpus} {actual : List String}
    {committedSymbol : ℕ} {candidate : AlignmentCandidate}
    (h : SoundCandidate index actual committedSymbol candidate) :
    candidate.alignment.operations.countP AlignmentOperation.isMatch ≤ actual.length := by
  obtain ⟨m, -, -, hpath⟩ := h.span
  have hmatches := (editPath_editScript actual
    (referencePhonemes index.symbols candidate.symbolIndex m)).matches_le (a := 0) (b := 0)
    fun _ _ _ _ _ => ⟨Nat.zero_le _, Nat.zero_le _⟩
  rw [hpath]
  exact hmatches.1

/-- A candidate the search returned is sound for the phonemes of an accepted observation. -/
lemma locateObservation_sound {index : IndexedCorpus} {value : JsValue}
    {cursorSymbol committedSymbol : ℕ} {located : Located} {candidate : AlignmentCandidate}
    (hlocate : locateObservation index value cursorSymbol committedSymbol = .ok located)
    (hcandidate : located.best = some candidate ∨ located.second = some candidate) :
    ∃ observation, validateObservation value = .ok observation ∧
      SoundCandidate index (observationPhonemes observation) committedSymbol candidate := by
  have hcheck : ∃ observation, validateObservation value = .ok observation := by
    rw [locateObservation, bind_eq_ok] at hlocate
    obtain ⟨observation, hcheck, -⟩ := hlocate
    exact ⟨observation, hcheck⟩
  obtain ⟨observation, hcheck⟩ := hcheck
  rw [locateObservation_eq index hcheck, Except.ok.injEq] at hlocate
  subst hlocate
  exact ⟨observation, hcheck, locate_sound_of_mem hcandidate⟩

/-! ### Adjusting and scoring again -/

/-- **Adjusted evidence is scored evidence.** Of a candidate the search returned and any
score, there is no evidence exactly when the candidate is a reread or its path has no
substitution; evidence names the path's first substitution and carries the score of the same
inputs with the matches right after that substitution as their count, which lies in the unit
interval. -/
theorem substitutionEvidence_rescores {index : IndexedCorpus} {value : JsValue}
    {cursorSymbol committedSymbol : ℕ} {located : Located} {candidate : AlignmentCandidate}
    (hlocate : locateObservation index value cursorSymbol committedSymbol = .ok located)
    (hcandidate : located.best = some candidate ∨ located.second = some candidate)
    (input : ConfidenceInput) :
    (deriveSubstitutionEvidence candidate (scoreConfidence input) = none ↔
      candidate.isReread = true ∨ ∀ i j, .substitution i j ∉ candidate.alignment.operations) ∧
    ∀ evidence, deriveSubstitutionEvidence candidate (scoreConfidence input) = some evidence →
      ∃ before i j after,
        candidate.alignment.operations = before ++ .substitution i j :: after ∧
        (∀ i' j', .substitution i' j' ∉ before) ∧ evidence.operation = ⟨i, j⟩ ∧
        evidence.confidence = scoreConfidence { input with
          matchedLookaheadCount := (after.takeWhile AlignmentOperation.isMatch).length } ∧
        0 ≤ evidence.confidence.combined ∧ evidence.confidence.combined ≤ 1 := by
  refine ⟨deriveSubstitutionEvidence_eq_none, fun evidence hevidence => ?_⟩
  obtain ⟨hreread, operation, hoperation⟩ : candidate.isReread = false ∧
      ∃ operation, substitutionOperation candidate = some operation := by
    have hsome : ¬deriveSubstitutionEvidence candidate (scoreConfidence input) = none := by
      rw [hevidence]
      exact Option.some_ne_none _
    rw [deriveSubstitutionEvidence_eq_none, not_or, Bool.not_eq_true,
      ← firstSubstitution_eq_none] at hsome
    exact ⟨hsome.1, Option.ne_none_iff_exists'.mp hsome.2⟩
  obtain ⟨before, after, hat⟩ := exists_firstSubstitutionAt hoperation
  have hcount : leadingMatches after ≤ maxSafeInteger := by
    obtain ⟨observation, hcheck, hsound⟩ := locateObservation_sound hlocate hcandidate
    calc leadingMatches after ≤ after.countP AlignmentOperation.isMatch := leadingMatches_le _
      _ ≤ candidate.alignment.operations.countP AlignmentOperation.isMatch := by
          rw [hat.split, List.countP_append, List.countP_cons]
          omega
      _ ≤ (observationPhonemes observation).length := hsound.matches_le
      _ ≤ observationLimits.maxPhonemes := observationPhonemes_length_le hcheck
      _ ≤ maxSafeInteger := by decide
  rw [deriveSubstitutionEvidence_eq hreread hoperation hat, Option.some.injEq] at hevidence
  subst hevidence
  have hscore : { scoreConfidence input with
        lookahead := lookaheadOf (leadingMatches after)
        matchedLookaheadCount := leadingMatches after
        combined := (scoreConfidence input).combined
          + (lookaheadOf (leadingMatches after) - (scoreConfidence input).lookahead)
            * (if (scoreConfidence input).acoustic = none then 2 / 10 else 17 / 100) }
      = scoreConfidence { input with matchedLookaheadCount := leadingMatches after } := by
    rw [@scoreConfidence_eq { input with matchedLookaheadCount := leadingMatches after } hcount,
      scoreConfidence_weigh]
    have hweigh := input.weigh_add (scoreConfidence input).lookahead
      (lookaheadOf (leadingMatches after))
    exact congrArg (ConfidenceEvidence.mk _ _ _ _ _ _) hweigh
  refine ⟨before, operation.actualIndex, operation.referenceIndex, after, hat.split, hat.first,
    rfl, hscore, ?_⟩
  rw [hscore]
  exact (scoreConfidence_bounded _).combined

/-- Four of the sample's symbols, the second misheard. -/
def secondMisheard : JsValue := sampleObservation "c" 1 true ["p0", "x", "p2", "p3"]

/-- A certain position, every phoneme heard with full confidence. -/
def certainInput : ConfidenceInput := ⟨3 / 4, 1, 0, 1, 4, List.replicate 4 (some 1)⟩

lemma secondMisheard_found :
    (locateObservation sampleIndex secondMisheard 0 0).toOption.any (fun located =>
      located.best.any fun candidate =>
        (deriveSubstitutionEvidence candidate (scoreConfidence certainInput)).isSome) = true := by
  decide +kernel

/-- The second symbol misheard leaves evidence, with a confidence that is a share. -/
theorem substitutionEvidence_rescores_misheard : ∃ located candidate evidence,
    locateObservation sampleIndex secondMisheard 0 0 = .ok located ∧
    located.best = some candidate ∧
    deriveSubstitutionEvidence candidate (scoreConfidence certainInput) = some evidence ∧
    0 ≤ evidence.confidence.combined ∧ evidence.confidence.combined ≤ 1 := by
  have hfound := secondMisheard_found
  cases hlocate : locateObservation sampleIndex secondMisheard 0 0 with
  | error e =>
      rw [hlocate] at hfound
      cases hfound
  | ok located =>
      simp only [hlocate, Except.toOption, Option.any_some, Option.any_eq_true,
        Option.isSome_iff_exists] at hfound
      obtain ⟨candidate, hbest, evidence, hevidence⟩ := hfound
      obtain ⟨_, _, _, _, _, _, _, _, hmem⟩ := (substitutionEvidence_rescores hlocate
        (Or.inl hbest) certainInput).2 evidence hevidence
      exact ⟨located, candidate, evidence, rfl, hbest, hevidence, hmem⟩

end Qaraa
