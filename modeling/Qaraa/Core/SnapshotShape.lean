import Qaraa.Core.FindingSoundness

/-!
The values a snapshot can hold.

* `ConfidenceEvidence.Bounded`: scores in `[0, 1]`, with room in `combined` for any other
  lookahead; `scoreConfidence_bounded` and `deriveSubstitutionEvidence_bounded`: scoring
  and the adjustment of a substitution stay inside.
* `ShapedFinding`, `ShapedSnapshot`: ids that are not blank, addresses of corpus symbols,
  bounded confidences.
* `shapedSnapshot_of_run`: **every snapshot of a run is shaped**.
-/

namespace Qaraa

open Fallible Ordered

/-! ### Confidences -/

/-- The weight of the lookahead in `combined`. -/
def ConfidenceEvidence.lookaheadWeight (confidence : ConfidenceEvidence) : ℚ :=
  if confidence.acoustic = none then 2 / 10 else 17 / 100

/-- Every score lies in `[0, 1]`. Whatever the lookahead were, `combined` would too: its
other parts leave room for the full weight of the lookahead. -/
structure ConfidenceEvidence.Bounded (confidence : ConfidenceEvidence) : Prop where
  alignment : 0 ≤ confidence.alignment ∧ confidence.alignment ≤ 1
  stability : 0 ≤ confidence.stability ∧ confidence.stability ≤ 1
  lookahead : 0 ≤ confidence.lookahead ∧ confidence.lookahead ≤ 1
  margin : 0 ≤ confidence.margin
  acoustic : ∀ a ∈ confidence.acoustic, 0 ≤ a ∧ a ≤ 1
  below : confidence.lookahead * confidence.lookaheadWeight ≤ confidence.combined
  above : confidence.combined + (1 - confidence.lookahead) * confidence.lookaheadWeight ≤ 1

lemma ConfidenceEvidence.lookaheadWeight_nonneg (confidence : ConfidenceEvidence) :
    0 ≤ confidence.lookaheadWeight := by
  rw [lookaheadWeight]
  split_ifs <;> norm_num

lemma ConfidenceEvidence.Bounded.combined {confidence : ConfidenceEvidence}
    (h : confidence.Bounded) : 0 ≤ confidence.combined ∧ confidence.combined ≤ 1 := by
  have hweight := confidence.lookaheadWeight_nonneg
  have hbelow := mul_nonneg h.lookahead.1 hweight
  have habove := mul_nonneg (sub_nonneg.mpr h.lookahead.2) hweight
  have hroom := h.above
  exact ⟨hbelow.trans h.below, by linarith⟩

lemma clampUnit_mem (value : ℚ) : 0 ≤ clampUnit value ∧ clampUnit value ≤ 1 :=
  ⟨le_max_left _ _, max_le zero_le_one (min_le_left _ _)⟩

/-- The share of matched lookahead, two matches being all of it. -/
lemma lookahead_mem (count : ℕ) :
    0 ≤ min (1 : ℚ) ((count : ℚ) / 2) ∧ min (1 : ℚ) ((count : ℚ) / 2) ≤ 1 :=
  ⟨le_min zero_le_one (by positivity), min_le_left _ _⟩

lemma sum_mem_of_unit {values : List ℚ} (h : ∀ v ∈ values, 0 ≤ v ∧ v ≤ 1) :
    0 ≤ values.sum ∧ values.sum ≤ values.length := by
  induction values with
  | nil => simp
  | cons v values ih =>
      obtain ⟨hv0, hv1⟩ := h v (by simp)
      obtain ⟨h0, h1⟩ := ih fun w hw => h w (by simp [hw])
      rw [List.sum_cons, List.length_cons, Nat.cast_succ]
      exact ⟨by linarith, by linarith⟩

/-- The mean of confidences in `[0, 1]` lies there too. -/
lemma alignedAcousticConfidence_mem {input : ConfidenceInput} {a : ℚ}
    (h : alignedAcousticConfidence input = some a) : 0 ≤ a ∧ a ≤ 1 := by
  rw [alignedAcousticConfidence] at h
  dsimp only at h
  split_ifs at h with hcount hempty
  cases h
  have hunit : ∀ v ∈ (input.acousticConfidences.filterMap id).filter
      fun value => 0 ≤ value ∧ value ≤ 1, 0 ≤ v ∧ v ≤ 1 := fun v hv => by
    simpa using (List.mem_filter.mp hv).2
  have hmem := sum_mem_of_unit hunit
  have hpos : (0 : ℚ) < (((input.acousticConfidences.filterMap id).filter
      fun value => 0 ≤ value ∧ value ≤ 1).length : ℕ) := by
    exact_mod_cast Nat.pos_of_ne_zero hempty
  exact ⟨div_nonneg hmem.1 hpos.le, (div_le_one hpos).mpr hmem.2⟩

/-- The two ways the evidence is weighed. -/
lemma scoreConfidence_combined (input : ConfidenceInput) :
    ((scoreConfidence input).acoustic = none ∧ (scoreConfidence input).combined
      = (scoreConfidence input).alignment * (4 / 10)
        + (scoreConfidence input).stability * (25 / 100)
        + (scoreConfidence input).lookahead * (2 / 10)
        + (scoreConfidence input).margin * (15 / 100)) ∨
    ∃ a, (scoreConfidence input).acoustic = some a ∧ (scoreConfidence input).combined
      = (scoreConfidence input).alignment * (34 / 100)
        + (scoreConfidence input).stability * (2125 / 10000)
        + (scoreConfidence input).lookahead * (17 / 100)
        + (scoreConfidence input).margin * (1275 / 10000) + a * (15 / 100) := by
  simp only [scoreConfidence]
  split
  · rename_i hnone
    exact Or.inl ⟨hnone, rfl⟩
  · rename_i a hsome
    exact Or.inr ⟨a, hsome, rfl⟩

/-- Scored evidence is bounded. -/
lemma scoreConfidence_bounded (input : ConfidenceInput) : (scoreConfidence input).Bounded := by
  have halign : 0 ≤ (scoreConfidence input).alignment ∧ (scoreConfidence input).alignment ≤ 1 :=
    clampUnit_mem input.alignment
  have hstable : 0 ≤ (scoreConfidence input).stability ∧ (scoreConfidence input).stability ≤ 1 :=
    clampUnit_mem input.stability
  have hmargin : 0 ≤ (scoreConfidence input).margin ∧ (scoreConfidence input).margin ≤ 1 :=
    clampUnit_mem input.margin
  have hlook : 0 ≤ (scoreConfidence input).lookahead ∧ (scoreConfidence input).lookahead ≤ 1 :=
    lookahead_mem _
  have hacoustic : ∀ a ∈ (scoreConfidence input).acoustic, 0 ≤ a ∧ a ≤ 1 :=
    fun a ha => alignedAcousticConfidence_mem ha
  refine ⟨halign, hstable, hlook, hmargin.1, hacoustic, ?_, ?_⟩
  · rcases scoreConfidence_combined input with ⟨hnone, hcombined⟩ | ⟨a, hsome, hcombined⟩
    · rw [ConfidenceEvidence.lookaheadWeight, if_pos hnone, hcombined]
      linarith [halign.1, hstable.1, hmargin.1]
    · have ha := hacoustic a hsome
      rw [ConfidenceEvidence.lookaheadWeight, if_neg (by simp [hsome]), hcombined]
      linarith [halign.1, hstable.1, hmargin.1, ha.1]
  · rcases scoreConfidence_combined input with ⟨hnone, hcombined⟩ | ⟨a, hsome, hcombined⟩
    · rw [ConfidenceEvidence.lookaheadWeight, if_pos hnone, hcombined]
      linarith [halign.2, hstable.2, hmargin.2]
    · have ha := hacoustic a hsome
      rw [ConfidenceEvidence.lookaheadWeight, if_neg (by simp [hsome]), hcombined]
      linarith [halign.2, hstable.2, hmargin.2, ha.2]

/-- The adjustment to a substitution's own lookahead stays bounded. -/
lemma deriveSubstitutionEvidence_bounded {candidate : AlignmentCandidate}
    {confidence : ConfidenceEvidence} (h : confidence.Bounded) {evidence : SubstitutionEvidence}
    (hevidence : deriveSubstitutionEvidence candidate confidence = some evidence) :
    evidence.confidence.Bounded := by
  rw [deriveSubstitutionEvidence] at hevidence
  split at hevidence
  · cases hevidence
  · split at hevidence
    · cases hevidence
    · rename_i operation _
      cases hevidence
      have hbelow := h.below
      have habove := h.above
      rw [ConfidenceEvidence.lookaheadWeight] at hbelow habove
      refine ⟨h.alignment, h.stability, lookahead_mem _, h.margin, h.acoustic, ?_, ?_⟩
      · rw [ConfidenceEvidence.lookaheadWeight]
        linarith
      · rw [ConfidenceEvidence.lookaheadWeight]
        linarith

/-! ### Snapshots -/

/-- The ids and addresses of a finding are those of a corpus symbol. -/
structure ShapedFinding (index : IndexedCorpus) (finding : ConfirmedFinding) : Prop where
  observationId : isBlank finding.observationId = false
  symbol : ∃ s ∈ index.symbols, s.id = finding.referenceSymbolId ∧ s.location = finding.location
  confidence : finding.confidence.Bounded
  confirmations : 1 ≤ finding.confirmations

/-- The ids of a snapshot are not blank, its addresses are those of corpus symbols and its
evidence is bounded. -/
structure ShapedSnapshot (config : TrackerConfig) (snapshot : ReadingSnapshot) : Prop where
  observationId : ∀ id ∈ snapshot.observationId, isBlank id = false
  display : ∃ s ∈ config.corpus.symbols, s.location = snapshot.display.location
  activeWordId : ∀ id ∈ snapshot.display.activeWordId, ∃ w ∈ config.words, w.word.id = id
  commit : ∃ s ∈ config.corpus.symbols, s.location = snapshot.commit.location
  completed : ∀ id ∈ snapshot.commit.completedWordIds, ∃ w ∈ config.words, w.word.id = id
  completed_nodup : snapshot.commit.completedWordIds.Nodup
  confidence : ∀ confidence ∈ snapshot.confidence, confidence.Bounded
  finding : ∀ finding ∈ snapshot.finding, ShapedFinding config.corpus finding

lemma exists_symbol_of_locationAt {corpus : IndexedCorpus} {k : ℕ} {location : QuranLocation}
    (h : locationAt corpus k = .ok location) : ∃ s ∈ corpus.symbols, s.location = location := by
  obtain ⟨s, hs, hlocation⟩ := locationAt_eq_ok_iff.mp h
  exact ⟨s, List.mem_of_getElem? hs, hlocation⟩

/-- The id of a checked observation is not blank. -/
lemma validateObservation_id {value : JsValue} {observation : RecitationObservation}
    (h : validateObservation value = .ok observation) :
    isBlank observation.observationId = false := by
  simp only [validateObservation, bind_eq_ok, failIf_eq_ok, pure_eq_ok, exists_const] at h
  obtain ⟨-, id, hid, -, -, -, -, -, -, -, -, -, -, -, -, -, -, rfl⟩ := h
  exact (requireNonEmptyString_ok hid).2

/-- The evidence an accepted observation leaves in the snapshot. -/
lemma Accepted.evidence {config : TrackerConfig} {before after : TrackerState}
    {observation : RecitationObservation} (h : Accepted config before observation after)
    (hid : isBlank observation.observationId = false) :
    (∀ confidence ∈ after.snapshot.confidence, confidence.Bounded) ∧
      ∀ finding ∈ after.snapshot.finding, ShapedFinding config.corpus finding := by
  have hfound : ∀ (candidate : AlignmentCandidate) (input : ConfidenceInput),
      FindingStep config observation candidate (scoreConfidence input) after.snapshot.finding →
        ∀ finding ∈ after.snapshot.finding, ShapedFinding config.corpus finding := by
    intro candidate input hstep finding hfinding
    obtain ⟨-, -, evidence, confirmations, hevidence, hclassify⟩ := hstep finding hfinding
    obtain ⟨-, hconfidence, -, ⟨s, hs, hsid, hlocation, -⟩, -, hobservation, hpos⟩ :=
      classifyFindingWithEvidence_some hclassify
    refine ⟨by rw [hobservation]; exact hid, ⟨s, List.mem_of_getElem? hs, hsid, hlocation⟩, ?_,
      hpos⟩
    rw [hconfidence]
    exact deriveSubstitutionEvidence_bounded (scoreConfidence_bounded input) hevidence
  have hscored : ∀ input : ConfidenceInput,
      after.snapshot.confidence = some (scoreConfidence input) →
        ∀ confidence ∈ after.snapshot.confidence, confidence.Bounded := by
    intro input hconfidence confidence hmem
    rw [hconfidence] at hmem
    cases hmem
    exact scoreConfidence_bounded input
  cases h.step with
  | unlocated _ _ hconfidence hfinding =>
      have hconfidence : after.snapshot.confidence = none := hconfidence
      have hfinding : after.snapshot.finding = none := hfinding
      rw [hconfidence, hfinding]
      exact ⟨nofun, nofun⟩
  | held candidate _ _ _ hconfidence hfinding =>
      exact ⟨hscored _ hconfidence, hfound candidate _ hfinding⟩
  | advanced candidate _ _ _ hconfidence hfinding =>
      exact ⟨hscored _ hconfidence, hfound candidate _ hfinding⟩

/-- The invariant of a run ties display and commit to the corpus. -/
lemma TrackerInvariant.shapedSnapshot {config : TrackerConfig} {traced : Traced}
    (hinv : TrackerInvariant config traced)
    (hid : ∀ id ∈ traced.state.snapshot.observationId, isBlank id = false)
    (hconfidence : ∀ confidence ∈ traced.state.snapshot.confidence, confidence.Bounded)
    (hfinding : ∀ finding ∈ traced.state.snapshot.finding, ShapedFinding config.corpus finding) :
    ShapedSnapshot config traced.state.snapshot := by
  obtain ⟨done, hdone⟩ := hinv.completed
  have hids : traced.state.snapshot.commit.completedWordIds = done.map fun w => w.word.id :=
    hinv.completedIds.trans hdone.ids
  refine ⟨hid, exists_symbol_of_locationAt hinv.cursor, ?_, exists_symbol_of_locationAt hinv.commit,
    ?_, ?_, hconfidence, hfinding⟩
  · intro id hactive
    cases hpos : traced.history.positioned with
    | false =>
        rw [hinv.unpositioned hpos] at hactive
        cases hactive
    | true =>
        obtain ⟨w, hw, -, -, hword⟩ := hinv.positioned hpos
        rw [hword] at hactive
        cases hactive
        exact ⟨w, hw, rfl⟩
  · intro id hmem
    rw [hids] at hmem
    obtain ⟨w, hw, rfl⟩ := List.mem_map.mp hmem
    exact ⟨w, hdone.words w hw, rfl⟩
  · rw [hinv.completedIds, ← hdone.set]
    exact traced.state.completedWordIdSet.nodup

/-- **Every snapshot of a run is shaped.** -/
theorem shapedSnapshot_of_run (tracker : CreatedTracker) (commands : List TrackerCommand) :
    ShapedSnapshot tracker.config (tracker.snapshotAfter commands) := by
  have hvalid := tracker.valid
  induction commands using List.reverseRecOn with
  | nil =>
      have hinv := tracker.invariant []
      obtain ⟨-, -, -, -, i, -, hcreated⟩ := createReadingTracker_ok tracker.creation
      have hstart : (tracker.run []).state = tracker.created := rfl
      refine hinv.shapedSnapshot ?_ ?_ ?_
      all_goals
        rw [hstart, hcreated]
        rintro value ⟨⟩
  | append_singleton commands command ih =>
      have hinv := tracker.invariant commands
      have hnext := tracker.invariant (commands ++ [command])
      rw [CreatedTracker.snapshotAfter]
      rw [tracker.run_concat] at hnext ⊢
      cases hinv.commandStep hvalid command with
      | unchanged hsame =>
          rw [hsame]
          exact ih
      | restarted location i _ _ hstart =>
          refine hnext.shapedSnapshot ?_ ?_ ?_
          all_goals
            rw [hstart]
            rintro value ⟨⟩
      | accepted value observation after _ hchecked _ hacc hafter =>
          have hid := validateObservation_id hchecked
          obtain ⟨hconfidence, hfinding⟩ := hacc.evidence hid
          refine hnext.shapedSnapshot ?_ ?_ ?_
          · rw [hafter, hacc.observationId]
            rintro id ⟨⟩
            exact hid
          · rw [hafter]
            exact hconfidence
          · rw [hafter]
            exact hfinding

end Qaraa
