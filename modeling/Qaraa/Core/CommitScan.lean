import Qaraa.Core.ReadingProgress
import Qaraa.Core.SampleCorpus

/-!
The commit loop of the tracker against a scan of the whole corpus.

* `CommitScan`, `scanWords`: the scan: every word of the corpus, in order, is completed if
  the alignment supports it.
* `collectTouchedWordIds_eq`: the words the fast path visits are those that meet the
  aligned symbols or the two after them, in corpus order.
* `commitSupportedWords_eq_foldl`: the words it does not visit are not supported, so it
  may as well visit all.
* `commit_eq_scan`: **the commit fast path equals the full scan** in every reachable state.
-/

namespace Qaraa

open Fallible Ordered Consecutive

/-! ### The scan -/

/-- The committed progress during a scan. -/
structure CommitScan where
  completedWordIds : List String
  committedSymbol : ℕ
  deriving DecidableEq

/-- The position `k` is paired with an observed phoneme. -/
def PairedAt (candidate : AlignmentCandidate) (k : ℕ) : Prop :=
  ∃ operation ∈ candidate.alignment.operations, ∃ i j,
    (operation = .matched i j ∨ operation = .substitution i j) ∧ k = candidate.symbolIndex + j

/-- The position `k` is matched by an observed phoneme. -/
def MatchedAt (candidate : AlignmentCandidate) (k : ℕ) : Prop :=
  ∃ i j, .matched i j ∈ candidate.alignment.operations ∧ k = candidate.symbolIndex + j

lemma pairedAt_iff {candidate : AlignmentCandidate} {k : ℕ} :
    PairedAt candidate k ↔ k ∈ consumedSymbols candidate := by
  rw [mem_consumedSymbols]
  refine exists_congr fun operation => and_congr_right fun _ => ?_
  cases operation with
  | matched i j => simp [AlignmentOperation.actualIndex, AlignmentOperation.referenceIndex]
  | substitution i j => simp [AlignmentOperation.actualIndex, AlignmentOperation.referenceIndex]
  | insertion i => simp [AlignmentOperation.referenceIndex]
  | deletion j => simp [AlignmentOperation.actualIndex]

lemma matchedAt_iff {candidate : AlignmentCandidate} {k : ℕ} :
    MatchedAt candidate k ↔ k ∈ matchedSymbols candidate := by
  rw [matchedSymbols, List.mem_filterMap]
  constructor
  · rintro ⟨i, j, hop, rfl⟩
    exact ⟨_, hop, rfl⟩
  · rintro ⟨operation, hop, hk⟩
    cases operation with
    | matched i j => exact ⟨i, j, hop, (Option.some.inj hk).symm⟩
    | substitution i j => cases hk
    | insertion i => cases hk
    | deletion j => cases hk

instance (candidate : AlignmentCandidate) (k : ℕ) : Decidable (PairedAt candidate k) :=
  decidable_of_iff _ pairedAt_iff.symm

instance (candidate : AlignmentCandidate) (k : ℕ) : Decidable (MatchedAt candidate k) :=
  decidable_of_iff _ matchedAt_iff.symm

/-- A word of the corpus is completed: it is not complete yet, its last symbol is not
behind the committed one, all its symbols are paired, and the observation is final or the
two positions after the word are matched. -/
def Completes (candidate : AlignmentCandidate) (isFinal : Bool) (scan : CommitScan)
    (w : OrderedWord) : Prop :=
  w.word.id ∉ scan.completedWordIds ∧ scan.committedSymbol ≤ w.range.stop - 1 ∧
    (∀ k, w.range.start ≤ k → k < w.range.stop → PairedAt candidate k) ∧
    (isFinal = true ∨
      (MatchedAt candidate w.range.stop ∧ MatchedAt candidate (w.range.stop + 1)))

instance (candidate : AlignmentCandidate) (isFinal : Bool) (scan : CommitScan)
    (w : OrderedWord) : Decidable (Completes candidate isFinal scan w) :=
  inferInstanceAs (Decidable (_ ∧ _ ∧ (∀ k, w.range.start ≤ k → k < w.range.stop →
    PairedAt candidate k) ∧ _))

/-- One word of the scan. -/
def scanWord (candidate : AlignmentCandidate) (isFinal : Bool) (scan : CommitScan)
    (w : OrderedWord) : CommitScan :=
  if Completes candidate isFinal scan w then
    ⟨scan.completedWordIds ++ [w.word.id], w.range.stop - 1⟩
  else scan

/-- The scan of all words, in corpus order. -/
def scanWords (candidate : AlignmentCandidate) (isFinal : Bool)
    (words : List OrderedWord) (scan : CommitScan) : CommitScan :=
  words.foldl (scanWord candidate isFinal) scan

/-! ### The words visited -/

section Visited

variable {config : TrackerConfig}

/-- The word meets the positions from `s` up to `e`. -/
def WordMeets (s e : ℕ) (w : OrderedWord) : Prop :=
  Meets (fun w : OrderedWord => w.range.start) (fun w => w.range.stop) s e w

instance (s e : ℕ) : DecidablePred (WordMeets s e) := fun w =>
  inferInstanceAs (Decidable (Meets _ _ s e w))

/-- Touching the positions one after the other visits the words they lie in, in corpus
order; positions after the corpus touch nothing. -/
lemma foldl_addWordAt (hvalid : ValidConfig config) (s count : ℕ) :
    ((List.range' s count).foldl (addWordAt config.symbolWordIds) .empty).items
      = (config.words.filter (WordMeets s (s + count))).map fun w => w.word.id := by
  induction count with
  | zero =>
      have hnone : config.words.filter (WordMeets s (s + 0)) = [] := by
        refine List.filter_eq_nil_iff.mpr fun w _ => ?_
        rw [decide_eq_true_iff, WordMeets, Meets]
        omega
      rw [hnone]
      rfl
  | succ count ih =>
      rw [List.range'_1_concat, List.foldl_append, List.foldl_cons, List.foldl_nil]
      by_cases hlt : s + count < config.corpus.symbols.length
      · obtain ⟨w, hw, hlo, hhi⟩ := hvalid.partition.exists_mem (Nat.zero_le _) hlt
        have hgrow := hvalid.partition.filter_meets_succ hw (Nat.le_add_right s count) hlo hhi
        have hid := hvalid.wordIds_ne w hw
        rw [addWordAt, hvalid.wordAt w hw _ hlo hhi]
        dsimp only
        rw [if_neg hid, OrderedSet.items_add, ih]
        have hmem : w.word.id ∈ (config.words.filter (WordMeets s (s + count))).map
            (fun w => w.word.id) ↔ WordMeets s (s + count) w := by
          rw [List.mem_map]
          constructor
          · rintro ⟨v, hv, hvid⟩
            obtain ⟨hv, hmeets⟩ := List.mem_filter.mp hv
            rw [← hvalid.word_ext hv hw hvid]
            exact of_decide_eq_true hmeets
          · exact fun hmeets => ⟨w, List.mem_filter.mpr ⟨hw, decide_eq_true hmeets⟩, rfl⟩
        have hgrown : config.words.filter (WordMeets s (s + (count + 1)))
            = if WordMeets s (s + count) w then config.words.filter (WordMeets s (s + count))
              else config.words.filter (WordMeets s (s + count)) ++ [w] := hgrow
        rw [hgrown]
        by_cases hmeets : WordMeets s (s + count) w
        · rw [if_pos (hmem.mpr hmeets), if_pos hmeets]
        · rw [if_neg (mt hmem.mp hmeets), if_neg hmeets, List.map_append, List.map_singleton]
      · rw [addWordAt, hvalid.wordAt_none _ (not_lt.mp hlt)]
        dsimp only
        rw [ih]
        refine congrArg _ (List.filter_congr fun w hw => decide_eq_decide.mpr ?_)
        have hbounds := (hvalid.partition.mem_bounds hw).2.2
        rw [WordMeets, WordMeets, Meets, Meets]
        omega

/-- The words the fast path visits: those that meet the `m` aligned symbols or the two
after them. -/
lemma collectTouchedWordIds_eq (hvalid : ValidConfig config) {candidate : AlignmentCandidate}
    {m : ℕ} (hm : 0 < m) (hreference : candidate.alignment.operations.filterMap
      AlignmentOperation.referenceIndex = List.range m) :
    collectTouchedWordIds candidate config.symbolWordIds
      = (config.words.filter (WordMeets candidate.symbolIndex
          (candidate.symbolIndex + (m + PARTIAL_COMMIT_LOOKAHEAD)))).map fun w => w.word.id := by
  have hindexes : (List.range m).map (candidate.symbolIndex + ·)
      = List.range' candidate.symbolIndex m := by
    rw [List.range'_eq_map_range]
  have hmax : (List.range' candidate.symbolIndex m).max?
      = some (candidate.symbolIndex + (m - 1)) := by
    rw [List.max?_eq_some_iff]
    refine ⟨by rw [List.mem_range'_1]; omega, fun k hk => ?_⟩
    rw [List.mem_range'_1] at hk
    omega
  have hnext : ∀ touched : OrderedSet String,
      (List.range' 1 PARTIAL_COMMIT_LOOKAHEAD).foldl (fun touched offset =>
        addWordAt config.symbolWordIds touched (candidate.symbolIndex + (m - 1) + offset)) touched
      = (List.range' (candidate.symbolIndex + m) PARTIAL_COMMIT_LOOKAHEAD).foldl
          (addWordAt config.symbolWordIds) touched := by
    intro touched
    have hshift : List.range' (candidate.symbolIndex + m) PARTIAL_COMMIT_LOOKAHEAD
        = (List.range' 1 PARTIAL_COMMIT_LOOKAHEAD).map
          (candidate.symbolIndex + (m - 1) + ·) := by
      rw [List.map_add_range']
      congr 1
      omega
    rw [hshift, List.foldl_map]
  rw [collectTouchedWordIds, hreference, hindexes, hmax]
  dsimp only
  rw [hnext, ← List.foldl_append, List.range'_append_1, foldl_addWordAt hvalid]

end Visited

/-! ### The two loops -/

section Loops

variable {config : TrackerConfig} {candidate : AlignmentCandidate} {isFinal : Bool}

/-- The support of a word, as the scan states it. -/
lemma wordSupported_iff_paired (candidate : AlignmentCandidate) (isFinal : Bool)
    (committedSymbol : ℕ) {range : CorpusRange} (hrange : range.start < range.stop) :
    wordSupported candidate isFinal committedSymbol range = true ↔
      committedSymbol ≤ range.stop - 1 ∧
      (∀ k, range.start ≤ k → k < range.stop → PairedAt candidate k) ∧
      (isFinal = true ∨
        (MatchedAt candidate range.stop ∧ MatchedAt candidate (range.stop + 1))) := by
  have hlookahead : (∀ offset < PARTIAL_COMMIT_LOOKAHEAD,
      range.stop + offset ∈ matchedSymbols candidate) ↔
        MatchedAt candidate range.stop ∧ MatchedAt candidate (range.stop + 1) := by
    rw [matchedAt_iff, matchedAt_iff]
    constructor
    · exact fun h => ⟨h 0 (by decide), h 1 (by decide)⟩
    · rintro ⟨hfirst, hsecond⟩ offset hoffset
      rw [PARTIAL_COMMIT_LOOKAHEAD] at hoffset
      interval_cases offset
      · exact hfirst
      · exact hsecond
  rw [wordSupported_iff, hlookahead]
  simp only [← pairedAt_iff]
  constructor
  · rintro ⟨⟨hahead, -⟩, hpaired, hnext⟩
    exact ⟨by omega, hpaired, hnext⟩
  · rintro ⟨hahead, hpaired, hnext⟩
    obtain ⟨-, -, i, j, -, hstart⟩ := hpaired range.start le_rfl hrange
    exact ⟨⟨by omega, by omega⟩, hpaired, hnext⟩

/-- One word of the fast path. -/
def commitOrdered (candidate : AlignmentCandidate) (isFinal : Bool) (state : TrackerState)
    (w : OrderedWord) : TrackerState :=
  if wordSupported candidate isFinal state.committedSymbol w.range then state.completeWord w
  else state

/-- A word that meets neither the aligned symbols nor the two after them is not
supported, so visiting every word does the same as visiting those that do. -/
lemma commitSupportedWords_eq_foldl (hvalid : ValidConfig config) {m : ℕ} (hm : 0 < m)
    (hreference : candidate.alignment.operations.filterMap AlignmentOperation.referenceIndex
      = List.range m) (state : TrackerState) (observation : RecitationObservation) :
    commitSupportedWords config state candidate observation
      = config.words.foldl (commitOrdered candidate observation.isFinal) state := by
  rw [commitSupportedWords, collectTouchedWordIds_eq hvalid hm hreference, List.foldl_map,
    List.foldl_filter]
  refine List.foldl_ext _ _ _ fun state w hw => ?_
  have hbounds := (hvalid.partition.mem_bounds hw).2.1
  have hvisit : commitWord config candidate observation.isFinal state w.word.id
      = commitOrdered candidate observation.isFinal state w := by
    rw [commitWord, (hvalid.word_iff w.word.id w).mpr ⟨hw, rfl⟩]
    rfl
  by_cases hmeets : WordMeets candidate.symbolIndex
      (candidate.symbolIndex + (m + PARTIAL_COMMIT_LOOKAHEAD)) w
  · rw [if_pos (decide_eq_true hmeets), hvisit]
  · rw [if_neg (by simpa using hmeets), commitOrdered, if_neg]
    intro hsupported
    obtain ⟨-, hpaired, -⟩ := (wordSupported_iff_paired _ _ _ hbounds).mp hsupported
    obtain ⟨operation, hop, i, j, hpair, hstart⟩ := hpaired w.range.start le_rfl hbounds
    have hj : j ∈ candidate.alignment.operations.filterMap AlignmentOperation.referenceIndex := by
      refine List.mem_filterMap.mpr ⟨operation, hop, ?_⟩
      rcases hpair with rfl | rfl
      · rfl
      · rfl
    rw [hreference, List.mem_range] at hj
    refine hmeets ?_
    rw [WordMeets, Meets]
    omega

/-- The committed progress of a state. -/
def TrackerState.commitScan (state : TrackerState) : CommitScan :=
  ⟨state.completedWordIds, state.committedSymbol⟩

/-- One word of the fast path and of the scan: a supported word that is complete already
ends at the committed symbol, so it changes neither. -/
lemma commitOrdered_scan (candidate : AlignmentCandidate) (isFinal : Bool)
    (hvalid : ValidConfig config) {state : TrackerState} {done : List OrderedWord}
    (h : Completed config state done) {w : OrderedWord} (hw : w ∈ config.words) :
    (commitOrdered candidate isFinal state w).commitScan
        = scanWord candidate isFinal state.commitScan w ∧
      ∃ done', Completed config (commitOrdered candidate isFinal state w) done' := by
  have hbounds := (hvalid.partition.mem_bounds hw).2.1
  have hsupport := wordSupported_iff_paired candidate isFinal state.committedSymbol hbounds
  rw [commitOrdered, scanWord]
  by_cases hsupported : wordSupported candidate isFinal state.committedSymbol w.range = true
  · obtain ⟨hahead, hpaired, hnext⟩ := hsupport.mp hsupported
    obtain ⟨done', hdone', -⟩ := h.completeWord hvalid hw hahead
    rw [if_pos hsupported]
    refine ⟨?_, done', hdone'⟩
    by_cases hcomplete : w.word.id ∈ state.completedWordIds
    · have hhas : state.completedWordIdSet.has w.word.id = true := by
        rw [OrderedSet.has_iff, h.set]
        exact hcomplete
      obtain ⟨v, hv, hid⟩ : ∃ v ∈ done, v.word.id = w.word.id := by
        rw [h.ids, List.mem_map] at hcomplete
        exact hcomplete
      obtain rfl := hvalid.word_ext (h.words v hv) hw hid
      rw [if_neg fun hc => hc.1 hcomplete, TrackerState.completeWord, if_pos hhas,
        TrackerState.commitScan, max_eq_left (h.stop_le hvalid hv)]
      rfl
    · have hhas : ¬state.completedWordIdSet.has w.word.id = true := by
        rw [OrderedSet.has_iff, h.set]
        exact hcomplete
      rw [if_pos ⟨hcomplete, hahead, hpaired, hnext⟩, TrackerState.completeWord, if_neg hhas,
        TrackerState.commitScan, max_eq_right hahead]
      rfl
  · rw [if_neg hsupported, if_neg fun hc => hsupported (hsupport.mpr hc.2)]
    exact ⟨rfl, done, h⟩

/-- The fast path and the scan, over the same words. -/
lemma foldl_commitOrdered_scan (hvalid : ValidConfig config) {state : TrackerState}
    {done : List OrderedWord} (h : Completed config state done) {words : List OrderedWord}
    (hwords : ∀ w ∈ words, w ∈ config.words) :
    (words.foldl (commitOrdered candidate isFinal) state).commitScan
      = scanWords candidate isFinal words state.commitScan := by
  induction words generalizing state done with
  | nil => rfl
  | cons w words ih =>
      obtain ⟨hscan, done', hdone'⟩ :=
        commitOrdered_scan candidate isFinal hvalid h (hwords w (by simp))
      rw [List.foldl_cons, ih hdone' fun v hv => hwords v (by simp [hv]), hscan]
      rfl

end Loops

/-- **The commit fast path equals a full scan.** In every reachable state of a tracker, or
any state that agrees with one on the committed progress, as the one in which a submission
commits does, and for each candidate the search returns there, the words completed, in
order, and the committed symbol are those of a scan of all words of the corpus. -/
theorem commit_eq_scan (tracker : CreatedTracker) (commands : List TrackerCommand)
    {state : TrackerState} {value : JsValue} {observation : RecitationObservation}
    {located : Located} {candidate : AlignmentCandidate}
    (hstate : SameCommit (tracker.run commands).state state)
    (hcheck : validateObservation value = .ok observation)
    (hlocate : locateObservation tracker.index value (tracker.run commands).state.cursorSymbol
      (tracker.run commands).state.committedSymbol = .ok located)
    (hcandidate : located.best = some candidate ∨ located.second = some candidate) :
    let after := commitSupportedWords tracker.config state candidate observation
    let scan := scanWords candidate observation.isFinal (orderedWords tracker.index)
      ⟨state.completedWordIds, state.committedSymbol⟩
    after.completedWordIds = scan.completedWordIds ∧ after.committedSymbol = scan.committedSymbol
      := by
  have hvalid := tracker.valid
  obtain ⟨done, hdone⟩ := (tracker.invariant commands).completed
  rw [locateObservation_eq tracker.index hcheck] at hlocate
  cases hlocate
  obtain ⟨m, hm, hle, halign⟩ := (locate_sound_of_mem hcandidate).span
  have hreference : candidate.alignment.operations.filterMap AlignmentOperation.referenceIndex
      = List.range m := by
    rw [halign, spanPath, (editPath_editScript _ _).referenceIndexes, referencePhonemes_length]
    congr 1
    omega
  have hscan : (commitSupportedWords tracker.config state candidate observation).commitScan
      = scanWords candidate observation.isFinal tracker.config.words state.commitScan := by
    rw [commitSupportedWords_eq_foldl hvalid hm hreference]
    exact foldl_commitOrdered_scan hvalid (hstate.completed hdone) fun w hw => hw
  rw [TrackerConfig.words, tracker.config_corpus] at hscan
  exact ⟨congrArg CommitScan.completedWordIds hscan, congrArg CommitScan.committedSymbol hscan⟩

lemma heardObservation_located : (locateObservation sampleIndex
    (sampleObservation "heard" 1 true ["p1", "p2"]) (sampleTracker.run []).state.cursorSymbol
    (sampleTracker.run []).state.committedSymbol).toOption.isSome = true := by
  decide +kernel

lemma heardObservation_best : (result _ heardObservation_located).best.isSome = true := by
  decide +kernel

/-- Two phonemes of the sample, committed by a new tracker. -/
theorem commit_eq_scan_heard : ∃ candidate : AlignmentCandidate,
    (result _ heardObservation_located).best = some candidate ∧
    (commitSupportedWords sampleTracker.config (sampleTracker.run []).state candidate
      (result _ heardObservation_accepted)).committedSymbol
    = (scanWords candidate (result _ heardObservation_accepted).isFinal (orderedWords sampleIndex)
        ⟨(sampleTracker.run []).state.completedWordIds,
          (sampleTracker.run []).state.committedSymbol⟩).committedSymbol := by
  obtain ⟨candidate, hbest⟩ := Option.isSome_iff_exists.mp heardObservation_best
  exact ⟨candidate, hbest, (commit_eq_scan sampleTracker [] (SameCommit.refl _)
    (eq_ok_result heardObservation_accepted) (eq_ok_result heardObservation_located)
    (Or.inl hbest)).2⟩

end Qaraa
