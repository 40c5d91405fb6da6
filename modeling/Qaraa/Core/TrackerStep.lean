import Qaraa.Core.PreparedCorpus

/-!
What one accepted observation can do to the tracker.

* `symbolIndexAt_eq_ok_iff`: in a valid corpus the two directions between positions and
  locations are inverse to each other.
* `Completed`: the completed words are corpus words in order, and the committed position
  is the last of them or the origin; `Completed.completeWord` is the step of the commit
  loop, `commitSupportedWords_spec` the loop.
* `LocatedStep`, `Accepted`: the three ways an accepted observation goes: nothing located,
  position held, position advanced.
* `submit_duplicate`, `submit_accepted`: **every submission of a checked observation is
  dropped unchanged or accepted**.
-/

namespace Qaraa

open Fallible Ordered

/-! ### Positions and locations -/

lemma locationAt_eq_ok_iff {corpus : IndexedCorpus} {k : ℕ} {location : QuranLocation} :
    locationAt corpus k = .ok location ↔
      ∃ s, corpus.symbols[k]? = some s ∧ s.location = location := by
  rw [locationAt]
  cases corpus.symbols[k]? with
  | none => simp
  | some s => simp

lemma locationAt_lt {corpus : IndexedCorpus} {k : ℕ} {location : QuranLocation}
    (h : locationAt corpus k = .ok location) : k < corpus.symbols.length := by
  obtain ⟨s, hs, -⟩ := locationAt_eq_ok_iff.mp h
  exact (List.getElem?_eq_some_iff.mp hs).1

lemma exists_locationAt {corpus : IndexedCorpus} {k : ℕ} (h : k < corpus.symbols.length) :
    ∃ location, locationAt corpus k = .ok location :=
  ⟨_, locationAt_eq_ok_iff.mpr ⟨_, List.getElem?_eq_getElem h, rfl⟩⟩

lemma locationAt_of_symbolIndexAt {corpus : IndexedCorpus} {k : ℕ} {location : QuranLocation}
    (h : symbolIndexAt corpus location = .ok k) : locationAt corpus k = .ok location := by
  rw [symbolIndexAt] at h
  split at h
  · rename_i hlt
    cases h
    refine locationAt_eq_ok_iff.mpr ⟨_, List.getElem?_eq_getElem hlt, ?_⟩
    simpa using List.findIdx_getElem (w := hlt)
  · cases h

/-- Positions and locations determine each other. -/
lemma ValidConfig.symbolIndexAt_eq_ok_iff {config : TrackerConfig} (h : ValidConfig config)
    {k : ℕ} {location : QuranLocation} :
    symbolIndexAt config.corpus location = .ok k ↔ locationAt config.corpus k = .ok location := by
  refine ⟨locationAt_of_symbolIndexAt, fun hk => ?_⟩
  have hlt := locationAt_lt hk
  obtain ⟨s, hs, rfl⟩ := locationAt_eq_ok_iff.mp hk
  have hget := (List.getElem?_eq_some_iff.mp hs).2
  have hidx : (config.corpus.symbols.findIdx fun symbol => symbol.location == s.location) = k := by
    rw [List.findIdx_eq hlt]
    refine ⟨by simp [hget], fun j hj => ?_⟩
    have hne := List.pairwise_iff_getElem.mp h.locations j k (by omega) hlt hj
    rw [hget] at hne
    simpa using hne
  rw [symbolIndexAt, hidx, if_pos hlt]

/-! ### Consumed positions -/

lemma mem_consumedSymbols {candidate : AlignmentCandidate} {k : ℕ} :
    k ∈ consumedSymbols candidate ↔ ∃ operation ∈ candidate.alignment.operations, ∃ i j,
      operation.actualIndex = some i ∧ operation.referenceIndex = some j ∧
        k = candidate.symbolIndex + j := by
  rw [consumedSymbols, List.mem_filterMap]
  refine exists_congr fun operation => and_congr_right fun _ => ?_
  cases operation with
  | matched i j => simp [AlignmentOperation.actualIndex, AlignmentOperation.referenceIndex, eq_comm]
  | substitution i j =>
      simp [AlignmentOperation.actualIndex, AlignmentOperation.referenceIndex, eq_comm]
  | insertion i => simp [AlignmentOperation.referenceIndex]
  | deletion j => simp [AlignmentOperation.actualIndex]

/-- The active offset is the last aligned one. -/
lemma le_activeReferenceOffset {candidate : AlignmentCandidate} {operation : AlignmentOperation}
    (hop : operation ∈ candidate.alignment.operations) {i j : ℕ}
    (hi : operation.actualIndex = some i) (hj : operation.referenceIndex = some j) :
    j ≤ activeReferenceOffset candidate := by
  refine Loop.foldl_induction (P := fun (pre : List AlignmentOperation) (active : ℕ) =>
    ∀ operation ∈ pre, ∀ i j, operation.actualIndex = some i →
      operation.referenceIndex = some j → j ≤ active) (by simp) ?_ operation hop i j hi hj
  intro pre operation active _ hpre other hother i j hi hj
  rcases List.mem_append.mp hother with hother | hother
  · have hle := hpre other hother i j hi hj
    split
    · exact le_trans hle (le_max_left _ _)
    · exact hle
  · rw [List.mem_singleton.mp hother] at hi hj
    rw [hi, hj]
    exact le_max_right _ _

/-- A consumed position is not after the active one, which lies in the corpus. -/
lemma SoundCandidate.consumed_le {config : TrackerConfig} {actual : List String}
    {committedSymbol : ℕ} {candidate : AlignmentCandidate}
    (h : SoundCandidate config.corpus actual committedSymbol candidate) {k : ℕ}
    (hk : k ∈ consumedSymbols candidate) :
    k ≤ activeSymbolOf config candidate ∧ k < config.corpus.symbols.length := by
  obtain ⟨operation, hop, i, j, hi, hj, rfl⟩ := mem_consumedSymbols.mp hk
  obtain ⟨m, hm, hle, halign⟩ := h.span
  have hscript := editPath_editScript actual
    (referencePhonemes config.corpus.symbols candidate.symbolIndex m)
  have hmem : j ∈ candidate.alignment.operations.filterMap AlignmentOperation.referenceIndex :=
    List.mem_filterMap.mpr ⟨operation, hop, hj⟩
  rw [halign, spanPath, hscript.referenceIndexes, List.mem_range, referencePhonemes_length] at hmem
  have hactive := le_activeReferenceOffset hop hi hj
  rw [activeSymbolOf]
  omega

/-! ### The commit loop -/

/-- The completed words: corpus words in order, the last of them or the origin committed. -/
structure Completed (config : TrackerConfig) (state : TrackerState) (done : List OrderedWord) :
    Prop where
  words : ∀ w ∈ done, w ∈ config.words
  ids : state.completedWordIds = done.map fun w => w.word.id
  set : state.completedWordIdSet.items = state.completedWordIds
  increasing : done.Pairwise fun v w => v.range.stop ≤ w.range.start
  committed : state.committedSymbol
    = max state.initialSymbol ((done.getLast?.map fun w => w.range.stop - 1).getD 0)

/-- No completed word ends after the committed position. -/
lemma Completed.stop_le {config : TrackerConfig} (hvalid : ValidConfig config)
    {state : TrackerState} {done : List OrderedWord} (h : Completed config state done)
    {w : OrderedWord} (hw : w ∈ done) : w.range.stop - 1 ≤ state.committedSymbol := by
  rw [h.committed]
  rcases List.eq_nil_or_concat done with rfl | ⟨init, last, rfl⟩
  · simp at hw
  · rw [List.concat_eq_append] at hw h ⊢
    rw [List.getLast?_concat, Option.map_some, Option.getD_some]
    rcases List.mem_append.mp hw with hmem | hmem
    · have horder := (List.pairwise_append.mp h.increasing).2.2 w hmem last (by simp)
      have hlast := (hvalid.partition.mem_bounds (h.words last (by simp))).2.1
      omega
    · rw [List.mem_singleton.mp hmem]
      omega

/-- Words of the corpus with one id are one word. -/
lemma ValidConfig.word_ext {config : TrackerConfig} (hvalid : ValidConfig config)
    {v w : OrderedWord} (hv : v ∈ config.words) (hw : w ∈ config.words)
    (hid : v.word.id = w.word.id) : v = w := by
  have hget := (hvalid.word_iff v.word.id v).mpr ⟨hv, rfl⟩
  rw [(hvalid.word_iff v.word.id w).mpr ⟨hw, hid.symm⟩] at hget
  exact (Option.some.inj hget).symm

/-- Two words of the corpus are one word, or one of them stops before the other starts. -/
lemma ValidConfig.word_order {config : TrackerConfig} (hvalid : ValidConfig config)
    {v w : OrderedWord} (hv : v ∈ config.words) (hw : w ∈ config.words) :
    v = w ∨ v.range.stop ≤ w.range.start ∨ w.range.stop ≤ v.range.start := by
  have hpair := hvalid.partition.pairwise
  rcases List.mem_iff_getElem.mp hv with ⟨i, hi, rfl⟩
  rcases List.mem_iff_getElem.mp hw with ⟨j, hj, rfl⟩
  rcases Nat.lt_trichotomy i j with hij | rfl | hij
  · exact Or.inr (Or.inl (List.pairwise_iff_getElem.mp hpair i j hi hj hij))
  · exact Or.inl rfl
  · exact Or.inr (Or.inr (List.pairwise_iff_getElem.mp hpair j i hj hi hij))

lemma completeWord_committedSymbol (state : TrackerState) (ordered : OrderedWord) :
    (state.completeWord ordered).committedSymbol
      = max state.committedSymbol (ordered.range.stop - 1) := by
  rw [TrackerState.completeWord]
  split <;> rfl

lemma completeWord_frame (state : TrackerState) (ordered : OrderedWord) :
    state.completeWord ordered = { state with
      completedWordIds := (state.completeWord ordered).completedWordIds
      completedWordIdSet := (state.completeWord ordered).completedWordIdSet
      committedSymbol := (state.completeWord ordered).committedSymbol } := by
  rw [TrackerState.completeWord]
  split <;> rfl

/-- The completion of a word not behind the committed position keeps the words in
order: an unknown one goes last, a known one is the last. -/
lemma Completed.completeWord {config : TrackerConfig} (hvalid : ValidConfig config)
    {state : TrackerState} {done : List OrderedWord} (h : Completed config state done)
    {ordered : OrderedWord} (hword : ordered ∈ config.words)
    (hahead : state.committedSymbol ≤ ordered.range.stop - 1) :
    ∃ done', Completed config (state.completeWord ordered) done' ∧ done <+: done' := by
  have hbounds := (hvalid.partition.mem_bounds hword).2.1
  by_cases hhas : state.completedWordIdSet.has ordered.word.id = true
  · -- the word is in the list, so it ends where the committed position is
    obtain ⟨v, hv, hid⟩ : ∃ v ∈ done, v.word.id = ordered.word.id := by
      rw [OrderedSet.has_iff, h.set, h.ids, List.mem_map] at hhas
      exact hhas
    obtain rfl := hvalid.word_ext (h.words v hv) hword hid
    have hle := h.stop_le hvalid hv
    refine ⟨done, ⟨h.words, ?_, ?_, h.increasing, ?_⟩, List.prefix_refl done⟩
    · rw [TrackerState.completeWord, if_pos hhas]
      exact h.ids
    · rw [TrackerState.completeWord, if_pos hhas]
      exact h.set
    · rw [completeWord_committedSymbol, max_eq_left hle, completeWord_frame state v]
      exact h.committed
  · have hnew : ordered.word.id ∉ done.map fun w => w.word.id := by
      rw [← h.ids, ← h.set]
      exact fun hmem => hhas (OrderedSet.has_iff.mpr hmem)
    refine ⟨done ++ [ordered], ⟨?_, ?_, ?_, ?_, ?_⟩, List.prefix_append done [ordered]⟩
    · intro w hw
      rcases List.mem_append.mp hw with hw | hw
      · exact h.words w hw
      · rw [List.mem_singleton.mp hw]
        exact hword
    · rw [TrackerState.completeWord, if_neg hhas]
      dsimp only
      rw [h.ids, List.map_append, List.map_singleton]
    · rw [TrackerState.completeWord, if_neg hhas]
      dsimp only
      rw [OrderedSet.items_add_of_notMem (fun hmem => hhas (OrderedSet.has_iff.mpr hmem)), h.set]
    · refine List.pairwise_append.mpr ⟨h.increasing, List.pairwise_singleton _ _, ?_⟩
      intro v hv w hw
      rw [List.mem_singleton.mp hw]
      have hle := h.stop_le hvalid hv
      have hvbounds := (hvalid.partition.mem_bounds (h.words v hv)).2.1
      rcases hvalid.word_order (h.words v hv) hword with rfl | hlt | hlt
      · exact absurd (List.mem_map.mpr ⟨v, hv, rfl⟩) hnew
      · exact hlt
      · omega
    · rw [completeWord_committedSymbol, completeWord_frame state ordered, List.getLast?_concat,
        Option.map_some, Option.getD_some]
      have hcommitted := h.committed
      dsimp only
      omega

/-- The commit loop changes the committed progress only. -/
lemma commitSupportedWords_frame (config : TrackerConfig) (state : TrackerState)
    (candidate : AlignmentCandidate) (observation : RecitationObservation) :
    commitSupportedWords config state candidate observation = { state with
      completedWordIds :=
        (commitSupportedWords config state candidate observation).completedWordIds
      completedWordIdSet :=
        (commitSupportedWords config state candidate observation).completedWordIdSet
      committedSymbol :=
        (commitSupportedWords config state candidate observation).committedSymbol } := by
  refine Loop.foldl_induction (P := fun _ (after : TrackerState) => after = { state with
      completedWordIds := after.completedWordIds
      completedWordIdSet := after.completedWordIdSet
      committedSymbol := after.committedSymbol }) rfl ?_
  intro _ wordId before _ hbefore
  rw [commitWord]
  cases config.orderedWordsById.get wordId with
  | none => exact hbefore
  | some ordered =>
      dsimp only
      split
      · rw [completeWord_frame before ordered, hbefore]
      · exact hbefore

/-- What the commit loop has done so far. -/
structure CommitProgress (config : TrackerConfig) (candidate : AlignmentCandidate)
    (before : TrackerState) (done : List OrderedWord) (after : TrackerState) : Prop where
  completed : ∃ done', Completed config after done' ∧ done <+: done'
  committed_le : before.committedSymbol ≤ after.committedSymbol
  consumed : after.committedSymbol = before.committedSymbol ∨
    after.committedSymbol ∈ consumedSymbols candidate

lemma wordSupported_iff {candidate : AlignmentCandidate} {isFinal : Bool} {committedSymbol : ℕ}
    {range : CorpusRange} :
    wordSupported candidate isFinal committedSymbol range = true ↔
      (¬((range.stop : ℤ) - 1 < committedSymbol) ∧ candidate.symbolIndex ≤ range.start) ∧
      (∀ k, range.start ≤ k → k < range.stop → k ∈ consumedSymbols candidate) ∧
      (isFinal = true ∨ ∀ offset < PARTIAL_COMMIT_LOOKAHEAD,
        range.stop + offset ∈ matchedSymbols candidate) := by
  simp only [wordSupported, Bool.and_eq_true, Bool.or_eq_true, decide_eq_true_eq, List.all_eq_true,
    List.mem_range'_1, List.mem_range, not_or, not_lt, and_assoc, and_imp]
  refine and_congr_right fun _ => and_congr_right fun _ => and_congr_left fun _ => ?_
  refine forall_congr' fun k => forall_congr' fun hk => ?_
  rw [show k < range.start + (range.stop - range.start) ↔ k < range.stop by omega]

/-- **The commit loop** only moves the committed position forward, along completed words
in order, and onto a consumed position. -/
lemma commitSupportedWords_spec {config : TrackerConfig} (hvalid : ValidConfig config)
    {state : TrackerState} {done : List OrderedWord} (h : Completed config state done)
    (candidate : AlignmentCandidate) (observation : RecitationObservation) :
    CommitProgress config candidate state done
      (commitSupportedWords config state candidate observation) := by
  refine Loop.foldl_induction (P := fun _ => CommitProgress config candidate state done)
    ⟨⟨done, h, List.prefix_refl done⟩, le_rfl, Or.inl rfl⟩ ?_
  rintro - wordId before - hbefore
  rw [commitWord]
  cases hget : config.orderedWordsById.get wordId with
  | none => exact hbefore
  | some ordered =>
      dsimp only
      split
      · rename_i hsupported
        obtain ⟨⟨hahead, -⟩, hconsumed, -⟩ := wordSupported_iff.mp hsupported
        obtain ⟨hword, -⟩ := (hvalid.word_iff wordId ordered).mp hget
        have hbounds := (hvalid.partition.mem_bounds hword).2.1
        obtain ⟨done', hdone', hpre⟩ := hbefore.completed
        obtain ⟨done'', hdone'', hpre'⟩ :=
          hdone'.completeWord hvalid hword (by omega)
        have hcommitted : (before.completeWord ordered).committedSymbol
            = ordered.range.stop - 1 := by
          rw [completeWord_committedSymbol]
          exact max_eq_right (by omega)
        refine ⟨⟨done'', hdone'', hpre.trans hpre'⟩, ?_, Or.inr ?_⟩
        · have := hbefore.committed_le
          omega
        · rw [hcommitted]
          exact hconsumed _ (by omega) (by omega)
      · exact hbefore

/-- Two states with the same committed progress. -/
structure SameCommit (s t : TrackerState) : Prop where
  initialSymbol : s.initialSymbol = t.initialSymbol
  committedSymbol : s.committedSymbol = t.committedSymbol
  completedWordIds : s.completedWordIds = t.completedWordIds
  completedWordIdSet : s.completedWordIdSet = t.completedWordIdSet

lemma SameCommit.refl (s : TrackerState) : SameCommit s s := ⟨rfl, rfl, rfl, rfl⟩

lemma SameCommit.trans {s t u : TrackerState} (h : SameCommit s t) (h' : SameCommit t u) :
    SameCommit s u :=
  ⟨h.1.trans h'.1, h.2.trans h'.2, h.3.trans h'.3, h.4.trans h'.4⟩

lemma SameCommit.completed {config : TrackerConfig} {s t : TrackerState} (h : SameCommit s t)
    {done : List OrderedWord} (hs : Completed config s done) : Completed config t done :=
  ⟨hs.words, h.completedWordIds ▸ hs.ids, h.completedWordIds ▸ h.completedWordIdSet ▸ hs.set,
    hs.increasing, h.committedSymbol ▸ h.initialSymbol ▸ hs.committed⟩

/-- The commit loop reads and writes the committed progress only. -/
lemma SameCommit.commitSupportedWords {s t : TrackerState} (h : SameCommit s t)
    (config : TrackerConfig) (candidate : AlignmentCandidate)
    (observation : RecitationObservation) :
    SameCommit (commitSupportedWords config s candidate observation)
      (commitSupportedWords config t candidate observation) := by
  rw [Qaraa.commitSupportedWords, Qaraa.commitSupportedWords]
  induction collectTouchedWordIds candidate config.symbolWordIds generalizing s t with
  | nil => exact h
  | cons wordId rest ih =>
      rw [List.foldl_cons, List.foldl_cons]
      refine ih ?_
      rw [commitWord, commitWord]
      cases config.orderedWordsById.get wordId with
      | none => exact h
      | some ordered =>
          dsimp only
          rw [h.committedSymbol]
          split
          · refine ⟨?_, ?_, ?_, ?_⟩
            · rw [completeWord_frame s, completeWord_frame t]
              exact h.initialSymbol
            · rw [completeWord_committedSymbol, completeWord_committedSymbol, h.committedSymbol]
            · rw [TrackerState.completeWord, TrackerState.completeWord, h.completedWordIdSet,
                h.completedWordIds]
              split
              · exact h.completedWordIds
              · rfl
            · rw [TrackerState.completeWord, TrackerState.completeWord, h.completedWordIdSet]
              split
              · exact h.completedWordIdSet
              · rfl
          · exact h

/-! ### One submission -/

section

variable (config : TrackerConfig) (before : TrackerState) (observation : RecitationObservation)

/-- What an observation's phonemes are located at. -/
def locatedBy : Located :=
  locate config.corpus (observationPhonemes observation) before.cursorSymbol
    before.committedSymbol

/-- Display and commit stay. -/
structure Held (progress : Progress) : Prop where
  cursorSymbol : progress.state.cursorSymbol = before.cursorSymbol
  display : progress.display = before.snapshot.display
  commit : SameCommit before progress.state

/-- Display and commit follow a candidate. -/
structure Advanced (candidate : AlignmentCandidate) (progress : Progress) : Prop where
  cursorSymbol : progress.state.cursorSymbol = activeSymbolOf config candidate
  location : locationAt config.corpus progress.state.cursorSymbol = .ok progress.display.location
  isReread : progress.display.isReread
    = decide (progress.state.cursorSymbol < before.committedSymbol)
  activeWordId : progress.display.activeWordId
    = (config.symbolWordIds[progress.state.cursorSymbol]?).join
  commit : SameCommit (commitSupportedWords config before candidate observation) progress.state

/-- A finding is one that `classifyFindingWithEvidence` confirms for the candidate. -/
def FindingStep (candidate : AlignmentCandidate) (confidence : ConfidenceEvidence)
    (finding : Option ConfirmedFinding) : Prop :=
  ∀ found, finding = some found → config.findingMode = .substitutions ∧
    candidate.isReread = false ∧ ∃ evidence confirmations,
      deriveSubstitutionEvidence candidate confidence = some evidence ∧
      classifyFindingWithEvidence
        { corpus := config.corpus
          candidate := candidate
          observation := observation
          actualPhonemes := observationPhonemes observation
          confidence := confidence
          confirmations := confirmations
          contextPhonemeCount :=
            countFindingContextPhonemes candidate.alignment.operations evidence.operation }
        (some evidence) = some found

/-- The three ways an accepted observation goes. -/
inductive LocatedStep (located : Located) (progress : Progress) : Prop where
  | unlocated (best : located.best = none) (held : Held before progress)
      (confidence : progress.confidence = none) (finding : progress.finding = none)
  | held (candidate : AlignmentCandidate) (best : located.best = some candidate)
      (gate : passesPositionGate
        (candidateConfidence before observation candidate located.second) = false)
      (held : Held before progress)
      (confidence : progress.confidence
        = some (candidateConfidence before observation candidate located.second))
      (finding : FindingStep config observation candidate
        (candidateConfidence before observation candidate located.second) progress.finding)
  | advanced (candidate : AlignmentCandidate) (best : located.best = some candidate)
      (gate : passesPositionGate
        (candidateConfidence before observation candidate located.second) = true)
      (advanced : Advanced config before observation candidate progress)
      (confidence : progress.confidence
        = some (candidateConfidence before observation candidate located.second))
      (finding : FindingStep config observation candidate
        (candidateConfidence before observation candidate located.second) progress.finding)

/-- A state read as the progress its snapshot shows. -/
def TrackerState.progress (after : TrackerState) : Progress :=
  ⟨after, after.snapshot.display, after.snapshot.confidence, after.snapshot.finding⟩

/-- All that an accepted observation does. -/
structure Accepted (after : TrackerState) : Prop where
  observationIds : after.observationIds
    = (before.rememberObservationId observation.observationId).observationIds
  observationIdOrder : after.observationIdOrder
    = (before.rememberObservationId observation.observationId).observationIdOrder
  latest : after.latestSourceRevision = observation.sourceRevision
  revision : after.snapshot.revision = before.snapshot.revision + 1
  observationId : after.snapshot.observationId = some observation.observationId
  commit : locationAt config.corpus after.committedSymbol = .ok after.snapshot.commit.location
  completed : after.snapshot.commit.completedWordIds = after.completedWordIds
  step : LocatedStep config before observation (locatedBy config before observation)
    after.progress

/-- The observation is remembered or out of date. -/
def Duplicate : Prop :=
  before.observationIds.has observation.observationId = true ∨
    (observation.sourceRevision : ℤ) < before.latestSourceRevision

instance : Decidable (Duplicate before observation) := by
  unfold Duplicate
  infer_instance

end

/-- Nothing but the remembered ids changes. -/
lemma rememberObservationId_frame (state : TrackerState) (id : String) :
    state.rememberObservationId id = { state with
      observationIds := (state.rememberObservationId id).observationIds
      observationIdOrder := (state.rememberObservationId id).observationIdOrder } := by
  rw [TrackerState.rememberObservationId]
  split
  · split <;> rfl
  · rfl

/-- Nothing but the provisional finding changes. -/
lemma classifyCandidate_frame (config : TrackerConfig) (state : TrackerState)
    (observation : RecitationObservation) (candidate : AlignmentCandidate)
    (confidence : ConfidenceEvidence) :
    (classifyCandidate config state observation candidate confidence).1 = { state with
      provisionalFinding := (classifyCandidate config state observation candidate
        confidence).1.provisionalFinding } := by
  rw [classifyCandidate]
  split
  · cases deriveSubstitutionEvidence candidate confidence with
    | none => rfl
    | some evidence =>
        simp only [TrackerState.updateProvisionalFinding]
        split <;> rfl
  · rfl

lemma classifyCandidate_finding (config : TrackerConfig) (state : TrackerState)
    (observation : RecitationObservation) (candidate : AlignmentCandidate)
    (confidence : ConfidenceEvidence) :
    FindingStep config observation candidate confidence
      (classifyCandidate config state observation candidate confidence).2 := by
  intro found hfound
  rw [classifyCandidate] at hfound
  split at hfound
  · rename_i hmode
    refine ⟨hmode.1, hmode.2, ?_⟩
    cases hevidence : deriveSubstitutionEvidence candidate confidence with
    | none =>
        rw [hevidence] at hfound
        simp [classifyFindingWithEvidence] at hfound
    | some evidence =>
        rw [hevidence] at hfound
        simp only [TrackerState.updateProvisionalFinding] at hfound
        split at hfound
        · exact ⟨evidence, _, rfl, hfound⟩
        · exact ⟨evidence, _, rfl, hfound⟩
  · cases hfound

/-- A duplicate changes nothing. -/
lemma submit_duplicate {config : TrackerConfig} {state : TrackerState} {value : JsValue}
    {observation : RecitationObservation} (hcheck : validateObservation value = .ok observation)
    (hdup : Duplicate state observation) :
    submit config state value = .ok (state.snapshot, state) := by
  have hseen : state.observationIds.has observation.observationId = true ∨
      (observation.sourceRevision : ℤ) < state.latestSourceRevision := hdup
  rw [submit, hcheck, ok_bind, if_pos hseen]
  rfl

/-- The steps for the located candidate return, and go one of the three ways. -/
lemma trackLocated_ok {config : TrackerConfig} (hvalid : ValidConfig config)
    (state : TrackerState) (observation : RecitationObservation) (located : Located) :
    ∃ progress, trackLocated config state observation located = .ok progress ∧
      LocatedStep config state observation located progress ∧
      progress.state.observationIds = state.observationIds ∧
      progress.state.observationIdOrder = state.observationIdOrder ∧
      progress.state.latestSourceRevision = state.latestSourceRevision ∧
      progress.state.snapshot = state.snapshot := by
  rw [trackLocated]
  cases hbest : located.best with
  | none =>
      exact ⟨_, rfl, .unlocated hbest ⟨rfl, rfl, rfl, rfl, rfl, rfl⟩ rfl rfl, rfl, rfl, rfl, rfl⟩
  | some candidate =>
      dsimp only
      have hfinding := classifyCandidate_finding config
      cases hgate : passesPositionGate
          (candidateConfidence state observation candidate located.second) with
      | false =>
          have hframe := classifyCandidate_frame config
            (state.rememberHypothesis (hypothesisFingerprint candidate)) observation candidate
            (candidateConfidence state observation candidate located.second)
          refine ⟨_, rfl, .held candidate hbest hgate ⟨?_, rfl, ⟨?_, ?_, ?_, ?_⟩⟩ rfl
            (hfinding _ _ _ _), ?_, ?_, ?_, ?_⟩
          all_goals rw [hframe]; rfl
      | true =>
          have hactive : activeSymbolOf config candidate < config.corpus.symbols.length := by
            have := hvalid.nonempty
            rw [activeSymbolOf]
            omega
          obtain ⟨location, hlocation⟩ := exists_locationAt hactive
          simp only [if_true, advancePosition, hlocation, ok_bind]
          have hstart : SameCommit state { state.rememberHypothesis
              (hypothesisFingerprint candidate) with
                cursorSymbol := activeSymbolOf config candidate } := ⟨rfl, rfl, rfl, rfl⟩
          have hcommit := hstart.commitSupportedWords config candidate observation
          have hloop := commitSupportedWords_frame config { state.rememberHypothesis
              (hypothesisFingerprint candidate) with
                cursorSymbol := activeSymbolOf config candidate } candidate observation
          generalize commitSupportedWords config { state.rememberHypothesis
              (hypothesisFingerprint candidate) with
                cursorSymbol := activeSymbolOf config candidate } candidate observation
            = committed at hcommit hloop
          have hframe := classifyCandidate_frame config committed observation candidate
            (candidateConfidence state observation candidate located.second)
          have hcursor : (classifyCandidate config committed observation candidate
              (candidateConfidence state observation candidate located.second)).1.cursorSymbol
                = activeSymbolOf config candidate := by
            rw [hframe, hloop]
          refine ⟨_, rfl, .advanced candidate hbest hgate ⟨hcursor, ?_, ?_, ?_, ⟨?_, ?_, ?_, ?_⟩⟩
            rfl (hfinding _ _ _ _), ?_, ?_, ?_, ?_⟩
          · exact (congrArg (locationAt config.corpus) hcursor).trans hlocation
          · exact congrArg (fun k => decide (k < state.committedSymbol)) hcursor.symm
          · exact congrArg (fun k : ℕ => (config.symbolWordIds[k]?).join) hcursor.symm
          · exact hcommit.initialSymbol.trans (by rw [hframe])
          · exact hcommit.committedSymbol.trans (by rw [hframe])
          · exact hcommit.completedWordIds.trans (by rw [hframe])
          · exact hcommit.completedWordIdSet.trans (by rw [hframe])
          all_goals rw [hframe, hloop]; rfl

/-- The committed position stays in the corpus. -/
lemma LocatedStep.committed_lt {config : TrackerConfig} (hvalid : ValidConfig config)
    {state : TrackerState} {done : List OrderedWord} (hdone : Completed config state done)
    (hlt : state.committedSymbol < config.corpus.symbols.length)
    {observation : RecitationObservation} {progress : Progress}
    (h : LocatedStep config state observation (locatedBy config state observation) progress) :
    progress.state.committedSymbol < config.corpus.symbols.length := by
  cases h with
  | unlocated _ held => rw [← held.commit.committedSymbol]; exact hlt
  | held _ _ _ held => rw [← held.commit.committedSymbol]; exact hlt
  | advanced candidate best _ advanced =>
      rw [← advanced.commit.committedSymbol]
      rcases (commitSupportedWords_spec hvalid hdone candidate observation).consumed with heq | hmem
      · rw [heq]
        exact hlt
      · exact ((locate_sound best).consumed_le hmem).2

/-- **A checked observation that is no duplicate is accepted.** -/
theorem submit_accepted {config : TrackerConfig} (hvalid : ValidConfig config)
    {state : TrackerState} {done : List OrderedWord} (hdone : Completed config state done)
    (hlt : state.committedSymbol < config.corpus.symbols.length) {value : JsValue}
    {observation : RecitationObservation} (hcheck : validateObservation value = .ok observation)
    (hnew : ¬Duplicate state observation) :
    ∃ after, submit config state value = .ok (after.snapshot, after) ∧
      Accepted config state observation after := by
  have hnew' : ¬(state.observationIds.has observation.observationId = true ∨
      (observation.sourceRevision : ℤ) < state.latestSourceRevision) := hnew
  have hstart := rememberObservationId_frame state observation.observationId
  rw [submit, hcheck, ok_bind, if_neg hnew']
  dsimp only
  rw [locateObservation_eq _ hcheck, ok_bind]
  obtain ⟨progress, hprogress, hstep, hids, horder, hlatest, hsnapshot⟩ := trackLocated_ok hvalid
    { state.rememberObservationId observation.observationId with
      latestSourceRevision := observation.sourceRevision } observation
    (locatedBy config state observation)
  have hstep' : LocatedStep config state observation (locatedBy config state observation)
      progress := by
    rw [hstart] at hstep
    cases hstep with
    | unlocated best held hconf hfind =>
        exact .unlocated best ⟨held.cursorSymbol, held.display, ⟨held.commit.1, held.commit.2,
          held.commit.3, held.commit.4⟩⟩ hconf hfind
    | held candidate best gate held hconf hfind =>
        exact .held candidate best gate ⟨held.cursorSymbol, held.display, ⟨held.commit.1,
          held.commit.2, held.commit.3, held.commit.4⟩⟩ hconf hfind
    | advanced candidate best gate advanced hconf hfind =>
        have hsame : SameCommit state { state with
            observationIds :=
              (state.rememberObservationId observation.observationId).observationIds
            observationIdOrder :=
              (state.rememberObservationId observation.observationId).observationIdOrder
            latestSourceRevision := observation.sourceRevision } := ⟨rfl, rfl, rfl, rfl⟩
        exact .advanced candidate best gate ⟨advanced.cursorSymbol, advanced.location,
          advanced.isReread, advanced.activeWordId,
          (hsame.commitSupportedWords config candidate observation).trans advanced.commit⟩
          hconf hfind
  obtain ⟨location, hlocation⟩ := exists_locationAt (hstep'.committed_lt hvalid hdone hlt)
  rw [rememberObservationId_frame] at hprogress ⊢
  dsimp only at hprogress ⊢
  rw [locatedBy] at hprogress
  rw [hprogress, ok_bind, hlocation, ok_bind]
  refine ⟨{ progress.state with
    snapshot :=
      { revision := state.snapshot.revision + 1
        observationId := some observation.observationId
        display := progress.display
        commit := ⟨location, progress.state.completedWordIds⟩
        confidence := progress.confidence
        finding := progress.finding } }, rfl, hids, horder, hlatest, rfl, rfl, hlocation, rfl, ?_⟩
  cases hstep' with
  | unlocated best held hconf hfind =>
      exact .unlocated best ⟨held.1, held.2, ⟨held.3.1, held.3.2, held.3.3, held.3.4⟩⟩ hconf hfind
  | held candidate best gate held hconf hfind =>
      exact .held candidate best gate ⟨held.1, held.2, ⟨held.3.1, held.3.2, held.3.3, held.3.4⟩⟩
        hconf hfind
  | advanced candidate best gate advanced hconf hfind =>
      exact .advanced candidate best gate ⟨advanced.1, advanced.2, advanced.3, advanced.4,
        ⟨advanced.5.1, advanced.5.2, advanced.5.3, advanced.5.4⟩⟩ hconf hfind

end Qaraa
