import Qaraa.Core.Locate
import Qaraa.Core.Retrieval

/-!
What `locateObservation` returns: the calls share one buffer and one workspace and can
throw in principle; within a valid index they do neither harm.

* `candidateAt`, `locate`: the candidate of a position and the search, without storage or
  failure; `locateObservation_eq` says the code computes them.
* `evaluateObservation`, `evaluatedCandidates`: the same for what a search has evaluated
  before it ranks.
* `bestSpan_alignment`: the span chosen at a position has the highest score.
* `SoundCandidate`: a candidate of a position in the corpus, its alignment an edit path to
  the symbols that begin there; **what the search finds is sound** (`locate_sound_of_mem`).
-/

namespace Qaraa

open Fallible Ordered

/-! ### Evaluations -/

/-- The phonemes of the `length` symbols from `start` on. -/
def referencePhonemes (symbols : List QuranSymbol) (start length : ℕ) : List String :=
  ((symbols.drop start).take length).map QuranSymbol.phoneme

section Evaluation

variable (index : IndexedCorpus) (actual : List String)

/-- The spans of a position, all tried. -/
def bestSpan (symbolIndex : ℕ) : SpanPass :=
  (spanLengths index.symbols.length actual.length symbolIndex).foldl (fun pass referenceLength =>
    pass.visit (editPath actual (referencePhonemes index.symbols symbolIndex referenceLength)))
    ⟨none, 0⟩

/-- The candidate of a position. -/
def candidateAt (cursorSymbol committedSymbol symbolIndex : ℕ) (location : QuranLocation) :
    AlignmentCandidate :=
  finishCandidate symbolIndex cursorSymbol committedSymbol actual.length
    (spanLengths index.symbols.length actual.length symbolIndex).length location
    ((bestSpan index actual symbolIndex).alignment.getD (editPath actual []))
    (bestSpan index actual symbolIndex).secondSpanScore

/-- `evaluatePositions` without workspace or failure. -/
def evaluateAll (cursorSymbol committedSymbol : ℕ) (positions : List ℕ)
    (evaluated : OrderedMap ℕ AlignmentCandidate) : OrderedMap ℕ AlignmentCandidate :=
  positions.foldl (fun evaluated position =>
    if evaluated.has position then evaluated
    else
      match index.symbols[position]? with
      | none => evaluated
      | some symbol => evaluated.set position
          (candidateAt index actual cursorSymbol committedSymbol position symbol.location))
    evaluated

/-- The candidates of a search, best first. -/
def rankedCandidates (cursorSymbol committedSymbol : ℕ) : List AlignmentCandidate :=
  let evaluated := evaluateAll index actual cursorSymbol committedSymbol
    (retrieveCandidatePositions index actual cursorSymbol false) .empty
  let localBestScore := evaluated.values.foldl (fun best candidate => max best candidate.score) 0
  let evaluated := if localBestScore < GLOBAL_FALLBACK_THRESHOLD then
      evaluateAll index actual cursorSymbol committedSymbol
        (retrieveCandidatePositions index actual cursorSymbol true) evaluated
    else evaluated
  evaluated.values.insertionSort fun left right => compareCandidates left right ≤ 0

/-- What `locateObservation` finds for the phonemes of an accepted observation. -/
def locate (cursorSymbol committedSymbol : ℕ) : Located :=
  if actual.length = 0 ∨ index.symbols.length = 0 then ⟨none, none⟩
  else
    let ranked := rankedCandidates index actual (min cursorSymbol (index.symbols.length - 1))
      committedSymbol
    ⟨ranked[0]?, ranked[1]?⟩

end Evaluation

lemma mem_spanLengths {symbolCount actualLength symbolIndex m : ℕ} :
    m ∈ spanLengths symbolCount actualLength symbolIndex ↔
      min (symbolCount - symbolIndex) (max 1 (actualLength - MAX_REFERENCE_LENGTH_VARIATION)) ≤ m ∧
        m ≤ min (symbolCount - symbolIndex) (actualLength + MAX_REFERENCE_LENGTH_VARIATION) := by
  rw [spanLengths, List.mem_range'_1, MAX_REFERENCE_LENGTH_VARIATION]
  omega

lemma referencePhonemes_length (symbols : List QuranSymbol) (start m : ℕ) :
    (referencePhonemes symbols start m).length = min m (symbols.length - start) := by
  simp [referencePhonemes]

/-- The buffer holds the span's phonemes, whatever an earlier span left in it. -/
lemma fillReference_eq {symbols : List QuranSymbol} {start m : ℕ}
    (h : start + m ≤ symbols.length) (reference : List String) :
    fillReference symbols start m reference = .ok (referencePhonemes symbols start m) := by
  have hfill : ∃ filled, fillReference symbols start m reference = .ok filled ∧
      filled.length = m ∧ ∀ i < (List.range m).length,
        filled[i]? = symbols[start + i]?.map QuranSymbol.phoneme := by
    refine foldlM_total (P := fun (pre : List ℕ) (filled : List String) => filled.length = m ∧
      ∀ i < pre.length, filled[i]? = symbols[start + i]?.map QuranSymbol.phoneme) ?_ ?_
    · refine ⟨?_, fun i hi => absurd hi (by simp)⟩
      rw [resizeReference, List.length_append, List.length_take, List.length_replicate]
      omega
    · rintro pre offset post filled hsplit ⟨hlength, hfilled⟩
      have hoffset : offset = pre.length := by
        have hget := congrArg (fun l => l[pre.length]?) hsplit
        rw [List.getElem?_append_right le_rfl, Nat.sub_self, List.getElem?_cons_zero] at hget
        simpa using (List.getElem?_eq_some_iff.mp hget).2.symm
      have hlt : offset < m := by
        have hmem : offset ∈ List.range m := by rw [hsplit]; simp
        simpa using hmem
      have hsymbol := List.getElem?_eq_getElem (l := symbols) (i := start + offset) (by omega)
      refine ⟨_, by rw [hsymbol], by rw [List.length_set]; exact hlength, fun i hi => ?_⟩
      rw [List.length_append, List.length_singleton] at hi
      by_cases heq : offset = i
      · rw [← heq, List.getElem?_set_self (by omega), hsymbol]
        rfl
      · rw [List.getElem?_set_ne heq]
        exact hfilled i (by omega)
  obtain ⟨filled, hrun, hlength, hfilled⟩ := hfill
  rw [List.length_range] at hfilled
  rw [hrun]
  refine congrArg _ (List.ext_getElem? fun i => ?_)
  by_cases hi : i < m
  · rw [hfilled i hi, referencePhonemes, List.getElem?_map, List.getElem?_take, if_pos hi,
      List.getElem?_drop]
  · rw [List.getElem?_eq_none (by omega), List.getElem?_eq_none]
    rw [referencePhonemes_length]
    omega

/-- Storage in which every span of the search fits; the buffer may hold anything. -/
def FitsSearch (index : IndexedCorpus) (actual : List String) (storage : SearchStorage) : Prop :=
  storage.workspace.Fits actual.length
    (min index.symbols.length (actual.length + MAX_REFERENCE_LENGTH_VARIATION))

/-- Every span fits the storage, so no evaluation fails. -/
lemma evaluateCandidate_eq (index : IndexedCorpus) (actual : List String)
    (cursorSymbol committedSymbol : ℕ) {symbolIndex : ℕ}
    (hlt : symbolIndex < index.symbols.length) (location : QuranLocation)
    {storage : SearchStorage} (h : FitsSearch index actual storage) :
    ∃ after, evaluateCandidate index actual symbolIndex cursorSymbol committedSymbol location
        storage
      = .ok (candidateAt index actual cursorSymbol committedSymbol symbolIndex location, after) ∧
        FitsSearch index actual after := by
  have hspans : ∃ state, (spanLengths index.symbols.length actual.length symbolIndex).foldlM
      (visitSpan index actual symbolIndex) (⟨none, 0⟩, storage) = .ok state ∧
      state.1 = bestSpan index actual symbolIndex ∧ FitsSearch index actual state.2 := by
    refine foldlM_simulates (R := fun (t : SpanPass) (s : SpanPass × SearchStorage) =>
      s.1 = t ∧ FitsSearch index actual s.2) ⟨rfl, h⟩ ?_
    rintro m hm t ⟨pass, before⟩ ⟨rfl, hbefore⟩
    have hbounds := (mem_spanLengths.mp hm).2
    have hlen : (referencePhonemes index.symbols symbolIndex m).length
        ≤ min index.symbols.length (actual.length + MAX_REFERENCE_LENGTH_VARIATION) := by
      rw [referencePhonemes_length]
      omega
    obtain ⟨after, hafter, hfits⟩ := alignPhonemesWithWorkspace_eq hbefore le_rfl hlen
    exact ⟨(_, ⟨_, after⟩), by
      simp only [visitSpan, fillReference_eq (show symbolIndex + m ≤ index.symbols.length by omega),
        ok_bind, hafter]
      rfl, rfl, hfits⟩
  obtain ⟨⟨pass, mid⟩, hrun, rfl, hmid⟩ := hspans
  have hempty : resizeReference mid.reference 0 = [] := by simp [resizeReference]
  rw [evaluateCandidate]
  simp only [hrun, ok_bind, hempty]
  rw [candidateAt]
  cases (bestSpan index actual symbolIndex).alignment with
  | some alignment => exact ⟨_, rfl, hmid⟩
  | none =>
      obtain ⟨after, hafter, hfits⟩ : ∃ after, alignPhonemesWithWorkspace actual [] mid.workspace
          = .ok (editPath actual [], after) ∧ FitsSearch index actual ⟨[], after⟩ :=
        alignPhonemesWithWorkspace_eq hmid le_rfl (Nat.zero_le _)
      refine ⟨⟨[], after⟩, ?_, hfits⟩
      simp only [hafter, ok_bind]
      rfl

lemma evaluatePositions_eq (index : IndexedCorpus) (actual : List String)
    (cursorSymbol committedSymbol : ℕ) {positions : List ℕ}
    (evaluated : OrderedMap ℕ AlignmentCandidate) {storage : SearchStorage}
    (h : FitsSearch index actual storage) (hpos : ∀ p ∈ positions, p < index.symbols.length) :
    ∃ after, evaluatePositions index actual cursorSymbol committedSymbol positions
        (evaluated, storage)
      = .ok (evaluateAll index actual cursorSymbol committedSymbol positions evaluated, after) ∧
        FitsSearch index actual after := by
  have hall : ∃ state, evaluatePositions index actual cursorSymbol committedSymbol positions
      (evaluated, storage) = .ok state ∧
      state.1 = evaluateAll index actual cursorSymbol committedSymbol positions evaluated ∧
        FitsSearch index actual state.2 := by
    refine foldlM_simulates (R := fun (t : OrderedMap ℕ AlignmentCandidate)
      (s : OrderedMap ℕ AlignmentCandidate × SearchStorage) =>
        s.1 = t ∧ FitsSearch index actual s.2) ⟨rfl, h⟩ ?_
    rintro p hp t ⟨t', before⟩ ⟨rfl, hbefore⟩
    by_cases hhas : t'.has p = true
    · exact ⟨_, by simp only [hhas, if_true], by simp only [hhas, if_true], hbefore⟩
    · obtain ⟨symbol, hsymbol⟩ : ∃ symbol, index.symbols[p]? = some symbol :=
        ⟨_, List.getElem?_eq_getElem (hpos p hp)⟩
      obtain ⟨after, hafter, hfits⟩ := evaluateCandidate_eq index actual cursorSymbol
        committedSymbol (hpos p hp) symbol.location hbefore
      refine ⟨(t'.set p (candidateAt index actual cursorSymbol committedSymbol p
        symbol.location), after), ?_, ?_, hfits⟩
      · simp only [hhas, hsymbol, hafter, ok_bind]
        rfl
      · simp only [hhas, hsymbol]
        rfl
  obtain ⟨⟨result, after⟩, hrun, rfl, hfits⟩ := hall
  exact ⟨after, hrun, hfits⟩

/-- The candidates `locateObservation` has evaluated when it ranks them; none where it
returns early. -/
def evaluateObservation (index : IndexedCorpus) (observation : JsValue)
    (cursorSymbol committedSymbol : ℕ) : Except JsError (OrderedMap ℕ AlignmentCandidate) := do
  let observation ← validateObservation observation
  let actual := observationPhonemes observation
  let symbolCount := index.symbols.length
  if actual.length = 0 ∨ symbolCount = 0 then return .empty
  else
    let cursorSymbol := min cursorSymbol (symbolCount - 1)
    let maximumReferenceLength :=
      min symbolCount (actual.length + MAX_REFERENCE_LENGTH_VARIATION)
    let storage : SearchStorage :=
      { reference := List.replicate maximumReferenceLength ""
        workspace := createAlignmentWorkspace actual.length maximumReferenceLength }
    let (evaluated, storage) ← evaluatePositions index actual cursorSymbol committedSymbol
      (retrieveCandidatePositions index actual cursorSymbol false) (.empty, storage)
    let localBestScore := evaluated.values.foldl (fun best candidate => max best candidate.score) 0
    let (evaluated, _) ←
      if localBestScore < GLOBAL_FALLBACK_THRESHOLD then
        evaluatePositions index actual cursorSymbol committedSymbol
          (retrieveCandidatePositions index actual cursorSymbol true) (evaluated, storage)
      else Except.ok (evaluated, storage)
    return evaluated

/-- The two candidates that come first in the order of `compareCandidates`. -/
def firstTwo (candidates : List AlignmentCandidate) : Located :=
  let ranked := candidates.insertionSort fun left right => compareCandidates left right ≤ 0
  ⟨ranked[0]?, ranked[1]?⟩

/-- The search ranks what it has evaluated. -/
lemma locateObservation_eq_firstTwo (index : IndexedCorpus) (observation : JsValue)
    (cursorSymbol committedSymbol : ℕ) :
    locateObservation index observation cursorSymbol committedSymbol
      = (evaluateObservation index observation cursorSymbol committedSymbol).map
          fun evaluated => firstTwo evaluated.values := by
  rw [locateObservation, evaluateObservation]
  cases validateObservation observation with
  | error error => rfl
  | ok observation =>
      simp only [ok_bind]
      split
      · rfl
      · cases evaluatePositions index (observationPhonemes observation)
            (min cursorSymbol (index.symbols.length - 1)) committedSymbol _ _ with
        | error error => rfl
        | ok state =>
            simp only [ok_bind]
            split
            · cases evaluatePositions index (observationPhonemes observation)
                  (min cursorSymbol (index.symbols.length - 1)) committedSymbol _ _ with
              | error error => rfl
              | ok state => rfl
            · rfl

/-- `evaluateObservation` without storage or failure. -/
def evaluatedCandidates (index : IndexedCorpus) (actual : List String)
    (cursorSymbol committedSymbol : ℕ) : OrderedMap ℕ AlignmentCandidate :=
  let evaluated := evaluateAll index actual cursorSymbol committedSymbol
    (retrieveCandidatePositions index actual cursorSymbol false) .empty
  if evaluated.values.foldl (fun best candidate => max best candidate.score) 0
      < GLOBAL_FALLBACK_THRESHOLD then
    evaluateAll index actual cursorSymbol committedSymbol
      (retrieveCandidatePositions index actual cursorSymbol true) evaluated
  else evaluated

/-- No evaluation of an accepted observation fails. -/
lemma evaluateObservation_eq (index : IndexedCorpus) {value : JsValue}
    {observation : RecitationObservation} (h : validateObservation value = .ok observation)
    (cursorSymbol committedSymbol : ℕ) :
    evaluateObservation index value cursorSymbol committedSymbol
      = .ok (if (observationPhonemes observation).length = 0 ∨ index.symbols.length = 0 then .empty
        else evaluatedCandidates index (observationPhonemes observation)
          (min cursorSymbol (index.symbols.length - 1)) committedSymbol) := by
  rw [evaluateObservation, h, ok_bind]
  dsimp only
  split
  · rfl
  · have hfresh : FitsSearch index (observationPhonemes observation)
        ⟨List.replicate (min index.symbols.length ((observationPhonemes observation).length
            + MAX_REFERENCE_LENGTH_VARIATION)) "",
          createAlignmentWorkspace (observationPhonemes observation).length
            (min index.symbols.length ((observationPhonemes observation).length
              + MAX_REFERENCE_LENGTH_VARIATION))⟩ :=
      createAlignmentWorkspace_fits _ _
    obtain ⟨mid, hmid, hfits⟩ := evaluatePositions_eq index (observationPhonemes observation)
      (min cursorSymbol (index.symbols.length - 1)) committedSymbol .empty hfresh
      fun p hp => retrieveCandidatePositions_lt hp
    rw [hmid, ok_bind, evaluatedCandidates]
    dsimp only
    split
    · obtain ⟨after, hafter, -⟩ := evaluatePositions_eq index (observationPhonemes observation)
        (min cursorSymbol (index.symbols.length - 1)) committedSymbol _ hfits
        fun p hp => retrieveCandidatePositions_lt hp
      rw [hafter, ok_bind]
      rfl
    · rfl

/-- **The search returns**: on an accepted observation it finds what `locate` finds. -/
theorem locateObservation_eq (index : IndexedCorpus) {value : JsValue}
    {observation : RecitationObservation} (h : validateObservation value = .ok observation)
    (cursorSymbol committedSymbol : ℕ) :
    locateObservation index value cursorSymbol committedSymbol
      = .ok (locate index (observationPhonemes observation) cursorSymbol committedSymbol) := by
  rw [locateObservation_eq_firstTwo, evaluateObservation_eq index h, locate]
  split
  · rfl
  · rfl

/-! ### Candidates -/

section

variable {index : IndexedCorpus} {actual : List String} {cursorSymbol committedSymbol : ℕ}

/-- The alignment of the span of `m` symbols from `symbolIndex` on. -/
def spanPath (index : IndexedCorpus) (actual : List String) (symbolIndex m : ℕ) :
    AlignmentPath :=
  editPath actual (referencePhonemes index.symbols symbolIndex m)

lemma currentWins_iff {best current : AlignmentPath} (h : currentWins (some best) current = true) :
    best.score ≤ current.score := by
  simp only [currentWins, Bool.or_eq_true, Bool.and_eq_true, decide_eq_true_eq, beq_iff_eq] at h
  rcases h with (h | h) | h
  · exact h.le
  · exact h.1.ge
  · exact h.1.1.ge

lemma not_currentWins {best current : AlignmentPath}
    (h : ¬currentWins (some best) current = true) : current.score ≤ best.score := by
  simp only [currentWins, Bool.or_eq_true, decide_eq_true_eq, not_or, not_lt] at h
  exact h.1.1

/-- The best span is one of those tried, and none has a higher score. -/
lemma bestSpan_alignment (actual : List String) {symbolIndex : ℕ}
    (hlt : symbolIndex < index.symbols.length) :
    ∃ m ∈ spanLengths index.symbols.length actual.length symbolIndex,
      (bestSpan index actual symbolIndex).alignment = some (spanPath index actual symbolIndex m) ∧
      ∀ m' ∈ spanLengths index.symbols.length actual.length symbolIndex,
        (spanPath index actual symbolIndex m').score
          ≤ (spanPath index actual symbolIndex m).score := by
  have hloop := Loop.foldl_induction
    (P := fun (visited : List ℕ) (pass : SpanPass) =>
      (visited = [] ∧ pass.alignment = none) ∨
      ∃ m ∈ visited, pass.alignment = some (spanPath index actual symbolIndex m) ∧
        ∀ m' ∈ visited, (spanPath index actual symbolIndex m').score
          ≤ (spanPath index actual symbolIndex m).score)
    (f := fun pass referenceLength =>
      pass.visit (spanPath index actual symbolIndex referenceLength))
    (l := spanLengths index.symbols.length actual.length symbolIndex) (s := ⟨none, 0⟩)
    (Or.inl ⟨rfl, rfl⟩) ?_
  · rcases hloop with ⟨hnil, -⟩ | hfound
    · have hmem : min (index.symbols.length - symbolIndex)
          (max 1 (actual.length - MAX_REFERENCE_LENGTH_VARIATION))
          ∈ spanLengths index.symbols.length actual.length symbolIndex := by
        rw [mem_spanLengths, MAX_REFERENCE_LENGTH_VARIATION]
        omega
      rw [hnil] at hmem
      simp at hmem
    · exact hfound
  · rintro visited m pass - (⟨rfl, hnone⟩ | ⟨best, hbest, halign, hmax⟩)
    · refine Or.inr ⟨m, by simp, ?_, by simp⟩
      rw [SpanPass.visit, hnone, currentWins]
      rfl
    · rw [SpanPass.visit, halign]
      by_cases hwins : currentWins (some (spanPath index actual symbolIndex best))
          (spanPath index actual symbolIndex m) = true
      · refine Or.inr ⟨m, by simp, by rw [if_pos hwins], fun m' hm' => ?_⟩
        rcases List.mem_append.mp hm' with hm' | hm'
        · exact le_trans (hmax m' hm') (currentWins_iff hwins)
        · rw [List.mem_singleton.mp hm']
      · refine Or.inr ⟨best, by simp [hbest], by rw [if_neg hwins], fun m' hm' => ?_⟩
        rcases List.mem_append.mp hm' with hm' | hm'
        · exact hmax m' hm'
        · rw [List.mem_singleton.mp hm']
          exact not_currentWins hwins

/-- A candidate as the search makes it: of a position in the corpus, with an edit path to
some of the symbols that begin there. -/
structure SoundCandidate (index : IndexedCorpus) (actual : List String) (committedSymbol : ℕ)
    (candidate : AlignmentCandidate) : Prop where
  symbolIndex_lt : candidate.symbolIndex < index.symbols.length
  score : candidate.score = candidate.alignment.score
  span : ∃ m, 0 < m ∧ candidate.symbolIndex + m ≤ index.symbols.length ∧
    candidate.alignment = spanPath index actual candidate.symbolIndex m
  isReread : candidate.isReread = decide (candidate.symbolIndex < committedSymbol)

lemma candidateAt_alignment (actual : List String) (cursorSymbol committedSymbol : ℕ)
    {symbolIndex : ℕ} (hlt : symbolIndex < index.symbols.length) (location : QuranLocation) :
    ∃ m ∈ spanLengths index.symbols.length actual.length symbolIndex,
      (candidateAt index actual cursorSymbol committedSymbol symbolIndex location).alignment
        = spanPath index actual symbolIndex m ∧
      ∀ m' ∈ spanLengths index.symbols.length actual.length symbolIndex,
        (spanPath index actual symbolIndex m').score
          ≤ (spanPath index actual symbolIndex m).score := by
  obtain ⟨m, hm, halign, hmax⟩ := bestSpan_alignment actual hlt
  refine ⟨m, hm, ?_, hmax⟩
  rw [candidateAt, halign]
  rfl

lemma candidateAt_sound {symbolIndex : ℕ} (hlt : symbolIndex < index.symbols.length)
    (location : QuranLocation) :
    SoundCandidate index actual committedSymbol
      (candidateAt index actual cursorSymbol committedSymbol symbolIndex location) := by
  obtain ⟨m, hm, halign, -⟩ :=
    candidateAt_alignment actual cursorSymbol committedSymbol hlt location
  rw [mem_spanLengths, MAX_REFERENCE_LENGTH_VARIATION] at hm
  refine ⟨hlt, rfl, ⟨m, by omega, ?_, halign⟩, rfl⟩
  show symbolIndex + m ≤ index.symbols.length
  omega

/-- What an evaluation of positions stores. -/
lemma evaluateAll_get {positions : List ℕ} {evaluated : OrderedMap ℕ AlignmentCandidate} {p : ℕ}
    {candidate : AlignmentCandidate} :
    (evaluateAll index actual cursorSymbol committedSymbol positions evaluated).get p
        = some candidate ↔
      evaluated.get p = some candidate ∨ (evaluated.get p = none ∧ p ∈ positions ∧
        ∃ symbol, index.symbols[p]? = some symbol ∧
          candidate = candidateAt index actual cursorSymbol committedSymbol p symbol.location) := by
  induction positions generalizing evaluated with
  | nil => simp [evaluateAll]
  | cons q positions ih =>
      by_cases hhas : evaluated.has q = true
      · have hcons :
            evaluateAll index actual cursorSymbol committedSymbol (q :: positions) evaluated
              = evaluateAll index actual cursorSymbol committedSymbol positions evaluated := by
          rw [evaluateAll, List.foldl_cons, if_pos hhas]
          rfl
        rw [hcons, ih]
        refine or_congr_right (and_congr_right fun hnone => ?_)
        have hne : p ≠ q := by
          rintro rfl
          simp [OrderedMap.has, hnone] at hhas
        simp [hne]
      · have hnone : evaluated.get q = none := by
          simpa [OrderedMap.has] using hhas
        cases hsymbol : index.symbols[q]? with
        | none =>
            have hcons : evaluateAll index actual cursorSymbol committedSymbol (q :: positions)
                evaluated
                = evaluateAll index actual cursorSymbol committedSymbol positions evaluated := by
              rw [evaluateAll, List.foldl_cons, if_neg hhas, hsymbol]
              rfl
            rw [hcons, ih]
            refine or_congr_right (and_congr_right fun _ => ?_)
            constructor
            · rintro ⟨hp, hfound⟩
              exact ⟨by simp [hp], hfound⟩
            · rintro ⟨hp, symbol, hs, rfl⟩
              rcases List.mem_cons.mp hp with rfl | hp
              · rw [hsymbol] at hs
                cases hs
              · exact ⟨hp, symbol, hs, rfl⟩
        | some found =>
            have hcons : evaluateAll index actual cursorSymbol committedSymbol (q :: positions)
                evaluated
                = evaluateAll index actual cursorSymbol committedSymbol positions
                  (evaluated.set q (candidateAt index actual cursorSymbol committedSymbol q
                    found.location)) := by
              rw [evaluateAll, List.foldl_cons, if_neg hhas, hsymbol]
              rfl
            rw [hcons, ih]
            by_cases hpq : p = q
            · subst hpq
              simp only [OrderedMap.get_set_self, hnone, hsymbol, Option.some.injEq, reduceCtorEq,
                false_and, or_false, false_or, List.mem_cons, true_or, true_and, exists_eq_left']
              exact eq_comm
            · simp only [OrderedMap.get_set_of_ne _ hpq, List.mem_cons, hpq, false_or]

/-- Every ranked candidate is that of a position. -/
lemma exists_of_mem_ranked {candidate : AlignmentCandidate}
    (h : candidate ∈ rankedCandidates index actual cursorSymbol committedSymbol) :
    ∃ p symbol, index.symbols[p]? = some symbol ∧
      candidate = candidateAt index actual cursorSymbol committedSymbol p symbol.location := by
  rw [rankedCandidates, List.mem_insertionSort, OrderedMap.values, List.mem_map] at h
  obtain ⟨⟨p, c⟩, hmem, rfl⟩ := h
  rw [← OrderedMap.get_eq_some_iff] at hmem
  split at hmem
  · rcases evaluateAll_get.mp hmem with hmem | ⟨-, -, symbol, hs, hc⟩
    · rcases evaluateAll_get.mp hmem with hmem | ⟨-, -, symbol, hs, hc⟩
      · simp at hmem
      · exact ⟨p, symbol, hs, hc⟩
    · exact ⟨p, symbol, hs, hc⟩
  · rcases evaluateAll_get.mp hmem with hmem | ⟨-, -, symbol, hs, hc⟩
    · simp at hmem
    · exact ⟨p, symbol, hs, hc⟩

/-- **What the search finds is sound**, its second candidate like its best. -/
theorem locate_sound_of_mem {candidate : AlignmentCandidate}
    (h : (locate index actual cursorSymbol committedSymbol).best = some candidate ∨
      (locate index actual cursorSymbol committedSymbol).second = some candidate) :
    SoundCandidate index actual committedSymbol candidate := by
  rw [locate] at h
  split at h
  · rcases h with h | h
    · cases h
    · cases h
  · have hmem : candidate ∈ rankedCandidates index actual
        (min cursorSymbol (index.symbols.length - 1)) committedSymbol := by
      rcases h with h | h
      · exact List.mem_of_getElem? h
      · exact List.mem_of_getElem? h
    obtain ⟨p, symbol, hs, rfl⟩ := exists_of_mem_ranked hmem
    obtain ⟨hlt, -⟩ := List.getElem?_eq_some_iff.mp hs
    exact candidateAt_sound hlt _

lemma locate_sound {candidate : AlignmentCandidate}
    (h : (locate index actual cursorSymbol committedSymbol).best = some candidate) :
    SoundCandidate index actual committedSymbol candidate :=
  locate_sound_of_mem (Or.inl h)

end

end Qaraa
