import Qaraa.Core.OptimalAlignment
import Qaraa.Core.Ranking
import Qaraa.Core.SampleCorpus
import Qaraa.Core.WorkspaceReuse
import Qaraa.Library.TopTwo

/-!
`locateObservation` against brute force over its candidate positions.

* `BruteForceCandidate`: what a position's candidate should be: the best of the fresh
  alignments against every span that begins there, and the gap between the two largest
  span scores.
* `bestSpan_holds`: the loop over the spans keeps the best path and the runner-up's score.
* `RefinesBruteForce`, `locateObservation_refines`: **the search refines brute force**,
  whatever order it evaluates the positions in.
-/

namespace Qaraa

open Fallible Ordered TopTwo

/-! ### Brute force -/

section Specification

variable (index : IndexedCorpus) (actual : List String)

/-- The span lengths tried at a position: within three of the observation's, at least one,
clipped to the end of the corpus. -/
def IsSpanLength (symbolIndex m : ℕ) : Prop :=
  min (index.symbols.length - symbolIndex) (max 1 (actual.length - 3)) ≤ m ∧
    m ≤ min (index.symbols.length - symbolIndex) (actual.length + 3)

/-- The alignment of a span, in a workspace of its own. -/
def freshSpan (symbolIndex m : ℕ) : Except JsError AlignmentPath :=
  alignPhonemes actual (referencePhonemes index.symbols symbolIndex m)

/-- The scores of all spans of a position, shortest span first. -/
def spanScores (symbolIndex : ℕ) : List ℚ :=
  (spanLengths index.symbols.length actual.length symbolIndex).map fun m =>
    ((freshSpan index actual symbolIndex m).toOption.map AlignmentPath.score).getD 0

/-- The order of the spans: by score, then fewer edits, then more matched lookahead, then
the shorter span. -/
def spanKey (path : AlignmentPath) (m : ℕ) : ℚ ×ₗ ℕ ×ₗ ℤ ×ₗ ℕ :=
  toLex (-path.score, toLex (path.editCount, toLex (-(path.matchedLookaheadCount : ℤ), m)))

/-- The largest score minus the second largest, `0` for a single one. -/
def largestGap (scores : List ℚ) : ℚ :=
  match scores.insertionSort fun a b => b ≤ a with
  | first :: second :: _ => first - second
  | _ => 0

/-- What brute force says of a position. -/
structure BruteForceCandidate (cursorSymbol committedSymbol symbolIndex : ℕ)
    (candidate : AlignmentCandidate) : Prop where
  symbolIndex_eq : candidate.symbolIndex = symbolIndex
  location : index.symbols[symbolIndex]?.map QuranSymbol.location = some candidate.location
  alignment : ∃ m, IsSpanLength index actual symbolIndex m ∧
    freshSpan index actual symbolIndex m = .ok candidate.alignment ∧
    ∀ m', IsSpanLength index actual symbolIndex m' → m' ≠ m →
      ∀ path, freshSpan index actual symbolIndex m' = .ok path →
        spanKey candidate.alignment m < spanKey path m'
  score : candidate.score = candidate.alignment.score
  scoreMargin : candidate.scoreMargin = largestGap (spanScores index actual symbolIndex)
  cursorDistance : candidate.cursorDistance = ((symbolIndex : ℤ) - cursorSymbol).natAbs
  continuity : candidate.continuity = leadingContinuity candidate.alignment actual.length
  forwardMovement : candidate.forwardMovement = symbolIndex - cursorSymbol
  isReread : candidate.isReread = decide (symbolIndex < committedSymbol)

end Specification

/-! ### The spans of a position -/

section Spans

variable {index : IndexedCorpus} {actual : List String} {symbolIndex : ℕ}

lemma mem_spanLengths_iff {m : ℕ} :
    m ∈ spanLengths index.symbols.length actual.length symbolIndex ↔
      IsSpanLength index actual symbolIndex m :=
  mem_spanLengths

lemma freshSpan_eq (index : IndexedCorpus) (actual : List String) (symbolIndex m : ℕ) :
    freshSpan index actual symbolIndex m = .ok (spanPath index actual symbolIndex m) :=
  alignPhonemes_eq _ _

lemma spanScores_eq (index : IndexedCorpus) (actual : List String) (symbolIndex : ℕ) :
    spanScores index actual symbolIndex
      = (spanLengths index.symbols.length actual.length symbolIndex).map fun m =>
        (spanPath index actual symbolIndex m).score := by
  rw [spanScores]
  refine List.map_congr_left fun m _ => ?_
  rw [freshSpan_eq]
  rfl

/-- A longer span replaces the best one exactly when it comes before it. -/
lemma currentWins_iff_spanKey {best current : AlignmentPath} {m m' : ℕ} (hlt : m < m') :
    currentWins (some best) current = true ↔ spanKey current m' < spanKey best m := by
  simp only [currentWins, spanKey, Prod.Lex.toLex_lt_toLex, Bool.or_eq_true, Bool.and_eq_true,
    decide_eq_true_eq, beq_iff_eq, neg_lt_neg_iff, neg_inj, Nat.cast_lt, Nat.cast_inj,
    not_lt.mpr hlt.le, and_false, or_false]
  rw [or_assoc, and_assoc, ← and_or_left]

/-- The span that ties with no other comes first or after. -/
lemma spanKey_lt_of_not_lt {best current : AlignmentPath} {m m' : ℕ} (hne : m ≠ m')
    (h : ¬spanKey current m' < spanKey best m) : spanKey best m < spanKey current m' := by
  refine lt_of_le_of_ne (not_lt.mp h) fun heq => hne ?_
  have hlast := congrArg (fun key => (ofLex (ofLex (ofLex key).2).2).2) heq
  exact hlast

variable (index actual symbolIndex) in
/-- The state of the span loop after the lengths `visited`. -/
def SpanPass.Holds (visited : List ℕ) (pass : SpanPass) : Prop :=
  (visited = [] ∧ pass = ⟨none, 0⟩) ∨
    ∃ m ∈ visited, pass.alignment = some (spanPath index actual symbolIndex m) ∧
      (∀ m' ∈ visited, m' ≠ m → spanKey (spanPath index actual symbolIndex m) m
        < spanKey (spanPath index actual symbolIndex m') m') ∧
      (visited = [m] ∧ pass.secondSpanScore = 0 ∨
        IsTopTwo (visited.map fun m => (spanPath index actual symbolIndex m).score)
          (spanPath index actual symbolIndex m).score pass.secondSpanScore)

/-- One span longer than all before keeps the best path and the second largest score. -/
lemma SpanPass.Holds.visit {visited : List ℕ} {pass : SpanPass}
    (h : pass.Holds index actual symbolIndex visited) {n : ℕ} (hlonger : ∀ m ∈ visited, m < n) :
    (pass.visit (spanPath index actual symbolIndex n)).Holds index actual symbolIndex
      (visited ++ [n]) := by
  rcases h with ⟨rfl, rfl⟩ | ⟨m, hm, hbest, hfirst, hsecond⟩
  · refine Or.inr ⟨n, by simp, rfl, fun m' hm' hne => ?_, Or.inl ⟨rfl, rfl⟩⟩
    exact absurd (by simpa using hm') hne
  · have hlt := hlonger m hm
    have hscores : (visited ++ [n]).map (fun m => (spanPath index actual symbolIndex m).score)
        = visited.map (fun m => (spanPath index actual symbolIndex m).score)
          ++ [(spanPath index actual symbolIndex n).score] := by
      rw [List.map_append, List.map_singleton]
    rw [SpanPass.visit, hbest]
    by_cases hwins : currentWins (some (spanPath index actual symbolIndex m))
        (spanPath index actual symbolIndex n) = true
    · -- the new span leads, the old best becomes the runner-up
      have hkey := (currentWins_iff_spanKey hlt).mp hwins
      have hle := currentWins_iff hwins
      rw [if_pos hwins]
      refine Or.inr ⟨n, by simp, rfl, fun m' hm' hne => ?_, Or.inr ?_⟩
      · rcases List.mem_append.mp hm' with hm' | hm'
        · by_cases heq : m' = m
          · rw [heq]
            exact hkey
          · exact hkey.trans (hfirst m' hm' heq)
        · exact absurd (by simpa using hm') hne
      · rw [hscores]
        rcases hsecond with ⟨rfl, -⟩ | hsecond
        · exact IsTopTwo.pair_lead hle
        · exact hsecond.lead hle
    · -- the old best stays, the new span competes for the second place
      have hkey := spanKey_lt_of_not_lt hlt.ne fun h =>
        hwins ((currentWins_iff_spanKey hlt).mpr h)
      have hle := not_currentWins hwins
      rw [if_neg hwins]
      refine Or.inr ⟨m, by simp [hm], rfl, fun m' hm' hne => ?_, Or.inr ?_⟩
      · rcases List.mem_append.mp hm' with hm' | hm'
        · exact hfirst m' hm' hne
        · rw [List.mem_singleton.mp hm']
          exact hkey
      · rw [hscores]
        rcases hsecond with ⟨rfl, hzero⟩ | hsecond
        · have hnonneg : 0 ≤ (spanPath index actual symbolIndex n).score :=
            (editPath_score_mem actual (referencePhonemes index.symbols symbolIndex n)).2.1
          dsimp only
          rw [hzero, max_eq_right hnonneg]
          exact IsTopTwo.pair_trail hle
        · exact hsecond.trail hle

/-- **The loop over the spans** ends with the best path and the second largest score. -/
lemma bestSpan_holds (index : IndexedCorpus) (actual : List String) (symbolIndex : ℕ) :
    (bestSpan index actual symbolIndex).Holds index actual symbolIndex
      (spanLengths index.symbols.length actual.length symbolIndex) := by
  refine Loop.foldl_induction_split
    (P := fun visited pass => SpanPass.Holds index actual symbolIndex visited pass)
    (Or.inl ⟨rfl, rfl⟩) fun pre n rest pass hsplit hpass => hpass.visit fun m hm => ?_
  have hsorted : (spanLengths index.symbols.length actual.length symbolIndex).Pairwise
      (· < ·) := by
    rw [spanLengths]
    exact List.pairwise_lt_range'
  rw [hsplit] at hsorted
  exact (List.pairwise_append.mp hsorted).2.2 m hm n (by simp)

/-- A position of the corpus has a span. -/
lemma exists_isSpanLength (actual : List String) (hlt : symbolIndex < index.symbols.length) :
    ∃ m, IsSpanLength index actual symbolIndex m :=
  ⟨min (index.symbols.length - symbolIndex) (max 1 (actual.length - 3)), by
    rw [IsSpanLength]
    omega⟩

/-- **The candidate of a position is the one brute force finds.** -/
lemma candidateAt_bruteForce (actual : List String) (cursorSymbol committedSymbol : ℕ)
    {symbol : QuranSymbol} (hsymbol : index.symbols[symbolIndex]? = some symbol) :
    BruteForceCandidate index actual cursorSymbol committedSymbol symbolIndex
      (candidateAt index actual cursorSymbol committedSymbol symbolIndex symbol.location) := by
  obtain ⟨hlt, -⟩ := List.getElem?_eq_some_iff.mp hsymbol
  obtain ⟨n, hn⟩ := exists_isSpanLength actual hlt
  rcases bestSpan_holds index actual symbolIndex with ⟨hnil, -⟩ | ⟨m, hm, hbest, hfirst, hsecond⟩
  · rw [← mem_spanLengths_iff, hnil] at hn
    simp at hn
  · have halignment : (candidateAt index actual cursorSymbol committedSymbol symbolIndex
        symbol.location).alignment = spanPath index actual symbolIndex m := by
      rw [candidateAt, hbest]
      rfl
    refine ⟨rfl, by rw [hsymbol]; rfl, ⟨m, mem_spanLengths_iff.mp hm, ?_, ?_⟩, rfl, ?_, rfl, ?_,
      rfl, rfl⟩
    · rw [halignment, freshSpan_eq]
    · intro m' hm' hne path hpath
      rw [freshSpan_eq] at hpath
      cases hpath
      rw [halignment]
      exact hfirst m' (mem_spanLengths_iff.mpr hm') hne
    · rw [candidateAt, hbest, spanScores_eq, finishCandidate]
      rcases hsecond with ⟨hsingle, hzero⟩ | hsecond
      · rw [hsingle]
        rfl
      · obtain ⟨tail, hsorted⟩ := hsecond.sorted
        have hcount := (List.perm_insertionSort (fun a b : ℚ => b ≤ a) _).length_eq.symm.trans
          (congrArg List.length hsorted)
        rw [List.length_map] at hcount
        rw [largestGap, hsorted]
        dsimp only
        rw [if_neg (by rw [hcount]; simp), Option.getD_some,
          max_eq_right (sub_nonneg.mpr hsecond.1)]
    · rfl

end Spans

/-! ### The search -/

section Search

variable (index : IndexedCorpus) (actual : List String) (cursorSymbol committedSymbol : ℕ)

/-- What a search has evaluated and found, against brute force: each evaluated position
carries the candidate of brute force; the positions are the local ones and, exactly when
every local score is below the threshold, the global ones; whatever order the candidates
are given in, the first two of the ranking are found; and the margin of the tracker is the
difference of their scores, never negative. -/
structure RefinesBruteForce (evaluated : OrderedMap ℕ AlignmentCandidate) (located : Located) :
    Prop where
  candidates : ∀ p candidate, evaluated.get p = some candidate →
    BruteForceCandidate index actual cursorSymbol committedSymbol p candidate
  positions : ∀ p, (∃ candidate, evaluated.get p = some candidate) ↔
    p ∈ retrieveCandidatePositions index actual cursorSymbol false ∨
      (∀ q ∈ retrieveCandidatePositions index actual cursorSymbol false, ∀ candidate,
        evaluated.get q = some candidate → candidate.score < 72 / 100) ∧
      p ∈ retrieveCandidatePositions index actual cursorSymbol true
  ranked : ∀ order : List AlignmentCandidate, order.Perm evaluated.values →
    located = firstTwo order
  margin : ∀ best, located.best = some best →
    locationScoreMargin best located.second = best.score - located.secondScore ∧
      0 ≤ best.score - located.secondScore

end Search

section

variable {index : IndexedCorpus} {actual : List String} {cursorSymbol committedSymbol : ℕ}

/-- A running maximum stays below a bound when all it has seen does. -/
lemma foldl_max_lt_iff {candidates : List AlignmentCandidate} {best bound : ℚ} :
    candidates.foldl (fun best candidate => max best candidate.score) best < bound ↔
      best < bound ∧ ∀ candidate ∈ candidates, candidate.score < bound := by
  induction candidates generalizing best with
  | nil => simp
  | cons candidate candidates ih =>
      rw [List.foldl_cons, ih, max_lt_iff, List.forall_mem_cons, and_assoc]

lemma evaluateAll_empty_get {positions : List ℕ} {p : ℕ} {candidate : AlignmentCandidate} :
    (evaluateAll index actual cursorSymbol committedSymbol positions .empty).get p
        = some candidate ↔
      p ∈ positions ∧ ∃ symbol, index.symbols[p]? = some symbol ∧
        candidate = candidateAt index actual cursorSymbol committedSymbol p symbol.location := by
  rw [evaluateAll_get, OrderedMap.get_empty]
  simp

/-- The global positions are evaluated exactly when every local score is low. -/
lemma localBestScore_lt_iff :
    (evaluateAll index actual cursorSymbol committedSymbol
        (retrieveCandidatePositions index actual cursorSymbol false) .empty).values.foldl
          (fun best candidate => max best candidate.score) 0 < GLOBAL_FALLBACK_THRESHOLD ↔
      ∀ q ∈ retrieveCandidatePositions index actual cursorSymbol false, ∀ symbol,
        index.symbols[q]? = some symbol →
          (candidateAt index actual cursorSymbol committedSymbol q symbol.location).score
            < 72 / 100 := by
  rw [foldl_max_lt_iff, GLOBAL_FALLBACK_THRESHOLD]
  constructor
  · rintro ⟨-, hall⟩ q hq symbol hsymbol
    refine hall _ ?_
    rw [OrderedMap.values]
    exact List.mem_map.mpr ⟨(q, _), OrderedMap.get_eq_some_iff.mp
      (evaluateAll_empty_get.mpr ⟨hq, symbol, hsymbol, rfl⟩), rfl⟩
  · intro hall
    refine ⟨by norm_num, fun candidate hmem => ?_⟩
    rw [OrderedMap.values, List.mem_map] at hmem
    obtain ⟨⟨q, c⟩, hmem, rfl⟩ := hmem
    obtain ⟨hq, symbol, hsymbol, rfl⟩ :=
      evaluateAll_empty_get.mp (OrderedMap.get_eq_some_iff.mpr hmem)
    exact hall q hq symbol hsymbol

/-- What a search has evaluated. -/
lemma evaluatedCandidates_get {p : ℕ} {candidate : AlignmentCandidate} :
    (evaluatedCandidates index actual cursorSymbol committedSymbol).get p = some candidate ↔
      (p ∈ retrieveCandidatePositions index actual cursorSymbol false ∨
        (∀ q ∈ retrieveCandidatePositions index actual cursorSymbol false, ∀ symbol,
          index.symbols[q]? = some symbol →
            (candidateAt index actual cursorSymbol committedSymbol q symbol.location).score
              < 72 / 100) ∧
        p ∈ retrieveCandidatePositions index actual cursorSymbol true) ∧
      ∃ symbol, index.symbols[p]? = some symbol ∧
        candidate = candidateAt index actual cursorSymbol committedSymbol p symbol.location := by
  rw [evaluatedCandidates]
  by_cases hlow : (evaluateAll index actual cursorSymbol committedSymbol
        (retrieveCandidatePositions index actual cursorSymbol false) .empty).values.foldl
          (fun best candidate => max best candidate.score) 0 < GLOBAL_FALLBACK_THRESHOLD
  · rw [if_pos hlow, evaluateAll_get, evaluateAll_empty_get]
    have hscores := localBestScore_lt_iff.mp hlow
    constructor
    · rintro (⟨hp, hfound⟩ | ⟨-, hp, hfound⟩)
      · exact ⟨Or.inl hp, hfound⟩
      · exact ⟨Or.inr ⟨hscores, hp⟩, hfound⟩
    · rintro ⟨hp, hfound⟩
      by_cases hlocal : p ∈ retrieveCandidatePositions index actual cursorSymbol false
      · exact Or.inl ⟨hlocal, hfound⟩
      · refine Or.inr ⟨?_, (hp.resolve_left hlocal).2, hfound⟩
        rw [Option.eq_none_iff_forall_ne_some]
        exact fun c hc => hlocal (evaluateAll_empty_get.mp hc).1
  · rw [if_neg hlow, evaluateAll_empty_get]
    have hscores := mt localBestScore_lt_iff.mpr hlow
    constructor
    · rintro ⟨hp, hfound⟩
      exact ⟨Or.inl hp, hfound⟩
    · rintro ⟨hp | ⟨hall, -⟩, hfound⟩
      · exact ⟨hp, hfound⟩
      · exact absurd hall hscores

/-- The candidates of a search are told apart by their ranking keys. -/
lemma evaluatedCandidates_key {left right : AlignmentCandidate}
    (hleft : left ∈ (evaluatedCandidates index actual cursorSymbol committedSymbol).values)
    (hright : right ∈ (evaluatedCandidates index actual cursorSymbol committedSymbol).values)
    (h : rankingKey left = rankingKey right) : left = right := by
  have hindex : left.symbolIndex = right.symbolIndex :=
    congrArg (fun key => (ofLex (ofLex (ofLex (ofLex (ofLex key).2).2).2).2).2) h
  rw [OrderedMap.values, List.mem_map] at hleft hright
  obtain ⟨⟨p, c⟩, hp, rfl⟩ := hleft
  obtain ⟨⟨q, d⟩, hq, rfl⟩ := hright
  obtain ⟨-, symbol, hsymbol, rfl⟩ :=
    evaluatedCandidates_get.mp (OrderedMap.get_eq_some_iff.mpr hp)
  obtain ⟨-, other, hother, rfl⟩ :=
    evaluatedCandidates_get.mp (OrderedMap.get_eq_some_iff.mpr hq)
  have hpq : p = q := hindex
  rw [hpq, hother] at hsymbol
  cases hsymbol
  rw [hpq]

/-- The runner-up scores no higher than the best candidate, and no score is negative. -/
lemma locate_margin_nonneg {best : AlignmentCandidate}
    (h : (locate index actual cursorSymbol committedSymbol).best = some best) :
    0 ≤ best.score - (locate index actual cursorSymbol committedSymbol).secondScore := by
  have hsound := locate_sound h
  rw [locate] at h ⊢
  split at h
  · cases h
  · rename_i hempty
    rw [if_neg hempty]
    have hsorted := rankedCandidates_pairwise index actual
      (min cursorSymbol (index.symbols.length - 1)) committedSymbol
    generalize rankedCandidates index actual (min cursorSymbol (index.symbols.length - 1))
      committedSymbol = ranked at h hsorted ⊢
    rw [sub_nonneg, Located.secondScore]
    cases ranked with
    | nil => cases h
    | cons first rest =>
        cases h
        cases rest with
        | nil =>
            obtain ⟨m, -, -, halign⟩ := hsound.span
            rw [hsound.score, halign]
            exact (editPath_score_mem _ _).2.1
        | cons second rest => exact (List.pairwise_cons.mp hsorted).1 second (by simp)

/-- The search over an observation with phonemes refines brute force. -/
lemma evaluatedCandidates_refines (hactual : actual ≠ []) (hsymbols : index.symbols ≠ []) :
    RefinesBruteForce index actual (min cursorSymbol (index.symbols.length - 1)) committedSymbol
      (evaluatedCandidates index actual (min cursorSymbol (index.symbols.length - 1))
        committedSymbol)
      (locate index actual cursorSymbol committedSymbol) := by
  have hlocate : locate index actual cursorSymbol committedSymbol
      = firstTwo (evaluatedCandidates index actual (min cursorSymbol (index.symbols.length - 1))
        committedSymbol).values := by
    rw [locate, if_neg (by simp [hactual, hsymbols])]
    rfl
  refine ⟨?_, ?_, ?_, ?_⟩
  · intro p candidate hget
    obtain ⟨-, symbol, hsymbol, rfl⟩ := evaluatedCandidates_get.mp hget
    exact candidateAt_bruteForce actual _ committedSymbol hsymbol
  · intro p
    have hlocal : (∀ q ∈ retrieveCandidatePositions index actual
        (min cursorSymbol (index.symbols.length - 1) : ℕ) false, ∀ candidate,
        (evaluatedCandidates index actual (min cursorSymbol (index.symbols.length - 1))
          committedSymbol).get q = some candidate → candidate.score < 72 / 100) ↔
        ∀ q ∈ retrieveCandidatePositions index actual
          (min cursorSymbol (index.symbols.length - 1) : ℕ) false, ∀ symbol,
          index.symbols[q]? = some symbol →
            (candidateAt index actual (min cursorSymbol (index.symbols.length - 1))
              committedSymbol q symbol.location).score < 72 / 100 := by
      refine forall_congr' fun q => forall_congr' fun hq => ⟨fun h symbol hsymbol => ?_,
        fun h candidate hget => ?_⟩
      · exact h _ (evaluatedCandidates_get.mpr ⟨Or.inl hq, symbol, hsymbol, rfl⟩)
      · obtain ⟨-, symbol, hsymbol, rfl⟩ := evaluatedCandidates_get.mp hget
        exact h symbol hsymbol
    rw [hlocal]
    constructor
    · rintro ⟨candidate, hget⟩
      exact (evaluatedCandidates_get.mp hget).1
    · intro hp
      have hlt : p < index.symbols.length := by
        rcases hp with hp | ⟨-, hp⟩
        · exact retrieveCandidatePositions_lt hp
        · exact retrieveCandidatePositions_lt hp
      exact ⟨_, evaluatedCandidates_get.mpr ⟨hp, _, List.getElem?_eq_getElem hlt, rfl⟩⟩
  · intro order horder
    have hsort := insertionSort_eq_of_perm
      (fun left right => (compareCandidates_le_zero_iff :
        compareCandidates left right ≤ 0 ↔ rankingKey left ≤ rankingKey right))
      (fun left hleft right hright => evaluatedCandidates_key hleft hright) horder
    rw [hlocate, firstTwo, firstTwo, hsort]
  · intro best hbest
    have hmargin := locate_margin_nonneg hbest
    exact ⟨max_eq_right hmargin, hmargin⟩

end

/-- **The search refines brute force** over its candidate positions, for every index, every
accepted observation with phonemes and every cursor and committed position; an observation
without phonemes evaluates nothing and finds nothing. -/
theorem locateObservation_refines (index : IndexedCorpus) {value : JsValue}
    {observation : RecitationObservation} (h : validateObservation value = .ok observation)
    (cursorSymbol committedSymbol : ℕ) :
    ∃ evaluated located,
      evaluateObservation index value cursorSymbol committedSymbol = .ok evaluated ∧
      locateObservation index value cursorSymbol committedSymbol = .ok located ∧
      (observationPhonemes observation = [] →
        evaluated = .empty ∧ located = ⟨none, none⟩) ∧
      (observationPhonemes observation ≠ [] →
        RefinesBruteForce index (observationPhonemes observation)
          (min cursorSymbol (index.symbols.length - 1)) committedSymbol evaluated located) := by
  refine ⟨_, _, evaluateObservation_eq index h cursorSymbol committedSymbol,
    locateObservation_eq index h cursorSymbol committedSymbol, fun hempty => ?_, fun hactual => ?_⟩
  · rw [if_pos (by simp [hempty]), locate, if_pos (by simp [hempty])]
    exact ⟨rfl, rfl⟩
  · by_cases hsymbols : index.symbols = []
    · have hnone : ∀ (includeGlobal : Bool) (p : ℕ),
          p ∉ retrieveCandidatePositions index (observationPhonemes observation)
            (min cursorSymbol (index.symbols.length - 1) : ℕ) includeGlobal := by
        intro includeGlobal p hp
        have hlt := retrieveCandidatePositions_lt hp
        simp [hsymbols] at hlt
      rw [if_pos (by simp [hsymbols]), locate, if_pos (by simp [hsymbols])]
      refine ⟨fun p candidate hget => ?_, fun p => ?_, fun order horder => ?_,
        fun best hbest => by cases hbest⟩
      · rw [OrderedMap.get_empty] at hget
        cases hget
      · constructor
        · rintro ⟨candidate, hget⟩
          rw [OrderedMap.get_empty] at hget
          cases hget
        · rintro (hp | ⟨-, hp⟩)
          · exact absurd hp (hnone false p)
          · exact absurd hp (hnone true p)
      · have hnil : order = [] := List.perm_nil.mp horder
        rw [hnil]
        rfl
    · rw [if_neg (by simp [hactual, hsymbols])]
      exact evaluatedCandidates_refines hactual hsymbols

/-- Two phonemes of the sample, located from its first symbol. -/
theorem locateObservation_refines_heard :
    ∃ evaluated located,
      evaluateObservation sampleIndex (sampleObservation "heard" 1 true ["p1", "p2"]) 0 0
        = .ok evaluated ∧
      locateObservation sampleIndex (sampleObservation "heard" 1 true ["p1", "p2"]) 0 0
        = .ok located ∧
      (observationPhonemes (result _ heardObservation_accepted) = [] →
        evaluated = .empty ∧ located = ⟨none, none⟩) ∧
      (observationPhonemes (result _ heardObservation_accepted) ≠ [] →
        RefinesBruteForce sampleIndex (observationPhonemes (result _ heardObservation_accepted))
          (min 0 (sampleIndex.symbols.length - 1)) 0 evaluated located) :=
  locateObservation_refines sampleIndex (eq_ok_result heardObservation_accepted) 0 0

lemma silentObservation_accepted :
    (validateObservation (sampleObservation "silent" 1 true [])).toOption.isSome = true := by
  decide +kernel

/-- A silent final observation evaluates no position, not even the local ones. -/
theorem locateObservation_silent : ¬∀ (corpus value : JsValue) (index : IndexedCorpus)
    (observation : RecitationObservation) (cursorSymbol committedSymbol : ℕ),
    indexCorpus corpus = .ok index → validateObservation value = .ok observation →
      ∃ evaluated located,
        evaluateObservation index value cursorSymbol committedSymbol = .ok evaluated ∧
        locateObservation index value cursorSymbol committedSymbol = .ok located ∧
        RefinesBruteForce index (observationPhonemes observation)
          (min cursorSymbol (index.symbols.length - 1)) committedSymbol evaluated located := by
  intro h
  have hsilent : observationPhonemes (result _ silentObservation_accepted) = [] := by
    decide +kernel
  obtain ⟨evaluated, located, hevaluated, -, hrefines⟩ := h (sampleCorpus 5) _ sampleIndex _ 0 0
    (eq_ok_result sampleCorpus_indexed) (eq_ok_result silentObservation_accepted)
  rw [evaluateObservation_eq sampleIndex (eq_ok_result silentObservation_accepted),
    if_pos (by simp [hsilent])] at hevaluated
  cases hevaluated
  have hlocal : 0 ∈ retrieveCandidatePositions sampleIndex
      (observationPhonemes (result _ silentObservation_accepted))
      (min 0 (sampleIndex.symbols.length - 1) : ℕ) false := by
    decide +kernel
  obtain ⟨candidate, hget⟩ := (hrefines.positions 0).mpr (Or.inl hlocal)
  rw [OrderedMap.get_empty] at hget
  cases hget

end Qaraa
