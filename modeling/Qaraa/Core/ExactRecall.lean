import Qaraa.Core.BruteForce
import Qaraa.Core.IndexSoundness
import Qaraa.Core.SpanScores

/-!
Exact recall of the global fallback: a passage heard word for word is found wherever the
cursor is, if one of its sampled keys occurs nowhere else.

* `queryAnchors_sorted`: the anchors come rarest first, so a key with a single posting
  comes first.
* `exactHypotheses_single`: the first anchor, with a single posting, proposes its start
  before any budget runs out.
* `exact_recall`: **the passage is retrieved**, and found with score `1` when the local
  positions are not good enough.
-/

namespace Qaraa

open Fallible Ordered TopTwo

/-! ### The rarest anchor -/

/-- What the sort of the anchors compares. -/
def anchorKey (anchor : Anchor) : ℕ ×ₗ ℤ ×ₗ ℕ :=
  toLex (anchor.postings.length, toLex (-(anchor.length : ℤ), anchor.offset))

lemma compareAnchors_le_zero_iff {left right : Anchor} :
    compareAnchors left right ≤ 0 ↔ anchorKey left ≤ anchorKey right := by
  simp only [compareAnchors, anchorKey, Prod.Lex.toLex_le_toLex]
  split
  · omega
  · split
    · omega
    · omega

variable {index : IndexedCorpus} {actual : List String}

variable (index actual) in
/-- The anchors come rarest first. -/
lemma queryAnchors_sorted : (queryAnchors index actual).Pairwise fun left right =>
    left.postings.length ≤ right.postings.length := by
  have : Std.Total fun left right : Anchor => compareAnchors left right ≤ 0 :=
    ⟨fun left right => by
      rw [compareAnchors_le_zero_iff, compareAnchors_le_zero_iff]
      exact le_total _ _⟩
  have : IsTrans Anchor fun left right => compareAnchors left right ≤ 0 :=
    ⟨fun left mid right hleft hright => by
      rw [compareAnchors_le_zero_iff] at hleft hright ⊢
      exact hleft.trans hright⟩
  rw [queryAnchors_eq]
  refine (List.pairwise_insertionSort _ _).imp fun {left right} h => ?_
  rw [compareAnchors_le_zero_iff, anchorKey, anchorKey, Prod.Lex.toLex_le_toLex] at h
  rcases h with h | ⟨h, -⟩
  · exact h.le
  · exact h.le

/-- A sampled offset leaves room for its key. -/
lemma mem_sampledOffsets {count budget offset : ℕ} (hcount : 0 < count)
    (h : offset ∈ sampledOffsets count budget) : offset < count := by
  rw [sampledOffsets] at h
  split at h
  · exact List.mem_range.mp h
  · split at h
    · rw [List.mem_singleton.mp h]
      exact hcount
    · obtain ⟨sample, hsample, rfl⟩ := List.mem_map.mp h
      have hle : sample ≤ budget - 1 := Nat.le_sub_one_of_lt (List.mem_range.mp hsample)
      have hquotient : sample * (count - 1) / (budget - 1) ≤ count - 1 :=
        Nat.div_le_of_le_mul (Nat.mul_le_mul_right _ hle)
      omega

/-- An anchor is the posting list of a key of one to three phonemes inside the
observation. -/
lemma mem_queryAnchors {anchor : Anchor} (h : anchor ∈ queryAnchors index actual) :
    1 ≤ anchor.length ∧ anchor.length ≤ 3 ∧ anchor.offset + anchor.length ≤ actual.length ∧
      anchor.postings ≠ [] ∧
      index.phonemeNgramPostings.get
        (" ".intercalate ((actual.drop anchor.offset).take anchor.length))
          = some anchor.postings := by
  rw [queryAnchors_eq, List.mem_insertionSort, List.mem_filterMap] at h
  obtain ⟨⟨length, offset⟩, hsample, hanchor⟩ := h
  obtain ⟨l, hl, hoffset⟩ := List.mem_flatMap.mp (List.mem_of_mem_take hsample)
  obtain ⟨o, ho, heq⟩ := List.mem_map.mp hoffset
  cases heq
  obtain ⟨k, hk, rfl⟩ := List.mem_map.mp hl
  rw [List.mem_reverse, List.mem_range, FORWARD_PHONEME_COUNT] at hk
  have hlt := mem_sampledOffsets (Nat.succ_pos _) ho
  rw [sampleAnchor, sampleKey] at hanchor
  cases hget : index.phonemeNgramPostings.get
      (" ".intercalate ((actual.drop offset).take (k + 1))) with
  | none => simp [hget] at hanchor
  | some postings =>
      rw [hget] at hanchor
      dsimp only at hanchor
      split at hanchor
      · cases hanchor
      · cases hanchor
        exact ⟨by simp, by simp; omega, by dsimp only; omega, ‹_›, hget⟩

/-- When some anchor has a single posting, the first one has. -/
lemma queryAnchors_head (h : ∃ anchor ∈ queryAnchors index actual, anchor.postings.length = 1) :
    ∃ anchor rest, queryAnchors index actual = anchor :: rest ∧ anchor.postings.length = 1 := by
  obtain ⟨rare, hrare, hsingle⟩ := h
  have hsorted := queryAnchors_sorted index actual
  cases hanchors : queryAnchors index actual with
  | nil => simp [hanchors] at hrare
  | cons anchor rest =>
      rw [hanchors] at hrare hsorted
      have hmem : anchor ∈ queryAnchors index actual := by simp [hanchors]
      have hne := (mem_queryAnchors hmem).2.2.2.1
      have hpos := List.length_pos_iff.mpr hne
      refine ⟨anchor, rest, rfl, ?_⟩
      rcases List.mem_cons.mp hrare with rfl | hrare
      · exact hsingle
      · have hle := (List.pairwise_cons.mp hsorted).1 rare hrare
        omega

/-! ### The first hypothesis -/

/-- The binary search over a single posting and its first neighbour take two inspections. -/
lemma createPostingCursor_single (length offset posting : ℕ) (cursorSymbol : ℤ)
    {budget : InspectionBudget} (hbudget : 2 ≤ budget.remaining) :
    ∃ cursor left, createPostingCursor ⟨length, offset, [posting]⟩ cursorSymbol budget
        = (some cursor, left) ∧
      (takeNearestPosting cursor cursorSymbol left).1 = some posting := by
  have hfirst : budget.remaining ≠ 0 := by omega
  have hsecond : budget.remaining - 1 ≠ 0 := by omega
  by_cases hlt : (posting : ℤ) < cursorSymbol + offset
  · refine ⟨⟨⟨length, offset, [posting]⟩, 0, 1⟩, ⟨budget.remaining - 1, budget.inspections + 1⟩,
      ?_, ?_⟩
    · simp [createPostingCursor, lowerBound, lowerBoundFrom, inspectedValue, hfirst, hlt]
    · simp [takeNearestPosting, inspectedValue, hsecond]
  · refine ⟨⟨⟨length, offset, [posting]⟩, -1, 0⟩, ⟨budget.remaining - 1, budget.inspections + 1⟩,
      ?_, ?_⟩
    · simp [createPostingCursor, lowerBound, lowerBoundFrom, inspectedValue, hfirst, hlt]
    · simp [takeNearestPosting, inspectedValue, hsecond]

/-- A start once proposed is kept. -/
lemma keptByStart_mem (n p : ℕ) : KeptByStart n fun candidates => p ∈ candidates.items := by
  intro candidates start h
  rw [addStart]
  split
  · exact OrderedSet.mem_add.mpr (Or.inl h)
  · exact h

/-- A first anchor with a single posting proposes its start. -/
lemma exactHypotheses_single {n length offset p : ℕ} {cursorSymbol : ℤ} {rest : List Anchor}
    {search : GlobalSearch} (hp : p < n) (hroom : search.candidates.size < MAX_ALIGNMENT_CANDIDATES)
    (hbudget : 2 ≤ search.budget.remaining) :
    p ∈ (exactHypotheses n cursorSymbol (⟨length, offset, [p + offset]⟩ :: rest)
      search).candidates.items := by
  obtain ⟨cursor, left, hcursor, hnearest⟩ :=
    createPostingCursor_single length offset (p + offset) cursorSymbol hbudget
  have hstart : ((p + offset : ℕ) : ℤ) - (offset : ℤ) = (p : ℤ) := by omega
  rw [exactHypotheses, if_neg (by omega), hcursor]
  dsimp only
  rw [hnearest]
  dsimp only
  rw [hstart]
  refine (keptByStart_mem n p).exactHypotheses ?_
  rw [addStart, if_pos ⟨hroom, by omega, by omega⟩, Int.toNat_natCast]
  exact OrderedSet.mem_add.mpr (Or.inr rfl)

/-! ### The passage -/

/-- A key of the passage is posted where the corpus has it. -/
lemma passage_posting {corpus : QuranCorpus} (hindex : CorrectIndex corpus index)
    (hsymbols : index.symbols = corpus.symbols) {p L length offset : ℕ}
    (hp : p + L ≤ index.symbols.length) (hlength : 1 ≤ length ∧ length ≤ 3)
    (hoffset : offset + length ≤ L) :
    p + offset ∈ (index.phonemeNgramPostings.get (" ".intercalate
      (((referencePhonemes index.symbols p L).drop offset).take length))).getD [] := by
  refine (hindex.postings_exact _ _).mpr ⟨length, hlength.1, hlength.2, by
    rw [← hsymbols]
    omega, ?_⟩
  rw [← hsymbols, referencePhonemes, ← List.map_drop, ← List.map_take, List.drop_take,
    List.take_take, List.drop_drop, min_eq_left (by omega)]

/-- The start of a passage with an anchor of a single posting is retrieved. -/
lemma passage_retrieved {corpus : QuranCorpus} (hindex : CorrectIndex corpus index)
    (hsymbols : index.symbols = corpus.symbols) {p L : ℕ} (hp : p + L ≤ index.symbols.length)
    (hL : 1 ≤ L) (hunique : ∃ anchor ∈ queryAnchors index (referencePhonemes index.symbols p L),
      anchor.postings.length = 1) (cursorSymbol : ℤ) :
    p ∈ retrieveCandidatePositions index (referencePhonemes index.symbols p L) cursorSymbol
      true := by
  have hlength := referencePhonemes_length_of_le hp
  obtain ⟨⟨length, offset, postings⟩, rest, hanchors, hsingle⟩ := queryAnchors_head hunique
  obtain ⟨hpos, hle, hfits, -, hget⟩ := mem_queryAnchors (hanchors ▸ List.mem_cons_self)
  dsimp only at hpos hle hfits hget hsingle
  rw [hlength] at hfits
  have hposting := passage_posting hindex hsymbols hp ⟨hpos, hle⟩ hfits
  rw [hget, Option.getD_some] at hposting
  obtain ⟨posting, rfl⟩ := List.length_eq_one_iff.mp hsingle
  rw [← List.mem_singleton.mp hposting] at hanchors
  have hne : referencePhonemes index.symbols p L ≠ [] :=
    List.length_pos_iff.mp (by omega)
  have hsize := size_localPositions_le index cursorSymbol.toNat
  have hadded : p ∈ (addGlobalCandidates (localPositions index cursorSymbol.toNat) index
      (referencePhonemes index.symbols p L) cursorSymbol).1.items := by
    rw [addGlobalCandidates, hanchors]
    refine (keptByStart_mem _ p).fairRounds ((keptByStart_mem _ p).displacedHypotheses
      (exactHypotheses_single (by omega) ?_ ?_)) _ _ _
    · exact lt_of_le_of_lt hsize (by decide)
    · show 2 ≤ MAX_POSTING_INSPECTIONS
      decide
  have hbounded := (keptByStart_size index.symbols.length).addGlobalCandidates
    (hsize.trans (by decide)) (referencePhonemes index.symbols p L) cursorSymbol
  rw [retrieveCandidatePositions, if_pos ⟨rfl, hne⟩, List.take_of_length_le hbounded]
  exact hadded

/-- The candidate at the start of a passage heard word for word is a full match. -/
lemma candidateAt_passage {p L : ℕ} (hp : p + L ≤ index.symbols.length) (hL : 1 ≤ L)
    (cursorSymbol committedSymbol : ℕ) {symbol : QuranSymbol}
    (hsymbol : index.symbols[p]? = some symbol) :
    (candidateAt index (referencePhonemes index.symbols p L) cursorSymbol committedSymbol p
      symbol.location).score = 1 := by
  have hlength := referencePhonemes_length_of_le hp
  obtain ⟨m, -, halign, hmax⟩ := candidateAt_alignment (referencePhonemes index.symbols p L)
    cursorSymbol committedSymbol (List.getElem?_eq_some_iff.mp hsymbol).1 symbol.location
  have hspan : L ∈ spanLengths index.symbols.length (referencePhonemes index.symbols p L).length
      p := by
    rw [mem_spanLengths, hlength, MAX_REFERENCE_LENGTH_VARIATION]
    omega
  have hge := hmax L hspan
  rw [score_exact hp (by omega)] at hge
  have hle := (editPath_score_mem (referencePhonemes index.symbols p L)
    (referencePhonemes index.symbols p m)).2.2
  have hscore : (candidateAt index (referencePhonemes index.symbols p L) cursorSymbol
      committedSymbol p symbol.location).score
        = (spanPath index (referencePhonemes index.symbols p L) p m).score := by
    rw [← halign]
    rfl
  rw [hscore]
  exact le_antisymm hle hge

/-- An evaluated candidate bounds the best score from below. -/
lemma score_le_best {cursorSymbol committedSymbol p : ℕ} {candidate : AlignmentCandidate}
    (hactual : actual ≠ []) (hsymbols : index.symbols ≠ [])
    (h : (evaluatedCandidates index actual (min cursorSymbol (index.symbols.length - 1))
      committedSymbol).get p = some candidate) :
    ∃ best, (locate index actual cursorSymbol committedSymbol).best = some best ∧
      candidate.score ≤ best.score := by
  have hmem : candidate ∈ rankedCandidates index actual
      (min cursorSymbol (index.symbols.length - 1)) committedSymbol := by
    show candidate ∈ (evaluatedCandidates index actual
      (min cursorSymbol (index.symbols.length - 1)) committedSymbol).values.insertionSort _
    rw [List.mem_insertionSort, OrderedMap.values]
    exact List.mem_map.mpr ⟨(p, candidate), OrderedMap.get_eq_some_iff.mp h, rfl⟩
  have hsorted := rankedCandidates_pairwise index actual
    (min cursorSymbol (index.symbols.length - 1)) committedSymbol
  rw [locate, if_neg (by simp [hactual, hsymbols])]
  generalize rankedCandidates index actual (min cursorSymbol (index.symbols.length - 1))
    committedSymbol = ranked at hmem hsorted ⊢
  cases ranked with
  | nil => simp at hmem
  | cons first rest =>
      refine ⟨first, rfl, ?_⟩
      rcases List.mem_cons.mp hmem with rfl | hmem
      · exact le_rfl
      · exact (List.pairwise_cons.mp hsorted).1 candidate hmem

/-- **Exact recall of the global fallback.** A passage of a valid corpus heard word for word
is retrieved from any cursor, if one of its sampled keys has a single posting; and the
search finds a candidate of score `1` when no local position is good enough. -/
theorem exact_recall {corpusValue value : JsValue} {observation : RecitationObservation}
    {p L : ℕ} (hindex : indexCorpus corpusValue = .ok index)
    (hvalid : validateObservation value = .ok observation) (hL : 1 ≤ L)
    (hp : p + L ≤ index.symbols.length)
    (hheard : observationPhonemes observation = referencePhonemes index.symbols p L)
    (hunique : ∃ anchor ∈ queryAnchors index (observationPhonemes observation),
      anchor.postings.length = 1) :
    (∀ cursorSymbol : ℤ, p ∈ retrieveCandidatePositions index (observationPhonemes observation)
      cursorSymbol true) ∧
    ∀ cursorSymbol committedSymbol : ℕ,
      (∀ evaluated,
        evaluateObservation index value cursorSymbol committedSymbol = .ok evaluated →
        ∀ q ∈ (localPositions index (min cursorSymbol (index.symbols.length - 1))).items,
          ∀ candidate, evaluated.get q = some candidate → candidate.score < 72 / 100) →
      ∃ located best, locateObservation index value cursorSymbol committedSymbol = .ok located ∧
        located.best = some best ∧ best.score = 1 := by
  have hcorpus : ∃ corpus, CorrectIndex corpus index ∧ index.symbols = corpus.symbols := by
    simp only [indexCorpus, bind_eq_ok, pure_eq_ok] at hindex
    obtain ⟨corpus, hcheck, rfl⟩ := hindex
    exact ⟨corpus, buildIndex_correct (validateCorpus_wellFormed hcheck), rfl⟩
  obtain ⟨corpus, hcorrect, hsymbols⟩ := hcorpus
  have hretrieved : ∀ cursorSymbol : ℤ, p ∈ retrieveCandidatePositions index
      (observationPhonemes observation) cursorSymbol true := by
    rw [hheard] at hunique ⊢
    exact passage_retrieved hcorrect hsymbols hp hL hunique
  refine ⟨hretrieved, fun cursorSymbol committedSymbol hlow => ?_⟩
  have hactual : observationPhonemes observation ≠ [] := by
    have hlength := referencePhonemes_length_of_le hp
    rw [hheard]
    exact List.length_pos_iff.mp (by omega)
  have hnonempty : index.symbols ≠ [] := List.length_pos_iff.mp (by omega)
  have hevaluated := evaluateObservation_eq index hvalid cursorSymbol committedSymbol
  rw [if_neg (by simp [hactual, hnonempty])] at hevaluated
  have hsymbol := List.getElem?_eq_getElem (l := index.symbols) (i := p) (by omega)
  have hscores : ∀ q ∈ retrieveCandidatePositions index (observationPhonemes observation)
      (min cursorSymbol (index.symbols.length - 1) : ℕ) false, ∀ symbol,
      index.symbols[q]? = some symbol →
        (candidateAt index (observationPhonemes observation)
          (min cursorSymbol (index.symbols.length - 1)) committedSymbol q symbol.location).score
            < 72 / 100 := by
    intro q hq symbol hs
    refine hlow _ hevaluated q ?_ _ (evaluatedCandidates_get.mpr ⟨Or.inl hq, symbol, hs, rfl⟩)
    rwa [retrieveCandidatePositions_local, Int.toNat_natCast] at hq
  obtain ⟨best, hbest, hle⟩ := score_le_best hactual hnonempty (evaluatedCandidates_get.mpr
    ⟨Or.inr ⟨hscores, hretrieved _⟩, _, hsymbol, rfl⟩)
  have hsound := locate_sound hbest
  obtain ⟨m, -, -, halign⟩ := hsound.span
  refine ⟨_, best, locateObservation_eq index hvalid cursorSymbol committedSymbol, hbest,
    le_antisymm ?_ ?_⟩
  · rw [hsound.score, halign]
    exact (editPath_score_mem _ _).2.2
  · rw [hheard, candidateAt_passage hp hL _ committedSymbol hsymbol] at hle
    exact hle

/-- A corpus of eight words, the first in an ayah of its own: from its first symbol only the three
next ones are local besides it. -/
def twoAyahs : JsValue :=
  corpusAt (fun i => if i = 0 then wordAddress 1 1 else wordAddress 2 i) 8

lemma twoAyahs_indexed : (indexCorpus twoAyahs).toOption.isSome = true := by
  decide +kernel

/-- The last two phonemes of the two ayahs. -/
def farObservation : JsValue := sampleObservation "far" 1 true ["p6", "p7"]

lemma farObservation_accepted : (validateObservation farObservation).toOption.isSome = true := by
  decide +kernel

/-- Every local position scores low. -/
lemma farObservation_low :
    (evaluateObservation (result _ twoAyahs_indexed) farObservation 0 0).toOption.all
      (fun evaluated => (localPositions (result _ twoAyahs_indexed) 0).items.all fun q =>
        (evaluated.get q).all fun candidate => decide (candidate.score < 72 / 100)) = true := by
  decide +kernel

/-- The end of the second ayah is found from the first symbol, where it is not local. -/
theorem exact_recall_heard :
    6 ∉ (localPositions (result _ twoAyahs_indexed) 0).items ∧
    6 ∈ retrieveCandidatePositions (result _ twoAyahs_indexed)
      (observationPhonemes (result _ farObservation_accepted)) 0 true ∧
    ∃ located best, locateObservation (result _ twoAyahs_indexed) farObservation 0 0 = .ok located ∧
      located.best = some best ∧ best.score = 1 := by
  obtain ⟨hretrieved, hfound⟩ := exact_recall (p := 6) (L := 2) (eq_ok_result twoAyahs_indexed)
    (eq_ok_result farObservation_accepted) (by decide) (by decide +kernel) (by decide +kernel)
    (by decide +kernel)
  refine ⟨by decide +kernel, hretrieved 0, hfound 0 0 fun evaluated heq q hq candidate hget => ?_⟩
  have hlow := farObservation_low
  rw [heq] at hlow
  have hscore := List.all_eq_true.mp hlow q hq
  rw [hget] at hscore
  exact of_decide_eq_true hscore

end Qaraa
