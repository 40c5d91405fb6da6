import Qaraa.Core.Ranking
import Qaraa.Core.SampleCorpus
import Qaraa.Core.SpanScores

/-!
An exact recitation of pairwise different phonemes.

* `TouchedUpTo`: the words collected from consecutive positions come in corpus order;
  `commitSupportedWords_exact`: so a final exact candidate completes every word inside.
* `locate_exact`: the exact span is found, and how close the runner-up comes.
* `exact_recitation`: **the reader follows exactly when the recitation is short enough for
  the runner-up to stay outside the margin of the position gate**.
-/

namespace Qaraa

open Fallible Ordered

/-! ### Touched words -/

/-- The ids collected from the positions `[s, k)`: those of the words that hold one of
them, in corpus order. -/
structure TouchedUpTo (config : TrackerConfig) (s k : ℕ) (touched : List String) : Prop where
  words : ∀ id ∈ touched, ∃ w ∈ config.words, w.word.id = id ∧ w.range.start < k
  ordered : touched.Pairwise fun a b => ∀ v ∈ config.words, ∀ w ∈ config.words,
    v.word.id = a → w.word.id = b → v.range.stop ≤ w.range.start
  all : ∀ w ∈ config.words, ∀ i, s ≤ i → i < k → w.range.start ≤ i → i < w.range.stop →
    w.word.id ∈ touched

/-- The word of the next position is known already or comes after all others. -/
lemma TouchedUpTo.add {config : TrackerConfig} (hvalid : ValidConfig config) {s k : ℕ}
    {touched : OrderedSet String} (h : TouchedUpTo config s k touched.items) :
    TouchedUpTo config s (k + 1) (addWordAt config.symbolWordIds touched k).items := by
  have hwords : ∀ id ∈ touched.items, ∃ w ∈ config.words, w.word.id = id ∧
      w.range.start < k + 1 := fun id hid => by
    obtain ⟨w, hw, hwid, hlt⟩ := h.words id hid
    exact ⟨w, hw, hwid, by omega⟩
  by_cases hk : k < config.corpus.symbols.length
  · obtain ⟨w, hw, hstart, hstop⟩ := hvalid.partition.exists_mem (Nat.zero_le k) hk
    have hsame : ∀ v ∈ config.words, v.range.start ≤ k → k < v.range.stop → v = w :=
      fun v hv hvstart hvstop =>
        hvalid.partition.eq_of_mem hv hw ⟨hvstart, hvstop⟩ ⟨hstart, hstop⟩
    rw [addWordAt, hvalid.wordAt w hw k hstart hstop]
    dsimp only
    rw [if_neg (hvalid.wordIds_ne w hw)]
    by_cases hmem : w.word.id ∈ touched.items
    · rw [OrderedSet.items_add, if_pos hmem]
      refine ⟨hwords, h.ordered, fun v hv i hsi hi hvstart hvstop => ?_⟩
      rcases Nat.lt_succ_iff_lt_or_eq.mp hi with hlt | rfl
      · exact h.all v hv i hsi hlt hvstart hvstop
      · rw [hsame v hv hvstart hvstop]
        exact hmem
    · rw [OrderedSet.items_add_of_notMem hmem]
      refine ⟨fun id hid => ?_, ?_, fun v hv i hsi hi hvstart hvstop => ?_⟩
      · rcases List.mem_append.mp hid with hid | hid
        · exact hwords id hid
        · exact ⟨w, hw, (List.mem_singleton.mp hid).symm, by omega⟩
      · refine List.pairwise_append.mpr ⟨h.ordered, List.pairwise_singleton _ _, ?_⟩
        rintro a ha b hb u hu v hv rfl hvid
        rw [List.mem_singleton.mp hb] at hvid
        obtain rfl := hvalid.word_ext hv hw hvid
        obtain ⟨u', hu', huid, hlt⟩ := h.words _ ha
        obtain rfl := hvalid.word_ext hu' hu huid
        rcases hvalid.word_order hu' hw with rfl | hle | hle
        · exact absurd ha hmem
        · exact hle
        · omega
      · rcases Nat.lt_succ_iff_lt_or_eq.mp hi with hlt | rfl
        · exact List.mem_append_left _ (h.all v hv i hsi hlt hvstart hvstop)
        · rw [hsame v hv hvstart hvstop]
          simp
  · rw [addWordAt, hvalid.wordAt_none k (by omega)]
    refine ⟨hwords, h.ordered, fun v hv i hsi hi hvstart hvstop => ?_⟩
    have hbound := (hvalid.partition.mem_bounds hv).2.2
    exact h.all v hv i hsi (by omega) hvstart hvstop

lemma TouchedUpTo.foldl {config : TrackerConfig} (hvalid : ValidConfig config) {s k : ℕ}
    {touched : OrderedSet String} (h : TouchedUpTo config s k touched.items) (count : ℕ) :
    TouchedUpTo config s (k + count)
      ((List.range' k count).foldl (addWordAt config.symbolWordIds) touched).items := by
  induction count generalizing k touched with
  | zero => exact h
  | succ count ih =>
      rw [List.range'_succ, List.foldl_cons, ← Nat.add_assoc, Nat.add_right_comm]
      exact ih (h.add hvalid)

/-- A candidate whose alignment matches the `L` symbols from `s` on. -/
structure ExactCandidate (s L : ℕ) (candidate : AlignmentCandidate) : Prop where
  symbolIndex : candidate.symbolIndex = s
  operations : candidate.alignment.operations = (List.range L).map fun i => .matched i i

namespace ExactCandidate

variable {config : TrackerConfig} {s L : ℕ} {candidate : AlignmentCandidate}

lemma mem_consumedSymbols (h : ExactCandidate s L candidate) {k : ℕ} (hs : s ≤ k)
    (hk : k < s + L) : k ∈ consumedSymbols candidate := by
  refine Qaraa.mem_consumedSymbols.mpr ⟨.matched (k - s) (k - s), ?_, k - s, k - s, rfl, rfl, ?_⟩
  · rw [h.operations]
    exact List.mem_map.mpr ⟨k - s, List.mem_range.mpr (by omega), rfl⟩
  · rw [h.symbolIndex]
    omega

variable (config) in
/-- The last symbol is the active one. -/
lemma activeSymbolOf (h : ExactCandidate s L candidate) (hL : 0 < L)
    (hfit : s + L ≤ config.corpus.symbols.length) :
    activeSymbolOf config candidate = s + L - 1 := by
  have hlast : L - 1 ≤ activeReferenceOffset candidate := by
    have hop : .matched (L - 1) (L - 1) ∈ candidate.alignment.operations := by
      rw [h.operations]
      exact List.mem_map.mpr ⟨L - 1, List.mem_range.mpr (by omega), rfl⟩
    exact le_activeReferenceOffset hop rfl rfl
  have hbound : activeReferenceOffset candidate ≤ L - 1 := by
    refine Loop.foldl_induction (P := fun _ (active : ℕ) => active ≤ L - 1) (Nat.zero_le _) ?_
    intro _ operation active hop hactive
    rw [h.operations] at hop
    obtain ⟨i, hi, rfl⟩ := List.mem_map.mp hop
    have := List.mem_range.mp hi
    show max active i ≤ L - 1
    omega
  rw [Qaraa.activeSymbolOf, h.symbolIndex]
  omega

/-- The touched words are those at the matched symbols and the two after them, in corpus
order. -/
lemma touchedUpTo (h : ExactCandidate s L candidate) (hvalid : ValidConfig config) (hL : 0 < L) :
    TouchedUpTo config s (s + L + PARTIAL_COMMIT_LOOKAHEAD)
      (collectTouchedWordIds candidate config.symbolWordIds) := by
  have hindexes : (candidate.alignment.operations.filterMap
      AlignmentOperation.referenceIndex).map (candidate.symbolIndex + ·) = List.range' s L := by
    rw [h.operations, h.symbolIndex, List.filterMap_map, List.range'_eq_map_range]
    congr 1
    exact List.filterMap_some
  have hmax : (List.range' s L).max? = some (s + L - 1) := by
    rw [List.max?_eq_some_iff]
    refine ⟨List.mem_range'_1.mpr (by omega), fun b hb => ?_⟩
    have := List.mem_range'_1.mp hb
    omega
  have hshift : ∀ touched : OrderedSet String,
      (List.range' 1 PARTIAL_COMMIT_LOOKAHEAD).foldl (fun touched offset =>
        addWordAt config.symbolWordIds touched (s + L - 1 + offset)) touched
      = (List.range' (s + L) PARTIAL_COMMIT_LOOKAHEAD).foldl (addWordAt config.symbolWordIds)
        touched := by
    intro touched
    have hone : s + L - 1 + 1 = s + L := by omega
    have htwo : s + L - 1 + 2 = s + L + 1 := by omega
    simp only [PARTIAL_COMMIT_LOOKAHEAD, List.range'_succ, List.range'_zero, List.foldl_cons,
      List.foldl_nil, Nat.reduceAdd, hone, htwo]
  have hempty : TouchedUpTo config s s (OrderedSet.empty : OrderedSet String).items :=
    ⟨by simp, List.Pairwise.nil, fun _ _ i _ _ => by omega⟩
  rw [collectTouchedWordIds, hindexes, hmax]
  dsimp only
  rw [hshift]
  exact (hempty.foldl hvalid L).foldl hvalid PARTIAL_COMMIT_LOOKAHEAD

/-! ### Completed words -/

lemma mem_completeWord {state : TrackerState}
    (hset : state.completedWordIdSet.items = state.completedWordIds) (ordered : OrderedWord) :
    (state.completeWord ordered).completedWordIdSet.items
        = (state.completeWord ordered).completedWordIds ∧
      (∀ id ∈ state.completedWordIds, id ∈ (state.completeWord ordered).completedWordIds) ∧
      ordered.word.id ∈ (state.completeWord ordered).completedWordIds := by
  rw [TrackerState.completeWord]
  split
  · rename_i hhas
    rw [OrderedSet.has_iff, hset] at hhas
    exact ⟨hset, fun _ hid => hid, hhas⟩
  · rename_i hhas
    rw [OrderedSet.has_iff] at hhas
    dsimp only
    rw [OrderedSet.items_add_of_notMem hhas, hset]
    exact ⟨rfl, fun _ hid => List.mem_append_left _ hid, by simp⟩

/-- **A final exact candidate completes every word inside**: the touched words come in
corpus order, so none is passed before its turn. -/
lemma commitSupportedWords_exact (h : ExactCandidate s L candidate) (hvalid : ValidConfig config)
    (hL : 0 < L) {state : TrackerState} (hcommitted : state.committedSymbol = s)
    (hset : state.completedWordIdSet.items = state.completedWordIds)
    {observation : RecitationObservation} (hfinal : observation.isFinal = true)
    {w : OrderedWord} (hw : w ∈ config.words) (hstart : s ≤ w.range.start)
    (hstop : w.range.stop ≤ s + L) :
    w.word.id ∈ (commitSupportedWords config state candidate observation).completedWordIds := by
  have htouched := h.touchedUpTo hvalid hL
  -- over the touched words visited: the committed symbol stands at the end of one of them, or where
  -- it was
  have hloop := Loop.foldl_induction_split
    (P := fun (visited : List String) (after : TrackerState) =>
      after.completedWordIdSet.items = after.completedWordIds ∧
      (after.committedSymbol = s ∨ ∃ v ∈ config.words, v.word.id ∈ visited ∧
        after.committedSymbol = v.range.stop - 1) ∧
      ∀ v ∈ config.words, v.word.id ∈ visited → s ≤ v.range.start → v.range.stop ≤ s + L →
        v.word.id ∈ after.completedWordIds)
    (f := commitWord config candidate observation.isFinal)
    (l := collectTouchedWordIds candidate config.symbolWordIds) (s := state)
    ⟨hset, Or.inl hcommitted, by simp⟩ ?_
  · have hbounds := hvalid.partition.mem_bounds hw
    exact hloop.2.2 w hw (htouched.all w hw w.range.start hstart (by omega) le_rfl hbounds.2.1)
      hstart hstop
  · rintro visited id rest before hsplit ⟨hbefore, hposition, hdone⟩
    have hordered := htouched.ordered
    rw [hsplit, List.pairwise_append] at hordered
    -- the words visited end before the next one starts
    have hvisited : ∀ v ∈ config.words, v.word.id ∈ visited → ∀ u ∈ config.words,
        u.word.id = id → v.range.stop ≤ u.range.start :=
      fun v hv hvid u hu huid => hordered.2.2 _ hvid id (by simp) v hv u hu rfl huid
    rw [commitWord]
    cases hget : config.orderedWordsById.get id with
    | none =>
        refine ⟨hbefore, ?_, fun v hv hvid => ?_⟩
        · rcases hposition with hposition | ⟨v, hv, hvid, hposition⟩
          · exact Or.inl hposition
          · exact Or.inr ⟨v, hv, by simp [hvid], hposition⟩
        · rcases List.mem_append.mp hvid with hvid | hvid
          · exact hdone v hv hvid
          · have hfound := (hvalid.word_iff id v).mpr ⟨hv, List.mem_singleton.mp hvid⟩
            rw [hget] at hfound
            cases hfound
    | some ordered =>
        obtain ⟨hword, rfl⟩ := (hvalid.word_iff id ordered).mp hget
        have hbounds := (hvalid.partition.mem_bounds hword).2.1
        dsimp only
        split
        · obtain ⟨hset', hkept, hnew⟩ := mem_completeWord hbefore ordered
          refine ⟨hset', ?_, fun v hv hvid hvstart hvstop => ?_⟩
          · rw [completeWord_committedSymbol]
            rcases le_total before.committedSymbol (ordered.range.stop - 1) with hle | hle
            · exact Or.inr ⟨ordered, hword, by simp, max_eq_right hle⟩
            · rw [max_eq_left hle]
              rcases hposition with hposition | ⟨v, hv, hvid, hposition⟩
              · exact Or.inl hposition
              · exact Or.inr ⟨v, hv, by simp [hvid], hposition⟩
          · rcases List.mem_append.mp hvid with hvid | hvid
            · exact hkept _ (hdone v hv hvid hvstart hvstop)
            · rw [List.mem_singleton.mp hvid]
              exact hnew
        · rename_i hunsupported
          refine ⟨hbefore, ?_, fun v hv hvid hvstart hvstop => ?_⟩
          · rcases hposition with hposition | ⟨v, hv, hvid, hposition⟩
            · exact Or.inl hposition
            · exact Or.inr ⟨v, hv, by simp [hvid], hposition⟩
          · rcases List.mem_append.mp hvid with hvid | hvid
            · exact hdone v hv hvid hvstart hvstop
            · -- a word inside is not passed yet and all its symbols are consumed
              obtain rfl := hvalid.word_ext hv hword (List.mem_singleton.mp hvid)
              refine absurd (wordSupported_iff.mpr ⟨⟨?_, ?_⟩, fun k hk hk' => ?_, Or.inl hfinal⟩)
                hunsupported
              · rcases hposition with hposition | ⟨u, hu, huid, hposition⟩
                · omega
                · have hle := hvisited u hu huid v hv rfl
                  have := (hvalid.partition.mem_bounds hu).2.1
                  omega
              · rw [h.symbolIndex]
                exact hvstart
              · exact h.mem_consumedSymbols (by omega) (by omega)

end ExactCandidate

/-! ### The search -/

section

variable {index : IndexedCorpus}

/-- The score at a position is that of the best of its spans. -/
lemma positionScore_spec (actual : List String) {p : ℕ} (hlt : p < index.symbols.length) :
    ∃ m ∈ spanLengths index.symbols.length actual.length p,
      (bestSpan index actual p).alignment = some (spanPath index actual p m) ∧
      positionScore index actual p = (spanPath index actual p m).score ∧
      ∀ m' ∈ spanLengths index.symbols.length actual.length p,
        (spanPath index actual p m').score ≤ positionScore index actual p := by
  obtain ⟨m, hm, halign, hmax⟩ := bestSpan_alignment actual hlt
  have hscore : positionScore index actual p = (spanPath index actual p m).score := by
    rw [positionScore, halign]
    rfl
  exact ⟨m, hm, halign, hscore, fun m' hm' => hscore ▸ hmax m' hm'⟩

lemma mem_spanLengths_bounds {n l p m : ℕ} (h : m ∈ spanLengths n l p) (hp : p < n) :
    0 < m ∧ p + m ≤ n := by
  rw [mem_spanLengths] at h
  omega

lemma mem_spanLengths_of_near {n l p m : ℕ} (hm : 0 < m) (hfit : p + m ≤ n)
    (hlo : l ≤ m + MAX_REFERENCE_LENGTH_VARIATION) (hhi : m ≤ l + MAX_REFERENCE_LENGTH_VARIATION) :
    m ∈ spanLengths n l p := by
  rw [mem_spanLengths]
  omega

/-- **The exact span is found.** The runner-up is a neighbouring position, whose span
differs from the exact one by one phoneme. -/
theorem locate_exact (hvalid : ValidIndex index) (hdistinct : DistinctPhonemes index) {s L : ℕ}
    (hL : 0 < L) (hfit : s + L ≤ index.symbols.length) :
    ∃ candidate, (locate index (referencePhonemes index.symbols s L) s s).best = some candidate ∧
      ExactCandidate s L candidate ∧ candidate.score = 1 ∧ candidate.isReread = false ∧
      ((locate index (referencePhonemes index.symbols s L) s s).secondScore ≤ 92 / 100 ↔
        L ≤ 11 ∨ (s = 0 ∧ L ≤ 12)) := by
  have hlen := referencePhonemes_length_of_le hfit
  have hLq : (0 : ℚ) < L := by exact_mod_cast hL
  obtain ⟨symbol, hs⟩ : ∃ symbol, index.symbols[s]? = some symbol :=
    ⟨_, List.getElem?_eq_getElem (by omega)⟩
  -- the exact span is the only one with score 1
  obtain ⟨m, hm, halign, hscore, hmax⟩ :=
    positionScore_spec (referencePhonemes index.symbols s L)
      (show s < index.symbols.length by omega)
  obtain ⟨hmpos, hmfit⟩ := mem_spanLengths_bounds hm (by omega)
  have hexact := hmax L (mem_spanLengths_of_near hL hfit (by omega) (by omega))
  rw [score_exact hfit hL] at hexact
  have hmL : m = L := by
    by_contra hne
    have := spanPath_score_lt_one hfit hmfit hmpos hne
    rw [← hscore] at this
    exact absurd hexact (not_le.mpr this)
  subst hmL
  rw [score_exact hfit hL] at hscore
  -- all other positions stay below
  have hbefore : ∀ p < index.symbols.length, p < s →
      positionScore index (referencePhonemes index.symbols s m) p ≤ (m : ℚ) / (m + 1 : ℕ) := by
    intro p hp hps
    obtain ⟨k, hk, -, hpscore, -⟩ := positionScore_spec (referencePhonemes index.symbols s m) hp
    obtain ⟨hkpos, hkfit⟩ := mem_spanLengths_bounds hk hp
    rw [hpscore]
    exact hdistinct.score_before hfit hkfit hkpos hL hps
  have hafter : ∀ p < index.symbols.length, s < p →
      positionScore index (referencePhonemes index.symbols s m) p ≤ ((m - 1 : ℕ) : ℚ) / m := by
    intro p hp hsp
    obtain ⟨k, hk, -, hpscore, -⟩ := positionScore_spec (referencePhonemes index.symbols s m) hp
    obtain ⟨hkpos, hkfit⟩ := mem_spanLengths_bounds hk hp
    rw [hpscore]
    exact hdistinct.score_after hfit hkfit hkpos hL hsp
  have hbefore1 : (m : ℚ) / (m + 1 : ℕ) < 1 := by
    rw [div_lt_one (by exact_mod_cast Nat.succ_pos m)]
    exact_mod_cast Nat.lt_succ_self m
  have hafter1 : ((m - 1 : ℕ) : ℚ) / m < 1 := by
    rw [div_lt_one hLq]
    exact_mod_cast (by omega : m - 1 < m)
  -- so the position is best, and the second score is the largest of the others
  obtain ⟨hbest, hbelow, habove⟩ := locate_dominant s hvalid
    (by rw [hlen]; omega) hs fun p hp hne => by
      rw [hscore]
      rcases Nat.lt_or_gt_of_ne hne with hlt | hlt
      · exact lt_of_le_of_lt (hbefore p hp hlt) hbefore1
      · exact lt_of_le_of_lt (hafter p hp hlt) hafter1
  refine ⟨_, hbest, ⟨rfl, ?_⟩, hscore, decide_eq_false (lt_irrefl s), ?_⟩
  · rw [candidateAt, halign]
    show (spanPath index (referencePhonemes index.symbols s m) s m).operations = _
    rw [spanPath, editPath_self, hlen]
  · constructor
    · intro hsecond
      by_contra hlong
      rcases Nat.eq_zero_or_pos s with rfl | hpos
      · -- the next symbol misses the first phoneme
        have hnext := habove 1 (by omega) (Or.inr rfl)
        obtain ⟨k, rfl⟩ : ∃ k, m = k + 1 := ⟨m - 1, by omega⟩
        obtain ⟨-, -, -, -, hspan⟩ := positionScore_spec
          (referencePhonemes index.symbols 0 (k + 1)) (show 1 < index.symbols.length by omega)
        have hk := hspan k (mem_spanLengths_of_near (by omega) (by omega)
          (by rw [hlen, MAX_REFERENCE_LENGTH_VARIATION]; omega) (by rw [hlen]; omega))
        rw [score_ahead hfit (by omega)] at hk
        have hle := le_trans (le_trans hk hnext) hsecond
        rw [div_le_div_iff₀ (by exact_mod_cast Nat.succ_pos k) (by norm_num)] at hle
        have : k * 100 ≤ 92 * (k + 1) := by exact_mod_cast hle
        omega
      · -- the symbol before has one phoneme too many
        obtain ⟨t, rfl⟩ : ∃ t, s = t + 1 := ⟨s - 1, by omega⟩
        have hnext := habove t (by omega) (Or.inl rfl)
        obtain ⟨-, -, -, -, hspan⟩ := positionScore_spec
          (referencePhonemes index.symbols (t + 1) m) (show t < index.symbols.length by omega)
        have hk := hspan (m + 1) (mem_spanLengths_of_near (by omega) (by omega)
          (by rw [hlen]; omega) (by rw [hlen, MAX_REFERENCE_LENGTH_VARIATION]; omega))
        rw [score_behind hfit] at hk
        have hle := le_trans (le_trans hk hnext) hsecond
        rw [div_le_div_iff₀ (by exact_mod_cast Nat.succ_pos m) (by norm_num)] at hle
        have : m * 100 ≤ 92 * (m + 1) := by exact_mod_cast hle
        omega
    -- both bounds are at most 92 / 100 for short recitations
    · intro hshort
      refine hbelow _ (by norm_num) fun p hp hne => ?_
      rcases Nat.lt_or_gt_of_ne hne with hlt | hlt
      · refine le_trans (hbefore p hp hlt) ?_
        rw [div_le_div_iff₀ (by exact_mod_cast Nat.succ_pos m) (by norm_num)]
        exact_mod_cast (by omega : m * 100 ≤ 92 * (m + 1))
      · refine le_trans (hafter p hp hlt) ?_
        rw [div_le_div_iff₀ hLq (by norm_num)]
        exact_mod_cast (by omega : (m - 1) * 100 ≤ 92 * m)

end

/-! ### The reader -/

/-- The position gate passes exactly when the score and its lead over the runner-up reach
the thresholds. -/
lemma passesPositionGate_iff (state : TrackerState) (observation : RecitationObservation)
    (candidate : AlignmentCandidate) (located : Located) :
    passesPositionGate (candidateConfidence state observation candidate located.second) = true ↔
      POSITION_ALIGNMENT_THRESHOLD ≤ candidate.score ∧
        POSITION_MARGIN_THRESHOLD ≤ candidate.score - located.secondScore := by
  have hclamp : ∀ t v : ℚ, 0 < t → t ≤ 1 → (t ≤ clampUnit v ↔ t ≤ v) := by
    intro t v h0 h1
    rw [clampUnit, le_max_iff, le_min_iff, or_iff_right (not_le.mpr h0), and_iff_right h1]
  have halign : (0 : ℚ) < POSITION_ALIGNMENT_THRESHOLD := by norm_num [POSITION_ALIGNMENT_THRESHOLD]
  have halign1 : POSITION_ALIGNMENT_THRESHOLD ≤ 1 := by norm_num [POSITION_ALIGNMENT_THRESHOLD]
  have hmargin : (0 : ℚ) < POSITION_MARGIN_THRESHOLD := by norm_num [POSITION_MARGIN_THRESHOLD]
  have hmargin1 : POSITION_MARGIN_THRESHOLD ≤ 1 := by norm_num [POSITION_MARGIN_THRESHOLD]
  rw [passesPositionGate, Bool.and_eq_true, decide_eq_true_eq, decide_eq_true_eq]
  show POSITION_ALIGNMENT_THRESHOLD ≤ clampUnit candidate.score ∧
    POSITION_MARGIN_THRESHOLD ≤ clampUnit (max 0 (candidate.score - located.secondScore)) ↔ _
  rw [hclamp _ _ halign halign1, hclamp _ _ hmargin hmargin1, le_max_iff,
    or_iff_right (not_le.mpr hmargin)]

/-- The snapshot of a reader that has followed the symbols `[s, s + L)`. -/
structure Followed (index : IndexedCorpus) (s L : ℕ) (snapshot : ReadingSnapshot) : Prop where
  display : index.symbols[s + L - 1]?.map QuranSymbol.location = some snapshot.display.location
  isReread : snapshot.display.isReread = false
  completed : ∀ id range, index.wordSymbolRanges.get id = some range → s ≤ range.start →
    range.stop ≤ s + L → id ∈ snapshot.commit.completedWordIds

/-- A location of a created tracker's first position, and the state that starts there. -/
lemma CreatedTracker.created_eq (tracker : CreatedTracker) {location : QuranLocation}
    (hinitial : tracker.initialLocation = some location) {s : ℕ}
    (hs : symbolIndexAt tracker.index location = .ok s) :
    tracker.created = TrackerState.initial s 0 location := by
  have hcreation := tracker.creation
  have hdefault : tracker.config.defaultInitialLocation = location := by
    rw [createReadingTracker] at hcreation
    cases hfirst : tracker.index.symbols.head? with
    | none => simp [hfirst] at hcreation
    | some first =>
        simp only [hfirst, hinitial, Option.getD_some, bind_eq_ok, pure_eq_ok,
          Prod.mk.injEq] at hcreation
        obtain ⟨_, -, _, -, hconfig, -⟩ := hcreation
        rw [← hconfig]
  obtain ⟨-, hcorpus, -, -, i, hi, hstate⟩ := createReadingTracker_ok tracker.creation
  rw [hdefault] at hi hstate
  have hsame : tracker.config.corpus = tracker.index := hcorpus
  rw [hsame, hs] at hi
  cases hi
  exact hstate

/-- A fresh tracker at symbol `s`, and a final observation of exactly the phonemes of the
`L` symbols from `s` on; all phonemes of the corpus differ. -/
structure ExactRecitation (tracker : CreatedTracker) (s L : ℕ) (value : JsValue) : Prop where
  distinct : DistinctPhonemes tracker.index
  admitted : ∀ symbol ∈ tracker.index.symbols, utf16Length symbol.phoneme ≤ 128
  start : ∃ location, tracker.initialLocation = some location ∧
    symbolIndexAt tracker.index location = .ok s
  pos : 1 ≤ L
  le : L ≤ 128
  fits : s + L ≤ tracker.index.symbols.length
  heard : ∃ observation, validateObservation value = .ok observation ∧
    observation.isFinal = true ∧
    observationPhonemes observation = referencePhonemes tracker.index.symbols s L

/-- The recitation is accepted; the exact candidate decides it, and it passes the position
gate exactly when it is short. -/
lemma ExactRecitation.accepted {tracker : CreatedTracker} {s L : ℕ} {value : JsValue}
    (h : ExactRecitation tracker s L value) : ∃ observation location candidate after,
      tracker.created = TrackerState.initial s 0 location ∧
      symbolIndexAt tracker.index location = .ok s ∧ observation.isFinal = true ∧
      tracker.snapshotAfter [.submit value] = after.snapshot ∧
      Accepted tracker.config tracker.created observation after ∧
      (locatedBy tracker.config tracker.created observation).best = some candidate ∧
      ExactCandidate s L candidate ∧
      (passesPositionGate (candidateConfidence tracker.created observation candidate
        (locatedBy tracker.config tracker.created observation).second) = true ↔
          L ≤ 11 ∨ (s = 0 ∧ L ≤ 12)) := by
  obtain ⟨location, hinitial, hs⟩ := h.start
  obtain ⟨observation, hcheck, hfinal, hexact⟩ := h.heard
  have hcreated := tracker.created_eq hinitial hs
  have hinv := tracker.invariant []
  have hstate : (tracker.run []).state = tracker.created := rfl
  have hnew : ¬Duplicate tracker.created observation := by
    rw [hcreated]
    rintro (hseen | hold)
    · simp [TrackerState.initial, OrderedSet.has] at hseen
    · simp only [TrackerState.initial] at hold
      omega
  obtain ⟨done, hdone⟩ := hinv.completed
  obtain ⟨after, hsubmit, hacc⟩ := submit_accepted tracker.valid hdone
    (locationAt_lt hinv.commit) hcheck hnew
  rw [hstate] at hsubmit hacc
  have hafter : tracker.snapshotAfter [.submit value] = after.snapshot := by
    have hrun := tracker.run_concat [] (.submit value)
    rw [List.nil_append] at hrun
    rw [CreatedTracker.snapshotAfter, hrun, Traced.step, hstate]
    simp only [stepTracker, applyCommand, hsubmit]
  obtain ⟨candidate, hbest, hcandidate, hscore, -, hsecond⟩ :=
    locate_exact (indexCorpus_valid tracker.indexed) h.distinct h.pos h.fits
  have hlocated : locatedBy tracker.config tracker.created observation
      = locate tracker.index (referencePhonemes tracker.index.symbols s L) s s := by
    rw [locatedBy, hexact, tracker.config_corpus, hcreated]
    rfl
  refine ⟨observation, location, candidate, after, hcreated, hs, hfinal, hafter, hacc,
    hlocated ▸ hbest, hcandidate, ?_⟩
  rw [passesPositionGate_iff, hscore, hlocated, ← hsecond, POSITION_ALIGNMENT_THRESHOLD,
    POSITION_MARGIN_THRESHOLD, and_iff_right (by norm_num), le_sub_comm]
  norm_num

/-- A short exact recitation is followed. -/
lemma ExactRecitation.followed {tracker : CreatedTracker} {s L : ℕ} {value : JsValue}
    (h : ExactRecitation tracker s L value) (hshort : L ≤ 11 ∨ (s = 0 ∧ L ≤ 12)) :
    Followed tracker.index s L (tracker.snapshotAfter [.submit value]) := by
  have hL := h.pos
  obtain ⟨observation, location, candidate, after, hcreated, -, hfinal, hafter, hacc, hbest,
    hcandidate, hgate⟩ := h.accepted
  have hactive := hcandidate.activeSymbolOf tracker.config hL
    (tracker.config_corpus ▸ h.fits)
  rw [hafter]
  cases hacc.step with
  | unlocated best =>
      rw [hbest] at best
      cases best
  | held other best gate =>
      rw [hbest] at best
      cases best
      rw [hgate.mpr hshort] at gate
      cases gate
  | advanced other best gate advanced =>
      rw [hbest] at best
      cases best
      refine ⟨?_, ?_, fun id range hrange hstart hstop => ?_⟩
      · have hdisplay := advanced.location
        rw [advanced.cursorSymbol, hactive, tracker.config_corpus] at hdisplay
        obtain ⟨symbol, hsymbol, hlocation⟩ := locationAt_eq_ok_iff.mp hdisplay
        rw [hsymbol]
        exact congrArg some hlocation
      · have hreread := advanced.isReread
        rw [advanced.cursorSymbol, hactive, hcreated] at hreread
        refine hreread.trans (decide_eq_false ?_)
        show ¬s + L - 1 < s
        omega
      · rw [← tracker.config_corpus] at hrange
        obtain ⟨w, hw, rfl, rfl⟩ := (tracker.valid.range_iff _ _).mp hrange
        rw [hacc.completed, show after.completedWordIds = after.progress.state.completedWordIds
          from rfl, ← advanced.commit.completedWordIds]
        exact hcandidate.commitSupportedWords_exact tracker.valid hL (by rw [hcreated]; rfl)
          (by rw [hcreated]; rfl) hfinal hw hstart hstop

/-- A long exact recitation leaves the display at the first symbol. -/
lemma ExactRecitation.not_followed {tracker : CreatedTracker} {s L : ℕ} {value : JsValue}
    (h : ExactRecitation tracker s L value) (hlong : ¬(L ≤ 11 ∨ (s = 0 ∧ L ≤ 12))) :
    ¬Followed tracker.index s L (tracker.snapshotAfter [.submit value]) := by
  obtain ⟨observation, location, candidate, after, hcreated, hs, -, hafter, hacc, hbest, -,
    hgate⟩ := h.accepted
  rw [hafter]
  intro hfollowed
  cases hacc.step with
  | unlocated best =>
      rw [hbest] at best
      cases best
  | held other best gate held =>
      have hdisplay := hfollowed.display
      rw [show after.snapshot.display = tracker.created.snapshot.display from held.display,
        hcreated] at hdisplay
      obtain ⟨symbol, hsymbol, hlocation⟩ := Option.map_eq_some_iff.mp hdisplay
      have hposition := tracker.symbolIndexAt_eq (locationAt_eq_ok_iff.mpr
        ⟨symbol, tracker.config_corpus ▸ hsymbol, hlocation⟩)
      rw [show (TrackerState.initial s 0 location).snapshot.display.location = location from rfl,
        hs] at hposition
      have : s = s + L - 1 := Except.ok.inj hposition
      omega
  | advanced other best gate =>
      rw [hbest] at best
      cases best
      exact hlong (hgate.mp gate)

/-- **An exact recitation advances a fresh reader exactly when it is short enough** for
the position gate to tell the exact span from the neighbouring ones: for at most 11
phonemes, 12 at the start of the corpus. -/
theorem exact_recitation {tracker : CreatedTracker} {s L : ℕ} {value : JsValue}
    (h : ExactRecitation tracker s L value) :
    Followed tracker.index s L (tracker.snapshotAfter [.submit value]) ↔
      L ≤ 11 ∨ (s = 0 ∧ L ≤ 12) := by
  constructor
  · intro hfollowed
    by_contra hlong
    exact h.not_followed hlong hfollowed
  · exact h.followed

/-! ### Recitations of the sample -/

lemma longCorpus_indexed : (indexCorpus (sampleCorpus 13)).toOption.isSome = true := by
  decide +kernel

/-- The index of thirteen symbols. -/
def longIndex : IndexedCorpus := Fallible.result _ longCorpus_indexed

lemma longIndex_created :
    (createReadingTracker ⟨longIndex, some ⟨1, 1, 1, 1⟩, none⟩).toOption.isSome = true := by
  decide +kernel

/-- What a tracker created at the first of thirteen symbols captures. -/
def longCreation : TrackerConfig × TrackerState := Fallible.result _ longIndex_created

/-- The tracker of thirteen symbols, created at the first. -/
def longTracker : CreatedTracker where
  corpus := sampleCorpus 13
  index := longIndex
  initialLocation := some ⟨1, 1, 1, 1⟩
  findingMode := none
  config := longCreation.1
  created := longCreation.2
  indexed := Fallible.eq_ok_result longCorpus_indexed
  creation := Fallible.eq_ok_result longIndex_created

/-- The first `n` symbols of the sample, recited without a mistake. -/
def recitation (n : ℕ) : JsValue :=
  sampleObservation "a" 0 true ((List.range n).map samplePhoneme)

lemma longTracker_exact {n : ℕ} (hpos : 1 ≤ n) (hle : n ≤ 13)
    (h : (validateObservation (recitation n)).toOption.any (fun observation =>
      observation.isFinal && decide (observationPhonemes observation
        = referencePhonemes longIndex.symbols 0 n)) = true) :
    ExactRecitation longTracker 0 n (recitation n) where
  distinct := (by decide +kernel : (longIndex.symbols.map QuranSymbol.phoneme).Nodup)
  admitted := (by decide +kernel : ∀ symbol ∈ longIndex.symbols, utf16Length symbol.phoneme ≤ 128)
  start := ⟨⟨1, 1, 1, 1⟩, rfl, (by decide +kernel : symbolIndexAt longIndex ⟨1, 1, 1, 1⟩ = .ok 0)⟩
  pos := hpos
  le := by omega
  fits := by
    have hlength : longIndex.symbols.length = 13 := by decide +kernel
    show 0 + n ≤ longIndex.symbols.length
    omega
  heard := by
    cases hcheck : validateObservation (recitation n) with
    | error e =>
        rw [hcheck] at h
        simp [Except.toOption] at h
    | ok observation =>
        rw [hcheck] at h
        have hheard : observation.isFinal = true ∧
            observationPhonemes observation = referencePhonemes longIndex.symbols 0 n := by
          simpa [Except.toOption] using h
        exact ⟨observation, rfl, hheard⟩

/-- Five phonemes from the start are followed at once. -/
theorem exact_recitation_five :
    Followed longIndex 0 5 (longTracker.snapshotAfter [.submit (recitation 5)]) :=
  (exact_recitation (longTracker_exact (by omega) (by omega) (by decide +kernel))).mpr
    (Or.inl (by omega))

/-- Thirteen phonemes are too many: not every exact recitation advances the reader. -/
theorem exact_recitation_held : ¬∀ (tracker : CreatedTracker) (s L : ℕ) (value : JsValue),
    ExactRecitation tracker s L value →
      Followed tracker.index s L (tracker.snapshotAfter [.submit value]) := by
  intro h
  have hexact : ExactRecitation longTracker 0 13 (recitation 13) :=
    longTracker_exact (by omega) le_rfl (by decide +kernel)
  exact hexact.not_followed (by omega) (h longTracker 0 13 (recitation 13) hexact)

end Qaraa
