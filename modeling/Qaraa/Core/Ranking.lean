import Mathlib.Data.Prod.Lex
import Qaraa.Core.AyahRanges
import Qaraa.Core.Located

/-!
The ranking of `locateObservation`.

* `compareCandidates_le_zero_iff`: the comparison is the lexicographic order of a key, so
  the sort sorts.
* `locate_dominant`: a position near the cursor that scores higher than every other one is
  found, and the runner-up scores at least as high as every neighbour of it.
-/

namespace Qaraa

open Ordered

/-! ### The order -/

/-- What the ranking compares, the first difference decides. -/
def rankingKey (candidate : AlignmentCandidate) : ℚ ×ₗ ℚ ×ₗ ℕ ×ₗ ℚ ×ₗ ℕ ×ₗ ℕ :=
  toLex (-candidate.score, toLex (-candidate.scoreMargin, toLex (candidate.cursorDistance,
    toLex (-candidate.continuity, toLex (candidate.forwardMovement, candidate.symbolIndex)))))

/-- The comparison is that of the keys. -/
lemma compareCandidates_le_zero_iff {left right : AlignmentCandidate} :
    compareCandidates left right ≤ 0 ↔ rankingKey left ≤ rankingKey right := by
  have hdiff : ∀ {a b : ℚ}, a ≠ b → (b - a ≤ 0 ↔ -a < -b) := by
    intro a b hne
    rw [sub_nonpos, neg_lt_neg_iff, lt_iff_le_and_ne, and_iff_left (Ne.symm hne)]
  have hcast : ∀ {a b : ℕ}, a ≠ b → ((a : ℚ) - b ≤ 0 ↔ a < b) := by
    intro a b hne
    rw [sub_nonpos, Nat.cast_le, lt_iff_le_and_ne, and_iff_left hne]
  simp only [rankingKey, Prod.Lex.toLex_le_toLex, neg_inj, compareCandidates]
  by_cases hscore : left.score = right.score
  · rw [if_neg (not_not_intro hscore)]
    by_cases hmargin : left.scoreMargin = right.scoreMargin
    · rw [if_neg (not_not_intro hmargin)]
      by_cases hdistance : left.cursorDistance = right.cursorDistance
      · rw [if_neg (not_not_intro hdistance)]
        by_cases hcontinuity : left.continuity = right.continuity
        · rw [if_neg (not_not_intro hcontinuity)]
          by_cases hforward : left.forwardMovement = right.forwardMovement
          · simp [hscore, hmargin, hdistance, hcontinuity, hforward]
          · rw [if_pos hforward, hcast hforward]
            simp [hscore, hmargin, hdistance, hcontinuity, hforward]
        · rw [if_pos hcontinuity, hdiff hcontinuity]
          simp [hscore, hmargin, hdistance, hcontinuity]
      · rw [if_pos hdistance, hcast hdistance]
        simp [hscore, hmargin, hdistance]
    · rw [if_pos hmargin, hdiff hmargin]
      simp [hscore, hmargin]
  · rw [if_pos hscore, hdiff hscore]
    simp [hscore]

/-- The score decides first. -/
lemma score_le_of_compareCandidates {left right : AlignmentCandidate}
    (h : compareCandidates left right ≤ 0) : right.score ≤ left.score := by
  rw [compareCandidates_le_zero_iff, rankingKey, rankingKey, Prod.Lex.toLex_le_toLex] at h
  rcases h with h | ⟨h, -⟩
  · exact le_of_lt (neg_lt_neg_iff.mp h)
  · exact le_of_eq (neg_inj.mp h).symm

/-! ### The ranked candidates -/

section

variable {index : IndexedCorpus} {actual : List String} {cursorSymbol committedSymbol : ℕ}

variable (index actual) in
/-- The score of the best span at a position. -/
def positionScore (symbolIndex : ℕ) : ℚ :=
  ((bestSpan index actual symbolIndex).alignment.getD (editPath actual [])).score

lemma candidateAt_score (cursorSymbol committedSymbol symbolIndex : ℕ)
    (location : QuranLocation) :
    (candidateAt index actual cursorSymbol committedSymbol symbolIndex location).score
      = positionScore index actual symbolIndex := rfl

variable (index actual cursorSymbol committedSymbol) in
/-- Higher scores come first. -/
lemma rankedCandidates_pairwise : (rankedCandidates index actual cursorSymbol
    committedSymbol).Pairwise fun left right => right.score ≤ left.score := by
  have : Std.Total fun left right : AlignmentCandidate => compareCandidates left right ≤ 0 :=
    ⟨fun left right => by
      rw [compareCandidates_le_zero_iff, compareCandidates_le_zero_iff]
      exact le_total _ _⟩
  have : IsTrans AlignmentCandidate fun left right => compareCandidates left right ≤ 0 :=
    ⟨fun left mid right hleft hright => by
      rw [compareCandidates_le_zero_iff] at hleft hright ⊢
      exact le_trans hleft hright⟩
  exact (List.pairwise_insertionSort _ _).imp score_le_of_compareCandidates

/-- A map that stores under each position its own candidate. -/
def StoresCandidates (index : IndexedCorpus) (actual : List String)
    (cursorSymbol committedSymbol : ℕ) (evaluated : OrderedMap ℕ AlignmentCandidate) : Prop :=
  ∀ p candidate, evaluated.get p = some candidate → ∃ symbol, index.symbols[p]? = some symbol ∧
    candidate = candidateAt index actual cursorSymbol committedSymbol p symbol.location

lemma StoresCandidates.evaluateAll {evaluated : OrderedMap ℕ AlignmentCandidate}
    (h : StoresCandidates index actual cursorSymbol committedSymbol evaluated)
    (positions : List ℕ) : StoresCandidates index actual cursorSymbol committedSymbol
      (evaluateAll index actual cursorSymbol committedSymbol positions evaluated) := by
  intro p candidate hget
  rcases evaluateAll_get.mp hget with hget | ⟨-, -, hfound⟩
  · exact h p candidate hget
  · exact hfound

variable (index actual cursorSymbol committedSymbol) in
/-- The ranking orders the candidates of a map that holds those of the local positions. -/
lemma rankedCandidates_eq : ∃ evaluated : OrderedMap ℕ AlignmentCandidate,
    rankedCandidates index actual cursorSymbol committedSymbol
      = evaluated.values.insertionSort (fun left right => compareCandidates left right ≤ 0) ∧
    StoresCandidates index actual cursorSymbol committedSymbol evaluated ∧
    ∀ p ∈ (localPositions index cursorSymbol).items, ∀ symbol,
      index.symbols[p]? = some symbol → evaluated.get p
        = some (candidateAt index actual cursorSymbol committedSymbol p symbol.location) := by
  have hstores : StoresCandidates index actual cursorSymbol committedSymbol .empty := by
    intro p candidate hget
    rw [OrderedMap.get_empty] at hget
    cases hget
  have hlocal : ∀ p ∈ (localPositions index cursorSymbol).items, ∀ symbol,
      index.symbols[p]? = some symbol →
      (evaluateAll index actual cursorSymbol committedSymbol
        (retrieveCandidatePositions index actual cursorSymbol false) .empty).get p
        = some (candidateAt index actual cursorSymbol committedSymbol p symbol.location) := by
    intro p hp symbol hs
    have hretrieved : p ∈ retrieveCandidatePositions index actual cursorSymbol false := by
      rw [retrieveCandidatePositions_local, Int.toNat_natCast]
      exact hp
    exact evaluateAll_get.mpr (Or.inr ⟨OrderedMap.get_empty p, hretrieved, symbol, hs, rfl⟩)
  rw [rankedCandidates]
  split
  · exact ⟨_, rfl, (hstores.evaluateAll _).evaluateAll _,
      fun p hp symbol hs => evaluateAll_get.mpr (Or.inl (hlocal p hp symbol hs))⟩
  · exact ⟨_, rfl, hstores.evaluateAll _, hlocal⟩

variable (index actual cursorSymbol committedSymbol) in
/-- No position is ranked twice. -/
lemma rankedCandidates_nodup : ((rankedCandidates index actual cursorSymbol
    committedSymbol).map AlignmentCandidate.symbolIndex).Nodup := by
  obtain ⟨evaluated, heq, hstores, -⟩ :=
    rankedCandidates_eq index actual cursorSymbol committedSymbol
  have hkeys : evaluated.values.map AlignmentCandidate.symbolIndex
      = evaluated.entries.map Prod.fst := by
    rw [OrderedMap.values, List.map_map]
    refine List.map_congr_left fun entry hentry => ?_
    obtain ⟨symbol, -, hcandidate⟩ := hstores entry.1 entry.2
      (OrderedMap.get_eq_some_iff.mpr hentry)
    show entry.2.symbolIndex = entry.1
    rw [hcandidate]
    rfl
  rw [heq, ((List.perm_insertionSort _ evaluated.values).map
    AlignmentCandidate.symbolIndex).nodup_iff, hkeys]
  exact evaluated.nodup

variable (actual committedSymbol) in
/-- The candidate of a local position is ranked. -/
lemma mem_rankedCandidates {p : ℕ} (hp : p ∈ (localPositions index cursorSymbol).items)
    {symbol : QuranSymbol} (hs : index.symbols[p]? = some symbol) :
    candidateAt index actual cursorSymbol committedSymbol p symbol.location
      ∈ rankedCandidates index actual cursorSymbol committedSymbol := by
  obtain ⟨evaluated, heq, -, hlocal⟩ :=
    rankedCandidates_eq index actual cursorSymbol committedSymbol
  rw [heq, List.mem_insertionSort, OrderedMap.values]
  exact List.mem_map.mpr ⟨_, OrderedMap.get_eq_some_iff.mp (hlocal p hp symbol hs), rfl⟩

/-- The score of a runner-up, `0` when there is none. -/
def Located.secondScore (located : Located) : ℚ :=
  (located.second.map AlignmentCandidate.score).getD 0

variable (committedSymbol) in
/-- **A dominant position is found.** When the cursor's position scores higher than every
other, the search finds it; the runner-up is of another position, and no neighbour of the
cursor scores higher than the runner-up. -/
theorem locate_dominant (hvalid : ValidIndex index) (hne : actual.length ≠ 0) {s : ℕ}
    {symbol : QuranSymbol} (hs : index.symbols[s]? = some symbol)
    (hdominant : ∀ p < index.symbols.length, p ≠ s →
      positionScore index actual p < positionScore index actual s) :
    (locate index actual s committedSymbol).best
        = some (candidateAt index actual s committedSymbol s symbol.location) ∧
      (∀ b, 0 ≤ b → (∀ p < index.symbols.length, p ≠ s → positionScore index actual p ≤ b) →
        (locate index actual s committedSymbol).secondScore ≤ b) ∧
      ∀ p < index.symbols.length, p + 1 = s ∨ p = s + 1 →
        positionScore index actual p ≤ (locate index actual s committedSymbol).secondScore := by
  obtain ⟨hlt, -⟩ := List.getElem?_eq_some_iff.mp hs
  have hclamp : min s (index.symbols.length - 1) = s := by omega
  rw [locate, if_neg (by omega), hclamp]
  have hsorted := rankedCandidates_pairwise index actual s committedSymbol
  have hnodup := rankedCandidates_nodup index actual s committedSymbol
  -- the position and its neighbours are local, so they are ranked
  have hranked : ∀ p < index.symbols.length, p = s ∨ p + 1 = s ∨ p = s + 1 →
      ∃ location, candidateAt index actual s committedSymbol p location
        ∈ rankedCandidates index actual s committedSymbol := fun p hp hnear =>
    ⟨_, mem_rankedCandidates actual committedSymbol (mem_localPositions hvalid hlt hp hnear)
      (List.getElem?_eq_getElem hp)⟩
  have hself := mem_rankedCandidates actual committedSymbol
    (mem_localPositions hvalid hlt hlt (Or.inl rfl)) hs
  have hposition : ∀ candidate ∈ rankedCandidates index actual s committedSymbol,
      ∃ p symbol, index.symbols[p]? = some symbol ∧
        candidate = candidateAt index actual s committedSymbol p symbol.location :=
    fun _ hmem => exists_of_mem_ranked hmem
  generalize rankedCandidates index actual s committedSymbol = ranked
    at hsorted hnodup hranked hself hposition
  cases ranked with
  | nil => simp at hself
  | cons first rest =>
      obtain ⟨hfirst, hrest⟩ := List.pairwise_cons.mp hsorted
      obtain ⟨p, found, hp, rfl⟩ := hposition first (by simp)
      obtain ⟨hplt, -⟩ := List.getElem?_eq_some_iff.mp hp
      -- whatever is ranked first scores at least as high as the position itself
      have hps : p = s := by
        by_contra hneq
        rcases List.mem_cons.mp hself with heq | hmem
        · exact hneq (congrArg AlignmentCandidate.symbolIndex heq).symm
        · exact absurd (hfirst _ hmem) (not_le.mpr (hdominant p hplt hneq))
      subst hps
      rw [hs] at hp
      cases hp
      have hother : ∀ candidate ∈ rest, candidate.symbolIndex ≠ p := by
        intro candidate hmem heq
        have hnot := (List.nodup_cons.mp hnodup).1
        exact hnot (List.mem_map.mpr ⟨candidate, hmem, heq⟩)
      -- the second score is that of another position, and no other is above it
      refine ⟨rfl, fun b hb hbound => ?_, fun q hq hnear => ?_⟩
      · cases rest with
        | nil => exact hb
        | cons second rest =>
            obtain ⟨q, other, hq, rfl⟩ := hposition second (by simp)
            exact hbound q (List.getElem?_eq_some_iff.mp hq).1 (hother _ List.mem_cons_self)
      · obtain ⟨location, hmem⟩ := hranked q hq (Or.inr hnear)
        rcases List.mem_cons.mp hmem with heq | hmem
        · have hqp : q = p := congrArg AlignmentCandidate.symbolIndex heq
          omega
        · cases rest with
          | nil => simp at hmem
          | cons second rest =>
              rcases List.mem_cons.mp hmem with heq | hmem
              · rw [← candidateAt_score p committedSymbol q location, heq]
                exact le_rfl
              · exact (List.pairwise_cons.mp hrest).1 _ hmem

end

end Qaraa
