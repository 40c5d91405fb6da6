import Qaraa.Core.Located

/-!
Scores of edit paths between spans of one sequence of pairwise different phonemes.

* `EditScript.matches_le`: a script matches at most the overlap of two spans.
* `editPath_score_le`: a path with few matches has a low score; `editPath_self`: the path
  of a sequence to itself is all matches.
* `editDistance_cons_left`, `editDistance_cons_right`: a sequence and its tail are one
  edit apart.
-/

namespace Qaraa

variable {actual reference : List String}

/-! ### Matches and scores -/

/-- When equal phonemes stand at least `a` and `b` positions into the sequences, a script
matches none of the first `a` observed and `b` reference phonemes. -/
lemma EditScript.matches_le {i j : ℕ} {ops : List AlignmentOperation}
    (h : EditScript actual reference i j ops) {a b : ℕ}
    (hoffset : ∀ i j, i < actual.length → j < reference.length → actual[i]? = reference[j]? →
      a ≤ i ∧ b ≤ j) :
    ops.countP AlignmentOperation.isMatch ≤ i - a ∧
      ops.countP AlignmentOperation.isMatch ≤ j - b := by
  induction h with
  | nil => simp
  | matched _ hi hj heq ih =>
      have hle := hoffset _ _ hi hj heq
      rw [List.countP_append]
      simp only [List.countP_singleton, AlignmentOperation.isMatch, if_true]
      omega
  | substitution _ _ _ _ ih =>
      rw [List.countP_append]
      simp only [List.countP_singleton, AlignmentOperation.isMatch, Bool.false_eq_true, if_false]
      omega
  | deletion _ _ ih =>
      rw [List.countP_append]
      simp only [List.countP_singleton, AlignmentOperation.isMatch, Bool.false_eq_true, if_false]
      omega
  | insertion _ _ ih =>
      rw [List.countP_append]
      simp only [List.countP_singleton, AlignmentOperation.isMatch, Bool.false_eq_true, if_false]
      omega

/-- The score of a path to a non-empty span. -/
lemma editPath_score (actual : List String) (hpos : 0 < reference.length) :
    (editPath actual reference).score
      = (((max actual.length reference.length : ℕ) : ℚ)
          - editDistance actual reference actual.length reference.length)
        / (max actual.length reference.length : ℕ) := by
  rw [editPath, summarizePath, countEdits_tracePath]
  dsimp only
  rw [if_neg (by omega)]

/-- A path with at most `b` matches keeps at most `b` of the longer sequence. -/
lemma editPath_score_le (hpos : 0 < reference.length) {b : ℕ}
    (hmatches : (editPath actual reference).operations.countP AlignmentOperation.isMatch ≤ b) :
    (editPath actual reference).score ≤ (b : ℚ) / (max actual.length reference.length : ℕ) := by
  have hscript := editPath_editScript actual reference
  have hlength := hscript.max_le_length
  have hcount := EditScript.countEdits_add_matches (editPath actual reference).operations
  have hedits : countEdits (editPath actual reference).operations
      = editDistance actual reference actual.length reference.length :=
    countEdits_tracePath _ _ _ _
  rw [editPath_score actual hpos]
  refine div_le_div_of_nonneg_right ?_ (Nat.cast_nonneg _)
  rw [sub_le_iff_le_add]
  exact_mod_cast (by omega : max actual.length reference.length
    ≤ b + editDistance actual reference actual.length reference.length)

/-! ### One sequence -/

lemma tracePath_self (actual : List String) (k : ℕ) :
    tracePath actual actual k k = (List.range k).map fun i => .matched i i := by
  induction k with
  | zero => rw [tracePath, List.range_zero, List.map_nil]
  | succ k ih =>
      rw [tracePath, if_pos (direction_eq_match_iff.mpr rfl), ih, List.range_succ, List.map_append]
      rfl

lemma editDistance_self (actual : List String) (k : ℕ) : editDistance actual actual k k = 0 := by
  induction k with
  | zero => rw [editDistance]
  | succ k ih => rw [editDistance_of_eq rfl, ih]

/-- The path of a sequence to itself is all matches. -/
lemma editPath_self (actual : List String) :
    (editPath actual actual).operations = (List.range actual.length).map fun i => .matched i i :=
  tracePath_self actual actual.length

/-- A reference with one phoneme in front is one edit away. -/
lemma editDistance_cons_left {k : ℕ} (h : ∀ i < k, actual[i]? = reference[i + 1]?) :
    editDistance actual reference k (k + 1) = 1 := by
  induction k with
  | zero => rw [editDistance]
  | succ k ih => rw [editDistance_of_eq (h k (by omega)), ih fun i hi => h i (by omega)]

/-- A reference without the first phoneme is one edit away. -/
lemma editDistance_cons_right {k : ℕ} (h : ∀ j < k, actual[j + 1]? = reference[j]?) :
    editDistance actual reference (k + 1) k = 1 := by
  induction k with
  | zero => rw [editDistance]
  | succ k ih => rw [editDistance_of_eq (h k (by omega)), ih fun j hj => h j (by omega)]

/-! ### Spans -/

section

variable {index : IndexedCorpus}

lemma referencePhonemes_getElem? (symbols : List QuranSymbol) {start m i : ℕ} (hi : i < m) :
    (referencePhonemes symbols start m)[i]? = symbols[start + i]?.map QuranSymbol.phoneme := by
  rw [referencePhonemes, List.getElem?_map, List.getElem?_take, if_pos hi, List.getElem?_drop]

/-- All phonemes of the corpus differ. -/
def DistinctPhonemes (index : IndexedCorpus) : Prop :=
  (index.symbols.map QuranSymbol.phoneme).Nodup

/-- Equal phonemes of two spans are one symbol. -/
lemma DistinctPhonemes.position_eq (h : DistinctPhonemes index) {s p L m i j : ℕ}
    (hs : s + L ≤ index.symbols.length) (hp : p + m ≤ index.symbols.length)
    (hi : i < (referencePhonemes index.symbols s L).length)
    (hj : j < (referencePhonemes index.symbols p m).length)
    (heq : (referencePhonemes index.symbols s L)[i]? = (referencePhonemes index.symbols p m)[j]?) :
    s + i = p + j := by
  rw [referencePhonemes_length, min_eq_left (by omega)] at hi hj
  rw [referencePhonemes_getElem? _ (by omega), referencePhonemes_getElem? _ (by omega),
    ← List.getElem?_map, ← List.getElem?_map] at heq
  have hlt : s + i < (index.symbols.map QuranSymbol.phoneme).length := by
    rw [List.length_map]
    omega
  exact (List.getElem?_inj hlt h).mp heq

lemma referencePhonemes_length_of_le {s L : ℕ} (hs : s + L ≤ index.symbols.length) :
    (referencePhonemes index.symbols s L).length = L := by
  rw [referencePhonemes_length]
  omega

/-- A span that starts later misses the first phoneme. -/
lemma DistinctPhonemes.score_after (h : DistinctPhonemes index) {s p L m : ℕ}
    (hs : s + L ≤ index.symbols.length) (hp : p + m ≤ index.symbols.length) (hm : 0 < m)
    (hL : 0 < L) (hsp : s < p) :
    (spanPath index (referencePhonemes index.symbols s L) p m).score ≤ ((L - 1 : ℕ) : ℚ) / L := by
  have hlenL := referencePhonemes_length_of_le hs
  have hlenm := referencePhonemes_length_of_le hp
  have hmatches := ((editPath_editScript (referencePhonemes index.symbols s L)
    (referencePhonemes index.symbols p m)).matches_le (a := 1) (b := 0) fun i j hi hj heq =>
      ⟨by have := h.position_eq hs hp hi hj heq; omega, Nat.zero_le _⟩).1
  rw [hlenL] at hmatches
  refine le_trans (editPath_score_le (by omega) hmatches) ?_
  rw [hlenL, hlenm]
  refine div_le_div_of_nonneg_left (Nat.cast_nonneg _) (by exact_mod_cast hL) ?_
  exact_mod_cast le_max_left L m

/-- A span that starts earlier carries one phoneme too many or misses the last one. -/
lemma DistinctPhonemes.score_before (h : DistinctPhonemes index) {s p L m : ℕ}
    (hs : s + L ≤ index.symbols.length) (hp : p + m ≤ index.symbols.length) (hm : 0 < m)
    (hL : 0 < L) (hps : p < s) :
    (spanPath index (referencePhonemes index.symbols s L) p m).score ≤ (L : ℚ) / (L + 1 : ℕ) := by
  have hlenL := referencePhonemes_length_of_le hs
  have hlenm := referencePhonemes_length_of_le hp
  have hmatches := (editPath_editScript (referencePhonemes index.symbols s L)
    (referencePhonemes index.symbols p m)).matches_le (a := 0) (b := 1) fun i j hi hj heq =>
      ⟨Nat.zero_le _, by have := h.position_eq hs hp hi hj heq; omega⟩
  rw [hlenL, hlenm] at hmatches
  by_cases hlong : L < m
  · refine le_trans (editPath_score_le (by omega) (b := L) (by omega)) ?_
    rw [hlenL, hlenm]
    refine div_le_div_of_nonneg_left (Nat.cast_nonneg _) (by exact_mod_cast Nat.succ_pos L) ?_
    exact_mod_cast (by omega : L + 1 ≤ max L m)
  · refine le_trans (editPath_score_le (by omega) (b := L - 1) (by omega)) ?_
    rw [hlenL, hlenm, max_eq_left (by omega)]
    have hLq : (0 : ℚ) < L := by exact_mod_cast hL
    rw [div_le_div_iff₀ hLq (by exact_mod_cast Nat.succ_pos L)]
    exact_mod_cast (by
      obtain ⟨k, rfl⟩ : ∃ k, L = k + 1 := ⟨L - 1, by omega⟩
      rw [Nat.add_sub_cancel]
      nlinarith : (L - 1) * (L + 1) ≤ L * L)

/-- A span of another length at the same position misses or adds a phoneme. -/
lemma spanPath_score_lt_one {s L m : ℕ}
    (hs : s + L ≤ index.symbols.length) (hp : s + m ≤ index.symbols.length) (hm : 0 < m)
    (hne : m ≠ L) : (spanPath index (referencePhonemes index.symbols s L) s m).score < 1 := by
  have hlenL := referencePhonemes_length_of_le hs
  have hlenm := referencePhonemes_length_of_le hp
  have hmatches := (editPath_editScript (referencePhonemes index.symbols s L)
    (referencePhonemes index.symbols s m)).matches_le (a := 0) (b := 0) fun _ _ _ _ _ =>
      ⟨Nat.zero_le _, Nat.zero_le _⟩
  rw [hlenL, hlenm] at hmatches
  refine lt_of_le_of_lt (editPath_score_le (by omega) (b := min L m) (by omega)) ?_
  rw [hlenL, hlenm, div_lt_one (by exact_mod_cast (by omega : 0 < max L m))]
  exact_mod_cast (by omega : min L m < max L m)

/-- The exact span is a full match. -/
lemma score_exact {s L : ℕ} (hs : s + L ≤ index.symbols.length) (hL : 0 < L) :
    (spanPath index (referencePhonemes index.symbols s L) s L).score = 1 := by
  have hlen := referencePhonemes_length_of_le hs
  have hpos : (0 : ℚ) < L := by exact_mod_cast hL
  rw [spanPath, editPath_score _ (by omega), editDistance_self, max_self, hlen, Nat.cast_zero,
    sub_zero, div_self (ne_of_gt hpos)]

/-- The span from the symbol before has one phoneme too many. -/
lemma score_behind {s L : ℕ} (hs : s + 1 + L ≤ index.symbols.length) :
    (spanPath index (referencePhonemes index.symbols (s + 1) L) s (L + 1)).score
      = (L : ℚ) / (L + 1 : ℕ) := by
  have hlenL := referencePhonemes_length_of_le hs
  have hlenm : (referencePhonemes index.symbols s (L + 1)).length = L + 1 :=
    referencePhonemes_length_of_le (by omega)
  have hdist : editDistance (referencePhonemes index.symbols (s + 1) L)
      (referencePhonemes index.symbols s (L + 1)) L (L + 1) = 1 := by
    refine editDistance_cons_left fun i hi => ?_
    rw [referencePhonemes_getElem? _ hi, referencePhonemes_getElem? _ (by omega)]
    congr 2
    omega
  rw [spanPath, editPath_score _ (by omega), hlenL, hlenm, hdist, max_eq_right (by omega)]
  push_cast
  ring

/-- The span from the next symbol misses the first phoneme. -/
lemma score_ahead {s L : ℕ} (hs : s + (L + 1) ≤ index.symbols.length) (hL : 0 < L) :
    (spanPath index (referencePhonemes index.symbols s (L + 1)) (s + 1) L).score
      = (L : ℚ) / (L + 1 : ℕ) := by
  have hlenL := referencePhonemes_length_of_le hs
  have hlenm : (referencePhonemes index.symbols (s + 1) L).length = L :=
    referencePhonemes_length_of_le (by omega)
  have hdist : editDistance (referencePhonemes index.symbols s (L + 1))
      (referencePhonemes index.symbols (s + 1) L) (L + 1) L = 1 := by
    refine editDistance_cons_right fun j hj => ?_
    rw [referencePhonemes_getElem? _ hj, referencePhonemes_getElem? _ (by omega)]
    congr 2
    omega
  rw [spanPath, editPath_score _ (by omega), hlenL, hlenm, hdist, max_eq_left (by omega)]
  push_cast
  ring

end

end Qaraa
