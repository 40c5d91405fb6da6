import Qaraa.Core.EditScript
import Qaraa.Library.Levenshtein

/-!
The edit path is optimal.

* `editDistance_eq_levenshtein`: taking the diagonal on equal phonemes without a look at
  the other two moves still computes the Levenshtein distance.
* `BacktraceLoop`: the loop that reads the path back, as a relation that holds only where
  the loop ends, stays in the table and counts no index below zero.
* `alignPhonemes_optimal`: **a well-formed edit script with the fewest edits**.
-/

namespace Qaraa

open Levenshtein

variable {actual reference : List String}

/-! ### The distance -/

lemma reverse_take_succ {l : List String} {i : ℕ} {x : String} (h : l[i]? = some x) :
    (l.take (i + 1)).reverse = x :: (l.take i).reverse := by
  rw [List.take_add_one, h, List.reverse_append]
  rfl

/-- The recurrence of the table computes the Levenshtein distance of two prefixes. -/
lemma editDistance_take (i j : ℕ) (hi : i ≤ actual.length) (hj : j ≤ reference.length) :
    editDistance actual reference i j
      = levenshtein (actual.take i).reverse (reference.take j).reverse := by
  induction i generalizing j with
  | zero =>
      rw [editDistance_zero_left, List.take_zero, List.reverse_nil, levenshtein_nil_left]
      simp [hj]
  | succ i ihrow =>
      induction j with
      | zero =>
          rw [editDistance_zero_right, List.take_zero, List.reverse_nil, levenshtein_nil_right]
          simp [hi]
      | succ j ihcell =>
          have hx := List.getElem?_eq_getElem (l := actual) (i := i) (by omega)
          have hy := List.getElem?_eq_getElem (l := reference) (i := j) (by omega)
          have hdiagonal := ihrow j (by omega) (by omega)
          have habove := ihrow (j + 1) (by omega) hj
          have hleft := ihcell (by omega)
          rw [reverse_take_succ hy] at habove
          rw [reverse_take_succ hx] at hleft
          rw [reverse_take_succ hx, reverse_take_succ hy]
          by_cases heq : actual[i]? = reference[j]?
          · rw [editDistance_of_eq heq, hdiagonal]
            rw [hx, hy, Option.some_inj] at heq
            rw [heq, levenshtein_cons_self]
          · rw [editDistance_of_ne heq, hdiagonal, habove, hleft]
            rw [hx, hy, Option.some_inj] at heq
            rw [levenshtein_cons_of_ne heq]
            omega

/-- **The table ends with the Levenshtein distance.** -/
lemma editDistance_eq_levenshtein (actual reference : List String) :
    editDistance actual reference actual.length reference.length
      = levenshtein actual reference := by
  rw [editDistance_take _ _ le_rfl le_rfl, List.take_length, List.take_length,
    levenshtein_reverse]

/-- No script has fewer edits than the distance. -/
lemma EditScript.editDistance_le {i j : ℕ} {ops : List AlignmentOperation}
    (h : EditScript actual reference i j ops) :
    editDistance actual reference i j ≤ countEdits ops := by
  have hstep : ∀ {i j : ℕ}, i ≤ actual.length → j ≤ reference.length →
      (i < actual.length →
        editDistance actual reference (i + 1) j ≤ editDistance actual reference i j + 1) ∧
      (j < reference.length →
        editDistance actual reference i (j + 1) ≤ editDistance actual reference i j + 1) := by
    intro i j hi hj
    rw [editDistance_take i j hi hj]
    refine ⟨fun hlt => ?_, fun hlt => ?_⟩
    · rw [editDistance_take (i + 1) j hlt hj,
        reverse_take_succ (List.getElem?_eq_getElem hlt)]
      exact levenshtein_cons_left_le _ _ _
    · rw [editDistance_take i (j + 1) hi hlt,
        reverse_take_succ (List.getElem?_eq_getElem hlt)]
      exact levenshtein_cons_right_le _ _ _
  have hbounds : ∀ {i j : ℕ} {ops : List AlignmentOperation},
      EditScript actual reference i j ops → i ≤ actual.length ∧ j ≤ reference.length := by
    intro i j ops h
    induction h with
    | nil => exact ⟨Nat.zero_le _, Nat.zero_le _⟩
    | matched _ hi hj _ _ => exact ⟨hi, hj⟩
    | substitution _ hi hj _ _ => exact ⟨hi, hj⟩
    | deletion _ hj ih => exact ⟨ih.1, hj⟩
    | insertion _ hi ih => exact ⟨hi, ih.2⟩
  induction h with
  | nil =>
      rw [editDistance]
      exact Nat.zero_le _
  | matched h hi hj heq ih =>
      rw [editDistance_of_eq heq, countEdits_snoc]
      exact ih
  | @substitution i j ops h hi hj hne ih =>
      rw [editDistance_of_ne hne, countEdits_snoc]
      have hone : (if (AlignmentOperation.substitution i j).isMatch then 0 else 1) = 1 := rfl
      omega
  | @deletion i j ops h hj ih =>
      have hle := (hstep (hbounds h).1 (hbounds h).2).2 hj
      rw [countEdits_snoc]
      have hone : (if (AlignmentOperation.deletion j).isMatch then 0 else 1) = 1 := rfl
      omega
  | @insertion i j ops h hi ih =>
      have hle := (hstep (hbounds h).1 (hbounds h).2).1 hi
      rw [countEdits_snoc]
      have hone : (if (AlignmentOperation.insertion i).isMatch then 0 else 1) = 1 := rfl
      omega

/-! ### The loop -/

/-- The rounds of `while (actualIndex > 0 || referenceIndex > 0)` from two indexes on, each
reading a direction that is in the table and lowering only positive indexes, until both
are zero. -/
inductive BacktraceLoop (directions : List ℕ) (rowWidth : ℕ) :
    ℕ → ℕ → List AlignmentOperation → List AlignmentOperation → Prop where
  | done (reversed : List AlignmentOperation) :
      BacktraceLoop directions rowWidth 0 0 reversed reversed
  | matched {i j : ℕ} {reversed result : List AlignmentOperation}
      (hread : directions[(i + 1) * rowWidth + (j + 1)]? = some MATCH)
      (h : BacktraceLoop directions rowWidth i j (reversed ++ [.matched i j]) result) :
      BacktraceLoop directions rowWidth (i + 1) (j + 1) reversed result
  | substitution {i j : ℕ} {reversed result : List AlignmentOperation}
      (hread : directions[(i + 1) * rowWidth + (j + 1)]? = some SUBSTITUTION)
      (h : BacktraceLoop directions rowWidth i j (reversed ++ [.substitution i j]) result) :
      BacktraceLoop directions rowWidth (i + 1) (j + 1) reversed result
  | deletion {i j : ℕ} {reversed result : List AlignmentOperation}
      (hread : directions[i * rowWidth + (j + 1)]? = some DELETION)
      (h : BacktraceLoop directions rowWidth i j (reversed ++ [.deletion j]) result) :
      BacktraceLoop directions rowWidth i (j + 1) reversed result
  | insertion {i j d : ℕ} {reversed result : List AlignmentOperation}
      (hread : directions[(i + 1) * rowWidth + j]? = some d)
      (hother : d ≠ MATCH ∧ d ≠ SUBSTITUTION ∧ d ≠ DELETION)
      (h : BacktraceLoop directions rowWidth i j (reversed ++ [.insertion i]) result) :
      BacktraceLoop directions rowWidth (i + 1) j reversed result

lemma TableHolds.direction_read {table : AlignmentTable}
    (h : TableHolds actual reference actual.length table) {i j : ℕ} (hi : i ≤ actual.length)
    (hj : j ≤ reference.length) (hpos : 0 < i ∨ 0 < j) :
    table.directions[i * (reference.length + 1) + j]? = some (direction actual reference i j) := by
  have hread := h.direction_eq hi hj hpos
  have hlt : i * (reference.length + 1) + j < table.directions.length :=
    lt_of_lt_of_le (offset_lt hi hj) h.directions_length
  rw [List.getD_eq_getElem?_getD, List.getElem?_eq_getElem hlt, Option.getD_some] at hread
  rw [List.getElem?_eq_getElem hlt, hread]

/-- The loop over the finished table ends with the script. -/
lemma TableHolds.backtraceLoop {table : AlignmentTable}
    (h : TableHolds actual reference actual.length table) (i j : ℕ) (hi : i ≤ actual.length)
    (hj : j ≤ reference.length) (reversed : List AlignmentOperation) :
    BacktraceLoop table.directions (reference.length + 1) i j reversed
      (reversed ++ (tracePath actual reference i j).reverse) := by
  induction i, j using tracePath.induct actual reference generalizing reversed with
  | case1 =>
      rw [tracePath, List.reverse_nil, List.append_nil]
      exact .done reversed
  | case2 j ih =>
      have hread := h.direction_read (Nat.zero_le _) hj (Or.inr (Nat.succ_pos j))
      rw [direction] at hread
      have hrest := ih (Nat.zero_le _) (by omega) (reversed ++ [.deletion j])
      rw [List.append_assoc] at hrest
      rw [tracePath, List.reverse_append]
      exact .deletion hread hrest
  | case3 i ih =>
      have hread := h.direction_read hi (Nat.zero_le _) (Or.inl (Nat.succ_pos i))
      rw [direction] at hread
      have hrest := ih (by omega) (Nat.zero_le _) (reversed ++ [.insertion i])
      rw [List.append_assoc] at hrest
      rw [tracePath, List.reverse_append]
      exact .insertion hread (by decide) hrest
  | case4 i j hm ih =>
      have hread := h.direction_read hi hj (Or.inl (Nat.succ_pos i))
      rw [hm] at hread
      have hrest := ih (by omega) (by omega) (reversed ++ [.matched i j])
      rw [List.append_assoc] at hrest
      rw [tracePath, if_pos hm, List.reverse_append]
      exact .matched hread hrest
  | case5 i j hm hs ih =>
      have hread := h.direction_read hi hj (Or.inl (Nat.succ_pos i))
      rw [hs] at hread
      have hrest := ih (by omega) (by omega) (reversed ++ [.substitution i j])
      rw [List.append_assoc] at hrest
      rw [tracePath, if_neg hm, if_pos hs, List.reverse_append]
      exact .substitution hread hrest
  | case6 i j hm hs hd ih =>
      have hread := h.direction_read hi hj (Or.inl (Nat.succ_pos i))
      rw [hd] at hread
      have hrest := ih hi (by omega) (reversed ++ [.deletion j])
      rw [List.append_assoc] at hrest
      rw [tracePath, if_neg hm, if_neg hs, if_pos hd, List.reverse_append]
      exact .deletion hread hrest
  | case7 i j hm hs hd ih =>
      have hread := h.direction_read hi hj (Or.inl (Nat.succ_pos i))
      have hrest := ih (by omega) hj (reversed ++ [.insertion i])
      rw [List.append_assoc] at hrest
      rw [tracePath, if_neg hm, if_neg hs, if_neg hd, List.reverse_append]
      exact .insertion hread ⟨hm, hs, hd⟩ hrest

/-- What pairs an observed with a reference phoneme. -/
lemma EditScript.pairs {i j : ℕ} {ops : List AlignmentOperation}
    (h : EditScript actual reference i j ops) {operation : AlignmentOperation}
    (hmem : operation ∈ ops) {a r : ℕ} (ha : operation.actualIndex = some a)
    (hr : operation.referenceIndex = some r) :
    if actual[a]? = reference[r]? then operation = .matched a r
    else operation = .substitution a r := by
  cases operation with
  | matched a' r' =>
      cases ha
      cases hr
      rw [if_pos (h.of_matched hmem).2.2.2.2]
  | substitution a' r' =>
      cases ha
      cases hr
      rw [if_neg (h.of_substitution hmem).2.2.2.2]
  | insertion a' => cases hr
  | deletion r' => cases ha

/-- The score of a path is a share. -/
lemma editPath_score_mem (actual reference : List String) :
    (editPath actual reference).score
        = (if max actual.length reference.length = 0 then 1
          else 1 - ((editPath actual reference).editCount : ℚ)
            / (max actual.length reference.length : ℕ)) ∧
      0 ≤ (editPath actual reference).score ∧ (editPath actual reference).score ≤ 1 := by
  obtain ⟨distance, hdistance⟩ : ∃ distance, distance = (editPath actual reference).editCount :=
    ⟨_, rfl⟩
  obtain ⟨normalizer, hnormalizer⟩ : ∃ normalizer,
      normalizer = max actual.length reference.length := ⟨_, rfl⟩
  have hle : distance ≤ normalizer := by
    calc distance
        = editDistance actual reference actual.length reference.length :=
          hdistance.trans (countEdits_tracePath actual reference _ _)
      _ = levenshtein actual reference := editDistance_eq_levenshtein actual reference
      _ ≤ max actual.length reference.length := levenshtein_le_max actual reference
      _ = normalizer := hnormalizer.symm
  have hscore : (editPath actual reference).score
      = if normalizer = 0 then 1 else ((normalizer : ℚ) - distance) / normalizer := by
    rw [hdistance, hnormalizer]
    rfl
  rw [hscore, ← hdistance, ← hnormalizer]
  by_cases hzero : normalizer = 0
  · rw [if_pos hzero, if_pos hzero]
    exact ⟨rfl, zero_le_one, le_rfl⟩
  · have hpos : (0 : ℚ) < normalizer := by exact_mod_cast Nat.pos_of_ne_zero hzero
    have hbound : (distance : ℚ) ≤ normalizer := by exact_mod_cast hle
    have hnonneg : (0 : ℚ) ≤ distance := Nat.cast_nonneg _
    rw [if_neg hzero, if_neg hzero]
    refine ⟨by rw [sub_div, div_self hpos.ne'], div_nonneg (by linarith) hpos.le, ?_⟩
    rw [div_le_one hpos]
    linarith

/-- **The alignment is a well-formed edit script with the fewest edits**: its edits are as
many as the Levenshtein distance, which no sequence of single-element edits undercuts; its
indexes run through both sequences; what pairs two phonemes is a match exactly when they
are equal; and the loop that reads it back ends without leaving the table. -/
theorem alignPhonemes_optimal (actual reference : List String) :
    ∃ path, alignPhonemes actual reference = .ok path ∧
      (path.editCount = levenshtein actual reference ∧
        IsLeast {n | Edits n actual reference} path.editCount ∧
        ∀ ops, EditScript actual reference actual.length reference.length ops →
          path.editCount ≤ countEdits ops) ∧
      (path.operations.filterMap AlignmentOperation.actualIndex = List.range actual.length ∧
        path.operations.filterMap AlignmentOperation.referenceIndex
          = List.range reference.length) ∧
      (∀ operation ∈ path.operations, ∀ a r, operation.actualIndex = some a →
        operation.referenceIndex = some r →
          if actual[a]? = reference[r]? then operation = .matched a r
          else operation = .substitution a r) ∧
      path.editCount = (path.operations.filter fun operation => !operation.isMatch).length ∧
      (path.score = (if max actual.length reference.length = 0 then 1
          else 1 - (path.editCount : ℚ) / (max actual.length reference.length : ℕ)) ∧
        0 ≤ path.score ∧ path.score ≤ 1) ∧
      let workspace := createAlignmentWorkspace actual.length reference.length
      BacktraceLoop
        (fillTable actual reference
          ⟨workspace.directions, workspace.firstRow, workspace.secondRow⟩).directions
        (reference.length + 1) actual.length reference.length [] path.operations.reverse := by
  have hscript := editPath_editScript actual reference
  have hdistance : (editPath actual reference).editCount = levenshtein actual reference :=
    (countEdits_tracePath actual reference _ _).trans (editDistance_eq_levenshtein _ _)
  have hfits := createAlignmentWorkspace_fits actual.length reference.length
  obtain ⟨after, halign, -⟩ : ∃ after, alignPhonemesWithWorkspace actual reference
      (createAlignmentWorkspace actual.length reference.length)
        = .ok (editPath actual reference, after) ∧ after.Fits actual.length reference.length :=
    alignPhonemesWithWorkspace_eq hfits le_rfl le_rfl
  refine ⟨editPath actual reference, ?_, ⟨hdistance, ?_, fun ops hops => ?_⟩,
    ⟨hscript.actualIndexes, hscript.referenceIndexes⟩,
    fun operation hmem a r ha hr => hscript.pairs hmem ha hr, ?_, editPath_score_mem _ _, ?_⟩
  · rw [alignPhonemes, halign]
    rfl
  · rw [hdistance]
    exact levenshtein_isLeast actual reference
  · rw [hdistance, ← editDistance_eq_levenshtein]
    exact hops.editDistance_le
  · exact List.countP_eq_length_filter
  · have hsized := hfits.sized
    have htable : TableHolds actual reference actual.length (fillTable actual reference
        ⟨(createAlignmentWorkspace actual.length reference.length).directions,
          (createAlignmentWorkspace actual.length reference.length).firstRow,
          (createAlignmentWorkspace actual.length reference.length).secondRow⟩) :=
      fillTable_holds _ (by rw [hsized.directions]; exact le_rfl)
        (by rw [hsized.firstRow]; exact le_rfl) (by rw [hsized.secondRow]; exact le_rfl)
    have hloop := htable.backtraceLoop actual.length reference.length le_rfl le_rfl []
    rw [List.nil_append] at hloop
    exact hloop

end Qaraa
