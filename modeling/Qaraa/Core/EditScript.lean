import Qaraa.Core.EditPath

/-!
What the edit path is: the table of `fillTable` holds the edit distances and directions of
all prefixes whatever the workspace held before, and the path read back is the edit script
those directions spell.

* `editDistance`, `direction`, `tracePath`: the distance, the chosen move and the script
  of two prefixes, by recursion on their lengths.
* `TableHolds`: the invariant of the dynamic program, `fillTable_holds` its conclusion;
  only cells written in the same call are read, so stale contents never matter.
* `alignPhonemesWithWorkspace_eq`: within its capacities the call returns `editPath`,
  which does not mention the workspace.
* `EditScript`: the shape of a script (`tracePath_editScript`) and its cost
  (`countEdits_tracePath`).
-/

namespace Qaraa

open Loop

section Script

variable (actual reference : List String)

/-- The edit distance of the first `i` observed and the first `j` reference phonemes, by
the recurrence of the table. -/
def editDistance : ℕ → ℕ → ℕ
  | 0, j => j
  | i + 1, 0 => i + 1
  | i + 1, j + 1 =>
      if actual[i]? = reference[j]? then editDistance i j
      else min (min (editDistance i j + 1) (editDistance (i + 1) j + 1))
        (editDistance i (j + 1) + 1)

/-- The move the table records for two prefixes. -/
def direction : ℕ → ℕ → ℕ
  | 0, _ => DELETION
  | _ + 1, 0 => INSERTION
  | i + 1, j + 1 =>
      if actual[i]? = reference[j]? then MATCH
      else if editDistance actual reference i j + 1 = editDistance actual reference (i + 1) (j + 1)
        then SUBSTITUTION
      else if editDistance actual reference (i + 1) j + 1
          = editDistance actual reference (i + 1) (j + 1) then DELETION
      else INSERTION

/-- The script the moves spell, first operation first. -/
def tracePath : ℕ → ℕ → List AlignmentOperation
  | 0, 0 => []
  | 0, j + 1 => tracePath 0 j ++ [.deletion j]
  | i + 1, 0 => tracePath i 0 ++ [.insertion i]
  | i + 1, j + 1 =>
      if direction actual reference (i + 1) (j + 1) = MATCH then tracePath i j ++ [.matched i j]
      else if direction actual reference (i + 1) (j + 1) = SUBSTITUTION then
        tracePath i j ++ [.substitution i j]
      else if direction actual reference (i + 1) (j + 1) = DELETION then
        tracePath (i + 1) j ++ [.deletion j]
      else tracePath i (j + 1) ++ [.insertion i]

/-- The edit path of two phoneme sequences. -/
def editPath : AlignmentPath :=
  summarizePath actual reference (tracePath actual reference actual.length reference.length)

lemma editDistance_zero_left (j : ℕ) : editDistance actual reference 0 j = j := by
  rw [editDistance]

lemma editDistance_zero_right (i : ℕ) : editDistance actual reference i 0 = i := by
  cases i <;> rw [editDistance]

end Script

variable {actual reference : List String}

lemma editDistance_of_eq {i j : ℕ} (h : actual[i]? = reference[j]?) :
    editDistance actual reference (i + 1) (j + 1) = editDistance actual reference i j := by
  rw [editDistance, if_pos h]

lemma editDistance_of_ne {i j : ℕ} (h : actual[i]? ≠ reference[j]?) :
    editDistance actual reference (i + 1) (j + 1)
      = min (min (editDistance actual reference i j + 1)
          (editDistance actual reference (i + 1) j + 1))
        (editDistance actual reference i (j + 1) + 1) := by
  rw [editDistance, if_neg h]

/-! ### The table -/

/-- The directions below `bound`, in row order, are those of the prefixes. The origin is
never written and never read. -/
def Recorded (actual reference : List String) (bound : ℕ) (directions : List ℕ) : Prop :=
  ∀ k, 0 < k → k < bound → directions[k]?
    = some (direction actual reference (k / (reference.length + 1)) (k % (reference.length + 1)))

/-- The first `count` entries of a row are the distances of the `i`-th row. -/
def RowHolds (actual reference : List String) (i count : ℕ) (row : List ℕ) : Prop :=
  ∀ j < count, row[j]? = some (editDistance actual reference i j)

/-- The invariant of the dynamic program after `i` rows. -/
structure TableHolds (actual reference : List String) (i : ℕ) (table : AlignmentTable) :
    Prop where
  directions_length : (actual.length + 1) * (reference.length + 1) ≤ table.directions.length
  previous_length : reference.length + 1 ≤ table.previous.length
  current_length : reference.length + 1 ≤ table.current.length
  recorded : Recorded actual reference ((i + 1) * (reference.length + 1)) table.directions
  row : RowHolds actual reference i (reference.length + 1) table.previous

/-- The invariant inside the first row, after its cell `j`. -/
structure FirstRowHolds (actual reference : List String) (j : ℕ) (table : AlignmentTable) :
    Prop where
  directions_length : (actual.length + 1) * (reference.length + 1) ≤ table.directions.length
  previous_length : reference.length + 1 ≤ table.previous.length
  current_length : reference.length + 1 ≤ table.current.length
  recorded : Recorded actual reference (j + 1) table.directions
  row : RowHolds actual reference 0 (j + 1) table.previous

/-- The invariant inside the row `i + 1`, after its first `j` cells. -/
structure CellsHold (actual reference : List String) (i j : ℕ) (table : AlignmentTable) :
    Prop where
  directions_length : (actual.length + 1) * (reference.length + 1) ≤ table.directions.length
  previous_length : reference.length + 1 ≤ table.previous.length
  current_length : reference.length + 1 ≤ table.current.length
  recorded : Recorded actual reference ((i + 1) * (reference.length + 1) + (j + 1))
    table.directions
  row : RowHolds actual reference i (reference.length + 1) table.previous
  cells : RowHolds actual reference (i + 1) (j + 1) table.current

lemma Recorded.set {bound d : ℕ} {directions : List ℕ}
    (h : Recorded actual reference bound directions) (hlt : bound < directions.length)
    (hd : d = direction actual reference (bound / (reference.length + 1))
      (bound % (reference.length + 1))) :
    Recorded actual reference (bound + 1) (directions.set bound d) := by
  intro k hk hkb
  by_cases heq : bound = k
  · rw [← heq, List.getElem?_set_self hlt, hd]
  · rw [List.getElem?_set_ne heq]
    exact h k hk (by omega)

lemma RowHolds.set {i count value : ℕ} {row : List ℕ} (h : RowHolds actual reference i count row)
    (hlt : count < row.length) (hv : value = editDistance actual reference i count) :
    RowHolds actual reference i (count + 1) (row.set count value) := by
  intro j hj
  by_cases heq : count = j
  · rw [← heq, List.getElem?_set_self hlt, hv]
  · rw [List.getElem?_set_ne heq]
    exact h j (by omega)

lemma RowHolds.getD {i count j : ℕ} {row : List ℕ} (h : RowHolds actual reference i count row)
    (hj : j < count) : row.getD j 0 = editDistance actual reference i j := by
  rw [List.getD_eq_getElem?_getD, h j hj, Option.getD_some]

/-- The row and column of a cell's offset. -/
lemma offset_div_mod {w a b : ℕ} (hb : b < w) : (a * w + b) / w = a ∧ (a * w + b) % w = b := by
  rw [Nat.mul_comm a w]
  exact ⟨by rw [Nat.mul_add_div (by omega), Nat.div_eq_of_lt hb, Nat.add_zero],
    by rw [Nat.mul_add_mod, Nat.mod_eq_of_lt hb]⟩

/-- The offset of a cell lies in the table. -/
lemma offset_lt {n m a b : ℕ} (ha : a ≤ n) (hb : b ≤ m) : a * (m + 1) + b < (n + 1) * (m + 1) := by
  have h1 : a * (m + 1) ≤ n * (m + 1) := Nat.mul_le_mul_right _ ha
  have h2 : (n + 1) * (m + 1) = n * (m + 1) + (m + 1) := Nat.succ_mul n (m + 1)
  omega

/-- One cell keeps the invariant. -/
lemma CellsHold.fill {i j : ℕ} {table : AlignmentTable} (hi : i < actual.length)
    (hj : j < reference.length) (h : CellsHold actual reference i j table) :
    CellsHold actual reference i (j + 1) (fillCell actual reference i j table) := by
  have hoff := h.directions_length
  have hlt := offset_lt (n := actual.length) (m := reference.length) (a := i + 1) (b := j + 1)
    (by omega) (by omega)
  obtain ⟨hdiv, hmod⟩ := offset_div_mod (w := reference.length + 1) (a := i + 1) (b := j + 1)
    (by omega)
  have hprev := h.previous_length
  have hcur := h.current_length
  rw [fillCell]
  by_cases heq : actual[i]? = reference[j]?
  · simp only [if_pos heq]
    refine ⟨by simpa using hoff, hprev, by simpa using hcur, ?_, h.row, ?_⟩
    · refine h.recorded.set (by omega) ?_
      rw [hdiv, hmod, direction, if_pos heq]
    · refine h.cells.set (by omega) ?_
      rw [h.row.getD (by omega), editDistance_of_eq heq]
  · simp only [if_neg heq]
    have hmin := editDistance_of_ne heq
    rw [h.row.getD (j := j) (by omega), h.row.getD (j := j + 1) (by omega),
      h.cells.getD (j := j) (by omega), ← hmin]
    refine ⟨by simpa using hoff, hprev, by simpa using hcur, ?_, h.row, ?_⟩
    · refine h.recorded.set (by omega) ?_
      rw [hdiv, hmod, direction, if_neg heq]
    · exact h.cells.set (by omega) rfl

/-- One row keeps the invariant. -/
lemma TableHolds.fill {i : ℕ} {table : AlignmentTable} (hi : i < actual.length)
    (h : TableHolds actual reference i table) :
    TableHolds actual reference (i + 1) (fillRow actual reference i table) := by
  have hstart : CellsHold actual reference i 0 { table with
      current := table.current.set 0 (i + 1)
      directions := table.directions.set ((i + 1) * (reference.length + 1)) INSERTION } := by
    have hlt := offset_lt (n := actual.length) (m := reference.length) (a := i + 1) (b := 0)
      (by omega) (by omega)
    have hlen := h.directions_length
    have hcur := h.current_length
    refine ⟨by simpa using hlen, h.previous_length, by simpa using hcur, ?_, h.row, ?_⟩
    · refine h.recorded.set (by omega) ?_
      rw [Nat.mul_div_cancel _ (by omega), Nat.mul_mod_left, direction]
    · have hempty : RowHolds actual reference (i + 1) 0 table.current :=
        fun j hj => absurd hj (by omega)
      exact hempty.set (by omega) (by rw [editDistance])
  have hcells := forUpTo_induction (P := CellsHold actual reference i) hstart
    (n := reference.length) fun j _ hj hx => hx.fill hi hj
  rw [fillRow]
  refine ⟨hcells.directions_length, hcells.current_length, hcells.previous_length, ?_,
    hcells.cells⟩
  have hsucc : (i + 1 + 1) * (reference.length + 1)
      = (i + 1) * (reference.length + 1) + (reference.length + 1) := Nat.succ_mul _ _
  rw [hsucc]
  exact hcells.recorded

/-- One cell of the first row keeps the invariant. -/
lemma FirstRowHolds.fill {j : ℕ} {table : AlignmentTable} (hj : j < reference.length)
    (h : FirstRowHolds actual reference j table) :
    FirstRowHolds actual reference (j + 1) (firstRowCell j table) := by
  have hlt := offset_lt (n := actual.length) (m := reference.length) (a := 0) (b := j + 1)
    (by omega) (by omega)
  have hdir := h.directions_length
  have hprev := h.previous_length
  refine ⟨by simpa [firstRowCell] using hdir, by simpa [firstRowCell] using hprev,
    h.current_length, ?_, ?_⟩
  · refine h.recorded.set (by omega) ?_
    rw [Nat.div_eq_of_lt (by omega), direction]
  · exact h.row.set (by omega) (by rw [editDistance])

/-- The table of a call within the workspace's capacities, before its first row. -/
lemma firstRowTable_holds {table : AlignmentTable}
    (hdir : (actual.length + 1) * (reference.length + 1) ≤ table.directions.length)
    (hprev : reference.length + 1 ≤ table.previous.length)
    (hcur : reference.length + 1 ≤ table.current.length) :
    TableHolds actual reference 0 (firstRowTable reference table) := by
  have hempty : RowHolds actual reference 0 0 table.previous :=
    fun j hj => absurd hj (by omega)
  have hstart : FirstRowHolds actual reference 0
      { table with previous := table.previous.set 0 0 } :=
    ⟨hdir, by simpa using hprev, hcur, fun k hk hk' => absurd hk' (by omega),
      hempty.set (by omega) (by rw [editDistance])⟩
  have hrow := forUpTo_induction (P := FirstRowHolds actual reference) hstart
    (n := reference.length) fun j _ hj hx => hx.fill hj
  refine ⟨hrow.directions_length, hrow.previous_length, hrow.current_length, ?_, hrow.row⟩
  rw [Nat.zero_add, Nat.one_mul]
  exact hrow.recorded

/-- **The table holds the distances and directions of all prefixes**, whatever the
workspace held before. -/
lemma fillTable_holds (table : AlignmentTable)
    (hdir : (actual.length + 1) * (reference.length + 1) ≤ table.directions.length)
    (hprev : reference.length + 1 ≤ table.previous.length)
    (hcur : reference.length + 1 ≤ table.current.length) :
    TableHolds actual reference actual.length (fillTable actual reference table) :=
  forUpTo_induction (P := TableHolds actual reference) (firstRowTable_holds hdir hprev hcur)
    fun _ _ hi hx => hx.fill hi

lemma TableHolds.direction_eq {table : AlignmentTable}
    (h : TableHolds actual reference actual.length table) {i j : ℕ} (hi : i ≤ actual.length)
    (hj : j ≤ reference.length) (hpos : 0 < i ∨ 0 < j) :
    table.directions.getD (i * (reference.length + 1) + j) 0
      = direction actual reference i j := by
  obtain ⟨hdiv, hmod⟩ := offset_div_mod (w := reference.length + 1) (a := i) (b := j) (by omega)
  have hk : 0 < i * (reference.length + 1) + j := by
    rcases hpos with hi' | hj'
    · have hmul : 0 < i * (reference.length + 1) := Nat.mul_pos hi' (Nat.succ_pos _)
      omega
    · omega
  rw [List.getD_eq_getElem?_getD, h.recorded _ hk (offset_lt hi hj), hdiv, hmod,
    Option.getD_some]

/-! ### The path -/

/-- The path read back is the script of the directions. -/
lemma backtrace_eq {table : AlignmentTable} (h : TableHolds actual reference actual.length table)
    (rounds i j : ℕ) (hi : i ≤ actual.length) (hj : j ≤ reference.length) (hr : i + j ≤ rounds)
    (reversed : List AlignmentOperation) :
    backtrace table.directions (reference.length + 1) rounds i j reversed
      = reversed ++ (tracePath actual reference i j).reverse := by
  induction rounds generalizing i j reversed with
  | zero =>
      obtain rfl : i = 0 := by omega
      obtain rfl : j = 0 := by omega
      simp [backtrace, tracePath]
  | succ rounds ih =>
      rw [backtrace]
      by_cases hpos : 0 < i ∨ 0 < j
      · rw [if_pos hpos]
        simp only [h.direction_eq hi hj hpos]
        match i, j with
        | 0, 0 => simp at hpos
        | 0, j + 1 =>
            simp only [direction, MATCH, SUBSTITUTION, DELETION]
            simp only [show ¬(3 : ℕ) = 1 by omega, show ¬(3 : ℕ) = 2 by omega, if_false, if_true,
              Nat.add_sub_cancel]
            rw [ih 0 j hi (by omega) (by omega), tracePath]
            simp
        | i + 1, 0 =>
            simp only [direction, MATCH, SUBSTITUTION, DELETION, INSERTION]
            simp only [show ¬(4 : ℕ) = 1 by omega, show ¬(4 : ℕ) = 2 by omega,
              show ¬(4 : ℕ) = 3 by omega, if_false, Nat.add_sub_cancel]
            rw [ih i 0 (by omega) hj (by omega), tracePath]
            simp
        | i + 1, j + 1 =>
            rw [tracePath]
            simp only [Nat.add_sub_cancel]
            split
            · rw [ih i j (by omega) (by omega) (by omega)]
              simp
            · split
              · rw [ih i j (by omega) (by omega) (by omega)]
                simp
              · split
                · rw [ih (i + 1) j hi (by omega) (by omega)]
                  simp
                · rw [ih i (j + 1) (by omega) hj (by omega)]
                  simp
      · rw [if_neg hpos]
        obtain rfl : i = 0 := by omega
        obtain rfl : j = 0 := by omega
        simp [tracePath]

/-! ### The call -/

/-- The sizes of a table's storage. -/
structure AlignmentTable.HasSizes (size width : ℕ) (table : AlignmentTable) : Prop where
  directions : table.directions.length = size
  previous : table.previous.length = width
  current : table.current.length = width

/-- No step of the dynamic program changes a size. -/
lemma AlignmentTable.HasSizes.fillTable (actual reference : List String) {size width : ℕ}
    (table : AlignmentTable) (h : table.HasSizes size width) :
    (fillTable actual reference table).HasSizes size width := by
  have hcell : ∀ i j x, HasSizes size width x →
      HasSizes size width (fillCell actual reference i j x) := by
    intro i j x hx
    rw [fillCell]
    split
    · exact ⟨by simpa using hx.directions, hx.previous, by simpa using hx.current⟩
    · exact ⟨by simpa using hx.directions, hx.previous, by simpa using hx.current⟩
  have hrow : ∀ i x, HasSizes size width x →
      HasSizes size width (fillRow actual reference i x) := by
    intro i x hx
    have hcells := forUpTo_induction (P := fun _ => HasSizes size width) (n := reference.length)
      (s := { x with
        current := x.current.set 0 (i + 1)
        directions := x.directions.set ((i + 1) * (reference.length + 1)) INSERTION })
      ⟨by simpa using hx.directions, hx.previous, by simpa using hx.current⟩
      fun j y _ hy => hcell i j y hy
    exact ⟨hcells.directions, hcells.current, hcells.previous⟩
  have hfirst : HasSizes size width (firstRowTable reference table) :=
    forUpTo_induction (P := fun _ => HasSizes size width)
      ⟨h.directions, by simpa using h.previous, h.current⟩ fun j x _ hx =>
        ⟨by simpa [firstRowCell] using hx.directions, by simpa [firstRowCell] using hx.previous,
          hx.current⟩
  exact forUpTo_induction (P := fun _ => HasSizes size width) hfirst fun i x _ hx => hrow i x hx

/-- A workspace as `createAlignmentWorkspace` makes it and every call leaves it: storage
of the sizes its capacities ask for, with any contents. -/
structure AlignmentWorkspace.Sized (workspace : AlignmentWorkspace) : Prop where
  directions : workspace.directions.length
    = (workspace.actualCapacity + 1) * (workspace.referenceCapacity + 1)
  firstRow : workspace.firstRow.length = workspace.referenceCapacity + 1
  secondRow : workspace.secondRow.length = workspace.referenceCapacity + 1

/-- A workspace of the given capacities. -/
structure AlignmentWorkspace.Fits (a r : ℕ) (workspace : AlignmentWorkspace) : Prop where
  sized : workspace.Sized
  actual : workspace.actualCapacity = a
  reference : workspace.referenceCapacity = r

lemma createAlignmentWorkspace_fits (a r : ℕ) : (createAlignmentWorkspace a r).Fits a r :=
  ⟨⟨by simp [createAlignmentWorkspace], by simp [createAlignmentWorkspace],
    by simp [createAlignmentWorkspace]⟩, rfl, rfl⟩

/-- **Within its capacities a call returns the edit path**, whatever the workspace holds,
and leaves a workspace of the same capacities. -/
theorem alignPhonemesWithWorkspace_eq {a r : ℕ} {workspace : AlignmentWorkspace}
    (h : workspace.Fits a r) (hactual : actual.length ≤ a) (hreference : reference.length ≤ r) :
    ∃ after, alignPhonemesWithWorkspace actual reference workspace
      = .ok (editPath actual reference, after) ∧ after.Fits a r := by
  obtain ⟨hsized, rfl, rfl⟩ := h
  have hdir : (actual.length + 1) * (reference.length + 1) ≤ workspace.directions.length := by
    rw [hsized.directions]
    exact Nat.mul_le_mul (by omega) (by omega)
  have htable := fillTable_holds
    ⟨workspace.directions, workspace.firstRow, workspace.secondRow⟩ hdir
    (by rw [hsized.firstRow]; omega) (by rw [hsized.secondRow]; omega)
  have hsizes := AlignmentTable.HasSizes.fillTable actual reference
    ⟨workspace.directions, workspace.firstRow, workspace.secondRow⟩
    ⟨hsized.directions, hsized.firstRow, hsized.secondRow⟩
  rw [alignPhonemesWithWorkspace, if_neg (by omega)]
  simp only [backtrace_eq htable _ _ _ le_rfl le_rfl le_rfl, List.nil_append,
    List.reverse_reverse]
  refine ⟨_, rfl, ⟨hsizes.directions, ?_, ?_⟩, rfl, rfl⟩
  · rw [apply_ite Prod.fst]
    split
    · exact hsizes.previous
    · exact hsizes.current
  · rw [apply_ite Prod.snd]
    split
    · exact hsizes.current
    · exact hsizes.previous

/-! ### Scripts -/

/-- The operations rewrite the first `i` observed into the first `j` reference phonemes:
each index is used once, in order; a match joins equal phonemes, a substitution
different ones. -/
inductive EditScript (actual reference : List String) :
    ℕ → ℕ → List AlignmentOperation → Prop where
  | nil : EditScript actual reference 0 0 []
  | matched {i j : ℕ} {ops : List AlignmentOperation} (h : EditScript actual reference i j ops)
      (hi : i < actual.length) (hj : j < reference.length) (heq : actual[i]? = reference[j]?) :
      EditScript actual reference (i + 1) (j + 1) (ops ++ [.matched i j])
  | substitution {i j : ℕ} {ops : List AlignmentOperation}
      (h : EditScript actual reference i j ops) (hi : i < actual.length)
      (hj : j < reference.length) (hne : actual[i]? ≠ reference[j]?) :
      EditScript actual reference (i + 1) (j + 1) (ops ++ [.substitution i j])
  | deletion {i j : ℕ} {ops : List AlignmentOperation} (h : EditScript actual reference i j ops)
      (hj : j < reference.length) : EditScript actual reference i (j + 1) (ops ++ [.deletion j])
  | insertion {i j : ℕ} {ops : List AlignmentOperation} (h : EditScript actual reference i j ops)
      (hi : i < actual.length) : EditScript actual reference (i + 1) j (ops ++ [.insertion i])

/-- The moves of two equal phonemes. -/
lemma direction_eq_match_iff {i j : ℕ} :
    direction actual reference (i + 1) (j + 1) = MATCH ↔ actual[i]? = reference[j]? := by
  rw [direction]
  by_cases h : actual[i]? = reference[j]?
  · simp [h]
  · simp only [h, if_false, iff_false]
    split
    · decide
    · split <;> decide

/-- Each move away from two different phonemes attains the distance. -/
lemma moves_of_ne {i j : ℕ} (hne : actual[i]? ≠ reference[j]?) :
    (direction actual reference (i + 1) (j + 1) = SUBSTITUTION →
      editDistance actual reference i j + 1 = editDistance actual reference (i + 1) (j + 1)) ∧
    (direction actual reference (i + 1) (j + 1) = DELETION →
      editDistance actual reference (i + 1) j + 1
        = editDistance actual reference (i + 1) (j + 1)) ∧
    (¬direction actual reference (i + 1) (j + 1) = SUBSTITUTION →
      ¬direction actual reference (i + 1) (j + 1) = DELETION →
      editDistance actual reference i (j + 1) + 1
        = editDistance actual reference (i + 1) (j + 1)) := by
  have hmin := editDistance_of_ne hne
  rw [direction, if_neg hne]
  split
  · rename_i h
    exact ⟨fun _ => h, fun hc => absurd hc (by decide), fun hc => absurd rfl hc⟩
  · split
    · rename_i h
      exact ⟨fun hc => absurd hc (by decide), fun _ => h, fun _ hc => absurd rfl hc⟩
    · exact ⟨fun hc => absurd hc (by decide), fun hc => absurd hc (by decide),
        fun _ _ => by omega⟩

/-- **The path is an edit script.** -/
lemma tracePath_editScript {i j : ℕ} (hi : i ≤ actual.length) (hj : j ≤ reference.length) :
    EditScript actual reference i j (tracePath actual reference i j) := by
  induction i, j using tracePath.induct actual reference with
  | case1 =>
      rw [tracePath]
      exact .nil
  | case2 j ih =>
      rw [tracePath]
      exact (ih hi (by omega)).deletion (by omega)
  | case3 i ih =>
      rw [tracePath]
      exact (ih (by omega) hj).insertion (by omega)
  | case4 i j hm ih =>
      rw [tracePath, if_pos hm]
      exact (ih (by omega) (by omega)).matched (by omega) (by omega)
        (direction_eq_match_iff.mp hm)
  | case5 i j hm hs ih =>
      rw [tracePath, if_neg hm, if_pos hs]
      exact (ih (by omega) (by omega)).substitution (by omega) (by omega)
        fun heq => hm (direction_eq_match_iff.mpr heq)
  | case6 i j hm hs hd ih =>
      rw [tracePath, if_neg hm, if_neg hs, if_pos hd]
      exact (ih (by omega) (by omega)).deletion (by omega)
  | case7 i j hm hs hd ih =>
      rw [tracePath, if_neg hm, if_neg hs, if_neg hd]
      exact (ih (by omega) (by omega)).insertion (by omega)

lemma editPath_editScript (actual reference : List String) :
    EditScript actual reference actual.length reference.length
      (editPath actual reference).operations :=
  tracePath_editScript le_rfl le_rfl

namespace EditScript

variable {i j : ℕ} {ops : List AlignmentOperation}

/-- Every reference index is used once, in order. -/
lemma referenceIndexes (h : EditScript actual reference i j ops) :
    ops.filterMap AlignmentOperation.referenceIndex = List.range j := by
  induction h with
  | nil => rfl
  | matched _ _ _ _ ih =>
      rw [List.filterMap_append, ih, List.range_succ]
      rfl
  | substitution _ _ _ _ ih =>
      rw [List.filterMap_append, ih, List.range_succ]
      rfl
  | deletion _ _ ih =>
      rw [List.filterMap_append, ih, List.range_succ]
      rfl
  | insertion _ _ ih =>
      rw [List.filterMap_append, ih]
      exact List.append_nil _

/-- Every observed index is used once, in order. -/
lemma actualIndexes (h : EditScript actual reference i j ops) :
    ops.filterMap AlignmentOperation.actualIndex = List.range i := by
  induction h with
  | nil => rfl
  | matched _ _ _ _ ih =>
      rw [List.filterMap_append, ih, List.range_succ]
      rfl
  | substitution _ _ _ _ ih =>
      rw [List.filterMap_append, ih, List.range_succ]
      rfl
  | deletion _ _ ih =>
      rw [List.filterMap_append, ih]
      exact List.append_nil _
  | insertion _ _ ih =>
      rw [List.filterMap_append, ih, List.range_succ]
      rfl

/-- A match joins equal phonemes that are there. -/
lemma of_matched (h : EditScript actual reference i j ops) {a r : ℕ}
    (hop : .matched a r ∈ ops) :
    a < i ∧ r < j ∧ a < actual.length ∧ r < reference.length ∧ actual[a]? = reference[r]? := by
  induction h with
  | nil => simp at hop
  | matched _ hi hj heq ih =>
      rcases List.mem_append.mp hop with hop | hop
      · have hold := ih hop
        exact ⟨by omega, by omega, hold.2.2⟩
      · obtain ⟨rfl, rfl⟩ : a = _ ∧ r = _ := by simpa using hop
        exact ⟨by omega, by omega, hi, hj, heq⟩
  | substitution _ _ _ _ ih =>
      have hold := ih (by simpa using hop)
      exact ⟨by omega, by omega, hold.2.2⟩
  | deletion _ _ ih =>
      have hold := ih (by simpa using hop)
      exact ⟨by omega, by omega, hold.2.2⟩
  | insertion _ _ ih =>
      have hold := ih (by simpa using hop)
      exact ⟨by omega, by omega, hold.2.2⟩

/-- A substitution joins different phonemes that are there. -/
lemma of_substitution (h : EditScript actual reference i j ops) {a r : ℕ}
    (hop : .substitution a r ∈ ops) :
    a < i ∧ r < j ∧ a < actual.length ∧ r < reference.length ∧ actual[a]? ≠ reference[r]? := by
  induction h with
  | nil => simp at hop
  | substitution _ hi hj hne ih =>
      rcases List.mem_append.mp hop with hop | hop
      · have hold := ih hop
        exact ⟨by omega, by omega, hold.2.2⟩
      · obtain ⟨rfl, rfl⟩ : a = _ ∧ r = _ := by simpa using hop
        exact ⟨by omega, by omega, hi, hj, hne⟩
  | matched _ _ _ _ ih =>
      have hold := ih (by simpa using hop)
      exact ⟨by omega, by omega, hold.2.2⟩
  | deletion _ _ ih =>
      have hold := ih (by simpa using hop)
      exact ⟨by omega, by omega, hold.2.2⟩
  | insertion _ _ ih =>
      have hold := ih (by simpa using hop)
      exact ⟨by omega, by omega, hold.2.2⟩

/-- The edits and the matches are the operations. -/
lemma countEdits_add_matches (ops : List AlignmentOperation) :
    countEdits ops + ops.countP AlignmentOperation.isMatch = ops.length := by
  rw [countEdits, Nat.add_comm, List.length_eq_countP_add_countP AlignmentOperation.isMatch]
  simp

/-- A script is at least as long as either sequence. -/
lemma max_le_length (h : EditScript actual reference i j ops) : max i j ≤ ops.length := by
  have hr := List.length_filterMap_le AlignmentOperation.referenceIndex ops
  have ha := List.length_filterMap_le AlignmentOperation.actualIndex ops
  rw [h.referenceIndexes, List.length_range] at hr
  rw [h.actualIndexes, List.length_range] at ha
  exact max_le ha hr

end EditScript

lemma countEdits_snoc (ops : List AlignmentOperation) (op : AlignmentOperation) :
    countEdits (ops ++ [op]) = countEdits ops + if op.isMatch then 0 else 1 := by
  rw [countEdits, List.countP_append, countEdits]
  cases op <;> rfl

/-- The path costs the distance. -/
lemma countEdits_tracePath (actual reference : List String) (i j : ℕ) :
    countEdits (tracePath actual reference i j) = editDistance actual reference i j := by
  induction i, j using tracePath.induct actual reference with
  | case1 => rw [tracePath, editDistance]; rfl
  | case2 j ih =>
      rw [tracePath, countEdits_snoc, ih, editDistance, editDistance]
      rfl
  | case3 i ih =>
      rw [tracePath, countEdits_snoc, ih, editDistance_zero_right, editDistance_zero_right]
      rfl
  | case4 i j hm ih =>
      rw [tracePath, if_pos hm, countEdits_snoc, ih,
        editDistance_of_eq (direction_eq_match_iff.mp hm)]
      rfl
  | case5 i j hm hs ih =>
      rw [tracePath, if_neg hm, if_pos hs, countEdits_snoc, ih]
      exact (moves_of_ne fun h => hm (direction_eq_match_iff.mpr h)).1 hs
  | case6 i j hm hs hd ih =>
      rw [tracePath, if_neg hm, if_neg hs, if_pos hd, countEdits_snoc, ih]
      exact (moves_of_ne fun h => hm (direction_eq_match_iff.mpr h)).2.1 hd
  | case7 i j hm hs hd ih =>
      rw [tracePath, if_neg hm, if_neg hs, if_neg hd, countEdits_snoc, ih]
      exact (moves_of_ne fun h => hm (direction_eq_match_iff.mpr h)).2.2 hs hd

end Qaraa
