import Mathlib.Tactic

/-!
Consecutive intervals: a list of non-empty half-open intervals, each starting where the
one before it stops, so that together they partition `[a, b)`.

* `Consecutive lo hi a xs b`: the intervals `[lo x, hi x)` of `xs` run from `a` to `b`.
* `Consecutive.mem_bounds`, `Consecutive.pairwise`: every interval lies in `[a, b)`, and
  an earlier one stops before a later one starts.
* `Consecutive.exists_mem`, `Consecutive.eq_of_mem`: every point lies in exactly one.
* `Consecutive.concat`, `Consecutive.map_left`: one more interval; intervals of images.
* `Consecutive.filter_meets_succ`: a window that grows by one point meets at most one
  interval more, the last.
* `Consecutive.of_blocks`: the blocks a list is cut into are consecutive.
-/

section

variable {β : Type*} (lo hi : β → ℕ)

/-- The intervals of the list are non-empty and run without gap from `a` to `b`. -/
def Consecutive : ℕ → List β → ℕ → Prop
  | a, [], b => a = b
  | a, x :: xs, b => lo x = a ∧ lo x < hi x ∧ Consecutive (hi x) xs b

end

namespace Consecutive

variable {β : Type*} {lo hi : β → ℕ} {a b : ℕ} {xs : List β}

lemma le (h : Consecutive lo hi a xs b) : a ≤ b := by
  induction xs generalizing a with
  | nil => exact le_of_eq h
  | cons x xs ih =>
      obtain ⟨hlo, hlt, hrest⟩ := h
      have := ih hrest
      omega

/-- Every interval is non-empty and lies in `[a, b)`. -/
lemma mem_bounds (h : Consecutive lo hi a xs b) {x : β} (hx : x ∈ xs) :
    a ≤ lo x ∧ lo x < hi x ∧ hi x ≤ b := by
  induction xs generalizing a with
  | nil => simp at hx
  | cons y ys ih =>
      obtain ⟨hlo, hlt, hrest⟩ := h
      have hle := hrest.le
      rcases List.mem_cons.mp hx with rfl | hmem
      · omega
      · have := ih hrest hmem
        omega

/-- An earlier interval stops before a later one starts. -/
lemma pairwise (h : Consecutive lo hi a xs b) : xs.Pairwise fun x y => hi x ≤ lo y := by
  induction xs generalizing a with
  | nil => exact List.Pairwise.nil
  | cons x xs ih =>
      obtain ⟨hlo, hlt, hrest⟩ := h
      exact List.pairwise_cons.mpr ⟨fun y hy => (hrest.mem_bounds hy).1, ih hrest⟩

/-- Every point of `[a, b)` lies in an interval. -/
lemma exists_mem (h : Consecutive lo hi a xs b) {i : ℕ} (ha : a ≤ i) (hb : i < b) :
    ∃ x ∈ xs, lo x ≤ i ∧ i < hi x := by
  induction xs generalizing a with
  | nil =>
      have : a = b := h
      omega
  | cons x xs ih =>
      obtain ⟨hlo, hlt, hrest⟩ := h
      by_cases hi' : i < hi x
      · exact ⟨x, by simp, by omega, hi'⟩
      · obtain ⟨y, hy, hyi⟩ := ih hrest (by omega)
        exact ⟨y, by simp [hy], hyi⟩

/-- A point lies in at most one interval. -/
lemma eq_of_mem (h : Consecutive lo hi a xs b) {x y : β} (hx : x ∈ xs) (hy : y ∈ xs) {i : ℕ}
    (hxi : lo x ≤ i ∧ i < hi x) (hyi : lo y ≤ i ∧ i < hi y) : x = y := by
  induction xs generalizing a with
  | nil => simp at hx
  | cons z zs ih =>
      obtain ⟨hlo, hlt, hrest⟩ := h
      rcases List.mem_cons.mp hx with rfl | hx' <;> rcases List.mem_cons.mp hy with rfl | hy'
      · rfl
      · have := (hrest.mem_bounds hy').1
        omega
      · have := (hrest.mem_bounds hx').1
        omega
      · exact ih hrest hx' hy'

/-- Consecutive intervals are listed in the order of their starts. -/
lemma pairwise_start (h : Consecutive lo hi a xs b) : xs.Pairwise fun x y => lo x < lo y := by
  refine h.pairwise.imp_of_mem fun hx _ hxy => ?_
  have := (h.mem_bounds hx).2.1
  omega

/-- One more interval, where the last one stops. -/
lemma concat (h : Consecutive lo hi a xs b) {x : β} (hlo : lo x = b) (hlt : lo x < hi x) :
    Consecutive lo hi a (xs ++ [x]) (hi x) := by
  induction xs generalizing a with
  | nil => exact ⟨hlo.trans (show a = b from h).symm, hlt, rfl⟩
  | cons y ys ih =>
      obtain ⟨hy, hylt, hrest⟩ := h
      exact ⟨hy, hylt, ih hrest⟩

/-- The intervals of the images of items. -/
lemma map_left {γ : Type*} {f : β → γ} {lo' hi' : γ → ℕ} (h : Consecutive lo hi a xs b)
    (hf : ∀ x ∈ xs, lo' (f x) = lo x ∧ hi' (f x) = hi x) :
    Consecutive lo' hi' a (xs.map f) b := by
  induction xs generalizing a with
  | nil => exact h
  | cons x xs ih =>
      obtain ⟨hlo, hlt, hrest⟩ := h
      obtain ⟨hlo', hhi'⟩ := hf x (by simp)
      refine ⟨by omega, by omega, ?_⟩
      rw [hhi']
      exact ih hrest fun y hy => hf y (by simp [hy])

/-- The window `[s, e)` and the interval `[lo x, hi x)` have a point in common. -/
def Meets (lo hi : β → ℕ) (s e : ℕ) (x : β) : Prop := max s (lo x) < min e (hi x)

instance (lo hi : β → ℕ) (s e : ℕ) : DecidablePred (Meets lo hi s e) := fun x =>
  inferInstanceAs (Decidable (max s (lo x) < min e (hi x)))

/-- When the window `[s, e)` grows by the point `e` of the interval `x`, it meets `x` and
otherwise what it met before, in the same order. -/
lemma filter_meets_succ (h : Consecutive lo hi a xs b) {x : β} (hx : x ∈ xs) {s e : ℕ}
    (hse : s ≤ e) (hlo : lo x ≤ e) (hhi : e < hi x) :
    xs.filter (Meets lo hi s (e + 1)) = if Meets lo hi s e x then xs.filter (Meets lo hi s e)
      else xs.filter (Meets lo hi s e) ++ [x] := by
  obtain ⟨pre, post, rfl⟩ := List.append_of_mem hx
  obtain ⟨-, hpost, hpre⟩ := List.pairwise_append.mp h.pairwise
  have hbefore : pre.filter (Meets lo hi s (e + 1)) = pre.filter (Meets lo hi s e) := by
    refine List.filter_congr fun y hy => ?_
    have hstop := hpre y hy x (by simp)
    refine decide_eq_decide.mpr ?_
    rw [Meets, Meets]
    omega
  have hafter : ∀ e' ≤ e + 1, post.filter (Meets lo hi s e') = [] := by
    intro e' he'
    refine List.filter_eq_nil_iff.mpr fun y hy => ?_
    have hstart := (List.pairwise_cons.mp hpost).1 y hy
    rw [decide_eq_true_iff, Meets]
    omega
  have hself : Meets lo hi s (e + 1) x := by
    rw [Meets]
    omega
  rw [List.filter_append, List.filter_append, List.filter_cons_of_pos (by simpa using hself),
    hbefore, hafter (e + 1) le_rfl]
  by_cases hmeets : Meets lo hi s e x
  · rw [if_pos hmeets, List.filter_cons_of_pos (by simpa using hmeets), hafter e (by omega)]
  · rw [if_neg hmeets, List.filter_cons_of_neg (by simpa using hmeets), hafter e (by omega),
      List.append_nil]

/-- **Blocks are consecutive.** When the items of the blocks, one block after the other,
are a list whose members `idx` numbers by position, the interval from a block's first
number to its last starts where the block before stopped. -/
lemma of_blocks {α : Type*} (idx : α → ℕ) {whole : List α}
    (hidx : ∀ (i : ℕ) (x : α), whole[i]? = some x → idx x = i) (items : β → List α)
    {blocks : List β} (hne : ∀ x ∈ blocks, items x ≠ [])
    (hlo : ∀ x ∈ blocks, ∀ y ∈ (items x).head?, lo x = idx y)
    (hhi : ∀ x ∈ blocks, ∀ y ∈ (items x).getLast?, hi x = idx y + 1)
    (pre : List α) (hwhole : pre ++ blocks.flatMap items = whole) :
    Consecutive lo hi pre.length blocks whole.length := by
  induction blocks generalizing pre with
  | nil =>
      have : pre = whole := by simpa using hwhole
      rw [this]
      rfl
  | cons x xs ih =>
      rw [List.flatMap_cons] at hwhole
      have hx := hne x (by simp)
      have hpos := List.length_pos_iff.mpr hx
      have hfirst : lo x = pre.length := by
        obtain ⟨y, hy⟩ : ∃ y, (items x).head? = some y := by
          cases hc : items x with
          | nil => exact absurd hc hx
          | cons y ys => exact ⟨y, rfl⟩
        rw [hlo x (by simp) y hy]
        refine hidx _ _ ?_
        rw [← hwhole, List.getElem?_append_right (le_refl _), Nat.sub_self,
          List.getElem?_append_left hpos, ← List.head?_eq_getElem?, hy]
      have hlast : hi x = pre.length + (items x).length := by
        obtain ⟨y, hy⟩ : ∃ y, (items x).getLast? = some y :=
          ⟨(items x).getLast hx, List.getLast?_eq_getLast_of_ne_nil hx⟩
        have hnum : idx y = pre.length + ((items x).length - 1) := by
          refine hidx _ _ ?_
          rw [← hwhole, List.getElem?_append_right (Nat.le_add_right _ _),
            Nat.add_sub_cancel_left, List.getElem?_append_left (by omega),
            ← List.getLast?_eq_getElem?, hy]
        rw [hhi x (by simp) y hy, hnum]
        omega
      have hrest : Consecutive lo hi (pre ++ items x).length xs whole.length :=
        ih (fun y hy => hne y (by simp [hy])) (fun y hy => hlo y (by simp [hy]))
          (fun y hy => hhi y (by simp [hy])) (pre ++ items x) (by simpa using hwhole)
      refine ⟨hfirst, by omega, ?_⟩
      rw [hlast, ← List.length_append]
      exact hrest

end Consecutive
