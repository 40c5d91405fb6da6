import Mathlib.Tactic

/-!
The Levenshtein distance of two lists: the least number of single-element edits that turn
one into the other.

* `EditStep`, `Edits`: one insertion, deletion or substitution, and a number of them.
* `levenshtein`: the distance by recursion on the first elements, with all three moves.
* `levenshtein_isLeast`: **the recursion computes the least number of edits**.
* `levenshtein_reverse`, `levenshtein_cons_self`: it may be computed from the last elements
  on, and equal elements may be paired right away.
-/

namespace Levenshtein

variable {α : Type*}

/-- One single-element edit. -/
inductive EditStep : List α → List α → Prop where
  | insertion (pre : List α) (x : α) (post : List α) : EditStep (pre ++ post) (pre ++ x :: post)
  | deletion (pre : List α) (x : α) (post : List α) : EditStep (pre ++ x :: post) (pre ++ post)
  | substitution (pre : List α) (x y : α) (post : List α) :
      EditStep (pre ++ x :: post) (pre ++ y :: post)

/-- A number of edits. -/
inductive Edits : ℕ → List α → List α → Prop where
  | refl (xs : List α) : Edits 0 xs xs
  | snoc {n : ℕ} {xs ys zs : List α} (h : Edits n xs ys) (hstep : EditStep ys zs) :
      Edits (n + 1) xs zs

lemma EditStep.reverse {xs ys : List α} (h : EditStep xs ys) : EditStep xs.reverse ys.reverse := by
  cases h with
  | insertion pre x post => simpa using EditStep.insertion post.reverse x pre.reverse
  | deletion pre x post => simpa using EditStep.deletion post.reverse x pre.reverse
  | substitution pre x y post => simpa using EditStep.substitution post.reverse x y pre.reverse

lemma EditStep.cons (z : α) {xs ys : List α} (h : EditStep xs ys) :
    EditStep (z :: xs) (z :: ys) := by
  cases h with
  | insertion pre x post => exact EditStep.insertion (z :: pre) x post
  | deletion pre x post => exact EditStep.deletion (z :: pre) x post
  | substitution pre x y post => exact EditStep.substitution (z :: pre) x y post

lemma Edits.reverse {n : ℕ} {xs ys : List α} (h : Edits n xs ys) :
    Edits n xs.reverse ys.reverse := by
  induction h with
  | refl xs => exact .refl _
  | snoc _ hstep ih => exact ih.snoc hstep.reverse

lemma Edits.cons (z : α) {n : ℕ} {xs ys : List α} (h : Edits n xs ys) :
    Edits n (z :: xs) (z :: ys) := by
  induction h with
  | refl xs => exact .refl _
  | snoc _ hstep ih => exact ih.snoc (hstep.cons z)

/-! ### The recursion -/

variable [DecidableEq α]

/-- The distance, by recursion on the first elements. -/
def levenshtein : List α → List α → ℕ
  | [], ys => ys.length
  | x :: xs, [] => xs.length + 1
  | x :: xs, y :: ys =>
      min (levenshtein xs (y :: ys) + 1) (min (levenshtein (x :: xs) ys + 1)
        (levenshtein xs ys + if x = y then 0 else 1))

lemma levenshtein_nil_left (ys : List α) : levenshtein [] ys = ys.length := by rw [levenshtein]

lemma levenshtein_nil_right (xs : List α) : levenshtein xs [] = xs.length := by
  cases xs <;> rw [levenshtein]
  rfl

lemma levenshtein_cons_cons (x y : α) (xs ys : List α) : levenshtein (x :: xs) (y :: ys)
    = min (levenshtein xs (y :: ys) + 1) (min (levenshtein (x :: xs) ys + 1)
        (levenshtein xs ys + if x = y then 0 else 1)) := by
  rw [levenshtein]

lemma levenshtein_cons_left_le (x : α) (xs ys : List α) :
    levenshtein (x :: xs) ys ≤ levenshtein xs ys + 1 := by
  cases ys with
  | nil => rw [levenshtein_nil_right, levenshtein_nil_right, List.length_cons]
  | cons y ys =>
      rw [levenshtein_cons_cons]
      omega

lemma levenshtein_cons_right_le (xs : List α) (y : α) (ys : List α) :
    levenshtein xs (y :: ys) ≤ levenshtein xs ys + 1 := by
  cases xs with
  | nil => rw [levenshtein_nil_left, levenshtein_nil_left, List.length_cons]
  | cons x xs =>
      rw [levenshtein_cons_cons]
      omega

lemma levenshtein_le_cons_left (x : α) (xs ys : List α) :
    levenshtein xs ys ≤ levenshtein (x :: xs) ys + 1 := by
  induction ys with
  | nil =>
      rw [levenshtein_nil_right, levenshtein_nil_right, List.length_cons]
      omega
  | cons y ys ih =>
      have hright := levenshtein_cons_right_le xs y ys
      rw [levenshtein_cons_cons]
      omega

lemma levenshtein_le_cons_right (xs : List α) (y : α) (ys : List α) :
    levenshtein xs ys ≤ levenshtein xs (y :: ys) + 1 := by
  induction xs with
  | nil =>
      rw [levenshtein_nil_left, levenshtein_nil_left, List.length_cons]
      omega
  | cons x xs ih =>
      have hleft := levenshtein_cons_left_le x xs ys
      rw [levenshtein_cons_cons]
      omega

/-- Two equal first elements may be paired. -/
lemma levenshtein_cons_self (x : α) (xs ys : List α) :
    levenshtein (x :: xs) (x :: ys) = levenshtein xs ys := by
  have hleft := levenshtein_le_cons_left x xs ys
  have hright := levenshtein_le_cons_right xs x ys
  rw [levenshtein_cons_cons, if_pos rfl]
  omega

lemma levenshtein_cons_of_ne {x y : α} (h : x ≠ y) (xs ys : List α) :
    levenshtein (x :: xs) (y :: ys) = min (levenshtein xs (y :: ys) + 1)
      (min (levenshtein (x :: xs) ys + 1) (levenshtein xs ys + 1)) := by
  rw [levenshtein_cons_cons, if_neg h]

/-- Pairing the lists from the front on is one way to edit. -/
lemma levenshtein_le_max (xs ys : List α) :
    levenshtein xs ys ≤ max xs.length ys.length := by
  induction xs, ys using levenshtein.induct with
  | case1 ys =>
      rw [levenshtein_nil_left]
      exact le_max_right _ _
  | case2 x xs =>
      rw [levenshtein_nil_right]
      exact le_max_left _ _
  | case3 x xs y ys _ _ ih =>
      rw [levenshtein_cons_cons, List.length_cons, List.length_cons]
      split <;> omega

/-! ### The least number of edits -/

/-- An edit behind a common first element costs no more than the edit. -/
lemma levenshtein_cons_lipschitz {xs xs' : List α}
    (h : ∀ ys, levenshtein xs' ys ≤ levenshtein xs ys + 1) (z : α) (ys : List α) :
    levenshtein (z :: xs') ys ≤ levenshtein (z :: xs) ys + 1 := by
  induction ys with
  | nil =>
      have hlength := h []
      rw [levenshtein_nil_right, levenshtein_nil_right] at hlength
      rw [levenshtein_nil_right, levenshtein_nil_right, List.length_cons, List.length_cons]
      omega
  | cons y ys ih =>
      have hcons := h (y :: ys)
      have hrest := h ys
      rw [levenshtein_cons_cons, levenshtein_cons_cons]
      omega

lemma levenshtein_substitute (x y : α) (xs ys : List α) :
    levenshtein (y :: xs) ys ≤ levenshtein (x :: xs) ys + 1 := by
  induction ys with
  | nil =>
      rw [levenshtein_nil_right, levenshtein_nil_right, List.length_cons, List.length_cons]
      omega
  | cons z ys ih =>
      rw [levenshtein_cons_cons, levenshtein_cons_cons]
      split <;> split <;> omega

/-- One edit of the first list changes the distance by at most one. -/
lemma levenshtein_step {xs xs' : List α} (h : EditStep xs xs') (ys : List α) :
    levenshtein xs ys ≤ levenshtein xs' ys + 1 := by
  have hcons : ∀ (pre : List α) {as bs : List α},
      (∀ ys, levenshtein as ys ≤ levenshtein bs ys + 1) →
        ∀ ys, levenshtein (pre ++ as) ys ≤ levenshtein (pre ++ bs) ys + 1 := by
    intro pre as bs hab
    induction pre with
    | nil => exact hab
    | cons z pre ih => exact levenshtein_cons_lipschitz ih z
  cases h with
  | insertion pre x post => exact hcons pre (levenshtein_le_cons_left x post) ys
  | deletion pre x post => exact hcons pre (levenshtein_cons_left_le x post) ys
  | substitution pre x y post => exact hcons pre (levenshtein_substitute y x post) ys

lemma levenshtein_self (xs : List α) : levenshtein xs xs = 0 := by
  induction xs with
  | nil => exact levenshtein_nil_left []
  | cons x xs ih => rw [levenshtein_cons_self, ih]

/-- No number of edits below the distance suffices. -/
lemma levenshtein_le {n : ℕ} {xs ys : List α} (h : Edits n xs ys) : levenshtein xs ys ≤ n := by
  have key : ∀ {n : ℕ} {xs ys : List α}, Edits n xs ys → ∀ zs,
      levenshtein xs zs ≤ levenshtein ys zs + n := by
    intro n xs ys h
    induction h with
    | refl xs => exact fun zs => le_rfl
    | snoc _ hstep ih =>
        intro zs
        have hbefore := ih zs
        have hlast := levenshtein_step hstep zs
        omega
  have hself := key h ys
  rw [levenshtein_self] at hself
  omega

omit [DecidableEq α] in
lemma Edits.trans_step {n : ℕ} {xs ys zs : List α} (hstep : EditStep xs ys) (h : Edits n ys zs) :
    Edits (n + 1) xs zs := by
  induction h with
  | refl => exact (Edits.refl xs).snoc hstep
  | snoc _ hlast ih => exact (ih hstep).snoc hlast

/-- As many edits as the distance suffice. -/
lemma edits_levenshtein (xs ys : List α) : Edits (levenshtein xs ys) xs ys := by
  induction xs, ys using levenshtein.induct with
  | case1 ys =>
      rw [levenshtein_nil_left]
      induction ys with
      | nil => exact .refl _
      | cons y ys ih => exact ih.snoc (EditStep.insertion [] y ys)
  | case2 x xs =>
      rw [levenshtein_nil_right]
      have key : ∀ zs : List α, Edits zs.length zs [] := by
        intro zs
        induction zs with
        | nil => exact .refl _
        | cons z zs ih => exact ih.trans_step (EditStep.deletion [] z zs)
      exact key _
  | case3 x xs y ys ihdelete ihinsert ihpair =>
      rw [levenshtein_cons_cons]
      rcases min_choice (levenshtein xs (y :: ys) + 1) (min (levenshtein (x :: xs) ys + 1)
        (levenshtein xs ys + if x = y then 0 else 1)) with hmin | hmin
      · rw [hmin]
        exact ihdelete.trans_step (EditStep.deletion [] x xs)
      · rw [hmin]
        rcases min_choice (levenshtein (x :: xs) ys + 1)
          (levenshtein xs ys + if x = y then 0 else 1) with hmin | hmin
        · rw [hmin]
          exact ihinsert.snoc (EditStep.insertion [] y ys)
        · rw [hmin]
          by_cases heq : x = y
          · subst heq
            rw [if_pos rfl, Nat.add_zero]
            exact ihpair.cons x
          · rw [if_neg heq]
            exact (ihpair.cons x).snoc (EditStep.substitution [] x y ys)

/-- **The recursion computes the least number of edits.** -/
theorem levenshtein_isLeast (xs ys : List α) :
    IsLeast {n | Edits n xs ys} (levenshtein xs ys) :=
  ⟨edits_levenshtein xs ys, fun _ h => levenshtein_le h⟩

/-- The distance may be read from the other end. -/
lemma levenshtein_reverse (xs ys : List α) :
    levenshtein xs.reverse ys.reverse = levenshtein xs ys := by
  refine le_antisymm (levenshtein_le (edits_levenshtein xs ys).reverse) (levenshtein_le ?_)
  have h := (edits_levenshtein xs.reverse ys.reverse).reverse
  rwa [List.reverse_reverse, List.reverse_reverse] at h

end Levenshtein
