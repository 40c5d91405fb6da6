import Mathlib.Tactic

/-!
Counting loops: `for (i = 0; i < n; i += 1) body` over a state.

* `forUpTo`: the loop.
* `forUpTo_induction`: what holds before the loop and is kept by every round holds after
  it; the invariant may mention the round.
* `foldl_induction_split`, `foldl_induction`: the same for a loop over the items of a list.
-/

namespace Loop

variable {σ : Type*}

/-- The state after the rounds `0, …, n - 1` of `body`. -/
def forUpTo (n : ℕ) (body : ℕ → σ → σ) (s : σ) : σ :=
  match n with
  | 0 => s
  | n + 1 => body n (forUpTo n body s)

/-- The invariant rule of a counting loop. -/
lemma forUpTo_induction {P : ℕ → σ → Prop} {n : ℕ} {body : ℕ → σ → σ} {s : σ} (hinit : P 0 s)
    (hstep : ∀ i x, i < n → P i x → P (i + 1) (body i x)) : P n (forUpTo n body s) := by
  have key : ∀ k ≤ n, P k (forUpTo k body s) := by
    intro k
    induction k with
    | zero => exact fun _ => hinit
    | succ k ih => exact fun hk => hstep k _ (by omega) (ih (by omega))
  exact key n le_rfl

/-- The invariant rule of a loop over a list; the invariant may mention the items
already visited and a round the items still to come. -/
lemma foldl_induction_split {α : Type*} {P : List α → σ → Prop} {f : σ → α → σ} {l : List α}
    {s : σ} (hinit : P [] s)
    (hstep : ∀ pre a rest x, l = pre ++ a :: rest → P pre x → P (pre ++ [a]) (f x a)) :
    P l (l.foldl f s) := by
  have key : ∀ (rest pre : List α) (x : σ), l = pre ++ rest → P pre x →
      P (pre ++ rest) (rest.foldl f x) := by
    intro rest
    induction rest with
    | nil => simp
    | cons a rest ih =>
        intro pre x hl hx
        have := ih (pre ++ [a]) (f x a) (by simp [hl]) (hstep pre a rest x hl hx)
        simpa using this
  simpa using key l [] s rfl hinit

/-- The same when a round needs its own item only. -/
lemma foldl_induction {α : Type*} {P : List α → σ → Prop} {f : σ → α → σ} {l : List α} {s : σ}
    (hinit : P [] s) (hstep : ∀ pre a x, a ∈ l → P pre x → P (pre ++ [a]) (f x a)) :
    P l (l.foldl f s) :=
  foldl_induction_split hinit fun pre a _ x hl hx => hstep pre a x (by simp [hl]) hx

end Loop
