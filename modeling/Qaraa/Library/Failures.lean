import Qaraa.Library.Fallible

/-!
Which errors a fallible computation can end in.

* `FailsIn`: every error of a computation satisfies a predicate.
* `FailsIn.bind`, `FailsIn.failIf`: a sequence and a guard; the second part of a sequence
  is judged on the results the first part can have.
* `FailsIn.mapM`, `FailsIn.forM`, `FailsIn.foldlM`: the loops; the invariant of a loop may
  mention the items already visited.
-/

namespace Fallible

universe u v

variable {ε : Type v} {α β σ : Type u}

/-- Every error the computation can end in satisfies `P`. -/
def FailsIn (P : ε → Prop) (x : Except ε α) : Prop := ∀ e, x = .error e → P e

namespace FailsIn

variable {P : ε → Prop}

lemma ok (a : α) : FailsIn P (.ok a : Except ε α) := by
  intro e h
  cases h

lemma pure (a : α) : FailsIn P (Pure.pure a : Except ε α) := ok a

lemma error {e : ε} (h : P e) : FailsIn P (.error e : Except ε α) := by
  intro e' he
  cases he
  exact h

lemma bind {x : Except ε α} {f : α → Except ε β} (hx : FailsIn P x)
    (hf : ∀ a, x = .ok a → FailsIn P (f a)) : FailsIn P (x >>= f) := by
  intro e he
  cases hres : x with
  | error e' =>
      rw [hres] at he
      cases he
      exact hx e hres
  | ok a =>
      rw [hres] at he
      exact hf a hres e he

lemma failIf {bad : Prop} [Decidable bad] {e : ε} (h : bad → P e) :
    FailsIn P (Fallible.failIf bad e) := by
  intro e' he
  rw [Fallible.failIf] at he
  split at he
  · rename_i hbad
    cases he
    exact h hbad
  · cases he

lemma mapM {f : α → Except ε β} {l : List α} (h : ∀ a ∈ l, FailsIn P (f a)) :
    FailsIn P (l.mapM f) := by
  induction l with
  | nil => exact pure []
  | cons a l ih =>
      rw [List.mapM_cons]
      exact (h a (by simp)).bind fun b _ =>
        (ih fun c hc => h c (by simp [hc])).bind fun bs _ => pure (b :: bs)

lemma forM {f : α → Except ε PUnit.{u + 1}} {l : List α} (h : ∀ a ∈ l, FailsIn P (f a)) :
    FailsIn P (l.forM f) := by
  induction l with
  | nil => exact pure _
  | cons a l ih => exact (h a (by simp)).bind fun _ _ => ih fun c hc => h c (by simp [hc])

/-- A loop fails as its rounds do, each started from a state of the invariant. -/
lemma foldlM {f : σ → α → Except ε σ} {I : List α → σ → Prop} {l : List α} {s : σ}
    (hinit : I [] s)
    (hkeep : ∀ pre a post x y, l = pre ++ a :: post → I pre x → f x a = .ok y → I (pre ++ [a]) y)
    (hround : ∀ pre a post x, l = pre ++ a :: post → I pre x → FailsIn P (f x a)) :
    FailsIn P (l.foldlM f s) := by
  have key : ∀ (post pre : List α) (s : σ), l = pre ++ post → I pre s →
      FailsIn P (post.foldlM f s) := by
    intro post
    induction post with
    | nil => exact fun pre s _ _ => pure s
    | cons a post ih =>
        intro pre s hl hs
        rw [List.foldlM_cons]
        refine (hround pre a post s hl hs).bind fun x hx => ?_
        exact ih (pre ++ [a]) x (by simpa using hl) (hkeep pre a post s x hl hs hx)
  exact key l [] s rfl hinit

end FailsIn

end Fallible
