import Mathlib.Order.Bounds.Basic
import Mathlib.Data.List.Infix
import Mathlib.Tactic.Common

/-!
A counter of repetitions: it reads a sequence of values, some of them missing, and keeps the
last value with the number of times it has come in a row.

* `Streak.count`: one step of the counter; a missing value clears it.
* `Streak.IsBlock`: the number of times a value stands at the end of a sequence.
* `Streak.Counts`: the counter's content agrees with the sequence read so far; it holds of
  nothing read (`Streak.Counts.nil`) and **every step keeps it** (`Streak.Counts.concat`).
* `Streak.Counts.isBlock`, `Streak.Counts.eq_none_iff`: what the counter says of any value.
-/

namespace Streak

variable {α : Type*}

/-- One step of the counter. -/
def count [DecidableEq α] : Option (α × ℕ) → Option α → Option (α × ℕ)
  | _, none => none
  | none, some a => some (a, 1)
  | some (b, k), some a => some (a, if b = a then k + 1 else 1)

/-- The repetitions the counter has of a value. -/
def repetitions [DecidableEq α] (counter : Option (α × ℕ)) (a : α) : ℕ :=
  match counter with
  | none => 0
  | some (b, k) => if b = a then k else 0

/-- `k` is the length of the longest block of `a`s at the end of the sequence. -/
def IsBlock (l : List (Option α)) (a : α) (k : ℕ) : Prop :=
  IsGreatest {k : ℕ | List.replicate k (some a) <:+ l} k

lemma isBlock_nil (a : α) : IsBlock [] a 0 := by
  refine ⟨List.nil_suffix, ?_⟩
  intro k hk
  simpa using hk

/-- A block at the end is one repetition shorter without the last value. -/
lemma replicate_suffix_concat {l : List (Option α)} {x : Option α} {a : α} {k : ℕ} :
    List.replicate (k + 1) (some a) <:+ l ++ [x] ↔
      x = some a ∧ List.replicate k (some a) <:+ l := by
  rw [List.replicate_succ']
  constructor
  · rintro ⟨front, hfront⟩
    rw [← List.append_assoc] at hfront
    obtain ⟨hinit, hlast⟩ := List.append_inj' hfront rfl
    exact ⟨(List.singleton_inj.mp hlast).symm, front, hinit⟩
  · rintro ⟨rfl, front, rfl⟩
    exact ⟨front, by rw [List.append_assoc]⟩

lemma IsBlock.concat_self {l : List (Option α)} {a : α} {k : ℕ} (h : IsBlock l a k) :
    IsBlock (l ++ [some a]) a (k + 1) := by
  refine ⟨replicate_suffix_concat.mpr ⟨rfl, h.1⟩, ?_⟩
  intro m hm
  cases m with
  | zero => exact Nat.zero_le _
  | succ m => exact Nat.succ_le_succ (h.2 (replicate_suffix_concat.mp hm).2)

/-- A block ends at any other value. -/
lemma isBlock_concat_of_ne (l : List (Option α)) {a : α} {x : Option α} (h : x ≠ some a) :
    IsBlock (l ++ [x]) a 0 := by
  refine ⟨List.nil_suffix, ?_⟩
  intro m hm
  cases m with
  | zero => exact le_rfl
  | succ m => exact absurd (replicate_suffix_concat.mp hm).1 h

/-- The counter holds the last value and the length of its block. -/
def Counts (l : List (Option α)) : Option (α × ℕ) → Prop
  | none => ∀ a, IsBlock l a 0
  | some (a, k) => 0 < k ∧ IsBlock l a k ∧ ∀ b, b ≠ a → IsBlock l b 0

lemma Counts.nil : Counts ([] : List (Option α)) none := isBlock_nil

/-- The counter is clear exactly when nothing was read or the last value was missing. -/
lemma Counts.eq_none_iff {l : List (Option α)} {counter : Option (α × ℕ)} (h : Counts l counter) :
    counter = none ↔ ∀ a, l.getLast? ≠ some (some a) := by
  have hlast : ∀ a, l.getLast? = some (some a) ↔ List.replicate 1 (some a) <:+ l := by
    intro a
    rcases List.eq_nil_or_concat l with rfl | ⟨front, x, rfl⟩
    · simp
    · rw [List.concat_eq_append, replicate_suffix_concat, List.getLast?_concat]
      simp
  cases counter with
  | none =>
      refine iff_of_true rfl fun a ha => ?_
      exact absurd ((h a).2 ((hlast a).mp ha)) (by omega)
  | some pair =>
      obtain ⟨a, k⟩ := pair
      obtain ⟨hpos, hblock, -⟩ := h
      refine iff_of_false (Option.some_ne_none _) fun hall => hall a ((hlast a).mpr ?_)
      obtain ⟨m, rfl⟩ := Nat.exists_eq_add_of_lt hpos
      have hshorter : List.replicate 1 (some a) <:+ List.replicate (0 + m + 1) (some a) :=
        ⟨List.replicate m (some a), by rw [← List.replicate_add, Nat.zero_add]⟩
      exact hshorter.trans hblock.1

variable [DecidableEq α]

/-- Whatever the value, the counter has its block. -/
lemma Counts.isBlock {l : List (Option α)} {counter : Option (α × ℕ)} (h : Counts l counter)
    (a : α) : IsBlock l a (repetitions counter a) := by
  cases counter with
  | none => exact h a
  | some pair =>
      obtain ⟨b, k⟩ := pair
      obtain ⟨-, hblock, hother⟩ := h
      rw [repetitions]
      by_cases hb : b = a
      · rw [if_pos hb, ← hb]
        exact hblock
      · rw [if_neg hb]
        exact hother a (Ne.symm hb)

/-- **The counter counts**: reading one more value keeps it in agreement. -/
theorem Counts.concat {l : List (Option α)} {counter : Option (α × ℕ)} (h : Counts l counter)
    (x : Option α) : Counts (l ++ [x]) (count counter x) := by
  cases x with
  | none =>
      intro a
      exact isBlock_concat_of_ne l (Option.some_ne_none a).symm
  | some a =>
      have hother : ∀ b, b ≠ a → IsBlock (l ++ [some a]) b 0 := by
        intro b hb
        exact isBlock_concat_of_ne l fun heq => hb (Option.some.inj heq).symm
      have hself := (h.isBlock a).concat_self
      cases counter with
      | none => exact ⟨Nat.one_pos, hself, hother⟩
      | some pair =>
          obtain ⟨b, k⟩ := pair
          rw [repetitions] at hself
          rw [count]
          by_cases hb : b = a
          · rw [if_pos hb] at hself ⊢
            exact ⟨Nat.succ_pos k, hself, hother⟩
          · rw [if_neg hb] at hself ⊢
            exact ⟨Nat.one_pos, hself, hother⟩

end Streak
