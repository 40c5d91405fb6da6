import Mathlib.Tactic

/-!
A register that keeps the value of highest rank among those written to it, the earlier of two
with one rank.

* `keepNewer`: one write; `newest`: a sequence of writes.
* `Behind`: the values a register can still move on from; writes only lead ahead
  (`behind_newest`).
* `newest_append`, `newest_cons_of_le`: writes one after the other, and a write without effect.
-/

namespace Newest

variable {α β : Type*} [LinearOrder β] (rank : α → β)

/-- One write. -/
def keepNewer (held next : α) : α := if rank held < rank next then next else held

/-- A sequence of writes. -/
def newest (held : α) (writes : List α) : α := writes.foldl (keepNewer rank) held

/-- The same value, or one of lower rank. -/
def Behind (a b : α) : Prop := a = b ∨ rank a < rank b

variable {rank} {a b c held next : α} {writes : List α}

lemma Behind.refl (a : α) : Behind rank a a := Or.inl rfl

lemma Behind.trans (hab : Behind rank a b) (hbc : Behind rank b c) : Behind rank a c := by
  rcases hab with rfl | hab
  · exact hbc
  · rcases hbc with rfl | hbc
    · exact Or.inr hab
    · exact Or.inr (hab.trans hbc)

lemma Behind.rank_le (h : Behind rank a b) : rank a ≤ rank b := by
  rcases h with rfl | h
  · exact le_rfl
  · exact h.le

lemma keepNewer_of_lt (h : rank held < rank next) : keepNewer rank held next = next := if_pos h

lemma keepNewer_of_le (h : rank next ≤ rank held) : keepNewer rank held next = held :=
  if_neg (not_lt.mpr h)

/-- A register moves on to what it is behind of. -/
lemma Behind.keepNewer_eq (h : Behind rank held next) : keepNewer rank held next = next := by
  rcases h with rfl | h
  · exact keepNewer_of_le le_rfl
  · exact keepNewer_of_lt h

lemma behind_keepNewer (held next : α) : Behind rank held (keepNewer rank held next) := by
  rw [keepNewer]
  split
  · rename_i h
    exact Or.inr h
  · exact Or.inl rfl

@[simp] lemma newest_nil (held : α) : newest rank held [] = held := rfl

@[simp] lemma newest_cons (held next : α) (writes : List α) :
    newest rank held (next :: writes) = newest rank (keepNewer rank held next) writes := rfl

lemma newest_append (held : α) (writes writes' : List α) :
    newest rank held (writes ++ writes') = newest rank (newest rank held writes) writes' :=
  List.foldl_append

lemma newest_concat (held next : α) (writes : List α) :
    newest rank held (writes ++ [next]) = keepNewer rank (newest rank held writes) next :=
  newest_append held writes [next]

/-- **Writes only lead ahead.** -/
lemma behind_newest (held : α) (writes : List α) : Behind rank held (newest rank held writes) := by
  induction writes generalizing held with
  | nil => exact Behind.refl held
  | cons next writes ih => exact (behind_keepNewer held next).trans (ih _)

lemma newest_cons_of_le (h : rank next ≤ rank held) (writes : List α) :
    newest rank held (next :: writes) = newest rank held writes := by
  rw [newest_cons, keepNewer_of_le h]

lemma newest_cons_of_lt (h : rank held < rank next) (writes : List α) :
    newest rank held (next :: writes) = newest rank next writes := by
  rw [newest_cons, keepNewer_of_lt h]

/-- A write of no higher rank than the register had to begin with has no effect later. -/
lemma keepNewer_newest_of_le (h : rank next ≤ rank held) (writes : List α) :
    keepNewer rank (newest rank held writes) next = newest rank held writes :=
  keepNewer_of_le (h.trans (behind_newest held writes).rank_le)

end Newest
