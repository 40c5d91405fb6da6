import Mathlib.Data.List.Sort
import Mathlib.Tactic

/-!
The two largest entries of a list, found in one pass.

* `IsTopTwo`: the two largest entries, counted with multiplicity.
* `IsTopTwo.lead`, `IsTopTwo.trail`: what a new entry does to them, the largest entry
  given.
* `IsTopTwo.sorted`: they begin the list in descending order.
* `insertionSort_eq_of_perm`: the order of the entries does not change the sorted list.
-/

namespace TopTwo

section Order

variable {α : Type*} [LinearOrder α]

/-- `first` is the largest and `second` the second largest entry of the list. -/
def IsTopTwo (l : List α) (first second : α) : Prop :=
  second ≤ first ∧ ∃ rest, l.Perm (first :: second :: rest) ∧ ∀ x ∈ rest, x ≤ second

namespace IsTopTwo

variable {l : List α} {first second x : α}

/-- Two entries, the later one not smaller. -/
lemma pair_lead (h : first ≤ x) : IsTopTwo [first, x] x first :=
  ⟨h, [], .swap x first [], by simp⟩

/-- Two entries, the later one not larger. -/
lemma pair_trail (h : x ≤ first) : IsTopTwo [first, x] first x := ⟨h, [], .rfl, by simp⟩

/-- A new largest entry moves the old one down. -/
lemma lead (h : IsTopTwo l first second) (hx : first ≤ x) : IsTopTwo (l ++ [x]) x first := by
  obtain ⟨hle, rest, hperm, hrest⟩ := h
  refine ⟨hx, second :: rest, ?_, ?_⟩
  · exact (List.perm_append_singleton x l).trans (hperm.cons x)
  · intro y hy
    rcases List.mem_cons.mp hy with rfl | hy
    · exact hle
    · exact (hrest y hy).trans hle

/-- Any other new entry competes for the second place. -/
lemma trail (h : IsTopTwo l first second) (hx : x ≤ first) :
    IsTopTwo (l ++ [x]) first (max second x) := by
  obtain ⟨hle, rest, hperm, hrest⟩ := h
  have happend := (List.perm_append_singleton x l).trans (hperm.cons x)
  rcases le_total second x with hsecond | hsecond
  · rw [max_eq_right hsecond]
    refine ⟨hx, second :: rest, happend.trans (.swap first x _), ?_⟩
    intro y hy
    rcases List.mem_cons.mp hy with rfl | hy
    · exact hsecond
    · exact (hrest y hy).trans hsecond
  · rw [max_eq_left hsecond]
    refine ⟨hle, x :: rest, ?_, ?_⟩
    · exact happend.trans
        ((List.Perm.swap first x _).trans ((List.Perm.swap second x _).cons first))
    · intro y hy
      rcases List.mem_cons.mp hy with rfl | hy
      · exact hsecond
      · exact hrest y hy

/-- In descending order the two come first. -/
lemma sorted (h : IsTopTwo l first second) :
    ∃ tail, l.insertionSort (fun a b => b ≤ a) = first :: second :: tail := by
  obtain ⟨hle, rest, hperm, hrest⟩ := h
  have hsorted := List.pairwise_insertionSort (fun a b : α => b ≤ a) rest
  refine ⟨rest.insertionSort fun a b => b ≤ a, ?_⟩
  refine List.Perm.eq_of_pairwise (fun a b _ _ hab hba => le_antisymm hba hab)
    (List.pairwise_insertionSort (fun a b : α => b ≤ a) l) ?_ ?_
  · refine List.pairwise_cons.mpr ⟨?_, List.pairwise_cons.mpr ⟨?_, hsorted⟩⟩
    · intro y hy
      rcases List.mem_cons.mp hy with rfl | hy
      · exact hle
      · exact (hrest y (List.mem_insertionSort _ |>.mp hy)).trans hle
    · intro y hy
      exact hrest y (List.mem_insertionSort _ |>.mp hy)
  · exact (List.perm_insertionSort _ l).trans
      (hperm.trans (((List.perm_insertionSort _ rest).symm.cons second).cons first))

end IsTopTwo

end Order

/-- Sorting by a key that tells the entries apart forgets the order they came in. -/
lemma insertionSort_eq_of_perm {α κ : Type*} [LinearOrder κ] {r : α → α → Prop}
    [DecidableRel r] {key : α → κ} (hr : ∀ a b, r a b ↔ key a ≤ key b) {l l' : List α}
    (hkey : ∀ a ∈ l, ∀ b ∈ l, key a = key b → a = b) (hperm : l'.Perm l) :
    l'.insertionSort r = l.insertionSort r := by
  have : Std.Total r := ⟨fun a b => by rw [hr, hr]; exact le_total _ _⟩
  have : IsTrans α r := ⟨fun a b c hab hbc => by rw [hr] at hab hbc ⊢; exact hab.trans hbc⟩
  refine List.Perm.eq_of_pairwise ?_ (List.pairwise_insertionSort r l')
    (List.pairwise_insertionSort r l)
    ((List.perm_insertionSort r l').trans (hperm.trans (List.perm_insertionSort r l).symm))
  intro a b ha hb hab hba
  rw [hr] at hab hba
  exact hkey a (hperm.mem_iff.mp ((List.mem_insertionSort r).mp ha)) b
    ((List.mem_insertionSort r).mp hb) (le_antisymm hab hba)

end TopTwo
