import Qaraa.Core.Candidates
import Qaraa.Library.Loop

/-!
The positions around the cursor: how `addPosition` fills the selection.

* `mem_addPosition_self`, `mem_of_mem_addPosition`: what one `add` selects.
* `KeptByAdd.localPositions`: what every `add` keeps holds of the whole selection.
* `localPositions_inCorpus`, `size_localPositions_le`: the selection lies in the corpus
  and is bounded.
-/

namespace Qaraa

open Ordered

/-! ### One position -/

/-- A position in the corpus is added while there is room. -/
lemma mem_addPosition_self {n : ℕ} {positions : OrderedSet ℕ} {p : ℕ} (hp : p < n)
    (hroom : positions.size < MAX_LOCAL_CANDIDATES) {position : ℤ} (hposition : position = p) :
    p ∈ (addPosition n positions position).items := by
  subst hposition
  rw [addPosition]
  by_cases hmem : p ∈ positions.items
  · split
    · exact hmem
    · simp [hmem]
  · rw [if_neg]
    · simp
    · have hhas : positions.has p = false := by simpa [OrderedSet.has] using hmem
      simp only [Int.toNat_natCast, hhas, Bool.false_eq_true, or_false]
      omega

lemma mem_addPosition_of_mem {n p : ℕ} {positions : OrderedSet ℕ} (h : p ∈ positions.items)
    (position : ℤ) : p ∈ (addPosition n positions position).items := by
  rw [addPosition]
  split
  · exact h
  · exact OrderedSet.mem_add.mpr (Or.inl h)

lemma size_addPosition_le (n : ℕ) (positions : OrderedSet ℕ) (position : ℤ) :
    (addPosition n positions position).size ≤ positions.size + 1 := by
  rw [addPosition]
  split
  · omega
  · rw [OrderedSet.size, OrderedSet.items_add]
    split
    · rw [OrderedSet.size]
      omega
    · rw [List.length_append]
      exact le_rfl

lemma size_addPosition_of_notMem {n : ℕ} {positions : OrderedSet ℕ} {p : ℕ} (hp : p < n)
    (hroom : positions.size < MAX_LOCAL_CANDIDATES) (hnew : p ∉ positions.items) :
    (addPosition n positions p).size = positions.size + 1 := by
  have hhas : positions.has p = false := by simpa [OrderedSet.has] using hnew
  rw [addPosition, if_neg, OrderedSet.size, Int.toNat_natCast, OrderedSet.items_add_of_notMem hnew,
    List.length_append]
  · rfl
  · simp only [Int.toNat_natCast, hhas, Bool.false_eq_true, or_false]
    omega

lemma mem_of_mem_addPosition {n p : ℕ} {positions : OrderedSet ℕ} {position : ℤ}
    (h : p ∈ (addPosition n positions position).items) :
    p ∈ positions.items ∨ (p : ℤ) = position := by
  rw [addPosition] at h
  split at h
  · exact Or.inl h
  · rename_i hc
    rcases OrderedSet.mem_add.mp h with h | rfl
    · exact Or.inl h
    · refine Or.inr ?_
      omega

/-! ### The selection -/

/-- What every `add` of `localPositions` keeps. -/
def KeptByAdd (n : ℕ) (P : OrderedSet ℕ → Prop) : Prop :=
  ∀ positions position, P positions → P (addPosition n positions position)

namespace KeptByAdd

variable {n : ℕ} {P : OrderedSet ℕ → Prop}

lemma seedPositions (hadd : KeptByAdd n P) (hempty : P .empty) (cursor : ℕ)
    (activeRange : CorpusRange) (previousRange : Option CorpusRange) :
    P (seedPositions n cursor activeRange previousRange) := by
  refine Loop.foldl_induction (P := fun _ positions => P positions) ?_
    fun _ offset positions _ h => hadd positions _ h
  cases previousRange with
  | none => exact hadd _ _ hempty
  | some range => exact hadd _ _ (hadd _ _ hempty)

lemma stepActive (hadd : KeptByAdd n P) {walk : LocalWalk} (h : P walk.positions) (cursor : ℤ)
    (activeRange : CorpusRange) : P (walk.stepActive n cursor activeRange).positions := by
  rw [LocalWalk.stepActive]
  split
  · split
    · exact hadd _ _ h
    · split
      · exact hadd _ _ h
      · split
        · exact hadd _ _ h
        · exact hadd _ _ h
  · exact h

lemma stepPrevious (hadd : KeptByAdd n P) {walk : LocalWalk} (h : P walk.positions)
    (previousRange : Option CorpusRange) :
    P (walk.stepPrevious n previousRange).positions := by
  cases previousRange with
  | none => exact h
  | some range =>
      rw [LocalWalk.stepPrevious]
      split
      · exact hadd _ _ h
      · exact h

lemma run (hadd : KeptByAdd n P) {walk : LocalWalk} (h : P walk.positions) (cursor : ℤ)
    (activeRange : CorpusRange) (previousRange : Option CorpusRange) (rounds : ℕ) :
    P (LocalWalk.run n cursor activeRange previousRange rounds walk) := by
  induction rounds generalizing walk with
  | zero => exact h
  | succ rounds ih =>
      have hnext := hadd.stepPrevious (hadd.stepActive h cursor activeRange) previousRange
      rw [LocalWalk.run]
      split
      · dsimp only
        split
        · exact hnext
        · exact ih hnext
      · exact h

/-- What the empty set has and every `add` keeps, the local positions have. -/
lemma localPositions {index : IndexedCorpus} (hadd : KeptByAdd index.symbols.length P)
    (hempty : P .empty) (cursorSymbol : ℕ) : P (localPositions index cursorSymbol) := by
  rw [Qaraa.localPositions]
  dsimp only
  split
  · exact hempty
  · split
    · rename_i hpos _ _
      have hfirst := hadd .empty (min cursorSymbol (index.symbols.length - 1) : ℕ) hempty
      rw [addPosition, if_neg] at hfirst
      · exact hfirst
      · have hsize : (OrderedSet.empty : OrderedSet ℕ).size = 0 := rfl
        simp only [OrderedSet.has, OrderedSet.items_empty, List.not_mem_nil, decide_false,
          Bool.false_eq_true, or_false, hsize, MAX_LOCAL_CANDIDATES]
        omega
    · exact hadd.run (hadd.seedPositions hempty _ _ _) _ _ _ _

end KeptByAdd

/-- Every position is one of a symbol. -/
def InCorpus (symbolCount : ℕ) (positions : OrderedSet ℕ) : Prop :=
  ∀ p ∈ positions.items, p < symbolCount

lemma inCorpus_empty (n : ℕ) : InCorpus n .empty := by
  intro p hp
  simp at hp

lemma InCorpus.addPosition {n : ℕ} {positions : OrderedSet ℕ} (h : InCorpus n positions)
    (position : ℤ) : InCorpus n (addPosition n positions position) := by
  rw [Qaraa.addPosition]
  split
  · exact h
  · rename_i hc
    intro p hp
    rcases OrderedSet.mem_add.mp hp with hp | rfl
    · exact h p hp
    · omega

lemma localPositions_inCorpus (index : IndexedCorpus) (cursorSymbol : ℕ) :
    InCorpus index.symbols.length (localPositions index cursorSymbol) :=
  KeptByAdd.localPositions (fun _ position h => h.addPosition position) (inCorpus_empty _) _

/-- At most `MAX_LOCAL_CANDIDATES` positions are local. -/
lemma size_localPositions_le (index : IndexedCorpus) (cursorSymbol : ℕ) :
    (localPositions index cursorSymbol).size ≤ MAX_LOCAL_CANDIDATES := by
  refine KeptByAdd.localPositions (P := fun positions => positions.size ≤ MAX_LOCAL_CANDIDATES)
    (fun positions position h => ?_) (Nat.zero_le _) cursorSymbol
  rw [addPosition]
  split
  · exact h
  · rw [OrderedSet.size, OrderedSet.items_add]
    split
    · exact h
    · rw [List.length_append, List.length_singleton]
      rw [OrderedSet.size] at *
      omega

end Qaraa
