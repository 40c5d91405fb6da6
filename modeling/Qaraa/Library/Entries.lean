import Qaraa.Library.Ordered

/-!
Lists of entries as values: a map written down entry by entry, copied, filtered by key
and merged with another.

* `spread`: the entries of one map with those of another assigned over them, the later
  map winning; `lookup_spread` says what a key holds afterwards, `spread_of_disjoint`
  that maps without a common key are only put one after the other.
* `without`, `only`: the entries whose keys are not, or are, among some known keys;
  `lookup_without` and `lookup_only` read them.
* `without_spread_without`, `only_spread_without`: what was left out of a map comes back
  whole from under the entries written over it, and does not show under known keys.
-/

namespace Entries

open Ordered OrderedMap
open List (lookup)

variable {κ ν : Type*} [DecidableEq κ]

/-- The keys, oldest entry first. -/
def keys (l : List (κ × ν)) : List κ := l.map Prod.fst

/-- The entries of `base` with those of `late` assigned one by one. -/
def spread (base late : List (κ × ν)) : List (κ × ν) :=
  late.foldl (fun l e => assign e.1 e.2 l) base

/-- The entries whose keys are not known. -/
def without (known : List κ) (l : List (κ × ν)) : List (κ × ν) := l.filter fun e => e.1 ∉ known

/-- The entries whose keys are known. -/
def only (known : List κ) (l : List (κ × ν)) : List (κ × ν) := l.filter fun e => e.1 ∈ known

/-! ### Lookups -/

lemma lookup_eq_none {k : κ} {l : List (κ × ν)} : lookup k l = none ↔ k ∉ keys l := by
  rw [List.lookup_eq_none_iff, keys, List.mem_map]
  constructor
  · rintro h ⟨e, he, rfl⟩
    exact bne_iff_ne.mp (h e he) rfl
  · exact fun h e he => bne_iff_ne.mpr fun hk => h ⟨e, he, hk.symm⟩

/-- A filter on keys keeps or drops a key as a whole. -/
lemma lookup_filter (p : κ → Prop) [DecidablePred p] (k : κ) (l : List (κ × ν)) :
    lookup k (l.filter fun e => p e.1) = if p k then lookup k l else none := by
  induction l with
  | nil => simp
  | cons e l ih =>
      obtain ⟨k', v⟩ := e
      by_cases hp : p k'
      · rw [List.filter_cons_of_pos (by simpa using hp), lookup_cons, lookup_cons, ih]
        by_cases hk : k' = k
        · rw [if_pos hk, if_pos hk, if_pos (hk ▸ hp)]
        · rw [if_neg hk, if_neg hk]
      · rw [List.filter_cons_of_neg (by simpa using hp), ih, lookup_cons]
        by_cases hk : k' = k
        · rw [if_neg (hk ▸ hp), if_neg (hk ▸ hp)]
        · rw [if_neg hk]

/-- A filter on values keeps or drops a key that occurs once. -/
lemma lookup_filter_values (p : ν → Bool) (k : κ) {l : List (κ × ν)} (h : (keys l).Nodup) :
    lookup k (l.filter fun e => p e.2) = (lookup k l).filter p := by
  induction l with
  | nil => rfl
  | cons e l ih =>
      obtain ⟨k', v⟩ := e
      rw [keys, List.map_cons, List.nodup_cons] at h
      have hrest := ih h.2
      by_cases hp : p v = true
      · rw [List.filter_cons_of_pos (by exact hp), lookup_cons, lookup_cons, hrest]
        split
        · rw [Option.filter_some, if_pos hp]
        · rfl
      · rw [List.filter_cons_of_neg (by exact hp), hrest, lookup_cons]
        split
        case isTrue hk =>
          have hnone : lookup k l = none := lookup_eq_none.mpr (hk ▸ h.1)
          rw [hnone, Option.filter_some, if_neg hp, Option.filter_none]
        case isFalse => rfl

lemma lookup_without {known : List κ} {k : κ} (h : k ∉ known) (l : List (κ × ν)) :
    lookup k (without known l) = lookup k l := by
  rw [without, lookup_filter (fun k => k ∉ known), if_pos h]

lemma lookup_without_of_mem {known : List κ} {k : κ} (h : k ∈ known) (l : List (κ × ν)) :
    lookup k (without known l) = none := by
  rw [without, lookup_filter (fun k => k ∉ known), if_neg (by simpa using h)]

lemma lookup_only {known : List κ} {k : κ} (h : k ∈ known) (l : List (κ × ν)) :
    lookup k (only known l) = lookup k l := by
  rw [only, lookup_filter (fun k => k ∈ known), if_pos h]

lemma notMem_keys_without {known : List κ} {k : κ} (h : k ∈ known) (l : List (κ × ν)) :
    k ∉ keys (without known l) := lookup_eq_none.mp (lookup_without_of_mem h l)

/-- What was kept for its keys has no other key. -/
lemma without_only (known : List κ) (l : List (κ × ν)) : without known (only known l) = [] := by
  simp [without, only, List.filter_filter]

/-! ### Merging -/

/-- A key of the map written over the other has the value it has there. -/
lemma lookup_spread {late : List (κ × ν)} (hlate : (keys late).Nodup) (k : κ)
    (base : List (κ × ν)) :
    lookup k (spread base late) = (lookup k late).or (lookup k base) := by
  induction late generalizing base with
  | nil => simp [spread]
  | cons e late ih =>
      obtain ⟨k', v⟩ := e
      rw [keys, List.map_cons, List.nodup_cons] at hlate
      have hrest : lookup k (spread base ((k', v) :: late)) =
          (lookup k late).or (lookup k (assign k' v base)) := ih hlate.2 (assign k' v base)
      rw [hrest, lookup_cons]
      by_cases hk : k' = k
      · subst hk
        have hnone : lookup k' late = none := lookup_eq_none.mpr hlate.1
        rw [hnone, lookup_assign_self, if_pos rfl]
        rfl
      · rw [lookup_assign_of_ne (Ne.symm hk), if_neg hk]

lemma nodup_spread {late base : List (κ × ν)} (h : (keys base).Nodup) :
    (keys (spread base late)).Nodup := by
  induction late generalizing base with
  | nil => exact h
  | cons e late ih => exact ih (nodup_assign h)

/-- Maps without a common key are only put one after the other. -/
lemma spread_of_disjoint {late : List (κ × ν)} (hlate : (keys late).Nodup) {base : List (κ × ν)}
    (h : ∀ k ∈ keys late, k ∉ keys base) : spread base late = base ++ late := by
  induction late generalizing base with
  | nil => simp [spread]
  | cons e late ih =>
      obtain ⟨k, v⟩ := e
      rw [keys, List.map_cons, List.nodup_cons] at hlate
      have hassign : assign k v base = base ++ [(k, v)] := assign_of_notMem (h k (by simp [keys]))
      have hrest : spread (assign k v base) late = assign k v base ++ late := by
        refine ih hlate.2 fun k' hk' hmem => ?_
        rw [hassign, keys, List.map_append, List.mem_append] at hmem
        rcases hmem with hmem | hmem
        · exact h k' (by simpa [keys] using Or.inr (by simpa [keys] using hk')) hmem
        · simp only [List.map_cons, List.map_nil, List.mem_singleton] at hmem
          exact hlate.1 (hmem ▸ hk')
      calc spread base ((k, v) :: late) = spread (assign k v base) late := rfl
        _ = base ++ (k, v) :: late := by rw [hrest, hassign]; simp

/-- What was left out of a map comes back whole from under the entries written over it. -/
lemma without_spread_without {known : List κ} {late : List (κ × ν)} (hlate : (keys late).Nodup)
    (hknown : ∀ k ∈ keys late, k ∈ known) (l : List (κ × ν)) :
    without known (spread (without known l) late) = without known l := by
  rw [spread_of_disjoint hlate fun k hk => notMem_keys_without (hknown k hk) l]
  have hdrop : without known late = [] := by
    rw [without, List.filter_eq_nil_iff]
    intro e he
    simpa using hknown e.1 (List.mem_map.mpr ⟨e, he, rfl⟩)
  calc without known (without known l ++ late)
      = without known (without known l) ++ without known late := List.filter_append ..
    _ = without known (without known l) := by rw [hdrop, List.append_nil]
    _ = without known l := by simp [without, List.filter_filter]

/-- Reading known keys only, what was left out of a map is not seen. -/
lemma only_spread_without {known some : List κ} {late : List (κ × ν)}
    (hlate : (keys late).Nodup) (hknown : ∀ k ∈ keys late, k ∈ known)
    (hsome : ∀ k ∈ some, k ∈ known) (l : List (κ × ν)) :
    only some (spread (without known l) late) = only some late := by
  rw [spread_of_disjoint hlate fun k hk => notMem_keys_without (hknown k hk) l]
  have hdrop : only some (without known l) = [] := by
    rw [only, List.filter_eq_nil_iff]
    intro e he
    have hnot : e.1 ∉ known := by simpa using (List.mem_filter.mp he).2
    simpa using fun hmem => hnot (hsome e.1 hmem)
  calc only some (without known l ++ late)
      = only some (without known l) ++ only some late := List.filter_append ..
    _ = only some late := by rw [hdrop, List.nil_append]

end Entries
