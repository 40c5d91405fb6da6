import Mathlib.Tactic
import Mathlib.Data.List.Nodup

/-!
Insertion-ordered sets and maps: finite collections that remember the order in which
their members were first added, as the iteration order of an object set or map does.

* `OrderedSet`: a duplicate-free list; `add` appends a new member and leaves a present
  one where it is, `delete` removes it, `has_add` and `has_delete` say what membership
  becomes.
* `OrderedMap`: a list of entries with distinct keys; `set` overwrites in place or
  appends, and the four lookup laws `get_set_self`, `get_set_of_ne`,
  `get_delete_self`, `get_delete_of_ne` are the simp set the later proofs run on.
* `OrderedMap.ofList_entries`: building a map from entries with distinct keys keeps
  the entries and their order.
-/

namespace Ordered

/-! ### Sets -/

/-- An insertion-ordered set: its members, each once, oldest first. -/
structure OrderedSet (α : Type*) where
  items : List α
  nodup : items.Nodup

namespace OrderedSet

variable {α : Type*}

@[ext] lemma ext {s t : OrderedSet α} (h : s.items = t.items) : s = t := by
  cases s; cases t; cases h; rfl

/-- The set with no member. -/
def empty : OrderedSet α := ⟨[], List.nodup_nil⟩

/-- The number of members. -/
def size (s : OrderedSet α) : ℕ := s.items.length

@[simp] lemma items_empty : (empty : OrderedSet α).items = [] := rfl

variable [DecidableEq α]

instance : DecidableEq (OrderedSet α) := fun s t =>
  decidable_of_iff (s.items = t.items) ⟨ext, fun h => h ▸ rfl⟩

/-- Membership, as a computed test. -/
def has (s : OrderedSet α) (a : α) : Bool := decide (a ∈ s.items)

/-- A new member goes last; a present one keeps its place. -/
def add (s : OrderedSet α) (a : α) : OrderedSet α :=
  if h : a ∈ s.items then s else
    ⟨s.items ++ [a], List.nodup_append.mpr ⟨s.nodup, List.nodup_singleton a, by
      intro b hb c hc hbc
      rw [List.mem_singleton.mp hc] at hbc
      exact h (hbc ▸ hb)⟩⟩

/-- The set without a member. -/
def delete (s : OrderedSet α) (a : α) : OrderedSet α := ⟨s.items.erase a, s.nodup.erase a⟩

/-- The members of a list, in the order of their first occurrence. -/
def ofList (l : List α) : OrderedSet α := l.foldl add empty

lemma has_iff {s : OrderedSet α} {a : α} : s.has a = true ↔ a ∈ s.items := by
  simp [has]

lemma items_add (s : OrderedSet α) (a : α) :
    (s.add a).items = if a ∈ s.items then s.items else s.items ++ [a] := by
  rw [add]; split <;> rfl

lemma items_add_of_notMem {s : OrderedSet α} {a : α} (h : a ∉ s.items) :
    (s.add a).items = s.items ++ [a] := by
  rw [items_add, if_neg h]

@[simp] lemma mem_add {s : OrderedSet α} {a b : α} :
    b ∈ (s.add a).items ↔ b ∈ s.items ∨ b = a := by
  rw [items_add]
  split
  · rename_i h
    exact ⟨Or.inl, fun hb => hb.elim id fun e => e ▸ h⟩
  · simp

@[simp] lemma mem_delete {s : OrderedSet α} {a b : α} :
    b ∈ (s.delete a).items ↔ b ≠ a ∧ b ∈ s.items := by
  rw [delete]
  exact s.nodup.mem_erase_iff

end OrderedSet

/-! ### Maps -/

/-- An insertion-ordered map: its entries, each key once, oldest first. -/
structure OrderedMap (κ ν : Type*) where
  entries : List (κ × ν)
  nodup : (entries.map Prod.fst).Nodup

namespace OrderedMap

open List (lookup)

variable {κ ν : Type*}

/-- The map with no entry. -/
def empty : OrderedMap κ ν := ⟨[], List.nodup_nil⟩

/-- The values, oldest entry first. -/
def values (m : OrderedMap κ ν) : List ν := m.entries.map Prod.snd

variable [DecidableEq κ]

/-- A lookup, entry by entry. -/
lemma lookup_cons (k k' : κ) (v : ν) (rest : List (κ × ν)) :
    lookup k ((k', v) :: rest) = if k' = k then some v else lookup k rest := by
  rw [List.lookup_cons]
  by_cases hk : k' = k
  · rw [if_pos hk, hk, beq_self_eq_true]
  · rw [if_neg hk, beq_false_of_ne (Ne.symm hk)]

/-- The entries with the value under `k` overwritten in place, or appended. -/
def assign (k : κ) (v : ν) : List (κ × ν) → List (κ × ν)
  | [] => [(k, v)]
  | (k', v') :: rest => if k' = k then (k, v) :: rest else (k', v') :: assign k v rest

/-- The entries without those of the key `k`. -/
def remove (k : κ) (l : List (κ × ν)) : List (κ × ν) := l.filter fun e => e.1 ≠ k

lemma mem_keys_assign {k k' : κ} {v : ν} {l : List (κ × ν)}
    (h : k' ∈ (assign k v l).map Prod.fst) : k' = k ∨ k' ∈ l.map Prod.fst := by
  induction l with
  | nil => simpa [assign] using h
  | cons e l ih =>
      rw [assign] at h
      split at h
      · simp only [List.map_cons, List.mem_cons] at h ⊢
        tauto
      · simp only [List.map_cons, List.mem_cons] at h ⊢
        rcases h with h | h
        · exact Or.inr (Or.inl h)
        · rcases ih h with h' | h'
          · exact Or.inl h'
          · exact Or.inr (Or.inr h')

lemma nodup_assign {k : κ} {v : ν} {l : List (κ × ν)} (h : (l.map Prod.fst).Nodup) :
    ((assign k v l).map Prod.fst).Nodup := by
  induction l with
  | nil => simp [assign]
  | cons e l ih =>
      rw [List.map_cons, List.nodup_cons] at h
      rw [assign]
      split
      · rename_i hk
        simpa [← hk] using h
      · rename_i hk
        rw [List.map_cons, List.nodup_cons]
        refine ⟨fun hmem => ?_, ih h.2⟩
        rcases mem_keys_assign hmem with h' | h'
        · exact hk h'
        · exact h.1 h'

/-- The value stored under a key. -/
def get (m : OrderedMap κ ν) (k : κ) : Option ν := lookup k m.entries

/-- Whether a key has a value. -/
def has (m : OrderedMap κ ν) (k : κ) : Bool := (m.get k).isSome

/-- The map with a value stored under a key. -/
def set (m : OrderedMap κ ν) (k : κ) (v : ν) : OrderedMap κ ν :=
  ⟨assign k v m.entries, nodup_assign m.nodup⟩

/-- The map without a key. -/
def delete (m : OrderedMap κ ν) (k : κ) : OrderedMap κ ν :=
  ⟨remove k m.entries, m.nodup.sublist (List.filter_sublist.map Prod.fst)⟩

/-- The map of a list of entries, a later value of a key replacing an earlier one. -/
def ofList (l : List (κ × ν)) : OrderedMap κ ν := l.foldl (fun m e => m.set e.1 e.2) empty

@[simp] lemma get_empty (k : κ) : (empty : OrderedMap κ ν).get k = none := rfl

lemma lookup_assign_self (k : κ) (v : ν) (l : List (κ × ν)) :
    lookup k (assign k v l) = some v := by
  induction l with
  | nil => simp [assign]
  | cons e l ih =>
      rw [assign]
      split
      · simp
      · rename_i hk
        simp only [lookup_cons, if_neg hk, ih]

lemma lookup_assign_of_ne {k k' : κ} (h : k' ≠ k) (v : ν) (l : List (κ × ν)) :
    lookup k' (assign k v l) = lookup k' l := by
  induction l with
  | nil => simp [assign, h]
  | cons e l ih =>
      obtain ⟨a, w⟩ := e
      rw [assign]
      split
      · rename_i hk
        simp [lookup_cons, hk, h.symm]
      · simp only [lookup_cons, ih]

@[simp] lemma get_set_self (m : OrderedMap κ ν) (k : κ) (v : ν) : (m.set k v).get k = some v :=
  lookup_assign_self k v m.entries

@[simp] lemma get_set_of_ne (m : OrderedMap κ ν) {k k' : κ} (h : k' ≠ k) (v : ν) :
    (m.set k v).get k' = m.get k' :=
  lookup_assign_of_ne h v m.entries

lemma lookup_remove (k k' : κ) (l : List (κ × ν)) :
    lookup k' (remove k l) = if k' = k then none else lookup k' l := by
  induction l with
  | nil => simp [remove]
  | cons e l ih =>
      obtain ⟨a, v⟩ := e
      by_cases ha : a = k
      · have hrem : remove k ((a, v) :: l) = remove k l := by simp [remove, ha]
        rw [hrem, ih, lookup_cons, ha]
        by_cases hk : k' = k
        · simp [hk]
        · simp [hk, Ne.symm hk]
      · have hrem : remove k ((a, v) :: l) = (a, v) :: remove k l := by simp [remove, ha]
        rw [hrem, lookup_cons, lookup_cons, ih]
        by_cases hk : k' = k
        · simp [hk, ha]
        · simp [hk]

@[simp] lemma get_delete_self (m : OrderedMap κ ν) (k : κ) : (m.delete k).get k = none := by
  simp [get, delete, lookup_remove]

@[simp] lemma get_delete_of_ne (m : OrderedMap κ ν) {k k' : κ} (h : k' ≠ k) :
    (m.delete k).get k' = m.get k' := by
  simp [get, delete, lookup_remove, h]

lemma mem_of_lookup {k : κ} {v : ν} {l : List (κ × ν)} (h : lookup k l = some v) :
    (k, v) ∈ l := by
  induction l with
  | nil => simp at h
  | cons e l ih =>
      rw [lookup_cons] at h
      split at h
      · rename_i hk
        cases h
        simp [← hk]
      · exact List.mem_cons_of_mem _ (ih h)

lemma lookup_of_mem {k : κ} {v : ν} {l : List (κ × ν)} (hl : (l.map Prod.fst).Nodup)
    (h : (k, v) ∈ l) : lookup k l = some v := by
  induction l with
  | nil => simp at h
  | cons e l ih =>
      obtain ⟨a, w⟩ := e
      rw [List.map_cons, List.nodup_cons] at hl
      rcases List.mem_cons.mp h with h' | h'
      · cases h'
        simp
      · have hne : a ≠ k := fun hak => hl.1 (hak ▸ List.mem_map.mpr ⟨(k, v), h', rfl⟩)
        rw [lookup_cons, if_neg hne]
        exact ih hl.2 h'

/-- A key has a value exactly when the entry is stored. -/
lemma get_eq_some_iff {m : OrderedMap κ ν} {k : κ} {v : ν} :
    m.get k = some v ↔ (k, v) ∈ m.entries :=
  ⟨mem_of_lookup, lookup_of_mem m.nodup⟩

lemma assign_of_notMem {k : κ} {v : ν} {l : List (κ × ν)} (h : k ∉ l.map Prod.fst) :
    assign k v l = l ++ [(k, v)] := by
  induction l with
  | nil => rfl
  | cons e l ih =>
      rw [List.map_cons, List.mem_cons, not_or] at h
      rw [assign, if_neg (Ne.symm h.1), ih h.2, List.cons_append]

lemma entries_set_of_notMem {m : OrderedMap κ ν} {k : κ} {v : ν}
    (h : k ∉ m.entries.map Prod.fst) : (m.set k v).entries = m.entries ++ [(k, v)] :=
  assign_of_notMem h

/-- Entries with distinct keys are kept, in order. -/
lemma ofList_entries {l : List (κ × ν)} (h : (l.map Prod.fst).Nodup) :
    (ofList l).entries = l := by
  have key : ∀ (l : List (κ × ν)) (m : OrderedMap κ ν),
      ((m.entries ++ l).map Prod.fst).Nodup →
      (l.foldl (fun m e => m.set e.1 e.2) m).entries = m.entries ++ l := by
    intro l
    induction l with
    | nil => intro m _; simp
    | cons e l ih =>
        intro m hm
        have he : e.1 ∉ m.entries.map Prod.fst := by
          rw [List.map_append, List.nodup_append] at hm
          exact fun hmem => hm.2.2 e.1 hmem e.1 (by simp) rfl
        have hset : (m.set e.1 e.2).entries = m.entries ++ [e] := entries_set_of_notMem he
        rw [List.foldl_cons, ih (m.set e.1 e.2), hset]
        · simp
        · rw [hset]; simpa using hm
  simpa [ofList, empty] using key l empty (by simpa [empty] using h)

lemma get_ofList_of_mem {l : List (κ × ν)} (h : (l.map Prod.fst).Nodup) {k : κ} {v : ν}
    (hm : (k, v) ∈ l) : (ofList l).get k = some v := by
  rw [get_eq_some_iff, ofList_entries h]
  exact hm

lemma values_ofList {l : List (κ × ν)} (h : (l.map Prod.fst).Nodup) :
    (ofList l).values = l.map Prod.snd := by
  rw [values, ofList_entries h]

end OrderedMap

end Ordered
