import Mathlib.Data.List.Chain
import Mathlib.Tactic

/-!
Logs that only grow, and what ties an entry to those before it.

* `Obeys`: every entry obeys a rule about the log before it; `Obeys.concat`: a log keeps
  obeying it when an entry is written that does; `exists_first`: when something first holds.
* `InTurn`: operations that take turns in a log, each having its last turn before a later
  one has its first; `InTurn.between`: **what two turns of a log say about those between
  them**.
-/

namespace Chronicle

variable {α : Type*}

/-! ### Rules about earlier entries -/

/-- Every entry obeys a rule about the entries before it. -/
def Obeys (rule : List α → α → Prop) (log : List α) : Prop :=
  ∀ before entry after, log = before ++ entry :: after → rule before entry

variable {rule : List α → α → Prop} {log : List α}

lemma Obeys.nil : Obeys rule [] := fun before entry after h => by simp at h

/-- The last entry of a log told apart from the others. -/
lemma concat_eq_split {entry : α} {before : List α} {other : α} {after : List α}
    (h : log ++ [entry] = before ++ other :: after) :
    (log = before ∧ entry = other ∧ after = []) ∨
      ∃ rest, after = rest ++ [entry] ∧ log = before ++ other :: rest := by
  rcases List.eq_nil_or_concat after with rfl | ⟨rest, last, rfl⟩
  · obtain ⟨hlog, hentry⟩ := List.append_inj' h rfl
    exact Or.inl ⟨hlog, (List.cons.inj hentry).1, rfl⟩
  · rw [List.concat_eq_append, ← List.cons_append, ← List.append_assoc] at h
    obtain ⟨hlog, hlast⟩ := List.append_inj' h rfl
    exact Or.inr ⟨rest, by rw [List.concat_eq_append, (List.cons.inj hlast).1], hlog⟩

/-- An entry that obeys the rule is written. -/
lemma Obeys.concat (h : Obeys rule log) {entry : α} (hentry : rule log entry) :
    Obeys rule (log ++ [entry]) := by
  intro before other after hsplit
  rcases concat_eq_split hsplit with ⟨rfl, rfl, -⟩ | ⟨rest, -, hlog⟩
  · exact hentry
  · exact h before other rest hlog

/-- A rule that the entries obey as well. -/
lemma Obeys.imp {rule' : List α → α → Prop} (h : Obeys rule log)
    (himp : ∀ before entry, rule before entry → rule' before entry) : Obeys rule' log :=
  fun before entry after hsplit => himp before entry (h before entry after hsplit)

/-- Entries that obey the rule are written one after another. -/
lemma Obeys.append (h : Obeys rule log) {new : List α}
    (hnew : ∀ before entry after, new = before ++ entry :: after → rule (log ++ before) entry) :
    Obeys rule (log ++ new) := by
  induction new using List.reverseRecOn with
  | nil => rwa [List.append_nil]
  | append_singleton new last ih =>
      rw [← List.append_assoc]
      refine (ih fun before entry after hsplit => ?_).concat (hnew new last [] rfl)
      exact hnew before entry (after ++ [last]) (by rw [hsplit]; simp)

/-- An entry and the log before it, by its place. -/
lemma obeys_iff : Obeys rule log ↔ ∀ (n : ℕ) (h : n < log.length), rule (log.take n) log[n] := by
  constructor
  · intro h n hn
    refine h (log.take n) log[n] (log.drop (n + 1)) ?_
    rw [← List.drop_eq_getElem_cons hn, List.take_append_drop]
  · rintro h before entry after rfl
    have hn : before.length < (before ++ entry :: after).length := by simp
    have hrule := h before.length hn
    rwa [List.take_left, List.getElem_append_right le_rfl, getElem_congr_idx (Nat.sub_self _)]
      at hrule

instance [∀ before entry, Decidable (rule before entry)] : Decidable (Obeys rule log) :=
  decidable_of_iff _ obeys_iff.symm

/-- The shortest beginning of a log of which something holds. -/
lemma exists_first {holds : List α → Prop} (h : holds log) :
    ∃ first, first <+: log ∧ holds first ∧
      ∀ other, other <+: log → holds other → first <+: other := by
  classical
  have hsome : ∃ length, holds (log.take length) := ⟨log.length, by rwa [List.take_length]⟩
  refine ⟨log.take (Nat.find hsome), List.take_prefix _ _, Nat.find_spec hsome,
    fun other hprefix hother => ?_⟩
  have htake := List.prefix_iff_eq_take.mp hprefix
  rw [htake] at hother ⊢
  exact List.take_prefix_take_left (Nat.find_min' hsome hother)

/-! ### Turns -/

/-- An operation, and whether this is its last turn. -/
abbrev Turn := ℕ × Bool

/-- Which turn may follow another: one of the same operation until its last, then one of a
later operation. -/
def Turn.Follows (x y : Turn) : Prop := if x.2 then x.1 < y.1 else y.1 = x.1

/-- The operations of a log take turns. -/
def InTurn (turn : α → Option Turn) (log : List α) : Prop :=
  (log.filterMap turn).IsChain Turn.Follows

variable {turn : α → Option Turn}

lemma InTurn.nil : InTurn turn [] := List.IsChain.nil

/-- An entry without a turn is written. -/
lemma InTurn.concat_none (h : InTurn turn log) {entry : α} (hentry : turn entry = none) :
    InTurn turn (log ++ [entry]) := by
  rw [InTurn, List.filterMap_append, List.filterMap_cons, hentry, List.filterMap_nil,
    List.append_nil]
  exact h

/-- A turn is taken that may follow the last one. -/
lemma InTurn.concat_some (h : InTurn turn log) {entry : α} {y : Turn} (hentry : turn entry = some y)
    (hlast : ∀ x, (log.filterMap turn).getLast? = some x → Turn.Follows x y) :
    InTurn turn (log ++ [entry]) := by
  rw [InTurn, List.filterMap_append, List.filterMap_cons, hentry]
  refine List.isChain_append.mpr ⟨h, List.isChain_singleton y, fun x hx z hz => ?_⟩
  obtain rfl : y = z := by simpa using hz
  exact hlast x hx

/-- Two turns of a chain: of one operation that has not had its last turn, or of a later
operation when the earlier one has. -/
lemma Turn.between {x : Turn} {mid : List Turn} {y : Turn} {after : List Turn}
    (h : (x :: (mid ++ y :: after)).IsChain Turn.Follows) :
    y.1 = x.1 ∧ x.2 = false ∨ x.1 < y.1 ∧ (x.1, true) ∈ x :: mid := by
  induction mid generalizing x with
  | nil =>
      have hnext := (List.isChain_cons_cons.mp h).1
      rw [Turn.Follows] at hnext
      split at hnext
      · rename_i hlast
        exact Or.inr ⟨hnext, by rw [← hlast]; simp⟩
      · rename_i hmore
        exact Or.inl ⟨hnext, by simpa using hmore⟩
  | cons m mid ih =>
      obtain ⟨hnext, hrest⟩ := List.isChain_cons_cons.mp h
      rw [Turn.Follows] at hnext
      split at hnext
      · rename_i hlast
        refine Or.inr ⟨?_, by rw [← hlast]; simp⟩
        rcases ih hrest with ⟨heq, -⟩ | ⟨hlt, -⟩
        · omega
        · omega
      · rename_i hmore
        rcases ih hrest with ⟨heq, -⟩ | ⟨hlt, hmem⟩
        · exact Or.inl ⟨heq.trans hnext, by simpa using hmore⟩
        · rw [hnext] at hlt hmem
          exact Or.inr ⟨hlt, List.mem_cons_of_mem _ hmem⟩

/-- **What two turns of a log say about those between them**: they are turns of one
operation whose last turn is still to come, or the earlier operation has had its last turn
before the later one. -/
theorem InTurn.between (h : InTurn turn log) {before mid after : List α} {a b : α} {x y : Turn}
    (hlog : log = before ++ a :: (mid ++ b :: after)) (ha : turn a = some x)
    (hb : turn b = some y) :
    y.1 = x.1 ∧ x.2 = false ∨
      x.1 < y.1 ∧ ∃ entry ∈ a :: mid, turn entry = some (x.1, true) := by
  rw [InTurn, hlog, List.filterMap_append, List.filterMap_cons, ha, List.filterMap_append,
    List.filterMap_cons, hb] at h
  refine (Turn.between (List.isChain_append.mp h).2.1).imp id fun ⟨hlt, hmem⟩ => ⟨hlt, ?_⟩
  refine List.mem_filterMap.mp (?_ : (x.1, true) ∈ (a :: mid).filterMap turn)
  rw [List.filterMap_cons, ha]
  exact hmem

end Chronicle
