import Mathlib.Algebra.BigOperators.Group.List.Basic
import Qaraa.Library.QueueInvariant

/-!
Totals of a keyed queue: sums over the states of all keys, and over all promises.

* `State.slotTotal`, `State.callTotal`: the sum of a quantity of each shared state, and of
  each call and its phase.
* `slotTotal_setSlot`, `callTotal_put`, `callTotal_call`: how a change of one shared state
  or of one promise changes the totals; `resume_totals`: how a segment does.
* `Follows`, `Follows.step`: **a relation between a call and the frames of its operation that
  every segment keeps** holds of every operation that runs.
-/

namespace KeyedQueue

open Ordered

section

variable {K V F I R D : Type*}

/-- A count is a total. -/
lemma length_filter_eq_sum {α : Type*} (p : α → Bool) (l : List α) :
    ((l.filter p).length : ℤ) = (l.map fun a => if p a then 1 else 0).sum := by
  induction l with
  | nil => rfl
  | cons a l ih =>
      rw [List.map_cons, List.sum_cons, ← ih, List.filter_cons]
      split
      · rw [List.length_cons]
        omega
      · omega

/-! ### Shared states -/

/-- The sum of a quantity over the states of all keys. -/
def State.slotTotal (f : V → ℤ) (s : State K V F R) : ℤ := (s.slots.values.map f).sum

lemma State.slotTotal_empty (f : V → ℤ) : (State.empty : State K V F R).slotTotal f = 0 := rfl

lemma State.slotTotal_nonneg {f : V → ℤ} (h : ∀ v, 0 ≤ f v) (s : State K V F R) :
    0 ≤ s.slotTotal f := by
  refine List.sum_nonneg fun x hx => ?_
  obtain ⟨v, -, rfl⟩ := List.mem_map.mp hx
  exact h v

lemma sum_assign [DecidableEq K] (f : V → ℤ) (key : K) (v : V) (l : List (K × V)) :
    ((OrderedMap.assign key v l).map fun e => f e.2).sum
      = (l.map fun e => f e.2).sum - ((List.lookup key l).elim 0 f) + f v := by
  induction l with
  | nil => simp [OrderedMap.assign]
  | cons e l ih =>
      obtain ⟨key', v'⟩ := e
      rw [OrderedMap.assign, OrderedMap.lookup_cons]
      by_cases hkey : key' = key
      · rw [if_pos hkey, if_pos hkey, List.map_cons, List.map_cons, List.sum_cons, List.sum_cons,
          Option.elim_some]
        dsimp only
        omega
      · rw [if_neg hkey, if_neg hkey, List.map_cons, List.map_cons, List.sum_cons, List.sum_cons,
          ih]
        omega

/-- The state of one key changes. -/
lemma State.slotTotal_setSlot [DecidableEq K] [Inhabited V] {f : V → ℤ}
    (hdefault : f default = 0) (s : State K V F R) (key : K) (v : V) :
    (s.setSlot key v).slotTotal f = s.slotTotal f - f (s.slot key) + f v := by
  have hslot : f (s.slot key) = (List.lookup key s.slots.entries).elim 0 f := by
    rw [State.slot, OrderedMap.get]
    cases List.lookup key s.slots.entries with
    | none => exact hdefault
    | some v => rfl
  rw [hslot, State.slotTotal, State.slotTotal, OrderedMap.values, OrderedMap.values, List.map_map,
    List.map_map]
  exact sum_assign f key v s.slots.entries

/-! ### Promises -/

/-- The sum of a quantity over all calls. -/
def State.callTotal (g : F → Phase F R → ℤ) (s : State K V F R) : ℤ :=
  (s.entries.map fun e => g e.call e.phase).sum

lemma State.callTotal_empty (g : F → Phase F R → ℤ) :
    (State.empty : State K V F R).callTotal g = 0 := rfl

/-- A promise moves on. -/
lemma State.callTotal_put {g : F → Phase F R → ℤ} {s : State K V F R} {ticket : ℕ}
    {e : Entry K F R} (he : s.entries[ticket]? = some e) (phase : Phase F R) :
    (s.put ticket phase).callTotal g = s.callTotal g - g e.call e.phase + g e.call phase := by
  obtain ⟨hlt, rfl⟩ := List.getElem?_eq_some_iff.mp he
  have hsplit : s.entries
      = s.entries.take ticket ++ s.entries[ticket] :: s.entries.drop (ticket + 1) := by
    rw [← List.drop_eq_getElem_cons hlt, List.take_append_drop]
  have hsum := congrArg (fun l => (l.map fun e => g e.call e.phase).sum) hsplit
  rw [State.callTotal, State.callTotal, State.put]
  dsimp only at hsum ⊢
  rw [List.modify_eq_take_cons_drop hlt, hsum]
  simp only [List.map_append, List.map_cons, List.sum_append, List.sum_cons]
  omega

/-- A call is made. -/
lemma State.callTotal_call [DecidableEq K] [Inhabited V] (g : F → Phase F R → ℤ)
    (program : Program K V F I R D) (s : State K V F R) (key : K) (frame : F) :
    (s.step program (.call key frame)).callTotal g = s.callTotal g + g frame .waiting := by
  rw [State.callTotal, State.callTotal, State.step]
  simp

/-- A shared state is changed from outside. -/
lemma State.slotTotal_touch [DecidableEq K] [Inhabited V] (program : Program K V F I R D)
    {f : V → ℤ} (hdefault : f default = 0) (s : State K V F R) (key : K) (change : D) :
    (s.step program (.touch key change)).slotTotal f
      = s.slotTotal f - f (s.slot key) + f (program.touch key change (s.slot key)) :=
  State.slotTotal_setSlot hdefault s key _

/-- An operation goes on, or there is none. -/
lemma State.resume_totals [DecidableEq K] [Inhabited V] (program : Program K V F I R D)
    (s : State K V F R) (ticket : ℕ) (answer : I) :
    s.step program (.resume ticket answer) = s ∨ ∃ key call previous frame,
      s.entries[ticket]? = some ⟨key, call, previous, .running frame⟩ ∧
      (∀ f : V → ℤ, f default = 0 → (s.step program (.resume ticket answer)).slotTotal f
        = s.slotTotal f - f (s.slot key) + f (program.resume key frame answer (s.slot key)).1) ∧
      ∀ g : F → Phase F R → ℤ, (s.step program (.resume ticket answer)).callTotal g
        = s.callTotal g - g call (.running frame)
          + g call (.after (program.resume key frame answer (s.slot key)).2) := by
  rw [State.step]
  split
  · rename_i key call previous frame he
    refine Or.inr ⟨key, call, previous, frame, he, fun f hdefault => ?_, fun g => ?_⟩
    · exact State.slotTotal_setSlot hdefault (s.put ticket _) key _
    · exact State.callTotal_put he _
  · exact Or.inl rfl

/-- An action at which nothing happens to any shared state keeps the totals, of the calls
those that do not tell a start or the reactions of a promise. -/
lemma State.quiet_totals [DecidableEq K] [Inhabited V] (program : Program K V F I R D)
    {s : State K V F R} {action : Action K F I D} (hsilent : s.event action = none)
    (hmoves : ∀ ticket answer, action ≠ .resume ticket answer) :
    (∀ f : V → ℤ, (s.step program action).slotTotal f = s.slotTotal f) ∧
      ∀ g : F → Phase F R → ℤ, (∀ call frame, g call (.running frame) = g call .waiting) →
        (∀ call result, g call (.drained result) = g call (.settled result)) →
        (s.step program action).callTotal g = s.callTotal g := by
  cases action with
  | call key frame => cases hsilent
  | touch key change => cases hsilent
  | resume ticket answer => exact absurd rfl (hmoves ticket answer)
  | start ticket =>
      rw [State.step]
      split
      · rename_i call previous he
        split
        · refine ⟨fun f => rfl, fun g hstart _ => ?_⟩
          rw [State.callTotal_put he, hstart]
          exact sub_add_cancel _ _
        · exact ⟨fun f => rfl, fun g _ _ => rfl⟩
      · exact ⟨fun f => rfl, fun g _ _ => rfl⟩
  | drain ticket =>
      rw [State.step]
      split
      · rename_i he
        refine ⟨fun f => rfl, fun g _ hdrain => ?_⟩
        rw [State.callTotal_put he, hdrain]
        exact sub_add_cancel _ _
      · exact ⟨fun f => rfl, fun g _ _ => rfl⟩
  | clean ticket =>
      rw [State.step]
      split
      · split
        · exact ⟨fun f => rfl, fun g _ _ => rfl⟩
        · exact ⟨fun f => rfl, fun g _ _ => rfl⟩
      · exact ⟨fun f => rfl, fun g _ _ => rfl⟩

/-! ### Operations and their calls -/

/-- The frames of the operations that run stand in a relation to their calls. -/
def State.Follows (rel : F → F → Prop) (s : State K V F R) : Prop :=
  ∀ e ∈ s.entries, ∀ f, e.phase = .running f → rel e.call f

variable {rel : F → F → Prop}

lemma State.Follows.put {s : State K V F R} (h : s.Follows rel) {ticket : ℕ} {e : Entry K F R}
    (he : s.entries[ticket]? = some e) {phase : Phase F R}
    (hphase : ∀ f, phase = .running f → rel e.call f) : (s.put ticket phase).Follows rel := by
  intro e' he' f hf
  obtain ⟨i, hi⟩ := List.getElem?_of_mem he'
  rw [State.put, List.getElem?_modify] at hi
  by_cases hticket : ticket = i
  · subst hticket
    simp only [if_true, he] at hi
    cases hi
    exact hphase f hf
  · simp only [hticket, if_false] at hi
    exact h e' (List.mem_of_getElem? (by simpa using hi)) f hf

/-- **A step keeps the relation if every segment does.** -/
theorem State.Follows.step [DecidableEq K] [Inhabited V] {program : Program K V F I R D}
    (hcall : ∀ f, rel f f)
    (hnext : ∀ key call f i v f', rel call f → (program.resume key f i v).2 = .inl f' →
      rel call f')
    {s : State K V F R} (h : s.Follows rel) (action : Action K F I D) :
    (s.step program action).Follows rel := by
  cases action with
  | call key frame =>
      intro e he f hf
      rcases List.mem_append.mp he with he | he
      · exact h e he f hf
      · rw [List.mem_singleton.mp he] at hf
        cases hf
  | start ticket =>
      rw [State.step]
      split
      · rename_i call previous he
        split
        · refine h.put he fun f hf => ?_
          cases hf
          exact hcall call
        · exact h
      · exact h
  | resume ticket answer =>
      rw [State.step]
      split
      · rename_i key call previous frame he
        refine h.put he fun f hf => ?_
        cases hafter : (program.resume key frame answer (s.slot key)).2 with
        | inl next =>
            rw [hafter] at hf
            cases hf
            exact hnext key call frame answer _ _ (h _ (List.mem_of_getElem? he) frame rfl) hafter
        | inr result =>
            rw [hafter] at hf
            cases hf
      · exact h
  | drain ticket =>
      rw [State.step]
      split
      · rename_i he
        exact h.put he fun f hf => by cases hf
      · exact h
  | clean ticket =>
      rw [State.step]
      split
      · split <;> exact h
      · exact h
  | touch key change => exact h

end

end KeyedQueue
