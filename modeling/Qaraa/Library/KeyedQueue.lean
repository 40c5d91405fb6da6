import Qaraa.Library.Ordered

/-!
A queue of asynchronous operations for each key, built from chained promises.

Each call appends a promise to the tail of its key and becomes the tail itself; the
operation starts when the promise before it has settled, and the tail of a key is removed
from the map when it settles as the last one. Operations of different keys interleave
freely between their awaits.

* `Program`, `State`, `Action`, `State.step`: the operations, the promises in flight with
  the map of tails, and what can happen next.
* `State.queue`: the promises of one key; `Move`, `step_move`: all that a step can do to
  them, to the tail of the key and to the state the operations of the key share.
* `Orderly`: an operation starts only when all earlier ones of its key have settled;
  **every reachable queue is orderly** (`orderly_run`).
-/

namespace KeyedQueue

open Ordered

/-! ### The machine -/

/-- What the operations do between two awaits, and what happens to the state of a key
outside of any operation. -/
structure Program (K V F I R D : Type*) where
  /-- An operation goes on from frame `f` with the answer `i`. -/
  resume : K → F → I → V → V × (F ⊕ R)
  touch : K → D → V → V

/-- Where a promise stands. -/
inductive Phase (F R : Type*) where
  | waiting
  | running (frame : F)
  | settled (result : R)
  /-- The reactions of the settled promise have run. -/
  | drained (result : R)

/-- The promise of one call. -/
structure Entry (K F R : Type*) where
  key : K
  call : F
  /-- The tail of the key at the call. -/
  previous : Option ℕ
  phase : Phase F R

/-- The promises in the order of their calls, the map of tails, and the state the
operations of each key share. The ticket of a promise is its position. -/
structure State (K V F R : Type*) where
  entries : List (Entry K F R)
  tails : OrderedMap K ℕ
  slots : OrderedMap K V

/-- What happens at one key. -/
inductive Event (F I D : Type*) where
  | called (ticket : ℕ) (frame : F)
  | resumed (ticket : ℕ) (frame : F) (answer : I)
  | touched (change : D)

/-- What can happen: a call, the steps of its promise, and a change from outside. -/
inductive Action (K F I D : Type*) where
  | call (key : K) (frame : F)
  | start (ticket : ℕ)
  | resume (ticket : ℕ) (answer : I)
  | drain (ticket : ℕ)
  | clean (ticket : ℕ)
  | touch (key : K) (change : D)

section

variable {K V F I R D : Type*} [DecidableEq K] [Inhabited V]

/-- Nothing called yet. -/
def State.empty : State K V F R := ⟨[], .empty, .empty⟩

/-- The state the operations of a key share. -/
def State.slot (s : State K V F R) (key : K) : V := (s.slots.get key).getD default

/-- The reactions to the promise have run. -/
def Phase.isDrained : Phase F R → Bool
  | .drained _ => true
  | _ => false

/-- Whether the promise an operation waits for has settled. -/
def State.ready (s : State K V F R) : Option ℕ → Bool
  | none => true
  | some ticket => (s.entries[ticket]?.map fun e => e.phase.isDrained).getD false

/-- The state after a promise has moved on. -/
def State.put (s : State K V F R) (ticket : ℕ) (phase : Phase F R) : State K V F R :=
  { s with entries := s.entries.modify ticket fun e => { e with phase := phase } }

/-- The shared value of a key changes. -/
def State.setSlot (s : State K V F R) (key : K) (v : V) : State K V F R :=
  { s with slots := s.slots.set key v }

/-- The phase of an operation after a segment. -/
def Phase.after : F ⊕ R → Phase F R
  | .inl frame => .running frame
  | .inr result => .settled result

/-- What happens next; an action that is not enabled changes nothing. -/
def State.step (program : Program K V F I R D) (s : State K V F R) :
    Action K F I D → State K V F R
  | .call key frame =>
      { s with
        entries := s.entries ++ [⟨key, frame, s.tails.get key, .waiting⟩]
        tails := s.tails.set key s.entries.length }
  | .start ticket =>
      match s.entries[ticket]? with
      | some ⟨_, call, previous, .waiting⟩ =>
          if s.ready previous then s.put ticket (.running call) else s
      | _ => s
  | .resume ticket answer =>
      match s.entries[ticket]? with
      | some ⟨key, _, _, .running frame⟩ =>
          let after := program.resume key frame answer (s.slot key)
          (s.put ticket (.after after.2)).setSlot key after.1
      | _ => s
  | .drain ticket =>
      match s.entries[ticket]? with
      | some ⟨_, _, _, .settled result⟩ => s.put ticket (.drained result)
      | _ => s
  | .clean ticket =>
      match s.entries[ticket]? with
      | some ⟨key, _, _, .drained _⟩ =>
          if s.tails.get key = some ticket then { s with tails := s.tails.delete key } else s
      | _ => s
  | .touch key change => s.setSlot key (program.touch key change (s.slot key))

/-- What happens at a key, and at which: a call, an operation that goes on, or a change
outside of any operation. -/
def State.event (s : State K V F R) : Action K F I D → Option (K × Event F I D)
  | .call key frame => some (key, .called s.entries.length frame)
  | .resume ticket answer =>
      match s.entries[ticket]? with
      | some ⟨key, _, _, .running frame⟩ => some (key, .resumed ticket frame answer)
      | _ => none
  | .touch key change => some (key, .touched change)
  | _ => none

/-- The state after a list of actions. -/
def State.run (program : Program K V F I R D) (s : State K V F R)
    (actions : List (Action K F I D)) : State K V F R :=
  actions.foldl (State.step program) s

lemma State.run_concat (program : Program K V F I R D) (s : State K V F R)
    (actions : List (Action K F I D)) (action : Action K F I D) :
    s.run program (actions ++ [action]) = (s.run program actions).step program action := by
  rw [run, List.foldl_append]
  rfl

end

/-! ### One key -/

section

variable {K V F I R D : Type*} [DecidableEq K]

/-- A promise with its ticket. -/
abbrev Ticketed (K F R : Type*) := ℕ × Entry K F R

/-- The reactions to the promise have run. -/
def Ticketed.Drained (x : Ticketed K F R) : Prop := ∃ result, x.2.phase = .drained result

/-- The operation has begun. -/
def Ticketed.Started (x : Ticketed K F R) : Prop := x.2.phase ≠ .waiting

/-- The promise after it has moved on, all others as they are. -/
def Ticketed.put (ticket : ℕ) (phase : Phase F R) (x : Ticketed K F R) : Ticketed K F R :=
  if x.1 = ticket then (x.1, { x.2 with phase := phase }) else x

/-- The promises of a key, in the order of their calls. -/
def State.queue (s : State K V F R) (key : K) : List (Ticketed K F R) :=
  (List.range s.entries.length).filterMap fun ticket =>
    s.entries[ticket]?.bind fun e => if e.key = key then some (ticket, e) else none

lemma State.mem_queue {s : State K V F R} {key : K} {x : Ticketed K F R} :
    x ∈ s.queue key ↔ s.entries[x.1]? = some x.2 ∧ x.2.key = key := by
  rw [queue, List.mem_filterMap]
  constructor
  · rintro ⟨ticket, -, hx⟩
    obtain ⟨e, he, hx⟩ := Option.bind_eq_some_iff.mp hx
    split at hx
    · rename_i hkey
      cases hx
      exact ⟨he, hkey⟩
    · cases hx
  · rintro ⟨hx, hkey⟩
    obtain ⟨hlt, -⟩ := List.getElem?_eq_some_iff.mp hx
    exact ⟨x.1, List.mem_range.mpr hlt, by rw [hx, Option.bind_some, if_pos hkey]⟩

lemma State.queue_tickets (s : State K V F R) (key : K) :
    (s.queue key).Pairwise fun x y => x.1 < y.1 := by
  refine (List.pairwise_lt_range (n := s.entries.length)).filterMap _ ?_
  intro i j hij x hx y hy
  obtain ⟨e, -, hx⟩ := Option.bind_eq_some_iff.mp hx
  obtain ⟨e', -, hy⟩ := Option.bind_eq_some_iff.mp hy
  split at hx
  · split at hy
    · cases hx
      cases hy
      exact hij
    · cases hy
  · cases hx

lemma State.queue_append (s : State K V F R) (e : Entry K F R) (tails : OrderedMap K ℕ)
    (key : K) : ({ s with entries := s.entries ++ [e], tails := tails } : State K V F R).queue key
      = s.queue key ++ if e.key = key then [(s.entries.length, e)] else [] := by
  have hold : (List.range s.entries.length).filterMap (fun ticket =>
      (s.entries ++ [e])[ticket]?.bind fun e => if e.key = key then some (ticket, e) else none)
      = s.queue key := by
    refine List.filterMap_congr fun ticket hticket => ?_
    rw [List.getElem?_append_left (List.mem_range.mp hticket)]
  have hnew : (s.entries ++ [e])[s.entries.length]? = some e := by simp
  rw [queue]
  dsimp only
  rw [List.length_append, List.length_singleton, List.range_succ, List.filterMap_append, hold,
    List.filterMap_cons, hnew, Option.bind_some]
  split
  · rename_i hnone
    split at hnone
    · cases hnone
    · rename_i hkey
      rw [if_neg hkey]
      rfl
  · rename_i x hsome
    split at hsome
    · rename_i hkey
      cases hsome
      rw [if_pos hkey]
      rfl
    · cases hsome

lemma State.queue_put (s : State K V F R) (ticket : ℕ) (phase : Phase F R) (key : K) :
    (s.put ticket phase).queue key = (s.queue key).map (Ticketed.put ticket phase) := by
  rw [queue, queue, List.map_filterMap]
  simp only [put, List.length_modify]
  refine List.filterMap_congr fun i _ => ?_
  rw [List.getElem?_modify]
  cases s.entries[i]? with
  | none => simp
  | some e =>
      by_cases hkey : e.key = key
      · by_cases hi : ticket = i
        · simp [hkey, hi, Ticketed.put]
        · simp [hkey, hi, Ticketed.put, Ne.symm hi]
      · by_cases hi : ticket = i
        · simp [hkey, hi]
        · simp [hkey, hi]

/-- A promise of another key does not stand in the queue. -/
lemma State.map_put_of_ne {s : State K V F R} {ticket : ℕ} {e : Entry K F R}
    (he : s.entries[ticket]? = some e) {key : K} (hkey : e.key ≠ key) (phase : Phase F R) :
    (s.queue key).map (Ticketed.put ticket phase) = s.queue key := by
  refine (List.map_congr_left fun x hx => ?_).trans (List.map_id _)
  obtain ⟨hx, hxkey⟩ := State.mem_queue.mp hx
  rw [Ticketed.put, if_neg]
  · rfl
  · rintro rfl
    rw [he] at hx
    cases hx
    exact hkey hxkey

lemma State.ready_iff {s : State K V F R} {previous : Option ℕ} (h : s.ready previous = true)
    {i : ℕ} (hi : previous = some i) {key : K} {z : Ticketed K F R} (hz : z ∈ s.queue key)
    (hzi : z.1 = i) : z.Drained := by
  subst hi hzi
  obtain ⟨hz, -⟩ := State.mem_queue.mp hz
  rw [ready, hz, Option.map_some, Option.getD_some] at h
  cases hphase : z.2.phase with
  | drained result => exact ⟨result, hphase⟩
  | waiting => simp [hphase, Phase.isDrained] at h
  | running frame => simp [hphase, Phase.isDrained] at h
  | settled result => simp [hphase, Phase.isDrained] at h

/-- What the operations of a key see: its promises, its tail and its shared state. -/
structure Local (K V F R : Type*) where
  queue : List (Ticketed K F R)
  tail : Option ℕ
  slot : V

variable [Inhabited V]

/-- What there is of one key. -/
def State.at (s : State K V F R) (key : K) : Local K V F R :=
  ⟨s.queue key, s.tails.get key, s.slot key⟩

/-- What a step does to one key, and what happens there. -/
inductive Move (program : Program K V F I R D) (key : K) (x : Local K V F R) :
    Option (Event F I D) → Local K V F R → Prop
  | called (ticket : ℕ) (frame : F) (fresh : ∀ y ∈ x.queue, y.1 < ticket) :
      Move program key x (some (.called ticket frame))
        ⟨x.queue ++ [(ticket, ⟨key, frame, x.tail, .waiting⟩)], some ticket, x.slot⟩
  | started (y : Ticketed K F R) (mem : y ∈ x.queue) (phase : y.2.phase = .waiting)
      (ready : ∀ i, y.2.previous = some i → ∀ z ∈ x.queue, z.1 = i → z.Drained) :
      Move program key x none
        ⟨x.queue.map (Ticketed.put y.1 (.running y.2.call)), x.tail, x.slot⟩
  | resumed (y : Ticketed K F R) (mem : y ∈ x.queue) (frame : F)
      (phase : y.2.phase = .running frame) (answer : I) :
      Move program key x (some (.resumed y.1 frame answer))
        ⟨x.queue.map (Ticketed.put y.1 (.after (program.resume key frame answer x.slot).2)),
          x.tail, (program.resume key frame answer x.slot).1⟩
  | drained (y : Ticketed K F R) (mem : y ∈ x.queue) (result : R)
      (phase : y.2.phase = .settled result) :
      Move program key x none
        ⟨x.queue.map (Ticketed.put y.1 (.drained result)), x.tail, x.slot⟩
  | cleaned (y : Ticketed K F R) (mem : y ∈ x.queue) (drained : y.Drained)
      (tail : x.tail = some y.1) : Move program key x none ⟨x.queue, none, x.slot⟩
  | touched (change : D) :
      Move program key x (some (.touched change)) ⟨x.queue, x.tail, program.touch key change x.slot⟩

/-- An operation that goes on. -/
lemma State.step_resume (program : Program K V F I R D) {s : State K V F R} {ticket : ℕ}
    {key : K} {call frame : F} {previous : Option ℕ}
    (he : s.entries[ticket]? = some ⟨key, call, previous, .running frame⟩) (answer : I) :
    (s.step program (.resume ticket answer)).slot key
        = (program.resume key frame answer (s.slot key)).1 ∧
      (s.step program (.resume ticket answer)).entries[ticket]?
        = some ⟨key, call, previous, .after (program.resume key frame answer (s.slot key)).2⟩ := by
  rw [State.step, he]
  constructor
  · show ((s.slots.set key _).get key).getD default = _
    rw [OrderedMap.get_set_self]
    rfl
  · simp [State.setSlot, State.put, he]

/-- What happens at a given key. -/
def State.eventAt (s : State K V F R) (action : Action K F I D) (key : K) :
    Option (Event F I D) :=
  (s.event action).bind fun x => if x.1 = key then some x.2 else none

lemma State.at_put_of_ne {s : State K V F R} {ticket : ℕ} {e : Entry K F R}
    (he : s.entries[ticket]? = some e) {key : K} (hkey : e.key ≠ key) (phase : Phase F R) :
    (s.put ticket phase).at key = s.at key := by
  rw [State.at, State.queue_put, State.map_put_of_ne he hkey]
  rfl

lemma State.at_put {s : State K V F R} {ticket : ℕ} {key : K} (phase : Phase F R) :
    (s.put ticket phase).at key
      = ⟨(s.at key).queue.map (Ticketed.put ticket phase), (s.at key).tail, (s.at key).slot⟩ := by
  rw [State.at, State.queue_put]
  rfl

lemma State.at_setSlot_self (s : State K V F R) (key : K) (v : V) :
    (s.setSlot key v).at key = ⟨(s.at key).queue, (s.at key).tail, v⟩ := by
  rw [State.at, State.slot, setSlot, OrderedMap.get_set_self]
  rfl

lemma State.at_setSlot_of_ne (s : State K V F R) {key key' : K} (hkey : key' ≠ key) (v : V) :
    (s.setSlot key' v).at key = s.at key := by
  rw [State.at, State.slot, setSlot, OrderedMap.get_set_of_ne _ (Ne.symm hkey)]
  rfl

/-- **What a step can do to a key**: nothing, or one of the moves. -/
theorem step_move (program : Program K V F I R D) (s : State K V F R)
    (action : Action K F I D) (key : K) :
    ((s.step program action).at key = s.at key ∧ s.eventAt action key = none) ∨
      Move program key (s.at key) (s.eventAt action key) ((s.step program action).at key) := by
  cases action with
  | call key' frame =>
      have hqueue := s.queue_append ⟨key', frame, s.tails.get key', .waiting⟩
        (s.tails.set key' s.entries.length) key
      by_cases hkey : key' = key
      · subst hkey
        rw [if_pos rfl] at hqueue
        have hmove : Move program key' (s.at key') (some (.called s.entries.length frame)) _ :=
          .called s.entries.length frame fun y hy =>
            (List.getElem?_eq_some_iff.mp (State.mem_queue.mp hy).1).1
        have hafter : (s.step program (.call key' frame)).at key'
            = ⟨(s.at key').queue ++ [(s.entries.length,
                ⟨key', frame, (s.at key').tail, .waiting⟩)], some s.entries.length,
              (s.at key').slot⟩ := by
          rw [State.at, State.step, hqueue]
          dsimp only
          rw [OrderedMap.get_set_self]
          rfl
        rw [hafter, State.eventAt, State.event, Option.bind_some, if_pos rfl]
        exact Or.inr hmove
      -- a call under another key leaves the queue and the tail of this one
      · refine Or.inl ⟨?_, by rw [State.eventAt, State.event, Option.bind_some, if_neg hkey]⟩
        rw [if_neg hkey, List.append_nil] at hqueue
        rw [State.at, State.step, hqueue]
        dsimp only
        rw [OrderedMap.get_set_of_ne _ (Ne.symm hkey)]
        rfl
  | start ticket =>
      have hevent : s.eventAt (.start ticket : Action K F I D) key = none := rfl
      rw [hevent, State.step]
      split
      · rename_i key' call previous he
        split
        · rename_i hready
          by_cases hkey : key' = key
          · subst hkey
            rw [State.at_put]
            exact Or.inr (.started (ticket, ⟨key', call, previous, .waiting⟩)
              (State.mem_queue.mpr ⟨he, rfl⟩) rfl fun i hi z hz hzi =>
                State.ready_iff hready hi hz hzi)
          · exact Or.inl ⟨State.at_put_of_ne he hkey _, rfl⟩
        -- its promise still waits for another one
        · exact Or.inl ⟨rfl, rfl⟩
      · exact Or.inl ⟨rfl, rfl⟩
  | resume ticket answer =>
      rw [State.step, State.eventAt, State.event]
      split
      · rename_i key' call previous frame he
        dsimp only
        by_cases hkey : key' = key
        · subst hkey
          rw [Option.bind_some, if_pos rfl]
          rw [State.at_setSlot_self, State.at_put]
          exact Or.inr (.resumed (ticket, ⟨key', call, previous, .running frame⟩)
            (State.mem_queue.mpr ⟨he, rfl⟩) frame rfl answer)
        · rw [Option.bind_some, if_neg hkey, State.at_setSlot_of_ne _ hkey]
          exact Or.inl ⟨State.at_put_of_ne he hkey _, rfl⟩
      · exact Or.inl ⟨rfl, rfl⟩
  | drain ticket =>
      have hevent : s.eventAt (.drain ticket : Action K F I D) key = none := rfl
      rw [hevent, State.step]
      split
      · rename_i key' call previous result he
        by_cases hkey : key' = key
        · subst hkey
          rw [State.at_put]
          exact Or.inr (.drained (ticket, ⟨key', call, previous, .settled result⟩)
            (State.mem_queue.mpr ⟨he, rfl⟩) result rfl)
        · exact Or.inl ⟨State.at_put_of_ne he hkey _, rfl⟩
      · exact Or.inl ⟨rfl, rfl⟩
  | clean ticket =>
      have hevent : s.eventAt (.clean ticket : Action K F I D) key = none := rfl
      rw [hevent, State.step]
      split
      · rename_i key' call previous result he
        split
        -- the tail is removed only while it is this operation
        · rename_i htail
          by_cases hkey : key' = key
          · subst hkey
            refine Or.inr ?_
            have hmove : Move program key' (s.at key') none _ :=
              .cleaned (ticket, ⟨key', call, previous, .drained result⟩)
                (State.mem_queue.mpr ⟨he, rfl⟩) ⟨result, rfl⟩ htail
            have hafter : ({ s with tails := s.tails.delete key' } : State K V F R).at key'
                = ⟨(s.at key').queue, none, (s.at key').slot⟩ := by
              rw [State.at]
              dsimp only
              rw [OrderedMap.get_delete_self]
              rfl
            rw [hafter]
            exact hmove
          · refine Or.inl ⟨?_, rfl⟩
            rw [State.at]
            dsimp only
            rw [OrderedMap.get_delete_of_ne _ (Ne.symm hkey)]
            rfl
        · exact Or.inl ⟨rfl, rfl⟩
      · exact Or.inl ⟨rfl, rfl⟩
  | touch key' change =>
      rw [State.step, State.eventAt, State.event, Option.bind_some]
      dsimp only
      by_cases hkey : key' = key
      · subst hkey
        rw [if_pos rfl]
        rw [State.at_setSlot_self]
        exact Or.inr (.touched change)
      · rw [if_neg hkey, State.at_setSlot_of_ne _ hkey]
        exact Or.inl ⟨rfl, rfl⟩

/-- The state of a key after what happens there. -/
def Event.after (program : Program K V F I R D) (key : K) (v : V) : Event F I D → V
  | .called _ _ => v
  | .resumed _ frame answer => (program.resume key frame answer v).1
  | .touched change => program.touch key change v

lemma State.slot_step (program : Program K V F I R D) (s : State K V F R)
    (action : Action K F I D) (key : K) :
    (s.step program action).slot key =
      (s.eventAt action key).elim (s.slot key) (Event.after program key (s.slot key)) := by
  rcases step_move program s action key with ⟨hat, hevent⟩ | hmove
  · rw [hevent]
    exact congrArg Local.slot hat
  · have hslot : ((s.step program action).at key).slot = (s.step program action).slot key := rfl
    have hbefore : (s.at key).slot = s.slot key := rfl
    rw [← hslot, ← hbefore]
    generalize s.eventAt action key = event at hmove
    generalize (s.step program action).at key = x' at hmove
    cases hmove <;> rfl

end

/-! ### The order -/

section

variable {K V F I R D : Type*} {program : Program K V F I R D} {key : K} {x x' : Local K V F R}

/-- A promise keeps its ticket and all that was fixed at its call. -/
@[simp] lemma Ticketed.put_fst (ticket : ℕ) (phase : Phase F R) (y : Ticketed K F R) :
    (y.put ticket phase).1 = y.1 := by
  rw [put]
  split <;> rfl

@[simp] lemma Ticketed.put_previous (ticket : ℕ) (phase : Phase F R) (y : Ticketed K F R) :
    (y.put ticket phase).2.previous = y.2.previous := by
  rw [put]
  split <;> rfl

@[simp] lemma Ticketed.put_call (ticket : ℕ) (phase : Phase F R) (y : Ticketed K F R) :
    (y.put ticket phase).2.call = y.2.call := by
  rw [put]
  split <;> rfl

lemma Ticketed.put_self (phase : Phase F R) (y : Ticketed K F R) :
    (y.put y.1 phase).2.phase = phase := by
  rw [put, if_pos rfl]

lemma Ticketed.put_of_ne {ticket : ℕ} (phase : Phase F R) {y : Ticketed K F R}
    (h : y.1 ≠ ticket) : y.put ticket phase = y := if_neg h

lemma Ticketed.Drained.started {y : Ticketed K F R} (h : y.Drained) : y.Started := by
  obtain ⟨result, h⟩ := h
  rw [Started, h]
  nofun

/-- An operation starts only when all earlier ones have settled; the tail is the last
promise, or there is none and all have settled; and each operation waits for the promise
before it. -/
structure Orderly (x : Local K V F R) : Prop where
  tickets : x.queue.Pairwise fun y z => y.1 < z.1
  turns : x.queue.Pairwise fun y z => z.Started → y.Drained
  tail_some : ∀ t, x.tail = some t → ∃ before y, x.queue = before ++ [y] ∧ y.1 = t
  tail_none : x.tail = none → ∀ y ∈ x.queue, y.Drained
  chained : ∀ before y after, x.queue = before ++ y :: after →
    (y.2.previous = none → ∀ z ∈ before, z.Drained) ∧
      ∀ i, y.2.previous = some i → ∃ before' z, before = before' ++ [z] ∧ z.1 = i

namespace Orderly

/-- A ticket names one promise. -/
lemma eq_of_fst (h : Orderly x) {y z : Ticketed K F R} (hy : y ∈ x.queue) (hz : z ∈ x.queue)
    (heq : y.1 = z.1) : y = z := by
  rcases List.mem_iff_getElem.mp hy with ⟨i, hi, rfl⟩
  rcases List.mem_iff_getElem.mp hz with ⟨j, hj, rfl⟩
  rcases Nat.lt_trichotomy i j with hij | rfl | hij
  · have := List.pairwise_iff_getElem.mp h.tickets i j hi hj hij
    omega
  · rfl
  · have := List.pairwise_iff_getElem.mp h.tickets j i hj hi hij
    omega

/-- The promise that moves on, told apart from the others. -/
lemma map_put (h : Orderly x) {before after : List (Ticketed K F R)} {y : Ticketed K F R}
    (hsplit : x.queue = before ++ y :: after) (phase : Phase F R) :
    x.queue.map (Ticketed.put y.1 phase)
      = before ++ (y.1, { y.2 with phase := phase }) :: after := by
  have htickets := h.tickets
  rw [hsplit, List.pairwise_append, List.pairwise_cons] at htickets
  obtain ⟨-, ⟨hafter, -⟩, hbefore⟩ := htickets
  have hkeep : ∀ l : List (Ticketed K F R), (∀ z ∈ l, z.1 ≠ y.1) →
      l.map (Ticketed.put y.1 phase) = l := fun l hl =>
    (List.map_congr_left fun z hz => Ticketed.put_of_ne phase (hl z hz)).trans (List.map_id _)
  rw [hsplit, List.map_append, List.map_cons, hkeep before, hkeep after, Ticketed.put, if_pos rfl]
  · intro z hz
    have := hafter z hz
    omega
  · intro z hz
    have := hbefore z hz y (by simp)
    omega

/-- All promises before a started one have settled. -/
lemma drained_of_lt (h : Orderly x) {y z : Ticketed K F R} (hy : y ∈ x.queue) (hz : z ∈ x.queue)
    (hlt : y.1 < z.1) (hstarted : z.Started) : y.Drained := by
  have hpair := h.tickets.and h.turns
  rcases List.mem_iff_getElem.mp hy with ⟨i, hi, rfl⟩
  rcases List.mem_iff_getElem.mp hz with ⟨j, hj, rfl⟩
  rcases Nat.lt_trichotomy i j with hij | rfl | hij
  · exact (List.pairwise_iff_getElem.mp hpair i j hi hj hij).2 hstarted
  · exact absurd hlt (lt_irrefl _)
  · have := (List.pairwise_iff_getElem.mp hpair j i hj hi hij).1
    omega

/-- A waiting operation whose predecessor has settled has only settled ones before it. -/
lemma drained_of_ready (h : Orderly x) {y : Ticketed K F R} (hy : y ∈ x.queue)
    (hready : ∀ i, y.2.previous = some i → ∀ z ∈ x.queue, z.1 = i → z.Drained)
    {z : Ticketed K F R} (hz : z ∈ x.queue) (hlt : z.1 < y.1) : z.Drained := by
  obtain ⟨before, after, hsplit⟩ := List.append_of_mem hy
  obtain ⟨hnone, hsome⟩ := h.chained before y after hsplit
  have hbefore : z ∈ before := by
    have htickets := h.tickets
    rw [hsplit, List.pairwise_append] at htickets
    rw [hsplit] at hz
    rcases List.mem_append.mp hz with hz | hz
    · exact hz
    · rcases List.mem_cons.mp hz with rfl | hz
      · exact absurd hlt (lt_irrefl _)
      · have := (List.pairwise_cons.mp htickets.2.1).1 z hz
        omega
  cases hprevious : y.2.previous with
  | none => exact hnone hprevious z hbefore
  | some i =>
      obtain ⟨before', last, rfl, hlast⟩ := hsome i hprevious
      have hmem : last ∈ x.queue := by simp [hsplit]
      have hdrained := hready i hprevious last hmem hlast
      rcases List.mem_append.mp hbefore with hz' | hz'
      · have htickets := h.tickets
        rw [hsplit, List.append_assoc, List.pairwise_append] at htickets
        exact h.drained_of_lt hz hmem (htickets.2.2 z hz' last (by simp)) hdrained.started
      · rw [List.mem_singleton.mp hz']
        exact hdrained

/-- All but the last of the started promises have settled. -/
lemma drained_of_split (h : Orderly x) {before after : List (Ticketed K F R)}
    (hsplit : x.queue = before ++ after) {y : Ticketed K F R} (hy : y ∈ before)
    {z : Ticketed K F R} (hz : z ∈ after) (hstarted : z.Started) : y.Drained := by
  have hturns := h.turns
  rw [hsplit, List.pairwise_append] at hturns
  exact hturns.2.2 y hy z hz hstarted

/-- A promise moves on: a settled one stays settled, and one that starts has only settled
ones before it. -/
lemma put (h : Orderly x) {y : Ticketed K F R} (hy : y ∈ x.queue) {phase : Phase F R}
    (hdrained : y.Drained → ∃ result, phase = .drained result)
    (hstarted : y.Started ∨ ∀ z ∈ x.queue, z.1 < y.1 → z.Drained) (v : V) :
    Orderly ⟨x.queue.map (Ticketed.put y.1 phase), x.tail, v⟩ := by
  have hkeep : ∀ z ∈ x.queue, z.Drained → (z.put y.1 phase).Drained := by
    intro z hz hzd
    by_cases heq : z.1 = y.1
    · obtain rfl := h.eq_of_fst hz hy heq
      obtain ⟨result, hphase⟩ := hdrained hzd
      exact ⟨result, (Ticketed.put_self phase z).trans hphase⟩
    · rw [Ticketed.put_of_ne phase heq]
      exact hzd
  refine ⟨?_, ?_, fun t ht => ?_, fun hnone z hz => ?_, fun before z after hsplit => ?_⟩
  · refine List.pairwise_map.mpr (h.tickets.imp fun hlt => ?_)
    rw [Ticketed.put_fst, Ticketed.put_fst]
    exact hlt
  · refine List.pairwise_map.mpr ((h.tickets.and h.turns).imp_of_mem ?_)
    rintro a b ha hb ⟨hlt, hturn⟩ hbstarted
    refine hkeep a ha ?_
    by_cases heq : b.1 = y.1
    · obtain rfl := h.eq_of_fst hb hy heq
      rcases hstarted with hstarted | hall
      · exact hturn hstarted
      · exact hall a ha hlt
    · rw [Ticketed.put_of_ne phase heq] at hbstarted
      exact hturn hbstarted
  · obtain ⟨before, z, hsplit, hz⟩ := h.tail_some t ht
    refine ⟨before.map (Ticketed.put y.1 phase), z.put y.1 phase, ?_, ?_⟩
    · dsimp only
      rw [hsplit, List.map_append, List.map_singleton]
    · rw [Ticketed.put_fst, hz]
  · obtain ⟨w, hw, rfl⟩ := List.mem_map.mp hz
    exact hkeep w hw (h.tail_none hnone w hw)
  · obtain ⟨before', rest, hqueue, rfl, hrest⟩ := List.map_eq_append_iff.mp hsplit
    obtain ⟨z', after', rfl, rfl, rfl⟩ := List.map_eq_cons_iff.mp hrest
    obtain ⟨hnone, hsome⟩ := h.chained before' z' after' hqueue
    rw [Ticketed.put_previous]
    refine ⟨fun hprevious u hu => ?_, fun i hprevious => ?_⟩
    · obtain ⟨w, hw, rfl⟩ := List.mem_map.mp hu
      exact hkeep w (by simp [hqueue, hw]) (hnone hprevious w hw)
    · obtain ⟨before'', w, rfl, hw⟩ := hsome i hprevious
      refine ⟨before''.map (Ticketed.put y.1 phase), w.put y.1 phase, ?_, ?_⟩
      · rw [List.map_append, List.map_singleton]
      · rw [Ticketed.put_fst, hw]

/-- The queue of a key without calls. -/
lemma empty (v : V) : Orderly (⟨[], none, v⟩ : Local K V F R) :=
  ⟨List.Pairwise.nil, List.Pairwise.nil, fun _ ht => (by cases ht), fun _ y hy => (by cases hy),
    fun before y after hsplit => by simp at hsplit⟩

end Orderly

/-- **Every move keeps a queue orderly.** -/
theorem Move.orderly {event : Option (Event F I D)} (hmove : Move program key x event x')
    (h : Orderly x) : Orderly x' := by
  cases hmove with
  | called ticket frame hfresh =>
      refine ⟨?_, ?_, fun t ht => ?_, fun hnone => ?_, fun before y after hsplit => ?_⟩
      · refine List.pairwise_append.mpr ⟨h.tickets, List.pairwise_singleton _ _, ?_⟩
        intro y hy z hz
        rw [List.mem_singleton.mp hz]
        exact hfresh y hy
      · refine List.pairwise_append.mpr ⟨h.turns, List.pairwise_singleton _ _, ?_⟩
        intro y _ z hz hstarted
        rw [List.mem_singleton.mp hz] at hstarted
        exact absurd rfl hstarted
      · exact ⟨x.queue, _, rfl, Option.some.inj ht⟩
      · cases hnone
      · rcases List.eq_nil_or_concat after with rfl | ⟨after', last, rfl⟩
        · obtain ⟨rfl, hy⟩ := List.append_inj' hsplit rfl
          obtain rfl := (List.cons.inj hy).1
          exact ⟨h.tail_none, fun i hi => h.tail_some i hi⟩
        · rw [List.concat_eq_append, ← List.cons_append, ← List.append_assoc] at hsplit
          exact h.chained before y after' (List.append_inj' hsplit rfl).1
  | started y hy hphase hready =>
      refine h.put hy (fun hdrained => ?_)
        (Or.inr fun z hz hlt => h.drained_of_ready hy hready hz hlt) x.slot
      exact absurd hphase hdrained.started
  | resumed y hy frame hphase answer =>
      refine h.put hy (fun hdrained => ?_) (Or.inl ?_) _
      · obtain ⟨result, hdrained⟩ := hdrained
        rw [hphase] at hdrained
        cases hdrained
      · rw [Ticketed.Started, hphase]
        nofun
  | drained y hy result hphase =>
      refine h.put hy (fun _ => ⟨result, rfl⟩) (Or.inl ?_) x.slot
      rw [Ticketed.Started, hphase]
      nofun
  | cleaned y hy hdrained htail =>
      refine ⟨h.tickets, h.turns, fun t ht => (by cases ht), fun _ z hz => ?_, h.chained⟩
      obtain ⟨before, last, hsplit, hlast⟩ := h.tail_some y.1 htail
      obtain rfl := h.eq_of_fst (by simp [hsplit]) hy hlast
      have htickets := h.tickets
      rw [hsplit, List.pairwise_append] at htickets
      rw [hsplit] at hz
      rcases List.mem_append.mp hz with hz | hz
      · exact h.drained_of_lt (by simp [hsplit, hz]) hy (htickets.2.2 z hz last (by simp))
          hdrained.started
      · rw [List.mem_singleton.mp hz]
        exact hdrained
  | touched change => exact ⟨h.tickets, h.turns, h.tail_some, h.tail_none, h.chained⟩

variable [DecidableEq K] [Inhabited V]

lemma run_orderly (program : Program K V F I R D) {s : State K V F R}
    (h : Orderly (s.at key)) (actions : List (Action K F I D)) :
    Orderly ((s.run program actions).at key) := by
  induction actions using List.reverseRecOn with
  | nil => exact h
  | append_singleton actions action ih =>
      rw [State.run_concat]
      rcases step_move program (s.run program actions) action key with ⟨heq, -⟩ | hmove
      · rw [heq]
        exact ih
      · exact hmove.orderly ih

/-- **Every reachable queue is orderly.** -/
theorem orderly_run (program : Program K V F I R D) (actions : List (Action K F I D)) (key : K) :
    Orderly ((State.empty.run program actions).at key) :=
  run_orderly program (Orderly.empty _) actions

end

end KeyedQueue
