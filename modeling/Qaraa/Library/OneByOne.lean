import Qaraa.Library.KeyedQueue

/-!
A run of a keyed queue, looked at from one key.

* `State.history`: what happened at a key in a run.
* `Program.perform`, `Program.performAll`: operations on their own, each to its end before
  the next.
* `serializable`: **every run serves each key as if its operations had run one after the
  other**, in the order of their calls.
* `State.serve`, `serveAll_at`: the same as a run of the queue itself, one call at a time.
-/

namespace KeyedQueue

open Ordered

section

variable {K V F I R D : Type*} [DecidableEq K] [Inhabited V]

/-! ### The history of a key -/

/-- What happens at a key in a run. -/
def State.history (program : Program K V F I R D) (key : K) (s : State K V F R) :
    List (Action K F I D) → List (Event F I D)
  | [] => []
  | action :: rest =>
      (s.eventAt action key).toList ++ State.history program key (s.step program action) rest

lemma State.history_concat (program : Program K V F I R D) (key : K) (s : State K V F R)
    (actions : List (Action K F I D)) (action : Action K F I D) :
    s.history program key (actions ++ [action])
      = s.history program key actions ++ ((s.run program actions).eventAt action key).toList := by
  induction actions generalizing s with
  | nil => simp [history, run]
  | cons first rest ih =>
      rw [List.cons_append, history, ih, history, List.append_assoc]
      rfl

/-- The operation an event calls. -/
def Event.called? : Event F I D → Option F
  | .called _ frame => some frame
  | _ => none

/-- The answer or the change an event brings. -/
def Event.item? : Event F I D → Option (I ⊕ D)
  | .called _ _ => none
  | .resumed _ _ answer => some (.inl answer)
  | .touched change => some (.inr change)

end

/-! ### One operation after the other -/

section

variable {K V F I R D : Type*}

/-- One operation with the answers it gets and the changes made from outside meanwhile. -/
structure Call (F I D : Type*) where
  frame : F
  items : List (I ⊕ D)

/-- The shared state and the operation at work, after the next answer or change. -/
def Program.advance (program : Program K V F I R D) (key : K) (x : V × Phase F R) :
    I ⊕ D → V × Phase F R
  | .inl answer =>
      match x.2 with
      | .running frame =>
          let after := program.resume key frame answer x.1
          (after.1, .after after.2)
      | _ => x
  | .inr change => (program.touch key change x.1, x.2)

/-- One operation on its own: where it stands after the items of its call. -/
def Program.perform (program : Program K V F I R D) (key : K) (v : V) (call : Call F I D) :
    V × Phase F R :=
  call.items.foldl (program.advance key) (v, .running call.frame)

/-- The shared state and where the operations so far stand, after the next one. -/
def Program.performNext (program : Program K V F I R D) (key : K) (x : V × List (Phase F R))
    (call : Call F I D) : V × List (Phase F R) :=
  let after := program.perform key x.1 call
  (after.1, x.2 ++ [after.2])

/-- Operations one after the other. -/
def Program.performAll (program : Program K V F I R D) (key : K) (v : V)
    (calls : List (Call F I D)) : V × List (Phase F R) :=
  calls.foldl (program.performNext key) (v, [])

/-- Where an operation stands, whatever has reacted to its promise. -/
def Phase.reached : Phase F R → Phase F R
  | .drained result => .settled result
  | phase => phase

lemma Program.performAll_concat (program : Program K V F I R D) (key : K) (v : V)
    (calls : List (Call F I D)) (call : Call F I D) :
    program.performAll key v (calls ++ [call])
      = program.performNext key (program.performAll key v calls) call := by
  rw [performAll, List.foldl_append]
  rfl

/-- One more answer or change reaches the last operation. -/
lemma Program.performAll_item (program : Program K V F I R D) (key : K) {v : V}
    {calls : List (Call F I D)} {frame : F} {items : List (I ⊕ D)} {w : V}
    {phases : List (Phase F R)} {phase : Phase F R}
    (h : program.performAll key v (calls ++ [⟨frame, items⟩]) = (w, phases ++ [phase]))
    (item : I ⊕ D) :
    program.performAll key v (calls ++ [⟨frame, items ++ [item]⟩])
      = ((program.advance key (w, phase) item).1,
        phases ++ [(program.advance key (w, phase) item).2]) := by
  rw [performAll_concat, performNext, perform] at h ⊢
  obtain ⟨hw, hphases⟩ := Prod.mk.inj h
  obtain ⟨hbefore, hphase⟩ := List.append_inj' hphases rfl
  obtain rfl := (List.cons.inj hphase).1
  dsimp only
  rw [List.foldl_append, hbefore, ← hw]
  rfl

variable [Inhabited V] (program : Program K V F I R D) (key : K)

/-- How a history comes apart into operations one after the other: the started promises
have come where these have, and their shared state is the one at the key. -/
structure Serial (x : Local K V F R) (history : List (Event F I D)) (before : List D)
    (calls : List (Call F I D)) (started waiting : List (Ticketed K F R)) : Prop where
  split : x.queue = started ++ waiting
  hasStarted : ∀ y ∈ started, y.Started
  stillWaits : ∀ y ∈ waiting, y.2.phase = .waiting
  frames : calls.map Call.frame = started.map fun y => y.2.call
  performed : program.performAll key (before.foldl (fun v d => program.touch key d v) default) calls
    = (x.slot, started.map fun y => y.2.phase.reached)
  called : x.queue.map (fun y => y.2.call) = history.filterMap Event.called?
  items : before.map Sum.inr ++ calls.flatMap Call.items = history.filterMap Event.item?

variable {program key}
variable {x x' : Local K V F R} {history : List (Event F I D)} {before : List D}
variable {calls : List (Call F I D)} {started waiting : List (Ticketed K F R)}

/-- The one promise that runs is the last of the started ones. -/
lemma Serial.split_running (h : Serial program key x history before calls started waiting)
    (horderly : Orderly x) {y : Ticketed K F R} (hy : y ∈ x.queue) {frame : F}
    (hphase : y.2.phase = .running frame) : ∃ earlier, started = earlier ++ [y] := by
  have hmem : y ∈ started := by
    rcases List.mem_append.mp (h.split ▸ hy) with hmem | hmem
    · exact hmem
    · rw [h.stillWaits y hmem] at hphase
      cases hphase
  obtain ⟨earlier, later, rfl⟩ := List.append_of_mem hmem
  cases later with
  | nil => exact ⟨earlier, rfl⟩
  | cons z later =>
      have hsplit : x.queue = (earlier ++ [y]) ++ (z :: later ++ waiting) := by
        rw [h.split]
        simp
      obtain ⟨result, hdrained⟩ := horderly.drained_of_split hsplit (y := y) (by simp) (z := z)
        (by simp) (h.hasStarted z (by simp))
      rw [hphase] at hdrained
      cases hdrained

/-- The promise that starts is the first of the waiting ones. -/
lemma Serial.split_ready (h : Serial program key x history before calls started waiting)
    (horderly : Orderly x) {y : Ticketed K F R} (hy : y ∈ x.queue)
    (hphase : y.2.phase = .waiting)
    (hready : ∀ i, y.2.previous = some i → ∀ z ∈ x.queue, z.1 = i → z.Drained) :
    ∃ later, waiting = y :: later := by
  have hmem : y ∈ waiting := by
    rcases List.mem_append.mp (h.split ▸ hy) with hmem | hmem
    · exact absurd hphase (h.hasStarted y hmem)
    · exact hmem
  obtain ⟨earlier, later, rfl⟩ := List.append_of_mem hmem
  cases earlier with
  | nil => exact ⟨later, rfl⟩
  | cons z earlier =>
      have hmemz : z ∈ x.queue := by
        rw [h.split]
        simp
      have hlt : z.1 < y.1 := by
        have htickets := horderly.tickets
        rw [h.split, List.pairwise_append, List.cons_append, List.pairwise_cons] at htickets
        exact htickets.2.1.1 y (by simp)
      obtain ⟨result, hdrained⟩ := horderly.drained_of_ready hy hready hmemz hlt
      rw [h.stillWaits z (by simp)] at hdrained
      cases hdrained

/-- **Every move keeps a history serial.** -/
lemma Serial.move (h : Serial program key x history before calls started waiting)
    (horderly : Orderly x) {event : Option (Event F I D)}
    (hmove : Move program key x event x') :
    ∃ before' calls' started' waiting',
      Serial program key x' (history ++ event.toList) before' calls' started' waiting' := by
  cases hmove with
  | called ticket frame hfresh =>
      refine ⟨before, calls, started, waiting ++ [(ticket, ⟨key, frame, x.tail, .waiting⟩)],
        ?_, h.hasStarted, fun y hy => ?_, h.frames, h.performed, ?_, ?_⟩
      · dsimp only
        rw [h.split, List.append_assoc]
      · rcases List.mem_append.mp hy with hy | hy
        · exact h.stillWaits y hy
        · rw [List.mem_singleton.mp hy]
      · dsimp only
        rw [List.map_append, h.called, List.filterMap_append]
        rfl
      · rw [h.items, List.filterMap_append]
        exact (List.append_nil _).symm
  | started y hy hphase hready =>
      -- only the first call that waits can start: it becomes a call without items
      obtain ⟨later, rfl⟩ := h.split_ready horderly hy hphase hready
      refine ⟨before, calls ++ [⟨y.2.call, []⟩],
        started ++ [(y.1, { y.2 with phase := .running y.2.call })], later, ?_, ?_, ?_, ?_, ?_,
        ?_, ?_⟩
      · dsimp only
        rw [horderly.map_put h.split, List.append_assoc]
        rfl
      · intro z hz
        rcases List.mem_append.mp hz with hz | hz
        · exact h.hasStarted z hz
        · rw [List.mem_singleton.mp hz]
          rintro ⟨⟩
      · exact fun z hz => h.stillWaits z (List.mem_cons_of_mem _ hz)
      · rw [List.map_append, List.map_append, h.frames]
        rfl
      · rw [Program.performAll_concat, h.performed, List.map_append]
        rfl
      · rw [Option.toList_none, List.append_nil, ← h.called]
        simp [Function.comp_def]
      · rw [Option.toList_none, List.append_nil, ← h.items]
        simp
  | resumed y hy frame hphase answer =>
      -- the operation that runs is the last one started: its call has one more item
      obtain ⟨earlier, rfl⟩ := h.split_running horderly hy hphase
      obtain ⟨init, last, hcalls⟩ : ∃ init last, calls = init ++ [last] := by
        rcases List.eq_nil_or_concat calls with rfl | ⟨init, last, hcalls⟩
        · have hframes := h.frames
          simp at hframes
        · exact ⟨init, last, hcalls.trans List.concat_eq_append⟩
      subst hcalls
      obtain ⟨lastFrame, items⟩ := last
      have hperformed := h.performed
      rw [List.map_append, List.map_singleton] at hperformed
      refine ⟨before, init ++ [⟨lastFrame, items ++ [.inl answer]⟩], earlier ++
        [(y.1, { y.2 with phase := .after (program.resume key frame answer x.slot).2 })], waiting,
        ?_, ?_, h.stillWaits, ?_, ?_, ?_, ?_⟩
      · dsimp only
        rw [horderly.map_put (h.split.trans (List.append_assoc _ _ _)), List.append_assoc]
        rfl
      · intro z hz
        rcases List.mem_append.mp hz with hz | hz
        · exact h.hasStarted z (List.mem_append_left _ hz)
        · rw [List.mem_singleton.mp hz, Ticketed.Started]
          cases (program.resume key frame answer x.slot).2 <;> rintro ⟨⟩
      · have hframes := h.frames
        simpa using hframes
      · rw [Program.performAll_item program key hperformed, hphase, List.map_append]
        cases hafter : (program.resume key frame answer x.slot).2 <;>
          simp [Program.advance, Phase.reached, Phase.after, hafter]
      · have hcalled := h.called
        rw [List.filterMap_append, ← hcalled]
        simp [Event.called?, Function.comp_def]
      · rw [List.filterMap_append, ← h.items]
        simp [Event.item?]
  | drained y hy result hphase =>
      obtain ⟨earlier, later, hsplit⟩ := List.append_of_mem hy
      -- nothing is performed: a drained operation has reached what it had settled with
      have hreached : ∀ z : Ticketed K F R, z ∈ x.queue →
          (z.put y.1 (.drained result)).2.phase.reached = z.2.phase.reached := by
        intro z hz
        by_cases heq : z.1 = y.1
        · obtain rfl := horderly.eq_of_fst hz hy heq
          rw [Ticketed.put_self, hphase]
          rfl
        · rw [Ticketed.put_of_ne _ heq]
      have hstill : ∀ z : Ticketed K F R, z ∈ x.queue → z.Started →
          (z.put y.1 (.drained result)).Started := by
        intro z hz hstarted
        by_cases heq : z.1 = y.1
        · obtain rfl := horderly.eq_of_fst hz hy heq
          rw [Ticketed.Started, Ticketed.put_self]
          rintro ⟨⟩
        · rw [Ticketed.put_of_ne _ heq]
          exact hstarted
      have hwaits : ∀ z ∈ waiting, (z.put y.1 (.drained result)).2.phase = .waiting := by
        intro z hz
        have hmem : z ∈ x.queue := h.split ▸ List.mem_append_right _ hz
        by_cases heq : z.1 = y.1
        · obtain rfl := horderly.eq_of_fst hmem hy heq
          rw [h.stillWaits z hz] at hphase
          cases hphase
        · rw [Ticketed.put_of_ne _ heq]
          exact h.stillWaits z hz
      have hmem : ∀ z ∈ started, z ∈ x.queue := fun z hz => h.split ▸ List.mem_append_left _ hz
      refine ⟨before, calls, started.map (Ticketed.put y.1 (.drained result)),
        waiting.map (Ticketed.put y.1 (.drained result)), ?_, ?_, ?_, ?_, ?_, ?_, ?_⟩
      · dsimp only
        rw [h.split, List.map_append]
      · intro z hz
        obtain ⟨w, hw, rfl⟩ := List.mem_map.mp hz
        exact hstill w (hmem w hw) (h.hasStarted w hw)
      · intro z hz
        obtain ⟨w, hw, rfl⟩ := List.mem_map.mp hz
        exact hwaits w hw
      · rw [h.frames, List.map_map]
        exact List.map_congr_left fun z _ => (Ticketed.put_call _ _ z).symm
      · rw [h.performed, List.map_map]
        exact congrArg (Prod.mk x.slot)
          (List.map_congr_left fun z hz => (hreached z (hmem z hz)).symm)
      · rw [Option.toList_none, List.append_nil, ← h.called]
        simp [Function.comp_def]
      · rw [Option.toList_none, List.append_nil, h.items]
  | cleaned y hy hdrained htail =>
      refine ⟨before, calls, started, waiting, h.split, h.hasStarted, h.stillWaits, h.frames,
        h.performed, ?_, ?_⟩
      · rw [Option.toList_none, List.append_nil, h.called]
      · rw [Option.toList_none, List.append_nil, h.items]
  | touched change =>
      rcases List.eq_nil_or_concat calls with rfl | ⟨init, last, hcalls⟩
      · -- nothing has started: the change comes before all operations
        have hstarted : started = [] := by
          have hframes := h.frames
          simpa using hframes.symm
        subst hstarted
        refine ⟨before ++ [change], [], [], waiting, h.split, h.hasStarted, h.stillWaits, rfl,
          ?_, ?_, ?_⟩
        · have hslot := (Prod.mk.inj h.performed).1
          rw [List.foldl_append, List.foldl_cons, List.foldl_nil, ← hslot]
          rfl
        · rw [List.filterMap_append, ← h.called]
          exact (List.append_nil _).symm
        · rw [List.filterMap_append, ← h.items]
          simp [Event.item?]
      -- otherwise the change is an item of the last call started
      · rw [List.concat_eq_append] at hcalls
        subst hcalls
        obtain ⟨lastFrame, items⟩ := last
        obtain ⟨earlier, z, hstarted⟩ : ∃ earlier z, started = earlier ++ [z] := by
          rcases List.eq_nil_or_concat started with rfl | ⟨earlier, z, hstarted⟩
          · have hframes := h.frames
            simp at hframes
          · exact ⟨earlier, z, hstarted.trans List.concat_eq_append⟩
        subst hstarted
        have hperformed := h.performed
        rw [List.map_append, List.map_singleton] at hperformed
        refine ⟨before, init ++ [⟨lastFrame, items ++ [.inr change]⟩], earlier ++ [z], waiting,
          h.split, h.hasStarted, h.stillWaits, ?_, ?_, ?_, ?_⟩
        · have hframes := h.frames
          simpa using hframes
        · rw [Program.performAll_item program key hperformed, List.map_append]
          rfl
        · rw [List.filterMap_append, ← h.called]
          exact (List.append_nil _).symm
        · rw [List.filterMap_append, ← h.items]
          simp [Event.item?]

/-- **Every run serves each key as if its operations had run one after the other.** -/
theorem serializable [DecidableEq K] (program : Program K V F I R D)
    (actions : List (Action K F I D)) (key : K) : ∃ before calls started waiting,
      Serial program key ((State.empty.run program actions).at key)
        (State.empty.history program key actions) before calls started waiting := by
  induction actions using List.reverseRecOn with
  | nil =>
      exact ⟨[], [], [], [], rfl, fun _ hy => (by cases hy), fun _ hy => (by cases hy), rfl, rfl,
        rfl, rfl⟩
  | append_singleton actions action ih =>
      obtain ⟨before, calls, started, waiting, h⟩ := ih
      rw [State.run_concat, State.history_concat]
      rcases step_move program (State.empty.run program actions) action key with
        ⟨heq, hevent⟩ | hmove
      · rw [heq, hevent, Option.toList_none, List.append_nil]
        exact ⟨before, calls, started, waiting, h⟩
      · exact h.move (orderly_run program actions key) hmove

end

/-! ### One call at a time -/

section

variable {K V F I R D : Type*}

/-- The last promise of a key moves on. -/
lemma map_put_last {key : K} {earlier : List (Ticketed K F R)} {n : ℕ} {call : F}
    {previous : Option ℕ} {phase : Phase F R} (hfresh : ∀ z ∈ earlier, z.1 ≠ n)
    (phase' : Phase F R) :
    (earlier ++ [(n, (⟨key, call, previous, phase⟩ : Entry K F R))]).map (Ticketed.put n phase')
      = earlier ++ [(n, ⟨key, call, previous, phase'⟩)] := by
  have hkeep : earlier.map (Ticketed.put n phase') = earlier :=
    (List.map_congr_left fun z hz => Ticketed.put_of_ne phase' (hfresh z hz)).trans (List.map_id _)
  rw [List.map_append, List.map_singleton, hkeep, Ticketed.put, if_pos rfl]

variable [DecidableEq K] [Inhabited V]

/-- A call is made, gets its answers, and settles before anything else is called. -/
def State.serve (program : Program K V F I R D) (s : State K V F R) (key : K)
    (call : Call F I D) : State K V F R :=
  s.run program ([.call key call.frame, .start s.entries.length]
    ++ call.items.map (Sum.elim (.resume s.entries.length) (.touch key))
    ++ [.drain s.entries.length, .clean s.entries.length])

/-- Calls served one after the other. -/
def State.serveAll (program : Program K V F I R D) (s : State K V F R) (key : K)
    (calls : List (Call F I D)) : State K V F R :=
  calls.foldl (fun s call => s.serve program key call) s

/-- Where a promise stands once its reactions have run. -/
def Phase.drain : Phase F R → Phase F R
  | .settled result => .drained result
  | phase => phase

variable {program : Program K V F I R D} {key : K} {s : State K V F R}
variable {earlier : List (Ticketed K F R)} {n : ℕ} {call : F} {previous tail : Option ℕ} {v : V}
variable {phase : Phase F R}

lemma State.getElem?_of_at (h : s.at key
    = ⟨earlier ++ [(n, ⟨key, call, previous, phase⟩)], tail, v⟩) :
    s.entries[n]? = some ⟨key, call, previous, phase⟩ := by
  have hmem : (n, (⟨key, call, previous, phase⟩ : Entry K F R)) ∈ s.queue key := by
    rw [show s.queue key = _ from congrArg Local.queue h]
    simp
  exact (State.mem_queue.mp hmem).1

lemma at_call (program : Program K V F I R D) (s : State K V F R) (key : K) (frame : F) :
    (s.step program (.call key frame)).at key = ⟨(s.at key).queue ++
      [(s.entries.length, ⟨key, frame, (s.at key).tail, .waiting⟩)], some s.entries.length,
        s.slot key⟩ := by
  have hqueue := s.queue_append ⟨key, frame, s.tails.get key, .waiting⟩
    (s.tails.set key s.entries.length) key
  rw [if_pos rfl] at hqueue
  rw [State.at, State.step, hqueue]
  dsimp only
  rw [OrderedMap.get_set_self]
  rfl

lemma at_start (program : Program K V F I R D) (hfresh : ∀ z ∈ earlier, z.1 ≠ n)
    (h : s.at key = ⟨earlier ++ [(n, ⟨key, call, previous, .waiting⟩)], tail, v⟩)
    (hready : s.ready previous = true) : (s.step program (.start n)).at key
      = ⟨earlier ++ [(n, ⟨key, call, previous, .running call⟩)], tail, v⟩ := by
  rw [State.step, State.getElem?_of_at h]
  dsimp only
  rw [if_pos hready, State.at_put, h]
  dsimp only
  rw [map_put_last hfresh]

lemma at_drain (program : Program K V F I R D) (hfresh : ∀ z ∈ earlier, z.1 ≠ n)
    (h : s.at key = ⟨earlier ++ [(n, ⟨key, call, previous, phase⟩)], tail, v⟩) :
    (s.step program (.drain n)).at key
      = ⟨earlier ++ [(n, ⟨key, call, previous, phase.drain⟩)], tail, v⟩ := by
  have hentry := State.getElem?_of_at h
  rw [State.step, hentry]
  cases phase with
  | settled result =>
      dsimp only
      rw [State.at_put, h]
      dsimp only
      rw [map_put_last hfresh]
      rfl
  | waiting | running frame | drained result => exact h

/-- The removal of a tail touches neither promises nor shared state. -/
lemma at_clean (program : Program K V F I R D) (s : State K V F R) (key : K) (ticket : ℕ) :
    ((s.step program (.clean ticket)).at key).queue = (s.at key).queue ∧
      ((s.step program (.clean ticket)).at key).slot = (s.at key).slot := by
  rw [State.step]
  split
  · split <;> exact ⟨rfl, rfl⟩
  · exact ⟨rfl, rfl⟩

/-- The next answer or change reaches the last operation of a key. -/
lemma at_item (program : Program K V F I R D) (hfresh : ∀ z ∈ earlier, z.1 ≠ n)
    (h : s.at key = ⟨earlier ++ [(n, ⟨key, call, previous, phase⟩)], tail, v⟩) (item : I ⊕ D) :
    (s.step program (Sum.elim (.resume n) (.touch key) item)).at key
      = ⟨earlier ++ [(n, ⟨key, call, previous, (program.advance key (v, phase) item).2⟩)], tail,
        (program.advance key (v, phase) item).1⟩ := by
  have hslot : s.slot key = v := congrArg Local.slot h
  cases item with
  | inr change =>
      rw [Sum.elim_inr, State.step, State.at_setSlot_self, h, hslot]
      rfl
  | inl answer =>
      have hentry := State.getElem?_of_at h
      rw [Sum.elim_inl]
      cases phase with
      | running frame =>
          rw [State.step, hentry]
          dsimp only
          rw [State.at_setSlot_self, State.at_put, h, hslot]
          dsimp only
          rw [map_put_last hfresh]
          rfl
      | waiting | settled result | drained result =>
          rw [State.step, hentry]
          exact h

lemma at_items (program : Program K V F I R D) (hfresh : ∀ z ∈ earlier, z.1 ≠ n)
    (h : s.at key = ⟨earlier ++ [(n, ⟨key, call, previous, phase⟩)], tail, v⟩)
    (items : List (I ⊕ D)) :
    (s.run program (items.map (Sum.elim (.resume n) (.touch key)))).at key
      = ⟨earlier ++ [(n, ⟨key, call, previous,
          (items.foldl (program.advance key) (v, phase)).2⟩)], tail,
        (items.foldl (program.advance key) (v, phase)).1⟩ := by
  induction items generalizing s v phase with
  | nil => exact h
  | cons item items ih =>
      rw [List.map_cons, State.run, List.foldl_cons, List.foldl_cons]
      exact ih (at_item program hfresh h item)

/-- The tail of a key at rest has settled. -/
lemma ready_of_rest (horderly : Orderly (s.at key)) (hrest : ∀ y ∈ (s.at key).queue, y.Drained)
    (frame : F) : (s.step program (.call key frame)).ready (s.at key).tail = true := by
  cases htail : (s.at key).tail with
  | none => rfl
  | some t =>
      obtain ⟨before, y, hqueue, rfl⟩ := horderly.tail_some t htail
      have hmem : y ∈ (s.at key).queue := by simp [hqueue]
      obtain ⟨result, hdrained⟩ := hrest y hmem
      have hcalled : y ∈ (s.step program (.call key frame)).queue key := by
        have hat : (s.step program (.call key frame)).queue key = _ :=
          congrArg Local.queue (at_call program s key frame)
        rw [hat]
        exact List.mem_append_left _ hmem
      rw [State.ready, (State.mem_queue.mp hcalled).1, Option.map_some, Option.getD_some, hdrained]
      rfl

/-- A call on a key at rest is performed. -/
lemma serve_at (program : Program K V F I R D) (horderly : Orderly (s.at key))
    (hrest : ∀ y ∈ (s.at key).queue, y.Drained) (call : Call F I D) :
    ∃ e : Ticketed K F R, e.2.call = call.frame ∧
      e.2.phase = (program.perform key (s.slot key) call).2.drain ∧
      ((s.serve program key call).at key).queue = (s.at key).queue ++ [e] ∧
      ((s.serve program key call).at key).slot = (program.perform key (s.slot key) call).1 := by
  have hfresh : ∀ z ∈ (s.at key).queue, z.1 ≠ s.entries.length := by
    intro z hz
    have := (List.getElem?_eq_some_iff.mp (State.mem_queue.mp hz).1).1
    omega
  have hcalled := at_call program s key call.frame
  have hstarted := at_start program hfresh hcalled
    (ready_of_rest horderly hrest call.frame)
  have hdrained := at_drain program hfresh
    (at_items program hfresh hstarted call.items)
  have hserve : s.serve program key call = ((((s.step program (.call key call.frame)).step program
      (.start s.entries.length)).run program (call.items.map
        (Sum.elim (.resume s.entries.length) (.touch key)))).step program
          (.drain s.entries.length)).step program (.clean s.entries.length) := by
    rw [State.serve, State.run, List.foldl_append, List.foldl_append]
    rfl
  obtain ⟨hqueue, hslot⟩ := at_clean program _ key s.entries.length
  rw [hserve, hqueue, hslot, hdrained]
  exact ⟨_, rfl, rfl, rfl, rfl⟩

/-- Calls on a key at rest, each but the last of which settles, are performed. -/
lemma serveAll_at (horderly : Orderly (s.at key)) (hrest : ∀ y ∈ (s.at key).queue, y.Drained)
    (calls : List (Call F I D))
    (hsettle : ∀ phase ∈ (program.performAll key (s.slot key) calls).2.dropLast,
      ∃ result, phase = .settled result) :
    ∃ es : List (Ticketed K F R), es.map (fun y => y.2.call) = calls.map Call.frame ∧
      es.map (fun y => y.2.phase) = (program.performAll key (s.slot key) calls).2.map Phase.drain ∧
      ((s.serveAll program key calls).at key).queue = (s.at key).queue ++ es ∧
      ((s.serveAll program key calls).at key).slot
        = (program.performAll key (s.slot key) calls).1 := by
  induction calls using List.reverseRecOn with
  | nil => exact ⟨[], rfl, rfl, (List.append_nil _).symm, rfl⟩
  | append_singleton calls call ih =>
      rw [Program.performAll_concat, Program.performNext] at hsettle ⊢
      rw [List.dropLast_concat] at hsettle
      obtain ⟨es, hcalls, hphases, hqueue, hslot⟩ := ih fun phase hphase =>
        hsettle phase (List.mem_of_mem_dropLast hphase)
      have hserve : s.serveAll program key (calls ++ [call])
          = (s.serveAll program key calls).serve program key call := by
        rw [State.serveAll, List.foldl_append]
        rfl
      have hafter : Orderly ((s.serveAll program key calls).at key) := by
        clear ih hsettle hserve hphases hqueue hslot hcalls
        induction calls using List.reverseRecOn with
        | nil => exact horderly
        | append_singleton calls call ih =>
            rw [State.serveAll, List.foldl_append]
            exact run_orderly program ih _
      have hidle : ∀ y ∈ ((s.serveAll program key calls).at key).queue, y.Drained := by
        intro y hy
        rcases List.mem_append.mp (hqueue ▸ hy) with hy | hy
        · exact hrest y hy
        · have hphase : y.2.phase ∈ es.map fun y => y.2.phase := List.mem_map_of_mem hy
          rw [hphases] at hphase
          obtain ⟨phase, hphase, heq⟩ := List.mem_map.mp hphase
          obtain ⟨result, rfl⟩ := hsettle phase hphase
          exact ⟨result, heq.symm⟩
      obtain ⟨e, hcall, hphase, hqueue', hslot'⟩ := serve_at program hafter hidle call
      have hwas : (s.serveAll program key calls).slot key
          = (program.performAll key (s.slot key) calls).1 := hslot
      refine ⟨es ++ [e], ?_, ?_, ?_, ?_⟩
      · rw [List.map_append, hcalls, List.map_append, List.map_singleton, hcall]
        rfl
      · rw [List.map_append, hphases, List.map_append, List.map_singleton, hphase, hwas]
        rfl
      · rw [hserve, hqueue', hqueue, List.append_assoc]
      · rw [hserve, hslot', hwas]

/-- The operations one after the other, as a run of the queue. -/
def oneByOne (program : Program K V F I R D) (key : K) (before : List D)
    (calls : List (Call F I D)) : State K V F R :=
  (State.empty.run program (before.map (.touch key))).serveAll program key calls

lemma touch_all (program : Program K V F I R D) (s : State K V F R) (key : K) (before : List D) :
    (s.run program (before.map (.touch key))).at key
      = ⟨(s.at key).queue, (s.at key).tail,
        before.foldl (fun v d => program.touch key d v) (s.slot key)⟩ := by
  induction before generalizing s with
  | nil => rfl
  | cons d before ih =>
      have hstep : (s.step program (.touch key d)).at key
          = ⟨(s.at key).queue, (s.at key).tail, program.touch key d (s.slot key)⟩ :=
        State.at_setSlot_self s key _
      have hslot : (s.step program (.touch key d)).slot key = program.touch key d (s.slot key) :=
        congrArg Local.slot hstep
      have hrun : s.run program ((d :: before).map (.touch key))
          = (s.step program (.touch key d)).run program (before.map (.touch key)) := rfl
      rw [hrun, ih, hslot, hstep]
      rfl

/-- **A serial history is a run of one call at a time**, to the same promises and the same
shared state. -/
theorem Serial.oneByOne {x : Local K V F R} {history : List (Event F I D)} {before : List D}
    {calls : List (Call F I D)} {started waiting : List (Ticketed K F R)}
    (h : Serial program key x history before calls started waiting) (horderly : Orderly x) :
    ((oneByOne program key before calls).at key).slot = x.slot ∧
      ((oneByOne program key before calls).at key).queue.map
          (fun y => (y.2.call, y.2.phase.reached))
        = started.map fun y => (y.2.call, y.2.phase.reached) := by
  have htouched := touch_all program State.empty key before
  have hslot : (State.empty.run program (before.map (.touch key))).slot key
      = before.foldl (fun v d => program.touch key d v) default := congrArg Local.slot htouched
  have hqueue : ((State.empty.run program (before.map (.touch key))).at key).queue = [] := by
    rw [htouched]
    rfl
  have hperformed := h.performed
  rw [← hslot] at hperformed
  have hsettle : ∀ phase ∈ (program.performAll key
      ((State.empty.run program (before.map (.touch key))).slot key) calls).2.dropLast,
      ∃ result, phase = .settled result := by
    rw [hperformed, ← List.map_dropLast]
    intro phase hphase
    obtain ⟨y, hy, rfl⟩ := List.mem_map.mp hphase
    rcases List.eq_nil_or_concat started with rfl | ⟨init, last, hsplit⟩
    · cases hy
    · rw [List.concat_eq_append] at hsplit
      rw [hsplit, List.dropLast_concat] at hy
      have hqueue' : x.queue = init ++ (last :: waiting) := by
        rw [h.split, hsplit]
        simp
      obtain ⟨result, hdrained⟩ := horderly.drained_of_split hqueue' hy (z := last) (by simp)
        (h.hasStarted last (by simp [hsplit]))
      exact ⟨result, by rw [hdrained]; rfl⟩
  obtain ⟨es, hcalls, hphases, hes, hafter⟩ := serveAll_at
    (orderly_run program (before.map (.touch key)) key)
    (fun y hy => by rw [hqueue] at hy; cases hy) calls hsettle
  rw [hperformed] at hphases hafter
  rw [hqueue, List.nil_append] at hes
  refine ⟨hafter, ?_⟩
  rw [KeyedQueue.oneByOne, hes]
  have hdrain : ∀ phase : Phase F R, phase.reached.drain.reached = phase.reached := by
    intro phase
    cases phase <;> rfl
  have hreached : es.map (fun y => y.2.phase.reached)
      = started.map fun y => y.2.phase.reached := by
    calc es.map (fun y => y.2.phase.reached)
        = (es.map fun y => y.2.phase).map Phase.reached := by rw [List.map_map]; rfl
      _ = ((started.map fun y => y.2.phase.reached).map Phase.drain).map Phase.reached := by
          rw [hphases]
      _ = started.map fun y => y.2.phase.reached := by
          rw [List.map_map, List.map_map]
          exact List.map_congr_left fun y _ => hdrain y.2.phase
  have hzip : ∀ l : List (Ticketed K F R), l.map (fun y => (y.2.call, y.2.phase.reached))
      = (l.map fun y => y.2.call).zip (l.map fun y => y.2.phase.reached) := by
    intro l
    rw [List.zip_map']
  rw [hzip, hzip, hcalls, hreached, h.frames]

end

end KeyedQueue
