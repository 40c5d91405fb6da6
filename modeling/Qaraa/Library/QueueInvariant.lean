import Qaraa.Library.KeyedQueue

/-!
The invariant rule of a keyed queue.

* `Rule`: what one segment of an operation, one call and one change from outside must
  keep, given what is allowed to happen.
* `Holds`: the invariant of one key: `P` of the shared state between operations, `Q` of
  the frame and the shared state while one runs, `S` of every result.
* `Move.holds`, `step_holds`: **whatever is allowed to happen keeps it**.
* `Answers`, `Move.answers`: a relation between a call, the frames of its operation and its
  result that every segment keeps.
* `Entry.Becomes`, `State.run_becomes`: what stays of a promise.
* `State.calls`, `State.calls_step`: only a call adds to the calls made.
-/

namespace KeyedQueue

section

variable {K V F I R D : Type*} {program : Program K V F I R D} {key : K}
variable {Allowed : Event F I D → V → Prop}
variable {C : F → Prop} {P : V → Prop} {Q : F → V → Prop} {S : R → V → Prop}

/-- What is allowed to happen at a key keeps an invariant. -/
structure Rule (program : Program K V F I R D) (key : K) (Allowed : Event F I D → V → Prop)
    (C : F → Prop) (P : V → Prop) (Q : F → V → Prop) (S : R → V → Prop) : Prop where
  call : ∀ t f v, Allowed (.called t f) v → C f
  start : ∀ f v, C f → P v → Q f v
  next : ∀ t f i v f', Allowed (.resumed t f i) v → Q f v →
    (program.resume key f i v).2 = .inl f' → Q f' (program.resume key f i v).1
  done : ∀ t f i v r, Allowed (.resumed t f i) v → Q f v →
    (program.resume key f i v).2 = .inr r →
      P (program.resume key f i v).1 ∧ S r (program.resume key f i v).1
  kept : ∀ t f i v r, Allowed (.resumed t f i) v → Q f v → S r v →
    S r (program.resume key f i v).1
  touch : ∀ d v, Allowed (.touched d) v → P v → P (program.touch key d v)
  touchRunning : ∀ f d v, Allowed (.touched d) v → Q f v → Q f (program.touch key d v)
  touchKept : ∀ d v r, Allowed (.touched d) v → S r v → S r (program.touch key d v)

/-- The result of a promise that has settled. -/
def Phase.result : Phase F R → Option R
  | .settled result => some result
  | .drained result => some result
  | _ => none

/-- The invariant of one key. -/
structure Holds (C : F → Prop) (P : V → Prop) (Q : F → V → Prop) (S : R → V → Prop)
    (x : Local K V F R) : Prop where
  calls : ∀ y ∈ x.queue, C y.2.call
  idle : (∀ y ∈ x.queue, ∀ f, y.2.phase ≠ .running f) → P x.slot
  busy : ∀ y ∈ x.queue, ∀ f, y.2.phase = .running f → Q f x.slot
  results : ∀ y ∈ x.queue, ∀ r, y.2.phase.result = some r → S r x.slot

lemma Holds.empty {v : V} (h : P v) : Holds C P Q S (⟨[], none, v⟩ : Local K V F R) :=
  ⟨fun _ hy => (by cases hy), fun _ => h, fun _ hy => (by cases hy), fun _ hy => (by cases hy)⟩

variable {x x' : Local K V F R}

/-- Only one operation runs at a time. -/
lemma Orderly.running_unique (h : Orderly x) {y z : Ticketed K F R} (hy : y ∈ x.queue)
    (hz : z ∈ x.queue) {f : F} (hrunning : y.2.phase = .running f) (hstarted : z.Started) :
    y = z ∨ z.Drained := by
  rcases Nat.lt_trichotomy y.1 z.1 with hlt | heq | hlt
  · obtain ⟨result, hdrained⟩ := h.drained_of_lt hy hz hlt hstarted
    rw [hrunning] at hdrained
    cases hdrained
  · exact Or.inl (h.eq_of_fst hy hz heq)
  · refine Or.inr (h.drained_of_lt hz hy hlt ?_)
    rw [Ticketed.Started, hrunning]
    rintro ⟨⟩

/-- While an operation waits to start, none runs. -/
lemma Orderly.idle_of_ready (h : Orderly x) {y : Ticketed K F R} (hy : y ∈ x.queue)
    (hphase : y.2.phase = .waiting)
    (hready : ∀ i, y.2.previous = some i → ∀ z ∈ x.queue, z.1 = i → z.Drained)
    {z : Ticketed K F R} (hz : z ∈ x.queue) (f : F) : z.2.phase ≠ .running f := by
  intro hrunning
  rcases Nat.lt_trichotomy z.1 y.1 with hlt | heq | hlt
  · obtain ⟨result, hdrained⟩ := h.drained_of_ready hy hready hz hlt
    rw [hrunning] at hdrained
    cases hdrained
  · rw [h.eq_of_fst hz hy heq, hphase] at hrunning
    cases hrunning
  · have hstarted : z.Started := by
      rw [Ticketed.Started, hrunning]
      rintro ⟨⟩
    obtain ⟨result, hdrained⟩ := h.drained_of_lt hy hz hlt hstarted
    rw [hphase] at hdrained
    cases hdrained

/-- A promise after one has moved on: that one, or another as it was. -/
lemma Orderly.mem_map_put (h : Orderly x) {y : Ticketed K F R} (hy : y ∈ x.queue)
    {phase : Phase F R} {z : Ticketed K F R} (hz : z ∈ x.queue.map (Ticketed.put y.1 phase)) :
    z = (y.1, { y.2 with phase := phase }) ∨ z ∈ x.queue ∧ z ≠ y := by
  obtain ⟨w, hw, rfl⟩ := List.mem_map.mp hz
  by_cases heq : w.1 = y.1
  · obtain rfl := h.eq_of_fst hw hy heq
    rw [Ticketed.put, if_pos rfl]
    exact Or.inl rfl
  · rw [Ticketed.put_of_ne phase heq]
    exact Or.inr ⟨hw, fun hwy => heq (by rw [hwy])⟩

/-- The calls stay what they are. -/
lemma Holds.calls_put (hholds : Holds C P Q S x) {y : Ticketed K F R} {phase : Phase F R} :
    ∀ z ∈ x.queue.map (Ticketed.put y.1 phase), C z.2.call := by
  intro z hz
  obtain ⟨w, hw, rfl⟩ := List.mem_map.mp hz
  rw [Ticketed.put_call]
  exact hholds.calls w hw

/-- **What is allowed to happen keeps the invariant.** -/
theorem Move.holds {event : Option (Event F I D)} (hmove : Move program key x event x')
    (rule : Rule program key Allowed C P Q S) (h : Orderly x)
    (hallowed : ∀ e, event = some e → Allowed e x.slot) (hholds : Holds C P Q S x) :
    Holds C P Q S x' := by
  cases hmove with
  | called ticket frame hfresh =>
      -- a new call has neither started nor ended
      have hnew := rule.call ticket frame x.slot (hallowed _ rfl)
      refine ⟨fun y hy => ?_, fun hidle => ?_, fun y hy f hf => ?_, fun y hy r hr => ?_⟩
      · rcases List.mem_append.mp hy with hy | hy
        · exact hholds.calls y hy
        · rw [List.mem_singleton.mp hy]
          exact hnew
      · exact hholds.idle fun y hy => hidle y (List.mem_append_left _ hy)
      · rcases List.mem_append.mp hy with hy | hy
        · exact hholds.busy y hy f hf
        · rw [List.mem_singleton.mp hy] at hf
          cases hf
      · rcases List.mem_append.mp hy with hy | hy
        · exact hholds.results y hy r hr
        · rw [List.mem_singleton.mp hy] at hr
          cases hr
  | started y hy hphase hready =>
      -- a call starts when nothing runs, so the idle invariant gives what its frame needs
      have hrest := fun z hz => h.idle_of_ready hy hphase hready (z := z) hz
      have hnow := rule.start _ _ (hholds.calls y hy) (hholds.idle hrest)
      refine ⟨hholds.calls_put, fun hidle => ?_, fun z hz f hf => ?_, fun z hz r hr => ?_⟩
      · exact absurd (Ticketed.put_self _ y) (hidle _ (List.mem_map_of_mem hy) y.2.call)
      · rcases h.mem_map_put hy hz with rfl | ⟨hz, -⟩
        · cases hf
          exact hnow
        · exact absurd hf (hrest z hz f)
      · rcases h.mem_map_put hy hz with rfl | ⟨hz, -⟩
        · cases hr
        · exact hholds.results z hz r hr
  | resumed y hy frame hphase answer =>
      have hgo := hallowed _ rfl
      have hnow := hholds.busy y hy frame hphase
      -- nothing else runs beside the operation that goes on
      have hrest : ∀ z ∈ x.queue, z ≠ y → ∀ f, z.2.phase ≠ .running f := by
        intro z hz hne f hf
        have hstarted : y.Started := by
          rw [Ticketed.Started, hphase]
          rintro ⟨⟩
        rcases h.running_unique hz hy hf hstarted with heq | ⟨result, hdrained⟩
        · exact hne heq
        · rw [hphase] at hdrained
          cases hdrained
      have hself := List.mem_map_of_mem (f := Ticketed.put y.1
        (.after (program.resume key frame answer x.slot).2)) hy
      cases hafter : (program.resume key frame answer x.slot).2 with
      | inl next =>
          rw [hafter] at hself
          have hnext := rule.next _ _ _ _ next hgo hnow hafter
          refine ⟨hholds.calls_put, fun hidle => ?_, fun z hz f hf => ?_, fun z hz r hr => ?_⟩
          · exact absurd (Ticketed.put_self _ y) (hidle _ hself next)
          · rcases h.mem_map_put hy hz with rfl | ⟨hz, hne⟩
            · cases hf
              exact hnext
            · exact absurd hf (hrest z hz hne f)
          · rcases h.mem_map_put hy hz with rfl | ⟨hz, -⟩
            · cases hr
            · exact rule.kept _ _ _ _ r hgo hnow (hholds.results z hz r hr)
      | inr result =>
          -- the operation ends: the session is idle again
          obtain ⟨hidle, hresult⟩ := rule.done _ _ _ _ result hgo hnow hafter
          refine ⟨hholds.calls_put, fun _ => hidle, fun z hz f hf => ?_, fun z hz r hr => ?_⟩
          · rcases h.mem_map_put hy hz with rfl | ⟨hz, hne⟩
            · cases hf
            · exact absurd hf (hrest z hz hne f)
          · rcases h.mem_map_put hy hz with rfl | ⟨hz, -⟩
            · cases hr
              exact hresult
            · exact rule.kept _ _ _ _ r hgo hnow (hholds.results z hz r hr)
  | drained y hy result hphase =>
      refine ⟨hholds.calls_put, fun hidle => hholds.idle fun z hz f hf => ?_,
        fun z hz f hf => ?_, fun z hz r hr => ?_⟩
      -- a promise whose reactions run did not run before
      · have hne : z.1 ≠ y.1 := by
          intro heq
          rw [h.eq_of_fst hz hy heq, hphase] at hf
          cases hf
        refine hidle z (List.mem_map.mpr ⟨z, hz, Ticketed.put_of_ne _ hne⟩) f hf
      · rcases h.mem_map_put hy hz with rfl | ⟨hz, -⟩
        · cases hf
        · exact hholds.busy z hz f hf
      · rcases h.mem_map_put hy hz with rfl | ⟨hz, -⟩
        · cases hr
          exact hholds.results y hy result (by rw [hphase]; rfl)
        · exact hholds.results z hz r hr
  | cleaned y hy hdrained htail =>
      exact ⟨hholds.calls, hholds.idle, hholds.busy, hholds.results⟩
  | touched change =>
      have hgo := hallowed _ rfl
      exact ⟨hholds.calls, fun hidle => rule.touch _ _ hgo (hholds.idle hidle),
        fun y hy f hf => rule.touchRunning _ _ _ hgo (hholds.busy y hy f hf),
        fun y hy r hr => rule.touchKept _ _ _ hgo (hholds.results y hy r hr)⟩

/-! ### What an operation is answered with -/

/-- How the frames of an operation and its result are related to its call. -/
structure Answers (stage : F → F → Prop) (result : F → R → Prop) (x : Local K V F R) : Prop where
  frames : ∀ y ∈ x.queue, ∀ f, y.2.phase = .running f → stage y.2.call f
  results : ∀ y ∈ x.queue, ∀ r, y.2.phase.result = some r → result y.2.call r

variable {stage : F → F → Prop} {result : F → R → Prop}

/-- An operation has moved on within the relation. -/
lemma Answers.put (h : Answers stage result x) (horderly : Orderly x) {y : Ticketed K F R}
    (hy : y ∈ x.queue) {phase : Phase F R} (hframe : ∀ f, phase = .running f → stage y.2.call f)
    (hresult : ∀ r, phase.result = some r → result y.2.call r) (tail : Option ℕ) (slot : V) :
    Answers stage result ⟨x.queue.map (Ticketed.put y.1 phase), tail, slot⟩ := by
  refine ⟨fun z hz f hf => ?_, fun z hz r hr => ?_⟩
  · rcases horderly.mem_map_put hy hz with rfl | ⟨hz, -⟩
    · exact hframe f hf
    · exact h.frames z hz f hf
  · rcases horderly.mem_map_put hy hz with rfl | ⟨hz, -⟩
    · exact hresult r hr
    · exact h.results z hz r hr

/-- **A move keeps the relation if its segment does.** -/
theorem Move.answers {event : Option (Event F I D)} (hmove : Move program key x event x')
    (horderly : Orderly x) (hstart : ∀ f, stage f f)
    (hsegment : ∀ y ∈ x.queue, ∀ f i, event = some (.resumed y.1 f i) →
      y.2.phase = .running f → stage y.2.call f →
      (∀ f', (program.resume key f i x.slot).2 = .inl f' → stage y.2.call f') ∧
        ∀ r, (program.resume key f i x.slot).2 = .inr r → result y.2.call r)
    (h : Answers stage result x) : Answers stage result x' := by
  cases hmove with
  | called ticket frame hfresh =>
      refine ⟨fun y hy f hf => ?_, fun y hy r hr => ?_⟩
      · rcases List.mem_append.mp hy with hy | hy
        · exact h.frames y hy f hf
        · rw [List.mem_singleton.mp hy] at hf
          cases hf
      · rcases List.mem_append.mp hy with hy | hy
        · exact h.results y hy r hr
        · rw [List.mem_singleton.mp hy] at hr
          cases hr
  | started y hy hphase hready =>
      refine h.put horderly hy (fun f hf => ?_) (fun r hr => by cases hr) _ _
      cases hf
      exact hstart y.2.call
  | resumed y hy frame hphase answer =>
      obtain ⟨hnext, hdone⟩ := hsegment y hy frame answer rfl hphase (h.frames y hy frame hphase)
      refine h.put horderly hy (fun f hf => ?_) (fun r hr => ?_) _ _
      · cases hafter : (program.resume key frame answer x.slot).2 with
        | inl next =>
            rw [hafter] at hf
            cases hf
            exact hnext _ hafter
        | inr outcome =>
            rw [hafter] at hf
            cases hf
      · cases hafter : (program.resume key frame answer x.slot).2 with
        | inl next =>
            rw [hafter] at hr
            cases hr
        | inr outcome =>
            rw [hafter] at hr
            cases hr
            exact hdone _ hafter
  | drained y hy outcome hphase =>
      refine h.put horderly hy (fun f hf => by cases hf) (fun r hr => ?_) _ _
      exact h.results y hy r (by rw [hphase]; exact hr)
  | cleaned y hy hdrained htail => exact ⟨h.frames, h.results⟩
  | touched change => exact ⟨h.frames, h.results⟩

/-! ### What stays of a promise -/

/-- A promise later on: it has kept its key, its call and its result. -/
structure Entry.Becomes (e e' : Entry K F R) : Prop where
  key : e'.key = e.key
  call : e'.call = e.call
  result : ∀ r, e.phase.result = some r → e'.phase.result = some r

lemma Entry.Becomes.refl (e : Entry K F R) : e.Becomes e := ⟨rfl, rfl, fun _ h => h⟩

lemma Entry.Becomes.trans {e e' e'' : Entry K F R} (h : e.Becomes e') (h' : e'.Becomes e'') :
    e.Becomes e'' :=
  ⟨h'.key.trans h.key, h'.call.trans h.call, fun r hr => h'.result r (h.result r hr)⟩

lemma State.put_becomes {s : State K V F R} {t ticket : ℕ} {e e₀ : Entry K F R}
    (h : s.entries[t]? = some e) (he : s.entries[ticket]? = some e₀) {phase : Phase F R}
    (hresult : ∀ r, e₀.phase.result = some r → phase.result = some r) :
    ∃ e', (s.put ticket phase).entries[t]? = some e' ∧ e.Becomes e' := by
  rw [put, List.getElem?_modify, h]
  by_cases heq : ticket = t
  · subst heq
    rw [h] at he
    cases he
    exact ⟨{ e with phase := phase }, by simp, ⟨rfl, rfl, hresult⟩⟩
  · exact ⟨e, by simp [heq], .refl e⟩

/-- A promise after one has moved on: it is that one, or as it was. -/
lemma State.put_result {s : State K V F R} {t ticket : ℕ} {phase : Phase F R}
    {e' : Entry K F R} (h : (s.put ticket phase).entries[t]? = some e') :
    ∃ e, s.entries[t]? = some e ∧ (t = ticket ∧ e' = { e with phase := phase } ∨ e' = e) := by
  rw [put, List.getElem?_modify] at h
  obtain ⟨e, he, heq⟩ := Option.map_eq_some_iff.mp h
  refine ⟨e, he, ?_⟩
  split at heq
  · rename_i hticket
    exact Or.inl ⟨hticket.symm, heq.symm⟩
  · exact Or.inr heq.symm

/-- The calls made, with their keys. -/
def State.calls (s : State K V F R) : List (K × F) := s.entries.map fun e => (e.key, e.call)

lemma State.calls_put (s : State K V F R) (ticket : ℕ) (phase : Phase F R) :
    (s.put ticket phase).calls = s.calls := by
  rw [calls, put, calls]
  refine List.ext_getElem? fun i => ?_
  rw [List.getElem?_map, List.getElem?_map, List.getElem?_modify]
  cases s.entries[i]? with
  | none => simp
  | some e => by_cases hi : ticket = i <;> simp [hi]

variable [DecidableEq K]

/-- When all promises have settled no operation runs. -/
lemma idle_of_drained {s : State K V F R} (h : s.entries.all (fun e => e.phase.isDrained) = true)
    (key : K) : ∀ y ∈ s.queue key, ∀ f, y.2.phase ≠ .running f := by
  intro y hy f hf
  obtain ⟨hentry, -⟩ := State.mem_queue.mp hy
  have hdrained := List.all_eq_true.mp h y.2 (List.mem_of_getElem? hentry)
  rw [hf] at hdrained
  cases hdrained

variable [Inhabited V]

/-- **A step at which only what is allowed happens keeps the invariant.** -/
theorem step_holds (rule : Rule program key Allowed C P Q S) {s : State K V F R}
    (action : Action K F I D) (h : Orderly (s.at key))
    (hallowed : ∀ e, s.eventAt action key = some e → Allowed e (s.slot key))
    (hholds : Holds C P Q S (s.at key)) : Holds C P Q S ((s.step program action).at key) := by
  rcases step_move program s action key with ⟨heq, -⟩ | hmove
  · rw [heq]
    exact hholds
  · exact hmove.holds rule h hallowed hholds

/-- The same over a run of steps that are allowed in every state. -/
lemma run_holds (rule : Rule program key Allowed C P Q S) {actions : List (Action K F I D)}
    (hallowed : ∀ action ∈ actions, ∀ (s : State K V F R) (e : Event F I D),
      s.eventAt action key = some e → Allowed e (s.slot key)) {s : State K V F R}
    (h : Orderly (s.at key) ∧ Holds C P Q S (s.at key)) :
    Orderly ((s.run program actions).at key) ∧ Holds C P Q S ((s.run program actions).at key) := by
  induction actions generalizing s with
  | nil => exact h
  | cons action actions ih =>
      refine ih (fun a ha => hallowed a (by simp [ha])) ⟨run_orderly program h.1 [action], ?_⟩
      exact step_holds rule action h.1 (hallowed action (by simp) s) h.2

/-- **Only a call adds to the calls made.** -/
lemma State.calls_step (program : Program K V F I R D) (s : State K V F R)
    (action : Action K F I D) :
    (s.step program action).calls = s.calls ++ (match action with
      | .call key frame => [(key, frame)]
      | _ => []) := by
  cases action with
  | call key frame => exact List.map_append
  | start ticket =>
      rw [State.step, List.append_nil]
      split
      · split
        · exact s.calls_put _ _
        · rfl
      · rfl
  | resume ticket answer =>
      rw [State.step, List.append_nil]
      split
      · exact s.calls_put _ _
      · rfl
  | drain ticket =>
      rw [State.step, List.append_nil]
      split
      · exact s.calls_put _ _
      · rfl
  | clean ticket =>
      rw [State.step, List.append_nil]
      split
      · split <;> rfl
      · rfl
  | touch key change => exact (List.append_nil _).symm

/-- No step changes what stays of a promise. -/
lemma State.step_becomes (program : Program K V F I R D) {s : State K V F R}
    (action : Action K F I D) {t : ℕ} {e : Entry K F R} (h : s.entries[t]? = some e) :
    ∃ e', (s.step program action).entries[t]? = some e' ∧ e.Becomes e' := by
  cases action with
  | call key frame =>
      refine ⟨e, ?_, .refl e⟩
      show (s.entries ++ [_])[t]? = some e
      rw [List.getElem?_append_left (List.getElem?_eq_some_iff.mp h).1, h]
  | start ticket =>
      rw [State.step]
      split
      · rename_i he
        split
        · exact State.put_becomes h he fun _ hr => (by cases hr)
        · exact ⟨e, h, .refl e⟩
      · exact ⟨e, h, .refl e⟩
  | resume ticket answer =>
      rw [State.step]
      split
      · rename_i he
        exact State.put_becomes h he fun _ hr => (by cases hr)
      · exact ⟨e, h, .refl e⟩
  | drain ticket =>
      rw [State.step]
      split
      · rename_i he
        exact State.put_becomes h he fun _ hr => hr
      · exact ⟨e, h, .refl e⟩
  | clean ticket =>
      rw [State.step]
      split
      · split <;> exact ⟨e, h, .refl e⟩
      · exact ⟨e, h, .refl e⟩
  | touch key change => exact ⟨e, h, .refl e⟩

lemma State.run_becomes (program : Program K V F I R D) (actions : List (Action K F I D))
    {s : State K V F R} {t : ℕ} {e : Entry K F R} (h : s.entries[t]? = some e) :
    ∃ e', (s.run program actions).entries[t]? = some e' ∧ e.Becomes e' := by
  induction actions using List.reverseRecOn with
  | nil => exact ⟨e, h, .refl e⟩
  | append_singleton actions action ih =>
      rw [State.run_concat]
      obtain ⟨e', he', hbecomes⟩ := ih
      obtain ⟨e'', he'', hbecomes'⟩ := State.step_becomes program action he'
      exact ⟨e'', he'', hbecomes.trans hbecomes'⟩

/-- **A promise gets its result when its operation ends.** -/
theorem State.result_step (program : Program K V F I R D) {s : State K V F R}
    {action : Action K F I D} {t : ℕ} {e' : Entry K F R} {r : R}
    (h : (s.step program action).entries[t]? = some e') (hresult : e'.phase.result = some r) :
    (∃ e, s.entries[t]? = some e ∧ e.phase.result = some r) ∨
      ∃ answer call previous frame, action = .resume t answer ∧
        s.entries[t]? = some ⟨e'.key, call, previous, .running frame⟩ ∧
        (program.resume e'.key frame answer (s.slot e'.key)).2 = .inr r := by
  cases action with
  | call key frame =>
      rcases Nat.lt_or_ge t s.entries.length with hlt | hge
      · refine Or.inl ⟨e', ?_, hresult⟩
        rwa [State.step, List.getElem?_append_left hlt] at h
      · rw [State.step, List.getElem?_append_right hge] at h
        rw [List.mem_singleton.mp (List.mem_of_getElem? h)] at hresult
        cases hresult
  | start ticket =>
      rw [State.step] at h
      split at h
      · split at h
        · obtain ⟨e, he, ⟨-, heq⟩ | heq⟩ := State.put_result h
          · rw [heq] at hresult
            cases hresult
          · exact Or.inl ⟨e, he, heq ▸ hresult⟩
        · exact Or.inl ⟨e', h, hresult⟩
      · exact Or.inl ⟨e', h, hresult⟩
  | resume ticket answer =>
      rw [State.step] at h
      split at h
      · rename_i key call previous frame hentry
        obtain ⟨e, he, ⟨hticket, heq⟩ | heq⟩ := State.put_result h
        · subst hticket
          rw [hentry] at he
          cases he
          subst heq
          refine Or.inr ⟨answer, call, previous, frame, rfl, hentry, ?_⟩
          dsimp only at hresult ⊢
          generalize (program.resume key frame answer (s.slot key)).2 = ended at hresult ⊢
          cases ended with
          | inl next => cases hresult
          | inr outcome => exact congrArg Sum.inr (Option.some.inj hresult)
        · exact Or.inl ⟨e, he, heq ▸ hresult⟩
      · exact Or.inl ⟨e', h, hresult⟩
  | drain ticket =>
      rw [State.step] at h
      split at h
      · rename_i key call previous result hentry
        obtain ⟨e, he, ⟨hticket, heq⟩ | heq⟩ := State.put_result h
        · subst hticket
          rw [hentry] at he
          cases he
          exact Or.inl ⟨_, hentry, by rw [← hresult, heq]; rfl⟩
        · exact Or.inl ⟨e, he, heq ▸ hresult⟩
      · exact Or.inl ⟨e', h, hresult⟩
  | clean ticket =>
      rw [State.step] at h
      split at h
      · split at h <;> exact Or.inl ⟨e', h, hresult⟩
      · exact Or.inl ⟨e', h, hresult⟩
  | touch key change => exact Or.inl ⟨e', h, hresult⟩

end

end KeyedQueue
