import Mathlib.Tactic

/-!
A worker that is started on demand and told to stop by a generation it compares with its own.

Whoever wants the work asks for it. When no worker runs, one is started with a generation of
its own; when one runs, a flag asks for another to be started after it. Who wants the work no
more raises the generation, and the worker ends when it sees that, at a time of its own.

* `Runner`, `Runner.start`, `Runner.windUp`, `Step`: the flags, the start and the end of a
  worker, and the moves of all sides.
* `Sound`, `Sound.step`: what every move keeps.
* `Sound.single`, `Sound.served`: **at most one worker runs, and while the work is wanted one
  does, or one has been asked for that starts as soon as the one before it ends**.
-/

/-- The flags of a worker that is started on demand. `workers` are the generations of those
that run. -/
structure Runner where
  wanted : Bool
  closed : Bool
  /-- The workers may end although the work is wanted. -/
  abandoned : Bool
  running : Bool
  restartRequested : Bool
  generation : ℕ
  workers : List ℕ

namespace Runner

/-- Starts a worker, or asks for one to be started. -/
def start (r : Runner) : Runner :=
  if r.closed then r
  else if r.running then { r with restartRequested := true }
  else
    { r with
      running := true
      generation := r.generation + 1
      workers := r.workers ++ [r.generation + 1] }

/-- The end of a worker. -/
def windUp (r : Runner) (i : ℕ) : Runner :=
  let ended := { r with running := false, workers := r.workers.eraseIdx i }
  if r.restartRequested && !r.closed && r.wanted then
    { ended with restartRequested := false }.start
  else ended

/-- A move of one of the sides. -/
inductive Step : Runner → Runner → Prop
  | asked (r : Runner) (unwanted : r.wanted = false) : Step r { r with wanted := true }.start
  | dismissed (r : Runner) : Step r { r with wanted := false, generation := r.generation + 1 }
  | closed (r : Runner) : Step r { r with closed := true, generation := r.generation + 1 }
  | abandoned (r : Runner) : Step r { r with abandoned := true }
  /-- A worker ends that is out of date, or when it may. -/
  | ended (r : Runner) (i w : ℕ) (worker : r.workers[i]? = some w)
      (stale : w ≠ r.generation ∨ r.abandoned = true) : Step r (r.windUp i)

/-- What holds between the flags and the workers. -/
structure Sound (r : Runner) : Prop where
  running : r.running = false ↔ r.workers = []
  single : r.workers.length ≤ 1
  bounded : ∀ w ∈ r.workers, w ≤ r.generation
  current : r.generation ∈ r.workers → r.wanted = true ∧ r.closed = false
  requested : r.wanted = true → r.closed = false → ∀ w ∈ r.workers, w ≠ r.generation →
    r.restartRequested = true
  active : r.wanted = true → r.closed = false → r.abandoned = false → r.workers ≠ []

variable {r r' : Runner}

lemma start_of_closed (h : r.closed = true) : r.start = r := if_pos h

lemma start_of_running (hopen : r.closed = false) (h : r.running = true) :
    r.start = { r with restartRequested := true } := by
  rw [start, if_neg (Bool.not_eq_true _ ▸ hopen), if_pos h]

lemma start_of_idle (hopen : r.closed = false) (h : r.running = false) :
    r.start =
      { r with
        running := true
        generation := r.generation + 1
        workers := r.workers ++ [r.generation + 1] } := by
  rw [start, if_neg (Bool.not_eq_true _ ▸ hopen), if_neg (Bool.not_eq_true _ ▸ h)]

/-- The only worker. -/
lemma Sound.eq_singleton (h : r.Sound) {i w : ℕ} (hworker : r.workers[i]? = some w) :
    i = 0 ∧ r.workers = [w] := by
  obtain ⟨hi, hw⟩ := List.getElem?_eq_some_iff.mp hworker
  have hlength : r.workers.length = 1 := by
    have := h.single
    omega
  obtain ⟨v, hv⟩ := List.length_eq_one_iff.mp hlength
  have hzero : i = 0 := by omega
  subst hzero
  simp only [hv, List.getElem_cons_zero] at hw
  exact ⟨rfl, hw ▸ hv⟩

/-- A start where no worker runs, once the work is wanted. -/
lemma sound_start_of_nil (hwanted : r.wanted = true) (hrunning : r.running = false)
    (hworkers : r.workers = []) : r.start.Sound := by
  cases hclosed : r.closed with
  | true =>
      rw [start_of_closed hclosed]
      exact ⟨iff_of_true hrunning hworkers, by simp [hworkers], by simp [hworkers],
        by simp [hworkers], by simp [hworkers], by simp [hclosed]⟩
  | false =>
      rw [start_of_idle hclosed hrunning, hworkers]
      exact ⟨by simp, by simp, by simp, fun _ => ⟨hwanted, hclosed⟩, by simp, by simp⟩

/-- The work is asked for while a worker runs: that one is out of date. -/
lemma Sound.asked (h : r.Sound) (hunwanted : r.wanted = false) :
    ({ r with wanted := true } : Runner).start.Sound := by
  have hold : r.generation ∉ r.workers := by
    intro hmem
    rw [(h.current hmem).1] at hunwanted
    cases hunwanted
  rcases Bool.eq_false_or_eq_true r.running with hrunning | hrunning
  · have hworkers : r.workers ≠ [] := by
      intro hnil
      rw [h.running.mpr hnil] at hrunning
      cases hrunning
    rcases Bool.eq_false_or_eq_true r.closed with hclosed | hopen
    · rw [start_of_closed (r := { r with wanted := true }) hclosed]
      exact ⟨h.running, h.single, h.bounded, fun hmem => absurd hmem hold,
        fun _ hopen => absurd (hclosed.symm.trans hopen) Bool.noConfusion,
        fun _ hopen => absurd (hclosed.symm.trans hopen) Bool.noConfusion⟩
    · rw [start_of_running (r := { r with wanted := true }) hopen hrunning]
      exact ⟨h.running, h.single, h.bounded, fun hmem => absurd hmem hold,
        fun _ _ _ _ _ => rfl, fun _ _ _ => hworkers⟩
  · exact sound_start_of_nil rfl hrunning (h.running.mp hrunning)

/-- The generation is raised: every worker is out of date. -/
lemma Sound.raised (h : r.Sound) (hover : r'.wanted = false ∨ r'.closed = true)
    (hgeneration : r'.generation = r.generation + 1) (hrunning : r'.running = r.running)
    (hworkers : r'.workers = r.workers) : r'.Sound := by
  have hunwanted : r'.wanted = true → r'.closed = false → False := by
    intro hwanted hopen
    rcases hover with hover | hover
    · exact absurd (hover.symm.trans hwanted) Bool.noConfusion
    · exact absurd (hover.symm.trans hopen) Bool.noConfusion
  refine ⟨by rw [hrunning, hworkers]; exact h.running, by rw [hworkers]; exact h.single, ?_, ?_,
    fun hwanted hopen => (hunwanted hwanted hopen).elim,
    fun hwanted hopen => (hunwanted hwanted hopen).elim⟩
  · intro w hw
    rw [hworkers] at hw
    rw [hgeneration]
    exact (h.bounded w hw).trans (Nat.le_succ _)
  · intro hmem
    rw [hgeneration, hworkers] at hmem
    exact absurd (h.bounded _ hmem) (Nat.not_succ_le_self _)

/-- A worker ends that is out of date, or may end. -/
lemma Sound.windUp (h : r.Sound) {i w : ℕ} (hworker : r.workers[i]? = some w)
    (hstale : w ≠ r.generation ∨ r.abandoned = true) : (r.windUp i).Sound := by
  obtain ⟨rfl, hworkers⟩ := h.eq_singleton hworker
  rw [Runner.windUp, hworkers]
  split
  · rename_i hagain
    rw [Bool.and_eq_true] at hagain
    exact sound_start_of_nil hagain.2 rfl rfl
  · rename_i hrest
    refine ⟨by simp, by simp, by simp, by simp, by simp, fun hwanted hopen habandoned => ?_⟩
    have hold : w ≠ r.generation := hstale.resolve_right (Bool.not_eq_true _ ▸ habandoned)
    have hagain := h.requested hwanted hopen w (by simp [hworkers]) hold
    refine absurd ?_ hrest
    rw [hagain, show r.closed = false from hopen, show r.wanted = true from hwanted]
    rfl

/-- **Every move keeps the flags and the workers in agreement.** -/
theorem Sound.step (h : r.Sound) (hstep : Step r r') : r'.Sound := by
  cases hstep with
  | asked hunwanted => exact h.asked hunwanted
  | dismissed => exact h.raised (Or.inl rfl) rfl rfl rfl
  | closed => exact h.raised (Or.inr rfl) rfl rfl rfl
  | abandoned =>
      exact ⟨h.running, h.single, h.bounded, h.current, h.requested,
        fun _ _ hkept => absurd hkept Bool.noConfusion⟩
  | ended i w hworker hstale => exact h.windUp hworker hstale

/-- While the work is wanted a worker runs, and it is the current one or another one starts
after it. -/
lemma Sound.served (h : r.Sound) (hwanted : r.wanted = true) (hopen : r.closed = false)
    (habandoned : r.abandoned = false) :
    ∃ w ∈ r.workers, w = r.generation ∨ r.restartRequested = true := by
  obtain ⟨w, hw⟩ := List.exists_mem_of_ne_nil _ (h.active hwanted hopen habandoned)
  refine ⟨w, hw, or_iff_not_imp_left.mpr fun hold => ?_⟩
  exact h.requested hwanted hopen w hw hold

end Runner
