import Qaraa.Sdk.DartStreamRuns

/-!
The reconnect limit of the Dart snapshot stream: what counts towards it.

* `losses`, `UsedUp`: the connections and attempts a run loop has lost, and a loss beyond the
  five that it retries.
* `Tally`, `Counted`: the errors given to the listeners and `attempt` against the history;
  `Counted.step`, `run_counted`.
* `reconnect_limit_iff`: **the stream fails with the reconnect limit exactly when a run loop
  loses a connection after five losses of any kind**; `limit_despite_progress`: a run where each
  connection delivers.
-/

namespace Qaraa.Sdk.Dart

/-- The connections and attempts lost since the last run loop began. -/
def losses (history : List Happening) : ℕ :=
  history.foldl (fun n happening =>
    match happening with
    | .started => 0
    | .dropped | .failed => n + 1
    | _ => n) 0

/-- A loss of this kind came when a run loop had no delay left. -/
def UsedUp (happening : Happening) (history : List Happening) : Prop :=
  ∃ earlier, earlier ++ [happening] <+: history ∧ losses earlier = delays.length

/-- Every connection has delivered before it is lost; `pending` tells whether one is open that
has not. -/
def delivering (pending : Bool) : List Happening → Bool
  | [] => true
  | .opened :: rest => delivering true rest
  | .started :: rest | .delivered :: rest => delivering false rest
  | .dropped :: rest | .failed :: rest => !pending && delivering false rest

/-- The errors are those of losses that came when no delay was left. -/
structure Tally (errors : List StreamError) (history : List Happening) : Prop where
  limit : .reconnectLimit ∈ errors ↔ UsedUp .dropped history
  last : .thrown false ∈ errors ↔ UsedUp .failed history

lemma losses_concat (history : List Happening) (happening : Happening) :
    losses (history ++ [happening]) =
      match happening with
      | .started => 0
      | .dropped | .failed => losses history + 1
      | _ => losses history := by
  rw [losses, List.foldl_append]
  cases happening <;> rfl

lemma usedUp_concat (happening x : Happening) (history : List Happening) :
    UsedUp happening (history ++ [x]) ↔
      UsedUp happening history ∨ (happening = x ∧ losses history = delays.length) := by
  constructor
  · rintro ⟨earlier, hprefix, hlosses⟩
    rcases List.prefix_concat_iff.mp hprefix with heq | hbefore
    · obtain ⟨rfl, hx⟩ := List.append_inj' heq rfl
      exact Or.inr ⟨List.singleton_inj.mp hx, hlosses⟩
    · exact Or.inl ⟨earlier, hbefore, hlosses⟩
  · rintro (⟨earlier, hprefix, hlosses⟩ | ⟨rfl, hlosses⟩)
    · exact ⟨earlier, hprefix.trans (List.prefix_append _ _), hlosses⟩
    · exact ⟨history, List.prefix_rfl, hlosses⟩

namespace Tally

variable {errors : List StreamError} {history : List Happening}

/-- No loss, or one after which a delay is left. -/
lemma concat (h : Tally errors history) {x : Happening}
    (hleft : x = .dropped ∨ x = .failed → losses history < delays.length) :
    Tally errors (history ++ [x]) := by
  constructor
  · rw [usedUp_concat, h.limit]
    refine (or_iff_left ?_).symm
    rintro ⟨rfl, hlosses⟩
    exact absurd hlosses (hleft (Or.inl rfl)).ne
  · rw [usedUp_concat, h.last]
    refine (or_iff_left ?_).symm
    rintro ⟨rfl, hlosses⟩
    exact absurd hlosses (hleft (Or.inr rfl)).ne

/-- A drop after which no delay is left. -/
lemma dropped (h : Tally errors history) (hlosses : losses history = delays.length) :
    Tally (errors ++ [.reconnectLimit]) (history ++ [.dropped]) := by
  refine ⟨iff_of_true (by simp) ?_, ?_⟩
  · exact (usedUp_concat _ _ _).mpr (Or.inr ⟨rfl, hlosses⟩)
  · rw [usedUp_concat, ← h.last]
    simp

lemma failed (h : Tally errors history) (hlosses : losses history = delays.length) :
    Tally (errors ++ [.thrown false]) (history ++ [.failed]) := by
  refine ⟨?_, iff_of_true (by simp) ?_⟩
  · rw [usedUp_concat, ← h.limit]
    simp
  · exact (usedUp_concat _ _ _).mpr (Or.inr ⟨rfl, hlosses⟩)

lemma terminal (h : Tally errors history) : Tally (errors ++ [.thrown true]) history := by
  refine ⟨?_, ?_⟩
  · rw [← h.limit]
    simp
  · rw [← h.last]
    simp

end Tally

namespace QaraaSnapshotStream

variable {Body : Type} {options : StreamOptions} {s s' : QaraaSnapshotStream Body}
  {loop : RunLoop} {i : ℕ}

/-- `attempt` counts what the run loop has lost. -/
structure Counted (s : QaraaSnapshotStream Body) : Prop where
  attempts : ∀ loop ∈ s.loops, s.isLive loop = true → loop.attempt = losses s.history
  bounded : ∀ loop ∈ s.loops, loop.attempt ≤ delays.length
  tally : Tally s.errors s.history

lemma Counted.create (options : StreamOptions) :
    (create options : QaraaSnapshotStream Body).Counted := by
  refine ⟨?_, ?_, ?_, ?_⟩
  · simp [QaraaSnapshotStream.create]
  · simp [QaraaSnapshotStream.create]
  · refine iff_of_false (by simp [QaraaSnapshotStream.create]) ?_
    rintro ⟨earlier, hprefix, -⟩
    simp [QaraaSnapshotStream.create] at hprefix
  · refine iff_of_false (by simp [QaraaSnapshotStream.create]) ?_
    rintro ⟨earlier, hprefix, -⟩
    simp [QaraaSnapshotStream.create] at hprefix

@[simp] lemma halt_errors (s : QaraaSnapshotStream Body) : s.halt.errors = s.errors := by
  rw [halt]
  split <;> rfl

@[simp] lemma halt_history (s : QaraaSnapshotStream Body) : s.halt.history = s.history := by
  rw [halt]
  split <;> rfl

lemma isLive_of_closed (h : s.closed = true) (loop : RunLoop) : s.isLive loop = false := by
  rw [isLive, h]
  rfl

lemma isLive_of_ne (h : loop.runGeneration ≠ s.generation) : s.isLive loop = false := by
  rw [isLive, beq_eq_false_iff_ne.mpr h, Bool.and_false]

/-- Where no run loop may go on there is nothing to count. -/
lemma Counted.of_dead (hdead : ∀ loop ∈ s.loops, s.isLive loop = false)
    (hbounded : ∀ loop ∈ s.loops, loop.attempt ≤ delays.length)
    (htally : Tally s.errors s.history) : s.Counted := by
  refine ⟨fun loop hloop hlive => ?_, hbounded, htally⟩
  rw [hdead loop hloop] at hlive
  cases hlive

/-- The run loops are out of date. -/
lemma Counted.halt (hgeneration : ∀ loop ∈ s.loops, loop.runGeneration ≤ s.generation)
    (hbounded : ∀ loop ∈ s.loops, loop.attempt ≤ delays.length)
    (htally : Tally s.errors s.history) : s.halt.Counted := by
  refine .of_dead ?_ ?_ ?_
  · intro loop hloop
    rw [halt_loops, List.mem_map] at hloop
    obtain ⟨l, hl, rfl⟩ := hloop
    refine isLive_of_ne ?_
    rw [halt_generation]
    exact (Nat.lt_succ_of_le (hgeneration l hl)).ne
  · intro loop hloop
    rw [halt_loops, List.mem_map] at hloop
    obtain ⟨l, hl, rfl⟩ := hloop
    exact hbounded l hl
  · rwa [halt_errors, halt_history]

lemma Counted.close (hgeneration : ∀ loop ∈ s.loops, loop.runGeneration ≤ s.generation)
    (hbounded : ∀ loop ∈ s.loops, loop.attempt ≤ delays.length)
    (htally : Tally s.errors s.history) : s.close.Counted := by
  rw [QaraaSnapshotStream.close]
  split
  · rename_i hclosed
    exact .of_dead (fun loop _ => isLive_of_closed hclosed loop) hbounded htally
  · exact Counted.halt hgeneration hbounded htally

lemma Counted.setPlace (h : s.Counted) (i : ℕ) (place : Place) : (s.setPlace i place).Counted := by
  have hold : ∀ loop ∈ (s.setPlace i place).loops, ∃ l ∈ s.loops,
      loop.attempt = l.attempt ∧ s.isLive loop = s.isLive l := by
    intro loop hloop
    obtain ⟨n, hn⟩ := List.mem_iff_getElem?.mp hloop
    rw [QaraaSnapshotStream.setPlace, List.getElem?_modify, Option.map_eq_map,
      Option.map_eq_some_iff] at hn
    obtain ⟨l, hl, rfl⟩ := hn
    refine ⟨l, List.mem_of_getElem? hl, ?_⟩
    split <;> exact ⟨rfl, rfl⟩
  refine ⟨fun loop hloop hlive => ?_, fun loop hloop => ?_, h.tally⟩
  · obtain ⟨l, hl, hattempt, hsame⟩ := hold loop hloop
    exact hattempt.trans (h.attempts l hl (hsame ▸ hlive))
  · obtain ⟨l, hl, hattempt, -⟩ := hold loop hloop
    exact hattempt.trans_le (h.bounded l hl)

/-- Something that is no loss. -/
lemma Counted.record (h : s.Counted) {happening : Happening}
    (hkept : losses (s.history ++ [happening]) = losses s.history) :
    (s.record loop [happening]).Counted := by
  rcases Bool.eq_false_or_eq_true (s.isLive loop) with hlive | hover
  · have hhistory : (s.record loop [happening]).history = s.history ++ [happening] := by
      rw [QaraaSnapshotStream.record, hlive]
      rfl
    refine ⟨fun l hl hl' => ?_, h.bounded, ?_⟩
    · rw [hhistory, hkept]
      exact h.attempts l hl hl'
    · rw [hhistory]
      refine h.tally.concat ?_
      rintro (rfl | rfl) <;> rw [losses_concat] at hkept <;>
        exact absurd hkept (Nat.succ_ne_self _)
  · have hhistory : (s.record loop [happening]).history = s.history := by
      rw [QaraaSnapshotStream.record, hover]
      exact List.append_nil _
    refine ⟨fun l hl hl' => ?_, h.bounded, ?_⟩
    · rw [hhistory]
      exact h.attempts l hl hl'
    · rw [hhistory]
      exact h.tally

/-- A run loop begins. -/
lemma Tally.started {errors : List StreamError} {history : List Happening}
    (h : Tally errors history) : Tally errors (history ++ [.started]) := by
  refine h.concat ?_
  rintro (h | h) <;> cases h

lemma Counted.finish (htally : Tally s.errors s.history) (hloops : s.loops = [loop]) :
    (s.finish 0).Counted := by
  rcases finish_of_singleton hloops with hend | hagain
  · rw [hend]
    exact .of_dead (by simp) (by simp) htally
  · rw [hagain]
    refine ⟨?_, ?_, Tally.started htally⟩
    · intro l hl _
      obtain rfl := List.mem_singleton.mp hl
      exact (losses_concat s.history .started).symm
    · intro l hl
      obtain rfl := List.mem_singleton.mp hl
      exact Nat.zero_le _

/-- The run loop waits to try again, after a loss that counts where it may go on. -/
lemma Counted.waitForRetry (hloops : s.loops = [loop]) (hleft : loop.attempt < delays.length)
    (hattempts : s.isLive loop = true → loop.attempt + 1 = losses s.history)
    (htally : Tally s.errors s.history) : (s.waitForRetry 0).Counted := by
  rw [waitForRetry_of_singleton hloops]
  refine ⟨?_, ?_, htally⟩
  · intro l hl hlive
    obtain rfl := List.mem_singleton.mp hl
    exact hattempts hlive
  · intro l hl
    obtain rfl := List.mem_singleton.mp hl
    exact hleft

lemma free_of_over (hover : s.isLive loop = false) (happenings : List Happening) :
    (s.free loop happenings).history = s.history := by
  rw [free, record, hover]
  exact List.append_nil _

lemma free_of_live (hlive : s.isLive loop = true) (happenings : List Happening) :
    (s.free loop happenings).history = s.history ++ happenings := by
  rw [free, record, hlive]
  rfl

/-- A run loop that may not go on ends at an error. -/
lemma caught_of_over (hbase : s.Base) (hloops : s.loops = [loop]) (hover : s.isLive loop = false)
    (error : StreamError) : s.caught 0 loop error = (s.free loop error.happening).finish 0 := by
  rw [caught, if_pos]
  rcases hbase.stale (by simp [hloops]) hover with hold | hclient
  · rw [bne_iff_ne.mpr hold, Bool.or_true]
  · rw [hclient, Bool.or_true, Bool.true_or]

lemma Counted.caught (h : s.Counted) (hbase : s.Base) (hloops : s.loops = [loop])
    (terminal : Bool) : (s.caught 0 loop (.thrown terminal)).Counted := by
  have hmem : loop ∈ s.loops := by simp [hloops]
  rcases Bool.eq_false_or_eq_true (s.isLive loop) with hlive | hover
  · have hattempt := h.attempts loop hmem hlive
    have hbounded := h.bounded loop hmem
    rw [caught_of_live hlive]
    split
    · rename_i hlast
      have hhistory := free_of_live hlive (StreamError.thrown terminal).happening
      have htally : Tally (s.errors ++ [.thrown terminal])
          (s.free loop (StreamError.thrown terminal).happening).history := by
        rw [hhistory]
        cases terminal with
        | true =>
            rw [show (StreamError.thrown true).happening = [] from rfl, List.append_nil]
            exact h.tally.terminal
        | false =>
            have hused : delays.length ≤ loop.attempt := by
              simpa [StreamError.isTerminal] using hlast
            exact h.tally.failed (hattempt.symm.trans (hbounded.antisymm hused))
      have hclosed : ((s.free loop (StreamError.thrown terminal).happening).addError
          (.thrown terminal)).close.Counted :=
        Counted.close hbase.bounded h.bounded htally
      exact hclosed.setPlace 0 .closing
    · rename_i hmore
      rw [Bool.or_eq_true, decide_eq_true_eq, not_or, not_le] at hmore
      obtain ⟨hnot, hleft⟩ := hmore
      obtain rfl : terminal = false := Bool.not_eq_true _ ▸ hnot
      have hhistory := free_of_live hlive (StreamError.thrown false).happening
      refine Counted.waitForRetry hloops hleft (fun _ => ?_) ?_
      · rw [hhistory, show (StreamError.thrown false).happening = [.failed] from rfl, losses_concat,
          hattempt]
      · rw [hhistory]
        exact h.tally.concat fun _ => hattempt ▸ hleft
  · rw [caught_of_over hbase hloops hover]
    refine Counted.finish ?_ hloops
    rw [free_of_over hover]
    exact h.tally

lemma Counted.dropped (h : s.Counted) (hbase : s.Base) (hloops : s.loops = [loop]) :
    (s.dropped 0 loop).Counted := by
  have hmem : loop ∈ s.loops := by simp [hloops]
  have hbounded := h.bounded loop hmem
  rw [QaraaSnapshotStream.dropped]
  rcases Bool.eq_false_or_eq_true (s.isLive loop) with hlive | hover
  · have hattempt := h.attempts loop hmem hlive
    have hhistory := free_of_live hlive [.dropped]
    split
    · rename_i hused
      have hlive' : (s.free loop [.dropped]).isLive loop = true := hlive
      rw [caught_of_live hlive', if_pos (by simp [hused])]
      have hsame :
          ((s.free loop [.dropped]).free loop StreamError.reconnectLimit.happening).history =
            s.history ++ [.dropped] := by
        rw [free_of_live hlive', hhistory]
        exact List.append_nil _
      have htally : Tally (s.errors ++ [.reconnectLimit])
          ((s.free loop [.dropped]).free loop StreamError.reconnectLimit.happening).history := by
        rw [hsame]
        exact h.tally.dropped (hattempt.symm.trans (hbounded.antisymm hused))
      have hclosed : (((s.free loop [.dropped]).free loop
          StreamError.reconnectLimit.happening).addError .reconnectLimit).close.Counted :=
        Counted.close hbase.bounded h.bounded htally
      exact hclosed.setPlace 0 .closing
    · rename_i hmore
      have hleft := not_le.mp hmore
      refine Counted.waitForRetry hloops hleft (fun _ => ?_) ?_
      · rw [hhistory, losses_concat, hattempt]
      · rw [hhistory]
        exact h.tally.concat fun _ => hattempt ▸ hleft
  · have hhistory := free_of_over hover [.dropped]
    split
    · have hover' : (s.free loop [.dropped]).isLive loop = false := hover
      rw [caught_of_over (hbase.free _) hloops hover']
      refine Counted.finish ?_ hloops
      rw [free_of_over hover', hhistory]
      exact h.tally
    · rename_i hmore
      refine Counted.waitForRetry hloops (not_le.mp hmore) (fun hlive => ?_) ?_
      · exact absurd (hover.symm.trans hlive) Bool.noConfusion
      · rw [hhistory]
        exact h.tally

/-- What the counting does not look at changes. -/
lemma Counted.congr (h : s.Counted) (hloops : s'.loops = s.loops)
    (hlive : ∀ loop, s'.isLive loop = s.isLive loop) (herrors : s'.errors = s.errors)
    (hhistory : s'.history = s.history) : s'.Counted := by
  refine ⟨fun loop hloop hl => ?_, ?_, ?_⟩
  · rw [hhistory]
    exact h.attempts loop (hloops ▸ hloop) (hlive loop ▸ hl)
  · rw [hloops]
    exact h.bounded
  · rw [herrors, hhistory]
    exact h.tally

lemma Counted.mark (h : s.Counted) (channel : ℕ) (f : Channel → Channel) :
    (s.mark channel f).Counted :=
  h.congr rfl (fun _ => rfl) rfl rfl

lemma Counted.next (h : s.Counted) (hbase : s.Base) (hloops : s.loops = [loop]) :
    (s.next options 0 loop).Counted := by
  rw [QaraaSnapshotStream.next]
  split
  · split
    · exact h.caught hbase hloops false
    · exact h.setPlace 0 .connecting
  · exact .finish h.tally hloops

lemma Counted.resumed (h : s.Counted) (hloops : s.loops = [loop]) :
    (if s.isLive loop then s.setPlace 0 .starting else s.finish 0).Counted := by
  split
  · exact h.setPlace 0 .starting
  · exact .finish h.tally hloops

lemma Counted.connected (h : s.Counted) : (s.connected i loop).Counted := by
  rw [QaraaSnapshotStream.connected]
  split
  · have haccepted : (s.accept loop).Counted :=
      (h.record (losses_concat s.history .opened)).congr rfl (fun _ => rfl) rfl rfl
    exact haccepted.setPlace i _
  · have hrefused : (s.refuse loop).Counted := h.congr rfl (fun _ => rfl) rfl rfl
    exact hrefused.setPlace i .refusing

lemma Counted.read (h : s.Counted) (channel : ℕ) (message : StreamMessage Body) :
    (s.read options i loop channel message).Counted := by
  rw [QaraaSnapshotStream.read.eq_def]
  split
  · exact h.setPlace i _
  · cases message with
    | undecodable terminal => exact h.setPlace i _
    | updated sessionId snapshot =>
        dsimp only
        split
        · exact (h.record (losses_concat s.history .delivered)).congr rfl (fun _ => rfl) rfl rfl
        · exact h
    | other => exact h

/-- **A run loop goes on and counts what it loses.** -/
lemma Counted.resume (h : s.Counted) (hsound : s.Sound) (hloops : s.loops = [loop])
    (event : Resumption Body) : (s.resume options 0 loop event).Counted := by
  have hplaced := hsound.placed loop (by simp [hloops])
  rw [Placed.eq_def] at hplaced
  rw [QaraaSnapshotStream.resume.eq_def]
  split
  case h_16 => exact h
  all_goals
    rename_i hplace
    rw [hplace] at hplaced
  · exact h.next hsound.base hloops
  · exact h.connected
  · exact h.caught hsound.base hloops _
  · exact .finish h.tally hloops
  · exact h.caught hsound.base hloops _
  · exact (h.mark _ _).setPlace 0 _
  · exact (h.mark _ _).caught (hsound.base.lost hplaced) hloops _
  · exact h.read _ _
  · exact (h.mark _ _).dropped (hsound.base.lost hplaced) hloops
  · exact (h.mark _ _).setPlace 0 _
  · exact h.dropped hsound.base hloops
  · exact h.caught hsound.base hloops _
  · exact h.resumed hloops
  · split
    · exact h
    · exact h.resumed hloops
  · exact .finish h.tally hloops

/-- Where no run loop is current a new listener revives none. -/
lemma Counted.asked (h : s.Counted) (hbase : s.Base) (hunwanted : s.hasListener = false) :
    ({ s with listeners := s.listeners + 1 } : QaraaSnapshotStream Body).start.Counted := by
  have hdead : ∀ loop ∈ s.loops,
      ({ s with listeners := s.listeners + 1 } : QaraaSnapshotStream Body).isLive loop = false := by
    intro loop hloop
    refine isLive_of_ne (hbase.ne_generation hloop ?_)
    rw [hunwanted, Bool.not_false, Bool.or_true]
  rw [start]
  split
  · exact .of_dead hdead h.bounded h.tally
  · split
    · exact .of_dead hdead h.bounded h.tally
    · rename_i hidle
      have hnil : s.loops = [] :=
        List.map_eq_nil_iff.mp (hbase.runner.running.mp (Bool.not_eq_true _ ▸ hidle))
      refine ⟨?_, ?_, Tally.started h.tally⟩
      · intro loop hloop _
        rw [hnil, List.nil_append, List.mem_singleton] at hloop
        rw [hloop]
        exact (losses_concat s.history .started).symm
      · intro loop hloop
        rw [hnil, List.nil_append, List.mem_singleton] at hloop
        rw [hloop]
        exact Nat.zero_le _

lemma Counted.step (h : s.Counted) (hsound : s.Sound) (action : StreamAction Body) :
    (s.step options action).Counted := by
  have hlisteners : ∀ n, decide (0 < n) = s.hasListener →
      ({ s with listeners := n } : QaraaSnapshotStream Body).Counted := by
    intro n hn
    refine h.congr rfl (fun loop => ?_) rfl rfl
    simp only [isLive, hasListener, hn]
  cases action with
  | listen =>
      rw [QaraaSnapshotStream.step]
      split
      · rename_i hlistener
        exact hlisteners _ (by rw [hlistener]; simp)
      · rename_i hnone
        exact h.asked hsound.base (Bool.not_eq_true _ ▸ hnone)
  | cancel =>
      rw [QaraaSnapshotStream.step]
      split
      · exact h
      · exact Counted.halt hsound.base.bounded h.bounded h.tally
      · rename_i n hn
        exact hlisteners _ (by simp [hasListener, hn])
  | close => exact .close hsound.base.bounded h.bounded h.tally
  | closeClient =>
      refine .of_dead ?_ ?_ h.tally
      · intro loop _
        rw [isLive, show (s.step options .closeClient).clientClosed = true from rfl]
        simp
      · intro loop hloop
        obtain ⟨l, hl, rfl⟩ := List.mem_map.mp hloop
        exact h.bounded l hl
  | resume i event =>
      rw [QaraaSnapshotStream.step]
      split
      · exact h
      · rename_i loop hloop
        obtain ⟨rfl, hloops⟩ := hsound.base.eq_singleton hloop
        exact h.resume hsound hloops event

/-- The attempts are counted in every run. -/
theorem run_counted (options : StreamOptions) (actions : List (StreamAction Body)) :
    (run options actions).Counted := by
  have key := Loop.foldl_induction (l := actions) (f := step options)
    (s := (QaraaSnapshotStream.create options : QaraaSnapshotStream Body))
    (P := fun _ s => s.Sound ∧ s.Counted)
  refine (key ⟨sound_create options, Counted.create options⟩ ?_).2
  rintro _ action s _ ⟨hsound, hcounted⟩
  exact ⟨hsound.step action, hcounted.step hsound action⟩

end QaraaSnapshotStream

/-- **What exhausts the retries.** In every run the stream fails with the reconnect limit
exactly when a connection drops while its run loop, with a listener and nothing closed, has
already lost five connections or attempts since it began, and it fails with the error of an
attempt exactly when an attempt fails there. What the connections delivered does not matter. -/
theorem reconnect_limit_iff {Body : Type} (options : StreamOptions)
    (actions : List (StreamAction Body)) :
    let s := QaraaSnapshotStream.run options actions
    (.reconnectLimit ∉ s.errors ↔ ¬ UsedUp .dropped s.history) ∧
      (.thrown false ∉ s.errors ↔ ¬ UsedUp .failed s.history) := by
  intro s
  have hcounted : s.Counted := QaraaSnapshotStream.run_counted options actions
  exact ⟨not_congr hcounted.tally.limit, not_congr hcounted.tally.last⟩

/-- A connection that delivers a snapshot, and the delay after it has dropped. -/
def productive (revision : ℕ) : List (StreamAction Unit) :=
  [.resume 0 .completed, .resume 0 .connected, .resume 0 .completed,
    .resume 0 (.message (.updated "s" ⟨revision, ()⟩)), .resume 0 .ended, .resume 0 .completed]

/-- **Six connections that each deliver a newer snapshot are too many.** -/
theorem limit_despite_progress :
    ¬ ∀ actions : List (StreamAction Unit),
      let s := QaraaSnapshotStream.run sampleOptions actions
      s.hasListener = true → delivering false s.history = true → .reconnectLimit ∉ s.errors := by
  intro h
  have hrun := h (.listen :: [1, 2, 3, 4, 5, 6].flatMap productive)
  exact hrun (by decide) (by decide) (by decide)

end Qaraa.Sdk.Dart
