import Qaraa.Library.Loop
import Qaraa.Library.Runner
import Qaraa.Sdk.DartStream

/-!
The runs of the Dart snapshot stream: its flags, its run loops and their channels agree in
every state.

* `QaraaSnapshotStream.runner`, `start_runner`, `finish_runner`, `halt_runner`: **the run loops
  are workers started on demand**.
* `Uses`, `Placed`: the channel a run loop has and what holds where it waits.
* `Base`, `Sound`, `Sound.step`, `run_sound`: what holds in every state of every run.
-/

namespace Qaraa.Sdk.Dart

namespace QaraaSnapshotStream

variable {Body : Type}

/-! ### The run loops as workers -/

/-- The flags of the stream and the generations of its run loops. -/
def runner (s : QaraaSnapshotStream Body) : Runner where
  wanted := s.hasListener
  closed := s.closed
  abandoned := s.clientClosed
  running := s.running
  restartRequested := s.restartRequested
  generation := s.generation
  workers := s.loops.map RunLoop.runGeneration

variable {options : StreamOptions} {s : QaraaSnapshotStream Body} {loop : RunLoop} {i : ℕ}

lemma start_runner : s.start.runner = s.runner.start := by
  rw [start, Runner.start]
  split
  · rename_i hclosed
    rw [if_pos (show s.runner.closed = true from hclosed)]
  · rename_i hopen
    rw [if_neg (show ¬ s.runner.closed = true from hopen)]
    split
    · rename_i hrunning
      rw [if_pos (show s.runner.running = true from hrunning)]
      rfl
    · rename_i hidle
      rw [if_neg (show ¬ s.runner.running = true from hidle)]
      simp [runner, hasListener]

lemma finish_runner : (s.finish i).runner = s.runner.windUp i := by
  rw [finish, Runner.windUp]
  split
  · rename_i hagain
    rw [if_pos (show (s.runner.restartRequested && !s.runner.closed && s.runner.wanted) = true
      from hagain), start_runner]
    simp [runner, List.eraseIdx_map, hasListener]
  · rename_i hrest
    rw [if_neg (show ¬ (s.runner.restartRequested && !s.runner.closed && s.runner.wanted) = true
      from hrest)]
    simp [runner, List.eraseIdx_map, hasListener]

lemma halt_runner : s.halt.runner = { s.runner with generation := s.generation + 1 } := by
  have hloops : (s.loops.map fun loop => { loop with stopped := true }).map RunLoop.runGeneration =
      s.loops.map RunLoop.runGeneration := by
    rw [List.map_map]
    rfl
  rw [halt, runner, runner, ← hloops]
  split <;> rfl

/-! ### Where a run loop stands -/

/-- What holds whatever the run loops wait for. -/
structure Base (s : QaraaSnapshotStream Body) : Prop where
  runner : s.runner.Sound
  late : ∀ (n : ℕ) (c : Channel), s.channels[n]? = some c → c.late = true →
    c.closing = true ∧ c.read = false
  stopped : ∀ loop ∈ s.loops, loop.stopped = true →
    loop.runGeneration ≠ s.generation ∨ s.clientClosed = true

/-- A run loop has a channel: `socket` is this channel, or the run loop is out of date and the
channel is being closed. -/
def Uses (s : QaraaSnapshotStream Body) (loop : RunLoop) (channel : ℕ) : Prop :=
  ∃ c, s.channels[channel]? = some c ∧ c.late = false ∧
    (loop.runGeneration = s.generation ∧ s.socket = some channel ∨
      loop.runGeneration ≠ s.generation ∧ s.socket = none ∧ c.closing = true)

/-- What holds where a run loop waits. -/
def Placed (s : QaraaSnapshotStream Body) (loop : RunLoop) : Prop :=
  match loop.place with
  | .readying channel | .reading channel | .leaving channel (some _) => s.Uses loop channel
  | .leaving channel none => s.Uses loop channel ∧ loop.runGeneration ≠ s.generation
  | .refusing =>
      s.socket = none ∧ (loop.runGeneration ≠ s.generation ∨ s.clientClosed = true)
  | .closing => s.socket = none ∧ s.closed = true
  | _ => s.socket = none

/-- What holds in every state of every run. -/
structure Sound (s : QaraaSnapshotStream Body) : Prop where
  base : s.Base
  placed : ∀ loop ∈ s.loops, s.Placed loop
  idle : s.loops = [] → s.socket = none

lemma Base.eq_singleton (h : s.Base) (hloop : s.loops[i]? = some loop) :
    i = 0 ∧ s.loops = [loop] := by
  have hworker : s.runner.workers[i]? = some loop.runGeneration := by
    rw [QaraaSnapshotStream.runner, List.getElem?_map, hloop]
    rfl
  obtain ⟨rfl, hworkers⟩ := h.runner.eq_singleton hworker
  obtain ⟨l, hl, -⟩ := List.map_eq_singleton_iff.mp hworkers
  rw [hl] at hloop
  cases hloop
  exact ⟨rfl, hl⟩

/-- A run loop that may not go on is out of date, or the client is closed. -/
lemma Base.stale (h : s.Base) (hmem : loop ∈ s.loops) (hover : s.isLive loop = false) :
    loop.runGeneration ≠ s.generation ∨ s.clientClosed = true := by
  rw [or_iff_not_imp_left, not_not]
  intro hcurrent
  have hworker : s.runner.generation ∈ s.runner.workers :=
    List.mem_map.mpr ⟨loop, hmem, hcurrent⟩
  obtain ⟨hwanted, hopen⟩ := h.runner.current hworker
  rw [isLive, show s.closed = false from hopen, show s.hasListener = true from hwanted,
    hcurrent] at hover
  simpa using hover

/-- Without a listener, or closed, every run loop is out of date. -/
lemma Base.ne_generation (h : s.Base) (hmem : loop ∈ s.loops)
    (hover : (s.closed || !s.hasListener) = true) : loop.runGeneration ≠ s.generation := by
  intro hcurrent
  have hworker : s.runner.generation ∈ s.runner.workers :=
    List.mem_map.mpr ⟨loop, hmem, hcurrent⟩
  obtain ⟨hwanted, hopen⟩ := h.runner.current hworker
  rw [show s.closed = false from hopen, show s.hasListener = true from hwanted] at hover
  cases hover

lemma step_resume (h : s.loops = [loop]) (event : Resumption Body) :
    s.step options (.resume 0 event) = s.resume options 0 loop event := by
  rw [step, h]
  rfl

lemma setPlace_of_singleton (h : s.loops = [loop]) (place : Place) :
    s.setPlace 0 place = { s with loops := [{ loop with place := place }] } := by
  rw [setPlace, h]
  rfl

lemma waitForRetry_of_singleton (h : s.loops = [loop]) :
    s.waitForRetry 0 =
      { s with loops := [{ loop with
                            attempt := loop.attempt + 1
                            place := .waiting s.wakeSignal }] } := by
  rw [waitForRetry, h]
  rfl

/-- A run loop ends: none is left, or another one starts. -/
lemma finish_of_singleton (h : s.loops = [loop]) :
    s.finish 0 = { s with running := false, loops := [] } ∨
      s.finish 0 =
        { s with
          running := true
          restartRequested := false
          generation := s.generation + 1
          loops := [⟨s.generation + 1, 0, .starting, false⟩]
          history := s.history ++ [.started] } := by
  rw [finish, h]
  split
  · rename_i hagain
    have hopen : s.closed = false := by simp_all
    exact Or.inr (by simp [start, hopen])
  · exact Or.inl rfl

/-- The run loop waits for something else. -/
lemma Base.replace (h : s.Base) (hloops : s.loops = [loop]) {loop' : RunLoop}
    (hgeneration : loop'.runGeneration = loop.runGeneration)
    (hstopped : loop'.stopped = loop.stopped) (hplaced : s.Placed loop') :
    ({ s with loops := [loop'] } : QaraaSnapshotStream Body).Sound := by
  refine ⟨⟨?_, h.late, ?_⟩, ?_, ?_⟩
  · have hrunner : ({ s with loops := [loop'] } : QaraaSnapshotStream Body).runner = s.runner := by
      rw [QaraaSnapshotStream.runner, QaraaSnapshotStream.runner, hloops, List.map_singleton,
        List.map_singleton, hgeneration]
      rfl
    rw [hrunner]
    exact h.runner
  · intro l hl hlstopped
    obtain rfl := List.mem_singleton.mp hl
    rw [hgeneration]
    exact h.stopped loop (by simp [hloops]) (hstopped ▸ hlstopped)
  · intro l hl
    obtain rfl := List.mem_singleton.mp hl
    exact hplaced
  · exact fun hnil => absurd hnil (List.cons_ne_nil _ _)

lemma Base.setPlace (h : s.Base) (hloops : s.loops = [loop]) {place : Place}
    (hplaced : s.Placed { loop with place := place }) : (s.setPlace 0 place).Sound := by
  rw [setPlace_of_singleton hloops]
  exact h.replace hloops rfl rfl hplaced

lemma Base.waitForRetry (h : s.Base) (hloops : s.loops = [loop]) (hsocket : s.socket = none) :
    (s.waitForRetry 0).Sound := by
  rw [waitForRetry_of_singleton hloops]
  exact h.replace hloops rfl rfl hsocket

lemma Base.finish (h : s.Base) (hloops : s.loops = [loop]) (hsocket : s.socket = none)
    (hstale : loop.runGeneration ≠ s.generation ∨ s.clientClosed = true) :
    (s.finish 0).Sound := by
  have hrunner : (s.finish 0).runner.Sound := by
    rw [finish_runner]
    refine h.runner.step (.ended _ 0 loop.runGeneration ?_ hstale)
    rw [QaraaSnapshotStream.runner, hloops]
    rfl
  rcases finish_of_singleton hloops with hend | hagain
  · rw [hend] at hrunner ⊢
    exact ⟨⟨hrunner, h.late, by simp⟩, by simp, fun _ => hsocket⟩
  · rw [hagain] at hrunner ⊢
    refine ⟨⟨hrunner, h.late, ?_⟩, ?_, fun hnil => absurd hnil (List.cons_ne_nil _ _)⟩
    · intro l hl hstopped
      obtain rfl := List.mem_singleton.mp hl
      cases hstopped
    · intro l hl
      obtain rfl := List.mem_singleton.mp hl
      exact hsocket

/-! ### Cancelling and closing -/

@[simp] lemma halt_loops (s : QaraaSnapshotStream Body) :
    s.halt.loops = s.loops.map fun loop => { loop with stopped := true } := by
  rw [halt]
  split <;> rfl

@[simp] lemma halt_socket (s : QaraaSnapshotStream Body) : s.halt.socket = none := by
  rw [halt]
  split <;> rfl

@[simp] lemma halt_generation (s : QaraaSnapshotStream Body) :
    s.halt.generation = s.generation + 1 := by
  rw [halt]
  split <;> rfl

@[simp] lemma halt_closed (s : QaraaSnapshotStream Body) : s.halt.closed = s.closed := by
  rw [halt]
  split <;> rfl

/-- The channel in `socket` is being closed now; the others stay as they are. -/
lemma halt_channels (n : ℕ) :
    s.halt.channels[n]? =
      s.channels[n]?.map fun c => if s.socket = some n then c.close else c := by
  rw [halt]
  split
  · rename_i hnone
    simp [hnone]
  · rename_i channel hsome
    rw [mark, List.getElem?_modify, hsome]
    by_cases hn : channel = n
    · simp [hn]
    · simp [hn]

lemma halt_late (hlate : ∀ (n : ℕ) (c : Channel), s.channels[n]? = some c → c.late = true →
    c.closing = true ∧ c.read = false) (n : ℕ) (c : Channel) (hc : s.halt.channels[n]? = some c)
    (hcancelled : c.late = true) : c.closing = true ∧ c.read = false := by
  rw [halt_channels, Option.map_eq_some_iff] at hc
  obtain ⟨d, hd, rfl⟩ := hc
  by_cases hn : s.socket = some n
  · rw [if_pos hn] at hcancelled ⊢
    exact ⟨rfl, (hlate n d hd hcancelled).2⟩
  · rw [if_neg hn] at hcancelled ⊢
    exact hlate n d hd hcancelled

/-- A channel in use is being closed by `halt`. -/
lemma Uses.halt {channel : ℕ} (h : s.Uses loop channel)
    (hbounded : loop.runGeneration ≤ s.generation) :
    s.halt.Uses { loop with stopped := true } channel := by
  obtain ⟨c, hc, hlate, hsocket⟩ := h
  have hold : loop.runGeneration ≠ s.halt.generation := by
    rw [halt_generation]
    omega
  have hchannel := halt_channels (s := s) channel
  rw [hc, Option.map_some] at hchannel
  refine ⟨_, hchannel, ?_, Or.inr ⟨hold, halt_socket s, ?_⟩⟩
  · split <;> exact hlate
  · split
    · rfl
    · rename_i hother
      rcases hsocket with ⟨-, hsocket⟩ | ⟨-, -, hclosing⟩
      · exact absurd hsocket hother
      · exact hclosing

lemma Placed.halt (h : s.Placed loop) (hbounded : loop.runGeneration ≤ s.generation) :
    s.halt.Placed { loop with stopped := true } := by
  have hold : loop.runGeneration ≠ s.halt.generation := by
    rw [halt_generation]
    omega
  obtain ⟨g, attempt, place, stopped⟩ := loop
  cases place with
  | readying channel => exact Uses.halt h hbounded
  | reading channel => exact Uses.halt h hbounded
  | leaving channel error =>
      cases error with
      | none => exact ⟨h.1.halt hbounded, hold⟩
      | some error => exact Uses.halt h hbounded
  | refusing => exact ⟨halt_socket s, Or.inl hold⟩
  | closing => exact ⟨halt_socket s, (halt_closed s).trans h.2⟩
  | starting => exact halt_socket s
  | connecting => exact halt_socket s
  | waiting signal => exact halt_socket s

/-- Every run loop is stopped, and out of date. -/
lemma halt_stopped (hbounded : ∀ loop ∈ s.loops, loop.runGeneration ≤ s.generation) :
    ∀ loop ∈ s.halt.loops, loop.stopped = true →
      loop.runGeneration ≠ s.halt.generation ∨ s.halt.clientClosed = true := by
  intro loop hloop _
  rw [halt_loops, List.mem_map] at hloop
  obtain ⟨l, hl, rfl⟩ := hloop
  have := hbounded l hl
  rw [halt_generation]
  exact Or.inl (show l.runGeneration ≠ s.generation + 1 by omega)

lemma Base.bounded (h : s.Base) : ∀ loop ∈ s.loops, loop.runGeneration ≤ s.generation :=
  fun _ hloop => h.runner.bounded _ (List.mem_map_of_mem hloop)

/-- The last listener leaves. -/
lemma Sound.cancelled (h : s.Sound) :
    ({ s with listeners := 0 } : QaraaSnapshotStream Body).halt.Sound := by
  have hrunner : ({ s with listeners := 0 } : QaraaSnapshotStream Body).halt.runner.Sound := by
    rw [halt_runner]
    exact h.base.runner.step (.dismissed _)
  refine ⟨⟨hrunner, halt_late h.base.late, halt_stopped h.base.bounded⟩, ?_,
    fun _ => halt_socket _⟩
  intro loop hloop
  rw [halt_loops, List.mem_map] at hloop
  obtain ⟨l, hl, rfl⟩ := hloop
  exact Placed.halt (h.placed l hl) (h.base.bounded l hl)

lemma close_of_open (h : s.closed = false) : s.close = { s with closed := true }.halt := by
  rw [close, if_neg (Bool.not_eq_true _ ▸ h)]

lemma close_of_closed (h : s.closed = true) : s.close = s := if_pos h

@[simp] lemma close_closed (s : QaraaSnapshotStream Body) : s.close.closed = true := by
  rw [close]
  split
  · assumption
  · exact halt_closed _

lemma close_socket (h : s.socket = none) : s.close.socket = none := by
  rw [close]
  split
  · exact h
  · exact halt_socket _

lemma Base.close (h : s.Base) : s.close.Base := by
  rw [QaraaSnapshotStream.close]
  split
  · exact h
  · refine ⟨?_, halt_late h.late, halt_stopped h.bounded⟩
    rw [halt_runner]
    exact h.runner.step (.closed _)

lemma Placed.closed (h : s.Placed loop) :
    ({ s with closed := true } : QaraaSnapshotStream Body).Placed loop := by
  obtain ⟨g, attempt, place, stopped⟩ := loop
  cases place with
  | closing => exact ⟨h.1, rfl⟩
  | leaving channel error => cases error <;> exact h
  | _ => exact h

lemma Sound.close (h : s.Sound) : s.close.Sound := by
  refine ⟨h.base.close, ?_, ?_⟩
  · rcases Bool.eq_false_or_eq_true s.closed with hclosed | hopen
    · rw [close_of_closed hclosed]
      exact h.placed
    · rw [close_of_open hopen]
      intro loop hloop
      rw [halt_loops, List.mem_map] at hloop
      obtain ⟨l, hl, rfl⟩ := hloop
      exact Placed.halt (h.placed l hl).closed (h.base.bounded l hl)
  · intro hnil
    rw [QaraaSnapshotStream.close] at hnil ⊢
    split at hnil
    · rename_i hclosed
      rw [if_pos hclosed]
      exact h.idle hnil
    · rename_i hopen
      rw [if_neg hopen]
      exact halt_socket _

/-! ### The steps of a run loop -/

/-- What is read by statements only, or rests on the place of the run loop. -/
lemma Base.congr (h : s.Base) {s' : QaraaSnapshotStream Body} (hrunner : s'.runner = s.runner)
    (hloops : s'.loops = s.loops) (hchannels : s'.channels = s.channels) : s'.Base := by
  refine ⟨hrunner ▸ h.runner, hchannels ▸ h.late, ?_⟩
  rw [hloops, show s'.generation = s.generation from congrArg Runner.generation hrunner,
    show s'.clientClosed = s.clientClosed from congrArg Runner.abandoned hrunner]
  exact h.stopped

lemma Uses.late {channel : ℕ} (h : s.Uses loop channel) :
    ∀ c, s.channels[channel]? = some c → c.late = false := by
  obtain ⟨d, hd, hlate, -⟩ := h
  intro c hc
  rw [hd] at hc
  cases hc
  exact hlate

/-- A channel in use is listened to or lost. -/
lemma Base.mark (h : s.Base) {channel : ℕ} (huses : s.Uses loop channel) {f : Channel → Channel}
    (hkeeps : ∀ c, (f c).late = c.late) : (s.mark channel f).Base := by
  refine ⟨h.runner, fun n c hc hcancelled => ?_, h.stopped⟩
  rw [QaraaSnapshotStream.mark, List.getElem?_modify, Option.map_eq_map,
    Option.map_eq_some_iff] at hc
  obtain ⟨d, hd, rfl⟩ := hc
  by_cases hn : channel = n
  · subst hn
    rw [if_pos rfl, hkeeps, huses.late d hd] at hcancelled
    cases hcancelled
  · rw [if_neg hn] at hcancelled ⊢
    exact h.late n d hd hcancelled

lemma Uses.mark {channel : ℕ} (h : s.Uses loop channel) {f : Channel → Channel}
    (hlate : ∀ c, (f c).late = c.late) (hclosing : ∀ c, (f c).closing = c.closing) :
    (s.mark channel f).Uses loop channel := by
  obtain ⟨c, hc, hearly, hsocket⟩ := h
  refine ⟨f c, ?_, (hlate c).trans hearly, ?_⟩
  · rw [QaraaSnapshotStream.mark, List.getElem?_modify, hc]
    simp
  · rw [hclosing c]
    exact hsocket

lemma Base.listened (h : s.Base) (hloops : s.loops = [loop]) {channel : ℕ}
    (huses : s.Uses loop channel) :
    ((s.mark channel Channel.listen).setPlace 0 (.reading channel)).Sound := by
  have hbase : (s.mark channel Channel.listen).Base := h.mark huses fun _ => rfl
  have huses : (s.mark channel Channel.listen).Uses loop channel :=
    huses.mark (fun _ => rfl) fun _ => rfl
  exact hbase.setPlace hloops huses

lemma Base.lost (h : s.Base) {channel : ℕ} (huses : s.Uses loop channel) :
    (s.mark channel Channel.lose).Base :=
  h.mark huses fun _ => rfl

lemma Base.broken (h : s.Base) (hloops : s.loops = [loop]) {channel : ℕ}
    (huses : s.Uses loop channel) (terminal : Bool) :
    ((s.mark channel Channel.lose).setPlace 0 (.leaving channel (some terminal))).Sound := by
  have huses' : (s.mark channel Channel.lose).Uses loop channel :=
    huses.mark (fun _ => rfl) fun _ => rfl
  exact (h.lost huses).setPlace hloops huses'

lemma Base.free (h : s.Base) (happenings : List Happening) : (s.free loop happenings).Base :=
  h.congr rfl rfl rfl

lemma Base.caught (h : s.Base) (hloops : s.loops = [loop]) (error : StreamError) :
    (s.caught 0 loop error).Sound := by
  have hfreed : (s.free loop error.happening).Base := h.free _
  rw [QaraaSnapshotStream.caught]
  split
  · rename_i hover
    refine hfreed.finish hloops rfl ?_
    rw [Bool.or_eq_true, Bool.or_eq_true, bne_iff_ne] at hover
    rcases hover with (hclosed | hclient) | hold
    · exact Or.inl (h.ne_generation (by simp [hloops]) (by rw [hclosed]; rfl))
    · exact Or.inr hclient
    · exact Or.inl hold
  · rename_i hgoes
    split
    · have hopen : s.closed = false := by simp_all
      have hbase : ((s.free loop error.happening).addError error).Base := hfreed.congr rfl rfl rfl
      have hclosed : ((s.free loop error.happening).addError error).close.loops =
          [{ loop with stopped := true }] := by
        rw [close_of_open (s := (s.free loop error.happening).addError error) hopen, halt_loops]
        exact congrArg (List.map _) hloops
      exact hbase.close.setPlace hclosed ⟨close_socket rfl, close_closed _⟩
    · exact hfreed.waitForRetry hloops rfl

lemma caught_of_live (hlive : s.isLive loop = true) (error : StreamError) :
    s.caught i loop error =
      if error.isTerminal || delays.length ≤ loop.attempt then
        ((s.free loop error.happening).addError error).close.setPlace i .closing
      else (s.free loop error.happening).waitForRetry i := by
  rw [isLive] at hlive
  rw [caught, if_neg (by simp_all)]

lemma Base.dropped (h : s.Base) (hloops : s.loops = [loop]) : (s.dropped 0 loop).Sound := by
  have hfreed : (s.free loop [.dropped]).Base := h.free _
  rw [QaraaSnapshotStream.dropped]
  split
  · exact hfreed.caught hloops .reconnectLimit
  · exact hfreed.waitForRetry hloops rfl

lemma Base.next (h : s.Base) (hloops : s.loops = [loop]) (hsocket : s.socket = none) :
    (s.next options 0 loop).Sound := by
  rw [QaraaSnapshotStream.next]
  split
  · split
    · exact h.caught hloops (.thrown false)
    · exact h.setPlace hloops hsocket
  · rename_i hover
    exact h.finish hloops hsocket (h.stale (by simp [hloops]) (Bool.not_eq_true _ ▸ hover))

/-- Where a run loop goes on after a wait that is all over. -/
lemma Base.resumed (h : s.Base) (hloops : s.loops = [loop]) (hsocket : s.socket = none) :
    (if s.isLive loop then s.setPlace 0 .starting else s.finish 0).Sound := by
  split
  · exact h.setPlace hloops hsocket
  · rename_i hover
    exact h.finish hloops hsocket (h.stale (by simp [hloops]) (Bool.not_eq_true _ ▸ hover))

lemma current_of_live (hlive : s.isLive loop = true) :
    loop.runGeneration = s.generation ∧ s.clientClosed = false := by
  rw [isLive] at hlive
  simp_all

/-- One more channel. -/
lemma Base.push (h : s.Base) {s' : QaraaSnapshotStream Body} {c : Channel}
    (hrunner : s'.runner = s.runner) (hloops : s'.loops = s.loops)
    (hchannels : s'.channels = s.channels ++ [c])
    (hlate : c.late = true → c.closing = true ∧ c.read = false) : s'.Base := by
  refine ⟨hrunner ▸ h.runner, fun n d hd hcancelled => ?_, ?_⟩
  · rw [hchannels, List.getElem?_append] at hd
    split at hd
    · exact h.late n d hd hcancelled
    · obtain rfl := List.mem_singleton.mp (List.mem_of_getElem? hd)
      exact hlate hcancelled
  · rw [hloops, show s'.generation = s.generation from congrArg Runner.generation hrunner,
      show s'.clientClosed = s.clientClosed from congrArg Runner.abandoned hrunner]
    exact h.stopped

/-- A channel for a run loop that may go on comes in time. -/
lemma Base.early (h : s.Base) (hmem : loop ∈ s.loops) (hlive : s.isLive loop = true) :
    loop.stopped = false := by
  obtain ⟨hcurrent, hclient⟩ := current_of_live hlive
  rw [← Bool.not_eq_true]
  intro hstopped
  rcases h.stopped loop hmem hstopped with hold | hclosed
  · exact hold hcurrent
  · exact absurd (hclient.symm.trans hclosed) Bool.noConfusion

lemma Base.connected (h : s.Base) (hloops : s.loops = [loop]) (hsocket : s.socket = none) :
    (s.connected 0 loop).Sound := by
  have hmem : loop ∈ s.loops := by simp [hloops]
  rw [QaraaSnapshotStream.connected]
  split
  · rename_i hlive
    have hearly := h.early hmem hlive
    have hbase : (s.accept loop).Base :=
      h.push rfl rfl rfl fun hlate => absurd (hearly.symm.trans hlate) Bool.noConfusion
    exact hbase.setPlace hloops
      ⟨_, List.getElem?_concat_length, hearly, Or.inl ⟨(current_of_live hlive).1, rfl⟩⟩
  · rename_i hover
    have hbase : (s.refuse loop).Base := h.push rfl rfl rfl fun _ => ⟨rfl, rfl⟩
    have hstale : loop.runGeneration ≠ s.generation ∨ s.clientClosed = true :=
      h.stale hmem (Bool.not_eq_true _ ▸ hover)
    exact hbase.setPlace hloops ⟨hsocket, hstale⟩

lemma Sound.read (h : s.Sound) (hloops : s.loops = [loop]) {channel : ℕ}
    (hplace : loop.place = .reading channel) (message : StreamMessage Body) :
    (s.read options 0 loop channel message).Sound := by
  have huses : s.Uses loop channel := by
    have hplaced := h.placed loop (by simp [hloops])
    rwa [Placed, hplace] at hplaced
  rw [QaraaSnapshotStream.read.eq_def]
  split
  · rename_i hover
    have hold : loop.runGeneration ≠ s.generation :=
      h.base.ne_generation (by simp [hloops]) hover
    exact h.base.setPlace hloops ⟨huses, hold⟩
  · cases message with
    | undecodable terminal => exact h.base.setPlace hloops huses
    | updated sessionId snapshot =>
        dsimp only
        split
        · exact ⟨h.base.congr rfl rfl rfl, h.placed, h.idle⟩
        · exact h
    | other => exact h

/-- **A run loop goes on and stands well again.** -/
lemma Sound.resume (h : s.Sound) (hloops : s.loops = [loop]) (event : Resumption Body) :
    (s.resume options 0 loop event).Sound := by
  have hmem : loop ∈ s.loops := by simp [hloops]
  have hplaced := h.placed loop hmem
  rw [Placed.eq_def] at hplaced
  rw [QaraaSnapshotStream.resume.eq_def]
  split
  case h_16 => exact h
  all_goals
    rename_i hplace
    rw [hplace] at hplaced
  · exact h.base.next hloops hplaced
  · exact h.base.connected hloops hplaced
  · exact h.base.caught hloops _
  · exact h.base.finish hloops hplaced.1 hplaced.2
  · exact h.base.caught hloops _
  · exact h.base.listened hloops hplaced
  · exact (h.base.lost hplaced).caught hloops _
  · exact h.read hloops hplace _
  · exact (h.base.lost hplaced).dropped hloops
  · exact h.base.broken hloops hplaced _
  · exact h.base.dropped hloops
  · exact h.base.caught hloops _
  · exact h.base.resumed hloops hplaced
  · split
    · exact h
    · exact h.base.resumed hloops hplaced
  · exact h.base.finish hloops hplaced.1
      (Or.inl (h.base.ne_generation hmem (by rw [hplaced.2]; rfl)))

/-! ### Runs -/

/-- The first listener comes. -/
lemma Sound.asked (h : s.Sound) (hunwanted : s.hasListener = false) :
    ({ s with listeners := s.listeners + 1 } : QaraaSnapshotStream Body).start.Sound := by
  have hrunner : ({ s with listeners := s.listeners + 1 } :
      QaraaSnapshotStream Body).start.runner.Sound := by
    have hasked := h.base.runner.step (.asked _ hunwanted)
    rw [start_runner]
    simpa [runner, hasListener] using hasked
  rw [start] at hrunner ⊢
  split at hrunner
  · rename_i hclosed
    rw [if_pos hclosed]
    exact ⟨⟨hrunner, h.base.late, h.base.stopped⟩, h.placed, h.idle⟩
  · rename_i hopen
    rw [if_neg hopen]
    split at hrunner
    · rename_i hrunning
      rw [if_pos hrunning]
      exact ⟨⟨hrunner, h.base.late, h.base.stopped⟩, h.placed, h.idle⟩
    · rename_i hidle
      rw [if_neg hidle]
      have hnil : s.loops = [] := by
        have hworkers := h.base.runner.running.mp (Bool.not_eq_true _ ▸ hidle)
        exact List.map_eq_nil_iff.mp hworkers
      refine ⟨⟨hrunner, h.base.late, ?_⟩, ?_, ?_⟩
      · simp [hnil]
      · intro loop hloop
        rw [hnil, List.nil_append, List.mem_singleton] at hloop
        rw [hloop]
        exact h.idle hnil
      · simp

/-- The number of listeners changes, but not whether there is one. -/
lemma Sound.listeners (h : s.Sound) {n : ℕ} (hn : decide (0 < n) = s.hasListener) :
    ({ s with listeners := n } : QaraaSnapshotStream Body).Sound := by
  have hrunner : ({ s with listeners := n } : QaraaSnapshotStream Body).runner = s.runner := by
    simp only [runner, hasListener, hn]
  exact ⟨h.base.congr hrunner rfl rfl, h.placed, h.idle⟩

lemma Sound.closedClient (h : s.Sound) :
    ({ s with
        clientClosed := true
        loops := s.loops.map fun loop => { loop with stopped := true } } :
      QaraaSnapshotStream Body).Sound := by
  refine ⟨⟨?_, h.base.late, fun _ _ _ => Or.inr rfl⟩, ?_, ?_⟩
  · have habandoned := h.base.runner.step (.abandoned _)
    simpa [runner, hasListener, Function.comp_def] using habandoned
  · intro loop hloop
    obtain ⟨l, hl, rfl⟩ := List.mem_map.mp hloop
    have hplaced := h.placed l hl
    obtain ⟨g, attempt, place, stopped⟩ := l
    cases place with
    | refusing => exact ⟨hplaced.1, Or.inr rfl⟩
    | leaving channel error => cases error <;> exact hplaced
    | _ => exact hplaced
  · intro hnil
    exact h.idle (List.map_eq_nil_iff.mp hnil)

lemma Sound.step (h : s.Sound) (action : StreamAction Body) : (s.step options action).Sound := by
  cases action with
  | listen =>
      rw [QaraaSnapshotStream.step]
      split
      · rename_i hlistener
        exact h.listeners (by rw [hlistener]; simp)
      · rename_i hnone
        exact h.asked (Bool.not_eq_true _ ▸ hnone)
  | cancel =>
      rw [QaraaSnapshotStream.step]
      split
      · exact h
      · exact h.cancelled
      · rename_i n hn
        exact h.listeners (by simp [hasListener, hn])
  | close => exact h.close
  | closeClient => exact h.closedClient
  | resume i event =>
      rw [QaraaSnapshotStream.step]
      split
      · exact h
      · rename_i loop hloop
        obtain ⟨rfl, hloops⟩ := h.base.eq_singleton hloop
        exact h.resume hloops event

lemma sound_create (options : StreamOptions) :
    (create options : QaraaSnapshotStream Body).Sound := by
  refine ⟨⟨⟨?_, ?_, ?_, ?_, ?_, ?_⟩, ?_, ?_⟩, ?_, ?_⟩ <;> simp [create, runner, hasListener]

/-- **In every state of every run the flags, the run loops and the channels agree.** -/
theorem run_sound (options : StreamOptions) (actions : List (StreamAction Body)) :
    (run options actions).Sound :=
  Loop.foldl_induction (P := fun _ (s : QaraaSnapshotStream Body) => s.Sound)
    (sound_create options) fun _ action _ _ h => h.step action

end QaraaSnapshotStream

/-- A stream that has seen nothing yet. -/
def sampleOptions : StreamOptions := ⟨"s", 0, by decide⟩

end Qaraa.Sdk.Dart
