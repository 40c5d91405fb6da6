import Qaraa.Library.Chronicle
import Qaraa.Sdk.DartStreamRuns

/-!
What the Dart snapshot stream does at most once: one run loop, one open channel, each revision.

* `step_emits`, `Increasing`: what a step gives to the listeners.
* `Channel.isOpen`, `abandons`: channels nobody closes, and the step that leaves one behind.
* `Narrows`, `Quiet`, `Exclusive`: the steps that open no channel, the states without an open
  one, and the open channels as those the run loop has.
* `run_loop_exclusion`: **in every run there is one run loop at most, a listener never waits
  without one, and unless a run loop abandons a channel one channel at most is open**;
  `two_open_of_abandons`, `second_open_channel`: what follows where one does, and a run.
-/

namespace Qaraa.Sdk.Dart

open Chronicle

/-- Nobody has closed the channel, and it has not come to its end. -/
def Channel.isOpen (c : Channel) : Bool := !c.closing && !c.ended

lemma Channel.isOpen_close (c : Channel) : c.close.isOpen = false := rfl

lemma Channel.isOpen_lose (c : Channel) : c.lose.isOpen = false := by
  rw [Channel.isOpen, Channel.lose]
  simp

/-- The channel a run loop has where it waits. -/
def Place.channel : Place → Option ℕ
  | .readying channel | .reading channel | .leaving channel _ => some channel
  | _ => none

namespace QaraaSnapshotStream

variable {Body : Type} {options : StreamOptions} {s s' : QaraaSnapshotStream Body}
  {loop : RunLoop} {i : ℕ}

/-! ### What the listeners are given -/

/-- What the listeners were given, and the revision it is compared with. -/
def output (s : QaraaSnapshotStream Body) : ℕ × List (StreamSnapshot Body) :=
  (s.revision, s.emitted)

@[simp] lemma start_output (s : QaraaSnapshotStream Body) : s.start.output = s.output := by
  rw [start]
  split
  · rfl
  · split <;> rfl

@[simp] lemma finish_output (s : QaraaSnapshotStream Body) (i : ℕ) :
    (s.finish i).output = s.output := by
  rw [finish]
  split
  · exact start_output _
  · rfl

@[simp] lemma halt_output (s : QaraaSnapshotStream Body) : s.halt.output = s.output := by
  rw [halt]
  split <;> rfl

@[simp] lemma close_output (s : QaraaSnapshotStream Body) : s.close.output = s.output := by
  rw [close]
  split
  · rfl
  · exact halt_output _

lemma caught_output (error : StreamError) : (s.caught i loop error).output = s.output := by
  rw [caught]
  split
  · exact finish_output _ i
  · split
    · exact close_output _
    · rfl

lemma dropped_output : (s.dropped i loop).output = s.output := by
  rw [dropped]
  split
  · exact caught_output _
  · rfl

lemma next_output : (s.next options i loop).output = s.output := by
  rw [next]
  split
  · split
    · exact caught_output _
    · rfl
  · exact finish_output s i

lemma connected_output : (s.connected i loop).output = s.output := by
  rw [connected]
  split <;> rfl

/-- A newer snapshot is handed on, or none. -/
def Emits (s s' : QaraaSnapshotStream Body) : Prop :=
  s'.output = s.output ∨ ∃ snapshot, s.revision < snapshot.revision ∧
    s'.output = (snapshot.revision, s.emitted ++ [snapshot])

lemma read_emits (channel : ℕ) (message : StreamMessage Body) :
    s.Emits (s.read options i loop channel message) := by
  rw [read.eq_def]
  split
  · exact Or.inl rfl
  · cases message with
    | undecodable terminal => exact Or.inl rfl
    | updated sessionId snapshot =>
        dsimp only
        split
        · rename_i hnewer
          exact Or.inr ⟨snapshot, hnewer.2, rfl⟩
        · exact Or.inl rfl
    | other => exact Or.inl rfl

lemma resume_emits (event : Resumption Body) : s.Emits (s.resume options i loop event) := by
  have hresumed : (if s.isLive loop then s.setPlace i .starting else s.finish i).output =
      s.output := by
    split
    · rfl
    · exact finish_output s i
  rw [resume.eq_def]
  split
  · exact Or.inl next_output
  · exact Or.inl connected_output
  · exact Or.inl (caught_output _)
  · exact Or.inl (finish_output s i)
  · exact Or.inl (caught_output _)
  · exact Or.inl rfl
  · exact Or.inl (caught_output _)
  · exact read_emits _ _
  · exact Or.inl dropped_output
  · exact Or.inl rfl
  · exact Or.inl dropped_output
  · exact Or.inl (caught_output _)
  · exact Or.inl hresumed
  · split
    · exact Or.inl rfl
    · exact Or.inl hresumed
  · exact Or.inl (finish_output s i)
  · exact Or.inl rfl

lemma step_emits (action : StreamAction Body) : s.Emits (s.step options action) := by
  cases action with
  | listen =>
      rw [step]
      split
      · exact Or.inl rfl
      · exact Or.inl (start_output _)
  | cancel =>
      rw [step]
      split
      · exact Or.inl rfl
      · exact Or.inl (halt_output _)
      · exact Or.inl rfl
  | close => exact Or.inl (close_output s)
  | closeClient => exact Or.inl rfl
  | resume i event =>
      rw [step]
      split
      · exact Or.inl rfl
      · exact resume_emits event

/-- The snapshots handed on have increasing revisions, up to that of the stream. -/
structure Increasing (options : StreamOptions) (s : QaraaSnapshotStream Body) : Prop where
  sorted : s.emitted.Pairwise fun x y => x.revision < y.revision
  bounds : ∀ x ∈ s.emitted, options.revision < x.revision ∧ x.revision ≤ s.revision
  resumed : options.revision ≤ s.revision

lemma Increasing.emits (h : s.Increasing options) (hemits : s.Emits s') :
    s'.Increasing options := by
  rcases hemits with hsame | ⟨snapshot, hnewer, hout⟩
  · obtain ⟨hrevision, hemitted⟩ := Prod.mk.inj hsame
    exact ⟨hemitted ▸ h.sorted, by rw [hemitted, hrevision]; exact h.bounds,
      hrevision ▸ h.resumed⟩
  · obtain ⟨hrevision, hemitted⟩ := Prod.mk.inj hout
    refine ⟨?_, ?_, ?_⟩
    · rw [hemitted, List.pairwise_append]
      refine ⟨h.sorted, List.pairwise_singleton _ _, fun x hx y hy => ?_⟩
      rw [List.mem_singleton.mp hy]
      exact (h.bounds x hx).2.trans_lt hnewer
    · intro x hx
      rw [hrevision]
      rw [hemitted, List.mem_append, List.mem_singleton] at hx
      rcases hx with hx | rfl
      · exact ⟨(h.bounds x hx).1, (h.bounds x hx).2.trans hnewer.le⟩
      · exact ⟨h.resumed.trans_lt hnewer, le_rfl⟩
    · rw [hrevision]
      exact h.resumed.trans hnewer.le

lemma run_increasing (options : StreamOptions) (actions : List (StreamAction Body)) :
    (run options actions).Increasing options :=
  Loop.foldl_induction (P := fun _ (s : QaraaSnapshotStream Body) => s.Increasing options)
    ⟨List.Pairwise.nil, by simp [create], le_rfl⟩
    fun _ action _ _ h => h.emits (step_emits action)

/-! ### Open channels -/

/-- A step that opens no channel, and neither the stream nor the client again. -/
structure Narrows (s s' : QaraaSnapshotStream Body) : Prop where
  channels : ∀ (n : ℕ) (c : Channel), s'.channels[n]? = some c → c.isOpen = true →
    ∃ d, s.channels[n]? = some d ∧ d.isOpen = true
  closed : s'.closed = false → s.closed = false
  clientClosed : s'.clientClosed = false → s.clientClosed = false

/-- No channel is open that a run loop could have to care for. -/
def Quiet (s : QaraaSnapshotStream Body) : Prop :=
  s.closed = false → s.clientClosed = false →
    ∀ (n : ℕ) (c : Channel), s.channels[n]? = some c → c.isOpen = false

/-- One channel is open at most, and until the end it is that of a run loop. -/
structure Exclusive (s : QaraaSnapshotStream Body) : Prop where
  single : ∀ (m n : ℕ) (c d : Channel), s.channels[m]? = some c → s.channels[n]? = some d →
    c.isOpen = true → d.isOpen = true → m = n
  held : s.closed = false → s.clientClosed = false →
    ∀ (n : ℕ) (c : Channel), s.channels[n]? = some c → c.isOpen = true →
      ∃ loop ∈ s.loops, loop.place.channel = some n

/-- Nothing but the run loops, or what nobody looks at, changes. -/
lemma Narrows.of_eq (hchannels : s'.channels = s.channels) (hclosed : s'.closed = s.closed)
    (hclient : s'.clientClosed = s.clientClosed) : s.Narrows s' :=
  ⟨fun _ c hc hopen => ⟨c, hchannels ▸ hc, hopen⟩, fun h => hclosed ▸ h, fun h => hclient ▸ h⟩

/-- The same after a change to what is not looked at. -/
lemma Narrows.after {s'' : QaraaSnapshotStream Body} (h : s'.Narrows s'')
    (hchannels : s'.channels = s.channels) (hclosed : s'.closed = s.closed)
    (hclient : s'.clientClosed = s.clientClosed) : s.Narrows s'' :=
  ⟨hchannels ▸ h.channels, hclosed ▸ h.closed, hclient ▸ h.clientClosed⟩

lemma Narrows.quiet (h : s.Narrows s') (hquiet : s.Quiet) : s'.Quiet := by
  intro hclosed hclient n c hc
  rw [← Bool.not_eq_true]
  intro hopen
  obtain ⟨d, hd, hdopen⟩ := h.channels n c hc hopen
  rw [hquiet (h.closed hclosed) (h.clientClosed hclient) n d hd] at hdopen
  cases hdopen

lemma Narrows.single (h : s.Narrows s') (hexclusive : s.Exclusive) :
    ∀ (m n : ℕ) (c d : Channel), s'.channels[m]? = some c → s'.channels[n]? = some d →
      c.isOpen = true → d.isOpen = true → m = n := by
  intro m n c d hc hd hcopen hdopen
  obtain ⟨c', hc', hc'open⟩ := h.channels m c hc hcopen
  obtain ⟨d', hd', hd'open⟩ := h.channels n d hd hdopen
  exact hexclusive.single m n c' d' hc' hd' hc'open hd'open

/-- Where nothing is open there is nothing to have. -/
lemma Exclusive.of_quiet (h : s.Narrows s') (hexclusive : s.Exclusive) (hquiet : s'.Quiet) :
    s'.Exclusive := by
  refine ⟨h.single hexclusive, fun hclosed hclient n c hc hopen => ?_⟩
  rw [hquiet hclosed hclient n c hc] at hopen
  cases hopen

/-- The run loops keep their channels. -/
lemma Exclusive.of_narrows (h : s.Narrows s') (hexclusive : s.Exclusive)
    (hloops : ∀ loop ∈ s.loops, ∃ loop' ∈ s'.loops, loop'.place.channel = loop.place.channel) :
    s'.Exclusive := by
  refine ⟨h.single hexclusive, fun hclosed hclient n c hc hopen => ?_⟩
  obtain ⟨d, hd, hdopen⟩ := h.channels n c hc hopen
  obtain ⟨loop, hloop, hplace⟩ :=
    hexclusive.held (h.closed hclosed) (h.clientClosed hclient) n d hd hdopen
  obtain ⟨loop', hloop', hsame⟩ := hloops loop hloop
  exact ⟨loop', hloop', hsame.trans hplace⟩

lemma narrows_start (s : QaraaSnapshotStream Body) : s.Narrows s.start := by
  rw [start]
  split
  · exact .of_eq rfl rfl rfl
  · split <;> exact .of_eq rfl rfl rfl

lemma narrows_finish (s : QaraaSnapshotStream Body) (i : ℕ) : s.Narrows (s.finish i) := by
  rw [finish]
  split
  · exact (narrows_start _).after rfl rfl rfl
  · exact .of_eq rfl rfl rfl

lemma narrows_mark (channel : ℕ) {f : Channel → Channel}
    (hf : ∀ c, (f c).isOpen = true → c.isOpen = true) : s.Narrows (s.mark channel f) := by
  refine ⟨fun n c hc hopen => ?_, id, id⟩
  rw [mark, List.getElem?_modify, Option.map_eq_map, Option.map_eq_some_iff] at hc
  obtain ⟨d, hd, rfl⟩ := hc
  refine ⟨d, hd, ?_⟩
  split at hopen
  · exact hf d hopen
  · exact hopen

lemma narrows_halt (s : QaraaSnapshotStream Body) : s.Narrows s.halt := by
  rw [halt]
  split
  · exact .of_eq rfl rfl rfl
  · refine (narrows_mark _ fun c hopen => ?_).after rfl rfl rfl
    exact absurd ((Channel.isOpen_close c).symm.trans hopen) Bool.noConfusion

lemma narrows_close (s : QaraaSnapshotStream Body) : s.Narrows s.close := by
  rw [close]
  split
  · exact .of_eq rfl rfl rfl
  · rename_i hopen
    refine ⟨(narrows_halt _).channels, fun _ => Bool.not_eq_true _ ▸ hopen,
      (narrows_halt { s with closed := true }).clientClosed⟩

lemma narrows_caught (error : StreamError) : s.Narrows (s.caught i loop error) := by
  rw [caught]
  split
  · exact (narrows_finish (s.free loop error.happening) i).after rfl rfl rfl
  · split
    · have hclose :=
        narrows_close ((s.free loop error.happening).addError error)
      exact ⟨hclose.channels, hclose.closed, hclose.clientClosed⟩
    · exact .of_eq rfl rfl rfl

lemma narrows_dropped : s.Narrows (s.dropped i loop) := by
  rw [dropped]
  split
  · exact (narrows_caught _).after rfl rfl rfl
  · exact .of_eq rfl rfl rfl

lemma narrows_next : s.Narrows (s.next options i loop) := by
  rw [next]
  split
  · split
    · exact narrows_caught _
    · exact .of_eq rfl rfl rfl
  · exact narrows_finish s i

/-! ### The channel of a run loop -/

/-- A run loop whose channel is not open leaves no open channel. -/
lemma Exclusive.quiet (h : s.Exclusive) (hloops : s.loops = [loop])
    (hchannel : ∀ (n : ℕ) (c : Channel), loop.place.channel = some n → s.channels[n]? = some c →
      c.isOpen = false) : s.Quiet := by
  intro hclosed hclient n c hc
  rw [← Bool.not_eq_true]
  intro hopen
  obtain ⟨l, hl, hplace⟩ := h.held hclosed hclient n c hc hopen
  rw [hloops, List.mem_singleton] at hl
  subst hl
  rw [hchannel n c hplace hc] at hopen
  cases hopen

lemma Exclusive.quiet_of_none (h : s.Exclusive) (hloops : s.loops = [loop])
    (hplace : loop.place.channel = none) : s.Quiet :=
  h.quiet hloops fun _ _ hn _ => absurd (hplace.symm.trans hn) (Option.some_ne_none _).symm

/-- A channel that has come to its end is not open. -/
lemma Exclusive.quiet_of_lost (h : s.Exclusive) (hloops : s.loops = [loop]) {channel : ℕ}
    (hplace : loop.place.channel = some channel) :
    (s.mark channel Channel.lose).Exclusive ∧ (s.mark channel Channel.lose).Quiet := by
  have hnarrows : s.Narrows (s.mark channel Channel.lose) := by
    refine narrows_mark channel fun c hopen => ?_
    exact absurd ((Channel.isOpen_lose c).symm.trans hopen) Bool.noConfusion
  have hexclusive := Exclusive.of_narrows hnarrows h fun l hl => ⟨l, hl, rfl⟩
  refine ⟨hexclusive, hexclusive.quiet hloops fun n c hn hc => ?_⟩
  cases hplace.symm.trans hn
  rw [mark, List.getElem?_modify_eq, Option.map_eq_map, Option.map_eq_some_iff] at hc
  obtain ⟨d, -, rfl⟩ := hc
  exact d.isOpen_lose

/-- A run loop that is out of date, or may end with the client, has no open channel. -/
lemma Exclusive.quiet_of_stale (h : s.Exclusive) (hloops : s.loops = [loop]) {channel : ℕ}
    (hplace : loop.place.channel = some channel) (huses : s.Uses loop channel)
    (hstale : loop.runGeneration ≠ s.generation ∨ s.clientClosed = true) : s.Quiet := by
  rcases hstale with hold | hover
  · refine h.quiet hloops fun n c hn hc => ?_
    cases hplace.symm.trans hn
    obtain ⟨d, hd, -, hsocket⟩ := huses
    cases hd.symm.trans hc
    rcases hsocket with ⟨hcurrent, -⟩ | ⟨-, -, hclosing⟩
    · exact absurd hcurrent hold
    · rw [Channel.isOpen, hclosing]
      rfl
  · intro _ hclient
    exact absurd (hover.symm.trans hclient) Bool.noConfusion

/-- The run loop waits elsewhere, with the same channel. -/
lemma Exclusive.setPlace (h : s.Exclusive) (hloops : s.loops = [loop]) {place : Place}
    (hplace : place.channel = loop.place.channel) : (s.setPlace 0 place).Exclusive := by
  refine Exclusive.of_narrows (s := s) (.of_eq rfl rfl rfl) h fun l hl => ?_
  rw [hloops, List.mem_singleton] at hl
  subst hl
  rw [setPlace_of_singleton hloops]
  exact ⟨_, List.mem_singleton_self _, hplace⟩

lemma Exclusive.connected (h : s.Exclusive) (hloops : s.loops = [loop]) (hquiet : s.Quiet) :
    (s.connected 0 loop).Exclusive := by
  rw [QaraaSnapshotStream.connected]
  split
  · rename_i hlive
    have hopen : s.closed = false ∧ s.clientClosed = false := by
      rw [isLive] at hlive
      simp_all
    have hlast : ∀ (n : ℕ) (c : Channel), (s.accept loop).channels[n]? = some c →
        c.isOpen = true → n = s.channels.length := by
      intro n c hc hcopen
      rw [accept, List.getElem?_append] at hc
      split at hc
      · rw [hquiet hopen.1 hopen.2 n c hc] at hcopen
        cases hcopen
      · have := (List.getElem?_eq_some_iff.mp hc).1
        simp only [List.length_singleton] at this
        omega
    refine ⟨fun m n c d hc hd hcopen hdopen => ?_, fun _ _ n c hc hcopen => ?_⟩
    · exact (hlast m c hc hcopen).trans (hlast n d hd hdopen).symm
    · rw [setPlace_of_singleton (s := s.accept loop) hloops]
      exact ⟨_, List.mem_singleton_self _, congrArg some (hlast n c hc hcopen).symm⟩
  · have hnarrows : s.Narrows ((s.refuse loop).setPlace 0 .refusing) := by
      refine ⟨fun n c hc hcopen => ?_, id, id⟩
      rw [QaraaSnapshotStream.setPlace, refuse, List.getElem?_append] at hc
      split at hc
      · exact ⟨c, hc, hcopen⟩
      · cases List.mem_singleton.mp (List.mem_of_getElem? hc)
        cases hcopen
    exact .of_quiet hnarrows h (hnarrows.quiet hquiet)

/-- A run loop that may go on after an error, with its channel still open. -/
def abandons (s : QaraaSnapshotStream Body) : StreamAction Body → Bool
  | .resume i .completed =>
      match s.loops[i]? with
      | none => false
      | some loop =>
          match loop.place with
          | .leaving channel (some terminal) =>
              s.isLive loop && !terminal && loop.attempt < delays.length &&
                s.channels[channel]?.any Channel.isOpen
          | _ => false
  | _ => false

/-- Nothing is left to try. -/
lemma caught_closed (hlive : s.isLive loop = true) {error : StreamError}
    (hlast : (error.isTerminal || decide (delays.length ≤ loop.attempt)) = true) :
    (s.caught i loop error).closed = true := by
  rw [caught_of_live hlive, if_pos hlast]
  exact close_closed _

lemma Exclusive.left (h : s.Exclusive) (hsound : s.Sound) (hloops : s.loops = [loop])
    {channel : ℕ} {terminal : Bool} (hplace : loop.place = .leaving channel (some terminal))
    (hkept : s.abandons (.resume 0 .completed) = false) :
    (s.caught 0 loop (.thrown terminal)).Quiet := by
  have hchannel : loop.place.channel = some channel := by rw [hplace]; rfl
  have huses : s.Uses loop channel := by
    have hplaced := hsound.placed loop (by simp [hloops])
    rwa [Placed, hplace] at hplaced
  rcases Bool.eq_false_or_eq_true (s.isLive loop) with hlive | hover
  · rw [abandons, hloops] at hkept
    simp only [List.getElem?_cons_zero, hplace, hlive, Bool.true_and] at hkept
    by_cases hlast : ((StreamError.thrown terminal).isTerminal ||
        decide (delays.length ≤ loop.attempt)) = true
    · intro hclosed
      exact absurd ((caught_closed hlive hlast).symm.trans hclosed) Bool.noConfusion
    · refine (narrows_caught _).quiet (h.quiet hloops fun n c hn hc => ?_)
      cases hchannel.symm.trans hn
      simp_all [StreamError.isTerminal]
  · refine (narrows_caught _).quiet (h.quiet_of_stale hloops hchannel huses ?_)
    exact hsound.base.stale (by simp [hloops]) hover

lemma narrows_resumed :
    s.Narrows (if s.isLive loop then s.setPlace i .starting else s.finish i) := by
  split
  · exact .of_eq rfl rfl rfl
  · exact narrows_finish s i

/-- The body of the `await for` keeps the channel. -/
lemma Exclusive.read (h : s.Exclusive) (hloops : s.loops = [loop]) {channel : ℕ}
    (hplace : loop.place = .reading channel) (message : StreamMessage Body) :
    (s.read options 0 loop channel message).Exclusive := by
  have hleaving : ∀ error, (s.setPlace 0 (.leaving channel error)).Exclusive :=
    fun error => h.setPlace hloops (by rw [hplace]; rfl)
  rw [QaraaSnapshotStream.read.eq_def]
  split
  · exact hleaving none
  · cases message with
    | undecodable terminal => exact hleaving _
    | updated sessionId snapshot =>
        dsimp only
        split
        · exact ⟨h.single, h.held⟩
        · exact h
    | other => exact h

/-- **A run loop that abandons no channel has the only open one.** -/
lemma Exclusive.resume (h : s.Exclusive) (hsound : s.Sound) (hloops : s.loops = [loop])
    (event : Resumption Body) (hkept : s.abandons (.resume 0 event) = false) :
    (s.resume options 0 loop event).Exclusive := by
  have hnone : loop.place.channel = none → s.Quiet := h.quiet_of_none hloops
  have hplaced := hsound.placed loop (by simp [hloops])
  rw [Placed.eq_def] at hplaced
  rw [QaraaSnapshotStream.resume.eq_def]
  split
  case h_16 => exact h
  all_goals
    rename_i hplace
    rw [hplace] at hplaced hnone
  · exact .of_quiet narrows_next h (narrows_next.quiet (hnone rfl))
  · exact h.connected hloops (hnone rfl)
  · exact .of_quiet (narrows_caught _) h ((narrows_caught _).quiet (hnone rfl))
  · exact .of_quiet (narrows_finish s 0) h ((narrows_finish s 0).quiet (hnone rfl))
  · exact .of_quiet (narrows_caught _) h ((narrows_caught _).quiet (hnone rfl))
  · rename_i channel
    have hlistened : (s.mark channel Channel.listen).Exclusive :=
      .of_narrows (narrows_mark channel fun _ => id) h fun l hl => ⟨l, hl, rfl⟩
    exact hlistened.setPlace hloops (by rw [hplace]; rfl)
  · obtain ⟨hlost, hquiet⟩ := h.quiet_of_lost hloops (by rw [hplace]; rfl)
    exact .of_quiet (narrows_caught _) hlost ((narrows_caught _).quiet hquiet)
  · exact h.read hloops hplace _
  · obtain ⟨hlost, hquiet⟩ := h.quiet_of_lost hloops (by rw [hplace]; rfl)
    exact .of_quiet narrows_dropped hlost (narrows_dropped.quiet hquiet)
  · rename_i channel _
    have hlost := (h.quiet_of_lost hloops  (by rw [hplace]; rfl)).1
    exact hlost.setPlace hloops (by rw [hplace]; rfl)
  · have hquiet := h.quiet_of_stale hloops (by rw [hplace]; rfl) hplaced.1 (Or.inl hplaced.2)
    exact .of_quiet narrows_dropped h (narrows_dropped.quiet hquiet)
  · exact .of_quiet (narrows_caught _) h (h.left hsound hloops hplace hkept)
  · exact .of_quiet narrows_resumed h (narrows_resumed.quiet (hnone rfl))
  · split
    · exact h
    · exact .of_quiet narrows_resumed h (narrows_resumed.quiet (hnone rfl))
  · exact .of_quiet (narrows_finish s 0) h ((narrows_finish s 0).quiet (hnone rfl))

lemma Exclusive.step (h : s.Exclusive) (hsound : s.Sound) (action : StreamAction Body)
    (hkept : s.abandons action = false) : (s.step options action).Exclusive := by
  cases action with
  | listen =>
      rw [QaraaSnapshotStream.step]
      split
      · exact ⟨h.single, h.held⟩
      · rw [start]
        split
        · exact ⟨h.single, h.held⟩
        · split
          · exact ⟨h.single, h.held⟩
          · exact .of_narrows (s := s) (.of_eq rfl rfl rfl) h
              fun l hl => ⟨l, List.mem_append_left _ hl, rfl⟩
  | cancel =>
      rw [QaraaSnapshotStream.step]
      split
      · exact h
      · refine .of_narrows (s := s) ((narrows_halt _).after rfl rfl rfl) h fun l hl => ?_
        rw [show ({ s with listeners := 0 } : QaraaSnapshotStream Body).pause =
          ({ s with listeners := 0 } : QaraaSnapshotStream Body).halt from rfl, halt_loops]
        exact ⟨_, List.mem_map_of_mem hl, rfl⟩
      · exact ⟨h.single, h.held⟩
  | close =>
      refine .of_quiet (narrows_close s) h fun hclosed => ?_
      exact absurd ((close_closed s).symm.trans hclosed) Bool.noConfusion
  | closeClient => exact ⟨h.single, fun _ hclient => absurd hclient Bool.noConfusion⟩
  | resume i event =>
      rw [QaraaSnapshotStream.step]
      split
      · exact h
      · rename_i loop hloop
        obtain ⟨rfl, hloops⟩ := hsound.base.eq_singleton hloop
        exact h.resume hsound hloops event hkept

/-- At no step of the run does a run loop abandon an open channel. -/
def NeverAbandons (options : StreamOptions) (actions : List (StreamAction Body)) : Prop :=
  ∀ earlier action rest, actions = earlier ++ action :: rest →
    (run options earlier).abandons action = false

instance (options : StreamOptions) (actions : List (StreamAction Body)) :
    Decidable (NeverAbandons options actions) :=
  inferInstanceAs (Decidable (Obeys
    (fun earlier action => (run options earlier).abandons action = false) actions))

/-- The channels that are open. -/
def openChannels (s : QaraaSnapshotStream Body) : List Channel := s.channels.filter Channel.isOpen

/-- A run loop that may go on opens a channel after its delay. -/
lemma openChannels_reconnect (hsession : trimIsEmpty options.session = false)
    (hloops : s.loops = [loop]) (hlive : s.isLive loop = true) {signal : ℕ}
    (hplace : loop.place = .waiting signal) :
    ([.resume 0 .completed, .resume 0 .completed, .resume 0 .connected].foldl (step options)
      s).openChannels = s.openChannels ++ [⟨false, false, false, loop.stopped⟩] := by
  have hwaited : s.step options (.resume 0 .completed) =
      { s with loops := [{ loop with place := .starting }] } := by
    rw [step_resume hloops, resume.eq_def, hplace]
    exact (if_pos hlive).trans (setPlace_of_singleton hloops .starting)
  have hdialled : ({ s with loops := [{ loop with place := .starting }] } :
      QaraaSnapshotStream Body).step options (.resume 0 .completed) =
        { s with loops := [{ loop with place := .connecting }] } := by
    rw [step_resume rfl]
    exact (if_pos hlive).trans (if_neg (Bool.not_eq_true _ ▸ hsession))
  have hopened : (({ s with loops := [{ loop with place := .connecting }] } :
      QaraaSnapshotStream Body).step options (.resume 0 .connected)).channels =
        s.channels ++ [⟨false, false, false, loop.stopped⟩] := by
    rw [step_resume rfl]
    exact congrArg QaraaSnapshotStream.channels (if_pos hlive)
  rw [List.foldl_cons, List.foldl_cons, List.foldl_cons, List.foldl_nil, hwaited, hdialled,
    openChannels, hopened, List.filter_append]
  rfl

/-- **An abandoned channel is one too many**: once the run loop has connected again two are
open. -/
theorem two_open_of_abandons (hsession : trimIsEmpty options.session = false) (hsound : s.Sound)
    {action : StreamAction Body} (habandons : s.abandons action = true) :
    2 ≤ ([action, .resume 0 .completed, .resume 0 .completed,
      .resume 0 .connected].foldl (step options) s).openChannels.length := by
  rw [abandons.eq_def] at habandons
  split at habandons
  · rename_i i
    split at habandons
    · cases habandons
    · rename_i loop hloop
      obtain ⟨rfl, hloops⟩ := hsound.base.eq_singleton hloop
      split at habandons
      · rename_i channel terminal hplace
        simp only [Bool.and_eq_true, decide_eq_true_eq, Bool.not_eq_true',
          Option.any_eq_true] at habandons
        obtain ⟨⟨⟨hlive, rfl⟩, hleft⟩, c, hc, hopen⟩ := habandons
        have hwaits : s.step options (.resume 0 .completed) =
            (s.free loop [.failed]).waitForRetry 0 := by
          rw [step_resume hloops, resume.eq_def, hplace]
          exact (caught_of_live hlive _).trans (if_neg (by simp [StreamError.isTerminal, hleft]))
        have hloops' : ((s.free loop [.failed]).waitForRetry 0).loops =
            [{ loop with attempt := loop.attempt + 1, place := .waiting s.wakeSignal }] := by
          rw [waitForRetry_of_singleton (s := s.free loop [.failed]) hloops]
          rfl
        have hlive' : ((s.free loop [.failed]).waitForRetry 0).isLive
            { loop with attempt := loop.attempt + 1, place := .waiting s.wakeSignal } = true :=
          hlive
        rw [List.foldl_cons, hwaits, openChannels_reconnect hsession hloops' hlive' rfl,
          List.length_append]
        have hmem : c ∈ s.openChannels := List.mem_filter.mpr ⟨List.mem_of_getElem? hc, hopen⟩
        exact Nat.succ_le_succ (List.length_pos_of_mem hmem)
      · cases habandons
  · cases habandons

lemma run_exclusive (actions : List (StreamAction Body)) (h : NeverAbandons options actions) :
    (run options actions).Exclusive := by
  have key := Loop.foldl_induction_split (l := actions) (f := step options)
    (s := (create options : QaraaSnapshotStream Body))
    (P := fun earlier s => s = run options earlier ∧ s.Exclusive)
  refine (key ⟨rfl, ?_, ?_⟩ ?_).2
  · simp [create]
  · simp [create]
  · rintro earlier action rest _ hactions ⟨rfl, hexclusive⟩
    refine ⟨?_, hexclusive.step (run_sound options earlier) action (h earlier action rest hactions)⟩
    rw [run, run, List.foldl_append]
    rfl

/-- Where no two places of a list satisfy a predicate, one item of it at most does. -/
lemma length_filter_le_one {α : Type} {p : α → Bool} {l : List α}
    (h : ∀ (m n : ℕ) (x y : α), l[m]? = some x → l[n]? = some y → p x = true → p y = true → m = n) :
    (l.filter p).length ≤ 1 := by
  induction l with
  | nil => exact Nat.zero_le _
  | cons x rest ih =>
      have hrest : (rest.filter p).length ≤ 1 :=
        ih fun m n y z hy hz hpy hpz => Nat.succ.inj (h (m + 1) (n + 1) y z hy hz hpy hpz)
      cases hp : p x with
      | false => rwa [List.filter_cons_of_neg (Bool.not_eq_true _ ▸ hp)]
      | true =>
          have hnil : rest.filter p = [] := by
            refine List.filter_eq_nil_iff.mpr fun y hy hpy => ?_
            obtain ⟨n, hn⟩ := List.mem_iff_getElem?.mp hy
            exact absurd (h 0 (n + 1) x y rfl hn hp hpy) (Nat.succ_ne_zero n).symm
          rw [List.filter_cons_of_pos hp, hnil]
          exact le_rfl

end QaraaSnapshotStream

/-- **Run-loop exclusion.** In every run, in whatever order listeners come and go, the stream
and the client are closed and the connections go on: one run loop at most is active, the
revisions handed on increase, every channel that comes after a cancel or a close is closed and
never read from, and while there is a listener and nothing is closed a run loop is active that
is the current one or is followed by another one as soon as it ends. Where no run loop abandons
an open channel, one channel at most is open; where one does, two are once it has connected
again. -/
theorem run_loop_exclusion {Body : Type} (options : StreamOptions)
    (actions : List (StreamAction Body)) :
    let s := QaraaSnapshotStream.run options actions
    s.loops.length ≤ 1 ∧
    s.emitted.Pairwise (fun x y => x.revision < y.revision) ∧
    (∀ c ∈ s.channels, c.late = true → c.closing = true ∧ c.read = false) ∧
    (s.hasListener = true → s.closed = false → s.clientClosed = false →
      ∃ loop ∈ s.loops, loop.runGeneration = s.generation ∨ s.restartRequested = true) ∧
    (QaraaSnapshotStream.NeverAbandons options actions → s.openChannels.length ≤ 1) ∧
    ∀ action, trimIsEmpty options.session = false → s.abandons action = true →
      2 ≤ (QaraaSnapshotStream.run options (actions ++ [action, .resume 0 .completed,
        .resume 0 .completed, .resume 0 .connected])).openChannels.length := by
  intro s
  have hsound : s.Sound := QaraaSnapshotStream.run_sound options actions
  refine ⟨?_, (QaraaSnapshotStream.run_increasing options actions).sorted, ?_, ?_, ?_, ?_⟩
  · have hsingle := hsound.base.runner.single
    rwa [QaraaSnapshotStream.runner, List.length_map] at hsingle
  · intro c hc hlate
    obtain ⟨n, hn⟩ := List.mem_iff_getElem?.mp hc
    exact hsound.base.late n c hn hlate
  · intro hlistener hopen hclient
    obtain ⟨w, hw, hnext⟩ := hsound.base.runner.served hlistener hopen hclient
    obtain ⟨loop, hloop, rfl⟩ := List.mem_map.mp hw
    exact ⟨loop, hloop, hnext⟩
  · intro hnever
    exact QaraaSnapshotStream.length_filter_le_one
      (QaraaSnapshotStream.run_exclusive actions hnever).single
  · intro action hsession habandons
    rw [QaraaSnapshotStream.run, List.foldl_append]
    exact QaraaSnapshotStream.two_open_of_abandons hsession hsound habandons

/-- A listener comes, a connection is opened and ends after a snapshot; after the delay the run
loop connects again. -/
def endedConnection : List (StreamAction Unit) :=
  [.listen, .resume 0 .completed, .resume 0 .connected, .resume 0 .completed,
    .resume 0 (.message (.updated "s" ⟨1, ()⟩)), .resume 0 .ended, .resume 0 .completed,
    .resume 0 .completed, .resume 0 .connected]

/-- After a connection that has ended one channel is open. -/
theorem run_loop_exclusion_sample :
    (QaraaSnapshotStream.run sampleOptions endedConnection).channels.length = 2 ∧
      (QaraaSnapshotStream.run sampleOptions endedConnection).openChannels.length ≤ 1 := by
  obtain ⟨-, -, -, -, hone, -⟩ := run_loop_exclusion sampleOptions endedConnection
  exact ⟨by decide, hone (by decide)⟩

/-- A listener comes, a connection is opened and delivers a message that cannot be decoded; after
the delay the run loop connects again. -/
def undecodedMessage : List (StreamAction Unit) :=
  [.listen, .resume 0 .completed, .resume 0 .connected, .resume 0 .completed,
    .resume 0 (.message (.undecodable false)), .resume 0 .completed, .resume 0 .completed,
    .resume 0 .completed, .resume 0 .connected]

/-- **After a message that cannot be decoded two channels are open.** -/
theorem second_open_channel :
    ¬ ∀ actions : List (StreamAction Unit),
      (QaraaSnapshotStream.run sampleOptions actions).openChannels.length ≤ 1 := by
  intro h
  exact absurd (h undecodedMessage) (by decide)

end Qaraa.Sdk.Dart
