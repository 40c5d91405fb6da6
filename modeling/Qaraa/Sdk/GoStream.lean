import Qaraa.Library.NewestSlot
import Qaraa.Library.Loop
import Qaraa.Sdk.GoTypes

/-!
`sdk/go/qaraa/stream.go`: the snapshot stream of the Go client, a goroutine that reads the
events of one connection after the other and sends the snapshots over a channel of capacity
one to a consumer that receives at its own pace.

* `Place`, `Stream`: where the goroutine is and what it shares with the consumer.
* `StreamAction`, `Stream.step`: what either side does next; of a `select` with several ready
  cases any may be taken.
* `Stream.channel`, `step_channel`: **the stream is a newest-only channel**.
* `Sound`, `run_sound`: what holds in every state of every run.
* `newest_only_backpressure`: order, progress and the newest snapshot, over every run;
  `newest_between_selects`: where the newest snapshot is for a moment.
-/

namespace Qaraa.Sdk.Go

open NewestSlot

/-- A snapshot, with all that the stream does not look at. -/
structure StreamSnapshot (Body : Type) where
  revision : UInt64
  body : Body
  deriving DecidableEq

/-- What `DecodeEventLimit` makes of a message. -/
inductive StreamEvent (Body : Type) where
  /-- `decodeErr != nil`. -/
  | undecodable
  /-- An `*Error`. -/
  | protocolError
  | updated (sessionID : String) (snapshot : StreamSnapshot Body)
  /-- Any other event. -/
  | other

/-- What is sent on the channel of failures. -/
inductive StreamFailure where
  | unsafeRevision
  | endpoint
  | dial
  | read
  | decode
  | protocol
  deriving DecidableEq

/-- Where the goroutine is. -/
inductive Place (Body : Type) where
  /-- At the top of the loop over the connections. -/
  | starting
  | dialing
  /-- In `c.delay`, after a failure. -/
  | delaying (failure : StreamFailure)
  | reading
  /-- At the `select` that sends or goes on. -/
  | offering (snapshot : StreamSnapshot Body)
  /-- At the `select` that receives or goes on. -/
  | draining (snapshot : StreamSnapshot Body)
  /-- At the `select` that sends or ends. -/
  | sending (snapshot : StreamSnapshot Body)
  | returned
  deriving DecidableEq

/-- What a stream is opened with. -/
structure StreamOptions where
  sessionID : String
  lastRevision : UInt64
  maxAttempts : ℕ
  /-- `c.closed` when the stream is opened. -/
  closed : Bool

/-- The variables of the goroutine, the two channels, and the flags. `cancelled` is
`streamCtx.Done()` before the goroutine has returned. `accepted` are the snapshots `revision`
was taken from and `received` those the consumer has received; only statements read them. -/
structure Stream (Body : Type) where
  place : Place Body
  revision : UInt64
  attempt : ℕ
  snapshots : Option (StreamSnapshot Body)
  failures : Option StreamFailure
  cancelled : Bool
  closed : Bool
  received : List (StreamSnapshot Body)
  accepted : List (StreamSnapshot Body)

/-- What can happen: what the goroutine waits for, and what the receivers and the context do. -/
inductive StreamAction (Body : Type) where
  | start
  | dial (connected : Bool)
  /-- `c.delay` returns, without an error or with one. -/
  | delay (elapsed : Bool)
  /-- A message is read, or reading fails. -/
  | read (event : Option (StreamEvent Body))
  | offer
  | drain
  /-- The last `select` takes its first case or its second. -/
  | send (sent : Bool)
  /-- The consumer receives. -/
  | receive
  | cancel
  | close

namespace Stream

variable {Body : Type}

/-- The goroutine returns, with a failure if there is one to send. -/
def giveUp (s : Stream Body) (failure : Option StreamFailure) : Stream Body :=
  { s with place := .returned, failures := failure.or s.failures }

/-- `streamRetry` up to the delay. -/
def streamRetry (options : StreamOptions) (s : Stream Body) (failure : StreamFailure) :
    Stream Body :=
  if options.maxAttempts - 1 ≤ s.attempt then
    s.giveUp (if s.cancelled then none else some failure)
  else { s with attempt := s.attempt + 1, place := .delaying failure }

/-- `Client.Stream`. -/
def start (options : StreamOptions) : Stream Body where
  place := if maxSafeInteger < options.lastRevision.toNat then .returned else .starting
  revision := options.lastRevision
  attempt := 0
  snapshots := none
  failures := if maxSafeInteger < options.lastRevision.toNat then some .unsafeRevision else none
  cancelled := options.closed
  closed := options.closed
  received := []
  accepted := []

/-- The goroutine goes on with a message. -/
def readEvent (options : StreamOptions) (s : Stream Body) : StreamEvent Body → Stream Body
  | .undecodable => s.giveUp (some .decode)
  | .protocolError => s.giveUp (some .protocol)
  | .updated sessionID snapshot =>
      if sessionID ≠ options.sessionID ∨ snapshot.revision ≤ s.revision then s
      else
        { s with
          revision := snapshot.revision
          attempt := 0
          accepted := s.accepted ++ [snapshot]
          place := .offering snapshot }
  | .other => s

/-- What happens next; an action that is not enabled changes nothing. -/
def step (options : StreamOptions) (s : Stream Body) (action : StreamAction Body) : Stream Body :=
  match action, s.place with
  | .start, .starting =>
      if s.closed || s.cancelled then s.giveUp none
      else if trimSpaceIsEmpty options.sessionID then s.giveUp (some .endpoint)
      else { s with place := .dialing }
  | .dial true, .dialing => { s with place := .reading }
  | .dial false, .dialing => s.streamRetry options .dial
  | .delay true, .delaying failure =>
      if s.closed then s.giveUp (if s.cancelled then none else some failure)
      else { s with place := .starting }
  | .delay false, .delaying failure =>
      if s.closed || s.cancelled then s.giveUp (if s.cancelled then none else some failure) else s
  | .read none, .reading => s.streamRetry options .read
  | .read (some event), .reading => s.readEvent options event
  | .offer, .offering snapshot =>
      match s.snapshots with
      | none => { s with snapshots := some snapshot, place := .reading }
      | some _ => { s with place := .draining snapshot }
  | .drain, .draining snapshot => { s with snapshots := none, place := .sending snapshot }
  | .send true, .sending snapshot =>
      match s.snapshots with
      | none => { s with snapshots := some snapshot, place := .reading }
      | some _ => s
  | .send false, .sending _ => if s.cancelled then s.giveUp none else s
  | .receive, _ =>
      match s.snapshots with
      | none => s
      | some snapshot => { s with snapshots := none, received := s.received ++ [snapshot] }
  | .cancel, _ => { s with cancelled := true }
  | .close, _ => { s with closed := true }
  | _, _ => s

/-- A run of the stream. -/
def run (options : StreamOptions) (actions : List (StreamAction Body)) : Stream Body :=
  actions.foldl (step options) (start options)

/-! ### The stream as a channel -/

/-- What the goroutine does with a snapshot. -/
def hand (s : Stream Body) : Hand (StreamSnapshot Body) :=
  match s.place with
  | .offering snapshot => .offering snapshot
  | .draining snapshot => .draining snapshot
  | .sending snapshot => .putting snapshot
  | _ => .idle

/-- The channel of snapshots. -/
def channel (s : Stream Body) : Channel (StreamSnapshot Body) :=
  ⟨s.hand, s.snapshots, s.received, s.accepted⟩

/-- The revision of a snapshot, as a number. -/
def rank (snapshot : StreamSnapshot Body) : ℕ := snapshot.revision.toNat

/-- `revision` is at least that of every accepted snapshot and the one the stream resumes
from; a failure is sent at the end only. -/
structure Consistent (options : StreamOptions) (s : Stream Body) : Prop where
  accepted : ∀ x ∈ s.accepted, rank x ≤ s.revision.toNat
  resumed : options.lastRevision.toNat ≤ s.revision.toNat
  failures : s.place ≠ .returned → s.failures = none

variable {options : StreamOptions} {s : Stream Body}

lemma start_channel (options : StreamOptions) :
    (start options : Stream Body).channel = Channel.empty := by
  have hhand : (start options : Stream Body).hand = .idle := by
    by_cases hunsafe : maxSafeInteger < options.lastRevision.toNat <;> simp [hand, start, hunsafe]
  rw [channel, hhand]
  rfl

lemma giveUp_channel (h : s.hand = .idle) (failure : Option StreamFailure) :
    (s.giveUp failure).channel = s.channel := by
  rw [channel, channel, h]
  rfl

lemma streamRetry_channel (h : s.hand = .idle) (failure : StreamFailure) :
    (s.streamRetry options failure).channel = s.channel := by
  rw [streamRetry]
  split
  · exact giveUp_channel h _
  · rw [channel, channel, h]
    rfl

/-- A step that leaves the goroutine without a snapshot and the channel as it was. -/
lemma channel_eq {s' : Stream Body} (h : s.hand = .idle) (h' : s'.hand = .idle)
    (hsnapshots : s'.snapshots = s.snapshots) (hreceived : s'.received = s.received)
    (haccepted : s'.accepted = s.accepted) : s'.channel = s.channel := by
  rw [channel, channel, h, h', hsnapshots, hreceived, haccepted]

/-- A message is passed over, ends the stream, or brings a newer snapshot. -/
lemma readEvent_channel (h : s.Consistent options) (hidle : s.hand = .idle)
    (event : StreamEvent Body) :
    (s.readEvent options event).channel = s.channel ∨
      Step rank options.lastRevision.toNat s.channel (s.readEvent options event).channel := by
  cases event with
  | undecodable => exact Or.inl (giveUp_channel hidle _)
  | protocolError => exact Or.inl (giveUp_channel hidle _)
  | other => exact Or.inl rfl
  | updated sessionID snapshot =>
      rw [readEvent]
      split
      · exact Or.inl rfl
      · rename_i hnewer
        have hlt : s.revision.toNat < rank snapshot := by
          rw [not_or] at hnewer
          exact UInt64.lt_iff_toNat_lt.mp (UInt64.not_le.mp hnewer.2)
        exact Or.inr (.taken snapshot s.channel hidle (h.resumed.trans_lt hlt)
          fun x hx => (h.accepted x hx).trans_lt hlt)

/-- **A step of the stream is a move of a newest-only channel**, or none. -/
theorem step_channel (h : s.Consistent options) (action : StreamAction Body) :
    (s.step options action).channel = s.channel ∨
      Step rank options.lastRevision.toNat s.channel (s.step options action).channel := by
  rw [step.eq_def]
  split
  · rename_i hplace
    have hidle : s.hand = .idle := by rw [hand, hplace]
    split
    · exact Or.inl (giveUp_channel hidle _)
    · split
      · exact Or.inl (giveUp_channel hidle _)
      · exact Or.inl (channel_eq hidle rfl rfl rfl rfl)
  · rename_i hplace
    exact Or.inl (channel_eq (by rw [hand, hplace]) rfl rfl rfl rfl)
  · rename_i hplace
    exact Or.inl (streamRetry_channel (by rw [hand, hplace]) _)
  · rename_i failure hplace
    have hidle : s.hand = .idle := by rw [hand, hplace]
    split
    · exact Or.inl (giveUp_channel hidle _)
    · exact Or.inl (channel_eq hidle rfl rfl rfl rfl)
  · rename_i failure hplace
    split
    · exact Or.inl (giveUp_channel (by rw [hand, hplace]) _)
    · exact Or.inl rfl
  · rename_i hplace
    exact Or.inl (streamRetry_channel (by rw [hand, hplace]) _)
  · rename_i event hplace
    exact readEvent_channel h (by rw [hand, hplace]) event
  · rename_i snapshot hplace
    have hhand : s.channel.hand = .offering snapshot := by rw [channel, hand, hplace]
    split
    · rename_i hnone
      exact Or.inr (.sent snapshot s.channel hhand hnone)
    · exact Or.inr (.full snapshot s.channel hhand)
  · rename_i snapshot hplace
    exact Or.inr (.drained snapshot s.channel (by rw [channel, hand, hplace]))
  · rename_i snapshot hplace
    have hhand : s.channel.hand = .putting snapshot := by rw [channel, hand, hplace]
    split
    · rename_i hnone
      exact Or.inr (.put snapshot s.channel hhand hnone)
    · exact Or.inl rfl
  · rename_i snapshot hplace
    split
    · exact Or.inr (.dropped snapshot s.channel (by rw [channel, hand, hplace]))
    · exact Or.inl rfl
  · split
    · exact Or.inl rfl
    · rename_i snapshot hsome
      exact Or.inr (.received snapshot s.channel hsome)
  · exact Or.inl rfl
  · exact Or.inl rfl
  · exact Or.inl rfl

/-! ### Runs -/

lemma Consistent.giveUp (h : s.Consistent options) (failure : Option StreamFailure) :
    (s.giveUp failure).Consistent options :=
  ⟨h.accepted, h.resumed, fun hplace => absurd rfl hplace⟩

lemma Consistent.streamRetry (h : s.Consistent options) (hplace : s.place = .dialing ∨
    s.place = .reading) (failure : StreamFailure) :
    (s.streamRetry options failure).Consistent options := by
  have hnone : s.failures = none := by
    refine h.failures ?_
    rcases hplace with hplace | hplace <;> rw [hplace] <;> rintro ⟨⟩
  rw [Stream.streamRetry]
  split
  · exact h.giveUp _
  · exact ⟨h.accepted, h.resumed, fun _ => hnone⟩

lemma Consistent.readEvent (h : s.Consistent options) (hplace : s.place = .reading)
    (event : StreamEvent Body) : (s.readEvent options event).Consistent options := by
  cases event with
  | undecodable => exact h.giveUp _
  | protocolError => exact h.giveUp _
  | other => exact h
  | updated sessionID snapshot =>
      rw [Stream.readEvent]
      split
      · exact h
      · rename_i hnewer
        have hlt : s.revision.toNat < rank snapshot := by
          rw [not_or] at hnewer
          exact UInt64.lt_iff_toNat_lt.mp (UInt64.not_le.mp hnewer.2)
        refine ⟨fun x hx => ?_, h.resumed.trans hlt.le, fun _ => h.failures ?_⟩
        · rcases List.mem_append.mp hx with hx | hx
          · exact (h.accepted x hx).trans hlt.le
          · exact (congrArg rank (List.mem_singleton.mp hx)).le
        · rw [hplace]
          rintro ⟨⟩

lemma Consistent.step (h : s.Consistent options) (action : StreamAction Body) :
    (s.step options action).Consistent options := by
  have hopen : ∀ place : Place Body, s.place = place → place ≠ .returned → s.failures = none :=
    fun place hplace hne => h.failures (hplace ▸ hne)
  rw [Stream.step.eq_def]
  split
  · rename_i hplace
    split
    · exact h.giveUp _
    · split
      · exact h.giveUp _
      · exact ⟨h.accepted, h.resumed, fun _ => hopen _ hplace nofun⟩
  · rename_i hplace
    exact ⟨h.accepted, h.resumed, fun _ => hopen _ hplace nofun⟩
  · rename_i hplace
    exact h.streamRetry (Or.inl hplace) _
  · rename_i failure hplace
    split
    · exact h.giveUp _
    · exact ⟨h.accepted, h.resumed, fun _ => hopen _ hplace nofun⟩
  · split
    · exact h.giveUp _
    · exact h
  · rename_i hplace
    exact h.streamRetry (Or.inr hplace) _
  · rename_i event hplace
    exact h.readEvent hplace event
  · rename_i snapshot hplace
    split <;> exact ⟨h.accepted, h.resumed, fun _ => hopen _ hplace nofun⟩
  · rename_i snapshot hplace
    exact ⟨h.accepted, h.resumed, fun _ => hopen _ hplace nofun⟩
  · rename_i snapshot hplace
    split
    · exact ⟨h.accepted, h.resumed, fun _ => hopen _ hplace nofun⟩
    · exact h
  · split
    · exact h.giveUp _
    · exact h
  · split
    · exact h
    · exact ⟨h.accepted, h.resumed, h.failures⟩
  · exact ⟨h.accepted, h.resumed, h.failures⟩
  · exact ⟨h.accepted, h.resumed, h.failures⟩
  · exact h

@[simp] lemma giveUp_cancelled (s : Stream Body) (failure : Option StreamFailure) :
    (s.giveUp failure).cancelled = s.cancelled := rfl

@[simp] lemma streamRetry_cancelled (failure : StreamFailure) :
    (s.streamRetry options failure).cancelled = s.cancelled := by
  rw [streamRetry]
  split <;> rfl

@[simp] lemma readEvent_cancelled (event : StreamEvent Body) :
    (s.readEvent options event).cancelled = s.cancelled := by
  cases event with
  | updated sessionID snapshot =>
      rw [readEvent]
      split <;> rfl
  | _ => rfl

/-- Nothing takes the cancellation back. -/
lemma cancelled_step (action : StreamAction Body)
    (h : (s.step options action).cancelled = false) : s.cancelled = false := by
  rw [step.eq_def] at h
  repeat' split at h
  all_goals simp_all

/-- While the context is not cancelled a snapshot leaves the goroutine for the channel only. -/
lemma sending_step (hcancelled : s.cancelled = false) {snapshot : StreamSnapshot Body}
    (hhand : s.hand = .putting snapshot) (action : StreamAction Body)
    (hidle : (s.step options action).hand = .idle) :
    (s.step options action).snapshots = some snapshot := by
  have hplace : s.place = .sending snapshot := by
    cases hplace : s.place <;> rw [hand, hplace] at hhand <;> cases hhand
    rfl
  have hother : (s.step options action).place = s.place →
      (s.step options action).snapshots = some snapshot := by
    intro hsame
    rw [hand, hsame, hplace] at hidle
    cases hidle
  cases action with
  | send sent =>
      cases sent with
      | true =>
          rw [step.eq_def]
          simp only [hplace]
          split
          · rfl
          · rename_i held hheld
            refine absurd hidle ?_
            simp [step, hplace, hheld, hand]
      | false => exact hother (by simp [step, hplace, hcancelled])
  | receive =>
      refine hother ?_
      rw [step]
      split <;> rfl
  | cancel => exact hother rfl
  | close => exact hother rfl
  | dial connected => exact hother (by cases connected <;> simp [step, hplace])
  | delay elapsed => exact hother (by cases elapsed <;> simp [step, hplace])
  | read event => exact hother (by cases event <;> simp [step, hplace])
  | _ => exact hother (by simp [step, hplace])

/-- What holds in every state of every run. -/
structure Sound (options : StreamOptions) (s : Stream Body) : Prop where
  consistent : s.Consistent options
  ordered : Ordered rank options.lastRevision.toNat s.channel
  current : s.cancelled = false → Current s.channel

lemma sound_start (options : StreamOptions) : (start options : Stream Body).Sound options := by
  refine ⟨⟨by simp [start], le_rfl, fun hplace => ?_⟩, ?_, fun _ => ?_⟩
  · rw [start] at hplace ⊢
    split at hplace
    · exact absurd rfl hplace
    · rename_i hsafe
      exact if_neg hsafe
  · rw [start_channel]
    exact Ordered.empty
  · rw [start_channel]
    exact Current.empty

lemma Sound.step (h : s.Sound options) (action : StreamAction Body) :
    (s.step options action).Sound options := by
  refine ⟨h.consistent.step action, ?_, fun hcancelled => ?_⟩
  · rcases step_channel h.consistent action with hsame | hmove
    · rw [hsame]
      exact h.ordered
    · exact h.ordered.step hmove
  · have hbefore := cancelled_step action hcancelled
    rcases step_channel h.consistent action with hsame | hmove
    · rw [hsame]
      exact h.current hbefore
    · refine (h.current hbefore).step hmove fun snapshot hhand hidle => ?_
      exact sending_step hbefore hhand action hidle

/-- Every run of the goroutine is sound. -/
theorem run_sound (options : StreamOptions) (actions : List (StreamAction Body)) :
    (run options actions).Sound options :=
  Loop.foldl_induction (P := fun _ (s : Stream Body) => s.Sound options) (sound_start options)
    fun _ action _ _ h => h.step action

/-- The snapshot the goroutine is about to send. -/
def held (s : Stream Body) : Option (StreamSnapshot Body) := s.hand.item

/-- What the goroutine does at a `select`, whatever the channel holds. -/
def ownSelect (s : Stream Body) : Option (StreamAction Body) :=
  match s.place with
  | .offering _ => some .offer
  | .draining _ => some .drain
  | .sending _ => some (.send true)
  | _ => none

/-- How many `select`s are still before the goroutine. -/
def selects (s : Stream Body) : ℕ :=
  match s.place with
  | .offering _ => 3
  | .draining _ => 2
  | .sending _ => 1
  | _ => 0

/-- **No `select` blocks**: each is over at once, and what the consumer does meanwhile leaves
the goroutine where it is. -/
lemma Sound.selects (h : s.Sound options) (action : StreamAction Body) :
    (s.ownSelect = some action → (s.step options action).selects < s.selects) ∧
      (action ∈ [.receive, .cancel, .close] → (s.step options action).selects = s.selects) := by
  constructor
  · intro howner
    rw [ownSelect] at howner
    split at howner
    · rename_i snapshot hplace
      cases howner
      rw [Stream.step.eq_def, Stream.selects.eq_def s]
      simp only [hplace]
      split <;> simp [Stream.selects]
    · rename_i snapshot hplace
      cases howner
      simp [Stream.step, Stream.selects, hplace]
    · rename_i snapshot hplace
      cases howner
      have hfree : s.snapshots = none := by
        refine h.ordered.free snapshot ?_
        rw [channel, hand, hplace]
      simp [Stream.step, Stream.selects, hplace, hfree]
    · cases howner
  · intro haction
    simp only [List.mem_cons, List.not_mem_nil, or_false] at haction
    rcases haction with rfl | rfl | rfl
    · rw [Stream.step]
      split <;> rfl
    · rfl
    · rfl

end Stream

/-- **Newest-only backpressure.** In every run, whatever is read and however the consumer
receives: the snapshots received have increasing revisions, all newer than the one the stream
resumes from; no `select` of the goroutine blocks, nor does it ever find the failure channel
full; and while the context is not cancelled the newest accepted snapshot has been received, is
held in the channel, or is on its way into it. -/
theorem newest_only_backpressure {Body : Type} (options : StreamOptions)
    (actions : List (StreamAction Body)) :
    let s := Stream.run options actions
    (s.received.Pairwise (fun x y => x.revision < y.revision) ∧
      ∀ x ∈ s.received, options.lastRevision < x.revision) ∧
    (∀ action,
      (s.ownSelect = some action → (s.step options action).selects < s.selects) ∧
        (action ∈ [.receive, .cancel, .close] → (s.step options action).selects = s.selects)) ∧
    (s.place ≠ .returned → s.failures = none) ∧
    (s.cancelled = false → ∀ x, s.accepted.getLast? = some x →
      s.received.getLast? = some x ∨ s.snapshots = some x ∨ s.held = some x) := by
  intro s
  have hsound := Stream.run_sound options actions
  obtain ⟨hincreasing, habove⟩ := hsound.ordered.received
  refine ⟨⟨?_, ?_⟩, hsound.selects, hsound.consistent.failures,
    fun hcancelled x hx => (hsound.current hcancelled).newest hx⟩
  · exact hincreasing.imp fun hlt => UInt64.lt_iff_toNat_lt.mpr hlt
  · exact fun x hx => UInt64.lt_iff_toNat_lt.mpr (habove x hx)

/-- A stream from the start, with nothing cancelled. -/
def sampleStream : StreamOptions := ⟨"s", 0, 3, false⟩

/-- A snapshot without content. -/
def bare (revision : UInt64) : StreamSnapshot Unit := ⟨revision, ()⟩

/-- Two snapshots are read while the consumer waits; the second one has just taken the first
one out of the channel. -/
def overtaking : List (StreamAction Unit) :=
  [.start, .dial true, .read (some (.updated "s" (bare 1))), .offer,
    .read (some (.updated "s" (bare 2))), .offer, .drain]

/-- **Between two `select`s the newest snapshot is neither received nor in the channel.** -/
theorem newest_between_selects :
    let s := Stream.run sampleStream overtaking
    s.cancelled = false ∧ s.accepted.getLast? = some (bare 2) ∧ bare 2 ∉ s.received ∧
      s.snapshots ≠ some (bare 2) := by
  decide

end Qaraa.Sdk.Go
