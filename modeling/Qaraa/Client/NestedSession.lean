import Qaraa.Client.LocalSession
import Qaraa.Core.SampleCorpus
import Qaraa.Library.Broadcast

/-!
A local session whose listeners call back into it: `packages/client/src/local-session.ts` with
calls made from inside a notification.

* `NestedSession`: the tracker, the unsubscribe functions that have been made and the
  publisher, whose `pending` are the calls of listeners that have not returned.
* `NestedCall`, `NestedSession.step`: what the code in control can call, outside of any
  notification or in a listener, and that listener's return.
* `revisions_increase`: the revisions a listener is called with are strictly increasing exactly
  where no publication goes on after it has been overtaken; with no call in progress the last
  of them is the session's.
* `revisions_repeat`: a listener that resets the session makes the next one hear a revision
  twice.
-/

namespace Qaraa.Client

open Broadcast

/-- A local session whose listeners may call it while it publishes. -/
structure NestedSession where
  tracker : Traced
  /-- For each unsubscribe function its listener and its `subscribed`. -/
  subscriptions : List (ℕ × Bool)
  publisher : Broadcast.State ℕ ReadingSnapshot

/-- What the code in control can do. -/
inductive NestedCall where
  | submit (observation : JsValue)
  | reset (location : Option QuranLocation)
  | subscribe (listener : ℕ)
  | unsubscribe (subscription : ℕ)
  | close
  /-- The listener in control returns or throws. -/
  | finish (throws : Bool)

namespace NestedSession

/-- `createLocalSession`. -/
def create (tracker : CreatedTracker) : NestedSession :=
  ⟨tracker.run [], [], initial (tracker.snapshotAfter [])⟩

/-- `getSnapshot`. -/
def getSnapshot (session : NestedSession) : ReadingSnapshot := session.publisher.held

/-- The revisions a listener has been called with since it last subscribed. -/
def revisions (session : NestedSession) (listener : ℕ) : List ℕ :=
  (session.publisher.stream listener).map ReadingSnapshot.revision

/-- `submit` and `reset`: what the tracker returns is published. -/
def command (config : TrackerConfig) (session : NestedSession) (command : TrackerCommand) :
    NestedSession :=
  if session.publisher.closed then session
  else
    match applyCommand config session.tracker.state command with
    | .error _ => session
    | .ok (next, _) =>
        { session with
          tracker := session.tracker.step config command
          publisher := session.publisher.publish ReadingSnapshot.revision next }

/-- An unsubscribe function. -/
def unsubscribe (session : NestedSession) (subscription : ℕ) : NestedSession :=
  match session.subscriptions[subscription]? with
  | some (listener, true) =>
      { session with
        subscriptions := session.subscriptions.set subscription (listener, false)
        publisher := session.publisher.leave listener }
  | _ => session

/-- A listener returns or throws. A `subscribe` whose listener has returned makes the
unsubscribe function; one whose listener has thrown throws in turn. -/
def finish (session : NestedSession) (throws : Bool) : NestedSession :=
  { session with
    subscriptions :=
      match session.publisher.pending with
      | .subscription listener :: _ =>
          if throws then session.subscriptions else session.subscriptions ++ [(listener, true)]
      | _ => session.subscriptions
    publisher := session.publisher.finish throws }

/-- What the code in control does next. -/
def step (config : TrackerConfig) (session : NestedSession) : NestedCall → NestedSession
  | .submit observation => session.command config (.submit observation)
  | .reset location => session.command config (.reset location)
  | .subscribe listener => { session with publisher := session.publisher.subscribe listener }
  | .unsubscribe subscription => session.unsubscribe subscription
  | .close => { session with publisher := session.publisher.close }
  | .finish throws => session.finish throws

/-- A run of the session. -/
def run (config : TrackerConfig) (session : NestedSession) (calls : List NestedCall) :
    NestedSession := calls.foldl (step config) session

/-- A publication that goes on when a listener has returned does so with the snapshot it was
started with, and to a listener that has not subscribed since it was started. -/
def Undisturbed (session : NestedSession) : NestedCall → Prop
  | .finish throws => Steady ReadingSnapshot.revision session.publisher (.finish throws)
  | _ => True

/-! ### Streams -/

/-- The invariant of the publisher. -/
def Sound (session : NestedSession) : Prop :=
  Broadcast.Sound ReadingSnapshot.revision session.publisher session.publisher.publications

/-- What a call is for the publisher. -/
lemma step_publisher (config : TrackerConfig) (session : NestedSession) (call : NestedCall) :
    (session.step config call).publisher = session.publisher ∧ session.Undisturbed call ∨
      ∃ move, (session.step config call).publisher
          = session.publisher.step ReadingSnapshot.revision move ∧
        (session.Undisturbed call ↔ Steady ReadingSnapshot.revision session.publisher move) := by
  have hcommand : ∀ command : TrackerCommand,
      (session.command config command).publisher = session.publisher ∨
        ∃ next, (session.command config command).publisher
          = session.publisher.publish ReadingSnapshot.revision next := by
    intro command
    rw [NestedSession.command]
    split
    · exact Or.inl rfl
    · split
      · exact Or.inl rfl
      · exact Or.inr ⟨_, rfl⟩
  cases call with
  | submit observation =>
      rcases hcommand (.submit observation) with heq | ⟨next, heq⟩
      · exact Or.inl ⟨heq, trivial⟩
      · exact Or.inr ⟨.publish next, heq, Iff.rfl⟩
  | reset location =>
      rcases hcommand (.reset location) with heq | ⟨next, heq⟩
      · exact Or.inl ⟨heq, trivial⟩
      · exact Or.inr ⟨.publish next, heq, Iff.rfl⟩
  | subscribe listener => exact Or.inr ⟨.subscribe listener, rfl, Iff.rfl⟩
  | unsubscribe subscription =>
      rw [step, NestedSession.unsubscribe]
      split
      · exact Or.inr ⟨.leave _, rfl, Iff.rfl⟩
      · exact Or.inl ⟨rfl, trivial⟩
  | close => exact Or.inr ⟨.close, rfl, Iff.rfl⟩
  | finish throws => exact Or.inr ⟨.finish throws, rfl, Iff.rfl⟩

lemma Sound.step {session : NestedSession} (h : session.Sound) (config : TrackerConfig)
    (call : NestedCall) : (session.step config call).Sound := by
  rcases step_publisher config session call with ⟨heq, -⟩ | ⟨move, heq, -⟩
  · rw [Sound, heq]
    exact h
  · rw [Sound, heq]
    exact sound_step h move

lemma run_concat (config : TrackerConfig) (session : NestedSession) (calls : List NestedCall)
    (call : NestedCall) :
    session.run config (calls ++ [call]) = (session.run config calls).step config call := by
  rw [run, List.foldl_append]
  rfl

lemma sound_run (config : TrackerConfig) (tracker : CreatedTracker) (calls : List NestedCall) :
    ((create tracker).run config calls).Sound := by
  induction calls using List.reverseRecOn with
  | nil => exact sound_initial _
  | append_singleton calls call ih =>
      rw [run_concat]
      exact ih.step config call

/-- Every listener has heard strictly increasing revisions. -/
def RevisionsIncrease (session : NestedSession) : Prop :=
  ∀ listener, (session.revisions listener).Pairwise (fun r r' => r < r')

lemma revisionsIncrease_iff {session : NestedSession} :
    session.RevisionsIncrease ↔ Increasing ReadingSnapshot.revision session.publisher :=
  forall_congr' fun _ => List.pairwise_map

/-- A call keeps the revisions increasing exactly when it is undisturbed. -/
lemma revisionsIncrease_step {session : NestedSession} (hs : session.Sound)
    (h : session.RevisionsIncrease) (config : TrackerConfig) (call : NestedCall) :
    (session.step config call).RevisionsIncrease ↔ session.Undisturbed call := by
  rw [revisionsIncrease_iff] at h ⊢
  rcases step_publisher config session call with ⟨heq, hundisturbed⟩ | ⟨move, heq, hiff⟩
  · rw [heq]
    exact iff_of_true h hundisturbed
  · rw [heq, hiff]
    exact increasing_step hs h move

end NestedSession

open NestedSession in
/-- **What the listeners of a local session hear.** In all states of a run their revisions are
strictly increasing, exactly when every publication that goes on in it still publishes the
snapshot held, to a listener that has not subscribed meanwhile. With no call in progress the
last revision a subscribed listener has heard is the session's. -/
theorem revisions_increase (tracker : CreatedTracker) (calls : List NestedCall) :
    ((∀ before : List NestedCall, before <+: calls →
        ((create tracker).run tracker.config before).RevisionsIncrease) ↔
      ∀ (before : List NestedCall) (call : NestedCall), before ++ [call] <+: calls →
        ((create tracker).run tracker.config before).Undisturbed call) ∧
    (((create tracker).run tracker.config calls).publisher.pending = [] →
      ∀ listener ∈ ((create tracker).run tracker.config calls).publisher.listeners.items,
        (((create tracker).run tracker.config calls).revisions listener).getLast?
          = some ((create tracker).run tracker.config calls).getSnapshot.revision) := by
  refine ⟨⟨fun hall before call hpre => ?_, fun hall before => ?_⟩, fun hrest listener hmem => ?_⟩
  · have hbefore := hall before ((List.prefix_append _ _).trans hpre)
    have hafter := hall _ hpre
    rw [run_concat] at hafter
    exact (revisionsIncrease_step (sound_run _ tracker before) hbefore _ call).mp hafter
  · induction before using List.reverseRecOn with
    | nil => exact fun _ _ => List.Pairwise.nil
    | append_singleton before call ih =>
        intro hpre
        rw [run_concat]
        exact (revisionsIncrease_step (sound_run _ tracker before)
          (ih ((List.prefix_append _ _).trans hpre)) _ call).mpr (hall before call hpre)
  · rw [revisions, List.getLast?_map, (sound_run _ tracker calls).at_rest hrest hmem]
    rfl

/-- Two listeners; the first one resets the session when it hears of the first reset. -/
def resettingCalls : List NestedCall :=
  [.subscribe 0, .finish false, .subscribe 1, .finish false, .reset none, .reset none,
    .finish false, .finish false, .finish false, .finish false]

open NestedSession in
/-- The second listener hears of the second reset twice. -/
theorem revisions_repeat :
    ((create sampleTracker).run sampleTracker.config resettingCalls).revisions 1 = [0, 2, 2] ∧
      ¬((create sampleTracker).run sampleTracker.config resettingCalls).RevisionsIncrease := by
  have hheard : ((create sampleTracker).run sampleTracker.config resettingCalls).revisions 1
      = [0, 2, 2] := by decide +kernel
  refine ⟨hheard, fun hincrease => ?_⟩
  have hpair := hincrease 1
  rw [hheard] at hpair
  exact absurd hpair (by decide)

end Qaraa.Client
