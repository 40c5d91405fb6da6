import Qaraa.Client.Listeners
import Qaraa.Core.ReadingProgress
import Qaraa.Protocol.Messages

/-!
`packages/client/src/local-session.ts`: a session over a tracker in the same process.

* `createLocalSession`, `LocalSession.submit`, `LocalSession.reset`, `LocalSession.close`,
  `LocalSession.subscribe`: the session.
* `LocalSession.Tracks`: an open session shows the snapshot of its tracker;
  `createLocalSession_ok`, `Tracks.accepted`, `Tracks.unchanged`: it does when it is created,
  and after every command.
-/

namespace Qaraa.Client

open Fallible

/-- `LocalSessionOptions`. -/
structure LocalSessionOptions where
  corpus : JsValue
  initialLocation : Option QuranLocation
  findingMode : Option String

/-- A session over a tracker of its own, and who listens to it. -/
structure LocalSession where
  tracker : Traced
  snapshot : ReadingSnapshot
  audience : Audience

/-- Creates a tracker and the session over it. -/
def createLocalSession (options : LocalSessionOptions) :
    Except JsError (TrackerConfig × LocalSession) := do
  let corpus ← indexCorpus options.corpus
  let created ← createReadingTracker ⟨corpus, options.initialLocation, options.findingMode⟩
  return (created.1, ⟨⟨created.2, ⟨created.1.defaultInitialLocation, [], false⟩⟩,
    created.2.snapshot, ⟨false, .empty, []⟩⟩)

namespace LocalSession

/-- `publish`: what is no newer than the snapshot held is dropped. -/
def publish (react : Reactions) (session : LocalSession)
    (next : ReadingSnapshot) : LocalSession :=
  if next.revision ≤ session.snapshot.revision then session
  else { session with snapshot := next, audience := session.audience.callAll react next }

/-- A command of the tracker and the publication of what it returns. The promise is
resolved with the snapshot held then. -/
def command (react : Reactions) (config : TrackerConfig)
    (session : LocalSession) (command : TrackerCommand) :
    LocalSession × Except SessionError ReadingSnapshot :=
  if session.audience.closed then (session, .error .closed)
  else
    match applyCommand config session.tracker.state command with
    | .error error => (session, .error (.js error))
    | .ok (next, _) =>
        let moved := { session with tracker := session.tracker.step config command }
        let after := moved.publish react next
        (after, .ok after.snapshot)

/-- `submit`. -/
def submit (react : Reactions) (config : TrackerConfig)
    (session : LocalSession) (observation : JsValue) :
    LocalSession × Except SessionError ReadingSnapshot :=
  session.command react config (.submit observation)

/-- `reset`. -/
def reset (react : Reactions) (config : TrackerConfig)
    (session : LocalSession) (location : Option QuranLocation) :
    LocalSession × Except SessionError ReadingSnapshot :=
  session.command react config (.reset location)

/-- The listener is called at once with the snapshot held. -/
def subscribe (react : Reactions) (session : LocalSession) (listener : ℕ) :
    LocalSession × Except SessionError Unit :=
  if session.audience.closed then (session, .error .closed)
  else
    let audience := session.audience.subscribe react session.snapshot listener
    ({ session with audience := audience }, .ok ())

/-- `close`. -/
def close (session : LocalSession) : LocalSession :=
  { session with audience := session.audience.close }

/-- A session nobody listens to shows the snapshot of its tracker. -/
structure Tracks (session : LocalSession) : Prop where
  snapshot : session.snapshot = session.tracker.state.snapshot
  silent : session.audience = ⟨false, .empty, []⟩

lemma Tracks.isOpen {session : LocalSession} (h : session.Tracks) :
    ¬session.audience.closed = true := by
  rw [h.silent]
  decide

/-- A session is created with its tracker. -/
lemma createLocalSession_ok {options : LocalSessionOptions} {config : TrackerConfig}
    {session : LocalSession} (h : createLocalSession options = .ok (config, session)) :
    ∃ tracker : CreatedTracker, tracker.corpus = options.corpus ∧
      tracker.initialLocation = options.initialLocation ∧
      tracker.findingMode = options.findingMode ∧ tracker.config = config ∧
      session.tracker = tracker.run [] ∧ session.Tracks := by
  rw [createLocalSession, bind_eq_ok] at h
  obtain ⟨index, hindex, h⟩ := h
  rw [bind_eq_ok] at h
  obtain ⟨created, hcreated, h⟩ := h
  cases pure_eq_ok.mp h
  exact ⟨⟨options.corpus, index, options.initialLocation, options.findingMode, created.1,
    created.2, hindex, hcreated⟩, rfl, rfl, rfl, rfl, rfl, rfl, rfl⟩

/-- A command that moves the tracker on. -/
lemma Tracks.accepted {session : LocalSession} (h : session.Tracks)
    (react : Reactions) {config : TrackerConfig} {command : TrackerCommand}
    {next : TrackerState}
    (hcommand : applyCommand config session.tracker.state command = .ok (next.snapshot, next))
    (hnewer : session.tracker.state.snapshot.revision < next.snapshot.revision) :
    (session.command react config command).1.Tracks ∧
      (session.command react config command).1.tracker = session.tracker.step config command ∧
      (session.command react config command).2 = .ok next.snapshot := by
  have hstate : (session.tracker.step config command).state = next := by
    rw [Traced.step, stepTracker, hcommand]
  have hpublish : ∀ tracker : Traced, ({ session with tracker := tracker } : LocalSession).publish
      react next.snapshot = { session with tracker := tracker, snapshot := next.snapshot } := by
    intro tracker
    have haudience : session.audience.callAll react next.snapshot = session.audience := by
      rw [h.silent]
      rfl
    rw [publish, if_neg (by rw [h.snapshot]; omega)]
    dsimp only
    rw [haudience]
  rw [LocalSession.command, if_neg h.isOpen, hcommand]
  dsimp only
  rw [hpublish]
  exact ⟨⟨by dsimp only; rw [hstate], h.silent⟩, rfl, rfl⟩

/-- A command that changes nothing is answered with the snapshot held. -/
lemma Tracks.unchanged {session : LocalSession} (h : session.Tracks)
    (react : Reactions) {config : TrackerConfig} {command : TrackerCommand}
    (hcommand : applyCommand config session.tracker.state command
      = .ok (session.tracker.state.snapshot, session.tracker.state))
    (hstep : session.tracker.step config command = session.tracker) :
    session.command react config command = (session, .ok session.snapshot) := by
  rw [LocalSession.command, if_neg h.isOpen, hcommand]
  dsimp only
  rw [hstep, publish, if_pos (le_of_eq (by rw [h.snapshot]))]

end LocalSession

end Qaraa.Client
