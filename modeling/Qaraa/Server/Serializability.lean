import Qaraa.Server.SessionService
import Qaraa.Core.SampleCorpus

/-!
Every run of a session service serves each session one call after the other.

* `Service.trace`: the queue actions of a run; `Service.run_eq`: the run of the service is
  the run of its queue.
* `Service.callsOn`, `Service.itemsOn`: the calls made on a session, and the answers and
  changes that reached it.
* `sessions_serializable`: **the promises and the state of a session are those of its calls
  made one at a time**, and no call starts before the earlier ones have settled.
* `recreation_refused`: what the calls of other moments decide is the capacity alone.
-/

namespace Qaraa.SessionService

open KeyedQueue Ordered

namespace Service

variable (options : ServiceOptions)

/-- The queue actions of a run. -/
def trace (s : Service) : List ServiceAction → List (Action String Frame Answer Change)
  | [] => []
  | action :: rest => s.queueActions options action ++ trace (s.step options action) rest

/-- The run of the service is the run of its queue. -/
lemma run_eq (s : Service) (actions : List ServiceAction) :
    s.run options actions = State.run (program options) s (s.trace options actions) := by
  induction actions generalizing s with
  | nil => rfl
  | cons action rest ih =>
      rw [trace, State.run, List.foldl_append]
      exact ih (s.step options action)

/-- What happens at a session in a run of a new service. -/
def historyOn (sessionId : String) (actions : List ServiceAction) :
    List (Event Frame Answer Change) :=
  State.empty.history (program options) sessionId (trace options State.empty actions)

/-- The calls made on a session, in order. -/
def callsOn (sessionId : String) (actions : List ServiceAction) : List Frame :=
  (historyOn options sessionId actions).filterMap Event.called?

/-- The answers and changes that reached a session, in order. -/
def itemsOn (sessionId : String) (actions : List ServiceAction) : List (Answer ⊕ Change) :=
  (historyOn options sessionId actions).filterMap Event.item?

end Service

/-- **Each session is served one call after the other.** Over any run of a service, of the
calls made on a session the first ones have started, each later one only when the earlier
ones have settled; and with the answers, changes and capacity verdicts they have met, these
calls made one at a time come to the same promises, stored record, tracker, subscribers
and published events. -/
theorem sessions_serializable (options : ServiceOptions) (actions : List ServiceAction)
    (sessionId : String) :
    ∃ (before : List Change) (calls : List (Call Frame Answer Change))
      (started waiting : List (Ticketed String Frame Outcome)),
      let s := Service.run options State.empty actions
      let serial := oneByOne (program options) sessionId before calls
      (s.at sessionId).queue = started ++ waiting ∧
      ((s.at sessionId).queue.Pairwise fun y z => z.Started → y.Drained) ∧
      (∀ y ∈ waiting, y.2.phase = .waiting) ∧
      (s.at sessionId).queue.map (fun y => y.2.call) = Service.callsOn options sessionId actions ∧
      calls.map Call.frame = started.map (fun y => y.2.call) ∧
      before.map Sum.inr ++ calls.flatMap Call.items = Service.itemsOn options sessionId actions ∧
      serial.slot sessionId = s.slot sessionId ∧
      (serial.at sessionId).queue.map (fun y => (y.2.call, y.2.phase.reached))
        = started.map fun y => (y.2.call, y.2.phase.reached) := by
  have horderly := orderly_run (program options) (Service.trace options State.empty actions)
    sessionId
  obtain ⟨before, calls, started, waiting, h⟩ := serializable (program options)
    (Service.trace options State.empty actions) sessionId
  obtain ⟨hslot, hpromises⟩ := h.oneByOne horderly
  refine ⟨before, calls, started, waiting, ?_⟩
  dsimp only
  rw [Service.run_eq]
  exact ⟨h.split, horderly.turns, h.stillWaits, h.called, h.frames, h.items, hslot, hpromises⟩

/-! ### Capacities -/

/-- A service for one session of the five symbols. -/
def singleOptions : ServiceOptions := ⟨some (sampleCorpus 5), false, 1, 1⟩

/-- Session `A` is created. -/
def createSample : ServiceAction := .create "A" ⟨"r", "sample", none, none⟩

/-- Session `A` is deleted. -/
def deleteSample : ServiceAction := .delete ⟨"r", "A"⟩

/-- An operation on the session that is served in `segments` segments. -/
def serveSample (ticket segments : ℕ) : List ServiceAction :=
  .start ticket :: List.replicate segments (.proceed ticket {}) ++ [.drain ticket, .clean ticket]

/-- The session is created, deleted and created again, the last call made while the deletion
is under way. -/
def overlapping : List ServiceAction :=
  [createSample] ++ serveSample 0 3 ++ [deleteSample, createSample] ++ serveSample 1 2
    ++ serveSample 2 3

/-- The same calls, each made when the one before it has settled. -/
def oneAfterAnother : List ServiceAction :=
  [createSample] ++ serveSample 0 3 ++ [deleteSample] ++ serveSample 1 2 ++ [createSample]
    ++ serveSample 2 3

/-- Capacity is decided when `create` is called: the calls that are refused for lack of it
when they overlap are carried out when they do not. -/
theorem recreation_refused :
    ((Service.run singleOptions State.empty overlapping).slot "A").record.isSome = false ∧
    ((Service.run singleOptions State.empty oneAfterAnother).slot "A").record.isSome = true := by
  decide +kernel

end Qaraa.SessionService
