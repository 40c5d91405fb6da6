import Qaraa.Server.DomainErrors
import Qaraa.Library.OneByOne
import Qaraa.Library.QueueInvariant

/-!
`packages/server/src/session-service.ts`: the lifecycle of reading sessions.

The operations of a session are chained promises, so a service is a keyed queue. An
operation is cut at its awaits: a `Frame` is what it has computed so far, an `Answer` what
the store, the corpus resolver and the listeners contribute until the next await.

* `SessionRecord`, `SessionRuntime`, `SessionSlot`: what the service and its store hold
  for one session id.
* `update`: what a store makes of a record, committed, refused or failed half-way.
* `publish`, `replay`: the two ways snapshots reach a subscriber.
* `program`: the operations, segment by segment.
* `Service`, `ServiceAction`, `Service.step`: the service with its capacities.
-/

namespace Qaraa.SessionService

open Fallible Ordered KeyedQueue

/-- The snapshots that are retained. -/
def SNAPSHOT_LIMIT : ℕ := 256

/-- The observation ids that are remembered. -/
def OBSERVATION_ID_LIMIT : ℕ := 512

/-- The sessions, unless the options say otherwise. -/
def DEFAULT_MAX_SESSIONS : ℕ := 1024

/-- The subscribers of all sessions together, unless the options say otherwise. -/
def DEFAULT_MAX_SUBSCRIBERS : ℕ := 4096

/-! ### What is held for a session -/

/-- `SessionRecord`. -/
structure SessionRecord where
  sessionId : String
  corpusId : String
  snapshot : ReadingSnapshot
  snapshots : List ReadingSnapshot
  observationIds : List String
  latestSourceRevision : ℤ
  deriving DecidableEq

/-- The tracker of a live session with the history it has seen, which nothing reads. -/
structure SessionRuntime where
  tracker : Traced
  config : TrackerConfig

/-- `index` tells the subscribers of a session apart. `joined` is the record the
subscription has read; nothing reads it again. -/
structure SessionSubscriber where
  index : ℕ
  requestId : String
  listener : ℕ
  command : SessionResumeCommand
  joined : SessionRecord

/-- A change of a tracker and who asked for it. -/
inductive Applied where
  | reset (caller : ℕ)
  | accepted (caller : ℕ) (observationId : String)
  deriving DecidableEq

/-- All that belongs to one session id: the stored record, the entry of `#sessions`, the
set in `#subscribers` (empty when none is `registered`), and this session's share of the
two counters. `subscriptions` counts the subscribers made, `delivered` are the events listeners
were called with, `applied` the changes of the present tracker; only statements read the
last two. -/
structure SessionSlot where
  record : Option SessionRecord
  runtime : Option SessionRuntime
  registered : Bool
  subscribers : List SessionSubscriber
  subscriberCount : ℤ
  reservedSessions : ℤ
  subscriptions : ℕ
  delivered : List (ℕ × SnapshotUpdatedEvent)
  applied : List Applied

instance : Inhabited SessionSlot := ⟨⟨none, none, false, [], 0, 0, 0, [], []⟩⟩

/-! ### Errors -/

/-- The error of a session that is not there. -/
def sessionNotFound (sessionId : String) : ServiceError :=
  .protocol ⟨.sessionNotFound, "Session was not found", false, .sessionId sessionId⟩

/-- The error of an observation whose source revision is not new. -/
def staleRevision (latestSourceRevision : ℤ) (sourceRevision : ℕ) : ServiceError :=
  .protocol ⟨.staleRevision, "Observation source revision is stale", false,
    .revisions latestSourceRevision sourceRevision⟩

/-- The error of a full service. -/
def capacityExhausted (resource : String) (limit : ℕ) : ServiceError :=
  .protocol ⟨.internalError,
    if resource = "sessions" then "Session capacity is exhausted"
    else "Subscriber capacity is exhausted", true, .capacity resource limit⟩

/-! ### Answers -/

/-- What a store does with an operation: it commits it, refuses it, or rejects it after
`mutate` has run. -/
inductive StoreVerdict where
  | committed
  | refused
  | failed
  deriving DecidableEq

/-- What an operation is given until its next await. `leaves` says which subscribers of the
session leave during a call of a listener, and `throws` whether the call then throws: the
subscriber and the snapshot it is called with. `full` says whether the subscriber capacity
is exhausted; the service sets it. -/
structure Answer where
  corpus : ResolverAnswer := .rejected
  store : StoreVerdict := .committed
  leaves : ℕ → ReadingSnapshot → List ℕ := fun _ _ => []
  throws : ℕ → ReadingSnapshot → Bool := fun _ _ => false
  full : Bool := false

/-! ### Parts of the operations -/

/-- The last `limit` items of a list, `slice(-limit)`. -/
def sliceLast {α : Type} (limit : ℕ) (items : List α) : List α := items.drop (items.length - limit)

/-- The record after a snapshot, as `reset` and `submit` both extend it. -/
def SessionRecord.extend (record : SessionRecord) (snapshot : ReadingSnapshot)
    (observationIds : List String) (latestSourceRevision : ℤ) : SessionRecord :=
  { record with
    snapshot := snapshot
    snapshots := sliceLast SNAPSHOT_LIMIT (record.snapshots ++ [snapshot])
    observationIds := observationIds
    latestSourceRevision := latestSourceRevision }

namespace SessionSlot

/-- `#releaseSubscriber`. -/
def releaseSubscriber (slot : SessionSlot) (index : ℕ) : SessionSlot :=
  if slot.subscribers.any fun subscriber => subscriber.index == index then
    let active := slot.subscribers.filter fun subscriber => subscriber.index != index
    { slot with
      registered := slot.registered && active.length != 0
      subscribers := active
      subscriberCount := slot.subscriberCount - 1 }
  else slot

/-- `#event`. -/
def event (sessionId requestId : String) (snapshot : ReadingSnapshot) : SnapshotUpdatedEvent :=
  ⟨requestId, sessionId, snapshot⟩

/-- A listener is called, and subscribers leave meanwhile. -/
def deliver (slot : SessionSlot) (sessionId : String) (subscriber : SessionSubscriber)
    (snapshot : ReadingSnapshot) (leaving : List ℕ) : SessionSlot :=
  leaving.foldl releaseSubscriber
    { slot with
      delivered := slot.delivered
        ++ [(subscriber.index, event sessionId subscriber.requestId snapshot)] }

/-- `#publish`: a listener that throws is released. The loop runs over a copy of the set,
so a listener that releases another one does not shorten it; where no set is registered
there is nobody to call. -/
def publish (answer : Answer) (sessionId : String) (snapshot : ReadingSnapshot)
    (slot : SessionSlot) : SessionSlot :=
  let slot := slot.subscribers.foldl (fun slot subscriber =>
    let slot := slot.deliver sessionId subscriber snapshot
      (answer.leaves subscriber.index snapshot)
    if answer.throws subscriber.index snapshot then slot.releaseSubscriber subscriber.index
    else slot) slot
  { slot with registered := slot.registered && slot.subscribers.length != 0 }

/-- The replay of `subscribe`: it ends at the first call that throws. The function with
which the subscriber itself leaves is not made yet. -/
def replay (answer : Answer) (sessionId : String) (subscriber : SessionSubscriber) :
    List ReadingSnapshot → SessionSlot → SessionSlot × Bool
  | [], slot => (slot, true)
  | snapshot :: rest, slot =>
      if snapshot.revision ≤ subscriber.command.lastSnapshotRevision then
        replay answer sessionId subscriber rest slot
      else
        let slot := slot.deliver sessionId subscriber snapshot
          ((answer.leaves subscriber.index snapshot).filter (· ≠ subscriber.index))
        if answer.throws subscriber.index snapshot then (slot, false)
        else replay answer sessionId subscriber rest slot

end SessionSlot

/-- What `mutate` leaves behind: the record to store and whether the tracker moved, or the
error it throws. -/
abbrev Mutation := SessionSlot × Except ServiceError (SessionRecord × Bool)

/-- `store.update`: `mutate` runs unless the store refuses, its record is stored when the
store commits. -/
def update (verdict : StoreVerdict) (sessionId : String) (mutate : SessionRecord → Mutation)
    (slot : SessionSlot) : Mutation :=
  match slot.record with
  | none => (slot, .error (sessionNotFound sessionId))
  | some current =>
      match verdict with
      | .refused => (slot, .error .rejected)
      | .failed => ((mutate current).1, .error .rejected)
      | .committed =>
          match mutate current with
          | (after, .ok (record, changed)) =>
              ({ after with record := some record }, .ok (record, changed))
          | (after, .error error) => (after, .error error)

/-- The `mutate` callback of `reset`. -/
def resetRecord (caller : ℕ) (command : SessionResetCommand) (runtime : SessionRuntime)
    (slot : SessionSlot) (current : SessionRecord) : Mutation :=
  match reset runtime.config runtime.tracker.state command.location with
  | .error error => (slot, .error (.js error))
  | .ok (resetSnapshot, _) =>
      ({ slot with
          runtime := some ⟨runtime.tracker.step runtime.config (.reset command.location),
            runtime.config⟩
          applied := slot.applied ++ [.reset caller] },
        .ok (current.extend resetSnapshot [] (-1), true))

/-- The `mutate` callback of `submit`. -/
def submitRecord (caller : ℕ) (sessionId : String) (o : CheckedObservation) (slot : SessionSlot)
    (current : SessionRecord) : Mutation :=
  if o.observation.observationId ∈ current.observationIds then (slot, .ok (current, false))
  else if (o.observation.sourceRevision : ℤ) < current.latestSourceRevision then
    (slot, .error (staleRevision current.latestSourceRevision o.observation.sourceRevision))
  else
    match slot.runtime with
    | none => (slot, .error (sessionNotFound sessionId))
    | some runtime =>
        match submit runtime.config runtime.tracker.state o.value with
        | .error error => (slot, .error (.js error))
        | .ok (snapshot, _) =>
            let next : SessionSlot :=
              { slot with
                runtime := some ⟨runtime.tracker.step runtime.config (.submit o.value),
                  runtime.config⟩ }
            if snapshot.revision = runtime.tracker.state.snapshot.revision then
              (next, .ok (current, false))
            else
              ({ next with
                  applied := slot.applied ++ [.accepted caller o.observation.observationId] },
                .ok (current.extend snapshot
                  (sliceLast OBSERVATION_ID_LIMIT
                    (current.observationIds ++ [o.observation.observationId]))
                  o.observation.sourceRevision, true))

/-! ### The operations -/

/-- What an operation has when it awaits. The first frame of an operation is its call. -/
inductive Frame where
  | create (command : SessionCreateCommand)
  | createStore (command : SessionCreateCommand) (runtime : SessionRuntime)
  | createDone (command : SessionCreateCommand) (runtime : SessionRuntime)
  | get (command : SessionGetCommand)
  | getRead (command : SessionGetCommand) (record : Option SessionRecord)
  | reset (caller : ℕ) (command : SessionResetCommand)
  | submit (caller : ℕ) (requestId : String) (o : CheckedObservation)
  /-- `reset` and `submit` after the store has committed. -/
  | publish (requestId : String) (snapshot : ReadingSnapshot) (changed : Bool)
  | resume (command : SessionResumeCommand)
  | resumeRead (command : SessionResumeCommand) (record : Option SessionRecord)
  | subscribe (listener : ℕ) (command : SessionResumeCommand)
  | subscribeRead (listener : ℕ) (command : SessionResumeCommand) (record : Option SessionRecord)
  | delete (command : SessionDeleteCommand)
  | deleteDone (command : SessionDeleteCommand) (deleted : Bool)

/-- What an operation resolves to. -/
inductive Reply where
  | created (event : SessionCreatedEvent)
  | updated (event : SnapshotUpdatedEvent)
  | resumed (events : List SnapshotUpdatedEvent)
  | subscribed (index : ℕ)
  | deleted (event : SessionDeletedEvent)
  deriving DecidableEq

/-- How the promise of an operation settles. -/
abbrev Outcome := Except ServiceError Reply

/-- What happens to a session outside of its operations. -/
inductive Change where
  /-- `#reserveSession`. -/
  | reserve
  /-- A subscriber's own function to leave. -/
  | unsubscribe (index : ℕ)

/-- The options of a service, with its limits. -/
structure ServiceOptions where
  fixedCorpus : Option JsValue
  hasResolver : Bool
  maxSessions : ℕ := DEFAULT_MAX_SESSIONS
  maxSubscribers : ℕ := DEFAULT_MAX_SUBSCRIBERS

/-- The tracker of a new session. -/
def createRuntime (options : ServiceOptions) (command : SessionCreateCommand)
    (answer : ResolverAnswer) : Except ServiceError SessionRuntime := do
  let corpus ← indexedCorpusFor options.fixedCorpus
    (if options.hasResolver then some answer else none) command.corpusId
  failIf (∃ location ∈ command.initialLocation, hasLocation corpus location = false)
    (.protocol (invalidCorpus .domainValidation))
  let created ← (createReadingTracker
    ⟨corpus, command.initialLocation, command.findingMode⟩).mapError .js
  return ⟨⟨created.2, ⟨created.1.defaultInitialLocation, [], false⟩⟩, created.1⟩

/-- The record a session starts with. -/
def SessionRuntime.firstRecord (runtime : SessionRuntime) (sessionId corpusId : String) :
    SessionRecord where
  sessionId := sessionId
  corpusId := corpusId
  snapshot := runtime.tracker.state.snapshot
  snapshots := [runtime.tracker.state.snapshot]
  observationIds := []
  latestSourceRevision := -1

/-- `#releaseSessionReservation`. -/
def SessionSlot.releaseReservation (slot : SessionSlot) : SessionSlot :=
  { slot with reservedSessions := slot.reservedSessions - 1 }

/-- An operation that stops without having changed anything. -/
def rejectWith (slot : SessionSlot) (error : ServiceError) :
    SessionSlot × (Frame ⊕ Outcome) := (slot, .inr (.error error))

/-- A read of the store. -/
def read (answer : Answer) (slot : SessionSlot) (next : Option SessionRecord → Frame) :
    SessionSlot × (Frame ⊕ Outcome) :=
  match answer.store with
  | .committed => (slot, .inl (next slot.record))
  | _ => rejectWith slot .rejected

/-- `reset` and `submit` go on when the store has committed. -/
def settleUpdate (requestId : String) (mutation : Mutation) : SessionSlot × (Frame ⊕ Outcome) :=
  match mutation with
  | (after, .ok (record, changed)) => (after, .inl (.publish requestId record.snapshot changed))
  | (after, .error error) => rejectWith after error

/-- `subscribe` once the record has been read. -/
def addSubscriber (answer : Answer) (sessionId : String) (listener : ℕ)
    (command : SessionResumeCommand) (record : SessionRecord) (slot : SessionSlot) :
    SessionSlot × (Frame ⊕ Outcome) :=
  let subscriber : SessionSubscriber :=
    ⟨slot.subscriptions, command.requestId, listener, command, record⟩
  let added : SessionSlot :=
    { slot with
      registered := true
      subscribers := slot.subscribers ++ [subscriber]
      subscriberCount := slot.subscriberCount + 1
      subscriptions := slot.subscriptions + 1 }
  match added.replay answer sessionId subscriber record.snapshots with
  | (replayed, true) => (replayed, .inr (.ok (.subscribed subscriber.index)))
  | (replayed, false) => rejectWith (replayed.releaseSubscriber subscriber.index) .rejected

/-- An operation up to its next await. -/
def proceed (options : ServiceOptions) (sessionId : String) :
    Frame → Answer → SessionSlot → SessionSlot × (Frame ⊕ Outcome)
  | .create command, answer, slot =>
      match createRuntime options command answer.corpus with
      | .error error => rejectWith slot.releaseReservation error
      | .ok runtime => (slot, .inl (.createStore command runtime))
  | .createStore command runtime, answer, slot =>
      match answer.store with
      | .committed =>
          if slot.record.isSome then
            rejectWith slot.releaseReservation (.recordExists sessionId)
          else
            ({ slot with record := some (runtime.firstRecord sessionId command.corpusId) },
              .inl (.createDone command runtime))
      | _ => rejectWith slot.releaseReservation .rejected
  | .createDone command runtime, _, slot =>
      ({ slot.releaseReservation with runtime := some runtime, applied := [] },
        .inr (.ok (.created
          ⟨command.requestId, sessionId, runtime.tracker.state.snapshot⟩)))
  | .get command, answer, slot => read answer slot (.getRead command)
  | .getRead _ none, _, slot => rejectWith slot (sessionNotFound sessionId)
  | .getRead command (some record), _, slot =>
      (slot, .inr (.ok (.updated
        (SessionSlot.event sessionId command.requestId record.snapshot))))
  | .reset caller command, answer, slot =>
      match slot.runtime with
      | none => rejectWith slot (sessionNotFound sessionId)
      | some runtime =>
          if ∃ location ∈ command.location, hasLocation runtime.config.corpus location = false then
            rejectWith slot (.protocol (invalidCorpus .domainValidation))
          else
            settleUpdate command.requestId
              (update answer.store sessionId (resetRecord caller command runtime slot) slot)
  | .submit caller requestId o, answer, slot =>
      settleUpdate requestId
        (update answer.store sessionId (submitRecord caller sessionId o slot) slot)
  | .publish requestId snapshot changed, answer, slot =>
      (if changed then slot.publish answer sessionId snapshot else slot,
        .inr (.ok (.updated (SessionSlot.event sessionId requestId snapshot))))
  | .resume command, answer, slot => read answer slot (.resumeRead command)
  | .resumeRead _ none, _, slot => rejectWith slot (sessionNotFound sessionId)
  | .resumeRead command (some record), _, slot =>
      (slot, .inr (.ok (.resumed ((record.snapshots.filter fun snapshot =>
        command.lastSnapshotRevision < snapshot.revision).map
          (SessionSlot.event sessionId command.requestId)))))
  | .subscribe listener command, answer, slot => read answer slot (.subscribeRead listener command)
  | .subscribeRead _ _ none, _, slot => rejectWith slot (sessionNotFound sessionId)
  | .subscribeRead listener command (some record), answer, slot =>
      if answer.full then
        rejectWith slot (capacityExhausted "subscribers" options.maxSubscribers)
      else addSubscriber answer sessionId listener command record slot
  | .delete command, answer, slot =>
      match answer.store with
      | .committed =>
          ({ slot with record := none }, .inl (.deleteDone command slot.record.isSome))
      | _ => rejectWith slot .rejected
  | .deleteDone _ false, _, slot => rejectWith slot (sessionNotFound sessionId)
  | .deleteDone command true, _, slot =>
      ({ slot with
          runtime := none
          registered := false
          subscriberCount := slot.subscriberCount - slot.subscribers.length
          subscribers := [] },
        .inr (.ok (.deleted ⟨command.requestId, sessionId⟩)))

/-- The operations of a service, one key for each session id. -/
def program (options : ServiceOptions) :
    Program String SessionSlot Frame Answer Outcome Change where
  resume := proceed options
  touch _ change slot :=
    match change with
    | .reserve => { slot with reservedSessions := slot.reservedSessions + 1 }
    | .unsubscribe index => slot.releaseSubscriber index

/-! ### The service -/

/-- The service: a queue of operations for each session, and what is shared there. -/
abbrev Service := State String SessionSlot Frame Outcome

namespace Service

/-- `#sessions.size`. -/
def sessionCount (s : Service) : ℕ :=
  (s.slots.values.filter fun slot => slot.runtime.isSome).length

/-- `#reservedSessions`. -/
def reservedSessions (s : Service) : ℤ :=
  (s.slots.values.map SessionSlot.reservedSessions).sum

/-- `#subscriberCount`. -/
def subscriberCount (s : Service) : ℤ :=
  (s.slots.values.map SessionSlot.subscriberCount).sum

end Service

/-- What can happen at a service: its methods are called, its operations go on, a
subscriber leaves. `create` comes with the id `#createSessionId` has made, `reset` and
`submit` with a number for the caller. -/
inductive ServiceAction where
  | create (sessionId : String) (command : SessionCreateCommand)
  | get (command : SessionGetCommand)
  | reset (caller : ℕ) (command : SessionResetCommand)
  | submit (caller : ℕ) (command : ObservationSubmitCommand)
  | resume (command : SessionResumeCommand)
  | subscribe (listener : ℕ) (command : SessionResumeCommand)
  | delete (command : SessionDeleteCommand)
  | unsubscribe (sessionId : String) (index : ℕ)
  | start (ticket : ℕ)
  | proceed (ticket : ℕ) (answer : Answer)
  | drain (ticket : ℕ)
  | clean (ticket : ℕ)

namespace Service

/-- The error a call is answered with at once. -/
def refusal (options : ServiceOptions) (s : Service) : ServiceAction → Option ServiceError
  | .create _ _ =>
      if (options.maxSessions : ℤ) ≤ s.sessionCount + s.reservedSessions then
        some (capacityExhausted "sessions" options.maxSessions)
      else none
  | .submit _ command =>
      match admitObservation command with
      | .error error => some error
      | .ok _ => none
  | _ => none

/-- An answer with the subscriber capacity as it stands. -/
def answering (options : ServiceOptions) (s : Service) (answer : Answer) : Answer :=
  { answer with full := decide ((options.maxSubscribers : ℤ) ≤ s.subscriberCount) }

/-- What an action is for the queue. -/
def queueActions (options : ServiceOptions) (s : Service) (action : ServiceAction) :
    List (Action String Frame Answer Change) :=
  if (s.refusal options action).isSome then []
  else
    match action with
    | .create sessionId command =>
        [.touch sessionId .reserve, .call sessionId (.create command)]
    | .get command => [.call command.sessionId (.get command)]
    | .reset caller command => [.call command.sessionId (.reset caller command)]
    | .submit caller command =>
        match admitObservation command with
        | .ok o => [.call command.sessionId (.submit caller command.requestId o)]
        | .error _ => []
    | .resume command => [.call command.sessionId (.resume command)]
    | .subscribe listener command => [.call command.sessionId (.subscribe listener command)]
    | .delete command => [.call command.sessionId (.delete command)]
    | .unsubscribe sessionId index => [.touch sessionId (.unsubscribe index)]
    | .start ticket => [.start ticket]
    | .proceed ticket answer => [.resume ticket (s.answering options answer)]
    | .drain ticket => [.drain ticket]
    | .clean ticket => [.clean ticket]

/-- What happens next. -/
def step (options : ServiceOptions) (s : Service) (action : ServiceAction) : Service :=
  s.run (program options) (s.queueActions options action)

/-- A run of the service. -/
def run (options : ServiceOptions) (s : Service) (actions : List ServiceAction) : Service :=
  actions.foldl (step options) s

/-- An operation that goes on. -/
lemma step_proceed (options : ServiceOptions) {s : Service} {ticket : ℕ} {sessionId : String}
    {call frame : Frame} {previous : Option ℕ}
    (hentry : s.entries[ticket]? = some ⟨sessionId, call, previous, .running frame⟩)
    (answer : Answer) :
    (s.step options (.proceed ticket answer)).slot sessionId
        = (proceed options sessionId frame (s.answering options answer) (s.slot sessionId)).1 ∧
      (s.step options (.proceed ticket answer)).entries[ticket]?
        = some ⟨sessionId, call, previous, .after
          (proceed options sessionId frame (s.answering options answer) (s.slot sessionId)).2⟩ :=
  State.step_resume (program options) hentry (s.answering options answer)

end Service

end Qaraa.SessionService
