import Qaraa.Core.ReadingTracker
import Qaraa.Library.Newest

/-!
`packages/client/src/adapter-controller.ts`: the lifecycle boundary between a session and the
framework adapters.

* `SessionSide`: the session as the controller knows it: `subscribe` delivers the snapshot held
  at once, `publish` whatever is published to the active subscriptions, and what is held only
  advances, as in both sessions of the package.
* `AdapterController`: the variables of `createAdapterController`, with the microtasks it has
  queued and the actions it has started.
* `acceptSnapshot`, `connect`, `dispose`, `action`, `settle`, `close`, `runMicrotask`: its
  functions, each up to the point where it waits.
* `AdapterEvent`, `AdapterController.step`, `AdapterController.run`: every interleaving of calls,
  publications, settlements and microtasks. The listeners of the state are called last in each
  function, so what they call comes as a later event.
-/

namespace Qaraa.Client

open Newest

/-- `QaraaStatus`. -/
inductive QaraaStatus where
  | idle
  | ready
  | submitting
  | closed
  deriving DecidableEq

/-- The message of the error is all that is kept of it. -/
structure QaraaState where
  snapshot : ReadingSnapshot
  status : QaraaStatus
  error : Option String
  deriving DecidableEq

/-- What a promise is rejected with: an `Error` or any other value, shown by `String`. -/
inductive Rejection where
  | error (message : String)
  | other (shown : String)

/-- The message of the `Error` that is passed on. -/
def asError : Rejection → String
  | .error message => message
  | .other shown => shown

/-! ### The session -/

/-- A session as the controller knows it. -/
structure SessionSide where
  current : ReadingSnapshot
  /-- The subscriptions that have not been released, by number. -/
  active : List ℕ
  subscribeCount : ℕ
  unsubscribeCount : ℕ
  closeCount : ℕ

namespace SessionSide

/-- `subscribe`: each call gets an unsubscribe function of its own. -/
def subscribe (session : SessionSide) : SessionSide :=
  { session with
    active := session.active ++ [session.subscribeCount]
    subscribeCount := session.subscribeCount + 1 }

/-- An unsubscribe function; the second call of one does nothing. -/
def unsubscribe (session : SessionSide) (subscription : ℕ) : SessionSide :=
  if subscription ∈ session.active then
    { session with
      active := session.active.erase subscription
      unsubscribeCount := session.unsubscribeCount + 1 }
  else session

/-- What is held only advances. -/
def hold (session : SessionSide) (next : ReadingSnapshot) : SessionSide :=
  { session with current := keepNewer ReadingSnapshot.revision session.current next }

/-- `close`, which the session only counts. -/
def close (session : SessionSide) : SessionSide :=
  { session with closeCount := session.closeCount + 1 }

end SessionSide

/-! ### The controller -/

/-- The microtasks the controller queues. -/
inductive Microtask where
  /-- The callback of `acceptSnapshot`. -/
  | accept (next : ReadingSnapshot) (acceptedAt : ℕ)
  /-- `close` after `await dispose()`. -/
  | closeSession

/-- How far `close` has come. -/
inductive ClosePromise where
  | disposing
  | closing
  | settled (failure : Option String)

/-- A started `submit` or `reset`, with what its promise has been settled with. -/
structure Action where
  command : JsValue ⊕ Option QuranLocation
  outcome : Option (Except String ReadingSnapshot)

/-- The variables of a controller, with the microtasks and actions it has started and the session it
is given. -/
structure AdapterController where
  state : QaraaState
  unsubscribe : Option ℕ
  closed : Bool
  lifecycleRevision : ℕ
  closePromise : Option ClosePromise
  microtasks : List Microtask
  actions : List Action
  session : SessionSide

/-- `createAdapterController`, for a session that holds the snapshot. -/
def createAdapterController (snapshot : ReadingSnapshot) : AdapterController where
  state := ⟨snapshot, .idle, none⟩
  unsubscribe := none
  closed := false
  lifecycleRevision := 0
  closePromise := none
  microtasks := []
  actions := []
  session := ⟨snapshot, [], 0, 0, 0⟩

namespace AdapterController

/-- `setState`, without the state's own listeners. -/
def setState (controller : AdapterController) (next : QaraaState) : AdapterController :=
  { controller with state := next }

/-- The listener the controller subscribes: the snapshot is applied in a microtask. -/
def acceptSnapshot (controller : AdapterController) (next : ReadingSnapshot) :
    AdapterController :=
  if next.revision ≤ controller.state.snapshot.revision then controller
  else
    { controller with
      microtasks := controller.microtasks ++ [.accept next controller.lifecycleRevision] }

/-- The callback of `acceptSnapshot`. -/
def applySnapshot (controller : AdapterController) (next : ReadingSnapshot) (acceptedAt : ℕ) :
    AdapterController :=
  if controller.closed = true ∨ acceptedAt ≠ controller.lifecycleRevision
      ∨ next.revision ≤ controller.state.snapshot.revision then controller
  else controller.setState { controller.state with snapshot := next, status := .ready }

/-- `connect`. -/
def connect (controller : AdapterController) : AdapterController :=
  if controller.closed = true ∨ controller.unsubscribe.isSome = true then controller
  else
    let subscription := controller.session.subscribeCount
    -- the session calls the listener before `subscribe` returns
    let subscribed := { controller with session := controller.session.subscribe }.acceptSnapshot
      controller.session.current
    let connected := { subscribed with unsubscribe := some subscription }
    connected.setState { connected.state with status := .ready }

/-- `dispose`, up to its promise. -/
def dispose (controller : AdapterController) : AdapterController :=
  { controller with
    lifecycleRevision := controller.lifecycleRevision + 1
    unsubscribe := none
    session := match controller.unsubscribe with
      | none => controller.session
      | some subscription => controller.session.unsubscribe subscription }

/-- `action`, up to the call of the session. -/
def action (controller : AdapterController) (command : JsValue ⊕ Option QuranLocation) :
    AdapterController :=
  if controller.closed then
    { controller with
      actions := controller.actions ++ [⟨command, some (.error "QARAA session is closed")⟩] }
  else
    let started :=
      controller.setState { controller.state with status := .submitting, error := none }
    { started with actions := controller.actions ++ [⟨command, none⟩] }

/-- `submit`. -/
def submit (controller : AdapterController) (observation : JsValue) : AdapterController :=
  controller.action (.inl observation)

/-- `reset`. -/
def reset (controller : AdapterController) (location : Option QuranLocation) :
    AdapterController :=
  controller.action (.inr location)

/-- The rest of `action`, when the session's promise is settled. -/
def settle (controller : AdapterController) (index : ℕ)
    (outcome : Except Rejection ReadingSnapshot) : AdapterController :=
  match controller.actions[index]? with
  | some ⟨command, none⟩ =>
      let settled : Except String ReadingSnapshot := outcome.mapError asError
      let answered := { controller with
        actions := controller.actions.set index ⟨command, some settled⟩ }
      if answered.closed then answered
      else
        answered.setState { answered.state with
          status := .ready
          error := match settled with
            | .ok _ => none
            | .error normalized => some normalized }
  | _ => controller

/-- `close`, up to `await dispose()`; every later call returns the same promise. -/
def close (controller : AdapterController) : AdapterController :=
  match controller.closePromise with
  | some _ => controller
  | none =>
      let disposed := { controller with closed := true }.dispose
      { disposed with
        closePromise := some .disposing
        microtasks := disposed.microtasks ++ [.closeSession] }

/-- The rest of `close`, when the session's promise is settled. -/
def finishClose (controller : AdapterController) (failure : Option Rejection) :
    AdapterController :=
  match controller.closePromise with
  | some .closing =>
      { controller with closePromise := some (.settled (failure.map asError)) }.setState
        { controller.state with status := .closed }
  | _ => controller

/-- The microtask that has waited longest. -/
def runMicrotask (controller : AdapterController) : AdapterController :=
  match controller.microtasks with
  | [] => controller
  | .accept next acceptedAt :: rest =>
      { controller with microtasks := rest }.applySnapshot next acceptedAt
  | .closeSession :: rest =>
      { controller with
        microtasks := rest
        closePromise := some .closing
        session := controller.session.close }

/-- The session publishes: what it holds advances, and its listeners are called. -/
def publish (controller : AdapterController) (next : ReadingSnapshot) : AdapterController :=
  controller.session.active.foldl (fun controller _ => controller.acceptSnapshot next)
    { controller with session := controller.session.hold next }

end AdapterController

/-! ### Runs -/

/-- What happens next, in any order. -/
inductive AdapterEvent where
  | connect
  | dispose
  | close
  | submit (observation : JsValue)
  | reset (location : Option QuranLocation)
  | publish (next : ReadingSnapshot)
  | microtask
  /-- The session settles an action. -/
  | settle (index : ℕ) (outcome : Except Rejection ReadingSnapshot)
  /-- The session settles its `close`. -/
  | sessionClosed (failure : Option Rejection)

namespace AdapterController

/-- What happens next. -/
def step (controller : AdapterController) : AdapterEvent → AdapterController
  | .connect => controller.connect
  | .dispose => controller.dispose
  | .close => controller.close
  | .submit observation => controller.submit observation
  | .reset location => controller.reset location
  | .publish next => controller.publish next
  | .microtask => controller.runMicrotask
  | .settle index outcome => controller.settle index outcome
  | .sessionClosed failure => controller.finishClose failure

/-- A run of the controller. -/
def run (controller : AdapterController) (events : List AdapterEvent) : AdapterController :=
  events.foldl step controller

lemma run_concat (controller : AdapterController) (events : List AdapterEvent)
    (event : AdapterEvent) :
    controller.run (events ++ [event]) = (controller.run events).step event :=
  List.foldl_append

end AdapterController

end Qaraa.Client
