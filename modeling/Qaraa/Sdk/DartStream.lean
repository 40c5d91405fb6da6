import Qaraa.Sdk.DartModels

/-!
`sdk/dart/lib/src/snapshot_stream.dart`: the snapshot stream of the Dart client, a run loop
that connects again and again while the broadcast controller has a listener.

* `Place`, `RunLoop`, `Channel`, `QaraaSnapshotStream`: where a run loop waits, the channels
  the connector has returned, and the fields of the stream.
* `QaraaSnapshotStream.start`, `finish`, `caught`, `dropped`, `next`, `connected`, `read`: the
  parts of `_start` between its waits; `pause`, `close`, `waitForRetry`: the other functions.
* `StreamAction`, `QaraaSnapshotStream.step`, `run`: what happens next, and the runs.
-/

namespace Qaraa.Sdk.Dart

/-- A snapshot, with all that the stream does not look at. -/
structure StreamSnapshot (Body : Type) where
  revision : ℕ
  body : Body
  deriving DecidableEq

/-- What `decodeEvent` makes of a message. -/
inductive StreamMessage (Body : Type) where
  /-- It throws. -/
  | undecodable (terminal : Bool)
  | updated (sessionId : String) (snapshot : StreamSnapshot Body)
  /-- Any other event. -/
  | other

/-- An error that a run loop catches. A thrown error is terminal when it is a `QaraaException`
or a `QaraaTransportException` about the size limit. -/
inductive StreamError where
  /-- `WebSocket reconnect limit exhausted`. -/
  | reconnectLimit
  | thrown (terminal : Bool)
  deriving DecidableEq

/-- Where a run loop waits. -/
inductive Place where
  /-- At the top of the loop. It waits for nothing here; that others may come in between only
  adds runs. -/
  | starting
  | connecting
  /-- For the stale channel to close. -/
  | refusing
  | readying (channel : ℕ)
  | reading (channel : ℕ)
  /-- For the subscription to be cancelled, after a `break` or an error, terminal or not. -/
  | leaving (channel : ℕ) (terminal : Option Bool)
  /-- In `_waitForRetry`, for the delay or for the completer with this number. -/
  | waiting (signal : ℕ)
  /-- For `close()`. -/
  | closing
  deriving DecidableEq

/-- An execution of `_start`. `stopped` tells whether the stream was cancelled or closed since
it began; only statements read it. -/
structure RunLoop where
  runGeneration : ℕ
  attempt : ℕ
  place : Place
  stopped : Bool

/-- A channel. `closing` tells whether `sink.close` was called, `ended` whether the connection
has failed or ended, `read` whether its messages were listened to, and `late` whether the
stream was cancelled or closed while the connector was connecting it. -/
structure Channel where
  closing : Bool
  ended : Bool
  read : Bool
  late : Bool

namespace Channel

/-- `sink.close`. -/
def close (c : Channel) : Channel := { c with closing := true }

/-- The connection fails or ends. -/
def lose (c : Channel) : Channel := { c with ended := true }

/-- `stream` is listened to. -/
def listen (c : Channel) : Channel := { c with read := true }

end Channel

/-- What becomes of the connections of a run loop while it may go on. -/
inductive Happening where
  | started
  | opened
  /-- A newer snapshot of the session. -/
  | delivered
  | dropped
  /-- An error that is not terminal. -/
  | failed
  deriving DecidableEq

/-- What a stream is created with. -/
structure StreamOptions where
  session : String
  revision : ℕ
  safe : revision ≤ maxSafeInteger

/-- The fields of the stream, with `client.isClosed`, the listeners of the controller and what
it was given, the run loops and the channels. `wakeSignal` numbers the completers. Only
statements read `history`. -/
structure QaraaSnapshotStream (Body : Type) where
  revision : ℕ
  socket : Option ℕ
  closed : Bool
  running : Bool
  restartRequested : Bool
  generation : ℕ
  wakeSignal : ℕ
  listeners : ℕ
  clientClosed : Bool
  loops : List RunLoop
  channels : List Channel
  emitted : List (StreamSnapshot Body)
  errors : List StreamError
  history : List Happening

/-- What a run loop goes on with. -/
inductive Resumption (Body : Type) where
  /-- What it waits for has happened. -/
  | completed
  /-- The connector returns a channel. -/
  | connected
  /-- What it waits for has failed. -/
  | failed (terminal : Bool)
  | message (message : StreamMessage Body)
  /-- The channel has no more messages. -/
  | ended
  /-- The completer it waits for was completed. -/
  | woken

/-- What can happen: what listeners and clients do, and what a run loop waits for. -/
inductive StreamAction (Body : Type) where
  | listen
  | cancel
  | close
  | closeClient
  | resume (i : ℕ) (event : Resumption Body)

/-- `const delays`. -/
def delays : List ℕ := [100, 250, 500, 1000, 2000]

namespace StreamError

/-- `terminal`. -/
def isTerminal : StreamError → Bool
  | .reconnectLimit => false
  | .thrown terminal => terminal

/-- What becomes of the connection with the error. -/
def happening : StreamError → List Happening
  | .thrown false => [.failed]
  | _ => []

end StreamError

namespace QaraaSnapshotStream

variable {Body : Type}

/-- The constructor. -/
def create (options : StreamOptions) : QaraaSnapshotStream Body where
  revision := options.revision
  socket := none
  closed := false
  running := false
  restartRequested := false
  generation := 0
  wakeSignal := 0
  listeners := 0
  clientClosed := false
  loops := []
  channels := []
  emitted := []
  errors := []
  history := []

/-- `controller.hasListener`. -/
def hasListener (s : QaraaSnapshotStream Body) : Bool := 0 < s.listeners

/-- What a run loop goes on under. -/
def isLive (s : QaraaSnapshotStream Body) (loop : RunLoop) : Bool :=
  !s.closed && s.hasListener && !s.clientClosed && loop.runGeneration == s.generation

/-- A run loop waits somewhere else. -/
def setPlace (s : QaraaSnapshotStream Body) (i : ℕ) (place : Place) : QaraaSnapshotStream Body :=
  { s with loops := s.loops.modify i fun loop => { loop with place := place } }

/-- Something happens to a channel. -/
def mark (s : QaraaSnapshotStream Body) (channel : ℕ) (f : Channel → Channel) :
    QaraaSnapshotStream Body :=
  { s with channels := s.channels.modify channel f }

/-- What becomes of a run loop counts while it may go on. -/
def record (s : QaraaSnapshotStream Body) (loop : RunLoop) (happenings : List Happening) :
    QaraaSnapshotStream Body :=
  { s with history := s.history ++ if s.isLive loop then happenings else [] }

/-- `socket = null`, after something that ends a connection. -/
def free (s : QaraaSnapshotStream Body) (loop : RunLoop) (happenings : List Happening) :
    QaraaSnapshotStream Body :=
  { s.record loop happenings with socket := none }

/-- `controller.addError`. -/
def addError (s : QaraaSnapshotStream Body) (error : StreamError) : QaraaSnapshotStream Body :=
  { s with errors := s.errors ++ [error] }

/-- `_start`, up to its loop. -/
def start (s : QaraaSnapshotStream Body) : QaraaSnapshotStream Body :=
  if s.closed then s
  else if s.running then { s with restartRequested := true }
  else
    { s with
      running := true
      generation := s.generation + 1
      loops := s.loops ++ [⟨s.generation + 1, 0, .starting, false⟩]
      history := s.history ++ [.started] }

/-- The `finally` clause of `_start`. -/
def finish (s : QaraaSnapshotStream Body) (i : ℕ) : QaraaSnapshotStream Body :=
  let ended := { s with running := false, loops := s.loops.eraseIdx i }
  if s.restartRequested && !s.closed && s.hasListener then
    { ended with restartRequested := false }.start
  else ended

/-- What `_pause` and `close` have in common: the generation, `_wake` and the socket. -/
def halt (s : QaraaSnapshotStream Body) : QaraaSnapshotStream Body :=
  let stopped :=
    { s with
      generation := s.generation + 1
      wakeSignal := s.wakeSignal + 1
      socket := none
      loops := s.loops.map fun loop => { loop with stopped := true } }
  match s.socket with
  | none => stopped
  | some channel => stopped.mark channel Channel.close

/-- `_pause`. -/
def pause (s : QaraaSnapshotStream Body) : QaraaSnapshotStream Body :=
  if s.hasListener then s else s.halt

/-- `close`, up to its first wait. -/
def close (s : QaraaSnapshotStream Body) : QaraaSnapshotStream Body :=
  if s.closed then s else { s with closed := true }.halt

/-- `_waitForRetry(delays[attempt++], runGeneration)`. -/
def waitForRetry (s : QaraaSnapshotStream Body) (i : ℕ) : QaraaSnapshotStream Body :=
  { s with
    loops := s.loops.modify i fun loop =>
      { loop with attempt := loop.attempt + 1, place := .waiting s.wakeSignal } }

/-- The `catch` clause. -/
def caught (s : QaraaSnapshotStream Body) (i : ℕ) (loop : RunLoop) (error : StreamError) :
    QaraaSnapshotStream Body :=
  let freed := s.free loop error.happening
  if s.closed || s.clientClosed || loop.runGeneration != s.generation then freed.finish i
  else if error.isTerminal || delays.length ≤ loop.attempt then
    (freed.addError error).close.setPlace i .closing
  else freed.waitForRetry i

/-- After the `await for`. -/
def dropped (s : QaraaSnapshotStream Body) (i : ℕ) (loop : RunLoop) : QaraaSnapshotStream Body :=
  let freed := s.free loop [.dropped]
  if delays.length ≤ loop.attempt then freed.caught i loop .reconnectLimit
  else freed.waitForRetry i

/-- The top of the loop, up to `client.connector`. -/
def next (options : StreamOptions) (s : QaraaSnapshotStream Body) (i : ℕ) (loop : RunLoop) :
    QaraaSnapshotStream Body :=
  if s.isLive loop then
    -- `client.endpoint` throws
    if trimIsEmpty options.session then s.caught i loop (.thrown false)
    else s.setPlace i .connecting
  else s.finish i

/-- `socket = candidate`. -/
def accept (s : QaraaSnapshotStream Body) (loop : RunLoop) : QaraaSnapshotStream Body :=
  { s.record loop [.opened] with
    socket := some s.channels.length
    channels := s.channels ++ [⟨false, false, false, loop.stopped⟩] }

/-- `candidate.sink.close(1000, 'stale connection')`. -/
def refuse (s : QaraaSnapshotStream Body) (loop : RunLoop) : QaraaSnapshotStream Body :=
  { s with channels := s.channels ++ [⟨true, false, false, loop.stopped⟩] }

/-- The connector has returned a channel. -/
def connected (s : QaraaSnapshotStream Body) (i : ℕ) (loop : RunLoop) :
    QaraaSnapshotStream Body :=
  if s.isLive loop then (s.accept loop).setPlace i (.readying s.channels.length)
  else (s.refuse loop).setPlace i .refusing

/-- The body of the `await for`. -/
def read (options : StreamOptions) (s : QaraaSnapshotStream Body) (i : ℕ) (loop : RunLoop)
    (channel : ℕ) (message : StreamMessage Body) : QaraaSnapshotStream Body :=
  if s.closed || !s.hasListener then s.setPlace i (.leaving channel none)
  else
    match message with
    | .undecodable terminal => s.setPlace i (.leaving channel (some terminal))
    | .updated sessionId snapshot =>
        if sessionId = options.session ∧ s.revision < snapshot.revision then
          { s.record loop [.delivered] with
            revision := snapshot.revision
            emitted := s.emitted ++ [snapshot] }
        else s
    | .other => s

/-- A run loop goes on; with what it does not wait for it stays where it is. -/
def resume (options : StreamOptions) (s : QaraaSnapshotStream Body) (i : ℕ) (loop : RunLoop)
    (event : Resumption Body) : QaraaSnapshotStream Body :=
  match loop.place, event with
  | .starting, .completed => s.next options i loop
  | .connecting, .connected => s.connected i loop
  | .connecting, .failed terminal => s.caught i loop (.thrown terminal)
  | .refusing, .completed => s.finish i
  | .refusing, .failed terminal => s.caught i loop (.thrown terminal)
  | .readying channel, .completed =>
      (s.mark channel Channel.listen).setPlace i (.reading channel)
  | .readying channel, .failed terminal =>
      (s.mark channel Channel.lose).caught i loop (.thrown terminal)
  | .reading channel, .message message => s.read options i loop channel message
  | .reading channel, .ended => (s.mark channel Channel.lose).dropped i loop
  | .reading channel, .failed terminal =>
      (s.mark channel Channel.lose).setPlace i (.leaving channel (some terminal))
  | .leaving _ none, .completed => s.dropped i loop
  | .leaving _ (some terminal), .completed => s.caught i loop (.thrown terminal)
  | .waiting _, .completed =>
      -- once the client is closed `retryDelay` throws, and the run loop ends as well
      if s.isLive loop then s.setPlace i .starting else s.finish i
  | .waiting signal, .woken =>
      if signal = s.wakeSignal then s
      else if s.isLive loop then s.setPlace i .starting else s.finish i
  | .closing, .completed => s.finish i
  | _, _ => s

/-- What happens next; what cannot happen changes nothing. -/
def step (options : StreamOptions) (s : QaraaSnapshotStream Body) :
    StreamAction Body → QaraaSnapshotStream Body
  | .listen =>
      let joined := { s with listeners := s.listeners + 1 }
      if s.hasListener then joined else joined.start
  | .cancel =>
      match s.listeners with
      | 0 => s
      | 1 => { s with listeners := 0 }.pause
      | n + 2 => { s with listeners := n + 1 }
  | .close => s.close
  | .closeClient =>
      { s with
        clientClosed := true
        loops := s.loops.map fun loop => { loop with stopped := true } }
  | .resume i event =>
      match s.loops[i]? with
      | none => s
      | some loop => s.resume options i loop event

/-- A run of the stream. -/
def run (options : StreamOptions) (actions : List (StreamAction Body)) :
    QaraaSnapshotStream Body :=
  actions.foldl (step options) (create options)

end QaraaSnapshotStream

end Qaraa.Sdk.Dart
