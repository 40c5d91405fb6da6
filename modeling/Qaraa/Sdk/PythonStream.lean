import Qaraa.Sdk.PythonModels

/-!
`sdk/python/src/qaraa/stream.py`: the snapshot stream of the Python client, an asynchronous
iterator that connects again and again.

A call of `__anext__` may be cancelled wherever it waits, and others may be called meanwhile.

* `Place`, `Iteration`, `QaraaSnapshotStream`: where a call of `__anext__` waits, and the fields of
  the stream.
* `QaraaSnapshotStream.next`, `connected`, `failed`, `caught`, `read`, `exhausted`, `slept`: the
  parts of `__anext__` between its waits; `aclose`: the other function.
* `StreamAction`, `QaraaSnapshotStream.step`, `run`: what happens next, and the runs.
* `open_of_closeSocket`: closing a socket opens none.
-/

namespace Qaraa.Sdk.Python

/-- A snapshot, with all that the stream does not look at. -/
structure StreamSnapshot (Body : Type) where
  revision : ℕ
  body : Body
  deriving DecidableEq

/-- An exception, as the `except` clauses tell them apart. -/
inductive Raised where
  /-- `StopAsyncIteration`. -/
  | stop
  /-- A `QaraaError` or a `TransportError`. -/
  | known
  | other
  deriving DecidableEq

/-- What a frame is taken for. -/
inductive StreamFrame (Body : Type) where
  /-- It is too large, no event or an error envelope, which are `known`, or another exception is
  raised. -/
  | refused (error : Raised)
  | updated (sessionId : String) (snapshot : StreamSnapshot Body)
  /-- Any other event. -/
  | other

/-- What a stream asks for and returns. -/
inductive StreamEvent (Body : Type) where
  /-- A connection is asked for, with this `lastSnapshotRevision`. -/
  | asked (revision : ℕ)
  | returned (snapshot : StreamSnapshot Body)
  deriving DecidableEq

/-- What a call of `__anext__` ends with. -/
inductive Ending (Body : Type) where
  | returned (snapshot : StreamSnapshot Body)
  | stopped
  | raised
  | cancelled
  deriving DecidableEq

/-- Where a call of `__anext__` waits. -/
inductive Place (Body : Type) where
  /-- At the top of the loop. It waits for nothing here; that others may come in between only adds
  runs. -/
  | starting
  | connecting (generation : ℕ)
  /-- For the stale candidate to close. -/
  | refusing
  /-- For the next frame of a socket. -/
  | reading (socket : ℕ)
  /-- For `self._socket.close()` after the last frame. -/
  | dropping
  /-- For `socket.close()` after an exception. -/
  | discarding
  /-- In `_delay`, inside the second `try` or not. -/
  | delaying (inside : Bool)
  | ended (ending : Ending Body)
  deriving DecidableEq

/-- A call of `__anext__`. Only statements read `attempts`, the calls of the connector. -/
structure Iteration (Body : Type) where
  failures : ℕ
  attempts : ℕ
  place : Place Body
  deriving DecidableEq

/-- What a stream is created with. -/
structure StreamOptions where
  session : String
  revision : ℕ
  safe : revision ≤ maxSafeInteger

/-- The fields of the stream, with `self._client._closed`, the calls of `__anext__` and the sockets
the connector has returned, each with whether it was closed. Only statements read `history`. -/
structure QaraaSnapshotStream (Body : Type) where
  revision : ℕ
  closed : Bool
  clientClosed : Bool
  socket : Option ℕ
  generation : ℕ
  iterations : List (Iteration Body)
  sockets : List Bool
  history : List (StreamEvent Body)

/-- What a call goes on with. -/
inductive Resumption (Body : Type) where
  /-- What it waits for has happened. -/
  | completed
  /-- What it waits for has raised an exception. -/
  | failed (error : Raised)
  | frame (frame : StreamFrame Body)
  /-- The task that waits is cancelled. -/
  | cancelled

/-- What can happen: calls of the iterator and of its client, and what a call waits for. -/
inductive StreamAction (Body : Type) where
  | anext
  | aclose
  | closeClient
  | resume (i : ℕ) (event : Resumption Body)

/-- A call of `__anext__`. -/
def StreamAction.isAnext {Body : Type} : StreamAction Body → Bool
  | .anext => true
  | _ => false

/-- `delays`, in milliseconds. -/
def delays : List ℕ := [100, 250, 500, 1000, 2000]

namespace QaraaSnapshotStream

variable {Body : Type}

/-- `__init__`. -/
def create (options : StreamOptions) : QaraaSnapshotStream Body where
  revision := options.revision
  closed := false
  clientClosed := false
  socket := none
  generation := 0
  iterations := []
  sockets := []
  history := []

/-- `self._closed or self._client._closed`. -/
def isClosed (s : QaraaSnapshotStream Body) : Bool := s.closed || s.clientClosed

/-- A call goes on as `call`. -/
def put (s : QaraaSnapshotStream Body) (i : ℕ) (call : Iteration Body) : QaraaSnapshotStream Body :=
  { s with iterations := s.iterations.set i call }

/-- A call waits somewhere else. -/
def goTo (s : QaraaSnapshotStream Body) (i : ℕ) (call : Iteration Body) (place : Place Body) :
    QaraaSnapshotStream Body := s.put i { call with place := place }

/-- `await socket.close()`, if there is one, up to its wait. -/
def closeSocket (s : QaraaSnapshotStream Body) (socket : Option ℕ) : QaraaSnapshotStream Body :=
  { s with sockets := socket.elim s.sockets fun k => s.sockets.set k true }

/-- The top of the loop. -/
def next (s : QaraaSnapshotStream Body) (i : ℕ) (call : Iteration Body) :
    QaraaSnapshotStream Body :=
  if s.isClosed then s.goTo i call (.ended .stopped)
  else
    match s.socket with
    | none =>
        { s with history := s.history ++ [StreamEvent.asked s.revision] }.put i
          { call with
            attempts := call.attempts + 1
            place := .connecting s.generation }
    | some socket => s.goTo i call (.reading socket)

/-- The connector has returned a candidate. -/
def connected (s : QaraaSnapshotStream Body) (i : ℕ) (call : Iteration Body) (generation : ℕ) :
    QaraaSnapshotStream Body :=
  if s.isClosed || generation != s.generation then
    { s with sockets := s.sockets ++ [true] }.goTo i call .refusing
  else
    { s with
      socket := some s.sockets.length
      sockets := s.sockets ++ [false] }.goTo i call (.reading s.sockets.length)

/-- The end of a round that has failed, up to its wait. -/
def failed (s : QaraaSnapshotStream Body) (i : ℕ) (call : Iteration Body) (inside : Bool) :
    QaraaSnapshotStream Body :=
  if delays.length ≤ call.failures then s.goTo i call (.ended .raised)
  else s.goTo i call (.delaying inside)

/-- The `except` clauses of the second `try`, up to a wait. -/
def caught (s : QaraaSnapshotStream Body) (i : ℕ) (call : Iteration Body) :
    Raised → QaraaSnapshotStream Body
  | .stop => s.goTo i call (.ended .stopped)
  | .known => s.goTo i call (.ended .raised)
  | .other =>
      if s.isClosed then s.goTo i call (.ended .stopped)
      else ({ s with socket := none }.closeSocket s.socket).goTo i call .discarding

/-- The body of the `async for`. -/
def read (options : StreamOptions) (s : QaraaSnapshotStream Body) (i : ℕ) (call : Iteration Body)
    (frame : StreamFrame Body) : QaraaSnapshotStream Body :=
  if s.isClosed then s.goTo i call (.ended .stopped)
  else
    match frame with
    | .refused error => s.caught i call error
    | .updated sessionId snapshot =>
        if sessionId = options.session ∧ s.revision < snapshot.revision then
          { s with
            revision := snapshot.revision
            history := s.history ++ [StreamEvent.returned snapshot] }.goTo i call
            (.ended (.returned snapshot))
        else s
    | .other => s

/-- After the `async for`. Without a socket `close` raises an `AttributeError`. -/
def exhausted (s : QaraaSnapshotStream Body) (i : ℕ) (call : Iteration Body) :
    QaraaSnapshotStream Body :=
  match s.socket with
  | none => s.caught i call .other
  | some socket => (s.closeSocket (some socket)).goTo i call .dropping

/-- After `_delay`, which raises a `TransportError` once the client is closed. -/
def slept (s : QaraaSnapshotStream Body) (i : ℕ) (call : Iteration Body) :
    QaraaSnapshotStream Body :=
  if s.clientClosed then s.goTo i call (.ended .raised)
  else s.put i { call with failures := call.failures + 1, place := .starting }

/-- A call goes on; with what it does not wait for it stays where it is. -/
def resume (options : StreamOptions) (s : QaraaSnapshotStream Body) (i : ℕ) (call : Iteration Body)
    (event : Resumption Body) : QaraaSnapshotStream Body :=
  match call.place, event with
  | .ended _, _ => s
  | _, .cancelled => s.goTo i call (.ended .cancelled)
  | .starting, .completed => s.next i call
  | .connecting generation, .completed => s.connected i call generation
  | .connecting _, .failed .stop => s.goTo i call (.ended .stopped)
  | .connecting _, .failed _ => s.failed i call false
  | .refusing, .completed => s.goTo i call (.ended .stopped)
  | .refusing, .failed _ => s.goTo i call (.ended .stopped)
  | .reading _, .frame frame => s.read options i call frame
  -- the end of the frames is a `StopAsyncIteration`, too
  | .reading _, .failed .stop => s.exhausted i call
  | .reading _, .failed error => s.caught i call error
  | .dropping, .completed => { s with socket := none }.failed i call true
  | .dropping, .failed error => s.caught i call error
  | .discarding, .completed => s.failed i call false
  | .discarding, .failed _ => s.failed i call false
  | .delaying _, .completed => s.slept i call
  | .delaying true, .failed error => s.caught i call error
  | .delaying false, .failed .stop => s.goTo i call (.ended .stopped)
  | .delaying false, .failed _ => s.goTo i call (.ended .raised)
  | _, _ => s

/-- `aclose`, up to its wait. -/
def aclose (s : QaraaSnapshotStream Body) : QaraaSnapshotStream Body :=
  if s.closed then s
  else
    { s with closed := true, generation := s.generation + 1, socket := none }.closeSocket s.socket

/-- What happens next; what cannot happen changes nothing. -/
def step (options : StreamOptions) (s : QaraaSnapshotStream Body) :
    StreamAction Body → QaraaSnapshotStream Body
  | .anext => { s with iterations := s.iterations ++ [⟨0, 0, .starting⟩] }
  | .aclose => s.aclose
  | .closeClient => { s with clientClosed := true }
  | .resume i event =>
      match s.iterations[i]? with
      | none => s
      | some call => s.resume options i call event

/-- A run of the stream. -/
def run (options : StreamOptions) (s : QaraaSnapshotStream Body)
    (actions : List (StreamAction Body)) : QaraaSnapshotStream Body :=
  actions.foldl (step options) s

variable (s : QaraaSnapshotStream Body) (i : ℕ) (call : Iteration Body) (socket : Option ℕ)

@[simp] lemma put_iterations : (s.put i call).iterations = s.iterations.set i call := rfl
@[simp] lemma put_history : (s.put i call).history = s.history := rfl
@[simp] lemma closeSocket_closed : (s.closeSocket socket).closed = s.closed := rfl
@[simp] lemma closeSocket_history : (s.closeSocket socket).history = s.history := rfl

/-- Closing a socket opens none. -/
lemma open_of_closeSocket {k : ℕ} (h : (s.closeSocket socket).sockets[k]? = some false) :
    s.sockets[k]? = some false ∧ socket ≠ some k := by
  cases socket with
  | none => exact ⟨h, by simp⟩
  | some closing =>
      change (s.sockets.set closing true)[k]? = some false at h
      rw [List.getElem?_set] at h
      split at h
      · split at h <;> cases h
      · rename_i hne
        exact ⟨h, fun heq => hne (Option.some_inj.mp heq)⟩

end QaraaSnapshotStream

end Qaraa.Sdk.Python
