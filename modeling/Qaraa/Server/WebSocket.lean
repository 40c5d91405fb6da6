import Qaraa.Server.Routes

/-!
`packages/server/src/websocket.ts`: a socket of the snapshot stream.

* `StreamRequest`, `negotiate`: what a socket asks for, and the revision it is streamed from.
* `StreamConnection`: what the adapter holds for a socket, and all it has made it do.
* `sendErrorAndClose`, `flushed`, `closeCode`: how a socket is turned away.
* `onSubscribed`, `onRejected`: the reactions to the promise of `subscribe`.
* `onClose`, `listen`: the `close` event and the listener.
-/

namespace Qaraa.SessionService

/-! ### Requests -/

/-- `protocolVersion` and `lastSnapshotRevision` are the numbers the two texts of the query are
read as, where they are given. -/
structure StreamRequest where
  sessionId : String
  protocolVersion : Option JsNumber
  lastSnapshotRevision : Option JsNumber
  requestId : Option String
  uuid : Uuid

/-- `requestId`. -/
def StreamRequest.id (request : StreamRequest) : String :=
  (nonBlank request.requestId).getD request.uuid.text

/-- The revision a socket is streamed from, unless the negotiation is invalid. -/
def negotiate (request : StreamRequest) : Option ℕ :=
  let requestedVersion := request.protocolVersion.getD (.finite PROTOCOL_VERSION)
  match request.lastSnapshotRevision.getD (.finite 0) with
  | .finite q =>
      if requestedVersion ≠ .finite PROTOCOL_VERSION ∨ isSafeInteger (.finite q) = false
          ∨ q < 0 then none
      else some q.num.toNat
  | _ => none

/-- What a socket with invalid parameters is told. -/
def negotiationError : TrustedProtocolError :=
  ⟨.unsupportedProtocol, "WebSocket protocol negotiation is invalid", false,
    some (.supportedProtocolVersion PROTOCOL_VERSION)⟩

/-! ### Sockets -/

/-- A frame of a socket. -/
inductive StreamMessage where
  | event (event : SnapshotUpdatedEvent)
  | error (envelope : QaraaErrorEnvelope)

/-- `ticket` is the promise of its subscription, and `index` tells its subscriber apart once there
is one; only statements read it. `handled` says whether the promise's reaction has run,
`closing` what its closing call passes once the error is flushed; `sent` and `closes` are the
calls made on the socket. -/
structure StreamConnection where
  request : StreamRequest
  ticket : Option ℕ := none
  index : Option ℕ := none
  handled : Bool := false
  disconnected : Bool := false
  unsubscribe : Option ℕ := none
  closing : Option (ℕ × QaraaErrorCode) := none
  closed : Bool := false
  sent : List StreamMessage := []
  closes : List (ℕ × QaraaErrorCode) := []

namespace StreamConnection

/-- The closing function: it closes the socket once. -/
def close (connection : StreamConnection) (code : ℕ × QaraaErrorCode) : StreamConnection :=
  if connection.closed then connection
  else { connection with closed := true, closes := connection.closes ++ [code] }

/-- `fails` says whether `send` throws. -/
def sendErrorAndClose (connection : StreamConnection) (error : TrustedProtocolError) (code : ℕ)
    (fails : Bool) : StreamConnection :=
  let connection := { connection with closing := some (code, error.code) }
  if fails then connection.close (code, error.code)
  else { connection with
    sent := connection.sent ++ [.error (error.toEnvelope connection.request.id)] }

/-- The callback of an error that was sent. -/
def flushed (connection : StreamConnection) : StreamConnection :=
  match connection.closing with
  | some code => connection.close code
  | none => connection

/-- The code a socket is closed with. -/
def closeCode (error : TrustedProtocolError) : ℕ :=
  if error.code = .sessionNotFound then 4404 else if error.retryable then 1013 else 1008

/-- The promise of `subscribe` has been fulfilled; the session may have to be left at once. -/
def onSubscribed (connection : StreamConnection) (index : ℕ) : StreamConnection :=
  { connection with handled := true, unsubscribe := some index }

/-- The promise of `subscribe` has been rejected. -/
def onRejected (connection : StreamConnection) (error : ServiceError) (fails : Bool) :
    StreamConnection :=
  let connection := { connection with handled := true }
  if connection.disconnected then connection
  else
    match error with
    | .protocol error => connection.sendErrorAndClose (trustProtocolError error)
        (closeCode (trustProtocolError error)) fails
    | _ => connection.sendErrorAndClose internalError 1011 fails

/-- The `close` event of the socket. -/
def onClose (connection : StreamConnection) : StreamConnection :=
  { connection with disconnected := true }

/-- The listener: an event is sent unless the socket is closed; `fails` says whether `send`
throws. -/
def listen (connection : StreamConnection) (fails : ReadingSnapshot → Bool)
    (event : SnapshotUpdatedEvent) : StreamConnection :=
  if connection.disconnected || fails event.snapshot then connection
  else { connection with sent := connection.sent ++ [.event event] }

end StreamConnection

end Qaraa.SessionService
