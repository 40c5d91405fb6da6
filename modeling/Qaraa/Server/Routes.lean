import Qaraa.Protocol.Envelopes
import Qaraa.Server.Http
import Qaraa.Server.SessionService

/-!
`packages/server/src/http.ts`: the routes of the REST interface.

* `HttpRequest`: a request as Fastify hands it over.
* `HttpRequest.id`, `HttpRequest.action`: the id it is answered under, and the call of the service
  it is taken for.
* `errorStatus`, `successStatus`, `respond`: the reply.
* `invalidJsonReply`, `failedReply`, `unknownRouteReply`: the replies to all other requests.
-/

namespace Qaraa.SessionService

open Fallible Ordered

/-! ### Requests -/

/-- What `randomUUID` returns. -/
structure Uuid where
  text : String
  notBlank : isBlank text = false

/-- The routes, with the session id of the path. -/
inductive Route where
  | create
  | get (sessionId : String)
  | reset (sessionId : String)
  | observations (sessionId : String)
  | resume (sessionId : String)
  | delete (sessionId : String)

/-- How Fastify hands a request over: to the handler of its route, to the error handler because
its body is not JSON or for another reason, or to the handler of unknown routes. -/
inductive Intake where
  | routed (route : Route)
  | invalidJson (observations : Bool)
  | failed
  | unknownRoute

/-- `queryVersion` and `headerVersion` are the numbers the two texts are read as, where they are
given. Without an id `requestId` makes a new UUID each time: `commandUuid` for the command a handler
makes itself, `errorUuid` for the envelope of an error. -/
structure HttpRequest where
  intake : Intake
  body : JsValue
  queryRequestId : Option String
  headerRequestId : Option String
  queryVersion : Option JsNumber
  headerVersion : Option JsNumber
  commandUuid : Uuid
  errorUuid : Uuid

/-- A candidate with `/\S/u.test(candidate)`. -/
def nonBlank (candidate : Option String) : Option String :=
  candidate.filter fun text => !isBlank text

namespace HttpRequest

/-- `requestId`, where `randomUUID` would return `uuid`. -/
def id (request : HttpRequest) (uuid : Uuid) : String :=
  (nonBlank (request.body.field "requestId").text? <|> nonBlank request.queryRequestId <|>
    nonBlank request.headerRequestId).getD uuid.text

/-- The id of the command a handler makes itself. -/
def commandId (request : HttpRequest) : String := request.id request.commandUuid

/-- The id of an error envelope. -/
def errorId (request : HttpRequest) : String := request.id request.errorUuid

/-- The version of the query, or of the header. -/
def requestedProtocolVersion (request : HttpRequest) : JsNumber :=
  (request.queryVersion <|> request.headerVersion).getD (.finite PROTOCOL_VERSION)

/-- The command a handler makes itself for a route without a body. -/
def naming (request : HttpRequest) (type sessionId : String) : JsValue :=
  .object [("protocolVersion", .number request.requestedProtocolVersion),
    ("requestId", .string request.commandId), ("type", .string type),
    ("sessionId", .string sessionId)]

end HttpRequest

/-! ### Calls of the service -/

/-- The command of `GET`. -/
def readGet (value : JsValue) : SessionGetCommand :=
  ⟨value.textField "requestId", value.textField "sessionId"⟩

/-- The command of `DELETE`. -/
def readDelete (value : JsValue) : SessionDeleteCommand :=
  ⟨value.textField "requestId", value.textField "sessionId"⟩

/-- The body as a reset. -/
def readReset (value : JsValue) : SessionResetCommand where
  requestId := value.textField "requestId"
  sessionId := value.textField "sessionId"
  location :=
    if hasField value "location" then some (readLocation (value.field "location")) else none

/-- The command of a resumption. -/
def readResume (value : JsValue) : SessionResumeCommand :=
  ⟨value.textField "requestId", value.textField "sessionId",
    addressPart (value.field "lastSnapshotRevision")⟩

/-- `request.body.sessionId !== request.params?.sessionId`. -/
def assertPath (body : JsValue) (sessionId : String) : Except ServiceError Unit :=
  failIf ((body.field "sessionId").text? ≠ some sessionId)
    (.protocol ⟨.sessionNotFound, "Session path does not match the request payload", false,
      .sessionId sessionId⟩)

/-- The call a handler makes, by a caller of the given number; `newId` is what
`#createSessionId` would make. -/
def HttpRequest.action (request : HttpRequest) (caller : ℕ) (newId : String) :
    Route → Except ServiceError ServiceAction
  | .create => do
      assertCommand request.body "session.create"
      return .create newId (readCreate request.body)
  | .get sessionId => do
      assertCommand (request.naming "session.get" sessionId) "session.get"
      return .get (readGet (request.naming "session.get" sessionId))
  | .reset sessionId => do
      assertCommand request.body "session.reset"
      assertPath request.body sessionId
      return .reset caller (readReset request.body)
  | .observations sessionId => do
      assertCommand request.body "observation.submit"
      assertPath request.body sessionId
      return .submit caller (readSubmit request.body)
  | .resume sessionId => do
      assertCommand request.body "session.resume"
      assertPath request.body sessionId
      return .resume (readResume request.body)
  | .delete sessionId => do
      assertCommand (request.naming "session.delete" sessionId) "session.delete"
      return .delete (readDelete (request.naming "session.delete" sessionId))

/-! ### Replies -/

/-- What an unknown error is answered with. -/
def internalError : TrustedProtocolError :=
  ⟨.internalError, "An internal error occurred", false, none⟩

/-- `error instanceof TrustedProtocolError ? error : internalError()`. -/
def safeError : ServiceError → TrustedProtocolError
  | .protocol error => trustProtocolError error
  | _ => internalError

/-- The status of an error. -/
def errorStatus (error : TrustedProtocolError) : ℕ :=
  match error.code with
  | .sessionNotFound => 404
  | .staleRevision => 409
  | .internalError => if error.retryable then 503 else 500
  | _ => 400

/-- The status of a success. -/
def successStatus : Route → ℕ
  | .create => 201
  | _ => 200

/-- A reply: its status and its body. -/
structure HttpReply where
  status : ℕ
  body : Except QaraaErrorEnvelope Reply

/-- The reply to a request whose operation has ended. -/
def respond (request : HttpRequest) (route : Route) : Outcome → HttpReply
  | .ok reply => ⟨successStatus route, .ok reply⟩
  | .error error =>
      ⟨errorStatus (safeError error), .error ((safeError error).toEnvelope request.errorId)⟩

/-- The reply of the error handler to a body that is not JSON. -/
def invalidJsonReply (request : HttpRequest) (observations : Bool) : HttpReply :=
  ⟨400, .error (TrustedProtocolError.toEnvelope
    ⟨if observations then .invalidObservation else .invalidCorpus,
      "Request body is not valid JSON", false, none⟩ request.errorId)⟩

/-- The reply to a request that Fastify itself turns away. -/
def failedReply (request : HttpRequest) : HttpReply :=
  ⟨500, .error (internalError.toEnvelope request.errorId)⟩

/-- The reply to a route there is none of. -/
def unknownRouteReply (request : HttpRequest) : HttpReply :=
  ⟨404, .error (TrustedProtocolError.toEnvelope
    ⟨.sessionNotFound, "Route was not found", false, none⟩ request.errorId)⟩

end Qaraa.SessionService
