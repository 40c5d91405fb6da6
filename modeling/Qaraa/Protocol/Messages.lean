import Qaraa.Core.ReadingTracker

/-!
`packages/protocol/src/errors.ts` and `packages/protocol/src/messages.ts`: error values,
commands and events of protocol v1.

The constant fields `protocolVersion` and `type` are what tells the structures apart; they
appear where a message is written as JSON.

* `QaraaProtocolError`: the error a boundary answers with.
* `ServiceError`: everything the promise of a service call can be rejected with.
* `isPlainJsonValue`: the preflight of every schema check.
* `ObservationSubmitCommand.toJson`, `SessionResetCommand.toJson`: the two commands a
  session takes, as the caller sends them.
-/

namespace Qaraa

/-- `PROTOCOL_VERSION`. -/
def PROTOCOL_VERSION : ℕ := 1

/-! ### Errors -/

/-- `QaraaErrorCode`. -/
inductive QaraaErrorCode where
  | invalidCorpus
  | invalidObservation
  | staleRevision
  | unsupportedProtocol
  | sessionNotFound
  | internalError
  deriving DecidableEq

/-- The details the errors carry. Those of a schema failure list what the schema
validator reports. -/
inductive ErrorDetails where
  | schemaValidation
  | domainValidation
  | commandValidation
  | supportedProtocolVersion (version : ℕ)
  | sessionId (sessionId : String)
  | corpusId (corpusId : String)
  | revisions (latestSourceRevision : ℤ) (sourceRevision : ℕ)
  | capacity (resource : String) (limit : ℕ)
  deriving DecidableEq

/-- `QaraaProtocolError`. -/
structure QaraaProtocolError where
  code : QaraaErrorCode
  message : String
  retryable : Bool
  details : ErrorDetails
  deriving DecidableEq

/-- What the promise of a service call can be rejected with. -/
inductive ServiceError where
  | protocol (error : QaraaProtocolError)
  | js (error : JsError)
  /-- `SessionRecordExistsError`. -/
  | recordExists (sessionId : String)
  /-- An error of the store or of the corpus resolver. -/
  | rejected
  deriving DecidableEq

/-- The error of an observation. -/
def invalidObservation (details : ErrorDetails) : QaraaProtocolError :=
  ⟨.invalidObservation, "Observation payload is invalid", false, details⟩

/-- The error of a corpus. -/
def invalidCorpus (details : ErrorDetails) : QaraaProtocolError :=
  ⟨.invalidCorpus, "Corpus payload is invalid", false, details⟩

/-! ### Plain values -/

mutual

/-- Checks the lossless JSON value domain. -/
def isPlainJsonValue : JsValue → Bool
  | .null => true
  | .string _ => true
  | .bool _ => true
  | .number (.finite _) => true
  | .array items => arePlainItems items
  | .object fields => arePlainFields fields
  | _ => false

/-- All items are plain. -/
def arePlainItems : List JsValue → Bool
  | [] => true
  | item :: rest => isPlainJsonValue item && arePlainItems rest

/-- All fields are plain. -/
def arePlainFields : List (String × JsValue) → Bool
  | [] => true
  | (_, value) :: rest => isPlainJsonValue value && arePlainFields rest

end

/-! ### Commands and events -/

/-- `session.create`. -/
structure SessionCreateCommand where
  requestId : String
  corpusId : String
  initialLocation : Option QuranLocation
  findingMode : Option String

/-- `session.get`. -/
structure SessionGetCommand where
  requestId : String
  sessionId : String

/-- `session.reset`. -/
structure SessionResetCommand where
  requestId : String
  sessionId : String
  location : Option QuranLocation

/-- `session.delete`. -/
structure SessionDeleteCommand where
  requestId : String
  sessionId : String

/-- The fields of the observation are whatever the caller sent. -/
structure ObservationSubmitCommand where
  requestId : String
  sessionId : String
  observationId : JsValue
  sourceRevision : JsValue
  isFinal : JsValue
  receivedAtMs : JsValue
  tokens : JsValue

/-- `session.resume`. -/
structure SessionResumeCommand where
  requestId : String
  sessionId : String
  lastSnapshotRevision : ℕ

/-- `session.created`. -/
structure SessionCreatedEvent where
  requestId : String
  sessionId : String
  snapshot : ReadingSnapshot
  deriving DecidableEq

/-- `snapshot.updated`. -/
structure SnapshotUpdatedEvent where
  requestId : String
  sessionId : String
  snapshot : ReadingSnapshot
  deriving DecidableEq

/-- `session.deleted`. -/
structure SessionDeletedEvent where
  requestId : String
  sessionId : String
  deriving DecidableEq

/-! ### Commands as JSON -/

/-- A natural number as a value. -/
def natValue (n : ℕ) : JsValue := .number (.finite n)

/-- A location as it is written. -/
def QuranLocation.toJson (location : QuranLocation) : JsValue :=
  .object [("surah", natValue location.surah), ("ayah", natValue location.ayah),
    ("word", natValue location.word), ("symbol", natValue location.symbol)]

/-- The observation a submission carries. -/
def ObservationSubmitCommand.observation (command : ObservationSubmitCommand) : JsValue :=
  .object [("observationId", command.observationId), ("sourceRevision", command.sourceRevision),
    ("isFinal", command.isFinal), ("receivedAtMs", command.receivedAtMs),
    ("tokens", command.tokens)]

/-- The command as it is written. -/
def ObservationSubmitCommand.toJson (command : ObservationSubmitCommand) : JsValue :=
  .object [("protocolVersion", natValue PROTOCOL_VERSION), ("requestId", .string command.requestId),
    ("type", .string "observation.submit"), ("sessionId", .string command.sessionId),
    ("observationId", command.observationId), ("sourceRevision", command.sourceRevision),
    ("isFinal", command.isFinal), ("receivedAtMs", command.receivedAtMs),
    ("tokens", command.tokens)]

/-- The command as it is written. -/
def SessionResetCommand.toJson (command : SessionResetCommand) : JsValue :=
  .object ([("protocolVersion", natValue PROTOCOL_VERSION),
      ("requestId", .string command.requestId), ("type", .string "session.reset"),
      ("sessionId", .string command.sessionId)]
    ++ (command.location.map fun location => ("location", location.toJson)).toList)

end Qaraa
