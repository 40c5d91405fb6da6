import Qaraa.Protocol.SnapshotSchema

/-!
`packages/protocol/src/errors.ts` and `packages/server/src/trusted-error.ts`: the error envelope,
and the events of a server as the receiver checks them.

* `TrustedProtocolError`, `QaraaErrorEnvelope`: the error a boundary reports, under a request id.
* `SchemaIssue`, `ErrorDetails.fields`: the details on the wire; those of a schema failure list
  what the schema validator has found.
* `eventSchema_of_type`: an event has the shape its type names and no other.
* `snapshotEvent_valid`, `deleted_valid`, `envelope_valid`: **which events pass the check of their
  receiver**: those whose ids are not blank.
-/

namespace Qaraa

open Ordered

/-! ### Error envelopes -/

/-- The code as it is written. -/
def QaraaErrorCode.name : QaraaErrorCode → String
  | .invalidCorpus => "INVALID_CORPUS"
  | .invalidObservation => "INVALID_OBSERVATION"
  | .staleRevision => "STALE_REVISION"
  | .unsupportedProtocol => "UNSUPPORTED_PROTOCOL"
  | .sessionNotFound => "SESSION_NOT_FOUND"
  | .internalError => "INTERNAL_ERROR"

/-- One of the errors a schema validator reports. -/
structure SchemaIssue where
  instancePath : String
  keyword : String
  message : String

/-- An issue as it is written. -/
def SchemaIssue.toJson (issue : SchemaIssue) : JsValue :=
  .object [("instancePath", .string issue.instancePath), ("keyword", .string issue.keyword),
    ("message", .string issue.message)]

/-- `schemaDetails` lists the issues. -/
def ErrorDetails.fields (issues : List SchemaIssue) : ErrorDetails → List (String × JsValue)
  | .schemaValidation =>
      [("kind", .string "schema-validation"), ("errors", .array (issues.map SchemaIssue.toJson))]
  | .domainValidation => [("kind", .string "domain-validation")]
  | .commandValidation => [("kind", .string "command-validation")]
  | .supportedProtocolVersion version => [("supportedProtocolVersion", natValue version)]
  | .sessionId id => [("sessionId", .string id)]
  | .corpusId id => [("corpusId", .string id)]
  | .revisions latest revision =>
      [("latestSourceRevision", .number (.finite latest)), ("sourceRevision", natValue revision)]
  | .capacity resource limit =>
      [("kind", .string "capacity"), ("resource", .string resource), ("limit", natValue limit)]

/-- An error the server itself has made. Without details they are the empty object. -/
structure TrustedProtocolError where
  code : QaraaErrorCode
  message : String
  retryable : Bool := false
  details : Option ErrorDetails := none
  deriving DecidableEq

/-- `trustProtocolError`. -/
def trustProtocolError (error : QaraaProtocolError) : TrustedProtocolError :=
  ⟨error.code, error.message, error.retryable, some error.details⟩

/-- `QaraaErrorEnvelope`. -/
structure QaraaErrorEnvelope where
  requestId : String
  error : TrustedProtocolError
  deriving DecidableEq

/-- The envelope of an error for a request. -/
def TrustedProtocolError.toEnvelope (error : TrustedProtocolError) (requestId : String) :
    QaraaErrorEnvelope := ⟨requestId, error⟩

/-- The envelope as it is written; the issues stand for those of its details. -/
def QaraaErrorEnvelope.toJson (issues : List SchemaIssue) (envelope : QaraaErrorEnvelope) :
    JsValue :=
  .object [("protocolVersion", natValue PROTOCOL_VERSION),
    ("requestId", .string envelope.requestId), ("type", .string "error"),
    ("code", .string envelope.error.code.name), ("message", .string envelope.error.message),
    ("retryable", .bool envelope.error.retryable),
    ("details", .object ((envelope.error.details.map (ErrorDetails.fields issues)).getD []))]

/-- The event as it is written. -/
def SessionDeletedEvent.toJson (event : SessionDeletedEvent) : JsValue :=
  .object [("protocolVersion", natValue PROTOCOL_VERSION),
    ("requestId", .string event.requestId), ("type", .string "session.deleted"),
    ("sessionId", .string event.sessionId)]

/-! ### The shape an event has -/

/-- The shapes of the events by their types. -/
def eventBodies : List (String × Schema) :=
  [("session.created", snapshotEventSchema "session.created"),
    ("snapshot.updated", snapshotEventSchema "snapshot.updated"),
    ("session.deleted", sessionDeletedSchema), ("error", errorSchema)]

lemma eventBody_rejects {type other : String} {schema : Schema} {fields : List (String × JsValue)}
    (hmem : (other, schema) ∈ eventBodies) (hne : type ≠ other)
    (htype : List.lookup "type" fields = some (.string type)) :
    schema.accepts (.object fields) = false := by
  have henvelope : ("type", Schema.enumeration [other]) ∈ envelopeProperties other := by
    simp [envelopeProperties]
  simp only [eventBodies, List.mem_cons, Prod.mk.injEq, List.not_mem_nil, or_false] at hmem
  rcases hmem with ⟨rfl, rfl⟩ | ⟨rfl, rfl⟩ | ⟨rfl, rfl⟩ | ⟨rfl, rfl⟩
  · exact object_rejected (List.mem_append_left _ henvelope) hne htype
  · exact object_rejected (List.mem_append_left _ henvelope) hne htype
  · exact object_rejected (List.mem_append_left _ henvelope) hne htype
  · exact object_rejected (List.mem_append_left _ henvelope) hne htype

/-- **An event has the shape its type names and no other.** -/
theorem eventSchema_of_type {type : String} {schema : Schema} {fields : List (String × JsValue)}
    (hmem : (type, schema) ∈ eventBodies)
    (htype : List.lookup "type" fields = some (.string type)) :
    eventSchema.accepts (.object fields) = schema.accepts (.object fields) := by
  have hother : ∀ other schema', (other, schema') ∈ eventBodies → type ≠ other →
      schema'.accepts (.object fields) = false :=
    fun _ _ hmem' hne => eventBody_rejects hmem' hne htype
  have hcreated := hother "session.created" (snapshotEventSchema "session.created")
    (by simp [eventBodies])
  have hupdated := hother "snapshot.updated" (snapshotEventSchema "snapshot.updated")
    (by simp [eventBodies])
  have hdeleted := hother "session.deleted" sessionDeletedSchema (by simp [eventBodies])
  have herror := hother "error" errorSchema (by simp [eventBodies])
  simp only [eventBodies, List.mem_cons, Prod.mk.injEq, List.not_mem_nil, or_false] at hmem
  rw [eventSchema, Schema.accepts]
  rcases hmem with ⟨rfl, rfl⟩ | ⟨rfl, rfl⟩ | ⟨rfl, rfl⟩ | ⟨rfl, rfl⟩
  · simp only [Schema.countAccepts, hupdated (by decide), hdeleted (by decide), herror (by decide)]
    cases (snapshotEventSchema "session.created").accepts (.object fields) <;> rfl
  · simp only [Schema.countAccepts, hcreated (by decide), hdeleted (by decide), herror (by decide)]
    cases (snapshotEventSchema "snapshot.updated").accepts (.object fields) <;> rfl
  · simp only [Schema.countAccepts, hcreated (by decide), hupdated (by decide), herror (by decide)]
    cases sessionDeletedSchema.accepts (.object fields) <;> rfl
  · simp only [Schema.countAccepts, hcreated (by decide), hupdated (by decide),
      hdeleted (by decide)]
    cases errorSchema.accepts (.object fields) <;> rfl

/-! ### The check of the receiver -/

/-- An event with a snapshot passes when its ids are not blank. -/
lemma snapshotEvent_valid {type : String} (hmem : (type, snapshotEventSchema type) ∈ eventBodies)
    {snapshot : ReadingSnapshot} (hsnapshot : snapshotSchema.accepts snapshot.toJson = true)
    (requestId sessionId : String) :
    eventValidator (snapshotEvent type requestId sessionId snapshot)
      = (!isBlank requestId && !isBlank sessionId) := by
  have hplain : isPlainJsonValue (snapshotEvent type requestId sessionId snapshot) = true := by
    simp [snapshotEvent, isPlainJsonValue, arePlainFields, natValue, isPlainJsonValue_snapshot]
  rw [eventValidator, withJsonPreflight, hplain, Bool.true_and, ← snapshotEvent_accepted hsnapshot]
  exact eventSchema_of_type hmem rfl

lemma deleted_valid (event : SessionDeletedEvent) : eventValidator event.toJson
    = (!isBlank event.requestId && !isBlank event.sessionId) := by
  have hplain : isPlainJsonValue event.toJson = true := by
    simp [SessionDeletedEvent.toJson, isPlainJsonValue, arePlainFields, natValue]
  rw [eventValidator, withJsonPreflight, hplain, Bool.true_and, SessionDeletedEvent.toJson,
    eventSchema_of_type (show ("session.deleted", sessionDeletedSchema) ∈ eventBodies by
      simp [eventBodies]) rfl, Bool.eq_iff_iff, Bool.and_eq_true]
  constructor
  · intro haccepts
    have hrequest := Schema.accepts_field haccepts
      (show ("requestId", Schema.nonEmptyString) ∈ _ by simp [envelopeProperties])
      (show List.lookup "requestId" _ = some (.string event.requestId) from rfl)
    have hsession := Schema.accepts_field haccepts
      (show ("sessionId", Schema.nonEmptyString) ∈ _ by simp [envelopeProperties])
      (show List.lookup "sessionId" _ = some (.string event.sessionId) from rfl)
    exact ⟨by simpa [Schema.accepts] using hrequest, by simpa [Schema.accepts] using hsession⟩
  · rintro ⟨hrequest, hsession⟩
    refine object_accepted
      (show ["protocolVersion", "requestId", "type", "sessionId"].Nodup by decide)
      (fun name hname => hname) ?_
    refine .cons ⟨rfl, by decide⟩ (.cons ⟨rfl, ?_⟩ (.cons ⟨rfl, ?_⟩ (.cons ⟨rfl, ?_⟩ .nil)))
    · simpa [Schema.accepts] using hrequest
    · simp [Schema.accepts]
    · simpa [Schema.accepts] using hsession

lemma isPlainJsonValue_issues (issues : List SchemaIssue) :
    arePlainItems (issues.map SchemaIssue.toJson) = true := by
  induction issues with
  | nil => simp [arePlainItems]
  | cons issue issues ih =>
      simp [arePlainItems, SchemaIssue.toJson, isPlainJsonValue, arePlainFields, ih]

lemma arePlainFields_details (issues : List SchemaIssue) (details : Option ErrorDetails) :
    arePlainFields ((details.map (ErrorDetails.fields issues)).getD []) = true := by
  cases details with
  | none => simp [arePlainFields]
  | some details =>
      cases details <;>
        simp [ErrorDetails.fields, isPlainJsonValue, arePlainFields, natValue,
          isPlainJsonValue_issues issues]

/-- **An error envelope passes when its request id is not blank.** -/
theorem envelope_valid (issues : List SchemaIssue) (envelope : QaraaErrorEnvelope) :
    eventValidator (envelope.toJson issues) = !isBlank envelope.requestId := by
  have hplain : isPlainJsonValue (envelope.toJson issues) = true := by
    simp [QaraaErrorEnvelope.toJson, isPlainJsonValue, arePlainFields, natValue,
      arePlainFields_details]
  rw [eventValidator, withJsonPreflight, hplain, Bool.true_and, QaraaErrorEnvelope.toJson,
    eventSchema_of_type (show ("error", errorSchema) ∈ eventBodies by simp [eventBodies]) rfl,
    Bool.eq_iff_iff]
  constructor
  · intro haccepts
    have hrequest := Schema.accepts_field haccepts
      (show ("requestId", Schema.nonEmptyString) ∈ _ by simp [envelopeProperties])
      (show List.lookup "requestId" _ = some (.string envelope.requestId) from rfl)
    simpa [Schema.accepts] using hrequest
  · intro hrequest
    refine object_accepted (show ["protocolVersion", "requestId", "type", "code", "message",
        "retryable", "details"].Nodup by decide) (fun name hname => hname) ?_
    refine .cons ⟨rfl, by decide⟩ (.cons ⟨rfl, ?_⟩ (.cons ⟨rfl, ?_⟩ (.cons ⟨rfl, ?_⟩
      (.cons ⟨rfl, ?_⟩ (.cons ⟨rfl, ?_⟩ (.cons ⟨rfl, ?_⟩ .nil))))))
    · simpa [Schema.accepts] using hrequest
    · simp [Schema.accepts]
    · cases envelope.error.code <;> simp [Schema.accepts, QaraaErrorCode.name]
    · simp [Schema.accepts]
    · simp [Schema.accepts]
    · simp [Schema.accepts]

end Qaraa
