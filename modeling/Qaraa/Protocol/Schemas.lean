import Qaraa.Protocol.Messages

/-!
`packages/protocol/src/schemas/v1`: the wire shapes of protocol v1, and
`packages/protocol/src/validate.ts`: the checks built on them.

* `Schema`, `Schema.accepts`: the part of JSON Schema the shapes are written in. An
  object shape with properties is closed: there are no other fields.
* `observationSchema`, `corpusSchema`, `commandSchema`: the shapes.
* `assertValidObservation`, `assertValidCorpus`, `assertValidCommand`: the checks.
* `observation_of_command`: **an accepted submission carries an accepted observation**.
-/

namespace Qaraa

open Ordered

/-! ### Schemas -/

/-- The schemas of the protocol, with the keywords they use. -/
inductive Schema where
  | any
  | null
  | string
  /-- A string that matches `\S`. -/
  | nonEmptyString
  | boolean
  | integer (minimum : ℕ)
  | number (minimum maximum : Option ℕ)
  | constNumber (value : ℕ)
  | constBool (value : Bool)
  | enumeration (values : List String)
  | array (items : Schema) (minItems : ℕ)
  /-- An array without repetition of strings that match `\S`. -/
  | uniqueStrings (minItems : ℕ)
  | object (required : List String) (properties : List (String × Schema))
  /-- An object with any properties. -/
  | anyObject
  /-- `{ if: { properties: { name: { const: value } }, required: [name] }, then }`, where
  `then` constrains the property `target`. -/
  | ifField (name : String) (value : Bool) (target : String) (constraint : Schema)
  | both (first second : Schema)
  | oneOf (schemas : List Schema)

/-- The text of a string. -/
def JsValue.text? : JsValue → Option String
  | .string text => some text
  | _ => none

/-- The items of an array, none when there is no array. -/
def JsValue.items : JsValue → List JsValue
  | .array items => items
  | _ => []

mutual

/-- Whether a value passes a schema. -/
def Schema.accepts : Schema → JsValue → Bool
  | .any, _ => true
  | .null, .null => true
  | .string, .string _ => true
  | .nonEmptyString, .string text => !isBlank text
  | .boolean, .bool _ => true
  | .integer minimum, .number (.finite q) => q.den == 1 && decide ((minimum : ℚ) ≤ q)
  | .number minimum maximum, .number (.finite q) =>
      (minimum.map fun bound => decide ((bound : ℚ) ≤ q)).getD true
        && (maximum.map fun bound => decide (q ≤ (bound : ℚ))).getD true
  | .constNumber value, .number (.finite q) => decide (q = value)
  | .constBool value, .bool b => b == value
  | .enumeration values, .string text => values.contains text
  | .array items minItems, .array values =>
      decide (minItems ≤ values.length) && values.all items.accepts
  | .uniqueStrings minItems, .array values =>
      decide (minItems ≤ values.length)
        && values.all (fun value => (value.text?.map fun text => !isBlank text).getD false)
        && decide (values.map JsValue.text?).Nodup
  | .object required properties, .object fields =>
      required.all (fun name => (List.lookup name fields).isSome)
        && fields.all (fun field => properties.any fun property => property.1 == field.1)
        && Schema.acceptsFields properties fields
  | .anyObject, .object _ => true
  | .ifField name value target constraint, .object fields =>
      match List.lookup name fields, List.lookup target fields with
      | some (.bool b), some found => b != value || constraint.accepts found
      | _, _ => true
  | .ifField _ _ _ _, _ => true
  | .both first second, value => first.accepts value && second.accepts value
  | .oneOf schemas, value => Schema.countAccepts schemas value == 1
  | _, _ => false

/-- Each field that is there has the shape of its property. -/
def Schema.acceptsFields : List (String × Schema) → List (String × JsValue) → Bool
  | [], _ => true
  | (name, schema) :: rest, fields =>
      (match List.lookup name fields with
        | none => true
        | some value => schema.accepts value)
        && Schema.acceptsFields rest fields

/-- How many of the shapes a value has. -/
def Schema.countAccepts : List Schema → JsValue → ℕ
  | [], _ => 0
  | schema :: rest, value =>
      (if schema.accepts value then 1 else 0) + Schema.countAccepts rest value

end

/-! ### The shapes -/

/-- The properties of a location, up to the word. -/
def wordLocationProperties : List (String × Schema) :=
  [("surah", .integer 1), ("ayah", .integer 1), ("word", .integer 1)]

/-- `wordLocation`. -/
def wordLocationSchema : Schema := .object ["surah", "ayah", "word"] wordLocationProperties

/-- `location`. -/
def locationSchema : Schema :=
  .object ["surah", "ayah", "word", "symbol"] (wordLocationProperties ++ [("symbol", .integer 1)])

/-- `token`. -/
def tokenSchema : Schema :=
  .object ["id", "text", "phonemes"]
    [("id", .nonEmptyString), ("text", .string), ("phonemes", .array .string 0),
      ("startMs", .number (some 0) none), ("endMs", .number (some 0) none),
      ("confidence", .number (some 0) (some 1))]

/-- The properties an observation and a submission share. -/
def observationProperties : List (String × Schema) :=
  [("observationId", .nonEmptyString), ("sourceRevision", .integer 0), ("isFinal", .boolean),
    ("receivedAtMs", .number (some 0) none), ("tokens", .array tokenSchema 0)]

/-- A partial observation has a token. -/
def partialHasToken : Schema := .ifField "isFinal" false "tokens" (.array .any 1)

/-- `observation`. -/
def observationSchema : Schema :=
  .both (.object ["observationId", "sourceRevision", "isFinal", "receivedAtMs", "tokens"]
    observationProperties) partialHasToken

/-- `symbol`. -/
def symbolSchema : Schema :=
  .object ["id", "text", "phoneme", "location"]
    [("id", .nonEmptyString), ("text", .string), ("phoneme", .nonEmptyString),
      ("location", locationSchema)]

/-- `word`. -/
def wordSchema : Schema :=
  .object ["id", "text", "symbolIds", "location"]
    [("id", .nonEmptyString), ("text", .string), ("symbolIds", .uniqueStrings 1),
      ("location", wordLocationSchema)]

/-- `corpus`. -/
def corpusSchema : Schema :=
  .object ["corpusId", "revision", "symbols", "words"]
    [("corpusId", .nonEmptyString), ("revision", .nonEmptyString),
      ("symbols", .array symbolSchema 0), ("words", .array wordSchema 0)]

/-- The properties of every command of a type. -/
def envelopeProperties (type : String) : List (String × Schema) :=
  [("protocolVersion", .constNumber PROTOCOL_VERSION), ("requestId", .nonEmptyString),
    ("type", .enumeration [type])]

/-- `sessionCreate`. -/
def sessionCreateSchema : Schema :=
  .object ["protocolVersion", "requestId", "type", "corpusId"]
    (envelopeProperties "session.create" ++ [("corpusId", .nonEmptyString),
      ("initialLocation", locationSchema), ("findingMode", .enumeration ["off", "substitutions"])])

/-- The shape of a command about a session with the given further properties. -/
def sessionSchema (type : String) (required : List String) (properties : List (String × Schema)) :
    Schema :=
  .object (["protocolVersion", "requestId", "type", "sessionId"] ++ required)
    (envelopeProperties type ++ [("sessionId", .nonEmptyString)] ++ properties)

/-- `sessionGet`. -/
def sessionGetSchema : Schema := sessionSchema "session.get" [] []

/-- `sessionReset`. -/
def sessionResetSchema : Schema := sessionSchema "session.reset" [] [("location", locationSchema)]

/-- `sessionDelete`. -/
def sessionDeleteSchema : Schema := sessionSchema "session.delete" [] []

/-- `observationSubmit`. -/
def observationSubmitSchema : Schema :=
  .both (sessionSchema "observation.submit"
    ["observationId", "sourceRevision", "isFinal", "receivedAtMs", "tokens"]
    observationProperties) partialHasToken

/-- `sessionResume`. -/
def sessionResumeSchema : Schema :=
  sessionSchema "session.resume" ["lastSnapshotRevision"] [("lastSnapshotRevision", .integer 0)]

/-- `command`: one of the commands. -/
def commandSchema : Schema :=
  .oneOf [sessionCreateSchema, sessionGetSchema, sessionResetSchema, sessionDeleteSchema,
    observationSubmitSchema, sessionResumeSchema]

/-! ### The checks -/

/-- `withJsonPreflight`. -/
def withJsonPreflight (schema : Schema) (value : JsValue) : Bool :=
  isPlainJsonValue value && schema.accepts value

/-- The validator of corpora. -/
def corpusValidator : JsValue → Bool := withJsonPreflight corpusSchema

/-- The validator of observations. -/
def observationValidator : JsValue → Bool := withJsonPreflight observationSchema

/-- The validator of commands. -/
def commandValidator : JsValue → Bool := withJsonPreflight commandSchema

/-- The text of a field that holds a string. -/
def JsValue.textField (value : JsValue) (name : String) : String :=
  ((value.field name).text?).getD ""

/-- Whether the ids of a corpus break a rule the shapes cannot state. -/
def corpusIdsInvalid (corpus : JsValue) : Bool :=
  let symbolIds := (corpus.field "symbols").items.map (JsValue.textField · "id")
  let wordIds := (corpus.field "words").items.map (JsValue.textField · "id")
  !decide symbolIds.Nodup || !decide wordIds.Nodup || symbolIds.any isBlank ||
    (corpus.field "words").items.any fun word =>
      let references := (word.field "symbolIds").items.map fun id => (JsValue.text? id).getD ""
      isBlank (word.textField "id") || !decide references.Nodup ||
        references.any fun reference => isBlank reference || !symbolIds.contains reference

/-- `assertValidCorpus`. -/
def assertValidCorpus (value : JsValue) : Except QaraaProtocolError Unit :=
  if corpusValidator value = false then .error (invalidCorpus .schemaValidation)
  else if corpusIdsInvalid value then .error (invalidCorpus .domainValidation)
  else .ok ()

/-- Only a `TypeError` of the domain check becomes a protocol error. -/
def assertObservationDomain (value : JsValue) : Except ServiceError RecitationObservation :=
  match validateObservation value with
  | .ok observation => .ok observation
  | .error (.typeError _) => .error (.protocol (invalidObservation .domainValidation))
  | .error error => .error (.js error)

/-- `assertValidObservation`. -/
def assertValidObservation (value : JsValue) : Except ServiceError RecitationObservation :=
  if observationValidator value = false then
    .error (.protocol (invalidObservation .schemaValidation))
  else assertObservationDomain value

/-- Validates a v1 command plus semantic observation limits. -/
def assertValidCommand (value : JsValue) : Except ServiceError Unit :=
  let isSubmission := (value.field "type").text? == some "observation.submit"
  if commandValidator value = false then
    .error (.protocol ⟨if isSubmission then .invalidObservation else .invalidCorpus,
      "Command payload is invalid", false, .schemaValidation⟩)
  else if isSubmission then do
    let _ ← assertObservationDomain value
    return ()
  else .ok ()

/-! ### An accepted submission carries an accepted observation -/

lemma Schema.acceptsFields_iff {properties : List (String × Schema)}
    {fields : List (String × JsValue)} : Schema.acceptsFields properties fields = true ↔
      ∀ property ∈ properties, ∀ value, List.lookup property.1 fields = some value →
        property.2.accepts value = true := by
  induction properties with
  | nil => simp [Schema.acceptsFields]
  | cons property rest ih =>
      obtain ⟨name, schema⟩ := property
      rw [Schema.acceptsFields, Bool.and_eq_true, ih, List.forall_mem_cons]
      refine and_congr_left fun _ => ?_
      cases List.lookup name fields with
      | none => simp
      | some value => simp

/-- A value of a closed shape has the shape of each property in each field. -/
lemma Schema.accepts_field {required : List String} {properties : List (String × Schema)}
    {fields : List (String × JsValue)}
    (h : (Schema.object required properties).accepts (.object fields) = true) {name : String}
    {schema : Schema} (hmem : (name, schema) ∈ properties) {value : JsValue}
    (hvalue : List.lookup name fields = some value) : schema.accepts value = true := by
  rw [Schema.accepts, Bool.and_eq_true] at h
  exact Schema.acceptsFields_iff.mp h.2 _ hmem value hvalue

/-- A command has the type its shape names. -/
lemma accepts_type {type text : String} {required : List String}
    {properties : List (String × Schema)} {fields : List (String × JsValue)}
    (hmem : ("type", Schema.enumeration [type]) ∈ properties)
    (htype : List.lookup "type" fields = some (.string text))
    (h : (Schema.object required properties).accepts (.object fields) = true) : text = type := by
  have hfield := Schema.accepts_field h hmem htype
  simpa [Schema.accepts] using hfield

/-- An accepted command of type `observation.submit` has the shape of a submission. -/
lemma accepts_submission {fields : List (String × JsValue)}
    (htype : List.lookup "type" fields = some (.string "observation.submit"))
    (h : commandSchema.accepts (.object fields) = true) :
    observationSubmitSchema.accepts (.object fields) = true := by
  have hother : ∀ (type : String) (required : List String) (properties : List (String × Schema)),
      ("type", Schema.enumeration [type]) ∈ properties → type ≠ "observation.submit" →
        (Schema.object required properties).accepts (.object fields) = false := by
    intro type required properties hmem hne
    refine Bool.eq_false_iff.mpr fun haccepts => hne ?_
    exact (accepts_type hmem htype haccepts).symm
  have henvelope : ∀ type, ("type", Schema.enumeration [type]) ∈ envelopeProperties type := by
    intro type
    simp [envelopeProperties]
  have hsession : ∀ (type : String) (required : List String) (properties : List (String × Schema)),
      type ≠ "observation.submit" →
        (sessionSchema type required properties).accepts (.object fields) = false :=
    fun type required properties hne => hother type _ _
      (List.mem_append_left _ (List.mem_append_left _ (henvelope type))) hne
  have hcreate : sessionCreateSchema.accepts (.object fields) = false :=
    hother "session.create" _ _ (List.mem_append_left _ (henvelope _)) (by decide)
  have hget : sessionGetSchema.accepts (.object fields) = false := hsession _ _ _ (by decide)
  have hreset : sessionResetSchema.accepts (.object fields) = false := hsession _ _ _ (by decide)
  have hdelete : sessionDeleteSchema.accepts (.object fields) = false := hsession _ _ _ (by decide)
  have hresume : sessionResumeSchema.accepts (.object fields) = false := hsession _ _ _ (by decide)
  by_contra hnot
  rw [commandSchema, Schema.accepts] at h
  simp [Schema.countAccepts, hcreate, hget, hreset, hdelete, hresume, hnot] at h

/-- The domain check reads the same fields from a submission and from its observation. -/
lemma validateObservation_toJson (command : ObservationSubmitCommand) :
    validateObservation command.toJson = validateObservation command.observation := rfl

/-- **An accepted submission carries an accepted observation.** -/
theorem observation_of_command {command : ObservationSubmitCommand}
    (h : assertValidCommand command.toJson = .ok ()) :
    ∃ observation, assertValidObservation command.observation = .ok observation ∧
      validateObservation command.observation = .ok observation := by
  have hsubmission : ((command.toJson.field "type").text? == some "observation.submit") = true :=
    rfl
  rw [assertValidCommand] at h
  simp only [hsubmission, if_true] at h
  split at h
  · cases h
  · rename_i hvalid
    rw [Bool.not_eq_false, commandValidator, withJsonPreflight, Bool.and_eq_true] at hvalid
    obtain ⟨hplain, haccepts⟩ := hvalid
    have hsubmit := accepts_submission rfl haccepts
    rw [observationSubmitSchema, Schema.accepts, Bool.and_eq_true] at hsubmit
    obtain ⟨hfields, hfinality⟩ := hsubmit
    obtain ⟨observation, hdomain⟩ : ∃ observation,
        assertObservationDomain command.toJson = .ok observation := by
      cases hdomain : assertObservationDomain command.toJson with
      | ok observation => exact ⟨observation, rfl⟩
      | error e => simp [hdomain] at h
    have hshape : observationValidator command.observation = true := by
      rw [observationValidator, withJsonPreflight, Bool.and_eq_true]
      constructor
      · simp only [ObservationSubmitCommand.toJson, isPlainJsonValue, arePlainFields,
          Bool.and_eq_true] at hplain
        simp only [ObservationSubmitCommand.observation, isPlainJsonValue, arePlainFields,
          Bool.and_eq_true]
        exact hplain.2.2.2.2
      · rw [observationSchema, Schema.accepts, Bool.and_eq_true]
        refine ⟨?_, hfinality⟩
        rw [ObservationSubmitCommand.observation, Schema.accepts, Bool.and_eq_true]
        refine ⟨by simp [OrderedMap.lookup_cons, observationProperties], ?_⟩
        refine Schema.acceptsFields_iff.mpr fun property hmem value hvalue => ?_
        refine Schema.accepts_field hfields (List.mem_append_right _ hmem) ?_
        -- the observation's fields stand in the command under the same names
        simp only [observationProperties, List.mem_cons, List.not_mem_nil, or_false] at hmem
        rcases hmem with rfl | rfl | rfl | rfl | rfl <;> exact hvalue
    refine ⟨observation, ?_, ?_⟩
    · rw [assertValidObservation, if_neg (by rw [hshape]; rintro ⟨⟩)]
      exact hdomain
    · rw [← validateObservation_toJson]
      rw [assertObservationDomain] at hdomain
      split at hdomain
      · rename_i found hok
        cases hdomain
        exact hok
      · cases hdomain
      · cases hdomain

end Qaraa
