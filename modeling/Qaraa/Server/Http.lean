import Qaraa.Server.KnownErrors

/-!
`packages/server/src/http.ts`: the check of a request body, and what the service reads from
a body that has passed it.

* `assertCommand`: the protocol version, the shape, the semantic limits.
* `readCreate`, `readSubmit`: the body as the command it is taken for.
* `AcceptedBody`: what a body that passes looks like; `assertCommand_refuses`: what the others
  are answered with.
* `findingMode_known`: an accepted creation asks for a finding mode the tracker knows.
* `observation_of_body`: **an accepted submission carries an accepted observation**, whatever
  else its body looks like.
-/

namespace Qaraa.SessionService

open Fallible Ordered

/-! ### The check -/

/-- `name in value`. -/
def hasField (value : JsValue) (name : String) : Bool :=
  match value with
  | .object fields => (List.lookup name fields).isSome
  | _ => false

/-- `value === PROTOCOL_VERSION`. -/
def isProtocolVersion : JsValue → Bool
  | .number (.finite q) => decide (q = PROTOCOL_VERSION)
  | _ => false

/-- `assertCommand`. -/
def assertCommand (value : JsValue) (type : String) : Except ServiceError Unit :=
  if hasField value "protocolVersion"
      && !isProtocolVersion (value.field "protocolVersion") then
    .error (.protocol ⟨.unsupportedProtocol, "Protocol version is not supported", false,
      .supportedProtocolVersion PROTOCOL_VERSION⟩)
  else if commandValidator value = false ∨ (value.field "type").text? ≠ some type then
    .error (.protocol ⟨if type = "observation.submit" then .invalidObservation else .invalidCorpus,
      "Request payload is invalid", false, .commandValidation⟩)
  else assertValidCommand value

/-! ### The commands read -/

/-- The number of an address. -/
def addressPart : JsValue → ℕ
  | .number (.finite q) => q.num.toNat
  | _ => 0

/-- The location of a body. -/
def readLocation (value : JsValue) : QuranLocation :=
  ⟨addressPart (value.field "surah"), addressPart (value.field "ayah"),
    addressPart (value.field "word"), addressPart (value.field "symbol")⟩

/-- The body as a creation. -/
def readCreate (value : JsValue) : SessionCreateCommand where
  requestId := value.textField "requestId"
  corpusId := value.textField "corpusId"
  initialLocation :=
    if hasField value "initialLocation" then some (readLocation (value.field "initialLocation"))
    else none
  findingMode := (value.field "findingMode").text?

/-- The body as a submission. -/
def readSubmit (value : JsValue) : ObservationSubmitCommand where
  requestId := value.textField "requestId"
  sessionId := value.textField "sessionId"
  observationId := value.field "observationId"
  sourceRevision := value.field "sourceRevision"
  isFinal := value.field "isFinal"
  receivedAtMs := value.field "receivedAtMs"
  tokens := value.field "tokens"

/-! ### What an accepted body looks like -/

lemma lookup_of_text {value : JsValue} {name text : String}
    (h : (value.field name).text? = some text) :
    ∃ fields, value = .object fields ∧ List.lookup name fields = some (.string text) := by
  cases value with
  | object fields =>
      refine ⟨fields, rfl, ?_⟩
      rw [JsValue.field] at h
      cases hlookup : List.lookup name fields with
      | none =>
          rw [hlookup] at h
          cases h
      | some found =>
          rw [hlookup, Option.getD_some] at h
          cases found with
          | string found =>
              rw [JsValue.text?, Option.some_inj] at h
              rw [h]
          | _ => cases h
  | _ => cases h

/-- A body that passes is an object of the named type and of a command's shape. -/
structure AcceptedBody (value : JsValue) (type : String) (fields : List (String × JsValue)) :
    Prop where
  object : value = .object fields
  type : List.lookup "type" fields = some (.string type)
  plain : isPlainJsonValue value = true
  shape : commandSchema.accepts value = true
  valid : assertValidCommand value = .ok ()

lemma assertCommand_ok {value : JsValue} {type : String} (h : assertCommand value type = .ok ()) :
    ∃ fields, AcceptedBody value type fields := by
  rw [assertCommand] at h
  split at h
  · cases h
  split at h
  · cases h
  · rename_i hbody
    rw [not_or, not_not, Bool.not_eq_false, commandValidator, withJsonPreflight,
      Bool.and_eq_true] at hbody
    obtain ⟨⟨hplain, hshape⟩, htype⟩ := hbody
    obtain ⟨fields, hvalue, hlookup⟩ := lookup_of_text htype
    exact ⟨fields, hvalue, hlookup, hplain, hshape, h⟩

/-- The error is a protocol error with one of the codes. -/
def RefusedWith (codes : List QaraaErrorCode) (error : ServiceError) : Prop :=
  ∃ e, error = .protocol e ∧ e.code ∈ codes

/-- A body is refused with a protocol error of a fault of the caller. -/
theorem assertCommand_refuses (value : JsValue) (type : String) :
    FailsIn (RefusedWith [.unsupportedProtocol, .invalidObservation, .invalidCorpus])
      (assertCommand value type) := by
  have hdomain : FailsIn (· = .protocol (invalidObservation .domainValidation))
      (assertObservationDomain value) := by
    rw [assertObservationDomain]
    split
    · exact .ok _
    · exact .error rfl
    · rename_i error hother herror
      -- a listed error is a `TypeError`
      have hlisted := validateObservation_listed value error herror
      cases error with
      | typeError message => exact absurd rfl (hother message)
      | rangeError message => cases hlisted
  rw [assertCommand]
  split
  · exact .error ⟨_, rfl, by simp⟩
  split
  · exact .error ⟨_, rfl, by split <;> simp⟩
  rw [assertValidCommand]
  split
  · exact .error ⟨_, rfl, by split <;> simp⟩
  split
  · refine FailsIn.bind (fun error herror => ?_) fun _ _ => .pure _
    exact ⟨_, hdomain error herror, by simp [invalidObservation]⟩
  · exact .ok _

lemma exists_of_countAccepts {schemas : List Schema} {value : JsValue}
    (h : Schema.countAccepts schemas value ≠ 0) :
    ∃ schema ∈ schemas, schema.accepts value = true := by
  induction schemas with
  | nil => exact absurd rfl h
  | cons schema rest ih =>
      by_cases hschema : schema.accepts value = true
      · exact ⟨schema, by simp, hschema⟩
      · rw [Schema.countAccepts, if_neg hschema, Nat.zero_add] at h
        obtain ⟨found, hmem, hfound⟩ := ih h
        exact ⟨found, by simp [hmem], hfound⟩

/-- An accepted body of type `session.create` has the shape of a creation. -/
lemma accepts_creation {value : JsValue} {fields : List (String × JsValue)}
    (h : AcceptedBody value "session.create" fields) :
    sessionCreateSchema.accepts (.object fields) = true := by
  have hother : ∀ type required properties, type ≠ "session.create" →
      (sessionSchema type required properties).accepts (.object fields) ≠ true := by
    intro type required properties hne haccepts
    have hmem : ("type", Schema.enumeration [type]) ∈
        envelopeProperties type ++ [("sessionId", .nonEmptyString)] ++ properties := by
      simp [envelopeProperties]
    exact hne (accepts_type hmem h.type haccepts).symm
  have hshape := h.shape
  rw [h.object, commandSchema, Schema.accepts, beq_iff_eq] at hshape
  obtain ⟨schema, hmem, haccepts⟩ :=
    exists_of_countAccepts (by rw [hshape]; exact one_ne_zero)
  simp only [List.mem_cons, List.not_mem_nil, or_false] at hmem
  rcases hmem with rfl | rfl | rfl | rfl | rfl | rfl
  · exact haccepts
  · exact absurd haccepts (hother _ _ _ (by decide))
  · exact absurd haccepts (hother _ _ _ (by decide))
  · exact absurd haccepts (hother _ _ _ (by decide))
  · rw [observationSubmitSchema, Schema.accepts, Bool.and_eq_true] at haccepts
    exact absurd haccepts.1 (hother _ _ _ (by decide))
  · exact absurd haccepts (hother _ _ _ (by decide))

lemma field_of_lookup {name : String} {fields : List (String × JsValue)} {found : JsValue}
    (h : List.lookup name fields = some found) :
    (JsValue.object fields).field name = found := by
  rw [JsValue.field, h, Option.getD_some]

/-- The finding mode an accepted creation asks for is one the tracker knows. -/
lemma findingMode_known {value : JsValue} {fields : List (String × JsValue)}
    (h : AcceptedBody value "session.create" fields) :
    (readCreate value).findingMode ∈ [none, some "off", some "substitutions"] := by
  have hshape := accepts_creation h
  rw [readCreate, h.object]
  cases hlookup : List.lookup "findingMode" fields with
  | none => simp [JsValue.field, hlookup, JsValue.text?]
  | some found =>
      have hmode := Schema.accepts_field hshape
        (List.mem_append_right _ (by simp :
          ("findingMode", Schema.enumeration ["off", "substitutions"]) ∈ _)) hlookup
      rw [field_of_lookup hlookup]
      cases found with
      | string text =>
          simp only [Schema.accepts, List.contains_iff_mem, List.mem_cons, List.not_mem_nil,
            or_false] at hmode
          rcases hmode with rfl | rfl <;> simp [JsValue.text?]
      | _ => simp [JsValue.text?]

/-! ### An accepted submission -/

/-- The names of an observation's fields. -/
def observationNames : List String :=
  ["observationId", "sourceRevision", "isFinal", "receivedAtMs", "tokens"]

/-- The domain check reads the five fields of an observation. -/
lemma validateObservation_congr {value source : JsValue}
    (hrecord : isRecord value = isRecord source)
    (hfields : ∀ name ∈ observationNames, value.field name = source.field name) :
    validateObservation value = validateObservation source := by
  simp only [observationNames, List.forall_mem_cons] at hfields
  obtain ⟨hid, hrevision, hfinal, hreceived, htokens, -⟩ := hfields
  rw [validateObservation, validateObservation, hrecord, hid, hrevision, hfinal, hreceived, htokens]

lemma plain_of_lookup {name : String} {fields : List (String × JsValue)} {found : JsValue}
    (h : arePlainFields fields = true) (hlookup : List.lookup name fields = some found) :
    isPlainJsonValue found = true := by
  have hmem := OrderedMap.mem_of_lookup hlookup
  clear hlookup
  induction fields with
  | nil => simp at hmem
  | cons field rest ih =>
      rw [arePlainFields, Bool.and_eq_true] at h
      rcases List.mem_cons.mp hmem with rfl | hrest
      · exact h.1
      · exact ih h.2 hrest

/-- The observation read off an accepted submission has the shape of an observation. -/
lemma readSubmit_shape {value : JsValue} {fields : List (String × JsValue)}
    (h : AcceptedBody value "observation.submit" fields) :
    observationValidator (readSubmit value).observation = true := by
  have hshape := h.shape
  rw [h.object] at hshape
  have hsubmit := accepts_submission h.type hshape
  rw [observationSubmitSchema, Schema.accepts, Bool.and_eq_true] at hsubmit
  obtain ⟨hclosed, hpartial⟩ := hsubmit
  have hfound : ∀ name ∈ observationNames,
      List.lookup name fields = some (value.field name) := by
    intro name hname
    have hrequired := hclosed
    rw [sessionSchema, Schema.accepts, Bool.and_eq_true, Bool.and_eq_true,
      List.all_eq_true] at hrequired
    obtain ⟨found, hlookup⟩ := Option.isSome_iff_exists.mp
      (hrequired.1.1 name (List.mem_append_right _ hname))
    rw [hlookup, h.object, field_of_lookup hlookup]
  have hplain := h.plain
  rw [h.object, isPlainJsonValue] at hplain
  have hplains : ∀ name ∈ observationNames, isPlainJsonValue (value.field name) = true :=
    fun name hname => plain_of_lookup hplain (hfound name hname)
  have hproperty : ∀ property ∈ observationProperties,
      property.2.accepts (value.field property.1) = true := by
    intro property hmem
    refine Schema.accepts_field hclosed (List.mem_append_right _ hmem) (hfound _ ?_)
    simp only [observationProperties, List.mem_cons, List.not_mem_nil, or_false] at hmem
    rcases hmem with rfl | rfl | rfl | rfl | rfl <;> simp [observationNames]
  rw [observationValidator, withJsonPreflight, Bool.and_eq_true]
  constructor
  · simp only [observationNames, List.forall_mem_cons] at hplains
    simp [ObservationSubmitCommand.observation, readSubmit, isPlainJsonValue, arePlainFields,
      hplains]
  · rw [observationSchema, Schema.accepts, Bool.and_eq_true]
    constructor
    · rw [ObservationSubmitCommand.observation, Schema.accepts, Bool.and_eq_true]
      refine ⟨by simp [OrderedMap.lookup_cons, observationProperties], ?_⟩
      refine Schema.acceptsFields_iff.mpr fun property hmem found hlookup => ?_
      have haccepts := hproperty property hmem
      simp only [observationProperties, List.mem_cons, List.not_mem_nil, or_false] at hmem
      rcases hmem with rfl | rfl | rfl | rfl | rfl <;> cases hlookup <;> exact haccepts
    · -- the finality rule reads two of the fields
      simp only [observationNames, List.forall_mem_cons] at hfound
      simp only [partialHasToken, Schema.accepts, hfound] at hpartial
      exact hpartial

/-- **An accepted submission carries an accepted observation.** -/
theorem observation_of_body {value : JsValue}
    (h : assertCommand value "observation.submit" = .ok ()) :
    ∃ o : CheckedObservation, admitObservation (readSubmit value) = .ok o ∧
      o.value = (readSubmit value).observation := by
  obtain ⟨fields, hbody⟩ := assertCommand_ok h
  have hsame : validateObservation value
      = validateObservation (readSubmit value).observation := by
    refine validateObservation_congr (by rw [hbody.object]; rfl) fun name hname => ?_
    simp only [observationNames, List.mem_cons, List.not_mem_nil, or_false] at hname
    rcases hname with rfl | rfl | rfl | rfl | rfl <;> rfl
  obtain ⟨observation, hchecked⟩ :
      ∃ observation, validateObservation (readSubmit value).observation = .ok observation := by
    have hvalid := hbody.valid
    have hsubmission : ((value.field "type").text? == some "observation.submit") = true := by
      rw [hbody.object, field_of_lookup hbody.type]
      rfl
    rw [assertValidCommand] at hvalid
    simp only [hsubmission, if_true] at hvalid
    split at hvalid
    · cases hvalid
    · rw [bind_eq_ok] at hvalid
      obtain ⟨observation, hdomain, -⟩ := hvalid
      rw [assertObservationDomain, hsame] at hdomain
      split at hdomain
      · rename_i found hfound
        exact ⟨found, hfound⟩
      · cases hdomain
      · cases hdomain
  refine admitObservation_of_checked ?_ hchecked
  rw [assertValidObservation, if_neg (by rw [readSubmit_shape hbody]; rintro ⟨⟩),
    assertObservationDomain, hchecked]

end Qaraa.SessionService
