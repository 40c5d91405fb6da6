import Qaraa.Core.Validate

/-!
`packages/sherpa-onnx/src/normalize.ts`: recognizer-shaped output as a core observation.

Seconds become milliseconds in exact arithmetic. A token mapper is called once for each token,
so it is a function of the token and its index.

* `SherpaNormalizationError`: what the conversion throws.
* `validTimestampArray`, `probabilities`: the timing and the confidences, or nothing.
* `requireOptions`, `requireTokens`, `mapToken`: the checks of the input.
* `ObservationToken.toValue`, `RecitationObservation.toValue`: an observation as the value
  `validateObservation` sees.
* `normalizeSherpaResult`: the conversion.
-/

namespace Qaraa

/-! ### Observations as values -/

/-- A rational number as a value. -/
def exactNumber (q : ℚ) : JsValue := .number (.finite q)

/-- A field that may be left out. -/
def optionalField (name : String) (value : Option ℚ) : List (String × JsValue) :=
  (value.map fun q => (name, exactNumber q)).toList

/-- The token as a value. -/
def ObservationToken.toValue (token : ObservationToken) : JsValue :=
  .object ([("id", .string token.id), ("text", .string token.text),
      ("phonemes", .array (token.phonemes.map .string))]
    ++ optionalField "startMs" token.startMs ++ optionalField "endMs" token.endMs
    ++ optionalField "confidence" token.confidence)

/-- The observation as a value. -/
def RecitationObservation.toValue (observation : RecitationObservation) : JsValue :=
  .object [("observationId", .string observation.observationId),
    ("sourceRevision", exactNumber observation.sourceRevision),
    ("isFinal", .bool observation.isFinal), ("receivedAtMs", exactNumber observation.receivedAtMs),
    ("tokens", .array (observation.tokens.map ObservationToken.toValue))]

namespace Sherpa

open Fallible

/-! ### Errors -/

/-- `SherpaNormalizationErrorCode`. -/
inductive SherpaNormalizationErrorCode where
  | invalidOptions
  | invalidResult
  | invalidTokenMapping
  | unknownToken
  deriving DecidableEq

/-- `SherpaNormalizationError`. -/
structure SherpaNormalizationError where
  code : SherpaNormalizationErrorCode
  message : String
  token : Option String := none
  index : Option ℕ := none
  deriving DecidableEq

/-! ### Arrays beside the tokens -/

/-- `validProbabilityArray`. -/
def validProbabilityArray (value : JsValue) (tokenCount : ℕ) : Option (List ℚ) :=
  match value with
  | .array values =>
      if values.length = tokenCount then
        values.mapM fun
          | .number (.finite q) => if 0 ≤ q ∧ q ≤ 1 then some q else none
          | _ => none
      else none
  | _ => none

/-- `Math.round`. -/
def mathRound (q : ℚ) : ℤ := ⌊q + 1 / 2⌋

/-- The least product that is an infinite double. -/
def overflow : ℚ := 2 ^ 1024 - 2 ^ 970

/-- The loop of `validTimestampArray` after the timestamp `previousSeconds`. -/
def timestampsFrom (previousSeconds : Option ℚ) : List JsValue → Option (List ℚ)
  | [] => some []
  | .number (.finite timestamp) :: rest =>
      if timestamp < 0 ∨ ∃ previous ∈ previousSeconds, timestamp < previous then none
      else if overflow ≤ timestamp * 1000 then none
      else (timestampsFrom (some timestamp) rest).map ((mathRound (timestamp * 1000) : ℚ) :: ·)
  | _ :: _ => none

/-- The timestamps in milliseconds, when the whole array is an ordered, non-negative, finite
one aligned to the tokens. -/
def validTimestampArray (value : JsValue) (tokenCount : ℕ) : Option (List ℚ) :=
  match value with
  | .array values => if values.length = tokenCount then timestampsFrom none values else none
  | _ => none

/-- `name in value`. -/
def hasProperty (value : JsValue) (name : String) : Bool :=
  match value with
  | .object fields => fields.any fun field => field.1 == name
  | _ => false

/-- `probabilities`: one of the arrays the result may carry. -/
def probabilities (result : JsValue) (tokenCount : ℕ) : Option (List ℚ) :=
  if hasProperty result "ys_probs" then validProbabilityArray (result.field "ys_probs") tokenCount
  else validProbabilityArray (result.field "ysProbs") tokenCount

/-! ### Options, tokens and mappings -/

/-- `TokenMapper`: what a token and its index are mapped to. -/
abbrev TokenMapper := String → ℕ → JsValue

/-- The options as the consumer hands them over; the mapper is missing when it is not a
function. -/
structure NormalizeSherpaResultOptions where
  observationId : JsValue
  sourceRevision : JsValue
  isFinal : JsValue
  receivedAtMs : JsValue
  tokenMapper : Option TokenMapper

/-- Options that have passed `requireOptions`. -/
structure CheckedOptions where
  observationId : String
  sourceRevision : ℕ
  isFinal : Bool
  receivedAtMs : ℚ
  tokenMapper : TokenMapper

/-- The error of the options. -/
def invalidOptions {α : Type} (message : String) : Except SherpaNormalizationError α :=
  .error { code := .invalidOptions, message := message }

/-- The id of the options. -/
def checkedObservationId (value : JsValue) : Except SherpaNormalizationError String :=
  match value with
  | .string s =>
      if isBlank s then invalidOptions "observationId must be a non-empty string" else .ok s
  | _ => invalidOptions "observationId must be a non-empty string"

/-- The source revision of the options. -/
def checkedSourceRevision (value : JsValue) : Except SherpaNormalizationError ℕ :=
  match value with
  | .number (.finite q) =>
      if isSafeInteger (.finite q) ∧ 0 ≤ q then .ok q.num.toNat
      else invalidOptions "sourceRevision must be a non-negative safe integer"
  | _ => invalidOptions "sourceRevision must be a non-negative safe integer"

/-- The flag of the options. -/
def checkedIsFinal (value : JsValue) : Except SherpaNormalizationError Bool :=
  match value with
  | .bool b => .ok b
  | _ => invalidOptions "isFinal must be a boolean"

/-- The time of the options. -/
def checkedReceivedAtMs (value : JsValue) : Except SherpaNormalizationError ℚ :=
  match value with
  | .number (.finite q) =>
      if q < 0 then invalidOptions "receivedAtMs must be a non-negative finite number" else .ok q
  | _ => invalidOptions "receivedAtMs must be a non-negative finite number"

/-- The options are `none` when they are not an object. -/
def requireOptions (options : Option NormalizeSherpaResultOptions) :
    Except SherpaNormalizationError CheckedOptions := do
  let options ← options.elim (invalidOptions "options must be an object") .ok
  let observationId ← checkedObservationId options.observationId
  let sourceRevision ← checkedSourceRevision options.sourceRevision
  let isFinal ← checkedIsFinal options.isFinal
  let receivedAtMs ← checkedReceivedAtMs options.receivedAtMs
  let tokenMapper ←
    options.tokenMapper.elim (invalidOptions "tokenMapper must be a function") .ok
  return ⟨observationId, sourceRevision, isFinal, receivedAtMs, tokenMapper⟩

/-- The strings of an array of strings. -/
def stringItems (value : JsValue) : Option (List String) :=
  match value with
  | .array items => items.mapM fun
      | .string s => some s
      | _ => none
  | _ => none

/-- `requireTokens`. -/
def requireTokens (result : JsValue) : Except SherpaNormalizationError (List String) :=
  (stringItems (result.field "tokens")).elim
    (.error { code := .invalidResult, message := "result.tokens must be an array of strings" }) .ok

/-- What a mapper makes of a token. -/
structure MappedToken where
  text : String
  phonemes : List String
  deriving DecidableEq

/-- A mapping with a text and phonemes. -/
def wellFormedMapping (mapped : JsValue) : Option MappedToken :=
  match mapped.field "text", stringItems (mapped.field "phonemes") with
  | .string text, some phonemes => some ⟨text, phonemes⟩
  | _, _ => none

/-- `mapToken`. -/
def mapToken (token : String) (index : ℕ) (options : CheckedOptions) :
    Except SherpaNormalizationError (Option MappedToken) :=
  match options.tokenMapper token index with
  | .null => .ok none
  | .undefined => .error ⟨.unknownToken, "token at index " ++ toString index ++ " is not mapped",
      some token, some index⟩
  | mapped =>
      match wellFormedMapping mapped with
      | some mapping => .ok (some mapping)
      | none => .error ⟨.invalidTokenMapping,
          "token at index " ++ toString index ++ " has an invalid mapping", some token, some index⟩

/-! ### The conversion -/

/-- The id of a token. -/
def tokenId (index : ℕ) : String := "sherpa-" ++ toString index

/-- The token of a mapping, with the times and the confidence of its index. -/
def observationToken (timestampStarts confidence : Option (List ℚ)) (index : ℕ)
    (mapping : MappedToken) : ObservationToken where
  id := tokenId index
  text := mapping.text
  phonemes := mapping.phonemes
  startMs := timestampStarts.bind fun starts => starts[index]?
  endMs := timestampStarts.bind fun starts => starts[index + 1]?
  confidence := confidence.bind fun values => values[index]?

/-- The loop over the tokens from `index` on. -/
def normalizeTokens (options : CheckedOptions) (timestampStarts confidence : Option (List ℚ)) :
    ℕ → List String → Except SherpaNormalizationError (List ObservationToken)
  | _, [] => .ok []
  | index, token :: rest => do
      let mapped ← mapToken token index options
      let normalized ← normalizeTokens options timestampStarts confidence (index + 1) rest
      return (mapped.map (observationToken timestampStarts confidence index)).toList ++ normalized

/-- Normalizes structural recognizer output. -/
def normalizeSherpaResult (result : JsValue) (options : Option NormalizeSherpaResultOptions) :
    Except SherpaNormalizationError RecitationObservation := do
  let options ← requireOptions options
  let tokens ← requireTokens result
  let timestampStarts := validTimestampArray (result.field "timestamps") tokens.length
  let confidence := probabilities result tokens.length
  let normalized ← normalizeTokens options timestampStarts confidence 0 tokens
  let observation : RecitationObservation :=
    ⟨options.observationId, options.sourceRevision, options.isFinal, options.receivedAtMs,
      normalized⟩
  match validateObservation observation.toValue with
  | .ok _ => return observation
  | .error _ =>
      .error { code := .invalidResult, message := "result cannot form a valid core observation" }

end Sherpa

end Qaraa
