import Qaraa.Sdk.Observations

/-!
`sdk/go/qaraa/types.go` and `sdk/go/qaraa/codec.go`: the observation of the Go client, its
validator and its JSON.

A slice may be nil and a pointer may be nil; both are options. The entries of a Go map have
no order, so a map is any list of its entries.

* `validateObservation`: the scalar fields, then the tokens in one pass (`visitToken`).
* `marshalExtras`: the entries of a struct with the extensions that do not collide.
* `unmarshalAny`, `validateJSONSafety`: what a value becomes as `any`, and which values the
  client sends.
-/

namespace Qaraa.Sdk.Go

open Fallible Ordered Entries

/-- `ObservationToken`. -/
structure ObservationToken where
  id : String
  text : String
  phonemes : Option (List String)
  startMs : Option JsNumber
  endMs : Option JsNumber
  confidence : Option JsNumber
  extensions : Entries

/-- `RecitationObservation`. -/
structure RecitationObservation where
  observationId : String
  sourceRevision : UInt64
  isFinal : Bool
  receivedAtMs : JsNumber
  tokens : Option (List ObservationToken)
  extensions : Entries

/-! ### Validation -/

/-- `strings.TrimSpace(value) == ""`: the characters of `unicode.IsSpace`. -/
def trimSpaceIsEmpty (value : String) : Bool :=
  value.toList.all fun c => (9 ≤ c.toNat && c.toNat ≤ 13) || c.toNat == 0x20 || c.toNat == 0x85 ||
    c.toNat == 0xA0 || c.toNat == 0x1680 || (0x2000 ≤ c.toNat && c.toNat ≤ 0x200A) ||
    c.toNat == 0x2028 || c.toNat == 0x2029 || c.toNat == 0x202F || c.toNat == 0x205F ||
    c.toNat == 0x3000

/-- The state of the loop over the tokens of an observation. -/
structure TokenCheck where
  seen : OrderedSet String
  previous : JsNumber

/-- One round of the loop. Only a present end is carried to the next token. -/
def visitToken (pass : TokenCheck) (token : ObservationToken) : Except String TokenCheck := do
  failIf (token.id = "" ∨ pass.seen.has token.id = true)
    "token IDs must be non-empty and unique"
  failIf (∃ start ∈ token.startMs, start.lt (.finite 0) = true ∨ start.lt pass.previous = true)
    "token timestamps must not decrease"
  failIf (∃ finish ∈ token.endMs, finish.lt (.finite 0) = true ∨
    ∃ start ∈ token.startMs, finish.lt start = true) "token timestamps must not decrease"
  failIf (∃ confidence ∈ token.confidence, confidence.lt (.finite 0) = true ∨
    (JsNumber.finite 1).lt confidence = true) "confidence outside unit interval"
  return ⟨pass.seen.add token.id, token.endMs.getD pass.previous⟩

/-- `validateObservation`. -/
def validateObservation (v : RecitationObservation) : Except String Unit := do
  failIf (trimSpaceIsEmpty v.observationId = true) "observationId is required"
  failIf (v.isFinal = false ∧ v.tokens.getD [] = []) "partial observation requires a token"
  failIf (v.receivedAtMs.isFinite = false ∨ v.receivedAtMs.lt (.finite 0) = true)
    "receivedAtMs must be non-negative and finite"
  let _ ← (v.tokens.getD []).foldlM visitToken ⟨.empty, .finite (-1)⟩
  return ()

/-! ### JSON -/

/-- An extension goes in unless its key is taken. -/
def marshalExtras (target extra : Entries) : Entries :=
  extra.foldl (fun all e => if containsKey all e.1 then all else all ++ [e]) target

/-- `json:"name,omitempty"` of a pointer. -/
def omitEmpty (name : String) (value : Option JsNumber) : Entries :=
  match value with
  | none => []
  | some x => [(name, .double x)]

/-- The entries of the token's own fields. -/
def ObservationToken.plain (v : ObservationToken) : Entries :=
  [("id", .string v.id), ("text", .string v.text),
    ("phonemes", v.phonemes.elim .null fun phonemes => .list (phonemes.map .string))] ++
    omitEmpty "startMs" v.startMs ++ omitEmpty "endMs" v.endMs ++
    omitEmpty "confidence" v.confidence

/-- `MarshalJSON` of a token. -/
def ObservationToken.marshalJSON (v : ObservationToken) : Entries :=
  marshalExtras v.plain v.extensions

/-- The entries of the observation's own fields. -/
def RecitationObservation.plain (v : RecitationObservation) : Entries :=
  [("observationId", .string v.observationId), ("sourceRevision", .int v.sourceRevision.toNat),
    ("isFinal", .bool v.isFinal), ("receivedAtMs", .double v.receivedAtMs),
    ("tokens", v.tokens.elim .null fun tokens => .list (tokens.map fun t => .map t.marshalJSON))]

/-- `MarshalJSON` of an observation. -/
def RecitationObservation.marshalJSON (v : RecitationObservation) : Entries :=
  marshalExtras v.plain v.extensions

mutual

/-- Whether every value that is no list and no object passes a test. -/
def everyLeaf (test : Json → Bool) : Json → Bool
  | .list items => everyItem test items
  | .map entries => everyEntry test entries
  | value => test value

/-- The test of every value, in a list. -/
def everyItem (test : Json → Bool) : List Json → Bool
  | [] => true
  | item :: items => everyLeaf test item && everyItem test items

/-- The test of every value, in a map. -/
def everyEntry (test : Json → Bool) : List (String × Json) → Bool
  | [] => true
  | (_, value) :: entries => everyLeaf test value && everyEntry test entries

end

/-- `json.Marshal` writes finite numbers only. -/
def marshals : Json → Bool :=
  everyLeaf fun
    | .double x => x.isFinite
    | _ => true

/-- `json.Unmarshal` into `any` reads integers in the range of `float64` only. -/
def unmarshals : Json → Bool :=
  everyLeaf fun
    | .int n => nearest n.natAbs < 2 ^ 1024
    | _ => true

mutual

/-- `json.Unmarshal` into `any`: every number becomes the nearest `float64`. -/
def unmarshalAny : Json → Json
  | .int n => .double (toDouble n)
  | .list items => .list (itemsAny items)
  | .map entries => .map (entriesAny entries)
  | value => value

/-- The items as `any` values. -/
def itemsAny : List Json → List Json
  | [] => []
  | item :: items => unmarshalAny item :: itemsAny items

/-- The entries as `any` values. -/
def entriesAny : List (String × Json) → List (String × Json)
  | [] => []
  | (key, value) :: entries => (key, unmarshalAny value) :: entriesAny entries

end

/-- A number that is written without a fraction or an exponent is in the safe range. A
`float64` is written so if it is an integer below `1e21`. -/
def numberIsSafe : Json → Bool
  | .int n => n.natAbs ≤ maxSafeInteger
  | .double (.finite q) => !(q.den == 1 && q.num.natAbs < 10 ^ 21) || q.num.natAbs ≤ maxSafeInteger
  | .double _ => false
  | _ => true

mutual

/-- `validateJSONSafety`: nesting of at most 65 delimiters, every number safe. -/
def validateJSONSafety (depth : ℕ) : Json → Bool
  | .list items => depth + 1 ≤ 65 && itemsAreSafe (depth + 1) items
  | .map entries => depth + 1 ≤ 65 && entriesAreSafe (depth + 1) entries
  | value => numberIsSafe value

/-- All items are safe. -/
def itemsAreSafe (depth : ℕ) : List Json → Bool
  | [] => true
  | item :: items => validateJSONSafety depth item && itemsAreSafe depth items

/-- All entries are safe. -/
def entriesAreSafe (depth : ℕ) : List (String × Json) → Bool
  | [] => true
  | (_, value) :: entries => validateJSONSafety depth value && entriesAreSafe depth entries

end

end Qaraa.Sdk.Go
