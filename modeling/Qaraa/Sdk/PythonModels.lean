import Qaraa.Sdk.Observations

/-!
`sdk/python/src/qaraa/models.py`: the observation of the Python client and its validators.

The constraints of a field are checked by the model library. On the field types used here
they are a length, a range and the functions of the module; the comparisons `ge` and `le`
of the ranges are the library's, and parameters here.

* `RecitationObservation`: an instance, with the entries of no field in `extra`.
* `safeJson`, `validateExtensions`, `validatePartial`: the validators of the module.
* `Accepts`: the constraints hold and the validators return.
-/

namespace Qaraa.Sdk.Python

open Fallible Entries

/-! ### Instances -/

/-- `ObservationToken`. -/
structure ObservationToken where
  id : String
  text : String
  phonemes : List String
  startMs : Option JsNumber
  endMs : Option JsNumber
  confidence : Option JsNumber
  extra : Entries

/-- The names of the fields on the wire. -/
def aliases : List String :=
  ["observationId", "sourceRevision", "isFinal", "receivedAtMs", "tokens"]

/-- `RecitationObservation`. -/
structure RecitationObservation where
  observationId : String
  sourceRevision : ℤ
  isFinal : Bool
  receivedAtMs : JsNumber
  tokens : List ObservationToken
  extra : Entries
  extra_distinct : (keys extra).Nodup
  /-- An entry of a field is not an extra one. -/
  extra_unknown : ∀ key ∈ keys extra, key ∉ aliases

/-! ### Validators -/

/-- `str.isspace` of one character. -/
def isSpace (c : Char) : Bool :=
  (9 ≤ c.toNat && c.toNat ≤ 13) || (0x1C ≤ c.toNat && c.toNat ≤ 0x20) || c.toNat == 0x85 ||
    c.toNat == 0xA0 || c.toNat == 0x1680 || (0x2000 ≤ c.toNat && c.toNat ≤ 0x200A) ||
    c.toNat == 0x2028 || c.toNat == 0x2029 || c.toNat == 0x202F || c.toNat == 0x205F ||
    c.toNat == 0x3000

/-- `_non_blank`: `not value.strip()`. -/
def nonBlank (value : String) : Except String String :=
  if value.toList.all isSpace then .error "string must not be blank" else .ok value

mutual

/-- `_safe_json`. -/
def safeJson (depth : ℕ) (value : Json) : Except String Unit := do
  failIf (64 < depth) "extension JSON nesting exceeds 64"
  match value with
  | .int n => failIf (maxSafeInteger < n.natAbs) "extension integer exceeds JSON safe range"
  | .double x => failIf (x.isFinite = false) "extension number must be finite"
  | .list items => safeItems (depth + 1) items
  | .map entries => safeEntries (depth + 1) entries
  | _ => return ()

/-- All items are safe. -/
def safeItems (depth : ℕ) : List Json → Except String Unit
  | [] => .ok ()
  | item :: items => do
      safeJson depth item
      safeItems depth items

/-- All entries are safe. -/
def safeEntries (depth : ℕ) : List (String × Json) → Except String Unit
  | [] => .ok ()
  | (_, value) :: entries => do
      safeJson depth value
      safeEntries depth entries

end

/-- `validate_extensions`. -/
def validateExtensions (extra : Entries) : Except String Unit := safeEntries 0 extra

/-- One round of the loop of `validate_partial`. Only a present end is carried to the next
token. -/
def visitToken (previous : JsNumber) (token : ObservationToken) : Except String JsNumber := do
  failIf (∃ start ∈ token.startMs, start.lt previous = true) "token timestamps must not decrease"
  failIf (∃ finish ∈ token.endMs, ∃ start ∈ token.startMs, finish.lt start = true)
    "token timestamps must not decrease"
  return token.endMs.getD previous

/-- `validate_partial`. -/
def validatePartial (v : RecitationObservation) : Except String Unit := do
  failIf (v.isFinal = false ∧ v.tokens = []) "partial observation requires a token"
  let _ ← v.tokens.foldlM visitToken (.finite (-1))
  return ()

/-! ### Acceptance -/

section

variable (ge le : JsNumber → ℚ → Bool)

/-- `Annotated[ProtocolFloat, Field(ge=0)]`. -/
def isProtocolFloat (x : JsNumber) : Bool := ge x 0

/-- `UnitFloat`. -/
def isUnitFloat (x : JsNumber) : Bool := ge x 0 && le x 1

/-- The constraints of a token's fields, and its validator. -/
structure TokenAccepted (v : ObservationToken) : Prop where
  id : v.id ≠ ""
  startMs : ∀ x ∈ v.startMs, isProtocolFloat ge x = true
  endMs : ∀ x ∈ v.endMs, isProtocolFloat ge x = true
  confidence : ∀ x ∈ v.confidence, isUnitFloat ge le x = true
  extensions : validateExtensions v.extra = .ok ()

/-- The constraints of an observation's fields, and its validators. -/
structure Accepts (v : RecitationObservation) : Prop where
  observationId : v.observationId ≠ "" ∧ nonBlank v.observationId = .ok v.observationId
  sourceRevision : 0 ≤ v.sourceRevision
  receivedAtMs : isProtocolFloat ge v.receivedAtMs = true
  tokens : ∀ token ∈ v.tokens, TokenAccepted ge le token
  extensions : validateExtensions v.extra = .ok ()
  isPartial : validatePartial v = .ok ()

end

end Qaraa.Sdk.Python
