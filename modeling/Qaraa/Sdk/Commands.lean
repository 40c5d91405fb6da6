import Qaraa.Sdk.DartProtocol
import Qaraa.Sdk.ObservationAgreement

/-!
The `observation.submit` command each native client encodes: `sdk/go/qaraa/client.go`,
`sdk/python/src/qaraa/client.py`, `sdk/dart/lib/src/client.dart` and the command of
`sdk/dart/lib/src/models.dart`.

* `Carries`: an encoded command names its protocol, its type, its request and its session,
  and has the fields of the observation.
* `Go.submitObservation`, `Python.submitObservation`, `Dart.submitObservation`: the entries
  each client hands to its transport.
* `known_fields_win`: which extension fields leave the known ones alone, for each client.
* `override_diverges`: an extension field that replaces the type of the command.
-/

namespace Qaraa.Sdk

open Fallible Ordered OrderedMap Entries
open List (lookup)

/-! ### The command asked for -/

/-- The fields of the token are among the entries; an absent one may be an extension. -/
structure CarriesToken (t : ObservedToken) (entries : Entries) : Prop where
  id : lookup "id" entries = some (.string t.id)
  text : lookup "text" entries = some (.string t.text)
  phonemes : lookup "phonemes" entries =
    some (t.phonemes.elim .null fun phonemes => .list (phonemes.map .string))
  startMs : ∀ x ∈ t.startMs, lookup "startMs" entries = some (.double x)
  endMs : ∀ x ∈ t.endMs, lookup "endMs" entries = some (.double x)
  confidence : ∀ x ∈ t.confidence, lookup "confidence" entries = some (.double x)

/-- **The known fields win**: the command has the protocol version, the type, the request
and the session it was encoded for, and the fields of the observation. -/
structure Carries (requestId sessionId : String) (o : Observed) (payload : Entries) : Prop where
  protocolVersion : ∃ value, lookup "protocolVersion" payload = some value ∧ isOne value = true
  type : lookup "type" payload = some (.string "observation.submit")
  requestId : lookup "requestId" payload = some (.string requestId)
  sessionId : lookup "sessionId" payload = some (.string sessionId)
  observationId : lookup "observationId" payload = some (.string o.observationId)
  sourceRevision : lookup "sourceRevision" payload = some (.int o.sourceRevision) ∨
    lookup "sourceRevision" payload = some (.double (.finite o.sourceRevision))
  isFinal : lookup "isFinal" payload = some (.bool o.isFinal)
  receivedAtMs : lookup "receivedAtMs" payload = some (.double o.receivedAtMs)
  unset : o.tokens = none → lookup "tokens" payload = some .null
  tokens : ∀ tokens ∈ o.tokens, ∃ encoded : List Entries,
    lookup "tokens" payload = some (.list (encoded.map .map)) ∧
      List.Forall₂ CarriesToken tokens encoded

/-! ### Go -/

namespace Go

/-- `command`: the envelope is assigned last. -/
def command (requestId kind : String) (values : Entries) : Except String Entries := do
  let payload := assign "type" (.string kind) (assign "requestId" (.string requestId)
    (assign "protocolVersion" (.int 1) values))
  failIf (marshals (.map payload) = false) "json: unsupported value"
  failIf (validateJSONSafety 0 (.map payload) = false) "JSON value is not safe"
  return payload

/-- `SubmitObservation` up to the transport. -/
def submitObservation (requestId sessionId : String) (observation : RecitationObservation) :
    Except String Entries := do
  validateObservation observation
  failIf (trimSpaceIsEmpty sessionId = true) "sessionID is required"
  let data := observation.marshalJSON
  failIf (marshals (.map data) = false) "json: unsupported value"
  failIf (unmarshals (.map data) = false) "json: cannot unmarshal number"
  command requestId "observation.submit"
    (assign "sessionId" (.string sessionId) (entriesAny data))

end Go

/-! ### Python -/

namespace Python

/-- `_command`. -/
def command (requestId type_ : String) (values : Entries) : Entries :=
  spread [("protocolVersion", .int 1), ("requestId", .string requestId), ("type", .string type_)]
    values

/-- `submit_observation` up to the transport. The dump is passed as keyword arguments, next
to `sessionId` and to the parameters of `_command`: a second value for one of these is a
`TypeError`. -/
def submitObservation (modelDump : RecitationObservation → Entries) (requestId sessionId : String)
    (observation : RecitationObservation) : Except String Entries := do
  let dump := modelDump observation
  failIf (containsKey dump "sessionId" = true ∨ containsKey dump "request_id" = true ∨
    containsKey dump "type_" = true) "TypeError: multiple values for an argument"
  return command requestId "observation.submit" (("sessionId", .string sessionId) :: dump)

/-- `value is None`. -/
def isNull : Json → Bool
  | .null => true
  | _ => false

/-- What `model_dump(by_alias=True, exclude_none=True)` of the model library gives: the
fields under their aliases, then the extra entries, neither with a `None`. -/
structure ModelDump (tokenDump : ObservationToken → Entries)
    (modelDump : RecitationObservation → Entries) : Prop where
  distinct : ∀ o, (keys (modelDump o)).Nodup
  observationId : ∀ o, lookup "observationId" (modelDump o) = some (.string o.observationId)
  sourceRevision : ∀ o, lookup "sourceRevision" (modelDump o) = some (.int o.sourceRevision)
  isFinal : ∀ o, lookup "isFinal" (modelDump o) = some (.bool o.isFinal)
  receivedAtMs : ∀ o, lookup "receivedAtMs" (modelDump o) = some (.double o.receivedAtMs)
  tokens : ∀ o, lookup "tokens" (modelDump o) =
    some (.list ((o.tokens.map tokenDump).map .map))
  extra : ∀ o, ∀ key ∉ aliases,
    lookup key (modelDump o) = (lookup key o.extra).filter fun value => !isNull value
  token : ∀ t, CarriesToken t.observed (tokenDump t)

end Python

/-! ### Dart -/

namespace Dart

/-- `command`: the values are spread over the envelope. -/
def command (requestId type : String) (values : Entries) : Entries :=
  spread [("protocolVersion", .int 1), ("requestId", .string requestId), ("type", .string type)]
    values

/-- `submitObservation` up to the transport. -/
def submitObservation (requestId session : String) (observation : RecitationObservation) :
    Entries :=
  command requestId "observation.submit"
    (spread [("sessionId", .string session)] observation.toJson)

end Dart

/-! ### What a command is read by -/

lemma or_some_eq {α : Type} {o : Option α} {a : α} : o.or (some a) = some a ↔ ∀ b ∈ o, b = a := by
  cases o <;> simp

/-- The keys of the known fields. -/
def submitKeys : List String :=
  ["protocolVersion", "type", "requestId", "sessionId", "observationId", "sourceRevision",
    "isFinal", "receivedAtMs", "tokens"]

/-- Only the known keys matter. -/
lemma Carries.congr {requestId sessionId : String} {o : Observed} {payload payload' : Entries}
    (h : ∀ key ∈ submitKeys, lookup key payload' = lookup key payload)
    (hcarries : Carries requestId sessionId o payload) :
    Carries requestId sessionId o payload' := by
  obtain ⟨h1, h2, h3, h4, h5, h6, h7, h8, h9, h10⟩ := hcarries
  constructor <;> (rw [h _ (by decide)]; assumption)

/-! ### Dart: the extension of the observation is in front -/

namespace Dart

/-- No extension field gives an entry of the envelope another value. -/
structure Harmless (requestId sessionId : String) (extension : Entries) : Prop where
  protocolVersion : ∀ value ∈ lookup "protocolVersion" extension, isOne value = true
  type : ∀ value ∈ lookup "type" extension, value = .string "observation.submit"
  requestId : ∀ value ∈ lookup "requestId" extension, value = .string requestId
  sessionId : ∀ value ∈ lookup "sessionId" extension, value = .string sessionId

section

variable {requestId sessionId : String} {o : RecitationObservation}

/-- The entries of the observation's own fields. -/
def written (o : RecitationObservation) : Entries :=
  [("observationId", .string o.observationId), ("sourceRevision", .int o.sourceRevision),
    ("isFinal", .bool o.isFinal), ("receivedAtMs", .double o.receivedAtMs),
    ("tokens", .list (o.tokens.map fun v => .map v.toJson))]

/-- A key of the command: the observation's own fields, then its extension, then the
session, then the envelope. -/
lemma lookup_submitObservation (hmap : (keys o.extension).Nodup) (key : String) :
    lookup key (submitObservation requestId sessionId o) =
      ((lookup key (written o)).or (lookup key o.extension)).or
        ((lookup key [("sessionId", .string sessionId)]).or
          (lookup key [("protocolVersion", .int 1), ("requestId", .string requestId),
            ("type", .string "observation.submit")])) := by
  have hjson : (keys o.toJson).Nodup := nodup_spread hmap
  have hvalues : (keys (spread [("sessionId", Json.string sessionId)] o.toJson)).Nodup :=
    nodup_spread (by simp [keys])
  have hown : lookup key o.toJson = (lookup key (written o)).or (lookup key o.extension) :=
    lookup_spread (by simp [keys]) key o.extension
  rw [submitObservation, command, lookup_spread hvalues, lookup_spread hjson, hown,
    Option.or_assoc]

lemma token_carries (t : ObservationToken) : CarriesToken t.observed t.toJson := by
  have hknown : ∀ key, lookup key t.toJson = (lookup key t.written).or (lookup key t.extension) :=
    fun key => lookup_spread (List.Nodup.sublist t.keys_written (by decide)) key t.extension
  obtain ⟨hstart, hend, hconfidence⟩ := t.lookup_times
  refine ⟨by rw [hknown]; rfl, by rw [hknown]; rfl, by rw [hknown]; rfl, fun x hx => ?_,
    fun x hx => ?_, fun x hx => ?_⟩
  · rw [hknown, hstart, show t.startMs = some x from hx]
    rfl
  · rw [hknown, hend, show t.endMs = some x from hx]
    rfl
  · rw [hknown, hconfidence, show t.confidence = some x from hx]
    rfl

lemma carries_submitObservation (hmap : (keys o.extension).Nodup) :
    Carries requestId sessionId o.observed (submitObservation requestId sessionId o) ↔
      Harmless requestId sessionId o.extension := by
  have hlookup := @lookup_submitObservation requestId sessionId o hmap
  have hversion : lookup "protocolVersion" (submitObservation requestId sessionId o) =
      (lookup "protocolVersion" o.extension).or (some (.int 1)) := hlookup _
  have htype : lookup "type" (submitObservation requestId sessionId o) =
      (lookup "type" o.extension).or (some (.string "observation.submit")) := hlookup _
  have hrequest : lookup "requestId" (submitObservation requestId sessionId o) =
      (lookup "requestId" o.extension).or (some (.string requestId)) := hlookup _
  have hsession : lookup "sessionId" (submitObservation requestId sessionId o) =
      (lookup "sessionId" o.extension).or (some (.string sessionId)) := hlookup _
  constructor
  · intro h
    refine ⟨fun value hvalue => ?_, or_some_eq.mp (htype ▸ h.type),
      or_some_eq.mp (hrequest ▸ h.requestId), or_some_eq.mp (hsession ▸ h.sessionId)⟩
    obtain ⟨found, hfound, hone⟩ := h.protocolVersion
    rw [hversion, show lookup "protocolVersion" o.extension = some value from hvalue] at hfound
    cases hfound
    exact hone
  · intro h
    refine ⟨?_, by rw [htype, or_some_eq]; exact h.type,
      by rw [hrequest, or_some_eq]; exact h.requestId,
      by rw [hsession, or_some_eq]; exact h.sessionId, hlookup _, .inl (hlookup _), hlookup _,
      hlookup _, (by rintro ⟨⟩), ?_⟩
    · rw [hversion]
      cases hfound : lookup "protocolVersion" o.extension with
      | none => exact ⟨_, rfl, rfl⟩
      | some value => exact ⟨value, rfl, h.protocolVersion value hfound⟩
    · simp only [RecitationObservation.observed, Option.mem_def, Option.some.injEq, forall_eq']
      refine ⟨o.tokens.map ObservationToken.toJson, ?_, ?_⟩
      · rw [List.map_map]
        exact hlookup _
      · rw [List.forall₂_map_left_iff, List.forall₂_map_right_iff, List.forall₂_same]
        exact fun t _ => token_carries t

/-- The command of the models only puts its own extension behind the same entries. -/
lemma carries_toJson (hmap : (keys o.extension).Nodup) (extension : Entries) :
    Carries requestId sessionId o.observed
        (QaraaCommand.observationSubmit requestId sessionId o extension).toJson ↔
      Harmless requestId sessionId o.extension := by
  have hnodup : (keys (submitObservation requestId sessionId o)).Nodup :=
    nodup_spread (by simp [keys])
  have hsame : ∀ key ∈ submitKeys,
      lookup key (QaraaCommand.observationSubmit requestId sessionId o extension).toJson =
        lookup key (submitObservation requestId sessionId o) := by
    intro key hkey
    have hsome : (lookup key (submitObservation requestId sessionId o)).isSome = true := by
      rw [lookup_submitObservation hmap]
      simp only [submitKeys, List.mem_cons, List.not_mem_nil, or_false] at hkey
      rcases hkey with rfl | rfl | rfl | rfl | rfl | rfl | rfl | rfl | rfl <;>
        simp [lookup_cons, written]
    have hspread : lookup key (spread extension (submitObservation requestId sessionId o)) =
        (lookup key (submitObservation requestId sessionId o)).or (lookup key extension) :=
      lookup_spread hnodup key extension
    obtain ⟨value, hvalue⟩ := Option.isSome_iff_exists.mp hsome
    rw [hvalue] at hspread ⊢
    exact hspread
  rw [← carries_submitObservation hmap]
  exact ⟨Carries.congr fun key hkey => (hsame key hkey).symm, Carries.congr hsame⟩

end

end Dart

/-! ### Python: the extra entries are keyword arguments -/

namespace Python

/-- No extra entry but a `None` names an argument of the call, and none gives an entry of
the envelope another value. -/
structure Harmless (requestId : String) (extra : Entries) : Prop where
  arguments : ∀ key ∈ ["sessionId", "request_id", "type_"], ∀ value ∈ lookup key extra,
    value = .null
  protocolVersion : ∀ value ∈ lookup "protocolVersion" extra, value = .null ∨ isOne value = true
  type : ∀ value ∈ lookup "type" extra, value = .null ∨ value = .string "observation.submit"
  requestId : ∀ value ∈ lookup "requestId" extra, value = .null ∨ value = .string requestId

section

variable {tokenDump : ObservationToken → Entries} {modelDump : RecitationObservation → Entries}
  {requestId sessionId : String} {o : RecitationObservation}

lemma isNull_iff {value : Json} : isNull value = true ↔ value = .null := by
  cases value <;> simp [isNull]

/-- An extra entry is dumped unless it is `None`. -/
lemma lookup_dump_eq_some (h : ModelDump tokenDump modelDump) {key : String}
    (hkey : key ∉ aliases) {value : Json} : lookup key (modelDump o) = some value ↔
      lookup key o.extra = some value ∧ value ≠ .null := by
  rw [h.extra o key hkey, Option.filter_eq_some_iff, ne_eq, ← isNull_iff]
  simp

lemma containsKey_dump (h : ModelDump tokenDump modelDump) {key : String} (hkey : key ∉ aliases) :
    containsKey (modelDump o) key = false ↔ ∀ value ∈ lookup key o.extra, value = .null := by
  rw [containsKey, Option.isSome_eq_false_iff, Option.isNone_iff_eq_none,
    Option.eq_none_iff_forall_ne_some]
  constructor
  · intro hnone value hvalue
    by_contra hnull
    exact hnone value ((lookup_dump_eq_some h hkey).mpr ⟨hvalue, hnull⟩)
  · intro hnull value hvalue
    obtain ⟨hextra, hne⟩ := (lookup_dump_eq_some h hkey).mp hvalue
    exact hne (hnull value hextra)

/-- An extra entry spread over an entry of the envelope leaves it alone. -/
lemma dump_or_eq (h : ModelDump tokenDump modelDump) {key : String} (hkey : key ∉ aliases)
    {own : Json} : (lookup key (modelDump o)).or (some own) = some own ↔
      ∀ value ∈ lookup key o.extra, value = .null ∨ value = own := by
  rw [or_some_eq]
  constructor
  · intro hall value hvalue
    by_cases hnull : value = .null
    · exact .inl hnull
    · exact .inr (hall value ((lookup_dump_eq_some h hkey).mpr ⟨hvalue, hnull⟩))
  · intro hall value hvalue
    obtain ⟨hextra, hne⟩ := (lookup_dump_eq_some h hkey).mp hvalue
    exact (hall value hextra).resolve_left hne

lemma submitObservation_eq_ok {payload : Entries} :
    submitObservation modelDump requestId sessionId o = .ok payload ↔
      (containsKey (modelDump o) "sessionId" = false ∧
        containsKey (modelDump o) "request_id" = false ∧
        containsKey (modelDump o) "type_" = false) ∧
      payload = command requestId "observation.submit"
        (("sessionId", .string sessionId) :: modelDump o) := by
  simp only [submitObservation, bind_eq_ok, failIf_eq_ok, pure_eq_ok, not_or, Bool.not_eq_true]
  constructor
  · rintro ⟨-, harguments, rfl⟩
    exact ⟨harguments, rfl⟩
  · rintro ⟨harguments, rfl⟩
    exact ⟨(), harguments, rfl⟩

lemma carries_submitObservation (h : ModelDump tokenDump modelDump) :
    (∃ payload, submitObservation modelDump requestId sessionId o = .ok payload ∧
      Carries requestId sessionId o.observed payload) ↔ Harmless requestId o.extra := by
  simp only [submitObservation_eq_ok, containsKey_dump h (show "sessionId" ∉ aliases by decide),
    containsKey_dump h (show "request_id" ∉ aliases by decide),
    containsKey_dump h (show "type_" ∉ aliases by decide)]
  -- without a second sessionId the keyword arguments come first and then the envelope
  obtain ⟨payload, hpayload⟩ : ∃ payload, payload = command requestId "observation.submit"
    (("sessionId", .string sessionId) :: modelDump o) := ⟨_, rfl⟩
  have hlookup : containsKey (modelDump o) "sessionId" = false → ∀ key, lookup key payload =
      (lookup key (("sessionId", .string sessionId) :: modelDump o)).or
        (lookup key [("protocolVersion", .int 1), ("requestId", .string requestId),
          ("type", .string "observation.submit")]) := by
    intro hsession key
    rw [hpayload, command, lookup_spread]
    rw [keys, List.map_cons, List.nodup_cons]
    refine ⟨lookup_eq_none.mp ?_, h.distinct o⟩
    simpa [containsKey] using hsession
  have hversion : containsKey (modelDump o) "sessionId" = false →
      lookup "protocolVersion" payload =
        (lookup "protocolVersion" (modelDump o)).or (some (.int 1)) := fun hs => hlookup hs _
  have htype : containsKey (modelDump o) "sessionId" = false → lookup "type" payload =
      (lookup "type" (modelDump o)).or (some (.string "observation.submit")) :=
    fun hs => hlookup hs _
  have hrequest : containsKey (modelDump o) "sessionId" = false → lookup "requestId" payload =
      (lookup "requestId" (modelDump o)).or (some (.string requestId)) := fun hs => hlookup hs _
  constructor
  · rintro ⟨p, ⟨⟨hsession, hrequestId, htype_⟩, rfl⟩, hcarries⟩
    rw [← hpayload] at hcarries
    have hs := (containsKey_dump h (by decide)).mpr hsession
    refine ⟨?_, fun value hvalue => ?_,
      (dump_or_eq h (by decide)).mp ((htype hs).symm.trans hcarries.type),
      (dump_or_eq h (by decide)).mp ((hrequest hs).symm.trans hcarries.requestId)⟩
    -- no extension field may be an argument of `_command`
    · simp only [List.forall_mem_cons]
      exact ⟨hsession, hrequestId, htype_, List.forall_mem_nil _⟩
    -- a null is left out of the dump
    · by_cases hnull : value = .null
      · exact .inl hnull
      · obtain ⟨found, hfound, hone⟩ := hcarries.protocolVersion
        rw [hversion hs, (lookup_dump_eq_some h (by decide)).mpr ⟨hvalue, hnull⟩] at hfound
        cases hfound
        exact .inr hone
  · intro hharmless
    have hsession := hharmless.arguments "sessionId" (by simp)
    have hs := (containsKey_dump h (by decide)).mpr hsession
    refine ⟨payload, ⟨⟨hsession, hharmless.arguments "request_id" (by simp),
      hharmless.arguments "type_" (by simp)⟩, hpayload⟩, ?_⟩
    refine ⟨?_, (htype hs).trans ((dump_or_eq h (by decide)).mpr hharmless.type),
      (hrequest hs).trans ((dump_or_eq h (by decide)).mpr hharmless.requestId), hlookup hs _,
      ?_, .inl ?_, ?_, ?_, (by rintro ⟨⟩), ?_⟩
    · rw [hversion hs]
      cases hfound : lookup "protocolVersion" (modelDump o) with
      | none => exact ⟨_, rfl, rfl⟩
      | some value =>
          obtain ⟨hextra, hne⟩ := (lookup_dump_eq_some h (by decide)).mp hfound
          exact ⟨value, rfl, (hharmless.protocolVersion value hextra).resolve_left hne⟩
    · rw [hlookup hs, lookup_cons, if_neg (by decide), h.observationId]
      rfl
    · rw [hlookup hs, lookup_cons, if_neg (by decide), h.sourceRevision]
      rfl
    · rw [hlookup hs, lookup_cons, if_neg (by decide), h.isFinal]
      rfl
    · rw [hlookup hs, lookup_cons, if_neg (by decide), h.receivedAtMs]
      rfl
    · simp only [RecitationObservation.observed, Option.mem_def, Option.some.injEq, forall_eq']
      refine ⟨o.tokens.map tokenDump, ?_, ?_⟩
      · rw [hlookup hs, lookup_cons, if_neg (by decide), h.tokens]
        rfl
      · rw [List.forall₂_map_left_iff, List.forall₂_map_right_iff, List.forall₂_same]
        exact fun t _ => h.token t

end

end Python

/-! ### Go: the envelope is assigned last -/

namespace Go

/-- An entry of the struct is not replaced by an extension. -/
lemma lookup_marshalExtras {target : Entries} {key : String} {value : Json}
    (h : lookup key target = some value) (extra : Entries) :
    lookup key (marshalExtras target extra) = some value := by
  induction extra generalizing target with
  | nil => exact h
  | cons e extra ih =>
      rw [marshalExtras, List.foldl_cons]
      refine ih ?_
      split
      · exact h
      · rw [List.lookup_append, h]
        rfl

lemma lookup_entriesAny (key : String) (entries : Entries) :
    lookup key (entriesAny entries) = (lookup key entries).map unmarshalAny := by
  induction entries with
  | nil => rw [entriesAny, List.lookup_nil, Option.map_none]
  | cons entry entries ih =>
      obtain ⟨key', value⟩ := entry
      rw [entriesAny, lookup_cons, lookup_cons, ih]
      split <;> rfl

lemma itemsAny_eq (items : List Json) : itemsAny items = items.map unmarshalAny := by
  induction items with
  | nil => rw [itemsAny, List.map_nil]
  | cons item items ih => rw [itemsAny, ih, List.map_cons]

lemma unmarshalAny_strings (strings : List String) :
    unmarshalAny (.list (strings.map .string)) = .list (strings.map .string) := by
  have hstring : ∀ s : String, unmarshalAny (.string s) = .string s := fun s => by
    rw [unmarshalAny] <;> simp
  rw [unmarshalAny, itemsAny_eq, List.map_map]
  exact congrArg Json.list (List.map_congr_left fun s _ => hstring s)

lemma token_carries (t : ObservationToken) :
    CarriesToken t.observed (entriesAny t.marshalJSON) := by
  have hown : ∀ {key value}, lookup key t.plain = some value →
      lookup key (entriesAny t.marshalJSON) = some (unmarshalAny value) := by
    intro key value h
    rw [lookup_entriesAny, ObservationToken.marshalJSON, lookup_marshalExtras h, Option.map_some]
  have hdouble : ∀ x, unmarshalAny (.double x) = .double x := fun x => by
    rw [unmarshalAny] <;> simp
  have htimes : lookup "startMs" t.plain = t.startMs.map .double ∧
      lookup "endMs" t.plain = t.endMs.map .double ∧
      lookup "confidence" t.plain = t.confidence.map .double := by
    obtain ⟨id, text, phonemes, startMs, endMs, confidence, extensions⟩ := t
    cases startMs <;> cases endMs <;> cases confidence <;> exact ⟨rfl, rfl, rfl⟩
  obtain ⟨hstart, hend, hconfidence⟩ := htimes
  refine ⟨(hown rfl).trans ?_, (hown rfl).trans ?_, (hown rfl).trans ?_, fun x hx => ?_,
    fun x hx => ?_, fun x hx => ?_⟩
  · rw [unmarshalAny] <;> simp [ObservationToken.observed]
  · rw [unmarshalAny] <;> simp [ObservationToken.observed]
  · rw [ObservationToken.observed]
    cases t.phonemes with
    | none => rw [Option.elim_none, unmarshalAny] <;> simp
    | some phonemes => rw [Option.elim_some, unmarshalAny_strings]
  · rw [hown (hstart.trans (by rw [show t.startMs = some x from hx]; rfl)), hdouble]
  · rw [hown (hend.trans (by rw [show t.endMs = some x from hx]; rfl)), hdouble]
  · rw [hown (hconfidence.trans (by rw [show t.confidence = some x from hx]; rfl)), hdouble]

lemma safe_of_mem {depth : ℕ} {entries : Entries} (h : entriesAreSafe depth entries = true)
    {key : String} {value : Json} (hmem : (key, value) ∈ entries) :
    validateJSONSafety depth value = true := by
  induction entries with
  | nil => cases hmem
  | cons entry entries ih =>
      rw [entriesAreSafe, Bool.and_eq_true] at h
      rcases List.mem_cons.mp hmem with rfl | hmem
      · exact h.1
      · exact ih h.2 hmem

lemma numberIsSafe_finite (q : ℚ) : numberIsSafe (.double (.finite q)) = true ↔
    (q.den = 1 → q.num.natAbs < 10 ^ 21 → q.num.natAbs ≤ maxSafeInteger) := by
  rw [numberIsSafe, Bool.or_eq_true, Bool.not_eq_true', Bool.and_eq_false_iff]
  simp only [beq_eq_false_iff_ne, decide_eq_false_iff_not, decide_eq_true_eq]
  tauto

/-- A revision that is safe as a `float64` is written exactly. -/
lemma toDouble_of_safe {n : UInt64} (h : numberIsSafe (.double (toDouble n.toNat)) = true) :
    toDouble n.toNat = .finite ((n.toNat : ℤ) : ℚ) := by
  refine toDouble_of_lt ?_
  by_contra hlarge
  rw [Int.natAbs_natCast, not_lt] at hlarge
  have hnear := le_nearest hlarge
  have hbound : nearest n.toNat < 10 ^ 21 :=
    calc nearest n.toNat ≤ 2 * n.toNat := nearest_le_two_mul _
      _ < 10 ^ 21 := by have := n.toNat_lt; omega
  have hpos : (0 : ℤ) < n.toNat := by omega
  have hvalue : toDouble n.toNat = .finite ((nearest n.toNat : ℤ) : ℚ) := by
    rw [toDouble, Int.sign_eq_one_of_pos hpos, one_mul, Int.natAbs_natCast]
  rw [hvalue, numberIsSafe_finite, Rat.den_intCast, Rat.num_intCast, Int.natAbs_natCast] at h
  have hsafe := h rfl hbound
  have hmax : maxSafeInteger < 2 ^ 53 := by decide
  omega

section

variable {requestId sessionId : String} {o : RecitationObservation} {payload : Entries}

lemma command_eq_ok {kind : String} {values : Entries}
    (h : command requestId kind values = .ok payload) :
    payload = assign "type" (.string kind) (assign "requestId" (.string requestId)
      (assign "protocolVersion" (.int 1) values)) ∧ entriesAreSafe 1 payload = true := by
  simp only [command, bind_eq_ok, failIf_eq_ok, pure_eq_ok, Bool.not_eq_false] at h
  obtain ⟨-, -, -, hsafe, rfl⟩ := h
  rw [validateJSONSafety, Bool.and_eq_true] at hsafe
  exact ⟨rfl, hsafe.2⟩

lemma submitObservation_eq_ok (h : submitObservation requestId sessionId o = .ok payload) :
    payload = assign "type" (.string "observation.submit")
      (assign "requestId" (.string requestId) (assign "protocolVersion" (.int 1)
        (assign "sessionId" (.string sessionId) (entriesAny o.marshalJSON)))) ∧
      entriesAreSafe 1 payload = true := by
  simp only [submitObservation, bind_eq_ok, failIf_eq_ok] at h
  obtain ⟨-, -, -, -, -, -, -, -, hcommand⟩ := h
  exact command_eq_ok hcommand

lemma carries_submitObservation (h : submitObservation requestId sessionId o = .ok payload) :
    Carries requestId sessionId o.observed payload := by
  obtain ⟨rfl, hsafe⟩ := submitObservation_eq_ok h
  -- a field of the observation is under none of the four assigned keys
  have hown : ∀ {key value}, key ≠ "type" → key ≠ "requestId" → key ≠ "protocolVersion" →
      key ≠ "sessionId" → lookup key o.plain = some value →
      lookup key (assign "type" (.string "observation.submit") (assign "requestId"
        (.string requestId) (assign "protocolVersion" (.int 1)
          (assign "sessionId" (.string sessionId) (entriesAny o.marshalJSON))))) =
        some (unmarshalAny value) := by
    intro key value htype hrequest hversion hsession hvalue
    rw [lookup_assign_of_ne htype, lookup_assign_of_ne hrequest, lookup_assign_of_ne hversion,
      lookup_assign_of_ne hsession, lookup_entriesAny, RecitationObservation.marshalJSON,
      lookup_marshalExtras hvalue, Option.map_some]
  have htokens := @hown "tokens" _ (by decide) (by decide) (by decide) (by decide) rfl
  have hrevision := @hown "sourceRevision" _ (by decide) (by decide) (by decide) (by decide) rfl
  refine ⟨⟨.int 1, ?_, rfl⟩, lookup_assign_self .., ?_, ?_, ?_, .inr ?_, ?_, ?_, ?_, ?_⟩
  · rw [lookup_assign_of_ne (by decide), lookup_assign_of_ne (by decide), lookup_assign_self]
  · rw [lookup_assign_of_ne (by decide), lookup_assign_self]
  · rw [lookup_assign_of_ne (by decide), lookup_assign_of_ne (by decide),
      lookup_assign_of_ne (by decide), lookup_assign_self]
  · refine (hown (by decide) (by decide) (by decide) (by decide) rfl).trans ?_
    rw [unmarshalAny] <;> simp [RecitationObservation.observed]
  · rw [unmarshalAny] at hrevision
    have hnumber := safe_of_mem hsafe (mem_of_lookup hrevision)
    rw [validateJSONSafety] at hnumber
    · rw [hrevision, toDouble_of_safe hnumber]
      rfl
    · simp
    · simp
  · refine (hown (by decide) (by decide) (by decide) (by decide) rfl).trans ?_
    rw [unmarshalAny] <;> simp [RecitationObservation.observed]
  · refine (hown (by decide) (by decide) (by decide) (by decide) rfl).trans ?_
    rw [unmarshalAny] <;> simp [RecitationObservation.observed]
  · intro hnone
    rw [htokens, Option.map_eq_none_iff.mp hnone, Option.elim_none, unmarshalAny] <;> simp
  · rintro tokens hsome
    obtain ⟨own, hown, rfl⟩ := Option.map_eq_some_iff.mp hsome
    refine ⟨own.map fun t => entriesAny t.marshalJSON, ?_, ?_⟩
    · rw [htokens, hown, Option.elim_some, unmarshalAny, itemsAny_eq, List.map_map, List.map_map]
      refine congrArg (some ∘ Json.list) (List.map_congr_left fun t _ => ?_)
      rw [Function.comp_apply, Function.comp_apply, unmarshalAny]
    · rw [List.forall₂_map_left_iff, List.forall₂_map_right_iff, List.forall₂_same]
      exact fun t _ => token_carries t

end

end Go

/-! ### Known fields -/

/-- **When the known fields win**: in every command the Go client encodes; in a command of
the Python or the Dart client exactly when no extension field is an entry of the envelope
with another value (or, in Python, an argument of the call). The dump of the Python client
is its model library's. -/
theorem known_fields_win (requestId sessionId : String) :
    (∀ (o : Go.RecitationObservation) (payload : Entries),
      Go.submitObservation requestId sessionId o = .ok payload →
        Carries requestId sessionId o.observed payload) ∧
    (∀ (tokenDump : Python.ObservationToken → Entries)
      (modelDump : Python.RecitationObservation → Entries), Python.ModelDump tokenDump modelDump →
        ∀ o : Python.RecitationObservation,
          (∃ payload, Python.submitObservation modelDump requestId sessionId o = .ok payload ∧
            Carries requestId sessionId o.observed payload) ↔ Python.Harmless requestId o.extra) ∧
    ∀ (o : Dart.RecitationObservation) (extension : Entries), (keys o.extension).Nodup →
      (Carries requestId sessionId o.observed (Dart.submitObservation requestId sessionId o) ↔
        Dart.Harmless requestId sessionId o.extension) ∧
      (Carries requestId sessionId o.observed
          (Dart.QaraaCommand.observationSubmit requestId sessionId o extension).toJson ↔
        Dart.Harmless requestId sessionId o.extension) :=
  ⟨fun _ _ h => Go.carries_submitObservation h,
    fun _ _ h _ => Python.carries_submitObservation h,
    fun _ extension hmap =>
      ⟨Dart.carries_submitObservation hmap, Dart.carries_toJson hmap extension⟩⟩

/-! ### An extension under the key of the type -/

/-- An optional field of the model, left out if it is `None`. -/
def Python.given (name : String) (value : Option JsNumber) : Entries :=
  (value.map fun x => (name, Json.double x)).toList

/-- The entries that are not `None`. -/
def Python.present (extra : Entries) : Entries := extra.filter fun e => !isNull e.2

/-- The dump of the models of this module. -/
def Python.ObservationToken.dump (t : ObservationToken) : Entries :=
  [("id", .string t.id), ("text", .string t.text),
    ("phonemes", .list (t.phonemes.map .string))] ++ given "startMs" t.startMs ++
    given "endMs" t.endMs ++ given "confidence" t.confidence ++ present t.extra

/-- The entries of the observation's own fields. -/
def Python.RecitationObservation.plain (o : RecitationObservation) : Entries :=
  [("observationId", .string o.observationId), ("sourceRevision", .int o.sourceRevision),
    ("isFinal", .bool o.isFinal), ("receivedAtMs", .double o.receivedAtMs),
    ("tokens", .list ((o.tokens.map ObservationToken.dump).map .map))]

/-- `model_dump` of the observation: its extension fields, then its own. -/
def Python.RecitationObservation.dump (o : RecitationObservation) : Entries :=
  o.plain ++ present o.extra

lemma Python.modelDump : ModelDump ObservationToken.dump RecitationObservation.dump := by
  have hpresent : ∀ extra : Entries, List.Sublist (keys (present extra)) (keys extra) :=
    fun extra => List.filter_sublist.map _
  have hown : ∀ (o : RecitationObservation) {key : String} {value : Json},
      lookup key o.plain = some value → lookup key o.dump = some value := by
    intro o key value h
    rw [RecitationObservation.dump, List.lookup_append, h]
    rfl
  refine ⟨fun o => ?_, fun o => hown o rfl, fun o => hown o rfl, fun o => hown o rfl,
    fun o => hown o rfl, fun o => hown o rfl, fun o key hkey => ?_, fun t => ?_⟩
  · rw [RecitationObservation.dump, keys, List.map_append, List.nodup_append']
    refine ⟨by simp [RecitationObservation.plain], o.extra_distinct.sublist (hpresent _), ?_⟩
    intro key hplain hextra
    exact o.extra_unknown key ((hpresent _).subset hextra) hplain
  · rw [RecitationObservation.dump, List.lookup_append, lookup_eq_none.mpr hkey, Option.none_or]
    exact lookup_filter_values (fun value => !isNull value) key o.extra_distinct
  · obtain ⟨id, text, phonemes, startMs, endMs, confidence, extra⟩ := t
    refine ⟨rfl, rfl, rfl, ?_, ?_, ?_⟩ <;> rintro x ⟨⟩
    · rfl
    · cases startMs <;> rfl
    · cases startMs <;> cases endMs <;> rfl

/-- A final observation with one extension field. -/
def Go.extended (key : String) (value : Json) : Go.RecitationObservation :=
  ⟨"observation-1", 1, true, .finite 20, some [], [(key, value)]⟩

/-- An observation with one extension field. -/
def Dart.extended (key : String) (value : Json) : Dart.RecitationObservation :=
  ⟨"observation-1", 1, true, .finite 20, [], [(key, value)]⟩

/-- An observation with one extension field that is no alias. -/
def Python.extended (key : String) (value : Json) (h : key ∉ aliases) :
    Python.RecitationObservation :=
  ⟨"observation-1", 1, true, .finite 20, [], [(key, value)], List.nodup_singleton key,
    by simpa [keys] using h⟩

/-- What the Go client sends for an extension under the key of the type. -/
def Go.submitted : Entries :=
  [("observationId", .string "observation-1"), ("sourceRevision", .double (.finite 1)),
    ("isFinal", .bool true), ("receivedAtMs", .double (.finite 20)), ("tokens", .list []),
    ("type", .string "observation.submit"), ("sessionId", .string "session-1"),
    ("protocolVersion", .int 1), ("requestId", .string "request-1")]

lemma Go.everyLeaf_extended {test : Json → Bool} (hstring : ∀ s, test (.string s) = true)
    (hint : test (.int 1) = true) (hbool : ∀ b, test (.bool b) = true)
    (hdouble : ∀ x, test (.double x) = true) :
    everyLeaf test (.map (extended "type" (.string "session.reset")).marshalJSON) = true := by
  have hdata : (extended "type" (.string "session.reset")).marshalJSON =
      [("observationId", .string "observation-1"), ("sourceRevision", .int 1),
        ("isFinal", .bool true), ("receivedAtMs", .double (.finite 20)), ("tokens", .list []),
        ("type", .string "session.reset")] := rfl
  rw [hdata]
  simp [everyLeaf, everyEntry, everyItem, hstring, hint, hbool, hdouble]

lemma Go.submitObservation_extended : submitObservation "request-1" "session-1"
    (extended "type" (.string "session.reset")) = .ok submitted := by
  have hrange : ∀ k, k ≠ 0 → nearest (1 : ℤ).natAbs < 2 ^ k := fun k hk =>
    (nearest_of_lt (show 1 < 2 ^ 53 by decide)).trans_lt (Nat.one_lt_two_pow hk)
  have hunmarshals :
      unmarshals (.map (extended "type" (.string "session.reset")).marshalJSON) = true :=
    everyLeaf_extended (fun _ => rfl) (decide_eq_true (hrange _ (by decide))) (fun _ => rfl)
      fun _ => rfl
  simp only [submitObservation, bind_eq_ok, failIf_eq_ok]
  refine ⟨(), rfl, (), by decide, (), by decide, (), by simp [hunmarshals], ?_⟩
  rfl

/-- An observation with one extension field: Go carries it under `type` all the same, Python and
Dart carry it under `note` just when it is harmless. -/
theorem extended_carries :
    Carries "request-1" "session-1" (Go.extended "type" (.string "session.reset")).observed
      Go.submitted ∧
    ((∃ payload, Python.submitObservation Python.RecitationObservation.dump "request-1" "session-1"
        (Python.extended "note" .null (by decide)) = .ok payload ∧ Carries "request-1" "session-1"
          (Python.extended "note" .null (by decide)).observed payload) ↔
      Python.Harmless "request-1" [("note", .null)]) ∧
    (Carries "request-1" "session-1" (Dart.extended "note" .null).observed
        (Dart.submitObservation "request-1" "session-1" (Dart.extended "note" .null)) ↔
      Dart.Harmless "request-1" "session-1" [("note", .null)]) :=
  ⟨(known_fields_win "request-1" "session-1").1 _ _ Go.submitObservation_extended,
    (known_fields_win "request-1" "session-1").2.1 _ _ Python.modelDump
      (Python.extended "note" .null (by decide)),
    ((known_fields_win "request-1" "session-1").2.2 (Dart.extended "note" .null) []
      (List.nodup_singleton "note")).1⟩

/-- An extension field `type` becomes the type of the command of the Dart and the Python
client. -/
theorem override_diverges :
    lookup "type" (Dart.submitObservation "request-1" "session-1"
      (Dart.extended "type" (.string "session.reset"))) = some (.string "session.reset") ∧
    lookup "type" (Dart.QaraaCommand.observationSubmit "request-1" "session-1"
      (Dart.extended "type" (.string "session.reset")) []).toJson =
        some (.string "session.reset") ∧
    Python.Accepts Python.notBelow Python.notAbove
      (Python.extended "type" (.string "session.reset") (by decide)) ∧
    ∃ payload, Python.submitObservation Python.RecitationObservation.dump "request-1" "session-1"
      (Python.extended "type" (.string "session.reset") (by decide)) = .ok payload ∧
        lookup "type" payload = some (.string "session.reset") :=
  ⟨rfl, rfl, ⟨⟨by decide, rfl⟩, by decide, rfl, nofun, rfl, rfl⟩, _, rfl, rfl⟩

end Qaraa.Sdk
