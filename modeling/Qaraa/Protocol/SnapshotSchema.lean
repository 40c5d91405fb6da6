import Qaraa.Core.SnapshotShape
import Qaraa.Protocol.Schemas

/-!
`packages/protocol/src/schemas/v1/snapshot.schema.json` and `event.schema.json`: what a
remote client takes for a snapshot.

* `snapshotSchema`, `eventSchema`: the shapes, `ReadingSnapshot.toJson` the wire form.
* `ReadingSnapshot.accepted`: a shaped snapshot of a shaped corpus has the shape.
* `snapshot_accepted`: **every snapshot of a run passes the checks of its receiver**.
-/

namespace Qaraa

open Ordered

/-! ### The shapes -/

/-- A value of the schema, or null. -/
def nullable (schema : Schema) : Schema := .oneOf [schema, .null]

/-- A number in `[0, 1]`. -/
def unitSchema : Schema := .number (some 0) (some 1)

/-- `display`. -/
def displaySchema : Schema :=
  .object ["location", "isReread", "activeWordId"]
    [("location", locationSchema), ("isReread", .boolean),
      ("activeWordId", nullable .nonEmptyString)]

/-- `commit`. -/
def commitSchema : Schema :=
  .object ["location", "completedWordIds"]
    [("location", locationSchema), ("completedWordIds", .uniqueStrings 0)]

/-- `confidence`. -/
def confidenceSchema : Schema :=
  .object ["alignment", "stability", "lookahead", "matchedLookaheadCount", "margin", "acoustic",
      "combined"]
    [("alignment", unitSchema), ("stability", unitSchema), ("lookahead", unitSchema),
      ("matchedLookaheadCount", .integer 0), ("margin", .number (some 0) none),
      ("acoustic", nullable unitSchema), ("combined", unitSchema)]

/-- The operation of a finding. -/
def substitutionOperationSchema : Schema :=
  .object ["kind", "actualIndex", "referenceIndex", "score"]
    [("kind", .enumeration ["substitution"]), ("actualIndex", .integer 0),
      ("referenceIndex", .integer 0), ("score", .number none none)]

/-- `finding`. -/
def findingSchema : Schema :=
  .object ["type", "confirmation", "observationId", "operation", "actualPhoneme",
      "referencePhoneme", "referenceSymbolId", "location", "confidence", "confirmations"]
    [("type", .enumeration ["substitution"]),
      ("confirmation", .enumeration ["immediate", "final", "soft"]),
      ("observationId", .nonEmptyString), ("operation", substitutionOperationSchema),
      ("actualPhoneme", .string), ("referencePhoneme", .string),
      ("referenceSymbolId", .nonEmptyString), ("location", locationSchema),
      ("confidence", confidenceSchema), ("confirmations", .integer 1)]

/-- `snapshot`. -/
def snapshotSchema : Schema :=
  .object ["revision", "observationId", "display", "commit", "confidence", "finding"]
    [("revision", .integer 0), ("observationId", nullable .nonEmptyString),
      ("display", displaySchema), ("commit", commitSchema),
      ("confidence", nullable confidenceSchema), ("finding", nullable findingSchema)]

/-- The shape of an event that carries a snapshot. -/
def snapshotEventSchema (type : String) : Schema :=
  .object ["protocolVersion", "requestId", "type", "sessionId", "snapshot"]
    (envelopeProperties type ++ [("sessionId", .nonEmptyString), ("snapshot", snapshotSchema)])

/-- `sessionDeleted`. -/
def sessionDeletedSchema : Schema :=
  .object ["protocolVersion", "requestId", "type", "sessionId"]
    (envelopeProperties "session.deleted" ++ [("sessionId", .nonEmptyString)])

/-- The values of the details are JSON values, which the preflight checks. -/
def errorSchema : Schema :=
  .object ["protocolVersion", "requestId", "type", "code", "message", "retryable", "details"]
    (envelopeProperties "error" ++ [
      ("code", .enumeration ["INVALID_CORPUS", "INVALID_OBSERVATION", "STALE_REVISION",
        "UNSUPPORTED_PROTOCOL", "SESSION_NOT_FOUND", "INTERNAL_ERROR"]),
      ("message", .string), ("retryable", .boolean), ("details", .anyObject)])

/-- `event`: one of the events. -/
def eventSchema : Schema :=
  .oneOf [snapshotEventSchema "session.created", snapshotEventSchema "snapshot.updated",
    sessionDeletedSchema, errorSchema]

/-- The validator of snapshots. -/
def snapshotValidator : JsValue → Bool := withJsonPreflight snapshotSchema

/-- The validator of events. -/
def eventValidator : JsValue → Bool := withJsonPreflight eventSchema

/-! ### The wire form -/

/-- A value or `null`. -/
def nullOr {α : Type} (toJson : α → JsValue) : Option α → JsValue
  | none => .null
  | some a => toJson a

/-- A rational number as a value. -/
def rationalValue (q : ℚ) : JsValue := .number (.finite q)

/-- The display as it is written. -/
def Display.toJson (display : Display) : JsValue :=
  .object [("location", display.location.toJson), ("isReread", .bool display.isReread),
    ("activeWordId", nullOr .string display.activeWordId)]

/-- The commit as it is written. -/
def Commit.toJson (commit : Commit) : JsValue :=
  .object [("location", commit.location.toJson),
    ("completedWordIds", .array (commit.completedWordIds.map .string))]

/-- The evidence as it is written. -/
def ConfidenceEvidence.toJson (confidence : ConfidenceEvidence) : JsValue :=
  .object [("alignment", rationalValue confidence.alignment),
    ("stability", rationalValue confidence.stability),
    ("lookahead", rationalValue confidence.lookahead),
    ("matchedLookaheadCount", natValue confidence.matchedLookaheadCount),
    ("margin", rationalValue confidence.margin),
    ("acoustic", nullOr rationalValue confidence.acoustic),
    ("combined", rationalValue confidence.combined)]

/-- The confirmation as it is written. -/
def FindingConfirmation.name : FindingConfirmation → String
  | .immediate => "immediate"
  | .final => "final"
  | .soft => "soft"

/-- The kind and the score are those of every substitution. -/
def SubstitutionOperation.toJson (operation : SubstitutionOperation) : JsValue :=
  .object [("kind", .string "substitution"), ("actualIndex", natValue operation.actualIndex),
    ("referenceIndex", natValue operation.referenceIndex), ("score", natValue 0)]

/-- A finding as it is written. -/
def ConfirmedFinding.toJson (finding : ConfirmedFinding) : JsValue :=
  .object [("type", .string "substitution"), ("confirmation", .string finding.confirmation.name),
    ("observationId", .string finding.observationId), ("operation", finding.operation.toJson),
    ("actualPhoneme", .string finding.actualPhoneme),
    ("referencePhoneme", .string finding.referencePhoneme),
    ("referenceSymbolId", .string finding.referenceSymbolId),
    ("location", finding.location.toJson), ("confidence", finding.confidence.toJson),
    ("confirmations", natValue finding.confirmations)]

/-- A snapshot as it is written. -/
def ReadingSnapshot.toJson (snapshot : ReadingSnapshot) : JsValue :=
  .object [("revision", natValue snapshot.revision),
    ("observationId", nullOr .string snapshot.observationId),
    ("display", snapshot.display.toJson), ("commit", snapshot.commit.toJson),
    ("confidence", nullOr ConfidenceEvidence.toJson snapshot.confidence),
    ("finding", nullOr ConfirmedFinding.toJson snapshot.finding)]

/-- An event that carries a snapshot. -/
def snapshotEvent (type requestId sessionId : String) (snapshot : ReadingSnapshot) : JsValue :=
  .object [("protocolVersion", natValue PROTOCOL_VERSION), ("requestId", .string requestId),
    ("type", .string type), ("sessionId", .string sessionId), ("snapshot", snapshot.toJson)]

/-- The event as it is written. -/
def SessionCreatedEvent.toJson (event : SessionCreatedEvent) : JsValue :=
  snapshotEvent "session.created" event.requestId event.sessionId event.snapshot

/-- The event as it is written. -/
def SnapshotUpdatedEvent.toJson (event : SnapshotUpdatedEvent) : JsValue :=
  snapshotEvent "snapshot.updated" event.requestId event.sessionId event.snapshot

/-! ### Leaves -/

@[simp] lemma accepts_integer_natValue {minimum n : ℕ} :
    (Schema.integer minimum).accepts (natValue n) = decide (minimum ≤ n) := by
  simp [natValue, Schema.accepts]

@[simp] lemma accepts_unit_rationalValue {q : ℚ} :
    unitSchema.accepts (rationalValue q) = (decide (0 ≤ q) && decide (q ≤ 1)) := by
  simp [rationalValue, unitSchema, Schema.accepts]

/-- One of a shape and `null`. -/
lemma accepts_nullOr {α : Type} {schema : Schema} {toJson : α → JsValue} {value : Option α}
    (hnull : schema.accepts .null = false) (hvalue : ∀ a ∈ value, schema.accepts (toJson a) = true)
    (hother : ∀ a ∈ value, toJson a ≠ .null) :
    (nullable schema).accepts (nullOr toJson value) = true := by
  cases value with
  | none => simp [nullable, nullOr, Schema.accepts, Schema.countAccepts, hnull]
  | some a =>
      have hsecond : Schema.null.accepts (toJson a) = false := by
        have hne := hother a rfl
        cases hcase : toJson a <;> simp_all [Schema.accepts]
      simp [nullable, nullOr, Schema.accepts, Schema.countAccepts, hvalue a rfl, hsecond]

/-! ### Parts of a snapshot -/

/-- Fields that come in the order of the properties are found under their names. -/
lemma lookup_of_forall₂ {properties : List (String × Schema)} {fields : List (String × JsValue)}
    (h : List.Forall₂ (fun property field => property.1 = field.1 ∧
      property.2.accepts field.2 = true) properties fields)
    (hnodup : (properties.map Prod.fst).Nodup) {property : String × Schema}
    (hmem : property ∈ properties) :
    ∃ value, List.lookup property.1 fields = some value ∧
      property.2.accepts value = true := by
  induction h with
  | nil => cases hmem
  | @cons first field properties fields hfirst _ ih =>
      rw [List.map_cons, List.nodup_cons] at hnodup
      rw [OrderedMap.lookup_cons]
      rcases List.mem_cons.mp hmem with rfl | hrest
      · exact ⟨field.2, by rw [if_pos hfirst.1.symm], hfirst.2⟩
      · have hne : field.1 ≠ property.1 := by
          intro heq
          exact hnodup.1 (hfirst.1.trans heq ▸ List.mem_map_of_mem hrest)
        rw [if_neg hne]
        exact ih hnodup.2 hrest

/-- An object that lists its properties in order has the shape when each value has. -/
lemma object_accepted {required : List String} {properties : List (String × Schema)}
    {fields : List (String × JsValue)} (hnodup : (properties.map Prod.fst).Nodup)
    (hrequired : ∀ name ∈ required, name ∈ properties.map Prod.fst)
    (h : List.Forall₂ (fun property field => property.1 = field.1 ∧
      property.2.accepts field.2 = true) properties fields) :
    (Schema.object required properties).accepts (.object fields) = true := by
  have hnames : properties.map Prod.fst = fields.map Prod.fst := by
    rw [← List.forall₂_eq_eq_eq, List.forall₂_map_left_iff, List.forall₂_map_right_iff]
    exact h.imp fun _ _ hfield => hfield.1
  rw [Schema.accepts, Bool.and_eq_true, Bool.and_eq_true]
  refine ⟨⟨List.all_eq_true.mpr fun name hname => ?_, List.all_eq_true.mpr fun field hfield => ?_⟩,
    Schema.acceptsFields_iff.mpr fun property hmem value hvalue => ?_⟩
  · obtain ⟨property, hmem, rfl⟩ := List.mem_map.mp (hrequired name hname)
    obtain ⟨value, hvalue, -⟩ := lookup_of_forall₂ h hnodup hmem
    rw [hvalue]
    rfl
  · have hname : field.1 ∈ properties.map Prod.fst := hnames ▸ List.mem_map_of_mem hfield
    obtain ⟨property, hmem, hproperty⟩ := List.mem_map.mp hname
    exact List.any_eq_true.mpr ⟨property, hmem, by simp [hproperty]⟩
  · obtain ⟨found, hfound, haccepts⟩ := lookup_of_forall₂ h hnodup hmem
    rw [hfound] at hvalue
    cases hvalue
    exact haccepts

lemma location_accepted {location : QuranLocation} (hsurah : 0 < location.surah)
    (hayah : 0 < location.ayah) (hword : 0 < location.word) (hsymbol : 0 < location.symbol) :
    locationSchema.accepts location.toJson = true := by
  refine object_accepted (by decide) (by decide) ?_
  refine .cons ⟨rfl, ?_⟩ (.cons ⟨rfl, ?_⟩ (.cons ⟨rfl, ?_⟩ (.cons ⟨rfl, ?_⟩ .nil)))
  · simpa using Nat.succ_le_of_lt hsurah
  · simpa using Nat.succ_le_of_lt hayah
  · simpa using Nat.succ_le_of_lt hword
  · simpa using Nat.succ_le_of_lt hsymbol

lemma confidence_accepted {confidence : ConfidenceEvidence} (h : confidence.Bounded) :
    confidenceSchema.accepts confidence.toJson = true := by
  refine object_accepted (by decide) (by decide) ?_
  refine .cons ⟨rfl, ?_⟩ (.cons ⟨rfl, ?_⟩ (.cons ⟨rfl, ?_⟩ (.cons ⟨rfl, ?_⟩ (.cons ⟨rfl, ?_⟩
    (.cons ⟨rfl, ?_⟩ (.cons ⟨rfl, ?_⟩ .nil))))))
  · simp [h.alignment]
  · simp [h.stability]
  · simp [h.lookahead]
  · simp
  · simp [rationalValue, Schema.accepts, h.margin]
  · refine accepts_nullOr rfl (fun a ha => ?_) fun a _ => by simp [rationalValue]
    simp [h.acoustic a ha]
  · simp [h.combined]

lemma display_accepted {display : Display}
    (hlocation : locationSchema.accepts display.location.toJson = true)
    (hactive : ∀ id ∈ display.activeWordId, isBlank id = false) :
    displaySchema.accepts display.toJson = true := by
  refine object_accepted (by decide) (by decide) ?_
  refine .cons ⟨rfl, hlocation⟩ (.cons ⟨rfl, rfl⟩ (.cons ⟨rfl, ?_⟩ .nil))
  exact accepts_nullOr rfl (fun id hid => by simp [Schema.accepts, hactive id hid]) nofun

lemma commit_accepted {commit : Commit}
    (hlocation : locationSchema.accepts commit.location.toJson = true)
    (hids : ∀ id ∈ commit.completedWordIds, isBlank id = false)
    (hnodup : commit.completedWordIds.Nodup) : commitSchema.accepts commit.toJson = true := by
  refine object_accepted (by decide) (by decide) ?_
  refine .cons ⟨rfl, hlocation⟩ (.cons ⟨rfl, ?_⟩ .nil)
  rw [Schema.accepts, Bool.and_eq_true, Bool.and_eq_true]
  refine ⟨⟨by simp, List.all_eq_true.mpr fun value hvalue => ?_⟩, decide_eq_true ?_⟩
  · obtain ⟨id, hid, rfl⟩ := List.mem_map.mp hvalue
    simp [JsValue.text?, hids id hid]
  · rw [List.map_map]
    exact hnodup.map (Option.some_injective _)

lemma operation_accepted (operation : SubstitutionOperation) :
    substitutionOperationSchema.accepts operation.toJson = true := by
  refine object_accepted (by decide) (by decide) ?_
  refine .cons ⟨rfl, by decide⟩ (.cons ⟨rfl, by simp⟩ (.cons ⟨rfl, by simp⟩ (.cons ⟨rfl, ?_⟩ .nil)))
  simp [natValue, Schema.accepts]

lemma finding_accepted {finding : ConfirmedFinding}
    (hobservation : isBlank finding.observationId = false)
    (hsymbol : isBlank finding.referenceSymbolId = false)
    (hlocation : locationSchema.accepts finding.location.toJson = true)
    (hconfidence : finding.confidence.Bounded) (hpos : 1 ≤ finding.confirmations) :
    findingSchema.accepts finding.toJson = true := by
  refine object_accepted (by decide) (by decide) ?_
  refine .cons ⟨rfl, by decide⟩ (.cons ⟨rfl, ?_⟩ (.cons ⟨rfl, ?_⟩ (.cons ⟨rfl, ?_⟩ (.cons ⟨rfl, ?_⟩
    (.cons ⟨rfl, ?_⟩ (.cons ⟨rfl, ?_⟩ (.cons ⟨rfl, hlocation⟩ (.cons ⟨rfl, ?_⟩ (.cons ⟨rfl, ?_⟩
      .nil)))))))))
  · cases finding.confirmation <;> decide
  · simp [Schema.accepts, hobservation]
  · exact operation_accepted finding.operation
  · rfl
  · rfl
  · simp [Schema.accepts, hsymbol]
  · exact confidence_accepted hconfidence
  · simp [hpos]

/-! ### Snapshots -/

/-- What a created tracker knows about its corpus: ids are not blank and address fields are
positive. -/
structure CreatedTracker.Shaped (tracker : CreatedTracker) : Prop where
  symbols : ∀ s ∈ tracker.config.corpus.symbols, s.Shaped
  words : ∀ w ∈ tracker.config.words, w.word.Shaped

lemma CreatedTracker.shaped (tracker : CreatedTracker) : tracker.Shaped := by
  obtain ⟨corpus, hcorpus, hbuilt⟩ := indexCorpus_valid tracker.indexed
  have hindex : tracker.config.corpus = buildIndex corpus := tracker.config_corpus.trans hbuilt
  constructor
  · intro s hs
    rw [hindex] at hs
    exact hcorpus.symbols_shaped s hs
  · intro w hw
    rw [TrackerConfig.words, hindex, orderedWords_eq hcorpus] at hw
    obtain ⟨word, hword, rfl⟩ := List.mem_map.mp hw
    exact hcorpus.words_shaped word hword

/-- A shaped snapshot has the shape a receiver checks. -/
lemma ShapedSnapshot.accepted {tracker : CreatedTracker} {snapshot : ReadingSnapshot}
    (h : ShapedSnapshot tracker.config snapshot) :
    snapshotSchema.accepts snapshot.toJson = true := by
  have hcorpus := tracker.shaped
  have hplace : ∀ {location : QuranLocation},
      (∃ s ∈ tracker.config.corpus.symbols, s.location = location) →
        locationSchema.accepts location.toJson = true := by
    rintro location ⟨s, hs, rfl⟩
    have hshape := hcorpus.symbols s hs
    exact location_accepted hshape.surah.1 hshape.ayah.1 hshape.word.1 hshape.symbol.1
  have hword : ∀ {id : String}, (∃ w ∈ tracker.config.words, w.word.id = id) →
      isBlank id = false := by
    rintro id ⟨w, hw, rfl⟩
    exact (hcorpus.words w hw).id
  refine object_accepted (by decide) (by decide) ?_
  refine .cons ⟨rfl, by simp⟩ (.cons ⟨rfl, ?_⟩ (.cons ⟨rfl, ?_⟩
    (.cons ⟨rfl, ?_⟩ (.cons ⟨rfl, ?_⟩ (.cons ⟨rfl, ?_⟩ .nil)))))
  · exact accepts_nullOr rfl (fun id hid => by simp [Schema.accepts, h.observationId id hid])
      fun id _ => by rintro ⟨⟩
  · exact display_accepted (hplace h.display) fun id hid => hword (h.activeWordId id hid)
  · exact commit_accepted (hplace h.commit) (fun id hid => hword (h.completed id hid))
      h.completed_nodup
  · exact accepts_nullOr rfl (fun confidence hmem => confidence_accepted (h.confidence _ hmem))
      fun confidence _ => by rintro ⟨⟩
  · refine accepts_nullOr rfl (fun finding hmem => ?_) fun finding _ => by rintro ⟨⟩
    have hfinding := h.finding finding hmem
    obtain ⟨s, hs, hid, hlocation⟩ := hfinding.symbol
    refine finding_accepted hfinding.observationId ?_ (hplace ⟨s, hs, hlocation⟩)
      hfinding.confidence hfinding.confirmations
    rw [← hid]
    exact (hcorpus.symbols s hs).id

/-! ### Plain values -/

lemma isPlainJsonValue_location (location : QuranLocation) :
    isPlainJsonValue location.toJson = true := rfl

lemma isPlainJsonValue_nullOr {α : Type} (toJson : α → JsValue) (value : Option α)
    (h : ∀ a, isPlainJsonValue (toJson a) = true) :
    isPlainJsonValue (nullOr toJson value) = true := by
  cases value with
  | none => rfl
  | some a => exact h a

lemma arePlainItems_strings (texts : List String) :
    arePlainItems (texts.map JsValue.string) = true := by
  induction texts with
  | nil => rfl
  | cons text texts ih => simpa [arePlainItems, isPlainJsonValue] using ih

lemma isPlainJsonValue_confidence (confidence : ConfidenceEvidence) :
    isPlainJsonValue confidence.toJson = true := by
  have hacoustic := isPlainJsonValue_nullOr rationalValue confidence.acoustic
    fun _ => rfl
  simp [ConfidenceEvidence.toJson, isPlainJsonValue, arePlainFields, rationalValue, natValue,
    hacoustic]

lemma isPlainJsonValue_finding (finding : ConfirmedFinding) :
    isPlainJsonValue finding.toJson = true := by
  simp [ConfirmedFinding.toJson, SubstitutionOperation.toJson, isPlainJsonValue, arePlainFields,
    natValue, isPlainJsonValue_location, isPlainJsonValue_confidence]

lemma isPlainJsonValue_snapshot (snapshot : ReadingSnapshot) :
    isPlainJsonValue snapshot.toJson = true := by
  have hid := isPlainJsonValue_nullOr JsValue.string snapshot.observationId fun _ => rfl
  have hactive := isPlainJsonValue_nullOr JsValue.string snapshot.display.activeWordId fun _ => rfl
  have hconfidence := isPlainJsonValue_nullOr _ snapshot.confidence isPlainJsonValue_confidence
  have hfinding := isPlainJsonValue_nullOr _ snapshot.finding isPlainJsonValue_finding
  simp [ReadingSnapshot.toJson, Display.toJson, Commit.toJson, isPlainJsonValue, arePlainFields,
    natValue, isPlainJsonValue_location, arePlainItems_strings, hid, hactive, hconfidence, hfinding]

/-! ### Events -/

/-- A shape that names another type does not fit. -/
lemma object_rejected {type other : String} {required : List String}
    {properties : List (String × Schema)} {fields : List (String × JsValue)}
    (hmem : ("type", Schema.enumeration [other]) ∈ properties) (hne : type ≠ other)
    (htype : List.lookup "type" fields = some (.string type)) :
    (Schema.object required properties).accepts (.object fields) = false :=
  Bool.eq_false_iff.mpr fun haccepts => hne (accepts_type hmem htype haccepts)

/-- An event has the shape of its type when its ids are not blank. -/
lemma snapshotEvent_accepted {type requestId sessionId : String} {snapshot : ReadingSnapshot}
    (hsnapshot : snapshotSchema.accepts snapshot.toJson = true) :
    (snapshotEventSchema type).accepts (snapshotEvent type requestId sessionId snapshot)
      = (!isBlank requestId && !isBlank sessionId) := by
  rw [Bool.eq_iff_iff, Bool.and_eq_true]
  constructor
  · intro haccepts
    have hrequest := Schema.accepts_field haccepts
      (show ("requestId", Schema.nonEmptyString) ∈ _ by simp [envelopeProperties])
      (show List.lookup "requestId" _ = some (.string requestId) from rfl)
    have hsession := Schema.accepts_field haccepts
      (show ("sessionId", Schema.nonEmptyString) ∈ _ by simp [envelopeProperties])
      (show List.lookup "sessionId" _ = some (.string sessionId) from rfl)
    exact ⟨by simpa [Schema.accepts] using hrequest, by simpa [Schema.accepts] using hsession⟩
  · rintro ⟨hrequest, hsession⟩
    refine object_accepted
      (show ["protocolVersion", "requestId", "type", "sessionId", "snapshot"].Nodup by decide)
      (fun name hname => hname) ?_
    refine .cons ⟨rfl, by decide⟩ (.cons ⟨rfl, ?_⟩ (.cons ⟨rfl, ?_⟩ (.cons ⟨rfl, ?_⟩
      (.cons ⟨rfl, hsnapshot⟩ .nil))))
    · simpa [Schema.accepts] using hrequest
    · simp [Schema.accepts]
    · simpa [Schema.accepts] using hsession

/-- **Every snapshot of a run passes the checks of its receiver**: it has the shape of a
snapshot, and an event that carries it has the shape of an event exactly when its two ids
are not blank. -/
theorem snapshot_accepted (tracker : CreatedTracker) (commands : List TrackerCommand) :
    snapshotValidator (tracker.snapshotAfter commands).toJson = true ∧
      ∀ requestId sessionId : String,
        eventValidator (SnapshotUpdatedEvent.toJson
            ⟨requestId, sessionId, tracker.snapshotAfter commands⟩)
          = (!isBlank requestId && !isBlank sessionId) ∧
        eventValidator (SessionCreatedEvent.toJson
            ⟨requestId, sessionId, tracker.snapshotAfter commands⟩)
          = (!isBlank requestId && !isBlank sessionId) := by
  have hsnapshot := (shapedSnapshot_of_run tracker commands).accepted
  have hplain := isPlainJsonValue_snapshot (tracker.snapshotAfter commands)
  refine ⟨?_, fun requestId sessionId => ?_⟩
  · rw [snapshotValidator, withJsonPreflight, hplain, hsnapshot]
    rfl
  · have hpreflight : ∀ type, isPlainJsonValue
        (snapshotEvent type requestId sessionId (tracker.snapshotAfter commands)) = true := by
      intro type
      simp [snapshotEvent, isPlainJsonValue, arePlainFields, natValue, hplain]
    have htype : ∀ type, ("type", Schema.enumeration [type]) ∈ envelopeProperties type := by
      intro type
      simp [envelopeProperties]
    have hother : ∀ type other : String, type ≠ other →
        (snapshotEventSchema other).accepts
          (snapshotEvent type requestId sessionId (tracker.snapshotAfter commands)) = false :=
      fun type other hne => object_rejected (List.mem_append_left _ (htype other)) hne rfl
    have hdeleted : ∀ type : String, type ≠ "session.deleted" →
        sessionDeletedSchema.accepts
          (snapshotEvent type requestId sessionId (tracker.snapshotAfter commands)) = false :=
      fun type hne => object_rejected (List.mem_append_left _ (htype _)) hne rfl
    have herror : ∀ type : String, type ≠ "error" →
        errorSchema.accepts
          (snapshotEvent type requestId sessionId (tracker.snapshotAfter commands)) = false :=
      fun type hne => object_rejected (List.mem_append_left _ (htype _)) hne rfl
    constructor
    · rw [SnapshotUpdatedEvent.toJson, eventValidator, withJsonPreflight, hpreflight, eventSchema,
        Schema.accepts]
      simp only [Schema.countAccepts, hother "snapshot.updated" "session.created" (by decide),
        hdeleted "snapshot.updated" (by decide), herror "snapshot.updated" (by decide),
        snapshotEvent_accepted hsnapshot]
      cases isBlank requestId <;> cases isBlank sessionId <;> rfl
    · rw [SessionCreatedEvent.toJson, eventValidator, withJsonPreflight, hpreflight, eventSchema,
        Schema.accepts]
      simp only [Schema.countAccepts, hother "session.created" "snapshot.updated" (by decide),
        hdeleted "session.created" (by decide), herror "session.created" (by decide),
        snapshotEvent_accepted hsnapshot]
      cases isBlank requestId <;> cases isBlank sessionId <;> rfl

end Qaraa
