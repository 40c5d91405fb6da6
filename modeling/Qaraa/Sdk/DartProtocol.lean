import Qaraa.Sdk.DartRoundTrip

/-!
The commands of the Dart client, and the round trip of the whole protocol.

* `Head`, `written_envelope`: the three entries every command opens with, and the entries
  of an encoded command.
* `Returns`: a command is decoded again as the same command with nothing lost on the way;
  one lemma for each type of command.
* `Decoder`, `decode_encode`: every decoder of the models, and the round trip of each.
-/

namespace Qaraa.Sdk.Dart

open Fallible Ordered OrderedMap Entries
open List (lookup)

/-! ### The opening entries -/

/-- The entries that open a command are read. -/
structure Head (json : Entries) (requestId type : String) : Prop where
  version : isOne (get json "protocolVersion") = true
  requestId : requiredString (get json "requestId") "requestId" true = .ok requestId
  type : requiredString (get json "type") "type" true = .ok type

lemma decodeCommand_eq_ok {json : Entries} {m : QaraaCommand} : decodeCommand json = .ok m ↔
    ∃ requestId type, Head json requestId type ∧ decodeBody requestId type json = .ok m := by
  simp only [decodeCommand, bind_eq_ok, failIf_eq_ok, Bool.not_eq_false]
  constructor
  · rintro ⟨-, hversion, requestId, hrequestId, type, htype, hbody⟩
    exact ⟨requestId, type, ⟨hversion, hrequestId, htype⟩, hbody⟩
  · rintro ⟨requestId, type, ⟨hversion, hrequestId, htype⟩, hbody⟩
    exact ⟨(), hversion, requestId, hrequestId, type, htype, hbody⟩

/-- The fields with which every command is written. -/
def openingKeys : List String := ["protocolVersion", "requestId", "type"]

/-- What is kept of them. -/
def openingFields : List (String × Shape) :=
  [("protocolVersion", .version), ("requestId", .same), ("type", .same)]

/-- The fields with which a command is written. -/
def opening (requestId type : String) : Entries :=
  [("protocolVersion", .int 1), ("requestId", .string requestId), ("type", .string type)]

section Envelope

variable {known : List String} {json body new extension : Entries} {requestId type : String}

/-- The entries of an encoded command: the opening ones, then those of its own fields. -/
lemma written_envelope (hsub : (keys body).Sublist known)
    (hknown : (openingKeys ++ known).Nodup)
    (hext : extension = extensions json (openingKeys ++ known)) :
    Written (openingKeys ++ known) json (opening requestId type ++ body)
      (envelope requestId type body extension) := by
  have hkeys : keys (opening requestId type ++ body) = openingKeys ++ keys body := by
    simp [keys, opening, openingKeys]
  have hnodup : (openingKeys ++ keys body).Nodup :=
    hknown.sublist ((List.Sublist.refl _).append hsub)
  have hspread : spread (opening requestId type) body = opening requestId type ++ body := by
    rw [List.nodup_append] at hnodup
    exact spread_of_disjoint hnodup.2.1 fun key hkey hmem => hnodup.2.2 key hmem key hkey rfl
  refine .of_sublist ?_ hknown ?_
  · rw [hkeys]
    exact (List.Sublist.refl _).append hsub
  · rw [← hspread, ← hext]
    rfl

lemma Head.again (h : Head json requestId type)
    (hw : Written (openingKeys ++ known) json (opening requestId type ++ body) new) :
    Head new requestId type where
  version := by
    rw [hw.get_known (by simp [openingKeys])]
    rfl
  requestId := by
    rw [hw.get_known (by simp [openingKeys])]
    exact (reads_string _ _).again h.requestId
  type := by
    rw [hw.get_known (by simp [openingKeys])]
    exact (reads_string _ _).again h.type

lemma Head.kept (h : Head json requestId type) (body : Entries) : ∀ field ∈ openingFields,
    Kept field.2 (lookup field.1 json) (lookup field.1 (opening requestId type ++ body)) := by
  simp only [openingFields, List.forall_mem_cons]
  refine ⟨?_, (reads_string _ _).kept h.requestId, (reads_string _ _).kept h.type,
    List.forall_mem_nil _⟩
  have hnull : get json "protocolVersion" ≠ .null := fun hnull => by
    have hversion := h.version
    rw [hnull] at hversion
    cases hversion
  rw [Sdk.lookup_of_get hnull]
  exact .present (.version h.version)

end Envelope

/-! ### The commands -/

namespace QaraaCommand

/-- The fields of a command, past the opening ones. -/
def fields : QaraaCommand → List (String × Shape)
  | .sessionCreate .. => [("corpusId", .same), ("initialLocation", .optional QuranLocation.shape),
      ("findingMode", .optional .same)]
  | .sessionGet .. => [("sessionId", .same)]
  | .sessionReset .. => [("sessionId", .same), ("location", .optional QuranLocation.shape)]
  | .sessionDelete .. => [("sessionId", .same)]
  | .sessionResume .. => [("sessionId", .same), ("lastSnapshotRevision", .same)]
  | .observationSubmit .. => ("sessionId", .same) :: RecitationObservation.fields

/-- What a command keeps of the object it was read from. -/
def shape (m : QaraaCommand) : Shape := .object (openingFields ++ m.fields)

end QaraaCommand

/-- A command read from `json` is decoded again from its encoding, and what was read
survives. -/
structure Returns (requestId type : String) (json : Entries) (m : QaraaCommand) : Prop where
  head : Head m.toJson requestId type
  body : decodeBody requestId type m.toJson = .ok m
  survives : Survives m.shape (.map json) (.map m.toJson)

section Commands

variable {requestId : String} {json : Entries} {m : QaraaCommand}

lemma reads_mode : Reads .same readMode .string where
  null s h := by cases h
  again {value s} h := by
    cases value with
    | string t =>
        simp only [readMode] at h ⊢
        split at h
        · rename_i ht
          cases h
          rw [if_pos ht]
        · cases h
    | _ => cases h
  survives {value s} h := by
    cases value with
    | string t =>
        simp only [readMode] at h
        split at h
        · cases h
          exact .same _
        · cases h
    | _ => cases h

/-- What is left to show of a command once its entries are known: its own fields. -/
lemma Returns.of_written {type : String} {known : List String} {body : Entries}
    (hhead : Head json requestId type)
    (hw : Written (openingKeys ++ known) json (opening requestId type ++ body) m.toJson)
    (hknown : m.fields.map Prod.fst = known)
    (hbody : decodeBody requestId type m.toJson = .ok m)
    (hkept : ∀ field ∈ m.fields,
      Kept field.2 (lookup field.1 json) (lookup field.1 (opening requestId type ++ body))) :
    Returns requestId type json m where
  head := hhead.again hw
  body := hbody
  survives := by
    refine hw.survives (by rw [List.map_append, hknown]; rfl) fun field hfield => ?_
    rcases List.mem_append.mp hfield with hopening | hown
    · exact hhead.kept body field hopening
    · exact hkept field hown

lemma create_returns (hhead : Head json requestId "session.create")
    (h : decodeCreate requestId json = .ok m) : Returns requestId "session.create" json m := by
  simp only [decodeCreate, bind_eq_ok, pure_eq_ok] at h
  obtain ⟨mode, hmode, corpusId, hcorpus, initial, hinitial, hm⟩ := h
  let body : Entries := [("corpusId", .string corpusId)] ++
    ifPresent "initialLocation" (fun v => .map v.toJson) initial ++
    ifPresent "findingMode" .string mode
  have hw : Written (openingKeys ++ ["corpusId", "initialLocation", "findingMode"]) json
      (opening requestId "session.create" ++ body) m.toJson :=
    hm ▸ written_envelope (by cases initial <;> cases mode <;> simp [body, keys, ifPresent])
      (by decide) rfl
  have hinitial' : lookup "initialLocation" (opening requestId "session.create" ++ body) =
      initial.map fun v => .map v.toJson := by
    cases initial <;> cases mode <;> rfl
  have hmode' : lookup "findingMode" (opening requestId "session.create" ++ body) =
      mode.map .string := by
    cases initial <;> cases mode <;> rfl
  refine .of_written hhead hw (by rw [← hm]; rfl) ?_ ?_
  · change decodeCreate requestId m.toJson = .ok m
    simp only [decodeCreate, bind_eq_ok, pure_eq_ok]
    refine ⟨mode, reads_mode.optional_again hmode ((hw.lookup_known (by decide)).trans hmode'),
      corpusId, ?_, initial, QuranLocation.reads.optional_again hinitial
        ((hw.lookup_known (by decide)).trans hinitial'), (congrArg _ hw.extensions_new).trans hm⟩
    rw [hw.get_known (by decide)]
    exact (reads_string _ _).again hcorpus
  · simp only [← hm, QaraaCommand.fields, List.forall_mem_cons, hinitial', hmode']
    exact ⟨(reads_string _ _).kept hcorpus, QuranLocation.reads.optional_kept hinitial,
      reads_mode.optional_kept hmode, List.forall_mem_nil _⟩

/-- The two commands that only name their session. -/
lemma naming_returns {type : String} {make : String → Entries → QaraaCommand}
    (hhead : Head json requestId type)
    (hdecode : ∀ json, decodeBody requestId type json = decodeNaming make json)
    (hfields : ∀ sessionId extension, (make sessionId extension).fields = [("sessionId", .same)])
    (hencode : ∀ sessionId extension, (make sessionId extension).toJson =
      envelope requestId type [("sessionId", .string sessionId)] extension)
    (h : decodeNaming make json = .ok m) : Returns requestId type json m := by
  simp only [decodeNaming, bind_eq_ok, pure_eq_ok] at h
  obtain ⟨sessionId, hsession, hm⟩ := h
  have hw : Written (openingKeys ++ ["sessionId"]) json
      (opening requestId type ++ [("sessionId", .string sessionId)]) m.toJson := by
    rw [← hm, hencode]
    exact written_envelope (.refl _) (by decide) rfl
  refine .of_written hhead hw (by rw [← hm, hfields]; rfl) ?_ ?_
  · simp only [hdecode, decodeNaming, bind_eq_ok, pure_eq_ok]
    refine ⟨sessionId, ?_, (congrArg _ hw.extensions_new).trans hm⟩
    rw [hw.get_known (by decide)]
    exact (reads_string _ _).again hsession
  · simp only [← hm, hfields, List.forall_mem_cons]
    exact ⟨(reads_string _ _).kept hsession, List.forall_mem_nil _⟩

lemma reset_returns (hhead : Head json requestId "session.reset")
    (h : decodeReset requestId json = .ok m) : Returns requestId "session.reset" json m := by
  simp only [decodeReset, bind_eq_ok, pure_eq_ok] at h
  obtain ⟨sessionId, hsession, location, hlocation, hm⟩ := h
  let body : Entries := [("sessionId", .string sessionId)] ++
    ifPresent "location" (fun v => .map v.toJson) location
  have hw : Written (openingKeys ++ ["sessionId", "location"]) json
      (opening requestId "session.reset" ++ body) m.toJson :=
    hm ▸ written_envelope (by cases location <;> simp [body, keys, ifPresent]) (by decide) rfl
  have hlocation' : lookup "location" (opening requestId "session.reset" ++ body) =
      location.map fun v => .map v.toJson := by
    cases location <;> rfl
  refine .of_written hhead hw (by rw [← hm]; rfl) ?_ ?_
  · change decodeReset requestId m.toJson = .ok m
    simp only [decodeReset, bind_eq_ok, pure_eq_ok]
    refine ⟨sessionId, ?_, location, QuranLocation.reads.optional_again hlocation
      ((hw.lookup_known (by decide)).trans hlocation'), (congrArg _ hw.extensions_new).trans hm⟩
    rw [hw.get_known (by decide)]
    exact (reads_string _ _).again hsession
  · simp only [← hm, QaraaCommand.fields, List.forall_mem_cons, hlocation']
    exact ⟨(reads_string _ _).kept hsession, QuranLocation.reads.optional_kept hlocation,
      List.forall_mem_nil _⟩

lemma resume_returns (hhead : Head json requestId "session.resume")
    (h : decodeResume requestId json = .ok m) : Returns requestId "session.resume" json m := by
  simp only [decodeResume, bind_eq_ok, pure_eq_ok] at h
  obtain ⟨sessionId, hsession, revision, hrevision, hm⟩ := h
  have hw : Written (openingKeys ++ ["sessionId", "lastSnapshotRevision"]) json
      (opening requestId "session.resume" ++
        [("sessionId", .string sessionId), ("lastSnapshotRevision", .int revision)]) m.toJson :=
    hm ▸ written_envelope (.refl _) (by decide) rfl
  refine .of_written hhead hw (by rw [← hm]; rfl) ?_ ?_
  · change decodeResume requestId m.toJson = .ok m
    simp only [decodeResume, bind_eq_ok, pure_eq_ok]
    refine ⟨sessionId, ?_, revision, ?_, (congrArg _ hw.extensions_new).trans hm⟩
    · rw [hw.get_known (by decide)]
      exact (reads_string _ _).again hsession
    · rw [hw.get_known (by decide)]
      exact (reads_integer _ _).again hrevision
  · simp only [← hm, QaraaCommand.fields, List.forall_mem_cons]
    exact ⟨(reads_string _ _).kept hsession, (reads_integer _ _).kept hrevision,
      List.forall_mem_nil _⟩

/-- The known entries alone encode an observation without extension. -/
lemma toJson_of_extension_nil {o : RecitationObservation} (h : o.extension = []) :
    o.toJson = [("observationId", .string o.observationId),
      ("sourceRevision", .int o.sourceRevision), ("isFinal", .bool o.isFinal),
      ("receivedAtMs", .double o.receivedAtMs),
      ("tokens", .list (o.tokens.map fun v => .map v.toJson))] := by
  rw [RecitationObservation.toJson, h, wire]
  exact spread_of_disjoint (by simp [keys]) (by simp [keys])

lemma submit_returns (hhead : Head json requestId "observation.submit")
    (h : decodeSubmit requestId json = .ok m) :
    Returns requestId "observation.submit" json m := by
  simp only [decodeSubmit, bind_eq_ok, pure_eq_ok] at h
  obtain ⟨sessionId, hsession, o, ho, hm⟩ := h
  have hread : readObject RecitationObservation.fromJson
      (.map (only RecitationObservation.known json)) = .ok o := ho
  -- the observation was read from its known entries alone, so it has no extension
  have hnil : o.extension = [] := by
    obtain ⟨-, -, -, -, -, -, -, hext⟩ := RecitationObservation.fromJson_eq_ok.mp ho
    rw [hext, extensions_eq, without_only]
  have hjson := toJson_of_extension_nil hnil
  have hbody : spread [("sessionId", .string sessionId)] o.toJson =
      ("sessionId", .string sessionId) :: o.toJson := by
    rw [hjson]
    exact spread_of_disjoint (by simp [keys]) (by simp [keys])
  have hw : Written (openingKeys ++ "sessionId" :: RecitationObservation.known) json
      (opening requestId "observation.submit" ++ ("sessionId", .string sessionId) :: o.toJson)
      m.toJson := by
    rw [← hm, QaraaCommand.toJson, hbody]
    refine written_envelope ?_ (by decide) rfl
    rw [hjson]
    exact .refl _
  have honly : only RecitationObservation.known m.toJson = o.toJson := by
    rw [hw.eq, wire, extensions_eq, only_spread_without hw.nodup hw.subset (by decide), hjson]
    rfl
  refine .of_written hhead hw (by rw [← hm]; rfl) ?_ ?_
  · change decodeSubmit requestId m.toJson = .ok m
    simp only [decodeSubmit, bind_eq_ok, pure_eq_ok, honly]
    refine ⟨sessionId, ?_, o, RecitationObservation.reads.again hread,
      (congrArg _ hw.extensions_new).trans hm⟩
    rw [hw.get_known (by decide)]
    exact (reads_string _ _).again hsession
  · rw [← hm]
    refine List.forall_mem_cons.mpr ⟨(reads_string _ _).kept hsession, fun field hfield => ?_⟩
    have hkept := (RecitationObservation.reads.survives hread).kept field hfield
    have hknown : field.1 ∈ RecitationObservation.known := List.mem_map.mpr ⟨field, hfield, rfl⟩
    have hskip : lookup field.1 (opening requestId "observation.submit" ++
        ("sessionId", .string sessionId) :: o.toJson) = lookup field.1 o.toJson := by
      simp only [RecitationObservation.known, List.mem_cons, List.not_mem_nil, or_false] at hknown
      rcases hknown with hk | hk | hk | hk | hk <;> rw [hk] <;> rfl
    rw [hskip, ← lookup_only hknown]
    exact hkept

/-- Every command is decoded again from its encoding, and what was read survives. -/
lemma command_returns (h : decodeCommand json = .ok m) :
    decodeCommand m.toJson = .ok m ∧ Survives m.shape (.map json) (.map m.toJson) := by
  obtain ⟨requestId, type, hhead, hbody⟩ := decodeCommand_eq_ok.mp h
  have hreturns : Returns requestId type json m := by
    rw [decodeBody] at hbody
    split_ifs at hbody with hcreate hget hreset hdelete hresume hsubmit
    · subst hcreate
      exact create_returns hhead hbody
    · subst hget
      exact naming_returns hhead (fun _ => rfl) (fun _ _ => rfl) (fun _ _ => rfl) hbody
    · subst hreset
      exact reset_returns hhead hbody
    · subst hdelete
      exact naming_returns hhead (fun _ => rfl) (fun _ _ => rfl) (fun _ _ => rfl) hbody
    · subst hresume
      exact resume_returns hhead hbody
    · subst hsubmit
      exact submit_returns hhead hbody
  exact ⟨decodeCommand_eq_ok.mpr ⟨requestId, type, hreturns.head, hreturns.body⟩,
    hreturns.survives⟩

end Commands

/-! ### The whole protocol -/

/-- The decoders of the models. -/
inductive Decoder where
  | quranLocation
  | observationToken
  | recitationObservation
  | wordLocation
  | corpusSymbol
  | corpusWord
  | quranCorpus
  | displayState
  | commitState
  | confidence
  | substitutionOperation
  | finding
  | readingSnapshot
  | command

namespace Decoder

/-- The models a decoder gives. -/
def Model : Decoder → Type
  | quranLocation => QuranLocation
  | observationToken => ObservationToken
  | recitationObservation => RecitationObservation
  | wordLocation => WordLocation
  | corpusSymbol => CorpusSymbol
  | corpusWord => CorpusWord
  | quranCorpus => QuranCorpus
  | displayState => DisplayState
  | commitState => CommitState
  | confidence => Confidence
  | substitutionOperation => SubstitutionOperation
  | finding => Finding
  | readingSnapshot => ReadingSnapshot
  | command => QaraaCommand

/-- What a decoder reads an object as. -/
def decode : (d : Decoder) → Entries → Except DartError d.Model
  | quranLocation => QuranLocation.fromJson
  | observationToken => ObservationToken.fromJson
  | recitationObservation => RecitationObservation.fromJson
  | wordLocation => WordLocation.fromJson
  | corpusSymbol => CorpusSymbol.fromJson
  | corpusWord => CorpusWord.fromJson
  | quranCorpus => QuranCorpus.fromJson
  | displayState => DisplayState.fromJson
  | commitState => CommitState.fromJson
  | confidence => Confidence.fromJson
  | substitutionOperation => SubstitutionOperation.fromJson
  | finding => Finding.fromJson
  | readingSnapshot => ReadingSnapshot.fromJson
  | command => decodeCommand

/-- `toJson` of the models. -/
def encode : (d : Decoder) → d.Model → Entries
  | quranLocation => QuranLocation.toJson
  | observationToken => ObservationToken.toJson
  | recitationObservation => RecitationObservation.toJson
  | wordLocation => WordLocation.toJson
  | corpusSymbol => CorpusSymbol.toJson
  | corpusWord => CorpusWord.toJson
  | quranCorpus => QuranCorpus.toJson
  | displayState => DisplayState.toJson
  | commitState => CommitState.toJson
  | confidence => Confidence.toJson
  | substitutionOperation => SubstitutionOperation.toJson
  | finding => Finding.toJson
  | readingSnapshot => ReadingSnapshot.toJson
  | command => QaraaCommand.toJson

/-- The known fields of what a decoder reads; those of a command depend on its type. -/
def shape : (d : Decoder) → d.Model → Shape
  | quranLocation => fun _ => QuranLocation.shape
  | observationToken => fun _ => ObservationToken.shape
  | recitationObservation => fun _ => RecitationObservation.shape
  | wordLocation => fun _ => WordLocation.shape
  | corpusSymbol => fun _ => CorpusSymbol.shape
  | corpusWord => fun _ => CorpusWord.shape
  | quranCorpus => fun _ => QuranCorpus.shape
  | displayState => fun _ => DisplayState.shape
  | commitState => fun _ => CommitState.shape
  | confidence => fun _ => Confidence.shape
  | substitutionOperation => fun _ => SubstitutionOperation.shape
  | finding => fun _ => Finding.shape
  | readingSnapshot => fun _ => ReadingSnapshot.shape
  | command => QaraaCommand.shape

end Decoder

/-- **Decoding undoes encoding**: what any decoder of the client reads from a JSON object,
written back, is decoded again as the same model; every entry it does not know survives at
every depth, and every known field has the value that was read. -/
theorem decode_encode (d : Decoder) (json : Entries) (m : d.Model) (h : d.decode json = .ok m) :
    d.decode (d.encode m) = .ok m ∧
      Survives (d.shape m) (.map json) (.map (d.encode m)) := by
  cases d with
  | quranLocation => exact QuranLocation.reads.of_ok h
  | observationToken => exact ObservationToken.reads.of_ok h
  | recitationObservation => exact RecitationObservation.reads.of_ok h
  | wordLocation => exact WordLocation.reads.of_ok h
  | corpusSymbol => exact CorpusSymbol.reads.of_ok h
  | corpusWord => exact CorpusWord.reads.of_ok h
  | quranCorpus => exact QuranCorpus.reads.of_ok h
  | displayState => exact DisplayState.reads.of_ok h
  | commitState => exact CommitState.reads.of_ok h
  | confidence => exact Confidence.reads.of_ok h
  | substitutionOperation => exact SubstitutionOperation.reads.of_ok h
  | finding => exact Finding.reads.of_ok h
  | readingSnapshot => exact ReadingSnapshot.reads.of_ok h
  | command => exact command_returns h

/-- A submission with entries no decoder knows, in the envelope and in a token. -/
def submission : Entries :=
  [("protocolVersion", .double (.finite 1)), ("requestId", .string "request-1"),
    ("type", .string "observation.submit"), ("trace", .string "a"),
    ("sessionId", .string "session-1"), ("observationId", .string "observation-1"),
    ("sourceRevision", .int 3), ("isFinal", .bool false), ("receivedAtMs", .int 12),
    ("tokens", .list [.map [("id", .string "token-1"), ("text", .string ""),
      ("phonemes", .list [.string "b"]), ("startMs", .int 5),
      ("model", .map [("name", .null)])]])]

/-- A submission with extension fields at every level. -/
def submitted : QaraaCommand :=
  .observationSubmit "request-1" "session-1" ⟨"observation-1", 3, false, .finite 12,
    [⟨"token-1", "", ["b"], some (.finite 5), none, none, [("model", .map [("name", .null)])]⟩],
    []⟩ [("trace", .string "a")]

/-- A submission with extension fields at every level survives the round trip. -/
theorem decode_encode_submission : decodeCommand submitted.toJson = .ok submitted ∧
    Survives submitted.shape (.map submission) (.map submitted.toJson) :=
  decode_encode .command submission submitted rfl

end Qaraa.Sdk.Dart
