import Qaraa.Sdk.DartReads

/-!
Decoding undoes encoding in the Dart client.

For every model: the shape the protocol gives its fields, what a successful decoding read
(`fromJson_eq_ok`), and that the encoded model is decoded again as the same model with
nothing lost on the way (`reads`). A model that holds others uses theirs as one more field
check.

* `QuranLocation.reads` to `ReadingSnapshot.reads`: the models, innermost first.
-/

namespace Qaraa.Sdk.Dart

open Fallible Ordered OrderedMap Entries
open List (lookup)

/-! ### Locations -/

namespace QuranLocation

/-- What `QuranLocation` keeps. -/
def shape : Shape :=
  .object [("surah", .same), ("ayah", .same), ("word", .same), ("symbol", .same)]

lemma fromJson_eq_ok {json : Entries} {m : QuranLocation} : fromJson json = .ok m ↔
    requiredInteger (get json "surah") "surah" 1 = .ok m.surah ∧
    requiredInteger (get json "ayah") "ayah" 1 = .ok m.ayah ∧
    requiredInteger (get json "word") "word" 1 = .ok m.word ∧
    requiredInteger (get json "symbol") "symbol" 1 = .ok m.symbol ∧
    m.extension = extensions json ["surah", "ayah", "word", "symbol"] := by
  obtain ⟨surah, ayah, word, symbol, extension⟩ := m
  simp only [fromJson, bind_eq_ok, pure_eq_ok, mk.injEq]
  grind

lemma reads : Reads shape (readObject fromJson) (fun m => .map m.toJson) := by
  refine .model fun json m h => ?_
  obtain ⟨hsurah, hayah, hword, hsymbol, hext⟩ := fromJson_eq_ok.mp h
  have hw : Written ["surah", "ayah", "word", "symbol"] json [("surah", .int m.surah),
      ("ayah", .int m.ayah), ("word", .int m.word), ("symbol", .int m.symbol)] m.toJson :=
    .of_sublist (.refl _) (by decide) (by rw [toJson, hext])
  constructor
  · rw [fromJson_eq_ok, hw.extensions_new]
    simp (disch := decide) only [hw.get_known]
    exact ⟨(reads_integer _ _).again hsurah, (reads_integer _ _).again hayah,
      (reads_integer _ _).again hword, (reads_integer _ _).again hsymbol, hext⟩
  · refine hw.survives rfl ?_
    simp only [List.forall_mem_cons]
    exact ⟨(reads_integer _ _).kept hsurah, (reads_integer _ _).kept hayah,
      (reads_integer _ _).kept hword, (reads_integer _ _).kept hsymbol, List.forall_mem_nil _⟩

end QuranLocation

namespace WordLocation

/-- What `WordLocation` keeps. -/
def shape : Shape := .object [("surah", .same), ("ayah", .same), ("word", .same)]

lemma fromJson_eq_ok {json : Entries} {m : WordLocation} : fromJson json = .ok m ↔
    requiredInteger (get json "surah") "surah" 1 = .ok m.surah ∧
    requiredInteger (get json "ayah") "ayah" 1 = .ok m.ayah ∧
    requiredInteger (get json "word") "word" 1 = .ok m.word ∧
    m.extension = extensions json ["surah", "ayah", "word"] := by
  obtain ⟨surah, ayah, word, extension⟩ := m
  simp only [fromJson, bind_eq_ok, pure_eq_ok, mk.injEq]
  grind

lemma reads : Reads shape (readObject fromJson) (fun m => .map m.toJson) := by
  refine .model fun json m h => ?_
  obtain ⟨hsurah, hayah, hword, hext⟩ := fromJson_eq_ok.mp h
  have hw : Written ["surah", "ayah", "word"] json
      [("surah", .int m.surah), ("ayah", .int m.ayah), ("word", .int m.word)] m.toJson :=
    .of_sublist (.refl _) (by decide) (by rw [toJson, hext])
  constructor
  · rw [fromJson_eq_ok, hw.extensions_new]
    simp (disch := decide) only [hw.get_known]
    exact ⟨(reads_integer _ _).again hsurah, (reads_integer _ _).again hayah,
      (reads_integer _ _).again hword, hext⟩
  · refine hw.survives rfl ?_
    simp only [List.forall_mem_cons]
    exact ⟨(reads_integer _ _).kept hsurah, (reads_integer _ _).kept hayah,
      (reads_integer _ _).kept hword, List.forall_mem_nil _⟩

end WordLocation

/-! ### Observations -/

namespace ObservationToken

/-- What `ObservationToken` keeps. -/
def shape : Shape :=
  .object [("id", .same), ("text", .same), ("phonemes", .same), ("startMs", .number),
    ("endMs", .number), ("confidence", .number)]

lemma fromJson_eq_ok {json : Entries} {m : ObservationToken} : fromJson json = .ok m ↔
    requiredStrings (get json "phonemes") "phonemes must be strings" (fun _ => false) =
      .ok m.phonemes ∧
    requiredString (get json "id") "id" true = .ok m.id ∧
    requiredString (get json "text") "text" = .ok m.text ∧
    ifContains json "startMs" (fun value => requiredNumber value "startMs") = .ok m.startMs ∧
    ifContains json "endMs" (fun value => requiredNumber value "endMs") = .ok m.endMs ∧
    ifContains json "confidence" (fun value =>
      requiredNumber value "confidence" (.finite 0) (some (.finite 1))) = .ok m.confidence ∧
    m.extension =
      extensions json ["id", "text", "phonemes", "startMs", "endMs", "confidence"] := by
  obtain ⟨id, text, phonemes, startMs, endMs, confidence, extension⟩ := m
  simp only [fromJson, bind_eq_ok, pure_eq_ok, mk.injEq]
  grind

/-- The known entries of an encoded token. -/
def written (m : ObservationToken) : Entries :=
  [("id", .string m.id), ("text", .string m.text),
    ("phonemes", .list (m.phonemes.map .string))] ++ ifPresent "startMs" .double m.startMs ++
    ifPresent "endMs" .double m.endMs ++ ifPresent "confidence" .double m.confidence

lemma keys_written (m : ObservationToken) : (keys m.written).Sublist
    ["id", "text", "phonemes", "startMs", "endMs", "confidence"] := by
  obtain ⟨id, text, phonemes, startMs, endMs, confidence, extension⟩ := m
  cases startMs <;> cases endMs <;> cases confidence <;> simp [written, keys, ifPresent]

lemma lookup_times (m : ObservationToken) :
    lookup "startMs" m.written = m.startMs.map .double ∧
    lookup "endMs" m.written = m.endMs.map .double ∧
    lookup "confidence" m.written = m.confidence.map .double := by
  obtain ⟨id, text, phonemes, startMs, endMs, confidence, extension⟩ := m
  cases startMs <;> cases endMs <;> cases confidence <;> exact ⟨rfl, rfl, rfl⟩

lemma reads : Reads shape (readObject fromJson) (fun m => .map m.toJson) := by
  refine .model fun json m h => ?_
  obtain ⟨hphonemes, hid, htext, hstart, hend, hconfidence, hext⟩ := fromJson_eq_ok.mp h
  have hw : Written ["id", "text", "phonemes", "startMs", "endMs", "confidence"] json m.written
      m.toJson :=
    .of_sublist m.keys_written (by decide) (by rw [toJson, hext]; rfl)
  obtain ⟨hstart', hend', hconfidence'⟩ := m.lookup_times
  constructor
  · rw [fromJson_eq_ok, hw.extensions_new]
    simp (disch := decide) only [hw.get_known]
    refine ⟨(reads_strings _ _).again hphonemes, (reads_string _ _).again hid,
      (reads_string _ _).again htext, ?_, ?_, ?_, hext⟩
    · exact (reads_number _ keepsIntegers_zero).ifContains_again hstart
        ((hw.lookup_known (by decide)).trans hstart')
    · exact (reads_number _ keepsIntegers_zero).ifContains_again hend
        ((hw.lookup_known (by decide)).trans hend')
    · exact (reads_number _ keepsIntegers_unit).ifContains_again hconfidence
        ((hw.lookup_known (by decide)).trans hconfidence')
  · refine hw.survives rfl ?_
    simp only [List.forall_mem_cons, hstart', hend', hconfidence']
    exact ⟨(reads_string _ _).kept hid, (reads_string _ _).kept htext,
      (reads_strings _ _).kept hphonemes,
      (reads_number _ keepsIntegers_zero).ifContains_kept hstart,
      (reads_number _ keepsIntegers_zero).ifContains_kept hend,
      (reads_number _ keepsIntegers_unit).ifContains_kept hconfidence, List.forall_mem_nil _⟩

end ObservationToken

namespace RecitationObservation

/-- The fields of an observation, and what is kept of them. -/
def fields : List (String × Shape) :=
  [("observationId", .same), ("sourceRevision", .same), ("isFinal", .same),
    ("receivedAtMs", .number), ("tokens", .items ObservationToken.shape)]

/-- What `RecitationObservation` keeps. -/
def shape : Shape := .object fields

lemma decodeToken_eq_ok {value : Json} {m : ObservationToken} : decodeToken value = .ok m ↔
    readObject ObservationToken.fromJson value = .ok m := by
  cases value <;> simp [decodeToken, readObject, asMap]

lemma reads_token :
    Reads ObservationToken.shape decodeToken (fun m => .map m.toJson) where
  null m h := by cases h
  again h := decodeToken_eq_ok.mpr (ObservationToken.reads.again (decodeToken_eq_ok.mp h))
  survives h := ObservationToken.reads.survives (decodeToken_eq_ok.mp h)

lemma fromJson_eq_ok {json : Entries} {m : RecitationObservation} : fromJson json = .ok m ↔
    readItems "tokens must be a list" decodeToken (get json "tokens") = .ok m.tokens ∧
    requiredBool (get json "isFinal") "isFinal must be boolean" = .ok m.isFinal ∧
    ¬(m.isFinal = false ∧ m.tokens = []) ∧
    (∃ pass, m.tokens.foldlM checkToken ⟨.empty, .finite (-1)⟩ = .ok pass) ∧
    requiredString (get json "observationId") "observationId" true = .ok m.observationId ∧
    requiredInteger (get json "sourceRevision") "sourceRevision" = .ok m.sourceRevision ∧
    requiredNumber (get json "receivedAtMs") "receivedAtMs" = .ok m.receivedAtMs ∧
    m.extension = extensions json known := by
  obtain ⟨observationId, sourceRevision, isFinal, receivedAtMs, tokens, extension⟩ := m
  simp only [fromJson, readItems, bind_eq_ok, pure_eq_ok, failIf_eq_ok, mk.injEq]
  grind

lemma reads : Reads shape (readObject fromJson) (fun m => .map m.toJson) := by
  refine .model fun json m h => ?_
  obtain ⟨htokens, hfinal, hfinality, hpass, hid, hrevision, hreceived, hext⟩ :=
    fromJson_eq_ok.mp h
  have hw : Written known json [("observationId", .string m.observationId),
      ("sourceRevision", .int m.sourceRevision), ("isFinal", .bool m.isFinal),
      ("receivedAtMs", .double m.receivedAtMs),
      ("tokens", .list (m.tokens.map fun v => .map v.toJson))] m.toJson :=
    .of_sublist (.refl _) (by decide) (by rw [toJson, hext])
  constructor
  · rw [fromJson_eq_ok, hw.extensions_new]
    simp (disch := decide) only [hw.get_known]
    exact ⟨(reads_items _ reads_token).again htokens, (reads_bool _).again hfinal, hfinality, hpass,
      (reads_string _ _).again hid, (reads_integer _ _).again hrevision,
      (reads_number _ keepsIntegers_zero).again hreceived, hext⟩
  · refine hw.survives rfl ?_
    simp only [fields, List.forall_mem_cons]
    exact ⟨(reads_string _ _).kept hid, (reads_integer _ _).kept hrevision,
      (reads_bool _).kept hfinal, (reads_number _ keepsIntegers_zero).kept hreceived,
      (reads_items _ reads_token).kept htokens, List.forall_mem_nil _⟩

end RecitationObservation

/-! ### Corpora -/

namespace CorpusSymbol

/-- What `CorpusSymbol` keeps. -/
def shape : Shape :=
  .object [("id", .same), ("text", .same), ("phoneme", .same), ("location", QuranLocation.shape)]

lemma fromJson_eq_ok {json : Entries} {m : CorpusSymbol} : fromJson json = .ok m ↔
    requiredString (get json "id") "id" true = .ok m.id ∧
    requiredString (get json "text") "text" = .ok m.text ∧
    requiredString (get json "phoneme") "phoneme" true = .ok m.phoneme ∧
    readObject QuranLocation.fromJson (get json "location") = .ok m.location ∧
    m.extension = extensions json ["id", "text", "phoneme", "location"] := by
  obtain ⟨id, text, phoneme, location, extension⟩ := m
  simp only [fromJson, bind_eq_ok, pure_eq_ok, mk.injEq]
  grind

lemma reads : Reads shape (readObject fromJson) (fun m => .map m.toJson) := by
  refine .model fun json m h => ?_
  obtain ⟨hid, htext, hphoneme, hlocation, hext⟩ := fromJson_eq_ok.mp h
  have hw : Written ["id", "text", "phoneme", "location"] json [("id", .string m.id),
      ("text", .string m.text), ("phoneme", .string m.phoneme),
      ("location", .map m.location.toJson)] m.toJson :=
    .of_sublist (.refl _) (by decide) (by rw [toJson, hext])
  constructor
  · rw [fromJson_eq_ok, hw.extensions_new]
    simp (disch := decide) only [hw.get_known]
    exact ⟨(reads_string _ _).again hid, (reads_string _ _).again htext,
      (reads_string _ _).again hphoneme, QuranLocation.reads.again hlocation, hext⟩
  · refine hw.survives rfl ?_
    simp only [List.forall_mem_cons]
    exact ⟨(reads_string _ _).kept hid, (reads_string _ _).kept htext,
      (reads_string _ _).kept hphoneme, QuranLocation.reads.kept hlocation,
      List.forall_mem_nil _⟩

end CorpusSymbol

namespace CorpusWord

/-- What `CorpusWord` keeps. -/
def shape : Shape :=
  .object [("id", .same), ("text", .same), ("symbolIds", .same), ("location", WordLocation.shape)]

lemma fromJson_eq_ok {json : Entries} {m : CorpusWord} : fromJson json = .ok m ↔
    requiredStrings (get json "symbolIds") "symbolIds must be unique non-empty strings"
      (fun ids => ids.isEmpty || ids.any trimIsEmpty || repeats ids) = .ok m.symbolIds ∧
    requiredString (get json "id") "id" true = .ok m.id ∧
    requiredString (get json "text") "text" = .ok m.text ∧
    readObject WordLocation.fromJson (get json "location") = .ok m.location ∧
    m.extension = extensions json ["id", "text", "symbolIds", "location"] := by
  obtain ⟨id, text, symbolIds, location, extension⟩ := m
  simp only [fromJson, bind_eq_ok, pure_eq_ok, mk.injEq]
  grind

lemma reads : Reads shape (readObject fromJson) (fun m => .map m.toJson) := by
  refine .model fun json m h => ?_
  obtain ⟨hids, hid, htext, hlocation, hext⟩ := fromJson_eq_ok.mp h
  have hw : Written ["id", "text", "symbolIds", "location"] json [("id", .string m.id),
      ("text", .string m.text), ("symbolIds", .list (m.symbolIds.map .string)),
      ("location", .map m.location.toJson)] m.toJson :=
    .of_sublist (.refl _) (by decide) (by rw [toJson, hext])
  constructor
  · rw [fromJson_eq_ok, hw.extensions_new]
    simp (disch := decide) only [hw.get_known]
    exact ⟨(reads_strings _ _).again hids, (reads_string _ _).again hid,
      (reads_string _ _).again htext, WordLocation.reads.again hlocation, hext⟩
  · refine hw.survives rfl ?_
    simp only [List.forall_mem_cons]
    exact ⟨(reads_string _ _).kept hid, (reads_string _ _).kept htext,
      (reads_strings _ _).kept hids, WordLocation.reads.kept hlocation, List.forall_mem_nil _⟩

end CorpusWord

namespace QuranCorpus

/-- What `QuranCorpus` keeps. -/
def shape : Shape :=
  .object [("corpusId", .same), ("revision", .same), ("symbols", .items CorpusSymbol.shape),
    ("words", .items CorpusWord.shape)]

lemma fromJson_eq_ok {json : Entries} {m : QuranCorpus} : fromJson json = .ok m ↔
    readItems "symbols and words must be lists" (readObject CorpusSymbol.fromJson)
      (get json "symbols") = .ok m.symbols ∧
    readItems "symbols and words must be lists" (readObject CorpusWord.fromJson)
      (get json "words") = .ok m.words ∧
    ¬repeats (m.symbols.map CorpusSymbol.id) = true ∧
    ¬repeats (m.words.map CorpusWord.id) = true ∧
    (¬∃ word ∈ m.words, ∃ id ∈ word.symbolIds,
      (OrderedSet.ofList (m.symbols.map CorpusSymbol.id)).has id = false) ∧
    requiredString (get json "corpusId") "corpusId" true = .ok m.corpusId ∧
    requiredString (get json "revision") "revision" true = .ok m.revision ∧
    m.extension = extensions json ["corpusId", "revision", "symbols", "words"] := by
  obtain ⟨corpusId, revision, symbols, words, extension⟩ := m
  simp only [fromJson, readItems, bind_eq_ok, pure_eq_ok, failIf_eq_ok, mk.injEq]
  grind

lemma reads : Reads shape (readObject fromJson) (fun m => .map m.toJson) := by
  refine .model fun json m h => ?_
  obtain ⟨hsymbols, hwords, hsymbolIds, hwordIds, hreferences, hid, hrevision, hext⟩ :=
    fromJson_eq_ok.mp h
  have hw : Written ["corpusId", "revision", "symbols", "words"] json
      [("corpusId", .string m.corpusId), ("revision", .string m.revision),
        ("symbols", .list (m.symbols.map fun value => .map value.toJson)),
        ("words", .list (m.words.map fun value => .map value.toJson))] m.toJson :=
    .of_sublist (.refl _) (by decide) (by rw [toJson, hext])
  constructor
  · rw [fromJson_eq_ok, hw.extensions_new]
    simp (disch := decide) only [hw.get_known]
    exact ⟨(reads_items _ CorpusSymbol.reads).again hsymbols,
      (reads_items _ CorpusWord.reads).again hwords, hsymbolIds, hwordIds, hreferences,
      (reads_string _ _).again hid, (reads_string _ _).again hrevision, hext⟩
  · refine hw.survives rfl ?_
    simp only [List.forall_mem_cons]
    exact ⟨(reads_string _ _).kept hid, (reads_string _ _).kept hrevision,
      (reads_items _ CorpusSymbol.reads).kept hsymbols,
      (reads_items _ CorpusWord.reads).kept hwords, List.forall_mem_nil _⟩

end QuranCorpus

/-! ### Snapshots -/

namespace DisplayState

/-- What `DisplayState` keeps. -/
def shape : Shape :=
  .object [("location", QuranLocation.shape), ("isReread", .same),
    ("activeWordId", .nullable .same)]

lemma readFlags_eq_ok {isReread activeWordId : Json} {flags : Bool × Option String} :
    readFlags isReread activeWordId = .ok flags ↔
      requiredBool isReread "invalid display" = .ok flags.1 ∧
      nullable (fun value => requiredString value "activeWordId") activeWordId = .ok flags.2 := by
  obtain ⟨b, id⟩ := flags
  cases isReread <;> cases activeWordId <;>
    simp [readFlags, requiredBool, nullable, requiredString]

lemma fromJson_eq_ok {json : Entries} {m : DisplayState} : fromJson json = .ok m ↔
    requiredBool (get json "isReread") "invalid display" = .ok m.isReread ∧
    nullable (fun value => requiredString value "activeWordId") (get json "activeWordId") =
      .ok m.activeWordId ∧
    readObject QuranLocation.fromJson (get json "location") = .ok m.location ∧
    m.extension = extensions json ["location", "isReread", "activeWordId"] := by
  obtain ⟨location, isReread, activeWordId, extension⟩ := m
  simp only [fromJson, bind_eq_ok, pure_eq_ok, readFlags_eq_ok, Prod.exists, mk.injEq]
  grind

lemma reads : Reads shape (readObject fromJson) (fun m => .map m.toJson) := by
  refine .model fun json m h => ?_
  obtain ⟨hreread, hactive, hlocation, hext⟩ := fromJson_eq_ok.mp h
  have hw : Written ["location", "isReread", "activeWordId"] json
      [("location", .map m.location.toJson), ("isReread", .bool m.isReread),
        ("activeWordId", orNull .string m.activeWordId)] m.toJson :=
    .of_sublist (.refl _) (by decide) (by rw [toJson, hext])
  constructor
  · rw [fromJson_eq_ok, hw.extensions_new]
    simp (disch := decide) only [hw.get_known]
    exact ⟨(reads_bool _).again hreread, (reads_string _ _).nullable_again hactive,
      QuranLocation.reads.again hlocation, hext⟩
  · refine hw.survives rfl ?_
    simp only [List.forall_mem_cons]
    exact ⟨QuranLocation.reads.kept hlocation, (reads_bool _).kept hreread,
      (reads_string _ _).nullable_kept hactive, List.forall_mem_nil _⟩

end DisplayState

namespace CommitState

/-- What `CommitState` keeps. -/
def shape : Shape := .object [("location", QuranLocation.shape), ("completedWordIds", .same)]

lemma fromJson_eq_ok {json : Entries} {m : CommitState} : fromJson json = .ok m ↔
    requiredStrings (get json "completedWordIds") "completedWordIds must be unique strings"
      repeats = .ok m.completedWordIds ∧
    readObject QuranLocation.fromJson (get json "location") = .ok m.location ∧
    m.extension = extensions json ["location", "completedWordIds"] := by
  obtain ⟨location, completedWordIds, extension⟩ := m
  simp only [fromJson, bind_eq_ok, pure_eq_ok, mk.injEq]
  grind

lemma reads : Reads shape (readObject fromJson) (fun m => .map m.toJson) := by
  refine .model fun json m h => ?_
  obtain ⟨hids, hlocation, hext⟩ := fromJson_eq_ok.mp h
  have hw : Written ["location", "completedWordIds"] json [("location", .map m.location.toJson),
      ("completedWordIds", .list (m.completedWordIds.map .string))] m.toJson :=
    .of_sublist (.refl _) (by decide) (by rw [toJson, hext])
  constructor
  · rw [fromJson_eq_ok, hw.extensions_new]
    simp (disch := decide) only [hw.get_known]
    exact ⟨(reads_strings _ _).again hids, QuranLocation.reads.again hlocation, hext⟩
  · refine hw.survives rfl ?_
    simp only [List.forall_mem_cons]
    exact ⟨QuranLocation.reads.kept hlocation, (reads_strings _ _).kept hids,
      List.forall_mem_nil _⟩

end CommitState

namespace Confidence

/-- What `Confidence` keeps. -/
def shape : Shape :=
  .object [("alignment", .number), ("stability", .number), ("lookahead", .number),
    ("matchedLookaheadCount", .same), ("margin", .number), ("acoustic", .nullable .number),
    ("combined", .number)]

lemma fromJson_eq_ok {json : Entries} {m : Confidence} : fromJson json = .ok m ↔
    ¬containsKey json "acoustic" = false ∧
    unit (get json "alignment") "alignment" = .ok m.alignment ∧
    unit (get json "stability") "stability" = .ok m.stability ∧
    unit (get json "lookahead") "lookahead" = .ok m.lookahead ∧
    requiredInteger (get json "matchedLookaheadCount") "matchedLookaheadCount" =
      .ok m.matchedLookaheadCount ∧
    requiredNumber (get json "margin") "margin" = .ok m.margin ∧
    nullable (fun value => unit value "acoustic") (get json "acoustic") = .ok m.acoustic ∧
    unit (get json "combined") "combined" = .ok m.combined ∧
    m.extension = extensions json ["alignment", "stability", "lookahead",
      "matchedLookaheadCount", "margin", "acoustic", "combined"] := by
  obtain ⟨alignment, stability, lookahead, count, margin, acoustic, combined, extension⟩ := m
  simp only [fromJson, bind_eq_ok, pure_eq_ok, failIf_eq_ok, mk.injEq]
  grind

lemma reads_unit (name : String) : Reads .number (fun value => unit value name) .double :=
  reads_number name keepsIntegers_unit

lemma reads : Reads shape (readObject fromJson) (fun m => .map m.toJson) := by
  refine .model fun json m h => ?_
  obtain ⟨-, halignment, hstability, hlookahead, hcount, hmargin, hacoustic, hcombined, hext⟩ :=
    fromJson_eq_ok.mp h
  have hw : Written ["alignment", "stability", "lookahead", "matchedLookaheadCount", "margin",
      "acoustic", "combined"] json [("alignment", .double m.alignment),
      ("stability", .double m.stability), ("lookahead", .double m.lookahead),
      ("matchedLookaheadCount", .int m.matchedLookaheadCount), ("margin", .double m.margin),
      ("acoustic", orNull .double m.acoustic), ("combined", .double m.combined)] m.toJson :=
    .of_sublist (.refl _) (by decide) (by rw [toJson, hext])
  constructor
  · rw [fromJson_eq_ok, hw.extensions_new]
    simp (disch := decide) only [hw.get_known, hw.containsKey_known]
    exact ⟨Bool.noConfusion, (reads_unit _).again halignment, (reads_unit _).again hstability,
      (reads_unit _).again hlookahead, (reads_integer _ _).again hcount,
      (reads_number _ keepsIntegers_zero).again hmargin, (reads_unit _).nullable_again hacoustic,
      (reads_unit _).again hcombined, hext⟩
  · refine hw.survives rfl ?_
    simp only [List.forall_mem_cons]
    exact ⟨(reads_unit _).kept halignment, (reads_unit _).kept hstability,
      (reads_unit _).kept hlookahead, (reads_integer _ _).kept hcount,
      (reads_number _ keepsIntegers_zero).kept hmargin, (reads_unit _).nullable_kept hacoustic,
      (reads_unit _).kept hcombined, List.forall_mem_nil _⟩

end Confidence

lemma isString_iff {value : Json} {expected : String} :
    isString value expected = true ↔ value = .string expected := by
  cases value <;> simp [isString, asString]

lemma kept_string {json : Entries} {key s : String} (h : get json key = .string s) :
    Kept .same (lookup key json) (some (.string s)) := by
  rw [Sdk.lookup_of_get (by rw [h]; simp), h]
  exact .present (.same _)

namespace SubstitutionOperation

/-- What `SubstitutionOperation` keeps. -/
def shape : Shape :=
  .object [("kind", .same), ("actualIndex", .same), ("referenceIndex", .same),
    ("score", .number)]

lemma fromJson_eq_ok {json : Entries} {m : SubstitutionOperation} : fromJson json = .ok m ↔
    get json "kind" = .string "substitution" ∧
    requiredInteger (get json "actualIndex") "actualIndex" = .ok m.actualIndex ∧
    requiredInteger (get json "referenceIndex") "referenceIndex" = .ok m.referenceIndex ∧
    requiredNumber (get json "score") "score" (.infinite false) = .ok m.score ∧
    m.extension = extensions json ["kind", "actualIndex", "referenceIndex", "score"] := by
  obtain ⟨actualIndex, referenceIndex, score, extension⟩ := m
  simp only [fromJson, bind_eq_ok, pure_eq_ok, failIf_eq_ok, Bool.not_eq_false, isString_iff,
    mk.injEq]
  grind

lemma reads : Reads shape (readObject fromJson) (fun m => .map m.toJson) := by
  refine .model fun json m h => ?_
  obtain ⟨hkind, hactual, hreference, hscore, hext⟩ := fromJson_eq_ok.mp h
  have hw : Written ["kind", "actualIndex", "referenceIndex", "score"] json
      [("kind", .string "substitution"), ("actualIndex", .int m.actualIndex),
        ("referenceIndex", .int m.referenceIndex), ("score", .double m.score)] m.toJson :=
    .of_sublist (.refl _) (by decide) (by rw [toJson, hext])
  constructor
  · rw [fromJson_eq_ok, hw.extensions_new]
    simp (disch := decide) only [hw.get_known]
    exact ⟨rfl, (reads_integer _ _).again hactual, (reads_integer _ _).again hreference,
      (reads_number _ keepsIntegers_unbounded).again hscore, hext⟩
  · refine hw.survives rfl ?_
    simp only [List.forall_mem_cons]
    exact ⟨kept_string hkind, (reads_integer _ _).kept hactual,
      (reads_integer _ _).kept hreference, (reads_number _ keepsIntegers_unbounded).kept hscore,
      List.forall_mem_nil _⟩

end SubstitutionOperation

namespace Finding

/-- What `Finding` keeps. -/
def shape : Shape :=
  .object [("type", .same), ("confirmation", .same), ("observationId", .same),
    ("operation", SubstitutionOperation.shape), ("actualPhoneme", .same),
    ("referencePhoneme", .same), ("referenceSymbolId", .same), ("location", QuranLocation.shape),
    ("confidence", Confidence.shape), ("confirmations", .same)]

lemma readConfirmation_eq_ok {type confirmation : Json} {s : String} :
    readConfirmation type confirmation = .ok s ↔ type = .string "substitution" ∧
      confirmation = .string s ∧ s ∈ ["immediate", "final", "soft"] := by
  rw [← isString_iff]
  cases htype : isString type "substitution" with
  | false => simp [readConfirmation, htype]
  | true =>
      cases confirmation with
      | string t =>
          simp only [readConfirmation, htype, true_and, Json.string.injEq]
          split
          · grind
          · grind
      | _ => simp [readConfirmation, htype]

lemma fromJson_eq_ok {json : Entries} {m : Finding} : fromJson json = .ok m ↔
    get json "type" = .string "substitution" ∧
    get json "confirmation" = .string m.confirmation ∧
    m.confirmation ∈ ["immediate", "final", "soft"] ∧
    requiredString (get json "observationId") "observationId" true = .ok m.observationId ∧
    readObject SubstitutionOperation.fromJson (get json "operation") = .ok m.operation ∧
    requiredString (get json "actualPhoneme") "actualPhoneme" = .ok m.actualPhoneme ∧
    requiredString (get json "referencePhoneme") "referencePhoneme" = .ok m.referencePhoneme ∧
    requiredString (get json "referenceSymbolId") "referenceSymbolId" true =
      .ok m.referenceSymbolId ∧
    readObject QuranLocation.fromJson (get json "location") = .ok m.location ∧
    readObject Confidence.fromJson (get json "confidence") = .ok m.confidence ∧
    requiredInteger (get json "confirmations") "confirmations" 1 = .ok m.confirmations ∧
    m.extension = extensions json ["type", "confirmation", "observationId", "operation",
      "actualPhoneme", "referencePhoneme", "referenceSymbolId", "location", "confidence",
      "confirmations"] := by
  obtain ⟨confirmation, observationId, operation, actualPhoneme, referencePhoneme,
    referenceSymbolId, location, confidence, confirmations, extension⟩ := m
  simp only [fromJson, bind_eq_ok, pure_eq_ok, readConfirmation_eq_ok, mk.injEq]
  grind

lemma reads : Reads shape (readObject fromJson) (fun m => .map m.toJson) := by
  refine .model fun json m h => ?_
  obtain ⟨htype, hconfirmation, hmember, hid, hoperation, hactual, hreference, hsymbol,
    hlocation, hconfidence, hcount, hext⟩ := fromJson_eq_ok.mp h
  have hw : Written ["type", "confirmation", "observationId", "operation", "actualPhoneme",
      "referencePhoneme", "referenceSymbolId", "location", "confidence", "confirmations"] json
      [("type", .string "substitution"), ("confirmation", .string m.confirmation),
        ("observationId", .string m.observationId), ("operation", .map m.operation.toJson),
        ("actualPhoneme", .string m.actualPhoneme),
        ("referencePhoneme", .string m.referencePhoneme),
        ("referenceSymbolId", .string m.referenceSymbolId), ("location", .map m.location.toJson),
        ("confidence", .map m.confidence.toJson), ("confirmations", .int m.confirmations)]
      m.toJson :=
    .of_sublist (.refl _) (by decide) (by rw [toJson, hext])
  constructor
  · rw [fromJson_eq_ok, hw.extensions_new]
    simp (disch := decide) only [hw.get_known]
    exact ⟨rfl, rfl, hmember, (reads_string _ _).again hid,
      SubstitutionOperation.reads.again hoperation, (reads_string _ _).again hactual,
      (reads_string _ _).again hreference, (reads_string _ _).again hsymbol,
      QuranLocation.reads.again hlocation, Confidence.reads.again hconfidence,
      (reads_integer _ _).again hcount, hext⟩
  · refine hw.survives rfl ?_
    simp only [List.forall_mem_cons]
    exact ⟨kept_string htype, kept_string hconfirmation, (reads_string _ _).kept hid,
      SubstitutionOperation.reads.kept hoperation, (reads_string _ _).kept hactual,
      (reads_string _ _).kept hreference, (reads_string _ _).kept hsymbol,
      QuranLocation.reads.kept hlocation, Confidence.reads.kept hconfidence,
      (reads_integer _ _).kept hcount, List.forall_mem_nil _⟩

end Finding

namespace ReadingSnapshot

/-- What `ReadingSnapshot` keeps. -/
def shape : Shape :=
  .object [("revision", .same), ("observationId", .nullable .same),
    ("display", DisplayState.shape), ("commit", CommitState.shape),
    ("confidence", .nullable Confidence.shape), ("finding", .nullable Finding.shape)]

lemma fromJson_eq_ok {json : Entries} {m : ReadingSnapshot} : fromJson json = .ok m ↔
    ¬(containsKey json "observationId" = false ∨ containsKey json "confidence" = false ∨
      containsKey json "finding" = false) ∧
    nullable (fun oid => requiredString oid "observationId" true) (get json "observationId") =
      .ok m.observationId ∧
    requiredInteger (get json "revision") "revision" = .ok m.revision ∧
    readObject DisplayState.fromJson (get json "display") = .ok m.display ∧
    readObject CommitState.fromJson (get json "commit") = .ok m.commit ∧
    nullable (readObject Confidence.fromJson) (get json "confidence") = .ok m.confidence ∧
    nullable (readObject Finding.fromJson) (get json "finding") = .ok m.finding ∧
    m.extension = extensions json
      ["revision", "observationId", "display", "commit", "confidence", "finding"] := by
  obtain ⟨revision, observationId, display, commit, confidence, finding, extension⟩ := m
  simp only [fromJson, bind_eq_ok, pure_eq_ok, failIf_eq_ok, mk.injEq]
  grind

lemma reads : Reads shape (readObject fromJson) (fun m => .map m.toJson) := by
  refine .model fun json m h => ?_
  obtain ⟨-, hid, hrevision, hdisplay, hcommit, hconfidence, hfinding, hext⟩ :=
    fromJson_eq_ok.mp h
  have hw : Written ["revision", "observationId", "display", "commit", "confidence", "finding"]
      json [("revision", .int m.revision), ("observationId", orNull .string m.observationId),
        ("display", .map m.display.toJson), ("commit", .map m.commit.toJson),
        ("confidence", orNull (fun v => .map v.toJson) m.confidence),
        ("finding", orNull (fun v => .map v.toJson) m.finding)] m.toJson :=
    .of_sublist (.refl _) (by decide) (by rw [toJson, hext])
  constructor
  · rw [fromJson_eq_ok, hw.extensions_new]
    simp (disch := decide) only [hw.get_known, hw.containsKey_known]
    exact ⟨(by rintro (h | h | h) <;> cases h), (reads_string _ _).nullable_again hid,
      (reads_integer _ _).again hrevision, DisplayState.reads.again hdisplay,
      CommitState.reads.again hcommit, Confidence.reads.nullable_again hconfidence,
      Finding.reads.nullable_again hfinding, hext⟩
  · refine hw.survives rfl ?_
    simp only [List.forall_mem_cons]
    exact ⟨(reads_integer _ _).kept hrevision, (reads_string _ _).nullable_kept hid,
      DisplayState.reads.kept hdisplay, CommitState.reads.kept hcommit,
      Confidence.reads.nullable_kept hconfidence, Finding.reads.nullable_kept hfinding,
      List.forall_mem_nil _⟩

end ReadingSnapshot

end Qaraa.Sdk.Dart
