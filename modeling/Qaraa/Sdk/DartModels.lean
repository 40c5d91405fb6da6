import Qaraa.Library.Fallible
import Qaraa.Sdk.Json

/-!
`sdk/dart/lib/src/models.dart`: the models of the Dart client, each with the decoder that
reads it from a JSON object and the encoder that writes it back.

Every model keeps the entries its decoder does not know in `extension`. The copies that
make them unmodifiable (`immutableJson`) are the identity on the values.

* `requiredInteger`, `requiredNumber`, `requiredString`: the field checks.
* `extensions`, `wire`: the entries left over by a decoder, and the known entries written
  over them by an encoder.
* `QuranLocation` to `QuranCorpus`, `DisplayState` to `ReadingSnapshot`: the models.
* `QaraaCommand`, `decodeCommand`: the commands, the observation of a submission spread
  into the envelope.
-/

namespace Qaraa.Sdk.Dart

open Fallible Ordered Entries

/-- What a decoder throws: a `FormatException`, or the error of a failed cast. -/
inductive DartError where
  | format (message : String)
  | cast
  deriving DecidableEq

/-! ### Field checks -/

/-- `requiredInteger`: an integer from `minimum` to the largest safe one. -/
def requiredInteger (value : Json) (name : String) (minimum : ℤ := 0) : Except DartError ℤ :=
  let wrong := DartError.format (name ++ " must be an integer from " ++ toString minimum ++
    " through " ++ toString maxSafeInteger)
  match value with
  | .int n => if n < minimum ∨ (maxSafeInteger : ℤ) < n then .error wrong else .ok n
  | _ => .error wrong

/-- `!value.isFinite || value < minimum || maximum != null && value > maximum`. -/
def isOutside (value minimum : JsNumber) (maximum : Option JsNumber) : Bool :=
  !value.isFinite || value.lt minimum || maximum.any fun bound => bound.lt value

/-- `requiredNumber`: a finite number from `minimum` on, and up to `maximum` if there is one. -/
def requiredNumber (value : Json) (name : String) (minimum : JsNumber := .finite 0)
    (maximum : Option JsNumber := none) : Except DartError JsNumber :=
  let wrong := DartError.format (name ++ " is outside its allowed range")
  match value with
  | .int n => if isOutside (.finite n) minimum maximum then .error wrong else .ok (toDouble n)
  | .double x => if isOutside x minimum maximum then .error wrong else .ok x
  | _ => .error wrong

/-- `value.trim().isEmpty`: Dart also trims the next-line character. -/
def trimIsEmpty (value : String) : Bool :=
  value.toList.all fun c => isTrimmed c || c.toNat == 0x85

/-- `requiredString`. -/
def requiredString (value : Json) (name : String) (nonEmpty : Bool := false) :
    Except DartError String :=
  let wrong := DartError.format (name ++ " must be a string")
  match value with
  | .string s => if nonEmpty && trimIsEmpty s then .error wrong else .ok s
  | _ => .error wrong

/-- A cast to `String`. -/
def asString : Json → Option String
  | .string s => some s
  | _ => none

/-- `value is! List || value.any((v) => v is! String) || bad(value)`: the list of strings
otherwise. -/
def requiredStrings (value : Json) (message : String) (bad : List String → Bool) :
    Except DartError (List String) :=
  match value with
  | .list items =>
      match items.mapM asString with
      | some strings => if bad strings then .error (.format message) else .ok strings
      | none => .error (.format message)
  | _ => .error (.format message)

/-- A boolean, or the error with this message. -/
def requiredBool (value : Json) (message : String) : Except DartError Bool :=
  match value with
  | .bool b => .ok b
  | _ => .error (.format message)

/-- `if (value is! List<Object?>) throw`. -/
def requiredList (value : Json) (message : String) : Except DartError (List Json) :=
  match value with
  | .list items => .ok items
  | _ => .error (.format message)

/-- `value! as Map<String, Object?>`. -/
def asMap : Json → Except DartError Entries
  | .map entries => .ok entries
  | _ => .error .cast

/-- `fromJson(Map<String, Object?>.from(value! as Map<String, Object?>))`. -/
def readObject {α : Type} (fromJson : Entries → Except DartError α) (value : Json) :
    Except DartError α := do
  fromJson (← asMap value)

/-- `value == null ? null : read(value)`. -/
def nullable {α : Type} (read : Json → Except DartError α) (value : Json) :
    Except DartError (Option α) :=
  match value with
  | .null => .ok none
  | value => do return some (← read value)

/-- `json.containsKey(key) ? read(json[key]) : null`. -/
def ifContains {α : Type} (json : Entries) (key : String) (read : Json → Except DartError α) :
    Except DartError (Option α) :=
  if containsKey json key then do return some (← read (get json key)) else .ok none

/-- `ids.toSet().length != ids.length`. -/
def repeats (ids : List String) : Bool := decide ((OrderedSet.ofList ids).size ≠ ids.length)

/-! ### Extensions -/

mutual

/-- `immutableJson`. -/
def immutableJson : Json → Json
  | .list items => .list (immutableItems items)
  | .map entries => .map (immutableExtensions entries)
  | value => value

/-- The items of a list, made immutable. -/
def immutableItems : List Json → List Json
  | [] => []
  | item :: items => immutableJson item :: immutableItems items

/-- The entries of a map, made immutable. -/
def immutableExtensions : List (String × Json) → List (String × Json)
  | [] => []
  | (key, value) :: entries => (key, immutableJson value) :: immutableExtensions entries

end

/-- `extensions`: the entries whose keys are not known. -/
def extensions (json : Entries) (known : List String) : Entries :=
  immutableExtensions (without known json)

/-- `{...extra, ...known}`. -/
def wire (known extra : Entries) : Entries := spread extra known

/-- `if (value != null) key: write(value)`. -/
def ifPresent {α : Type} (key : String) (write : α → Json) (value : Option α) : Entries :=
  match value with
  | none => []
  | some v => [(key, write v)]

/-- `value?.write()` as the value of an entry. -/
def orNull {α : Type} (write : α → Json) (value : Option α) : Json := value.elim .null write

/-! ### Locations -/

/-- `QuranLocation`. -/
structure QuranLocation where
  surah : ℤ
  ayah : ℤ
  word : ℤ
  symbol : ℤ
  extension : Entries

namespace QuranLocation

/-- `QuranLocation.fromJson`. -/
def fromJson (json : Entries) : Except DartError QuranLocation := do
  let surah ← requiredInteger (get json "surah") "surah" 1
  let ayah ← requiredInteger (get json "ayah") "ayah" 1
  let word ← requiredInteger (get json "word") "word" 1
  let symbol ← requiredInteger (get json "symbol") "symbol" 1
  return ⟨surah, ayah, word, symbol, extensions json ["surah", "ayah", "word", "symbol"]⟩

/-- `QuranLocation.toJson`. -/
def toJson (m : QuranLocation) : Entries :=
  wire [("surah", .int m.surah), ("ayah", .int m.ayah), ("word", .int m.word),
    ("symbol", .int m.symbol)] m.extension

end QuranLocation

/-- `WordLocation`. -/
structure WordLocation where
  surah : ℤ
  ayah : ℤ
  word : ℤ
  extension : Entries

namespace WordLocation

/-- `WordLocation.fromJson`. -/
def fromJson (json : Entries) : Except DartError WordLocation := do
  let surah ← requiredInteger (get json "surah") "surah" 1
  let ayah ← requiredInteger (get json "ayah") "ayah" 1
  let word ← requiredInteger (get json "word") "word" 1
  return ⟨surah, ayah, word, extensions json ["surah", "ayah", "word"]⟩

/-- `WordLocation.toJson`. -/
def toJson (m : WordLocation) : Entries :=
  wire [("surah", .int m.surah), ("ayah", .int m.ayah), ("word", .int m.word)] m.extension

end WordLocation

/-! ### Observations -/

/-- `ObservationToken`. -/
structure ObservationToken where
  id : String
  text : String
  phonemes : List String
  startMs : Option JsNumber
  endMs : Option JsNumber
  confidence : Option JsNumber
  extension : Entries

namespace ObservationToken

/-- `ObservationToken.fromJson`. -/
def fromJson (json : Entries) : Except DartError ObservationToken := do
  let phonemes ← requiredStrings (get json "phonemes") "phonemes must be strings" fun _ => false
  let id ← requiredString (get json "id") "id" true
  let text ← requiredString (get json "text") "text"
  let startMs ← ifContains json "startMs" fun value => requiredNumber value "startMs"
  let endMs ← ifContains json "endMs" fun value => requiredNumber value "endMs"
  let confidence ← ifContains json "confidence" fun value =>
    requiredNumber value "confidence" (.finite 0) (some (.finite 1))
  return ⟨id, text, phonemes, startMs, endMs, confidence,
    extensions json ["id", "text", "phonemes", "startMs", "endMs", "confidence"]⟩

/-- `ObservationToken.toJson`. -/
def toJson (m : ObservationToken) : Entries :=
  wire ([("id", .string m.id), ("text", .string m.text),
    ("phonemes", .list (m.phonemes.map .string))] ++ ifPresent "startMs" .double m.startMs ++
    ifPresent "endMs" .double m.endMs ++ ifPresent "confidence" .double m.confidence) m.extension

end ObservationToken

/-- `RecitationObservation`. -/
structure RecitationObservation where
  observationId : String
  sourceRevision : ℤ
  isFinal : Bool
  receivedAtMs : JsNumber
  tokens : List ObservationToken
  extension : Entries

/-- The state of the loop over the tokens of an observation. -/
structure TokenCheck where
  ids : OrderedSet String
  previous : JsNumber

/-- One round of the loop. Only a present end is carried to the next token. -/
def checkToken (pass : TokenCheck) (token : ObservationToken) : Except DartError TokenCheck := do
  failIf (pass.ids.has token.id = true) (.format "token IDs must be unique")
  failIf (∃ start ∈ token.startMs, start.lt pass.previous = true)
    (.format "token timestamps must not decrease")
  failIf (∃ finish ∈ token.endMs, ∃ start ∈ token.startMs, finish.lt start = true)
    (.format "token timestamps must not decrease")
  return ⟨pass.ids.add token.id, token.endMs.getD pass.previous⟩

namespace RecitationObservation

/-- The fields the encoder writes and the decoder reads. -/
def known : List String := ["observationId", "sourceRevision", "isFinal", "receivedAtMs", "tokens"]

/-- A token of the list, which has to be a map. -/
def decodeToken : Json → Except DartError ObservationToken
  | .map json => ObservationToken.fromJson json
  | _ => .error (.format "tokens must be objects")

/-- `RecitationObservation.fromJson`. -/
def fromJson (json : Entries) : Except DartError RecitationObservation := do
  let raw ← requiredList (get json "tokens") "tokens must be a list"
  let isFinal ← requiredBool (get json "isFinal") "isFinal must be boolean"
  let tokens ← raw.mapM decodeToken
  failIf (isFinal = false ∧ tokens = []) (.format "partial observation requires a token")
  let _ ← tokens.foldlM checkToken ⟨.empty, .finite (-1)⟩
  let observationId ← requiredString (get json "observationId") "observationId" true
  let sourceRevision ← requiredInteger (get json "sourceRevision") "sourceRevision"
  let receivedAtMs ← requiredNumber (get json "receivedAtMs") "receivedAtMs"
  return ⟨observationId, sourceRevision, isFinal, receivedAtMs, tokens, extensions json known⟩

/-- `RecitationObservation.toJson`. -/
def toJson (m : RecitationObservation) : Entries :=
  wire [("observationId", .string m.observationId), ("sourceRevision", .int m.sourceRevision),
    ("isFinal", .bool m.isFinal), ("receivedAtMs", .double m.receivedAtMs),
    ("tokens", .list (m.tokens.map fun v => .map v.toJson))] m.extension

end RecitationObservation

/-! ### Corpora -/

/-- `CorpusSymbol`. -/
structure CorpusSymbol where
  id : String
  text : String
  phoneme : String
  location : QuranLocation
  extension : Entries

namespace CorpusSymbol

/-- `CorpusSymbol.fromJson`. -/
def fromJson (json : Entries) : Except DartError CorpusSymbol := do
  let id ← requiredString (get json "id") "id" true
  let text ← requiredString (get json "text") "text"
  let phoneme ← requiredString (get json "phoneme") "phoneme" true
  let location ← readObject QuranLocation.fromJson (get json "location")
  return ⟨id, text, phoneme, location, extensions json ["id", "text", "phoneme", "location"]⟩

/-- `CorpusSymbol.toJson`. -/
def toJson (m : CorpusSymbol) : Entries :=
  wire [("id", .string m.id), ("text", .string m.text), ("phoneme", .string m.phoneme),
    ("location", .map m.location.toJson)] m.extension

end CorpusSymbol

/-- `CorpusWord`. -/
structure CorpusWord where
  id : String
  text : String
  symbolIds : List String
  location : WordLocation
  extension : Entries

namespace CorpusWord

/-- `CorpusWord.fromJson`. -/
def fromJson (json : Entries) : Except DartError CorpusWord := do
  let symbolIds ← requiredStrings (get json "symbolIds")
    "symbolIds must be unique non-empty strings"
    fun ids => ids.isEmpty || ids.any trimIsEmpty || repeats ids
  let id ← requiredString (get json "id") "id" true
  let text ← requiredString (get json "text") "text"
  let location ← readObject WordLocation.fromJson (get json "location")
  return ⟨id, text, symbolIds, location, extensions json ["id", "text", "symbolIds", "location"]⟩

/-- `CorpusWord.toJson`. -/
def toJson (m : CorpusWord) : Entries :=
  wire [("id", .string m.id), ("text", .string m.text),
    ("symbolIds", .list (m.symbolIds.map .string)), ("location", .map m.location.toJson)]
    m.extension

end CorpusWord

/-- `QuranCorpus`. -/
structure QuranCorpus where
  corpusId : String
  revision : String
  symbols : List CorpusSymbol
  words : List CorpusWord
  extension : Entries

namespace QuranCorpus

/-- `QuranCorpus.fromJson`. -/
def fromJson (json : Entries) : Except DartError QuranCorpus := do
  let rawSymbols ← requiredList (get json "symbols") "symbols and words must be lists"
  let rawWords ← requiredList (get json "words") "symbols and words must be lists"
  let symbols ← rawSymbols.mapM (readObject CorpusSymbol.fromJson)
  let words ← rawWords.mapM (readObject CorpusWord.fromJson)
  failIf (repeats (symbols.map CorpusSymbol.id) = true)
    (.format "corpus symbol IDs must be unique")
  failIf (repeats (words.map CorpusWord.id) = true) (.format "corpus word IDs must be unique")
  let known := OrderedSet.ofList (symbols.map CorpusSymbol.id)
  failIf (∃ word ∈ words, ∃ id ∈ word.symbolIds, known.has id = false)
    (.format "word symbolIds must reference corpus symbols")
  let corpusId ← requiredString (get json "corpusId") "corpusId" true
  let revision ← requiredString (get json "revision") "revision" true
  return ⟨corpusId, revision, symbols, words,
    extensions json ["corpusId", "revision", "symbols", "words"]⟩

/-- `QuranCorpus.toJson`. -/
def toJson (m : QuranCorpus) : Entries :=
  wire [("corpusId", .string m.corpusId), ("revision", .string m.revision),
    ("symbols", .list (m.symbols.map fun value => .map value.toJson)),
    ("words", .list (m.words.map fun value => .map value.toJson))] m.extension

end QuranCorpus

/-! ### Snapshots -/

/-- `DisplayState`. -/
structure DisplayState where
  location : QuranLocation
  isReread : Bool
  activeWordId : Option String
  extension : Entries

namespace DisplayState

/-- `json['isReread'] is! bool || active != null && active is! String`. -/
def readFlags (isReread activeWordId : Json) : Except DartError (Bool × Option String) :=
  match isReread, activeWordId with
  | .bool b, .null => .ok (b, none)
  | .bool b, .string id => .ok (b, some id)
  | _, _ => .error (.format "invalid display")

/-- `DisplayState.fromJson`. -/
def fromJson (json : Entries) : Except DartError DisplayState := do
  let flags ← readFlags (get json "isReread") (get json "activeWordId")
  let location ← readObject QuranLocation.fromJson (get json "location")
  return ⟨location, flags.1, flags.2, extensions json ["location", "isReread", "activeWordId"]⟩

/-- `DisplayState.toJson`. -/
def toJson (m : DisplayState) : Entries :=
  wire [("location", .map m.location.toJson), ("isReread", .bool m.isReread),
    ("activeWordId", orNull .string m.activeWordId)] m.extension

end DisplayState

/-- `CommitState`. -/
structure CommitState where
  location : QuranLocation
  completedWordIds : List String
  extension : Entries

namespace CommitState

/-- `CommitState.fromJson`. -/
def fromJson (json : Entries) : Except DartError CommitState := do
  let completedWordIds ← requiredStrings (get json "completedWordIds")
    "completedWordIds must be unique strings" repeats
  let location ← readObject QuranLocation.fromJson (get json "location")
  return ⟨location, completedWordIds, extensions json ["location", "completedWordIds"]⟩

/-- `CommitState.toJson`. -/
def toJson (m : CommitState) : Entries :=
  wire [("location", .map m.location.toJson),
    ("completedWordIds", .list (m.completedWordIds.map .string))] m.extension

end CommitState

/-- `Confidence`. -/
structure Confidence where
  alignment : JsNumber
  stability : JsNumber
  lookahead : JsNumber
  matchedLookaheadCount : ℤ
  margin : JsNumber
  acoustic : Option JsNumber
  combined : JsNumber
  extension : Entries

namespace Confidence

/-- `requiredNumber(value, name, maximum: 1)`. -/
def unit (value : Json) (name : String) : Except DartError JsNumber :=
  requiredNumber value name (.finite 0) (some (.finite 1))

/-- `Confidence.fromJson`. -/
def fromJson (json : Entries) : Except DartError Confidence := do
  failIf (containsKey json "acoustic" = false) (.format "acoustic is required")
  let alignment ← unit (get json "alignment") "alignment"
  let stability ← unit (get json "stability") "stability"
  let lookahead ← unit (get json "lookahead") "lookahead"
  let matchedLookaheadCount ←
    requiredInteger (get json "matchedLookaheadCount") "matchedLookaheadCount"
  let margin ← requiredNumber (get json "margin") "margin"
  let acoustic ← nullable (fun value => unit value "acoustic") (get json "acoustic")
  let combined ← unit (get json "combined") "combined"
  return ⟨alignment, stability, lookahead, matchedLookaheadCount, margin, acoustic, combined,
    extensions json ["alignment", "stability", "lookahead", "matchedLookaheadCount", "margin",
      "acoustic", "combined"]⟩

/-- `Confidence.toJson`. -/
def toJson (m : Confidence) : Entries :=
  wire [("alignment", .double m.alignment), ("stability", .double m.stability),
    ("lookahead", .double m.lookahead), ("matchedLookaheadCount", .int m.matchedLookaheadCount),
    ("margin", .double m.margin), ("acoustic", orNull .double m.acoustic),
    ("combined", .double m.combined)] m.extension

end Confidence

/-- `json[key] != expected`: whether the value is that string. -/
def isString (value : Json) (expected : String) : Bool := asString value == some expected

/-- `SubstitutionOperation`. -/
structure SubstitutionOperation where
  actualIndex : ℤ
  referenceIndex : ℤ
  score : JsNumber
  extension : Entries

namespace SubstitutionOperation

/-- `SubstitutionOperation.fromJson`. -/
def fromJson (json : Entries) : Except DartError SubstitutionOperation := do
  failIf (isString (get json "kind") "substitution" = false)
    (.format "operation kind must be substitution")
  let actualIndex ← requiredInteger (get json "actualIndex") "actualIndex"
  let referenceIndex ← requiredInteger (get json "referenceIndex") "referenceIndex"
  let score ← requiredNumber (get json "score") "score" (.infinite false)
  return ⟨actualIndex, referenceIndex, score,
    extensions json ["kind", "actualIndex", "referenceIndex", "score"]⟩

/-- `SubstitutionOperation.toJson`. -/
def toJson (m : SubstitutionOperation) : Entries :=
  wire [("kind", .string "substitution"), ("actualIndex", .int m.actualIndex),
    ("referenceIndex", .int m.referenceIndex), ("score", .double m.score)] m.extension

end SubstitutionOperation

/-- `Finding`. -/
structure Finding where
  confirmation : String
  observationId : String
  operation : SubstitutionOperation
  actualPhoneme : String
  referencePhoneme : String
  referenceSymbolId : String
  location : QuranLocation
  confidence : Confidence
  confirmations : ℤ
  extension : Entries

namespace Finding

/-- `{'immediate', 'final', 'soft'}.contains(value)`, and the cast that follows it. -/
def readConfirmation (type confirmation : Json) : Except DartError String :=
  match isString type "substitution", confirmation with
  | true, .string s =>
      if s ∈ ["immediate", "final", "soft"] then .ok s
      else .error (.format "invalid finding type or confirmation")
  | _, _ => .error (.format "invalid finding type or confirmation")

/-- `Finding.fromJson`. -/
def fromJson (json : Entries) : Except DartError Finding := do
  let confirmation ← readConfirmation (get json "type") (get json "confirmation")
  let observationId ← requiredString (get json "observationId") "observationId" true
  let operation ← readObject SubstitutionOperation.fromJson (get json "operation")
  let actualPhoneme ← requiredString (get json "actualPhoneme") "actualPhoneme"
  let referencePhoneme ← requiredString (get json "referencePhoneme") "referencePhoneme"
  let referenceSymbolId ←
    requiredString (get json "referenceSymbolId") "referenceSymbolId" true
  let location ← readObject QuranLocation.fromJson (get json "location")
  let confidence ← readObject Confidence.fromJson (get json "confidence")
  let confirmations ← requiredInteger (get json "confirmations") "confirmations" 1
  return ⟨confirmation, observationId, operation, actualPhoneme, referencePhoneme,
    referenceSymbolId, location, confidence, confirmations,
    extensions json ["type", "confirmation", "observationId", "operation", "actualPhoneme",
      "referencePhoneme", "referenceSymbolId", "location", "confidence", "confirmations"]⟩

/-- `Finding.toJson`. -/
def toJson (m : Finding) : Entries :=
  wire [("type", .string "substitution"), ("confirmation", .string m.confirmation),
    ("observationId", .string m.observationId), ("operation", .map m.operation.toJson),
    ("actualPhoneme", .string m.actualPhoneme), ("referencePhoneme", .string m.referencePhoneme),
    ("referenceSymbolId", .string m.referenceSymbolId), ("location", .map m.location.toJson),
    ("confidence", .map m.confidence.toJson), ("confirmations", .int m.confirmations)] m.extension

end Finding

/-- `ReadingSnapshot`. -/
structure ReadingSnapshot where
  revision : ℤ
  observationId : Option String
  display : DisplayState
  commit : CommitState
  confidence : Option Confidence
  finding : Option Finding
  extension : Entries

namespace ReadingSnapshot

/-- `ReadingSnapshot.fromJson`. -/
def fromJson (json : Entries) : Except DartError ReadingSnapshot := do
  failIf (containsKey json "observationId" = false ∨ containsKey json "confidence" = false ∨
    containsKey json "finding" = false) (.format "snapshot required nullable field missing")
  let observationId ← nullable (fun oid => requiredString oid "observationId" true)
    (get json "observationId")
  let revision ← requiredInteger (get json "revision") "revision"
  let display ← readObject DisplayState.fromJson (get json "display")
  let commit ← readObject CommitState.fromJson (get json "commit")
  let confidence ← nullable (readObject Confidence.fromJson) (get json "confidence")
  let finding ← nullable (readObject Finding.fromJson) (get json "finding")
  return ⟨revision, observationId, display, commit, confidence, finding,
    extensions json ["revision", "observationId", "display", "commit", "confidence", "finding"]⟩

/-- `ReadingSnapshot.toJson`. -/
def toJson (m : ReadingSnapshot) : Entries :=
  wire [("revision", .int m.revision), ("observationId", orNull .string m.observationId),
    ("display", .map m.display.toJson), ("commit", .map m.commit.toJson),
    ("confidence", orNull (fun v => .map v.toJson) m.confidence),
    ("finding", orNull (fun v => .map v.toJson) m.finding)] m.extension

end ReadingSnapshot

/-! ### Commands -/

/-- `QaraaCommand`, a constructor for each of its classes. -/
inductive QaraaCommand where
  | sessionCreate (requestId corpusId : String) (initialLocation : Option QuranLocation)
      (findingMode : Option String) (extension : Entries)
  | sessionGet (requestId sessionId : String) (extension : Entries)
  | sessionReset (requestId sessionId : String) (location : Option QuranLocation)
      (extension : Entries)
  | sessionDelete (requestId sessionId : String) (extension : Entries)
  | sessionResume (requestId sessionId : String) (lastSnapshotRevision : ℤ)
      (extension : Entries)
  | observationSubmit (requestId sessionId : String) (observation : RecitationObservation)
      (extension : Entries)

/-- `{'protocolVersion': 1, 'requestId': requestId, 'type': type, ...body}` over the
extension. -/
def envelope (requestId type : String) (body extension : Entries) : Entries :=
  wire (spread [("protocolVersion", .int 1), ("requestId", .string requestId),
    ("type", .string type)] body) extension

namespace QaraaCommand

/-- `toJson` of each class. -/
def toJson : QaraaCommand → Entries
  | .sessionCreate requestId corpusId initialLocation findingMode extension =>
      envelope requestId "session.create" ([("corpusId", .string corpusId)] ++
        ifPresent "initialLocation" (fun v => .map v.toJson) initialLocation ++
        ifPresent "findingMode" .string findingMode) extension
  | .sessionGet requestId sessionId extension =>
      envelope requestId "session.get" [("sessionId", .string sessionId)] extension
  | .sessionReset requestId sessionId location extension =>
      envelope requestId "session.reset" ([("sessionId", .string sessionId)] ++
        ifPresent "location" (fun v => .map v.toJson) location) extension
  | .sessionDelete requestId sessionId extension =>
      envelope requestId "session.delete" [("sessionId", .string sessionId)] extension
  | .sessionResume requestId sessionId lastSnapshotRevision extension =>
      envelope requestId "session.resume" [("sessionId", .string sessionId),
        ("lastSnapshotRevision", .int lastSnapshotRevision)] extension
  | .observationSubmit requestId sessionId observation extension =>
      envelope requestId "observation.submit"
        (spread [("sessionId", .string sessionId)] observation.toJson) extension

end QaraaCommand

/-- `!{'off', 'substitutions'}.contains(mode)`, and the cast of `mode`. -/
def readMode (mode : Json) : Except DartError String :=
  match mode with
  | .string s =>
      if s ∈ ["off", "substitutions"] then .ok s else .error (.format "invalid findingMode")
  | _ => .error (.format "invalid findingMode")

/-- The case of `session.create`. -/
def decodeCreate (requestId : String) (json : Entries) : Except DartError QaraaCommand := do
  let mode ← nullable readMode (get json "findingMode")
  let corpusId ← requiredString (get json "corpusId") "corpusId" true
  let initialLocation ← nullable (readObject QuranLocation.fromJson) (get json "initialLocation")
  return .sessionCreate requestId corpusId initialLocation mode (extensions json
    ["protocolVersion", "requestId", "type", "corpusId", "initialLocation", "findingMode"])

/-- The commands that only name their session. -/
def decodeNaming (make : String → Entries → QaraaCommand) (json : Entries) :
    Except DartError QaraaCommand := do
  let sessionId ← requiredString (get json "sessionId") "sessionId" true
  return make sessionId (extensions json ["protocolVersion", "requestId", "type", "sessionId"])

/-- The case of `session.reset`. -/
def decodeReset (requestId : String) (json : Entries) : Except DartError QaraaCommand := do
  let sessionId ← requiredString (get json "sessionId") "sessionId" true
  let location ← nullable (readObject QuranLocation.fromJson) (get json "location")
  return .sessionReset requestId sessionId location (extensions json
    ["protocolVersion", "requestId", "type", "sessionId", "location"])

/-- The case of `session.resume`. -/
def decodeResume (requestId : String) (json : Entries) : Except DartError QaraaCommand := do
  let sessionId ← requiredString (get json "sessionId") "sessionId" true
  let lastSnapshotRevision ←
    requiredInteger (get json "lastSnapshotRevision") "lastSnapshotRevision"
  return .sessionResume requestId sessionId lastSnapshotRevision (extensions json
    ["protocolVersion", "requestId", "type", "sessionId", "lastSnapshotRevision"])

/-- The case of `observation.submit`. -/
def decodeSubmit (requestId : String) (json : Entries) : Except DartError QaraaCommand := do
  let observationJson := only RecitationObservation.known json
  let sessionId ← requiredString (get json "sessionId") "sessionId" true
  let observation ← RecitationObservation.fromJson observationJson
  return .observationSubmit requestId sessionId observation (extensions json
    ["protocolVersion", "requestId", "type", "sessionId", "observationId", "sourceRevision",
      "isFinal", "receivedAtMs", "tokens"])

/-- `switch (type)`. -/
def decodeBody (requestId type : String) (json : Entries) : Except DartError QaraaCommand :=
  if type = "session.create" then decodeCreate requestId json
  else if type = "session.get" then decodeNaming (.sessionGet requestId) json
  else if type = "session.reset" then decodeReset requestId json
  else if type = "session.delete" then decodeNaming (.sessionDelete requestId) json
  else if type = "session.resume" then decodeResume requestId json
  else if type = "observation.submit" then decodeSubmit requestId json
  else .error (.format "unknown command")

/-- `decodeCommand`, once the bytes are read. -/
def decodeCommand (json : Entries) : Except DartError QaraaCommand := do
  failIf (isOne (get json "protocolVersion") = false) (.format "unsupported protocol")
  let requestId ← requiredString (get json "requestId") "requestId" true
  let type ← requiredString (get json "type") "type" true
  decodeBody requestId type json

end Qaraa.Sdk.Dart
