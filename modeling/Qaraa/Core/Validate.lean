import Qaraa.Core.Corpus
import Qaraa.Library.Fallible

/-!
`packages/core/src/corpus/validate.ts`: boundary validation of corpora and observations.

Each `asserts value is T` function of the source returns the checked value at type `T`
here; the checks, their order and their messages are the source's.

* `validateCorpus`: the symbols in one pass (`visitSymbol`), then the words with the
  symbols they reference (`visitWord`, `visitSymbolId`), then totality.
* `validateObservation`: the scalar fields, then the tokens in one pass
  (`visitToken`), the carried timestamp recomputed by the caller as in the source.
-/

namespace Qaraa

open Fallible Ordered

/-! ### Field checks -/

/-- Semantic work and memory ceilings applied before alignment begins. -/
structure ObservationLimits where
  maxTokens : ℕ := 64
  maxPhonemes : ℕ := 128
  maxObservationIdLength : ℕ := 256
  maxTokenIdLength : ℕ := 256
  maxTokenTextLength : ℕ := 1024
  maxPhonemeLength : ℕ := 128

/-- `OBSERVATION_LIMITS`. -/
def observationLimits : ObservationLimits := {}

/-- `fail`. -/
def fail {α : Type} (message : String) : Except JsError α := .error (.typeError message)

/-- `requireNonEmptyString`. -/
def requireNonEmptyString (value : JsValue) (label : String) : Except JsError String :=
  match value with
  | .string s =>
      if isBlank s then fail (label ++ " must be a non-empty string") else .ok s
  | _ => fail (label ++ " must be a non-empty string")

/-- `if (typeof value !== 'string') fail(message)`. -/
def requireString (value : JsValue) (message : String) : Except JsError String :=
  match value with
  | .string s => .ok s
  | _ => fail message

/-- `if (!Array.isArray(value)) fail(message)`. -/
def requireArray (value : JsValue) (message : String) : Except JsError (List JsValue) :=
  match value with
  | .array items => .ok items
  | _ => fail message

/-- `requireStringLength`. -/
def requireStringLength (value : String) (maximum : ℕ) (label : String) : Except JsError Unit :=
  failIf (maximum < utf16Length value)
    (.typeError (label ++ " must contain at most " ++ toString maximum ++ " UTF-16 code units"))

/-- `requirePositiveInteger`. -/
def requirePositiveInteger (value : JsValue) (label : String) : Except JsError ℕ :=
  match value with
  | .number (.finite q) =>
      if isSafeInteger (.finite q) ∧ 0 < q then .ok q.num.toNat
      else fail (label ++ " must be a positive integer")
  | _ => fail (label ++ " must be a positive integer")

/-- `requireFiniteTimestamp`. -/
def requireFiniteTimestamp (value : JsValue) (label : String) : Except JsError ℚ :=
  match value with
  | .number (.finite q) =>
      if q < 0 then fail (label ++ " must be a non-negative finite timestamp") else .ok q
  | _ => fail (label ++ " must be a non-negative finite timestamp")

/-! ### Corpora -/

/-- The first differing field decides. -/
def compareLocation (left right : QuranLocation) : ℤ :=
  if left.surah ≠ right.surah then (left.surah : ℤ) - right.surah
  else if left.ayah ≠ right.ayah then (left.ayah : ℤ) - right.ayah
  else if left.word ≠ right.word then (left.word : ℤ) - right.word
  else if left.symbol ≠ right.symbol then (left.symbol : ℤ) - right.symbol
  else 0

/-- `compareWordLocation`. -/
def compareWordLocation (left right : WordLocation) : ℤ :=
  if left.surah ≠ right.surah then (left.surah : ℤ) - right.surah
  else if left.ayah ≠ right.ayah then (left.ayah : ℤ) - right.ayah
  else (left.word : ℤ) - right.word

/-- `validateLocation` with `includesSymbol` false. -/
def validateLocation (location : JsValue) (label : String) : Except JsError WordLocation := do
  failIf (isRecord location = false) (.typeError (label ++ " must be an address"))
  let surah ← requirePositiveInteger (location.field "surah") (label ++ ".surah")
  let ayah ← requirePositiveInteger (location.field "ayah") (label ++ ".ayah")
  let word ← requirePositiveInteger (location.field "word") (label ++ ".word")
  return ⟨surah, ayah, word⟩

/-- `validateLocation` with `includesSymbol` true. -/
def validateSymbolLocation (location : JsValue) (label : String) :
    Except JsError QuranLocation := do
  let place ← validateLocation location label
  let symbol ← requirePositiveInteger (location.field "symbol") (label ++ ".symbol")
  return ⟨place.surah, place.ayah, place.word, symbol⟩

/-- `validateSymbol`. -/
def validateSymbol (symbol : JsValue) : Except JsError QuranSymbol := do
  failIf (isRecord symbol = false) (.typeError "symbol must be an object")
  let id ← requireNonEmptyString (symbol.field "id") "symbol id"
  let text ← requireString (symbol.field "text") "symbol text must be a string"
  let phoneme ← requireNonEmptyString (symbol.field "phoneme") "symbol phoneme"
  let location ← validateSymbolLocation (symbol.field "location") "symbol location"
  return ⟨id, text, phoneme, location⟩

/-- `validateWord`. -/
def validateWord (word : JsValue) : Except JsError QuranWord := do
  failIf (isRecord word = false) (.typeError "word must be an object")
  let id ← requireNonEmptyString (word.field "id") "word id"
  let text ← requireString (word.field "text") "word text must be a string"
  let references ← requireArray (word.field "symbolIds")
    "word must reference at least one symbol"
  failIf (references = []) (.typeError "word must reference at least one symbol")
  let symbolIds ← references.mapM fun symbolId => requireNonEmptyString symbolId "word symbol id"
  let location ← validateLocation (word.field "location") "word location"
  return ⟨id, text, symbolIds, location⟩

/-- The state of the pass over `corpus.symbols`. -/
structure SymbolPass where
  symbols : List QuranSymbol
  symbolsById : OrderedMap String QuranSymbol
  symbolIndexes : OrderedMap String ℕ
  previousSymbol : Option QuranSymbol

/-- One round of the pass over `corpus.symbols`. -/
def visitSymbol (pass : SymbolPass) (value : JsValue) : Except JsError SymbolPass := do
  let symbol ← validateSymbol value
  failIf (pass.symbolsById.has symbol.id = true) (.typeError "duplicate symbol id")
  failIf (∃ previous ∈ pass.previousSymbol, 0 ≤ compareLocation previous.location symbol.location)
    (.typeError "symbol locations must be strictly monotonic")
  return {
    symbols := pass.symbols ++ [symbol]
    symbolsById := pass.symbolsById.set symbol.id symbol
    symbolIndexes := pass.symbolIndexes.set symbol.id pass.symbols.length
    previousSymbol := some symbol }

/-- The state of the pass over one word's `symbolIds`. -/
structure ReferencePass where
  referencedSymbols : OrderedSet String
  previousSymbolIndex : ℤ

/-- One round of the pass over a word's `symbolIds`. -/
def visitSymbolId (symbols : SymbolPass) (word : QuranWord) (pass : ReferencePass)
    (symbolId : String) : Except JsError ReferencePass := do
  let symbol ← (symbols.symbolsById.get symbolId).elim
    (fail ("word references missing symbol: " ++ symbolId)) .ok
  failIf (symbol.location.surah ≠ word.location.surah ∨ symbol.location.ayah ≠ word.location.ayah)
    (.typeError "word symbols must not span multiple ayat")
  failIf (symbol.location.word ≠ word.location.word)
    (.typeError "word symbols must match the word location")
  let symbolIndex := (symbols.symbolIndexes.get symbolId).getD 0
  failIf ((symbolIndex : ℤ) ≤ pass.previousSymbolIndex)
    (.typeError "word symbol IDs must be strictly ordered")
  failIf (pass.referencedSymbols.has symbolId = true)
    (.typeError "symbol is referenced by multiple words")
  return {
    referencedSymbols := pass.referencedSymbols.add symbolId
    previousSymbolIndex := symbolIndex }

/-- The state of the pass over `corpus.words`. -/
structure WordPass where
  words : List QuranWord
  wordsById : OrderedSet String
  referencedSymbols : OrderedSet String
  previousWord : Option QuranWord

/-- One round of the pass over `corpus.words`. -/
def visitWord (symbols : SymbolPass) (pass : WordPass) (value : JsValue) :
    Except JsError WordPass := do
  let word ← validateWord value
  failIf (pass.wordsById.has word.id = true) (.typeError "duplicate word id")
  failIf (∃ previous ∈ pass.previousWord, 0 ≤ compareWordLocation previous.location word.location)
    (.typeError "word locations must be strictly monotonic")
  let references ← word.symbolIds.foldlM (visitSymbolId symbols word)
    ⟨pass.referencedSymbols, -1⟩
  return {
    words := pass.words ++ [word]
    wordsById := pass.wordsById.add word.id
    referencedSymbols := references.referencedSymbols
    previousWord := some word }

/-- Validates a complete canonical corpus. -/
def validateCorpus (corpus : JsValue) : Except JsError QuranCorpus := do
  failIf (isRecord corpus = false) (.typeError "corpus must be an object")
  let corpusId ← requireNonEmptyString (corpus.field "corpusId") "corpus id"
  let revision ← requireNonEmptyString (corpus.field "revision") "corpus revision"
  let symbolValues ← requireArray (corpus.field "symbols")
    "corpus symbols and words must be arrays"
  let wordValues ← requireArray (corpus.field "words") "corpus symbols and words must be arrays"
  let symbols ← symbolValues.foldlM visitSymbol ⟨[], .empty, .empty, none⟩
  let words ← wordValues.foldlM (visitWord symbols) ⟨[], .empty, .empty, none⟩
  failIf (∃ symbol ∈ symbols.symbols, words.referencedSymbols.has symbol.id = false)
    (.typeError "symbol is missing from its word")
  return ⟨corpusId, revision, symbols.symbols, words.words⟩

/-! ### Observations -/

/-- A present timestamp is finite, non-negative and not below the latest one. -/
def nextTimestamp (value : JsValue) (name : String) (latest : Option ℚ) :
    Except JsError (Option ℚ) :=
  match value with
  | .undefined => .ok none
  | value => do
      let timestamp ← requireFiniteTimestamp value ("observation token " ++ name)
      failIf (∃ previous ∈ latest, timestamp < previous)
        (.typeError "observation token timestamps must not decrease")
      return some timestamp

/-- A present confidence is a number in `[0, 1]`. -/
def optionalConfidence (value : JsValue) : Except JsError (Option ℚ) :=
  match value with
  | .undefined => .ok none
  | .number (.finite q) =>
      if q < 0 ∨ 1 < q then
        fail "observation token confidence must be finite and between 0 and 1"
      else .ok (some q)
  | _ => fail "observation token confidence must be finite and between 0 and 1"

/-- `validateObservationToken`, given the last timestamp of the tokens before. -/
def validateObservationToken (token : JsValue) (lastTimestamp : Option ℚ) :
    Except JsError ObservationToken := do
  failIf (isRecord token = false) (.typeError "observation token must be an object")
  let id ← requireNonEmptyString (token.field "id") "observation token id"
  requireStringLength id observationLimits.maxTokenIdLength "observation token id"
  let text ← requireString (token.field "text") "observation token text must be a string"
  requireStringLength text observationLimits.maxTokenTextLength "observation token text"
  let phonemeValues ← requireArray (token.field "phonemes")
    "observation token phonemes must be strings"
  let phonemes ← phonemeValues.mapM fun phoneme =>
    requireString phoneme "observation token phonemes must be strings"
  phonemes.forM fun phoneme =>
    requireStringLength phoneme observationLimits.maxPhonemeLength "observation token phoneme"
  let startMs ← nextTimestamp (token.field "startMs") "startMs" lastTimestamp
  let endMs ← nextTimestamp (token.field "endMs") "endMs" (startMs.or lastTimestamp)
  let confidence ← optionalConfidence (token.field "confidence")
  return ⟨id, text, phonemes, startMs, endMs, confidence⟩

/-- The state of the pass over `observation.tokens`. -/
structure TokenPass where
  tokens : List ObservationToken
  tokenIds : OrderedSet String
  phonemeCount : ℕ
  lastTimestamp : Option ℚ

/-- One round of the pass over `observation.tokens`. -/
def visitToken (pass : TokenPass) (value : JsValue) : Except JsError TokenPass := do
  failIf (isRecord value = false) (.typeError "observation token must be an object")
  let id ← requireNonEmptyString (value.field "id") "observation token id"
  failIf (pass.tokenIds.has id = true) (.typeError "duplicate token id")
  let token ← validateObservationToken value pass.lastTimestamp
  let phonemeCount := pass.phonemeCount + token.phonemes.length
  failIf (observationLimits.maxPhonemes < phonemeCount)
    (.typeError ("observation must contain at most " ++
      toString observationLimits.maxPhonemes ++ " phonemes"))
  return {
    tokens := pass.tokens ++ [token]
    tokenIds := pass.tokenIds.add id
    phonemeCount := phonemeCount
    lastTimestamp := (token.endMs.or token.startMs).or pass.lastTimestamp }

/-- `!Number.isSafeInteger(value) || value < 0`. -/
def requireSourceRevision (value : JsValue) : Except JsError ℕ :=
  match value with
  | .number (.finite q) =>
      if isSafeInteger (.finite q) ∧ 0 ≤ q then .ok q.num.toNat
      else fail "source revision must be a non-negative integer"
  | _ => fail "source revision must be a non-negative integer"

/-- `typeof value !== 'boolean'`. -/
def requireBoolean (value : JsValue) (message : String) : Except JsError Bool :=
  match value with
  | .bool b => .ok b
  | _ => fail message

/-- Validates a producer-neutral observation. -/
def validateObservation (observation : JsValue) : Except JsError RecitationObservation := do
  failIf (isRecord observation = false) (.typeError "observation must be an object")
  let observationId ← requireNonEmptyString (observation.field "observationId") "observation id"
  requireStringLength observationId observationLimits.maxObservationIdLength "observation id"
  let sourceRevision ← requireSourceRevision (observation.field "sourceRevision")
  let isFinal ← requireBoolean (observation.field "isFinal")
    "observation isFinal must be a boolean"
  let receivedAtMs ← requireFiniteTimestamp (observation.field "receivedAtMs")
    "observation receivedAtMs"
  let tokenValues ← requireArray (observation.field "tokens")
    "observation tokens must be an array"
  failIf (observationLimits.maxTokens < tokenValues.length)
    (.typeError ("observation must contain at most " ++ toString observationLimits.maxTokens ++
      " tokens"))
  failIf (isFinal = false ∧ tokenValues = [])
    (.typeError "partial observation must contain at least one token")
  let pass ← tokenValues.foldlM visitToken ⟨[], .empty, 0, none⟩
  return ⟨observationId, sourceRevision, isFinal, receivedAtMs, pass.tokens⟩

end Qaraa
