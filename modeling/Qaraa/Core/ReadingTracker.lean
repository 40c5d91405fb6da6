import Qaraa.Core.Findings
import Qaraa.Core.Located

/-!
`packages/core/src/tracking/reading-tracker.ts`: the synchronous state machine for
display, commit and finding progress.

* `prepareTrackerCorpus`: the words in corpus order and the word of each symbol.
* `TrackerConfig`, `TrackerState`: what the closure of `createReadingTracker` captures,
  split into its constants and its variables.
* `submit`, `reset`: the two commands, from a state to the returned snapshot and the next
  state. Everything that can throw does so before the first assignment, so a failed
  command leaves the state as it was.
-/

namespace Qaraa

open Ordered

/-- The observation ids that are remembered. -/
def OBSERVATION_ID_LIMIT : ℕ := 512

/-- The hypotheses that are remembered. -/
def STABILITY_HISTORY_LIMIT : ℕ := 2

/-- The symbols after a word that have to match before a partial observation commits it. -/
def PARTIAL_COMMIT_LOOKAHEAD : ℕ := 2

/-! ### The prepared corpus -/

/-- A word with the places of its first and last symbols. -/
structure OrderedWord where
  word : QuranWord
  range : CorpusRange
  deriving DecidableEq

/-- `PreparedTrackerCorpus`. -/
structure PreparedTrackerCorpus where
  words : List OrderedWord
  symbolWordIds : List (Option String)
  orderedWordsById : OrderedMap String OrderedWord

/-- `symbolIndexAt`. -/
def symbolIndexAt (corpus : IndexedCorpus) (location : QuranLocation) : Except JsError ℕ :=
  let symbolIndex := corpus.symbols.findIdx fun symbol => symbol.location == location
  if symbolIndex < corpus.symbols.length then .ok symbolIndex
  else .error (.rangeError "reading tracker location is not present in the corpus")

/-- `corpus.symbols[symbolIndex]!.location`. -/
def locationAt (corpus : IndexedCorpus) (symbolIndex : ℕ) : Except JsError QuranLocation :=
  match corpus.symbols[symbolIndex]? with
  | some symbol => .ok symbol.location
  | none => .error (.typeError "Cannot read properties of undefined (reading 'location')")

/-- `orderedWords`: the words by their first symbols. -/
def orderedWords (corpus : IndexedCorpus) : List OrderedWord :=
  (corpus.wordsById.values.map fun word =>
    ⟨word, (corpus.wordSymbolRanges.get word.id).getD ⟨0, 0⟩⟩).insertionSort
      fun left right => (left.range.start : ℤ) - right.range.start ≤ 0

/-- The id of the word of each symbol, if it is one of a word. -/
def wordIdsBySymbol (corpus : IndexedCorpus) (words : List OrderedWord) : List (Option String) :=
  words.foldl (fun result ordered =>
    (List.range' ordered.range.start (ordered.range.stop - ordered.range.start)).foldl
      (fun result symbolIndex => result.set symbolIndex (some ordered.word.id)) result)
    (List.replicate corpus.symbols.length none)

/-- `prepareTrackerCorpus`. -/
def prepareTrackerCorpus (corpus : IndexedCorpus) : PreparedTrackerCorpus :=
  let words := orderedWords corpus
  { words := words
    symbolWordIds := wordIdsBySymbol corpus words
    orderedWordsById := OrderedMap.ofList (words.map fun ordered => (ordered.word.id, ordered)) }

/-! ### Hypotheses and findings -/

/-- A finding that waits to be repeated. -/
structure ProvisionalFinding where
  fingerprint : String
  confirmations : ℕ
  deriving DecidableEq

/-- Advances the tracker's one bounded provisional candidate with selected evidence. -/
def advanceProvisionalFinding (previous : Option ProvisionalFinding) (fingerprint : String)
    (evidence : SubstitutionEvidence) (contextPhonemeCount : ℕ) : Option ProvisionalFinding :=
  if passesSoftFindingGate evidence.confidence 2 contextPhonemeCount = false then none
  else
    match previous with
    | some provisional =>
        some ⟨fingerprint, if provisional.fingerprint = fingerprint then
          provisional.confirmations + 1 else 1⟩
    | none => some ⟨fingerprint, 1⟩

/-- One `null` for each phoneme of a token without confidence. -/
def acousticConfidences (observation : RecitationObservation) : List (Option ℚ) :=
  observation.tokens.flatMap fun token => token.phonemes.map fun _ => token.confidence

/-- The last reference offset an operation aligns with an observed phoneme. -/
def activeReferenceOffset (candidate : AlignmentCandidate) : ℕ :=
  candidate.alignment.operations.foldl (fun activeOffset operation =>
    match operation.actualIndex, operation.referenceIndex with
    | some _, some referenceIndex => max activeOffset referenceIndex
    | _, _ => activeOffset) 0

/-- What tells one hypothesis from another. -/
def hypothesisFingerprint (candidate : AlignmentCandidate) : String :=
  toString candidate.symbolIndex ++ ":" ++ toString (activeReferenceOffset candidate)

/-- `addAt` of `collectTouchedWordIds`. -/
def addWordAt (symbolWordIds : List (Option String)) (touched : OrderedSet String)
    (symbolIndex : ℕ) : OrderedSet String :=
  match symbolWordIds[symbolIndex]? with
  | some (some wordId) => if wordId = "" then touched else touched.add wordId
  | _ => touched

/-- Returns only word IDs touched by aligned references and two following positions. -/
def collectTouchedWordIds (candidate : AlignmentCandidate)
    (symbolWordIds : List (Option String)) : List String :=
  let symbolIndexes := (candidate.alignment.operations.filterMap
    AlignmentOperation.referenceIndex).map (candidate.symbolIndex + ·)
  let touched := symbolIndexes.foldl (addWordAt symbolWordIds) .empty
  let touched := match symbolIndexes.max? with
    | none => touched
    | some lastReferenceSymbol =>
        (List.range' 1 PARTIAL_COMMIT_LOOKAHEAD).foldl (fun touched offset =>
          addWordAt symbolWordIds touched (lastReferenceSymbol + offset)) touched
  touched.items

/-- The share of the remembered hypotheses that agree. -/
def stabilityFor (fingerprint : String) (history : List String) : ℚ :=
  (history.countP fun previous => previous == fingerprint : ℕ) / (STABILITY_HISTORY_LIMIT : ℚ)

/-- By how much the best candidate is ahead of the second. -/
def locationScoreMargin (best : AlignmentCandidate) (second : Option AlignmentCandidate) : ℚ :=
  max 0 (best.score - (second.map AlignmentCandidate.score).getD 0)

/-- Counts contiguous matches on top of `count`, up to four. -/
def countMatches : List AlignmentOperation → ℕ → ℕ
  | [], count => count
  | operation :: rest, count =>
      if operation.isMatch = false then count
      else if count + 1 = 4 then 4
      else countMatches rest (count + 1)

/-- Counts adjacent finding context, preserving four as the overflow sentinel. -/
def countFindingContextPhonemes (operations : List AlignmentOperation)
    (substitution : SubstitutionOperation) : ℕ :=
  let substitutionIndex := operations.idxOf substitution.toOperation
  if substitutionIndex < operations.length then
    let before := countMatches (operations.take substitutionIndex).reverse 0
    if before = 4 then before
    else countMatches (operations.drop (substitutionIndex + 1)) before
  else 0

/-- What tells one finding from another. -/
def findingFingerprint (corpus : IndexedCorpus) (candidate : AlignmentCandidate)
    (operation : SubstitutionOperation) (actualPhonemes : List String) : Option String :=
  match corpus.symbols[candidate.symbolIndex + operation.referenceIndex]?,
    actualPhonemes[operation.actualIndex]? with
  | some reference, some actual =>
      some (reference.id ++ "\x00" ++ actual ++ "\x00" ++ reference.phoneme)
  | _, _ => none

/-! ### The tracker -/

/-- `FindingMode`. -/
inductive FindingMode where
  | off
  | substitutions
  deriving DecidableEq

/-- The part of a snapshot that shows where the reader is. -/
structure Display where
  location : QuranLocation
  isReread : Bool
  activeWordId : Option String
  deriving DecidableEq

/-- The part of a snapshot that says what was read. -/
structure Commit where
  location : QuranLocation
  completedWordIds : List String
  deriving DecidableEq

/-- `ReadingSnapshot`. -/
structure ReadingSnapshot where
  revision : ℕ
  observationId : Option String
  display : Display
  commit : Commit
  confidence : Option ConfidenceEvidence
  finding : Option ConfirmedFinding
  deriving DecidableEq

/-- `ReadingTrackerOptions`. -/
structure ReadingTrackerOptions where
  corpus : IndexedCorpus
  initialLocation : Option QuranLocation := none
  findingMode : Option String := none

/-- The constants a tracker captures. -/
structure TrackerConfig where
  corpus : IndexedCorpus
  symbolWordIds : List (Option String)
  orderedWordsById : OrderedMap String OrderedWord
  defaultInitialLocation : QuranLocation
  findingMode : FindingMode

/-- The variables a tracker captures. -/
structure TrackerState where
  initialSymbol : ℕ
  cursorSymbol : ℕ
  committedSymbol : ℕ
  latestSourceRevision : ℤ
  observationIds : OrderedSet String
  observationIdOrder : List String
  hypothesisHistory : List String
  provisionalFinding : Option ProvisionalFinding
  completedWordIds : List String
  completedWordIdSet : OrderedSet String
  snapshot : ReadingSnapshot

/-- The variables right after a creation or a reset. -/
def TrackerState.initial (initialSymbol revision : ℕ) (location : QuranLocation) :
    TrackerState where
  initialSymbol := initialSymbol
  cursorSymbol := initialSymbol
  committedSymbol := initialSymbol
  latestSourceRevision := -1
  observationIds := .empty
  observationIdOrder := []
  hypothesisHistory := []
  provisionalFinding := none
  completedWordIds := []
  completedWordIdSet := .empty
  snapshot :=
    { revision := revision
      observationId := none
      display := ⟨location, false, none⟩
      commit := ⟨location, []⟩
      confidence := none
      finding := none }

/-- `options.findingMode ?? 'substitutions'`, checked. -/
def parseFindingMode (findingMode : Option String) : Except JsError FindingMode :=
  match findingMode.getD "substitutions" with
  | "off" => .ok .off
  | "substitutions" => .ok .substitutions
  | _ => .error (.typeError "unsupported reading tracker finding mode")

/-- Creates a synchronous, bounded reading state machine for one indexed corpus. -/
def createReadingTracker (options : ReadingTrackerOptions) :
    Except JsError (TrackerConfig × TrackerState) :=
  match options.corpus.symbols.head? with
  | none => .error (.typeError "reading tracker requires a non-empty corpus")
  | some first => do
      let prepared := prepareTrackerCorpus options.corpus
      let defaultInitialLocation := options.initialLocation.getD first.location
      let findingMode ← parseFindingMode options.findingMode
      let initialSymbol ← symbolIndexAt options.corpus defaultInitialLocation
      return ({ corpus := options.corpus
                symbolWordIds := prepared.symbolWordIds
                orderedWordsById := prepared.orderedWordsById
                defaultInitialLocation := defaultInitialLocation
                findingMode := findingMode },
        TrackerState.initial initialSymbol 0 defaultInitialLocation)

namespace TrackerState

/-- `rememberObservationId`: the oldest id goes when the window is full. -/
def rememberObservationId (state : TrackerState) (observationId : String) : TrackerState :=
  let observationIds := state.observationIds.add observationId
  let order := state.observationIdOrder ++ [observationId]
  match order with
  | oldest :: rest =>
      if OBSERVATION_ID_LIMIT < order.length then
        { state with observationIds := observationIds.delete oldest, observationIdOrder := rest }
      else { state with observationIds := observationIds, observationIdOrder := order }
  | [] => { state with observationIds := observationIds, observationIdOrder := order }

/-- `rememberHypothesis`. -/
def rememberHypothesis (state : TrackerState) (fingerprint : String) : TrackerState :=
  let history := state.hypothesisHistory ++ [fingerprint]
  { state with
    hypothesisHistory :=
      if STABILITY_HISTORY_LIMIT < history.length then history.tail else history }

/-- `updateProvisionalFinding`: the next state, the confirmations and the context. -/
def updateProvisionalFinding (state : TrackerState) (corpus : IndexedCorpus)
    (candidate : AlignmentCandidate) (actualPhonemes : List String)
    (evidence : Option SubstitutionEvidence) : TrackerState × ℕ × ℕ :=
  match evidence with
  | none => ({ state with provisionalFinding := none }, 0, 0)
  | some evidence =>
      let context := countFindingContextPhonemes candidate.alignment.operations evidence.operation
      match findingFingerprint corpus candidate evidence.operation actualPhonemes with
      | none => ({ state with provisionalFinding := none }, 0, context)
      | some fingerprint =>
          let provisional :=
            advanceProvisionalFinding state.provisionalFinding fingerprint evidence context
          ({ state with provisionalFinding := provisional },
            (provisional.map ProvisionalFinding.confirmations).getD 0, context)

end TrackerState

/-- The absolute positions a candidate aligns with observed phonemes. -/
def consumedSymbols (candidate : AlignmentCandidate) : List ℕ :=
  candidate.alignment.operations.filterMap fun operation =>
    match operation.actualIndex, operation.referenceIndex with
    | some _, some referenceIndex => some (candidate.symbolIndex + referenceIndex)
    | _, _ => none

/-- The absolute positions a candidate matches. -/
def matchedSymbols (candidate : AlignmentCandidate) : List ℕ :=
  candidate.alignment.operations.filterMap fun operation =>
    match operation with
    | .matched _ referenceIndex => some (candidate.symbolIndex + referenceIndex)
    | _ => none

/-- Whether a touched word is ready to be committed from `committedSymbol` on. -/
def wordSupported (candidate : AlignmentCandidate) (isFinal : Bool) (committedSymbol : ℕ)
    (range : CorpusRange) : Bool :=
  -- `range.end - 1 < committedSymbol` skips words already passed
  decide (¬((range.stop : ℤ) - 1 < committedSymbol ∨ range.start < candidate.symbolIndex))
    && (List.range' range.start (range.stop - range.start)).all
      (fun symbolIndex => decide (symbolIndex ∈ consumedSymbols candidate))
    && (isFinal || (List.range PARTIAL_COMMIT_LOOKAHEAD).all fun offset =>
      decide (range.stop + offset ∈ matchedSymbols candidate))

/-- The completion of one word. -/
def TrackerState.completeWord (state : TrackerState) (ordered : OrderedWord) : TrackerState :=
  let state :=
    if state.completedWordIdSet.has ordered.word.id then state
    else
      { state with
        completedWordIdSet := state.completedWordIdSet.add ordered.word.id
        completedWordIds := state.completedWordIds ++ [ordered.word.id] }
  { state with committedSymbol := max state.committedSymbol (ordered.range.stop - 1) }

/-- One round of `commitSupportedWords`. -/
def commitWord (config : TrackerConfig) (candidate : AlignmentCandidate) (isFinal : Bool)
    (state : TrackerState) (wordId : String) : TrackerState :=
  match config.orderedWordsById.get wordId with
  | none => state
  | some ordered =>
      if wordSupported candidate isFinal state.committedSymbol ordered.range then
        state.completeWord ordered
      else state

/-- `commitSupportedWords`: the words an observation has read to their end. -/
def commitSupportedWords (config : TrackerConfig) (state : TrackerState)
    (candidate : AlignmentCandidate) (observation : RecitationObservation) : TrackerState :=
  (collectTouchedWordIds candidate config.symbolWordIds).foldl
    (commitWord config candidate observation.isFinal) state

/-- The confidence `submit` scores for a candidate. -/
def candidateConfidence (state : TrackerState) (observation : RecitationObservation)
    (candidate : AlignmentCandidate) (second : Option AlignmentCandidate) : ConfidenceEvidence :=
  scoreConfidence
    { alignment := candidate.score
      stability := stabilityFor (hypothesisFingerprint candidate) state.hypothesisHistory
      matchedLookaheadCount := candidate.alignment.matchedLookaheadCount
      margin := locationScoreMargin candidate second
      actualPhonemeCount := (observationPhonemes observation).length
      acousticConfidences := acousticConfidences observation }

/-- The position a candidate puts the reader at. -/
def activeSymbolOf (config : TrackerConfig) (candidate : AlignmentCandidate) : ℕ :=
  min (config.corpus.symbols.length - 1)
    (candidate.symbolIndex + activeReferenceOffset candidate)

/-- The display and commit step of `submit`, taken when the position gate passes. -/
def advancePosition (config : TrackerConfig) (state : TrackerState)
    (observation : RecitationObservation) (candidate : AlignmentCandidate) :
    Except JsError (TrackerState × Display) := do
  let activeSymbol := activeSymbolOf config candidate
  let location ← locationAt config.corpus activeSymbol
  let display : Display :=
    { location := location
      isReread := activeSymbol < state.committedSymbol
      activeWordId := (config.symbolWordIds[activeSymbol]?).join }
  return (commitSupportedWords config { state with cursorSymbol := activeSymbol } candidate
    observation, display)

/-- The finding step of `submit`. -/
def classifyCandidate (config : TrackerConfig) (state : TrackerState)
    (observation : RecitationObservation) (candidate : AlignmentCandidate)
    (confidence : ConfidenceEvidence) : TrackerState × Option ConfirmedFinding :=
  if config.findingMode = .substitutions ∧ candidate.isReread = false then
    let evidence := deriveSubstitutionEvidence candidate confidence
    let (state, confirmations, context) := state.updateProvisionalFinding config.corpus candidate
      (observationPhonemes observation) evidence
    (state, classifyFindingWithEvidence
      { corpus := config.corpus
        candidate := candidate
        observation := observation
        actualPhonemes := observationPhonemes observation
        confidence := confidence
        confirmations := confirmations
        contextPhonemeCount := context } evidence)
  else ({ state with provisionalFinding := none }, none)

/-- What `submit` has computed when it builds the next snapshot. -/
structure Progress where
  state : TrackerState
  display : Display
  confidence : Option ConfidenceEvidence
  finding : Option ConfirmedFinding

/-- The steps of `submit` for the located candidate. -/
def trackLocated (config : TrackerConfig) (state : TrackerState)
    (observation : RecitationObservation) (located : Located) : Except JsError Progress :=
  match located.best with
  | none => .ok ⟨{ state with provisionalFinding := none }, state.snapshot.display, none, none⟩
  | some candidate => do
      let confidence := candidateConfidence state observation candidate located.second
      let state := state.rememberHypothesis (hypothesisFingerprint candidate)
      let (state, display) ←
        if passesPositionGate confidence then advancePosition config state observation candidate
        else Except.ok (state, state.snapshot.display)
      let (state, finding) := classifyCandidate config state observation candidate confidence
      return ⟨state, display, some confidence, finding⟩

/-- Applies an observation: the returned snapshot and the next state. -/
def submit (config : TrackerConfig) (state : TrackerState) (observation : JsValue) :
    Except JsError (ReadingSnapshot × TrackerState) := do
  let checked ← validateObservation observation
  if state.observationIds.has checked.observationId
      ∨ (checked.sourceRevision : ℤ) < state.latestSourceRevision then
    return (state.snapshot, state)
  else
    let state := { state.rememberObservationId checked.observationId with
      latestSourceRevision := checked.sourceRevision }
    let located ← locateObservation config.corpus observation state.cursorSymbol
      state.committedSymbol
    let progress ← trackLocated config state checked located
    let location ← locationAt config.corpus progress.state.committedSymbol
    let snapshot : ReadingSnapshot :=
      { revision := state.snapshot.revision + 1
        observationId := some checked.observationId
        display := progress.display
        commit := ⟨location, progress.state.completedWordIds⟩
        confidence := progress.confidence
        finding := progress.finding }
    return (snapshot, { progress.state with snapshot := snapshot })

/-- Starts over at a location, the initial one when none is given. -/
def reset (config : TrackerConfig) (state : TrackerState) (location : Option QuranLocation) :
    Except JsError (ReadingSnapshot × TrackerState) := do
  let location := location.getD config.defaultInitialLocation
  let initialSymbol ← symbolIndexAt config.corpus location
  let next := TrackerState.initial initialSymbol (state.snapshot.revision + 1) location
  return (next.snapshot, next)

end Qaraa
