import Qaraa.Core.Candidates
import Qaraa.Core.EditScript

/-!
`packages/core/src/alignment/locate.ts`: context-aware location of an observation.

* `evaluateCandidate`: the best of the reference spans that begin at one position, with
  the tie-breaking data of the ranking; every alignment reads the one reference buffer
  and runs in the one workspace.
* `locateObservation`: local positions first, the posting lists only below
  `GLOBAL_FALLBACK_THRESHOLD`, then the two best-ranked candidates.
-/

namespace Qaraa

open Ordered

/-- One evaluated start position. -/
structure AlignmentCandidate where
  symbolIndex : ℕ
  location : QuranLocation
  alignment : AlignmentPath
  score : ℚ
  scoreMargin : ℚ
  cursorDistance : ℕ
  continuity : ℚ
  forwardMovement : ℕ
  isReread : Bool
  deriving DecidableEq

/-- The local score below which the whole corpus is searched. -/
def GLOBAL_FALLBACK_THRESHOLD : ℚ := 72 / 100

/-- By how much a span may differ in length from what was heard. -/
def MAX_REFERENCE_LENGTH_VARIATION : ℕ := 3

/-- All phonemes of an observation, in order. -/
def observationPhonemes (observation : RecitationObservation) : List String :=
  observation.tokens.flatMap ObservationToken.phonemes

/-- The share of what was heard that matches from the start. -/
def leadingContinuity (alignment : AlignmentPath) (actualLength : ℕ) : ℚ :=
  if actualLength = 0 then 0 else (leadingMatches alignment.operations : ℚ) / actualLength

/-- `reference.length = length`: what lies beyond is dropped, what is missing is a hole,
`""` here, that `fillReference` overwrites before anything reads it. -/
def resizeReference (reference : List String) (length : ℕ) : List String :=
  reference.take length ++ List.replicate (length - reference.length) ""

/-- The copy of a span's phonemes into the shared buffer. -/
def fillReference (symbols : List QuranSymbol) (symbolIndex referenceLength : ℕ)
    (reference : List String) : Except JsError (List String) :=
  (List.range referenceLength).foldlM (fun reference offset =>
    match symbols[symbolIndex + offset]? with
    | some symbol => Except.ok (reference.set offset symbol.phoneme)
    | none => .error (.typeError "Cannot read properties of undefined (reading 'phoneme')"))
    (resizeReference reference referenceLength)

/-- The mutable storage of a search: the reference buffer and the workspace. -/
structure SearchStorage where
  reference : List String
  workspace : AlignmentWorkspace

/-- Whether a span's alignment replaces the best one so far. -/
def currentWins (alignment : Option AlignmentPath) (current : AlignmentPath) : Bool :=
  match alignment with
  | none => true
  | some best =>
      best.score < current.score
      || (current.score == best.score && current.editCount < best.editCount)
      || (current.score == best.score && current.editCount == best.editCount
        && best.matchedLookaheadCount < current.matchedLookaheadCount)

/-- The state of the loop over reference spans. -/
structure SpanPass where
  alignment : Option AlignmentPath
  secondSpanScore : ℚ

/-- One round of the loop over reference spans, the span's alignment given. -/
def SpanPass.visit (pass : SpanPass) (current : AlignmentPath) : SpanPass :=
  if currentWins pass.alignment current then
    ⟨some current, (pass.alignment.map AlignmentPath.score).getD 0⟩
  else ⟨pass.alignment, max pass.secondSpanScore current.score⟩

/-- The lengths of the reference spans tried at a position. -/
def spanLengths (symbolCount actualLength symbolIndex : ℕ) : List ℕ :=
  let availableLength := symbolCount - symbolIndex
  let minimumLength := min availableLength (max 1 (actualLength - MAX_REFERENCE_LENGTH_VARIATION))
  let maximumLength := min availableLength (actualLength + MAX_REFERENCE_LENGTH_VARIATION)
  List.range' minimumLength (maximumLength + 1 - minimumLength)

/-- The candidate of a position whose spans have been tried. -/
def finishCandidate (symbolIndex cursorSymbol committedSymbol actualLength spanCount : ℕ)
    (location : QuranLocation) (alignment : AlignmentPath) (secondSpanScore : ℚ) :
    AlignmentCandidate where
  symbolIndex := symbolIndex
  location := location
  alignment := alignment
  score := alignment.score
  scoreMargin := if spanCount < 2 then 0 else max 0 (alignment.score - secondSpanScore)
  cursorDistance := ((symbolIndex : ℤ) - cursorSymbol).natAbs
  continuity := leadingContinuity alignment actualLength
  forwardMovement := symbolIndex - cursorSymbol
  isReread := symbolIndex < committedSymbol

/-- One round of the loop over reference spans. -/
def visitSpan (index : IndexedCorpus) (actual : List String) (symbolIndex : ℕ)
    (state : SpanPass × SearchStorage) (referenceLength : ℕ) :
    Except JsError (SpanPass × SearchStorage) := do
  let reference ← fillReference index.symbols symbolIndex referenceLength state.2.reference
  let (current, workspace) ← alignPhonemesWithWorkspace actual reference state.2.workspace
  return (state.1.visit current, ⟨reference, workspace⟩)

/-- `evaluateCandidate`: the best span that starts at a position. -/
def evaluateCandidate (index : IndexedCorpus) (actual : List String)
    (symbolIndex cursorSymbol committedSymbol : ℕ) (location : QuranLocation)
    (storage : SearchStorage) : Except JsError (AlignmentCandidate × SearchStorage) := do
  let lengths := spanLengths index.symbols.length actual.length symbolIndex
  let (pass, storage) ← lengths.foldlM (visitSpan index actual symbolIndex)
    (⟨none, 0⟩, storage)
  let reference := resizeReference storage.reference 0
  let (alignment, workspace) ← match pass.alignment with
    | some alignment => Except.ok (alignment, storage.workspace)
    | none => alignPhonemesWithWorkspace actual reference storage.workspace
  return (finishCandidate symbolIndex cursorSymbol committedSymbol actual.length lengths.length
    location alignment pass.secondSpanScore, ⟨reference, workspace⟩)

/-- The first differing key decides. -/
def compareCandidates (left right : AlignmentCandidate) : ℚ :=
  if left.score ≠ right.score then right.score - left.score
  else if left.scoreMargin ≠ right.scoreMargin then right.scoreMargin - left.scoreMargin
  else if left.cursorDistance ≠ right.cursorDistance then
    (left.cursorDistance : ℚ) - right.cursorDistance
  else if left.continuity ≠ right.continuity then right.continuity - left.continuity
  else if left.forwardMovement ≠ right.forwardMovement then
    (left.forwardMovement : ℚ) - right.forwardMovement
  else (left.symbolIndex : ℚ) - right.symbolIndex

/-- `evaluatePositions`: every position not yet evaluated, in the shared storage. -/
def evaluatePositions (index : IndexedCorpus) (actual : List String)
    (cursorSymbol committedSymbol : ℕ) (positions : List ℕ)
    (state : OrderedMap ℕ AlignmentCandidate × SearchStorage) :
    Except JsError (OrderedMap ℕ AlignmentCandidate × SearchStorage) :=
  positions.foldlM (fun state position =>
    if state.1.has position then Except.ok state
    else
      match index.symbols[position]? with
      | none => .error (.typeError "Cannot read properties of undefined (reading 'location')")
      | some symbol => do
          let (candidate, storage) ← evaluateCandidate index actual position cursorSymbol
            committedSymbol symbol.location state.2
          return (state.1.set position candidate, storage)) state

/-- The two best candidates, `null` where there are fewer. -/
structure Located where
  best : Option AlignmentCandidate
  second : Option AlignmentCandidate

/-- Locates an observation while keeping local and global work strictly bounded. -/
def locateObservation (index : IndexedCorpus) (observation : JsValue)
    (cursorSymbol committedSymbol : ℕ) : Except JsError Located := do
  let observation ← validateObservation observation
  let actual := observationPhonemes observation
  let symbolCount := index.symbols.length
  if actual.length = 0 ∨ symbolCount = 0 then return ⟨none, none⟩
  else
    let cursorSymbol := min cursorSymbol (symbolCount - 1)
    let maximumReferenceLength :=
      min symbolCount (actual.length + MAX_REFERENCE_LENGTH_VARIATION)
    let storage : SearchStorage :=
      { reference := List.replicate maximumReferenceLength ""
        workspace := createAlignmentWorkspace actual.length maximumReferenceLength }
    let (evaluated, storage) ← evaluatePositions index actual cursorSymbol committedSymbol
      (retrieveCandidatePositions index actual cursorSymbol false) (.empty, storage)
    let localBestScore := evaluated.values.foldl (fun best candidate => max best candidate.score) 0
    let (evaluated, _) ←
      if localBestScore < GLOBAL_FALLBACK_THRESHOLD then
        evaluatePositions index actual cursorSymbol committedSymbol
          (retrieveCandidatePositions index actual cursorSymbol true) (evaluated, storage)
      else Except.ok (evaluated, storage)
    let ranked := evaluated.values.insertionSort fun left right => compareCandidates left right ≤ 0
    return ⟨ranked[0]?, ranked[1]?⟩

end Qaraa
