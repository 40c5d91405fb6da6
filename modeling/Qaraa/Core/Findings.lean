import Qaraa.Core.Confidence
import Qaraa.Core.Locate

/-!
`packages/core/src/findings/classify.ts`: findings from the first substitution of a
candidate.

* `deriveSubstitutionEvidence`: the first substitution with the confidence adjusted to
  the matches that follow it.
* `classifyFindingWithEvidence`: the finding, when one of the gates confirms it.
-/

namespace Qaraa

/-- `SubstitutionOperation`; its kind and score are those of every substitution. -/
structure SubstitutionOperation where
  actualIndex : ℕ
  referenceIndex : ℕ
  deriving DecidableEq

/-- The operation as a step of the path. -/
def SubstitutionOperation.toOperation (operation : SubstitutionOperation) : AlignmentOperation :=
  .substitution operation.actualIndex operation.referenceIndex

/-- Which gate has confirmed a finding. -/
inductive FindingConfirmation where
  | immediate
  | final
  | soft
  deriving DecidableEq

/-- A substitution with the confidence that the matches after it leave. -/
structure SubstitutionEvidence where
  operation : SubstitutionOperation
  confidence : ConfidenceEvidence

/-- A confirmed finding; its type is always `substitution`. -/
structure ConfirmedFinding where
  confirmation : FindingConfirmation
  observationId : String
  operation : SubstitutionOperation
  actualPhoneme : String
  referencePhoneme : String
  referenceSymbolId : String
  location : QuranLocation
  confidence : ConfidenceEvidence
  confirmations : ℕ
  deriving DecidableEq

/-- `FindingClassificationInput`, with what the classification reads of it. -/
structure FindingClassificationInput where
  corpus : IndexedCorpus
  candidate : AlignmentCandidate
  observation : RecitationObservation
  actualPhonemes : List String
  confidence : ConfidenceEvidence
  confirmations : ℕ
  contextPhonemeCount : ℕ

/-- The first substitution of a list of operations. -/
def firstSubstitution : List AlignmentOperation → Option SubstitutionOperation
  | [] => none
  | .substitution i j :: _ => some ⟨i, j⟩
  | _ :: rest => firstSubstitution rest

/-- `substitutionOperation`. -/
def substitutionOperation (candidate : AlignmentCandidate) : Option SubstitutionOperation :=
  firstSubstitution candidate.alignment.operations

/-- The number of contiguous matches right after a substitution. -/
def substitutionLookaheadCount (candidate : AlignmentCandidate)
    (operation : SubstitutionOperation) : ℕ :=
  let operations := candidate.alignment.operations
  leadingMatches (operations.drop (operations.idxOf operation.toOperation + 1))

/-- Derives the selected substitution and its own lookahead-adjusted confidence once. -/
def deriveSubstitutionEvidence (candidate : AlignmentCandidate)
    (confidence : ConfidenceEvidence) : Option SubstitutionEvidence :=
  if candidate.isReread then none
  else
    match substitutionOperation candidate with
    | none => none
    | some operation =>
        let matchedLookaheadCount := substitutionLookaheadCount candidate operation
        let lookahead := min 1 ((matchedLookaheadCount : ℚ) / 2)
        let lookaheadWeight : ℚ := if confidence.acoustic = none then 2 / 10 else 17 / 100
        some
          { operation := operation
            confidence := { confidence with
              lookahead := lookahead
              matchedLookaheadCount := matchedLookaheadCount
              combined := confidence.combined
                + (lookahead - confidence.lookahead) * lookaheadWeight } }

/-- `confirmationMode`: the first gate that the evidence passes. -/
def confirmationMode (input : FindingClassificationInput) (confidence : ConfidenceEvidence) :
    Option FindingConfirmation :=
  if passesPositionGate confidence = false then none
  else if passesImmediateFindingGate confidence then some .immediate
  else if input.observation.isFinal && passesFinalFindingGate confidence then some .final
  else if passesSoftFindingGate confidence input.confirmations input.contextPhonemeCount then
    some .soft
  else none

/-- Builds a finding from evidence derived inside the core package. -/
def classifyFindingWithEvidence (input : FindingClassificationInput)
    (evidence : Option SubstitutionEvidence) : Option ConfirmedFinding :=
  if input.candidate.isReread then none
  else
    match substitutionOperation input.candidate, evidence with
    | some selected, some evidence =>
        if evidence.operation ≠ selected then none
        else
          match confirmationMode input evidence.confidence with
          | none => none
          | some confirmation =>
              let operation := evidence.operation
              match input.actualPhonemes[operation.actualIndex]?,
                input.corpus.symbols[input.candidate.symbolIndex + operation.referenceIndex]? with
              | some actualPhoneme, some referenceSymbol => some
                  { confirmation := confirmation
                    observationId := input.observation.observationId
                    operation := operation
                    actualPhoneme := actualPhoneme
                    referencePhoneme := referenceSymbol.phoneme
                    referenceSymbolId := referenceSymbol.id
                    location := referenceSymbol.location
                    confidence := evidence.confidence
                    confirmations := if confirmation = .soft then input.confirmations else 1 }
              | _, _ => none
    | _, _ => none

end Qaraa
