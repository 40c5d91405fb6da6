import Qaraa.Core.Value

/-!
`packages/core/src/confidence/score.ts`: confidence scoring and the decision gates.

* `scoreConfidence`: the weighted evidence of one locator hypothesis.
* `passesPositionGate`, `passesImmediateFindingGate`, `passesFinalFindingGate`,
  `passesSoftFindingGate`: the gates, with the source's thresholds as exact rationals.
-/

namespace Qaraa

/-- `ConfidenceInput`. -/
structure ConfidenceInput where
  alignment : ℚ
  stability : ℚ
  matchedLookaheadCount : ℕ
  margin : ℚ
  actualPhonemeCount : ℕ
  acousticConfidences : List (Option ℚ)

/-- `ConfidenceEvidence`. -/
structure ConfidenceEvidence where
  alignment : ℚ
  stability : ℚ
  lookahead : ℚ
  matchedLookaheadCount : ℕ
  margin : ℚ
  acoustic : Option ℚ
  combined : ℚ
  deriving DecidableEq

/-- The alignment a position needs. -/
def POSITION_ALIGNMENT_THRESHOLD : ℚ := 72 / 100

/-- The margin a position needs. -/
def POSITION_MARGIN_THRESHOLD : ℚ := 8 / 100

/-- The confidence of a finding that is confirmed at once. -/
def IMMEDIATE_CONFIDENCE_THRESHOLD : ℚ := 9 / 10

/-- The margin of a finding that is confirmed at once. -/
def IMMEDIATE_MARGIN_THRESHOLD : ℚ := 15 / 100

/-- The confidence of a finding of a final observation. -/
def FINAL_CONFIDENCE_THRESHOLD : ℚ := 82 / 100

/-- The margin of a finding of a final observation. -/
def FINAL_MARGIN_THRESHOLD : ℚ := 1 / 10

/-- The confidence of a finding that is confirmed by repetition. -/
def SOFT_CONFIDENCE_THRESHOLD : ℚ := 88 / 100

/-- The value held in `[0, 1]`; a rational is always finite. -/
def clampUnit (value : ℚ) : ℚ := max 0 (min 1 value)

/-- The mean of the confidences present, when there is one value for each phoneme. -/
def alignedAcousticConfidence (input : ConfidenceInput) : Option ℚ :=
  if maxSafeInteger < input.actualPhonemeCount ∨ input.actualPhonemeCount = 0
      ∨ input.acousticConfidences.length ≠ input.actualPhonemeCount then none
  else
    let counted := (input.acousticConfidences.filterMap id).filter fun value =>
      0 ≤ value ∧ value ≤ 1
    if counted.length = 0 then none else some (counted.sum / counted.length)

/-- Scores one locator hypothesis using only aligned, bounded evidence. -/
def scoreConfidence (input : ConfidenceInput) : ConfidenceEvidence :=
  let alignment := clampUnit input.alignment
  let stability := clampUnit input.stability
  let matchedLookaheadCount :=
    if input.matchedLookaheadCount ≤ maxSafeInteger then input.matchedLookaheadCount else 0
  let lookahead := min 1 ((matchedLookaheadCount : ℚ) / 2)
  let margin := clampUnit input.margin
  let acoustic := alignedAcousticConfidence input
  let combined := match acoustic with
    | none => alignment * (4 / 10) + stability * (25 / 100) + lookahead * (2 / 10)
        + margin * (15 / 100)
    | some acoustic => alignment * (34 / 100) + stability * (2125 / 10000)
        + lookahead * (17 / 100) + margin * (1275 / 10000) + acoustic * (15 / 100)
  ⟨alignment, stability, lookahead, matchedLookaheadCount, margin, acoustic, combined⟩

/-- True when a position is strong enough to change the display cursor. -/
def passesPositionGate (evidence : ConfidenceEvidence) : Bool :=
  POSITION_ALIGNMENT_THRESHOLD ≤ evidence.alignment && POSITION_MARGIN_THRESHOLD ≤ evidence.margin

/-- True when a substitution has enough lookahead to be confirmed immediately. -/
def passesImmediateFindingGate (evidence : ConfidenceEvidence) : Bool :=
  IMMEDIATE_CONFIDENCE_THRESHOLD ≤ evidence.combined
    && IMMEDIATE_MARGIN_THRESHOLD ≤ evidence.margin && 2 ≤ evidence.matchedLookaheadCount

/-- True when a final hypothesis supplies sufficient otherwise-ambiguous evidence. -/
def passesFinalFindingGate (evidence : ConfidenceEvidence) : Bool :=
  FINAL_CONFIDENCE_THRESHOLD ≤ evidence.combined && FINAL_MARGIN_THRESHOLD ≤ evidence.margin

/-- True when repeated soft evidence has the approved local phoneme context. -/
def passesSoftFindingGate (evidence : ConfidenceEvidence)
    (confirmations contextPhonemeCount : ℕ) : Bool :=
  SOFT_CONFIDENCE_THRESHOLD ≤ evidence.combined && 2 ≤ confirmations
    && 2 ≤ contextPhonemeCount && contextPhonemeCount ≤ 3

/-- The position gate reads the alignment and the margin only. -/
lemma passesPositionGate_congr {a b : ConfidenceEvidence} (halign : a.alignment = b.alignment)
    (hmargin : a.margin = b.margin) : passesPositionGate a = passesPositionGate b := by
  rw [passesPositionGate, passesPositionGate, halign, hmargin]

end Qaraa
