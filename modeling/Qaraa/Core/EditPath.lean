import Qaraa.Core.Value
import Qaraa.Library.Fallible
import Qaraa.Library.Loop

/-!
`packages/core/src/alignment/edit-path.ts`: the edit path between an observed and a
reference phoneme sequence.

* `fillTable`: the dynamic program over a caller-owned workspace whose rows and
  directions may hold anything from earlier calls; typed arrays are lists, a write
  outside them is lost.
* `backtrace`: the path read back from the directions, last operation first.
* `alignPhonemesWithWorkspace`, `alignPhonemes`: the two entry points. The workspace is
  returned, so that a caller that reuses it hands on what this call left in it.
-/

namespace Qaraa

open Loop

/-- One step of an edit path. -/
inductive AlignmentOperation where
  | matched (actualIndex referenceIndex : ℕ)
  | substitution (actualIndex referenceIndex : ℕ)
  | insertion (actualIndex : ℕ)
  | deletion (referenceIndex : ℕ)
  deriving DecidableEq, Repr

namespace AlignmentOperation

/-- `operation.kind === 'match'`. -/
def isMatch : AlignmentOperation → Bool
  | matched _ _ => true
  | _ => false

/-- `operation.actualIndex`, `null` for a deletion. -/
def actualIndex : AlignmentOperation → Option ℕ
  | matched i _ => some i
  | substitution i _ => some i
  | insertion i => some i
  | deletion _ => none

/-- `operation.referenceIndex`, `null` for an insertion. -/
def referenceIndex : AlignmentOperation → Option ℕ
  | matched _ j => some j
  | substitution _ j => some j
  | insertion _ => none
  | deletion j => some j

/-- `operation.score`. -/
def score (operation : AlignmentOperation) : ℚ := if operation.isMatch then 1 else 0

end AlignmentOperation

/-- The edit path with its counts. -/
structure AlignmentPath where
  score : ℚ
  editCount : ℕ
  matchedLookaheadCount : ℕ
  operations : List AlignmentOperation
  deriving DecidableEq

/-- The direction codes of the table. -/
def MATCH : ℕ := 1

/-- The direction of a substitution. -/
def SUBSTITUTION : ℕ := 2

/-- The direction of a deletion. -/
def DELETION : ℕ := 3

/-- The direction of an insertion. -/
def INSERTION : ℕ := 4

/-- Mutable storage of the dynamic program, reused across calls. -/
structure AlignmentWorkspace where
  actualCapacity : ℕ
  referenceCapacity : ℕ
  directions : List ℕ
  firstRow : List ℕ
  secondRow : List ℕ
  deriving DecidableEq

/-- `createAlignmentWorkspace`. -/
def createAlignmentWorkspace (actualCapacity referenceCapacity : ℕ) : AlignmentWorkspace where
  actualCapacity := actualCapacity
  referenceCapacity := referenceCapacity
  directions := List.replicate ((actualCapacity + 1) * (referenceCapacity + 1)) 0
  firstRow := List.replicate (referenceCapacity + 1) 0
  secondRow := List.replicate (referenceCapacity + 1) 0

/-- The table under construction: `previous` and `current` are the workspace's two rows. -/
structure AlignmentTable where
  directions : List ℕ
  previous : List ℕ
  current : List ℕ

section Fill

variable (actual reference : List String)

/-- The cell of `referenceIndex = j + 1` in the row of the empty observation. -/
def firstRowCell (j : ℕ) (table : AlignmentTable) : AlignmentTable :=
  { table with
    previous := table.previous.set (j + 1) (j + 1)
    directions := table.directions.set (j + 1) DELETION }

/-- The row of the empty observation. -/
def firstRowTable (table : AlignmentTable) : AlignmentTable :=
  forUpTo reference.length firstRowCell { table with previous := table.previous.set 0 0 }

/-- The cell of `actualIndex = i + 1` and `referenceIndex = j + 1`. -/
def fillCell (i j : ℕ) (table : AlignmentTable) : AlignmentTable :=
  let offset := (i + 1) * (reference.length + 1) + (j + 1)
  if actual[i]? = reference[j]? then
    { table with
      current := table.current.set (j + 1) (table.previous.getD j 0)
      directions := table.directions.set offset MATCH }
  else
    let substitution := table.previous.getD j 0 + 1
    let deletion := table.current.getD j 0 + 1
    let insertion := table.previous.getD (j + 1) 0 + 1
    let minimum := min (min substitution deletion) insertion
    { table with
      current := table.current.set (j + 1) minimum
      directions := table.directions.set offset
        (if substitution = minimum then SUBSTITUTION
          else if deletion = minimum then DELETION
          else INSERTION) }

/-- The row of `actualIndex = i + 1`; the two rows swap at its end. -/
def fillRow (i : ℕ) (table : AlignmentTable) : AlignmentTable :=
  let table := forUpTo reference.length (fillCell actual reference i)
    { table with
      current := table.current.set 0 (i + 1)
      directions := table.directions.set ((i + 1) * (reference.length + 1)) INSERTION }
  { table with previous := table.current, current := table.previous }

/-- The whole dynamic program. -/
def fillTable (table : AlignmentTable) : AlignmentTable :=
  forUpTo actual.length (fillRow actual reference) (firstRowTable reference table)

end Fill

/-- The loop that reads the path back. Every round lowers one of the two indexes, so
`actual.length + reference.length` rounds reach the origin. -/
def backtrace (directions : List ℕ) (rowWidth : ℕ) :
    ℕ → ℕ → ℕ → List AlignmentOperation → List AlignmentOperation
  | 0, _, _, reversed => reversed
  | rounds + 1, actualIndex, referenceIndex, reversed =>
      if 0 < actualIndex ∨ 0 < referenceIndex then
        let direction := directions.getD (actualIndex * rowWidth + referenceIndex) 0
        if direction = MATCH then
          backtrace directions rowWidth rounds (actualIndex - 1) (referenceIndex - 1)
            (reversed ++ [.matched (actualIndex - 1) (referenceIndex - 1)])
        else if direction = SUBSTITUTION then
          backtrace directions rowWidth rounds (actualIndex - 1) (referenceIndex - 1)
            (reversed ++ [.substitution (actualIndex - 1) (referenceIndex - 1)])
        else if direction = DELETION then
          backtrace directions rowWidth rounds actualIndex (referenceIndex - 1)
            (reversed ++ [.deletion (referenceIndex - 1)])
        else
          backtrace directions rowWidth rounds (actualIndex - 1) referenceIndex
            (reversed ++ [.insertion (actualIndex - 1)])
      else reversed

/-- The number of non-match operations. -/
def countEdits (operations : List AlignmentOperation) : ℕ :=
  operations.countP fun operation => !operation.isMatch

/-- The number of contiguous matches at the start. -/
def leadingMatches (operations : List AlignmentOperation) : ℕ :=
  (operations.takeWhile AlignmentOperation.isMatch).length

/-- The number of contiguous matches right after the first edit. -/
def matchedLookahead (operations : List AlignmentOperation) : ℕ :=
  leadingMatches ((operations.dropWhile AlignmentOperation.isMatch).drop 1)

/-- The path of a list of operations, with its counts. -/
def summarizePath (actual reference : List String) (operations : List AlignmentOperation) :
    AlignmentPath :=
  let normalizer := max actual.length reference.length
  let editCount := countEdits operations
  { score := if normalizer = 0 then 1 else ((normalizer : ℚ) - editCount) / normalizer
    editCount := editCount
    matchedLookaheadCount := matchedLookahead operations
    operations := operations }

/-- Aligns with caller-owned workspace so bounded callers can reuse storage. -/
def alignPhonemesWithWorkspace (actual reference : List String) (workspace : AlignmentWorkspace) :
    Except JsError (AlignmentPath × AlignmentWorkspace) :=
  if workspace.actualCapacity < actual.length ∨ workspace.referenceCapacity < reference.length then
    .error (.rangeError "alignment workspace capacity exceeded")
  else
    let table := fillTable actual reference
      ⟨workspace.directions, workspace.firstRow, workspace.secondRow⟩
    let reversed := backtrace table.directions (reference.length + 1)
      (actual.length + reference.length) actual.length reference.length []
    -- after an odd number of swaps the two rows have traded places
    let rows := if actual.length % 2 = 0 then (table.previous, table.current)
      else (table.current, table.previous)
    .ok (summarizePath actual reference reversed.reverse,
      { workspace with directions := table.directions, firstRow := rows.1, secondRow := rows.2 })

/-- Aligns complete phoneme sequences with a fresh workspace. -/
def alignPhonemes (actual reference : List String) : Except JsError AlignmentPath :=
  (alignPhonemesWithWorkspace actual reference
    (createAlignmentWorkspace actual.length reference.length)).map Prod.fst

end Qaraa
