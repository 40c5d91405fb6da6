import Qaraa.Core.IndexCorpus

/-!
`packages/core/src/alignment/candidates.ts`: bounded retrieval of start positions.

* `localPositions`: positions around the cursor, at most `MAX_LOCAL_CANDIDATES`.
* `addGlobalCandidates`: positions from the posting lists of the observation's
  one-to-three-phoneme keys, within `MAX_POSTING_INSPECTIONS` inspections.
* `retrieveCandidatePositions`: both, the local ones first.
-/

namespace Qaraa

open Ordered

/-- The positions a retrieval returns at most. -/
def MAX_ALIGNMENT_CANDIDATES : ℕ := 64

/-- The positions around the cursor at most. -/
def MAX_LOCAL_CANDIDATES : ℕ := 48

/-- The positions after the cursor's ayah, and the length of the longest key. -/
def FORWARD_PHONEME_COUNT : ℕ := 3

/-- The posting lists looked up at most. -/
def MAX_NGRAM_QUERIES : ℕ := 48

/-- The postings inspected at most. -/
def MAX_POSTING_INSPECTIONS : ℕ := 128

/-- How far a start may be displaced from that of an anchor. -/
def MAX_ANCHOR_DISPLACEMENT : ℕ := 3

/-- Nearest to the cursor first, then backward before forward. -/
def compareAroundCursor (left right cursorSymbol : ℤ) : ℤ :=
  let distance : ℤ := (left - cursorSymbol).natAbs - (right - cursorSymbol).natAbs
  if distance ≠ 0 then distance
  else
    let leftForward := max 0 (left - cursorSymbol)
    let rightForward := max 0 (right - cursorSymbol)
    if leftForward ≠ rightForward then leftForward - rightForward
    else left - right

/-! ### Local positions -/

/-- `add` of `localPositions`; `positions` and `selected` have the same members. -/
def addPosition (symbolCount : ℕ) (positions : OrderedSet ℕ) (position : ℤ) : OrderedSet ℕ :=
  if MAX_LOCAL_CANDIDATES ≤ positions.size ∨ position < 0 ∨ (symbolCount : ℤ) ≤ position
      ∨ positions.has position.toNat = true then positions
  else positions.add position.toNat

/-- The state of the loop that widens the selection around the cursor. -/
structure LocalWalk where
  positions : OrderedSet ℕ
  activeLeft : ℤ
  activeRight : ℤ
  previousRight : ℤ

namespace LocalWalk

variable (symbolCount : ℕ)

/-- The next position to the left is added. -/
def addLeft (walk : LocalWalk) : LocalWalk :=
  { walk with
    positions := addPosition symbolCount walk.positions walk.activeLeft
    activeLeft := walk.activeLeft - 1 }

/-- The next position to the right is added. -/
def addRight (walk : LocalWalk) : LocalWalk :=
  { walk with
    positions := addPosition symbolCount walk.positions walk.activeRight
    activeRight := walk.activeRight + 1 }

/-- The half round inside the cursor's ayah. -/
def stepActive (cursor : ℤ) (activeRange : CorpusRange) (walk : LocalWalk) : LocalWalk :=
  if activeRange.start ≤ walk.activeLeft ∨ walk.activeRight < activeRange.stop then
    if walk.activeLeft < activeRange.start then walk.addRight symbolCount
    else if activeRange.stop ≤ walk.activeRight then walk.addLeft symbolCount
    else if compareAroundCursor walk.activeLeft walk.activeRight cursor ≤ 0 then
      walk.addLeft symbolCount
    else walk.addRight symbolCount
  else walk

/-- The half round inside the ayah before. -/
def stepPrevious (previousRange : Option CorpusRange) (walk : LocalWalk) : LocalWalk :=
  match previousRange with
  | some range =>
      if range.start ≤ walk.previousRight then
        { walk with
          positions := addPosition symbolCount walk.positions walk.previousRight
          previousRight := walk.previousRight - 1 }
      else walk
  | none => walk

/-- The widening loop. A round that adds nothing is the last, so at most
`MAX_LOCAL_CANDIDATES` rounds add a position. -/
def run (cursor : ℤ) (activeRange : CorpusRange) (previousRange : Option CorpusRange) :
    ℕ → LocalWalk → OrderedSet ℕ
  | 0, walk => walk.positions
  | rounds + 1, walk =>
      if walk.positions.size < MAX_LOCAL_CANDIDATES then
        let next := stepPrevious symbolCount previousRange
          (stepActive symbolCount cursor activeRange walk)
        if next.positions.size = walk.positions.size then next.positions
        else run cursor activeRange previousRange rounds next
      else walk.positions

end LocalWalk

/-- The ayah range a symbol lies in. -/
def ayahRangeAt (index : IndexedCorpus) (position : ℕ) : Option CorpusRange :=
  index.symbols[position]?.bind fun symbol => index.ayahSymbolRanges.get (ayahKey symbol.location)

/-- The positions added before the selection widens. -/
def seedPositions (symbolCount cursor : ℕ) (activeRange : CorpusRange)
    (previousRange : Option CorpusRange) : OrderedSet ℕ :=
  let positions := addPosition symbolCount .empty cursor
  let positions := match previousRange with
    | some range => addPosition symbolCount positions ((range.stop : ℤ) - 1)
    | none => positions
  (List.range FORWARD_PHONEME_COUNT).foldl (fun positions (offset : ℕ) =>
    addPosition symbolCount positions ((activeRange.stop + offset : ℕ) : ℤ)) positions

/-- `localPositions`: the positions around the cursor, in its ayah, the one before and the start of
the one after. -/
def localPositions (index : IndexedCorpus) (cursorSymbol : ℕ) : OrderedSet ℕ :=
  let symbolCount := index.symbols.length
  if symbolCount = 0 then .empty
  else
    let cursor := min cursorSymbol (symbolCount - 1)
    match ayahRangeAt index cursor with
    | none => OrderedSet.empty.add cursor
    | some activeRange =>
        let previousRange :=
          if 0 < activeRange.start then ayahRangeAt index (activeRange.start - 1) else none
        LocalWalk.run symbolCount cursor activeRange previousRange MAX_LOCAL_CANDIDATES
          { positions := seedPositions symbolCount cursor activeRange previousRange
            activeLeft := (cursor : ℤ) - 1
            activeRight := (cursor : ℤ) + 1
            previousRight := ((previousRange.map CorpusRange.stop).getD 0 : ℤ) - 2 }

/-! ### Posting lists -/

/-- The posting list of one query key. -/
structure Anchor where
  length : ℕ
  offset : ℕ
  postings : List ℕ

/-- The inspected neighbourhood of a posting list: next to the left, next to the right. -/
structure PostingCursor where
  anchor : Anchor
  left : ℤ
  right : ℕ

/-- The inspections a search may still make. `inspections` counts those it has made; no
function of the search reads it. -/
structure InspectionBudget where
  remaining : ℕ
  inspections : ℕ
  deriving DecidableEq

/-- One inspection, while the budget lasts. -/
def inspectedValue (values : List ℕ) (index : ℕ) (budget : InspectionBudget) :
    Option ℕ × InspectionBudget :=
  if budget.remaining = 0 then (none, budget)
  else (values[index]?, ⟨budget.remaining - 1, budget.inspections + 1⟩)

/-- The loop of `lowerBound`. Each round halves `[low, high)`, so `values.length` rounds
end it. -/
def lowerBoundFrom (values : List ℕ) (target : ℤ) :
    ℕ → ℕ → ℕ → InspectionBudget → Option ℕ × InspectionBudget
  | 0, low, _, budget => (some low, budget)
  | rounds + 1, low, high, budget =>
      if low < high then
        let middle := low + (high - low) / 2
        match inspectedValue values middle budget with
        | (none, budget) => (none, budget)
        | (some value, budget) =>
            if (value : ℤ) < target then
              lowerBoundFrom values target rounds (middle + 1) high budget
            else lowerBoundFrom values target rounds low middle budget
      else (some low, budget)

/-- The first index whose value is at least `target`, with the budget left. -/
def lowerBound (values : List ℕ) (target : ℤ) (budget : InspectionBudget) :
    Option ℕ × InspectionBudget :=
  lowerBoundFrom values target values.length 0 values.length budget

/-- A cursor at the postings nearest to where the anchor would be at the cursor symbol. -/
def createPostingCursor (anchor : Anchor) (cursorSymbol : ℤ) (budget : InspectionBudget) :
    Option PostingCursor × InspectionBudget :=
  match lowerBound anchor.postings (cursorSymbol + anchor.offset) budget with
  | (none, budget) => (none, budget)
  | (some right, budget) => (some ⟨anchor, (right : ℤ) - 1, right⟩, budget)

/-- The nearer of the two next postings, the cursor moved past it and the budget left. -/
def takeNearestPosting (cursor : PostingCursor) (cursorSymbol : ℤ) (budget : InspectionBudget) :
    Option ℕ × PostingCursor × InspectionBudget :=
  let postings := cursor.anchor.postings
  if cursor.left < 0 ∧ postings.length ≤ cursor.right then (none, cursor, budget)
  else
    let (leftPosting, budget) :=
      if 0 ≤ cursor.left then inspectedValue postings cursor.left.toNat budget else (none, budget)
    if 0 ≤ cursor.left ∧ leftPosting = none then (none, cursor, budget)
    else
      let (rightPosting, budget) :=
        if cursor.right < postings.length then inspectedValue postings cursor.right budget
        else (none, budget)
      if cursor.right < postings.length ∧ rightPosting = none then (none, cursor, budget)
      else
        let position := fun posting : ℕ => (posting : ℤ) - cursor.anchor.offset
        let takeLeft := match leftPosting, rightPosting with
          | _, none => true
          | none, some _ => false
          | some left, some right =>
              decide (compareAroundCursor (position left) (position right) cursorSymbol ≤ 0)
        if takeLeft then (leftPosting, { cursor with left := cursor.left - 1 }, budget)
        else (rightPosting, { cursor with right := cursor.right + 1 }, budget)

/-- `addStart`: a start is added while there is room and it is one of the corpus. -/
def addStart (candidates : OrderedSet ℕ) (symbolCount : ℕ) (start : ℤ) : OrderedSet ℕ :=
  if candidates.size < MAX_ALIGNMENT_CANDIDATES ∧ 0 ≤ start ∧ start < symbolCount then
    candidates.add start.toNat
  else candidates

/-- The loop of `addDisplacedStarts` from `distance` on. -/
def addDisplacedFrom (symbolCount : ℕ) (base : ℤ) :
    ℕ → ℕ → OrderedSet ℕ → OrderedSet ℕ
  | 0, _, candidates => candidates
  | rounds + 1, distance, candidates =>
      if candidates.size < MAX_ALIGNMENT_CANDIDATES then
        addDisplacedFrom symbolCount base rounds (distance + 1)
          (addStart (addStart candidates symbolCount (base + distance)) symbolCount
            (base - distance))
      else candidates

/-- `addDisplacedStarts`: the starts next to that of a posting, on both sides. -/
def addDisplacedStarts (candidates : OrderedSet ℕ) (symbolCount posting actualOffset : ℕ) :
    OrderedSet ℕ :=
  addDisplacedFrom symbolCount ((posting : ℤ) - actualOffset) MAX_ANCHOR_DISPLACEMENT 1 candidates

/-- `sampledOffsets`: all offsets, or as many as the budget allows, evenly spread. -/
def sampledOffsets (count budget : ℕ) : List ℕ :=
  if count ≤ budget then List.range count
  else if budget = 1 then [0]
  else (List.range budget).map fun sample => sample * (count - 1) / (budget - 1)

/-- Rarest first, then longest, then leftmost. -/
def compareAnchors (left right : Anchor) : ℤ :=
  if left.postings.length ≠ right.postings.length then
    (left.postings.length : ℤ) - right.postings.length
  else if right.length ≠ left.length then (right.length : ℤ) - left.length
  else (left.offset : ℤ) - right.offset

/-- The keys queried of one length: the offset of each sample, while queries last. -/
def anchorsOfLength (index : IndexedCorpus) (actual : List String) (perLengthBudget : ℕ)
    (state : List Anchor × ℕ) (length : ℕ) : List Anchor × ℕ :=
  (sampledOffsets (actual.length - length + 1) perLengthBudget).foldl (fun state offset =>
    if MAX_NGRAM_QUERIES ≤ state.2 then state
    else
      let key := " ".intercalate ((actual.drop offset).take length)
      match index.phonemeNgramPostings.get key with
      | some postings =>
          (if postings = [] then state.1 else state.1 ++ [⟨length, offset, postings⟩], state.2 + 1)
      | none => (state.1, state.2 + 1)) state

/-- `queryAnchors`: the posting lists of the sampled keys, the rarest first. -/
def queryAnchors (index : IndexedCorpus) (actual : List String) : List Anchor :=
  let maximumLength := min FORWARD_PHONEME_COUNT actual.length
  let perLengthBudget := MAX_NGRAM_QUERIES / maximumLength
  let lengths := (List.range maximumLength).reverse.map (· + 1)
  let anchors := (lengths.foldl (anchorsOfLength index actual perLengthBudget) ([], 0)).1
  anchors.insertionSort fun left right => compareAnchors left right ≤ 0

/-- The state of the global search. -/
structure GlobalSearch where
  candidates : OrderedSet ℕ
  budget : InspectionBudget
  cursors : List PostingCursor
  nearest : List (Anchor × ℕ)

/-- Give each rarity-ordered anchor one exact-offset hypothesis first. -/
def exactHypotheses (symbolCount : ℕ) (cursorSymbol : ℤ) :
    List Anchor → GlobalSearch → GlobalSearch
  | [], search => search
  | anchor :: rest, search =>
      if MAX_ALIGNMENT_CANDIDATES ≤ search.candidates.size ∨ search.budget.remaining = 0 then search
      else
        match createPostingCursor anchor cursorSymbol search.budget with
        | (none, budget) => { search with budget := budget }
        | (some cursor, budget) =>
            let (posting, cursor, budget) := takeNearestPosting cursor cursorSymbol budget
            let search := { search with budget := budget, cursors := search.cursors ++ [cursor] }
            match posting with
            | none => exactHypotheses symbolCount cursorSymbol rest search
            | some posting =>
                exactHypotheses symbolCount cursorSymbol rest
                  { search with
                    nearest := search.nearest ++ [(anchor, posting)]
                    candidates := addStart search.candidates symbolCount
                      ((posting : ℤ) - anchor.offset) }

/-- Account for bounded insertion and deletion displacement before each anchor. -/
def displacedHypotheses (symbolCount : ℕ) : List (Anchor × ℕ) → OrderedSet ℕ → OrderedSet ℕ
  | [], candidates => candidates
  | (anchor, posting) :: rest, candidates =>
      if MAX_ALIGNMENT_CANDIDATES ≤ candidates.size then candidates
      else displacedHypotheses symbolCount rest
        (addDisplacedStarts candidates symbolCount posting anchor.offset)

/-- One round over the cursors: the candidates, the budget and the cursors after it. -/
def fairRound (symbolCount : ℕ) (cursorSymbol : ℤ) :
    List PostingCursor → OrderedSet ℕ → InspectionBudget →
      OrderedSet ℕ × InspectionBudget × List PostingCursor
  | [], candidates, budget => (candidates, budget, [])
  | cursor :: rest, candidates, budget =>
      if MAX_ALIGNMENT_CANDIDATES ≤ candidates.size ∨ budget.remaining = 0 then
        (candidates, budget, cursor :: rest)
      else
        let (posting, cursor, budget) := takeNearestPosting cursor cursorSymbol budget
        let candidates := match posting with
          | none => candidates
          | some posting =>
              addDisplacedStarts
                (addStart candidates symbolCount ((posting : ℤ) - cursor.anchor.offset))
                symbolCount posting cursor.anchor.offset
        let (candidates, budget, cursors) :=
          fairRound symbolCount cursorSymbol rest candidates budget
        (candidates, budget, cursor :: cursors)

/-- Fill spare capacity fairly across lists. A round that inspects nothing is the last,
so the budget bounds the rounds. -/
def fairRounds (symbolCount : ℕ) (cursorSymbol : ℤ) :
    ℕ → List PostingCursor → OrderedSet ℕ → InspectionBudget → OrderedSet ℕ × InspectionBudget
  | 0, _, candidates, budget => (candidates, budget)
  | rounds + 1, cursors, candidates, budget =>
      if candidates.size < MAX_ALIGNMENT_CANDIDATES ∧ 0 < budget.remaining then
        let (candidates, left, cursors) :=
          fairRound symbolCount cursorSymbol cursors candidates budget
        if left.remaining = budget.remaining then (candidates, left)
        else fairRounds symbolCount cursorSymbol rounds cursors candidates left
      else (candidates, budget)

/-- The candidates with the global ones added, and the budget as the search leaves it. -/
def addGlobalCandidates (candidates : OrderedSet ℕ) (index : IndexedCorpus)
    (actual : List String) (cursorSymbol : ℤ) : OrderedSet ℕ × InspectionBudget :=
  let symbolCount := index.symbols.length
  let search := exactHypotheses symbolCount cursorSymbol (queryAnchors index actual)
    ⟨candidates, ⟨MAX_POSTING_INSPECTIONS, 0⟩, [], []⟩
  fairRounds symbolCount cursorSymbol search.budget.remaining search.cursors
    (displacedHypotheses symbolCount search.nearest search.candidates) search.budget

/-- Retrieves a deterministic candidate set. `localPositions` moves a cursor below the
corpus to its first symbol, the posting lists are searched around the cursor as given. -/
def retrieveCandidatePositions (index : IndexedCorpus) (actual : List String)
    (cursorSymbol : ℤ) (includeGlobal : Bool) : List ℕ :=
  let candidates := localPositions index cursorSymbol.toNat
  let candidates := if includeGlobal ∧ actual ≠ [] then
    (addGlobalCandidates candidates index actual cursorSymbol).1 else candidates
  candidates.items.take MAX_ALIGNMENT_CANDIDATES

end Qaraa
