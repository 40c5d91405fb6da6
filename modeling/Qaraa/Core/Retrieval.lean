import Qaraa.Core.LocalPositions

/-!
What `retrieveCandidatePositions` does within its bounds, for any index whatever: nothing
here asks that a posting list is sorted or that its entries are positions of the corpus.

* `KeptByStart`: what every `addStart` keeps, the whole global search keeps.
* `InspectionBudget.Spent`: every inspection is paid from the budget.
* `querySamples`, `queryAnchors_eq`: the keys looked up, and nothing else, make the anchors;
  `postingLookups_eq`: each is looked up once.
* `lowerBoundFrom_rounds`, `LocalWalk.run_rounds`, `fairRounds_rounds`: no loop is cut
  short by the bound on its rounds.
* `retrieval_bounded`: **retrieval is bounded and well-formed**.
-/

namespace Qaraa

open Ordered

/-! ### Positions -/

/-- What every `addStart` of the global search keeps. -/
def KeptByStart (n : ℕ) (P : OrderedSet ℕ → Prop) : Prop :=
  ∀ candidates start, P candidates → P (addStart candidates n start)

namespace KeptByStart

variable {n : ℕ} {P : OrderedSet ℕ → Prop} {candidates : OrderedSet ℕ}

lemma addDisplacedFrom (hadd : KeptByStart n P) (h : P candidates) (base : ℤ)
    (rounds distance : ℕ) : P (addDisplacedFrom n base rounds distance candidates) := by
  induction rounds generalizing distance candidates with
  | zero => exact h
  | succ rounds ih =>
      rw [Qaraa.addDisplacedFrom]
      split
      · exact ih (hadd _ _ (hadd _ _ h)) _
      · exact h

lemma exactHypotheses (hadd : KeptByStart n P) {cursorSymbol : ℤ} {anchors : List Anchor}
    {search : GlobalSearch} (h : P search.candidates) :
    P (exactHypotheses n cursorSymbol anchors search).candidates := by
  induction anchors generalizing search with
  | nil => exact h
  | cons anchor rest ih =>
      rw [Qaraa.exactHypotheses]
      split
      · exact h
      · split
        · exact h
        · dsimp only
          split
          · exact ih h
          · exact ih (hadd _ _ h)

lemma displacedHypotheses (hadd : KeptByStart n P) {nearest : List (Anchor × ℕ)}
    (h : P candidates) : P (displacedHypotheses n nearest candidates) := by
  induction nearest generalizing candidates with
  | nil => exact h
  | cons found rest ih =>
      obtain ⟨anchor, posting⟩ := found
      rw [Qaraa.displacedHypotheses]
      split
      · exact h
      · exact ih (hadd.addDisplacedFrom h _ _ _)

lemma fairRound (hadd : KeptByStart n P) {cursorSymbol : ℤ} {cursors : List PostingCursor}
    (h : P candidates) (budget : InspectionBudget) :
    P (fairRound n cursorSymbol cursors candidates budget).1 := by
  induction cursors generalizing candidates budget with
  | nil => exact h
  | cons cursor rest ih =>
      rw [Qaraa.fairRound]
      split
      · exact h
      · dsimp only
        refine ih ?_ _
        split
        · exact h
        · exact hadd.addDisplacedFrom (hadd _ _ h) _ _ _

lemma fairRounds (hadd : KeptByStart n P) {cursorSymbol : ℤ} (h : P candidates) (rounds : ℕ)
    (cursors : List PostingCursor) (budget : InspectionBudget) :
    P (fairRounds n cursorSymbol rounds cursors candidates budget).1 := by
  induction rounds generalizing candidates cursors budget with
  | zero => exact h
  | succ rounds ih =>
      rw [Qaraa.fairRounds]
      split
      · dsimp only
        split
        · exact hadd.fairRound h _
        · exact ih (hadd.fairRound h _) _ _
      · exact h

/-- What every `addStart` keeps, the global search keeps. -/
lemma addGlobalCandidates {index : IndexedCorpus} (hadd : KeptByStart index.symbols.length P)
    (h : P candidates) (actual : List String) (cursorSymbol : ℤ) :
    P (addGlobalCandidates candidates index actual cursorSymbol).1 :=
  hadd.fairRounds (hadd.displacedHypotheses (hadd.exactHypotheses h)) _ _ _

end KeptByStart

/-- One `addStart` keeps positions within the corpus. -/
lemma keptByStart_inCorpus (n : ℕ) : KeptByStart n (InCorpus n) := by
  intro candidates start h
  rw [addStart]
  split
  · intro p hp
    rcases OrderedSet.mem_add.mp hp with hp | rfl
    · exact h p hp
    · omega
  · exact h

/-- One `addStart` keeps within the capacity. -/
lemma keptByStart_size (n : ℕ) :
    KeptByStart n fun candidates => candidates.size ≤ MAX_ALIGNMENT_CANDIDATES := by
  intro candidates start h
  rw [addStart]
  split
  · rename_i hroom
    have hsize : candidates.items.length < MAX_ALIGNMENT_CANDIDATES := hroom.1
    rw [OrderedSet.size, OrderedSet.items_add]
    split
    · omega
    · rw [List.length_append, List.length_singleton]
      omega
  · exact h

/-- One `addStart` leaves the positions in front. -/
lemma keptByStart_front (n : ℕ) (front : List ℕ) :
    KeptByStart n fun candidates => front <+: candidates.items := by
  intro candidates start h
  rw [addStart]
  split
  · rw [OrderedSet.items_add]
    split
    · exact h
    · exact h.trans (List.prefix_append _ _)
  · exact h

/-- One `add` of the local selection takes nothing out. -/
lemma keptByAdd_size_ge (n size : ℕ) :
    KeptByAdd n fun positions => size ≤ positions.size := by
  intro positions position h
  rw [addPosition]
  split
  · exact h
  · rw [OrderedSet.size, OrderedSet.items_add]
    split
    · exact h
    · rw [List.length_append]
      exact le_add_right h

/-- The candidates of a retrieval before the final cut. -/
lemma retrieveCandidatePositions_kept {index : IndexedCorpus} {P : OrderedSet ℕ → Prop}
    (hadd : KeptByStart index.symbols.length P) {cursorSymbol : ℤ}
    (h : P (localPositions index cursorSymbol.toNat)) (actual : List String)
    (includeGlobal : Bool) : ∃ candidates : OrderedSet ℕ, P candidates ∧
      retrieveCandidatePositions index actual cursorSymbol includeGlobal
        = candidates.items.take MAX_ALIGNMENT_CANDIDATES := by
  refine ⟨_, ?_, rfl⟩
  split
  · exact hadd.addGlobalCandidates h actual cursorSymbol
  · exact h

/-- **Every retrieved position is one of a symbol.** -/
theorem retrieveCandidatePositions_lt {index : IndexedCorpus} {actual : List String}
    {cursorSymbol : ℤ} {p : ℕ} {includeGlobal : Bool}
    (hp : p ∈ retrieveCandidatePositions index actual cursorSymbol includeGlobal) :
    p < index.symbols.length := by
  obtain ⟨candidates, hcorpus, heq⟩ := retrieveCandidatePositions_kept
    (keptByStart_inCorpus _) (localPositions_inCorpus index cursorSymbol.toNat) actual
    includeGlobal
  rw [heq] at hp
  exact hcorpus p (List.mem_of_mem_take hp)

/-- Without the posting lists, the retrieved positions are the local ones. -/
lemma retrieveCandidatePositions_local (index : IndexedCorpus) (actual : List String)
    (cursorSymbol : ℤ) : retrieveCandidatePositions index actual cursorSymbol false
      = (localPositions index cursorSymbol.toNat).items := by
  have hsize := size_localPositions_le index cursorSymbol.toNat
  rw [OrderedSet.size] at hsize
  rw [retrieveCandidatePositions, if_neg (by simp),
    List.take_of_length_le (le_trans hsize (by decide))]

/-! ### Inspections -/

namespace InspectionBudget

/-- `after` is left of `before`: what is gone has been counted. -/
structure Spent (before after : InspectionBudget) : Prop where
  remaining_le : after.remaining ≤ before.remaining
  counted : after.remaining + after.inspections = before.remaining + before.inspections

lemma Spent.refl (budget : InspectionBudget) : budget.Spent budget := ⟨le_rfl, rfl⟩

lemma Spent.trans {first second third : InspectionBudget} (h : first.Spent second)
    (h' : second.Spent third) : first.Spent third :=
  ⟨h'.remaining_le.trans h.remaining_le, h'.counted.trans h.counted⟩

end InspectionBudget

open InspectionBudget

lemma inspectedValue_spent (values : List ℕ) (index : ℕ) (budget : InspectionBudget) :
    budget.Spent (inspectedValue values index budget).2 := by
  rw [inspectedValue]
  split
  · exact .refl budget
  · refine ⟨Nat.sub_le _ _, ?_⟩
    dsimp only
    omega

lemma lowerBoundFrom_spent (values : List ℕ) (target : ℤ) (rounds low high : ℕ)
    (budget : InspectionBudget) :
    budget.Spent (lowerBoundFrom values target rounds low high budget).2 := by
  induction rounds generalizing low high budget with
  | zero => exact .refl budget
  | succ rounds ih =>
      rw [lowerBoundFrom]
      split
      · have hspent := inspectedValue_spent values (low + (high - low) / 2) budget
        dsimp only
        split
        · rename_i left heq
          rw [heq] at hspent
          exact hspent
        · rename_i value left heq
          rw [heq] at hspent
          split
          · exact hspent.trans (ih _ _ _)
          · exact hspent.trans (ih _ _ _)
      · exact .refl budget

lemma createPostingCursor_spent (anchor : Anchor) (cursorSymbol : ℤ) (budget : InspectionBudget) :
    budget.Spent (createPostingCursor anchor cursorSymbol budget).2 := by
  have hspent := lowerBoundFrom_spent anchor.postings (cursorSymbol + anchor.offset)
    anchor.postings.length 0 anchor.postings.length budget
  rw [createPostingCursor, lowerBound]
  split
  · rename_i heq
    rw [heq] at hspent
    exact hspent
  · rename_i heq
    rw [heq] at hspent
    exact hspent

lemma takeNearestPosting_spent (cursor : PostingCursor) (cursorSymbol : ℤ)
    (budget : InspectionBudget) :
    budget.Spent (takeNearestPosting cursor cursorSymbol budget).2.2 := by
  have hside : ∀ (c : Prop) [Decidable c] (index : ℕ) (budget : InspectionBudget), budget.Spent
      (if c then inspectedValue cursor.anchor.postings index budget else (none, budget)).2 := by
    intro c _ index budget
    split
    · exact inspectedValue_spent _ _ _
    · exact .refl budget
  rw [takeNearestPosting]
  dsimp only
  have hleft := hside (0 ≤ cursor.left) cursor.left.toNat budget
  split
  · exact .refl budget
  · generalize (if 0 ≤ cursor.left then
      inspectedValue cursor.anchor.postings cursor.left.toNat budget else (none, budget)) = left
      at hleft ⊢
    have hright := hleft.trans
      (hside (cursor.right < cursor.anchor.postings.length) cursor.right left.2)
    split
    · exact hleft
    · generalize (if cursor.right < cursor.anchor.postings.length then
        inspectedValue cursor.anchor.postings cursor.right left.2 else (none, left.2)) = right
        at hright ⊢
      split
      · exact hright
      · rw [apply_ite Prod.snd, apply_ite Prod.snd]
        dsimp only
        rw [ite_self]
        exact hright

lemma exactHypotheses_spent (n : ℕ) (cursorSymbol : ℤ) (anchors : List Anchor)
    {before : InspectionBudget} {search : GlobalSearch} (h : before.Spent search.budget) :
    before.Spent (exactHypotheses n cursorSymbol anchors search).budget := by
  induction anchors generalizing search with
  | nil => exact h
  | cons anchor rest ih =>
      have hcursor := h.trans (createPostingCursor_spent anchor cursorSymbol search.budget)
      rw [exactHypotheses]
      split
      · exact h
      · split
        · rename_i heq
          rw [heq] at hcursor
          exact hcursor
        · rename_i cursor budget heq
          rw [heq] at hcursor
          have hnearest := hcursor.trans (takeNearestPosting_spent cursor cursorSymbol budget)
          dsimp only
          split
          · exact ih hnearest
          · exact ih hnearest

lemma fairRound_spent (n : ℕ) (cursorSymbol : ℤ) (cursors : List PostingCursor)
    (candidates : OrderedSet ℕ) (budget : InspectionBudget) :
    budget.Spent (fairRound n cursorSymbol cursors candidates budget).2.1 := by
  induction cursors generalizing candidates budget with
  | nil => exact .refl _
  | cons cursor rest ih =>
      rw [fairRound]
      split
      · exact .refl _
      · exact (takeNearestPosting_spent cursor cursorSymbol budget).trans (ih _ _)

lemma fairRounds_spent (n : ℕ) (cursorSymbol : ℤ) (rounds : ℕ) (cursors : List PostingCursor)
    (candidates : OrderedSet ℕ) (budget : InspectionBudget) :
    budget.Spent (fairRounds n cursorSymbol rounds cursors candidates budget).2 := by
  induction rounds generalizing cursors candidates budget with
  | zero => exact .refl _
  | succ rounds ih =>
      have hround := fairRound_spent n cursorSymbol cursors candidates budget
      rw [fairRounds]
      split
      · dsimp only
        split
        · exact hround
        · exact hround.trans (ih _ _ _)
      · exact .refl _

/-- The inspections of posting lists that a retrieval makes. -/
def postingInspections (index : IndexedCorpus) (actual : List String) (cursorSymbol : ℤ)
    (includeGlobal : Bool) : ℕ :=
  if includeGlobal ∧ actual ≠ [] then
    (addGlobalCandidates (localPositions index cursorSymbol.toNat) index actual
      cursorSymbol).2.inspections
  else 0

/-- The budget bounds the inspections, whatever the candidates do. -/
lemma postingInspections_le (index : IndexedCorpus) (actual : List String) (cursorSymbol : ℤ)
    (includeGlobal : Bool) :
    postingInspections index actual cursorSymbol includeGlobal ≤ MAX_POSTING_INSPECTIONS := by
  rw [postingInspections]
  split
  · have hspent : InspectionBudget.Spent ⟨MAX_POSTING_INSPECTIONS, 0⟩
        (addGlobalCandidates (localPositions index cursorSymbol.toNat) index actual
          cursorSymbol).2 := by
      rw [addGlobalCandidates]
      refine Spent.trans ?_ (fairRounds_spent _ _ _ _ _ _)
      exact exactHypotheses_spent _ _ _ (.refl _)
    exact le_trans (Nat.le_add_left _ _) hspent.counted.le
  · exact Nat.zero_le _

/-! ### Rounds -/

/-- No binary search is cut short: each round narrows `[low, high)`. -/
lemma lowerBoundFrom_rounds (values : List ℕ) (target : ℤ) {rounds low high : ℕ}
    (h : high - low ≤ rounds) (extra : ℕ) (budget : InspectionBudget) :
    lowerBoundFrom values target (rounds + extra) low high budget
      = lowerBoundFrom values target rounds low high budget := by
  induction rounds generalizing low high budget with
  | zero =>
      cases extra with
      | zero => rfl
      | succ extra =>
          rw [Nat.zero_add, lowerBoundFrom, lowerBoundFrom, if_neg (by omega)]
  | succ rounds ih =>
      rw [Nat.add_right_comm, lowerBoundFrom, lowerBoundFrom]
      by_cases hlt : low < high
      · rw [if_pos hlt, if_pos hlt]
        dsimp only
        split
        · rfl
        · rw [ih (by omega), ih (by omega)]
      · rw [if_neg hlt, if_neg hlt]

/-- The widening of the selection is not cut short: each round but the last adds. -/
lemma LocalWalk.run_rounds (n : ℕ) (cursor : ℤ) (activeRange : CorpusRange)
    (previousRange : Option CorpusRange) {rounds : ℕ} {walk : LocalWalk}
    (h : MAX_LOCAL_CANDIDATES - walk.positions.size ≤ rounds) (extra : ℕ) :
    LocalWalk.run n cursor activeRange previousRange (rounds + extra) walk
      = LocalWalk.run n cursor activeRange previousRange rounds walk := by
  induction rounds generalizing walk with
  | zero =>
      cases extra with
      | zero => rfl
      | succ extra =>
          rw [Nat.zero_add, LocalWalk.run, LocalWalk.run, if_neg (by omega)]
  | succ rounds ih =>
      have hgrows : walk.positions.size ≤ (LocalWalk.stepPrevious n previousRange
          (LocalWalk.stepActive n cursor activeRange walk)).positions.size :=
        (keptByAdd_size_ge n _).stepPrevious
          ((keptByAdd_size_ge n _).stepActive le_rfl cursor activeRange) previousRange
      rw [Nat.add_right_comm, LocalWalk.run, LocalWalk.run]
      split
      · dsimp only
        split
        · rfl
        · exact ih (by omega)
      · rfl

/-- The fair rounds are not cut short: each but the last spends budget. -/
lemma fairRounds_rounds (n : ℕ) (cursorSymbol : ℤ) {rounds : ℕ} {budget : InspectionBudget}
    (h : budget.remaining ≤ rounds) (extra : ℕ) (cursors : List PostingCursor)
    (candidates : OrderedSet ℕ) :
    fairRounds n cursorSymbol (rounds + extra) cursors candidates budget
      = fairRounds n cursorSymbol rounds cursors candidates budget := by
  induction rounds generalizing cursors candidates budget with
  | zero =>
      cases extra with
      | zero => rfl
      | succ extra => rw [Nat.zero_add, fairRounds, fairRounds, if_neg (by omega)]
  | succ rounds ih =>
      have hspent := (fairRound_spent n cursorSymbol cursors candidates budget).remaining_le
      rw [Nat.add_right_comm, fairRounds, fairRounds]
      split
      · dsimp only
        split
        · rfl
        · rename_i hless
          exact ih (Nat.le_of_lt_succ ((lt_of_le_of_ne hspent hless).trans_le h)) _ _
      · rfl

/-! ### Lookups -/

/-- The samples queried of an observation, each a key length and an offset, in order. -/
def querySamples (actual : List String) : List (ℕ × ℕ) :=
  let maximumLength := min FORWARD_PHONEME_COUNT actual.length
  let lengths := (List.range maximumLength).reverse.map (· + 1)
  (lengths.flatMap fun length =>
    (sampledOffsets (actual.length - length + 1) (MAX_NGRAM_QUERIES / maximumLength)).map
      fun offset => (length, offset)).take MAX_NGRAM_QUERIES

/-- The key looked up for a sample. -/
def sampleKey (actual : List String) (sample : ℕ × ℕ) : String :=
  " ".intercalate ((actual.drop sample.2).take sample.1)

/-- The anchor of a sample, if its key has postings. -/
def sampleAnchor (index : IndexedCorpus) (actual : List String) (sample : ℕ × ℕ) :
    Option Anchor :=
  match index.phonemeNgramPostings.get (sampleKey actual sample) with
  | some postings => if postings = [] then none else some ⟨sample.1, sample.2, postings⟩
  | none => none

/-- One query of `queryAnchors`. -/
def visitSample (index : IndexedCorpus) (actual : List String) (state : List Anchor × ℕ)
    (sample : ℕ × ℕ) : List Anchor × ℕ :=
  if MAX_NGRAM_QUERIES ≤ state.2 then state
  else (state.1 ++ (sampleAnchor index actual sample).toList, state.2 + 1)

lemma anchorsOfLength_eq (index : IndexedCorpus) (actual : List String) (budget : ℕ)
    (state : List Anchor × ℕ) (length : ℕ) :
    anchorsOfLength index actual budget state length
      = ((sampledOffsets (actual.length - length + 1) budget).map
          fun offset => (length, offset)).foldl (visitSample index actual) state := by
  rw [anchorsOfLength, List.foldl_map]
  congr 1
  funext state offset
  rw [visitSample]
  split
  · rfl
  · dsimp only
    rw [sampleAnchor, sampleKey]
    cases index.phonemeNgramPostings.get
        (" ".intercalate ((actual.drop offset).take length)) with
    | none => simp
    | some postings =>
        by_cases hempty : postings = []
        · simp [hempty]
        · simp [hempty]

/-- The queries stop at their limit, and each is counted. -/
lemma foldl_visitSample (index : IndexedCorpus) (actual : List String) (samples : List (ℕ × ℕ))
    (state : List Anchor × ℕ) :
    samples.foldl (visitSample index actual) state =
      (state.1
          ++ (samples.take (MAX_NGRAM_QUERIES - state.2)).filterMap (sampleAnchor index actual),
        state.2 + (samples.take (MAX_NGRAM_QUERIES - state.2)).length) := by
  induction samples generalizing state with
  | nil => simp
  | cons sample samples ih =>
      rw [List.foldl_cons, ih, visitSample]
      by_cases hlimit : MAX_NGRAM_QUERIES ≤ state.2
      · rw [if_pos hlimit, Nat.sub_eq_zero_of_le hlimit]
        simp
      · obtain ⟨left, hleft⟩ : ∃ left, MAX_NGRAM_QUERIES - state.2 = left + 1 :=
          ⟨MAX_NGRAM_QUERIES - state.2 - 1, by omega⟩
        rw [if_neg hlimit, hleft, List.take_succ_cons,
          show MAX_NGRAM_QUERIES - (state.2 + 1) = left by omega]
        have hcount : state.2 + 1 + (samples.take left).length
            = state.2 + (sample :: samples.take left).length := by
          rw [List.length_cons, Nat.add_assoc, Nat.add_comm 1]
        rw [hcount]
        cases hanchor : sampleAnchor index actual sample with
        | none => simp [hanchor]
        | some anchor => simp [hanchor]

/-- The loop over the lengths visits the samples. -/
lemma foldl_anchorsOfLength (index : IndexedCorpus) (actual : List String) (lengths : List ℕ)
    (budget : ℕ) (state : List Anchor × ℕ) :
    lengths.foldl (anchorsOfLength index actual budget) state
      = (lengths.flatMap fun length => (sampledOffsets (actual.length - length + 1) budget).map
          fun offset => (length, offset)).foldl (visitSample index actual) state := by
  rw [List.foldl_flatMap]
  congr 1
  funext state length
  exact anchorsOfLength_eq index actual budget state length

/-- The anchors are those of the samples, rarest first. -/
lemma queryAnchors_eq (index : IndexedCorpus) (actual : List String) :
    queryAnchors index actual
      = ((querySamples actual).filterMap (sampleAnchor index actual)).insertionSort
          fun left right => compareAnchors left right ≤ 0 := by
  rw [queryAnchors, foldl_anchorsOfLength, foldl_visitSample, querySamples, List.nil_append,
    Nat.sub_zero]

lemma length_querySamples_le (actual : List String) :
    (querySamples actual).length ≤ MAX_NGRAM_QUERIES :=
  List.length_take_le _ _

/-- The posting lists that a retrieval looks up: the query count at the end of `queryAnchors`. -/
def postingLookups (index : IndexedCorpus) (actual : List String) (includeGlobal : Bool) : ℕ :=
  if includeGlobal ∧ actual ≠ [] then
    let maximumLength := min FORWARD_PHONEME_COUNT actual.length
    let lengths := (List.range maximumLength).reverse.map (· + 1)
    (lengths.foldl (anchorsOfLength index actual (MAX_NGRAM_QUERIES / maximumLength)) ([], 0)).2
  else 0

/-- One posting list is looked up for each sample. -/
lemma postingLookups_eq (index : IndexedCorpus) (actual : List String) (includeGlobal : Bool) :
    postingLookups index actual includeGlobal
      = if includeGlobal ∧ actual ≠ [] then (querySamples actual).length else 0 := by
  rw [postingLookups]
  dsimp only
  rw [foldl_anchorsOfLength, foldl_visitSample, querySamples, Nat.sub_zero, Nat.zero_add]

lemma postingLookups_le (index : IndexedCorpus) (actual : List String) (includeGlobal : Bool) :
    postingLookups index actual includeGlobal ≤ MAX_NGRAM_QUERIES := by
  rw [postingLookups_eq]
  split
  · exact length_querySamples_le actual
  · exact Nat.zero_le _

/-- The anchors read the posting lists of the sampled keys only. -/
lemma queryAnchors_congr {index other : IndexedCorpus} {actual : List String}
    (h : ∀ sample ∈ querySamples actual,
      other.phonemeNgramPostings.get (sampleKey actual sample)
        = index.phonemeNgramPostings.get (sampleKey actual sample)) :
    queryAnchors other actual = queryAnchors index actual := by
  rw [queryAnchors_eq, queryAnchors_eq]
  congr 1
  refine List.filterMap_congr fun sample hsample => ?_
  rw [sampleAnchor, sampleAnchor, h sample hsample]

/-! ### The bounds -/

/-- **Candidate retrieval is bounded and well-formed**, for every index, phoneme list and
cursor and both values of `includeGlobal`: the positions are distinct, of the corpus, at
most 64 and begin with the local ones; at most 48 posting lists are looked up, those of the
samples, and nothing of the index's posting lists matters beyond them; at most 128 postings are
inspected; and the three loops without a counter of their own end by themselves: rounds beyond
those the model grants change nothing. -/
theorem retrieval_bounded (index : IndexedCorpus) (actual : List String) (cursorSymbol : ℤ)
    (includeGlobal : Bool) :
    (retrieveCandidatePositions index actual cursorSymbol includeGlobal).Nodup ∧
      (∀ p ∈ retrieveCandidatePositions index actual cursorSymbol includeGlobal,
        p < index.symbols.length) ∧
      (retrieveCandidatePositions index actual cursorSymbol includeGlobal).length ≤ 64 ∧
      (localPositions index cursorSymbol.toNat).items
        <+: retrieveCandidatePositions index actual cursorSymbol includeGlobal ∧
      ((querySamples actual).length ≤ 48 ∧ ∀ other : IndexedCorpus,
        (∀ sample ∈ querySamples actual,
          other.phonemeNgramPostings.get (sampleKey actual sample)
            = index.phonemeNgramPostings.get (sampleKey actual sample)) →
        queryAnchors other actual = queryAnchors index actual) ∧
      postingLookups index actual includeGlobal ≤ 48 ∧
      postingInspections index actual cursorSymbol includeGlobal ≤ 128 ∧
      (∀ (extra n : ℕ) (cursor : ℤ) (activeRange : CorpusRange)
        (previousRange : Option CorpusRange) (walk : LocalWalk),
        LocalWalk.run n cursor activeRange previousRange (MAX_LOCAL_CANDIDATES + extra) walk
          = LocalWalk.run n cursor activeRange previousRange MAX_LOCAL_CANDIDATES walk) ∧
      (∀ (extra : ℕ) (values : List ℕ) (target : ℤ) (budget : InspectionBudget),
        lowerBoundFrom values target (values.length + extra) 0 values.length budget
          = lowerBound values target budget) ∧
      ∀ (extra n : ℕ) (cursors : List PostingCursor) (candidates : OrderedSet ℕ)
        (budget : InspectionBudget),
        fairRounds n cursorSymbol (budget.remaining + extra) cursors candidates budget
          = fairRounds n cursorSymbol budget.remaining cursors candidates budget := by
  refine ⟨?_, fun p hp => retrieveCandidatePositions_lt hp, List.length_take_le _ _, ?_,
    ⟨length_querySamples_le actual, fun other h => queryAnchors_congr h⟩,
    postingLookups_le index actual includeGlobal,
    postingInspections_le index actual cursorSymbol includeGlobal, ?_, ?_, ?_⟩
  · obtain ⟨candidates, -, heq⟩ := retrieveCandidatePositions_kept
      (P := fun _ => True) (fun _ _ h => h) trivial actual includeGlobal
    rw [heq]
    exact candidates.nodup.sublist (List.take_sublist _ _)
  · obtain ⟨candidates, ⟨hfront, hsize⟩, heq⟩ := retrieveCandidatePositions_kept
      (P := fun candidates => (localPositions index cursorSymbol.toNat).items
        <+: candidates.items ∧ candidates.size ≤ MAX_ALIGNMENT_CANDIDATES)
      (fun candidates start h => ⟨keptByStart_front _ _ _ _ h.1, keptByStart_size _ _ _ h.2⟩)
      ⟨List.prefix_rfl, (size_localPositions_le index cursorSymbol.toNat).trans (by decide)⟩
      actual includeGlobal
    rw [heq, List.take_of_length_le hsize]
    exact hfront
  · intro extra n cursor activeRange previousRange walk
    exact LocalWalk.run_rounds n cursor activeRange previousRange (Nat.sub_le _ _) extra
  · intro extra values target budget
    exact lowerBoundFrom_rounds values target (Nat.sub_le _ _) extra budget
  · intro extra n cursors candidates budget
    exact fairRounds_rounds n cursorSymbol le_rfl extra cursors candidates

end Qaraa
