import Qaraa.Core.AyahRanges
import Qaraa.Core.SampleCorpus

/-!
What `localPositions` selects.

* `activeAyah`, `previousAyah`, `following`, `window`: the cursor's ayah, the ayah before,
  the symbols after and all of them, said of the symbols alone.
* `Widened`: the invariant of the widening loop: an interval around the cursor, no side of
  which runs ahead while the other can grow, and the end of the ayah before.
* `run_widened`: the loop stops with all places taken or with both ayahs exhausted.
* `localPositions_window`: as much of the window as there are places, its fixed part first,
  the cursor's ayah from the cursor outwards, the ayah before from its end.
-/

namespace Qaraa

open Ordered

/-! ### The window -/

/-- The symbols at `p` and `q` are of one ayah. -/
def OneAyah (symbols : List QuranSymbol) (p q : ℕ) : Prop :=
  ∃ s ∈ symbols[p]?, ∃ t ∈ symbols[q]?, SameAyah s.location t.location

instance (a b : QuranLocation) : Decidable (SameAyah a b) := instDecidableAnd

instance (symbols : List QuranSymbol) (p q : ℕ) : Decidable (OneAyah symbols p q) :=
  inferInstanceAs (Decidable (∃ s ∈ symbols[p]?, ∃ t ∈ symbols[q]?, SameAyah s.location t.location))

section

variable (symbols : List QuranSymbol) (cursor : ℕ)

/-- The positions of the cursor's ayah. -/
def activeAyah : Finset ℕ :=
  (Finset.range symbols.length).filter fun p => OneAyah symbols cursor p

/-- The position before the cursor's ayah, if there is one. -/
def lastBefore : Finset ℕ :=
  (Finset.range symbols.length).filter fun p =>
    p ∉ activeAyah symbols cursor ∧ p + 1 ∈ activeAyah symbols cursor

/-- The positions of the ayah before the cursor's. -/
def previousAyah : Finset ℕ :=
  (Finset.range symbols.length).filter fun p =>
    ∃ last ∈ lastBefore symbols cursor, OneAyah symbols last p

/-- The up to three positions after the cursor's ayah. -/
def following : Finset ℕ :=
  (Finset.range symbols.length).filter fun p =>
    p ∉ activeAyah symbols cursor ∧ ∃ q ∈ activeAyah symbols cursor, q < p ∧ p ≤ q + 3

/-- The symbols of the cursor's ayah and of the one before, and the first three that follow. -/
def window : Finset ℕ :=
  activeAyah symbols cursor ∪ previousAyah symbols cursor ∪ following symbols cursor

end

/-- A selection of the window around the cursor. -/
structure LocalSelection (symbols : List QuranSymbol) (cursor : ℕ) (positions : List ℕ) : Prop where
  distinct : positions.Nodup
  inWindow : ∀ p ∈ positions, p ∈ window symbols cursor
  length : positions.length = min 48 (window symbols cursor).card
  hasCursor : cursor < symbols.length → cursor ∈ positions
  hasLast : ∀ p ∈ lastBefore symbols cursor, p ∈ positions
  hasFollowing : ∀ p ∈ following symbols cursor, p ∈ positions
  whole : (window symbols cursor).card ≤ 48 → positions.toFinset = window symbols cursor
  nearest : ∀ p ∈ positions, p ∈ activeAyah symbols cursor → ∀ q ∈ activeAyah symbols cursor,
    ((q : ℤ) - cursor).natAbs < ((p : ℤ) - cursor).natAbs → q ∈ positions
  suffix : ∀ p ∈ positions, p ∈ previousAyah symbols cursor →
    ∀ q ∈ previousAyah symbols cursor, p ≤ q → q ∈ positions

/-! ### Ayahs as ranges -/

/-- The range found for a symbol holds the positions of its ayah and no others. -/
lemma oneAyah_iff {index : IndexedCorpus} (h : ValidIndex index) {i : ℕ}
    {range : CorpusRange} (hrange : ayahRangeAt index i = some range)
    (hrun : IsAyahRange index.symbols i range) {p : ℕ} :
    OneAyah index.symbols i p ↔ range.start ≤ p ∧ p < range.stop := by
  have hstop := hrun.stop_le
  constructor
  · rintro ⟨s, hs, t, ht, hst⟩
    rw [Option.mem_def] at hs ht
    obtain ⟨found, hfound, hrun'⟩ := ayahRangeAt_valid h (List.getElem?_eq_some_iff.mp ht).1
    have hkey : ayahKey s.location = ayahKey t.location := by
      rw [ayahKey, ayahKey, hst.1, hst.2]
    rw [ayahRangeAt, ht, Option.bind_some, ← hkey] at hfound
    rw [ayahRangeAt, hs, Option.bind_some, hfound, Option.some.injEq] at hrange
    subst hrange
    exact ⟨hrun'.start_le, hrun'.lt_stop⟩
  · rintro ⟨hstart, hlt⟩
    have hlt' := hrun.lt_stop
    have hi : index.symbols[i]? = some index.symbols[i] := List.getElem?_eq_getElem (by omega)
    have hp : index.symbols[p]? = some index.symbols[p] := List.getElem?_eq_getElem (by omega)
    exact ⟨_, hi, _, hp, hrun.same p _ _ hi hstart hlt hp⟩

/-- The cursor's ayah and the one before, as ranges. -/
structure Surroundings (n cursor : ℕ) (activeRange : CorpusRange)
    (previousRange : Option CorpusRange) : Prop where
  start_le : activeRange.start ≤ cursor
  lt_stop : cursor < activeRange.stop
  stop_le : activeRange.stop ≤ n
  previous : ∀ range ∈ previousRange, range.start < range.stop ∧ range.stop = activeRange.start
  first : previousRange = none → activeRange.start = 0

/-! ### The widening loop -/

lemma mem_addPosition_iff {n : ℕ} {positions : OrderedSet ℕ} {position : ℤ}
    (hroom : positions.size < MAX_LOCAL_CANDIDATES) {p : ℕ} :
    p ∈ (addPosition n positions position).items ↔
      p ∈ positions.items ∨ ((p : ℤ) = position ∧ p < n) := by
  constructor
  · intro h
    by_cases hmem : p ∈ positions.items
    · exact Or.inl hmem
    · have hposition := (mem_of_mem_addPosition h).resolve_left hmem
      refine Or.inr ⟨hposition, ?_⟩
      rw [addPosition] at h
      split at h
      · exact absurd h hmem
      · omega
  · rintro (h | ⟨h, hlt⟩)
    · exact mem_addPosition_of_mem h _
    · exact mem_addPosition_self hlt hroom h.symm

lemma addPosition_full {n : ℕ} {positions : OrderedSet ℕ}
    (hfull : MAX_LOCAL_CANDIDATES ≤ positions.size) (position : ℤ) :
    addPosition n positions position = positions := by
  rw [addPosition, if_pos (Or.inl hfull)]

/-- On either side of the cursor the nearer is taken, the left one of two equally near. -/
lemma compareAroundCursor_nonpos {left right cursor : ℤ} (hleft : left < cursor)
    (hright : cursor < right) :
    compareAroundCursor left right cursor ≤ 0 ↔ cursor - left ≤ right - cursor := by
  rw [compareAroundCursor]
  dsimp only
  split
  · omega
  · rw [if_pos (by omega)]
    omega

section

variable {n cursor : ℕ} {activeRange : CorpusRange} {previousRange : Option CorpusRange}

/-- What the widening loop has selected so far. -/
structure Widened (n cursor : ℕ) (activeRange : CorpusRange) (previousRange : Option CorpusRange)
    (walk : LocalWalk) : Prop where
  mem_iff : ∀ p : ℕ, p ∈ walk.positions.items ↔
    (walk.activeLeft < p ∧ (p : ℤ) < walk.activeRight) ∨
    (∃ range ∈ previousRange, walk.previousRight < p ∧ p < range.stop) ∨
    (activeRange.stop ≤ p ∧ p < activeRange.stop + 3 ∧ p < n)
  left : (activeRange.start : ℤ) - 1 ≤ walk.activeLeft ∧ walk.activeLeft < cursor
  right : (cursor : ℤ) < walk.activeRight ∧ walk.activeRight ≤ activeRange.stop
  /-- The right side is not ahead while the left one can grow. -/
  rightNear : activeRange.start ≤ walk.activeLeft →
    walk.activeRight - cursor ≤ cursor - walk.activeLeft + 1
  /-- The left side is not ahead while the right one can grow. -/
  leftNear : walk.activeRight < activeRange.stop →
    cursor - walk.activeLeft ≤ walk.activeRight - cursor + 1
  previous : ∀ range ∈ previousRange,
    (range.start : ℤ) - 1 ≤ walk.previousRight ∧ walk.previousRight + 2 ≤ range.stop

/-- Both ayahs are selected. -/
def Exhausted (activeRange : CorpusRange) (previousRange : Option CorpusRange) (walk : LocalWalk) :
    Prop :=
  walk.activeLeft < activeRange.start ∧ activeRange.stop ≤ walk.activeRight ∧
    ∀ range ∈ previousRange, walk.previousRight < range.start

namespace Widened

variable {walk : LocalWalk} (hs : Surroundings n cursor activeRange previousRange)
  (h : Widened n cursor activeRange previousRange walk)
  (hroom : walk.positions.size < MAX_LOCAL_CANDIDATES)

include hs h hroom

/-- The left side grows by one, if it is not ahead. -/
lemma addLeft (hleft : activeRange.start ≤ walk.activeLeft)
    (hnear : walk.activeRight < activeRange.stop →
      cursor - walk.activeLeft ≤ walk.activeRight - cursor) :
    Widened n cursor activeRange previousRange (walk.addLeft n) ∧
      (walk.addLeft n).positions.size = walk.positions.size + 1 := by
  have hcursor := hs.start_le
  have hstop := hs.lt_stop
  have hlen := hs.stop_le
  have hl := h.left
  have hr := h.right
  obtain ⟨p, hp⟩ : ∃ p : ℕ, (p : ℤ) = walk.activeLeft := ⟨walk.activeLeft.toNat, by omega⟩
  have hnew : p ∉ walk.positions.items := by
    rw [h.mem_iff]
    rintro (hin | ⟨range, hrange, hin⟩ | hin)
    · omega
    · have := hs.previous range hrange
      omega
    · omega
  refine ⟨⟨fun q => ?_, ?_, h.right, fun hgrow => ?_, fun hgrow => ?_, h.previous⟩, ?_⟩
  · rw [LocalWalk.addLeft]
    dsimp only
    rw [mem_addPosition_iff hroom, h.mem_iff]
    constructor
    · rintro ((hin | hin) | hin)
      · exact Or.inl (by omega)
      · exact Or.inr hin
      · exact Or.inl (by omega)
    · rintro (hin | hin)
      · by_cases hq : (q : ℤ) = walk.activeLeft
        · exact Or.inr ⟨hq, by omega⟩
        · exact Or.inl (Or.inl (by omega))
      · exact Or.inl (Or.inr hin)
  · rw [LocalWalk.addLeft]
    dsimp only
    omega
  · have := h.rightNear hleft
    rw [LocalWalk.addLeft]
    dsimp only
    omega
  · have := hnear hgrow
    rw [LocalWalk.addLeft]
    dsimp only
    omega
  · rw [LocalWalk.addLeft]
    dsimp only
    rw [← hp]
    exact size_addPosition_of_notMem (by omega) hroom hnew

/-- The right side grows by one, if it is not ahead. -/
lemma addRight (hright : walk.activeRight < activeRange.stop)
    (hnear : activeRange.start ≤ walk.activeLeft →
      walk.activeRight - cursor ≤ cursor - walk.activeLeft) :
    Widened n cursor activeRange previousRange (walk.addRight n) ∧
      (walk.addRight n).positions.size = walk.positions.size + 1 := by
  have hcursor := hs.start_le
  have hlen := hs.stop_le
  have hl := h.left
  have hr := h.right
  obtain ⟨p, hp⟩ : ∃ p : ℕ, (p : ℤ) = walk.activeRight := ⟨walk.activeRight.toNat, by omega⟩
  have hnew : p ∉ walk.positions.items := by
    rw [h.mem_iff]
    rintro (hin | ⟨range, hrange, hin⟩ | hin)
    · omega
    · have := hs.previous range hrange
      omega
    · omega
  refine ⟨⟨fun q => ?_, h.left, ?_, fun hgrow => ?_, fun hgrow => ?_, h.previous⟩, ?_⟩
  · rw [LocalWalk.addRight]
    dsimp only
    rw [mem_addPosition_iff hroom, h.mem_iff]
    constructor
    · rintro ((hin | hin) | hin)
      · exact Or.inl (by omega)
      · exact Or.inr hin
      · exact Or.inl (by omega)
    · rintro (hin | hin)
      · by_cases hq : (q : ℤ) = walk.activeRight
        · exact Or.inr ⟨hq, by omega⟩
        · exact Or.inl (Or.inl (by omega))
      · exact Or.inl (Or.inr hin)
  · rw [LocalWalk.addRight]
    dsimp only
    omega
  · have := hnear hgrow
    rw [LocalWalk.addRight]
    dsimp only
    omega
  · have := h.leftNear hright
    rw [LocalWalk.addRight]
    dsimp only
    omega
  · rw [LocalWalk.addRight]
    dsimp only
    rw [← hp]
    exact size_addPosition_of_notMem (by omega) hroom hnew

/-- The half round in the cursor's ayah adds a position unless the ayah is exhausted. -/
lemma stepActive :
    Widened n cursor activeRange previousRange (walk.stepActive n cursor activeRange) ∧
      (walk.positions.size < (walk.stepActive n cursor activeRange).positions.size ∨
        walk.stepActive n cursor activeRange = walk ∧
          walk.activeLeft < activeRange.start ∧ activeRange.stop ≤ walk.activeRight) := by
  have hl := h.left
  have hr := h.right
  rw [LocalWalk.stepActive]
  by_cases hgrow : (activeRange.start : ℤ) ≤ walk.activeLeft ∨ walk.activeRight < activeRange.stop
  · rw [if_pos hgrow]
    by_cases hleft : walk.activeLeft < activeRange.start
    · rw [if_pos hleft]
      obtain ⟨hnext, hsize⟩ := addRight hs h hroom (by omega) (by omega)
      exact ⟨hnext, Or.inl (by omega)⟩
    · rw [if_neg hleft]
      by_cases hright : (activeRange.stop : ℤ) ≤ walk.activeRight
      · rw [if_pos hright]
        obtain ⟨hnext, hsize⟩ := addLeft hs h hroom (by omega) (by omega)
        exact ⟨hnext, Or.inl (by omega)⟩
      · rw [if_neg hright]
        by_cases hcompare : compareAroundCursor walk.activeLeft walk.activeRight cursor ≤ 0
        · rw [if_pos hcompare]
          rw [compareAroundCursor_nonpos hl.2 hr.1] at hcompare
          obtain ⟨hnext, hsize⟩ := addLeft hs h hroom (by omega) fun _ => hcompare
          exact ⟨hnext, Or.inl (by omega)⟩
        · rw [if_neg hcompare]
          rw [compareAroundCursor_nonpos hl.2 hr.1] at hcompare
          obtain ⟨hnext, hsize⟩ := addRight hs h hroom (by omega) fun _ => by omega
          exact ⟨hnext, Or.inl (by omega)⟩
  · rw [if_neg hgrow]
    exact ⟨h, Or.inr ⟨rfl, by omega, by omega⟩⟩

/-- The half round in the ayah before adds a position unless the ayah is exhausted. -/
lemma stepPrevious :
    Widened n cursor activeRange previousRange (walk.stepPrevious n previousRange) ∧
      (walk.positions.size < (walk.stepPrevious n previousRange).positions.size ∨
        walk.stepPrevious n previousRange = walk ∧
          ∀ range ∈ previousRange, walk.previousRight < range.start) := by
  cases previousRange with
  | none => exact ⟨h, Or.inr ⟨rfl, by simp⟩⟩
  | some range =>
      obtain ⟨hle, hstop⟩ := hs.previous range rfl
      obtain ⟨hlow, hhigh⟩ := h.previous range rfl
      have hcursor := hs.start_le
      have hlt := hs.lt_stop
      have hlen := hs.stop_le
      have hl := h.left
      rw [LocalWalk.stepPrevious]
      by_cases hgrow : (range.start : ℤ) ≤ walk.previousRight
      · rw [if_pos hgrow]
        obtain ⟨p, hp⟩ : ∃ p : ℕ, (p : ℤ) = walk.previousRight :=
          ⟨walk.previousRight.toNat, by omega⟩
        have hnew : p ∉ walk.positions.items := by
          rw [h.mem_iff]
          simp only [Option.mem_def, Option.some.injEq, exists_eq_left']
          omega
        refine ⟨⟨fun q => ?_, h.left, h.right, h.rightNear, h.leftNear, ?_⟩, Or.inl ?_⟩
        · dsimp only
          rw [mem_addPosition_iff hroom, h.mem_iff]
          simp only [Option.mem_def, Option.some.injEq, exists_eq_left']
          omega
        · simp only [Option.mem_def, Option.some.injEq, forall_eq']
          omega
        · dsimp only
          rw [← hp, size_addPosition_of_notMem (by omega) hroom hnew]
          omega
      · rw [if_neg hgrow]
        refine ⟨h, Or.inr ⟨rfl, ?_⟩⟩
        simp only [Option.mem_def, Option.some.injEq, forall_eq']
        omega

end Widened

/-- A loop without room adds nothing. -/
lemma run_full {walk : LocalWalk} (hfull : MAX_LOCAL_CANDIDATES ≤ walk.positions.size)
    (rounds : ℕ) :
    LocalWalk.run n cursor activeRange previousRange rounds walk = walk.positions := by
  cases rounds with
  | zero => rfl
  | succ rounds => rw [LocalWalk.run, if_neg (by omega)]

/-- The loop stops with all places taken or with both ayahs exhausted. -/
lemma run_widened (hs : Surroundings n cursor activeRange previousRange) (rounds : ℕ)
    {walk : LocalWalk} (h : Widened n cursor activeRange previousRange walk)
    (hrounds : MAX_LOCAL_CANDIDATES ≤ walk.positions.size + rounds) :
    ∃ last : LocalWalk, Widened n cursor activeRange previousRange last ∧
      LocalWalk.run n cursor activeRange previousRange rounds walk = last.positions ∧
      (MAX_LOCAL_CANDIDATES ≤ last.positions.size ∨
        Exhausted activeRange previousRange last) := by
  induction rounds generalizing walk with
  | zero => exact ⟨walk, h, rfl, Or.inl hrounds⟩
  | succ rounds ih =>
      by_cases hroom : walk.positions.size < MAX_LOCAL_CANDIDATES
      -- a round: first in the cursor's ayah, then in the one before
      · obtain ⟨hmid, hactive⟩ := Widened.stepActive hs h hroom
        rw [LocalWalk.run, if_pos hroom]
        dsimp only
        by_cases hmidRoom : (walk.stepActive n cursor activeRange).positions.size
            < MAX_LOCAL_CANDIDATES
        · obtain ⟨hnext, hprevious⟩ := Widened.stepPrevious hs hmid hmidRoom
          by_cases hstuck : ((walk.stepActive n cursor activeRange).stepPrevious n
              previousRange).positions.size = walk.positions.size
          · -- neither half round added a position
            rw [if_pos hstuck]
            refine ⟨_, hnext, rfl, Or.inr ?_⟩
            rcases hactive with hgrew | ⟨hsame, hleft, hright⟩
            · rcases hprevious with hgrew' | ⟨hsame', -⟩
              · omega
              · rw [hsame'] at hstuck
                omega
            · rw [hsame] at hprevious hstuck ⊢
              rcases hprevious with hgrew' | ⟨hsame', hdone⟩
              · omega
              · rw [hsame']
                exact ⟨hleft, hright, hdone⟩
          · rw [if_neg hstuck]
            refine ih hnext ?_
            rcases hactive with hgrew | ⟨hsame, -⟩
            · rcases hprevious with hgrew' | ⟨hsame', -⟩
              · omega
              · rw [hsame']
                omega
            · rw [hsame] at hprevious hstuck ⊢
              rcases hprevious with hgrew' | ⟨hsame', -⟩
              · omega
              · rw [hsame'] at hstuck
                omega
        · -- the last place went to the cursor's ayah
          have hsame : ((walk.stepActive n cursor activeRange).stepPrevious n
              previousRange).positions = (walk.stepActive n cursor activeRange).positions := by
            cases previousRange with
            | none => rfl
            | some range =>
                rw [LocalWalk.stepPrevious]
                split
                · exact addPosition_full (by omega) _
                · rfl
          refine ⟨_, hmid, ?_, Or.inl (by omega)⟩
          rw [hsame, if_neg (by omega), run_full (by rw [hsame]; omega), hsame]
      · exact ⟨walk, h, run_full (by omega) _, Or.inl (by omega)⟩

lemma mem_seedPositions_iff (hs : Surroundings n cursor activeRange previousRange) {p : ℕ} :
    p ∈ (seedPositions n cursor activeRange previousRange).items ↔
      p = cursor ∨ (∃ range ∈ previousRange, p + 1 = range.stop) ∨
      (activeRange.stop ≤ p ∧ p < activeRange.stop + 3 ∧ p < n) := by
  have hcursor := hs.start_le
  have hlt := hs.lt_stop
  have hlen := hs.stop_le
  have hmax : MAX_LOCAL_CANDIDATES = 48 := rfl
  have hempty : (OrderedSet.empty : OrderedSet ℕ).size = 0 := rfl
  have hseed := size_addPosition_le n .empty cursor
  set base := previousRange.elim (addPosition n .empty cursor) fun range =>
    addPosition n (addPosition n .empty cursor) ((range.stop : ℤ) - 1) with hbase
  have hsize : base.size ≤ 2 := by
    cases previousRange with
    | none => exact le_trans hseed (by omega)
    | some range => exact le_trans (size_addPosition_le _ _ _) (by omega)
  have hmem : p ∈ base.items ↔ p = cursor ∨ ∃ range ∈ previousRange, p + 1 = range.stop := by
    cases previousRange with
    | none =>
        rw [hbase, Option.elim_none, mem_addPosition_iff (by omega)]
        simp only [OrderedSet.items_empty, List.not_mem_nil, false_or, Option.mem_def,
          reduceCtorEq, false_and, exists_false, or_false]
        omega
    | some range =>
        have hprevious := hs.previous range rfl
        rw [hbase, Option.elim_some, mem_addPosition_iff (by omega),
          mem_addPosition_iff (by omega)]
        simp only [OrderedSet.items_empty, List.not_mem_nil, false_or, Option.mem_def,
          Option.some.injEq, exists_eq_left']
        omega
  have h0 := size_addPosition_le n base ((activeRange.stop + 0 : ℕ) : ℤ)
  have h1 := size_addPosition_le n (addPosition n base ((activeRange.stop + 0 : ℕ) : ℤ))
    ((activeRange.stop + 1 : ℕ) : ℤ)
  rw [seedPositions_eq, ← hbase, mem_addPosition_iff (by omega), mem_addPosition_iff (by omega),
    mem_addPosition_iff (by omega), hmem]
  constructor
  · rintro (((hp | hp) | hp) | hp)
    · exact hp.imp_right Or.inl
    all_goals exact Or.inr (Or.inr (by omega))
  · rintro (hp | hp | hp)
    · exact Or.inl (Or.inl (Or.inl (Or.inl hp)))
    · exact Or.inl (Or.inl (Or.inl (Or.inr hp)))
    · obtain hp' | hp' | hp' : p = activeRange.stop ∨ p = activeRange.stop + 1 ∨
        p = activeRange.stop + 2 := by omega
      · exact Or.inl (Or.inl (Or.inr (by omega)))
      · exact Or.inl (Or.inr (by omega))
      · exact Or.inr (by omega)

/-- The loop starts widened by nothing. -/
lemma widened_seed (hs : Surroundings n cursor activeRange previousRange) :
    Widened n cursor activeRange previousRange
      { positions := seedPositions n cursor activeRange previousRange
        activeLeft := (cursor : ℤ) - 1
        activeRight := (cursor : ℤ) + 1
        previousRight := ((previousRange.map CorpusRange.stop).getD 0 : ℤ) - 2 } := by
  have hcursor := hs.start_le
  have hlt := hs.lt_stop
  refine ⟨fun p => ?_, by dsimp only; omega, by dsimp only; omega, by dsimp only; omega,
    by dsimp only; omega, fun range hrange => ?_⟩
  · rw [mem_seedPositions_iff hs]
    dsimp only
    refine or_congr (by omega) (or_congr_left (exists_congr fun range => ?_))
    refine and_congr_right fun hrange => ?_
    rw [Option.mem_def.mp hrange]
    dsimp only [Option.map_some, Option.getD_some]
    omega
  · have hprevious := hs.previous range hrange
    rw [Option.mem_def.mp hrange]
    dsimp only [Option.map_some, Option.getD_some]
    omega

end

/-! ### The selection -/

section

variable {index : IndexedCorpus} {cursor : ℕ} {activeRange : CorpusRange}
  {previousRange : Option CorpusRange}

/-- The ranges the code has found hold the two ayahs. -/
structure FoundAyahs (index : IndexedCorpus) (cursor : ℕ) (activeRange : CorpusRange)
    (previousRange : Option CorpusRange) : Prop where
  surroundings : Surroundings index.symbols.length cursor activeRange previousRange
  mem_active : ∀ p, p ∈ activeAyah index.symbols cursor ↔
    activeRange.start ≤ p ∧ p < activeRange.stop
  mem_last : ∀ p, p ∈ lastBefore index.symbols cursor ↔
    ∃ range ∈ previousRange, p + 1 = range.stop
  mem_previous : ∀ p, p ∈ previousAyah index.symbols cursor ↔
    ∃ range ∈ previousRange, range.start ≤ p ∧ p < range.stop
  mem_following : ∀ p, p ∈ following index.symbols cursor ↔
    activeRange.stop ≤ p ∧ p < activeRange.stop + 3 ∧ p < index.symbols.length

lemma foundAyahs (h : ValidIndex index) (hcursor : cursor < index.symbols.length)
    (hactive : ayahRangeAt index cursor = some activeRange)
    (hrun : IsAyahRange index.symbols cursor activeRange) :
    FoundAyahs index cursor activeRange
      (if 0 < activeRange.start then ayahRangeAt index (activeRange.start - 1) else none) := by
  have hstart := hrun.start_le
  have hlt := hrun.lt_stop
  have hlen := hrun.stop_le
  have hmem : ∀ p, p ∈ activeAyah index.symbols cursor ↔
      activeRange.start ≤ p ∧ p < activeRange.stop := by
    intro p
    rw [activeAyah, Finset.mem_filter, Finset.mem_range, oneAyah_iff h hactive hrun]
    omega
  have hlast : ∀ p, p ∈ lastBefore index.symbols cursor ↔ p + 1 = activeRange.start := by
    intro p
    rw [lastBefore, Finset.mem_filter, Finset.mem_range, hmem, hmem]
    omega
  have hfollowing : ∀ p, p ∈ following index.symbols cursor ↔
      activeRange.stop ≤ p ∧ p < activeRange.stop + 3 ∧ p < index.symbols.length := by
    intro p
    rw [following, Finset.mem_filter, Finset.mem_range, hmem]
    constructor
    · rintro ⟨hp, hout, q, hq, hqp, hpq⟩
      rw [hmem] at hq
      omega
    · rintro ⟨hstop, hp3, hp⟩
      refine ⟨hp, by omega, activeRange.stop - 1, ?_, by omega, by omega⟩
      rw [hmem]
      omega
  -- there is an ayah before unless the cursor's is the first
  by_cases hpos : 0 < activeRange.start
  · obtain ⟨range, hrange, hrun'⟩ := @ayahRangeAt_valid index h (activeRange.start - 1) (by omega)
    have hstop : range.stop = activeRange.start := hrun.previous_stop hcursor (by omega) hrun'
    have hstart' := hrun'.start_le
    rw [if_pos hpos, hrange]
    refine ⟨⟨hstart, hlt, hlen, ?_, by rintro ⟨⟩⟩, hmem, fun p => ?_, fun p => ?_, hfollowing⟩
    · rintro _ ⟨⟩
      omega
    · rw [hlast]
      simp only [Option.mem_def, Option.some.injEq, exists_eq_left']
      omega
    · rw [previousAyah, Finset.mem_filter, Finset.mem_range]
      simp only [Option.mem_def, Option.some.injEq, exists_eq_left']
      constructor
      · rintro ⟨hp, last, hlastmem, hone⟩
        rw [hlast] at hlastmem
        obtain rfl : last = activeRange.start - 1 := by omega
        exact (oneAyah_iff h hrange hrun').mp hone
      · intro hp
        refine ⟨by omega, activeRange.start - 1, ?_, (oneAyah_iff h hrange hrun').mpr hp⟩
        rw [hlast]
        omega
  · rw [if_neg hpos]
    refine ⟨⟨hstart, hlt, hlen, by rintro _ ⟨⟩, fun _ => by omega⟩, hmem, fun p => ?_, fun p => ?_,
      hfollowing⟩
    · rw [hlast]
      simp only [Option.mem_def, reduceCtorEq, false_and, exists_false, iff_false]
      omega
    · rw [previousAyah, Finset.mem_filter, Finset.mem_range]
      simp only [Option.mem_def, reduceCtorEq, false_and, exists_false, iff_false, not_and]
      rintro - ⟨last, hlastmem, -⟩
      rw [hlast] at hlastmem
      omega

/-- What the loop has selected when it stops is a selection of the window. -/
lemma Widened.selection (hf : FoundAyahs index cursor activeRange previousRange) {walk : LocalWalk}
    (h : Widened index.symbols.length cursor activeRange previousRange walk)
    (hsize : walk.positions.size ≤ MAX_LOCAL_CANDIDATES)
    (hdone : MAX_LOCAL_CANDIDATES ≤ walk.positions.size ∨
      Exhausted activeRange previousRange walk) :
    LocalSelection index.symbols cursor walk.positions.items := by
  have hstart := hf.surroundings.start_le
  have hlt := hf.surroundings.lt_stop
  have hl := h.left
  have hr := h.right
  have hmax : MAX_LOCAL_CANDIDATES = 48 := rfl
  have hnodup : walk.positions.items.Nodup := walk.positions.nodup
  have hmem : ∀ p, p ∈ window index.symbols cursor ↔
      (activeRange.start ≤ p ∧ p < activeRange.stop) ∨
      (∃ range ∈ previousRange, range.start ≤ p ∧ p < range.stop) ∨
      (activeRange.stop ≤ p ∧ p < activeRange.stop + 3 ∧ p < index.symbols.length) := by
    intro p
    rw [window, Finset.mem_union, Finset.mem_union, hf.mem_active, hf.mem_previous,
      hf.mem_following, or_assoc]
  have hsub : ∀ p ∈ walk.positions.items, p ∈ window index.symbols cursor := by
    intro p hp
    rw [hmem]
    rcases (h.mem_iff p).mp hp with hin | ⟨range, hrange, hin⟩ | hin
    · exact Or.inl (by omega)
    · have := h.previous range hrange
      exact Or.inr (Or.inl ⟨range, hrange, by omega⟩)
    · exact Or.inr (Or.inr hin)
  have hcard : walk.positions.items.toFinset.card = walk.positions.size :=
    List.toFinset_card_of_nodup hnodup
  have hsubset : walk.positions.items.toFinset ⊆ window index.symbols cursor := by
    intro p hp
    exact hsub p (List.mem_toFinset.mp hp)
  have hle := Finset.card_le_card hsubset
  -- a loop that can go no further has selected the whole window
  have hwhole : Exhausted activeRange previousRange walk →
      walk.positions.items.toFinset = window index.symbols cursor := by
    rintro ⟨hleft, hright, hprevious⟩
    refine Finset.Subset.antisymm hsubset fun p hp => ?_
    rw [List.mem_toFinset, h.mem_iff]
    rcases (hmem p).mp hp with hin | ⟨range, hrange, hin⟩ | hin
    · exact Or.inl (by omega)
    · have := hprevious range hrange
      exact Or.inr (Or.inl ⟨range, hrange, by omega⟩)
    · exact Or.inr (Or.inr hin)
  -- so has one that is full when the window is small
  have hfew : (window index.symbols cursor).card ≤ 48 →
      walk.positions.items.toFinset = window index.symbols cursor := by
    intro hfew
    rcases hdone with hfull | hexhausted
    · exact Finset.eq_of_subset_of_card_le hsubset (by omega)
    · exact hwhole hexhausted
  refine ⟨hnodup, hsub, ?_, fun _ => (h.mem_iff cursor).mpr (Or.inl ⟨hl.2, hr.1⟩), ?_, ?_, hfew,
    ?_, ?_⟩
  · rw [← OrderedSet.size]
    rcases hdone with hfull | hexhausted
    · omega
    · rw [hwhole hexhausted] at hcard
      omega
  · intro p hp
    obtain ⟨range, hrange, hstop⟩ := (hf.mem_last p).mp hp
    have := h.previous range hrange
    exact (h.mem_iff p).mpr (Or.inr (Or.inl ⟨range, hrange, by omega⟩))
  · intro p hp
    exact (h.mem_iff p).mpr (Or.inr (Or.inr ((hf.mem_following p).mp hp)))
  -- to the left and to the right it goes on symbol by symbol, so it takes the nearest first
  · intro p hp hactive q hq hnear
    rw [hf.mem_active] at hactive hq
    refine (h.mem_iff q).mpr (Or.inl ?_)
    have hleft := h.leftNear
    have hright := h.rightNear
    rcases (h.mem_iff p).mp hp with hin | ⟨range, hrange, hin⟩ | hin
    · omega
    · have := hf.surroundings.previous range hrange
      omega
    · omega
  -- the ayah before is taken from its end
  · intro p hp hprevious q hq hpq
    obtain ⟨range, hrange, hprange⟩ := (hf.mem_previous p).mp hprevious
    obtain ⟨range', hrange', hqrange⟩ := (hf.mem_previous q).mp hq
    cases Option.mem_unique hrange hrange'
    have hstop := hf.surroundings.previous range hrange
    refine (h.mem_iff q).mpr (Or.inr (Or.inl ⟨range, hrange, ?_⟩))
    rcases (h.mem_iff p).mp hp with hin | ⟨found, hfound, hin⟩ | hin
    · omega
    · cases Option.mem_unique hrange hfound
      omega
    · omega

end

/-- **The local window**: the positions selected around a cursor are as many of the window as
there are places for; among them are the cursor, the symbol before its ayah and those after;
of its ayah they are the nearest, of the ayah before the last. -/
theorem localPositions_window {index : IndexedCorpus} (h : ValidIndex index) (cursorSymbol : ℕ) :
    LocalSelection index.symbols (min cursorSymbol (index.symbols.length - 1))
      (localPositions index cursorSymbol).items := by
  by_cases hempty : index.symbols.length = 0
  · have hnil : index.symbols = [] := List.length_eq_zero_iff.mp hempty
    rw [localPositions]
    dsimp only
    rw [if_pos hempty, hnil]
    exact ⟨List.nodup_nil, by simp, by simp [window, activeAyah, previousAyah, following], by simp,
      by simp [lastBefore], by simp [following],
      by simp [window, activeAyah, previousAyah, following], by simp, by simp⟩
  · have hsize := size_localPositions_le index cursorSymbol
    set cursor := min cursorSymbol (index.symbols.length - 1) with hclamp
    have hcursor : cursor < index.symbols.length := by omega
    obtain ⟨activeRange, hactive, hrun⟩ := ayahRangeAt_valid h hcursor
    have hfound := foundAyahs h hcursor hactive hrun
    obtain ⟨last, hlast, hpositions, hdone⟩ := run_widened hfound.surroundings
      MAX_LOCAL_CANDIDATES (widened_seed hfound.surroundings) (by omega)
    have heq : localPositions index cursorSymbol = last.positions := by
      rw [← hpositions, localPositions]
      dsimp only
      rw [if_neg hempty, ← hclamp, hactive]
    rw [heq] at hsize ⊢
    exact hlast.selection hfound hsize hdone

/-- The selection around the third of five symbols. -/
theorem localPositions_window_five :
    LocalSelection sampleIndex.symbols (min 2 (sampleIndex.symbols.length - 1))
      (localPositions sampleIndex 2).items :=
  localPositions_window (indexCorpus_valid (Fallible.eq_ok_result sampleCorpus_indexed)) 2

end Qaraa
