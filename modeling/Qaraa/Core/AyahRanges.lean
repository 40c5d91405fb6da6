import Qaraa.Core.LocalPositions

/-!
The ayah ranges of an index, and the local positions they give.

* `ayahKey_inj`: two symbols have one range key exactly when they are in one ayah.
* `IsAyahRange`: the run of symbols of one ayah around a position; `ayahRangeAt_valid`:
  the range stored for a symbol's ayah is that run.
* `mem_localPositions`: the cursor and both its neighbours are among the local positions.
-/

namespace Qaraa

open Ordered

/-! ### Keys -/

/-- Two addresses in one ayah. -/
def SameAyah (a b : QuranLocation) : Prop := a.surah = b.surah ∧ a.ayah = b.ayah

/-- Digits do not contain the separator, so the first separator ends the first number. -/
lemma append_separator_inj {c : Char} {l r l' r' : List Char} (hl : c ∉ l) (hl' : c ∉ l')
    (h : l ++ c :: r = l' ++ c :: r') : l = l' ∧ r = r' := by
  induction l generalizing l' with
  | nil =>
      cases l' with
      | nil => exact ⟨rfl, (List.cons.inj h).2⟩
      | cons d l' => exact absurd (List.cons.inj h).1 fun heq => hl' (heq ▸ List.mem_cons_self)
  | cons d l ih =>
      cases l' with
      | nil => exact absurd (List.cons.inj h).1 fun heq => hl (heq ▸ List.mem_cons_self)
      | cons d' l' =>
          obtain ⟨rfl, hrest⟩ := List.cons.inj h
          obtain ⟨rfl, rfl⟩ := ih (fun hm => hl (List.mem_cons_of_mem _ hm))
            (fun hm => hl' (List.mem_cons_of_mem _ hm)) hrest
          exact ⟨rfl, rfl⟩

lemma separator_notMem (n : ℕ) : ':' ∉ (toString n).toList := by
  rw [Nat.toString_eq_repr, Nat.toList_repr]
  intro hmem
  have hdigit := Nat.isDigit_of_mem_toDigits (by decide) (by decide) hmem
  exact absurd hdigit (by decide)

lemma toString_inj {m n : ℕ} (h : (toString m).toList = (toString n).toList) : m = n := by
  rw [Nat.toString_eq_repr, Nat.toString_eq_repr, Nat.toList_repr, Nat.toList_repr] at h
  rw [← Nat.ofDigitChars_ten_toDigits (n := m), h, Nat.ofDigitChars_ten_toDigits]

lemma ayahKey_inj {a b : QuranLocation} (h : ayahKey a = ayahKey b) : SameAyah a b := by
  have hlist := congrArg String.toList h
  simp only [ayahKey, String.toList_append, List.append_assoc] at hlist
  have hcolon : (":" : String).toList = [':'] := rfl
  rw [hcolon, List.singleton_append, List.singleton_append] at hlist
  obtain ⟨hsurah, hayah⟩ :=
    append_separator_inj (separator_notMem a.surah) (separator_notMem b.surah) hlist
  exact ⟨toString_inj hsurah, toString_inj hayah⟩

/-! ### Runs -/

/-- The run of symbols of one ayah around a position. -/
structure IsAyahRange (symbols : List QuranSymbol) (i : ℕ) (range : CorpusRange) : Prop where
  start_le : range.start ≤ i
  lt_stop : i < range.stop
  stop_le : range.stop ≤ symbols.length
  same : ∀ p s t, symbols[i]? = some s → range.start ≤ p → p < range.stop →
    symbols[p]? = some t → SameAyah s.location t.location
  cut : ∀ p s t, symbols[i]? = some s → p + 1 = range.start → symbols[p]? = some t →
    ¬SameAyah t.location s.location

/-- What the pass over the runs has stored when it reaches `start`. -/
structure AyahPass (symbols : List QuranSymbol) (start : ℕ)
    (ranges : OrderedMap String CorpusRange) : Prop where
  found : ∀ i < start, ∀ s, symbols[i]? = some s →
    ∃ range, ranges.get (ayahKey s.location) = some range ∧ IsAyahRange symbols i range
  cut : ∀ p s t, p + 1 = start → symbols[p]? = some s → symbols[start]? = some t →
    ¬SameAyah s.location t.location

lemma sameAyah_between {a b c : QuranLocation} (hab : compareLocation a b < 0)
    (hbc : compareLocation b c < 0) (hac : SameAyah a c) : SameAyah b c := by
  rw [compareLocation_neg_iff] at hab hbc
  rw [SameAyah] at hac ⊢
  omega

/-- The item after the items taken does not have the property. -/
lemma takeWhile_stop {α : Type*} {p : α → Bool} {l : List α} {x : α}
    (h : l[(l.takeWhile p).length]? = some x) : p x = false := by
  induction l with
  | nil => simp at h
  | cons a l ih =>
      cases hp : p a with
      | false =>
          rw [List.takeWhile_cons_of_neg (by simp [hp])] at h
          cases h
          exact hp
      | true =>
          rw [List.takeWhile_cons_of_pos hp] at h
          exact ih (by simpa using h)

/-- The items taken have the property. -/
lemma takeWhile_mem {α : Type*} {p : α → Bool} {l : List α} {k : ℕ} {x : α}
    (hk : k < (l.takeWhile p).length) (h : l[k]? = some x) : p x = true := by
  induction l generalizing k with
  | nil => simp at h
  | cons a l ih =>
      cases hp : p a with
      | false => simp [hp] at hk
      | true =>
          rw [List.takeWhile_cons_of_pos hp, List.length_cons] at hk
          cases k with
          | zero =>
              cases h
              exact hp
          | succ k => exact ih (Nat.lt_of_succ_lt_succ hk) (by simpa using h)

section

variable {symbols : List QuranSymbol}

/-- The run of an ayah stops where its symbols end. -/
lemma ayahStop_spec {first : QuranSymbol} {start : ℕ} (hfirst : symbols[start]? = some first) :
    start < ayahStop symbols first start ∧ ayahStop symbols first start ≤ symbols.length ∧
      (∀ p t, start ≤ p → p < ayahStop symbols first start → symbols[p]? = some t →
        SameAyah t.location first.location) ∧
      ∀ t, symbols[ayahStop symbols first start]? = some t →
        ¬SameAyah t.location first.location := by
  have hlt := (List.getElem?_eq_some_iff.mp hfirst).1
  rw [ayahStop]
  have htake := List.Sublist.length_le (List.takeWhile_sublist (l := symbols.drop (start + 1))
    fun s => s.location.surah == first.location.surah && s.location.ayah == first.location.ayah)
  rw [List.length_drop] at htake
  refine ⟨by omega, by omega, fun p t hp hps ht => ?_, fun t ht => ?_⟩
  · rcases Nat.eq_or_lt_of_le hp with rfl | hgt
    · rw [hfirst] at ht
      cases ht
      exact ⟨rfl, rfl⟩
    · have hget : (symbols.drop (start + 1))[p - (start + 1)]? = some t := by
        rw [List.getElem?_drop, ← ht]
        congr 1
        omega
      have hmem := takeWhile_mem (p := fun s : QuranSymbol =>
        s.location.surah == first.location.surah && s.location.ayah == first.location.ayah)
        (by omega) hget
      simpa [SameAyah] using hmem
  · have hget : (symbols.drop (start + 1))[((symbols.drop (start + 1)).takeWhile fun s =>
        s.location.surah == first.location.surah
          && s.location.ayah == first.location.ayah).length]? = some t := by
      rw [List.getElem?_drop, ← ht]
    have hstop := takeWhile_stop hget
    intro hsame
    rw [hsame.1, hsame.2] at hstop
    simp at hstop

/-- One run is stored under a key no earlier symbol has. -/
lemma AyahPass.next (hmono : symbols.Pairwise fun a b => compareLocation a.location b.location < 0)
    {start : ℕ} {ranges : OrderedMap String CorpusRange} (h : AyahPass symbols start ranges)
    {first : QuranSymbol} (hfirst : symbols[start]? = some first) :
    AyahPass symbols (ayahStop symbols first start)
      (ranges.set (ayahKey first.location) ⟨start, ayahStop symbols first start⟩) := by
  obtain ⟨hgt, hle, hsame, hcut⟩ := ayahStop_spec hfirst
  have hlt := (List.getElem?_eq_some_iff.mp hfirst).1
  have horder : ∀ {i j : ℕ} {s t : QuranSymbol}, i < j → symbols[i]? = some s →
      symbols[j]? = some t → compareLocation s.location t.location < 0 := by
    intro i j s t hij hs ht
    obtain ⟨hi, rfl⟩ := List.getElem?_eq_some_iff.mp hs
    obtain ⟨hj, rfl⟩ := List.getElem?_eq_some_iff.mp ht
    exact List.pairwise_iff_getElem.mp hmono i j hi hj hij
  have hearlier : ∀ i < start, ∀ s, symbols[i]? = some s →
      ¬SameAyah s.location first.location := by
    intro i hi s hs hss
    obtain ⟨t, ht⟩ : ∃ t, symbols[start - 1]? = some t :=
      ⟨_, List.getElem?_eq_getElem (by omega)⟩
    refine h.cut (start - 1) t first (by omega) ht hfirst ?_
    rcases Nat.eq_or_lt_of_le (Nat.le_sub_one_of_lt hi) with rfl | hi'
    · rw [hs] at ht
      cases ht
      exact hss
    · exact sameAyah_between (horder hi' hs ht) (horder (by omega) ht hfirst) hss
  constructor
  · intro i hi s hs
    by_cases hold : i < start
    · obtain ⟨range, hrange, hrun⟩ := h.found i hold s hs
      refine ⟨range, ?_, hrun⟩
      rw [OrderedMap.get_set_of_ne _ fun heq => hearlier i hold s hs (ayahKey_inj heq)]
      exact hrange
    · have hss := hsame i s (by omega) hi hs
      have hkey : ayahKey s.location = ayahKey first.location := by
        rw [ayahKey, ayahKey, hss.1, hss.2]
      refine ⟨⟨start, ayahStop symbols first start⟩, by rw [hkey, OrderedMap.get_set_self],
        ⟨by dsimp only; omega, hi, hle, ?_, ?_⟩⟩
      · intro p s' t hs' hp hps ht
        rw [hs] at hs'
        cases hs'
        have htt := hsame p t hp hps ht
        exact ⟨hss.1.trans htt.1.symm, hss.2.trans htt.2.symm⟩
      · intro p s' t hs' hp ht hts
        rw [hs] at hs'
        cases hs'
        exact h.cut p t first hp ht hfirst ⟨hts.1.trans hss.1, hts.2.trans hss.2⟩
  · intro p s t hp hs ht hst
    have hss := hsame p s (by omega) (by omega) hs
    exact hcut t ht ⟨hst.1.symm.trans hss.1, hst.2.symm.trans hss.2⟩

/-- The pass over the runs finds every ayah. -/
lemma ayahRangesFrom_spec
    (hmono : symbols.Pairwise fun a b => compareLocation a.location b.location < 0)
    (rounds start : ℕ) (ranges : OrderedMap String CorpusRange)
    (h : AyahPass symbols start ranges) (hrounds : symbols.length ≤ start + rounds) {i : ℕ}
    {s : QuranSymbol} (hs : symbols[i]? = some s) :
    ∃ range, (ayahRangesFrom symbols rounds start ranges).get (ayahKey s.location) = some range ∧
      IsAyahRange symbols i range := by
  have hi := (List.getElem?_eq_some_iff.mp hs).1
  induction rounds generalizing start ranges with
  | zero => exact h.found i (by omega) s hs
  | succ rounds ih =>
      rw [ayahRangesFrom]
      cases hfirst : symbols[start]? with
      | none =>
          have hend := List.getElem?_eq_none_iff.mp hfirst
          exact h.found i (by omega) s hs
      | some first =>
          have hgt := (ayahStop_spec hfirst).1
          exact ih _ _ (h.next hmono hfirst) (by omega)

end

/-- The range stored for a symbol's ayah is the run around it. -/
lemma ayahRangeAt_valid {index : IndexedCorpus} (h : ValidIndex index) {i : ℕ}
    (hi : i < index.symbols.length) :
    ∃ range, ayahRangeAt index i = some range ∧ IsAyahRange index.symbols i range := by
  obtain ⟨corpus, hcorpus, rfl⟩ := h.built
  obtain ⟨s, hs⟩ : ∃ s, (buildIndex corpus).symbols[i]? = some s :=
    ⟨_, List.getElem?_eq_getElem hi⟩
  obtain ⟨range, hrange, hrun⟩ := ayahRangesFrom_spec hcorpus.symbols_monotone
    corpus.symbols.length 0 .empty ⟨fun i hi => absurd hi (by omega), fun p s t hp => by omega⟩
    (by omega) hs
  refine ⟨range, ?_, hrun⟩
  rw [ayahRangeAt, hs]
  exact hrange

/-- The run before another one stops where that one starts. -/
lemma IsAyahRange.previous_stop {symbols : List QuranSymbol} {i p : ℕ}
    {range previous : CorpusRange} (h : IsAyahRange symbols i range) (hi : i < symbols.length)
    (hp : p + 1 = range.start) (h' : IsAyahRange symbols p previous) :
    previous.stop = range.start := by
  have hlt := h'.lt_stop
  have hstart := h.start_le
  have hstop := h.lt_stop
  by_contra hne
  obtain ⟨s, hs⟩ : ∃ s, symbols[i]? = some s := ⟨_, List.getElem?_eq_getElem hi⟩
  obtain ⟨t, ht⟩ : ∃ t, symbols[p]? = some t := ⟨_, List.getElem?_eq_getElem (by omega)⟩
  obtain ⟨u, hu⟩ : ∃ u, symbols[range.start]? = some u :=
    ⟨_, List.getElem?_eq_getElem (by omega)⟩
  have hsu := h.same range.start s u hs le_rfl (by omega) hu
  have htu := h'.same range.start t u ht (by have := h'.start_le; omega) (by omega) hu
  exact h.cut p s t hs hp ht ⟨htu.1.trans hsu.1.symm, htu.2.trans hsu.2.symm⟩

/-! ### Neighbours -/

section

variable {n cursor : ℕ} {activeRange : CorpusRange} {previousRange : Option CorpusRange}

lemma seedPositions_eq (n cursor : ℕ) (activeRange : CorpusRange)
    (previousRange : Option CorpusRange) :
    seedPositions n cursor activeRange previousRange
      = addPosition n (addPosition n (addPosition n (previousRange.elim
          (addPosition n .empty cursor) fun range =>
            addPosition n (addPosition n .empty cursor) ((range.stop : ℤ) - 1))
          ((activeRange.stop + 0 : ℕ) : ℤ)) ((activeRange.stop + 1 : ℕ) : ℤ))
        ((activeRange.stop + 2 : ℕ) : ℤ) := by
  simp only [seedPositions, FORWARD_PHONEME_COUNT, List.range_succ, List.range_zero,
    List.nil_append, List.cons_append, List.foldl_cons, List.foldl_nil]
  cases previousRange with
  | none => rfl
  | some range => rfl

/-- At most five positions are added before the selection widens. -/
lemma size_seedPositions_le (n cursor : ℕ) (activeRange : CorpusRange)
    (previousRange : Option CorpusRange) :
    (seedPositions n cursor activeRange previousRange).size ≤ 5 := by
  have hcursor := size_addPosition_le n .empty cursor
  have hprevious : (previousRange.elim (addPosition n .empty cursor) fun range =>
      addPosition n (addPosition n .empty cursor) ((range.stop : ℤ) - 1)).size ≤ 2 := by
    cases previousRange with
    | none => exact le_trans hcursor (by decide)
    | some range => exact le_trans (size_addPosition_le _ _ _) (by
        have hempty : (OrderedSet.empty : OrderedSet ℕ).size = 0 := rfl
        omega)
  rw [seedPositions_eq]
  refine le_trans (size_addPosition_le _ _ _) ?_
  have h1 := size_addPosition_le n (addPosition n (previousRange.elim (addPosition n .empty cursor)
    fun range => addPosition n (addPosition n .empty cursor) ((range.stop : ℤ) - 1))
      ((activeRange.stop + 0 : ℕ) : ℤ)) ((activeRange.stop + 1 : ℕ) : ℤ)
  have h0 := size_addPosition_le n (previousRange.elim (addPosition n .empty cursor)
    fun range => addPosition n (addPosition n .empty cursor) ((range.stop : ℤ) - 1))
      ((activeRange.stop + 0 : ℕ) : ℤ)
  omega

/-- The positions added before the selection widens. -/
lemma mem_seedPositions {p : ℕ} (h : p ∈ (seedPositions n cursor activeRange previousRange).items) :
    p = cursor ∨ (∃ range ∈ previousRange, p + 1 = range.stop) ∨ activeRange.stop ≤ p := by
  rw [seedPositions_eq] at h
  rcases mem_of_mem_addPosition h with h | h
  · rcases mem_of_mem_addPosition h with h | h
    · rcases mem_of_mem_addPosition h with h | h
      · cases previousRange with
        | none =>
            rcases mem_of_mem_addPosition h with h | h
            · simp at h
            · exact Or.inl (by omega)
        | some range =>
            rcases mem_of_mem_addPosition h with h | h
            · rcases mem_of_mem_addPosition h with h | h
              · simp at h
              · exact Or.inl (by omega)
            · exact Or.inr (Or.inl ⟨range, rfl, by omega⟩)
      · exact Or.inr (Or.inr (by omega))
    · exact Or.inr (Or.inr (by omega))
  · exact Or.inr (Or.inr (by omega))

lemma mem_seedPositions_cursor (hcursor : cursor < n) :
    cursor ∈ (seedPositions n cursor activeRange previousRange).items := by
  have hself : cursor ∈ (addPosition n .empty cursor).items :=
    mem_addPosition_self hcursor (by decide) rfl
  rw [seedPositions_eq]
  refine mem_addPosition_of_mem (mem_addPosition_of_mem (mem_addPosition_of_mem ?_ _) _) _
  cases previousRange with
  | none => exact hself
  | some range => exact mem_addPosition_of_mem hself _

lemma mem_seedPositions_previous {range : CorpusRange} {p : ℕ} (hp : p + 1 = range.stop)
    (hlt : p < n) : p ∈ (seedPositions n cursor activeRange (some range)).items := by
  have hsize := size_addPosition_le n .empty cursor
  have hempty : (OrderedSet.empty : OrderedSet ℕ).size = 0 := rfl
  rw [seedPositions_eq]
  refine mem_addPosition_of_mem (mem_addPosition_of_mem (mem_addPosition_of_mem ?_ _) _) _
  exact mem_addPosition_self hlt (by rw [MAX_LOCAL_CANDIDATES]; omega) (by omega)

lemma mem_seedPositions_next (hlt : activeRange.stop < n) :
    activeRange.stop ∈ (seedPositions n cursor activeRange previousRange).items := by
  have hcursor := size_addPosition_le n .empty cursor
  have hempty : (OrderedSet.empty : OrderedSet ℕ).size = 0 := rfl
  rw [seedPositions_eq]
  refine mem_addPosition_of_mem (mem_addPosition_of_mem ?_ _) _
  refine mem_addPosition_self hlt ?_ (by omega)
  cases previousRange with
  | none => exact lt_of_le_of_lt hcursor (by rw [MAX_LOCAL_CANDIDATES]; omega)
  | some range => exact lt_of_le_of_lt (size_addPosition_le _ _ _) (by
      rw [MAX_LOCAL_CANDIDATES]
      omega)

end

namespace LocalWalk

variable (n : ℕ) (cursor : ℤ) (activeRange : CorpusRange) (previousRange : Option CorpusRange)

/-- The half round in the ayah before only adds positions. -/
lemma stepPrevious_spec (walk : LocalWalk) :
    (∀ p ∈ walk.positions.items, p ∈ (walk.stepPrevious n previousRange).positions.items) ∧
      (walk.stepPrevious n previousRange).positions.size ≤ walk.positions.size + 1 ∧
      (walk.stepPrevious n previousRange).activeLeft = walk.activeLeft ∧
      (walk.stepPrevious n previousRange).activeRight = walk.activeRight := by
  cases previousRange with
  | none => exact ⟨fun _ h => h, Nat.le_succ _, rfl, rfl⟩
  | some range =>
      rw [stepPrevious]
      split
      · exact ⟨fun _ h => mem_addPosition_of_mem h _, size_addPosition_le _ _ _, rfl, rfl⟩
      · exact ⟨fun _ h => h, Nat.le_succ _, rfl, rfl⟩

lemma keptByAdd_mem (p : ℕ) : KeptByAdd n fun positions => p ∈ positions.items :=
  fun _ position h => mem_addPosition_of_mem h position

/-- What the first half round adds is selected. -/
lemma mem_run_succ {walk : LocalWalk} {p : ℕ} (hroom : walk.positions.size < MAX_LOCAL_CANDIDATES)
    (h : p ∈ (walk.stepActive n cursor activeRange).positions.items) (rounds : ℕ) :
    p ∈ (run n cursor activeRange previousRange (rounds + 1) walk).items := by
  have hnext := (stepPrevious_spec n previousRange _).1 p h
  rw [run, if_pos hroom]
  dsimp only
  split
  · exact hnext
  · exact (keptByAdd_mem n p).run hnext cursor activeRange previousRange rounds

/-- The round goes on when it has added a position. -/
lemma run_succ {walk : LocalWalk} (hroom : walk.positions.size < MAX_LOCAL_CANDIDATES)
    (hgrow : walk.positions.size
      < ((walk.stepActive n cursor activeRange).stepPrevious n previousRange).positions.size)
    (rounds : ℕ) :
    run n cursor activeRange previousRange (rounds + 1) walk
      = run n cursor activeRange previousRange rounds
        ((walk.stepActive n cursor activeRange).stepPrevious n previousRange) := by
  rw [run, if_pos hroom]
  dsimp only
  rw [if_neg (by omega)]

/-- Backward goes before forward at the same distance. -/
lemma stepActive_left {walk : LocalWalk} (hleft : walk.activeLeft = cursor - 1)
    (hright : walk.activeRight = cursor + 1) (hstart : (activeRange.start : ℤ) < cursor) :
    walk.stepActive n cursor activeRange = walk.addLeft n := by
  rw [stepActive, if_pos (by omega), if_neg (by omega)]
  split
  · rfl
  · rw [if_pos]
    rw [hleft, hright, compareAroundCursor]
    dsimp only
    rw [if_neg (by omega), if_pos (by omega)]
    omega

/-- Forward comes when everything nearer behind is selected. -/
lemma stepActive_right {walk : LocalWalk} (hright : walk.activeRight = cursor + 1)
    (hstop : cursor + 1 < activeRange.stop)
    (hleft : walk.activeLeft < activeRange.start ∨ walk.activeLeft = cursor - 2) :
    walk.stepActive n cursor activeRange = walk.addRight n := by
  rw [stepActive, if_pos (by omega)]
  split
  · rfl
  · rw [if_neg (by omega), if_neg]
    rw [hleft.resolve_left (by assumption), hright, compareAroundCursor]
    dsimp only
    rw [if_pos (by omega)]
    omega

lemma size_le_of_subset {s t : OrderedSet ℕ} (h : ∀ p ∈ s.items, p ∈ t.items) :
    s.size ≤ t.size :=
  (List.subperm_of_subset s.nodup h).length_le

/-- The neighbour behind is selected in the first round. -/
lemma mem_run_behind {walk : LocalWalk} {p : ℕ} (hp : p < n) (hbehind : (p : ℤ) = cursor - 1)
    (hleft : walk.activeLeft = cursor - 1) (hright : walk.activeRight = cursor + 1)
    (hroom : walk.positions.size < MAX_LOCAL_CANDIDATES)
    (hstart : (activeRange.start : ℤ) < cursor) (rounds : ℕ) :
    p ∈ (run n cursor activeRange previousRange (rounds + 1) walk).items := by
  refine mem_run_succ n cursor activeRange previousRange hroom ?_ rounds
  rw [stepActive_left n cursor activeRange hleft hright hstart]
  exact mem_addPosition_self hp hroom (by omega)

/-- The neighbour ahead is selected in the first round, or in the second after the one
behind. -/
lemma mem_run_ahead {walk : LocalWalk} {p : ℕ} (hp : p < n) (hahead : (p : ℤ) = cursor + 1)
    (hleft : walk.activeLeft = cursor - 1) (hright : walk.activeRight = cursor + 1)
    (hroom : walk.positions.size + 2 < MAX_LOCAL_CANDIDATES)
    (hnew : ∀ q ∈ walk.positions.items, (activeRange.start : ℤ) < cursor → (q : ℤ) ≠ cursor - 1)
    (hstop : cursor + 1 < activeRange.stop) (rounds : ℕ) :
    p ∈ (run n cursor activeRange previousRange (rounds + 1 + 1) walk).items := by
  by_cases hstart : (activeRange.start : ℤ) < cursor
  · obtain ⟨hsub, hsize, hl, hr⟩ := stepPrevious_spec n previousRange (walk.addLeft n)
    have hadd := stepActive_left n cursor activeRange hleft hright hstart
    obtain ⟨q, hq⟩ : ∃ q : ℕ, (q : ℤ) = cursor - 1 := ⟨(cursor - 1).toNat, by omega⟩
    have hgrow : (walk.addLeft n).positions.size = walk.positions.size + 1 := by
      rw [addLeft]
      dsimp only
      rw [hleft, ← hq]
      exact size_addPosition_of_notMem (by omega) (by omega) fun hmem => hnew q hmem hstart hq
    have hsub' := size_le_of_subset hsub
    rw [run_succ n cursor activeRange previousRange (by omega) (by rw [hadd]; omega), hadd]
    refine mem_run_succ n cursor activeRange previousRange (by omega) ?_ rounds
    have hl' : ((walk.addLeft n).stepPrevious n previousRange).activeLeft = cursor - 2 := by
      rw [hl, addLeft]
      dsimp only
      omega
    rw [stepActive_right n cursor activeRange (hr.trans hright) hstop (Or.inr hl')]
    exact mem_addPosition_self hp (by omega) (by rw [hr, addLeft]; dsimp only; omega)
  · refine mem_run_succ n cursor activeRange previousRange (by omega) ?_ (rounds + 1)
    rw [stepActive_right n cursor activeRange hright hstop (Or.inl (by omega))]
    exact mem_addPosition_self hp (by omega) (by omega)

end LocalWalk

/-- **The cursor and both its neighbours are local positions.** -/
theorem mem_localPositions {index : IndexedCorpus} (hvalid : ValidIndex index) {cursor p : ℕ}
    (hcursor : cursor < index.symbols.length) (hp : p < index.symbols.length)
    (hnear : p = cursor ∨ p + 1 = cursor ∨ p = cursor + 1) :
    p ∈ (localPositions index cursor).items := by
  obtain ⟨range, hrange, hrun⟩ := ayahRangeAt_valid hvalid hcursor
  have hclamp : min cursor (index.symbols.length - 1) = cursor := by omega
  have hstart := hrun.start_le
  have hstop := hrun.lt_stop
  have hmax : MAX_LOCAL_CANDIDATES = 46 + 1 + 1 := rfl
  -- no attempt to close the goal by evaluating the walk
  rewrite [localPositions]
  dsimp only
  rewrite [if_neg (by omega), hclamp, hrange]
  dsimp only
  have hprevious : ∀ previous ∈ (if 0 < range.start then ayahRangeAt index (range.start - 1)
      else none), previous.stop = range.start := by
    intro previous hprev
    split at hprev
    · obtain ⟨found, hfound, hrun'⟩ := ayahRangeAt_valid (i := range.start - 1) hvalid (by omega)
      rw [hfound] at hprev
      cases hprev
      exact hrun.previous_stop hcursor (by omega) hrun'
    · cases hprev
  have hbefore : 0 < range.start → ∃ previous, (if 0 < range.start then
      ayahRangeAt index (range.start - 1) else none) = some previous := by
    intro hpos
    obtain ⟨found, hfound, -⟩ := ayahRangeAt_valid (i := range.start - 1) hvalid (by omega)
    exact ⟨found, by rw [if_pos hpos, hfound]⟩
  generalize (if 0 < range.start then ayahRangeAt index (range.start - 1) else none)
    = previousRange at hprevious hbefore ⊢
  have hseed := size_seedPositions_le index.symbols.length cursor range previousRange
  rewrite [hmax]
  rcases hnear with rfl | hbehind | rfl
  · exact (LocalWalk.keptByAdd_mem _ _).run (mem_seedPositions_cursor hp) _ _ _ _
  · by_cases hfirst : range.start = cursor
    · -- the symbol before an ayah is the last of the ayah before
      obtain ⟨previous, rfl⟩ := hbefore (by omega)
      have hstop' : p + 1 = previous.stop := by
        have := hprevious previous rfl
        omega
      refine (LocalWalk.keptByAdd_mem _ _).run ?_ _ _ _ _
      dsimp only
      exact mem_seedPositions_previous hstop' hp
    · exact LocalWalk.mem_run_behind _ _ _ _ hp (by omega) rfl rfl (by rw [hmax]; dsimp only; omega)
        (by omega) _
  · by_cases hlast : range.stop = cursor + 1
    · refine (LocalWalk.keptByAdd_mem _ _).run ?_ _ _ _ _
      rewrite [← hlast]
      exact mem_seedPositions_next (by omega)
    · refine LocalWalk.mem_run_ahead _ _ _ _ hp (by omega) rfl rfl (by rw [hmax]; dsimp only; omega)
        (fun q hq hlt heq => ?_) (by omega) _
      rcases mem_seedPositions hq with rfl | ⟨previous, hprev, hq'⟩ | hq'
      · omega
      · have := hprevious previous hprev
        omega
      · omega

end Qaraa
