import Qaraa.Core.ReadingTracker
import Qaraa.Library.Loop

/-!
The corpus data a tracker captures, for a valid corpus.

* `orderedWords_eq`: sorting the words changes nothing, they already come in the order of
  their ranges.
* `ValidConfig`: what `createReadingTracker` captures: words that partition the symbols,
  found again by id (`ValidConfig.word_iff`) and by symbol (`ValidConfig.wordAt`).
* `createReadingTracker_valid`: every created tracker has a valid configuration.
-/

namespace Qaraa

open Fallible Ordered

/-! ### Words in order -/

/-- The words of a corpus with their symbol ranges. -/
def rangedWords (corpus : QuranCorpus) : List OrderedWord :=
  corpus.words.map fun word => ⟨word, wordRange (symbolIndexes corpus.symbols) word⟩

lemma rangedWords_consecutive {corpus : QuranCorpus} (h : WellFormedCorpus corpus) :
    Consecutive (fun w => w.range.start) (fun w => w.range.stop) 0 (rangedWords corpus)
      corpus.symbols.length :=
  (wordRanges_consecutive h).map_left fun _ _ => ⟨rfl, rfl⟩

/-- Sorting the words of a valid corpus changes nothing. -/
lemma orderedWords_eq {corpus : QuranCorpus} (h : WellFormedCorpus corpus) :
    orderedWords (buildIndex corpus) = rangedWords corpus := by
  have hids : (corpus.words.map fun w => (w.id, w)).map Prod.fst
      = corpus.words.map QuranWord.id := by
    rw [List.map_map]
    rfl
  have hvalues : (buildIndex corpus).wordsById.values = corpus.words := by
    rw [buildIndex, OrderedMap.values_ofList (hids ▸ h.wordIds_nodup), List.map_map]
    exact List.map_id _
  have hget : ∀ w ∈ corpus.words, (buildIndex corpus).wordSymbolRanges.get w.id
      = some (wordRange (symbolIndexes corpus.symbols) w) := by
    intro w hw
    refine OrderedMap.get_ofList_of_mem ?_ (List.mem_map.mpr ⟨w, hw, rfl⟩)
    rw [List.map_map]
    exact h.wordIds_nodup
  have hmap : (corpus.words.map fun word =>
      (⟨word, ((buildIndex corpus).wordSymbolRanges.get word.id).getD ⟨0, 0⟩⟩ : OrderedWord))
      = rangedWords corpus := by
    refine List.map_congr_left fun w hw => ?_
    rw [hget w hw]
    rfl
  rw [orderedWords, hvalues, hmap]
  refine List.Pairwise.insertionSort_eq ((rangedWords_consecutive h).pairwise_start.imp ?_)
  intro a b hab
  omega

/-! ### The word of a symbol -/

lemma getElem?_fillRange {α : Type*} (value : α) (start count : ℕ) (result : List α) (i : ℕ) :
    ((List.range' start count).foldl (fun result k => result.set k value) result)[i]?
      = if start ≤ i ∧ i < start + count ∧ i < result.length then some value else result[i]? := by
  induction count generalizing start result with
  | zero =>
      rw [if_neg (by omega)]
      rfl
  | succ count ih =>
      rw [List.range'_succ, List.foldl_cons, ih, List.length_set]
      by_cases hi : start = i
      · subst hi
        by_cases hlt : start < result.length
        · rw [if_neg (by omega), List.getElem?_set_self hlt, if_pos (by omega)]
        · rw [if_neg (by omega), if_neg (by omega), List.getElem?_eq_none (by simpa using hlt),
            List.getElem?_eq_none (by simpa using hlt)]
      · rw [List.getElem?_set_ne hi]
        exact if_congr (by omega) rfl rfl

lemma length_fillRange {α : Type*} (value : α) (start count : ℕ) (result : List α) :
    ((List.range' start count).foldl (fun result k => result.set k value) result).length
      = result.length := by
  induction count generalizing start result with
  | zero => rfl
  | succ count ih => rw [List.range'_succ, List.foldl_cons, ih, List.length_set]

lemma wordIdsBySymbol_length (corpus : IndexedCorpus) (words : List OrderedWord) :
    (wordIdsBySymbol corpus words).length = corpus.symbols.length := by
  refine Loop.foldl_induction
    (P := fun _ (result : List (Option String)) => result.length = corpus.symbols.length)
    List.length_replicate fun _ ordered result _ hlen => ?_
  rw [length_fillRange]
  exact hlen

/-- Filling in the words one after the other leaves each symbol with its own word. -/
lemma getElem?_fillWords {words : List OrderedWord} {a b : ℕ}
    (h : Consecutive (fun w => w.range.start) (fun w => w.range.stop) a words b)
    (result : List (Option String)) (hb : b ≤ result.length) (i : ℕ) :
    let filled := words.foldl (fun result ordered =>
      (List.range' ordered.range.start (ordered.range.stop - ordered.range.start)).foldl
        (fun result symbolIndex => result.set symbolIndex (some ordered.word.id)) result) result
    (i < a → filled[i]? = result[i]?) ∧
      ∀ w ∈ words, w.range.start ≤ i → i < w.range.stop → filled[i]? = some (some w.word.id) := by
  induction words generalizing a result with
  | nil => exact ⟨fun _ => rfl, fun w hw => by simp at hw⟩
  | cons x xs ih =>
      obtain ⟨hlo, hlt, hrest⟩ := h
      have hle := hrest.le
      dsimp only at hlo hlt hrest hle
      obtain ⟨hbefore, hwords⟩ := ih hrest
        ((List.range' x.range.start (x.range.stop - x.range.start)).foldl
          (fun result symbolIndex => result.set symbolIndex (some x.word.id)) result)
        (by rw [length_fillRange]; exact hb)
      rw [getElem?_fillRange] at hbefore
      refine ⟨fun hi => ?_, fun w hw hstart hstop => ?_⟩
      · rw [List.foldl_cons, hbefore (by omega), if_neg (by omega)]
      · rcases List.mem_cons.mp hw with rfl | hw
        · rw [List.foldl_cons, hbefore hstop, if_pos (by omega)]
        · exact hwords w hw hstart hstop

/-! ### Tracker configurations -/

/-- The words of the tracked corpus, in order. -/
def TrackerConfig.words (config : TrackerConfig) : List OrderedWord := orderedWords config.corpus

/-- What `createReadingTracker` captures for a valid corpus: words that partition the
symbols, found by id and by symbol, and symbols told apart by their locations. -/
structure ValidConfig (config : TrackerConfig) : Prop where
  nonempty : 0 < config.corpus.symbols.length
  partition : Consecutive (fun w => w.range.start) (fun w => w.range.stop) 0 config.words
    config.corpus.symbols.length
  wordIds_nodup : (config.words.map fun w => w.word.id).Nodup
  wordIds_ne : ∀ w ∈ config.words, w.word.id ≠ ""
  range_iff : ∀ id range, config.corpus.wordSymbolRanges.get id = some range ↔
    ∃ w ∈ config.words, w.word.id = id ∧ w.range = range
  word_iff : ∀ id w, config.orderedWordsById.get id = some w ↔ w ∈ config.words ∧ w.word.id = id
  wordAt : ∀ w ∈ config.words, ∀ i, w.range.start ≤ i → i < w.range.stop →
    config.symbolWordIds[i]? = some (some w.word.id)
  wordAt_none : ∀ i, config.corpus.symbols.length ≤ i → config.symbolWordIds[i]? = none
  locations : config.corpus.symbols.Pairwise fun a b => a.location ≠ b.location

/-- A successful creation, taken apart. -/
lemma createReadingTracker_ok {options : ReadingTrackerOptions} {config : TrackerConfig}
    {state : TrackerState} (h : createReadingTracker options = .ok (config, state)) :
    0 < options.corpus.symbols.length ∧ config.corpus = options.corpus ∧
      config.symbolWordIds = (prepareTrackerCorpus options.corpus).symbolWordIds ∧
      config.orderedWordsById = (prepareTrackerCorpus options.corpus).orderedWordsById ∧
      ∃ i, symbolIndexAt config.corpus config.defaultInitialLocation = .ok i ∧
        state = TrackerState.initial i 0 config.defaultInitialLocation := by
  rw [createReadingTracker] at h
  cases hfirst : options.corpus.symbols.head? with
  | none => simp [hfirst] at h
  | some first =>
      simp only [hfirst, bind_eq_ok, pure_eq_ok, Prod.mk.injEq] at h
      obtain ⟨mode, -, i, hi, rfl, rfl⟩ := h
      have hne : options.corpus.symbols ≠ [] := by
        rintro hnil
        simp [hnil] at hfirst
      exact ⟨List.length_pos_iff.mpr hne, rfl, rfl, rfl, i, hi, rfl⟩

/-- **Every created tracker has a valid configuration.** -/
theorem createReadingTracker_valid {options : ReadingTrackerOptions} {config : TrackerConfig}
    {state : TrackerState} (hindex : ValidIndex options.corpus)
    (h : createReadingTracker options = .ok (config, state)) : ValidConfig config := by
  obtain ⟨corpus, hcorpus, hbuilt⟩ := hindex
  obtain ⟨hpos, hconfig, hsymbols, hwords, -⟩ := createReadingTracker_ok h
  -- sorting the words by their first symbols leaves a valid corpus as it is
  have hlist : config.words = rangedWords corpus := by
    rw [TrackerConfig.words, hconfig, hbuilt, orderedWords_eq hcorpus]
  have hlen : config.corpus.symbols.length = corpus.symbols.length := by
    rw [hconfig, hbuilt]
    rfl
  have hpartition := rangedWords_consecutive hcorpus
  have hids : ((rangedWords corpus).map fun w => w.word.id) = corpus.words.map QuranWord.id := by
    rw [rangedWords, List.map_map]
    rfl
  have hnodup : ((rangedWords corpus).map fun w => w.word.id).Nodup := by
    rw [hids]
    exact hcorpus.wordIds_nodup
  have hmem : ∀ w ∈ rangedWords corpus, w.word ∈ corpus.words ∧
      w.range = wordRange (symbolIndexes corpus.symbols) w.word := by
    intro w hw
    obtain ⟨word, hword, rfl⟩ := List.mem_map.mp hw
    exact ⟨hword, rfl⟩
  have hkeys : ((rangedWords corpus).map fun w => (w.word.id, w)).map Prod.fst
      = (rangedWords corpus).map fun w => w.word.id := by
    rw [List.map_map]
    rfl
  refine ⟨by rw [hconfig]; exact hpos, by rw [hlist, hlen]; exact hpartition,
    by rw [hlist]; exact hnodup, ?_, ?_, ?_, ?_, ?_, ?_⟩
  · intro w hw hempty
    rw [hlist] at hw
    have hshape := (hcorpus.words_shaped w.word (hmem w hw).1).id
    rw [hempty] at hshape
    exact absurd hshape (by decide)
  · intro id range
    have hranges : ((corpus.words.map fun w =>
        (w.id, wordRange (symbolIndexes corpus.symbols) w)).map Prod.fst).Nodup := by
      rw [List.map_map]
      exact hcorpus.wordIds_nodup
    rw [hconfig, hbuilt, buildIndex, OrderedMap.get_eq_some_iff,
      OrderedMap.ofList_entries hranges, hlist]
    constructor
    · intro h
      obtain ⟨word, hword, heq⟩ := List.mem_map.mp h
      cases heq
      exact ⟨_, List.mem_map.mpr ⟨word, hword, rfl⟩, rfl, rfl⟩
    · rintro ⟨w, hw, rfl, rfl⟩
      obtain ⟨hword, hrange⟩ := hmem w hw
      rw [hrange]
      exact List.mem_map.mpr ⟨w.word, hword, rfl⟩
  · intro id w
    rw [hwords, prepareTrackerCorpus, hbuilt, orderedWords_eq hcorpus, hlist,
      OrderedMap.get_eq_some_iff, OrderedMap.ofList_entries (by rw [hkeys]; exact hnodup)]
    constructor
    · intro h
      obtain ⟨v, hv, heq⟩ := List.mem_map.mp h
      cases heq
      exact ⟨hv, rfl⟩
    · rintro ⟨hw, rfl⟩
      exact List.mem_map.mpr ⟨w, hw, rfl⟩
  · intro w hw i hstart hstop
    rw [hlist] at hw
    rw [hsymbols, prepareTrackerCorpus, hbuilt, orderedWords_eq hcorpus]
    exact (getElem?_fillWords hpartition (List.replicate (buildIndex corpus).symbols.length none)
      (by rw [List.length_replicate]; exact le_rfl) i).2 w hw hstart hstop
  · intro i hi
    rw [hsymbols, prepareTrackerCorpus, ← hconfig]
    exact List.getElem?_eq_none (by rw [wordIdsBySymbol_length]; exact hi)
  · rw [hconfig, hbuilt]
    -- locations increase strictly, so they tell symbols apart
    refine hcorpus.symbols_monotone.imp fun {a b} hab heq => ?_
    rw [heq] at hab
    simp [compareLocation] at hab

end Qaraa
