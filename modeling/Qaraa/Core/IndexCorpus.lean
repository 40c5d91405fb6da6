import Qaraa.Core.WellFormed
import Qaraa.Library.Consecutive

/-!
`packages/core/src/corpus/index-corpus.ts`: the lookup structures of a validated corpus.

* `indexCorpus`: validation, then `buildIndex`: the id maps, the symbol range of each
  word, the range of each ayah and the posting list of each one-to-three-phoneme key.
* `ValidIndex`: an index built from a well-formed corpus; every index `indexCorpus`
  returns is one (`indexCorpus_valid`).
* `ValidIndex.wordRanges_consecutive`: the words' symbol ranges, in word order, partition
  the symbols.
-/

namespace Qaraa

open Fallible Ordered

/-- Read-only lookup structures derived from a validated canonical corpus. -/
structure IndexedCorpus where
  symbolsById : OrderedMap String QuranSymbol
  wordsById : OrderedMap String QuranWord
  symbols : List QuranSymbol
  wordSymbolRanges : OrderedMap String CorpusRange
  ayahSymbolRanges : OrderedMap String CorpusRange
  phonemeNgramPostings : OrderedMap String (List ℕ)

/-- `symbols.slice(start, start + length).map(({ phoneme }) => phoneme).join(' ')`. -/
def ngramKey (symbols : List QuranSymbol) (start length : ℕ) : String :=
  " ".intercalate (((symbols.drop start).take length).map QuranSymbol.phoneme)

/-- Appends a start position to the postings of a key. -/
def addPosting (postings : OrderedMap String (List ℕ)) (key : String) (start : ℕ) :
    OrderedMap String (List ℕ) :=
  match postings.get key with
  | some positions => postings.set key (positions ++ [start])
  | none => postings.set key [start]

/-- The posting lists of all keys of one to three phonemes. -/
def addNgramPostings (symbols : List QuranSymbol) : OrderedMap String (List ℕ) :=
  (List.range symbols.length).foldl (fun postings start =>
    [1, 2, 3].foldl (fun postings length =>
      if start + length ≤ symbols.length then
        addPosting postings (ngramKey symbols start length) start
      else postings) postings) .empty

/-- The key of an ayah's range. -/
def ayahKey (location : QuranLocation) : String :=
  toString location.surah ++ ":" ++ toString location.ayah

/-- Where the run of symbols of `first`'s ayah that begins at `start` stops. -/
def ayahStop (symbols : List QuranSymbol) (first : QuranSymbol) (start : ℕ) : ℕ :=
  start + 1 + ((symbols.drop (start + 1)).takeWhile fun s =>
    s.location.surah == first.location.surah && s.location.ayah == first.location.ayah).length

/-- The loop over the ayah runs. Each round moves `start` forward, so as many rounds as
there are symbols reach the end. -/
def ayahRangesFrom (symbols : List QuranSymbol) :
    ℕ → ℕ → OrderedMap String CorpusRange → OrderedMap String CorpusRange
  | 0, _, ranges => ranges
  | rounds + 1, start, ranges =>
      match symbols[start]? with
      | none => ranges
      | some first =>
          let stop := ayahStop symbols first start
          ayahRangesFrom symbols rounds stop (ranges.set (ayahKey first.location) ⟨start, stop⟩)

/-- The position of each symbol id. -/
def symbolIndexes (symbols : List QuranSymbol) : OrderedMap String ℕ :=
  OrderedMap.ofList (symbols.zipIdx.map fun p => (p.1.id, p.2))

/-- The range from a word's first symbol to its last. -/
def wordRange (indexes : OrderedMap String ℕ) (word : QuranWord) : CorpusRange :=
  ⟨(indexes.get (word.symbolIds.head?.getD "")).getD 0,
    (indexes.get (word.symbolIds.getLast?.getD "")).getD 0 + 1⟩

/-- The lookup structures of a corpus. -/
def buildIndex (corpus : QuranCorpus) : IndexedCorpus where
  symbolsById := OrderedMap.ofList (corpus.symbols.map fun s => (s.id, s))
  wordsById := OrderedMap.ofList (corpus.words.map fun w => (w.id, w))
  symbols := corpus.symbols
  wordSymbolRanges := OrderedMap.ofList
    (corpus.words.map fun w => (w.id, wordRange (symbolIndexes corpus.symbols) w))
  ayahSymbolRanges := ayahRangesFrom corpus.symbols corpus.symbols.length 0 .empty
  phonemeNgramPostings := addNgramPostings corpus.symbols

/-- Builds independent read-only lookup structures from a valid corpus. -/
def indexCorpus (corpus : JsValue) : Except JsError IndexedCorpus := do
  let corpus ← validateCorpus corpus
  return buildIndex corpus

/-! ### Indexes of well-formed corpora -/

/-- An index built from a well-formed corpus. -/
structure ValidIndex (index : IndexedCorpus) : Prop where
  built : ∃ corpus, WellFormedCorpus corpus ∧ index = buildIndex corpus

/-- Every index of an accepted corpus is built from a well-formed corpus. -/
theorem indexCorpus_valid {value : JsValue} {index : IndexedCorpus}
    (h : indexCorpus value = .ok index) : ValidIndex index := by
  simp only [indexCorpus, bind_eq_ok, pure_eq_ok] at h
  obtain ⟨corpus, hcorpus, rfl⟩ := h
  exact ⟨corpus, validateCorpus_wellFormed hcorpus, rfl⟩

lemma symbolIndexes_get {symbols : List QuranSymbol} (h : (symbols.map QuranSymbol.id).Nodup)
    {i : ℕ} {id : String} (hi : (symbols.map QuranSymbol.id)[i]? = some id) :
    (symbolIndexes symbols).get id = some i := by
  rw [List.getElem?_map, Option.map_eq_some_iff] at hi
  obtain ⟨s, hs, rfl⟩ := hi
  refine OrderedMap.get_ofList_of_mem ?_
    (List.mem_map.mpr ⟨(s, i), List.mem_zipIdx_iff_getElem?.mpr hs, rfl⟩)
  have hkeys : (symbols.zipIdx.map fun p => (p.1.id, p.2)).map Prod.fst
      = symbols.map QuranSymbol.id := by
    rw [List.map_map]
    conv_rhs => rw [← List.zipIdx_map_fst 0 symbols, List.map_map]
    rfl
  rw [hkeys]
  exact h

/-- The words' symbol ranges, in word order, partition the symbols. -/
lemma wordRanges_consecutive {corpus : QuranCorpus} (h : WellFormedCorpus corpus) :
    Consecutive (fun w => (wordRange (symbolIndexes corpus.symbols) w).start)
      (fun w => (wordRange (symbolIndexes corpus.symbols) w).stop) 0 corpus.words
      corpus.symbols.length := by
  have hblocks := Consecutive.of_blocks (fun id => ((symbolIndexes corpus.symbols).get id).getD 0)
    (fun i id hid => by rw [symbolIndexes_get h.symbolIds_nodup hid]; rfl) QuranWord.symbolIds
    (fun w hw => (h.words_shaped w hw).symbolIds)
    (fun w _ id hid => show (wordRange (symbolIndexes corpus.symbols) w).start = _ by
      simp [wordRange, Option.mem_def.mp hid])
    (fun w _ id hid => show (wordRange (symbolIndexes corpus.symbols) w).stop = _ by
      simp [wordRange, Option.mem_def.mp hid])
    [] (by simpa using h.references)
  simpa using hblocks

end Qaraa
