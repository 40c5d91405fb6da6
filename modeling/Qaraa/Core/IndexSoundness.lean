import Qaraa.Core.AyahRanges
import Qaraa.Core.SampleCorpus

/-!
What the lookup structures of an accepted corpus hold.

* `wordRange_iff`: a word's range holds the symbols at the word's address.
* `AyahEntries`: the invariant of the pass over the ayah runs: the ranges stored so far
  partition the symbols already seen, one range an ayah.
* `postings_eq`: the posting list of a key is the list of the starts where one, two or
  three phonemes join to the key; a start is listed once, since its three keys have
  different lengths.
* `indexCorpus_correct`: **the index of an accepted corpus is correct**.
-/

namespace Qaraa

open Fallible Ordered

/-! ### Word ranges -/

/-- A word's symbols have their positions in the word's range. -/
lemma mem_wordRange {corpus : QuranCorpus} (h : WellFormedCorpus corpus) {word : QuranWord}
    (hword : word ∈ corpus.words) {id : String} (hid : id ∈ word.symbolIds) :
    (wordRange (symbolIndexes corpus.symbols) word).start
        ≤ ((symbolIndexes corpus.symbols).get id).getD 0 ∧
      ((symbolIndexes corpus.symbols).get id).getD 0
        < (wordRange (symbolIndexes corpus.symbols) word).stop := by
  have hsorted : (corpus.symbols.map QuranSymbol.id).Pairwise fun a b =>
      ((symbolIndexes corpus.symbols).get a).getD 0
        < ((symbolIndexes corpus.symbols).get b).getD 0 := by
    refine List.pairwise_iff_getElem.mpr fun i j hi hj hij => ?_
    rw [symbolIndexes_get h.symbolIds_nodup (List.getElem?_eq_getElem hi),
      symbolIndexes_get h.symbolIds_nodup (List.getElem?_eq_getElem hj)]
    exact hij
  rw [← h.references] at hsorted
  have hids := (List.pairwise_flatMap.mp hsorted).1 word hword
  constructor
  · cases hlist : word.symbolIds with
    | nil => simp [hlist] at hid
    | cons first rest =>
        rw [hlist] at hid hids
        simp only [wordRange, hlist, List.head?_cons, Option.getD_some]
        rcases List.mem_cons.mp hid with rfl | hrest
        · exact le_rfl
        · exact ((List.pairwise_cons.mp hids).1 id hrest).le
  · rcases List.eq_nil_or_concat word.symbolIds with hlist | ⟨init, last, hlist⟩
    · simp [hlist] at hid
    · rw [List.concat_eq_append] at hlist
      rw [hlist] at hid hids
      simp only [wordRange, hlist, List.getLast?_append, List.getLast?_singleton,
        Option.some_or, Option.getD_some]
      rcases List.mem_append.mp hid with hinit | hlast
      · have hlt := (List.pairwise_append.mp hids).2.2 id hinit last (by simp)
        omega
      · rw [List.mem_singleton.mp hlast]
        exact Nat.lt_succ_self _

/-- A word's range holds the symbols at the word's address, and no others. -/
lemma wordRange_iff {corpus : QuranCorpus} (h : WellFormedCorpus corpus) {word : QuranWord}
    (hword : word ∈ corpus.words) {i : ℕ} {s : QuranSymbol} (hs : corpus.symbols[i]? = some s) :
    (wordRange (symbolIndexes corpus.symbols) word).start ≤ i ∧
        i < (wordRange (symbolIndexes corpus.symbols) word).stop ↔
      s.location.toWord = word.location := by
  have hmem : s ∈ corpus.symbols := List.mem_of_getElem? hs
  have hindex : (symbolIndexes corpus.symbols).get s.id = some i :=
    symbolIndexes_get h.symbolIds_nodup (by rw [List.getElem?_map, hs]; rfl)
  -- the word that references the symbol
  obtain ⟨own, hown, hid⟩ : ∃ own ∈ corpus.words, s.id ∈ own.symbolIds := by
    refine List.mem_flatMap.mp ?_
    rw [h.references]
    exact List.mem_map_of_mem hmem
  have hrange := mem_wordRange h hown hid
  rw [hindex, Option.getD_some] at hrange
  have hlocation := h.located own hown s hmem hid
  constructor
  · intro hi
    rw [(wordRanges_consecutive h).eq_of_mem hword hown hi hrange]
    exact hlocation
  · intro hplace
    have hsame : own = word := by
      obtain ⟨j, hj⟩ := List.getElem?_of_mem hown
      obtain ⟨k, hk⟩ := List.getElem?_of_mem hword
      obtain ⟨hj', rfl⟩ := List.getElem?_eq_some_iff.mp hj
      obtain ⟨hk', rfl⟩ := List.getElem?_eq_some_iff.mp hk
      have hmono := List.pairwise_iff_getElem.mp h.words_monotone
      rw [hlocation] at hplace
      rcases Nat.lt_trichotomy j k with hjk | rfl | hkj
      · have hlt := hmono j k hj' hk' hjk
        rw [hplace, compareWordLocation_neg_iff] at hlt
        omega
      · rfl
      · have hlt := hmono k j hk' hj' hkj
        rw [hplace, compareWordLocation_neg_iff] at hlt
        omega
    exact hsame ▸ hrange

/-! ### Ayah ranges -/

/-- What the pass over the ayah runs has stored when it reaches `start`. -/
structure AyahEntries (symbols : List QuranSymbol) (start : ℕ)
    (ranges : OrderedMap String CorpusRange) : Prop where
  consecutive : Consecutive (fun e : String × CorpusRange => e.2.start) (fun e => e.2.stop) 0
    ranges.entries start
  exact : ∀ e ∈ ranges.entries, ∃ first ∈ symbols, e.1 = ayahKey first.location ∧
    ∀ i t, symbols[i]? = some t →
      (e.2.start ≤ i ∧ i < e.2.stop ↔ SameAyah t.location first.location)

section

variable {symbols : List QuranSymbol}

lemma ayahKey_congr {a b : QuranLocation} (h : SameAyah a b) : ayahKey a = ayahKey b := by
  rw [ayahKey, ayahKey, h.1, h.2]

lemma SameAyah.symm {a b : QuranLocation} (h : SameAyah a b) : SameAyah b a :=
  ⟨h.1.symm, h.2.symm⟩

lemma SameAyah.trans {a b c : QuranLocation} (hab : SameAyah a b) (hbc : SameAyah b c) :
    SameAyah a c := ⟨hab.1.trans hbc.1, hab.2.trans hbc.2⟩

/-- The symbols of an ayah that has been passed are the symbols of a stored range. -/
lemma AyahEntries.apart {start : ℕ} {ranges : OrderedMap String CorpusRange}
    (h : AyahEntries symbols start ranges) {i j : ℕ} {s t : QuranSymbol} (hi : i < start)
    (hj : start ≤ j) (hs : symbols[i]? = some s) (ht : symbols[j]? = some t) :
    ¬SameAyah t.location s.location := by
  intro hsame
  obtain ⟨e, he, hei⟩ := h.consecutive.exists_mem (Nat.zero_le i) hi
  obtain ⟨first, -, -, hexact⟩ := h.exact e he
  have hfirst := (hexact i s hs).mp hei
  have hbound := (h.consecutive.mem_bounds he).2.2
  have hstop := ((hexact j t ht).mpr (hsame.trans hfirst)).2
  omega

/-- One run is stored as a further range. -/
lemma AyahEntries.next
    (hmono : symbols.Pairwise fun a b => compareLocation a.location b.location < 0)
    {start : ℕ} {ranges : OrderedMap String CorpusRange} (h : AyahEntries symbols start ranges)
    {first : QuranSymbol} (hfirst : symbols[start]? = some first) :
    AyahEntries symbols (ayahStop symbols first start)
      (ranges.set (ayahKey first.location) ⟨start, ayahStop symbols first start⟩) := by
  obtain ⟨hgt, hle, hsame, hcut⟩ := ayahStop_spec hfirst
  have horder : ∀ {i j : ℕ} {s t : QuranSymbol}, i < j → symbols[i]? = some s →
      symbols[j]? = some t → compareLocation s.location t.location < 0 := by
    intro i j s t hij hs ht
    obtain ⟨hi, rfl⟩ := List.getElem?_eq_some_iff.mp hs
    obtain ⟨hj, rfl⟩ := List.getElem?_eq_some_iff.mp ht
    exact List.pairwise_iff_getElem.mp hmono i j hi hj hij
  have hrun : ∀ i t, symbols[i]? = some t →
      (start ≤ i ∧ i < ayahStop symbols first start ↔ SameAyah t.location first.location) := by
    intro i t ht
    refine ⟨fun hi => hsame i t hi.1 hi.2 ht, fun htf => ⟨?_, ?_⟩⟩
    · by_contra hlt
      exact h.apart (not_le.mp hlt) le_rfl ht hfirst htf.symm
    · by_contra hstop
      obtain ⟨u, hu⟩ : ∃ u, symbols[ayahStop symbols first start]? = some u :=
        ⟨_, List.getElem?_eq_getElem
          (lt_of_le_of_lt (not_lt.mp hstop) (List.getElem?_eq_some_iff.mp ht).1)⟩
      rcases Nat.eq_or_lt_of_le (not_lt.mp hstop) with heq | hlt
      · rw [← heq, hu] at ht
        cases ht
        exact hcut t hu htf
      · exact hcut u hu ((sameAyah_between (horder hgt hfirst hu) (horder hlt hu ht)
          htf.symm).trans htf)
  have hnew : ayahKey first.location ∉ ranges.entries.map Prod.fst := by
    intro hmem
    obtain ⟨e, he, hkey⟩ := List.mem_map.mp hmem
    obtain ⟨first', -, hkey', hexact⟩ := h.exact e he
    have hin := (hexact start first hfirst).mpr (ayahKey_inj (hkey.symm.trans hkey'))
    have hbound := (h.consecutive.mem_bounds he).2.2
    omega
  constructor
  · rw [OrderedMap.entries_set_of_notMem hnew]
    exact h.consecutive.concat rfl hgt
  · rw [OrderedMap.entries_set_of_notMem hnew]
    intro e he
    rcases List.mem_append.mp he with he | he
    · exact h.exact e he
    · rw [List.mem_singleton.mp he]
      exact ⟨first, List.mem_of_getElem? hfirst, rfl, hrun⟩

/-- The pass over the runs ends with a range for every symbol. -/
lemma ayahRangesFrom_entries
    (hmono : symbols.Pairwise fun a b => compareLocation a.location b.location < 0)
    (rounds start : ℕ) (ranges : OrderedMap String CorpusRange)
    (h : AyahEntries symbols start ranges) (hstart : start ≤ symbols.length)
    (hrounds : symbols.length ≤ start + rounds) :
    AyahEntries symbols symbols.length (ayahRangesFrom symbols rounds start ranges) := by
  induction rounds generalizing start ranges with
  | zero =>
      rw [show symbols.length = start by omega]
      exact h
  | succ rounds ih =>
      rw [ayahRangesFrom]
      cases hfirst : symbols[start]? with
      | none =>
          have hend := List.getElem?_eq_none_iff.mp hfirst
          rw [show symbols.length = start by omega]
          exact h
      | some first =>
          obtain ⟨hgt, hle, -⟩ := ayahStop_spec hfirst
          exact ih _ _ (h.next hmono hfirst) hle (by omega)

end

/-! ### Postings -/

/-- The keys of the runs of one to three symbols from a start. -/
def ngramKeys (symbols : List QuranSymbol) (start : ℕ) : List String :=
  [1, 2, 3].filterMap fun length =>
    if start + length ≤ symbols.length then some (ngramKey symbols start length) else none

lemma mem_ngramKeys {symbols : List QuranSymbol} {start : ℕ} {key : String} :
    key ∈ ngramKeys symbols start ↔ ∃ length, 1 ≤ length ∧ length ≤ 3 ∧
      start + length ≤ symbols.length ∧ ngramKey symbols start length = key := by
  rw [ngramKeys, List.mem_filterMap]
  constructor
  · rintro ⟨length, hmem, hkey⟩
    split at hkey
    · rename_i hfits
      cases hkey
      simp only [List.mem_cons, List.not_mem_nil, or_false] at hmem
      exact ⟨length, by omega, by omega, hfits, rfl⟩
    · cases hkey
  · rintro ⟨length, hpos, hle, hfits, rfl⟩
    refine ⟨length, ?_, by rw [if_pos hfits]⟩
    simp only [List.mem_cons, List.not_mem_nil, or_false]
    omega

/-- The text between two joined strings makes the joined text longer. -/
lemma length_lt_intercalate {separator : String} (hsep : 0 < separator.length) {first : List String}
    (hne : first ≠ []) (last : String) :
    (separator.intercalate first).length < (separator.intercalate (first ++ [last])).length := by
  induction first with
  | nil => exact absurd rfl hne
  | cons a rest ih =>
      cases rest with
      | nil => simp only [List.singleton_append, String.intercalate_cons_cons,
          String.intercalate_singleton, String.length_append]; omega
      | cons b rest =>
          have hrest := ih (by simp)
          simp only [List.cons_append, String.intercalate_cons_cons, String.length_append]
            at hrest ⊢
          omega

/-- Longer runs have longer keys. -/
lemma length_ngramKey_lt {symbols : List QuranSymbol} {start length : ℕ} (hpos : 1 ≤ length)
    (hfits : start + (length + 1) ≤ symbols.length) :
    (ngramKey symbols start length).length < (ngramKey symbols start (length + 1)).length := by
  have hlt : length < (symbols.drop start).length := by
    rw [List.length_drop]
    omega
  rw [ngramKey, ngramKey, List.take_succ_eq_append_getElem hlt, List.map_append]
  refine length_lt_intercalate (by decide) ?_ _
  rw [Ne, List.map_eq_nil_iff, List.take_eq_nil_iff]
  rintro (h | h)
  · omega
  · rw [h] at hlt
    simp at hlt

/-- The keys of one start are different. -/
lemma ngramKeys_nodup (symbols : List QuranSymbol) (start : ℕ) :
    (ngramKeys symbols start).Nodup := by
  have hlonger : ∀ {k l : ℕ}, 1 ≤ k → k < l → start + l ≤ symbols.length →
      (ngramKey symbols start k).length < (ngramKey symbols start l).length := by
    intro k l hk hkl
    induction l, hkl using Nat.le_induction with
    | base => exact fun hfits => length_ngramKey_lt hk hfits
    | succ l hl ih =>
        intro hfits
        exact (ih (by omega)).trans (length_ngramKey_lt (by omega) hfits)
  refine List.Pairwise.filterMap (R := fun k l => 1 ≤ k ∧ k < l) _ ?_ (by decide)
  rintro k l ⟨hk, hkl⟩ key hkey key' hkey' rfl
  rw [Option.ite_none_right_eq_some] at hkey hkey'
  have hlen := hlonger hk hkl hkey'.1
  rw [Option.some.inj hkey.2, Option.some.inj hkey'.2] at hlen
  exact lt_irrefl _ hlen

/-- A start is appended to the postings of one key. -/
lemma get_addPosting (postings : OrderedMap String (List ℕ)) (key : String) (start : ℕ)
    (key' : String) : ((addPosting postings key start).get key').getD []
      = (postings.get key').getD [] ++ if key' = key then [start] else [] := by
  rw [addPosting]
  by_cases hkey : key' = key
  · subst hkey
    cases hget : postings.get key' with
    | none => simp
    | some positions => simp
  · cases hget : postings.get key with
    | none => simp [OrderedMap.get_set_of_ne _ hkey, hkey]
    | some positions => simp [OrderedMap.get_set_of_ne _ hkey, hkey]

/-- A start is appended to the postings of several different keys. -/
lemma get_foldl_addPosting {keys : List String} (hkeys : keys.Nodup)
    (postings : OrderedMap String (List ℕ)) (start : ℕ) (key : String) :
    ((keys.foldl (fun postings key => addPosting postings key start) postings).get key).getD []
      = (postings.get key).getD [] ++ if key ∈ keys then [start] else [] := by
  induction keys generalizing postings with
  | nil => simp
  | cons k keys ih =>
      rw [List.nodup_cons] at hkeys
      rw [List.foldl_cons, ih hkeys.2, get_addPosting]
      by_cases hk : key = k
      · subst hk
        simp [hkeys.1]
      · simp [hk]

lemma foldl_ngrams (symbols : List QuranSymbol) (postings : OrderedMap String (List ℕ))
    (start : ℕ) :
    [1, 2, 3].foldl (fun postings length =>
        if start + length ≤ symbols.length then
          addPosting postings (ngramKey symbols start length) start
        else postings) postings
      = (ngramKeys symbols start).foldl (fun postings key => addPosting postings key start)
          postings := by
  rw [ngramKeys, List.foldl_filterMap]
  refine List.foldl_ext _ _ _ fun postings length _ => ?_
  split <;> rfl

/-- The postings of a key are the starts of its runs, in increasing order. -/
lemma postings_eq (symbols : List QuranSymbol) (key : String) :
    ((addNgramPostings symbols).get key).getD []
      = (List.range symbols.length).filter fun start => key ∈ ngramKeys symbols start := by
  have hupto : ∀ n, ((((List.range n).foldl (fun postings start =>
      [1, 2, 3].foldl (fun postings length =>
        if start + length ≤ symbols.length then
          addPosting postings (ngramKey symbols start length) start
        else postings) postings) OrderedMap.empty).get key).getD [])
      = (List.range n).filter fun start => key ∈ ngramKeys symbols start := by
    intro n
    induction n with
    | zero => rfl
    | succ n ih =>
        rw [List.range_succ, List.foldl_append, List.filter_append, List.foldl_cons,
          List.foldl_nil, foldl_ngrams, get_foldl_addPosting (ngramKeys_nodup symbols n), ih]
        by_cases hkey : key ∈ ngramKeys symbols n <;> simp [hkey]
  exact hupto symbols.length

/-! ### The index -/

/-- What the lookup structures of a corpus hold. -/
structure CorrectIndex (corpus : QuranCorpus) (index : IndexedCorpus) : Prop where
  words : index.wordSymbolRanges.entries.map Prod.fst = corpus.words.map QuranWord.id
  wordRanges : Consecutive (fun e : String × CorpusRange => e.2.start) (fun e => e.2.stop) 0
    index.wordSymbolRanges.entries corpus.symbols.length
  wordRange_exact : ∀ w ∈ corpus.words, ∃ range, index.wordSymbolRanges.get w.id = some range ∧
    ∀ i s, corpus.symbols[i]? = some s →
      (range.start ≤ i ∧ i < range.stop ↔ s.location.toWord = w.location)
  ayahRanges : Consecutive (fun e : String × CorpusRange => e.2.start) (fun e => e.2.stop) 0
    index.ayahSymbolRanges.entries corpus.symbols.length
  ayahRange_exact : ∀ e ∈ index.ayahSymbolRanges.entries, ∃ first ∈ corpus.symbols,
    e.1 = ayahKey first.location ∧ ∀ i s, corpus.symbols[i]? = some s →
      (e.2.start ≤ i ∧ i < e.2.stop ↔ SameAyah s.location first.location)
  ayahRange_found : ∀ s ∈ corpus.symbols, index.ayahSymbolRanges.has (ayahKey s.location) = true
  ayahRange_distinct : index.ayahSymbolRanges.entries.Pairwise fun d e => ∀ s t : QuranLocation,
    d.1 = ayahKey s → e.1 = ayahKey t → ¬SameAyah s t
  postings_increasing : ∀ key,
    ((index.phonemeNgramPostings.get key).getD []).Pairwise (· < ·)
  postings_exact : ∀ key start, start ∈ (index.phonemeNgramPostings.get key).getD [] ↔
    ∃ length, 1 ≤ length ∧ length ≤ 3 ∧ start + length ≤ corpus.symbols.length ∧
      " ".intercalate (((corpus.symbols.drop start).take length).map QuranSymbol.phoneme) = key

lemma buildIndex_correct {corpus : QuranCorpus} (h : WellFormedCorpus corpus) :
    CorrectIndex corpus (buildIndex corpus) := by
  have hkeys : ((corpus.words.map fun w =>
      (w.id, wordRange (symbolIndexes corpus.symbols) w)).map Prod.fst)
        = corpus.words.map QuranWord.id := by
    rw [List.map_map]
    rfl
  have hentries : (buildIndex corpus).wordSymbolRanges.entries
      = corpus.words.map fun w => (w.id, wordRange (symbolIndexes corpus.symbols) w) :=
    OrderedMap.ofList_entries (hkeys ▸ h.wordIds_nodup)
  have hayat : AyahEntries corpus.symbols corpus.symbols.length
      (buildIndex corpus).ayahSymbolRanges :=
    ayahRangesFrom_entries h.symbols_monotone corpus.symbols.length 0 .empty
      ⟨rfl, fun e he => by simp [OrderedMap.empty] at he⟩ (Nat.zero_le _) (by omega)
  constructor
  · rw [hentries, hkeys]
  · rw [hentries]
    exact (wordRanges_consecutive h).map_left fun _ _ => ⟨rfl, rfl⟩
  · intro w hw
    refine ⟨wordRange (symbolIndexes corpus.symbols) w, ?_, fun i s hs => wordRange_iff h hw hs⟩
    rw [OrderedMap.get_eq_some_iff, hentries]
    exact List.mem_map.mpr ⟨w, hw, rfl⟩
  · exact hayat.consecutive
  · exact hayat.exact
  · intro s hs
    obtain ⟨i, hi⟩ := List.getElem?_of_mem hs
    obtain ⟨range, hrange, -⟩ := ayahRangesFrom_spec h.symbols_monotone corpus.symbols.length 0
      .empty ⟨fun i hi => absurd hi (by omega), fun p s t hp => by omega⟩ (by omega) hi
    rw [OrderedMap.has, Option.isSome_iff_exists]
    exact ⟨range, hrange⟩
  · have hnodup := (buildIndex corpus).ayahSymbolRanges.nodup
    refine (List.pairwise_map.mp hnodup).imp fun {d e} hne s t hs ht hsame => hne ?_
    rw [hs, ht, ayahKey_congr hsame]
  · intro key
    rw [show (buildIndex corpus).phonemeNgramPostings = addNgramPostings corpus.symbols from rfl,
      postings_eq]
    exact List.pairwise_lt_range.filter _
  · intro key start
    rw [show (buildIndex corpus).phonemeNgramPostings = addNgramPostings corpus.symbols from rfl,
      postings_eq, List.mem_filter, List.mem_range, decide_eq_true_iff, mem_ngramKeys]
    constructor
    · exact fun hstart => hstart.2
    · rintro ⟨length, hpos, hle, hfits, hkey⟩
      exact ⟨by omega, length, hpos, hle, hfits, hkey⟩

/-- **The index of an accepted corpus is correct.** The word ranges and the ayah ranges
partition the symbols, each holding what it is named after, and the postings of a key
are the starts of its runs. -/
theorem indexCorpus_correct {value : JsValue} {corpus : QuranCorpus}
    (h : validateCorpus value = .ok corpus) :
    ∃ index, indexCorpus value = .ok index ∧ CorrectIndex corpus index := by
  refine ⟨buildIndex corpus, ?_, buildIndex_correct (validateCorpus_wellFormed h)⟩
  rw [indexCorpus, h]
  rfl

lemma sampleCorpus_accepted : (validateCorpus (sampleCorpus 5)).toOption.isSome = true := by
  decide +kernel

/-- The index of the five symbols. -/
theorem indexCorpus_correct_five :
    ∃ index, indexCorpus (sampleCorpus 5) = .ok index ∧
      CorrectIndex (result _ sampleCorpus_accepted) index :=
  indexCorpus_correct (eq_ok_result sampleCorpus_accepted)

end Qaraa
