import Qaraa.Core.Validate
import Mathlib.Data.List.Sort

/-!
What an accepted corpus looks like: the global address model that the local checks of
`validateCorpus` add up to.

* `SymbolPass.Sound`, `WordPass.Sound`: the invariants of the two passes, kept by
  `visitSymbol` and `visitWord` round by round.
* `WellFormedCorpus`: distinct ids, addresses strictly increasing, and the words'
  symbol ids, one word after the other, are the symbol ids in corpus order.
* `validateCorpus_wellFormed`: every accepted corpus is well formed. That the words come
  in corpus order (`WordPass.Sound.references_sorted`) is where the two orders meet: an
  earlier word has the smaller address, hence symbols of smaller index.
-/

namespace Qaraa

open Fallible Ordered

/-! ### The order of addresses -/

lemma compareLocation_neg_iff {a b : QuranLocation} : compareLocation a b < 0 ↔
    a.surah < b.surah ∨ a.surah = b.surah ∧ (a.ayah < b.ayah ∨ a.ayah = b.ayah ∧
      (a.word < b.word ∨ a.word = b.word ∧ a.symbol < b.symbol)) := by
  rw [compareLocation]
  split_ifs <;> omega

lemma compareWordLocation_neg_iff {a b : WordLocation} : compareWordLocation a b < 0 ↔
    a.surah < b.surah ∨ a.surah = b.surah ∧ (a.ayah < b.ayah ∨ a.ayah = b.ayah ∧
      a.word < b.word) := by
  rw [compareWordLocation]
  split_ifs <;> omega

lemma compareLocation_trans {a b c : QuranLocation} (hab : compareLocation a b < 0)
    (hbc : compareLocation b c < 0) : compareLocation a c < 0 := by
  rw [compareLocation_neg_iff] at *
  omega

lemma compareWordLocation_trans {a b c : WordLocation} (hab : compareWordLocation a b < 0)
    (hbc : compareWordLocation b c < 0) : compareWordLocation a c < 0 := by
  rw [compareWordLocation_neg_iff] at *
  omega

lemma compareLocation_asymm {a b : QuranLocation} (hab : compareLocation a b < 0) :
    ¬compareLocation b a < 0 := by
  rw [compareLocation_neg_iff] at *
  omega

/-- A symbol of an earlier word has the smaller address. -/
lemma compareLocation_of_word {a b : QuranLocation}
    (h : compareWordLocation a.toWord b.toWord < 0) : compareLocation a b < 0 := by
  rw [compareWordLocation_neg_iff] at h
  rw [compareLocation_neg_iff]
  simp only [QuranLocation.toWord] at h
  omega

/-- Appending keeps a list sorted when the new item follows the last one. -/
lemma pairwise_append_last {α : Type*} {r : α → α → Prop} {l : List α} {x : α}
    (hl : l.Pairwise r) (htrans : ∀ a b c, r a b → r b c → r a c)
    (hlast : ∀ y ∈ l.getLast?, r y x) : (l ++ [x]).Pairwise r := by
  rw [List.pairwise_append]
  refine ⟨hl, List.pairwise_singleton _ _, fun a ha b hb => ?_⟩
  rw [List.mem_singleton.mp hb]
  rcases List.eq_nil_or_concat l with rfl | ⟨init, y, rfl⟩
  · simp at ha
  · simp only [List.concat_eq_append] at hl ha hlast
    have hyx : r y x := hlast y (by simp)
    rcases List.mem_append.mp ha with hinit | hy
    · exact htrans _ _ _ ((List.pairwise_append.mp hl).2.2 a hinit y (by simp)) hyx
    · rw [List.mem_singleton.mp hy]
      exact hyx

/-! ### The shape of one symbol and one word -/

/-- A positive safe integer. -/
def PositiveSafe (n : ℕ) : Prop := 0 < n ∧ n ≤ maxSafeInteger

/-- The fields of a symbol, each checked on its own. -/
structure QuranSymbol.Shaped (s : QuranSymbol) : Prop where
  id : isBlank s.id = false
  phoneme : isBlank s.phoneme = false
  surah : PositiveSafe s.location.surah
  ayah : PositiveSafe s.location.ayah
  word : PositiveSafe s.location.word
  symbol : PositiveSafe s.location.symbol

/-- The fields of a word, each checked on its own. -/
structure QuranWord.Shaped (w : QuranWord) : Prop where
  id : isBlank w.id = false
  symbolIds : w.symbolIds ≠ []
  references : ∀ id ∈ w.symbolIds, isBlank id = false
  surah : PositiveSafe w.location.surah
  ayah : PositiveSafe w.location.ayah
  word : PositiveSafe w.location.word

lemma requireNonEmptyString_ok {value : JsValue} {label s : String}
    (h : requireNonEmptyString value label = .ok s) : value = .string s ∧ isBlank s = false := by
  unfold requireNonEmptyString at h
  split at h
  · split at h
    · simp [fail] at h
    · rename_i hb
      cases h
      exact ⟨rfl, by simpa using hb⟩
  · simp [fail] at h

lemma requirePositiveInteger_ok {value : JsValue} {label : String} {n : ℕ}
    (h : requirePositiveInteger value label = .ok n) : PositiveSafe n := by
  unfold requirePositiveInteger at h
  split at h
  · rename_i q
    split at h
    · rename_i hq
      cases h
      have hpos : 0 < q.num := Rat.num_pos.mpr hq.2
      have hsafe : q.num.natAbs ≤ maxSafeInteger := by
        have := hq.1
        simp only [isSafeInteger, Bool.and_eq_true, decide_eq_true_eq] at this
        exact this.2
      exact ⟨by omega, by omega⟩
    · simp [fail] at h
  · simp [fail] at h

lemma validateLocation_ok {value : JsValue} {label : String} {place : WordLocation}
    (h : validateLocation value label = .ok place) :
    PositiveSafe place.surah ∧ PositiveSafe place.ayah ∧ PositiveSafe place.word := by
  simp only [validateLocation, bind_eq_ok, failIf_eq_ok, pure_eq_ok, exists_const] at h
  obtain ⟨-, surah, hsurah, ayah, hayah, word, hword, rfl⟩ := h
  exact ⟨requirePositiveInteger_ok hsurah, requirePositiveInteger_ok hayah,
    requirePositiveInteger_ok hword⟩

lemma validateSymbol_shaped {value : JsValue} {s : QuranSymbol}
    (h : validateSymbol value = .ok s) : s.Shaped := by
  simp only [validateSymbol, validateSymbolLocation, bind_eq_ok, failIf_eq_ok, pure_eq_ok,
    exists_const] at h
  obtain ⟨-, id, hid, text, -, phoneme, hphoneme, location, ⟨place, hplace, symbol, hsymbol, rfl⟩,
    rfl⟩ := h
  obtain ⟨hsurah, hayah, hword⟩ := validateLocation_ok hplace
  exact ⟨(requireNonEmptyString_ok hid).2, (requireNonEmptyString_ok hphoneme).2, hsurah, hayah,
    hword, requirePositiveInteger_ok hsymbol⟩

lemma validateWord_shaped {value : JsValue} {w : QuranWord}
    (h : validateWord value = .ok w) : w.Shaped := by
  simp only [validateWord, bind_eq_ok, failIf_eq_ok, pure_eq_ok, exists_const] at h
  obtain ⟨-, id, hid, text, -, references, -, hne, symbolIds, hids, location, hloc, rfl⟩ := h
  obtain ⟨hsurah, hayah, hword⟩ := validateLocation_ok hloc
  refine ⟨(requireNonEmptyString_ok hid).2, ?_, ?_, hsurah, hayah, hword⟩
  · rintro rfl
    cases mapM_eq_ok.mp hids
    exact hne rfl
  · intro symbolId hmem
    obtain ⟨value, -, hvalue⟩ := exists_of_mem_mapM hids hmem
    exact (requireNonEmptyString_ok hvalue).2

/-! ### The pass over the symbols -/

namespace SymbolPass

/-- The invariant of the pass over the symbols. -/
structure Sound (pass : SymbolPass) : Prop where
  shaped : ∀ s ∈ pass.symbols, s.Shaped
  ids_nodup : (pass.symbols.map QuranSymbol.id).Nodup
  byId : pass.symbolsById.entries = pass.symbols.map fun s => (s.id, s)
  indexes : pass.symbolIndexes.entries = pass.symbols.zipIdx.map fun p => (p.1.id, p.2)
  monotone : pass.symbols.Pairwise fun a b => compareLocation a.location b.location < 0
  previous : pass.previousSymbol = pass.symbols.getLast?

variable {pass : SymbolPass}

lemma Sound.get_symbol (h : pass.Sound) {id : String} {s : QuranSymbol} :
    pass.symbolsById.get id = some s ↔ s ∈ pass.symbols ∧ s.id = id := by
  rw [OrderedMap.get_eq_some_iff, h.byId, List.mem_map]
  constructor
  · rintro ⟨t, ht, heq⟩
    obtain ⟨hid, rfl⟩ := Prod.mk.inj heq
    exact ⟨ht, hid⟩
  · rintro ⟨hs, rfl⟩
    exact ⟨s, hs, rfl⟩

lemma Sound.get_index (h : pass.Sound) {i : ℕ} {s : QuranSymbol} (hi : pass.symbols[i]? = some s) :
    pass.symbolIndexes.get s.id = some i := by
  rw [OrderedMap.get_eq_some_iff, h.indexes, List.mem_map]
  exact ⟨(s, i), List.mem_zipIdx_iff_getElem?.mpr hi, rfl⟩

/-- An earlier address belongs to an earlier symbol. -/
lemma Sound.index_lt (h : pass.Sound) {i j : ℕ} {s t : QuranSymbol}
    (hi : pass.symbols[i]? = some s) (hj : pass.symbols[j]? = some t)
    (hlt : compareLocation s.location t.location < 0) : i < j := by
  obtain ⟨hi', rfl⟩ := List.getElem?_eq_some_iff.mp hi
  obtain ⟨hj', rfl⟩ := List.getElem?_eq_some_iff.mp hj
  have hmono := List.pairwise_iff_getElem.mp h.monotone
  rcases Nat.lt_trichotomy i j with hij | rfl | hji
  · exact hij
  · exact absurd hlt (compareLocation_asymm hlt)
  · exact absurd hlt (compareLocation_asymm (hmono j i hj' hi' hji))

lemma sound_empty : Sound ⟨[], .empty, .empty, none⟩ :=
  ⟨by simp, List.nodup_nil, rfl, rfl, List.Pairwise.nil, rfl⟩

/-- One round keeps the invariant. -/
lemma Sound.visit (h : pass.Sound) {value : JsValue} {next : SymbolPass}
    (hnext : visitSymbol pass value = .ok next) : next.Sound := by
  simp only [visitSymbol, bind_eq_ok, failIf_eq_ok, pure_eq_ok, exists_const] at hnext
  obtain ⟨symbol, hsymbol, hnew, hlast, rfl⟩ := hnext
  have hfresh : symbol.id ∉ pass.symbols.map QuranSymbol.id := by
    intro hmem
    obtain ⟨s, hs, hid⟩ := List.mem_map.mp hmem
    exact hnew (by rw [OrderedMap.has, h.get_symbol.mpr ⟨hs, hid⟩]; rfl)
  refine ⟨?_, ?_, ?_, ?_, ?_, ?_⟩
  · intro s hs
    rcases List.mem_append.mp hs with hs | hs
    · exact h.shaped s hs
    · exact List.mem_singleton.mp hs ▸ validateSymbol_shaped hsymbol
  · rw [List.map_append, List.nodup_append]
    refine ⟨h.ids_nodup, List.nodup_singleton _, fun a ha b hb hab => hfresh ?_⟩
    rw [List.map_singleton, List.mem_singleton] at hb
    rw [← hb, ← hab]
    exact ha
  · have hkey : symbol.id ∉ pass.symbolsById.entries.map Prod.fst := by
      rw [h.byId, List.map_map]
      exact hfresh
    rw [OrderedMap.entries_set_of_notMem hkey, h.byId, List.map_append]
    rfl
  · have hkey : symbol.id ∉ pass.symbolIndexes.entries.map Prod.fst := by
      rw [h.indexes, List.map_map]
      intro hmem
      obtain ⟨⟨s, i⟩, hsi, hid⟩ := List.mem_map.mp hmem
      have hs : s ∈ pass.symbols := List.mem_of_getElem? (List.mem_zipIdx_iff_getElem?.mp hsi)
      exact hfresh (List.mem_map.mpr ⟨s, hs, hid⟩)
    rw [OrderedMap.entries_set_of_notMem hkey, h.indexes, List.zipIdx_append, List.map_append]
    simp
  · refine pairwise_append_last h.monotone (fun _ _ _ => compareLocation_trans) ?_
    intro y hy
    rw [← h.previous] at hy
    exact not_le.mp fun hle => hlast ⟨y, hy, hle⟩
  · simp

end SymbolPass

/-! ### The pass over the words -/

/-- The position a symbol id stands for. -/
def SymbolPass.indexOf (symbols : SymbolPass) (id : String) : ℕ :=
  (symbols.symbolIndexes.get id).getD 0

/-- The symbol ids come in the order of their positions. -/
lemma SymbolPass.Sound.indexOf_sorted {symbols : SymbolPass} (h : symbols.Sound) :
    (symbols.symbols.map QuranSymbol.id).Pairwise
      fun a b => symbols.indexOf a < symbols.indexOf b := by
  refine List.pairwise_map.mpr (List.pairwise_iff_getElem.mpr fun i j hi hj hij => ?_)
  rw [SymbolPass.indexOf, SymbolPass.indexOf, h.get_index (List.getElem?_eq_getElem hi),
    h.get_index (List.getElem?_eq_getElem hj)]
  exact hij

/-- A word's reference: the id of a symbol at the word's address. -/
def SymbolPass.Located (symbols : SymbolPass) (word : QuranWord) (id : String) : Prop :=
  ∃ s ∈ symbols.symbols, s.id = id ∧ s.location.toWord = word.location

/-- The invariant of the pass over one word's references. -/
structure ReferencePass.Sound (symbols : SymbolPass) (word : QuranWord) (before ids : List String)
    (pass : ReferencePass) : Prop where
  referenced : pass.referencedSymbols.items = before ++ ids
  located : ∀ id ∈ ids, symbols.Located word id
  increasing : ids.Pairwise fun a b => symbols.indexOf a < symbols.indexOf b
  bounded : ∀ id ∈ ids, (symbols.indexOf id : ℤ) ≤ pass.previousSymbolIndex

lemma ReferencePass.Sound.visit {symbols : SymbolPass} (hsym : symbols.Sound) {word : QuranWord}
    {before ids : List String} {pass next : ReferencePass} {id : String}
    (h : pass.Sound symbols word before ids)
    (hnext : visitSymbolId symbols word pass id = .ok next) :
    next.Sound symbols word before (ids ++ [id]) := by
  simp only [visitSymbolId, bind_eq_ok, failIf_eq_ok, pure_eq_ok, exists_const] at hnext
  obtain ⟨s, hs, hayah, hword, horder, hnew, rfl⟩ := hnext
  have hget : symbols.symbolsById.get id = some s := by
    cases hc : symbols.symbolsById.get id with
    | none => simp [hc, fail] at hs
    | some t => simpa [hc] using hs
  obtain ⟨hmem, hid⟩ := hsym.get_symbol.mp hget
  have hloc : symbols.Located word id := by
    refine ⟨s, hmem, hid, ?_⟩
    rw [not_or, not_not, not_not] at hayah
    rw [not_not] at hword
    simp [QuranLocation.toWord, hayah.1, hayah.2, hword]
  have hlast : pass.previousSymbolIndex < symbols.indexOf id := not_le.mp horder
  have hfresh : id ∉ pass.referencedSymbols.items := fun hc => hnew (OrderedSet.has_iff.mpr hc)
  refine ⟨?_, ?_, ?_, ?_⟩
  · rw [OrderedSet.items_add_of_notMem hfresh, h.referenced, List.append_assoc]
  · intro a ha
    rcases List.mem_append.mp ha with ha | ha
    · exact h.located a ha
    · exact List.mem_singleton.mp ha ▸ hloc
  · rw [List.pairwise_append]
    refine ⟨h.increasing, List.pairwise_singleton _ _, fun a ha b hb => ?_⟩
    have := h.bounded a ha
    rw [List.mem_singleton.mp hb]
    omega
  · intro a ha
    rcases List.mem_append.mp ha with ha | ha
    · have := h.bounded a ha
      show (symbols.indexOf a : ℤ) ≤ symbols.indexOf id
      omega
    · rw [List.mem_singleton.mp ha]
      exact le_refl _

/-- The invariant of the pass over the words. -/
structure WordPass.Sound (symbols : SymbolPass) (pass : WordPass) : Prop where
  shaped : ∀ w ∈ pass.words, w.Shaped
  ids_nodup : (pass.words.map QuranWord.id).Nodup
  byId : pass.wordsById.items = pass.words.map QuranWord.id
  monotone : pass.words.Pairwise fun a b => compareWordLocation a.location b.location < 0
  previous : pass.previousWord = pass.words.getLast?
  referenced : pass.referencedSymbols.items = pass.words.flatMap QuranWord.symbolIds
  located : ∀ w ∈ pass.words, ∀ id ∈ w.symbolIds, symbols.Located w id
  increasing : ∀ w ∈ pass.words,
    w.symbolIds.Pairwise fun a b => symbols.indexOf a < symbols.indexOf b

namespace WordPass

variable {symbols : SymbolPass} {pass : WordPass}

lemma sound_empty : Sound symbols ⟨[], .empty, .empty, none⟩ :=
  ⟨by simp, List.nodup_nil, rfl, List.Pairwise.nil, rfl, rfl, by simp, by simp⟩

/-- One round keeps the invariant. -/
lemma Sound.visit (hsym : symbols.Sound) (h : pass.Sound symbols) {value : JsValue}
    {next : WordPass} (hnext : visitWord symbols pass value = .ok next) : next.Sound symbols := by
  simp only [visitWord, bind_eq_ok, failIf_eq_ok, pure_eq_ok, exists_const] at hnext
  obtain ⟨word, hword, hnew, hlast, references, hrefs, rfl⟩ := hnext
  have hfresh : word.id ∉ pass.wordsById.items := fun hc => hnew (OrderedSet.has_iff.mpr hc)
  have hsound : references.Sound symbols word pass.referencedSymbols.items word.symbolIds := by
    refine foldlM_induction (P := fun ids (x : ReferencePass) =>
      x.Sound symbols word pass.referencedSymbols.items ids) hrefs ?_ ?_
    · exact ⟨(List.append_nil _).symm, by simp, List.Pairwise.nil, by simp⟩
    · exact fun pre id x y hx hy => hx.visit hsym hy
  have hmem : ∀ w ∈ pass.words ++ [word], w ∈ pass.words ∨ w = word := by simp
  refine ⟨?_, ?_, ?_, ?_, ?_, ?_, ?_, ?_⟩
  · intro w hw
    rcases hmem w hw with hw | rfl
    · exact h.shaped w hw
    · exact validateWord_shaped hword
  · rw [List.map_append, List.map_singleton, List.nodup_append]
    refine ⟨h.ids_nodup, List.nodup_singleton _, fun a ha b hb hab => hfresh ?_⟩
    rw [h.byId, ← List.mem_singleton.mp hb, ← hab]
    exact ha
  · rw [OrderedSet.items_add_of_notMem hfresh, h.byId, List.map_append, List.map_singleton]
  · refine pairwise_append_last h.monotone (fun _ _ _ => compareWordLocation_trans) ?_
    intro y hy
    rw [← h.previous] at hy
    exact not_le.mp fun hle => hlast ⟨y, hy, hle⟩
  · simp
  · rw [hsound.referenced, h.referenced, List.flatMap_append]
    simp
  · intro w hw
    rcases hmem w hw with hw | rfl
    · exact h.located w hw
    · exact hsound.located
  · intro w hw
    rcases hmem w hw with hw | rfl
    · exact h.increasing w hw
    · exact hsound.increasing

/-- **The words come in corpus order**: their references, one word after the other, have
strictly increasing positions. -/
lemma Sound.references_sorted (hsym : symbols.Sound) (h : pass.Sound symbols) :
    (pass.words.flatMap QuranWord.symbolIds).Pairwise
      fun a b => symbols.indexOf a < symbols.indexOf b := by
  rw [List.pairwise_flatMap]
  refine ⟨h.increasing, h.monotone.imp_of_mem fun {v w} hv hw hvw a ha b hb => ?_⟩
  obtain ⟨s, hs, rfl, hsloc⟩ := h.located v hv a ha
  obtain ⟨t, ht, rfl, htloc⟩ := h.located w hw b hb
  obtain ⟨i, hi⟩ := List.getElem?_of_mem hs
  obtain ⟨j, hj⟩ := List.getElem?_of_mem ht
  rw [SymbolPass.indexOf, SymbolPass.indexOf, hsym.get_index hi, hsym.get_index hj]
  refine hsym.index_lt hi hj (compareLocation_of_word ?_)
  rw [hsloc, htloc]
  exact hvw

end WordPass

/-! ### The address model -/

/-- The address model of a corpus: distinct ids, strictly increasing addresses, and words
that cut the symbols into consecutive non-empty blocks of one address each. -/
structure WellFormedCorpus (corpus : QuranCorpus) : Prop where
  symbols_shaped : ∀ s ∈ corpus.symbols, s.Shaped
  words_shaped : ∀ w ∈ corpus.words, w.Shaped
  symbolIds_nodup : (corpus.symbols.map QuranSymbol.id).Nodup
  wordIds_nodup : (corpus.words.map QuranWord.id).Nodup
  symbols_monotone :
    corpus.symbols.Pairwise fun a b => compareLocation a.location b.location < 0
  words_monotone : corpus.words.Pairwise fun a b => compareWordLocation a.location b.location < 0
  references : corpus.words.flatMap QuranWord.symbolIds = corpus.symbols.map QuranSymbol.id
  located : ∀ w ∈ corpus.words, ∀ s ∈ corpus.symbols, s.id ∈ w.symbolIds →
    s.location.toWord = w.location

/-- **Every accepted corpus is well formed.** -/
theorem validateCorpus_wellFormed {value : JsValue} {corpus : QuranCorpus}
    (h : validateCorpus value = .ok corpus) : WellFormedCorpus corpus := by
  simp only [validateCorpus, bind_eq_ok, failIf_eq_ok, pure_eq_ok, exists_const] at h
  obtain ⟨-, corpusId, -, revision, -, symbolValues, -, wordValues, -, symbols, hsymbols, words,
    hwords, htotal, rfl⟩ := h
  have hsym : symbols.Sound := foldlM_induction (P := fun _ (x : SymbolPass) => x.Sound) hsymbols
    SymbolPass.sound_empty fun _ _ _ _ hx hy => hx.visit hy
  have hword : words.Sound symbols :=
    foldlM_induction (P := fun _ (x : WordPass) => x.Sound symbols) hwords
      WordPass.sound_empty fun _ _ _ _ hx hy => hx.visit hsym hy
  have hmem : ∀ id, id ∈ words.words.flatMap QuranWord.symbolIds ↔
      id ∈ symbols.symbols.map QuranSymbol.id := by
    intro id
    constructor
    · intro hid
      obtain ⟨w, hw, hidw⟩ := List.mem_flatMap.mp hid
      obtain ⟨s, hs, hsid, -⟩ := hword.located w hw id hidw
      exact List.mem_map.mpr ⟨s, hs, hsid⟩
    · intro hid
      obtain ⟨s, hs, rfl⟩ := List.mem_map.mp hid
      rw [← hword.referenced]
      by_contra hc
      exact htotal ⟨s, hs, by simpa [OrderedSet.has] using hc⟩
  refine ⟨hsym.shaped, hword.shaped, hsym.ids_nodup, hword.ids_nodup, hsym.monotone,
    hword.monotone, ?_, ?_⟩
  · -- two lists with the same members, both sorted by position
    have hnodup : (words.words.flatMap QuranWord.symbolIds).Nodup := by
      rw [← hword.referenced]
      exact words.referencedSymbols.nodup
    refine List.Perm.eq_of_pairwise (fun a b _ _ hab hba => absurd hab (lt_asymm hba))
      (hword.references_sorted hsym) hsym.indexOf_sorted ?_
    exact (List.perm_ext_iff_of_nodup hnodup hsym.ids_nodup).mpr hmem
  · intro w hw s hs hsid
    obtain ⟨t, ht, htid, htloc⟩ := hword.located w hw s.id hsid
    rw [← htloc, List.inj_on_of_nodup_map hsym.ids_nodup hs ht htid.symm]

end Qaraa
