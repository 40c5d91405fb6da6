import Qaraa.Core.WellFormed

/-!
Which corpora `validateCorpus` accepts: those of the partitioned address model, and no
others.

* `QuranSymbol.Reads`, `QuranWord.Reads`, `QuranCorpus.Reads`: the corpus a value of
  unknown shape reads as, property by property.
* `AddressModel`: non-blank ids, addresses in increasing lexicographic order, and words
  whose symbol ids, one word after the other, are the symbol ids in corpus order.
* `validateSymbol_eq_ok`, `validateWord_eq_ok`: the local checks, exactly.
* `symbolPass_total`, `wordPass_total`: under the address model no round of either pass
  throws.
* `validateCorpus_accepts_iff`: **accepted exactly when the value reads as a corpus of
  the address model**.
-/

namespace Qaraa

open Fallible Ordered

/-! ### What a value reads as -/

/-- The word address a value reads as. -/
structure WordLocation.Reads (location : WordLocation) (value : JsValue) : Prop where
  record : isRecord value = true
  surah : value.field "surah" = .number (.finite location.surah)
  ayah : value.field "ayah" = .number (.finite location.ayah)
  word : value.field "word" = .number (.finite location.word)

/-- The symbol address a value reads as. -/
structure QuranLocation.Reads (location : QuranLocation) (value : JsValue) : Prop where
  place : location.toWord.Reads value
  symbol : value.field "symbol" = .number (.finite location.symbol)

/-- The symbol a value reads as. -/
structure QuranSymbol.Reads (symbol : QuranSymbol) (value : JsValue) : Prop where
  record : isRecord value = true
  id : value.field "id" = .string symbol.id
  text : value.field "text" = .string symbol.text
  phoneme : value.field "phoneme" = .string symbol.phoneme
  location : symbol.location.Reads (value.field "location")

/-- The word a value reads as. -/
structure QuranWord.Reads (word : QuranWord) (value : JsValue) : Prop where
  record : isRecord value = true
  id : value.field "id" = .string word.id
  text : value.field "text" = .string word.text
  symbolIds : value.field "symbolIds" = .array (word.symbolIds.map JsValue.string)
  location : word.location.Reads (value.field "location")

/-- The corpus a value reads as. -/
structure QuranCorpus.Reads (corpus : QuranCorpus) (value : JsValue) : Prop where
  record : isRecord value = true
  corpusId : value.field "corpusId" = .string corpus.corpusId
  revision : value.field "revision" = .string corpus.revision
  symbols : ∃ values, value.field "symbols" = .array values ∧
    List.Forall₂ QuranSymbol.Reads corpus.symbols values
  words : ∃ values, value.field "words" = .array values ∧
    List.Forall₂ QuranWord.Reads corpus.words values

/-! ### The address model -/

/-- The fields of an address, most significant first. -/
def QuranLocation.key (location : QuranLocation) : List ℕ :=
  [location.surah, location.ayah, location.word, location.symbol]

/-- The fields of a word address, most significant first. -/
def WordLocation.key (location : WordLocation) : List ℕ :=
  [location.surah, location.ayah, location.word]

/-- The partitioned address model: keys are compared in lexicographic order. -/
structure AddressModel (corpus : QuranCorpus) : Prop where
  corpusId : isBlank corpus.corpusId = false
  revision : isBlank corpus.revision = false
  symbols_shaped : ∀ s ∈ corpus.symbols, isBlank s.id = false ∧ isBlank s.phoneme = false ∧
    ∀ n ∈ s.location.key, PositiveSafe n
  words_shaped : ∀ w ∈ corpus.words, isBlank w.id = false ∧ ∀ n ∈ w.location.key, PositiveSafe n
  symbolIds_nodup : (corpus.symbols.map QuranSymbol.id).Nodup
  wordIds_nodup : (corpus.words.map QuranWord.id).Nodup
  symbols_increasing : corpus.symbols.Pairwise fun a b => a.location.key < b.location.key
  words_increasing : corpus.words.Pairwise fun a b => a.location.key < b.location.key
  words_inhabited : ∀ w ∈ corpus.words, w.symbolIds ≠ []
  references : corpus.words.flatMap QuranWord.symbolIds = corpus.symbols.map QuranSymbol.id
  located : ∀ w ∈ corpus.words, ∀ s ∈ corpus.symbols, s.id ∈ w.symbolIds →
    s.location.toWord = w.location

lemma compareLocation_neg_iff_key {a b : QuranLocation} :
    compareLocation a b < 0 ↔ a.key < b.key := by
  rw [compareLocation_neg_iff, QuranLocation.key, QuranLocation.key]
  simp [List.cons_lt_cons_iff]

lemma compareWordLocation_neg_iff_key {a b : WordLocation} :
    compareWordLocation a b < 0 ↔ a.key < b.key := by
  rw [compareWordLocation_neg_iff, WordLocation.key, WordLocation.key]
  simp [List.cons_lt_cons_iff]

/-- The address model is well-formedness with non-blank identifiers. -/
lemma addressModel_iff {corpus : QuranCorpus} : AddressModel corpus ↔
    isBlank corpus.corpusId = false ∧ isBlank corpus.revision = false ∧
      WellFormedCorpus corpus := by
  constructor
  · intro h
    refine ⟨h.corpusId, h.revision, ?_, ?_, h.symbolIds_nodup, h.wordIds_nodup, ?_, ?_,
      h.references, h.located⟩
    · intro s hs
      obtain ⟨hid, hphoneme, hkey⟩ := h.symbols_shaped s hs
      simp only [QuranLocation.key, List.forall_mem_cons] at hkey
      exact ⟨hid, hphoneme, hkey.1, hkey.2.1, hkey.2.2.1, hkey.2.2.2.1⟩
    · intro w hw
      obtain ⟨hid, hkey⟩ := h.words_shaped w hw
      simp only [WordLocation.key, List.forall_mem_cons] at hkey
      refine ⟨hid, h.words_inhabited w hw, fun id hmem => ?_, hkey.1, hkey.2.1, hkey.2.2.1⟩
      -- a referenced id is the id of a symbol
      have hid : id ∈ corpus.symbols.map QuranSymbol.id :=
        h.references ▸ List.mem_flatMap.mpr ⟨w, hw, hmem⟩
      obtain ⟨s, hs, rfl⟩ := List.mem_map.mp hid
      exact (h.symbols_shaped s hs).1
    · simpa only [compareLocation_neg_iff_key] using h.symbols_increasing
    · simpa only [compareWordLocation_neg_iff_key] using h.words_increasing
  · rintro ⟨hcorpusId, hrevision, h⟩
    refine ⟨hcorpusId, hrevision, ?_, ?_, h.symbolIds_nodup, h.wordIds_nodup, ?_, ?_, ?_,
      h.references, h.located⟩
    · intro s hs
      have hs := h.symbols_shaped s hs
      refine ⟨hs.id, hs.phoneme, ?_⟩
      simp only [QuranLocation.key, List.forall_mem_cons]
      exact ⟨hs.surah, hs.ayah, hs.word, hs.symbol, by simp⟩
    · intro w hw
      have hw := h.words_shaped w hw
      refine ⟨hw.id, ?_⟩
      simp only [WordLocation.key, List.forall_mem_cons]
      exact ⟨hw.surah, hw.ayah, hw.word, by simp⟩
    · simpa only [compareLocation_neg_iff_key] using h.symbols_monotone
    · simpa only [compareWordLocation_neg_iff_key] using h.words_monotone
    · exact fun w hw => (h.words_shaped w hw).symbolIds

/-! ### The local checks -/

lemma requireNonEmptyString_eq_ok {value : JsValue} {label s : String} :
    requireNonEmptyString value label = .ok s ↔ value = .string s ∧ isBlank s = false := by
  refine ⟨requireNonEmptyString_ok, ?_⟩
  rintro ⟨rfl, hblank⟩
  simp [requireNonEmptyString, hblank]

lemma requireString_eq_ok {value : JsValue} {message s : String} :
    requireString value message = .ok s ↔ value = .string s := by
  cases value <;> simp [requireString, fail]

lemma requireArray_eq_ok {value : JsValue} {message : String} {items : List JsValue} :
    requireArray value message = .ok items ↔ value = .array items := by
  cases value <;> simp [requireArray, fail]

lemma requirePositiveInteger_eq_ok {value : JsValue} {label : String} {n : ℕ} :
    requirePositiveInteger value label = .ok n ↔
      value = .number (.finite n) ∧ PositiveSafe n := by
  constructor
  · intro h
    refine ⟨?_, requirePositiveInteger_ok h⟩
    unfold requirePositiveInteger at h
    split at h
    · rename_i q
      split at h
      · rename_i hq
        cases h
        have hden : q.den = 1 := by
          have hsafe := hq.1
          simp only [isSafeInteger, Bool.and_eq_true, beq_iff_eq] at hsafe
          exact hsafe.1
        have hnum : 0 < q.num := Rat.num_pos.mpr hq.2
        have hint : ((q.num.toNat : ℕ) : ℚ) = q := by
          rw [← Int.cast_natCast, Int.toNat_of_nonneg hnum.le]
          exact Rat.coe_int_num_of_den_eq_one hden
        rw [hint]
      · simp [fail] at h
    · simp [fail] at h
  · rintro ⟨rfl, hpos, hsafe⟩
    simp [requirePositiveInteger, isSafeInteger, hpos, hsafe]

lemma validateLocation_eq_ok {value : JsValue} {label : String} {place : WordLocation} :
    validateLocation value label = .ok place ↔
      place.Reads value ∧ ∀ n ∈ place.key, PositiveSafe n := by
  simp only [validateLocation, bind_eq_ok, failIf_eq_ok, pure_eq_ok, exists_const,
    requirePositiveInteger_eq_ok, Bool.not_eq_false]
  constructor
  · rintro ⟨hrecord, surah, ⟨hsurah, hps⟩, ayah, ⟨hayah, hpa⟩, word, ⟨hword, hpw⟩, rfl⟩
    exact ⟨⟨hrecord, hsurah, hayah, hword⟩, by simp [WordLocation.key, hps, hpa, hpw]⟩
  · rintro ⟨⟨hrecord, hsurah, hayah, hword⟩, hkey⟩
    simp only [WordLocation.key, List.forall_mem_cons] at hkey
    exact ⟨hrecord, _, ⟨hsurah, hkey.1⟩, _, ⟨hayah, hkey.2.1⟩, _, ⟨hword, hkey.2.2.1⟩, rfl⟩

/-- The check of a symbol succeeds exactly on the values that read as a shaped one. -/
lemma validateSymbol_eq_ok {value : JsValue} {s : QuranSymbol} :
    validateSymbol value = .ok s ↔ s.Reads value ∧ s.Shaped := by
  constructor
  · intro h
    refine ⟨?_, validateSymbol_shaped h⟩
    simp only [validateSymbol, validateSymbolLocation, bind_eq_ok, failIf_eq_ok, pure_eq_ok,
      exists_const, requireNonEmptyString_eq_ok, requireString_eq_ok, validateLocation_eq_ok,
      requirePositiveInteger_eq_ok, Bool.not_eq_false] at h
    obtain ⟨hrecord, id, ⟨hid, -⟩, text, htext, phoneme, ⟨hphoneme, -⟩, location,
      ⟨place, ⟨hplace, -⟩, symbol, ⟨hsymbol, -⟩, rfl⟩, rfl⟩ := h
    exact ⟨hrecord, hid, htext, hphoneme, ⟨hplace, hsymbol⟩⟩
  · rintro ⟨⟨hrecord, hid, htext, hphoneme, hplace, hsymbol⟩, hs⟩
    simp only [validateSymbol, validateSymbolLocation, bind_eq_ok, failIf_eq_ok, pure_eq_ok,
      exists_const, requireNonEmptyString_eq_ok, requireString_eq_ok, validateLocation_eq_ok,
      requirePositiveInteger_eq_ok, Bool.not_eq_false]
    refine ⟨hrecord, _, ⟨hid, hs.id⟩, _, htext, _, ⟨hphoneme, hs.phoneme⟩, _,
      ⟨_, ⟨hplace, ?_⟩, _, ⟨hsymbol, hs.symbol⟩, rfl⟩, rfl⟩
    simp [WordLocation.key, QuranLocation.toWord, hs.surah, hs.ayah, hs.word]

/-- The references of a word are checked one by one. -/
lemma symbolIds_eq_ok {references : List JsValue} {symbolIds : List String} :
    (references.mapM fun symbolId => requireNonEmptyString symbolId "word symbol id")
        = .ok symbolIds ↔
      references = symbolIds.map JsValue.string ∧ ∀ id ∈ symbolIds, isBlank id = false := by
  rw [mapM_eq_ok]
  simp only [requireNonEmptyString_eq_ok]
  constructor
  · intro h
    induction h with
    | nil => simp
    | cons hab _ ih =>
        rw [List.map_cons, List.forall_mem_cons, hab.1, ih.1]
        exact ⟨rfl, hab.2, ih.2⟩
  · rintro ⟨rfl, hblank⟩
    rw [List.forall₂_map_left_iff, List.forall₂_same]
    exact fun id hid => ⟨rfl, hblank id hid⟩

/-- The check of a word succeeds exactly on the values that read as a shaped one. -/
lemma validateWord_eq_ok {value : JsValue} {w : QuranWord} :
    validateWord value = .ok w ↔ w.Reads value ∧ w.Shaped := by
  constructor
  · intro h
    refine ⟨?_, validateWord_shaped h⟩
    simp only [validateWord, bind_eq_ok, failIf_eq_ok, pure_eq_ok, exists_const,
      requireNonEmptyString_eq_ok, requireString_eq_ok, requireArray_eq_ok, symbolIds_eq_ok,
      validateLocation_eq_ok, Bool.not_eq_false] at h
    obtain ⟨hrecord, id, ⟨hid, -⟩, text, htext, references, hrefs, -, symbolIds, ⟨rfl, -⟩,
      location, ⟨hlocation, -⟩, rfl⟩ := h
    exact ⟨hrecord, hid, htext, hrefs, hlocation⟩
  · rintro ⟨⟨hrecord, hid, htext, hrefs, hlocation⟩, hw⟩
    simp only [validateWord, bind_eq_ok, failIf_eq_ok, pure_eq_ok, exists_const,
      requireNonEmptyString_eq_ok, requireString_eq_ok, requireArray_eq_ok, symbolIds_eq_ok,
      validateLocation_eq_ok, Bool.not_eq_false]
    refine ⟨hrecord, _, ⟨hid, hw.id⟩, _, htext, _, hrefs, ?_, _, ⟨rfl, hw.references⟩, _,
      ⟨hlocation, ?_⟩, rfl⟩
    · simpa using hw.symbolIds
    · simp [WordLocation.key, hw.surah, hw.ayah, hw.word]

/-! ### No round throws -/

/-- Where the second list of two related ones is cut, so is the first. -/
lemma forall₂_split {α β : Type*} {r : α → β → Prop} {l : List α} {pre post : List β} {b : β}
    (h : List.Forall₂ r l (pre ++ b :: post)) :
    ∃ a, r a b ∧ l = l.take pre.length ++ a :: l.drop (pre.length + 1) ∧
      l.take (pre ++ [b]).length = l.take pre.length ++ [a] := by
  have hlen := h.length_eq
  rw [List.length_append, List.length_cons] at hlen
  have hlt : pre.length < l.length := by omega
  refine ⟨l[pre.length], ?_, ?_, ?_⟩
  · have hget := h.get (i := pre.length) hlt (by simp)
    simpa using hget
  · rw [← List.drop_eq_getElem_cons hlt, List.take_append_drop]
  · rw [List.length_append, List.length_singleton, List.take_succ_eq_append_getElem hlt]

/-- One round over a symbol of a well-formed corpus succeeds. -/
lemma SymbolPass.Sound.visit_total {corpus : QuranCorpus} (h : WellFormedCorpus corpus)
    {pass : SymbolPass} (hpass : pass.Sound) {s : QuranSymbol} {rest : List QuranSymbol}
    (hsplit : corpus.symbols = pass.symbols ++ s :: rest) {value : JsValue}
    (hreads : s.Reads value) :
    ∃ next, visitSymbol pass value = .ok next ∧ next.symbols = pass.symbols ++ [s] := by
  have hmem : s ∈ corpus.symbols := by rw [hsplit]; simp
  have hvalue : validateSymbol value = .ok s :=
    validateSymbol_eq_ok.mpr ⟨hreads, h.symbols_shaped s hmem⟩
  have hnew : ¬pass.symbolsById.has s.id = true := by
    rw [OrderedMap.has, Option.isSome_iff_exists]
    rintro ⟨t, ht⟩
    obtain ⟨hmem, hid⟩ := hpass.get_symbol.mp ht
    have hnodup := h.symbolIds_nodup
    rw [hsplit, List.map_append, List.map_cons, List.nodup_append] at hnodup
    exact hnodup.2.2 t.id (List.mem_map_of_mem hmem) s.id (by simp) hid
  have hlast : ¬∃ previous ∈ pass.previousSymbol,
      0 ≤ compareLocation previous.location s.location := by
    rintro ⟨t, ht, hle⟩
    have hmono := h.symbols_monotone
    rw [hsplit, List.pairwise_append] at hmono
    rw [hpass.previous] at ht
    exact absurd (hmono.2.2 t (List.mem_of_getLast? ht) s (by simp)) (not_lt.mpr hle)
  simp only [visitSymbol, bind_eq_ok, failIf_eq_ok, pure_eq_ok, exists_const]
  exact ⟨_, ⟨s, hvalue, hnew, hlast, rfl⟩, rfl⟩

/-- Under the address model the pass over the symbols ends with all of them. -/
lemma symbolPass_total {corpus : QuranCorpus} (h : WellFormedCorpus corpus)
    {values : List JsValue} (hvalues : List.Forall₂ QuranSymbol.Reads corpus.symbols values) :
    ∃ pass, values.foldlM visitSymbol ⟨[], .empty, .empty, none⟩ = .ok pass ∧
      pass.Sound ∧ pass.symbols = corpus.symbols := by
  have hrounds : ∃ pass, values.foldlM visitSymbol ⟨[], .empty, .empty, none⟩ = .ok pass ∧
      pass.Sound ∧ pass.symbols = corpus.symbols.take values.length := by
    refine foldlM_total (P := fun pre (pass : SymbolPass) =>
      pass.Sound ∧ pass.symbols = corpus.symbols.take pre.length)
      ⟨SymbolPass.sound_empty, rfl⟩ ?_
    rintro pre value post pass rfl ⟨hpass, htake⟩
    obtain ⟨s, hreads, hsplit, hnext⟩ := forall₂_split hvalues
    rw [← htake] at hsplit hnext
    obtain ⟨next, hround, hsymbols⟩ := hpass.visit_total h hsplit hreads
    exact ⟨next, hround, hpass.visit hround, hsymbols.trans hnext.symm⟩
  obtain ⟨pass, hrun, hsound, hall⟩ := hrounds
  exact ⟨pass, hrun, hsound, by rw [hall, ← hvalues.length_eq, List.take_length]⟩

/-- The references of one word of a well-formed corpus pass every check, whatever words
came before it. -/
lemma references_total {corpus : QuranCorpus} (h : WellFormedCorpus corpus)
    {symbols : SymbolPass} (hsym : symbols.Sound) (hall : symbols.symbols = corpus.symbols)
    {before after : List QuranWord} {word : QuranWord}
    (hsplit : corpus.words = before ++ word :: after) {referenced : OrderedSet String}
    (hreferenced : referenced.items = before.flatMap QuranWord.symbolIds) :
    ∃ pass, word.symbolIds.foldlM (visitSymbolId symbols word) ⟨referenced, -1⟩ = .ok pass := by
  have hword : word ∈ corpus.words := by rw [hsplit]; simp
  have hids : corpus.symbols.map QuranSymbol.id = before.flatMap QuranWord.symbolIds ++
      (word.symbolIds ++ after.flatMap QuranWord.symbolIds) := by
    rw [← h.references, hsplit, List.flatMap_append, List.flatMap_cons]
  have hsorted := hsym.indexOf_sorted
  have hnodup := h.symbolIds_nodup
  rw [hall, hids] at hsorted
  rw [hids] at hnodup
  have hincreasing : word.symbolIds.Pairwise fun a b => symbols.indexOf a < symbols.indexOf b :=
    (List.pairwise_append.mp (List.pairwise_append.mp hsorted).2.1).1
  -- after a prefix of the references the last index lies below those still to come
  have hrounds : ∃ pass, word.symbolIds.foldlM (visitSymbolId symbols word) ⟨referenced, -1⟩
      = .ok pass ∧ pass.referencedSymbols.items = referenced.items ++ word.symbolIds ∧
        ∀ post, word.symbolIds = word.symbolIds ++ post → ∀ id ∈ post,
          pass.previousSymbolIndex < symbols.indexOf id := by
    refine foldlM_total (P := fun pre (pass : ReferencePass) =>
      pass.referencedSymbols.items = referenced.items ++ pre ∧
        ∀ post, word.symbolIds = pre ++ post → ∀ id ∈ post,
          pass.previousSymbolIndex < symbols.indexOf id) ⟨by simp, ?_⟩ ?_
    · intro post _ id _
      show (-1 : ℤ) < symbols.indexOf id
      omega
    · rintro pre id post pass hpre ⟨hitems, hbelow⟩
      have hid : id ∈ word.symbolIds := by rw [hpre]; simp
      have hmem : id ∈ corpus.symbols.map QuranSymbol.id := by rw [hids]; simp [hid]
      obtain ⟨s, hs, rfl⟩ := List.mem_map.mp hmem
      have hget : symbols.symbolsById.get s.id = some s :=
        hsym.get_symbol.mpr ⟨by rw [hall]; exact hs, rfl⟩
      have hplace : s.location.toWord = word.location := h.located word hword s hs hid
      have hfresh : s.id ∉ pass.referencedSymbols.items := by
        rw [hitems, hreferenced]
        intro hmem
        rw [hpre, List.append_assoc, ← List.append_assoc, List.cons_append,
          List.nodup_append] at hnodup
        exact hnodup.2.2 s.id hmem s.id (by simp) rfl
      refine ⟨⟨pass.referencedSymbols.add s.id, symbols.indexOf s.id⟩, ?_, ?_, ?_⟩
      · simp only [visitSymbolId, bind_eq_ok, failIf_eq_ok, pure_eq_ok, exists_const]
        refine ⟨s, by rw [hget]; rfl, ?_, ?_, ?_, ?_, rfl⟩
        · simp [← hplace, QuranLocation.toWord]
        · simp [← hplace, QuranLocation.toWord]
        · exact not_le.mpr (hbelow _ hpre s.id (by simp))
        · rw [OrderedSet.has_iff]
          exact hfresh
      · rw [OrderedSet.items_add_of_notMem hfresh, hitems, List.append_assoc]
      · intro post' hpost' id' hid'
        rw [hpost', List.append_assoc] at hincreasing
        have hlt := (List.pairwise_append.mp (List.pairwise_append.mp hincreasing).2.1).2.2
        show (symbols.indexOf s.id : ℤ) < symbols.indexOf id'
        exact_mod_cast hlt s.id (by simp) id' hid'
  obtain ⟨pass, hrun, -⟩ := hrounds
  exact ⟨pass, hrun⟩

/-- One round over a word of a well-formed corpus succeeds. -/
lemma WordPass.Sound.visit_total {corpus : QuranCorpus} (h : WellFormedCorpus corpus)
    {symbols : SymbolPass} (hsym : symbols.Sound) (hall : symbols.symbols = corpus.symbols)
    {pass : WordPass} (hpass : pass.Sound symbols) {word : QuranWord} {rest : List QuranWord}
    (hsplit : corpus.words = pass.words ++ word :: rest) {value : JsValue}
    (hreads : word.Reads value) :
    ∃ next, visitWord symbols pass value = .ok next ∧ next.words = pass.words ++ [word] := by
  have hmem : word ∈ corpus.words := by rw [hsplit]; simp
  have hvalue : validateWord value = .ok word :=
    validateWord_eq_ok.mpr ⟨hreads, h.words_shaped word hmem⟩
  have hnew : ¬pass.wordsById.has word.id = true := by
    rw [OrderedSet.has_iff, hpass.byId]
    intro hid
    have hnodup := h.wordIds_nodup
    rw [hsplit, List.map_append, List.map_cons, List.nodup_append] at hnodup
    exact hnodup.2.2 word.id hid word.id (by simp) rfl
  have hlast : ¬∃ previous ∈ pass.previousWord,
      0 ≤ compareWordLocation previous.location word.location := by
    rintro ⟨v, hv, hle⟩
    have hmono := h.words_monotone
    rw [hsplit, List.pairwise_append] at hmono
    rw [hpass.previous] at hv
    exact absurd (hmono.2.2 v (List.mem_of_getLast? hv) word (by simp)) (not_lt.mpr hle)
  obtain ⟨references, hrefs⟩ := references_total h hsym hall hsplit hpass.referenced
  simp only [visitWord, bind_eq_ok, failIf_eq_ok, pure_eq_ok, exists_const]
  exact ⟨_, ⟨word, hvalue, hnew, hlast, references, hrefs, rfl⟩, rfl⟩

/-- Under the address model the pass over the words ends with all of them. -/
lemma wordPass_total {corpus : QuranCorpus} (h : WellFormedCorpus corpus)
    {symbols : SymbolPass} (hsym : symbols.Sound) (hall : symbols.symbols = corpus.symbols)
    {values : List JsValue} (hvalues : List.Forall₂ QuranWord.Reads corpus.words values) :
    ∃ pass, values.foldlM (visitWord symbols) ⟨[], .empty, .empty, none⟩ = .ok pass ∧
      pass.Sound symbols ∧ pass.words = corpus.words := by
  have hrounds : ∃ pass, values.foldlM (visitWord symbols) ⟨[], .empty, .empty, none⟩ = .ok pass ∧
      pass.Sound symbols ∧ pass.words = corpus.words.take values.length := by
    refine foldlM_total (P := fun pre (pass : WordPass) =>
      pass.Sound symbols ∧ pass.words = corpus.words.take pre.length)
      ⟨WordPass.sound_empty, rfl⟩ ?_
    rintro pre value post pass rfl ⟨hpass, htake⟩
    obtain ⟨word, hreads, hsplit, hnext⟩ := forall₂_split hvalues
    rw [← htake] at hsplit hnext
    obtain ⟨next, hround, hwords⟩ := hpass.visit_total h hsym hall hsplit hreads
    exact ⟨next, hround, hpass.visit hsym hround, hwords.trans hnext.symm⟩
  obtain ⟨pass, hrun, hsound, hall⟩ := hrounds
  exact ⟨pass, hrun, hsound, by rw [hall, ← hvalues.length_eq, List.take_length]⟩

/-! ### Acceptance -/

/-- What the pass over the symbols collects is what their values read as. -/
lemma symbolPass_reads {values : List JsValue} {pass : SymbolPass}
    (h : values.foldlM visitSymbol ⟨[], .empty, .empty, none⟩ = .ok pass) :
    List.Forall₂ QuranSymbol.Reads pass.symbols values := by
  refine foldlM_induction (P := fun pre (pass : SymbolPass) =>
    List.Forall₂ QuranSymbol.Reads pass.symbols pre) h .nil ?_
  intro pre value x y hx hy
  simp only [visitSymbol, bind_eq_ok, failIf_eq_ok, pure_eq_ok, exists_const] at hy
  obtain ⟨s, hs, -, -, rfl⟩ := hy
  exact List.rel_append hx (.cons (validateSymbol_eq_ok.mp hs).1 .nil)

/-- What the pass over the words collects is what their values read as. -/
lemma wordPass_reads {symbols : SymbolPass} {values : List JsValue} {pass : WordPass}
    (h : values.foldlM (visitWord symbols) ⟨[], .empty, .empty, none⟩ = .ok pass) :
    List.Forall₂ QuranWord.Reads pass.words values := by
  refine foldlM_induction (P := fun pre (pass : WordPass) =>
    List.Forall₂ QuranWord.Reads pass.words pre) h .nil ?_
  intro pre value x y hx hy
  simp only [visitWord, bind_eq_ok, failIf_eq_ok, pure_eq_ok, exists_const] at hy
  obtain ⟨word, hword, -, -, references, -, rfl⟩ := hy
  exact List.rel_append hx (.cons (validateWord_eq_ok.mp hword).1 .nil)

/-- An accepted value reads as the corpus it is taken for. -/
lemma validateCorpus_reads {value : JsValue} {corpus : QuranCorpus}
    (h : validateCorpus value = .ok corpus) : corpus.Reads value ∧ AddressModel corpus := by
  have hmodel := validateCorpus_wellFormed h
  simp only [validateCorpus, bind_eq_ok, failIf_eq_ok, pure_eq_ok, exists_const,
    requireNonEmptyString_eq_ok, requireArray_eq_ok, Bool.not_eq_false] at h
  obtain ⟨hrecord, corpusId, ⟨hcorpusId, hid⟩, revision, ⟨hrevision, hrev⟩, symbolValues,
    hsymbolValues, wordValues, hwordValues, symbols, hsymbols, words, hwords, -, rfl⟩ := h
  refine ⟨⟨hrecord, hcorpusId, hrevision, ⟨_, hsymbolValues, symbolPass_reads hsymbols⟩,
    ⟨_, hwordValues, wordPass_reads hwords⟩⟩, ?_⟩
  exact addressModel_iff.mpr ⟨hid, hrev, hmodel⟩

/-- A value that reads as a corpus of the address model is accepted. -/
lemma validateCorpus_of_reads {value : JsValue} {corpus : QuranCorpus}
    (hreads : corpus.Reads value) (hmodel : AddressModel corpus) :
    validateCorpus value = .ok corpus := by
  obtain ⟨hid, hrev, h⟩ := addressModel_iff.mp hmodel
  obtain ⟨hrecord, hcorpusId, hrevision, ⟨symbolValues, hsymbolValues, hsymbols⟩, wordValues,
    hwordValues, hwords⟩ := hreads
  obtain ⟨symbols, hsymbolRun, hsym, hallSymbols⟩ := symbolPass_total h hsymbols
  obtain ⟨words, hwordRun, hword, hallWords⟩ := wordPass_total h hsym hallSymbols hwords
  have htotal : ¬∃ symbol ∈ symbols.symbols, words.referencedSymbols.has symbol.id = false := by
    rintro ⟨s, hs, hmissing⟩
    rw [← Bool.not_eq_true, OrderedSet.has_iff, hword.referenced, hallWords, h.references,
      ← hallSymbols] at hmissing
    exact hmissing (List.mem_map_of_mem hs)
  simp only [validateCorpus, bind_eq_ok, failIf_eq_ok, pure_eq_ok, exists_const,
    requireNonEmptyString_eq_ok, requireArray_eq_ok, Bool.not_eq_false]
  refine ⟨hrecord, _, ⟨hcorpusId, hid⟩, _, ⟨hrevision, hrev⟩, _, hsymbolValues, _, hwordValues,
    symbols, hsymbolRun, words, hwordRun, htotal, ?_⟩
  rw [hallSymbols, hallWords]

/-- **Acceptance is the address model.** A value passes the validation exactly when it
reads as a corpus of the partitioned address model. -/
theorem validateCorpus_accepts_iff (value : JsValue) :
    (∃ corpus, validateCorpus value = .ok corpus) ↔
      ∃ corpus : QuranCorpus, corpus.Reads value ∧ AddressModel corpus := by
  constructor
  · rintro ⟨corpus, h⟩
    exact ⟨corpus, validateCorpus_reads h⟩
  · rintro ⟨corpus, hreads, hmodel⟩
    exact ⟨corpus, validateCorpus_of_reads hreads hmodel⟩

end Qaraa
