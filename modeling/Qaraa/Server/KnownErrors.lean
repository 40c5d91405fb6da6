import Qaraa.Server.DomainErrors
import Qaraa.Core.CorpusAcceptance
import Qaraa.Library.Failures

/-!
The known domain errors of a session service are all the domain errors there are.

* `Listed`: an error a table of messages lists.
* `Spells`: the texts a pattern is written for.
* `validateObservation_listed`: whatever value is checked, an observation is refused with
  an error of `OBSERVATION_VALIDATION_MESSAGES`.
* `ReferencesKnown`: every reference of a corpus is the id of one of its symbols. The text
  of a missing symbol's error ends in the id itself, which `.+` does not match when it
  contains a line break; behind `assertValidCorpus` no reference is missing.
* `validateCorpus_listed`: a corpus without missing references is refused with an error of
  `CORPUS_VALIDATION_MESSAGES`.
* `assertDomainCorpus_refuses`: **what the service answers a refused corpus with is never an
  unknown error**.
-/

namespace Qaraa.SessionService

open Fallible Ordered

/-- The error is one of those a table lists. -/
def Listed (messages : List Pattern) (error : JsError) : Prop :=
  isKnownDomainError error messages = true

instance (messages : List Pattern) (error : JsError) : Decidable (Listed messages error) :=
  inferInstanceAs (Decidable (_ = true))

/-! ### What a pattern matches -/

/-- A text a pattern is written for: its pieces one after the other. -/
inductive Spells : Pattern → String → Prop where
  | nil : Spells [] ""
  | text {rest : Pattern} {message : String} (text : String) (h : Spells rest message) :
      Spells (.text text :: rest) (text ++ message)
  | oneOf {texts : List String} {text message : String} {rest : Pattern} (hmem : text ∈ texts)
      (h : Spells rest message) : Spells (.oneOf texts :: rest) (text ++ message)
  | digits {rest : Pattern} {message : String} (n : ℕ) (h : Spells rest message) :
      Spells (.digits :: rest) (toString n ++ message)

/-- A text the pattern is written for matches it. -/
lemma Spells.test {pattern : Pattern} {message : String} (h : Spells pattern message) :
    pattern.test message = true := by
  rw [Pattern.test]
  induction h with
  | nil => rfl
  | text text _ ih =>
      rw [String.toList_append, Pattern.matches, List.drop_left, ih, Bool.and_true,
        List.isPrefixOf_iff_prefix]
      exact List.prefix_append _ _
  | oneOf hmem _ ih =>
      rw [String.toList_append, Pattern.matches, List.any_eq_true]
      refine ⟨_, hmem, ?_⟩
      rw [List.drop_left, ih, Bool.and_true, List.isPrefixOf_iff_prefix]
      exact List.prefix_append _ _
  | @digits rest message n _ ih =>
      have hsome : 0 < (Nat.toDigits 10 n).length := Nat.length_toDigits_pos
      have hlength : (Nat.toDigits 10 n).length - 1 + 1 = (Nat.toDigits 10 n).length := by omega
      rw [Nat.toString_eq_repr, String.toList_append, Nat.toList_repr, Pattern.matches,
        List.any_eq_true]
      refine ⟨(Nat.toDigits 10 n).length - 1, ?_, ?_⟩
      · rw [List.mem_range, List.length_append]
        omega
      · rw [takes, hlength, List.take_left, List.drop_left, ih, Bool.and_true, Bool.and_eq_true]
        refine ⟨?_, List.all_eq_true.mpr fun c hc => ?_⟩
        · rw [List.length_append]
          exact decide_eq_true (by omega)
        · exact Nat.isDigit_of_mem_toDigits (by decide) (by decide) hc

section Checks

variable {messages : List Pattern}

namespace Listed

lemma spells {pattern : Pattern} {spelled message : String} (h : Spells pattern spelled)
    (hmem : pattern ∈ messages) (hmessage : message = spelled) :
    Listed messages (.typeError message) := by
  rw [Listed, isKnownDomainError, List.any_eq_true]
  exact ⟨pattern, hmem, by rw [hmessage, h.test]⟩

lemma text {message : String} (hmem : [.text message] ∈ messages) :
    Listed messages (.typeError message) :=
  spells (.text message .nil) hmem (String.append_empty).symm

/-- One of several texts between two fixed ones. -/
lemma choice (before text after : String) (texts : List String) {message : String}
    (hmem : [.text before, .oneOf texts, .text after] ∈ messages) (htext : text ∈ texts)
    (hmessage : message = before ++ (text ++ after)) : Listed messages (.typeError message) :=
  spells (.text before (.oneOf htext (.text after .nil))) hmem
    (by rw [hmessage, String.append_empty])

/-- A fault of an address or of a part of one. -/
lemma address (label part fault : String) (parts : List String) {message : String}
    (hmem : [.text label, .oneOf parts, .text " must be ",
      .oneOf ["an address", "a positive integer"]] ∈ messages) (hpart : part ∈ parts)
    (hfault : fault ∈ ["an address", "a positive integer"])
    (hmessage : message = label ++ (part ++ (" must be " ++ fault))) :
    Listed messages (.typeError message) :=
  spells (.text label (.oneOf hpart (.text " must be " (.oneOf hfault .nil)))) hmem
    (by rw [hmessage, String.append_empty])

/-- A number between two fixed texts. -/
lemma number (before after : String) (n : ℕ) {message : String}
    (hmem : [.text before, .digits, .text after] ∈ messages)
    (hmessage : message = before ++ (toString n ++ after)) :
    Listed messages (.typeError message) :=
  spells (.text before (.digits n (.text after .nil))) hmem (by rw [hmessage, String.append_empty])

end Listed

/-! ### Field checks -/

lemma requireNonEmptyString_listed {label : String}
    (h : Listed messages (.typeError (label ++ " must be a non-empty string"))) (value : JsValue) :
    FailsIn (Listed messages) (requireNonEmptyString value label) := by
  rw [requireNonEmptyString.eq_def]
  split
  · split
    · exact .error h
    · exact .ok _
  · exact .error h

lemma requireString_listed {message : String} (h : Listed messages (.typeError message))
    (value : JsValue) : FailsIn (Listed messages) (requireString value message) := by
  rw [requireString.eq_def]
  split
  · exact .ok _
  · exact .error h

lemma requireArray_listed {message : String} (h : Listed messages (.typeError message))
    (value : JsValue) : FailsIn (Listed messages) (requireArray value message) := by
  rw [requireArray.eq_def]
  split
  · exact .ok _
  · exact .error h

lemma requireBoolean_listed {message : String} (h : Listed messages (.typeError message))
    (value : JsValue) : FailsIn (Listed messages) (requireBoolean value message) := by
  rw [requireBoolean.eq_def]
  split
  · exact .ok _
  · exact .error h

lemma requirePositiveInteger_listed {label : String}
    (h : Listed messages (.typeError (label ++ " must be a positive integer"))) (value : JsValue) :
    FailsIn (Listed messages) (requirePositiveInteger value label) := by
  rw [requirePositiveInteger.eq_def]
  split
  · split
    · exact .ok _
    · exact .error h
  · exact .error h

lemma requireFiniteTimestamp_listed {label : String}
    (h : Listed messages (.typeError (label ++ " must be a non-negative finite timestamp")))
    (value : JsValue) : FailsIn (Listed messages) (requireFiniteTimestamp value label) := by
  rw [requireFiniteTimestamp.eq_def]
  split
  · split
    · exact .error h
    · exact .ok _
  · exact .error h

lemma requireStringLength_listed {maximum : ℕ} {label : String}
    (h : Listed messages (.typeError
      (label ++ " must contain at most " ++ toString maximum ++ " UTF-16 code units")))
    (value : String) : FailsIn (Listed messages) (requireStringLength value maximum label) :=
  .failIf fun _ => h

end Checks

/-! ### Observations -/

lemma observationIdLength_listed : Listed OBSERVATION_VALIDATION_MESSAGES
    (.typeError ("observation id" ++ " must contain at most "
      ++ toString observationLimits.maxObservationIdLength ++ " UTF-16 code units")) :=
  .number "observation id must contain at most " " UTF-16 code units" _
    (by simp [OBSERVATION_VALIDATION_MESSAGES]) (String.append_assoc ..)

lemma tokenLength_listed {label : String} (part : String) (hpart : part ∈ ["id", "text", "phoneme"])
    (hlabel : label = "observation token " ++ part) (maximum : ℕ) :
    Listed OBSERVATION_VALIDATION_MESSAGES (.typeError
      (label ++ " must contain at most " ++ toString maximum ++ " UTF-16 code units")) := by
  refine .spells (.text "observation token " (.oneOf hpart (.text " must contain at most "
    (.digits maximum (.text " UTF-16 code units" .nil))))) ?_ ?_
  · simp [OBSERVATION_VALIDATION_MESSAGES]
  · simp only [hlabel, String.append_assoc, String.append_empty]

lemma tokenTimestamp_listed (name : String) (hname : name ∈ ["startMs", "endMs"]) :
    Listed OBSERVATION_VALIDATION_MESSAGES
      (.typeError ("observation token " ++ name ++ " must be a non-negative finite timestamp")) :=
  .choice "observation token " name " must be a non-negative finite timestamp" ["startMs", "endMs"]
    (by simp [OBSERVATION_VALIDATION_MESSAGES]) hname (String.append_assoc ..)

lemma requireSourceRevision_listed (value : JsValue) :
    FailsIn (Listed OBSERVATION_VALIDATION_MESSAGES) (requireSourceRevision value) := by
  rw [requireSourceRevision.eq_def]
  split
  · split
    · exact .ok _
    · exact .error (.text (by simp [OBSERVATION_VALIDATION_MESSAGES]))
  · exact .error (.text (by simp [OBSERVATION_VALIDATION_MESSAGES]))

lemma nextTimestamp_listed {name : String}
    (h : Listed OBSERVATION_VALIDATION_MESSAGES
      (.typeError ("observation token " ++ name ++ " must be a non-negative finite timestamp")))
    (value : JsValue) (latest : Option ℚ) :
    FailsIn (Listed OBSERVATION_VALIDATION_MESSAGES) (nextTimestamp value name latest) := by
  rw [nextTimestamp.eq_def]
  split
  · exact .ok _
  · refine (requireFiniteTimestamp_listed h value).bind fun timestamp _ => ?_
    exact (FailsIn.failIf fun _ => .text (by simp [OBSERVATION_VALIDATION_MESSAGES])).bind
      fun _ _ => .pure _

lemma optionalConfidence_listed (value : JsValue) :
    FailsIn (Listed OBSERVATION_VALIDATION_MESSAGES) (optionalConfidence value) := by
  rw [optionalConfidence.eq_def]
  split
  · exact .ok _
  · split
    · exact .error (.text (by simp [OBSERVATION_VALIDATION_MESSAGES]))
    · exact .ok _
  · exact .error (.text (by simp [OBSERVATION_VALIDATION_MESSAGES]))

lemma validateObservationToken_listed (token : JsValue) (lastTimestamp : Option ℚ) :
    FailsIn (Listed OBSERVATION_VALIDATION_MESSAGES)
      (validateObservationToken token lastTimestamp) := by
  refine (FailsIn.failIf fun _ => .text (by simp [OBSERVATION_VALIDATION_MESSAGES])).bind
    fun _ _ => ?_
  refine (requireNonEmptyString_listed (.text (by simp [OBSERVATION_VALIDATION_MESSAGES])) _).bind
    fun id _ => ?_
  refine (requireStringLength_listed (tokenLength_listed "id" (by simp) (by simp) _) id).bind
    fun _ _ => ?_
  refine (requireString_listed (.text (by simp [OBSERVATION_VALIDATION_MESSAGES])) _).bind
    fun text _ => ?_
  refine (requireStringLength_listed (tokenLength_listed "text" (by simp) (by simp) _) text).bind
    fun _ _ => ?_
  refine (requireArray_listed (.text (by simp [OBSERVATION_VALIDATION_MESSAGES])) _).bind
    fun phonemeValues _ => ?_
  refine (FailsIn.mapM fun phoneme _ => requireString_listed
    (.text (by simp [OBSERVATION_VALIDATION_MESSAGES])) phoneme).bind
    fun phonemes _ => ?_
  refine (FailsIn.forM fun phoneme _ => requireStringLength_listed
    (tokenLength_listed "phoneme" (by simp) (by simp) _) phoneme).bind
    fun _ _ => ?_
  refine (nextTimestamp_listed (tokenTimestamp_listed "startMs" (by simp)) _ _).bind
    fun startMs _ => ?_
  refine (nextTimestamp_listed (tokenTimestamp_listed "endMs" (by simp)) _ _).bind fun endMs _ => ?_
  exact (optionalConfidence_listed _).bind fun confidence _ => .pure _

lemma visitToken_listed (pass : TokenPass) (value : JsValue) :
    FailsIn (Listed OBSERVATION_VALIDATION_MESSAGES) (visitToken pass value) := by
  refine (FailsIn.failIf fun _ => .text (by simp [OBSERVATION_VALIDATION_MESSAGES])).bind
    fun _ _ => ?_
  refine (requireNonEmptyString_listed (.text (by simp [OBSERVATION_VALIDATION_MESSAGES])) _).bind
    fun id _ => ?_
  refine (FailsIn.failIf fun _ => .text (by simp [OBSERVATION_VALIDATION_MESSAGES])).bind
    fun _ _ => ?_
  refine (validateObservationToken_listed value pass.lastTimestamp).bind fun token _ => ?_
  exact (FailsIn.failIf fun _ => .number "observation must contain at most " " phonemes" _
    (by simp [OBSERVATION_VALIDATION_MESSAGES]) (String.append_assoc ..)).bind fun _ _ => .pure _

/-- **Whatever is submitted, an observation is refused with a known error.** -/
theorem validateObservation_listed (observation : JsValue) :
    FailsIn (Listed OBSERVATION_VALIDATION_MESSAGES) (validateObservation observation) := by
  refine (FailsIn.failIf fun _ => .text (by simp [OBSERVATION_VALIDATION_MESSAGES])).bind
    fun _ _ => ?_
  refine (requireNonEmptyString_listed (.text (by simp [OBSERVATION_VALIDATION_MESSAGES])) _).bind
    fun observationId _ => ?_
  refine (requireStringLength_listed observationIdLength_listed observationId).bind fun _ _ => ?_
  refine (requireSourceRevision_listed _).bind fun sourceRevision _ => ?_
  refine (requireBoolean_listed (.text (by simp [OBSERVATION_VALIDATION_MESSAGES])) _).bind
    fun isFinal _ => ?_
  refine (requireFiniteTimestamp_listed (.text (by simp [OBSERVATION_VALIDATION_MESSAGES])) _).bind
    fun receivedAtMs _ => ?_
  refine (requireArray_listed (.text (by simp [OBSERVATION_VALIDATION_MESSAGES])) _).bind
    fun tokenValues _ => ?_
  refine (FailsIn.failIf fun _ => .number "observation must contain at most " " tokens" _
    (by simp [OBSERVATION_VALIDATION_MESSAGES]) (String.append_assoc ..)).bind fun _ _ => ?_
  refine (FailsIn.failIf fun _ => .text (by simp [OBSERVATION_VALIDATION_MESSAGES])).bind
    fun _ _ => ?_
  refine FailsIn.bind ?_ fun pass _ => .pure _
  exact .foldlM (I := fun _ _ => True) trivial (fun _ _ _ _ _ _ _ _ => trivial)
    fun _ value _ pass _ _ => visitToken_listed pass value

/-! ### Corpora -/

lemma validateLocation_listed {label : String} (parts : List String)
    (hmem : [.text label, .oneOf parts, .text " must be ",
      .oneOf ["an address", "a positive integer"]] ∈ CORPUS_VALIDATION_MESSAGES)
    (hparts : ∀ part ∈ ["", ".surah", ".ayah", ".word"], part ∈ parts) (location : JsValue) :
    FailsIn (Listed CORPUS_VALIDATION_MESSAGES) (validateLocation location label) := by
  have hpart : ∀ part ∈ ["", ".surah", ".ayah", ".word"], Listed CORPUS_VALIDATION_MESSAGES
      (.typeError (label ++ part ++ " must be a positive integer")) := by
    intro part h
    exact .address label part "a positive integer" parts hmem (hparts part h) (by simp)
      (String.append_assoc ..)
  refine (FailsIn.failIf fun _ => .address label "" "an address" parts hmem (hparts "" (by simp))
    (by simp) (by simp)).bind fun _ _ => ?_
  refine (requirePositiveInteger_listed (hpart ".surah" (by simp)) _).bind fun surah _ => ?_
  refine (requirePositiveInteger_listed (hpart ".ayah" (by simp)) _).bind fun ayah _ => ?_
  exact (requirePositiveInteger_listed (hpart ".word" (by simp)) _).bind fun word _ => .pure _

/-- A text of a symbol or of a corpus that is not there. -/
lemma emptyText_listed {label : String} (subject name : String) (names : List String)
    (hmem : [.text subject, .oneOf names, .text " must be a non-empty string"]
      ∈ CORPUS_VALIDATION_MESSAGES) (hname : name ∈ names) (hlabel : label = subject ++ name) :
    Listed CORPUS_VALIDATION_MESSAGES (.typeError (label ++ " must be a non-empty string")) :=
  .choice subject name " must be a non-empty string" names hmem hname
    (by rw [hlabel, String.append_assoc])

lemma validateSymbol_listed (symbol : JsValue) :
    FailsIn (Listed CORPUS_VALIDATION_MESSAGES) (validateSymbol symbol) := by
  refine (FailsIn.failIf fun _ => .text (by simp [CORPUS_VALIDATION_MESSAGES])).bind fun _ _ => ?_
  have hname : ∀ name ∈ ["id", "phoneme"], Listed CORPUS_VALIDATION_MESSAGES
      (.typeError ("symbol " ++ name ++ " must be a non-empty string")) := fun name h =>
    emptyText_listed "symbol " name _ (by simp [CORPUS_VALIDATION_MESSAGES]) h rfl
  refine (requireNonEmptyString_listed (hname "id" (by simp)) _).bind fun id _ => ?_
  refine (requireString_listed (.text (by simp [CORPUS_VALIDATION_MESSAGES])) _).bind
    fun text _ => ?_
  refine (requireNonEmptyString_listed (hname "phoneme" (by simp)) _).bind fun phoneme _ => ?_
  refine FailsIn.bind ?_ fun location _ => .pure _
  refine (validateLocation_listed ["", ".surah", ".ayah", ".word", ".symbol"]
    (by simp [CORPUS_VALIDATION_MESSAGES]) (by simp)
    _).bind fun place _ => ?_
  exact (requirePositiveInteger_listed (.address "symbol location" ".symbol" "a positive integer"
    ["", ".surah", ".ayah", ".word", ".symbol"]
    (by simp [CORPUS_VALIDATION_MESSAGES]) (by simp) (by simp) (String.append_assoc ..)) _).bind
      fun symbol _ => .pure _

lemma visitSymbol_listed (pass : SymbolPass) (value : JsValue) :
    FailsIn (Listed CORPUS_VALIDATION_MESSAGES) (visitSymbol pass value) := by
  refine (validateSymbol_listed value).bind fun symbol _ => ?_
  refine (FailsIn.failIf fun _ => .text (by simp [CORPUS_VALIDATION_MESSAGES])).bind fun _ _ => ?_
  exact (FailsIn.failIf fun _ => .text (by simp [CORPUS_VALIDATION_MESSAGES])).bind
    fun _ _ => .pure _

lemma validateWord_listed (word : JsValue) :
    FailsIn (Listed CORPUS_VALIDATION_MESSAGES) (validateWord word) := by
  refine (FailsIn.failIf fun _ => .text (by simp [CORPUS_VALIDATION_MESSAGES])).bind fun _ _ => ?_
  refine (requireNonEmptyString_listed (.text (by simp [CORPUS_VALIDATION_MESSAGES])) _).bind
    fun id _ => ?_
  refine (requireString_listed (.text (by simp [CORPUS_VALIDATION_MESSAGES])) _).bind
    fun text _ => ?_
  refine (requireArray_listed (.text (by simp [CORPUS_VALIDATION_MESSAGES])) _).bind
    fun references _ => ?_
  refine (FailsIn.failIf fun _ => .text (by simp [CORPUS_VALIDATION_MESSAGES])).bind fun _ _ => ?_
  refine (FailsIn.mapM fun symbolId _ => requireNonEmptyString_listed
    (.text (by simp [CORPUS_VALIDATION_MESSAGES])) symbolId).bind
    fun symbolIds _ => ?_
  exact (validateLocation_listed ["", ".surah", ".ayah", ".word"]
    (by simp [CORPUS_VALIDATION_MESSAGES]) (by simp) _).bind
    fun location _ => .pure _

/-- A reference that is there fails with a text of its own kind only. -/
lemma visitSymbolId_listed {symbols : SymbolPass} {symbolId : String} {found : QuranSymbol}
    (hfound : symbols.symbolsById.get symbolId = some found) (word : QuranWord)
    (pass : ReferencePass) :
    FailsIn (Listed CORPUS_VALIDATION_MESSAGES) (visitSymbolId symbols word pass symbolId) := by
  refine FailsIn.bind (by rw [hfound]; exact .ok _) fun symbol _ => ?_
  refine (FailsIn.failIf fun _ => .text (by simp [CORPUS_VALIDATION_MESSAGES])).bind fun _ _ => ?_
  refine (FailsIn.failIf fun _ => .text (by simp [CORPUS_VALIDATION_MESSAGES])).bind fun _ _ => ?_
  refine (FailsIn.failIf fun _ => .text (by simp [CORPUS_VALIDATION_MESSAGES])).bind fun _ _ => ?_
  exact (FailsIn.failIf fun _ => .text (by simp [CORPUS_VALIDATION_MESSAGES])).bind
    fun _ _ => .pure _

/-- Every reference of a corpus value is the id of one of its symbols. -/
def ReferencesKnown (corpus : JsValue) : Prop :=
  ∀ word ∈ (corpus.field "words").items, ∀ id, JsValue.string id ∈ (word.field "symbolIds").items →
    ∃ symbol ∈ (corpus.field "symbols").items, symbol.field "id" = .string id

lemma visitWord_listed {symbols : SymbolPass} {value : JsValue}
    (h : ∀ id, JsValue.string id ∈ (value.field "symbolIds").items →
      ∃ found, symbols.symbolsById.get id = some found) (pass : WordPass) :
    FailsIn (Listed CORPUS_VALIDATION_MESSAGES) (visitWord symbols pass value) := by
  refine (validateWord_listed value).bind fun word hword => ?_
  refine (FailsIn.failIf fun _ => .text (by simp [CORPUS_VALIDATION_MESSAGES])).bind fun _ _ => ?_
  refine (FailsIn.failIf fun _ => .text (by simp [CORPUS_VALIDATION_MESSAGES])).bind fun _ _ => ?_
  refine FailsIn.bind ?_ fun references _ => .pure _
  refine .foldlM (I := fun _ _ => True) trivial (fun _ _ _ _ _ _ _ _ => trivial) ?_
  intro pre id post references hids _
  have hmem : JsValue.string id ∈ (value.field "symbolIds").items := by
    rw [(validateWord_eq_ok.mp hword).1.symbolIds, hids]
    simp [JsValue.items]
  obtain ⟨found, hfound⟩ := h id hmem
  exact visitSymbolId_listed hfound word references

/-- What the pass over the symbols leaves behind knows every symbol id of the corpus. -/
lemma symbolPass_knows {values : List JsValue} {pass : SymbolPass}
    (hrun : values.foldlM visitSymbol ⟨[], .empty, .empty, none⟩ = .ok pass) {symbol : JsValue}
    (hmem : symbol ∈ values) {id : String} (hid : symbol.field "id" = .string id) :
    ∃ found, pass.symbolsById.get id = some found := by
  have hsound : pass.Sound := foldlM_induction (P := fun _ (x : SymbolPass) => x.Sound) hrun
    SymbolPass.sound_empty fun _ _ _ _ hx hy => hx.visit hy
  obtain ⟨i, hi, rfl⟩ := List.mem_iff_getElem.mp hmem
  have hreads := symbolPass_reads hrun
  have hlt : i < pass.symbols.length := by
    rw [hreads.length_eq]
    exact hi
  have hread : QuranSymbol.Reads pass.symbols[i] values[i] := hreads.get hlt hi
  refine ⟨pass.symbols[i], hsound.get_symbol.mpr ⟨List.getElem_mem hlt, ?_⟩⟩
  rw [hread.id] at hid
  exact JsValue.string.inj hid

/-- A corpus without missing references is refused with a known error. -/
theorem validateCorpus_listed {corpus : JsValue} (h : ReferencesKnown corpus) :
    FailsIn (Listed CORPUS_VALIDATION_MESSAGES) (validateCorpus corpus) := by
  refine (FailsIn.failIf fun _ => .text (by simp [CORPUS_VALIDATION_MESSAGES])).bind fun _ _ => ?_
  have hname : ∀ name ∈ ["id", "revision"], Listed CORPUS_VALIDATION_MESSAGES
      (.typeError ("corpus " ++ name ++ " must be a non-empty string")) := fun name h =>
    emptyText_listed "corpus " name _ (by simp [CORPUS_VALIDATION_MESSAGES]) h rfl
  refine (requireNonEmptyString_listed (hname "id" (by simp)) _).bind fun corpusId _ => ?_
  refine (requireNonEmptyString_listed (hname "revision" (by simp)) _).bind fun revision _ => ?_
  refine (requireArray_listed (.text (by simp [CORPUS_VALIDATION_MESSAGES])) _).bind
    fun symbolValues hsymbols => ?_
  refine (requireArray_listed (.text (by simp [CORPUS_VALIDATION_MESSAGES])) _).bind
    fun wordValues hwords => ?_
  rw [requireArray_eq_ok] at hsymbols hwords
  refine FailsIn.bind ?_ fun symbols hpass => ?_
  · exact .foldlM (I := fun _ _ => True) trivial (fun _ _ _ _ _ _ _ _ => trivial)
      fun _ value _ pass _ _ => visitSymbol_listed pass value
  refine FailsIn.bind ?_ fun words _ => ?_
  · refine .foldlM (I := fun _ _ => True) trivial (fun _ _ _ _ _ _ _ _ => trivial) ?_
    intro pre word post pass hsplit _
    refine visitWord_listed (fun id hid => ?_) pass
    have hword : word ∈ (corpus.field "words").items := by
      rw [hwords, JsValue.items, hsplit]
      simp
    obtain ⟨symbol, hsymbol, hsymbolId⟩ := h word hword id hid
    rw [hsymbols] at hsymbol
    exact symbolPass_knows hpass hsymbol hsymbolId
  exact (FailsIn.failIf fun _ => .text (by simp [CORPUS_VALIDATION_MESSAGES])).bind
    fun _ _ => .pure _

/-! ### What the service answers a refused payload with -/

/-- The string in a field, where its text is not empty. -/
lemma field_of_textField {value : JsValue} {name text : String} (h : value.textField name = text)
    (hsome : text ≠ "") : value.field name = .string text := by
  rw [JsValue.textField] at h
  cases hfield : value.field name with
  | string found =>
      rw [hfield] at h
      exact congrArg JsValue.string h
  | _ =>
      rw [hfield] at h
      exact absurd h.symm hsome

/-- A corpus `assertValidCorpus` lets through misses no symbol. -/
lemma referencesKnown_of_valid {corpus : JsValue} (h : assertValidCorpus corpus = .ok ()) :
    ReferencesKnown corpus := by
  have hids : corpusIdsInvalid corpus = false := by
    rw [assertValidCorpus] at h
    split at h
    · cases h
    · split at h
      · cases h
      · rename_i hvalid
        exact eq_false_of_ne_true hvalid
  intro word hword id hid
  simp only [corpusIdsInvalid, Bool.or_eq_false_iff, List.any_eq_false, Bool.or_eq_true,
    not_or] at hids
  have hreferences := (hids.2 word hword).2
  rw [Bool.not_eq_true, List.any_eq_false] at hreferences
  have hreference := hreferences id (List.mem_map.mpr ⟨.string id, hid, rfl⟩)
  rw [Bool.or_eq_true, not_or] at hreference
  obtain ⟨hblank, hknown⟩ := hreference
  rw [Bool.not_eq_true, Bool.not_eq_false', List.contains_iff_mem] at hknown
  obtain ⟨symbol, hsymbol, htext⟩ := List.mem_map.mp hknown
  refine ⟨symbol, hsymbol, field_of_textField htext ?_⟩
  rintro rfl
  exact hblank rfl

/-- The refusal of a payload with a listed error. -/
lemma domainFailure_listed {messages : List Pattern} {error : JsError} (h : Listed messages error)
    (known : QaraaProtocolError) : domainFailure error messages known = .protocol known := by
  rw [domainFailure]
  exact if_pos h

/-- **A corpus past the protocol checks is refused as an invalid corpus.** -/
theorem assertDomainCorpus_refuses {corpus : JsValue} (h : assertValidCorpus corpus = .ok ()) :
    FailsIn (· = .protocol (invalidCorpus .domainValidation)) (assertDomainCorpus corpus) := by
  rw [assertDomainCorpus]
  split
  · rename_i error herror
    exact .error (domainFailure_listed
      (validateCorpus_listed (referencesKnown_of_valid h) error herror) _)
  · split
    · exact .error rfl
    · exact .ok _

end Qaraa.SessionService
