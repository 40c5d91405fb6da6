import Qaraa.Core.AyahRanges
import Qaraa.Sdk.Observations
import Qaraa.Sherpa.Normalize

/-!
When the conversion of a recognizer's output returns.

* `keptTokens`, `WithinLimits`: the tokens the mapper keeps, and the limits on them.
* `timestampsFrom_ordered`: accepted timestamps do not decrease after rounding.
* `Clock`: an accepted array of starts; `neverDecrease`: **the times of the kept tokens do not
  decrease**, whatever tokens were dropped between them.
* `normalizeSherpaResult_accepts_iff`: **timing and probabilities decide nothing**: the
  conversion returns exactly when the kept tokens are within the limits, and then with an
  observation the core accepts.
-/

namespace Qaraa.Sherpa

open Fallible Sdk

/-! ### Kept tokens -/

/-- A mapping is null or has a text and phonemes. -/
def IsMapping (mapped : JsValue) : Prop :=
  mapped = .null ∨ (wellFormedMapping mapped).isSome = true

/-- The tokens a mapper keeps, in their order, the first at `index`. -/
def keptFrom (mapper : TokenMapper) (index : ℕ) (tokens : List String) : List (ℕ × MappedToken) :=
  (tokens.zipIdx index).filterMap fun item =>
    (wellFormedMapping (mapper item.1 item.2)).map fun mapping => (item.2, mapping)

/-- The tokens that the mapper keeps, with their places. -/
def keptTokens (mapper : TokenMapper) (tokens : List String) : List (ℕ × MappedToken) :=
  keptFrom mapper 0 tokens

/-- The size limits of an observation, for the tokens that are kept. -/
structure WithinLimits (observationId : String) (kept : List (ℕ × MappedToken)) : Prop where
  observationId : utf16Length observationId ≤ observationLimits.maxObservationIdLength
  count : kept.length ≤ observationLimits.maxTokens
  phonemeCount : (kept.map fun item => item.2.phonemes.length).sum ≤ observationLimits.maxPhonemes
  id : ∀ item ∈ kept, utf16Length (tokenId item.1) ≤ observationLimits.maxTokenIdLength
  text : ∀ item ∈ kept, utf16Length item.2.text ≤ observationLimits.maxTokenTextLength
  phonemes : ∀ item ∈ kept, ∀ p ∈ item.2.phonemes,
    utf16Length p ≤ observationLimits.maxPhonemeLength

variable {mapper : TokenMapper} {tokens : List String}

lemma keptFrom_cons (mapper : TokenMapper) (index : ℕ) (token : String) (rest : List String) :
    keptFrom mapper index (token :: rest)
      = ((wellFormedMapping (mapper token index)).map fun mapping => (index, mapping)).toList
        ++ keptFrom mapper (index + 1) rest := by
  rw [keptFrom, keptFrom, List.zipIdx_cons, List.filterMap_cons]
  cases wellFormedMapping (mapper token index) <;> rfl

lemma mem_keptFrom {index : ℕ} {item : ℕ × MappedToken} (h : item ∈ keptFrom mapper index tokens) :
    index ≤ item.1 ∧ item.1 < index + tokens.length := by
  obtain ⟨⟨token, i⟩, hmem, hsome⟩ := List.mem_filterMap.mp h
  obtain ⟨mapping, -, rfl⟩ := Option.map_eq_some_iff.mp hsome
  obtain ⟨hle, hlt, -⟩ := List.mem_zipIdx hmem
  exact ⟨hle, hlt⟩

lemma keptFrom_pairwise (mapper : TokenMapper) (index : ℕ) (tokens : List String) :
    (keptFrom mapper index tokens).Pairwise fun a b => a.1 < b.1 := by
  have hindexes : (tokens.zipIdx index).Pairwise fun a b => a.2 < b.2 := by
    rw [← List.pairwise_map (f := Prod.snd), List.zipIdx_map_snd]
    exact List.pairwise_lt_range'
  refine hindexes.filterMap _ ?_
  intro a b hlt item hitem item' hitem'
  obtain ⟨mapping, -, rfl⟩ := Option.map_eq_some_iff.mp hitem
  obtain ⟨mapping', -, rfl⟩ := Option.map_eq_some_iff.mp hitem'
  exact hlt

lemma mapToken_eq {options : CheckedOptions} {token : String} {index : ℕ}
    (h : IsMapping (options.tokenMapper token index)) :
    mapToken token index options
      = .ok (wellFormedMapping (options.tokenMapper token index)) := by
  rw [mapToken]
  rcases h with h | h
  · rw [h]
    rfl
  · obtain ⟨mapping, hmapping⟩ := Option.isSome_iff_exists.mp h
    split
    · rename_i heq
      rw [heq] at hmapping
      cases hmapping
    · rename_i heq
      rw [heq] at hmapping
      cases hmapping
    · rw [hmapping]

/-- The loop keeps the mapped tokens. -/
lemma normalizeTokens_eq {options : CheckedOptions} (starts confidence : Option (List ℚ))
    {index : ℕ} {tokens : List String}
    (h : ∀ token i, (token, i) ∈ tokens.zipIdx index → IsMapping (options.tokenMapper token i)) :
    normalizeTokens options starts confidence index tokens
      = .ok ((keptFrom options.tokenMapper index tokens).map fun item =>
          observationToken starts confidence item.1 item.2) := by
  induction tokens generalizing index with
  | nil => rfl
  | cons token rest ih =>
      rw [List.zipIdx_cons] at h
      rw [normalizeTokens, mapToken_eq (h token index List.mem_cons_self),
        ih fun token i hmem => h token i (List.mem_cons_of_mem _ hmem), keptFrom_cons]
      cases wellFormedMapping (options.tokenMapper token index) <;> rfl

/-! ### Times -/

lemma mathRound_mono {p q : ℚ} (h : p ≤ q) : mathRound p ≤ mathRound q :=
  Int.floor_le_floor (by linarith)

/-- Accepted timestamps are not negative and do not decrease, and neither do they after
rounding. -/
lemma timestampsFrom_ordered {values : List JsValue} {previous : Option ℚ} {starts : List ℚ}
    (h : timestampsFrom previous values = some starts) :
    starts.length = values.length ∧ starts.Pairwise (· ≤ ·) ∧ ∀ start ∈ starts, 0 ≤ start ∧
      ∀ p ∈ previous, (mathRound (p * 1000) : ℚ) ≤ start := by
  induction values generalizing previous starts with
  | nil =>
      rw [timestampsFrom] at h
      cases h
      exact ⟨rfl, .nil, fun _ hmem => by cases hmem⟩
  | cons value rest ih =>
      rw [timestampsFrom.eq_def] at h
      split at h
      · rename_i heq
        cases heq
      · rename_i timestamp rest' heq
        cases heq
        split at h
        · cases h
        · rename_i hordered
          split at h
          · cases h
          · obtain ⟨later, hlater, rfl⟩ := Option.map_eq_some_iff.mp h
            obtain ⟨hlength, hpairwise, hbound⟩ := ih hlater
            push Not at hordered
            have hround : (0 : ℚ) ≤ mathRound (timestamp * 1000) := by
              have : 0 ≤ mathRound (timestamp * 1000) :=
                Int.floor_nonneg.mpr (by linarith [hordered.1])
              exact_mod_cast this
            have hprevious : ∀ p ∈ previous,
                (mathRound (p * 1000) : ℚ) ≤ mathRound (timestamp * 1000) := by
              intro p hp
              have := mathRound_mono (p := p * 1000) (q := timestamp * 1000)
                (by linarith [hordered.2 p hp])
              exact_mod_cast this
            refine ⟨congrArg Nat.succ hlength, List.pairwise_cons.mpr ⟨fun start hstart =>
              (hbound start hstart).2 timestamp rfl, hpairwise⟩, ?_⟩
            intro start hstart
            rcases List.mem_cons.mp hstart with rfl | hstart
            · exact ⟨hround, hprevious⟩
            · obtain ⟨hpos, hlast⟩ := hbound start hstart
              exact ⟨hpos, fun p hp => (hprevious p hp).trans (hlast timestamp rfl)⟩
      · cases h

/-- The starts of an accepted array, one for each token. -/
structure Clock (tokenCount : ℕ) (starts : List ℚ) : Prop where
  aligned : starts.length = tokenCount
  ordered : starts.Pairwise (· ≤ ·)
  nonnegative : ∀ start ∈ starts, 0 ≤ start

lemma validTimestampArray_clock {value : JsValue} {tokenCount : ℕ} {starts : List ℚ}
    (h : validTimestampArray value tokenCount = some starts) : Clock tokenCount starts := by
  rw [validTimestampArray.eq_def] at h
  split at h
  · split at h
    · rename_i values hcount
      obtain ⟨hlength, hpairwise, hbound⟩ := timestampsFrom_ordered h
      exact ⟨hlength.trans hcount, hpairwise, fun start hstart => (hbound start hstart).1⟩
    · cases h
  · cases h

/-- Accepted probabilities are probabilities. -/
lemma validProbabilityArray_unit {value : JsValue} {tokenCount : ℕ} {values : List ℚ}
    (h : validProbabilityArray value tokenCount = some values) :
    ∀ q ∈ values, 0 ≤ q ∧ q ≤ 1 := by
  rw [validProbabilityArray.eq_def] at h
  split at h
  · split at h
    · rename_i items _
      clear * - h
      induction items generalizing values with
      | nil =>
          cases h
          exact fun _ hmem => by cases hmem
      | cons item rest ih =>
          rw [List.mapM_cons] at h
          obtain ⟨q, hq, hrest⟩ := Option.bind_eq_some_iff.mp h
          obtain ⟨later, hlater, hvalues⟩ := Option.bind_eq_some_iff.mp hrest
          cases hvalues
          have hunit : 0 ≤ q ∧ q ≤ 1 := by
            split at hq
            · split at hq
              · cases hq
                assumption
              · cases hq
            · cases hq
          exact List.forall_mem_cons.mpr ⟨hunit, ih hlater⟩
    · cases h
  · cases h

lemma probabilities_unit {result : JsValue} {tokenCount : ℕ} {values : List ℚ}
    (h : probabilities result tokenCount = some values) : ∀ q ∈ values, 0 ≤ q ∧ q ≤ 1 := by
  rw [probabilities] at h
  split at h
  · exact validProbabilityArray_unit h
  · exact validProbabilityArray_unit h

/-! ### The observation -/

/-- A token at the types of a client. -/
def observedToken (token : ObservationToken) : ObservedToken where
  id := token.id
  text := token.text
  phonemes := some token.phonemes
  startMs := token.startMs.map .finite
  endMs := token.endMs.map .finite
  confidence := token.confidence.map .finite

/-- What the observation shows. -/
def observed (observation : RecitationObservation) : Observed where
  observationId := observation.observationId
  sourceRevision := observation.sourceRevision
  isFinal := observation.isFinal
  receivedAtMs := .finite observation.receivedAtMs
  tokens := some (observation.tokens.map observedToken)

lemma observedToken_presents (token : ObservationToken) :
    (observedToken token).Presents token.toValue := by
  obtain ⟨id, text, phonemes, startMs, endMs, confidence⟩ := token
  refine ⟨rfl, rfl, rfl, rfl, ?_, ?_, ?_⟩ <;>
    cases startMs <;> cases endMs <;> cases confidence <;> rfl

lemma observed_presents {observation : RecitationObservation}
    (h : observation.sourceRevision ≤ maxSafeInteger) :
    (observed observation).Presents observation.toValue where
  record := rfl
  observationId := rfl
  sourceRevision := by
    show observation.toValue.field "sourceRevision" = .number (toDouble observation.sourceRevision)
    have hlt : (observation.sourceRevision : ℤ).natAbs < 2 ^ 53 := by
      have : maxSafeInteger < 2 ^ 53 := by decide
      omega
    rw [toDouble_of_lt hlt, Int.cast_natCast]
    rfl
  isFinal := rfl
  receivedAtMs := rfl
  unset := nofun
  tokens := by
    rintro tokens ⟨⟩
    refine ⟨_, rfl, ?_⟩
    rw [List.forall₂_map_left_iff, List.forall₂_map_right_iff]
    exact List.forall₂_same.mpr fun token _ => observedToken_presents token

/-! ### The tokens -/

lemma tokenId_inj {i j : ℕ} (h : tokenId i = tokenId j) : i = j := by
  have hlist := congrArg String.toList h
  rw [tokenId, tokenId, String.toList_append, String.toList_append, List.append_right_inj] at hlist
  exact toString_inj hlist

lemma isBlank_tokenId (index : ℕ) : isBlank (tokenId index) = false := by
  rw [tokenId, isBlank, String.toList_append]
  rfl

variable {starts confidence : Option (List ℚ)}

/-- The times of a kept token. -/
lemma times_observationToken {starts : List ℚ} {index : ℕ} {mapping : MappedToken} {x : JsNumber}
    (h : x ∈ (observedToken (observationToken (some starts) confidence index mapping)).times) :
    ∃ i q, x = .finite q ∧ starts[i]? = some q ∧ (i = index ∨ i = index + 1) := by
  rw [ObservedToken.times, List.mem_append, Option.mem_toList, Option.mem_toList] at h
  rcases h with h | h
  · obtain ⟨q, hq, rfl⟩ := Option.map_eq_some_iff.mp h
    exact ⟨index, q, rfl, hq, Or.inl rfl⟩
  · obtain ⟨q, hq, rfl⟩ := Option.map_eq_some_iff.mp h
    exact ⟨index + 1, q, rfl, hq, Or.inr rfl⟩

/-- The arrays beside the tokens are aligned, ordered and in their ranges, or left out. -/
structure Sound (tokenCount : ℕ) (starts confidence : Option (List ℚ)) : Prop where
  clock : ∀ values ∈ starts, Clock tokenCount values
  unit : ∀ values ∈ confidence, ∀ q ∈ values, 0 ≤ q ∧ q ≤ 1

lemma sound (result : JsValue) (tokenCount : ℕ) :
    Sound tokenCount (validTimestampArray (result.field "timestamps") tokenCount)
      (probabilities result tokenCount) :=
  ⟨fun _ h => validTimestampArray_clock h, fun _ h => probabilities_unit h⟩

namespace Sound

variable {tokenCount : ℕ}

lemma valid (h : Sound tokenCount starts confidence) (index : ℕ) (mapping : MappedToken) :
    (observedToken (observationToken starts confidence index mapping)).Valid where
  id := isBlank_tokenId index
  phonemes := rfl
  times := by
    intro x hx
    cases starts with
    | none => cases hx
    | some values =>
        obtain ⟨i, q, rfl, hq, -⟩ := times_observationToken hx
        exact ⟨q, rfl, (h.clock values rfl).nonnegative q (List.mem_of_getElem? hq)⟩
  confidence := by
    intro x hx
    obtain ⟨q, hq, rfl⟩ := Option.map_eq_some_iff.mp hx
    obtain ⟨values, hvalues, hq⟩ := Option.bind_eq_some_iff.mp hq
    exact ⟨q, rfl, h.unit values hvalues q (List.mem_of_getElem? hq)⟩

/-- The times of the kept tokens do not decrease: a token ends where the next token of the
source starts, and the next one that is kept starts there or later. -/
lemma neverDecrease (h : Sound tokenCount starts confidence) {kept : List (ℕ × MappedToken)}
    (hkept : kept.Pairwise fun a b => a.1 < b.1) :
    NeverDecrease (kept.map fun item =>
      observedToken (observationToken starts confidence item.1 item.2)) := by
  rw [NeverDecrease, List.flatMap_map]
  cases starts with
  | none =>
      have hnone : (kept.flatMap fun item =>
          (observedToken (observationToken none confidence item.1 item.2)).times) = [] :=
        List.flatMap_eq_nil_iff.mpr fun _ _ => rfl
      rw [hnone]
      exact List.isChain_nil
  | some values =>
      have hclock := h.clock values rfl
      have hordered : ∀ {i j : ℕ} {p q : ℚ}, values[i]? = some p → values[j]? = some q → i ≤ j →
          (JsNumber.finite q).lt (.finite p) = false := by
        intro i j p q hp hq hij
        obtain ⟨hi, rfl⟩ := List.getElem?_eq_some_iff.mp hp
        obtain ⟨hj, rfl⟩ := List.getElem?_eq_some_iff.mp hq
        rw [JsNumber.lt_finite, decide_eq_false_iff_not, not_lt]
        rcases Nat.eq_or_lt_of_le hij with rfl | hlt
        · exact le_rfl
        · exact List.pairwise_iff_getElem.mp hclock.ordered i j hi hj hlt
      refine List.Pairwise.isChain (List.pairwise_flatMap.mpr ⟨fun item _ => ?_, ?_⟩)
      · -- within a token
        rw [ObservedToken.times]
        refine List.pairwise_append.mpr ⟨?_, ?_, fun x hx y hy => ?_⟩
        · cases (observedToken
            (observationToken (some values) confidence item.1 item.2)).startMs <;> simp
        · cases (observedToken (observationToken (some values) confidence item.1 item.2)).endMs <;>
            simp
        · obtain ⟨p, hp, rfl⟩ := Option.map_eq_some_iff.mp (Option.mem_toList.mp hx)
          obtain ⟨q, hq, rfl⟩ := Option.map_eq_some_iff.mp (Option.mem_toList.mp hy)
          exact hordered hp hq (Nat.le_succ _)
      · -- from one kept token to a later one
        refine hkept.imp fun {a b} hlt x hx y hy => ?_
        obtain ⟨i, p, rfl, hp, hi⟩ := times_observationToken hx
        obtain ⟨j, q, rfl, hq, hj⟩ := times_observationToken hy
        exact hordered hp hq (by omega)

/-- All tokens of an aligned array have a start. -/
lemma startMs (h : Sound tokenCount starts confidence) {kept : List (ℕ × MappedToken)}
    (hkept : ∀ item ∈ kept, item.1 < tokenCount) :
    (∀ item ∈ kept, (observationToken starts confidence item.1 item.2).startMs.isSome = true) ∨
      ∀ item ∈ kept, (observationToken starts confidence item.1 item.2).startMs = none := by
  cases starts with
  | none => exact Or.inr fun _ _ => rfl
  | some values =>
      refine Or.inl fun item hitem => ?_
      have hlt : item.1 < values.length := (h.clock values rfl).aligned ▸ hkept item hitem
      show (values[item.1]?).isSome = true
      rw [List.getElem?_eq_getElem hlt]
      rfl

end Sound

/-! ### Acceptance -/

/-- What checked options satisfy. -/
lemma requireOptions_sound {options : Option NormalizeSherpaResultOptions}
    {checked : CheckedOptions} (h : requireOptions options = .ok checked) :
    isBlank checked.observationId = false ∧ checked.sourceRevision ≤ maxSafeInteger ∧
      0 ≤ checked.receivedAtMs := by
  simp only [requireOptions, bind_eq_ok, pure_eq_ok] at h
  obtain ⟨given, -, observationId, hid, sourceRevision, hrevision, isFinal, -, receivedAtMs,
    hreceived, tokenMapper, -, rfl⟩ := h
  refine ⟨?_, ?_, ?_⟩
  · rw [checkedObservationId.eq_def] at hid
    split at hid
    · split at hid
      · cases hid
      · rename_i hblank
        cases hid
        exact Bool.eq_false_iff.mpr hblank
    · cases hid
  · rw [checkedSourceRevision.eq_def] at hrevision
    split at hrevision
    · split at hrevision
      · rename_i q _ hsafe
        cases hrevision
        obtain ⟨hint, hpos⟩ := hsafe
        rw [isSafeInteger, Bool.and_eq_true] at hint
        have hle : q.num.natAbs ≤ maxSafeInteger := of_decide_eq_true hint.2
        have hnum : 0 ≤ q.num := Rat.num_nonneg.mpr hpos
        show q.num.toNat ≤ maxSafeInteger
        omega
      · cases hrevision
    · cases hrevision
  · rw [checkedReceivedAtMs.eq_def] at hreceived
    split at hreceived
    · split at hreceived
      · cases hreceived
      · rename_i hnot
        cases hreceived
        exact not_lt.mp hnot
    · cases hreceived

lemma stringItems_strings (strings : List String) :
    stringItems (.array (strings.map .string)) = some strings := by
  rw [stringItems]
  induction strings with
  | nil => rfl
  | cons s rest ih =>
      rw [List.map_cons, List.mapM_cons, ih]
      rfl

lemma requireTokens_strings {result : JsValue} {tokens : List String}
    (h : result.field "tokens" = .array (tokens.map .string)) :
    requireTokens result = .ok tokens := by
  rw [requireTokens, h, stringItems_strings]
  rfl

section

variable {options : CheckedOptions} {kept : List (ℕ × MappedToken)}

/-- The observation of the kept tokens. -/
def assemble (options : CheckedOptions) (starts confidence : Option (List ℚ))
    (kept : List (ℕ × MappedToken)) : RecitationObservation :=
  ⟨options.observationId, options.sourceRevision, options.isFinal, options.receivedAtMs,
    kept.map fun item => observationToken starts confidence item.1 item.2⟩

/-- The core accepts the observation of kept tokens exactly when they are within the limits and
one is kept or it is final. -/
lemma accepted_assemble {tokenCount : ℕ} (hsound : Sound tokenCount starts confidence)
    (hid : isBlank options.observationId = false)
    (hrevision : options.sourceRevision ≤ maxSafeInteger) (hreceived : 0 ≤ options.receivedAtMs)
    (hkept : kept.Pairwise fun a b => a.1 < b.1) :
    Sdk.Accepted (assemble options starts confidence kept).toValue ↔
      WithinLimits options.observationId kept ∧ (kept ≠ [] ∨ options.isFinal = true) := by
  rw [accepted_iff (observed_presents hrevision)]
  have hmap : ((assemble options starts confidence kept).tokens.map observedToken)
      = kept.map fun item => observedToken (observationToken starts confidence item.1 item.2) :=
    List.map_map
  have htokens : ∀ {P : ObservedToken → Prop}, (∀ t ∈ (assemble options starts confidence
      kept).tokens.map observedToken, P t) ↔
      ∀ item ∈ kept, P (observedToken (observationToken starts confidence item.1 item.2)) := by
    intro P
    rw [hmap, List.forall_mem_map]
  constructor
  · rintro ⟨hlimits, hvalid⟩
    have heach := htokens.mp (hlimits.tokens _ rfl)
    refine ⟨⟨hlimits.observationId, ?_, ?_, fun item h => (heach item h).id,
      fun item h => (heach item h).text, fun item h => (heach item h).phonemes _ rfl⟩, ?_⟩
    · have := hlimits.length _ rfl
      rwa [hmap, List.length_map] at this
    · have := hlimits.phonemes _ rfl
      rw [hmap, List.map_map] at this
      exact this
    · obtain ⟨tokens, ⟨⟩, hfinal, -⟩ := hvalid.tokens
      refine hfinal.symm.imp_left fun hne hnone => hne ?_
      rw [hmap, hnone]
      rfl
  · rintro ⟨hlimits, hsome⟩
    refine ⟨⟨hlimits.observationId, ?_, ?_, ?_⟩,
      ⟨hid, ⟨Int.natCast_nonneg _, Int.ofNat_le.mpr hrevision⟩, ⟨_, rfl, hreceived⟩, _, rfl,
        ?_, ?_, ?_, ?_⟩⟩
    · rintro tokens ⟨⟩
      rw [hmap, List.length_map]
      exact hlimits.count
    · rintro tokens ⟨⟩
      refine htokens.mpr fun item h => ⟨hlimits.id item h, hlimits.text item h, ?_⟩
      rintro phonemes ⟨⟩
      exact hlimits.phonemes item h
    · rintro tokens ⟨⟩
      rw [hmap, List.map_map]
      exact hlimits.phonemeCount
    · refine hsome.symm.imp_right fun hne hnone => hne ?_
      rw [hmap] at hnone
      exact List.map_eq_nil_iff.mp hnone
    · exact htokens.mpr fun item _ => hsound.valid item.1 item.2
    · rw [hmap, List.map_map, List.nodup_iff_pairwise_ne, List.pairwise_map]
      exact hkept.imp fun hlt heq => hlt.ne (tokenId_inj heq)
    · rw [hmap]
      exact hsound.neverDecrease hkept

/-- The conversion, after the checks: the observation of the kept tokens, if the core accepts
it. -/
lemma normalizeSherpaResult_eq {result : JsValue} {given : NormalizeSherpaResultOptions}
    {tokens : List String} (htokens : result.field "tokens" = .array (tokens.map .string))
    (hoptions : requireOptions (some given) = .ok options)
    (hmapper : ∀ token index, (token, index) ∈ tokens.zipIdx →
      IsMapping (options.tokenMapper token index)) {o : RecitationObservation} :
    normalizeSherpaResult result (some given) = .ok o ↔
      Sdk.Accepted o.toValue ∧ o = assemble options
        (validTimestampArray (result.field "timestamps") tokens.length)
        (probabilities result tokens.length) (keptTokens options.tokenMapper tokens) := by
  simp only [normalizeSherpaResult]
  rw [hoptions, ok_bind, requireTokens_strings htokens, ok_bind, normalizeTokens_eq _ _ hmapper,
    ok_bind]
  constructor
  · intro h
    split at h
    · rename_i checked hchecked
      cases h
      exact ⟨⟨checked, hchecked⟩, rfl⟩
    · cases h
  · rintro ⟨⟨checked, hchecked⟩, rfl⟩
    rw [assemble, keptTokens] at hchecked ⊢
    rw [hchecked]
    rfl

end

/-- **Timing and probabilities decide nothing.** For every result with string tokens, valid
options and a mapper that gives each token a mapping or null, and whatever stands in the arrays
for timestamps and probabilities: the conversion returns an observation that
`validateObservation` accepts exactly when the kept tokens and the observation id are within the
limits, and a token is kept or the observation is final. What it returns has the kept tokens in
the order of the source, under distinct ids, and all of them have a start or none has. -/
theorem normalizeSherpaResult_accepts_iff (result : JsValue) (tokens : List String)
    (given : NormalizeSherpaResultOptions) (options : CheckedOptions)
    (htokens : result.field "tokens" = .array (tokens.map .string))
    (hoptions : requireOptions (some given) = .ok options)
    (hmapper : ∀ token index, (token, index) ∈ tokens.zipIdx →
      IsMapping (options.tokenMapper token index)) :
    let kept := keptTokens options.tokenMapper tokens
    ((∃ o, normalizeSherpaResult result (some given) = .ok o ∧
        ∃ checked, validateObservation o.toValue = .ok checked) ↔
      WithinLimits options.observationId kept ∧ (kept ≠ [] ∨ options.isFinal = true)) ∧
    ∀ o, normalizeSherpaResult result (some given) = .ok o →
      (∃ checked, validateObservation o.toValue = .ok checked) ∧
      (o.tokens.map fun token => (token.id, token.text, token.phonemes))
        = (kept.map fun item => (tokenId item.1, item.2.text, item.2.phonemes)) ∧
      (o.tokens.map ObservationToken.id).Nodup ∧
      ((∀ token ∈ o.tokens, token.startMs.isSome = true) ∨
        ∀ token ∈ o.tokens, token.startMs = none) := by
  intro kept
  obtain ⟨hid, hrevision, hreceived⟩ := requireOptions_sound hoptions
  have hsound := sound result tokens.length
  have hkept : kept.Pairwise fun a b => a.1 < b.1 := keptFrom_pairwise _ _ _
  have heq := @normalizeSherpaResult_eq options result given tokens htokens hoptions hmapper
  constructor
  · rw [← accepted_assemble hsound hid hrevision hreceived hkept]
    constructor
    · rintro ⟨o, ho, -⟩
      obtain ⟨haccepted, rfl⟩ := heq.mp ho
      exact haccepted
    · exact fun haccepted => ⟨_, heq.mpr ⟨haccepted, rfl⟩, haccepted⟩
  · intro o ho
    obtain ⟨haccepted, rfl⟩ := heq.mp ho
    refine ⟨haccepted, ?_, ?_, ?_⟩
    · rw [assemble, List.map_map]
      rfl
    · rw [assemble, List.map_map, List.nodup_iff_pairwise_ne, List.pairwise_map]
      exact hkept.imp fun hlt heq => hlt.ne (tokenId_inj heq)
    · rw [assemble, List.forall_mem_map, List.forall_mem_map]
      refine hsound.startMs fun item hitem => ?_
      have := (mem_keptFrom hitem).2
      omega

/-! ### A sample -/

/-- A mapper that drops blanks. -/
def mapperSample : TokenMapper := fun token _ =>
  if token = "<blank>" then .null
  else .object [("text", .string token), ("phonemes", .array [.string token])]

lemma mapperSample_isMapping (token : String) (index : ℕ) :
    IsMapping (mapperSample token index) := by
  rw [mapperSample]
  split
  · exact Or.inl rfl
  · exact Or.inr rfl

/-- Three tokens, one of them dropped, with times that decrease. -/
def resultSample : JsValue :=
  .object [("tokens", .array (["bi", "<blank>", "smi"].map .string)),
    ("timestamps", .array [exactNumber 1, exactNumber 0, exactNumber 2])]

/-- Options that pass. -/
def optionsSample : NormalizeSherpaResultOptions :=
  ⟨.string "observation-7", exactNumber 3, .bool false, exactNumber 1000, some mapperSample⟩

lemma optionsSample_checked :
    requireOptions (some optionsSample) = .ok ⟨"observation-7", 3, false, 1000, mapperSample⟩ := rfl

/-- The result of the sample is accepted, and so is the observation it gives. -/
theorem normalizeSherpaResult_accepts_sample :
    ∃ o, normalizeSherpaResult resultSample (some optionsSample) = .ok o ∧
      ∃ checked, validateObservation o.toValue = .ok checked :=
  (normalizeSherpaResult_accepts_iff resultSample ["bi", "<blank>", "smi"] optionsSample
    ⟨"observation-7", 3, false, 1000, mapperSample⟩ rfl optionsSample_checked
    fun token index _ => mapperSample_isMapping token index).1.mpr
    ⟨⟨by decide +kernel, by decide +kernel, by decide +kernel, by decide +kernel,
      by decide +kernel, by decide +kernel⟩, Or.inl (by decide +kernel)⟩

end Qaraa.Sherpa
