import Qaraa.Sdk.Observations

/-!
Which values `validateObservation` accepts, said of the values alone.

* `IsText`, `IsIdentifier`, `IsAbsentOr`: what a single field may hold.
* `times`: the timestamps a token has, the start before the end.
* `WellFormedToken`, `WellFormedObservation`: the well formed values, with the limits as
  numbers and the timestamps of all tokens in one list.
* `validateObservation_accepts_iff`: these are the values on which the check returns.

A value of either kind has fields of the right types (`TypedToken`, `TypedObservation`), so it
presents an observation of the clients, and for these `accepted_iff` says when they are
accepted.
-/

namespace Qaraa.Sdk

open Fallible

/-! ### Well formed values -/

/-- A string of at most `limit` code units. -/
def IsText (limit : ℕ) (v : JsValue) : Prop := ∃ s : String, v = .string s ∧ utf16Length s ≤ limit

/-- A string that is not blank, of at most `limit` code units. -/
def IsIdentifier (limit : ℕ) (v : JsValue) : Prop :=
  ∃ s : String, v = .string s ∧ isBlank s = false ∧ utf16Length s ≤ limit

/-- A finite number with the property. -/
def IsFinite (P : ℚ → Prop) (v : JsValue) : Prop := ∃ q : ℚ, v = .number (.finite q) ∧ P q

/-- Absent, or a finite number with the property. -/
def IsAbsentOr (P : ℚ → Prop) (v : JsValue) : Prop := v = .undefined ∨ IsFinite P v

/-- The number a field holds, if it holds a finite one. -/
def finiteNumber : JsValue → Option ℚ
  | .number (.finite q) => some q
  | _ => none

/-- The timestamps a token has, `startMs` before `endMs`. -/
def times (token : JsValue) : List ℚ :=
  (finiteNumber (token.field "startMs")).toList ++ (finiteNumber (token.field "endMs")).toList

/-- The number of phonemes of a token. -/
def phonemeCount (token : JsValue) : ℕ :=
  match token.field "phonemes" with
  | .array phonemes => phonemes.length
  | _ => 0

/-- What `validateObservationToken` asks of a token, without its timestamps. -/
structure WellFormedToken (token : JsValue) : Prop where
  id : IsIdentifier 256 (token.field "id")
  text : IsText 1024 (token.field "text")
  phonemes : ∃ phonemes, token.field "phonemes" = .array phonemes ∧ ∀ p ∈ phonemes, IsText 128 p
  startMs : IsAbsentOr (fun q => 0 ≤ q) (token.field "startMs")
  endMs : IsAbsentOr (fun q => 0 ≤ q) (token.field "endMs")
  confidence : IsAbsentOr (fun q => 0 ≤ q ∧ q ≤ 1) (token.field "confidence")

/-- What `validateObservation` asks of an observation, with all its tokens. -/
structure WellFormedObservation (v : JsValue) : Prop where
  observationId : IsIdentifier 256 (v.field "observationId")
  sourceRevision :
    IsFinite (fun q => ∃ n : ℕ, q = n ∧ n ≤ maxSafeInteger) (v.field "sourceRevision")
  isFinal : ∃ b : Bool, v.field "isFinal" = .bool b
  receivedAtMs : IsFinite (fun q => 0 ≤ q) (v.field "receivedAtMs")
  tokens : ∃ tokens, v.field "tokens" = .array tokens ∧ tokens.length ≤ 64 ∧
    (tokens = [] → v.field "isFinal" = .bool true) ∧ (∀ t ∈ tokens, WellFormedToken t) ∧
    (tokens.map fun t => t.field "id").Pairwise (fun id id' => id ≠ id') ∧
    (tokens.map phonemeCount).sum ≤ 128 ∧ (tokens.flatMap times).Pairwise (fun x y => x ≤ y)

/-! ### Typed reading -/

/-- The fields of a token have the right types. -/
structure TypedToken (token : JsValue) : Prop where
  id : ∃ s : String, token.field "id" = .string s
  text : ∃ s : String, token.field "text" = .string s
  phonemes : ∃ strings : List String, token.field "phonemes" = .array (strings.map .string)
  startMs : token.field "startMs" = .undefined ∨ ∃ x, token.field "startMs" = .number x
  endMs : token.field "endMs" = .undefined ∨ ∃ x, token.field "endMs" = .number x
  confidence : token.field "confidence" = .undefined ∨ ∃ x, token.field "confidence" = .number x

/-- An observation as a typed client writes it: each field has its type. -/
structure TypedObservation (v : JsValue) : Prop where
  observationId : ∃ s : String, v.field "observationId" = .string s
  sourceRevision : ∃ n : ℤ, v.field "sourceRevision" = .number (toDouble n)
  isFinal : ∃ b : Bool, v.field "isFinal" = .bool b
  receivedAtMs : ∃ x : JsNumber, v.field "receivedAtMs" = .number x
  tokens : ∃ tokens, v.field "tokens" = .array tokens ∧ ∀ t ∈ tokens, TypedToken t

lemma isRecord_of_field {v : JsValue} {name : String} (h : v.field name ≠ .undefined) :
    isRecord v = true := by
  cases v with
  | object fields => rfl
  | array items => rfl
  | _ => exact absurd rfl h

lemma TypedToken.presented {v : JsValue} (h : TypedToken v) :
    ∃ t : ObservedToken, t.Presents v := by
  have hnumber : ∀ name : String, v.field name = .undefined ∨ (∃ x, v.field name = .number x) →
      ∃ o : Option JsNumber, v.field name = o.elim .undefined .number := by
    rintro name (hnone | ⟨x, hx⟩)
    · exact ⟨none, hnone⟩
    · exact ⟨some x, hx⟩
  obtain ⟨id, hid⟩ := h.id
  obtain ⟨text, htext⟩ := h.text
  obtain ⟨phonemes, hphonemes⟩ := h.phonemes
  obtain ⟨startMs, hstart⟩ := hnumber _ h.startMs
  obtain ⟨endMs, hend⟩ := hnumber _ h.endMs
  obtain ⟨confidence, hconfidence⟩ := hnumber _ h.confidence
  have hrecord : isRecord v = true := by
    refine @isRecord_of_field v "id" ?_
    rw [hid]
    exact JsValue.noConfusion
  exact ⟨⟨id, text, some phonemes, startMs, endMs, confidence⟩, hrecord, hid, htext, hphonemes,
    hstart, hend, hconfidence⟩

lemma TypedObservation.presented {v : JsValue} (h : TypedObservation v) :
    ∃ (o : Observed) (tokens : List ObservedToken), o.Presents v ∧ o.tokens = some tokens := by
  obtain ⟨observationId, hid⟩ := h.observationId
  obtain ⟨sourceRevision, hrevision⟩ := h.sourceRevision
  obtain ⟨isFinal, hfinal⟩ := h.isFinal
  obtain ⟨receivedAtMs, hreceived⟩ := h.receivedAtMs
  obtain ⟨values, hvalues, htyped⟩ := h.tokens
  have hrecord : isRecord v = true := by
    refine @isRecord_of_field v "observationId" ?_
    rw [hid]
    exact JsValue.noConfusion
  have hall : ∃ tokens, List.Forall₂ ObservedToken.Presents tokens values := by
    clear hvalues
    induction values with
    | nil => exact ⟨[], .nil⟩
    | cons value values ih =>
        rw [List.forall_mem_cons] at htyped
        obtain ⟨t, ht⟩ := htyped.1.presented
        obtain ⟨tokens, htokens⟩ := ih htyped.2
        exact ⟨t :: tokens, .cons ht htokens⟩
  obtain ⟨tokens, htokens⟩ := hall
  refine ⟨⟨observationId, sourceRevision, isFinal, receivedAtMs, some tokens⟩, tokens,
    ⟨hrecord, hid, hrevision, hfinal, hreceived, by rintro ⟨⟩, ?_⟩, rfl⟩
  rintro tokens' ⟨⟩
  exact ⟨values, hvalues, htokens⟩

/-! ### The types of what is well formed -/

lemma typed_of_isAbsentOr {P : ℚ → Prop} {v : JsValue} (h : IsAbsentOr P v) :
    v = .undefined ∨ ∃ x, v = .number x := by
  rcases h with h | ⟨q, h, -⟩
  · exact Or.inl h
  · exact Or.inr ⟨_, h⟩

/-- A list of strings, whatever each is known to satisfy. -/
lemma exists_strings {P : JsValue → Prop} {values : List JsValue}
    (hP : ∀ v, P v → ∃ s : String, v = .string s) (h : ∀ v ∈ values, P v) :
    ∃ strings : List String, values = strings.map .string := by
  induction values with
  | nil => exact ⟨[], rfl⟩
  | cons v values ih =>
      rw [List.forall_mem_cons] at h
      obtain ⟨s, rfl⟩ := hP v h.1
      obtain ⟨strings, rfl⟩ := ih h.2
      exact ⟨s :: strings, rfl⟩

lemma WellFormedToken.typed {v : JsValue} (h : WellFormedToken v) : TypedToken v := by
  obtain ⟨phonemes, hphonemes, hall⟩ := h.phonemes
  obtain ⟨strings, rfl⟩ := exists_strings
    (by rintro v ⟨s, hs, -⟩; exact ⟨s, hs⟩) hall
  obtain ⟨id, hid, -⟩ := h.id
  obtain ⟨text, htext, -⟩ := h.text
  exact ⟨⟨id, hid⟩, ⟨text, htext⟩, ⟨strings, hphonemes⟩, typed_of_isAbsentOr h.startMs,
    typed_of_isAbsentOr h.endMs, typed_of_isAbsentOr h.confidence⟩

lemma WellFormedObservation.typed {v : JsValue} (h : WellFormedObservation v) :
    TypedObservation v := by
  obtain ⟨observationId, hid, -⟩ := h.observationId
  obtain ⟨q, hrevision, n, rfl, hn⟩ := h.sourceRevision
  obtain ⟨r, hreceived, -⟩ := h.receivedAtMs
  obtain ⟨tokens, htokens, -, -, hall, -⟩ := h.tokens
  have hdouble : toDouble (n : ℤ) = .finite n := by
    have hmax : maxSafeInteger < 2 ^ 53 := by decide
    rw [toDouble_of_lt (by omega), Int.cast_natCast]
  exact ⟨⟨observationId, hid⟩, ⟨n, by rw [hrevision, hdouble]⟩, h.isFinal, ⟨_, hreceived⟩, tokens,
    htokens, fun t ht => (hall t ht).typed⟩

/-! ### The types of what is accepted -/

lemma requireNonEmptyString_typed {v : JsValue} {label r : String}
    (h : requireNonEmptyString v label = .ok r) : ∃ s : String, v = .string s := by
  cases v with
  | string s => exact ⟨s, rfl⟩
  | _ => simp [requireNonEmptyString, fail] at h

lemma requireString_typed {v : JsValue} {message r : String}
    (h : requireString v message = .ok r) : ∃ s : String, v = .string s := by
  cases v with
  | string s => exact ⟨s, rfl⟩
  | _ => simp [requireString, fail] at h

lemma requireArray_eq_ok {v : JsValue} {message : String} {items : List JsValue} :
    requireArray v message = .ok items ↔ v = .array items := by
  cases v <;> simp [requireArray, fail]

lemma requireFiniteTimestamp_typed {v : JsValue} {label : String} {q : ℚ}
    (h : requireFiniteTimestamp v label = .ok q) : ∃ x, v = .number x := by
  cases v with
  | number x => exact ⟨x, rfl⟩
  | _ => simp [requireFiniteTimestamp, fail] at h

lemma nextTimestamp_typed {v : JsValue} {name : String} {latest r : Option ℚ}
    (h : nextTimestamp v name latest = .ok r) : v = .undefined ∨ ∃ x, v = .number x := by
  cases v with
  | undefined => exact Or.inl rfl
  | number x => exact Or.inr ⟨x, rfl⟩
  | _ => simp [nextTimestamp, requireFiniteTimestamp, fail] at h

lemma optionalConfidence_typed {v : JsValue} {r : Option ℚ} (h : optionalConfidence v = .ok r) :
    v = .undefined ∨ ∃ x, v = .number x := by
  cases v with
  | undefined => exact Or.inl rfl
  | number x => exact Or.inr ⟨x, rfl⟩
  | _ => simp [optionalConfidence, fail] at h

lemma requireSourceRevision_typed {v : JsValue} {r : ℕ} (h : requireSourceRevision v = .ok r) :
    ∃ n : ℤ, v = .number (toDouble n) := by
  cases v with
  | number x =>
      cases x with
      | finite q =>
          simp only [requireSourceRevision] at h
          split at h
          · rename_i hsafe
            have hint : q.den = 1 ∧ q.num.natAbs ≤ maxSafeInteger := by
              simpa [isSafeInteger] using hsafe.1
            have hmax : maxSafeInteger < 2 ^ 53 := by decide
            refine ⟨q.num, ?_⟩
            rw [toDouble_of_lt (by omega), (Rat.den_eq_one_iff q).mp hint.1]
          · simp [fail] at h
      | _ => simp [requireSourceRevision, fail] at h
  | _ => simp [requireSourceRevision, fail] at h

lemma requireBoolean_eq_ok {v : JsValue} {message : String} {b : Bool} :
    requireBoolean v message = .ok b ↔ v = .bool b := by
  cases v <;> simp [requireBoolean, fail]

lemma typed_of_validateObservationToken {v : JsValue} {last : Option ℚ} {r : ObservationToken}
    (h : validateObservationToken v last = .ok r) : TypedToken v := by
  simp only [validateObservationToken, bind_eq_ok, failIf_eq_ok, requireArray_eq_ok] at h
  obtain ⟨-, -, id, hid, -, -, text, htext, -, -, values, hvalues, phonemes, hphonemes, -, -,
    startMs, hstart, endMs, hend, confidence, hconfidence, -⟩ := h
  obtain ⟨strings, rfl⟩ := exists_strings
    (by rintro v ⟨s, hs⟩; exact requireString_typed hs) fun v hv => mapM_mem_ok hphonemes hv
  exact ⟨requireNonEmptyString_typed hid, requireString_typed htext, ⟨strings, hvalues⟩,
    nextTimestamp_typed hstart, nextTimestamp_typed hend, optionalConfidence_typed hconfidence⟩

lemma typed_of_accepted {v : JsValue} (h : Accepted v) : TypedObservation v := by
  obtain ⟨checked, h⟩ := h
  simp only [validateObservation, bind_eq_ok, failIf_eq_ok, requireArray_eq_ok,
    requireBoolean_eq_ok] at h
  obtain ⟨-, -, id, hid, -, -, revision, hrevision, isFinal, hfinal, received, hreceived, values,
    hvalues, -, -, -, -, pass, hpass, -⟩ := h
  refine ⟨requireNonEmptyString_typed hid, requireSourceRevision_typed hrevision, ⟨_, hfinal⟩,
    requireFiniteTimestamp_typed hreceived, values, hvalues, fun t ht => ?_⟩
  obtain ⟨before, after, hvisit⟩ := foldlM_mem_ok hpass ht
  simp only [visitToken, bind_eq_ok] at hvisit
  obtain ⟨-, -, -, -, -, -, token, htoken, -⟩ := hvisit
  exact typed_of_validateObservationToken htoken

/-! ### Well formed and accepted -/

lemma isIdentifier_string {limit : ℕ} {s : String} :
    IsIdentifier limit (.string s) ↔ isBlank s = false ∧ utf16Length s ≤ limit := by
  simp [IsIdentifier]

lemma isText_string {limit : ℕ} {s : String} :
    IsText limit (.string s) ↔ utf16Length s ≤ limit := by
  simp [IsText]

lemma isFinite_number {P : ℚ → Prop} {x : JsNumber} :
    IsFinite P (.number x) ↔ ∃ q : ℚ, x = .finite q ∧ P q := by
  simp [IsFinite]

lemma isAbsentOr_elim {P : ℚ → Prop} {o : Option JsNumber} :
    IsAbsentOr P (o.elim .undefined .number) ↔ ∀ x ∈ o, ∃ q : ℚ, x = .finite q ∧ P q := by
  cases o <;> simp [IsAbsentOr, IsFinite]

lemma finiteNumber_elim {o : Option JsNumber} (h : ∀ x ∈ o, IsTimestamp x) :
    finiteNumber (o.elim .undefined .number) = o.map value := by
  cases o with
  | none => rfl
  | some x =>
      obtain ⟨q, rfl, -⟩ := h x rfl
      rfl

lemma wellFormedToken_iff {t : ObservedToken} {v : JsValue} (h : t.Presents v) :
    WellFormedToken v ↔ t.WithinLimits ∧ t.Valid := by
  have hphonemes : (∃ values, v.field "phonemes" = .array values ∧ ∀ p ∈ values, IsText 128 p) ↔
      t.phonemes.isSome = true ∧ ∀ ps ∈ t.phonemes, ∀ p ∈ ps, utf16Length p ≤ 128 := by
    rw [h.phonemes]
    cases t.phonemes <;> simp [isText_string]
  have htimes : (∀ x ∈ t.times, IsTimestamp x) ↔
      (∀ x ∈ t.startMs, IsTimestamp x) ∧ ∀ x ∈ t.endMs, IsTimestamp x := by
    simp [ObservedToken.times, or_imp, forall_and]
  constructor
  · rintro ⟨hid, htext, hp, hstart, hend, hconfidence⟩
    rw [h.id, isIdentifier_string] at hid
    rw [h.text, isText_string] at htext
    rw [h.startMs, isAbsentOr_elim] at hstart
    rw [h.endMs, isAbsentOr_elim] at hend
    rw [h.confidence, isAbsentOr_elim] at hconfidence
    obtain ⟨hsome, hlength⟩ := hphonemes.mp hp
    exact ⟨⟨hid.2, htext, hlength⟩, hid.1, hsome, htimes.mpr ⟨hstart, hend⟩, hconfidence⟩
  · rintro ⟨hlimits, hvalid⟩
    obtain ⟨hstart, hend⟩ := htimes.mp hvalid.times
    refine ⟨?_, ?_, hphonemes.mpr ⟨hvalid.phonemes, hlimits.phonemes⟩, ?_, ?_, ?_⟩
    · rw [h.id, isIdentifier_string]
      exact ⟨hvalid.id, hlimits.id⟩
    · rw [h.text, isText_string]
      exact hlimits.text
    · rw [h.startMs, isAbsentOr_elim]
      exact hstart
    · rw [h.endMs, isAbsentOr_elim]
      exact hend
    · rw [h.confidence, isAbsentOr_elim]
      exact hvalid.confidence

section Tokens

variable {tokens : List ObservedToken} {values : List JsValue}

lemma wellFormedTokens_iff (h : List.Forall₂ ObservedToken.Presents tokens values) :
    (∀ v ∈ values, WellFormedToken v) ↔ ∀ t ∈ tokens, t.WithinLimits ∧ t.Valid := by
  induction h with
  | nil => simp
  | cons ht _ ih => rw [List.forall_mem_cons, List.forall_mem_cons, wellFormedToken_iff ht, ih]

lemma map_id_presents (h : List.Forall₂ ObservedToken.Presents tokens values) :
    (values.map fun v => v.field "id") = (tokens.map ObservedToken.id).map .string := by
  induction h with
  | nil => rfl
  | cons ht _ ih => rw [List.map_cons, List.map_cons, List.map_cons, ht.id, ih]

lemma map_phonemeCount_presents (h : List.Forall₂ ObservedToken.Presents tokens values) :
    values.map phonemeCount = tokens.map fun t => (t.phonemes.getD []).length := by
  induction h with
  | nil => rfl
  | @cons t v _ _ ht _ ih =>
      have hcount : phonemeCount v = (t.phonemes.getD []).length := by
        rw [phonemeCount, ht.phonemes]
        cases t.phonemes <;> simp
      rw [List.map_cons, List.map_cons, hcount, ih]

lemma times_presents {t : ObservedToken} {v : JsValue} (h : t.Presents v)
    (htimes : ∀ x ∈ t.times, IsTimestamp x) : times v = t.times.map value := by
  have hstart := @finiteNumber_elim t.startMs fun x hx =>
    htimes x (by simp [ObservedToken.times, Option.mem_def.mp hx])
  have hend := @finiteNumber_elim t.endMs fun x hx =>
    htimes x (by simp [ObservedToken.times, Option.mem_def.mp hx])
  rw [times, h.startMs, h.endMs, hstart, hend, ObservedToken.times, List.map_append]
  cases t.startMs <;> cases t.endMs <;> rfl

/-- The timestamps of all tokens, one list: ordered by the values is never decreasing. -/
lemma pairwise_times_iff (h : List.Forall₂ ObservedToken.Presents tokens values)
    (htimes : ∀ t ∈ tokens, ∀ x ∈ t.times, IsTimestamp x) :
    (values.flatMap times).Pairwise (fun x y => x ≤ y) ↔ NeverDecrease tokens := by
  have hflat : values.flatMap times = (tokens.flatMap ObservedToken.times).map value := by
    induction h with
    | nil => rfl
    | cons ht _ ih =>
        rw [List.forall_mem_cons] at htimes
        rw [List.flatMap_cons, List.flatMap_cons, List.map_append, times_presents ht htimes.1,
          ih htimes.2]
  have hfinite : ∀ x ∈ tokens.flatMap ObservedToken.times, IsTimestamp x := by
    intro x hx
    obtain ⟨t, ht, hxt⟩ := List.mem_flatMap.mp hx
    exact htimes t ht x hxt
  rw [hflat, ← List.isChain_iff_pairwise, List.isChain_map, NeverDecrease]
  refine List.IsChain.iff_of_mem_imp fun x y hx hy => ?_
  obtain ⟨p, rfl, -⟩ := hfinite x hx
  obtain ⟨q, rfl, -⟩ := hfinite y hy
  simp [value]

end Tokens

lemma requireSourceRevision_accepts_iff {v : JsValue} :
    (∃ r, requireSourceRevision v = .ok r) ↔
      IsFinite (fun q => ∃ n : ℕ, q = n ∧ n ≤ maxSafeInteger) v := by
  constructor
  · rintro ⟨r, hr⟩
    obtain ⟨n, rfl⟩ := requireSourceRevision_typed hr
    obtain ⟨hpos, hle⟩ := requireSourceRevision_toDouble.mp ⟨r, hr⟩
    have hmax : maxSafeInteger < 2 ^ 53 := by decide
    refine ⟨n, by rw [toDouble_of_lt (by omega)], n.toNat, ?_, by omega⟩
    rw [← Int.cast_natCast, Int.toNat_of_nonneg hpos]
  · rintro ⟨q, rfl, n, rfl, hn⟩
    have hmax : maxSafeInteger < 2 ^ 53 := by decide
    have hdouble : toDouble (n : ℤ) = .finite n := by
      rw [toDouble_of_lt (by omega), Int.cast_natCast]
    rw [← hdouble]
    exact requireSourceRevision_toDouble.mpr ⟨by omega, by omega⟩

lemma wellFormedObservation_iff {o : Observed} {v : JsValue} (h : o.Presents v)
    {tokens : List ObservedToken} (htokens : o.tokens = some tokens) :
    WellFormedObservation v ↔ o.WithinLimits ∧ o.Valid := by
  obtain ⟨values, hvalues, hall⟩ := h.tokens tokens htokens
  have hrevision : IsFinite (fun q => ∃ n : ℕ, q = n ∧ n ≤ maxSafeInteger)
      (v.field "sourceRevision") ↔ 0 ≤ o.sourceRevision ∧ o.sourceRevision ≤ maxSafeInteger := by
    rw [← requireSourceRevision_accepts_iff, h.sourceRevision, requireSourceRevision_toDouble]
  have hnodup : (values.map fun t => t.field "id").Pairwise (fun id id' => id ≠ id') ↔
      (tokens.map ObservedToken.id).Nodup := by
    rw [map_id_presents hall, List.pairwise_map, List.Nodup]
    simp only [ne_eq, JsValue.string.injEq]
  have hempty : (values = [] → v.field "isFinal" = .bool true) ↔
      o.isFinal = true ∨ tokens ≠ [] := by
    have hnil : values = [] ↔ tokens = [] := by
      rw [← List.length_eq_zero_iff, ← hall.length_eq, List.length_eq_zero_iff]
    rw [hnil, h.isFinal, JsValue.bool.injEq, imp_iff_not_or, or_comm]
  have hcount := map_phonemeCount_presents hall
  constructor
  · rintro ⟨hid, hsource, -, hreceived, values', hvalues', hlength, hfinality, hwell, hids, hsum,
      hchain⟩
    rw [hvalues, JsValue.array.injEq] at hvalues'
    subst hvalues'
    rw [h.observationId, isIdentifier_string] at hid
    rw [h.receivedAtMs, isFinite_number] at hreceived
    rw [wellFormedTokens_iff hall] at hwell
    have hchain' := (pairwise_times_iff hall fun t ht => (hwell t ht).2.times).mp hchain
    refine ⟨⟨hid.2, ?_, ?_, ?_⟩, hid.1, hrevision.mp hsource, hreceived, tokens, htokens,
      hempty.mp hfinality, fun t ht => (hwell t ht).2, hnodup.mp hids, hchain'⟩
    · rintro _ htok
      cases htokens.symm.trans htok
      rw [hall.length_eq]
      exact hlength
    · rintro _ htok
      cases htokens.symm.trans htok
      exact fun t ht => (hwell t ht).1
    · rintro _ htok
      cases htokens.symm.trans htok
      rw [← hcount]
      exact hsum
  · rintro ⟨hlimits, hvalid⟩
    obtain ⟨tokens', htok, hfinality, htoken, hids, hchain⟩ := hvalid.tokens
    cases htokens.symm.trans htok
    refine ⟨?_, hrevision.mpr hvalid.sourceRevision, ⟨_, h.isFinal⟩, ?_, values, hvalues, ?_,
      hempty.mpr hfinality, ?_, hnodup.mpr hids, ?_, ?_⟩
    · rw [h.observationId, isIdentifier_string]
      exact ⟨hvalid.observationId, hlimits.observationId⟩
    · rw [h.receivedAtMs, isFinite_number]
      exact hvalid.receivedAtMs
    · rw [← hall.length_eq]
      exact hlimits.length tokens htokens
    · rw [wellFormedTokens_iff hall]
      exact fun t ht => ⟨hlimits.tokens tokens htokens t ht, htoken t ht⟩
    · rw [hcount]
      exact hlimits.phonemes tokens htokens
    · exact (pairwise_times_iff hall fun t ht => (htoken t ht).times).mpr hchain

/-- **What `validateObservation` accepts**: it returns on a value exactly when the value is a
well formed observation. -/
theorem validateObservation_accepts_iff (v : JsValue) :
    (∃ checked : RecitationObservation, validateObservation v = .ok checked) ↔
      WellFormedObservation v := by
  constructor
  · intro haccepted
    obtain ⟨o, tokens, hpresents, htokens⟩ := (typed_of_accepted haccepted).presented
    exact (wellFormedObservation_iff hpresents htokens).mpr ((accepted_iff hpresents).mp haccepted)
  · intro hwell
    obtain ⟨o, tokens, hpresents, htokens⟩ := hwell.typed.presented
    exact (accepted_iff hpresents).mpr ((wellFormedObservation_iff hpresents htokens).mp hwell)

end Qaraa.Sdk
