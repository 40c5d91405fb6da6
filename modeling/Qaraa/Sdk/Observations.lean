import Qaraa.Core.Validate
import Qaraa.Sdk.Json

/-!
Observations as the typed clients hold them, and when the core accepts one.

* `ObservedToken`, `Observed`: the fields of an observation at the types a client gives
  them; `Presents` says that a JavaScript value has these fields, whatever else it has.
* `WithinLimits`, `Valid`: the size limits, and what else the core asks of an observation;
  `NeverDecrease` is the rule of the timestamps, taken token by token.
* `accepted_iff`: the core accepts a value presenting an observation exactly when the
  observation is within the limits and valid.
-/

namespace Qaraa.Sdk

open Fallible Ordered

/-! ### Typed observations -/

/-- A token at the types of a client. A list that may be left unset is an option. -/
structure ObservedToken where
  id : String
  text : String
  phonemes : Option (List String)
  startMs : Option JsNumber
  endMs : Option JsNumber
  confidence : Option JsNumber

/-- What every client and the core see of an observation. -/
structure Observed where
  observationId : String
  sourceRevision : ℤ
  isFinal : Bool
  receivedAtMs : JsNumber
  tokens : Option (List ObservedToken)

/-- Finite and not negative. -/
def IsTimestamp (x : JsNumber) : Prop := ∃ q : ℚ, x = .finite q ∧ 0 ≤ q

/-- Finite and in the unit interval. -/
def IsUnit (x : JsNumber) : Prop := ∃ q : ℚ, x = .finite q ∧ 0 ≤ q ∧ q ≤ 1

namespace ObservedToken

/-- The timestamps that are present, the start first. -/
def times (t : ObservedToken) : List JsNumber := t.startMs.toList ++ t.endMs.toList

/-- `v` is an object with the fields of the token; a list left unset is null. -/
structure Presents (t : ObservedToken) (v : JsValue) : Prop where
  record : isRecord v = true
  id : v.field "id" = .string t.id
  text : v.field "text" = .string t.text
  phonemes : v.field "phonemes" = t.phonemes.elim .null fun ps => .array (ps.map .string)
  startMs : v.field "startMs" = t.startMs.elim .undefined .number
  endMs : v.field "endMs" = t.endMs.elim .undefined .number
  confidence : v.field "confidence" = t.confidence.elim .undefined .number

/-- The limits on the texts and phonemes of a token. -/
structure WithinLimits (t : ObservedToken) : Prop where
  id : utf16Length t.id ≤ observationLimits.maxTokenIdLength
  text : utf16Length t.text ≤ observationLimits.maxTokenTextLength
  phonemes : ∀ ps ∈ t.phonemes, ∀ p ∈ ps, utf16Length p ≤ observationLimits.maxPhonemeLength

/-- A token that the core accepts, apart from its order. -/
structure Valid (t : ObservedToken) : Prop where
  id : isBlank t.id = false
  phonemes : t.phonemes.isSome = true
  times : ∀ x ∈ t.times, IsTimestamp x
  confidence : ∀ x ∈ t.confidence, IsUnit x

end ObservedToken

/-- **The rule of the timestamps**: the present ones, taken token by token, never
decrease. -/
def NeverDecrease (tokens : List ObservedToken) : Prop :=
  (tokens.flatMap ObservedToken.times).IsChain fun earlier later => later.lt earlier = false

namespace Observed

/-- A value with the fields of an observation. -/
structure Presents (o : Observed) (v : JsValue) : Prop where
  record : isRecord v = true
  observationId : v.field "observationId" = .string o.observationId
  sourceRevision : v.field "sourceRevision" = .number (toDouble o.sourceRevision)
  isFinal : v.field "isFinal" = .bool o.isFinal
  receivedAtMs : v.field "receivedAtMs" = .number o.receivedAtMs
  unset : o.tokens = none → v.field "tokens" = .null
  tokens : ∀ tokens ∈ o.tokens, ∃ values, v.field "tokens" = .array values ∧
    List.Forall₂ ObservedToken.Presents tokens values

/-- The size limits of an observation. -/
structure WithinLimits (o : Observed) : Prop where
  observationId : utf16Length o.observationId ≤ observationLimits.maxObservationIdLength
  length : ∀ tokens ∈ o.tokens, tokens.length ≤ observationLimits.maxTokens
  tokens : ∀ tokens ∈ o.tokens, ∀ t ∈ tokens, t.WithinLimits
  phonemes : ∀ tokens ∈ o.tokens,
    (tokens.map fun t => (t.phonemes.getD []).length).sum ≤ observationLimits.maxPhonemes

/-- What the core asks of an observation beyond its size. -/
structure Valid (o : Observed) : Prop where
  observationId : isBlank o.observationId = false
  sourceRevision : 0 ≤ o.sourceRevision ∧ o.sourceRevision ≤ maxSafeInteger
  receivedAtMs : IsTimestamp o.receivedAtMs
  tokens : ∃ tokens, o.tokens = some tokens ∧ (o.isFinal = true ∨ tokens ≠ []) ∧
    (∀ t ∈ tokens, t.Valid) ∧ (tokens.map ObservedToken.id).Nodup ∧ NeverDecrease tokens

end Observed

/-! ### Field checks -/

/-- The rational a finite number is. -/
def value : JsNumber → ℚ
  | .finite q => q
  | _ => 0

lemma requireFiniteTimestamp_eq_ok {x : JsNumber} {label : String} {q : ℚ} :
    requireFiniteTimestamp (.number x) label = .ok q ↔ IsTimestamp x ∧ q = value x := by
  cases x with
  | finite r =>
      rw [requireFiniteTimestamp]
      split
      · rename_i hneg
        simp only [fail, reduceCtorEq, false_iff, not_and]
        rintro ⟨p, hp, hpos⟩
        cases hp
        exact absurd hneg (not_lt.mpr hpos)
      · rename_i hpos
        constructor
        · rintro ⟨⟩
          exact ⟨⟨_, rfl, not_lt.mp hpos⟩, rfl⟩
        · rintro ⟨-, rfl⟩
          rfl
  | _ => simp [requireFiniteTimestamp, fail, IsTimestamp]

lemma nextTimestamp_eq_ok {x : Option JsNumber} {name : String} {latest r : Option ℚ} :
    nextTimestamp (x.elim .undefined .number) name latest = .ok r ↔
      (∀ y ∈ x, IsTimestamp y ∧ ∀ p ∈ latest, y.lt (.finite p) = false) ∧ r = x.map value := by
  cases x with
  | none =>
      have hnone : nextTimestamp .undefined name latest = .ok none := rfl
      simp only [Option.elim_none, hnone, Except.ok.injEq, Option.map_none]
      exact ⟨fun h => ⟨by simp, h.symm⟩, fun h => h.2.symm⟩
  | some y =>
      have hsome : nextTimestamp (.number y) name latest = (do
          let timestamp ← requireFiniteTimestamp (.number y) ("observation token " ++ name)
          failIf (∃ previous ∈ latest, timestamp < previous)
            (.typeError "observation token timestamps must not decrease")
          return some timestamp) := rfl
      simp only [Option.elim_some, hsome, bind_eq_ok, requireFiniteTimestamp_eq_ok,
        failIf_eq_ok, pure_eq_ok, Option.mem_def, Option.some.injEq, forall_eq', Option.map_some]
      constructor
      · rintro ⟨q, ⟨⟨p, rfl, hpos⟩, hq⟩, -, hlatest, rfl⟩
        refine ⟨⟨⟨p, rfl, hpos⟩, fun l hl => ?_⟩, by rw [hq]⟩
        have hle : ¬p < l := fun hlt => hlatest ⟨l, hl, hq ▸ hlt⟩
        simpa using hle
      · rintro ⟨⟨⟨p, rfl, hpos⟩, hlatest⟩, rfl⟩
        refine ⟨p, ⟨⟨p, rfl, hpos⟩, rfl⟩, (), ?_, rfl⟩
        rintro ⟨l, hl, hlt⟩
        have hle := hlatest l hl
        simp only [JsNumber.lt_finite, decide_eq_false_iff_not] at hle
        exact hle hlt

lemma optionalConfidence_eq_ok {x : Option JsNumber} {r : Option ℚ} :
    optionalConfidence (x.elim .undefined .number) = .ok r ↔
      (∀ y ∈ x, IsUnit y) ∧ r = x.map value := by
  cases x with
  | none => simp [optionalConfidence, eq_comm]
  | some y =>
      cases y with
      | finite q =>
          simp only [Option.elim_some, optionalConfidence]
          split
          · rename_i hout
            simp only [fail, reduceCtorEq, Option.mem_def, Option.some.injEq, forall_eq',
              false_iff, not_and]
            rintro ⟨p, hp, hpos, hone⟩
            cases hp
            exact absurd hout (by rw [not_or, not_lt, not_lt]; exact ⟨hpos, hone⟩)
          · rename_i hin
            rw [not_or, not_lt, not_lt] at hin
            simp only [Except.ok.injEq, Option.mem_def, Option.some.injEq, forall_eq',
              Option.map_some]
            constructor
            · rintro rfl
              exact ⟨⟨q, rfl, hin⟩, rfl⟩
            · rintro ⟨-, rfl⟩
              rfl
      | _ => simp [optionalConfidence, fail, IsUnit]

/-- A revision is accepted if its double is a safe integer, hence if it is one itself. -/
lemma requireSourceRevision_toDouble {n : ℤ} :
    (∃ r, requireSourceRevision (.number (toDouble n)) = .ok r) ↔
      0 ≤ n ∧ n ≤ maxSafeInteger := by
  obtain ⟨m, hm⟩ : ∃ m : ℤ, m = n.sign * nearest n.natAbs := ⟨_, rfl⟩
  have hsafe : (isSafeInteger (.finite (m : ℚ)) = true ∧ (0 : ℚ) ≤ m) ↔
      0 ≤ m ∧ m ≤ maxSafeInteger := by
    have hiff : isSafeInteger (.finite (m : ℚ)) = true ↔
        (m : ℚ).den = 1 ∧ (m : ℚ).num.natAbs ≤ maxSafeInteger := by
      simp only [isSafeInteger, Bool.and_eq_true, beq_iff_eq, decide_eq_true_eq]
    rw [hiff, Rat.den_intCast, Rat.num_intCast, Int.cast_nonneg_iff]
    omega
  have hrange : (0 ≤ m ∧ m ≤ maxSafeInteger) ↔ 0 ≤ n ∧ n ≤ maxSafeInteger := by
    by_cases hlt : n.natAbs < 2 ^ 53
    · rw [hm, nearest_of_lt hlt, Int.sign_mul_natAbs]
    · have hle := le_nearest (not_lt.mp hlt)
      have hmax : maxSafeInteger < 2 ^ 53 := by decide
      rcases lt_or_ge n 0 with hneg | hpos
      · rw [Int.sign_eq_neg_one_of_neg hneg] at hm
        omega
      · rw [Int.sign_eq_one_of_pos (by omega)] at hm
        omega
  rw [← hrange, ← hsafe, toDouble, ← hm]
  simp only [requireSourceRevision]
  split <;> simp_all [fail]

/-! ### Tokens -/

namespace ObservedToken

/-- The token the core keeps. -/
def checked (t : ObservedToken) : ObservationToken :=
  ⟨t.id, t.text, t.phonemes.getD [], t.startMs.map value, t.endMs.map value,
    t.confidence.map value⟩

/-- The latest timestamp after the token. -/
def latest (t : ObservedToken) (last : Option ℚ) : Option ℚ :=
  (t.checked.endMs.or t.checked.startMs).or last

/-- The timestamps of the token continue from the latest one. -/
def Continues (t : ObservedToken) (last : Option ℚ) : Prop :=
  ((last.map JsNumber.finite).toList ++ t.times).IsChain
    fun earlier later => later.lt earlier = false

end ObservedToken

lemma requireNonEmptyString_string {s label : String} {r : String} :
    requireNonEmptyString (.string s) label = .ok r ↔ isBlank s = false ∧ r = s := by
  rw [requireNonEmptyString]
  cases isBlank s <;> simp [fail, eq_comm]

lemma requireString_string {s message r : String} :
    requireString (.string s) message = .ok r ↔ r = s := by
  simp [requireString, eq_comm]

lemma requireStringLength_eq_ok {s : String} {maximum : ℕ} {label : String} {u : Unit} :
    requireStringLength s maximum label = .ok u ↔ utf16Length s ≤ maximum := by
  rw [requireStringLength, failIf_eq_ok, not_lt]

lemma forM_eq_ok {α : Type} {f : α → Except JsError Unit} {l : List α} :
    l.forM f = .ok () ↔ ∀ a ∈ l, f a = .ok () := by
  induction l with
  | nil => simp
  | cons a l ih =>
      rw [List.forM, List.forall_mem_cons, bind_eq_ok]
      constructor
      · rintro ⟨⟨⟩, ha, hl⟩
        exact ⟨ha, ih.mp hl⟩
      · rintro ⟨ha, hl⟩
        exact ⟨(), ha, ih.mpr hl⟩

lemma mapM_requireString {items : List String} {message : String} {r : List String} :
    (items.map JsValue.string).mapM (fun item => requireString item message) = .ok r ↔
      r = items := by
  have hitem : (fun s t : String => requireString (.string s) message = .ok t) = Eq := by
    funext s t
    exact propext (requireString_string.trans eq_comm)
  rw [mapM_eq_ok, List.forall₂_map_left_iff, hitem, List.forall₂_eq_eq_eq, eq_comm]

/-- Continuing through a token is starting not below, and ending not below the start, or
not below what came before. -/
lemma continues_iff {t : ObservedToken} {last : Option ℚ}
    (htimes : ∀ x ∈ t.times, IsTimestamp x) : t.Continues last ↔
      (∀ x ∈ t.startMs, ∀ p ∈ last, x.lt (.finite p) = false) ∧
      ∀ x ∈ t.endMs, ∀ p ∈ (t.startMs.map value).or last, x.lt (.finite p) = false := by
  obtain ⟨id, text, phonemes, startMs, endMs, confidence⟩ := t
  cases startMs with
  | none => cases endMs <;> cases last <;> simp [ObservedToken.Continues, ObservedToken.times]
  | some s =>
      obtain ⟨q, rfl, -⟩ := htimes s (by simp [ObservedToken.times])
      cases endMs <;> cases last <;>
        simp [ObservedToken.Continues, ObservedToken.times, value]

/-- When the core accepts a token after the latest timestamp, and what it keeps of it. -/
lemma validateObservationToken_eq_ok {t : ObservedToken} {v : JsValue} (h : t.Presents v)
    {last : Option ℚ} {r : ObservationToken} :
    validateObservationToken v last = .ok r ↔
      (t.WithinLimits ∧ t.Valid ∧ t.Continues last) ∧ r = t.checked := by
  have hphonemes : ∀ ps : List JsValue,
      requireArray (t.phonemes.elim .null fun ps => .array (ps.map .string))
        "observation token phonemes must be strings" = .ok ps ↔
      ∃ strings, t.phonemes = some strings ∧ ps = strings.map .string := by
    intro ps
    cases t.phonemes <;> simp [requireArray, fail, eq_comm]
  simp only [validateObservationToken, h.record, h.id, h.text, h.phonemes, h.startMs, h.endMs,
    h.confidence, bind_eq_ok, failIf_eq_ok, pure_eq_ok, requireNonEmptyString_string,
    requireString_string, requireStringLength_eq_ok, hphonemes, nextTimestamp_eq_ok,
    optionalConfidence_eq_ok]
  constructor
  · rintro ⟨-, -, id, ⟨hid, rfl⟩, -, hidLength, text, rfl, -, htextLength, values,
      ⟨strings, hstrings, rfl⟩, phonemes, hmap, ⟨⟩, hlengths, start, ⟨hstart, rfl⟩, finish,
      ⟨hfinish, rfl⟩, confidence, ⟨hconfidence, rfl⟩, rfl⟩
    rw [mapM_requireString] at hmap
    subst hmap
    have htimes : ∀ x ∈ t.times, IsTimestamp x := by
      intro x hx
      rcases List.mem_append.mp hx with hx | hx
      · exact (hstart x (by simpa using hx)).1
      · exact (hfinish x (by simpa using hx)).1
    refine ⟨⟨⟨hidLength, htextLength, ?_⟩, ⟨hid, by rw [hstrings]; rfl, htimes, hconfidence⟩,
      (continues_iff htimes).mpr ⟨fun x hx => (hstart x hx).2, fun x hx => (hfinish x hx).2⟩⟩, ?_⟩
    · simp only [hstrings, Option.mem_def, Option.some.injEq, forall_eq']
      exact fun p hp => requireStringLength_eq_ok.mp (forM_eq_ok.mp hlengths p hp)
    · rw [ObservedToken.checked, hstrings]
      rfl
  · rintro ⟨⟨hlimits, hvalid, hcontinues⟩, rfl⟩
    obtain ⟨strings, hstrings⟩ := Option.isSome_iff_exists.mp hvalid.phonemes
    obtain ⟨hstart, hfinish⟩ := (continues_iff hvalid.times).mp hcontinues
    refine ⟨(), by simp, t.id, ⟨hvalid.id, rfl⟩, (), hlimits.id, t.text, rfl, (), hlimits.text, _,
      ⟨strings, hstrings, rfl⟩, strings, mapM_requireString.mpr rfl, (), ?_, _,
      ⟨fun x hx => ⟨hvalid.times x (by simp [ObservedToken.times, Option.mem_def.mp hx]),
        hstart x hx⟩, rfl⟩, _,
      ⟨fun x hx => ⟨hvalid.times x (by simp [ObservedToken.times, Option.mem_def.mp hx]),
        hfinish x hx⟩, rfl⟩, _, ⟨hvalid.confidence, rfl⟩, ?_⟩
    · exact forM_eq_ok.mpr fun p hp =>
        requireStringLength_eq_ok.mpr (hlimits.phonemes strings hstrings p hp)
    · rw [ObservedToken.checked, hstrings]
      rfl

/-! ### The loop over the tokens -/

/-- A chain goes on from its last member. -/
lemma isChain_append_iff {α : Type} {R : α → α → Prop} (l l' : List α) :
    (l ++ l').IsChain R ↔ l.IsChain R ∧ (l.getLast?.toList ++ l').IsChain R := by
  rcases List.eq_nil_or_concat l with rfl | ⟨init, x, rfl⟩
  · simp
  · simp only [List.concat_eq_append, List.append_assoc, List.getLast?_append,
      List.getLast?_singleton, Option.some_or, Option.toList_some, List.cons_append,
      List.nil_append]
    exact List.isChain_split

lemma isChain_tokens_cons {t : ObservedToken} {ts : List ObservedToken} {last : Option ℚ}
    (htimes : ∀ x ∈ t.times, IsTimestamp x) :
    ((last.map JsNumber.finite).toList ++ (t :: ts).flatMap ObservedToken.times).IsChain
        (fun earlier later => later.lt earlier = false) ↔
      t.Continues last ∧
      (((t.latest last).map JsNumber.finite).toList ++ ts.flatMap ObservedToken.times).IsChain
        fun earlier later => later.lt earlier = false := by
  have hlast : ((last.map JsNumber.finite).toList ++ t.times).getLast? =
      (t.latest last).map JsNumber.finite := by
    obtain ⟨id, text, phonemes, startMs, endMs, confidence⟩ := t
    cases endMs with
    | some e =>
        obtain ⟨q, rfl, -⟩ := htimes e (by simp [ObservedToken.times])
        cases startMs <;> cases last <;>
          simp [ObservedToken.latest, ObservedToken.times, ObservedToken.checked, value]
    | none =>
        cases startMs with
        | some s =>
            obtain ⟨q, rfl, -⟩ := htimes s (by simp [ObservedToken.times])
            cases last <;>
              simp [ObservedToken.latest, ObservedToken.times, ObservedToken.checked, value]
        | none =>
            cases last <;>
              simp [ObservedToken.latest, ObservedToken.times, ObservedToken.checked]
  rw [List.flatMap_cons, ← List.append_assoc, isChain_append_iff, hlast]
  rfl

/-- When a round of the loop succeeds, and the state after it. -/
lemma visitToken_eq_ok {t : ObservedToken} {v : JsValue} (h : t.Presents v) {pass r : TokenPass} :
    visitToken pass v = .ok r ↔
      (t.WithinLimits ∧ t.Valid ∧ t.Continues pass.lastTimestamp) ∧
      t.id ∉ pass.tokenIds.items ∧
      pass.phonemeCount + (t.phonemes.getD []).length ≤ observationLimits.maxPhonemes ∧
      r = ⟨pass.tokens ++ [t.checked], pass.tokenIds.add t.id,
        pass.phonemeCount + (t.phonemes.getD []).length, t.latest pass.lastTimestamp⟩ := by
  simp only [visitToken, h.record, h.id, bind_eq_ok, failIf_eq_ok, pure_eq_ok,
    requireNonEmptyString_string, validateObservationToken_eq_ok h, OrderedSet.has_iff, not_lt]
  constructor
  · rintro ⟨-, -, id, ⟨-, rfl⟩, -, hnew, token, ⟨hvalid, rfl⟩, -, hcount, rfl⟩
    exact ⟨hvalid, hnew, hcount, rfl⟩
  · rintro ⟨hvalid, hnew, hcount, rfl⟩
    exact ⟨(), by simp, t.id, ⟨hvalid.2.1.id, rfl⟩, (), hnew, _, ⟨hvalid, rfl⟩, (), hcount, rfl⟩

/-- The loop over the tokens succeeds exactly when each is within the limits and valid,
their ids differ, their phonemes are few enough and their timestamps never decrease. -/
lemma foldlM_visitToken {tokens : List ObservedToken} {values : List JsValue}
    (h : List.Forall₂ ObservedToken.Presents tokens values) {pass : TokenPass}
    (hpass : pass.phonemeCount ≤ observationLimits.maxPhonemes) :
    (∃ r, values.foldlM visitToken pass = .ok r) ↔
      (∀ t ∈ tokens, t.WithinLimits ∧ t.Valid) ∧ (tokens.map ObservedToken.id).Nodup ∧
      (∀ t ∈ tokens, t.id ∉ pass.tokenIds.items) ∧
      pass.phonemeCount + (tokens.map fun t => (t.phonemes.getD []).length).sum ≤
        observationLimits.maxPhonemes ∧
      ((pass.lastTimestamp.map JsNumber.finite).toList ++
        tokens.flatMap ObservedToken.times).IsChain
          fun earlier later => later.lt earlier = false := by
  induction h generalizing pass with
  | nil =>
      have hchain : ((pass.lastTimestamp.map JsNumber.finite).toList).IsChain
          fun earlier later => later.lt earlier = false := by
        cases pass.lastTimestamp <;> simp
      simpa [pure_eq_ok] using ⟨hpass, hchain⟩
  | @cons t v tokens values ht _ ih =>
      constructor
      · rintro ⟨r, hr⟩
        rw [List.foldlM_cons, bind_eq_ok] at hr
        obtain ⟨next, hnext, hrest⟩ := hr
        rw [visitToken_eq_ok ht] at hnext
        obtain ⟨⟨hlimits, hvalid, hcontinues⟩, hnew, hcount, rfl⟩ := hnext
        obtain ⟨hall, hnodup, hfresh, hsum, hchain⟩ := (ih hcount).mp ⟨r, hrest⟩
        simp only [OrderedSet.mem_add, not_or] at hfresh
        refine ⟨List.forall_mem_cons.mpr ⟨⟨hlimits, hvalid⟩, hall⟩, ?_,
          List.forall_mem_cons.mpr ⟨hnew, fun t' ht' => (hfresh t' ht').1⟩, ?_,
          (isChain_tokens_cons hvalid.times).mpr ⟨hcontinues, hchain⟩⟩
        · rw [List.map_cons, List.nodup_cons]
          refine ⟨fun hmem => ?_, hnodup⟩
          obtain ⟨t', ht', hid⟩ := List.mem_map.mp hmem
          exact (hfresh t' ht').2 hid
        · rw [List.map_cons, List.sum_cons, ← add_assoc]
          exact hsum
      · rintro ⟨hall, hnodup, hfresh, hsum, hchain⟩
        rw [List.forall_mem_cons] at hall hfresh
        rw [List.map_cons, List.nodup_cons] at hnodup
        rw [List.map_cons, List.sum_cons, ← add_assoc] at hsum
        obtain ⟨hcontinues, hchain⟩ := (isChain_tokens_cons hall.1.2.times).mp hchain
        have hcount : pass.phonemeCount + (t.phonemes.getD []).length ≤
            observationLimits.maxPhonemes := le_trans (Nat.le_add_right _ _) hsum
        have hnext := (visitToken_eq_ok ht).mpr
          ⟨⟨hall.1.1, hall.1.2, hcontinues⟩, hfresh.1, hcount, rfl⟩
        have hothers : ∀ t' ∈ tokens, t'.id ∉ (pass.tokenIds.add t.id).items := by
          intro t' ht'
          rw [OrderedSet.mem_add, not_or]
          exact ⟨hfresh.2 t' ht', fun hid => hnodup.1 (hid ▸ List.mem_map.mpr ⟨t', ht', rfl⟩)⟩
        obtain ⟨r, hr⟩ := (@ih ⟨pass.tokens ++ [t.checked], pass.tokenIds.add t.id,
          pass.phonemeCount + (t.phonemes.getD []).length, t.latest pass.lastTimestamp⟩ hcount).mpr
            ⟨hall.2, hnodup.2, hothers, hsum, hchain⟩
        refine ⟨r, ?_⟩
        rw [List.foldlM_cons, hnext, ok_bind]
        exact hr

/-! ### Acceptance -/

/-- `validateObservation` returns. -/
def Accepted (v : JsValue) : Prop := ∃ checked, validateObservation v = .ok checked

/-- **When the core accepts an observation**: exactly when it is within the size limits and
valid, whatever other fields the value has. -/
theorem accepted_iff {o : Observed} {v : JsValue} (h : o.Presents v) :
    Accepted v ↔ o.WithinLimits ∧ o.Valid := by
  simp only [Accepted, validateObservation, h.record, h.observationId, h.sourceRevision, h.isFinal,
    h.receivedAtMs, bind_eq_ok, failIf_eq_ok, pure_eq_ok, requireNonEmptyString_string,
    requireStringLength_eq_ok, requireFiniteTimestamp_eq_ok, requireBoolean, Except.ok.injEq,
    not_lt]
  constructor
  · rintro ⟨checked, -, -, id, ⟨hid, rfl⟩, -, hlength, revision, hrevision, isFinal, rfl, received,
      ⟨hreceived, -⟩, values, hvalues, -, hmany, -, hfinality, pass, hpass, -⟩
    obtain ⟨tokens, htokens⟩ : ∃ tokens, o.tokens = some tokens := by
      cases hnone : o.tokens with
      | some tokens => exact ⟨tokens, rfl⟩
      | none =>
          rw [h.unset hnone] at hvalues
          cases hvalues
    obtain ⟨values', hfield, hall⟩ := h.tokens tokens htokens
    rw [hfield, requireArray, Except.ok.injEq] at hvalues
    subst hvalues
    obtain ⟨htoken, hnodup, -, hsum, hchain⟩ :=
      (foldlM_visitToken hall (Nat.zero_le _)).mp ⟨pass, hpass⟩
    refine ⟨⟨hlength, ?_, ?_, ?_⟩, ⟨hid, requireSourceRevision_toDouble.mp ⟨revision, hrevision⟩,
      hreceived, tokens, htokens, ?_, fun t ht => (htoken t ht).2, hnodup, hchain⟩⟩
    · simp only [htokens, Option.mem_def, Option.some.injEq, forall_eq']
      rw [hall.length_eq]
      exact hmany
    · simp only [htokens, Option.mem_def, Option.some.injEq, forall_eq']
      exact fun t ht => (htoken t ht).1
    · simp only [htokens, Option.mem_def, Option.some.injEq, forall_eq']
      simpa using hsum
    · by_contra hnot
      simp only [not_or, Bool.not_eq_true, not_not] at hnot
      obtain ⟨hfinal, rfl⟩ := hnot
      cases hall
      exact hfinality ⟨hfinal, rfl⟩
  · rintro ⟨hlimits, hvalid⟩
    obtain ⟨tokens, htokens, hfinality, htoken, hnodup, hchain⟩ := hvalid.tokens
    obtain ⟨values, hfield, hall⟩ := h.tokens tokens htokens
    obtain ⟨revision, hrevision⟩ := requireSourceRevision_toDouble.mpr hvalid.sourceRevision
    obtain ⟨pass, hpass⟩ := (@foldlM_visitToken tokens values hall ⟨[], .empty, 0, none⟩
      (Nat.zero_le _)).mpr ⟨fun t ht => ⟨hlimits.tokens tokens htokens t ht, htoken t ht⟩, hnodup,
        by simp [OrderedSet.items_empty], by simpa using hlimits.phonemes tokens htokens, hchain⟩
    refine ⟨_, (), by simp, o.observationId, ⟨hvalid.observationId, rfl⟩, (),
      hlimits.observationId, revision, hrevision, o.isFinal, rfl, _, ⟨hvalid.receivedAtMs, rfl⟩,
      values, by rw [hfield, requireArray], (), ?_, (), ?_, pass, hpass, rfl⟩
    · rw [← hall.length_eq]
      exact hlimits.length tokens htokens
    · rintro ⟨hfinal, rfl⟩
      cases hall
      rcases hfinality with hp | hp
      · rw [hfinal] at hp
        cases hp
      · exact hp rfl

end Qaraa.Sdk
