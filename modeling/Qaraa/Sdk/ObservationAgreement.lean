import Qaraa.Sdk.DartRoundTrip
import Qaraa.Sdk.GoTypes
import Qaraa.Sdk.PythonModels

/-!
The observation validators of the native clients against the validator of the core.

All three carry only a present end to the next token and compare an end only with the
start of its own token, so a start below an earlier start, or an end below an earlier end,
passes them. The Go and the Python client leave some further checks to the server.

* `Dart.observed`, `Go.observed`, `Python.observed`: the observation each holds.
* `Go.Sound`, `Python.Sound`: what the two validators leave unchecked.
* `clients_agree`: of an observation within the size limits that a client accepts, exactly
  when the core accepts it too.
* `backwards_diverges`: two tokens whose starts decrease, accepted by all three clients.
-/

namespace Qaraa.Sdk

open Fallible Ordered OrderedMap Entries

lemma isTimestamp_of_finite {x : JsNumber} (hfinite : x.isFinite = true)
    (hpos : x.lt (.finite 0) = false) : IsTimestamp x := by
  obtain ⟨q, rfl⟩ := JsNumber.isFinite_iff.mp hfinite
  exact ⟨q, rfl, by simpa using hpos⟩

lemma isUnit_of_finite {x : JsNumber} (hfinite : x.isFinite = true)
    (hpos : x.lt (.finite 0) = false) (hone : (JsNumber.finite 1).lt x = false) : IsUnit x := by
  obtain ⟨q, rfl⟩ := JsNumber.isFinite_iff.mp hfinite
  exact ⟨q, rfl, by simpa using hpos, by simpa using hone⟩

lemma IsTimestamp.finite {x : JsNumber} (h : IsTimestamp x) : x.isFinite = true := by
  obtain ⟨q, rfl, -⟩ := h
  rfl

lemma IsUnit.finite {x : JsNumber} (h : IsUnit x) : x.isFinite = true := by
  obtain ⟨q, rfl, -⟩ := h
  rfl

/-! ### Go -/

namespace Go

/-- What the token shows. -/
def ObservationToken.observed (v : ObservationToken) : ObservedToken :=
  ⟨v.id, v.text, v.phonemes, v.startMs, v.endMs, v.confidence⟩

/-- What the observation shows. -/
def RecitationObservation.observed (v : RecitationObservation) : Observed :=
  ⟨v.observationId, v.sourceRevision.toNat, v.isFinal, v.receivedAtMs,
    v.tokens.map (List.map ObservationToken.observed)⟩

/-- What the Go validator leaves unchecked: ids of blanks, byte-order marks among the
blanks of the observation's id, revisions out of the safe range, nil slices, numbers that
are not finite, and timestamps that decrease. -/
structure Sound (o : Observed) : Prop where
  observationId : isBlank o.observationId = false
  sourceRevision : o.sourceRevision ≤ maxSafeInteger
  tokens : ∃ tokens, o.tokens = some tokens ∧ NeverDecrease tokens ∧
    ∀ t ∈ tokens, isBlank t.id = false ∧ t.phonemes.isSome = true ∧
      (∀ x ∈ t.times, x.isFinite = true) ∧ ∀ x ∈ t.confidence, x.isFinite = true

/-- What the loop checks of one token. -/
structure TokenChecked (t : ObservationToken) : Prop where
  startMs : ∀ x ∈ t.startMs, x.lt (.finite 0) = false
  endMs : ∀ x ∈ t.endMs, x.lt (.finite 0) = false
  confidence : ∀ x ∈ t.confidence, x.lt (.finite 0) = false ∧ (JsNumber.finite 1).lt x = false

/-- A loop that runs through has seen each id once and checked every token. -/
lemma foldlM_visitToken_ok {tokens : List ObservationToken} {pass : TokenCheck}
    (h : tokens.foldlM visitToken ⟨.empty, .finite (-1)⟩ = .ok pass) :
    (tokens.map ObservationToken.id).Nodup ∧ ∀ t ∈ tokens, TokenChecked t := by
  have hinv : pass.seen.items = tokens.map ObservationToken.id ∧
      (tokens.map ObservationToken.id).Nodup ∧ ∀ t ∈ tokens, TokenChecked t := by
    refine foldlM_induction (P := fun pre pass => pass.seen.items = pre.map ObservationToken.id ∧
      (pre.map ObservationToken.id).Nodup ∧ ∀ t ∈ pre, TokenChecked t) h ⟨rfl, by simp, by simp⟩ ?_
    rintro pre t pass next ⟨hseen, hnodup, hall⟩ hnext
    simp only [visitToken, bind_eq_ok, failIf_eq_ok, pure_eq_ok, not_or, not_exists, not_and,
      OrderedSet.has_iff, Bool.not_eq_true] at hnext
    obtain ⟨-, ⟨-, hnew⟩, -, hstart, -, hfinish, -, hconfidence, rfl⟩ := hnext
    rw [hseen] at hnew
    refine ⟨?_, ?_, ?_⟩
    · rw [OrderedSet.items_add_of_notMem (by rw [hseen]; exact hnew), hseen, List.map_append]
      rfl
    · rw [List.map_append, List.map_singleton, ← List.concat_eq_append, List.nodup_concat]
      exact ⟨hnew, hnodup⟩
    · intro t' ht'
      rcases List.mem_append.mp ht' with ht' | ht'
      · exact hall t' ht'
      · rw [List.mem_singleton.mp ht']
        exact ⟨fun x hx => (hstart x hx).1, fun x hx => (hfinish x hx).1, hconfidence⟩
  exact hinv.2

lemma validateObservation_eq_ok {o : RecitationObservation} (h : validateObservation o = .ok ()) :
    (o.isFinal = true ∨ o.tokens.getD [] ≠ []) ∧
      IsTimestamp o.receivedAtMs ∧
      ((o.tokens.getD []).map ObservationToken.id).Nodup ∧
      ∀ t ∈ o.tokens.getD [], TokenChecked t := by
  simp only [validateObservation, bind_eq_ok, failIf_eq_ok, not_or, not_and,
    Bool.not_eq_true, Bool.not_eq_false] at h
  obtain ⟨-, -, -, hfinality, -, ⟨hfinite, hpos⟩, pass, hpass, -⟩ := h
  refine ⟨?_, isTimestamp_of_finite hfinite hpos, foldlM_visitToken_ok hpass⟩
  cases hfinal : o.isFinal with
  | true => exact .inl rfl
  | false => exact .inr (hfinality hfinal)

/-- Of an observation the Go client accepts, the core asks what is left unchecked. -/
lemma valid_iff {o : RecitationObservation} (h : validateObservation o = .ok ()) :
    o.observed.Valid ↔ Sound o.observed := by
  obtain ⟨hfinality, hreceived, hnodup, hchecked⟩ := validateObservation_eq_ok h
  constructor
  · rintro ⟨hid, hrevision, -, tokens, htokens, -, hvalid, -, hchain⟩
    exact ⟨hid, hrevision.2, tokens, htokens, hchain, fun t ht => ⟨(hvalid t ht).id,
      (hvalid t ht).phonemes, fun x hx => ((hvalid t ht).times x hx).finite,
      fun x hx => ((hvalid t ht).confidence x hx).finite⟩⟩
  · rintro ⟨hid, hrevision, tokens, htokens, hchain, hsound⟩
    obtain ⟨own, hown, rfl⟩ := Option.map_eq_some_iff.mp htokens
    rw [hown, Option.getD_some] at hfinality hnodup hchecked
    refine ⟨hid, ⟨Int.natCast_nonneg _, hrevision⟩, hreceived, _, htokens, ?_, ?_, ?_, hchain⟩
    · exact hfinality.imp_right fun hne => by simpa using hne
    · intro t ht
      obtain ⟨t', ht', rfl⟩ := List.mem_map.mp ht
      obtain ⟨htid, hphonemes, htimes, hconfidence⟩ := hsound _ ht
      refine ⟨htid, hphonemes, fun x hx => isTimestamp_of_finite (htimes x hx) ?_, fun x hx =>
        isUnit_of_finite (hconfidence x hx) ((hchecked t' ht').confidence x hx).1
          ((hchecked t' ht').confidence x hx).2⟩
      rcases List.mem_append.mp hx with hx | hx
      · exact (hchecked t' ht').startMs x (Option.mem_toList.mp hx)
      · exact (hchecked t' ht').endMs x (Option.mem_toList.mp hx)
    · rw [List.map_map]
      exact hnodup

end Go

/-! ### Python -/

namespace Python

/-- What the token shows. -/
def ObservationToken.observed (v : ObservationToken) : ObservedToken :=
  ⟨v.id, v.text, some v.phonemes, v.startMs, v.endMs, v.confidence⟩

/-- What the observation shows. -/
def RecitationObservation.observed (v : RecitationObservation) : Observed :=
  ⟨v.observationId, v.sourceRevision, v.isFinal, v.receivedAtMs,
    some (v.tokens.map ObservationToken.observed)⟩

/-- What the Python model leaves unchecked: ids of blanks, byte-order marks among the
blanks of the observation's id, ids that repeat, revisions above the safe range, numbers
that are not finite, and timestamps that decrease. -/
structure Sound (o : Observed) : Prop where
  observationId : isBlank o.observationId = false
  sourceRevision : o.sourceRevision ≤ maxSafeInteger
  receivedAtMs : o.receivedAtMs.isFinite = true
  tokens : ∀ tokens ∈ o.tokens, (tokens.map ObservedToken.id).Nodup ∧ NeverDecrease tokens ∧
    ∀ t ∈ tokens, isBlank t.id = false ∧ (∀ x ∈ t.times, x.isFinite = true) ∧
      ∀ x ∈ t.confidence, x.isFinite = true

section

variable {ge le : JsNumber → ℚ → Bool}

lemma isTimestamp_of_ge (hge : ∀ q b, ge (.finite q) b = decide (b ≤ q)) {x : JsNumber}
    (hfinite : x.isFinite = true) (hx : ge x 0 = true) : IsTimestamp x := by
  obtain ⟨q, rfl⟩ := JsNumber.isFinite_iff.mp hfinite
  exact ⟨q, rfl, by simpa [hge] using hx⟩

lemma isUnit_of_ge (hge : ∀ q b, ge (.finite q) b = decide (b ≤ q))
    (hle : ∀ q b, le (.finite q) b = decide (q ≤ b)) {x : JsNumber}
    (hfinite : x.isFinite = true) (hx : isUnitFloat ge le x = true) : IsUnit x := by
  obtain ⟨q, rfl⟩ := JsNumber.isFinite_iff.mp hfinite
  exact ⟨q, rfl, by simpa [isUnitFloat, hge, hle] using hx⟩

/-- Of an observation the Python client accepts, the core asks what is left unchecked. -/
lemma valid_iff (hge : ∀ q b, ge (.finite q) b = decide (b ≤ q))
    (hle : ∀ q b, le (.finite q) b = decide (q ≤ b)) {o : RecitationObservation}
    (h : Accepts ge le o) : o.observed.Valid ↔ Sound o.observed := by
  constructor
  · rintro ⟨hid, hrevision, hreceived, tokens, htokens, -, hvalid, hnodup, hchain⟩
    refine ⟨hid, hrevision.2, hreceived.finite, ?_⟩
    simp only [htokens, Option.mem_def, Option.some.injEq, forall_eq']
    exact ⟨hnodup, hchain, fun t ht => ⟨(hvalid t ht).id,
      fun x hx => ((hvalid t ht).times x hx).finite,
      fun x hx => ((hvalid t ht).confidence x hx).finite⟩⟩
  · rintro ⟨hid, hrevision, hreceived, hsound⟩
    obtain ⟨hnodup, hchain, hsound⟩ := hsound _ rfl
    refine ⟨hid, ⟨h.sourceRevision, hrevision⟩, isTimestamp_of_ge hge hreceived h.receivedAtMs,
      _, rfl, ?_, ?_, hnodup, hchain⟩
    · have hfinality := h.isPartial
      simp only [validatePartial, bind_eq_ok, failIf_eq_ok, not_and] at hfinality
      obtain ⟨-, hfinality, -⟩ := hfinality
      cases hfinal : o.isFinal with
      | true => exact .inl hfinal
      | false => exact .inr fun hnil => hfinality hfinal (List.map_eq_nil_iff.mp hnil)
    · intro t ht
      obtain ⟨t', ht', rfl⟩ := List.mem_map.mp ht
      have haccepted := h.tokens t' ht'
      obtain ⟨htid, htimes, hconfidence⟩ := hsound _ ht
      refine ⟨htid, rfl, fun x hx => isTimestamp_of_ge hge (htimes x hx) ?_, fun x hx =>
        isUnit_of_ge hge hle (hconfidence x hx) (haccepted.confidence x hx)⟩
      rcases List.mem_append.mp hx with hx | hx
      · exact haccepted.startMs x (Option.mem_toList.mp hx)
      · exact haccepted.endMs x (Option.mem_toList.mp hx)

end

end Python

/-! ### Dart -/

namespace Dart

/-- What the token shows. -/
def ObservationToken.observed (m : ObservationToken) : ObservedToken :=
  ⟨m.id, m.text, some m.phonemes, m.startMs, m.endMs, m.confidence⟩

/-- What the observation shows. -/
def RecitationObservation.observed (m : RecitationObservation) : Observed :=
  ⟨m.observationId, m.sourceRevision, m.isFinal, m.receivedAtMs,
    some (m.tokens.map ObservationToken.observed)⟩

/-- What Dart does not trim to nothing, JavaScript does not either. -/
lemma isBlank_of_requiredString {value : Json} {name s : String}
    (h : requiredString value name true = .ok s) : isBlank s = false := by
  have htrim : trimIsEmpty s = false := by simpa using (requiredString_eq_ok.mp h).2
  rw [Bool.eq_false_iff] at htrim ⊢
  refine fun hblank => htrim ?_
  rw [isBlank, List.all_eq_true] at hblank
  rw [trimIsEmpty, List.all_eq_true]
  intro c hc
  rw [hblank c hc, Bool.true_or]

section Reading

variable {json : Entries} {key name : String}

lemma field_of_get {value : Json} (h : get json key = value) (hnull : value ≠ .null) :
    (Json.map json).toJs.field key = value.toJs := by
  rw [field_toJs, Sdk.lookup_of_get (h ▸ hnull), h]
  rfl

lemma field_of_requiredString {nonEmpty : Bool} {s : String}
    (h : requiredString (get json key) name nonEmpty = .ok s) :
    (Json.map json).toJs.field key = .string s := by
  rw [field_of_get (requiredString_eq_ok.mp h).1 (by simp), Json.toJs]

lemma toJs_of_requiredNumber {value : Json} {minimum : JsNumber} {maximum : Option JsNumber}
    {x : JsNumber} (h : requiredNumber value name minimum maximum = .ok x) :
    value.toJs = .number x := by
  cases survives_of_requiredNumber h <;> rw [Json.toJs]

lemma field_of_ifContains {minimum : JsNumber} {maximum : Option JsNumber} {x : Option JsNumber}
    (h : ifContains json key (fun value => requiredNumber value name minimum maximum) = .ok x) :
    (Json.map json).toJs.field key = x.elim .undefined .number := by
  rw [field_toJs]
  rcases ifContains_eq_ok.mp h with ⟨hnone, rfl⟩ | ⟨value, b, hsome, hb, rfl⟩
  · rw [hnone]
    rfl
  · rw [hsome]
    exact toJs_of_requiredNumber hb

lemma isTimestamp_of_requiredNumber {value : Json} {x : JsNumber}
    (h : requiredNumber value name = .ok x) : IsTimestamp x := by
  have hx := requiredNumber_double keepsIntegers_zero h
  rw [requiredNumber] at hx
  split at hx
  · cases hx
  · rename_i hinside
    simp only [isOutside, Option.any_none, Bool.or_false, Bool.or_eq_true, not_or,
      Bool.not_eq_true, Bool.not_eq_false'] at hinside
    exact isTimestamp_of_finite hinside.1 hinside.2

lemma isUnit_of_requiredNumber {value : Json} {x : JsNumber}
    (h : requiredNumber value name (.finite 0) (some (.finite 1)) = .ok x) : IsUnit x := by
  have hx := requiredNumber_double keepsIntegers_unit h
  rw [requiredNumber] at hx
  split at hx
  · cases hx
  · rename_i hinside
    simp only [isOutside, Option.any_some, Bool.or_eq_true, not_or, Bool.not_eq_true,
      Bool.not_eq_false'] at hinside
    exact isUnit_of_finite hinside.1.1 hinside.1.2 hinside.2

lemma mem_of_ifContains {α : Type} {read : Json → Except DartError α} {x : Option α} {y : α}
    (h : ifContains json key read = .ok x) (hy : y ∈ x) : ∃ value, read value = .ok y := by
  rcases ifContains_eq_ok.mp h with ⟨-, rfl⟩ | ⟨value, b, -, hb, rfl⟩
  · cases hy
  · cases hy
    exact ⟨value, hb⟩

end Reading

/-- A token the client decodes has the fields it is decoded to, and is valid. -/
lemma token_presents {value : Json} {m : ObservationToken}
    (h : RecitationObservation.decodeToken value = .ok m) :
    m.observed.Presents value.toJs ∧ m.observed.Valid := by
  obtain ⟨json, rfl⟩ : ∃ json, value = .map json := by
    cases value <;> first | exact ⟨_, rfl⟩ | cases h
  obtain ⟨hphonemes, hid, htext, hstart, hend, hconfidence, -⟩ :=
    ObservationToken.fromJson_eq_ok.mp h
  constructor
  · refine ⟨by rw [Json.toJs]; rfl, field_of_requiredString hid, field_of_requiredString htext, ?_,
      field_of_ifContains hstart, field_of_ifContains hend, field_of_ifContains hconfidence⟩
    rw [field_of_get (requiredStrings_eq_ok.mp hphonemes).1 (by simp), Json.toJs, itemsToJs_eq,
      List.map_map]
    rfl
  · refine ⟨isBlank_of_requiredString hid, rfl, ?_, ?_⟩
    · intro x hx
      rcases List.mem_append.mp hx with hx | hx
      · obtain ⟨value, hvalue⟩ := mem_of_ifContains hstart (Option.mem_toList.mp hx)
        exact isTimestamp_of_requiredNumber hvalue
      · obtain ⟨value, hvalue⟩ := mem_of_ifContains hend (Option.mem_toList.mp hx)
        exact isTimestamp_of_requiredNumber hvalue
    · intro x hx
      obtain ⟨value, hvalue⟩ := mem_of_ifContains hconfidence hx
      exact isUnit_of_requiredNumber hvalue

/-- A loop that runs through has seen each id once. -/
lemma nodup_of_checkToken {tokens : List ObservationToken} {pass : TokenCheck}
    (h : tokens.foldlM checkToken ⟨.empty, .finite (-1)⟩ = .ok pass) :
    (tokens.map ObservationToken.id).Nodup := by
  have hinv : pass.ids.items = tokens.map ObservationToken.id ∧
      (tokens.map ObservationToken.id).Nodup := by
    refine foldlM_induction (P := fun pre pass => pass.ids.items = pre.map ObservationToken.id ∧
      (pre.map ObservationToken.id).Nodup) h ⟨rfl, by simp⟩ ?_
    rintro pre t pass next ⟨hids, hnodup⟩ hnext
    simp only [checkToken, bind_eq_ok, failIf_eq_ok, pure_eq_ok, OrderedSet.has_iff] at hnext
    obtain ⟨-, hnew, -, -, -, -, rfl⟩ := hnext
    rw [hids] at hnew
    constructor
    · rw [OrderedSet.items_add_of_notMem (by rw [hids]; exact hnew), hids, List.map_append]
      rfl
    · rw [List.map_append, List.map_singleton, ← List.concat_eq_append, List.nodup_concat]
      exact ⟨hnew, hnodup⟩
  exact hinv.2

/-- An observation the client decodes has the fields it is decoded to. -/
lemma observation_presents {json : Entries} {m : RecitationObservation}
    (h : RecitationObservation.fromJson json = .ok m) :
    m.observed.Presents (Json.map json).toJs := by
  obtain ⟨htokens, hfinal, -, -, hid, hrevision, hreceived, -⟩ :=
    RecitationObservation.fromJson_eq_ok.mp h
  obtain ⟨raw, hraw, hmap⟩ := bind_eq_ok.mp htokens
  refine ⟨by rw [Json.toJs]; rfl, field_of_requiredString hid, ?_, ?_, ?_, nofun, ?_⟩
  · rw [field_of_get (requiredInteger_eq_ok.mp hrevision).1 (by simp), Json.toJs]
    rfl
  · rw [field_of_get (requiredBool_eq_ok.mp hfinal) (by simp), Json.toJs]
    rfl
  · have hnull := (reads_number _ keepsIntegers_zero).lookup_of_get hreceived
    rw [field_toJs, hnull]
    exact toJs_of_requiredNumber hreceived
  · simp only [RecitationObservation.observed, Option.mem_def, Option.some.injEq, forall_eq']
    refine ⟨raw.map Json.toJs, ?_, ?_⟩
    · rw [field_of_get (requiredList_eq_ok.mp hraw) (by simp), Json.toJs, itemsToJs_eq]
    · rw [List.forall₂_map_left_iff, List.forall₂_map_right_iff]
      exact (mapM_eq_ok.mp hmap).flip.imp fun t value ht => (token_presents ht).1

/-- Of an observation the Dart client decodes, the core asks that its timestamps never
decrease. -/
lemma valid_iff {json : Entries} {m : RecitationObservation}
    (h : RecitationObservation.fromJson json = .ok m) :
    m.observed.Valid ↔ NeverDecrease (m.tokens.map ObservationToken.observed) := by
  obtain ⟨htokens, hfinal, hfinality, ⟨pass, hpass⟩, hid, hrevision, hreceived, -⟩ :=
    RecitationObservation.fromJson_eq_ok.mp h
  obtain ⟨raw, -, hmap⟩ := bind_eq_ok.mp htokens
  constructor
  · rintro ⟨-, -, -, tokens, ⟨⟩, -, -, -, hchain⟩
    exact hchain
  · intro hchain
    refine ⟨isBlank_of_requiredString hid,
      (requiredInteger_eq_ok.mp hrevision).2, isTimestamp_of_requiredNumber hreceived, _, rfl, ?_,
      ?_, ?_, hchain⟩
    · cases hflag : m.isFinal with
      | true => exact .inl hflag
      | false => exact .inr fun hnil => hfinality ⟨hflag, List.map_eq_nil_iff.mp hnil⟩
    · intro t ht
      obtain ⟨t', ht', rfl⟩ := List.mem_map.mp ht
      obtain ⟨value, -, hvalue⟩ := exists_of_mem_mapM hmap ht'
      exact (token_presents hvalue).2
    · rw [List.map_map]
      exact nodup_of_checkToken hpass

end Dart

/-! ### Agreement -/

/-- **When the clients agree with the core**: of an observation within the size limits,
presented by a value with whatever other fields, the core accepts what a client accepts
exactly when its timestamps never decrease and, for the Go and the Python client, what
they leave unchecked holds. The range checks `ge` and `le` of the Python client are its
model library's, known on finite numbers. -/
theorem clients_agree (json : Entries) (v : JsValue) :
    (∀ m : Dart.RecitationObservation,
      Dart.RecitationObservation.fromJson json = .ok m → m.observed.WithinLimits →
        (Accepted (Json.map json).toJs ↔
          NeverDecrease (m.tokens.map Dart.ObservationToken.observed))) ∧
    (∀ o : Go.RecitationObservation, o.observed.Presents v →
      o.observed.WithinLimits → Go.validateObservation o = .ok () →
        (Accepted v ↔ Go.Sound o.observed)) ∧
    ∀ ge le : JsNumber → ℚ → Bool, (∀ q b : ℚ, ge (.finite q) b = decide (b ≤ q)) →
      (∀ q b : ℚ, le (.finite q) b = decide (q ≤ b)) →
      ∀ o : Python.RecitationObservation, o.observed.Presents v →
        o.observed.WithinLimits → Python.Accepts ge le o →
          (Accepted v ↔ Python.Sound o.observed) := by
  refine ⟨fun m hm hlimits => ?_, fun o hv hlimits ho => ?_,
    fun ge le hge hle o hv hlimits ho => ?_⟩
  · rw [accepted_iff (Dart.observation_presents hm), Dart.valid_iff hm]
    exact and_iff_right hlimits
  · rw [accepted_iff hv, Go.valid_iff ho]
    exact and_iff_right hlimits
  · rw [accepted_iff hv, Python.valid_iff hge hle ho]
    exact and_iff_right hlimits

/-! ### Two tokens whose starts decrease -/

/-- `float >= bound` and `float <= bound` as the model library decides them. -/
def Python.notBelow (x : JsNumber) (bound : ℚ) : Bool := !x.lt (.finite bound)

/-- A number that does not exceed a bound. -/
def Python.notAbove (x : JsNumber) (bound : ℚ) : Bool := !(JsNumber.finite bound).lt x

lemma Python.notBelow_finite (q b : ℚ) : notBelow (.finite q) b = decide (b ≤ q) := by
  rw [notBelow, JsNumber.lt_finite, ← decide_not, decide_eq_decide, not_lt]

lemma Python.notAbove_finite (q b : ℚ) : notAbove (.finite q) b = decide (q ≤ b) := by
  rw [notAbove, JsNumber.lt_finite, ← decide_not, decide_eq_decide, not_lt]

/-- The second token starts at 5, before the first at 10. -/
def backwards : Entries :=
  [("observationId", .string "observation-1"), ("sourceRevision", .int 1),
    ("isFinal", .bool false), ("receivedAtMs", .int 20),
    ("tokens", .list [
      .map [("id", .string "token-1"), ("text", .string ""), ("phonemes", .list [.string "b"]),
        ("startMs", .int 10)],
      .map [("id", .string "token-2"), ("text", .string ""), ("phonemes", .list [.string "s"]),
        ("startMs", .int 5)]])]

/-- Two tokens, the second of which starts before the first. -/
def Dart.backwards : Dart.RecitationObservation :=
  ⟨"observation-1", 1, false, .finite 20,
    [⟨"token-1", "", ["b"], some (.finite 10), none, none, []⟩,
      ⟨"token-2", "", ["s"], some (.finite 5), none, none, []⟩], []⟩

/-- Two tokens, the second of which starts before the first. -/
def Go.backwards : Go.RecitationObservation :=
  ⟨"observation-1", 1, false, .finite 20,
    some [⟨"token-1", "", some ["b"], some (.finite 10), none, none, []⟩,
      ⟨"token-2", "", some ["s"], some (.finite 5), none, none, []⟩], []⟩

/-- Two tokens, the second of which starts before the first. -/
def Python.backwards : Python.RecitationObservation :=
  ⟨"observation-1", 1, false, .finite 20,
    [⟨"token-1", "", ["b"], some (.finite 10), none, none, []⟩,
      ⟨"token-2", "", ["s"], some (.finite 5), none, none, []⟩], [], List.nodup_nil, nofun⟩

lemma decode_backwards : Dart.RecitationObservation.fromJson backwards = .ok Dart.backwards := rfl

lemma backwards_presents : Dart.backwards.observed.Presents (Json.map backwards).toJs :=
  Dart.observation_presents decode_backwards

lemma backwards_withinLimits : Dart.backwards.observed.WithinLimits := by
  refine ⟨by decide +kernel, ?_, ?_, ?_⟩ <;>
    simp only [Dart.RecitationObservation.observed, Option.mem_def, Option.some.injEq, forall_eq']
  · decide
  · intro t ht
    simp only [Dart.backwards, List.map_cons, List.map_nil, List.mem_cons, List.not_mem_nil,
      or_false] at ht
    rcases ht with rfl | rfl <;>
      exact ⟨by decide +kernel, by decide +kernel, by rintro _ ⟨⟩; decide +kernel⟩
  · decide

lemma backwards_accepts : Python.Accepts Python.notBelow Python.notAbove Python.backwards := by
  refine ⟨⟨by decide, rfl⟩, by decide, rfl, ?_, rfl, rfl⟩
  intro t ht
  simp only [Python.backwards, List.mem_cons, List.not_mem_nil, or_false] at ht
  rcases ht with rfl | rfl <;>
    exact ⟨by decide, by rintro _ ⟨⟩; rfl, nofun, nofun, rfl⟩

/-- The three iffs at tokens that go back in time. -/
theorem backwards_agree :
    (Accepted (Json.map backwards).toJs ↔
      NeverDecrease (Dart.backwards.tokens.map Dart.ObservationToken.observed)) ∧
    (Accepted (Json.map backwards).toJs ↔ Go.Sound Go.backwards.observed) ∧
    (Accepted (Json.map backwards).toJs ↔ Python.Sound Python.backwards.observed) :=
  let core := (Json.map backwards).toJs
  ⟨(clients_agree backwards core).1 Dart.backwards decode_backwards backwards_withinLimits,
    (clients_agree backwards core).2.1 Go.backwards backwards_presents backwards_withinLimits rfl,
    (clients_agree backwards core).2.2 Python.notBelow Python.notAbove Python.notBelow_finite
      Python.notAbove_finite Python.backwards backwards_presents backwards_withinLimits
      backwards_accepts⟩

/-- All three clients accept the observation, the core does not. -/
theorem backwards_diverges :
    Dart.backwards.observed.WithinLimits ∧
    Dart.RecitationObservation.fromJson backwards = .ok Dart.backwards ∧
    Go.validateObservation Go.backwards = .ok () ∧
    Python.Accepts Python.notBelow Python.notAbove Python.backwards ∧
    Go.backwards.observed = Dart.backwards.observed ∧
    Python.backwards.observed = Dart.backwards.observed ∧
    Dart.backwards.observed.Presents (Json.map backwards).toJs ∧
    validateObservation (Json.map backwards).toJs =
      .error (.typeError "observation token timestamps must not decrease") :=
  ⟨backwards_withinLimits, decode_backwards, rfl, backwards_accepts, rfl, rfl, backwards_presents,
    rfl⟩

end Qaraa.Sdk
