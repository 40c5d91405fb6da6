import Qaraa.Sdk.DartModels
import Qaraa.Sdk.Survives

/-!
What a successful field check of the Dart models says of the entry it read, and what an
encoded model gives back under the same key.

* `immutableExtensions_eq`: the copies are the identity.
* `requiredInteger_eq_ok` and its like: each check succeeds exactly on the values it names.
* `Reads`: a check whose result, written back, it reads again as the same result.
* `Written`: the entries of an encoded model; a known key holds what was written, an
  unknown one what the decoder was given, and the extension is the same again.
-/

namespace Qaraa.Sdk.Dart

open Fallible Ordered OrderedMap Entries
open List (lookup)

/-! ### Copies -/

mutual

/-- `immutableJson` changes no value. -/
theorem immutableJson_eq : ∀ value : Json, immutableJson value = value
  | .null => by rw [immutableJson] <;> simp
  | .bool _ => by rw [immutableJson] <;> simp
  | .int _ => by rw [immutableJson] <;> simp
  | .double _ => by rw [immutableJson] <;> simp
  | .string _ => by rw [immutableJson] <;> simp
  | .list items => by rw [immutableJson, immutableItems_eq items]
  | .map entries => by rw [immutableJson, immutableExtensions_eq entries]

/-- No item is changed. -/
theorem immutableItems_eq : ∀ items : List Json, immutableItems items = items
  | [] => by rw [immutableItems]
  | item :: items => by rw [immutableItems, immutableJson_eq item, immutableItems_eq items]

/-- No entry is changed. -/
theorem immutableExtensions_eq :
    ∀ entries : List (String × Json), immutableExtensions entries = entries
  | [] => by rw [immutableExtensions]
  | (key, value) :: entries => by
      rw [immutableExtensions, immutableJson_eq value, immutableExtensions_eq entries]

end

lemma extensions_eq (json : Entries) (known : List String) :
    extensions json known = without known json := immutableExtensions_eq _

/-! ### Field checks -/

section Checks

variable {value : Json} {name : String}

lemma requiredInteger_eq_ok {minimum n : ℤ} : requiredInteger value name minimum = .ok n ↔
    value = .int n ∧ minimum ≤ n ∧ n ≤ maxSafeInteger := by
  cases value with
  | int m =>
      rw [requiredInteger]
      split
      · rename_i h
        simp only [reduceCtorEq, Json.int.injEq, false_iff]
        rintro ⟨rfl, hmin, hmax⟩
        omega
      · rename_i h
        simp only [Except.ok.injEq, Json.int.injEq]
        constructor
        · rintro rfl
          exact ⟨rfl, by omega, by omega⟩
        · exact fun h => h.1
  | _ => simp [requiredInteger]

lemma requiredString_eq_ok {nonEmpty : Bool} {s : String} :
    requiredString value name nonEmpty = .ok s ↔
      value = .string s ∧ (nonEmpty && trimIsEmpty s) = false := by
  cases value with
  | string t =>
      rw [requiredString]
      split
      · rename_i h
        simp only [reduceCtorEq, Json.string.injEq, false_iff]
        rintro ⟨rfl, hblank⟩
        rw [h] at hblank
        cases hblank
      · rename_i h
        simp only [Except.ok.injEq, Json.string.injEq]
        constructor
        · rintro rfl
          exact ⟨rfl, by simpa using h⟩
        · exact fun h => h.1
  | _ => simp [requiredString]

lemma requiredBool_eq_ok {message : String} {b : Bool} :
    requiredBool value message = .ok b ↔ value = .bool b := by
  cases value <;> simp [requiredBool]

lemma requiredList_eq_ok {message : String} {items : List Json} :
    requiredList value message = .ok items ↔ value = .list items := by
  cases value <;> simp [requiredList]

lemma asMap_eq_ok {json : Entries} : asMap value = .ok json ↔ value = .map json := by
  cases value <;> simp [asMap]

lemma mapM_asString {items : List Json} {strings : List String} :
    items.mapM asString = some strings ↔ items = strings.map .string := by
  induction items generalizing strings with
  | nil => cases strings <;> simp
  | cons item items ih =>
      rw [List.mapM_cons]
      cases item <;> cases strings <;> simp [asString, Option.bind_eq_some_iff, ih, and_comm]

lemma requiredStrings_eq_ok {message : String} {bad : List String → Bool}
    {strings : List String} : requiredStrings value message bad = .ok strings ↔
      value = .list (strings.map .string) ∧ bad strings = false := by
  cases value with
  | list items =>
      rw [requiredStrings]
      cases hitems : items.mapM asString with
      | none =>
          simp only [reduceCtorEq, Json.list.injEq, false_iff]
          rintro ⟨rfl, -⟩
          rw [mapM_asString.mpr rfl] at hitems
          cases hitems
      | some found =>
          rw [mapM_asString] at hitems
          subst hitems
          have hinj : Function.Injective (List.map Json.string) :=
            List.map_injective_iff.mpr fun _ _ h => Json.string.inj h
          simp only [Json.list.injEq, hinj.eq_iff]
          split
          · rename_i h
            simp only [reduceCtorEq, false_iff]
            rintro ⟨rfl, hbad⟩
            rw [h] at hbad
            cases hbad
          · rename_i h
            simp only [Except.ok.injEq]
            constructor
            · rintro rfl
              exact ⟨rfl, by simpa using h⟩
            · exact fun h => h.1
  | _ => simp [requiredStrings]

/-- A number that passes its check is read as the double it is written as. -/
lemma survives_of_requiredNumber {minimum : JsNumber} {maximum : Option JsNumber} {x : JsNumber}
    (h : requiredNumber value name minimum maximum = .ok x) :
    Survives .number value (.double x) := by
  cases value with
  | int n =>
      rw [requiredNumber] at h
      split at h
      · cases h
      · cases h
        exact .int n
  | double y =>
      rw [requiredNumber] at h
      split at h
      · cases h
      · cases h
        exact .double _
  | _ => simp [requiredNumber] at h

/-- Rounding an integer to a double does not take it out of its range. -/
def KeepsIntegers (minimum : JsNumber) (maximum : Option JsNumber) : Prop :=
  ∀ n : ℤ, isOutside (.finite n) minimum maximum = false →
    isOutside (toDouble n) minimum maximum = false

lemma keepsIntegers_zero : KeepsIntegers (.finite 0) none := by
  intro n hn
  obtain ⟨m, hm, hpos⟩ := toDouble_eq n
  rw [hm]
  simp only [isOutside, JsNumber.isFinite, JsNumber.lt_finite, Option.any_none, Bool.not_true,
    Bool.false_or, Bool.or_false, decide_eq_false_iff_not, not_lt] at hn ⊢
  exact_mod_cast hpos (by exact_mod_cast hn)

lemma keepsIntegers_unbounded : KeepsIntegers (.infinite false) none := by
  intro n _
  obtain ⟨m, hm, -⟩ := toDouble_eq n
  simp [hm, isOutside, JsNumber.isFinite, JsNumber.lt]

lemma keepsIntegers_unit : KeepsIntegers (.finite 0) (some (.finite 1)) := by
  intro n hn
  have hrange : 0 ≤ n ∧ n ≤ 1 := by
    simp only [isOutside, JsNumber.isFinite, JsNumber.lt_finite, Option.any_some, Bool.not_true,
      Bool.false_or, Bool.or_eq_false_iff, decide_eq_false_iff_not, not_lt] at hn
    exact ⟨by exact_mod_cast hn.1, by exact_mod_cast hn.2⟩
  rw [toDouble_of_lt (by omega)]
  exact hn

/-- A number that passes its check passes it again as a double. -/
lemma requiredNumber_double {minimum : JsNumber} {maximum : Option JsNumber} {x : JsNumber}
    (hkeeps : KeepsIntegers minimum maximum)
    (h : requiredNumber value name minimum maximum = .ok x) :
    requiredNumber (.double x) name minimum maximum = .ok x := by
  have hinside : isOutside x minimum maximum = false := by
    cases value with
    | int n =>
        rw [requiredNumber] at h
        split at h
        · cases h
        · rename_i hn
          cases h
          exact hkeeps n (by simpa using hn)
    | double y =>
        rw [requiredNumber] at h
        split at h
        · cases h
        · rename_i hy
          cases h
          simpa using hy
    | _ => simp [requiredNumber] at h
  rw [requiredNumber, if_neg (by simp [hinside])]

end Checks

/-! ### Reading again what was written -/

/-- A check whose results, written back, it reads again, and in which what was read
survives. -/
structure Reads {α : Type} (shape : Shape) (read : Json → Except DartError α)
    (write : α → Json) : Prop where
  null : ∀ a, read .null ≠ .ok a
  again : ∀ {value a}, read value = .ok a → read (write a) = .ok a
  survives : ∀ {value a}, read value = .ok a → Survives shape value (write a)

lemma reads_integer (name : String) (minimum : ℤ) :
    Reads .same (fun value => requiredInteger value name minimum) .int where
  null n h := by cases h
  again h := requiredInteger_eq_ok.mpr ⟨rfl, (requiredInteger_eq_ok.mp h).2⟩
  survives h := by rw [(requiredInteger_eq_ok.mp h).1]; exact .same _

lemma reads_string (name : String) (nonEmpty : Bool) :
    Reads .same (fun value => requiredString value name nonEmpty) .string where
  null n h := by cases h
  again h := requiredString_eq_ok.mpr ⟨rfl, (requiredString_eq_ok.mp h).2⟩
  survives h := by rw [(requiredString_eq_ok.mp h).1]; exact .same _

lemma reads_strings (message : String) (bad : List String → Bool) :
    Reads .same (fun value => requiredStrings value message bad)
      (fun strings => .list (strings.map .string)) where
  null n h := by cases h
  again h := requiredStrings_eq_ok.mpr ⟨rfl, (requiredStrings_eq_ok.mp h).2⟩
  survives h := by rw [(requiredStrings_eq_ok.mp h).1]; exact .same _

lemma reads_bool (message : String) :
    Reads .same (fun value => requiredBool value message) .bool where
  null n h := by cases h
  again _ := rfl
  survives h := by rw [requiredBool_eq_ok.mp h]; exact .same _

lemma reads_number {minimum : JsNumber} {maximum : Option JsNumber} (name : String)
    (hkeeps : KeepsIntegers minimum maximum) :
    Reads .number (fun value => requiredNumber value name minimum maximum) .double where
  null n h := by cases h
  again := requiredNumber_double hkeeps
  survives := survives_of_requiredNumber

/-- A model is read from the object its encoder writes. -/
lemma Reads.model {α : Type} {shape : Shape} {fromJson : Entries → Except DartError α}
    {toJson : α → Entries}
    (h : ∀ json m, fromJson json = .ok m →
      fromJson (toJson m) = .ok m ∧ Survives shape (.map json) (.map (toJson m))) :
    Reads shape (readObject fromJson) (fun m => .map (toJson m)) where
  null m hm := by cases hm
  again hm := by
    obtain ⟨json, -, hjson⟩ := bind_eq_ok.mp hm
    exact bind_eq_ok.mpr ⟨_, rfl, (h json _ hjson).1⟩
  survives hm := by
    obtain ⟨json, hmap, hjson⟩ := bind_eq_ok.mp hm
    rw [asMap_eq_ok.mp hmap]
    exact (h json _ hjson).2

/-- What was read from an object is read again from the object its encoder writes. -/
lemma Reads.of_ok {α : Type} {shape : Shape} {fromJson : Entries → Except DartError α}
    {toJson : α → Entries} (r : Reads shape (readObject fromJson) fun m => .map (toJson m))
    {json : Entries} {m : α} (h : fromJson json = .ok m) :
    fromJson (toJson m) = .ok m ∧ Survives shape (.map json) (.map (toJson m)) := by
  have hread : readObject fromJson (.map json) = .ok m := h
  exact ⟨r.again hread, r.survives hread⟩

section Fields

variable {α : Type} {shape : Shape} {read : Json → Except DartError α} {write : α → Json}

lemma Reads.lookup_of_get (r : Reads shape read write) {json : Entries} {key : String} {a : α}
    (h : read (get json key) = .ok a) : lookup key json = some (get json key) :=
  Sdk.lookup_of_get fun hnull => r.null a (hnull ▸ h)

/-- A required field. -/
lemma Reads.kept (r : Reads shape read write) {json : Entries} {key : String} {a : α}
    (h : read (get json key) = .ok a) : Kept shape (lookup key json) (some (write a)) := by
  rw [r.lookup_of_get h]
  exact .present (r.survives h)

lemma Reads.write_ne_null (r : Reads shape read write) {value : Json} {a : α}
    (h : read value = .ok a) : write a ≠ .null := fun hnull =>
  r.null a (hnull ▸ r.again h)

lemma nullable_of_ne {value : Json} (h : value ≠ .null) :
    nullable read value = (do return some (← read value)) := by
  cases value <;> first | rfl | exact absurd rfl h

lemma nullable_eq_some {value : Json} {a : α} (h : nullable read value = .ok (some a)) :
    read value = .ok a := by
  by_cases hnull : value = .null
  · subst hnull
    cases h
  · rw [nullable_of_ne hnull, bind_eq_ok] at h
    obtain ⟨a', ha', hpure⟩ := h
    rw [ha', Option.some.inj (pure_eq_ok.mp hpure)]

lemma nullable_eq_none {value : Json} (h : nullable read value = .ok none) : value = .null := by
  by_contra hnull
  rw [nullable_of_ne hnull, bind_eq_ok] at h
  obtain ⟨a', -, hpure⟩ := h
  cases pure_eq_ok.mp hpure

/-- A field that may be null reads again what it was read as. -/
lemma Reads.nullable_again (r : Reads shape read write) {value : Json} {a : Option α}
    (h : nullable read value = .ok a) : nullable read (orNull write a) = .ok a := by
  cases a with
  | none => rfl
  | some a =>
      have ha := nullable_eq_some h
      have hwrite : orNull write (some a) = write a := rfl
      rw [hwrite, nullable_of_ne (r.write_ne_null ha), bind_eq_ok]
      exact ⟨a, r.again ha, rfl⟩

/-- A field that may be null is written in any case. -/
lemma Reads.nullable_kept (r : Reads shape read write) {json : Entries} {key : String}
    {a : Option α} (h : nullable read (get json key) = .ok a) :
    Kept (.nullable shape) (lookup key json) (some (orNull write a)) := by
  cases a with
  | none =>
      have hnull := nullable_eq_none h
      cases hlookup : lookup key json with
      | none => exact .filled shape
      | some value =>
          rw [get_of_lookup hlookup] at hnull
          rw [hnull]
          exact .present (.null shape)
  | some a =>
      have ha := nullable_eq_some h
      rw [r.lookup_of_get ha]
      exact .present (.nullable (r.survives ha))

/-- An optional field of a command is written if it is not null. -/
lemma Reads.optional_kept (r : Reads shape read write) {json : Entries} {key : String}
    {a : Option α} (h : nullable read (get json key) = .ok a) :
    Kept (.optional shape) (lookup key json) (a.map write) := by
  cases a with
  | none =>
      have hnull := nullable_eq_none h
      cases hlookup : lookup key json with
      | none => exact .absent _
      | some value =>
          rw [get_of_lookup hlookup] at hnull
          rw [hnull]
          exact .dropped shape
  | some a =>
      have ha := nullable_eq_some h
      rw [r.lookup_of_get ha]
      exact .present (.optional (r.survives ha))

/-- An optional field of a command reads again what it was read as. -/
lemma Reads.optional_again (r : Reads shape read write) {value : Json} {new : Entries}
    {key : String} {a : Option α} (h : nullable read value = .ok a)
    (hnew : lookup key new = a.map write) : nullable read (get new key) = .ok a := by
  have hget : get new key = orNull write a := by
    rw [get, hnew]
    cases a <;> rfl
  rw [hget]
  exact r.nullable_again h

/-- A field read only where it is present. -/
lemma ifContains_eq_ok {json : Entries} {key : String} {a : Option α} :
    ifContains json key read = .ok a ↔
      (lookup key json = none ∧ a = none) ∨
        ∃ value b, lookup key json = some value ∧ read value = .ok b ∧ a = some b := by
  rw [ifContains, containsKey]
  cases hlookup : lookup key json with
  | none => simp [eq_comm]
  | some value =>
      simp only [Option.isSome_some, if_true, get_of_lookup hlookup, bind_eq_ok, pure_eq_ok,
        reduceCtorEq, false_and, false_or, Option.some.injEq, exists_and_left, exists_eq_left']
      constructor
      · rintro ⟨b, hb, rfl⟩
        exact ⟨b, hb, rfl⟩
      · rintro ⟨b, hb, rfl⟩
        exact ⟨b, hb, rfl⟩

lemma Reads.ifContains_kept (r : Reads shape read write) {json : Entries} {key : String}
    {a : Option α} (h : ifContains json key read = .ok a) :
    Kept shape (lookup key json) (a.map write) := by
  rcases ifContains_eq_ok.mp h with ⟨hnone, rfl⟩ | ⟨value, b, hsome, hb, rfl⟩
  · rw [hnone]
    exact .absent shape
  · rw [hsome]
    exact .present (r.survives hb)

lemma Reads.ifContains_again (r : Reads shape read write) {json new : Entries} {key : String}
    {a : Option α} (h : ifContains json key read = .ok a)
    (hnew : lookup key new = a.map write) : ifContains new key read = .ok a := by
  rcases ifContains_eq_ok.mp h with ⟨-, rfl⟩ | ⟨value, b, -, hb, rfl⟩
  · exact ifContains_eq_ok.mpr (.inl ⟨hnew, rfl⟩)
  · exact ifContains_eq_ok.mpr (.inr ⟨write b, b, hnew, r.again hb, rfl⟩)

/-- A list read item by item. -/
def readItems (message : String) (read : Json → Except DartError α) (value : Json) :
    Except DartError (List α) := do
  (← requiredList value message).mapM read

/-- A list is read, and read again, item by item. -/
lemma reads_items (message : String) (r : Reads shape read write) :
    Reads (.items shape) (readItems message read) (fun l => .list (l.map write)) where
  null l h := by cases h
  again {value l} h := by
    obtain ⟨items, -, hitems⟩ := bind_eq_ok.mp h
    refine bind_eq_ok.mpr ⟨_, rfl, ?_⟩
    rw [mapM_eq_ok] at hitems ⊢
    clear h
    induction hitems with
    | nil => exact .nil
    | cons hhead _ ih => exact .cons (r.again hhead) ih
  survives {value l} h := by
    obtain ⟨items, hlist, hitems⟩ := bind_eq_ok.mp h
    rw [requiredList_eq_ok.mp hlist]
    refine .list ?_
    rw [mapM_eq_ok] at hitems
    clear h hlist
    induction hitems with
    | nil => exact .nil
    | cons hhead _ ih => exact .cons (r.survives hhead) ih

end Fields

/-! ### Encoded models -/

/-- The entries of an encoded model: `written` over the extension its decoder kept. -/
structure Written (known : List String) (json written new : Entries) : Prop where
  nodup : (keys written).Nodup
  subset : ∀ key ∈ keys written, key ∈ known
  eq : new = wire written (extensions json known)

namespace Written

variable {known : List String} {json written new : Entries}

lemma of_sublist (hsub : (keys written).Sublist known) (hknown : known.Nodup)
    (heq : new = wire written (extensions json known)) : Written known json written new :=
  ⟨hknown.sublist hsub, fun _ hkey => hsub.subset hkey, heq⟩

lemma lookup_known (w : Written known json written new) {key : String} (hkey : key ∈ known) :
    lookup key new = lookup key written := by
  rw [w.eq, wire, extensions_eq, lookup_spread w.nodup, lookup_without_of_mem hkey,
    Option.or_none]

lemma get_known (w : Written known json written new) {key : String} (hkey : key ∈ known) :
    get new key = get written key := by
  rw [get, get, w.lookup_known hkey]

lemma containsKey_known (w : Written known json written new) {key : String}
    (hkey : key ∈ known) : containsKey new key = containsKey written key := by
  rw [containsKey, containsKey, w.lookup_known hkey]

lemma lookup_unknown (w : Written known json written new) {key : String} (hkey : key ∉ known) :
    lookup key new = lookup key json := by
  have hwritten : lookup key written = none :=
    lookup_eq_none.mpr fun hmem => hkey (w.subset key hmem)
  rw [w.eq, wire, extensions_eq, lookup_spread w.nodup, hwritten, Option.none_or,
    lookup_without hkey]

/-- The extension of the encoded model is the extension the decoder kept. -/
lemma extensions_new (w : Written known json written new) :
    extensions new known = extensions json known := by
  rw [w.eq, wire, extensions_eq, extensions_eq, without_spread_without w.nodup w.subset]

/-- Where every known field is kept, the object survives. -/
lemma survives (w : Written known json written new) {fields : List (String × Shape)}
    (hfields : fields.map Prod.fst = known)
    (h : ∀ field ∈ fields, Kept field.2 (lookup field.1 json) (lookup field.1 written)) :
    Survives (.object fields) (.map json) (.map new) := by
  subst hfields
  refine .object (fun key hkey => w.lookup_unknown hkey) fun field hfield => ?_
  rw [w.lookup_known (List.mem_map.mpr ⟨field, hfield, rfl⟩)]
  exact h field hfield

end Written

end Qaraa.Sdk.Dart
