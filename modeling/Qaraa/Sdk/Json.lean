import Qaraa.Core.Value
import Qaraa.Library.Entries

/-!
The values the native clients read and write: JSON with the integers and the doubles of a
typed language told apart.

* `JsNumber.lt`, `toDouble`: comparison of doubles and the double nearest to an integer,
  ties to the even one; `toDouble_of_lt` says that an integer of at most 53 bits is one.
* `Json`, `Entries`: a value and the entries of an object, each key once, in the order in
  which they were added; `get` and `containsKey` read them.
* `Json.toJs`: the value as the TypeScript packages see it.
-/

namespace Qaraa

/-! ### Doubles -/

namespace JsNumber

/-- `a < b` on doubles. Nothing is below or above not-a-number. -/
def lt : JsNumber → JsNumber → Bool
  | .finite a, .finite b => decide (a < b)
  | .finite _, .infinite positive => positive
  | .infinite positive, .finite _ => !positive
  | .infinite positive, .infinite positive' => !positive && positive'
  | .nan, _ => false
  | _, .nan => false

/-- The number is finite. -/
def isFinite : JsNumber → Bool
  | .finite _ => true
  | _ => false

@[simp] lemma lt_finite (a b : ℚ) : (finite a).lt (.finite b) = decide (a < b) := rfl

lemma isFinite_iff {x : JsNumber} : x.isFinite = true ↔ ∃ q, x = .finite q := by
  cases x <;> simp [isFinite]

end JsNumber

namespace Sdk

/-- The natural number of at most 53 significant bits nearest to `n`; of two, the one
whose last bit is zero. -/
def nearest (n : ℕ) : ℕ :=
  let unit := 2 ^ (n.log2 - 52)
  let digits := n / unit
  let rest := n % unit
  (if unit < 2 * rest ∨ 2 * rest = unit ∧ digits % 2 = 1 then digits + 1 else digits) * unit

/-- The double nearest to an integer. -/
def toDouble (n : ℤ) : JsNumber := .finite ((n.sign * nearest n.natAbs : ℤ) : ℚ)

lemma nearest_of_lt {n : ℕ} (h : n < 2 ^ 53) : nearest n = n := by
  have hlog : n.log2 - 52 = 0 := by
    rcases Nat.eq_zero_or_pos n with rfl | hn
    · simp
    · have := (Nat.log2_lt hn.ne').mpr h
      omega
  simp [nearest, hlog, Nat.mod_one]

lemma nearest_le_two_mul (n : ℕ) : nearest n ≤ 2 * n := by
  rcases Nat.eq_zero_or_pos n with rfl | hn
  · simp [nearest]
  · have hunit : 2 ^ (n.log2 - 52) ≤ n :=
      le_trans (Nat.pow_le_pow_right (by omega) (Nat.sub_le _ _)) (Nat.log2_self_le hn.ne')
    have hdigits : n / 2 ^ (n.log2 - 52) * 2 ^ (n.log2 - 52) ≤ n := Nat.div_mul_le_self _ _
    rw [nearest]
    calc _ ≤ (n / 2 ^ (n.log2 - 52) + 1) * 2 ^ (n.log2 - 52) := by
          refine Nat.mul_le_mul_right _ ?_
          split <;> omega
      _ ≤ 2 * n := by rw [add_mul, one_mul]; omega

/-- Rounding does not bring a number of more than 53 bits below them. -/
lemma le_nearest {n : ℕ} (h : 2 ^ 53 ≤ n) : 2 ^ 53 ≤ nearest n := by
  have hn : n ≠ 0 := by omega
  have hlog : 53 ≤ n.log2 := (Nat.le_log2 hn).mpr h
  have hunit : 2 ^ 52 * 2 ^ (n.log2 - 52) = 2 ^ n.log2 := by
    rw [← pow_add]
    congr 1
    omega
  have hdigits : 2 ^ 52 ≤ n / 2 ^ (n.log2 - 52) := by
    rw [Nat.le_div_iff_mul_le (by positivity), hunit]
    exact Nat.log2_self_le hn
  calc 2 ^ 53 ≤ 2 ^ n.log2 := Nat.pow_le_pow_right (by omega) hlog
    _ = 2 ^ 52 * 2 ^ (n.log2 - 52) := hunit.symm
    _ ≤ nearest n := by
        rw [nearest]
        refine Nat.mul_le_mul_right _ ?_
        split <;> omega

lemma toDouble_of_lt {n : ℤ} (h : n.natAbs < 2 ^ 53) : toDouble n = .finite n := by
  rw [toDouble, nearest_of_lt h, Int.sign_mul_natAbs]

lemma toDouble_eq (n : ℤ) : ∃ m : ℤ, toDouble n = .finite m ∧ (0 ≤ n → 0 ≤ m) := by
  refine ⟨n.sign * nearest n.natAbs, rfl, fun hn => ?_⟩
  exact mul_nonneg (Int.sign_nonneg_iff.mpr hn) (by positivity)

/-! ### Values -/

/-- A JSON value as a typed language holds it. -/
inductive Json where
  | null
  | bool (value : Bool)
  | int (value : ℤ)
  | double (value : JsNumber)
  | string (value : String)
  | list (items : List Json)
  | map (entries : List (String × Json))

/-- The entries of an object. -/
abbrev Entries := List (String × Json)

/-- `json[key]`: null where there is no entry. -/
def get (json : Entries) (key : String) : Json := (List.lookup key json).getD .null

/-- `json.containsKey(key)`. -/
def containsKey (json : Entries) (key : String) : Bool :=
  (List.lookup key json).isSome

/-- `value == 1`, which holds of the integer and of the double. -/
def isOne : Json → Bool
  | .int n => n == 1
  | .double x => x == .finite 1
  | _ => false

lemma get_of_lookup {json : Entries} {key : String} {value : Json}
    (h : List.lookup key json = some value) : get json key = value := by
  rw [get, h, Option.getD_some]

lemma lookup_of_get {json : Entries} {key : String} (h : get json key ≠ .null) :
    List.lookup key json = some (get json key) := by
  cases hlookup : List.lookup key json with
  | none => exact absurd (by rw [get, hlookup, Option.getD_none]) h
  | some value => rw [get_of_lookup hlookup]

/-! ### The values as JavaScript sees them -/

mutual

/-- The value `JSON.parse` reads where this one was written. -/
def Json.toJs : Json → JsValue
  | .null => .null
  | .bool value => .bool value
  | .int value => .number (toDouble value)
  | .double value => .number value
  | .string value => .string value
  | .list items => .array (itemsToJs items)
  | .map entries => .object (entriesToJs entries)

/-- The items as values. -/
def itemsToJs : List Json → List JsValue
  | [] => []
  | item :: items => item.toJs :: itemsToJs items

/-- The entries as fields of a value. -/
def entriesToJs : List (String × Json) → List (String × JsValue)
  | [] => []
  | (key, value) :: entries => (key, value.toJs) :: entriesToJs entries

end

lemma itemsToJs_eq (items : List Json) : itemsToJs items = items.map Json.toJs := by
  induction items with
  | nil => simp [itemsToJs]
  | cons item items ih => rw [itemsToJs, ih, List.map_cons]

lemma lookup_entriesToJs (key : String) (entries : Entries) :
    List.lookup key (entriesToJs entries) =
      (List.lookup key entries).map Json.toJs := by
  induction entries with
  | nil => simp [entriesToJs]
  | cons entry entries ih =>
      obtain ⟨key', value⟩ := entry
      rw [entriesToJs, Ordered.OrderedMap.lookup_cons, Ordered.OrderedMap.lookup_cons, ih]
      split <;> rfl

/-- A property read of a written object reads the entry. -/
lemma field_toJs (entries : Entries) (key : String) :
    (Json.map entries).toJs.field key =
      ((List.lookup key entries).map Json.toJs).getD .undefined := by
  rw [Json.toJs, JsValue.field, lookup_entriesToJs]

end Sdk

end Qaraa
