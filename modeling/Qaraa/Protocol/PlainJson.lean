import Qaraa.Core.Value
import Qaraa.Library.PathSearch

/-!
`isPlainJsonValue` of `packages/protocol/src/errors.ts` on values with sharing and cycles.

* `HeapValue`, `HeapObject`, `Heap`: values whose objects are addresses of a finite heap; an
  object is what its prototype, its own keys and its property descriptors say.
* `plainArrayValues`, `plainObjectValues`, `visitFrame`, `isPlainJsonValue`: the check, with its
  stack of frames and its active containers.
* `IsPlainLeaf`, `IsPlainContainer`, `Holds`: what the check is about.
* `childValues_sound`, `childValues_complete`: a container has children exactly when it is plain,
  and they are what it holds.
* `visitFrame_embed`: a round of the loop is a step of the library's search (`PathSearch`).
* `isPlainJsonValue_decides`: **the check ends on every heap**, and accepts exactly the values
  that reach plain values only and no cycle.
-/

namespace Qaraa.Heaped

open PathSearch

/-! ### The heap -/

/-- A value; `other` stands for functions, symbols and bigints. -/
inductive HeapValue (n : ℕ) where
  | undefined
  | null
  | bool (value : Bool)
  | number (value : JsNumber)
  | string (value : String)
  | other
  | object (address : Fin n)

/-- A property key; `index` stands for the strings that are array indices. -/
inductive PropertyKey where
  | index (index : ℕ)
  | name (name : String)
  | symbol (id : ℕ)
  deriving DecidableEq

/-- What a property descriptor holds. -/
inductive PropertyContent (n : ℕ) where
  | data (value : HeapValue n)
  | accessor

/-- A property of an object. -/
structure Property (n : ℕ) where
  key : PropertyKey
  enumerable : Bool
  content : PropertyContent n

/-- What the prototype of an object is, as far as it is asked. -/
inductive Prototype where
  | object
  | array
  | null
  | other
  deriving DecidableEq

/-- What can be asked of an object. An array has a length, and `length` as one more own key. -/
structure HeapObject (n : ℕ) where
  length : Option ℕ
  prototype : Prototype
  properties : List (Property n)
  /-- Asking throws, as with a revoked proxy. -/
  throws : Bool
  nodup : (properties.map Property.key ++
    (length.map fun _ => PropertyKey.name "length").toList).Nodup

namespace HeapObject

variable {n : ℕ} (object : HeapObject n)

/-- `Reflect.ownKeys`. -/
def ownKeys : List PropertyKey :=
  object.properties.map Property.key ++
    (object.length.map fun _ => PropertyKey.name "length").toList

/-- `Object.getOwnPropertyDescriptor`, for the keys other than an array's `length`. -/
def descriptor (key : PropertyKey) : Option (Property n) :=
  object.properties.find? fun property => property.key = key

end HeapObject

/-- Every object a value can reach has an address. -/
abbrev Heap (n : ℕ) := Fin n → HeapObject n

/-! ### The check -/

section

variable {n : ℕ}

/-- The value of an enumerable data property. -/
def enumerableValue : Option (Property n) → Option (HeapValue n)
  | some ⟨_, true, .data value⟩ => some value
  | _ => none

/-- The items of a plain array. -/
def plainArrayValues (value : HeapObject n) (length : ℕ) : Option (List (HeapValue n)) :=
  if value.prototype ≠ .array then none
  else if value.ownKeys.length ≠ length + 1 ∨ .name "length" ∉ value.ownKeys then none
  else (List.range length).mapM fun index => enumerableValue (value.descriptor (.index index))

/-- The values of a plain object. -/
def plainObjectValues (value : HeapObject n) : Option (List (HeapValue n)) :=
  if value.prototype ≠ .object ∧ value.prototype ≠ .null then none
  else
    value.ownKeys.mapM fun key =>
      match key with
      | .symbol _ => none
      | key => enumerableValue (value.descriptor key)

/-- The children of a container; an exception counts as none. -/
def childValues (value : HeapObject n) : Option (List (HeapValue n)) :=
  if value.throws then none
  else
    match value.length with
    | some length => plainArrayValues value length
    | none => plainObjectValues value

/-- A value to be entered, or a container to be left. -/
structure TraversalFrame (n : ℕ) where
  value : HeapValue n
  exiting : Bool

/-- The variables of the loop. -/
structure Traversal (n : ℕ) where
  stack : List (TraversalFrame n)
  activeContainers : Finset (Fin n)

/-- One round of the loop: the next round, or the answer. -/
def visitFrame (heap : Heap n) (traversal : Traversal n) : Traversal n ⊕ Bool :=
  match traversal.stack with
  | [] => .inr true
  | frame :: rest =>
      if frame.exiting then
        match frame.value with
        | .object address => .inl ⟨rest, traversal.activeContainers.erase address⟩
        | _ => .inl ⟨rest, traversal.activeContainers⟩
      else
        match frame.value with
        | .null => .inl ⟨rest, traversal.activeContainers⟩
        | .string _ => .inl ⟨rest, traversal.activeContainers⟩
        | .bool _ => .inl ⟨rest, traversal.activeContainers⟩
        | .number (.finite _) => .inl ⟨rest, traversal.activeContainers⟩
        | .number _ => .inr false
        | .undefined => .inr false
        | .other => .inr false
        | .object address =>
            if address ∈ traversal.activeContainers then .inr false
            else
              match childValues (heap address) with
              | none => .inr false
              | some children =>
                  -- the children are pushed in reverse, so the first is on top
                  .inl ⟨children.map (⟨·, false⟩) ++ ⟨.object address, true⟩ :: rest,
                    insert address traversal.activeContainers⟩

/-- The loop, for at most the given number of rounds. -/
def traverse (heap : Heap n) : ℕ → Traversal n → Option Bool
  | 0, _ => none
  | fuel + 1, traversal =>
      match visitFrame heap traversal with
      | .inl next => traverse heap fuel next
      | .inr answer => some answer

/-- `isPlainJsonValue`: the answer, when it takes no more than the given number of rounds. -/
def isPlainJsonValue (heap : Heap n) (fuel : ℕ) (value : HeapValue n) : Option Bool :=
  traverse heap fuel ⟨[⟨value, false⟩], ∅⟩

/-! ### Plain values -/

/-- `null`, a string, a boolean or a finite number. -/
inductive IsPlainLeaf : HeapValue n → Prop where
  | null : IsPlainLeaf .null
  | string (value : String) : IsPlainLeaf (.string value)
  | bool (value : Bool) : IsPlainLeaf (.bool value)
  | number (value : ℚ) : IsPlainLeaf (.number (.finite value))

/-- An enumerable property that holds a value. -/
def Property.IsPlain (property : Property n) : Prop :=
  property.enumerable = true ∧ ∃ value, property.content = .data value

/-- A plain dense array: its keys are the indices below its length. -/
structure IsPlainArray (object : HeapObject n) (length : ℕ) : Prop where
  prototype : object.prototype = .array
  plain : ∀ property ∈ object.properties, property.IsPlain
  dense : ∀ key, key ∈ object.properties.map Property.key ↔ ∃ index < length, key = .index index

/-- A plain object: no symbols, and enumerable data properties only. -/
structure IsPlainObject (object : HeapObject n) : Prop where
  prototype : object.prototype = .object ∨ object.prototype = .null
  plain : ∀ property ∈ object.properties, property.IsPlain
  strings : ∀ id, .symbol id ∉ object.properties.map Property.key

/-- A plain dense array, or a plain object, with enumerable data properties only. -/
def IsPlainContainer (object : HeapObject n) : Prop :=
  object.throws = false ∧
    match object.length with
    | some length => IsPlainArray object length
    | none => IsPlainObject object

/-- An own data property of an object holds a value. -/
def Holds (heap : Heap n) (value held : HeapValue n) : Prop :=
  ∃ address, value = .object address ∧
    ∃ property ∈ (heap address).properties, property.content = .data held

/-! ### The children of a container -/

lemma exists_mapM {A B : Type*} {f : A → Option B} {items : List A}
    (h : ∀ item ∈ items, ∃ r, f item = some r) : ∃ results, items.mapM f = some results := by
  induction items with
  | nil => exact ⟨[], rfl⟩
  | cons item items ih =>
      rw [List.forall_mem_cons] at h
      obtain ⟨r, hr⟩ := h.1
      obtain ⟨results, hresults⟩ := ih h.2
      exact ⟨r :: results, by simp [hr, hresults]⟩

/-- Every item has a result, and the results are what the items have. -/
lemma mapM_spec {A B : Type*} {f : A → Option B} {items : List A} {results : List B}
    (h : items.mapM f = some results) : (∀ item ∈ items, ∃ r, f item = some r) ∧
      ∀ r, r ∈ results ↔ ∃ item ∈ items, f item = some r := by
  induction items generalizing results with
  | nil =>
      cases h
      simp
  | cons item items ih =>
      rw [List.mapM_cons] at h
      cases hitem : f item with
      | none =>
          rw [hitem] at h
          cases h
      | some r =>
          cases hitems : items.mapM f with
          | none =>
              rw [hitem, hitems] at h
              cases h
          | some rest =>
              rw [hitem, hitems] at h
              cases h
              obtain ⟨hall, hrest⟩ := ih hitems
              refine ⟨List.forall_mem_cons.mpr ⟨⟨r, hitem⟩, hall⟩, fun other => ?_⟩
              rw [List.mem_cons, hrest, List.exists_mem_cons_iff, hitem, Option.some.injEq,
                eq_comm]

variable {object : HeapObject n}

lemma HeapObject.nodup_keys (object : HeapObject n) :
    (object.properties.map Property.key).Nodup :=
  (List.nodup_append.mp object.nodup).1

/-- The keys are distinct, so a property is the one its key describes. -/
lemma HeapObject.descriptor_eq_some {key : PropertyKey} {property : Property n} :
    object.descriptor key = some property ↔ property ∈ object.properties ∧ property.key = key := by
  constructor
  · intro h
    exact ⟨List.mem_of_find?_eq_some h, by simpa using List.find?_some h⟩
  · rintro ⟨hmem, rfl⟩
    cases hfind : object.descriptor property.key with
    | none =>
        have hnone := List.find?_eq_none.mp hfind property hmem
        simp at hnone
    | some found =>
        have hfound := List.mem_of_find?_eq_some hfind
        have hkey : found.key = property.key := by simpa using List.find?_some hfind
        rw [List.inj_on_of_nodup_map object.nodup_keys hfound hmem hkey]

lemma enumerableValue_eq_some {descriptor : Option (Property n)} {value : HeapValue n} :
    enumerableValue descriptor = some value ↔ ∃ property, descriptor = some property ∧
      property.enumerable = true ∧ property.content = .data value := by
  rcases descriptor with _ | ⟨key, _ | _, value' | _⟩ <;> simp [enumerableValue]

lemma ownValue_eq_some {key : PropertyKey} {value : HeapValue n} :
    enumerableValue (object.descriptor key) = some value ↔ ∃ property ∈ object.properties,
      property.key = key ∧ property.enumerable = true ∧ property.content = .data value := by
  rw [enumerableValue_eq_some]
  simp only [HeapObject.descriptor_eq_some, and_assoc]

/-- What an object's own data properties hold. -/
def HeapObject.Values (object : HeapObject n) (values : List (HeapValue n)) : Prop :=
  ∀ value, value ∈ values ↔ ∃ property ∈ object.properties, property.content = .data value

lemma length_ownKeys_of_array {length : ℕ} (hlength : object.length = some length) :
    object.ownKeys.length = object.properties.length + 1 ∧
      PropertyKey.name "length" ∈ object.ownKeys := by
  constructor
  · simp [HeapObject.ownKeys, hlength]
  · simp [HeapObject.ownKeys, hlength]

/-- As many own keys as indices below the length, and all of these, are no others. -/
lemma keys_of_indices {length : ℕ} (hcount : object.properties.length = length)
    (hall : ∀ index < length, PropertyKey.index index ∈ object.properties.map Property.key)
    (key : PropertyKey) :
    key ∈ object.properties.map Property.key ↔ ∃ index < length, key = .index index := by
  have hnodup : ((List.range length).map PropertyKey.index).Nodup :=
    List.Nodup.map (fun _ _ h => PropertyKey.index.inj h) List.nodup_range
  have hsub : (List.range length).map PropertyKey.index ⊆ object.properties.map Property.key := by
    intro key hkey
    obtain ⟨index, hindex, rfl⟩ := List.mem_map.mp hkey
    exact hall index (List.mem_range.mp hindex)
  have hperm := (List.subperm_of_subset hnodup hsub).perm_of_length_le (by simp [hcount])
  rw [← hperm.mem_iff]
  simp [eq_comm]

/-- Own data properties that are enumerable hold what is read through their keys. -/
lemma values_of_plain (keys : List PropertyKey) {values : List (HeapValue n)}
    (hplain : ∀ property ∈ object.properties, property.IsPlain)
    (hkeys : ∀ key, key ∈ keys ↔ key ∈ object.properties.map Property.key)
    (hvalues : ∀ value, value ∈ values ↔
      ∃ key ∈ keys, enumerableValue (object.descriptor key) = some value) :
    object.Values values := by
  intro value
  rw [hvalues]
  constructor
  · rintro ⟨key, -, hvalue⟩
    obtain ⟨property, hmem, -, -, hcontent⟩ := ownValue_eq_some.mp hvalue
    exact ⟨property, hmem, hcontent⟩
  · rintro ⟨property, hmem, hcontent⟩
    refine ⟨property.key, (hkeys _).mpr (List.mem_map_of_mem hmem), ?_⟩
    exact ownValue_eq_some.mpr ⟨property, hmem, rfl, (hplain property hmem).1, hcontent⟩

/-- A property whose key reads a value is plain. -/
lemma isPlain_of_value {property : Property n} (hmem : property ∈ object.properties)
    {value : HeapValue n} (h : enumerableValue (object.descriptor property.key) = some value) :
    property.IsPlain := by
  obtain ⟨other, hother, hkey, henumerable, hcontent⟩ := ownValue_eq_some.mp h
  rw [← List.inj_on_of_nodup_map object.nodup_keys hother hmem hkey]
  exact ⟨henumerable, value, hcontent⟩

lemma exists_value_of_isPlain {property : Property n} (hmem : property ∈ object.properties)
    (h : property.IsPlain) :
    ∃ value, enumerableValue (object.descriptor property.key) = some value := by
  obtain ⟨henumerable, value, hcontent⟩ := h
  exact ⟨value, ownValue_eq_some.mpr ⟨property, hmem, rfl, henumerable, hcontent⟩⟩

/-- What is taken from an array is what a plain dense array holds. -/
lemma plainArrayValues_sound {length : ℕ} {values : List (HeapValue n)}
    (hlength : object.length = some length) (h : plainArrayValues object length = some values) :
    IsPlainArray object length ∧ object.Values values := by
  rw [plainArrayValues] at h
  split_ifs at h with hproto hcount
  rw [not_or, not_not, (length_ownKeys_of_array hlength).1, Nat.add_right_cancel_iff] at hcount
  obtain ⟨hall, hvalues⟩ := mapM_spec h
  have hdense := keys_of_indices hcount.1 fun index hlt => by
    obtain ⟨value, hvalue⟩ := hall index (List.mem_range.mpr hlt)
    obtain ⟨property, hmem, hkey, -, -⟩ := ownValue_eq_some.mp hvalue
    exact List.mem_map.mpr ⟨property, hmem, hkey⟩
  have hplain : ∀ property ∈ object.properties, property.IsPlain := by
    intro property hmem
    obtain ⟨index, hlt, hkey⟩ := (hdense property.key).mp (List.mem_map_of_mem hmem)
    obtain ⟨value, hvalue⟩ := hall index (List.mem_range.mpr hlt)
    rw [← hkey] at hvalue
    exact isPlain_of_value hmem hvalue
  refine ⟨⟨not_not.mp hproto, hplain, hdense⟩, ?_⟩
  refine values_of_plain ((List.range length).map .index) hplain (fun key => ?_)
    fun value => ?_
  · rw [hdense]
    simp [eq_comm]
  · rw [hvalues]
    simp

lemma plainArrayValues_complete {length : ℕ} (hlength : object.length = some length)
    (h : IsPlainArray object length) : ∃ values, plainArrayValues object length = some values := by
  obtain ⟨hcount, hmem⟩ := length_ownKeys_of_array hlength
  have hperm : (object.properties.map Property.key).Perm
      ((List.range length).map PropertyKey.index) := by
    refine (List.perm_ext_iff_of_nodup object.nodup_keys ?_).mpr fun key => ?_
    · exact List.Nodup.map (fun _ _ h => PropertyKey.index.inj h) List.nodup_range
    · rw [h.dense]
      simp [eq_comm]
  have hlen := hperm.length_eq
  rw [List.length_map, List.length_map, List.length_range] at hlen
  rw [plainArrayValues, if_neg (not_not.mpr h.prototype), if_neg]
  · refine exists_mapM fun index hindex => ?_
    obtain ⟨property, hproperty, hkey⟩ :=
      List.mem_map.mp ((h.dense _).mpr ⟨index, List.mem_range.mp hindex, rfl⟩)
    rw [← hkey]
    exact exists_value_of_isPlain hproperty (h.plain property hproperty)
  · rw [hcount, hlen]
    simpa using hmem

lemma ownKeys_of_object (hlength : object.length = none) :
    object.ownKeys = object.properties.map Property.key := by
  simp [HeapObject.ownKeys, hlength]

/-- The value behind a string key; a symbol has none. -/
lemma keyValue_eq_some {key : PropertyKey} {value : HeapValue n} :
    (match key with
      | .symbol _ => none
      | key => enumerableValue (object.descriptor key)) = some value ↔
      (∀ id, key ≠ .symbol id) ∧ enumerableValue (object.descriptor key) = some value := by
  cases key <;> simp

lemma plainObjectValues_sound {values : List (HeapValue n)} (hlength : object.length = none)
    (h : plainObjectValues object = some values) :
    IsPlainObject object ∧ object.Values values := by
  rw [plainObjectValues, ownKeys_of_object hlength] at h
  split_ifs at h with hproto
  obtain ⟨hall, hvalues⟩ := mapM_spec h
  simp only [keyValue_eq_some] at hall hvalues
  have hplain : ∀ property ∈ object.properties, property.IsPlain := by
    intro property hmem
    obtain ⟨value, -, hvalue⟩ := hall _ (List.mem_map_of_mem hmem)
    exact isPlain_of_value hmem hvalue
  have hstrings : ∀ id, .symbol id ∉ object.properties.map Property.key := by
    intro id hmem
    obtain ⟨value, hkey, -⟩ := hall _ hmem
    exact hkey id rfl
  refine ⟨⟨by tauto, hplain, hstrings⟩,
    values_of_plain _ hplain (fun key => Iff.rfl) fun value => ?_⟩
  rw [hvalues]
  constructor
  · rintro ⟨key, hmem, -, hvalue⟩
    exact ⟨key, hmem, hvalue⟩
  · rintro ⟨key, hmem, hvalue⟩
    exact ⟨key, hmem, fun id hkey => hstrings id (hkey ▸ hmem), hvalue⟩

lemma plainObjectValues_complete (hlength : object.length = none) (h : IsPlainObject object) :
    ∃ values, plainObjectValues object = some values := by
  rw [plainObjectValues, ownKeys_of_object hlength, if_neg]
  · refine exists_mapM fun key hkey => ?_
    simp only [keyValue_eq_some]
    obtain ⟨property, hmem, rfl⟩ := List.mem_map.mp hkey
    obtain ⟨value, hvalue⟩ := exists_value_of_isPlain hmem (h.plain property hmem)
    exact ⟨value, fun id hid => h.strings id (hid ▸ hkey), hvalue⟩
  · have := h.prototype
    tauto

/-- What is taken from a container is what a plain one holds. -/
lemma childValues_sound {values : List (HeapValue n)} (h : childValues object = some values) :
    IsPlainContainer object ∧ object.Values values := by
  rw [childValues] at h
  split_ifs at h with hthrows
  rw [Bool.not_eq_true] at hthrows
  cases hlength : object.length with
  | none =>
      rw [hlength] at h
      obtain ⟨hplain, hvalues⟩ := plainObjectValues_sound hlength h
      exact ⟨⟨hthrows, by rw [hlength]; exact hplain⟩, hvalues⟩
  | some length =>
      rw [hlength] at h
      obtain ⟨hplain, hvalues⟩ := plainArrayValues_sound hlength h
      exact ⟨⟨hthrows, by rw [hlength]; exact hplain⟩, hvalues⟩

lemma childValues_complete (h : IsPlainContainer object) :
    ∃ values, childValues object = some values := by
  obtain ⟨hthrows, hplain⟩ := h
  rw [childValues, hthrows, if_neg Bool.false_ne_true]
  cases hlength : object.length with
  | none =>
      rw [hlength] at hplain
      exact plainObjectValues_complete hlength hplain
  | some length =>
      rw [hlength] at hplain
      exact plainArrayValues_complete hlength hplain

/-! ### The loop -/

/-- What a value is when its frame is taken from the stack. -/
def look (heap : Heap n) : HeapValue n → Look (HeapValue n) (Fin n)
  | .null => .accept
  | .string _ => .accept
  | .bool _ => .accept
  | .number (.finite _) => .accept
  | .number _ => .reject
  | .undefined => .reject
  | .other => .reject
  | .object address =>
      match childValues (heap address) with
      | none => .reject
      | some children => .enter address children

/-- A frame of the search as one of the loop. -/
def TraversalFrame.embed : Frame (HeapValue n) (Fin n) → TraversalFrame n
  | .visit value => ⟨value, false⟩
  | .leave address => ⟨.object address, true⟩

/-- A state of the search as the variables of the loop. -/
def Traversal.embed (state : State (HeapValue n) (Fin n)) : Traversal n :=
  ⟨state.stack.map TraversalFrame.embed, state.active⟩

/-- A round of the loop is a step of the search. -/
lemma visitFrame_embed (heap : Heap n) (state : State (HeapValue n) (Fin n)) :
    visitFrame heap (.embed state) = (step (look heap) state).map Traversal.embed id := by
  obtain ⟨stack, active⟩ := state
  cases stack with
  | nil => rfl
  | cons frame rest =>
      cases frame with
      | leave address => rfl
      | visit value =>
          cases value with
          | undefined => rfl
          | null => rfl
          | bool value => rfl
          | number value => cases value <;> rfl
          | string value => rfl
          | other => rfl
          | object address =>
              -- a container on the path is refused, whatever it holds
              have hembed : (fun value => (⟨value, false⟩ : TraversalFrame n))
                  = TraversalFrame.embed ∘ Frame.visit := rfl
              cases hchildren : childValues (heap address) with
              | none =>
                  simp [visitFrame, Traversal.embed, TraversalFrame.embed, step, look, hchildren]
              | some children =>
                  by_cases hmem : address ∈ active
                  · simp [visitFrame, Traversal.embed, TraversalFrame.embed, step, look, hchildren,
                      hmem]
                  · simp [visitFrame, Traversal.embed, TraversalFrame.embed, step, look, hchildren,
                      hmem, hembed]

lemma traverse_embed (heap : Heap n) (fuel : ℕ) (state : State (HeapValue n) (Fin n)) :
    traverse heap fuel (.embed state) = run (look heap) fuel state := by
  induction fuel generalizing state with
  | zero => rfl
  | succ fuel ih =>
      rw [traverse, run, visitFrame_embed]
      cases hstep : step (look heap) state with
      | inl next => exact ih next
      | inr answer => rfl

lemma isPlainJsonValue_eq_run (heap : Heap n) (fuel : ℕ) (value : HeapValue n) :
    isPlainJsonValue heap fuel value = run (look heap) fuel ⟨[.visit value], ∅⟩ :=
  traverse_embed heap fuel ⟨[.visit value], ∅⟩

/-! ### What is reached -/

variable {heap : Heap n}

lemma look_eq_enter {value : HeapValue n} {name : Fin n} {children : List (HeapValue n)} :
    look heap value = .enter name children ↔
      value = .object name ∧ childValues (heap name) = some children := by
  cases value with
  | number value => cases value <;> simp [look]
  | object address =>
      cases hchildren : childValues (heap address) with
      | none =>
          simp only [look, hchildren, HeapValue.object.injEq, reduceCtorEq, false_iff, not_and]
          rintro rfl
          simp [hchildren]
      | some values =>
          simp only [look, hchildren, Look.enter.injEq, HeapValue.object.injEq]
          constructor
          · rintro ⟨rfl, rfl⟩
            exact ⟨rfl, hchildren⟩
          · rintro ⟨rfl, h⟩
            exact ⟨rfl, Option.some.inj (hchildren.symm.trans h)⟩
  | _ => simp [look]

/-- The search goes past the plain leaves and into the plain containers. -/
lemma look_ne_reject {value : HeapValue n} :
    look heap value ≠ .reject ↔
      IsPlainLeaf value ∨ ∃ address, value = .object address ∧ IsPlainContainer (heap address) := by
  cases value with
  | undefined => exact iff_of_false (fun h => h rfl) (by rintro (h | ⟨_, h, -⟩) <;> cases h)
  | other => exact iff_of_false (fun h => h rfl) (by rintro (h | ⟨_, h, -⟩) <;> cases h)
  | null => exact iff_of_true (by simp [look]) (Or.inl .null)
  | bool value => exact iff_of_true (by simp [look]) (Or.inl (.bool value))
  | string value => exact iff_of_true (by simp [look]) (Or.inl (.string value))
  | number value =>
      cases value with
      | finite value => exact iff_of_true (by simp [look]) (Or.inl (.number value))
      | _ => exact iff_of_false (fun h => h rfl) (by rintro (h | ⟨_, h, -⟩) <;> cases h)
  | object address =>
      cases hchildren : childValues (heap address) with
      | none =>
          refine iff_of_false (fun h => h (by simp only [look, hchildren])) ?_
          rintro (h | ⟨_, h, hplain⟩)
          · cases h
          · cases h
            obtain ⟨values, hvalues⟩ := childValues_complete hplain
            rw [hchildren] at hvalues
            cases hvalues
      | some values =>
          refine iff_of_true (by simp [look, hchildren]) (Or.inr ⟨address, rfl, ?_⟩)
          exact (childValues_sound hchildren).1

/-- The search goes on to values that the container holds. -/
lemma Child.holds {value held : HeapValue n} (h : Child (look heap) value held) :
    Holds heap value held := by
  obtain ⟨name, children, hlook, hmem⟩ := h
  obtain ⟨rfl, hchildren⟩ := look_eq_enter.mp hlook
  exact ⟨name, rfl, ((childValues_sound hchildren).2 held).mp hmem⟩

/-- From a container that is not refused it goes on to all of them. -/
lemma Holds.child {value held : HeapValue n} (h : Holds heap value held)
    (hlook : look heap value ≠ .reject) : Child (look heap) value held := by
  obtain ⟨address, rfl, hheld⟩ := h
  rcases look_ne_reject.mp hlook with hleaf | ⟨_, heq, hplain⟩
  · cases hleaf
  · cases heq
    obtain ⟨children, hchildren⟩ := childValues_complete hplain
    exact ⟨address, children, look_eq_enter.mpr ⟨rfl, hchildren⟩,
      ((childValues_sound hchildren).2 held).mpr hheld⟩

/-- All that a value reaches is plain, and no cycle is reached. -/
structure IsPlain (heap : Heap n) (value : HeapValue n) : Prop where
  plain : ∀ reached, Relation.ReflTransGen (Holds heap) value reached →
    IsPlainLeaf reached ∨ ∃ address, reached = .object address ∧ IsPlainContainer (heap address)
  acyclic : ∀ reached, Relation.ReflTransGen (Holds heap) value reached →
    ¬Relation.TransGen (Holds heap) reached reached

/-- Where the search refuses nothing it reaches all there is. -/
lemma reaches_child {value reached : HeapValue n}
    (haccepted : ∀ w, Relation.ReflTransGen (Child (look heap)) value w → look heap w ≠ .reject)
    (h : Relation.ReflTransGen (Holds heap) value reached) :
    Relation.ReflTransGen (Child (look heap)) value reached := by
  induction h with
  | refl => exact .refl
  | tail _ hheld ih => exact ih.tail (hheld.child (haccepted _ ih))

/-- The search of the library is sound at a value just when the value is plain. -/
theorem sound_iff_isPlain {value : HeapValue n} :
    Sound (look heap) ∅ value ↔ IsPlain heap value := by
  constructor
  · intro h
    refine ⟨fun reached hreach => ?_, fun reached hreach hcycle => ?_⟩
    · exact look_ne_reject.mp (h.accepted reached (reaches_child h.accepted hreach))
    · have hreach' := reaches_child h.accepted hreach
      obtain ⟨held, hheld, hback⟩ := Relation.TransGen.head'_iff.mp hcycle
      have hchild := hheld.child (h.accepted reached hreach')
      have hback' : Relation.ReflTransGen (Child (look heap)) held reached :=
        reaches_child (fun w hw => h.accepted w ((hreach'.tail hchild).trans hw)) hback
      obtain ⟨name, children, hlook, -⟩ := id hchild
      exact h.acyclic reached hreach' name children hlook reached
        (Relation.TransGen.head'_iff.mpr ⟨held, hchild, hback'⟩) children hlook
  · intro h
    have hmono : ∀ reached, Relation.ReflTransGen (Child (look heap)) value reached →
        Relation.ReflTransGen (Holds heap) value reached :=
      fun _ hreach => Relation.ReflTransGen.mono (fun _ _ => Child.holds) _ _ hreach
    refine ⟨fun reached hreach => ?_, fun _ _ name _ _ => Finset.notMem_empty name,
      fun reached hreach name children hlook again hagain children' hlook' => ?_⟩
    · exact look_ne_reject.mpr (h.plain reached (hmono reached hreach))
    · obtain ⟨rfl, -⟩ := look_eq_enter.mp hlook
      obtain ⟨rfl, -⟩ := look_eq_enter.mp hlook'
      exact h.acyclic _ (hmono _ hreach) 
        (Relation.TransGen.mono (fun _ _ => Child.holds) _ _ hagain)

/-- **The check ends on every heap, and accepts exactly the plain values.** Sharing is allowed:
only a value that is reached from itself is refused. -/
theorem isPlainJsonValue_decides (n : ℕ) (heap : Heap n) (value : HeapValue n) :
    ∃ answer, (∃ steps, ∀ fuel ≥ steps, isPlainJsonValue heap fuel value = some answer) ∧
      (answer = true ↔
        (∀ reached, Relation.ReflTransGen (Holds heap) value reached →
          IsPlainLeaf reached ∨
            ∃ address, reached = .object address ∧ IsPlainContainer (heap address)) ∧
        ¬∃ reached, Relation.ReflTransGen (Holds heap) value reached ∧
          Relation.TransGen (Holds heap) reached reached) := by
  obtain ⟨answer, hanswer, steps, hsteps⟩ := run_eq (look heap) value
  refine ⟨answer, ⟨steps, fun fuel hfuel => ?_⟩, ?_⟩
  · rw [isPlainJsonValue_eq_run]
    exact hsteps fuel hfuel
  · rw [hanswer, clear_iff, sound_iff_isPlain]
    constructor
    · rintro ⟨hplain, hacyclic⟩
      exact ⟨hplain, fun ⟨reached, hreach, hcycle⟩ => hacyclic reached hreach hcycle⟩
    · rintro ⟨hplain, hacyclic⟩
      exact ⟨hplain, fun reached hreach hcycle => hacyclic ⟨reached, hreach, hcycle⟩⟩

/-- Two keys hold one array. -/
example :
    let shared : HeapObject 2 := ⟨some 0, .array, [], false, by decide⟩
    let twice : HeapObject 2 := ⟨none, .object,
      [⟨.name "a", true, .data (.object 1)⟩, ⟨.name "b", true, .data (.object 1)⟩], false,
      by decide⟩
    isPlainJsonValue ![twice, shared] 8 (.object 0) = some true := by
  decide

/-- An array holds itself. -/
example :
    let cyclic : HeapObject 1 := ⟨some 1, .array, [⟨.index 0, true, .data (.object 0)⟩], false,
      by decide⟩
    isPlainJsonValue ![cyclic] 8 (.object 0) = some false := by
  decide

end

end Qaraa.Heaped
