import Qaraa.Sdk.Json

/-!
What a value keeps on its way through a decoder and an encoder, by the shape the protocol
gives it.

* `Shape`: how a known value is read: as it is, as a double, as the protocol version, as
  null or something else, as a list, or as an object with known fields.
* `Survives`, `Kept`: the value written is the value read, entry by entry and at every
  depth; entries of no known field are the same before and after.
-/

namespace Qaraa.Sdk

open Ordered OrderedMap
open List (lookup)

/-- How a decoder reads a value. -/
inductive Shape where
  /-- As it is: strings, booleans, integers, lists of strings. -/
  | same
  /-- As a double. -/
  | number
  /-- As something equal to one. -/
  | version
  /-- As null, or with the given shape. -/
  | nullable (shape : Shape)
  /-- As null or with the given shape, nulls left out in writing. -/
  | optional (shape : Shape)
  | items (shape : Shape)
  | object (fields : List (String × Shape))

mutual

/-- **`Survives shape old new`**: what was read from `old` by its shape is what is written
in `new`, and nothing else of `old` is lost or changed. -/
inductive Survives : Shape → Json → Json → Prop where
  | same (value : Json) : Survives .same value value
  | int (n : ℤ) : Survives .number (.int n) (.double (toDouble n))
  | double (x : JsNumber) : Survives .number (.double x) (.double x)
  | version {value : Json} : isOne value = true → Survives .version value (.int 1)
  | null (shape : Shape) : Survives (.nullable shape) .null .null
  | nullable {shape : Shape} {old new : Json} :
      Survives shape old new → Survives (.nullable shape) old new
  | optional {shape : Shape} {old new : Json} :
      Survives shape old new → Survives (.optional shape) old new
  | nil (shape : Shape) : Survives (.items shape) (.list []) (.list [])
  | cons {shape : Shape} {old new : Json} {olds news : List Json} : Survives shape old new →
      Survives (.items shape) (.list olds) (.list news) →
      Survives (.items shape) (.list (old :: olds)) (.list (new :: news))
  | object {fields : List (String × Shape)} {old new : Entries} :
      (∀ key, key ∉ fields.map Prod.fst → lookup key new = lookup key old) →
      (∀ field ∈ fields, Kept field.2 (lookup field.1 old) (lookup field.1 new)) →
      Survives (.object fields) (.map old) (.map new)

/-- The entry of a known field, before and after. -/
inductive Kept : Shape → Option Json → Option Json → Prop where
  | present {shape : Shape} {old new : Json} :
      Survives shape old new → Kept shape (some old) (some new)
  | absent (shape : Shape) : Kept shape none none
  /-- Where a field may be null, a missing entry is read, and written, as null. -/
  | filled (shape : Shape) : Kept (.nullable shape) none (some .null)
  /-- A null optional field is not written. -/
  | dropped (shape : Shape) : Kept (.optional shape) (some .null) none

end

lemma Survives.list {shape : Shape} {olds news : List Json}
    (h : List.Forall₂ (Survives shape) olds news) :
    Survives (.items shape) (.list olds) (.list news) := by
  induction h with
  | nil => exact .nil shape
  | cons hhead _ ih => exact .cons hhead ih

lemma Survives.kept {fields : List (String × Shape)} {old new : Entries}
    (h : Survives (.object fields) (.map old) (.map new)) :
    ∀ field ∈ fields, Kept field.2 (lookup field.1 old) (lookup field.1 new) := by
  cases h with
  | object _ hknown => exact hknown

end Qaraa.Sdk
