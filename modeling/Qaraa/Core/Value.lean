import Mathlib.Tactic
import Qaraa.Library.Ordered

/-!
The values a caller can hand to the library, before anything is known about them:
numbers with their non-finite cases, and the object graph a boundary check walks.

* `JsNumber`, `JsValue`: a number is not-a-number, an infinity or a finite rational
  (every finite double is one); a value is one of the primitives, an array, an
  object or something no check accepts.
* `isRecord`, `JsValue.field`: the reads the boundary checks make.
* `JsError`: the two error classes they throw, with their messages.
* `isBlank`, `utf16Length`: `value.trim() === ''` and `value.length`.
-/

namespace Qaraa

/-- A number: finite doubles are rationals. -/
inductive JsNumber where
  | nan
  | infinite (positive : Bool)
  | finite (value : ℚ)
  deriving DecidableEq

/-- A value of unknown shape. `other` stands for functions, symbols and bigints. -/
inductive JsValue where
  | undefined
  | null
  | bool (value : Bool)
  | number (value : JsNumber)
  | string (value : String)
  | array (items : List JsValue)
  | object (fields : List (String × JsValue))
  | other

/-- The errors the core throws, with their messages. -/
inductive JsError where
  | typeError (message : String)
  | rangeError (message : String)
  deriving DecidableEq

/-- `typeof value === 'object' && value !== null`. -/
def isRecord : JsValue → Bool
  | .array _ => true
  | .object _ => true
  | _ => false

/-- The property read `value.name`: `undefined` where there is none. -/
def JsValue.field (value : JsValue) (name : String) : JsValue :=
  match value with
  | .object fields => (List.lookup name fields).getD .undefined
  | _ => .undefined

/-- The characters `String.prototype.trim` removes. -/
def isTrimmed (c : Char) : Bool :=
  (9 ≤ c.toNat && c.toNat ≤ 13) || c.toNat == 0x20 || c.toNat == 0xA0 || c.toNat == 0x1680 ||
    (0x2000 ≤ c.toNat && c.toNat ≤ 0x200A) || c.toNat == 0x2028 || c.toNat == 0x2029 ||
    c.toNat == 0x202F || c.toNat == 0x205F || c.toNat == 0x3000 || c.toNat == 0xFEFF

/-- `value.trim() === ''`. -/
def isBlank (value : String) : Bool := value.toList.all isTrimmed

/-- `value.length`: UTF-16 code units. -/
def utf16Length (value : String) : ℕ :=
  (value.toList.map fun c => if c.toNat < 0x10000 then 1 else 2).sum

/-- `Number.MAX_SAFE_INTEGER`. -/
def maxSafeInteger : ℕ := 9007199254740991

/-- `Number.isSafeInteger`. -/
def isSafeInteger : JsNumber → Bool
  | .finite q => q.den == 1 && q.num.natAbs ≤ maxSafeInteger
  | _ => false

end Qaraa
