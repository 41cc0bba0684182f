import RevSDK.Foundation.Outcome
import Mathlib.Algebra.Group.Int.Defs
import Mathlib.Algebra.Group.Nat.Defs
import Mathlib.Data.Rat.Defs

/-!
# JSON values

A document as both parsers of the SDK read it: a number is an `int` unless it
has a fraction or an exponent or exceeds 64 bits.  The accessors are those of
`Json::Value`, which throw on the kinds they cannot convert; the texts and the
rounding of floating-point numbers are parameters.
-/

namespace RevSDK

open RevSDK.Foundation

inductive Json where
  | null
  | bool (value : Bool)
  | int (value : Int)
  | real (value : ℚ)
  | string (value : String)
  | array (elements : List Json)
  | object (members : List (String × Json))

namespace Json

def minInt : Int := -2 ^ 31

def maxInt : Int := 2 ^ 31 - 1

/-- The conversion of a floating-point number to an integer. -/
def truncate (value : ℚ) : Int := value.num.tdiv value.den

def throwLogicError {α : Type} (text : String) : Outcome α :=
  .error (.exceptionRaised text)

/-- `value[key]`. -/
def member (value : Json) (key : String) : Outcome Json :=
  match value with
  | null => .ok null
  | object members => .ok ((members.lookup key).getD null)
  | _ => throwLogicError
      "in Json::Value::resolveReference(key, end): requires objectValue"

/-- `value[index]`. -/
def element (value : Json) (index : Nat) : Outcome Json :=
  match value with
  | null => .ok null
  | array elements => .ok (elements[index]?.getD null)
  | _ => throwLogicError
      "in Json::Value::operator[](ArrayIndex): requires arrayValue"

def size : Json → Nat
  | array elements => elements.length
  | object members => members.length
  | _ => 0

def asString (realText : ℚ → String) : Json → Outcome String
  | null => .ok ""
  | string value => .ok value
  | bool value => .ok (if value then "true" else "false")
  | int value => .ok (toString value)
  | real value => .ok (realText value)
  | _ => throwLogicError "Type is not convertible to string"

def asInt : Json → Outcome Int
  | null => .ok 0
  | bool value => .ok (if value then 1 else 0)
  | int value =>
      if value < minInt then throwLogicError "LargestInt out of Int range"
      else if maxInt < value then
        throwLogicError "LargestUInt out of Int range"
      else .ok value
  | real value =>
      if minInt ≤ value ∧ value ≤ maxInt then .ok (truncate value)
      else throwLogicError "double out of Int range"
  | _ => throwLogicError "Value is not convertible to Int."

def asFloat (toFloat : ℚ → ℚ) : Json → Outcome ℚ
  | null => .ok 0
  | bool value => .ok (if value then 1 else 0)
  | int value => .ok (toFloat value)
  | real value => .ok (toFloat value)
  | _ => throwLogicError "Value is not convertible to float."

/-! ## What converts -/

def IsScalar : Json → Prop
  | array _ => False
  | object _ => False
  | _ => True

/-- The values that `asFloat` converts. -/
def IsNumeric : Json → Prop
  | string _ => False
  | array _ => False
  | object _ => False
  | _ => True

/-- The values that `asInt` converts. -/
def IsInt32 : Json → Prop
  | null => True
  | bool _ => True
  | int value => minInt ≤ value ∧ value ≤ maxInt
  | real value => minInt ≤ value ∧ value ≤ maxInt
  | _ => False

/-- The values that `vectorFromValue` converts; all but arrays count as empty. -/
def IsTextList : Json → Prop
  | array elements => ∀ value ∈ elements, value.IsScalar
  | object members => members = []
  | _ => True

instance (value : Json) : Decidable value.IsScalar :=
  match value with
  | null | bool _ | int _ | real _ | string _ => isTrue trivial
  | array _ | object _ => isFalse id

instance (value : Json) : Decidable value.IsNumeric :=
  match value with
  | null | bool _ | int _ | real _ => isTrue trivial
  | string _ | array _ | object _ => isFalse id

instance (value : Json) : Decidable value.IsInt32 :=
  match value with
  | null | bool _ => isTrue trivial
  | int value => inferInstanceAs (Decidable (minInt ≤ value ∧ value ≤ maxInt))
  | real value =>
      inferInstanceAs (Decidable ((minInt : ℚ) ≤ value ∧ value ≤ maxInt))
  | string _ | array _ | object _ => isFalse id

instance (value : Json) : Decidable value.IsTextList :=
  match value with
  | null | bool _ | int _ | real _ | string _ => isTrue trivial
  | array elements =>
      inferInstanceAs (Decidable (∀ value ∈ elements, value.IsScalar))
  | object _ => decidable_of_iff _ List.isEmpty_iff

theorem asString_isOk_iff (realText : ℚ → String) (value : Json) :
    (∃ text, value.asString realText = .ok text) ↔ value.IsScalar := by
  cases value <;> simp [asString, IsScalar, throwLogicError]

theorem asFloat_isOk_iff (toFloat : ℚ → ℚ) (value : Json) :
    (∃ number, value.asFloat toFloat = .ok number) ↔ value.IsNumeric := by
  cases value <;> simp [asFloat, IsNumeric, throwLogicError]

theorem asInt_isOk_iff (value : Json) :
    (∃ number, value.asInt = .ok number) ↔ value.IsInt32 := by
  cases value with
  | int value =>
      unfold asInt IsInt32
      dsimp only
      split
      · rename_i hlow
        simp only [throwLogicError, reduceCtorEq, exists_false, false_iff]
        omega
      · split
        · simp only [throwLogicError, reduceCtorEq, exists_false, false_iff]
          omega
        · simp only [Except.ok.injEq, exists_eq', true_iff]
          omega
  | real value =>
      unfold asInt IsInt32
      dsimp only
      split
      · rename_i hrange
        simpa using hrange
      · rename_i hrange
        simp only [throwLogicError, reduceCtorEq, exists_false, false_iff]
        exact hrange
  | _ => simp [asInt, IsInt32, throwLogicError]

theorem truncate_bounds {value : ℚ} {low high : Int} (hlow : low ≤ value)
    (hhigh : value ≤ high) (hneg : low ≤ 0) (hpos : 0 ≤ high) :
    low ≤ truncate value ∧ truncate value ≤ high := by
  have hden : (0 : Int) < value.den := by exact_mod_cast value.den_pos
  rw [Rat.le_iff] at hlow hhigh
  simp only [Rat.num_intCast, Rat.den_intCast] at hlow hhigh
  unfold truncate
  rcases Int.le_total 0 value.num with hnum | hnum
  · have hleast := Int.ediv_nonneg hnum (Int.le_of_lt hden)
    have hmost : value.num / value.den ≤ high :=
      Int.ediv_le_of_le_mul hden (by simpa using hhigh)
    rw [Int.tdiv_eq_ediv_of_nonneg hnum]
    omega
  · have hopposite : (0 : Int) ≤ -value.num := by omega
    have hleast := Int.ediv_nonneg hopposite (Int.le_of_lt hden)
    have hmost : -value.num / value.den ≤ -low :=
      Int.ediv_le_of_le_mul hden (by rw [Int.neg_mul]; omega)
    have hflip : value.num.tdiv value.den = -(-value.num / value.den) := by
      rw [← Int.tdiv_eq_ediv_of_nonneg hopposite, Int.neg_tdiv, Int.neg_neg]
    rw [hflip]
    omega

end Json

end RevSDK
