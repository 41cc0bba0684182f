import Mathlib.Data.List.Basic
import Mathlib.Algebra.Group.Int.Defs
import Mathlib.Algebra.Group.Nat.Defs

/-!
# Byte buffers

`mContent` of an `rs::Data` is null exactly when its length is 0, so a buffer
is its list of bytes.
-/

namespace RevSDK

structure Data where
  bytes : List UInt8
  deriving DecidableEq, Repr

namespace Data

def length (data : Data) : Nat := data.bytes.length

def isEmpty (data : Data) : Bool := data.bytes.isEmpty

@[simp] theorem isEmpty_eq_false (data : Data) :
    data.isEmpty = false ↔ data.length ≠ 0 := by
  cases data with
  | mk bytes => cases bytes <;> simp [isEmpty, length]

end Data

end RevSDK
