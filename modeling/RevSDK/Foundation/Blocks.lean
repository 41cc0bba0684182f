import Mathlib.Data.List.Basic
import Mathlib.Data.Nat.ModEq

/-!
# Memory in blocks

A row of blocks of one size, allocated on demand: `none` is a block that is
not there.  `peek` reads one position of the row.  A ring of `capacity`
positions keeps offset `o` at position `o % capacity`; offsets that are less
than a capacity apart do not meet.
-/

namespace RevSDK.Foundation

universe u

variable {α : Type u}

abbrev Blocks (α : Type u) := List (Option (List α))

def overwrite (block : List α) (offset : Nat) (source : List α) : List α :=
  block.take offset ++ source ++ block.drop (offset + source.length)

def Blocks.peek (size : Nat) (blocks : Blocks α) (position : Nat) : Option α :=
  (blocks[position / size]?).join.bind fun block => block[position % size]?

section Overwriting

variable {block source : List α} {offset index : Nat}

theorem length_overwrite (hfits : offset + source.length ≤ block.length) :
    (overwrite block offset source).length = block.length := by
  simp only [overwrite, List.length_append, List.length_take,
    List.length_drop]
  omega

theorem getElem?_overwrite (hfits : offset + source.length ≤ block.length) :
    (overwrite block offset source)[index]? =
      if offset ≤ index ∧ index < offset + source.length then
        source[index - offset]?
      else block[index]? := by
  have htake : (block.take offset).length = offset := by
    rw [List.length_take]
    omega
  unfold overwrite
  split
  next hinside =>
    rw [List.append_assoc, List.getElem?_append_right (by omega), htake,
      List.getElem?_append_left (by omega)]
  next houtside =>
    by_cases hbefore : index < offset
    · rw [List.append_assoc, List.getElem?_append_left (by omega),
        List.getElem?_take_of_lt hbefore]
    · rw [List.getElem?_append_right (by simp; omega), List.getElem?_drop]
      congr 1
      simp only [List.length_append, htake]
      omega

end Overwriting

section Peeking

variable {blocks : Blocks α} {size position index : Nat} {block : List α}

theorem peek_of_block (hblock : blocks[position / size]? = some (some block)) :
    blocks.peek size position = block[position % size]? := by
  simp [Blocks.peek, hblock]

theorem peek_eq_some {element : α} :
    blocks.peek size position = some element ↔
      ∃ block, blocks[position / size]? = some (some block) ∧
        block[position % size]? = some element := by
  unfold Blocks.peek
  cases blocks[position / size]? with
  | none => simp
  | some found => cases found <;> simp

theorem peek_set_ne (hne : index ≠ position / size) (new : Option (List α)) :
    Blocks.peek size (blocks.set index new) position =
      blocks.peek size position := by
  simp [Blocks.peek, List.getElem?_set_ne hne]

end Peeking

section Rings

variable {capacity lower first second offset index : Nat}

theorem ring_injective (hfirst : lower ≤ first)
    (hfirst' : first < lower + capacity) (hsecond : lower ≤ second)
    (hsecond' : second < lower + capacity)
    (hmeet : first % capacity = second % capacity) : first = second := by
  rcases Nat.le_total first second with hle | hle
  · have hdvd := (Nat.modEq_iff_dvd' hle).mp hmeet
    have := Nat.eq_zero_of_dvd_of_lt hdvd (by omega)
    omega
  · have hdvd := (Nat.modEq_iff_dvd' hle).mp hmeet.symm
    have := Nat.eq_zero_of_dvd_of_lt hdvd (by omega)
    omega

theorem ring_add (capacity offset index : Nat)
    (hend : offset % capacity + index < capacity) :
    (offset + index) % capacity = offset % capacity + index := by
  rw [Nat.add_mod, Nat.mod_eq_of_lt (show index < capacity by omega),
    Nat.mod_eq_of_lt hend]

theorem ring_wrap (capacity offset index : Nat)
    (hend : offset % capacity + index = capacity) :
    (offset + index) % capacity = 0 := by
  rw [← Nat.mod_add_div offset capacity, Nat.add_right_comm, hend]
  simp

end Rings

end RevSDK.Foundation
