import Mathlib.Data.List.Range
import Mathlib.Data.Nat.ModEq
import Mathlib.Logic.Function.Basic
import Mathlib.Tactic.Common

/-!
# Windows of a ring

The slots of a ring from a head onwards, as a list.  Filling the slot behind
the window appends to the list, and moving the head drops its first element.
-/

namespace RingWindow

variable {α : Type*}

/-- The `count` slots from `head` on, in a ring of `size` slots. -/
def window (slots : Nat → α) (size head count : Nat) : List α :=
  (List.range count).map fun offset => slots ((head + offset) % size)

@[simp] theorem length_window (slots : Nat → α) (size head count : Nat) :
    (window slots size head count).length = count := by
  rw [window, List.length_map, List.length_range]

/-- Distinct offsets below the size are distinct slots. -/
theorem offset_inj {size head left right : Nat} (leftInside : left < size)
    (rightInside : right < size)
    (same : (head + left) % size = (head + right) % size) :
    left = right := by
  have offsets : Nat.ModEq size left right :=
    Nat.ModEq.add_left_cancel' head same
  exact Nat.ModEq.eq_of_lt_of_lt offsets leftInside rightInside

theorem window_fill (slots : Nat → α) {size : Nat} (head : Nat)
    {count : Nat} (room : count < size) (value : α) :
    window (Function.update slots ((head + count) % size) value) size head
        (count + 1) =
      window slots size head count ++ [value] := by
  rw [window, List.range_succ, List.map_append, List.map_singleton,
    Function.update_self]
  congr 1
  apply List.map_congr_left
  intro offset inside
  rw [Function.update_of_ne]
  intro same
  have earlier := List.mem_range.mp inside
  have equal := offset_inj (by omega) room same
  omega

theorem window_head (slots : Nat → α) (size head count : Nat) :
    window slots size head (count + 1) =
      slots (head % size) :: window slots size ((head + 1) % size) count := by
  rw [window, List.range_succ_eq_map, List.map_cons, List.map_map,
    Nat.add_zero]
  congr 1
  apply List.map_congr_left
  intro offset _
  change slots ((head + (offset + 1)) % size) =
    slots (((head + 1) % size + offset) % size)
  rw [Nat.mod_add_mod, Nat.add_right_comm, Nat.add_assoc]

end RingWindow
