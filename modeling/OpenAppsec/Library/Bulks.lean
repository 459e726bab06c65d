import Mathlib.Algebra.BigOperators.Group.List.Basic
import Mathlib.Tactic.Common

/-!
# Bulks of a list

A list is cut into bulks of a bounded size by filling one bulk after the
other; the last bulk may be smaller.
-/

namespace Bulks

variable {α : Type*}

/-- The bulks of a list, of which `bulk` is already filled. -/
def bulksFrom (size : Nat) : List α → List α → List (List α)
  | bulk, [] => if bulk = [] then [] else [bulk]
  | bulk, item :: items =>
      if (bulk ++ [item]).length < size then
        bulksFrom size (bulk ++ [item]) items
      else
        (bulk ++ [item]) :: bulksFrom size [] items

/-- The bulks of a list. -/
def bulks (size : Nat) (items : List α) : List (List α) :=
  bulksFrom size [] items

/-- The bulks that items fill up completely. -/
def fullBulksFrom (size : Nat) : List α → List α → List (List α)
  | _, [] => []
  | bulk, item :: items =>
      if (bulk ++ [item]).length < size then
        fullBulksFrom size (bulk ++ [item]) items
      else
        (bulk ++ [item]) :: fullBulksFrom size [] items

/-- What the full bulks leave in the bulk that is being filled. -/
def remainderFrom (size : Nat) : List α → List α → List α
  | bulk, [] => bulk
  | bulk, item :: items =>
      if (bulk ++ [item]).length < size then
        remainderFrom size (bulk ++ [item]) items
      else
        remainderFrom size [] items

variable {size : Nat}

theorem bulksFrom_below {bulk items : List α} {item : α}
    (below : (bulk ++ [item]).length < size) :
    bulksFrom size bulk (item :: items) =
      bulksFrom size (bulk ++ [item]) items := by
  rw [bulksFrom, if_pos below]

theorem bulksFrom_full {bulk items : List α} {item : α}
    (full : ¬(bulk ++ [item]).length < size) :
    bulksFrom size bulk (item :: items) =
      (bulk ++ [item]) :: bulksFrom size [] items := by
  rw [bulksFrom, if_neg full]

/-- Items in two parts fill the bulks one after the other. -/
theorem bulksFrom_append (bulk first second : List α) :
    bulksFrom size bulk (first ++ second) =
      fullBulksFrom size bulk first ++
        bulksFrom size (remainderFrom size bulk first) second := by
  induction first generalizing bulk with
  | nil => rfl
  | cons item first induction =>
      rw [List.cons_append, fullBulksFrom, remainderFrom]
      by_cases below : (bulk ++ [item]).length < size
      · rw [bulksFrom_below below, if_pos below, if_pos below, induction]
      · rw [bulksFrom_full below, if_neg below, if_neg below, induction,
          List.cons_append]

theorem fullBulksFrom_append (bulk first second : List α) :
    fullBulksFrom size bulk (first ++ second) =
      fullBulksFrom size bulk first ++
        fullBulksFrom size (remainderFrom size bulk first) second := by
  induction first generalizing bulk with
  | nil => rfl
  | cons item first induction =>
      rw [List.cons_append, fullBulksFrom, fullBulksFrom, remainderFrom]
      by_cases below : (bulk ++ [item]).length < size
      · rw [if_pos below, if_pos below, if_pos below, induction]
      · rw [if_neg below, if_neg below, if_neg below, induction,
          List.cons_append]

/-- The full bulks hold all but the remainder. -/
theorem flatten_fullBulksFrom (bulk items : List α) :
    (fullBulksFrom size bulk items).flatten ++ remainderFrom size bulk items =
      bulk ++ items := by
  induction items generalizing bulk with
  | nil => exact (List.append_nil bulk).symm
  | cons item items induction =>
      rw [fullBulksFrom, remainderFrom]
      by_cases below : (bulk ++ [item]).length < size
      · rw [if_pos below, if_pos below, induction, List.append_assoc,
          List.singleton_append]
      · rw [if_neg below, if_neg below, List.flatten_cons, List.append_assoc,
          induction, List.nil_append, List.append_assoc,
          List.singleton_append]

theorem length_of_mem_fullBulksFrom {bulk : List α}
    (room : bulk.length < size) {items full : List α}
    (member : full ∈ fullBulksFrom size bulk items) : full.length = size := by
  induction items generalizing bulk with
  | nil => cases member
  | cons item items induction =>
      have grown : (bulk ++ [item]).length = bulk.length + 1 :=
        List.length_append
      rw [fullBulksFrom] at member
      by_cases below : (bulk ++ [item]).length < size
      · rw [if_pos below] at member
        exact induction below member
      · rw [if_neg below] at member
        rcases List.mem_cons.mp member with rfl | later
        · omega
        · apply induction _ later
          exact Nat.lt_of_le_of_lt (Nat.zero_le _) room

/-- The full bulks hold a multiple of the size. -/
theorem length_flatten_fullBulksFrom {bulk : List α}
    (room : bulk.length < size) (items : List α) :
    (fullBulksFrom size bulk items).flatten.length =
      (fullBulksFrom size bulk items).length * size := by
  have sizes : ∀ count ∈
      (fullBulksFrom size bulk items).map List.length, count = size := by
    intro count member
    obtain ⟨full, inside, rfl⟩ := List.mem_map.mp member
    exact length_of_mem_fullBulksFrom room inside
  rw [List.length_flatten, List.sum_eq_card_nsmul _ size sizes,
    List.length_map]
  rfl

variable (size) in
theorem flatten_bulksFrom (bulk items : List α) :
    (bulksFrom size bulk items).flatten = bulk ++ items := by
  induction items generalizing bulk with
  | nil =>
      rw [bulksFrom, List.append_nil]
      split
      · rename_i empty
        rw [empty, List.flatten_nil]
      · rw [List.flatten_cons, List.flatten_nil, List.append_nil]
  | cons item items induction =>
      by_cases below : (bulk ++ [item]).length < size
      · rw [bulksFrom_below below, induction, List.append_assoc,
          List.singleton_append]
      · rw [bulksFrom_full below, List.flatten_cons, induction,
          List.nil_append, List.append_assoc, List.singleton_append]

theorem flatten_bulks (size : Nat) (items : List α) :
    (bulks size items).flatten = items := by
  rw [bulks, flatten_bulksFrom, List.nil_append]

theorem bulksFrom_bounds {bulk : List α} (room : bulk.length < size)
    {items filled : List α} (member : filled ∈ bulksFrom size bulk items) :
    filled ≠ [] ∧ filled.length ≤ size := by
  induction items generalizing bulk with
  | nil =>
      rw [bulksFrom] at member
      split at member
      · cases member
      · rename_i nonempty
        rw [List.mem_singleton] at member
        subst member
        exact ⟨nonempty, Nat.le_of_lt room⟩
  | cons item items induction =>
      by_cases below : (bulk ++ [item]).length < size
      · rw [bulksFrom_below below] at member
        exact induction below member
      · rw [bulksFrom_full below] at member
        rcases List.mem_cons.mp member with rfl | later
        · refine ⟨List.append_ne_nil_of_right_ne_nil _
            (List.cons_ne_nil _ _), ?_⟩
          rw [List.length_append, List.length_singleton]
          exact room
        · apply induction _ later
          exact Nat.lt_of_le_of_lt (Nat.zero_le _) room

/-- Every bulk holds between one item and `size` items. -/
theorem bulks_bounds (positive : 0 < size) {items filled : List α}
    (member : filled ∈ bulks size items) :
    filled ≠ [] ∧ filled.length ≤ size := by
  apply bulksFrom_bounds _ member
  exact positive

theorem bulks_eq_nil_iff {items : List α} :
    bulks size items = [] ↔ items = [] := by
  constructor
  · intro empty
    rw [← flatten_bulks size items, empty, List.flatten_nil]
  · intro empty
    rw [empty]
    rfl

theorem length_remainderFrom_lt {bulk : List α} (room : bulk.length < size)
    (items : List α) : (remainderFrom size bulk items).length < size := by
  induction items generalizing bulk with
  | nil => exact room
  | cons item items induction =>
      rw [remainderFrom]
      split
      · rename_i below
        exact induction below
      · exact induction (Nat.lt_of_le_of_lt (Nat.zero_le _) room)

theorem bulks_eq_full (items : List α) :
    bulks size items = fullBulksFrom size [] items ++
      if remainderFrom size [] items = [] then []
      else [remainderFrom size [] items] := by
  have split := @bulksFrom_append α size [] items []
  rwa [List.append_nil, bulksFrom.eq_1] at split

/-- The piece with an index; the last one takes the rest of the list. -/
def piece (size count : Nat) (items : List α) (index : Nat) : List α :=
  (items.drop (index * size)).take
    (if index + 1 = count then items.length - index * size else size)

def pieces (size count : Nat) (items : List α) : List (List α) :=
  (List.range count).map (piece size count items)

theorem piece_succ (count : Nat) (items : List α) (index : Nat) :
    piece size (count + 1) items (index + 1) =
      piece size count (items.drop size) index := by
  have offset : (index + 1) * size = size + index * size := by
    rw [Nat.succ_mul, Nat.add_comm]
  simp only [piece, offset, Nat.add_right_cancel_iff, List.drop_drop,
    List.length_drop, Nat.sub_add_eq]

theorem pieces_succ (count : Nat) (items : List α) :
    pieces size (count + 1) items =
      piece size (count + 1) items 0 ::
        pieces size count (items.drop size) := by
  rw [pieces, List.range_succ_eq_map, List.map_cons, List.map_map]
  congr 1
  apply List.map_congr_left
  intro index _
  exact piece_succ count items index

theorem flatten_pieces (count : Nat) (items : List α) :
    (pieces size (count + 1) items).flatten = items := by
  induction count generalizing items with
  | zero => simp [pieces, piece]
  | succ count induction =>
      rw [pieces_succ, List.flatten_cons, induction]
      have first : piece size (count + 2) items 0 = items.take size := by
        simp [piece]
      rw [first, List.take_append_drop]

theorem length_piece_le {count : Nat} {items : List α}
    (short : items.length ≤ count * size) (index : Nat) :
    (piece size count items index).length ≤ size := by
  rw [piece, List.length_take]
  apply Nat.le_trans (Nat.min_le_left _ _)
  split
  · rename_i last
    rw [← last, Nat.succ_mul] at short
    omega
  · exact Nat.le_refl size

end Bulks
