import Mathlib.Data.List.Basic
import Mathlib.Tactic.Common

/-!
# The iterator over nginx lists

A list has its elements in parts.  The iterator counts along the elements with
three cursors: the part, the element in the part, and the element in the list.
-/

namespace OpenAppsec.ListIterator

variable {α : Type*}

/-- `ngx_list_t`, with the elements of each part.  The first part belongs to the
list itself. -/
structure NgxList (α : Type*) where
  parts : List (List α)
  nonempty : parts ≠ []

/-- An element of a part, or what is behind its elements. -/
structure Location where
  part : Nat
  element : Nat
  deriving DecidableEq

/-- `ngx_http_cp_list_iterator`. -/
structure Iterator where
  currentPart : Nat
  currentPartElementIndex : Nat
  currentListElementIndex : Nat
  deriving DecidableEq

/-- `init_list_iterator`. -/
def initListIterator : Iterator :=
  { currentPart := 0
    currentPartElementIndex := 0
    currentListElementIndex := 0 }

namespace NgxList

/-- The elements of all parts. -/
def elements (list : NgxList α) : List α :=
  list.parts.flatten

def nelts (list : NgxList α) (part : Nat) : Nat :=
  (list.parts[part]?.getD []).length

/-- The element at a location, if there is one. -/
def read (list : NgxList α) (location : Location) : Option α :=
  list.parts[location.part]? >>= (·[location.element]?)

/-- The place of a location among all elements. -/
def position (list : NgxList α) (location : Location) : Nat :=
  (list.parts.take location.part).flatten.length + location.element

def update (list : NgxList α) (location : Location) (change : α → α) :
    NgxList α where
  parts := list.parts.modify location.part (·.modify location.element change)
  nonempty := by
    intro empty
    apply list.nonempty
    have length := congrArg List.length empty
    rw [List.length_modify] at length
    exact List.eq_nil_of_length_eq_zero length

/-- `ngx_list_push`: the element goes into the last part, or into a new one if
this is full. -/
def push (full : Bool) (list : NgxList α) (element : α) : NgxList α where
  parts :=
    if full then list.parts ++ [[element]]
    else list.parts.dropLast ++ [list.parts.getLast list.nonempty ++ [element]]
  nonempty := by
    split
    · simp
    · simp

end NgxList

/-- The loop of `get_list_element`, for as many rounds as the index is ahead. -/
def advance (list : NgxList α) : Nat → Iterator → Iterator
  | 0, iterator => iterator
  | rounds + 1, iterator =>
      if list.nelts iterator.currentPart ≤
          iterator.currentPartElementIndex then
        if list.parts.length ≤ iterator.currentPart + 1 then iterator
        else
          advance list rounds
            { currentPart := iterator.currentPart + 1
              currentPartElementIndex := 1
              currentListElementIndex := iterator.currentListElementIndex + 1 }
      else
        advance list rounds
          { iterator with
            currentPartElementIndex := iterator.currentPartElementIndex + 1
            currentListElementIndex := iterator.currentListElementIndex + 1 }

/-- `get_list_element`: a pointer to an element or `NULL`, and the iterator. -/
def getListElement (list : NgxList α) (index : Nat) (iterator : Iterator) :
    Option Location × Iterator :=
  let iterator :=
    advance list (index - iterator.currentListElementIndex) iterator
  if list.parts.length ≤ iterator.currentPart + 1 ∧
      iterator.currentListElementIndex < index then
    (none, iterator)
  else
    (some
      { part := iterator.currentPart
        element := iterator.currentPartElementIndex }, iterator)

theorem modify_append_right (front items : List α) (index : Nat)
    (change : α → α) :
    (front ++ items).modify (front.length + index) change =
      front ++ items.modify index change := by
  induction front with
  | nil => simp
  | cons item front induction =>
      have shifted : (item :: front).length + index =
          front.length + index + 1 := by
        rw [List.length_cons]
        omega
      rw [shifted, List.cons_append, List.modify_succ_cons, induction]
      rfl

theorem modify_append_left {items : List α} {index : Nat}
    (inside : index < items.length) (back : List α) (change : α → α) :
    (items ++ back).modify index change = items.modify index change ++ back := by
  induction items generalizing index with
  | nil => exact absurd inside (Nat.not_lt_zero index)
  | cons item items induction =>
      cases index with
      | zero => rfl
      | succ index =>
          have later := induction (Nat.lt_of_succ_lt_succ inside)
          rw [List.cons_append, List.modify_succ_cons, later]
          rfl

namespace NgxList

variable {list : NgxList α} {location : Location} {element : α}

theorem elements_push (full : Bool) (list : NgxList α) (element : α) :
    (list.push full element).elements = list.elements ++ [element] := by
  cases full with
  | true => simp [push, elements]
  | false =>
      have whole : list.elements = list.parts.dropLast.flatten ++
          list.parts.getLast list.nonempty := by
        rw [elements]
        conv_lhs => rw [← List.dropLast_concat_getLast list.nonempty]
        simp
      rw [whole]
      simp [push, elements]

variable (found : list.read location = some element)

include found

/-- The parts before a location, its part, and the parts behind. -/
theorem parts_of_read :
    ∃ part, part[location.element]? = some element ∧
      list.parts = list.parts.take location.part ++
        part :: list.parts.drop (location.part + 1) := by
  obtain ⟨part, inList, inPart⟩ := Option.bind_eq_some_iff.mp found
  refine ⟨part, inPart, ?_⟩
  obtain ⟨inside, rfl⟩ := List.getElem?_eq_some_iff.mp inList
  rw [← List.drop_eq_getElem_cons inside, List.take_append_drop]

theorem getElem?_position :
    list.elements[list.position location]? = some element := by
  obtain ⟨part, inPart, split⟩ := parts_of_read found
  obtain ⟨inside, -⟩ := List.getElem?_eq_some_iff.mp inPart
  rw [elements, split, List.flatten_append, position,
    List.getElem?_append_right (Nat.le_add_right _ _), Nat.add_sub_cancel_left,
    List.flatten_cons, List.getElem?_append_left inside]
  exact inPart

theorem elements_update (change : α → α) :
    (list.update location change).elements =
      list.elements.modify (list.position location) change := by
  obtain ⟨part, inPart, split⟩ := parts_of_read found
  obtain ⟨inside, -⟩ := List.getElem?_eq_some_iff.mp inPart
  have length : (list.parts.take location.part).length = location.part := by
    have whole := congrArg List.length split
    rw [List.length_append, List.length_cons, List.length_drop,
      List.length_take] at whole
    rw [List.length_take]
    omega
  have updated : (list.update location change).parts =
      list.parts.take location.part ++
        part.modify location.element change ::
          list.parts.drop (location.part + 1) := by
    have whole := modify_append_right (list.parts.take location.part)
      (part :: list.parts.drop (location.part + 1)) 0
      (·.modify location.element change)
    rw [length, ← split, Nat.add_zero] at whole
    exact whole
  have spread : list.elements = (list.parts.take location.part).flatten ++
      (part ++ (list.parts.drop (location.part + 1)).flatten) := by
    rw [elements]
    conv_lhs => rw [split]
    simp
  rw [elements, updated, spread, position, modify_append_right,
    modify_append_left inside]
  simp

/-- A change matters only at the element that is there. -/
theorem update_congr {first second : α → α}
    (same : first element = second element) :
    list.update location first = list.update location second := by
  obtain ⟨part, inList, inPart⟩ := Option.bind_eq_some_iff.mp found
  obtain ⟨partInside, rfl⟩ := List.getElem?_eq_some_iff.mp inList
  obtain ⟨inside, rfl⟩ := List.getElem?_eq_some_iff.mp inPart
  simp only [update, mk.injEq]
  rw [List.modify_eq_take_cons_drop partInside,
    List.modify_eq_take_cons_drop partInside,
    List.modify_eq_take_cons_drop inside,
    List.modify_eq_take_cons_drop inside, same]

end NgxList

end OpenAppsec.ListIterator
