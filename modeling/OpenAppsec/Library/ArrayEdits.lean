import Mathlib.Algebra.BigOperators.Group.List.Defs
import Mathlib.Algebra.Ring.Nat
import Mathlib.Tactic.Common

/-!
# Edits of optional arrays

The array operations of a JSON patch: each fails when the array is missing, or
has no item at the index.
-/

namespace ArrayEdits

variable {α : Type*}

variable {index : Nat} {β : Type*} {array : Option (List α)} {result : List α}
variable {old new : α}

/-- Add an item after the last one. -/
def push (item : α) (array : Option (List α)) : Option (List α) :=
  array.map (· ++ [item])

def removeAt (index : Nat) (array : Option (List α)) : Option (List α) :=
  array.bind fun items =>
    if index < items.length then some (items.eraseIdx index) else none

/-- Change the item at an index. -/
def updateAt (index : Nat) (update : α → Option α)
    (array : Option (List α)) : Option (List α) :=
  array.bind fun items =>
    (items[index]?.bind update).map fun item => items.set index item

theorem removeAt_eq_some_iff :
    removeAt index array = some result ↔
      ∃ items, array = some items ∧ index < items.length ∧
        items.eraseIdx index = result := by
  rw [removeAt, Option.bind_eq_some_iff]
  refine exists_congr fun items => and_congr_right fun _ => ?_
  split
  · rename_i inside
    simp [inside]
  · rename_i outside
    simp [outside]

theorem updateAt_eq_some_iff {update : α → Option α} :
    updateAt index update array = some result ↔
      ∃ items item new, array = some items ∧ items[index]? = some item ∧
        update item = some new ∧ items.set index new = result := by
  simp only [updateAt, Option.bind_eq_some_iff, Option.map_eq_some_iff]
  constructor
  · rintro ⟨items, present, new, ⟨item, here, updated⟩, same⟩
    exact ⟨items, item, new, present, here, updated, same⟩
  · rintro ⟨items, item, new, present, here, updated, same⟩
    exact ⟨items, present, new, ⟨item, here, updated⟩, same⟩

theorem push_eq_some_iff {item : α} :
    push item array = some result ↔
      ∃ items, array = some items ∧ items ++ [item] = result := by
  rw [push, Option.map_eq_some_iff]

theorem sum_map_set {size : α → Nat} {items : List α}
    (here : items[index]? = some old) :
    ((items.set index new).map size).sum + size old =
      (items.map size).sum + size new := by
  induction items generalizing index with
  | nil => exact nomatch here
  | cons item items induction =>
      cases index with
      | zero =>
          cases here
          simp only [List.set_cons_zero, List.map_cons, List.sum_cons]
          omega
      | succ index =>
          have rest := induction (by simpa using here)
          simp only [List.set_cons_succ, List.map_cons, List.sum_cons]
          omega

/-- A list before and after the first item of a kind. -/
structure FirstAt (kind : α → Bool) (items before : List α) (item : α)
    (after : List α) : Prop where
  split : items = before ++ item :: after
  ofKind : kind item = true
  none : ∀ other ∈ before, kind other = false

theorem exists_firstAt {kind : α → Bool} {items : List α}
    (found : items.findIdx? kind = some index) :
    ∃ before item after, FirstAt kind items before item after ∧
      before.length = index := by
  obtain ⟨inside, here, earlier⟩ :=
    List.findIdx?_eq_some_iff_getElem.mp found
  refine ⟨items.take index, items[index], items.drop (index + 1),
    ⟨?_, here, ?_⟩, ?_⟩
  · rw [← List.drop_eq_getElem_cons inside, List.take_append_drop]
  · intro other member
    obtain ⟨place, bound, rfl⟩ := List.mem_take_iff_getElem.mp member
    simpa using earlier place (by omega)
  · simp only [List.length_take]
    omega

namespace FirstAt

variable {kind : α → Bool} {items before after : List α} {item : α}

variable (first : FirstAt kind items before item after)

include first

theorem getElem? :
    items[before.length]? = some item := by
  rw [first.split]
  simp

theorem set (new : α) :
    items.set before.length new = before ++ new :: after := by
  rw [first.split]
  simp

theorem eraseIdx :
    items.eraseIdx before.length = before ++ after := by
  rw [first.split, List.eraseIdx_append_of_length_le (Nat.le_refl _)]
  simp

theorem findIdx? :
    items.findIdx? kind = some before.length := by
  rw [first.split, List.findIdx?_append,
    List.findIdx?_eq_none_iff.mpr first.none]
  simp [List.findIdx?_cons, first.ofKind]

theorem find? :
    items.find? kind = some item := by
  rw [first.split, List.find?_append,
    List.find?_eq_none.mpr fun other member => by
      simp [first.none other member]]
  simp [first.ofKind]

theorem of_set (ofKind : kind new = true) :
    FirstAt kind (items.set before.length new) before new after :=
  ⟨first.set new, ofKind, first.none⟩

theorem countP :
    items.countP kind = after.countP kind + 1 := by
  rw [first.split, List.countP_append, List.countP_cons_of_pos first.ofKind,
    List.countP_eq_zero.mpr fun other member => by
      simp [first.none other member]]
  omega

end FirstAt

/-- The first item of a kind does not change with an item of another kind. -/
theorem find?_set_of_not {kind : α → Bool} {items : List α}
    (here : items[index]? = some old) (oldNot : kind old = false)
    (newNot : kind new = false) :
    (items.set index new).find? kind = items.find? kind := by
  induction items generalizing index with
  | nil => rfl
  | cons item items induction =>
      cases index with
      | zero =>
          cases here
          simp [oldNot, newNot]
      | succ index =>
          rw [List.set_cons_succ, List.find?_cons, List.find?_cons,
            induction (by simpa using here)]

theorem find?_eraseIdx_of_not {kind : α → Bool} {items : List α}
    (here : items[index]? = some old) (oldNot : kind old = false) :
    (items.eraseIdx index).find? kind = items.find? kind := by
  induction items generalizing index with
  | nil => rfl
  | cons item items induction =>
      cases index with
      | zero =>
          cases here
          simp [oldNot]
      | succ index =>
          rw [List.eraseIdx_cons_succ, List.find?_cons, List.find?_cons,
            induction (by simpa using here)]

/-- Edits that leave a value as it is do so in order. -/
theorem foldlM_of_fixed {edit : β → α → Option β} {edits : List α}
    (fixed : ∀ item ∈ edits, ∀ value,
      edit value item = some value) (value : β) :
    edits.foldlM edit value = some value := by
  induction edits with
  | nil => rfl
  | cons item edits induction =>
      rw [List.foldlM_cons, fixed item List.mem_cons_self]
      exact induction fun other member =>
        fixed other (List.mem_cons_of_mem _ member)

theorem foldlM_append_of_fixed_left {edit : β → α → Option β} {first : List α}
    (fixed : ∀ item ∈ first, ∀ value,
      edit value item = some value) (second : List α) (value : β) :
    (first ++ second).foldlM edit value = second.foldlM edit value := by
  rw [List.foldlM_append, foldlM_of_fixed fixed]
  rfl

theorem foldlM_append_of_fixed_right {edit : β → α → Option β} {second : List α}
    (fixed : ∀ item ∈ second, ∀ value,
      edit value item = some value) (first : List α) (value : β) :
    (first ++ second).foldlM edit value = first.foldlM edit value := by
  rw [List.foldlM_append]
  cases first.foldlM edit value with
  | none => rfl
  | some next => exact foldlM_of_fixed fixed next

/-- Items that are added one after the other. -/
theorem foldlM_push (items added : List α) :
    added.foldlM (fun array item => (push item array).map some)
        (some items) = some (some (items ++ added)) := by
  induction added generalizing items with
  | nil =>
      rw [List.append_nil]
      rfl
  | cons item added induction =>
      rw [List.foldlM_cons]
      have here : ((push item (some items)).map some) =
          some (some (items ++ [item])) := rfl
      rw [here]
      have rest := induction (items ++ [item])
      rw [List.append_assoc] at rest
      exact rest

/-- Where the results of a partial function over a list come from. -/
theorem exists_of_mem_mapM {f : α → Option β} {items : List α}
    {results : List β} (mapped : items.mapM f = some results) :
    ∀ result ∈ results, ∃ item ∈ items, f item = some result := by
  induction items generalizing results with
  | nil =>
      cases mapped
      nofun
  | cons item items induction =>
      rw [List.mapM_cons] at mapped
      obtain ⟨first, here, rest⟩ := Option.bind_eq_some_iff.mp mapped
      obtain ⟨others, later, same⟩ := Option.bind_eq_some_iff.mp rest
      cases same
      intro result member
      obtain rfl | member := List.mem_cons.mp member
      · exact ⟨item, List.mem_cons_self, here⟩
      · obtain ⟨origin, listed, same⟩ := induction later result member
        exact ⟨origin, List.mem_cons_of_mem _ listed, same⟩

end ArrayEdits
