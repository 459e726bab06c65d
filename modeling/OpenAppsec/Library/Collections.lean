import Mathlib.Tactic.Common
import Mathlib.Data.List.Induction

/-!
# Items collected under a limit

Items are put into places one after the other as long as their number is at
most a limit.  What a place is given is up to the place and the item; some
places are given nothing, but each item counts.
-/

namespace Collections

variable {α β : Type*}

/-- The places that were given something, and the number of items. -/
structure Collection (β : Type*) where
  places : Nat → Option β
  count : Nat

/-- No item so far. -/
def Collection.empty : Collection β where
  places := fun _ => none
  count := 0

/-- Give an item to the next place. -/
def Collection.put (store : Nat → α → Option β) (collection : Collection β)
    (item : α) : Collection β where
  places := fun place =>
    if place = collection.count then
      (store place item).or (collection.places place)
    else
      collection.places place
  count := collection.count + 1

/-- Give an item to the next place while the limit lets it. -/
def Collection.add (limit : Nat) (store : Nat → α → Option β)
    (collection : Collection β) (item : α) : Collection β :=
  if limit < collection.count then collection else collection.put store item

variable {limit : Nat} {store : Nat → α → Option β} {items : List α}

theorem foldl_add_of_full {collection : Collection β}
    (full : limit < collection.count) :
    items.foldl (Collection.add limit store) collection = collection := by
  induction items with
  | nil => rfl
  | cons item items induction =>
      rw [List.foldl_cons, Collection.add, if_pos full, induction]

/-- The collection of a list of items. -/
def collect (limit : Nat) (store : Nat → α → Option β) (items : List α) :
    Collection β :=
  items.foldl (Collection.add limit store) .empty

theorem count_collect :
    (collect limit store items).count = min items.length (limit + 1) := by
  induction items using List.reverseRecOn with
  | nil => simp [collect, Collection.empty]
  | append_singleton items item induction =>
      simp only [collect] at induction
      simp only [collect, List.foldl_append, List.foldl_cons, List.foldl_nil,
        Collection.add, List.length_append, List.length_singleton]
      split_ifs with full
      · omega
      · simp only [Collection.put]
        omega

/-- Each place up to the limit is given what its item leaves there. -/
theorem places_collect (place : Nat) :
    (collect limit store items).places place =
      if place ≤ limit then items[place]?.bind (store place) else none := by
  induction items using List.reverseRecOn with
  | nil => simp [collect, Collection.empty]
  | append_singleton items item induction =>
      have count := @count_collect _ _ limit store items
      simp only [collect] at induction count
      simp only [collect, List.foldl_append, List.foldl_cons, List.foldl_nil,
        Collection.add]
      by_cases full : limit < (items.foldl (Collection.add limit store)
          Collection.empty).count
      · rw [if_pos full, induction]
        by_cases inside : place ≤ limit
        · have within : place < items.length := by omega
          rw [if_pos inside, if_pos inside, List.getElem?_append_left within]
        · rw [if_neg inside, if_neg inside]
      · have counted : (items.foldl (Collection.add limit store)
            Collection.empty).count = items.length := by omega
        rw [if_neg full]
        simp only [Collection.put, counted]
        by_cases last : place = items.length
        · have inside : place ≤ limit := by omega
          have unused : (items.foldl (Collection.add limit store)
              Collection.empty).places place = none := by
            rw [induction, last]
            simp
          rw [if_pos last, if_pos inside, unused, last]
          simp
        · rw [if_neg last, induction]
          by_cases within : place < items.length
          · rw [List.getElem?_append_left within]
          · have past : (items ++ [item]).length ≤ place := by
              simp
              omega
            rw [List.getElem?_eq_none past,
              List.getElem?_eq_none (Nat.le_of_not_lt within)]

/-- The places hold the items, as many as there is room for, and their number
is the count. -/
structure Holds (capacity : Nat) (items : List β)
    (collection : Collection β) : Prop where
  inside : ∀ place, capacity ≤ place → collection.places place = none
  counted : ∀ place,
    (collection.places place).isSome ↔ place < collection.count
  listed : ∀ place, place < capacity →
    collection.places place = items[place]?

/-- Items that fit are held if each of them is in its place. -/
theorem Holds.of_places {capacity : Nat} {items : List β}
    {collection : Collection β} (fits : items.length ≤ capacity)
    (places : ∀ place, collection.places place = items[place]?)
    (count : collection.count = items.length) :
    Holds capacity items collection where
  inside := by
    intro place past
    rw [places]
    exact List.getElem?_eq_none (Nat.le_trans fits past)
  counted := by
    intro place
    rw [places, count]
    simp
  listed := fun place _ => places place

end Collections
