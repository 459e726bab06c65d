import Mathlib.Algebra.Ring.Nat
import OpenAppsec.Library.ArrayEdits
import Mathlib.Data.List.Perm.Subperm
import Mathlib.Data.List.Nodup
import Mathlib.Algebra.BigOperators.Group.List.Basic

/-!
# Removals at places listed beforehand

The places of a kind of item are listed once, and the items are then removed
one by one.  What stands behind a removed item moves, so only the removal from
the last place to the first takes out what was listed.
-/

namespace ArrayEdits

variable {α : Type*} {kind : α → Bool}

variable {items result : List α} {places : List Nat} {place : Nat}

/-- The places of a kind of item, the first one first. -/
def positions (kind : α → Bool) : List α → List Nat
  | [] => []
  | item :: items =>
      if kind item then 0 :: (positions kind items).map (· + 1)
      else (positions kind items).map (· + 1)

/-- Remove at one place after the other. -/
def removeAll (places : List Nat) (items : List α) : Option (List α) :=
  places.foldlM (fun items place => removeAt place (some items)) items

theorem removeAt_some :
    removeAt place (some items) =
      if place < items.length then some (items.eraseIdx place) else none :=
  rfl

theorem removeAll_cons_eq_some_iff :
    removeAll (place :: places) items = some result ↔
      place < items.length ∧
        removeAll places (items.eraseIdx place) = some result := by
  rw [removeAll, List.foldlM_cons, removeAt_some]
  split
  · rename_i inside
    exact ⟨fun later => ⟨inside, later⟩, fun both => both.2⟩
  · rename_i outside
    exact ⟨nofun, fun both => absurd both.1 outside⟩

theorem removeAll_append {first second : List Nat} :
    removeAll (first ++ second) items =
      (removeAll first items).bind (removeAll second) := by
  rw [removeAll, List.foldlM_append]
  rfl

theorem filterMap_zipIdx {β : Type*} (kind : α → Bool) (items : List α)
    (start : Nat) (listed : Nat → β) :
    (items.zipIdx start).filterMap (fun entry =>
        if kind entry.1 then some (listed entry.2) else none) =
      (positions kind items).map fun place => listed (start + place) := by
  induction items generalizing start with
  | nil => rfl
  | cons item items induction =>
      have shifted : (positions kind items).map
          (fun place => listed (start + 1 + place)) =
            ((positions kind items).map (· + 1)).map
              fun place => listed (start + place) := by
        rw [List.map_map]
        apply List.map_congr_left
        intro place _
        exact congrArg listed (by simp; omega)
      rw [List.zipIdx_cons, List.filterMap_cons, induction, positions, shifted]
      cases kind item with
      | true => simp
      | false => simp

theorem positions_append {first second : List α} :
    positions kind (first ++ second) =
      positions kind first ++
        (positions kind second).map (· + first.length) := by
  induction first with
  | nil => simp [positions]
  | cons item first induction =>
      have shifted : ((positions kind second).map (· + first.length)).map
          (· + 1) = (positions kind second).map
            (· + (item :: first).length) := by
        rw [List.map_map]
        apply List.map_congr_left
        intro place _
        simp
        omega
      rw [List.cons_append, positions, induction, List.map_append, shifted,
        positions]
      split <;> rfl

theorem length_positions :
    (positions kind items).length = items.countP kind := by
  induction items with
  | nil => rfl
  | cons item items induction =>
      rw [positions, List.countP_cons]
      split <;> simp [induction]

theorem mem_positions_iff :
    place ∈ positions kind items ↔
      ∃ item, items[place]? = some item ∧ kind item = true := by
  induction items generalizing place with
  | nil => simp [positions]
  | cons item items induction =>
      have later {place : Nat} :
          place ∈ (positions kind items).map (· + 1) ↔
            ∃ earlier, earlier ∈ positions kind items ∧
              earlier + 1 = place :=
        List.mem_map
      cases place with
      | zero =>
          rw [positions]
          cases ofKind : kind item <;> simp [ofKind]
      | succ place =>
          rw [List.getElem?_cons_succ, ← induction, positions]
          cases kind item <;> simp

theorem positions_sorted (kind : α → Bool) (items : List α) :
    (positions kind items).Pairwise (· < ·) := by
  induction items with
  | nil => exact List.Pairwise.nil
  | cons item items induction =>
      have shifted :
          ((positions kind items).map (· + 1)).Pairwise (· < ·) :=
        induction.map _ fun _ _ below => Nat.succ_lt_succ below
      rw [positions]
      split
      · exact List.pairwise_cons.mpr ⟨by simp, shifted⟩
      · exact shifted

theorem removeAll_reverse_positions :
    removeAll (positions kind items).reverse items =
      some (items.filter fun item => !kind item) := by
  have shifted (item : α) {places : List Nat} {items result : List α}
      (removed : removeAll places items = some result) :
      removeAll (places.map (· + 1)) (item :: items) =
        some (item :: result) := by
    induction places generalizing items with
    | nil =>
        cases removed
        rfl
    | cons place places induction =>
        obtain ⟨inside, later⟩ := removeAll_cons_eq_some_iff.mp removed
        rw [List.map_cons, removeAll_cons_eq_some_iff]
        exact ⟨by simpa using inside, induction later⟩
  induction items with
  | nil => rfl
  | cons item items induction =>
      have later := shifted item induction
      rw [List.map_reverse] at later
      rw [positions]
      cases ofKind : kind item with
      | true =>
          rw [if_pos rfl, List.reverse_cons, removeAll_append, later]
          simp [removeAll, removeAt_some, ofKind]
      | false =>
          rw [if_neg nofun, later]
          simp [ofKind]

theorem countP_le_of_removeAll (kind : α → Bool)
    (removed : removeAll places items = some result) :
    items.countP kind ≤ result.countP kind + places.length := by
  induction places generalizing items with
  | nil =>
      cases removed
      exact Nat.le_refl _
  | cons place places induction =>
      obtain ⟨inside, later⟩ := removeAll_cons_eq_some_iff.mp removed
      have rest := induction later
      have split : items.take place ++ items[place] :: items.drop (place + 1) =
          items := by
        rw [← List.drop_eq_getElem_cons inside, List.take_append_drop]
      have erased := List.eraseIdx_eq_take_drop_succ items place
      have one : items.countP kind ≤ (items.eraseIdx place).countP kind + 1 := by
        rw [erased]
        conv_lhs => rw [← split]
        rw [List.countP_append, List.countP_append, List.countP_cons]
        split <;> omega
      rw [List.length_cons]
      omega

/-- Removals that take out a kind of item, and as many as there are, are made
at places that sum to no more than the places of the kind, and to as much
only from the last place to the first. -/
theorem eq_reverse_of_removeAll (removed : removeAll places items = some result)
    (cleared : result.countP kind = 0)
    (length : items.countP kind = places.length) :
    places.sum ≤ (positions kind items).sum ∧
      (places.sum = (positions kind items).sum →
        places = (positions kind items).reverse) := by
  induction places generalizing items with
  | nil =>
      have none : positions kind items = [] :=
        List.length_eq_zero_iff.mp (length_positions.trans length)
      rw [none]
      exact ⟨Nat.le_refl _, fun _ => rfl⟩
  | cons place places induction =>
      obtain ⟨inside, later⟩ := removeAll_cons_eq_some_iff.mp removed
      have split : items = items.take place ++
          items[place] :: items.drop (place + 1) := by
        rw [← List.drop_eq_getElem_cons inside, List.take_append_drop]
      have size : (items.take place).length = place := by
        rw [List.length_take]
        omega
      have erased := List.eraseIdx_eq_take_drop_succ items place
      generalize items.take place = before at split size erased
      generalize items.drop (place + 1) = after at split erased
      generalize items[place] = item at split
      subst split
      subst size
      rw [erased] at later
      have bound := countP_le_of_removeAll kind later
      rw [List.countP_append] at bound
      rw [List.countP_append, List.countP_cons, List.length_cons] at length
      have ofKind : kind item = true := by
        by_contra differs
        rw [if_neg differs] at length
        omega
      rw [if_pos ofKind] at length
      obtain ⟨atMost, reversed⟩ := induction later (by
        rw [List.countP_append]
        omega)
      have sum : (positions kind (before ++ item :: after)).sum =
          (positions kind (before ++ after)).sum + before.length +
            after.countP kind := by
        rw [positions_append, positions_append, positions, if_pos ofKind,
          ← length_positions]
        simp only [List.sum_append, List.map_cons, List.sum_cons, List.map_map,
          Nat.zero_add]
        have moved (places : List Nat) :
            (places.map ((· + before.length) ∘ (· + 1))).sum =
              (places.map (· + before.length)).sum + places.length := by
          induction places with
          | nil => rfl
          | cons place places induction =>
              simp only [List.map_cons, List.sum_cons, induction,
                List.length_cons, Function.comp_apply]
              omega
        rw [moved]
        omega
      rw [List.sum_cons, sum]
      refine ⟨by omega, fun same => ?_⟩
      have none : positions kind after = [] :=
        List.length_eq_zero_iff.mp (length_positions.trans (by omega))
      have rest := reversed (by omega)
      rw [positions_append, none, List.map_nil, List.append_nil] at rest
      rw [positions_append, positions, if_pos ofKind, none, rest]
      simp

/-- Places of a kind, each listed once, are removed as meant exactly if they
are all of that kind, from the last to the first. -/
theorem removeAll_eq_filter_iff (once : places.Nodup)
    (ofKind : ∀ place ∈ places, place ∈ positions kind items) :
    removeAll places items = some (items.filter fun item => !kind item) ↔
      places = (positions kind items).reverse := by
  constructor
  · intro removed
    have cleared :
        (items.filter fun item => !kind item).countP kind = 0 := by
      rw [List.countP_eq_zero]
      intro item member
      simpa using (List.mem_filter.mp member).2
    have subperm : places.Subperm (positions kind items) :=
      once.subperm ofKind
    have few := subperm.length_le
    have many := countP_le_of_removeAll kind removed
    rw [length_positions] at few
    have length : items.countP kind = places.length := by omega
    have permuted : places.Perm (positions kind items) :=
      subperm.perm_of_length_le (Nat.le_of_eq (length_positions.trans length))
    exact (eq_reverse_of_removeAll removed cleared length).2
      permuted.sum_eq
  · rintro rfl
    exact removeAll_reverse_positions

/-- The places of a kind, the first one first, are removed as meant exactly if
there is one at most. -/
theorem removeAll_positions_eq_filter_iff :
    removeAll (positions kind items) items =
        some (items.filter fun item => !kind item) ↔
      items.countP kind ≤ 1 := by
  have sorted := positions_sorted kind items
  rw [removeAll_eq_filter_iff (sorted.imp Nat.ne_of_lt) fun _ member => member,
    ← length_positions]
  constructor
  · intro same
    have falls : (positions kind items).Pairwise (· > ·) := by
      rw [same]
      exact List.pairwise_reverse.mpr sorted
    match listed : positions kind items with
    | [] => simp
    | [_] => simp
    | first :: second :: rest =>
        rw [listed] at sorted falls
        have up := (List.pairwise_cons.mp sorted).1 second List.mem_cons_self
        have down := (List.pairwise_cons.mp falls).1 second List.mem_cons_self
        omega
  · intro few
    match listed : positions kind items with
    | [] => rfl
    | [_] => rfl
    | _ :: _ :: _ =>
        rw [listed] at few
        simp at few

/-- Each removal finds an item at its place, whatever the item is. -/
def InBounds (places : List Nat) (length : Nat) : Prop :=
  ∀ turn place, places[turn]? = some place → place + turn < length

theorem isSome_removeAll_iff :
    (removeAll places items).isSome = true ↔
      InBounds places items.length := by
  induction places generalizing items with
  | nil => simp [removeAll, InBounds]
  | cons place places induction =>
      have step : (removeAll (place :: places) items).isSome = true ↔
          place < items.length ∧
            (removeAll places (items.eraseIdx place)).isSome = true := by
        simp only [Option.isSome_iff_exists, removeAll_cons_eq_some_iff,
          exists_and_left]
      rw [step]
      constructor
      · rintro ⟨inside, later⟩ turn other here
        cases turn with
        | zero =>
            cases here
            exact inside
        | succ turn =>
            have bound := induction.mp later turn other here
            rw [List.length_eraseIdx_of_lt inside] at bound
            omega
      · intro bounds
        have inside : place < items.length := bounds 0 place rfl
        refine ⟨inside, induction.mpr fun turn other here => ?_⟩
        have bound := bounds (turn + 1) other here
        rw [List.length_eraseIdx_of_lt inside]
        omega

end ArrayEdits
