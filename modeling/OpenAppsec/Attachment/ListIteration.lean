import Mathlib.Order.Nat
import Mathlib.Order.Lattice
import OpenAppsec.Attachment.ListIterator

/-!
# Iterating over nginx lists

The iterator moves to the next part one round late: the round that leaves a
part also passes the first element of the next one.  The place that it stands
at is therefore fixed by the rounds it took, and it is the place of the wanted
element only inside a part.
-/

namespace OpenAppsec.ListIterator

variable {α : Type*}

/-- The calls of `get_list_element` on one iterator. -/
def getListElements (list : NgxList α) :
    List Nat → Iterator → List (Option Location)
  | [], _ => []
  | index :: indexes, iterator =>
      let found := getListElement list index iterator
      found.1 :: getListElements list indexes found.2

def Iterator.location (iterator : Iterator) : Location :=
  { part := iterator.currentPart
    element := iterator.currentPartElementIndex }

namespace NgxList

/-- The element of the whole list with an index, and `NULL` behind the last
one. -/
def Yields (list : NgxList α) (index : Nat) : Option Location → Prop
  | none => list.elements.length ≤ index
  | some location =>
      (list.read location).isSome ∧ list.position location = index

/-- The empty parts among the first ones, apart from the part that belongs to
the list itself. -/
def emptyParts (list : NgxList α) (count : Nat) : Nat :=
  (list.parts.take count).tail.countP List.isEmpty

/-- The rounds of the loop in the first parts: each element takes one, and so
does each empty part that is entered. -/
def rounds (list : NgxList α) (count : Nat) : Nat :=
  (list.parts.take count).flatten.length + list.emptyParts count

/-- An index behind all elements and all rounds for empty parts, or that of an
element which does not begin a later part and has no empty part in between. -/
def Reached (list : NgxList α) (index : Nat) : Prop :=
  list.rounds list.parts.length < index ∨
    ∃ location, (list.read location).isSome ∧ list.position location = index ∧
      (location.part = 0 ∨ 0 < location.element) ∧
      list.emptyParts location.part = 0

variable {list : NgxList α} {part count : Nat}

@[simp]
theorem rounds_zero : list.rounds 0 = 0 := by
  simp [rounds, emptyParts]

theorem nelts_of_lt (inside : part < list.parts.length) :
    list.nelts part = list.parts[part].length := by
  simp [nelts, inside]

theorem parts_positive (list : NgxList α) : 0 < list.parts.length :=
  List.length_pos_of_ne_nil list.nonempty

theorem rounds_one : list.rounds 1 = list.nelts 0 := by
  rw [nelts_of_lt list.parts_positive, rounds, emptyParts,
    List.take_succ_eq_append_getElem list.parts_positive]
  simp

theorem rounds_succ (inside : part < list.parts.length) (later : 0 < part) :
    list.rounds (part + 1) = list.rounds part + max (list.nelts part) 1 := by
  have before : list.parts.take part ≠ [] := by
    simp [list.nonempty, later.ne']
  rw [nelts_of_lt inside, rounds, rounds, emptyParts, emptyParts,
    List.take_succ_eq_append_getElem inside, List.tail_append_of_ne_nil before,
    List.countP_append, List.flatten_append, List.length_append]
  cases list.parts[part] with
  | nil =>
      simp
      omega
  | cons item items =>
      simp
      omega

theorem rounds_lt (inside : part < list.parts.length) (later : 0 < part) :
    list.rounds part < list.rounds (part + 1) := by
  rw [rounds_succ inside later]
  omega

theorem rounds_mono {first second : Nat} (before : first ≤ second)
    (inside : second ≤ list.parts.length) :
    list.rounds first ≤ list.rounds second := by
  induction second, before using Nat.le_induction with
  | base => exact Nat.le_refl _
  | succ second before induction =>
      apply (induction (by omega)).trans
      cases second with
      | zero => simp
      | succ second => exact (rounds_lt inside second.succ_pos).le

theorem rounds_length :
    list.rounds list.parts.length =
      list.elements.length + list.emptyParts list.parts.length := by
  rw [rounds, List.take_length]
  rfl

theorem rounds_add_element (location : Location) :
    list.rounds location.part + location.element =
      list.position location + list.emptyParts location.part := by
  rw [rounds, position]
  omega

theorem read_isSome_iff {location : Location} :
    (list.read location).isSome ↔
      location.part < list.parts.length ∧
        location.element < list.nelts location.part := by
  by_cases inside : location.part < list.parts.length
  · simp [read, nelts, inside]
  · simp [read, inside]

end NgxList

/-- What holds of an iterator between its calls. -/
structure Iterator.Stands (list : NgxList α) (iterator : Iterator) : Prop where
  inside : iterator.currentPart < list.parts.length
  counted : iterator.currentListElementIndex =
    list.rounds iterator.currentPart + iterator.currentPartElementIndex
  entered : iterator.currentPart = 0 ∨ 0 < iterator.currentPartElementIndex
  within : iterator.currentListElementIndex ≤
    list.rounds (iterator.currentPart + 1)

variable {list : NgxList α} {iterator other : Iterator} {index : Nat}

theorem stands_initListIterator : initListIterator.Stands list where
  inside := list.parts_positive
  counted := by simp [initListIterator]
  entered := .inl rfl
  within := Nat.zero_le _

namespace Iterator.Stands

variable (stands : iterator.Stands list)

include stands

theorem passed_iff :
    list.nelts iterator.currentPart ≤ iterator.currentPartElementIndex ↔
      iterator.currentListElementIndex =
        list.rounds (iterator.currentPart + 1) := by
  obtain ⟨inside, counted, entered, within⟩ := stands
  cases place : iterator.currentPart with
  | zero =>
      rw [place] at counted within
      rw [NgxList.rounds_zero] at counted
      rw [NgxList.rounds_one] at within ⊢
      omega
  | succ part =>
      rw [place] at inside counted entered within
      rw [NgxList.rounds_succ inside part.succ_pos] at within ⊢
      omega

/-- The rounds fix the place. -/
theorem unique (others : other.Stands list)
    (same : iterator.currentListElementIndex =
      other.currentListElementIndex) :
    iterator = other := by
  have noEarlier {first second : Iterator} (firstStands : first.Stands list)
      (secondStands : second.Stands list)
      (before : first.currentPart < second.currentPart) :
      first.currentListElementIndex < second.currentListElementIndex := by
    have between := NgxList.rounds_mono (Nat.add_one_le_of_lt before)
      secondStands.inside.le
    have entered := secondStands.entered.resolve_left
      (Nat.ne_of_gt (Nat.zero_lt_of_lt before))
    have within := firstStands.within
    have counted := secondStands.counted
    omega
  have samePart : iterator.currentPart = other.currentPart := by
    rcases Nat.lt_trichotomy iterator.currentPart other.currentPart with
      before | samePart | behind
    · exact absurd same (noEarlier stands others before).ne
    · exact samePart
    · exact absurd same (noEarlier others stands behind).ne'
  have counted := stands.counted
  have otherCounted := others.counted
  rw [samePart] at counted
  have sameElement : iterator.currentPartElementIndex =
      other.currentPartElementIndex := by
    omega
  obtain ⟨part, element, place⟩ := iterator
  obtain ⟨otherPart, otherElement, otherPlace⟩ := other
  simp_all

theorem le_rounds :
    iterator.currentListElementIndex ≤ list.rounds list.parts.length :=
  stands.within.trans (NgxList.rounds_mono stands.inside le_rfl)

theorem last_of_eq_rounds
    (spent : iterator.currentListElementIndex =
      list.rounds list.parts.length) :
    list.parts.length ≤ iterator.currentPart + 1 := by
  by_contra more
  have inside := Nat.lt_of_not_le more
  have step := NgxList.rounds_lt inside (Nat.succ_pos _)
  have later := NgxList.rounds_mono (Nat.add_one_le_of_lt inside) le_rfl
  have within := stands.within
  omega

/-- The loop takes its rounds until there are no more. -/
theorem advance (rounds : Nat) :
    (advance list rounds iterator).Stands list ∧
      (ListIterator.advance list rounds iterator).currentListElementIndex =
        min (iterator.currentListElementIndex + rounds)
          (list.rounds list.parts.length) := by
  induction rounds generalizing iterator with
  | zero =>
      exact ⟨stands, (min_eq_left stands.le_rounds).symm⟩
  | succ rounds induction =>
      have passed := stands.passed_iff
      have counted := stands.counted
      have entered := stands.entered
      have within := stands.within
      rw [ListIterator.advance]
      by_cases spent : list.nelts iterator.currentPart ≤
          iterator.currentPartElementIndex
      · have atEnd := passed.mp spent
        rw [if_pos spent]
        by_cases last : list.parts.length ≤ iterator.currentPart + 1
        · rw [if_pos last]
          have whole : iterator.currentPart + 1 = list.parts.length :=
            Nat.le_antisymm stands.inside last
          rw [whole] at atEnd
          refine ⟨stands, ?_⟩
          omega
        · -- Entering the next part already counts its first element.
          have inside := Nat.lt_of_not_le last
          have more := NgxList.rounds_lt inside (Nat.succ_pos _)
          rw [if_neg last]
          obtain ⟨after, reached⟩ := @induction
            { currentPart := iterator.currentPart + 1
              currentPartElementIndex := 1
              currentListElementIndex :=
                iterator.currentListElementIndex + 1 }
            ⟨inside, by simp [atEnd], .inr Nat.one_pos, by
              simp only
              omega⟩
          refine ⟨after, reached.trans ?_⟩
          simp [Nat.add_assoc, Nat.add_comm 1]
      · have before := mt passed.mpr spent
        rw [if_neg spent]
        obtain ⟨after, reached⟩ := @induction
          { iterator with
            currentPartElementIndex := iterator.currentPartElementIndex + 1
            currentListElementIndex :=
              iterator.currentListElementIndex + 1 }
          ⟨stands.inside, by simp only; omega, .inr (Nat.succ_pos _), by
            simp only
            omega⟩
        refine ⟨after, reached.trans ?_⟩
        simp [Nat.add_assoc, Nat.add_comm 1]

/-- A call for an index that is not behind the iterator. -/
theorem getListElement (ahead : iterator.currentListElementIndex ≤ index) :
    ∃ after : Iterator, after.Stands list ∧
      after.currentListElementIndex =
        min index (list.rounds list.parts.length) ∧
      getListElement list index iterator =
        (if list.rounds list.parts.length < index then none
          else some after.location, after) := by
  obtain ⟨after, reached⟩ :=
    stands.advance (index - iterator.currentListElementIndex)
  rw [Nat.add_sub_cancel' ahead] at reached
  refine ⟨_, after, reached, ?_⟩
  rw [ListIterator.getListElement]
  by_cases past : list.rounds list.parts.length < index
  · have spent := reached.trans (min_eq_right past.le)
    rw [if_pos past]
    exact if_pos ⟨after.last_of_eq_rounds spent, spent.trans_lt past⟩
  · rw [if_neg past]
    apply if_neg
    omega

end Iterator.Stands

theorem Iterator.Stands.yields_location_iff (stands : iterator.Stands list)
    (place : iterator.currentListElementIndex = index) :
    list.Yields index (some iterator.location) ↔ list.Reached index := by
  have counted : index =
      list.rounds iterator.location.part + iterator.location.element :=
    place.symm.trans stands.counted
  rw [NgxList.rounds_add_element] at counted
  constructor
  · rintro ⟨element, position⟩
    exact .inr ⟨iterator.location, element, position, stands.entered, by omega⟩
  · rintro (past | ⟨location, element, position, entered, noEmpty⟩)
    · have inside := stands.le_rounds
      omega
    · obtain ⟨inside, inPart⟩ := NgxList.read_isSome_iff.mp element
      have rounds := list.rounds_add_element location
      let wanted : Iterator :=
        { currentPart := location.part
          currentPartElementIndex := location.element
          currentListElementIndex := index }
      have within : index ≤ list.rounds (location.part + 1) := by
        rcases Nat.eq_zero_or_pos location.part with first | later
        · rw [first] at rounds inPart ⊢
          rw [NgxList.rounds_zero] at rounds
          rw [NgxList.rounds_one]
          omega
        · rw [NgxList.rounds_succ inside later]
          omega
      have wantedStands : wanted.Stands list :=
        ⟨inside, by simp only [wanted]; omega, entered, within⟩
      have same : iterator = wanted := stands.unique wantedStands place
      rw [same]
      exact ⟨element, position⟩

theorem yields_getListElement_iff (stands : iterator.Stands list)
    (ahead : iterator.currentListElementIndex ≤ index) :
    list.Yields index (getListElement list index iterator).1 ↔
      list.Reached index := by
  obtain ⟨after, afterStands, reached, called⟩ := stands.getListElement ahead
  rw [called]
  by_cases past : list.rounds list.parts.length < index
  · have total := list.rounds_length
    have behind : list.elements.length ≤ index := by omega
    simpa [past, NgxList.Reached, NgxList.Yields] using behind
  · simp only [if_neg past]
    apply afterStands.yields_location_iff
    omega

theorem yields_getListElements_iff {indexes : List Nat}
    (stands : iterator.Stands list) (sorted : indexes.Pairwise (· ≤ ·))
    (ahead : ∀ index ∈ indexes, iterator.currentListElementIndex ≤ index) :
    List.Forall₂ list.Yields indexes (getListElements list indexes iterator) ↔
      ∀ index ∈ indexes, list.Reached index := by
  induction indexes generalizing iterator with
  | nil => simp [getListElements]
  | cons index indexes induction =>
      obtain ⟨first, later⟩ := List.pairwise_cons.mp sorted
      have here := ahead index List.mem_cons_self
      obtain ⟨after, afterStands, reached, called⟩ :=
        stands.getListElement here
      have afterAhead (next : Nat) (member : next ∈ indexes) :
          after.currentListElementIndex ≤ next := by
        rw [reached]
        exact (min_le_left _ _).trans (first next member)
      simp only [getListElements, List.forall₂_cons,
        yields_getListElement_iff stands here, List.forall_mem_cons]
      rw [called, induction afterStands later afterAhead]

/-- The calls return the elements, and `NULL` behind the last one, just when
all indexes are reached. -/
theorem list_iterated_iff (list : NgxList α) (indexes : List Nat)
    (sorted : indexes.Pairwise (· ≤ ·)) :
    List.Forall₂ list.Yields indexes
        (getListElements list indexes initListIterator) ↔
      ∀ index ∈ indexes, list.Reached index :=
  yields_getListElements_iff stands_initListIterator sorted
    (fun _ _ => Nat.zero_le _)

/-- Two parts: the second one has an element behind its first, which is missed. -/
def twoParts : NgxList Nat where
  parts := [[10, 11], [12, 13]]
  nonempty := by simp

theorem twoParts_iterated :
    List.Forall₂ twoParts.Yields [0, 1, 3, 5]
      (getListElements twoParts [0, 1, 3, 5] initListIterator) := by
  apply (list_iterated_iff twoParts [0, 1, 3, 5] (by decide)).mpr
  have element (location : Location)
      (here : (twoParts.read location).isSome)
      (entered : location.part = 0 ∨ 0 < location.element)
      (noEmpty : twoParts.emptyParts location.part = 0) :
      twoParts.Reached (twoParts.position location) :=
    .inr ⟨location, here, rfl, entered, noEmpty⟩
  simp only [List.forall_mem_cons]
  refine ⟨element ⟨0, 0⟩ rfl (.inl rfl) rfl,
    element ⟨0, 1⟩ rfl (.inl rfl) rfl,
    element ⟨1, 1⟩ rfl (.inr Nat.one_pos) rfl, .inl (by decide), by simp⟩

/-- The first element of the second part is taken to be behind the first
part. -/
theorem first_of_later_part_missed :
    ¬∀ (list : NgxList Nat) (indexes : List Nat),
      indexes.Pairwise (· ≤ ·) →
        List.Forall₂ list.Yields indexes
          (getListElements list indexes initListIterator) := by
  intro iterated
  have yields := iterated twoParts [2] (by decide)
  have behind : getListElements twoParts [2] initListIterator =
      [some ⟨0, 2⟩] := rfl
  rw [behind, List.forall₂_cons] at yields
  exact absurd yields.1.1 (by decide)

end OpenAppsec.ListIterator
