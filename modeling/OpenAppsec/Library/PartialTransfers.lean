import Mathlib.Data.List.Range
import Mathlib.Tactic.Common

/-!
# Transfers in parts

A buffer is read or written in several parts, each at the place where a
pointer stands.  What was transferred is kept as the list of the places of its
bytes, relative to the start of the buffer, so that a place may lie in front of
it or behind its end.
-/

namespace PartialTransfers

/-- The places of so many bytes, from `start` on. -/
def stretch (start : Int) (count : Nat) : List Int :=
  (List.range count).map fun place : Nat => start + place

@[simp] theorem stretch_zero (start : Int) : stretch start 0 = [] :=
  rfl

@[simp] theorem length_stretch (start : Int) (count : Nat) :
    (stretch start count).length = count := by
  simp [stretch]

@[simp] theorem mem_stretch {start place : Int} {count : Nat} :
    place ∈ stretch start count ↔ start ≤ place ∧ place < start + count := by
  simp only [stretch, List.mem_map, List.mem_range]
  constructor
  · rintro ⟨index, below, rfl⟩
    omega
  · rintro ⟨lower, upper⟩
    exact ⟨(place - start).toNat, by omega, by omega⟩

theorem stretch_add (start : Int) (first second : Nat) :
    stretch start (first + second) =
      stretch start first ++ stretch (start + first) second := by
  simp [stretch, List.range_add, Function.comp_def, Int.add_assoc]

/-- The bytes of a buffer, each once and in order. -/
def whole (size : Nat) : List Int :=
  stretch 0 size

theorem length_whole (size : Nat) : (whole size).length = size :=
  length_stretch 0 size

theorem mem_whole {place : Int} {size : Nat} :
    place ∈ whole size ↔ 0 ≤ place ∧ place < size := by
  simp [whole]

theorem whole_eq_whole_iff {first second : Nat} :
    whole first = whole second ↔ first = second := by
  constructor
  · intro same
    simpa [length_whole] using congrArg List.length same
  · exact congrArg whole

theorem whole_append (first second : Nat) :
    whole first ++ stretch first second = whole (first + second) := by
  simp [whole, stretch_add]

/-- The transfer began at the start of the buffer and never left the order. -/
def Straight (places : List Int) : Prop :=
  places = whole places.length

theorem straight_whole (size : Nat) : Straight (whole size) := by
  rw [Straight, length_whole]

/-- A part at another place than the next one leaves the order. -/
theorem not_straight_of_part {places : List Int} {start : Int} {count : Nat}
    (some : 0 < count) (elsewhere : start ≠ places.length) :
    ¬Straight (places ++ stretch start count) := by
  intro straight
  have split : places ++ stretch start count =
      whole places.length ++ stretch places.length count := by
    rw [whole_append]
    refine straight.trans ?_
    rw [List.length_append, length_stretch]
  have parts := (List.append_inj split (length_whole _).symm).2
  obtain ⟨rest, rfl⟩ : ∃ rest, count = rest + 1 := ⟨count - 1, by omega⟩
  have first : start = places.length := by
    simpa [stretch, List.range_succ_eq_map] using congrArg List.head? parts
  exact elsewhere first

section Parts

variable {α : Type*} {Holds : List α → α → Prop}

/-- Every part meets a condition that may depend on those before it. -/
def ForallParts (Holds : List α → α → Prop) (parts : List α) : Prop :=
  ∀ before part after, parts = before ++ part :: after → Holds before part

@[simp] theorem forallParts_nil : ForallParts Holds [] := by
  intro before part after split
  simp at split

theorem forallParts_cons {part : α} {parts : List α} :
    ForallParts Holds (part :: parts) ↔
      Holds [] part ∧
        ForallParts (fun before => Holds (part :: before)) parts := by
  constructor
  · intro all
    refine ⟨all [] part parts rfl, ?_⟩
    intro before later after split
    exact all (part :: before) later after (by rw [split]; rfl)
  · rintro ⟨first, rest⟩ before later after split
    cases before with
    | nil =>
        cases split
        exact first
    | cons head before =>
        cases split
        exact rest before later after rfl

theorem forallParts_congr {Other : List α → α → Prop} {parts : List α}
    (same : ∀ before part, Holds before part ↔ Other before part) :
    ForallParts Holds parts ↔ ForallParts Other parts := by
  simp only [ForallParts, same]

theorem forallParts_of_forall {parts : List α}
    (all : ∀ before part, Holds before part) : ForallParts Holds parts :=
  fun before part _ _ => all before part

end Parts

end PartialTransfers
