import Mathlib.Logic.Function.Basic
import Mathlib.Tactic.Common

/-!
# Mutexes

A family of mutexes is the map from the name of a mutex to the party that owns
it.  The parties are in sections of the mutexes; as long as a party enters a
section only when it gets the mutex, no two parties are in one section.
-/

namespace Mutexes

variable {ι κ : Type*}

/-- The owners of the mutexes `ι` among the parties `κ`. -/
abbrev Owners (ι κ : Type*) := ι → Option κ

/-- A party inside the section of a mutex owns the mutex. -/
def Guarded (owner : Owners ι κ) (inside : κ → ι → Prop) : Prop :=
  ∀ party name, inside party name → owner name = some party

namespace Guarded

variable {owner : Owners ι κ} {inside after : κ → ι → Prop}

variable (guarded : Guarded owner inside)

include guarded

theorem exclusive {first second : κ} {name : ι}
    (firstInside : inside first name) (secondInside : inside second name) :
    first = second := by
  have owned := guarded first name firstInside
  rw [guarded second name secondInside] at owned
  exact (Option.some.inj owned).symm

theorem mono (fewer : ∀ party name, after party name → inside party name) :
    Guarded owner after :=
  fun party name isAfter => guarded party name (fewer party name isAfter)

variable [DecidableEq ι]

/-- A party that gets a free mutex may enter its section. -/
theorem lock {name : ι} {party : κ} (free : owner name = none)
    (enters : ∀ other section', after other section' →
      inside other section' ∨ (other = party ∧ section' = name)) :
    Guarded (Function.update owner name (some party)) after := by
  intro other section' isAfter
  obtain before | ⟨rfl, rfl⟩ := enters other section' isAfter
  · have owned := guarded other section' before
    have different : section' ≠ name := by
      rintro rfl
      rw [free] at owned
      cases owned
    rw [Function.update_of_ne different]
    exact owned
  · rw [Function.update_self]

/-- A party that has left the section of its mutex may give it back. -/
theorem unlock {name : ι} {party : κ} (held : owner name = some party)
    (leaves : ∀ other section', after other section' →
      inside other section' ∧ ¬(other = party ∧ section' = name)) :
    Guarded (Function.update owner name none) after := by
  intro other section' isAfter
  obtain ⟨before, apart⟩ := leaves other section' isAfter
  have owned := guarded other section' before
  have different : section' ≠ name := by
    rintro rfl
    rw [held] at owned
    exact apart ⟨(Option.some.inj owned).symm, rfl⟩
  rw [Function.update_of_ne different]
  exact owned

end Guarded

end Mutexes
