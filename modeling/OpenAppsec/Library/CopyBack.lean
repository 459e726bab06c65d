import Mathlib.Tactic.Common

/-!
# Copying a log back

A log has an entry for each of the first items, and ends where an entry is
missing.  Its entries are copied over the items, one after the other.
-/

namespace CopyBack

variable {α : Type*}

/-- Copy the entries up to the first gap over the items. -/
def copyBack : List α → List (Option α) → List α
  | _ :: items, some entry :: log => entry :: copyBack items log
  | items, _ => items

/-- The entries up to the first gap are the items. -/
def Agrees : List α → List (Option α) → Prop
  | item :: items, some entry :: log => entry = item ∧ Agrees items log
  | _, _ => True

@[simp] theorem copyBack_nil (log : List (Option α)) :
    copyBack [] log = [] := by
  rcases log with - | ⟨- | entry, log⟩ <;> rfl

@[simp] theorem agrees_nil (log : List (Option α)) : Agrees [] log := by
  rcases log with - | ⟨- | entry, log⟩ <;> trivial

/-- The items stay just when the log agrees with them. -/
theorem copyBack_eq_self_iff {items : List α} {log : List (Option α)} :
    copyBack items log = items ↔ Agrees items log := by
  induction items generalizing log with
  | nil => simp
  | cons item items induction =>
      rcases log with - | ⟨- | entry, log⟩
      · simp [copyBack, Agrees]
      · simp [copyBack, Agrees]
      · simp [copyBack, Agrees, induction]

/-- Entries for the first items replace just these. -/
theorem copyBack_append {first entries rest : List α}
    {log : List (Option α)} (same : entries.length = first.length) :
    copyBack (first ++ rest) (entries.map some ++ log) =
      entries ++ copyBack rest log := by
  induction first generalizing entries with
  | nil =>
      obtain rfl := List.length_eq_zero_iff.mp same
      rfl
  | cons item first induction =>
      obtain ⟨entry, entries, rfl⟩ := List.exists_cons_of_length_eq_add_one same
      have restSame : entries.length = first.length := Nat.succ.inj same
      simp [copyBack, induction restSame]

end CopyBack
