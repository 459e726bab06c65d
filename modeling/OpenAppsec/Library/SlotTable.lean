import Mathlib.Tactic.Common

/-!
# Slot tables

A fixed number of slots searched from the front.  An update replaces the first
slot that satisfies a test, so it touches at most one slot and keeps the
number of slots.
-/

namespace SlotTable

variable {α : Type*}

/-- Replace the first slot that passes the test. -/
def replaceFirst (test : α → Bool) (update : α → α) : List α → List α
  | [] => []
  | slot :: slots =>
      if test slot then update slot :: slots
      else slot :: replaceFirst test update slots

theorem length_replaceFirst (test : α → Bool) (update : α → α)
    (slots : List α) :
    (replaceFirst test update slots).length = slots.length := by
  induction slots with
  | nil => rfl
  | cons slot slots induction =>
      unfold replaceFirst
      split <;> simp [induction]

/-- A search that neither the replaced slot nor its replacement passes is not
affected by an update. -/
theorem find?_replaceFirst_other {test search : α → Bool} {update : α → α}
    {slots : List α}
    (before : ∀ slot, test slot = true → search slot = false)
    (after : ∀ slot, test slot = true → search (update slot) = false) :
    (replaceFirst test update slots).find? search = slots.find? search := by
  induction slots with
  | nil => rfl
  | cons slot slots induction =>
      unfold replaceFirst
      split
      · rename_i passed
        simp [before slot passed, after slot passed]
      · simp [List.find?_cons, induction]

theorem find?_replaceFirst_same {test search : α → Bool} {update : α → α}
    {slots : List α}
    (found : slots.any test = true)
    (others : ∀ slot ∈ slots, test slot = false → search slot = false)
    (after : ∀ slot, test slot = true → search (update slot) = true) :
    (replaceFirst test update slots).find? search =
      (slots.find? test).map update := by
  induction slots with
  | nil => simp at found
  | cons slot slots induction =>
      cases passed : test slot with
      | true => simp [replaceFirst, passed, after slot passed]
      | false =>
          have foundLater : slots.any test = true := by
            simpa [passed] using found
          have laterOthers : ∀ other ∈ slots, test other = false →
              search other = false :=
            fun other member => others other (List.mem_cons_of_mem _ member)
          simp [replaceFirst, passed,
            others slot List.mem_cons_self passed,
            induction foundLater laterOthers]

theorem exists_find?_replaceFirst {test search : α → Bool}
    (update : α → α) {slots : List α}
    (found : slots.any test = true)
    (others : ∀ slot ∈ slots, test slot = false → search slot = false)
    (after : ∀ slot, test slot = true → search (update slot) = true) :
    ∃ slot, test slot = true ∧
      (replaceFirst test update slots).find? search = some (update slot) := by
  obtain ⟨slot, member, passed⟩ := List.any_eq_true.mp found
  obtain ⟨first, firstFound⟩ := Option.isSome_iff_exists.mp
    (List.find?_isSome.mpr ⟨slot, member, passed⟩)
  refine ⟨first, List.find?_some firstFound, ?_⟩
  rw [find?_replaceFirst_same found others after, firstFound]
  rfl

section Keys

variable {κ : Type*} {key : α → Option κ} {test : α → Bool} {update : α → α}
variable {slots : List α} {name : κ}

/-- The keys in use, in table order. -/
def keys (key : α → Option κ) (slots : List α) : List κ :=
  slots.filterMap key

theorem keys_cons (slot : α) (slots : List α) :
    keys key (slot :: slots) = (key slot).toList ++ keys key slots := by
  cases used : key slot <;> simp [keys, used]

theorem keys_replaceFirst_keep
    (same : ∀ slot, test slot = true → key (update slot) = key slot) :
    keys key (replaceFirst test update slots) = keys key slots := by
  induction slots with
  | nil => rfl
  | cons slot slots induction =>
      unfold replaceFirst
      split
      · rename_i passed
        rw [keys_cons, keys_cons, same slot passed]
      · rw [keys_cons, keys_cons, induction]

theorem keys_replaceFirst_fill (found : slots.any test = true)
    (unused : ∀ slot, test slot = true → key slot = none)
    (filled : ∀ slot, test slot = true → key (update slot) = some name) :
    (keys key (replaceFirst test update slots)).Perm
      (name :: keys key slots) := by
  induction slots with
  | nil => simp at found
  | cons slot slots induction =>
      unfold replaceFirst
      split
      · rename_i passed
        rw [keys_cons, keys_cons, unused slot passed, filled slot passed]
        exact List.Perm.refl _
      · rename_i failed
        have later : slots.any test = true := by
          simpa [failed] using found
        rw [keys_cons, keys_cons]
        exact ((induction later).append_left _).trans
          List.perm_middle

/-- Clearing the slot of a key removes the key. -/
theorem keys_replaceFirst_clear [BEq κ] [LawfulBEq κ]
    (holds : ∀ slot, test slot = true ↔ key slot = some name)
    (cleared : ∀ slot, test slot = true → key (update slot) = none) :
    keys key (replaceFirst test update slots) =
      (keys key slots).erase name := by
  induction slots with
  | nil => rfl
  | cons slot slots induction =>
      unfold replaceFirst
      split
      · rename_i passed
        rw [keys_cons, keys_cons, cleared slot passed,
          (holds slot).mp passed]
        simp
      · rename_i failed
        rw [keys_cons, keys_cons, induction]
        cases used : key slot with
        | none => rfl
        | some other =>
            have different : other ≠ name := by
              intro same
              exact failed ((holds slot).mpr (same ▸ used))
            simp [different]

theorem any_unused (room : (keys key slots).length < slots.length) :
    slots.any (fun slot => (key slot).isNone) = true := by
  obtain ⟨slot, member, unused⟩ :=
    List.length_filterMap_lt_length_iff_exists.mp room
  apply List.any_eq_true.mpr
  exact ⟨slot, member, by simpa using unused⟩

variable (slots) in
theorem any_key_iff (holds : ∀ slot, test slot = true ↔ key slot = some name) :
    slots.any test = true ↔ name ∈ keys key slots := by
  simp [keys, List.any_eq_true, List.mem_filterMap, holds]

end Keys

end SlotTable
