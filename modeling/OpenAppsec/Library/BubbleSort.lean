import Mathlib.Order.Lattice
import Mathlib.Order.Defs.LinearOrder
import Mathlib.Tactic.Common

/-!
# Bubble sort

The passes over a list that swap two neighbours when the key of the first one
is smaller, each pass shorter than the one before.  The highest keys come
first, and items with the same key stay in their order.
-/

namespace BubbleSort

variable {α κ : Type*} [LinearOrder κ] (key : α → κ)

/-- A pass over the first pairs of neighbours. -/
def pass : Nat → List α → List α
  | pairs + 1, first :: second :: items =>
      if key first < key second then
        second :: pass pairs (first :: items)
      else first :: pass pairs (second :: items)
  | _, items => items

def passes : Nat → List α → List α
  | 0, items => items
  | pairs + 1, items => passes pairs (pass key (pairs + 1) items)

def sort (items : List α) : List α :=
  passes key (items.length - 1) items

/-- The highest keys come first. -/
def Descending (items : List α) : Prop :=
  items.Pairwise fun first second => key second ≤ key first

variable {key}

theorem pass_perm (pairs : Nat) (items : List α) :
    (pass key pairs items).Perm items := by
  induction pairs generalizing items with
  | zero => rw [pass]; simp
  | succ pairs induction =>
      match items with
      | [] => exact List.Perm.refl _
      | [_] => exact List.Perm.refl _
      | first :: second :: items =>
          rw [pass]
          split
          · have rest := (induction (first :: items)).cons second
            exact rest.trans (List.Perm.swap first second items)
          · exact (induction (second :: items)).cons first

theorem passes_perm (pairs : Nat) (items : List α) :
    (passes key pairs items).Perm items := by
  induction pairs generalizing items with
  | zero => exact List.Perm.refl _
  | succ pairs induction =>
      exact (induction _).trans (pass_perm (pairs + 1) items)

theorem sort_perm (items : List α) : (sort key items).Perm items :=
  passes_perm _ items

theorem pass_filter (value : κ) (pairs : Nat) (items : List α) :
    (pass key pairs items).filter (fun item => key item = value) =
      items.filter fun item => key item = value := by
  induction pairs generalizing items with
  | zero => rw [pass]; simp
  | succ pairs induction =>
      match items with
      | [] => rfl
      | [_] => rfl
      | first :: second :: items =>
          rw [pass]
          split
          · rename_i smaller
            have different : ¬(key first = value ∧ key second = value) :=
              fun same => ne_of_lt smaller (same.1.trans same.2.symm)
            rw [List.filter_cons, induction]
            simp only [List.filter_cons, decide_eq_true_eq]
            split_ifs with second first
            · exact absurd ⟨first, second⟩ different
            all_goals rfl
          · simp only [List.filter_cons, induction]

theorem sort_filter (value : κ) (items : List α) :
    (sort key items).filter (fun item => key item = value) =
      items.filter fun item => key item = value := by
  have stable (pairs : Nat) (items : List α) :
      (passes key pairs items).filter (fun item => key item = value) =
        items.filter fun item => key item = value := by
    induction pairs generalizing items with
    | zero => rfl
    | succ pairs induction =>
        rw [passes, induction, pass_filter]
  exact stable _ items

theorem pass_append {pairs : Nat} {front : List α} (back : List α)
    (within : pairs < front.length) :
    pass key pairs (front ++ back) = pass key pairs front ++ back := by
  induction pairs generalizing front with
  | zero => rw [pass, pass] <;> simp
  | succ pairs induction =>
      match front with
      | [_] => simp at within
      | first :: second :: front =>
          have shorter : pairs < (second :: front).length := by
            simpa using within
          have later (item : α) : pass key pairs (item :: front ++ back) =
              pass key pairs (item :: front) ++ back :=
            induction (by simpa using shorter)
          simp only [List.cons_append] at later ⊢
          rw [pass, pass, later first, later second]
          split
          · rfl
          · rfl

theorem pass_lowest (first : α) (items : List α) :
    ∃ front last, pass key items.length (first :: items) = front ++ [last] ∧
      ∀ item ∈ first :: items, key last ≤ key item := by
  induction items generalizing first with
  | nil =>
      refine ⟨[], first, rfl, ?_⟩
      simp
  | cons second items induction =>
      rw [List.length_cons, pass]
      split
      · rename_i smaller
        obtain ⟨front, last, passed, lowest⟩ := induction first
        refine ⟨second :: front, last, by rw [passed]; rfl, ?_⟩
        have below := lowest first List.mem_cons_self
        intro item member
        rcases List.mem_cons.mp member with rfl | member
        · exact below
        · rcases List.mem_cons.mp member with rfl | member
          · exact le_trans below (le_of_lt smaller)
          · exact lowest item (List.mem_cons_of_mem _ member)
      · rename_i ordered
        obtain ⟨front, last, passed, lowest⟩ := induction second
        refine ⟨first :: front, last, by rw [passed]; rfl, ?_⟩
        have below := lowest second List.mem_cons_self
        intro item member
        rcases List.mem_cons.mp member with rfl | member
        · exact le_trans below (not_lt.mp ordered)
        · exact lowest item member

/-- The passes order what is in front of an ordered rest of lower keys. -/
theorem passes_descending {pairs : Nat} {front back : List α}
    (length : front.length = pairs + 1) (ordered : Descending key back)
    (lower : ∀ item ∈ front, ∀ later ∈ back, key later ≤ key item) :
    Descending key (passes key pairs (front ++ back)) := by
  induction pairs generalizing front back with
  | zero =>
      obtain ⟨item, rfl⟩ := List.length_eq_one_iff.mp length
      exact List.pairwise_cons.mpr ⟨lower item List.mem_cons_self, ordered⟩
  | succ pairs induction =>
      obtain ⟨first, items, rfl⟩ := List.exists_cons_of_length_eq_add_one length
      have whole : items.length = pairs + 1 := by
        simpa using length
      obtain ⟨rest, last, passed, lowest⟩ := @pass_lowest α κ _ key first items
      rw [whole] at passed
      have perm := @pass_perm α κ _ key (pairs + 1) (first :: items)
      rw [passed] at perm
      have split : pass key (pairs + 1) (first :: items ++ back) =
          rest ++ last :: back := by
        rw [pass_append back (by rw [length]; omega), passed]
        simp
      rw [passes, split]
      apply induction
      · have same := perm.length_eq
        simp only [List.length_append, List.length_cons, List.length_nil]
          at same
        omega
      · refine List.pairwise_cons.mpr ⟨?_, ordered⟩
        exact lower last (perm.mem_iff.mp (by simp))
      · intro item member later behind
        have earlier := perm.mem_iff.mp (List.mem_append_left [last] member)
        rcases List.mem_cons.mp behind with rfl | behind
        · exact lowest item earlier
        · exact lower item earlier later behind

theorem sort_descending (items : List α) :
    Descending key (sort key items) := by
  cases items with
  | nil => exact List.Pairwise.nil
  | cons first items =>
      have ordered : Descending key (passes key items.length
          (first :: items ++ [])) := by
        apply passes_descending
        · rfl
        · exact List.Pairwise.nil
        · simp
      rw [List.append_nil] at ordered
      exact ordered

/-- The last of the sorted items is the last of those with the lowest key. -/
theorem sort_last {items front : List α} {last : α}
    (sorted : sort key items = front ++ [last]) :
    (∀ item ∈ items, key last ≤ key item) ∧
      (items.filter fun item => key item = key last).getLast? = some last := by
  have perm := @sort_perm α κ _ key items
  have ordered := @sort_descending α κ _ key items
  rw [sorted] at perm ordered
  constructor
  · intro item member
    rcases List.mem_append.mp (perm.mem_iff.mpr member) with early | same
    · exact (List.pairwise_append.mp ordered).2.2 item early last
        (List.mem_singleton_self last)
    · rw [List.mem_singleton.mp same]
  · rw [← sort_filter, sorted, List.filter_append]
    simp

end BubbleSort
