import Mathlib.Algebra.Module.BigOperators

/-!
# Sliding windows

A window counts events over the last `size` time units in a circular array of
slots, one for each residue of the time, together with their sum.  Time passes
by clearing the slots of the units that have passed.  The counts live in any
additive group, so that they may wrap.
-/

namespace SlidingWindow

@[ext]
structure Window (R : Type*) where
  slot : Nat → R
  sum : R

variable {R : Type*} [AddCommGroup R]

def empty : Window R :=
  { slot := fun _ => 0, sum := 0 }

section Operations

variable (size time : Nat) (window : Window R)

def Window.clear : Window R :=
  { slot := Function.update window.slot (time % size) 0
    sum := window.sum - window.slot (time % size) }

/-- Clear the slots of the last `count` units up to a time, the last first. -/
def Window.clearBack : Nat → Nat → Window R → Window R
  | 0, _, window => window
  | count + 1, time, window =>
      clearBack count (time - 1) (window.clear size time)

def Window.add (unit : R) : Window R :=
  { slot :=
      Function.update window.slot (time % size)
        (window.slot (time % size) + unit)
    sum := window.sum + unit }

@[simp] theorem Window.clear_same :
    (window.clear size time).slot (time % size) = 0 :=
  Function.update_self _ _ _

@[simp] theorem Window.add_same (unit : R) :
    (window.add size time unit).slot (time % size) =
      window.slot (time % size) + unit :=
  Function.update_self _ _ _

variable {size time window}

theorem Window.clear_other {residue : Nat} (other : residue ≠ time % size) :
    (window.clear size time).slot residue = window.slot residue :=
  Function.update_of_ne other _ _

theorem Window.add_other {residue : Nat} (other : residue ≠ time % size)
    (unit : R) :
    (window.add size time unit).slot residue = window.slot residue :=
  Function.update_of_ne other _ _

end Operations

theorem Window.clear_comm (size first second : Nat) (window : Window R) :
    (window.clear size first).clear size second =
      (window.clear size second).clear size first := by
  by_cases same : first % size = second % size
  · simp only [clear, same]
  · have other : ¬second % size = first % size := fun equal => same equal.symm
    apply Window.ext
    · exact Function.update_comm same _ _ _
    · simp only [clear, Function.update_of_ne same,
        Function.update_of_ne other]
      exact sub_right_comm _ _ _

theorem Window.clearBack_clear (size count time other : Nat)
    (window : Window R) :
    Window.clearBack size count time (window.clear size other) =
      (Window.clearBack size count time window).clear size other := by
  induction count generalizing time window with
  | zero => rfl
  | succ count induction =>
      rw [clearBack, clear_comm, induction]
      rfl

theorem Window.clearBack_succ (size count time : Nat) (window : Window R) :
    Window.clearBack size (count + 1) (time + 1) window =
      (Window.clearBack size count time window).clear size (time + 1) :=
  clearBack_clear size count time (time + 1) window

/-- The events of the last `size` units, none of which lies in the future. -/
def recent (size now : Nat) (history : List Nat) : Nat :=
  history.countP fun time => decide (now < time + size)

/-- The recent events of one slot. -/
def recentAt (size now residue : Nat) (history : List Nat) : Nat :=
  history.countP fun time =>
    decide (now < time + size ∧ time % size = residue)

theorem recent_cons (size now time : Nat) (history : List Nat) :
    recent size now (time :: history) =
      recent size now history + (decide (now < time + size)).toNat := by
  rw [recent, List.countP_cons]
  by_cases inside : now < time + size
  · simp [recent, inside]
  · simp [recent, inside]

theorem recentAt_cons (size now residue time : Nat) (history : List Nat) :
    recentAt size now residue (time :: history) =
      recentAt size now residue history +
        (decide (now < time + size ∧ time % size = residue)).toNat := by
  rw [recentAt, List.countP_cons]
  by_cases inside : now < time + size ∧ time % size = residue
  · simp [recentAt, inside]
  · simp [recentAt, inside]

theorem recentAt_le_recent (size now residue : Nat) (history : List Nat) :
    recentAt size now residue history ≤ recent size now history := by
  apply List.countP_mono_left
  intro time _ both
  exact decide_eq_true (of_decide_eq_true both).1

/-- The slots count every recent event once. -/
theorem sum_recentAt {size : Nat} (positive : 0 < size) (now : Nat)
    (history : List Nat) :
    ∑ residue ∈ Finset.range size, recentAt size now residue history =
      recent size now history := by
  induction history with
  | nil => exact Finset.sum_const_zero
  | cons time history induction =>
      simp only [recentAt_cons, recent_cons, Finset.sum_add_distrib,
        induction]
      congr 1
      rw [Finset.sum_eq_single (time % size)]
      · simp
      · intro residue _ other
        rw [decide_eq_false fun both => other both.2.symm]
        rfl
      · intro outside
        exact absurd (Finset.mem_range.mpr (Nat.mod_lt time positive)) outside

theorem oldest_of_residue {size now time : Nat} (past : time ≤ now)
    (inside : now < time + size) (same : time % size = (now + 1) % size) :
    now + 1 = time + size := by
  have difference : (now + 1 - time) % size = 0 :=
    Nat.sub_mod_eq_zero_of_mod_eq same.symm
  have divides : size ∣ now + 1 - time := Nat.dvd_of_mod_eq_zero difference
  have atLeast : size ≤ now + 1 - time := Nat.le_of_dvd (by omega) divides
  omega

/-- One unit later, the events of the slot that is cleared are gone. -/
theorem recent_succ {size now : Nat} {history : List Nat}
    (past : ∀ time ∈ history, time ≤ now) :
    recent size now history =
      recent size (now + 1) history +
        recentAt size now ((now + 1) % size) history := by
  induction history with
  | nil => rfl
  | cons time history induction =>
      obtain ⟨here, later⟩ := List.forall_mem_cons.mp past
      rw [recent_cons, recent_cons, recentAt_cons, induction later]
      by_cases old : now + 1 = time + size
      · have same : time % size = (now + 1) % size := by
          rw [old, Nat.add_mod_right]
        have inside : now < time + size := by omega
        have outside : ¬now + 1 < time + size := by omega
        simp [same, inside, outside]
        omega
      · have agree : now + 1 < time + size ↔ now < time + size := by omega
        have other : ¬(now < time + size ∧
            time % size = (now + 1) % size) :=
          fun both => old (oldest_of_residue here both.1 both.2)
        rw [decide_eq_false other]
        simp only [agree, Bool.toNat_false]
        omega

theorem recentAt_succ {size now residue : Nat} {history : List Nat}
    (past : ∀ time ∈ history, time ≤ now) :
    recentAt size (now + 1) residue history =
      if residue = (now + 1) % size then 0
      else recentAt size now residue history := by
  split
  · rename_i cleared
    apply List.countP_eq_zero.mpr
    intro time member
    have here := past time member
    intro counted
    obtain ⟨inside, same⟩ := of_decide_eq_true counted
    have oldest := oldest_of_residue here (by omega) (same.trans cleared)
    omega
  · rename_i kept
    apply List.countP_congr
    intro time member
    rw [decide_eq_true_iff, decide_eq_true_iff]
    constructor
    · rintro ⟨inside, same⟩
      exact ⟨by omega, same⟩
    · rintro ⟨inside, same⟩
      refine ⟨?_, same⟩
      by_contra outside
      have oldest : now + 1 = time + size := by omega
      exact kept (same.symm.trans (by rw [oldest, Nat.add_mod_right]))

/-- The slots and the sum count the recent events of a history, none of which
lies in the future. -/
structure Window.Counts (size : Nat) (unit : R) (now : Nat)
    (history : List Nat) (window : Window R) : Prop where
  past : ∀ time ∈ history, time ≤ now
  slot : ∀ residue, residue < size →
    window.slot residue = recentAt size now residue history • unit
  sum : window.sum = recent size now history • unit

namespace Window.Counts

variable {size now : Nat} {unit : R} {history : List Nat}
  {window : Window R}

/-- Without a history, time does not matter. -/
theorem of_nil (counts : window.Counts size unit now []) (later : Nat) :
    window.Counts size unit later [] where
  past := nofun
  slot := counts.slot
  sum := counts.sum

theorem clear (counts : window.Counts size unit now history)
    (positive : 0 < size) :
    (window.clear size (now + 1)).Counts size unit (now + 1) history where
  past time member := Nat.le_succ_of_le (counts.past time member)
  slot residue inside := by
    rw [recentAt_succ counts.past]
    by_cases cleared : residue = (now + 1) % size
    · rw [if_pos cleared, cleared, Window.clear_same, zero_nsmul]
    · rw [if_neg cleared, Window.clear_other cleared]
      exact counts.slot residue inside
  sum := by
    have within := Nat.mod_lt (now + 1) positive
    rw [Window.clear, counts.sum, counts.slot _ within,
      recent_succ counts.past, add_nsmul]
    exact add_sub_cancel_right _ _

theorem clearBack (counts : window.Counts size unit now history)
    (positive : 0 < size) (count : Nat) :
    (Window.clearBack size count (now + count) window).Counts size unit
      (now + count) history := by
  induction count with
  | zero => exact counts
  | succ count induction =>
      rw [← Nat.add_assoc, Window.clearBack_succ]
      exact induction.clear positive

/-- An empty window counts a history that is over. -/
theorem empty (over' : ∀ time ∈ history, time + size ≤ now) :
    (SlidingWindow.empty : Window R).Counts size unit now history := by
  have none : recent size now history = 0 := by
    apply List.countP_eq_zero.mpr
    intro time member counted
    exact absurd (of_decide_eq_true counted)
      (Nat.not_lt.mpr (over' time member))
  have noneAt (residue : Nat) : recentAt size now residue history = 0 := by
    apply List.countP_eq_zero.mpr
    intro time member counted
    exact absurd (of_decide_eq_true counted).1
      (Nat.not_lt.mpr (over' time member))
  constructor
  · exact fun time member => Nat.le_of_add_right_le (over' time member)
  · intro residue _
    rw [noneAt, zero_nsmul]
    rfl
  · rw [none, zero_nsmul]
    rfl

theorem add (counts : window.Counts size unit now history)
    (positive : 0 < size) :
    (window.add size now unit).Counts size unit now (now :: history) where
  past := List.forall_mem_cons.mpr ⟨Nat.le_refl now, counts.past⟩
  slot residue inside := by
    have now_inside : now < now + size := Nat.lt_add_of_pos_right positive
    rw [recentAt_cons]
    by_cases own : residue = now % size
    · rw [own, Window.add_same, counts.slot _ (Nat.mod_lt now positive),
        decide_eq_true ⟨now_inside, rfl⟩]
      exact (succ_nsmul _ _).symm
    · rw [Window.add_other own, decide_eq_false fun both => own both.2.symm]
      exact counts.slot residue inside
  sum := by
    rw [recent_cons, decide_eq_true (Nat.lt_add_of_pos_right positive),
      Window.add, counts.sum]
    exact (succ_nsmul _ _).symm

end Window.Counts

end SlidingWindow
