import Mathlib.Data.List.Induction
import Mathlib.Data.List.Perm.Basic
import Mathlib.Data.Rat.Floor
import Mathlib.Tactic.Linarith
import Mathlib.Tactic.Ring

/-!
# Running means

A running mean keeps the integer part of a mean and the number of values.  For
the next value the mean is multiplied out again, so that what its division cut
off is missing from then on.  The running mean is never above the exact one,
and it falls behind by at most a half for each value but the first.
-/

namespace RunningMeans

structure RunningMean where
  mean : Nat
  count : Nat
  deriving DecidableEq

def empty : RunningMean :=
  { mean := 0
    count := 0 }

def RunningMean.add (running : RunningMean) (value : Nat) : RunningMean :=
  { mean := (running.mean * running.count + value) / (running.count + 1)
    count := running.count + 1 }

def run (values : List Nat) : RunningMean :=
  values.foldl .add empty

def exactMean (values : List Nat) : ℚ :=
  (values.sum : ℚ) / values.length

@[simp]
theorem run_nil : run [] = empty :=
  rfl

@[simp]
theorem run_append_singleton (values : List Nat) (value : Nat) :
    run (values ++ [value]) = (run values).add value := by
  simp [run]

@[simp]
theorem count_run (values : List Nat) : (run values).count = values.length := by
  induction values using List.reverseRecOn with
  | nil => rfl
  | append_singleton values value induction =>
      simp [RunningMean.add, induction]

theorem mean_mul_le (values : List Nat) :
    (run values).mean * values.length ≤ values.sum := by
  induction values using List.reverseRecOn with
  | nil => simp
  | append_singleton values value induction =>
      have quotient := Nat.div_mul_le_self
        ((run values).mean * values.length + value) (values.length + 1)
      simp only [run_append_singleton, RunningMean.add, count_run,
        List.length_append, List.length_singleton, List.sum_append,
        List.sum_singleton]
      omega

theorem sum_le (values : List Nat) :
    2 * values.sum ≤ 2 * ((run values).mean * values.length) +
      values.length * (values.length - 1) := by
  induction values using List.reverseRecOn with
  | nil => simp
  | append_singleton values value induction =>
      simp only [run_append_singleton, RunningMean.add, count_run,
        List.length_append, List.length_singleton, List.sum_append,
        List.sum_singleton, Nat.add_sub_cancel]
      set count := values.length
      set sum := (run values).mean * count + value with sumEq
      have whole := Nat.div_add_mod' sum (count + 1)
      have small : sum % (count + 1) < count + 1 :=
        Nat.mod_lt sum (Nat.succ_pos count)
      have next : (count + 1) * count = count * (count - 1) + 2 * count := by
        cases count with
        | zero => rfl
        | succ count =>
            rw [Nat.add_sub_cancel]
            ring
      omega

section ExactMeans

variable {values others : List Nat}

theorem exactMean_perm (same : values.Perm others) :
    exactMean values = exactMean others := by
  rw [exactMean, exactMean, same.sum_eq, same.length_eq]

theorem mean_run_le (values : List Nat) :
    ((run values).mean : ℚ) ≤ exactMean values := by
  rcases List.eq_nil_or_concat' values with rfl | ⟨front, last, rfl⟩
  · simp [empty, exactMean]
  · apply (le_div_iff₀ (by simp; positivity)).mpr
    exact_mod_cast mean_mul_le _

theorem exactMean_le (nonempty : values ≠ []) :
    exactMean values ≤ (run values).mean + ((values.length : ℚ) - 1) / 2 := by
  have positive := List.length_pos_of_ne_nil nonempty
  have positive' : (0 : ℚ) < values.length := by exact_mod_cast positive
  apply (div_le_iff₀ positive').mpr
  have cut := sum_le values
  have cut' : 2 * (values.sum : ℚ) ≤
      2 * ((run values).mean * values.length) +
        values.length * (values.length - 1) := by
    have cast : ((values.length - 1 : Nat) : ℚ) = values.length - 1 := by
      rw [Nat.cast_sub positive, Nat.cast_one]
    rw [← cast]
    exact_mod_cast cut
  linarith

/-- In another order the mean can be another one, by as much as it can fall
behind. -/
theorem mean_run_le_of_perm (same : values.Perm others)
    (nonempty : values ≠ []) :
    ((run values).mean : ℚ) ≤
      (run others).mean + ((values.length : ℚ) - 1) / 2 := by
  have otherNonempty : others ≠ [] := by
    rintro rfl
    exact nonempty same.eq_nil
  calc
    ((run values).mean : ℚ) ≤ exactMean values := mean_run_le values
    _ = exactMean others := exactMean_perm same
    _ ≤ (run others).mean + ((others.length : ℚ) - 1) / 2 :=
      exactMean_le otherNonempty
    _ = (run others).mean + ((values.length : ℚ) - 1) / 2 := by
      rw [same.length_eq]

end ExactMeans

end RunningMeans
