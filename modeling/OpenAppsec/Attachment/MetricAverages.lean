import OpenAppsec.Attachment.Metrics
import OpenAppsec.Library.RunningMeans

/-!
# The averages among the metrics

An average is kept as a running mean of the values that are counted: the ones
since the last reset that are not zero.
-/

namespace OpenAppsec

open RunningMeans

/-- An average as a running mean. -/
structure Tracks (metricType : AttachmentMetricType) (metrics : MetricData)
    (running : RunningMean) : Prop where
  mean : (metrics.metricData metricType).toNat = running.mean
  count : (metrics.metricAverageDataDivisor metricType).toNat = running.count

variable {metricType updated : AttachmentMetricType} {value : UInt64}
  {metrics : MetricData} {running : RunningMean}

theorem tracks_resetMetricData :
    Tracks metricType resetMetricData RunningMeans.empty where
  mean := rfl
  count := rfl

theorem Tracks.updateAverageMetricField
    (tracks : Tracks metricType metrics running)
    (sumFits : running.mean * running.count + value.toNat < 2 ^ 64)
    (countFits : running.count + 1 < 2 ^ 64) :
    Tracks metricType (updateAverageMetricField metricType value metrics)
      (running.add value.toNat) where
  mean := by
    have product : running.mean * running.count < 2 ^ 64 := by omega
    simp only [OpenAppsec.updateAverageMetricField, MetricData.set,
      Function.update_self, RunningMean.add, UInt64.toNat_div,
      UInt64.toNat_add, UInt64.toNat_mul, UInt64.toNat_one, tracks.mean,
      tracks.count]
    rw [Nat.mod_eq_of_lt product, Nat.mod_eq_of_lt sumFits,
      Nat.mod_eq_of_lt countFits]
  count := by
    simp only [OpenAppsec.updateAverageMetricField, Function.update_self,
      RunningMean.add, UInt64.toNat_add, UInt64.toNat_one, tracks.count]
    exact Nat.mod_eq_of_lt countFits

theorem updateMetricField_divisor_other (other : updated ≠ metricType)
    (value : UInt64) (metrics : MetricData) :
    (updateMetricField updated value metrics).metricAverageDataDivisor
        metricType =
      metrics.metricAverageDataDivisor metricType := by
  unfold updateMetricField
  cases updated.strategy with
  | counter => rfl
  | average =>
      dsimp only
      split
      · exact Function.update_of_ne (Ne.symm other) _ _
      · rfl
  | max =>
      unfold updateMaxMetricField
      dsimp only
      split
      · split <;> rfl
      · rfl
  | min =>
      unfold updateMinMetricField
      dsimp only
      split
      · split
        · rfl
        · split <;> rfl
      · rfl

theorem Tracks.update_other (tracks : Tracks metricType metrics running)
    (other : updated ≠ metricType) :
    Tracks metricType (updateMetricField updated value metrics) running where
  mean := by
    rw [updateMetricField_other other]
    exact tracks.mean
  count := by
    rw [updateMetricField_divisor_other other]
    exact tracks.count

theorem updateMetricField_average (average : metricType.strategy = .average)
    (value : UInt64) (metrics : MetricData) :
    updateMetricField metricType value metrics =
      if value ≠ 0 then updateAverageMetricField metricType value metrics
      else metrics := by
  rw [updateMetricField, average]

section Runs

variable {τ : Type*}

/-- The counted values of a metric after a call. -/
def countValue (resets : τ → Bool) (metricType : AttachmentMetricType)
    (values : List Nat) : MetricCall τ → List Nat
  | .updateMetricField updated value =>
      if updated = metricType ∧ value ≠ 0 then values ++ [value.toNat]
      else values
  | .sendMetricData transport => if resets transport then [] else values

/-- The values that a run has counted since its last reset. -/
def countedValues (resets : τ → Bool) (metricType : AttachmentMetricType)
    (calls : List (MetricCall τ)) : List Nat :=
  calls.foldl (countValue resets metricType) []

/-- A report resets the metrics or leaves them as they are. -/
def ResetsBy (sender : τ → MetricData → MetricReport × MetricData)
    (resets : τ → Bool) : Prop :=
  ∀ transport metrics, (sender transport metrics).2 =
    if resets transport then resetMetricData else metrics

/-- The values are positive, and the average tracks them if 64 bits can hold
their sum. -/
structure Counts (metricType : AttachmentMetricType) (metrics : MetricData)
    (values : List Nat) : Prop where
  positive : ∀ value ∈ values, 0 < value
  tracks : values.sum < 2 ^ 64 → Tracks metricType metrics (run values)

variable {sender : τ → MetricData → MetricReport × MetricData}
  {resets : τ → Bool} {values : List Nat}

theorem counts_resetMetricData : Counts metricType resetMetricData [] where
  positive := by simp
  tracks := fun _ => tracks_resetMetricData

theorem Counts.updateAverageMetricField
    (counts : Counts metricType metrics values) (counted : value ≠ 0) :
    Counts metricType (updateAverageMetricField metricType value metrics)
      (values ++ [value.toNat]) := by
  have positive : 0 < value.toNat := by
    apply Nat.pos_of_ne_zero
    intro none
    exact counted (UInt64.toNat_inj.mp none)
  constructor
  · intro other member
    rcases List.mem_append.mp member with earlier | here
    · exact counts.positive other earlier
    · rw [List.mem_singleton.mp here]
      exact positive
  · intro fits
    rw [List.sum_append, List.sum_singleton] at fits
    have multiplied := mean_mul_le values
    have many : values.length ≤ values.sum :=
      List.length_le_sum_of_one_le values counts.positive
    rw [run_append_singleton]
    apply Tracks.updateAverageMetricField (counts.tracks (by omega))
    · rw [count_run]
      omega
    · rw [count_run]
      omega

/-- One call. -/
theorem Counts.step (law : ResetsBy sender resets)
    (average : metricType.strategy = .average)
    (counts : Counts metricType metrics values) (call : MetricCall τ) :
    Counts metricType (metricStep sender metrics call).2
      (countValue resets metricType values call) := by
  cases call with
  | updateMetricField updated value =>
      simp only [metricStep, countValue]
      by_cases same : updated = metricType
      · rw [same, updateMetricField_average average]
        by_cases none : value = 0
        · simpa [none] using counts
        · simpa [none] using counts.updateAverageMetricField none
      · rw [if_neg fun both => same both.1]
        exact
          { positive := counts.positive
            tracks := fun fits => (counts.tracks fits).update_other same }
  | sendMetricData transport =>
      simp only [metricStep, countValue, law transport metrics]
      split
      · exact counts_resetMetricData
      · exact counts

theorem Counts.run (law : ResetsBy sender resets)
    (average : metricType.strategy = .average)
    (counts : Counts metricType metrics values)
    (calls : List (MetricCall τ)) :
    Counts metricType (Trace.run (metricStep sender) metrics calls).2
      (calls.foldl (countValue resets metricType) values) := by
  induction calls generalizing metrics values with
  | nil => exact counts
  | cons call calls induction =>
      exact induction (counts.step law average call)

/-- The value of a metric after a run from a reset. -/
def stored (sender : τ → MetricData → MetricReport × MetricData)
    (metricType : AttachmentMetricType) (calls : List (MetricCall τ)) : Nat :=
  ((Trace.run (metricStep sender) resetMetricData calls).2.metricData
    metricType).toNat

theorem stored_eq_mean (law : ResetsBy sender resets)
    (average : metricType.strategy = .average) {calls : List (MetricCall τ)}
    (fits : (countedValues resets metricType calls).sum < 2 ^ 64) :
    stored sender metricType calls =
      (RunningMeans.run (countedValues resets metricType calls)).mean :=
  ((counts_resetMetricData.run law average calls).tracks fits).mean

/-- The stored value is the integer part of the mean of the counted values, in
whatever order they arrive. -/
def TrueAverage (sender : τ → MetricData → MetricReport × MetricData)
    (resets : τ → Bool) (metricType : AttachmentMetricType)
    (calls : List (MetricCall τ)) : Prop :=
  countedValues resets metricType calls ≠ [] →
    stored sender metricType calls =
        ⌊exactMean (countedValues resets metricType calls)⌋₊ ∧
      ∀ others, (countedValues resets metricType calls).Perm
          (countedValues resets metricType others) →
        stored sender metricType calls = stored sender metricType others

/-- As long as 64 bits hold the sum, the stored value is not above the mean of
the counted values and falls behind it by at most a half for each value but the
first.  In another order it differs by no more than that. -/
def AverageWithin (sender : τ → MetricData → MetricReport × MetricData)
    (resets : τ → Bool) (metricType : AttachmentMetricType)
    (calls : List (MetricCall τ)) : Prop :=
  let values := countedValues resets metricType calls
  let slack := ((values.length : ℚ) - 1) / 2
  values ≠ [] → values.sum < 2 ^ 64 →
    (stored sender metricType calls : ℚ) ≤ exactMean values ∧
      exactMean values ≤ stored sender metricType calls + slack ∧
      ∀ others, values.Perm (countedValues resets metricType others) →
        |(stored sender metricType calls : ℚ) -
          stored sender metricType others| ≤ slack

theorem averageWithin (law : ResetsBy sender resets)
    (average : metricType.strategy = .average) (calls : List (MetricCall τ)) :
    AverageWithin sender resets metricType calls := by
  intro nonempty fits
  rw [stored_eq_mean law average fits]
  refine ⟨mean_run_le _, exactMean_le nonempty, ?_⟩
  intro others same
  have otherFits : (countedValues resets metricType others).sum < 2 ^ 64 := by
    rw [← same.sum_eq]
    exact fits
  have otherNonempty : countedValues resets metricType others ≠ [] := by
    intro empty
    rw [empty] at same
    exact nonempty same.eq_nil
  have above := mean_run_le_of_perm same nonempty
  have below := mean_run_le_of_perm same.symm otherNonempty
  rw [← same.length_eq] at below
  rw [stored_eq_mean law average otherFits, abs_sub_le_iff]
  constructor
  · linarith
  · linarith

end Runs

def Nano.resets (attempts : Fin 5 → Attempt) : Bool :=
  (sendSessionDataToService 0 .sync attempts).result = .ok

theorem Nano.resetsBy :
    ResetsBy nanoSendMetricDataSender Nano.resets := by
  intro attempts metrics
  simp only [nanoSendMetricDataSender, Nano.resets, decide_eq_true_eq]
  split <;> simp_all

def Nginx.resets {mode : WaitMode} (_ : Fin 5 → Attempt mode 0) : Bool :=
  true

theorem Nginx.resetsBy {mode : WaitMode} :
    ResetsBy (@ngxHttpCpMetricDataSender mode) Nginx.resets :=
  fun _ _ => rfl

/-- Every average of a run stays as close to the mean of the counted values as
the cut-off divisions allow. -/
theorem metric_averages_within (mode : Nginx.WaitMode)
    {metricType : AttachmentMetricType}
    (average : metricType.strategy = .average)
    (nanoCalls : List (MetricCall (Fin 5 → Nano.Attempt)))
    (nginxCalls : List (MetricCall (Fin 5 → Nginx.Attempt mode 0))) :
    AverageWithin Nano.nanoSendMetricDataSender Nano.resets metricType
        nanoCalls ∧
      AverageWithin Nginx.ngxHttpCpMetricDataSender Nginx.resets metricType
        nginxCalls :=
  ⟨averageWithin Nano.resetsBy average nanoCalls,
    averageWithin Nginx.resetsBy average nginxCalls⟩

/-- Updates of the processor usage. -/
def cpuUsages {τ : Type*} (values : List UInt64) : List (MetricCall τ) :=
  values.map (.updateMetricField .cpuUsage)

theorem cpuUsage_average_within :
    AverageWithin Nano.nanoSendMetricDataSender Nano.resets .cpuUsage
        (cpuUsages [1, 2, 3]) ∧
      AverageWithin (@Nginx.ngxHttpCpMetricDataSender ⟨true, 3, false⟩)
        Nginx.resets .cpuUsage (cpuUsages [3, 2, 1]) :=
  metric_averages_within ⟨true, 3, false⟩ rfl (cpuUsages [1, 2, 3])
    (cpuUsages [3, 2, 1])

/-- One, two and three leave an average of one. -/
theorem average_not_true :
    ¬∀ (mode : Nginx.WaitMode) (metricType : AttachmentMetricType),
      metricType.strategy = .average →
        ∀ (nanoCalls : List (MetricCall (Fin 5 → Nano.Attempt)))
          (nginxCalls : List (MetricCall (Fin 5 → Nginx.Attempt mode 0))),
          TrueAverage Nano.nanoSendMetricDataSender Nano.resets metricType
              nanoCalls ∧
            TrueAverage Nginx.ngxHttpCpMetricDataSender Nginx.resets
              metricType nginxCalls := by
  intro averages
  have counted : countedValues Nano.resets .cpuUsage (cpuUsages [1, 2, 3]) =
      [1, 2, 3] := by
    simp [countedValues, cpuUsages, countValue]
  have one : stored Nano.nanoSendMetricDataSender .cpuUsage
      (cpuUsages [1, 2, 3]) = 1 := by
    rw [stored_eq_mean Nano.resetsBy rfl (by simp [counted]), counted]
    rfl
  obtain ⟨same, -⟩ := (averages ⟨true, 3, false⟩ .cpuUsage rfl
    (cpuUsages [1, 2, 3]) []).1 (by simp [counted])
  rw [one, counted] at same
  norm_num [exactMean] at same

/-- Beyond 64 bits there is no bound: two values of `2 ^ 63` leave nothing. -/
example :
    stored Nano.nanoSendMetricDataSender .cpuUsage
      (cpuUsages [9223372036854775808, 9223372036854775808]) = 0 := by
  decide

end OpenAppsec
