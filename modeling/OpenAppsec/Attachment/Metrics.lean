import OpenAppsec.Library.Trace
import OpenAppsec.Attachment.NanoMessages
import OpenAppsec.Attachment.Senders

/-!
# The metrics of the attachments

Both attachments keep one 64-bit value for each metric and report all of them
in one message.  The nano attachment clears the values after a report that was
accepted, the nginx attachment after every report, so that only the first
never loses a count.
-/

namespace OpenAppsec

inductive AttachmentMetricType where
  | transparentsCount
  | totalTransparentsTime
  | inspectionOpenFailuresCount
  | inspectionCloseFailuresCount
  | inspectionSuccessesCount
  | injectVerdictsCount
  | dropVerdictsCount
  | acceptVerdictsCount
  | irrelevantVerdictsCount
  | reconfVerdictsCount
  | inspectVerdictsCount
  | holdVerdictsCount
  | averageOverallPprocessingTimeUntilVerdict
  | maxOverallPprocessingTimeUntilVerdict
  | minOverallPprocessingTimeUntilVerdict
  | averageReqPprocessingTimeUntilVerdict
  | maxReqPprocessingTimeUntilVerdict
  | minReqPprocessingTimeUntilVerdict
  | averageResPprocessingTimeUntilVerdict
  | maxResPprocessingTimeUntilVerdict
  | minResPprocessingTimeUntilVerdict
  | threadTimeout
  | regThreadTimeout
  | reqMetadataThreadTimeout
  | reqHeaderThreadTimeout
  | reqBodyThreadTimeout
  | reqEndThreadTimeout
  | averageReqBodySizeUponTimeout
  | maxReqBodySizeUponTimeout
  | minReqBodySizeUponTimeout
  | resHeaderThreadTimeout
  | resBodyThreadTimeout
  | resEndThreadTimeout
  | holdThreadTimeout
  | averageResBodySizeUponTimeout
  | maxResBodySizeUponTimeout
  | minResBodySizeUponTimeout
  | threadFailure
  | reqProccessingTimeout
  | resProccessingTimeout
  | reqFailedToReachUpstream
  | reqFailedCompressionCount
  | resFailedCompressionCount
  | reqFailedDecompressionCount
  | resFailedDecompressionCount
  | reqSuccessfulCompressionCount
  | resSuccessfulCompressionCount
  | reqSuccessfulDecompressionCount
  | resSuccessfulDecompressionCount
  | corruptedZipSkippedSessionCount
  | cpuUsage
  | averageVmMemoryUsage
  | averageRssMemoryUsage
  | maxVmMemoryUsage
  | maxRssMemoryUsage
  | requestOverallSizeCount
  | responseOverallSizeCount
  deriving DecidableEq

inductive MetricStrategy where
  | counter
  | average
  | max
  | min
  deriving DecidableEq

/-- The cases of `updateMetricField`. -/
def AttachmentMetricType.strategy : AttachmentMetricType → MetricStrategy
  | .cpuUsage
  | .averageVmMemoryUsage
  | .averageRssMemoryUsage
  | .averageReqBodySizeUponTimeout
  | .averageResBodySizeUponTimeout
  | .averageOverallPprocessingTimeUntilVerdict
  | .averageReqPprocessingTimeUntilVerdict
  | .averageResPprocessingTimeUntilVerdict => .average
  | .maxVmMemoryUsage
  | .maxRssMemoryUsage
  | .maxReqBodySizeUponTimeout
  | .maxResBodySizeUponTimeout
  | .maxOverallPprocessingTimeUntilVerdict
  | .maxReqPprocessingTimeUntilVerdict
  | .maxResPprocessingTimeUntilVerdict => .max
  | .minReqBodySizeUponTimeout
  | .minResBodySizeUponTimeout
  | .minOverallPprocessingTimeUntilVerdict
  | .minReqPprocessingTimeUntilVerdict
  | .minResPprocessingTimeUntilVerdict => .min
  | _ => .counter

/-- The globals of the nginx attachment, and the fields of the same names of a
nano attachment. -/
structure MetricData where
  metricData : AttachmentMetricType → UInt64
  metricAverageDataDivisor : AttachmentMetricType → UInt64

def resetMetricData : MetricData :=
  { metricData := fun _ => 0
    metricAverageDataDivisor := fun _ => 0 }

section Updates

variable (metricType : AttachmentMetricType) (value : UInt64)
  (metrics : MetricData)

def MetricData.set : MetricData :=
  { metrics with
    metricData := Function.update metrics.metricData metricType value }

def updateCounterMetricField : MetricData :=
  metrics.set metricType (metrics.metricData metricType + value)

def updateAverageMetricField : MetricData :=
  let data := metrics.metricData metricType
  let divisor := metrics.metricAverageDataDivisor metricType
  { metrics.set metricType ((data * divisor + value) / (divisor + 1)) with
    metricAverageDataDivisor :=
      Function.update metrics.metricAverageDataDivisor metricType
        (divisor + 1) }

def updateMaxMetricField : MetricData :=
  if metrics.metricData metricType < value then metrics.set metricType value
  else metrics

def updateMinMetricField : MetricData :=
  if metrics.metricData metricType = 0 then metrics.set metricType value
  else if metrics.metricData metricType > value then
    metrics.set metricType value
  else metrics

def updateMetricField : MetricData :=
  match metricType.strategy with
  | .average =>
      if value ≠ 0 then updateAverageMetricField metricType value metrics
      else metrics
  | .max =>
      if value ≠ 0 then updateMaxMetricField metricType value metrics
      else metrics
  | .min =>
      if value ≠ 0 then updateMinMetricField metricType value metrics
      else metrics
  | .counter => updateCounterMetricField metricType value metrics

end Updates

/-- The message of a report. -/
structure NanoHttpMetricData where
  dataType : AttachmentDataType
  data : AttachmentMetricType → UInt64

/-- A report, and whether its sender returned success. -/
structure MetricReport where
  message : NanoHttpMetricData
  accepted : Bool

def metricReport (metrics : MetricData) (accepted : Bool) : MetricReport :=
  { message :=
      { dataType := .metricDataFromPlugin
        data := metrics.metricData }
    accepted }

def Nano.nanoSendMetricDataSender (attempts : Fin 5 → Attempt)
    (metrics : MetricData) : MetricReport × MetricData :=
  let res := (sendSessionDataToService 0 .sync attempts).result
  if res ≠ .ok then (metricReport metrics false, metrics)
  else (metricReport metrics true, resetMetricData)

def Nginx.ngxHttpCpMetricDataSender {mode : WaitMode}
    (attempts : Fin 5 → Attempt mode 0) (metrics : MetricData) :
    MetricReport × MetricData :=
  let res := (ngxHttpCpSendDataToService attempts).result
  (metricReport metrics (decide (res = .ok)), resetMetricData)

/-- An update, or a report with what its transport meets. -/
inductive MetricCall (τ : Type*) where
  | updateMetricField (metricType : AttachmentMetricType) (value : UInt64)
  | sendMetricData (transport : τ)

section Runs

variable {τ : Type*} (sender : τ → MetricData → MetricReport × MetricData)

def metricStep (metrics : MetricData) :
    MetricCall τ → Option MetricReport × MetricData
  | .updateMetricField metricType value =>
      (none, OpenAppsec.updateMetricField metricType value metrics)
  | .sendMetricData transport =>
      let sent := sender transport metrics
      (some sent.1, sent.2)

/-- What a call adds to a metric. -/
def added (metricType : AttachmentMetricType) (call : MetricCall τ)
    (_ : Option MetricReport) : Nat :=
  match call with
  | .updateMetricField updated value =>
      if updated = metricType then value.toNat else 0
  | .sendMetricData _ => 0

/-- What an accepted report says of a metric. -/
def reported (metricType : AttachmentMetricType) (_ : MetricCall τ)
    (report : Option MetricReport) : Nat :=
  match report with
  | none => 0
  | some report =>
      if report.accepted then (report.message.data metricType).toNat else 0

/-- The updates are a counter's accepted reports and what it still holds. -/
def CounterBalances (metrics : MetricData) (calls : List (MetricCall τ))
    (metricType : AttachmentMetricType) : Prop :=
  let ran := Trace.run (metricStep sender) metrics calls
  (metrics.metricData metricType).toNat +
      Trace.tally (added metricType) calls ran.1 =
    Trace.tally (reported metricType) calls ran.1 +
      (ran.2.metricData metricType).toNat

instance (metrics : MetricData) (calls : List (MetricCall τ))
    (metricType : AttachmentMetricType) :
    Decidable (CounterBalances sender metrics calls metricType) :=
  inferInstanceAs (Decidable (_ = _))

/-- A report that is not accepted leaves the stored values unchanged. -/
def RefusalKeeps (metrics : MetricData) : MetricCall τ → Prop
  | .updateMetricField _ _ => True
  | .sendMetricData transport =>
      (sender transport metrics).1.accepted = false →
        (sender transport metrics).2.metricData = metrics.metricData

/-- Every counter balances, and every refused report keeps the values. -/
def MetricsConserved (metrics : MetricData) (calls : List (MetricCall τ)) :
    Prop :=
  (∀ metricType, metricType.strategy = .counter →
      CounterBalances sender metrics calls metricType) ∧
    Trace.Along (metricStep sender) (RefusalKeeps sender) metrics calls

/-- An update of a counter that 64 bits can hold. -/
def CounterFits (metrics : MetricData) : MetricCall τ → Prop
  | .updateMetricField metricType value =>
      metricType.strategy = .counter →
        (metrics.metricData metricType).toNat + value.toNat < 2 ^ 64
  | .sendMetricData _ => True

/-- A refused report that has nothing to say. -/
def RefusedEmpty (metrics : MetricData) : MetricCall τ → Prop
  | .updateMetricField _ _ => True
  | .sendMetricData transport =>
      (sender transport metrics).1.accepted = false →
        ∀ metricType, metrics.metricData metricType = 0

/-- What a counter loses in a call. -/
def counterLoss (metricType : AttachmentMetricType) (metrics : MetricData) :
    MetricCall τ → Nat
  | .updateMetricField updated value =>
      if updated = metricType ∧
          2 ^ 64 ≤ (metrics.metricData metricType).toNat + value.toNat then
        2 ^ 64
      else 0
  | .sendMetricData transport =>
      if (sender transport metrics).1.accepted then 0
      else
        (metrics.metricData metricType).toNat -
          ((sender transport metrics).2.metricData metricType).toNat

/-- A report says what is stored, clears it when it is accepted, and never
adds to it. -/
structure ReportsStored : Prop where
  message : ∀ transport metrics,
    (sender transport metrics).1.message.data = metrics.metricData
  accepted : ∀ transport metrics,
    (sender transport metrics).1.accepted = true →
      (sender transport metrics).2 = resetMetricData
  refused : ∀ transport metrics metricType,
    ((sender transport metrics).2.metricData metricType).toNat ≤
      (metrics.metricData metricType).toNat

end Runs

theorem updateMetricField_other {metricType updated : AttachmentMetricType}
    (other : updated ≠ metricType) (value : UInt64) (metrics : MetricData) :
    (updateMetricField updated value metrics).metricData metricType =
      metrics.metricData metricType := by
  have set (stored : UInt64) :
      (metrics.set updated stored).metricData metricType =
        metrics.metricData metricType :=
    Function.update_of_ne (Ne.symm other) _ _
  unfold updateMetricField
  cases updated.strategy with
  | counter => exact set _
  | average =>
      dsimp only
      split
      · exact set _
      · rfl
  | max =>
      unfold updateMaxMetricField
      dsimp only
      split
      · split
        · exact set _
        · rfl
      · rfl
  | min =>
      unfold updateMinMetricField
      dsimp only
      split
      · split
        · exact set _
        · split
          · exact set _
          · rfl
      · rfl

theorem updateMetricField_counter {metricType : AttachmentMetricType}
    (counter : metricType.strategy = .counter) (value : UInt64)
    (metrics : MetricData) :
    (updateMetricField metricType value metrics).metricData metricType =
      metrics.metricData metricType + value := by
  rw [updateMetricField, counter]
  exact Function.update_self _ _ _

section Runs

variable {τ : Type*} {sender : τ → MetricData → MetricReport × MetricData}

theorem metricStep_balanced (law : ReportsStored sender)
    {metricType : AttachmentMetricType}
    (counter : metricType.strategy = .counter) (metrics : MetricData)
    (call : MetricCall τ) :
    (metrics.metricData metricType).toNat +
        added metricType call (metricStep sender metrics call).1 =
      reported metricType call (metricStep sender metrics call).1 +
          ((metricStep sender metrics call).2.metricData metricType).toNat +
        counterLoss sender metricType metrics call := by
  cases call with
  | updateMetricField updated value =>
      simp only [metricStep, added, reported, counterLoss]
      by_cases same : updated = metricType
      · cases same
        rw [updateMetricField_counter counter, UInt64.toNat_add]
        have stored := (metrics.metricData metricType).toNat_lt
        have more := value.toNat_lt
        simp only [true_and, if_true]
        split <;> omega
      · simp only [updateMetricField_other same, same, false_and, if_false]
        omega
  | sendMetricData transport =>
      have bounded := law.refused transport metrics metricType
      simp only [metricStep, added, reported, counterLoss]
      cases accepted : (sender transport metrics).1.accepted with
      | true =>
          simp [law.message, law.accepted transport metrics accepted,
            resetMetricData]
      | false =>
          simp only [Bool.false_eq_true, if_false]
          omega

theorem counterBalances_iff (law : ReportsStored sender)
    {metricType : AttachmentMetricType}
    (counter : metricType.strategy = .counter) (metrics : MetricData)
    (calls : List (MetricCall τ)) :
    CounterBalances sender metrics calls metricType ↔
      Trace.Along (metricStep sender)
        (fun metrics call => counterLoss sender metricType metrics call = 0)
        metrics calls :=
  Trace.run_balanced_iff (metricStep_balanced law counter) metrics calls

theorem metricsConserved_iff (law : ReportsStored sender)
    (metrics : MetricData) (calls : List (MetricCall τ)) :
    MetricsConserved sender metrics calls ↔
      Trace.Along (metricStep sender)
        (fun metrics call =>
          (∀ metricType, metricType.strategy = .counter →
            counterLoss sender metricType metrics call = 0) ∧
          RefusalKeeps sender metrics call)
        metrics calls := by
  constructor
  · rintro ⟨balances, keeps⟩
    refine Trace.Along.and (Trace.along_forall_iff.mpr ?_) keeps
    intro metricType
    by_cases counter : metricType.strategy = .counter
    · apply Trace.Along.mono _
        ((counterBalances_iff law counter metrics calls).mp
          (balances metricType counter))
      exact fun _ _ lossless _ => lossless
    · exact Trace.along_of_forall _
        (fun _ _ isCounter => absurd isCounter counter) _ _
  · intro along
    constructor
    · intro metricType counter
      apply (counterBalances_iff law counter metrics calls).mpr
      exact along.mono fun _ _ both => both.1 metricType counter
    · exact along.mono fun _ _ both => both.2

theorem counterLoss_update_iff (metrics : MetricData)
    (updated : AttachmentMetricType) (value : UInt64) :
    (∀ metricType, metricType.strategy = .counter →
        counterLoss sender metricType metrics
          (.updateMetricField updated value) = 0) ↔
      CounterFits metrics (.updateMetricField updated value : MetricCall τ) := by
  constructor
  · intro lossless counter
    by_contra overflow
    have lost := lossless updated counter
    rw [counterLoss, if_pos ⟨rfl, Nat.le_of_not_lt overflow⟩] at lost
    cases lost
  · intro fits metricType counter
    apply if_neg
    rintro ⟨rfl, overflow⟩
    exact absurd (fits counter) (Nat.not_lt.mpr overflow)

end Runs

theorem Nano.nanoSendMetricDataSender_reportsStored :
    ReportsStored nanoSendMetricDataSender where
  message attempts metrics := by
    rw [nanoSendMetricDataSender]
    split <;> rfl
  accepted attempts metrics := by
    rw [nanoSendMetricDataSender]
    split
    · exact nofun
    · exact fun _ => rfl
  refused attempts metrics metricType := by
    rw [nanoSendMetricDataSender]
    split
    · exact Nat.le_refl _
    · exact Nat.zero_le _

theorem Nginx.ngxHttpCpMetricDataSender_reportsStored {mode : WaitMode} :
    ReportsStored (@ngxHttpCpMetricDataSender mode) where
  message _ _ := rfl
  accepted _ _ _ := rfl
  refused _ _ _ := Nat.zero_le _

theorem Nginx.sendMetricData_keeps_iff {mode : WaitMode}
    (attempts : Fin 5 → Attempt mode 0) (metrics : MetricData) :
    ((∀ metricType, metricType.strategy = .counter →
          counterLoss ngxHttpCpMetricDataSender metricType metrics
            (.sendMetricData attempts) = 0) ∧
        RefusalKeeps ngxHttpCpMetricDataSender metrics
          (.sendMetricData attempts)) ↔
      CounterFits metrics (.sendMetricData attempts) ∧
        RefusedEmpty ngxHttpCpMetricDataSender metrics
          (.sendMetricData attempts) := by
  constructor
  · rintro ⟨-, keeps⟩
    refine ⟨trivial, ?_⟩
    intro refused metricType
    exact (congrFun (keeps refused) metricType).symm
  · rintro ⟨-, empty⟩
    constructor
    · intro metricType _
      rw [counterLoss]
      split
      · rfl
      · rename_i refused
        rw [empty (Bool.not_eq_true _ ▸ refused) metricType]
        exact Nat.zero_sub _
    · intro refused
      exact (funext (empty refused)).symm

/-- In both attachments the books balance and refused reports keep the values
precisely when no counter overflows and, in the nginx attachment, every
refused report is made while nothing is stored. -/
theorem metrics_conserved_iff (mode : Nginx.WaitMode) (metrics : MetricData)
    (nanoCalls : List (MetricCall (Fin 5 → Nano.Attempt)))
    (nginxCalls : List (MetricCall (Fin 5 → Nginx.Attempt mode 0))) :
    (MetricsConserved Nano.nanoSendMetricDataSender metrics nanoCalls ↔
        Trace.Along (metricStep Nano.nanoSendMetricDataSender) CounterFits
          metrics nanoCalls) ∧
      (MetricsConserved Nginx.ngxHttpCpMetricDataSender metrics nginxCalls ↔
        Trace.Along (metricStep Nginx.ngxHttpCpMetricDataSender)
          (fun metrics call => CounterFits metrics call ∧
            RefusedEmpty Nginx.ngxHttpCpMetricDataSender metrics call)
          metrics nginxCalls) := by
  constructor
  · rw [metricsConserved_iff Nano.nanoSendMetricDataSender_reportsStored]
    apply Trace.along_congr
    intro metrics call
    cases call with
    | updateMetricField updated value =>
        rw [counterLoss_update_iff]
        exact and_iff_left trivial
    | sendMetricData attempts =>
        apply iff_of_true _ trivial
        unfold RefusalKeeps
        simp only [counterLoss, Nano.nanoSendMetricDataSender]
        split <;> simp [metricReport]
  · rw [metricsConserved_iff Nginx.ngxHttpCpMetricDataSender_reportsStored]
    apply Trace.along_congr
    intro metrics call
    cases call with
    | updateMetricField updated value =>
        rw [counterLoss_update_iff]
        exact Iff.rfl
    | sendMetricData attempts =>
        exact Nginx.sendMetricData_keeps_iff attempts metrics

/-- A count of one is lost with a report that finds the queue full. -/
theorem refused_report_loses_count :
    let wait : Nginx.Wait ⟨true, 3, false⟩ 0 :=
      { signalled := .ok
        events := [.ready false (.complete 0)]
        result := .ok
        returns := by decide }
    ¬MetricsConserved Nginx.ngxHttpCpMetricDataSender resetMetricData
        [.updateMetricField .dropVerdictsCount 1,
          .sendMetricData fun _ => { errCode := -3, wait }] := by
  intro wait conserved
  exact absurd (conserved.1 .dropVerdictsCount rfl) (by decide)

end OpenAppsec
