import OpenAppsec.Attachment.Metrics
import OpenAppsec.Attachment.Replies

/-!
# Transparent mode of the nginx attachment

Failed inspections are counted over a failing interval.  When their weight is
above a maximum, the attachment turns transparent for a period whose length
grows from level to level.  Every request asks for the mode, and outside of it
the question clears the count and restarts the interval.

Times are in microseconds.
-/

namespace OpenAppsec.Nginx

/-- `get_timeout_val_sec`. -/
def getTimeoutValSec (now deltaTimeInSec : Nat) : Nat :=
  now + deltaTimeInSec * 1000000

/-- `is_timeout_reached`: the timeout lies before the current time. -/
def isTimeoutReached (timeout now : Nat) : Bool :=
  decide (timeout < now)

structure FailureState where
  maxAllowedFailedRequests : Nat
  failingIntervalBoundry : Nat
  transparentPeriodSec : Nat

def failedSessionsMonitor : List FailureState :=
  [{ maxAllowedFailedRequests := 5
     failingIntervalBoundry := 20
     transparentPeriodSec := 60 },
    { maxAllowedFailedRequests := 5
      failingIntervalBoundry := 20
      transparentPeriodSec := 300 },
    { maxAllowedFailedRequests := 5
      failingIntervalBoundry := 20
      transparentPeriodSec := 600 }]

def failedSessionsMonitorLength : Nat := 3

structure PeriodicFailure where
  maxAllowedFailedRequests : Nat
  currentFailedRequests : Nat
  isTransparentModeActive : Bool
  transparentIntervalBoundry : Nat
  transparentInterval : Nat
  failingInterval : Nat

/-- The static variables of the file, and the metrics. -/
structure FailingState where
  currentPeriodicFailure : PeriodicFailure
  currentFailState : Nat
  shouldUpdateTimeout : Bool
  transparentModeIsActive : Bool
  metrics : MetricData

/-- The fields of the session data that the functions use; the overall time is
what the clock gives for it. -/
structure InspectedSession where
  verdict : ServiceVerdict
  overallProcessTime : UInt64
  reqProccesingTime : UInt64
  resProccesingTime : UInt64

def FailingState.count (metricType : AttachmentMetricType) (value : UInt64)
    (state : FailingState) : FailingState :=
  { state with metrics := updateMetricField metricType value state.metrics }

/-- `failed_sessions_monitor[current_fail_state]`; `none` when the level lies
outside the array. -/
def FailingState.monitor (state : FailingState) : Option FailureState :=
  failedSessionsMonitor[state.currentFailState]?

def resetFailureState (now : Nat) (state : FailingState) :
    Option FailingState := do
  let level ← state.monitor
  return { state with
    currentPeriodicFailure :=
      { state.currentPeriodicFailure with
        maxAllowedFailedRequests := level.maxAllowedFailedRequests
        failingInterval :=
          getTimeoutValSec now level.failingIntervalBoundry } }

/-- The test at the start of `is_in_transparent_mode`. -/
def FailingState.isTransparent (state : FailingState) (now : Nat) : Bool :=
  state.currentPeriodicFailure.isTransparentModeActive &&
    !isTimeoutReached state.currentPeriodicFailure.transparentInterval now

def isInTransparentMode (now : Nat) (state : FailingState) :
    Option (Bool × FailingState) :=
  if state.isTransparent now then
    let state :=
      if state.transparentModeIsActive then state
      else
        state.count .totalTransparentsTime <| UInt64.ofNat
          state.currentPeriodicFailure.transparentIntervalBoundry
    some (true, { state with transparentModeIsActive := true })
  else do
    let state ← resetFailureState now
      { state with
        transparentModeIsActive := false
        currentPeriodicFailure :=
          { state.currentPeriodicFailure with
            isTransparentModeActive := false
            currentFailedRequests := 0 } }
    return (false, state)

def resetTransparentMode (now : Nat) (state : FailingState) :
    Option FailingState := do
  let level ← failedSessionsMonitor[0]?
  return { state with
    currentFailState := 0
    shouldUpdateTimeout := false
    currentPeriodicFailure :=
      { maxAllowedFailedRequests := level.maxAllowedFailedRequests
        currentFailedRequests := 0
        isTransparentModeActive := false
        transparentIntervalBoundry := level.transparentPeriodSec
        transparentInterval := 0
        failingInterval :=
          getTimeoutValSec now level.failingIntervalBoundry } }

def activateTransparentMode (now : Nat) (state : FailingState) :
    Option FailingState := do
  let level ← state.monitor
  return { state with
    currentPeriodicFailure :=
      { state.currentPeriodicFailure with
        isTransparentModeActive := true
        transparentInterval := getTimeoutValSec now level.transparentPeriodSec
        transparentIntervalBoundry := level.transparentPeriodSec } }

def ngxHttpCpReportTimeMetrics (session : InspectedSession)
    (state : FailingState) : FailingState :=
  state
    |>.count .averageOverallPprocessingTimeUntilVerdict
      session.overallProcessTime
    |>.count .maxOverallPprocessingTimeUntilVerdict session.overallProcessTime
    |>.count .minOverallPprocessingTimeUntilVerdict session.overallProcessTime
    |>.count .averageReqPprocessingTimeUntilVerdict session.reqProccesingTime
    |>.count .maxReqPprocessingTimeUntilVerdict session.reqProccesingTime
    |>.count .minReqPprocessingTimeUntilVerdict session.reqProccesingTime
    |>.count .averageResPprocessingTimeUntilVerdict session.resProccesingTime
    |>.count .maxResPprocessingTimeUntilVerdict session.resProccesingTime
    |>.count .minResPprocessingTimeUntilVerdict session.resProccesingTime

/-- The level after an activation.  The message about the new interval reads
the array at the new level. -/
def advanceFailState (state : FailingState) : Option FailingState :=
  if state.currentFailState < failedSessionsMonitorLength then do
    let state := { state with currentFailState := state.currentFailState + 1 }
    let _ ← state.monitor
    return state
  else
    some { state with currentFailState := failedSessionsMonitorLength - 1 }

/-- A failure whose weight has been counted. -/
def judgeFailure (now : Nat) (state : FailingState) : Option FailingState :=
  let periodic := state.currentPeriodicFailure
  if isTimeoutReached periodic.failingInterval now then
    resetFailureState now state
  else if periodic.currentFailedRequests ≤ periodic.maxAllowedFailedRequests
  then some state
  else do
    let state ← activateTransparentMode now state
    advanceFailState state

/-- The count has 64 bits. -/
def FailingState.addFailure (weight : Nat) (state : FailingState) :
    FailingState :=
  { state with
    currentPeriodicFailure :=
      { state.currentPeriodicFailure with
        currentFailedRequests :=
          (state.currentPeriodicFailure.currentFailedRequests + weight) %
            2 ^ 64 } }

/-- The verdict of the session, and the state. -/
def handleInspectionFailure (now weight : Nat) (failModeVerdict : NgxResult)
    (session : InspectedSession) (state : FailingState) :
    Option (ServiceVerdict × FailingState) :=
  if session.verdict ≠ .inspect then some (session.verdict, state)
  else
    let state := ngxHttpCpReportTimeMetrics session state
    let (verdict, state) : ServiceVerdict × FailingState :=
      if failModeVerdict = .ok then
        (.accept, state.count .inspectionOpenFailuresCount 1)
      else
        (.drop, state.count .inspectionCloseFailuresCount 1)
    (judgeFailure now (state.addFailure weight)).map fun state =>
      (verdict, state)

def handleInspectionSuccess (now : Nat) (session : InspectedSession)
    (state : FailingState) : FailingState :=
  let state := ngxHttpCpReportTimeMetrics session
    (state.count .inspectionSuccessesCount 1)
  let periodic := state.currentPeriodicFailure
  if !isTimeoutReached periodic.failingInterval now then state
  else if periodic.currentFailedRequests ≠ 0 ∨ state.shouldUpdateTimeout = true
  then state
  else { state with currentFailState := 0 }

inductive MonitorOperation where
  | resetTransparentMode
  | isInTransparentMode
  | handleInspectionFailure (weight : Nat) (failModeVerdict : NgxResult)
      (session : InspectedSession)
  | handleInspectionSuccess (session : InspectedSession)

/-- A call of one of the functions, with the current time. -/
structure MonitorCall where
  now : Nat
  operation : MonitorOperation

/-- The state after a call; `none` when it uses a level outside the array. -/
def MonitorCall.perform (call : MonitorCall) (state : FailingState) :
    Option FailingState :=
  match call.operation with
  | .resetTransparentMode => Nginx.resetTransparentMode call.now state
  | .isInTransparentMode =>
      (Nginx.isInTransparentMode call.now state).map Prod.snd
  | .handleInspectionFailure weight failModeVerdict session =>
      (Nginx.handleInspectionFailure call.now weight failModeVerdict session
        state).map Prod.snd
  | .handleInspectionSuccess session =>
      some (Nginx.handleInspectionSuccess call.now session state)

/-- The last moment of a failing interval, and the weight of the failures
reported since its start. -/
structure FailingInterval where
  boundary : Nat
  reported : Nat

def FailingInterval.start (now reported : Nat) : FailingInterval :=
  { boundary := getTimeoutValSec now 20, reported }

/-- The interval starts with a reset, and again with the first failure after
its end.  A question for the mode restarts it only while it holds no failure,
or after its end. -/
def FailingInterval.after (interval : FailingInterval) (state : FailingState)
    (call : MonitorCall) : FailingInterval :=
  match call.operation with
  | .resetTransparentMode => .start call.now 0
  | .isInTransparentMode =>
      if state.isTransparent call.now then interval
      else if interval.reported = 0 ∨ interval.boundary < call.now then
        .start call.now 0
      else interval
  | .handleInspectionFailure weight _ session =>
      if session.verdict ≠ .inspect then interval
      else if interval.boundary < call.now then .start call.now weight
      else { interval with reported := interval.reported + weight }
  | .handleInspectionSuccess _ => interval

/-- A state with the failing interval it is in. -/
structure Monitored where
  state : FailingState
  interval : FailingInterval

def Monitored.step (monitored : Monitored) (call : MonitorCall) :
    Option Monitored :=
  (call.perform monitored.state).map fun state =>
    { state, interval := monitored.interval.after monitored.state call }

/-- After a reported failure that leaves too much weight in the interval,
transparent mode is active. -/
def Monitored.Triggers (call : MonitorCall) (next : Monitored) : Prop :=
  match call.operation with
  | .handleInspectionFailure _ _ session =>
      session.verdict = .inspect →
        next.state.currentPeriodicFailure.maxAllowedFailedRequests <
            next.interval.reported →
          call.now ≤ next.interval.boundary →
            next.state.isTransparent call.now = true
  | _ => True

/-- The call uses valid levels only, and triggers transparent mode. -/
def Monitored.Escalates (monitored : Monitored) (call : MonitorCall) : Prop :=
  match monitored.step call with
  | none => False
  | some next => next.Triggers call

/-- No failure is forgotten by a question for the mode, none starts an interval
that it fills alone, and none activates the mode from the highest level. -/
def Monitored.Orderly (monitored : Monitored) (call : MonitorCall) : Prop :=
  let periodic := monitored.state.currentPeriodicFailure
  match call.operation with
  | .isInTransparentMode =>
      monitored.state.isTransparent call.now = true ∨
        periodic.currentFailedRequests = 0 ∨
        periodic.failingInterval < call.now
  | .handleInspectionFailure weight _ session =>
      session.verdict = .inspect →
        periodic.currentFailedRequests + weight < 2 ^ 64 ∧
          (periodic.failingInterval < call.now →
            weight ≤ periodic.maxAllowedFailedRequests) ∧
          (call.now ≤ periodic.failingInterval →
            periodic.maxAllowedFailedRequests <
                periodic.currentFailedRequests + weight →
              monitored.state.currentFailState <
                failedSessionsMonitorLength - 1)
  | _ => True

instance (call : MonitorCall) (next : Monitored) :
    Decidable (next.Triggers call) := by
  unfold Monitored.Triggers
  split <;> infer_instance

instance (monitored : Monitored) (call : MonitorCall) :
    Decidable (monitored.Escalates call) := by
  unfold Monitored.Escalates
  split <;> infer_instance

@[simp] theorem FailingState.count_periodic
    (metricType : AttachmentMetricType) (value : UInt64)
    (state : FailingState) :
    (state.count metricType value).currentPeriodicFailure =
      state.currentPeriodicFailure :=
  rfl

@[simp] theorem FailingState.count_level
    (metricType : AttachmentMetricType) (value : UInt64)
    (state : FailingState) :
    (state.count metricType value).currentFailState =
      state.currentFailState :=
  rfl

section TimeMetrics

variable (session : InspectedSession) (state : FailingState)

@[simp] theorem ngxHttpCpReportTimeMetrics_periodic :
    (ngxHttpCpReportTimeMetrics session state).currentPeriodicFailure =
      state.currentPeriodicFailure := by
  simp only [ngxHttpCpReportTimeMetrics, FailingState.count_periodic]

@[simp] theorem ngxHttpCpReportTimeMetrics_level :
    (ngxHttpCpReportTimeMetrics session state).currentFailState =
      state.currentFailState := by
  simp only [ngxHttpCpReportTimeMetrics, FailingState.count_level]

end TimeMetrics

theorem FailingState.monitor_of_lt {state : FailingState}
    (valid : state.currentFailState < failedSessionsMonitorLength) :
    ∃ period, state.monitor =
      some
        { maxAllowedFailedRequests := 5
          failingIntervalBoundry := 20
          transparentPeriodSec := period } := by
  unfold monitor
  match level : state.currentFailState, valid with
  | 0, _ => exact ⟨60, rfl⟩
  | 1, _ => exact ⟨300, rfl⟩
  | 2, _ => exact ⟨600, rfl⟩

/-- The level is valid, the code and the interval agree on its end, and no
reported failure is missing from the count. -/
structure Monitored.Tracks (monitored : Monitored) : Prop where
  level : monitored.state.currentFailState < failedSessionsMonitorLength
  allowed :
    monitored.state.currentPeriodicFailure.maxAllowedFailedRequests = 5
  boundary : monitored.interval.boundary =
    monitored.state.currentPeriodicFailure.failingInterval
  reported : monitored.interval.reported ≤
    monitored.state.currentPeriodicFailure.currentFailedRequests

theorem resetFailureState_spec {state : FailingState} (now : Nat)
    (valid : state.currentFailState < failedSessionsMonitorLength) :
    resetFailureState now state =
      some { state with
        currentPeriodicFailure :=
          { state.currentPeriodicFailure with
            maxAllowedFailedRequests := 5
            failingInterval := getTimeoutValSec now 20 } } := by
  obtain ⟨period, level⟩ := FailingState.monitor_of_lt valid
  rw [resetFailureState, level]
  rfl

theorem activate_spec {state : FailingState} (now : Nat)
    (low : state.currentFailState < failedSessionsMonitorLength - 1) :
    ∃ next, (activateTransparentMode now state).bind advanceFailState =
        some next ∧
      next.currentFailState = state.currentFailState + 1 ∧
      next.currentPeriodicFailure.maxAllowedFailedRequests =
        state.currentPeriodicFailure.maxAllowedFailedRequests ∧
      next.currentPeriodicFailure.failingInterval =
        state.currentPeriodicFailure.failingInterval ∧
      next.currentPeriodicFailure.currentFailedRequests =
        state.currentPeriodicFailure.currentFailedRequests ∧
      next.isTransparent now = true := by
  have valid : state.currentFailState < failedSessionsMonitorLength :=
    Nat.lt_of_lt_of_le low (Nat.sub_le _ _)
  obtain ⟨period, level⟩ := FailingState.monitor_of_lt valid
  let active : FailingState :=
    { state with
      currentPeriodicFailure :=
        { state.currentPeriodicFailure with
          isTransparentModeActive := true
          transparentInterval := getTimeoutValSec now period
          transparentIntervalBoundry := period } }
  let raised : FailingState :=
    { active with currentFailState := state.currentFailState + 1 }
  have above : raised.currentFailState < failedSessionsMonitorLength :=
    Nat.add_lt_of_lt_sub low
  obtain ⟨_, raisedLevel⟩ := FailingState.monitor_of_lt above
  have advanced : advanceFailState active = some raised := by
    change (if state.currentFailState < _ then raised.monitor.bind _ else _) =
      _
    rw [if_pos valid, raisedLevel]
    rfl
  rw [activateTransparentMode, level]
  refine ⟨raised, advanced, rfl, rfl, rfl, rfl, ?_⟩
  · have later : ¬getTimeoutValSec now period < now :=
      Nat.not_lt.mpr (Nat.le_add_right now _)
    simp [FailingState.isTransparent, isTimeoutReached, raised, active,
      later]

theorem handleInspectionFailure_of_inspect (now weight : Nat)
    (failModeVerdict : NgxResult) {session : InspectedSession}
    (inspected : session.verdict = .inspect) (state : FailingState) :
    ∃ counted,
      counted.currentPeriodicFailure =
          (state.addFailure weight).currentPeriodicFailure ∧
        counted.currentFailState = state.currentFailState ∧
        (handleInspectionFailure now weight failModeVerdict session
            state).map Prod.snd = judgeFailure now counted := by
  rw [handleInspectionFailure, if_neg (not_not.mpr inspected)]
  generalize same : ngxHttpCpReportTimeMetrics session state = timed
  have periodic : timed.currentPeriodicFailure =
      state.currentPeriodicFailure := by
    rw [← same, ngxHttpCpReportTimeMetrics_periodic]
  have level : timed.currentFailState = state.currentFailState := by
    rw [← same, ngxHttpCpReportTimeMetrics_level]
  by_cases failOpen : failModeVerdict = .ok
  · refine ⟨(timed.count .inspectionOpenFailuresCount 1).addFailure weight,
      ?_, level, ?_⟩
    · simp only [FailingState.addFailure, FailingState.count_periodic,
        periodic]
    · simp only [if_pos failOpen, Option.map_map]
      exact congrFun Option.map_id _
  · refine ⟨(timed.count .inspectionCloseFailuresCount 1).addFailure weight,
      ?_, level, ?_⟩
    · simp only [FailingState.addFailure, FailingState.count_periodic,
        periodic]
    · simp only [if_neg failOpen, Option.map_map]
      exact congrFun Option.map_id _

theorem Monitored.Tracks.failure {monitored : Monitored}
    (tracks : monitored.Tracks) {now weight : Nat}
    (failModeVerdict : NgxResult) (session : InspectedSession)
    (orderly : monitored.Orderly
      { now
        operation :=
          .handleInspectionFailure weight failModeVerdict session }) :
    ∃ next, monitored.step
        { now
          operation :=
            .handleInspectionFailure weight failModeVerdict session } =
        some next ∧
      next.Tracks ∧
      next.Triggers
        { now
          operation :=
            .handleInspectionFailure weight failModeVerdict session } := by
  by_cases inspected : session.verdict = .inspect
  · obtain ⟨fits, light, low⟩ := orderly inspected
    obtain ⟨counted, periodic, level, judged⟩ :=
      handleInspectionFailure_of_inspect now weight failModeVerdict inspected
        monitored.state
    have valid : counted.currentFailState < failedSessionsMonitorLength :=
      level ▸ tracks.level
    have count : counted.currentPeriodicFailure.currentFailedRequests =
        monitored.state.currentPeriodicFailure.currentFailedRequests +
          weight := by
      rw [periodic]
      exact Nat.mod_eq_of_lt fits
    have interval : counted.currentPeriodicFailure.failingInterval =
        monitored.state.currentPeriodicFailure.failingInterval :=
      (congrArg PeriodicFailure.failingInterval periodic).trans rfl
    have allowed : counted.currentPeriodicFailure.maxAllowedFailedRequests =
        5 :=
      (congrArg PeriodicFailure.maxAllowedFailedRequests periodic).trans
        tracks.allowed
    have bounded := tracks.reported
    simp only [step, MonitorCall.perform, judged, FailingInterval.after,
      if_neg (not_not.mpr inspected), judgeFailure, isTimeoutReached,
      decide_eq_true_eq, interval, ← tracks.boundary, count, allowed]
    rw [← tracks.boundary] at light low interval
    rw [tracks.allowed] at light low
    by_cases expired : monitored.interval.boundary < now
    · -- the failure opens an interval
      rw [if_pos expired, if_pos expired, resetFailureState_spec now valid]
      refine ⟨_, rfl, ⟨valid, rfl, rfl, ?_⟩, ?_⟩
      · change weight ≤ counted.currentPeriodicFailure.currentFailedRequests
        omega
      · intro _ heavy _
        exact absurd (light expired) (Nat.not_le.mpr heavy)
    rw [if_neg expired, if_neg expired]
    by_cases few : monitored.state.currentPeriodicFailure.currentFailedRequests
        + weight ≤ 5
    · rw [if_pos few]
      refine ⟨_, rfl, ⟨valid, allowed, interval.symm, ?_⟩, ?_⟩
      · exact count ▸ Nat.add_le_add_right bounded weight
      · intro _ heavy _
        have heavy : counted.currentPeriodicFailure.maxAllowedFailedRequests <
            monitored.interval.reported + weight := heavy
        omega
    · rw [if_neg few]
      have raised := low (Nat.not_lt.mp expired) (Nat.not_le.mp few)
      obtain ⟨next, activated, nextLevel, nextAllowed, nextInterval,
        nextCount, transparent⟩ := activate_spec now (level ▸ raised)
      refine ⟨_, congrArg _ activated, ?_, fun _ _ _ => transparent⟩
      refine ⟨?_, nextAllowed.trans allowed,
        (nextInterval.trans interval).symm, ?_⟩
      · exact nextLevel ▸ level ▸ Nat.add_lt_of_lt_sub raised
      · exact nextCount ▸ count ▸ Nat.add_le_add_right bounded weight
  · refine ⟨monitored, ?_, tracks, fun inspect => absurd inspect inspected⟩
    simp only [step, MonitorCall.perform, handleInspectionFailure,
      if_pos inspected, FailingInterval.after, Option.map_some]

theorem Monitored.Tracks.question {monitored : Monitored}
    (tracks : monitored.Tracks) {now : Nat}
    (orderly : monitored.Orderly
      { now, operation := .isInTransparentMode }) :
    ∃ next, monitored.step { now, operation := .isInTransparentMode } =
        some next ∧ next.Tracks := by
  simp only [step, MonitorCall.perform, isInTransparentMode,
    FailingInterval.after]
  cases transparent : monitored.state.isTransparent now with
  | true =>
      rw [if_pos rfl, if_pos rfl]
      refine ⟨_, rfl, ?_⟩
      constructor
      · dsimp only
        split
        · exact tracks.level
        · exact tracks.level
      · dsimp only
        split
        · exact tracks.allowed
        · exact tracks.allowed
      · dsimp only
        split
        · exact tracks.boundary
        · exact tracks.boundary
      · dsimp only
        split
        · exact tracks.reported
        · exact tracks.reported
  | false =>
      have restarts : monitored.interval.reported = 0 ∨
          monitored.interval.boundary < now := by
        rcases orderly with active | none | expired
        · exact nomatch transparent.symm.trans active
        · exact .inl (Nat.le_zero.mp (none ▸ tracks.reported))
        · exact .inr (tracks.boundary ▸ expired)
      rw [if_neg Bool.false_ne_true, if_neg Bool.false_ne_true,
        if_pos restarts, resetFailureState_spec now (by exact tracks.level)]
      exact ⟨_, rfl, tracks.level, rfl, rfl, Nat.le_refl 0⟩

theorem handleInspectionSuccess_periodic (now : Nat)
    (session : InspectedSession) (state : FailingState) :
    (handleInspectionSuccess now session state).currentPeriodicFailure =
        state.currentPeriodicFailure ∧
      ((handleInspectionSuccess now session state).currentFailState =
          state.currentFailState ∨
        (handleInspectionSuccess now session state).currentFailState = 0) := by
  rw [handleInspectionSuccess]
  generalize same : ngxHttpCpReportTimeMetrics session
    (state.count .inspectionSuccessesCount 1) = timed
  have periodic : timed.currentPeriodicFailure =
      state.currentPeriodicFailure := by
    rw [← same, ngxHttpCpReportTimeMetrics_periodic,
      FailingState.count_periodic]
  have level : timed.currentFailState = state.currentFailState := by
    rw [← same, ngxHttpCpReportTimeMetrics_level, FailingState.count_level]
  split
  · exact ⟨periodic, .inl level⟩
  · split
    · exact ⟨periodic, .inl level⟩
    · exact ⟨periodic, .inr rfl⟩

theorem Monitored.Tracks.step {monitored : Monitored}
    (tracks : monitored.Tracks) {call : MonitorCall}
    (orderly : monitored.Orderly call) :
    ∃ next, monitored.step call = some next ∧ next.Tracks ∧
      next.Triggers call := by
  obtain ⟨now, operation⟩ := call
  cases operation with
  | resetTransparentMode =>
      refine ⟨_, rfl, ?_, trivial⟩
      exact ⟨Nat.zero_lt_succ 2, rfl, rfl, Nat.le_refl 0⟩
  | isInTransparentMode =>
      obtain ⟨next, stepped, nextTracks⟩ := tracks.question orderly
      exact ⟨next, stepped, nextTracks, trivial⟩
  | handleInspectionFailure weight failModeVerdict session =>
      exact tracks.failure failModeVerdict session orderly
  | handleInspectionSuccess session =>
      obtain ⟨periodic, level⟩ :=
        handleInspectionSuccess_periodic now session monitored.state
      refine ⟨_, rfl, ?_, trivial⟩
      constructor
      · rcases level with same | reset
        · exact same.symm ▸ tracks.level
        · exact reset.symm ▸ Nat.zero_lt_succ 2
      · exact periodic.symm ▸ tracks.allowed
      · exact periodic.symm ▸ tracks.boundary
      · exact periodic.symm ▸ tracks.reported

instance (monitored : Monitored) (call : MonitorCall) :
    Decidable (monitored.Orderly call) := by
  unfold Monitored.Orderly
  dsimp only
  split <;> infer_instance

/-- In every run after a reset whose calls are orderly, every level is valid
when it is used, and too much weight in a failing interval always triggers
transparent mode. -/
theorem transparent_mode_escalates (monitored : Monitored) (now : Nat)
    (calls : List MonitorCall)
    (orderly : Trace.Every Monitored.step Monitored.Orderly monitored
      ({ now, operation := .resetTransparentMode } :: calls)) :
    Trace.Every Monitored.step Monitored.Escalates monitored
      ({ now, operation := .resetTransparentMode } :: calls) := by
  have start : Monitored.Tracks
      { state :=
          { monitored.state with
            currentFailState := 0
            shouldUpdateTimeout := false
            currentPeriodicFailure :=
              { maxAllowedFailedRequests := 5
                currentFailedRequests := 0
                isTransparentModeActive := false
                transparentIntervalBoundry := 60
                transparentInterval := 0
                failingInterval := getTimeoutValSec now 20 } }
        interval := .start now 0 } :=
    ⟨Nat.zero_lt_succ 2, rfl, rfl, Nat.le_refl 0⟩
  refine ⟨trivial, ?_⟩
  intro next reset
  cases reset
  apply Trace.every_of_invariant Monitored.Tracks _ start
    (orderly.2 _ rfl)
  intro monitored call tracks orderly
  obtain ⟨next, stepped, nextTracks, triggers⟩ := tracks.step orderly
  constructor
  · rw [Monitored.Escalates, stepped]
    exact triggers
  · intro other same
    cases stepped.symm.trans same
    exact nextTracks

section Samples

/-- The variables before the first reset. -/
def unsetMonitored : Monitored :=
  { state :=
      { currentPeriodicFailure :=
          { maxAllowedFailedRequests := 0
            currentFailedRequests := 0
            isTransparentModeActive := false
            transparentIntervalBoundry := 0
            transparentInterval := 0
            failingInterval := 0 }
        currentFailState := 0
        shouldUpdateTimeout := false
        transparentModeIsActive := false
        metrics := resetMetricData }
    interval := { boundary := 0, reported := 0 } }

/-- A failed inspection after one second. -/
def sampleFailure : MonitorCall :=
  { now := 1000000
    operation :=
      .handleInspectionFailure 1 .ok
        { verdict := .inspect
          overallProcessTime := 10
          reqProccesingTime := 10
          resProccesingTime := 0 } }

/-- The sixth failure after the reset triggers the mode. -/
theorem transparent_mode_escalates_on_six_failures :
    Trace.Every Monitored.step Monitored.Escalates unsetMonitored
        ({ now := 0, operation := .resetTransparentMode } ::
          List.replicate 6 sampleFailure) ∧
      (Trace.runPartial Monitored.step unsetMonitored
        ({ now := 0, operation := .resetTransparentMode } ::
          List.replicate 6 sampleFailure)).any
            (fun monitored => monitored.state.isTransparent 1000000) =
        true :=
  ⟨transparent_mode_escalates unsetMonitored 0 (List.replicate 6 sampleFailure)
    (by decide), by decide⟩

/-- Eight failures in one interval use a level outside the array, and six
failures with a question before each never trigger the mode. -/
theorem transparent_mode_fails :
    ¬Trace.Every Monitored.step Monitored.Escalates unsetMonitored
        ({ now := 0, operation := .resetTransparentMode } ::
          List.replicate 8 sampleFailure) ∧
      ¬Trace.Every Monitored.step Monitored.Escalates unsetMonitored
        ({ now := 0, operation := .resetTransparentMode } ::
          (List.replicate 6
            [{ now := 1000000, operation := .isInTransparentMode },
              sampleFailure]).flatten) := by
  decide

end Samples

end OpenAppsec.Nginx
