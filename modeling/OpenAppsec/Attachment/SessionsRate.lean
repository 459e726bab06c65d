import Mathlib.Data.UInt
import OpenAppsec.Attachment.Replies
import OpenAppsec.Library.SlidingWindow
import OpenAppsec.Library.Trace

/-!
# The session rate limit of the nginx attachment

New sessions are counted for each second of the last minute in a circular
array.  Each call expires the seconds since the call before it.  The clock is
read as an unsigned number of 32 bits, and zero marks an unset time.
-/

namespace OpenAppsec.Nginx

open SlidingWindow (Window recent)

/-- The indices of `sessions_per_second` are below sixty. -/
structure SessionsPerMinuteLimit where
  sessionsPerSecond : Nat → UInt32
  lastMinuteSessionsSum : UInt32
  lastSessionTime : UInt32

/-- `isFailOpenOnSessionLimit` and `getMaxSessionsPerMinute`. -/
structure SessionsLimitSettings where
  failOpenOnSessionLimit : Bool
  maxSessionsPerMinute : UInt32

/-- The global variables of the limit. -/
structure RateState where
  info : SessionsPerMinuteLimit
  sessionsPerMinuteLimitVerdict : ServiceVerdict
  maxSessionsPerMinute : UInt32

def RateState.unset : RateState :=
  { info :=
      { sessionsPerSecond := fun _ => 0
        lastMinuteSessionsSum := 0
        lastSessionTime := 0 }
    sessionsPerMinuteLimitVerdict := .accept
    maxSessionsPerMinute := 0 }

/-- The attachment's variables that a configuration sets. -/
def RateState.configure (settings : SessionsLimitSettings)
    (state : RateState) : RateState :=
  { state with
    sessionsPerMinuteLimitVerdict :=
      if settings.failOpenOnSessionLimit then .accept else .drop
    maxSessionsPerMinute := settings.maxSessionsPerMinute }

def getPeriodicSessionsLimitInfo (settings : SessionsLimitSettings)
    (time : UInt32) (state : RateState) : RateState :=
  if state.info.lastSessionTime = 0 then
    { state.configure settings with
      info := { state.info with lastSessionTime := time } }
  else state

/-- One round of the cleaning loop. -/
def expireSecond (expiredSession : UInt32) (limit : SessionsPerMinuteLimit) :
    SessionsPerMinuteLimit :=
  let periodicExpiredSession := (expiredSession % 60).toNat
  { limit with
    lastMinuteSessionsSum :=
      limit.lastMinuteSessionsSum -
        limit.sessionsPerSecond periodicExpiredSession
    sessionsPerSecond :=
      Function.update limit.sessionsPerSecond periodicExpiredSession 0 }

def expireSessions : Nat → UInt32 → SessionsPerMinuteLimit →
    SessionsPerMinuteLimit
  | 0, _, limit => limit
  | rounds + 1, expiredSession, limit =>
      expireSessions rounds (expiredSession - 1)
        (expireSecond expiredSession limit)

def oneMinute : UInt32 := 60

/-- The window at the current second. -/
def SessionsPerMinuteLimit.advance (currRealSecond : UInt32)
    (limit : SessionsPerMinuteLimit) : SessionsPerMinuteLimit :=
  let secondsSinceLastSession := currRealSecond - limit.lastSessionTime
  if secondsSinceLastSession > oneMinute then
    { sessionsPerSecond := fun _ => 0
      lastMinuteSessionsSum := 0
      lastSessionTime := currRealSecond }
  else if secondsSinceLastSession ≠ 0 then
    { expireSessions secondsSinceLastSession.toNat currRealSecond limit with
      lastSessionTime := currRealSecond }
  else limit

def SessionsPerMinuteLimit.addSession (currRealSecond : UInt32)
    (limit : SessionsPerMinuteLimit) : SessionsPerMinuteLimit :=
  let currRealPeriodicSecond := (currRealSecond % 60).toNat
  { limit with
    sessionsPerSecond :=
      Function.update limit.sessionsPerSecond currRealPeriodicSecond
        (limit.sessionsPerSecond currRealPeriodicSecond + 1)
    lastMinuteSessionsSum := limit.lastMinuteSessionsSum + 1 }

/-- The clock is read once for an unset time, and once for the call. -/
def enforceSessionsRate (settings : SessionsLimitSettings)
    (firstTime currRealSecond : UInt32) (state : RateState) :
    ServiceVerdict × RateState :=
  let state := getPeriodicSessionsLimitInfo settings firstTime state
  let verdict := state.sessionsPerMinuteLimitVerdict
  let maxSessions := state.maxSessionsPerMinute
  let info := (state.info.advance currRealSecond).addSession currRealSecond
  let state := { state with info }
  if maxSessions ≠ 0 ∧ info.lastMinuteSessionsSum > maxSessions then
    (verdict, state)
  else (.inspect, state)

/-- A call with the seconds that the clock shows and the configuration in
force, or a new configuration. -/
inductive RateInput where
  | enforceSessionsRate (settings : SessionsLimitSettings)
      (firstTime time : Nat)
  | configure (settings : SessionsLimitSettings)

/-- The globals, with the times of the calls so far. -/
structure RateRun where
  state : RateState
  history : List Nat

def RateRun.start : RateRun :=
  { state := .unset, history := [] }

def RateRun.step (run : RateRun) :
    RateInput → Option ServiceVerdict × RateRun
  | .enforceSessionsRate settings firstTime time =>
      let called := Nginx.enforceSessionsRate settings
        (UInt32.ofNat firstTime) (UInt32.ofNat time) run.state
      (some called.1,
        { state := called.2, history := time :: run.history })
  | .configure settings =>
      (none, { run with state := run.state.configure settings })

/-- No round of the cleaning loop takes more from the sum than it holds. -/
def NoUnderflow : Nat → UInt32 → SessionsPerMinuteLimit → Prop
  | 0, _, _ => True
  | rounds + 1, expiredSession, limit =>
      limit.sessionsPerSecond (expiredSession % 60).toNat ≤
          limit.lastMinuteSessionsSum ∧
        NoUnderflow rounds (expiredSession - 1)
          (expireSecond expiredSession limit)

/-- The cleaning loop of a call, if it runs, has no underflow. -/
def SessionsPerMinuteLimit.AdvancesSafely (currRealSecond : UInt32)
    (limit : SessionsPerMinuteLimit) : Prop :=
  let secondsSinceLastSession := currRealSecond - limit.lastSessionTime
  secondsSinceLastSession ≤ oneMinute →
    NoUnderflow secondsSinceLastSession.toNat currRealSecond limit

def SessionsPerMinuteLimit.slotSum (limit : SessionsPerMinuteLimit) : Nat :=
  ∑ second ∈ Finset.range 60, (limit.sessionsPerSecond second).toNat

/-- The sum is that of the slots and counts the calls of the last minute, and
the verdict follows the limit. -/
structure RateRun.Exact (run : RateRun) (settings : SessionsLimitSettings)
    (firstTime time : Nat) : Prop where
  safe :
    ((getPeriodicSessionsLimitInfo settings (UInt32.ofNat firstTime)
      run.state).info).AdvancesSafely (UInt32.ofNat time)
  slots :
    let after :=
      (run.step (.enforceSessionsRate settings firstTime time)).2.state
    after.info.lastMinuteSessionsSum.toNat = after.info.slotSum
  count :
    let after :=
      (run.step (.enforceSessionsRate settings firstTime time)).2.state
    after.info.lastMinuteSessionsSum.toNat =
      recent 60 time (time :: run.history)
  verdict :
    let called := run.step (.enforceSessionsRate settings firstTime time)
    called.1 = some .inspect ↔
      called.2.state.maxSessionsPerMinute = 0 ∨
        recent 60 time (time :: run.history) ≤
          called.2.state.maxSessionsPerMinute.toNat

/-- An input that is handled as an exact sliding window does. -/
def RateRun.Slides (run : RateRun) : RateInput → Prop
  | .enforceSessionsRate settings firstTime time =>
      run.Exact settings firstTime time
  | .configure _ => True

/-- The clock does not go back. -/
def RateRun.Chronological (run : RateRun) : RateInput → Prop
  | .enforceSessionsRate _ firstTime time =>
      firstTime ≤ time ∧ ∀ earlier ∈ run.history, earlier ≤ firstTime
  | .configure _ => True

/-- The clock shows seconds that 32 bits tell from an unset time, and the
calls of a minute fit the counters. -/
def RateRun.Fits (run : RateRun) : RateInput → Prop
  | .enforceSessionsRate _ firstTime time =>
      0 < firstTime ∧ time < 2 ^ 32 ∧
        recent 60 time (time :: run.history) < 2 ^ 32
  | .configure _ => True

instance (run : RateRun) (input : RateInput) :
    Decidable (run.Chronological input) := by
  unfold RateRun.Chronological
  split <;> infer_instance

instance (run : RateRun) (input : RateInput) : Decidable (run.Fits input) := by
  unfold RateRun.Fits
  split <;> infer_instance

def SessionsPerMinuteLimit.window (limit : SessionsPerMinuteLimit) :
    Window UInt32 :=
  { slot := limit.sessionsPerSecond
    sum := limit.lastMinuteSessionsSum }

theorem expireSecond_window (expiredSession : UInt32)
    (limit : SessionsPerMinuteLimit) :
    (expireSecond expiredSession limit).window =
      limit.window.clear 60 expiredSession.toNat :=
  rfl

theorem expireSessions_window {rounds : Nat} {expiredSession : UInt32}
    (enough : rounds ≤ expiredSession.toNat)
    (limit : SessionsPerMinuteLimit) :
    (expireSessions rounds expiredSession limit).window =
      Window.clearBack 60 rounds expiredSession.toNat limit.window := by
  induction rounds generalizing expiredSession limit with
  | zero => rfl
  | succ rounds induction =>
      have positive : (1 : UInt32) ≤ expiredSession :=
        UInt32.le_iff_toNat_le.mpr (Nat.le_trans (Nat.succ_le_succ
          (Nat.zero_le rounds)) enough)
      have previous : (expiredSession - 1).toNat = expiredSession.toNat - 1 :=
        UInt32.toNat_sub_of_le _ _ positive
      rw [expireSessions, induction (by omega), previous,
        expireSecond_window]
      rfl

theorem addSession_window (currRealSecond : UInt32)
    (limit : SessionsPerMinuteLimit) :
    (limit.addSession currRealSecond).window =
      limit.window.add 60 currRealSecond.toNat 1 :=
  rfl

theorem toNat_nsmul_one (count : Nat) :
    (count • (1 : UInt32)).toNat = count % 2 ^ 32 := by
  induction count with
  | zero => rfl
  | succ count induction =>
      rw [succ_nsmul, UInt32.toNat_add, induction]
      simp

section Counts

variable {limit : SessionsPerMinuteLimit} {now : Nat} {history : List Nat}

theorem sum_toNat (counts : limit.window.Counts 60 1 now history)
    (small : recent 60 now history < 2 ^ 32) :
    limit.lastMinuteSessionsSum.toNat = recent 60 now history := by
  have sum : limit.lastMinuteSessionsSum =
      recent 60 now history • (1 : UInt32) := counts.sum
  rw [sum, toNat_nsmul_one, Nat.mod_eq_of_lt small]

theorem sum_eq_slotSum (counts : limit.window.Counts 60 1 now history)
    (small : recent 60 now history < 2 ^ 32) :
    limit.lastMinuteSessionsSum.toNat = limit.slotSum := by
  rw [sum_toNat counts small,
    ← SlidingWindow.sum_recentAt (Nat.zero_lt_succ 59) now history]
  apply Finset.sum_congr rfl
  intro second member
  have slot : limit.sessionsPerSecond second =
      SlidingWindow.recentAt 60 now second history • (1 : UInt32) :=
    counts.slot second (Finset.mem_range.mp member)
  have below := SlidingWindow.recentAt_le_recent 60 now second history
  rw [slot, toNat_nsmul_one, Nat.mod_eq_of_lt (Nat.lt_of_le_of_lt below small)]

end Counts

theorem toNat_mod_sixty (second : UInt32) :
    (second % 60).toNat = second.toNat % 60 :=
  UInt32.toNat_mod second 60

theorem slotSum_expireSecond (expiredSession : UInt32)
    (limit : SessionsPerMinuteLimit) :
    (expireSecond expiredSession limit).slotSum +
        (limit.sessionsPerSecond (expiredSession % 60).toNat).toNat =
      limit.slotSum := by
  have member : (expiredSession % 60).toNat ∈ Finset.range 60 := by
    rw [toNat_mod_sixty, Finset.mem_range]
    exact Nat.mod_lt _ (Nat.zero_lt_succ 59)
  unfold SessionsPerMinuteLimit.slotSum
  rw [← Finset.sum_erase_add _ _ member, ← Finset.sum_erase_add _ _ member]
  have cleared : ((expireSecond expiredSession limit).sessionsPerSecond
      (expiredSession % 60).toNat).toNat = 0 := by
    apply (congrArg UInt32.toNat _).trans (UInt32.toNat_zero)
    exact Function.update_self _ _ _
  rw [cleared, Nat.add_zero]
  congr 1
  apply Finset.sum_congr rfl
  intro second kept
  have other := Finset.ne_of_mem_erase kept
  exact congrArg UInt32.toNat (Function.update_of_ne other _ _)

theorem noUnderflow_of_slotSum (rounds : Nat) (expiredSession : UInt32)
    {limit : SessionsPerMinuteLimit}
    (sum : limit.lastMinuteSessionsSum.toNat = limit.slotSum) :
    NoUnderflow rounds expiredSession limit := by
  induction rounds generalizing expiredSession limit with
  | zero => trivial
  | succ rounds induction =>
      have taken := slotSum_expireSecond expiredSession limit
      have enough : limit.sessionsPerSecond (expiredSession % 60).toNat ≤
          limit.lastMinuteSessionsSum := by
        rw [UInt32.le_iff_toNat_le]
        omega
      refine ⟨enough, induction (expiredSession - 1) ?_⟩
      have left : (expireSecond expiredSession
          limit).lastMinuteSessionsSum.toNat = _ :=
        UInt32.toNat_sub_of_le _ _ enough
      omega

theorem advance_counts {limit : SessionsPerMinuteLimit} {time : UInt32}
    {history : List Nat}
    (counts : limit.window.Counts 60 1 limit.lastSessionTime.toNat history)
    (later : limit.lastSessionTime ≤ time) :
    (limit.advance time).window.Counts 60 1 time.toNat history ∧
      (limit.advance time).lastSessionTime = time := by
  have passed : (time - limit.lastSessionTime).toNat =
      time.toNat - limit.lastSessionTime.toNat :=
    UInt32.toNat_sub_of_le _ _ later
  have ordered := UInt32.le_iff_toNat_le.mp later
  rw [SessionsPerMinuteLimit.advance]
  by_cases long : time - limit.lastSessionTime > oneMinute
  · rw [if_pos long]
    refine ⟨?_, rfl⟩
    have minute := UInt32.lt_iff_toNat_lt.mp long
    apply Window.Counts.empty
    intro earlier member
    have past := counts.past earlier member
    have sixty : oneMinute.toNat = 60 := rfl
    omega
  rw [if_neg long]
  by_cases moved : time - limit.lastSessionTime ≠ 0
  · rw [if_pos moved]
    refine ⟨?_, rfl⟩
    have total : time.toNat = limit.lastSessionTime.toNat +
        (time - limit.lastSessionTime).toNat := by
      omega
    have enough : (time - limit.lastSessionTime).toNat ≤ time.toNat := by
      omega
    change (expireSessions _ _ _).window.Counts _ _ _ _
    rw [expireSessions_window enough, total]
    exact counts.clearBack (Nat.zero_lt_succ 59) _
  · rw [if_neg moved]
    have same : limit.lastSessionTime = time := by
      have none : (time - limit.lastSessionTime).toNat = 0 :=
        congrArg UInt32.toNat (not_not.mp moved)
      apply UInt32.toNat_inj.mp
      omega
    exact ⟨same ▸ counts, same⟩

/-- The array counts the calls up to the last one, its counters have not
wrapped, and the verdict for a full minute is not to inspect. -/
structure RateRun.Tracks (run : RateRun) : Prop where
  counts : run.state.info.window.Counts 60 1
    run.state.info.lastSessionTime.toNat run.history
  latest : run.state.info.lastSessionTime = 0 ∧ run.history = [] ∨
    run.state.info.lastSessionTime ≠ 0 ∧
      run.state.info.lastSessionTime.toNat ∈ run.history
  small : recent 60 run.state.info.lastSessionTime.toNat run.history < 2 ^ 32
  verdict : run.state.sessionsPerMinuteLimitVerdict ≠ .inspect

theorem RateRun.start_tracks : RateRun.start.Tracks where
  counts :=
    { past := nofun
      slot := fun _ _ => (zero_nsmul _).symm
      sum := (zero_nsmul _).symm }
  latest := .inl ⟨rfl, rfl⟩
  small := Nat.two_pow_pos 32
  verdict := nofun

theorem RateState.configure_verdict (settings : SessionsLimitSettings)
    (state : RateState) :
    (state.configure settings).sessionsPerMinuteLimitVerdict ≠ .inspect := by
  unfold configure
  dsimp only
  split
  · exact nofun
  · exact nofun

theorem RateRun.Tracks.info {run : RateRun} (tracks : run.Tracks)
    (settings : SessionsLimitSettings) {firstTime time : Nat}
    (chronological : run.Chronological
      (.enforceSessionsRate settings firstTime time))
    (fits : run.Fits (.enforceSessionsRate settings firstTime time)) :
    let state := getPeriodicSessionsLimitInfo settings
      (UInt32.ofNat firstTime) run.state
    state.info.window.Counts 60 1 state.info.lastSessionTime.toNat
        run.history ∧
      state.info.lastSessionTime ≤ UInt32.ofNat time ∧
      recent 60 state.info.lastSessionTime.toNat run.history < 2 ^ 32 ∧
      state.sessionsPerMinuteLimitVerdict ≠ .inspect := by
  obtain ⟨ordered, past⟩ := chronological
  obtain ⟨positive, short, -⟩ := fits
  have first : (UInt32.ofNat firstTime).toNat = firstTime :=
    UInt32.toNat_ofNat_of_lt' (Nat.lt_of_le_of_lt ordered short)
  have now : (UInt32.ofNat time).toNat = time :=
    UInt32.toNat_ofNat_of_lt' short
  rw [getPeriodicSessionsLimitInfo]
  rcases tracks.latest with ⟨unset, none⟩ | ⟨set, member⟩
  · rw [if_pos unset, none]
    have counts := tracks.counts
    rw [none] at counts
    refine ⟨counts.of_nil _, ?_, Nat.two_pow_pos 32,
      run.state.configure_verdict settings⟩
    rw [UInt32.le_iff_toNat_le, now]
    exact Nat.le_trans (Nat.le_of_eq first) ordered
  · rw [if_neg set]
    refine ⟨tracks.counts, ?_, tracks.small, tracks.verdict⟩
    rw [UInt32.le_iff_toNat_le, now]
    exact Nat.le_trans (past _ member) ordered

theorem enforceSessionsRate_info (settings : SessionsLimitSettings)
    (firstTime time : UInt32) (state : RateState) :
    (enforceSessionsRate settings firstTime time state).2 =
      let state := getPeriodicSessionsLimitInfo settings firstTime state
      { state with
        info := (state.info.advance time).addSession time } := by
  unfold enforceSessionsRate
  dsimp only
  split <;> rfl

/-- A call handles the minute as a sliding window, and keeps tracking it. -/
theorem RateRun.Tracks.enforce {run : RateRun} (tracks : run.Tracks)
    (settings : SessionsLimitSettings) {firstTime time : Nat}
    (chronological : run.Chronological
      (.enforceSessionsRate settings firstTime time))
    (fits : run.Fits (.enforceSessionsRate settings firstTime time)) :
    run.Exact settings firstTime time ∧
      (run.step (.enforceSessionsRate settings firstTime time)).2.Tracks := by
  have info := tracks.info settings chronological fits
  obtain ⟨positive, short, fewer⟩ := fits
  have now : (UInt32.ofNat time).toNat = time :=
    UInt32.toNat_ofNat_of_lt' short
  generalize same : getPeriodicSessionsLimitInfo settings
    (UInt32.ofNat firstTime) run.state = started at info
  obtain ⟨counts, later, small, verdict⟩ := info
  obtain ⟨advanced, last⟩ := advance_counts counts later
  have after := enforceSessionsRate_info settings (UInt32.ofNat firstTime)
    (UInt32.ofNat time) run.state
  rw [same] at after
  have counted : ((started.info.advance (UInt32.ofNat time)).addSession
      (UInt32.ofNat time)).window.Counts 60 1 time (time :: run.history) := by
    rw [now] at advanced
    rw [addSession_window, now]
    exact advanced.add (Nat.zero_lt_succ 59)
  have sum := sum_toNat counted fewer
  constructor
  · constructor
    · intro _
      rw [same]
      exact noUnderflow_of_slotSum _ _ (sum_eq_slotSum counts small)
    · change (enforceSessionsRate _ _ _ _).2.info.lastMinuteSessionsSum.toNat =
        (enforceSessionsRate _ _ _ _).2.info.slotSum
      rw [after]
      exact sum_eq_slotSum counted fewer
    · change (enforceSessionsRate _ _ _ _).2.info.lastMinuteSessionsSum.toNat =
        _
      rw [after]
      exact sum
    · change some (enforceSessionsRate _ _ _ _).1 = _ ↔
        (enforceSessionsRate _ _ _ _).2.maxSessionsPerMinute = 0 ∨
          _ ≤ (enforceSessionsRate _ _ _ _).2.maxSessionsPerMinute.toNat
      rw [after, enforceSessionsRate, same, ← sum]
      dsimp only
      rw [← UInt32.le_iff_toNat_le]
      split
      · rename_i exceeded
        apply iff_of_false
        · exact fun inspects => verdict (Option.some_inj.mp inspects)
        · rintro (unlimited | within)
          · exact exceeded.1 unlimited
          · exact absurd within (UInt32.not_le.mpr exceeded.2)
      · rename_i within
        apply iff_of_true rfl
        by_contra exceeded
        obtain ⟨limited, above⟩ := not_or.mp exceeded
        exact within ⟨limited, UInt32.not_le.mp above⟩
  · have time_ne : UInt32.ofNat time ≠ 0 := by
      intro zero
      have := congrArg UInt32.toNat zero
      have ordered := chronological.1
      rw [now] at this
      change time = 0 at this
      omega
    have lastTime : (run.step (.enforceSessionsRate settings firstTime
        time)).2.state.info.lastSessionTime = UInt32.ofNat time := by
      change (enforceSessionsRate _ _ _ _).2.info.lastSessionTime = _
      rw [after]
      exact last
    constructor
    · rw [lastTime, now]
      change (enforceSessionsRate _ _ _ _).2.info.window.Counts _ _ _ _
      rw [after]
      exact counted
    · rw [lastTime, now]
      exact .inr ⟨time_ne, List.mem_cons_self⟩
    · rw [lastTime, now]
      exact fewer
    · change (enforceSessionsRate _ _ _
        _).2.sessionsPerMinuteLimitVerdict ≠ _
      rw [after]
      exact verdict

theorem RateRun.Tracks.step {run : RateRun} (tracks : run.Tracks)
    {input : RateInput} (chronological : run.Chronological input)
    (fits : run.Fits input) :
    run.Slides input ∧ (run.step input).2.Tracks := by
  cases input with
  | enforceSessionsRate settings firstTime time =>
      exact tracks.enforce settings chronological fits
  | configure settings =>
      refine ⟨trivial, tracks.counts, tracks.latest, tracks.small, ?_⟩
      exact run.state.configure_verdict settings

/-- Over non-decreasing times that fit the code's counters, the limiter is an
exact sliding window. -/
theorem session_rate_slides (inputs : List RateInput)
    (chronological : Trace.Along RateRun.step RateRun.Chronological
      RateRun.start inputs)
    (fits : Trace.Along RateRun.step RateRun.Fits RateRun.start inputs) :
    Trace.Along RateRun.step RateRun.Slides RateRun.start inputs := by
  apply Trace.along_of_invariant RateRun.Tracks _ RateRun.start_tracks
    (chronological.and fits)
  intro run input tracks guarded
  exact tracks.step guarded.1 guarded.2

section Samples

def sampleLimit : SessionsLimitSettings :=
  { failOpenOnSessionLimit := false
    maxSessionsPerMinute := 2 }

def sampleCall (time : Nat) : RateInput :=
  .enforceSessionsRate sampleLimit time time

/-- The third session of a minute is refused, and a minute after the first the
window has room again. -/
theorem session_rate_slides_over_a_minute :
    Trace.Along RateRun.step RateRun.Slides RateRun.start
        ([100, 130, 159, 219].map sampleCall) ∧
      (Trace.run RateRun.step RateRun.start
        ([100, 130, 159, 219].map sampleCall)).1 =
          [some .inspect, some .inspect, some .drop, some .inspect] :=
  ⟨session_rate_slides _ (by decide +kernel) (by decide +kernel),
    by decide +kernel⟩

theorem sampleCalls_chronological {run : RateRun}
    (past : ∀ earlier ∈ run.history, earlier ≤ 1) (count : Nat) :
    Trace.Along RateRun.step RateRun.Chronological run
      (List.replicate count (sampleCall 1)) := by
  induction count generalizing run with
  | zero => trivial
  | succ count induction =>
      refine ⟨⟨Nat.le_refl 1, past⟩, induction ?_⟩
      exact List.forall_mem_cons.mpr ⟨Nat.le_refl 1, past⟩

theorem sampleCalls_bounded {run : RateRun}
    (ones : run.history = List.replicate run.history.length 1) {count : Nat}
    (slides : Trace.Along RateRun.step RateRun.Slides run
      (List.replicate (count + 1) (sampleCall 1))) :
    run.history.length + (count + 1) < 2 ^ 32 := by
  induction count generalizing run with
  | zero =>
      have counted : _ = recent 60 1 (1 :: run.history) := slides.1.count
      rw [ones, ← List.replicate_succ, recent, List.countP_replicate,
        if_pos (by decide)] at counted
      exact Nat.lt_of_le_of_lt (Nat.le_of_eq counted.symm)
        (UInt32.toNat_lt _)
  | succ count induction =>
      have longer := congrArg (List.cons 1) ones
      have rest := induction longer slides.2
      have length : (run.step (sampleCall 1)).2.history.length =
          run.history.length + 1 := rfl
      omega

/-- A call at the time zero is never expired, a clock that passes 32 bits
expires the wrong slots, and the counters overflow. -/
theorem session_rate_miscounts :
    (Trace.Along RateRun.step RateRun.Chronological RateRun.start
          ([0, 100].map sampleCall) ∧
        ¬Trace.Along RateRun.step RateRun.Slides RateRun.start
          ([0, 100].map sampleCall)) ∧
      (Trace.Along RateRun.step RateRun.Chronological RateRun.start
          ([2 ^ 32 - 1, 2 ^ 32 + 30].map sampleCall) ∧
        ¬Trace.Along RateRun.step RateRun.Slides RateRun.start
          ([2 ^ 32 - 1, 2 ^ 32 + 30].map sampleCall)) ∧
      (Trace.Along RateRun.step RateRun.Chronological RateRun.start
          (List.replicate (2 ^ 32) (sampleCall 1)) ∧
        ¬Trace.Along RateRun.step RateRun.Slides RateRun.start
          (List.replicate (2 ^ 32) (sampleCall 1))) := by
  refine ⟨⟨by decide, ?_⟩, ⟨by decide, ?_⟩, ?_, ?_⟩
  · intro slides
    exact absurd slides.2.1.count (by decide +kernel)
  · intro slides
    exact absurd slides.2.1.count (by decide +kernel)
  · apply sampleCalls_chronological
    exact fun _ member => absurd member List.not_mem_nil
  · intro slides
    have enough : 2 ^ 32 = (2 ^ 32 - 1) + 1 := rfl
    rw [enough] at slides
    have bounded := sampleCalls_bounded rfl slides
    change 0 + _ < _ at bounded
    omega

end Samples

end OpenAppsec.Nginx
