import OpenAppsec.Attachment.BodyDelivery
import OpenAppsec.Attachment.NginxReading
import OpenAppsec.Hooks.RequestBodyFilter
import OpenAppsec.Library.Trace

/-!
# Request bodies when failures close

When both fail modes drop, the request body filter lets go of a chain only
when all of it has been handed to the service and nothing forbids it, or when
the time of the transaction runs out after a pass.
-/

namespace OpenAppsec.Hooks

open Nginx (NgxBuf NgxResult SendOutcome Sending Carried)
open Async (NgxRc failVerdict)

/-- Failures drop, and so do verdicts that stay delayed. -/
structure HookSettings.FailClosed (settings : HookSettings) : Prop where
  failMode : settings.failOpenMode = false
  holdMode : settings.failOpenHoldMode = false

/-- Every thread that is canceled can be joined. -/
def HookEvents.Joins (events : HookEvents) : Prop :=
  ∀ index leftBehind, events.threads index ≠ .unjoined leftBehind

namespace HookSettings.FailClosed

variable {settings : HookSettings}

@[simp] theorem failModeVerdict (closed : settings.FailClosed) :
    settings.failModeVerdict = .httpForbidden := by
  simp [Async.Settings.failModeVerdict, closed.failMode]

@[simp] theorem failModeHoldVerdict (closed : settings.FailClosed) :
    settings.failModeHoldVerdict = .httpForbidden := by
  simp [Async.Settings.failModeHoldVerdict, closed.holdMode]

end HookSettings.FailClosed

@[simp] theorem failVerdict_forbidden :
    failVerdict .httpForbidden = .drop :=
  rfl

namespace Inspection

/-- Nothing has asked to leave the filter. -/
structure Quiet (ctx : Inspection) : Prop where
  goesOn : ctx.shouldReturn = false
  inFilter : ctx.shouldReturnNextFilter = false

/-- A context whose result is success holds no drop. -/
def Settled (ctx : Inspection) : Prop :=
  ctx.res = .ok → ctx.session.verdict ≠ .drop

end Inspection

/-- The mode of a session and the times that its transaction has taken. -/
def HookSession.course (session : HookSession) : Int × Int × Int :=
  (session.initialAsyncMode, session.reqProccesingTime,
    session.resProccesingTime)

/-- A session whose request has taken so much longer. -/
def HookSession.reqLater (session : HookSession) (elapsed : Int) :
    HookSession :=
  { session with reqProccesingTime := session.reqProccesingTime + elapsed }

/-- A session whose response has taken so much longer. -/
def HookSession.resLater (session : HookSession) (elapsed : Int) :
    HookSession :=
  { session with resProccesingTime := session.resProccesingTime + elapsed }

/-- The time of so many passes, from one of them on. -/
def passesTime (elapsed : Nat → Int) : Nat → Nat → Int
  | _, 0 => 0
  | index, passes + 1 => elapsed index + passesTime elapsed (index + 1) passes

section Courses

variable {settings : HookSettings} {first second : HookSession}

variable (same : first.course = second.course)

include same

theorem mode_of_course :
    first.initialAsyncMode = second.initialAsyncMode :=
  congrArg Prod.fst same

theorem reqLater_course (elapsed : Int) :
    (first.reqLater elapsed).course = (second.reqLater elapsed).course := by
  simp only [HookSession.course, HookSession.reqLater, Prod.mk.injEq]
    at same ⊢
  exact ⟨same.1, congrArg (· + elapsed) same.2.1, same.2.2⟩

theorem resLater_course (elapsed : Int) :
    (first.resLater elapsed).course = (second.resLater elapsed).course := by
  simp only [HookSession.course, HookSession.resLater, Prod.mk.injEq]
    at same ⊢
  exact ⟨same.1, same.2.1, congrArg (· + elapsed) same.2.2⟩

omit same

theorem reqLater_reqLater (session : HookSession) (elapsed later : Int) :
    (session.reqLater elapsed).reqLater later =
      session.reqLater (elapsed + later) := by
  simp only [HookSession.reqLater, Int.add_assoc]

theorem resLater_resLater (session : HookSession) (elapsed later : Int) :
    (session.resLater elapsed).resLater later =
      session.resLater (elapsed + later) := by
  simp only [HookSession.resLater, Int.add_assoc]

include same in
/-- The limits look at the times of a session only. -/
theorem timedOut_course :
    TimedOut settings first ↔ TimedOut settings second := by
  simp only [HookSession.course, Prod.mk.injEq] at same
  rw [TimedOut, TimedOut, same.2.1, same.2.2]

theorem fail_course (failMode : NgxRc) (session : HookSession) :
    (handleInspectionFailure failMode session).course = session.course := by
  unfold handleInspectionFailure
  split <;> rfl

end Courses

/-- A step keeps the flags of a context, once they are set, and the mode and
the times of its session. -/
structure Keeps (before after : Inspection) : Prop where
  quiet : after.Quiet → before.Quiet
  inFilter : before.shouldReturnNextFilter = false →
    after.shouldReturnNextFilter = false
  course : after.session.course = before.session.course

namespace Keeps

variable {before middle after : Inspection}

theorem refl (ctx : Inspection) : Keeps ctx ctx :=
  ⟨id, id, rfl⟩

theorem trans (first : Keeps before middle) (second : Keeps middle after) :
    Keeps before after :=
  { quiet := first.quiet ∘ second.quiet
    inFilter := second.inFilter ∘ first.inFilter
    course := second.course.trans first.course }

theorem mode (keeps : Keeps before after) :
    after.session.initialAsyncMode = before.session.initialAsyncMode :=
  mode_of_course keeps.course

end Keeps

section Steps

variable {settings : HookSettings} {events : HookEvents}

variable {whole : List NgxBuf} {state : BodyState} {ctx : Inspection}
variable {progress : BodyProgress} {call : BodyCall}

theorem endsWith_verdict_ne_drop (modificationList : List ModificationNode)
    (delivery : Delivery)
    (success : (Nginx.endsWith modificationList delivery).1 = .ok) :
    (Nginx.endsWith modificationList delivery).2.1 ≠ .drop := by
  cases verdict : delivery.reply.verdict with
  | drop => simp [Nginx.endsWith, verdict] at success
  | inject =>
      simp only [Nginx.endsWith, verdict]
      split <;> simp
  | _ => simp [Nginx.endsWith, verdict]

theorem ngxHttpCpReplyReceiver_verdict_ne_drop {curSessionId : BitVec 32}
    {start final : Nginx.ReceiverState Unit}
    (waiting : start.expectedReplies ≠ 0)
    (returned : Nginx.ngxHttpCpReplyReceiver noHandlers curSessionId start =
      some (.ok, final)) : final.verdict ≠ .drop := by
  rcases CountedReader.stillReading_or_endsAt
      (Nginx.replyKind curSessionId) (Nat.pos_of_ne_zero waiting)
      start.queue with
    dry | ⟨before, delivery, rest, split, reading, ends⟩
  · obtain ⟨_, failed, _⟩ := Nginx.receiver_dry noHandlers dry
    rw [failed] at returned
    cases returned
  · obtain ⟨result, last, ended, outcome, _⟩ :=
      Nginx.receiver_ends noHandlers split reading ends
    rw [ended] at returned
    cases returned
    have success := congrArg Prod.fst outcome
    have verdict := congrArg (fun ending => ending.2.1) outcome
    dsimp only at success verdict
    rw [verdict]
    exact endsWith_verdict_ne_drop _ delivery success.symm

theorem replyReceiver_keeps (ctx : Inspection) :
    Keeps ctx (replyReceiver events ctx) := by
  unfold replyReceiver
  dsimp only
  split
  · exact ⟨fun quiet => ⟨quiet.1, quiet.2⟩, id, rfl⟩
  · split
    · exact ⟨fun quiet => ⟨quiet.1, quiet.2⟩, id, rfl⟩
    · split <;> exact ⟨fun quiet => ⟨quiet.1, quiet.2⟩, id, rfl⟩

theorem replyReceiver_settled (ctx : Inspection) :
    (replyReceiver events ctx).Settled := by
  unfold replyReceiver
  dsimp only
  split
  · intro _
    simp [Inspection.setVerdict]
  · rename_i waiting
    split
    · intro success
      cases success
    · split
      · intro success
        cases success
      · rename_i result final returned
        intro success
        cases result with
        | ok => exact ngxHttpCpReplyReceiver_verdict_ne_drop waiting returned
        | _ => cases success

theorem fail_mode (failMode : NgxRc) (session : HookSession) :
    (handleInspectionFailure failMode session).initialAsyncMode =
      session.initialAsyncMode := by
  unfold handleInspectionFailure
  split <;> rfl

theorem fail_keeps (failMode : NgxRc) (ctx : Inspection) :
    Keeps ctx (ctx.fail failMode) := by
  unfold Inspection.fail handleInspectionFailure
  split <;> exact ⟨fun quiet => ⟨quiet.1, quiet.2⟩, id, rfl⟩

/-- A thread that gives up asks to leave, and in fail-close not for the next
filter. -/
theorem sendingFailed_keeps (ctx : Inspection) :
    Keeps ctx (ctx.sendingFailed .httpForbidden) ∧
      ¬(ctx.sendingFailed .httpForbidden).Quiet := by
  have kept := fail_keeps .httpForbidden ctx
  simp only [Inspection.sendingFailed, Inspection.threadCtxReturn]
  refine ⟨⟨?_, kept.inFilter, kept.course⟩, ?_⟩
  · intro quiet
    cases quiet.goesOn
  · intro quiet
    cases quiet.goesOn

theorem addRemaining_keeps (count : Nat) (ctx : Inspection) :
    Keeps ctx (ctx.addRemaining count) :=
  ⟨fun quiet => ⟨quiet.1, quiet.2⟩, id, rfl⟩

theorem setVerdict_keeps (verdict : ServiceVerdict) (ctx : Inspection) :
    Keeps ctx (ctx.setVerdict verdict) :=
  ⟨fun quiet => ⟨quiet.1, quiet.2⟩, id, rfl⟩

theorem leftBehind_keeps (leftBehind : LeftBehind) (ctx : Inspection) :
    Keeps ctx (leftBehind.applyTo .httpForbidden ctx) := by
  refine ⟨?_, ?_, rfl⟩
  · intro quiet
    have goesOn := quiet.goesOn
    have inFilter := quiet.inFilter
    simp only [LeftBehind.applyTo, Bool.or_eq_false_iff] at goesOn inFilter
    exact ⟨goesOn.1, inFilter.1⟩
  · intro inFilter
    simp [LeftBehind.applyTo, inFilter]

theorem runInThreadTimeout_cases (joins : events.Joins)
    {routine : Inspection → Inspection}
    (keeps : ∀ ctx, Keeps ctx (routine ctx)) (ctx : Inspection) :
    let run := runInThreadTimeout events .httpForbidden routine ctx
    Keeps ctx run.2 ∧
      (run.1 = true → run.2 = routine
        { ctx with threadsRun := ctx.threadsRun + 1 }) := by
  have started : Keeps ctx { ctx with threadsRun := ctx.threadsRun + 1 } :=
    ⟨fun quiet => ⟨quiet.1, quiet.2⟩, id, rfl⟩
  unfold runInThreadTimeout
  dsimp only
  cases outcome : events.threads ctx.threadsRun with
  | finished => exact ⟨started.trans (keeps _), fun _ => rfl⟩
  | failed leftBehind =>
      exact ⟨started.trans (leftBehind_keeps leftBehind _), nofun⟩
  | unjoined leftBehind => exact absurd outcome (joins _ leftBehind)

theorem holdVerdictThread_keeps (closed : settings.FailClosed)
    (ctx : Inspection) : Keeps ctx (holdVerdictThread settings events ctx) := by
  unfold holdVerdictThread
  split
  · rw [closed.failModeHoldVerdict]
    refine Keeps.trans ?_ (sendingFailed_keeps _).1
    split
    · exact ⟨fun quiet => ⟨quiet.1, quiet.2⟩, id, rfl⟩
    · exact .refl ctx
  · exact (addRemaining_keeps 1 ctx).trans (replyReceiver_keeps _)

theorem holdVerdictThread_settled (closed : settings.FailClosed)
    (ctx : Inspection)
    (quiet : (holdVerdictThread settings events ctx).Quiet) :
    (holdVerdictThread settings events ctx).Settled := by
  unfold holdVerdictThread at quiet ⊢
  by_cases unsent : events.waitSent ctx.threadsRun = false
  · rw [if_pos unsent, closed.failModeHoldVerdict] at quiet
    exact absurd quiet (sendingFailed_keeps _).2
  · rw [if_neg unsent]
    exact replyReceiver_settled _

theorem holdVerdictAttempts_spec (closed : settings.FailClosed)
    (joins : events.Joins) (retries : Nat) (ctx : Inspection) :
    let held := holdVerdictAttempts settings events retries ctx
    Keeps ctx held.2 ∧
      (held.1 = true → held.2.session.verdict ≠ .delayed ∧
        (held.2.Quiet → held.2.Settled)) := by
  induction retries generalizing ctx with
  | zero => exact ⟨.refl ctx, nofun⟩
  | succ retries induction =>
      obtain ⟨kept, ran⟩ := runInThreadTimeout_cases joins
        (@holdVerdictThread_keeps settings events closed) ctx
      unfold holdVerdictAttempts
      rw [closed.failModeHoldVerdict]
      generalize runInThreadTimeout events .httpForbidden
        (holdVerdictThread settings events) ctx = run at kept ran
      obtain ⟨res, after⟩ := run
      dsimp only at kept ran ⊢
      obtain ⟨keptLater, later⟩ := induction after
      split
      · split
        · exact ⟨kept, nofun⟩
        · exact ⟨kept.trans keptLater, later⟩
      · rename_i succeeded
        split
        · rename_i updated
          refine ⟨kept, fun _ => ⟨updated, ?_⟩⟩
          rw [ran (by simpa using succeeded)]
          exact holdVerdictThread_settled closed _
        · split
          · exact ⟨kept, nofun⟩
          · exact ⟨kept.trans keptLater, later⟩

theorem holdVerdict_spec (closed : settings.FailClosed)
    (joins : events.Joins) (ctx : Inspection) :
    let held := holdVerdict settings events ctx
    Keeps ctx held.2 ∧
      (held.1 = true → held.2.session.verdict ≠ .delayed ∧
        (held.2.Quiet → held.2.Settled)) := by
  unfold holdVerdict
  dsimp only
  generalize (if ctx.asyncFilter then settings.resBodyThreadTimeoutMsec / 50
    else settings.holdVerdictRetries) = retries
  obtain ⟨kept, held⟩ :=
    @holdVerdictAttempts_spec settings events closed joins retries ctx
  split
  · rename_i succeeded
    exact ⟨kept, fun _ => held succeeded⟩
  · refine ⟨?_, nofun⟩
    exact (kept.trans (fail_keeps _ _)).trans (setVerdict_keeps _ _)

theorem holdIfDelayed_spec (closed : settings.FailClosed) (joins : events.Joins)
    (settled : ctx.Quiet → ctx.Settled) :
    let held := holdIfDelayed settings events ctx
    Keeps ctx held.2 ∧
      (held.1 = true → held.2.session.verdict ≠ .delayed ∧
        (held.2.Quiet → held.2.Settled)) := by
  unfold holdIfDelayed
  split
  · exact holdVerdict_spec closed joins ctx
  · rename_i decided
    exact ⟨.refl ctx, fun _ => ⟨decided, settled⟩⟩

theorem reqEndTransactionThread_keeps (closed : settings.FailClosed)
    (ctx : Inspection) :
    Keeps ctx (reqEndTransactionThread settings events ctx) := by
  unfold reqEndTransactionThread
  split
  · rw [closed.failModeVerdict]
    exact (sendingFailed_keeps _).1
  · dsimp only
    split
    · exact (addRemaining_keeps 1 ctx).trans (replyReceiver_keeps _)
    · exact addRemaining_keeps 1 ctx

theorem reqEndTransactionThread_settled (closed : settings.FailClosed)
    (settled : ctx.Quiet → ctx.Settled)
    (quiet : (reqEndTransactionThread settings events ctx).Quiet) :
    (reqEndTransactionThread settings events ctx).Settled := by
  unfold reqEndTransactionThread at quiet ⊢
  by_cases unsent : events.endTransactionSent ctx.threadsRun = false
  · rw [if_pos unsent, closed.failModeVerdict] at quiet
    exact absurd quiet (sendingFailed_keeps _).2
  · rw [if_neg unsent] at quiet ⊢
    dsimp only at quiet ⊢
    split
    · exact replyReceiver_settled _
    · rename_i decided
      rw [if_neg decided] at quiet
      exact settled ((addRemaining_keeps 1 ctx).quiet quiet)

/-- A context that goes on after the delayed verdicts of its pass. -/
structure GoesOn (before after : Inspection) : Prop where
  keeps : Keeps before after
  decided : after.session.verdict ≠ .delayed
  settled : after.Quiet → after.Settled

theorem holdPart_spec (closed : settings.FailClosed) (joins : events.Joins)
    (whole : List NgxBuf) (settled : ctx.Quiet → ctx.Settled) :
    match holdPart settings events whole ctx with
    | .ok after => GoesOn ctx after
    | .error (answer, after) =>
        answer = .returns .httpForbidden ∧ Keeps ctx after := by
  obtain ⟨kept, held⟩ :=
    holdIfDelayed_spec closed joins settled
  unfold holdPart
  dsimp only
  split
  · rename_i after continued
    split at continued
    · rename_i succeeded
      cases continued
      exact ⟨kept, (held succeeded).1, (held succeeded).2⟩
    · cases continued
  · rename_i answer after left
    split at left
    · cases left
    · cases left
      rw [closed.failModeHoldVerdict]
      exact ⟨rfl, kept.trans (setVerdict_keeps _ _)⟩

theorem endRequest_spec (closed : settings.FailClosed) (joins : events.Joins)
    (whole : List NgxBuf) (decided : ctx.session.verdict ≠ .delayed)
    (settled : ctx.Quiet → ctx.Settled) :
    match endRequest settings events whole ctx with
    | .ok after => GoesOn ctx after
    | .error (answer, after) =>
        (∀ chain, answer ≠ .forwards chain) ∧ Keeps ctx after := by
  by_cases unfinished : ctx.session.wasRequestFullyInspected = false
  · simp only [endRequest, if_pos unfinished]
    exact ⟨.refl ctx, decided, settled⟩
  obtain ⟨kept, ran⟩ := runInThreadTimeout_cases joins
    (@reqEndTransactionThread_keeps settings events closed) ctx
  simp only [endRequest, if_neg unfinished, closed.failModeVerdict,
    closed.failModeHoldVerdict]
  generalize runInThreadTimeout events .httpForbidden
    (reqEndTransactionThread settings events) ctx = run at kept ran
  obtain ⟨res, ended⟩ := run
  dsimp only at kept ran
  cases res with
  | false =>
      simp only [if_true]
      refine ⟨?_, kept.trans (setVerdict_keeps _ _)⟩
      intro chain
      simp [failAnswer]
  | true =>
      have endedSettled : ended.Quiet → ended.Settled := by
        rw [ran rfl]
        exact reqEndTransactionThread_settled closed fun quiet =>
          settled ⟨quiet.1, quiet.2⟩
      obtain ⟨keptLater, held⟩ :=
        @holdIfDelayed_spec settings events ended closed joins endedSettled
      simp only [Bool.true_eq_false, if_false]
      by_cases custom : ended.session.verdict = .customResponse
      · simp only [if_pos custom]
        exact ⟨nofun, kept⟩
      · simp only [if_neg custom]
        by_cases succeeded : (holdIfDelayed settings events ended).1 = true
        · simp only [if_pos succeeded]
          exact ⟨kept.trans keptLater, (held succeeded).1,
            (held succeeded).2⟩
        · simp only [if_neg succeeded]
          refine ⟨?_, kept.trans keptLater⟩
          intro chain
          simp [failAnswer]

/-- An exit that forwards comes too late: the time of the transaction has run
out, and the session is dropped. -/
def Late (settings : HookSettings) (whole : List NgxBuf)
    (exit : BodyAnswer × HookSession) : Prop :=
  ∀ chain, exit.1 = .forwards chain →
    chain = whole ∧ TimedOut settings exit.2 ∧ exit.2.verdict = .drop

theorem late_of_kept {exit : BodyAnswer × HookSession}
    (kept : ∀ chain, exit.1 ≠ .forwards chain) :
    Late settings whole exit :=
  fun chain forwards => absurd forwards (kept chain)

/-- What is left of a pass that neither asks to leave nor runs out of time. -/
theorem leavePass_spec (closed : settings.FailClosed) (whole : List NgxBuf)
    (elapsed : Int) (inFilter : ctx.shouldReturnNextFilter = false) :
    match leavePass settings whole elapsed ctx with
    | .ok after =>
        ctx.Quiet ∧ after.Quiet ∧ after.res = ctx.res ∧
          after.session.verdict = ctx.session.verdict ∧
          after.session.course = (ctx.session.reqLater elapsed).course
    | .error (answer, after) =>
        Late settings whole (answer, after.session) ∧
          after.session.course = (ctx.session.reqLater elapsed).course := by
  unfold leavePass
  dsimp only
  rw [inFilter, if_neg Bool.false_ne_true]
  by_cases leaves : ctx.shouldReturn = true
  · rw [if_pos leaves]
    exact ⟨nofun, rfl⟩
  rw [if_neg leaves]
  have goesOn : ctx.shouldReturn = false := by simpa using leaves
  generalize later : ({ ctx.session with
    reqProccesingTime := ctx.session.reqProccesingTime + elapsed } :
      HookSession) = session
  obtain rfl : session = ctx.session.reqLater elapsed := later.symm
  unfold wasTransactionTimedout
  by_cases out : TimedOut settings (ctx.session.reqLater elapsed)
  · rw [if_pos out]
    simp only [if_true]
    have course := fail_course settings.failModeVerdict
      (ctx.session.reqLater elapsed)
    refine ⟨?_, course⟩
    rintro chain ⟨⟩
    refine ⟨rfl, (timedOut_course course).mpr out, ?_⟩
    rw [closed.failModeVerdict]
    rfl
  · rw [if_neg out]
    exact ⟨⟨goesOn, inFilter⟩, ⟨goesOn, rfl⟩, rfl, rfl, rfl⟩

/-- The part of a chain that has been handed over so far. -/
def Handed (events : HookEvents) (whole : List NgxBuf)
    (before : List Sending) (progress : BodyProgress) : Prop :=
  ∃ carried, whole = carried ++ progress.chain ∧
    Carried events.transport carried before progress.sent

/-- A body thread that finishes without asking to leave has handed over a part
of the chain, and its result is the service's answer. -/
theorem reqBodyFilterThread_spec (closed : settings.FailClosed)
    {before : List Sending} (handed : Handed events whole before progress) :
    let after := reqBodyFilterThread settings events progress
    Keeps progress.ctx after.ctx ∧
      (after.ctx.Quiet → after.ctx.Settled ∧
        Handed events whole before after) := by
  unfold reqBodyFilterThread
  dsimp only
  rw [Nginx.ngxHttpCpBodySender_eq]
  generalize sender : Nginx.sendChain events.transport _ _ progress.chain
    (.start _ progress.sent) = sending
  obtain ⟨_ | next, loop⟩ := sending
  · dsimp only
    rw [closed.failModeVerdict]
    obtain ⟨kept, unquiet⟩ := sendingFailed_keeps progress.ctx
    exact ⟨kept, fun quiet => absurd quiet unquiet⟩
  · dsimp only
    obtain ⟨carried, split, here⟩ := Nginx.sendChain_carried sender
    obtain ⟨earlier, wholeEq, carriedEarlier⟩ := handed
    have kept := (addRemaining_keeps loop.numPartsSent progress.ctx).trans
      (@replyReceiver_keeps events _)
    have settled := @replyReceiver_settled events
      (progress.ctx.addRemaining loop.numPartsSent)
    refine ⟨⟨fun quiet => kept.quiet ⟨quiet.1, quiet.2⟩, kept.inFilter,
      kept.course⟩, fun _ => ⟨settled, ?_⟩⟩
    refine ⟨earlier ++ carried, ?_, carriedEarlier.trans here⟩
    rw [wholeEq, split, List.append_assoc]

theorem runBodyThread_spec (closed : settings.FailClosed) (joins : events.Joins)
    {before : List Sending} (handed : Handed events whole before progress) :
    let run := runBodyThread settings events progress
    Keeps progress.ctx run.2.ctx ∧
      (run.1 = true → run.2.ctx.Quiet → run.2.ctx.Settled ∧
        Handed events whole before run.2) := by
  have started : Keeps progress.ctx
      { progress.ctx with threadsRun := progress.ctx.threadsRun + 1 } :=
    ⟨fun quiet => ⟨quiet.1, quiet.2⟩, id, rfl⟩
  unfold runBodyThread
  dsimp only
  cases outcome : events.threads progress.ctx.threadsRun with
  | finished =>
      have startedHanded : Handed events whole before
          { progress with
            ctx := { progress.ctx with
              threadsRun := progress.ctx.threadsRun + 1 } } :=
        handed
      obtain ⟨kept, settled⟩ :=
        reqBodyFilterThread_spec closed startedHanded
      exact ⟨started.trans kept, fun _ => settled⟩
  | failed leftBehind =>
      dsimp only
      rw [closed.failModeVerdict]
      exact ⟨started.trans (leftBehind_keeps leftBehind _), nofun⟩
  | unjoined leftBehind => exact absurd outcome (joins _ leftBehind)

/-- Between two passes nothing asks to leave, the verdict is not delayed, and
the part of the chain before the next element has been handed over. -/
structure Between (settings : HookSettings) (events : HookEvents)
    (whole : List NgxBuf) (before : List Sending) (progress : BodyProgress) :
    Prop where
  quiet : progress.ctx.Quiet
  settled : progress.ctx.Settled
  decided : progress.ctx.session.verdict ≠ .delayed
  handed : Handed events whole before progress
  sync : progress.ctx.session.initialAsyncMode = 0

/-- How the filter leaves the loop before its end, at most so many passes
later; it lets the chain go only when the time is over behind a pass. -/
structure Left (settings : HookSettings) (events : HookEvents)
    (whole : List NgxBuf) (session : HookSession) (index limit : Nat)
    (exit : BodyAnswer × BodyProgress) : Prop where
  late : Late settings whole (exit.1, exit.2.ctx.session)
  sync : exit.2.ctx.session.initialAsyncMode = 0
  overdue : ∀ chain, exit.1 = .forwards chain → ∃ passes < limit,
    TimedOut settings
      (session.reqLater (passesTime events.elapsed index (passes + 1)))

theorem left_of_kept {session : HookSession} {index limit : Nat}
    {exit : BodyAnswer × BodyProgress}
    (kept : ∀ chain, exit.1 ≠ .forwards chain)
    (sync : exit.2.ctx.session.initialAsyncMode = 0) :
    Left settings events whole session index limit exit :=
  ⟨late_of_kept kept, sync, fun chain forwards =>
    absurd forwards (kept chain)⟩

/-- An exit behind the pass that follows. -/
theorem Left.behind {session after : HookSession} {index limit : Nat}
    {exit : BodyAnswer × BodyProgress}
    (left : Left settings events whole after (index + 1) limit exit)
    (course : after.course =
      (session.reqLater (events.elapsed index)).course) :
    Left settings events whole session index (limit + 1) exit := by
  refine ⟨left.late, left.sync, fun chain forwards => ?_⟩
  obtain ⟨passes, below, overdue⟩ := left.overdue chain forwards
  refine ⟨passes + 1, Nat.succ_lt_succ below, ?_⟩
  have later := reqLater_course course
    (passesTime events.elapsed (index + 1) (passes + 1))
  rw [reqLater_reqLater] at later
  exact (timedOut_course later).mp overdue

theorem reqBodyPass_spec (closed : settings.FailClosed) (joins : events.Joins)
    {before : List Sending} (index : Nat)
    (between : Between settings events whole before progress) :
    match reqBodyPass settings events whole (events.elapsed index)
        progress with
    | .ok after =>
        Between settings events whole before after ∧
          after.ctx.session.course =
            (progress.ctx.session.reqLater (events.elapsed index)).course
    | .error exit =>
        Left settings events whole progress.ctx.session index 1 exit := by
  obtain ⟨kept, ran⟩ := runBodyThread_spec closed joins between.handed
  unfold reqBodyPass
  generalize runBodyThread settings events progress = run at kept ran
  obtain ⟨res, sent⟩ := run
  dsimp only at kept ran ⊢
  have mode := kept.mode.trans between.sync
  by_cases failed : res = false ∨ sent.ctx.res = .error
  · rw [if_pos failed, closed.failModeVerdict]
    exact left_of_kept (by simp [failAnswer]) mode
  rw [if_neg failed]
  have succeeded : res = true := by
    cases res with
    | true => rfl
    | false => exact absurd (Or.inl rfl) failed
  have settled := fun quiet => (ran succeeded quiet).1
  have handed := fun quiet => (ran succeeded quiet).2
  have held := holdPart_spec closed joins whole settled
  cases first : holdPart settings events whole sent.ctx with
  | error exit =>
      rw [first] at held
      obtain ⟨answer, after⟩ := exit
      obtain ⟨forbidden, keeps⟩ := held
      refine left_of_kept ?_ (keeps.mode.trans mode)
      intro chain forwards
      cases forbidden.symm.trans forwards
  | ok heldCtx =>
      rw [first] at held
      have ended := endRequest_spec closed joins whole held.decided held.settled
      have heldMode := held.keeps.mode.trans mode
      cases second : endRequest settings events whole heldCtx with
      | error exit =>
          rw [second] at ended
          simp only [bind, Except.bind, second]
          exact left_of_kept ended.1 (ended.2.mode.trans heldMode)
      | ok endedCtx =>
          rw [second] at ended
          have keeps := (kept.trans held.keeps).trans ended.keeps
          have left := leavePass_spec closed whole (events.elapsed index)
            (keeps.inFilter between.quiet.inFilter)
          have later := reqLater_course keeps.course (events.elapsed index)
          have laterMode : (endedCtx.session.reqLater
              (events.elapsed index)).initialAsyncMode = 0 :=
            ended.keeps.mode.trans heldMode
          simp only [bind, Except.bind, second]
          cases third : leavePass settings whole (events.elapsed index)
              endedCtx with
          | error exit =>
              rw [third] at left
              refine ⟨left.1, (mode_of_course left.2).trans laterMode, ?_⟩
              intro chain forwards
              refine ⟨0, Nat.zero_lt_one, ?_⟩
              have out := (left.1 chain forwards).2.1
              rw [passesTime, passesTime, Int.add_zero]
              exact (timedOut_course (left.2.trans later)).mp out
          | ok after =>
              rw [third] at left
              obtain ⟨quiet, quietAfter, res, verdict, course⟩ := left
              have sentQuiet := (held.keeps.trans ended.keeps).quiet quiet
              refine ⟨?_, course.trans later⟩
              exact
                { quiet := quietAfter
                  settled := by
                    intro success
                    rw [verdict]
                    exact ended.settled quiet (res ▸ success)
                  decided := verdict ▸ ended.decided
                  handed := handed sentQuiet
                  sync := (mode_of_course course).trans laterMode }

theorem reqBodyPasses_spec (closed : settings.FailClosed) (joins : events.Joins)
    {before : List Sending} (chainElems : List NgxBuf) (index : Nat)
    (between : Between settings events whole before progress) :
    match reqBodyPasses settings events whole chainElems index progress with
    | .ok after => Between settings events whole before after
    | .error exit =>
        Left settings events whole progress.ctx.session index
          chainElems.length exit := by
  induction chainElems generalizing index progress with
  | nil => exact between
  | cons chainElem chainElems induction =>
      unfold reqBodyPasses
      by_cases done : progress.chain = []
      · rw [if_pos done]
        exact between
      · rw [if_neg done]
        have pass := reqBodyPass_spec closed joins index between
        cases passed : reqBodyPass settings events whole
            (events.elapsed index) progress with
        | error exit =>
            rw [passed] at pass
            refine ⟨pass.late, pass.sync, fun chain forwards => ?_⟩
            obtain ⟨passes, below, overdue⟩ := pass.overdue chain forwards
            exact ⟨passes, Nat.lt_of_lt_of_le below (by simp), overdue⟩
        | ok after =>
            rw [passed] at pass
            dsimp only
            have rest := induction (index + 1) pass.1
            cases looped : reqBodyPasses settings events whole chainElems
                (index + 1) after with
            | error exit =>
                rw [looped] at rest
                exact rest.behind pass.2
            | ok last =>
                rw [looped] at rest
                exact rest

/-- All of a chain has been handed to the service, in messages that it
accepted, and the session is neither dropped nor delayed. -/
structure Inspected (call : BodyCall) (before : BodyState)
    (after : BodyState) : Prop where
  handed : Carried call.events.transport call.chain before.sent after.sent
  undropped : after.session.verdict ≠ .drop
  decided : after.session.verdict ≠ .delayed

/-- Behind a loop that has come to its end, the filter forwards only a chain
that has been inspected. -/
theorem finishReqBody_spec (closed : settings.FailClosed) (call : BodyCall)
    {before : List Sending}
    (between : Between settings call.events call.chain before progress)
    {chain : List NgxBuf}
    (forwards : (finishReqBody settings call progress).1 = .forwards chain) :
    (finishReqBody settings call progress).2 = progress ∧
      Carried call.events.transport call.chain before progress.sent ∧
      progress.ctx.session.verdict ≠ .drop := by
  have open' : ¬(settings.failModeVerdict = .ok) := by
    simp [closed.failModeVerdict]
  unfold finishReqBody at forwards ⊢
  dsimp only at forwards ⊢
  by_cases rest : progress.chain ≠ []
  · rw [if_pos rest] at forwards
    simp [failAnswer, open'] at forwards
  rw [if_neg rest] at forwards ⊢
  by_cases forbidden : progress.ctx.res = .httpForbidden
  · rw [if_pos forbidden] at forwards
    cases forwards
  rw [if_neg forbidden] at forwards ⊢
  by_cases failed : progress.ctx.res ≠ .ok
  · rw [if_pos failed] at forwards
    simp [open'] at forwards
  rw [if_neg failed] at forwards ⊢
  have success : progress.ctx.res = .ok := not_not.mp failed
  have whole : progress.chain = [] := not_not.mp rest
  obtain ⟨carried, split, handed⟩ := between.handed
  rw [whole, List.append_nil] at split
  refine ⟨?_, split ▸ handed, between.settled success⟩
  by_cases unmodified : progress.ctx.modifications = []
  · rw [if_pos unmodified]
  rw [if_neg unmodified] at forwards ⊢
  by_cases headers : call.headerModifier progress.ctx.modifications = false
  · rw [if_pos headers] at forwards
    simp [open'] at forwards
  rw [if_neg headers] at forwards ⊢
  cases body : call.bodyModifier call.chain progress.ctx.modifications with
  | none =>
      rw [body] at forwards
      simp [open'] at forwards
  | some modified => rfl

/-- Before its first pass the filter of a session that is not in asynchronous
mode leaves, or it begins to inspect the chain. -/
theorem reqBodyFilterSync_cases (closed : settings.FailClosed)
    (sync : state.session.initialAsyncMode = 0)
    (stillSync : call.asyncModeEnabled = false) :
    let filtered := reqBodyFilterSync settings call state
    (filtered.1 = .returns .httpForbidden ∧
        filtered.2.session.verdict = .drop ∧
        filtered.2.session.initialAsyncMode = 0) ∨
      (filtered = (.forwards call.chain, state) ∧
        state.session.verdict ≠ .drop ∧
        (state.session.verdict ≠ .inspect ∨ call.chain = [])) ∨
      (state.session.verdict = .inspect ∧ call.chain ≠ [] ∧
        let ended := match reqBodyPasses settings call.events call.chain
            call.chain 0
            { ctx := initThreadCtx state.session
              chain := call.chain
              sent := state.sent } with
          | .error exit => exit
          | .ok progress => finishReqBody settings call progress
        filtered = (ended.1,
          { session := ended.2.ctx.session, sent := ended.2.sent })) := by
  have failed : failAnswer settings.failModeVerdict call.chain =
      .returns .httpForbidden := by
    simp [failAnswer, closed.failModeVerdict]
  unfold reqBodyFilterSync
  dsimp only
  rw [failed, closed.failModeVerdict]
  by_cases async : state.session.initialAsyncMode ≠ 0 ∨
      call.asyncModeEnabled = true
  · rcases async with initial | now
    · exact absurd sync initial
    · rw [stillSync] at now
      cases now
  rw [if_neg async]
  by_cases down : call.ipcReady = false
  · rw [if_pos down]
    exact Or.inl ⟨rfl, rfl, sync⟩
  rw [if_neg down]
  by_cases transparent : call.transparent = true
  · rw [if_pos transparent]
    exact Or.inl ⟨rfl, rfl, sync⟩
  rw [if_neg transparent]
  by_cases dropped : state.session.verdict = .drop
  · rw [if_pos dropped]
    exact Or.inl ⟨rfl, dropped, sync⟩
  rw [if_neg dropped]
  by_cases inspects : state.session.verdict ≠ .inspect
  · rw [if_pos inspects]
    exact Or.inr (Or.inl ⟨rfl, dropped, Or.inl inspects⟩)
  rw [if_neg inspects]
  by_cases empty : call.chain = []
  · rw [if_pos empty]
    exact Or.inr (Or.inl ⟨rfl, dropped, Or.inr empty⟩)
  rw [if_neg empty]
  have verdict : state.session.verdict = .inspect := not_not.mp inspects
  unfold wasTransactionTimedout
  by_cases out : TimedOut settings state.session
  · rw [if_pos out]
    have drops : (handleInspectionFailure settings.failModeVerdict
        state.session).verdict = .drop := by
      simp [handleInspectionFailure, verdict, closed.failModeVerdict]
    simp only [if_pos drops]
    exact Or.inl ⟨trivial, drops, (fail_mode _ _).trans sync⟩
  · rw [if_neg out]
    exact Or.inr (Or.inr ⟨verdict, empty, rfl⟩)

/-- A session under inspection, before the first pass. -/
theorem between_start (inspects : state.session.verdict = .inspect)
    (sync : state.session.initialAsyncMode = 0) :
    Between settings call.events call.chain state.sent
      { ctx := initThreadCtx state.session
        chain := call.chain
        sent := state.sent } :=
  { quiet := ⟨rfl, rfl⟩
    settled := by simp [Inspection.Settled, initThreadCtx, inspects]
    decided := by simp [initThreadCtx, inspects]
    handed := ⟨[], rfl, Nginx.carried_refl _⟩
    sync }

theorem finishReqBody_mode (call : BodyCall) (progress : BodyProgress) :
    (finishReqBody settings call progress).2.ctx.session.initialAsyncMode =
      progress.ctx.session.initialAsyncMode := by
  have failed := fail_mode settings.failModeVerdict progress.ctx.session
  unfold finishReqBody
  dsimp only
  split
  · rfl
  · split
    · rfl
    · split
      · exact failed
      · split
        · rfl
        · split
          · exact failed
          · split
            · exact failed
            · rfl

/-- A call that lets a chain go: the verdict was there before, the chain has
been inspected, or it is too late for that. -/
structure Admits (settings : HookSettings) (state : BodyState)
    (call : BodyCall) : Prop where
  forwarded : ∀ chain,
    (reqBodyFilterSync settings call state).1 = .forwards chain →
      call.chain ≠ [] →
      (state.session.verdict ≠ .inspect ∧ state.session.verdict ≠ .drop) ∨
        Inspected call state (reqBodyFilterSync settings call state).2 ∨
        (TimedOut settings
            (reqBodyFilterSync settings call state).2.session ∧
          (reqBodyFilterSync settings call state).2.session.verdict = .drop)

/-- A session that is not in asynchronous mode stays so, and admits only what
it may. -/
theorem reqBodyFilterSync_spec (closed : settings.FailClosed)
    (joins : call.events.Joins) (stillSync : call.asyncModeEnabled = false)
    (sync : state.session.initialAsyncMode = 0) :
    Admits settings state call ∧
      (reqBodyFilterSync settings call state).2.session.initialAsyncMode =
        0 := by
  rcases reqBodyFilterSync_cases closed sync stillSync with
    ⟨returns, _, mode⟩ | ⟨same, undropped, passes⟩ | ⟨inspects, _, ended⟩
  · refine ⟨⟨?_⟩, mode⟩
    intro chain forwards
    cases returns.symm.trans forwards
  · refine ⟨⟨?_⟩, ?_⟩
    · intro chain _ some
      rcases passes with decided | empty
      · exact Or.inl ⟨decided, undropped⟩
      · exact absurd empty some
    · rw [same]
      exact sync
  · have passes := reqBodyPasses_spec closed joins call.chain 0
      (between_start inspects sync)
    cases looped : reqBodyPasses settings call.events call.chain call.chain 0
        { ctx := initThreadCtx state.session
          chain := call.chain
          sent := state.sent } with
    | error exit =>
        rw [looped] at passes ended
        dsimp only at ended
        refine ⟨⟨?_⟩, ?_⟩
        · intro chain forwards _
          rw [ended] at forwards ⊢
          exact Or.inr (Or.inr (passes.late chain forwards).2)
        · rw [ended]
          exact passes.sync
    | ok progress =>
        rw [looped] at passes ended
        dsimp only at ended
        refine ⟨⟨?_⟩, ?_⟩
        · intro chain forwards _
          rw [ended] at forwards ⊢
          obtain ⟨same, handed, undropped⟩ :=
            finishReqBody_spec closed call passes forwards
          dsimp only
          rw [same]
          exact Or.inr (Or.inl ⟨handed, undropped, passes.decided⟩)
        · rw [ended]
          exact (finishReqBody_mode call progress).trans passes.sync

theorem reqBodyFilterSync_dropped (closed : settings.FailClosed)
    (stillSync : call.asyncModeEnabled = false)
    (sync : state.session.initialAsyncMode = 0)
    (dropped : state.session.verdict = .drop) :
    let filtered := reqBodyFilterSync settings call state
    filtered.1 = .returns .httpForbidden ∧
      filtered.2.session.verdict = .drop ∧
      filtered.2.session.initialAsyncMode = 0 := by
  rcases reqBodyFilterSync_cases closed sync stillSync with
    refused | ⟨_, undropped, _⟩ | ⟨inspects, _⟩
  · exact refused
  · exact absurd dropped undropped
  · cases dropped.symm.trans inspects

/-- A call that is served in synchronous mode, and whose canceled threads can
be joined. -/
def BodyCall.Regular (call : BodyCall) : Prop :=
  call.asyncModeEnabled = false ∧ call.events.Joins

theorem along_regular {calls : List BodyCall}
    (regular : ∀ call ∈ calls, call.Regular) :
    Trace.Along (fun state call => reqBodyFilterSync settings call state)
      (fun _ call => call.Regular ∧ True) state calls :=
  (Trace.along_of_forall _ (fun _ _ => trivial) state calls).and_of_mem
    regular

theorem run_dropped (closed : settings.FailClosed)
    (sync : state.session.initialAsyncMode = 0)
    (dropped : state.session.verdict = .drop) {calls : List BodyCall}
    (regular : ∀ call ∈ calls, call.Regular) :
    ∀ answer ∈ (Trace.run
      (fun state call => reqBodyFilterSync settings call state) state
      calls).1, answer = .returns .httpForbidden := by
  induction calls generalizing state with
  | nil => nofun
  | cons call calls induction =>
      obtain ⟨refused, still, later⟩ := reqBodyFilterSync_dropped closed
        (regular call List.mem_cons_self).1 sync dropped
      intro answer member
      rw [Trace.run_cons, List.mem_cons] at member
      rcases member with rfl | member
      · exact refused
      · exact induction later still (fun other inCalls =>
          regular other (List.mem_cons_of_mem call inCalls)) answer member

end Steps

/-- Failures close, and a request has two milliseconds. -/
def shortTime : HookSettings :=
  { failOpenMode := false
    failOpenHoldMode := false
    isInspectionRequiredForSource := fun _ => true
    holdVerdictRetries := 1
    resBodyThreadTimeoutMsec := 150
    reqMaxProccessingMsTime := 2
    resMaxProccessingMsTime := 0 }

/-- The service goes on inspecting, and every pass takes a millisecond. -/
def quickEvents : HookEvents :=
  { threads := fun _ => .finished
    transport := fun _ => { result := .ok, errCodes := [0], wasWaiting := false }
    endTransactionSent := fun _ => true
    waitSent := fun _ => true
    receives := fun _ =>
      { waited := .ok
        queue :=
          [{ reply :=
               { verdict := .inspect, sessionId := 3, injectData := []
                 responseData := [] }
             malloc := fun _ => true
             ngxPcalloc := fun _ => true
             loadedAsyncMode := none }] }
    elapsed := fun _ => 1000 }

def quickCall (chain : List NgxBuf) : BodyCall :=
  { chain
    asyncModeEnabled := false
    ipcReady := true
    transparent := false
    events := quickEvents
    headerModifier := fun _ => true
    bodyModifier := fun chain _ => some chain }

def freshState : BodyState :=
  { session :=
      { sessionId := 3
        verdict := .inspect
        remainingMessagesToReply := 0
        inspectAllResponseHeaders := 1
        wasRequestFullyInspected := false
        initialAsyncMode := 0
        reqProccesingTime := 0
        resProccesingTime := 0 }
    sent := [] }

/-- The first chain is inspected, the second is late, the third is refused. -/
example :
    (Trace.run (fun state call => reqBodyFilterSync shortTime call state)
      freshState
      [quickCall [⟨[1], false⟩], quickCall [⟨[2], false⟩],
        quickCall [⟨[3], true⟩]]).1 =
      [.forwards [⟨[1], false⟩], .forwards [⟨[2], false⟩],
        .returns .httpForbidden] := by
  decide +kernel

end OpenAppsec.Hooks
