import OpenAppsec.Hooks.FailClosedBodies
import OpenAppsec.Hooks.ResponseBodyFilter

/-!
# Response bodies when failures close

When both fail modes drop, the response body filter lets go of a body only
when its session was decided before, when the request was not inspected, when
all that the service is given of it has been handed over and the session is
not dropped, or when the time of the transaction runs out after a pass.
-/

namespace OpenAppsec.Hooks

open Nginx (NgxBuf Sending Carried)
open Async (NgxRc failVerdict)

variable {whole bodyChain : List NgxBuf} {progress : BodyProgress} {mode : Int}

section Steps

variable {settings : HookSettings} {events : HookEvents}

variable {ctx : Inspection}

theorem holdInThread_spec (closed : settings.FailClosed) (joins : events.Joins)
    (settled : ctx.Quiet → ctx.Settled) :
    let held := holdInThread settings events ctx
    Keeps ctx held.2 ∧
      (held.2.Quiet → held.1 = true ∧ held.2.session.verdict ≠ .delayed ∧
        held.2.Settled) := by
  obtain ⟨kept, held⟩ :=
    holdIfDelayed_spec closed joins settled
  unfold holdInThread
  dsimp only
  by_cases succeeded : (holdIfDelayed settings events ctx).1 = true
  · rw [if_pos succeeded]
    exact ⟨kept, fun quiet =>
      ⟨rfl, (held succeeded).1, (held succeeded).2 quiet⟩⟩
  · rw [if_neg succeeded, closed.failModeVerdict]
    obtain ⟨keptLater, unquiet⟩ := sendingFailed_keeps
      ((holdIfDelayed settings events ctx).2.setVerdict
        (failVerdict settings.failModeHoldVerdict))
    exact ⟨(kept.trans (setVerdict_keeps _ _)).trans keptLater,
      fun quiet => absurd quiet unquiet⟩

theorem endResponse_spec (closed : settings.FailClosed) (joins : events.Joins)
    (held : ctx.Quiet → ctx.session.verdict ≠ .delayed ∧ ctx.Settled) :
    let ended := endResponse settings events ctx
    Keeps ctx ended ∧
      (ended.Quiet → ended.session.verdict ≠ .delayed ∧ ended.Settled) := by
  unfold endResponse
  dsimp only
  by_cases unsent : events.endTransactionSent ctx.threadsRun = false
  · rw [if_pos unsent, closed.failModeVerdict]
    obtain ⟨kept, unquiet⟩ := sendingFailed_keeps ctx
    exact ⟨kept, fun quiet => absurd quiet unquiet⟩
  rw [if_neg unsent]
  split
  · exact ⟨.refl ctx, held⟩
  · obtain ⟨kept, answered⟩ := holdInThread_spec closed joins
      (fun _ => @replyReceiver_settled events (ctx.addRemaining 1))
    exact ⟨((addRemaining_keeps 1 ctx).trans (replyReceiver_keeps _)).trans
      kept, fun quiet => (answered quiet).2⟩

/-- A thread that finishes without asking to leave has handed over a part of
the chain, and its verdict is not delayed. -/
theorem resBodyFilterThread_spec (closed : settings.FailClosed)
    (joins : events.Joins) (chainPartNumber : Nat) {before : List Sending}
    (handed : Handed events whole before progress) :
    let after :=
      resBodyFilterThread settings events chainPartNumber progress
    Keeps progress.ctx after.ctx ∧
      (after.ctx.Quiet → after.ctx.session.verdict ≠ .delayed ∧
        after.ctx.Settled ∧ Handed events whole before after) := by
  unfold resBodyFilterThread
  dsimp only
  rw [Nginx.ngxHttpCpBodySender_eq]
  generalize sender : Nginx.sendChain events.transport _ _ progress.chain
    (.start _ progress.sent) = sending
  obtain ⟨_ | next, loop⟩ := sending
  · dsimp only
    rw [closed.failModeVerdict]
    obtain ⟨kept, unquiet⟩ := sendingFailed_keeps progress.ctx
    exact ⟨kept, fun quiet => absurd quiet unquiet⟩
  · dsimp only
    obtain ⟨carried, split, here⟩ := Nginx.sendChain_carried sender
    obtain ⟨earlier, wholeEq, carriedEarlier⟩ := handed
    have handedNow : ∀ ctx, Handed events whole before
        { ctx, chain := next, sent := loop.sent } := fun _ =>
      ⟨earlier ++ carried, by rw [wholeEq, split, List.append_assoc],
        carriedEarlier.trans here⟩
    have received := (addRemaining_keeps loop.numPartsSent progress.ctx).trans
      (@replyReceiver_keeps events _)
    obtain ⟨kept, held⟩ := holdInThread_spec closed joins
      (fun _ => @replyReceiver_settled events
        (progress.ctx.addRemaining loop.numPartsSent))
    generalize holdInThread settings events _ = hold at kept held
    obtain ⟨goesOn, ctx⟩ := hold
    dsimp only at kept held ⊢
    split
    · obtain ⟨keptEnd, ended⟩ :=
        endResponse_spec closed joins (fun quiet => (held quiet).2)
      exact ⟨(received.trans kept).trans keptEnd, fun quiet =>
        ⟨(ended quiet).1, (ended quiet).2, handedNow _⟩⟩
    · exact ⟨received.trans kept, fun quiet =>
        ⟨(held quiet).2.1, (held quiet).2.2, handedNow ctx⟩⟩

theorem runResBodyThread_spec (closed : settings.FailClosed)
    (joins : events.Joins) (chainPartNumber : Nat) {before : List Sending}
    (handed : Handed events whole before progress) :
    let run := runResBodyThread settings events chainPartNumber progress
    Keeps progress.ctx run.2.ctx ∧
      (run.1 = true → run.2.ctx.Quiet →
        run.2.ctx.session.verdict ≠ .delayed ∧ run.2.ctx.Settled ∧
          Handed events whole before run.2) := by
  have started : Keeps progress.ctx
      { progress.ctx with threadsRun := progress.ctx.threadsRun + 1 } :=
    ⟨fun quiet => ⟨quiet.1, quiet.2⟩, id, rfl⟩
  unfold runResBodyThread
  dsimp only
  cases outcome : events.threads progress.ctx.threadsRun with
  | finished =>
      have startedHanded : Handed events whole before
          { progress with
            ctx := { progress.ctx with
              threadsRun := progress.ctx.threadsRun + 1 } } :=
        handed
      obtain ⟨kept, inspected⟩ :=
        resBodyFilterThread_spec closed joins chainPartNumber startedHanded
      exact ⟨started.trans kept, fun _ => inspected⟩
  | failed leftBehind =>
      dsimp only
      rw [closed.failModeVerdict]
      exact ⟨started.trans (leftBehind_keeps leftBehind _), nofun⟩
  | unjoined leftBehind => exact absurd outcome (joins _ leftBehind)

/-- An exit that streams comes too late: the time of the transaction has run
out, and the session is dropped. -/
def LateResponse (settings : HookSettings)
    (exit : ResponseAnswer × HookSession) : Prop :=
  ∀ chain, exit.1 = .forwards chain →
    TimedOut settings exit.2 ∧ exit.2.verdict = .drop

theorem leaveResPass_spec (closed : settings.FailClosed)
    (bodyChain : List NgxBuf) (elapsed : Int)
    (inFilter : ctx.shouldReturnNextFilter = false) :
    match leaveResPass settings bodyChain elapsed ctx with
    | .ok after =>
        ctx.Quiet ∧ after.Quiet ∧ after.res = ctx.res ∧
          after.session.verdict = ctx.session.verdict ∧
          after.session.course = (ctx.session.resLater elapsed).course
    | .error (answer, after) =>
        LateResponse settings (answer, after.session) ∧
          after.session.course = (ctx.session.resLater elapsed).course := by
  unfold leaveResPass
  dsimp only
  by_cases leaves : ctx.shouldReturn = true
  · rw [if_pos leaves]
    exact ⟨nofun, rfl⟩
  rw [if_neg leaves, inFilter, if_neg Bool.false_ne_true]
  have goesOn : ctx.shouldReturn = false := by simpa using leaves
  generalize later : ({ ctx.session with
    resProccesingTime := ctx.session.resProccesingTime + elapsed } :
      HookSession) = session
  obtain rfl : session = ctx.session.resLater elapsed := later.symm
  unfold wasTransactionTimedout
  by_cases out : TimedOut settings (ctx.session.resLater elapsed)
  · rw [if_pos out]
    simp only [if_true]
    have course := fail_course settings.failModeVerdict
      (ctx.session.resLater elapsed)
    refine ⟨fun chain _ => ⟨(timedOut_course course).mpr out, ?_⟩, course⟩
    rw [closed.failModeVerdict]
    rfl
  · rw [if_neg out]
    exact ⟨⟨goesOn, inFilter⟩, ⟨goesOn, rfl⟩, rfl, rfl, rfl⟩

/-- Between two passes nothing asks to leave, the part of the chain before the
next element has been handed over, and a verdict that is delayed is older. -/
structure ResBetween (events : HookEvents) (whole : List NgxBuf)
    (before : List Sending) (mode : Int) (progress : BodyProgress) : Prop where
  quiet : progress.ctx.Quiet
  settled : progress.ctx.Settled
  decided : progress.ctx.session.verdict = .delayed → progress.chain = whole
  handed : Handed events whole before progress
  mode : progress.ctx.session.initialAsyncMode = mode

/-- How the filter leaves the loop before its end, at most so many passes
later; it lets the body go only when the time is over behind a pass. -/
structure LeftResponse (settings : HookSettings) (events : HookEvents)
    (mode : Int) (session : HookSession) (index limit : Nat)
    (exit : ResponseAnswer × BodyProgress) : Prop where
  late : LateResponse settings (exit.1, exit.2.ctx.session)
  mode : exit.2.ctx.session.initialAsyncMode = mode
  overdue : ∀ chain, exit.1 = .forwards chain → ∃ passes < limit,
    TimedOut settings
      (session.resLater (passesTime events.elapsed index (passes + 1)))

/-- An exit behind the pass that follows. -/
theorem LeftResponse.behind {session after : HookSession} {index limit : Nat}
    {exit : ResponseAnswer × BodyProgress}
    (left : LeftResponse settings events mode after (index + 1) limit exit)
    (course : after.course =
      (session.resLater (events.elapsed index)).course) :
    LeftResponse settings events mode session index (limit + 1) exit := by
  refine ⟨left.late, left.mode, fun chain forwards => ?_⟩
  obtain ⟨passes, below, overdue⟩ := left.overdue chain forwards
  refine ⟨passes + 1, Nat.succ_lt_succ below, ?_⟩
  have later := resLater_course course
    (passesTime events.elapsed (index + 1) (passes + 1))
  rw [resLater_resLater] at later
  exact (timedOut_course later).mp overdue

theorem resBodyPass_spec (closed : settings.FailClosed) (joins : events.Joins)
    {before : List Sending} (chainPartNumber : Nat)
    (between : ResBetween events whole before mode progress) :
    match resBodyPass settings events bodyChain chainPartNumber progress with
    | .ok after =>
        ResBetween events whole before mode after ∧
          after.ctx.session.course = (progress.ctx.session.resLater
            (events.elapsed chainPartNumber)).course
    | .error exit =>
        LeftResponse settings events mode progress.ctx.session
          chainPartNumber 1 exit := by
  obtain ⟨kept, ran⟩ :=
    runResBodyThread_spec closed joins chainPartNumber between.handed
  unfold resBodyPass
  generalize runResBodyThread settings events chainPartNumber progress = run
    at kept ran
  obtain ⟨res, sent⟩ := run
  dsimp only at kept ran ⊢
  have later := resLater_course kept.course (events.elapsed chainPartNumber)
  have laterMode := (mode_of_course later).trans between.mode
  cases res with
  | false =>
      rw [if_pos rfl, closed.failModeVerdict]
      refine ⟨?_, kept.mode.trans between.mode, ?_⟩
      · rintro chain ⟨⟩
      · rintro chain ⟨⟩
  | true =>
      rw [if_neg (by simp)]
      have left := leaveResPass_spec closed bodyChain
        (events.elapsed chainPartNumber)
        (kept.inFilter between.quiet.inFilter)
      cases leave : leaveResPass settings bodyChain
          (events.elapsed chainPartNumber) sent.ctx with
      | error exit =>
          rw [leave] at left
          refine ⟨left.1, (mode_of_course left.2).trans laterMode, ?_⟩
          intro chain forwards
          refine ⟨0, Nat.zero_lt_one, ?_⟩
          have out := (left.1 chain forwards).1
          rw [passesTime, passesTime, Int.add_zero]
          exact (timedOut_course (left.2.trans later)).mp out
      | ok after =>
          rw [leave] at left
          obtain ⟨quiet, quietAfter, res, verdict, course⟩ := left
          obtain ⟨decided, settled, handed⟩ := ran rfl quiet
          refine ⟨?_, course.trans later⟩
          exact
            { quiet := quietAfter
              settled := by
                intro success
                rw [verdict]
                exact settled (res ▸ success)
              decided := fun delayed => absurd (verdict ▸ delayed) decided
              handed
              mode := (mode_of_course course).trans laterMode }

theorem resBodyPasses_spec (closed : settings.FailClosed) (joins : events.Joins)
    {before : List Sending} (chainElems : List NgxBuf) (chainPartNumber : Nat)
    (between : ResBetween events whole before mode progress) :
    match resBodyPasses settings events bodyChain chainElems chainPartNumber
        progress with
    | .ok after => ResBetween events whole before mode after
    | .error exit =>
        LeftResponse settings events mode progress.ctx.session
          chainPartNumber chainElems.length exit := by
  induction chainElems generalizing chainPartNumber progress with
  | nil => exact between
  | cons chainElem chainElems induction =>
      unfold resBodyPasses
      by_cases done : progress.chain = []
      · rw [if_pos done]
        exact between
      · rw [if_neg done]
        have pass := @resBodyPass_spec _ bodyChain _ _ _ _ closed joins _
          chainPartNumber between
        cases passed : resBodyPass settings events bodyChain chainPartNumber
            progress with
        | error exit =>
            rw [passed] at pass
            refine ⟨pass.late, pass.mode, fun chain forwards => ?_⟩
            obtain ⟨passes, below, overdue⟩ := pass.overdue chain forwards
            exact ⟨passes, Nat.lt_of_lt_of_le below (by simp), overdue⟩
        | ok after =>
            rw [passed] at pass
            dsimp only
            have rest := induction (chainPartNumber + 1) pass.1
            cases looped : resBodyPasses settings events bodyChain chainElems
                (chainPartNumber + 1) after with
            | error exit =>
                rw [looped] at rest
                exact rest.behind pass.2
            | ok last =>
                rw [looped] at rest
                exact rest

end Steps

section Calls

variable {settings : HookSettings}

variable {state : ResponseState} {call : ResBodyCall} {chain : List NgxBuf}

/-- All that the service is given of a body has been handed over, in messages
that it accepted, and the session is neither dropped nor delayed. -/
structure ResInspected (call : ResBodyCall) (inspected : List NgxBuf)
    (before after : ResponseState) : Prop where
  handed : Carried call.events.transport inspected before.sent after.sent
  undropped : after.session.verdict ≠ .drop
  decided : inspected ≠ [] → after.session.verdict ≠ .delayed

theorem failResponse_closed (closed : settings.FailClosed)
    (chain : List NgxBuf) :
    failResponse settings.failModeVerdict chain = .finalizesForbidden := by
  rw [closed.failModeVerdict]
  rfl

theorem streamResponse_state (bodyChain : List NgxBuf)
    (state : ResponseState) : (streamResponse bodyChain state).2 = state := by
  unfold streamResponse
  split <;> rfl

/-- A body that was inspected is streamed for the session that it left. -/
theorem finishInspected_spec (closed : settings.FailClosed) (call : ResBodyCall)
    (bodyChain : List NgxBuf) (modifications : List ModificationNode)
    (state : ResponseState)
    (forwards : (finishInspected settings call bodyChain modifications
      state).1 = .forwards chain) :
    let finished :=
      finishInspected settings call bodyChain modifications state
    finished.2.session = state.session ∧ finished.2.sent = state.sent := by
  unfold finishInspected at forwards ⊢
  dsimp only at forwards ⊢
  generalize modifyResponse call _ bodyChain modifications = outcome
    at forwards ⊢
  obtain ⟨modified, body, left⟩ := outcome
  dsimp only at forwards ⊢
  by_cases unmodified : modified = false
  · rw [if_pos unmodified, failResponse_closed closed] at forwards
    cases forwards
  rw [if_neg unmodified] at forwards ⊢
  split at forwards
  · rename_i accepted
    rw [if_pos accepted]
    exact ⟨rfl, rfl⟩
  rename_i more
  rw [if_neg more]
  split at forwards
  · rename_i plain
    rw [if_pos plain, streamResponse_state]
    exact ⟨rfl, rfl⟩
  rename_i compressedType
  rw [if_neg compressedType]
  split at forwards
  · rename_i empty
    rw [if_pos empty, streamResponse_state]
    exact ⟨rfl, rfl⟩
  rename_i some
  rw [if_neg some]
  split at forwards
  · rw [corruptResponse, failResponse_closed closed] at forwards
    cases forwards
  · rename_i compressed
    rw [if_neg compressed, streamResponse_state]
    exact ⟨rfl, rfl⟩

/-- What the calls of a session keep: its mode, and the mark of a body that is
inspected. -/
structure ResponseState.Stays (before after : ResponseState) : Prop where
  mode : after.session.initialAsyncMode = before.session.initialAsyncMode
  needed : after.asyncProcessingNeeded = before.asyncProcessingNeeded
  inspected : after.isResBodyInspected = before.isResBodyInspected

namespace ResponseState.Stays

variable {before middle after : ResponseState}

theorem refl (state : ResponseState) : state.Stays state :=
  ⟨rfl, rfl, rfl⟩

theorem trans (first : before.Stays middle) (second : middle.Stays after) :
    before.Stays after :=
  ⟨second.mode.trans first.mode, second.needed.trans first.needed,
    second.inspected.trans first.inspected⟩

theorem setVerdict (verdict : ServiceVerdict) (state : ResponseState) :
    state.Stays (state.setVerdict verdict) :=
  ⟨rfl, rfl, rfl⟩

theorem fail (failMode : NgxRc) (state : ResponseState) :
    state.Stays (state.fail failMode) :=
  ⟨fail_mode _ _, rfl, rfl⟩

theorem corrupt (settings : HookSettings) (chain : List NgxBuf)
    (state : ResponseState) :
    state.Stays (corruptResponse settings chain state).2 :=
  ⟨fail_mode _ _, rfl, rfl⟩

theorem stream (chain : List NgxBuf) (state : ResponseState) :
    state.Stays (streamResponse chain state).2 := by
  rw [streamResponse_state]
  exact refl state

theorem finishInspected (call : ResBodyCall) (bodyChain : List NgxBuf)
    (modifications : List ModificationNode) (state : ResponseState) :
    state.Stays
      (finishInspected settings call bodyChain modifications state).2 := by
  unfold Hooks.finishInspected
  dsimp only
  split
  · exact fail _ _
  split
  · exact ⟨rfl, rfl, rfl⟩
  split
  · exact stream _ _
  split
  · exact stream _ _
  split
  · exact corrupt _ _ _
  · exact stream _ _

theorem finishResBody (call : ResBodyCall) (bodyChain : List NgxBuf)
    (progress : BodyProgress) (state : ResponseState) :
    state.Stays
      (finishResBody settings call bodyChain progress state).2 := by
  unfold Hooks.finishResBody
  dsimp only
  split
  · exact setVerdict _ _
  split
  · exact refl state
  split
  · exact fail _ _
  · exact finishInspected _ _ _ _

end ResponseState.Stays

/-- Behind a loop that has come to its end, the filter streams only a body
that has been inspected. -/
theorem finishResBody_spec (closed : settings.FailClosed) (call : ResBodyCall)
    {before : ResponseState}
    (between : ResBetween call.events whole before.sent mode progress)
    (forwards : (finishResBody settings call bodyChain progress
      (before.after progress)).1 = .forwards chain) :
    ResInspected call whole before
      (finishResBody settings call bodyChain progress
        (before.after progress)).2 := by
  unfold finishResBody at forwards ⊢
  dsimp only at forwards ⊢
  by_cases rest : progress.chain ≠ []
  · rw [if_pos rest, failResponse_closed closed] at forwards
    cases forwards
  rw [if_neg rest] at forwards ⊢
  by_cases forbidden : progress.ctx.res = .httpForbidden
  · rw [if_pos forbidden] at forwards
    cases forwards
  rw [if_neg forbidden] at forwards ⊢
  by_cases failed : progress.ctx.res ≠ .ok
  · rw [if_pos failed, failResponse_closed closed] at forwards
    cases forwards
  rw [if_neg failed] at forwards ⊢
  obtain ⟨session, sent⟩ := finishInspected_spec closed call bodyChain
    progress.ctx.modifications (before.after progress) forwards
  have success : progress.ctx.res = .ok := not_not.mp failed
  have allDone : progress.chain = [] := not_not.mp rest
  obtain ⟨carried, split, handed⟩ := between.handed
  rw [allDone, List.append_nil] at split
  refine ⟨?_, ?_, ?_⟩
  · rw [sent, split]
    exact handed
  · rw [session]
    exact between.settled success
  · intro some delayed
    rw [session] at delayed
    exact some ((between.decided delayed).symm.trans allDone)

theorem resBodyPasses_start (closed : settings.FailClosed)
    (joins : call.events.Joins) (bodyChain whole : List NgxBuf)
    (undropped : state.session.verdict ≠ .drop) :
    match resBodyPasses settings call.events bodyChain whole 0
        { ctx :=
            { initThreadCtx state.session with
              asyncFilter := call.asyncFilter }
          chain := whole
          sent := state.sent } with
    | .ok after => ResBetween call.events whole state.sent
        state.session.initialAsyncMode after
    | .error exit =>
        LeftResponse settings call.events state.session.initialAsyncMode
          state.session 0 whole.length exit :=
  resBodyPasses_spec closed joins whole 0
    { quiet := ⟨rfl, rfl⟩
      settled := fun _ => undropped
      decided := fun _ => rfl
      handed := ⟨[], rfl, Nginx.carried_refl _⟩
      mode := rfl }

/-- A body goes on though the time is over, and the session is dropped: behind
one of the passes, or before them when the verdict was delayed. -/
structure LateBody (settings : HookSettings) (call : ResBodyCall)
    (inspected : List NgxBuf) (before after : HookSession) : Prop where
  out : TimedOut settings after
  dropped : after.verdict = .drop
  overdue : before.verdict = .inspect → ∃ passes < inspected.length,
    TimedOut settings
      (before.resLater (passesTime call.events.elapsed 0 (passes + 1)))

theorem inspectResponse_spec (closed : settings.FailClosed)
    (joins : call.events.Joins) (bodyChain : List NgxBuf)
    (undropped : state.session.verdict ≠ .drop) :
    let inspected := inspectResponse settings call bodyChain state
    state.Stays inspected.2 ∧
      ∀ chain, inspected.1 = .forwards chain →
        ResInspected call
            (inspectedChain bodyChain state.response.originalCompressedBody)
            state inspected.2 ∨
          LateBody settings call
            (inspectedChain bodyChain state.response.originalCompressedBody)
            state.session inspected.2.session := by
  have passes := resBodyPasses_start closed joins bodyChain
    (inspectedChain bodyChain state.response.originalCompressedBody) undropped
  unfold inspectResponse
  dsimp only
  split
  · rename_i answer progress left
    rw [left] at passes
    refine ⟨⟨passes.mode, rfl, rfl⟩, fun chain forwards => .inr ?_⟩
    obtain ⟨out, dropped⟩ := passes.late chain forwards
    exact ⟨out, dropped, fun _ => passes.overdue chain forwards⟩
  · rename_i progress ended
    rw [ended] at passes
    have after : state.Stays (state.after progress) :=
      ⟨passes.mode, rfl, rfl⟩
    exact ⟨after.trans (.finishResBody call bodyChain progress _),
      fun chain forwards =>
        .inl (finishResBody_spec closed call passes forwards)⟩

/-- What is done before the inspection leaves the session alone, and a failure
there forwards nothing. -/
def Prepares (state : ResponseState) :
    Except (ResponseAnswer × ResponseState) (List NgxBuf × ResponseState) →
      Prop
  | .ok (_, ready) =>
      state.Stays ready ∧ ready.session = state.session ∧
        ready.sent = state.sent
  | .error exit => state.Stays exit.2 ∧ ∀ chain, exit.1 ≠ .forwards chain

theorem prepares_corrupt (closed : settings.FailClosed)
    {corrupted : ResponseState} (same : state.Stays corrupted)
    (chain : List NgxBuf) :
    Prepares state (.error (corruptResponse settings chain corrupted)) := by
  refine ⟨same.trans (.corrupt settings chain corrupted), fun streamed => ?_⟩
  rw [corruptResponse, failResponse_closed closed]
  nofun

theorem decompressResponse_spec (closed : settings.FailClosed)
    (call : ResBodyCall) (state : ResponseState) :
    Prepares state (decompressResponse settings call state) := by
  unfold decompressResponse
  dsimp only
  generalize initOriginalBody call state.response = initialized
  split
  · refine prepares_corrupt closed ?_ _
    exact ⟨rfl, rfl, rfl⟩
  · generalize ResponseState.ocbParam _ = saved
    cases saved with
    | none =>
        split
        · exact ⟨⟨rfl, rfl, rfl⟩, rfl, rfl⟩
        · refine prepares_corrupt closed ?_ _
          exact ⟨rfl, rfl, rfl⟩
    | some saved =>
        split
        · exact ⟨⟨rfl, rfl, rfl⟩, rfl, rfl⟩
        · refine prepares_corrupt closed ?_ _
          exact ⟨rfl, rfl, rfl⟩

theorem prepareResponse_spec (closed : settings.FailClosed)
    (call : ResBodyCall) (state : ResponseState) :
    Prepares state (prepareResponse settings call state) := by
  unfold prepareResponse
  split
  · exact decompressResponse_spec closed call state
  · split
    · exact ⟨⟨rfl, rfl, rfl⟩, rfl, rfl⟩
    · exact ⟨.refl state, rfl, rfl⟩

theorem recompressAccepted_stays (call : ResBodyCall)
    (bodyChain : List NgxBuf) (state : ResponseState) :
    state.Stays (recompressAccepted settings call bodyChain state).2 := by
  unfold recompressAccepted
  dsimp only
  split
  · exact .corrupt _ _ _
  split
  · exact .corrupt _ _ _
  · exact .refl state

/-- A body that goes on without a verdict is inspected, or it comes too late,
or the request was not inspected. -/
theorem filterPrepared_spec (closed : settings.FailClosed)
    (joins : call.events.Joins) (bodyChain : List NgxBuf)
    (undropped : state.session.verdict ≠ .drop) :
    let filtered := filterPrepared settings call bodyChain state
    state.Stays filtered.2 ∧
      ∀ chain, filtered.1 = .forwards chain →
        state.session.verdict = .accept ∨
          (call.asyncFilter = false ∧
            state.session.wasRequestFullyInspected = false ∧
            filtered.2.session.verdict = .accept) ∨
          ResInspected call
            (inspectedChain bodyChain state.response.originalCompressedBody)
            state filtered.2 ∨
          LateBody settings call
            (inspectedChain bodyChain state.response.originalCompressedBody)
            state.session filtered.2.session := by
  unfold filterPrepared
  dsimp only
  by_cases accepted : state.session.verdict = .accept
  · rw [if_pos accepted]
    exact ⟨recompressAccepted_stays call bodyChain state,
      fun _ _ => .inl accepted⟩
  rw [if_neg accepted]
  unfold wasTransactionTimedout
  by_cases out : TimedOut settings state.session
  · simp only [if_pos out, if_true]
    have course := fail_course settings.failModeVerdict state.session
    have failed := ResponseState.Stays.fail settings.failModeVerdict state
    split
    · exact ⟨failed, by rintro _ ⟨⟩⟩
    · rename_i undropped
      refine ⟨failed.trans (.setVerdict _ _), fun chain _ => ?_⟩
      refine .inr (.inr (.inr ⟨?_, ?_, fun inspects => absurd ?_ undropped⟩))
      · exact (timedOut_course course).mpr out
      · rw [closed.failModeVerdict]
        rfl
      · simp [handleInspectionFailure, inspects, closed.failModeVerdict]
  · rw [if_neg out]
    dsimp only
    rw [if_neg Bool.false_ne_true]
    by_cases transparent : call.transparent = true
    · rw [if_pos transparent, failResponse_closed closed]
      exact ⟨.setVerdict _ _, by rintro _ ⟨⟩⟩
    rw [if_neg transparent]
    by_cases unfinished : call.asyncFilter = false ∧
        state.session.wasRequestFullyInspected = false
    · rw [if_pos unfinished]
      exact ⟨.setVerdict _ _, fun _ _ =>
        .inr (.inl ⟨unfinished.1, unfinished.2, rfl⟩)⟩
    · rw [if_neg unfinished]
      obtain ⟨stays, streamed⟩ :=
        inspectResponse_spec closed joins bodyChain undropped
      exact ⟨stays, fun chain forwards =>
        .inr (.inr (streamed chain forwards))⟩

/-- The session was decided before a call, or it can no longer be inspected,
and nothing that was inspected of its body is dropped. -/
def SkipsInspection (state : ResponseState) : Prop :=
  (state.response.responseDataStatus ≠ .ok ∨
    (state.session.verdict ≠ .inspect ∧ state.session.verdict ≠ .delayed)) ∧
    ¬(state.session.verdict = .drop ∧ state.isResBodyInspected = true)

/-- A call that streams a body: its session was decided before, its request
was not inspected, it has been inspected, or it is too late for that. -/
structure AdmitsResponse (settings : HookSettings) (state : ResponseState)
    (call : ResBodyCall) : Prop where
  streamed : ∀ chain,
    (resBodyFilterCore settings call state).1 = .forwards chain →
      call.chain ≠ [] →
      let after := (resBodyFilterCore settings call state).2
      SkipsInspection state ∨
        (call.asyncFilter = false ∧
          state.session.wasRequestFullyInspected = false ∧
          after.session.verdict = .accept) ∨
        (∃ bodyChain ready,
          prepareResponse settings call state.countChunk =
              .ok (bodyChain, ready) ∧
            ResInspected call
              (inspectedChain bodyChain
                ready.response.originalCompressedBody) state after) ∨
        (TimedOut settings after.session ∧ after.session.verdict = .drop)

/-- A call in the mode of its session, whose canceled threads can be joined. -/
structure ResBodyCall.Regular (call : ResBodyCall) (state : ResponseState) :
    Prop where
  sameMode : ¬OtherMode call state.session
  needed : call.asyncFilter = true → state.asyncProcessingNeeded = true
  joins : call.events.Joins

/-- What a regular call finds depends on what every call keeps. -/
structure SameMode (first second : ResponseState) : Prop where
  mode : second.session.initialAsyncMode = first.session.initialAsyncMode
  needed : second.asyncProcessingNeeded = first.asyncProcessingNeeded

theorem ResBodyCall.Regular.congr {first second : ResponseState}
    (regular : call.Regular first) (same : SameMode first second) :
    call.Regular second := by
  refine ⟨?_, ?_, regular.joins⟩
  · have other := regular.sameMode
    rw [OtherMode] at other ⊢
    rw [same.mode]
    exact other
  · rw [same.needed]
    exact regular.needed

theorem skipResponse_spec
    (forwards : skipResponse call state = .forwards chain) :
    ¬(state.session.verdict = .drop ∧ state.isResBodyInspected = true) := by
  unfold skipResponse at forwards
  intro dropped
  rw [if_pos dropped] at forwards
  cases forwards

/-- A call that goes past the checks of the session prepares its body. -/
theorem resBodyFilterCore_inspects (closed : settings.FailClosed)
    (joins : call.events.Joins) (undropped : state.session.verdict ≠ .drop) :
    let filtered :=
      match prepareResponse settings call state.countChunk with
      | .error exit => exit
      | .ok (bodyChain, state) => filterPrepared settings call bodyChain state
    SameMode state filtered.2 ∧ filtered.2.isResBodyInspected = true ∧
      ∀ chain, filtered.1 = .forwards chain →
        state.session.verdict = .accept ∨
          (call.asyncFilter = false ∧
            state.session.wasRequestFullyInspected = false ∧
            filtered.2.session.verdict = .accept) ∨
          (∃ bodyChain ready,
            prepareResponse settings call state.countChunk =
                .ok (bodyChain, ready) ∧
              ResInspected call
                (inspectedChain bodyChain
                  ready.response.originalCompressedBody) state filtered.2) ∨
          ∃ bodyChain ready,
            prepareResponse settings call state.countChunk =
                .ok (bodyChain, ready) ∧
              LateBody settings call
                (inspectedChain bodyChain
                  ready.response.originalCompressedBody) state.session
                filtered.2.session := by
  have prepares := prepareResponse_spec closed call state.countChunk
  cases prepared : prepareResponse settings call state.countChunk with
  | error exit =>
      rw [prepared] at prepares
      exact ⟨⟨prepares.1.mode, prepares.1.needed⟩, prepares.1.inspected,
        fun chain forwards => absurd forwards (prepares.2 chain)⟩
  | ok next =>
      obtain ⟨bodyChain, ready⟩ := next
      rw [prepared] at prepares
      obtain ⟨stays, session, sent⟩ := prepares
      have counted : ready.session = state.session := session
      obtain ⟨staysLater, streamed⟩ := filterPrepared_spec closed joins
        bodyChain (counted ▸ undropped)
      have whole := stays.trans staysLater
      refine ⟨⟨whole.mode, whole.needed⟩, whole.inspected,
        fun chain forwards => ?_⟩
      rcases streamed chain forwards with
        accepted | unfinished | inspected | late
      · exact .inl (counted ▸ accepted)
      · exact .inr (.inl (counted ▸ unfinished))
      · refine .inr (.inr (.inl ⟨bodyChain, ready, rfl, ?_⟩))
        have handed := inspected.handed
        rw [sent] at handed
        exact ⟨handed, inspected.undropped, inspected.decided⟩
      · exact .inr (.inr (.inr ⟨bodyChain, ready, rfl, counted ▸ late⟩))

theorem resBodyFilterCore_cases (closed : settings.FailClosed)
    (regular : call.Regular state) :
    let filtered := resBodyFilterCore settings call state
    (filtered = (.returns .error, state.setVerdict .drop)) ∨
      (filtered = (skipResponse call state, state) ∧
        (state.response.responseDataStatus ≠ .ok ∨
          AlreadyInspected call state)) ∨
      (¬AlreadyInspected call state ∧
        filtered =
          if call.chain = [] then (.forwards call.chain, state.countChunk)
          else
            match prepareResponse settings call state.countChunk with
            | .error exit => exit
            | .ok (bodyChain, state) =>
                filterPrepared settings call bodyChain state) := by
  have needed : ¬(call.asyncFilter = true ∧
      state.asyncProcessingNeeded = false) := by
    rintro ⟨async, unneeded⟩
    rw [regular.needed async] at unneeded
    cases unneeded
  unfold resBodyFilterCore
  dsimp only
  rw [if_neg regular.sameMode]
  by_cases down : call.ipcReady = false
  · rw [if_pos down, closed.failModeVerdict]
    exact .inl rfl
  rw [if_neg down, if_neg needed]
  by_cases skips : state.response.responseDataStatus ≠ .ok ∨
      AlreadyInspected call state
  · rw [if_pos skips]
    exact .inr (.inl ⟨rfl, skips⟩)
  · rw [if_neg skips]
    exact .inr (.inr ⟨fun decided => skips (.inr decided), rfl⟩)

theorem undropped_of_open (undecided : ¬AlreadyInspected call state) :
    state.session.verdict ≠ .drop := by
  intro dropped
  apply undecided
  rw [AlreadyInspected, dropped]
  exact ⟨nofun, nofun, .inl nofun⟩

theorem resBodyFilterCore_spec (closed : settings.FailClosed)
    (regular : call.Regular state) :
    AdmitsResponse settings state call ∧
      SameMode state (resBodyFilterCore settings call state).2 := by
  rcases resBodyFilterCore_cases closed regular with
    down | ⟨skipped, decided⟩ | ⟨undecided, looked⟩
  · refine ⟨⟨?_⟩, ?_⟩
    · rw [down]
      nofun
    · rw [down]
      exact ⟨rfl, rfl⟩
  · refine ⟨⟨?_⟩, ?_⟩
    · intro chain forwards _
      rw [skipped] at forwards
      refine .inl ⟨decided.imp_right ?_, skipResponse_spec forwards⟩
      exact fun already => ⟨already.1, already.2.1⟩
    · rw [skipped]
      exact ⟨rfl, rfl⟩
  · have undropped := undropped_of_open undecided
    by_cases empty : call.chain = []
    · rw [if_pos empty] at looked
      refine ⟨⟨fun chain _ some => absurd empty some⟩, ?_⟩
      rw [looked]
      exact ⟨rfl, rfl⟩
    · rw [if_neg empty] at looked
      obtain ⟨same, _, streamed⟩ :=
        resBodyFilterCore_inspects closed regular.joins undropped
      rw [← looked] at same streamed
      refine ⟨⟨fun chain forwards _ => ?_⟩, same⟩
      rcases streamed chain forwards with
        accepted | unfinished | inspected | ⟨_, _, _, late⟩
      · refine .inl ⟨.inr ?_, fun dropped => undropped dropped.1⟩
        rw [accepted]
        exact ⟨nofun, nofun⟩
      · exact .inr (.inl unfinished)
      · exact .inr (.inr (.inl inspected))
      · exact .inr (.inr (.inr ⟨late.out, late.dropped⟩))

theorem resBodyFilterCore_dropped (closed : settings.FailClosed)
    (regular : call.Regular state)
    (dropped : state.session.verdict = .drop ∧
      state.isResBodyInspected = true) :
    let filtered := resBodyFilterCore settings call state
    (∀ chain, filtered.1 ≠ .forwards chain) ∧
      SameMode state filtered.2 ∧
      filtered.2.session.verdict = .drop ∧
      filtered.2.isResBodyInspected = true := by
  rcases resBodyFilterCore_cases closed regular with
    down | ⟨skipped, _⟩ | ⟨undecided, _⟩
  · rw [down]
    exact ⟨nofun, ⟨rfl, rfl⟩, rfl, dropped.2⟩
  · rw [skipped]
    exact ⟨fun chain forwards => skipResponse_spec forwards dropped,
      ⟨rfl, rfl⟩, dropped⟩
  · exact absurd dropped.1 (undropped_of_open undecided)

theorem run_response_dropped (closed : settings.FailClosed)
    (dropped : state.session.verdict = .drop ∧
      state.isResBodyInspected = true) {calls : List ResBodyCall}
    (regular : ∀ call ∈ calls, call.Regular state) :
    ∀ answer ∈ (Trace.run
      (fun state call => resBodyFilterCore settings call state) state
      calls).1, ∀ chain, answer ≠ .forwards chain := by
  induction calls generalizing state with
  | nil => nofun
  | cons call calls induction =>
      obtain ⟨refused, same, still⟩ := resBodyFilterCore_dropped closed
        (regular call List.mem_cons_self) dropped
      intro answer member
      rw [Trace.run_cons, List.mem_cons] at member
      rcases member with rfl | member
      · exact refused
      · exact induction still (fun other inCalls =>
          (regular other (List.mem_cons_of_mem call inCalls)).congr same)
          answer member

end Calls

/-- Failures close, and a response has two milliseconds. -/
def shortResponseTime : HookSettings :=
  { shortTime with reqMaxProccessingMsTime := 0, resMaxProccessingMsTime := 2 }

/-- A call for a body whose codec changes nothing. -/
def quickResCall (chain : List NgxBuf) : ResBodyCall :=
  { chain
    asyncFilter := false
    asyncModeEnabled := false
    ipcReady := true
    transparent := false
    brotliInspectionEnabled := false
    firstPosSet := true
    chainLinkAllocated := true
    cleanupAdded := true
    decompressionPoolReady := true
    recompressionPoolReady := true
    decompressBody := fun chain _ =>
      { succeeds := true, chain, saved := ⟨chain.head?, chain.tail⟩ }
    compressBody := fun chain => (true, chain)
    copyCompressedToOriginalBuffers := fun original _ => (true, original)
    isBodyChainEmpty := List.isEmpty
    bodyModifier := fun chain _ => (true, chain)
    events := quickEvents }

/-- A compressed response to a request that was inspected. -/
def freshResponse : ResponseState :=
  { session := { freshState.session with wasRequestFullyInspected := true }
    response :=
      { responseDataStatus := .ok
        originalCompressionType := .gzip
        newCompressionType := .gzip
        numBodyChunk := 0
        originalCompressedBody := none }
    asyncProcessingNeeded := false
    isResBodyInspected := false
    sent := [] }

/-- The first chunk is inspected, the second is late, the third is refused. -/
example :
    (Trace.run
      (fun state call => resBodyFilterCore shortResponseTime call state)
      freshResponse
      [quickResCall [⟨[1], false⟩], quickResCall [⟨[2], false⟩],
        quickResCall [⟨[3], true⟩]]).1 =
      [.forwards [⟨[1], false⟩], .forwards [⟨[2], false⟩],
        .finalizesForbidden] := by
  decide +kernel

end OpenAppsec.Hooks
