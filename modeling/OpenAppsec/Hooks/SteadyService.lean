import OpenAppsec.Hooks.FailClosedResponses

/-!
# A service that goes on inspecting

The service takes each chunk of a body after a wait, and answers that it wants
more.  Under such events the loops of the body filters make all their passes,
and only the time of the transaction ends them before.
-/

namespace OpenAppsec.Hooks

open Nginx (NgxBuf SendOutcome Sending Carried)
open Async (NgxRc)
open CountedReader (StillReading EndsAt)

/-- The service is told of a part of a body. -/
def Given (chain : List NgxBuf) : Prop :=
  ∃ buf ∈ chain, buf.IsSent

instance (chain : List NgxBuf) : Decidable (Given chain) :=
  inferInstanceAs (Decidable (∃ buf ∈ chain, buf.IsSent))

/-- A reply that asks for more of a session. -/
def inspects (sessionId : BitVec 32) : Delivery where
  reply :=
    { verdict := .inspect, sessionId, injectData := [], responseData := [] }
  malloc := fun _ => true
  ngxPcalloc := fun _ => true
  loadedAsyncMode := none

/-- Every message waits before it is sent, and every wait is answered with
replies that ask for more. -/
def steadyEvents (sessionId : BitVec 32) (replies : Nat)
    (elapsed : Nat → Int) : HookEvents where
  threads := fun _ => .finished
  transport := fun _ =>
    { result := .ok, errCodes := [1, 0], wasWaiting := true }
  endTransactionSent := fun _ => true
  waitSent := fun _ => true
  receives := fun _ =>
    { waited := .ok, queue := List.replicate replies (inspects sessionId) }
  elapsed

theorem steadyEvents_joins (sessionId : BitVec 32) (replies : Nat)
    (elapsed : Nat → Int) : (steadyEvents sessionId replies elapsed).Joins :=
  fun _ _ same => (by cases same)

theorem replyKind_inspects (sessionId : BitVec 32) :
    Nginx.replyKind sessionId (inspects sessionId) = .count := by
  refine Nginx.replyKind_eq_count_iff.mpr ⟨?_, ?_, ?_, ?_⟩
  · simp [inspects, Delivery.IsCurrent]
  · simp [inspects]
  · simp [inspects, ServiceVerdict.IsFinal]
  · simp [inspects]

section Steady

variable {settings : HookSettings} {sessionId : BitVec 32} {replies : Nat}
variable {elapsed : Nat → Int}

variable {origin : HookSession} {ctx : Inspection} {progress : BodyProgress}

/-- A context that nothing has asked to leave, with replies enough to come. -/
structure Ready (sessionId : BitVec 32) (replies : Nat)
    (origin : HookSession) (ctx : Inspection) : Prop where
  goesOn : ctx.shouldReturn = false
  inFilter : ctx.shouldReturnNextFilter = false
  sessionId : ctx.session.sessionId = sessionId
  few : ctx.session.remainingMessagesToReply < replies
  course : ctx.session.course = origin.course

/-- A context whose session goes on being inspected. -/
structure Answered (sessionId : BitVec 32) (replies : Nat)
    (origin : HookSession) (ctx : Inspection) : Prop
    extends Ready sessionId replies origin ctx where
  res : ctx.res = .ok
  verdict : ctx.session.verdict = .inspect

/-- The receiver reads as many replies as it waits for. -/
theorem receiver_steady {start : Nginx.ReceiverState Unit} {count : Nat}
    (waits : start.expectedReplies = count + 1)
    (queue : start.queue = List.replicate replies (inspects sessionId))
    (few : count < replies) :
    ∃ final,
      Nginx.ngxHttpCpReplyReceiver noHandlers sessionId start =
          some (.ok, final) ∧
        final.verdict = .inspect ∧ final.expectedReplies = 0 := by
  have counts := replyKind_inspects sessionId
  have counted : CountedReader.counted (Nginx.replyKind sessionId)
      (List.replicate count (inspects sessionId)) = count := by
    simp [CountedReader.counted, List.countP_replicate, counts]
  have split : start.queue = List.replicate count (inspects sessionId) ++
      inspects sessionId ::
        List.replicate (replies - (count + 1)) (inspects sessionId) := by
    rw [queue, ← List.replicate_succ, List.replicate_append_replicate]
    congr 1
    omega
  have examines : start.Examines sessionId
      (List.replicate count (inspects sessionId)) := by
    refine ⟨by omega, fun message member => ?_⟩
    rw [List.eq_of_mem_replicate member, counts]
    exact ⟨by simp, by simp⟩
  have ends : EndsAt (Nginx.replyKind sessionId) start.expectedReplies
      (List.replicate count (inspects sessionId)) (inspects sessionId) :=
    .inr (.inr ⟨counts, by omega⟩)
  obtain ⟨result, final, returned, outcome, -, rest, -⟩ :=
    Nginx.receiver_ends noHandlers split examines ends
  have success := congrArg Prod.fst outcome
  have verdict := congrArg (fun ending => ending.2.1) outcome
  dsimp only [Nginx.endsWith, inspects] at success verdict
  subst success
  exact ⟨final, returned, verdict, (rest (by simp [counts])).2⟩

theorem replyReceiver_steady (ready : Ready sessionId replies origin ctx) :
    Answered sessionId replies origin
      (replyReceiver (steadyEvents sessionId replies elapsed)
        (ctx.addRemaining 1)) := by
  have some : 0 < replies := Nat.zero_lt_of_lt ready.few
  set start : Nginx.ReceiverState Unit :=
    { queue := List.replicate replies (inspects sessionId)
      expectedReplies := ctx.session.remainingMessagesToReply + 1
      verdict := ctx.session.verdict
      inspectAllResponseHeaders := ctx.session.inspectAllResponseHeaders
      modificationList := ctx.modifications
      webResponse := ()
      currentConfigVersion := 0 } with startEq
  obtain ⟨final, returned, verdict, none⟩ :=
    @receiver_steady sessionId replies start _ rfl rfl ready.few
  have waits : (ctx.addRemaining 1).session.remainingMessagesToReply ≠ 0 :=
    Nat.succ_ne_zero _
  unfold replyReceiver
  dsimp only
  rw [if_neg waits, if_neg (by simp [steadyEvents])]
  simp only [steadyEvents, Inspection.addRemaining, ready.sessionId]
  rw [← startEq, returned]
  exact
    { goesOn := ready.goesOn
      inFilter := ready.inFilter
      sessionId := rfl
      few := by
        dsimp only
        rw [none]
        exact some
      course := ready.course
      res := rfl
      verdict := verdict }

theorem sendChain_steady (bodyType : AttachmentDataType)
    (session : BitVec 32) {chain : List NgxBuf} (given : Given chain)
    {state : Nginx.BodyLoop} (fresh : state.chunksProcessed = 0) :
    ∃ next loop,
      Nginx.sendChain (steadyEvents sessionId replies elapsed).transport
          bodyType session chain state = (some next, loop) ∧
        Given next ∧ loop.numPartsSent = state.numPartsSent + 1 := by
  have room : 0 < Nginx.maxChunksToProcess bodyType := by
    unfold Nginx.maxChunksToProcess
    split <;> decide
  induction chain generalizing state with
  | nil =>
      obtain ⟨buf, member, -⟩ := given
      cases member
  | cons buf chain induction =>
      rw [Nginx.sendChain, fresh, if_pos room]
      by_cases isSent : buf.IsSent
      · simp only [if_pos isSent, steadyEvents, ne_eq, not_true_eq_false,
          if_false, if_true]
        exact ⟨buf :: chain, _, rfl, ⟨buf, List.mem_cons_self, isSent⟩, rfl⟩
      · rw [if_neg isSent]
        have rest : Given chain := by
          obtain ⟨other, member, otherSent⟩ := given
          rcases List.mem_cons.mp member with rfl | later
          · exact absurd otherSent isSent
          · exact ⟨other, later, otherSent⟩
        exact induction rest rfl

theorem bodySender_steady (bodyType : AttachmentDataType)
    (session : BitVec 32) {chain : List NgxBuf} (given : Given chain)
    (partNumber : Nat) (sent : List Sending) :
    ∃ next loop,
      Nginx.ngxHttpCpBodySender
          (steadyEvents sessionId replies elapsed).transport bodyType session
          chain partNumber sent = (some next, loop) ∧
        Given next ∧ loop.numPartsSent = 1 := by
  obtain ⟨next, loop, sends, givenNext, parts⟩ :=
    @sendChain_steady sessionId replies elapsed bodyType session chain given
      (.start (if bodyType = .responseBody then UInt8.ofNat partNumber else 0)
        sent) rfl
  rw [Nginx.ngxHttpCpBodySender_eq, sends]
  exact ⟨next, loop, rfl, givenNext, parts⟩

/-- What a pass under steady events finds. -/
structure Waits (sessionId : BitVec 32) (replies : Nat)
    (origin : HookSession) (progress : BodyProgress) : Prop where
  ready : Ready sessionId replies origin progress.ctx
  given : Given progress.chain

theorem runBodyThread_steady (waits : Waits sessionId replies origin progress) :
    ∃ after,
      runBodyThread settings (steadyEvents sessionId replies elapsed)
          progress = (true, after) ∧
        Answered sessionId replies origin after.ctx ∧
        Given after.chain := by
  obtain ⟨next, loop, sends, given, parts⟩ :=
    @bodySender_steady sessionId replies elapsed .requestBody
      progress.ctx.session.sessionId progress.chain waits.given 0 progress.sent
  have ready : Ready sessionId replies origin
      { progress.ctx with threadsRun := progress.ctx.threadsRun + 1 } :=
    { waits.ready with }
  have answered := @replyReceiver_steady sessionId replies elapsed _ _ ready
  refine ⟨_, rfl, ?_, ?_⟩
  · simp only [reqBodyFilterThread, sends, parts]
    exact { answered with }
  · simp only [reqBodyFilterThread, sends]
    exact given

theorem endRequest_steady (whole : List NgxBuf)
    (answered : Answered sessionId replies origin ctx) :
    ∃ after,
      endRequest settings (steadyEvents sessionId replies elapsed) whole ctx =
          .ok after ∧ Answered sessionId replies origin after := by
  unfold endRequest
  by_cases unfinished : ctx.session.wasRequestFullyInspected = false
  · exact ⟨ctx, if_pos unfinished, answered⟩
  · rw [if_neg unfinished]
    set next : Inspection := { ctx with threadsRun := ctx.threadsRun + 1 }
    have ready : Ready sessionId replies origin next :=
      { answered.toReady with }
    have again := @replyReceiver_steady sessionId replies elapsed _ _ ready
    have ran : reqEndTransactionThread settings
        (steadyEvents sessionId replies elapsed) next =
          replyReceiver (steadyEvents sessionId replies elapsed)
            (next.addRemaining 1) := by
      have asks : next.session.verdict = .inspect := answered.verdict
      simp [reqEndTransactionThread, steadyEvents, Inspection.addRemaining,
        asks]
    have finished (failMode : NgxRc) (routine : Inspection → Inspection) :
        runInThreadTimeout (steadyEvents sessionId replies elapsed) failMode
          routine ctx = (true, routine next) := rfl
    refine ⟨_, ?_, again⟩
    rw [finished, ran]
    simp [holdIfDelayed, again.verdict]

/-- A pass that nothing else ends lets the chain go when the time is over. -/
theorem leavePass_steady (whole : List NgxBuf) (took : Int)
    (answered : Answered sessionId replies origin ctx) :
    if TimedOut settings (origin.reqLater took) then
      ∃ after, leavePass settings whole took ctx =
        .error (.forwards whole, after) ∧
          after.session.verdict = Async.failVerdict settings.failModeVerdict
    else
      ∃ after, leavePass settings whole took ctx = .ok after ∧
        Answered sessionId replies (origin.reqLater took) after := by
  have course := reqLater_course answered.course took
  unfold leavePass
  dsimp only
  rw [answered.inFilter, answered.goesOn]
  simp only [Bool.false_eq_true, if_false]
  generalize later : ({ ctx.session with
    reqProccesingTime := ctx.session.reqProccesingTime + took } :
      HookSession) = session
  obtain rfl : session = ctx.session.reqLater took := later.symm
  unfold wasTransactionTimedout
  by_cases out : TimedOut settings (origin.reqLater took)
  · rw [if_pos out, if_pos ((timedOut_course course).mpr out)]
    exact ⟨_, rfl, rfl⟩
  · rw [if_neg out, if_neg fun outHere =>
      out ((timedOut_course course).mp outHere)]
    exact ⟨_, rfl,
      { goesOn := rfl
        inFilter := rfl
        sessionId := answered.sessionId
        few := answered.few
        course
        res := answered.res
        verdict := answered.verdict }⟩

/-- So does the loop, behind the first pass at which it is. -/
theorem reqBodyPass_steady (whole : List NgxBuf) (took : Int)
    (waits : Waits sessionId replies origin progress) :
    let pass := reqBodyPass settings (steadyEvents sessionId replies elapsed)
      whole took progress
    if TimedOut settings (origin.reqLater took) then
      ∃ after, pass = .error (.forwards whole, after) ∧
        after.ctx.session.verdict =
          Async.failVerdict settings.failModeVerdict
    else
      ∃ after, pass = .ok after ∧
        Waits sessionId replies (origin.reqLater took) after := by
  intro pass
  obtain ⟨ran, thread, answered, given⟩ :=
    @runBodyThread_steady settings sessionId replies elapsed _ _ waits
  obtain ⟨ended, ends, answeredEnd⟩ :=
    @endRequest_steady settings sessionId replies elapsed _ _ whole answered
  have held : holdPart settings (steadyEvents sessionId replies elapsed)
      whole ran.ctx = .ok ran.ctx := by
    simp [holdPart, holdIfDelayed, answered.verdict]
  have leaves := @leavePass_steady settings sessionId replies _ _ whole took
    answeredEnd
  have passEq : pass =
      ((leavePass settings whole took ended).mapError fun exit =>
        (exit.1, { ran with ctx := exit.2 })).map fun ctx =>
          { ran with ctx } := by
    simp only [pass, reqBodyPass, thread]
    rw [if_neg (by simp [answered.res])]
    rcases left : leavePass settings whole took ended with exit | ctx <;>
      simp only [bind, Except.bind, held, ends, left, Except.mapError,
        Except.map]
  rw [passEq]
  by_cases out : TimedOut settings (origin.reqLater took)
  · rw [if_pos out] at leaves ⊢
    obtain ⟨after, left, dropped⟩ := leaves
    rw [left]
    exact ⟨_, rfl, dropped⟩
  · rw [if_neg out] at leaves ⊢
    obtain ⟨after, goesOn, next⟩ := leaves
    rw [goesOn]
    exact ⟨_, rfl, next.toReady, given⟩

theorem reqBodyPasses_steady (whole chainElems : List NgxBuf) {index pass : Nat}
    (waits : Waits sessionId replies origin progress)
    (below : pass < chainElems.length)
    (out : TimedOut settings
      (origin.reqLater (passesTime elapsed index (pass + 1)))) :
    ∃ after,
      reqBodyPasses settings (steadyEvents sessionId replies elapsed) whole
          chainElems index progress = .error (.forwards whole, after) ∧
        after.ctx.session.verdict =
          Async.failVerdict settings.failModeVerdict := by
  induction chainElems generalizing origin index pass progress with
  | nil => cases below
  | cons chainElem chainElems induction =>
      have open' : progress.chain ≠ [] := by
        obtain ⟨buf, member, -⟩ := waits.given
        exact List.ne_nil_of_mem member
      have first := @reqBodyPass_steady settings sessionId replies elapsed _ _
        whole (elapsed index) waits
      have took : (steadyEvents sessionId replies elapsed).elapsed index =
          elapsed index := rfl
      unfold reqBodyPasses
      rw [if_neg open', took]
      by_cases now : TimedOut settings (origin.reqLater (elapsed index))
      · dsimp only at first
        rw [if_pos now] at first
        obtain ⟨after, left, dropped⟩ := first
        rw [left]
        exact ⟨after, rfl, dropped⟩
      · dsimp only at first
        rw [if_neg now] at first
        obtain ⟨after, goesOn, waitsNext⟩ := first
        cases pass with
        | zero =>
            rw [passesTime, passesTime, Int.add_zero] at out
            exact absurd out now
        | succ pass =>
            rw [passesTime, ← reqLater_reqLater] at out
            rw [goesOn]
            exact induction waitsNext (Nat.lt_of_succ_lt_succ below) out

theorem holdInThread_steady {events : HookEvents}
    (answered : Answered sessionId replies origin ctx) :
    holdInThread settings events ctx = (true, ctx) := by
  simp [holdInThread, holdIfDelayed, answered.verdict]

theorem endResponse_steady (answered : Answered sessionId replies origin ctx) :
    Answered sessionId replies origin
      (endResponse settings (steadyEvents sessionId replies elapsed) ctx) := by
  have again := @replyReceiver_steady sessionId replies elapsed _ _
    answered.toReady
  have asks : ¬(ctx.session.verdict = .accept ∨
      ctx.session.verdict = .drop) := by
    simp [answered.verdict]
  have sent : (steadyEvents sessionId replies elapsed).endTransactionSent
      ctx.threadsRun ≠ false := by
    simp [steadyEvents]
  unfold endResponse
  rw [if_neg sent, if_neg asks, holdInThread_steady again]
  exact again

theorem runResBodyThread_steady (chainPartNumber : Nat)
    (waits : Waits sessionId replies origin progress) :
    ∃ after,
      runResBodyThread settings (steadyEvents sessionId replies elapsed)
          chainPartNumber progress = (true, after) ∧
        Answered sessionId replies origin after.ctx ∧
        Given after.chain := by
  obtain ⟨next, loop, sends, given, parts⟩ :=
    @bodySender_steady sessionId replies elapsed .responseBody
      progress.ctx.session.sessionId progress.chain waits.given
      chainPartNumber progress.sent
  have ready : Ready sessionId replies origin
      { progress.ctx with threadsRun := progress.ctx.threadsRun + 1 } :=
    { waits.ready with }
  have answered := @replyReceiver_steady sessionId replies elapsed _ _ ready
  refine ⟨_, rfl, ?_, ?_⟩
  · simp only [resBodyFilterThread, sends, parts]
    rw [holdInThread_steady answered]
    split
    · exact endResponse_steady answered
    · exact answered
  · simp only [resBodyFilterThread, sends]
    exact given

theorem leaveResPass_steady (bodyChain : List NgxBuf) (took : Int)
    (answered : Answered sessionId replies origin ctx) :
    if TimedOut settings (origin.resLater took) then
      ∃ after, leaveResPass settings bodyChain took ctx =
        .error (.forwards bodyChain, after) ∧
          after.session.verdict = Async.failVerdict settings.failModeVerdict
    else
      ∃ after, leaveResPass settings bodyChain took ctx = .ok after ∧
        Answered sessionId replies (origin.resLater took) after := by
  have course := resLater_course answered.course took
  unfold leaveResPass
  dsimp only
  rw [answered.inFilter, answered.goesOn]
  simp only [Bool.false_eq_true, if_false]
  generalize later : ({ ctx.session with
    resProccesingTime := ctx.session.resProccesingTime + took } :
      HookSession) = session
  obtain rfl : session = ctx.session.resLater took := later.symm
  unfold wasTransactionTimedout
  by_cases out : TimedOut settings (origin.resLater took)
  · rw [if_pos out, if_pos ((timedOut_course course).mpr out)]
    exact ⟨_, rfl, rfl⟩
  · rw [if_neg out, if_neg fun outHere =>
      out ((timedOut_course course).mp outHere)]
    exact ⟨_, rfl,
      { goesOn := rfl
        inFilter := rfl
        sessionId := answered.sessionId
        few := answered.few
        course
        res := answered.res
        verdict := answered.verdict }⟩

theorem resBodyPass_steady (bodyChain : List NgxBuf) (chainPartNumber : Nat)
    (waits : Waits sessionId replies origin progress) :
    let pass := resBodyPass settings (steadyEvents sessionId replies elapsed)
      bodyChain chainPartNumber progress
    if TimedOut settings (origin.resLater (elapsed chainPartNumber)) then
      ∃ after, pass = .error (.forwards bodyChain, after) ∧
        after.ctx.session.verdict =
          Async.failVerdict settings.failModeVerdict
    else
      ∃ after, pass = .ok after ∧
        Waits sessionId replies (origin.resLater (elapsed chainPartNumber))
          after := by
  intro pass
  obtain ⟨ran, thread, answered, given⟩ :=
    @runResBodyThread_steady settings sessionId replies elapsed _ _
      chainPartNumber waits
  have leaves := @leaveResPass_steady settings sessionId replies _ _ bodyChain
    (elapsed chainPartNumber) answered
  have passEq : pass =
      ((leaveResPass settings bodyChain (elapsed chainPartNumber)
        ran.ctx).mapError fun exit => (exit.1, { ran with ctx := exit.2 })).map
          fun ctx => { ran with ctx } := by
    simp only [pass, resBodyPass, thread]
    rw [if_neg (by simp)]
    rcases left : leaveResPass settings bodyChain (elapsed chainPartNumber)
      ran.ctx with exit | ctx <;>
      simp only [steadyEvents, left, Except.mapError, Except.map]
  rw [passEq]
  by_cases out : TimedOut settings (origin.resLater (elapsed chainPartNumber))
  · rw [if_pos out] at leaves ⊢
    obtain ⟨after, left, dropped⟩ := leaves
    rw [left]
    exact ⟨_, rfl, dropped⟩
  · rw [if_neg out] at leaves ⊢
    obtain ⟨after, goesOn, next⟩ := leaves
    rw [goesOn]
    exact ⟨_, rfl, next.toReady, given⟩

theorem resBodyPasses_steady (bodyChain chainElems : List NgxBuf)
    {chainPartNumber pass : Nat}
    (waits : Waits sessionId replies origin progress)
    (below : pass < chainElems.length)
    (out : TimedOut settings
      (origin.resLater (passesTime elapsed chainPartNumber (pass + 1)))) :
    ∃ after,
      resBodyPasses settings (steadyEvents sessionId replies elapsed)
          bodyChain chainElems chainPartNumber progress =
            .error (.forwards bodyChain, after) ∧
        after.ctx.session.verdict =
          Async.failVerdict settings.failModeVerdict := by
  induction chainElems generalizing origin chainPartNumber pass progress with
  | nil => cases below
  | cons chainElem chainElems induction =>
      have open' : progress.chain ≠ [] := by
        obtain ⟨buf, member, -⟩ := waits.given
        exact List.ne_nil_of_mem member
      have first := @resBodyPass_steady settings sessionId replies elapsed _ _
        bodyChain chainPartNumber waits
      unfold resBodyPasses
      rw [if_neg open']
      by_cases now :
          TimedOut settings (origin.resLater (elapsed chainPartNumber))
      · dsimp only at first
        rw [if_pos now] at first
        obtain ⟨after, left, dropped⟩ := first
        rw [left]
        exact ⟨after, rfl, dropped⟩
      · dsimp only at first
        rw [if_neg now] at first
        obtain ⟨after, goesOn, waitsNext⟩ := first
        cases pass with
        | zero =>
            rw [passesTime, passesTime, Int.add_zero] at out
            exact absurd out now
        | succ pass =>
            rw [passesTime, ← resLater_resLater] at out
            rw [goesOn]
            exact induction waitsNext (Nat.lt_of_succ_lt_succ below) out

end Steady

end OpenAppsec.Hooks
