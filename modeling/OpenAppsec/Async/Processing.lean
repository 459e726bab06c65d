import OpenAppsec.Async.Senders
import OpenAppsec.Attachment.NginxReceiver

/-!
# The stages of an asynchronous session

`ngx_cp_async_continue_processing`, the event handler around it and the
functions that choose the next stage.  The event handler and the handler of
the wait stages call each other, but only once: a wait that is over has left
its stage.
-/

namespace OpenAppsec.Async

section Processing

variable (settings : Settings) (env : Environment) (request : Request)

variable {flow next first second third : Flow}

/-- `ngx_http_cp_finalize_request_headers_hook` for a request without errors;
a failed modification goes to `handle_inspection_failure`. -/
def finalizeRequestHeadersHook (flow : Flow) : Flow :=
  let inspected (flow : Flow) : Flow :=
    if request.doesContainBody then flow
    else
      flow.updateSession fun session =>
        { session with wasRequestFullyInspected := true }
  if flow.ctx.modifications = [] then inspected flow
  else if env.headerModified flow.calls then inspected flow.countCall
  else if flow.session.verdict = .inspect then
    flow.countCall.fail settings.failModeVerdict
  else flow.countCall

/-- The label `process_complete_stage`. -/
def processCompleteStage (flow : Flow) : NgxRc × Flow :=
  let flow :=
    finalizeRequestHeadersHook settings env request flow.cancelDeadlineTimer
  let flow := flow.cancelAgentTimer
  let verdict := flow.session.verdict
  if verdict = .accept ∨ verdict = .inspect ∨ verdict = .irrelevant then
    (.declined, flow)
  else if isVerdictDropOrCustom verdict then (.httpForbidden, flow.forbid)
  else if settings.failModeVerdict = .ok then (.declined, flow)
  else (.httpForbidden, flow.forbid)

/-- The service owes that many replies more. -/
def expectReplies (numMessages : Nat) : Flow → Flow :=
  Flow.updateSession fun session =>
    { session with
      remainingMessagesToReply :=
        session.remainingMessagesToReply + numMessages }

/-- What the stages do after their sender; `markSent` sets the flag of the
stage. -/
def afterSender (markSent : AsyncCtx → AsyncCtx) :
    NgxRc × Nat × Flow → NgxRc × Flow
  | (rc, numMessagesSent, flow) =>
      if rc ≠ .ok then
        processCompleteStage settings env request
          (flow.setFlowError.fail settings.failModeVerdict)
      else
        (.again, (expectReplies numMessagesSent flow).updateCtx markSent)

/-- The case of the body stage. -/
def processBodyStage (flow : Flow) : NgxRc × Flow :=
  if isVerdictDropOrCustom flow.session.verdict then
    processCompleteStage settings env request (flow.transition .complete)
  else if 0 < flow.ctx.reqSeq then (.again, flow)
  else
    let flow :=
      if flow.ctx.endTransactionSent = true ∧ flow.ctx.reqSeenLast = true then
        flow.updateCtx fun ctx => { ctx with released := true }
      else flow
    (.again, flow.postRequest)

/-- `ngx_cp_async_continue_processing`, given what it does in the three wait
stages that it knows. -/
def continueWith (handleWait : Flow → NgxRc × Flow) (flow : Flow) :
    NgxRc × Flow :=
  if flow.ctx.flowError then
    let flow := flow.fail settings.failModeVerdict
    if settings.failModeVerdict = .ok then (.declined, flow)
    else (settings.failModeVerdict, flow.forbid)
  else
    match flow.ctx.stage with
    | .metaData =>
        if flow.ctx.metaDataSent then (.again, flow)
        else
          let (rc, numMessagesSent, flow) :=
            sendMetaDataNonblocking env request settings flow
          if rc = .inspectionIrrelevant then
            (.declined, flow.setVerdict .irrelevant .irrelevant)
          else
            afterSender settings env request
              (fun ctx => { ctx with metaDataSent := true })
              (rc, numMessagesSent, flow)
    | .headers =>
        if flow.ctx.headersSent then (.again, flow)
        else
          afterSender settings env request
            (fun ctx => { ctx with headersSent := true })
            (sendHeadersNonblocking env request flow)
    | .endTransaction =>
        if flow.ctx.endTransactionSent then (.again, flow)
        else
          afterSender settings env request
            (fun ctx => { ctx with endTransactionSent := true })
            (sendEndTransactionNonblocking env request flow)
    | .body => processBodyStage settings env request flow
    | .waitHeaderVerdict | .waitEndVerdict | .waitBodyVerdict =>
        handleWait flow
    | .complete => processCompleteStage settings env request flow
    -- the wait for the verdict on the metadata has no case of its own
    | .waitMetaVerdict | .init | .verdict | .error => (.error, flow)

/-- `ngx_cp_async_event_handler`, given `ngx_cp_async_continue_processing`. -/
def eventHandlerWith (continueProcessing : Flow → NgxRc × Flow)
    (flow : Flow) : Flow :=
  if flow.ctx.registered = false then flow
  else
    let stage := flow.ctx.stage
    let (rc, flow) := continueProcessing flow
    if rc = .again then flow
    else if isVerdictDropOrCustom flow.session.verdict then
      flow.destroyCtx.close
    else if rc = .declined then
      let flow := flow.cancelDeadlineTimer
      let isWaiting := flow.ctx.waiting
      if stage = .complete then
        if isWaiting then flow.destroyCtx.runPhases else flow.destroyCtx
      else if isWaiting then (flow.setWaiting false).runPhases
      else flow
    else flow

/-- The stage that `ngx_cp_async_transition_after_wait` selects. -/
def stageAfterWait (flow : Flow) : Stage :=
  match flow.ctx.stage with
  | .waitHeaderVerdict =>
      if isVerdictDropOrCustom flow.session.verdict then .complete
      else .endTransaction
  | .waitEndVerdict => if flow.ctx.bodyPhaseStarted then .body else .complete
  | .waitBodyVerdict =>
      if isVerdictDropOrCustom flow.session.verdict then .complete else .body
  | _ => .complete

def transitionAfterWait (flow : Flow) : Flow :=
  if flow.ctx.flowError then flow
  else if flow.session.verdict = .delayed then flow
  else flow.transition (stageAfterWait flow)

/-- The fields that a forced end of the inspection sets. -/
def endInspection (flow : Flow) : Flow :=
  let flow :=
    flow.updateSession fun session =>
      { session with
        remainingMessagesToReply := 0
        asyncProcessingNeeded := false }
  flow.updateCtx fun ctx => { ctx with headerDeclined := true }

def clearReqSeq : Flow → Flow :=
  Flow.updateCtx fun ctx => { ctx with reqSeq := 0 }

/-- A wait that fails. -/
def failWait (flow : Flow) : Flow :=
  let flow := endInspection (flow.fail settings.failModeHoldVerdict)
  (clearReqSeq flow).cancelTimers.transition .body

/-- The event handler after a wait, in a stage that is no wait stage. -/
def eventHandlerAfterWait : Flow → Flow :=
  eventHandlerWith
    (continueWith settings env request fun flow => (.again, flow))

def handleWaitVerdict (flow : Flow) : NgxRc × Flow :=
  if flow.ctx.flowError then
    (.again,
      eventHandlerAfterWait settings env request (failWait settings flow))
  else if flow.session.verdict ≠ .delayed then
    (.again,
      eventHandlerAfterWait settings env request (transitionAfterWait flow))
  else
    let (rc, _, flow) := waitSignalSender env request flow
    if rc ≠ .ok ∧ rc ≠ .httpRequestTimeOut then
      (.again,
        eventHandlerAfterWait settings env request (failWait settings flow))
    else (.again, flow.addAgentTimer)

def continueProcessing : Flow → NgxRc × Flow :=
  continueWith settings env request (handleWaitVerdict settings env request)

def eventHandler : Flow → Flow :=
  eventHandlerWith (continueProcessing settings env request)

/-- A reply for the session.  `hasResponse` tells whether a blocking reply
carries a web response, and `ngxPcalloc` which nodes for modifications can be
allocated. -/
structure VerdictReply where
  verdict : ServiceVerdict
  hasResponse : Bool
  injectData : List HttpInjectData
  ngxPcalloc : Nat → Bool

def declineHeader : Flow → Flow :=
  Flow.updateCtx fun ctx => { ctx with headerDeclined := true }

def stopAsyncProcessing : Flow → Flow :=
  Flow.updateSession fun session =>
    { session with asyncProcessingNeeded := false }

def applyVerdictForStage (flow : Flow) : NgxRc × Flow :=
  let verdict := flow.session.verdict
  match flow.ctx.stage with
  | .error => (.error, flow)
  | .metaData =>
      if isVerdictDropOrCustom verdict then (.ok, flow.transition .complete)
      else if verdict = .delayed then (.ok, flow.transition .waitMetaVerdict)
      else (.ok, flow.transition .headers)
  | .headers =>
      if isVerdictDropOrCustom verdict then (.ok, flow.transition .complete)
      else if verdict = .delayed then
        (.ok, flow.transition .waitHeaderVerdict)
      else if request.doesContainBody then
        let flow := (declineHeader flow).transition .body
        let flow := flow.cancelDeadlineTimer
        if flow.ctx.waiting then
          (.declined, (flow.setWaiting false).runPhases)
        else (.declined, flow)
      else (.ok, (stopAsyncProcessing flow).transition .endTransaction)
  | .endTransaction =>
      if isVerdictDropOrCustom verdict then (.ok, flow.transition .complete)
      else if verdict = .delayed then
        (.again, (flow.transition .waitEndVerdict).addAgentTimer)
      else
        let flow := declineHeader (flow.transition .complete)
        (.ok, stopAsyncProcessing flow)
  | .body =>
      if isVerdictDropOrCustom verdict then (.ok, flow.transition .complete)
      else if verdict = .delayed then
        (.again, (flow.transition .waitBodyVerdict).addAgentTimer)
      else if flow.session.wasRequestFullyInspected then
        (.ok, clearReqSeq flow)
      else (.ok, flow)
  | .waitMetaVerdict | .waitHeaderVerdict | .waitBodyVerdict
  | .waitEndVerdict => (.again, flow.addAgentTimer)
  | .init | .verdict | .complete => (.ok, flow)

/-- The modifications after a reply that injects; `none` where the code
appends to the modifications of an earlier reply through a null pointer. -/
def addModifications (reply : VerdictReply)
    (modifications : List ModificationNode) :
    Option (List ModificationNode) :=
  match modifications, reply.injectData with
  | modifications, [] => some modifications
  | [], injectData =>
      some ((Nginx.appendModifications reply.ngxPcalloc 0 [] injectData).getD
        [])
  | _ :: _, modification :: _ =>
      match createModificationNode (reply.ngxPcalloc 0) modification with
      | none => some []
      | some _ => none

/-- A blocking reply with a web response. -/
def blockWithResponse (flow : Flow) : Flow :=
  let flow :=
    flow.updateSession fun session =>
      { session with remainingMessagesToReply := 0 }
  flow.updateCtx fun ctx => { ctx with modifications := [] }

/-- One reply less is owed, also for the body. -/
def countReply (flow : Flow) : Flow :=
  let flow :=
    flow.updateSession fun session =>
      { session with
        remainingMessagesToReply := session.remainingMessagesToReply - 1 }
  flow.updateCtx fun ctx => { ctx with reqSeq := ctx.reqSeq - 1 }

/-- The beginning of `ngx_cp_async_apply_verdict`. -/
def noteVerdict (reply : VerdictReply) (flow : Flow) : Flow :=
  let flow := flow.setVerdict reply.verdict .service
  let flow :=
    if reply.verdict.IsFinal then
      flow.updateSession fun session =>
        { session with wasRequestFullyInspected := true }
    else flow
  if reply.verdict = .delayed ∧
      flow.ctx.firstWaitVerdictEncountered = false then
    Flow.startDeadlineTimer <| flow.updateCtx fun ctx =>
      { ctx with firstWaitVerdictEncountered := true }
  else flow

/-- The middle of `ngx_cp_async_apply_verdict`. -/
def takeReply (reply : VerdictReply) (flow : Flow) : Option Flow :=
  let flow :=
    if isVerdictDropOrCustom reply.verdict ∧ reply.hasResponse = true then
      blockWithResponse flow
    else flow
  let added :=
    if reply.verdict = .inject then
      addModifications reply flow.ctx.modifications
    else some flow.ctx.modifications
  added.map fun modifications =>
    countReply (flow.updateCtx fun ctx => { ctx with modifications })

/-- The end of `ngx_cp_async_apply_verdict`. -/
def finishReply (flow : Flow) : Flow :=
  if flow.session.remainingMessagesToReply = 0 ∨
      (flow.session.wasRequestFullyInspected = true ∧
        flow.ctx.stage = .body) then
    let (rc, flow) := applyVerdictForStage request flow
    if rc = .ok then eventHandler settings env request flow else flow
  else flow

def applyVerdict (reply : VerdictReply) (flow : Flow) : Option Flow :=
  let flow := noteVerdict reply flow
  if reply.verdict = .limitResponseHeaders then some flow
  else (takeReply reply flow).map (finishReply settings env request)

/-- A reply of the queue for the session. -/
def drainReply (reply : VerdictReply) (flow : Flow) : Option Flow :=
  if reply.verdict = .reconf then some flow
  else if flow.ctx.registered = false ∨ flow.ctx.flowError = true then
    some flow
  else applyVerdict settings env request reply flow

def deadlineHandler (flow : Flow) : Flow :=
  if flow.ctx.registered = false then flow
  else if flow.ctx.stage = .complete then flow
  else if flow.ctx.flowError then flow
  else
    let failMode :=
      match flow.ctx.stage with
      | .waitHeaderVerdict | .waitEndVerdict | .waitBodyVerdict =>
          settings.failModeHoldVerdict
      | _ => settings.failModeVerdict
    eventHandler settings env request
      ((endInspection (flow.fail failMode)).transition .complete)

def contextCleanupHandler (flow : Flow) : Flow :=
  if flow.ctx.registered = false then flow
  else if flow.ctx.stage = .complete then flow
  else
    let flow := flow.setFlowError.fail settings.failModeVerdict
    eventHandler settings env request
      ((endInspection flow).transition .complete)

/-- `ngx_cp_async_cleanup_impl`, for the context of the session. -/
def cleanupImpl (flow : Flow) : Flow :=
  let cleaned :=
    if flow.ctx.registered = false then flow
    else
      let flow := endInspection (flow.fail settings.failModeVerdict)
      let flow := (clearReqSeq flow).cancelTimers
      let flow :=
        if flow.ctx.stage = .waitBodyVerdict then flow.transition .body
        else flow
      let flow :=
        if flow.ctx.stage ≠ .body then flow.setFlowError.transition .complete
        else flow
      (eventHandler settings env request flow).setFlowError
  { cleaned with isInitialized := false }

/-- `ngx_cp_async_init`.  A context that the table held before is still
there, but its resume event does not find it. -/
def asyncInit (flow : Flow) : Flow :=
  if flow.isInitialized then flow
  else
    let flow := flow.updateCtx fun ctx => { ctx with registered := false }
    { flow with isInitialized := true }

/-- `cp_async_posted_resume`, given what the next filter returns. -/
def postedResume (downstream : NgxRc) (flow : Flow) : Flow :=
  if flow.session.isSet = false ∨ flow.ctx.registered = false then flow
  else
    let queue := flow.ctx.queue
    let flow := if queue = [] then flow else flow.forward queue
    if queue ≠ [] ∧ downstream = .again then
      flow.updateCtx fun ctx => { ctx with resumeTimer := true }
    else
      let flow := flow.queueFree
      if flow.ctx.released = true ∧ flow.ctx.waiting = true then
        (flow.setWaiting false).destroyCtx.runPhases
      else flow

/-- The hook leaves the session as it is but for the mark of a complete
inspection, or it fails a session under inspection. -/
theorem finalizeRequestHeadersHook_cases (flow : Flow) :
    ∃ calls wasRequestFullyInspected,
      let counted :=
        Flow.updateSession
          (fun session => { session with wasRequestFullyInspected })
          { flow with calls }
      finalizeRequestHeadersHook settings env request flow = counted ∨
        (flow.session.verdict = .inspect ∧
          finalizeRequestHeadersHook settings env request flow =
            counted.fail settings.failModeVerdict) := by
  rw [finalizeRequestHeadersHook]
  dsimp only
  split
  · split
    · exact ⟨_, flow.session.wasRequestFullyInspected, .inl rfl⟩
    · exact ⟨_, _, .inl rfl⟩
  · split
    · split
      · refine ⟨flow.calls + 1, flow.session.wasRequestFullyInspected, ?_⟩
        exact .inl rfl
      · exact ⟨flow.calls + 1, _, .inl rfl⟩
    · refine ⟨flow.calls + 1, flow.session.wasRequestFullyInspected, ?_⟩
      split
      · rename_i inspected
        exact .inr ⟨inspected, rfl⟩
      · exact .inl rfl

/-- A blocking verdict stays, and the stage rejects. -/
theorem processCompleteStage_of_blocking
    (blocking : isVerdictDropOrCustom flow.session.verdict) :
    ∃ next, processCompleteStage settings env request flow =
        (.httpForbidden, next) ∧
      isVerdictDropOrCustom next.session.verdict := by
  have kept : isVerdictDropOrCustom (finalizeRequestHeadersHook settings env
      request flow.cancelDeadlineTimer).cancelAgentTimer.session.verdict := by
    obtain ⟨calls, inspected, same | ⟨isInspect, -⟩⟩ :=
      finalizeRequestHeadersHook_cases settings env request
        flow.cancelDeadlineTimer
    · rw [same]
      exact blocking
    · have isInspect : flow.session.verdict = .inspect := isInspect
      rw [isInspect] at blocking
      exact absurd blocking (by decide)
  rw [processCompleteStage, if_neg, if_pos kept]
  · exact ⟨_, rfl, kept⟩
  · rintro (same | same | same) <;> rw [same] at kept <;>
      exact absurd kept (by decide)

theorem eventHandlerWith_of_blocking {continueProcessing : Flow → NgxRc × Flow}
    {rc : NgxRc} (continued : continueProcessing flow = (rc, next))
    (settled : rc ≠ .again)
    (blocking : isVerdictDropOrCustom next.session.verdict) :
    (eventHandlerWith continueProcessing flow).ctx.registered = false := by
  rw [eventHandlerWith]
  by_cases unregistered : flow.ctx.registered = false
  · rw [if_pos unregistered]
    exact unregistered
  · rw [if_neg unregistered, continued]
    dsimp only
    rw [if_neg settled, if_pos blocking]
    rfl

/-- A change of stages, timers and flags that leaves alone what the session
was told and has done. -/
structure Flow.SameRecord (before after : Flow) : Prop where
  isSet : after.session.isSet = before.session.isSet
  initialAsyncMode :
    after.session.initialAsyncMode = before.session.initialAsyncMode
  verdict : after.session.verdict = before.session.verdict
  verdictOrigin : after.session.verdictOrigin = before.session.verdictOrigin
  registered : after.ctx.registered = before.ctx.registered
  flowError : after.ctx.flowError = before.ctx.flowError
  queue : after.ctx.queue = before.ctx.queue
  lifecycle : after.lifecycle = before.lifecycle
  bodyEnded : after.bodyEnded = before.bodyEnded
  enqueued : after.enqueued = before.enqueued
  received : after.received = before.received
  forwarded : after.forwarded = before.forwarded
  rejections : after.rejections = before.rejections

theorem Flow.SameRecord.trans (earlier : first.SameRecord second)
    (later : second.SameRecord third) :
    first.SameRecord third where
  isSet := later.isSet.trans earlier.isSet
  initialAsyncMode := later.initialAsyncMode.trans earlier.initialAsyncMode
  verdict := later.verdict.trans earlier.verdict
  verdictOrigin := later.verdictOrigin.trans earlier.verdictOrigin
  registered := later.registered.trans earlier.registered
  flowError := later.flowError.trans earlier.flowError
  queue := later.queue.trans earlier.queue
  lifecycle := later.lifecycle.trans earlier.lifecycle
  bodyEnded := later.bodyEnded.trans earlier.bodyEnded
  enqueued := later.enqueued.trans earlier.enqueued
  received := later.received.trans earlier.received
  forwarded := later.forwarded.trans earlier.forwarded
  rejections := later.rejections.trans earlier.rejections

/-- A change that may put messages of the session into the ring queue, too. -/
def Flow.Keeps (before after : Flow) : Prop :=
  ∃ enqueued, Flow.SameRecord { before with enqueued } after

theorem Flow.Keeps.trans (earlier : first.Keeps second)
    (later : second.Keeps third) :
    first.Keeps third := by
  obtain ⟨before, earlier⟩ := earlier
  obtain ⟨enqueued, later⟩ := later
  refine ⟨enqueued, Flow.SameRecord.trans ?_ later⟩
  exact { earlier with enqueued := rfl }

theorem Flow.SameRecord.keeps {before after : Flow}
    (same : before.SameRecord after) : before.Keeps after :=
  ⟨before.enqueued, same⟩

theorem Flow.SendsOnly.keeps {before after : Flow}
    (sent : before.SendsOnly after) : before.Keeps after := by
  obtain ⟨calls, enqueued, rfl⟩ := sent
  exact ⟨enqueued, by constructor <;> rfl⟩

theorem sendEndTransactionNonblocking_keeps (flow : Flow) :
    flow.Keeps (sendEndTransactionNonblocking env request flow).2.2 := by
  obtain ⟨sent, calls, enqueued, same⟩ :=
    sendEndTransactionNonblocking_frame env request flow
  rw [same]
  exact ⟨enqueued, by constructor <;> rfl⟩

theorem applyVerdictForStage_sameRecord (flow : Flow) :
    flow.SameRecord (applyVerdictForStage request flow).2 := by
  rw [applyVerdictForStage]
  dsimp only
  repeat' split
  all_goals constructor <;> rfl

/-- The stage that `ngx_cp_async_apply_verdict_for_stage` selects. -/
def stageAfterReply (flow : Flow) : Stage :=
  let verdict := flow.session.verdict
  match flow.ctx.stage with
  | .metaData =>
      if isVerdictDropOrCustom verdict then .complete
      else if verdict = .delayed then .waitMetaVerdict
      else .headers
  | .headers =>
      if isVerdictDropOrCustom verdict then .complete
      else if verdict = .delayed then .waitHeaderVerdict
      else if request.doesContainBody then .body
      else .endTransaction
  | .endTransaction =>
      if isVerdictDropOrCustom verdict then .complete
      else if verdict = .delayed then .waitEndVerdict
      else .complete
  | .body =>
      if isVerdictDropOrCustom verdict then .complete
      else if verdict = .delayed then .waitBodyVerdict
      else .body
  | stage => stage

theorem applyVerdictForStage_stage (flow : Flow) :
    (applyVerdictForStage request flow).2.ctx.stage =
      stageAfterReply request flow := by
  rw [applyVerdictForStage, stageAfterReply]
  cases isStage : flow.ctx.stage <;> dsimp only <;> repeat' split
  all_goals first | rfl | exact isStage

/-- A reply that does not block completes the session after its end. -/
theorem stageAfterReply_complete
    (passes : ¬isVerdictDropOrCustom flow.session.verdict)
    (complete : stageAfterReply request flow = .complete) :
    flow.ctx.stage = .complete ∨
      (flow.ctx.stage = .endTransaction ∧
        flow.session.verdict ≠ .delayed) := by
  rw [stageAfterReply] at complete
  cases isStage : flow.ctx.stage <;> rw [isStage] at complete <;>
    dsimp only at complete
  case complete => exact .inl rfl
  case endTransaction =>
    rw [if_neg passes] at complete
    refine .inr ⟨rfl, ?_⟩
    intro delayed
    rw [if_pos delayed] at complete
    cases complete
  all_goals
    repeat' split at complete
    all_goals contradiction

theorem applyVerdictForStage_ok
    (goesOn : (applyVerdictForStage request flow).1 = .ok) :
    stageAfterReply request flow ≠ .waitEndVerdict ∧
      stageAfterReply request flow ≠ .waitBodyVerdict ∧
      (flow.ctx.stage = .headers →
        stageAfterReply request flow ≠ .body) := by
  rw [applyVerdictForStage] at goesOn
  rw [stageAfterReply]
  cases isStage : flow.ctx.stage <;> rw [isStage] at goesOn <;>
    dsimp only at goesOn ⊢ <;> repeat' split at goesOn
  all_goals simp_all

/-- A change of timers and counters that leaves alone the stage as well. -/
structure Flow.SameStage (before after : Flow) : Prop extends
    before.SameRecord after where
  stage : after.ctx.stage = before.ctx.stage
  asyncProcessingNeeded :
    after.session.asyncProcessingNeeded = before.session.asyncProcessingNeeded
  waiting : after.ctx.waiting = before.ctx.waiting
  bodyPhaseStarted : after.ctx.bodyPhaseStarted = before.ctx.bodyPhaseStarted
  released : after.ctx.released = before.ctx.released
  reqSeenLast : after.ctx.reqSeenLast = before.ctx.reqSeenLast
  metaDataSent : after.ctx.metaDataSent = before.ctx.metaDataSent
  headersSent : after.ctx.headersSent = before.ctx.headersSent
  endTransactionSent :
    after.ctx.endTransactionSent = before.ctx.endTransactionSent
  headerDeclined : after.ctx.headerDeclined = before.ctx.headerDeclined

theorem Flow.SameStage.trans (earlier : first.SameStage second)
    (later : second.SameStage third) :
    first.SameStage third where
  toSameRecord := earlier.toSameRecord.trans later.toSameRecord
  stage := later.stage.trans earlier.stage
  asyncProcessingNeeded :=
    later.asyncProcessingNeeded.trans earlier.asyncProcessingNeeded
  waiting := later.waiting.trans earlier.waiting
  bodyPhaseStarted := later.bodyPhaseStarted.trans earlier.bodyPhaseStarted
  released := later.released.trans earlier.released
  reqSeenLast := later.reqSeenLast.trans earlier.reqSeenLast
  metaDataSent := later.metaDataSent.trans earlier.metaDataSent
  headersSent := later.headersSent.trans earlier.headersSent
  endTransactionSent :=
    later.endTransactionSent.trans earlier.endTransactionSent
  headerDeclined := later.headerDeclined.trans earlier.headerDeclined

theorem noteVerdict_sameStage (reply : VerdictReply) (flow : Flow) :
    (flow.setVerdict reply.verdict .service).SameStage
      (noteVerdict reply flow) := by
  rw [noteVerdict]
  split <;> split
  all_goals constructor <;> first | rfl | constructor <;> rfl

theorem noteVerdict_remaining (reply : VerdictReply) (flow : Flow) :
    (noteVerdict reply flow).session.remainingMessagesToReply =
      flow.session.remainingMessagesToReply := by
  rw [noteVerdict]
  split <;> split
  all_goals rfl

variable {reply : VerdictReply}

theorem takeReply_sameStage (taken : takeReply reply flow = some next) :
    flow.SameStage next := by
  obtain ⟨modifications, _, rfl⟩ := Option.map_eq_some_iff.mp taken
  split
  all_goals constructor <;> first | rfl | constructor <;> rfl

theorem takeReply_remaining (passes : ¬isVerdictDropOrCustom reply.verdict)
    (taken : takeReply reply flow = some next) :
    next.session.remainingMessagesToReply =
      flow.session.remainingMessagesToReply - 1 := by
  obtain ⟨modifications, _, rfl⟩ := Option.map_eq_some_iff.mp taken
  rw [if_neg (mt And.left passes)]
  rfl

/-- A reply is noted only, or it is taken and may select a stage. -/
theorem applyVerdict_cases
    (applied : applyVerdict settings env request reply flow = some next) :
    (reply.verdict = .limitResponseHeaders ∧ next = noteVerdict reply flow) ∨
      (reply.verdict ≠ .limitResponseHeaders ∧
        ∃ taken, takeReply reply (noteVerdict reply flow) = some taken ∧
          next = finishReply settings env request taken) := by
  rw [applyVerdict] at applied
  split at applied
  · rename_i limit
    cases applied
    exact .inl ⟨limit, rfl⟩
  · rename_i notLimit
    obtain ⟨taken, isTaken, rfl⟩ := Option.map_eq_some_iff.mp applied
    exact .inr ⟨notLimit, taken, isTaken, rfl⟩

end Processing

end OpenAppsec.Async
