import OpenAppsec.Async.Processing
import OpenAppsec.Library.Trace

/-!
# The runs of an asynchronous session

The header handler and the request body filter, and the steps of a session:
what nginx calls, the replies of the service and the timers, in any order.
-/

namespace OpenAppsec.Async

open Nginx (NgxBuf)

/-- How the registration with the service ends. -/
inductive Registration where
  | alreadyReady
  | threadFailed
  | notRegistered
  | registered (verdictHandlerSet : Bool)
  deriving DecidableEq

/-- The registration leaves the session to the service. -/
def Registration.Ready (registration : Registration) : Prop :=
  registration = .alreadyReady ∨ registration = .registered true

instance (registration : Registration) : Decidable registration.Ready :=
  inferInstanceAs (Decidable (_ ∨ _))

inductive StaticResource where
  | notStatic
  | failed
  | served

/-- What one call of the header handler meets. -/
structure HandlerCall where
  isAsyncModeEnabled : Bool
  isInTransparentMode : Bool
  isAttachmentDisabled : Bool
  confFound : Bool
  sessionDataAllocated : Bool
  sessionsRateVerdict : ServiceVerdict
  registration : Registration
  shmemCorrupted : Bool
  staticResource : StaticResource
  ctxCreated : Bool
  shmemCorruptedAtStart : Bool

section Handlers

variable (settings : Settings) (env : Environment) (request : Request)

/-- `ngx_cp_async_start_agent_communication`. -/
def startAgentCommunication (call : HandlerCall) (flow : Flow) :
    NgxRc × Flow :=
  let flow := flow.updateCtx fun ctx => { ctx with stage := .metaData }
  if call.shmemCorruptedAtStart then
    (failResult settings.failModeVerdict,
      flow.setFlowError.fail settings.failModeVerdict)
  else continueProcessing settings env request flow

/-- `ngx_cp_async_create_ctx` and `ngx_cp_async_add_ctx`. -/
def createCtx : Flow → Flow :=
  Flow.updateCtx fun _ =>
    { AsyncCtx.blank with registered := true, cleanupTimer := true }

/-- The header handler from the creation of a context on. -/
def startInspection (call : HandlerCall) (flow : Flow) : NgxRc × Flow :=
  let (finalRes, flow) :=
    startAgentCommunication settings env request call (createCtx flow)
  let flow :=
    flow.updateSession fun session =>
      { session with asyncProcessingNeeded := true }
  if finalRes = .again then (.done, flow.startDeadlineTimer.setWaiting true)
  else (finalRes, flow)

/-- The header handler once the service is registered. -/
def handleRegistered (call : HandlerCall) (flow : Flow) : NgxRc × Flow :=
  if call.shmemCorrupted then
    (failResult settings.failModeVerdict, flow.fail settings.failModeVerdict)
  else if flow.ctx.registered then
    if flow.ctx.headerDeclined then (.declined, flow)
    else continueProcessing settings env request flow
  else if flow.session.asyncProcessingNeeded = false ∧
      (flow.session.verdict ≠ .inspect ∨
        flow.session.wasRequestFullyInspected = true) then
    (.declined, flow)
  else
    match call.staticResource with
    | .served => (.done, (flow.setVerdict .irrelevant .irrelevant).close)
    | .failed => (.error, flow)
    | .notStatic =>
        if call.ctxCreated then startInspection settings env request call flow
        else (.declined, flow)

/-- `init_cp_session_data` for the first call, and the mode of the session. -/
def enterAsyncMode : Flow → Flow :=
  Flow.updateSession fun session =>
    let session := if session.isSet then session else .start true
    { session with initialAsyncMode := 1 }

/-- The header handler for a session. -/
def handleSession (call : HandlerCall) (flow : Flow) : NgxRc × Flow :=
  if call.isAsyncModeEnabled = false then (.declined, flow)
  else if call.sessionsRateVerdict ≠ .inspect then
    (if call.sessionsRateVerdict = .accept then .declined else .error,
      flow.setVerdict call.sessionsRateVerdict .rateLimit)
  else
    match call.registration with
    | .threadFailed =>
        (failResult settings.failModeVerdict,
          flow.fail settings.failModeVerdict)
    | .notRegistered => (.declined, flow.setVerdict .accept .registration)
    | .registered false => (failResult settings.failModeVerdict, flow)
    | .registered true | .alreadyReady =>
        handleRegistered settings env request call flow

/-- The header handler once the module is initialised. -/
def handleRequest (call : HandlerCall) (flow : Flow) : NgxRc × Flow :=
  if call.isInTransparentMode then
    (if settings.failModeVerdict = .ok then .declined else .error, flow)
  else if call.isAttachmentDisabled then (.declined, flow)
  else if call.confFound = false then (.declined, flow)
  else if flow.session.isSet = false ∧ call.sessionDataAllocated = false then
    (.declined, flow)
  else handleSession settings env request call (enterAsyncMode flow)

def initIfEnabled (call : HandlerCall) (flow : Flow) : Flow :=
  if call.isAsyncModeEnabled then asyncInit flow else flow

/-- `ngx_http_cp_req_header_handler_async`. -/
def reqHeaderHandlerAsync (call : HandlerCall) (flow : Flow) :
    NgxRc × Flow :=
  handleRequest settings env request call (initIfEnabled call flow)

/-- What one call of the body filter meets; `downstream` is what the next
filter returns. -/
structure FilterCall where
  isAsyncModeEnabled : Bool
  isIpcReady : Bool
  chainCopied : Bool
  downstream : NgxRc

/-- A message of the body stage is counted twice. -/
def expectBodyReplies (nmsgs : Nat) (flow : Flow) : Flow :=
  (expectReplies nmsgs flow).updateCtx fun ctx =>
    { ctx with reqSeq := ctx.reqSeq + nmsgs }

inductive BodySender where
  | chunk
  | endTransaction

/-- The loop over the buffers of a chain, with the sender that fails. -/
def sendBufs : List NgxBuf → Flow → Option BodySender × Flow
  | [], flow => (none, flow)
  | buf :: bufs, flow =>
      let (rc, nmsgs, flow) :=
        sendSingleBodyChunkNonblocking env request buf flow
      if rc ≠ .ok then (some .chunk, flow)
      else
        let flow := expectBodyReplies nmsgs flow
        if buf.lastBuf then
          let (rc, nmsgs, flow) := sendEndTransactionNonblocking env request flow
          if rc ≠ .ok then (some .endTransaction, flow)
          else
            let flow :=
              flow.updateCtx fun ctx => { ctx with reqSeenLast := true }
            sendBufs bufs (expectBodyReplies nmsgs flow)
        else sendBufs bufs flow

/-- The queue goes on after a sender has failed. -/
def passThroughQueue (failed : BodySender) (downstream : NgxRc)
    (flow : Flow) : NgxRc × Flow :=
  if flow.ctx.queue = [] then (.ok, flow.destroyCtx)
  else
    let flow := flow.forward flow.ctx.queue
    let flow :=
      match failed with
      | .chunk => stopAsyncProcessing flow
      | .endTransaction => flow
    (downstream, flow.queueFree.destroyCtx)

/-- `chain_add_copy`, when it succeeds. -/
def chainAddCopy (chain : List NgxBuf) : Flow → Flow :=
  Flow.updateCtx fun ctx => { ctx with queue := ctx.queue ++ chain }

/-- The body filter for a chain that is inspected. -/
def inspectChain (chain : List NgxBuf) (call : FilterCall) (flow : Flow) :
    NgxRc × Flow :=
  if call.chainCopied = false then
    (.error, (stopAsyncProcessing flow).queueFree.destroyCtx)
  else
    match sendBufs env request chain (chainAddCopy chain flow) with
    | (some failed, flow) => passThroughQueue failed call.downstream flow
    | (none, flow) =>
        if flow.ctx.reqSeenLast then
          (.done, flow.startDeadlineTimer.setWaiting true)
        else (call.downstream, flow)

def startBodyPhase : Flow → Flow :=
  Flow.updateCtx fun ctx => { ctx with bodyPhaseStarted := true }

/-- The body filter for a session under inspection. -/
def filterInspected (chain : List NgxBuf) (call : FilterCall) (flow : Flow) :
    NgxRc × Flow :=
  let queue := flow.ctx.queue
  if flow.ctx.released = true ∧ queue ≠ [] then
    (call.downstream, (flow.forward queue).queueFree.destroyCtx)
  else if flow.ctx.reqSeq = 0 ∧ queue ≠ [] ∧ chain = [] then
    (call.downstream, (flow.forward queue).queueFree)
  else if chain ≠ [] then inspectChain env request chain call flow
  else (call.downstream, flow)

/-- `ngx_http_cp_req_body_filter_async`; the chain `NULL` is empty. -/
def reqBodyFilterAsync (chain : List NgxBuf) (call : FilterCall)
    (flow : Flow) : NgxRc × Flow :=
  if flow.session.isSet = false then (call.downstream, flow.forward chain)
  else if flow.session.initialAsyncMode = 0 ∨
      call.isAsyncModeEnabled = false then
    (call.downstream, flow.forward chain)
  else if call.isIpcReady = false ∨
      flow.session.asyncProcessingNeeded = false then
    (call.downstream, flow.forward chain)
  else if flow.ctx.registered = false then
    (call.downstream, flow.forward chain)
  else if flow.session.verdict ≠ .inspect then
    if flow.session.verdict = .accept then
      (call.downstream, flow.destroyCtx.forward chain)
    else (.httpForbidden, flow.destroyCtx.forbid)
  else if flow.ctx.flowError then
    (call.downstream, flow.destroyCtx.forward chain)
  else filterInspected env request chain call (startBodyPhase flow)

/-- What can happen to a session next.  A resume event is posted or comes from
its timer. -/
inductive Input where
  | headerHandler (call : HandlerCall)
  | bodyFilter (chain : List NgxBuf) (call : FilterCall)
  | reply (reply : VerdictReply)
  | agentEvent
  | deadlineEvent
  | cleanupEvent
  | resumeEvent (posted : Bool) (downstream : NgxRc)
  | cleanup
  | asyncInit
  | requestFreed

/-- The next step of nginx after the header handler. -/
def afterHandler : NgxRc × Flow → Flow
  | (.declined, flow) => { flow with lifecycle := .admitted }
  | (.again, flow) | (.done, flow) => flow
  | (_, flow) => flow.close

/-- The next step of nginx after the body filter. -/
def afterFilter : NgxRc × Flow → Flow
  | (.ok, flow) | (.again, flow) | (.done, flow) | (.declined, flow) => flow
  | (_, flow) => flow.close

/-- A chain that nginx can pass on: nothing follows the last buffer. -/
def Flow.CanReceive (chain : List NgxBuf) (flow : Flow) : Prop :=
  (flow.bodyEnded = true → chain = []) ∧
    ∀ buf ∈ chain.dropLast, buf.lastBuf = false

instance (chain : List NgxBuf) (flow : Flow) :
    Decidable (flow.CanReceive chain) :=
  inferInstanceAs (Decidable (_ ∧ _))

/-- The chain is on record before the filter sees it. -/
def Flow.receive (chain : List NgxBuf) (flow : Flow) : Flow :=
  { flow with
    received := flow.received ++ chain
    bodyEnded := flow.bodyEnded || chain.any NgxBuf.lastBuf }

/-- One step; `none` when it cannot happen now, or ends the process. -/
def step (flow : Flow) : Input → Option Flow
  | .headerHandler call =>
      if flow.lifecycle = .pending then
        some (afterHandler
          (reqHeaderHandlerAsync settings env request call flow))
      else none
  | .bodyFilter chain call =>
      if flow.lifecycle = .admitted ∧ flow.CanReceive chain then
        some (afterFilter
          (reqBodyFilterAsync env request chain call (flow.receive chain)))
      else none
  | .reply reply => drainReply settings env request reply flow
  | .agentEvent =>
      if flow.ctx.agentTimer then
        some (eventHandler settings env request flow.cancelAgentTimer)
      else none
  | .deadlineEvent =>
      if flow.ctx.deadlineTimer then
        some (deadlineHandler settings env request flow.cancelDeadlineTimer)
      else none
  | .cleanupEvent =>
      if flow.ctx.cleanupTimer then
        some (contextCleanupHandler settings env request
          (flow.updateCtx fun ctx => { ctx with cleanupTimer := false }))
      else none
  | .resumeEvent true downstream =>
      if flow.ctx.resumePosted then
        some (postedResume downstream
          (flow.updateCtx fun ctx => { ctx with resumePosted := false }))
      else none
  | .resumeEvent false downstream =>
      if flow.ctx.resumeTimer then
        some (postedResume downstream
          (flow.updateCtx fun ctx => { ctx with resumeTimer := false }))
      else none
  | .cleanup => some (cleanupImpl settings env request flow)
  | .asyncInit => some (asyncInit flow)
  | .requestFreed => some flow.destroyCtx.close

theorem enterAsyncMode_of_set {flow : Flow}
    (isSet : flow.session.isSet = true) :
    enterAsyncMode flow =
      flow.updateSession fun session =>
        { session with initialAsyncMode := 1 } := by
  simp [enterAsyncMode, Flow.updateSession, isSet]

theorem enterAsyncMode_of_fresh {flow : Flow}
    (isSet : flow.session.isSet = false) :
    enterAsyncMode flow =
      flow.updateSession fun _ =>
        { SessionData.start true with initialAsyncMode := 1 } := by
  simp [enterAsyncMode, Flow.updateSession, isSet]

theorem expectBodyReplies_sameRecord (nmsgs : Nat) (flow : Flow) :
    flow.SameRecord (expectBodyReplies nmsgs flow) := by
  constructor <;> rfl

theorem sendBufs_keeps (bufs : List NgxBuf) (flow : Flow) :
    flow.Keeps (sendBufs env request bufs flow).2 := by
  induction bufs generalizing flow with
  | nil => exact Flow.SameRecord.keeps (by constructor <;> rfl)
  | cons buf bufs induction =>
      have chunkSent :=
        (sendSingleBodyChunkNonblocking_sendsOnly env request buf flow).keeps
      rw [sendBufs]
      rcases chunk : sendSingleBodyChunkNonblocking env request buf flow with
        ⟨rc, nmsgs, chunked⟩
      rw [chunk] at chunkSent
      dsimp only at chunkSent ⊢
      split
      · exact chunkSent
      · have counted :=
          chunkSent.trans (expectBodyReplies_sameRecord nmsgs chunked).keeps
        split
        · have ended := counted.trans
            (sendEndTransactionNonblocking_keeps env request _)
          split
          · exact ended
          · refine (ended.trans ?_).trans (induction _)
            exact Flow.SameRecord.keeps (by constructor <;> rfl)
        · exact counted.trans (induction _)

/-- Without a context the filter passes the chain on. -/
theorem reqBodyFilterAsync_of_unregistered {flow : Flow}
    (unregistered : flow.ctx.registered = false) (chain : List NgxBuf)
    (call : FilterCall) :
    reqBodyFilterAsync env request chain call flow =
      (call.downstream, flow.forward chain) := by
  rw [reqBodyFilterAsync, if_pos unregistered]
  repeat' rw [ite_self]

end Handlers

/-- A chunked request with one header. -/
def plainRequest : Request :=
  { sessionCounter := 3
    httpProtocol := []
    methodName := []
    hostVariable := none
    headersHost := none
    uri := []
    unparsedUri := []
    listeningIp := []
    listeningPort := 0
    clientIp := []
    clientPort := 0
    wafTag := []
    headers := [[{ key := [1], value := [2] }]]
    chunked := true
    contentLengthN := -1 }

def plainSettings (inspectsSource : Bool) : Settings :=
  { failOpenMode := true
    failOpenHoldMode := true
    isInspectionRequiredForSource := fun _ => inspectsSource }

/-- Every call out of the module succeeds. -/
def plainEnvironment : Environment :=
  { chunkSent := fun _ => true
    signalled := fun _ => .ok
    headerModified := fun _ => true
    unsetFragments := [] }

def plainHandlerCall : HandlerCall :=
  { isAsyncModeEnabled := true
    isInTransparentMode := false
    isAttachmentDisabled := false
    confFound := true
    sessionDataAllocated := true
    sessionsRateVerdict := .inspect
    registration := .alreadyReady
    shmemCorrupted := false
    staticResource := .notStatic
    ctxCreated := true
    shmemCorruptedAtStart := false }

def plainFilterCall : FilterCall :=
  { isAsyncModeEnabled := true
    isIpcReady := true
    chainCopied := true
    downstream := .ok }

def plainReply (verdict : ServiceVerdict) : VerdictReply :=
  { verdict
    hasResponse := false
    injectData := []
    ngxPcalloc := fun _ => true }

end OpenAppsec.Async
