import OpenAppsec.Attachment.NginxSenders
import OpenAppsec.Attachment.Replies

/-!
# The state of an asynchronous session

A session of the asynchronous mode owns the data that the request and the
response share, and a context that waits in a table while the service
inspects.  A destroyed context leaves the table and loses its timers, but its
memory belongs to the request.
-/

namespace OpenAppsec.Async

open Nginx (NgxBuf)

/-- The values of `ngx_int_t` that the functions return and compare. -/
inductive NgxRc where
  | ok
  | error
  | again
  | declined
  | done
  | httpForbidden
  | httpRequestTimeOut
  | inspectionIrrelevant
  | other (code : Int)
  deriving DecidableEq

structure Settings where
  failOpenMode : Bool
  failOpenHoldMode : Bool
  isInspectionRequiredForSource : NanoStr → Bool

def Settings.failModeVerdict (settings : Settings) : NgxRc :=
  if settings.failOpenMode then .ok else .httpForbidden

def Settings.failModeHoldVerdict (settings : Settings) : NgxRc :=
  if settings.failOpenHoldMode then .ok else .httpForbidden

/-- The verdict for a failure, given the fail mode that applies to it. -/
def failVerdict (failMode : NgxRc) : ServiceVerdict :=
  if failMode = .ok then .accept else .drop

/-- What a handler returns for a failure. -/
def failResult (failMode : NgxRc) : NgxRc :=
  if failMode = .ok then .declined else failMode

/-- `ngx_cp_async_stage_t`. -/
inductive Stage where
  | init
  | metaData
  | waitMetaVerdict
  | headers
  | waitHeaderVerdict
  | endTransaction
  | waitEndVerdict
  | body
  | waitBodyVerdict
  | verdict
  | complete
  | error
  deriving DecidableEq

/-- `is_verdict_drop_or_custom`. -/
def isVerdictDropOrCustom (verdict : ServiceVerdict) : Prop :=
  verdict = .drop ∨ verdict = .customResponse

instance (verdict : ServiceVerdict) :
    Decidable (isVerdictDropOrCustom verdict) :=
  inferInstanceAs (Decidable (_ ∨ _))

/-- The part of the program that set the verdict of a session last. -/
inductive Origin where
  | session
  | service
  | failMode
  | rateLimit
  | registration
  | irrelevant
  deriving DecidableEq

/-- The request, as the module reads it.  `session_id` of a session is made of
a counter. -/
structure Request where
  sessionCounter : BitVec 32
  httpProtocol : NanoStr
  methodName : NanoStr
  hostVariable : Option NanoStr
  headersHost : Option NanoStr
  uri : NanoStr
  unparsedUri : NanoStr
  listeningIp : NanoStr
  listeningPort : BitVec 16
  clientIp : NanoStr
  clientPort : BitVec 16
  wafTag : NanoStr
  headers : List (List HttpHeaderData)
  chunked : Bool
  contentLengthN : Int

def Request.sessionId (request : Request) : BitVec 32 :=
  request.sessionCounter <<< 1 ||| 1

/-- `does_contain_body`. -/
def Request.doesContainBody (request : Request) : Prop :=
  request.chunked = true ∨
    (request.contentLengthN ≠ -1 ∧ 0 < request.contentLengthN)

instance (request : Request) : Decidable request.doesContainBody :=
  inferInstanceAs (Decidable (_ ∨ _))

/-- `isSet` tells whether the request has session data. -/
structure SessionData where
  isSet : Bool
  verdict : ServiceVerdict
  verdictOrigin : Origin
  remainingMessagesToReply : Nat
  asyncProcessingNeeded : Bool
  wasRequestFullyInspected : Bool
  initialAsyncMode : Int

/-- `init_cp_session_data`. -/
def SessionData.start (isSet : Bool) : SessionData :=
  { isSet
    verdict := .inspect
    verdictOrigin := .session
    remainingMessagesToReply := 0
    asyncProcessingNeeded := false
    wasRequestFullyInspected := false
    initialAsyncMode := -1 }

/-- The fields of `ngx_http_cp_async_ctx_t`.  A timer is kept as whether it is
set, and `registered` tells whether the table holds the context. -/
structure AsyncCtx where
  registered : Bool
  stage : Stage
  agentTimer : Bool
  deadlineTimer : Bool
  cleanupTimer : Bool
  resumeTimer : Bool
  resumePosted : Bool
  modifications : List ModificationNode
  waiting : Bool
  bodyPhaseStarted : Bool
  released : Bool
  reqSeenLast : Bool
  reqSeq : Nat
  queue : List NgxBuf
  metaDataSent : Bool
  headersSent : Bool
  endTransactionSent : Bool
  headerDeclined : Bool
  firstWaitVerdictEncountered : Bool
  flowError : Bool

/-- A context that is neither registered nor waited for. -/
def AsyncCtx.blank : AsyncCtx :=
  { registered := false
    stage := .init
    agentTimer := false
    deadlineTimer := false
    cleanupTimer := false
    resumeTimer := false
    resumePosted := false
    modifications := []
    waiting := false
    bodyPhaseStarted := false
    released := false
    reqSeenLast := false
    reqSeq := 0
    queue := []
    metaDataSent := false
    headersSent := false
    endTransactionSent := false
    headerDeclined := false
    firstWaitVerdictEncountered := false
    flowError := false }

/-- What nginx does with the request: it may call the header handler, it may
read the body, or it has answered. -/
inductive Lifecycle where
  | pending
  | admitted
  | closed
  deriving DecidableEq

/-- An answer `NGX_HTTP_FORBIDDEN`, with the verdict of the session then. -/
structure Rejection where
  verdict : ServiceVerdict
  origin : Origin
  deriving DecidableEq

/-- The session with what it has done so far: the messages in the ring queue,
the buffers that the body filter was given and those that went on to the next
filter, and the rejections. -/
structure Flow where
  session : SessionData
  ctx : AsyncCtx
  lifecycle : Lifecycle
  isInitialized : Bool
  bodyEnded : Bool
  calls : Nat
  phaseRuns : Nat
  enqueued : List Message
  received : List NgxBuf
  forwarded : List NgxBuf
  rejections : List Rejection

/-- Before the header handler sees the request. -/
def Flow.start (isInitialized : Bool) : Flow :=
  { session := .start false
    ctx := .blank
    lifecycle := .pending
    isInitialized
    bodyEnded := false
    calls := 0
    phaseRuns := 0
    enqueued := []
    received := []
    forwarded := []
    rejections := [] }

namespace Flow

def updateSession (update : SessionData → SessionData) (flow : Flow) : Flow :=
  { flow with session := update flow.session }

def updateCtx (update : AsyncCtx → AsyncCtx) (flow : Flow) : Flow :=
  { flow with ctx := update flow.ctx }

def setVerdict (verdict : ServiceVerdict) (origin : Origin) : Flow → Flow :=
  updateSession fun session =>
    { session with verdict, verdictOrigin := origin }

/-- A failure that the given fail mode decides. -/
def fail (failMode : NgxRc) : Flow → Flow :=
  setVerdict (failVerdict failMode) .failMode

/-- `ASYNC_STAGE_TRANSITION`. -/
def transition (stage : Stage) : Flow → Flow :=
  updateCtx fun ctx =>
    { ctx with
      stage
      deadlineTimer := if stage = .complete then false else ctx.deadlineTimer
      cleanupTimer := if stage = .complete then false else ctx.cleanupTimer
      agentTimer := if stage = .complete then false else ctx.agentTimer }

def cancelDeadlineTimer : Flow → Flow :=
  updateCtx fun ctx => { ctx with deadlineTimer := false }

def startDeadlineTimer : Flow → Flow :=
  updateCtx fun ctx => { ctx with deadlineTimer := true }

def addAgentTimer : Flow → Flow :=
  updateCtx fun ctx => { ctx with agentTimer := true }

def cancelAgentTimer : Flow → Flow :=
  updateCtx fun ctx => { ctx with agentTimer := false }

def cancelTimers : Flow → Flow :=
  updateCtx fun ctx =>
    { ctx with
      agentTimer := false
      cleanupTimer := false
      resumeTimer := false
      resumePosted := false
      deadlineTimer := false }

/-- `ngx_cp_async_destroy_ctx`; the queue is neither freed nor forwarded. -/
def destroyCtx (flow : Flow) : Flow :=
  flow.cancelTimers.updateCtx fun ctx => { ctx with registered := false }

/-- `cp_async_post_request`. -/
def postRequest : Flow → Flow :=
  updateCtx fun ctx => { ctx with resumePosted := true }

def setWaiting (waiting : Bool) : Flow → Flow :=
  updateCtx fun ctx => { ctx with waiting }

def setFlowError : Flow → Flow :=
  updateCtx fun ctx => { ctx with flowError := true }

/-- `ngx_http_next_request_body_filter`. -/
def forward (chain : List NgxBuf) (flow : Flow) : Flow :=
  { flow with forwarded := flow.forwarded ++ chain }

/-- `queue_free`. -/
def queueFree : Flow → Flow :=
  updateCtx fun ctx => { ctx with queue := [] }

/-- A call out of the module. -/
def countCall (flow : Flow) : Flow :=
  { flow with calls := flow.calls + 1 }

/-- `ngx_http_core_run_phases`; the handlers that it calls are later steps. -/
def runPhases (flow : Flow) : Flow :=
  { flow with phaseRuns := flow.phaseRuns + 1 }

/-- A function answers `NGX_HTTP_FORBIDDEN`. -/
def forbid (flow : Flow) : Flow :=
  { flow with
    rejections := flow.rejections ++
      [{ verdict := flow.session.verdict
         origin := flow.session.verdictOrigin }] }

def close (flow : Flow) : Flow :=
  { flow with lifecycle := .closed }

end Flow

end OpenAppsec.Async
