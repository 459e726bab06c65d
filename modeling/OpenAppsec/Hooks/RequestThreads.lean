import OpenAppsec.Async.Context
import OpenAppsec.Attachment.NginxReceiver

/-!
# The inspection threads of a request

The synchronous filters of nginx hand a request to the service in threads of
their own, and wait for each thread as long as its timeout allows.  What the
threads meet, and what a thread leaves behind that does not come to its end,
are inputs.  The body chain and the messages that carry it are kept apart from
the rest of a context: only the body threads work on them.
-/

namespace OpenAppsec.Hooks

open Nginx (NgxBuf NgxResult SendOutcome Sending)
open Async (NgxRc failVerdict)

/-- The configuration that the hooks read; times are in milliseconds. -/
structure HookSettings extends Async.Settings where
  holdVerdictRetries : Nat
  resBodyThreadTimeoutMsec : Nat
  reqMaxProccessingMsTime : Nat
  resMaxProccessingMsTime : Nat

/-- The fields of `ngx_http_cp_session_data` that the request hooks use; times
are in microseconds. -/
structure HookSession where
  sessionId : BitVec 32
  verdict : ServiceVerdict
  remainingMessagesToReply : Nat
  inspectAllResponseHeaders : Int
  wasRequestFullyInspected : Bool
  initialAsyncMode : Int
  reqProccesingTime : Int
  resProccesingTime : Int

/-- A thread context less its chain; `threadsRun` and `repliesAwaited` count
the threads and the calls of the reply receiver. -/
structure Inspection where
  session : HookSession
  res : NgxRc
  shouldReturn : Bool
  shouldReturnNextFilter : Bool
  modifications : List ModificationNode
  asyncFilter : Bool
  threadsRun : Nat
  repliesAwaited : Nat

/-- `init_thread_ctx`. -/
def initThreadCtx (session : HookSession) : Inspection :=
  { session
    res := .ok
    shouldReturn := false
    shouldReturnNextFilter := false
    modifications := []
    asyncFilter := false
    threadsRun := 0
    repliesAwaited := 0 }

/-- What one call of the reply receiver meets: the result of its wait for the
service, and the replies in the queue. -/
structure Received where
  waited : NgxResult
  queue : List Delivery

/-- What a thread that is stopped leaves in the context; it may have given up
just before. -/
structure LeftBehind where
  verdict : ServiceVerdict
  remainingMessagesToReply : Nat
  inspectAllResponseHeaders : Int
  wasRequestFullyInspected : Bool
  res : NgxRc
  modifications : List ModificationNode
  gaveUp : Bool

/-- A thread finishes; or it is not created, or canceled before its end; or
it is canceled and cannot be joined, which counts as success. -/
inductive ThreadOutcome where
  | finished
  | failed (leftBehind : LeftBehind)
  | unjoined (leftBehind : LeftBehind)

/-- What one call of a hook meets: the outcomes of its threads, of sending the
parts of the body, of its other messages and of its waits for replies, and the
time that each of its passes takes. -/
structure HookEvents where
  threads : Nat → ThreadOutcome
  transport : Nat → SendOutcome
  endTransactionSent : Nat → Bool
  waitSent : Nat → Bool
  receives : Nat → Received
  elapsed : Nat → Int

section Threads

variable (settings : HookSettings) (events : HookEvents)

/-- The session's part of `handle_inspection_failure`. -/
def handleInspectionFailure (failMode : NgxRc) (session : HookSession) :
    HookSession :=
  if session.verdict ≠ .inspect then session
  else { session with verdict := failVerdict failMode }

namespace Inspection

def setVerdict (verdict : ServiceVerdict) (ctx : Inspection) : Inspection :=
  { ctx with session := { ctx.session with verdict } }

def fail (failMode : NgxRc) (ctx : Inspection) : Inspection :=
  { ctx with session := handleInspectionFailure failMode ctx.session }

/-- `THREAD_CTX_RETURN`. -/
def threadCtxReturn (res : NgxRc) (ctx : Inspection) : Inspection :=
  { ctx with res, shouldReturn := true }

/-- `THREAD_CTX_RETURN_NEXT_FILTER`. -/
def threadCtxReturnNextFilter (ctx : Inspection) : Inspection :=
  { ctx with shouldReturnNextFilter := true }

/-- How a thread ends that could not send its message. -/
def sendingFailed (failMode : NgxRc) (ctx : Inspection) : Inspection :=
  let ctx := ctx.fail failMode
  if failMode = .ok then ctx.threadCtxReturnNextFilter
  else ctx.threadCtxReturn .httpForbidden

def addRemaining (numMessagesSent : Nat) (ctx : Inspection) : Inspection :=
  { ctx with
    session :=
      { ctx.session with
        remainingMessagesToReply :=
          ctx.session.remainingMessagesToReply + numMessagesSent } }

end Inspection

def NgxRc.ofResult : NgxResult → NgxRc
  | .ok => .ok
  | .error => .error
  | .again => .again
  | .httpForbidden => .httpForbidden
  | .httpRequestTimeOut => .httpRequestTimeOut

/-- The hooks keep no web response. -/
def noHandlers : ResponseHandlers Unit :=
  { handleDropResponse := fun _ _ => ()
    handleCustomResponse := fun _ _ => () }

/-- `ngx_http_cp_reply_receiver` on the fields of the context. -/
def replyReceiver (ctx : Inspection) : Inspection :=
  let received := events.receives ctx.repliesAwaited
  let ctx := { ctx with repliesAwaited := ctx.repliesAwaited + 1 }
  if ctx.session.remainingMessagesToReply = 0 then
    { ctx.setVerdict .inspect with res := .ok }
  else if received.waited ≠ .ok then
    { ctx with res := .error }
  else
    match Nginx.ngxHttpCpReplyReceiver noHandlers ctx.session.sessionId
        { queue := received.queue
          expectedReplies := ctx.session.remainingMessagesToReply
          verdict := ctx.session.verdict
          inspectAllResponseHeaders := ctx.session.inspectAllResponseHeaders
          modificationList := ctx.modifications
          webResponse := ()
          currentConfigVersion := 0 } with
    -- the loop over the replies always ends
    | none => { ctx with res := .error }
    | some (result, final) =>
        { ctx with
          res := NgxRc.ofResult result
          modifications := final.modificationList
          session :=
            { ctx.session with
              verdict := final.verdict
              remainingMessagesToReply := final.expectedReplies
              inspectAllResponseHeaders :=
                final.inspectAllResponseHeaders } }

/-- The context that a stopped thread leaves; a thread that gives up asks for
the next filter when its fail mode is open. -/
def LeftBehind.applyTo (leftBehind : LeftBehind) (failMode : NgxRc)
    (ctx : Inspection) : Inspection :=
  { ctx with
    session :=
      { ctx.session with
        verdict := leftBehind.verdict
        remainingMessagesToReply := leftBehind.remainingMessagesToReply
        inspectAllResponseHeaders := leftBehind.inspectAllResponseHeaders
        wasRequestFullyInspected := leftBehind.wasRequestFullyInspected }
    res := leftBehind.res
    modifications := leftBehind.modifications
    shouldReturn :=
      ctx.shouldReturn || (leftBehind.gaveUp && failMode ≠ .ok)
    shouldReturnNextFilter :=
      ctx.shouldReturnNextFilter || (leftBehind.gaveUp && failMode = .ok) }

/-- `ngx_cp_run_in_thread_timeout`: whether it reports success, and the
context. -/
def runInThreadTimeout (failMode : NgxRc)
    (routine : Inspection → Inspection) (ctx : Inspection) :
    Bool × Inspection :=
  let next := { ctx with threadsRun := ctx.threadsRun + 1 }
  match events.threads ctx.threadsRun with
  | .finished => (true, routine next)
  | .failed leftBehind => (false, leftBehind.applyTo failMode next)
  | .unjoined leftBehind => (true, leftBehind.applyTo failMode next)

def reqEndTransactionThread (ctx : Inspection) : Inspection :=
  if events.endTransactionSent ctx.threadsRun = false then
    ctx.sendingFailed settings.failModeVerdict
  else
    let ctx := ctx.addRemaining 1
    if ctx.session.verdict ≠ .accept ∧ ctx.session.verdict ≠ .drop ∧
        ctx.session.verdict ≠ .customResponse then
      replyReceiver events ctx
    else ctx

def holdVerdictThread (ctx : Inspection) : Inspection :=
  if events.waitSent ctx.threadsRun = false then
    let ctx := if ctx.asyncFilter then { ctx with res := .error } else ctx
    ctx.sendingFailed settings.failModeHoldVerdict
  else
    replyReceiver events (ctx.addRemaining 1)

/-- The loop of `ngx_http_cp_hold_verdict`. -/
def holdVerdictAttempts : Nat → Inspection → Bool × Inspection
  | 0, ctx => (false, ctx)
  | retries + 1, ctx =>
      let (res, ctx) :=
        runInThreadTimeout events settings.failModeHoldVerdict
          (holdVerdictThread settings events) ctx
      if res = false then
        if ctx.asyncFilter then (false, ctx)
        else holdVerdictAttempts retries ctx
      else if ctx.session.verdict ≠ .delayed then (true, ctx)
      else if ctx.asyncFilter ∧ ctx.res = .error then (false, ctx)
      else holdVerdictAttempts retries ctx

def holdVerdict (ctx : Inspection) : Bool × Inspection :=
  let retries :=
    if ctx.asyncFilter then settings.resBodyThreadTimeoutMsec / 50
    else settings.holdVerdictRetries
  let (held, ctx) := holdVerdictAttempts settings events retries ctx
  if held then (true, ctx)
  else
    (false,
      (ctx.fail settings.failModeHoldVerdict).setVerdict
        (failVerdict settings.failModeHoldVerdict))

/-- A limit is a number of milliseconds, or zero for no limit. -/
def reachesLimit (limit : Nat) (time : Int) : Prop :=
  limit ≠ 0 ∧ (limit : Int) * 1000 ≤ time

instance (limit : Nat) (time : Int) : Decidable (reachesLimit limit time) :=
  inferInstanceAs (Decidable (_ ∧ _))

/-- The condition of `was_transaction_timedout`. -/
def TimedOut (session : HookSession) : Prop :=
  reachesLimit settings.reqMaxProccessingMsTime session.reqProccesingTime ∨
    reachesLimit settings.resMaxProccessingMsTime session.resProccesingTime

instance (session : HookSession) : Decidable (TimedOut settings session) :=
  inferInstanceAs (Decidable (_ ∨ _))

/-- `was_transaction_timedout`. -/
def wasTransactionTimedout (session : HookSession) : Bool × HookSession :=
  if TimedOut settings session then
    (true, handleInspectionFailure settings.failModeVerdict session)
  else (false, session)

end Threads

end OpenAppsec.Hooks
