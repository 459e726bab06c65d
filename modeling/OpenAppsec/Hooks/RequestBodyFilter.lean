import OpenAppsec.Hooks.RequestThreads

/-!
# The synchronous request body filter

`ngx_http_cp_req_body_filter_sync` inspects a chain pass by pass, one thread
at a time, and either gives the chain to the next filter or keeps it back.
-/

namespace OpenAppsec.Hooks

open Nginx (NgxBuf Sending)
open Async (NgxRc failVerdict)

/-- What the filter does with its chain. -/
inductive BodyAnswer where
  | forwards (chain : List NgxBuf)
  | returns (rc : NgxRc)
  | finalizesCustomResponse
  | finalizesRejected
  deriving DecidableEq

/-- A context with what is left of the chain, and the messages that carried
the body of the request so far. -/
structure BodyProgress where
  ctx : Inspection
  chain : List NgxBuf
  sent : List Sending

/-- A call of the filter, with what it meets.  The modifiers may fail. -/
structure BodyCall where
  chain : List NgxBuf
  asyncModeEnabled : Bool
  ipcReady : Bool
  transparent : Bool
  events : HookEvents
  headerModifier : List ModificationNode → Bool
  bodyModifier : List NgxBuf → List ModificationNode → Option (List NgxBuf)

/-- The session of a request, and the messages that carried its body. -/
structure BodyState where
  session : HookSession
  sent : List Sending

/-- What the filter answers after a failure. -/
def failAnswer (failMode : NgxRc) (chain : List NgxBuf) : BodyAnswer :=
  if failMode = .ok then .forwards chain else .returns .httpForbidden

section Filter

variable (settings : HookSettings) (events : HookEvents)

def reqBodyFilterThread (progress : BodyProgress) : BodyProgress :=
  let ctx := progress.ctx
  match Nginx.ngxHttpCpBodySender events.transport .requestBody
      ctx.session.sessionId progress.chain 0 progress.sent with
  | (none, loop) =>
      { progress with
        ctx := ctx.sendingFailed settings.failModeVerdict
        sent := loop.sent }
  | (some nextElemToInspect, loop) =>
      let ctx := replyReceiver events (ctx.addRemaining loop.numPartsSent)
      { ctx :=
          { ctx with
            session :=
              { ctx.session with
                wasRequestFullyInspected :=
                  loop.isLastChunk || ctx.session.wasRequestFullyInspected } }
        chain := nextElemToInspect
        sent := loop.sent }

/-- `ngx_cp_run_in_thread_timeout` for the body thread, whose chain and
messages count only when it finishes. -/
def runBodyThread (progress : BodyProgress) : Bool × BodyProgress :=
  let ctx :=
    { progress.ctx with threadsRun := progress.ctx.threadsRun + 1 }
  match events.threads progress.ctx.threadsRun with
  | .finished => (true, reqBodyFilterThread settings events { progress with ctx })
  | .failed leftBehind =>
      (false, { progress with
        ctx := leftBehind.applyTo settings.failModeVerdict ctx })
  | .unjoined leftBehind =>
      (true, { progress with
        ctx := leftBehind.applyTo settings.failModeVerdict ctx })

def holdIfDelayed (ctx : Inspection) : Bool × Inspection :=
  if ctx.session.verdict = .delayed then holdVerdict settings events ctx
  else (true, ctx)

/-- The wait for a delayed verdict after a part of the body. -/
def holdPart (whole : List NgxBuf) (ctx : Inspection) :
    Except (BodyAnswer × Inspection) Inspection :=
  let (held, ctx) := holdIfDelayed settings events ctx
  if held then .ok ctx
  else
    .error (failAnswer settings.failModeHoldVerdict whole,
      ctx.setVerdict (failVerdict settings.failModeHoldVerdict))

/-- The end of a request whose last part has been inspected. -/
def endRequest (whole : List NgxBuf) (ctx : Inspection) :
    Except (BodyAnswer × Inspection) Inspection :=
  if ctx.session.wasRequestFullyInspected = false then .ok ctx
  else
    let (res, ctx) :=
      runInThreadTimeout events settings.failModeVerdict
        (reqEndTransactionThread settings events) ctx
    if res = false then
      .error (failAnswer settings.failModeVerdict whole,
        ctx.setVerdict (failVerdict settings.failModeVerdict))
    else if ctx.session.verdict = .customResponse then
      .error (.finalizesCustomResponse, ctx)
    else
      let (held, ctx) := holdIfDelayed settings events ctx
      if held then .ok ctx
      else .error (failAnswer settings.failModeHoldVerdict whole, ctx)

/-- `calcProcessingTime` and the exits at the end of a pass. -/
def leavePass (whole : List NgxBuf) (elapsed : Int) (ctx : Inspection) :
    Except (BodyAnswer × Inspection) Inspection :=
  let ctx :=
    { ctx with
      session :=
        { ctx.session with
          reqProccesingTime := ctx.session.reqProccesingTime + elapsed } }
  if ctx.shouldReturnNextFilter then .error (.forwards whole, ctx)
  else if ctx.shouldReturn then
    .error (.returns (if ctx.res = .ok then .declined else ctx.res), ctx)
  else
    let (timedOut, session) := wasTransactionTimedout settings ctx.session
    let ctx := { ctx with session }
    if timedOut then
      -- unlike before the first pass, the verdict is not asked for here
      .error (.forwards whole,
        ctx.setVerdict (failVerdict settings.failModeVerdict))
    else .ok ctx

/-- One pass of the loop; an exit of the filter is an error. -/
def reqBodyPass (whole : List NgxBuf) (elapsed : Int)
    (progress : BodyProgress) :
    Except (BodyAnswer × BodyProgress) BodyProgress :=
  let (res, progress) := runBodyThread settings events progress
  if res = false ∨ progress.ctx.res = .error then
    .error (failAnswer settings.failModeVerdict whole,
      { progress with
        ctx :=
          progress.ctx.setVerdict (failVerdict settings.failModeVerdict) })
  else
    let outcome := do
      let ctx ← holdPart settings events whole progress.ctx
      let ctx ← endRequest settings events whole ctx
      leavePass settings whole elapsed ctx
    match outcome with
    | .error (answer, ctx) => .error (answer, { progress with ctx })
    | .ok ctx => .ok { progress with ctx }

/-- As many passes as the chain has elements, while some of it is left. -/
def reqBodyPasses (whole : List NgxBuf) :
    List NgxBuf → Nat → BodyProgress →
      Except (BodyAnswer × BodyProgress) BodyProgress
  | [], _, progress => .ok progress
  | _ :: chainElems, index, progress =>
      if progress.chain = [] then .ok progress
      else
        match reqBodyPass settings events whole (events.elapsed index)
            progress with
        | .error exit => .error exit
        | .ok progress => reqBodyPasses whole chainElems (index + 1) progress

end Filter

/-- The filter behind its loop. -/
def finishReqBody (settings : HookSettings) (call : BodyCall)
    (progress : BodyProgress) : BodyAnswer × BodyProgress :=
  let ctx := progress.ctx
  let failed (answer : BodyAnswer) : BodyAnswer × BodyProgress :=
    (answer, { progress with ctx := ctx.fail settings.failModeVerdict })
  let failAnswer : BodyAnswer :=
    if settings.failModeVerdict = .ok then .forwards call.chain
    else .returns .error
  if progress.chain ≠ [] then
    (Hooks.failAnswer settings.failModeVerdict call.chain,
      { progress with
        ctx := ctx.setVerdict (failVerdict settings.failModeVerdict) })
  else if ctx.res = .httpForbidden then (.finalizesRejected, progress)
  else if ctx.res ≠ .ok then failed failAnswer
  else if ctx.modifications = [] then (.forwards call.chain, progress)
  else if call.headerModifier ctx.modifications = false then
    failed failAnswer
  else
    match call.bodyModifier call.chain ctx.modifications with
    | none => failed failAnswer
    | some modified => (.forwards modified, progress)

def reqBodyFilterSync (settings : HookSettings) (call : BodyCall)
    (state : BodyState) : BodyAnswer × BodyState :=
  let session := state.session
  let leave (answer : BodyAnswer) (session : HookSession) :
      BodyAnswer × BodyState := (answer, { state with session })
  let failed := leave (failAnswer settings.failModeVerdict call.chain)
    { session with verdict := failVerdict settings.failModeVerdict }
  if session.initialAsyncMode ≠ 0 ∨ call.asyncModeEnabled = true then
    leave (.forwards call.chain) session
  else if call.ipcReady = false then failed
  else if call.transparent then failed
  else if session.verdict = .drop then
    leave (.returns .httpForbidden) session
  else if session.verdict ≠ .inspect then leave (.forwards call.chain) session
  else if call.chain = [] then leave (.forwards call.chain) session
  else
    match wasTransactionTimedout settings session with
    | (true, session) =>
        if session.verdict = .drop then
          leave (.returns .httpForbidden) session
        else
          leave (.forwards call.chain)
            { session with verdict := failVerdict settings.failModeVerdict }
    | (false, session) =>
        let (answer, progress) :=
          match reqBodyPasses settings call.events call.chain call.chain 0
              { ctx := initThreadCtx session
                chain := call.chain
                sent := state.sent } with
          | .error exit => exit
          | .ok progress => finishReqBody settings call progress
        (answer, { session := progress.ctx.session, sent := progress.sent })

end OpenAppsec.Hooks
