import OpenAppsec.Compression.CompressionStream
import OpenAppsec.Hooks.RequestBodyFilter
import OpenAppsec.Library.CopyBack

/-!
# The response body filter

`ngx_http_cp_res_body_filter_core` in both of its modes.  The service is given
the compressed body that was saved before, if there is one, and else the body
itself.  What the codecs and the body modifier make of a chain, and whether
memory can be had, are inputs.
-/

namespace OpenAppsec.Hooks

open Nginx (NgxBuf Sending)
open Async (NgxRc failVerdict)
open Compression (CompressionType)

/-- A saved body: the buffer of its first link, which can be missing, and the
buffers of the other links. -/
structure SavedBody where
  first : Option NgxBuf
  rest : List NgxBuf

/-- The fields of the response data that the filters use. -/
structure ResponseData where
  responseDataStatus : NgxRc
  originalCompressionType : CompressionType
  newCompressionType : CompressionType
  numBodyChunk : Nat
  originalCompressedBody : Option SavedBody

/-- The session of a response, and the messages that carried its body. -/
structure ResponseState where
  session : HookSession
  response : ResponseData
  asyncProcessingNeeded : Bool
  isResBodyInspected : Bool
  sent : List Sending

/-- What `decompress_body` does: whether it succeeds, the body, and the saved
body if it is given one. -/
structure Decompression where
  succeeds : Bool
  chain : List NgxBuf
  saved : SavedBody

/-- What a filter does with the body of a response. -/
inductive ResponseAnswer where
  | forwards (chain : List NgxBuf)
  | returns (rc : NgxRc)
  | finalizesForbidden
  deriving DecidableEq

/-- A call of the filter, with what it meets.  `asyncModeEnabled` is what the
mode of the filter asks for: the setting of the request, or of the process.  A
pool is ready if it is there or can be created. -/
structure ResBodyCall where
  chain : List NgxBuf
  asyncFilter : Bool
  asyncModeEnabled : Bool
  ipcReady : Bool
  transparent : Bool
  brotliInspectionEnabled : Bool
  firstPosSet : Bool
  chainLinkAllocated : Bool
  cleanupAdded : Bool
  decompressionPoolReady : Bool
  recompressionPoolReady : Bool
  decompressBody : List NgxBuf → Option SavedBody → Decompression
  compressBody : List NgxBuf → Bool × List NgxBuf
  copyCompressedToOriginalBuffers :
    List NgxBuf → List NgxBuf → Bool × List NgxBuf
  isBodyChainEmpty : List NgxBuf → Bool
  bodyModifier : List NgxBuf → List ModificationNode → Bool × List NgxBuf
  events : HookEvents

/-- `copy_chain_buffers` from the saved body. -/
def copyChainBuffers (dest : List NgxBuf) (src : Option SavedBody) :
    List NgxBuf :=
  match src with
  | none => dest
  | some saved => CopyBack.copyBack dest (saved.first :: saved.rest.map some)

/-- The chain that the service is given. -/
def inspectedChain (chain : List NgxBuf) : Option SavedBody → List NgxBuf
  | some ⟨some first, rest⟩ => first :: rest
  | _ => chain

section Thread

variable (settings : HookSettings) (events : HookEvents)

/-- The wait for a delayed verdict inside of the thread, which gives up when
it fails; the result tells whether the thread goes on. -/
def holdInThread (ctx : Inspection) : Bool × Inspection :=
  let (held, ctx) := holdIfDelayed settings events ctx
  if held then (true, ctx)
  else
    (false,
      (ctx.setVerdict (failVerdict settings.failModeHoldVerdict)).sendingFailed
        settings.failModeVerdict)

/-- The end of the response, behind its last part.  Only these two verdicts
are not asked for again. -/
def endResponse (ctx : Inspection) : Inspection :=
  if events.endTransactionSent ctx.threadsRun = false then
    ctx.sendingFailed settings.failModeVerdict
  else if ctx.session.verdict = .accept ∨ ctx.session.verdict = .drop then ctx
  else
    (holdInThread settings events
      (replyReceiver events (ctx.addRemaining 1))).2

def resBodyFilterThread (chainPartNumber : Nat) (progress : BodyProgress) :
    BodyProgress :=
  let ctx := progress.ctx
  match Nginx.ngxHttpCpBodySender events.transport .responseBody
      ctx.session.sessionId progress.chain chainPartNumber progress.sent with
  | (none, loop) =>
      { progress with
        ctx := ctx.sendingFailed settings.failModeVerdict
        sent := loop.sent }
  | (some nextElemToInspect, loop) =>
      let (goesOn, ctx) := holdInThread settings events
        (replyReceiver events (ctx.addRemaining loop.numPartsSent))
      { ctx :=
          if goesOn ∧ loop.isLastChunk then endResponse settings events ctx
          else ctx
        chain := nextElemToInspect
        sent := loop.sent }

/-- `ngx_cp_run_in_thread_timeout` for this thread, whose chain and messages
count only when it finishes. -/
def runResBodyThread (chainPartNumber : Nat) (progress : BodyProgress) :
    Bool × BodyProgress :=
  let ctx :=
    { progress.ctx with threadsRun := progress.ctx.threadsRun + 1 }
  match events.threads progress.ctx.threadsRun with
  | .finished =>
      (true, resBodyFilterThread settings events chainPartNumber
        { progress with ctx })
  | .failed leftBehind =>
      (false, { progress with
        ctx := leftBehind.applyTo settings.failModeVerdict ctx })
  | .unjoined leftBehind =>
      (true, { progress with
        ctx := leftBehind.applyTo settings.failModeVerdict ctx })

end Thread

def failResponse (failMode : NgxRc) (chain : List NgxBuf) : ResponseAnswer :=
  if failMode = .ok then .forwards chain else .finalizesForbidden

section Loop

variable (settings : HookSettings) (events : HookEvents)

/-- The exits behind a thread, and `calcProcessingTime`. -/
def leaveResPass (bodyChain : List NgxBuf) (elapsed : Int)
    (ctx : Inspection) : Except (ResponseAnswer × Inspection) Inspection :=
  let ctx :=
    { ctx with
      session :=
        { ctx.session with
          resProccesingTime := ctx.session.resProccesingTime + elapsed } }
  if ctx.shouldReturn then
    .error (.returns (if ctx.res = .ok then .declined else ctx.res), ctx)
  else if ctx.shouldReturnNextFilter then .error (.forwards bodyChain, ctx)
  else
    let (timedOut, session) := wasTransactionTimedout settings ctx.session
    let ctx := { ctx with session }
    if timedOut then
      .error (.forwards bodyChain,
        ctx.setVerdict (failVerdict settings.failModeVerdict))
    else .ok ctx

/-- One pass of the loop; an exit of the filter is an error. -/
def resBodyPass (bodyChain : List NgxBuf) (chainPartNumber : Nat)
    (progress : BodyProgress) :
    Except (ResponseAnswer × BodyProgress) BodyProgress :=
  let (res, progress) :=
    runResBodyThread settings events chainPartNumber progress
  if res = false then
    .error (failResponse settings.failModeVerdict bodyChain,
      { progress with
        ctx :=
          progress.ctx.setVerdict (failVerdict settings.failModeVerdict) })
  else
    match leaveResPass settings bodyChain (events.elapsed chainPartNumber)
        progress.ctx with
    | .error (answer, ctx) => .error (answer, { progress with ctx })
    | .ok ctx => .ok { progress with ctx }

/-- As many passes as the inspected chain has elements, while some of it is
left. -/
def resBodyPasses (bodyChain : List NgxBuf) :
    List NgxBuf → Nat → BodyProgress →
      Except (ResponseAnswer × BodyProgress) BodyProgress
  | [], _, progress => .ok progress
  | _ :: chainElems, chainPartNumber, progress =>
      if progress.chain = [] then .ok progress
      else
        match resBodyPass settings events bodyChain chainPartNumber
            progress with
        | .error exit => .error exit
        | .ok progress =>
            resBodyPasses bodyChain chainElems (chainPartNumber + 1) progress

end Loop

namespace ResponseState

def setVerdict (verdict : ServiceVerdict) (state : ResponseState) :
    ResponseState :=
  { state with session := { state.session with verdict } }

def fail (failMode : NgxRc) (state : ResponseState) : ResponseState :=
  { state with session := handleInspectionFailure failMode state.session }

def setResponse (update : ResponseData → ResponseData)
    (state : ResponseState) : ResponseState :=
  { state with response := update state.response }

/-- A chunk is about to be inspected. -/
def countChunk (state : ResponseState) : ResponseState :=
  { state with
    isResBodyInspected := true
    response :=
      { state.response with
        numBodyChunk := state.response.numBodyChunk + 1 } }

/-- The state after the threads of the loop. -/
def after (progress : BodyProgress) (state : ResponseState) : ResponseState :=
  { state with session := progress.ctx.session, sent := progress.sent }

end ResponseState

section Filter

variable (settings : HookSettings) (call : ResBodyCall)

/-- A chain whose compression the service or the attachment undoes. -/
def ResBodyCall.Decodes (type : CompressionType) : Prop :=
  type ≠ .noCompression ∧
    (type ≠ .brotli ∨ call.brotliInspectionEnabled = true)

instance (type : CompressionType) : Decidable (call.Decodes type) :=
  inferInstanceAs (Decidable (_ ∧ _))

/-- The exit for a session that is not inspected any more. -/
def skipResponse (state : ResponseState) : ResponseAnswer :=
  if state.session.verdict = .drop ∧ state.isResBodyInspected = true then
    .finalizesForbidden
  else .forwards call.chain

/-- A failure of the codecs, which also ends the inspection of the chains that
follow. -/
def corruptResponse (chain : List NgxBuf) (state : ResponseState) :
    ResponseAnswer × ResponseState :=
  (failResponse settings.failModeVerdict chain,
    (state.fail settings.failModeVerdict).setResponse fun response =>
      { response with responseDataStatus := .error })

/-- `init_cp_session_original_body` on the first chunk. -/
def initOriginalBody (response : ResponseData) : Bool × ResponseData :=
  if response.numBodyChunk = 1 ∧ response.originalCompressedBody.isNone then
    if call.chainLinkAllocated = false then (false, response)
    else
      (call.cleanupAdded,
        { response with originalCompressedBody := some ⟨none, []⟩ })
  else (true, response)

/-- `ocb_param`: a later chunk that is accepted already is not saved. -/
def ResponseState.ocbParam (state : ResponseState) : Option SavedBody :=
  if state.session.verdict = .accept ∧ 1 < state.response.numBodyChunk then none
  else state.response.originalCompressedBody

/-- The body is decompressed, and saved as it was. -/
def decompressResponse (state : ResponseState) :
    Except (ResponseAnswer × ResponseState) (List NgxBuf × ResponseState) :=
  let (initialized, response) := initOriginalBody call state.response
  let state := { state with response }
  if initialized = false ∨ call.decompressionPoolReady = false then
    .error (corruptResponse settings call.chain state)
  else
    let decompressed := call.decompressBody call.chain state.ocbParam
    let state :=
      if state.ocbParam.isNone then state
      else
        state.setResponse fun response =>
          { response with originalCompressedBody := some decompressed.saved }
    if decompressed.succeeds then .ok (decompressed.chain, state)
    else .error (corruptResponse settings decompressed.chain state)

/-- The body as it goes on to the inspection, or an exit. -/
def prepareResponse (state : ResponseState) :
    Except (ResponseAnswer × ResponseState) (List NgxBuf × ResponseState) :=
  if call.firstPosSet = true ∧
      call.Decodes state.response.newCompressionType then
    decompressResponse settings call state
  else if call.chain.head?.any NgxBuf.lastBuf then
    -- the saved body of an earlier chunk must not be inspected again
    .ok (call.chain,
      state.setResponse fun response =>
        { response with
          originalCompressedBody :=
            response.originalCompressedBody.map fun saved =>
              { saved with first := none } })
  else .ok (call.chain, state)

/-- A body that is accepted is compressed again, into its own buffers. -/
def recompressAccepted (bodyChain : List NgxBuf) (state : ResponseState) :
    ResponseAnswer × ResponseState :=
  let (compressed, compressedChain) := call.compressBody bodyChain
  let (copied, originalChain) :=
    call.copyCompressedToOriginalBuffers call.chain compressedChain
  if call.recompressionPoolReady = false then
    corruptResponse settings bodyChain state
  else if compressed = false ∨ copied = false then
    corruptResponse settings compressedChain state
  else (.forwards originalChain, state)

/-- The body modifier, and the modifications that are left. -/
def modifyResponse (type : CompressionType) (bodyChain : List NgxBuf)
    (modifications : List ModificationNode) :
    Bool × List NgxBuf × List ModificationNode :=
  if modifications = [] then (true, bodyChain, [])
  else if type ≠ .brotli ∨ call.brotliInspectionEnabled = true then
    let (modified, chain) := call.bodyModifier bodyChain modifications
    (modified, chain, modifications)
  else (true, bodyChain, [])

/-- The last look at the verdict. -/
def streamResponse (bodyChain : List NgxBuf) (state : ResponseState) :
    ResponseAnswer × ResponseState :=
  if state.session.verdict = .drop then (.finalizesForbidden, state)
  else (.forwards bodyChain, state)

/-- The body that was inspected is modified, and compressed again. -/
def finishInspected (bodyChain : List NgxBuf)
    (modifications : List ModificationNode) (state : ResponseState) :
    ResponseAnswer × ResponseState :=
  let type := state.response.newCompressionType
  let saved := state.response.originalCompressedBody
  let (modified, bodyChain, modifications) :=
    modifyResponse call type bodyChain modifications
  if modified = false then
    (failResponse settings.failModeVerdict bodyChain,
      state.fail settings.failModeVerdict)
  else if state.session.verdict = .accept ∧ state.response.numBodyChunk = 1 ∧
      modifications = [] then
    (.forwards (copyChainBuffers bodyChain saved),
      state.setResponse fun response =>
        { response with newCompressionType := .noCompression })
  else if type = .noCompression ∨ type = .brotli then
    streamResponse bodyChain state
  else if call.isBodyChainEmpty bodyChain then
    streamResponse (copyChainBuffers bodyChain saved) state
  else
    let (compressed, compressedChain) := call.compressBody bodyChain
    if compressed = false then corruptResponse settings compressedChain state
    else streamResponse compressedChain state

/-- The filter behind its loop. -/
def finishResBody (bodyChain : List NgxBuf) (progress : BodyProgress)
    (state : ResponseState) : ResponseAnswer × ResponseState :=
  let failed := failResponse settings.failModeVerdict bodyChain
  if progress.chain ≠ [] then
    (failed, state.setVerdict (failVerdict settings.failModeVerdict))
  else if progress.ctx.res = .httpForbidden then (.finalizesForbidden, state)
  else if progress.ctx.res ≠ .ok then
    (failed, state.fail settings.failModeVerdict)
  else
    finishInspected settings call bodyChain progress.ctx.modifications state

/-- The inspection of a body that the service has not decided about. -/
def inspectResponse (bodyChain : List NgxBuf) (state : ResponseState) :
    ResponseAnswer × ResponseState :=
  let chain :=
    inspectedChain bodyChain state.response.originalCompressedBody
  let ctx :=
    { initThreadCtx state.session with asyncFilter := call.asyncFilter }
  match resBodyPasses settings call.events bodyChain chain 0
      { ctx, chain, sent := state.sent } with
  | .error (answer, progress) => (answer, state.after progress)
  | .ok progress =>
      finishResBody settings call bodyChain progress (state.after progress)

/-- The checks between the preparation and the inspection of a body. -/
def filterPrepared (bodyChain : List NgxBuf) (state : ResponseState) :
    ResponseAnswer × ResponseState :=
  if state.session.verdict = .accept then
    recompressAccepted settings call bodyChain state
  else
    let (timedOut, session) :=
      wasTransactionTimedout settings state.session
    let state := { state with session }
    let failed := state.setVerdict (failVerdict settings.failModeVerdict)
    if timedOut then
      if session.verdict = .drop then (.finalizesForbidden, state)
      else (.forwards bodyChain, failed)
    else if call.transparent then
      (failResponse settings.failModeVerdict bodyChain, failed)
    else if call.asyncFilter = false ∧
        session.wasRequestFullyInspected = false then
      -- the fail mode is not asked
      (.forwards bodyChain, state.setVerdict .accept)
    else inspectResponse settings call bodyChain state

/-- A session with a verdict, whose chunks need not be compressed again. -/
def AlreadyInspected (state : ResponseState) : Prop :=
  state.session.verdict ≠ .inspect ∧ state.session.verdict ≠ .delayed ∧
    (state.session.verdict ≠ .accept ∨
      ¬call.Decodes state.response.newCompressionType ∨
      state.response.numBodyChunk = 0)

instance (state : ResponseState) : Decidable (AlreadyInspected call state) :=
  inferInstanceAs (Decidable (_ ∧ _))

/-- A call of the other mode than that of its session. -/
def OtherMode (session : HookSession) : Prop :=
  if call.asyncFilter then
    session.initialAsyncMode = 0 ∨ call.asyncModeEnabled = false
  else session.initialAsyncMode ≠ 0 ∨ call.asyncModeEnabled = true

instance (session : HookSession) : Decidable (OtherMode call session) :=
  inferInstanceAs (Decidable (if call.asyncFilter = true then
    session.initialAsyncMode = 0 ∨ call.asyncModeEnabled = false
    else session.initialAsyncMode ≠ 0 ∨ call.asyncModeEnabled = true))

/-- `ngx_http_cp_res_body_filter_core`.  A corrupted session is skipped like
one that has been inspected. -/
def resBodyFilterCore (state : ResponseState) :
    ResponseAnswer × ResponseState :=
  if OtherMode call state.session then (.forwards call.chain, state)
  else if call.ipcReady = false then
    (if settings.failModeVerdict = .ok then .forwards call.chain
      else .returns .error,
      state.setVerdict (failVerdict settings.failModeVerdict))
  else if call.asyncFilter = true ∧ state.asyncProcessingNeeded = false then
    (.forwards call.chain, state)
  else if state.response.responseDataStatus ≠ .ok ∨
      AlreadyInspected call state then
    (skipResponse call state, state)
  else
    let state := state.countChunk
    if call.chain = [] then (.forwards call.chain, state)
    else
      match prepareResponse settings call state with
      | .error exit => exit
      | .ok (bodyChain, state) => filterPrepared settings call bodyChain state

end Filter

end OpenAppsec.Hooks
