import OpenAppsec.Attachment.NanoThreads
import OpenAppsec.Attachment.VerdictTable

/-!
# The synchronous operations of the nano attachment

Each operation runs its routine in a thread, waits for a delayed verdict where
it handles one, and turns the context into the response of the attachment.
What each thread meets besides its messages and replies is an input; the
history of a call keeps the outcomes in the order in which they happen.
-/

namespace OpenAppsec.Nano

structure CustomResponseData where
  responseCode : BitVec 16
  title : String
  body : String
  deriving DecidableEq

/-- The response data that the service has sent, or a custom page of the
attachment. -/
inductive WebResponseData (ω : Type*) where
  | received (data : ω)
  | customWebResponse (uuid : String) (data : CustomResponseData)
  deriving DecidableEq

/-- `AttachmentVerdictResponse` with the data behind its pointers. -/
structure VerdictResponse (ω : Type*) where
  verdict : AttachmentVerdict
  sessionId : BitVec 32
  webResponseData : Option (WebResponseData ω)
  modifications : List ModificationNode
  deriving DecidableEq

/-- The settings of the attachment that the operations read; in
`inspectionMode` only `NO_THREAD` matters. -/
structure AttachmentSettings where
  failModeVerdict : NanoCommunicationResult
  noThread : Bool
  holdVerdictRetries : Nat

/-- A routine finishes, or its thread is not created, not joined or canceled
before its end.  `pthread_join` of a canceled thread does not fail. -/
inductive ThreadOutcome (ω : Type*) where
  | finished
  | failed (leftBehind : SenderState ω → SenderState ω)

/-- What a call meets: whether the shared memory is corrupted, its threads,
and whether the memory of a block page is allocated. -/
structure CallEnvironment (ω : Type*) extends Environment ω where
  corrupted : Bool
  thread : Nat → ThreadOutcome ω
  malloc : Bool

/-- Nothing but the messages and replies decides the call. -/
def CallEnvironment.undisturbed {ω : Type*} (env : Environment ω) :
    CallEnvironment ω :=
  { env with
    corrupted := false
    thread := fun _ => .finished
    malloc := true }

/-- The outcomes in a call. -/
inductive Outcome (ω : Type*) where
  | threadStarted
  | happened (event : Event ω)
  | threadFailed
  | verdictHeld

/-- The state of the senders, with the outcomes since the call began. -/
structure CallState (ω : Type*) where
  sender : SenderState ω
  history : List (Outcome ω)

section Operations

variable {ω : Type*}

def Outcome.isThreadStarted : Outcome ω → Bool
  | .threadStarted => true
  | _ => false

def CallState.threadsStarted (state : CallState ω) : Nat :=
  state.history.countP Outcome.isThreadStarted

def createDefaultBlockPage (malloc : Bool) : Option (WebResponseData ω) :=
  if malloc then
    some (.customWebResponse "20118dba-81f7-4999-8e94-003cf242f5dd"
      { responseCode := 403
        title := "Default Title"
        body := "Default Body" })
  else none

variable (settings : AttachmentSettings)

/-- The common part of the responses below. -/
def failModeResponse (malloc : Bool) (sessionId : BitVec 32)
    (state : CallState ω) : VerdictResponse ω × CallState ω :=
  if settings.failModeVerdict = .ok then
    ({ verdict := .accept, sessionId
       webResponseData := none, modifications := [] },
      { state with sender := state.sender.setVerdict .accept })
  else
    ({ verdict := .drop, sessionId
       webResponseData := createDefaultBlockPage malloc
       modifications := [] },
      { state with sender := state.sender.setVerdict .drop })

def sendCorruptMemoryVerdict (malloc : Bool) (sessionId : BitVec 32)
    (state : CallState ω) : VerdictResponse ω × CallState ω :=
  failModeResponse settings malloc sessionId state

def sendThreadTimeoutVerdict (malloc : Bool) (sessionId : BitVec 32)
    (state : CallState ω) : VerdictResponse ω × CallState ω :=
  failModeResponse settings malloc sessionId state

def finalizeFailedResponse (malloc : Bool) (sessionId : BitVec 32)
    (state : CallState ω) : VerdictResponse ω × CallState ω :=
  failModeResponse settings malloc sessionId state

def attachmentVerdict : ServiceVerdict → AttachmentVerdict
  | .inspect => .inspect
  | .accept => .accept
  | .drop => .drop
  | .customResponse => .drop
  | .inject => .inspect
  -- an unknown verdict
  | _ => .inspect

def finalizeSuccessfulResponse (sessionId : BitVec 32)
    (state : CallState ω) : VerdictResponse ω × CallState ω :=
  ({ verdict := attachmentVerdict state.sender.sessionData.verdict
     sessionId
     webResponseData := state.sender.webResponseData.map .received
     modifications := state.sender.modifications },
    state)

def finalizeIrrelevantResponse (sessionId : BitVec 32)
    (state : CallState ω) : VerdictResponse ω × CallState ω :=
  ({ verdict := .accept, sessionId
     webResponseData := none, modifications := [] },
    state)

/-- `none` when the routine does not return. -/
def nanoRunInThreadTimeout (call : CallEnvironment ω)
    (threadFunc : SenderState ω → Option (SenderState ω))
    (state : CallState ω) : Option (Bool × CallState ω) :=
  let ctx := initThreadCtx state.sender
  let history := state.history ++ [.threadStarted]
  let outcome :=
    if settings.noThread then .finished
    else call.thread state.threadsStarted
  match outcome with
  | .finished =>
      (threadFunc ctx).map fun after =>
        (true,
          { sender := after
            history := history ++ (ctx.eventsSince after).map .happened })
  | .failed leftBehind =>
      some (false,
        { sender := leftBehind ctx, history := history ++ [.threadFailed] })

/-- The loop over `hold_verdict_retries`; the result tells whether a thread
has failed. -/
def handleDelayedVerdict (call : CallEnvironment ω) :
    Nat → CallState ω → Option (Bool × CallState ω)
  | 0, state =>
      some (false,
        { sender := state.sender.setRes .error
          history := state.history ++ [.verdictHeld] })
  | retries + 1, state =>
      match nanoRunInThreadTimeout settings call
          (fun ctx =>
            some (sendDelayedVerdictRequestThread call.toEnvironment ctx))
          state with
      | none => none
      | some (false, state) => some (true, state)
      | some (true, state) =>
          if state.sender.sessionData.verdict ≠ .delayed then
            some (false, state)
          else handleDelayedVerdict call retries state

/-- The end of an operation; only some look for `NANO_DECLINED`. -/
def finalizeResponse (call : CallEnvironment ω) (handlesDeclined : Bool)
    (sessionId : BitVec 32) (state : CallState ω) :
    VerdictResponse ω × CallState ω :=
  if handlesDeclined ∧ state.sender.res = .declined then
    finalizeIrrelevantResponse sessionId state
  else if state.sender.res ≠ .httpForbidden ∧ state.sender.res ≠ .ok then
    finalizeFailedResponse settings call.malloc sessionId state
  else finalizeSuccessfulResponse sessionId state

/-- The body that the operations share: which routine runs, whether a declined
source is answered at once, and whether a delayed verdict is waited for. -/
def runOperation (call : CallEnvironment ω)
    (threadFunc : SenderState ω → Option (SenderState ω))
    (handlesDeclined handlesDelayed : Bool) (sender : SenderState ω) :
    Option (VerdictResponse ω × CallState ω) :=
  let sessionId := sender.sessionData.sessionId
  let state : CallState ω := { sender, history := [] }
  if call.corrupted then
    some (sendCorruptMemoryVerdict settings call.malloc sessionId state)
  else
    match nanoRunInThreadTimeout settings call threadFunc state with
    | none => none
    | some (false, state) =>
        some (sendThreadTimeoutVerdict settings call.malloc sessionId state)
    | some (true, state) =>
        let waited :=
          if handlesDelayed ∧ state.sender.sessionData.verdict = .delayed then
            handleDelayedVerdict settings call settings.holdVerdictRetries
              state
          else some (false, state)
        match waited with
        | none => none
        | some (true, state) =>
            some (sendThreadTimeoutVerdict settings call.malloc sessionId
              state)
        | some (false, state) =>
            some (finalizeResponse settings call handlesDeclined sessionId
              state)

variable (call : CallEnvironment ω)

def sendRequestFilter (metadata : HttpMetaData)
    (headers : List HttpHeaderData) (containsBody : Bool)
    (sender : SenderState ω) :
    Option (VerdictResponse ω × CallState ω) :=
  runOperation settings call
    (fun ctx => some
      (sendRequestFilterThread call.toEnvironment metadata headers
        containsBody ctx))
    true false sender

def sendMetadata (metadata : HttpMetaData) (sender : SenderState ω) :
    Option (VerdictResponse ω × CallState ω) :=
  runOperation settings call
    (fun ctx => some (sendMetadataThread call.toEnvironment metadata ctx))
    true false sender

def sendRequestHeaders (headers : List HttpHeaderData)
    (sender : SenderState ω) :
    Option (VerdictResponse ω × CallState ω) :=
  runOperation settings call
    (fun ctx => some
      (sendRequestHeadersThread call.toEnvironment headers ctx))
    false true sender

def sendRequestBody (bodies : List NanoStr) (sender : SenderState ω) :
    Option (VerdictResponse ω × CallState ω) :=
  runOperation settings call
    (sendRequestBodyThread call.toEnvironment bodies) false true sender

def sendRequestEnd (sender : SenderState ω) :
    Option (VerdictResponse ω × CallState ω) :=
  runOperation settings call
    (fun ctx => some (sendRequestEndThread call.toEnvironment ctx))
    false true sender

/-- The response headers and the response end do not wait for a delayed
verdict. -/
def sendResponseHeaders (headers : ResHttpHeaders) (sender : SenderState ω) :
    Option (VerdictResponse ω × CallState ω) :=
  runOperation settings call
    (fun ctx => some
      (sendResponseHeadersThread call.toEnvironment headers ctx))
    false false sender

def sendResponseBody (bodies : List NanoStr) (sender : SenderState ω) :
    Option (VerdictResponse ω × CallState ω) :=
  runOperation settings call
    (sendResponseBodyThread call.toEnvironment bodies) false true sender

def sendResponseEnd (sender : SenderState ω) :
    Option (VerdictResponse ω × CallState ω) :=
  runOperation settings call
    (fun ctx => some (sendResponseEndThread call.toEnvironment ctx))
    false false sender

end Operations

/-- A synchronous operation with its data. -/
inductive NanoOperation where
  | requestFilter (metaData : HttpMetaData) (headers : List HttpHeaderData)
      (containsBody : Bool)
  | metadata (metaData : HttpMetaData)
  | requestHeaders (headers : List HttpHeaderData)
  | requestBody (bodies : List NanoStr)
  | requestEnd
  | responseHeaders (headers : ResHttpHeaders)
  | responseBody (bodies : List NanoStr)
  | responseEnd

def NanoOperation.run {ω : Type*} (settings : AttachmentSettings)
    (call : CallEnvironment ω) (sender : SenderState ω) :
    NanoOperation → Option (VerdictResponse ω × CallState ω)
  | .requestFilter metaData headers containsBody =>
      sendRequestFilter settings call metaData headers containsBody sender
  | .metadata metaData => sendMetadata settings call metaData sender
  | .requestHeaders headers => sendRequestHeaders settings call headers sender
  | .requestBody bodies => sendRequestBody settings call bodies sender
  | .requestEnd => sendRequestEnd settings call sender
  | .responseHeaders headers =>
      sendResponseHeaders settings call headers sender
  | .responseBody bodies => sendResponseBody settings call bodies sender
  | .responseEnd => sendResponseEnd settings call sender

end OpenAppsec.Nano
