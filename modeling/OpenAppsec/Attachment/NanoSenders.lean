import OpenAppsec.Attachment.FailedSessions
import OpenAppsec.Attachment.NanoMessages
import OpenAppsec.Attachment.NanoReceiver

/-!
# The message senders of the nano attachment

Every sender hands its messages to `send_session_data_to_service` and then,
when a verdict is requested, waits for the replies.  The attempts that each
message meets and the outcome of each wait are inputs; the state remembers
both in the order in which they happen.
-/

namespace OpenAppsec.Nano

open LengthPrefixed

/-- What `service_reply_receiver` returns and leaves behind. -/
structure Reply (ω : Type*) where
  result : NanoCommunicationResult
  verdict : ServiceVerdict
  remainingMessagesToReply : Nat
  webResponseData : Option ω
  modifications : List ModificationNode
  isResult : result = .ok ∨ result = .error ∨ result = .httpForbidden
  remaining_lt : remainingMessagesToReply < 2 ^ 32

/-- The filter of source addresses, the attempts for each message, what each
signal of an asynchronous operation meets, the outcome of each wait for
replies, and a bound on the passes of the body loop. -/
structure Environment (ω : Type*) where
  isIPAddress : NanoStr → Bool
  isSkipSource : NanoStr → Bool
  transport : Nat → Fin 5 → Attempt
  signal : Nat → SignalEvents
  reply : Nat → Reply ω
  passes : Nat
  notified : ∀ index, (signal index).notified = .ok ∨
    (signal index).notified = .error ∨ (signal index).notified = .timeout

/-- The wait is over with a verdict and nothing else. -/
def Reply.ofVerdict {ω : Type*} (verdict : ServiceVerdict) : Reply ω :=
  { result := .ok
    verdict
    remainingMessagesToReply := 0
    webResponseData := none
    modifications := []
    isResult := .inl rfl
    remaining_lt := by decide }

/-- A push that the ring queue answers with an error code; the service
acknowledges every signal. -/
def Attempt.acknowledged (errCode : Int) : Attempt :=
  { errCode
    signal := { notified := .ok, polls := fun _ => .pollTimeout }
    restarted := .ok }

/-- Every source is inspected, and the ring queue accepts exactly the messages
with the given indices. -/
def Environment.accepting {ω : Type*} (accepted : Nat → Bool)
    (reply : Nat → Reply ω) : Environment ω :=
  { isIPAddress := fun _ => true
    isSkipSource := fun _ => false
    transport := fun index _ =>
      .acknowledged (if accepted index then 0 else -3)
    signal := fun _ => { notified := .ok, polls := fun _ => .pollTimeout }
    reply
    passes := 256
    notified := fun _ => .inl rfl }

/-- What has happened in the senders. -/
inductive Event (ω : Type*) where
  | declined
  | sent (message : Message) (outcome : SendOutcome)
  | replied (reply : Reply ω)
  | signalled (result : NanoCommunicationResult)

/-- The context of an event with its session, the failed sessions of the
attachment with the number of refused entries, and what has happened so
far. -/
structure SenderState (ω : Type*) where
  sessionData : HttpSessionData
  res : NanoCommunicationResult
  webResponseData : Option ω
  modifications : List ModificationNode
  asyncFailedBucket : SessionIdQueue
  refusedEntries : Nat
  events : List (Event ω)

section Senders

variable {ω : Type*}

def Event.isSent : Event ω → Bool
  | .sent _ _ => true
  | _ => false

def Event.isReplied : Event ω → Bool
  | .replied _ => true
  | _ => false

def Event.isSignalled : Event ω → Bool
  | .signalled _ => true
  | _ => false

def Event.message? : Event ω → Option Message
  | .sent message _ => some message
  | _ => none

namespace SenderState

/-- The messages handed over so far. -/
def messages (state : SenderState ω) : List Message :=
  state.events.filterMap Event.message?

/-- The number of messages handed over so far. -/
def messagesSent (state : SenderState ω) : Nat :=
  state.events.countP Event.isSent

/-- The number of waits for replies so far. -/
def repliesRead (state : SenderState ω) : Nat :=
  state.events.countP Event.isReplied

/-- The number of signals so far. -/
def signalsSent (state : SenderState ω) : Nat :=
  state.events.countP Event.isSignalled

/-- What has happened since a state. -/
def eventsSince (before after : SenderState ω) : List (Event ω) :=
  after.events.drop before.events.length

def setRes (res : NanoCommunicationResult) (state : SenderState ω) :
    SenderState ω :=
  { state with res }

def setVerdict (verdict : ServiceVerdict) (state : SenderState ω) :
    SenderState ω :=
  { state with sessionData := { state.sessionData with verdict } }

/-- `NanoAsyncFailedSessionIDQueueAdd` for the session. -/
def addFailedSession (state : SenderState ω) : SenderState ω :=
  let (added, bucket) :=
    nanoAsyncFailedSessionIdQueueAdd state.sessionData.sessionId
      state.asyncFailedBucket
  { state with
    asyncFailedBucket := bucket
    refusedEntries :=
      if added = .ok then state.refusedEntries
      else state.refusedEntries + 1 }

def record (event : Event ω) (state : SenderState ω) : SenderState ω :=
  { state with events := state.events ++ [event] }

/-- The context that an operation or a thread starts with. -/
def initCtx (state : SenderState ω) : SenderState ω :=
  { state with
    res := .ok
    webResponseData := none
    modifications := [] }

/-- A session about which nothing has been sent. -/
def start (sessionData : HttpSessionData) : SenderState ω :=
  { sessionData
    res := .ok
    webResponseData := none
    modifications := []
    asyncFailedBucket := .empty
    refusedEntries := 0
    events := [] }

end SenderState

def handleCounterNewMessageSent (amount : Nat) (usageMode : SignalUsageMode)
    (state : SenderState ω) : SenderState ω :=
  if usageMode = .async then state
  else
    { state with
      sessionData := { state.sessionData with
        remainingMessagesToReply :=
          (state.sessionData.remainingMessagesToReply + amount) % 2 ^ 32 } }

/-- `ctx->res = NANO_ERROR`, and an entry in the queue of failed sessions when
the usage is asynchronous. -/
def reportFailure (usageMode : SignalUsageMode) (state : SenderState ω) :
    SenderState ω :=
  let state := state.setRes .error
  if usageMode = .async then state.addFailedSession else state

variable (env : Environment ω)

/-- `1` if the source is inspected, `0` if not, and `-1` if it is no address;
only `0` declines. -/
def isInspectionRequiredForSource (srcIp : NanoStr) : Int :=
  if env.isIPAddress srcIp = false then -1
  else if env.isSkipSource srcIp then 0
  else 1

/-- `send_session_data_to_service` for the next message. -/
def send (usageMode : SignalUsageMode) (message : Message)
    (state : SenderState ω) : NanoCommunicationResult × SenderState ω :=
  let outcome :=
    sendSessionDataToService state.sessionData.sessionId.toNat usageMode
      (env.transport state.messagesSent)
  (outcome.result, state.record (.sent message outcome))

/-- `service_reply_receiver` for the next wait. -/
def receive (state : SenderState ω) : SenderState ω :=
  let reply := env.reply state.repliesRead
  { state with
    sessionData := { state.sessionData with
      verdict := reply.verdict
      remainingMessagesToReply := reply.remainingMessagesToReply }
    res := reply.result
    webResponseData := reply.webResponseData
    modifications := reply.modifications
    events := state.events ++ [.replied reply] }

/-- The end of the metadata and header senders. -/
def requestVerdict (isVerdictRequested : Bool) (state : SenderState ω) :
    SenderState ω :=
  if isVerdictRequested then receive env state else state

/-- The end of the other senders. -/
def requestVerdictOrOk (isVerdictRequested : Bool) (state : SenderState ω) :
    SenderState ω :=
  if isVerdictRequested then receive env state else state.setRes .ok

def transmitMetadata (metadata : HttpMetaData) (usageMode : SignalUsageMode)
    (state : SenderState ω) : Bool × SenderState ω :=
  if isInspectionRequiredForSource env metadata.clientIp = 0 then
    (false,
      ((state.setVerdict .irrelevant).setRes .declined).record .declined)
  else
    let (res, state) :=
      send env usageMode
        (metadataMessage metadata state.sessionData.sessionId) state
    if res = .error then
      (false, reportFailure usageMode state)
    else if res = .ok then
      (true, handleCounterNewMessageSent 1 usageMode state)
    else
      (true, state)

/-- The response code and the content length. -/
def transmitResponseInfo (message : Message) (usageMode : SignalUsageMode)
    (state : SenderState ω) : Bool × SenderState ω :=
  let (res, state) := send env usageMode message state
  if res ≠ .ok then (false, reportFailure usageMode state)
  else (true, handleCounterNewMessageSent 1 usageMode state)

/-- `MAX_HEADER_BULK_SIZE`. -/
def maxHeaderBulkSize : Nat := 10

/-- The loop of `nano_header_sender`; `none` when a bulk is not sent. -/
def sendHeaders (headerType : AttachmentDataType)
    (usageMode : SignalUsageMode) :
    List HttpHeaderData → List HttpHeaderData → Nat → SenderState ω →
      Option Nat × SenderState ω
  | [], _, bulkIndex, state => (some bulkIndex, state)
  | header :: headers, bulk, bulkIndex, state =>
      let isFinalHeader := if headers = [] then 1 else 0
      let bulk := bulk ++ [header]
      if bulk.length < maxHeaderBulkSize ∧ headers ≠ [] then
        sendHeaders headerType usageMode headers bulk bulkIndex state
      else
        let (res, state) :=
          send env usageMode
            (headerBulkMessage headerType bulk isFinalHeader
              (UInt8.ofNat bulkIndex) state.sessionData.sessionId) state
        if res ≠ .ok then (none, reportFailure usageMode state)
        else sendHeaders headerType usageMode headers [] (bulkIndex + 1) state

def transmitHeaders (headers : List HttpHeaderData)
    (headerType : AttachmentDataType) (usageMode : SignalUsageMode)
    (state : SenderState ω) : Bool × SenderState ω :=
  match sendHeaders env headerType usageMode headers [] 0 state with
  | (none, state) => (false, state)
  | (some bulkIndex, state) =>
      (true, handleCounterNewMessageSent bulkIndex usageMode state)

/-- The loop of `nano_body_sender`, whose index has eight bits and whose flag
stays set; `none` while the loop goes on. -/
def sendBodies (bodies : List NanoStr) (bodyType : AttachmentDataType)
    (usageMode : SignalUsageMode) :
    Nat → UInt8 → UInt8 → SenderState ω →
      Option (Option UInt8 × SenderState ω)
  | 0, _, _, _ => none
  | passes + 1, bodyIndex, isFinalChunk, state =>
      match bodies[bodyIndex.toNat]? with
      | none => some (some bodyIndex, state)
      | some body =>
          let isFinalChunk :=
            if bodyIndex.toNat = bodies.length - 1 then 1 else isFinalChunk
          let (res, state) :=
            send env usageMode
              (bodyChunkMessage bodyType body isFinalChunk bodyIndex
                state.sessionData.sessionId) state
          if res ≠ .ok then some (none, reportFailure usageMode state)
          else
            sendBodies bodies bodyType usageMode passes (bodyIndex + 1)
              isFinalChunk state

def transmitBody (bodies : List NanoStr) (bodyType : AttachmentDataType)
    (usageMode : SignalUsageMode) (state : SenderState ω) :
    Option (Bool × SenderState ω) :=
  match sendBodies env bodies bodyType usageMode env.passes 0 0 state with
  | none => none
  | some (none, state) => some (false, state)
  | some (some bodyIndex, state) =>
      some (true, handleCounterNewMessageSent bodyIndex.toNat usageMode state)

/-- The end of a transaction and the request of a delayed verdict; a failure
is reported in asynchronous usage only. -/
def transmitEvent (eventType : AttachmentDataType)
    (usageMode : SignalUsageMode) (state : SenderState ω) :
    Bool × SenderState ω :=
  let (res, state) :=
    send env usageMode
      (eventMessage eventType state.sessionData.sessionId) state
  if res ≠ .ok then
    (false,
      if usageMode = .async then reportFailure usageMode state else state)
  else
    (true, handleCounterNewMessageSent 1 usageMode state)

/-- What follows when all messages have been sent. -/
def afterwards (next : SenderState ω → SenderState ω) :
    Bool × SenderState ω → SenderState ω
  | (false, state) => state
  | (true, state) => next state

def nanoMetadataSender (metadata : HttpMetaData) (isVerdictRequested : Bool)
    (usageMode : SignalUsageMode) (state : SenderState ω) : SenderState ω :=
  afterwards (requestVerdict env isVerdictRequested)
    (transmitMetadata env metadata usageMode state)

def nanoSendResponseCode (responseCode : BitVec 16)
    (usageMode : SignalUsageMode) (state : SenderState ω) : SenderState ω :=
  (transmitResponseInfo env
    (responseCodeMessage responseCode state.sessionData.sessionId) usageMode
    state).2

def nanoSendResponseContentLength (contentLength : BitVec 64)
    (usageMode : SignalUsageMode) (state : SenderState ω) : SenderState ω :=
  (transmitResponseInfo env
    (contentLengthMessage contentLength state.sessionData.sessionId)
    usageMode state).2

def nanoHeaderSender (headers : List HttpHeaderData)
    (headerType : AttachmentDataType) (isVerdictRequested : Bool)
    (usageMode : SignalUsageMode) (state : SenderState ω) : SenderState ω :=
  afterwards (requestVerdict env isVerdictRequested)
    (transmitHeaders env headers headerType usageMode state)

def nanoBodySender (bodies : List NanoStr) (bodyType : AttachmentDataType)
    (isVerdictRequested : Bool) (usageMode : SignalUsageMode)
    (state : SenderState ω) : Option (SenderState ω) :=
  (transmitBody env bodies bodyType usageMode state).map
    (afterwards (requestVerdictOrOk env isVerdictRequested))

def nanoEndTransactionSender (endTransactionType : AttachmentDataType)
    (isVerdictRequested : Bool) (usageMode : SignalUsageMode)
    (state : SenderState ω) : SenderState ω :=
  afterwards (requestVerdictOrOk env isVerdictRequested)
    (transmitEvent env endTransactionType usageMode state)

def nanoRequestDelayedVerdict (isVerdictRequested : Bool)
    (usageMode : SignalUsageMode) (state : SenderState ω) : SenderState ω :=
  afterwards (requestVerdictOrOk env isVerdictRequested)
    (transmitEvent env .requestDelayedVerdict usageMode state)

end Senders

end OpenAppsec.Nano
