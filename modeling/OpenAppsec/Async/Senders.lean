import OpenAppsec.Async.Context

/-!
# The senders of the asynchronous mode

They put messages of the session into the ring queue and signal the service
without waiting for a reply.
-/

namespace OpenAppsec.Async

open LengthPrefixed

open Nginx (NgxBuf HeaderLoop sendParts)

/-- How `ngx_http_cp_signal_to_service_with_timeout` ends. -/
inductive SignalResult where
  | ok
  | error
  | requestTimeOut
  deriving DecidableEq

/-- What the calls out of the module return, by their number: each
`sendChunkedData`, each signal and each `ngx_http_cp_header_modifier`.  The
slots of a message that the code does not set hold `unsetFragments`. -/
structure Environment where
  chunkSent : Nat → Bool
  signalled : Nat → SignalResult
  headerModified : Nat → Bool
  unsetFragments : List (List UInt8)

/-- The fragment at a position of the start message. -/
def metaDataFragment (request : Request) : HttpMetaDataType → List UInt8
  | .httpProtocolSize => request.httpProtocol.size
  | .httpProtocolData => request.httpProtocol.fragment
  | .httpMethodSize => request.methodName.size
  | .httpMethodData => request.methodName.fragment
  | .hostNameSize => maybeHost.size
  | .hostNameData => maybeHost.fragment
  | .listeningAddrSize => request.listeningIp.size
  | .listeningAddrData => request.listeningIp.fragment
  | .listeningPort => littleEndian 2 request.listeningPort.toNat
  | .uriSize => request.unparsedUri.size
  | .uriData => request.unparsedUri.fragment
  | .clientAddrSize => request.clientIp.size
  | .clientAddrData => request.clientIp.fragment
  | .clientPort => littleEndian 2 request.clientPort.toNat
  | .parsedHostSize => parsedHost.size
  | .parsedHostData => parsedHost.fragment
  | .parsedUriSize => parsedUri.size
  | .parsedUriData => parsedUri.fragment
  | .wafTagSize => request.wafTag.size
  | .wafTagData => request.wafTag.fragment
where
  maybeHost : NanoStr :=
    match request.hostVariable with
    | none => request.headersHost.getD []
    | some _ => []
  parsedHost : NanoStr := request.hostVariable.getD []
  parsedUri : NanoStr :=
    if List.length request.uri > 0 then request.uri else request.unparsedUri

def metaDataMessage (request : Request) : Message :=
  { chunkType := .requestStart
    fragments :=
      setFragmentsIdentifiers .requestStart request.sessionId ++
        HttpMetaDataType.all.map (metaDataFragment request) }

/-- The message for a list without headers, whose four slots for a header are
never set. -/
def emptyHeaderListMessage (env : Environment) (request : Request) :
    Message :=
  { chunkType := .requestHeader
    fragments :=
      setFragmentsIdentifiers .requestHeader request.sessionId ++
        [[1], [0]] ++ env.unsetFragments }

def bodyMessage (request : Request) (buf : NgxBuf) : Message :=
  bodyChunkMessage .requestBody buf.bytes (if buf.lastBuf then 1 else 0) 0
    request.sessionId

def endTransactionMessage (request : Request) : Message :=
  Nano.eventMessage .requestEnd request.sessionId

def waitMessage (request : Request) : Message :=
  Nano.eventMessage .requestDelayedVerdict request.sessionId

section Senders

variable (env : Environment) (request : Request)

/-- `sendChunkedData`. -/
def sendChunkedData (message : Message) (flow : Flow) : Bool × Flow :=
  let sent := env.chunkSent flow.calls
  let enqueued :=
    if sent then flow.enqueued ++ [message] else flow.enqueued
  (sent, Flow.countCall { flow with enqueued })

def signalToService (flow : Flow) : SignalResult × Flow :=
  (env.signalled flow.calls, flow.countCall)

/-- A sender of one message; a signal that times out is good enough. -/
def sendMessage (message : Message) (flow : Flow) : NgxRc × Nat × Flow :=
  let (sent, flow) := sendChunkedData env message flow
  if sent = false then (.error, 0, flow)
  else
    let (res, flow) := signalToService env flow
    if res = .error then (.error, 0, flow) else (.ok, 1, flow)

/-- `ngx_cp_async_wait_signal_sender`. -/
def waitSignalSender (flow : Flow) : NgxRc × Nat × Flow :=
  let (sent, flow) := sendChunkedData env (waitMessage request) flow
  if sent = false then (.error, 0, flow)
  else
    let (res, flow) := signalToService env flow
    match res with
    | .requestTimeOut => (.httpRequestTimeOut, 0, flow)
    | .error => (.error, 0, flow)
    | .ok => (.ok, 1, flow)

def sendMetaDataNonblocking (settings : Settings) (flow : Flow) :
    NgxRc × Nat × Flow :=
  if settings.isInspectionRequiredForSource request.clientIp = false then
    (.inspectionIrrelevant, 0, flow)
  else sendMessage env (metaDataMessage request) flow

/-- The outcome of a header bulk in the loop that both modes share. -/
def bulkOutcome (sent : Bool) : Nginx.SendOutcome :=
  { result := if sent then .ok else .error
    errCodes := [if sent then 0 else -1]
    wasWaiting := false }

/-- The bulks of a header loop that reached the ring queue. -/
def HeaderLoop.delivered (loop : HeaderLoop) : List Message :=
  (loop.sent.filter fun sending => sending.outcome.result = .ok).map
    Nginx.Sending.message

def sendHeadersNonblocking (flow : Flow) : NgxRc × Nat × Flow :=
  let (res, loop) :=
    sendParts (fun index => bulkOutcome (env.chunkSent (flow.calls + index)))
      .requestHeader request.sessionId request.headers .start
  let flow :=
    { flow with
      calls := flow.calls + loop.sent.length
      enqueued := flow.enqueued ++ HeaderLoop.delivered loop }
  if res ≠ .ok then (.error, 0, flow)
  else if loop.partCount = 0 then
    -- the counter of eight bits is back at zero after 256 headers as well
    let (sent, flow) :=
      sendChunkedData env (emptyHeaderListMessage env request) flow
    if sent = false then (.error, 0, flow)
    else
      let (res, flow) := signalToService env flow
      if res = .error then (.error, 0, flow) else (.ok, 1, flow)
  else
    let (res, flow) := signalToService env flow
    if res = .error then (.error, 0, flow)
    else (.ok, loop.numOfBulksSent, flow)

def sendEndTransactionNonblocking (flow : Flow) : NgxRc × Nat × Flow :=
  let (rc, numMessagesSent, flow) :=
    sendMessage env (endTransactionMessage request) flow
  if rc ≠ .ok then (rc, numMessagesSent, flow)
  else
    (rc, numMessagesSent,
      flow.updateCtx fun ctx => { ctx with endTransactionSent := true })

def sendSingleBodyChunkNonblocking (buf : NgxBuf) (flow : Flow) :
    NgxRc × Nat × Flow :=
  if buf.IsSent then sendMessage env (bodyMessage request buf) flow
  else (.ok, 0, flow)

/-- A change of the number of calls and of the messages only. -/
def Flow.SendsOnly (before after : Flow) : Prop :=
  ∃ calls enqueued, after = { before with calls, enqueued }

theorem sendChunkedData_sendsOnly (message : Message) (flow : Flow) :
    flow.SendsOnly (sendChunkedData env message flow).2 :=
  ⟨_, _, rfl⟩

theorem Flow.SendsOnly.signal {before after : Flow}
    (sent : before.SendsOnly after) :
    before.SendsOnly (signalToService env after).2 := by
  obtain ⟨calls, enqueued, rfl⟩ := sent
  exact ⟨_, _, rfl⟩

theorem sendMessage_sendsOnly (message : Message) (flow : Flow) :
    flow.SendsOnly (sendMessage env message flow).2.2 := by
  have sent := sendChunkedData_sendsOnly env message flow
  rw [sendMessage]
  dsimp only
  split
  · exact sent
  · split
    · exact sent.signal env
    · exact sent.signal env

theorem waitSignalSender_sendsOnly (flow : Flow) :
    flow.SendsOnly (waitSignalSender env request flow).2.2 := by
  have sent :=
    sendChunkedData_sendsOnly env (waitMessage request) flow
  rw [waitSignalSender]
  dsimp only
  split
  · exact sent
  · split
    · exact sent.signal env
    · exact sent.signal env
    · exact sent.signal env

theorem sendMetaDataNonblocking_sendsOnly (settings : Settings)
    (flow : Flow) :
    flow.SendsOnly
      (sendMetaDataNonblocking env request settings flow).2.2 := by
  rw [sendMetaDataNonblocking]
  split
  · exact ⟨_, _, rfl⟩
  · apply sendMessage_sendsOnly

theorem sendHeadersNonblocking_sendsOnly (flow : Flow) :
    flow.SendsOnly (sendHeadersNonblocking env request flow).2.2 := by
  rw [sendHeadersNonblocking]
  dsimp only
  split
  · exact ⟨_, _, rfl⟩
  · split
    · split
      · exact ⟨_, _, rfl⟩
      · split
        · exact ⟨_, _, rfl⟩
        · exact ⟨_, _, rfl⟩
    · split
      · exact ⟨_, _, rfl⟩
      · exact ⟨_, _, rfl⟩

theorem sendSingleBodyChunkNonblocking_sendsOnly (buf : NgxBuf)
    (flow : Flow) :
    flow.SendsOnly
      (sendSingleBodyChunkNonblocking env request buf flow).2.2 := by
  rw [sendSingleBodyChunkNonblocking]
  split
  · apply sendMessage_sendsOnly
  · exact ⟨_, _, rfl⟩

/-- The sender of the end also sets its flag in the context. -/
theorem sendEndTransactionNonblocking_frame (flow : Flow) :
    ∃ endTransactionSent calls enqueued,
      (sendEndTransactionNonblocking env request flow).2.2 =
        Flow.updateCtx (fun ctx => { ctx with endTransactionSent })
          { flow with calls, enqueued } := by
  obtain ⟨calls, enqueued, sent⟩ :=
    sendMessage_sendsOnly env (endTransactionMessage request) flow
  rw [sendEndTransactionNonblocking]
  dsimp only
  split
  · exact ⟨flow.ctx.endTransactionSent, calls, enqueued, sent⟩
  · refine ⟨true, calls, enqueued, ?_⟩
    dsimp only
    rw [sent]

end Senders

end OpenAppsec.Async
