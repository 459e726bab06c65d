import OpenAppsec.Attachment.NanoMessages
import OpenAppsec.Attachment.Senders

/-!
# The header and body senders of the nginx attachment

Headers come as a list of parts, bodies as chains of buffers.  What
`ngx_http_cp_send_data_to_service` meets for each message is an input; the
senders remember their messages with the outcomes.
-/

namespace OpenAppsec.Nginx

/-- A message with the outcome of handing it over. -/
structure Sending where
  message : Message
  outcome : SendOutcome

/-- `max_bulk_size`. -/
def maxBulkSize : Nat := 10

/-- The variables of `ngx_http_cp_header_sender`; `idx_in_bulk` is the length
of the bulk, and `num_of_bulks_sent` counts the sent bulks. -/
structure HeaderLoop where
  bulk : List HttpHeaderData
  partCount : UInt8
  bulkPartIdx : UInt8
  numOfBulksSent : Nat
  sent : List Sending

def HeaderLoop.start : HeaderLoop :=
  { bulk := [], partCount := 0, bulkPartIdx := 0, numOfBulksSent := 0
    sent := [] }

section Headers

variable (transport : Nat → SendOutcome)

/-- `send_header_bulk`. -/
def sendHeaderBulk (headerType : AttachmentDataType)
    (bulk : List HttpHeaderData) (isLastPart bulkPartIndex : UInt8)
    (curRequestId : BitVec 32) (state : HeaderLoop) : NgxResult × HeaderLoop :=
  let message :=
    headerBulkMessage headerType bulk isLastPart bulkPartIndex curRequestId
  let outcome := transport state.sent.length
  let state := { state with sent := state.sent ++ [⟨message, outcome⟩] }
  if outcome.result ≠ .ok then (.error, state)
  else (.ok, { state with numOfBulksSent := state.numOfBulksSent + 1 })

/-- `send_empty_header_list`. -/
def sendEmptyHeaderList (headerType : AttachmentDataType)
    (curRequestId : BitVec 32) (state : HeaderLoop) : NgxResult × HeaderLoop :=
  sendHeaderBulk transport headerType [{ key := [], value := [] }] 1 0
    curRequestId state

/-- The loop over the headers of a part. -/
def sendPart (headerType : AttachmentDataType) (curRequestId : BitVec 32)
    (noNext : Bool) :
    List HttpHeaderData → HeaderLoop → NgxResult × HeaderLoop
  | [], state => (.ok, state)
  | header :: headers, state =>
      let isLastPart := noNext && headers.isEmpty
      let state :=
        { state with
          bulk := state.bulk ++ [header]
          partCount := state.partCount + 1 }
      if state.bulk.length < maxBulkSize ∧ isLastPart = false then
        sendPart headerType curRequestId noNext headers state
      else
        let (res, state) :=
          sendHeaderBulk transport headerType state.bulk
            (if isLastPart then 1 else 0) state.bulkPartIdx curRequestId state
        if res ≠ .ok then (.error, state)
        else if isLastPart then (.ok, state)
        else
          sendPart headerType curRequestId noNext headers
            { state with bulk := [], bulkPartIdx := state.partCount }

/-- The loop over the parts. -/
def sendParts (headerType : AttachmentDataType) (curRequestId : BitVec 32) :
    List (List HttpHeaderData) → HeaderLoop → NgxResult × HeaderLoop
  | [], state => (.ok, state)
  | part :: parts, state =>
      let (res, state) :=
        sendPart transport headerType curRequestId parts.isEmpty part state
      if res ≠ .ok then (.error, state)
      else sendParts headerType curRequestId parts state

def ngxHttpCpHeaderSender (headersList : List (List HttpHeaderData))
    (headerType : AttachmentDataType) (curRequestId : BitVec 32) :
    NgxResult × HeaderLoop :=
  let (res, state) :=
    sendParts transport headerType curRequestId headersList .start
  if res ≠ .ok then (.error, state)
  else if state.partCount = 0 ∧ headerType = .responseHeader then
    let (res, state) :=
      sendEmptyHeaderList transport headerType curRequestId state
    if res ≠ .ok then (.error, state) else (.ok, state)
  else (.ok, state)

end Headers

/-- A buffer: the bytes from `pos` to `last`, and `last_buf`. -/
structure NgxBuf where
  bytes : NanoStr
  lastBuf : Bool
  deriving DecidableEq

/-- The variables of `ngx_http_cp_body_sender`, and the messages of the
session so far. -/
structure BodyLoop where
  partCount : UInt8
  isLastChunk : Bool
  isEmptyChain : Bool
  numPartsSent : Nat
  chunksProcessed : Nat
  sent : List Sending

def BodyLoop.start (partCount : UInt8) (sent : List Sending) : BodyLoop :=
  { partCount
    isLastChunk := false
    isEmptyChain := true
    numPartsSent := 0
    chunksProcessed := 0
    sent }

/-- `max_chunks_to_process`. -/
def maxChunksToProcess (bodyType : AttachmentDataType) : Nat :=
  if bodyType = .responseBody then 1 else 2 ^ 31 - 1

/-- A buffer that is sent: it is not empty, or it is the last one. -/
def NgxBuf.IsSent (buf : NgxBuf) : Prop :=
  0 < List.length buf.bytes ∨ buf.lastBuf = true

instance (buf : NgxBuf) : Decidable buf.IsSent :=
  inferInstanceAs (Decidable (_ ∨ _))

section Bodies

variable (transport : Nat → SendOutcome) (bodyType : AttachmentDataType)
  (sessionId : BitVec 32)

/-- The loop over a chain, with the links that are left when it stops; `none`
when a chunk is not sent. -/
def sendChain :
    List NgxBuf → BodyLoop → Option (List NgxBuf) × BodyLoop
  | [], state => (some [], state)
  | buf :: chain, state =>
      if state.chunksProcessed < maxChunksToProcess bodyType then
        let state := { state with isLastChunk := buf.lastBuf }
        if buf.IsSent then
          let message :=
            bodyChunkMessage bodyType buf.bytes
              (if buf.lastBuf then 1 else 0) state.partCount sessionId
          let outcome := transport state.sent.length
          let state := { state with sent := state.sent ++ [⟨message, outcome⟩] }
          if outcome.result ≠ .ok then (none, state)
          else
            let state :=
              { state with
                numPartsSent := state.numPartsSent + 1
                isEmptyChain := false
                chunksProcessed := state.chunksProcessed + 1
                partCount := state.partCount + 1 }
            -- the loop stops at the link whose chunk has just been sent
            if outcome.wasWaiting then (some (buf :: chain), state)
            else sendChain chain state
        else sendChain chain { state with partCount := state.partCount + 1 }
      else (some (buf :: chain), state)

/-- `ngx_http_cp_body_sender`: the next element to inspect, or `none` for
`NGX_ERROR`, and the variables at its end. -/
def ngxHttpCpBodySender (input : List NgxBuf) (partNumber : Nat)
    (sent : List Sending) : Option (List NgxBuf) × BodyLoop :=
  let partCount :=
    if bodyType = .responseBody then UInt8.ofNat partNumber else 0
  let (nextElemToInspect, state) :=
    sendChain transport bodyType sessionId input (.start partCount sent)
  if state.isEmptyChain = false ∧ state.numPartsSent = 0 then
    (none, state)
  else (nextElemToInspect, state)

/-- The loop of the request and response body filters: as many threads as the
chain has elements, while there is something left to inspect.  The result
tells whether all of the chain has been inspected. -/
def inspectChain :
    List NgxBuf → List NgxBuf → Nat → List Sending → Bool × List Sending
  | _, [], _, sent => (true, sent)
  | [], _ :: _, _, sent => (false, sent)
  | _ :: chainElems, chain, chainPartNumber, sent =>
      match ngxHttpCpBodySender transport bodyType sessionId chain
          chainPartNumber sent with
      | (none, state) => (false, state.sent)
      | (some next, state) =>
          inspectChain chainElems next (chainPartNumber + 1) state.sent

/-- The chains that a body filter is given for one session, which stays under
inspection as long as every chain is inspected completely. -/
def inspectChains : List (List NgxBuf) → List Sending → Bool × List Sending
  | [], sent => (true, sent)
  | chain :: chains, sent =>
      match inspectChain transport bodyType sessionId chain chain 0 sent with
      | (false, sent) => (false, sent)
      | (true, sent) => inspectChains chains sent

end Bodies

end OpenAppsec.Nginx
