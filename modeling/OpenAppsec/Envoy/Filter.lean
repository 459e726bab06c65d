import OpenAppsec.Attachment.FrontEndHeaders
import OpenAppsec.Attachment.BodyModifications
import OpenAppsec.Attachment.VerdictTable
import OpenAppsec.Library.BlockLedger

/-!
# The filters of an Envoy worker

Envoy makes a filter for each stream, and calls it as the stream goes on.  All
filters of a worker write what they send into the same structs, which nobody
initialises, and `OnDestroy` releases the strings that it finds there.
-/

namespace OpenAppsec.Envoy

open FrontEndHeaders FrontEndHeaders.Envoy BlockLedger
open Nano (AttachmentVerdict NanoHttpModification filterSendBodyChunks
  injectBodyChunk)

/-- `strings.Split` with the separator `":"`. -/
def splitColon (text : String) : List String :=
  (text.toList.splitOn ':').map String.ofList

/-- `strconv.Atoi`, whose error the callers drop: 0 if the text is no number,
and the closest `int` if it is too large. -/
def atoi (text : String) : Int :=
  let (negative, digits) :=
    match text.toList with
    | '-' :: digits => (true, digits)
    | '+' :: digits => (false, digits)
    | digits => (false, digits)
  if digits = [] ∨ ¬digits.all Char.isDigit then 0
  else
    let value : Int :=
      digits.foldl (fun value digit => value * 10 + (digit.toNat - 48)) 0
    if negative then max (-2 ^ 63) (-value) else min (2 ^ 63 - 1) value

/-- `C.uint16_t`, `C.uint32_t` and `C.uint64_t`. -/
def cUint (bits : Nat) (value : Int) : Nat :=
  (value % 2 ^ bits).toNat

/-- A header map, in the order of `Range`. -/
abbrev HeaderMap := List (String × String)

/-- The first value of a header, and the empty text if there is none. -/
def HeaderMap.get (header : HeaderMap) (key : String) : String :=
  ((header.find? (·.1 = key)).map (·.2)).getD ""

structure StreamInfo where
  downstreamLocalAddress : String
  downstreamRemoteAddress : String
  protocol : String

/-- `BlockPageData`. -/
structure BlockPageData where
  responseCode : Nat
  titlePrefix : List UInt8
  title : List UInt8
  bodyPrefix : List UInt8
  body : List UInt8
  uuidPrefix : List UInt8
  uuid : List UInt8
  uuidSuffix : List UInt8

/-- The parts in the order of the page. -/
def BlockPageData.parts (page : BlockPageData) : List (List UInt8) :=
  [page.titlePrefix, page.title, page.bodyPrefix, page.body, page.uuidPrefix,
    page.uuid, page.uuidSuffix]

structure CustomResponse where
  responseCode : Nat
  headers : List (List UInt8 × List UInt8)
  body : List UInt8

/-- The types of `web_response_data`, with what the attachment gives for each:
by `GetResponseCode`, `GetBlockPage`, `GetCustomResponseWithHeaders`, which may
be NULL, and `GetRedirectPage`. -/
inductive WebResponse where
  | responseCodeOnly (responseCode : Nat)
  | customWebResponse (page : BlockPageData)
  | customResponseWithHeaders (response : Option CustomResponse)
  | other (redirectLocation : List UInt8)

/-- `AttachmentVerdictResponse`, and whether the attachment leaves the session
with a verdict, so that `IsSessionFinalized`. -/
structure Answer where
  verdict : AttachmentVerdict
  webResponseData : Option WebResponse
  modifications : List NanoHttpModification
  finalized : Bool

/-- What memory holds: nothing was written since `malloc`, `memset` was last,
or a value was. -/
inductive Field (α : Type) where
  | uninitialised
  | zeroed
  | written (value : α)
  deriving DecidableEq

def Field.map {α β : Type} (change : α → β) : Field α → Field β
  | uninitialised => uninitialised
  | zeroed => zeroed
  | written value => written (change value)

@[simp] theorem Field.map_written {α β : Type} (change : α → β) (value : α) :
    (Field.written value).map change = .written (change value) :=
  rfl

/-- A copy of a string that `C.CString` has made. -/
structure CopiedStr where
  block : Nat
  text : String

/-- `HttpMetaData`, with strings of some kind. -/
structure HttpMetaData (σ : Type) where
  httpProtocol : Field σ
  methodName : Field σ
  host : Field σ
  listeningIp : Field σ
  listeningPort : Field Nat
  uri : Field σ
  clientIp : Field σ
  clientPort : Field Nat
  parsedHost : Field σ
  parsedUri : Field σ
  deriving DecidableEq

namespace HttpMetaData

/-- Every field is alike. -/
def filled {σ : Type} (strings : Field σ) (ports : Field Nat) :
    HttpMetaData σ where
  httpProtocol := strings
  methodName := strings
  host := strings
  listeningIp := strings
  listeningPort := ports
  uri := strings
  clientIp := strings
  clientPort := ports
  parsedHost := strings
  parsedUri := strings

/-- The texts, without the places they are at. -/
def texts (metaData : HttpMetaData CopiedStr) : HttpMetaData String where
  httpProtocol := metaData.httpProtocol.map CopiedStr.text
  methodName := metaData.methodName.map CopiedStr.text
  host := metaData.host.map CopiedStr.text
  listeningIp := metaData.listeningIp.map CopiedStr.text
  listeningPort := metaData.listeningPort
  uri := metaData.uri.map CopiedStr.text
  clientIp := metaData.clientIp.map CopiedStr.text
  clientPort := metaData.clientPort
  parsedHost := metaData.parsedHost.map CopiedStr.text
  parsedUri := metaData.parsedUri.map CopiedStr.text

end HttpMetaData

/-- `filterRequestStructs`.  The pointers of `http_start_data`, `http_headers`
and `http_res_headers` are written together with their other fields:
`contains_body`, the number of headers, and the content length with the
response code. -/
structure RequestStructs where
  httpStartData : Field Bool
  httpMetaData : HttpMetaData CopiedStr
  httpHeaders : Field Nat
  httpHeadersData : Nat → Option FrontEndHeaders.HttpHeaderData
  httpResHeaders : Field (Nat × Nat)
  httpBodyData : Nat → Option (List UInt8)

/-- `initFilterStructs`. -/
def initFilterStructs : RequestStructs where
  httpStartData := .uninitialised
  httpMetaData := .filled .uninitialised .uninitialised
  httpHeaders := .uninitialised
  httpHeadersData := fun _ => none
  httpResHeaders := .uninitialised
  httpBodyData := fun _ => none

/-- `memset` covers the first element of the headers only, and the response
headers and the body not at all. -/
def RequestStructs.zeroInitialize (structs : RequestStructs) :
    RequestStructs :=
  { structs with
    httpStartData := .zeroed
    httpMetaData := .filled .zeroed .zeroed
    httpHeaders := .zeroed
    httpHeadersData := Function.update structs.httpHeadersData 0 none }

/-- The structs, the blocks of C strings, and how often a pointer was released
that nobody had written. -/
structure Memory where
  structs : RequestStructs
  ledger : Ledger
  wildReleases : Nat

def Memory.start : Memory where
  structs := initFilterStructs
  ledger := { fresh := 0, live := [], faults := [] }
  wildReleases := 0

/-- `createNanoStr`. -/
def createNanoStr (text : String) (ledger : Ledger) :
    Field CopiedStr × Ledger :=
  (.written { block := ledger.fresh, text }, ledger.alloc)

/-- `freeNanoStr`; NULL is released without effect. -/
def Memory.freeNanoStr (memory : Memory) : Field CopiedStr → Memory
  | .uninitialised => { memory with wildReleases := memory.wildReleases + 1 }
  | .zeroed => memory
  | .written text =>
      { memory with ledger := memory.ledger.release (.start text.block) }

def Memory.freeHttpMetaDataFields (memory : Memory) : Memory :=
  let metaData := memory.structs.httpMetaData
  [metaData.httpProtocol, metaData.methodName, metaData.host,
    metaData.listeningIp, metaData.uri, metaData.clientIp].foldl
      Memory.freeNanoStr memory

inductive ChunkType where
  | httpRequestFilter
  | httpRequestBody
  | httpRequestEnd
  | httpResponseHeader
  | httpResponseBody
  | httpResponseEnd
  deriving DecidableEq

/-- The `data` of a message; the attachment reads the structs behind it. -/
inductive DataBuffer where
  | startData
  | resHeaders
  | body (bodiesCount : Nat)
  | null

/-- The elements of the header array that are read. -/
abbrev SentHeaders := Field (List (Option FrontEndHeaders.HttpHeaderData))

/-- What the attachment reads of a message. -/
inductive Payload where
  | start (containsBody : Field Bool) (metaData : HttpMetaData String)
      (headers : SentHeaders)
  | response (lengthAndCode : Field (Nat × Nat))
      (headers : SentHeaders)
  | body (chunks : List (Option (List UInt8)))
  | nothing
  deriving DecidableEq

structure Message where
  sessionId : Nat
  chunkType : ChunkType
  payload : Payload
  deriving DecidableEq

namespace RequestStructs

def readHeaders (structs : RequestStructs) : SentHeaders :=
  structs.httpHeaders.map fun count =>
    (List.range count).map structs.httpHeadersData

def read (structs : RequestStructs) : DataBuffer → Payload
  | .startData =>
      .start structs.httpStartData structs.httpMetaData.texts
        structs.readHeaders
  | .resHeaders => .response structs.httpResHeaders structs.readHeaders
  | .body bodiesCount =>
      .body ((List.range bodiesCount).map structs.httpBodyData)
  | .null => .nothing

/-- `handleHeaders` of a filter: the elements from the last use stay where no
new one is written. -/
def handleHeaders (header : HeaderMap) (structs : RequestStructs) :
    RequestStructs :=
  let headers := header.foldl handleHeader
    { places := structs.httpHeadersData, count := 0 }
  { structs with
    httpHeadersData := headers.places
    httpHeaders := .written headers.count }

/-- The loop of `sendBody`. -/
def setBody (chunks : List (List UInt8)) (structs : RequestStructs) :
    RequestStructs :=
  { structs with
    httpBodyData := fun place =>
      if place < chunks.length then chunks[place]?
      else structs.httpBodyData place }

end RequestStructs

/-- The numbers that `api.StatusType` gives the outcomes: `zero` is what a
callback returns whose panic is recovered, as its result has no name. -/
inductive StatusType where
  | zero
  | localReply
  | goOn
  deriving DecidableEq

/-- The arguments of `SendLocalReply`. -/
structure LocalReply where
  retCode : Nat
  customResponse : List UInt8
  headers : List (List UInt8 × List UInt8)
  deriving DecidableEq

/-- `filter`, with the part of its session data that is read here. -/
structure Filter where
  sessionId : Nat
  finalized : Bool
  bodyBufferChunk : Nat
  deriving DecidableEq

/-- What a callback has come to. -/
structure Report where
  status : StatusType
  messages : List Message
  reply : Option LocalReply
  /-- The buffer that Envoy goes on with. -/
  buffer : List UInt8
  deriving DecidableEq

/-- `copyToSlice`: the address `&dest[location]` panics at the end. -/
def copyToSlice (dest src : List UInt8) (location : Nat) :
    Option (List UInt8 × Nat) :=
  if location < dest.length then
    some (dest.take location ++ src ++ dest.drop (location + src.length),
      location + src.length)
  else none

def convertBlockPageToString (page : BlockPageData) :
    Option (List UInt8) :=
  let blockPageSize := (page.parts.map List.length).sum
  let blockPageBytes : List UInt8 := List.replicate blockPageSize 0
  let copied := page.parts.foldlM
    (fun (dest, location) part => copyToSlice dest part location)
    (blockPageBytes, 0)
  copied.map Prod.fst

/-- The ASCII bytes of a text of the source. -/
def bytes (text : String) : List UInt8 :=
  text.toList.map fun letter => UInt8.ofNat letter.toNat

/-- An assignment to a map from header names. -/
def setHeader (headers : List (List UInt8 × List UInt8))
    (header : List UInt8 × List UInt8) : List (List UInt8 × List UInt8) :=
  headers.filter (·.1 ≠ header.1) ++ [header]

def handleCustomResponseWithHeaders (response : Option CustomResponse) :
    LocalReply :=
  match response with
  | none =>
      { retCode := 500
        customResponse := bytes "Internal Server Error"
        headers := [] }
  | some response =>
      { retCode := response.responseCode
        customResponse := response.body
        headers := response.headers.foldl setHeader [] }

/-- `finalizeRequest` and `handleCustomResponse`: the local reply for a drop,
or `none` if they panic. -/
def dropReply (answer : Answer) : Option LocalReply :=
  match answer.webResponseData with
  | none => none
  | some (.customResponseWithHeaders response) =>
      some (handleCustomResponseWithHeaders response)
  | some (.responseCodeOnly responseCode) =>
      some { retCode := responseCode, customResponse := [], headers := [] }
  | some (.customWebResponse page) => do
      let customResponse ← convertBlockPageToString page
      some
        { retCode := page.responseCode
          customResponse
          headers := [(bytes "Content-Type", bytes "text/html")] }
  | some (.other redirectLocation) =>
      some
        { retCode := 307
          customResponse := []
          headers := [(bytes "Location", redirectLocation)] }

def finalizeRequest (answer : Answer) : StatusType × Option LocalReply :=
  if answer.verdict = .drop then
    match dropReply answer with
    | none => (.zero, none)
    | some reply => (.localReply, some reply)
  else (.goOn, none)

/-- A callback on its way: the memory, the filter and the messages so far. -/
structure Call where
  memory : Memory
  filter : Filter
  messages : List Message

namespace Call

def write (call : Call) (change : RequestStructs → RequestStructs) : Call :=
  { call with
    memory :=
      { call.memory with structs := change call.memory.structs } }

def sendData (call : Call) (data : DataBuffer) (chunkType : ChunkType)
    (answer : Answer) : Call :=
  let message : Message :=
    { sessionId := cUint 32 call.filter.sessionId
      chunkType
      payload := call.memory.structs.read data }
  { call with
    filter := { call.filter with finalized := answer.finalized }
    messages := call.messages ++ [message] }

/-- A callback comes back. -/
def back (call : Call) (buffer : List UInt8)
    (ending : StatusType × Option LocalReply) :
    Report × Memory × Filter :=
  ({ status := ending.1
     messages := call.messages
     reply := ending.2
     buffer }, call.memory, call.filter)

/-- `endInspectionPart`, which ends a callback. -/
def endInspectionPart (call : Call) (buffer : List UInt8)
    (chunkType : ChunkType) (answer : Answer) : Report × Memory × Filter :=
  let call := call.sendData .null chunkType answer
  if answer.verdict ≠ .inspect then call.back buffer (finalizeRequest answer)
  else call.back buffer (.goOn, none)

/-- What a callback does after its first message, `last` being the type of the
message that ends this part of the stream, if it ends. -/
def afterSend (call : Call) (buffer : List UInt8) (answer : Answer)
    (last : Option ChunkType) (lastAnswer : Answer) :
    Report × Memory × Filter :=
  if answer.verdict ≠ .inspect then call.back buffer (finalizeRequest answer)
  else
    match last with
    | some chunkType => call.endInspectionPart buffer chunkType lastAnswer
    | none => call.back buffer (.goOn, none)

/-- `sendBody`. -/
def sendBody (call : Call) (data : List UInt8) (chunkType : ChunkType)
    (answer : Answer) : Call :=
  let chunks := filterSendBodyChunks data
  (call.write (·.setBody chunks)).sendData (.body chunks.length) chunkType
    answer

/-- `handleStartTransaction`; `none` if an address has no port. -/
def handleStartTransaction (call : Call) (streamInfo : StreamInfo)
    (header : HeaderMap) : Option Call := do
  let listening := splitColon streamInfo.downstreamLocalAddress
  let listeningPort ← listening[1]?
  let client := splitColon streamInfo.downstreamRemoteAddress
  let clientPort ← client[1]?
  let host := (splitColon (header.get ":authority")).headD ""
  let ledger := call.memory.ledger
  let (httpProtocol, ledger) := createNanoStr streamInfo.protocol ledger
  let (methodName, ledger) := createNanoStr (header.get ":method") ledger
  let (host, ledger) := createNanoStr host ledger
  let (listeningIp, ledger) := createNanoStr (listening.headD "") ledger
  let (uri, ledger) := createNanoStr (header.get ":path") ledger
  let (clientIp, ledger) := createNanoStr (client.headD "") ledger
  let metaData : HttpMetaData CopiedStr :=
    { call.memory.structs.httpMetaData with
      httpProtocol, methodName, host, listeningIp
      listeningPort := .written (cUint 16 (atoi listeningPort))
      uri, clientIp
      clientPort := .written (cUint 16 (atoi clientPort)) }
  some { call with
    memory :=
      { call.memory with
        ledger
        structs :=
          { call.memory.structs with httpMetaData := metaData } } }

end Call

inductive Callback where
  | decodeHeaders (streamInfo : StreamInfo) (header : HeaderMap)
      (endStream : Bool) (answer : Answer)
  | decodeData (buffer : List UInt8) (endStream : Bool)
      (answer lastAnswer : Answer)
  | encodeHeaders (header : HeaderMap) (endStream : Bool)
      (answer lastAnswer : Answer)
  | encodeData (buffer : List UInt8) (endStream : Bool)
      (answer lastAnswer : Answer)

/-- The buffer that a callback is given. -/
def Callback.buffer : Callback → List UInt8
  | decodeData buffer _ _ _ => buffer
  | encodeData buffer _ _ _ => buffer
  | _ => []

namespace Call

def decodeHeaders (call : Call) (streamInfo : StreamInfo)
    (header : HeaderMap) (endStream : Bool) (answer : Answer) :
    Report × Memory × Filter :=
  match call.handleStartTransaction streamInfo header with
  | none => call.back [] (.zero, none)
  | some call =>
      let call := call.write (·.handleHeaders header)
      let call := call.write fun structs =>
        { structs with httpStartData := .written !endStream }
      (call.sendData .startData .httpRequestFilter answer).afterSend []
        answer none answer

def decodeData (call : Call) (buffer : List UInt8) (endStream : Bool)
    (answer lastAnswer : Answer) : Report × Memory × Filter :=
  if endStream ∧ buffer = [] then
    call.endInspectionPart buffer .httpRequestEnd lastAnswer
  else if buffer = [] then call.back buffer (.goOn, none)
  else
    (call.sendBody buffer .httpRequestBody answer).afterSend buffer answer
      (if endStream then some .httpRequestEnd else none) lastAnswer

def encodeHeaders (call : Call) (header : HeaderMap) (endStream : Bool)
    (answer lastAnswer : Answer) : Report × Memory × Filter :=
  let contentLength := cUint 64 (atoi (header.get "content-length"))
  let statusCode := cUint 16 (atoi (header.get ":status"))
  let call := call.write (·.handleHeaders header)
  let call := call.write fun structs =>
    { structs with httpResHeaders := .written (contentLength, statusCode) }
  (call.sendData .resHeaders .httpResponseHeader answer).afterSend [] answer
    (if endStream then some .httpResponseEnd else none) lastAnswer

def encodeData (call : Call) (buffer : List UInt8) (endStream : Bool)
    (answer lastAnswer : Answer) : Report × Memory × Filter :=
  if endStream ∧ buffer = [] then
    call.endInspectionPart buffer .httpResponseEnd lastAnswer
  else if buffer = [] then call.back buffer (.goOn, none)
  else
    let call := call.sendBody buffer .httpResponseBody answer
    let chunk := call.filter.bodyBufferChunk
    let buffer := injectBodyChunk answer.modifications chunk buffer
    let call :=
      { call with
        filter := { call.filter with bodyBufferChunk := chunk + 1 } }
    call.afterSend buffer answer
      (if endStream then some .httpResponseEnd else none) lastAnswer

/-- A callback of a filter, which is over at once if the session has its
verdict. -/
def callback (call : Call) (callback : Callback) :
    Report × Memory × Filter :=
  if call.filter.finalized then call.back callback.buffer (.goOn, none)
  else
    match callback with
    | .decodeHeaders streamInfo header endStream answer =>
        call.decodeHeaders streamInfo header endStream answer
    | .decodeData buffer endStream answer lastAnswer =>
        call.decodeData buffer endStream answer lastAnswer
    | .encodeHeaders header endStream answer lastAnswer =>
        call.encodeHeaders header endStream answer lastAnswer
    | .encodeData buffer endStream answer lastAnswer =>
        call.encodeData buffer endStream answer lastAnswer

end Call

/-- The memory of a worker and the filters of its streams. -/
structure Worker where
  memory : Memory
  filters : Nat → Option Filter

def Worker.start : Worker where
  memory := .start
  filters := fun _ => none

/-- What Envoy does to the stream of a session. -/
inductive StreamCall where
  | create
  | callback (callback : Callback)
  | onDestroy

/-- The filter that `ConfigFactory` makes with a session id. -/
def newFilter (sessionId : Nat) : Filter where
  sessionId
  finalized := false
  bodyBufferChunk := 0

/-- `OnDestroy`. -/
def Memory.onDestroy (memory : Memory) : Memory :=
  let memory := memory.freeHttpMetaDataFields
  { memory with structs := memory.structs.zeroInitialize }

/-- One call for the stream of a session; Envoy makes none for a stream that
is not there. -/
def Worker.step (worker : Worker) (input : Nat × StreamCall) :
    Option Report × Worker :=
  match input.2, worker.filters input.1 with
  | .create, _ =>
      (none,
        { worker with
          filters := Function.update worker.filters input.1
            (some (newFilter input.1)) })
  | .callback callback, some filter =>
      let (report, memory, filter) :=
        ({ memory := worker.memory, filter, messages := [] } : Call).callback
          callback
      (some report,
        { memory
          filters := Function.update worker.filters input.1 (some filter) })
  | .onDestroy, some _ =>
      (none,
        { memory := worker.memory.onDestroy
          filters := Function.update worker.filters input.1 none })
  | _, none => (none, worker)

end OpenAppsec.Envoy
