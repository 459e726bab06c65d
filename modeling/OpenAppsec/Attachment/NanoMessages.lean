import OpenAppsec.Library.LengthPrefixed

/-!
# The messages of a session

A message is an array of fragments, which the ring queue concatenates.  The
first two fragments are the chunk type and the session id.
-/

namespace OpenAppsec

open LengthPrefixed

inductive AttachmentDataType where
  | requestStart
  | requestHeader
  | requestBody
  | requestEnd
  | responseCode
  | responseHeader
  | responseBody
  | responseEnd
  | contentLength
  | metricDataFromPlugin
  | requestDelayedVerdict
  deriving DecidableEq

/-- The codes count from zero in the order of the types. -/
def AttachmentDataType.code : AttachmentDataType → Nat
  | .requestStart => 0
  | .requestHeader => 1
  | .requestBody => 2
  | .requestEnd => 3
  | .responseCode => 4
  | .responseHeader => 5
  | .responseBody => 6
  | .responseEnd => 7
  | .contentLength => 8
  | .metricDataFromPlugin => 9
  | .requestDelayedVerdict => 10

structure Message where
  chunkType : AttachmentDataType
  fragments : List (List UInt8)
  deriving DecidableEq

/-- What the ring queue stores. -/
def Message.bytes (message : Message) : List UInt8 :=
  message.fragments.flatten

/-- `set_fragments_identifiers`, for the slots 0 and 1 of the array. -/
def setFragmentsIdentifiers (dataType : AttachmentDataType)
    (curRequestId : BitVec 32) : List (List UInt8) :=
  [littleEndian 2 dataType.code, littleEndian 4 curRequestId.toNat]

/-- The bytes behind the pointer of a `nano_str_t`; their number is its
`len`. -/
abbrev NanoStr := List UInt8

/-- The fragment for the low sixteen bits of `len`. -/
def NanoStr.size (str : NanoStr) : List UInt8 :=
  littleEndian 2 (List.length str)

/-- `set_fragment_elem` narrows the size of the fragment to sixteen bits. -/
def NanoStr.fragment (str : NanoStr) : List UInt8 :=
  List.take (List.length str % 65536) str

@[ext]
structure HttpMetaData where
  httpProtocol : NanoStr
  methodName : NanoStr
  host : NanoStr
  listeningIp : NanoStr
  listeningPort : BitVec 16
  uri : NanoStr
  clientIp : NanoStr
  clientPort : BitVec 16
  parsedHost : NanoStr
  parsedUri : NanoStr
  deriving DecidableEq

/-- The positions of the metadata after the identifiers. -/
inductive HttpMetaDataType where
  | httpProtocolSize
  | httpProtocolData
  | httpMethodSize
  | httpMethodData
  | hostNameSize
  | hostNameData
  | listeningAddrSize
  | listeningAddrData
  | listeningPort
  | uriSize
  | uriData
  | clientAddrSize
  | clientAddrData
  | clientPort
  | parsedHostSize
  | parsedHostData
  | parsedUriSize
  | parsedUriData
  | wafTagSize
  | wafTagData

def HttpMetaDataType.all : List HttpMetaDataType :=
  [.httpProtocolSize, .httpProtocolData, .httpMethodSize, .httpMethodData,
    .hostNameSize, .hostNameData, .listeningAddrSize, .listeningAddrData,
    .listeningPort, .uriSize, .uriData, .clientAddrSize, .clientAddrData,
    .clientPort, .parsedHostSize, .parsedHostData, .parsedUriSize,
    .parsedUriData, .wafTagSize, .wafTagData]

namespace Nano

/-- The fragment at a position; a slot that is not set is empty. -/
def metadataFragment (metadata : HttpMetaData) :
    HttpMetaDataType → List UInt8
  | .httpProtocolSize => metadata.httpProtocol.size
  | .httpProtocolData => metadata.httpProtocol.fragment
  | .httpMethodSize => metadata.methodName.size
  | .httpMethodData => metadata.methodName.fragment
  | .hostNameSize => metadata.host.size
  | .hostNameData => metadata.host.fragment
  | .listeningAddrSize => metadata.listeningIp.size
  | .listeningAddrData => metadata.listeningIp.fragment
  | .listeningPort => littleEndian 2 metadata.listeningPort.toNat
  | .uriSize => metadata.uri.size
  | .uriData => metadata.uri.fragment
  | .clientAddrSize => metadata.clientIp.size
  | .clientAddrData => metadata.clientIp.fragment
  | .clientPort => littleEndian 2 metadata.clientPort.toNat
  | .parsedHostSize =>
      if metadata.parsedHost.length > 0 then metadata.parsedHost.size else []
  | .parsedHostData =>
      if metadata.parsedHost.length > 0 then metadata.parsedHost.fragment
      else []
  | .parsedUriSize =>
      if metadata.parsedUri.length > 0 then metadata.parsedUri.size else []
  | .parsedUriData =>
      if metadata.parsedUri.length > 0 then metadata.parsedUri.fragment
      else []
  | .wafTagSize | .wafTagData => []

/-- `meta_data_count`, which starts four below the number of positions. -/
def metaDataCount (metadata : HttpMetaData) : Nat :=
  HttpMetaDataType.all.length - 4 +
    (if metadata.parsedHost.length > 0 then 2 else 0) +
    (if metadata.parsedUri.length > 0 then 2 else 0)

def metadataMessage (metadata : HttpMetaData) (curRequestId : BitVec 32) :
    Message :=
  { chunkType := .requestStart
    fragments :=
      (setFragmentsIdentifiers .requestStart curRequestId ++
        HttpMetaDataType.all.map (metadataFragment metadata)).take
          (metaDataCount metadata + 2) }

def responseCodeMessage (responseCode : BitVec 16)
    (curRequestId : BitVec 32) : Message :=
  { chunkType := .responseCode
    fragments :=
      setFragmentsIdentifiers .responseCode curRequestId ++
        [littleEndian 2 responseCode.toNat] }

def contentLengthMessage (contentLength : BitVec 64)
    (curRequestId : BitVec 32) : Message :=
  { chunkType := .contentLength
    fragments :=
      setFragmentsIdentifiers .contentLength curRequestId ++
        [littleEndian 8 contentLength.toNat] }

/-- A message of `nano_end_transaction_sender` or of
`nano_request_delayed_verdict`. -/
def eventMessage (eventType : AttachmentDataType)
    (curRequestId : BitVec 32) : Message :=
  { chunkType := eventType
    fragments := setFragmentsIdentifiers eventType curRequestId }

end Nano

structure HttpHeaderData where
  key : NanoStr
  value : NanoStr
  deriving DecidableEq

/-- `add_header_to_bulk`, for the four slots of one header. -/
def HttpHeaderData.fragments (header : HttpHeaderData) : List (List UInt8) :=
  [header.key.size, header.key.fragment, header.value.size,
    header.value.fragment]

/-- The message of `send_header_bulk`. -/
def headerBulkMessage (headerType : AttachmentDataType)
    (bulk : List HttpHeaderData) (isLastPart bulkPartIndex : UInt8)
    (curRequestId : BitVec 32) : Message :=
  { chunkType := headerType
    fragments :=
      setFragmentsIdentifiers headerType curRequestId ++
        [[isLastPart], [bulkPartIndex]] ++
        bulk.flatMap HttpHeaderData.fragments }

/-- The message of one body chunk. -/
def bodyChunkMessage (bodyType : AttachmentDataType) (body : NanoStr)
    (isFinalChunk bodyIndex : UInt8) (curRequestId : BitVec 32) : Message :=
  { chunkType := bodyType
    fragments :=
      setFragmentsIdentifiers bodyType curRequestId ++
        [[isFinalChunk], [bodyIndex], body.fragment] }

end OpenAppsec
