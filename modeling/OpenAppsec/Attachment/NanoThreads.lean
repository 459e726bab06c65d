import OpenAppsec.Attachment.Transmissions

/-!
# The threads of the nano attachment

The routines that the synchronous operations run, each on the context that
`init_thread_ctx` prepares.
-/

namespace OpenAppsec.Nano

structure ResHttpHeaders where
  headers : List HttpHeaderData
  responseCode : BitVec 16
  contentLength : BitVec 64

section Threads

variable {ω : Type*}

def initThreadCtx (state : SenderState ω) : SenderState ω :=
  state.initCtx

variable (env : Environment ω)

def sendRequestFilterThread (metadata : HttpMetaData)
    (headers : List HttpHeaderData) (containsBody : Bool)
    (state : SenderState ω) : SenderState ω :=
  let state := nanoMetadataSender env metadata false .sync state
  let state := nanoHeaderSender env headers .requestHeader false .sync state
  if containsBody then state
  else nanoEndTransactionSender env .requestEnd true .sync state

def sendMetadataThread (metadata : HttpMetaData) (state : SenderState ω) :
    SenderState ω :=
  nanoMetadataSender env metadata false .sync state

def sendRequestHeadersThread (headers : List HttpHeaderData)
    (state : SenderState ω) : SenderState ω :=
  nanoHeaderSender env headers .requestHeader false .sync state

/-- `set_response_content_encoding` writes the compression type of the
response only. -/
def sendResponseHeadersThread (headers : ResHttpHeaders)
    (state : SenderState ω) : SenderState ω :=
  let state := nanoSendResponseCode env headers.responseCode .sync state
  let state :=
    nanoSendResponseContentLength env headers.contentLength .sync state
  nanoHeaderSender env headers.headers .responseHeader true .sync state

def sendRequestBodyThread (bodies : List NanoStr) (state : SenderState ω) :
    Option (SenderState ω) :=
  nanoBodySender env bodies .requestBody true .sync state

def sendResponseBodyThread (bodies : List NanoStr) (state : SenderState ω) :
    Option (SenderState ω) :=
  nanoBodySender env bodies .responseBody true .sync state

def sendRequestEndThread (state : SenderState ω) : SenderState ω :=
  nanoEndTransactionSender env .requestEnd true .sync state

def sendResponseEndThread (state : SenderState ω) : SenderState ω :=
  nanoEndTransactionSender env .responseEnd true .sync state

def sendDelayedVerdictRequestThread (state : SenderState ω) :
    SenderState ω :=
  nanoRequestDelayedVerdict env true .sync state

end Threads

end OpenAppsec.Nano
