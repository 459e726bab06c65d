import OpenAppsec.Attachment.Transmissions

/-!
# The asynchronous senders of the nano attachment

Each operation runs one message sender without waiting for replies, then
signals the service.  A failed operation leaves the id of its session in the
queue of failed sessions.
-/

namespace OpenAppsec.Nano

structure HttpRequestFilterData where
  metaData : Option HttpMetaData
  reqHeaders : Option (List HttpHeaderData)
  containsBody : Bool

section Operations

variable {ω : Type*}

variable (env : Environment ω)

/-- What every operation does after its sender. -/
def signalAfterSender (state : SenderState ω) :
    NanoCommunicationResult × SenderState ω :=
  if state.res ≠ .ok then (state.res, state.addFailedSession)
  else
    let signalRes :=
      signalForSessionData state.sessionData.sessionId.toNat .async
        (env.signal state.signalsSent)
    let state := state.record (.signalled signalRes)
    if signalRes ≠ .ok then (signalRes, state.addFailedSession)
    else (state.res, state)

def sendMetadataAsyncImpl (metadata : Option HttpMetaData)
    (state : SenderState ω) : NanoCommunicationResult × SenderState ω :=
  match metadata with
  | none => (.error, state)
  | some metadata =>
      signalAfterSender env
        (nanoMetadataSender env metadata false .async state.initCtx)

def sendRequestHeadersAsyncImpl (headers : Option (List HttpHeaderData))
    (state : SenderState ω) : NanoCommunicationResult × SenderState ω :=
  match headers with
  | none => (.error, state)
  | some headers =>
      signalAfterSender env
        (nanoHeaderSender env headers .requestHeader false .async
          state.initCtx)

/-- `none` when the body sender does not return. -/
def sendRequestBodyAsyncImpl (bodies : Option (List NanoStr))
    (state : SenderState ω) :
    Option (NanoCommunicationResult × SenderState ω) :=
  match bodies with
  | none => some (.error, state)
  | some bodies =>
      (nanoBodySender env bodies .requestBody false .async
        state.initCtx).map (signalAfterSender env)

def sendRequestEndAsyncImpl (state : SenderState ω) :
    NanoCommunicationResult × SenderState ω :=
  signalAfterSender env
    (nanoEndTransactionSender env .requestEnd false .async state.initCtx)

def sendDelayedVerdictRequestAsyncImpl (state : SenderState ω) :
    NanoCommunicationResult × SenderState ω :=
  signalAfterSender env
    (nanoRequestDelayedVerdict env false .async state.initCtx)

/-- The next operation of the request filter, unless one has failed. -/
def continueIfOk
    (next : SenderState ω → NanoCommunicationResult × SenderState ω) :
    NanoCommunicationResult × SenderState ω →
      NanoCommunicationResult × SenderState ω
  | (res, state) => if res ≠ .ok then (res, state) else next state

def sendRequestFilterAsyncImpl (startData : HttpRequestFilterData)
    (state : SenderState ω) : NanoCommunicationResult × SenderState ω :=
  let sendEnd (state : SenderState ω) :=
    if startData.containsBody then (.ok, state)
    else continueIfOk (fun state => (.ok, state))
      (sendRequestEndAsyncImpl env state)
  let sendHeaders (state : SenderState ω) :=
    match startData.reqHeaders with
    | none => sendEnd state
    | some headers =>
        continueIfOk sendEnd
          (sendRequestHeadersAsyncImpl env (some headers) state)
  match startData.metaData with
  | none => sendHeaders state
  | some metadata =>
      continueIfOk sendHeaders
        (sendMetadataAsyncImpl env (some metadata) state)

variable {env}

/-- A failed sender leaves another entry for its session. -/
theorem signalAfterSender_of_failed {sent : SenderState ω}
    (failed : sent.res ≠ .ok) :
    signalAfterSender env sent = (sent.res, sent.addFailedSession) := by
  rw [signalAfterSender, if_pos failed]

variable (env) in
/-- After a successful sender the signal decides. -/
theorem signalAfterSender_of_succeeded {sent : SenderState ω}
    (succeeded : sent.res = .ok) :
    let signalRes :=
      signalForSessionData sent.sessionData.sessionId.toNat .async
        (env.signal sent.signalsSent)
    (signalAfterSender env sent).1 = signalRes ∧
      (signalAfterSender env sent).2.events =
        sent.events ++ [.signalled signalRes] ∧
      (signalAfterSender env sent).2.sessionData = sent.sessionData := by
  dsimp only
  rw [signalAfterSender, if_neg (not_not.mpr succeeded)]
  dsimp only
  split
  · exact ⟨rfl, rfl, rfl⟩
  · rename_i signalled
    exact ⟨succeeded.trans (not_not.mp signalled).symm, rfl, rfl⟩

end Operations

end OpenAppsec.Nano
