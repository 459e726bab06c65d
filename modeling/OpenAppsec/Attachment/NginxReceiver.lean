import OpenAppsec.Attachment.Replies
import OpenAppsec.Attachment.Senders
import OpenAppsec.Library.FueledLoop

/-!
# The reply receiver of the nginx attachment

`ngx_http_cp_reply_receiver` from the acknowledgement of the service on.  The
service sends nothing more meanwhile, so a queue that is empty stays empty.
-/

namespace OpenAppsec.Nginx

open CountedReader FueledLoop

/-- The queue that the filter mode selects, and the variables that the
receiver is given. -/
structure ReceiverState (ω : Type*) where
  queue : List Delivery
  expectedReplies : Nat
  verdict : ServiceVerdict
  inspectAllResponseHeaders : Int
  modificationList : List ModificationNode
  webResponse : ω
  currentConfigVersion : Nat

def freeDataFromService {ω : Type*} (state : ReceiverState ω) :
    ReceiverState ω :=
  { state with queue := state.queue.tail }

/-- The loop over the modifications of a reply; `none` if a node cannot be
created. -/
def appendModifications (ngxPcalloc : Nat → Bool) :
    Nat → List ModificationNode → List HttpInjectData →
      Option (List ModificationNode)
  | _, modificationList, [] => some modificationList
  | index, modificationList, modification :: modifications =>
      match createModificationNode (ngxPcalloc index) modification with
      | none => none
      | some node =>
          appendModifications ngxPcalloc (index + 1)
            (modificationList ++ [node]) modifications

section Receiver

variable {ω : Type*} (handlers : ResponseHandlers ω)
  (curSessionId : BitVec 32)

/-- The switch over the verdict and the release of the reply after it. -/
def handleVerdict (delivery : Delivery) (state : ReceiverState ω) :
    ReceiverState ω ⊕ (NgxResult × ReceiverState ω) :=
  match delivery.reply.verdict with
  | .inject =>
      match appendModifications delivery.ngxPcalloc 0 state.modificationList
          delivery.reply.injectData with
      | none => .inr (.error, { state with modificationList := [] })
      | some modificationList =>
          .inl <| freeDataFromService
            { state with modificationList, verdict := .inspect }
  | .drop =>
      .inr (.httpForbidden,
        freeDataFromService
          { state with
            webResponse :=
              handlers.handleDropResponse delivery state.webResponse
            expectedReplies := 0
            modificationList := [] })
  | .accept =>
      .inr (.ok, freeDataFromService { state with expectedReplies := 0 })
  | .reconf =>
      .inl <| freeDataFromService
        { state with currentConfigVersion := state.currentConfigVersion + 1 }
  | .limitResponseHeaders =>
      .inl <| freeDataFromService { state with inspectAllResponseHeaders := 0 }
  | .customResponse =>
      .inr (.ok,
        freeDataFromService
          { state with
            webResponse :=
              handlers.handleCustomResponse delivery state.webResponse
            expectedReplies := 0
            modificationList := [] })
  | .irrelevant | .inspect | .delayed | .other _ =>
      .inl <| freeDataFromService state

/-- One pass of the loop over the expected replies. -/
def receiveReply (state : ReceiverState ω) :
    ReceiverState ω ⊕ (NgxResult × ReceiverState ω) :=
  if state.expectedReplies = 0 then
    .inr (.ok, state)
  else
    match state.queue.head? with
    | none => .inr (.error, state)
    | some delivery =>
        let verdict := delivery.reply.verdict
        if verdict ≠ .reconf ∧ verdict ≠ .limitResponseHeaders then
          if delivery.reply.sessionId ≠ curSessionId then
            .inl <| freeDataFromService state
          else
            handleVerdict handlers delivery
              { state with
                expectedReplies := state.expectedReplies - 1
                verdict }
        else
          handleVerdict handlers delivery { state with verdict }

def ngxHttpCpReplyReceiver (state : ReceiverState ω) :
    Option (NgxResult × ReceiverState ω) :=
  if state.expectedReplies = 0 then
    some (.ok, { state with verdict := .inspect })
  else
    runLoop (receiveReply handlers curSessionId) (state.queue.length + 2)
      state

end Receiver

end OpenAppsec.Nginx
