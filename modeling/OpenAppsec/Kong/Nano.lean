import OpenAppsec.Attachment.VerdictTable

/-!
# The kong plugin and the attachment

What the plugin keeps for a request, and the calls of the attachment that it
makes.  What a call does to the plugin's resources is logged.
-/

namespace OpenAppsec.Kong

open Nano (AttachmentVerdict NanoCommunicationResult)

/-- What the attachment allocates for a request, the responses by number. -/
inductive Token where
  | session
  | metadata
  | requestHeaders
  | responseHeaders
  | response (number : Nat)
  deriving DecidableEq

/-- How a delayed verdict is resolved: the time is over at a check, the wait
for an answer ends without one, or there is an answer, which may again be
delayed. -/
inductive Delayed where
  | late
  | silent
  | answered (verdict : AttachmentVerdict) (next : Delayed)

/-- A question that is sent without waiting: the result of the send, whether
the semaphore is posted in time, the verdict and how it is resolved if it is
delayed. -/
structure Exchange where
  sent : NanoCommunicationResult
  posted : Bool
  verdict : AttachmentVerdict
  later : Delayed

/-- A question that is answered by the call itself. -/
structure DirectAnswer where
  verdict : AttachmentVerdict
  later : Delayed

/-- What a stage of the request asks. -/
inductive Question where
  | headers (finalized : Bool) (exchange : Exchange)
  | body (exchange : Exchange)
  | bodyVariable (answer : DirectAnswer)
  | ending (raised : Bool) (exchange : Exchange)

inductive Event where
  | asked (question : Question)
  | created (token : Token)
  | used (token : Token)
  | freed (token : Token)

/-- `kong.ctx.plugin`, as far as the access phase writes it. -/
structure Ctx where
  failOpenMode : Bool
  isFinalVerdict : Bool
  blocked : Bool
  sessionFinalized : Bool
  cleanupNeeded : Bool

/-- A request in its access phase: its context, whether its session is in
`pending`, the local variables that hold resources, the number of responses so
far, and the log. -/
structure State where
  ctx : Ctx
  pending : Bool
  metaData : Option Token
  reqHeaders : Option Token
  finalResponse : Option Token
  responses : Nat
  log : List Event

/-- How a part of the access phase ends: control goes on, or jumps to the
cleanup; the handler returns; `kong.response.exit` ends the phase; or an error
is raised. -/
inductive Outcome where
  | goesOn
  | cleanup
  | returned
  | replied (code : Int)
  | raised
  deriving DecidableEq

inductive WebResponseType where
  | customWebResponse
  | customWebBlockPageResponse
  | responseCodeOnly
  | redirectWebResponse
  | noWebResponse
  deriving DecidableEq

/-- What the attachment finds in a response: its type and its code. -/
structure WebResponse where
  type : WebResponseType
  code : Int

namespace State

def note (state : State) (events : List Event) : State :=
  { state with log := state.log ++ events }

/-- Control goes on after a part that does not leave the phase. -/
def andThen (result : Outcome × State) (next : State → Outcome × State) :
    Outcome × State :=
  match result.1 with
  | .goesOn => next result.2
  | outcome => (outcome, result.2)

def use (state : State) (tokens : List Token) : State :=
  state.note (tokens.map .used)

/-- A call that frees its argument, unless it is `nil`. -/
def free (state : State) (token : Option Token) : State :=
  state.note (token.toList.map .freed)

/-- A new response. -/
def createResponse (state : State) : Token × State :=
  (.response state.responses,
    { state with
      responses := state.responses + 1
      log := state.log ++ [.created (.response state.responses)] })

def setFailOpen (state : State) : State :=
  { state with ctx := { state.ctx with failOpenMode := true } }

def setFinal (state : State) : State :=
  { state with ctx := { state.ctx with isFinalVerdict := true } }

def setBlocked (state : State) : State :=
  { state with ctx := { state.ctx with blocked := true } }

/-- `nano.free_verdict_response`. -/
def freeVerdictResponse (state : State) (response : Option Token) : State :=
  match response with
  | some response => (state.use [.session]).free (some response)
  | none => state

/-- `nano.fini_session`. -/
def finiSession (state : State) : State :=
  state.free (some .session)

end State

/-- The code of a local reply; an invalid one is replaced. -/
def replyCode (response : WebResponse) : Int :=
  match response.type with
  | .redirectWebResponse => 307
  | _ =>
      if response.code < 100 ∨ response.code > 599 then 403
      else response.code

/-- `nano.handle_custom_response` in asynchronous mode, with an attachment.  A
response that is `nil` makes `get_web_response_type` raise an error. -/
def handleCustomResponse (webResponse : WebResponse) (response : Option Token)
    (state : State) : Outcome × State :=
  match response with
  | none => (.raised, state)
  | some response =>
      let state := state.use [.session, response]
      let state := state.free state.metaData
      let state := state.free state.reqHeaders
      let state := state.freeVerdictResponse (some response)
      let state := state.finiSession
      (.replied (replyCode webResponse), { state with pending := false })

end OpenAppsec.Kong
