import OpenAppsec.Kong.VerdictHandler

/-!
# The asynchronous access phase of the kong plugin

A request asks about its headers, its body and its end, one question after the
other.  An answer that blocks the request, or a failure when the fail mode is
to block, obliges the plugin to end the phase with a local reply.
-/

namespace OpenAppsec.Kong

open Nano (AttachmentVerdict NanoCommunicationResult)

/-- Where the body of a request is found. -/
inductive RequestBody where
  | raw (exchange : Exchange)
  | inVariable (answer : DirectAnswer)
  | inFile (opened : Bool) (chunks : List FileChunk) (late : Bool)
  | missing

/-- A request, with all that the service and the clock do to it: the response
that a block finds, the session is finalized after the headers, the body that
the request announces, the end of the inspection raises an error. -/
structure Request where
  webResponse : WebResponse
  headers : Exchange
  sessionFinalized : Bool
  body : Option RequestBody
  endRaised : Bool
  ending : Exchange

section Access

variable (failModeVerdict : Int) (webResponse : WebResponse)

/-- A block, after which the locals with the resources are set to `nil`. -/
def blockRequest (response : Option Token) (state : State) :
    Outcome × State :=
  State.andThen (handleDropVerdict webResponse response state) fun state =>
    (.cleanup, { state with metaData := none, reqHeaders := none })

/-- The branches on a verdict, with the release of its response. -/
def enforceVerdict (verdict : AttachmentVerdict) (response : Option Token)
    (state : State) : Outcome × State :=
  if verdict = .drop then
    blockRequest webResponse response
      { state.setFinal with finalResponse := response }
  else
    let state := if verdict = .accept then state.setFinal else state
    (.goesOn, state.freeVerdictResponse response)

/-- A verdict that is followed while it is delayed, and then enforced. -/
def followAndEnforce (later : Delayed) (verdict : AttachmentVerdict)
    (response : Option Reply) (state : State) : Outcome × State :=
  match handleDelayedVerdict later verdict response state with
  | ((none, _), state) =>
      let state := state.finiSession
      let state :=
        { state with ctx := { state.ctx with sessionFinalized := true } }
      (.cleanup, state.setFailOpen)
  | ((some verdict, response), state) =>
      enforceVerdict webResponse verdict (response.bind Reply.token) state

/-- The stage of the headers. -/
def inspectHeaders (request : Request) (state : State) : Outcome × State :=
  let state := state.note
    [.used .session, .used .metadata, .used .requestHeaders,
      .asked (.headers request.sessionFinalized request.headers)]
  if request.headers.sent ≠ .ok then (.cleanup, state.setFailOpen)
  else
    match waitForVerdictAsync failModeVerdict request.headers state with
    | ((none, reply), state) =>
        let state := state.setFailOpen
        if reply = some .blocked then
          blockRequest request.webResponse none state.setFinal
        else (.cleanup, state)
    | ((some verdict, reply), state) =>
        let state := state.use [.session]
        let state := { state with
          ctx := { state.ctx with
            sessionFinalized := request.sessionFinalized } }
        if request.sessionFinalized then (.returned, state)
        else
          enforceVerdict request.webResponse verdict
            (reply.bind Reply.token) state

/-- The stage of a body in memory. -/
def inspectRawBody (exchange : Exchange) (state : State) : Outcome × State :=
  let state := state.note [.used .session, .asked (.body exchange)]
  if exchange.sent ≠ .ok then (.cleanup, state.setFailOpen)
  else
    match waitForVerdictAsync failModeVerdict exchange state with
    | ((none, reply), state) =>
        let state := state.setFailOpen
        if reply = some .blocked then
          blockRequest webResponse none state.setFinal
        else (.cleanup, state)
    | ((some verdict, reply), state) =>
        followAndEnforce webResponse exchange.later verdict reply state

/-- The stage of a body in a variable; `send_body` gives the verdict. -/
def inspectBodyVariable (answer : DirectAnswer) (state : State) :
    Outcome × State :=
  let state := state.note [.used .session, .asked (.bodyVariable answer)]
  let (response, state) := state.createResponse
  enforceVerdict webResponse answer.verdict (some response) state

/-- The stage of a body in a file. -/
def inspectBodyFile (opened : Bool) (chunks : List FileChunk) (late : Bool)
    (state : State) : Outcome × State :=
  match readAndSendBodyFileChunked failModeVerdict opened chunks late
      state with
  | ((none, _), _, state) => (.cleanup, state.setFailOpen)
  | ((some verdict, reply), last, state) =>
      let later := (last.map Exchange.later).getD .late
      followAndEnforce webResponse later verdict reply state

def inspectBody (body : RequestBody) (state : State) : Outcome × State :=
  match body with
  | .raw exchange => inspectRawBody failModeVerdict webResponse exchange state
  | .inVariable answer => inspectBodyVariable webResponse answer state
  | .inFile opened chunks late =>
      inspectBodyFile failModeVerdict webResponse opened chunks late state
  | .missing => (.goesOn, state)

/-- The end of the inspection; the error that it may raise is caught if the
request has a body. -/
def endInspection (caught raised : Bool) (exchange : Exchange)
    (state : State) : Outcome × State :=
  let state :=
    state.note [.used .session, .asked (.ending raised exchange)]
  if raised then
    if caught then (.cleanup, state.setFailOpen) else (.raised, state)
  else if exchange.sent ≠ .ok then (.cleanup, state.setFailOpen)
  else
    match waitForVerdictAsync failModeVerdict exchange state with
    | ((none, reply), state) =>
        let state := state.setFailOpen
        if reply = some .blocked then (.replied 403, state.setFinal)
        else (.cleanup, state)
    | ((some verdict, reply), state) =>
        followAndEnforce webResponse exchange.later verdict reply state

end Access

/-- What is behind the label `cleanup`. -/
def State.cleanup (state : State) : State :=
  let state := state.freeVerdictResponse state.finalResponse
  let state := state.free state.metaData
  let state := state.free state.reqHeaders
  { state with pending := false }

/-- The stages behind the headers. -/
def inspectRest (failModeVerdict : Int) (request : Request) (state : State) :
    Outcome × State :=
  match request.body with
  | some body =>
      State.andThen
        (inspectBody failModeVerdict request.webResponse body state)
        (endInspection failModeVerdict request.webResponse true
          request.endRaised request.ending)
  | none =>
      endInspection failModeVerdict request.webResponse false
        request.endRaised request.ending state

/-- `handle_access_async`.  A request that is not replied to goes on to the
upstream. -/
def handleAccessAsync (failModeVerdict : Int) (request : Request)
    (state : State) : Outcome × State :=
  let state := { state with
    finalResponse := none
    pending := true
    ctx := { state.ctx with failOpenMode := false, isFinalVerdict := false } }
  let stages := State.andThen (inspectHeaders failModeVerdict request state)
    (inspectRest failModeVerdict request)
  match stages.1 with
  | .goesOn | .cleanup => (.returned, stages.2.cleanup)
  | outcome => (outcome, stages.2)

end OpenAppsec.Kong
