import OpenAppsec.Kong.Nano

/-!
# Waiting for verdicts

The helpers with which the access phase waits for the answer to a question,
follows a delayed verdict, and blocks a request.
-/

namespace OpenAppsec.Kong

open Nano (AttachmentVerdict NanoCommunicationResult)

/-- The second result of a wait: a response, or the reason that there is none. -/
inductive Reply where
  | response (token : Token)
  | blocked
  | timeout
  deriving DecidableEq

/-- What a helper returns; each part may be `nil`. -/
abbrev Answer := Option AttachmentVerdict × Option Reply

/-- A response that is no text. -/
def Reply.token : Reply → Option Token
  | .response token => some token
  | _ => none

/-- `handle_drop_verdict` in asynchronous mode. -/
def handleDropVerdict (webResponse : WebResponse) (response : Option Token)
    (state : State) : Outcome × State :=
  handleCustomResponse webResponse response state.setBlocked

/-- `wait_for_verdict_async`, in asynchronous mode. -/
def waitForVerdictAsync (failModeVerdict : Int) (exchange : Exchange)
    (state : State) : Answer × State :=
  if exchange.posted then
    let (response, state) := state.createResponse
    ((some exchange.verdict, some (.response response)), state)
  else if failModeVerdict ≠ 0 then
    ((none, some .blocked), state.setBlocked)
  else
    ((none, some .timeout), state)

/-- The loop of `handle_delayed_verdict`. -/
def followDelayed (response : Option Token) :
    Delayed → State → Answer × State
  | .late, state | .silent, state =>
      let state := state.freeVerdictResponse response
      ((none, none), { state with pending := false })
  | .answered verdict next, state =>
      let (answer, state) := state.createResponse
      let state := state.freeVerdictResponse response
      if verdict = .delayed then
        followDelayed (some answer) next (state.use [.session])
      else ((some verdict, some (.response answer)), state)

/-- `handle_delayed_verdict`. -/
def handleDelayedVerdict (later : Delayed) (verdict : AttachmentVerdict)
    (response : Option Reply) (state : State) : Answer × State :=
  if verdict ≠ .delayed then ((some verdict, response), state)
  else
    let state := state.freeVerdictResponse (response.bind Reply.token)
    followDelayed none later (state.use [.session])

/-- A chunk of a file with the body: whether the time for reading is over
before it, and its exchange. -/
structure FileChunk where
  late : Bool
  exchange : Exchange

/-- The loop of `read_and_send_body_file_chunked` in asynchronous mode, with
the exchange that the last verdict is from.  `late` tells whether the time is
over before the end of the file is read. -/
def readAndSendChunks (failModeVerdict : Int) (late : Bool) :
    List FileChunk → State → Answer × Option Exchange × State
  | [], state =>
      if late then
        ((none, none), none,
          { state with ctx := { state.ctx with cleanupNeeded := true } })
      else ((some .inspect, none), none, state)
  | chunk :: chunks, state =>
      if chunk.late then
        ((none, none), none,
          { state with ctx := { state.ctx with cleanupNeeded := true } })
      else
        let state := state.note [.used .session, .asked (.body chunk.exchange)]
        if chunk.exchange.sent ≠ .ok then
          ((none, none), none, state.setFailOpen)
        else
          let (answer, state) :=
            waitForVerdictAsync failModeVerdict chunk.exchange state
          if answer.1 ≠ some .inspect then (answer, some chunk.exchange, state)
          else readAndSendChunks failModeVerdict late chunks state

/-- `read_and_send_body_file_chunked` in asynchronous mode. -/
def readAndSendBodyFileChunked (failModeVerdict : Int) (opened : Bool)
    (chunks : List FileChunk) (late : Bool) (state : State) :
    Answer × Option Exchange × State :=
  if opened then readAndSendChunks failModeVerdict late chunks state
  else ((none, none), none, state)

end OpenAppsec.Kong
