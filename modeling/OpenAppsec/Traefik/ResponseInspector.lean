import OpenAppsec.Traefik.ResponseWriter

/-!
# The plugin for traefik

The middleware sends a request to the daemon, part by part, and hands the
response of the next handler on through an inspector that asks the daemon about
its header and each of its chunks.
-/

namespace OpenAppsec.Traefik

/-- The verdicts of the daemon, and any other text in their place. -/
inductive Verdict where
  | inspect
  | accept
  | drop
  | noop
  | unknown
  deriving DecidableEq

structure VerdictReply where
  verdict : Verdict
  response : Option BlockResponse
  body : List UInt8
  bodyModified : Bool
  deriving DecidableEq

/-- The calls of `daemonClient`. -/
inductive DaemonCall where
  | startTransaction
  | sendRequestBody (chunk : List UInt8)
  | endRequest
  | sendResponseHeaders (code : Int) (contentLength : Nat) (headers : Header)
  | sendResponseBody (chunk : List UInt8)
  | endResponse
  | finiSession
  deriving DecidableEq

/-- The settings of the middleware. -/
structure Middleware where
  responseInspection : Bool
  maxRequestBodySize : Nat
  failClose : Bool
  deriving DecidableEq

/-- The writer of a request, and the calls to the daemon with their replies: a
call without one has failed. -/
structure Exchange where
  rw : ResponseWriter
  calls : List (DaemonCall × Option VerdictReply)
  deriving DecidableEq

/-- `responseInspector`. -/
structure ResponseInspector extends Exchange where
  wroteHeader : Bool
  passthrough : Bool
  dropped : Bool
  bodyWritten : Bool
  sessionDone : Bool
  deriving DecidableEq

def newResponseInspector (exchange : Exchange) : ResponseInspector :=
  { exchange with
    wroteHeader := false
    passthrough := false
    dropped := false
    bodyWritten := false
    sessionDone := false }

section Daemon

/- The replies of the daemon, by the number of calls before, and the settings. -/
variable (m : Middleware) (daemon : Nat → Option VerdictReply)

def Exchange.ask (call : DaemonCall) (exchange : Exchange) :
    Option VerdictReply × Exchange :=
  let reply := daemon exchange.calls.length
  (reply, { exchange with calls := exchange.calls ++ [(call, reply)] })

namespace ResponseInspector

def ask (call : DaemonCall) (i : ResponseInspector) :
    Option VerdictReply × ResponseInspector :=
  let (reply, exchange) := i.toExchange.ask daemon call
  (reply, { i with toExchange := exchange })

/-- The response is dropped for a block page. -/
def block (response : Option BlockResponse) (i : ResponseInspector) :
    Bool × ResponseInspector :=
  let (panics, rw) := writeBlock response i.rw
  let i := { i with dropped := true, rw }
  if panics then (true, i) else (false, { i with wroteHeader := true })

def forwardHeader (statusCode : Int) (i : ResponseInspector) :
    Bool × ResponseInspector :=
  let (panics, rw) := i.rw.writeHeader statusCode
  let i := { i with rw }
  if panics then (true, i) else (false, { i with wroteHeader := true })

/-- `responseInspector.inspectHeaders`, with whether it panics. -/
def inspectHeaders (statusCode : Int) (forward : Bool)
    (i : ResponseInspector) : Bool × ResponseInspector :=
  let contentLength := (parseUint (i.rw.header.get "Content-Length")).1
  let forwarded (i : ResponseInspector) : Bool × ResponseInspector :=
    if forward then i.forwardHeader statusCode else (false, i)
  match i.ask daemon
      (.sendResponseHeaders statusCode contentLength i.rw.header) with
  | (none, i) =>
      if m.failClose then { i with sessionDone := true }.block none
      else forwarded { i with passthrough := true }
  | (some reply, i) =>
      match reply.verdict with
      | .drop => { i with sessionDone := true }.block reply.response
      | .accept =>
          forwarded { i with sessionDone := true, passthrough := true }
      | .noop => forwarded { i with passthrough := true }
      | .inspect | .unknown => forwarded i

/-- `responseInspector.WriteHeader`. -/
def writeHeader (statusCode : Int) (i : ResponseInspector) :
    Bool × ResponseInspector :=
  if i.wroteHeader ∨ i.dropped then (false, i)
  else if i.passthrough then i.forwardHeader statusCode
  else i.inspectHeaders m daemon statusCode true

def forwardBody (data : List UInt8) (i : ResponseInspector) :
    ResponseInspector :=
  { i with rw := i.rw.write data }

/-- The part of `responseInspector.Write` after the header. -/
def inspectBody (data : List UInt8) (i : ResponseInspector) :
    Bool × ResponseInspector :=
  if i.passthrough then (false, i.forwardBody data)
  else if data = [] then (false, i)
  else
    match i.ask daemon (.sendResponseBody data) with
    | (none, i) =>
        if m.failClose then (true, { i with dropped := true })
        else (false, { i with passthrough := true }.forwardBody data)
    | (some reply, i) =>
        match reply.verdict with
        | .drop => (true, { i with dropped := true, sessionDone := true })
        | verdict =>
            let i :=
              match verdict with
              | .accept => { i with sessionDone := true, passthrough := true }
              | .noop => { i with passthrough := true }
              | _ => i
            let i := { i with bodyWritten := true }
            (false, i.forwardBody
              (if reply.bodyModified then reply.body else data))

/-- `responseInspector.Write`. -/
def write (data : List UInt8) (i : ResponseInspector) :
    Bool × ResponseInspector :=
  if i.dropped then (false, i)
  else if i.wroteHeader then i.inspectBody m daemon data
  else
    match i.writeHeader m daemon 200 with
    | (true, i) => (true, i)
    | (false, i) =>
        if i.dropped then (false, i) else i.inspectBody m daemon data

/-- The part of `responseInspector.finish` that ends the response. -/
def endResponse (i : ResponseInspector) : Bool × ResponseInspector :=
  match i.ask daemon .endResponse with
  | (none, i) => (false, i)
  | (some reply, i) =>
      let i := { i with sessionDone := true }
      if reply.verdict = .drop then
        if i.wroteHeader then (true, i) else i.block reply.response
      else (false, i)

/-- `responseInspector.finish`. -/
def finish (i : ResponseInspector) : Bool × ResponseInspector :=
  if i.dropped ∨ i.passthrough then (false, i)
  else if i.wroteHeader then i.endResponse daemon
  else
    match i.inspectHeaders m daemon 200 false with
    | (true, i) => (true, i)
    | (false, i) =>
        if i.dropped ∨ i.passthrough then (false, i)
        else i.endResponse daemon

/-- `responseInspector.Flush`. -/
def flush (i : ResponseInspector) : ResponseInspector :=
  { i with rw := i.rw.flush }

/-- `responseInspector.Hijack`. -/
def hijack (i : ResponseInspector) : ResponseInspector :=
  if i.rw.isHijacker then
    { i with passthrough := true, wroteHeader := true, rw := i.rw.hijack }
  else i

/-- A call of the next handler on the inspector. -/
def call (i : ResponseInspector) : HandlerCall → Bool × ResponseInspector
  | .setHeader header => (false, { i with rw := { i.rw with header } })
  | .writeHeader statusCode => i.writeHeader m daemon statusCode
  | .write data => i.write m daemon data
  | .flush => (false, i.flush)
  | .hijack => (false, i.hijack)

end ResponseInspector

/-- The body of a request; `none` is no body.  `fails` tells whether reading
it ends in an error. -/
structure RequestBody where
  content : List UInt8
  fails : Bool
  deriving DecidableEq

/-- `Middleware.inspectRequestBody`: the last reply, or none after a failure. -/
def inspectRequestBody (body : Option RequestBody) (exchange : Exchange) :
    Option VerdictReply × Exchange :=
  match body with
  | none => exchange.ask daemon .endRequest
  | some body =>
      let buffered := body.content.take m.maxRequestBodySize
      if body.content.length < m.maxRequestBodySize ∧ body.fails then
        (none, exchange)
      else if buffered = [] then exchange.ask daemon .endRequest
      else
        match exchange.ask daemon (.sendRequestBody buffered) with
        | (none, exchange) => (none, exchange)
        | (some reply, exchange) =>
            if reply.verdict ≠ .inspect then (some reply, exchange)
            else exchange.ask daemon .endRequest

/-- How `Middleware.ServeHTTP` goes on after the request. -/
inductive Admission where
  | block (response : Option BlockResponse)
  | forward
  | inspectResponse
  deriving DecidableEq

/-- `Middleware.handleUninspected`. -/
def handleUninspected : Admission :=
  if m.failClose then .block none else .forward

/-- The part of `Middleware.ServeHTTP` about the body of a request. -/
def serveBody (body : Option RequestBody) (exchange : Exchange) :
    Admission × Bool × Exchange :=
  match inspectRequestBody m daemon body exchange with
  | (none, exchange) => (handleUninspected m, true, exchange)
  | (some reply, exchange) =>
      match reply.verdict with
      | .drop => (.block reply.response, false, exchange)
      | .accept | .noop => (.forward, false, exchange)
      | .inspect | .unknown =>
          if m.responseInspection = false then (.forward, true, exchange)
          else (.inspectResponse, true, exchange)

/-- The part of `Middleware.ServeHTTP` before the response: how it goes on, and
whether the session is still its own to close. -/
def serveRequest (inBackoff : Bool) (body : Option RequestBody) (exchange : Exchange) :
    Admission × Bool × Exchange :=
  if inBackoff then (handleUninspected m, false, exchange)
  else
    match exchange.ask daemon .startTransaction with
    | (none, exchange) => (handleUninspected m, false, exchange)
    | (some start, exchange) =>
        match start.verdict with
        | .drop => (.block start.response, false, exchange)
        | .accept | .noop => (.forward, false, exchange)
        | .inspect | .unknown => serveBody m daemon body exchange

/-- The response to an admitted request: whether it panics, and whether the
session is still open. -/
def respond (next : Handler) (sessionActive : Bool) (exchange : Exchange) :
    Admission → Bool × Bool × Exchange
  | .block response =>
      let (panics, rw) := writeBlock response exchange.rw
      (panics, sessionActive, { exchange with rw })
  | .forward =>
      let (panics, rw) := next.serveHTTP ResponseWriter.call exchange.rw
      (panics, sessionActive, { exchange with rw })
  | .inspectResponse =>
      match next.serveHTTP (ResponseInspector.call m daemon)
          (newResponseInspector exchange) with
      | (true, i) => (true, sessionActive, i.toExchange)
      | (false, i) =>
          match i.finish m daemon with
          | (true, i) => (true, sessionActive, i.toExchange)
          | (false, i) =>
              (false, sessionActive && !i.sessionDone, i.toExchange)

/-- `Middleware.ServeHTTP` with its deferred call, and whether it panics.  The
backoff window that a failure opens matters to other requests. -/
def serveHTTP (next : Handler) (inBackoff : Bool) (body : Option RequestBody)
    (exchange : Exchange) : Bool × Exchange :=
  let (admission, sessionActive, exchange) :=
    serveRequest m daemon inBackoff body exchange
  let (panics, sessionActive, exchange) :=
    respond m daemon next sessionActive exchange admission
  (panics,
    if sessionActive then (exchange.ask daemon .finiSession).2 else exchange)

/-- The inspector with one more call. -/
def ResponseInspector.asked (call : DaemonCall) (reply : Option VerdictReply)
    (i : ResponseInspector) : ResponseInspector :=
  { i with calls := i.calls ++ [(call, reply)] }

theorem ResponseInspector.ask_eq (call : DaemonCall) (i : ResponseInspector) :
    i.ask daemon call =
      (daemon i.calls.length, i.asked call (daemon i.calls.length)) :=
  rfl

/-- The call about the header of a response. -/
def ResponseInspector.headersCall (statusCode : Int) (i : ResponseInspector) :
    DaemonCall :=
  .sendResponseHeaders statusCode
    (parseUint (i.rw.header.get "Content-Length")).1 i.rw.header

/-- What lets the rest of a response pass. -/
def Releases (reply : Option VerdictReply) : Prop :=
  match reply with
  | some reply => reply.verdict = .accept ∨ reply.verdict = .noop
  | none => m.failClose = false

/-- What takes the session for finalised, without a drop. -/
def Finishes (reply : Option VerdictReply) : Prop :=
  ∃ answer, reply = some answer ∧ answer.verdict = .accept

/-- The reply lets the part of the response that it is about go on. -/
def GoesOn (reply : Option VerdictReply) : Prop :=
  match reply with
  | some reply => reply.verdict ≠ .drop
  | none => m.failClose = false

/-- What goes on for a chunk. -/
def replacement (reply : Option VerdictReply) (data : List UInt8) :
    List UInt8 :=
  match reply with
  | some reply => if reply.bodyModified then reply.body else data
  | none => data

/-- The flags of an inspector after a reply that lets a part go on. -/
structure ResponseInspector.Flags (reply : Option VerdictReply)
    (i : ResponseInspector) (passthrough sessionDone : Bool) : Prop where
  goesOn : GoesOn m reply
  releases : passthrough = true → i.passthrough = true ∨ Releases m reply
  finishes : sessionDone = true → i.sessionDone = true ∨ Finishes reply
  keepsDone : i.sessionDone = true → sessionDone = true

/-- The outcomes of `inspectHeaders`. -/
inductive ResponseInspector.HeaderOutcome (statusCode : Int) (forward : Bool)
    (i : ResponseInspector) : Bool × ResponseInspector → Prop
  | fails (failClose : m.failClose = true) :
      HeaderOutcome statusCode forward i
        ({ i.asked (i.headersCall statusCode) none with
          sessionDone := true }.block none)
  | drops (reply : VerdictReply) (verdict : reply.verdict = .drop) :
      HeaderOutcome statusCode forward i
        ({ i.asked (i.headersCall statusCode) (some reply) with
          sessionDone := true }.block reply.response)
  | goesOn (reply : Option VerdictReply) (passthrough sessionDone : Bool)
      (flags : i.Flags m reply passthrough sessionDone) :
      HeaderOutcome statusCode forward i
        (if forward then
          { i.asked (i.headersCall statusCode) reply with
            passthrough, sessionDone }.forwardHeader statusCode
        else (false, { i.asked (i.headersCall statusCode) reply with
          passthrough, sessionDone }))

theorem ResponseInspector.inspectHeaders_outcome (statusCode : Int)
    (forward : Bool) (i : ResponseInspector) :
    HeaderOutcome m statusCode forward i
      (i.inspectHeaders m daemon statusCode forward) := by
  rw [inspectHeaders, ask_eq]
  rcases daemon i.calls.length with _ | reply
  · dsimp only
    split
    · rename_i failClose
      exact .fails failClose
    · rename_i failOpen
      have failOpen : m.failClose = false := by simpa using failOpen
      exact .goesOn none true i.sessionDone
        ⟨failOpen, fun _ => .inr failOpen, .inl, id⟩
  · dsimp only
    cases verdict : reply.verdict with
    | drop => exact .drops reply verdict
    | accept =>
        refine .goesOn (some reply) true true ⟨?_, ?_, ?_, fun _ => rfl⟩
        · simp [GoesOn, verdict]
        · exact fun _ => .inr (.inl verdict)
        · exact fun _ => .inr ⟨reply, rfl, verdict⟩
    | noop =>
        refine .goesOn (some reply) true i.sessionDone ⟨?_, ?_, .inl, id⟩
        · simp [GoesOn, verdict]
        · exact fun _ => .inr (.inr verdict)
    | inspect =>
        refine .goesOn (some reply) i.passthrough i.sessionDone
          ⟨?_, .inl, .inl, id⟩
        simp [GoesOn, verdict]
    | unknown =>
        refine .goesOn (some reply) i.passthrough i.sessionDone
          ⟨?_, .inl, .inl, id⟩
        simp [GoesOn, verdict]

/-- The outcomes of a chunk after the header. -/
inductive ResponseInspector.BodyOutcome (data : List UInt8)
    (i : ResponseInspector) : Bool × ResponseInspector → Prop
  | passes (passthrough : i.passthrough = true) :
      BodyOutcome data i (false, i.forwardBody data)
  | nothing (inspects : i.passthrough = false) (empty : data = []) :
      BodyOutcome data i (false, i)
  | fails (inspects : i.passthrough = false) (failClose : m.failClose = true) :
      BodyOutcome data i
        (true, { i.asked (.sendResponseBody data) none with dropped := true })
  | drops (inspects : i.passthrough = false) (reply : VerdictReply)
      (verdict : reply.verdict = .drop) :
      BodyOutcome data i
        (true, { i.asked (.sendResponseBody data) (some reply) with
          dropped := true
          sessionDone := true })
  | goesOn (inspects : i.passthrough = false) (reply : Option VerdictReply)
      (passthrough bodyWritten sessionDone : Bool)
      (flags : i.Flags m reply passthrough sessionDone) :
      BodyOutcome data i
        (false, { i.asked (.sendResponseBody data) reply with
          passthrough
          bodyWritten
          sessionDone }.forwardBody (replacement reply data))

theorem ResponseInspector.inspectBody_outcome (data : List UInt8)
    (i : ResponseInspector) :
    BodyOutcome m data i (i.inspectBody m daemon data) := by
  rw [inspectBody, ask_eq]
  cases inspects : i.passthrough with
  | true => exact .passes inspects
  | false =>
      rw [if_neg nofun]
      split
      · rename_i empty
        exact .nothing inspects empty
      · rcases daemon i.calls.length with _ | reply
        · dsimp only
          split
          · rename_i failClose
            exact .fails inspects failClose
          · rename_i failOpen
            have failOpen : m.failClose = false := by simpa using failOpen
            exact .goesOn inspects none true i.bodyWritten i.sessionDone
              ⟨failOpen, fun _ => .inr failOpen, .inl, id⟩
        · dsimp only
          cases verdict : reply.verdict with
          | drop => exact .drops inspects reply verdict
          | accept =>
              refine .goesOn inspects (some reply) true true true
                ⟨?_, ?_, ?_, fun _ => rfl⟩
              · simp [GoesOn, verdict]
              · exact fun _ => .inr (.inl verdict)
              · exact fun _ => .inr ⟨reply, rfl, verdict⟩
          | noop =>
              refine .goesOn inspects (some reply) true true i.sessionDone
                ⟨?_, ?_, .inl, id⟩
              · simp [GoesOn, verdict]
              · exact fun _ => .inr (.inr verdict)
          | inspect =>
              refine .goesOn inspects (some reply) i.passthrough true
                i.sessionDone ⟨?_, .inl, .inl, id⟩
              simp [GoesOn, verdict]
          | unknown =>
              refine .goesOn inspects (some reply) i.passthrough true
                i.sessionDone ⟨?_, .inl, .inl, id⟩
              simp [GoesOn, verdict]

end Daemon

end OpenAppsec.Traefik
