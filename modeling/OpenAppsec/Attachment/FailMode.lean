import OpenAppsec.Attachment.NanoOperations
import OpenAppsec.Attachment.Transmissions

/-!
# The fail mode of the synchronous operations

The context of an operation depends on its outcomes only: each of them leaves
the result and the verdict alone or settles them.  A failure is answered with
the fail mode when it is reported and nothing settles the result after it.
-/

namespace OpenAppsec.Nano

/-- The result in the context of an operation, and the verdict of its
session. -/
structure Context where
  res : NanoCommunicationResult
  verdict : ServiceVerdict

/-- The end of a transaction and the request of a delayed verdict do not
report their failure. -/
def reportsFailure (message : Message) : Bool :=
  match message.chunkType with
  | .requestEnd | .responseEnd | .requestDelayedVerdict => false
  | _ => true

section Outcomes

variable {ω : Type*}

variable {history : List (Outcome ω)}

namespace Event

def settle : Event ω → Context → Context
  | .declined, _ => { res := .declined, verdict := .irrelevant }
  | .sent message outcome, context =>
      if outcome.result ≠ .ok ∧ reportsFailure message then
        { context with res := .error }
      else context
  | .replied reply, _ => { res := reply.result, verdict := reply.verdict }
  | .signalled _, context => context

end Event

namespace Outcome

def settle : Outcome ω → Context → Context
  | .threadStarted, context => { context with res := .ok }
  | .happened event, context => event.settle context
  | .threadFailed, context => { context with res := .error }
  | .verdictHeld, context => { context with res := .error }

/-- A message is refused or a reply is not obtained. -/
def Fails : Outcome ω → Prop
  | .threadStarted => False
  | .happened (.sent _ outcome) => outcome.result ≠ .ok
  | .happened (.replied reply) => reply.result = .error
  | .happened _ => False
  | .threadFailed => True
  | .verdictHeld => True

/-- A failure that reaches the result in the context. -/
def IsReported : Outcome ω → Prop
  | .happened (.sent message outcome) =>
      outcome.result ≠ .ok ∧ reportsFailure message = true
  | outcome => outcome.Fails

/-- The result in the context is replaced by one that is no failure. -/
def Overrides : Outcome ω → Prop
  | .threadStarted => True
  | .happened .declined => True
  | .happened (.replied reply) => reply.result ≠ .error
  | _ => False

/-- The verdict after an outcome; `none` while the source is declined. -/
def decide : Outcome ω → Option ServiceVerdict → Option ServiceVerdict
  | .threadStarted, decision => some (decision.getD .irrelevant)
  | .happened .declined, _ => none
  | .happened (.replied reply), _ => some reply.verdict
  | _, decision => decision

end Outcome

/-- Some failure is reported, and nothing overrides its result. -/
def FailureStands : List (Outcome ω) → Prop
  | [] => False
  | outcome :: history =>
      (outcome.IsReported ∧ ∀ later ∈ history, ¬later.Overrides) ∨
        FailureStands history

/-- The verdict after a history. -/
def decisionAfter (history : List (Outcome ω))
    (decision : Option ServiceVerdict) : Option ServiceVerdict :=
  history.foldl (fun decision outcome => outcome.decide decision) decision

/-- The verdict of the fail mode. -/
def IsFailMode (settings : AttachmentSettings)
    (response : VerdictResponse ω) : Prop :=
  if settings.failModeVerdict = .ok then response.verdict = .accept
  else
    response.verdict = .drop ∧
      response.webResponseData = createDefaultBlockPage true

/-- A response to a call with a history honours the fail mode. -/
structure HonoursFailMode (settings : AttachmentSettings)
    (history : List (Outcome ω)) (response : VerdictResponse ω) : Prop where
  failed :
    (∃ outcome ∈ history, outcome.Fails) → IsFailMode settings response
  inspected :
    response.verdict = .inspect →
      ∀ message outcome, .happened (.sent message outcome) ∈ history →
        outcome.result = .ok

/-- Nothing fails; or a reported failure stands, and a page for it can be
allocated if the attachment fails closed; or the attachment fails open and the
session is accepted anyway. -/
def FailureSurvives (settings : AttachmentSettings) (malloc : Bool)
    (verdict : ServiceVerdict) (history : List (Outcome ω)) : Prop :=
  (∀ outcome ∈ history, ¬outcome.Fails) ∨
    (FailureStands history ∧
      (settings.failModeVerdict = .ok ∨ malloc = true)) ∨
    (¬FailureStands history ∧ settings.failModeVerdict = .ok ∧
      (decisionAfter history (some verdict) = none ∨
        decisionAfter history (some verdict) = some .accept))

def contextAfter (history : List (Outcome ω)) (context : Context) : Context :=
  history.foldl (fun context outcome => outcome.settle context) context

theorem contextAfter_cons (outcome : Outcome ω) (history : List (Outcome ω))
    (context : Context) :
    contextAfter (outcome :: history) context =
      contextAfter history (outcome.settle context) :=
  rfl

theorem contextAfter_append (first second : List (Outcome ω))
    (context : Context) :
    contextAfter (first ++ second) context =
      contextAfter second (contextAfter first context) := by
  apply List.foldl_append

theorem Outcome.settle_res_eq_error_iff (outcome : Outcome ω)
    (context : Context) :
    (outcome.settle context).res = .error ↔
      outcome.IsReported ∨ (context.res = .error ∧ ¬outcome.Overrides) := by
  cases outcome with
  | threadStarted => simp [settle, IsReported, Fails, Overrides]
  | threadFailed => simp [settle, IsReported, Fails]
  | verdictHeld => simp [settle, IsReported, Fails]
  | happened event =>
      cases event with
      | declined =>
          simp [settle, Event.settle, IsReported, Fails, Overrides]
      | sent message outcome =>
          simp only [settle, Event.settle, IsReported, Overrides,
            not_false_eq_true, and_true]
          split
          case isTrue reported => exact iff_of_true rfl (.inl reported)
          case isFalse quiet => exact (or_iff_right quiet).symm
      | replied reply =>
          simp only [settle, Event.settle, IsReported, Fails, Overrides,
            not_not]
          exact (or_iff_left_of_imp And.right).symm
      | signalled result =>
          simp [settle, Event.settle, IsReported, Fails, Overrides]

/-- A failure is in the context when it stands, or when it was there before
and nothing has overridden it. -/
theorem contextAfter_res_eq_error_iff (history : List (Outcome ω))
    (context : Context) :
    (contextAfter history context).res = .error ↔
      FailureStands history ∨
        (context.res = .error ∧ ∀ later ∈ history, ¬later.Overrides) := by
  induction history generalizing context with
  | nil =>
      have none : ∀ later ∈ ([] : List (Outcome ω)), ¬later.Overrides :=
        fun _ member => absurd member List.not_mem_nil
      rw [FailureStands, false_or]
      exact (and_iff_left none).symm
  | cons outcome history induction =>
      have step := outcome.settle_res_eq_error_iff context
      rw [contextAfter_cons, induction, FailureStands, step,
        List.forall_mem_cons]
      tauto

theorem FailureStands.exists_fails (stands : FailureStands history) :
    ∃ outcome ∈ history, outcome.Fails := by
  induction history with
  | nil => exact stands.elim
  | cons outcome history induction =>
      rcases stands with ⟨reported, _⟩ | later
      · refine ⟨outcome, List.mem_cons_self, ?_⟩
        match outcome, reported with
        | .happened (.sent _ _), reported => exact reported.1
        | .happened (.replied _), reported => exact reported
        | .threadFailed, reported => exact reported
        | .verdictHeld, reported => exact reported
      · obtain ⟨failing, member, fails⟩ := induction later
        exact ⟨failing, List.mem_cons_of_mem _ member, fails⟩

theorem failureStands_concat {outcome : Outcome ω}
    (reported : outcome.IsReported) :
    FailureStands (history ++ [outcome]) := by
  induction history with
  | nil =>
      left
      exact ⟨reported, fun _ member => absurd member List.not_mem_nil⟩
  | cons first history induction => exact .inr induction

/-- The context and the decision belong together. -/
def Context.Agrees (context : Context) : Option ServiceVerdict → Prop
  | none =>
      context.verdict = .irrelevant ∧
        (context.res = .declined ∨ context.res = .error)
  | some verdict => context.verdict = verdict ∧ context.res ≠ .declined

theorem Context.Agrees.settle {context : Context}
    {decision : Option ServiceVerdict} (agrees : context.Agrees decision)
    (outcome : Outcome ω) :
    (outcome.settle context).Agrees (outcome.decide decision) := by
  have failed : ({ context with res := .error } : Context).Agrees decision := by
    cases decision with
    | none => exact ⟨agrees.1, .inr rfl⟩
    | some verdict => exact ⟨agrees.1, nofun⟩
  cases outcome with
  | threadStarted =>
      cases decision with
      | none => exact ⟨agrees.1, nofun⟩
      | some verdict => exact ⟨agrees.1, nofun⟩
  | threadFailed => exact failed
  | verdictHeld => exact failed
  | happened event =>
      cases event with
      | declined => exact ⟨rfl, .inl rfl⟩
      | sent message outcome =>
          simp only [Outcome.settle, Event.settle, Outcome.decide]
          split
          · exact failed
          · exact agrees
      | replied reply =>
          refine ⟨rfl, ?_⟩
          rcases reply.isResult with result | result | result
          all_goals
            change reply.result ≠ .declined
            rw [result]
            nofun
      | signalled result => exact agrees

theorem Context.Agrees.after {context : Context}
    {decision : Option ServiceVerdict} (agrees : context.Agrees decision)
    (history : List (Outcome ω)) :
    (contextAfter history context).Agrees (decisionAfter history decision) := by
  induction history generalizing context decision with
  | nil => exact agrees
  | cons outcome history induction => exact induction (agrees.settle outcome)

/-- The results that an operation can find in its context. -/
def Context.IsResult (context : Context) : Prop :=
  context.res = .ok ∨ context.res = .error ∨ context.res = .httpForbidden ∨
    context.res = .declined

theorem Context.IsResult.settle {context : Context}
    (result : context.IsResult) (outcome : Outcome ω) :
    (outcome.settle context).IsResult := by
  cases outcome with
  | threadStarted => exact .inl rfl
  | threadFailed => exact .inr (.inl rfl)
  | verdictHeld => exact .inr (.inl rfl)
  | happened event =>
      cases event with
      | declined => exact .inr (.inr (.inr rfl))
      | sent message outcome =>
          simp only [Outcome.settle, Event.settle]
          split
          · exact .inr (.inl rfl)
          · exact result
      | replied reply =>
          rcases reply.isResult with result | result | result
          · exact .inl result
          · exact .inr (.inl result)
          · exact .inr (.inr (.inl result))
      | signalled _ => exact result

theorem Context.IsResult.after {context : Context}
    (result : context.IsResult) (history : List (Outcome ω)) :
    (contextAfter history context).IsResult := by
  induction history generalizing context with
  | nil => exact result
  | cons outcome history induction => exact induction (result.settle outcome)

/-- Without a declined source the result is never `NANO_DECLINED`. -/
theorem contextAfter_res_ne_declined {context : Context}
    (started : context.res ≠ .declined)
    (inspected : .happened .declined ∉ history) :
    (contextAfter history context).res ≠ .declined := by
  induction history generalizing context with
  | nil => exact started
  | cons outcome history induction =>
      obtain ⟨first, rest⟩ := List.ne_and_not_mem_of_not_mem_cons inspected
      apply induction _ rest
      cases outcome with
      | threadStarted => nofun
      | threadFailed => nofun
      | verdictHeld => nofun
      | happened event =>
          cases event with
          | declined => exact absurd rfl first
          | sent message outcome =>
              simp only [Outcome.settle, Event.settle]
              split
              · nofun
              · exact started
          | replied reply =>
              rcases reply.isResult with result | result | result
              all_goals
                change reply.result ≠ .declined
                rw [result]
                nofun
          | signalled result => exact started

def SenderState.context (state : SenderState ω) : Context :=
  { res := state.res, verdict := state.sessionData.verdict }

/-- The context changes as the new events settle it; only metadata can be
declined. -/
def Follows (declines : Bool) (before after : SenderState ω) : Prop :=
  ∃ events, after.events = before.events ++ events ∧
    after.context =
      contextAfter (events.map Outcome.happened) before.context ∧
    (declines = false → .declined ∉ events)

theorem Follows.trans {declines : Bool} {first second third : SenderState ω}
    (start : Follows declines first second)
    (rest : Follows declines second third) : Follows declines first third := by
  obtain ⟨events, recorded, context, inspected⟩ := start
  obtain ⟨later, recordedLater, contextLater, inspectedLater⟩ := rest
  refine ⟨events ++ later, ?_, ?_, ?_⟩
  · rw [recordedLater, recorded, List.append_assoc]
  · rw [contextLater, context, List.map_append, contextAfter_append]
  · intro never member
    rcases List.mem_append.mp member with member | member
    · exact inspected never member
    · exact inspectedLater never member

theorem Follows.declining {before after : SenderState ω}
    (follows : Follows false before after) : Follows true before after := by
  obtain ⟨events, recorded, context, _⟩ := follows
  exact ⟨events, recorded, context, nofun⟩

theorem declined_not_mem_sentEvents (outcome : Nat → SendOutcome)
    (index : Nat) (messages : List Message) :
    Event.declined ∉ (sentEvents outcome index messages : List (Event ω)) := by
  induction messages generalizing index with
  | nil => exact List.not_mem_nil
  | cons message messages induction =>
      rw [sentEvents]
      apply List.not_mem_cons_of_ne_of_not_mem
      · simp
      · split
        · apply induction
        · exact List.not_mem_nil

theorem contextAfter_sentEvents {outcome : Nat → SendOutcome} {index : Nat}
    {messages : List Message}
    (reported : ∀ message ∈ messages, reportsFailure message = true)
    (context : Context) :
    contextAfter
        ((sentEvents outcome index messages : List (Event ω)).map
          Outcome.happened) context =
      if AllAccepted outcome index messages.length then context
      else { context with res := .error } := by
  induction messages generalizing index with
  | nil =>
      rw [if_pos]
      · rfl
      · intro offset inside
        exact absurd inside (Nat.not_lt_zero offset)
  | cons message messages induction =>
      obtain ⟨first, rest⟩ := List.forall_mem_cons.mp reported
      rw [sentEvents, List.map_cons, contextAfter_cons, Outcome.settle]
      by_cases accepted : (outcome index).result = .ok
      · rw [if_pos accepted, Event.settle,
          if_neg (fun failed => failed.1 accepted), induction rest]
        apply if_congr _ rfl rfl
        exact (allAccepted_succ_iff.trans (and_iff_right accepted)).symm
      · have refused : ¬AllAccepted outcome index (message :: messages).length :=
          fun all => accepted (allAccepted_succ_iff.mp all).1
        rw [if_neg accepted, Event.settle, if_pos ⟨accepted, first⟩,
          if_neg refused]
        rfl

section Senders

variable (env : Environment ω)

theorem follows_refl (state : SenderState ω) : Follows false state state :=
  ⟨[], (List.append_nil _).symm, rfl, fun _ => List.not_mem_nil⟩

theorem follows_deliver {messages : List Message}
    (reported : ∀ message ∈ messages, reportsFailure message = true)
    (state : SenderState ω) :
    Follows false state (deliver env .sync messages state).2 := by
  obtain ⟨res, verdict, _⟩ := deliver_sync env messages state
  refine ⟨_, deliver_events env .sync messages state, ?_,
    fun _ => declined_not_mem_sentEvents _ _ _⟩
  rw [contextAfter_sentEvents reported, SenderState.context, res, verdict]
  split
  · rfl
  · rfl

theorem follows_receive (state : SenderState ω) :
    Follows false state (receive env state) := by
  refine ⟨[.replied (env.reply state.repliesRead)], rfl, rfl, ?_⟩
  intro _
  apply List.not_mem_cons_of_ne_of_not_mem
  · nofun
  · exact List.not_mem_nil

theorem follows_requestVerdict (isVerdictRequested : Bool)
    (state : SenderState ω) :
    Follows false state (requestVerdict env isVerdictRequested state) := by
  cases isVerdictRequested with
  | false => exact follows_refl state
  | true => exact follows_receive env state

theorem follows_afterwards {before : SenderState ω}
    {outcome : Bool × SenderState ω} (sent : Follows false before outcome.2)
    {next : SenderState ω → SenderState ω}
    (continued : ∀ state, Follows false state (next state)) :
    Follows false before (afterwards next outcome) := by
  rcases outcome with ⟨_ | _, state⟩
  · exact sent
  · exact sent.trans (continued state)

theorem follows_metadataSender (metadata : HttpMetaData)
    (isVerdictRequested : Bool) (state : SenderState ω) :
    Follows true state
      (nanoMetadataSender env metadata isVerdictRequested .sync state) := by
  by_cases declined : isInspectionRequiredForSource env metadata.clientIp = 0
  · rw [nanoMetadataSender_declined declined]
    exact ⟨[.declined], rfl, rfl, nofun⟩
  · rw [nanoMetadataSender, transmitMetadata_eq declined]
    apply Follows.declining
    apply follows_afterwards _ (follows_requestVerdict env _)
    apply follows_deliver
    intro message member
    rw [List.mem_singleton.mp member]
    rfl

theorem follows_responseInfo (message : Message)
    (reported : reportsFailure message = true) (state : SenderState ω) :
    Follows false state (transmitResponseInfo env message .sync state).2 := by
  rw [transmitResponseInfo_eq]
  apply follows_deliver
  intro sent member
  rwa [List.mem_singleton.mp member]

theorem chunkType_of_mem_bulkMessages {headerType : AttachmentDataType}
    {sessionId : BitVec 32} {bulkIndex : Nat}
    {bulks : List (List HttpHeaderData)} {message : Message}
    (member : message ∈ bulkMessages headerType sessionId bulkIndex bulks) :
    message.chunkType = headerType := by
  induction bulks generalizing bulkIndex with
  | nil => cases member
  | cons bulk bulks induction =>
      rcases List.mem_cons.mp member with rfl | later
      · rfl
      · exact induction later

theorem chunkType_of_mem_bodyMessages {bodies : List NanoStr}
    {bodyType : AttachmentDataType} {sessionId : BitVec 32} {passes : Nat}
    {bodyIndex isFinalChunk : UInt8} {message : Message}
    (member : message ∈ bodyMessages bodies bodyType sessionId passes
      bodyIndex isFinalChunk) :
    message.chunkType = bodyType := by
  induction passes generalizing bodyIndex isFinalChunk with
  | zero => cases member
  | succ passes induction =>
      rw [bodyMessages] at member
      cases chunk : bodies[bodyIndex.toNat]? with
      | none =>
          rw [chunk] at member
          cases member
      | some body =>
          rw [chunk] at member
          rcases List.mem_cons.mp member with rfl | later
          · rfl
          · exact induction later

theorem follows_headerSender (headers : List HttpHeaderData)
    {headerType : AttachmentDataType}
    (isHeader : headerType = .requestHeader ∨ headerType = .responseHeader)
    (isVerdictRequested : Bool) (state : SenderState ω) :
    Follows false state
      (nanoHeaderSender env headers headerType isVerdictRequested .sync
        state) := by
  rw [nanoHeaderSender, transmitHeaders_eq]
  apply follows_afterwards _ (follows_requestVerdict env _)
  apply follows_deliver
  intro message member
  rw [reportsFailure, chunkType_of_mem_bulkMessages member]
  rcases isHeader with rfl | rfl
  · rfl
  · rfl

theorem follows_bodySender {bodies : List NanoStr}
    {bodyType : AttachmentDataType}
    (isBody : bodyType = .requestBody ∨ bodyType = .responseBody)
    {state after : SenderState ω}
    (returned :
      nanoBodySender env bodies bodyType true .sync state = some after) :
    Follows false state after := by
  obtain ⟨outcome, transmitted, rfl⟩ := Option.map_eq_some_iff.mp returned
  obtain ⟨delivered, _⟩ := transmitBody_returned transmitted
  apply follows_afterwards _ (follows_receive env)
  rw [← delivered]
  apply follows_deliver
  intro message member
  rw [reportsFailure, chunkType_of_mem_bodyMessages member]
  rcases isBody with rfl | rfl
  · rfl
  · rfl

/-- The failure of an event leaves no trace in the context. -/
theorem follows_transmitEvent {eventType : AttachmentDataType}
    (silent : ∀ sessionId,
      reportsFailure (eventMessage eventType sessionId) = false)
    (state : SenderState ω) :
    Follows false state (transmitEvent env eventType .sync state).2 := by
  have kept : ∀ outcome : SendOutcome,
      Event.settle
          (.sent (eventMessage eventType state.sessionData.sessionId) outcome :
            Event ω) state.context =
        state.context := by
    intro outcome
    rw [Event.settle, if_neg]
    rintro ⟨_, reported⟩
    rw [silent] at reported
    cases reported
  refine ⟨[.sent (eventMessage eventType state.sessionData.sessionId)
    (sendOutcome env .sync state.sessionData.sessionId state.messagesSent)],
    ?_, ?_, ?_⟩
  · rw [transmitEvent_eq, send_eq]
    dsimp only
    split
    · rfl
    · rfl
  · apply Eq.trans _ (kept _).symm
    rw [transmitEvent_eq, send_eq]
    dsimp only
    split
    · rfl
    · rfl
  · intro _
    apply List.not_mem_cons_of_ne_of_not_mem
    · nofun
    · exact List.not_mem_nil

theorem follows_endTransactionSender {endType : AttachmentDataType}
    (isEnd : endType = .requestEnd ∨ endType = .responseEnd)
    (state : SenderState ω) :
    Follows false state
      (nanoEndTransactionSender env endType true .sync state) := by
  apply follows_afterwards _ (follows_receive env)
  apply follows_transmitEvent
  intro sessionId
  rcases isEnd with rfl | rfl
  · rfl
  · rfl

theorem follows_delayedVerdict (state : SenderState ω) :
    Follows false state (nanoRequestDelayedVerdict env true .sync state) := by
  apply follows_afterwards _ (follows_receive env)
  apply follows_transmitEvent
  intro sessionId
  rfl

theorem follows_requestFilterThread (metadata : HttpMetaData)
    (headers : List HttpHeaderData) (containsBody : Bool)
    (state : SenderState ω) :
    Follows true state
      (sendRequestFilterThread env metadata headers containsBody state) := by
  have sent := (follows_metadataSender env metadata false state).trans
    (follows_headerSender env headers (.inl rfl) false _).declining
  rw [sendRequestFilterThread]
  cases containsBody with
  | true => exact sent
  | false =>
      exact sent.trans
        (follows_endTransactionSender env (.inl rfl) _).declining

theorem follows_responseHeadersThread (headers : ResHttpHeaders)
    (state : SenderState ω) :
    Follows false state (sendResponseHeadersThread env headers state) := by
  have code : Follows false state
      (nanoSendResponseCode env headers.responseCode .sync state) := by
    apply follows_responseInfo
    rfl
  have length : ∀ state, Follows false state
      (nanoSendResponseContentLength env headers.contentLength .sync
        state) := by
    intro state
    apply follows_responseInfo
    rfl
  exact (code.trans (length _)).trans
    (follows_headerSender env headers.headers (.inr rfl) true _)

end Senders

section Operations

variable {settings : AttachmentSettings} {call : CallEnvironment ω}

variable {verdict : ServiceVerdict}

/-- The context of a call that began with a verdict follows its history. -/
structure CallState.Tracks (declines : Bool) (verdict : ServiceVerdict)
    (state : CallState ω) : Prop where
  context :
    state.sender.context =
      contextAfter state.history { res := .ok, verdict }
  inspected : declines = false → .happened .declined ∉ state.history

/-- A routine that finishes is tracked; one that does not ends the history with
a failure. -/
theorem nanoRunInThreadTimeout_returned (declines : Bool)
    {threadFunc : SenderState ω → Option (SenderState ω)}
    (follows : ∀ ctx after, threadFunc ctx = some after →
      Follows declines ctx after) {state next : CallState ω} {finished : Bool}
    (started :
      (initThreadCtx state.sender).context =
        contextAfter (state.history ++ [.threadStarted])
          { res := .ok, verdict })
    (inspected : declines = false → .happened .declined ∉ state.history)
    (returned : nanoRunInThreadTimeout settings call threadFunc state =
      some (finished, next)) :
    (finished = true → next.Tracks declines verdict) ∧
      (finished = false →
        ∃ history, next.history = history ++ [.threadFailed]) := by
  rw [nanoRunInThreadTimeout] at returned
  generalize (if settings.noThread = true then ThreadOutcome.finished
    else call.thread state.threadsStarted) = outcome at returned
  cases outcome with
  | failed leftBehind =>
      cases returned
      exact ⟨nofun, fun _ => ⟨_, rfl⟩⟩
  | finished =>
      obtain ⟨after, ran, result⟩ := Option.map_eq_some_iff.mp returned
      cases result
      refine ⟨fun _ => ?_, nofun⟩
      obtain ⟨events, recorded, context, quiet⟩ := follows _ _ ran
      rw [eventsSince_eq recorded]
      constructor
      · rw [context, started, ← contextAfter_append]
      · intro never member
        rcases List.mem_append.mp member with before | happened
        · rcases List.mem_append.mp before with before | start
          · exact inspected never before
          · cases List.mem_singleton.mp start
        · obtain ⟨event, member, same⟩ := List.mem_map.mp happened
          cases same
          exact quiet never member

/-- A tracked call can start another thread. -/
theorem CallState.Tracks.started {declines : Bool} {state : CallState ω}
    (tracks : state.Tracks declines verdict) :
    (initThreadCtx state.sender).context =
      contextAfter (state.history ++ [.threadStarted])
        { res := .ok, verdict } := by
  rw [contextAfter_append, ← tracks.context]
  rfl

theorem handleDelayedVerdict_returned {retries : Nat} {state next : CallState ω}
    {failed : Bool} (tracks : state.Tracks false verdict)
    (returned : handleDelayedVerdict settings call retries state =
      some (failed, next)) :
    (failed = false → next.Tracks false verdict) ∧
      (failed = true →
        ∃ history, next.history = history ++ [.threadFailed]) := by
  induction retries generalizing state with
  | zero =>
      cases returned
      refine ⟨fun _ => ?_, nofun⟩
      constructor
      · rw [contextAfter_append, ← tracks.context]
        rfl
      · intro never member
        rcases List.mem_append.mp member with before | held
        · exact tracks.inspected never before
        · cases List.mem_singleton.mp held
  | succ retries induction =>
      rw [handleDelayedVerdict] at returned
      cases ran : nanoRunInThreadTimeout settings call
          (fun ctx =>
            some (sendDelayedVerdictRequestThread call.toEnvironment ctx))
          state with
      | none =>
          rw [ran] at returned
          cases returned
      | some outcome =>
          rw [ran] at returned
          obtain ⟨finished, polled⟩ := outcome
          have follows : ∀ ctx after,
              some (sendDelayedVerdictRequestThread call.toEnvironment ctx) =
                some after →
              Follows false ctx after := by
            intro ctx after result
            cases result
            exact follows_delayedVerdict call.toEnvironment ctx
          have spec := nanoRunInThreadTimeout_returned false follows
            tracks.started tracks.inspected ran
          cases finished with
          | false =>
              cases returned
              exact ⟨nofun, fun _ => spec.2 rfl⟩
          | true =>
              dsimp only at returned
              split at returned
              · cases returned
                exact ⟨fun _ => spec.1 rfl, nofun⟩
              · exact induction (spec.1 rfl) returned

section Responses

variable {malloc : Bool} {sessionId : BitVec 32} {state : CallState ω}

theorem failModeResponse_isFailMode_iff :
    IsFailMode settings (failModeResponse settings malloc sessionId state).1 ↔
      settings.failModeVerdict = .ok ∨ malloc = true := by
  rw [IsFailMode, failModeResponse]
  by_cases opens : settings.failModeVerdict = .ok
  · rw [if_pos opens, if_pos opens]
    exact iff_of_true rfl (.inl opens)
  · rw [if_neg opens, if_neg opens, or_iff_right opens]
    cases malloc with
    | true => exact iff_of_true ⟨rfl, rfl⟩ rfl
    | false =>
        apply iff_of_false _ Bool.false_ne_true
        rintro ⟨_, page⟩
        cases page

theorem failModeResponse_ne_inspect :
    (failModeResponse settings malloc sessionId state).1.verdict ≠
      .inspect := by
  rw [failModeResponse]
  split
  · nofun
  · nofun

@[simp] theorem failModeResponse_history :
    (failModeResponse settings malloc sessionId state).2.history =
      state.history := by
  rw [failModeResponse]
  split
  · rfl
  · rfl

theorem honoursFailMode_failModeResponse_iff
    (stands : FailureStands state.history) :
    HonoursFailMode settings state.history
        (failModeResponse settings malloc sessionId state).1 ↔
      FailureSurvives settings malloc verdict state.history := by
  have failing := stands.exists_fails
  have some : ¬∀ outcome ∈ state.history, ¬outcome.Fails := by
    intro none
    obtain ⟨outcome, member, fails⟩ := failing
    exact none outcome member fails
  rw [FailureSurvives, or_iff_right some, and_iff_right stands, or_iff_left
    (fun other => other.1 stands), ← failModeResponse_isFailMode_iff]
  constructor
  · intro honours
    exact honours.failed failing
  · intro failMode
    exact ⟨fun _ => failMode,
      fun inspect => absurd inspect failModeResponse_ne_inspect⟩

theorem honoursFailMode_of_nothing_fails {response : VerdictResponse ω}
    (quiet : ∀ outcome ∈ history, ¬outcome.Fails) :
    HonoursFailMode settings history response := by
  constructor
  · rintro ⟨outcome, member, fails⟩
    exact absurd fails (quiet outcome member)
  · intro _ message outcome member
    exact not_not.mp (quiet _ member)

/-- A response that ignores a failure honours the fail mode when it accepts
and the attachment fails open. -/
theorem honoursFailMode_ignored_iff {response : VerdictResponse ω}
    (failing : ∃ outcome ∈ history, outcome.Fails)
    (received : response.webResponseData ≠ createDefaultBlockPage true) :
    HonoursFailMode settings history response ↔
      settings.failModeVerdict = .ok ∧ response.verdict = .accept := by
  constructor
  · intro honours
    have failMode := honours.failed failing
    rw [IsFailMode] at failMode
    split at failMode
    case isTrue opens => exact ⟨opens, failMode⟩
    case isFalse => exact absurd failMode.2 received
  · rintro ⟨opens, accepts⟩
    constructor
    · intro _
      rwa [IsFailMode, if_pos opens]
    · intro inspects
      rw [accepts] at inspects
      cases inspects

theorem attachmentVerdict_eq_accept_iff :
    attachmentVerdict verdict = .accept ↔ verdict = .accept := by
  cases verdict with
  | accept => exact iff_of_true rfl rfl
  | _ => exact iff_of_false nofun nofun

@[simp] theorem finalizeResponse_history (handlesDeclined : Bool) :
    (finalizeResponse settings call handlesDeclined sessionId
      state).2.history = state.history := by
  rw [finalizeResponse]
  split
  · rfl
  · split
    · apply failModeResponse_history
    · rfl

theorem honoursFailMode_finalizeResponse_iff {handlesDeclined : Bool}
    (tracks : state.Tracks handlesDeclined verdict) :
    HonoursFailMode settings state.history
        (finalizeResponse settings call handlesDeclined sessionId state).1 ↔
      FailureSurvives settings call.malloc verdict state.history := by
  have context := tracks.context
  have stands : state.sender.res = .error ↔ FailureStands state.history := by
    change state.sender.context.res = .error ↔ _
    rw [context, contextAfter_res_eq_error_iff]
    apply or_iff_left
    rintro ⟨started, _⟩
    cases started
  have agrees : state.sender.context.Agrees
      (decisionAfter state.history (some verdict)) := by
    have start : ({ res := .ok, verdict } : Context).Agrees (some verdict) :=
      ⟨rfl, nofun⟩
    rw [context]
    exact start.after state.history
  have result : state.sender.context.IsResult := by
    have start : ({ res := .ok, verdict } : Context).IsResult := .inl rfl
    rw [context]
    exact start.after state.history
  by_cases quiet : ∀ outcome ∈ state.history, ¬outcome.Fails
  · exact iff_of_true (honoursFailMode_of_nothing_fails quiet) (.inl quiet)
  have failing : ∃ outcome ∈ state.history, outcome.Fails := by
    push Not at quiet
    exact quiet
  by_cases failed : state.sender.res = .error
  · rw [finalizeResponse, if_neg (by rw [failed]; nofun),
      if_pos (by rw [failed]; exact ⟨nofun, nofun⟩)]
    exact honoursFailMode_failModeResponse_iff (stands.mp failed)
  have overridden : ¬FailureStands state.history := mt stands.mpr failed
  rw [FailureSurvives, or_iff_right quiet,
    or_iff_right (fun other => overridden other.1),
    and_iff_right overridden]
  by_cases declined : state.sender.res = .declined
  · have handles : handlesDeclined = true := by
      by_contra never
      have inspected := tracks.inspected (Bool.eq_false_of_not_eq_true never)
      have start : ({ res := .ok, verdict } : Context).res ≠ .declined := nofun
      apply contextAfter_res_ne_declined start inspected
      rw [← context]
      exact declined
    have none : decisionAfter state.history (some verdict) = none := by
      cases decision : decisionAfter state.history (some verdict) with
      | none => rfl
      | some last =>
          rw [decision] at agrees
          exact absurd declined agrees.2
    rw [finalizeResponse, if_pos ⟨handles, declined⟩,
      honoursFailMode_ignored_iff failing]
    · exact and_congr_right fun _ => iff_of_true rfl (.inl none)
    · intro page
      cases page
  · have successful : ¬(state.sender.res ≠ .httpForbidden ∧
        state.sender.res ≠ .ok) := by
      rintro ⟨notForbidden, notOk⟩
      rcases result with result | result | result | result
      · exact notOk result
      · exact failed result
      · exact notForbidden result
      · exact declined result
    have decision : decisionAfter state.history (some verdict) =
        some state.sender.sessionData.verdict := by
      cases decision : decisionAfter state.history (some verdict) with
      | none =>
          rw [decision] at agrees
          rcases agrees.2 with result | result
          · exact absurd result declined
          · exact absurd result failed
      | some last =>
          rw [decision] at agrees
          exact congrArg some agrees.1.symm
    rw [finalizeResponse, if_neg (fun both => declined both.2),
      if_neg successful, honoursFailMode_ignored_iff failing, decision]
    · apply and_congr_right
      intro _
      rw [or_iff_right nofun, Option.some_inj]
      exact attachmentVerdict_eq_accept_iff
    · rw [finalizeSuccessfulResponse]
      cases state.sender.webResponseData with
      | none => nofun
      | some page => nofun

end Responses

theorem runOperation_honoursFailMode_iff {handlesDeclined : Bool}
    {threadFunc : SenderState ω → Option (SenderState ω)}
    (follows : ∀ ctx after, threadFunc ctx = some after →
      Follows handlesDeclined ctx after)
    {handlesDelayed : Bool}
    (apart : handlesDelayed = false ∨ handlesDeclined = false)
    {sender : SenderState ω} {answer : VerdictResponse ω × CallState ω}
    (returned : runOperation settings call threadFunc handlesDeclined
      handlesDelayed sender = some answer) :
    HonoursFailMode settings answer.2.history answer.1 ↔
      FailureSurvives settings call.malloc sender.sessionData.verdict
        answer.2.history := by
  -- a thread that has failed ends the history
  have timedOut : ∀ state : CallState ω,
      (∃ history, state.history = history ++ [.threadFailed]) →
        answer =
          sendThreadTimeoutVerdict settings call.malloc
            sender.sessionData.sessionId state →
        (HonoursFailMode settings answer.2.history answer.1 ↔
          FailureSurvives settings call.malloc sender.sessionData.verdict
            answer.2.history) := by
    rintro state ⟨history, ends⟩ result
    subst result
    rw [sendThreadTimeoutVerdict, failModeResponse_history]
    apply honoursFailMode_failModeResponse_iff
    rw [ends]
    exact failureStands_concat trivial
  have finalized : ∀ state : CallState ω,
      state.Tracks handlesDeclined sender.sessionData.verdict →
        answer =
          finalizeResponse settings call handlesDeclined
            sender.sessionData.sessionId state →
        (HonoursFailMode settings answer.2.history answer.1 ↔
          FailureSurvives settings call.malloc sender.sessionData.verdict
            answer.2.history) := by
    intro state tracks result
    subst result
    rw [finalizeResponse_history]
    exact honoursFailMode_finalizeResponse_iff tracks
  rw [runOperation] at returned
  dsimp only at returned
  by_cases corrupted : call.corrupted = true
  · rw [if_pos corrupted, sendCorruptMemoryVerdict] at returned
    have quiet : ∀ outcome ∈ answer.2.history, ¬outcome.Fails := by
      rw [← Option.some.inj returned, failModeResponse_history]
      exact fun _ member => absurd member List.not_mem_nil
    exact iff_of_true (honoursFailMode_of_nothing_fails quiet) (.inl quiet)
  rw [if_neg corrupted] at returned
  cases ran : nanoRunInThreadTimeout settings call threadFunc
      { sender, history := [] } with
  | none =>
      rw [ran] at returned
      cases returned
  | some outcome =>
      rw [ran] at returned
      obtain ⟨finished, state⟩ := outcome
      have spec := nanoRunInThreadTimeout_returned handlesDeclined follows rfl
        (fun _ => List.not_mem_nil) ran
      cases finished with
      | false =>
          exact timedOut state (spec.2 rfl) (Option.some.inj returned).symm
      | true =>
          have tracks : state.Tracks handlesDeclined
              sender.sessionData.verdict := spec.1 rfl
          dsimp only at returned
          by_cases delayed : handlesDelayed = true ∧
              state.sender.sessionData.verdict = .delayed
          · rw [if_pos delayed] at returned
            have inspected : handlesDeclined = false := by
              rcases apart with never | inspected
              · exact absurd (never.symm.trans delayed.1) Bool.false_ne_true
              · exact inspected
            rw [inspected] at tracks finalized
            cases waited : handleDelayedVerdict settings call
                settings.holdVerdictRetries state with
            | none =>
                rw [waited] at returned
                cases returned
            | some outcome =>
                obtain ⟨failed, later⟩ := outcome
                have polled := handleDelayedVerdict_returned tracks waited
                rw [waited, inspected] at returned
                cases failed with
                | true =>
                    exact timedOut later (polled.2 rfl)
                      (Option.some.inj returned).symm
                | false =>
                    exact finalized later (polled.1 rfl)
                      (Option.some.inj returned).symm
          · rw [if_neg delayed] at returned
            exact finalized state tracks (Option.some.inj returned).symm

end Operations

end Outcomes

end OpenAppsec.Nano
