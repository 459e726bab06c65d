import OpenAppsec.Async.ReliableSenders

/-!
# The order of an inspection

The messages of a session with a body are the metadata, the headers, the
chunks of the body and the end.  The position of a session is what this order
depends on; its phases say which messages the ring queue has seen.  Two steps
leave the phases: a wait for the verdict on the headers that is over ends the
transaction before the body, and a list of headers that is not counted is not
said in full.
-/

namespace OpenAppsec.Async

open Nginx (NgxBuf)
open Trace

/-- A message that is not a question about a delayed verdict. -/
def Message.Inspects (message : Message) : Prop :=
  message.chunkType ≠ .requestDelayedVerdict

instance (message : Message) : Decidable (Message.Inspects message) :=
  inferInstanceAs (Decidable (_ ≠ _))

/-- The messages that the ring queue has seen, without the questions about a
delayed verdict. -/
def Flow.messages (flow : Flow) : List Message :=
  flow.enqueued.filter Message.Inspects

section Inspection

variable (env : Environment) (request : Request)

variable {flow next : Flow} {chain : List NgxBuf} {call : HandlerCall}
variable {reply : VerdictReply}

/-- The messages before the body. -/
def openingMessages : List Message :=
  metaDataMessage request :: headerBulks request

/-- The inspection of the buffers of a body, with its end if there is one. -/
def inspection (received : List NgxBuf) (bodyEnded : Bool) : List Message :=
  openingMessages request ++ bodyMessages request received ++
    if bodyEnded then [endTransactionMessage request] else []

/-- The inspection goes on in order and misses nothing: headers that count as
sent are there in all of their bulks, no buffer has passed the body filter
before its chunk, and only a body that has been sent as a whole completes a
session. -/
structure Flow.InspectsInOrder (flow : Flow) : Prop where
  ordered : flow.messages <+:
    inspection request flow.received flow.bodyEnded
  headed : flow.ctx.registered = true → flow.ctx.headersSent = true →
    openingMessages request <+: flow.messages
  upToDate : flow.lifecycle ≠ .closed → flow.received ≠ [] →
    flow.messages = inspection request flow.received flow.bodyEnded
  forwarded : ∀ buf ∈ flow.forwarded, buf.IsSent →
    bodyMessage request buf ∈ flow.messages
  complete : flow.ctx.registered = true → flow.ctx.stage = .complete →
    flow.bodyEnded = true ∧
      flow.messages = inspection request flow.received flow.bodyEnded

/-- The verdicts of a service that has not decided. -/
def NonFinal (verdict : ServiceVerdict) : Prop :=
  verdict = .inspect ∨ verdict = .inject ∨ verdict = .delayed ∨
    verdict = .irrelevant

instance (verdict : ServiceVerdict) : Decidable (NonFinal verdict) :=
  inferInstanceAs (Decidable (_ ∨ _ ∨ _ ∨ _))

theorem NonFinal.passes {verdict : ServiceVerdict}
    (nonFinal : NonFinal verdict) : ¬isVerdictDropOrCustom verdict := by
  obtain rfl | rfl | rfl | rfl := nonFinal <;> decide

/-- The part of a session that the order of its messages depends on. -/
structure Position where
  isSet : Bool
  verdict : ServiceVerdict
  asyncProcessingNeeded : Bool
  initialAsyncMode : Int
  registered : Bool
  stage : Stage
  released : Bool
  reqSeenLast : Bool
  queue : List NgxBuf
  metaDataSent : Bool
  headersSent : Bool
  endTransactionSent : Bool
  headerDeclined : Bool
  flowError : Bool
  lifecycle : Lifecycle
  isInitialized : Bool
  bodyEnded : Bool
  messages : List Message
  received : List NgxBuf
  forwarded : List NgxBuf

def Flow.position (flow : Flow) : Position :=
  { isSet := flow.session.isSet
    verdict := flow.session.verdict
    asyncProcessingNeeded := flow.session.asyncProcessingNeeded
    initialAsyncMode := flow.session.initialAsyncMode
    registered := flow.ctx.registered
    stage := flow.ctx.stage
    released := flow.ctx.released
    reqSeenLast := flow.ctx.reqSeenLast
    queue := flow.ctx.queue
    metaDataSent := flow.ctx.metaDataSent
    headersSent := flow.ctx.headersSent
    endTransactionSent := flow.ctx.endTransactionSent
    headerDeclined := flow.ctx.headerDeclined
    flowError := flow.ctx.flowError
    lifecycle := flow.lifecycle
    isInitialized := flow.isInitialized
    bodyEnded := flow.bodyEnded
    messages := flow.messages
    received := flow.received
    forwarded := flow.forwarded }

/-- A session whose context works for it. -/
structure Position.Active (position : Position) : Prop where
  isSet : position.isSet = true
  nonFinal : NonFinal position.verdict
  asyncProcessingNeeded : position.asyncProcessingNeeded = true
  initialAsyncMode : position.initialAsyncMode = 1
  registered : position.registered = true
  noError : position.flowError = false
  isInitialized : position.isInitialized = true
  released : position.released = true → position.reqSeenLast = true
  seenLast : position.reqSeenLast = true → position.bodyEnded = true
  parked : position.forwarded ++ position.queue ⊆ position.received

/-- Nothing of the body has been read. -/
structure Position.Unread (position : Position) : Prop where
  notAdmitted : position.lifecycle ≠ .admitted
  received : position.received = []
  notEnded : position.bodyEnded = false

/-- The context has sent the metadata. -/
structure Position.Started (position : Position) : Prop
    extends position.Active, position.Unread where
  stage : position.stage = .metaData ∨ position.stage = .waitMetaVerdict
  metaDataSent : position.metaDataSent = true
  headersSent : position.headersSent = false
  endTransactionSent : position.endTransactionSent = false
  headerDeclined : position.headerDeclined = false
  messages : position.messages = [metaDataMessage request]

/-- The context has sent the headers. -/
structure Position.Headed (position : Position) : Prop
    extends position.Active, position.Unread where
  stage : position.stage = .headers ∨ position.stage = .waitHeaderVerdict
  headersSent : position.headersSent = true
  endTransactionSent : position.endTransactionSent = false
  headerDeclined : position.headerDeclined = false
  messages : position.messages = openingMessages request

/-- The context inspects the body. -/
structure Position.InBody (position : Position) : Prop
    extends position.Active where
  stage : position.stage = .body ∨ position.stage = .waitBodyVerdict
  headerDeclined : position.headerDeclined = true
  unread : position.lifecycle = .pending →
    position.received = [] ∧ position.bodyEnded = false
  messages : position.messages =
    inspection request position.received position.bodyEnded

/-- A source that needs no inspection. -/
structure Position.Declined (position : Position) : Prop
    extends position.Active where
  stage : position.stage = .metaData
  metaDataSent : position.metaDataSent = false
  headersSent : position.headersSent = false
  verdict : position.verdict = .irrelevant
  notPending : position.lifecycle ≠ .pending
  received : position.received = []
  notEnded : position.bodyEnded = false
  messages : position.messages = []

/-- Before the first call of the header handler. -/
structure Position.Fresh (position : Position) : Prop
    extends position.Unread where
  unset : position.isSet = false
  unregistered : position.registered = false
  pending : position.lifecycle = .pending
  forwarded : position.forwarded = []
  messages : position.messages = []

/-- The context is gone. -/
structure Position.Left (position : Position) : Prop where
  unregistered : position.registered = false
  notPending : position.lifecycle ≠ .pending
  admitted : position.lifecycle = .admitted →
    position.bodyEnded = true ∧ position.messages =
      inspection request position.received position.bodyEnded
  ordered : position.messages <+:
    inspection request position.received position.bodyEnded
  covered : ∀ buf ∈ position.forwarded, buf.IsSent →
    bodyMessage request buf ∈ position.messages

/-- Where a session can be as long as its inspection goes on in order. -/
inductive Position.Phase (settings : Settings) (position : Position) : Prop
  | fresh (fresh : position.Fresh)
  | declined (declined : position.Declined)
      (irrelevant :
        settings.isInspectionRequiredForSource request.clientIp = false)
  | started (started : position.Started request)
  | headed (headed : position.Headed request)
  | inBody (inBody : position.InBody request)
  | left (left : position.Left request)

variable {env request}

theorem mem_inspection {received : List NgxBuf} {buf : NgxBuf}
    (member : buf ∈ received) (isSent : buf.IsSent) (bodyEnded : Bool) :
    bodyMessage request buf ∈ inspection request received bodyEnded := by
  have sent : bodyMessage request buf ∈ bodyMessages request received := by
    apply List.mem_map_of_mem
    exact List.mem_filter.mpr ⟨member, decide_eq_true isSent⟩
  exact List.mem_append_left _ (List.mem_append_right _ sent)

theorem inspection_nil :
    inspection request [] false = openingMessages request := by
  simp [inspection, bodyMessages]

theorem Position.Active.forwarded_eq_nil {position : Position}
    (active : position.Active) (received : position.received = []) :
    position.forwarded = [] ∧ position.queue = [] := by
  have parked := active.parked
  rw [received] at parked
  exact List.append_eq_nil_iff.mp (List.subset_nil.mp parked)

theorem Position.Phase.of_registered {settings : Settings}
    {position : Position} (phase : position.Phase request settings)
    (registered : position.registered = true) :
    position.Active ∧ position.stage ≠ .complete := by
  cases phase with
  | fresh fresh => exact nomatch fresh.unregistered.symm.trans registered
  | declined declined _ =>
      refine ⟨declined.toActive, ?_⟩
      rw [declined.stage]
      decide
  | started started =>
      refine ⟨started.toActive, ?_⟩
      rcases started.stage with isStage | isStage <;> rw [isStage] <;> decide
  | headed headed =>
      refine ⟨headed.toActive, ?_⟩
      rcases headed.stage with isStage | isStage <;> rw [isStage] <;> decide
  | inBody inBody =>
      refine ⟨inBody.toActive, ?_⟩
      rcases inBody.stage with isStage | isStage <;> rw [isStage] <;> decide
  | left left => exact nomatch left.unregistered.symm.trans registered

theorem inspectsInOrder_of_unread (received : flow.received = [])
    (forwarded : flow.forwarded = [])
    (incomplete : flow.ctx.registered = true → flow.ctx.stage ≠ .complete)
    (ordered : flow.messages <+:
      inspection request flow.received flow.bodyEnded)
    (headed : flow.ctx.registered = true → flow.ctx.headersSent = true →
      openingMessages request <+: flow.messages) :
    flow.InspectsInOrder request where
  ordered := ordered
  headed := headed
  upToDate := fun _ read => (read received).elim
  forwarded := by
    rw [forwarded]
    exact List.forall_mem_nil _
  complete := fun registered complete => (incomplete registered complete).elim

/-- In every phase the inspection goes on in order. -/
theorem Position.Phase.inspectsInOrder {settings : Settings}
    (phase : flow.position.Phase request settings) :
    flow.InspectsInOrder request := by
  have incomplete (registered : flow.ctx.registered = true) :
      flow.ctx.stage ≠ .complete := (phase.of_registered registered).2
  cases phase with
  | fresh fresh =>
      have messages : flow.messages = [] := fresh.messages
      apply inspectsInOrder_of_unread fresh.received fresh.forwarded incomplete
      · rw [messages]
        exact List.nil_prefix
      · intro registered _
        exact nomatch fresh.unregistered.symm.trans registered
  | declined declined irrelevant =>
      have messages : flow.messages = [] := declined.messages
      have forwarded := declined.toActive.forwarded_eq_nil declined.received
      apply inspectsInOrder_of_unread declined.received forwarded.1 incomplete
      · rw [messages]
        exact List.nil_prefix
      · intro _ headersSent
        exact nomatch declined.headersSent.symm.trans headersSent
  | started started =>
      have messages : flow.messages = [metaDataMessage request] :=
        started.messages
      have received : flow.received = [] := started.received
      have notEnded : flow.bodyEnded = false := started.notEnded
      have forwarded := started.toActive.forwarded_eq_nil started.received
      apply inspectsInOrder_of_unread received forwarded.1 incomplete
      · rw [messages, received, notEnded, inspection_nil]
        exact List.prefix_append [_] _
      · intro _ headersSent
        exact nomatch started.headersSent.symm.trans headersSent
  | headed headed =>
      have messages : flow.messages = openingMessages request :=
        headed.messages
      have received : flow.received = [] := headed.received
      have notEnded : flow.bodyEnded = false := headed.notEnded
      have forwarded := headed.toActive.forwarded_eq_nil headed.received
      apply inspectsInOrder_of_unread received forwarded.1 incomplete
      · simp only [messages, received, notEnded, inspection_nil,
          List.prefix_rfl]
      · intro _ _
        exact messages ▸ List.prefix_rfl
  | inBody inBody =>
      have messages : flow.messages = inspection request flow.received
          flow.bodyEnded := inBody.messages
      constructor
      · exact messages ▸ List.prefix_rfl
      · intro _ _
        rw [messages, inspection, List.append_assoc]
        exact List.prefix_append _ _
      · intro _ _
        exact messages
      · intro buf member isSent
        rw [messages]
        apply mem_inspection _ isSent
        exact inBody.parked (List.mem_append_left _ member)
      · intro registered complete
        exact (incomplete registered complete).elim
  | left left =>
      constructor
      · exact left.ordered
      · intro registered _
        exact nomatch left.unregistered.symm.trans registered
      · intro notClosed _
        cases lifecycle : flow.lifecycle with
        | pending => exact (left.notPending lifecycle).elim
        | admitted => exact (left.admitted lifecycle).2
        | closed => exact (notClosed lifecycle).elim
      · exact left.covered
      · intro registered _
        exact nomatch left.unregistered.symm.trans registered

variable {settings : Settings}

theorem messages_append_inspects {messages : List Message}
    (inspect : ∀ message ∈ messages, Message.Inspects message) :
    (flow.enqueued ++ messages).filter Message.Inspects =
      flow.messages ++ messages := by
  have same : messages.filter Message.Inspects = messages := by
    apply List.filter_eq_self.mpr
    intro message member
    exact decide_eq_true (inspect message member)
  rw [List.filter_append, same]
  rfl

theorem headerMessages_inspect :
    ∀ message ∈ headerMessages env request, Message.Inspects message := by
  intro message member
  rw [Message.Inspects, chunkType_of_mem_headerMessages env request member]
  decide

theorem bodyMessages_inspect (bufs : List NgxBuf) :
    ∀ message ∈ bodyMessages request bufs, Message.Inspects message := by
  intro message member
  obtain ⟨buf, _, rfl⟩ := List.mem_map.mp member
  exact (by decide : AttachmentDataType.requestBody ≠ .requestDelayedVerdict)

/-- Continuing decides the position after an event, unless it blocks or
completes the session. -/
theorem eventHandlerWith_position {continueProcessing : Flow → NgxRc × Flow}
    (registered : flow.ctx.registered = true)
    (incomplete : flow.ctx.stage ≠ .complete)
    (passes : ¬isVerdictDropOrCustom
      (continueProcessing flow).2.session.verdict) :
    (eventHandlerWith continueProcessing flow).position =
      (continueProcessing flow).2.position := by
  rw [eventHandlerWith, if_neg (by rw [registered]; decide)]
  dsimp only
  rw [if_neg passes, if_neg incomplete]
  repeat' split
  all_goals rfl

theorem continueProcessing_started (started : flow.position.Started request) :
    ∃ rc, (rc = .again ∨ rc = .error) ∧
      continueProcessing settings env request flow = (rc, flow) := by
  have noError : flow.ctx.flowError = false := started.noError
  have sent : flow.ctx.metaDataSent = true := started.metaDataSent
  rw [continueProcessing, continueWith, noError,
    if_neg Bool.false_ne_true]
  rcases started.stage with isStage | isStage
  · have isStage : flow.ctx.stage = .metaData := isStage
    rw [isStage]
    exact ⟨.again, .inl rfl, if_pos sent⟩
  · have isStage : flow.ctx.stage = .waitMetaVerdict := isStage
    rw [isStage]
    exact ⟨.error, .inr rfl, rfl⟩

theorem handleWaitVerdict_delayed (reliable : env.Reliable)
    (noError : flow.ctx.flowError = false)
    (delayed : flow.session.verdict = .delayed) :
    ∃ next, handleWaitVerdict settings env request flow = (.again, next) ∧
      next.position = flow.position := by
  obtain ⟨rc, numMessagesSent, isSent, sent⟩ :=
    waitSignalSender_reliable request reliable flow
  have waits : ¬(rc ≠ .ok ∧ rc ≠ .httpRequestTimeOut) := by
    rcases isSent with rfl | rfl <;> decide
  rw [handleWaitVerdict, noError, if_neg Bool.false_ne_true,
    if_neg (not_not.mpr delayed), sent]
  dsimp only
  rw [if_neg waits]
  refine ⟨_, rfl, ?_⟩
  have asked : (flow.enqueued ++ [waitMessage request]).filter
      Message.Inspects = flow.messages := by
    rw [List.filter_append]
    exact List.append_nil _
  simp only [Flow.position, Flow.messages, Flow.addAgentTimer, Flow.updateCtx,
    asked]

theorem continueProcessing_headed (reliable : env.Reliable)
    (headed : flow.position.Headed request)
    (waits : flow.ctx.stage = .waitHeaderVerdict →
      flow.session.verdict = .delayed) :
    ∃ next, continueProcessing settings env request flow = (.again, next) ∧
      next.position = flow.position := by
  have noError : flow.ctx.flowError = false := headed.noError
  have sent : flow.ctx.headersSent = true := headed.headersSent
  rw [continueProcessing, continueWith, noError,
    if_neg Bool.false_ne_true]
  rcases headed.stage with isStage | isStage
  · have isStage : flow.ctx.stage = .headers := isStage
    rw [isStage]
    exact ⟨flow, if_pos sent, rfl⟩
  · have isStage : flow.ctx.stage = .waitHeaderVerdict := isStage
    have delayed := waits isStage
    rw [isStage]
    exact handleWaitVerdict_delayed reliable noError delayed

theorem processBodyStage_inBody (inBody : flow.position.InBody request) :
    ∃ next, processBodyStage settings env request flow = (.again, next) ∧
      next.position.InBody request := by
  have passes : ¬isVerdictDropOrCustom flow.session.verdict :=
    inBody.nonFinal.passes
  rw [processBodyStage, if_neg passes]
  split
  · exact ⟨flow, rfl, inBody⟩
  · dsimp only
    split
    · rename_i complete
      refine ⟨_, rfl, ?_⟩
      exact { inBody with released := fun _ => complete.2 }
    · exact ⟨_, rfl, inBody⟩

theorem continueWith_inBody (handleWait : Flow → NgxRc × Flow)
    (inBody : flow.position.InBody request) (isStage : flow.ctx.stage = .body) :
    ∃ next, continueWith settings env request handleWait flow =
        (.again, next) ∧ next.position.InBody request := by
  have noError : flow.ctx.flowError = false := inBody.noError
  rw [continueWith, noError, if_neg Bool.false_ne_true, isStage]
  exact processBodyStage_inBody inBody

theorem handleWaitVerdict_inBody (inBody : flow.position.InBody request)
    (isStage : flow.ctx.stage = .waitBodyVerdict)
    (resolved : flow.session.verdict ≠ .delayed) :
    ∃ next, handleWaitVerdict settings env request flow = (.again, next) ∧
      next.position.InBody request := by
  have noError : flow.ctx.flowError = false := inBody.noError
  have passes : ¬isVerdictDropOrCustom flow.session.verdict :=
    inBody.nonFinal.passes
  have isBody : transitionAfterWait flow = flow.transition .body := by
    rw [transitionAfterWait, noError, if_neg Bool.false_ne_true,
      if_neg resolved, stageAfterWait, isStage]
    exact congrArg (Flow.transition · flow) (if_neg passes)
  have moved : (flow.transition .body).position.InBody request :=
    { inBody with stage := .inl rfl }
  obtain ⟨next, continued, here⟩ :=
    continueWith_inBody (fun flow => (.again, flow)) moved rfl
  rw [handleWaitVerdict, noError, if_neg Bool.false_ne_true, if_pos resolved,
    isBody]
  refine ⟨_, rfl, ?_⟩
  rw [eventHandlerAfterWait, eventHandlerWith_position, continued]
  · exact here
  · exact inBody.registered
  · exact nofun
  · rw [continued]
    exact here.nonFinal.passes

theorem continueProcessing_inBody (reliable : env.Reliable)
    (inBody : flow.position.InBody request) :
    ∃ next, continueProcessing settings env request flow = (.again, next) ∧
      next.position.InBody request := by
  have noError : flow.ctx.flowError = false := inBody.noError
  rcases inBody.stage with isStage | isStage
  · exact continueWith_inBody _ inBody isStage
  · have isStage : flow.ctx.stage = .waitBodyVerdict := isStage
    rw [continueProcessing, continueWith, noError,
      if_neg Bool.false_ne_true, isStage]
    by_cases delayed : flow.session.verdict = .delayed
    · obtain ⟨next, handled, same⟩ :=
        handleWaitVerdict_delayed reliable noError delayed
      refine ⟨next, handled, ?_⟩
      rw [same]
      exact inBody
    · exact handleWaitVerdict_inBody inBody isStage delayed

theorem continueProcessing_irrelevant (noError : flow.ctx.flowError = false)
    (isStage : flow.ctx.stage = .metaData)
    (notSent : flow.ctx.metaDataSent = false)
    (irrelevant :
      settings.isInspectionRequiredForSource request.clientIp = false) :
    continueProcessing settings env request flow =
      (.declined, flow.setVerdict .irrelevant .irrelevant) := by
  rw [continueProcessing, continueWith, noError, if_neg Bool.false_ne_true,
    isStage]
  dsimp only
  rw [notSent, if_neg Bool.false_ne_true, sendMetaDataNonblocking,
    if_pos irrelevant]
  exact if_pos rfl

theorem continueProcessing_declined (declined : flow.position.Declined)
    (irrelevant :
      settings.isInspectionRequiredForSource request.clientIp = false) :
    ∃ next, continueProcessing settings env request flow = (.declined, next) ∧
      next.position = flow.position := by
  have verdict : flow.session.verdict = .irrelevant := declined.verdict
  refine ⟨_, continueProcessing_irrelevant declined.noError
    declined.stage declined.metaDataSent irrelevant, ?_⟩
  simp only [Flow.position, Flow.setVerdict, Flow.updateSession, Flow.messages,
    verdict]

/-- A wait for the verdict on the headers is over. -/
def Flow.HeaderWaitOver (flow : Flow) : Prop :=
  flow.ctx.registered = true ∧ flow.ctx.stage = .waitHeaderVerdict ∧
    flow.session.verdict ≠ .delayed

instance (flow : Flow) : Decidable flow.HeaderWaitOver :=
  inferInstanceAs (Decidable (_ ∧ _ ∧ _))

theorem eventHandler_phase (reliable : env.Reliable)
    (phase : flow.position.Phase request settings)
    (waits : ¬flow.HeaderWaitOver) :
    (eventHandler settings env request flow).position.Phase request
      settings := by
  by_cases registered : flow.ctx.registered = true
  · have continued : ∃ rc next,
        continueProcessing settings env request flow = (rc, next) ∧
          next.position.Phase request settings ∧
          next.ctx.registered = true := by
      cases phase with
      | fresh fresh => exact nomatch fresh.unregistered.symm.trans registered
      | declined declined irrelevant =>
          obtain ⟨next, continued, same⟩ :=
            continueProcessing_declined declined irrelevant
          refine ⟨.declined, next, continued, ?_, ?_⟩
          · rw [same]
            exact .declined declined irrelevant
          · exact (congrArg Position.registered same).trans registered
      | started started =>
          obtain ⟨rc, _, continued⟩ :=
            continueProcessing_started started
          exact ⟨rc, flow, continued, .started started, registered⟩
      | headed headed =>
          obtain ⟨next, continued, same⟩ :=
            continueProcessing_headed reliable headed fun isStage =>
              not_not.mp fun waitOver => waits ⟨registered, isStage, waitOver⟩
          refine ⟨.again, next, continued, ?_, ?_⟩
          · rw [same]
            exact .headed headed
          · exact (congrArg Position.registered same).trans registered
      | inBody inBody =>
          obtain ⟨next, continued, here⟩ :=
            continueProcessing_inBody reliable inBody
          exact ⟨.again, next, continued, .inBody here, here.registered⟩
      | left left => exact nomatch left.unregistered.symm.trans registered
    obtain ⟨rc, next, continued, nextPhase, nextRegistered⟩ := continued
    have passes : ¬isVerdictDropOrCustom
        (continueProcessing settings env request flow).2.session.verdict := by
      rw [continued]
      exact (nextPhase.of_registered nextRegistered).1.nonFinal.passes
    rw [eventHandler, eventHandlerWith_position registered
      (phase.of_registered registered).2 passes, continued]
    exact nextPhase
  · rw [eventHandler, eventHandlerWith,
      if_pos (Bool.eq_false_of_not_eq_true registered)]
    exact phase

theorem noteVerdict_position (reply : VerdictReply) (flow : Flow) :
    (noteVerdict reply flow).position =
      { flow.position with verdict := reply.verdict } := by
  rw [noteVerdict]
  repeat' split
  all_goals rfl

theorem takeReply_position (taken : takeReply reply flow = some next) :
    next.position = flow.position := by
  obtain ⟨modifications, _, rfl⟩ := Option.map_eq_some_iff.mp taken
  split <;> rfl

theorem continueProcessing_headers (reliable : env.Reliable)
    (noError : flow.ctx.flowError = false) (isStage : flow.ctx.stage = .headers)
    (notSent : flow.ctx.headersSent = false) :
    ∃ next, continueProcessing settings env request flow = (.again, next) ∧
      next.position =
        { flow.position with
          headersSent := true
          messages := flow.messages ++ headerMessages env request } := by
  obtain ⟨calls, numMessagesSent, sent⟩ :=
    sendHeadersNonblocking_reliable request reliable flow
  rw [continueProcessing, continueWith, noError, if_neg Bool.false_ne_true,
    isStage]
  dsimp only
  rw [notSent, if_neg Bool.false_ne_true, sent, afterSender, if_neg (by simp)]
  refine ⟨_, rfl, ?_⟩
  rw [← messages_append_inspects headerMessages_inspect]
  rfl

/-- The position of a session that has sent its headers. -/
def Position.sendHeaders (env : Environment) (request : Request)
    (position : Position) : Position :=
  { position with
    stage := .headers
    headersSent := true
    messages := position.messages ++ headerMessages env request }

theorem eventHandler_sendHeaders (reliable : env.Reliable)
    (started : flow.position.Started request) :
    (eventHandler settings env request (flow.transition .headers)).position =
      flow.position.sendHeaders env request := by
  have noError : (flow.transition .headers).ctx.flowError = false :=
    started.noError
  have registered : (flow.transition .headers).ctx.registered = true :=
    started.registered
  have incomplete : (flow.transition .headers).ctx.stage ≠ .complete := nofun
  obtain ⟨next, continued, same⟩ := continueProcessing_headers
    reliable noError rfl started.headersSent
  have passes : ¬isVerdictDropOrCustom (continueProcessing settings env request
      (flow.transition .headers)).2.session.verdict := by
    have verdict : next.session.verdict = flow.session.verdict :=
      congrArg Position.verdict same
    rw [continued, verdict]
    exact started.nonFinal.passes
  rw [eventHandler, eventHandlerWith_position registered incomplete passes,
    continued, same]
  rfl

/-- A list of headers that is counted is said in full. -/
theorem Position.Started.headed {position : Position}
    (started : position.Started request) (counts : request.CountsHeaders) :
    (position.sendHeaders env request).Headed request := by
  have messages : (position.sendHeaders env request).messages =
      openingMessages request := by
    rw [Position.sendHeaders, started.messages,
      (headerMessages_eq_headerBulks_iff env request).mpr counts]
    rfl
  exact { started with
    stage := .inl rfl
    headersSent := rfl
    messages }

/-- The reply that lets the headers go: the one that the metadata waits for,
unless it delays the verdict. -/
def Flow.SendsHeaders (flow : Flow) (reply : VerdictReply) : Prop :=
  flow.ctx.registered = true ∧ flow.ctx.stage = .metaData ∧
    reply.verdict ≠ .delayed ∧ flow.session.remainingMessagesToReply ≤ 1

instance (flow : Flow) (reply : VerdictReply) :
    Decidable (flow.SendsHeaders reply) :=
  inferInstanceAs (Decidable (_ ∧ _ ∧ _ ∧ _))

theorem finishReply_sendHeaders (reliable : env.Reliable)
    (started : flow.position.Started request)
    (isStage : flow.ctx.stage = .metaData)
    (undelayed : flow.session.verdict ≠ .delayed)
    (answered : flow.session.remainingMessagesToReply = 0) :
    (finishReply settings env request flow).position =
      flow.position.sendHeaders env request := by
  have passes : ¬isVerdictDropOrCustom flow.session.verdict :=
    started.nonFinal.passes
  rw [finishReply, if_pos (.inl answered), applyVerdictForStage, isStage]
  dsimp only
  rw [if_neg passes, if_neg undelayed]
  exact eventHandler_sendHeaders reliable started

theorem finishReply_started (reliable : env.Reliable)
    (started : flow.position.Started request)
    (counts : flow.ctx.stage = .metaData → flow.session.verdict ≠ .delayed →
      flow.session.remainingMessagesToReply = 0 → request.CountsHeaders) :
    (finishReply settings env request flow).position.Phase request
      settings := by
  have passes : ¬isVerdictDropOrCustom flow.session.verdict :=
    started.nonFinal.passes
  by_cases answered : flow.session.remainingMessagesToReply = 0
  · rcases started.stage with isStage | isStage
    · have isStage : flow.ctx.stage = .metaData := isStage
      by_cases delayed : flow.session.verdict = .delayed
      · have waiting : (flow.transition .waitMetaVerdict).position.Started
            request := { started with stage := .inr rfl }
        rw [finishReply, if_pos (.inl answered), applyVerdictForStage, isStage]
        dsimp only
        rw [if_neg passes, if_pos delayed]
        apply eventHandler_phase reliable (.started waiting)
        rintro ⟨-, ⟨⟩, -⟩
      · rw [finishReply_sendHeaders reliable started isStage delayed
          answered]
        exact .headed (started.headed (counts isStage delayed answered))
    · have isStage : flow.ctx.stage = .waitMetaVerdict := isStage
      rw [finishReply, if_pos (.inl answered), applyVerdictForStage, isStage]
      exact .started started
  · have elsewhere : flow.ctx.stage ≠ .body := by
      intro isBody
      rcases started.stage with isStage | isStage <;>
        cases isBody.symm.trans isStage
    have waits : ¬(flow.session.remainingMessagesToReply = 0 ∨
        (flow.session.wasRequestFullyInspected = true ∧
          flow.ctx.stage = .body)) := by
      rintro (none | ⟨_, isBody⟩)
      · exact answered none
      · exact elsewhere isBody
    rw [finishReply, if_neg waits]
    exact .started started

theorem finishReply_headed (reliable : env.Reliable)
    (body : request.doesContainBody) (headed : flow.position.Headed request) :
    (finishReply settings env request flow).position.Phase request
      settings := by
  have passes : ¬isVerdictDropOrCustom flow.session.verdict :=
    headed.nonFinal.passes
  rw [finishReply]
  split
  · rw [applyVerdictForStage]
    rcases headed.stage with isStage | isStage
    · have isStage : flow.ctx.stage = .headers := isStage
      rw [isStage]
      dsimp only
      rw [if_neg passes]
      by_cases delayed : flow.session.verdict = .delayed
      · rw [if_pos delayed]
        have waiting : (flow.transition .waitHeaderVerdict).position.Headed
            request := { headed with stage := .inr rfl }
        apply eventHandler_phase reliable (.headed waiting)
        rintro ⟨_, _, waitOver⟩
        exact waitOver delayed
      · rw [if_neg delayed, if_pos body]
        have messages : flow.messages =
            inspection request flow.received flow.bodyEnded := by
          have received : flow.received = [] := headed.received
          have notEnded : flow.bodyEnded = false := headed.notEnded
          rw [received, notEnded, inspection_nil]
          exact headed.messages
        have inBody : ((declineHeader flow).transition
            .body).position.InBody request :=
          { headed with
            stage := .inl rfl
            headerDeclined := rfl
            unread := fun _ => ⟨headed.received, headed.notEnded⟩
            messages }
        split
        · exact .inBody inBody
        · exact .inBody inBody
    · have isStage : flow.ctx.stage = .waitHeaderVerdict := isStage
      rw [isStage]
      exact .headed headed
  · exact .headed headed

theorem finishReply_inBody (reliable : env.Reliable)
    (inBody : flow.position.InBody request) :
    (finishReply settings env request flow).position.Phase request
      settings := by
  have passes : ¬isVerdictDropOrCustom flow.session.verdict :=
    inBody.nonFinal.passes
  rw [finishReply]
  split
  · rw [applyVerdictForStage]
    rcases inBody.stage with isStage | isStage
    · have isStage : flow.ctx.stage = .body := isStage
      have elsewhere (flow : Flow) (isStage : flow.ctx.stage = .body) :
          ¬flow.HeaderWaitOver := by
        rintro ⟨_, waits, _⟩
        cases isStage.symm.trans waits
      rw [isStage]
      dsimp only
      rw [if_neg passes]
      split
      · exact .inBody { inBody with stage := .inr rfl }
      · split
        · exact eventHandler_phase reliable (.inBody inBody)
            (elsewhere (clearReqSeq flow) isStage)
        · exact eventHandler_phase reliable (.inBody inBody)
            (elsewhere flow isStage)
    · have isStage : flow.ctx.stage = .waitBodyVerdict := isStage
      rw [isStage]
      exact .inBody inBody
  · exact .inBody inBody

theorem answered_counts {taken : Flow}
    (counts : flow.SendsHeaders reply → request.CountsHeaders)
    (registered : flow.ctx.registered = true)
    (nonFinal : NonFinal reply.verdict)
    (isTaken : takeReply reply (noteVerdict reply flow) = some taken) :
    taken.ctx.stage = .metaData → taken.session.verdict ≠ .delayed →
      taken.session.remainingMessagesToReply = 0 →
        request.CountsHeaders := by
  intro isStage undelayed answered
  have same := takeReply_position isTaken
  rw [noteVerdict_position] at same
  rw [takeReply_remaining nonFinal.passes isTaken,
    noteVerdict_remaining] at answered
  refine counts ⟨registered, ?_, ?_, by omega⟩
  · exact (congrArg Position.stage same).symm.trans isStage
  · exact fun delayed =>
      undelayed ((congrArg Position.verdict same).trans delayed)

theorem drainReply_phase (reliable : env.Reliable)
    (body : request.doesContainBody)
    (phase : flow.position.Phase request settings)
    (nonFinal : NonFinal reply.verdict) (seen : flow.messages ≠ [])
    (counts : flow.SendsHeaders reply → request.CountsHeaders)
    (drained : drainReply settings env request reply flow = some next) :
    next.position.Phase request settings := by
  rw [drainReply] at drained
  split at drained
  · cases drained
    exact phase
  · split at drained
    · cases drained
      exact phase
    · rename_i found
      obtain ⟨limit, _⟩ | ⟨_, taken, isTaken, rfl⟩ :=
        applyVerdict_cases settings env request drained
      · rw [limit] at nonFinal
        exact absurd nonFinal (by decide)
      · have same := takeReply_position isTaken
        rw [noteVerdict_position] at same
        cases phase with
        | fresh fresh => exact (seen fresh.messages).elim
        | declined declined _ => exact (seen declined.messages).elim
        | started started =>
            have stays : taken.position.Started request := by
              rw [same]
              exact { started with nonFinal }
            apply finishReply_started reliable stays
            exact answered_counts counts started.registered nonFinal isTaken
        | headed headed =>
            apply finishReply_headed reliable body
            rw [same]
            exact { headed with nonFinal }
        | inBody inBody =>
            apply finishReply_inBody reliable
            rw [same]
            exact { inBody with nonFinal }
        | left left =>
            exact (found (.inl left.unregistered)).elim

/-- A call that meets no failure, no limit and no setting that keeps the
session from the service. -/
structure HandlerCall.Undisturbed (call : HandlerCall) : Prop where
  enabled : call.isAsyncModeEnabled = true
  notTransparent : call.isInTransparentMode = false
  notDisabled : call.isAttachmentDisabled = false
  confFound : call.confFound = true
  allocated : call.sessionDataAllocated = true
  unlimited : call.sessionsRateVerdict = .inspect
  ready : call.registration.Ready
  notCorrupted : call.shmemCorrupted = false
  ctxCreated : call.ctxCreated = true
  notCorruptedAtStart : call.shmemCorruptedAtStart = false

instance (call : HandlerCall) : Decidable call.Undisturbed :=
  decidable_of_iff
    (call.isAsyncModeEnabled = true ∧ call.isInTransparentMode = false ∧
      call.isAttachmentDisabled = false ∧ call.confFound = true ∧
      call.sessionDataAllocated = true ∧
      call.sessionsRateVerdict = .inspect ∧ call.registration.Ready ∧
      call.shmemCorrupted = false ∧ call.ctxCreated = true ∧
      call.shmemCorruptedAtStart = false)
    ⟨fun ⟨a, b, c, d, e, f, g, h, i, j⟩ => ⟨a, b, c, d, e, f, g, h, i, j⟩,
      fun ⟨a, b, c, d, e, f, g, h, i, j⟩ => ⟨a, b, c, d, e, f, g, h, i, j⟩⟩

theorem reqHeaderHandlerAsync_of_undisturbed (undisturbed : call.Undisturbed)
    (flow : Flow) :
    reqHeaderHandlerAsync settings env request call flow =
      handleRegistered settings env request call
        (enterAsyncMode (asyncInit flow)) := by
  rw [reqHeaderHandlerAsync, initIfEnabled, if_pos undisturbed.enabled,
    handleRequest, undisturbed.notTransparent, undisturbed.notDisabled,
    undisturbed.confFound, undisturbed.allocated, handleSession,
    undisturbed.enabled, undisturbed.unlimited]
  rcases undisturbed.ready with ready | ready
  · simp [ready]
  · simp [ready]

/-- The handler finds an active session as it was. -/
theorem Position.Active.enterAsyncMode (active : flow.position.Active) :
    (Async.enterAsyncMode (asyncInit flow)).position = flow.position := by
  have isInitialized : flow.isInitialized = true := active.isInitialized
  have isSet : flow.session.isSet = true := active.isSet
  have asyncMode : flow.session.initialAsyncMode = 1 := active.initialAsyncMode
  rw [asyncInit, if_pos isInitialized, enterAsyncMode_of_set isSet, ← asyncMode]
  rfl

theorem handleRegistered_phase (reliable : env.Reliable)
    (undisturbed : call.Undisturbed)
    (phase : flow.position.Phase request settings)
    (registered : flow.ctx.registered = true)
    (pending : flow.lifecycle = .pending) (waits : ¬flow.HeaderWaitOver) :
    (afterHandler (handleRegistered settings env request call
      flow)).position.Phase request settings := by
  rw [handleRegistered, undisturbed.notCorrupted, if_neg Bool.false_ne_true,
    if_pos registered]
  cases phase with
  | fresh fresh => exact nomatch fresh.unregistered.symm.trans registered
  | declined declined _ => exact (declined.notPending pending).elim
  | started started =>
      have notDeclined : flow.ctx.headerDeclined = false :=
        started.headerDeclined
      obtain ⟨rc, waits, continued⟩ :=
        continueProcessing_started started
      rw [notDeclined, if_neg Bool.false_ne_true, continued]
      rcases waits with rfl | rfl
      · exact .started started
      · exact .started { started with notAdmitted := nofun }
  | headed headed =>
      have notDeclined : flow.ctx.headerDeclined = false :=
        headed.headerDeclined
      obtain ⟨next, continued, same⟩ :=
        continueProcessing_headed reliable headed fun isStage =>
          not_not.mp fun waitOver => waits ⟨registered, isStage, waitOver⟩
      rw [notDeclined, if_neg Bool.false_ne_true, continued]
      rw [← same] at headed
      exact .headed headed
  | inBody inBody =>
      have declined : flow.ctx.headerDeclined = true := inBody.headerDeclined
      rw [if_pos declined]
      exact .inBody { inBody with unread := nofun }
  | left left => exact (left.notPending pending).elim

/-- A new context sends the metadata, unless the source needs no
inspection. -/
theorem continueProcessing_metaData (reliable : env.Reliable)
    (noError : flow.ctx.flowError = false)
    (isStage : flow.ctx.stage = .metaData)
    (notSent : flow.ctx.metaDataSent = false)
    (required :
      settings.isInspectionRequiredForSource request.clientIp = true) :
    ∃ next, continueProcessing settings env request flow = (.again, next) ∧
      next.position =
        { flow.position with
          metaDataSent := true
          messages := flow.messages ++ [metaDataMessage request] } := by
  have sent : sendMetaDataNonblocking env request settings flow =
      (.ok, 1,
        { flow with
          calls := flow.calls + 1 + 1
          enqueued := flow.enqueued ++ [metaDataMessage request] }) := by
    rw [sendMetaDataNonblocking, required, if_neg (by decide),
      sendMessage_reliable reliable]
  rw [continueProcessing, continueWith, noError, if_neg Bool.false_ne_true,
    isStage]
  dsimp only
  rw [notSent, if_neg Bool.false_ne_true, sent]
  dsimp only
  rw [if_neg (by decide), afterSender, if_neg (by decide)]
  refine ⟨_, rfl, ?_⟩
  rw [← messages_append_inspects]
  · rfl
  · intro message member
    rw [List.mem_singleton.mp member]
    exact (by decide : AttachmentDataType.requestStart ≠
      .requestDelayedVerdict)

/-- A session that the first call of the handler starts. -/
structure Flow.Opened (flow : Flow) : Prop where
  isSet : flow.session.isSet = true
  verdict : flow.session.verdict = .inspect
  initialAsyncMode : flow.session.initialAsyncMode = 1
  isInitialized : flow.isInitialized = true
  pending : flow.lifecycle = .pending
  received : flow.received = []
  notEnded : flow.bodyEnded = false
  forwarded : flow.forwarded = []
  messages : flow.messages = []

/-- The position of a session with a new context. -/
def Flow.Opened.position (flow : Flow) (verdict : ServiceVerdict) :
    Position :=
  { ((createCtx flow).updateCtx fun ctx =>
      { ctx with stage := .metaData }).position with
    verdict
    asyncProcessingNeeded := true }

theorem Flow.Opened.active (opened : flow.Opened) {verdict : ServiceVerdict}
    (nonFinal : NonFinal verdict) :
    (Flow.Opened.position flow verdict).Active where
  isSet := opened.isSet
  nonFinal := nonFinal
  asyncProcessingNeeded := rfl
  initialAsyncMode := opened.initialAsyncMode
  registered := rfl
  noError := rfl
  isInitialized := opened.isInitialized
  released := nofun
  seenLast := nofun
  parked := by
    have forwarded : (Flow.Opened.position flow verdict).forwarded = [] :=
      opened.forwarded
    rw [forwarded]
    exact List.nil_subset _

theorem startInspection_phase (reliable : env.Reliable)
    (undisturbed : call.Undisturbed) (opened : flow.Opened) :
    (afterHandler (startInspection settings env request call
      flow)).position.Phase request settings := by
  rw [startInspection, startAgentCommunication,
    undisturbed.notCorruptedAtStart, if_neg Bool.false_ne_true]
  cases required :
      settings.isInspectionRequiredForSource request.clientIp with
  | true =>
      have noError : ((createCtx flow).updateCtx fun ctx =>
          { ctx with stage := .metaData }).ctx.flowError = false := rfl
      obtain ⟨next, continued, same⟩ := continueProcessing_metaData
        reliable noError rfl rfl required
      rw [continued]
      have started : ({ next.position with
          asyncProcessingNeeded := true } : Position).Started request := by
        have active : (Flow.Opened.position flow .inspect).Active :=
          opened.active (.inl rfl)
        have verdict : flow.session.verdict = .inspect := opened.verdict
        have messages : flow.messages = [] := opened.messages
        have first : ((createCtx flow).updateCtx fun ctx =>
            { ctx with stage := .metaData }).messages ++
              [metaDataMessage request] = [metaDataMessage request] :=
          congrArg (· ++ [metaDataMessage request]) messages
        have pending : flow.lifecycle ≠ .admitted := by
          rw [opened.pending]
          decide
        rw [same, first]
        exact { active with
          nonFinal := .inl verdict
          notAdmitted := pending
          received := opened.received
          notEnded := opened.notEnded
          stage := .inl rfl
          metaDataSent := rfl
          headersSent := rfl
          endTransactionSent := rfl
          headerDeclined := rfl
          messages := rfl }
      exact .started started
  | false =>
      have noError : ((createCtx flow).updateCtx fun ctx =>
          { ctx with stage := .metaData }).ctx.flowError = false := rfl
      rw [continueProcessing_irrelevant noError rfl rfl required]
      have active : (Flow.Opened.position flow .irrelevant).Active :=
        opened.active (.inr (.inr (.inr rfl)))
      exact .declined { active with
        stage := rfl
        metaDataSent := rfl
        headersSent := rfl
        verdict := rfl
        notPending := nofun
        received := opened.received
        notEnded := opened.notEnded
        messages := opened.messages } required

theorem closed_left (unregistered : flow.ctx.registered = false)
    (messages : flow.messages = []) (forwarded : flow.forwarded = []) :
    flow.close.position.Left request where
  unregistered := unregistered
  notPending := nofun
  admitted := nofun
  ordered := by
    have messages : flow.close.position.messages = [] := messages
    rw [messages]
    exact List.nil_prefix
  covered := by
    have forwarded : flow.close.position.forwarded = [] := forwarded
    rw [forwarded]
    exact List.forall_mem_nil _

theorem asyncInit_of_unregistered (unregistered : flow.ctx.registered = false) :
    asyncInit flow = { flow with isInitialized := true } := by
  rw [asyncInit]
  split
  · rename_i isInitialized
    rw [← isInitialized]
  · rw [Flow.updateCtx, ← unregistered]

theorem handleRegistered_fresh (reliable : env.Reliable)
    (undisturbed : call.Undisturbed) (fresh : flow.position.Fresh) :
    (afterHandler (handleRegistered settings env request call
      (enterAsyncMode (asyncInit flow)))).position.Phase request
        settings := by
  have unregistered : flow.ctx.registered = false := fresh.unregistered
  have unset : ({ flow with isInitialized := true } : Flow).session.isSet =
      false := fresh.unset
  rw [asyncInit_of_unregistered unregistered, enterAsyncMode_of_fresh unset]
  generalize isEntered : Flow.updateSession (fun _ =>
    { SessionData.start true with initialAsyncMode := 1 })
      { flow with isInitialized := true } = entered
  have opened : entered.Opened := by
    rw [← isEntered]
    constructor
    · rfl
    · rfl
    · rfl
    · rfl
    · exact fresh.pending
    · exact fresh.received
    · exact fresh.notEnded
    · exact fresh.forwarded
    · exact fresh.messages
  have absent : entered.ctx.registered = false := by
    rw [← isEntered]
    exact unregistered
  have undecided : ¬(entered.session.asyncProcessingNeeded = false ∧
      (entered.session.verdict ≠ .inspect ∨
        entered.session.wasRequestFullyInspected = true)) := by
    rw [← isEntered]
    rintro ⟨_, decided | inspected⟩
    · exact decided rfl
    · cases inspected
  rw [handleRegistered, undisturbed.notCorrupted, if_neg Bool.false_ne_true,
    absent, if_neg Bool.false_ne_true, if_neg undecided,
    undisturbed.ctxCreated]
  cases call.staticResource with
  | served =>
      exact .left (closed_left absent opened.messages opened.forwarded)
  | failed =>
      exact .left (closed_left absent opened.messages opened.forwarded)
  | notStatic => exact startInspection_phase reliable undisturbed opened

theorem headerHandler_phase (reliable : env.Reliable)
    (undisturbed : call.Undisturbed)
    (phase : flow.position.Phase request settings)
    (pending : flow.lifecycle = .pending) (waits : ¬flow.HeaderWaitOver) :
    (afterHandler (reqHeaderHandlerAsync settings env request call
      flow)).position.Phase request settings := by
  rw [reqHeaderHandlerAsync_of_undisturbed undisturbed]
  by_cases registered : flow.ctx.registered = true
  · have same := (phase.of_registered registered).1.enterAsyncMode
    apply handleRegistered_phase reliable undisturbed
    · rw [same]
      exact phase
    · exact (congrArg Position.registered same).trans registered
    · exact (congrArg Position.lifecycle same).trans pending
    · rintro ⟨_, isStage, waitOver⟩
      refine waits ⟨registered, ?_, ?_⟩
      · exact (congrArg Position.stage same).symm.trans isStage
      · exact fun delayed =>
          waitOver ((congrArg Position.verdict same).trans delayed)
  · cases phase with
    | fresh fresh =>
        exact handleRegistered_fresh reliable undisturbed fresh
    | left left => exact (left.notPending pending).elim
    | declined declined _ => exact (registered declined.registered).elim
    | started started => exact (registered started.registered).elim
    | headed headed => exact (registered headed.registered).elim
    | inBody inBody => exact (registered inBody.registered).elim

/-- A call that meets no failure, and no setting that keeps the body from the
service. -/
structure FilterCall.Undisturbed (call : FilterCall) : Prop where
  enabled : call.isAsyncModeEnabled = true
  ready : call.isIpcReady = true
  copied : call.chainCopied = true

instance (call : FilterCall) : Decidable call.Undisturbed :=
  decidable_of_iff
    (call.isAsyncModeEnabled = true ∧ call.isIpcReady = true ∧
      call.chainCopied = true)
    ⟨fun ⟨a, b, c⟩ => ⟨a, b, c⟩, fun ⟨a, b, c⟩ => ⟨a, b, c⟩⟩

/-- The chunks of a chain, and its end if it has the last buffer. -/
def chainMessages (request : Request) (chain : List NgxBuf) : List Message :=
  bodyMessages request chain ++
    if chain.any NgxBuf.lastBuf then [endTransactionMessage request] else []

theorem chainMessages_cons {buf : NgxBuf} (notLast : buf.lastBuf = false)
    (chain : List NgxBuf) :
    chainMessages request (buf :: chain) =
      bodyMessages request [buf] ++ chainMessages request chain := by
  have chunks : bodyMessages request (buf :: chain) =
      bodyMessages request [buf] ++ bodyMessages request chain := by
    rw [bodyMessages, bodyMessages, bodyMessages, ← List.map_append,
      ← List.filter_append]
    rfl
  rw [chainMessages, chainMessages, chunks, List.any_cons, notLast,
    Bool.false_or, List.append_assoc]

/-- Only the last buffer of a chain can be the last one of the body. -/
theorem sendBufs_reliable (reliable : env.Reliable)
    (lastOnly : ∀ buf ∈ chain.dropLast, buf.lastBuf = false) (flow : Flow) :
    ∃ next, sendBufs env request chain flow = (none, next) ∧
      next.position =
        { flow.position with
          messages := flow.messages ++ chainMessages request chain
          reqSeenLast := flow.ctx.reqSeenLast || chain.any NgxBuf.lastBuf
          endTransactionSent :=
            flow.ctx.endTransactionSent || chain.any NgxBuf.lastBuf } := by
  induction chain generalizing flow with
  | nil =>
      refine ⟨flow, rfl, ?_⟩
      have nothing : flow.messages ++ chainMessages request [] =
          flow.messages := List.append_nil _
      rw [nothing, List.any_nil, Bool.or_false, Bool.or_false]
      rfl
  | cons buf chain induction =>
      obtain ⟨calls, numMessagesSent, sent⟩ :=
        sendSingleBodyChunkNonblocking_reliable request reliable buf flow
      rw [sendBufs, sent]
      dsimp only
      rw [if_neg (by decide)]
      generalize isCounted : expectBodyReplies numMessagesSent _ = counted
      have messages : counted.messages =
          flow.messages ++ bodyMessages request [buf] := by
        rw [← isCounted, ← messages_append_inspects (bodyMessages_inspect _)]
        rfl
      have same : counted.position =
          { flow.position with messages := counted.messages } := by
        rw [← isCounted]
        rfl
      cases notLast : buf.lastBuf with
      | false =>
          have rest : ∀ buf ∈ chain.dropLast, buf.lastBuf = false := by
            intro other member
            apply lastOnly
            cases chain with
            | nil => cases member
            | cons second chain => exact List.mem_cons_of_mem _ member
          obtain ⟨next, ended, position⟩ := induction rest counted
          refine ⟨next, ended, ?_⟩
          rw [position, messages, chainMessages_cons notLast,
            List.append_assoc, List.any_cons, notLast, Bool.false_or,
            ← isCounted]
          rfl
      | true =>
          have single : chain = [] := by
            by_contra more
            have first : buf ∈ (buf :: chain).dropLast := by
              rw [List.dropLast_cons_of_ne_nil more]
              exact List.mem_cons_self
            cases notLast.symm.trans (lastOnly buf first)
          subst single
          have ending : ∀ message ∈ [endTransactionMessage request],
              Message.Inspects message := by
            intro message member
            rw [List.mem_singleton.mp member]
            exact (by decide : AttachmentDataType.requestEnd ≠
              .requestDelayedVerdict)
          rw [if_pos rfl, sendEndTransactionNonblocking_reliable request
            reliable]
          dsimp only
          rw [if_neg (by decide)]
          refine ⟨_, rfl, ?_⟩
          have whole : chainMessages request [buf] =
              bodyMessages request [buf] ++ [endTransactionMessage request] := by
            rw [chainMessages, List.any_cons, notLast]
            rfl
          rw [whole, ← List.append_assoc, ← messages,
            ← messages_append_inspects ending, List.any_cons, notLast,
            Bool.true_or, Bool.or_true, Bool.or_true, ← isCounted]
          rfl

/-- A context that leaves the table with its inspection up to date. -/
theorem Position.InBody.left {position : Position}
    (inBody : position.InBody request)
    (admitted : position.lifecycle = .admitted → position.bodyEnded = true)
    (notPending : position.lifecycle ≠ .pending) :
    ({ position with registered := false } : Position).Left request where
  unregistered := rfl
  notPending := notPending
  admitted := fun isAdmitted => ⟨admitted isAdmitted, inBody.messages⟩
  ordered := by
    exact inBody.messages ▸ List.prefix_rfl
  covered := by
    intro buf member isSent
    rw [inBody.messages]
    apply mem_inspection _ isSent
    exact inBody.parked (List.mem_append_left _ member)

theorem Position.Active.left_of_unread {position : Position}
    (active : position.Active) (received : position.received = [])
    (ordered : position.messages <+: inspection request [] false)
    (notEnded : position.bodyEnded = false) :
    ({ position with
      registered := false, lifecycle := .closed } : Position).Left request where
  unregistered := rfl
  notPending := nofun
  admitted := nofun
  ordered := by
    rw [received, notEnded]
    exact ordered
  covered := by
    rw [(active.forwarded_eq_nil received).1]
    exact List.forall_mem_nil _

/-- A session can be closed at any time. -/
theorem Position.Phase.close (phase : flow.position.Phase request settings) :
    flow.close.position.Phase request settings := by
  cases phase with
  | fresh fresh =>
      exact .left (closed_left fresh.unregistered fresh.messages
        fresh.forwarded)
  | declined declined irrelevant =>
      exact .declined { declined with notPending := nofun } irrelevant
  | started started => exact .started { started with notAdmitted := nofun }
  | headed headed => exact .headed { headed with notAdmitted := nofun }
  | inBody inBody => exact .inBody { inBody with unread := nofun }
  | left left =>
      exact .left { left with notPending := nofun, admitted := nofun }

theorem afterFilter_phase {after : NgxRc × Flow}
    (phase : after.2.position.Phase request settings) :
    (afterFilter after).position.Phase request settings := by
  rw [afterFilter.eq_def]
  split
  · exact phase
  · exact phase
  · exact phase
  · exact phase
  · exact phase.close

theorem reqBodyFilterAsync_active {call : FilterCall}
    (undisturbed : call.Undisturbed) (active : flow.position.Active)
    (chain : List NgxBuf) :
    reqBodyFilterAsync env request chain call flow =
      if flow.session.verdict ≠ .inspect then
        (.httpForbidden, flow.destroyCtx.forbid)
      else filterInspected env request chain call (startBodyPhase flow) := by
  have isSet : flow.session.isSet = true := active.isSet
  have asyncMode : flow.session.initialAsyncMode = 1 := active.initialAsyncMode
  have needed : flow.session.asyncProcessingNeeded = true :=
    active.asyncProcessingNeeded
  have registered : flow.ctx.registered = true := active.registered
  have noError : flow.ctx.flowError = false := active.noError
  have notAccept : flow.session.verdict ≠ .accept := by
    have nonFinal : NonFinal flow.session.verdict := active.nonFinal
    intro accept
    rw [accept] at nonFinal
    exact absurd nonFinal (by decide)
  simp [reqBodyFilterAsync, isSet, asyncMode, needed, registered, noError,
    notAccept, undisturbed.enabled, undisturbed.ready]

theorem inspection_receive (canReceive : flow.CanReceive chain) :
    inspection request (flow.receive chain).received
        (flow.receive chain).bodyEnded =
      inspection request flow.received flow.bodyEnded ++
        chainMessages request chain := by
  cases ended : flow.bodyEnded with
  | true =>
      rw [canReceive.1 ended, Flow.receive, ended, List.append_nil]
      exact (List.append_nil _).symm
  | false =>
      have chunks : bodyMessages request (flow.received ++ chain) =
          bodyMessages request flow.received ++ bodyMessages request chain := by
        rw [bodyMessages, List.filter_append, List.map_append]
        rfl
      rw [Flow.receive, ended, inspection, inspection, chunks, chainMessages,
        Bool.false_or, if_neg Bool.false_ne_true, List.append_nil]
      simp only [List.append_assoc]

theorem receive_nil (flow : Flow) : flow.receive [] = flow := by
  simp [Flow.receive]

/-- The parked buffers go on. -/
theorem Position.InBody.flush {position : Position}
    (inBody : position.InBody request) :
    ({ position with
      forwarded := position.forwarded ++ position.queue
      queue := [] } : Position).InBody request :=
  { inBody with
    parked := by
      rw [List.append_nil]
      exact inBody.parked }

theorem inspectChain_inBody (reliable : env.Reliable) {call : FilterCall}
    (undisturbed : call.Undisturbed) (inBody : flow.position.InBody request)
    (admitted : flow.lifecycle = .admitted)
    (canReceive : flow.CanReceive chain) :
    (inspectChain env request chain call
      (startBodyPhase (flow.receive chain))).2.position.InBody request := by
  obtain ⟨next, sent, same⟩ := sendBufs_reliable reliable canReceive.2
    (chainAddCopy chain (startBodyPhase (flow.receive chain)))
  have here : next.position.InBody request := by
    have messages : flow.messages ++ chainMessages request chain =
        inspection request (flow.receive chain).received
          (flow.receive chain).bodyEnded := by
      rw [inspection_receive canReceive]
      exact congrArg (· ++ chainMessages request chain) inBody.messages
    rw [same]
    exact { inBody with
      released := by
        intro released
        exact Bool.or_eq_true_iff.mpr (.inl (inBody.released released))
      seenLast := by
        intro seenLast
        exact Bool.or_eq_true_iff.mpr
          ((Bool.or_eq_true_iff.mp seenLast).imp_left inBody.seenLast)
      parked := by
        have parked : flow.forwarded ++ (flow.ctx.queue ++ chain) ⊆
            flow.received ++ chain := by
          rw [← List.append_assoc]
          apply List.append_subset.mpr
          constructor
          · exact List.Subset.trans inBody.parked (List.subset_append_left _ _)
          · exact List.subset_append_right _ _
        exact parked
      unread := fun pending => nomatch admitted.symm.trans pending
      messages }
  rw [inspectChain, undisturbed.copied, if_neg (by decide), sent]
  dsimp only
  split
  · exact here
  · exact here

theorem filterInspected_phase (reliable : env.Reliable) {call : FilterCall}
    (undisturbed : call.Undisturbed) (inBody : flow.position.InBody request)
    (admitted : flow.lifecycle = .admitted)
    (canReceive : flow.CanReceive chain) :
    (filterInspected env request chain call
      (startBodyPhase (flow.receive chain))).2.position.Phase request
        settings := by
  rw [filterInspected]
  split
  · -- nothing follows a body that has been released
    rename_i releases
    have ended : flow.bodyEnded = true :=
      inBody.seenLast (inBody.released releases.1)
    rw [canReceive.1 ended, receive_nil]
    apply Position.Phase.left
    apply inBody.flush.left (fun _ => ended)
    intro pending
    exact nomatch admitted.symm.trans pending
  · split
    · rename_i flushes
      rw [flushes.2.2, receive_nil]
      exact .inBody inBody.flush
    · split
      · exact .inBody (inspectChain_inBody reliable undisturbed inBody admitted
          canReceive)
      · rename_i nothing
        rw [not_not.mp nothing, receive_nil]
        exact .inBody inBody

theorem Position.Active.receive (active : flow.position.Active)
    (chain : List NgxBuf) :
    (flow.receive chain).position.Active :=
  { active with
    seenLast := fun seenLast =>
      Bool.or_eq_true_iff.mpr (.inl (active.seenLast seenLast))
    parked := List.Subset.trans active.parked (List.subset_append_left _ _) }

theorem left_of_forbidden
    (ordered : flow.messages <+: inspection request
      (flow.receive chain).received (flow.receive chain).bodyEnded)
    (covered : ∀ buf ∈ flow.forwarded, buf.IsSent →
      bodyMessage request buf ∈ flow.messages) :
    (flow.receive chain).destroyCtx.forbid.close.position.Left request where
  unregistered := rfl
  notPending := nofun
  admitted := nofun
  ordered := ordered
  covered := covered

theorem bodyFilter_phase (reliable : env.Reliable) {call : FilterCall}
    (undisturbed : call.Undisturbed)
    (phase : flow.position.Phase request settings)
    (admitted : flow.lifecycle = .admitted)
    (canReceive : flow.CanReceive chain) :
    (afterFilter (reqBodyFilterAsync env request chain call
      (flow.receive chain))).position.Phase request settings := by
  cases phase with
  | fresh fresh => exact nomatch fresh.pending.symm.trans admitted
  | declined declined _ =>
      have irrelevant : (flow.receive chain).session.verdict ≠ .inspect := by
        have verdict : (flow.receive chain).session.verdict = .irrelevant :=
          declined.verdict
        rw [verdict]
        decide
      rw [reqBodyFilterAsync_active undisturbed
        (declined.toActive.receive chain), if_pos irrelevant]
      apply Position.Phase.left
      apply left_of_forbidden
      · have messages : flow.messages = [] := declined.messages
        rw [messages]
        exact List.nil_prefix
      · have forwarded : flow.forwarded = [] :=
          (declined.toActive.forwarded_eq_nil declined.received).1
        rw [forwarded]
        exact List.forall_mem_nil _
  | started started => exact (started.notAdmitted admitted).elim
  | headed headed => exact (headed.notAdmitted admitted).elim
  | inBody inBody =>
      rw [reqBodyFilterAsync_active undisturbed
        (inBody.toActive.receive chain)]
      split
      · have messages : flow.messages = inspection request flow.received
            flow.bodyEnded := inBody.messages
        apply Position.Phase.left
        apply left_of_forbidden
        · rw [inspection_receive canReceive, messages]
          exact List.prefix_append _ _
        · intro buf member isSent
          rw [messages]
          apply mem_inspection _ isSent
          exact inBody.parked (List.mem_append_left _ member)
      · apply afterFilter_phase
        exact filterInspected_phase reliable undisturbed inBody
          admitted canReceive
  | left left =>
      have ended : flow.bodyEnded = true := (left.admitted admitted).1
      rw [canReceive.1 ended, receive_nil, reqBodyFilterAsync_of_unregistered
        env request left.unregistered]
      apply afterFilter_phase
      have same : (flow.forward []).position = flow.position := by
        simp [Flow.forward, Flow.position, Flow.messages]
      rw [same]
      exact .left left

theorem Position.Phase.park {position : Position}
    (phase : position.Phase request settings)
    (registered : position.registered = true) {forwarded queue : List NgxBuf}
    (parked : forwarded ++ queue ⊆ position.received) :
    ({ position with forwarded, queue } : Position).Phase request
      settings := by
  cases phase with
  | fresh fresh => exact nomatch fresh.unregistered.symm.trans registered
  | declined declined irrelevant =>
      exact .declined { declined with parked } irrelevant
  | started started => exact .started { started with parked }
  | headed headed => exact .headed { headed with parked }
  | inBody inBody => exact .inBody { inBody with parked }
  | left left => exact nomatch left.unregistered.symm.trans registered

/-- A released session has been inspected as a whole. -/
theorem Position.Phase.release {position : Position}
    (phase : position.Phase request settings)
    (registered : position.registered = true)
    (released : position.released = true) :
    ({ position with registered := false } : Position).Phase request
      settings := by
  have active := (phase.of_registered registered).1
  have ended := active.seenLast (active.released released)
  cases phase with
  | fresh fresh => exact nomatch fresh.unregistered.symm.trans registered
  | declined declined _ => exact nomatch declined.notEnded.symm.trans ended
  | started started => exact nomatch started.notEnded.symm.trans ended
  | headed headed => exact nomatch headed.notEnded.symm.trans ended
  | inBody inBody =>
      apply Position.Phase.left
      apply inBody.left (fun _ => ended)
      intro pending
      exact nomatch (inBody.unread pending).2.symm.trans ended
  | left left => exact nomatch left.unregistered.symm.trans registered

theorem postedResume_phase (downstream : NgxRc)
    (phase : flow.position.Phase request settings) :
    (postedResume downstream flow).position.Phase request settings := by
  rw [postedResume]
  split
  · exact phase
  · rename_i found
    rw [not_or, Bool.not_eq_false, Bool.not_eq_false] at found
    have active := (phase.of_registered found.2).1
    dsimp only
    generalize isSent : (if flow.ctx.queue = [] then flow
      else flow.forward flow.ctx.queue) = sent
    have position : sent.position =
        { flow.position with
          forwarded := flow.forwarded ++ flow.ctx.queue } := by
      rw [← isSent]
      split
      · rename_i empty
        rw [empty, List.append_nil]
        rfl
      · rfl
    split
    · have resumed : sent.position.Phase request settings := by
        rw [position]
        apply phase.park found.2
        rw [List.append_assoc]
        apply List.append_subset.mpr
        have parked := List.append_subset.mp active.parked
        exact ⟨parked.1, List.append_subset.mpr ⟨parked.2, parked.2⟩⟩
      exact resumed
    · have resumed : ({ sent.position with queue := [] } : Position).Phase request settings := by
        rw [position]
        apply phase.park found.2
        rw [List.append_nil]
        exact active.parked
      have registered : sent.position.registered = true := by
        rw [position]
        exact found.2
      split
      · rename_i releases
        exact resumed.release registered releases.1
      · exact resumed

theorem asyncInit_phase (phase : flow.position.Phase request settings) :
    (asyncInit flow).position.Phase request settings := by
  by_cases registered : flow.ctx.registered = true
  · have isInitialized : flow.isInitialized = true :=
      (phase.of_registered registered).1.isInitialized
    rw [asyncInit, if_pos isInitialized]
    exact phase
  · rw [asyncInit_of_unregistered (Bool.eq_false_of_not_eq_true registered)]
    cases phase with
    | fresh fresh => exact .fresh { fresh with }
    | left left => exact .left { left with }
    | declined declined _ => exact (registered declined.registered).elim
    | started started => exact (registered started.registered).elim
    | headed headed => exact (registered headed.registered).elim
    | inBody inBody => exact (registered inBody.registered).elim

theorem requestFreed_phase (phase : flow.position.Phase request settings) :
    flow.destroyCtx.close.position.Phase request settings := by
  cases phase with
  | fresh fresh =>
      exact .left (closed_left rfl fresh.messages fresh.forwarded)
  | declined declined _ =>
      apply Position.Phase.left
      apply declined.toActive.left_of_unread declined.received _
        declined.notEnded
      rw [declined.messages]
      exact List.nil_prefix
  | started started =>
      apply Position.Phase.left
      apply started.toActive.left_of_unread started.received _
        started.notEnded
      rw [started.messages, inspection_nil]
      exact List.prefix_append [_] _
  | headed headed =>
      apply Position.Phase.left
      apply headed.toActive.left_of_unread headed.received _ headed.notEnded
      simp only [headed.messages, inspection_nil, List.prefix_rfl]
  | inBody inBody =>
      have closed : ({ flow.position with
          lifecycle := .closed } : Position).InBody request :=
        { inBody with unread := nofun }
      exact .left (closed.left nofun nofun)
  | left left =>
      exact .left { left with
        unregistered := rfl, notPending := nofun, admitted := nofun }

/-- A step in which nothing fails, and the service has not decided. -/
def Flow.Undisturbed (flow : Flow) : Input → Prop
  | .headerHandler call => call.Undisturbed
  | .bodyFilter _ call => call.Undisturbed
  | .reply reply => NonFinal reply.verdict ∧ flow.messages ≠ []
  | .agentEvent | .resumeEvent _ _ | .asyncInit | .requestFreed => True
  | .deadlineEvent | .cleanupEvent | .cleanup => False

instance (flow : Flow) : ∀ input, Decidable (flow.Undisturbed input)
  | .headerHandler call => inferInstanceAs (Decidable call.Undisturbed)
  | .bodyFilter _ call => inferInstanceAs (Decidable call.Undisturbed)
  | .reply _ => inferInstanceAs (Decidable (_ ∧ _))
  | .agentEvent | .resumeEvent _ _ | .asyncInit | .requestFreed =>
      inferInstanceAs (Decidable True)
  | .deadlineEvent | .cleanupEvent | .cleanup =>
      inferInstanceAs (Decidable False)

/-- The step continues a session whose wait for the verdict on the headers is
over, or sends headers that the context does not count. -/
def Flow.LeavesOrder (request : Request) (flow : Flow) : Input → Prop
  | .headerHandler _ | .agentEvent => flow.HeaderWaitOver
  | .reply reply => flow.SendsHeaders reply ∧ ¬request.CountsHeaders
  | _ => False

instance (request : Request) (flow : Flow) :
    ∀ input, Decidable (flow.LeavesOrder request input)
  | .headerHandler _ | .agentEvent =>
      inferInstanceAs (Decidable flow.HeaderWaitOver)
  | .reply _ => inferInstanceAs (Decidable (_ ∧ ¬_))
  | .bodyFilter _ _ | .deadlineEvent | .cleanupEvent
  | .resumeEvent _ _ | .cleanup | .asyncInit | .requestFreed =>
      inferInstanceAs (Decidable False)

theorem step_phase (reliable : env.Reliable) (body : request.doesContainBody)
    {input : Input} (phase : flow.position.Phase request settings)
    (undisturbed : flow.Undisturbed input)
    (waits : ¬flow.LeavesOrder request input)
    (stepped : step settings env request flow input = some next) :
    next.position.Phase request settings := by
  cases input with
  | headerHandler call =>
      obtain ⟨pending, same⟩ := Option.ite_none_right_eq_some.mp stepped
      cases same
      exact headerHandler_phase reliable undisturbed phase pending
        waits
  | bodyFilter chain call =>
      obtain ⟨⟨admitted, canReceive⟩, same⟩ :=
        Option.ite_none_right_eq_some.mp stepped
      cases same
      exact bodyFilter_phase reliable undisturbed phase admitted
        canReceive
  | reply reply =>
      exact drainReply_phase reliable body phase undisturbed.1
        undisturbed.2
        (fun sends => not_not.mp fun uncounted => waits ⟨sends, uncounted⟩)
        stepped
  | agentEvent =>
      obtain ⟨_, same⟩ := Option.ite_none_right_eq_some.mp stepped
      cases same
      exact eventHandler_phase reliable phase waits
  | deadlineEvent => exact undisturbed.elim
  | cleanupEvent => exact undisturbed.elim
  | resumeEvent posted downstream =>
      cases posted with
      | true =>
          obtain ⟨_, same⟩ := Option.ite_none_right_eq_some.mp stepped
          cases same
          exact postedResume_phase downstream phase
      | false =>
          obtain ⟨_, same⟩ := Option.ite_none_right_eq_some.mp stepped
          cases same
          exact postedResume_phase downstream phase
  | cleanup => exact undisturbed.elim
  | asyncInit =>
      cases stepped
      exact asyncInit_phase phase
  | requestFreed =>
      cases stepped
      exact requestFreed_phase phase

theorem continueWith_endTransaction (reliable : env.Reliable)
    (handleWait : Flow → NgxRc × Flow) (noError : flow.ctx.flowError = false)
    (isStage : flow.ctx.stage = .endTransaction)
    (notSent : flow.ctx.endTransactionSent = false) :
    ∃ next, continueWith settings env request handleWait flow =
        (.again, next) ∧
      next.position =
        { flow.position with
          endTransactionSent := true
          messages := flow.messages ++ [endTransactionMessage request] } := by
  rw [continueWith, noError, if_neg Bool.false_ne_true, isStage]
  dsimp only
  rw [notSent, if_neg Bool.false_ne_true,
    sendEndTransactionNonblocking_reliable request reliable, afterSender,
    if_neg (by decide)]
  refine ⟨_, rfl, ?_⟩
  rw [← messages_append_inspects]
  · rfl
  · intro message member
    rw [List.mem_singleton.mp member]
    exact (by decide : AttachmentDataType.requestEnd ≠ .requestDelayedVerdict)

/-- The position after the transaction has ended before the body. -/
def Position.ended (position : Position) (request : Request) : Position :=
  { position with
    stage := .endTransaction
    endTransactionSent := true
    messages := position.messages ++ [endTransactionMessage request] }

theorem continueProcessing_headerWaitOver (reliable : env.Reliable)
    (headed : flow.position.Headed request) (waitOver : flow.HeaderWaitOver) :
    ∃ next, continueProcessing settings env request flow = (.again, next) ∧
      next.position = flow.position.ended request := by
  have noError : flow.ctx.flowError = false := headed.noError
  have passes : ¬isVerdictDropOrCustom flow.session.verdict :=
    headed.nonFinal.passes
  have ends : transitionAfterWait flow = flow.transition .endTransaction := by
    rw [transitionAfterWait, noError, if_neg Bool.false_ne_true,
      if_neg waitOver.2.2, stageAfterWait, waitOver.2.1]
    exact congrArg (Flow.transition · flow) (if_neg passes)
  have moved : (flow.transition .endTransaction).ctx.flowError = false :=
    headed.noError
  have registered : (flow.transition .endTransaction).ctx.registered = true :=
    waitOver.1
  have incomplete : (flow.transition .endTransaction).ctx.stage ≠ .complete :=
    nofun
  obtain ⟨next, continued, same⟩ := continueWith_endTransaction
    reliable (fun flow => (.again, flow)) moved rfl headed.endTransactionSent
  have stillPasses : ¬isVerdictDropOrCustom (continueWith settings env request
      (fun flow => (.again, flow))
      (flow.transition .endTransaction)).2.session.verdict := by
    have verdict : next.session.verdict = flow.session.verdict :=
      congrArg Position.verdict same
    rw [continued, verdict]
    exact passes
  rw [continueProcessing, continueWith, noError, if_neg Bool.false_ne_true,
    waitOver.2.1]
  dsimp only
  rw [handleWaitVerdict, noError, if_neg Bool.false_ne_true,
    if_pos waitOver.2.2, ends]
  refine ⟨_, rfl, ?_⟩
  rw [eventHandlerAfterWait, eventHandlerWith_position registered incomplete
    stillPasses, continued, same]
  rfl

theorem not_inspectsInOrder_of_ended {before after : Flow}
    (headed : before.position.Headed request)
    (position : after.position = before.position.ended request) :
    ¬after.InspectsInOrder request := by
  intro inOrder
  have shorter := inOrder.ordered.length_le
  have messages : after.messages =
      before.messages ++ [endTransactionMessage request] :=
    congrArg Position.messages position
  have opening : before.messages = openingMessages request :=
    headed.messages
  have received : after.received = [] :=
    (congrArg Position.received position).trans headed.received
  have notEnded : after.bodyEnded = false :=
    (congrArg Position.bodyEnded position).trans headed.notEnded
  rw [messages, opening, received, notEnded, inspection_nil,
    List.length_append] at shorter
  exact absurd shorter (by simp)

/-- The reply that the metadata waits for sends the headers. -/
theorem drainReply_sendHeaders (reliable : env.Reliable)
    (phase : flow.position.Phase request settings)
    (nonFinal : NonFinal reply.verdict) (seen : flow.messages ≠ [])
    (sends : flow.SendsHeaders reply)
    (drained : drainReply settings env request reply flow = some next) :
    ∃ position : Position, position.Started request ∧
      next.position = position.sendHeaders env request := by
  obtain ⟨registered, isStage, undelayed, owed⟩ := sends
  have started : flow.position.Started request := by
    have isStage : flow.position.stage = .metaData := isStage
    cases phase with
    | fresh fresh => exact nomatch fresh.unregistered.symm.trans registered
    | declined declined _ => exact (seen declined.messages).elim
    | started started => exact started
    | headed headed =>
        rcases headed.stage with other | other <;>
          exact nomatch other.symm.trans isStage
    | inBody inBody =>
        rcases inBody.stage with other | other <;>
          exact nomatch other.symm.trans isStage
    | left left => exact nomatch left.unregistered.symm.trans registered
  have noError : flow.ctx.flowError = false := started.noError
  have notReconf : reply.verdict ≠ .reconf := by
    intro reconf
    rw [reconf] at nonFinal
    exact absurd nonFinal (by decide)
  have found : ¬(flow.ctx.registered = false ∨ flow.ctx.flowError = true) := by
    rw [registered, noError]
    decide
  rw [drainReply, if_neg notReconf, if_neg found] at drained
  obtain ⟨limit, _⟩ | ⟨_, taken, isTaken, rfl⟩ :=
    applyVerdict_cases settings env request drained
  · rw [limit] at nonFinal
    exact absurd nonFinal (by decide)
  have same := takeReply_position isTaken
  rw [noteVerdict_position] at same
  have stays : taken.position.Started request := by
    rw [same]
    exact { started with nonFinal }
  have answered : taken.session.remainingMessagesToReply = 0 := by
    rw [takeReply_remaining nonFinal.passes isTaken, noteVerdict_remaining]
    omega
  have stage : taken.ctx.stage = .metaData :=
    (congrArg Position.stage same).trans isStage
  have verdict : taken.session.verdict = reply.verdict :=
    congrArg Position.verdict same
  exact ⟨taken.position, stays, finishReply_sendHeaders reliable stays
    stage (verdict ▸ undelayed) answered⟩

theorem not_inspectsInOrder_of_uncounted {position : Position} {after : Flow}
    (started : position.Started request) (uncounted : ¬request.CountsHeaders)
    (same : after.position = position.sendHeaders env request) :
    ¬after.InspectsInOrder request := by
  intro inOrder
  have messages : after.messages =
      metaDataMessage request :: headerMessages env request := by
    have sent : after.messages =
        position.messages ++ headerMessages env request :=
      congrArg Position.messages same
    rw [sent, started.messages]
    rfl
  have received : after.received = [] :=
    (congrArg Position.received same).trans started.received
  have notEnded : after.bodyEnded = false :=
    (congrArg Position.bodyEnded same).trans started.notEnded
  have within := inOrder.ordered
  rw [received, notEnded, inspection_nil] at within
  have whole := inOrder.headed
    ((congrArg Position.registered same).trans started.registered)
    (congrArg Position.headersSent same)
  have opening := whole.eq_of_length_le within.length_le
  rw [messages] at opening
  exact uncounted ((headerMessages_eq_headerBulks_iff env request).mp
    (List.cons.inj opening).2.symm)

/-- A session waits for the verdict on the headers only when it has sent
them. -/
theorem Position.Phase.headed_of_over
    (phase : flow.position.Phase request settings)
    (waitOver : flow.HeaderWaitOver) : flow.position.Headed request := by
  have isStage : flow.position.stage = .waitHeaderVerdict := waitOver.2.1
  cases phase with
  | fresh fresh => exact nomatch fresh.unregistered.symm.trans waitOver.1
  | declined declined _ => exact nomatch declined.stage.symm.trans isStage
  | started started =>
      rcases started.stage with other | other <;>
        exact nomatch other.symm.trans isStage
  | headed headed => exact headed
  | inBody inBody =>
      rcases inBody.stage with other | other <;>
        exact nomatch other.symm.trans isStage
  | left left => exact nomatch left.unregistered.symm.trans waitOver.1

theorem not_inspectsInOrder_of_over (reliable : env.Reliable) {input : Input}
    (phase : flow.position.Phase request settings)
    (undisturbed : flow.Undisturbed input)
    (ends : flow.LeavesOrder request input)
    (stepped : step settings env request flow input = some next) :
    ¬next.InspectsInOrder request := by
  cases input with
  | headerHandler call =>
      obtain ⟨pending, isNext⟩ := Option.ite_none_right_eq_some.mp stepped
      cases isNext
      have headed := phase.headed_of_over ends
      have same := headed.toActive.enterAsyncMode
      have registered : (enterAsyncMode (asyncInit flow)).ctx.registered =
          true := (congrArg Position.registered same).trans ends.1
      have notDeclined :
          (enterAsyncMode (asyncInit flow)).ctx.headerDeclined = false :=
        (congrArg Position.headerDeclined same).trans headed.headerDeclined
      have waitOver : (enterAsyncMode (asyncInit flow)).HeaderWaitOver := by
        refine ⟨registered, (congrArg Position.stage same).trans ends.2.1, ?_⟩
        exact fun delayed => ends.2.2
          ((congrArg Position.verdict same).symm.trans delayed)
      rw [← same] at headed
      obtain ⟨ended, continued, position⟩ :=
        continueProcessing_headerWaitOver reliable headed waitOver
      rw [reqHeaderHandlerAsync_of_undisturbed undisturbed,
        handleRegistered, undisturbed.notCorrupted, if_neg Bool.false_ne_true,
        if_pos registered, notDeclined, if_neg Bool.false_ne_true, continued]
      exact not_inspectsInOrder_of_ended headed position
  | agentEvent =>
      obtain ⟨_, isNext⟩ := Option.ite_none_right_eq_some.mp stepped
      cases isNext
      have headed : flow.cancelAgentTimer.position.Headed request :=
        phase.headed_of_over ends
      have registered : ¬flow.cancelAgentTimer.ctx.registered = false := by
        have registered : flow.cancelAgentTimer.ctx.registered = true := ends.1
        rw [registered]
        decide
      obtain ⟨ended, continued, position⟩ :=
        continueProcessing_headerWaitOver reliable headed ends
      rw [eventHandler, eventHandlerWith, if_neg registered, continued]
      exact not_inspectsInOrder_of_ended headed position
  | reply reply =>
      obtain ⟨_, started, position⟩ := drainReply_sendHeaders reliable
        phase undisturbed.1 undisturbed.2 ends.1 stepped
      exact not_inspectsInOrder_of_uncounted started ends.2 position
  | _ => exact ends.elim

end Inspection

theorem plainEnvironment_reliable : plainEnvironment.Reliable where
  chunkSent := fun _ => rfl
  signalled := fun _ => nofun

end OpenAppsec.Async
