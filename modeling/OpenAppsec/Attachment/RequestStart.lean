import OpenAppsec.Attachment.AsyncSenders
import OpenAppsec.Attachment.NanoThreads

/-!
# The start of a request, synchronous and asynchronous

Both variants send the metadata, the headers and, without a body, the end of
the request.  They are compared on the messages, on what follows a failure,
and on the kind of their result.
-/

namespace OpenAppsec.Nano

/-- The kinds of results of a request start. -/
inductive OutcomeClass where
  | declined
  | failed
  | ok
  deriving DecidableEq

/-- A session that the service has rejected has not failed. -/
def NanoCommunicationResult.outcomeClass :
    NanoCommunicationResult → OutcomeClass
  | .ok | .httpForbidden => .ok
  | .declined => .declined
  | .error | .abort | .again | .timeout => .failed

section Comparison

variable {ω : Type*}

variable {outcome : Nat → SendOutcome} {index : Nat} {messages : List Message}
variable {before after : SenderState ω} {sessionId : BitVec 32}

/-- A failed step, or a declined source. -/
def Event.Fails : Event ω → Prop
  | .declined => True
  | .sent _ outcome => outcome.result ≠ .ok
  | .replied reply => reply.result = .error
  | .signalled result => result ≠ .ok

/-- The messages up to and including the first one that fails. -/
def upToFailure : List (Event ω) → List Message
  | [] => []
  | .sent message outcome :: events =>
      message :: if outcome.result = .ok then upToFailure events else []
  | _ :: events => upToFailure events

/-- No message is sent. -/
def NothingSent (events : List (Event ω)) : Prop :=
  ∀ event ∈ events, event.isSent = false

/-- No message is sent after a failure. -/
def StopsAtFailure : List (Event ω) → Prop
  | [] => True
  | event :: events =>
      (event.Fails → NothingSent events) ∧ StopsAtFailure events

/-- A synchronous and an asynchronous start of the same request agree. -/
structure RequestStartsAgree (env env' : Environment ω)
    (metadata : HttpMetaData) (headers : List HttpHeaderData)
    (containsBody : Bool) (state : SenderState ω) : Prop where
  sameMessages :
    upToFailure (state.eventsSince (sendRequestFilterThread env metadata
        headers containsBody (initThreadCtx state))) =
      upToFailure (state.eventsSince (sendRequestFilterAsyncImpl env'
        ⟨some metadata, some headers, containsBody⟩ state).2)
  syncStops :
    StopsAtFailure (state.eventsSince (sendRequestFilterThread env metadata
      headers containsBody (initThreadCtx state)))
  asyncStops :
    StopsAtFailure (state.eventsSince (sendRequestFilterAsyncImpl env'
      ⟨some metadata, some headers, containsBody⟩ state).2)
  sameClass :
    (sendRequestFilterThread env metadata headers containsBody
        (initThreadCtx state)).res.outcomeClass =
      (sendRequestFilterAsyncImpl env'
        ⟨some metadata, some headers, containsBody⟩ state).1.outcomeClass

/-- The signal with an index succeeds. -/
def Signalled (env : Environment ω) (sessionId : BitVec 32) (index : Nat) :
    Prop :=
  signalForSessionData sessionId.toNat .async (env.signal index) = .ok

instance (env : Environment ω) (sessionId : BitVec 32) (index : Nat) :
    Decidable (Signalled env sessionId index) :=
  inferInstanceAs (Decidable (_ = _))

/-- A declined source or a refused metadata message leaves nothing to send.
Otherwise the first signal succeeds, and a refused header bulk is followed by
a body.  Otherwise the second signal succeeds, and without a body the end is
accepted and the third signal fares like the reply. -/
def StartMeetsNoDifference (env env' : Environment ω)
    (metadata : HttpMetaData) (headers : List HttpHeaderData)
    (containsBody : Bool) (state : SenderState ω) : Prop :=
  let sessionId := state.sessionData.sessionId
  let outcome := sendOutcome env .sync sessionId
  let index := state.messagesSent
  let bulks := (headerMessages headers .requestHeader sessionId).length
  if isInspectionRequiredForSource env metadata.clientIp = 0 ∨
      (outcome index).result ≠ .ok then
    headers = [] ∧ containsBody = true
  else
    Signalled env' sessionId state.signalsSent ∧
      if AllAccepted outcome (index + 1) bulks then
        Signalled env' sessionId (state.signalsSent + 1) ∧
          (containsBody = true ∨
            ((outcome (index + 1 + bulks)).result = .ok ∧
              (Signalled env' sessionId (state.signalsSent + 2) ↔
                (env.reply state.repliesRead).result ≠ .error)))
      else containsBody = true

theorem nothingSent_append_iff {first second : List (Event ω)} :
    NothingSent (first ++ second) ↔
      NothingSent first ∧ NothingSent second := by
  apply List.forall_mem_append

theorem stopsAtFailure_of_nothingSent {events : List (Event ω)}
    (silent : NothingSent events) : StopsAtFailure events := by
  induction events with
  | nil => trivial
  | cons event events induction =>
      obtain ⟨_, rest⟩ := List.forall_mem_cons.mp silent
      exact ⟨fun _ => rest, induction rest⟩

theorem sentEvents_append_of_accepted
    (accepted : AllAccepted outcome index messages.length)
    (rest : List (Event ω)) :
    upToFailure (sentEvents outcome index messages ++ rest) =
        messages ++ upToFailure rest ∧
      (StopsAtFailure (sentEvents outcome index messages ++ rest) ↔
        StopsAtFailure rest) := by
  induction messages generalizing index with
  | nil => exact ⟨rfl, Iff.rfl⟩
  | cons message messages induction =>
      obtain ⟨first, later⟩ := allAccepted_succ_iff.mp accepted
      obtain ⟨same, stops⟩ := induction later
      rw [sentEvents, if_pos first, List.cons_append, upToFailure,
        if_pos first, same, List.cons_append]
      refine ⟨rfl, ?_⟩
      rw [StopsAtFailure, stops]
      exact and_iff_right fun fails => absurd first fails

theorem sentEvents_append_of_refused
    (refused : ¬AllAccepted outcome index messages.length)
    (rest : List (Event ω)) :
    upToFailure (sentEvents outcome index messages ++ rest) =
        upToFailure (sentEvents outcome index messages : List (Event ω)) ∧
      (StopsAtFailure (sentEvents outcome index messages ++ rest) ↔
        NothingSent rest) := by
  induction messages generalizing index with
  | nil =>
      exfalso
      apply refused
      intro offset inside
      exact absurd inside (Nat.not_lt_zero offset)
  | cons message messages induction =>
      by_cases first : (outcome index).result = .ok
      · have later : ¬AllAccepted outcome (index + 1) messages.length :=
          fun all => refused (allAccepted_succ_iff.mpr ⟨first, all⟩)
        obtain ⟨same, stops⟩ := induction later
        rw [sentEvents, if_pos first, List.cons_append, upToFailure,
          upToFailure, if_pos first, if_pos first, same, StopsAtFailure,
          stops]
        refine ⟨rfl, and_iff_right fun fails => absurd first fails⟩
      · rw [sentEvents, if_neg first, List.cons_append, List.nil_append,
          upToFailure, upToFailure, if_neg first, if_neg first,
          StopsAtFailure]
        refine ⟨rfl, ?_⟩
        constructor
        · intro stops
          exact stops.1 first
        · intro silent
          exact ⟨fun _ => silent, stopsAtFailure_of_nothingSent silent⟩

theorem nothingSent_nil : NothingSent ([] : List (Event ω)) :=
  fun _ member => absurd member List.not_mem_nil

theorem stopsAtFailure_sentEvents (outcome : Nat → SendOutcome) (index : Nat)
    (messages : List Message) :
    StopsAtFailure (sentEvents outcome index messages : List (Event ω)) := by
  induction messages generalizing index with
  | nil => trivial
  | cons message messages induction =>
      rw [sentEvents]
      by_cases accepted : (outcome index).result = .ok
      · rw [if_pos accepted]
        exact ⟨fun fails => absurd accepted fails, induction _⟩
      · rw [if_neg accepted]
        exact ⟨fun _ => nothingSent_nil, trivial⟩

theorem upToFailure_congr {outcome' : Nat → SendOutcome}
    (same : ∀ index, (outcome' index).result = (outcome index).result)
    (index : Nat) (messages : List Message) :
    upToFailure (sentEvents outcome' index messages : List (Event ω)) =
      upToFailure (sentEvents outcome index messages : List (Event ω)) := by
  induction messages generalizing index with
  | nil => rfl
  | cons message messages induction =>
      rw [sentEvents, sentEvents, upToFailure, upToFailure, same]
      split
      · rw [induction]
      · rfl

theorem allAccepted_congr {outcome' : Nat → SendOutcome}
    (same : ∀ index, (outcome' index).result = (outcome index).result)
    {count : Nat} :
    AllAccepted outcome' index count ↔ AllAccepted outcome index count := by
  apply forall_congr'
  intro offset
  rw [same]

theorem nothingSent_sentEvents_iff :
    NothingSent (sentEvents outcome index messages : List (Event ω)) ↔
      messages = [] := by
  cases messages with
  | nil =>
      apply iff_of_true _ rfl
      intro event member
      cases member
  | cons message messages =>
      apply iff_of_false _ (List.cons_ne_nil _ _)
      intro silent
      have sent := silent _ List.mem_cons_self
      cases sent

/-- Metadata or headers, sent without a request for a verdict. -/
structure SyncStep (env : Environment ω) (messages : List Message)
    (before after : SenderState ω) : Prop where
  sameSession :
    after.sessionData.sessionId = before.sessionData.sessionId
  events : after.events = before.events ++
    sentEvents (sendOutcome env .sync before.sessionData.sessionId)
      before.messagesSent messages
  res : after.res =
    if AllAccepted (sendOutcome env .sync before.sessionData.sessionId)
        before.messagesSent messages.length then before.res
    else .error

theorem SyncStep.repliesRead {env : Environment ω}
    (step : SyncStep env messages before after) :
    after.repliesRead = before.repliesRead := by
  rw [SenderState.repliesRead, step.events, List.countP_append,
    countP_sentEvents_eq_zero (fun _ _ => rfl), Nat.add_zero]
  rfl

theorem SyncStep.messagesSent {env : Environment ω}
    (step : SyncStep env messages before after)
    (accepted :
      AllAccepted (sendOutcome env .sync before.sessionData.sessionId)
        before.messagesSent messages.length) :
    after.messagesSent = before.messagesSent + messages.length := by
  have events := step.events
  rw [← List.append_nil (sentEvents _ _ _)] at events
  exact messagesSent_of_accepted accepted rfl events

theorem syncStep_deliver (env : Environment ω) (messages : List Message)
    (state : SenderState ω) :
    SyncStep env messages state (deliver env .sync messages state).2 := by
  obtain ⟨res, _, session⟩ := deliver_sync env messages state
  exact ⟨session, deliver_events env .sync messages state, res⟩

theorem nanoMetadataSender_syncStep {env : Environment ω}
    {metadata : HttpMetaData}
    (inspected : isInspectionRequiredForSource env metadata.clientIp ≠ 0)
    (state : SenderState ω) :
    SyncStep env [metadataMessage metadata state.sessionData.sessionId] state
      (nanoMetadataSender env metadata false .sync state) := by
  rw [nanoMetadataSender, transmitMetadata_eq inspected,
    afterwards_requestVerdict_false]
  apply syncStep_deliver

theorem nanoHeaderSender_syncStep (env : Environment ω)
    (headers : List HttpHeaderData) (headerType : AttachmentDataType)
    (state : SenderState ω) :
    SyncStep env
      (headerMessages headers headerType state.sessionData.sessionId) state
      (nanoHeaderSender env headers headerType false .sync state) := by
  rw [nanoHeaderSender, transmitHeaders_eq, afterwards_requestVerdict_false]
  apply syncStep_deliver

/-- A synchronous end asks for the reply when it is accepted, and keeps the
result when it is not. -/
theorem nanoEndTransactionSender_sync (env : Environment ω)
    (endType : AttachmentDataType) (state : SenderState ω) :
    let outcome := sendOutcome env .sync state.sessionData.sessionId
      state.messagesSent
    let message := eventMessage endType state.sessionData.sessionId
    let reply := env.reply state.repliesRead
    let after := nanoEndTransactionSender env endType true .sync state
    after.events = state.events ++
        (.sent message outcome ::
          if outcome.result = .ok then [.replied reply] else []) ∧
      after.res =
        if outcome.result = .ok then reply.result else state.res := by
  dsimp only
  have replies : ∀ (message : Message) (outcome : SendOutcome),
      (handleCounterNewMessageSent 1 .sync
          (state.record (.sent message outcome))).repliesRead =
        state.repliesRead := by
    intro message outcome
    rw [SenderState.repliesRead, events_handleCounterNewMessageSent,
      SenderState.record, List.countP_append]
    rfl
  rw [nanoEndTransactionSender, transmitEvent_eq, send_eq]
  dsimp only
  by_cases accepted : (sendOutcome env .sync state.sessionData.sessionId
      state.messagesSent).result = .ok
  · rw [if_pos accepted, if_pos accepted, if_pos accepted]
    rw [afterwards, requestVerdictOrOk, if_pos rfl, receive, replies]
    refine ⟨?_, rfl⟩
    change (state.events ++ [_]) ++ [_] = _
    rw [List.append_assoc]
    rfl
  · rw [if_neg accepted, if_neg accepted, if_neg accepted]
    exact ⟨rfl, rfl⟩

/-- An asynchronous operation whose messages are handed over: its signal
follows when all of them are accepted. -/
structure AsyncStep (env : Environment ω) (messages : List Message)
    (before : SenderState ω)
    (outcome : NanoCommunicationResult × SenderState ω) : Prop where
  sameSession :
    outcome.2.sessionData.sessionId = before.sessionData.sessionId
  refused :
    ¬AllAccepted (sendOutcome env .async before.sessionData.sessionId)
        before.messagesSent messages.length →
      outcome.1 = .error ∧
        outcome.2.events = before.events ++
          sentEvents (sendOutcome env .async before.sessionData.sessionId)
            before.messagesSent messages
  accepted :
    AllAccepted (sendOutcome env .async before.sessionData.sessionId)
        before.messagesSent messages.length →
      outcome.1 = signalForSessionData before.sessionData.sessionId.toNat
          .async (env.signal before.signalsSent) ∧
        outcome.2.events = before.events ++
          (sentEvents (sendOutcome env .async before.sessionData.sessionId)
            before.messagesSent messages ++ [.signalled outcome.1])

/-- After an operation that succeeds. -/
theorem AsyncStep.next {env : Environment ω}
    {outcome : NanoCommunicationResult × SenderState ω}
    (step : AsyncStep env messages before outcome)
    (accepted :
      AllAccepted (sendOutcome env .async before.sessionData.sessionId)
        before.messagesSent messages.length)
    (signalled :
      Signalled env before.sessionData.sessionId before.signalsSent) :
    outcome.1 = .ok ∧
      outcome.2.events = before.events ++
        (sentEvents (sendOutcome env .async before.sessionData.sessionId)
          before.messagesSent messages ++ [.signalled .ok]) ∧
      outcome.2.messagesSent = before.messagesSent + messages.length ∧
      outcome.2.signalsSent = before.signalsSent + 1 := by
  obtain ⟨result, events⟩ := step.accepted accepted
  have succeeded : outcome.1 = .ok := result.trans signalled
  rw [succeeded] at events
  refine ⟨succeeded, events, ?_, ?_⟩
  · exact messagesSent_of_accepted accepted rfl events
  · rw [SenderState.signalsSent, events, List.countP_append,
      List.countP_append, countP_sentEvents_eq_zero (fun _ _ => rfl),
      Nat.zero_add]
    rfl

theorem asyncStep_deliver {env : Environment ω} {state : SenderState ω}
    {next : SenderState ω → SenderState ω}
    (keeps : ∀ sent : SenderState ω, sent.res = .ok → next sent = sent) :
    AsyncStep env messages state
      (signalAfterSender env
        (afterwards next (deliver env .async messages state.initCtx))) := by
  rw [afterwards_deliver_async keeps rfl]
  by_cases accepted :
      AllAccepted (sendOutcome env .async state.sessionData.sessionId)
        state.messagesSent messages.length
  · have all : AllAccepted
        (sendOutcome env .async state.initCtx.sessionData.sessionId)
        state.initCtx.messagesSent messages.length := accepted
    rw [if_pos all]
    generalize handedOver : ({ state.initCtx with
      events := state.initCtx.events ++
        sentEvents (sendOutcome env .async
          state.initCtx.sessionData.sessionId) state.initCtx.messagesSent
          messages } : SenderState ω) = sent
    have succeeded : sent.res = .ok := by
      rw [← handedOver]
      rfl
    have session : sent.sessionData = state.sessionData := by
      rw [← handedOver]
      rfl
    have events : sent.events = state.events ++
        sentEvents (sendOutcome env .async state.sessionData.sessionId)
          state.messagesSent messages := by
      rw [← handedOver]
      rfl
    have signals : sent.signalsSent = state.signalsSent := by
      rw [SenderState.signalsSent, events, List.countP_append,
        countP_sentEvents_eq_zero (fun _ _ => rfl), Nat.add_zero]
      rfl
    obtain ⟨result, recorded, kept⟩ :=
      signalAfterSender_of_succeeded env succeeded
    rw [session, signals] at result recorded
    refine ⟨by rw [kept, session], fun refused => absurd accepted refused,
      ?_⟩
    intro _
    refine ⟨result, ?_⟩
    rw [recorded, events, result, List.append_assoc]
  · have failed : NanoCommunicationResult.error ≠ .ok := by decide
    have refused : ¬AllAccepted
        (sendOutcome env .async state.initCtx.sessionData.sessionId)
        state.initCtx.messagesSent messages.length := accepted
    rw [if_neg refused, signalAfterSender_of_failed failed]
    exact ⟨rfl, fun _ => ⟨rfl, rfl⟩, fun all => absurd all accepted⟩

theorem sendMetadataAsyncImpl_asyncStep {env : Environment ω}
    {metadata : HttpMetaData}
    (inspected : isInspectionRequiredForSource env metadata.clientIp ≠ 0)
    (state : SenderState ω) :
    AsyncStep env [metadataMessage metadata state.sessionData.sessionId] state
      (sendMetadataAsyncImpl env (some metadata) state) := by
  rw [sendMetadataAsyncImpl, nanoMetadataSender,
    transmitMetadata_eq inspected]
  exact asyncStep_deliver (requestVerdict_keeps env)

theorem sendRequestHeadersAsyncImpl_asyncStep (env : Environment ω)
    (headers : List HttpHeaderData) (state : SenderState ω) :
    AsyncStep env
      (headerMessages headers .requestHeader state.sessionData.sessionId)
      state (sendRequestHeadersAsyncImpl env (some headers) state) := by
  rw [sendRequestHeadersAsyncImpl, nanoHeaderSender, transmitHeaders_eq]
  exact asyncStep_deliver (requestVerdict_keeps env)

theorem sendRequestEndAsyncImpl_asyncStep (env : Environment ω)
    (state : SenderState ω) :
    AsyncStep env [eventMessage .requestEnd state.sessionData.sessionId] state
      (sendRequestEndAsyncImpl env state) := by
  rw [sendRequestEndAsyncImpl, nanoEndTransactionSender,
    transmitEvent_async]
  exact asyncStep_deliver (requestVerdictOrOk_keeps env)

/-- The last operation of `sendRequestFilterAsyncImpl`. -/
def asyncEnd (env : Environment ω) (containsBody : Bool)
    (state : SenderState ω) : NanoCommunicationResult × SenderState ω :=
  if containsBody then (.ok, state)
  else continueIfOk (fun state => (.ok, state))
    (sendRequestEndAsyncImpl env state)

theorem sendRequestFilterAsyncImpl_eq (env : Environment ω)
    (metadata : HttpMetaData) (headers : List HttpHeaderData)
    (containsBody : Bool) (state : SenderState ω) :
    sendRequestFilterAsyncImpl env
        ⟨some metadata, some headers, containsBody⟩ state =
      continueIfOk
        (fun state => continueIfOk (asyncEnd env containsBody)
          (sendRequestHeadersAsyncImpl env (some headers) state))
        (sendMetadataAsyncImpl env (some metadata) state) :=
  rfl

theorem continueIfOk_of_ok
    {next : SenderState ω → NanoCommunicationResult × SenderState ω}
    {outcome : NanoCommunicationResult × SenderState ω}
    (succeeded : outcome.1 = .ok) :
    continueIfOk next outcome = next outcome.2 := by
  obtain ⟨result, state⟩ := outcome
  rw [continueIfOk, if_neg (not_not.mpr succeeded)]

theorem continueIfOk_of_failed
    {next : SenderState ω → NanoCommunicationResult × SenderState ω}
    {outcome : NanoCommunicationResult × SenderState ω}
    (failed : outcome.1 ≠ .ok) : continueIfOk next outcome = outcome := by
  obtain ⟨result, state⟩ := outcome
  rw [continueIfOk, if_pos failed]

section Tail

variable (env : Environment ω) (headers : List HttpHeaderData)
  (containsBody : Bool)

/-- The rest of `sendRequestFilterThread`. -/
def syncTail (before : SenderState ω) : SenderState ω :=
  let after := nanoHeaderSender env headers .requestHeader false .sync before
  if containsBody then after
  else nanoEndTransactionSender env .requestEnd true .sync after

/-- What happens after the headers. -/
def endEvents (before : SenderState ω) : List (Event ω) :=
  if containsBody then []
  else
    let after :=
      nanoHeaderSender env headers .requestHeader false .sync before
    let outcome :=
      sendOutcome env .sync before.sessionData.sessionId after.messagesSent
    .sent (eventMessage .requestEnd before.sessionData.sessionId) outcome ::
      if outcome.result = .ok then [.replied (env.reply before.repliesRead)]
      else []

theorem nothingSent_endEvents_iff :
    NothingSent (endEvents env headers containsBody before) ↔
      containsBody = true := by
  cases containsBody with
  | true =>
      apply iff_of_true _ rfl
      intro event member
      cases member
  | false =>
      apply iff_of_false _ Bool.false_ne_true
      intro silent
      have sent := silent _ List.mem_cons_self
      cases sent

theorem syncTail_events (before : SenderState ω) :
    (syncTail env headers containsBody before).events =
      before.events ++
        (sentEvents (sendOutcome env .sync before.sessionData.sessionId)
            before.messagesSent
            (headerMessages headers .requestHeader
              before.sessionData.sessionId) ++
          endEvents env headers containsBody before) := by
  have step := nanoHeaderSender_syncStep env headers .requestHeader before
  cases containsBody with
  | true => exact step.events.trans (by rw [endEvents, if_pos rfl,
      List.append_nil])
  | false =>
      have ended := (nanoEndTransactionSender_sync env .requestEnd
        (nanoHeaderSender env headers .requestHeader false .sync before)).1
      rw [step.sameSession, step.repliesRead] at ended
      rw [syncTail, if_neg Bool.false_ne_true, ended, step.events,
        List.append_assoc, endEvents, if_neg Bool.false_ne_true]

theorem syncTail_res (before : SenderState ω) :
    (syncTail env headers containsBody before).res =
      let outcome := sendOutcome env .sync before.sessionData.sessionId
      let after :=
        nanoHeaderSender env headers .requestHeader false .sync before
      if containsBody = false ∧ (outcome after.messagesSent).result = .ok then
        (env.reply before.repliesRead).result
      else after.res := by
  have step := nanoHeaderSender_syncStep env headers .requestHeader before
  cases containsBody with
  | true => rfl
  | false =>
      have ended := (nanoEndTransactionSender_sync env .requestEnd
        (nanoHeaderSender env headers .requestHeader false .sync before)).2
      rw [step.sameSession, step.repliesRead] at ended
      rw [syncTail, if_neg Bool.false_ne_true, ended]
      simp only [true_and]

end Tail

theorem headerMessages_eq_nil_iff {headers : List HttpHeaderData}
    {headerType : AttachmentDataType} :
    headerMessages headers headerType sessionId = [] ↔ headers = [] := by
  rw [← List.length_eq_zero_iff, headerMessages, length_bulkMessages,
    List.length_eq_zero_iff, Bulks.bulks_eq_nil_iff]

theorem nothingSent_of_upToFailure {events : List (Event ω)}
    (none : upToFailure events = []) : NothingSent events := by
  induction events with
  | nil =>
      intro event member
      cases member
  | cons event events induction =>
      cases event with
      | sent message outcome => cases none
      | declined => exact List.forall_mem_cons.mpr ⟨rfl, induction none⟩
      | replied reply => exact List.forall_mem_cons.mpr ⟨rfl, induction none⟩
      | signalled result =>
          exact List.forall_mem_cons.mpr ⟨rfl, induction none⟩

theorem nothingSent_tail_iff {env : Environment ω}
    {headers : List HttpHeaderData} {containsBody : Bool} :
    NothingSent
        (sentEvents outcome index
            (headerMessages headers .requestHeader sessionId) ++
          endEvents env headers containsBody before) ↔
      headers = [] ∧ containsBody = true := by
  rw [nothingSent_append_iff, nothingSent_sentEvents_iff,
    nothingSent_endEvents_iff, headerMessages_eq_nil_iff]

theorem syncTail_of_nothing (env : Environment ω) (before : SenderState ω) :
    (syncTail env [] true before).events = before.events ∧
      (syncTail env [] true before).res = before.res := by
  constructor
  · rw [syncTail_events]
    exact List.append_nil _
  · rw [syncTail_res]
    have step := nanoHeaderSender_syncStep env [] .requestHeader before
    have all : AllAccepted
        (sendOutcome env .sync before.sessionData.sessionId)
        before.messagesSent 0 :=
      fun offset inside => absurd inside (Nat.not_lt_zero offset)
    exact step.res.trans (if_pos all)

theorem outcomeClass_of_signal {env : Environment ω}
    (failed : ¬Signalled env sessionId index) :
    (signalForSessionData sessionId.toNat .async
      (env.signal index)).outcomeClass = .failed := by
  rw [Signalled, signalForSessionData] at failed
  rw [signalForSessionData]
  rcases env.notified index with ok | error | timeout
  · rw [ok] at failed
    exact absurd rfl failed
  · rw [error]
    rfl
  · rw [timeout]
    rfl

section Cases

variable {env env' : Environment ω} {metadata : HttpMetaData}
  {headers : List HttpHeaderData} {containsBody : Bool}
  {state : SenderState ω}

/-- A declined source ends the asynchronous start only. -/
theorem requestStartsAgree_of_declined
    (declined : isInspectionRequiredForSource env metadata.clientIp = 0)
    (declined' : isInspectionRequiredForSource env' metadata.clientIp = 0) :
    RequestStartsAgree env env' metadata headers containsBody state ↔
      headers = [] ∧ containsBody = true := by
  have asyncRun : (sendRequestFilterAsyncImpl env'
        ⟨some metadata, some headers, containsBody⟩ state).1 = .declined ∧
      (sendRequestFilterAsyncImpl env'
        ⟨some metadata, some headers, containsBody⟩ state).2.events =
        state.events ++ [.declined] := by
    have failed : NanoCommunicationResult.declined ≠ .ok := by decide
    rw [sendRequestFilterAsyncImpl_eq, sendMetadataAsyncImpl,
      nanoMetadataSender_declined declined',
      signalAfterSender_of_failed failed, continueIfOk_of_failed failed]
    exact ⟨rfl, rfl⟩
  generalize start : ((state.initCtx.setVerdict .irrelevant).setRes
    .declined).record .declined = before
  have events : before.events = state.events ++ [.declined] := by
    rw [← start]
    rfl
  have syncRun : sendRequestFilterThread env metadata headers containsBody
      (initThreadCtx state) = syncTail env headers containsBody before := by
    rw [← start, ← nanoMetadataSender_declined declined false .sync]
    rfl
  have syncEvents : state.eventsSince (sendRequestFilterThread env metadata
      headers containsBody (initThreadCtx state)) =
      .declined ::
        (sentEvents (sendOutcome env .sync before.sessionData.sessionId)
            before.messagesSent
            (headerMessages headers .requestHeader
              before.sessionData.sessionId) ++
          endEvents env headers containsBody before) := by
    apply eventsSince_eq
    rw [syncRun, syncTail_events, events, List.append_assoc]
    rfl
  constructor
  · intro agree
    have stops := agree.syncStops
    rw [syncEvents] at stops
    exact nothingSent_tail_iff.mp (stops.1 trivial)
  · rintro ⟨rfl, rfl⟩
    have asyncEvents := eventsSince_eq asyncRun.2
    obtain ⟨same, res⟩ := syncTail_of_nothing env before
    have syncEvents' : state.eventsSince (sendRequestFilterThread env metadata
        [] true (initThreadCtx state)) = [.declined] := by
      apply eventsSince_eq
      rw [syncRun, same, events]
    have silent : StopsAtFailure [(.declined : Event ω)] :=
      ⟨fun _ event member => absurd member List.not_mem_nil, trivial⟩
    refine ⟨?_, ?_, ?_, ?_⟩
    · rw [syncEvents', asyncEvents]
    · rw [syncEvents']
      exact silent
    · rw [asyncEvents]
      exact silent
    · rw [syncRun, res, asyncRun.1, ← start]
      rfl

variable (headers containsBody state) in
theorem syncEvents_of_inspected
    (inspected : isInspectionRequiredForSource env metadata.clientIp ≠ 0) :
    let sessionId := state.sessionData.sessionId
    let before := nanoMetadataSender env metadata false .sync
      (initThreadCtx state)
    state.eventsSince (sendRequestFilterThread env metadata headers
        containsBody (initThreadCtx state)) =
      sentEvents (sendOutcome env .sync sessionId) state.messagesSent
          [metadataMessage metadata sessionId] ++
        (sentEvents (sendOutcome env .sync sessionId) before.messagesSent
            (headerMessages headers .requestHeader sessionId) ++
          endEvents env headers containsBody before) := by
  have step := nanoMetadataSender_syncStep inspected (initThreadCtx state)
  apply eventsSince_eq
  change (syncTail env headers containsBody (nanoMetadataSender env metadata
    false .sync (initThreadCtx state))).events = _
  rw [syncTail_events, step.sameSession, step.events, List.append_assoc]
  rfl

theorem allAccepted_one_iff :
    AllAccepted outcome index 1 ↔ (outcome index).result = .ok := by
  rw [allAccepted_succ_iff]
  apply and_iff_left
  intro offset inside
  exact absurd inside (Nat.not_lt_zero offset)

/-- A refused metadata message ends the asynchronous start only. -/
theorem requestStartsAgree_of_refused
    (sameTransport : ∀ index,
      (sendOutcome env' .async state.sessionData.sessionId index).result =
        (sendOutcome env .sync state.sessionData.sessionId index).result)
    (inspected : isInspectionRequiredForSource env metadata.clientIp ≠ 0)
    (inspected' : isInspectionRequiredForSource env' metadata.clientIp ≠ 0)
    (refused : (sendOutcome env .sync state.sessionData.sessionId
      state.messagesSent).result ≠ .ok) :
    RequestStartsAgree env env' metadata headers containsBody state ↔
      headers = [] ∧ containsBody = true := by
  have notAll : ¬AllAccepted
      (sendOutcome env .sync state.sessionData.sessionId)
      state.messagesSent 1 := fun all => refused (allAccepted_one_iff.mp all)
  have notAll' : ¬AllAccepted
      (sendOutcome env' .async state.sessionData.sessionId)
      state.messagesSent 1 :=
    fun all => notAll ((allAccepted_congr sameTransport).mp all)
  have failed : NanoCommunicationResult.error ≠ .ok := by decide
  obtain ⟨result, happened⟩ :=
    (sendMetadataAsyncImpl_asyncStep inspected' state).refused notAll'
  have ended : sendRequestFilterAsyncImpl env'
      ⟨some metadata, some headers, containsBody⟩ state =
      sendMetadataAsyncImpl env' (some metadata) state := by
    rw [sendRequestFilterAsyncImpl_eq,
      continueIfOk_of_failed (by rw [result]; exact failed)]
  have asyncEvents := eventsSince_eq (ended ▸ happened)
  constructor
  · intro agree
    have stops := agree.syncStops
    rw [syncEvents_of_inspected headers containsBody state inspected,
      (sentEvents_append_of_refused notAll _).2] at stops
    exact nothingSent_tail_iff.mp stops
  · rintro ⟨rfl, rfl⟩
    have step := nanoMetadataSender_syncStep inspected (initThreadCtx state)
    obtain ⟨same, res⟩ := syncTail_of_nothing env
      (nanoMetadataSender env metadata false .sync (initThreadCtx state))
    have syncEvents : state.eventsSince _ = _ :=
      eventsSince_eq (same.trans step.events)
    refine ⟨?_, ?_, ?_, ?_⟩
    · rw [asyncEvents]
      refine Eq.trans (congrArg upToFailure syncEvents) ?_
      exact (upToFailure_congr sameTransport _ _).symm
    · exact syncEvents ▸ stopsAtFailure_sentEvents _ _ _
    · exact asyncEvents ▸ stopsAtFailure_sentEvents _ _ _
    · rw [ended, result]
      exact congrArg _ (res.trans (step.res.trans (if_neg notAll)))

theorem not_requestStartsAgree_of_first_signal
    (inspected : isInspectionRequiredForSource env metadata.clientIp ≠ 0)
    (inspected' : isInspectionRequiredForSource env' metadata.clientIp ≠ 0)
    (accepted : AllAccepted
      (sendOutcome env .sync state.sessionData.sessionId)
      state.messagesSent 1)
    (accepted' : AllAccepted
      (sendOutcome env' .async state.sessionData.sessionId)
      state.messagesSent 1)
    (notSignalled :
      ¬Signalled env' state.sessionData.sessionId state.signalsSent) :
    ¬RequestStartsAgree env env' metadata headers containsBody state := by
  intro agree
  obtain ⟨result, happened⟩ :=
    (sendMetadataAsyncImpl_asyncStep inspected' state).accepted accepted'
  have failed : (sendMetadataAsyncImpl env' (some metadata) state).1 ≠ .ok :=
    fun ok => notSignalled (result.symm.trans ok)
  have ended : sendRequestFilterAsyncImpl env'
      ⟨some metadata, some headers, containsBody⟩ state =
      sendMetadataAsyncImpl env' (some metadata) state := by
    rw [sendRequestFilterAsyncImpl_eq, continueIfOk_of_failed failed]
  have asyncEvents := eventsSince_eq (ended ▸ happened)
  have same := agree.sameMessages
  rw [syncEvents_of_inspected headers containsBody state inspected,
    asyncEvents] at same
  have rests := (sentEvents_append_of_accepted accepted _).1.symm.trans
    (same.trans (sentEvents_append_of_accepted accepted' _).1)
  rw [List.append_cancel_left_eq] at rests
  obtain ⟨rfl, rfl⟩ :=
    nothingSent_tail_iff.mp (nothingSent_of_upToFailure rests)
  -- nothing is left to send, so that the synchronous start succeeds
  have step := nanoMetadataSender_syncStep inspected (initThreadCtx state)
  have res := (syncTail_of_nothing env (nanoMetadataSender env metadata false
    .sync (initThreadCtx state))).2.trans (step.res.trans (if_pos accepted))
  have kind := agree.sameClass
  rw [ended, result, outcomeClass_of_signal notSignalled] at kind
  have succeeded := (congrArg _ res).symm.trans kind
  cases succeeded

section Signalled

variable
  (sameTransport : ∀ index,
    (sendOutcome env' .async state.sessionData.sessionId index).result =
      (sendOutcome env .sync state.sessionData.sessionId index).result)
  (inspected : isInspectionRequiredForSource env metadata.clientIp ≠ 0)
  (inspected' : isInspectionRequiredForSource env' metadata.clientIp ≠ 0)
  (accepted : AllAccepted (sendOutcome env .sync state.sessionData.sessionId)
    state.messagesSent 1)
  (accepted' : AllAccepted
    (sendOutcome env' .async state.sessionData.sessionId)
    state.messagesSent 1)
  (signalled :
    Signalled env' state.sessionData.sessionId state.signalsSent)

include inspected accepted in
theorem syncStart_metadata :
    let before := nanoMetadataSender env metadata false .sync
      (initThreadCtx state)
    before.sessionData.sessionId = state.sessionData.sessionId ∧
      before.res = .ok ∧ before.messagesSent = state.messagesSent + 1 ∧
      before.repliesRead = state.repliesRead := by
  have step := nanoMetadataSender_syncStep inspected (initThreadCtx state)
  exact ⟨step.sameSession, step.res.trans (if_pos accepted),
    step.messagesSent accepted, step.repliesRead⟩

include inspected' accepted' signalled in
variable (headers containsBody) in
theorem asyncStart_metadata :
    let sessionId := state.sessionData.sessionId
    ∃ before, before.sessionData.sessionId = sessionId ∧
      before.events = state.events ++
        (sentEvents (sendOutcome env' .async sessionId) state.messagesSent
          [metadataMessage metadata sessionId] ++ [.signalled .ok]) ∧
      before.messagesSent = state.messagesSent + 1 ∧
      before.signalsSent = state.signalsSent + 1 ∧
      sendRequestFilterAsyncImpl env'
          ⟨some metadata, some headers, containsBody⟩ state =
        continueIfOk (asyncEnd env' containsBody)
          (sendRequestHeadersAsyncImpl env' (some headers) before) := by
  have step := sendMetadataAsyncImpl_asyncStep inspected' state
  obtain ⟨succeeded, events, sent, signals⟩ := step.next accepted' signalled
  refine ⟨_, step.sameSession, events, sent, signals, ?_⟩
  rw [sendRequestFilterAsyncImpl_eq, continueIfOk_of_ok succeeded]

include inspected accepted in
variable (headers containsBody) in
theorem syncEvents_of_accepted :
    let sessionId := state.sessionData.sessionId
    let before := nanoMetadataSender env metadata false .sync
      (initThreadCtx state)
    let events := state.eventsSince (sendRequestFilterThread env metadata
      headers containsBody (initThreadCtx state))
    let rest :=
      sentEvents (sendOutcome env .sync sessionId) (state.messagesSent + 1)
          (headerMessages headers .requestHeader sessionId) ++
        endEvents env headers containsBody before
    upToFailure events =
        metadataMessage metadata sessionId :: upToFailure rest ∧
      (StopsAtFailure events ↔ StopsAtFailure rest) := by
  obtain ⟨_, _, sent, _⟩ := syncStart_metadata inspected accepted
  dsimp only
  rw [syncEvents_of_inspected headers containsBody state inspected, sent]
  exact sentEvents_append_of_accepted accepted _

theorem asyncEvents_of_accepted {final : SenderState ω} {message : Message}
    (first : AllAccepted outcome before.messagesSent 1)
    (metadataEvents : after.events = before.events ++
      (sentEvents outcome before.messagesSent [message] ++ [.signalled .ok]))
    {rest : List (Event ω)} (later : final.events = after.events ++ rest) :
    upToFailure (before.eventsSince final) = message :: upToFailure rest ∧
      (StopsAtFailure (before.eventsSince final) ↔ StopsAtFailure rest) := by
  have events : before.eventsSince final =
      sentEvents outcome before.messagesSent [message] ++
        (.signalled .ok :: rest) := by
    apply eventsSince_eq
    rw [later, metadataEvents, List.append_assoc, List.append_assoc]
    rfl
  have all : AllAccepted outcome before.messagesSent [message].length := first
  obtain ⟨same, stops⟩ :=
    sentEvents_append_of_accepted all (.signalled .ok :: rest)
  rw [events]
  refine ⟨same, stops.trans ?_⟩
  exact and_iff_right fun fails => absurd rfl fails

include sameTransport inspected inspected' accepted accepted' signalled in
/-- A header bulk is refused: without a body, the synchronous start goes on. -/
theorem requestStartsAgree_of_bulk_refused
    (refused : ¬AllAccepted
      (sendOutcome env .sync state.sessionData.sessionId)
      (state.messagesSent + 1)
      (headerMessages headers .requestHeader
        state.sessionData.sessionId).length) :
    RequestStartsAgree env env' metadata headers containsBody state ↔
      containsBody = true := by
  obtain ⟨syncSession, _, syncSent, _⟩ :=
    syncStart_metadata inspected accepted
  obtain ⟨syncMessages, syncStops⟩ :=
    syncEvents_of_accepted headers containsBody inspected accepted
  obtain ⟨before, session, metadataEvents, sent, _, run⟩ :=
    asyncStart_metadata headers containsBody inspected' accepted' signalled
  have step := sendRequestHeadersAsyncImpl_asyncStep env' headers before
  have refused' : ¬AllAccepted
      (sendOutcome env' .async before.sessionData.sessionId)
      before.messagesSent
      (headerMessages headers .requestHeader
        before.sessionData.sessionId).length := by
    rw [session, sent, allAccepted_congr sameTransport]
    exact refused
  have failed : NanoCommunicationResult.error ≠ .ok := by decide
  obtain ⟨result, events⟩ := step.refused refused'
  rw [session, sent] at events
  rw [continueIfOk_of_failed (by rw [result]; exact failed)] at run
  obtain ⟨asyncMessages, asyncStops⟩ :=
    asyncEvents_of_accepted accepted' metadataEvents events
  obtain ⟨syncRest, syncRestStops⟩ := sentEvents_append_of_refused refused
    (endEvents env headers containsBody (nanoMetadataSender env metadata
      false .sync (initThreadCtx state)))
  rw [syncRest] at syncMessages
  rw [syncRestStops, nothingSent_endEvents_iff] at syncStops
  constructor
  · intro agree
    exact syncStops.mp agree.syncStops
  · intro body
    refine ⟨?_, syncStops.mpr body, ?_, ?_⟩
    · rw [syncMessages, run, asyncMessages,
        upToFailure_congr sameTransport]
    · rw [run]
      exact asyncStops.mpr (stopsAtFailure_sentEvents _ _ _)
    · have tail := nanoHeaderSender_syncStep env headers .requestHeader
        (nanoMetadataSender env metadata false .sync (initThreadCtx state))
      have res := tail.res
      rw [syncSession, syncSent, if_neg refused] at res
      rw [run, result, body]
      exact congrArg _ res

variable
  (bulks : AllAccepted (sendOutcome env .sync state.sessionData.sessionId)
    (state.messagesSent + 1)
    (headerMessages headers .requestHeader
      state.sessionData.sessionId).length)

include sameTransport bulks in
theorem asyncStart_bulks {before : SenderState ω}
    (session : before.sessionData.sessionId = state.sessionData.sessionId)
    (sent : before.messagesSent = state.messagesSent + 1) :
    AllAccepted (sendOutcome env' .async before.sessionData.sessionId)
      before.messagesSent
      (headerMessages headers .requestHeader
        before.sessionData.sessionId).length := by
  rw [session, sent, allAccepted_congr sameTransport]
  exact bulks

include inspected accepted bulks in
theorem syncStart_headers :
    let before := nanoMetadataSender env metadata false .sync
      (initThreadCtx state)
    let after := nanoHeaderSender env headers .requestHeader false .sync before
    after.res = .ok ∧
      after.messagesSent = state.messagesSent + 1 +
        (headerMessages headers .requestHeader
          state.sessionData.sessionId).length := by
  obtain ⟨session, res, sent, _⟩ := syncStart_metadata inspected accepted
  have step := nanoHeaderSender_syncStep env headers .requestHeader
    (nanoMetadataSender env metadata false .sync (initThreadCtx state))
  dsimp only at session res sent ⊢
  have all := bulks
  rw [← session, ← sent] at all
  have result := step.res.trans (if_pos all)
  have count := step.messagesSent all
  rw [session, sent] at count
  exact ⟨result.trans res, count⟩

include inspected accepted bulks in
theorem endEvents_of_accepted :
    let sessionId := state.sessionData.sessionId
    let before := nanoMetadataSender env metadata false .sync
      (initThreadCtx state)
    let outcome := sendOutcome env .sync sessionId (state.messagesSent + 1 +
      (headerMessages headers .requestHeader sessionId).length)
    endEvents env headers false before =
        .sent (eventMessage .requestEnd sessionId) outcome ::
          (if outcome.result = .ok then
            [.replied (env.reply state.repliesRead)] else []) ∧
      (syncTail env headers false before).res =
        if outcome.result = .ok then (env.reply state.repliesRead).result
        else .ok := by
  obtain ⟨session, _, _, replies⟩ := syncStart_metadata inspected accepted
  obtain ⟨res, sent⟩ := syncStart_headers inspected accepted bulks
  dsimp only at session replies res sent ⊢
  constructor
  · rw [endEvents, if_neg Bool.false_ne_true]
    dsimp only
    rw [session, sent, replies]
  · rw [syncTail_res]
    dsimp only
    rw [session, sent, replies, res]
    simp only [true_and]

include inspected inspected' accepted accepted' signalled bulks
  sameTransport in
theorem not_requestStartsAgree_of_second_signal
    (notSignalled :
      ¬Signalled env' state.sessionData.sessionId (state.signalsSent + 1)) :
    ¬RequestStartsAgree env env' metadata headers containsBody state := by
  intro agree
  obtain ⟨syncMessages, _⟩ :=
    syncEvents_of_accepted headers containsBody inspected accepted
  obtain ⟨before, session, metadataEvents, sent, signals, run⟩ :=
    asyncStart_metadata headers containsBody inspected' accepted' signalled
  have step := sendRequestHeadersAsyncImpl_asyncStep env' headers before
  have bulks' := asyncStart_bulks sameTransport bulks session sent
  obtain ⟨result, events⟩ := step.accepted bulks'
  rw [session, signals] at result
  have failed : (sendRequestHeadersAsyncImpl env' (some headers)
      before).1 ≠ .ok := fun ok => notSignalled (result.symm.trans ok)
  rw [continueIfOk_of_failed failed] at run
  have asyncMessages :=
    (asyncEvents_of_accepted accepted' metadataEvents events).1
  rw [(sentEvents_append_of_accepted bulks' _).1, session] at asyncMessages
  rw [(sentEvents_append_of_accepted bulks _).1] at syncMessages
  have same := agree.sameMessages
  rw [syncMessages, run, asyncMessages, List.cons.injEq,
    List.append_cancel_left_eq] at same
  have body := (nothingSent_endEvents_iff _ _ _).mp
    (nothingSent_of_upToFailure same.2)
  subst body
  -- nothing is left to send, so that the synchronous start succeeds
  have kind := agree.sameClass
  rw [run, result, outcomeClass_of_signal notSignalled] at kind
  have res := (syncStart_headers inspected accepted bulks).1
  have succeeded := (congrArg _ res).symm.trans kind
  cases succeeded

theorem continueIfOk_id (outcome : NanoCommunicationResult × SenderState ω) :
    continueIfOk (fun state => (.ok, state)) outcome = outcome := by
  obtain ⟨result, state⟩ := outcome
  rw [continueIfOk]
  split
  · rfl
  · rename_i succeeded
    rw [not_not.mp succeeded]

theorem outcomeClass_of_reply (reply : Reply ω) :
    reply.result.outcomeClass =
      if reply.result = .error then .failed else .ok := by
  rcases reply.isResult with result | result | result
  · rw [result]
    rfl
  · rw [result]
    rfl
  · rw [result]
    rfl

variable
  (signalledHeaders :
    Signalled env' state.sessionData.sessionId (state.signalsSent + 1))

include sameTransport inspected' accepted' signalled bulks
  signalledHeaders in
variable (containsBody) in
/-- The asynchronous start after accepted headers: the end follows. -/
theorem asyncStart_headers :
    let sessionId := state.sessionData.sessionId
    let messages := headerMessages headers .requestHeader sessionId
    ∃ before : SenderState ω, before.sessionData.sessionId = sessionId ∧
      before.messagesSent = state.messagesSent + 1 + messages.length ∧
      before.signalsSent = state.signalsSent + 2 ∧
      sendRequestFilterAsyncImpl env'
          ⟨some metadata, some headers, containsBody⟩ state =
        asyncEnd env' containsBody before ∧
      ∀ (final : SenderState ω) (rest : List (Event ω)),
        final.events = before.events ++ rest →
        upToFailure (state.eventsSince final) =
            metadataMessage metadata sessionId ::
              (messages ++ upToFailure rest) ∧
          (StopsAtFailure (state.eventsSince final) ↔
            StopsAtFailure rest) := by
  obtain ⟨before, session, metadataEvents, sent, signals, run⟩ :=
    asyncStart_metadata headers containsBody inspected' accepted' signalled
  have step := sendRequestHeadersAsyncImpl_asyncStep env' headers before
  have bulks' := asyncStart_bulks sameTransport bulks session sent
  have signalled' :
      Signalled env' before.sessionData.sessionId before.signalsSent := by
    rw [session, signals]
    exact signalledHeaders
  obtain ⟨succeeded, events, count, signalCount⟩ :=
    step.next bulks' signalled'
  refine ⟨_, step.sameSession.trans session, ?_, ?_, ?_, ?_⟩
  · rw [count, sent, session]
  · rw [signalCount, signals]
  · rw [run, continueIfOk_of_ok succeeded]
  · intro final rest later
    rw [events, List.append_assoc, List.append_assoc] at later
    obtain ⟨messages, stops⟩ :=
      asyncEvents_of_accepted accepted' metadataEvents later
    obtain ⟨restMessages, restStops⟩ :=
      sentEvents_append_of_accepted bulks' ([.signalled .ok] ++ rest)
    rw [restMessages, session] at messages
    refine ⟨messages, stops.trans (restStops.trans ?_)⟩
    exact and_iff_right fun fails => absurd rfl fails

include sameTransport inspected inspected' accepted accepted' signalled bulks
  signalledHeaders in
/-- The headers are accepted: with a body both starts are over, and without
one the end decides. -/
theorem requestStartsAgree_of_headers :
    let sessionId := state.sessionData.sessionId
    let endIndex := state.messagesSent + 1 +
      (headerMessages headers .requestHeader sessionId).length
    RequestStartsAgree env env' metadata headers containsBody state ↔
      containsBody = true ∨
        ((sendOutcome env .sync sessionId endIndex).result = .ok ∧
          (Signalled env' sessionId (state.signalsSent + 2) ↔
            (env.reply state.repliesRead).result ≠ .error)) := by
  obtain ⟨syncMessages, syncStops⟩ :=
    syncEvents_of_accepted headers containsBody inspected accepted
  obtain ⟨before, session, sent, signals, run, along⟩ :=
    asyncStart_headers containsBody sameTransport inspected' accepted'
      signalled bulks signalledHeaders
  obtain ⟨restMessages, restStops⟩ := sentEvents_append_of_accepted bulks
    (endEvents env headers containsBody (nanoMetadataSender env metadata
      false .sync (initThreadCtx state)))
  rw [restMessages] at syncMessages
  rw [restStops] at syncStops
  dsimp only at session sent signals ⊢
  cases containsBody with
  | true =>
      refine iff_of_true ?_ (.inl rfl)
      obtain ⟨asyncMessages, asyncStops⟩ :=
        along before [] (List.append_nil _).symm
      have run' : sendRequestFilterAsyncImpl env'
          ⟨some metadata, some headers, true⟩ state = (.ok, before) := run
      refine ⟨?_, syncStops.mpr trivial, ?_, ?_⟩
      · rw [syncMessages, run', asyncMessages]
        rfl
      · rw [run']
        exact asyncStops.mpr trivial
      · have res := (syncStart_headers inspected accepted bulks).1
        rw [run']
        exact congrArg _ res
  | false =>
      obtain ⟨ending, syncRes⟩ :=
        endEvents_of_accepted inspected accepted bulks
      have run' : sendRequestFilterAsyncImpl env'
          ⟨some metadata, some headers, false⟩ state =
          sendRequestEndAsyncImpl env' before :=
        run.trans (continueIfOk_id _)
      have step := sendRequestEndAsyncImpl_asyncStep env' before
      have res : (sendRequestFilterThread env metadata headers false
          (initThreadCtx state)).res = _ := syncRes
      rw [ending] at syncMessages syncStops
      by_cases ended : (sendOutcome env .sync state.sessionData.sessionId
          (state.messagesSent + 1 + (headerMessages headers .requestHeader
            state.sessionData.sessionId).length)).result = .ok
      · have all : AllAccepted
            (sendOutcome env' .async before.sessionData.sessionId)
            before.messagesSent 1 := by
          rw [session, sent, allAccepted_congr sameTransport,
            allAccepted_one_iff]
          exact ended
        have sentAll : AllAccepted
            (sendOutcome env' .async before.sessionData.sessionId)
            before.messagesSent [eventMessage .requestEnd
              before.sessionData.sessionId].length := all
        obtain ⟨result, events⟩ := step.accepted all
        obtain ⟨asyncMessages, asyncStops⟩ := along _ _ events
        obtain ⟨lastMessages, lastStops⟩ := sentEvents_append_of_accepted
          sentAll [.signalled (sendRequestEndAsyncImpl env' before).1]
        rw [session, signals] at result
        rw [lastMessages, session] at asyncMessages
        have asyncSilent := asyncStops.mpr
          (lastStops.mpr ⟨fun _ => nothingSent_nil, trivial⟩)
        rw [if_pos ended] at syncMessages syncStops res
        have syncSilent := syncStops.mpr
          ⟨fun fails => absurd ended fails,
            fun _ => nothingSent_nil, trivial⟩
        rw [upToFailure, if_pos ended] at syncMessages
        have kinds : (sendRequestFilterThread env metadata headers false
              (initThreadCtx state)).res.outcomeClass =
            (sendRequestFilterAsyncImpl env'
              ⟨some metadata, some headers, false⟩ state).1.outcomeClass ↔
            (Signalled env' state.sessionData.sessionId
                (state.signalsSent + 2) ↔
              (env.reply state.repliesRead).result ≠ .error) := by
          rw [res, run', result, outcomeClass_of_reply]
          by_cases last : Signalled env' state.sessionData.sessionId
              (state.signalsSent + 2)
          · rw [last]
            by_cases failed : (env.reply state.repliesRead).result = .error
            · simp [failed, last, NanoCommunicationResult.outcomeClass]
            · simp [failed, last, NanoCommunicationResult.outcomeClass]
          · rw [outcomeClass_of_signal last]
            by_cases failed : (env.reply state.repliesRead).result = .error
            · simp [failed, last]
            · simp [failed, last]
        constructor
        · intro agree
          exact .inr ⟨ended, kinds.mp agree.sameClass⟩
        · rintro (body | ⟨_, same⟩)
          · cases body
          · refine ⟨?_, syncSilent, ?_, kinds.mpr same⟩
            · rw [syncMessages, run', asyncMessages]
              rfl
            · rw [run']
              exact asyncSilent
      · have refused : ¬AllAccepted
            (sendOutcome env' .async before.sessionData.sessionId)
            before.messagesSent 1 := by
          rw [session, sent, allAccepted_congr sameTransport,
            allAccepted_one_iff]
          exact ended
        -- the synchronous start does not report the refused end
        apply iff_of_false
        · intro agree
          have kind := agree.sameClass
          rw [res, if_neg ended, run', (step.refused refused).1] at kind
          cases kind
        · rintro (body | ⟨accepted, _⟩)
          · cases body
          · exact ended accepted

end Signalled

/-- A synchronous and an asynchronous start of a request, with the same filter
and the same results for each message, agree precisely when the outcomes leave
no room for their differences. -/
theorem request_starts_agree_iff
    (sameFilter : ∀ srcIp, isInspectionRequiredForSource env' srcIp =
      isInspectionRequiredForSource env srcIp)
    (sameTransport : ∀ index,
      (sendOutcome env' .async state.sessionData.sessionId index).result =
        (sendOutcome env .sync state.sessionData.sessionId index).result) :
    RequestStartsAgree env env' metadata headers containsBody state ↔
      StartMeetsNoDifference env env' metadata headers containsBody state := by
  rw [StartMeetsNoDifference]
  by_cases declined : isInspectionRequiredForSource env metadata.clientIp = 0
  · rw [if_pos (.inl declined)]
    have declined' := (sameFilter metadata.clientIp).trans declined
    exact requestStartsAgree_of_declined declined declined'
  have inspected' : isInspectionRequiredForSource env' metadata.clientIp ≠ 0 :=
    fun none => declined ((sameFilter metadata.clientIp).symm.trans none)
  by_cases refused : (sendOutcome env .sync state.sessionData.sessionId
      state.messagesSent).result ≠ .ok
  · rw [if_pos (.inr refused)]
    exact requestStartsAgree_of_refused sameTransport declined inspected'
      refused
  rw [if_neg (not_or.mpr ⟨declined, refused⟩)]
  have accepted : AllAccepted
      (sendOutcome env .sync state.sessionData.sessionId)
      state.messagesSent 1 := allAccepted_one_iff.mpr (not_not.mp refused)
  have accepted' := (allAccepted_congr sameTransport).mpr accepted
  by_cases signalled :
      Signalled env' state.sessionData.sessionId state.signalsSent
  · rw [and_iff_right signalled]
    by_cases bulks : AllAccepted
        (sendOutcome env .sync state.sessionData.sessionId)
        (state.messagesSent + 1)
        (headerMessages headers .requestHeader
          state.sessionData.sessionId).length
    · rw [if_pos bulks]
      by_cases signalledHeaders : Signalled env' state.sessionData.sessionId
          (state.signalsSent + 1)
      · rw [and_iff_right signalledHeaders]
        exact requestStartsAgree_of_headers sameTransport declined inspected'
          accepted accepted' signalled bulks signalledHeaders
      · apply iff_of_false _ fun both => signalledHeaders both.1
        exact not_requestStartsAgree_of_second_signal sameTransport declined
          inspected' accepted accepted' signalled bulks signalledHeaders
    · rw [if_neg bulks]
      exact requestStartsAgree_of_bulk_refused sameTransport declined
        inspected' accepted accepted' signalled bulks
  · apply iff_of_false _ fun both => signalled both.1
    exact not_requestStartsAgree_of_first_signal declined inspected'
      accepted accepted' signalled

end Cases

end Comparison

/-- The metadata of a request without a body is refused, and the synchronous
start goes on with the headers and the end. -/
theorem request_starts_disagree :
    let env : Environment Unit :=
      .accepting (fun index => index ≠ 0) (fun _ => .ofVerdict .inspect)
    let metadata : HttpMetaData :=
      { httpProtocol := [72], methodName := [71], host := [104]
        listeningIp := [49], listeningPort := 80, uri := [47]
        clientIp := [50], clientPort := 4000, parsedHost := [], parsedUri := [] }
    ¬RequestStartsAgree env env metadata [{ key := [104], value := [49] }]
      false (.start ⟨7, .inspect, 0⟩) := by
  intro env metadata agree
  have kind := agree.sameClass
  revert kind
  decide

/-- A request with a body whose messages and signals succeed. -/
theorem request_starts_agree_iff_on_body :
    let env : Environment Unit :=
      .accepting (fun _ => true) (fun _ => .ofVerdict .inspect)
    let metadata : HttpMetaData :=
      { httpProtocol := [72], methodName := [71], host := [104]
        listeningIp := [49], listeningPort := 80, uri := [47]
        clientIp := [50], clientPort := 4000, parsedHost := [], parsedUri := [] }
    let headers : List HttpHeaderData := [{ key := [104], value := [49] }]
    RequestStartsAgree env env metadata headers true
        (.start ⟨7, .inspect, 0⟩) ↔
      StartMeetsNoDifference env env metadata headers true
        (.start ⟨7, .inspect, 0⟩) := by
  intro env metadata headers
  apply request_starts_agree_iff
  · intro srcIp
    rfl
  · intro index
    rfl

end OpenAppsec.Nano
