import OpenAppsec.Attachment.Transmissions
import OpenAppsec.Library.Trace

/-!
# The counter of expected replies

A sender adds to the counter once, after its last message.  The counter is
compared with the copies that the ring queue has accepted.
-/

namespace OpenAppsec.Nano

open Trace

section Copies

variable {ω : Type*}

variable {outcome : Nat → SendOutcome} {index : Nat}

/-- The copies of its message that an event has put into the ring queue. -/
def Event.copies : Event ω → Nat
  | .sent _ outcome => OpenAppsec.copies outcome.errCodes
  | _ => 0

/-- The messages that the ring queue has accepted. -/
def SenderState.enqueued (state : SenderState ω) : Nat :=
  (state.events.map Event.copies).sum

/-- The copies that the ring queue accepts while messages are handed over. -/
def sentCopies (outcome : Nat → SendOutcome) (index : Nat)
    (messages : List Message) : Nat :=
  ((sentEvents outcome index messages : List (Event Unit)).map
    Event.copies).sum

theorem sentCopies_cons (outcome : Nat → SendOutcome) (index : Nat)
    (message : Message) (messages : List Message) :
    sentCopies outcome index (message :: messages) =
      copies (outcome index).errCodes +
        if (outcome index).result = .ok then
          sentCopies outcome (index + 1) messages
        else 0 := by
  rw [sentCopies, sentEvents, List.map_cons, List.sum_cons]
  split
  · rfl
  · rfl

theorem sum_copies_sentEvents (outcome : Nat → SendOutcome) (index : Nat)
    (messages : List Message) :
    ((sentEvents outcome index messages : List (Event ω)).map
      Event.copies).sum = sentCopies outcome index messages := by
  induction messages generalizing index with
  | nil => rfl
  | cons message messages induction =>
      rw [sentCopies_cons, sentEvents, List.map_cons, List.sum_cons]
      split
      · rw [induction]
        rfl
      · rfl

/-- Every accepted message leaves a copy in the queue. -/
def LeavesCopies (outcome : Nat → SendOutcome) : Prop :=
  ∀ index, (outcome index).result = .ok → 1 ≤ copies (outcome index).errCodes

theorem sendOutcome_leavesCopies (env : Environment ω)
    (usageMode : SignalUsageMode) (sessionId : BitVec 32) :
    LeavesCopies (sendOutcome env usageMode sessionId) := by
  intro index accepted
  have observed := sendAttempts_observed sessionId.toNat usageMode .ok
    (List.ofFn (env.transport index))
  have success : (sendOutcome env usageMode sessionId index).observed.success =
      true := decide_eq_true accepted
  change 1 ≤ (sendOutcome env usageMode sessionId index).observed.copies
  rw [sendOutcome, sendSessionDataToService, observed] at success ⊢
  exact RetryLoop.offer_copies_of_success success

/-- Each of some messages leaves one copy in the queue. -/
def EachOnce (outcome : Nat → SendOutcome) (index count : Nat) : Prop :=
  ∀ offset, offset < count → copies (outcome (index + offset)).errCodes = 1

theorem eachOnce_succ_iff {count : Nat} :
    EachOnce outcome index (count + 1) ↔
      copies (outcome index).errCodes = 1 ∧
        EachOnce outcome (index + 1) count := by
  constructor
  · intro once
    refine ⟨once 0 (Nat.zero_lt_succ _), ?_⟩
    intro offset inside
    rw [Nat.add_right_comm, Nat.add_assoc]
    exact once (offset + 1) (Nat.succ_lt_succ inside)
  · rintro ⟨first, rest⟩ offset inside
    cases offset with
    | zero => exact first
    | succ offset =>
        have later := rest offset (Nat.lt_of_succ_lt_succ inside)
        rwa [Nat.add_right_comm, Nat.add_assoc] at later

theorem sentCopies_of_accepted (leaves : LeavesCopies outcome)
    {messages : List Message}
    (accepted : AllAccepted outcome index messages.length) :
    messages.length ≤ sentCopies outcome index messages ∧
      (sentCopies outcome index messages = messages.length ↔
        EachOnce outcome index messages.length) := by
  induction messages generalizing index with
  | nil =>
      refine ⟨Nat.le_refl _, iff_of_true rfl ?_⟩
      intro offset inside
      exact absurd inside (Nat.not_lt_zero offset)
  | cons message messages induction =>
      obtain ⟨first, rest⟩ := allAccepted_succ_iff.mp accepted
      obtain ⟨least, exactly⟩ := induction rest
      have copied := leaves index first
      rw [sentCopies_cons, if_pos first, List.length_cons, eachOnce_succ_iff,
        ← exactly]
      constructor
      · omega
      · constructor
        · intro total
          exact ⟨by omega, by omega⟩
        · rintro ⟨one, others⟩
          omega

theorem sentCopies_of_refused (leaves : LeavesCopies outcome)
    {messages : List Message}
    (refused : ¬AllAccepted outcome index messages.length) :
    sentCopies outcome index messages = 0 ↔
      copies (outcome index).errCodes = 0 := by
  cases messages with
  | nil =>
      exfalso
      apply refused
      intro offset inside
      exact absurd inside (Nat.not_lt_zero offset)
  | cons message messages =>
      rw [sentCopies_cons]
      by_cases accepted : (outcome index).result = .ok
      · have copied := leaves index accepted
        rw [if_pos accepted]
        omega
      · rw [if_neg accepted, Nat.add_zero]

end Copies

/-- A call of a message sender. -/
inductive Send where
  | metadata (metadata : HttpMetaData) (isVerdictRequested : Bool)
  | responseCode (responseCode : BitVec 16)
  | responseContentLength (contentLength : BitVec 64)
  | headers (headers : List HttpHeaderData) (headerType : AttachmentDataType)
      (isVerdictRequested : Bool)
  | body (bodies : List NanoStr) (bodyType : AttachmentDataType)
      (isVerdictRequested : Bool)
  | endTransaction (endTransactionType : AttachmentDataType)
      (isVerdictRequested : Bool)
  | delayedVerdict (isVerdictRequested : Bool)

section Sends

variable {ω : Type*} (env : Environment ω)

variable {state : SenderState ω}

/-- The call up to the wait for replies. -/
def Send.transmit (send : Send) (state : SenderState ω) :
    Option (Bool × SenderState ω) :=
  let sessionId := state.sessionData.sessionId
  match send with
  | .metadata data _ => some (transmitMetadata env data .sync state)
  | .responseCode code =>
      some <| transmitResponseInfo env (responseCodeMessage code sessionId)
        .sync state
  | .responseContentLength length =>
      some <| transmitResponseInfo env (contentLengthMessage length sessionId)
        .sync state
  | .headers list headerType _ =>
      some (transmitHeaders env list headerType .sync state)
  | .body bodies bodyType _ => transmitBody env bodies bodyType .sync state
  | .endTransaction endTransactionType _ =>
      some (transmitEvent env endTransactionType .sync state)
  | .delayedVerdict _ =>
      some (transmitEvent env .requestDelayedVerdict .sync state)

/-- The whole call; `none` when it does not return. -/
def Send.run (state : SenderState ω) (send : Send) : Option (SenderState ω) :=
  match send with
  | .metadata data isVerdictRequested =>
      some (nanoMetadataSender env data isVerdictRequested .sync state)
  | .responseCode code => some (nanoSendResponseCode env code .sync state)
  | .responseContentLength length =>
      some (nanoSendResponseContentLength env length .sync state)
  | .headers list headerType isVerdictRequested =>
      some <| nanoHeaderSender env list headerType isVerdictRequested .sync
        state
  | .body bodies bodyType isVerdictRequested =>
      nanoBodySender env bodies bodyType isVerdictRequested .sync state
  | .endTransaction endTransactionType isVerdictRequested =>
      some <| nanoEndTransactionSender env endTransactionType
        isVerdictRequested .sync state
  | .delayedVerdict isVerdictRequested =>
      some (nanoRequestDelayedVerdict env isVerdictRequested .sync state)

/-- The messages of a call. -/
def Send.messages (send : Send) (sessionId : BitVec 32) : List Message :=
  match send with
  | .metadata data _ =>
      if isInspectionRequiredForSource env data.clientIp = 0 then []
      else [metadataMessage data sessionId]
  | .responseCode code => [responseCodeMessage code sessionId]
  | .responseContentLength length => [contentLengthMessage length sessionId]
  | .headers list headerType _ => headerMessages list headerType sessionId
  | .body bodies bodyType _ =>
      bodyMessages bodies bodyType sessionId env.passes 0 0
  | .endTransaction endTransactionType _ =>
      [eventMessage endTransactionType sessionId]
  | .delayedVerdict _ => [eventMessage .requestDelayedVerdict sessionId]

/-- Before any reply is read, the counter has grown by the number of messages
that the ring queue has accepted. -/
def CountsExactly (state : SenderState ω) (send : Send) : Prop :=
  ∀ outcome, send.transmit env state = some outcome →
    outcome.2.sessionData.remainingMessagesToReply + state.enqueued =
      state.sessionData.remainingMessagesToReply + outcome.2.enqueued

/-- Every message of the call is accepted exactly once and the counter has
room for them, or no copy of its first message is accepted. -/
def AcceptedOnceOrNever (state : SenderState ω) (send : Send) : Prop :=
  let outcome := sendOutcome env .sync state.sessionData.sessionId
  let count := (send.messages env state.sessionData.sessionId).length
  (AllAccepted outcome state.messagesSent count ∧
      EachOnce outcome state.messagesSent count ∧
      state.sessionData.remainingMessagesToReply + count < 2 ^ 32) ∨
    (0 < count ∧ copies (outcome state.messagesSent).errCodes = 0)

theorem deliver_remaining (messages : List Message) (state : SenderState ω) :
    (deliver env .sync messages
        state).2.sessionData.remainingMessagesToReply =
      if AllAccepted (sendOutcome env .sync state.sessionData.sessionId)
          state.messagesSent messages.length then
        (state.sessionData.remainingMessagesToReply + messages.length) %
          2 ^ 32
      else state.sessionData.remainingMessagesToReply := by
  rw [deliver, sendAll_eq]
  by_cases accepted :
      AllAccepted (sendOutcome env .sync state.sessionData.sessionId)
        state.messagesSent messages.length
  · rw [if_pos accepted, decide_eq_true accepted]
    rfl
  · rw [if_neg accepted, decide_eq_false accepted]
    rfl

theorem deliver_enqueued (messages : List Message) (state : SenderState ω) :
    (deliver env .sync messages state).2.enqueued =
      state.enqueued +
        sentCopies (sendOutcome env .sync state.sessionData.sessionId)
          state.messagesSent messages := by
  rw [SenderState.enqueued, deliver_events, List.map_append,
    List.sum_append, sum_copies_sentEvents]
  rfl

/-- The counter of a transmission is exact when each message is accepted once
or no copy of the first one is accepted. -/
theorem deliver_counts_iff (messages : List Message)
    (bounded :
      state.sessionData.remainingMessagesToReply < 2 ^ 32) :
    let outcome := sendOutcome env .sync state.sessionData.sessionId
    let after := (deliver env .sync messages state).2
    after.sessionData.remainingMessagesToReply + state.enqueued =
        state.sessionData.remainingMessagesToReply + after.enqueued ↔
      (AllAccepted outcome state.messagesSent messages.length ∧
          EachOnce outcome state.messagesSent messages.length ∧
          state.sessionData.remainingMessagesToReply + messages.length <
            2 ^ 32) ∨
        (0 < messages.length ∧
          copies (outcome state.messagesSent).errCodes = 0) := by
  dsimp only
  rw [deliver_remaining, deliver_enqueued]
  have leaves := sendOutcome_leavesCopies env .sync
    state.sessionData.sessionId
  generalize sendOutcome env .sync state.sessionData.sessionId = outcome
    at leaves ⊢
  by_cases accepted :
      AllAccepted outcome state.messagesSent messages.length
  · obtain ⟨least, exactly⟩ := sentCopies_of_accepted leaves accepted
    have noRefusal : ¬(0 < messages.length ∧
        copies (outcome state.messagesSent).errCodes = 0) := by
      rintro ⟨some, none⟩
      have copied := leaves _ (accepted 0 some)
      rw [Nat.add_zero] at copied
      omega
    rw [if_pos accepted, ← exactly]
    constructor
    · intro counted
      refine .inl ⟨accepted, ?_⟩
      omega
    · rintro (⟨_, once, room⟩ | never)
      · rw [Nat.mod_eq_of_lt room]
        omega
      · exact absurd never noRefusal
  · have refused := sentCopies_of_refused leaves accepted
    have some : 0 < messages.length := by
      apply Nat.pos_of_ne_zero
      intro none
      apply accepted
      intro offset inside
      omega
    rw [if_neg accepted]
    constructor
    · intro counted
      refine .inr ⟨some, refused.mp ?_⟩
      omega
    · rintro (⟨all, _⟩ | ⟨_, never⟩)
      · exact absurd all accepted
      · rw [refused.mpr never]
        omega

variable {send : Send}

variable (bounded : state.sessionData.remainingMessagesToReply < 2 ^ 32)

include bounded in
theorem Send.transmit_effect {outcome : Bool × SenderState ω}
    (returned : send.transmit env state = some outcome) :
    let messages := send.messages env state.sessionData.sessionId
    let after := (deliver env .sync messages state).2
    outcome.2.sessionData.remainingMessagesToReply =
        after.sessionData.remainingMessagesToReply ∧
      outcome.2.enqueued = after.enqueued := by
  have event : ∀ eventType,
      (transmitEvent env eventType .sync state).2.sessionData =
          (deliver env .sync
            [eventMessage eventType state.sessionData.sessionId]
            state).2.sessionData ∧
        (transmitEvent env eventType .sync state).2.events =
          (deliver env .sync
            [eventMessage eventType state.sessionData.sessionId]
            state).2.events := by
    intro eventType
    rw [transmitEvent_eq, deliver_singleton]
    dsimp only
    split
    · exact ⟨rfl, rfl⟩
    · exact ⟨rfl, rfl⟩
  cases send with
  | metadata data isVerdictRequested =>
      cases returned
      by_cases declined : isInspectionRequiredForSource env data.clientIp = 0
      · have kept : (state.sessionData.remainingMessagesToReply + 0) % 2 ^ 32 =
            state.sessionData.remainingMessagesToReply :=
          Nat.mod_eq_of_lt bounded
        rw [Send.messages, if_pos declined, transmitMetadata,
          if_pos declined]
        refine ⟨kept.symm, ?_⟩
        change ((state.events ++ [Event.declined]).map Event.copies).sum =
          state.enqueued
        rw [List.map_append, List.sum_append]
        rfl
      · rw [Send.messages, if_neg declined, transmitMetadata_eq declined]
        exact ⟨rfl, rfl⟩
  | responseCode code =>
      cases returned
      rw [transmitResponseInfo_eq]
      exact ⟨rfl, rfl⟩
  | responseContentLength length =>
      cases returned
      rw [transmitResponseInfo_eq]
      exact ⟨rfl, rfl⟩
  | headers list headerType isVerdictRequested =>
      cases returned
      rw [transmitHeaders_eq]
      exact ⟨rfl, rfl⟩
  | body bodies bodyType isVerdictRequested =>
      have delivered := (transmitBody_returned returned).1
      dsimp only at delivered ⊢
      rw [← delivered]
      exact ⟨rfl, rfl⟩
  | endTransaction endTransactionType isVerdictRequested =>
      cases returned
      obtain ⟨session, events⟩ := event endTransactionType
      exact ⟨congrArg HttpSessionData.remainingMessagesToReply session,
        congrArg (fun events => (events.map Event.copies).sum) events⟩
  | delayedVerdict isVerdictRequested =>
      cases returned
      obtain ⟨session, events⟩ := event .requestDelayedVerdict
      exact ⟨congrArg HttpSessionData.remainingMessagesToReply session,
        congrArg (fun events => (events.map Event.copies).sum) events⟩

include bounded in
theorem Send.countsExactly_iff {outcome : Bool × SenderState ω}
    (returned : send.transmit env state = some outcome) :
    CountsExactly env state send ↔ AcceptedOnceOrNever env state send := by
  obtain ⟨counter, queue⟩ := Send.transmit_effect env bounded returned
  have counts := deliver_counts_iff env
    (send.messages env state.sessionData.sessionId) bounded
  dsimp only at counter queue counts
  rw [← counter, ← queue] at counts
  rw [AcceptedOnceOrNever, ← counts]
  constructor
  · intro exactly
    exact exactly outcome returned
  · intro exactly other same
    cases returned.symm.trans same
    exact exactly

/-- The state is that of the sends, or there was a wait after them. -/
def ReplacedByWait (state next : SenderState ω) : Prop :=
  next.sessionData = state.sessionData ∨ ∃ waiting, next = receive env waiting

theorem requestVerdict_sessionData (isVerdictRequested : Bool)
    (state : SenderState ω) :
    ReplacedByWait env state (requestVerdict env isVerdictRequested state) := by
  cases isVerdictRequested with
  | false => exact .inl rfl
  | true => exact .inr ⟨state, rfl⟩

theorem requestVerdictOrOk_sessionData (isVerdictRequested : Bool)
    (state : SenderState ω) :
    ReplacedByWait env state
      (requestVerdictOrOk env isVerdictRequested state) := by
  cases isVerdictRequested with
  | false => exact .inl rfl
  | true => exact .inr ⟨state, rfl⟩

theorem afterwards_sessionData {next : SenderState ω → SenderState ω}
    (replaced : ∀ state, ReplacedByWait env state (next state))
    (outcome : Bool × SenderState ω) :
    ReplacedByWait env outcome.2 (afterwards next outcome) := by
  obtain ⟨goesOn, state⟩ := outcome
  cases goesOn with
  | false => exact .inl rfl
  | true => exact replaced state

theorem Send.run_transmit {next : SenderState ω}
    (returned : Send.run env state send = some next) :
    ∃ outcome, send.transmit env state = some outcome ∧
      (next.sessionData = outcome.2.sessionData ∨
        ∃ waiting, next = receive env waiting) := by
  have requested (isVerdictRequested : Bool)
      (outcome : Bool × SenderState ω) :=
    afterwards_sessionData env
      (requestVerdict_sessionData env isVerdictRequested) outcome
  have requestedOrOk (isVerdictRequested : Bool)
      (outcome : Bool × SenderState ω) :=
    afterwards_sessionData env
      (requestVerdictOrOk_sessionData env isVerdictRequested) outcome
  cases send with
  | metadata data isVerdictRequested =>
      cases returned
      exact ⟨_, rfl, requested isVerdictRequested _⟩
  | responseCode code =>
      cases returned
      exact ⟨_, rfl, .inl rfl⟩
  | responseContentLength length =>
      cases returned
      exact ⟨_, rfl, .inl rfl⟩
  | headers list headerType isVerdictRequested =>
      cases returned
      exact ⟨_, rfl, requested isVerdictRequested _⟩
  | body bodies bodyType isVerdictRequested =>
      obtain ⟨outcome, transmitted, rfl⟩ := Option.map_eq_some_iff.mp returned
      exact ⟨outcome, transmitted, requestedOrOk isVerdictRequested outcome⟩
  | endTransaction endTransactionType isVerdictRequested =>
      cases returned
      exact ⟨_, rfl, requestedOrOk isVerdictRequested _⟩
  | delayedVerdict isVerdictRequested =>
      cases returned
      exact ⟨_, rfl, requestedOrOk isVerdictRequested _⟩

include bounded in
theorem Send.run_bounded {next : SenderState ω}
    (returned : Send.run env state send = some next) :
    next.sessionData.remainingMessagesToReply < 2 ^ 32 := by
  obtain ⟨outcome, transmitted, session | ⟨waiting, rfl⟩⟩ :=
    Send.run_transmit env returned
  · have counter := (Send.transmit_effect env bounded transmitted).1
    rw [session, counter, deliver_remaining]
    split
    · exact Nat.mod_lt _ (Nat.two_pow_pos 32)
    · exact bounded
  · exact (env.reply waiting.repliesRead).remaining_lt

/-- In a run of calls the counter is exact after every call precisely when
every call has its messages accepted once or no copy of the first one. -/
theorem expected_replies_exact_iff {state final : SenderState ω}
    (bounded : state.sessionData.remainingMessagesToReply < 2 ^ 32)
    {sends : List Send}
    (ran : runPartial (Send.run env) state sends = some final) :
    Every (Send.run env) (CountsExactly env) state sends ↔
      Every (Send.run env) (AcceptedOnceOrNever env) state sends := by
  apply every_congr
    (fun state => state.sessionData.remainingMessagesToReply < 2 ^ 32)
    _ bounded ran
  intro state send next bounded returned
  obtain ⟨outcome, transmitted, _⟩ := Send.run_transmit env returned
  have exactly := Send.countsExactly_iff env bounded transmitted
  exact ⟨Send.run_bounded env bounded returned, exactly⟩

end Sends

/-- Of eleven headers the second bulk is refused; the first one stays in the
queue without being counted. -/
theorem expected_replies_miss_first_bulk :
    let env : Environment Unit :=
      .accepting (fun index => index = 0) (fun _ => .ofVerdict .inspect)
    let headers : List HttpHeaderData :=
      List.replicate 11 { key := [104], value := [49] }
    ¬Every (Send.run env) (CountsExactly env) (.start ⟨7, .inspect, 0⟩)
      [.headers headers .requestHeader false] := by
  intro env headers exactly
  have counted := exactly.1 _ rfl
  revert counted
  decide

/-- A request with one bulk of headers and its end, all accepted. -/
theorem expected_replies_exact_iff_on_request :
    let env : Environment Unit :=
      .accepting (fun _ => true) (fun _ => .ofVerdict .inspect)
    let sends : List Send :=
      [.headers [{ key := [104], value := [49] }] .requestHeader false,
        .endTransaction .requestEnd true]
    Every (Send.run env) (CountsExactly env) (.start ⟨7, .inspect, 0⟩) sends ↔
      Every (Send.run env) (AcceptedOnceOrNever env) (.start ⟨7, .inspect, 0⟩)
        sends := by
  intro env sends
  apply expected_replies_exact_iff env
  · decide
  · rfl

end OpenAppsec.Nano
