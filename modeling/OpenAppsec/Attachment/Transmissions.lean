import OpenAppsec.Attachment.NanoSenders
import OpenAppsec.Library.Bulks

/-!
# Transmissions

Every message sender of the nano attachment hands over a list of messages
until one of them fails.  The list and the attempts determine what the sender
leaves behind.
-/

namespace OpenAppsec.Nano

open Bulks

theorem sendAttempts_result (curSessionId : Nat)
    (usageMode : SignalUsageMode) (res : NanoCommunicationResult)
    (attempts : List Attempt) :
    (sendAttempts curSessionId usageMode res attempts).result = .ok ∨
      (sendAttempts curSessionId usageMode res attempts).result = .error := by
  induction attempts generalizing res with
  | nil => exact .inr rfl
  | cons attempt attempts induction =>
      rw [sendAttempts]
      split
      · exact .inl rfl
      dsimp only
      generalize (if signalForSessionData curSessionId usageMode
        attempt.signal = .error then attempt.restarted
        else signalForSessionData curSessionId usageMode attempt.signal) = res
      split
      · exact .inr rfl
      · apply induction

theorem sendSessionDataToService_result (curSessionId : Nat)
    (usageMode : SignalUsageMode) (attempts : Fin 5 → Attempt) :
    (sendSessionDataToService curSessionId usageMode attempts).result = .ok ∨
      (sendSessionDataToService curSessionId usageMode attempts).result =
        .error := by
  apply sendAttempts_result

section Transmissions

variable {ω : Type*} (env : Environment ω)

variable {state : SenderState ω} {usageMode : SignalUsageMode}
variable {bodies : List NanoStr} {messages : List Message}
variable {outcome : Nat → SendOutcome}

/-- Hand over messages until one of them fails. -/
def sendAll (usageMode : SignalUsageMode) :
    List Message → SenderState ω → Bool × SenderState ω
  | [], state => (true, state)
  | message :: messages, state =>
      let (res, state) := send env usageMode message state
      if res = .ok then sendAll usageMode messages state else (false, state)

/-- A transmission that counts its messages or reports its failure. -/
def deliver (usageMode : SignalUsageMode) (messages : List Message)
    (state : SenderState ω) : Bool × SenderState ω :=
  match sendAll env usageMode messages state with
  | (true, state) =>
      (true, handleCounterNewMessageSent messages.length usageMode state)
  | (false, state) => (false, reportFailure usageMode state)

/-- The outcome for the message with an index. -/
def sendOutcome (usageMode : SignalUsageMode) (sessionId : BitVec 32)
    (index : Nat) : SendOutcome :=
  sendSessionDataToService sessionId.toNat usageMode (env.transport index)

theorem sendOutcome_result (usageMode : SignalUsageMode)
    (sessionId : BitVec 32) (index : Nat) :
    (sendOutcome env usageMode sessionId index).result = .ok ∨
      (sendOutcome env usageMode sessionId index).result = .error := by
  apply sendSessionDataToService_result

variable {env}

theorem send_eq (usageMode : SignalUsageMode) (message : Message)
    (state : SenderState ω) :
    send env usageMode message state =
      ((sendOutcome env usageMode state.sessionData.sessionId
          state.messagesSent).result,
        state.record (.sent message
          (sendOutcome env usageMode state.sessionData.sessionId
            state.messagesSent))) :=
  rfl

theorem send_sessionId (usageMode : SignalUsageMode) (message : Message)
    (state : SenderState ω) :
    (send env usageMode message state).2.sessionData = state.sessionData :=
  rfl

theorem send_error {message : Message}
    (refused : (send env usageMode message state).1 ≠ .ok) :
    (send env usageMode message state).1 = .error := by
  have result := sendOutcome_result env usageMode
    state.sessionData.sessionId state.messagesSent
  exact result.resolve_left refused

theorem sendAll_cons (usageMode : SignalUsageMode) (message : Message)
    (messages : List Message) (state : SenderState ω) :
    sendAll env usageMode (message :: messages) state =
      if (send env usageMode message state).1 = .ok then
        sendAll env usageMode messages (send env usageMode message state).2
      else (false, (send env usageMode message state).2) :=
  rfl

theorem sendAll_singleton (usageMode : SignalUsageMode) (message : Message)
    (state : SenderState ω) :
    sendAll env usageMode [message] state =
      (decide ((send env usageMode message state).1 = .ok),
        (send env usageMode message state).2) := by
  rw [sendAll_cons]
  by_cases accepted : (send env usageMode message state).1 = .ok
  · rw [if_pos accepted, decide_eq_true accepted, sendAll]
  · rw [if_neg accepted, decide_eq_false accepted]

theorem deliver_singleton (usageMode : SignalUsageMode) (message : Message)
    (state : SenderState ω) :
    deliver env usageMode [message] state =
      if (send env usageMode message state).1 = .ok then
        (true, handleCounterNewMessageSent 1 usageMode
          (send env usageMode message state).2)
      else
        (false, reportFailure usageMode
          (send env usageMode message state).2) := by
  rw [deliver, sendAll_singleton]
  by_cases accepted : (send env usageMode message state).1 = .ok
  · rw [if_pos accepted, decide_eq_true accepted]
    rfl
  · rw [if_neg accepted, decide_eq_false accepted]

theorem transmitMetadata_eq {metadata : HttpMetaData}
    (inspected :
      isInspectionRequiredForSource env metadata.clientIp ≠ 0)
    (usageMode : SignalUsageMode) (state : SenderState ω) :
    transmitMetadata env metadata usageMode state =
      deliver env usageMode
        [metadataMessage metadata state.sessionData.sessionId] state := by
  rw [transmitMetadata, if_neg inspected, deliver_singleton]
  dsimp only
  by_cases accepted : (send env usageMode
      (metadataMessage metadata state.sessionData.sessionId) state).1 = .ok
  · rw [if_neg (by rw [accepted]; decide), if_pos accepted, if_pos accepted]
  · rw [if_pos (send_error accepted), if_neg accepted]

/-- A declined source ends the metadata sender at once. -/
theorem nanoMetadataSender_declined {metadata : HttpMetaData}
    (declined : isInspectionRequiredForSource env metadata.clientIp = 0)
    (isVerdictRequested : Bool) (usageMode : SignalUsageMode)
    (state : SenderState ω) :
    nanoMetadataSender env metadata isVerdictRequested usageMode state =
      ((state.setVerdict .irrelevant).setRes .declined).record .declined := by
  rw [nanoMetadataSender, transmitMetadata, if_pos declined]
  rfl

theorem transmitResponseInfo_eq (message : Message)
    (usageMode : SignalUsageMode) (state : SenderState ω) :
    transmitResponseInfo env message usageMode state =
      deliver env usageMode [message] state := by
  rw [transmitResponseInfo, deliver_singleton]
  dsimp only
  rw [ite_not]

/-- Only in asynchronous usage is the failure of an event reported. -/
theorem transmitEvent_eq (eventType : AttachmentDataType)
    (usageMode : SignalUsageMode) (state : SenderState ω) :
    transmitEvent env eventType usageMode state =
      let sent := send env usageMode
        (eventMessage eventType state.sessionData.sessionId) state
      if sent.1 = .ok then
        (true, handleCounterNewMessageSent 1 usageMode sent.2)
      else
        (false,
          if usageMode = .async then reportFailure usageMode sent.2
          else sent.2) := by
  rw [transmitEvent]
  dsimp only
  rw [ite_not]

theorem transmitEvent_async (eventType : AttachmentDataType)
    (state : SenderState ω) :
    transmitEvent env eventType .async state =
      deliver env .async
        [eventMessage eventType state.sessionData.sessionId] state := by
  rw [transmitEvent_eq, deliver_singleton]
  dsimp only
  rw [if_pos rfl]

/-- The messages for bulks, from an index on. -/
def bulkMessages (headerType : AttachmentDataType) (sessionId : BitVec 32) :
    Nat → List (List HttpHeaderData) → List Message
  | _, [] => []
  | bulkIndex, bulk :: bulks =>
      headerBulkMessage headerType bulk (if bulks = [] then 1 else 0)
          (UInt8.ofNat bulkIndex) sessionId ::
        bulkMessages headerType sessionId (bulkIndex + 1) bulks

def headerMessages (headers : List HttpHeaderData)
    (headerType : AttachmentDataType) (sessionId : BitVec 32) :
    List Message :=
  bulkMessages headerType sessionId 0 (bulks maxHeaderBulkSize headers)

@[simp] theorem length_bulkMessages (headerType : AttachmentDataType)
    (sessionId : BitVec 32) (bulkIndex : Nat)
    (bulks : List (List HttpHeaderData)) :
    (bulkMessages headerType sessionId bulkIndex bulks).length =
      bulks.length := by
  induction bulks generalizing bulkIndex with
  | nil => rfl
  | cons bulk bulks induction =>
      rw [bulkMessages, List.length_cons, List.length_cons, induction]

theorem sendHeaders_eq (headerType : AttachmentDataType)
    (usageMode : SignalUsageMode) (headers bulk : List HttpHeaderData)
    (bulkIndex : Nat) (state : SenderState ω)
    (started : headers = [] → bulk = []) :
    sendHeaders env headerType usageMode headers bulk bulkIndex state =
      let messages := bulkMessages headerType state.sessionData.sessionId
        bulkIndex (bulksFrom maxHeaderBulkSize bulk headers)
      match sendAll env usageMode messages state with
      | (true, state) => (some (bulkIndex + messages.length), state)
      | (false, state) => (none, reportFailure usageMode state) := by
  induction headers generalizing bulk bulkIndex state with
  | nil =>
      rw [started rfl]
      rfl
  | cons header headers induction =>
      rw [sendHeaders]
      dsimp only
      by_cases below : (bulk ++ [header]).length < maxHeaderBulkSize ∧
          headers ≠ []
      · rw [if_pos below, bulksFrom_below below.1]
        apply induction
        exact fun none => absurd none below.2
      rw [if_neg below]
      -- the bulk is sent, because it is full or holds the last header
      have split : bulksFrom maxHeaderBulkSize bulk (header :: headers) =
          (bulk ++ [header]) ::
            bulksFrom maxHeaderBulkSize [] headers := by
        by_cases full : (bulk ++ [header]).length < maxHeaderBulkSize
        · have last : headers = [] := by
            by_contra more
            exact below ⟨full, more⟩
          rw [bulksFrom_below full, last, bulksFrom, bulksFrom, if_pos rfl,
            if_neg (List.append_ne_nil_of_right_ne_nil _
              (List.cons_ne_nil _ _))]
        · rw [bulksFrom_full full]
      have final : headers = [] ↔
          bulksFrom maxHeaderBulkSize [] headers = [] :=
        bulks_eq_nil_iff.symm
      rw [split, bulkMessages, sendAll_cons]
      simp only [← final]
      by_cases accepted : (send env usageMode
          (headerBulkMessage headerType (bulk ++ [header])
            (if headers = [] then 1 else 0) (UInt8.ofNat bulkIndex)
            state.sessionData.sessionId) state).1 = .ok
      · rw [if_neg (not_not.mpr accepted), if_pos accepted,
          induction _ _ _ (fun _ => rfl), send_sessionId, List.length_cons]
        simp only [Nat.add_assoc, Nat.add_comm 1]
      · rw [if_pos accepted, if_neg accepted]

theorem transmitHeaders_eq (headers : List HttpHeaderData)
    (headerType : AttachmentDataType) (usageMode : SignalUsageMode)
    (state : SenderState ω) :
    transmitHeaders env headers headerType usageMode state =
      deliver env usageMode
        (headerMessages headers headerType state.sessionData.sessionId)
        state := by
  rw [transmitHeaders, sendHeaders_eq _ _ _ _ _ _ (fun _ => rfl), deliver]
  dsimp only
  rw [← bulks, ← headerMessages]
  rcases sendAll env usageMode
      (headerMessages headers headerType state.sessionData.sessionId) state
    with ⟨_ | _, sent⟩
  · rfl
  · dsimp only
    rw [Nat.zero_add]

/-- The chunks that the body loop hands over in a number of passes. -/
def bodyMessages (bodies : List NanoStr) (bodyType : AttachmentDataType)
    (sessionId : BitVec 32) : Nat → UInt8 → UInt8 → List Message
  | 0, _, _ => []
  | passes + 1, bodyIndex, isFinalChunk =>
      match bodies[bodyIndex.toNat]? with
      | none => []
      | some body =>
          let isFinalChunk :=
            if bodyIndex.toNat = bodies.length - 1 then 1 else isFinalChunk
          bodyChunkMessage bodyType body isFinalChunk bodyIndex sessionId ::
            bodyMessages bodies bodyType sessionId passes (bodyIndex + 1)
              isFinalChunk

theorem toNat_add_one {index : UInt8} (small : index.toNat < 255) :
    (index + 1).toNat = index.toNat + 1 := by
  rw [UInt8.toNat_add]
  exact Nat.mod_eq_of_lt (Nat.succ_lt_succ small)

/-- A body loop that has returned handed over its chunks until one failed, or
all of them when there are fewer than 256. -/
theorem sendBodies_returned {bodyType : AttachmentDataType} {passes : Nat}
    {bodyIndex isFinalChunk : UInt8} {final : SenderState ω}
    {stopped : Option UInt8} (begun : bodyIndex.toNat ≤ bodies.length)
    (returned : sendBodies env bodies bodyType usageMode passes bodyIndex
      isFinalChunk state = some (stopped, final)) :
    let messages := bodyMessages bodies bodyType state.sessionData.sessionId
      passes bodyIndex isFinalChunk
    match stopped with
    | none =>
        ∃ sent, sendAll env usageMode messages state = (false, sent) ∧
          final = reportFailure usageMode sent
    | some stopIndex =>
        sendAll env usageMode messages state = (true, final) ∧
          stopIndex.toNat = bodyIndex.toNat + messages.length ∧
          stopIndex.toNat = bodies.length := by
  induction passes generalizing bodyIndex isFinalChunk state with
  | zero => cases returned
  | succ passes induction =>
      rw [sendBodies] at returned
      rw [bodyMessages]
      cases chunk : bodies[bodyIndex.toNat]? with
      | none =>
          rw [chunk] at returned
          cases returned
          have ended := List.getElem?_eq_none_iff.mp chunk
          exact ⟨rfl, rfl, Nat.le_antisymm begun ended⟩
      | some body =>
          rw [chunk] at returned
          dsimp only at returned ⊢
          generalize (if bodyIndex.toNat = bodies.length - 1 then 1
            else isFinalChunk) = isFinalChunk at returned ⊢
          rw [sendAll_cons]
          by_cases accepted : (send env usageMode
              (bodyChunkMessage bodyType body isFinalChunk bodyIndex
                state.sessionData.sessionId) state).1 = .ok
          · rw [if_pos accepted]
            rw [if_neg (not_not.mpr accepted)] at returned
            have inside := (List.getElem?_eq_some_iff.mp chunk).1
            have next : (bodyIndex + 1).toNat ≤ bodies.length := by
              rw [UInt8.toNat_add]
              exact Nat.le_trans (Nat.mod_le _ _) inside
            have rest := induction next returned
            rw [send_sessionId] at rest
            cases stopped with
            | none => exact rest
            | some stopIndex =>
                obtain ⟨sent, counted, ended⟩ := rest
                refine ⟨sent, ?_, ended⟩
                have bounded := UInt8.toNat_lt stopIndex
                rw [counted, toNat_add_one (by omega), List.length_cons]
                omega
          · rw [if_neg accepted]
            rw [if_pos accepted] at returned
            cases returned
            exact ⟨_, rfl, rfl⟩

theorem sendBodies_returns (short : bodies.length ≤ 255)
    (bodyType : AttachmentDataType) (usageMode : SignalUsageMode) {passes : Nat}
    {bodyIndex : UInt8} (isFinalChunk : UInt8) (state : SenderState ω)
    (begun : bodyIndex.toNat ≤ bodies.length)
    (enough : bodies.length < bodyIndex.toNat + passes) :
    ∃ outcome, sendBodies env bodies bodyType usageMode passes bodyIndex
      isFinalChunk state = some outcome := by
  induction passes generalizing bodyIndex isFinalChunk state with
  | zero => exact absurd enough (Nat.not_lt.mpr begun)
  | succ passes induction =>
      rw [sendBodies]
      cases chunk : bodies[bodyIndex.toNat]? with
      | none => exact ⟨_, rfl⟩
      | some body =>
          dsimp only
          generalize (if bodyIndex.toNat = bodies.length - 1 then 1
            else isFinalChunk) = isFinalChunk
          split
          · exact ⟨_, rfl⟩
          · have inside := (List.getElem?_eq_some_iff.mp chunk).1
            have next : (bodyIndex + 1).toNat = bodyIndex.toNat + 1 := by
              apply toNat_add_one
              omega
            apply induction
            · omega
            · omega

/-- A body sender that has returned is a transmission of its chunks; it comes
to the wait for replies with fewer than 256 chunks only. -/
theorem transmitBody_returned {bodyType : AttachmentDataType}
    {outcome : Bool × SenderState ω}
    (returned : transmitBody env bodies bodyType usageMode state =
      some outcome) :
    let messages := bodyMessages bodies bodyType state.sessionData.sessionId
      env.passes 0 0
    deliver env usageMode messages state = outcome ∧
      (outcome.1 = true →
        messages.length = bodies.length ∧ bodies.length ≤ 255) := by
  rw [transmitBody] at returned
  dsimp only
  rw [deliver]
  cases loop : sendBodies env bodies bodyType usageMode env.passes 0 0
      state with
  | none =>
      rw [loop] at returned
      cases returned
  | some left =>
      obtain ⟨stopped, final⟩ := left
      have chunks := sendBodies_returned (Nat.zero_le _) loop
      rw [loop] at returned
      cases stopped with
      | none =>
          cases returned
          obtain ⟨sent, refused, reported⟩ := chunks
          rw [refused, reported]
          exact ⟨rfl, fun sent => absurd sent Bool.false_ne_true⟩
      | some stopIndex =>
          cases returned
          obtain ⟨sent, counted, ended⟩ := chunks
          rw [UInt8.toNat_zero, Nat.zero_add] at counted
          rw [sent, counted]
          have bounded := UInt8.toNat_lt stopIndex
          exact ⟨rfl, fun _ => ⟨by omega, by omega⟩⟩

theorem transmitBody_returns (short : bodies.length ≤ 255)
    (enough : bodies.length < env.passes) (bodyType : AttachmentDataType)
    (usageMode : SignalUsageMode) (state : SenderState ω) :
    ∃ outcome, transmitBody env bodies bodyType usageMode state =
      some outcome := by
  have started : bodies.length < (0 : UInt8).toNat + env.passes := by
    rwa [UInt8.toNat_zero, Nat.zero_add]
  obtain ⟨⟨stopped, final⟩, loop⟩ := sendBodies_returns short bodyType
    usageMode 0 state (Nat.zero_le _) started
  rw [transmitBody, loop]
  cases stopped with
  | none => exact ⟨_, rfl⟩
  | some stopIndex => exact ⟨_, rfl⟩

/-- What has happened when messages have been handed over, the first of them
with an index. -/
def sentEvents (outcome : Nat → SendOutcome) :
    Nat → List Message → List (Event ω)
  | _, [] => []
  | index, message :: messages =>
      .sent message (outcome index) ::
        if (outcome index).result = .ok then
          sentEvents outcome (index + 1) messages
        else []

theorem eventsSince_eq {before after : SenderState ω}
    {events : List (Event ω)} (added : after.events = before.events ++ events) :
    before.eventsSince after = events := by
  rw [SenderState.eventsSince, added, List.drop_left]

/-- All messages from an index on are accepted. -/
def AllAccepted (outcome : Nat → SendOutcome) (index count : Nat) : Prop :=
  ∀ offset, offset < count → (outcome (index + offset)).result = .ok

instance (outcome : Nat → SendOutcome) (index count : Nat) :
    Decidable (AllAccepted outcome index count) :=
  inferInstanceAs (Decidable (∀ offset, offset < count → _))

theorem allAccepted_succ_iff {index count : Nat} :
    AllAccepted outcome index (count + 1) ↔
      (outcome index).result = .ok ∧ AllAccepted outcome (index + 1) count := by
  constructor
  · intro all
    refine ⟨all 0 (Nat.zero_lt_succ _), ?_⟩
    intro offset inside
    rw [Nat.add_right_comm, Nat.add_assoc]
    exact all (offset + 1) (Nat.succ_lt_succ inside)
  · rintro ⟨first, rest⟩ offset inside
    cases offset with
    | zero => exact first
    | succ offset =>
        have later := rest offset (Nat.lt_of_succ_lt_succ inside)
        rwa [Nat.add_right_comm, Nat.add_assoc] at later

theorem messagesSent_record (message : Message) (outcome : SendOutcome)
    (state : SenderState ω) :
    (state.record (.sent message outcome)).messagesSent =
      state.messagesSent + 1 := by
  rw [SenderState.messagesSent, SenderState.record, List.countP_append]
  rfl

theorem sendAll_eq (usageMode : SignalUsageMode) (messages : List Message)
    (state : SenderState ω) :
    let outcome := sendOutcome env usageMode state.sessionData.sessionId
    sendAll env usageMode messages state =
      (decide (AllAccepted outcome state.messagesSent messages.length),
        { state with
          events := state.events ++
            sentEvents outcome state.messagesSent messages }) := by
  induction messages generalizing state with
  | nil =>
      have none : AllAccepted (sendOutcome env usageMode
          state.sessionData.sessionId) state.messagesSent 0 :=
        fun offset inside => absurd inside (Nat.not_lt_zero offset)
      simp only [sendAll, List.length_nil, decide_eq_true none, sentEvents,
        List.append_nil]
  | cons message messages induction =>
      dsimp only
      rw [sendAll_cons, send_eq]
      dsimp only
      simp only [List.length_cons, allAccepted_succ_iff, sentEvents]
      by_cases accepted : (sendOutcome env usageMode
          state.sessionData.sessionId state.messagesSent).result = .ok
      · rw [if_pos accepted, induction, messagesSent_record]
        simp only [accepted, SenderState.record, true_and, if_true,
          List.append_assoc, List.singleton_append]
        congr
      · rw [if_neg accepted]
        simp only [accepted, SenderState.record, false_and, if_false,
          decide_false]

theorem sentEvents_singleton (outcome : Nat → SendOutcome) (index : Nat)
    (message : Message) :
    (sentEvents outcome index [message] : List (Event ω)) =
      [.sent message (outcome index)] := by
  rw [sentEvents, sentEvents, ite_self]

@[simp] theorem events_reportFailure (usageMode : SignalUsageMode)
    (state : SenderState ω) :
    (reportFailure usageMode state).events = state.events := by
  cases usageMode with
  | sync => rfl
  | async => rfl

@[simp] theorem events_handleCounterNewMessageSent (amount : Nat)
    (usageMode : SignalUsageMode) (state : SenderState ω) :
    (handleCounterNewMessageSent amount usageMode state).events =
      state.events := by
  cases usageMode with
  | sync => rfl
  | async => rfl

variable (env) in
theorem deliver_events (usageMode : SignalUsageMode)
    (messages : List Message) (state : SenderState ω) :
    (deliver env usageMode messages state).2.events =
      state.events ++
        sentEvents (sendOutcome env usageMode state.sessionData.sessionId)
          state.messagesSent messages := by
  have sent : (deliver env usageMode messages state).2.events =
      (sendAll env usageMode messages state).2.events := by
    rw [deliver]
    rcases sendAll env usageMode messages state with ⟨_ | _, after⟩
    · exact events_reportFailure usageMode after
    · exact events_handleCounterNewMessageSent _ usageMode after
  rw [sent, sendAll_eq]

theorem deliver_accepted_iff :
    (deliver env usageMode messages state).1 = true ↔
      AllAccepted (sendOutcome env usageMode state.sessionData.sessionId)
        state.messagesSent messages.length := by
  have sent : (deliver env usageMode messages state).1 =
      (sendAll env usageMode messages state).1 := by
    rw [deliver]
    rcases sendAll env usageMode messages state with ⟨_ | _, after⟩
    · rfl
    · rfl
  rw [sent, sendAll_eq, decide_eq_true_eq]

theorem messages_requestVerdict (isVerdictRequested : Bool)
    (state : SenderState ω) :
    (requestVerdict env isVerdictRequested state).messages =
      state.messages := by
  cases isVerdictRequested with
  | false => rfl
  | true =>
      change ((state.events ++ [Event.replied _]).filterMap
        Event.message?) = state.messages
      rw [List.filterMap_append]
      exact List.append_nil _

/-- Without a request for a verdict, a successful context is kept. -/
theorem requestVerdict_keeps (env : Environment ω) (sent : SenderState ω)
    (_ : sent.res = .ok) : requestVerdict env false sent = sent :=
  rfl

theorem requestVerdictOrOk_keeps (env : Environment ω) (sent : SenderState ω)
    (succeeded : sent.res = .ok) : requestVerdictOrOk env false sent = sent := by
  rw [requestVerdictOrOk, if_neg Bool.false_ne_true, SenderState.setRes,
    ← succeeded]

/-- An asynchronous transmission leaves an entry for its session when it
fails. -/
theorem afterwards_deliver_async {next : SenderState ω → SenderState ω}
    (keeps : ∀ sent : SenderState ω, sent.res = .ok → next sent = sent)
    (fresh : state.res = .ok) :
    let outcome := sendOutcome env .async state.sessionData.sessionId
    let sent := { state with
      events := state.events ++
        sentEvents outcome state.messagesSent messages }
    afterwards next (deliver env .async messages state) =
      if AllAccepted outcome state.messagesSent messages.length then sent
      else (sent.setRes .error).addFailedSession := by
  dsimp only
  rw [deliver, sendAll_eq]
  by_cases accepted :
      AllAccepted (sendOutcome env .async state.sessionData.sessionId)
        state.messagesSent messages.length
  · rw [if_pos accepted, decide_eq_true accepted]
    exact keeps _ fresh
  · rw [if_neg accepted, decide_eq_false accepted]
    rfl

theorem countP_isSent_sentEvents {index : Nat}
    (accepted : AllAccepted outcome index messages.length) :
    (sentEvents outcome index messages : List (Event ω)).countP
      Event.isSent = messages.length := by
  induction messages generalizing index with
  | nil => rfl
  | cons message messages induction =>
      obtain ⟨first, rest⟩ := allAccepted_succ_iff.mp accepted
      rw [sentEvents, if_pos first, List.countP_cons_of_pos rfl,
        induction rest, List.length_cons]

/-- Handing over messages is neither a wait nor a signal. -/
theorem countP_sentEvents_eq_zero {kind : Event ω → Bool}
    (other : ∀ message outcome, kind (.sent message outcome) = false)
    (outcome : Nat → SendOutcome) (index : Nat) (messages : List Message) :
    (sentEvents outcome index messages).countP kind = 0 := by
  induction messages generalizing index with
  | nil => rfl
  | cons message messages induction =>
      have skipped : ¬kind (.sent message (outcome index)) = true := by
        rw [other]
        decide
      rw [sentEvents, List.countP_cons_of_neg skipped]
      split
      · apply induction
      · rfl

theorem messagesSent_of_accepted {before after : SenderState ω}
    (accepted : AllAccepted outcome before.messagesSent messages.length)
    {rest : List (Event ω)} (silent : rest.countP Event.isSent = 0)
    (events : after.events = before.events ++
      (sentEvents outcome before.messagesSent messages ++ rest)) :
    after.messagesSent = before.messagesSent + messages.length := by
  rw [SenderState.messagesSent, events, List.countP_append,
    List.countP_append, countP_isSent_sentEvents accepted, silent,
    Nat.add_zero]
  rfl

variable (env) in
/-- A synchronous transmission changes the result only when it fails. -/
theorem deliver_sync (messages : List Message) (state : SenderState ω) :
    let accepted := AllAccepted
      (sendOutcome env .sync state.sessionData.sessionId) state.messagesSent
      messages.length
    (deliver env .sync messages state).2.res =
        (if accepted then state.res else .error) ∧
      (deliver env .sync messages state).2.sessionData.verdict =
        state.sessionData.verdict ∧
      (deliver env .sync messages state).2.sessionData.sessionId =
        state.sessionData.sessionId := by
  dsimp only
  rw [deliver, sendAll_eq]
  by_cases accepted :
      AllAccepted (sendOutcome env .sync state.sessionData.sessionId)
        state.messagesSent messages.length
  · rw [if_pos accepted, decide_eq_true accepted]
    exact ⟨rfl, rfl, rfl⟩
  · rw [if_neg accepted, decide_eq_false accepted]
    exact ⟨rfl, rfl, rfl⟩

theorem afterwards_requestVerdict_false (outcome : Bool × SenderState ω) :
    afterwards (requestVerdict env false) outcome = outcome.2 := by
  rcases outcome with ⟨_ | _, after⟩
  · rfl
  · rfl

variable (env) in
theorem messages_afterwards (isVerdictRequested : Bool)
    (outcome : Bool × SenderState ω) :
    (afterwards (requestVerdict env isVerdictRequested) outcome).messages =
      outcome.2.messages := by
  rcases outcome with ⟨_ | _, after⟩
  · rfl
  · exact messages_requestVerdict isVerdictRequested after

end Transmissions

end OpenAppsec.Nano
