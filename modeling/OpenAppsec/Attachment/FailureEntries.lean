import OpenAppsec.Attachment.AsyncSenders
import OpenAppsec.Library.Trace

/-!
# Entries for failed operations

The queue of failed sessions along runs of asynchronous operations on any
sessions, interleaved with pops.
-/

namespace OpenAppsec.Nano

open Trace

/-- An asynchronous operation; a null payload is `none`. -/
inductive AsyncOperation where
  | metadata (metadata : Option HttpMetaData)
  | requestHeaders (headers : Option (List HttpHeaderData))
  | requestBody (bodies : Option (List NanoStr))
  | requestEnd
  | delayedVerdictRequest

inductive AsyncInput where
  | send (session : Nat) (operation : AsyncOperation)
  | pop

/-- The sessions and the queue of failed sessions, with the sessions of the
operations that have failed and the ids that have been popped. -/
structure AsyncState (ω : Type*) where
  sessions : Nat → HttpSessionData
  asyncFailedBucket : SessionIdQueue
  refusedEntries : Nat
  events : List (Event ω)
  failed : List (BitVec 32)
  popped : List (BitVec 32)

section Runs

variable {ω : Type*} (env : Environment ω)

/-- The state of a sender for one of the sessions. -/
def AsyncState.enter (session : Nat) (state : AsyncState ω) :
    SenderState ω :=
  { sessionData := state.sessions session
    res := .ok
    webResponseData := none
    modifications := []
    asyncFailedBucket := state.asyncFailedBucket
    refusedEntries := state.refusedEntries
    events := state.events }

/-- The source of the request is not inspected. -/
def AsyncOperation.Declines : AsyncOperation → Prop
  | .metadata (some data) =>
      isInspectionRequiredForSource env data.clientIp = 0
  | _ => False

instance (operation : AsyncOperation) : Decidable (operation.Declines env) :=
  match operation with
  | .metadata (some _) => inferInstanceAs (Decidable (_ = _))
  | .metadata none | .requestHeaders _ | .requestBody _ | .requestEnd
  | .delayedVerdictRequest => inferInstanceAs (Decidable False)

def AsyncOperation.call (operation : AsyncOperation)
    (state : SenderState ω) :
    Option (NanoCommunicationResult × SenderState ω) :=
  match operation with
  | .metadata data => some (sendMetadataAsyncImpl env data state)
  | .requestHeaders list => some (sendRequestHeadersAsyncImpl env list state)
  | .requestBody bodies => sendRequestBodyAsyncImpl env bodies state
  | .requestEnd => some (sendRequestEndAsyncImpl env state)
  | .delayedVerdictRequest =>
      some (sendDelayedVerdictRequestAsyncImpl env state)

/-- An operation that returns anything but success has failed, unless its
source was declined. -/
def AsyncState.leave (session : Nat) (operation : AsyncOperation)
    (outcome : NanoCommunicationResult × SenderState ω)
    (state : AsyncState ω) : AsyncState ω :=
  { sessions :=
      Function.update state.sessions session outcome.2.sessionData
    asyncFailedBucket := outcome.2.asyncFailedBucket
    refusedEntries := outcome.2.refusedEntries
    events := outcome.2.events
    failed :=
      if outcome.1 ≠ .ok ∧ ¬operation.Declines env then
        state.failed ++ [(state.sessions session).sessionId]
      else state.failed
    popped := state.popped }

/-- One operation or one pop; `none` when an operation does not return. -/
def asyncStep (state : AsyncState ω) : AsyncInput → Option (AsyncState ω)
  | .send session operation =>
      (operation.call env (state.enter session)).map fun outcome =>
        state.leave env session operation outcome
  | .pop =>
      if nanoAsyncFailedSessionIdQueueIsEmpty state.asyncFailedBucket then
        some state
      else
        let (sessionId, bucket) :=
          nanoAsyncFailedSessionIdQueuePop state.asyncFailedBucket
        some { state with
          asyncFailedBucket := bucket
          popped := state.popped ++ [sessionId] }

/-- The ids popped so far, followed by those still in the queue, are the
sessions of the failed operations. -/
def OneEntryPerFailure (state : AsyncState ω) : Prop :=
  state.popped ++ state.asyncFailedBucket.contents = state.failed

/-- The messages of an operation; `none` for a null payload. -/
def AsyncOperation.messages (operation : AsyncOperation)
    (sessionId : BitVec 32) : Option (List Message) :=
  match operation with
  | .metadata data => data.map fun data => [metadataMessage data sessionId]
  | .requestHeaders list =>
      list.map fun list => headerMessages list .requestHeader sessionId
  | .requestBody bodies =>
      bodies.map fun bodies =>
        bodyMessages bodies .requestBody sessionId env.passes 0 0
  | .requestEnd => some [eventMessage .requestEnd sessionId]
  | .delayedVerdictRequest =>
      some [eventMessage .requestDelayedVerdict sessionId]

/-- An operation has a payload, its source is inspected, and the ring queue
accepts all of its messages; what is left to fail is the signal. -/
def FailsAtSignalOnly (state : AsyncState ω) : AsyncInput → Prop
  | .send session operation =>
      ¬operation.Declines env ∧
        ∃ messages,
          operation.messages env (state.sessions session).sessionId =
              some messages ∧
            AllAccepted
              (sendOutcome env .async (state.sessions session).sessionId)
              (state.enter session).messagesSent messages.length
  | .pop => True

/-- The queue of failed sessions with the number of refused entries. -/
def SenderState.entries (state : SenderState ω) : SessionIdQueue × Nat :=
  (state.asyncFailedBucket, state.refusedEntries)

theorem addFailedSession_entries (state : SenderState ω) :
    (state.addFailedSession.asyncFailedBucket.contents =
          state.asyncFailedBucket.contents ++
            [state.sessionData.sessionId] ∧
        state.addFailedSession.refusedEntries = state.refusedEntries) ∨
      state.addFailedSession.refusedEntries = state.refusedEntries + 1 := by
  by_cases room : state.asyncFailedBucket.count < sessionIdQueueSize
  · refine .inl ⟨SessionIdQueue.contents_add _ room, ?_⟩
    rw [SenderState.addFailedSession, nanoAsyncFailedSessionIdQueueAdd,
      dif_neg (Nat.not_le.mpr room)]
    rfl
  · right
    rw [SenderState.addFailedSession, nanoAsyncFailedSessionIdQueueAdd,
      dif_pos (Nat.not_lt.mp room)]
    rfl

theorem addFailedSession_congr {state other : SenderState ω}
    (sameSession :
      state.sessionData.sessionId = other.sessionData.sessionId)
    (sameEntries : state.entries = other.entries) :
    state.addFailedSession.entries = other.addFailedSession.entries := by
  obtain ⟨bucket, refused⟩ := Prod.mk.inj sameEntries
  rw [SenderState.entries, SenderState.entries,
    SenderState.addFailedSession, SenderState.addFailedSession, sameSession,
    bucket, refused]

/-- What an asynchronous sender leaves behind for its messages: nothing in the
queue if all of them are accepted, and an entry otherwise. -/
structure SenderEffect (messages : List Message)
    (before after : SenderState ω) : Prop where
  sameSession : after.sessionData = before.sessionData
  accepted :
    AllAccepted (sendOutcome env .async before.sessionData.sessionId)
        before.messagesSent messages.length →
      after.res = .ok ∧ after.entries = before.entries
  refused :
    ¬AllAccepted (sendOutcome env .async before.sessionData.sessionId)
        before.messagesSent messages.length →
      after.res = .error ∧ after.entries = before.addFailedSession.entries

theorem senderEffect_of_deliver {messages : List Message}
    {state : SenderState ω} {next : SenderState ω → SenderState ω}
    (keeps : ∀ sent : SenderState ω, sent.res = .ok → next sent = sent)
    (fresh : state.res = .ok) :
    SenderEffect env messages state
      (afterwards next (deliver env .async messages state)) := by
  rw [afterwards_deliver_async keeps fresh]
  by_cases accepted :
      AllAccepted (sendOutcome env .async state.sessionData.sessionId)
        state.messagesSent messages.length
  · rw [if_pos accepted]
    exact ⟨rfl, fun _ => ⟨fresh, rfl⟩,
      fun refused => absurd accepted refused⟩
  · rw [if_neg accepted]
    refine ⟨rfl, fun all => absurd all accepted, ?_⟩
    intro _
    exact ⟨rfl, addFailedSession_congr rfl rfl⟩

theorem AsyncOperation.call_effect {operation : AsyncOperation}
    {state : SenderState ω} (inspected : ¬operation.Declines env)
    {messages : List Message}
    (given : operation.messages env state.sessionData.sessionId =
      some messages)
    {outcome : NanoCommunicationResult × SenderState ω}
    (returned : operation.call env state = some outcome) :
    ∃ sent, SenderEffect env messages state.initCtx sent ∧
      outcome = signalAfterSender env sent := by
  cases operation with
  | metadata data =>
      cases data with
      | none => cases given
      | some data =>
          cases given
          cases returned
          refine ⟨_, ?_, rfl⟩
          rw [nanoMetadataSender, transmitMetadata_eq inspected]
          exact senderEffect_of_deliver env (requestVerdict_keeps env) rfl
  | requestHeaders list =>
      cases list with
      | none => cases given
      | some list =>
          cases given
          cases returned
          refine ⟨_, ?_, rfl⟩
          rw [nanoHeaderSender, transmitHeaders_eq]
          exact senderEffect_of_deliver env (requestVerdict_keeps env) rfl
  | requestBody bodies =>
      cases bodies with
      | none => cases given
      | some bodies =>
          cases given
          obtain ⟨sent, body, rfl⟩ := Option.map_eq_some_iff.mp returned
          obtain ⟨sending, transmitted, rfl⟩ :=
            Option.map_eq_some_iff.mp body
          refine ⟨_, ?_, rfl⟩
          rw [← (transmitBody_returned transmitted).1]
          exact senderEffect_of_deliver env (requestVerdictOrOk_keeps env)
            rfl
  | requestEnd =>
      cases given
      cases returned
      refine ⟨_, ?_, rfl⟩
      rw [nanoEndTransactionSender, transmitEvent_async]
      exact senderEffect_of_deliver env (requestVerdictOrOk_keeps env) rfl
  | delayedVerdictRequest =>
      cases given
      cases returned
      refine ⟨_, ?_, rfl⟩
      rw [nanoRequestDelayedVerdict, transmitEvent_async]
      exact senderEffect_of_deliver env (requestVerdictOrOk_keeps env) rfl

theorem signalAfterSender_of_ok {sent : SenderState ω}
    (accepted : sent.res = .ok) :
    ((signalAfterSender env sent).1 = .ok ∧
        (signalAfterSender env sent).2.entries = sent.entries) ∨
      ((signalAfterSender env sent).1 ≠ .ok ∧
        (signalAfterSender env sent).2.entries =
          sent.addFailedSession.entries) := by
  rw [signalAfterSender, if_neg (not_not.mpr accepted)]
  dsimp only
  split
  · rename_i failed
    exact .inr ⟨failed, addFailedSession_congr rfl rfl⟩
  · exact .inl ⟨accepted, rfl⟩

/-- A number of entries for the session is added, unless one is refused. -/
def AddsEntries (count : Nat) (before after : SenderState ω) : Prop :=
  after.refusedEntries = 0 →
    before.refusedEntries = 0 ∧
      after.asyncFailedBucket.contents =
        before.asyncFailedBucket.contents ++
          List.replicate count before.sessionData.sessionId

theorem addsEntries_zero {before after : SenderState ω}
    (same : after.entries = before.entries) :
    AddsEntries 0 before after := by
  intro quiet
  obtain ⟨bucket, refused⟩ := Prod.mk.inj same
  rw [bucket, List.replicate_zero, List.append_nil, ← refused]
  exact ⟨quiet, rfl⟩

theorem AddsEntries.succ {count : Nat} {before sent after : SenderState ω}
    (first : AddsEntries count before sent)
    (sameSession :
      sent.sessionData.sessionId = before.sessionData.sessionId)
    (added : after.entries = sent.addFailedSession.entries) :
    AddsEntries (count + 1) before after := by
  intro quiet
  obtain ⟨bucket, refused⟩ := Prod.mk.inj added
  rcases addFailedSession_entries sent with ⟨contents, kept⟩ | more
  · rw [kept, quiet] at refused
    obtain ⟨start, already⟩ := first refused.symm
    rw [bucket, contents, already, sameSession, List.append_assoc,
      List.replicate_succ']
    exact ⟨start, rfl⟩
  · omega

theorem AsyncOperation.call_entries {operation : AsyncOperation}
    {state : SenderState ω}
    {outcome : NanoCommunicationResult × SenderState ω}
    (returned : operation.call env state = some outcome) :
    let messages := operation.messages env state.sessionData.sessionId
    let accepted (messages : List Message) :=
      AllAccepted (sendOutcome env .async state.sessionData.sessionId)
        state.messagesSent messages.length
    (operation.Declines env ∧ AddsEntries 1 state outcome.2) ∨
      (¬operation.Declines env ∧ messages = none ∧ outcome.1 ≠ .ok ∧
        AddsEntries 0 state outcome.2) ∨
      ∃ given, messages = some given ∧ ¬operation.Declines env ∧
        ((accepted given ∧
            AddsEntries (if outcome.1 = .ok then 0 else 1) state outcome.2) ∨
          (¬accepted given ∧ outcome.1 ≠ .ok ∧
            AddsEntries 2 state outcome.2)) := by
  dsimp only
  by_cases declines : operation.Declines env
  · left
    refine ⟨declines, ?_⟩
    cases operation with
    | metadata data =>
        cases data with
        | none => exact absurd declines id
        | some data =>
            cases returned
            have failed : NanoCommunicationResult.declined ≠ .ok := by decide
            rw [sendMetadataAsyncImpl, nanoMetadataSender_declined declines,
              signalAfterSender_of_failed failed]
            have none : AddsEntries 0 state state.initCtx :=
              addsEntries_zero rfl
            exact none.succ rfl rfl
    | requestHeaders list => exact absurd declines id
    | requestBody bodies => exact absurd declines id
    | requestEnd => exact absurd declines id
    | delayedVerdictRequest => exact absurd declines id
  right
  cases given : operation.messages env state.sessionData.sessionId with
  | none =>
      left
      have null : outcome = (.error, state) := by
        cases operation with
        | metadata data =>
            rw [Option.map_eq_none_iff.mp given] at returned
            cases returned
            rfl
        | requestHeaders list =>
            rw [Option.map_eq_none_iff.mp given] at returned
            cases returned
            rfl
        | requestBody bodies =>
            rw [Option.map_eq_none_iff.mp given] at returned
            cases returned
            rfl
        | requestEnd => cases given
        | delayedVerdictRequest => cases given
      have failed : NanoCommunicationResult.error ≠ .ok := by decide
      rw [null]
      exact ⟨declines, rfl, failed, addsEntries_zero rfl⟩
  | some messages =>
      right
      refine ⟨messages, rfl, declines, ?_⟩
      obtain ⟨sent, effect, rfl⟩ := operation.call_effect env declines given
        returned
      by_cases accepted :
          AllAccepted (sendOutcome env .async state.sessionData.sessionId)
            state.messagesSent messages.length
      · left
        obtain ⟨res, kept⟩ := effect.accepted accepted
        have none : AddsEntries 0 state sent := addsEntries_zero kept
        refine ⟨accepted, ?_⟩
        rcases signalAfterSender_of_ok env res with
          ⟨succeeded, same⟩ | ⟨failed, added⟩
        · rw [if_pos succeeded]
          exact addsEntries_zero (same.trans kept)
        · rw [if_neg failed]
          exact none.succ (congrArg _ effect.sameSession) added
      · right
        obtain ⟨res, added⟩ := effect.refused accepted
        have failed : sent.res ≠ .ok := by
          rw [res]
          decide
        have none : AddsEntries 0 state state.initCtx := addsEntries_zero rfl
        have one : AddsEntries 1 state sent := none.succ rfl added
        rw [signalAfterSender_of_failed failed]
        exact ⟨accepted, failed,
          one.succ (congrArg _ effect.sameSession) rfl⟩

theorem oneEntry_append_iff {popped contents failed : List (BitVec 32)}
    (consistent : popped ++ contents = failed) (count : Nat)
    (sessionId : BitVec 32) (fails : Prop) [Decidable fails] :
    popped ++ (contents ++ List.replicate count sessionId) =
        (if fails then failed ++ [sessionId] else failed) ↔
      count = if fails then 1 else 0 := by
  rw [← List.append_assoc, consistent]
  split
  · rw [List.append_cancel_left_eq]
    constructor
    · intro same
      have length := congrArg List.length same
      rwa [List.length_replicate] at length
    · intro one
      rw [one]
      rfl
  · rw [List.append_right_eq_self, List.replicate_eq_nil_iff]

theorem asyncStep_oneEntry_iff {state next : AsyncState ω}
    {input : AsyncInput} (consistent : OneEntryPerFailure state)
    (returned : asyncStep env state input = some next)
    (quiet : next.refusedEntries = 0) :
    OneEntryPerFailure next ↔ FailsAtSignalOnly env state input := by
  cases input with
  | pop =>
      refine iff_of_true ?_ trivial
      rw [asyncStep] at returned
      split at returned
      · cases returned
        exact consistent
      · rename_i pending
        have filled : state.asyncFailedBucket.contents ≠ [] := by
          intro none
          apply pending
          exact decide_eq_true
            ((SessionIdQueue.contents_eq_nil_iff _).mp none)
        have popped := SessionIdQueue.contents_pop filled
        rw [← Option.some.inj returned]
        change (state.popped ++
            [(nanoAsyncFailedSessionIdQueuePop state.asyncFailedBucket).1]) ++
          (nanoAsyncFailedSessionIdQueuePop
            state.asyncFailedBucket).2.contents = state.failed
        rw [← consistent, popped, List.append_assoc, List.singleton_append]
  | send session operation =>
      obtain ⟨outcome, called, rfl⟩ := Option.map_eq_some_iff.mp returned
      have entries := operation.call_entries env called
      dsimp only at entries
      -- the queue and the failures grow by a number of entries and a failure
      have grows : ∀ count, AddsEntries count (state.enter session) outcome.2 →
          (OneEntryPerFailure (state.leave env session operation outcome) ↔
            count =
              if outcome.1 ≠ .ok ∧ ¬operation.Declines env then 1 else 0) := by
        intro count adds
        obtain ⟨_, contents⟩ := adds quiet
        rw [OneEntryPerFailure, AsyncState.leave, contents]
        exact oneEntry_append_iff consistent count _ _
      rcases entries with ⟨declines, adds⟩ | ⟨inspected, null, failed, adds⟩ |
        ⟨messages, given, inspected, accepted | ⟨refused, failed, adds⟩⟩
      · rw [grows 1 adds, if_neg (fun fails => fails.2 declines)]
        exact iff_of_false Nat.one_ne_zero fun guard => guard.1 declines
      · rw [grows 0 adds, if_pos ⟨failed, inspected⟩]
        refine iff_of_false Nat.zero_ne_one ?_
        rintro ⟨_, messages, given, _⟩
        cases null.symm.trans given
      · obtain ⟨all, adds⟩ := accepted
        rw [grows _ adds]
        refine iff_of_true ?_ ⟨inspected, messages, given, all⟩
        by_cases succeeded : outcome.1 = .ok
        · rw [if_pos succeeded, if_neg (fun fails => fails.1 succeeded)]
        · rw [if_neg succeeded, if_pos ⟨succeeded, inspected⟩]
      · rw [grows 2 adds, if_pos ⟨failed, inspected⟩]
        refine iff_of_false (by decide) ?_
        rintro ⟨_, others, same, all⟩
        cases given.symm.trans same
        exact refused all

theorem asyncStep_refusedEntries {state next : AsyncState ω}
    {input : AsyncInput} (returned : asyncStep env state input = some next)
    (quiet : next.refusedEntries = 0) : state.refusedEntries = 0 := by
  cases input with
  | pop =>
      rw [asyncStep] at returned
      split at returned
      · cases returned
        exact quiet
      · cases returned
        exact quiet
  | send session operation =>
      obtain ⟨outcome, called, rfl⟩ := Option.map_eq_some_iff.mp returned
      rcases operation.call_entries env called with
        ⟨_, adds⟩ | ⟨_, _, _, adds⟩ | ⟨_, _, _, ⟨_, adds⟩ | ⟨_, _, adds⟩⟩
      · exact (adds quiet).1
      · exact (adds quiet).1
      · exact (adds quiet).1
      · exact (adds quiet).1

/-- In a run whose queue never overflows, the ids popped and queued are those
of the failed operations, one for each, in every state precisely when every
operation can fail at its signal only. -/
theorem failed_session_entries_iff {state final : AsyncState ω}
    {inputs : List AsyncInput} (consistent : OneEntryPerFailure state)
    (ran : runPartial (asyncStep env) state inputs = some final)
    (neverOverflows : final.refusedEntries = 0) :
    Every (asyncStep env)
        (fun state input => ∀ next, asyncStep env state input = some next →
          OneEntryPerFailure next)
        state inputs ↔
      Every (asyncStep env) (FailsAtSignalOnly env) state inputs := by
  apply every_kept_iff OneEntryPerFailure
    (fun state => state.refusedEntries = 0) _ _ consistent ran neverOverflows
  · intro state input next returned quiet
    exact asyncStep_refusedEntries env returned quiet
  · intro state input next consistent returned quiet
    exact asyncStep_oneEntry_iff env consistent returned quiet

end Runs

/-- No failures yet, and nothing in the queue. -/
def AsyncState.start {ω : Type*} (sessions : Nat → HttpSessionData) :
    AsyncState ω :=
  { sessions
    asyncFailedBucket := .empty
    refusedEntries := 0
    events := []
    failed := []
    popped := [] }

/-- A request end that the ring queue refuses is popped twice. -/
theorem failed_session_popped_twice :
    let env : Environment Unit :=
      .accepting (fun _ => false) (fun _ => .ofVerdict .inspect)
    let state : AsyncState Unit := .start fun _ => ⟨7, .inspect, 0⟩
    ∃ final,
      runPartial (asyncStep env) state
          [.send 0 .requestEnd, .pop, .pop] = some final ∧
        final.refusedEntries = 0 ∧ final.failed = [7] ∧
          final.popped = [7, 7] := by
  intro env state
  refine ⟨_, rfl, ?_⟩
  decide

/-- Of three operations on two sessions the second fails at its signal. -/
theorem failed_session_entries_iff_on_signal :
    let accepting : Environment Unit :=
      .accepting (fun _ => true) (fun _ => .ofVerdict .inspect)
    let env : Environment Unit :=
      { accepting with
        signal := fun index =>
          { notified := if index = 1 then .error else .ok
            polls := fun _ => .pollTimeout }
        notified := by grind }
    let state : AsyncState Unit :=
      .start fun session => ⟨if session = 0 then 7 else 9, .inspect, 0⟩
    let inputs : List AsyncInput :=
      [.send 0 (.requestHeaders (some [{ key := [104], value := [49] }])),
        .send 1 .requestEnd, .send 0 .requestEnd, .pop]
    ∃ final,
      runPartial (asyncStep env) state inputs = some final ∧
        final.failed = [9] ∧
        Every (asyncStep env)
          (fun state input => ∀ next, asyncStep env state input = some next →
            OneEntryPerFailure next)
          state inputs := by
  intro accepting env state inputs
  have accepts (sessionId : BitVec 32) (index count : Nat) :
      AllAccepted (sendOutcome env .async sessionId) index count :=
    fun offset _ => rfl
  have guarded : Every (asyncStep env) (FailsAtSignalOnly env) state inputs := by
    refine (every_cons_iff rfl _).mpr ⟨⟨id, _, rfl, accepts _ _ _⟩, ?_⟩
    refine (every_cons_iff rfl _).mpr ⟨⟨id, _, rfl, accepts _ _ _⟩, ?_⟩
    refine (every_cons_iff rfl _).mpr ⟨⟨id, _, rfl, accepts _ _ _⟩, ?_⟩
    exact ⟨trivial, fun _ _ => trivial⟩
  obtain ⟨final, ran, outcome⟩ := Option.map_eq_some_iff.mp
    (by decide : (runPartial (asyncStep env) state inputs).map
      (fun final => (final.failed, final.refusedEntries)) = some ([9], 0))
  obtain ⟨failed, quiet⟩ := Prod.mk.inj outcome
  have consistent : OneEntryPerFailure state := rfl
  exact ⟨final, ran, failed,
    (failed_session_entries_iff env consistent ran quiet).mpr guarded⟩

end OpenAppsec.Nano
