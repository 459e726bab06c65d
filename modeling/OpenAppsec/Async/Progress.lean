import OpenAppsec.Async.FailClose
import OpenAppsec.Async.ReliableSenders

/-!
# Progress of a session

Between its steps a session rests in a stage that a reply, an event or the
client continues, and every reply that it waits for belongs to a message
without one.
-/

namespace OpenAppsec.Async

open Nginx (NgxBuf HeaderLoop sendHeaderBulk sendPart sendParts)
open Trace

variable {answered : Nat} {flow before after : Flow}

/-- A sender takes no message back, and it counts at most what it has put into
the ring queue. -/
structure Flow.Hands (before : Flow) (sent : NgxRc × Nat × Flow) : Prop where
  grows : before.enqueued.length ≤ sent.2.2.enqueued.length
  counted : sent.1 = .ok →
    before.enqueued.length + sent.2.1 ≤ sent.2.2.enqueued.length

section Bulks

variable (transport : Nat → Nginx.SendOutcome)
  (headerType : AttachmentDataType) (curRequestId : BitVec 32)

variable {loop : HeaderLoop}

/-- The loop has counted the bulks that reached the ring queue. -/
def HeaderLoop.Counted (loop : HeaderLoop) : Prop :=
  (HeaderLoop.delivered loop).length = loop.numOfBulksSent

theorem sendHeaderBulk_counted (before : HeaderLoop.Counted loop)
    (bulk : List HttpHeaderData) (isLastPart bulkPartIndex : UInt8) :
    let after := sendHeaderBulk transport headerType bulk isLastPart
      bulkPartIndex curRequestId loop
    HeaderLoop.Counted after.2 ∧
      loop.numOfBulksSent ≤ after.2.numOfBulksSent ∧
      (after.1 = .ok → 0 < after.2.numOfBulksSent) := by
  dsimp only
  rw [sendHeaderBulk]
  dsimp only
  split
  · rename_i failed
    refine ⟨?_, Nat.le_refl _, by simp⟩
    rw [HeaderLoop.Counted, ← before, HeaderLoop.delivered,
      HeaderLoop.delivered]
    simp [failed]
  · rename_i accepted
    refine ⟨?_, Nat.le_succ _, fun _ => Nat.succ_pos _⟩
    dsimp only [HeaderLoop.Counted]
    rw [← before, HeaderLoop.delivered, HeaderLoop.delivered]
    simp [not_not.mp accepted]

/-- A bulk is sent at the latest with the last header. -/
theorem sendPart_counted (noNext : Bool) (headers : List HttpHeaderData)
    (before : HeaderLoop.Counted loop) :
    let after :=
      sendPart transport headerType curRequestId noNext headers loop
    HeaderLoop.Counted after.2 ∧
      loop.numOfBulksSent ≤ after.2.numOfBulksSent ∧
      (after.1 = .ok → noNext = true → headers ≠ [] →
        0 < after.2.numOfBulksSent) := by
  induction headers generalizing loop with
  | nil => exact ⟨before, Nat.le_refl _, fun _ _ filled => (filled rfl).elim⟩
  | cons header headers induction =>
      rw [sendPart]
      dsimp only
      have added : HeaderLoop.Counted
          { loop with
            bulk := loop.bulk ++ [header]
            partCount := loop.partCount + 1 } := before
      split
      · rename_i collects
        obtain ⟨counted, grows, sends⟩ := induction added
        refine ⟨counted, grows, ?_⟩
        intro returned isLast _
        apply sends returned isLast
        rintro rfl
        simp [isLast] at collects
      · generalize (if (noNext && headers.isEmpty) = true then (1 : UInt8)
          else 0) = isLastPart
        have bulkSent := sendHeaderBulk_counted transport headerType
          curRequestId added (loop.bulk ++ [header]) isLastPart
          loop.bulkPartIdx
        dsimp only at bulkSent
        generalize sendHeaderBulk transport headerType (loop.bulk ++ [header])
          isLastPart loop.bulkPartIdx curRequestId
          { loop with
            bulk := loop.bulk ++ [header]
            partCount := loop.partCount + 1 } = sent at bulkSent ⊢
        obtain ⟨res, next⟩ := sent
        obtain ⟨counted, grows, sends⟩ := bulkSent
        dsimp only at counted grows sends ⊢
        split
        · exact ⟨counted, grows, by simp⟩
        · rename_i accepted
          have sent := sends (not_not.mp accepted)
          split
          · exact ⟨counted, grows, fun _ _ _ => sent⟩
          · have restarted : HeaderLoop.Counted
                { next with bulk := [], bulkPartIdx := next.partCount } :=
              counted
            obtain ⟨later, more, _⟩ := induction restarted
            refine ⟨later, Nat.le_trans grows more, ?_⟩
            intro _ _ _
            exact Nat.lt_of_lt_of_le sent more

theorem sendParts_counted (parts : List (List HttpHeaderData))
    (before : HeaderLoop.Counted loop) :
    let after := sendParts transport headerType curRequestId parts loop
    HeaderLoop.Counted after.2 ∧
      loop.numOfBulksSent ≤ after.2.numOfBulksSent ∧
      (after.1 = .ok → Nginx.LastPartFilled parts →
        0 < after.2.numOfBulksSent) := by
  induction parts generalizing loop with
  | nil => exact ⟨before, Nat.le_refl _, fun _ filled => (filled rfl).elim⟩
  | cons part parts induction =>
      obtain ⟨counted, grows, sends⟩ := sendPart_counted transport headerType
        curRequestId parts.isEmpty part before
      rw [sendParts]
      dsimp only at counted grows sends ⊢
      split
      · exact ⟨counted, grows, by simp⟩
      · rename_i accepted
        obtain ⟨later, more, rest⟩ := induction counted
        refine ⟨later, Nat.le_trans grows more, ?_⟩
        intro returned filled
        cases parts with
        | nil =>
            exact Nat.lt_of_lt_of_le
              (sends (not_not.mp accepted) rfl filled) more
        | cons second parts =>
            exact rest returned
              ((Nginx.lastPartFilled_cons (List.cons_ne_nil _ _)).mp filled)

theorem sendParts_partCount (parts : List (List HttpHeaderData))
    (loop : HeaderLoop) (empty : parts.flatten = []) :
    (sendParts transport headerType curRequestId parts loop).2.partCount =
      loop.partCount := by
  induction parts generalizing loop with
  | nil => rfl
  | cons part parts induction =>
      obtain ⟨none, rest⟩ := List.append_eq_nil_iff.mp empty
      rw [sendParts, none, sendPart]
      exact induction _ rest

end Bulks

section Senders

variable (settings : Settings) (env : Environment) (request : Request)

theorem sendMessage_hands (message : Message) (flow : Flow) :
    flow.Hands (sendMessage env message flow) ∧
      ((sendMessage env message flow).1 = .ok →
        (sendMessage env message flow).2.1 = 1) := by
  rw [sendMessage]
  dsimp only [sendChunkedData, signalToService, Flow.countCall]
  cases sent : env.chunkSent flow.calls with
  | false => exact ⟨⟨Nat.le_refl _, by simp⟩, by simp⟩
  | true =>
      simp only [Bool.true_eq_false, if_false, if_true]
      have more : flow.enqueued.length + 1 =
          (flow.enqueued ++ [message]).length := by simp
      split
      · exact ⟨⟨more ▸ Nat.le_succ _, by simp⟩, by simp⟩
      · exact ⟨⟨more ▸ Nat.le_succ _, fun _ => Nat.le_of_eq more⟩, fun _ => rfl⟩

theorem sendMessage_ne_irrelevant (message : Message) (flow : Flow) :
    (sendMessage env message flow).1 ≠ .inspectionIrrelevant := by
  rw [sendMessage]
  dsimp only
  repeat' split
  all_goals simp

theorem waitSignalSender_grows (flow : Flow) :
    flow.enqueued.length ≤
      (waitSignalSender env request flow).2.2.enqueued.length := by
  rw [waitSignalSender]
  dsimp only [sendChunkedData, signalToService, Flow.countCall]
  cases sent : env.chunkSent flow.calls with
  | false => exact Nat.le_refl _
  | true =>
      simp only [Bool.true_eq_false, if_false, if_true]
      split <;> simp

theorem sendMetaDataNonblocking_hands (flow : Flow) :
    flow.Hands (sendMetaDataNonblocking env request settings flow) ∧
      ((sendMetaDataNonblocking env request settings flow).1 = .ok →
        (sendMetaDataNonblocking env request settings flow).2.1 = 1) := by
  rw [sendMetaDataNonblocking]
  split
  · exact ⟨⟨Nat.le_refl _, by simp⟩, by simp⟩
  · apply sendMessage_hands

theorem sendEndTransactionNonblocking_hands (flow : Flow) :
    flow.Hands (sendEndTransactionNonblocking env request flow) ∧
      ((sendEndTransactionNonblocking env request flow).1 = .ok →
        (sendEndTransactionNonblocking env request flow).2.1 = 1) := by
  have sent := sendMessage_hands env (endTransactionMessage request) flow
  rw [sendEndTransactionNonblocking]
  dsimp only
  split
  · exact sent
  · exact ⟨⟨sent.1.grows, sent.1.counted⟩, sent.2⟩

theorem sendSingleBodyChunkNonblocking_hands (buf : NgxBuf) (flow : Flow) :
    flow.Hands (sendSingleBodyChunkNonblocking env request buf flow) := by
  rw [sendSingleBodyChunkNonblocking]
  split
  · exact (sendMessage_hands env _ flow).1
  · exact ⟨Nat.le_refl _, fun _ => Nat.le_refl _⟩

/-- The ring queue takes a message at this call, and the signal after it does
not fail. -/
def Environment.Accepts (env : Environment) (call : Nat) : Prop :=
  env.chunkSent call = true ∧ env.signalled (call + 1) ≠ .error

instance (call : Nat) : Decidable (env.Accepts call) :=
  inferInstanceAs (Decidable (_ ∧ _))

theorem sendMessage_of_accepts (accepts : env.Accepts flow.calls)
    (message : Message) :
    (sendMessage env message flow).1 = .ok := by
  rw [sendMessage]
  dsimp only [sendChunkedData, signalToService, Flow.countCall]
  simp [accepts.1, accepts.2]

theorem sendEndTransactionNonblocking_of_accepts
    (accepts : env.Accepts flow.calls) :
    (sendEndTransactionNonblocking env request flow).1 = .ok := by
  have sent := sendMessage_of_accepts env accepts
    (endTransactionMessage request)
  rw [sendEndTransactionNonblocking]
  dsimp only
  rw [if_neg (not_not.mpr sent)]
  exact sent

theorem sendHeadersNonblocking_result {other : Flow}
    (same : other.calls = flow.calls) :
    (sendHeadersNonblocking env request other).1 =
      (sendHeadersNonblocking env request flow).1 := by
  rw [sendHeadersNonblocking, sendHeadersNonblocking, same]
  dsimp only [sendChunkedData, signalToService, Flow.countCall]
  repeat' split
  all_goals rfl

/-- The list is empty, or its last part has elements. -/
def Request.FillsHeaders (request : Request) : Prop :=
  request.headers.flatten = [] ∨ Nginx.LastPartFilled request.headers

instance (request : Request) : Decidable request.FillsHeaders :=
  inferInstanceAs (Decidable (_ ∨ _))

theorem sendHeadersNonblocking_hands (flow : Flow) :
    flow.Hands (sendHeadersNonblocking env request flow) ∧
      (request.FillsHeaders →
        (sendHeadersNonblocking env request flow).1 = .ok →
          0 < (sendHeadersNonblocking env request flow).2.1) := by
  rw [sendHeadersNonblocking]
  generalize transportIs : (fun index =>
    bulkOutcome (env.chunkSent (flow.calls + index))) = transport
  have started : HeaderLoop.Counted HeaderLoop.start := rfl
  have bulks := sendParts_counted transport .requestHeader request.sessionId
    request.headers started
  have uncounted := sendParts_partCount transport .requestHeader
    request.sessionId request.headers .start
  dsimp only at bulks
  generalize sendParts transport .requestHeader request.sessionId
    request.headers .start = sent at bulks uncounted ⊢
  obtain ⟨res, loop⟩ := sent
  obtain ⟨counted, _, sends⟩ := bulks
  dsimp only [sendChunkedData, signalToService, Flow.countCall,
    HeaderLoop.Counted] at counted sends uncounted ⊢
  have delivered : flow.enqueued.length + loop.numOfBulksSent =
      (flow.enqueued ++ HeaderLoop.delivered loop).length := by
    rw [List.length_append, counted]
  generalize flow.enqueued ++ HeaderLoop.delivered loop = enqueued
    at delivered ⊢
  have grows : flow.enqueued.length ≤ enqueued.length :=
    Nat.le.intro delivered
  split
  · exact ⟨⟨grows, by simp⟩, by simp⟩
  · rename_i accepted
    split
    · cases env.chunkSent (flow.calls + loop.sent.length) with
      | false => exact ⟨⟨grows, by simp⟩, by simp⟩
      | true =>
          simp only [Bool.true_eq_false, if_false, if_true]
          have more : enqueued.length + 1 =
              (enqueued ++ [emptyHeaderListMessage env request]).length := by
            simp
          split
          · exact ⟨⟨more ▸ Nat.le_succ_of_le grows, by simp⟩, by simp⟩
          · refine ⟨⟨more ▸ Nat.le_succ_of_le grows, fun _ => ?_⟩, ?_⟩
            · rw [← more]
              exact Nat.succ_le_succ grows
            · exact fun _ _ => Nat.zero_lt_one
    · rename_i counts
      split
      · exact ⟨⟨grows, by simp⟩, by simp⟩
      · refine ⟨⟨grows, fun _ => Nat.le_of_eq delivered⟩, ?_⟩
        rintro (empty | filled) _
        · exact (counts (uncounted empty)).elim
        · exact sends (not_not.mp accepted) filled

end Senders

/-- The stages before the body and before the end of the transaction. -/
def Stage.Opens (stage : Stage) : Prop :=
  stage = .metaData ∨ stage = .headers ∨ stage = .waitHeaderVerdict

instance (stage : Stage) : Decidable stage.Opens :=
  inferInstanceAs (Decidable (_ ∨ _))

/-- The table holds the context, and no failure has marked it.  Every reply
that the session waits for belongs to a message without one. -/
structure Flow.Live (answered : Nat) (flow : Flow) : Prop where
  registered : flow.ctx.registered = true
  noError : flow.ctx.flowError = false
  isSet : flow.session.isSet = true
  isInitialized : flow.isInitialized = true
  covered : flow.session.remainingMessagesToReply + answered ≤
    flow.enqueued.length
  bodyCovered : flow.ctx.reqSeq + answered ≤ flow.enqueued.length
  unread : flow.lifecycle = .pending →
    flow.ctx.reqSeenLast = false ∧ flow.ctx.released = false
  ended : flow.ctx.reqSeenLast = true →
    flow.ctx.waiting = true ∧ flow.ctx.endTransactionSent = true
  opens : flow.ctx.stage.Opens → flow.ctx.endTransactionSent = false
  metaData : flow.ctx.stage = .metaData → flow.ctx.headersSent = false

/-- What the event handler may find in a stage. -/
def Flow.Enters (flow : Flow) : Prop :=
  let remaining := flow.session.remainingMessagesToReply
  match flow.ctx.stage with
  | .metaData => flow.ctx.metaDataSent = true ∧ 0 < remaining
  | .headers => flow.ctx.headersSent = true → 0 < remaining
  | .endTransaction => flow.ctx.endTransactionSent = true → 0 < remaining
  | .waitHeaderVerdict | .waitEndVerdict =>
      flow.lifecycle = .pending → remaining = 0
  | .waitBodyVerdict | .body => True
  | .complete =>
      flow.lifecycle = .pending →
        remaining = 0 ∨ isVerdictDropOrCustom flow.session.verdict
  | .init | .waitMetaVerdict | .verdict | .error => False

/-- A reply, an event or the client continues the session, or it is over.  A
session whose source needs no inspection waits for nothing. -/
def Flow.Rests (flow : Flow) : Prop :=
  let remaining := flow.session.remainingMessagesToReply
  match flow.ctx.stage with
  | .metaData =>
      (flow.ctx.metaDataSent = true ∧ 0 < remaining) ∨
        (flow.ctx.metaDataSent = false ∧ flow.lifecycle ≠ .pending ∧
          flow.ctx.agentTimer = false ∧ flow.session.verdict ≠ .inspect ∧
          remaining = 0)
  | .headers => flow.ctx.headersSent = true ∧ 0 < remaining
  | .endTransaction => flow.ctx.endTransactionSent = true ∧ 0 < remaining
  | .waitHeaderVerdict | .waitEndVerdict =>
      flow.ctx.agentTimer = true ∧
        (flow.lifecycle = .pending → remaining = 0)
  | .waitBodyVerdict => flow.ctx.agentTimer = true
  | .body =>
      flow.ctx.reqSeenLast = true → 0 < remaining ∨ 0 < flow.ctx.reqSeq ∨
        (flow.ctx.released = true ∧
          (flow.ctx.resumePosted = true ∨ flow.ctx.resumeTimer = true))
  | .complete => flow.lifecycle = .pending → remaining = 0
  | .init | .waitMetaVerdict | .verdict | .error => False

/-- The first message was never sent, and nginx has gone on without it. -/
structure Flow.Unstarted (flow : Flow) : Prop where
  isInitialized : flow.isInitialized = true
  stage : flow.ctx.stage = .metaData
  unsent : flow.ctx.metaDataSent = false
  notPending : flow.lifecycle ≠ .pending

/-- The module is cleaned up while the body is read. -/
structure Flow.CleanedUp (flow : Flow) : Prop where
  uninitialized : flow.isInitialized = false
  stage : flow.ctx.stage = .body
  agentTimer : flow.ctx.agentTimer = false
  isSet : flow.session.isSet = true
  ended : flow.ctx.reqSeenLast = true →
    flow.ctx.waiting = true ∧ flow.ctx.released = true ∧
      (flow.ctx.resumePosted = true ∨ flow.ctx.resumeTimer = true)

/-- A failure has marked the context. -/
structure Flow.Failed (flow : Flow) : Prop where
  registered : flow.ctx.registered = true
  isError : flow.ctx.flowError = true
  paid : flow.session.remainingMessagesToReply = 0
  place : flow.Unstarted ∨ flow.CleanedUp

/-- The states of a session between its steps, when that many of its messages
have a reply. -/
inductive Flow.Kept (answered : Nat) (flow : Flow) : Prop
  | live (live : flow.Live answered) (rests : flow.Rests)
  | failed (failed : flow.Failed) (bounded : answered ≤ flow.enqueued.length)
  | gone (unregistered : flow.ctx.registered = false)
      (covered : flow.session.remainingMessagesToReply + answered ≤
        flow.enqueued.length)
      (paid : flow.lifecycle = .pending →
        flow.session.remainingMessagesToReply = 0)

/-- A change of verdicts and timers only. -/
structure Flow.SameVitals (before after : Flow) : Prop where
  isSet : after.session.isSet = before.session.isSet
  remaining : after.session.remainingMessagesToReply =
    before.session.remainingMessagesToReply
  registered : after.ctx.registered = before.ctx.registered
  stage : after.ctx.stage = before.ctx.stage
  waiting : after.ctx.waiting = before.ctx.waiting
  released : after.ctx.released = before.ctx.released
  reqSeenLast : after.ctx.reqSeenLast = before.ctx.reqSeenLast
  reqSeq : after.ctx.reqSeq = before.ctx.reqSeq
  metaDataSent : after.ctx.metaDataSent = before.ctx.metaDataSent
  headersSent : after.ctx.headersSent = before.ctx.headersSent
  endTransactionSent :
    after.ctx.endTransactionSent = before.ctx.endTransactionSent
  flowError : after.ctx.flowError = before.ctx.flowError
  lifecycle : after.lifecycle = before.lifecycle
  isInitialized : after.isInitialized = before.isInitialized
  enqueued : after.enqueued = before.enqueued

theorem Flow.SameVitals.trans {first second third : Flow}
    (earlier : first.SameVitals second) (later : second.SameVitals third) :
    first.SameVitals third where
  isSet := later.isSet.trans earlier.isSet
  remaining := later.remaining.trans earlier.remaining
  registered := later.registered.trans earlier.registered
  stage := later.stage.trans earlier.stage
  waiting := later.waiting.trans earlier.waiting
  released := later.released.trans earlier.released
  reqSeenLast := later.reqSeenLast.trans earlier.reqSeenLast
  reqSeq := later.reqSeq.trans earlier.reqSeq
  metaDataSent := later.metaDataSent.trans earlier.metaDataSent
  headersSent := later.headersSent.trans earlier.headersSent
  endTransactionSent :=
    later.endTransactionSent.trans earlier.endTransactionSent
  flowError := later.flowError.trans earlier.flowError
  lifecycle := later.lifecycle.trans earlier.lifecycle
  isInitialized := later.isInitialized.trans earlier.isInitialized
  enqueued := later.enqueued.trans earlier.enqueued

theorem Flow.SameVitals.live (same : before.SameVitals after)
    (live : before.Live answered) :
    after.Live answered where
  registered := same.registered.trans live.registered
  noError := same.flowError.trans live.noError
  isSet := same.isSet.trans live.isSet
  isInitialized := same.isInitialized.trans live.isInitialized
  covered := by
    rw [same.remaining, same.enqueued]
    exact live.covered
  bodyCovered := by
    rw [same.reqSeq, same.enqueued]
    exact live.bodyCovered
  unread := by
    rw [same.lifecycle, same.reqSeenLast, same.released]
    exact live.unread
  ended := by
    rw [same.reqSeenLast, same.waiting, same.endTransactionSent]
    exact live.ended
  opens := by
    rw [same.stage, same.endTransactionSent]
    exact live.opens
  metaData := by
    rw [same.stage, same.headersSent]
    exact live.metaData

/-- A context may change to a stage after its headers. -/
theorem Flow.Live.transition (live : flow.Live answered) {stage : Stage}
    (later : ¬stage.Opens) :
    (flow.transition stage).Live answered :=
  { live with
    opens := fun opens => (later opens).elim
    metaData := fun isStage => (later (.inl isStage)).elim }

theorem Flow.Live.transitionOpen (live : flow.Live answered)
    (opens : flow.ctx.stage.Opens) {stage : Stage} (later : stage ≠ .metaData) :
    (flow.transition stage).Live answered :=
  { live with
    opens := fun _ => live.opens opens
    metaData := fun isStage => (later isStage).elim }

section Stages

variable (settings : Settings) (env : Environment) (request : Request)

variable {chain : List NgxBuf} {result : NgxRc × Flow} {lifecycle : Lifecycle}

variable {settings env request}

theorem finalizeRequestHeadersHook_sameVitals (flow : Flow) :
    flow.SameVitals (finalizeRequestHeadersHook settings env request flow) := by
  obtain ⟨calls, inspected, same | ⟨_, same⟩⟩ :=
    finalizeRequestHeadersHook_cases settings env request flow
  · rw [same]
    constructor <;> rfl
  · rw [same]
    constructor <;> rfl

theorem processCompleteStage_sameVitals (flow : Flow) :
    flow.SameVitals (processCompleteStage settings env request flow).2 ∧
      ((processCompleteStage settings env request flow).1 = .declined ∨
        (processCompleteStage settings env request flow).1 =
          .httpForbidden) := by
  have finalized : flow.SameVitals
      (finalizeRequestHeadersHook settings env request
        flow.cancelDeadlineTimer).cancelAgentTimer := by
    have cancelled : flow.SameVitals flow.cancelDeadlineTimer := by
      constructor <;> rfl
    apply (cancelled.trans (finalizeRequestHeadersHook_sameVitals _)).trans
    constructor <;> rfl
  have forbidden (other : Flow) : other.SameVitals other.forbid := by
    constructor <;> rfl
  rw [processCompleteStage]
  split
  · exact ⟨finalized, .inl rfl⟩
  · split
    · exact ⟨finalized.trans (forbidden _), .inr rfl⟩
    · split
      · exact ⟨finalized, .inl rfl⟩
      · exact ⟨finalized.trans (forbidden _), .inr rfl⟩

/-- How the stage of a live context is processed: it goes on, the session is
complete, or a message of the stage cannot be sent. -/
inductive Flow.Outcome (answered : Nat) (before : Flow) :
    NgxRc × Flow → Prop
  | waits {next : Flow} (kept : next.Kept answered) :
      Outcome answered before (.again, next)
  | completes {rc : NgxRc} {next : Flow}
      (settled : rc = .declined ∨ rc = .httpForbidden)
      (live : next.Live answered) (stage : next.ctx.stage = .complete)
      (paid : isVerdictDropOrCustom next.session.verdict ∨
        (before.ctx.stage = .complete ∧ next.Rests)) :
      Outcome answered before (rc, next)
  | rejects {rc : NgxRc} {next : Flow} (settled : rc ≠ .again)
      (blocking : isVerdictDropOrCustom next.session.verdict)
      (covered : next.session.remainingMessagesToReply + answered ≤
        next.enqueued.length)
      (unsent : (before.ctx.stage = .headers ∧
          before.ctx.headersSent = false) ∨
        (before.ctx.stage = .endTransaction ∧
          before.ctx.endTransactionSent = false)) :
      Outcome answered before (rc, next)

variable (live : flow.Live answered)

include live in
theorem processCompleteStage_outcome (stage : flow.ctx.stage = .complete)
    (paid : isVerdictDropOrCustom flow.session.verdict ∨
      (before.ctx.stage = .complete ∧ flow.Rests)) :
    before.Outcome answered
      (processCompleteStage settings env request flow) := by
  obtain ⟨same, settled⟩ :=
    processCompleteStage_sameVitals flow
  have completed : (processCompleteStage settings env request
      flow).2.ctx.stage = .complete := same.stage.trans stage
  apply Flow.Outcome.completes settled (same.live live) completed
  obtain blocking | ⟨isStage, rests⟩ := paid
  · obtain ⟨next, result, stays⟩ :=
      processCompleteStage_of_blocking settings env request blocking
    rw [result]
    exact .inl stays
  · refine .inr ⟨isStage, ?_⟩
    rw [Flow.Rests, stage] at rests
    rw [Flow.Rests, completed, same.lifecycle, same.remaining]
    exact rests

variable (settings env request)

/-- The messages that the processing of a stage may send reach the ring
queue. -/
structure Flow.Delivers (flow : Flow) : Prop where
  headers : flow.ctx.stage = .headers → flow.ctx.headersSent = false →
    (sendHeadersNonblocking env request flow).1 = .ok
  endTransaction : flow.ctx.stage = .endTransaction →
    flow.ctx.endTransactionSent = false → env.Accepts flow.calls

variable {settings env request}

theorem afterSender_rejects (failClose : settings.failModeVerdict ≠ .ok)
    (markSent : AsyncCtx → AsyncCtx) {sent : NgxRc × Nat × Flow}
    (failed : sent.1 ≠ .ok)
    (covered : sent.2.2.session.remainingMessagesToReply + answered ≤
      sent.2.2.enqueued.length)
    (unsent : (before.ctx.stage = .headers ∧
        before.ctx.headersSent = false) ∨
      (before.ctx.stage = .endTransaction ∧
        before.ctx.endTransactionSent = false)) :
    before.Outcome answered
      (afterSender settings env request markSent sent) := by
  obtain ⟨next, result, blocking⟩ :=
    afterSender_of_failed failClose markSent failed
  have same := (@processCompleteStage_sameVitals settings env request
    (sent.2.2.setFlowError.fail settings.failModeVerdict)).1
  obtain ⟨rc, numMessagesSent, flow⟩ := sent
  rw [afterSender, if_pos failed] at result ⊢
  rw [result] at same ⊢
  refine .rejects (by simp) blocking ?_ unsent
  rw [same.remaining, same.enqueued]
  exact covered

theorem afterSender_waits {markSent : AsyncCtx → AsyncCtx}
    {numMessagesSent : Nat}
    (kept : ((expectReplies numMessagesSent flow).updateCtx markSent).Kept
      answered) :
    before.Outcome answered
      (afterSender settings env request markSent
        (.ok, numMessagesSent, flow)) := by
  rw [afterSender, if_neg (not_not.mpr rfl)]
  exact .waits kept

include live

theorem processHeaders_outcome (fills : request.FillsHeaders)
    (stage : flow.ctx.stage = .headers) (unsent : flow.ctx.headersSent = false)
    (delivers : settings.failModeVerdict = .ok →
      flow.Delivers env request) :
    flow.Outcome answered
      (afterSender settings env request
        (fun ctx => { ctx with headersSent := true })
        (sendHeadersNonblocking env request flow)) := by
  obtain ⟨hands, positive⟩ := sendHeadersNonblocking_hands env request flow
  have sendsOnly := sendHeadersNonblocking_sendsOnly env request flow
  by_cases accepted : (sendHeadersNonblocking env request flow).1 = .ok
  · have positive := positive fills accepted
    have counted := hands.counted accepted
    rcases result : sendHeadersNonblocking env request flow with
      ⟨rc, numMessagesSent, next⟩
    rw [result] at accepted positive counted sendsOnly hands
    obtain ⟨calls, enqueued, rfl⟩ := sendsOnly
    cases accepted
    have grows := hands.grows
    have covered := live.covered
    have bodyCovered := live.bodyCovered
    dsimp only at positive counted grows
    apply afterSender_waits
    refine .live { live with
      covered := ?_
      bodyCovered := ?_
      metaData := fun isStage => nomatch stage.symm.trans isStage } ?_
    · dsimp only [expectReplies, Flow.updateSession, Flow.updateCtx]
      omega
    · dsimp only [expectReplies, Flow.updateSession, Flow.updateCtx]
      omega
    · have isStage : ((expectReplies numMessagesSent
          { flow with calls, enqueued }).updateCtx fun ctx =>
            { ctx with headersSent := true }).ctx.stage = .headers := stage
      rw [Flow.Rests, isStage]
      exact ⟨rfl, Nat.lt_of_lt_of_le positive (Nat.le_add_left _ _)⟩
  · have failClose : settings.failModeVerdict ≠ .ok := fun failOpen =>
      accepted ((delivers failOpen).headers stage unsent)
    apply afterSender_rejects failClose _ accepted _ (.inl ⟨stage, unsent⟩)
    obtain ⟨calls, enqueued, same⟩ := sendsOnly
    have grows := hands.grows
    have covered := live.covered
    rw [same] at grows ⊢
    exact Nat.le_trans covered grows

theorem processEndTransaction_outcome (stage : flow.ctx.stage = .endTransaction)
    (unsent : flow.ctx.endTransactionSent = false)
    (delivers : settings.failModeVerdict = .ok →
      flow.Delivers env request) :
    flow.Outcome answered
      (afterSender settings env request
        (fun ctx => { ctx with endTransactionSent := true })
        (sendEndTransactionNonblocking env request flow)) := by
  obtain ⟨hands, one⟩ := sendEndTransactionNonblocking_hands env request flow
  obtain ⟨sent, calls, enqueued, same⟩ :=
    sendEndTransactionNonblocking_frame env request flow
  have grows := hands.grows
  have covered := live.covered
  have bodyCovered := live.bodyCovered
  by_cases accepted : (sendEndTransactionNonblocking env request flow).1 = .ok
  · have counted := hands.counted accepted
    have one := one accepted
    rcases result : sendEndTransactionNonblocking env request flow with
      ⟨rc, numMessagesSent, next⟩
    rw [result] at accepted same counted grows one
    cases accepted
    cases same
    cases one
    dsimp only [Flow.updateCtx] at counted grows
    apply afterSender_waits
    refine .live { live with
      covered := ?_
      bodyCovered := ?_
      ended := fun seenLast => ⟨(live.ended seenLast).1, rfl⟩
      opens := fun opens => by
        have opens : flow.ctx.stage.Opens := opens
        rw [stage] at opens
        exact absurd opens (by decide) } ?_
    · dsimp only [expectReplies, Flow.updateSession, Flow.updateCtx]
      omega
    · dsimp only [expectReplies, Flow.updateSession, Flow.updateCtx]
      omega
    · dsimp only [Flow.Rests, expectReplies, Flow.updateSession,
        Flow.updateCtx]
      rw [stage]
      exact ⟨rfl, Nat.succ_pos _⟩
  · have failClose : settings.failModeVerdict ≠ .ok := fun failOpen =>
      accepted (sendEndTransactionNonblocking_of_accepts env request
        ((delivers failOpen).endTransaction stage unsent))
    apply afterSender_rejects failClose _ accepted _ (.inr ⟨stage, unsent⟩)
    rw [same] at grows ⊢
    exact Nat.le_trans covered grows

/-- With every chunk answered the queue of the body is released. -/
theorem processBodyStage_outcome (stage : flow.ctx.stage = .body) :
    flow.Outcome answered (processBodyStage settings env request flow) := by
  have late : ¬Stage.complete.Opens := by decide
  rw [processBodyStage]
  split
  · rename_i blocking
    apply processCompleteStage_outcome (live.transition late) rfl
    exact .inl blocking
  · split
    · rename_i counts
      refine .waits (.live live ?_)
      rw [Flow.Rests, stage]
      exact fun _ => .inr (.inl counts)
    · dsimp only
      split
      · refine .waits (.live { live with unread := ?_ } ?_)
        · rename_i ended
          intro pending
          cases ended.2.symm.trans (live.unread pending).1
        · dsimp only [Flow.Rests, Flow.postRequest, Flow.updateCtx]
          rw [stage]
          exact fun _ => .inr (.inr ⟨rfl, .inl rfl⟩)
      · rename_i unfinished
        refine .waits (.live { live with } ?_)
        dsimp only [Flow.Rests, Flow.postRequest, Flow.updateCtx]
        rw [stage]
        intro seenLast
        exact (unfinished ⟨(live.ended seenLast).2, seenLast⟩).elim

theorem continueWith_outcome {handleWait : Flow → NgxRc × Flow}
    (enters : flow.Enters) (fills : request.FillsHeaders)
    (delivers : settings.failModeVerdict = .ok → flow.Delivers env request)
    (waits : flow.ctx.stage ∈ waitStages →
      flow.Outcome answered (handleWait flow)) :
    flow.Outcome answered
      (continueWith settings env request handleWait flow) := by
  have noError : ¬flow.ctx.flowError = true := by simp [live.noError]
  rw [continueWith, if_neg noError]
  rw [Flow.Enters] at enters
  cases stage : flow.ctx.stage <;> rw [stage] at enters waits <;>
    dsimp only at enters ⊢
  case metaData =>
    rw [if_pos enters.1]
    refine .waits (.live live ?_)
    rw [Flow.Rests, stage]
    exact .inl enters
  case headers =>
    split
    · rename_i sent
      refine .waits (.live live ?_)
      rw [Flow.Rests, stage]
      exact ⟨sent, enters sent⟩
    · rename_i unsent
      exact processHeaders_outcome live fills stage
        (Bool.eq_false_iff.mpr unsent) delivers
  case endTransaction =>
    split
    · rename_i sent
      refine .waits (.live live ?_)
      rw [Flow.Rests, stage]
      exact ⟨sent, enters sent⟩
    · rename_i unsent
      exact processEndTransaction_outcome live stage
        (Bool.eq_false_iff.mpr unsent) delivers
  case body => exact processBodyStage_outcome live stage
  case complete =>
    apply processCompleteStage_outcome live stage
    by_cases blocking : isVerdictDropOrCustom flow.session.verdict
    · exact .inl blocking
    · refine .inr ⟨stage, ?_⟩
      rw [Flow.Rests, stage]
      exact fun pending => (enters pending).resolve_right blocking
  case waitHeaderVerdict => exact waits (by decide)
  case waitEndVerdict => exact waits (by decide)
  case waitBodyVerdict => exact waits (by decide)

omit live

theorem eventHandlerWith_kept {continueProcessing : Flow → NgxRc × Flow}
    (registered : flow.ctx.registered = true)
    (outcome : flow.Outcome answered (continueProcessing flow)) :
    (eventHandlerWith continueProcessing flow).Kept answered := by
  have found : ¬flow.ctx.registered = false := by simp [registered]
  rw [eventHandlerWith, if_neg found]
  generalize continueProcessing flow = result at outcome ⊢
  dsimp only
  cases outcome with
  | waits kept =>
      rw [if_pos rfl]
      exact kept
  | @completes rc next settled live stage paid =>
      have notAgain : rc ≠ .again := by rcases settled with rfl | rfl <;> simp
      rw [if_neg notAgain]
      split
      · exact .gone rfl live.covered (by rintro ⟨⟩)
      · rename_i passes
        obtain ⟨isStage, rests⟩ := paid.resolve_left passes
        have isPaid := rests
        rw [Flow.Rests, stage] at isPaid
        by_cases declined : rc = .declined
        · rw [if_pos declined, if_pos isStage]
          split
          · exact .gone rfl live.covered isPaid
          · exact .gone rfl live.covered isPaid
        · rw [if_neg declined]
          exact .live live rests
  | rejects settled blocking covered unsent =>
      rw [if_neg settled, if_pos blocking]
      exact .gone rfl covered (by rintro ⟨⟩)

/-- A verdict that takes the session to its next message. -/
def Advances (verdict : ServiceVerdict) : Prop :=
  ¬isVerdictDropOrCustom verdict ∧ verdict ≠ .delayed

instance (verdict : ServiceVerdict) : Decidable (Advances verdict) :=
  inferInstanceAs (Decidable (_ ∧ _))

variable (settings env request)

/-- The message after a wait for the verdict on the headers can be sent. -/
def Flow.DeliversAfterWait (flow : Flow) : Prop :=
  flow.ctx.stage = .waitHeaderVerdict → Advances flow.session.verdict →
    env.Accepts flow.calls

instance (flow : Flow) : Decidable (flow.DeliversAfterWait env) :=
  inferInstanceAs (Decidable (_ → _ → _))

variable {settings env request}

include live

theorem eventHandlerAfterWait_kept (enters : flow.Enters)
    (left : flow.ctx.stage ∉ waitStages) (fills : request.FillsHeaders)
    (delivers : settings.failModeVerdict = .ok →
      flow.Delivers env request) :
    (eventHandlerAfterWait settings env request flow).Kept answered := by
  apply eventHandlerWith_kept live.registered
  apply continueWith_outcome live enters fills delivers
  exact fun waits => (left waits).elim

theorem failWait_kept (fills : request.FillsHeaders) :
    (eventHandlerAfterWait settings env request
      (failWait settings flow)).Kept answered := by
  have bounded : 0 + answered ≤ flow.enqueued.length :=
    Nat.le_trans (Nat.add_le_add_right (Nat.zero_le _) _) live.covered
  have late : ¬Stage.body.Opens := by decide
  have ended : (failWait settings flow).Live answered :=
    { live with
      covered := bounded
      bodyCovered := bounded
      opens := fun opens => (late opens).elim
      metaData := nofun }
  apply eventHandlerAfterWait_kept ended trivial
    (by decide : Stage.body ∉ waitStages) fills
  intro _
  exact ⟨nofun, nofun⟩

theorem transitionAfterWait_kept (enters : flow.Enters)
    (waits : flow.ctx.stage ∈ waitStages)
    (resolved : flow.session.verdict ≠ .delayed) (fills : request.FillsHeaders)
    (delivers : settings.failModeVerdict = .ok →
      flow.DeliversAfterWait env) :
    (eventHandlerAfterWait settings env request
      (transitionAfterWait flow)).Kept answered := by
  have noError : ¬flow.ctx.flowError = true := by simp [live.noError]
  rw [transitionAfterWait, if_neg noError, if_neg resolved]
  have completes (paid : flow.lifecycle = .pending →
      flow.session.remainingMessagesToReply = 0 ∨
        isVerdictDropOrCustom flow.session.verdict) :
      (eventHandlerAfterWait settings env request
        (flow.transition .complete)).Kept answered := by
    have entered : (flow.transition .complete).Enters := paid
    apply eventHandlerAfterWait_kept (live.transition (by decide)) entered
      (by decide : Stage.complete ∉ waitStages) fills
    intro _
    exact ⟨by rintro ⟨⟩, by rintro ⟨⟩⟩
  have reads : (eventHandlerAfterWait settings env request
      (flow.transition .body)).Kept answered := by
    have entered : (flow.transition .body).Enters := trivial
    apply eventHandlerAfterWait_kept (live.transition (by decide)) entered
      (by decide : Stage.body ∉ waitStages) fills
    intro _
    exact ⟨by rintro ⟨⟩, by rintro ⟨⟩⟩
  rw [Flow.Enters] at enters
  rw [stageAfterWait]
  simp only [waitStages, List.mem_cons, List.not_mem_nil, or_false] at waits
  rcases waits with stage | stage | stage <;> rw [stage] at enters <;>
    simp only [stage]
  · split
    · rename_i blocking
      exact completes fun _ => .inr blocking
    · rename_i passes
      have unsent : flow.ctx.endTransactionSent = false :=
        live.opens (.inr (.inr stage))
      have fresh : (flow.transition .endTransaction).Enters :=
        fun sent => by cases unsent.symm.trans sent
      apply eventHandlerAfterWait_kept (live.transition (by decide)) fresh
        (by decide : Stage.endTransaction ∉ waitStages) fills
      intro failOpen
      exact ⟨by rintro ⟨⟩, fun _ _ => delivers failOpen stage ⟨passes, resolved⟩⟩
  · split
    · exact reads
    · exact completes fun pending => .inl (enters pending)
  · split
    · rename_i blocking
      exact completes fun _ => .inr blocking
    · exact reads

theorem handleWaitVerdict_outcome (enters : flow.Enters)
    (waits : flow.ctx.stage ∈ waitStages) (fills : request.FillsHeaders)
    (delivers : settings.failModeVerdict = .ok →
      flow.DeliversAfterWait env) :
    flow.Outcome answered
      (handleWaitVerdict settings env request flow) := by
  have noError : ¬flow.ctx.flowError = true := by simp [live.noError]
  rw [handleWaitVerdict, if_neg noError]
  split
  · rename_i resolved
    exact .waits (transitionAfterWait_kept live enters
      waits resolved fills delivers)
  · have grows := waitSignalSender_grows env request flow
    obtain ⟨calls, enqueued, same⟩ :=
      waitSignalSender_sendsOnly env request flow
    generalize waitSignalSender env request flow = result at grows same ⊢
    obtain ⟨rc, numMessagesSent, next⟩ := result
    cases same
    have sent : ({ flow with calls, enqueued } : Flow).Live answered :=
      { live with
        covered := Nat.le_trans live.covered grows
        bodyCovered := Nat.le_trans live.bodyCovered grows }
    dsimp only
    split
    · exact .waits (failWait_kept sent fills)
    · refine .waits (.live { sent with } ?_)
      rw [Flow.Enters] at enters
      dsimp only [Flow.Rests, Flow.addAgentTimer, Flow.updateCtx]
      simp only [waitStages, List.mem_cons, List.not_mem_nil, or_false]
        at waits
      rcases waits with stage | stage | stage <;> rw [stage] at enters ⊢
      · exact ⟨rfl, enters⟩
      · exact ⟨rfl, enters⟩

theorem continueProcessing_outcome (enters : flow.Enters)
    (fills : request.FillsHeaders)
    (delivers : settings.failModeVerdict = .ok →
      flow.Delivers env request ∧ flow.DeliversAfterWait env) :
    flow.Outcome answered (continueProcessing settings env request flow) := by
  apply continueWith_outcome live enters fills
    fun failOpen => (delivers failOpen).1
  intro waits
  exact handleWaitVerdict_outcome live enters waits fills
    fun failOpen => (delivers failOpen).2

theorem eventHandler_kept (enters : flow.Enters) (fills : request.FillsHeaders)
    (delivers : settings.failModeVerdict = .ok →
      flow.Delivers env request ∧ flow.DeliversAfterWait env) :
    (eventHandler settings env request flow).Kept answered :=
  eventHandlerWith_kept live.registered
    (continueProcessing_outcome live enters fills delivers)

omit live

/-- A context with an error is accepted or rejected by the fail mode. -/
theorem eventHandler_of_isError (registered : flow.ctx.registered = true)
    (isError : flow.ctx.flowError = true) :
    let failed := flow.fail settings.failModeVerdict
    let accepted := failed.cancelDeadlineTimer
    (eventHandler settings env request flow =
      if flow.ctx.stage = .complete then
        if accepted.ctx.waiting then accepted.destroyCtx.runPhases
        else accepted.destroyCtx
      else if accepted.ctx.waiting then (accepted.setWaiting false).runPhases
      else accepted) ∨
    eventHandler settings env request flow =
      failed.forbid.destroyCtx.close := by
  have found : ¬flow.ctx.registered = false := by simp [registered]
  rw [eventHandler, eventHandlerWith, if_neg found, continueProcessing,
    continueWith, if_pos isError]
  by_cases failOpen : settings.failModeVerdict = .ok
  · have accepts : (flow.fail settings.failModeVerdict).session.verdict =
        .accept := if_pos failOpen
    have passes : ¬isVerdictDropOrCustom
        (flow.fail settings.failModeVerdict).session.verdict := by
      rw [accepts]
      decide
    rw [if_pos failOpen]
    dsimp only
    rw [if_neg (by decide), if_neg passes, if_pos rfl]
    exact .inl rfl
  · have blocking : isVerdictDropOrCustom
        (flow.fail settings.failModeVerdict).forbid.session.verdict :=
      failVerdict_of_ne failOpen
    rw [if_neg failOpen]
    dsimp only
    rw [if_neg failModeVerdict_ne_again, if_pos blocking]
    exact .inr rfl

/-- The event handler lets a context go that a failure has completed. -/
theorem eventHandler_of_failed (flow : Flow)
    (registered : flow.ctx.registered = true)
    (isError : flow.ctx.flowError = true)
    (stage : flow.ctx.stage = .complete) :
    (eventHandler settings env request flow).ctx.registered = false ∧
      (eventHandler settings env request
          flow).session.remainingMessagesToReply =
        flow.session.remainingMessagesToReply ∧
      (eventHandler settings env request flow).enqueued = flow.enqueued := by
  rcases eventHandler_of_isError registered isError with
    same | same
  · rw [same, if_pos stage]
    split
    · exact ⟨rfl, rfl, rfl⟩
    · exact ⟨rfl, rfl, rfl⟩
  · rw [same]
    exact ⟨rfl, rfl, rfl⟩

/-- It leaves a context that has sent nothing. -/
theorem eventHandler_of_unstarted (registered : flow.ctx.registered = true)
    (isError : flow.ctx.flowError = true)
    (paid : flow.session.remainingMessagesToReply = 0)
    (bounded : answered ≤ flow.enqueued.length) (unstarted : flow.Unstarted) :
    (eventHandler settings env request flow).Kept answered := by
  have covered : flow.session.remainingMessagesToReply + answered ≤
      flow.enqueued.length := by simpa [paid] using bounded
  have incomplete : ¬flow.ctx.stage = .complete := by simp [unstarted.stage]
  rcases eventHandler_of_isError registered isError with
    same | same
  · rw [same, if_neg incomplete]
    split
    · exact .failed ⟨registered, isError, paid, .inl { unstarted with }⟩
        bounded
    · exact .failed ⟨registered, isError, paid, .inl { unstarted with }⟩
        bounded
  · rw [same]
    exact .gone rfl covered (by rintro ⟨⟩)

theorem Flow.Kept.covered (kept : flow.Kept answered) :
    flow.session.remainingMessagesToReply + answered ≤
      flow.enqueued.length := by
  cases kept with
  | live live _ => exact live.covered
  | failed failed bounded => simpa [failed.paid] using bounded
  | gone _ covered _ => exact covered

theorem Flow.Kept.bounded (kept : flow.Kept answered) :
    answered ≤ flow.enqueued.length :=
  Nat.le_trans (Nat.le_add_left _ _) kept.covered

/-- A destroyed context owes as much as before. -/
theorem Flow.Kept.destroyed (kept : before.Kept answered)
    (unregistered : after.ctx.registered = false)
    (notPending : after.lifecycle ≠ .pending)
    (remaining : after.session.remainingMessagesToReply =
      before.session.remainingMessagesToReply)
    (enqueued : after.enqueued = before.enqueued) : after.Kept answered := by
  refine .gone unregistered ?_ fun pending => (notPending pending).elim
  rw [remaining, enqueued]
  exact kept.covered

/-- What rests may be processed again. -/
theorem Flow.Rests.enters (rests : flow.Rests)
    (started : flow.ctx.stage = .metaData → flow.ctx.metaDataSent = true) :
    flow.Enters := by
  rw [Flow.Rests] at rests
  rw [Flow.Enters]
  cases stage : flow.ctx.stage <;> rw [stage] at rests <;>
    dsimp only at rests ⊢
  case metaData =>
    obtain sent | unsent := rests
    · exact sent
    · exact nomatch (started stage).symm.trans unsent.1
  case headers => exact fun _ => rests.2
  case endTransaction => exact fun _ => rests.2
  case waitHeaderVerdict => exact rests.2
  case waitEndVerdict => exact rests.2
  case complete => exact fun pending => .inl (rests pending)

/-- The messages of a stage have been sent when its session rests. -/
theorem Flow.Rests.delivers {other : Flow} (rests : flow.Rests)
    (stage : other.ctx.stage = flow.ctx.stage)
    (headersSent : other.ctx.headersSent = flow.ctx.headersSent)
    (endTransactionSent :
      other.ctx.endTransactionSent = flow.ctx.endTransactionSent) :
    other.Delivers env request where
  headers := by
    intro isStage unsent
    rw [stage] at isStage
    rw [headersSent] at unsent
    rw [Flow.Rests, isStage] at rests
    exact nomatch unsent.symm.trans rests.1
  endTransaction := by
    intro isStage unsent
    rw [stage] at isStage
    rw [endTransactionSent] at unsent
    rw [Flow.Rests, isStage] at rests
    exact nomatch unsent.symm.trans rests.1

theorem agentEvent_kept (kept : flow.Kept answered)
    (fires : flow.ctx.agentTimer = true) (fills : request.FillsHeaders)
    (delivers : settings.failModeVerdict = .ok →
      flow.DeliversAfterWait env) :
    (eventHandler settings env request flow.cancelAgentTimer).Kept
      answered := by
  cases kept with
  | live live rests =>
      have started : flow.ctx.stage = .metaData →
          flow.ctx.metaDataSent = true := by
        intro stage
        rw [Flow.Rests, stage] at rests
        obtain sent | unsent := rests
        · exact sent.1
        · exact nomatch fires.symm.trans unsent.2.2.1
      have cancelled : flow.cancelAgentTimer.Live answered := { live with }
      have entered : flow.cancelAgentTimer.Enters := rests.enters started
      apply eventHandler_kept cancelled entered fills
      intro failOpen
      exact ⟨rests.delivers rfl rfl rfl, delivers failOpen⟩
  | failed failed bounded =>
      obtain unstarted | cleanedUp := failed.place
      · have cancelled : flow.cancelAgentTimer.Unstarted :=
          { unstarted with }
        exact eventHandler_of_unstarted failed.registered
          failed.isError failed.paid bounded cancelled
      · exact nomatch fires.symm.trans cleanedUp.agentTimer
  | gone unregistered covered paid =>
      have missing : flow.cancelAgentTimer.ctx.registered = false :=
        unregistered
      rw [eventHandler, eventHandlerWith, if_pos missing]
      exact .gone unregistered covered paid

theorem complete_kept (registered : flow.ctx.registered = true)
    (isError : flow.ctx.flowError = true)
    (bounded : answered ≤ flow.enqueued.length) :
    (eventHandler settings env request
      ((endInspection flow).transition .complete)).Kept answered := by
  obtain ⟨unregistered, remaining, enqueued⟩ := eventHandler_of_failed
    ((endInspection flow).transition .complete) registered isError
    rfl
  refine .gone unregistered ?_ fun _ => remaining
  rw [remaining, enqueued]
  exact Nat.le_trans (Nat.le_of_eq (Nat.zero_add _)) bounded

include live in
theorem endInspection_kept (fills : request.FillsHeaders) :
    (eventHandler settings env request
      ((endInspection flow).transition .complete)).Kept answered := by
  have bounded : 0 + answered ≤ flow.enqueued.length :=
    Nat.le_trans (Nat.add_le_add_right (Nat.zero_le _) _) live.covered
  have ended : (endInspection flow).Live answered :=
    { live with covered := bounded }
  have completed : ((endInspection flow).transition .complete).Live
      answered := ended.transition (by decide)
  have entered : ((endInspection flow).transition .complete).Enters :=
    fun _ => .inl rfl
  apply eventHandler_kept completed entered fills
  intro _
  exact ⟨⟨nofun, nofun⟩, nofun⟩

theorem deadlineHandler_kept (kept : flow.Kept answered)
    (fills : request.FillsHeaders) :
    (deadlineHandler settings env request flow).Kept answered := by
  rw [deadlineHandler]
  split
  · exact kept
  · rename_i found
    split
    · exact kept
    · split
      · exact kept
      · rename_i noError
        cases kept with
        | live live rests =>
            apply endInspection_kept _ fills
            exact { live with }
        | failed failed _ => exact (noError failed.isError).elim
        | gone unregistered _ _ => exact (found unregistered).elim

theorem contextCleanupHandler_kept (kept : flow.Kept answered) :
    (contextCleanupHandler settings env request flow).Kept answered := by
  rw [contextCleanupHandler]
  split
  · exact kept
  · rename_i found
    have registered : flow.ctx.registered = true := by simpa using found
    split
    · exact kept
    · exact complete_kept registered rfl kept.bounded

/-- A change that neither the stage nor its events depend on. -/
structure Flow.SameRest (before after : Flow) : Prop extends
    before.SameVitals after where
  verdict : after.session.verdict = before.session.verdict
  agentTimer : after.ctx.agentTimer = before.ctx.agentTimer
  resumePosted : after.ctx.resumePosted = before.ctx.resumePosted
  resumeTimer : after.ctx.resumeTimer = before.ctx.resumeTimer

theorem Flow.SameRest.rests (same : before.SameRest after)
    (rests : before.Rests) : after.Rests := by
  rw [Flow.Rests] at rests ⊢
  rw [same.stage, same.remaining, same.metaDataSent, same.headersSent,
    same.endTransactionSent, same.lifecycle, same.agentTimer, same.verdict,
    same.reqSeenLast, same.reqSeq, same.released, same.resumePosted,
    same.resumeTimer]
  exact rests

theorem Flow.SameVitals.kept (same : before.SameVitals after)
    (kept : before.Kept answered)
    (rests : before.Live answered → before.Rests → after.Rests)
    (cleanedUp : before.Failed → before.CleanedUp → after.CleanedUp) :
    after.Kept answered := by
  cases kept with
  | live live restsBefore =>
      exact .live (same.live live) (rests live restsBefore)
  | failed failed bounded =>
      refine .failed
        { registered := same.registered.trans failed.registered
          isError := same.flowError.trans failed.isError
          paid := same.remaining.trans failed.paid
          place := failed.place.imp (fun unstarted => ?_)
            (cleanedUp failed) } ?_
      · exact
          { isInitialized := same.isInitialized.trans unstarted.isInitialized
            stage := same.stage.trans unstarted.stage
            unsent := same.metaDataSent.trans unstarted.unsent
            notPending := by
              rw [same.lifecycle]
              exact unstarted.notPending }
      · rw [same.enqueued]
        exact bounded
  | gone unregistered covered paid =>
      refine .gone (same.registered.trans unregistered) ?_ ?_
      · rw [same.remaining, same.enqueued]
        exact covered
      · rw [same.lifecycle, same.remaining]
        exact paid

theorem Flow.SameRest.kept (same : before.SameRest after)
    (kept : before.Kept answered) :
    after.Kept answered := by
  refine same.toSameVitals.kept kept (fun _ => same.rests)
    fun _ cleanedUp => ?_
  exact
    { uninitialized := same.isInitialized.trans cleanedUp.uninitialized
      stage := same.stage.trans cleanedUp.stage
      agentTimer := same.agentTimer.trans cleanedUp.agentTimer
      isSet := same.isSet.trans cleanedUp.isSet
      ended := by
        rw [same.reqSeenLast, same.waiting, same.released,
          same.resumePosted, same.resumeTimer]
        exact cleanedUp.ended }

theorem asyncInit_kept (kept : flow.Kept answered) :
    (asyncInit flow).Kept answered ∧ (asyncInit flow).isInitialized = true := by
  rw [asyncInit]
  split
  · rename_i isInitialized
    exact ⟨kept, isInitialized⟩
  · rename_i uninitialized
    refine ⟨?_, rfl⟩
    cases kept with
    | live live _ => exact (uninitialized live.isInitialized).elim
    | failed failed bounded =>
        refine .gone rfl ?_ fun _ => failed.paid
        have paid := failed.paid
        dsimp only [Flow.updateCtx]
        omega
    | gone _ covered paid => exact .gone rfl covered paid

theorem requestFreed_kept (kept : flow.Kept answered) :
    flow.destroyCtx.close.Kept answered :=
  kept.destroyed rfl nofun rfl rfl

include live in
theorem eventHandler_paidBody (stage : flow.ctx.stage = .body)
    (passes : ¬isVerdictDropOrCustom flow.session.verdict)
    (counted : flow.ctx.reqSeq = 0) :
    ∃ released, (flow.ctx.reqSeenLast = true → released = true) ∧
      eventHandler settings env request flow =
        (flow.updateCtx fun ctx => { ctx with released }).postRequest := by
  have found : ¬flow.ctx.registered = false := by simp [live.registered]
  have noError : ¬flow.ctx.flowError = true := by simp [live.noError]
  have answeredAll : ¬0 < flow.ctx.reqSeq := by simp [counted]
  rw [eventHandler, eventHandlerWith, if_neg found, continueProcessing,
    continueWith, if_neg noError, stage]
  dsimp only
  rw [processBodyStage, if_neg passes, if_neg answeredAll]
  dsimp only
  rw [if_pos rfl]
  split
  · exact ⟨true, fun _ => rfl, rfl⟩
  · rename_i unfinished
    refine ⟨flow.ctx.released, fun seenLast => ?_, rfl⟩
    exact (unfinished ⟨(live.ended seenLast).2, seenLast⟩).elim

include live in
/-- The cleanup of a context in its body marks it and lets its body go. -/
theorem cleanupBody_kept (fills : request.FillsHeaders)
    (stage : flow.ctx.stage = .body)
    (verdict : flow.session.verdict = failVerdict settings.failModeVerdict)
    (paid : flow.session.remainingMessagesToReply = 0)
    (counted : flow.ctx.reqSeq = 0) (agentTimer : flow.ctx.agentTimer = false) :
    ({ (eventHandler settings env request flow).setFlowError with
        isInitialized := false } : Flow).Kept answered := by
  by_cases failOpen : settings.failModeVerdict = .ok
  · have accepts : flow.session.verdict = .accept :=
      verdict.trans (if_pos failOpen)
    have passes : ¬isVerdictDropOrCustom flow.session.verdict := by
      rw [accepts]
      decide
    obtain ⟨released, isReleased, handled⟩ := eventHandler_paidBody
      live stage passes counted
    have bounded : answered ≤ flow.enqueued.length :=
      Nat.le_trans (Nat.le_add_left _ _) live.covered
    rw [handled]
    refine .failed ⟨live.registered, rfl, paid, .inr ?_⟩ bounded
    exact
      { uninitialized := rfl
        stage := stage
        agentTimer := agentTimer
        isSet := live.isSet
        ended := fun seenLast =>
          ⟨(live.ended seenLast).1, isReleased seenLast, .inl rfl⟩ }
  · have blocking : isVerdictDropOrCustom flow.session.verdict := by
      rw [verdict]
      exact failVerdict_of_ne failOpen
    have gone : (eventHandler settings env request flow).Gone :=
      eventHandlerWith_continueWith_gone failOpen _
        live.registered blocking (.inl stage)
    have entered : flow.Enters := by
      rw [Flow.Enters, stage]
      trivial
    have kept := @eventHandler_kept _ _ settings env request live entered
      fills fun isOpen => (failOpen isOpen).elim
    refine kept.destroyed gone.unregistered ?_ rfl rfl
    intro pending
    exact nomatch gone.closed.symm.trans pending

theorem cleanupOther_kept (registered : flow.ctx.registered = true)
    (paid : flow.session.remainingMessagesToReply = 0)
    (bounded : answered ≤ flow.enqueued.length) :
    ({ (eventHandler settings env request
          (flow.setFlowError.transition .complete)).setFlowError with
        isInitialized := false } : Flow).Kept answered := by
  obtain ⟨unregistered, remaining, enqueued⟩ := eventHandler_of_failed
    (flow.setFlowError.transition .complete) registered rfl rfl
  have remaining := remaining.trans paid
  refine .gone unregistered ?_ fun _ => remaining
  dsimp only [Flow.setFlowError, Flow.updateCtx] at remaining enqueued ⊢
  rw [remaining, enqueued]
  exact Nat.le_trans (Nat.le_of_eq (Nat.zero_add _)) bounded

theorem cleanupImpl_kept (kept : flow.Kept answered)
    (isInitialized : flow.isInitialized = true) (fills : request.FillsHeaders) :
    (cleanupImpl settings env request flow).Kept answered := by
  have bounded := kept.bounded
  rw [cleanupImpl]
  cases kept with
  | live live _ =>
      have found : ¬flow.ctx.registered = false := by simp [live.registered]
      have owed : 0 + answered ≤ flow.enqueued.length := by
        simpa using bounded
      have stopped : (clearReqSeq (endInspection (flow.fail
          settings.failModeVerdict))).cancelTimers.Live answered :=
        { live with covered := owed, bodyCovered := owed }
      rw [if_neg found]
      dsimp only
      split
      · have moved := stopped.transition (by decide : ¬Stage.body.Opens)
        exact cleanupBody_kept moved fills rfl rfl rfl rfl rfl
      · split
        · exact cleanupOther_kept stopped.registered rfl bounded
        · rename_i stage
          exact cleanupBody_kept stopped fills
            (not_not.mp stage) rfl rfl rfl rfl
  | failed failed _ =>
      have found : ¬flow.ctx.registered = false := by simp [failed.registered]
      obtain unstarted | cleanedUp := failed.place
      · have waits : ¬flow.ctx.stage = .waitBodyVerdict := by
          simp [unstarted.stage]
        have reads : flow.ctx.stage ≠ .body := by simp [unstarted.stage]
        have stopped : (clearReqSeq (endInspection (flow.fail
            settings.failModeVerdict))).cancelTimers.ctx.registered = true :=
          failed.registered
        rw [if_neg found]
        dsimp only [clearReqSeq, endInspection, Flow.fail, Flow.setVerdict,
          Flow.cancelTimers, Flow.updateSession, Flow.updateCtx] at stopped ⊢
        rw [if_neg waits, if_pos reads]
        exact cleanupOther_kept stopped rfl bounded
      · cases isInitialized.symm.trans cleanedUp.uninitialized
  | gone unregistered covered paid =>
      rw [if_pos unregistered]
      exact .gone unregistered covered paid

/-- Resume events matter in the body only. -/
theorem Flow.Rests.resumed (rests : before.Rests)
    (same : before.SameVitals after)
    (verdict : after.session.verdict = before.session.verdict)
    (agentTimer : after.ctx.agentTimer = before.ctx.agentTimer)
    (body : after.ctx.stage = .body → after.Rests) : after.Rests := by
  by_cases isBody : after.ctx.stage = .body
  · exact body isBody
  · rw [same.stage] at isBody
    rw [Flow.Rests] at rests ⊢
    rw [same.stage, same.remaining, same.metaDataSent, same.headersSent,
      same.endTransactionSent, same.lifecycle, agentTimer, verdict]
    cases stage : before.ctx.stage <;> rw [stage] at rests
    case body => exact (isBody stage).elim
    all_goals exact rests

/-- A resume event that does not let the context go posts the next one, or it
was not due. -/
theorem Flow.Kept.resumed (kept : before.Kept answered)
    (same : before.SameVitals after)
    (verdict : after.session.verdict = before.session.verdict)
    (agentTimer : after.ctx.agentTimer = before.ctx.agentTimer)
    (due : after.ctx.resumeTimer = true ∨
      ¬(after.ctx.released = true ∧ after.ctx.waiting = true) ∨
      after.session.isSet = false ∨ after.ctx.registered = false) :
    after.Kept answered := by
  refine same.kept kept (fun live rests => ?_) fun failed cleanedUp => ?_
  · have still := same.live live
    refine rests.resumed same verdict agentTimer fun stage => ?_
    have isStage := same.stage.symm.trans stage
    rw [Flow.Rests, isStage] at rests
    rw [Flow.Rests, stage]
    intro seenLast
    rw [same.reqSeenLast] at seenLast
    rw [same.remaining, same.reqSeq, same.released]
    obtain owes | counts | ⟨released, _⟩ := rests seenLast
    · exact .inl owes
    · exact .inr (.inl counts)
    · refine .inr (.inr ⟨released, ?_⟩)
      obtain resumes | holds | unset | unregistered := due
      · exact .inr resumes
      · refine (holds ⟨same.released.trans released, ?_⟩).elim
        exact same.waiting.trans (live.ended seenLast).1
      · exact nomatch unset.symm.trans still.isSet
      · exact nomatch unregistered.symm.trans still.registered
  · refine
      { uninitialized := same.isInitialized.trans cleanedUp.uninitialized
        stage := same.stage.trans cleanedUp.stage
        agentTimer := agentTimer.trans cleanedUp.agentTimer
        isSet := same.isSet.trans cleanedUp.isSet
        ended := fun seenLast => ?_ }
    rw [same.reqSeenLast] at seenLast
    obtain ⟨waiting, released, _⟩ := cleanedUp.ended seenLast
    have waiting := same.waiting.trans waiting
    have released := same.released.trans released
    refine ⟨waiting, released, ?_⟩
    obtain resumes | holds | unset | unregistered := due
    · exact .inr resumes
    · exact (holds ⟨released, waiting⟩).elim
    · exact nomatch unset.symm.trans (same.isSet.trans cleanedUp.isSet)
    · exact nomatch unregistered.symm.trans
        (same.registered.trans failed.registered)

theorem Flow.Kept.paid_of_released (kept : flow.Kept answered)
    (released : flow.ctx.released = true)
    (pending : flow.lifecycle = .pending) :
    flow.session.remainingMessagesToReply = 0 := by
  cases kept with
  | live live _ => exact nomatch released.symm.trans (live.unread pending).2
  | failed failed _ => exact failed.paid
  | gone _ _ paid => exact paid pending

/-- The queue goes on, with a released request whose client waits. -/
theorem postedResume_kept (downstream : NgxRc) (kept : before.Kept answered)
    (same : before.SameVitals flow)
    (verdict : flow.session.verdict = before.session.verdict)
    (agentTimer : flow.ctx.agentTimer = before.ctx.agentTimer) :
    (postedResume downstream flow).Kept answered := by
  rw [postedResume]
  split
  · rename_i absent
    exact kept.resumed same verdict agentTimer (.inr (.inr absent))
  · have forwarded : before.SameVitals
        (if flow.ctx.queue = [] then flow else flow.forward flow.ctx.queue) ∧
        (if flow.ctx.queue = [] then flow else flow.forward
          flow.ctx.queue).session.verdict = before.session.verdict ∧
        (if flow.ctx.queue = [] then flow else flow.forward
          flow.ctx.queue).ctx.agentTimer = before.ctx.agentTimer := by
      split
      · exact ⟨same, verdict, agentTimer⟩
      · refine ⟨same.trans ?_, verdict, agentTimer⟩
        constructor <;> rfl
    dsimp only
    generalize (if flow.ctx.queue = [] then flow else flow.forward
      flow.ctx.queue) = sent at forwarded ⊢
    obtain ⟨same, verdict, agentTimer⟩ := forwarded
    split
    · refine kept.resumed (same.trans ?_) verdict agentTimer (.inl rfl)
      constructor <;> rfl
    · split
      · rename_i releases
        have released := same.released.symm.trans releases.1
        refine .gone rfl ?_ fun pending => ?_
        · have covered := kept.covered
          rw [← same.remaining, ← same.enqueued] at covered
          exact covered
        · exact same.remaining.trans
            (kept.paid_of_released released (same.lifecycle.symm.trans pending))
      · rename_i holds
        refine kept.resumed (same.trans ?_) verdict agentTimer
          (.inr (.inl holds))
        constructor <;> rfl

theorem afterHandler_of_leaves (leaves : result.1 ≠ .again ∧ result.1 ≠ .done) :
    ∃ lifecycle, lifecycle ≠ .pending ∧
      afterHandler result = { result.2 with lifecycle } := by
  obtain ⟨rc, flow⟩ := result
  cases rc with
  | again => exact (leaves.1 rfl).elim
  | done => exact (leaves.2 rfl).elim
  | declined => exact ⟨.admitted, nofun, rfl⟩
  | _ => exact ⟨.closed, nofun, rfl⟩

include live in
theorem Flow.Live.relocate (notPending : lifecycle ≠ .pending) :
    ({ flow with lifecycle } : Flow).Live answered :=
  { live with unread := fun pending => (notPending pending).elim }

theorem Flow.Rests.relocate (rests : flow.Rests)
    (notPending : lifecycle ≠ .pending) :
    ({ flow with lifecycle } : Flow).Rests := by
  rw [Flow.Rests] at rests ⊢
  dsimp only
  cases stage : flow.ctx.stage <;> rw [stage] at rests <;>
    dsimp only at rests ⊢
  case metaData =>
    exact rests.imp id fun unsent => ⟨unsent.1, notPending, unsent.2.2⟩
  case waitHeaderVerdict =>
    exact ⟨rests.1, fun pending => (notPending pending).elim⟩
  case waitEndVerdict =>
    exact ⟨rests.1, fun pending => (notPending pending).elim⟩
  case complete => exact fun pending => (notPending pending).elim
  all_goals exact rests

theorem Flow.Kept.relocate (kept : flow.Kept answered)
    (notPending : lifecycle ≠ .pending) :
    ({ flow with lifecycle } : Flow).Kept answered := by
  cases kept with
  | live live rests =>
      exact .live (live.relocate notPending) (rests.relocate notPending)
  | failed failed bounded =>
      refine .failed { failed with
        place := failed.place.imp (fun unstarted => ?_)
          fun cleanedUp => { cleanedUp with } } bounded
      exact { unstarted with notPending := notPending }
  | gone unregistered covered paid =>
      exact .gone unregistered covered fun pending =>
        (notPending pending).elim

/-- A pending session waits for no verdict that its header handler may set. -/
theorem Flow.Kept.setVerdict (kept : flow.Kept answered)
    (pending : flow.lifecycle = .pending) (verdict : ServiceVerdict)
    (origin : Origin) :
    (flow.setVerdict verdict origin).Kept answered := by
  cases kept with
  | live live rests =>
      refine .live { live with } ?_
      rw [Flow.Rests] at rests ⊢
      dsimp only [Flow.setVerdict, Flow.updateSession]
      cases stage : flow.ctx.stage <;> rw [stage] at rests <;>
        dsimp only at rests ⊢
      case metaData =>
        exact .inl (rests.resolve_right fun unsent => unsent.2.1 pending)
      all_goals exact rests
  | failed failed bounded =>
      refine .failed { failed with
        place := failed.place.imp (fun unstarted => { unstarted with })
          fun cleanedUp => { cleanedUp with } } bounded
  | gone unregistered covered paid =>
      exact .gone unregistered covered paid

theorem Flow.Kept.leaves (kept : result.2.Kept answered)
    (leaves : result.1 ≠ .again ∧ result.1 ≠ .done) :
    (afterHandler result).Kept answered := by
  obtain ⟨lifecycle, notPending, same⟩ := afterHandler_of_leaves leaves
  rw [same]
  exact kept.relocate notPending

theorem enterAsyncMode_kept (kept : flow.Kept answered)
    (pending : flow.lifecycle = .pending) :
    (enterAsyncMode flow).Kept answered := by
  cases isSet : flow.session.isSet with
  | true =>
      rw [enterAsyncMode_of_set isSet]
      have same : flow.SameRest (flow.updateSession fun session =>
          { session with initialAsyncMode := 1 }) := by
        constructor <;> first | rfl | constructor <;> rfl
      exact same.kept kept
  | false =>
      have bounded := kept.bounded
      rw [enterAsyncMode_of_fresh isSet]
      cases kept with
      | live live _ => exact nomatch isSet.symm.trans live.isSet
      | failed failed _ =>
          obtain unstarted | cleanedUp := failed.place
          · exact (unstarted.notPending pending).elim
          · exact nomatch isSet.symm.trans cleanedUp.isSet
      | gone unregistered _ _ =>
          refine .gone unregistered ?_ fun _ => rfl
          exact Nat.le_trans (Nat.le_of_eq (Nat.zero_add _)) bounded

theorem failResult_leaves (failMode : NgxRc)
    (fails : failMode = .ok ∨ failMode = .httpForbidden) :
    failResult failMode ≠ .again ∧ failResult failMode ≠ .done := by
  rcases fails with rfl | rfl <;> decide

theorem failModeVerdict_cases :
    settings.failModeVerdict = .ok ∨
      settings.failModeVerdict = .httpForbidden := by
  rw [Settings.failModeVerdict]
  split
  · exact .inl rfl
  · exact .inr rfl

/-- A new context in its first stage. -/
def AsyncCtx.started : AsyncCtx :=
  { AsyncCtx.blank with
    registered := true
    cleanupTimer := true
    stage := .metaData }

theorem createdCtx_live (fresh : flow.ctx = .started)
    (isSet : flow.session.isSet = true)
    (isInitialized : flow.isInitialized = true)
    (covered : flow.session.remainingMessagesToReply + answered ≤
      flow.enqueued.length) : flow.Live answered := by
  refine
    { registered := ?_, noError := ?_, isSet := isSet
      isInitialized := isInitialized, covered := covered
      bodyCovered := ?_, unread := ?_, ended := ?_, opens := ?_
      metaData := ?_ } <;> rw [fresh]
  · rfl
  · rfl
  · exact Nat.le_trans (Nat.add_le_add_right (Nat.zero_le _) _) covered
  · exact fun _ => ⟨rfl, rfl⟩
  · exact nofun
  · exact fun _ => rfl
  · exact fun _ => rfl

theorem unstarted_kept (leaves : result.1 ≠ .again ∧ result.1 ≠ .done)
    (registered : result.2.ctx.registered = true)
    (isError : result.2.ctx.flowError = true)
    (paid : result.2.session.remainingMessagesToReply = 0)
    (bounded : answered ≤ result.2.enqueued.length)
    (isInitialized : result.2.isInitialized = true)
    (stage : result.2.ctx.stage = .metaData)
    (unsent : result.2.ctx.metaDataSent = false) :
    (afterHandler result).Kept answered := by
  obtain ⟨lifecycle, notPending, same⟩ := afterHandler_of_leaves leaves
  rw [same]
  exact .failed ⟨registered, isError, paid,
    .inl ⟨isInitialized, stage, unsent, notPending⟩⟩ bounded

/-- What the metadata stage does with a new context. -/
theorem continueProcessing_fresh (flow : Flow) (fresh : flow.ctx = .started)
    (isSet : flow.session.isSet = true)
    (isInitialized : flow.isInitialized = true)
    (paid : flow.session.remainingMessagesToReply = 0)
    (bounded : answered ≤ flow.enqueued.length) :
    (∃ rc next, continueProcessing settings env request flow = (rc, next) ∧
        (rc = .declined ∨ rc = .httpForbidden) ∧
        next.ctx.registered = true ∧ next.ctx.flowError = true ∧
        next.session.remainingMessagesToReply = 0 ∧
        answered ≤ next.enqueued.length ∧ next.isInitialized = true ∧
        next.ctx.stage = .metaData ∧ next.ctx.metaDataSent = false) ∨
      continueProcessing settings env request flow =
        (.declined, flow.setVerdict .irrelevant .irrelevant) ∨
      ∃ next, continueProcessing settings env request flow = (.again, next) ∧
        next.Live answered ∧ next.ctx.stage = .metaData ∧
        next.ctx.metaDataSent = true ∧
        0 < next.session.remainingMessagesToReply ∧
        next.lifecycle = flow.lifecycle ∧ next.ctx.reqSeenLast = false := by
  have covered : flow.session.remainingMessagesToReply + answered ≤
      flow.enqueued.length := by simpa [paid] using bounded
  have live := createdCtx_live fresh isSet isInitialized covered
  have noError : ¬flow.ctx.flowError = true := by simp [live.noError]
  have stage : flow.ctx.stage = .metaData := by
    rw [fresh]
    rfl
  have unsent : flow.ctx.metaDataSent = false := by
    rw [fresh]
    rfl
  have notSent : ¬flow.ctx.metaDataSent = true := by simp [unsent]
  obtain ⟨hands, one⟩ :=
    sendMetaDataNonblocking_hands settings env request flow
  have irrelevant : (sendMetaDataNonblocking env request settings flow).1 =
      .inspectionIrrelevant →
        (sendMetaDataNonblocking env request settings flow).2.2 = flow := by
    rw [sendMetaDataNonblocking]
    split
    · exact fun _ => rfl
    · intro isIrrelevant
      exact absurd isIrrelevant
        (sendMessage_ne_irrelevant env (metaDataMessage request) flow)
  have sendsOnly := sendMetaDataNonblocking_sendsOnly env request settings flow
  rw [continueProcessing, continueWith, if_neg noError, stage]
  dsimp only
  rw [if_neg notSent]
  generalize sendMetaDataNonblocking env request settings flow = sent
    at hands one irrelevant sendsOnly ⊢
  obtain ⟨rc, numMessagesSent, next⟩ := sent
  have grows := hands.grows
  dsimp only at irrelevant grows ⊢
  by_cases isIrrelevant : rc = .inspectionIrrelevant
  · rw [if_pos isIrrelevant, irrelevant isIrrelevant]
    exact .inr (.inl rfl)
  · rw [if_neg isIrrelevant]
    by_cases accepted : rc = .ok
    · have counted := hands.counted accepted
      have one := one accepted
      obtain ⟨calls, enqueued, rfl⟩ := sendsOnly
      cases accepted
      cases one
      dsimp only at counted
      rw [afterSender, if_neg (not_not.mpr rfl)]
      refine .inr (.inr ⟨_, rfl, { live with
        covered := ?_
        bodyCovered := Nat.le_trans live.bodyCovered grows }, stage, rfl,
        Nat.succ_pos _, rfl, ?_⟩)
      · have covered := live.covered
        dsimp only [expectReplies, Flow.updateSession, Flow.updateCtx]
        omega
      · dsimp only [expectReplies, Flow.updateSession, Flow.updateCtx]
        rw [fresh]
        rfl
    · obtain ⟨calls, enqueued, rfl⟩ := sendsOnly
      obtain ⟨same, settled⟩ := processCompleteStage_sameVitals
        (Flow.fail settings.failModeVerdict
          (Flow.setFlowError { flow with calls, enqueued }))
      rw [afterSender, if_pos accepted]
      generalize processCompleteStage settings env request
        (Flow.fail settings.failModeVerdict
          (Flow.setFlowError { flow with calls, enqueued })) = result
        at same settled ⊢
      obtain ⟨rc, next⟩ := result
      refine .inl ⟨rc, next, rfl, settled,
        same.registered.trans live.registered, same.flowError,
        same.remaining.trans paid, ?_,
        same.isInitialized.trans isInitialized, same.stage.trans stage,
        same.metaDataSent.trans unsent⟩
      rw [same.enqueued]
      exact Nat.le_trans bounded grows

/-- The first message is counted, unless it cannot be sent or the source needs
no inspection. -/
theorem startInspection_kept (call : HandlerCall) (kept : flow.Kept answered)
    (unregistered : flow.ctx.registered = false)
    (pending : flow.lifecycle = .pending) (isSet : flow.session.isSet = true)
    (isInitialized : flow.isInitialized = true) :
    (afterHandler (startInspection settings env request call
      flow)).Kept answered := by
  have bounded := kept.bounded
  have paid : flow.session.remainingMessagesToReply = 0 := by
    cases kept with
    | live live _ => cases unregistered.symm.trans live.registered
    | failed failed _ => exact failed.paid
    | gone _ _ paid => exact paid pending
  rw [startInspection, startAgentCommunication]
  by_cases corrupted : call.shmemCorruptedAtStart = true
  · obtain ⟨notAgain, notDone⟩ := failResult_leaves _
      failModeVerdict_cases
    rw [if_pos corrupted]
    dsimp only
    rw [if_neg notAgain]
    exact unstarted_kept ⟨notAgain, notDone⟩ rfl rfl paid bounded
      isInitialized rfl rfl
  · have begun := @continueProcessing_fresh _ settings env request
      ((createCtx flow).updateCtx fun ctx => { ctx with stage := .metaData })
      rfl isSet isInitialized paid bounded
    rw [if_neg corrupted]
    dsimp only at begun ⊢
    generalize continueProcessing settings env request
      ((createCtx flow).updateCtx fun ctx =>
        { ctx with stage := .metaData }) = result at begun ⊢
    obtain ⟨rc, next, rfl, settled, registered, isError, paid, bounded,
      isInitialized, stage, unsent⟩ | rfl |
      ⟨next, rfl, live, stage, sent, owes, same, unread⟩ := begun
    · have leaves : rc ≠ .again ∧ rc ≠ .done := by
        rcases settled with rfl | rfl <;> exact ⟨by simp, by simp⟩
      dsimp only
      rw [if_neg leaves.1]
      exact unstarted_kept leaves registered isError paid bounded
        isInitialized stage unsent
    · dsimp only
      rw [if_neg (by simp)]
      refine .live ?_ (.inr ⟨rfl, by rintro ⟨⟩, rfl, by rintro ⟨⟩, paid⟩)
      have covered : flow.session.remainingMessagesToReply + answered ≤
          flow.enqueued.length := by simpa [paid] using bounded
      exact createdCtx_live rfl isSet isInitialized covered
    · dsimp only
      rw [if_pos rfl]
      refine .live { live with ended := ?_ } ?_
      · exact fun seenLast => by cases unread.symm.trans seenLast
      · have isStage : Flow.Rests ((next.updateSession fun session =>
            { session with asyncProcessingNeeded := true }).startDeadlineTimer
              |>.setWaiting true) := by
          rw [Flow.Rests]
          dsimp only [Flow.updateSession, Flow.startDeadlineTimer,
            Flow.setWaiting, Flow.updateCtx]
          rw [stage]
          exact .inl ⟨sent, owes⟩
        exact isStage

include live in
/-- A context that the handler finds goes on as it would with an event. -/
theorem handleLive_kept (rests : flow.Rests)
    (pending : flow.lifecycle = .pending) (fills : request.FillsHeaders)
    (delivers : settings.failModeVerdict = .ok →
      flow.DeliversAfterWait env) :
    (afterHandler (continueProcessing settings env request
      flow)).Kept answered := by
  have started : flow.ctx.stage = .metaData →
      flow.ctx.metaDataSent = true := by
    intro stage
    rw [Flow.Rests, stage] at rests
    exact rests.elim And.left fun unsent => (unsent.2.1 pending).elim
  have delivered : flow.Delivers env request :=
    rests.delivers rfl rfl rfl
  have outcome := continueProcessing_outcome live (rests.enters started) fills
    fun failOpen => ⟨delivered, delivers failOpen⟩
  generalize continueProcessing settings env request flow = result
    at outcome ⊢
  cases outcome with
  | waits kept => exact kept
  | @completes rc next settled live stage paid =>
      have leaves : rc ≠ .again ∧ rc ≠ .done := by
        rcases settled with rfl | rfl <;> exact ⟨nofun, nofun⟩
      obtain ⟨lifecycle, notPending, same⟩ :
          ∃ lifecycle, lifecycle ≠ .pending ∧
            afterHandler (rc, next) = { next with lifecycle } :=
        afterHandler_of_leaves leaves
      rw [same]
      refine .live (live.relocate notPending) ?_
      have isStage : ({ next with lifecycle } : Flow).ctx.stage = .complete :=
        stage
      rw [Flow.Rests, isStage]
      exact fun pending => (notPending pending).elim
  | rejects settled blocking covered unsent =>
      rw [Flow.Rests] at rests
      obtain ⟨stage, unsent⟩ | ⟨stage, unsent⟩ := unsent
      · rw [stage] at rests
        exact nomatch unsent.symm.trans rests.1
      · rw [stage] at rests
        exact nomatch unsent.symm.trans rests.1

theorem handleRegistered_kept (call : HandlerCall) (kept : flow.Kept answered)
    (pending : flow.lifecycle = .pending) (isSet : flow.session.isSet = true)
    (isInitialized : flow.isInitialized = true) (fills : request.FillsHeaders)
    (delivers : settings.failModeVerdict = .ok → flow.ctx.registered = true →
      flow.DeliversAfterWait env) :
    (afterHandler (handleRegistered settings env request call
      flow)).Kept answered := by
  have declines : NgxRc.declined ≠ .again ∧ NgxRc.declined ≠ .done :=
    ⟨by simp, by simp⟩
  rw [handleRegistered]
  split
  · exact (kept.setVerdict pending _ _).leaves
      (failResult_leaves _ failModeVerdict_cases)
  · split
    · rename_i registered
      split
      · exact kept.leaves declines
      · cases kept with
        | live live rests =>
            exact handleLive_kept live rests pending fills
              fun failOpen => delivers failOpen registered
        | failed failed _ =>
            obtain unstarted | cleanedUp := failed.place
            · exact (unstarted.notPending pending).elim
            · cases isInitialized.symm.trans cleanedUp.uninitialized
        | gone unregistered _ _ =>
            cases unregistered.symm.trans registered
    · rename_i missing
      have unregistered := Bool.eq_false_iff.mpr missing
      split
      · exact kept.leaves declines
      · split
        · refine .gone unregistered kept.covered (by rintro ⟨⟩)
        · exact kept.leaves ⟨by simp, by simp⟩
        · split
          · exact startInspection_kept call kept
              unregistered pending isSet isInitialized
          · exact kept.leaves declines

theorem handleSession_kept (call : HandlerCall) (kept : flow.Kept answered)
    (pending : flow.lifecycle = .pending) (isSet : flow.session.isSet = true)
    (isInitialized : call.isAsyncModeEnabled = true →
      flow.isInitialized = true) (fills : request.FillsHeaders)
    (delivers : settings.failModeVerdict = .ok → flow.ctx.registered = true →
      flow.DeliversAfterWait env) :
    (afterHandler (handleSession settings env request call
      flow)).Kept answered := by
  rw [handleSession]
  split
  · exact kept.leaves ⟨by simp, by simp⟩
  · rename_i enabled
    have isInitialized := isInitialized (by simpa using enabled)
    have handled := handleRegistered_kept call kept
      pending isSet isInitialized fills delivers
    have fails := failResult_leaves _ (@failModeVerdict_cases settings)
    split
    · apply (kept.setVerdict pending _ _).leaves
      dsimp only
      split
      · exact ⟨by simp, by simp⟩
      · exact ⟨by simp, by simp⟩
    · split
      · exact (kept.setVerdict pending _ _).leaves fails
      · exact (kept.setVerdict pending _ _).leaves ⟨by simp, by simp⟩
      · exact kept.leaves fails
      · exact handled
      · exact handled

theorem Flow.Kept.unregistered_of_unset (kept : flow.Kept answered)
    (pending : flow.lifecycle = .pending) (unset : flow.session.isSet = false) :
    flow.ctx.registered = false := by
  cases kept with
  | live live _ => exact nomatch unset.symm.trans live.isSet
  | failed failed _ =>
      obtain unstarted | cleanedUp := failed.place
      · exact (unstarted.notPending pending).elim
      · exact nomatch unset.symm.trans cleanedUp.isSet
  | gone unregistered _ _ => exact unregistered

theorem handleRequest_kept (call : HandlerCall) (kept : flow.Kept answered)
    (pending : flow.lifecycle = .pending)
    (isInitialized : call.isAsyncModeEnabled = true →
      flow.isInitialized = true) (fills : request.FillsHeaders)
    (delivers : settings.failModeVerdict = .ok → flow.ctx.registered = true →
      flow.DeliversAfterWait env) :
    (afterHandler (handleRequest settings env request call
      flow)).Kept answered := by
  have declines : NgxRc.declined ≠ .again ∧ NgxRc.declined ≠ .done :=
    ⟨by simp, by simp⟩
  rw [handleRequest]
  split
  · apply kept.leaves
    dsimp only
    split
    · exact declines
    · exact ⟨by simp, by simp⟩
  · split
    · exact kept.leaves declines
    · split
      · exact kept.leaves declines
      · split
        · exact kept.leaves declines
        · have entered := enterAsyncMode_kept kept pending
          cases isSet : flow.session.isSet with
          | true =>
              rw [enterAsyncMode_of_set isSet] at entered ⊢
              exact handleSession_kept call entered
                pending isSet isInitialized fills delivers
          | false =>
              have unregistered := kept.unregistered_of_unset pending isSet
              rw [enterAsyncMode_of_fresh isSet] at entered ⊢
              apply handleSession_kept call entered
                pending rfl isInitialized fills
              intro _ registered
              cases unregistered.symm.trans registered

theorem reqHeaderHandlerAsync_kept (call : HandlerCall)
    (kept : flow.Kept answered) (pending : flow.lifecycle = .pending)
    (fills : request.FillsHeaders)
    (delivers : settings.failModeVerdict = .ok → flow.ctx.registered = true →
      flow.DeliversAfterWait env) :
    (afterHandler (reqHeaderHandlerAsync settings env request call
      flow)).Kept answered := by
  rw [reqHeaderHandlerAsync, initIfEnabled]
  split
  · obtain ⟨initialized, isInitialized⟩ := asyncInit_kept kept
    apply handleRequest_kept call initialized _ (fun _ => isInitialized) fills
    · rw [asyncInit]
      split
      · exact delivers
      · exact fun _ => by rintro ⟨⟩
    · rw [asyncInit]
      split
      · exact pending
      · exact pending
  · rename_i disabled
    exact handleRequest_kept call kept pending
      (fun enabled => (disabled enabled).elim) fills delivers

/-- A change of what is sent and counted only, with a message for each reply
that is waited for. -/
structure Flow.Feeds (before after : Flow) : Prop where
  frame : ∃ calls enqueued remainingMessagesToReply reqSeq reqSeenLast
      endTransactionSent,
    after =
      { before with
        calls
        enqueued
        session := { before.session with remainingMessagesToReply }
        ctx := { before.ctx with reqSeq, reqSeenLast, endTransactionSent } }
  owes : before.session.remainingMessagesToReply ≤
    after.session.remainingMessagesToReply
  counts : before.ctx.reqSeq ≤ after.ctx.reqSeq
  covered : ∀ answered,
    before.session.remainingMessagesToReply + answered ≤
        before.enqueued.length →
      after.session.remainingMessagesToReply + answered ≤
        after.enqueued.length
  bodyCovered : ∀ answered,
    before.ctx.reqSeq + answered ≤ before.enqueued.length →
      after.ctx.reqSeq + answered ≤ after.enqueued.length

theorem Flow.Feeds.trans {first second third : Flow}
    (earlier : first.Feeds second) (later : second.Feeds third) :
    first.Feeds third where
  frame := by
    obtain ⟨_, _, _, _, _, _, rfl⟩ := earlier.frame
    obtain ⟨_, _, _, _, _, _, rfl⟩ := later.frame
    exact ⟨_, _, _, _, _, _, rfl⟩
  owes := Nat.le_trans earlier.owes later.owes
  counts := Nat.le_trans earlier.counts later.counts
  covered := fun answered covered =>
    later.covered answered (earlier.covered answered covered)
  bodyCovered := fun answered covered =>
    later.bodyCovered answered (earlier.bodyCovered answered covered)

theorem Flow.Feeds.of_sendsOnly (sent : before.SendsOnly after)
    (grows : before.enqueued.length ≤ after.enqueued.length) :
    before.Feeds after where
  frame := by
    obtain ⟨calls, enqueued, rfl⟩ := sent
    exact ⟨_, _, _, _, _, _, rfl⟩
  owes := by
    obtain ⟨calls, enqueued, rfl⟩ := sent
    exact Nat.le_refl _
  counts := by
    obtain ⟨calls, enqueued, rfl⟩ := sent
    exact Nat.le_refl _
  covered := by
    obtain ⟨calls, enqueued, rfl⟩ := sent
    exact fun _ covered => Nat.le_trans covered grows
  bodyCovered := by
    obtain ⟨calls, enqueued, rfl⟩ := sent
    exact fun _ covered => Nat.le_trans covered grows

theorem Flow.Feeds.expect {numMessagesSent : Nat}
    (frame : ∃ calls enqueued endTransactionSent,
      after = Flow.updateCtx (fun ctx => { ctx with endTransactionSent })
        { before with calls, enqueued })
    (grows : before.enqueued.length + numMessagesSent ≤
      after.enqueued.length) :
    before.Feeds (expectBodyReplies numMessagesSent after) := by
  obtain ⟨calls, enqueued, endTransactionSent, rfl⟩ := frame
  dsimp only [Flow.updateCtx] at grows
  refine
    { frame := ⟨_, _, _, _, _, _, rfl⟩
      owes := Nat.le_add_right _ _
      counts := Nat.le_add_right _ _
      covered := ?_
      bodyCovered := ?_ }
  · intro answered covered
    dsimp only [expectBodyReplies, expectReplies, Flow.updateSession,
      Flow.updateCtx]
    omega
  · intro answered covered
    dsimp only [expectBodyReplies, expectReplies, Flow.updateSession,
      Flow.updateCtx]
    omega

/-- What the loop over a chain does to the session. -/
structure Flow.FeedsChain (bufs : List NgxBuf) (before : Flow)
    (result : Option BodySender × Flow) : Prop extends
    before.Feeds result.2 where
  seenLast : result.1 = none → result.2.ctx.reqSeenLast = true →
    before.ctx.reqSeenLast = true ∨
      0 < result.2.session.remainingMessagesToReply
  ended : result.1 = none →
    (before.ctx.reqSeenLast = true → before.ctx.endTransactionSent = true) →
      result.2.ctx.reqSeenLast = true →
        result.2.ctx.endTransactionSent = true
  sent : result.1 = none → before.ctx.endTransactionSent = true →
    result.2.ctx.endTransactionSent = true
  unended : (∀ buf ∈ bufs, buf.lastBuf = false) →
    result.2.ctx.endTransactionSent = before.ctx.endTransactionSent

theorem sendEndTransactionNonblocking_marks (flow : Flow)
    (accepted : (sendEndTransactionNonblocking env request flow).1 = .ok) :
    (sendEndTransactionNonblocking env request
      flow).2.2.ctx.endTransactionSent = true := by
  rw [sendEndTransactionNonblocking] at accepted ⊢
  dsimp only at accepted ⊢
  split at accepted
  · rename_i failed
    exact (failed accepted).elim
  · rename_i sent
    rw [if_neg sent]
    rfl

/-- The loop goes on after the end of the transaction, or its sender fails. -/
theorem sendEnd_feeds {bufs : List NgxBuf} (flow : Flow)
    (induction : ∀ other : Flow,
      other.FeedsChain bufs (sendBufs env request bufs other)) :
    let (rc, nmsgs, ended) := sendEndTransactionNonblocking env request flow
    let result :=
      if rc ≠ .ok then (some BodySender.endTransaction, ended)
      else
        sendBufs env request bufs (expectBodyReplies nmsgs
          (ended.updateCtx fun ctx => { ctx with reqSeenLast := true }))
    flow.Feeds result.2 ∧
      (result.1 = none →
        0 < result.2.session.remainingMessagesToReply ∧
          result.2.ctx.endTransactionSent = true) := by
  obtain ⟨hands, one⟩ := sendEndTransactionNonblocking_hands env request flow
  obtain ⟨sent, calls, enqueued, same⟩ :=
    sendEndTransactionNonblocking_frame env request flow
  have marks := @sendEndTransactionNonblocking_marks env request flow
  generalize sendEndTransactionNonblocking env request flow = result
    at hands one same marks ⊢
  obtain ⟨rc, nmsgs, ended⟩ := result
  have grows := hands.grows
  dsimp only at one same marks grows ⊢
  by_cases accepted : rc = .ok
  · rw [if_neg (not_not.mpr accepted)]
    have counted := hands.counted accepted
    have sentOne := one accepted
    have marked := marks accepted
    dsimp only at counted
    have fed : flow.Feeds (expectBodyReplies nmsgs
        (ended.updateCtx fun ctx => { ctx with reqSeenLast := true })) := by
      have expected := Flow.Feeds.expect ⟨calls, enqueued, sent, same⟩ counted
      refine { expected with frame := ?_ }
      rw [same]
      exact ⟨_, _, _, _, _, _, rfl⟩
    have rest := induction (expectBodyReplies nmsgs
      (ended.updateCtx fun ctx => { ctx with reqSeenLast := true }))
    refine ⟨fed.trans rest.toFeeds, ?_⟩
    intro none
    refine ⟨?_, rest.sent none marked⟩
    apply Nat.lt_of_lt_of_le _ rest.owes
    rw [sentOne]
    exact Nat.succ_pos _
  · rw [if_pos accepted]
    have failed : flow.Feeds (expectBodyReplies 0 ended) :=
      Flow.Feeds.expect ⟨calls, enqueued, sent, same⟩ grows
    exact ⟨failed, nofun⟩

theorem sendBufs_feeds (bufs : List NgxBuf) (flow : Flow) :
    flow.FeedsChain bufs (sendBufs env request bufs flow) := by
  induction bufs generalizing flow with
  | nil =>
      refine
        { toFeeds := .of_sendsOnly ⟨_, _, rfl⟩ (Nat.le_refl _)
          seenLast := fun _ => .inl
          ended := fun _ before => before
          sent := fun _ => id
          unended := fun _ => rfl }
  | cons buf bufs induction =>
      have chunkSent :=
        sendSingleBodyChunkNonblocking_sendsOnly env request buf flow
      have chunkHands :=
        sendSingleBodyChunkNonblocking_hands env request buf flow
      rw [sendBufs]
      rcases chunk : sendSingleBodyChunkNonblocking env request buf flow with
        ⟨rc, nmsgs, chunked⟩
      rw [chunk] at chunkSent chunkHands
      dsimp only at chunkSent ⊢
      by_cases accepted : rc = .ok
      · rw [if_neg (not_not.mpr accepted)]
        have chunkFrame : ∃ calls enqueued endTransactionSent,
            chunked = Flow.updateCtx (fun ctx =>
              { ctx with endTransactionSent })
              { flow with calls, enqueued } := by
          obtain ⟨calls, enqueued, rfl⟩ := chunkSent
          exact ⟨calls, enqueued, flow.ctx.endTransactionSent, rfl⟩
        have fed := Flow.Feeds.expect chunkFrame (chunkHands.counted accepted)
        have sameSeen : (expectBodyReplies nmsgs chunked).ctx.reqSeenLast =
            flow.ctx.reqSeenLast := by
          obtain ⟨calls, enqueued, rfl⟩ := chunkSent
          rfl
        have sameSent : (expectBodyReplies nmsgs
            chunked).ctx.endTransactionSent = flow.ctx.endTransactionSent := by
          obtain ⟨calls, enqueued, rfl⟩ := chunkSent
          rfl
        generalize expectBodyReplies nmsgs chunked = counted
          at fed sameSeen sameSent ⊢
        by_cases last : buf.lastBuf = true
        · rw [if_pos last]
          obtain ⟨rest, ends⟩ :=
            sendEnd_feeds counted induction
          refine
            { toFeeds := fed.trans rest
              seenLast := fun none _ => .inr (ends none).1
              ended := fun none _ _ => (ends none).2
              sent := fun none _ => (ends none).2
              unended := ?_ }
          intro notLast
          cases last.symm.trans (notLast buf List.mem_cons_self)
        · rw [if_neg last]
          have rest := induction counted
          refine
            { toFeeds := fed.trans rest.toFeeds
              seenLast := ?_
              ended := ?_
              sent := ?_
              unended := ?_ }
          · rw [← sameSeen]
            exact rest.seenLast
          · rw [← sameSeen, ← sameSent]
            exact rest.ended
          · rw [← sameSent]
            exact rest.sent
          · intro notLast
            rw [← sameSent]
            apply rest.unended
            intro other member
            exact notLast other (List.mem_cons_of_mem _ member)
      · rw [if_pos accepted]
        refine
          { toFeeds := .of_sendsOnly chunkSent chunkHands.grows
            seenLast := by simp
            ended := by simp
            sent := by simp
            unended := ?_ }
        obtain ⟨calls, enqueued, rfl⟩ := chunkSent
        exact fun _ => rfl

/-- After the loop the session waits for replies, for the client or for its
events, as before. -/
theorem Flow.FeedsChain.rests (fed : before.FeedsChain chain (none, after))
    (rests : before.Rests) (notPending : before.lifecycle ≠ .pending)
    (inspects : before.session.verdict = .inspect) : after.Rests := by
  have owes := fed.owes
  have counts := fed.counts
  have seenLast := fed.seenLast rfl
  have sent := fed.sent rfl
  obtain ⟨calls, enqueued, remaining, reqSeq, isLast, isSent, rfl⟩ := fed.frame
  rw [Flow.Rests] at rests ⊢
  dsimp only at owes counts seenLast sent ⊢
  cases stage : before.ctx.stage <;> rw [stage] at rests <;>
    dsimp only at rests ⊢
  case metaData =>
    obtain ⟨started, waits⟩ | unsent := rests
    · exact .inl ⟨started, Nat.lt_of_lt_of_le waits owes⟩
    · exact (unsent.2.2.2.1 inspects).elim
  case headers => exact ⟨rests.1, Nat.lt_of_lt_of_le rests.2 owes⟩
  case endTransaction =>
    exact ⟨sent rests.1, Nat.lt_of_lt_of_le rests.2 owes⟩
  case waitHeaderVerdict =>
    exact ⟨rests.1, fun pending => (notPending pending).elim⟩
  case waitEndVerdict =>
    exact ⟨rests.1, fun pending => (notPending pending).elim⟩
  case complete => exact fun pending => (notPending pending).elim
  case body =>
    intro seen
    obtain seenBefore | waits := seenLast seen
    · obtain waits | counted | released := rests seenBefore
      · exact .inl (Nat.lt_of_lt_of_le waits owes)
      · exact .inr (.inl (Nat.lt_of_lt_of_le counted counts))
      · exact .inr (.inr released)
    · exact .inl waits
  all_goals exact rests

theorem Flow.FeedsChain.kept (fed : before.FeedsChain chain (none, after))
    (live : before.Live answered) (rests : before.Rests)
    (notPending : before.lifecycle ≠ .pending)
    (inspects : before.session.verdict = .inspect)
    (opens : before.ctx.stage.Opens → ∀ buf ∈ chain, buf.lastBuf = false) :
    (after.ctx.reqSeenLast = true →
        (after.startDeadlineTimer.setWaiting true).Kept answered) ∧
      (after.ctx.reqSeenLast ≠ true → after.Kept answered) := by
  have stillRests := fed.rests rests notPending inspects
  have covered := fed.covered answered live.covered
  have bodyCovered := fed.bodyCovered answered live.bodyCovered
  have ended := fed.ended rfl fun seen => (live.ended seen).2
  have stillOpens : before.ctx.stage.Opens →
      after.ctx.endTransactionSent = false := by
    intro stage
    exact (fed.unended (opens stage)).trans (live.opens stage)
  obtain ⟨calls, enqueued, remaining, reqSeq, isLast, isSent, rfl⟩ := fed.frame
  dsimp only at covered bodyCovered ended stillOpens ⊢
  constructor
  · intro seen
    have waits : Flow.Live answered (Flow.setWaiting true
        (Flow.startDeadlineTimer { before with
          calls
          enqueued
          session :=
            { before.session with remainingMessagesToReply := remaining }
          ctx :=
            { before.ctx with
              reqSeq
              reqSeenLast := isLast
              endTransactionSent := isSent } })) :=
      { live with
        covered := covered
        bodyCovered := bodyCovered
        unread := fun pending => (notPending pending).elim
        ended := fun seen => ⟨rfl, ended seen⟩
        opens := stillOpens }
    exact .live waits stillRests
  · intro unseen
    exact .live
      { live with
        covered := covered
        bodyCovered := bodyCovered
        unread := fun pending => (notPending pending).elim
        ended := fun seen => (unseen seen).elim
        opens := stillOpens } stillRests

theorem afterFilter_kept (kept : result.2.Kept answered) :
    (afterFilter result).Kept answered := by
  obtain ⟨rc, flow⟩ := result
  have closed : flow.close.Kept answered := kept.relocate nofun
  cases rc with
  | ok => exact kept
  | again => exact kept
  | done => exact kept
  | declined => exact kept
  | _ => exact closed

include live in
theorem inspectChain_kept {call : FilterCall} (rests : flow.Rests)
    (notPending : flow.lifecycle ≠ .pending)
    (inspects : flow.session.verdict = .inspect)
    (opens : flow.ctx.stage.Opens → ∀ buf ∈ chain, buf.lastBuf = false) :
    (inspectChain env request chain call flow).2.Kept answered := by
  have kept : flow.Kept answered := .live live rests
  rw [inspectChain]
  split
  · exact kept.destroyed rfl notPending rfl rfl
  · have fed := @sendBufs_feeds env request chain (chainAddCopy chain flow)
    generalize sendBufs env request chain (chainAddCopy chain flow) = result
      at fed ⊢
    obtain ⟨failed | failed, after⟩ := result
    · have copied : (chainAddCopy chain flow).Live answered := { live with }
      obtain ⟨waits, goesOn⟩ :=
        fed.kept copied rests notPending inspects opens
      dsimp only
      split
      · rename_i seen
        exact waits seen
      · rename_i unseen
        exact goesOn unseen
    · have covered := fed.covered answered live.covered
      have stays : after.lifecycle ≠ .pending := by
        obtain ⟨_, _, _, _, _, _, same⟩ := fed.frame
        dsimp only at same
        rw [same]
        exact notPending
      have gone {next : Flow} (unregistered : next.ctx.registered = false)
          (lifecycle : next.lifecycle = after.lifecycle)
          (remaining : next.session.remainingMessagesToReply =
            after.session.remainingMessagesToReply)
          (enqueued : next.enqueued = after.enqueued) :
          next.Kept answered := by
        refine .gone unregistered ?_ fun pending => ?_
        · rw [remaining, enqueued]
          exact covered
        · exact (stays (lifecycle.symm.trans pending)).elim
      dsimp only
      rw [passThroughQueue]
      split
      · exact gone rfl rfl rfl rfl
      · cases failed with
        | chunk => exact gone rfl rfl rfl rfl
        | endTransaction => exact gone rfl rfl rfl rfl

include live in
theorem filterInspected_kept {call : FilterCall} (rests : flow.Rests)
    (notPending : flow.lifecycle ≠ .pending)
    (inspects : flow.session.verdict = .inspect)
    (opens : flow.ctx.stage.Opens → ∀ buf ∈ chain, buf.lastBuf = false) :
    (filterInspected env request chain call flow).2.Kept answered := by
  have kept : flow.Kept answered := .live live rests
  rw [filterInspected]
  split
  · exact kept.destroyed rfl notPending rfl rfl
  · split
    · exact .live { live with } rests
    · split
      · exact inspectChain_kept live rests notPending inspects opens
      · exact kept

theorem reqBodyFilterAsync_kept (call : FilterCall) (kept : flow.Kept answered)
    (notPending : flow.lifecycle ≠ .pending)
    (opens : flow.ctx.registered = true → flow.ctx.flowError = false →
      flow.session.verdict = .inspect → flow.ctx.stage.Opens →
        ∀ buf ∈ chain, buf.lastBuf = false) :
    (reqBodyFilterAsync env request chain call flow).2.Kept answered := by
  have forwarded : (flow.forward chain).Kept answered := by
    have same : flow.SameRest (flow.forward chain) := by
      constructor <;> first | rfl | constructor <;> rfl
    exact same.kept kept
  rw [reqBodyFilterAsync]
  split
  · exact forwarded
  · split
    · exact forwarded
    · split
      · exact forwarded
      · split
        · exact forwarded
        · rename_i found
          split
          · split
            · exact kept.destroyed rfl notPending rfl rfl
            · exact kept.destroyed rfl notPending rfl rfl
          · rename_i inspects
            split
            · exact kept.destroyed rfl notPending rfl rfl
            · rename_i noError
              have registered : flow.ctx.registered = true := by
                simpa using found
              cases kept with
              | live live rests =>
                  have begun : (startBodyPhase flow).Live answered :=
                    { live with }
                  exact filterInspected_kept begun rests notPending
                    (not_not.mp inspects)
                    (opens registered live.noError (not_not.mp inspects))
              | failed failed _ => exact (noError failed.isError).elim
              | gone unregistered _ _ => exact (found unregistered).elim

end Stages

end OpenAppsec.Async
