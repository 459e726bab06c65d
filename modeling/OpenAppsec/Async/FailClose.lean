import OpenAppsec.Async.BodyForwarding

/-!
# Failures in fail-close mode

When both fail modes reject, a failure closes the request and lets its context
go.  A closed request whose context is gone, or has parked nothing, forwards
nothing more.
-/

namespace OpenAppsec.Async

open Nginx (NgxBuf)
open Trace

variable {flow before after : Flow} {result : NgxRc × Flow}

/-- The request is closed, and no buffer is parked for it. -/
structure Flow.Sealed (flow : Flow) : Prop where
  closed : flow.lifecycle = .closed
  empty : flow.ctx.registered = true → flow.ctx.queue = []

/-- The request is closed, and its context has left the table. -/
structure Flow.Gone (flow : Flow) : Prop where
  closed : flow.lifecycle = .closed
  unregistered : flow.ctx.registered = false

theorem Flow.Gone.sealed (gone : flow.Gone) : flow.Sealed where
  closed := gone.closed
  empty := fun registered => nomatch gone.unregistered.symm.trans registered

/-- An event forwards and parks nothing, and it brings neither the request nor
its context back. -/
structure Flow.Proceeds (before after : Flow) : Prop where
  queue : after.ctx.queue = before.ctx.queue
  forwarded : after.forwarded = before.forwarded
  registered : after.ctx.registered = true → before.ctx.registered = true
  lifecycle : after.lifecycle = before.lifecycle ∨ after.lifecycle = .closed

namespace Flow.Proceeds

theorem of_same (queue : after.ctx.queue = before.ctx.queue)
    (forwarded : after.forwarded = before.forwarded)
    (registered : after.ctx.registered = before.ctx.registered)
    (lifecycle : after.lifecycle = before.lifecycle) :
    before.Proceeds after where
  queue := queue
  forwarded := forwarded
  registered := fun isRegistered => registered.symm.trans isRegistered
  lifecycle := .inl lifecycle

theorem refl (flow : Flow) : flow.Proceeds flow :=
  .of_same rfl rfl rfl rfl

theorem trans {first second third : Flow} (earlier : first.Proceeds second)
    (later : second.Proceeds third) : first.Proceeds third where
  queue := later.queue.trans earlier.queue
  forwarded := later.forwarded.trans earlier.forwarded
  registered := earlier.registered ∘ later.registered
  lifecycle := by
    obtain same | closed := later.lifecycle
    · rw [same]
      exact earlier.lifecycle
    · exact .inr closed

theorem of_sameRecord (same : before.SameRecord after) :
    before.Proceeds after :=
  .of_same same.queue same.forwarded same.registered same.lifecycle

theorem of_sendsOnly (sent : before.SendsOnly after) :
    before.Proceeds after := by
  obtain ⟨calls, enqueued, rfl⟩ := sent
  exact .of_same rfl rfl rfl rfl

theorem sealed (proceeds : before.Proceeds after) (isSealed : before.Sealed) :
    after.Sealed where
  closed := proceeds.lifecycle.elim (fun same => same.trans isSealed.closed) id
  empty := by
    intro registered
    rw [proceeds.queue]
    exact isSealed.empty (proceeds.registered registered)

end Flow.Proceeds

/-- A result that marks a flow error also rejects, or the context is gone. -/
structure Flow.Continues (before : Flow) (result : NgxRc × Flow) : Prop extends
    before.Proceeds result.2 where
  error : before.ctx.flowError = false → result.2.ctx.flowError = false ∨
    (result.1 = .httpForbidden ∧
      isVerdictDropOrCustom result.2.session.verdict) ∨
    (result.1 = .again ∧ result.2.Gone)

theorem Flow.Continues.of_same (proceeds : before.Proceeds result.2)
    (same : result.2.ctx.flowError = before.ctx.flowError) :
    before.Continues result where
  toProceeds := proceeds
  error := fun noError => .inl (same.trans noError)

/-- An event that marks a flow error lets the context go. -/
structure Flow.Settles (before after : Flow) : Prop extends
    before.Proceeds after where
  error : before.ctx.flowError = false →
    after.ctx.flowError = false ∨ after.Gone

namespace Flow.Settles

theorem of_same (proceeds : before.Proceeds after)
    (same : after.ctx.flowError = before.ctx.flowError) :
    before.Settles after where
  toProceeds := proceeds
  error := fun noError => .inl (same.trans noError)

theorem of_sameRecord (same : before.SameRecord after) : before.Settles after :=
  .of_same (.of_sameRecord same) same.flowError

theorem of_gone (proceeds : before.Proceeds after) (gone : after.Gone) :
    before.Settles after where
  toProceeds := proceeds
  error := fun _ => .inr gone

theorem trans {first second third : Flow} (earlier : first.Settles second)
    (later : second.Settles third) : first.Settles third where
  toProceeds := earlier.toProceeds.trans later.toProceeds
  error := by
    intro noError
    obtain still | gone := earlier.error noError
    · exact later.error still
    · refine .inr ⟨(later.sealed gone.sealed).closed, ?_⟩
      apply Bool.eq_false_iff.mpr
      intro registered
      exact nomatch gone.unregistered.symm.trans (later.registered registered)

end Flow.Settles

section Stages

variable (settings : Settings) (env : Environment) (request : Request)

variable {next : Flow} {input : Input}

variable {settings env request}

theorem finalizeRequestHeadersHook_proceeds (flow : Flow) :
    flow.Proceeds (finalizeRequestHeadersHook settings env request flow) ∧
      (finalizeRequestHeadersHook settings env request flow).ctx.flowError =
        flow.ctx.flowError := by
  obtain ⟨calls, inspected, same | ⟨_, failed⟩⟩ :=
    finalizeRequestHeadersHook_cases settings env request flow
  · rw [same]
    exact ⟨.of_same rfl rfl rfl rfl, rfl⟩
  · rw [failed]
    exact ⟨.of_same rfl rfl rfl rfl, rfl⟩

theorem processCompleteStage_continues (flow : Flow) :
    flow.Continues (processCompleteStage settings env request flow) := by
  have cancelled : flow.Proceeds flow.cancelDeadlineTimer :=
    .of_same rfl rfl rfl rfl
  obtain ⟨finalized, sameError⟩ := finalizeRequestHeadersHook_proceeds
    flow.cancelDeadlineTimer
  have proceeds := cancelled.trans finalized
  rw [processCompleteStage]
  split
  · exact .of_same (proceeds.trans (.of_same rfl rfl rfl rfl)) sameError
  · split
    · exact .of_same (proceeds.trans (.of_same rfl rfl rfl rfl)) sameError
    · split
      · exact .of_same (proceeds.trans (.of_same rfl rfl rfl rfl)) sameError
      · exact .of_same (proceeds.trans (.of_same rfl rfl rfl rfl)) sameError

variable (failClose : settings.failModeVerdict ≠ .ok)

include failClose in
/-- In fail-close mode a failing sender rejects the request. -/
theorem afterSender_of_failed (markSent : AsyncCtx → AsyncCtx)
    {sent : NgxRc × Nat × Flow} (failed : sent.1 ≠ .ok) :
    ∃ next, afterSender settings env request markSent sent =
        (.httpForbidden, next) ∧
      isVerdictDropOrCustom next.session.verdict := by
  obtain ⟨rc, numMessagesSent, flow⟩ := sent
  rw [afterSender, if_pos failed]
  apply processCompleteStage_of_blocking
  exact failVerdict_of_ne failClose

include failClose in
theorem afterSender_continues {markSent : AsyncCtx → AsyncCtx}
    {sent : NgxRc × Nat × Flow}
    (marks : ∀ other : Flow, other.SameRecord (other.updateCtx markSent))
    (proceeds : flow.Proceeds sent.2.2)
    (sameError : sent.2.2.ctx.flowError = flow.ctx.flowError) :
    flow.Continues (afterSender settings env request markSent sent) := by
  by_cases failed : sent.1 ≠ .ok
  · obtain ⟨next, result, blocking⟩ :=
      afterSender_of_failed failClose markSent failed
    have carries : flow.Proceeds
        (afterSender settings env request markSent sent).2 := by
      obtain ⟨rc, numMessagesSent, other⟩ := sent
      have marked : other.Proceeds
          (other.setFlowError.fail settings.failModeVerdict) :=
        .of_same rfl rfl rfl rfl
      have completed := @processCompleteStage_continues settings env request
        (other.setFlowError.fail settings.failModeVerdict)
      rw [afterSender, if_pos failed]
      exact proceeds.trans (marked.trans completed.toProceeds)
    rw [result] at carries ⊢
    exact ⟨carries, fun _ => .inr (.inl ⟨rfl, blocking⟩)⟩
  · obtain ⟨rc, numMessagesSent, other⟩ := sent
    rw [afterSender, if_neg failed]
    have counted : other.Proceeds (expectReplies numMessagesSent other) :=
      .of_same rfl rfl rfl rfl
    have marked := marks (expectReplies numMessagesSent other)
    refine .of_same ?_ (marked.flowError.trans sameError)
    exact proceeds.trans (counted.trans (.of_sameRecord marked))

theorem processBodyStage_continues (flow : Flow) :
    flow.Continues (processBodyStage settings env request flow) := by
  rw [processBodyStage]
  split
  · have moved : flow.Proceeds (flow.transition .complete) :=
      .of_same rfl rfl rfl rfl
    have completed := @processCompleteStage_continues settings env request
      (flow.transition .complete)
    exact ⟨moved.trans completed.toProceeds, completed.error⟩
  · split
    · exact .of_same (.refl flow) rfl
    · dsimp only
      split
      · exact .of_same (.of_same rfl rfl rfl rfl) rfl
      · exact .of_same (.of_same rfl rfl rfl rfl) rfl

theorem sendEndTransactionNonblocking_proceeds (flow : Flow) :
    flow.Proceeds (sendEndTransactionNonblocking env request flow).2.2 ∧
      (sendEndTransactionNonblocking env request flow).2.2.ctx.flowError =
        flow.ctx.flowError := by
  obtain ⟨sent, calls, enqueued, same⟩ :=
    sendEndTransactionNonblocking_frame env request flow
  rw [same]
  exact ⟨.of_same rfl rfl rfl rfl, rfl⟩

theorem Flow.SendsOnly.flowError (sent : before.SendsOnly after) :
    after.ctx.flowError = before.ctx.flowError := by
  obtain ⟨calls, enqueued, rfl⟩ := sent
  rfl

include failClose in
theorem continueWith_continues {handleWait : Flow → NgxRc × Flow}
    (waits : flow.ctx.stage ∈ waitStages → flow.Continues (handleWait flow)) :
    flow.Continues (continueWith settings env request handleWait flow) := by
  rw [continueWith]
  split
  · rename_i isError
    dsimp only
    exact
      { toProceeds := .of_same rfl rfl rfl rfl
        error := fun noError => by cases noError.symm.trans isError }
  · split
    · split
      · exact .of_same (.refl flow) rfl
      · have sent := sendMetaDataNonblocking_sendsOnly env request settings flow
        dsimp only
        split
        · refine .of_same ?_ sent.flowError
          exact Flow.Proceeds.trans (.of_sendsOnly sent)
            (.of_same rfl rfl rfl rfl)
        · apply afterSender_continues failClose
          · intro other
            constructor <;> rfl
          · exact .of_sendsOnly sent
          · exact sent.flowError
    · split
      · exact .of_same (.refl flow) rfl
      · have sent := sendHeadersNonblocking_sendsOnly env request flow
        apply afterSender_continues failClose
        · intro other
          constructor <;> rfl
        · exact .of_sendsOnly sent
        · exact sent.flowError
    · split
      · exact .of_same (.refl flow) rfl
      · obtain ⟨sent, sameError⟩ :=
          sendEndTransactionNonblocking_proceeds flow
        apply afterSender_continues failClose _ sent sameError
        intro other
        constructor <;> rfl
    · exact processBodyStage_continues flow
    · rename_i isStage
      exact waits (by simp [isStage, waitStages])
    · rename_i isStage
      exact waits (by simp [isStage, waitStages])
    · rename_i isStage
      exact waits (by simp [isStage, waitStages])
    · exact processCompleteStage_continues flow
    · exact .of_same (.refl flow) rfl
    · exact .of_same (.refl flow) rfl
    · exact .of_same (.refl flow) rfl
    · exact .of_same (.refl flow) rfl

theorem eventHandlerWith_settles {continueProcessing : Flow → NgxRc × Flow}
    (continues : flow.Continues (continueProcessing flow)) :
    flow.Settles (eventHandlerWith continueProcessing flow) := by
  rw [eventHandlerWith]
  split
  · exact .of_same (.refl flow) rfl
  · rcases result : continueProcessing flow with ⟨rc, next⟩
    rw [result] at continues
    have proceeds := continues.toProceeds
    -- a flow error that does not let the context go has a blocking verdict
    have error (passes : ¬isVerdictDropOrCustom next.session.verdict)
        (noError : flow.ctx.flowError = false) :
        next.ctx.flowError = false ∨ next.Gone := by
      obtain still | rejected | waited := continues.error noError
      · exact .inl still
      · exact absurd rejected.2 passes
      · exact .inr waited.2
    dsimp only at proceeds ⊢
    split
    · rename_i again
      refine ⟨proceeds, ?_⟩
      intro noError
      obtain still | rejected | waited := continues.error noError
      · exact .inl still
      · cases again.symm.trans rejected.1
      · exact .inr waited.2
    · split
      · apply Flow.Settles.of_gone _ ⟨rfl, rfl⟩
        exact ⟨proceeds.queue, proceeds.forwarded, by rintro ⟨⟩, .inr rfl⟩
      · rename_i passes
        have settled : flow.Settles next := ⟨proceeds, error passes⟩
        have destroyed : next.Settles next.destroyCtx :=
          .of_same ⟨rfl, rfl, by rintro ⟨⟩, .inl rfl⟩ rfl
        split
        · split
          · split
            · exact settled.trans (destroyed.trans
                (.of_same (.of_same rfl rfl rfl rfl) rfl))
            · exact settled.trans (destroyed.trans
                (.of_same (.of_same rfl rfl rfl rfl) rfl))
          · split
            · exact settled.trans (.of_same (.of_same rfl rfl rfl rfl) rfl)
            · exact settled.trans (.of_same (.of_same rfl rfl rfl rfl) rfl)
        · exact settled

theorem eventHandlerWith_gone {continueProcessing : Flow → NgxRc × Flow}
    {rc : NgxRc} (registered : flow.ctx.registered = true)
    (continued : continueProcessing flow = (rc, next)) (settled : rc ≠ .again)
    (blocking : isVerdictDropOrCustom next.session.verdict) :
    (eventHandlerWith continueProcessing flow).Gone := by
  have found : ¬flow.ctx.registered = false := by simp [registered]
  rw [eventHandlerWith, if_neg found, continued]
  dsimp only
  rw [if_neg settled, if_pos blocking]
  exact ⟨rfl, rfl⟩

theorem failModeVerdict_ne_again : settings.failModeVerdict ≠ .again := by
  rw [Settings.failModeVerdict]
  split <;> decide

include failClose

/-- A blocking verdict ends a session in its body or at its end. -/
theorem eventHandlerWith_continueWith_gone (handleWait : Flow → NgxRc × Flow)
    (registered : flow.ctx.registered = true)
    (blocking : isVerdictDropOrCustom flow.session.verdict)
    (stage : flow.ctx.stage = .body ∨ flow.ctx.stage = .complete) :
    (eventHandlerWith (continueWith settings env request handleWait)
      flow).Gone := by
  by_cases flowError : flow.ctx.flowError = true
  · have continued : continueWith settings env request handleWait flow =
        (settings.failModeVerdict,
          (flow.fail settings.failModeVerdict).forbid) := by
      rw [continueWith, if_pos flowError, if_neg failClose]
    apply eventHandlerWith_gone registered continued
      failModeVerdict_ne_again
    exact failVerdict_of_ne failClose
  · rcases stage with body | complete
    · have moved : isVerdictDropOrCustom
          (flow.transition .complete).session.verdict := blocking
      obtain ⟨next, completed, stays⟩ :=
        processCompleteStage_of_blocking settings env request moved
      have continued : continueWith settings env request handleWait flow =
          (.httpForbidden, next) := by
        rw [continueWith, if_neg flowError, body]
        dsimp only
        rw [processBodyStage, if_pos blocking, completed]
      exact eventHandlerWith_gone registered continued (by decide) stays
    · obtain ⟨next, completed, stays⟩ :=
        processCompleteStage_of_blocking settings env request blocking
      have continued : continueWith settings env request handleWait flow =
          (.httpForbidden, next) := by
        rw [continueWith, if_neg flowError, complete]
        exact completed
      exact eventHandlerWith_gone registered continued (by decide) stays

variable (holdClose : settings.failModeHoldVerdict ≠ .ok)

include holdClose in
theorem eventHandlerAfterWait_failWait_gone
    (registered : flow.ctx.registered = true) :
    (eventHandlerAfterWait settings env request
      (failWait settings flow)).Gone := by
  apply eventHandlerWith_continueWith_gone failClose
  · exact registered
  · exact failVerdict_of_ne holdClose
  · exact .inl rfl

theorem eventHandlerAfterWait_settles (flow : Flow) :
    flow.Settles (eventHandlerAfterWait settings env request flow) := by
  apply eventHandlerWith_settles
  apply continueWith_continues failClose
  intro _
  exact .of_same (.refl flow) rfl

omit failClose

/-- A wait only says that it goes on, whatever its events did. -/
theorem Flow.Settles.continues (settles : before.Settles after) :
    before.Continues (.again, after) where
  toProceeds := settles.toProceeds
  error := by
    intro noError
    obtain still | gone := settles.error noError
    · exact .inl still
    · exact .inr (.inr ⟨rfl, gone⟩)

include failClose

theorem handleWaitVerdict_continues (flow : Flow) :
    flow.Continues (handleWaitVerdict settings env request flow) := by
  have failed (other : Flow) : other.Settles
      (eventHandlerAfterWait settings env request
        (failWait settings other)) := by
    have waited : other.Settles (failWait settings other) :=
      .of_same (.of_same rfl rfl rfl rfl) rfl
    exact waited.trans
      (eventHandlerAfterWait_settles failClose _)
  rw [handleWaitVerdict]
  split
  · exact (failed flow).continues
  · split
    · have moved : flow.Settles (transitionAfterWait flow) := by
        rw [transitionAfterWait]
        repeat' split
        all_goals exact .of_same (.of_same rfl rfl rfl rfl) rfl
      exact (moved.trans (eventHandlerAfterWait_settles failClose _)).continues
    · have sent := waitSignalSender_sendsOnly env request flow
      have waited : flow.Settles (waitSignalSender env request flow).2.2 :=
        .of_same (.of_sendsOnly sent) sent.flowError
      dsimp only
      split
      · exact (waited.trans (failed _)).continues
      · have timed : (waitSignalSender env request flow).2.2.Settles
            (waitSignalSender env request flow).2.2.addAgentTimer :=
          .of_same (.of_same rfl rfl rfl rfl) rfl
        exact (waited.trans timed).continues

theorem continueProcessing_continues (flow : Flow) :
    flow.Continues (continueProcessing settings env request flow) := by
  apply continueWith_continues failClose
  intro _
  exact handleWaitVerdict_continues failClose flow

theorem eventHandler_settles (flow : Flow) :
    flow.Settles (eventHandler settings env request flow) := by
  apply eventHandlerWith_settles
  exact continueProcessing_continues failClose flow

omit failClose

theorem applyVerdictForStage_settles (flow : Flow) :
    flow.Settles (applyVerdictForStage request flow).2 :=
  .of_sameRecord (applyVerdictForStage_sameRecord request flow)

theorem noteVerdict_settles (reply : VerdictReply) (flow : Flow) :
    flow.Settles (noteVerdict reply flow) := by
  have set : flow.Settles (flow.setVerdict reply.verdict .service) :=
    .of_same (.of_same rfl rfl rfl rfl) rfl
  exact set.trans
    (.of_sameRecord (noteVerdict_sameStage reply flow).toSameRecord)

include failClose

theorem finishReply_settles (flow : Flow) :
    flow.Settles (finishReply settings env request flow) := by
  rw [finishReply]
  split
  · have applied := @applyVerdictForStage_settles request flow
    dsimp only
    split
    · exact applied.trans
        (eventHandler_settles failClose _)
    · exact applied
  · exact .of_same (.refl flow) rfl

theorem drainReply_settles {reply : VerdictReply}
    (drained : drainReply settings env request reply flow = some next) :
    flow.Settles next := by
  rw [drainReply] at drained
  split at drained
  · cases drained
    exact .of_same (.refl flow) rfl
  · split at drained
    · cases drained
      exact .of_same (.refl flow) rfl
    · have noted := noteVerdict_settles reply flow
      obtain ⟨_, rfl⟩ | ⟨_, taken, isTaken, rfl⟩ :=
        applyVerdict_cases settings env request drained
      · exact noted
      · have took : (noteVerdict reply flow).Settles taken :=
          .of_sameRecord (takeReply_sameStage isTaken).toSameRecord
        exact noted.trans (took.trans
          (finishReply_settles failClose taken))

include holdClose in
theorem deadlineHandler_gone (registered : flow.ctx.registered = true)
    (incomplete : flow.ctx.stage ≠ .complete)
    (noError : flow.ctx.flowError = false) :
    (deadlineHandler settings env request flow).Gone := by
  have rejects : flow.deadlineFailMode settings ≠ .ok := by
    rw [Flow.deadlineFailMode.eq_def]
    split <;> assumption
  have found : ¬flow.ctx.registered = false := by simp [registered]
  rw [deadlineHandler, if_neg found, if_neg incomplete, noError,
    if_neg Bool.false_ne_true]
  apply eventHandlerWith_continueWith_gone failClose
  · exact registered
  · exact failVerdict_of_ne rejects
  · exact .inr rfl

theorem deadlineHandler_settles (flow : Flow) :
    flow.Settles (deadlineHandler settings env request flow) := by
  rw [deadlineHandler]
  split
  · exact .of_same (.refl flow) rfl
  · split
    · exact .of_same (.refl flow) rfl
    · split
      · exact .of_same (.refl flow) rfl
      · have ended : flow.Settles ((endInspection (flow.fail
            (flow.deadlineFailMode settings))).transition .complete) :=
          .of_same (.of_same rfl rfl rfl rfl) rfl
        exact ended.trans
          (eventHandler_settles failClose _)

theorem contextCleanupHandler_gone (registered : flow.ctx.registered = true)
    (incomplete : flow.ctx.stage ≠ .complete) :
    (contextCleanupHandler settings env request flow).Gone := by
  have found : ¬flow.ctx.registered = false := by simp [registered]
  rw [contextCleanupHandler, if_neg found, if_neg incomplete]
  apply eventHandlerWith_continueWith_gone failClose
  · exact registered
  · exact failVerdict_of_ne failClose
  · exact .inr rfl

theorem contextCleanupHandler_settles (flow : Flow) :
    flow.Settles (contextCleanupHandler settings env request flow) := by
  by_cases ignored : flow.ctx.registered = false ∨ flow.ctx.stage = .complete
  · have same : contextCleanupHandler settings env request flow = flow := by
      rw [contextCleanupHandler]
      rcases ignored with unregistered | complete
      · rw [if_pos unregistered]
      · rw [if_pos complete, ite_self]
    rw [same]
    exact .of_same (.refl flow) rfl
  · rw [not_or, Bool.not_eq_false] at ignored
    have gone := @contextCleanupHandler_gone _ settings env request failClose
      ignored.1 ignored.2
    apply Flow.Settles.of_gone _ gone
    have found : ¬flow.ctx.registered = false := by simp [ignored.1]
    rw [contextCleanupHandler, if_neg found, if_neg ignored.2]
    have ended : flow.Proceeds ((endInspection (flow.setFlowError.fail
        settings.failModeVerdict)).transition .complete) :=
      .of_same rfl rfl rfl rfl
    exact ended.trans
      (eventHandler_settles failClose _).toProceeds

theorem cleanupImpl_gone (registered : flow.ctx.registered = true) :
    flow.Proceeds (cleanupImpl settings env request flow) ∧
      (cleanupImpl settings env request flow).Gone := by
  have found : ¬flow.ctx.registered = false := by simp [registered]
  have blocking := failVerdict_of_ne failClose
  have handled (prepared : Flow) (proceeds : flow.Proceeds prepared)
      (still : prepared.ctx.registered = true)
      (verdict : isVerdictDropOrCustom prepared.session.verdict)
      (stage : prepared.ctx.stage = .body ∨ prepared.ctx.stage = .complete) :
      let cleaned := (eventHandler settings env request prepared).setFlowError
      flow.Proceeds { cleaned with isInitialized := false } ∧
        Flow.Gone { cleaned with isInitialized := false } := by
    have settles :=
      @eventHandler_settles settings env request failClose prepared
    have gone := @eventHandlerWith_continueWith_gone _ settings env request
      failClose (handleWaitVerdict settings env request) still verdict stage
    have marked : (eventHandler settings env request prepared).Proceeds
        { (eventHandler settings env request prepared).setFlowError with
          isInitialized := false } :=
      .of_same rfl rfl rfl rfl
    exact ⟨proceeds.trans (settles.toProceeds.trans marked),
      gone.closed, gone.unregistered⟩
  rw [cleanupImpl, if_neg found]
  dsimp only
  generalize isEnded : (clearReqSeq (endInspection (flow.fail
    settings.failModeVerdict))).cancelTimers = ended
  have proceeds : flow.Proceeds ended := by
    rw [← isEnded]
    exact .of_same rfl rfl rfl rfl
  have still : ended.ctx.registered = true := by
    rw [← isEnded]
    exact registered
  have rejects : isVerdictDropOrCustom ended.session.verdict := by
    rw [← isEnded]
    exact blocking
  by_cases waits : ended.ctx.stage = .waitBodyVerdict
  · have isBody : ¬(ended.transition .body).ctx.stage ≠ .body :=
      not_not.mpr rfl
    have moved : ended.Proceeds (ended.transition .body) :=
      .of_same rfl rfl rfl rfl
    rw [if_pos waits, if_neg isBody]
    exact handled _ (proceeds.trans moved) still rejects (.inl rfl)
  · rw [if_neg waits]
    split
    · have completed : ended.Proceeds
          (ended.setFlowError.transition .complete) :=
        .of_same rfl rfl rfl rfl
      exact handled _ (proceeds.trans completed) still rejects (.inr rfl)
    · rename_i isBody
      exact handled _ proceeds still rejects (.inl (not_not.mp isBody))

omit failClose

/-- A result of the header handler for a request whose body is unread. -/
structure Flow.Opens (flow : Flow) (result : NgxRc × Flow) : Prop where
  queue : result.2.ctx.queue = []
  forwarded : result.2.forwarded = flow.forwarded
  error : result.2.ctx.flowError = true →
    result.1 = .httpForbidden ∨ (result.1 ≠ .declined ∧ result.2.Gone)

/-- Nothing is parked for a session without a flow error. -/
structure Flow.Unread (flow : Flow) : Prop where
  queue : flow.ctx.queue = []
  noError : flow.ctx.flowError = false

theorem Flow.Unread.opens (unread : flow.Unread) (rc : NgxRc)
    (queue : after.ctx.queue = flow.ctx.queue)
    (forwarded : after.forwarded = flow.forwarded)
    (flowError : after.ctx.flowError = flow.ctx.flowError) :
    flow.Opens (rc, after) where
  queue := queue.trans unread.queue
  forwarded := forwarded
  error := fun isError =>
    nomatch (flowError.trans unread.noError).symm.trans isError

theorem Flow.Unread.continues (unread : flow.Unread)
    (continues : flow.Continues result) :
    flow.Opens result where
  queue := continues.queue.trans unread.queue
  forwarded := continues.forwarded
  error := by
    intro isError
    obtain noError | rejected | ⟨again, gone⟩ :=
      continues.error unread.noError
    · exact nomatch noError.symm.trans isError
    · exact .inl rejected.1
    · exact .inr ⟨again ▸ nofun, gone⟩

include failClose

theorem failResult_of_failClose :
    failResult settings.failModeVerdict = .httpForbidden := by
  rw [failResult, if_neg failClose]
  rw [Settings.failModeVerdict] at failClose ⊢
  split
  · rename_i isOpen
    rw [if_pos isOpen] at failClose
    exact absurd rfl failClose
  · rfl

theorem startInspection_opens (call : HandlerCall) (flow : Flow) :
    flow.Opens (startInspection settings env request call flow) := by
  have created : ((createCtx flow).updateCtx fun ctx =>
      { ctx with stage := .metaData }).Unread := ⟨rfl, rfl⟩
  have started : flow.Opens (startAgentCommunication settings env request call
      (createCtx flow)) := by
    rw [startAgentCommunication]
    split
    · rw [failResult_of_failClose failClose]
      exact ⟨rfl, rfl, fun _ => .inl rfl⟩
    · have opens := created.continues
        (@continueProcessing_continues settings env request failClose _)
      exact ⟨opens.queue, opens.forwarded, opens.error⟩
  rw [startInspection]
  rcases result : startAgentCommunication settings env request call
    (createCtx flow) with ⟨finalRes, next⟩
  rw [result] at started
  dsimp only
  split
  · rename_i again
    refine ⟨started.queue, started.forwarded, ?_⟩
    intro isError
    obtain rejected | ⟨_, gone⟩ := started.error isError
    · cases again.symm.trans rejected
    · exact .inr ⟨by simp, gone.closed, gone.unregistered⟩
  · refine ⟨started.queue, started.forwarded, ?_⟩
    intro isError
    obtain rejected | ⟨passes, gone⟩ := started.error isError
    · exact .inl rejected
    · exact .inr ⟨passes, gone.closed, gone.unregistered⟩

theorem handleRegistered_opens (call : HandlerCall) (unread : flow.Unread) :
    flow.Opens (handleRegistered settings env request call flow) := by
  rw [handleRegistered]
  split
  · exact unread.opens _ rfl rfl rfl
  · split
    · split
      · exact unread.opens _ rfl rfl rfl
      · exact unread.continues
          (continueProcessing_continues failClose flow)
    · split
      · exact unread.opens _ rfl rfl rfl
      · split
        · exact unread.opens _ rfl rfl rfl
        · exact unread.opens _ rfl rfl rfl
        · split
          · exact startInspection_opens failClose call flow
          · exact unread.opens _ rfl rfl rfl

omit failClose

theorem initIfEnabled_unread (call : HandlerCall) (unread : flow.Unread) :
    (initIfEnabled call flow).Unread ∧
      (initIfEnabled call flow).forwarded = flow.forwarded := by
  rw [initIfEnabled]
  split
  · rw [asyncInit]
    split
    · exact ⟨unread, rfl⟩
    · exact ⟨⟨unread.queue, unread.noError⟩, rfl⟩
  · exact ⟨unread, rfl⟩

include failClose in
theorem reqHeaderHandlerAsync_opens (call : HandlerCall)
    (unread : flow.Unread) :
    flow.Opens (reqHeaderHandlerAsync settings env request call flow) := by
  obtain ⟨initialized, forwarded⟩ := initIfEnabled_unread call unread
  have entered : (enterAsyncMode (initIfEnabled call flow)).Unread :=
    ⟨initialized.queue, initialized.noError⟩
  have opens {result : NgxRc × Flow}
      (opens : (initIfEnabled call flow).Opens result) : flow.Opens result :=
    ⟨opens.queue, opens.forwarded.trans forwarded, opens.error⟩
  rw [reqHeaderHandlerAsync]
  apply opens
  rw [handleRequest]
  split
  · exact initialized.opens _ rfl rfl rfl
  · split
    · exact initialized.opens _ rfl rfl rfl
    · split
      · exact initialized.opens _ rfl rfl rfl
      · split
        · exact initialized.opens _ rfl rfl rfl
        · have handled : (enterAsyncMode (initIfEnabled call flow)).Opens
              (handleSession settings env request call
                (enterAsyncMode (initIfEnabled call flow))) := by
            rw [handleSession]
            split
            · exact entered.opens _ rfl rfl rfl
            · split
              · exact entered.opens _ rfl rfl rfl
              · split
                · exact entered.opens _ rfl rfl rfl
                · exact entered.opens _ rfl rfl rfl
                · exact entered.opens _ rfl rfl rfl
                · exact handleRegistered_opens failClose call entered
                · exact handleRegistered_opens failClose call entered
          exact ⟨handled.queue, handled.forwarded, handled.error⟩

theorem sendBufs_flowError (bufs : List NgxBuf) (flow : Flow) :
    (sendBufs env request bufs flow).2.ctx.flowError = flow.ctx.flowError ∧
      (sendBufs env request bufs flow).2.lifecycle = flow.lifecycle := by
  obtain ⟨enqueued, same⟩ := sendBufs_keeps env request bufs flow
  exact ⟨same.flowError, same.lifecycle⟩

/-- The filter marks no flow error, and nginx closes the request after it. -/
theorem reqBodyFilterAsync_keeps (chain : List NgxBuf) (call : FilterCall)
    (flow : Flow) :
    (reqBodyFilterAsync env request chain call flow).2.ctx.flowError =
        flow.ctx.flowError ∧
      (reqBodyFilterAsync env request chain call flow).2.lifecycle =
        flow.lifecycle := by
  have inspected (flow : Flow) :
      (inspectChain env request chain call flow).2.ctx.flowError =
          flow.ctx.flowError ∧
        (inspectChain env request chain call flow).2.lifecycle =
          flow.lifecycle := by
    have sent := @sendBufs_flowError env request chain
      (chainAddCopy chain flow)
    rw [inspectChain]
    split
    · exact ⟨rfl, rfl⟩
    · rcases result : sendBufs env request chain (chainAddCopy chain flow)
        with ⟨failed, next⟩
      rw [result] at sent
      cases failed with
      | none =>
          dsimp only
          split
          · exact sent
          · exact sent
      | some failed =>
          dsimp only
          rw [passThroughQueue]
          split
          · exact sent
          · cases failed
            · exact sent
            · exact sent
  by_cases tests : call.TestsVerdict flow
  · rw [reqBodyFilterAsync_of_tested tests]
    split
    · split
      · exact ⟨rfl, rfl⟩
      · exact ⟨rfl, rfl⟩
    · split
      · exact ⟨rfl, rfl⟩
      · rw [filterInspected]
        split
        · exact ⟨rfl, rfl⟩
        · split
          · exact ⟨rfl, rfl⟩
          · split
            · exact inspected (startBodyPhase flow)
            · exact ⟨rfl, rfl⟩
  · rw [reqBodyFilterAsync_of_untested tests]
    exact ⟨rfl, rfl⟩

/-- A resume event forwards what is parked, if the context is in the table. -/
theorem postedResume_keeps (downstream : NgxRc) (flow : Flow) :
    let after := postedResume downstream flow
    (after.ctx.queue = flow.ctx.queue ∨ after.ctx.queue = []) ∧
      (after.ctx.registered = true → flow.ctx.registered = true) ∧
      after.lifecycle = flow.lifecycle ∧
      after.ctx.flowError = flow.ctx.flowError ∧
      (flow.ctx.registered = false ∨ flow.ctx.queue = [] →
        after.forwarded = flow.forwarded) := by
  dsimp only
  rw [postedResume]
  split
  · exact ⟨.inl rfl, id, rfl, rfl, fun _ => rfl⟩
  · rename_i found
    rw [not_or, Bool.not_eq_false, Bool.not_eq_false] at found
    have parks (quiet : flow.ctx.registered = false ∨ flow.ctx.queue = []) :
        flow.ctx.queue = [] :=
      quiet.resolve_left (by simp [found.2])
    dsimp only
    split
    · rename_i busy
      refine ⟨.inl ?_, ?_, ?_, ?_, fun quiet => absurd (parks quiet) busy.1⟩
      all_goals simp [busy.1, Flow.forward, Flow.updateCtx]
    · have same (quiet : flow.ctx.registered = false ∨ flow.ctx.queue = []) :
          (flow.forward flow.ctx.queue).forwarded = flow.forwarded := by
        simp [Flow.forward, parks quiet]
      rw [flow.queueFree_flushed]
      split
      · exact ⟨.inr rfl, by rintro ⟨⟩, rfl, rfl, same⟩
      · exact ⟨.inr rfl, id, rfl, rfl, same⟩

/-- A request that is not admitted has parked nothing, and one with a flow
error is closed. -/
structure Flow.Guarded (flow : Flow) : Prop where
  unread : flow.lifecycle = .pending → flow.ctx.queue = []
  failed : flow.ctx.flowError = true → flow.Sealed

theorem Flow.Sealed.guarded (isSealed : flow.Sealed) :
    flow.Guarded where
  unread := fun pending => nomatch isSealed.closed.symm.trans pending
  failed := fun _ => isSealed

theorem Flow.Guarded.noError (guarded : flow.Guarded)
    (isOpen : flow.lifecycle ≠ .closed) : flow.ctx.flowError = false := by
  apply Bool.eq_false_iff.mpr
  intro isError
  exact isOpen (guarded.failed isError).closed

theorem Flow.Guarded.settle (guarded : before.Guarded)
    (settles : before.Settles after) : after.Guarded where
  unread := by
    intro pending
    rw [settles.queue]
    apply guarded.unread
    obtain same | closed := settles.lifecycle
    · exact same.symm.trans pending
    · exact nomatch closed.symm.trans pending
  failed := by
    intro isError
    cases wasError : before.ctx.flowError with
    | true => exact settles.sealed (guarded.failed wasError)
    | false =>
        obtain noError | gone := settles.error wasError
        · exact nomatch noError.symm.trans isError
        · exact gone.sealed

/-- The steps of the events of a context, of the cleanup and of the table. -/
def Input.IsEvent : Input → Prop
  | .headerHandler _ | .bodyFilter _ _ | .resumeEvent _ _ => False
  | _ => True

include failClose in
theorem step_settles
    (stepped : step settings env request flow input = some next)
    (isEvent : input.IsEvent) : flow.Settles next := by
  cases input with
  | headerHandler call => exact isEvent.elim
  | bodyFilter chain call => exact isEvent.elim
  | resumeEvent posted downstream => exact isEvent.elim
  | reply reply =>
      exact drainReply_settles failClose stepped
  | agentEvent =>
      obtain ⟨_, same⟩ := Option.ite_none_right_eq_some.mp stepped
      cases same
      have cancelled : flow.Settles flow.cancelAgentTimer :=
        .of_same (.of_same rfl rfl rfl rfl) rfl
      exact cancelled.trans
        (eventHandler_settles failClose _)
  | deadlineEvent =>
      obtain ⟨_, same⟩ := Option.ite_none_right_eq_some.mp stepped
      cases same
      have cancelled : flow.Settles flow.cancelDeadlineTimer :=
        .of_same (.of_same rfl rfl rfl rfl) rfl
      exact cancelled.trans
        (deadlineHandler_settles failClose _)
  | cleanupEvent =>
      obtain ⟨_, same⟩ := Option.ite_none_right_eq_some.mp stepped
      cases same
      have expired : flow.Settles
          (flow.updateCtx fun ctx => { ctx with cleanupTimer := false }) :=
        .of_same (.of_same rfl rfl rfl rfl) rfl
      exact expired.trans
        (contextCleanupHandler_settles failClose _)
  | cleanup =>
      cases stepped
      cases registered : flow.ctx.registered with
      | true =>
          obtain ⟨proceeds, gone⟩ :=
            cleanupImpl_gone failClose registered
          exact .of_gone proceeds gone
      | false =>
          rw [cleanupImpl, if_pos registered]
          exact .of_same (.of_same rfl rfl rfl rfl) rfl
  | asyncInit =>
      cases stepped
      rw [asyncInit]
      split
      · exact .of_same (.refl flow) rfl
      · exact .of_same ⟨rfl, rfl, by rintro ⟨⟩, .inl rfl⟩ rfl
  | requestFreed =>
      cases stepped
      exact .of_gone ⟨rfl, rfl, by rintro ⟨⟩, .inr rfl⟩ ⟨rfl, rfl⟩

theorem afterHandler_guarded (opens : flow.Opens result) :
    (afterHandler result).Guarded ∧
      (afterHandler result).forwarded = flow.forwarded := by
  have closed : result.2.close.Sealed := ⟨rfl, fun _ => opens.queue⟩
  have kept (passes : result.1 ≠ .httpForbidden) : result.2.Guarded := by
    refine ⟨fun _ => opens.queue, ?_⟩
    intro isError
    exact ((opens.error isError).resolve_left passes).2.sealed
  obtain ⟨rc, next⟩ := result
  rw [afterHandler.eq_def]
  split
  · rename_i other same
    cases same
    refine ⟨⟨by simp, ?_⟩, opens.forwarded⟩
    intro isError
    obtain rejected | ⟨passes, _⟩ := opens.error isError
    · cases rejected
    · exact absurd rfl passes
  · rename_i other same
    cases same
    exact ⟨kept (by simp), opens.forwarded⟩
  · rename_i other same
    cases same
    exact ⟨kept (by simp), opens.forwarded⟩
  · rename_i other same
    cases same
    exact ⟨closed.guarded, opens.forwarded⟩

theorem afterFilter_lifecycle (result : NgxRc × Flow) :
    (afterFilter result).ctx = result.2.ctx ∧
      ((afterFilter result).lifecycle = result.2.lifecycle ∨
        (afterFilter result).lifecycle = .closed) := by
  rw [afterFilter.eq_def]
  split
  · exact ⟨rfl, .inl rfl⟩
  · exact ⟨rfl, .inl rfl⟩
  · exact ⟨rfl, .inl rfl⟩
  · exact ⟨rfl, .inl rfl⟩
  · exact ⟨rfl, .inr rfl⟩

/-- A resume event leaves the request as it is. -/
theorem step_resumeEvent {posted : Bool} {downstream : NgxRc}
    (stepped : step settings env request flow (.resumeEvent posted downstream) =
      some next) :
    (next.ctx.queue = flow.ctx.queue ∨ next.ctx.queue = []) ∧
      (next.ctx.registered = true → flow.ctx.registered = true) ∧
      next.lifecycle = flow.lifecycle ∧
      next.ctx.flowError = flow.ctx.flowError ∧
      (flow.ctx.registered = false ∨ flow.ctx.queue = [] →
        next.forwarded = flow.forwarded) := by
  cases posted with
  | true =>
      obtain ⟨_, same⟩ := Option.ite_none_right_eq_some.mp stepped
      cases same
      exact postedResume_keeps downstream
        (flow.updateCtx fun ctx => { ctx with resumePosted := false })
  | false =>
      obtain ⟨_, same⟩ := Option.ite_none_right_eq_some.mp stepped
      cases same
      exact postedResume_keeps downstream
        (flow.updateCtx fun ctx => { ctx with resumeTimer := false })

include failClose in
theorem step_guarded (guarded : flow.Guarded)
    (stepped : step settings env request flow input = some next) :
    next.Guarded := by
  cases input with
  | headerHandler call =>
      obtain ⟨pending, same⟩ := Option.ite_none_right_eq_some.mp stepped
      cases same
      have noError := guarded.noError (by rw [pending]; decide)
      have opens := @reqHeaderHandlerAsync_opens _ settings env request failClose
        call ⟨guarded.unread pending, noError⟩
      exact (afterHandler_guarded opens).1
  | bodyFilter chain call =>
      obtain ⟨⟨admitted, _⟩, same⟩ := Option.ite_none_right_eq_some.mp stepped
      cases same
      have noError := guarded.noError (by rw [admitted]; decide)
      obtain ⟨sameError, sameLifecycle⟩ :=
        reqBodyFilterAsync_keeps chain call (flow.receive chain)
      obtain ⟨sameCtx, lifecycle⟩ := afterFilter_lifecycle
        (reqBodyFilterAsync env request chain call (flow.receive chain))
      constructor
      · intro pending
        obtain same | closed := lifecycle
        · have admits := (same.trans sameLifecycle).trans admitted
          exact nomatch admits.symm.trans pending
        · exact nomatch closed.symm.trans pending
      · intro isError
        rw [sameCtx, sameError] at isError
        exact nomatch noError.symm.trans isError
  | resumeEvent posted downstream =>
      obtain ⟨queue, registered, lifecycle, flowError, _⟩ :=
        step_resumeEvent stepped
      constructor
      · intro pending
        obtain same | empty := queue
        · rw [same]
          exact guarded.unread (lifecycle.symm.trans pending)
        · exact empty
      · intro isError
        have isSealed := guarded.failed (flowError.symm.trans isError)
        refine ⟨lifecycle.trans isSealed.closed, ?_⟩
        intro isRegistered
        obtain same | empty := queue
        · rw [same]
          exact isSealed.empty (registered isRegistered)
        · exact empty
  | reply _ | agentEvent | deadlineEvent | cleanupEvent | cleanup | asyncInit
  | requestFreed =>
      exact guarded.settle
        (step_settles failClose stepped trivial)

include failClose in
/-- Nothing happens to a sealed request any more. -/
theorem step_sealed (isSealed : flow.Sealed)
    (stepped : step settings env request flow input = some next) :
    next.Sealed ∧ next.forwarded = flow.forwarded ∧
      ∀ call, input ≠ .headerHandler call := by
  have closed := isSealed.closed
  cases input with
  | headerHandler call =>
      have pending := (Option.ite_none_right_eq_some.mp stepped).1
      exact nomatch closed.symm.trans pending
  | bodyFilter chain call =>
      have admitted := (Option.ite_none_right_eq_some.mp stepped).1.1
      exact nomatch closed.symm.trans admitted
  | resumeEvent posted downstream =>
      obtain ⟨queue, registered, lifecycle, _, quiet⟩ :=
        step_resumeEvent stepped
      refine ⟨⟨lifecycle.trans closed, ?_⟩, quiet ?_, by rintro _ ⟨⟩⟩
      · intro isRegistered
        obtain same | empty := queue
        · rw [same]
          exact isSealed.empty (registered isRegistered)
        · exact empty
      · cases isRegistered : flow.ctx.registered with
        | true => exact .inr (isSealed.empty isRegistered)
        | false => exact .inl rfl
  | reply _ | agentEvent | deadlineEvent | cleanupEvent | cleanup | asyncInit
  | requestFreed =>
      have settles :=
        step_settles failClose stepped trivial
      exact ⟨settles.sealed isSealed, settles.forwarded, by rintro _ ⟨⟩⟩

variable (settings env request)

/-- The sender of the stage fails. -/
def Flow.SendFails (flow : Flow) : Prop :=
  flow.ctx.flowError = false ∧
    ((flow.ctx.stage = .metaData ∧ flow.ctx.metaDataSent = false ∧
        (sendMetaDataNonblocking env request settings flow).1 ≠ .ok ∧
        (sendMetaDataNonblocking env request settings flow).1 ≠
          .inspectionIrrelevant) ∨
      (flow.ctx.stage = .headers ∧ flow.ctx.headersSent = false ∧
        (sendHeadersNonblocking env request flow).1 ≠ .ok) ∨
      (flow.ctx.stage = .endTransaction ∧
        flow.ctx.endTransactionSent = false ∧
        (sendEndTransactionNonblocking env request flow).1 ≠ .ok))

instance (flow : Flow) : Decidable (flow.SendFails settings env request) :=
  inferInstanceAs (Decidable (_ ∧ (_ ∨ _ ∨ _)))

/-- A send fails while the stage of the session is processed: its sender, the
question about a delayed verdict, or the sender of the stage after a wait. -/
def Flow.ProcessingFails (flow : Flow) : Prop :=
  (flow.ctx.stage ∉ waitStages ∧ flow.SendFails settings env request) ∨
    (flow.ctx.stage ∈ waitStages ∧ flow.ctx.flowError = false ∧
      ((flow.session.verdict = .delayed ∧
          (waitSignalSender env request flow).1 ≠ .ok ∧
          (waitSignalSender env request flow).1 ≠ .httpRequestTimeOut) ∨
        (flow.session.verdict ≠ .delayed ∧
          (transitionAfterWait flow).SendFails settings env request)))

instance (flow : Flow) :
    Decidable (flow.ProcessingFails settings env request) :=
  inferInstanceAs (Decidable (_ ∧ _ ∨ _ ∧ _ ∧ (_ ∧ _ ∨ _ ∧ _)))

/-- A context that waits for the metadata to be sent. -/
def beginInspection (flow : Flow) : Flow :=
  (createCtx flow).updateCtx fun ctx => { ctx with stage := .metaData }

/-- The handler inspects the session, and a send fails or the context cannot be
created. -/
def HandlerCall.FailsInspection (call : HandlerCall) (flow : Flow) : Prop :=
  call.ReachesService flow ∧ call.sessionsRateVerdict = .inspect ∧
    call.registration.Ready ∧ call.shmemCorrupted = false ∧
    ((flow.ctx.registered = true ∧ flow.ctx.headerDeclined = false ∧
        (enterAsyncMode flow).ProcessingFails settings env request) ∨
      (flow.ctx.registered = false ∧
        ¬((enterAsyncMode flow).session.asyncProcessingNeeded = false ∧
          ((enterAsyncMode flow).session.verdict ≠ .inspect ∨
            (enterAsyncMode flow).session.wasRequestFullyInspected = true)) ∧
        call.staticResource = .notStatic ∧
        (call.ctxCreated = false ∨
          (call.shmemCorruptedAtStart = false ∧
            (beginInspection (enterAsyncMode flow)).SendFails settings env
              request))))

/-- A sender fails while the filter inspects the chain. -/
def FilterCall.FailsInspection (call : FilterCall) (chain : List NgxBuf)
    (flow : Flow) : Prop :=
  call.TestsVerdict flow ∧ flow.session.verdict = .inspect ∧
    flow.ctx.flowError = false ∧
    ¬(flow.ctx.released = true ∧ flow.ctx.queue ≠ []) ∧
    chain ≠ [] ∧ call.chainCopied = true ∧
    (sendBufs env request chain
      (chainAddCopy chain (startBodyPhase flow))).1.isSome = true

instance (call : FilterCall) (chain : List NgxBuf) (flow : Flow) :
    Decidable (call.FailsInspection env request chain flow) :=
  inferInstanceAs (Decidable (_ ∧ _ ∧ _ ∧ ¬_ ∧ _ ∧ _ ∧ _))

/-- A send fails after the reply. -/
def Flow.FailsReply (reply : VerdictReply) (flow : Flow) : Prop :=
  reply.verdict ≠ .reconf ∧ reply.verdict ≠ .limitResponseHeaders ∧
    flow.ctx.registered = true ∧ flow.ctx.flowError = false ∧
    ∃ taken ∈ takeReply reply (noteVerdict reply flow),
      (taken.session.remainingMessagesToReply = 0 ∨
        (taken.session.wasRequestFullyInspected = true ∧
          taken.ctx.stage = .body)) ∧
      (applyVerdictForStage request taken).1 = .ok ∧
      (applyVerdictForStage request taken).2.ProcessingFails settings env
        request

/-- The step is a failure for the session: a send fails, a timer of its context
fires, the connection ends under its context, or the context cannot be
created. -/
def Flow.Fails (flow : Flow) : Input → Prop
  | .headerHandler call =>
      call.FailsInspection settings env request (initIfEnabled call flow)
  | .bodyFilter chain call =>
      call.FailsInspection env request chain (flow.receive chain)
  | .reply reply => flow.FailsReply settings env request reply
  | .agentEvent =>
      flow.ctx.registered = true ∧
        flow.cancelAgentTimer.ProcessingFails settings env request
  | .deadlineEvent | .cleanupEvent | .cleanup => flow.ctx.registered = true
  | .resumeEvent _ _ | .asyncInit | .requestFreed => False

/-- The step is no failure that the code lets through: a send of the body
filter, a context that cannot be created, or a timer of a completed session. -/
def Flow.FailsClosed (flow : Flow) : Input → Prop
  | .headerHandler call =>
      (initIfEnabled call flow).ctx.registered = true ∨ call.ctxCreated = true
  | .bodyFilter _ _ => False
  | .deadlineEvent | .cleanupEvent => flow.ctx.stage ≠ .complete
  | _ => True

/-- The step forwards buffers of the body, or lets the header handler
decline. -/
def Flow.LetsThrough (flow : Flow) (input : Input) : Prop :=
  ∃ next, step settings env request flow input = some next ∧
    (next.forwarded ≠ flow.forwarded ∨
      ∃ call, input = .headerHandler call ∧
        (reqHeaderHandlerAsync settings env request call flow).1 = .declined)

variable {settings env request}

include failClose

/-- In fail-close mode a failing sender of a stage rejects. -/
theorem continueWith_of_sendFails (handleWait : Flow → NgxRc × Flow)
    (fails : flow.SendFails settings env request) :
    ∃ next, continueWith settings env request handleWait flow =
        (.httpForbidden, next) ∧
      isVerdictDropOrCustom next.session.verdict := by
  obtain ⟨noError, ⟨stage, unsent, failed, relevant⟩ |
    ⟨stage, unsent, failed⟩ | ⟨stage, unsent, failed⟩⟩ := fails
  · rw [continueWith, noError, if_neg Bool.false_ne_true, stage]
    dsimp only
    rw [unsent, if_neg Bool.false_ne_true]
    rcases sent : sendMetaDataNonblocking env request settings flow with
      ⟨rc, numMessagesSent, next⟩
    rw [sent] at failed relevant
    dsimp only
    rw [if_neg relevant]
    exact afterSender_of_failed failClose _ failed
  · rw [continueWith, noError, if_neg Bool.false_ne_true, stage]
    dsimp only
    rw [unsent, if_neg Bool.false_ne_true]
    exact afterSender_of_failed failClose _ failed
  · rw [continueWith, noError, if_neg Bool.false_ne_true, stage]
    dsimp only
    rw [unsent, if_neg Bool.false_ne_true]
    exact afterSender_of_failed failClose _ failed

include holdClose in
/-- A failing send rejects, or the context is gone already. -/
theorem continueProcessing_of_fails (registered : flow.ctx.registered = true)
    (fails : flow.ProcessingFails settings env request) :
    ∃ rc next, continueProcessing settings env request flow = (rc, next) ∧
      ((rc = .httpForbidden ∧ isVerdictDropOrCustom next.session.verdict) ∨
        (rc = .again ∧ next.Gone)) := by
  obtain ⟨_, fails⟩ | ⟨waits, noError, fails⟩ := fails
  · obtain ⟨next, result, blocking⟩ := continueWith_of_sendFails
      failClose (handleWaitVerdict settings env request) fails
    exact ⟨_, next, result, .inl ⟨rfl, blocking⟩⟩
  · have handled : continueProcessing settings env request flow =
        handleWaitVerdict settings env request flow := by
      rw [continueProcessing, continueWith, noError,
        if_neg Bool.false_ne_true]
      simp only [waitStages, List.mem_cons, List.not_mem_nil, or_false]
        at waits
      rcases waits with stage | stage | stage <;> rw [stage]
    rw [handled, handleWaitVerdict, noError, if_neg Bool.false_ne_true]
    obtain ⟨delayed, failed⟩ | ⟨resolved, fails⟩ := fails
    · rw [if_neg (not_not.mpr delayed)]
      dsimp only
      rw [if_pos failed]
      refine ⟨_, _, rfl, .inr ⟨rfl, ?_⟩⟩
      apply eventHandlerAfterWait_failWait_gone failClose holdClose
      obtain ⟨calls, enqueued, same⟩ :=
        waitSignalSender_sendsOnly env request flow
      rw [same]
      exact registered
    · rw [if_pos resolved]
      refine ⟨_, _, rfl, .inr ⟨rfl, ?_⟩⟩
      obtain ⟨next, result, blocking⟩ := continueWith_of_sendFails
        failClose (fun flow => (.again, flow)) fails
      apply eventHandlerWith_gone _ result (by decide) blocking
      rw [transitionAfterWait, noError, if_neg Bool.false_ne_true,
        if_neg resolved]
      exact registered

include holdClose in
theorem eventHandler_of_fails (registered : flow.ctx.registered = true)
    (fails : flow.ProcessingFails settings env request) :
    (eventHandler settings env request flow).Gone := by
  obtain ⟨rc, next, result, ⟨isForbidden, blocking⟩ | ⟨again, gone⟩⟩ :=
    continueProcessing_of_fails failClose holdClose registered fails
  · apply eventHandlerWith_gone registered result _ blocking
    rw [isForbidden]
    decide
  · have found : ¬flow.ctx.registered = false := by simp [registered]
    rw [eventHandler, eventHandlerWith, if_neg found, result]
    dsimp only
    rw [if_pos again]
    exact gone

omit failClose

/-- The header handler of a session that the service may inspect. -/
theorem handleRequest_of_inspected {call : HandlerCall}
    (reaches : call.ReachesService flow)
    (unlimited : call.sessionsRateVerdict = .inspect)
    (ready : call.registration.Ready) :
    handleRequest settings env request call flow =
      handleRegistered settings env request call (enterAsyncMode flow) := by
  obtain ⟨notTransparent, notDisabled, confFound, allocated, enabled⟩ :=
    reaches
  have hasData : ¬(flow.session.isSet = false ∧
      call.sessionDataAllocated = false) := by
    rintro ⟨unset, unallocated⟩
    rw [unset, unallocated] at allocated
    exact allocated.elim nofun nofun
  rw [handleRequest, notTransparent, notDisabled, confFound, if_neg hasData,
    handleSession, enabled, unlimited]
  rcases ready with ready | ready
  · simp [ready]
  · simp [ready]

include failClose holdClose

/-- A failing header handler rejects, or the context is gone already. -/
theorem handleRegistered_of_fails {call : HandlerCall}
    (fails : call.FailsInspection settings env request flow)
    (closes : flow.ctx.registered = true ∨ call.ctxCreated = true) :
    ∃ rc next, handleRegistered settings env request call
        (enterAsyncMode flow) = (rc, next) ∧
      (rc = .httpForbidden ∨ (rc = .again ∧ next.lifecycle = .closed)) := by
  obtain ⟨_, _, _, notCorrupted, ⟨registered, notDeclined, fails⟩ |
    ⟨unregistered, needed, notStatic, failed⟩⟩ := fails
  · have still : (enterAsyncMode flow).ctx.registered = true := registered
    have stays : (enterAsyncMode flow).ctx.headerDeclined = false :=
      notDeclined
    obtain ⟨rc, next, result, outcome⟩ := continueProcessing_of_fails
      failClose holdClose still fails
    refine ⟨rc, next, ?_, outcome.imp And.left (And.imp_right Flow.Gone.closed)⟩
    rw [handleRegistered, notCorrupted, if_neg Bool.false_ne_true,
      if_pos still, stays, if_neg Bool.false_ne_true]
    exact result
  · have created : call.ctxCreated = true :=
      closes.resolve_left (by simp [unregistered])
    have missing : ¬(enterAsyncMode flow).ctx.registered = true := by
      simp [enterAsyncMode, Flow.updateSession, unregistered]
    obtain ⟨notCorruptedAtStart, fails⟩ :=
      failed.resolve_left (by simp [created])
    obtain ⟨next, result, _⟩ := continueWith_of_sendFails
      failClose (handleWaitVerdict settings env request) fails
    have started : startAgentCommunication settings env request call
        (createCtx (enterAsyncMode flow)) = (.httpForbidden, next) := by
      rw [startAgentCommunication, notCorruptedAtStart,
        if_neg Bool.false_ne_true]
      exact result
    refine ⟨.httpForbidden, next.updateSession fun session =>
      { session with asyncProcessingNeeded := true }, ?_, .inl rfl⟩
    rw [handleRegistered, notCorrupted, if_neg Bool.false_ne_true,
      if_neg missing, if_neg needed, notStatic, startInspection, started]
    simp [created]

theorem drainReply_of_fails {reply : VerdictReply}
    (fails : flow.FailsReply settings env request reply)
    (drained : drainReply settings env request reply flow = some next) :
    next.Gone := by
  obtain ⟨notReconf, notLimit, registered, noError, taken, isTaken, selects,
    goesOn, fails⟩ := fails
  have found : ¬(flow.ctx.registered = false ∨ flow.ctx.flowError = true) := by
    simp [registered, noError]
  rw [drainReply, if_neg notReconf, if_neg found, applyVerdict,
    if_neg notLimit, Option.mem_def.mp isTaken] at drained
  cases drained
  have same := (noteVerdict_sameStage reply flow).toSameRecord.trans
    ((takeReply_sameStage isTaken).toSameRecord.trans
      (applyVerdictForStage_sameRecord request taken))
  have still : (applyVerdictForStage request taken).2.ctx.registered = true :=
    same.registered.trans registered
  rw [finishReply, if_pos selects]
  dsimp only
  rw [if_pos goesOn]
  exact eventHandler_of_fails failClose holdClose still fails

/-- A failure seals the request and lets nothing through. -/
theorem step_fails (guarded : flow.Guarded)
    (fails : flow.Fails settings env request input)
    (closes : flow.FailsClosed input)
    (stepped : step settings env request flow input = some next) :
    next.Sealed ∧ next.forwarded = flow.forwarded ∧
      ∀ call, input = .headerHandler call →
        (reqHeaderHandlerAsync settings env request call flow).1 ≠
          .declined := by
  cases input with
  | headerHandler call =>
      obtain ⟨pending, same⟩ := Option.ite_none_right_eq_some.mp stepped
      cases same
      have noError := guarded.noError (by rw [pending]; decide)
      have opens := @reqHeaderHandlerAsync_opens _ settings env request failClose
        call ⟨guarded.unread pending, noError⟩
      obtain ⟨rc, after, result, outcome⟩ := handleRegistered_of_fails
        failClose holdClose fails closes
      obtain ⟨reaches, unlimited, ready, _⟩ := fails
      have handled : reqHeaderHandlerAsync settings env request call flow =
          (rc, after) := by
        rw [reqHeaderHandlerAsync, handleRequest_of_inspected
          reaches unlimited ready, result]
      rw [handled] at opens ⊢
      refine ⟨?_, (afterHandler_guarded opens).2, ?_⟩
      · obtain rfl | ⟨rfl, closed⟩ := outcome
        · exact ⟨rfl, fun _ => opens.queue⟩
        · exact ⟨closed, fun _ => opens.queue⟩
      · rintro other ⟨⟩ declined
        rw [handled] at declined
        obtain isForbidden | ⟨again, _⟩ := outcome
        · cases isForbidden.symm.trans declined
        · cases again.symm.trans declined
  | bodyFilter chain call => exact closes.elim
  | reply reply =>
      have settles :=
        step_settles failClose stepped trivial
      have gone := drainReply_of_fails failClose holdClose fails stepped
      exact ⟨gone.sealed, settles.forwarded, by rintro _ ⟨⟩⟩
  | agentEvent =>
      have settles :=
        step_settles failClose stepped trivial
      obtain ⟨_, same⟩ := Option.ite_none_right_eq_some.mp stepped
      cases same
      have gone : (eventHandler settings env request
          flow.cancelAgentTimer).Gone :=
        eventHandler_of_fails failClose holdClose fails.1 fails.2
      exact ⟨gone.sealed, settles.forwarded, by rintro _ ⟨⟩⟩
  | deadlineEvent =>
      have settles :=
        step_settles failClose stepped trivial
      refine ⟨?_, settles.forwarded, by rintro _ ⟨⟩⟩
      cases isError : flow.ctx.flowError with
      | true => exact settles.sealed (guarded.failed isError)
      | false =>
          obtain ⟨_, same⟩ := Option.ite_none_right_eq_some.mp stepped
          cases same
          have gone : (deadlineHandler settings env request
              flow.cancelDeadlineTimer).Gone :=
            deadlineHandler_gone failClose holdClose fails closes isError
          exact gone.sealed
  | cleanupEvent =>
      have settles :=
        step_settles failClose stepped trivial
      obtain ⟨_, same⟩ := Option.ite_none_right_eq_some.mp stepped
      cases same
      have gone : (contextCleanupHandler settings env request
          (flow.updateCtx fun ctx =>
            { ctx with cleanupTimer := false })).Gone :=
        contextCleanupHandler_gone failClose fails closes
      exact ⟨gone.sealed, settles.forwarded, by rintro _ ⟨⟩⟩
  | cleanup =>
      cases stepped
      obtain ⟨proceeds, gone⟩ :=
        cleanupImpl_gone failClose fails
      exact ⟨gone.sealed, proceeds.forwarded, by rintro _ ⟨⟩⟩
  | resumeEvent posted downstream => exact fails.elim
  | asyncInit => exact fails.elim
  | requestFreed => exact fails.elim

omit failClose holdClose

theorem start_guarded (isInitialized : Bool) :
    (Flow.start isInitialized).Guarded where
  unread _ := rfl
  failed := nofun

variable (settings env request)

/-- In fail-close mode, nothing of the request goes on with a failure or after
it, unless the failure is one that the code lets through. -/
theorem failure_lets_nothing_through
    (failClose : settings.failModeVerdict ≠ .ok)
    (holdClose : settings.failModeHoldVerdict ≠ .ok) {isInitialized : Bool}
    {earlier later : List Input} {input : Input} {flow : Flow}
    (reached : runPartial (step settings env request) (.start isInitialized)
      earlier = some flow)
    (fails : flow.Fails settings env request input)
    (closes : flow.FailsClosed input) :
    Every (step settings env request)
      (fun flow input => ¬flow.LetsThrough settings env request input)
      flow (input :: later) := by
  have guarded : flow.Guarded := by
    apply runPartial_invariant Flow.Guarded _ (start_guarded isInitialized)
      (every_of_forall _ (fun _ _ => trivial) _ _) reached
    intro before input after guarded _ stepped
    exact step_guarded failClose guarded stepped
  constructor
  · rintro ⟨next, stepped, forwards | ⟨call, isHandler, declined⟩⟩
    · exact forwards (step_fails failClose holdClose
        guarded fails closes stepped).2.1
    · exact (step_fails failClose holdClose guarded fails
        closes stepped).2.2 call isHandler declined
  · intro next stepped
    have isSealed := (step_fails failClose holdClose
      guarded fails closes stepped).1
    apply every_of_invariant Flow.Sealed _ isSealed
      (every_of_forall _ (fun _ _ => trivial) _ _)
    intro flow input isSealed _
    constructor
    · rintro ⟨next, stepped, forwards | ⟨call, isHandler, _⟩⟩
      · exact forwards
          (step_sealed failClose isSealed stepped).2.1
      · exact (step_sealed failClose isSealed stepped).2.2 call isHandler
    · intro next stepped
      exact (step_sealed failClose isSealed stepped).1

end Stages

/-- Both fail modes reject. -/
def closedSettings : Settings :=
  { failOpenMode := false
    failOpenHoldMode := false
    isInspectionRequiredForSource := fun _ => true }

/-- The ring queue takes the messages of the first two stages only. -/
def fullQueueEnvironment : Environment :=
  { plainEnvironment with chunkSent := fun call => decide (call < 4) }

theorem failure_lets_nothing_through_on_deadline :
    ∃ flow,
      runPartial (step closedSettings plainEnvironment plainRequest)
          (.start true) [.headerHandler plainHandlerCall] = some flow ∧
        Every (step closedSettings plainEnvironment plainRequest)
          (fun flow input =>
            ¬flow.LetsThrough closedSettings plainEnvironment plainRequest
              input)
          flow [.deadlineEvent, .requestFreed] := by
  have waits : ∃ flow ∈ runPartial
      (step closedSettings plainEnvironment plainRequest) (.start true)
      [.headerHandler plainHandlerCall],
        flow.ctx.registered = true ∧ flow.ctx.stage ≠ .complete := by
    decide
  obtain ⟨flow, reached, registered, incomplete⟩ := waits
  refine ⟨flow, reached, ?_⟩
  exact failure_lets_nothing_through closedSettings plainEnvironment
    plainRequest (by decide) (by decide) reached registered incomplete

/-- The queue of the ring is full when the body filter sends a chunk: the chunk
goes on although both fail modes reject. -/
theorem unsent_chunk_let_through :
    let chain : List NgxBuf := [{ bytes := [65], lastBuf := true }]
    let sent := step closedSettings fullQueueEnvironment plainRequest
    closedSettings.failModeVerdict ≠ .ok ∧
      closedSettings.failModeHoldVerdict ≠ .ok ∧
      ∃ flow,
        runPartial sent (.start true)
            [.headerHandler plainHandlerCall, .reply (plainReply .inspect),
              .reply (plainReply .inspect),
              .headerHandler plainHandlerCall] = some flow ∧
          flow.Fails closedSettings fullQueueEnvironment plainRequest
            (.bodyFilter chain plainFilterCall) ∧
          ∃ next, sent flow (.bodyFilter chain plainFilterCall) = some next ∧
            bytesOf flow.forwarded = [] ∧ bytesOf next.forwarded = [65] := by
  intro chain sent
  refine ⟨by decide, by decide, ?_⟩
  have passes : ∃ flow ∈ runPartial sent (.start true)
      [.headerHandler plainHandlerCall, .reply (plainReply .inspect),
        .reply (plainReply .inspect), .headerHandler plainHandlerCall],
      plainFilterCall.FailsInspection fullQueueEnvironment plainRequest chain
          (flow.receive chain) ∧
        ∃ next ∈ sent flow (.bodyFilter chain plainFilterCall),
          bytesOf flow.forwarded = [] ∧ bytesOf next.forwarded = [65] := by
    decide
  obtain ⟨flow, reached, fails, next, stepped, before, after⟩ := passes
  exact ⟨flow, reached, fails, next, stepped, before, after⟩

end OpenAppsec.Async
