import OpenAppsec.Async.Rejections

/-!
# The body of an asynchronous session

The body filter parks what it inspects in the queue of the context.  As long
as a context is in the table, what was received is what was forwarded and what
is parked; the queue of a context that leaves the table is lost.
-/

namespace OpenAppsec.Async

open Nginx (NgxBuf)
open Trace

variable {before after : Flow}

/-- The part of a session that only the body filter, the resume events and the
creation of a context change. -/
structure BodyView where
  queue : List NgxBuf
  reqSeenLast : Bool
  bodyPhaseStarted : Bool
  bodyEnded : Bool
  received : List NgxBuf
  forwarded : List NgxBuf

def Flow.bodyView (flow : Flow) : BodyView :=
  { queue := flow.ctx.queue
    reqSeenLast := flow.ctx.reqSeenLast
    bodyPhaseStarted := flow.ctx.bodyPhaseStarted
    bodyEnded := flow.bodyEnded
    received := flow.received
    forwarded := flow.forwarded }

/-- An event leaves the body as it is.  It releases only a body whose last
buffer the filter has seen, and a context with parked buffers leaves the table
only when the request is closed. -/
structure Flow.Carries (before after : Flow) : Prop where
  view : after.bodyView = before.bodyView
  released : after.ctx.released = true →
    before.ctx.released = true ∨ before.ctx.reqSeenLast = true
  registered : after.ctx.registered = true → before.ctx.registered = true
  lifecycle : after.lifecycle = before.lifecycle ∨ after.lifecycle = .closed
  kept : before.ctx.registered = true → before.ctx.queue ≠ [] →
    after.ctx.registered = true ∨ after.lifecycle = .closed

namespace Flow.Carries

theorem refl (flow : Flow) : flow.Carries flow where
  view := rfl
  released := .inl
  registered := id
  lifecycle := .inl rfl
  kept := fun registered _ => .inl registered

/-- A change of flags that concern neither the body nor the table. -/
theorem of_same (view : after.bodyView = before.bodyView)
    (released : after.ctx.released = before.ctx.released)
    (registered : after.ctx.registered = before.ctx.registered)
    (lifecycle : after.lifecycle = before.lifecycle) :
    before.Carries after where
  view := view
  released := fun isReleased => .inl (released.symm.trans isReleased)
  registered := fun isRegistered => registered.symm.trans isRegistered
  lifecycle := .inl lifecycle
  kept := fun isRegistered _ => .inl (registered.trans isRegistered)

theorem trans {first second third : Flow} (earlier : first.Carries second)
    (later : second.Carries third) : first.Carries third where
  view := later.view.trans earlier.view
  released := by
    intro released
    obtain released | seenLast := later.released released
    · exact earlier.released released
    · have same := congrArg BodyView.reqSeenLast earlier.view
      exact .inr (same.symm.trans seenLast)
  registered := earlier.registered ∘ later.registered
  lifecycle := by
    obtain same | closed := later.lifecycle
    · rw [same]
      exact earlier.lifecycle
    · exact .inr closed
  kept := by
    intro registered parked
    obtain registered | closed := earlier.kept registered parked
    · apply later.kept registered
      have same : second.ctx.queue = first.ctx.queue :=
        congrArg BodyView.queue earlier.view
      rw [same]
      exact parked
    · obtain same | closed := later.lifecycle
      · exact .inr (same.trans closed)
      · exact .inr closed

/-- The request is closed. -/
theorem closed (view : after.bodyView = before.bodyView)
    (released : after.ctx.released = before.ctx.released)
    (registered : after.ctx.registered = true →
      before.ctx.registered = true) (closed : after.lifecycle = .closed) :
    before.Carries after where
  view := view
  released := fun isReleased => .inl (released.symm.trans isReleased)
  registered := registered
  lifecycle := .inr closed
  kept := fun _ _ => .inr closed

end Flow.Carries

section Events

variable (settings : Settings) (env : Environment) (request : Request)

variable {flow next : Flow} {hasLast : Prop} {chain : List NgxBuf}
variable {call : FilterCall}

theorem Flow.SendsOnly.carries (sent : before.SendsOnly after) :
    before.Carries after := by
  obtain ⟨calls, enqueued, rfl⟩ := sent
  exact .of_same rfl rfl rfl rfl

variable {settings env request}

theorem finalizeRequestHeadersHook_carries (flow : Flow) :
    flow.Carries (finalizeRequestHeadersHook settings env request flow) := by
  obtain ⟨calls, inspected, same | ⟨_, failed⟩⟩ :=
    finalizeRequestHeadersHook_cases settings env request flow
  · rw [same]
    exact .of_same rfl rfl rfl rfl
  · rw [failed]
    exact .of_same rfl rfl rfl rfl

theorem processCompleteStage_carries (flow : Flow) :
    flow.Carries (processCompleteStage settings env request flow).2 := by
  have cancelled : flow.Carries flow.cancelDeadlineTimer :=
    .of_same rfl rfl rfl rfl
  have finalized := cancelled.trans
    (@finalizeRequestHeadersHook_carries settings env request _)
  rw [processCompleteStage]
  split
  · exact finalized.trans (.of_same rfl rfl rfl rfl)
  · split
    · exact finalized.trans (.of_same rfl rfl rfl rfl)
    · split
      · exact finalized.trans (.of_same rfl rfl rfl rfl)
      · exact finalized.trans (.of_same rfl rfl rfl rfl)

/-- The flag of a stage concerns neither the body nor the table. -/
def MarksSent (markSent : AsyncCtx → AsyncCtx) : Prop :=
  ∀ flow : Flow, flow.Carries (flow.updateCtx markSent)

theorem afterSender_carries {markSent : AsyncCtx → AsyncCtx}
    (marks : MarksSent markSent) {sent : NgxRc × Nat × Flow}
    (carries : flow.Carries sent.2.2) :
    flow.Carries (afterSender settings env request markSent sent).2 := by
  obtain ⟨rc, numMessagesSent, next⟩ := sent
  rw [afterSender]
  split
  · refine Flow.Carries.trans ?_
      (processCompleteStage_carries _)
    exact carries.trans (.of_same rfl rfl rfl rfl)
  · refine Flow.Carries.trans ?_ (marks _)
    exact carries.trans (.of_same rfl rfl rfl rfl)

theorem processBodyStage_carries (flow : Flow) :
    flow.Carries (processBodyStage settings env request flow).2 := by
  rw [processBodyStage]
  split
  · refine Flow.Carries.trans ?_
      (processCompleteStage_carries _)
    exact .of_same rfl rfl rfl rfl
  · split
    · exact .refl flow
    · dsimp only
      split
      · rename_i seen
        exact {
          view := rfl
          released := fun _ => .inr seen.2
          registered := id
          lifecycle := .inl rfl
          kept := fun registered _ => .inl registered }
      · exact .of_same rfl rfl rfl rfl

theorem sendEndTransactionNonblocking_carries (flow : Flow) :
    flow.Carries (sendEndTransactionNonblocking env request flow).2.2 := by
  obtain ⟨sent, calls, enqueued, same⟩ :=
    sendEndTransactionNonblocking_frame env request flow
  rw [same]
  exact .of_same rfl rfl rfl rfl

theorem continueWith_carries {handleWait : Flow → NgxRc × Flow}
    (waits : flow.ctx.stage ∈ waitStages →
      flow.Carries (handleWait flow).2) :
    flow.Carries (continueWith settings env request handleWait flow).2 := by
  rw [continueWith]
  split
  · split
    · exact .of_same rfl rfl rfl rfl
    · exact .of_same rfl rfl rfl rfl
  · split
    · split
      · exact .refl flow
      · have sent :=
          (sendMetaDataNonblocking_sendsOnly env request settings flow).carries
        dsimp only
        split
        · exact sent.trans (.of_same rfl rfl rfl rfl)
        · apply afterSender_carries _ sent
          exact fun _ => .of_same rfl rfl rfl rfl
    · split
      · exact .refl flow
      · apply afterSender_carries
        · exact fun _ => .of_same rfl rfl rfl rfl
        · exact (sendHeadersNonblocking_sendsOnly env request flow).carries
    · split
      · exact .refl flow
      · apply afterSender_carries
        · exact fun _ => .of_same rfl rfl rfl rfl
        · exact sendEndTransactionNonblocking_carries flow
    · exact processBodyStage_carries flow
    · rename_i isStage
      exact waits (by simp [isStage, waitStages])
    · rename_i isStage
      exact waits (by simp [isStage, waitStages])
    · rename_i isStage
      exact waits (by simp [isStage, waitStages])
    · exact processCompleteStage_carries flow
    · exact .refl flow
    · exact .refl flow
    · exact .refl flow
    · exact .refl flow

/-- A completed session with parked buffers is not let go. -/
theorem eventHandlerWith_carries {continueProcessing : Flow → NgxRc × Flow}
    (continued : flow.Carries (continueProcessing flow).2)
    (holds : flow.ctx.registered = true → flow.ctx.queue ≠ [] →
      flow.ctx.stage = .complete →
      (continueProcessing flow).1 = .declined →
      isVerdictDropOrCustom (continueProcessing flow).2.session.verdict) :
    flow.Carries (eventHandlerWith continueProcessing flow) := by
  rw [eventHandlerWith]
  split
  · exact .refl flow
  · rename_i registered
    have registered : flow.ctx.registered = true := by simpa using registered
    rcases result : continueProcessing flow with ⟨rc, next⟩
    rw [result] at continued holds
    dsimp only at continued holds ⊢
    split
    · exact continued
    · split
      · exact continued.trans (.closed rfl rfl (by rintro ⟨⟩) rfl)
      · rename_i passes
        split
        · rename_i declined
          split
          · rename_i complete
            have destroyed : flow.Carries next.destroyCtx := {
              view := continued.view
              released := continued.released
              registered := by rintro ⟨⟩
              lifecycle := continued.lifecycle
              kept := fun _ parked =>
                (passes (holds registered parked complete declined)).elim }
            split
            · exact destroyed.trans (.of_same rfl rfl rfl rfl)
            · exact destroyed.trans (.of_same rfl rfl rfl rfl)
          · split
            · exact continued.trans (.of_same rfl rfl rfl rfl)
            · exact continued.trans (.of_same rfl rfl rfl rfl)
        · exact continued

variable (settings env request)

/-- Continuing the complete stage lets the request go. -/
def Flow.PassesComplete (flow : Flow) : Prop :=
  flow.ctx.stage = .complete ∧
    (flow.ctx.flowError = true → settings.failModeVerdict = .ok) ∧
    (flow.ctx.flowError = false →
      ¬isVerdictDropOrCustom flow.session.verdict ∧
        (Undecided flow.session.verdict → settings.failModeVerdict = .ok))

instance (flow : Flow) : Decidable (flow.PassesComplete settings) :=
  inferInstanceAs (Decidable (_ ∧ (_ → _) ∧ (_ → _ ∧ (_ → _))))

variable {settings env request}

theorem failModeVerdict_ne_declined : settings.failModeVerdict ≠ .declined := by
  rw [Settings.failModeVerdict]
  split <;> decide

theorem finalizeRequestHeadersHook_verdict
    (notInspect : flow.session.verdict ≠ .inspect) :
    (finalizeRequestHeadersHook settings env request flow).session.verdict =
      flow.session.verdict := by
  obtain ⟨calls, inspected, same | ⟨inspect, _⟩⟩ :=
    finalizeRequestHeadersHook_cases settings env request flow
  · rw [same]
    rfl
  · exact (notInspect inspect).elim

/-- A session that is not let go is rejected. -/
theorem continueWith_complete {handleWait : Flow → NgxRc × Flow}
    (complete : flow.ctx.stage = .complete)
    (stays : ¬flow.PassesComplete settings)
    (declined :
      (continueWith settings env request handleWait flow).1 = .declined) :
    isVerdictDropOrCustom
      (continueWith settings env request handleWait
        flow).2.session.verdict := by
  rw [continueWith] at declined ⊢
  by_cases error : flow.ctx.flowError = true
  · rw [if_pos error] at declined
    have failClose : settings.failModeVerdict ≠ .ok := by
      intro failOpen
      refine stays ⟨complete, fun _ => failOpen, ?_⟩
      intro noError
      cases noError.symm.trans error
    dsimp only at declined
    rw [if_neg failClose] at declined
    exact (failModeVerdict_ne_declined declined).elim
  · have noError := Bool.eq_false_iff.mpr error
    have undecided : isVerdictDropOrCustom flow.session.verdict ∨
        (Undecided flow.session.verdict ∧ settings.failModeVerdict ≠ .ok) := by
      by_contra neither
      rw [not_or, not_and, not_not] at neither
      exact stays ⟨complete, fun isError => (error isError).elim,
        fun _ => neither⟩
    have notInspect : flow.session.verdict ≠ .inspect := by
      intro inspect
      rw [inspect] at undecided
      exact undecided.elim (by decide) fun both => both.1.1 (.inr (.inl rfl))
    have notInspect : flow.cancelDeadlineTimer.session.verdict ≠ .inspect :=
      notInspect
    have verdict : (finalizeRequestHeadersHook settings env request
        flow.cancelDeadlineTimer).cancelAgentTimer.session.verdict =
          flow.session.verdict :=
      finalizeRequestHeadersHook_verdict notInspect
    rw [if_neg error, complete] at declined ⊢
    dsimp only at declined ⊢
    rw [processCompleteStage] at declined ⊢
    rw [verdict] at declined ⊢
    obtain blocking | ⟨undecided, failClose⟩ := undecided
    · have notPassed : ¬(flow.session.verdict = .accept ∨
          flow.session.verdict = .inspect ∨
          flow.session.verdict = .irrelevant) := by
        rcases blocking with drop | custom
        · rw [drop]
          decide
        · rw [custom]
          decide
      rw [if_neg notPassed, if_pos blocking]
      exact verdict.symm ▸ blocking
    · rw [if_neg undecided.1, if_neg undecided.2, if_neg failClose] at declined
      cases declined

/-- Only the body filter parks buffers. -/
def Flow.ParksInBody (flow : Flow) : Prop :=
  flow.ctx.registered = true → flow.ctx.queue ≠ [] →
    flow.ctx.bodyPhaseStarted = true

theorem Flow.Carries.queue (carries : before.Carries after) :
    after.ctx.queue = before.ctx.queue :=
  congrArg BodyView.queue carries.view

theorem Flow.Carries.parksInBody (carries : before.Carries after)
    (parks : before.ParksInBody) :
    after.ParksInBody := by
  intro registered parked
  rw [carries.queue] at parked
  have started := congrArg BodyView.bodyPhaseStarted carries.view
  exact started.trans (parks (carries.registered registered) parked)

theorem eventHandlerAfterWait_carries
    (stays : flow.ctx.registered = true → flow.ctx.queue ≠ [] →
      ¬flow.PassesComplete settings) :
    flow.Carries (eventHandlerAfterWait settings env request flow) := by
  apply eventHandlerWith_carries
  · apply continueWith_carries
    intro _
    exact .refl flow
  · intro registered parked complete
    exact continueWith_complete complete (stays registered parked)

theorem eventHandlerAfterWait_failWait_carries :
    flow.Carries (eventHandlerAfterWait settings env request
      (failWait settings flow)) := by
  have failed : flow.Carries (failWait settings flow) :=
    .of_same rfl rfl rfl rfl
  apply failed.trans
  apply eventHandlerAfterWait_carries
  intro _ _ passes
  exact nomatch passes.1

theorem handleWaitVerdict_carries (waits : flow.ctx.stage ∈ waitStages)
    (parks : flow.ParksInBody) :
    flow.Carries (handleWaitVerdict settings env request flow).2 := by
  rw [handleWaitVerdict]
  split
  · apply eventHandlerAfterWait_failWait_carries
  · rename_i noError
    have noError : flow.ctx.flowError = false := by simpa using noError
    split
    · rename_i resolved
      rw [transitionAfterWait, noError, if_neg Bool.false_ne_true,
        if_neg resolved]
      have moved : flow.Carries (flow.transition (stageAfterWait flow)) :=
        .of_same rfl rfl rfl rfl
      apply moved.trans
      apply eventHandlerAfterWait_carries
      intro registered parked passes
      have complete : stageAfterWait flow = .complete := passes.1
      obtain ⟨_, notStarted⟩ :=
        stageAfterWait_complete waits (passes.2.2 noError).1 complete
      cases notStarted.symm.trans (parks registered parked)
    · have sent := (waitSignalSender_sendsOnly env request flow).carries
      dsimp only
      split
      · exact sent.trans
          eventHandlerAfterWait_failWait_carries
      · exact sent.trans (.of_same rfl rfl rfl rfl)

theorem continueProcessing_carries (parks : flow.ParksInBody) :
    flow.Carries (continueProcessing settings env request flow).2 := by
  apply continueWith_carries
  intro waits
  exact handleWaitVerdict_carries waits parks

theorem eventHandler_carries (parks : flow.ParksInBody)
    (stays : flow.ctx.registered = true → flow.ctx.queue ≠ [] →
      ¬flow.PassesComplete settings) :
    flow.Carries (eventHandler settings env request flow) := by
  apply eventHandlerWith_carries
  · exact continueProcessing_carries parks
  · intro registered parked complete
    exact continueWith_complete complete (stays registered parked)

theorem applyVerdictForStage_carries (flow : Flow) :
    flow.Carries (applyVerdictForStage request flow).2 := by
  rw [applyVerdictForStage]
  dsimp only
  repeat' split
  all_goals exact .of_same rfl rfl rfl rfl

theorem noteVerdict_carries (reply : VerdictReply) (flow : Flow) :
    flow.Carries (noteVerdict reply flow) := by
  rw [noteVerdict]
  repeat' split
  all_goals exact .of_same rfl rfl rfl rfl

theorem takeReply_carries {reply : VerdictReply}
    (taken : takeReply reply flow = some next) : flow.Carries next := by
  obtain ⟨modifications, _, rfl⟩ := Option.map_eq_some_iff.mp taken
  split
  · exact .of_same rfl rfl rfl rfl
  · exact .of_same rfl rfl rfl rfl

variable (settings env request)

/-- A reply lets the request go past its complete stage. -/
def Flow.RepliesPast (reply : VerdictReply) (flow : Flow) : Prop :=
  reply.verdict ≠ .reconf ∧ reply.verdict ≠ .limitResponseHeaders ∧
    ¬isVerdictDropOrCustom reply.verdict ∧
    (Undecided reply.verdict → settings.failModeVerdict = .ok) ∧
    flow.ctx.flowError = false ∧
    flow.session.remainingMessagesToReply ≤ 1 ∧
    (flow.ctx.stage = .complete ∨
      (flow.ctx.stage = .endTransaction ∧ reply.verdict ≠ .delayed))

instance (reply : VerdictReply) (flow : Flow) :
    Decidable (flow.RepliesPast settings reply) :=
  inferInstanceAs (Decidable (_ ∧ _ ∧ _ ∧ (_ → _) ∧ _ ∧ _ ∧ (_ ∨ _ ∧ _)))

variable {settings env request}

theorem finishReply_carries (parks : flow.ParksInBody)
    (noError : flow.ctx.flowError = false)
    (stays : flow.ctx.registered = true → flow.ctx.queue ≠ [] →
      flow.session.remainingMessagesToReply = 0 →
      ¬isVerdictDropOrCustom flow.session.verdict →
      (Undecided flow.session.verdict → settings.failModeVerdict = .ok) →
      ¬(flow.ctx.stage = .complete ∨
        (flow.ctx.stage = .endTransaction ∧
          flow.session.verdict ≠ .delayed))) :
    flow.Carries (finishReply settings env request flow) := by
  rw [finishReply]
  split
  · rename_i selects
    have same := applyVerdictForStage_sameRecord request flow
    have carries := @applyVerdictForStage_carries request flow
    dsimp only
    split
    · apply carries.trans
      apply eventHandler_carries (carries.parksInBody parks)
      intro registered parked passes
      have noError : (applyVerdictForStage request flow).2.ctx.flowError =
          false := same.flowError.trans noError
      have decided := passes.2.2 noError
      rw [same.verdict] at decided
      have stage := stageAfterReply_complete request decided.1
        ((applyVerdictForStage_stage request flow).symm.trans passes.1)
      rw [carries.queue] at parked
      apply stays (carries.registered registered) parked _ decided.1
        decided.2 stage
      apply selects.resolve_right
      rintro ⟨_, isBody⟩
      rw [isBody] at stage
      simp at stage
    · exact carries
  · exact .refl flow

theorem drainReply_carries {reply : VerdictReply} (parks : flow.ParksInBody)
    (stays : flow.ctx.registered = true → flow.ctx.queue ≠ [] →
      ¬flow.RepliesPast settings reply)
    (drained : drainReply settings env request reply flow = some next) :
    flow.Carries next := by
  rw [drainReply] at drained
  split at drained
  · cases drained
    exact .refl flow
  · rename_i notReconf
    split at drained
    · cases drained
      exact .refl flow
    · rename_i found
      rw [not_or, Bool.not_eq_true] at found
      have noted := noteVerdict_sameStage reply flow
      obtain ⟨_, rfl⟩ | ⟨notLimit, taken, isTaken, rfl⟩ :=
        applyVerdict_cases settings env request drained
      · exact noteVerdict_carries reply flow
      · have same := noted.trans (takeReply_sameStage isTaken)
        have carries := (noteVerdict_carries reply flow).trans
          (takeReply_carries isTaken)
        have noError : taken.ctx.flowError = false :=
          same.flowError.trans found.2
        apply carries.trans
        apply finishReply_carries (carries.parksInBody parks) noError
        intro registered parked answered passes undecided stage
        have verdict : taken.session.verdict = reply.verdict := same.verdict
        rw [verdict] at passes undecided stage
        rw [same.stage] at stage
        rw [takeReply_remaining passes isTaken, noteVerdict_remaining]
          at answered
        rw [carries.queue] at parked
        exact stays (carries.registered registered) parked
          ⟨notReconf, notLimit, passes, undecided, found.2,
            Nat.sub_eq_zero_iff_le.mp answered, stage⟩

/-- A failure that a fail-open mode lets pass. -/
theorem not_passesComplete_of_failClose {failMode : NgxRc}
    (failClose : failMode ≠ .ok)
    (verdict : flow.session.verdict = failVerdict failMode)
    (closed : flow.ctx.flowError = true → settings.failModeVerdict ≠ .ok) :
    ¬flow.PassesComplete settings := by
  rintro ⟨_, error, noError⟩
  cases isError : flow.ctx.flowError with
  | true => exact closed isError (error isError)
  | false =>
      apply (noError isError).1
      rw [verdict]
      exact failVerdict_of_ne failClose

variable (settings env request)

/-- The fail mode of the deadline in a stage. -/
def Flow.deadlineFailMode (flow : Flow) : NgxRc :=
  match flow.ctx.stage with
  | .waitHeaderVerdict | .waitEndVerdict | .waitBodyVerdict =>
      settings.failModeHoldVerdict
  | _ => settings.failModeVerdict

variable {settings env request}

theorem deadlineHandler_carries (parks : flow.ParksInBody)
    (stays : flow.ctx.registered = true → flow.ctx.queue ≠ [] →
      flow.ctx.stage ≠ .complete → flow.ctx.flowError = false →
      flow.deadlineFailMode settings ≠ .ok) :
    flow.Carries (deadlineHandler settings env request flow) := by
  rw [deadlineHandler]
  split
  · exact .refl flow
  · split
    · exact .refl flow
    · rename_i incomplete
      split
      · exact .refl flow
      · rename_i noError
        have noError : flow.ctx.flowError = false := by simpa using noError
        have ended : flow.Carries ((endInspection (flow.fail
            (flow.deadlineFailMode settings))).transition .complete) :=
          .of_same rfl rfl rfl rfl
        apply ended.trans
        apply eventHandler_carries (ended.parksInBody parks)
        intro registered parked
        apply not_passesComplete_of_failClose
          (stays registered parked incomplete noError) rfl
        intro error
        cases noError.symm.trans error

theorem contextCleanupHandler_carries (parks : flow.ParksInBody)
    (stays : flow.ctx.registered = true → flow.ctx.queue ≠ [] →
      flow.ctx.stage ≠ .complete → settings.failModeVerdict ≠ .ok) :
    flow.Carries (contextCleanupHandler settings env request flow) := by
  rw [contextCleanupHandler]
  split
  · exact .refl flow
  · split
    · exact .refl flow
    · rename_i incomplete
      have ended : flow.Carries ((endInspection (flow.setFlowError.fail
          settings.failModeVerdict)).transition .complete) :=
        .of_same rfl rfl rfl rfl
      apply ended.trans
      apply eventHandler_carries (ended.parksInBody parks)
      intro registered parked
      have failClose := stays registered parked incomplete
      exact not_passesComplete_of_failClose failClose rfl fun _ => failClose

theorem cleanupImpl_carries (parks : flow.ParksInBody)
    (stays : flow.ctx.registered = true → flow.ctx.queue ≠ [] →
      flow.ctx.stage ≠ .body → flow.ctx.stage ≠ .waitBodyVerdict →
      settings.failModeVerdict ≠ .ok) :
    flow.Carries (cleanupImpl settings env request flow) := by
  have uninitialized {other : Flow} (carries : flow.Carries other) :
      flow.Carries { other with isInitialized := false } :=
    carries.trans (.of_same rfl rfl rfl rfl)
  rw [cleanupImpl]
  apply uninitialized
  split
  · exact .refl flow
  · dsimp only
    generalize isEnded : (clearReqSeq (endInspection (flow.fail
      settings.failModeVerdict))).cancelTimers = ended
    have isStage : ended.ctx.stage = flow.ctx.stage := by
      rw [← isEnded]
      rfl
    have carries : flow.Carries ended := by
      rw [← isEnded]
      exact .of_same rfl rfl rfl rfl
    have marked {other : Flow} (carries : flow.Carries other) :
        flow.Carries other.setFlowError :=
      carries.trans (.of_same rfl rfl rfl rfl)
    apply marked
    by_cases waits : ended.ctx.stage = .waitBodyVerdict
    · have moved : flow.Carries (ended.transition .body) :=
        carries.trans (.of_same rfl rfl rfl rfl)
      have isBody : ¬(ended.transition .body).ctx.stage ≠ .body :=
        not_not.mpr rfl
      rw [if_pos waits, if_neg isBody]
      apply moved.trans
      apply eventHandler_carries (moved.parksInBody parks)
      intro _ _ passes
      cases passes.1
    · rw [if_neg waits]
      split
      · rename_i notBody
        have completed : flow.Carries
            (ended.setFlowError.transition .complete) :=
          carries.trans (.of_same rfl rfl rfl rfl)
        apply completed.trans
        apply eventHandler_carries (completed.parksInBody parks)
        intro registered parked passes
        rw [completed.queue] at parked
        rw [isStage] at waits notBody
        exact stays (completed.registered registered) parked notBody waits
          (passes.2.1 rfl)
      · rename_i isBody
        apply carries.trans
        apply eventHandler_carries (carries.parksInBody parks)
        intro _ _ passes
        exact isBody (passes.1 ▸ (by simp))

/-- What was received is what was forwarded and what is parked. -/
structure Flow.Conserves (flow : Flow) : Prop where
  ordered : flow.forwarded <+: flow.received
  parked : flow.ctx.registered = true →
    flow.received = flow.forwarded ++ flow.ctx.queue
  passed : flow.ctx.registered = false → flow.lifecycle ≠ .closed →
    flow.received = flow.forwarded
  unread : flow.lifecycle = .pending → flow.received = []
  seenLast : flow.ctx.registered = true → flow.ctx.reqSeenLast = true →
    flow.bodyEnded = true
  released : flow.ctx.registered = true → flow.ctx.released = true →
    flow.ctx.reqSeenLast = true
  parksInBody : flow.ParksInBody

theorem Flow.Conserves.carry (conserves : before.Conserves)
    (carries : before.Carries after) :
    after.Conserves := by
  have queue := carries.queue
  have reqSeenLast : after.ctx.reqSeenLast = before.ctx.reqSeenLast :=
    congrArg BodyView.reqSeenLast carries.view
  have bodyEnded : after.bodyEnded = before.bodyEnded :=
    congrArg BodyView.bodyEnded carries.view
  have received : after.received = before.received :=
    congrArg BodyView.received carries.view
  have forwarded : after.forwarded = before.forwarded :=
    congrArg BodyView.forwarded carries.view
  have notClosed (isOpen : after.lifecycle ≠ .closed) :
      after.lifecycle = before.lifecycle :=
    carries.lifecycle.resolve_right isOpen
  constructor
  · rw [forwarded, received]
    exact conserves.ordered
  · intro registered
    rw [received, forwarded, queue]
    exact conserves.parked (carries.registered registered)
  · intro unregistered isOpen
    rw [received, forwarded]
    have same := notClosed isOpen
    cases registered : before.ctx.registered with
    | false =>
        apply conserves.passed registered
        rw [← same]
        exact isOpen
    | true =>
        -- a context that has gone had parked nothing
        have empty : before.ctx.queue = [] := by
          by_contra parked
          obtain still | closed := carries.kept registered parked
          · exact nomatch unregistered.symm.trans still
          · exact isOpen closed
        rw [conserves.parked registered, empty, List.append_nil]
  · intro pending
    rw [received]
    apply conserves.unread
    have same := notClosed (by rw [pending]; decide)
    rw [← same]
    exact pending
  · intro registered seenLast
    rw [bodyEnded]
    rw [reqSeenLast] at seenLast
    exact conserves.seenLast (carries.registered registered) seenLast
  · intro registered released
    rw [reqSeenLast]
    obtain released | seenLast := carries.released released
    · exact conserves.released (carries.registered registered) released
    · exact seenLast
  · exact carries.parksInBody conserves.parksInBody

theorem asyncInit_carries
    (stays : flow.ctx.registered = true → flow.ctx.queue ≠ [] →
      flow.isInitialized = true) :
    flow.Carries (asyncInit flow) := by
  rw [asyncInit]
  split
  · exact .refl flow
  · rename_i notInitialized
    exact {
      view := rfl
      released := .inl
      registered := by rintro ⟨⟩
      lifecycle := .inl rfl
      kept := fun registered parked =>
        (notInitialized (stays registered parked)).elim }

/-- Nothing of the body has been received. -/
structure Flow.Untouched (flow : Flow) : Prop where
  conserves : flow.Conserves
  received : flow.received = []

theorem Flow.Untouched.carry (untouched : before.Untouched)
    (carries : before.Carries after) :
    after.Untouched where
  conserves := untouched.conserves.carry carries
  received :=
    (congrArg BodyView.received carries.view).trans untouched.received

theorem Flow.Untouched.forwarded (untouched : flow.Untouched) :
    flow.forwarded = [] := by
  have ordered := untouched.conserves.ordered
  rw [untouched.received] at ordered
  exact List.prefix_nil.mp ordered

theorem Flow.Untouched.queue (untouched : flow.Untouched)
    (registered : flow.ctx.registered = true) : flow.ctx.queue = [] := by
  have parked := untouched.conserves.parked registered
  rw [untouched.received] at parked
  exact (List.append_eq_nil_iff.mp parked.symm).2

/-- A new context parks nothing. -/
theorem Flow.Untouched.createCtx (untouched : flow.Untouched) :
    (Async.createCtx flow).Untouched where
  received := untouched.received
  conserves := {
    ordered := untouched.conserves.ordered
    parked := by
      intro _
      have received : flow.received = [] := untouched.received
      have forwarded : flow.forwarded = [] := untouched.forwarded
      exact received.trans (congrArg (· ++ []) forwarded).symm
    passed := nofun
    unread := fun _ => untouched.received
    seenLast := nofun
    released := nofun
    parksInBody := fun _ parked => (parked rfl).elim }

theorem startInspection_untouched (untouched : flow.Untouched)
    (call : HandlerCall) :
    (startInspection settings env request call flow).2.Untouched := by
  have created := untouched.createCtx
  have started : (startAgentCommunication settings env request call
      (createCtx flow)).2.Untouched := by
    rw [startAgentCommunication]
    split
    · exact created.carry (.of_same rfl rfl rfl rfl)
    · have moved : ((createCtx flow).updateCtx fun ctx =>
          { ctx with stage := .metaData }).Untouched :=
        created.carry (.of_same rfl rfl rfl rfl)
      apply moved.carry
      exact continueProcessing_carries moved.conserves.parksInBody
  rw [startInspection]
  rcases result : startAgentCommunication settings env request call
    (createCtx flow) with ⟨finalRes, next⟩
  rw [result] at started
  dsimp only at started ⊢
  split
  · exact started.carry (.of_same rfl rfl rfl rfl)
  · exact started.carry (.of_same rfl rfl rfl rfl)

theorem handleRegistered_untouched (untouched : flow.Untouched)
    (call : HandlerCall) :
    (handleRegistered settings env request call flow).2.Untouched := by
  rw [handleRegistered]
  split
  · exact untouched.carry (.of_same rfl rfl rfl rfl)
  · split
    · split
      · exact untouched
      · apply untouched.carry
        exact continueProcessing_carries untouched.conserves.parksInBody
    · split
      · exact untouched
      · split
        · exact untouched.carry (.closed rfl rfl id rfl)
        · exact untouched
        · split
          · exact startInspection_untouched untouched call
          · exact untouched

theorem enterAsyncMode_carries (flow : Flow) :
    flow.Carries (enterAsyncMode flow) :=
  .of_same rfl rfl rfl rfl

theorem reqHeaderHandlerAsync_untouched (untouched : flow.Untouched)
    (call : HandlerCall) :
    (reqHeaderHandlerAsync settings env request call flow).2.Untouched := by
  have initialized : (initIfEnabled call flow).Untouched := by
    rw [initIfEnabled]
    split
    · apply untouched.carry
      apply asyncInit_carries
      intro registered parked
      exact (parked (untouched.queue registered)).elim
    · exact untouched
  rw [reqHeaderHandlerAsync, handleRequest]
  split
  · exact initialized
  · split
    · exact initialized
    · split
      · exact initialized
      · split
        · exact initialized
        · have entered := initialized.carry (enterAsyncMode_carries _)
          rw [handleSession]
          split
          · exact entered
          · split
            · exact entered.carry (.of_same rfl rfl rfl rfl)
            · split
              · exact entered.carry (.of_same rfl rfl rfl rfl)
              · exact entered.carry (.of_same rfl rfl rfl rfl)
              · exact entered
              · exact handleRegistered_untouched entered call
              · exact handleRegistered_untouched entered call

theorem Flow.Conserves.close (conserves : flow.Conserves) :
    flow.close.Conserves :=
  conserves.carry (.closed rfl rfl id rfl)

theorem afterHandler_conserves {after : NgxRc × Flow}
    (untouched : after.2.Untouched) : (afterHandler after).Conserves := by
  rw [afterHandler.eq_def]
  split
  · rename_i next
    have conserves := untouched.conserves
    exact { conserves with
      passed := fun _ _ => untouched.received.trans untouched.forwarded.symm
      unread := by simp }
  · exact untouched.conserves
  · exact untouched.conserves
  · exact untouched.conserves.close

/-- Sending changes no buffer, and notes the last one only if it is there. -/
structure Flow.SendsChain (hasLast : Prop) (before after : Flow) : Prop where
  view : { after.bodyView with reqSeenLast := false } =
    { before.bodyView with reqSeenLast := false }
  released : after.ctx.released = before.ctx.released
  monotone : before.ctx.reqSeenLast = true → after.ctx.reqSeenLast = true
  seenLast : after.ctx.reqSeenLast = true →
    before.ctx.reqSeenLast = true ∨ hasLast
  registered : after.ctx.registered = before.ctx.registered
  lifecycle : after.lifecycle = before.lifecycle

namespace Flow.SendsChain

theorem trans {firstLast secondLast : Prop} {first second third : Flow}
    (earlier : first.SendsChain firstLast second)
    (later : second.SendsChain secondLast third)
    (covers : firstLast ∨ secondLast → hasLast) :
    first.SendsChain hasLast third where
  view := later.view.trans earlier.view
  released := later.released.trans earlier.released
  monotone := later.monotone ∘ earlier.monotone
  seenLast := by
    intro seenLast
    obtain seenLast | isLast := later.seenLast seenLast
    · exact (earlier.seenLast seenLast).imp_right (covers ∘ .inl)
    · exact .inr (covers (.inr isLast))
  registered := later.registered.trans earlier.registered
  lifecycle := later.lifecycle.trans earlier.lifecycle

theorem mono {weaker stronger : Prop} (sent : before.SendsChain stronger after)
    (implies : stronger → weaker) :
    before.SendsChain weaker after :=
  { sent with seenLast := fun seenLast =>
      (sent.seenLast seenLast).imp_right implies }

theorem of_sendsOnly (sent : before.SendsOnly after) :
    before.SendsChain False after := by
  obtain ⟨calls, enqueued, rfl⟩ := sent
  exact ⟨rfl, rfl, id, .inl, rfl, rfl⟩

variable (sent : before.SendsChain hasLast after)

include sent

theorem queue :
    after.ctx.queue = before.ctx.queue :=
  congrArg BodyView.queue sent.view

theorem received :
    after.received = before.received :=
  congrArg BodyView.received sent.view

theorem forwarded :
    after.forwarded = before.forwarded :=
  congrArg BodyView.forwarded sent.view

end Flow.SendsChain

theorem sendEndTransactionNonblocking_sendsChain (flow : Flow) :
    flow.SendsChain False
      (sendEndTransactionNonblocking env request flow).2.2 := by
  obtain ⟨sent, calls, enqueued, same⟩ :=
    sendEndTransactionNonblocking_frame env request flow
  rw [same]
  exact ⟨rfl, rfl, id, .inl, rfl, rfl⟩

theorem sendBufs_sendsChain (bufs : List NgxBuf) (flow : Flow) :
    flow.SendsChain (bufs.any NgxBuf.lastBuf = true)
      (sendBufs env request bufs flow).2 := by
  induction bufs generalizing flow with
  | nil => exact ⟨rfl, rfl, id, .inl, rfl, rfl⟩
  | cons buf bufs induction =>
      have chunkSent := Flow.SendsChain.of_sendsOnly
        (sendSingleBodyChunkNonblocking_sendsOnly env request buf flow)
      rw [sendBufs]
      rcases chunk : sendSingleBodyChunkNonblocking env request buf flow with
        ⟨rc, nmsgs, chunked⟩
      rw [chunk] at chunkSent
      dsimp only at chunkSent ⊢
      have counts (other : Flow) (count : Nat) :
          other.SendsChain False (expectBodyReplies count other) :=
        ⟨rfl, rfl, id, .inl, rfl, rfl⟩
      rw [List.any_cons]
      split
      · exact chunkSent.mono False.elim
      · have counted := chunkSent.trans (counts chunked nmsgs) (or_self_iff.mp)
        split
        · rename_i isLast
          have reaches : (buf.lastBuf || bufs.any NgxBuf.lastBuf) = true := by
            rw [isLast, Bool.true_or]
          have ended := counted.trans
            (@sendEndTransactionNonblocking_sendsChain env request _)
            or_self_iff.mp
          split
          · exact ended.mono False.elim
          · have marked (other : Flow) (count : Nat) :
                other.SendsChain True (expectBodyReplies count
                  (other.updateCtx fun ctx =>
                    { ctx with reqSeenLast := true })) :=
              ⟨rfl, rfl, fun _ => rfl, fun _ => .inr trivial, rfl, rfl⟩
            exact (ended.trans (marked _ _) fun _ => trivial).trans
              (induction _) fun _ => reaches
        · exact counted.trans (induction _) fun later =>
            Bool.or_eq_true_iff.mpr (.inr (later.resolve_left id))

/-- A chain that goes past the queue when nothing is parked. -/
theorem conserves_of_passed (conserves : flow.Conserves)
    (admitted : flow.lifecycle = .admitted)
    (empty : flow.ctx.registered = true → flow.ctx.queue ≠ [] → chain = []) :
    ((flow.receive chain).forward chain).Conserves := by
  have whole : flow.ctx.registered = true →
      flow.received ++ chain = flow.forwarded ++ chain ++ flow.ctx.queue := by
    intro registered
    rw [conserves.parked registered]
    by_cases parked : flow.ctx.queue = []
    · rw [parked, List.append_nil, List.append_nil]
    · rw [empty registered parked, List.append_nil, List.append_nil]
  have passed : flow.ctx.registered = false →
      flow.received ++ chain = flow.forwarded ++ chain := by
    intro unregistered
    rw [conserves.passed unregistered (by rw [admitted]; decide)]
  constructor
  · change flow.forwarded ++ chain <+: flow.received ++ chain
    cases registered : flow.ctx.registered with
    | true =>
        rw [whole registered]
        exact List.prefix_append _ _
    | false =>
        exact passed registered ▸ List.prefix_rfl
  · exact whole
  · exact fun unregistered _ => passed unregistered
  · exact fun pending => nomatch admitted.symm.trans pending
  · intro registered seenLast
    exact Bool.or_eq_true_iff.mpr (.inl (conserves.seenLast registered seenLast))
  · exact conserves.released
  · exact conserves.parksInBody

/-- A context that leaves the table without parked buffers. -/
theorem conserves_of_destroyed (ordered : flow.forwarded <+: flow.received)
    (passed : flow.lifecycle ≠ .closed → flow.received = flow.forwarded)
    (unread : flow.lifecycle = .pending → flow.received = []) :
    flow.destroyCtx.Conserves where
  ordered := ordered
  parked := nofun
  passed := fun _ => passed
  unread := unread
  seenLast := nofun
  released := nofun
  parksInBody := nofun

theorem afterFilter_conserves {after : NgxRc × Flow}
    (conserves : after.2.Conserves) : (afterFilter after).Conserves := by
  rw [afterFilter.eq_def]
  split
  · exact conserves
  · exact conserves
  · exact conserves
  · exact conserves
  · exact conserves.close

/-- The parked buffers go on. -/
theorem Flow.Conserves.flush (conserves : flow.Conserves)
    (registered : flow.ctx.registered = true) :
    (flow.forward flow.ctx.queue).queueFree.Conserves :=
  { conserves with
    ordered := by
      change flow.forwarded ++ flow.ctx.queue <+: flow.received
      exact conserves.parked registered ▸ List.prefix_rfl
    parked := by
      intro _
      change flow.received = flow.forwarded ++ flow.ctx.queue ++ []
      rw [List.append_nil]
      exact conserves.parked registered
    passed := fun unregistered =>
      nomatch registered.symm.trans unregistered
    parksInBody := fun _ parked => (parked rfl).elim }

/-- After a flush nothing is parked any more. -/
theorem Flow.Conserves.flushAll (conserves : flow.Conserves)
    (registered : flow.ctx.registered = true) :
    (flow.forward flow.ctx.queue).queueFree.destroyCtx.Conserves := by
  have flushed := conserves.flush registered
  apply conserves_of_destroyed flushed.ordered
  · intro _
    exact conserves.parked registered
  · exact flushed.unread

theorem startBodyPhase_conserves (conserves : flow.Conserves) :
    (startBodyPhase flow).Conserves :=
  { conserves with parksInBody := fun _ _ => rfl }

theorem receive_conserves (chain : List NgxBuf) (conserves : flow.Conserves)
    (registered : flow.ctx.registered = true)
    (admitted : flow.lifecycle = .admitted) :
    (chainAddCopy chain (startBodyPhase (flow.receive chain))).Conserves where
  ordered := by
    change flow.forwarded <+: flow.received ++ chain
    exact conserves.ordered.trans (List.prefix_append _ _)
  parked := by
    intro _
    change flow.received ++ chain = flow.forwarded ++ (flow.ctx.queue ++ chain)
    rw [conserves.parked registered, List.append_assoc]
  passed := fun unregistered => nomatch registered.symm.trans unregistered
  unread := fun pending => nomatch admitted.symm.trans pending
  seenLast := fun _ seenLast =>
    Bool.or_eq_true_iff.mpr (.inl (conserves.seenLast registered seenLast))
  released := fun _ => conserves.released registered
  parksInBody := fun _ _ => rfl

theorem conserves_of_closed (ordered : flow.forwarded <+: flow.received) :
    flow.destroyCtx.close.Conserves where
  ordered := ordered
  parked := nofun
  passed := fun _ isOpen => (isOpen rfl).elim
  unread := nofun
  seenLast := nofun
  released := nofun
  parksInBody := nofun

theorem Flow.Conserves.sendsChain (conserves : before.Conserves)
    (sent : before.SendsChain hasLast after)
    (registered : before.ctx.registered = true)
    (ends : hasLast → before.bodyEnded = true) : after.Conserves where
  ordered := by
    rw [sent.forwarded, sent.received]
    exact conserves.ordered
  parked := by
    intro _
    rw [sent.received, sent.forwarded, sent.queue]
    exact conserves.parked registered
  passed := by
    intro unregistered
    rw [sent.registered, registered] at unregistered
    cases unregistered
  unread := by
    rw [sent.lifecycle, sent.received]
    exact conserves.unread
  seenLast := by
    intro _ seenLast
    have same : after.bodyEnded = before.bodyEnded :=
      congrArg BodyView.bodyEnded sent.view
    rw [same]
    exact (sent.seenLast seenLast).elim (conserves.seenLast registered) ends
  released := by
    intro _ released
    rw [sent.released] at released
    exact sent.monotone (conserves.released registered released)
  parksInBody := by
    intro _ parked
    rw [sent.queue] at parked
    have same : after.ctx.bodyPhaseStarted = before.ctx.bodyPhaseStarted :=
      congrArg BodyView.bodyPhaseStarted sent.view
    rw [same]
    exact conserves.parksInBody registered parked

theorem passThroughQueue_conserves (conserves : flow.Conserves)
    (registered : flow.ctx.registered = true) (failed : BodySender)
    (downstream : NgxRc) :
    (passThroughQueue failed downstream flow).2.Conserves := by
  rw [passThroughQueue]
  split
  · rename_i empty
    apply conserves_of_destroyed conserves.ordered _ conserves.unread
    intro _
    rw [conserves.parked registered, empty, List.append_nil]
  · have flushed := conserves.flushAll registered
    cases failed with
    | chunk => exact flushed.carry (.of_same rfl rfl rfl rfl)
    | endTransaction => exact flushed

theorem inspectChain_conserves (conserves : flow.Conserves)
    (registered : flow.ctx.registered = true)
    (admitted : flow.lifecycle = .admitted) (call : FilterCall) :
    (afterFilter (inspectChain env request chain call
      (startBodyPhase (flow.receive chain)))).Conserves := by
  have queued := receive_conserves chain conserves registered admitted
  rw [inspectChain]
  split
  · exact conserves_of_closed queued.ordered
  · have sent := @sendBufs_sendsChain env request chain
      (chainAddCopy chain (startBodyPhase (flow.receive chain)))
    have next := queued.sendsChain sent registered fun isLast =>
      Bool.or_eq_true_iff.mpr (.inr isLast)
    have stays := sent.registered.trans registered
    split
    · rename_i failed after result
      rw [result] at next stays
      apply afterFilter_conserves
      exact passThroughQueue_conserves next stays failed call.downstream
    · rename_i after result
      rw [result] at next
      apply afterFilter_conserves
      split
      · exact next.carry (.of_same rfl rfl rfl rfl)
      · exact next

theorem filterInspected_conserves (conserves : flow.Conserves)
    (registered : flow.ctx.registered = true)
    (admitted : flow.lifecycle = .admitted) (canReceive : flow.CanReceive chain)
    (call : FilterCall) :
    (afterFilter (filterInspected env request chain call
      (startBodyPhase (flow.receive chain)))).Conserves := by
  have nothing (empty : chain = []) : flow.receive chain = flow := by
    rw [empty]
    simp [Flow.receive]
  have started := startBodyPhase_conserves conserves
  rw [filterInspected]
  split
  · -- nothing follows a body that has been released
    rename_i releases
    have ended := conserves.seenLast registered
      (conserves.released registered releases.1)
    rw [nothing (canReceive.1 ended)]
    apply afterFilter_conserves
    exact started.flushAll registered
  · split
    · rename_i flushes
      rw [nothing flushes.2.2]
      apply afterFilter_conserves
      exact started.flush registered
    · split
      · exact inspectChain_conserves conserves registered admitted call
      · rename_i empty
        rw [nothing (not_not.mp empty)]
        exact afterFilter_conserves started

/-- The filter passes a chain on although buffers are parked, or it lets the
context go without them. -/
def FilterCall.Loses (call : FilterCall) (chain : List NgxBuf) (flow : Flow) :
    Prop :=
  flow.ctx.registered = true ∧ flow.ctx.queue ≠ [] ∧
    ((¬call.TestsVerdict flow ∧ chain ≠ []) ∨
      (call.TestsVerdict flow ∧ (flow.session.verdict = .accept ∨
        (flow.session.verdict = .inspect ∧ flow.ctx.flowError = true))))

instance (call : FilterCall) (chain : List NgxBuf) (flow : Flow) :
    Decidable (call.Loses chain flow) :=
  inferInstanceAs (Decidable (_ ∧ _ ∧ (_ ∧ _ ∨ _ ∧ (_ ∨ _ ∧ _))))

theorem reqBodyFilterAsync_of_untested (untested : ¬call.TestsVerdict flow)
    (chain : List NgxBuf) :
    reqBodyFilterAsync env request chain call flow =
      (call.downstream, flow.forward chain) := by
  rw [reqBodyFilterAsync]
  split
  · rfl
  · rename_i isSet
    split
    · rfl
    · rename_i asyncMode
      split
      · rfl
      · rename_i ready
        split
        · rfl
        · rename_i registered
          rw [not_or] at asyncMode ready
          exact (untested ⟨by simpa using isSet, asyncMode.1,
            by simpa using asyncMode.2, by simpa using ready.1,
            by simpa using ready.2, by simpa using registered⟩).elim

theorem reqBodyFilterAsync_of_tested (tests : call.TestsVerdict flow)
    (chain : List NgxBuf) :
    reqBodyFilterAsync env request chain call flow =
      if flow.session.verdict ≠ .inspect then
        if flow.session.verdict = .accept then
          (call.downstream, flow.destroyCtx.forward chain)
        else (.httpForbidden, flow.destroyCtx.forbid)
      else if flow.ctx.flowError then
        (call.downstream, flow.destroyCtx.forward chain)
      else filterInspected env request chain call (startBodyPhase flow) := by
  obtain ⟨isSet, asyncMode, enabled, ready, needed, registered⟩ := tests
  simp [reqBodyFilterAsync, isSet, asyncMode, enabled, ready, needed,
    registered]

theorem bodyFilter_conserves (conserves : flow.Conserves)
    (admitted : flow.lifecycle = .admitted) (canReceive : flow.CanReceive chain)
    (keeps : ¬call.Loses chain flow) :
    (afterFilter (reqBodyFilterAsync env request chain call
      (flow.receive chain))).Conserves := by
  by_cases tests : call.TestsVerdict flow
  · have received : call.TestsVerdict (flow.receive chain) := tests
    have registered := tests.2.2.2.2.2
    -- a context that is let go has parked nothing
    have letsGo (decided : flow.session.verdict = .accept ∨
        (flow.session.verdict = .inspect ∧ flow.ctx.flowError = true)) :
        (afterFilter (call.downstream,
          (flow.receive chain).destroyCtx.forward chain)).Conserves := by
      have empty : flow.ctx.queue = [] := by
        by_contra parked
        exact keeps ⟨registered, parked, .inr ⟨tests, decided⟩⟩
      have whole : flow.received ++ chain = flow.forwarded ++ chain := by
        rw [conserves.parked registered, empty, List.append_nil]
      have gone :
          ((flow.receive chain).forward chain).destroyCtx.Conserves := by
        apply conserves_of_destroyed
        · change flow.forwarded ++ chain <+: flow.received ++ chain
          exact whole ▸ List.prefix_rfl
        · intro _
          exact whole
        · intro pending
          exact nomatch admitted.symm.trans pending
      exact afterFilter_conserves gone
    rw [reqBodyFilterAsync_of_tested received]
    split
    · split
      · rename_i accept
        exact letsGo (.inl accept)
      · have closed :
            (flow.receive chain).forbid.destroyCtx.close.Conserves :=
          conserves_of_closed
            (conserves.ordered.trans (List.prefix_append _ _))
        exact closed
    · rename_i inspected
      split
      · rename_i error
        exact letsGo (.inr ⟨not_not.mp inspected, error⟩)
      · exact filterInspected_conserves conserves registered
          admitted canReceive call
  · have untested : ¬call.TestsVerdict (flow.receive chain) := tests
    rw [reqBodyFilterAsync_of_untested untested]
    apply afterFilter_conserves
    apply conserves_of_passed conserves admitted
    intro registered parked
    by_contra filled
    exact keeps ⟨registered, parked, .inl ⟨tests, filled⟩⟩

/-- To forward an empty queue changes nothing once the queue is freed. -/
theorem Flow.queueFree_flushed (flow : Flow) :
    (if flow.ctx.queue = [] then flow
      else flow.forward flow.ctx.queue).queueFree =
      (flow.forward flow.ctx.queue).queueFree := by
  split
  · rename_i empty
    rw [empty]
    simp [Flow.forward]
  · rfl

theorem postedResume_conserves (conserves : flow.Conserves) {downstream : NgxRc}
    (passes : flow.ctx.registered = true → flow.ctx.queue ≠ [] →
      downstream ≠ .again) :
    (postedResume downstream flow).Conserves := by
  rw [postedResume]
  split
  · exact conserves
  · rename_i found
    rw [not_or, Bool.not_eq_false, Bool.not_eq_false] at found
    have registered := found.2
    dsimp only
    split
    · rename_i busy
      exact (passes registered busy.1 busy.2).elim
    · rw [flow.queueFree_flushed]
      split
      · have gone := conserves.flushAll registered
        exact gone.carry (.of_same rfl rfl rfl rfl)
      · exact conserves.flush registered

variable (settings env request)

/-- The step loses, repeats or overtakes parked buffers. -/
def Flow.LosesParked (flow : Flow) (input : Input) : Prop :=
  flow.ctx.registered = true ∧ flow.ctx.queue ≠ [] ∧
    match input with
    | .bodyFilter chain call => call.Loses chain flow
    | .reply reply => flow.RepliesPast settings reply
    | .agentEvent => flow.PassesComplete settings
    | .deadlineEvent =>
        flow.ctx.stage ≠ .complete ∧ flow.ctx.flowError = false ∧
          flow.deadlineFailMode settings = .ok
    | .cleanupEvent =>
        flow.ctx.stage ≠ .complete ∧ settings.failModeVerdict = .ok
    | .resumeEvent _ downstream => downstream = .again
    | .cleanup =>
        flow.ctx.stage ≠ .body ∧ flow.ctx.stage ≠ .waitBodyVerdict ∧
          settings.failModeVerdict = .ok
    | .asyncInit => flow.isInitialized = false
    | .headerHandler _ | .requestFreed => False

instance (flow : Flow) : ∀ input, Decidable (flow.LosesParked settings input)
  | .bodyFilter chain call =>
      inferInstanceAs (Decidable (_ ∧ _ ∧ call.Loses chain flow))
  | .reply reply =>
      inferInstanceAs (Decidable (_ ∧ _ ∧ flow.RepliesPast settings reply))
  | .agentEvent =>
      inferInstanceAs (Decidable (_ ∧ _ ∧ flow.PassesComplete settings))
  | .deadlineEvent | .cleanup =>
      inferInstanceAs (Decidable (_ ∧ _ ∧ _ ∧ _ ∧ _))
  | .cleanupEvent => inferInstanceAs (Decidable (_ ∧ _ ∧ _ ∧ _))
  | .resumeEvent _ _ | .asyncInit | .headerHandler _ | .requestFreed =>
      inferInstanceAs (Decidable (_ ∧ _ ∧ _))

theorem step_conserves {input : Input} (conserves : flow.Conserves)
    (keeps : ¬flow.LosesParked settings input)
    (stepped : step settings env request flow input = some next) :
    next.Conserves := by
  have parks := conserves.parksInBody
  cases input with
  | headerHandler call =>
      obtain ⟨pending, same⟩ := Option.ite_none_right_eq_some.mp stepped
      cases same
      apply afterHandler_conserves
      exact reqHeaderHandlerAsync_untouched
        ⟨conserves, conserves.unread pending⟩ call
  | bodyFilter chain call =>
      obtain ⟨⟨admitted, canReceive⟩, same⟩ :=
        Option.ite_none_right_eq_some.mp stepped
      cases same
      apply bodyFilter_conserves conserves admitted canReceive
      intro loses
      exact keeps ⟨loses.1, loses.2.1, loses⟩
  | reply reply =>
      apply conserves.carry
      apply drainReply_carries parks _ stepped
      intro registered parked past
      exact keeps ⟨registered, parked, past⟩
  | agentEvent =>
      obtain ⟨_, same⟩ := Option.ite_none_right_eq_some.mp stepped
      cases same
      have cancelled : flow.Carries flow.cancelAgentTimer :=
        .of_same rfl rfl rfl rfl
      apply conserves.carry
      apply cancelled.trans
      apply eventHandler_carries (cancelled.parksInBody parks)
      intro registered parked passes
      exact keeps ⟨registered, parked, passes⟩
  | deadlineEvent =>
      obtain ⟨_, same⟩ := Option.ite_none_right_eq_some.mp stepped
      cases same
      have cancelled : flow.Carries flow.cancelDeadlineTimer :=
        .of_same rfl rfl rfl rfl
      apply conserves.carry
      apply cancelled.trans
      apply deadlineHandler_carries (cancelled.parksInBody parks)
      intro registered parked incomplete noError failOpen
      exact keeps ⟨registered, parked, incomplete, noError, failOpen⟩
  | cleanupEvent =>
      obtain ⟨_, same⟩ := Option.ite_none_right_eq_some.mp stepped
      cases same
      have expired : flow.Carries (flow.updateCtx fun ctx =>
          { ctx with cleanupTimer := false }) :=
        .of_same rfl rfl rfl rfl
      apply conserves.carry
      apply expired.trans
      apply contextCleanupHandler_carries (expired.parksInBody parks)
      intro registered parked incomplete failOpen
      exact keeps ⟨registered, parked, incomplete, failOpen⟩
  | resumeEvent posted downstream =>
      cases posted with
      | true =>
          obtain ⟨_, same⟩ := Option.ite_none_right_eq_some.mp stepped
          cases same
          have taken : flow.Carries (flow.updateCtx fun ctx =>
              { ctx with resumePosted := false }) :=
            .of_same rfl rfl rfl rfl
          apply postedResume_conserves (conserves.carry taken)
          intro registered parked busy
          exact keeps ⟨registered, parked, busy⟩
      | false =>
          obtain ⟨_, same⟩ := Option.ite_none_right_eq_some.mp stepped
          cases same
          have taken : flow.Carries (flow.updateCtx fun ctx =>
              { ctx with resumeTimer := false }) :=
            .of_same rfl rfl rfl rfl
          apply postedResume_conserves (conserves.carry taken)
          intro registered parked busy
          exact keeps ⟨registered, parked, busy⟩
  | cleanup =>
      cases stepped
      apply conserves.carry
      apply cleanupImpl_carries parks
      intro registered parked notBody notWaiting failOpen
      exact keeps ⟨registered, parked, notBody, notWaiting, failOpen⟩
  | asyncInit =>
      cases stepped
      apply conserves.carry
      apply asyncInit_carries
      intro registered parked
      by_contra uninitialized
      exact keeps ⟨registered, parked,
        (Bool.not_eq_true _).mp uninitialized⟩
  | requestFreed =>
      cases stepped
      exact conserves_of_closed conserves.ordered

/-- The bytes of the buffers, in order. -/
def bytesOf (bufs : List NgxBuf) : List UInt8 :=
  (bufs.map NgxBuf.bytes).flatten

/-- No byte of the body is lost, repeated or overtaken: what went on is a
prefix of what was received, the rest is parked, and an open request without
its context has got all of it. -/
structure Flow.BodyIntact (flow : Flow) : Prop where
  ordered : bytesOf flow.forwarded <+: bytesOf flow.received
  parked : flow.ctx.registered = true →
    bytesOf flow.received = bytesOf flow.forwarded ++ bytesOf flow.ctx.queue
  whole : flow.ctx.registered = false → flow.lifecycle ≠ .closed →
    bytesOf flow.forwarded = bytesOf flow.received

theorem bytesOf_append (first second : List NgxBuf) :
    bytesOf (first ++ second) = bytesOf first ++ bytesOf second := by
  rw [bytesOf, List.map_append, List.flatten_append]
  rfl

theorem Flow.Conserves.bodyIntact (conserves : flow.Conserves) :
    flow.BodyIntact where
  ordered := by
    obtain ⟨rest, whole⟩ := conserves.ordered
    rw [← whole, bytesOf_append]
    exact List.prefix_append _ _
  parked := by
    intro registered
    rw [conserves.parked registered, bytesOf_append]
  whole := by
    intro unregistered isOpen
    rw [conserves.passed unregistered isOpen]

/-- A run keeps the body intact, if no step loses, repeats or overtakes parked
buffers. -/
theorem body_forwarded_intact {isInitialized : Bool} {inputs : List Input}
    {final : Flow}
    (keeps : Every (step settings env request)
      (fun flow input => ¬flow.LosesParked settings input)
      (.start isInitialized) inputs)
    (ran : runPartial (step settings env request) (.start isInitialized)
      inputs = some final) :
    final.BodyIntact := by
  have started : (Flow.start isInitialized).Conserves :=
    { ordered := List.prefix_rfl
      parked := nofun
      passed := fun _ _ => rfl
      unread := fun _ => rfl
      seenLast := nofun
      released := nofun
      parksInBody := nofun }
  have conserves : final.Conserves := by
    apply runPartial_invariant Flow.Conserves _ started keeps ran
    intro flow input next conserves keeps stepped
    exact step_conserves settings env request conserves keeps stepped
  exact conserves.bodyIntact

end Events

/-- A body of two chunks goes on after its inspection. -/
theorem body_of_two_chunks_forwarded :
    let inputs :=
      [.headerHandler plainHandlerCall, .reply (plainReply .inspect),
        .reply (plainReply .inspect), .headerHandler plainHandlerCall,
        .bodyFilter [{ bytes := [65], lastBuf := false }] plainFilterCall,
        .reply (plainReply .inspect), .resumeEvent true .ok,
        .bodyFilter [{ bytes := [66], lastBuf := true }] plainFilterCall,
        .reply (plainReply .inspect), .reply (plainReply .inspect),
        .resumeEvent true .ok]
    ∃ final,
      runPartial (step (plainSettings true) plainEnvironment plainRequest)
          (.start true) inputs = some final ∧
        final.BodyIntact := by
  intro inputs
  have returns : (runPartial
      (step (plainSettings true) plainEnvironment plainRequest)
      (.start true) inputs).isSome := by
    decide
  obtain ⟨final, ran⟩ := Option.isSome_iff_exists.mp returns
  refine ⟨final, ran, ?_⟩
  exact body_forwarded_intact (plainSettings true) plainEnvironment
    plainRequest (by decide) ran

/-- The service accepts a session with a parked chunk, and the body filter is
called before the resume event: the context goes with its queue. -/
theorem parked_chunk_lost :
    let inputs :=
      [.headerHandler plainHandlerCall, .reply (plainReply .inspect),
        .reply (plainReply .inspect), .headerHandler plainHandlerCall,
        .bodyFilter [{ bytes := [65], lastBuf := false }] plainFilterCall,
        .reply (plainReply .accept),
        .bodyFilter [{ bytes := [66], lastBuf := true }] plainFilterCall]
    ∃ final,
      runPartial (step (plainSettings true) plainEnvironment plainRequest)
          (.start true) inputs = some final ∧
        bytesOf final.received = [65, 66] ∧ bytesOf final.forwarded = [66] ∧
        final.ctx.registered = false ∧ final.lifecycle = .admitted ∧
        ¬final.BodyIntact := by
  intro inputs
  have lost : (runPartial
      (step (plainSettings true) plainEnvironment plainRequest)
      (.start true) inputs).map (fun flow =>
        (bytesOf flow.received, bytesOf flow.forwarded, flow.ctx.registered,
          flow.lifecycle)) =
        some ([65, 66], [66], false, .admitted) := by
    decide
  obtain ⟨final, ran, same⟩ := Option.map_eq_some_iff.mp lost
  have received : bytesOf final.received = [65, 66] := congrArg Prod.fst same
  have forwarded : bytesOf final.forwarded = [66] :=
    congrArg (fun result => result.2.1) same
  refine ⟨final, ran, received, forwarded,
    congrArg (fun result => result.2.2.1) same,
    congrArg (fun result => result.2.2.2) same, ?_⟩
  intro intact
  have ordered := intact.ordered
  rw [received, forwarded] at ordered
  exact absurd ordered (by decide)

end OpenAppsec.Async
