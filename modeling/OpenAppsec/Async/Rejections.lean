import OpenAppsec.Async.Steps

/-!
# Rejections of an asynchronous session

A rejection is justified when the session has a blocking verdict that the
service or a fail-close decision put there.  The verdict test of the body
filter and the last case of the complete stage reject other verdicts too; a
run that never takes them rejects with good reason only.
-/

namespace OpenAppsec.Async

open Nginx (NgxBuf)
open Trace

variable {flow other : Flow}

def Origin.Decides (origin : Origin) : Prop :=
  origin = .service ∨ origin = .failMode

instance (origin : Origin) : Decidable origin.Decides :=
  inferInstanceAs (Decidable (_ ∨ _))

structure Rejection.Justified (rejection : Rejection) : Prop where
  blocking : isVerdictDropOrCustom rejection.verdict
  decided : rejection.origin.Decides

instance (rejection : Rejection) : Decidable rejection.Justified :=
  decidable_of_iff
    (isVerdictDropOrCustom rejection.verdict ∧ rejection.origin.Decides)
    ⟨fun both => ⟨both.1, both.2⟩, fun both => ⟨both.1, both.2⟩⟩

/-- Every rejection of the session is justified. -/
def Flow.RejectsJustly (flow : Flow) : Prop :=
  ∀ rejection ∈ flow.rejections, rejection.Justified

/-- A blocking verdict has an author who may block. -/
def Flow.Attributed (flow : Flow) : Prop :=
  isVerdictDropOrCustom flow.session.verdict →
    flow.session.verdictOrigin.Decides

structure Flow.Sound (flow : Flow) : Prop where
  attributed : flow.Attributed
  rejectsJustly : flow.RejectsJustly

namespace Flow.Sound

/-- Only the verdict, its author and the rejections matter. -/
theorem congr (sound : flow.Sound)
    (verdict : other.session.verdict = flow.session.verdict)
    (origin : other.session.verdictOrigin = flow.session.verdictOrigin)
    (rejections : other.rejections = flow.rejections) : other.Sound := by
  constructor
  · rw [Attributed, verdict, origin]
    exact sound.attributed
  · rw [RejectsJustly, rejections]
    exact sound.rejectsJustly

theorem sendsOnly (sound : flow.Sound) (sent : flow.SendsOnly other) :
    other.Sound := by
  obtain ⟨calls, enqueued, rfl⟩ := sent
  exact sound.congr rfl rfl rfl

theorem setVerdict (sound : flow.Sound) (verdict : ServiceVerdict)
    {origin : Origin}
    (decides : isVerdictDropOrCustom verdict → origin.Decides) :
    (flow.setVerdict verdict origin).Sound :=
  ⟨decides, sound.rejectsJustly⟩

theorem fail (sound : flow.Sound) (failMode : NgxRc) :
    (flow.fail failMode).Sound :=
  sound.setVerdict _ fun _ => .inr rfl

/-- A rejection with a blocking verdict is justified. -/
theorem forbid (sound : flow.Sound)
    (blocking : isVerdictDropOrCustom flow.session.verdict) :
    flow.forbid.Sound := by
  refine ⟨sound.attributed, ?_⟩
  apply List.forall_mem_append.mpr ⟨sound.rejectsJustly, ?_⟩
  intro rejection member
  rw [List.mem_singleton.mp member]
  exact ⟨blocking, sound.attributed blocking⟩

end Flow.Sound

/-- The verdicts that the complete stage leaves to the fail mode. -/
def Undecided (verdict : ServiceVerdict) : Prop :=
  ¬(verdict = .accept ∨ verdict = .inspect ∨ verdict = .irrelevant) ∧
    ¬isVerdictDropOrCustom verdict

instance (verdict : ServiceVerdict) : Decidable (Undecided verdict) :=
  inferInstanceAs (Decidable (_ ∧ _))

section Stages

variable (settings : Settings) (env : Environment) (request : Request)

variable {next : Flow}

/-- In fail-close mode, `ngx_cp_async_continue_processing` completes the
session although its verdict decides nothing. -/
def Flow.CompletesUndecided (flow : Flow) : Prop :=
  settings.failModeVerdict ≠ .ok ∧ flow.ctx.flowError = false ∧
    Undecided flow.session.verdict ∧
    (flow.ctx.stage = .complete ∨
      (flow.ctx.stage = .waitEndVerdict ∧ flow.session.verdict ≠ .delayed ∧
        flow.ctx.bodyPhaseStarted = false))

instance (flow : Flow) : Decidable (flow.CompletesUndecided settings) :=
  inferInstanceAs (Decidable (_ ∧ _ ∧ _ ∧ (_ ∨ _ ∧ _ ∧ _)))

/-- The wait stages that `ngx_cp_async_continue_processing` knows. -/
def waitStages : List Stage :=
  [.waitHeaderVerdict, .waitEndVerdict, .waitBodyVerdict]

theorem failVerdict_of_ne {failMode : NgxRc} (closed : failMode ≠ .ok) :
    isVerdictDropOrCustom (failVerdict failMode) := by
  rw [failVerdict, if_neg closed]
  exact .inl rfl

variable {settings env request}

theorem finalizeRequestHeadersHook_sound (sound : flow.Sound) :
    (finalizeRequestHeadersHook settings env request flow).Sound ∧
      (Undecided (finalizeRequestHeadersHook settings env
          request flow).session.verdict →
        Undecided flow.session.verdict) := by
  obtain ⟨calls, inspected, same | ⟨_, failed⟩⟩ :=
    finalizeRequestHeadersHook_cases settings env request flow
  · rw [same]
    exact ⟨sound.congr rfl rfl rfl, id⟩
  · rw [failed]
    constructor
    · apply Flow.Sound.fail
      exact sound.congr rfl rfl rfl
    · intro undecided
      by_cases failOpen : settings.failModeVerdict = .ok
      · apply undecided.1.elim
        exact .inl (if_pos failOpen)
      · exact undecided.2.elim (failVerdict_of_ne failOpen)

theorem processCompleteStage_sound (sound : flow.Sound)
    (decided : settings.failModeVerdict ≠ .ok →
      ¬Undecided flow.session.verdict) :
    (processCompleteStage settings env request flow).2.Sound := by
  have cancelled : flow.cancelDeadlineTimer.Sound := sound.congr rfl rfl rfl
  obtain ⟨finalized, undecided⟩ :=
    finalizeRequestHeadersHook_sound cancelled
  rw [processCompleteStage]
  split
  · exact finalized.congr rfl rfl rfl
  · rename_i notPassed
    split
    · rename_i blocking
      apply Flow.Sound.forbid _ blocking
      exact finalized.congr rfl rfl rfl
    · rename_i notBlocking
      split
      · exact finalized.congr rfl rfl rfl
      · rename_i failClose
        exact (decided failClose (undecided ⟨notPassed, notBlocking⟩)).elim

theorem not_undecided_failVerdict (failMode : NgxRc) :
    ¬Undecided (failVerdict failMode) := by
  intro undecided
  by_cases failOpen : failMode = .ok
  · apply undecided.1
    exact .inl (if_pos failOpen)
  · exact undecided.2 (failVerdict_of_ne failOpen)

theorem afterSender_sound {markSent : AsyncCtx → AsyncCtx}
    {sent : NgxRc × Nat × Flow} (sound : sent.2.2.Sound) :
    (afterSender settings env request markSent sent).2.Sound := by
  obtain ⟨rc, numMessagesSent, flow⟩ := sent
  rw [afterSender]
  split
  · apply processCompleteStage_sound
    · apply Flow.Sound.fail
      exact sound.congr rfl rfl rfl
    · intro _
      apply not_undecided_failVerdict
  · exact sound.congr rfl rfl rfl

theorem processBodyStage_sound (sound : flow.Sound) :
    (processBodyStage settings env request flow).2.Sound := by
  rw [processBodyStage]
  split
  · rename_i blocking
    apply processCompleteStage_sound
    · exact sound.congr rfl rfl rfl
    · intro _ undecided
      exact undecided.2 blocking
  · split
    · exact sound
    · split
      · exact sound.congr rfl rfl rfl
      · exact sound.congr rfl rfl rfl

/-- A decision is needed in the complete stage only. -/
theorem continueWith_sound {handleWait : Flow → NgxRc × Flow}
    (sound : flow.Sound)
    (decided : flow.ctx.flowError = false → flow.ctx.stage = .complete →
      settings.failModeVerdict ≠ .ok → ¬Undecided flow.session.verdict)
    (waits : flow.ctx.flowError = false → flow.ctx.stage ∈ waitStages →
      (handleWait flow).2.Sound) :
    (continueWith settings env request handleWait flow).2.Sound := by
  rw [continueWith]
  split
  · split
    · exact sound.fail _
    · rename_i failClose
      exact (sound.fail _).forbid (failVerdict_of_ne failClose)
  · rename_i noError
    have noError : flow.ctx.flowError = false := by simpa using noError
    split
    · split
      · exact sound
      · have sent := sendMetaDataNonblocking_sendsOnly env request settings flow
        dsimp only
        split
        · apply (sound.sendsOnly sent).setVerdict
          intro blocking
          exact absurd blocking (by decide)
        · exact afterSender_sound (sound.sendsOnly sent)
    · split
      · exact sound
      · apply afterSender_sound
        exact sound.sendsOnly (sendHeadersNonblocking_sendsOnly env request _)
    · split
      · exact sound
      · apply afterSender_sound
        obtain ⟨sent, calls, enqueued, same⟩ :=
          sendEndTransactionNonblocking_frame env request flow
        rw [same]
        exact sound.congr rfl rfl rfl
    · exact processBodyStage_sound sound
    · rename_i isStage
      exact waits noError (by simp [isStage, waitStages])
    · rename_i isStage
      exact waits noError (by simp [isStage, waitStages])
    · rename_i isStage
      exact waits noError (by simp [isStage, waitStages])
    · rename_i isStage
      apply processCompleteStage_sound sound
      exact decided noError isStage
    · exact sound
    · exact sound
    · exact sound
    · exact sound

theorem eventHandlerWith_sound {continueProcessing : Flow → NgxRc × Flow}
    (sound : flow.Sound)
    (continued : flow.ctx.registered = true →
      (continueProcessing flow).2.Sound) :
    (eventHandlerWith continueProcessing flow).Sound := by
  rw [eventHandlerWith]
  split
  · exact sound
  · rename_i registered
    have continued := continued (by simpa using registered)
    rcases result : continueProcessing flow with ⟨rc, next⟩
    rw [result] at continued
    dsimp only at continued ⊢
    split
    · exact continued
    · split
      · exact continued.congr rfl rfl rfl
      · split
        · split
          · split
            · exact continued.congr rfl rfl rfl
            · exact continued.congr rfl rfl rfl
          · split
            · exact continued.congr rfl rfl rfl
            · exact continued.congr rfl rfl rfl
        · exact continued

theorem eventHandlerAfterWait_sound (sound : flow.Sound)
    (decided : flow.ctx.flowError = false → flow.ctx.stage = .complete →
      settings.failModeVerdict ≠ .ok → ¬Undecided flow.session.verdict) :
    (eventHandlerAfterWait settings env request flow).Sound := by
  apply eventHandlerWith_sound sound
  intro _
  apply continueWith_sound sound decided
  intro _ _
  exact sound

theorem failWait_sound (sound : flow.Sound) :
    (failWait settings flow).Sound :=
  (sound.fail settings.failModeHoldVerdict).congr rfl rfl rfl

/-- A wait without a blocking verdict completes the session at its end
only. -/
theorem stageAfterWait_complete (waits : flow.ctx.stage ∈ waitStages)
    (passes : ¬isVerdictDropOrCustom flow.session.verdict)
    (complete : stageAfterWait flow = .complete) :
    flow.ctx.stage = .waitEndVerdict ∧ flow.ctx.bodyPhaseStarted = false := by
  rw [stageAfterWait] at complete
  split at complete
  · rw [if_neg passes] at complete
    cases complete
  · rename_i isStage
    split at complete
    · cases complete
    · rename_i notStarted
      exact ⟨isStage, by simpa using notStarted⟩
  · rw [if_neg passes] at complete
    cases complete
  · rename_i notHeader notEnd notBody
    simp only [waitStages, List.mem_cons, List.not_mem_nil, or_false] at waits
    exact (waits.elim notHeader (Or.elim · notEnd notBody)).elim

theorem handleWaitVerdict_sound (sound : flow.Sound)
    (waits : flow.ctx.stage ∈ waitStages)
    (decided : ¬flow.CompletesUndecided settings) :
    (handleWaitVerdict settings env request flow).2.Sound := by
  have failed {flow : Flow} (sound : flow.Sound) :
      (eventHandlerAfterWait settings env request
        (failWait settings flow)).Sound := by
    apply eventHandlerAfterWait_sound
    · exact failWait_sound sound
    · intro _ complete
      cases complete
  rw [handleWaitVerdict]
  split
  · exact failed sound
  · rename_i noError
    have noError : flow.ctx.flowError = false := by simpa using noError
    split
    · rename_i resolved
      rw [transitionAfterWait, noError, if_neg Bool.false_ne_true,
        if_neg resolved]
      apply eventHandlerAfterWait_sound
      · exact sound.congr rfl rfl rfl
      · intro _ complete failClose undecided
        have undecided : Undecided flow.session.verdict := undecided
        have complete : stageAfterWait flow = .complete := complete
        obtain ⟨isEnd, notStarted⟩ :=
          stageAfterWait_complete waits undecided.2 complete
        exact decided ⟨failClose, noError, undecided,
          .inr ⟨isEnd, resolved, notStarted⟩⟩
    · have sent := sound.sendsOnly (waitSignalSender_sendsOnly env request flow)
      dsimp only
      split
      · exact failed sent
      · exact sent.congr rfl rfl rfl

theorem continueProcessing_sound (sound : flow.Sound)
    (decided : ¬flow.CompletesUndecided settings) :
    (continueProcessing settings env request flow).2.Sound := by
  apply continueWith_sound sound
  · intro noError complete failClose undecided
    exact decided ⟨failClose, noError, undecided, .inl complete⟩
  · intro _ waits
    exact handleWaitVerdict_sound sound waits decided

theorem eventHandler_sound (sound : flow.Sound)
    (decided : ¬flow.CompletesUndecided settings) :
    (eventHandler settings env request flow).Sound :=
  eventHandlerWith_sound sound fun _ =>
    continueProcessing_sound sound decided

variable (settings env request)

/-- In fail-close mode, a reply completes the session although its verdict
decides nothing. -/
def Flow.RepliesUndecided (reply : VerdictReply) (flow : Flow) : Prop :=
  settings.failModeVerdict ≠ .ok ∧ Undecided reply.verdict ∧
    reply.verdict ≠ .reconf ∧ reply.verdict ≠ .limitResponseHeaders ∧
    flow.ctx.registered = true ∧ flow.ctx.flowError = false ∧
    flow.session.remainingMessagesToReply ≤ 1 ∧
    (flow.ctx.stage = .complete ∨
      (flow.ctx.stage = .endTransaction ∧ reply.verdict ≠ .delayed))

instance (reply : VerdictReply) (flow : Flow) :
    Decidable (flow.RepliesUndecided settings reply) :=
  inferInstanceAs (Decidable (_ ∧ _ ∧ _ ∧ _ ∧ _ ∧ _ ∧ _ ∧ (_ ∨ _ ∧ _)))

variable {settings env request}

theorem applyVerdictForStage_completes
    (goesOn : (applyVerdictForStage request flow).1 = .ok)
    (passes : ¬isVerdictDropOrCustom flow.session.verdict)
    (completes :
      (applyVerdictForStage request flow).2.CompletesUndecided settings) :
    flow.ctx.stage = .complete ∨
      (flow.ctx.stage = .endTransaction ∧
        flow.session.verdict ≠ .delayed) := by
  obtain ⟨_, _, _, complete | ⟨waitEnd, _, _⟩⟩ := completes
  · rw [applyVerdictForStage_stage] at complete
    exact stageAfterReply_complete request passes complete
  · rw [applyVerdictForStage_stage] at waitEnd
    exact ((applyVerdictForStage_ok request goesOn).1 waitEnd).elim

theorem Flow.Sound.sameRecord (sound : flow.Sound)
    (same : flow.SameRecord other) : other.Sound :=
  sound.congr same.verdict same.verdictOrigin same.rejections

theorem finishReply_sound (sound : flow.Sound)
    (decided : settings.failModeVerdict ≠ .ok → flow.ctx.flowError = false →
      flow.session.remainingMessagesToReply = 0 →
      Undecided flow.session.verdict →
      ¬(flow.ctx.stage = .complete ∨
        (flow.ctx.stage = .endTransaction ∧
          flow.session.verdict ≠ .delayed))) :
    (finishReply settings env request flow).Sound := by
  rw [finishReply]
  split
  · rename_i selects
    have same := applyVerdictForStage_sameRecord request flow
    have selected := sound.sameRecord same
    dsimp only
    split
    · rename_i goesOn
      apply eventHandler_sound selected
      intro completes
      obtain ⟨failClose, noError, undecided, _⟩ := id completes
      rw [same.flowError] at noError
      rw [same.verdict] at undecided
      have stage := applyVerdictForStage_completes goesOn undecided.2 completes
      apply decided failClose noError _ undecided stage
      apply selects.resolve_right
      rintro ⟨_, isBody⟩
      rw [isBody] at stage
      simp at stage
    · exact selected
  · exact sound

theorem applyVerdict_sound {reply : VerdictReply} (sound : flow.Sound)
    (registered : flow.ctx.registered = true)
    (notReconf : reply.verdict ≠ .reconf)
    (decided : ¬flow.RepliesUndecided settings reply)
    (applied : applyVerdict settings env request reply flow = some next) :
    next.Sound := by
  have told : (flow.setVerdict reply.verdict .service).Sound :=
    sound.setVerdict _ fun _ => .inl rfl
  have noted := noteVerdict_sameStage reply flow
  obtain ⟨_, rfl⟩ | ⟨notLimit, taken, isTaken, rfl⟩ :=
    applyVerdict_cases settings env request applied
  · exact told.sameRecord noted.toSameRecord
  · have same := noted.trans (takeReply_sameStage isTaken)
    apply finishReply_sound (told.sameRecord same.toSameRecord)
    intro failClose noError answered undecided stage
    rw [same.flowError] at noError
    rw [same.verdict] at undecided stage
    rw [same.stage] at stage
    rw [takeReply_remaining undecided.2 isTaken, noteVerdict_remaining]
      at answered
    exact decided ⟨failClose, undecided, notReconf, notLimit, registered,
      noError, Nat.sub_eq_zero_iff_le.mp answered, stage⟩

theorem drainReply_sound {reply : VerdictReply} (sound : flow.Sound)
    (decided : ¬flow.RepliesUndecided settings reply)
    (drained : drainReply settings env request reply flow = some next) :
    next.Sound := by
  rw [drainReply] at drained
  split at drained
  · cases drained
    exact sound
  · rename_i notReconf
    split at drained
    · cases drained
      exact sound
    · rename_i found
      rw [not_or, Bool.not_eq_false] at found
      exact applyVerdict_sound sound found.1 notReconf decided drained

theorem eventHandler_fail_sound (sound : flow.Sound) (failMode : NgxRc)
    {ended : Flow}
    (same : (flow.fail failMode).session.verdict = ended.session.verdict)
    (origin : (flow.fail failMode).session.verdictOrigin =
      ended.session.verdictOrigin)
    (rejections : ended.rejections = flow.rejections) :
    (eventHandler settings env request ended).Sound := by
  apply eventHandler_sound
  · exact (sound.fail failMode).congr same.symm origin.symm rejections
  · rintro ⟨_, _, undecided, _⟩
    rw [← same] at undecided
    exact not_undecided_failVerdict failMode undecided

theorem deadlineHandler_sound (sound : flow.Sound) :
    (deadlineHandler settings env request flow).Sound := by
  rw [deadlineHandler]
  split
  · exact sound
  · split
    · exact sound
    · split
      · exact sound
      · exact eventHandler_fail_sound sound _ rfl rfl rfl

theorem contextCleanupHandler_sound (sound : flow.Sound) :
    (contextCleanupHandler settings env request flow).Sound := by
  rw [contextCleanupHandler]
  split
  · exact sound
  · split
    · exact sound
    · exact eventHandler_fail_sound sound _ rfl rfl rfl

theorem cleanupImpl_sound (sound : flow.Sound) :
    (cleanupImpl settings env request flow).Sound := by
  rw [cleanupImpl]
  split
  · exact sound.congr rfl rfl rfl
  · dsimp only
    refine (eventHandler_fail_sound sound
      settings.failModeVerdict ?_ ?_ ?_).congr rfl rfl rfl
    · split <;> split <;> rfl
    · split <;> split <;> rfl
    · split <;> split <;> rfl

theorem Flow.Sound.keeps (sound : flow.Sound) (kept : flow.Keeps other) :
    other.Sound := by
  obtain ⟨enqueued, same⟩ := kept
  exact sound.congr same.verdict same.verdictOrigin same.rejections

/-- The header handler goes on to the table of contexts. -/
def HandlerCall.ReachesService (call : HandlerCall) (flow : Flow) : Prop :=
  call.isInTransparentMode = false ∧ call.isAttachmentDisabled = false ∧
    call.confFound = true ∧
    (flow.session.isSet = true ∨ call.sessionDataAllocated = true) ∧
    call.isAsyncModeEnabled = true

instance (call : HandlerCall) (flow : Flow) :
    Decidable (call.ReachesService flow) :=
  inferInstanceAs (Decidable (_ ∧ _ ∧ _ ∧ (_ ∨ _) ∧ _))

/-- The header handler continues the inspection of the session. -/
def HandlerCall.Continues (call : HandlerCall) (flow : Flow) : Prop :=
  call.ReachesService flow ∧ call.sessionsRateVerdict = .inspect ∧
    call.registration.Ready ∧ call.shmemCorrupted = false ∧
    flow.ctx.registered = true ∧ flow.ctx.headerDeclined = false

instance (call : HandlerCall) (flow : Flow) :
    Decidable (call.Continues flow) :=
  inferInstanceAs (Decidable (_ ∧ _ ∧ _ ∧ _ ∧ _ ∧ _))

/-- The rate limit blocks a session that the service inspects. -/
def HandlerCall.LimitsInspection (call : HandlerCall) (flow : Flow) : Prop :=
  call.ReachesService flow ∧
    isVerdictDropOrCustom call.sessionsRateVerdict ∧
    flow.ctx.registered = true

instance (call : HandlerCall) (flow : Flow) :
    Decidable (call.LimitsInspection flow) :=
  inferInstanceAs (Decidable (_ ∧ _ ∧ _))

theorem asyncInit_sound (sound : flow.Sound) :
    (asyncInit flow).Sound := by
  rw [asyncInit]
  split
  · exact sound
  · exact sound.congr rfl rfl rfl

theorem enterAsyncMode_sound (sound : flow.Sound) :
    (enterAsyncMode flow).Sound := by
  cases isSet : flow.session.isSet with
  | true =>
      rw [enterAsyncMode_of_set isSet]
      exact sound.congr rfl rfl rfl
  | false =>
      rw [enterAsyncMode_of_fresh isSet]
      refine ⟨?_, sound.rejectsJustly⟩
      intro blocking
      have blocking : isVerdictDropOrCustom .inspect := blocking
      exact absurd blocking (by decide)

theorem enterAsyncMode_completes {settings : Settings}
    (completes : (enterAsyncMode flow).CompletesUndecided settings) :
    flow.CompletesUndecided settings := by
  cases isSet : flow.session.isSet with
  | true =>
      rw [enterAsyncMode_of_set isSet] at completes
      exact completes
  | false =>
      rw [enterAsyncMode_of_fresh isSet] at completes
      have undecided : Undecided .inspect := completes.2.2.1
      exact absurd undecided (by decide)

theorem startInspection_sound (sound : flow.Sound) (call : HandlerCall) :
    (startInspection settings env request call flow).2.Sound := by
  have started :
      (startAgentCommunication settings env request call
        (createCtx flow)).2.Sound := by
    rw [startAgentCommunication]
    split
    · apply Flow.Sound.fail
      exact sound.congr rfl rfl rfl
    · apply continueProcessing_sound
      · exact sound.congr rfl rfl rfl
      · rintro ⟨_, _, _, complete | ⟨waitEnd, _⟩⟩
        · cases complete
        · cases waitEnd
  rw [startInspection]
  rcases result : startAgentCommunication settings env request call
    (createCtx flow) with ⟨finalRes, next⟩
  rw [result] at started
  dsimp only at started ⊢
  split
  · exact started.congr rfl rfl rfl
  · exact started.congr rfl rfl rfl

theorem handleRegistered_sound (sound : flow.Sound) (call : HandlerCall)
    (decided : call.shmemCorrupted = false → flow.ctx.registered = true →
      flow.ctx.headerDeclined = false →
      ¬flow.CompletesUndecided settings) :
    (handleRegistered settings env request call flow).2.Sound := by
  rw [handleRegistered]
  split
  · exact sound.fail _
  · rename_i notCorrupted
    split
    · rename_i registered
      split
      · exact sound
      · rename_i notDeclined
        apply continueProcessing_sound sound
        exact decided (by simpa using notCorrupted) registered
          (by simpa using notDeclined)
    · split
      · exact sound
      · split
        · have irrelevant : (flow.setVerdict .irrelevant .irrelevant).Sound := by
            apply sound.setVerdict
            intro blocking
            exact absurd blocking (by decide)
          exact irrelevant.congr rfl rfl rfl
        · exact sound
        · split
          · exact startInspection_sound sound call
          · exact sound

theorem handleSession_sound (sound : flow.Sound) (call : HandlerCall)
    (unlimited : call.isAsyncModeEnabled = true →
      isVerdictDropOrCustom call.sessionsRateVerdict →
      flow.ctx.registered = false)
    (decided : call.isAsyncModeEnabled = true →
      call.sessionsRateVerdict = .inspect → call.registration.Ready →
      call.shmemCorrupted = false → flow.ctx.registered = true →
      flow.ctx.headerDeclined = false →
      ¬flow.CompletesUndecided settings) :
    let after := handleSession settings env request call flow
    after.2.Sound ∨
      (after.1 = .error ∧ after.2.ctx.registered = false ∧
        after.2.RejectsJustly) := by
  dsimp only
  rw [handleSession]
  split
  · exact .inl sound
  · rename_i enabled
    have enabled : call.isAsyncModeEnabled = true := by simpa using enabled
    split
    · by_cases blocking : isVerdictDropOrCustom call.sessionsRateVerdict
      · refine .inr ⟨?_, unlimited enabled blocking, sound.rejectsJustly⟩
        apply if_neg
        rintro accept
        rw [accept] at blocking
        exact absurd blocking (by decide)
      · exact .inl (sound.setVerdict _ fun blocks => (blocking blocks).elim)
    · rename_i inspected
      have decided := decided enabled (not_not.mp inspected)
      split
      · exact .inl (sound.fail _)
      · refine .inl (sound.setVerdict _ ?_)
        intro blocking
        exact absurd blocking (by decide)
      · exact .inl sound
      · rename_i isRegistered
        exact .inl (handleRegistered_sound sound call
          (decided (.inr isRegistered)))
      · rename_i isReady
        exact .inl (handleRegistered_sound sound call (decided (.inl isReady)))

theorem handleRequest_sound (sound : flow.Sound) (call : HandlerCall)
    (unlimited : ¬call.LimitsInspection flow)
    (decided : call.Continues flow → ¬flow.CompletesUndecided settings) :
    let after := handleRequest settings env request call flow
    after.2.Sound ∨
      (after.1 = .error ∧ after.2.ctx.registered = false ∧
        after.2.RejectsJustly) := by
  dsimp only
  rw [handleRequest]
  split
  · exact .inl sound
  · rename_i notTransparent
    split
    · exact .inl sound
    · rename_i notDisabled
      split
      · exact .inl sound
      · rename_i confFound
        split
        · exact .inl sound
        · rename_i allocated
          rw [not_and_or, Bool.not_eq_false, Bool.not_eq_false] at allocated
          have reaches (enabled : call.isAsyncModeEnabled = true) :
              call.ReachesService flow :=
            ⟨by simpa using notTransparent, by simpa using notDisabled,
              by simpa using confFound, allocated, enabled⟩
          apply handleSession_sound (enterAsyncMode_sound sound)
          · intro enabled blocking
            by_contra registered
            exact unlimited ⟨reaches enabled, blocking,
              (Bool.not_eq_false _).mp registered⟩
          · intro enabled inspected ready notCorrupted registered notDeclined
            exact mt enterAsyncMode_completes
              (decided ⟨reaches enabled, inspected, ready, notCorrupted,
                registered, notDeclined⟩)

/-- The body filter tests the verdict of the session. -/
def FilterCall.TestsVerdict (call : FilterCall) (flow : Flow) : Prop :=
  flow.session.isSet = true ∧ flow.session.initialAsyncMode ≠ 0 ∧
    call.isAsyncModeEnabled = true ∧ call.isIpcReady = true ∧
    flow.session.asyncProcessingNeeded = true ∧ flow.ctx.registered = true

instance (call : FilterCall) (flow : Flow) :
    Decidable (call.TestsVerdict flow) :=
  inferInstanceAs (Decidable (_ ∧ _ ∧ _ ∧ _ ∧ _ ∧ _))

/-- The verdicts that the body filter does not reject, and those that block. -/
def FilterDecides (verdict : ServiceVerdict) : Prop :=
  verdict = .inspect ∨ verdict = .accept ∨ isVerdictDropOrCustom verdict

instance (verdict : ServiceVerdict) : Decidable (FilterDecides verdict) :=
  inferInstanceAs (Decidable (_ ∨ _ ∨ _))

theorem inspectChain_sound (sound : flow.Sound) (chain : List NgxBuf)
    (call : FilterCall) :
    (inspectChain env request chain call flow).2.Sound := by
  rw [inspectChain]
  split
  · exact sound.congr rfl rfl rfl
  · have queued : (chainAddCopy chain flow).Sound := sound.congr rfl rfl rfl
    have sent := queued.keeps (sendBufs_keeps env request chain _)
    split
    · rename_i failed next result
      rw [result] at sent
      rw [passThroughQueue]
      split
      · exact sent.congr rfl rfl rfl
      · split
        · exact sent.congr rfl rfl rfl
        · exact sent.congr rfl rfl rfl
    · rename_i next result
      rw [result] at sent
      split
      · exact sent.congr rfl rfl rfl
      · exact sent

theorem filterInspected_sound (sound : flow.Sound) (chain : List NgxBuf)
    (call : FilterCall) :
    (filterInspected env request chain call flow).2.Sound := by
  rw [filterInspected]
  split
  · exact sound.congr rfl rfl rfl
  · split
    · exact sound.congr rfl rfl rfl
    · split
      · exact inspectChain_sound sound chain call
      · exact sound

/-- What holds between the steps of a session: the verdict is attributed
while a context or the header handler may act on it. -/
structure Flow.Watched (flow : Flow) : Prop where
  attributed : flow.ctx.registered = true ∨ flow.lifecycle = .pending →
    flow.Attributed
  rejectsJustly : flow.RejectsJustly

theorem Flow.Sound.watched (sound : flow.Sound) :
    flow.Watched :=
  ⟨fun _ => sound.attributed, sound.rejectsJustly⟩

theorem Flow.Watched.sound (watched : flow.Watched)
    (acts : flow.ctx.registered = true ∨ flow.lifecycle = .pending) :
    flow.Sound :=
  ⟨watched.attributed acts, watched.rejectsJustly⟩

theorem Flow.Watched.of_idle (unregistered : flow.ctx.registered = false)
    (left : flow.lifecycle ≠ .pending) (rejectsJustly : flow.RejectsJustly) :
    flow.Watched := by
  refine ⟨?_, rejectsJustly⟩
  rintro (registered | pending)
  · rw [unregistered] at registered
    cases registered
  · exact (left pending).elim

/-- A change that concerns neither the verdict nor who may act on it. -/
theorem Flow.Watched.congr (watched : flow.Watched)
    (registered : other.ctx.registered = true → flow.ctx.registered = true)
    (lifecycle : other.lifecycle = .pending → flow.lifecycle = .pending)
    (verdict : other.session.verdict = flow.session.verdict)
    (origin : other.session.verdictOrigin = flow.session.verdictOrigin)
    (rejections : other.rejections = flow.rejections) : other.Watched := by
  constructor
  · intro acts
    rw [Attributed, verdict, origin]
    exact watched.attributed (acts.imp registered lifecycle)
  · rw [RejectsJustly, rejections]
    exact watched.rejectsJustly

/-- The filter changes no verdict, and rejects only where it tests one. -/
theorem reqBodyFilterAsync_sound (sound : flow.Sound) (chain : List NgxBuf)
    (call : FilterCall)
    (decided : call.TestsVerdict flow → FilterDecides flow.session.verdict) :
    (reqBodyFilterAsync env request chain call flow).2.Sound := by
  have passed : (flow.forward chain).Sound := sound.congr rfl rfl rfl
  rw [reqBodyFilterAsync]
  split
  · exact passed
  · rename_i isSet
    split
    · exact passed
    · rename_i asyncMode
      split
      · exact passed
      · rename_i ready
        split
        · exact passed
        · rename_i registered
          rw [not_or] at asyncMode ready
          have tests : call.TestsVerdict flow :=
            ⟨by simpa using isSet, asyncMode.1, by simpa using asyncMode.2,
              by simpa using ready.1, by simpa using ready.2,
              by simpa using registered⟩
          split
          · rename_i notInspect
            split
            · exact sound.congr rfl rfl rfl
            · rename_i notAccept
              have blocking : isVerdictDropOrCustom flow.session.verdict :=
                ((decided tests).resolve_left notInspect).resolve_left
                  notAccept
              have destroyed : flow.destroyCtx.Sound :=
                sound.congr rfl rfl rfl
              exact destroyed.forbid blocking
          · split
            · exact sound.congr rfl rfl rfl
            · apply filterInspected_sound
              exact sound.congr rfl rfl rfl

variable (settings env request)

/-- The step rejects the session although its verdict does not block. -/
def Flow.RejectsUnblocked (flow : Flow) : Input → Prop
  | .headerHandler call =>
      call.Continues (initIfEnabled call flow) ∧
        (initIfEnabled call flow).CompletesUndecided settings
  | .bodyFilter _ call =>
      call.TestsVerdict flow ∧ ¬FilterDecides flow.session.verdict
  | .reply reply => flow.RepliesUndecided settings reply
  | .agentEvent =>
      flow.ctx.registered = true ∧ flow.CompletesUndecided settings
  | _ => False

instance (flow : Flow) :
    ∀ input, Decidable (flow.RejectsUnblocked settings input)
  | .headerHandler _ | .bodyFilter _ _ | .agentEvent =>
      inferInstanceAs (Decidable (_ ∧ _))
  | .reply reply =>
      inferInstanceAs (Decidable (flow.RepliesUndecided settings reply))
  | .deadlineEvent | .cleanupEvent | .resumeEvent _ _ | .cleanup
  | .asyncInit | .requestFreed => inferInstanceAs (Decidable False)

/-- The rate limit blocks the session under its context. -/
def Flow.LimitsInspection (flow : Flow) : Input → Prop
  | .headerHandler call => call.LimitsInspection (initIfEnabled call flow)
  | _ => False

instance (flow : Flow) : ∀ input, Decidable (flow.LimitsInspection input)
  | .headerHandler call =>
      inferInstanceAs (Decidable
        (call.LimitsInspection (initIfEnabled call flow)))
  | .bodyFilter _ _ | .reply _ | .agentEvent | .deadlineEvent
  | .cleanupEvent | .resumeEvent _ _ | .cleanup | .asyncInit
  | .requestFreed => inferInstanceAs (Decidable False)

theorem afterHandler_sound {after : NgxRc × Flow} (sound : after.2.Sound) :
    (afterHandler after).Sound := by
  rw [afterHandler.eq_def]
  split
  · exact sound.congr rfl rfl rfl
  · exact sound
  · exact sound
  · exact sound.congr rfl rfl rfl

theorem afterFilter_watched {after : NgxRc × Flow}
    (watched : after.2.Watched) : (afterFilter after).Watched := by
  rw [afterFilter.eq_def]
  split
  · exact watched
  · exact watched
  · exact watched
  · exact watched
  · exact ⟨fun acts => watched.attributed (acts.imp id (nomatch ·)),
      watched.rejectsJustly⟩

/-- An event of a context that the table may have lost. -/
theorem Flow.Watched.handle (watched : flow.Watched) {handler : Flow → Flow}
    (ignored : flow.ctx.registered = false → handler flow = flow)
    (sound : flow.ctx.registered = true → flow.Sound →
      (handler flow).Sound) : (handler flow).Watched := by
  cases registered : flow.ctx.registered with
  | true => exact (sound registered (watched.sound (.inl registered))).watched
  | false =>
      rw [ignored registered]
      exact watched

theorem postedResume_watched (watched : flow.Watched) (downstream : NgxRc) :
    (postedResume downstream flow).Watched := by
  apply watched.handle
  · intro unregistered
    rw [postedResume, if_pos (.inr unregistered)]
  · intro _ sound
    rw [postedResume]
    dsimp only
    repeat' split
    all_goals exact sound.congr rfl rfl rfl

variable {settings env request}

theorem headerHandler_watched (watched : flow.Watched)
    (pending : flow.lifecycle = .pending) (call : HandlerCall)
    (unlimited : ¬flow.LimitsInspection (.headerHandler call))
    (decided : ¬flow.RejectsUnblocked settings (.headerHandler call)) :
    (afterHandler
      (reqHeaderHandlerAsync settings env request call flow)).Watched := by
  have initialized : (initIfEnabled call flow).Sound := by
    rw [initIfEnabled]
    split
    · exact asyncInit_sound (watched.sound (.inr pending))
    · exact watched.sound (.inr pending)
  have handled := @handleRequest_sound _ settings env request initialized call
    unlimited fun continues completes => decided ⟨continues, completes⟩
  rw [reqHeaderHandlerAsync]
  rcases result : handleRequest settings env request call
    (initIfEnabled call flow) with ⟨rc, after⟩
  rw [result] at handled
  obtain sound | ⟨isError, unregistered, rejectsJustly⟩ := handled
  · exact (afterHandler_sound sound).watched
  · cases isError
    exact .of_idle unregistered (nomatch ·) rejectsJustly

theorem bodyFilter_watched (watched : flow.Watched)
    (chain : List NgxBuf) (call : FilterCall)
    (decided : ¬flow.RejectsUnblocked settings (.bodyFilter chain call)) :
    (afterFilter
      (reqBodyFilterAsync env request chain call
        (flow.receive chain))).Watched := by
  apply afterFilter_watched
  cases registered : flow.ctx.registered with
  | true =>
      have received : (flow.receive chain).Sound :=
        (watched.sound (.inl registered)).congr rfl rfl rfl
      apply Flow.Sound.watched
      apply reqBodyFilterAsync_sound received
      intro tests
      by_contra undecided
      exact decided ⟨tests, undecided⟩
  | false =>
      have lost : (flow.receive chain).ctx.registered = false := registered
      rw [reqBodyFilterAsync_of_unregistered env request lost]
      exact watched.congr id id rfl rfl rfl

theorem drainReply_watched {reply : VerdictReply} (watched : flow.Watched)
    (decided : ¬flow.RejectsUnblocked settings (.reply reply))
    (drained : drainReply settings env request reply flow = some next) :
    next.Watched := by
  cases registered : flow.ctx.registered with
  | true =>
      have sound := watched.sound (.inl registered)
      exact (drainReply_sound sound decided drained).watched
  | false =>
      have lost : flow.ctx.registered = false ∨ flow.ctx.flowError = true :=
        .inl registered
      have ignored : drainReply settings env request reply flow =
          some flow := by
        rw [drainReply, if_pos lost, ite_self]
      cases ignored.symm.trans drained
      exact watched

theorem cleanupImpl_watched (watched : flow.Watched) :
    (cleanupImpl settings env request flow).Watched := by
  cases registered : flow.ctx.registered with
  | true =>
      have sound := watched.sound (.inl registered)
      exact (cleanupImpl_sound sound).watched
  | false =>
      rw [cleanupImpl, if_pos registered]
      exact watched.congr id id rfl rfl rfl

theorem step_watched {input : Input} (watched : flow.Watched)
    (unlimited : ¬flow.LimitsInspection input)
    (decided : ¬flow.RejectsUnblocked settings input)
    (stepped : step settings env request flow input = some next) :
    next.Watched := by
  cases input with
  | headerHandler call =>
      obtain ⟨pending, same⟩ := Option.ite_none_right_eq_some.mp stepped
      cases same
      exact headerHandler_watched watched pending call unlimited decided
  | bodyFilter chain call =>
      obtain ⟨_, same⟩ := Option.ite_none_right_eq_some.mp stepped
      cases same
      exact bodyFilter_watched watched chain call decided
  | reply reply =>
      exact drainReply_watched watched decided stepped
  | agentEvent =>
      obtain ⟨_, same⟩ := Option.ite_none_right_eq_some.mp stepped
      cases same
      have cancelled : flow.cancelAgentTimer.Watched :=
        watched.congr id id rfl rfl rfl
      apply cancelled.handle
      · intro unregistered
        exact if_pos unregistered
      · intro registered sound
        apply eventHandler_sound sound
        intro completes
        exact decided ⟨registered, completes⟩
  | deadlineEvent =>
      obtain ⟨_, same⟩ := Option.ite_none_right_eq_some.mp stepped
      cases same
      have cancelled : flow.cancelDeadlineTimer.Watched :=
        watched.congr id id rfl rfl rfl
      apply cancelled.handle
      · intro unregistered
        exact if_pos unregistered
      · intro _ sound
        exact deadlineHandler_sound sound
  | cleanupEvent =>
      obtain ⟨_, same⟩ := Option.ite_none_right_eq_some.mp stepped
      cases same
      have expired : (flow.updateCtx fun ctx =>
          { ctx with cleanupTimer := false }).Watched :=
        watched.congr id id rfl rfl rfl
      apply expired.handle
      · intro unregistered
        exact if_pos unregistered
      · intro _ sound
        exact contextCleanupHandler_sound sound
  | resumeEvent posted downstream =>
      cases posted with
      | true =>
          obtain ⟨_, same⟩ := Option.ite_none_right_eq_some.mp stepped
          cases same
          apply postedResume_watched
          exact watched.congr id id rfl rfl rfl
      | false =>
          obtain ⟨_, same⟩ := Option.ite_none_right_eq_some.mp stepped
          cases same
          apply postedResume_watched
          exact watched.congr id id rfl rfl rfl
  | cleanup =>
      cases stepped
      exact cleanupImpl_watched watched
  | asyncInit =>
      cases stepped
      rw [asyncInit]
      split
      · exact watched
      · exact watched.congr (nomatch ·) id rfl rfl rfl
  | requestFreed =>
      cases stepped
      exact .of_idle rfl (nomatch ·) watched.rejectsJustly

variable (settings env request)

/-- A run rejects with good reason only, if no step rejects a session that its
verdict does not block. -/
theorem rejections_justified {isInitialized : Bool} {inputs : List Input}
    {final : Flow}
    (unlimited : Every (step settings env request)
      (fun flow input => ¬flow.LimitsInspection input)
      (.start isInitialized) inputs)
    (decided : Every (step settings env request)
      (fun flow input => ¬flow.RejectsUnblocked settings input)
      (.start isInitialized) inputs)
    (ran : runPartial (step settings env request) (.start isInitialized)
      inputs = some final) :
    final.RejectsJustly := by
  have started : (Flow.start isInitialized).Watched := by
    apply Flow.Sound.watched
    constructor
    · intro blocking
      have blocking : isVerdictDropOrCustom .inspect := blocking
      exact absurd blocking (by decide)
    · exact List.forall_mem_nil _
  have watched : final.Watched := by
    apply runPartial_invariant Flow.Watched _ started (unlimited.and decided)
      ran
    intro flow input next watched guarded stepped
    exact step_watched watched guarded.1 guarded.2 stepped
  exact watched.rejectsJustly

end Stages

/-- The service drops a session whose headers it has seen. -/
theorem dropped_session_rejected_justly :
    let inputs :=
      [.headerHandler plainHandlerCall, .reply (plainReply .inspect),
        .reply (plainReply .drop)]
    ∃ final,
      runPartial (step (plainSettings true) plainEnvironment plainRequest)
          (.start true) inputs = some final ∧
        final.RejectsJustly := by
  intro inputs
  have returns : (runPartial
      (step (plainSettings true) plainEnvironment plainRequest)
      (.start true) inputs).isSome := by
    decide
  obtain ⟨final, ran⟩ := Option.isSome_iff_exists.mp returns
  refine ⟨final, ran, ?_⟩
  exact rejections_justified (plainSettings true) plainEnvironment plainRequest
    (by decide) (by decide) ran

/-- A source that needs no inspection: the body filter rejects a session that
the header handler has declined as irrelevant. -/
theorem irrelevant_session_rejected :
    let inputs :=
      [.headerHandler plainHandlerCall,
        .bodyFilter [{ bytes := [65], lastBuf := true }] plainFilterCall]
    ∃ final,
      runPartial (step (plainSettings false) plainEnvironment plainRequest)
          (.start true) inputs = some final ∧
        final.rejections =
          [{ verdict := .irrelevant, origin := .irrelevant }] ∧
        ¬final.RejectsJustly := by
  intro inputs
  have rejected : (runPartial
      (step (plainSettings false) plainEnvironment plainRequest)
      (.start true) inputs).map Flow.rejections =
        some [{ verdict := .irrelevant, origin := .irrelevant }] := by
    decide
  obtain ⟨final, ran, rejections⟩ := Option.map_eq_some_iff.mp rejected
  refine ⟨final, ran, rejections, ?_⟩
  intro just
  rw [Flow.RejectsJustly, rejections] at just
  exact absurd just (by decide)

end OpenAppsec.Async
