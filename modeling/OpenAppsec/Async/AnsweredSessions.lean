import OpenAppsec.Async.Progress

/-!
# Answered sessions

A session whose messages have all been answered is not left to its deadline:
its context is gone or complete, it waits for the client, or an event that
continues it is due.
-/

namespace OpenAppsec.Async

open Nginx (NgxBuf)
open Trace

section Stages

variable (settings : Settings) (env : Environment) (request : Request)

variable {flow next before taken : Flow} {reply : VerdictReply} {answered : Nat}
variable {verdict : ServiceVerdict} {input : Input}

/-- A reply that is counted: one message less waits for its reply, and the
stage is as before. -/
structure Flow.Counts (answer : ServiceVerdict) (before after : Flow) :
    Prop where
  isSet : after.session.isSet = before.session.isSet
  verdict : after.session.verdict = answer
  owes : after.session.remainingMessagesToReply ≤
    before.session.remainingMessagesToReply - 1
  counted : ¬isVerdictDropOrCustom answer →
    after.session.remainingMessagesToReply =
      before.session.remainingMessagesToReply - 1
  ctx : ∃ modifications deadlineTimer firstWaitVerdictEncountered,
    after.ctx =
      { before.ctx with
        modifications
        deadlineTimer
        firstWaitVerdictEncountered
        reqSeq := before.ctx.reqSeq - 1 }
  lifecycle : after.lifecycle = before.lifecycle
  isInitialized : after.isInitialized = before.isInitialized
  calls : after.calls = before.calls
  enqueued : after.enqueued = before.enqueued

theorem noteVerdict_sameVitals (reply : VerdictReply) (flow : Flow) :
    flow.SameVitals (noteVerdict reply flow) := by
  rw [noteVerdict]
  split <;> split
  all_goals constructor <;> rfl

theorem noteVerdict_ctx (reply : VerdictReply) (flow : Flow) :
    (noteVerdict reply flow).session.verdict = reply.verdict ∧
      (noteVerdict reply flow).calls = flow.calls ∧
      ∃ deadlineTimer firstWaitVerdictEncountered,
        (noteVerdict reply flow).ctx =
          { flow.ctx with deadlineTimer, firstWaitVerdictEncountered } := by
  rw [noteVerdict]
  split <;> split
  all_goals exact ⟨rfl, rfl, _, _, rfl⟩

theorem takeReply_counts
    (isTaken : takeReply reply (noteVerdict reply flow) = some taken) :
    flow.Counts reply.verdict taken := by
  have same := noteVerdict_sameVitals reply flow
  obtain ⟨verdict, calls, deadlineTimer, firstWait, ctx⟩ :=
    noteVerdict_ctx reply flow
  obtain ⟨modifications, _, rfl⟩ := Option.map_eq_some_iff.mp isTaken
  split
  · rename_i blocks
    exact
      { isSet := same.isSet
        verdict := verdict
        owes := Nat.zero_le _
        counted := fun passes => (passes blocks.1).elim
        ctx := ⟨modifications, deadlineTimer, firstWait, by
          dsimp only [countReply, blockWithResponse, Flow.updateSession,
            Flow.updateCtx]
          rw [ctx]⟩
        lifecycle := same.lifecycle
        isInitialized := same.isInitialized
        calls := calls
        enqueued := same.enqueued }
  · exact
      { isSet := same.isSet
        verdict := verdict
        owes := by
          rw [← same.remaining]
          exact Nat.le_refl _
        counted := by
          rw [← same.remaining]
          exact fun _ => rfl
        ctx := ⟨modifications, deadlineTimer, firstWait, by
          dsimp only [countReply, Flow.updateSession, Flow.updateCtx]
          rw [ctx]⟩
        lifecycle := same.lifecycle
        isInitialized := same.isInitialized
        calls := calls
        enqueued := same.enqueued }

theorem Flow.Counts.live {after : Flow} (counts : before.Counts verdict after)
    (live : before.Live answered) (waits : answered < before.enqueued.length) :
    after.Live (answered + 1) := by
  obtain ⟨_, _, _, ctx⟩ := counts.ctx
  have owes := counts.owes
  have covered := live.covered
  have bodyCovered := live.bodyCovered
  refine
    { registered := ?_
      noError := ?_
      isSet := counts.isSet.trans live.isSet
      isInitialized := counts.isInitialized.trans live.isInitialized
      covered := ?_
      bodyCovered := ?_
      unread := ?_
      ended := ?_
      opens := ?_
      metaData := ?_ }
  · rw [ctx]
    exact live.registered
  · rw [ctx]
    exact live.noError
  · rw [counts.enqueued]
    omega
  · rw [counts.enqueued, ctx]
    dsimp only
    omega
  · rw [counts.lifecycle, ctx]
    exact live.unread
  · rw [ctx]
    exact live.ended
  · rw [ctx]
    exact live.opens
  · rw [ctx]
    exact live.metaData

/-- A counted reply that is not the last one lets the stage rest. -/
theorem Flow.Counts.rests {after : Flow} (counts : before.Counts verdict after)
    (rests : before.Rests) (more : after.session.remainingMessagesToReply ≠ 0) :
    after.Rests := by
  have positive := Nat.pos_of_ne_zero more
  have owes := counts.owes
  have unpaid : before.session.remainingMessagesToReply ≠ 0 := by omega
  obtain ⟨_, _, _, ctx⟩ := counts.ctx
  rw [Flow.Rests] at rests ⊢
  rw [ctx, counts.lifecycle]
  dsimp only
  cases stage : before.ctx.stage <;> rw [stage] at rests <;>
    dsimp only at rests ⊢
  case metaData =>
    obtain sent | unsent := rests
    · exact .inl ⟨sent.1, positive⟩
    · exact (unpaid unsent.2.2.2.2).elim
  case headers => exact ⟨rests.1, positive⟩
  case endTransaction => exact ⟨rests.1, positive⟩
  case waitHeaderVerdict =>
    exact ⟨rests.1, fun pending => (unpaid (rests.2 pending)).elim⟩
  case waitEndVerdict =>
    exact ⟨rests.1, fun pending => (unpaid (rests.2 pending)).elim⟩
  case complete => exact fun pending => (unpaid (rests pending)).elim
  case body => exact fun _ => .inl positive
  all_goals exact rests

/-- The next message after a reply can be sent. -/
def Flow.DeliversAfterReply (flow : Flow) : Prop :=
  (flow.ctx.stage = .metaData →
      (sendHeadersNonblocking env request flow).1 = .ok) ∧
    (flow.ctx.stage = .headers → ¬request.doesContainBody →
      env.Accepts flow.calls)

/-- What comes of a step for the stage: it is continued by the event handler
or left where it is. -/
def StepKept (answered : Nat) (step : NgxRc × Flow) : Prop :=
  (if step.1 = .ok then eventHandler settings env request step.2
    else step.2).Kept answered

theorem StepKept.continues
    (kept : (eventHandler settings env request next).Kept answered) :
    StepKept settings env request answered (.ok, next) := by
  rw [StepKept, if_pos rfl]
  exact kept

variable {settings env request}

theorem StepKept.stays {rc : NgxRc} (stays : rc ≠ .ok)
    (live : next.Live answered) (rests : next.Rests) :
    StepKept settings env request answered (rc, next) := by
  rw [StepKept, if_neg stays]
  exact .live live rests

/-- The event handler has nothing to deliver for the body, or when the session
is complete. -/
theorem eventHandler_kept_of_quiet (live : next.Live answered)
    (enters : next.Enters) (fills : request.FillsHeaders)
    (quiet : next.ctx.stage = .body ∨ next.ctx.stage = .complete) :
    StepKept settings env request answered (.ok, next) := by
  apply StepKept.continues
  apply eventHandler_kept live enters fills
  intro _
  refine ⟨⟨fun other => ?_, fun other => ?_⟩, fun other => ?_⟩ <;>
    obtain stage | stage := quiet <;> cases stage.symm.trans other

variable (live : taken.Live answered)

include live

/-- A blocking verdict completes the session in every stage. -/
theorem blocked_kept (fills : request.FillsHeaders)
    (blocking : isVerdictDropOrCustom taken.session.verdict) :
    StepKept settings env request answered
      (.ok, taken.transition .complete) := by
  have entered : (taken.transition .complete).Enters :=
    fun _ => .inr blocking
  exact eventHandler_kept_of_quiet
    (live.transition (by decide)) entered fills (.inr rfl)

theorem afterMetaData_kept (stage : taken.ctx.stage = .metaData)
    (fills : request.FillsHeaders) (resolved : taken.session.verdict ≠ .delayed)
    (delivers : settings.failModeVerdict = .ok →
      Advances taken.session.verdict →
        taken.DeliversAfterReply env request) :
    StepKept settings env request answered
      (applyVerdictForStage request taken) := by
  rw [applyVerdictForStage, stage]
  dsimp only
  split
  · rename_i blocking
    exact blocked_kept live fills blocking
  · rename_i passes
    have unsent := live.metaData stage
    have moved : (taken.transition .headers).Live answered :=
      live.transitionOpen (.inl stage) (by simp)
    have entered : (taken.transition .headers).Enters :=
      fun sent => by cases unsent.symm.trans sent
    apply StepKept.continues
    apply eventHandler_kept moved entered fills
    intro failOpen
    refine ⟨⟨fun _ _ => ?_, by rintro ⟨⟩⟩, by rintro ⟨⟩⟩
    have delivered := (delivers failOpen ⟨passes, resolved⟩).1 stage
    rw [← delivered]
    exact sendHeadersNonblocking_result env request rfl

theorem bodyAfterHeaders_kept (stage : taken.ctx.stage = .headers) :
    StepKept settings env request answered
      (let flow := (declineHeader taken).transition .body
        let flow := flow.cancelDeadlineTimer
        if flow.ctx.waiting then
          (.declined, (flow.setWaiting false).runPhases)
        else (.declined, flow)) := by
  have unended := live.opens (.inr (.inl stage))
  have unseen : taken.ctx.reqSeenLast ≠ true := fun seen => by
    cases unended.symm.trans (live.ended seen).2
  have late : ¬Stage.body.Opens := by decide
  have moved : (taken.transition .body).Live answered := live.transition late
  dsimp only
  split
  · exact .stays (by simp) { moved with
      ended := fun seen => (unseen seen).elim } fun seen => (unseen seen).elim
  · exact .stays (by simp) { moved with } fun seen => (unseen seen).elim

theorem afterHeaders_kept (stage : taken.ctx.stage = .headers)
    (fills : request.FillsHeaders)
    (paid : taken.session.remainingMessagesToReply = 0)
    (delivers : settings.failModeVerdict = .ok →
      Advances taken.session.verdict →
        taken.DeliversAfterReply env request) :
    StepKept settings env request answered
      (applyVerdictForStage request taken) := by
  have opens : taken.ctx.stage.Opens := .inr (.inl stage)
  rw [applyVerdictForStage, stage]
  dsimp only
  split
  · rename_i blocking
    exact blocked_kept live fills blocking
  rename_i passes
  split
  · rename_i delayed
    have moved : (taken.transition .waitHeaderVerdict).Live answered :=
      live.transitionOpen opens (by simp)
    have entered : (taken.transition .waitHeaderVerdict).Enters :=
      fun _ => paid
    apply StepKept.continues
    apply eventHandler_kept moved entered fills
    intro _
    exact ⟨⟨by rintro ⟨⟩, by rintro ⟨⟩⟩, fun _ advances =>
      (advances.2 delayed).elim⟩
  rename_i resolved
  split
  · exact bodyAfterHeaders_kept live stage
  · rename_i noBody
    have entered : ((stopAsyncProcessing taken).transition
        .endTransaction).Enters :=
      fun sent => by cases (live.opens opens).symm.trans sent
    have stopped : (stopAsyncProcessing taken).Live answered := { live with }
    apply StepKept.continues
    apply eventHandler_kept (stopped.transition (by decide)) entered fills
    intro failOpen
    exact ⟨⟨by rintro ⟨⟩, fun _ _ =>
      (delivers failOpen ⟨passes, resolved⟩).2 stage noBody⟩, by rintro ⟨⟩⟩

theorem afterEndTransaction_kept (stage : taken.ctx.stage = .endTransaction)
    (fills : request.FillsHeaders)
    (paid : taken.session.remainingMessagesToReply = 0) :
    StepKept settings env request answered
      (applyVerdictForStage request taken) := by
  rw [applyVerdictForStage, stage]
  dsimp only
  split
  · rename_i blocking
    exact blocked_kept live fills blocking
  split
  · have moved := live.transition (by decide : ¬Stage.waitEndVerdict.Opens)
    exact .stays (by simp) { moved with } ⟨rfl, fun _ => paid⟩
  · have moved := live.transition (by decide : ¬Stage.complete.Opens)
    exact eventHandler_kept_of_quiet { moved with }
      (fun _ => .inl paid) fills (.inr rfl)

theorem afterBody_kept (stage : taken.ctx.stage = .body)
    (fills : request.FillsHeaders) :
    StepKept settings env request answered
      (applyVerdictForStage request taken) := by
  have enters {next : Flow} (isBody : next.ctx.stage = .body) :
      next.Enters := by
    rw [Flow.Enters, isBody]
    trivial
  rw [applyVerdictForStage, stage]
  dsimp only
  split
  · rename_i blocking
    exact blocked_kept live fills blocking
  split
  · have moved := live.transition (by decide : ¬Stage.waitBodyVerdict.Opens)
    exact .stays (by simp) { moved with } rfl
  split
  · have bounded : 0 + answered ≤ taken.enqueued.length :=
      Nat.le_trans (Nat.add_le_add_right (Nat.zero_le _) _) live.covered
    have cleared : (clearReqSeq taken).Live answered :=
      { live with bodyCovered := bounded }
    exact eventHandler_kept_of_quiet cleared (enters stage) fills (.inl stage)
  · exact eventHandler_kept_of_quiet live (enters stage) fills (.inl stage)

/-- In the wait stages the agent is asked again. -/
theorem afterWait_kept (waits : taken.ctx.stage ∈ waitStages)
    (unpaid : taken.ctx.stage ≠ .waitBodyVerdict →
      taken.session.remainingMessagesToReply = 0) :
    StepKept settings env request answered
      (applyVerdictForStage request taken) := by
  have asks : applyVerdictForStage request taken =
      (.again, taken.addAgentTimer) := by
    rw [applyVerdictForStage]
    cases stage : taken.ctx.stage <;> simp_all [waitStages]
  rw [asks]
  refine .stays (by simp) { live with } ?_
  rw [Flow.Rests]
  dsimp only [Flow.addAgentTimer, Flow.updateCtx]
  cases stage : taken.ctx.stage <;> rw [stage] at waits unpaid <;>
    simp_all [waitStages]

omit live

theorem applyVerdictForStage_kept (counts : before.Counts verdict taken)
    (live : taken.Live answered) (rests : before.Rests)
    (fires : taken.session.remainingMessagesToReply = 0 ∨
      taken.ctx.stage = .body)
    (noWait : taken.ctx.stage = .metaData → verdict ≠ .delayed)
    (fills : request.FillsHeaders)
    (delivers : settings.failModeVerdict = .ok → Advances verdict →
      taken.DeliversAfterReply env request) :
    StepKept settings env request answered
      (applyVerdictForStage request taken) := by
  have sameStage : before.ctx.stage = taken.ctx.stage := by
    obtain ⟨_, _, _, ctx⟩ := counts.ctx
    rw [ctx]
  have paid (other : taken.ctx.stage ≠ .body) := fires.resolve_right other
  rw [← counts.verdict] at noWait delivers
  rw [Flow.Rests, sameStage] at rests
  cases stage : taken.ctx.stage <;> rw [stage] at rests paid <;>
    dsimp only at rests
  case metaData =>
    exact afterMetaData_kept live stage fills (noWait stage) delivers
  case headers =>
    exact afterHeaders_kept live stage fills (paid (by simp)) delivers
  case endTransaction =>
    exact afterEndTransaction_kept live stage fills (paid (by simp))
  case body =>
    exact afterBody_kept live stage fills
  case complete =>
    rw [applyVerdictForStage, stage]
    have entered : taken.Enters := by
      rw [Flow.Enters, stage]
      exact fun _ => .inl (paid (by simp))
    exact eventHandler_kept_of_quiet live entered fills (.inr stage)
  all_goals
    refine afterWait_kept live ?_ ?_ <;> simp_all [waitStages]

theorem finishReply_kept (counts : before.Counts verdict taken)
    (live : taken.Live answered) (rests : before.Rests)
    (noWait : taken.ctx.stage = .metaData → verdict = .delayed →
      taken.session.remainingMessagesToReply ≠ 0) (fills : request.FillsHeaders)
    (delivers : settings.failModeVerdict = .ok → Advances verdict →
      taken.session.remainingMessagesToReply = 0 →
        taken.DeliversAfterReply env request) :
    (finishReply settings env request taken).Kept answered := by
  rw [finishReply]
  split
  · rename_i fires
    have fires := fires.imp id And.right
    have opening : taken.ctx.stage = .metaData ∨ taken.ctx.stage = .headers →
        taken.session.remainingMessagesToReply = 0 := by
      rintro (stage | stage) <;>
        exact fires.resolve_right fun body => by cases stage.symm.trans body
    have kept := applyVerdictForStage_kept counts live
      rests fires (fun stage delayed => noWait stage delayed
        (opening (.inl stage))) fills
      (fun failOpen advances =>
        ⟨fun stage => (delivers failOpen advances (opening (.inl stage))).1
            stage,
          fun stage => (delivers failOpen advances (opening (.inr stage))).2
            stage⟩)
    dsimp only
    exact kept
  · rename_i waits
    exact .live live (counts.rests rests (not_or.mp waits).1)

variable (settings env request)

/-- The reply is one that the session counts, unless it waits for none that
counts; its modifications do not come behind those of an earlier reply; it
does not hold the metadata back; and in fail-open mode the message that
follows it can be sent. -/
structure Flow.SteadyReply (flow : Flow) (reply : VerdictReply) : Prop where
  counted :
    reply.verdict = .limitResponseHeaders ∨ reply.verdict = .reconf →
      flow.session.remainingMessagesToReply = 0 ∧ flow.ctx.reqSeq = 0
  injects : reply.verdict = .inject → reply.injectData ≠ [] →
    flow.ctx.modifications = [] ∨ reply.ngxPcalloc 0 = false
  resolved : flow.ctx.stage = .metaData → reply.verdict = .delayed →
    1 < flow.session.remainingMessagesToReply
  delivers : settings.failModeVerdict = .ok → Advances reply.verdict →
    flow.session.remainingMessagesToReply ≤ 1 →
      flow.DeliversAfterReply env request

theorem uncounted_kept (live : flow.Live answered) (rests : flow.Rests)
    (waits : answered < flow.enqueued.length)
    (paid : flow.session.remainingMessagesToReply = 0 ∧ flow.ctx.reqSeq = 0)
    (same : flow.SameVitals next)
    (agentTimer : next.ctx.agentTimer = flow.ctx.agentTimer)
    (resumes : next.ctx.resumePosted = flow.ctx.resumePosted ∧
      next.ctx.resumeTimer = flow.ctx.resumeTimer)
    (verdict : next.session.verdict = flow.session.verdict ∨
      next.session.verdict ≠ .inspect) :
    next.Kept (answered + 1) := by
  have still := same.live live
  have unpaid := same.remaining.trans paid.1
  have unread := same.reqSeq.trans paid.2
  have more : answered + 1 ≤ next.enqueued.length := by
    rw [same.enqueued]
    exact waits
  refine .live { still with
    covered := by
      rw [unpaid, Nat.zero_add]
      exact more
    bodyCovered := by
      rw [unread, Nat.zero_add]
      exact more } ?_
  rw [Flow.Rests] at rests ⊢
  rw [same.stage, same.remaining, same.metaDataSent, same.headersSent,
    same.endTransactionSent, same.lifecycle, agentTimer, same.reqSeenLast,
    same.reqSeq, same.released, resumes.1, resumes.2]
  cases stage : flow.ctx.stage <;> rw [stage] at rests <;>
    dsimp only at rests ⊢
  case metaData =>
    refine rests.imp id fun unsent => ⟨unsent.1, unsent.2.1, unsent.2.2.1, ?_,
      unsent.2.2.2.2⟩
    obtain kept | other := verdict
    · rw [kept]
      exact unsent.2.2.2.1
    · exact other
  all_goals exact rests

theorem addModifications_returns {modifications : List ModificationNode}
    (injects : reply.injectData ≠ [] →
      modifications = [] ∨ reply.ngxPcalloc 0 = false) :
    ∃ added, addModifications reply modifications = some added := by
  rw [addModifications.eq_def]
  split
  · exact ⟨_, rfl⟩
  · exact ⟨_, rfl⟩
  · rename_i injectData
    have some : reply.injectData ≠ [] := by
      rw [injectData]
      exact List.cons_ne_nil _ _
    obtain none | unallocated := injects some
    · cases none
    · rw [createModificationNode, unallocated]
      exact ⟨[], rfl⟩

theorem takeReply_returns
    (steady : flow.SteadyReply settings env request reply) :
    ∃ taken, takeReply reply (noteVerdict reply flow) = some taken := by
  obtain ⟨_, _, _, _, ctx⟩ := noteVerdict_ctx reply flow
  rw [takeReply]
  by_cases injects : reply.verdict = .inject
  · have passes : ¬(isVerdictDropOrCustom reply.verdict ∧
        reply.hasResponse = true) := by
      rw [injects]
      rintro ⟨blocks, _⟩
      exact absurd blocks (by decide)
    rw [if_pos injects, if_neg passes, ctx]
    obtain ⟨added, isAdded⟩ := addModifications_returns
      (steady.injects injects)
    rw [isAdded]
    exact ⟨_, rfl⟩
  · rw [if_neg injects]
    exact ⟨_, rfl⟩

theorem drainReply_live (live : flow.Live answered) (rests : flow.Rests)
    (waits : answered < flow.enqueued.length) (fills : request.FillsHeaders)
    (steady : flow.SteadyReply settings env request reply)
    (drained : drainReply settings env request reply flow = some next) :
    next.Kept (answered + 1) := by
  have found : ¬(flow.ctx.registered = false ∨ flow.ctx.flowError = true) := by
    simp [live.registered, live.noError]
  rw [drainReply] at drained
  split at drained
  · rename_i reconf
    cases drained
    exact uncounted_kept live rests waits (steady.counted (.inr reconf))
      (by constructor <;> rfl) rfl ⟨rfl, rfl⟩ (.inl rfl)
  · obtain ⟨limit, rfl⟩ | ⟨_, taken, isTaken, rfl⟩ :=
      applyVerdict_cases settings env request drained
    · obtain ⟨verdict, _, _, _, ctx⟩ := noteVerdict_ctx reply flow
      apply uncounted_kept live rests waits (steady.counted (.inl limit))
        (noteVerdict_sameVitals reply flow)
      · rw [ctx]
      · rw [ctx]
        exact ⟨rfl, rfl⟩
      · rw [verdict, limit]
        exact .inr (by simp)
    · have counts := takeReply_counts isTaken
      have sameStage : taken.ctx.stage = flow.ctx.stage := by
        obtain ⟨_, _, _, ctx⟩ := counts.ctx
        rw [ctx]
      apply finishReply_kept counts (counts.live live waits) rests _ fills
      · intro failOpen advances paid
        have counted := counts.counted advances.1
        have last : flow.session.remainingMessagesToReply ≤ 1 := by omega
        have delivered := steady.delivers failOpen advances last
        refine ⟨fun stage => ?_, fun stage => ?_⟩
        · rw [← delivered.1 (sameStage.symm.trans stage)]
          exact sendHeadersNonblocking_result env request counts.calls
        · rw [counts.calls]
          exact delivered.2 (sameStage.symm.trans stage)
      · intro stage delayed
        have more := steady.resolved (sameStage.symm.trans stage) delayed
        have passes : ¬isVerdictDropOrCustom reply.verdict := by
          rw [delayed]
          decide
        have counted := counts.counted passes
        omega

/-- The reply finds its context, and no failure has marked it. -/
def Flow.Applies (flow : Flow) : Prop :=
  flow.ctx.registered = true ∧ flow.ctx.flowError = false

instance (flow : Flow) : Decidable flow.Applies :=
  inferInstanceAs (Decidable (_ ∧ _))

theorem drainReply_returns
    (steady : flow.Applies → flow.SteadyReply settings env request reply) :
    ∃ next, drainReply settings env request reply flow = some next := by
  rw [drainReply]
  split
  · exact ⟨_, rfl⟩
  split
  · exact ⟨_, rfl⟩
  · rename_i found
    rw [not_or, Bool.not_eq_false, Bool.not_eq_true] at found
    rw [applyVerdict]
    split
    · exact ⟨_, rfl⟩
    · obtain ⟨taken, isTaken⟩ :=
        takeReply_returns settings env request (steady found)
      rw [isTaken]
      exact ⟨_, rfl⟩

/-- A session with the number of its messages that have a reply; `applied`
tells whether the last reply was applied. -/
structure Exchange where
  flow : Flow
  answered : Nat
  applied : Bool

def Exchange.start (isInitialized : Bool) : Exchange :=
  { flow := .start isInitialized, answered := 0, applied := false }

/-- A step in which a reply answers a message of the session.  The cleanup of
the module is posted only while the module is initialised. -/
def exchange (before : Exchange) (input : Input) : Option Exchange :=
  match input with
  | .reply reply =>
      if before.answered < before.flow.enqueued.length then
        (drainReply settings env request reply before.flow).map fun flow =>
          { flow
            answered := before.answered + 1
            applied := decide before.flow.Applies }
      else none
  | .cleanup =>
      if before.flow.isInitialized then
        some { before with flow := cleanupImpl settings env request before.flow }
      else none
  | input =>
      (step settings env request before.flow input).map fun flow =>
        { before with flow }

/-- Every message that the context has sent has its reply, and the last one was
applied. -/
def Exchange.Answered (exchange : Exchange) : Prop :=
  exchange.flow.ctx.metaDataSent = true ∧ exchange.applied = true ∧
    exchange.answered = exchange.flow.enqueued.length

instance (exchange : Exchange) : Decidable exchange.Answered :=
  inferInstanceAs (Decidable (_ ∧ _))

/-- No reply is waited for, and the session is over, waits for the client or
has an event that continues it. -/
def Flow.Progresses (flow : Flow) : Prop :=
  flow.session.remainingMessagesToReply = 0 ∧
    (flow.ctx.registered = false ∨ flow.ctx.stage = .complete ∨
      (flow.ctx.stage = .body ∧ flow.ctx.reqSeenLast = false) ∨
      flow.ctx.agentTimer = true ∨ flow.ctx.resumePosted = true ∨
      flow.ctx.resumeTimer = true)

instance (flow : Flow) : Decidable flow.Progresses :=
  inferInstanceAs (Decidable (_ ∧ _))

/-- The step does not stall the session: its reply is counted and followed by a
message, and the client does not finish the body before its headers are
answered. -/
def Flow.Steady (flow : Flow) : Input → Prop
  | .reply reply => flow.Applies → flow.SteadyReply settings env request reply
  | .bodyFilter chain _ =>
      flow.Applies → flow.session.verdict = .inspect →
        flow.ctx.stage.Opens → ∀ buf ∈ chain, buf.lastBuf = false
  | .agentEvent | .headerHandler _ =>
      settings.failModeVerdict = .ok → flow.ctx.registered = true →
        flow.DeliversAfterWait env
  | _ => True

instance (flow : Flow) :
    Decidable (flow.DeliversAfterReply env request) :=
  inferInstanceAs (Decidable (_ ∧ _))

instance (flow : Flow) (reply : VerdictReply) :
    Decidable (flow.SteadyReply settings env request reply) :=
  decidable_of_iff
    ((reply.verdict = .limitResponseHeaders ∨ reply.verdict = .reconf →
        flow.session.remainingMessagesToReply = 0 ∧ flow.ctx.reqSeq = 0) ∧
      (reply.verdict = .inject → reply.injectData ≠ [] →
        flow.ctx.modifications = [] ∨ reply.ngxPcalloc 0 = false) ∧
      (flow.ctx.stage = .metaData → reply.verdict = .delayed →
        1 < flow.session.remainingMessagesToReply) ∧
      (settings.failModeVerdict = .ok → Advances reply.verdict →
        flow.session.remainingMessagesToReply ≤ 1 →
          flow.DeliversAfterReply env request))
    ⟨fun holds => ⟨holds.1, holds.2.1, holds.2.2.1, holds.2.2.2⟩,
      fun steady =>
        ⟨steady.counted, steady.injects, steady.resolved, steady.delivers⟩⟩

instance (flow : Flow) : ∀ input : Input,
    Decidable (flow.Steady settings env request input)
  | .reply reply =>
      inferInstanceAs (Decidable (flow.Applies →
        flow.SteadyReply settings env request reply))
  | .bodyFilter chain _ =>
      inferInstanceAs (Decidable (flow.Applies →
        flow.session.verdict = .inspect → flow.ctx.stage.Opens →
          ∀ buf ∈ chain, buf.lastBuf = false))
  | .agentEvent =>
      inferInstanceAs (Decidable (settings.failModeVerdict = .ok →
        flow.ctx.registered = true → flow.DeliversAfterWait env))
  | .headerHandler _ =>
      inferInstanceAs (Decidable (settings.failModeVerdict = .ok →
        flow.ctx.registered = true → flow.DeliversAfterWait env))
  | .deadlineEvent | .cleanupEvent | .resumeEvent _ _ | .cleanup
  | .asyncInit | .requestFreed => inferInstanceAs (Decidable True)

/-- The states of a session between its steps: a context that has left the
table of a request past its headers stays away. -/
inductive Exchange.Sound (exchange : Exchange) : Prop
  | kept (kept : exchange.flow.Kept exchange.answered)
  | lost (unregistered : exchange.flow.ctx.registered = false)
      (notPending : exchange.flow.lifecycle ≠ .pending)
      (ignored : exchange.applied = false)

variable {settings env request}

theorem step_of_unregistered (unregistered : flow.ctx.registered = false)
    (notPending : flow.lifecycle ≠ .pending)
    (stepped : step settings env request flow input = some next) :
    next.ctx.registered = false ∧ next.lifecycle ≠ .pending := by
  cases input with
  | headerHandler call =>
      obtain ⟨pending, _⟩ := Option.ite_none_right_eq_some.mp stepped
      exact (notPending pending).elim
  | bodyFilter chain call =>
      obtain ⟨_, same⟩ := Option.ite_none_right_eq_some.mp stepped
      have forwarded : ∃ rc, reqBodyFilterAsync env request chain call
          (flow.receive chain) = (rc, (flow.receive chain).forward chain) := by
        have missing : (flow.receive chain).ctx.registered = false :=
          unregistered
        rw [reqBodyFilterAsync, if_pos missing]
        split
        · exact ⟨_, rfl⟩
        · split
          · exact ⟨_, rfl⟩
          · split <;> exact ⟨_, rfl⟩
      obtain ⟨rc, forwards⟩ := forwarded
      rw [forwards] at same
      cases same
      cases rc <;> exact ⟨unregistered, by first | exact notPending | rintro ⟨⟩⟩
  | reply reply =>
      simp [step, drainReply, unregistered] at stepped
      cases stepped
      exact ⟨unregistered, notPending⟩
  | agentEvent =>
      obtain ⟨_, same⟩ := Option.ite_none_right_eq_some.mp stepped
      have missing : flow.cancelAgentTimer.ctx.registered = false :=
        unregistered
      rw [eventHandler, eventHandlerWith, if_pos missing] at same
      cases same
      exact ⟨unregistered, notPending⟩
  | deadlineEvent =>
      obtain ⟨_, same⟩ := Option.ite_none_right_eq_some.mp stepped
      have missing : flow.cancelDeadlineTimer.ctx.registered = false :=
        unregistered
      rw [deadlineHandler, if_pos missing] at same
      cases same
      exact ⟨unregistered, notPending⟩
  | cleanupEvent =>
      obtain ⟨_, same⟩ := Option.ite_none_right_eq_some.mp stepped
      have missing : (flow.updateCtx fun ctx =>
          { ctx with cleanupTimer := false }).ctx.registered = false :=
        unregistered
      rw [contextCleanupHandler, if_pos missing] at same
      cases same
      exact ⟨unregistered, notPending⟩
  | resumeEvent posted downstream =>
      have ignored (resumed : Flow)
          (missing : resumed.ctx.registered = false)
          (stays : resumed.lifecycle ≠ .pending) :
          (postedResume downstream resumed).ctx.registered = false ∧
            (postedResume downstream resumed).lifecycle ≠ .pending := by
        rw [postedResume, if_pos (.inr missing)]
        exact ⟨missing, stays⟩
      cases posted
      all_goals
        obtain ⟨_, same⟩ := Option.ite_none_right_eq_some.mp stepped
        cases same
        exact ignored _ unregistered notPending
  | cleanup =>
      cases stepped
      rw [cleanupImpl, if_pos unregistered]
      exact ⟨unregistered, notPending⟩
  | asyncInit =>
      cases stepped
      rw [asyncInit]
      split
      · exact ⟨unregistered, notPending⟩
      · exact ⟨rfl, notPending⟩
  | requestFreed =>
      cases stepped
      exact ⟨rfl, by rintro ⟨⟩⟩

/-- A step other than a reply and a cleanup keeps the session. -/
theorem step_kept (kept : flow.Kept answered) (fills : request.FillsHeaders)
    (steady : flow.Steady settings env request input)
    (isReply : ∀ reply, input ≠ .reply reply) (isCleanup : input ≠ .cleanup)
    (stepped : step settings env request flow input = some next) :
    next.Kept answered := by
  cases input with
  | headerHandler call =>
      obtain ⟨pending, same⟩ := Option.ite_none_right_eq_some.mp stepped
      cases same
      exact reqHeaderHandlerAsync_kept call kept pending fills steady
  | bodyFilter chain call =>
      obtain ⟨⟨admitted, _⟩, same⟩ := Option.ite_none_right_eq_some.mp stepped
      cases same
      have received : flow.SameRest (flow.receive chain) := by
        constructor <;> first | rfl | constructor <;> rfl
      have notPending : (flow.receive chain).lifecycle ≠ .pending := by
        intro pending
        exact nomatch admitted.symm.trans pending
      apply afterFilter_kept
      apply reqBodyFilterAsync_kept call (received.kept kept) notPending
      intro registered noError inspects
      exact steady ⟨registered, noError⟩ inspects
  | reply reply => exact (isReply reply rfl).elim
  | agentEvent =>
      obtain ⟨fires, same⟩ := Option.ite_none_right_eq_some.mp stepped
      cases same
      by_cases registered : flow.ctx.registered = true
      · apply agentEvent_kept kept fires fills
        intro failOpen
        exact steady failOpen registered
      · have unregistered : flow.ctx.registered = false := by
          simpa using registered
        have missing : flow.cancelAgentTimer.ctx.registered = false :=
          unregistered
        rw [eventHandler, eventHandlerWith, if_pos missing]
        cases kept with
        | live live _ => exact (registered live.registered).elim
        | failed failed _ => exact (registered failed.registered).elim
        | gone _ covered paid => exact .gone missing covered paid
  | deadlineEvent =>
      obtain ⟨_, same⟩ := Option.ite_none_right_eq_some.mp stepped
      cases same
      have cancelled : flow.SameRest flow.cancelDeadlineTimer := by
        constructor <;> first | rfl | constructor <;> rfl
      exact deadlineHandler_kept (cancelled.kept kept) fills
  | cleanupEvent =>
      obtain ⟨_, same⟩ := Option.ite_none_right_eq_some.mp stepped
      cases same
      apply contextCleanupHandler_kept
      have cancelled : flow.SameRest (flow.updateCtx fun ctx =>
          { ctx with cleanupTimer := false }) := by
        constructor <;> first | rfl | constructor <;> rfl
      exact cancelled.kept kept
  | resumeEvent posted downstream =>
      cases posted
      all_goals
        obtain ⟨_, same⟩ := Option.ite_none_right_eq_some.mp stepped
        cases same
        refine postedResume_kept downstream kept ?_ rfl rfl
        constructor <;> rfl
  | cleanup => exact (isCleanup rfl).elim
  | asyncInit =>
      cases stepped
      exact (asyncInit_kept kept).1
  | requestFreed =>
      cases stepped
      exact requestFreed_kept kept

theorem exchange_of_step {before : Exchange}
    (isReply : ∀ reply, input ≠ .reply reply) (isCleanup : input ≠ .cleanup) :
    exchange settings env request before input =
      (step settings env request before.flow input).map fun flow =>
        { before with flow } := by
  cases input with
  | reply reply => exact (isReply reply rfl).elim
  | cleanup => exact (isCleanup rfl).elim
  | _ => rfl

theorem drainReply_ignored (ignored : ¬flow.Applies)
    (drained : drainReply settings env request reply flow = some next) :
    next = flow := by
  have marked : flow.ctx.registered = false ∨ flow.ctx.flowError = true := by
    rw [Flow.Applies] at ignored
    cases registered : flow.ctx.registered with
    | false => exact .inl rfl
    | true =>
        right
        simpa [registered] using ignored
  simp only [drainReply, if_pos marked, ite_self] at drained
  cases drained
  rfl

theorem reply_sound {before : Exchange} (sound : before.Sound)
    (waits : before.answered < before.flow.enqueued.length)
    (fills : request.FillsHeaders)
    (steady : before.flow.Applies →
      before.flow.SteadyReply settings env request reply)
    (drained : drainReply settings env request reply before.flow =
      some next) :
    Exchange.Sound
      { flow := next
        answered := before.answered + 1
        applied := decide before.flow.Applies } := by
  by_cases applies : before.flow.Applies
  · cases sound with
    | kept kept =>
        cases kept with
        | live live rests =>
            exact .kept (drainReply_live settings env request live rests waits
              fills (steady applies) drained)
        | failed failed _ => exact nomatch applies.2.symm.trans failed.isError
        | gone unregistered _ _ =>
            exact nomatch applies.1.symm.trans unregistered
    | lost unregistered _ _ => exact nomatch applies.1.symm.trans unregistered
  · cases drainReply_ignored applies drained
    have ignored : decide before.flow.Applies = false :=
      decide_eq_false applies
    cases sound with
    | kept kept =>
        cases kept with
        | live live _ => exact (applies ⟨live.registered, live.noError⟩).elim
        | failed failed _ => exact .kept (.failed failed waits)
        | gone unregistered covered paid =>
            by_cases pending : before.flow.lifecycle = .pending
            · refine .kept (.gone unregistered ?_ fun _ => paid pending)
              have owes := paid pending
              dsimp only
              omega
            · exact .lost unregistered pending ignored
    | lost unregistered notPending _ =>
        exact .lost unregistered notPending ignored

theorem exchange_sound {before next : Exchange} (sound : before.Sound)
    (fills : request.FillsHeaders)
    (steady : before.flow.Steady settings env request input)
    (stepped : exchange settings env request before input = some next) :
    next.Sound := by
  by_cases isReply : ∃ reply, input = .reply reply
  · obtain ⟨reply, rfl⟩ := isReply
    obtain ⟨waits, mapped⟩ := Option.ite_none_right_eq_some.mp stepped
    obtain ⟨flow, drained, rfl⟩ := Option.map_eq_some_iff.mp mapped
    exact reply_sound sound waits fills steady drained
  · by_cases isCleanup : input = .cleanup
    · cases isCleanup
      obtain ⟨isInitialized, same⟩ := Option.ite_none_right_eq_some.mp stepped
      cases same
      cases sound with
      | kept kept =>
          exact .kept (cleanupImpl_kept kept isInitialized fills)
      | lost unregistered notPending ignored =>
          have cleaned : step settings env request before.flow .cleanup =
              some (cleanupImpl settings env request before.flow) := rfl
          have lost := step_of_unregistered unregistered notPending cleaned
          exact .lost lost.1 lost.2 ignored
    · rw [exchange_of_step (not_exists.mp isReply) isCleanup] at stepped
      obtain ⟨flow, moved, rfl⟩ := Option.map_eq_some_iff.mp stepped
      cases sound with
      | kept kept =>
          exact .kept (step_kept kept fills steady
            (not_exists.mp isReply) isCleanup moved)
      | lost unregistered notPending ignored =>
          have lost := step_of_unregistered unregistered notPending moved
          exact .lost lost.1 lost.2 ignored

theorem start_sound (isInitialized : Bool) :
    (Exchange.start isInitialized).Sound :=
  .kept (.gone rfl (Nat.le_refl _) fun _ => rfl)

theorem Exchange.Sound.progresses {exchange : Exchange}
    (sound : exchange.Sound) (done : exchange.Answered) :
    exchange.flow.Progresses := by
  obtain ⟨sent, applied, all⟩ := done
  cases sound with
  | lost _ _ ignored => exact nomatch applied.symm.trans ignored
  | kept kept =>
      have paid : exchange.flow.session.remainingMessagesToReply = 0 := by
        have covered := kept.covered
        omega
      refine ⟨paid, ?_⟩
      cases kept with
      | gone unregistered _ _ => exact .inl unregistered
      | failed failed _ =>
          obtain unstarted | cleanedUp := failed.place
          · exact nomatch sent.symm.trans unstarted.unsent
          · cases seen : exchange.flow.ctx.reqSeenLast with
            | false => exact .inr (.inr (.inl ⟨cleanedUp.stage, rfl⟩))
            | true =>
                have resumes := (cleanedUp.ended seen).2.2
                exact .inr (.inr (.inr (.inr resumes)))
      | live live rests =>
          have unread : exchange.flow.ctx.reqSeq = 0 := by
            have covered := live.bodyCovered
            omega
          rw [Flow.Rests] at rests
          cases stage : exchange.flow.ctx.stage <;> rw [stage] at rests <;>
            dsimp only at rests
          case metaData =>
            obtain waits | unsent := rests
            · omega
            · exact nomatch sent.symm.trans unsent.1
          case headers => omega
          case endTransaction => omega
          case complete => exact .inr (.inl rfl)
          case body =>
            cases seen : exchange.flow.ctx.reqSeenLast with
            | false => exact .inr (.inr (.inl ⟨rfl, rfl⟩))
            | true =>
                obtain waits | unread | resumes := rests seen
                · omega
                · omega
                · exact .inr (.inr (.inr (.inr resumes.2)))
          case waitHeaderVerdict => exact .inr (.inr (.inr (.inl rests.1)))
          case waitEndVerdict => exact .inr (.inr (.inr (.inl rests.1)))
          case waitBodyVerdict => exact .inr (.inr (.inr (.inl rests)))

variable (settings env request)

end Stages

/-- A session whose body has been sent, with a reply to each of its messages. -/
def answeredRun : List Input :=
  [.headerHandler plainHandlerCall, .reply (plainReply .inspect),
    .reply (plainReply .inspect), .headerHandler plainHandlerCall,
    .bodyFilter [{ bytes := [65], lastBuf := true }] plainFilterCall,
    .reply (plainReply .inspect), .reply (plainReply .inspect)]

theorem delayedMetaData_stalls :
    ∃ final,
      runPartial (exchange (plainSettings true) plainEnvironment plainRequest)
          (.start true)
          [.headerHandler plainHandlerCall, .reply (plainReply .delayed)] =
          some final ∧
        final.Answered ∧ ¬final.flow.Progresses ∧
        final.flow.ctx.stage = .waitMetaVerdict := by
  have stalls : ∃ final ∈ runPartial
      (exchange (plainSettings true) plainEnvironment plainRequest)
      (.start true)
      [.headerHandler plainHandlerCall, .reply (plainReply .delayed)],
      final.Answered ∧ ¬final.flow.Progresses ∧
        final.flow.ctx.stage = .waitMetaVerdict := by
    decide
  exact stalls

/-- A reply that injects one modification. -/
def injectingReply : VerdictReply :=
  { plainReply .inject with
    injectData :=
      [{ injectionPos := 0
         modType := .inject
         isHeader := 0
         origBuffIndex := 0
         data := [1] }] }

/-- The modifications of a second reply are linked behind a null pointer,
although no other part of the condition fails. -/
theorem secondInject_faults :
    ∃ before,
      runPartial (exchange (plainSettings true) plainEnvironment plainRequest)
          (.start true)
          [.headerHandler plainHandlerCall, .reply injectingReply] =
          some before ∧
        before.answered < before.flow.enqueued.length ∧
        exchange (plainSettings true) plainEnvironment plainRequest before
            (.reply injectingReply) = none ∧
        ¬before.flow.Steady (plainSettings true) plainEnvironment plainRequest
            (.reply injectingReply) ∧
        before.flow.Steady (plainSettings true) plainEnvironment plainRequest
            (.reply (plainReply .inject)) := by
  have faults : ∃ before ∈ runPartial
      (exchange (plainSettings true) plainEnvironment plainRequest)
      (.start true) [.headerHandler plainHandlerCall, .reply injectingReply],
      before.answered < before.flow.enqueued.length ∧
        (exchange (plainSettings true) plainEnvironment plainRequest before
          (.reply injectingReply)).isNone ∧
        ¬before.flow.Steady (plainSettings true) plainEnvironment plainRequest
            (.reply injectingReply) ∧
        before.flow.Steady (plainSettings true) plainEnvironment plainRequest
            (.reply (plainReply .inject)) := by
    decide
  obtain ⟨before, reached, waits, faults, rest⟩ := faults
  exact ⟨before, reached, waits, Option.isNone_iff_eq_none.mp faults, rest⟩

end OpenAppsec.Async
