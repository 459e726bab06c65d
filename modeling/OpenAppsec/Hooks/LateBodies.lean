import OpenAppsec.Hooks.SteadyService

/-!
# Bodies that come too late

In fail-close the synchronous filters let a body go that they have not
inspected when the time of its transaction is over behind a pass of their
loop.  The times decide: as long as they are not over, every body that goes on
has been inspected, and once they are, a service that goes on inspecting is
enough to let one slip.
-/

namespace OpenAppsec.Hooks

open Nginx (NgxBuf SendOutcome Sending Carried)

/-- The time of a transaction is not over behind any of so many passes. -/
def InTime (settings : HookSettings) (later : Int → HookSession)
    (elapsed : Nat → Int) (passes : Nat) : Prop :=
  ∀ pass < passes, ¬TimedOut settings (later (passesTime elapsed 0 (pass + 1)))

instance (settings : HookSettings) (later : Int → HookSession)
    (elapsed : Nat → Int) (passes : Nat) :
    Decidable (InTime settings later elapsed passes) :=
  inferInstanceAs (Decidable (∀ pass < passes, _))

theorem not_carried_nothing {transport : Nat → SendOutcome}
    {chain : List NgxBuf} (given : Given chain) (sent : List Sending) :
    ¬Carried transport chain sent sent := by
  rintro ⟨⟨new, grown, -, size, -⟩, -⟩
  obtain rfl : new = [] := by simpa using grown
  obtain ⟨buf, member, isSent⟩ := given
  have some : 0 < (Nginx.chunks chain).length := by
    rw [Nginx.chunks, List.length_map]
    exact List.length_pos_of_mem
      (List.mem_filter.mpr ⟨member, decide_eq_true isSent⟩)
  simp only [List.length_nil] at size
  omega

/-- A request body that goes on has been inspected. -/
def BodyCall.Inspects (settings : HookSettings) (state : BodyState)
    (call : BodyCall) : Prop :=
  ∀ chain, (reqBodyFilterSync settings call state).1 = .forwards chain →
    Inspected call state (reqBodyFilterSync settings call state).2

/-- A call of a session that is served in synchronous mode, and that is
refused at once, or whose time is not over behind any of its passes. -/
structure BodyCall.InTime (settings : HookSettings) (state : BodyState)
    (call : BodyCall) : Prop where
  sync : state.session.initialAsyncMode = 0
  stillSync : call.asyncModeEnabled = false
  inTime : call.ipcReady = false ∨ call.transparent = true ∨
    TimedOut settings state.session ∨
    Hooks.InTime settings state.session.reqLater call.events.elapsed
      call.chain.length

section Requests

variable {settings : HookSettings} {state : BodyState} {call : BodyCall}

theorem reqBodyFilterSync_refuses (closed : settings.FailClosed)
    (sync : state.session.initialAsyncMode = 0)
    (stillSync : call.asyncModeEnabled = false)
    (inspects : state.session.verdict = .inspect)
    (some : call.chain ≠ [])
    (refused : call.ipcReady = false ∨ call.transparent = true ∨
      TimedOut settings state.session) :
    (reqBodyFilterSync settings call state).1 = .returns .httpForbidden := by
  have failed : failAnswer settings.failModeVerdict call.chain =
      .returns .httpForbidden := by
    simp [failAnswer, closed.failModeVerdict]
  have here : ¬(state.session.initialAsyncMode ≠ 0 ∨
      call.asyncModeEnabled = true) := by
    simp [sync, stillSync]
  unfold reqBodyFilterSync
  dsimp only
  rw [if_neg here, failed]
  by_cases down : call.ipcReady = false
  · rw [if_pos down]
  rw [if_neg down]
  by_cases transparent : call.transparent = true
  · rw [if_pos transparent]
  rw [if_neg transparent, if_neg (by simp [inspects]),
    if_neg (by simp [inspects]), if_neg some]
  have out : TimedOut settings state.session :=
    (refused.resolve_left down).resolve_left transparent
  have drops : (handleInspectionFailure settings.failModeVerdict
      state.session).verdict = .drop := by
    simp [handleInspectionFailure, inspects, closed.failModeVerdict]
  simp only [wasTransactionTimedout, if_pos out, if_pos drops]

theorem reqBodyFilterSync_passes (inspects : state.session.verdict = .inspect)
    (sync : state.session.initialAsyncMode = 0)
    (stillSync : call.asyncModeEnabled = false) (some : call.chain ≠ [])
    (up : call.ipcReady = true) (visible : call.transparent = false)
    (begins : ¬TimedOut settings state.session)
    {answer : BodyAnswer} {progress : BodyProgress}
    (left : reqBodyPasses settings call.events call.chain call.chain 0
      { ctx := initThreadCtx state.session
        chain := call.chain
        sent := state.sent } = .error (answer, progress)) :
    reqBodyFilterSync settings call state =
      (answer, { session := progress.ctx.session, sent := progress.sent }) := by
  have here : ¬(state.session.initialAsyncMode ≠ 0 ∨
      call.asyncModeEnabled = true) := by
    simp [sync, stillSync]
  unfold reqBodyFilterSync
  dsimp only
  rw [if_neg here, if_neg (by simp [up]), if_neg (by simp [visible]),
    if_neg (by simp [inspects]), if_neg (by simp [inspects]), if_neg some]
  simp only [wasTransactionTimedout, if_neg begins, left]

theorem BodyCall.InTime.inspects (closed : settings.FailClosed)
    (verdict : state.session.verdict = .inspect) (given : Given call.chain)
    (joins : call.events.Joins) (inTime : call.InTime settings state) :
    call.Inspects settings state := by
  obtain ⟨sync, stillSync, times⟩ := inTime
  have some : call.chain ≠ [] := by
    obtain ⟨buf, member, -⟩ := given
    exact List.ne_nil_of_mem member
  intro chain forwards
  rcases or_assoc.mpr (or_assoc.mpr times) with refused | times
  · have returns := reqBodyFilterSync_refuses closed sync stillSync verdict
      some (or_assoc.mp refused)
    cases returns.symm.trans forwards
  rcases reqBodyFilterSync_cases closed sync stillSync with
    ⟨returns, -⟩ | ⟨-, -, decided | empty⟩ | ⟨-, -, ended⟩
  · cases returns.symm.trans forwards
  · exact absurd verdict decided
  · exact absurd empty some
  · have passes := reqBodyPasses_spec closed joins call.chain 0
      (between_start verdict sync)
    cases looped : reqBodyPasses settings call.events call.chain call.chain 0
        { ctx := initThreadCtx state.session
          chain := call.chain
          sent := state.sent } with
    | error exit =>
        rw [looped] at passes ended
        dsimp only at ended
        rw [ended] at forwards
        obtain ⟨pass, below, out⟩ := passes.overdue chain forwards
        exact absurd out (times pass below)
    | ok progress =>
        rw [looped] at passes ended
        dsimp only at ended
        rw [ended] at forwards ⊢
        obtain ⟨same, handed, undropped⟩ :=
          finishReqBody_spec closed call passes forwards
        dsimp only
        rw [same]
        exact ⟨handed, undropped, passes.decided⟩

theorem reqBodyFilterSync_other
    (other : state.session.initialAsyncMode ≠ 0 ∨
      call.asyncModeEnabled = true) :
    reqBodyFilterSync settings call state = (.forwards call.chain, state) := by
  unfold reqBodyFilterSync
  dsimp only
  rw [if_pos other]

theorem reqBodyFilterSync_late (closed : settings.FailClosed)
    (inspects : state.session.verdict = .inspect)
    (sync : state.session.initialAsyncMode = 0)
    (stillSync : call.asyncModeEnabled = false) (given : Given call.chain)
    (up : call.ipcReady = true) (visible : call.transparent = false)
    (begins : ¬TimedOut settings state.session) {elapsed : Nat → Int}
    (steady : call.events = steadyEvents state.session.sessionId
      (state.session.remainingMessagesToReply + 1) elapsed)
    {pass : Nat} (below : pass < call.chain.length)
    (out : TimedOut settings
      (state.session.reqLater (passesTime elapsed 0 (pass + 1)))) :
    (reqBodyFilterSync settings call state).1 = .forwards call.chain ∧
      (reqBodyFilterSync settings call state).2.session.verdict = .drop := by
  have some : call.chain ≠ [] := by
    obtain ⟨buf, member, -⟩ := given
    exact List.ne_nil_of_mem member
  have waits : Waits state.session.sessionId
      (state.session.remainingMessagesToReply + 1) state.session
      { ctx := initThreadCtx state.session
        chain := call.chain
        sent := state.sent } :=
    { ready :=
        { goesOn := rfl
          inFilter := rfl
          sessionId := rfl
          few := Nat.lt_succ_self _
          course := rfl }
      given }
  obtain ⟨after, left, dropped⟩ :=
    @reqBodyPasses_steady settings _ _ elapsed _ _ call.chain call.chain 0 pass
      waits below out
  rw [← steady] at left
  rw [reqBodyFilterSync_passes inspects sync stillSync some up visible begins
    left]
  refine ⟨rfl, ?_⟩
  rw [dropped, closed.failModeVerdict]
  rfl

theorem request_inspects_iff (closed : settings.FailClosed)
    (verdict : state.session.verdict = .inspect)
    (given : Given call.chain) :
    (∀ events : HookEvents, events.Joins →
        events.elapsed = call.events.elapsed →
          BodyCall.Inspects settings state { call with events }) ↔
      call.InTime settings state := by
  have some : call.chain ≠ [] := by
    obtain ⟨buf, member, -⟩ := given
    exact List.ne_nil_of_mem member
  constructor
  · intro always
    set steady := steadyEvents state.session.sessionId
      (state.session.remainingMessagesToReply + 1) call.events.elapsed
    have inspects := always steady (steadyEvents_joins _ _ _) rfl
    have here : ¬(state.session.initialAsyncMode ≠ 0 ∨
        call.asyncModeEnabled = true) := by
      intro other
      have passedOn := @reqBodyFilterSync_other settings state
        { call with events := steady } other
      have inspected := inspects call.chain (congrArg Prod.fst passedOn)
      rw [passedOn] at inspected
      exact not_carried_nothing given state.sent inspected.handed
    simp only [not_or, not_not, Bool.not_eq_true] at here
    obtain ⟨sync, stillSync⟩ := here
    refine ⟨sync, stillSync, ?_⟩
    by_contra late
    simp only [not_or, Bool.not_eq_false, Bool.not_eq_true, InTime,
      not_forall, not_not] at late
    obtain ⟨up, visible, begins, pass, below, out⟩ := late
    obtain ⟨forwards, dropped⟩ := @reqBodyFilterSync_late settings state
      { call with events := steady } closed verdict sync stillSync given up
      visible begins call.events.elapsed rfl pass below out
    exact (inspects _ forwards).undropped dropped
  · intro inTime events joins same
    have inTime' : BodyCall.InTime settings state { call with events } :=
      { sync := inTime.sync
        stillSync := inTime.stillSync
        inTime := by
          dsimp only
          rw [same]
          exact inTime.inTime }
    exact inTime'.inspects closed verdict given joins

end Requests

/-- A response body that goes on has been inspected: all that the service is
given of it. -/
def ResBodyCall.Inspects (settings : HookSettings) (state : ResponseState)
    (call : ResBodyCall) : Prop :=
  ∀ chain, (resBodyFilterCore settings call state).1 = .forwards chain →
    ∃ bodyChain ready,
      prepareResponse settings call state.countChunk =
          .ok (bodyChain, ready) ∧
        ResInspected call
          (inspectedChain bodyChain ready.response.originalCompressedBody)
          state (resBodyFilterCore settings call state).2

/-- A call in the mode of its session that is refused at once, or that has an
inspected request and codecs in order, and whose time is not over behind any
of its passes. -/
structure ResBodyCall.InTime (settings : HookSettings)
    (state : ResponseState) (call : ResBodyCall) : Prop where
  sameMode : ¬OtherMode call state.session
  inTime : call.ipcReady = false ∨
    state.response.responseDataStatus = .ok ∧
      ∀ bodyChain ready,
        prepareResponse settings call state.countChunk =
            .ok (bodyChain, ready) →
          TimedOut settings state.session ∨ call.transparent = true ∨
            state.session.wasRequestFullyInspected = true ∧
              Hooks.InTime settings state.session.resLater
                call.events.elapsed
                (inspectedChain bodyChain
                  ready.response.originalCompressedBody).length

section Responses

variable {settings : HookSettings} {state : ResponseState}
variable {call : ResBodyCall}

/-- The service is given a part of every body that is prepared. -/
def ResBodyCall.Gives (settings : HookSettings) (state : ResponseState)
    (call : ResBodyCall) : Prop :=
  ∀ bodyChain ready,
    prepareResponse settings call state.countChunk = .ok (bodyChain, ready) →
      Given (inspectedChain bodyChain ready.response.originalCompressedBody)

theorem resBodyFilterCore_down (sameMode : ¬OtherMode call state.session)
    (closed : settings.FailClosed) (down : call.ipcReady = false) :
    (resBodyFilterCore settings call state).1 = .returns .error := by
  unfold resBodyFilterCore
  rw [if_neg sameMode, if_pos down]
  simp [closed.failModeVerdict]

theorem resBodyFilterCore_skips (sync : call.asyncFilter = false)
    (inspects : state.session.verdict = .inspect)
    (skips : OtherMode call state.session ∨ call.ipcReady = true ∧
      state.response.responseDataStatus ≠ .ok) :
    resBodyFilterCore settings call state = (.forwards call.chain, state) := by
  unfold resBodyFilterCore
  by_cases other : OtherMode call state.session
  · rw [if_pos other]
  obtain ⟨up, corrupted⟩ := skips.resolve_left other
  rw [if_neg other, if_neg (by simp [up]), if_neg (by simp [sync]),
    if_pos (.inl corrupted)]
  simp [skipResponse, inspects]

theorem resBodyFilterCore_looks (sync : call.asyncFilter = false)
    (inspects : state.session.verdict = .inspect)
    (some : call.chain ≠ []) (sameMode : ¬OtherMode call state.session)
    (up : call.ipcReady = true)
    (intact : state.response.responseDataStatus = .ok) :
    (∃ exit, prepareResponse settings call state.countChunk = .error exit ∧
        resBodyFilterCore settings call state = exit) ∨
      ∃ bodyChain ready,
        prepareResponse settings call state.countChunk =
            .ok (bodyChain, ready) ∧
          resBodyFilterCore settings call state =
            filterPrepared settings call bodyChain ready := by
  have undecided : ¬(state.response.responseDataStatus ≠ .ok ∨
      AlreadyInspected call state) := by
    simp [intact, AlreadyInspected, inspects]
  unfold resBodyFilterCore
  rw [if_neg sameMode, if_neg (by simp [up]), if_neg (by simp [sync]),
    if_neg undecided]
  dsimp only
  rw [if_neg some]
  cases prepareResponse settings call state.countChunk with
  | error exit => exact .inl ⟨exit, rfl, rfl⟩
  | ok next => exact .inr ⟨next.1, next.2, rfl, rfl⟩

theorem filterPrepared_refuses (closed : settings.FailClosed)
    {bodyChain : List NgxBuf} {ready : ResponseState}
    (inspects : ready.session.verdict = .inspect)
    (refused : TimedOut settings ready.session ∨ call.transparent = true) :
    (filterPrepared settings call bodyChain ready).1 =
      .finalizesForbidden := by
  have drops : (handleInspectionFailure settings.failModeVerdict
      ready.session).verdict = .drop := by
    simp [handleInspectionFailure, inspects, closed.failModeVerdict]
  unfold filterPrepared
  rw [if_neg (by simp [inspects])]
  unfold wasTransactionTimedout
  by_cases out : TimedOut settings ready.session
  · simp only [if_pos out, if_true, if_pos drops]
  · simp only [if_neg out, Bool.false_eq_true, if_false,
      if_pos (refused.resolve_left out), failResponse_closed closed]

theorem ResBodyCall.InTime.inspects (closed : settings.FailClosed)
    (sync : call.asyncFilter = false)
    (verdict : state.session.verdict = .inspect) (some : call.chain ≠ [])
    (joins : call.events.Joins) (inTime : call.InTime settings state) :
    call.Inspects settings state := by
  intro chain forwards
  by_cases down : call.ipcReady = false
  · have returns := resBodyFilterCore_down inTime.sameMode closed down
    cases returns.symm.trans forwards
  have up : call.ipcReady = true := by simpa using down
  obtain ⟨intact, times⟩ := inTime.inTime.resolve_left down
  have prepares := prepareResponse_spec closed call state.countChunk
  rcases @resBodyFilterCore_looks settings _ _ sync verdict some
      inTime.sameMode up intact with
    ⟨exit, failed, looked⟩ | ⟨bodyChain, ready, prepared, looked⟩
  · rw [failed] at prepares
    rw [looked] at forwards
    exact absurd forwards (prepares.2 chain)
  rw [prepared] at prepares
  obtain ⟨-, session, sent⟩ := prepares
  have counted : ready.session = state.session := session
  rw [looked] at forwards ⊢
  rcases or_assoc.mpr (times bodyChain ready prepared) with
    refused | ⟨whole, times⟩
  · have returns := @filterPrepared_refuses settings call closed bodyChain
      ready (counted ▸ verdict) (counted ▸ refused)
    cases returns.symm.trans forwards
  refine ⟨bodyChain, ready, prepared, ?_⟩
  have undropped : ready.session.verdict ≠ .drop := by
    rw [counted, verdict]
    nofun
  rcases (filterPrepared_spec closed joins bodyChain undropped).2 chain
      forwards with accepted | ⟨-, unfinished, -⟩ | inspected | late
  · rw [counted, verdict] at accepted
    cases accepted
  · rw [counted, whole] at unfinished
    cases unfinished
  · exact ⟨sent ▸ inspected.handed, inspected.undropped, inspected.decided⟩
  · obtain ⟨pass, below, out⟩ := late.overdue (counted ▸ verdict)
    rw [counted] at out
    exact absurd out (times pass below)

theorem filterPrepared_late (closed : settings.FailClosed)
    {bodyChain : List NgxBuf} {ready : ResponseState}
    (inspects : ready.session.verdict = .inspect)
    (whole : ready.session.wasRequestFullyInspected = true)
    (visible : call.transparent = false)
    (begins : ¬TimedOut settings ready.session) {elapsed : Nat → Int}
    (steady : call.events = steadyEvents ready.session.sessionId
      (ready.session.remainingMessagesToReply + 1) elapsed)
    (given : Given
      (inspectedChain bodyChain ready.response.originalCompressedBody))
    {pass : Nat}
    (below : pass < (inspectedChain bodyChain
      ready.response.originalCompressedBody).length)
    (out : TimedOut settings
      (ready.session.resLater (passesTime elapsed 0 (pass + 1)))) :
    (filterPrepared settings call bodyChain ready).1 = .forwards bodyChain ∧
      (filterPrepared settings call bodyChain ready).2.session.verdict =
        .drop := by
  have waits : Waits ready.session.sessionId
      (ready.session.remainingMessagesToReply + 1) ready.session
      { ctx :=
          { initThreadCtx ready.session with
            asyncFilter := call.asyncFilter }
        chain :=
          inspectedChain bodyChain ready.response.originalCompressedBody
        sent := ready.sent } :=
    { ready :=
        { goesOn := rfl
          inFilter := rfl
          sessionId := rfl
          few := Nat.lt_succ_self _
          course := rfl }
      given }
  obtain ⟨after, left, dropped⟩ :=
    @resBodyPasses_steady settings _ _ elapsed _ _ bodyChain
      (inspectedChain bodyChain ready.response.originalCompressedBody) 0
      pass waits below out
  rw [← steady] at left
  have inspected : inspectResponse settings call bodyChain ready =
      (.forwards bodyChain, ready.after after) := by
    simp only [inspectResponse, left]
  unfold filterPrepared
  rw [if_neg (by simp [inspects])]
  simp only [wasTransactionTimedout, if_neg begins, Bool.false_eq_true,
    if_false, visible, whole, and_false, Bool.true_eq_false, inspected]
  refine ⟨trivial, ?_⟩
  rw [closed.failModeVerdict] at dropped
  exact dropped

theorem filterPrepared_inTime (closed : settings.FailClosed)
    (sync : call.asyncFilter = false) {bodyChain : List NgxBuf}
    {ready : ResponseState} (inspects : ready.session.verdict = .inspect)
    (sent : ready.sent = state.sent) {elapsed : Nat → Int}
    (steady : call.events = steadyEvents ready.session.sessionId
      (ready.session.remainingMessagesToReply + 1) elapsed)
    (given : Given
      (inspectedChain bodyChain ready.response.originalCompressedBody))
    (inspected :
      (filterPrepared settings call bodyChain ready).1 = .forwards bodyChain →
        ResInspected call
          (inspectedChain bodyChain ready.response.originalCompressedBody)
          state (filterPrepared settings call bodyChain ready).2) :
    TimedOut settings ready.session ∨ call.transparent = true ∨
      ready.session.wasRequestFullyInspected = true ∧
        Hooks.InTime settings ready.session.resLater elapsed
          (inspectedChain bodyChain
            ready.response.originalCompressedBody).length := by
  by_contra late
  simp only [not_or, not_and, Bool.not_eq_true] at late
  obtain ⟨begins, visible, late⟩ := late
  by_cases whole : ready.session.wasRequestFullyInspected = true
  · have times := late whole
    simp only [InTime, not_forall, not_not] at times
    obtain ⟨pass, below, out⟩ := times
    obtain ⟨forwards, dropped⟩ := filterPrepared_late closed inspects whole
      visible begins steady given below out
    exact (inspected forwards).undropped dropped
  · have unfinished : filterPrepared settings call bodyChain ready =
        (.forwards bodyChain, ready.setVerdict .accept) := by
      unfold filterPrepared
      rw [if_neg (by simp [inspects])]
      simp [wasTransactionTimedout, begins, visible, sync, whole]
    have handed := (inspected (congrArg Prod.fst unfinished)).handed
    rw [unfinished] at handed
    exact not_carried_nothing given state.sent (sent ▸ handed)

/-- A response body is let go without its inspection also when its request was
not inspected, or its codecs have failed before. -/
theorem response_inspects_iff (closed : settings.FailClosed)
    (sync : call.asyncFilter = false)
    (verdict : state.session.verdict = .inspect) (some : call.chain ≠ [])
    (gives : call.Gives settings state) :
    (∀ events : HookEvents, events.Joins →
        events.elapsed = call.events.elapsed →
          ResBodyCall.Inspects settings state { call with events }) ↔
      call.InTime settings state := by
  constructor
  · intro always
    set steady := steadyEvents state.session.sessionId
      (state.session.remainingMessagesToReply + 1) call.events.elapsed
    have inspects := always steady (steadyEvents_joins _ _ _) rfl
    have passesOn (skips : OtherMode call state.session ∨
        call.ipcReady = true ∧ state.response.responseDataStatus ≠ .ok) :
        False := by
      have passedOn := @resBodyFilterCore_skips settings state
        { call with events := steady } sync verdict skips
      obtain ⟨bodyChain, ready, prepared, inspected⟩ :=
        inspects call.chain (congrArg Prod.fst passedOn)
      rw [passedOn] at inspected
      exact not_carried_nothing (gives bodyChain ready prepared) state.sent
        inspected.handed
    have sameMode : ¬OtherMode call state.session :=
      fun other => passesOn (.inl other)
    refine ⟨sameMode, or_iff_not_imp_left.mpr fun down => ?_⟩
    have up : call.ipcReady = true := by simpa using down
    have intact : state.response.responseDataStatus = .ok :=
      not_not.mp fun corrupted => passesOn (.inr ⟨up, corrupted⟩)
    refine ⟨intact, fun bodyChain ready prepared => ?_⟩
    have prepares := prepareResponse_spec closed call state.countChunk
    rw [prepared] at prepares
    obtain ⟨-, session, sent⟩ := prepares
    have counted : ready.session = state.session := session
    rcases @resBodyFilterCore_looks settings state
        { call with events := steady } sync verdict some sameMode up intact
      with ⟨exit, failed, -⟩ | ⟨otherChain, otherReady, found, looked⟩
    · cases failed.symm.trans prepared
    cases found.symm.trans prepared
    have steadyReady : steady = steadyEvents ready.session.sessionId
        (ready.session.remainingMessagesToReply + 1)
        call.events.elapsed := by
      rw [counted]
    rw [← counted] at verdict
    have inTime := @filterPrepared_inTime settings state
      { call with events := steady } closed sync bodyChain ready verdict sent
      call.events.elapsed steadyReady (gives bodyChain ready prepared)
    rw [counted] at inTime
    refine inTime fun forwards => ?_
    rw [← looked] at forwards ⊢
    obtain ⟨otherChain, otherReady, found, inspected⟩ :=
      inspects bodyChain forwards
    cases found.symm.trans prepared
    exact inspected
  · intro inTime events joins same
    have inTime' : ResBodyCall.InTime settings state
        { call with events } :=
      { sameMode := inTime.sameMode
        inTime := by
          dsimp only
          rw [same]
          exact inTime.inTime }
    exact inTime'.inspects closed sync verdict some joins

end Responses

/-- The events of a pass that takes all of its two milliseconds, and whose
service has only the first of two buffers. -/
def slowEvents : HookEvents :=
  steadyEvents 3 1 fun _ => 2000

end OpenAppsec.Hooks
