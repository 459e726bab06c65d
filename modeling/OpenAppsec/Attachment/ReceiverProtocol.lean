import OpenAppsec.Attachment.NanoReceiver

/-!
# The receiver protocol

What a call of `service_reply_receiver` does with a queue of replies, and the
replies at which it departs from the protocol.
-/

namespace OpenAppsec.Nano

open CountedReader FueledLoop

variable {session : BitVec 32}

/-- What the protocol does with a reply. -/
def replyKind (session : BitVec 32) (delivery : Delivery) : Kind :=
  if ¬delivery.IsCurrent session then .pass
  else if delivery.reply.verdict.IsFinal then .stop
  else .count

variable {ω : Type*}

/-- The replies that a call goes on after. -/
def ReceiverState.Examines (start : ReceiverState ω)
    (examined : List Delivery) : Prop :=
  StillReading (replyKind start.sessionData.sessionId)
    start.sessionData.remainingMessagesToReply examined

/-- How the protocol ends: the replies examined and those left in the queue,
the result, and the session data. -/
inductive ReceiverState.Ends (start : ReceiverState ω) :
    List Delivery → List Delivery → NanoCommunicationResult →
      HttpSessionData → Prop where
  | nothingExpected {rest : List Delivery}
      {result : NanoCommunicationResult} {final : HttpSessionData} :
      start.sessionData.remainingMessagesToReply = 0 →
      result ≠ .error →
      final.remainingMessagesToReply = 0 →
      final.verdict = .inspect →
      Ends start [] rest result final
  | runsDry {examined : List Delivery} {final : HttpSessionData} :
      start.Examines examined →
      final.remainingMessagesToReply +
          counted (replyKind start.sessionData.sessionId) examined =
        start.sessionData.remainingMessagesToReply →
      Ends start examined [] .error final
  | finalReply {before rest : List Delivery} {delivery : Delivery}
      {result : NanoCommunicationResult} {final : HttpSessionData} :
      start.Examines before →
      delivery.IsCurrent start.sessionData.sessionId →
      delivery.reply.verdict.IsFinal →
      result ≠ .error →
      final.remainingMessagesToReply = 0 →
      final.verdict = delivery.reply.verdict →
      Ends start (before ++ [delivery]) rest result final
  | lastExpected {before rest : List Delivery} {delivery : Delivery}
      {result : NanoCommunicationResult} {final : HttpSessionData} :
      start.Examines before →
      delivery.IsCurrent start.sessionData.sessionId →
      ¬delivery.reply.verdict.IsFinal →
      counted (replyKind start.sessionData.sessionId) before + 1 =
        start.sessionData.remainingMessagesToReply →
      result ≠ .error →
      final.remainingMessagesToReply = 0 →
      final.verdict = delivery.reply.verdict.asInspect →
      Ends start (before ++ [delivery]) rest result final

/-- A call returns, and it pops exactly what it examined from the channel that
it reads from. -/
def FollowsProtocol (usageMode : SignalUsageMode) (start : ReceiverState ω)
    (outcome : Option (Return ω)) : Prop :=
  ∃ result final examined rest,
    outcome = some (.returned result final) ∧
      start.attachment.queue (start.channel usageMode) = examined ++ rest ∧
      final.attachment.queue =
        Function.update start.attachment.queue (start.channel usageMode)
          rest ∧
      start.Ends examined rest result final.sessionData

/-- The modification list after these replies. -/
def injected (session : BitVec 32) (modificationList : List ModificationNode)
    (deliveries : List Delivery) : List ModificationNode :=
  deliveries.foldl
    (fun modificationList delivery =>
      if delivery.reply.verdict = .inject ∧
          delivery.reply.sessionId = session then
        handleInjectResponse delivery.malloc 0 modificationList
          delivery.reply.injectData
      else
        modificationList)
    modificationList

/-- In sync usage a reconfiguration keeps the async mode, and a custom
response comes in sync mode; no reply that ends the session finds a
modification to release. -/
structure Handles (usageMode : SignalUsageMode) (start : ReceiverState ω)
    (before : List Delivery) (delivery : Delivery) : Prop where
  keepsMode : delivery.reply.verdict = .reconf → usageMode = .sync →
    ∀ mode, delivery.loadedAsyncMode = some mode →
      mode = start.attachment.isAsyncModeEnabled
  popsOwnChannel : delivery.IsCurrent start.sessionData.sessionId →
    delivery.reply.verdict = .customResponse → usageMode = .sync →
      start.attachment.isAsyncModeEnabled = false
  releasesNothing : delivery.IsCurrent start.sessionData.sessionId →
    delivery.reply.verdict = .drop ∨
        delivery.reply.verdict = .customResponse →
      injected start.sessionData.sessionId start.modificationList before = []

/-- Every reply that the protocol examines is handled. -/
def HandlesAll (usageMode : SignalUsageMode) (start : ReceiverState ω) :
    Prop :=
  ∀ before delivery rest,
    start.attachment.queue (start.channel usageMode) =
        before ++ delivery :: rest →
      start.Examines before → Handles usageMode start before delivery

theorem replyKind_ne_abort (session : BitVec 32) (delivery : Delivery) :
    replyKind session delivery ≠ .abort := by
  unfold replyKind
  split
  · simp
  · split <;> simp

theorem replyKind_eq_pass_iff {delivery : Delivery} :
    replyKind session delivery = .pass ↔ ¬delivery.IsCurrent session := by
  unfold replyKind
  split
  · simp_all
  · split <;> simp_all

theorem replyKind_eq_stop_iff {delivery : Delivery} :
    replyKind session delivery = .stop ↔
      delivery.IsCurrent session ∧ delivery.reply.verdict.IsFinal := by
  unfold replyKind
  split
  · simp_all
  · split <;> simp_all

theorem replyKind_eq_count_iff {delivery : Delivery} :
    replyKind session delivery = .count ↔
      delivery.IsCurrent session ∧ ¬delivery.reply.verdict.IsFinal := by
  unfold replyKind
  split
  · simp_all
  · split <;> simp_all

section Receiver

variable {handlers : ResponseHandlers ω} {usageMode : SignalUsageMode}

variable {result : NanoCommunicationResult}

theorem injected_concat (session : BitVec 32)
    (modificationList : List ModificationNode) (before : List Delivery)
    (delivery : Delivery) :
    injected session modificationList (before ++ [delivery]) =
      if delivery.reply.verdict = .inject ∧
          delivery.reply.sessionId = session then
        handleInjectResponse delivery.malloc 0
          (injected session modificationList before) delivery.reply.injectData
      else
        injected session modificationList before := by
  unfold injected
  rw [List.foldl_append]
  rfl

theorem getNanoServiceIpc_eq_iff {first second : NanoAttachment} :
    getNanoServiceIpc first usageMode = getNanoServiceIpc second usageMode ↔
      (usageMode = .sync →
        first.isAsyncModeEnabled = second.isAsyncModeEnabled) := by
  unfold getNanoServiceIpc
  cases usageMode with
  | async => simp
  | sync =>
      cases first.isAsyncModeEnabled with
      | true => cases second.isAsyncModeEnabled with
          | true => simp
          | false => simp
      | false => cases second.isAsyncModeEnabled with
          | true => simp
          | false => simp

/-- The state after these replies, all of them handled. -/
structure Reached (usageMode : SignalUsageMode) (start : ReceiverState ω)
    (before : List Delivery) (state : ReceiverState ω) : Prop where
  channel : state.channel usageMode = start.channel usageMode
  split : start.attachment.queue (start.channel usageMode) =
    before ++ state.attachment.queue (start.channel usageMode)
  others : ∀ ipc, ipc ≠ start.channel usageMode →
    state.attachment.queue ipc = start.attachment.queue ipc
  session : state.sessionData.sessionId = start.sessionData.sessionId
  outstanding : state.sessionData.remainingMessagesToReply +
      counted (replyKind start.sessionData.sessionId) before =
    start.sessionData.remainingMessagesToReply
  modifications : state.modificationList =
    injected start.sessionData.sessionId start.modificationList before

theorem Reached.start (start : ReceiverState ω) :
    Reached usageMode start [] start where
  channel := rfl
  split := rfl
  others := fun _ _ => rfl
  session := rfl
  outstanding := rfl
  modifications := rfl

/-- A pass that pops the reply from the channel in use. -/
theorem Reached.pop {start state : ReceiverState ω} {before : List Delivery}
    (reached : Reached usageMode start before state) {delivery : Delivery}
    {rest : List Delivery}
    (next : state.attachment.queue (start.channel usageMode) =
      delivery :: rest)
    (changed : ReceiverState ω)
    (queue : changed.attachment.queue = state.attachment.queue)
    (channel : changed.channel usageMode = state.channel usageMode)
    (session : changed.sessionData.sessionId = state.sessionData.sessionId)
    (outstanding : changed.sessionData.remainingMessagesToReply +
        counted (replyKind start.sessionData.sessionId) [delivery] =
      state.sessionData.remainingMessagesToReply)
    (modifications : changed.modificationList =
      injected start.sessionData.sessionId start.modificationList
        (before ++ [delivery])) :
    Reached usageMode start (before ++ [delivery])
      (changed.pop usageMode) := by
  have used : getNanoServiceIpc changed.attachment usageMode =
      start.channel usageMode := channel.trans reached.channel
  constructor
  · exact used
  · rw [reached.split, List.append_assoc]
    simp only [ReceiverState.pop, popData, used, queue, next,
      Function.update_self, List.tail_cons, List.singleton_append]
  · intro ipc different
    simp only [ReceiverState.pop, popData, used, queue]
    rw [Function.update_of_ne different]
    exact reached.others ipc different
  · exact session.trans reached.session
  · rw [counted_append, ← reached.outstanding, ← outstanding]
    rw [Nat.add_assoc, Nat.add_comm (counted _ [delivery])]
    rfl
  · exact modifications

theorem handleVerdict_goesOn (delivery : Delivery) (state : ReceiverState ω)
    (related : delivery.reply.verdict ≠ .reconf)
    (goesOn : ¬delivery.reply.verdict.IsFinal) :
    handleVerdict handlers usageMode delivery
        (state.setVerdict delivery.reply.verdict) =
      .inl (({ state with
        modificationList :=
          if delivery.reply.verdict = ServiceVerdict.inject then
            handleInjectResponse delivery.malloc 0 state.modificationList
              delivery.reply.injectData
          else
            state.modificationList }.setVerdict
              delivery.reply.verdict.asInspect).pop usageMode) := by
  unfold handleVerdict
  cases verdict : delivery.reply.verdict with
  | accept => exact absurd (Or.inl verdict) goesOn
  | drop => exact absurd (Or.inr (Or.inl verdict)) goesOn
  | customResponse => exact absurd (Or.inr (Or.inr verdict)) goesOn
  | reconf => exact absurd verdict related
  | inspect => rfl
  | inject => rfl
  | irrelevant => rfl
  | delayed => rfl
  | limitResponseHeaders => rfl
  | other code => rfl

section Pass

variable {start state : ReceiverState ω} {before : List Delivery}
  (reached : Reached usageMode start before state)
  (examines : start.Examines before)
  {delivery : Delivery} {rest : List Delivery}
  (next : state.attachment.queue (start.channel usageMode) = delivery :: rest)

include reached examines in
theorem Reached.waiting :
    state.sessionData.remainingMessagesToReply ≠ 0 := by
  have outstanding := reached.outstanding
  have waiting := examines.waiting
  omega

include reached next in
theorem Reached.received :
    receiveDataFromService state.attachment usageMode = some delivery := by
  have used : getNanoServiceIpc state.attachment usageMode =
      start.channel usageMode := reached.channel
  unfold receiveDataFromService
  rw [used, next]
  rfl

variable (handlers) in
include reached examines next in
/-- A reply that is handled and does not end the session takes the loop one
pass further. -/
theorem Reached.advance (handles : Handles usageMode start before delivery)
    (goesOn : replyKind start.sessionData.sessionId delivery ≠ .stop) :
    ∃ after, receiveReply handlers usageMode state = .inl after ∧
      Reached usageMode start (before ++ [delivery]) after ∧
      (delivery.IsCurrent start.sessionData.sessionId →
        after.sessionData.verdict = delivery.reply.verdict.asInspect) := by
  have waiting := reached.waiting examines
  simp only [receiveReply, if_neg waiting, reached.received next,
    reached.session]
  by_cases reconf : delivery.reply.verdict = .reconf
  · have passes : counted (replyKind start.sessionData.sessionId)
        [delivery] = 0 := by
      apply counted_singleton_of_ne
      rw [replyKind_eq_pass_iff.mpr fun current => current.1 reconf]
      simp
    simp only [reconf, ne_eq, not_true_eq_false, if_false, handleVerdict]
    refine ⟨_, rfl, reached.pop next _ rfl ?_ rfl ?_ ?_, ?_⟩
    · apply getNanoServiceIpc_eq_iff.mpr
      intro sync
      have mode := getNanoServiceIpc_eq_iff.mp reached.channel sync
      simp only [resetAttachmentConfig, ReceiverState.setVerdict]
      cases loaded : delivery.loadedAsyncMode with
      | none => rfl
      | some loadedMode =>
          exact (handles.keepsMode reconf sync loadedMode loaded).trans
            mode.symm
    · rw [passes]
      rfl
    · rw [injected_concat]
      simp only [reconf, reduceCtorEq, false_and, if_false]
      exact reached.modifications
    · intro current
      exact absurd reconf current.1
  · simp only [reconf, ne_eq, not_false_eq_true, if_true]
    by_cases own :
        delivery.reply.sessionId = start.sessionData.sessionId
    · have current : delivery.IsCurrent start.sessionData.sessionId :=
        ⟨reconf, own⟩
      have unfinished : ¬delivery.reply.verdict.IsFinal := fun final =>
        goesOn (replyKind_eq_stop_iff.mpr ⟨current, final⟩)
      have counts : counted (replyKind start.sessionData.sessionId)
          [delivery] = 1 :=
        counted_singleton_of_count
          (replyKind_eq_count_iff.mpr ⟨current, unfinished⟩)
      rw [if_neg (not_not_intro own),
        handleVerdict_goesOn delivery _ reconf unfinished]
      refine ⟨_, rfl, reached.pop next _ rfl rfl rfl ?_ ?_, fun _ => rfl⟩
      · rw [counts]
        exact Nat.succ_pred waiting
      · rw [injected_concat]
        simp only [own, and_true, ReceiverState.setVerdict,
          ReceiverState.setRemaining, reached.modifications]
    · have foreign : ¬delivery.IsCurrent start.sessionData.sessionId :=
        fun current => own current.2
      have passes : counted (replyKind start.sessionData.sessionId)
          [delivery] = 0 := by
        apply counted_singleton_of_ne
        rw [replyKind_eq_pass_iff.mpr foreign]
        simp
      rw [if_pos own]
      refine ⟨_, rfl, reached.pop next _ rfl rfl rfl ?_ ?_, ?_⟩
      · rw [passes]
        rfl
      · rw [injected_concat, if_neg fun inject => own inject.2]
        exact reached.modifications
      · intro current
        exact absurd current foreign

variable (handlers) in
include reached examines next in
theorem Reached.conclude (handles : Handles usageMode start before delivery)
    (stops : replyKind start.sessionData.sessionId delivery = .stop) :
    ∃ result final,
      receiveReply handlers usageMode state =
          .inr (.returned result final) ∧
        result ≠ .error ∧
        final.sessionData.remainingMessagesToReply = 0 ∧
        final.sessionData.verdict = delivery.reply.verdict ∧
        final.attachment.queue =
          Function.update state.attachment.queue
            (start.channel usageMode) rest := by
  obtain ⟨current, ends⟩ := replyKind_eq_stop_iff.mp stops
  have used : getNanoServiceIpc state.attachment usageMode =
      start.channel usageMode := reached.channel
  have empty (releases : delivery.reply.verdict = .drop ∨
      delivery.reply.verdict = .customResponse) :
      state.modificationList = [] :=
    reached.modifications.trans (handles.releasesNothing current releases)
  have waiting := reached.waiting examines
  simp only [receiveReply, if_neg waiting, reached.received next,
    reached.session, ne_eq, current.1, not_false_eq_true, if_true,
    current.2, not_true_eq_false, if_false]
  unfold handleVerdict
  rcases ends with accept | drop | custom
  · simp only [accept]
    refine ⟨.ok, _, rfl, by simp, rfl, rfl, ?_⟩
    change (popData (getNanoServiceIpc state.attachment usageMode)
      state.attachment).queue = _
    simp only [popData, used, next, List.tail_cons]
  · simp only [drop, ReceiverState.setRemaining, ReceiverState.setVerdict,
      empty (Or.inl drop), freeModificationData]
    refine ⟨.httpForbidden, _, rfl, by simp, rfl, rfl, ?_⟩
    change (popData (getNanoServiceIpc state.attachment usageMode)
      state.attachment).queue = _
    simp only [popData, used, next, List.tail_cons]
  · simp only [custom, ReceiverState.setRemaining, ReceiverState.setVerdict,
      empty (Or.inr custom), freeModificationData]
    refine ⟨.httpForbidden, _, rfl, by simp, rfl, rfl, ?_⟩
    have own : start.channel usageMode = .nanoServiceIpc := by
      unfold ReceiverState.channel getNanoServiceIpc
      cases usageMode with
      | async => simp
      | sync => rw [if_pos (handles.popsOwnChannel current custom rfl)]
    rw [own] at next
    rw [own]
    simp only [popData, next, List.tail_cons]

end Pass

theorem passes_of_split {start : ReceiverState ω}
    {before rest : List Delivery}
    (split : start.attachment.queue (start.channel usageMode) =
      before ++ rest) :
    ∃ more, passes start.attachment = before.length + (more + 2) := by
  have long : before.length ≤ passes start.attachment - 2 := by
    have size := congrArg List.length split
    rw [List.length_append] at size
    unfold passes
    cases used : start.channel usageMode with
    | nanoServiceIpc =>
        rw [used] at size
        omega
    | nanoServiceSyncIpc =>
        rw [used] at size
        omega
  refine ⟨passes start.attachment - 2 - before.length, ?_⟩
  have two : 2 ≤ passes start.attachment := Nat.le_add_left 2 _
  omega

variable (handlers) in
/-- The loop gets through replies that are handled and end nothing. -/
theorem reach {start : ReceiverState ω} {before rest : List Delivery}
    (split : start.attachment.queue (start.channel usageMode) =
      before ++ rest)
    (examines : start.Examines before)
    (handles : ∀ early delivery late, before = early ++ delivery :: late →
      Handles usageMode start early delivery) :
    ∃ state more, Reached usageMode start before state ∧
      runLoop (receiveReply handlers usageMode) (passes start.attachment)
          start =
        runLoop (receiveReply handlers usageMode) (more + 2) state := by
  have advances : ∀ early delivery late state,
      before = early ++ delivery :: late →
        Reached usageMode start early state →
          ∃ after, receiveReply handlers usageMode state = .inl after ∧
            Reached usageMode start (early ++ [delivery]) after := by
    intro early delivery late state parts reached
    have next : state.attachment.queue (start.channel usageMode) =
        delivery :: (late ++ rest) := by
      have whole := reached.split
      rw [split, parts, List.append_assoc] at whole
      exact (List.append_cancel_left whole).symm
    rw [parts] at examines
    have goesOn := (examines.goesOn delivery (by simp)).1
    obtain ⟨after, pass, reachedAfter, -⟩ := reached.advance
      handlers examines.left next
      (handles early delivery late parts) goesOn
    exact ⟨after, pass, reachedAfter⟩
  obtain ⟨state, reached, same⟩ := runLoop_along advances (.start start)
  obtain ⟨more, enough⟩ := passes_of_split split
  refine ⟨state, more, reached, ?_⟩
  rw [enough]
  exact same (more + 2)

theorem Reached.dry {start state : ReceiverState ω} {before : List Delivery}
    (reached : Reached usageMode start before state)
    (examines : start.Examines before)
    (empty : state.attachment.queue (start.channel usageMode) = []) :
    receiveReply handlers usageMode state = .inr (.returned .error state) := by
  have used : getNanoServiceIpc state.attachment usageMode =
      start.channel usageMode := reached.channel
  simp only [receiveReply, if_neg (reached.waiting examines),
    receiveDataFromService, used, empty, List.head?_nil]

theorem receiveReply_done {state : ReceiverState ω}
    (done : state.sessionData.remainingMessagesToReply = 0) :
    receiveReply handlers usageMode state = .inr (.returned .ok state) := by
  simp only [receiveReply, if_pos done]

theorem Reached.queue {start state : ReceiverState ω}
    {before rest : List Delivery}
    (reached : Reached usageMode start before state)
    (split : start.attachment.queue (start.channel usageMode) =
      before ++ rest) :
    state.attachment.queue =
      Function.update start.attachment.queue (start.channel usageMode)
        rest := by
  funext ipc
  by_cases used : ipc = start.channel usageMode
  · subst used
    rw [Function.update_self]
    exact List.append_cancel_left (reached.split.symm.trans split)
  · rw [Function.update_of_ne used]
    exact reached.others ipc used

variable (handlers) in
theorem followsProtocol_of_handlesAll {start : ReceiverState ω}
    (handles : HandlesAll usageMode start) :
    FollowsProtocol usageMode start
      (serviceReplyReceiver handlers usageMode start) := by
  unfold serviceReplyReceiver
  by_cases expected : start.sessionData.remainingMessagesToReply = 0
  · rw [if_pos expected]
    refine ⟨.ok, _, [], _, rfl, (List.nil_append _).symm, ?_, ?_⟩
    · rw [Function.update_eq_self]
      rfl
    · exact .nothingExpected expected (by simp) expected rfl
  rw [if_neg expected]
  have handled {before rest : List Delivery}
      (split : start.attachment.queue (start.channel usageMode) =
        before ++ rest)
      (examines : start.Examines before) :
      ∀ early delivery late, before = early ++ delivery :: late →
        Handles usageMode start early delivery := by
    intro early delivery late parts
    rw [parts] at examines split
    apply handles early delivery (late ++ rest) _ examines.left
    rw [split, List.append_assoc, List.cons_append]
  rcases stillReading_or_endsAt
    (replyKind start.sessionData.sessionId)
    (Nat.pos_of_ne_zero expected)
    (start.attachment.queue (start.channel usageMode)) with
    all | ⟨before, delivery, rest, split, examines, ends⟩
  · have split := (List.append_nil
      (start.attachment.queue (start.channel usageMode))).symm
    obtain ⟨state, more, reached, run⟩ :=
      reach handlers split all (handled split all)
    have queue := reached.queue split
    have empty : state.attachment.queue (start.channel usageMode) = [] := by
      rw [queue, Function.update_self]
    refine ⟨.error, state, _, [], ?_, split, queue,
      .runsDry all reached.outstanding⟩
    rw [run]
    exact runLoop_leaves (more + 1) (reached.dry all empty)
  · obtain ⟨state, more, reached, run⟩ := reach handlers
      split examines (handled split examines)
    have queue := reached.queue split
    have next : state.attachment.queue (start.channel usageMode) =
        delivery :: rest := by
      rw [queue, Function.update_self]
    have handlesIt := handles before delivery rest split examines
    have whole : start.attachment.queue (start.channel usageMode) =
        (before ++ [delivery]) ++ rest := by
      rw [split, List.append_assoc, List.singleton_append]
    rcases ends with stops | aborts | ⟨counts, last⟩
    · obtain ⟨current, final⟩ := replyKind_eq_stop_iff.mp stops
      obtain ⟨result, after, pass, ok, done, verdict, popped⟩ :=
        reached.conclude handlers examines next handlesIt stops
      refine ⟨result, after, _, rest, ?_, whole, ?_,
        .finalReply examines current final ok done verdict⟩
      · rw [run]
        exact runLoop_leaves (more + 1) pass
      · rw [popped, queue, Function.update_idem]
    · exact absurd aborts (replyKind_ne_abort _ delivery)
    · obtain ⟨current, unfinished⟩ := replyKind_eq_count_iff.mp counts
      obtain ⟨after, pass, reachedAfter, verdict⟩ :=
        reached.advance handlers examines next handlesIt
          (by simp [counts])
      have done : after.sessionData.remainingMessagesToReply = 0 := by
        have outstanding := reachedAfter.outstanding
        rw [counted_append, counted_singleton_of_count counts] at outstanding
        exact Nat.add_eq_right.mp (outstanding.trans last.symm)
      refine ⟨.ok, after, _, rest, ?_, whole, reachedAfter.queue whole,
        .lastExpected examines current unfinished last (by simp) done
          (verdict current)⟩
      rw [run, runLoop_goesOn (more + 1) pass]
      exact runLoop_leaves more (receiveReply_done done)

theorem consumes {start : ReceiverState ω} {before rest : List Delivery}
    {delivery : Delivery}
    (split : start.attachment.queue (start.channel usageMode) =
      before ++ delivery :: rest) (examines : start.Examines before)
    (handles : ∀ early delivery late, before = early ++ delivery :: late →
      Handles usageMode start early delivery)
    (handlesIt : Handles usageMode start before delivery)
    (goesOn : replyKind start.sessionData.sessionId delivery ≠ .stop)
    {final : ReceiverState ω}
    (returned : serviceReplyReceiver handlers usageMode start =
      some (.returned result final)) :
    (final.attachment.queue (start.channel usageMode)).length ≤
      rest.length := by
  have expected : start.sessionData.remainingMessagesToReply ≠ 0 :=
    Nat.ne_of_gt (Nat.lt_of_le_of_lt (Nat.zero_le _) examines.waiting)
  obtain ⟨state, more, reached, run⟩ := reach handlers
    split examines handles
  have next : state.attachment.queue (start.channel usageMode) =
      delivery :: rest :=
    List.append_cancel_left (reached.split.symm.trans split)
  obtain ⟨after, pass, reachedAfter, -⟩ := reached.advance
    handlers examines next handlesIt goesOn
  unfold serviceReplyReceiver at returned
  rw [if_neg expected, run, runLoop_goesOn (more + 1) pass] at returned
  have whole : start.attachment.queue (start.channel usageMode) =
      (before ++ [delivery]) ++ rest := by
    rw [split, List.append_assoc, List.singleton_append]
  have shrunk := runLoop_shrinks returned (start.channel usageMode)
  rwa [reachedAfter.queue whole, Function.update_self] at shrunk

theorem not_handles {start : ReceiverState ω} {before : List Delivery}
    {delivery : Delivery}
    (departs : ¬Handles usageMode start before delivery) :
    (delivery.reply.verdict = .reconf ∧ usageMode = .sync ∧
      ∃ mode, delivery.loadedAsyncMode = some mode ∧
        mode ≠ start.attachment.isAsyncModeEnabled) ∨
    (delivery.IsCurrent start.sessionData.sessionId ∧
      (delivery.reply.verdict = .drop ∨
        delivery.reply.verdict = .customResponse) ∧
      injected start.sessionData.sessionId start.modificationList before ≠
        []) ∨
    (delivery.IsCurrent start.sessionData.sessionId ∧
      delivery.reply.verdict = .customResponse ∧ usageMode = .sync ∧
      start.attachment.isAsyncModeEnabled = true ∧
      injected start.sessionData.sessionId start.modificationList before =
        []) := by
  by_contra none
  simp only [not_or, not_and, not_exists, not_not, ne_eq] at none
  obtain ⟨keeps, releases, pops⟩ := none
  apply departs
  constructor
  · intro reconf sync mode loaded
    exact keeps reconf sync mode loaded
  · intro current custom sync
    by_contra enabled
    exact pops current custom sync (by simpa using enabled)
      (releases current (Or.inr custom))
  · exact releases

section Depart

variable {start state : ReceiverState ω} {before rest : List Delivery}
  (reached : Reached usageMode start before state)
  (examines : start.Examines before) {delivery : Delivery}
  (next : state.attachment.queue (start.channel usageMode) = delivery :: rest)

variable (handlers) in
include reached examines next in
theorem Reached.switch (reconf : delivery.reply.verdict = .reconf)
    (sync : usageMode = .sync) {mode : Bool}
    (loaded : delivery.loadedAsyncMode = some mode)
    (switches : mode ≠ start.attachment.isAsyncModeEnabled) :
    ∃ other after, other ≠ start.channel usageMode ∧
      receiveReply handlers usageMode state = .inl after ∧
      after.channel usageMode = other ∧
      after.attachment.queue =
        Function.update state.attachment.queue other
          (state.attachment.queue other).tail ∧
      after.sessionData.remainingMessagesToReply ≠ 0 := by
  have waiting := reached.waiting examines
  let reset := resetAttachmentConfig (some mode) state.attachment
  have different : getNanoServiceIpc reset usageMode ≠
      start.channel usageMode := by
    intro same
    exact switches (getNanoServiceIpc_eq_iff.mp same sync)
  refine ⟨getNanoServiceIpc reset usageMode,
    ({ state with attachment := reset }.setVerdict .reconf).pop usageMode,
    different, ?_, rfl, rfl, waiting⟩
  simp only [receiveReply, if_neg waiting, reached.received next, reconf,
    ne_eq, not_true_eq_false, if_false, handleVerdict, loaded]
  rfl

include reached examines next in
theorem Reached.invalidFree
    (current : delivery.IsCurrent start.sessionData.sessionId)
    (releases : delivery.reply.verdict = .drop ∨
      delivery.reply.verdict = .customResponse)
    (modifications : state.modificationList ≠ []) :
    receiveReply handlers usageMode state = .inr .invalidFree := by
  have waiting := reached.waiting examines
  obtain ⟨node, nodes, list⟩ := List.exists_cons_of_ne_nil modifications
  simp only [receiveReply, if_neg waiting, reached.received next,
    reached.session, ne_eq, current.1, not_false_eq_true, if_true,
    current.2, not_true_eq_false, if_false]
  unfold handleVerdict
  rcases releases with drop | custom
  · simp only [drop, ReceiverState.setRemaining, ReceiverState.setVerdict,
      list, freeModificationData]
  · simp only [custom, ReceiverState.setRemaining, ReceiverState.setVerdict,
      list, freeModificationData]

variable (handlers) in
include reached examines next in
theorem Reached.keepCustomResponse
    (current : delivery.IsCurrent start.sessionData.sessionId)
    (custom : delivery.reply.verdict = .customResponse)
    (sync : usageMode = .sync)
    (enabled : start.attachment.isAsyncModeEnabled = true)
    (modifications : state.modificationList = []) :
    ∃ result final,
      receiveReply handlers usageMode state =
          .inr (.returned result final) ∧
        final.attachment.queue (start.channel usageMode) =
          delivery :: rest := by
  have waiting := reached.waiting examines
  have own : start.channel usageMode = .nanoServiceSyncIpc := by
    unfold ReceiverState.channel getNanoServiceIpc
    rw [enabled, sync]
    rfl
  simp only [receiveReply, if_neg waiting, reached.received next,
    reached.session, ne_eq, current.1, not_false_eq_true, if_true,
    current.2, not_true_eq_false, if_false]
  unfold handleVerdict
  simp only [custom, ReceiverState.setRemaining, ReceiverState.setVerdict,
    modifications, freeModificationData]
  refine ⟨_, _, rfl, ?_⟩
  rw [own] at next
  rw [own]
  simp only [popData, ne_eq, reduceCtorEq, not_false_eq_true,
    Function.update_of_ne, next]

end Depart

/-- After a reply that is not handled, the call leaves that reply in its
channel or takes replies from the other one, if it returns. -/
theorem departs {start : ReceiverState ω} {before rest : List Delivery}
    {delivery : Delivery}
    (split : start.attachment.queue (start.channel usageMode) =
      before ++ delivery :: rest) (examines : start.Examines before)
    (handles : ∀ early delivery late, before = early ++ delivery :: late →
      Handles usageMode start early delivery)
    (departs : ¬Handles usageMode start before delivery)
    {final : ReceiverState ω}
    (returned : serviceReplyReceiver handlers usageMode start =
      some (.returned result final)) :
    (∃ other, other ≠ start.channel usageMode ∧
      final.attachment.queue other ≠ start.attachment.queue other) ∨
      final.attachment.queue (start.channel usageMode) =
        delivery :: rest := by
  have expected : start.sessionData.remainingMessagesToReply ≠ 0 :=
    Nat.ne_of_gt (Nat.lt_of_le_of_lt (Nat.zero_le _) examines.waiting)
  obtain ⟨state, more, reached, run⟩ := reach handlers
    split examines handles
  have next : state.attachment.queue (start.channel usageMode) =
      delivery :: rest :=
    List.append_cancel_left (reached.split.symm.trans split)
  unfold serviceReplyReceiver at returned
  rw [if_neg expected, run] at returned
  rcases not_handles departs with ⟨reconf, sync, mode, loaded, switches⟩ |
    ⟨current, releases, modifications⟩ |
    ⟨current, custom, sync, enabled, modifications⟩
  · obtain ⟨other, after, different, pass, used, queue, waiting⟩ :=
      reached.switch handlers examines next reconf sync loaded
        switches
    rw [runLoop_goesOn (more + 1) pass] at returned
    cases others : state.attachment.queue other with
    | nil =>
        right
        have same : after.attachment.queue = state.attachment.queue := by
          rw [queue, others, List.tail_nil, ← others, Function.update_eq_self]
        have dry : receiveReply handlers usageMode after =
            .inr (.returned .error after) := by
          have channel : getNanoServiceIpc after.attachment usageMode =
              other := used
          simp only [receiveReply, if_neg waiting, receiveDataFromService,
            channel, same, others, List.head?_nil]
        rw [runLoop_leaves more dry] at returned
        cases returned
        rw [same, next]
    | cons head tail =>
        left
        refine ⟨other, different, ?_⟩
        intro unchanged
        have shrunk := runLoop_shrinks returned other
        rw [unchanged, ← reached.others other different, queue,
          Function.update_self, others, List.tail_cons,
          List.length_cons] at shrunk
        exact Nat.not_succ_le_self _ shrunk
  · rw [← reached.modifications] at modifications
    rw [runLoop_leaves (more + 1) (reached.invalidFree examines next current
      releases modifications)] at returned
    cases returned
  · right
    obtain ⟨result, last, pass, kept⟩ := reached.keepCustomResponse
      handlers examines next current custom sync enabled
      (reached.modifications.trans modifications)
    rw [runLoop_leaves (more + 1) pass] at returned
    cases returned
    exact kept

theorem ReceiverState.Ends.not_examines {start : ReceiverState ω}
    {examined rest : List Delivery} {delivery : Delivery}
    {final : HttpSessionData}
    (ends : start.Ends examined (delivery :: rest) result final) :
    ¬start.Examines examined := by
  intro examines
  cases ends with
  | nothingExpected expected =>
      have waiting := examines.waiting
      rw [expected] at waiting
      exact Nat.not_lt_zero _ waiting
  | finalReply _ current isFinal =>
      exact (examines.goesOn _ (by simp)).1
        (replyKind_eq_stop_iff.mpr ⟨current, isFinal⟩)
  | lastExpected _ current unfinished last =>
      have waiting := examines.waiting
      rw [counted_append, counted_singleton_of_count
        (replyKind_eq_count_iff.mpr ⟨current, unfinished⟩), last] at waiting
      exact Nat.lt_irrefl _ waiting

theorem handlesAll_of_followsProtocol {start : ReceiverState ω}
    (follows : FollowsProtocol usageMode start
      (serviceReplyReceiver handlers usageMode start)) :
    HandlesAll usageMode start := by
  obtain ⟨result, final, examined, left, returned, whole, popped, ends⟩ :=
    follows
  -- the first reply that is not handled comes after handled ones
  intro before
  induction size : before.length using Nat.strongRecOn generalizing
    before with
  | ind length induction =>
      intro delivery rest split examines
      by_contra unhandled
      have handles : ∀ early delivery late,
          before = early ++ delivery :: late →
            Handles usageMode start early delivery := by
        intro early reply late parts
        have shorter : early.length < length := by
          rw [← size, parts, List.length_append, List.length_cons]
          exact Nat.lt_add_of_pos_right (Nat.succ_pos _)
        apply induction early.length shorter early rfl reply
          (late ++ delivery :: rest)
        · rw [split, parts, List.append_assoc, List.cons_append]
        · rw [parts] at examines
          exact examines.left
      rcases departs split examines handles unhandled returned with
        ⟨other, different, changed⟩ | kept
      · apply changed
        rw [popped, Function.update_of_ne different]
      · rw [popped, Function.update_self] at kept
        subst kept
        rw [split] at whole
        have same : before = examined := List.append_cancel_right whole
        rw [same] at examines
        exact ends.not_examines examines

end Receiver

/-- A call of `service_reply_receiver` follows the protocol precisely when
every reply that it examines is handled: no reconfiguration changes the async
mode in sync usage, no custom response comes in async mode and sync usage, and
no reply that blocks finds modifications of earlier replies. -/
theorem service_reply_receiver_follows_protocol_iff
    (handlers : ResponseHandlers ω) (usageMode : SignalUsageMode)
    (start : ReceiverState ω) :
    FollowsProtocol usageMode start
        (serviceReplyReceiver handlers usageMode start) ↔
      HandlesAll usageMode start := by
  constructor
  · exact handlesAll_of_followsProtocol
  · exact followsProtocol_of_handlesAll handlers

/-- A custom response in async mode and sync usage stays in its channel. -/
theorem service_reply_receiver_keeps_custom_response :
    let reply : Delivery :=
      { reply :=
          { verdict := .customResponse
            sessionId := 7
            injectData := []
            responseData := [] }
        malloc := fun _ => true
        ngxPcalloc := fun _ => true
        loadedAsyncMode := none }
    let start : ReceiverState Unit :=
      { attachment :=
          { isAsyncModeEnabled := true
            currentConfigVersion := 0
            queue := fun ipc =>
              if ipc = .nanoServiceSyncIpc then [reply] else [] }
        sessionData :=
          { sessionId := 7
            verdict := .inspect
            remainingMessagesToReply := 1 }
        webResponseData := ()
        modificationList := [] }
    ¬FollowsProtocol .sync start
      (serviceReplyReceiver ⟨fun _ _ => (), fun _ _ => ()⟩ .sync start) := by
  intro reply start follows
  have handles : Handles .sync start [] reply :=
    handlesAll_of_followsProtocol follows [] reply [] rfl
      (.nil Nat.zero_lt_one)
  exact absurd (handles.popsOwnChannel ⟨by decide, rfl⟩ rfl rfl) (by decide)

end OpenAppsec.Nano
