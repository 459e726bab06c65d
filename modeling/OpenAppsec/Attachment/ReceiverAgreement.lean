import OpenAppsec.Attachment.ReceiverProtocol
import OpenAppsec.Attachment.NginxReading

/-!
# The two reply receivers

The nano and the nginx attachment read one queue of replies.  They take the
same replies from it and come to the same outcome, except at limits on the
response headers and at replies that one of them cannot handle.
-/

namespace OpenAppsec

open CountedReader

/-- What a caller learns from a receiver. -/
inductive OutcomeClass where
  | blocked
  | accepted
  | ranDry
  | failed
  | continues (verdict : ServiceVerdict)

def outcomeClass (isError : Prop) [Decidable isError]
    (verdict : ServiceVerdict) (left : List Delivery) : OutcomeClass :=
  if isError then
    if left.isEmpty then .ranDry else .failed
  else
    match verdict with
    | .drop => .blocked
    | .customResponse => .blocked
    | .accept => .accepted
    | verdict => .continues verdict

section Agreement

variable {ω ψ : Type*}

/-- Sync mode in the nano attachment, and the same queue, session and number
of expected replies. -/
structure SameStart (nano : Nano.ReceiverState ω)
    (nginx : Nginx.ReceiverState ψ) : Prop where
  syncMode : nano.attachment.isAsyncModeEnabled = false
  queue : nginx.queue = nano.attachment.queue .nanoServiceIpc
  expected : nginx.expectedReplies =
    nano.sessionData.remainingMessagesToReply

/-- Both calls return; they take the same replies from the queue, the nano
attachment takes none from elsewhere, and the count of outstanding replies and
the class of the outcome are the same. -/
def ReceiversAgree (start : Nano.ReceiverState ω)
    (nano : Option (Nano.Return ω))
    (nginx : Option (Nginx.NgxResult × Nginx.ReceiverState ψ)) : Prop :=
  ∃ result state ngxResult ngxState,
    nano = some (.returned result state) ∧
      nginx = some (ngxResult, ngxState) ∧
      ngxState.queue.length =
        (state.attachment.queue .nanoServiceIpc).length ∧
      state.attachment.queue .nanoServiceSyncIpc =
        start.attachment.queue .nanoServiceSyncIpc ∧
      ngxState.expectedReplies =
        state.sessionData.remainingMessagesToReply ∧
      outcomeClass (ngxResult = .error) ngxState.verdict ngxState.queue =
        outcomeClass (result = .error) state.sessionData.verdict
          (state.attachment.queue .nanoServiceIpc)

/-- The protocol comes to this reply. -/
def ComesTo (start : Nano.ReceiverState ω) (before : List Delivery)
    (delivery : Delivery) : Prop :=
  start.Examines before ∧
    ∃ rest, start.attachment.queue .nanoServiceIpc =
      before ++ delivery :: rest

/-- Both attachments can handle this reply. -/
structure BothHandle (start : Nano.ReceiverState ω) (before : List Delivery)
    (delivery : Delivery) : Prop where
  nano : Nano.Handles .sync start before delivery
  nginx : delivery.IsCurrent start.sessionData.sessionId →
    delivery.reply.verdict = .inject → Nginx.AllocatesNodes delivery

/-- Both attachments can handle every reply that the protocol comes to, and it
ends with a reply that blocks or accepts or it comes to no limit for the
session. -/
structure Compatible (start : Nano.ReceiverState ω) : Prop where
  handles : ∀ before delivery, ComesTo start before delivery →
    BothHandle start before delivery
  unlimited :
    (∃ before delivery, ComesTo start before delivery ∧
      delivery.IsCurrent start.sessionData.sessionId ∧
      delivery.reply.verdict.IsFinal) ∨
    ∀ before delivery, ComesTo start before delivery →
      delivery.IsCurrent start.sessionData.sessionId →
        delivery.reply.verdict ≠ .limitResponseHeaders

section Kinds

variable {session : BitVec 32} {delivery : Delivery}

theorem nginx_stop_iff :
    Nginx.replyKind session delivery = .stop ↔
      Nano.replyKind session delivery = .stop := by
  rw [Nginx.replyKind_eq_stop_iff, Nano.replyKind_eq_stop_iff]

theorem nano_count_of_nginx
    (counts : Nginx.replyKind session delivery = .count) :
    Nano.replyKind session delivery = .count := by
  obtain ⟨current, -, unfinished, -⟩ :=
    Nginx.replyKind_eq_count_iff.mp counts
  exact Nano.replyKind_eq_count_iff.mpr ⟨current, unfinished⟩

theorem nano_count_of_nginx_abort
    (aborts : Nginx.replyKind session delivery = .abort) :
    Nano.replyKind session delivery = .count := by
  obtain ⟨current, inject, -⟩ := Nginx.replyKind_eq_abort_iff.mp aborts
  refine Nano.replyKind_eq_count_iff.mpr ⟨current, ?_⟩
  rw [inject]
  decide

theorem nginx_kind_eq
    (allocates : delivery.IsCurrent session →
      delivery.reply.verdict = .inject → Nginx.AllocatesNodes delivery)
    (unlimited : delivery.IsCurrent session →
      delivery.reply.verdict ≠ .limitResponseHeaders) :
    Nginx.replyKind session delivery = Nano.replyKind session delivery := by
  by_cases current : delivery.IsCurrent session
  · by_cases final : delivery.reply.verdict.IsFinal
    · rw [Nginx.replyKind_eq_stop_iff.mpr ⟨current, final⟩,
        Nano.replyKind_eq_stop_iff.mpr ⟨current, final⟩]
    · rw [Nginx.replyKind_eq_count_iff.mpr ⟨current, unlimited current, final,
          allocates current⟩,
        Nano.replyKind_eq_count_iff.mpr ⟨current, final⟩]
  · rw [Nginx.replyKind_eq_pass_iff.mpr (Or.inl current),
      Nano.replyKind_eq_pass_iff.mpr current]

end Kinds

section Reading

variable {start : Nano.ReceiverState ω} {examined : List Delivery}

theorem nginx_examines (examines : start.Examines examined)
    (allocates : ∀ delivery ∈ examined,
      delivery.IsCurrent start.sessionData.sessionId →
        delivery.reply.verdict = .inject → Nginx.AllocatesNodes delivery) :
    StillReading (Nginx.replyKind start.sessionData.sessionId)
      start.sessionData.remainingMessagesToReply examined := by
  apply examines.mono
  · intro delivery _
    exact nano_count_of_nginx
  · intro delivery member
    constructor
    · intro stops
      exact (examines.goesOn delivery member).1 (nginx_stop_iff.mp stops)
    · intro aborts
      obtain ⟨current, inject, fails⟩ :=
        Nginx.replyKind_eq_abort_iff.mp aborts
      exact fails (allocates delivery member current inject)

theorem ComesTo.early {before early late : List Delivery}
    {delivery reply : Delivery} (comes : ComesTo start before delivery)
    (parts : before = early ++ reply :: late) :
    ComesTo start early reply := by
  obtain ⟨examines, rest, split⟩ := comes
  rw [parts] at examines
  refine ⟨examines.left, late ++ delivery :: rest, ?_⟩
  rw [split, parts, List.append_assoc, List.cons_append]

theorem comesTo_of_examines (examines : start.Examines examined)
    {rest : List Delivery}
    (split : start.attachment.queue .nanoServiceIpc = examined ++ rest)
    {delivery : Delivery} (member : delivery ∈ examined) :
    ∃ before, ComesTo start before delivery := by
  obtain ⟨early, late, rfl⟩ := List.append_of_mem member
  refine ⟨early, examines.left, late ++ rest, ?_⟩
  rw [split, List.append_assoc, List.cons_append]

end Reading

section Compare

variable {handlers : ResponseHandlers ω} {ngxHandlers : ResponseHandlers ψ}
  {start : Nano.ReceiverState ω} {nginx : Nginx.ReceiverState ψ}
  (same : SameStart start nginx)

include same in
theorem SameStart.channel : start.channel .sync = .nanoServiceIpc := by
  unfold Nano.ReceiverState.channel Nano.getNanoServiceIpc
  rw [if_pos same.syncMode]

include same in
theorem SameStart.examines {examined : List Delivery}
    (examines : start.Examines examined)
    (allocates : ∀ delivery ∈ examined,
      delivery.IsCurrent start.sessionData.sessionId →
        delivery.reply.verdict = .inject → Nginx.AllocatesNodes delivery) :
    nginx.Examines start.sessionData.sessionId examined := by
  unfold Nginx.ReceiverState.Examines
  rw [same.expected]
  exact nginx_examines examines allocates

theorem allocates_of_handles {before : List Delivery}
    (handles : ∀ early delivery late, before = early ++ delivery :: late →
      BothHandle start early delivery) :
    ∀ delivery ∈ before, delivery.IsCurrent start.sessionData.sessionId →
      delivery.reply.verdict = .inject → Nginx.AllocatesNodes delivery := by
  intro delivery member
  obtain ⟨early, late, parts⟩ := List.append_of_mem member
  exact (handles early delivery late parts).nginx

include same in
theorem handles_of_agree
    (agree : ReceiversAgree start
      (Nano.serviceReplyReceiver handlers .sync start)
      (Nginx.ngxHttpCpReplyReceiver ngxHandlers start.sessionData.sessionId
        nginx)) :
    ∀ before delivery, ComesTo start before delivery →
      BothHandle start before delivery := by
  obtain ⟨result, state, ngxResult, ngxState, returned, ngxReturned, length,
    untouched, -, -⟩ := agree
  intro before
  induction size : before.length using Nat.strongRecOn generalizing before with
  | ind bound induction =>
      intro delivery comes
      have handles : ∀ early reply late, before = early ++ reply :: late →
          BothHandle start early reply := by
        intro early reply late parts
        apply induction early.length ?_ early rfl reply (comes.early parts)
        rw [← size, parts, List.length_append, List.length_cons]
        exact Nat.lt_add_of_pos_right (Nat.succ_pos _)
      obtain ⟨examines, rest, split⟩ := comes
      have nanoSplit : start.attachment.queue (start.channel .sync) =
          before ++ delivery :: rest := by rw [same.channel, split]
      have nginxSplit : nginx.queue = before ++ delivery :: rest := by
        rw [same.queue, split]
      have nanoHandles : ∀ early reply late,
          before = early ++ reply :: late →
            Nano.Handles .sync start early reply :=
        fun early reply late parts => (handles early reply late parts).nano
      have nginxExamines := same.examines examines
        (allocates_of_handles handles)
      have unaborted : Nginx.replyKind start.sessionData.sessionId delivery ≠
          .abort := by
        -- nginx would leave the reply in the queue, and nano takes it
        intro aborts
        obtain ⟨-, inject, -⟩ := Nginx.replyKind_eq_abort_iff.mp aborts
        have nanoIt : Nano.Handles .sync start before delivery := by
          constructor
          · intro reconf
            rw [inject] at reconf
            cases reconf
          · intro _ custom
            rw [inject] at custom
            cases custom
          · rintro _ (drop | custom)
            · rw [inject] at drop
              cases drop
            · rw [inject] at custom
              cases custom
        have taken := Nano.consumes nanoSplit examines nanoHandles nanoIt
          (by rw [nano_count_of_nginx_abort aborts]; simp) returned
        obtain ⟨_, _, ended, -, -, -, kept⟩ :=
          Nginx.receiver_ends ngxHandlers nginxSplit nginxExamines
            (Or.inr (Or.inl aborts))
        rw [ended] at ngxReturned
        cases ngxReturned
        rw [same.channel, ← length, kept aborts, List.length_cons] at taken
        exact Nat.not_succ_le_self _ taken
      have taken : ngxState.queue.length ≤ rest.length := by
        by_cases ends : CountedReader.EndsAt
            (Nginx.replyKind start.sessionData.sessionId)
            nginx.expectedReplies before delivery
        · obtain ⟨_, _, ended, -, -, leaves, -⟩ :=
            Nginx.receiver_ends ngxHandlers nginxSplit nginxExamines ends
          rw [ended] at ngxReturned
          cases ngxReturned
          exact Nat.le_of_eq (congrArg List.length (leaves unaborted).1)
        · have whole : nginx.queue = (before ++ [delivery]) ++ rest := by
            rw [nginxSplit, List.append_assoc, List.singleton_append]
          exact (Nginx.receiver_consumes ngxHandlers whole
            (nginxExamines.concat ends) ngxReturned).1
      constructor
      · by_contra unhandled
        rcases Nano.departs nanoSplit examines nanoHandles unhandled
          returned with ⟨other, different, changed⟩ | kept
        · rw [same.channel] at different
          cases other with
          | nanoServiceIpc => exact different rfl
          | nanoServiceSyncIpc => exact changed untouched
        · rw [same.channel] at kept
          rw [length, kept, List.length_cons] at taken
          exact Nat.not_succ_le_self _ taken
      · intro current inject
        by_contra fails
        exact unaborted
          (Nginx.replyKind_eq_abort_iff.mpr ⟨current, inject, fails⟩)

include same in
theorem SameStart.handlesAll
    (handles : ∀ before delivery, ComesTo start before delivery →
      BothHandle start before delivery) :
    Nano.HandlesAll .sync start := by
  intro before delivery rest split examines
  rw [same.channel] at split
  exact (handles before delivery ⟨examines, rest, split⟩).nano

theorem allocates_of_reading
    (handles : ∀ before delivery, ComesTo start before delivery →
      BothHandle start before delivery)
    {replies rest : List Delivery} (reading : start.Examines replies)
    (whole : start.attachment.queue .nanoServiceIpc = replies ++ rest) :
    ∀ reply ∈ replies, reply.IsCurrent start.sessionData.sessionId →
      reply.reply.verdict = .inject → Nginx.AllocatesNodes reply := by
  intro reply member
  obtain ⟨early, earlier⟩ := comesTo_of_examines reading whole member
  exact (handles early reply earlier).nginx

theorem counted_lt_of_limit {examined : List Delivery} {delivery : Delivery}
    (member : delivery ∈ examined)
    (current : delivery.IsCurrent start.sessionData.sessionId)
    (limit : delivery.reply.verdict = .limitResponseHeaders) :
    counted (Nginx.replyKind start.sessionData.sessionId) examined <
      counted (Nano.replyKind start.sessionData.sessionId) examined := by
  apply counted_lt (fun _ _ => nano_count_of_nginx) member
  · apply Nano.replyKind_eq_count_iff.mpr
    rw [limit]
    exact ⟨current, by decide⟩
  · rw [Nginx.replyKind_eq_pass_iff.mpr (Or.inr limit)]
    simp

include same in
/-- Past a limit nginx still expects replies where nano expects its last. -/
theorem SameStart.examines_last
    (handles : ∀ before delivery, ComesTo start before delivery →
      BothHandle start before delivery)
    {early left : List Delivery} {last limit : Delivery}
    (reading : start.Examines early)
    (split : start.attachment.queue .nanoServiceIpc = early ++ last :: left)
    (own : last.IsCurrent start.sessionData.sessionId)
    (goesOn : ¬last.reply.verdict.IsFinal)
    (counts : counted (Nano.replyKind start.sessionData.sessionId) early + 1 =
      start.sessionData.remainingMessagesToReply)
    (member : limit ∈ early ++ [last])
    (current : limit.IsCurrent start.sessionData.sessionId)
    (isLimit : limit.reply.verdict = .limitResponseHeaders) :
    nginx.Examines start.sessionData.sessionId (early ++ [last]) := by
  have lastCounts := Nano.replyKind_eq_count_iff.mpr ⟨own, goesOn⟩
  have total : counted (Nano.replyKind start.sessionData.sessionId)
      (early ++ [last]) = start.sessionData.remainingMessagesToReply := by
    rw [counted_append, counted_singleton_of_count lastCounts, counts]
  have fewer := counted_lt_of_limit member current isLimit
  rw [total] at fewer
  have earlier := same.examines reading
    (allocates_of_reading handles reading split)
  apply earlier.concat
  rintro (stops | aborts | ⟨counting, ends⟩)
  · have both := nginx_stop_iff.mp stops
    rw [lastCounts] at both
    cases both
  · obtain ⟨_, inject, fails⟩ := Nginx.replyKind_eq_abort_iff.mp aborts
    exact fails ((handles early last ⟨reading, left, split⟩).nginx own inject)
  · rw [counted_append, counted_singleton_of_count counting, ends,
      same.expected] at fewer
    exact Nat.lt_irrefl _ fewer

include same in
theorem unlimited_of_agree
    (agree : ReceiversAgree start
      (Nano.serviceReplyReceiver handlers .sync start)
      (Nginx.ngxHttpCpReplyReceiver ngxHandlers start.sessionData.sessionId
        nginx))
    (handles : ∀ before delivery, ComesTo start before delivery →
      BothHandle start before delivery)
    (unfinished : ¬∃ before delivery, ComesTo start before delivery ∧
      delivery.IsCurrent start.sessionData.sessionId ∧
      delivery.reply.verdict.IsFinal)
    {before : List Delivery} {delivery : Delivery}
    (comes : ComesTo start before delivery)
    (current : delivery.IsCurrent start.sessionData.sessionId) :
    delivery.reply.verdict ≠ .limitResponseHeaders := by
  intro limit
  obtain ⟨result, state, ngxResult, ngxState, returned, ngxReturned, length,
    -, outstanding, classes⟩ := agree
  obtain ⟨result', state', examined, left, returned', split, popped, ends⟩ :=
    Nano.followsProtocol_of_handlesAll handlers
      (same.handlesAll handles)
  rw [returned'] at returned
  cases returned
  have nanoLeft : state.attachment.queue .nanoServiceIpc = left := by
    rw [popped, same.channel, Function.update_self]
  rw [same.channel] at split
  obtain ⟨examines, rest, parts⟩ := comes
  generalize final : state.sessionData = session at ends outstanding classes
  cases ends with
  | nothingExpected expected =>
      have waiting := examines.waiting
      rw [expected] at waiting
      exact Nat.not_lt_zero _ waiting
  | runsDry reading total =>
      -- both run dry, and the counts differ
      have dryReading := same.examines reading
        (allocates_of_reading handles reading split)
      rw [List.append_nil] at split
      have ngxQueue : nginx.queue = examined := by rw [same.queue, split]
      have wholeQueue : nginx.Examines start.sessionData.sessionId
          nginx.queue := by rwa [ngxQueue]
      obtain ⟨dry, ended, reached, -⟩ :=
        Nginx.receiver_dry ngxHandlers wholeQueue
      rw [ended] at ngxReturned
      cases ngxReturned
      have counts := reached.outstanding
      rw [ngxQueue, same.expected, outstanding, ← total] at counts
      have member : delivery ∈ examined := by
        rw [← split, parts]
        simp
      exact Nat.ne_of_lt (counted_lt_of_limit member current limit)
        (Nat.add_left_cancel counts)
  | finalReply reading own isFinal =>
      rw [List.append_assoc, List.singleton_append] at split
      exact unfinished ⟨_, _, ⟨reading, _, split⟩, own, isFinal⟩
  | @lastExpected early _ last _ _ reading own goesOn counts ok done =>
      -- nginx has counted fewer replies and goes on
      have whole : nginx.queue = (early ++ [last]) ++ left := by
        rw [same.queue, split]
      rw [List.append_assoc, List.singleton_append] at split
      have ended : EndsAt (Nano.replyKind start.sessionData.sessionId)
          start.sessionData.remainingMessagesToReply early last :=
        Or.inr (Or.inr
          ⟨Nano.replyKind_eq_count_iff.mpr ⟨own, goesOn⟩, counts⟩)
      have member : delivery ∈ early ++ [last] := by
        rcases ended.mem_or_eq (split.symm.trans parts) examines with
          inside | rfl
        · exact List.mem_append_left _ inside
        · simp
      rcases (Nginx.receiver_consumes ngxHandlers whole
        (same.examines_last handles reading split own goesOn counts member
          current limit) ngxReturned).2 with failed | shorter
      · unfold outcomeClass at classes
        rw [if_pos failed, if_neg ok] at classes
        split at classes
        · split at classes <;> cases classes
        · split at classes <;> cases classes
      · rw [length, nanoLeft] at shorter
        exact Nat.lt_irrefl _ shorter

theorem outcomeClass_final {delivery : Delivery}
    (final : delivery.reply.verdict.IsFinal)
    {ngxResult : Nginx.NgxResult} {verdict : ServiceVerdict}
    {list list' : List ModificationNode}
    (outcome : (ngxResult, verdict, list') =
      Nginx.endsWith list delivery)
    {result : Nano.NanoCommunicationResult} (ok : result ≠ .error)
    (left : List Delivery) :
    outcomeClass (ngxResult = .error) verdict left =
      outcomeClass (result = .error) delivery.reply.verdict left := by
  unfold Nginx.endsWith at outcome
  unfold outcomeClass
  rw [if_neg ok]
  rcases final with accept | drop | custom
  · rw [accept] at outcome ⊢
    cases outcome
    rfl
  · rw [drop] at outcome ⊢
    cases outcome
    rfl
  · rw [custom] at outcome ⊢
    cases outcome
    rfl

/-- The class of an outcome at the last reply that is expected. -/
theorem outcomeClass_last {delivery : Delivery}
    (related : delivery.reply.verdict ≠ .reconf)
    (unlimited : delivery.reply.verdict ≠ .limitResponseHeaders)
    (goesOn : ¬delivery.reply.verdict.IsFinal)
    (allocates : delivery.reply.verdict = .inject →
      Nginx.AllocatesNodes delivery)
    {ngxResult : Nginx.NgxResult} {verdict : ServiceVerdict}
    {list list' : List ModificationNode}
    (outcome : (ngxResult, verdict, list') =
      Nginx.endsWith list delivery)
    {result : Nano.NanoCommunicationResult} (ok : result ≠ .error)
    (left : List Delivery) :
    outcomeClass (ngxResult = .error) verdict left =
      outcomeClass (result = .error) delivery.reply.verdict.asInspect left := by
  unfold Nginx.endsWith at outcome
  unfold outcomeClass
  rw [if_neg ok]
  cases found : delivery.reply.verdict with
  | accept => exact absurd (Or.inl found) goesOn
  | drop => exact absurd (Or.inr (Or.inl found)) goesOn
  | customResponse => exact absurd (Or.inr (Or.inr found)) goesOn
  | reconf => exact absurd found related
  | limitResponseHeaders => exact absurd found unlimited
  | inject =>
      rw [found] at outcome
      simp only [if_pos (allocates found)] at outcome
      cases outcome
      rfl
  | inspect => rw [found] at outcome; cases outcome; rfl
  | irrelevant => rw [found] at outcome; cases outcome; rfl
  | delayed => rw [found] at outcome; cases outcome; rfl
  | other code => rw [found] at outcome; cases outcome; rfl

/-- The nginx receiver returns and leaves these replies; its count and the
class of its outcome are those of the nano attachment. -/
def NginxEndsLike (nginx : Option (Nginx.NgxResult × Nginx.ReceiverState ψ))
    (left : List Delivery) (result : Nano.NanoCommunicationResult)
    (session : Nano.HttpSessionData) : Prop :=
  ∃ ngxResult ngxState,
    nginx = some (ngxResult, ngxState) ∧
      ngxState.queue = left ∧
      ngxState.expectedReplies = session.remainingMessagesToReply ∧
      outcomeClass (ngxResult = .error) ngxState.verdict left =
        outcomeClass (result = .error) session.verdict left

/-- A reply that is final ends the reading of both, so that no limit counts
where the protocol ends without one. -/
theorem Compatible.unlimited_of (compatible : Compatible start)
    (unfinished : ∀ before delivery, ComesTo start before delivery →
      delivery.IsCurrent start.sessionData.sessionId →
        ¬delivery.reply.verdict.IsFinal) :
    ∀ before delivery, ComesTo start before delivery →
      delivery.IsCurrent start.sessionData.sessionId →
        delivery.reply.verdict ≠ .limitResponseHeaders := by
  apply compatible.unlimited.resolve_left
  rintro ⟨before, delivery, comes, current, isFinal⟩
  exact unfinished before delivery comes current isFinal

theorem replyKind_congr
    (handles : ∀ before delivery, ComesTo start before delivery →
      BothHandle start before delivery)
    (unlimited : ∀ before delivery, ComesTo start before delivery →
      delivery.IsCurrent start.sessionData.sessionId →
        delivery.reply.verdict ≠ .limitResponseHeaders)
    {replies rest : List Delivery} (reading : start.Examines replies)
    (whole : start.attachment.queue .nanoServiceIpc = replies ++ rest) :
    ∀ reply ∈ replies, Nginx.replyKind start.sessionData.sessionId reply =
      Nano.replyKind start.sessionData.sessionId reply := by
  intro reply member
  obtain ⟨early, comes⟩ := comesTo_of_examines reading whole member
  exact nginx_kind_eq (handles early reply comes).nginx
    (unlimited early reply comes)

include same in
theorem dry_agrees (compatible : Compatible start) {examined : List Delivery}
    {final : Nano.HttpSessionData} (reading : start.Examines examined)
    (total : final.remainingMessagesToReply +
        counted (Nano.replyKind start.sessionData.sessionId) examined =
      start.sessionData.remainingMessagesToReply)
    (split : start.attachment.queue .nanoServiceIpc = examined ++ []) :
    NginxEndsLike (Nginx.ngxHttpCpReplyReceiver ngxHandlers
      start.sessionData.sessionId nginx) [] .error final := by
  have dryReading := same.examines reading
    (allocates_of_reading compatible.handles reading split)
  have ngxQueue : nginx.queue = examined := by
    rw [same.queue, split, List.append_nil]
  have wholeQueue : nginx.Examines start.sessionData.sessionId
      nginx.queue := by rwa [ngxQueue]
  obtain ⟨dry, ended, reached, empty⟩ :=
    Nginx.receiver_dry ngxHandlers wholeQueue
  refine ⟨.error, dry, ended, empty, ?_, rfl⟩
  have unlimited := compatible.unlimited_of fun before delivery comes own
      isFinal => by
    obtain ⟨examines, rest, parts⟩ := comes
    have stops := Nano.replyKind_eq_stop_iff.mpr ⟨own, isFinal⟩
    refine absurd stops (reading.goesOn delivery ?_).1
    rw [List.append_nil] at split
    rw [← split, parts]
    simp
  have agree := replyKind_congr compatible.handles unlimited reading split
  have counts := reached.outstanding
  rw [ngxQueue, same.expected, counted_congr agree, ← total] at counts
  exact Nat.add_right_cancel counts

include same in
theorem last_agrees (compatible : Compatible start)
    {before left : List Delivery} {delivery : Delivery}
    {result : Nano.NanoCommunicationResult} {final : Nano.HttpSessionData}
    (reading : start.Examines before)
    (own : delivery.IsCurrent start.sessionData.sessionId)
    (goesOn : ¬delivery.reply.verdict.IsFinal)
    (counts : counted (Nano.replyKind start.sessionData.sessionId) before + 1 =
      start.sessionData.remainingMessagesToReply)
    (ok : result ≠ .error) (done : final.remainingMessagesToReply = 0)
    (verdict : final.verdict = delivery.reply.verdict.asInspect)
    (split : start.attachment.queue .nanoServiceIpc =
      before ++ delivery :: left) :
    NginxEndsLike (Nginx.ngxHttpCpReplyReceiver ngxHandlers
      start.sessionData.sessionId nginx) left result final := by
  have ended : EndsAt (Nano.replyKind start.sessionData.sessionId)
      start.sessionData.remainingMessagesToReply before delivery :=
    Or.inr (Or.inr ⟨Nano.replyKind_eq_count_iff.mpr ⟨own, goesOn⟩, counts⟩)
  -- the reading ends here, and not with a reply that blocks or accepts
  have unlimited := compatible.unlimited_of fun early last comes ownLast
      isFinal => by
    obtain ⟨examines, rest, parts⟩ := comes
    have stops := Nano.replyKind_eq_stop_iff.mpr ⟨ownLast, isFinal⟩
    rcases ended.mem_or_eq (split.symm.trans parts) examines with member | rfl
    · exact absurd stops (reading.goesOn last member).1
    · exact goesOn isFinal
  have comes : ComesTo start before delivery := ⟨reading, left, split⟩
  have handles := compatible.handles before delivery comes
  have agree := replyKind_congr compatible.handles unlimited reading split
  have ngxReading := same.examines reading
    (allocates_of_reading compatible.handles reading split)
  have ngxCounts := Nginx.replyKind_eq_count_iff.mpr
    ⟨own, unlimited before delivery comes own, goesOn, handles.nginx own⟩
  obtain ⟨ngxResult, ngxState, ngxEnded, outcome, -, leaves, -⟩ :=
    Nginx.receiver_ends ngxHandlers (same.queue.trans split) ngxReading
      (Or.inr (Or.inr ⟨ngxCounts, by
        rw [counted_congr agree, counts, same.expected]⟩))
  obtain ⟨ngxLeft, ngxDone⟩ := leaves (by simp [ngxCounts])
  refine ⟨ngxResult, ngxState, ngxEnded, ngxLeft, ngxDone.trans done.symm, ?_⟩
  rw [verdict]
  exact outcomeClass_last own.1 (unlimited before delivery comes own) goesOn
    (handles.nginx own) outcome ok left

include same in
theorem agree_of_compatible (compatible : Compatible start) :
    ReceiversAgree start (Nano.serviceReplyReceiver handlers .sync start)
      (Nginx.ngxHttpCpReplyReceiver ngxHandlers start.sessionData.sessionId
        nginx) := by
  obtain ⟨result, state, examined, left, returned, split, popped, ends⟩ :=
    Nano.followsProtocol_of_handlesAll handlers
      (same.handlesAll compatible.handles)
  have nanoLeft : state.attachment.queue .nanoServiceIpc = left := by
    rw [popped, same.channel, Function.update_self]
  have untouched : state.attachment.queue .nanoServiceSyncIpc =
      start.attachment.queue .nanoServiceSyncIpc := by
    rw [popped, same.channel, Function.update_of_ne (by simp)]
  rw [same.channel] at split
  suffices agrees : NginxEndsLike (Nginx.ngxHttpCpReplyReceiver ngxHandlers
      start.sessionData.sessionId nginx) left result state.sessionData by
    obtain ⟨ngxResult, ngxState, ngxReturned, ngxLeft, outstanding,
      classes⟩ := agrees
    refine ⟨result, state, ngxResult, ngxState, returned, ngxReturned, ?_,
      untouched, outstanding, ?_⟩
    · rw [ngxLeft, nanoLeft]
    · rw [ngxLeft, nanoLeft, classes]
  generalize final : state.sessionData = session at ends
  cases ends with
  | nothingExpected expected ok done verdict =>
      have ngxExpected : nginx.expectedReplies = 0 :=
        same.expected.trans expected
      refine ⟨.ok, { nginx with verdict := .inspect }, ?_, ?_, ?_, ?_⟩
      · unfold Nginx.ngxHttpCpReplyReceiver
        rw [if_pos ngxExpected]
      · exact same.queue.trans split
      · exact ngxExpected.trans done.symm
      · unfold outcomeClass
        rw [if_neg ok, verdict]
        rfl
  | runsDry reading total =>
      exact dry_agrees same compatible reading total split
  | @finalReply before _ delivery _ _ reading own isFinal ok done verdict =>
      rw [List.append_assoc, List.singleton_append] at split
      have ngxReading := same.examines reading
        (allocates_of_reading compatible.handles reading split)
      have stops := Nginx.replyKind_eq_stop_iff.mpr ⟨own, isFinal⟩
      obtain ⟨ngxResult, ngxState, ended, outcome, -, leaves, -⟩ :=
        Nginx.receiver_ends ngxHandlers (same.queue.trans split) ngxReading
          (Or.inl stops)
      obtain ⟨ngxLeft, ngxDone⟩ := leaves (by simp [stops])
      refine ⟨ngxResult, ngxState, ended, ngxLeft, ngxDone.trans done.symm, ?_⟩
      rw [verdict]
      exact outcomeClass_final isFinal outcome ok left
  | lastExpected reading own goesOn counts ok done verdict =>
      rw [List.append_assoc, List.singleton_append] at split
      exact last_agrees same compatible reading own goesOn counts ok done
        verdict split

include same in
/-- The two receivers agree precisely when both can handle every reply that
the protocol comes to, and no limit on the response headers is among those
that nano counts, or a reply that blocks or accepts ends the reading. -/
theorem receivers_agree_iff :
    ReceiversAgree start (Nano.serviceReplyReceiver handlers .sync start)
        (Nginx.ngxHttpCpReplyReceiver ngxHandlers start.sessionData.sessionId
          nginx) ↔
      Compatible start := by
  constructor
  · intro agree
    have handles := handles_of_agree same agree
    refine ⟨handles, ?_⟩
    by_cases finished : ∃ before delivery, ComesTo start before delivery ∧
        delivery.IsCurrent start.sessionData.sessionId ∧
        delivery.reply.verdict.IsFinal
    · exact Or.inl finished
    · right
      intro before delivery comes current
      exact unlimited_of_agree same agree handles finished comes current
  · exact agree_of_compatible same

end Compare

/-- A limit and an inspection, with one reply expected: nano counts the limit
and leaves the inspection, nginx takes both. -/
theorem receivers_disagree_on_limit :
    let reply (verdict : ServiceVerdict) : Delivery :=
      { reply :=
          { verdict
            sessionId := 7
            injectData := []
            responseData := [] }
        malloc := fun _ => true
        ngxPcalloc := fun _ => true
        loadedAsyncMode := none }
    let queue := [reply .limitResponseHeaders, reply .inspect]
    let start : Nano.ReceiverState Unit :=
      { attachment :=
          { isAsyncModeEnabled := false
            currentConfigVersion := 0
            queue := fun ipc => if ipc = .nanoServiceIpc then queue else [] }
        sessionData :=
          { sessionId := 7
            verdict := .inspect
            remainingMessagesToReply := 1 }
        webResponseData := ()
        modificationList := [] }
    let nginx : Nginx.ReceiverState Unit :=
      { queue
        expectedReplies := 1
        verdict := .inspect
        inspectAllResponseHeaders := 1
        modificationList := []
        webResponse := ()
        currentConfigVersion := 0 }
    let handlers : ResponseHandlers Unit := ⟨fun _ _ => (), fun _ _ => ()⟩
    SameStart start nginx ∧
      ¬ReceiversAgree start (Nano.serviceReplyReceiver handlers .sync start)
        (Nginx.ngxHttpCpReplyReceiver handlers 7 nginx) := by
  intro reply queue start nginx handlers
  refine ⟨⟨rfl, rfl, rfl⟩, ?_⟩
  rintro ⟨result, state, ngxResult, ngxState, nano, ngx, lengths, -⟩
  cases nano
  cases ngx
  exact absurd lengths (by decide)

/-- A reply of another session, a modification and a block, with three replies
expected: both take all of them and report a block. -/
theorem receivers_agree_iff_on_acceptance :
    let reply (sessionId : BitVec 32) (verdict : ServiceVerdict)
        (injectData : List HttpInjectData) : Delivery :=
      { reply := { verdict, sessionId, injectData, responseData := [] }
        malloc := fun _ => true
        ngxPcalloc := fun _ => true
        loadedAsyncMode := none }
    let modification : HttpInjectData :=
      { injectionPos := 0
        modType := .append
        isHeader := 1
        origBuffIndex := 0
        data := [65] }
    let queue :=
      [reply 9 .drop [], reply 7 .inject [modification], reply 7 .accept [],
        reply 7 .inspect []]
    let start : Nano.ReceiverState Unit :=
      { attachment :=
          { isAsyncModeEnabled := false
            currentConfigVersion := 0
            queue := fun ipc => if ipc = .nanoServiceIpc then queue else [] }
        sessionData :=
          { sessionId := 7
            verdict := .inspect
            remainingMessagesToReply := 3 }
        webResponseData := ()
        modificationList := [] }
    let nginx : Nginx.ReceiverState Unit :=
      { queue
        expectedReplies := 3
        verdict := .inspect
        inspectAllResponseHeaders := 1
        modificationList := []
        webResponse := ()
        currentConfigVersion := 0 }
    let handlers : ResponseHandlers Unit := ⟨fun _ _ => (), fun _ _ => ()⟩
    Compatible start ∧
      ReceiversAgree start (Nano.serviceReplyReceiver handlers .sync start)
        (Nginx.ngxHttpCpReplyReceiver handlers start.sessionData.sessionId
          nginx) := by
  intro reply modification queue start nginx handlers
  have same : SameStart start nginx := ⟨rfl, rfl, rfl⟩
  have agree : ReceiversAgree start
      (Nano.serviceReplyReceiver handlers .sync start)
      (Nginx.ngxHttpCpReplyReceiver handlers start.sessionData.sessionId
          nginx) :=
    ⟨_, _, _, _, rfl, rfl, rfl, rfl, rfl, rfl⟩
  exact ⟨(receivers_agree_iff same).mp agree, agree⟩

end Agreement

end OpenAppsec
