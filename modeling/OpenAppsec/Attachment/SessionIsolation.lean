import OpenAppsec.Attachment.NginxReading

/-!
# Replies of other sessions in the nginx receiver

Two queues with the same replies for a session and the same reconfigurations
give one call the same outcome, unless a limit on the response headers that
belongs to another session comes in between.
-/

namespace OpenAppsec.Nginx

open CountedReader

variable {before rest : List Delivery} {delivery : Delivery}

/-- A reply of the session, or a reconfiguration. -/
def Relevant (curSessionId : BitVec 32) (delivery : Delivery) : Prop :=
  delivery.reply.sessionId = curSessionId ∨
    delivery.reply.verdict = .reconf

instance (curSessionId : BitVec 32) (delivery : Delivery) :
    Decidable (Relevant curSessionId delivery) :=
  inferInstanceAs (Decidable (_ ∨ _))

def relevant (curSessionId : BitVec 32) (deliveries : List Delivery) :
    List Delivery :=
  deliveries.filter fun delivery => Relevant curSessionId delivery

/-- Two calls that return the same result, with the same verdict, flag and
modification list. -/
def Agree {ω : Type*} (first second : Option (NgxResult × ReceiverState ω)) :
    Prop :=
  ∃ result state other,
    first = some (result, state) ∧ second = some (result, other) ∧
      state.verdict = other.verdict ∧
      state.inspectAllResponseHeaders = other.inspectAllResponseHeaders ∧
      state.modificationList = other.modificationList

/-- A limit on the response headers comes before the reading of `count`
replies ends. -/
def ReadsLimit (curSessionId : BitVec 32) (count : Nat)
    (queue : List Delivery) : Prop :=
  ∃ before delivery rest, queue = before ++ delivery :: rest ∧
    StillReading (replyKind curSessionId) count before ∧
    delivery.reply.verdict = .limitResponseHeaders

/-- The last reply that the session hears is such a limit; if it hears none,
the verdict is that already. -/
def LeavesLimit (curSessionId : BitVec 32) (verdict : ServiceVerdict)
    (queue : List Delivery) : Prop :=
  ((lastHeard curSessionId queue).map (·.reply.verdict)).getD verdict =
    .limitResponseHeaders

section Relevant

variable {curSessionId : BitVec 32}

theorem replyKind_of_not_relevant (delivery : Delivery)
    (other : decide (Relevant curSessionId delivery) = false) :
    replyKind curSessionId delivery = .pass := by
  apply replyKind_eq_pass_iff.mpr
  left
  intro current
  exact of_decide_eq_false other (Or.inl current.2)

theorem relevant_of_ends {count : Nat}
    (ends : EndsAt (replyKind curSessionId) count before delivery) :
    Relevant curSessionId delivery := by
  by_contra other
  have passes := replyKind_of_not_relevant delivery (by simpa using other)
  unfold EndsAt at ends
  rw [passes] at ends
  simp at ends

theorem injectedNodes_relevant (deliveries : List Delivery) :
    injectedNodes curSessionId (relevant curSessionId deliveries) =
      injectedNodes curSessionId deliveries := by
  unfold injectedNodes relevant
  rw [List.filter_filter]
  congr 1
  apply List.filter_congr
  intro delivery member
  by_cases own : delivery.reply.sessionId = curSessionId
  · simp [own, Relevant]
  · simp [own]

theorem injectedNodes_congr {first second : List Delivery}
    (same : relevant curSessionId first = relevant curSessionId second) :
    injectedNodes curSessionId first = injectedNodes curSessionId second := by
  rw [← injectedNodes_relevant, same, injectedNodes_relevant]

theorem verdictAfter_eq_limit_iff (verdict : ServiceVerdict)
    (deliveries : List Delivery) :
    verdictAfter curSessionId verdict deliveries = .limitResponseHeaders ↔
      LeavesLimit curSessionId verdict deliveries := by
  unfold verdictAfter LeavesLimit
  cases lastHeard curSessionId deliveries with
  | none => rfl
  | some delivery =>
      simp only [Option.map_some, Option.getD_some]
      unfold verdictOf
      split
      · rename_i inject
        simp [inject]
      · rfl

theorem verdictAfter_relevant (verdict : ServiceVerdict)
    {deliveries : List Delivery}
    (unlimited : ¬LeavesLimit curSessionId verdict deliveries) :
    verdictAfter curSessionId verdict deliveries =
      match (relevant curSessionId deliveries).getLast? with
      | none => verdict
      | some delivery => verdictOf delivery := by
  induction deliveries using List.reverseRecOn with
  | nil => rfl
  | append_singleton before delivery induction =>
      by_cases heard : Heard curSessionId delivery
      · have kept : Relevant curSessionId delivery := by
          rcases heard with reconf | limit | own
          · exact Or.inr reconf
          · refine absurd ?_ unlimited
            unfold LeavesLimit
            rw [lastHeard_concat_of_heard (Or.inr (Or.inl limit))]
            exact limit
          · exact Or.inl own
        rw [verdictAfter_concat_of_heard _ heard]
        unfold relevant
        rw [List.filter_append, List.filter_cons_of_pos (by simpa using kept),
          List.filter_nil, List.getLast?_concat]
      · have skipped : ¬Relevant curSessionId delivery := by
          rintro (own | reconf)
          · exact heard (Or.inr (Or.inr own))
          · exact heard (Or.inl reconf)
        have earlier : ¬LeavesLimit curSessionId verdict before := by
          unfold LeavesLimit at unlimited ⊢
          rwa [lastHeard_concat_of_not_heard heard] at unlimited
        rw [verdictAfter_concat_of_not_heard _ heard,
          induction earlier]
        unfold relevant
        rw [List.filter_append,
          List.filter_cons_of_neg (by simpa using skipped), List.filter_nil,
          List.append_nil]

theorem verdictAfter_eq_iff (verdict : ServiceVerdict)
    {first second : List Delivery}
    (same : relevant curSessionId first = relevant curSessionId second) :
    verdictAfter curSessionId verdict first =
        verdictAfter curSessionId verdict second ↔
      (LeavesLimit curSessionId verdict first ↔
        LeavesLimit curSessionId verdict second) := by
  constructor
  · intro equal
    rw [← verdictAfter_eq_limit_iff, ← verdictAfter_eq_limit_iff, equal]
  · intro both
    by_cases limit : LeavesLimit curSessionId verdict first
    · rw [(verdictAfter_eq_limit_iff verdict first).mpr limit,
        (verdictAfter_eq_limit_iff verdict second).mpr (both.mp limit)]
    · rw [verdictAfter_relevant verdict limit,
        verdictAfter_relevant verdict (mt both.mpr limit), same]

theorem flagAfter_eq_iff (flag : Int) (first second : List Delivery) :
    flagAfter flag first = flagAfter flag second ↔
      flag = 0 ∨ (Limits first ↔ Limits second) := by
  unfold flagAfter
  by_cases one : Limits first
  · by_cases two : Limits second
    · simp [one, two]
    · simp [one, two, eq_comm]
  · by_cases two : Limits second
    · simp [one, two]
    · simp [one, two]

end Relevant

section ReadsLimit

variable {curSessionId : BitVec 32} {count : Nat}

theorem readsLimit_of_limits
    (reading : StillReading (replyKind curSessionId) count before)
    (limits : Limits before) :
    ReadsLimit curSessionId count (before ++ rest) := by
  obtain ⟨delivery, member, limit⟩ := limits
  obtain ⟨early, late, rfl⟩ := List.append_of_mem member
  refine ⟨early, delivery, late ++ rest, ?_, reading.left, limit⟩
  rw [List.append_assoc, List.cons_append]

theorem readsLimit_of_stillReading {queue : List Delivery}
    (reading : StillReading (replyKind curSessionId) count queue) :
    ReadsLimit curSessionId count queue ↔ Limits queue := by
  constructor
  · rintro ⟨before, delivery, rest, rfl, -, limit⟩
    exact ⟨delivery, by simp, limit⟩
  · intro limits
    rw [← List.append_nil queue]
    exact readsLimit_of_limits reading limits

theorem readsLimit_of_endsAt
    (reading : StillReading (replyKind curSessionId) count before)
    (ends : EndsAt (replyKind curSessionId) count before delivery) :
    ReadsLimit curSessionId count (before ++ delivery :: rest) ↔
      Limits before := by
  constructor
  · rintro ⟨early, limiting, late, split, examines, limit⟩
    rcases ends.mem_or_eq split examines with member | rfl
    · exact ⟨limiting, member, limit⟩
    · have passes : replyKind curSessionId limiting = .pass :=
        replyKind_eq_pass_iff.mpr (Or.inr limit)
      unfold EndsAt at ends
      rw [passes] at ends
      simp at ends
  · exact readsLimit_of_limits reading

theorem not_readsLimit_zero (queue : List Delivery) :
    ¬ReadsLimit curSessionId 0 queue := by
  rintro ⟨before, delivery, rest, -, reading, -⟩
  exact Nat.not_lt_zero _ reading.waiting

end ReadsLimit

section Agree

variable {ω : Type*} (handlers : ResponseHandlers ω)
  {curSessionId : BitVec 32} (start : ReceiverState ω)
  {first second : List Delivery}
  (same : relevant curSessionId first = relevant curSessionId second)

include same in
theorem agree_of_dry_iff
    (reading : StillReading (replyKind curSessionId) start.expectedReplies
      first) :
    Agree
        (ngxHttpCpReplyReceiver handlers curSessionId
          { start with queue := first })
        (ngxHttpCpReplyReceiver handlers curSessionId
          { start with queue := second }) ↔
      (start.inspectAllResponseHeaders = 0 ∨
        (Limits first ↔ Limits second)) ∧
      (LeavesLimit curSessionId start.verdict first ↔
        LeavesLimit curSessionId start.verdict second) := by
  have readingSecond : StillReading (replyKind curSessionId)
      start.expectedReplies second := by
    rw [← stillReading_filter_iff _
      (fun delivery _ => replyKind_of_not_relevant delivery)] at reading ⊢
    unfold relevant at same
    rwa [← same]
  let one : ReceiverState ω := { start with queue := first }
  let two : ReceiverState ω := { start with queue := second }
  have examines : one.Examines curSessionId one.queue := reading
  have examinesSecond : two.Examines curSessionId two.queue := readingSecond
  obtain ⟨state, returned, reached, -⟩ := receiver_dry handlers examines
  obtain ⟨other, returnedOther, reachedOther, -⟩ :=
    receiver_dry handlers examinesSecond
  rw [returned, returnedOther, ← flagAfter_eq_iff,
    ← verdictAfter_eq_iff start.verdict same]
  constructor
  · rintro ⟨result, _, _, one, two, verdicts, flags, -⟩
    cases one
    cases two
    rw [reached.flag, reachedOther.flag] at flags
    rw [reached.verdict, reachedOther.verdict] at verdicts
    exact ⟨flags, verdicts⟩
  · rintro ⟨flags, verdicts⟩
    refine ⟨.error, state, other, rfl, rfl, ?_, ?_, ?_⟩
    · rw [reached.verdict, reachedOther.verdict]
      exact verdicts
    · rw [reached.flag, reachedOther.flag]
      exact flags
    · rw [reached.modifications, reachedOther.modifications]
      exact congrArg _ (injectedNodes_congr same)

theorem agree_of_ends_iff {before' rest' : List Delivery}
    (split : first = before ++ delivery :: rest)
    (split' : second = before' ++ delivery :: rest')
    (sameBefore : relevant curSessionId before =
      relevant curSessionId before')
    (reading : StillReading (replyKind curSessionId) start.expectedReplies
      before)
    (reading' : StillReading (replyKind curSessionId) start.expectedReplies
      before')
    (ends : EndsAt (replyKind curSessionId) start.expectedReplies before
      delivery)
    (ends' : EndsAt (replyKind curSessionId) start.expectedReplies before'
      delivery) :
    Agree
        (ngxHttpCpReplyReceiver handlers curSessionId
          { start with queue := first })
        (ngxHttpCpReplyReceiver handlers curSessionId
          { start with queue := second }) ↔
      (start.inspectAllResponseHeaders = 0 ∨
        (Limits before ↔ Limits before')) := by
  let one : ReceiverState ω := { start with queue := first }
  let two : ReceiverState ω := { start with queue := second }
  have parts : one.queue = before ++ delivery :: rest := split
  have parts' : two.queue = before' ++ delivery :: rest' := split'
  obtain ⟨result, state, returned, outcome, flag, -⟩ :=
    receiver_ends handlers parts reading ends
  obtain ⟨result', other, returned', outcome', flag', -⟩ :=
    receiver_ends handlers parts' reading' ends'
  dsimp only [one, two] at outcome outcome' flag flag'
  rw [injectedNodes_congr sameBefore] at outcome
  have equal := outcome.trans outcome'.symm
  rw [Prod.mk.injEq, Prod.mk.injEq] at equal
  obtain ⟨results, verdicts, lists⟩ := equal
  rw [returned, returned', ← flagAfter_eq_iff]
  constructor
  · rintro ⟨_, _, _, one, two, -, flags, -⟩
    cases one
    cases two
    rwa [flag, flag'] at flags
  · intro flags
    refine ⟨result, state, other, rfl, ?_, verdicts, ?_, lists⟩
    · rw [results]
    · rw [flag, flag', flags]

include same in
/-- Two queues with the same replies of the session and the same
reconfigurations give the same outcome precisely when they agree on whether a
limit on the response headers is read, unless the headers are limited already,
and, if the queue runs dry, on whether it comes last. -/
theorem ngx_http_cp_reply_receiver_noninterference_iff :
    Agree
        (ngxHttpCpReplyReceiver handlers curSessionId
          { start with queue := first })
        (ngxHttpCpReplyReceiver handlers curSessionId
          { start with queue := second }) ↔
      (start.inspectAllResponseHeaders = 0 ∨
        (ReadsLimit curSessionId start.expectedReplies first ↔
          ReadsLimit curSessionId start.expectedReplies second)) ∧
      (StillReading (replyKind curSessionId) start.expectedReplies first →
        (LeavesLimit curSessionId start.verdict first ↔
          LeavesLimit curSessionId start.verdict second)) := by
  by_cases expected : start.expectedReplies = 0
  · constructor
    · intro _
      rw [expected]
      constructor
      · right
        exact iff_of_false (not_readsLimit_zero first)
          (not_readsLimit_zero second)
      · intro reading
        exact absurd reading.waiting (Nat.not_lt_zero _)
    · intro _
      unfold ngxHttpCpReplyReceiver
      rw [if_pos expected, if_pos expected]
      exact ⟨.ok, _, _, rfl, rfl, rfl, rfl, rfl⟩
  rcases stillReading_or_endsAt (replyKind curSessionId)
    (Nat.pos_of_ne_zero expected) first with
    reading | ⟨before, delivery, rest, split, reading, ends⟩
  · have readingSecond : StillReading (replyKind curSessionId)
        start.expectedReplies second := by
      rw [← stillReading_filter_iff _
        (fun delivery _ => replyKind_of_not_relevant delivery)]
      unfold relevant at same
      rw [← same, stillReading_filter_iff _
        (fun delivery _ => replyKind_of_not_relevant delivery)]
      exact reading
    rw [agree_of_dry_iff handlers start same reading,
      readsLimit_of_stillReading reading,
      readsLimit_of_stillReading readingSecond]
    constructor
    · rintro ⟨flags, verdicts⟩
      exact ⟨flags, fun _ => verdicts⟩
    · rintro ⟨flags, verdicts⟩
      exact ⟨flags, verdicts reading⟩
  · have sameSplit := same
    rw [split] at sameSplit
    obtain ⟨before', rest', split', filtered, reading', ends'⟩ :=
      ends.of_filter reading replyKind_of_not_relevant
        (by simpa using relevant_of_ends ends) sameSplit
    rw [agree_of_ends_iff handlers start split split' filtered.symm
      reading reading' ends ends', split, split',
      readsLimit_of_endsAt reading ends, readsLimit_of_endsAt reading' ends']
    constructor
    · intro flags
      exact ⟨flags, fun all => absurd all ends.not_stillReading⟩
    · exact And.left

end Agree

/-- A queue with a limit for another session, and the same queue without it.
The calls disagree exactly because only one of them reads the limit. -/
theorem ngx_http_cp_reply_receiver_noninterference_iff_foreign_limit :
    let reply (verdict : ServiceVerdict) (session : BitVec 32) : Delivery :=
      { reply :=
          { verdict
            sessionId := session
            injectData := []
            responseData := [] }
        malloc := fun _ => true
        ngxPcalloc := fun _ => true
        loadedAsyncMode := none }
    let start : ReceiverState Unit :=
      { queue := []
        expectedReplies := 1
        verdict := .inspect
        inspectAllResponseHeaders := 1
        modificationList := []
        webResponse := ()
        currentConfigVersion := 0 }
    let handlers : ResponseHandlers Unit := ⟨fun _ _ => (), fun _ _ => ()⟩
    let first := [reply .limitResponseHeaders 8, reply .inspect 7]
    let second := [reply .inspect 7]
    relevant 7 first = relevant 7 second ∧
      (Agree
          (ngxHttpCpReplyReceiver handlers 7 { start with queue := first })
          (ngxHttpCpReplyReceiver handlers 7 { start with queue := second }) ↔
        (start.inspectAllResponseHeaders = 0 ∨
          (ReadsLimit 7 start.expectedReplies first ↔
            ReadsLimit 7 start.expectedReplies second)) ∧
        (StillReading (replyKind 7) start.expectedReplies first →
          (LeavesLimit 7 start.verdict first ↔
            LeavesLimit 7 start.verdict second))) := by
  intro reply start handlers first second
  have same : relevant 7 first = relevant 7 second := rfl
  exact ⟨same,
    ngx_http_cp_reply_receiver_noninterference_iff handlers start same⟩

/-- The limit of another session switches the flag off. -/
theorem ngx_http_cp_reply_receiver_interferes :
    let reply (verdict : ServiceVerdict) (session : BitVec 32) : Delivery :=
      { reply :=
          { verdict
            sessionId := session
            injectData := []
            responseData := [] }
        malloc := fun _ => true
        ngxPcalloc := fun _ => true
        loadedAsyncMode := none }
    let start (queue : List Delivery) : ReceiverState Unit :=
      { queue
        expectedReplies := 1
        verdict := .inspect
        inspectAllResponseHeaders := 1
        modificationList := []
        webResponse := ()
        currentConfigVersion := 0 }
    let handlers : ResponseHandlers Unit := ⟨fun _ _ => (), fun _ _ => ()⟩
    let first := [reply .limitResponseHeaders 8, reply .inspect 7]
    let second := [reply .inspect 7]
    relevant 7 first = relevant 7 second ∧
      ¬Agree (ngxHttpCpReplyReceiver handlers 7 (start first))
        (ngxHttpCpReplyReceiver handlers 7 (start second)) := by
  intro reply start handlers first second
  refine ⟨rfl, ?_⟩
  rintro ⟨result, state, other, one, two, -, flags, -⟩
  cases one
  cases two
  exact absurd flags (by decide)

end OpenAppsec.Nginx
