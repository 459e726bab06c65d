import OpenAppsec.Attachment.NginxReceiver

/-!
# How the nginx receiver reads a queue

The kinds of replies for `ngx_http_cp_reply_receiver`, the state after a list
of replies, and how a call ends.
-/

namespace OpenAppsec.Nginx

open CountedReader FueledLoop

/-- Every node of the modifications can be created. -/
def AllocatesNodes (delivery : Delivery) : Prop :=
  ∀ index, index < delivery.reply.injectData.length →
    delivery.ngxPcalloc index = true

instance (delivery : Delivery) : Decidable (AllocatesNodes delivery) :=
  inferInstanceAs (Decidable (∀ index, index < _ → _))

/-- A limit on the response headers is taken from any session, and it is not
counted. -/
def replyKind (curSessionId : BitVec 32) (delivery : Delivery) : Kind :=
  if ¬delivery.IsCurrent curSessionId ∨
      delivery.reply.verdict = .limitResponseHeaders then
    .pass
  else if delivery.reply.verdict.IsFinal then .stop
  else if delivery.reply.verdict = .inject ∧ ¬AllocatesNodes delivery then
    .abort
  else .count

/-- A reply whose verdict the receiver reads. -/
def Heard (curSessionId : BitVec 32) (delivery : Delivery) : Prop :=
  delivery.reply.verdict = .reconf ∨
    delivery.reply.verdict = .limitResponseHeaders ∨
    delivery.reply.sessionId = curSessionId

instance (curSessionId : BitVec 32) (delivery : Delivery) :
    Decidable (Heard curSessionId delivery) :=
  inferInstanceAs (Decidable (_ ∨ _))

def lastHeard (curSessionId : BitVec 32) (deliveries : List Delivery) :
    Option Delivery :=
  (deliveries.filter fun delivery => Heard curSessionId delivery).getLast?

/-- An injection lets the session go on. -/
def verdictOf (delivery : Delivery) : ServiceVerdict :=
  if delivery.reply.verdict = .inject then .inspect
  else delivery.reply.verdict

def verdictAfter (curSessionId : BitVec 32) (verdict : ServiceVerdict)
    (deliveries : List Delivery) : ServiceVerdict :=
  match lastHeard curSessionId deliveries with
  | none => verdict
  | some delivery => verdictOf delivery

/-- Some reply limits the response headers. -/
def Limits (deliveries : List Delivery) : Prop :=
  ∃ delivery ∈ deliveries,
    delivery.reply.verdict = .limitResponseHeaders

instance (deliveries : List Delivery) : Decidable (Limits deliveries) :=
  inferInstanceAs (Decidable (∃ delivery ∈ deliveries, _))

def flagAfter (flag : Int) (deliveries : List Delivery) : Int :=
  if Limits deliveries then 0 else flag

/-- The nodes that the replies of the session inject. -/
def injectedNodes (curSessionId : BitVec 32) (deliveries : List Delivery) :
    List ModificationNode :=
  (deliveries.filter fun delivery =>
      delivery.reply.verdict = .inject ∧
        delivery.reply.sessionId = curSessionId).flatMap
    fun delivery =>
      delivery.reply.injectData.map HttpInjectData.modificationNode

/-- The result, the verdict and the modification list of a call that ends at
this reply. -/
def endsWith (modificationList : List ModificationNode)
    (delivery : Delivery) :
    NgxResult × ServiceVerdict × List ModificationNode :=
  match delivery.reply.verdict with
  | .accept => (.ok, .accept, modificationList)
  | .drop => (.httpForbidden, .drop, [])
  | .customResponse => (.ok, .customResponse, [])
  | .inject =>
      if AllocatesNodes delivery then
        (.ok, .inspect, modificationList ++
          delivery.reply.injectData.map HttpInjectData.modificationNode)
      else
        (.error, .inject, [])
  | verdict => (.ok, verdict, modificationList)

section Kinds

variable {curSessionId : BitVec 32} {delivery : Delivery}

theorem replyKind_eq_stop_iff :
    replyKind curSessionId delivery = .stop ↔
      delivery.IsCurrent curSessionId ∧ delivery.reply.verdict.IsFinal := by
  unfold replyKind
  constructor
  · intro stops
    split at stops
    · cases stops
    · rename_i current
      rw [not_or, not_not] at current
      split at stops
      · rename_i final
        exact ⟨current.1, final⟩
      · split at stops
        · cases stops
        · cases stops
  · rintro ⟨current, final⟩
    rw [if_neg, if_pos final]
    rintro (foreign | limit)
    · exact foreign current
    · rw [limit] at final
      exact absurd final (by decide)

theorem replyKind_eq_abort_iff :
    replyKind curSessionId delivery = .abort ↔
      delivery.IsCurrent curSessionId ∧ delivery.reply.verdict = .inject ∧
        ¬AllocatesNodes delivery := by
  unfold replyKind
  constructor
  · intro aborts
    split at aborts
    · cases aborts
    · rename_i current
      rw [not_or, not_not] at current
      split at aborts
      · cases aborts
      · split at aborts
        · rename_i fails
          exact ⟨current.1, fails⟩
        · cases aborts
  · rintro ⟨current, inject, fails⟩
    rw [if_neg, if_neg, if_pos ⟨inject, fails⟩]
    · rw [inject]
      decide
    · rintro (foreign | limit)
      · exact foreign current
      · rw [limit] at inject
        cases inject

theorem replyKind_eq_pass_iff :
    replyKind curSessionId delivery = .pass ↔
      ¬delivery.IsCurrent curSessionId ∨
        delivery.reply.verdict = .limitResponseHeaders := by
  unfold replyKind
  constructor
  · intro passes
    split at passes
    · assumption
    · split at passes
      · cases passes
      · split at passes
        · cases passes
        · cases passes
  · intro passes
    rw [if_pos passes]

theorem replyKind_eq_count_iff :
    replyKind curSessionId delivery = .count ↔
      delivery.IsCurrent curSessionId ∧
        delivery.reply.verdict ≠ .limitResponseHeaders ∧
        ¬delivery.reply.verdict.IsFinal ∧
        (delivery.reply.verdict = .inject → AllocatesNodes delivery) := by
  unfold replyKind
  constructor
  · intro counts
    split at counts
    · cases counts
    · rename_i current
      rw [not_or, not_not] at current
      split at counts
      · cases counts
      · rename_i unfinished
        split at counts
        · cases counts
        · rename_i allocates
          rw [not_and, not_not] at allocates
          exact ⟨current.1, current.2, unfinished, allocates⟩
  · rintro ⟨current, unlimited, unfinished, allocates⟩
    rw [if_neg, if_neg unfinished, if_neg]
    · rintro ⟨inject, fails⟩
      exact fails (allocates inject)
    · rintro (foreign | limit)
      · exact foreign current
      · exact unlimited limit

end Kinds

theorem appendModifications_of_allocates {ngxPcalloc : Nat → Bool}
    {modifications : List HttpInjectData} {index : Nat}
    (allocates : ∀ offset, offset < modifications.length →
      ngxPcalloc (index + offset) = true)
    (modificationList : List ModificationNode) :
    appendModifications ngxPcalloc index modificationList modifications =
      some (modificationList ++
        modifications.map HttpInjectData.modificationNode) := by
  induction modifications generalizing index modificationList with
  | nil => rw [List.map_nil, List.append_nil]; rfl
  | cons modification modifications induction =>
      have first : ngxPcalloc index = true :=
        allocates 0 (Nat.succ_pos _)
      have later : ∀ offset, offset < modifications.length →
          ngxPcalloc (index + 1 + offset) = true := by
        intro offset short
        rw [Nat.add_assoc, Nat.add_comm 1]
        exact allocates (offset + 1) (Nat.succ_lt_succ short)
      simp only [appendModifications, createModificationNode, first, if_true]
      rw [induction later, List.append_assoc]
      rfl

theorem appendModifications_of_fails {ngxPcalloc : Nat → Bool}
    {modifications : List HttpInjectData} {index : Nat}
    (fails : ¬∀ offset, offset < modifications.length →
      ngxPcalloc (index + offset) = true)
    (modificationList : List ModificationNode) :
    appendModifications ngxPcalloc index modificationList modifications =
      none := by
  induction modifications generalizing index modificationList with
  | nil => exact absurd (fun _ short => absurd short (Nat.not_lt_zero _)) fails
  | cons modification modifications induction =>
      cases first : ngxPcalloc index with
      | false =>
          simp only [appendModifications, createModificationNode, first,
            Bool.false_eq_true, if_false]
      | true =>
          simp only [appendModifications, createModificationNode, first,
            if_true]
          apply induction
          intro later
          apply fails
          intro offset short
          cases offset with
          | zero => exact first
          | succ offset =>
              have next := later offset (Nat.lt_of_succ_lt_succ short)
              rwa [Nat.add_assoc, Nat.add_comm 1] at next

theorem appendModifications_eq (delivery : Delivery)
    (modificationList : List ModificationNode) :
    appendModifications delivery.ngxPcalloc 0 modificationList
        delivery.reply.injectData =
      if AllocatesNodes delivery then
        some (modificationList ++
          delivery.reply.injectData.map HttpInjectData.modificationNode)
      else
        none := by
  split
  · rename_i allocates
    apply appendModifications_of_allocates
    intro offset short
    rw [Nat.zero_add]
    exact allocates offset short
  · rename_i fails
    apply appendModifications_of_fails
    intro allocates
    apply fails
    intro index short
    rw [← Nat.zero_add index]
    exact allocates index short

section Concat

variable {curSessionId : BitVec 32} {before : List Delivery}
  {delivery : Delivery}

theorem lastHeard_concat_of_heard
    (heard : Heard curSessionId delivery) :
    lastHeard curSessionId (before ++ [delivery]) = some delivery := by
  unfold lastHeard
  rw [List.filter_append, List.filter_cons_of_pos (by simpa using heard),
    List.filter_nil, List.getLast?_concat]

theorem lastHeard_concat_of_not_heard
    (unheard : ¬Heard curSessionId delivery) :
    lastHeard curSessionId (before ++ [delivery]) =
      lastHeard curSessionId before := by
  unfold lastHeard
  rw [List.filter_append, List.filter_cons_of_neg (by simpa using unheard),
    List.filter_nil, List.append_nil]

theorem verdictAfter_concat_of_heard (verdict : ServiceVerdict)
    (heard : Heard curSessionId delivery) :
    verdictAfter curSessionId verdict (before ++ [delivery]) =
      verdictOf delivery := by
  unfold verdictAfter
  rw [lastHeard_concat_of_heard heard]

theorem verdictAfter_concat_of_not_heard (verdict : ServiceVerdict)
    (unheard : ¬Heard curSessionId delivery) :
    verdictAfter curSessionId verdict (before ++ [delivery]) =
      verdictAfter curSessionId verdict before := by
  unfold verdictAfter
  rw [lastHeard_concat_of_not_heard unheard]

theorem limits_concat :
    Limits (before ++ [delivery]) ↔
      Limits before ∨ delivery.reply.verdict = .limitResponseHeaders := by
  unfold Limits
  simp only [List.mem_append, List.mem_singleton]
  constructor
  · rintro ⟨limiting, early | rfl, limit⟩
    · exact Or.inl ⟨limiting, early, limit⟩
    · exact Or.inr limit
  · rintro (⟨limiting, early, limit⟩ | limit)
    · exact ⟨limiting, Or.inl early, limit⟩
    · exact ⟨delivery, Or.inr rfl, limit⟩

theorem flagAfter_concat_of_ne (flag : Int)
    (unlimited : delivery.reply.verdict ≠ .limitResponseHeaders) :
    flagAfter flag (before ++ [delivery]) = flagAfter flag before := by
  unfold flagAfter
  simp only [limits_concat, unlimited, or_false]

theorem flagAfter_concat_of_limit (flag : Int)
    (limit : delivery.reply.verdict = .limitResponseHeaders) :
    flagAfter flag (before ++ [delivery]) = 0 := by
  unfold flagAfter
  rw [if_pos (limits_concat.mpr (Or.inr limit))]

theorem injectedNodes_concat_of_not
    (keeps : ¬(delivery.reply.verdict = .inject ∧
      delivery.reply.sessionId = curSessionId)) :
    injectedNodes curSessionId (before ++ [delivery]) =
      injectedNodes curSessionId before := by
  unfold injectedNodes
  rw [List.filter_append, List.filter_cons_of_neg (by simpa using keeps),
    List.filter_nil, List.append_nil]

theorem injectedNodes_concat_of_inject
    (inject : delivery.reply.verdict = .inject)
    (own : delivery.reply.sessionId = curSessionId) :
    injectedNodes curSessionId (before ++ [delivery]) =
      injectedNodes curSessionId before ++
        delivery.reply.injectData.map HttpInjectData.modificationNode := by
  unfold injectedNodes
  rw [List.filter_append,
    List.filter_cons_of_pos (by simpa using ⟨inject, own⟩),
    List.filter_nil, List.flatMap_append, List.flatMap_singleton]

end Concat

section Passes

variable {ω : Type*} {handlers : ResponseHandlers ω}
  {curSessionId : BitVec 32}

/-- The state after these replies. -/
structure Reached (curSessionId : BitVec 32) (start : ReceiverState ω)
    (before : List Delivery) (state : ReceiverState ω) : Prop where
  split : start.queue = before ++ state.queue
  outstanding : state.expectedReplies +
    counted (replyKind curSessionId) before = start.expectedReplies
  verdict : state.verdict = verdictAfter curSessionId start.verdict before
  flag : state.inspectAllResponseHeaders =
    flagAfter start.inspectAllResponseHeaders before
  modifications : state.modificationList =
    start.modificationList ++ injectedNodes curSessionId before

theorem Reached.start (start : ReceiverState ω) :
    Reached curSessionId start [] start where
  split := rfl
  outstanding := rfl
  verdict := rfl
  flag := rfl
  modifications := (List.append_nil _).symm

/-- The replies that a call goes on after. -/
def ReceiverState.Examines (curSessionId : BitVec 32)
    (start : ReceiverState ω) (examined : List Delivery) : Prop :=
  StillReading (replyKind curSessionId) start.expectedReplies examined

theorem handleVerdict_counts {delivery : Delivery}
    (counts : replyKind curSessionId delivery = .count)
    (state : ReceiverState ω) :
    handleVerdict handlers delivery
        { state with verdict := delivery.reply.verdict } =
      .inl (freeDataFromService
        { state with
          verdict := verdictOf delivery
          modificationList :=
            if delivery.reply.verdict = ServiceVerdict.inject then
              state.modificationList ++
                delivery.reply.injectData.map HttpInjectData.modificationNode
            else
              state.modificationList }) := by
  obtain ⟨current, unlimited, unfinished, allocates⟩ :=
    replyKind_eq_count_iff.mp counts
  unfold handleVerdict verdictOf
  cases verdict : delivery.reply.verdict with
  | accept => exact absurd (Or.inl verdict) unfinished
  | drop => exact absurd (Or.inr (Or.inl verdict)) unfinished
  | customResponse => exact absurd (Or.inr (Or.inr verdict)) unfinished
  | reconf => exact absurd verdict current.1
  | limitResponseHeaders => exact absurd verdict unlimited
  | inject =>
      simp only [appendModifications_eq, if_pos (allocates verdict)]
      rfl
  | inspect => rfl
  | irrelevant => rfl
  | delayed => rfl
  | other code => rfl

section Pass

variable {start state : ReceiverState ω} {before : List Delivery}
  (reached : Reached curSessionId start before state)
  (examines : start.Examines curSessionId before)
  {delivery : Delivery} {rest : List Delivery}
  (next : state.queue = delivery :: rest)

include reached examines in
theorem Reached.waiting : state.expectedReplies ≠ 0 := by
  have outstanding := reached.outstanding
  have waiting := examines.waiting
  omega

include reached next in
/-- A pass that frees the reply. -/
theorem Reached.free (changed : ReceiverState ω)
    (queue : changed.queue = state.queue)
    (outstanding : changed.expectedReplies +
      counted (replyKind curSessionId) [delivery] = state.expectedReplies)
    (verdict : changed.verdict =
      verdictAfter curSessionId start.verdict (before ++ [delivery]))
    (flag : changed.inspectAllResponseHeaders =
      flagAfter start.inspectAllResponseHeaders (before ++ [delivery]))
    (modifications : changed.modificationList =
      start.modificationList ++
        injectedNodes curSessionId (before ++ [delivery])) :
    Reached curSessionId start (before ++ [delivery])
      (freeDataFromService changed) := by
  constructor
  · rw [reached.split, next, List.append_assoc]
    simp only [freeDataFromService, queue, next, List.tail_cons,
      List.singleton_append]
  · rw [counted_append, ← reached.outstanding, ← outstanding, Nat.add_assoc,
      Nat.add_comm (counted _ [delivery])]
    rfl
  · exact verdict
  · exact flag
  · exact modifications

variable (handlers) in
include reached examines next in
/-- A reply that does not end the call takes the loop one pass further. -/
theorem Reached.advance
    (goesOn : replyKind curSessionId delivery = .pass ∨
      replyKind curSessionId delivery = .count) :
    ∃ after, receiveReply handlers curSessionId state = .inl after ∧
      Reached curSessionId start (before ++ [delivery]) after := by
  have waiting := reached.waiting examines
  have received : state.queue.head? = some delivery := by rw [next]; rfl
  simp only [receiveReply, if_neg waiting, received]
  rcases goesOn with passes | counts
  · have adds : counted (replyKind curSessionId) [delivery] = 0 :=
      counted_singleton_of_ne (by simp [passes])
    by_cases reconf : delivery.reply.verdict = .reconf
    · have heard : Heard curSessionId delivery := Or.inl reconf
      simp only [reconf, ne_eq, not_true_eq_false, false_and, if_false,
        handleVerdict]
      refine ⟨_, rfl, reached.free next _ rfl ?_ ?_ ?_ ?_⟩
      · rw [adds]; rfl
      · rw [verdictAfter_concat_of_heard _ heard]
        unfold verdictOf
        rw [reconf]
        rfl
      · rw [flagAfter_concat_of_ne _ (by simp [reconf])]
        exact reached.flag
      · rw [injectedNodes_concat_of_not (by simp [reconf])]
        exact reached.modifications
    by_cases limit : delivery.reply.verdict = .limitResponseHeaders
    · have heard : Heard curSessionId delivery := Or.inr (Or.inl limit)
      simp only [limit, ne_eq, not_true_eq_false, and_false, if_false,
        handleVerdict]
      refine ⟨_, rfl, reached.free next _ rfl ?_ ?_ ?_ ?_⟩
      · rw [adds]; rfl
      · rw [verdictAfter_concat_of_heard _ heard]
        unfold verdictOf
        rw [limit]
        rfl
      · rw [flagAfter_concat_of_limit _ limit]
      · rw [injectedNodes_concat_of_not (by simp [limit])]
        exact reached.modifications
    · have foreign : delivery.reply.sessionId ≠ curSessionId := by
        intro own
        rcases replyKind_eq_pass_iff.mp passes with other | same
        · exact other ⟨reconf, own⟩
        · exact limit same
      have unheard : ¬Heard curSessionId delivery := by
        rintro (same | same | own)
        · exact reconf same
        · exact limit same
        · exact foreign own
      rw [if_pos ⟨reconf, limit⟩, if_pos foreign]
      refine ⟨_, rfl, reached.free next _ rfl ?_ ?_ ?_ ?_⟩
      · rw [adds]; rfl
      · rw [verdictAfter_concat_of_not_heard _ unheard]
        exact reached.verdict
      · rw [flagAfter_concat_of_ne _ limit]
        exact reached.flag
      · rw [injectedNodes_concat_of_not fun inject => foreign inject.2]
        exact reached.modifications
  · obtain ⟨current, unlimited, -, -⟩ := replyKind_eq_count_iff.mp counts
    have adds : counted (replyKind curSessionId) [delivery] = 1 :=
      counted_singleton_of_count counts
    have heard : Heard curSessionId delivery := Or.inr (Or.inr current.2)
    rw [if_pos ⟨current.1, unlimited⟩, if_neg (not_not_intro current.2),
      handleVerdict_counts counts
        { state with expectedReplies := state.expectedReplies - 1 }]
    refine ⟨_, rfl, reached.free next _ rfl ?_ ?_ ?_ ?_⟩
    · rw [adds]
      exact Nat.succ_pred waiting
    · rw [verdictAfter_concat_of_heard _ heard]
    · rw [flagAfter_concat_of_ne _ unlimited]
      exact reached.flag
    · by_cases inject : delivery.reply.verdict = .inject
      · rw [injectedNodes_concat_of_inject inject
          current.2, ← List.append_assoc, ← reached.modifications]
        exact if_pos inject
      · rw [injectedNodes_concat_of_not
          fun both => inject both.1, ← reached.modifications]
        exact if_neg inject

variable (handlers) in
include reached examines next in
/-- A reply that blocks or accepts, or whose nodes cannot be created. -/
theorem Reached.conclude
    (ends : replyKind curSessionId delivery = .stop ∨
      replyKind curSessionId delivery = .abort) :
    ∃ result final,
      receiveReply handlers curSessionId state = .inr (result, final) ∧
        (result, final.verdict, final.modificationList) =
          endsWith state.modificationList delivery ∧
        final.inspectAllResponseHeaders = state.inspectAllResponseHeaders ∧
        (replyKind curSessionId delivery = .stop →
          final.queue = rest ∧ final.expectedReplies = 0) ∧
        (replyKind curSessionId delivery = .abort →
          final.queue = delivery :: rest) := by
  have waiting := reached.waiting examines
  have received : state.queue.head? = some delivery := by rw [next]; rfl
  simp only [receiveReply, if_neg waiting, received]
  rcases ends with stops | aborts
  · obtain ⟨current, final⟩ := replyKind_eq_stop_iff.mp stops
    have unlimited : delivery.reply.verdict ≠ .limitResponseHeaders := by
      intro limit
      rw [limit] at final
      exact absurd final (by decide)
    rw [if_pos ⟨current.1, unlimited⟩, if_neg (not_not_intro current.2)]
    unfold handleVerdict endsWith
    rcases final with accept | drop | custom
    · simp only [accept]
      refine ⟨_, _, rfl, rfl, rfl, fun _ => ⟨?_, rfl⟩, ?_⟩
      · simp only [freeDataFromService, next, List.tail_cons]
      · intro aborts
        rw [stops] at aborts
        cases aborts
    · simp only [drop]
      refine ⟨_, _, rfl, rfl, rfl, fun _ => ⟨?_, rfl⟩, ?_⟩
      · simp only [freeDataFromService, next, List.tail_cons]
      · intro aborts
        rw [stops] at aborts
        cases aborts
    · simp only [custom]
      refine ⟨_, _, rfl, rfl, rfl, fun _ => ⟨?_, rfl⟩, ?_⟩
      · simp only [freeDataFromService, next, List.tail_cons]
      · intro aborts
        rw [stops] at aborts
        cases aborts
  · obtain ⟨current, inject, fails⟩ := replyKind_eq_abort_iff.mp aborts
    have unlimited : delivery.reply.verdict ≠ .limitResponseHeaders := by
      simp [inject]
    rw [if_pos ⟨current.1, unlimited⟩, if_neg (not_not_intro current.2)]
    unfold handleVerdict endsWith
    simp only [inject, appendModifications_eq, if_neg fails]
    refine ⟨_, _, rfl, rfl, rfl, ?_, fun _ => next⟩
    intro stops
    rw [aborts] at stops
    cases stops

include reached examines in
theorem Reached.dry (empty : state.queue = []) :
    receiveReply handlers curSessionId state = .inr (.error, state) := by
  simp only [receiveReply, if_neg (reached.waiting examines), empty,
    List.head?_nil]

end Pass

theorem receiveReply_done {state : ReceiverState ω}
    (done : state.expectedReplies = 0) :
    receiveReply handlers curSessionId state = .inr (.ok, state) := by
  simp only [receiveReply, if_pos done]

end Passes

section Ends

variable {ω : Type*} (handlers : ResponseHandlers ω)
  {curSessionId : BitVec 32}

/-- The loop gets through replies that end nothing. -/
theorem reach {start : ReceiverState ω} {before rest : List Delivery}
    (split : start.queue = before ++ rest)
    (examines : start.Examines curSessionId before) :
    ∃ state more, Reached curSessionId start before state ∧
      state.queue = rest ∧
      ngxHttpCpReplyReceiver handlers curSessionId start =
        runLoop (receiveReply handlers curSessionId) (more + 2) state := by
  have advances : ∀ early delivery late state,
      before = early ++ delivery :: late →
        Reached curSessionId start early state →
          ∃ after, receiveReply handlers curSessionId state = .inl after ∧
            Reached curSessionId start (early ++ [delivery]) after := by
    intro early delivery late state parts reached
    have next : state.queue = delivery :: (late ++ rest) := by
      have whole := reached.split
      rw [split, parts, List.append_assoc] at whole
      exact (List.append_cancel_left whole).symm
    rw [parts] at examines
    obtain ⟨continues, unaborted⟩ := examines.goesOn delivery (by simp)
    apply reached.advance handlers examines.left next
    cases kind : replyKind curSessionId delivery with
    | pass => exact Or.inl rfl
    | count => exact Or.inr rfl
    | stop => exact absurd kind continues
    | abort => exact absurd kind unaborted
  obtain ⟨state, reached, same⟩ := runLoop_along advances (.start start)
  have expected : start.expectedReplies ≠ 0 :=
    Nat.ne_of_gt (Nat.lt_of_le_of_lt (Nat.zero_le _) examines.waiting)
  refine ⟨state, rest.length, reached,
    List.append_cancel_left (reached.split.symm.trans split), ?_⟩
  unfold ngxHttpCpReplyReceiver
  rw [if_neg expected, split, List.length_append, Nat.add_assoc]
  exact same (rest.length + 2)

theorem receiver_dry {start : ReceiverState ω}
    (examines : start.Examines curSessionId start.queue) :
    ∃ final, ngxHttpCpReplyReceiver handlers curSessionId start =
        some (.error, final) ∧
      Reached curSessionId start start.queue final ∧ final.queue = [] := by
  obtain ⟨state, more, reached, empty, run⟩ :=
    reach handlers (List.append_nil start.queue).symm examines
  refine ⟨state, ?_, reached, empty⟩
  rw [run]
  exact runLoop_leaves (more + 1) (reached.dry examines empty)

/-- The reply at which a call ends. -/
theorem receiver_ends {start : ReceiverState ω}
    {before rest : List Delivery} {delivery : Delivery}
    (split : start.queue = before ++ delivery :: rest)
    (examines : start.Examines curSessionId before)
    (ends : EndsAt (replyKind curSessionId) start.expectedReplies before
      delivery) :
    ∃ result final,
      ngxHttpCpReplyReceiver handlers curSessionId start =
          some (result, final) ∧
        (result, final.verdict, final.modificationList) =
          endsWith
            (start.modificationList ++ injectedNodes curSessionId before)
            delivery ∧
        final.inspectAllResponseHeaders =
          flagAfter start.inspectAllResponseHeaders before ∧
        (replyKind curSessionId delivery ≠ .abort →
          final.queue = rest ∧ final.expectedReplies = 0) ∧
        (replyKind curSessionId delivery = .abort →
          final.queue = delivery :: rest) := by
  obtain ⟨state, more, reached, next, run⟩ := reach handlers split examines
  by_cases counts : replyKind curSessionId delivery = .count
  · obtain ⟨current, unlimited, unfinished, allocates⟩ :=
      replyKind_eq_count_iff.mp counts
    have last : counted (replyKind curSessionId) before + 1 =
        start.expectedReplies := by
      rcases ends with stops | aborts | ⟨-, last⟩
      · rw [counts] at stops
        cases stops
      · rw [counts] at aborts
        cases aborts
      · exact last
    obtain ⟨after, pass, reachedAfter⟩ := reached.advance
      handlers examines next (Or.inr counts)
    have done : after.expectedReplies = 0 := by
      have outstanding := reachedAfter.outstanding
      rw [counted_append, counted_singleton_of_count counts] at outstanding
      exact Nat.add_eq_right.mp (outstanding.trans last.symm)
    refine ⟨.ok, after, ?_, ?_, ?_, fun _ => ⟨?_, done⟩, ?_⟩
    · rw [run, runLoop_goesOn (more + 1) pass]
      exact runLoop_leaves more (receiveReply_done done)
    · have heard : Heard curSessionId delivery := Or.inr (Or.inr current.2)
      rw [reachedAfter.verdict, reachedAfter.modifications,
        verdictAfter_concat_of_heard _ heard]
      unfold endsWith verdictOf
      by_cases inject : delivery.reply.verdict = .inject
      · rw [injectedNodes_concat_of_inject inject current.2]
        simp only [inject, if_true, if_pos (allocates inject),
          List.append_assoc]
      · rw [injectedNodes_concat_of_not
          fun both => inject both.1, if_neg inject]
        cases verdict : delivery.reply.verdict with
        | accept => exact absurd (Or.inl verdict) unfinished
        | drop => exact absurd (Or.inr (Or.inl verdict)) unfinished
        | customResponse =>
            exact absurd (Or.inr (Or.inr verdict)) unfinished
        | inject => exact absurd verdict inject
        | inspect => rfl
        | irrelevant => rfl
        | reconf => rfl
        | delayed => rfl
        | limitResponseHeaders => rfl
        | other code => rfl
    · rw [reachedAfter.flag, flagAfter_concat_of_ne _ unlimited]
    · have whole := reachedAfter.split
      rw [split, List.append_assoc, List.singleton_append] at whole
      exact (List.cons.inj (List.append_cancel_left whole)).2.symm
    · intro aborts
      rw [counts] at aborts
      cases aborts
  · have leaves : replyKind curSessionId delivery = .stop ∨
        replyKind curSessionId delivery = .abort := by
      rcases ends with stops | aborts | ⟨same, -⟩
      · exact Or.inl stops
      · exact Or.inr aborts
      · exact absurd same counts
    obtain ⟨result, final, pass, outcome, flag, stops, aborts⟩ :=
      reached.conclude handlers examines next leaves
    refine ⟨result, final, ?_, ?_, ?_, ?_, aborts⟩
    · rw [run]
      exact runLoop_leaves (more + 1) pass
    · rw [outcome, reached.modifications]
    · rw [flag, reached.flag]
    · intro unaborted
      rcases leaves with stop | abort
      · exact stops stop
      · exact absurd abort unaborted

/-- A call takes at least the replies that it goes on after, and one more
unless it fails. -/
theorem receiver_consumes {start : ReceiverState ω}
    {examined rest : List Delivery} (split : start.queue = examined ++ rest)
    (examines : start.Examines curSessionId examined)
    {result : NgxResult} {final : ReceiverState ω}
    (returned : ngxHttpCpReplyReceiver handlers curSessionId start =
      some (result, final)) :
    final.queue.length ≤ rest.length ∧
      (result = .error ∨ final.queue.length < rest.length) := by
  rcases examines.append_or_endsAt rest with
    all | ⟨before, delivery, after, parts, reading, ends⟩
  · rw [← split] at all
    obtain ⟨state, dry, -, empty⟩ := receiver_dry handlers all
    rw [dry] at returned
    cases returned
    rw [empty]
    exact ⟨Nat.zero_le _, Or.inl rfl⟩
  · have whole : start.queue = (examined ++ before) ++ delivery :: after := by
      rw [split, parts, List.append_assoc]
    obtain ⟨result', state, ended, outcome, -, unaborted, aborted⟩ :=
      receiver_ends handlers whole reading ends
    rw [ended] at returned
    cases returned
    rw [parts, List.length_append, List.length_cons]
    by_cases abort : replyKind curSessionId delivery = .abort
    · obtain ⟨-, inject, fails⟩ := replyKind_eq_abort_iff.mp abort
      rw [aborted abort, List.length_cons]
      refine ⟨Nat.le_add_left _ _, Or.inl ?_⟩
      unfold endsWith at outcome
      simp only [inject, if_neg fails, Prod.mk.injEq] at outcome
      exact outcome.1
    · rw [(unaborted abort).1]
      have fewer : after.length < before.length + (after.length + 1) :=
        Nat.lt_of_lt_of_le (Nat.lt_succ_self _) (Nat.le_add_left _ _)
      exact ⟨Nat.le_of_lt fewer, Or.inr fewer⟩

end Ends

end OpenAppsec.Nginx
