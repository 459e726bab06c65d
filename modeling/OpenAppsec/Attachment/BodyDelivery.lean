import Mathlib.Data.List.TakeDrop
import OpenAppsec.Attachment.NginxSenders

/-!
# Body chains in the nginx attachment

The body filters drive the body sender along each chain until nothing is left
to inspect.  A chunk that has been sent after a wait is inspected again, so
each chunk is enqueued once precisely when none of them waits.
-/

namespace OpenAppsec.Nginx

variable {sent : List Sending} {buf : NgxBuf}

/-- What the ring queue holds after a sequence of sendings. -/
def enqueued (sent : List Sending) : List Message :=
  sent.flatMap fun sending =>
    List.replicate (copies sending.outcome.errCodes) sending.message

/-- The payload of a body message, and its flag. -/
def bodyPart (message : Message) : List UInt8 × Bool :=
  (message.fragments[4]?.getD [], message.fragments[2]? = some [1])

/-- The chains are inspected to their ends, and the messages are the chunks of
the buffers, each once and in order; the marked one is that of the last
buffer. -/
structure BodySentOnce (chains : List (List NgxBuf))
    (inspected : Bool × List Sending) : Prop where
  complete : inspected.1 = true
  payloads :
    ((enqueued inspected.2).map (fun message => (bodyPart message).1)).flatten =
      (chains.flatten.map NgxBuf.bytes).flatten
  once :
    (enqueued inspected.2).map bodyPart =
      (chains.flatten.filter NgxBuf.IsSent).map fun buf =>
        (buf.bytes, buf.lastBuf)

/-- The messages for buffers, with payloads of at most sixteen bits. -/
def chunks (bufs : List NgxBuf) : List (List UInt8 × Bool) :=
  (bufs.filter NgxBuf.IsSent).map fun buf =>
    (buf.bytes.fragment, buf.lastBuf)

theorem chunks_cons_of_sent (isSent : buf.IsSent) (bufs : List NgxBuf) :
    chunks (buf :: bufs) = (buf.bytes.fragment, buf.lastBuf) :: chunks bufs := by
  rw [chunks, List.filter_cons_of_pos]
  · rfl
  · rw [decide_eq_true_eq]
    exact isSent

theorem chunks_cons_of_not_sent (unsent : ¬buf.IsSent) (bufs : List NgxBuf) :
    chunks (buf :: bufs) = chunks bufs := by
  rw [chunks, List.filter_cons_of_neg]
  · rfl
  · rw [decide_eq_true_eq]
    exact unsent

theorem chunks_append (first second : List NgxBuf) :
    chunks (first ++ second) = chunks first ++ chunks second := by
  rw [chunks, List.filter_append, List.map_append]
  rfl

theorem bodyPart_bodyChunkMessage (bodyType : AttachmentDataType)
    (body : NanoStr) (isLast : Bool) (bodyIndex : UInt8)
    (sessionId : BitVec 32) :
    bodyPart (bodyChunkMessage bodyType body (if isLast then 1 else 0)
      bodyIndex sessionId) = (body.fragment, isLast) := by
  cases isLast with
  | true => rfl
  | false => rfl

/-- The number of sendings that waited. -/
def waits (sent : List Sending) : Nat :=
  sent.countP fun sending => sending.outcome.wasWaiting

section Runs

variable (transport : Nat → SendOutcome) (bodyType : AttachmentDataType)
  (sessionId : BitVec 32)

variable {input : List NgxBuf}

/-- The sendings have the outcomes of the transport. -/
def Recorded (sent : List Sending) : Prop :=
  ∀ index (inside : index < sent.length),
    sent[index].outcome = transport index

/-- Sendings that succeed and carry the chunks of some buffers; every wait
adds a sending. -/
structure Carried (bufs : List NgxBuf) (before after : List Sending) :
    Prop where
  added : ∃ new, after = before ++ new ∧
    (∀ sending ∈ new, sending.outcome.result = .ok) ∧
    new.length = (chunks bufs).length + waits new ∧
    (waits new = 0 →
      new.map (fun sending => bodyPart sending.message) = chunks bufs)
  recorded : Recorded transport before → Recorded transport after

variable {transport bodyType sessionId}

theorem Recorded.concat (recorded : Recorded transport sent)
    (message : Message) :
    Recorded transport (sent ++ [⟨message, transport sent.length⟩]) := by
  intro index inside
  by_cases before : index < sent.length
  · rw [List.getElem_append_left before]
    exact recorded index before
  · rw [List.length_append, List.length_singleton] at inside
    have last : index = sent.length := by omega
    subst last
    rw [List.getElem_concat_length rfl]

theorem carried_refl (sent : List Sending) : Carried transport [] sent sent :=
  ⟨⟨[], (List.append_nil sent).symm, nofun, rfl, fun _ => rfl⟩, id⟩

theorem Carried.trans {first second : List NgxBuf}
    {start middle final : List Sending}
    (left : Carried transport first start middle)
    (right : Carried transport second middle final) :
    Carried transport (first ++ second) start final := by
  obtain ⟨⟨new, grown, accepted, size, parts⟩, recorded⟩ := left
  obtain ⟨⟨later, grownLater, acceptedLater, sizeLater, partsLater⟩,
    recordedLater⟩ := right
  have total : waits (new ++ later) = waits new + waits later :=
    List.countP_append
  refine ⟨⟨new ++ later, ?_, ?_, ?_, ?_⟩, recordedLater ∘ recorded⟩
  · rw [grownLater, grown, List.append_assoc]
  · exact List.forall_mem_append.mpr ⟨accepted, acceptedLater⟩
  · rw [List.length_append, chunks_append, List.length_append, total, size,
      sizeLater]
    omega
  · intro quiet
    rw [total] at quiet
    rw [List.map_append, chunks_append, parts (by omega),
      partsLater (by omega)]

variable (bodyType sessionId) in
theorem carried_sending (isSent : buf.IsSent) (partCount : UInt8)
    (accepted : (transport sent.length).result = .ok) :
    Carried transport
      (if (transport sent.length).wasWaiting then [] else [buf]) sent
      (sent ++ [⟨bodyChunkMessage bodyType buf.bytes
        (if buf.lastBuf then 1 else 0) partCount sessionId,
        transport sent.length⟩]) := by
  refine ⟨⟨_, rfl, ?_, ?_, ?_⟩, fun recorded => recorded.concat _⟩
  · intro sending member
    rw [List.mem_singleton.mp member]
    exact accepted
  · rw [waits, List.countP_singleton]
    cases (transport sent.length).wasWaiting with
    | true => rfl
    | false =>
        rw [if_neg Bool.false_ne_true, chunks_cons_of_sent isSent]
        rfl
  · rw [waits, List.countP_singleton]
    intro quiet
    cases waiting : (transport sent.length).wasWaiting with
    | true =>
        rw [waiting] at quiet
        cases quiet
    | false =>
        rw [if_neg Bool.false_ne_true, chunks_cons_of_sent isSent,
          List.map_singleton, bodyPart_bodyChunkMessage]
        rfl

/-- A sender that does not fail stops somewhere in its chain. -/
theorem sendChain_carried {rest : List NgxBuf} {state after : BodyLoop}
    (returned : sendChain transport bodyType sessionId input state =
      (some rest, after)) :
    ∃ carried, input = carried ++ rest ∧
      Carried transport carried state.sent after.sent := by
  induction input generalizing state with
  | nil =>
      cases returned
      exact ⟨[], rfl, carried_refl _⟩
  | cons buf chain induction =>
      rw [sendChain] at returned
      by_cases room : state.chunksProcessed < maxChunksToProcess bodyType
      · rw [if_pos room] at returned
        dsimp only at returned
        by_cases isSent : buf.IsSent
        · rw [if_pos isSent] at returned
          split at returned
          · cases returned
          rename_i succeeded
          have sending := carried_sending bodyType sessionId isSent
            state.partCount (not_not.mp succeeded)
          by_cases waiting :
              (transport state.sent.length).wasWaiting = true
          · rw [if_pos waiting] at returned sending
            cases returned
            exact ⟨[], rfl, sending⟩
          · rw [if_neg waiting] at returned sending
            obtain ⟨carried, split, later⟩ := induction returned
            refine ⟨buf :: carried, congrArg (buf :: ·) split, ?_⟩
            exact sending.trans later
        · rw [if_neg isSent] at returned
          obtain ⟨carried, split, later⟩ := induction returned
          refine ⟨buf :: carried, congrArg (buf :: ·) split, ?_⟩
          have nothing : Carried transport [buf] state.sent state.sent := by
            refine ⟨⟨[], (List.append_nil _).symm, nofun, ?_, ?_⟩, id⟩
            · rw [chunks_cons_of_not_sent isSent]
              rfl
            · intro _
              rw [chunks_cons_of_not_sent isSent]
              rfl
          exact nothing.trans later
      · rw [if_neg room] at returned
        cases returned
        exact ⟨[], rfl, carried_refl _⟩

theorem sendChain_numPartsSent {state : BodyLoop}
    (counted : state.isEmptyChain = false → 0 < state.numPartsSent) :
    let after := (sendChain transport bodyType sessionId input state).2
    after.isEmptyChain = false → 0 < after.numPartsSent := by
  induction input generalizing state with
  | nil => exact counted
  | cons buf chain induction =>
      rw [sendChain]
      split
      · dsimp only
        split
        · split
          · exact counted
          · split
            · exact fun _ => Nat.zero_lt_succ _
            · exact induction fun _ => Nat.zero_lt_succ _
        · exact induction counted
      · exact counted

/-- The check at the end of the sender never fails. -/
theorem ngxHttpCpBodySender_eq (input : List NgxBuf) (partNumber : Nat)
    (sent : List Sending) :
    ngxHttpCpBodySender transport bodyType sessionId input partNumber sent =
      sendChain transport bodyType sessionId input
        (.start
          (if bodyType = .responseBody then UInt8.ofNat partNumber else 0)
          sent) := by
  rw [ngxHttpCpBodySender]
  apply if_neg
  rintro ⟨parts, none⟩
  have some := sendChain_numPartsSent (fun started => by cases started) parts
  exact absurd none (Nat.ne_of_gt some)

theorem inspectChain_cons (chainElem buf : NgxBuf)
    (chainElems chain : List NgxBuf) (chainPartNumber : Nat)
    (sent : List Sending) :
    inspectChain transport bodyType sessionId (chainElem :: chainElems)
        (buf :: chain) chainPartNumber sent =
      match ngxHttpCpBodySender transport bodyType sessionId (buf :: chain)
          chainPartNumber sent with
      | (none, state) => (false, state.sent)
      | (some next, state) =>
          inspectChain transport bodyType sessionId chainElems next
            (chainPartNumber + 1) state.sent :=
  rfl

theorem inspectChain_carried {chainElems chain : List NgxBuf}
    {chainPartNumber : Nat} {after : List Sending}
    (returned : inspectChain transport bodyType sessionId chainElems chain
      chainPartNumber sent = (true, after)) :
    Carried transport chain sent after := by
  induction chainElems generalizing chain chainPartNumber sent with
  | nil =>
      cases chain with
      | nil =>
          cases returned
          exact carried_refl _
      | cons buf chain => cases returned
  | cons chainElem chainElems induction =>
      cases chain with
      | nil =>
          cases returned
          exact carried_refl _
      | cons buf chain =>
          rw [inspectChain_cons] at returned
          rcases sender : ngxHttpCpBodySender transport bodyType sessionId
              (buf :: chain) chainPartNumber sent with ⟨_ | next, state⟩
          · rw [sender] at returned
            cases returned
          · rw [sender] at returned
            rw [ngxHttpCpBodySender_eq] at sender
            obtain ⟨carried, split, here⟩ := sendChain_carried sender
            rw [split]
            exact here.trans (induction returned)

theorem inspectChains_carried {chains : List (List NgxBuf)}
    {after : List Sending}
    (returned : inspectChains transport bodyType sessionId chains sent =
      (true, after)) :
    Carried transport chains.flatten sent after := by
  induction chains generalizing sent with
  | nil =>
      cases returned
      exact carried_refl _
  | cons chain chains induction =>
      rw [inspectChains] at returned
      rcases inspected : inspectChain transport bodyType sessionId chain chain
          0 sent with ⟨_ | _, next⟩
      · rw [inspected] at returned
        cases returned
      · rw [inspected] at returned
        exact (inspectChain_carried inspected).trans (induction returned)

/-- A number of sendings from an index on succeed without a wait. -/
def SentAtOnce (transport : Nat → SendOutcome) (index count : Nat) : Prop :=
  ∀ offset, offset < count →
    (transport (index + offset)).result = .ok ∧
      (transport (index + offset)).wasWaiting = false

theorem sentAtOnce_succ {index count : Nat}
    (atOnce : SentAtOnce transport index (count + 1)) :
    (transport index).result = .ok ∧
      (transport index).wasWaiting = false ∧
      SentAtOnce transport (index + 1) count := by
  obtain ⟨accepted, quiet⟩ := atOnce 0 (Nat.zero_lt_succ _)
  refine ⟨accepted, quiet, ?_⟩
  intro offset inside
  rw [Nat.add_assoc, Nat.add_comm 1]
  exact atOnce (offset + 1) (Nat.succ_lt_succ inside)

theorem SentAtOnce.drop {index first second : Nat}
    (atOnce : SentAtOnce transport index (first + second)) :
    SentAtOnce transport (index + first) second := by
  intro offset inside
  rw [Nat.add_assoc]
  exact atOnce (first + offset) (Nat.add_lt_add_left inside first)

variable (bodyType sessionId) in
/-- Such chunks bring the sender forward. -/
theorem sendChain_atOnce (state : BodyLoop)
    (atOnce :
      SentAtOnce transport state.sent.length (chunks input).length) :
    ∃ carried rest after,
      sendChain transport bodyType sessionId input state =
          (some rest, after) ∧
        input = carried ++ rest ∧
        after.sent.length = state.sent.length + (chunks carried).length ∧
        (input ≠ [] → state.chunksProcessed < maxChunksToProcess bodyType →
          carried ≠ []) := by
  induction input generalizing state with
  | nil => exact ⟨[], [], state, rfl, rfl, rfl, fun none => absurd rfl none⟩
  | cons buf chain induction =>
      rw [sendChain]
      by_cases room : state.chunksProcessed < maxChunksToProcess bodyType
      · rw [if_pos room]
        dsimp only
        by_cases isSent : buf.IsSent
        · rw [chunks_cons_of_sent isSent, List.length_cons] at atOnce
          obtain ⟨accepted, quiet, later⟩ := sentAtOnce_succ atOnce
          rw [if_pos isSent, if_neg (not_not.mpr accepted),
            if_neg (by rw [quiet]; exact Bool.false_ne_true)]
          obtain ⟨carried, rest, after, ran, split, length, _⟩ := induction
            { state with
              isLastChunk := buf.lastBuf
              numPartsSent := state.numPartsSent + 1
              isEmptyChain := false
              chunksProcessed := state.chunksProcessed + 1
              partCount := state.partCount + 1
              sent := state.sent ++ [⟨bodyChunkMessage bodyType buf.bytes
                (if buf.lastBuf = true then 1 else 0) state.partCount sessionId,
                transport state.sent.length⟩] }
            (by rwa [List.length_append, List.length_singleton])
          refine ⟨buf :: carried, rest, after, ran,
            congrArg (buf :: ·) split, ?_, fun _ _ => List.cons_ne_nil _ _⟩
          rw [length, List.length_append, List.length_singleton,
            chunks_cons_of_sent isSent, List.length_cons]
          omega
        · rw [chunks_cons_of_not_sent isSent] at atOnce
          rw [if_neg isSent]
          obtain ⟨carried, rest, after, ran, split, length, _⟩ := induction
            { state with
              isLastChunk := buf.lastBuf
              partCount := state.partCount + 1 }
            atOnce
          refine ⟨buf :: carried, rest, after, ran,
            congrArg (buf :: ·) split, ?_, fun _ _ => List.cons_ne_nil _ _⟩
          rw [length, chunks_cons_of_not_sent isSent]
      · rw [if_neg room]
        exact ⟨[], buf :: chain, state, rfl, rfl, rfl,
          fun _ more => absurd more room⟩

theorem maxChunksToProcess_pos (bodyType : AttachmentDataType) :
    0 < maxChunksToProcess bodyType := by
  rw [maxChunksToProcess]
  split
  · decide
  · decide

variable (bodyType sessionId) in
theorem inspectChain_atOnce {chainElems chain : List NgxBuf}
    (enough : chain.length ≤ chainElems.length) (chainPartNumber : Nat)
    (atOnce : SentAtOnce transport sent.length (chunks chain).length) :
    ∃ after,
      inspectChain transport bodyType sessionId chainElems chain
          chainPartNumber sent = (true, after) ∧
        after.length = sent.length + (chunks chain).length := by
  induction chainElems generalizing chain chainPartNumber sent with
  | nil =>
      have empty : chain = [] :=
        List.eq_nil_of_length_eq_zero (Nat.le_zero.mp enough)
      subst empty
      exact ⟨sent, rfl, rfl⟩
  | cons chainElem chainElems induction =>
      cases chain with
      | nil => exact ⟨sent, rfl, rfl⟩
      | cons buf chain =>
          obtain ⟨carried, rest, state, ran, split, length, moved⟩ :=
            sendChain_atOnce bodyType sessionId
              (.start (if bodyType = .responseBody then
                UInt8.ofNat chainPartNumber else 0) sent) atOnce
          have some := moved (List.cons_ne_nil _ _)
            (maxChunksToProcess_pos bodyType)
          rw [inspectChain_cons, ngxHttpCpBodySender_eq, ran]
          dsimp only
          have total := congrArg List.length split
          rw [List.length_append] at total
          have positive := List.length_pos_iff.mpr some
          have shorter : rest.length ≤ chainElems.length := by
            rw [List.length_cons, List.length_cons] at enough
            rw [List.length_cons] at total
            omega
          rw [split, chunks_append, List.length_append] at atOnce
          have later : SentAtOnce transport state.sent.length
              (chunks rest).length := by
            rw [length]
            exact atOnce.drop
          obtain ⟨after, ranLater, lengthLater⟩ := induction shorter _ later
          refine ⟨after, ranLater, ?_⟩
          rw [lengthLater, length, split, chunks_append, List.length_append,
            Nat.add_assoc]
          rfl

variable (bodyType sessionId) in
theorem inspectChains_atOnce {chains : List (List NgxBuf)}
    (sent : List Sending)
    (atOnce :
      SentAtOnce transport sent.length (chunks chains.flatten).length) :
    ∃ after,
      inspectChains transport bodyType sessionId chains sent =
        (true, after) ∧
        after.length = sent.length + (chunks chains.flatten).length := by
  induction chains generalizing sent with
  | nil => exact ⟨sent, rfl, rfl⟩
  | cons chain chains induction =>
      rw [List.flatten_cons, chunks_append, List.length_append] at atOnce ⊢
      have here : SentAtOnce transport sent.length (chunks chain).length :=
        fun offset inside => atOnce offset (Nat.lt_add_right _ inside)
      obtain ⟨next, inspected, length⟩ :=
        inspectChain_atOnce bodyType sessionId (Nat.le_refl chain.length) 0
          here
      have later : SentAtOnce transport next.length
          (chunks chains.flatten).length := by
        rw [length]
        exact atOnce.drop
      obtain ⟨after, ran, total⟩ := induction next later
      refine ⟨after, ?_, ?_⟩
      · rw [inspectChains, inspected]
        exact ran
      · rw [total, length, Nat.add_assoc]

end Runs

/-- A message whose sending succeeds is enqueued, and once if nothing waited. -/
structure SendOutcome.Sound (outcome : SendOutcome) : Prop where
  enqueues : outcome.result = .ok → 1 ≤ copies outcome.errCodes
  once :
    outcome.result = .ok → outcome.wasWaiting = false →
      copies outcome.errCodes = 1

theorem ngxHttpCpSendDataToService_sound {mode : WaitMode}
    {curSessionId : Nat} (attempts : Fin 5 → Attempt mode curSessionId) :
    (ngxHttpCpSendDataToService attempts).Sound := by
  constructor
  · intro succeeded
    change 1 ≤ (ngxHttpCpSendDataToService attempts).observed.copies
    have success :
        (ngxHttpCpSendDataToService attempts).observed.success = true :=
      decide_eq_true succeeded
    rw [ngxHttpCpSendDataToService, sendAttempts_observed] at success ⊢
    exact RetryLoop.offer_copies_of_success success
  · intro _ quiet
    rw [ngxHttpCpSendDataToService, List.ofFn_succ, sendAttempts] at quiet ⊢
    dsimp only at quiet ⊢
    split at quiet
    · rename_i first
      rw [if_pos first, copies_cons, decide_eq_true first.2]
      rfl
    · split at quiet
      · cases quiet
      · cases quiet

theorem enqueued_cons (sending : Sending) (sent : List Sending) :
    enqueued (sending :: sent) =
      List.replicate (copies sending.outcome.errCodes) sending.message ++
        enqueued sent :=
  rfl

theorem length_le_enqueued (sound : ∀ sending ∈ sent, sending.outcome.Sound)
    (succeeded : ∀ sending ∈ sent, sending.outcome.result = .ok) :
    sent.length ≤ (enqueued sent).length := by
  induction sent with
  | nil => exact Nat.le_refl _
  | cons sending sent induction =>
      obtain ⟨first, rest⟩ := List.forall_mem_cons.mp sound
      obtain ⟨ok, restOk⟩ := List.forall_mem_cons.mp succeeded
      have one := first.enqueues ok
      have later := induction rest restOk
      rw [enqueued_cons, List.length_append, List.length_replicate,
        List.length_cons]
      omega

theorem enqueued_of_quiet (sound : ∀ sending ∈ sent, sending.outcome.Sound)
    (succeeded : ∀ sending ∈ sent, sending.outcome.result = .ok)
    (quiet : waits sent = 0) :
    enqueued sent = sent.map Sending.message := by
  induction sent with
  | nil => rfl
  | cons sending sent induction =>
      obtain ⟨first, rest⟩ := List.forall_mem_cons.mp sound
      obtain ⟨ok, restOk⟩ := List.forall_mem_cons.mp succeeded
      rw [waits, List.countP_cons, Nat.add_eq_zero_iff] at quiet
      have atOnce : sending.outcome.wasWaiting = false := by
        by_contra waiting
        rw [if_pos (Bool.of_not_eq_false waiting)] at quiet
        cases quiet.2
      rw [enqueued_cons, first.once ok atOnce, induction rest restOk quiet.1]
      rfl

theorem payloads_filter (bufs : List NgxBuf) :
    ((bufs.filter NgxBuf.IsSent).map NgxBuf.bytes).flatten =
      (bufs.map NgxBuf.bytes).flatten := by
  induction bufs with
  | nil => rfl
  | cons buf bufs induction =>
      rw [List.map_cons, List.flatten_cons, ← induction]
      by_cases isSent : buf.IsSent
      · rw [List.filter_cons_of_pos (by rwa [decide_eq_true_eq]),
          List.map_cons, List.flatten_cons]
      · have empty : buf.bytes = [] := by
          apply List.eq_nil_of_length_eq_zero
          exact Nat.eq_zero_of_not_pos fun some => isSent (.inl some)
        rw [List.filter_cons_of_neg (by rwa [decide_eq_true_eq]), empty,
          List.nil_append]

theorem fragment_eq_iff {str : NanoStr} :
    str.fragment = str ↔ List.length str < 65536 := by
  rw [NanoStr.fragment, List.take_eq_self_iff]
  have below := Nat.mod_lt (List.length str) (by decide : 0 < 65536)
  constructor
  · intro whole
    omega
  · intro small
    exact Nat.le_of_eq (Nat.mod_eq_of_lt small).symm

/-- The chunks hold the bytes of the buffers precisely when these fit. -/
theorem chunks_eq_iff (bufs : List NgxBuf) :
    chunks bufs = ((bufs.filter NgxBuf.IsSent).map fun buf =>
        (buf.bytes, buf.lastBuf)) ↔
      ∀ buf ∈ bufs, List.length buf.bytes < 65536 := by
  rw [chunks, List.map_inj_left]
  constructor
  · intro same buf member
    by_cases isSent : buf.IsSent
    · have kept : buf ∈ bufs.filter NgxBuf.IsSent :=
        List.mem_filter.mpr ⟨member, decide_eq_true isSent⟩
      exact fragment_eq_iff.mp (congrArg Prod.fst (same buf kept))
    · have empty := mt (fun some => (.inl some : buf.IsSent)) isSent
      omega
  · intro fits buf kept
    have member := (List.mem_filter.mp kept).1
    rw [fragment_eq_iff.mpr (fits buf member)]

section Delivery

variable {sessionId : BitVec 32} {mode : Nat → WaitMode}

/-- Every body byte is enqueued once and in order precisely when the buffers
fit in sixteen bits and every chunk is sent without a failure or a wait. -/
theorem body_sent_once_iff
    (attempts : ∀ index, Fin 5 → Attempt (mode index) sessionId.toNat)
    (bodyType : AttachmentDataType) (chains : List (List NgxBuf)) :
    let transport := fun index => ngxHttpCpSendDataToService (attempts index)
    BodySentOnce chains
        (inspectChains transport bodyType sessionId chains []) ↔
      (∀ buf ∈ chains.flatten, List.length buf.bytes < 65536) ∧
        SentAtOnce transport 0
          (chains.flatten.filter NgxBuf.IsSent).length := by
  intro transport
  have number : (chains.flatten.filter NgxBuf.IsSent).length =
      (chunks chains.flatten).length := (List.length_map _).symm
  have ofCarried : ∀ sent, Carried transport chains.flatten [] sent →
      (∀ sending ∈ sent, sending.outcome.Sound) ∧
        (∀ sending ∈ sent, sending.outcome.result = .ok) := by
    intro sent carried
    obtain ⟨⟨new, rfl, succeeded, _, _⟩, recorded⟩ := carried
    refine ⟨?_, succeeded⟩
    intro sending member
    obtain ⟨index, inside, rfl⟩ := List.mem_iff_getElem.mp member
    rw [recorded nofun index inside]
    apply ngxHttpCpSendDataToService_sound
  rw [number]
  constructor
  · intro once
    rcases inspected : inspectChains transport bodyType sessionId chains []
      with ⟨complete, sent⟩
    rw [inspected] at once
    obtain rfl : complete = true := once.complete
    have carried := inspectChains_carried inspected
    obtain ⟨sound, succeeded⟩ := ofCarried sent carried
    obtain ⟨⟨_, rfl, _, size, parts⟩, recorded⟩ := carried
    -- a wait would leave more messages in the queue than there are chunks
    have total := congrArg List.length once.once
    rw [List.length_map, List.length_map, number] at total
    have some := length_le_enqueued sound succeeded
    have quiet : waits sent = 0 := by
      dsimp only at total
      omega
    constructor
    · rw [← chunks_eq_iff, ← once.once, enqueued_of_quiet sound succeeded
        quiet, List.map_map]
      exact (parts quiet).symm
    · intro offset inside
      have within : offset < sent.length := by
        omega
      have outcome := recorded nofun offset within
      have member := List.getElem_mem within
      rw [Nat.zero_add, ← outcome]
      refine ⟨succeeded _ member, ?_⟩
      exact Bool.eq_false_iff.mpr
        (List.countP_eq_zero.mp quiet _ member)
  · rintro ⟨fits, atOnce⟩
    obtain ⟨sent, inspected, length⟩ :=
      inspectChains_atOnce bodyType sessionId [] atOnce
    have carried := inspectChains_carried inspected
    obtain ⟨sound, succeeded⟩ := ofCarried sent carried
    obtain ⟨⟨_, rfl, _, size, parts⟩, _⟩ := carried
    have quiet : waits sent = 0 := by
      rw [List.length_nil] at length
      omega
    have once : (enqueued sent).map bodyPart =
        (chains.flatten.filter NgxBuf.IsSent).map fun buf =>
          (buf.bytes, buf.lastBuf) := by
      rw [enqueued_of_quiet sound succeeded quiet, List.map_map,
        ← (chunks_eq_iff _).mpr fits, ← parts quiet]
      rfl
    rw [inspected]
    refine ⟨rfl, ?_, once⟩
    have payloads := congrArg (List.map Prod.fst) once
    rw [List.map_map, List.map_map] at payloads
    rw [← payloads_filter]
    exact congrArg List.flatten payloads

end Delivery

/-- The first push finds the queue full; after a wait the chunk is enqueued,
and then again as the next element to inspect. -/
theorem waiting_chunk_sent_twice :
    let wait : Wait ⟨true, 3, false⟩ 7 :=
      { signalled := .ok
        events := [.ready false (.complete 7)]
        result := .ok
        returns := by decide }
    let attempts (index : Nat) (attempt : Fin 5) :
        Attempt ⟨true, 3, false⟩ 7 :=
      { errCode := if index = 0 ∧ attempt = 0 then -3 else 0, wait }
    let chains : List (List NgxBuf) :=
      [[{ bytes := [65], lastBuf := false },
        { bytes := [66], lastBuf := true }]]
    let inspected := inspectChains
      (fun index => ngxHttpCpSendDataToService (attempts index)) .requestBody 7
      chains []
    inspected.1 = true ∧
      (enqueued inspected.2).map bodyPart =
        [([65], false), ([65], false), ([66], true)] ∧
      ¬BodySentOnce chains inspected := by
  intro wait attempts chains inspected
  have messages : (enqueued inspected.2).map bodyPart =
      [([65], false), ([65], false), ([66], true)] := by
    decide
  refine ⟨by decide, messages, ?_⟩
  intro once
  have chunks := once.once
  rw [messages] at chunks
  exact absurd chunks (by decide)

end OpenAppsec.Nginx
