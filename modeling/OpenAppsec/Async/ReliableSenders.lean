import OpenAppsec.Async.Steps
import OpenAppsec.Attachment.HeaderLists

/-!
# Senders that do not fail

When the ring queue takes every message and no signal fails, each sender of
the asynchronous mode adds exactly its messages.  A signal may still time out.
-/

namespace OpenAppsec.Async

open Nginx (NgxBuf HeaderLoop sendParts sendPart)

/-- No call out of the module fails. -/
structure Environment.Reliable (env : Environment) : Prop where
  chunkSent : ∀ call, env.chunkSent call = true
  signalled : ∀ call, env.signalled call ≠ .error

section Bulks

variable {transport : Nat → Nginx.SendOutcome}

variable {headerType : AttachmentDataType} {loop : HeaderLoop}

/-- The messages of a header loop have its type, and all of them were
accepted. -/
def HeaderLoop.Accepted (headerType : AttachmentDataType)
    (loop : HeaderLoop) : Prop :=
  ∀ sending ∈ loop.sent,
    sending.message.chunkType = headerType ∧ sending.outcome.result = .ok

variable (accepts : ∀ index, (transport index).result = .ok)

include accepts

theorem sendHeaderBulk_accepted (before : HeaderLoop.Accepted headerType loop)
    (bulk : List HttpHeaderData) (isLastPart bulkPartIndex : UInt8)
    (curRequestId : BitVec 32) :
    let after := Nginx.sendHeaderBulk transport headerType bulk isLastPart
      bulkPartIndex curRequestId loop
    after.1 = .ok ∧ HeaderLoop.Accepted headerType after.2 := by
  dsimp only
  rw [Nginx.sendHeaderBulk]
  dsimp only
  rw [if_neg (not_not.mpr (accepts _))]
  refine ⟨rfl, ?_⟩
  apply List.forall_mem_append.mpr ⟨before, ?_⟩
  intro sending member
  rw [List.mem_singleton.mp member]
  exact ⟨rfl, accepts _⟩

theorem sendPart_accepted (curRequestId : BitVec 32) (noNext : Bool)
    (headers : List HttpHeaderData)
    (before : HeaderLoop.Accepted headerType loop) :
    let after :=
      sendPart transport headerType curRequestId noNext headers loop
    after.1 = .ok ∧ HeaderLoop.Accepted headerType after.2 := by
  induction headers generalizing loop with
  | nil => exact ⟨rfl, before⟩
  | cons header headers induction =>
      rw [sendPart]
      dsimp only
      have added : HeaderLoop.Accepted headerType
          { loop with
            bulk := loop.bulk ++ [header]
            partCount := loop.partCount + 1 } := before
      split
      · exact induction added
      · generalize (if (noNext && headers.isEmpty) = true then (1 : UInt8)
          else 0) = isLastPart
        have sent := sendHeaderBulk_accepted accepts added
          (loop.bulk ++ [header]) isLastPart loop.bulkPartIdx curRequestId
        rw [if_neg (not_not.mpr sent.1)]
        split
        · exact ⟨rfl, sent.2⟩
        · exact induction sent.2

theorem sendParts_accepted (curRequestId : BitVec 32)
    (parts : List (List HttpHeaderData))
    (before : HeaderLoop.Accepted headerType loop) :
    let after := sendParts transport headerType curRequestId parts loop
    after.1 = .ok ∧ HeaderLoop.Accepted headerType after.2 := by
  induction parts generalizing loop with
  | nil => exact ⟨rfl, before⟩
  | cons part parts induction =>
      have sent :=
        sendPart_accepted accepts curRequestId parts.isEmpty part before
      rw [sendParts]
      dsimp only at sent ⊢
      rw [if_neg (not_not.mpr sent.1)]
      exact induction sent.2

omit accepts

theorem HeaderLoop.Accepted.delivered
    (accepted : HeaderLoop.Accepted headerType loop) :
    HeaderLoop.delivered loop = loop.sent.map Nginx.Sending.message := by
  rw [HeaderLoop.delivered, List.filter_eq_self.mpr]
  intro sending member
  exact decide_eq_true (accepted sending member).2

end Bulks

section Senders

variable (env : Environment) (request : Request)

/-- The header loop when the ring queue takes every bulk. -/
def headerLoop : HeaderLoop :=
  (sendParts (fun _ => bulkOutcome true) .requestHeader request.sessionId
    request.headers .start).2

/-- The messages for the headers of a request. -/
def headerMessages : List Message :=
  HeaderLoop.delivered (headerLoop request) ++
    if (headerLoop request).partCount = 0 then
      [emptyHeaderListMessage env request]
    else []

theorem sendParts_headerLoop :
    sendParts (fun _ => bulkOutcome true) .requestHeader request.sessionId
        request.headers .start = (.ok, headerLoop request) ∧
      HeaderLoop.Accepted .requestHeader (headerLoop request) := by
  have started : HeaderLoop.Accepted .requestHeader HeaderLoop.start :=
    List.forall_mem_nil _
  have accepts : ∀ index : Nat,
      ((fun _ => bulkOutcome true) index).result = .ok := fun _ => rfl
  have accepted := sendParts_accepted accepts request.sessionId
    request.headers started
  exact ⟨Prod.ext accepted.1 rfl, accepted.2⟩

theorem chunkType_of_mem_headerMessages {message : Message}
    (member : message ∈ headerMessages env request) :
    message.chunkType = .requestHeader := by
  have accepted := (sendParts_headerLoop request).2
  rw [headerMessages, accepted.delivered] at member
  obtain bulk | empty := List.mem_append.mp member
  · obtain ⟨sending, sent, rfl⟩ := List.mem_map.mp bulk
    exact (accepted sending sent).1
  · split at empty
    · rw [List.mem_singleton.mp empty]
      rfl
    · cases empty

/-- The headers of a request in bulks of ten, each with the number of headers
before it; the last one is marked. -/
def headerBulks : List Message :=
  Nginx.numberedMessages .requestHeader request.sessionId 0
    (marked (Bulks.bulks 10 request.headers.flatten))

/-- The bulks say all of the headers. -/
theorem headerBulks_carry
    (fits : ∀ header ∈ request.headers.flatten, header.Fits)
    (some : request.headers.flatten ≠ []) :
    CarriesHeaders request.headers.flatten (headerBulks request) := by
  apply carriesHeaders_of_marked some
  apply Nginx.headerPart_numberedMessages
  intro part inside header member
  apply fits
  have bulk : part.2 ∈ Bulks.bulks 10 request.headers.flatten := by
    rw [← map_snd_marked (Bulks.bulks 10 request.headers.flatten)]
    exact List.mem_map_of_mem inside
  rw [← Bulks.flatten_bulks 10 request.headers.flatten]
  exact List.mem_flatten_of_mem bulk member

/-- The last part of the header list has elements, and the counter of eight
bits is not back at zero. -/
def Request.CountsHeaders (request : Request) : Prop :=
  Nginx.LastPartFilled request.headers ∧
    ¬256 ∣ request.headers.flatten.length

instance (request : Request) : Decidable request.CountsHeaders :=
  inferInstanceAs (Decidable (_ ∧ _))

theorem headerMessages_eq :
    headerMessages env request =
      Nginx.numberedMessages .requestHeader request.sessionId 0
          (Nginx.partBulks [] request.headers) ++
        if 256 ∣ request.headers.flatten.length then
          [emptyHeaderListMessage env request]
        else [] := by
  obtain ⟨sent, accepted⟩ := sendParts_headerLoop request
  have started : HeaderLoop.start.Indexed := rfl
  have bulks := Nginx.sendParts_ok started sent
  have counted : (headerLoop request).partCount = 0 ↔
      256 ∣ request.headers.flatten.length := by
    rw [bulks.partCount, HeaderLoop.start, UInt8.zero_add,
      ← UInt8.toNat_inj, UInt8.toNat_ofNat']
    exact (Nat.dvd_iff_mod_eq_zero).symm
  have messages : (headerLoop request).sent.map Nginx.Sending.message =
      Nginx.numberedMessages .requestHeader request.sessionId 0
        (Nginx.partBulks [] request.headers) := bulks.messages
  rw [headerMessages, accepted.delivered, messages]
  simp only [counted]

theorem flags_numberedMessages (index : UInt8)
    (bulks : List (Bool × List HttpHeaderData)) :
    (Nginx.numberedMessages .requestHeader request.sessionId index
        bulks).map (fun message => message.headerPart.1) =
      bulks.map Prod.fst := by
  induction bulks generalizing index with
  | nil => rfl
  | cons part bulks induction =>
      obtain ⟨isLast, bulk⟩ := part
      rw [Nginx.numberedMessages, List.map_cons, induction]
      cases isLast <;> rfl

theorem length_numberedMessages (index : UInt8)
    (bulks : List (Bool × List HttpHeaderData)) :
    (Nginx.numberedMessages .requestHeader request.sessionId index
      bulks).length = bulks.length := by
  have flags := congrArg List.length
    (flags_numberedMessages request index bulks)
  rwa [List.length_map, List.length_map] at flags

variable {request} in
/-- The message for an empty list does not stand for a last bulk: that one has
another index. -/
theorem numberedMessages_ne_of_multiple
    (multiple : 256 ∣ request.headers.flatten.length) :
    Nginx.numberedMessages .requestHeader request.sessionId 0
          (Nginx.partBulks [] request.headers) ++
        (if 256 ∣ request.headers.flatten.length then
          [emptyHeaderListMessage env request]
        else []) ≠
      Nginx.numberedMessages .requestHeader request.sessionId 0
        (marked (Bulks.bulks 10 request.headers.flatten)) := by
  intro same
  rw [if_pos multiple] at same
  have lengths := congrArg List.length same
  rw [List.length_append, length_numberedMessages,
    length_numberedMessages] at lengths
  by_cases filled : Nginx.LastPartFilled request.headers
  · rw [Nginx.partBulks, if_pos filled] at lengths
    exact absurd lengths (Nat.succ_ne_self _)
  rw [Nginx.partBulks_of_unfilled filled] at same lengths
  have items := @Bulks.flatten_fullBulksFrom HttpHeaderData 10 []
    request.headers.flatten
  have short := @Bulks.length_remainderFrom_lt HttpHeaderData 10 []
    (Nat.zero_lt_succ 9) request.headers.flatten
  change _ ++ _ = request.headers.flatten at items
  have isFull : Bulks.fullBulksFrom Nginx.maxBulkSize []
      request.headers.flatten =
        Bulks.fullBulksFrom 10 [] request.headers.flatten := rfl
  rw [isFull] at same lengths
  rw [Bulks.bulks_eq_full] at same lengths
  generalize Bulks.fullBulksFrom 10 [] request.headers.flatten = full
    at same lengths items
  generalize Bulks.remainderFrom 10 [] request.headers.flatten = rest
    at same lengths items short
  by_cases none : rest = []
  · rw [if_pos none, List.append_nil] at lengths
    have marks := congrArg List.length (map_snd_marked full)
    rw [List.length_map] at marks lengths
    rw [marks] at lengths
    exact absurd lengths (Nat.succ_ne_self _)
  rw [if_neg none, marked_concat, Nginx.numberedMessages_append] at same
  have last := List.append_cancel_left same
  have index : UInt8.ofNat full.flatten.length = 0 := by
    have fragments := congrArg
      (fun messages => messages.map fun message => message.fragments[3]?) last
    have same : [some [(0 : UInt8)]] =
        [some [0 + UInt8.ofNat
          ((full.map (false, ·)).flatMap Prod.snd).length]] := fragments
    rw [List.flatMap_map, List.flatMap_id', UInt8.zero_add] at same
    injection same with first
    injection first with single
    injection single with index
    exact index.symm
  have inFull : 256 ∣ full.flatten.length := by
    rw [← UInt8.toNat_inj, UInt8.toNat_ofNat'] at index
    exact Nat.dvd_of_mod_eq_zero index
  rw [← items, List.length_append] at multiple
  have inRest : 256 ∣ rest.length := (Nat.dvd_add_right inFull).mp multiple
  exact none (List.length_eq_zero_iff.mp
    (Nat.eq_zero_of_dvd_of_lt inRest (Nat.lt_trans short (by decide))))

/-- A list that the context does not count is not said in full. -/
theorem headerMessages_eq_headerBulks_iff :
    headerMessages env request = headerBulks request ↔
      request.CountsHeaders := by
  rw [headerMessages_eq, headerBulks]
  constructor
  · intro same
    by_cases multiple : 256 ∣ request.headers.flatten.length
    · exact absurd same (numberedMessages_ne_of_multiple env multiple)
    refine ⟨?_, multiple⟩
    by_contra unfilled
    rw [if_neg multiple, List.append_nil,
      Nginx.partBulks_of_unfilled unfilled] at same
    have flags := congrArg (List.map fun message => message.headerPart.1) same
    rw [flags_numberedMessages, flags_numberedMessages, List.map_map] at flags
    have some : Bulks.bulks 10 request.headers.flatten ≠ [] := by
      intro none
      apply multiple
      rw [Bulks.bulks_eq_nil_iff.mp none]
      exact Nat.dvd_zero _
    -- the last bulk is marked, and full bulks are not
    have isMarked : true ∈
        (marked (Bulks.bulks 10 request.headers.flatten)).map Prod.fst := by
      rw [← List.dropLast_concat_getLast some, marked_concat]
      simp
    rw [← flags] at isMarked
    obtain ⟨bulk, _, unmarked⟩ := List.mem_map.mp isMarked
    cases unmarked
  · rintro ⟨filled, counted⟩
    rw [if_neg counted, List.append_nil, Nginx.partBulks, if_pos filled]
    rfl

variable {env}

theorem sendMessage_reliable (reliable : env.Reliable) (message : Message)
    (flow : Flow) :
    sendMessage env message flow =
      (.ok, 1,
        { flow with
          calls := flow.calls + 1 + 1
          enqueued := flow.enqueued ++ [message] }) := by
  simp [sendMessage, sendChunkedData, signalToService, Flow.countCall,
    reliable.chunkSent, reliable.signalled]

theorem waitSignalSender_reliable (reliable : env.Reliable) (flow : Flow) :
    ∃ rc numMessagesSent,
      (rc = .ok ∨ rc = .httpRequestTimeOut) ∧
        waitSignalSender env request flow =
          (rc, numMessagesSent,
            { flow with
              calls := flow.calls + 1 + 1
              enqueued := flow.enqueued ++ [waitMessage request] }) := by
  rw [waitSignalSender]
  simp only [sendChunkedData, signalToService, Flow.countCall,
    reliable.chunkSent, if_true, Bool.true_eq_false, if_false]
  cases result : env.signalled (flow.calls + 1) with
  | ok => exact ⟨.ok, 1, .inl rfl, rfl⟩
  | requestTimeOut => exact ⟨.httpRequestTimeOut, 0, .inr rfl, rfl⟩
  | error => exact (reliable.signalled _ result).elim

theorem sendHeadersNonblocking_reliable (reliable : env.Reliable)
    (flow : Flow) :
    ∃ calls numMessagesSent,
      sendHeadersNonblocking env request flow =
        (.ok, numMessagesSent,
          { flow with
            calls
            enqueued := flow.enqueued ++ headerMessages env request }) := by
  have accepts : (fun index => bulkOutcome (env.chunkSent
      (flow.calls + index))) = fun _ => bulkOutcome true := by
    funext index
    rw [reliable.chunkSent]
  rw [sendHeadersNonblocking, accepts, (sendParts_headerLoop request).1,
    headerMessages]
  by_cases counted : (headerLoop request).partCount = 0
  · refine ⟨flow.calls + (headerLoop request).sent.length + 1 + 1, 1, ?_⟩
    simp [counted, sendChunkedData, signalToService, Flow.countCall,
      reliable.chunkSent, reliable.signalled]
  · refine ⟨flow.calls + (headerLoop request).sent.length + 1,
      (headerLoop request).numOfBulksSent, ?_⟩
    simp [counted, signalToService, Flow.countCall, reliable.signalled]

theorem sendEndTransactionNonblocking_reliable (reliable : env.Reliable)
    (flow : Flow) :
    sendEndTransactionNonblocking env request flow =
      (.ok, 1,
        Flow.updateCtx (fun ctx => { ctx with endTransactionSent := true })
          { flow with
            calls := flow.calls + 1 + 1
            enqueued :=
              flow.enqueued ++ [endTransactionMessage request] }) := by
  rw [sendEndTransactionNonblocking, sendMessage_reliable reliable]
  rfl

/-- The messages for the buffers of a body. -/
def bodyMessages (bufs : List NgxBuf) : List Message :=
  (bufs.filter NgxBuf.IsSent).map (bodyMessage request)

theorem sendSingleBodyChunkNonblocking_reliable (reliable : env.Reliable)
    (buf : NgxBuf) (flow : Flow) :
    ∃ calls numMessagesSent,
      sendSingleBodyChunkNonblocking env request buf flow =
        (.ok, numMessagesSent,
          { flow with
            calls
            enqueued := flow.enqueued ++ bodyMessages request [buf] }) := by
  rw [sendSingleBodyChunkNonblocking]
  split
  · rename_i isSent
    refine ⟨flow.calls + 1 + 1, 1, ?_⟩
    rw [sendMessage_reliable reliable, bodyMessages,
      List.filter_cons_of_pos (by simpa using isSent)]
    rfl
  · rename_i notSent
    refine ⟨flow.calls, 0, ?_⟩
    rw [bodyMessages, List.filter_cons_of_neg (by simpa using notSent)]
    simp

end Senders

end OpenAppsec.Async
