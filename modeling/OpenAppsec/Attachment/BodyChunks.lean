import OpenAppsec.Attachment.ReplyCounter
import OpenAppsec.Attachment.Transmissions

/-!
# Bodies cut into chunks

The front ends cut a body into chunks of 8 KB and hand the array to the body
sender of the nano attachment, whose index has eight bits.
-/

namespace OpenAppsec.Nano

open Bulks

/-- `lua_send_body` of the kong plugin. -/
def luaSendBodyChunks (body : List UInt8) : List NanoStr :=
  if body.length ≤ 8 * 1024 then [body]
  else
    let chunkSize := 8 * 1024
    let numChunks := (body.length - 1) / chunkSize + 1
    let numChunks := if numChunks > 10000 then 10000 else numChunks
    (List.range numChunks).map fun i =>
      let chunkStart := i * chunkSize
      let chunkLen :=
        if i = numChunks - 1 then body.length - chunkStart else chunkSize
      (body.drop chunkStart).take chunkLen

/-- `bodyChunkSize` of the traefik daemon. -/
def bodyChunkSize : Nat := 8 * 1024

/-- `AttachmentManager.sendBody` of the traefik daemon. -/
def attachmentManagerSendBodyChunks (body : List UInt8) : List NanoStr :=
  let numChunks := (body.length - 1) / bodyChunkSize + 1
  (List.range numChunks).map fun i =>
    let offset := i * bodyChunkSize
    let size := body.length - offset
    let size := if size > bodyChunkSize then bodyChunkSize else size
    (body.drop offset).take size

/-- `filter.sendBody` of the envoy filter. -/
def filterSendBodyChunks (data : List UInt8) : List NanoStr :=
  let bufferSize := 8 * 1024
  let numOfBuffers := (data.length - 1) / bufferSize + 1
  let numOfBuffers := if numOfBuffers > 10000 then 10000 else numOfBuffers
  (List.range numOfBuffers).map fun i =>
    (data.drop (i * bufferSize)).take
      (if i + 1 = numOfBuffers then data.length - i * bufferSize
        else bufferSize)

inductive FrontEnd where
  | kong
  | traefik
  | envoy

def FrontEnd.chunks : FrontEnd → List UInt8 → List NanoStr
  | .kong => luaSendBodyChunks
  | .traefik => attachmentManagerSendBodyChunks
  | .envoy => filterSendBodyChunks

/-- The fields of a body message after its identifiers. -/
structure BodyChunk where
  isFinalChunk : UInt8
  bodyIndex : UInt8
  payload : List UInt8
  deriving DecidableEq

def bodyChunk? (message : Message) : Option BodyChunk :=
  match message.fragments with
  | [_, _, [isFinalChunk], [bodyIndex], payload] =>
      some { isFinalChunk, bodyIndex, payload }
  | _ => none

variable {ω : Type*}

/-- The copies of a message that the ring queue accepts in an event. -/
def Event.enqueued : Event ω → List Message
  | .sent message outcome =>
      List.replicate (OpenAppsec.copies outcome.errCodes) message
  | _ => []

/-- The chunks are the whole body, numbered from zero, and the last one alone
is flagged. -/
structure ArrivesWhole (body : List UInt8) (arrived : List BodyChunk) :
    Prop where
  payloads : (arrived.map BodyChunk.payload).flatten = body
  bodyIndex : ∀ (index : Nat) (chunk : BodyChunk), arrived[index]? = some chunk →
    chunk.bodyIndex.toNat = index
  isFinalChunk : ∀ (index : Nat) (chunk : BodyChunk), arrived[index]? = some chunk →
    chunk.isFinalChunk = if index + 1 = arrived.length then 1 else 0

/-- The body sender returns, and what it has enqueued is the whole body. -/
def BodyArrives (env : Environment ω) (body : List UInt8)
    (bodies : List NanoStr) (bodyType : AttachmentDataType)
    (isVerdictRequested : Bool) (usageMode : SignalUsageMode)
    (state : SenderState ω) : Prop :=
  ∃ passes final arrived,
    nanoBodySender { env with passes } bodies bodyType isVerdictRequested
        usageMode state = some final ∧
      ((state.eventsSince final).flatMap Event.enqueued).map bodyChunk? =
        arrived.map some ∧
      ArrivesWhole body arrived

theorem numChunks_le_iff (length : Nat) :
    (length - 1) / (8 * 1024) + 1 ≤ 255 ↔ length ≤ 255 * (8 * 1024) := by
  omega

theorem FrontEnd.chunks_of_short (frontEnd : FrontEnd) {body : List UInt8}
    (short : body.length ≤ 255 * (8 * 1024)) :
    frontEnd.chunks body =
      pieces (8 * 1024) ((body.length - 1) / (8 * 1024) + 1) body := by
  have few := (numChunks_le_iff body.length).mpr short
  have capped : ¬(body.length - 1) / (8 * 1024) + 1 > 10000 := by omega
  cases frontEnd with
  | kong =>
      rw [chunks, luaSendBodyChunks]
      by_cases single : body.length ≤ 8 * 1024
      · have one : (body.length - 1) / (8 * 1024) = 0 := by omega
        rw [if_pos single, one]
        simp [pieces, piece]
      · rw [if_neg single]
        simp only [if_neg capped]
        apply List.map_congr_left
        intro index _
        simp only [piece, Nat.add_sub_cancel, Nat.add_right_cancel_iff]
  | traefik =>
      apply List.map_congr_left
      intro index member
      have inside := List.mem_range.mp member
      simp only [piece]
      unfold bodyChunkSize at inside ⊢
      congr 1
      by_cases last : index + 1 = (body.length - 1) / (8 * 1024) + 1
      · have rest : ¬body.length - index * (8 * 1024) > 8 * 1024 := by omega
        rw [if_pos last, if_neg rest]
      · have more : body.length - index * (8 * 1024) > 8 * 1024 := by omega
        rw [if_neg last, if_pos more]
  | envoy =>
      rw [chunks, filterSendBodyChunks]
      simp only [if_neg capped]
      rfl

theorem FrontEnd.length_chunks_of_long (frontEnd : FrontEnd)
    {body : List UInt8} (long : ¬body.length ≤ 255 * (8 * 1024)) :
    ¬(frontEnd.chunks body).length ≤ 255 := by
  cases frontEnd with
  | kong =>
      have several : ¬body.length ≤ 8 * 1024 := by omega
      rw [chunks, luaSendBodyChunks, if_neg several]
      simp only [List.length_map, List.length_range]
      split <;> omega
  | traefik =>
      simp only [chunks, attachmentManagerSendBodyChunks, List.length_map,
        List.length_range, bodyChunkSize]
      omega
  | envoy =>
      simp only [chunks, filterSendBodyChunks, List.length_map,
        List.length_range]
      split <;> omega

/-- The fields of the chunks from an index on. -/
def chunkFields : Nat → List NanoStr → List BodyChunk
  | _, [] => []
  | index, body :: bodies =>
      { isFinalChunk := if bodies = [] then 1 else 0
        bodyIndex := UInt8.ofNat index
        payload := body.fragment } ::
          chunkFields (index + 1) bodies

theorem chunkFields_length (index : Nat) (bodies : List NanoStr) :
    (chunkFields index bodies).length = bodies.length := by
  induction bodies generalizing index with
  | nil => rfl
  | cons body bodies induction =>
      simp only [chunkFields, List.length_cons, induction]

theorem chunkFields_payloads (index : Nat) (bodies : List NanoStr) :
    (chunkFields index bodies).map BodyChunk.payload =
      bodies.map NanoStr.fragment := by
  induction bodies generalizing index with
  | nil => rfl
  | cons body bodies induction =>
      simp only [chunkFields, List.map_cons, induction]

theorem chunkFields_getElem? {start : Nat} {bodies : List NanoStr}
    (few : start + bodies.length ≤ 256) {index : Nat} {chunk : BodyChunk}
    (found : (chunkFields start bodies)[index]? = some chunk) :
    chunk.bodyIndex.toNat = start + index ∧
      chunk.isFinalChunk = if index + 1 = bodies.length then 1 else 0 := by
  induction bodies generalizing start index with
  | nil => cases found
  | cons body bodies induction =>
      rw [List.length_cons] at few ⊢
      cases index with
      | zero =>
          cases found
          constructor
          · exact Nat.mod_eq_of_lt (by omega)
          · simp only [Nat.zero_add, Nat.right_eq_add, List.length_eq_zero_iff]
      | succ index =>
          obtain ⟨counted, flagged⟩ := induction (by omega) found
          constructor
          · omega
          · simpa only [Nat.add_right_cancel_iff] using flagged

theorem bodyMessages_fields {all : List NanoStr} (few : all.length ≤ 255)
    (bodyType : AttachmentDataType) (sessionId : BitVec 32) {passes : Nat}
    {bodyIndex : UInt8} {rest : List NanoStr}
    (left : all.drop bodyIndex.toNat = rest) (enough : rest.length < passes) :
    (bodyMessages all bodyType sessionId passes bodyIndex 0).map bodyChunk? =
      (chunkFields bodyIndex.toNat rest).map some := by
  induction passes generalizing bodyIndex rest with
  | zero => cases enough
  | succ passes induction =>
      rw [bodyMessages, ← List.head?_drop, left]
      cases rest with
      | nil => rfl
      | cons body rest =>
          have inside : bodyIndex.toNat < all.length := by
            by_contra outside
            rw [List.drop_eq_nil_of_le (Nat.not_lt.mp outside)] at left
            cases left
          have length : all.length = bodyIndex.toNat + (rest.length + 1) := by
            have dropped := congrArg List.length left
            rw [List.length_drop, List.length_cons] at dropped
            omega
          have next : (bodyIndex + 1).toNat = bodyIndex.toNat + 1 :=
            toNat_add_one (by omega)
          have tail : all.drop (bodyIndex + 1).toNat = rest := by
            rw [next, ← List.tail_drop, left, List.tail_cons]
          have final : bodyIndex.toNat = all.length - 1 ↔ rest = [] := by
            rw [← List.length_eq_zero_iff]
            omega
          have number : UInt8.ofNat bodyIndex.toNat = bodyIndex :=
            UInt8.ofNat_toNat
          simp only [List.head?_cons, List.map_cons, chunkFields, final,
            number]
          refine List.cons_eq_cons.mpr ⟨rfl, ?_⟩
          by_cases last : rest = []
          · -- the index after the last chunk ends the loop
            rw [if_pos last, last]
            cases passes with
            | zero => rfl
            | succ passes =>
                rw [bodyMessages, ← List.head?_drop, tail, last]
                rfl
          · rw [if_neg last]
            have later : rest.length < passes := by
              rw [List.length_cons] at enough
              omega
            rw [induction tail later, next]

/-- The ring queue accepts every chunk at once. -/
def Environment.AcceptsAll (env : Environment ω) : Prop :=
  ∀ index attempt, (env.transport index attempt).errCode = 0

theorem sendOutcome_of_acceptsAll {env : Environment ω}
    (accepts : env.AcceptsAll) (usageMode : SignalUsageMode)
    (sessionId : BitVec 32) (index : Nat) :
    sendOutcome env usageMode sessionId index =
      { result := .ok, errCodes := [0] } := by
  rw [sendOutcome, sendSessionDataToService, List.ofFn_succ, sendAttempts,
    if_pos ⟨rfl, accepts index 0⟩, accepts index 0]

theorem enqueued_sentEvents {outcome : Nat → SendOutcome}
    (accepts : ∀ index, outcome index = { result := .ok, errCodes := [0] })
    (index : Nat) (messages : List Message) :
    (sentEvents outcome index messages : List (Event ω)).flatMap
      Event.enqueued = messages := by
  induction messages generalizing index with
  | nil => rfl
  | cons message messages induction =>
      rw [sentEvents, if_pos (congrArg SendOutcome.result (accepts index)),
        List.flatMap_cons, induction, accepts index]
      rfl

theorem events_requestVerdictOrOk (env : Environment ω)
    (isVerdictRequested : Bool) (state : SenderState ω) :
    ∃ replies : List (Event ω),
      (requestVerdictOrOk env isVerdictRequested state).events =
          state.events ++ replies ∧
        replies.flatMap Event.enqueued = [] := by
  cases isVerdictRequested with
  | false => exact ⟨[], (List.append_nil _).symm, rfl⟩
  | true => exact ⟨[_], rfl, rfl⟩

theorem nanoBodySender_enqueued {env : Environment ω}
    (accepts : env.AcceptsAll) {bodies : List NanoStr}
    {bodyType : AttachmentDataType} {isVerdictRequested : Bool}
    {usageMode : SignalUsageMode} {state final : SenderState ω}
    (returned : nanoBodySender env bodies bodyType isVerdictRequested usageMode
      state = some final) :
    bodies.length ≤ 255 ∧
      (state.eventsSince final).flatMap Event.enqueued =
        bodyMessages bodies bodyType state.sessionData.sessionId env.passes 0
          0 := by
  obtain ⟨outcome, transmitted, rfl⟩ := Option.map_eq_some_iff.mp returned
  obtain ⟨delivered, short⟩ := transmitBody_returned transmitted
  have outcomes := sendOutcome_of_acceptsAll accepts usageMode
    state.sessionData.sessionId
  have accepted : outcome.1 = true := by
    rw [← delivered]
    apply deliver_accepted_iff.mpr
    intro offset _
    exact congrArg SendOutcome.result (outcomes _)
  refine ⟨(short accepted).2, ?_⟩
  obtain ⟨goesOn, sent⟩ := outcome
  cases accepted
  obtain ⟨replies, events, silent⟩ :=
    events_requestVerdictOrOk env isVerdictRequested sent
  have sentEvents := deliver_events env usageMode
    (bodyMessages bodies bodyType state.sessionData.sessionId env.passes 0 0)
    state
  rw [delivered] at sentEvents
  rw [sentEvents, List.append_assoc] at events
  change (state.eventsSince
    (requestVerdictOrOk env isVerdictRequested sent)).flatMap _ = _
  rw [eventsSince_eq events, List.flatMap_append, silent, List.append_nil]
  exact enqueued_sentEvents outcomes _ _

theorem arrivesWhole_chunkFields {body : List UInt8}
    (nonempty : 1 ≤ body.length) (short : body.length ≤ 255 * (8 * 1024)) :
    ArrivesWhole body
      (chunkFields 0 (pieces (8 * 1024)
        ((body.length - 1) / (8 * 1024) + 1) body)) := by
  have few := (numChunks_le_iff body.length).mpr short
  have covered : body.length ≤
      ((body.length - 1) / (8 * 1024) + 1) * (8 * 1024) := by
    have divided := Nat.div_add_mod (body.length - 1) (8 * 1024)
    have rest := Nat.mod_lt (body.length - 1) (Nat.zero_lt_succ 8191)
    rw [Nat.succ_mul, Nat.mul_comm]
    omega
  have length : (pieces (8 * 1024) ((body.length - 1) / (8 * 1024) + 1)
      body).length = (body.length - 1) / (8 * 1024) + 1 := by
    rw [pieces, List.length_map, List.length_range]
  constructor
  · rw [chunkFields_payloads]
    have whole : ∀ chunk ∈ pieces (8 * 1024)
        ((body.length - 1) / (8 * 1024) + 1) body,
        NanoStr.fragment chunk = chunk := by
      intro chunk member
      obtain ⟨index, -, rfl⟩ := List.mem_map.mp member
      have small := length_piece_le covered index
      rw [NanoStr.fragment, Nat.mod_eq_of_lt (by omega), List.take_length]
    rw [List.map_congr_left whole, List.map_id', flatten_pieces]
  · intro index chunk found
    have counted := (chunkFields_getElem? (by omega) found).1
    rwa [Nat.zero_add] at counted
  · intro index chunk found
    rw [chunkFields_length]
    exact (chunkFields_getElem? (by omega) found).2

theorem bodyArrives_of_short {env : Environment ω} (accepts : env.AcceptsAll)
    (frontEnd : FrontEnd) {body : List UInt8} (nonempty : 1 ≤ body.length)
    (short : body.length ≤ 255 * (8 * 1024)) (bodyType : AttachmentDataType)
    (isVerdictRequested : Bool) (usageMode : SignalUsageMode)
    (state : SenderState ω) :
    BodyArrives env body (frontEnd.chunks body) bodyType isVerdictRequested
      usageMode state := by
  have few := (numChunks_le_iff body.length).mpr short
  have length : (frontEnd.chunks body).length ≤ 255 := by
    rw [frontEnd.chunks_of_short short, pieces, List.length_map,
      List.length_range]
    exact few
  let enough : Environment ω := { env with passes := 256 }
  have acceptsEnough : enough.AcceptsAll := accepts
  obtain ⟨outcome, transmitted⟩ := transmitBody_returns length
    (show _ < enough.passes from Nat.lt_succ_of_le length) bodyType usageMode
    state
  have returned : nanoBodySender enough (frontEnd.chunks body) bodyType
      isVerdictRequested usageMode state =
        some (afterwards (requestVerdictOrOk enough isVerdictRequested)
          outcome) := by
    rw [nanoBodySender, transmitted]
    rfl
  have enqueued := (nanoBodySender_enqueued acceptsEnough returned).2
  refine ⟨256, _, chunkFields 0 (frontEnd.chunks body), returned, ?_, ?_⟩
  · rw [enqueued]
    exact bodyMessages_fields length bodyType _ rfl
      (Nat.lt_succ_of_le length)
  · rw [frontEnd.chunks_of_short short]
    exact arrivesWhole_chunkFields nonempty short

theorem not_bodyArrives_of_long {env : Environment ω}
    (accepts : env.AcceptsAll) (frontEnd : FrontEnd) {body : List UInt8}
    (long : ¬body.length ≤ 255 * (8 * 1024)) (bodyType : AttachmentDataType)
    (isVerdictRequested : Bool) (usageMode : SignalUsageMode)
    (state : SenderState ω) :
    ¬BodyArrives env body (frontEnd.chunks body) bodyType isVerdictRequested
      usageMode state := by
  rintro ⟨passes, final, arrived, returned, -, -⟩
  have acceptsPasses : Environment.AcceptsAll { env with passes } := accepts
  exact frontEnd.length_chunks_of_long long
    (nanoBodySender_enqueued acceptsPasses returned).1

/-- When every chunk is accepted, a body of any front end arrives whole
precisely when it fits 255 chunks of 8 KB. -/
theorem body_arrives_whole_iff (env : Environment ω)
    (accepts : env.AcceptsAll) (frontEnd : FrontEnd) (body : List UInt8)
    (nonempty : 1 ≤ body.length) (bodyType : AttachmentDataType)
    (isVerdictRequested : Bool) (usageMode : SignalUsageMode)
    (state : SenderState ω) :
    BodyArrives env body (frontEnd.chunks body) bodyType isVerdictRequested
        usageMode state ↔
      body.length ≤ 255 * (8 * 1024) := by
  constructor
  · intro arrives
    by_contra long
    exact not_bodyArrives_of_long accepts frontEnd long bodyType
      isVerdictRequested usageMode state arrives
  · intro short
    exact bodyArrives_of_short accepts frontEnd nonempty short bodyType
      isVerdictRequested usageMode state

section Samples

def acceptingEnvironment : Environment Unit :=
  .accepting (fun _ => true) fun _ => .ofVerdict .accept

def sampleState : SenderState Unit :=
  .start
    { sessionId := 7
      verdict := .inspect
      remainingMessagesToReply := 0 }

/-- Two chunks of the traefik daemon. -/
theorem body_arrives_whole_in_two_chunks :
    BodyArrives acceptingEnvironment (List.replicate 8193 1)
      (FrontEnd.traefik.chunks (List.replicate 8193 1)) .requestBody true .sync
      sampleState :=
  (body_arrives_whole_iff acceptingEnvironment (fun _ _ => rfl) .traefik
    (List.replicate 8193 1) (by rw [List.length_replicate]; decide)
    .requestBody true .sync sampleState).mpr
      (by rw [List.length_replicate]; decide)

/-- The body sender does not return from a body of two megabytes. -/
theorem long_body_never_arrives :
    ¬BodyArrives acceptingEnvironment (List.replicate 2097152 0)
      (FrontEnd.kong.chunks (List.replicate 2097152 0)) .requestBody true .sync
      sampleState :=
  not_bodyArrives_of_long (fun _ _ => rfl) .kong
    (by rw [List.length_replicate]; decide) .requestBody true .sync sampleState

end Samples

end OpenAppsec.Nano
