import OpenAppsec.Attachment.InjectRecords
import OpenAppsec.Attachment.VerdictTable
import OpenAppsec.Library.SharedReads
import OpenAppsec.Ring.Consumption
import OpenAppsec.Ring.Footprints
import OpenAppsec.Ring.Publication

/-!
# Verdicts popped from the reply queue

The asynchronous attachment peeks a reply, pops it, and only then reads its
fields through the pointer that the peek handed out.  The service pushes at
any time.  The reset of the attachment's configuration, which a
reconfiguration causes, is left out.
-/

namespace OpenAppsec

def ServiceVerdict.ofCode : Nat → ServiceVerdict
  | 0 => .inspect
  | 1 => .accept
  | 2 => .drop
  | 3 => .inject
  | 4 => .irrelevant
  | 5 => .reconf
  | 6 => .delayed
  | 7 => .limitResponseHeaders
  | 8 => .customResponse
  | code => .other code

namespace Nano

open LengthPrefixed ReadProgram

/-- A decoded web response with its `data`.  The `uuid` of a response code
alone is not set, and that of a custom response with headers is empty. -/
inductive DecodedWebResponse where
  | customWebResponse (uuid : List UInt8) (responseCode : Nat)
      (title body : List UInt8)
  | responseCodeOnly (responseCode : Nat)
  | redirectWebResponse (uuid redirectLocation : List UInt8)
  | customResponseWithHeaders (responseCode : Nat)
      (headers : List (List UInt8 × List UInt8)) (body : List UInt8)
  deriving DecidableEq

structure PoppedResponse where
  verdict : AttachmentVerdict
  sessionId : SessionID
  webResponseData : Option DecodedWebResponse
  modifications : Pointer
  deriving DecidableEq

def uuidSize : Nat := 64

def customResponseTitleSize : Nat := 64

def customResponseBodySize : Nat := 128

def redirectResponseLocationSize : Nat := 512

def incidentPrefix : List UInt8 :=
  "Incident Id: ".toUTF8.toList

/-- A little-endian field. -/
def field (address width : Nat) : ReadProgram Nat :=
  (fun bytes => Nat.ofDigits 256 (bytes.map UInt8.toNat)) <$>
    block address width

@[simp] theorem eval_field (memory : ByteMemory) (address width : Nat) :
    (field address width).eval memory = numberAt memory address width := by
  simp [field, numberAt]

/-- The allocations are numbered in the order in which they are made. -/
def handleCustomWebResponse (malloc : Nat → Bool) (webResponse : Nat) :
    ReadProgram (Option DecodedWebResponse) := do
  let uuidLen ← field (webResponse + 1) 1
  if uuidLen ≥ uuidSize then return none
  let titleLen ← field (webResponse + 4) 1
  if titleLen ≥ customResponseTitleSize then return none
  let bodyLen ← field (webResponse + 5) 1
  if bodyLen ≥ customResponseBodySize then return none
  if !malloc 0 then return none
  if !malloc 1 then return none
  let responseCode ← field (webResponse + 2) 2
  if titleLen = 0 ∨ bodyLen = 0 then
    return some (.responseCodeOnly responseCode)
  let title ← block (webResponse + 6) titleLen
  let body ← block (webResponse + 6 + titleLen) bodyLen
  let uuid ← block (webResponse + 6 + titleLen + bodyLen) uuidLen
  return some (.customWebResponse (incidentPrefix ++ uuid) responseCode title
    body)

def handleRedirectResponse (malloc : Nat → Bool) (webResponse : Nat) :
    ReadProgram (Option DecodedWebResponse) := do
  let uuidLen ← field (webResponse + 1) 1
  if uuidLen ≥ uuidSize then return none
  let locationLen ← field (webResponse + 4) 2
  if locationLen ≥ redirectResponseLocationSize then return none
  if !malloc 0 then return none
  if !malloc 1 then return none
  let redirectLocation ← block (webResponse + 6) locationLen
  let uuid ← block (webResponse + 6 + locationLen) uuidLen
  return some (.redirectWebResponse uuid redirectLocation)

def handleDropResponse (malloc : Nat → Bool) (webResponse : Nat) :
    ReadProgram (Option DecodedWebResponse) := do
  match ← field webResponse 1 with
  | 0 => handleCustomWebResponse malloc webResponse
  | 3 => handleRedirectResponse malloc webResponse
  | _ =>
      -- The debug line reads the type again.
      let _ ← field webResponse 1
      return none

/-- The loop over the headers, from the allocation with the given number: the
headers and the address behind them. -/
def packedHeaders (malloc : Nat → Bool) (memory : ByteMemory) :
    Nat → Nat → Nat → Option (List (List UInt8 × List UInt8) × Nat)
  | _, dataPtr, 0 => some ([], dataPtr)
  | index, dataPtr, headersCount + 1 => do
      let keySize := numberAt memory dataPtr 2
      let valueSize := numberAt memory (dataPtr + 2) 2
      guard (malloc index)
      let key := memory.read (dataPtr + 4) keySize
      guard (malloc (index + 1))
      let value := memory.read (dataPtr + 4 + keySize) valueSize
      let (headers, dataPtr) ← packedHeaders malloc memory (index + 2)
        (dataPtr + 4 + keySize + valueSize) headersCount
      return ((key, value) :: headers, dataPtr)

/-- `handle_custom_response_with_headers`, which only the synchronous receiver
calls, before its pop. -/
def handleCustomResponseWithHeaders (malloc : Nat → Bool)
    (memory : ByteMemory) (customResponse : Nat) :
    Option DecodedWebResponse := do
  let bodySize := numberAt memory (customResponse + 2) 2
  let headersCount := numberAt memory (customResponse + 4) 1
  guard (malloc 0)
  guard (malloc 1)
  let responseCode := numberAt memory customResponse 2
  guard (headersCount = 0 ∨ malloc 2)
  let (headers, dataPtr) ← packedHeaders malloc memory 3
    (customResponse + 5) headersCount
  guard (bodySize = 0 ∨ malloc (3 + 2 * headersCount))
  return .customResponseWithHeaders responseCode headers
    (memory.read dataPtr bodySize)

/-- `verdict` of a reply. -/
def verdictField (reply : Nat) : ReadProgram ServiceVerdict :=
  ServiceVerdict.ofCode <$> field reply 2

/-- `session_id` of a reply. -/
def sessionField (reply : Nat) : ReadProgram SessionID :=
  BitVec.ofNat 32 <$> field (reply + 2) 4

/-- The address of `modify_data` of a reply. -/
def modifyData (reply : Nat) : Nat := reply + 7

/-- The response of `PopResponseVerdictFromQueue` if it pops nothing. -/
def noResponse : PoppedResponse :=
  { verdict := .inspect
    sessionId := 0
    webResponseData := none
    modifications := 0 }

/-- What `PopResponseVerdictFromQueue` does after its pop. -/
def readReply (malloc : Nat → Bool) (reply : Nat) :
    ReadProgram PoppedResponse := do
  let response := { noResponse with sessionId := ← sessionField reply }
  -- The debug line of every verdict.
  let _ ← sessionField reply
  let _ ← verdictField reply
  match ← verdictField reply with
  | .inspect => return { response with verdict := .inspect }
  | .accept => return { response with verdict := .accept }
  | .drop =>
      let _ ← sessionField reply
      let webResponseData ← handleDropResponse malloc (modifyData reply)
      return { response with verdict := .drop, webResponseData }
  | .inject => return { response with verdict := .inspect }
  | .reconf => return { response with verdict := .inspect, sessionId := 0 }
  | .delayed =>
      let _ ← sessionField reply
      return { response with verdict := .delayed }
  | .irrelevant | .limitResponseHeaders | .customResponse | .other _ =>
      let _ ← sessionField reply
      let _ ← verdictField reply
      return { response with verdict := .inspect }

open OpenAppsec.Ring

/-- A step of the service on the reply queue. -/
inductive ServiceStep where
  | beginPush (inputBuffers : List (List UInt8))
  | publish

def ServiceStep.spscStep : ServiceStep → SpscStep
  | beginPush inputBuffers => .beginPush inputBuffers
  | publish => .publish

def serviceStep (state : Interleaving) (step : ServiceStep) :
    SpscReport × Interleaving :=
  state.step step.spscStep

def afterService (state : Interleaving) (steps : List ServiceStep) :
    Interleaving :=
  (Trace.run serviceStep state steps).2

/-- A call of the attachment on the reply queue. -/
def consume (state : Interleaving) (call : QueueCall) :
    QueueAnswer × Interleaving :=
  let (answer, consumer) := state.consumer.serve state.queue call
  (answer, { state with consumer, queue := answer.queue })

/-- What the service does before each step of `PopResponseVerdictFromQueue`;
the reads of the fields are numbered. -/
structure PopSchedule where
  beforeTest : List ServiceStep
  beforePeek : List ServiceStep
  beforePop : List ServiceStep
  beforeRead : Nat → List ServiceStep

namespace PopSchedule

variable (schedule : PopSchedule) (state : Interleaving)

def tested : QueueAnswer × Interleaving :=
  consume (afterService state schedule.beforeTest) .isQueueEmpty

def peeked : QueueAnswer × Interleaving :=
  consume (afterService (schedule.tested state).2 schedule.beforePeek)
    .peekToQueue

def atPop : Interleaving :=
  afterService (schedule.peeked state).2 schedule.beforePop

def popped : QueueAnswer × Interleaving :=
  consume (schedule.atPop state) .popFromQueue

/-- The state after the reads with smaller numbers. -/
def afterReads : Nat → Interleaving
  | 0 => (schedule.popped state).2
  | index + 1 =>
      afterService (afterReads index) (schedule.beforeRead index)

/-- The address of the reply that is peeked and popped, if one is. -/
def poppedReply : Option Nat :=
  if (schedule.tested state).1.code ≠ 0 then none
  else if (schedule.peeked state).1.code < 0 then none
  else
    match (schedule.peeked state).1.output with
    | none => none
    | some (reply, _) =>
        if (schedule.popped state).1.code < 0 then none else some reply

end PopSchedule

/-- `PopResponseVerdictFromQueue` on an attachment with a service queue. -/
def popResponseVerdictFromQueue (malloc : Nat → Bool)
    (schedule : PopSchedule) (state : Interleaving) : PoppedResponse :=
  match schedule.poppedReply state with
  | none => noResponse
  | some reply =>
      (readReply malloc reply).run fun index =>
        (schedule.afterReads state (index + 1)).queue.bytes

def messageVerdict (memory : ByteMemory) (reply : Nat) : ServiceVerdict :=
  .ofCode (numberAt memory reply 2)

def messageSession (memory : ByteMemory) (reply : Nat) : SessionID :=
  BitVec.ofNat 32 (numberAt memory (reply + 2) 4)

/-- The verdict as `service_reply_receiver` treats it. -/
def synchronousVerdict : ServiceVerdict → AttachmentVerdict
  | .accept => .accept
  | .drop | .customResponse => .drop
  | .delayed => .delayed
  | .inspect | .inject | .irrelevant | .reconf | .limitResponseHeaders
  | .other _ => .inspect

/-- The web response that a message encodes, with the decoders of
`service_reply_receiver`. -/
def messageWebResponse (malloc : Nat → Bool) (memory : ByteMemory)
    (reply : Nat) : Option DecodedWebResponse :=
  match messageVerdict memory reply with
  | .drop => (handleDropResponse malloc (modifyData reply)).eval memory
  | .customResponse =>
      handleCustomResponseWithHeaders malloc memory (modifyData reply)
  | _ => none

/-- The response is that of the message. -/
structure PoppedResponse.Reports (response : PoppedResponse)
    (malloc : Nat → Bool) (memory : ByteMemory) (reply : Nat) : Prop where
  verdict : response.verdict =
    synchronousVerdict (messageVerdict memory reply)
  sessionId : response.sessionId = messageSession memory reply
  webResponseData : response.webResponseData =
    messageWebResponse malloc memory reply

instance (response : PoppedResponse) (malloc : Nat → Bool)
    (memory : ByteMemory) (reply : Nat) :
    Decidable (response.Reports malloc memory reply) :=
  decidable_of_iff
    (response.verdict = synchronousVerdict (messageVerdict memory reply) ∧
      response.sessionId = messageSession memory reply ∧
      response.webResponseData = messageWebResponse malloc memory reply)
    ⟨fun ⟨verdict, sessionId, webResponseData⟩ =>
        ⟨verdict, sessionId, webResponseData⟩,
      fun reports =>
        ⟨reports.verdict, reports.sessionId, reports.webResponseData⟩⟩

/-- On a memory that stands still, the pop reports the message unless it is a
custom response, or a reconfiguration that names a session. -/
theorem readReply_reports_iff (malloc : Nat → Bool) (memory : ByteMemory)
    (reply : Nat) :
    ((readReply malloc reply).eval memory).Reports malloc memory reply ↔
      messageVerdict memory reply ≠ .customResponse ∧
        (messageVerdict memory reply = .reconf →
          messageSession memory reply = 0) := by
  have verdict : (verdictField reply).eval memory =
      messageVerdict memory reply := by
    simp [verdictField, messageVerdict]
  have session : (sessionField reply).eval memory =
      messageSession memory reply := by
    simp [sessionField, messageSession]
  constructor
  · intro reports
    constructor
    · intro custom
      have reported := reports.verdict
      simp [readReply, verdict, custom, synchronousVerdict] at reported
    · intro reconf
      have reported := reports.sessionId
      simp [readReply, verdict, reconf] at reported
      exact reported.symm
  · rintro ⟨noCustom, noSession⟩
    constructor
    · cases found : messageVerdict memory reply with
      | customResponse => exact absurd found noCustom
      | _ => simp [readReply, verdict, found, synchronousVerdict, noResponse]
    · cases found : messageVerdict memory reply with
      | customResponse => exact absurd found noCustom
      | reconf => simp [readReply, verdict, found, noSession found]
      | _ => simp [readReply, verdict, session, found]
    · cases found : messageVerdict memory reply with
      | customResponse => exact absurd found noCustom
      | _ => simp [readReply, verdict, found, messageWebResponse, noResponse]

/-- The push writes no byte of the blocks. -/
def SparedBy (limits : Limits) (blocks : List (Nat × Nat))
    (state : Interleaving) : ServiceStep → Prop
  | .beginPush inputBuffers =>
      state.unpublished = none → ∀ block ∈ blocks, ∀ offset < block.2,
        ¬(pushFootprint limits state.queue inputBuffers).Covers
          (block.1 + offset)
  | .publish => True

instance (limits : Limits) (blocks : List (Nat × Nat)) (state : Interleaving)
    (step : ServiceStep) : Decidable (SparedBy limits blocks state step) := by
  cases step <;> unfold SparedBy Footprint.Covers <;> infer_instance

/-- Neither the pop nor a push between the peek and the last read writes a
byte of the reply that is still to be read. -/
structure PopSchedule.Spares (schedule : PopSchedule) (limits : Limits)
    (state : Interleaving) (blocks : List (Nat × Nat)) : Prop where
  beforePop : Trace.Along serviceStep (SparedBy limits blocks)
    (schedule.peeked state).2 schedule.beforePop
  pop : ∀ block ∈ blocks, ∀ offset < block.2,
    ¬(footprint limits (schedule.atPop state).queue .popFromQueue).Covers
      (block.1 + offset)
  beforeRead : ∀ index < blocks.length,
    Trace.Along serviceStep (SparedBy limits (blocks.drop index))
      (schedule.afterReads state index) (schedule.beforeRead index)

/-- The parties know the queue, and the blocks have the bytes that they had in
this memory. -/
structure Unchanged (limits : Limits) (memory : ByteMemory)
    (blocks : List (Nat × Nat)) (state : Interleaving) : Prop where
  producer : state.producer.Registered state.queue.sharedLocationName limits
  consumer : state.consumer.Registered state.queue.sharedLocationName limits
  bytes : ∀ block ∈ blocks, ∀ offset < block.2,
    state.queue.bytes (block.1 + offset) = memory (block.1 + offset)

section Unchanged

variable {limits : Limits} {memory : ByteMemory} {state : Interleaving}
  {blocks : List (Nat × Nat)}

variable (unchanged : Unchanged limits memory blocks state)

include unchanged

theorem Unchanged.serviceStep (step : ServiceStep)
    (spared : SparedBy limits blocks state step) :
    Unchanged limits memory blocks (serviceStep state step).2 := by
  cases step with
  | publish =>
      simp only [Nano.serviceStep, ServiceStep.spscStep]
      cases pending : state.unpublished with
      | some writePos =>
          simp only [Interleaving.step, pending]
          exact ⟨unchanged.producer, unchanged.consumer, unchanged.bytes⟩
      | none =>
          simp only [Interleaving.step, pending]
          exact unchanged
  | beginPush inputBuffers =>
      simp only [Nano.serviceStep, ServiceStep.spscStep]
      cases pending : state.unpublished with
      | some writePos =>
          simp only [Interleaving.step, pending]
          exact unchanged
      | none =>
          obtain ⟨answer, registered⟩ := Party.serve_eq unchanged.producer
            (.pushBuffersToQueue inputBuffers)
          have name := serve_sharedLocationName limits state.queue
            (.pushBuffersToQueue inputBuffers)
          rw [name] at registered
          have frame : ∀ block ∈ blocks, ∀ offset < block.2,
              (serve limits state.queue
                (.pushBuffersToQueue inputBuffers)).queue.bytes
                  (block.1 + offset) =
                memory (block.1 + offset) := by
            intro block member offset inside
            rw [serve_frame (.pushBuffersToQueue inputBuffers)
              (spared pending block member offset inside)]
            exact unchanged.bytes block member offset inside
          simp only [Interleaving.step, pending, answer]
          split
          · exact ⟨name ▸ registered, name ▸ unchanged.consumer, frame⟩
          · exact ⟨registered, unchanged.consumer, unchanged.bytes⟩

theorem Unchanged.afterService {steps : List ServiceStep}
    (spared : Trace.Along Nano.serviceStep (SparedBy limits blocks) state
      steps) :
    Unchanged limits memory blocks (afterService state steps) :=
  Trace.run_invariant _ (Unchanged limits memory blocks)
    (fun _ step holds spares => holds.serviceStep step spares) unchanged
    spared

theorem Unchanged.consume (call : QueueCall)
    (spared : ∀ block ∈ blocks, ∀ offset < block.2,
      ¬(footprint limits state.queue call).Covers (block.1 + offset)) :
    Unchanged limits memory blocks (consume state call).2 := by
  obtain ⟨answer, registered⟩ := Party.serve_eq unchanged.consumer call
  have name := serve_sharedLocationName limits state.queue call
  rw [name] at registered
  simp only [Nano.consume, answer]
  refine ⟨name ▸ unchanged.producer, name ▸ registered, ?_⟩
  intro block member offset inside
  rw [serve_frame _ (spared block member offset inside)]
  exact unchanged.bytes block member offset inside

theorem Unchanged.mono {fewer : List (Nat × Nat)} (subset : fewer ⊆ blocks) :
    Unchanged limits memory fewer state where
  producer := unchanged.producer
  consumer := unchanged.consumer
  bytes := fun block member => unchanged.bytes block (subset member)

omit unchanged

theorem Unchanged.rebase (unchanged : Unchanged limits memory [] state)
    (blocks : List (Nat × Nat)) :
    Unchanged limits state.queue.bytes blocks state where
  producer := unchanged.producer
  consumer := unchanged.consumer
  bytes := fun _ _ _ _ => rfl

include unchanged in
theorem Unchanged.read_eq {block : Nat × Nat} (member : block ∈ blocks) :
    state.queue.bytes.read block.1 block.2 =
      memory.read block.1 block.2 := by
  apply List.map_congr_left
  intro offset inside
  exact unchanged.bytes block member offset (List.mem_range.mp inside)

end Unchanged

section Runs

variable {limits : Limits} {schedule : PopSchedule} {state : Interleaving}
  {blocks : List (Nat × Nat)}

theorem PopSchedule.unchanged_peeked
    (producer : state.producer.Registered state.queue.sharedLocationName
      limits)
    (consumer : state.consumer.Registered state.queue.sharedLocationName
      limits) :
    Unchanged limits (schedule.peeked state).2.queue.bytes blocks
      (schedule.peeked state).2 := by
  have anything (state : Interleaving) (steps : List ServiceStep) :
      Trace.Along serviceStep (SparedBy limits []) state steps := by
    apply Trace.along_of_forall
    intro state step
    cases step with
    | beginPush inputBuffers => simp [SparedBy]
    | publish => trivial
  have start : Unchanged limits state.queue.bytes [] state :=
    ⟨producer, consumer, fun _ member => by cases member⟩
  have tested := (start.afterService (anything _ schedule.beforeTest)).consume
    .isQueueEmpty (fun _ member => by cases member)
  have peeked := (tested.afterService
    (anything _ schedule.beforePeek)).consume .peekToQueue
    (fun _ member => by cases member)
  exact peeked.rebase blocks

theorem PopSchedule.Spares.afterReads
    (spared : schedule.Spares limits state blocks)
    (producer : state.producer.Registered state.queue.sharedLocationName
      limits)
    (consumer : state.consumer.Registered state.queue.sharedLocationName
      limits) {index : Nat} (inside : index ≤ blocks.length) :
    Unchanged limits (schedule.peeked state).2.queue.bytes
      (blocks.drop (index - 1)) (schedule.afterReads state index) := by
  have popped : Unchanged limits (schedule.peeked state).2.queue.bytes blocks
      (schedule.popped state).2 :=
    ((schedule.unchanged_peeked producer consumer).afterService
      spared.beforePop).consume .popFromQueue spared.pop
  induction index with
  | zero => exact popped
  | succ index induction =>
      have before := (induction (by omega)).mono
        (List.drop_subset_drop_left blocks (Nat.sub_le index 1))
      exact before.afterService (spared.beforeRead index inside)

end Runs

/-- A ring of four segments, and a party that knows it on either side. -/
def quietRing : Interleaving :=
  .start (ownerOf 4) (ownerOf 4) emptyShmObject.queue ['q'] 4 5202 3

/-- A reply without modifications, as it lies in the queue. -/
def packedReply (verdict sessionId : Nat) (modifyData : List UInt8) :
    List UInt8 :=
  littleEndian 2 verdict ++ littleEndian 4 sessionId ++ [0] ++ modifyData

/-- The reply is in the queue when the pop begins, and these are pushed between
the pop and the first read. -/
def popThenPush (reply : List UInt8) (later : List (List UInt8)) :
    PopSchedule where
  beforeTest := [.beginPush [reply], .publish]
  beforePeek := []
  beforePop := []
  beforeRead := fun index =>
    if index = 0 then
      later.flatMap fun reply => [.beginPush [reply], .publish]
    else []

end Nano

end OpenAppsec
