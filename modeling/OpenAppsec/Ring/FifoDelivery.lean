import OpenAppsec.Ring.Contents
import OpenAppsec.Ring.Creation

/-!
# First-in first-out delivery

A run mixes pushes with consumer steps, each a peek followed by a pop.  As
long as no push overtakes the reader, the messages delivered so far followed
by the messages still in the ring are the messages accepted so far.
-/

namespace OpenAppsec

open Ring

namespace Ring

/-- A step of the producer or of the consumer. -/
inductive ChannelStep where
  | pushBuffersToQueue (inputBuffers : List (List UInt8))
  | pushToQueue (inputBuffer : List UInt8)
  | consume

/-- What a step reports; a consumer reads the payload between its calls. -/
inductive StepReport where
  | pushed (code : Int)
  | consumed (peekCode : Int) (payload : Option (List UInt8)) (popCode : Int)

namespace ChannelStep

/-- The fragments that a producer step pushes. -/
def buffers : ChannelStep → Option (List (List UInt8))
  | pushBuffersToQueue inputBuffers => some inputBuffers
  | pushToQueue inputBuffer => some [inputBuffer]
  | consume => none

/-- Every push carries at least one byte. -/
def HasPayload (step : ChannelStep) : Prop :=
  ∀ fragments ∈ step.buffers, fragments.flatten ≠ []

instance (step : ChannelStep) : Decidable step.HasPayload :=
  inferInstanceAs (Decidable (∀ fragments ∈ step.buffers, _))

/-- The step is not a push that overtakes the reader. -/
def StaysBehind (numOfDataSegments segmentSize : Nat)
    (queue : SharedRingQueue) (step : ChannelStep) : Prop :=
  ∀ fragments ∈ step.buffers,
    ¬OvertakesReader numOfDataSegments segmentSize queue fragments

instance (numOfDataSegments segmentSize : Nat) (queue : SharedRingQueue)
    (step : ChannelStep) :
    Decidable (step.StaysBehind numOfDataSegments segmentSize queue) :=
  inferInstanceAs (Decidable (∀ fragments ∈ step.buffers, _))

/-- The payload that a step adds to the channel. -/
def accepted : ChannelStep → StepReport → List (List UInt8)
  | pushBuffersToQueue inputBuffers, .pushed code =>
      if code = 0 then [inputBuffers.flatten] else []
  | pushToQueue inputBuffer, .pushed code =>
      if code = 0 then [inputBuffer] else []
  | _, _ => []

/-- The payload that a step takes from the channel. -/
def delivered : ChannelStep → StepReport → List (List UInt8)
  | _, .consumed peekCode payload _ =>
      if peekCode = 0 then payload.toList else []
  | _, _ => []

/-- One atomic step, in terms of the calls of either generation. -/
def perform {σ : Type} (serve : σ → QueueCall → QueueAnswer × σ) (state : σ)
    (step : ChannelStep) : StepReport × σ :=
  match step with
  | pushBuffersToQueue inputBuffers =>
      let (answer, state) := serve state (.pushBuffersToQueue inputBuffers)
      (.pushed answer.code, state)
  | pushToQueue inputBuffer =>
      let (answer, state) := serve state (.pushToQueue inputBuffer)
      (.pushed answer.code, state)
  | consume =>
      let (peeked, state) := serve state .peekToQueue
      let payload := peeked.output.map (payloadAt peeked.queue)
      let (popped, state) := serve state .popFromQueue
      (.consumed peeked.code payload popped.code, state)

end ChannelStep

/-- The core operations as a system. -/
def serveQueue (limits : Limits) (queue : SharedRingQueue)
    (call : QueueCall) : QueueAnswer × SharedRingQueue :=
  (serve limits queue call, (serve limits queue call).queue)

section Channel

variable {g : Geometry} {memorySize : Int} {queue : SharedRingQueue}
variable {messages : List (List UInt8)}

theorem Holds.consume (holds : Holds g memorySize queue messages) :
    let step := ChannelStep.consume.perform
      (serveQueue (g.limits memorySize)) queue
    ChannelStep.consume.delivered step.1 = messages.head?.toList ∧
      Holds g memorySize step.2 messages.tail := by
  cases messages with
  | nil =>
      have empty := holds.eq_nil_iff.mp rfl
      have inside := holds.body.readPos_lt
      simp only [ChannelStep.perform, serveQueue, serve,
        holds.header.peek_empty inside empty,
        holds.header.pop_empty inside empty]
      exact ⟨rfl, holds⟩
  | cons payload rest =>
      obtain ⟨code, output, moved, head⟩ := holds.peek
      obtain ⟨_, released⟩ := moved.pop head
      simp only [ChannelStep.perform, serveQueue, serve, code, output,
        ChannelStep.delivered, if_true]
      exact ⟨rfl, released⟩

theorem Holds.perform (holds : Holds g memorySize queue messages)
    (step : ChannelStep) (nonempty : step.HasPayload)
    (behind : step.StaysBehind g.count g.segmentSize queue) :
    let performed := step.perform (serveQueue (g.limits memorySize)) queue
    ∃ left, Holds g memorySize performed.2 left ∧
      messages ++ step.accepted performed.1 =
        step.delivered performed.1 ++ left := by
  have pushed : ∀ fragments ∈ step.buffers,
      let pushed := Ring.push (g.limits memorySize) queue fragments
      ∃ left, Holds g memorySize pushed.2 left ∧
        messages ++ (if pushed.1 = 0 then [fragments.flatten] else []) =
          left := by
    intro fragments carries
    rcases holds.push (nonempty fragments carries)
      (behind fragments carries) with ⟨accepted, _, after⟩ | ⟨refused, same⟩
    · exact ⟨_, after, by rw [if_pos accepted]⟩
    · refine ⟨messages, ?_, by rw [if_neg refused, List.append_nil]⟩
      rw [same]
      exact holds
  cases step with
  | pushBuffersToQueue inputBuffers => exact pushed inputBuffers rfl
  | pushToQueue inputBuffer =>
      obtain ⟨left, after, law⟩ := pushed [inputBuffer] rfl
      refine ⟨left, after, ?_⟩
      rw [List.flatten_singleton] at law
      exact law
  | consume =>
      obtain ⟨taken, after⟩ := holds.consume
      refine ⟨messages.tail, after, ?_⟩
      rw [taken]
      cases messages <;> simp [ChannelStep.accepted]

theorem ChannelStep.perform_congr {σ : Type}
    {implementation : σ → QueueCall → QueueAnswer × σ} {limits : Limits}
    (related : σ → SharedRingQueue → Prop)
    (calls : ∀ state queue call, related state queue →
      (implementation state call).1 = serve limits queue call ∧
        related (implementation state call).2
          (serve limits queue call).queue)
    {state : σ} {queue : SharedRingQueue} (same : related state queue)
    (step : ChannelStep) :
    (step.perform implementation state).1 =
        (step.perform (serveQueue limits) queue).1 ∧
      related (step.perform implementation state).2
        (step.perform (serveQueue limits) queue).2 := by
  cases step with
  | pushBuffersToQueue inputBuffers =>
      obtain ⟨answer, after⟩ :=
        calls state queue (.pushBuffersToQueue inputBuffers) same
      exact ⟨by simp only [perform, serveQueue, answer], after⟩
  | pushToQueue inputBuffer =>
      obtain ⟨answer, after⟩ := calls state queue (.pushToQueue inputBuffer)
        same
      exact ⟨by simp only [perform, serveQueue, answer], after⟩
  | consume =>
      obtain ⟨peeked, afterPeek⟩ := calls state queue .peekToQueue same
      obtain ⟨popped, afterPop⟩ := calls _ _ .popFromQueue afterPeek
      exact ⟨by simp only [perform, serveQueue, peeked, popped], afterPop⟩

end Channel

end Ring

namespace ShmemIpc

variable {host : Host} {state : Process × SharedRingQueue}

/-- A process that serves a queue storing the given messages. -/
def Serves (host : Host) (g : Geometry) (memorySize : Int)
    (state : Process × SharedRingQueue) (messages : List (List UInt8)) :
    Prop :=
  Registered host state.1 state.2.sharedLocationName
      (g.limits memorySize) ∧
    Holds g memorySize state.2 messages

theorem perform_eq {limits : Limits}
    (registered :
      Registered host state.1 state.2.sharedLocationName limits)
    (step : ChannelStep) :
    let performed := step.perform (serve host) state
    let expected := step.perform (serveQueue limits) state.2
    performed.1 = expected.1 ∧ performed.2.2 = expected.2 ∧
      Registered host performed.2.1 performed.2.2.sharedLocationName
        limits := by
  have simulated := ChannelStep.perform_congr
    (fun (state : Process × SharedRingQueue) queue =>
      state.2 = queue ∧
        Registered host state.1 state.2.sharedLocationName limits)
    (fun state queue call same => by
      obtain ⟨rfl, registered⟩ := same
      exact serve_eq state registered call)
    ⟨rfl, registered⟩ step
  exact simulated

theorem Serves.perform {g : Geometry} {memorySize : Int}
    {messages : List (List UInt8)}
    (serves : Serves host g memorySize state messages) (step : ChannelStep)
    (nonempty : step.HasPayload)
    (behind : step.StaysBehind g.count g.segmentSize state.2) :
    let performed := step.perform (serve host) state
    ∃ left, Serves host g memorySize performed.2 left ∧
      messages ++ step.accepted performed.1 =
        step.delivered performed.1 ++ left := by
  obtain ⟨report, queueEq, registered⟩ := perform_eq serves.1 step
  obtain ⟨left, after, law⟩ := serves.2.perform step nonempty behind
  refine ⟨left, ⟨registered, ?_⟩, ?_⟩
  · rw [queueEq]
    exact after
  · rw [report]
    exact law

theorem Serves.run {g : Geometry} {memorySize : Int} {steps : List ChannelStep}
    (serves : Serves host g memorySize state [])
    (nonempty : ∀ step ∈ steps, step.HasPayload)
    (behind : Trace.Along (ChannelStep.perform (serve host))
      (fun state step => step.StaysBehind g.count g.segmentSize state.2)
      state steps) :
    let run := Trace.run (ChannelStep.perform (serve host)) state steps
    ∃ undelivered, Serves host g memorySize run.2 undelivered ∧
      Trace.collect ChannelStep.accepted steps run.1 =
        Trace.collect ChannelStep.delivered steps run.1 ++ undelivered := by
  have conserved := Trace.run_conservation
    (fun (state : Process × SharedRingQueue) (step : ChannelStep) =>
      step.HasPayload ∧ step.StaysBehind g.count g.segmentSize state.2)
    (Serves host g memorySize) ChannelStep.accepted ChannelStep.delivered
    (fun _ step _ serves guard => serves.perform step guard.1 guard.2)
    serves (behind.and_of_mem nonempty)
  simpa only [List.nil_append] using conserved

theorem serves_created {calls : SystemCalls} {process : Process}
    {shm : ShmStore} {name : CString} {g : Geometry} {created : Creation}
    {object : ShmObject}
    (creation : createSharedRingQueue host calls process shm name g.count
      true = created) (opened : created.opened = true)
    (mapped : created.shm name = some object)
    (short : name.length < maxOneWayQueueNameLength) (positive : 0 < g.count)
    (segmentSize : (getEffectiveSegmentSize host created.process).1 =
      g.segmentSize)
    (entrySize : (getEffectiveEntrySize host created.process).1 =
      g.segmentSize) :
    Serves host g object.queue.sizeOfMemory
      (created.process, object.queue) [] := by
  subst creation
  obtain ⟨fd, found, _, facts⟩ := createSharedRingQueue_opened short opened
  obtain ⟨initialized, cached⟩ := getEffectiveSegmentSize_initialized host
    (sizingProcess host calls process found true)
  have ready : (createSharedRingQueue host calls process shm name g.count
      true).process.gEffectiveSizeInitialized = true := by
    rw [facts.process_eq]
    exact initialized
  have queueEq := facts.mapped
  rw [mapped, Option.some.injEq] at queueEq
  rw [queueEq]
  constructor
  · rw [getEffectiveSegmentSize_of_initialized ready] at segmentSize
    refine .of_initialized ?_ ready segmentSize entrySize
    have located : ∀ size, (openedQueue found name g.count size fd
        true).sharedLocationName = name :=
      fun _ => snprintfName_of_short short
    dsimp only
    rw [located]
    exact ⟨_, facts.params, rfl, rfl⟩
  · exact initializeQueue_holds g _ name _ fd positive

/-- First-in first-out delivery from a freshly created queue.  The payloads
delivered, followed by the payloads still undelivered, are the payloads
accepted; the queue is empty exactly when nothing is undelivered; and the next
consumer step delivers the first undelivered payload. -/
theorem fifo_delivery (host : Host) (calls : SystemCalls)
    (process : Process) (shm : ShmStore) (name : CString)
    (numOfDataSegments : Nat) (created : Creation) (object : ShmObject)
    (creation : createSharedRingQueue host calls process shm name
      numOfDataSegments true = created)
    (opened : created.opened = true)
    (mapped : created.shm name = some object)
    (short : name.length < maxOneWayQueueNameLength)
    (several : 2 ≤ numOfDataSegments)
    (sameSize : (getEffectiveEntrySize host created.process).1 =
      (getEffectiveSegmentSize host created.process).1)
    (fits : 2 * numOfDataSegments ≤
      (getEffectiveSegmentSize host created.process).1)
    (steps : List ChannelStep) (nonempty : ∀ step ∈ steps, step.HasPayload)
    (behind : Trace.Along (ChannelStep.perform (serve host))
      (fun state step => step.StaysBehind numOfDataSegments
        (getEffectiveSegmentSize host created.process).1 state.2)
      (created.process, object.queue) steps) :
    let run := Trace.run (ChannelStep.perform (serve host))
      (created.process, object.queue) steps
    ∃ undelivered,
      Trace.collect ChannelStep.accepted steps run.1 =
        Trace.collect ChannelStep.delivered steps run.1 ++ undelivered ∧
      (isQueueEmpty run.2.2 = true ↔ undelivered = []) ∧
      ChannelStep.consume.delivered
          (ChannelStep.consume.perform (serve host) run.2).1 =
        undelivered.head?.toList := by
  have positive : 0 < numOfDataSegments := by omega
  obtain ⟨_, _, _, facts⟩ :=
    createSharedRingQueue_opened short (creation ▸ opened)
  rw [creation] at facts
  have large : sharedMemorySegmentEntrySizeBC ≤
      (getEffectiveSegmentSize host created.process).1 := by
    rw [← sameSize]
    rcases getEffectiveEntrySize_of_reset host facts.ownerEntrySize with
      larger | smaller
    · rw [larger]
      decide
    · exact Nat.le_of_eq smaller.symm
  let g : Geometry := ⟨_, _, large, fits, facts.bounded⟩
  have initially : Serves host g object.queue.sizeOfMemory
      (created.process, object.queue) [] :=
    serves_created creation opened mapped short positive rfl sameSize
  obtain ⟨undelivered, atEnd, law⟩ := initially.run nonempty behind
  refine ⟨undelivered, law, ?_, ?_⟩
  · rw [atEnd.2.eq_nil_iff]
    exact decide_eq_true_iff
  · obtain ⟨report, _, _⟩ := perform_eq atEnd.1 ChannelStep.consume
    rw [report]
    exact atEnd.2.consume.1

theorem fifo_delivery_of_two_messages :
    let created := createSharedRingQueue dualDockerHost (.succeed 3)
      (Process.start fun _ => none) .empty ['q'] 4 true
    let queue := ((created.shm ['q']).getD emptyShmObject).queue
    let steps : List ChannelStep :=
      [.pushToQueue [1, 2], .consume, .pushBuffersToQueue [[3], [4]]]
    let run := Trace.run (ChannelStep.perform (serve dualDockerHost))
      (created.process, queue) steps
    ∃ undelivered,
      Trace.collect ChannelStep.accepted steps run.1 =
        Trace.collect ChannelStep.delivered steps run.1 ++ undelivered ∧
      (isQueueEmpty run.2.2 = true ↔ undelivered = []) ∧
      ChannelStep.consume.delivered
          (ChannelStep.consume.perform (serve dualDockerHost) run.2).1 =
        undelivered.head?.toList :=
  fifo_delivery dualDockerHost (.succeed 3) (Process.start fun _ => none)
    .empty ['q'] 4 _ _ rfl (by decide +kernel) rfl (by decide) (by decide)
    (by decide +kernel) (by decide +kernel) _ (by decide)
    (by decide +kernel)

/-- With the writer behind the reader, a message of two segments that reaches
the end of a ring of three is accepted over the unread message there. -/
theorem fifo_delivery_overtaken :
    let created := createSharedRingQueue dualDockerHost (.succeed 3)
      (Process.start fun _ => none) .empty ['q'] 3 true
    let queue := ((created.shm ['q']).getD emptyShmObject).queue
    let large := List.replicate 1025 (0 : UInt8)
    let steps : List ChannelStep :=
      [.pushToQueue large, .consume, .pushToQueue [1], .pushToQueue [2, 2],
        .pushToQueue large, .consume]
    let run := Trace.run (ChannelStep.perform (serve dualDockerHost))
      (created.process, queue) steps
    created.opened = true ∧
      (getEffectiveEntrySize dualDockerHost created.process).1 =
        (getEffectiveSegmentSize dualDockerHost created.process).1 ∧
      2 * 3 ≤ (getEffectiveSegmentSize dualDockerHost created.process).1 ∧
      (∀ step ∈ steps, step.HasPayload) ∧
      ¬Trace.collect ChannelStep.delivered steps run.1 <+:
        Trace.collect ChannelStep.accepted steps run.1 := by
  refine ⟨by decide +kernel, by decide +kernel, by decide +kernel,
    by decide +kernel, ?_⟩
  intro delivered
  have lengths := delivered.map List.length
  revert lengths
  decide +kernel

end ShmemIpc

end OpenAppsec
