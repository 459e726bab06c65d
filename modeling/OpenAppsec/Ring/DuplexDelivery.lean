import OpenAppsec.Library.MessageChannels
import OpenAppsec.Ring.CallRuns
import OpenAppsec.Ring.SharedMemoryIpc
import OpenAppsec.Ring.ShmemIpcQueues
import OpenAppsec.Ring.ShmemIpc2Queues

/-!
# Delivery over a connection

Whatever calls the two processes of a connection make, and in whatever order,
their answers are those of two independent first-in first-out channels, one
for each direction.  The processes may be linked with different generations of
the library.
-/

namespace OpenAppsec

open Ring MessageChannels

namespace Party

variable {party : Party}

theorem serve_registered {name : CString} {limits : Limits}
    (registered : party.Registered name limits) (queue : SharedRingQueue)
    (call : QueueCall) :
    (party.serve queue call).2.Registered name limits := by
  cases party with
  | shmemIpc host process =>
      exact ShmemIpc.serve_process host process queue call
        (fun process => ShmemIpc.Registered host process name limits)
        (fun _ registered => registered.afterSegment)
        (fun _ registered => registered.afterEntry) registered
  | shmemIpc2 host globalData process =>
      exact ShmemIpc2.serve_process host process globalData queue call
        (fun process => ShmemIpc2.Registered host process globalData limits)
        (fun _ registered => registered.cached) registered

/-- The party knows the queue of a direction under the given name. -/
def Locates (party : Party) (name : CString) (isTx : Bool) : Prop :=
  match party with
  | shmemIpc _ _ => True
  | shmemIpc2 _ globalData _ => globalData.location isTx = name

theorem serve_locates {name : CString} {isTx : Bool}
    (locates : party.Locates name isTx) (queue : SharedRingQueue)
    (call : QueueCall) : (party.serve queue call).2.Locates name isTx := by
  cases party with
  | shmemIpc host process => trivial
  | shmemIpc2 host globalData process => exact locates

theorem not_isCorruptedQueue {g : Geometry} {memorySize : Int}
    {queue : SharedRingQueue} {isTx : Bool} {messages : List (List UInt8)}
    (registered : party.Registered queue.sharedLocationName
      (g.limits memorySize))
    (locates : party.Locates queue.sharedLocationName isTx)
    (holds : Holds g memorySize queue messages) :
    party.isCorruptedQueue queue isTx = false := by
  have readInside := holds.body.readPos_lt
  have writeInside := holds.body.writePos_lt
  have count := holds.header.count
  have memory := holds.header.memory
  have readBounded : ¬(queue.readPos > g.count) := by omega
  have writeBounded : ¬(queue.writePos > g.count) := by omega
  cases party with
  | shmemIpc host process =>
      obtain ⟨params, found, sameCount, sameMemory⟩ := registered.params
      have named : params.locationName = queue.sharedLocationName := by
        have matched := List.find?_some found
        exact (ShmemIpc.QueueParams.isFor_iff.mp matched).2
      simp only [Geometry.limits] at sameCount sameMemory
      simp [isCorruptedQueue, ShmemIpc.isCorruptedQueue, found, sameCount,
        sameMemory, count, memory, named, readBounded, writeBounded]
  | shmemIpc2 host globalData process =>
      have sameCount := registered.count
      have sameMemory := registered.memorySize
      simp only [Geometry.limits] at sameCount sameMemory
      simp only [Locates, ShmemIpc2.SharedRingGlobalData.location] at locates
      simp [isCorruptedQueue, ShmemIpc2.isCorruptedQueue, sameCount,
        sameMemory, count, memory, locates, readBounded, writeBounded]

end Party

namespace Ring

variable {side : Side} {request : QueueCall} {buffers : List (List UInt8)}

/-- The queue that carries the messages of one side. -/
def channelQueue (name : CString) (sender : Side) : CString :=
  oneWayQueueName (!sender.isOwner) name

/-- What a call reports of the channels; the channel of a side carries what
that side sends. -/
def IpcCall.report (side : Side) (answer : IpcAnswer) :
    IpcCall → Option (Report Side (List UInt8))
  | sendData dataToSend =>
      some (if answer.code = 0 then .sent side dataToSend else .refused side)
  | sendChunkedData dataElemToSend =>
      some (if answer.code = 0 then .sent side dataElemToSend.flatten
        else .refused side)
  | receiveData => some (.seen side.other answer.receivedData)
  | popData => some (.taken side.other (answer.code = 0))
  | isDataAvailable => some (.asked side.other (answer.code ≠ 0))
  | isCorruptedShmem => none

/-- The reports of a run of calls. -/
def reports (calls : List (Side × IpcCall)) (answers : List IpcAnswer) :
    List (Report Side (List UInt8)) :=
  Trace.collect (fun call answer => (call.2.report call.1 answer).toList)
    calls answers

/-- A call meets the conditions under which its queue serves it. -/
def Connection.Clean (numOfDataSegments segmentSize : Nat)
    (connection : Connection) (input : Side × IpcCall) : Prop :=
  match input.2.request (connection.ipc input.1) with
  | some (some queue, request) => ∀ object ∈ connection.shm queue,
      request.Clean numOfDataSegments segmentSize object.queue
  | _ => True

instance (numOfDataSegments segmentSize : Nat) (connection : Connection)
    (input : Side × IpcCall) :
    Decidable (connection.Clean numOfDataSegments segmentSize input) := by
  unfold Connection.Clean
  split <;> infer_instance

section Served

variable {g : Geometry} {memorySize : Int} {queue : SharedRingQueue}
variable {messages : List (List UInt8)}

theorem Holds.serve_push (holds : Holds g memorySize queue messages)
    (nonempty : buffers.flatten ≠ [])
    (behind : ¬OvertakesReader g.count g.segmentSize queue buffers) :
    let pushed := Ring.push (g.limits memorySize) queue buffers
    Holds g memorySize pushed.2
      (if pushed.1 = 0 then messages ++ [buffers.flatten] else messages) := by
  rcases holds.push nonempty behind with ⟨accepted, _, after⟩ |
    ⟨refused, same⟩
  · simp only [accepted, if_true]
    exact after
  · simp only [if_neg refused, same]
    exact holds

theorem Holds.serve_peek (holds : Holds g memorySize queue messages) :
    let peeked := Ring.peek (g.limits memorySize) queue
    peeked.2.1.map (payloadAt peeked.2.2) = messages.head? ∧
      Holds g memorySize peeked.2.2 messages := by
  cases messages with
  | nil =>
      have empty := holds.eq_nil_iff.mp rfl
      rw [holds.header.peek_empty holds.body.readPos_lt empty]
      exact ⟨rfl, holds⟩
  | cons payload rest =>
      obtain ⟨_, output, moved, _⟩ := holds.peek
      exact ⟨output, moved⟩

theorem Holds.serve_pop (holds : Holds g memorySize queue messages)
    (announces : queue.readPos ≠ queue.writePos →
      AnnouncesMessage g.count g.segmentSize queue) :
    let popped := Ring.pop (g.limits memorySize) queue
    decide (popped.1 = 0) = !messages.isEmpty ∧
      Holds g memorySize popped.2 messages.tail := by
  cases messages with
  | nil =>
      have empty := holds.eq_nil_iff.mp rfl
      rw [holds.header.pop_empty holds.body.readPos_lt empty]
      exact ⟨rfl, holds⟩
  | cons payload rest =>
      have some : queue.readPos ≠ queue.writePos := by
        intro meet
        cases holds.eq_nil_iff.mpr meet
      obtain ⟨code, after⟩ := holds.pop_announced (announces some)
      simp only [code]
      exact ⟨rfl, after⟩

end Served

/-- Two processes that hold the two ends of a connection.  A queue is written
by one side and read by the other. -/
structure Joined (g : Geometry) (memorySize : Int) (name : CString)
    (connection : Connection) (contents : Side → List (List UInt8)) :
    Prop where
  rxQueue : ∀ side, (connection.ipc side).rxQueue =
    some (channelQueue name side.other)
  txQueue : ∀ side, (connection.ipc side).txQueue =
    some (channelQueue name side)
  apart : ∀ side, channelQueue name side ≠ channelQueue name side.other
  registered : ∀ side sender, (connection.party side).Registered
    (channelQueue name sender) (g.limits memorySize)
  locates : ∀ side sender, (connection.party side).Locates
    (channelQueue name sender) (!sender.isOwner)
  stored : ∀ sender, ∃ object,
    connection.shm (channelQueue name sender) = some object ∧
      object.queue.sharedLocationName = channelQueue name sender ∧
      Holds g memorySize object.queue (contents sender)

section Calls

variable {g : Geometry} {memorySize : Int} {name : CString}
variable {connection : Connection} {contents : Side → List (List UInt8)}

variable {object : ShmObject} {sender : Side}

@[simp] theorem Side.other_other (side : Side) : side.other.other = side := by
  cases side <;> rfl

theorem Side.eq_or_eq_other (sender side : Side) :
    sender = side ∨ sender = side.other := by
  cases sender <;> cases side <;> simp [Side.other]

theorem isTowardsOwner_eq (side : Side) :
    isTowardsOwner side.isOwner false = !side.other.isOwner ∧
      isTowardsOwner side.isOwner true = !side.isOwner := by
  cases side <;> decide

variable (joined : Joined g memorySize name connection contents)

include joined

theorem Joined.channelQueue_inj {other : Side} (different : sender ≠ other) :
    channelQueue name sender ≠ channelQueue name other := by
  rcases sender.eq_or_eq_other other with same | opposite
  · exact absurd same different
  · subst opposite
    exact (joined.apart other).symm

/-- A call of one side on the queue of a sender leaves a connection in which
only the contents of that queue may have changed. -/
theorem Joined.served (side sender : Side)
    (found : connection.shm (channelQueue name sender) = some object)
    (request : QueueCall) {messages : List (List UInt8)}
    (holds : Holds g memorySize
      (serve (g.limits memorySize) object.queue request).queue messages) :
    let served := (connection.party side).serve object.queue request
    served.1 = serve (g.limits memorySize) object.queue request ∧
      Joined g memorySize name
        { connection with
          party := Function.update connection.party side served.2
          shm := connection.shm.set (channelQueue name sender)
            (some { object with queue := served.1.queue }) }
        (Function.update contents sender messages) := by
  obtain ⟨stored, present, named, _⟩ := joined.stored sender
  cases found.symm.trans present
  obtain ⟨answer, _⟩ := Party.serve_eq
    (named ▸ joined.registered side sender) request
  refine ⟨answer, ?_⟩
  rw [answer]
  constructor
  · exact joined.rxQueue
  · exact joined.txQueue
  · exact joined.apart
  · intro other channel
    by_cases same : other = side
    · subst same
      simpa using Party.serve_registered (joined.registered other channel)
        object.queue request
    · simpa [same] using joined.registered other channel
  · intro other channel
    by_cases same : other = side
    · subst same
      simpa using Party.serve_locates (joined.locates other channel)
        object.queue request
    · simpa [same] using joined.locates other channel
  · intro channel
    by_cases same : channel = sender
    · subst same
      refine ⟨_, ShmStore.set_same _ _ _, ?_, ?_⟩
      · exact (Ring.serve_sharedLocationName _ _ _).trans named
      · simpa using holds
    · obtain ⟨other, otherPresent, otherNamed, otherHolds⟩ :=
        joined.stored channel
      have untouched := ShmStore.set_other connection.shm
        (some { object with
          queue := (serve (g.limits memorySize) object.queue request).queue })
        (joined.channelQueue_inj same)
      exact ⟨other, untouched.trans otherPresent, otherNamed, by
        simpa [same] using otherHolds⟩

theorem Joined.not_corrupted (side : Side) :
    isCorruptedShmem (connection.party side) connection.shm
      (connection.ipc side) side.isOwner = false := by
  have sound : ∀ sender object,
      connection.shm (channelQueue name sender) = some object →
      (connection.party side).isCorruptedQueue object.queue
        (!sender.isOwner) = false := by
    intro sender object found
    obtain ⟨stored, present, named, holds⟩ := joined.stored sender
    cases found.symm.trans present
    exact Party.not_isCorruptedQueue (named ▸ joined.registered side sender)
      (named ▸ joined.locates side sender) holds
  obtain ⟨received, receivedPresent, _⟩ := joined.stored side.other
  obtain ⟨sent, sentPresent, _⟩ := joined.stored side
  obtain ⟨towards, away⟩ := isTowardsOwner_eq side
  simp only [isCorruptedShmem, joined.rxQueue, joined.txQueue,
    Option.bind_some, receivedPresent, sentPresent, towards, away,
    sound _ _ receivedPresent, sound _ _ sentPresent, Bool.or_false]

omit joined

/-- A call of one side asks the queue of a sender. -/
structure Asks (connection : Connection) (name : CString) (side : Side)
    (call : IpcCall) (sender : Side) (object : ShmObject)
    (request : QueueCall) : Prop where
  request : call.request (connection.ipc side) =
    some (some (channelQueue name sender), request)
  present : connection.shm (channelQueue name sender) = some object

theorem Asks.clean {call : IpcCall}
    (asks : Asks connection name side call sender object request)
    (clean : connection.Clean g.count g.segmentSize (side, call)) :
    request.Clean g.count g.segmentSize object.queue := by
  simp only [Connection.Clean, asks.request] at clean
  exact clean object asks.present

theorem Asks.call {call : IpcCall}
    (asks : Asks connection name side call sender object request)
    (joined : Joined g memorySize name connection contents)
    {messages : List (List UInt8)}
    (holds : Holds g memorySize
      (serve (g.limits memorySize) object.queue request).queue messages) :
    (connection.call (side, call)).1 =
        call.answer (serve (g.limits memorySize) object.queue request) ∧
      Joined g memorySize name (connection.call (side, call)).2
        (Function.update contents sender messages) := by
  obtain ⟨answer, after⟩ :=
    joined.served side sender asks.present request holds
  simp only [Connection.call, asks.request, asks.present]
  exact ⟨congrArg call.answer answer, after⟩

theorem Asks.shm {call : IpcCall}
    (asks : Asks connection name side call sender object request)
    (joined : Joined g memorySize name connection contents) :
    (connection.call (side, call)).2.shm (channelQueue name sender) = some
      { object with
        queue := (serve (g.limits memorySize) object.queue request).queue } := by
  obtain ⟨stored, present, named, _⟩ := joined.stored sender
  cases asks.present.symm.trans present
  obtain ⟨answer, _⟩ := Party.serve_eq
    (named ▸ joined.registered side sender) request
  simp only [Connection.call, asks.request, asks.present, answer]
  exact ShmStore.set_same _ _ _

/-- What one clean call reports agrees with the channels. -/
def Reports (g : Geometry) (memorySize : Int) (name : CString)
    (connection : Connection) (contents : Side → List (List UInt8))
    (input : Side × IpcCall) (report : Report Side (List UInt8)) : Prop :=
  input.2.report input.1 (connection.call input).1 = some report ∧
    Agrees contents report ∧
    Joined g memorySize name (connection.call input).2
      (after contents report)

include joined in
theorem Joined.send {call : IpcCall}
    (asks : Asks connection name side call side object request)
    (pushes : serve (g.limits memorySize) object.queue request =
      ⟨(push (g.limits memorySize) object.queue buffers).1, none,
        (push (g.limits memorySize) object.queue buffers).2⟩)
    (code : ∀ answer, (call.answer answer).code = answer.code)
    (reports : ∀ answer, call.report side answer =
      some (if answer.code = 0 then .sent side buffers.flatten
        else .refused side)) (nonempty : buffers.flatten ≠ [])
    (behind : ¬OvertakesReader g.count g.segmentSize object.queue buffers) :
    ∃ report, Reports g memorySize name connection contents (side, call)
      report := by
  obtain ⟨stored, present, _, holds⟩ := joined.stored side
  cases asks.present.symm.trans present
  have pushed := holds.serve_push nonempty behind
  obtain ⟨answer, after⟩ := asks.call joined (by rw [pushes]; exact pushed)
  refine ⟨_, reports _, ?_, ?_⟩
  · split <;> trivial
  · rw [answer, code, pushes]
    split
    · rename_i accepted
      rw [if_pos accepted] at after
      exact after
    · rename_i refused
      rw [if_neg refused, Function.update_eq_self] at after
      exact after

include joined in
/-- A clean call on a queue reports what the two channels say, and leaves in
them what they then hold. -/
theorem Joined.call {call : IpcCall} (queued : call ≠ .isCorruptedShmem)
    (clean : connection.Clean g.count g.segmentSize (side, call)) :
    ∃ report, Reports g memorySize name connection contents (side, call)
      report := by
  obtain ⟨sent, sentPresent, _⟩ := joined.stored side
  obtain ⟨received, present, _, holds⟩ := joined.stored side.other
  have tx := joined.txQueue side
  have rx := joined.rxQueue side
  cases call with
  | sendData dataToSend =>
      have asks : Asks connection name side (.sendData dataToSend) side sent
          (.pushToQueue dataToSend) :=
        ⟨by rw [IpcCall.request, tx], sentPresent⟩
      obtain ⟨nonempty, behind⟩ := asks.clean clean
      exact joined.send asks rfl (fun _ => rfl)
        (fun answer => by simp [IpcCall.report]) (by simpa using nonempty)
        behind
  | sendChunkedData dataElemToSend =>
      have asks : Asks connection name side (.sendChunkedData dataElemToSend)
          side sent (.pushBuffersToQueue dataElemToSend) :=
        ⟨by rw [IpcCall.request, tx], sentPresent⟩
      obtain ⟨nonempty, behind⟩ := asks.clean clean
      exact joined.send asks rfl (fun _ => rfl) (fun _ => rfl) nonempty
        behind
  | receiveData =>
      have asks : Asks connection name side .receiveData side.other received
          .peekToQueue :=
        ⟨by rw [IpcCall.request, rx], present⟩
      obtain ⟨output, peeked⟩ := holds.serve_peek
      obtain ⟨answer, after⟩ := asks.call joined peeked
      refine ⟨_, rfl, ?_, ?_⟩
      · rw [answer]
        exact output
      · rw [Function.update_eq_self] at after
        exact after
  | popData =>
      have asks : Asks connection name side .popData side.other received
          .popFromQueue :=
        ⟨by rw [IpcCall.request, rx], present⟩
      obtain ⟨code, popped⟩ := holds.serve_pop (asks.clean clean)
      obtain ⟨answer, after⟩ := asks.call joined popped
      refine ⟨_, rfl, ?_, after⟩
      rw [answer]
      exact code
  | isDataAvailable =>
      have asks : Asks connection name side .isDataAvailable side.other
          received .isQueueEmpty :=
        ⟨by rw [IpcCall.request, rx], present⟩
      obtain ⟨answer, after⟩ := asks.call joined holds
      refine ⟨_, rfl, ?_, ?_⟩
      · rw [answer]
        by_cases empty : received.queue.readPos = received.queue.writePos
        · have none := holds.eq_nil_iff.mpr empty
          simp [Agrees, IpcCall.answer, serve, empty, none]
        · have some := mt holds.eq_nil_iff.mp empty
          simp [Agrees, IpcCall.answer, serve, empty, some]
      · rw [Function.update_eq_self] at after
        exact after
  | isCorruptedShmem => exact absurd rfl queued

/-- A check for corruption that finds nothing. -/
def FindsNothing (connection : Connection) (input : Side × IpcCall) : Prop :=
  input.2 = .isCorruptedShmem → (connection.call input).1.code = 0

include joined in
theorem Joined.step (input : Side × IpcCall)
    (clean : connection.Clean g.count g.segmentSize input) :
    let reported :=
      (input.2.report input.1 (connection.call input).1).toList
    FindsNothing connection input ∧ Explains contents reported ∧
      Joined g memorySize name (connection.call input).2
        (reported.foldl after contents) := by
  obtain ⟨side, call⟩ := input
  by_cases queued : call = .isCorruptedShmem
  · subst queued
    have sound := joined.not_corrupted side
    refine ⟨fun _ => ?_, trivial, joined⟩
    simp only [Connection.call, IpcCall.request, sound]
    rfl
  · obtain ⟨report, reported, agrees, next⟩ := joined.call queued clean
    rw [reported]
    exact ⟨fun corrupted => absurd corrupted queued, ⟨agrees, trivial⟩, next⟩

include joined in
/-- Over a clean run the two queues are first-in first-out channels. -/
theorem Joined.run {calls : List (Side × IpcCall)}
    (clean : Trace.Along Connection.call
      (fun connection input => connection.Clean g.count g.segmentSize input)
      connection calls) :
    Trace.Along Connection.call FindsNothing connection calls ∧
      Explains contents
        (reports calls (Trace.run Connection.call connection calls).1) := by
  induction calls generalizing connection contents with
  | nil => exact ⟨trivial, trivial⟩
  | cons input calls induction =>
      obtain ⟨nothing, explains, next⟩ := joined.step input clean.1
      obtain ⟨later, explainsLater⟩ := induction next clean.2
      refine ⟨⟨nothing, later⟩, ?_⟩
      rw [Trace.run_cons]
      exact explains_append_iff.mpr ⟨explains, explainsLater⟩

end Calls

/-- The reader of a queue stands on its first message. -/
def OnMessage (g : Geometry) (queue : SharedRingQueue)
    (payload : List UInt8) : Prop :=
  ∃ stop later, Laid g queue.bytes queue.readPos stop (payload :: later)

section Pinned

variable {g : Geometry} {memorySize : Int} {queue : SharedRingQueue}
variable {payload : List UInt8} {rest : List (List UInt8)}

theorem Room.spares_reader {count readPos writePos width : Nat}
    (room : Room count readPos writePos width)
    (some : readPos ≠ writePos) :
    ¬Written count writePos width readPos := by
  unfold Written
  cases room with
  | here inside free => rw [if_neg (by omega)]; omega
  | edge reaches straight free => rw [if_neg (by omega)]; omega
  | start wraps straight free => rw [if_pos (by omega)]; omega

theorem Holds.push_onMessage
    (holds : Holds g memorySize queue (payload :: rest))
    (onMessage : OnMessage g queue payload)
    (behind : ¬OvertakesReader g.count g.segmentSize queue buffers)
    (nonempty : buffers.flatten ≠ []) :
    let pushed := (Ring.push (g.limits memorySize) queue buffers).2
    pushed.readPos = queue.readPos ∧ OnMessage g pushed payload := by
  have readInside := holds.body.readPos_lt
  have writeInside := holds.body.writePos_lt
  obtain ⟨stop, later, laid⟩ := onMessage
  have some : queue.readPos ≠ queue.writePos := by
    intro meet
    cases holds.eq_nil_iff.mpr meet
  rw [holds.header.push_eq readInside writeInside]
  split
  case isFalse => exact ⟨rfl, stop, later, laid⟩
  rename_i short
  split
  case isFalse => exact ⟨rfl, stop, later, laid⟩
  rename_i admitted
  refine ⟨rfl, ?_⟩
  have size : IsMessage buffers.flatten :=
    ⟨List.length_pos_iff.mpr nonempty, short⟩
  have bound := short
  simp only [maxWriteSize] at bound
  have room := isThereEnoughMemory_room admitted (g.needed_le (by omega))
    g.bounded readInside writeInside (by
      intro overtakes
      by_contra reaches
      exact behind ⟨short, overtakes, Nat.le_of_not_lt reaches, admitted⟩)
  have spares : SameSegments g
      (afterPush g queue.bytes queue.writePos buffers).2 queue.bytes
      queue.readPos (queue.readPos + 1) := by
    refine sameSegments_afterPush size writeInside (room.lt readInside)
      (by omega) ?_
    intro index lower upper
    have same : index = queue.readPos := by omega
    exact same ▸ room.spares_reader some
  have spared := spares.markers queue.readPos (Nat.le_refl _)
    (Nat.lt_succ_self _)
  rcases (holds.body.kept size room).head_cases with laidAfter |
    ⟨_, _, _, padding⟩
  · exact laidAfter
  · have padded := padding queue.readPos (Nat.le_refl _) readInside
    exact absurd (spared.symm.trans padded) laid.marker_ne_skip

theorem Holds.serve_onMessage
    (holds : Holds g memorySize queue (payload :: rest))
    (onMessage : OnMessage g queue payload)
    (clean : request.Clean g.count g.segmentSize queue)
    (kept : request ≠ .popFromQueue) :
    let served := (serve (g.limits memorySize) queue request).queue
    served.readPos = queue.readPos ∧ OnMessage g served payload := by
  cases request with
  | pushBuffersToQueue buffers =>
      exact holds.push_onMessage onMessage clean.2 clean.1
  | pushToQueue buffer =>
      exact holds.push_onMessage onMessage clean.2 (by simpa using clean.1)
  | peekToQueue =>
      obtain ⟨stop, later, laid⟩ := onMessage
      have same := holds.peek_of_message laid.marker_ne_skip
      simp only [serve]
      rw [same]
      exact ⟨rfl, stop, later, laid⟩
  | popFromQueue => exact absurd rfl kept
  | isQueueEmpty => exact ⟨rfl, onMessage⟩

end Pinned

/-- Where a `receiveData` of one side finds its data: the queue, the offset
and the size it hands out. -/
def Connection.handsOut (connection : Connection) (side : Side) :
    Option (CString × Nat × Nat) := do
  let queue ← (connection.ipc side).rxQueue
  let object ← connection.shm queue
  let output ←
    ((connection.party side).serve object.queue .peekToQueue).1.output
  pure (queue, output)

/-- The bytes that a pointer into a queue reads. -/
def Connection.readAt (connection : Connection) (queue : CString)
    (output : Nat × Nat) : Option (List UInt8) :=
  (connection.shm queue).map fun object => payloadAt object.queue output

section Handed

variable {g : Geometry} {memorySize : Int} {name : CString}
variable {connection : Connection} {contents : Side → List (List UInt8)}

variable {input : Side × IpcCall}

theorem Connection.call_shm (connection : Connection)
    (input : Side × IpcCall) (queue : CString) :
    (connection.call input).2.shm queue = connection.shm queue ∨
      ∃ object request,
        input.2.request (connection.ipc input.1) =
            some (some queue, request) ∧
          connection.shm queue = some object ∧
          (connection.call input).2.shm queue = some
            { object with
              queue := ((connection.party input.1).serve object.queue
                request).1.queue } := by
  cases asked : input.2.request (connection.ipc input.1) with
  | none => exact Or.inl (by simp only [Connection.call, asked])
  | some work =>
      obtain ⟨_ | other, request⟩ := work
      · exact Or.inl (by simp only [Connection.call, asked])
      · cases found : connection.shm other with
        | none => exact Or.inl (by simp only [Connection.call, asked, found])
        | some object =>
            simp only [Connection.call, asked, found]
            by_cases same : queue = other
            · subst same
              exact Or.inr ⟨object, request, rfl, found,
                ShmStore.set_same _ _ _⟩
            · exact Or.inl (ShmStore.set_other _ _ same)

/-- The first message for a side lies where its pointer says. -/
structure Pinned (g : Geometry) (memorySize : Int) (name : CString)
    (side : Side) (position : Nat) (payload : List UInt8)
    (connection : Connection) (contents : Side → List (List UInt8)) :
    Prop where
  joined : Joined g memorySize name connection contents
  first : (contents side.other).head? = some payload
  stored : ∀ object, connection.shm (channelQueue name side.other) =
    some object → object.queue.readPos = position ∧
      OnMessage g object.queue payload

theorem Pinned.readAt {position : Nat} {payload : List UInt8}
    (pinned : Pinned g memorySize name side position payload connection
      contents) :
    connection.readAt (channelQueue name side.other)
      (g.address position, payload.length) = some payload := by
  obtain ⟨object, present, _⟩ := pinned.joined.stored side.other
  obtain ⟨rfl, stop, later, laid⟩ := pinned.stored object present
  simp only [Connection.readAt, present, Option.map_some, payloadAt]
  rw [laid.read_eq]

theorem first_after {payload : List UInt8} {answer : IpcAnswer}
    (first : (contents side.other).head? = some payload)
    (kept : input ≠ (side, .popData)) :
    ((input.2.report input.1 answer).toList.foldl after contents
      side.other).head? = some payload := by
  obtain ⟨caller, call⟩ := input
  have grown (channel : Side) (message : List UInt8) :
      (Function.update contents channel (contents channel ++ [message])
        side.other).head? = some payload := by
    by_cases same : side.other = channel
    · subst same
      simp [first]
    · simpa [same] using first
  cases call with
  | sendData dataToSend =>
      simp only [IpcCall.report]
      split
      · exact grown caller dataToSend
      · exact first
  | sendChunkedData dataElemToSend =>
      simp only [IpcCall.report]
      split
      · exact grown caller dataElemToSend.flatten
      · exact first
  | receiveData => exact first
  | popData =>
      have different : side.other ≠ caller.other := by
        intro same
        apply kept
        rw [← side.other_other, same, Side.other_other]
      simpa [IpcCall.report, after, different] using first
  | isDataAvailable => exact first
  | isCorruptedShmem => exact first

theorem Joined.popped_by (joined : Joined g memorySize name connection contents)
    (request : input.2.request (connection.ipc input.1) =
      some (some (channelQueue name side.other), .popFromQueue)) :
    input = (side, .popData) := by
  obtain ⟨caller, call⟩ := input
  cases call with
  | popData =>
      simp only [IpcCall.request, joined.rxQueue, Option.some.injEq,
        Prod.mk.injEq, and_true] at request
      by_cases same : caller.other = side.other
      · rw [← caller.other_other, same, Side.other_other]
      · exact absurd request (joined.channelQueue_inj same)
  | sendData _ => simp [IpcCall.request] at request
  | sendChunkedData _ => simp [IpcCall.request] at request
  | receiveData => simp [IpcCall.request] at request
  | isDataAvailable => simp [IpcCall.request] at request
  | isCorruptedShmem => simp [IpcCall.request] at request

/-- A call that is not this side's own pop keeps its pointer valid. -/
theorem Pinned.call {position : Nat} {payload : List UInt8}
    (pinned : Pinned g memorySize name side position payload connection
      contents) (clean : connection.Clean g.count g.segmentSize input)
    (kept : input ≠ (side, .popData)) :
    Pinned g memorySize name side position payload
      (connection.call input).2
      ((input.2.report input.1 (connection.call input).1).toList.foldl after
        contents) := by
  have joined := pinned.joined
  obtain ⟨_, _, next⟩ := joined.step input clean
  refine ⟨next, first_after pinned.first kept, ?_⟩
  intro object present
  rcases connection.call_shm input (channelQueue name side.other) with
    untouched | ⟨before, request, asked, found, left⟩
  · exact pinned.stored object (untouched ▸ present)
  cases left.symm.trans present
  obtain ⟨stored, storedPresent, named, holds⟩ := joined.stored side.other
  cases found.symm.trans storedPresent
  obtain ⟨position, onMessage⟩ := pinned.stored before found
  obtain ⟨rest, waiting⟩ := List.head?_eq_some_iff.mp pinned.first
  have unpopped : request ≠ .popFromQueue := by
    intro popped
    subst popped
    exact kept (joined.popped_by asked)
  have cleanCall : request.Clean g.count g.segmentSize before.queue := by
    simp only [Connection.Clean, asked] at clean
    exact clean before found
  obtain ⟨same, onLater⟩ := Holds.serve_onMessage (waiting ▸ holds) onMessage
    cleanCall unpopped
  obtain ⟨answer, _⟩ := Party.serve_eq
    (named ▸ joined.registered input.1 side.other) request
  rw [answer]
  exact ⟨same.trans position, onLater⟩

/-- A receiver is handed a pointer to the first message for it. -/
theorem Joined.pinned (joined : Joined g memorySize name connection contents)
    {queue : CString} {output : Nat × Nat}
    (handed : connection.handsOut side = some (queue, output)) :
    ∃ position payload,
      queue = channelQueue name side.other ∧
        output = (g.address position, payload.length) ∧
        (connection.call (side, .receiveData)).1.receivedData =
          some payload ∧
        Pinned g memorySize name side position payload
          (connection.call (side, .receiveData)).2 contents := by
  obtain ⟨object, present, named, holds⟩ := joined.stored side.other
  have asks : Asks connection name side .receiveData side.other object
      .peekToQueue :=
    ⟨by rw [IpcCall.request, joined.rxQueue], present⟩
  obtain ⟨answer, _⟩ := Party.serve_eq
    (named ▸ joined.registered side side.other) .peekToQueue
  simp only [Connection.handsOut, joined.rxQueue, present, answer,
    Option.bind_eq_bind, Option.bind_some, serve] at handed
  cases waiting : contents side.other with
  | nil =>
      rw [waiting] at holds
      have empty := holds.eq_nil_iff.mp rfl
      rw [holds.header.peek_empty holds.body.readPos_lt empty] at handed
      cases handed
  | cons payload rest =>
      rw [waiting] at holds
      obtain ⟨_, read, moved, stop, later, laid⟩ := holds.peek
      obtain ⟨reported, after⟩ := asks.call joined moved
      rw [← waiting, Function.update_eq_self] at after
      have head := holds.header.peek_eq holds.body
      rw [head] at handed laid
      cases handed
      refine ⟨(skipToMessage g.count object.queue.bytes
        object.queue.readPos).1, payload, rfl, rfl, ?_, after, ?_, ?_⟩
      · rw [reported]
        exact read
      · rw [waiting, List.head?_cons]
      · intro left found
        cases (asks.shm joined).symm.trans found
        simp only [serve, head]
        exact ⟨trivial, stop, later, laid⟩

/-- Data that was handed out stays in place until its receiver pops it,
whatever the two sides call meanwhile. -/
theorem Joined.received_stays
    (joined : Joined g memorySize name connection contents)
    {front back : List (Side × IpcCall)}
    (cleanFront : Trace.Along Connection.call
      (fun connection input => connection.Clean g.count g.segmentSize input)
      connection front) (side : Side) :
    let before := (Trace.run Connection.call connection front).2
    let received := before.call (side, .receiveData)
    ∀ queue output, before.handsOut side = some (queue, output) →
      Trace.Along Connection.call
        (fun connection input =>
          connection.Clean g.count g.segmentSize input)
        received.2 back →
      (side, .popData) ∉ back →
      received.1.receivedData.isSome ∧
        (Trace.run Connection.call received.2 back).2.readAt queue output =
          received.1.receivedData := by
  intro before received queue output handed cleanBack kept
  obtain ⟨waiting, reached⟩ := Trace.run_invariant
    (fun connection input => connection.Clean g.count g.segmentSize input)
    (fun connection => ∃ contents, Joined g memorySize name connection
      contents)
    (fun connection input ⟨contents, joined⟩ clean =>
      ⟨_, (joined.step input clean).2.2⟩)
    ⟨contents, joined⟩ cleanFront
  obtain ⟨position, payload, rfl, rfl, read, pinned⟩ := reached.pinned handed
  obtain ⟨_, still⟩ := Trace.run_invariant
    (fun connection input => input ≠ (side, .popData) ∧
      connection.Clean g.count g.segmentSize input)
    (fun connection => ∃ contents, Pinned g memorySize name side position
      payload connection contents)
    (fun connection input ⟨contents, pinned⟩ ⟨kept, clean⟩ =>
      ⟨_, pinned.call clean kept⟩)
    ⟨waiting, pinned⟩
    (cleanBack.and_of_mem fun input member same => kept (same ▸ member))
  rw [still.readAt, read]
  exact ⟨rfl, rfl⟩

end Handed

end Ring

end OpenAppsec
