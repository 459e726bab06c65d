import OpenAppsec.Ring.Markers

/-!
# Operations on a queue of known geometry

The data operations with the registered limits and the segment size as plain
parameters.  Both generations of the library compute these functions once
their lookups and caches are resolved.
-/

namespace OpenAppsec.Ring

/-- The registered parameters of a queue, with the sizes in force: the stride
of its data segments and the size by which segments are counted. -/
structure Limits where
  numOfDataSegments : Nat
  memorySize : Int
  segmentSize : Nat
  entrySize : Nat

/-- The positions of a queue that matches its registered parameters. -/
def positions (limits : Limits) (queue : SharedRingQueue) :
    Option (Nat × Nat) :=
  if limits.numOfDataSegments = 0 then none
  else if queue.numOfDataSegments ≠ limits.numOfDataSegments then none
  else if queue.sizeOfMemory ≠ limits.memorySize then none
  else if queue.readPos > limits.numOfDataSegments then none
  else if queue.writePos > limits.numOfDataSegments then none
  else some (queue.readPos, queue.writePos)

/-- Clear padding at the read position and step to the message after it. -/
def skipToMessage (count : Nat) (bytes : ByteMemory) (readPos : Nat) :
    Nat × ByteMemory :=
  let cleared :=
    if marker bytes readPos = skipBuffMgmtMagic then
      clearPadding (count - readPos) readPos bytes
    else
      (readPos, bytes)
  (if cleared.1 = count then 0 else cleared.1, cleared.2)

/-- Pad to the end of the ring where the message does not fit before it, then
write the markers and the payload.  Gives the position the payload starts at,
the next write position and the memory. -/
def storeMessage (count segmentSize : Nat) (bytes : ByteMemory)
    (writePos numOfSegments size : Nat) (buffers : List (List UInt8)) :
    Nat × ByteMemory :=
  let padding := writePos + numOfSegments > count
  let bytes :=
    if padding then setMarkers bytes writePos count skipBuffMgmtMagic
    else bytes
  let start := if padding then 0 else writePos
  let bytes := setMarker bytes start size
  let bytes := bytes.writeAll (dataSegmentAddress segmentSize start) buffers
  let next := toUInt16 (start + 1)
  let endPos := toUInt16 (next + numOfSegments - 1)
  let bytes := setMarkers bytes next endPos skipBuffMgmtMagic
  let next := max next endPos
  (if next ≥ count then 0 else next, bytes)

/-- Clear the markers of the message at the read position, and the padding
that follows it. -/
def releaseMessage (count numOfSegments : Nat) (bytes : ByteMemory)
    (readPos : Nat) : Nat × ByteMemory :=
  let wraps := readPos + numOfSegments > count
  let bytes :=
    if wraps then setMarkers bytes readPos count emptyBuffMgmtMagic else bytes
  let readPos := if wraps then 0 else readPos
  let endPos := toUInt16 (readPos + numOfSegments)
  let bytes := setMarkers bytes readPos endPos emptyBuffMgmtMagic
  let readPos := max readPos endPos
  let padding :=
    readPos < count ∧ marker bytes readPos = skipBuffMgmtMagic
  let bytes :=
    if padding then setMarkers bytes readPos count emptyBuffMgmtMagic
    else bytes
  let readPos := if padding then count else readPos
  (if readPos = count then 0 else readPos, bytes)

def peek (limits : Limits) (queue : SharedRingQueue) :
    Int × Option (Nat × Nat) × SharedRingQueue :=
  match positions limits queue with
  | none => (-1, none, queue)
  | some (readPos, writePos) =>
      if readPos = writePos then (-1, none, queue)
      else if readPos ≥ limits.numOfDataSegments then
        (corruptedShmemError, none, queue)
      else
        let moved :=
          skipToMessage limits.numOfDataSegments queue.bytes readPos
        (0,
          some (dataSegmentAddress limits.segmentSize moved.1,
            marker moved.2 moved.1),
          { queue with bytes := moved.2, readPos := moved.1 })

def push (limits : Limits) (queue : SharedRingQueue)
    (buffers : List (List UInt8)) : Int × SharedRingQueue :=
  match positions limits queue with
  | none => (-1, queue)
  | some (readPos, writePos) =>
      match totalElemSize 0 buffers with
      | none => (-2, queue)
      | some total =>
          let size := toUInt16 total
          let numOfSegments :=
            toUInt16 (numOfDataSegmentsNeeded limits.entrySize size)
          if !isThereEnoughMemory limits.numOfDataSegments writePos readPos
              numOfSegments then
            (-3, queue)
          else if writePos ≥ limits.numOfDataSegments then (-4, queue)
          else
            let stored :=
              storeMessage limits.numOfDataSegments limits.segmentSize
                queue.bytes writePos numOfSegments size buffers
            (0, { queue with bytes := stored.2, writePos := stored.1 })

def pop (limits : Limits) (queue : SharedRingQueue) :
    Int × SharedRingQueue :=
  match positions limits queue with
  | none => (-1, queue)
  | some (readPos, writePos) =>
      if readPos = writePos then (-1, queue)
      else
        let numOfSegments :=
          toUInt16 (numOfDataSegmentsNeeded limits.entrySize
            (marker queue.bytes readPos))
        let released :=
          releaseMessage limits.numOfDataSegments numOfSegments queue.bytes
            readPos
        (0, { queue with bytes := released.2, readPos := released.1 })

/-- One call of a data operation on an open queue. -/
inductive QueueCall where
  | pushBuffersToQueue (inputBuffers : List (List UInt8))
  | pushToQueue (inputBuffer : List UInt8)
  | peekToQueue
  | popFromQueue
  | isQueueEmpty

/-- The returned code, the buffer handed out, and the queue left in memory. -/
structure QueueAnswer where
  code : Int
  output : Option (Nat × Nat)
  queue : SharedRingQueue

/-- One call served on a queue of known geometry. -/
def serve (limits : Limits) (queue : SharedRingQueue) (call : QueueCall) :
    QueueAnswer :=
  match call with
  | .pushBuffersToQueue buffers =>
      let (code, queue) := push limits queue buffers
      ⟨code, none, queue⟩
  | .pushToQueue buffer =>
      let (code, queue) := push limits queue [buffer]
      ⟨code, none, queue⟩
  | .peekToQueue =>
      let (code, output, queue) := peek limits queue
      ⟨code, output, queue⟩
  | .popFromQueue =>
      let (code, queue) := pop limits queue
      ⟨code, none, queue⟩
  | .isQueueEmpty =>
      ⟨(decide (queue.readPos = queue.writePos)).toInt, none, queue⟩

/-- No call touches the location name in the header. -/
theorem serve_sharedLocationName (limits : Limits) (queue : SharedRingQueue)
    (call : QueueCall) :
    (serve limits queue call).queue.sharedLocationName =
      queue.sharedLocationName := by
  have pushed : ∀ buffers, (push limits queue buffers).2.sharedLocationName =
      queue.sharedLocationName := by
    intro buffers
    unfold push
    split
    · rfl
    · split
      · rfl
      · dsimp only
        split
        · rfl
        · split <;> rfl
  cases call with
  | pushBuffersToQueue buffers => exact pushed buffers
  | pushToQueue buffer => exact pushed [buffer]
  | peekToQueue =>
      simp only [serve, peek]
      split
      · rfl
      · split
        · rfl
        · split <;> rfl
  | popFromQueue =>
      simp only [serve, pop]
      split
      · rfl
      · split <;> rfl
  | isQueueEmpty => rfl

/-- The sum exists exactly when the whole message stays within the write
limit. -/
theorem totalElemSize_zero_eq (buffers : List (List UInt8)) :
    totalElemSize 0 buffers =
      if buffers.flatten.length ≤ maxWriteSize then
        some buffers.flatten.length
      else
        none := by
  have general : ∀ start, start ≤ maxWriteSize →
      totalElemSize start buffers =
        if start + buffers.flatten.length ≤ maxWriteSize then
          some (start + buffers.flatten.length)
        else
          none := by
    induction buffers with
    | nil =>
        intro start bound
        simp [totalElemSize, bound]
    | cons buffer buffers induction =>
        intro start bound
        unfold totalElemSize
        simp only [List.flatten_cons, List.length_append]
        split
        · rw [if_neg (by omega)]
        · rename_i within
          rw [induction _ (Nat.le_of_not_gt within), Nat.add_assoc]
  simpa using general 0 (Nat.zero_le _)

end OpenAppsec.Ring
