import OpenAppsec.Ring.Consumption
import OpenAppsec.Ring.Creation
import OpenAppsec.Ring.Footprints

/-!
# Corrupted shared contents

A crashed or hostile peer may leave any positions and any markers.  The
positions are validated on entry, but up to the ring size and not below it, and
the markers are not validated at all.
-/

namespace OpenAppsec

namespace Ring

open ByteMemory

/-- A call that reports a failure.  The emptiness test cannot. -/
def QueueCall.Fails (call : QueueCall) (answer : QueueAnswer) : Prop :=
  match call with
  | .isQueueEmpty => False
  | _ => answer.code ≠ 0

/-- A call that stays inside the ring and the mapping. -/
structure StaysInside (limits : Limits) (touched : Footprint)
    (answer : QueueAnswer) : Prop where
  markers : ∀ index ∈ touched.markers, index < limits.numOfDataSegments
  data : ∀ range ∈ touched.data,
    (range.1 + range.2 : Nat) ≤ limits.memorySize
  output : ∀ handed ∈ answer.output,
    (handed.1 + handed.2 : Nat) ≤ limits.memorySize
  readPos : answer.queue.readPos < limits.numOfDataSegments
  writePos : answer.queue.writePos < limits.numOfDataSegments

def PushInside (limits : Limits) (queue : SharedRingQueue)
    (buffers : List (List UInt8)) : Prop :=
  let count := limits.numOfDataSegments
  let size := buffers.flatten.length
  let width := numOfDataSegmentsNeeded limits.entrySize size
  let start := if queue.writePos + width > count then 0 else queue.writePos
  queue.readPos ≤ count → queue.writePos < count → size ≤ maxWriteSize →
    isThereEnoughMemory count queue.writePos queue.readPos width = true →
    queue.readPos < count ∧ size ≤ limits.segmentSize * (count - start)

/-- The contents with which a call that gets past its validation stays
inside. -/
def ContentsInside (limits : Limits) (queue : SharedRingQueue) :
    QueueCall → Prop
  | .pushBuffersToQueue inputBuffers => PushInside limits queue inputBuffers
  | .pushToQueue inputBuffer => PushInside limits queue [inputBuffer]
  | .peekToQueue =>
      let count := limits.numOfDataSegments
      let head := skipToMessage count queue.bytes queue.readPos
      queue.readPos < count → queue.writePos ≤ count →
        queue.readPos ≠ queue.writePos →
        queue.writePos < count ∧
          marker head.2 head.1 ≤ limits.segmentSize * (count - head.1)
  | .popFromQueue =>
      let count := limits.numOfDataSegments
      let width := numOfDataSegmentsNeeded limits.entrySize
        (marker queue.bytes queue.readPos)
      queue.readPos ≤ count → queue.writePos ≤ count →
        queue.readPos ≠ queue.writePos →
        queue.readPos < count ∧ queue.writePos < count ∧
          ReleasesInside count width queue.bytes queue.readPos
  | .isQueueEmpty =>
      queue.readPos < limits.numOfDataSegments ∧
        queue.writePos < limits.numOfDataSegments

/-- A mapped queue whose header passes the comparison with the registered
parameters, whatever its positions and markers are. -/
structure Attached (limits : Limits) (queue : SharedRingQueue) : Prop where
  positive : 1 ≤ limits.numOfDataSegments
  bounded : limits.numOfDataSegments ≤ maxNumOfDataSegments
  entrySize : sharedMemorySegmentEntrySizeBC ≤ limits.entrySize
  mapped : limits.memorySize =
    effectiveSizeOfMemory limits.segmentSize limits.numOfDataSegments
  count : queue.numOfDataSegments = limits.numOfDataSegments
  memory : queue.sizeOfMemory = limits.memorySize

section Calls

variable {limits : Limits} {queue : SharedRingQueue}

variable (attached : Attached limits queue)

include attached

theorem Attached.positions_eq :
    positions limits queue =
      if queue.readPos ≤ limits.numOfDataSegments ∧
          queue.writePos ≤ limits.numOfDataSegments then
        some (queue.readPos, queue.writePos)
      else none := by
  have positive := attached.positive
  have nonempty : limits.numOfDataSegments ≠ 0 := by omega
  simp only [positions, if_neg nonempty, attached.count, attached.memory,
    ne_eq, not_true_eq_false, if_false]
  by_cases readInside : queue.readPos > limits.numOfDataSegments
  · rw [if_pos readInside, if_neg (by omega)]
  · rw [if_neg readInside]
    by_cases writeInside : queue.writePos > limits.numOfDataSegments
    · rw [if_pos writeInside, if_neg (by omega)]
    · rw [if_neg writeInside, if_pos (by omega)]

theorem Attached.range_le_iff {index size : Nat}
    (inside : index ≤ limits.numOfDataSegments) :
    ((dataSegmentAddress limits.segmentSize index + size : Nat) : Int) ≤
        limits.memorySize ↔
      size ≤ limits.segmentSize * (limits.numOfDataSegments - index) := by
  obtain ⟨room, count⟩ := Nat.exists_eq_add_of_le inside
  have width : limits.numOfDataSegments - index = room := by omega
  have distributed : limits.segmentSize * (index + 1) =
      limits.segmentSize * index + limits.segmentSize :=
    Nat.mul_succ _ _
  have whole : limits.numOfDataSegments * limits.segmentSize =
      limits.segmentSize * index + limits.segmentSize * room := by
    rw [count, Nat.mul_comm, Nat.mul_add]
  have header : sizeOfSharedRingQueue - sharedMemorySegmentEntrySize =
      sharedRingQueueHeaderPrefixSize := rfl
  rw [attached.mapped, dataSegmentAddress_eq, effectiveSizeOfMemory, width,
    whole, distributed, header]
  omega

theorem Attached.needed_le {size : Nat} (small : size ≤ 65535) :
    numOfDataSegmentsNeeded limits.entrySize size ≤ 64 := by
  have large := attached.entrySize
  simp only [sharedMemorySegmentEntrySizeBC] at large
  have bound : numOfDataSegmentsNeeded limits.entrySize size < 65 := by
    refine (Nat.div_lt_iff_lt_mul (by omega)).mpr ?_
    omega
  omega

theorem Attached.toUInt16_needed {size : Nat} (small : size ≤ 65535) :
    toUInt16 (numOfDataSegmentsNeeded limits.entrySize size) =
      numOfDataSegmentsNeeded limits.entrySize size := by
  have bound := attached.needed_le small
  exact toUInt16_of_lt (by omega)

omit attached

theorem storeMessage_writePos_lt {count : Nat} (positive : 1 ≤ count)
    (segmentSize : Nat) (bytes : ByteMemory) (writePos width size : Nat)
    (buffers : List (List UInt8)) :
    (storeMessage count segmentSize bytes writePos width size buffers).1 <
      count := by
  have wrapped : ∀ next, (if next ≥ count then 0 else next) < count := by
    intro next
    split <;> omega
  exact wrapped _

theorem lt_of_isThereEnoughMemory {count writePos readPos width : Nat}
    (admitted : isThereEnoughMemory count writePos readPos width = true)
    (narrow : width ≤ 64) : width < count := by
  have width8 : toUInt8 width = width := toUInt8_of_lt (by omega)
  by_contra wide
  simp [isThereEnoughMemory, width8, Nat.le_of_not_lt wide] at admitted

include attached

theorem Attached.peek_iff :
    (QueueCall.peekToQueue.Fails (serve limits queue .peekToQueue) ∨
        StaysInside limits (footprint limits queue .peekToQueue)
          (serve limits queue .peekToQueue)) ↔
      ContentsInside limits queue .peekToQueue := by
  simp only [QueueCall.Fails, ContentsInside, footprint, peekFootprint,
    serve, peek, attached.positions_eq]
  by_cases valid : queue.readPos ≤ limits.numOfDataSegments ∧
      queue.writePos ≤ limits.numOfDataSegments
  · simp only [if_pos valid]
    by_cases empty : queue.readPos = queue.writePos
    · simp [empty]
    · simp only [if_neg empty]
      by_cases atEnd : queue.readPos ≥ limits.numOfDataSegments
      · have outside : ¬queue.readPos < limits.numOfDataSegments := by omega
        simp [if_pos atEnd, outside, corruptedShmemError]
      · have inside : queue.readPos < limits.numOfDataSegments := by omega
        have landed := skipToMessage_lt inside queue.bytes
        simp only [if_neg atEnd]
        constructor
        · rintro (failed | stays)
          · exact absurd rfl failed
          · intro _ _ _
            exact ⟨stays.writePos,
              (attached.range_le_iff (Nat.le_of_lt landed)).mp
                (stays.output _ rfl)⟩
        · intro contents
          obtain ⟨writeInside, room⟩ := contents inside valid.2 empty
          right
          constructor
          · exact skipToMessageMarkers_lt inside queue.bytes
          · intro range member
            cases member
          · rintro _ ⟨⟩
            exact (attached.range_le_iff (Nat.le_of_lt landed)).mpr room
          · exact landed
          · exact writeInside
  · simp only [if_neg valid]
    refine iff_of_true (Or.inl (by simp)) ?_
    omega

theorem Attached.pop_iff :
    (QueueCall.popFromQueue.Fails (serve limits queue .popFromQueue) ∨
        StaysInside limits (footprint limits queue .popFromQueue)
          (serve limits queue .popFromQueue)) ↔
      ContentsInside limits queue .popFromQueue := by
  have small := marker_lt queue.bytes queue.readPos
  have width := attached.toUInt16_needed
    (Nat.le_of_lt_succ small)
  have narrow := attached.needed_le (Nat.le_of_lt_succ small)
  simp only [QueueCall.Fails, ContentsInside, footprint, popFootprint,
    serve, pop, attached.positions_eq]
  by_cases valid : queue.readPos ≤ limits.numOfDataSegments ∧
      queue.writePos ≤ limits.numOfDataSegments
  · simp only [if_pos valid]
    by_cases empty : queue.readPos = queue.writePos
    · simp [empty]
    · simp only [if_neg empty, width]
      constructor
      · rintro (failed | stays)
        · exact absurd rfl failed
        · intro _ _ _
          have inside := stays.markers queue.readPos List.mem_cons_self
          exact ⟨inside, stays.writePos,
            (releaseMessage_inside_iff narrow attached.bounded inside).mp
              ⟨stays.markers, stays.readPos⟩⟩
      · intro contents
        obtain ⟨inside, writeInside, releases⟩ :=
          contents valid.1 valid.2 empty
        obtain ⟨markers, readPos⟩ := (releaseMessage_inside_iff narrow
          attached.bounded inside).mpr releases
        right
        constructor
        · exact markers
        · intro range member
          cases member
        · intro handed member
          cases member
        · exact readPos
        · exact writeInside
  · simp only [if_neg valid]
    refine iff_of_true (Or.inl (by simp)) ?_
    omega

theorem Attached.push_iff (buffers : List (List UInt8)) :
    ((push limits queue buffers).1 ≠ 0 ∨
        StaysInside limits (pushFootprint limits queue buffers)
          ⟨(push limits queue buffers).1, none,
            (push limits queue buffers).2⟩) ↔
      PushInside limits queue buffers := by
  simp only [PushInside, pushFootprint, push, attached.positions_eq,
    totalElemSize_zero_eq]
  by_cases valid : queue.readPos ≤ limits.numOfDataSegments ∧
      queue.writePos ≤ limits.numOfDataSegments
  · simp only [if_pos valid]
    by_cases short : buffers.flatten.length ≤ maxWriteSize
    · have bound := short
      simp only [maxWriteSize] at bound
      have size16 : toUInt16 buffers.flatten.length =
          buffers.flatten.length :=
        toUInt16_of_lt (by omega)
      have width16 : toUInt16 (numOfDataSegmentsNeeded limits.entrySize
          buffers.flatten.length) = numOfDataSegmentsNeeded limits.entrySize
            buffers.flatten.length :=
        attached.toUInt16_needed (by omega)
      simp only [if_pos short, size16, width16]
      cases admitted : isThereEnoughMemory limits.numOfDataSegments
          queue.writePos queue.readPos
          (numOfDataSegmentsNeeded limits.entrySize
            buffers.flatten.length) with
      | false => simp
      | true =>
          have narrow : numOfDataSegmentsNeeded limits.entrySize
              buffers.flatten.length ≤ 64 :=
            attached.needed_le (by omega)
          have narrower := lt_of_isThereEnoughMemory admitted narrow
          simp only [Bool.not_true, Bool.false_eq_true, if_false]
          by_cases outside : queue.writePos ≥ limits.numOfDataSegments
          · have notInside :
                ¬queue.writePos < limits.numOfDataSegments := by omega
            simp [if_pos outside, notInside]
          · have inside : queue.writePos < limits.numOfDataSegments := by
              omega
            have start : (if queue.writePos + numOfDataSegmentsNeeded
                limits.entrySize buffers.flatten.length >
                  limits.numOfDataSegments then 0 else queue.writePos) ≤
                limits.numOfDataSegments := by
              split <;> omega
            simp only [if_neg outside]
            constructor
            · rintro (failed | stays)
              · exact absurd rfl failed
              · intro _ _ _ _
                exact ⟨stays.readPos, (attached.range_le_iff start).mp
                  (stays.data _ (List.mem_singleton_self _))⟩
            · intro contents
              obtain ⟨readInside, room⟩ :=
                contents valid.1 inside short trivial
              right
              constructor
              · exact storeMessageMarkers_lt narrower inside
                  attached.bounded
              · intro range member
                rw [List.mem_singleton.mp member]
                exact (attached.range_le_iff start).mpr room
              · intro handed member
                cases member
              · exact readInside
              · exact storeMessage_writePos_lt attached.positive
                  limits.segmentSize queue.bytes queue.writePos
                  (numOfDataSegmentsNeeded limits.entrySize
                    buffers.flatten.length) buffers.flatten.length buffers
    · simp only [if_neg short]
      refine iff_of_true (Or.inl (by simp)) ?_
      omega
  · simp only [if_neg valid]
    refine iff_of_true (Or.inl (by simp)) ?_
    omega

end Calls

/-- Whatever its peer left in the mapping, a party's call fails or stays
inside exactly when the contents keep it inside. -/
theorem corrupted_contents_tolerated_iff (party : Party) (limits : Limits)
    (queue : SharedRingQueue) (attached : Attached limits queue)
    (registered : party.Registered queue.sharedLocationName limits)
    (call : QueueCall) :
    (call.Fails (party.serve queue call).1 ∨
        StaysInside limits (footprint limits queue call)
          (party.serve queue call).1) ↔
      ContentsInside limits queue call := by
  rw [(Party.serve_eq registered call).1]
  cases call with
  | pushBuffersToQueue buffers => exact attached.push_iff buffers
  | pushToQueue buffer => exact attached.push_iff [buffer]
  | peekToQueue => exact attached.peek_iff
  | popFromQueue => exact attached.pop_iff
  | isQueueEmpty =>
      simp only [QueueCall.Fails, false_or, ContentsInside]
      constructor
      · exact fun stays => ⟨stays.readPos, stays.writePos⟩
      · rintro ⟨readInside, writeInside⟩
        constructor
        · intro index member
          cases member
        · intro range member
          cases member
        · intro handed member
          cases member
        · exact readInside
        · exact writeInside

/-- The ring of four segments with the given positions and first marker. -/
def hostileRing (readPos writePos firstMarker : Nat) : SharedRingQueue :=
  let fresh := freshRing (ownerOf 4) emptyShmObject.queue ['q'] 4 5202 3
  { fresh.2 with
    readPos
    writePos
    bytes := setMarker fresh.2.bytes 0 firstMarker }

theorem hostileRing_tolerated :
    let limits := fourSegments.limits (5202 : Nat)
    let queue := hostileRing 0 2 2048
    (QueueCall.popFromQueue.Fails
        ((ownerOf 4).serve queue .popFromQueue).1 ∨
      StaysInside limits (footprint limits queue .popFromQueue)
        ((ownerOf 4).serve queue .popFromQueue).1) ↔
    ContentsInside limits queue .popFromQueue :=
  corrupted_contents_tolerated_iff _ _ _
    ⟨by decide, by decide, by decide, by decide, by decide +kernel,
      by decide +kernel⟩
    ownerOf_registered _

/-- Behind a marker of 0xffff bytes a peek hands out a buffer that reaches past
the mapping, and the pop clears markers behind the table and leaves the ring;
and a message that ends at the end of the ring makes the pop read the marker
behind the last one. -/
theorem hostileRing_not_tolerated :
    let limits := fourSegments.limits (5202 : Nat)
    let served (queue : SharedRingQueue) (call : QueueCall) :=
      ((ownerOf 4).serve queue call).1
    ¬(QueueCall.peekToQueue.Fails (served (hostileRing 0 1 65535)
          .peekToQueue) ∨
        StaysInside limits
          (footprint limits (hostileRing 0 1 65535) .peekToQueue)
          (served (hostileRing 0 1 65535) .peekToQueue)) ∧
      ¬(QueueCall.popFromQueue.Fails (served (hostileRing 0 1 65535)
          .popFromQueue) ∨
        StaysInside limits
          (footprint limits (hostileRing 0 1 65535) .popFromQueue)
          (served (hostileRing 0 1 65535) .popFromQueue)) ∧
      4 ∈ (footprint limits (hostileRing 0 1 4096) .popFromQueue).markers := by
  refine ⟨?_, ?_, by decide +kernel⟩
  · rintro (failed | stays)
    · have code : ((ownerOf 4).serve (hostileRing 0 1 65535)
          .peekToQueue).1.code = 0 := by decide +kernel
      exact failed code
    · have handed := stays.output (82 + 1024, 65535) (by decide +kernel)
      revert handed
      decide
  · rintro (failed | stays)
    · have code : ((ownerOf 4).serve (hostileRing 0 1 65535)
          .popFromQueue).1.code = 0 := by decide +kernel
      exact failed code
    · have position := stays.readPos
      revert position
      decide +kernel

end Ring

end OpenAppsec
