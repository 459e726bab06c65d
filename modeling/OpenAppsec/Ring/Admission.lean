import OpenAppsec.Ring.Generations
import OpenAppsec.Ring.Steps

/-!
# The admission check against the placement

`isThereEnoughMemoryInQueue` predicts where `pushBuffersToQueue` will put a
message.  The two pieces of arithmetic agree except where the writer stands
behind the reader and reaches the end of the ring, and where an empty ring
stands too far from its start.
-/

namespace OpenAppsec

namespace Ring

open ByteMemory

/-- A placement that writes only segments of the ring, none of them occupied,
and leaves a write position other than the read position. -/
structure PlacedClear (count readPos writePos width next : Nat) : Prop where
  inside : ∀ index, Written count writePos width index → index < count
  free : ∀ index, Written count writePos width index →
    Unoccupied readPos writePos index
  apart : next ≠ readPos

/-- The pushes about which the admission check is wrong: it admits what runs
into the reader at the end of the ring, and it refuses what an empty ring
could take from its start. -/
def Misjudged (count readPos writePos width : Nat) : Prop :=
  (width < count ∧ writePos < readPos ∧ count ≤ writePos + width ∧
      (writePos + width = count ∨ width < readPos)) ∨
    (readPos = writePos ∧ count < writePos + width ∧ readPos < width ∧
      width ≤ count)

instance (count readPos writePos width : Nat) :
    Decidable (Misjudged count readPos writePos width) := by
  unfold Misjudged
  infer_instance

section Placement

variable {count segmentSize writePos width size : Nat}
variable {bytes : ByteMemory} {buffers : List (List UInt8)}

theorem storeMessage_writePos (positive : 1 ≤ width) (narrow : width ≤ 64)
    (bounded : count ≤ maxNumOfDataSegments) (inside : writePos < count) :
    (storeMessage count segmentSize bytes writePos width size buffers).1 =
      if writePos + width > count then
        if width ≥ count then 0 else width
      else if writePos + width = count then 0
      else writePos + width := by
  simp only [maxNumOfDataSegments, sharedMemorySegmentEntrySize] at bounded
  by_cases wraps : writePos + width > count
  · have next : toUInt16 (0 + 1) = 1 := rfl
    have last : toUInt16 (1 + width - 1) = width := by
      rw [toUInt16_of_lt (by omega)]
      omega
    have furthest : max 1 width = width := by omega
    simp only [storeMessage, if_pos wraps, next, last, furthest]
  · have next : toUInt16 (writePos + 1) = writePos + 1 :=
      toUInt16_of_lt (by omega)
    have last : toUInt16 (writePos + 1 + width - 1) = writePos + width := by
      rw [toUInt16_of_lt (by omega)]
      omega
    have furthest : max (writePos + 1) (writePos + width) =
        writePos + width := by
      omega
    simp only [storeMessage, if_neg wraps, next, last, furthest]
    by_cases reaches : writePos + width = count
    · simp [reaches]
    · have short : ¬(writePos + width ≥ count) := by omega
      simp only [if_neg reaches, if_neg short]

end Placement

section Judgement

variable {count readPos writePos width : Nat}

theorem isThereEnoughMemory_iff (positive : 1 ≤ width) (narrow : width ≤ 64)
    (bounded : count ≤ maxNumOfDataSegments) (readInside : readPos < count)
    (writeInside : writePos < count) :
    isThereEnoughMemory count writePos readPos width = true ↔
      width < count ∧
        (if writePos + width > count then width < readPos
          else if writePos + width = count then 0 < readPos
          else writePos + width < readPos ∨ readPos ≤ writePos) := by
  simp only [maxNumOfDataSegments, sharedMemorySegmentEntrySize] at bounded
  have width8 : toUInt8 width = width := toUInt8_of_lt (by omega)
  have read16 : toUInt16 (readPos + count) = readPos + count :=
    toUInt16_of_lt (by omega)
  simp only [isThereEnoughMemory, width8, read16]
  by_cases narrower : width < count
  · rw [if_neg (by omega)]
    rcases Nat.lt_trichotomy (writePos + width) count with
      inside | edge | wraps
    · rw [if_neg (show ¬(writePos + width > count) by omega),
        if_neg (show ¬(writePos + width ≥ count) by omega),
        if_neg (show ¬(writePos + width > count) by omega),
        if_neg (show writePos + width ≠ count by omega)]
      simp only [Bool.or_eq_true, decide_eq_true_eq]
      omega
    · rw [if_neg (show ¬(writePos + width > count) by omega),
        if_pos (show writePos + width ≥ count by omega),
        if_neg (show ¬(writePos + width > count) by omega), if_pos edge]
      simp only [Bool.or_eq_true, decide_eq_true_eq]
      omega
    · have padded8 : toUInt8 (width + (count - writePos)) =
          width + (count - writePos) :=
        toUInt8_of_lt (by omega)
      rw [if_pos (show writePos + width > count from wraps), padded8,
        if_pos (show writePos + (width + (count - writePos)) ≥ count by
          omega), if_pos (show writePos + width > count from wraps)]
      simp only [Bool.or_eq_true, decide_eq_true_eq]
      omega
  · rw [if_pos (by omega)]
    simp [narrower]

theorem placedClear_iff (positive : 1 ≤ width) (readInside : readPos < count)
    (writeInside : writePos < count) :
    PlacedClear count readPos writePos width
        (if writePos + width > count then
          if width ≥ count then 0 else width
        else if writePos + width = count then 0
        else writePos + width) ↔
      if writePos + width > count then
        width ≤ count ∧ readPos ≤ writePos ∧
          (width < readPos ∨ (readPos = writePos ∧ readPos < width))
      else if writePos + width = count then
        readPos ≤ writePos ∧ 0 < readPos
      else writePos + width < readPos ∨ readPos ≤ writePos := by
  constructor
  · rintro ⟨inside, free, apart⟩
    unfold Written Unoccupied at *
    by_cases wraps : writePos + width > count
    · simp only [if_pos wraps] at inside free apart ⊢
      have last := inside (width - 1) (by omega)
      have behind := free (count - 1) (by omega)
      have reader := free readPos
      grind
    · simp only [if_neg wraps] at inside free apart ⊢
      have first := free writePos (by omega)
      have last := free (writePos + width - 1) (by omega)
      grind
  · intro room
    by_cases wraps : writePos + width > count
    · simp only [if_pos wraps] at room ⊢
      constructor
      · intro index written
        rw [Written, if_pos wraps] at written
        omega
      · intro index written
        rw [Written, if_pos wraps] at written
        unfold Unoccupied
        split <;> omega
      · split <;> omega
    · simp only [if_neg wraps] at room ⊢
      constructor
      · intro index written
        rw [Written, if_neg wraps] at written
        omega
      · intro index written
        rw [Written, if_neg wraps] at written
        unfold Unoccupied
        split at room <;> split <;> omega
      · split at room <;> rename_i edge
        · rw [if_pos edge]
          omega
        · rw [if_neg edge]
          omega

theorem isThereEnoughMemory_exact_iff {segmentSize size : Nat}
    {bytes : ByteMemory} {buffers : List (List UInt8)}
    (positive : 1 ≤ width) (narrow : width ≤ 64)
    (bounded : count ≤ maxNumOfDataSegments) (readInside : readPos < count)
    (writeInside : writePos < count) :
    (isThereEnoughMemory count writePos readPos width = true ↔
        PlacedClear count readPos writePos width
          (storeMessage count segmentSize bytes writePos width size
            buffers).1) ↔
      ¬Misjudged count readPos writePos width := by
  rw [isThereEnoughMemory_iff positive narrow bounded readInside writeInside,
    storeMessage_writePos positive narrow bounded writeInside,
    placedClear_iff positive readInside writeInside, Misjudged]
  rcases Nat.lt_trichotomy (writePos + width) count with inside | edge | wraps
  · simp only [if_neg (show ¬(writePos + width > count) by omega),
      if_neg (show writePos + width ≠ count by omega)]
    omega
  · simp only [if_neg (show ¬(writePos + width > count) by omega),
      if_pos edge]
    omega
  · simp only [if_pos (show writePos + width > count from wraps)]
    omega

end Judgement

end Ring

open Ring

/-- In both generations the admission check admits exactly the messages whose
placement is clear, except for the pushes that it misjudges. -/
theorem isThereEnoughMemoryInQueue_exact_iff (process : ShmemIpc.Process)
    (globalData : ShmemIpc2.SharedRingGlobalData) (queue : SharedRingQueue)
    (params : ShmemIpc.QueueParams)
    (found : ShmemIpc.getQueueParams process queue.sharedLocationName =
      some params)
    (readPos writePos width : Nat) (positive : 1 ≤ width)
    (narrow : width ≤ 64) (segmentSize size : Nat) (bytes : ByteMemory)
    (buffers : List (List UInt8)) :
    (2 ≤ params.numOfDataSegments →
      params.numOfDataSegments ≤ maxNumOfDataSegments →
      readPos < params.numOfDataSegments →
      writePos < params.numOfDataSegments →
      ((ShmemIpc.isThereEnoughMemoryInQueue process queue writePos readPos
            width = true ↔
          PlacedClear params.numOfDataSegments readPos writePos width
            (storeMessage params.numOfDataSegments segmentSize bytes writePos
              width size buffers).1) ↔
        ¬Misjudged params.numOfDataSegments readPos writePos width)) ∧
    (2 ≤ globalData.gNumOfDataSegments →
      globalData.gNumOfDataSegments ≤ maxNumOfDataSegments →
      readPos < globalData.gNumOfDataSegments →
      writePos < globalData.gNumOfDataSegments →
      ((ShmemIpc2.isThereEnoughMemoryInQueue globalData writePos readPos
            width = true ↔
          PlacedClear globalData.gNumOfDataSegments readPos writePos width
            (storeMessage globalData.gNumOfDataSegments segmentSize bytes
              writePos width size buffers).1) ↔
        ¬Misjudged globalData.gNumOfDataSegments readPos writePos width)) := by
  constructor
  · intro _ bounded readInside writeInside
    simp only [ShmemIpc.isThereEnoughMemoryInQueue, found]
    exact isThereEnoughMemory_exact_iff positive narrow bounded readInside
      writeInside
  · intro _ bounded readInside writeInside
    exact isThereEnoughMemory_exact_iff positive narrow bounded readInside
      writeInside

theorem isThereEnoughMemoryInQueue_exact_of_small_message :
    let created := ShmemIpc.createSharedRingQueue dualDockerHost (.succeed 3)
      (.start fun _ => none) .empty ['q'] 3 true
    let attached := ShmemIpc2.createSharedRingQueue dualDockerHost
      (.succeed 4) (.start fun _ => none) created.shm ['q'] 3 false true
      ShmemIpc2.createSharedRingGlobalData
    let queue := ((created.shm ['q']).getD emptyShmObject).queue
    (2 ≤ 3 → 3 ≤ maxNumOfDataSegments → 1 < 3 → 2 < 3 →
      ((ShmemIpc.isThereEnoughMemoryInQueue created.process queue 2 1 1 =
            true ↔
          PlacedClear 3 1 2 1
            (storeMessage 3 1024 queue.bytes 2 1 1 [[7]]).1) ↔
        ¬Misjudged 3 1 2 1)) ∧
    (2 ≤ attached.globalData.gNumOfDataSegments →
      attached.globalData.gNumOfDataSegments ≤ maxNumOfDataSegments →
      1 < attached.globalData.gNumOfDataSegments →
      2 < attached.globalData.gNumOfDataSegments →
      ((ShmemIpc2.isThereEnoughMemoryInQueue attached.globalData 2 1 1 =
            true ↔
          PlacedClear attached.globalData.gNumOfDataSegments 1 2 1
            (storeMessage attached.globalData.gNumOfDataSegments 1024
              queue.bytes 2 1 1 [[7]]).1) ↔
        ¬Misjudged attached.globalData.gNumOfDataSegments 1 2 1)) :=
  isThereEnoughMemoryInQueue_exact_iff _ _ _
    { locationName := ['q']
      numOfDataSegments := 3
      memorySize := 4178
      fd := 3
      inUse := true } (by rfl) 1 2 1 (by decide) (by decide) 1024 1 _ [[7]]

/-- In a ring of three with an unread message in its last segment, a message
of two segments is admitted onto it; and a ring of four that is empty at its
middle refuses three segments that it could place. -/
theorem isThereEnoughMemoryInQueue_inexact :
    let three := ShmemIpc.createSharedRingQueue dualDockerHost (.succeed 3)
      (.start fun _ => none) .empty ['q'] 3 true
    let four := ShmemIpc.createSharedRingQueue dualDockerHost (.succeed 3)
      (.start fun _ => none) .empty ['q'] 4 true
    let queue (created : ShmemIpc.Creation) :=
      ((created.shm ['q']).getD emptyShmObject).queue
    ShmemIpc.isThereEnoughMemoryInQueue three.process (queue three) 1 2 2 =
        true ∧
      (∀ bytes, ¬PlacedClear 3 2 1 2
        (storeMessage 3 1024 bytes 1 2 1025
          [List.replicate 1025 (0 : UInt8)]).1) ∧
      ShmemIpc.isThereEnoughMemoryInQueue four.process (queue four) 2 2 3 =
        false ∧
      ∀ bytes, PlacedClear 4 2 2 3
        (storeMessage 4 1024 bytes 2 3 2049
          [List.replicate 2049 (0 : UInt8)]).1 := by
  refine ⟨by decide +kernel, ?_, by decide +kernel, ?_⟩
  · intro bytes placed
    have written : Written 3 1 2 2 := by simp [Written]
    have unread := placed.free 2 written
    simp [Unoccupied] at unread
  · intro bytes
    rw [storeMessage_writePos (by decide) (by decide) (by decide)
      (by decide)]
    exact (placedClear_iff (by decide) (by decide) (by decide)).mpr
      (by decide)

end OpenAppsec
