import OpenAppsec.Library.Trace
import OpenAppsec.Ring.Operations
import OpenAppsec.Ring.ShmemIpc
import OpenAppsec.Ring.ShmemIpc2

/-!
# The two generations of the ring queue

Each version, once its registered parameters are looked up and its caches are
filled, computes the operations on a queue of known geometry.  An agent and an
attachment linked with different versions therefore agree on every result and
on every byte they leave in the shared queue.
-/

namespace OpenAppsec

open Ring

variable {queue : SharedRingQueue}

namespace ShmemIpc2

variable {globalData : SharedRingGlobalData}

/-- The limits that the data operations of the second generation use. -/
structure Registered (host : Host) (process : Process)
    (globalData : SharedRingGlobalData) (limits : Limits) : Prop where
  count : globalData.gNumOfDataSegments = limits.numOfDataSegments
  memorySize : globalData.gMemorySize = limits.memorySize
  segmentSize : (getEffectiveSegmentSize host process).1 = limits.segmentSize
  entrySize : limits.entrySize = limits.segmentSize

theorem getEffectiveSegmentSize_again (host : Host) (process : Process) :
    getEffectiveSegmentSize host (getEffectiveSegmentSize host process).2 =
      getEffectiveSegmentSize host process := by
  cases initialized : process.gEffectiveSizeInitialized with
  | true => simp [getEffectiveSegmentSize, initialized]
  | false => simp [getEffectiveSegmentSize, initialized]

theorem Registered.cached {host : Host} {process : Process} {limits : Limits}
    (registered : Registered host process globalData limits) :
    Registered host (getEffectiveSegmentSize host process).2 globalData
      limits :=
  { registered with
    segmentSize := by
      rw [getEffectiveSegmentSize_again]
      exact registered.segmentSize }

theorem isGetPossitionSucceccful_eq {host : Host} {process : Process}
    {limits : Limits} (registered : Registered host process globalData limits)
    (queue : SharedRingQueue) :
    isGetPossitionSucceccful queue globalData = positions limits queue := by
  simp only [isGetPossitionSucceccful, positions, registered.count,
    registered.memorySize]

theorem peekToQueue_eq {host : Host} {process : Process} {limits : Limits}
    (registered : Registered host process globalData limits)
    (queue : SharedRingQueue) :
    let outcome := peekToQueue host process queue globalData
    (outcome.code, outcome.output, outcome.queue) = peek limits queue ∧
      Registered host outcome.process globalData limits := by
  simp only [peekToQueue, peek, isGetPossitionSucceccful_eq registered,
    getDataSegmentAddress, registered.count, registered.segmentSize]
  cases positions limits queue with
  | none => exact ⟨rfl, registered⟩
  | some pair =>
      obtain ⟨readPos, writePos⟩ := pair
      dsimp only
      split
      · exact ⟨rfl, registered⟩
      · split
        · exact ⟨rfl, registered⟩
        · exact ⟨rfl, registered.cached⟩

theorem pushBuffersToQueue_eq {host : Host} {process : Process}
    {limits : Limits} (registered : Registered host process globalData limits)
    (queue : SharedRingQueue) (buffers : List (List UInt8)) :
    let outcome := pushBuffersToQueue host process queue globalData buffers
    (outcome.code, outcome.queue) = push limits queue buffers ∧
      Registered host outcome.process globalData limits := by
  have again := getEffectiveSegmentSize_again host process
  simp only [pushBuffersToQueue, push, isGetPossitionSucceccful_eq registered,
    getDataSegmentAddress, getNumOfDataSegmentsNeeded, again,
    isThereEnoughMemoryInQueue, registered.count, registered.segmentSize,
    registered.entrySize]
  cases positions limits queue with
  | none => exact ⟨rfl, registered⟩
  | some pair =>
      obtain ⟨readPos, writePos⟩ := pair
      cases totalElemSize 0 buffers with
      | none => exact ⟨rfl, registered⟩
      | some total =>
          dsimp only
          split
          · exact ⟨rfl, registered.cached⟩
          · split
            · exact ⟨rfl, registered.cached⟩
            · exact ⟨rfl, registered.cached⟩

theorem popFromQueue_eq {host : Host} {process : Process} {limits : Limits}
    (registered : Registered host process globalData limits)
    (queue : SharedRingQueue) :
    let outcome := popFromQueue host process queue globalData
    (outcome.code, outcome.queue) = pop limits queue ∧
      Registered host outcome.process globalData limits := by
  simp only [popFromQueue, pop, isGetPossitionSucceccful_eq registered,
    getNumOfDataSegmentsNeeded, registered.count, registered.segmentSize,
    registered.entrySize]
  cases positions limits queue with
  | none => exact ⟨rfl, registered⟩
  | some pair =>
      obtain ⟨readPos, writePos⟩ := pair
      dsimp only
      split
      · exact ⟨rfl, registered⟩
      · exact ⟨rfl, registered.cached⟩

end ShmemIpc2

namespace ShmemIpc

/-- The limits that the data operations of the first generation use for a
queue of the given name.  The two sizes are looked up lazily, and neither
lookup may disturb the other. -/
structure Registered (host : Host) (process : Process) (name : CString)
    (limits : Limits) : Prop where
  params : ∃ params, getQueueParams process name = some params ∧
    params.numOfDataSegments = limits.numOfDataSegments ∧
    params.memorySize = limits.memorySize
  segmentSize : (getEffectiveSegmentSize host process).1 = limits.segmentSize
  entrySize : (getEffectiveEntrySize host process).1 = limits.entrySize
  segmentThenEntry :
    (getEffectiveEntrySize host (getEffectiveSegmentSize host process).2).1 =
      limits.entrySize
  entryThenSegment :
    (getEffectiveSegmentSize host (getEffectiveEntrySize host process).2).1 =
      limits.segmentSize

theorem initializeDockerEnvironment_frame (host : Host)
    (process : Process) :
    let after := initializeDockerEnvironment host process
    after.gQueueParams = process.gQueueParams ∧
      after.gEffectiveSizeInitialized = process.gEffectiveSizeInitialized ∧
      after.gEffectiveSegmentSize = process.gEffectiveSegmentSize ∧
      after.gEffectiveEntrySize = process.gEffectiveEntrySize := by
  unfold initializeDockerEnvironment
  split <;> exact ⟨rfl, rfl, rfl, rfl⟩

theorem isLargerDataSegmentSupported_frame (host : Host)
    (process : Process) :
    let after := (isLargerDataSegmentSupported host process).2
    after.gQueueParams = process.gQueueParams ∧
      after.gEffectiveSizeInitialized = process.gEffectiveSizeInitialized ∧
      after.gEffectiveSegmentSize = process.gEffectiveSegmentSize ∧
      after.gEffectiveEntrySize = process.gEffectiveEntrySize := by
  unfold isLargerDataSegmentSupported
  dsimp only
  split
  · exact initializeDockerEnvironment_frame host process
  · exact initializeDockerEnvironment_frame host process

theorem getEffectiveEntrySize_frame (host : Host) (process : Process) :
    let after := (getEffectiveEntrySize host process).2
    after.gQueueParams = process.gQueueParams ∧
      after.gEffectiveSizeInitialized = process.gEffectiveSizeInitialized ∧
      after.gEffectiveSegmentSize = process.gEffectiveSegmentSize := by
  obtain ⟨table, initialized, segment, _⟩ :=
    isLargerDataSegmentSupported_frame host process
  unfold getEffectiveEntrySize
  split
  · exact ⟨rfl, rfl, rfl⟩
  · exact ⟨table, initialized, segment⟩

theorem getEffectiveEntrySize_again (host : Host) (process : Process) :
    getEffectiveEntrySize host (getEffectiveEntrySize host process).2 =
      getEffectiveEntrySize host process := by
  by_cases cached : process.gEffectiveEntrySize = 0
  · have evaluated : ∀ supported : Bool,
        (if supported = true then sharedMemorySegmentEntrySize
          else sharedMemorySegmentEntrySizeBC) ≠ 0 := by
      intro supported
      cases supported <;> decide
    simp [getEffectiveEntrySize, cached, evaluated]
  · simp [getEffectiveEntrySize, cached]

theorem getEffectiveSegmentSize_of_initialized {host : Host}
    {process : Process}
    (initialized : process.gEffectiveSizeInitialized = true) :
    getEffectiveSegmentSize host process =
      (process.gEffectiveSegmentSize, process) := by
  simp [getEffectiveSegmentSize, initialized]

theorem getEffectiveEntrySize_of_cached {host : Host} {process : Process}
    (cached : process.gEffectiveEntrySize ≠ 0) :
    getEffectiveEntrySize host process =
      (process.gEffectiveEntrySize, process) := by
  simp [getEffectiveEntrySize, cached]

theorem getEffectiveEntrySize_cached (host : Host) (process : Process) :
    (getEffectiveEntrySize host process).2.gEffectiveEntrySize ≠ 0 ∧
      (getEffectiveEntrySize host process).2.gEffectiveEntrySize =
        (getEffectiveEntrySize host process).1 := by
  unfold getEffectiveEntrySize
  split
  · rename_i cached
    exact ⟨cached, rfl⟩
  · refine ⟨?_, rfl⟩
    dsimp only
    split <;> decide

theorem getEffectiveSegmentSize_initialized (host : Host)
    (process : Process) :
    (getEffectiveSegmentSize host process).2.gEffectiveSizeInitialized =
        true ∧
      (getEffectiveSegmentSize host process).2.gEffectiveSegmentSize =
        (getEffectiveSegmentSize host process).1 := by
  unfold getEffectiveSegmentSize
  split
  · rename_i initialized
    exact ⟨initialized, rfl⟩
  · dsimp only
    split
    · exact ⟨rfl, rfl⟩
    · refine ⟨?_, rfl⟩
      exact (isLargerDataSegmentSupported_frame host _).2.1

theorem getEffectiveSegmentSize_frame (host : Host) (process : Process) :
    let after := (getEffectiveSegmentSize host process).2
    after.gQueueParams = process.gQueueParams ∧
      after.gEffectiveEntrySize = process.gEffectiveEntrySize := by
  unfold getEffectiveSegmentSize
  split
  · exact ⟨rfl, rfl⟩
  · dsimp only
    split
    · exact ⟨rfl, rfl⟩
    · obtain ⟨table, _, _, entry⟩ := isLargerDataSegmentSupported_frame host
        { process with gEffectiveSizeInitialized := true }
      exact ⟨table, entry⟩

theorem getEffectiveSegmentSize_again (host : Host) (process : Process) :
    getEffectiveSegmentSize host (getEffectiveSegmentSize host process).2 =
      getEffectiveSegmentSize host process := by
  obtain ⟨initialized, cached⟩ :=
    getEffectiveSegmentSize_initialized host process
  rw [getEffectiveSegmentSize_of_initialized initialized, cached]

namespace Registered

variable {host : Host} {process : Process} {name : CString} {limits : Limits}

/-- Once the segment size is cached the two lookups are independent. -/
theorem of_initialized
    (params : ∃ params, getQueueParams process name = some params ∧
      params.numOfDataSegments = limits.numOfDataSegments ∧
      params.memorySize = limits.memorySize)
    (initialized : process.gEffectiveSizeInitialized = true)
    (segmentSize : process.gEffectiveSegmentSize = limits.segmentSize)
    (entrySize : (getEffectiveEntrySize host process).1 = limits.entrySize) :
    Registered host process name limits := by
  obtain ⟨_, stillInitialized, sameSegment⟩ :=
    getEffectiveEntrySize_frame host process
  refine ⟨params, ?_, entrySize, ?_, ?_⟩
  · rw [getEffectiveSegmentSize_of_initialized initialized, segmentSize]
  · rw [getEffectiveSegmentSize_of_initialized initialized, entrySize]
  · rw [getEffectiveSegmentSize_of_initialized
      (stillInitialized.trans initialized)]
    exact sameSegment.trans segmentSize

variable (registered : Registered host process name limits)

include registered

theorem afterSegment :
    Registered host (getEffectiveSegmentSize host process).2 name limits := by
  obtain ⟨initialized, cached⟩ :=
    getEffectiveSegmentSize_initialized host process
  apply of_initialized
  · have table := (getEffectiveSegmentSize_frame host process).1
    simpa only [getQueueParams, table] using registered.params
  · exact initialized
  · rw [cached, registered.segmentSize]
  · exact registered.segmentThenEntry

theorem afterEntry :
    Registered host (getEffectiveEntrySize host process).2 name limits := by
  obtain ⟨table, _, _⟩ := getEffectiveEntrySize_frame host process
  obtain ⟨nonzero, cached⟩ := getEffectiveEntrySize_cached host process
  constructor
  · simpa only [getQueueParams, table] using registered.params
  · exact registered.entryThenSegment
  · rw [getEffectiveEntrySize_again, registered.entrySize]
  · have kept := (getEffectiveSegmentSize_frame host
      (getEffectiveEntrySize host process).2).2
    rw [getEffectiveEntrySize_of_cached (kept ▸ nonzero)]
    exact (kept.trans cached).trans registered.entrySize
  · rw [getEffectiveEntrySize_again, registered.entryThenSegment]

theorem getDataSegmentAddress_eq (index : Nat) :
    (getDataSegmentAddress host process index).1 =
      dataSegmentAddress limits.segmentSize index := by
  simp only [getDataSegmentAddress, registered.segmentSize]

theorem getNumOfDataSegmentsNeeded_eq (dataSize : Nat) :
    (getNumOfDataSegmentsNeeded host process dataSize).1 =
      numOfDataSegmentsNeeded limits.entrySize dataSize := by
  simp only [getNumOfDataSegmentsNeeded, registered.entrySize]

omit registered

theorem isThereEnoughMemoryInQueue_eq
    (registered : Registered host process queue.sharedLocationName limits)
    (writePos readPos numOfElemToPush : Nat) :
    isThereEnoughMemoryInQueue process queue writePos readPos
        numOfElemToPush =
      isThereEnoughMemory limits.numOfDataSegments writePos readPos
        numOfElemToPush := by
  obtain ⟨params, found, count, _⟩ := registered.params
  simp only [isThereEnoughMemoryInQueue, found, count]

theorem isGetPossitionSucceccful_eq
    (registered : Registered host process queue.sharedLocationName limits) :
    isGetPossitionSucceccful process queue = positions limits queue := by
  obtain ⟨params, found, count, memorySize⟩ := registered.params
  simp only [isGetPossitionSucceccful, positions, found, count, memorySize]

end Registered

theorem peekToQueue_eq {host : Host} {process : Process} {limits : Limits}
    (registered :
      Registered host process queue.sharedLocationName limits) :
    let outcome := peekToQueue host process queue
    (outcome.code, outcome.output, outcome.queue) = peek limits queue ∧
      Registered host outcome.process outcome.queue.sharedLocationName
        limits := by
  obtain ⟨params, found, count, _⟩ := registered.params
  simp only [peekToQueue, peek, registered.isGetPossitionSucceccful_eq,
    found, count, registered.getDataSegmentAddress_eq]
  cases positions limits queue with
  | none => exact ⟨rfl, registered⟩
  | some pair =>
      obtain ⟨readPos, writePos⟩ := pair
      dsimp only
      split
      · exact ⟨rfl, registered⟩
      · split
        · exact ⟨rfl, registered⟩
        · exact ⟨rfl, registered.afterSegment⟩

theorem pushBuffersToQueue_eq {host : Host} {process : Process}
    {limits : Limits}
    (registered : Registered host process queue.sharedLocationName limits)
    (buffers : List (List UInt8)) :
    let outcome := pushBuffersToQueue host process queue buffers
    (outcome.code, outcome.queue) = push limits queue buffers ∧
      Registered host outcome.process outcome.queue.sharedLocationName
        limits := by
  obtain ⟨params, found, count, _⟩ := registered.params
  have counted : ∀ dataSize, Registered host
      (getNumOfDataSegmentsNeeded host process dataSize).2
      queue.sharedLocationName limits :=
    fun _ => registered.afterEntry
  simp only [pushBuffersToQueue, push, registered.isGetPossitionSucceccful_eq,
    found, count, registered.getNumOfDataSegmentsNeeded_eq,
    (counted _).getDataSegmentAddress_eq,
    (counted _).isThereEnoughMemoryInQueue_eq]
  cases positions limits queue with
  | none => exact ⟨rfl, registered⟩
  | some pair =>
      obtain ⟨readPos, writePos⟩ := pair
      cases totalElemSize 0 buffers with
      | none => exact ⟨rfl, registered⟩
      | some total =>
          dsimp only
          split
          · exact ⟨rfl, counted (toUInt16 total)⟩
          · split
            · exact ⟨rfl, counted (toUInt16 total)⟩
            · exact ⟨rfl, (counted (toUInt16 total)).afterSegment⟩

theorem popFromQueue_eq {host : Host} {process : Process} {limits : Limits}
    (registered :
      Registered host process queue.sharedLocationName limits) :
    let outcome := popFromQueue host process queue
    (outcome.code, outcome.queue) = pop limits queue ∧
      Registered host outcome.process outcome.queue.sharedLocationName
        limits := by
  obtain ⟨params, found, count, _⟩ := registered.params
  simp only [popFromQueue, pop, registered.isGetPossitionSucceccful_eq,
    found, count, registered.getNumOfDataSegmentsNeeded_eq]
  cases positions limits queue with
  | none => exact ⟨rfl, registered⟩
  | some pair =>
      obtain ⟨readPos, writePos⟩ := pair
      dsimp only
      split
      · exact ⟨rfl, registered⟩
      · exact ⟨rfl, registered.afterEntry⟩

end ShmemIpc

/-- One call served by the first generation. -/
def ShmemIpc.serve (host : Host)
    (state : ShmemIpc.Process × SharedRingQueue) (call : QueueCall) :
    QueueAnswer × (ShmemIpc.Process × SharedRingQueue) :=
  let (process, queue) := state
  match call with
  | .pushBuffersToQueue buffers =>
      let outcome := ShmemIpc.pushBuffersToQueue host process queue buffers
      (⟨outcome.code, none, outcome.queue⟩, outcome.process, outcome.queue)
  | .pushToQueue buffer =>
      let outcome := ShmemIpc.pushToQueue host process queue buffer
      (⟨outcome.code, none, outcome.queue⟩, outcome.process, outcome.queue)
  | .peekToQueue =>
      let outcome := ShmemIpc.peekToQueue host process queue
      (⟨outcome.code, outcome.output, outcome.queue⟩, outcome.process,
        outcome.queue)
  | .popFromQueue =>
      let outcome := ShmemIpc.popFromQueue host process queue
      (⟨outcome.code, none, outcome.queue⟩, outcome.process, outcome.queue)
  | .isQueueEmpty =>
      (⟨(ShmemIpc.isQueueEmpty queue).toInt, none, queue⟩, process, queue)

/-- One call served by the second generation. -/
def ShmemIpc2.serve (host : Host)
    (globalData : ShmemIpc2.SharedRingGlobalData)
    (state : ShmemIpc2.Process × SharedRingQueue) (call : QueueCall) :
    QueueAnswer × (ShmemIpc2.Process × SharedRingQueue) :=
  let (process, queue) := state
  match call with
  | .pushBuffersToQueue buffers =>
      let outcome :=
        ShmemIpc2.pushBuffersToQueue host process queue globalData buffers
      (⟨outcome.code, none, outcome.queue⟩, outcome.process, outcome.queue)
  | .pushToQueue buffer =>
      let outcome :=
        ShmemIpc2.pushToQueue host process queue globalData buffer
      (⟨outcome.code, none, outcome.queue⟩, outcome.process, outcome.queue)
  | .peekToQueue =>
      let outcome := ShmemIpc2.peekToQueue host process queue globalData
      (⟨outcome.code, outcome.output, outcome.queue⟩, outcome.process,
        outcome.queue)
  | .popFromQueue =>
      let outcome := ShmemIpc2.popFromQueue host process queue globalData
      (⟨outcome.code, none, outcome.queue⟩, outcome.process, outcome.queue)
  | .isQueueEmpty =>
      (⟨(ShmemIpc2.isQueueEmpty queue).toInt, none, queue⟩, process, queue)

/-- The first generation computes the calls of a queue of known geometry. -/
theorem ShmemIpc.serve_eq {host : Host} {limits : Limits}
    (state : ShmemIpc.Process × SharedRingQueue)
    (registered :
      ShmemIpc.Registered host state.1 state.2.sharedLocationName limits)
    (call : QueueCall) :
    let served := ShmemIpc.serve host state call
    served.1 = Ring.serve limits state.2 call ∧
      served.2.2 = (Ring.serve limits state.2 call).queue ∧
      ShmemIpc.Registered host served.2.1 served.2.2.sharedLocationName
        limits := by
  obtain ⟨process, queue⟩ := state
  have pushed : ∀ buffers,
      let outcome := ShmemIpc.pushBuffersToQueue host process queue buffers
      outcome.code = (Ring.push limits queue buffers).1 ∧
        outcome.queue = (Ring.push limits queue buffers).2 ∧
        ShmemIpc.Registered host outcome.process
          outcome.queue.sharedLocationName limits := by
    intro buffers
    obtain ⟨result, after⟩ :=
      ShmemIpc.pushBuffersToQueue_eq registered buffers
    exact ⟨congrArg Prod.fst result, congrArg Prod.snd result, after⟩
  cases call with
  | pushBuffersToQueue buffers =>
      obtain ⟨code, queueEq, after⟩ := pushed buffers
      exact ⟨by simp only [ShmemIpc.serve, Ring.serve, code, queueEq], queueEq,
        after⟩
  | pushToQueue buffer =>
      obtain ⟨code, queueEq, after⟩ := pushed [buffer]
      exact ⟨by simp only [ShmemIpc.serve, Ring.serve, ShmemIpc.pushToQueue, code,
        queueEq], queueEq, after⟩
  | peekToQueue =>
      obtain ⟨result, after⟩ := ShmemIpc.peekToQueue_eq registered
      simp only [Prod.ext_iff] at result
      obtain ⟨code, output, queueEq⟩ := result
      exact ⟨by simp only [ShmemIpc.serve, Ring.serve, code, output, queueEq],
        queueEq, after⟩
  | popFromQueue =>
      obtain ⟨result, after⟩ := ShmemIpc.popFromQueue_eq registered
      simp only [Prod.ext_iff] at result
      exact ⟨by simp only [ShmemIpc.serve, Ring.serve, result.1, result.2],
        result.2, after⟩
  | isQueueEmpty => exact ⟨rfl, rfl, registered⟩

/-- The second generation computes the calls of a queue of known geometry. -/
theorem ShmemIpc2.serve_eq {host : Host} {limits : Limits}
    {globalData : ShmemIpc2.SharedRingGlobalData}
    (state : ShmemIpc2.Process × SharedRingQueue)
    (registered : ShmemIpc2.Registered host state.1 globalData limits)
    (call : QueueCall) :
    let served := ShmemIpc2.serve host globalData state call
    served.1 = Ring.serve limits state.2 call ∧
      served.2.2 = (Ring.serve limits state.2 call).queue ∧
      ShmemIpc2.Registered host served.2.1 globalData limits := by
  obtain ⟨process, queue⟩ := state
  have pushed : ∀ buffers,
      let outcome :=
        ShmemIpc2.pushBuffersToQueue host process queue globalData buffers
      outcome.code = (Ring.push limits queue buffers).1 ∧
        outcome.queue = (Ring.push limits queue buffers).2 ∧
        ShmemIpc2.Registered host outcome.process globalData limits := by
    intro buffers
    obtain ⟨result, after⟩ :=
      ShmemIpc2.pushBuffersToQueue_eq registered queue buffers
    exact ⟨congrArg Prod.fst result, congrArg Prod.snd result, after⟩
  cases call with
  | pushBuffersToQueue buffers =>
      obtain ⟨code, queueEq, after⟩ := pushed buffers
      exact ⟨by simp only [ShmemIpc2.serve, Ring.serve, code, queueEq], queueEq,
        after⟩
  | pushToQueue buffer =>
      obtain ⟨code, queueEq, after⟩ := pushed [buffer]
      exact ⟨by simp only [ShmemIpc2.serve, Ring.serve, ShmemIpc2.pushToQueue,
        code, queueEq], queueEq, after⟩
  | peekToQueue =>
      obtain ⟨result, after⟩ := ShmemIpc2.peekToQueue_eq registered queue
      simp only [Prod.ext_iff] at result
      obtain ⟨code, output, queueEq⟩ := result
      exact ⟨by simp only [ShmemIpc2.serve, Ring.serve, code, output, queueEq],
        queueEq, after⟩
  | popFromQueue =>
      obtain ⟨result, after⟩ := ShmemIpc2.popFromQueue_eq registered queue
      simp only [Prod.ext_iff] at result
      exact ⟨by simp only [ShmemIpc2.serve, Ring.serve, result.1, result.2],
        result.2, after⟩
  | isQueueEmpty => exact ⟨rfl, rfl, registered⟩

/-- A process linked with one of the two versions. -/
inductive Party where
  | shmemIpc (host : Host) (process : ShmemIpc.Process)
  | shmemIpc2 (host : Host) (globalData : ShmemIpc2.SharedRingGlobalData)
      (process : ShmemIpc2.Process)

namespace Party

/-- One call of a party on a queue in shared memory. -/
def serve (party : Party) (queue : SharedRingQueue) (call : QueueCall) :
    QueueAnswer × Party :=
  match party with
  | shmemIpc host process =>
      let (answer, process, _) := ShmemIpc.serve host (process, queue) call
      (answer, shmemIpc host process)
  | shmemIpc2 host globalData process =>
      let (answer, process, _) :=
        ShmemIpc2.serve host globalData (process, queue) call
      (answer, shmemIpc2 host globalData process)

/-- The party uses the given limits for queues of the given name. -/
def Registered (party : Party) (name : CString) (limits : Limits) : Prop :=
  match party with
  | shmemIpc host process => ShmemIpc.Registered host process name limits
  | shmemIpc2 host globalData process =>
      ShmemIpc2.Registered host process globalData limits

/-- Whichever version it is linked with, a party computes the calls of a
queue of known geometry. -/
theorem serve_eq {party : Party} {limits : Limits}
    (registered : party.Registered queue.sharedLocationName limits)
    (call : QueueCall) :
    (party.serve queue call).1 = Ring.serve limits queue call ∧
      (party.serve queue call).2.Registered
        (Ring.serve limits queue call).queue.sharedLocationName limits := by
  cases party with
  | shmemIpc host process =>
      obtain ⟨answer, queueEq, after⟩ :=
        ShmemIpc.serve_eq (process, queue) registered call
      rw [queueEq] at after
      exact ⟨answer, after⟩
  | shmemIpc2 host globalData process =>
      obtain ⟨answer, _, after⟩ :=
        ShmemIpc2.serve_eq (process, queue) registered call
      exact ⟨answer, after⟩

end Party

/-- The two versions hold the same queue and use the same limits for it. -/
def SharesQueue (host₁ host₂ : Host)
    (globalData : ShmemIpc2.SharedRingGlobalData) (limits : Limits)
    (first : ShmemIpc.Process × SharedRingQueue)
    (second : ShmemIpc2.Process × SharedRingQueue) : Prop :=
  first.2 = second.2 ∧
    ShmemIpc.Registered host₁ first.1 first.2.sharedLocationName limits ∧
    ShmemIpc2.Registered host₂ second.1 globalData limits

theorem serve_agree {host₁ host₂ : Host}
    {globalData : ShmemIpc2.SharedRingGlobalData} {limits : Limits}
    {first : ShmemIpc.Process × SharedRingQueue}
    {second : ShmemIpc2.Process × SharedRingQueue}
    (shares : SharesQueue host₁ host₂ globalData limits first second)
    (call : QueueCall) :
    (ShmemIpc.serve host₁ first call).1 =
        (ShmemIpc2.serve host₂ globalData second call).1 ∧
      SharesQueue host₁ host₂ globalData limits
        (ShmemIpc.serve host₁ first call).2
        (ShmemIpc2.serve host₂ globalData second call).2 := by
  obtain ⟨sameQueue, registered₁, registered₂⟩ := shares
  obtain ⟨answer₁, queue₁, after₁⟩ := ShmemIpc.serve_eq first registered₁ call
  obtain ⟨answer₂, queue₂, after₂⟩ := ShmemIpc2.serve_eq second registered₂ call
  rw [sameQueue] at answer₁ queue₁
  exact ⟨answer₁.trans answer₂.symm, queue₁.trans queue₂.symm, after₁,
    after₂⟩

end OpenAppsec
