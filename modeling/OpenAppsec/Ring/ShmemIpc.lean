import OpenAppsec.Library.SlotTable
import OpenAppsec.Ring.SharedObjects

/-!
# The first generation of the ring queue

The functions of `core/shmem_ipc/shared_ring_queue.c`.  The limits of a queue
are found by its name in a table of the process, and two process-wide caches
hold the segment size and the entry size.
-/

namespace OpenAppsec.ShmemIpc

open Ring

/-- `MAX_QUEUES`. -/
def maxQueues : Nat := 4

structure QueueParams where
  locationName : CString
  numOfDataSegments : Nat
  memorySize : Int
  fd : Int
  inUse : Bool

/-- The static variables of the library, with the environment they are
computed from. -/
structure Process where
  gQueueParams : List QueueParams
  gEffectiveSegmentSize : Nat
  gEffectiveEntrySize : Nat
  gEffectiveSizeInitialized : Bool
  gDockerEnvInitialized : Bool
  isDualDockerNginxEnv : Bool
  isDualDockerEnv : Bool
  environ : Environ

def initializeDockerEnvironment (host : Host) (process : Process) :
    Process :=
  if process.gDockerEnvInitialized then process
  else
    { process with
      gDockerEnvInitialized := true
      isDualDockerNginxEnv := host.dualDockerNginxFile
      isDualDockerEnv := (process.environ infinityNextNanoAgent).isSome }

/-- A slot as `initializeQueueParams` and `removeQueueParams` leave it. -/
def unusedQueueParams : QueueParams :=
  { locationName := []
    numOfDataSegments := 0
    memorySize := -1
    fd := -1
    inUse := false }

/-- The static variables when a process starts. -/
def Process.start (environ : Environ) : Process :=
  { gQueueParams := List.replicate maxQueues unusedQueueParams
    gEffectiveSegmentSize := 0
    gEffectiveEntrySize := 0
    gEffectiveSizeInitialized := false
    gDockerEnvInitialized := false
    isDualDockerNginxEnv := false
    isDualDockerEnv := false
    environ }

/-- `g_queue_params[i].in_use && strcmp(...) == 0`. -/
def QueueParams.isFor (locationName : CString) (params : QueueParams) : Bool :=
  params.inUse && decide (params.locationName = locationName)

def getQueueParams (process : Process) (locationName : CString) :
    Option QueueParams :=
  process.gQueueParams.find? (QueueParams.isFor locationName)

/-- `none` when no slot is available. -/
def addQueueParams (process : Process) (locationName : CString)
    (numOfDataSegments : Nat) (memorySize fd : Int) : Option Process :=
  if process.gQueueParams.any (QueueParams.isFor locationName) then
    some
      { process with
        gQueueParams :=
          SlotTable.replaceFirst (QueueParams.isFor locationName)
            (fun params => { params with numOfDataSegments, memorySize, fd })
            process.gQueueParams }
  else if process.gQueueParams.any (fun params => !params.inUse) then
    some
      { process with
        gQueueParams :=
          SlotTable.replaceFirst (fun params => !params.inUse)
            (fun _ =>
              { locationName := snprintfName locationName
                numOfDataSegments
                memorySize
                fd
                inUse := true })
            process.gQueueParams }
  else
    none

def removeQueueParams (process : Process) (locationName : CString) :
    Process :=
  { process with
    gQueueParams :=
      SlotTable.replaceFirst (QueueParams.isFor locationName)
        (fun _ => unusedQueueParams) process.gQueueParams }

def isLargerDataSegmentSupported (host : Host) (process : Process) :
    Bool × Process :=
  let process := initializeDockerEnvironment host process
  if !process.isDualDockerEnv && !process.isDualDockerNginxEnv then
    (true, process)
  else
    let answer := readLargerDataSegmentSupported host process.environ
    (answer.1, { process with environ := answer.2 })

/-- The size that `EFFECTIVE_SHM_SEGMENT_SIZE` sets directly, when it is set to
a positive number. -/
def environmentSegmentSize (environ : Environ) : Option Nat :=
  match environ effectiveShmSegmentSize with
  | none => none
  | some text =>
      if atoi text > 0 then some (toUInt16 (atoi text).toNat) else none

def getEffectiveSegmentSize (host : Host) (process : Process) :
    Nat × Process :=
  if process.gEffectiveSizeInitialized then
    (process.gEffectiveSegmentSize, process)
  else
    let process := { process with gEffectiveSizeInitialized := true }
    match environmentSegmentSize process.environ with
    | some size => (size, { process with gEffectiveSegmentSize := size })
    | none =>
        let supported := isLargerDataSegmentSupported host process
        let size :=
          if supported.1 then sharedMemorySegmentEntrySize
          else sharedMemorySegmentEntrySizeBC
        (size, { supported.2 with gEffectiveSegmentSize := size })

def getEffectiveEntrySize (host : Host) (process : Process) :
    Nat × Process :=
  if process.gEffectiveEntrySize ≠ 0 then
    (process.gEffectiveEntrySize, process)
  else
    let supported := isLargerDataSegmentSupported host process
    let size :=
      if supported.1 then sharedMemorySegmentEntrySize
      else sharedMemorySegmentEntrySizeBC
    (size, { supported.2 with gEffectiveEntrySize := size })

def getEffectiveSharedRingQueueSize (host : Host) (process : Process) :
    Nat × Process :=
  let size := getEffectiveSegmentSize host process
  (sizeOfSharedRingQueue - sharedMemorySegmentEntrySize + size.1, size.2)

def getDataSegmentAddress (host : Host) (process : Process)
    (segmentIdx : Nat) : Nat × Process :=
  let size := getEffectiveSegmentSize host process
  (dataSegmentAddress size.1 segmentIdx, size.2)

def getNumOfDataSegmentsNeeded (host : Host) (process : Process)
    (dataSize : Nat) : Nat × Process :=
  let size := getEffectiveEntrySize host process
  (numOfDataSegmentsNeeded size.1 dataSize, size.2)

def isThereEnoughMemoryInQueue (process : Process) (queue : SharedRingQueue)
    (writePos readPos numOfElemToPush : Nat) : Bool :=
  match getQueueParams process queue.sharedLocationName with
  | none => false
  | some params =>
      isThereEnoughMemory params.numOfDataSegments writePos readPos
        numOfElemToPush

/-- The read and write positions, or `none` for a corrupted queue. -/
def isGetPossitionSucceccful (process : Process) (queue : SharedRingQueue) :
    Option (Nat × Nat) :=
  match getQueueParams process queue.sharedLocationName with
  | none => none
  | some params =>
      if params.numOfDataSegments = 0 then none
      else if queue.numOfDataSegments ≠ params.numOfDataSegments then none
      else if queue.sizeOfMemory ≠ params.memorySize then none
      else if queue.readPos > params.numOfDataSegments then none
      else if queue.writePos > params.numOfDataSegments then none
      else some (queue.readPos, queue.writePos)

/-- Whether `createSharedRingQueue` returned a queue, and what it changed. -/
structure Creation where
  opened : Bool
  process : Process
  shm : ShmStore

/-- The segment size adopted from the header of an existing queue. -/
def adoptSegmentSize (host : Host) (calls : SystemCalls)
    (object : ShmObject) (process : Process) : Process :=
  let adoptedSize := deriveSegmentSizeFromExistingQueue calls object
  if adoptedSize = 0 then process
  else
    let negotiated := getEffectiveSegmentSize host process
    if adoptedSize ≠ negotiated.1 then
      { negotiated.2 with
        gEffectiveSegmentSize := adoptedSize
        gEffectiveEntrySize := adoptedSize
        gEffectiveSizeInitialized := true }
    else
      negotiated.2

def createSharedRingQueue (host : Host) (calls : SystemCalls)
    (process : Process) (shm : ShmStore) (name : CString)
    (numOfDataSegments : Nat) (isOwner : Bool) : Creation :=
  let process :=
    { process with
      gEffectiveSizeInitialized := false
      gEffectiveEntrySize := 0 }
  if numOfDataSegments > maxNumOfDataSegments then
    { opened := false, process, shm }
  else
    match shmOpen calls isOwner name shm with
    | none => { opened := false, process, shm }
    | some (fd, object) =>
        let process :=
          if isOwner then process
          else adoptSegmentSize host calls object process
        let segmentSize := getEffectiveSegmentSize host process
        let queueSize :=
          getEffectiveSharedRingQueueSize host segmentSize.2
        let process := queueSize.2
        let sizeOfMemory := queueSize.1 + numOfDataSegments * segmentSize.1
        let opened := shm.set name (some object)
        if isOwner && calls.ftruncateFails then
          { opened := false, process, shm := opened }
        else
          let object :=
            if isOwner then object.ftruncate (sizeOfMemory + 1) else object
          let resized := shm.set name (some object)
          if calls.mmapReturnsNull then
            { opened := false, process, shm := resized }
          else
            let queue :=
              if isOwner then
                initializeQueue object.queue name numOfDataSegments
                  sizeOfMemory fd
              else
                { object.queue with userFd := fd }
            let mapped := shm.set name (some { object with queue })
            match addQueueParams process name numOfDataSegments sizeOfMemory
                fd with
            | none => { opened := false, process, shm := mapped }
            | some process => { opened := true, process, shm := mapped }

/-- `destroySharedRingQueue`; an unregistered queue is left alone. -/
def destroySharedRingQueue (process : Process) (shm : ShmStore)
    (name : CString) (object : ShmObject) (isOwner : Bool) :
    Process × ShmStore :=
  let locationName := snprintfName object.queue.sharedLocationName
  match getQueueParams process locationName with
  | none => (process, shm)
  | some _ =>
      let queue :=
        if isOwner then { object.queue with ownerFd := 0 }
        else { object.queue with userFd := 0 }
      let shm := shm.set name (some { object with queue })
      (removeQueueParams process locationName,
        if isOwner then shm.set locationName none else shm)

def peekToQueue (host : Host) (process : Process) (queue : SharedRingQueue) :
    PeekOutcome Process :=
  match isGetPossitionSucceccful process queue with
  | none => { code := -1, output := none, queue, process }
  | some (readPos, writePos) =>
      match getQueueParams process queue.sharedLocationName with
      | none => { code := -1, output := none, queue, process }
      | some params =>
          let numOfDataSegments := params.numOfDataSegments
          if readPos = writePos then
            { code := -1, output := none, queue, process }
          else if readPos ≥ numOfDataSegments then
            { code := corruptedShmemError, output := none, queue, process }
          else
            let cleared :=
              if marker queue.bytes readPos = skipBuffMgmtMagic then
                clearPadding (numOfDataSegments - readPos) readPos queue.bytes
              else
                (readPos, queue.bytes)
            let readPos :=
              if cleared.1 = numOfDataSegments then 0 else cleared.1
            let address := getDataSegmentAddress host process readPos
            { code := 0
              output := some (address.1, marker cleared.2 readPos)
              queue := { queue with bytes := cleared.2, readPos }
              process := address.2 }

def pushBuffersToQueue (host : Host) (process : Process)
    (queue : SharedRingQueue) (inputBuffers : List (List UInt8)) :
    Outcome Process :=
  match isGetPossitionSucceccful process queue with
  | none => { code := -1, queue, process }
  | some (readPos, writePos) =>
      match getQueueParams process queue.sharedLocationName with
      | none => { code := -1, queue, process }
      | some params =>
          let numOfDataSegments := params.numOfDataSegments
          match totalElemSize 0 inputBuffers with
          | none => { code := -2, queue, process }
          | some largeTotalElemSize =>
              let totalElemSize := toUInt16 largeTotalElemSize
              let needed :=
                getNumOfDataSegmentsNeeded host process totalElemSize
              let process := needed.2
              let numOfSegmentsToWrite := toUInt16 needed.1
              if !isThereEnoughMemoryInQueue process queue writePos readPos
                  numOfSegmentsToWrite then
                { code := -3, queue, process }
              else if writePos ≥ numOfDataSegments then
                { code := -4, queue, process }
              else
                let padding :=
                  writePos + numOfSegmentsToWrite > numOfDataSegments
                let bytes :=
                  if padding then
                    setMarkers queue.bytes writePos numOfDataSegments
                      skipBuffMgmtMagic
                  else
                    queue.bytes
                let writePos := if padding then 0 else writePos
                let bytes := setMarker bytes writePos totalElemSize
                let address := getDataSegmentAddress host process writePos
                let bytes := bytes.writeAll address.1 inputBuffers
                let writePos := toUInt16 (writePos + 1)
                let endPos := toUInt16 (writePos + numOfSegmentsToWrite - 1)
                let bytes := setMarkers bytes writePos endPos skipBuffMgmtMagic
                let writePos := max writePos endPos
                let writePos :=
                  if writePos ≥ numOfDataSegments then 0 else writePos
                { code := 0
                  queue := { queue with bytes, writePos }
                  process := address.2 }

def pushToQueue (host : Host) (process : Process) (queue : SharedRingQueue)
    (inputBuffer : List UInt8) : Outcome Process :=
  pushBuffersToQueue host process queue [inputBuffer]

def popFromQueue (host : Host) (process : Process) (queue : SharedRingQueue) :
    Outcome Process :=
  match isGetPossitionSucceccful process queue with
  | none => { code := -1, queue, process }
  | some (readPos, writePos) =>
      match getQueueParams process queue.sharedLocationName with
      | none => { code := -1, queue, process }
      | some params =>
          let numOfDataSegments := params.numOfDataSegments
          if readPos = writePos then
            { code := -1, queue, process }
          else
            let dataSizeToRemove := marker queue.bytes readPos
            let needed :=
              getNumOfDataSegmentsNeeded host process dataSizeToRemove
            let numOfReadSegments := toUInt16 needed.1
            let wraps := readPos + numOfReadSegments > numOfDataSegments
            let bytes :=
              if wraps then
                setMarkers queue.bytes readPos numOfDataSegments
                  emptyBuffMgmtMagic
              else
                queue.bytes
            let readPos := if wraps then 0 else readPos
            let endPos := toUInt16 (readPos + numOfReadSegments)
            let bytes := setMarkers bytes readPos endPos emptyBuffMgmtMagic
            let readPos := max readPos endPos
            let padding :=
              readPos < numOfDataSegments ∧
                marker bytes readPos = skipBuffMgmtMagic
            let bytes :=
              if padding then
                setMarkers bytes readPos numOfDataSegments emptyBuffMgmtMagic
              else
                bytes
            let readPos := if padding then numOfDataSegments else readPos
            let readPos := if readPos = numOfDataSegments then 0 else readPos
            { code := 0
              queue := { queue with bytes, readPos }
              process := needed.2 }

def isQueueEmpty (queue : SharedRingQueue) : Bool :=
  queue.readPos = queue.writePos

def isCorruptedQueue (process : Process) (queue : SharedRingQueue) : Bool :=
  match getQueueParams process queue.sharedLocationName with
  | none => false
  | some params =>
      if params.numOfDataSegments = 0 then false
      else if queue.numOfDataSegments ≠ params.numOfDataSegments then true
      else if queue.sizeOfMemory ≠ params.memorySize then true
      else if queue.readPos > params.numOfDataSegments then true
      else if queue.writePos > params.numOfDataSegments then true
      else queue.sharedLocationName ≠ params.locationName

end OpenAppsec.ShmemIpc
