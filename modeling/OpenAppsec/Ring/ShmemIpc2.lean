import OpenAppsec.Ring.SharedObjects

/-!
# The second generation of the ring queue

The functions of `core/shmem_ipc_2/shared_ring_queue.c`.  The limits of a queue
come from a record that the caller passes, and one process-wide cache holds
the segment size.
-/

namespace OpenAppsec.ShmemIpc2

open Ring

structure SharedRingGlobalData where
  gRxLocationName : CString
  gTxLocationName : CString
  gRxFd : Int
  gTxFd : Int
  gMemorySize : Int
  gNumOfDataSegments : Nat

/-- The static variables of the library, with the environment they are
computed from. -/
structure Process where
  gEffectiveSegmentSize : Nat
  gEffectiveSizeInitialized : Bool
  environ : Environ

/-- The static variables when a process starts. -/
def Process.start (environ : Environ) : Process :=
  { gEffectiveSegmentSize := 0
    gEffectiveSizeInitialized := false
    environ }

def isLargerDataSegmentSupported (host : Host) (process : Process) :
    Bool × Process :=
  let answer := readLargerDataSegmentSupported host process.environ
  (answer.1, { process with environ := answer.2 })

def getEffectiveSegmentSize (host : Host) (process : Process) :
    Nat × Process :=
  if process.gEffectiveSizeInitialized then
    (process.gEffectiveSegmentSize, process)
  else
    let supported := isLargerDataSegmentSupported host process
    let size :=
      if supported.1 then sharedMemorySegmentEntrySize
      else sharedMemorySegmentEntrySizeBC
    (size,
      { supported.2 with
        gEffectiveSegmentSize := size
        gEffectiveSizeInitialized := true })

def getEffectiveSharedRingQueueSize (host : Host) (process : Process) :
    Nat × Process :=
  let size := getEffectiveSegmentSize host process
  (sizeOfSharedRingQueue - sharedMemorySegmentEntrySize + size.1, size.2)

def getDataSegmentAddress (host : Host) (process : Process)
    (segmentIdx : Nat) : Nat × Process :=
  let size := getEffectiveSegmentSize host process
  (dataSegmentAddress size.1 segmentIdx, size.2)

def getNumOfDataSegmentsNeeded (host : Host) (process : Process)
    (dataSize : Nat) : Nat × Process :=
  let size := getEffectiveSegmentSize host process
  (numOfDataSegmentsNeeded size.1 dataSize, size.2)

def isThereEnoughMemoryInQueue (globalData : SharedRingGlobalData)
    (writePos readPos numOfElemToPush : Nat) : Bool :=
  isThereEnoughMemory globalData.gNumOfDataSegments writePos readPos
    numOfElemToPush

/-- The read and write positions, or `none` for a corrupted queue. -/
def isGetPossitionSucceccful (queue : SharedRingQueue)
    (globalData : SharedRingGlobalData) : Option (Nat × Nat) :=
  if globalData.gNumOfDataSegments = 0 then none
  else if queue.numOfDataSegments ≠ globalData.gNumOfDataSegments then none
  else if queue.sizeOfMemory ≠ globalData.gMemorySize then none
  else if queue.readPos > globalData.gNumOfDataSegments then none
  else if queue.writePos > globalData.gNumOfDataSegments then none
  else some (queue.readPos, queue.writePos)

def createSharedRingGlobalData : SharedRingGlobalData :=
  { gRxLocationName := []
    gTxLocationName := []
    gRxFd := -1
    gTxFd := -1
    gMemorySize := -1
    gNumOfDataSegments := 0 }

/-- Whether `createSharedRingQueue` returned a queue, and what it changed. -/
structure Creation where
  opened : Bool
  process : Process
  globalData : SharedRingGlobalData
  shm : ShmStore

/-- The segment size adopted from the header of an existing queue. -/
def adoptSegmentSize (host : Host) (calls : SystemCalls)
    (object : ShmObject) (process : Process) : Process :=
  let negotiated := getEffectiveSegmentSize host process
  let adoptedSize := deriveSegmentSizeFromExistingQueue calls object
  if adoptedSize ≠ 0 ∧ adoptedSize ≠ negotiated.1 then
    { negotiated.2 with
      gEffectiveSegmentSize := adoptedSize
      gEffectiveSizeInitialized := true }
  else
    negotiated.2

/-- The final assignments of `createSharedRingQueue` to the global data. -/
def recordLocation (globalData : SharedRingGlobalData) (name : CString)
    (isTx : Bool) (fd : Int) (sizeOfMemory : Nat) : SharedRingGlobalData :=
  if isTx then
    { globalData with
      gMemorySize := sizeOfMemory
      gTxFd := fd
      gTxLocationName := snprintfName name }
  else
    { globalData with
      gMemorySize := sizeOfMemory
      gRxFd := fd
      gRxLocationName := snprintfName name }

def createSharedRingQueue (host : Host) (calls : SystemCalls)
    (process : Process) (shm : ShmStore) (name : CString)
    (numOfDataSegments : Nat) (isOwner isTx : Bool)
    (globalData : SharedRingGlobalData) : Creation :=
  let process :=
    { process with
      gEffectiveSizeInitialized := false
      gEffectiveSegmentSize := 0 }
  if numOfDataSegments > maxNumOfDataSegments then
    { opened := false, process, globalData, shm }
  else
    let globalData :=
      { globalData with gNumOfDataSegments := numOfDataSegments }
    match shmOpen calls isOwner name shm with
    | none => { opened := false, process, globalData, shm }
    | some (fd, object) =>
        let process :=
          if isOwner then process
          else adoptSegmentSize host calls object process
        let segmentSize := getEffectiveSegmentSize host process
        let queueSize :=
          getEffectiveSharedRingQueueSize host segmentSize.2
        let process := queueSize.2
        let sizeOfMemory := queueSize.1 + numOfDataSegments * segmentSize.1
        let opened := shm.set name (some object)
        if isOwner && calls.ftruncateFails then
          { opened := false, process, globalData, shm := opened }
        else
          let object :=
            if isOwner then object.ftruncate (sizeOfMemory + 1) else object
          let resized := shm.set name (some object)
          if calls.mmapReturnsNull then
            { opened := false, process, globalData, shm := resized }
          else
            let queue :=
              if isOwner then
                initializeQueue object.queue name numOfDataSegments
                  sizeOfMemory fd
              else
                { object.queue with userFd := fd }
            { opened := true
              process
              globalData := recordLocation globalData name isTx fd sizeOfMemory
              shm := shm.set name (some { object with queue }) }

/-- `destroySharedRingQueue`; the mapping ends, and an owner unlinks the name
that its record holds for the direction. -/
def destroySharedRingQueue (shm : ShmStore) (name : CString)
    (object : ShmObject) (globalData : SharedRingGlobalData)
    (isOwner isTx : Bool) : SharedRingGlobalData × ShmStore :=
  let queue :=
    if isOwner then { object.queue with ownerFd := 0 }
    else { object.queue with userFd := 0 }
  let location :=
    if isTx then globalData.gTxLocationName else globalData.gRxLocationName
  let shm := shm.set name (some { object with queue })
  (if isTx then { globalData with gTxFd := -1 }
    else { globalData with gRxFd := -1 },
    if isOwner then shm.set location none else shm)

def peekToQueue (host : Host) (process : Process) (queue : SharedRingQueue)
    (globalData : SharedRingGlobalData) : PeekOutcome Process :=
  match isGetPossitionSucceccful queue globalData with
  | none => { code := -1, output := none, queue, process }
  | some (readPos, writePos) =>
      if readPos = writePos then
        { code := -1, output := none, queue, process }
      else if readPos ≥ globalData.gNumOfDataSegments then
        { code := corruptedShmemError, output := none, queue, process }
      else
        let cleared :=
          if marker queue.bytes readPos = skipBuffMgmtMagic then
            clearPadding (globalData.gNumOfDataSegments - readPos) readPos
              queue.bytes
          else
            (readPos, queue.bytes)
        let readPos :=
          if cleared.1 = globalData.gNumOfDataSegments then 0 else cleared.1
        let address := getDataSegmentAddress host process readPos
        { code := 0
          output := some (address.1, marker cleared.2 readPos)
          queue := { queue with bytes := cleared.2, readPos }
          process := address.2 }

def pushBuffersToQueue (host : Host) (process : Process)
    (queue : SharedRingQueue) (globalData : SharedRingGlobalData)
    (inputBuffers : List (List UInt8)) : Outcome Process :=
  match isGetPossitionSucceccful queue globalData with
  | none => { code := -1, queue, process }
  | some (readPos, writePos) =>
      match totalElemSize 0 inputBuffers with
      | none => { code := -2, queue, process }
      | some largeTotalElemSize =>
          let totalElemSize := toUInt16 largeTotalElemSize
          let needed := getNumOfDataSegmentsNeeded host process totalElemSize
          let process := needed.2
          let numOfSegmentsToWrite := toUInt16 needed.1
          if !isThereEnoughMemoryInQueue globalData writePos readPos
              numOfSegmentsToWrite then
            { code := -3, queue, process }
          else if writePos ≥ globalData.gNumOfDataSegments then
            { code := -4, queue, process }
          else
            let padding :=
              writePos + numOfSegmentsToWrite > globalData.gNumOfDataSegments
            let bytes :=
              if padding then
                setMarkers queue.bytes writePos globalData.gNumOfDataSegments
                  skipBuffMgmtMagic
              else
                queue.bytes
            let writePos := if padding then 0 else writePos
            let bytes := setMarker bytes writePos totalElemSize
            let address := getDataSegmentAddress host process writePos
            let bytes := bytes.writeAll address.1 inputBuffers
            let writePos := toUInt16 (writePos + 1)
            let endPos := toUInt16 (writePos + numOfSegmentsToWrite - 1)
            let bytes := setMarkers bytes writePos endPos skipBuffMgmtMagic
            let writePos := max writePos endPos
            let writePos :=
              if writePos ≥ globalData.gNumOfDataSegments then 0 else writePos
            { code := 0
              queue := { queue with bytes, writePos }
              process := address.2 }

def pushToQueue (host : Host) (process : Process) (queue : SharedRingQueue)
    (globalData : SharedRingGlobalData) (inputBuffer : List UInt8) :
    Outcome Process :=
  pushBuffersToQueue host process queue globalData [inputBuffer]

def popFromQueue (host : Host) (process : Process) (queue : SharedRingQueue)
    (globalData : SharedRingGlobalData) : Outcome Process :=
  match isGetPossitionSucceccful queue globalData with
  | none => { code := -1, queue, process }
  | some (readPos, writePos) =>
      if readPos = writePos then
        { code := -1, queue, process }
      else
        let numOfDataSegments := globalData.gNumOfDataSegments
        let needed :=
          getNumOfDataSegmentsNeeded host process (marker queue.bytes readPos)
        let numOfReadSegments := toUInt16 needed.1
        let wraps := readPos + numOfReadSegments > numOfDataSegments
        let bytes :=
          if wraps then
            setMarkers queue.bytes readPos numOfDataSegments emptyBuffMgmtMagic
          else
            queue.bytes
        let readPos := if wraps then 0 else readPos
        let endPos := toUInt16 (readPos + numOfReadSegments)
        let bytes := setMarkers bytes readPos endPos emptyBuffMgmtMagic
        let readPos := max readPos endPos
        let padding :=
          readPos < numOfDataSegments ∧
            marker bytes readPos = skipBuffMgmtMagic
        let bytes :=
          if padding then
            setMarkers bytes readPos numOfDataSegments emptyBuffMgmtMagic
          else
            bytes
        let readPos := if padding then numOfDataSegments else readPos
        let readPos := if readPos = numOfDataSegments then 0 else readPos
        { code := 0, queue := { queue with bytes, readPos }, process := needed.2 }

def isQueueEmpty (queue : SharedRingQueue) : Bool :=
  queue.readPos = queue.writePos

def isCorruptedQueue (queue : SharedRingQueue)
    (globalData : SharedRingGlobalData) (isTx : Bool) : Bool :=
  if globalData.gNumOfDataSegments = 0 then false
  else if queue.numOfDataSegments ≠ globalData.gNumOfDataSegments then true
  else if queue.sizeOfMemory ≠ globalData.gMemorySize then true
  else if queue.readPos > globalData.gNumOfDataSegments then true
  else if queue.writePos > globalData.gNumOfDataSegments then true
  else
    queue.sharedLocationName ≠
      if isTx then globalData.gTxLocationName else globalData.gRxLocationName

end OpenAppsec.ShmemIpc2
