import OpenAppsec.Ring.Environment

/-!
# Shared memory objects

The kernel side of a queue: named objects that outlive the mapping of one
process, and the outcomes of the system calls that `createSharedRingQueue`
makes on them.
-/

namespace OpenAppsec.Ring

/-- A named shared memory object: its file size and its content. -/
structure ShmObject where
  fileSize : Nat
  queue : SharedRingQueue

abbrev ShmStore := CString → Option ShmObject

/-- The result codes, output offsets and next states of the data operations.
`π` is the process-wide state of the library. -/
structure Outcome (π : Type) where
  code : Int
  queue : SharedRingQueue
  process : π

structure PeekOutcome (π : Type) where
  code : Int
  output : Option (Nat × Nat)
  queue : SharedRingQueue
  process : π

/-- What the system calls inside one `createSharedRingQueue` return. -/
structure SystemCalls where
  /-- The descriptor of `shm_open`, or `none` when it fails. -/
  shmOpen : Option Int
  fstatFails : Bool
  preadFails : Bool
  ftruncateFails : Bool
  mmapReturnsNull : Bool

/-- All system calls succeed. -/
def SystemCalls.succeed (fd : Int) : SystemCalls :=
  { shmOpen := some fd
    fstatFails := false
    preadFails := false
    ftruncateFails := false
    mmapReturnsNull := false }

/-- A just created object reads as zeros. -/
def emptyShmObject : ShmObject :=
  { fileSize := 0
    queue :=
      { sharedLocationName := []
        ownerFd := 0
        userFd := 0
        sizeOfMemory := 0
        writePos := 0
        readPos := 0
        numOfDataSegments := 0
        bytes := fun _ => 0 } }

/-- A system without shared memory objects. -/
def ShmStore.empty : ShmStore := fun _ => none

def ShmStore.set (shm : ShmStore) (name : CString)
    (object : Option ShmObject) : ShmStore :=
  fun other => if other = name then object else shm other

/-- `shm_open` with `O_RDWR`, and `O_CREAT` for an owner. -/
def shmOpen (calls : SystemCalls) (isOwner : Bool) (name : CString)
    (shm : ShmStore) : Option (Int × ShmObject) :=
  match calls.shmOpen, shm name with
  | none, _ => none
  | some fd, some object => some (fd, object)
  | some fd, none => if isOwner then some (fd, emptyShmObject) else none

/-- `ftruncate` to a new size: bytes past it are lost. -/
def ShmObject.ftruncate (object : ShmObject) (size : Nat) : ShmObject :=
  { fileSize := size
    queue :=
      { object.queue with
        bytes := fun address =>
          if address < size then object.queue.bytes address else 0 } }

/-- `deriveSegmentSizeFromExistingQueue`; zero when the header does not decode
to one of the two released sizes. -/
def deriveSegmentSizeFromExistingQueue (calls : SystemCalls)
    (object : ShmObject) : Nat :=
  let header := object.queue
  if calls.fstatFails then 0
  else if object.fileSize < sharedRingQueueHeaderPrefixSize then 0
  else if calls.preadFails then 0
  else if header.numOfDataSegments = 0 ∨
      header.numOfDataSegments > maxNumOfDataSegments then 0
  else if header.sizeOfMemory ≤ sharedRingQueueHeaderPrefixSize then 0
  else
    let payloadSize :=
      header.sizeOfMemory.toNat - sharedRingQueueHeaderPrefixSize
    let divisor := header.numOfDataSegments + 1
    let derivedSize := payloadSize / divisor
    if derivedSize * divisor ≠ payloadSize then 0
    else if derivedSize ≠ sharedMemorySegmentEntrySize ∧
        derivedSize ≠ sharedMemorySegmentEntrySizeBC then 0
    else derivedSize

/-- The header and markers that an owner writes into its new queue. -/
def initializeQueue (queue : SharedRingQueue) (name : CString)
    (numOfDataSegments sizeOfMemory : Nat) (fd : Int) : SharedRingQueue :=
  { queue with
    sharedLocationName := snprintfName name
    numOfDataSegments := numOfDataSegments
    readPos := 0
    writePos := 0
    sizeOfMemory := sizeOfMemory
    bytes := setMarkers queue.bytes 0 numOfDataSegments emptyBuffMgmtMagic
    ownerFd := fd }

end OpenAppsec.Ring
