import Mathlib.Algebra.Group.Nat.Defs
import OpenAppsec.Library.ByteMemory

/-!
# The shared ring queue in memory

Both generations of the ring queue map the same packed structure: a header, a
management segment with one sixteen-bit marker for each data segment, and the
data segments.  The header fields are a record; all bytes from the management
segment on form one flat memory indexed from the start of the mapping, so that
markers and data may overlap exactly where they do in the mapping.
-/

namespace OpenAppsec

/-- The characters of a C string before its terminating zero. -/
abbrev CString := List Char

namespace Ring

/-- `SHARED_MEMORY_SEGMENT_ENTRY_SIZE`, also `sizeof(DataSegment)`. -/
def sharedMemorySegmentEntrySize : Nat := 4096

/-- `SHARED_MEMORY_SEGMENT_ENTRY_SIZE_BC`, also `sizeof(DataSegmentBC)`. -/
def sharedMemorySegmentEntrySizeBC : Nat := 1024

def maxOneWayQueueNameLength : Nat := 64

def corruptedShmemError : Int := -2

def emptyBuffMgmtMagic : Nat := 0xfffe

def skipBuffMgmtMagic : Nat := 0xfffd

def maxWriteSize : Nat := 0xfffc

/-- `sizeof(DataSegment) / sizeof(uint16_t)`. -/
def maxNumOfDataSegments : Nat := sharedMemorySegmentEntrySize / 2

/-- `offsetof(SharedRingQueue, mgmt_segment)` of the packed structure. -/
def sharedRingQueueHeaderPrefixSize : Nat :=
  maxOneWayQueueNameLength + 3 * 4 + 3 * 2

/-- `sizeof(SharedRingQueue)`; the trailing data array has no elements. -/
def sizeOfSharedRingQueue : Nat :=
  sharedRingQueueHeaderPrefixSize + sharedMemorySegmentEntrySize

/-- Conversion to `uint8_t`. -/
def toUInt8 (value : Nat) : Nat := value % 2 ^ 8

/-- Conversion to `uint16_t`. -/
def toUInt16 (value : Nat) : Nat := value % 2 ^ 16

/-- A mapped queue.  Addresses of `bytes` below
`sharedRingQueueHeaderPrefixSize` belong to the header and are not used. -/
structure SharedRingQueue where
  sharedLocationName : CString
  ownerFd : Int
  userFd : Int
  sizeOfMemory : Int
  writePos : Nat
  readPos : Nat
  numOfDataSegments : Nat
  bytes : ByteMemory

/-- `snprintf` of a name into a field of `MAX_ONE_WAY_QUEUE_NAME_LENGTH`. -/
def snprintfName (name : CString) : CString :=
  name.take (maxOneWayQueueNameLength - 1)

def markerOffset (index : Nat) : Nat :=
  sharedRingQueueHeaderPrefixSize + 2 * index

/-- `buffer_mgmt[index]`. -/
def marker (bytes : ByteMemory) (index : Nat) : Nat :=
  bytes.readWord (markerOffset index)

/-- `buffer_mgmt[index] = value`. -/
def setMarker (bytes : ByteMemory) (index value : Nat) : ByteMemory :=
  bytes.writeWord (markerOffset index) value

/-- Store one value into `count` consecutive markers. -/
def fillMarkers (value : Nat) : Nat → Nat → ByteMemory → ByteMemory
  | 0, _, bytes => bytes
  | count + 1, pos, bytes =>
      fillMarkers value count (pos + 1) (setMarker bytes pos value)

/-- `for ( ; pos < stop; ++pos) buffer_mgmt[pos] = value`. -/
def setMarkers (bytes : ByteMemory) (pos stop value : Nat) : ByteMemory :=
  fillMarkers value (stop - pos) pos bytes

/-- The loop of `peekToQueue` over at most `count` padding markers. -/
def clearPadding : Nat → Nat → ByteMemory → Nat × ByteMemory
  | 0, pos, bytes => (pos, bytes)
  | count + 1, pos, bytes =>
      if marker bytes pos = skipBuffMgmtMagic then
        clearPadding count (pos + 1) (setMarker bytes pos emptyBuffMgmtMagic)
      else
        (pos, bytes)

/-- `getDataSegmentAddress`, as an offset from the start of the mapping. -/
def dataSegmentAddress (effectiveSegmentSize segmentIdx : Nat) : Nat :=
  if effectiveSegmentSize = sharedMemorySegmentEntrySize then
    sizeOfSharedRingQueue + segmentIdx * sharedMemorySegmentEntrySize
  else
    sizeOfSharedRingQueue - sharedMemorySegmentEntrySize +
      effectiveSegmentSize + segmentIdx * effectiveSegmentSize

/-- `(data_size + effective_entry_size - 1) / effective_entry_size`. -/
def numOfDataSegmentsNeeded (effectiveEntrySize dataSize : Nat) : Nat :=
  (dataSize + effectiveEntrySize - 1) / effectiveEntrySize

/-- The summation loop of `pushBuffersToQueue`; `none` is the return of `-2`
when the running total exceeds `max_write_size`. -/
def totalElemSize : Nat → List (List UInt8) → Option Nat
  | total, [] => some total
  | total, buffer :: buffers =>
      if total + buffer.length > maxWriteSize then none
      else totalElemSize (total + buffer.length) buffers

/-- The admission arithmetic of `isThereEnoughMemoryInQueue`, with the eight
and sixteen bit widths of its parameters. -/
def isThereEnoughMemory
    (numOfDataSegments writePos readPos numOfElemToPush : Nat) : Bool :=
  let numOfElemToPush := toUInt8 numOfElemToPush
  if numOfElemToPush ≥ numOfDataSegments then
    false
  else
    -- add skipped elements from the write position till the end of the queue
    let numOfElemToPush :=
      if writePos + numOfElemToPush > numOfDataSegments then
        toUInt8 (numOfElemToPush + (numOfDataSegments - writePos))
      else
        numOfElemToPush
    -- simulate as if the queue continued at its end
    let readPos :=
      if writePos + numOfElemToPush ≥ numOfDataSegments then
        toUInt16 (readPos + numOfDataSegments)
      else
        readPos
    decide (writePos + numOfElemToPush < readPos) ||
      decide (writePos ≥ readPos)

/-- The bytes that a successful peek hands out. -/
def payloadAt (queue : SharedRingQueue) (output : Nat × Nat) : List UInt8 :=
  queue.bytes.read output.1 output.2

end Ring

end OpenAppsec
