import OpenAppsec.Ring.Creation
import OpenAppsec.Ring.Markers

/-!
# Agreement on the geometry of a queue

An owner lays a queue out with the sizes its environment negotiates; a process
that attaches decodes the stamped header instead.  The first generation keeps
the stride of the data segments and the entry size of the segment count in two
caches, which one setting of the environment can drive apart.
-/

namespace OpenAppsec

open Ring

namespace Ring

theorem foldl_importMetadataLine_congr {key : CString}
    {first second : Environ} (same : first key = second key)
    (content : List CString) :
    content.foldl importMetadataLine first key =
      content.foldl importMetadataLine second key := by
  induction content generalizing first second with
  | nil => exact same
  | cons line content induction =>
      apply induction
      unfold importMetadataLine
      split
      · unfold setenv
        split
        · rfl
        · exact same
      · exact same

theorem readLargerDataSegmentSupported_again (host : Host)
    (environ : Environ) :
    let read := readLargerDataSegmentSupported host environ
    let again := readLargerDataSegmentSupported host read.2
    again.1 = read.1 ∧
      again.2 effectiveShmSegmentSize = read.2 effectiveShmSegmentSize := by
  cases before : environ effectiveShmSegmentSize with
  | some size => simp [readLargerDataSegmentSupported, before]
  | none =>
      cases metadata : host.agentMetadata with
      | missing => simp [readLargerDataSegmentSupported, before, metadata]
      | unreadable => simp [readLargerDataSegmentSupported, before, metadata]
      | lines content =>
          cases after : content.foldl importMetadataLine environ
              effectiveShmSegmentSize with
          | some size =>
              simp [readLargerDataSegmentSupported, before, metadata, after]
          | none =>
              have again : content.foldl importMetadataLine
                  (content.foldl importMetadataLine environ)
                    effectiveShmSegmentSize = none := by
                rw [foldl_importMetadataLine_congr (after.trans before.symm),
                  after]
              simp [readLargerDataSegmentSupported, before, metadata, after,
                again]

/-- The header of an existing queue can be read. -/
def SystemCalls.HeaderReadable (calls : SystemCalls) : Prop :=
  calls.fstatFails = false ∧ calls.preadFails = false

/-- A header as `createSharedRingQueue` stamps it. -/
structure Stamped (object : ShmObject) (name : CString)
    (numOfDataSegments segmentSize : Nat) : Prop where
  fileSize : sharedRingQueueHeaderPrefixSize ≤ object.fileSize
  location : object.queue.sharedLocationName = name
  count : object.queue.numOfDataSegments = numOfDataSegments
  memory : object.queue.sizeOfMemory =
    effectiveSizeOfMemory segmentSize numOfDataSegments
  readPos : object.queue.readPos = 0
  writePos : object.queue.writePos = 0

theorem effectiveSizeOfMemory_eq (segmentSize numOfDataSegments : Nat) :
    effectiveSizeOfMemory segmentSize numOfDataSegments =
      sharedRingQueueHeaderPrefixSize +
        segmentSize * (numOfDataSegments + 1) := by
  simp only [effectiveSizeOfMemory, sizeOfSharedRingQueue]
  rw [Nat.add_sub_cancel, Nat.mul_succ, Nat.mul_comm segmentSize]
  omega

/-- A stamped header decodes to the segment size, without ambiguity. -/
theorem deriveSegmentSizeFromExistingQueue_stamped {calls : SystemCalls}
    {object : ShmObject} {name : CString}
    {numOfDataSegments segmentSize : Nat}
    (stamped : Stamped object name numOfDataSegments segmentSize)
    (positive : 0 < numOfDataSegments)
    (bounded : numOfDataSegments ≤ maxNumOfDataSegments)
    (released : segmentSize = sharedMemorySegmentEntrySizeBC ∨
      segmentSize = sharedMemorySegmentEntrySize)
    (readable : calls.HeaderReadable) :
    deriveSegmentSizeFromExistingQueue calls object = segmentSize := by
  have sizePositive : 0 < segmentSize := by
    rcases released with rfl | rfl <;> decide
  have payloadPositive : 0 < segmentSize * (numOfDataSegments + 1) :=
    Nat.mul_pos sizePositive (Nat.succ_pos _)
  have memory := stamped.memory
  rw [effectiveSizeOfMemory_eq] at memory
  have payload : object.queue.sizeOfMemory.toNat -
      sharedRingQueueHeaderPrefixSize =
        segmentSize * (numOfDataSegments + 1) := by
    omega
  have aboveHeader : ¬(object.queue.sizeOfMemory ≤
      (sharedRingQueueHeaderPrefixSize : Int)) := by
    omega
  have fileLarge :
      ¬(object.fileSize < sharedRingQueueHeaderPrefixSize) :=
    Nat.not_lt_of_le stamped.fileSize
  have countValid : ¬(numOfDataSegments = 0 ∨
      numOfDataSegments > maxNumOfDataSegments) := by
    omega
  have quotient : segmentSize * (numOfDataSegments + 1) /
      (numOfDataSegments + 1) = segmentSize :=
    Nat.mul_div_cancel _ (Nat.succ_pos _)
  have known : ¬(segmentSize ≠ sharedMemorySegmentEntrySize ∧
      segmentSize ≠ sharedMemorySegmentEntrySizeBC) := by
    omega
  simp only [deriveSegmentSizeFromExistingQueue, readable.1, readable.2,
    if_neg fileLarge, stamped.count, if_neg countValid,
    if_neg aboveHeader, payload, quotient, if_neg known, ne_eq,
    not_true_eq_false, if_false, Bool.false_eq_true]

theorem deriveSegmentSizeFromExistingQueue_unreadable {calls : SystemCalls}
    (object : ShmObject) (unreadable : ¬calls.HeaderReadable) :
    deriveSegmentSizeFromExistingQueue calls object = 0 := by
  unfold deriveSegmentSizeFromExistingQueue
  dsimp only
  split
  · rfl
  rename_i statted
  split
  · rfl
  split
  · rfl
  rename_i read
  refine absurd ⟨?_, ?_⟩ unreadable
  · simpa using statted
  · simpa using read

end Ring

namespace ShmemIpc

/-- The segment size that a creation negotiates from its environment. -/
def negotiatedSegmentSize (host : Host) (process : Process) : Nat :=
  (getEffectiveSegmentSize host (resetCaches process)).1

/-- The entry size that is negotiated after the segment size. -/
def negotiatedEntrySize (host : Host) (process : Process) : Nat :=
  (getEffectiveEntrySize host
    (getEffectiveSegmentSize host (resetCaches process)).2).1

/-- Neither of the two markers of the split deployment is present. -/
def SingleDocker (host : Host) (process : Process) : Prop :=
  let process := initializeDockerEnvironment host process
  process.isDualDockerEnv = false ∧ process.isDualDockerNginxEnv = false

/-- `EFFECTIVE_SHM_SEGMENT_SIZE` gives the small segment size in a process
that takes the larger entry size for supported. -/
def PinsSmallSegment (host : Host) (process : Process) : Prop :=
  ∃ text, process.environ effectiveShmSegmentSize = some text ∧
    0 < atoi text ∧
    toUInt16 (atoi text).toNat = sharedMemorySegmentEntrySizeBC ∧
    (SingleDocker host process ∨
      atoi text > sharedMemorySegmentEntrySizeBC)

section Sizes

variable {host : Host} {process other : Process}

theorem initializeDockerEnvironment_environ (host : Host)
    (process : Process) :
    (initializeDockerEnvironment host process).environ =
      process.environ := by
  unfold initializeDockerEnvironment
  split <;> rfl

theorem singleDocker_iff :
    SingleDocker host process ↔
      if process.gDockerEnvInitialized then
        process.isDualDockerEnv = false ∧ process.isDualDockerNginxEnv = false
      else
        (process.environ infinityNextNanoAgent).isSome = false ∧
          host.dualDockerNginxFile = false := by
  unfold SingleDocker initializeDockerEnvironment
  split <;> rfl

theorem isLargerDataSegmentSupported_iff :
    (isLargerDataSegmentSupported host process).1 = true ↔
      SingleDocker host process ∨
        (readLargerDataSegmentSupported host process.environ).1 = true := by
  unfold isLargerDataSegmentSupported SingleDocker
  simp only [initializeDockerEnvironment_environ]
  split
  · rename_i single
    simp only [Bool.and_eq_true, Bool.not_eq_true'] at single
    simp [single]
  · rename_i dual
    simp only [Bool.and_eq_true, Bool.not_eq_true'] at dual
    simp [dual]

theorem isLargerDataSegmentSupported_of_some (host : Host)
    (process : Process) {text : CString}
    (set : process.environ effectiveShmSegmentSize = some text) :
    (isLargerDataSegmentSupported host process).1 = true ↔
      SingleDocker host process ∨
        atoi text > sharedMemorySegmentEntrySizeBC := by
  rw [isLargerDataSegmentSupported_iff]
  simp [readLargerDataSegmentSupported, set]

theorem isLargerDataSegmentSupported_again
    (initialized : other.gDockerEnvInitialized =
      (isLargerDataSegmentSupported host process).2.gDockerEnvInitialized)
    (nginx : other.isDualDockerNginxEnv =
      (isLargerDataSegmentSupported host process).2.isDualDockerNginxEnv)
    (dual : other.isDualDockerEnv =
      (isLargerDataSegmentSupported host process).2.isDualDockerEnv)
    (environ : other.environ =
      (isLargerDataSegmentSupported host process).2.environ) :
    (isLargerDataSegmentSupported host other).1 =
      (isLargerDataSegmentSupported host process).1 := by
  have ready :
      (initializeDockerEnvironment host process).gDockerEnvInitialized =
        true := by
    unfold initializeDockerEnvironment
    split <;> simp_all
  rw [Bool.eq_iff_iff, isLargerDataSegmentSupported_iff,
    isLargerDataSegmentSupported_iff, singleDocker_iff, initialized, nginx,
    dual, environ]
  unfold isLargerDataSegmentSupported SingleDocker
  dsimp only
  split
  · rename_i single
    simp only [Bool.and_eq_true, Bool.not_eq_true'] at single
    simp [single]
  · rename_i both
    simp only [Bool.and_eq_true, Bool.not_eq_true'] at both
    simp [both, initializeDockerEnvironment_environ,
      readLargerDataSegmentSupported_again]

theorem environmentSegmentSize_eq_some {environ : Environ} {size : Nat}
    (set : environmentSegmentSize environ = some size) :
    ∃ text, environ effectiveShmSegmentSize = some text ∧ 0 < atoi text ∧
      size = toUInt16 (atoi text).toNat := by
  unfold environmentSegmentSize at set
  split at set
  · cases set
  · rename_i text found
    split at set
    · rename_i positive
      exact ⟨text, found, positive, (Option.some.inj set).symm⟩
    · cases set

theorem environmentSegmentSize_of_some {environ : Environ} {text : CString}
    (set : environ effectiveShmSegmentSize = some text)
    (positive : 0 < atoi text) :
    environmentSegmentSize environ = some (toUInt16 (atoi text).toNat) := by
  simp [environmentSegmentSize, set, positive]

/-- The released size that goes with an answer. -/
def releasedSize (larger : Bool) : Nat :=
  if larger then sharedMemorySegmentEntrySize
  else sharedMemorySegmentEntrySizeBC

theorem releasedSize_eq_larger {larger : Bool} :
    releasedSize larger = sharedMemorySegmentEntrySize ↔ larger = true := by
  cases larger <;> decide

theorem getEffectiveEntrySize_eq (empty : process.gEffectiveEntrySize = 0) :
    (getEffectiveEntrySize host process).1 =
      releasedSize (isLargerDataSegmentSupported host process).1 := by
  unfold getEffectiveEntrySize
  rw [if_neg (fun cached => cached empty)]
  rfl

theorem getEffectiveSegmentSize_of_unset (host : Host) (process : Process)
    (empty : process.gEffectiveSizeInitialized = false)
    (unset : environmentSegmentSize process.environ = none) :
    let asked := isLargerDataSegmentSupported host
      { process with gEffectiveSizeInitialized := true }
    getEffectiveSegmentSize host process =
      (releasedSize asked.1,
        { asked.2 with gEffectiveSegmentSize := releasedSize asked.1 }) := by
  unfold getEffectiveSegmentSize
  simp only [empty, unset]
  rfl

theorem getEffectiveSegmentSize_of_set (host : Host) (process : Process)
    {size : Nat} (empty : process.gEffectiveSizeInitialized = false)
    (set : environmentSegmentSize process.environ = some size) :
    getEffectiveSegmentSize host process =
      (size,
        { process with
          gEffectiveSizeInitialized := true
          gEffectiveSegmentSize := size }) := by
  unfold getEffectiveSegmentSize
  simp only [empty, set]
  rfl

theorem negotiatedEntrySize_eq (host : Host) (process : Process) :
    negotiatedEntrySize host process =
      releasedSize (isLargerDataSegmentSupported host
        (getEffectiveSegmentSize host (resetCaches process)).2).1 := by
  apply getEffectiveEntrySize_eq
  exact (getEffectiveSegmentSize_frame host (resetCaches process)).2

theorem negotiatedEntrySize_of_unset
    (unset : environmentSegmentSize process.environ = none) :
    negotiatedEntrySize host process = negotiatedSegmentSize host process := by
  rw [negotiatedEntrySize_eq, negotiatedSegmentSize,
    getEffectiveSegmentSize_of_unset host (resetCaches process) rfl unset]
  apply congrArg releasedSize
  exact isLargerDataSegmentSupported_again rfl rfl rfl rfl

theorem negotiatedSizes_of_set (host : Host) {text : CString}
    (set : process.environ effectiveShmSegmentSize = some text)
    (positive : 0 < atoi text) :
    negotiatedSegmentSize host process = toUInt16 (atoi text).toNat ∧
      (negotiatedEntrySize host process = sharedMemorySegmentEntrySize ↔
        SingleDocker host process ∨
          atoi text > sharedMemorySegmentEntrySizeBC) := by
  have direct : environmentSegmentSize (resetCaches process).environ =
      some (toUInt16 (atoi text).toNat) :=
    environmentSegmentSize_of_some set positive
  rw [negotiatedEntrySize_eq, negotiatedSegmentSize,
    getEffectiveSegmentSize_of_set host (resetCaches process) rfl direct]
  refine ⟨rfl, ?_⟩
  have answer := isLargerDataSegmentSupported_of_some host
    { resetCaches process with
      gEffectiveSizeInitialized := true
      gEffectiveSegmentSize := toUInt16 (atoi text).toNat } set
  rw [singleDocker_iff] at answer ⊢
  rw [releasedSize_eq_larger]
  exact answer

/-- A process negotiates two equal sizes unless the environment pins the small
segment. -/
theorem negotiatedEntrySize_eq_iff (host : Host) (process : Process)
    (released :
      negotiatedSegmentSize host process = sharedMemorySegmentEntrySizeBC ∨
        negotiatedSegmentSize host process = sharedMemorySegmentEntrySize) :
    negotiatedEntrySize host process = negotiatedSegmentSize host process ↔
      ¬PinsSmallSegment host process := by
  cases set : environmentSegmentSize process.environ with
  | none =>
      apply iff_of_true (negotiatedEntrySize_of_unset set)
      rintro ⟨text, found, positive, _⟩
      rw [environmentSegmentSize_of_some found positive] at set
      cases set
  | some size =>
      obtain ⟨text, found, positive, _⟩ := environmentSegmentSize_eq_some set
      obtain ⟨segment, entry⟩ :=
        negotiatedSizes_of_set host found positive
      have entryReleased :
          negotiatedEntrySize host process = sharedMemorySegmentEntrySize ∨
            negotiatedEntrySize host process =
              sharedMemorySegmentEntrySizeBC :=
        getEffectiveEntrySize_of_reset host
          (getEffectiveSegmentSize_frame host (resetCaches process)).2
      have pinned : PinsSmallSegment host process ↔
          negotiatedSegmentSize host process =
              sharedMemorySegmentEntrySizeBC ∧
            negotiatedEntrySize host process =
              sharedMemorySegmentEntrySize := by
        rw [segment, entry]
        constructor
        · rintro ⟨other, foundOther, _, small, larger⟩
          cases found.symm.trans foundOther
          exact ⟨small, larger⟩
        · rintro ⟨small, larger⟩
          exact ⟨text, found, positive, small, larger⟩
      have largerEntry :
          negotiatedSegmentSize host process =
              sharedMemorySegmentEntrySize →
            negotiatedEntrySize host process =
              sharedMemorySegmentEntrySize := by
        intro larger
        rw [segment] at larger
        apply entry.mpr
        right
        simp only [toUInt16, sharedMemorySegmentEntrySize] at larger
        simp only [sharedMemorySegmentEntrySizeBC]
        omega
      rw [pinned]
      simp only [sharedMemorySegmentEntrySize,
        sharedMemorySegmentEntrySizeBC] at *
      omega

/-- Pinning the small segment means to negotiate it. -/
theorem PinsSmallSegment.negotiated (pins : PinsSmallSegment host process) :
    negotiatedSegmentSize host process = sharedMemorySegmentEntrySizeBC := by
  obtain ⟨text, set, positive, small, _⟩ := pins
  rw [(negotiatedSizes_of_set host set positive).1, small]

theorem getEffectiveEntrySize_table (host : Host) (process : Process)
    (table : List QueueParams) :
    (getEffectiveEntrySize host
        { process with gQueueParams := table }).1 =
      (getEffectiveEntrySize host process).1 := by
  unfold getEffectiveEntrySize
  split
  · rfl
  · apply congrArg releasedSize
    rw [Bool.eq_iff_iff, isLargerDataSegmentSupported_iff,
      isLargerDataSegmentSupported_iff, singleDocker_iff, singleDocker_iff]

/-- The entry size of a process is still the one it had while it sized the
queue. -/
theorem Opened.entrySize {calls : SystemCalls} {name : CString}
    {numOfDataSegments : Nat} {isOwner : Bool} {fd : Int}
    {object : ShmObject} {created : Creation}
    (facts : Opened host calls process name numOfDataSegments isOwner fd
      object created) :
    (getEffectiveEntrySize host created.process).1 =
      (getEffectiveEntrySize host (getEffectiveSegmentSize host
        (sizingProcess host calls process object isOwner)).2).1 := by
  rw [facts.process_eq]
  exact getEffectiveEntrySize_table host _ _

/-- The sizes of a process that has attached: decoded where they differ from
the negotiated ones, negotiated otherwise. -/
theorem attachedSizes (host : Host) (calls : SystemCalls)
    (process : Process) (object : ShmObject) :
    let derived := deriveSegmentSizeFromExistingQueue calls object
    let sized := getEffectiveSegmentSize host
      (sizingProcess host calls process object false)
    sized.1 =
        (if derived = 0 then negotiatedSegmentSize host process
          else derived) ∧
      (getEffectiveEntrySize host sized.2).1 =
        if derived = 0 ∨ derived = negotiatedSegmentSize host process then
          negotiatedEntrySize host process
        else
          derived := by
  dsimp only
  by_cases none : deriveSegmentSizeFromExistingQueue calls object = 0
  · have kept : sizingProcess host calls process object false =
        resetCaches process := by
      simp [sizingProcess, adoptSegmentSize, none]
    rw [kept, if_pos none, if_pos (Or.inl none)]
    exact ⟨rfl, rfl⟩
  by_cases same : deriveSegmentSizeFromExistingQueue calls object =
      negotiatedSegmentSize host process
  · have negotiated : sizingProcess host calls process object false =
        (getEffectiveSegmentSize host (resetCaches process)).2 := by
      rw [negotiatedSegmentSize] at same
      have agreed : ¬(deriveSegmentSizeFromExistingQueue calls object ≠
          (getEffectiveSegmentSize host (resetCaches process)).1) :=
        fun differs => differs same
      simp only [sizingProcess, adoptSegmentSize, if_neg none,
        if_neg agreed, Bool.false_eq_true, if_false]
    rw [negotiated, getEffectiveSegmentSize_again, if_neg none,
      if_pos (Or.inr same)]
    exact ⟨same.symm, rfl⟩
  · have adopted : sizingProcess host calls process object false =
        { (getEffectiveSegmentSize host (resetCaches process)).2 with
          gEffectiveSegmentSize :=
            deriveSegmentSizeFromExistingQueue calls object
          gEffectiveEntrySize :=
            deriveSegmentSizeFromExistingQueue calls object
          gEffectiveSizeInitialized := true } := by
      rw [negotiatedSegmentSize] at same
      simp [sizingProcess, adoptSegmentSize, none, same]
    have neither : ¬(deriveSegmentSizeFromExistingQueue calls object = 0 ∨
        deriveSegmentSizeFromExistingQueue calls object =
          negotiatedSegmentSize host process) :=
      fun either => either.elim none same
    rw [adopted, getEffectiveSegmentSize_of_initialized rfl, if_neg none,
      if_neg neither]
    simp [getEffectiveEntrySize, none]

end Sizes

end ShmemIpc

namespace ShmemIpc2

/-- The segment size that a creation negotiates from its environment. -/
def negotiatedSegmentSize (host : Host) (process : Process) : Nat :=
  (getEffectiveSegmentSize host (resetCaches process)).1

theorem attachedSize (host : Host) (calls : SystemCalls)
    (process : Process) (object : ShmObject) :
    let derived := deriveSegmentSizeFromExistingQueue calls object
    (getEffectiveSegmentSize host
        (sizingProcess host calls process object false)).1 =
      if derived = 0 then negotiatedSegmentSize host process
      else derived := by
  dsimp only
  by_cases other : deriveSegmentSizeFromExistingQueue calls object ≠ 0 ∧
      deriveSegmentSizeFromExistingQueue calls object ≠
        negotiatedSegmentSize host process
  · have adopted : sizingProcess host calls process object false =
        { (getEffectiveSegmentSize host (resetCaches process)).2 with
          gEffectiveSegmentSize :=
            deriveSegmentSizeFromExistingQueue calls object
          gEffectiveSizeInitialized := true } := by
      rw [negotiatedSegmentSize] at other
      simp [sizingProcess, adoptSegmentSize, other]
    rw [adopted, if_neg other.1]
    rfl
  · have negotiated : sizingProcess host calls process object false =
        (getEffectiveSegmentSize host (resetCaches process)).2 := by
      rw [negotiatedSegmentSize] at other
      simp only [sizingProcess, adoptSegmentSize, if_neg other,
        Bool.false_eq_true, if_false]
    rw [negotiated, getEffectiveSegmentSize_again]
    split
    · rfl
    · rename_i some
      by_contra different
      exact other ⟨some, fun same => different same.symm⟩

end ShmemIpc2

end OpenAppsec
