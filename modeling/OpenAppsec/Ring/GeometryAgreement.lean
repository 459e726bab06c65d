import OpenAppsec.Ring.Negotiation

/-!
# Both sides of a queue

An owner creates a queue and another process attaches to it, each linked with
one of the two versions.  They agree on every offset and on every segment
count unless the marker table outgrows its segment or the environment of a
first-generation process pins the small segment size.
-/

namespace OpenAppsec

open Ring

/-- Whether a party's `createSharedRingQueue` returned a queue, and what it
changed. -/
structure PartyCreation where
  opened : Bool
  party : Party
  shm : ShmStore

namespace Party

def createSharedRingQueue (party : Party) (calls : SystemCalls)
    (shm : ShmStore) (name : CString) (numOfDataSegments : Nat)
    (isOwner isTx : Bool) : PartyCreation :=
  match party with
  | shmemIpc host process =>
      let created := ShmemIpc.createSharedRingQueue host calls process shm name
        numOfDataSegments isOwner
      { opened := created.opened
        party := shmemIpc host created.process
        shm := created.shm }
  | shmemIpc2 host globalData process =>
      let created := ShmemIpc2.createSharedRingQueue host calls process shm
        name numOfDataSegments isOwner isTx globalData
      { opened := created.opened
        party := shmemIpc2 host created.globalData created.process
        shm := created.shm }

def getDataSegmentAddress (party : Party) (segmentIdx : Nat) : Nat :=
  match party with
  | shmemIpc host process =>
      (ShmemIpc.getDataSegmentAddress host process segmentIdx).1
  | shmemIpc2 host _ process =>
      (ShmemIpc2.getDataSegmentAddress host process segmentIdx).1

def getNumOfDataSegmentsNeeded (party : Party) (dataSize : Nat) : Nat :=
  match party with
  | shmemIpc host process =>
      (ShmemIpc.getNumOfDataSegmentsNeeded host process dataSize).1
  | shmemIpc2 host _ process =>
      (ShmemIpc2.getNumOfDataSegmentsNeeded host process dataSize).1

def isCorruptedQueue (party : Party) (queue : SharedRingQueue)
    (isTx : Bool) : Bool :=
  match party with
  | shmemIpc _ process => ShmemIpc.isCorruptedQueue process queue
  | shmemIpc2 _ globalData _ =>
      ShmemIpc2.isCorruptedQueue queue globalData isTx

/-- The `size_of_memory` that the party computed for a queue. -/
def sizeOfMemory (party : Party) (name : CString) : Option Int :=
  match party with
  | shmemIpc _ process =>
      (ShmemIpc.getQueueParams process name).map
        ShmemIpc.QueueParams.memorySize
  | shmemIpc2 _ globalData _ => some globalData.gMemorySize

/-- The stride that `getDataSegmentAddress` uses. -/
def segmentSize (party : Party) : Nat :=
  match party with
  | shmemIpc host process => (ShmemIpc.getEffectiveSegmentSize host process).1
  | shmemIpc2 host _ process =>
      (ShmemIpc2.getEffectiveSegmentSize host process).1

/-- The size that `getNumOfDataSegmentsNeeded` uses. -/
def entrySize (party : Party) : Nat :=
  match party with
  | shmemIpc host process => (ShmemIpc.getEffectiveEntrySize host process).1
  | shmemIpc2 host _ process =>
      (ShmemIpc2.getEffectiveSegmentSize host process).1

/-- The segment size that a creation negotiates from the environment. -/
def negotiatedSegmentSize (party : Party) : Nat :=
  match party with
  | shmemIpc host process => ShmemIpc.negotiatedSegmentSize host process
  | shmemIpc2 host _ process => ShmemIpc2.negotiatedSegmentSize host process

/-- The environment drives the two sizes of the first generation apart. -/
def PinsSmallSegment (party : Party) : Prop :=
  match party with
  | shmemIpc host process => ShmemIpc.PinsSmallSegment host process
  | shmemIpc2 _ _ _ => False

theorem getDataSegmentAddress_eq (party : Party) (segmentIdx : Nat) :
    party.getDataSegmentAddress segmentIdx =
      dataSegmentAddress party.segmentSize segmentIdx := by
  cases party <;> rfl

theorem getNumOfDataSegmentsNeeded_eq (party : Party) (dataSize : Nat) :
    party.getNumOfDataSegmentsNeeded dataSize =
      numOfDataSegmentsNeeded party.entrySize dataSize := by
  cases party <;> rfl

end Party

/-- Owner and attacher agree on the layout of a queue of `numOfDataSegments`
segments, and each of them counts segments by the stride it uses. -/
structure GeometryAgrees (name : CString) (numOfDataSegments : Nat)
    (queue : SharedRingQueue) (isTx : Bool) (owner attacher : Party) :
    Prop where
  notCorrupted : attacher.isCorruptedQueue queue isTx = false
  sizeOfMemory : attacher.sizeOfMemory name = owner.sizeOfMemory name
  addresses : ∀ segmentIdx, attacher.getDataSegmentAddress segmentIdx =
    owner.getDataSegmentAddress segmentIdx
  segments : ∀ dataSize, attacher.getNumOfDataSegmentsNeeded dataSize =
    owner.getNumOfDataSegmentsNeeded dataSize
  ownerSizes : owner.entrySize = owner.segmentSize
  attacherSizes : attacher.entrySize = attacher.segmentSize
  table : markerOffset numOfDataSegments ≤ owner.getDataSegmentAddress 0

section Sides

variable {party : Party} {calls : SystemCalls} {shm : ShmStore}
variable {name : CString} {numOfDataSegments : Nat} {isTx : Bool}

/-- What an owner's creation establishes. -/
structure OwnerSide (party : Party) (name : CString)
    (numOfDataSegments : Nat) (created : PartyCreation) : Prop where
  bounded : numOfDataSegments ≤ maxNumOfDataSegments
  segmentSize : created.party.segmentSize = party.negotiatedSegmentSize
  entrySize : (created.party.segmentSize = sharedMemorySegmentEntrySizeBC ∨
      created.party.segmentSize = sharedMemorySegmentEntrySize) →
    (created.party.entrySize = created.party.segmentSize ↔
      ¬party.PinsSmallSegment)
  sizeOfMemory : created.party.sizeOfMemory name =
    some (effectiveSizeOfMemory created.party.segmentSize
      numOfDataSegments : Int)
  mapped : ∃ object, created.shm name = some object ∧
    Stamped object name numOfDataSegments created.party.segmentSize

theorem openedQueue_stamped (object : ShmObject) (name : CString)
    (numOfDataSegments segmentSize : Nat) (fd : Int)
    (short : name.length < maxOneWayQueueNameLength) :
    let size := effectiveSizeOfMemory segmentSize numOfDataSegments
    Stamped
      { fileSize := (resizedObject object size true).fileSize
        queue := openedQueue object name numOfDataSegments size fd true }
      name numOfDataSegments segmentSize :=
  { fileSize := by
      rw [effectiveSizeOfMemory_eq]
      exact Nat.le_succ_of_le (Nat.le_add_right _ _)
    location := snprintfName_of_short short
    count := rfl
    memory := rfl
    readPos := rfl
    writePos := rfl }

theorem Party.createSharedRingQueue_owner
    (short : name.length < maxOneWayQueueNameLength)
    (opened : (party.createSharedRingQueue calls shm name numOfDataSegments
      true isTx).opened = true) :
    OwnerSide party name numOfDataSegments
      (party.createSharedRingQueue calls shm name numOfDataSegments true
        isTx) := by
  cases party with
  | shmemIpc host process =>
      obtain ⟨fd, object, _, facts⟩ :=
        ShmemIpc.createSharedRingQueue_opened short opened
      have segment := facts.segmentSize
      have entry := facts.entrySize
      constructor
      · exact facts.bounded
      · exact segment
      · intro released
        simp only [Party.createSharedRingQueue, Party.entrySize,
          Party.segmentSize, segment, entry] at released ⊢
        exact ShmemIpc.negotiatedEntrySize_eq_iff host process released
      · simp only [Party.createSharedRingQueue, Party.sizeOfMemory,
          Party.segmentSize, facts.params, segment, Option.map_some]
      · simp only [Party.createSharedRingQueue, Party.segmentSize, segment]
        exact ⟨_, facts.mapped, openedQueue_stamped _ _ _ _ _ short⟩
  | shmemIpc2 host globalData process =>
      obtain ⟨fd, object, _, facts⟩ :=
        ShmemIpc2.createSharedRingQueue_opened opened
      have segment := facts.segmentSize
      constructor
      · exact facts.bounded
      · exact segment
      · exact fun _ => iff_of_true rfl id
      · simp only [Party.createSharedRingQueue, Party.sizeOfMemory,
          Party.segmentSize, segment, facts.globalData_eq,
          ShmemIpc2.recordLocation_memory]
      · simp only [Party.createSharedRingQueue, Party.segmentSize, segment]
        exact ⟨_, facts.mapped, openedQueue_stamped _ _ _ _ _ short⟩

/-- What an attacher's creation establishes, given the size that the header of
the queue decodes to. -/
structure AttacherSide (party : Party) (name : CString)
    (numOfDataSegments derived : Nat) (isTx : Bool) (object : ShmObject)
    (created : PartyCreation) : Prop where
  segmentSize : created.party.segmentSize =
    if derived = 0 then party.negotiatedSegmentSize else derived
  entrySize : (created.party.segmentSize = sharedMemorySegmentEntrySizeBC ∨
      created.party.segmentSize = sharedMemorySegmentEntrySize) →
    (created.party.entrySize = created.party.segmentSize ↔
      (derived ≠ 0 ∧ derived ≠ party.negotiatedSegmentSize) ∨
        ¬party.PinsSmallSegment)
  sizeOfMemory : created.party.sizeOfMemory name =
    some (effectiveSizeOfMemory created.party.segmentSize
      numOfDataSegments : Int)
  mapped : ∃ fileSize fd, created.shm name =
    some
      { fileSize
        queue := { object.queue with userFd := fd } }
  notCorrupted :
    Stamped object name numOfDataSegments created.party.segmentSize →
      ∀ fd, created.party.isCorruptedQueue
        { object.queue with userFd := fd } isTx = false

theorem Party.createSharedRingQueue_attacher {object : ShmObject}
    (short : name.length < maxOneWayQueueNameLength)
    (present : shm name = some object)
    (opened : (party.createSharedRingQueue calls shm name numOfDataSegments
      false isTx).opened = true) :
    AttacherSide party name numOfDataSegments
      (deriveSegmentSizeFromExistingQueue calls object) isTx object
      (party.createSharedRingQueue calls shm name numOfDataSegments false
        isTx) := by
  have sole : ∀ {fd other}, shmOpen calls false name shm =
      some (fd, other) → other = object := by
    intro fd other found
    unfold shmOpen at found
    rw [present] at found
    cases descriptor : calls.shmOpen with
    | none => simp [descriptor] at found
    | some opened =>
        simp only [descriptor, Option.some.injEq, Prod.mk.injEq] at found
        exact found.2.symm
  cases party with
  | shmemIpc host process =>
      obtain ⟨fd, other, found, facts⟩ :=
        ShmemIpc.createSharedRingQueue_opened short opened
      cases sole found
      obtain ⟨segment, entry⟩ :=
        ShmemIpc.attachedSizes host calls process object
      rw [← facts.segmentSize] at segment
      rw [← facts.entrySize] at entry
      have registered := facts.params
      rw [← facts.segmentSize] at registered
      constructor
      · exact segment
      · intro released
        simp only [Party.createSharedRingQueue, Party.entrySize,
          Party.segmentSize, Party.negotiatedSegmentSize,
          Party.PinsSmallSegment, segment, entry] at released ⊢
        by_cases negotiated :
            deriveSegmentSizeFromExistingQueue calls object = 0 ∨
              deriveSegmentSizeFromExistingQueue calls object =
                ShmemIpc.negotiatedSegmentSize host process
        · have stride :
              (if deriveSegmentSizeFromExistingQueue calls object = 0 then
                ShmemIpc.negotiatedSegmentSize host process
              else deriveSegmentSizeFromExistingQueue calls object) =
                ShmemIpc.negotiatedSegmentSize host process := by
            split
            · rfl
            · exact negotiated.resolve_left ‹_›
          rw [stride] at released ⊢
          rw [if_pos negotiated,
            ShmemIpc.negotiatedEntrySize_eq_iff host process released]
          exact (or_iff_right fun both => negotiated.elim both.1 both.2).symm
        · obtain ⟨some, different⟩ := not_or.mp negotiated
          rw [if_neg negotiated, if_neg some]
          exact iff_of_true rfl (Or.inl ⟨some, different⟩)
      · simp only [Party.createSharedRingQueue, Party.sizeOfMemory,
          Party.segmentSize, registered, Option.map_some]
      · exact ⟨_, fd, facts.mapped⟩
      · intro stamped fd
        simp only [Party.createSharedRingQueue, Party.isCorruptedQueue,
          Party.segmentSize] at stamped ⊢
        simp [ShmemIpc.isCorruptedQueue, stamped.location, registered,
          stamped.count, stamped.memory, stamped.readPos, stamped.writePos]
  | shmemIpc2 host globalData process =>
      obtain ⟨fd, other, found, facts⟩ :=
        ShmemIpc2.createSharedRingQueue_opened opened
      cases sole found
      have segment := ShmemIpc2.attachedSize host calls process object
      rw [← facts.segmentSize] at segment
      constructor
      · exact segment
      · exact fun _ => iff_of_true rfl (Or.inr id)
      · simp only [Party.createSharedRingQueue, Party.sizeOfMemory,
          Party.segmentSize, facts.segmentSize, facts.globalData_eq,
          ShmemIpc2.recordLocation_memory]
      · exact ⟨_, fd, facts.mapped⟩
      · intro stamped fd
        have located := snprintfName_of_short short
        simp only [Party.createSharedRingQueue, Party.isCorruptedQueue,
          Party.segmentSize, facts.segmentSize] at stamped ⊢
        cases isTx <;>
          simp [ShmemIpc2.isCorruptedQueue, facts.globalData_eq,
            ShmemIpc2.recordLocation, stamped.location, stamped.count,
            stamped.memory, stamped.readPos, stamped.writePos, located]

theorem Party.PinsSmallSegment.negotiated (pins : party.PinsSmallSegment) :
    party.negotiatedSegmentSize = sharedMemorySegmentEntrySizeBC := by
  cases party with
  | shmemIpc host process => exact ShmemIpc.PinsSmallSegment.negotiated pins
  | shmemIpc2 host globalData process => cases pins

theorem dataSegmentAddress_zero (segmentSize : Nat) :
    dataSegmentAddress segmentSize 0 =
      sharedRingQueueHeaderPrefixSize + segmentSize := by
  rw [dataSegmentAddress_eq, Nat.zero_add, Nat.mul_one]

theorem geometryAgrees_iff {owner attacher : Party}
    {built attached : PartyCreation} {derived : Nat} {object : ShmObject}
    (ownerSide : OwnerSide owner name numOfDataSegments built)
    (attacherSide : AttacherSide attacher name numOfDataSegments derived isTx
      object attached)
    (stamped : Stamped object name numOfDataSegments built.party.segmentSize)
    (fd : Int) :
    GeometryAgrees name numOfDataSegments { object.queue with userFd := fd }
        isTx built.party attached.party ↔
      2 * numOfDataSegments ≤ built.party.segmentSize ∧
        built.party.entrySize = built.party.segmentSize ∧
        attached.party.entrySize = attached.party.segmentSize ∧
        attached.party.segmentSize = built.party.segmentSize := by
  constructor
  · intro agrees
    have table := agrees.table
    have first := agrees.addresses 0
    simp only [Party.getDataSegmentAddress_eq, dataSegmentAddress_zero]
      at table first
    simp only [markerOffset] at table
    exact ⟨by omega, agrees.ownerSizes, agrees.attacherSizes, by omega⟩
  · rintro ⟨fits, ownerSizes, attacherSizes, same⟩
    constructor
    · apply attacherSide.notCorrupted
      rw [same]
      exact stamped
    · rw [attacherSide.sizeOfMemory, ownerSide.sizeOfMemory, same]
    · intro segmentIdx
      rw [Party.getDataSegmentAddress_eq, Party.getDataSegmentAddress_eq,
        same]
    · intro dataSize
      rw [Party.getNumOfDataSegmentsNeeded_eq,
        Party.getNumOfDataSegmentsNeeded_eq, attacherSizes, ownerSizes, same]
    · exact ownerSizes
    · exact attacherSizes
    · rw [Party.getDataSegmentAddress_eq, dataSegmentAddress_zero]
      simp only [markerOffset]
      omega

end Sides

/-- The two sides agree on the geometry exactly when the marker table fits its
segment, no first-generation side that uses the small segment has it pinned by
its environment, and the attacher can read the header or would have negotiated
the same size. -/
theorem geometry_agreement (owner attacher : Party)
    (ownerCalls attacherCalls : SystemCalls) (shm : ShmStore)
    (name : CString) (numOfDataSegments : Nat) (ownerTx attacherTx : Bool)
    (built attached : PartyCreation) (object : ShmObject)
    (short : name.length < maxOneWayQueueNameLength)
    (positive : 1 ≤ numOfDataSegments)
    (building : owner.createSharedRingQueue ownerCalls shm name
      numOfDataSegments true ownerTx = built)
    (ownerOpened : built.opened = true)
    (released :
      built.party.segmentSize = sharedMemorySegmentEntrySizeBC ∨
        built.party.segmentSize = sharedMemorySegmentEntrySize)
    (attaching : attacher.createSharedRingQueue attacherCalls built.shm name
      numOfDataSegments false attacherTx = attached)
    (attacherOpened : attached.opened = true)
    (mapped : attached.shm name = some object) :
    GeometryAgrees name numOfDataSegments object.queue attacherTx built.party
        attached.party ↔
      2 * numOfDataSegments ≤ built.party.segmentSize ∧
        ¬owner.PinsSmallSegment ∧
        (attacher.PinsSmallSegment →
          built.party.segmentSize ≠ sharedMemorySegmentEntrySizeBC) ∧
        (attacherCalls.HeaderReadable ∨
          attacher.negotiatedSegmentSize = built.party.segmentSize) := by
  subst building attaching
  have ownerSide := Party.createSharedRingQueue_owner short ownerOpened
  obtain ⟨stampedObject, present, stamped⟩ := ownerSide.mapped
  have attacherSide :=
    Party.createSharedRingQueue_attacher short present attacherOpened
  obtain ⟨fileSize, fd, attachedObject⟩ := attacherSide.mapped
  cases mapped.symm.trans attachedObject
  rw [geometryAgrees_iff ownerSide attacherSide stamped fd,
    ownerSide.entrySize released]
  have segment := attacherSide.segmentSize
  have nonzero : (owner.createSharedRingQueue ownerCalls shm name
      numOfDataSegments true ownerTx).party.segmentSize ≠ 0 := by
    intro zero
    rw [zero] at released
    rcases released with small | large
    · cases small
    · cases large
  have pinned := fun pins : attacher.PinsSmallSegment => pins.negotiated
  have decoded : attacherCalls.HeaderReadable →
      deriveSegmentSizeFromExistingQueue attacherCalls stampedObject =
        (owner.createSharedRingQueue ownerCalls shm name numOfDataSegments
          true ownerTx).party.segmentSize :=
    deriveSegmentSizeFromExistingQueue_stamped stamped positive
      ownerSide.bounded released
  have undecoded : ¬attacherCalls.HeaderReadable →
      deriveSegmentSizeFromExistingQueue attacherCalls stampedObject = 0 :=
    deriveSegmentSizeFromExistingQueue_unreadable stampedObject
  constructor
  · rintro ⟨fits, ownerFree, attacherSizes, same⟩
    have settled := (attacherSide.entrySize (same ▸ released)).mp
      attacherSizes
    refine ⟨fits, ownerFree, ?_, ?_⟩
    · intro pins small
      rcases settled with ⟨some, different⟩ | unpinned
      · by_cases readable : attacherCalls.HeaderReadable
        · rw [decoded readable, pinned pins] at different
          exact different small
        · exact some (undecoded readable)
      · exact unpinned pins
    · by_cases readable : attacherCalls.HeaderReadable
      · exact Or.inl readable
      · right
        rw [if_pos (undecoded readable)] at segment
        rw [← segment, same]
  · rintro ⟨fits, ownerFree, attacherFree, source⟩
    have same : (attacher.createSharedRingQueue attacherCalls
        (owner.createSharedRingQueue ownerCalls shm name numOfDataSegments
          true ownerTx).shm name numOfDataSegments false
        attacherTx).party.segmentSize =
          (owner.createSharedRingQueue ownerCalls shm name numOfDataSegments
            true ownerTx).party.segmentSize := by
      rw [segment]
      by_cases readable : attacherCalls.HeaderReadable
      · rw [decoded readable, if_neg nonzero]
      · rw [if_pos (undecoded readable)]
        exact source.resolve_left readable
    refine ⟨fits, ownerFree, ?_, same⟩
    apply (attacherSide.entrySize (same ▸ released)).mpr
    by_cases pins : attacher.PinsSmallSegment
    · have different := attacherFree pins
      have readable : attacherCalls.HeaderReadable := by
        apply source.resolve_right
        rw [pinned pins]
        exact different.symm
      left
      rw [decoded readable, pinned pins]
      exact ⟨nonzero, different⟩
    · exact Or.inr pins

theorem geometry_agreement_across_generations :
    let owner := Party.shmemIpc2 dualDockerHost
      ShmemIpc2.createSharedRingGlobalData (.start fun _ => none)
    let attacher :=
      Party.shmemIpc singleDockerHost (.start fun _ => none)
    let built := owner.createSharedRingQueue (.succeed 3) .empty ['q'] 512
      true false
    let attached := attacher.createSharedRingQueue (.succeed 4) built.shm
      ['q'] 512 false true
    GeometryAgrees ['q'] 512 ((attached.shm ['q']).getD emptyShmObject).queue
        true built.party attached.party ↔
      2 * 512 ≤ built.party.segmentSize ∧
        ¬owner.PinsSmallSegment ∧
        (attacher.PinsSmallSegment →
          built.party.segmentSize ≠ sharedMemorySegmentEntrySizeBC) ∧
        (SystemCalls.HeaderReadable (.succeed 4) ∨
          attacher.negotiatedSegmentSize = built.party.segmentSize) :=
  geometry_agreement _ _ _ _ _ ['q'] 512 _ _ _ _ _ (by decide) (by decide)
    rfl (by decide +kernel) (by decide +kernel) rfl (by decide +kernel) rfl

/-- With six hundred small segments the marker table runs into the data; with
the small segment pinned outside the split deployment, an owner counts
segments of four kilobytes and lays out segments of one. -/
theorem geometry_disagreement :
    (let owner := Party.shmemIpc dualDockerHost (.start fun _ => none)
      let built := owner.createSharedRingQueue (.succeed 3) .empty ['q'] 600
        true false
      let attached := owner.createSharedRingQueue (.succeed 4) built.shm
        ['q'] 600 false true
      built.opened = true ∧ attached.opened = true ∧
        built.party.segmentSize = sharedMemorySegmentEntrySizeBC ∧
        ¬GeometryAgrees ['q'] 600
          ((attached.shm ['q']).getD emptyShmObject).queue true built.party
          attached.party) ∧
      let owner := Party.shmemIpc singleDockerHost
        (.start (setenv (fun _ => none) effectiveShmSegmentSize
          ['1', '0', '2', '4']))
      let built := owner.createSharedRingQueue (.succeed 3) .empty ['q'] 4
        true false
      let attached := owner.createSharedRingQueue (.succeed 4) built.shm
        ['q'] 4 false true
      built.opened = true ∧ attached.opened = true ∧
        built.party.segmentSize = sharedMemorySegmentEntrySizeBC ∧
        ¬GeometryAgrees ['q'] 4
          ((attached.shm ['q']).getD emptyShmObject).queue true built.party
          attached.party := by
  refine ⟨⟨by decide +kernel, by decide +kernel, by decide +kernel, ?_⟩,
    by decide +kernel, by decide +kernel, by decide +kernel, ?_⟩
  · intro agrees
    exact absurd agrees.table (by decide +kernel)
  · intro agrees
    exact absurd agrees.ownerSizes (by decide +kernel)

end OpenAppsec
