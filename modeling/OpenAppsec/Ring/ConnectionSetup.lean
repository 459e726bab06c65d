import OpenAppsec.Ring.DuplexDelivery

/-!
# Setting a connection up

An owner that opens both of its queues and a user that attaches to them end up
with the two ends of one connection.  Each `createSharedRingQueue` negotiates
the segment size anew, so both creations of a process have to come to the same
size.
-/

namespace OpenAppsec

open Ring MessageChannels

variable {numOfDataSegments : Nat} {isOwner : Bool}

namespace Party

/-- Every creation of the party negotiates the same two sizes. -/
def Negotiates (party : Party) (names : List CString) (sizes : Nat × Nat) :
    Prop :=
  match party with
  | shmemIpc host process =>
      names.length ≤ ShmemIpc.maxQueues ∧ ShmemIpc.TableOk names process ∧
        ∃ larger, ShmemIpc.Settled host sizes.1 larger process ∧
          sizes.2 = ShmemIpc.releasedSize larger
  | shmemIpc2 host _ process =>
      sizes.1 = ShmemIpc2.negotiatedSegmentSize host process ∧
        sizes.2 = sizes.1

/-- The limits under which the party keeps a queue. -/
def Records (party : Party) (name : CString) (numOfDataSegments : Nat)
    (memorySize : Int) : Prop :=
  match party with
  | shmemIpc _ process =>
      ShmemIpc.registeredLimits process name =
        some (numOfDataSegments, memorySize)
  | shmemIpc2 _ globalData _ =>
      globalData.gNumOfDataSegments = numOfDataSegments ∧
        globalData.gMemorySize = memorySize

section Creation

variable {party : Party} {names : List CString} {sizes : Nat × Nat}

theorem Negotiates.createSharedRingGlobalData
    (negotiates : party.Negotiates names sizes) :
    party.createSharedRingGlobalData.Negotiates names sizes := by
  cases party <;> exact negotiates

theorem Negotiates.registered (negotiates : party.Negotiates names sizes)
    {name : CString} {g : Geometry} {memorySize : Int}
    (records : party.Records name g.count memorySize)
    (segment : party.segmentSize = g.segmentSize)
    (entry : party.entrySize = g.segmentSize) :
    party.Registered name (g.limits memorySize) := by
  cases party with
  | shmemIpc host process =>
      obtain ⟨_, _, larger, settled, _⟩ := negotiates
      obtain ⟨params, found, limits⟩ := Option.map_eq_some_iff.mp records
      obtain ⟨count, memory⟩ := Prod.mk.inj limits
      have registered := settled.registered found
      simp only [segmentSize, entrySize] at segment entry
      rw [count, memory, segment, entry] at registered
      exact registered
  | shmemIpc2 host globalData process =>
      exact ⟨records.1, records.2, segment, rfl⟩

/-- What a creation that returned its queue establishes. -/
structure CreatedQueue (names : List CString) (sizes : Nat × Nat)
    (party : Party) (calls : SystemCalls) (shm : ShmStore) (name : CString)
    (numOfDataSegments : Nat) (isOwner isTx : Bool)
    (created : PartyCreation) : Prop where
  negotiates : created.party.Negotiates names sizes
  sizes : (created.party.segmentSize, created.party.entrySize) =
    createdSizes sizes calls shm name numOfDataSegments isOwner
  object : (createdObject created.party.segmentSize calls shm name
    numOfDataSegments isOwner).1 = true
  shm : created.shm = shm.set name (createdObject created.party.segmentSize
    calls shm name numOfDataSegments isOwner).2
  records : created.party.Records name numOfDataSegments
    (effectiveSizeOfMemory created.party.segmentSize numOfDataSegments)
  locates : created.party.Locates name isTx
  others : ∀ other, other ≠ name →
    party.Records other numOfDataSegments
      (effectiveSizeOfMemory created.party.segmentSize numOfDataSegments) →
    party.Locates other (!isTx) →
    created.party.Records other numOfDataSegments
        (effectiveSizeOfMemory created.party.segmentSize
          numOfDataSegments) ∧
      created.party.Locates other (!isTx)

theorem createdQueue (negotiates : party.Negotiates names sizes)
    {calls : SystemCalls} {shm : ShmStore} {name : CString} {isTx : Bool}
    (member : name ∈ names) (short : name.length < maxOneWayQueueNameLength)
    (opened : (party.createSharedRingQueue calls shm name numOfDataSegments
      isOwner isTx).opened = true) :
    CreatedQueue names sizes party calls shm name numOfDataSegments isOwner
      isTx (party.createSharedRingQueue calls shm name numOfDataSegments
        isOwner isTx) := by
  cases party with
  | shmemIpc host process =>
      obtain ⟨few, table, larger, settled, entry⟩ := negotiates
      have spec := ShmemIpc.createSharedRingQueue_spec settled table few
        member short calls shm numOfDataSegments isOwner
      obtain ⟨created, left, limits⟩ := spec.effect
      have returned := created.symm.trans opened
      rw [if_pos returned] at limits
      exact
        { negotiates := ⟨few, spec.table, larger, spec.settled, entry⟩
          sizes := by
            have negotiated := spec.sizes
            rw [← entry] at negotiated
            exact negotiated
          object := returned
          shm := left
          records := limits
          locates := trivial
          others := by
            intro other different records _
            refine ⟨?_, trivial⟩
            simp only [Records, ShmemIpc.registeredLimits,
              createSharedRingQueue] at records ⊢
            rw [spec.others other different]
            exact records }
  | shmemIpc2 host globalData process =>
      obtain ⟨segment, entry⟩ := negotiates
      have spec := ShmemIpc2.createSharedRingQueue_spec host calls process
        shm name numOfDataSegments isOwner isTx globalData
      obtain ⟨created, left, count, memory, location, otherLocation⟩ :=
        spec.effect
      have returned := created.symm.trans opened
      rw [if_neg (ShmemIpc2.createdObject_bounded returned)] at count
      rw [if_pos returned] at memory location
      have same : sizes = (ShmemIpc2.negotiatedSegmentSize host process,
          ShmemIpc2.negotiatedSegmentSize host process) :=
        Prod.ext segment (entry.trans segment)
      exact
        { negotiates := ⟨segment.trans spec.negotiated.symm, entry⟩
          sizes := by
            have size := spec.size
            rw [same]
            simp only [createSharedRingQueue, segmentSize, entrySize, size]
            unfold createdSizes
            split
            · rfl
            split
            · rfl
            dsimp only
            split <;> rfl
          object := returned
          shm := left
          records := ⟨count, memory⟩
          locates := location.trans (snprintfName_of_short short)
          others := fun other _ records located =>
            ⟨⟨count, memory⟩, otherLocation.trans located⟩ }

end Creation

end Party

namespace Ring

variable {rxCalls txCalls : SystemCalls}

/-- The sizes that a user negotiates do not keep it from laying its queues
out with the segment size of the owner. -/
def Adopts (sizes : Nat × Nat) (segmentSize : Nat) (calls : IpcCalls) :
    Prop :=
  sizes = (segmentSize, segmentSize) ∨
    calls.rx.createQueue.HeaderReadable ∧
      calls.tx.createQueue.HeaderReadable ∧ sizes.1 ≠ segmentSize

theorem channelQueue_short (name : CString) (sender : Side) :
    (channelQueue name sender).length < maxOneWayQueueNameLength := by
  simp only [channelQueue, oneWayQueueName, List.length_take,
    maxOneWayQueueNameLength]
  omega

theorem channelQueue_ne (name : CString) (side : Side) :
    channelQueue name side ≠ channelQueue name side.other := by
  intro same
  have eleventh := congrArg (fun queue => queue[10]?) same
  cases side <;>
    simp [channelQueue, oneWayQueueName, direction, Side.isOwner, Side.other,
      maxOneWayQueueNameLength] at eleventh

section Queues

variable {calls : SystemCalls} {shm : ShmStore} {name : CString}
variable {object : ShmObject}

variable {segmentSize : Nat}

theorem createdSizes_owner (sizes : Nat × Nat) (calls : SystemCalls)
    (shm : ShmStore) (name : CString) (numOfDataSegments : Nat) :
    createdSizes sizes calls shm name numOfDataSegments true = sizes := by
  unfold createdSizes
  split
  · rfl
  split
  · rfl
  · simp

theorem createdObject_opened
    (created : (createdObject segmentSize calls shm name numOfDataSegments
      isOwner).1 = true) :
    ∃ fd found, numOfDataSegments ≤ maxNumOfDataSegments ∧
      shmOpen calls isOwner name shm = some (fd, found) ∧
      let sizeOfMemory := effectiveSizeOfMemory segmentSize numOfDataSegments
      (createdObject segmentSize calls shm name numOfDataSegments
          isOwner).2 =
        some
          { fileSize := (resizedObject found sizeOfMemory isOwner).fileSize
            queue := openedQueue found name numOfDataSegments sizeOfMemory fd
              isOwner } := by
  have bounded := ShmemIpc2.createdObject_bounded created
  unfold createdObject at created ⊢
  rw [if_neg bounded] at created ⊢
  cases found : shmOpen calls isOwner name shm with
  | none =>
      rw [found] at created
      cases created
  | some opened =>
      rw [found] at created
      dsimp only at created ⊢
      split at created
      · cases created
      rename_i truncated
      split at created
      · cases created
      rename_i mapped
      rw [if_neg truncated, if_neg mapped]
      exact ⟨_, _, Nat.le_of_not_gt bounded, rfl, rfl⟩

theorem shmOpen_user {fd : Int} {found : ShmObject}
    (present : shm name = some object)
    (opened : shmOpen calls false name shm = some (fd, found)) :
    found = object := by
  unfold shmOpen at opened
  rw [present] at opened
  split at opened
  · cases opened
  · rename_i stored
    cases opened
    cases stored
    rfl
  · rename_i stored
    cases stored

theorem createdObject_owner {g : Geometry} (positive : 0 < g.count)
    (short : name.length < maxOneWayQueueNameLength)
    (created : (createdObject g.segmentSize calls shm name g.count
      true).1 = true) :
    ∃ object,
      (createdObject g.segmentSize calls shm name g.count true).2 =
          some object ∧
        Stamped object name g.count g.segmentSize ∧
        Holds g (effectiveSizeOfMemory g.segmentSize g.count) object.queue
          [] := by
  obtain ⟨fd, found, _, _, left⟩ := createdObject_opened created
  exact ⟨_, left, openedQueue_stamped found name g.count g.segmentSize fd
    short, initializeQueue_holds g _ name _ fd positive⟩

theorem createdObject_user (present : shm name = some object)
    (created : (createdObject segmentSize calls shm name numOfDataSegments
      false).1 = true) :
    ∃ fd, (createdObject segmentSize calls shm name numOfDataSegments
      false).2 =
        some { object with queue := { object.queue with userFd := fd } } := by
  obtain ⟨fd, found, _, opened, left⟩ := createdObject_opened created
  cases shmOpen_user present opened
  exact ⟨fd, left⟩

theorem createdSizes_user {sizes : Nat × Nat} {created : Nat}
    (present : shm name = some object)
    (stamped : Stamped object name numOfDataSegments segmentSize)
    (positive : 0 < numOfDataSegments)
    (released : segmentSize = sharedMemorySegmentEntrySizeBC ∨
      segmentSize = sharedMemorySegmentEntrySize)
    (adopts : sizes = (segmentSize, segmentSize) ∨
      calls.HeaderReadable ∧ sizes.1 ≠ segmentSize)
    (opened : (createdObject created calls shm name numOfDataSegments
      false).1 = true) :
    createdSizes sizes calls shm name numOfDataSegments false =
      (segmentSize, segmentSize) := by
  obtain ⟨fd, found, bounded, shmOpened, _⟩ := createdObject_opened opened
  cases shmOpen_user present shmOpened
  have nonzero : segmentSize ≠ 0 := by
    rcases released with rfl | rfl <;> decide
  simp only [createdSizes, if_neg (Nat.not_lt_of_le bounded), shmOpened]
  by_cases readable : calls.HeaderReadable
  · have derived := deriveSegmentSizeFromExistingQueue_stamped stamped
      positive bounded released readable
    rcases adopts with same | ⟨_, different⟩
    · simp [derived, same]
    · simp [derived, nonzero, different.symm]
  · have same := adopts.resolve_right fun both => readable both.1
    simp [deriveSegmentSizeFromExistingQueue_unreadable object readable,
      same]

end Queues

section Opened

variable {party : Party} {shm : ShmStore} {name : CString}
variable {numOfQueueElem : Nat}

theorem createOneWayIPCQueue_some {calls : OneWayCalls} {queue : CString}
    {isTxQueue : Bool}
    (opened : (createOneWayIPCQueue party calls shm name isTxQueue isOwner
      numOfQueueElem).result = some queue) :
    let towardsOwner := isTowardsOwner isOwner isTxQueue
    let created := party.createSharedRingQueue calls.createQueue shm
      (oneWayQueueName towardsOwner name) numOfQueueElem isOwner towardsOwner
    created.opened = true ∧
      createOneWayIPCQueue party calls shm name isTxQueue isOwner
          numOfQueueElem =
        { result := some (oneWayQueueName towardsOwner name)
          party := created.party
          shm := created.shm } := by
  unfold createOneWayIPCQueue at opened ⊢
  dsimp only at opened ⊢
  split at opened
  · cases opened
  rename_i returned
  split at opened
  · cases opened
  rename_i long
  split at opened
  · cases opened
  rename_i permitted
  rw [if_neg returned, if_neg long, if_neg permitted]
  exact ⟨by simpa using returned, rfl⟩

theorem initIpc_some {calls : IpcCalls} {side : Side} {ipc : SharedMemoryIPC}
    (opened : (initIpc party calls shm name side.isOwner
      numOfQueueElem).result = some ipc) :
    let rx := party.createSharedRingGlobalData.createSharedRingQueue
      calls.rx.createQueue shm (channelQueue name side.other) numOfQueueElem
      side.isOwner (!side.other.isOwner)
    let tx := rx.party.createSharedRingQueue calls.tx.createQueue rx.shm
      (channelQueue name side) numOfQueueElem side.isOwner (!side.isOwner)
    rx.opened = true ∧ tx.opened = true ∧
      initIpc party calls shm name side.isOwner numOfQueueElem =
        { result := some
            { shmName := name.take 32
              rxQueue := some (channelQueue name side.other)
              txQueue := some (channelQueue name side) }
          party := tx.party
          shm := tx.shm } := by
  obtain ⟨towards, away⟩ := isTowardsOwner_eq side
  unfold initIpc at opened ⊢
  split at opened
  · cases opened
  rename_i allocated
  rw [if_neg allocated]
  dsimp only at opened ⊢
  split at opened
  · cases opened
  rename_i rxQueue rxOpened
  obtain ⟨rxReturned, rxEq⟩ := createOneWayIPCQueue_some rxOpened
  rw [towards] at rxReturned rxEq
  rw [rxEq] at opened rxOpened ⊢
  cases rxOpened
  dsimp only at opened ⊢
  split at opened
  · cases opened
  rename_i txQueue txOpened
  obtain ⟨txReturned, txEq⟩ := createOneWayIPCQueue_some txOpened
  rw [away] at txReturned txEq
  rw [txEq] at txOpened ⊢
  cases txOpened
  exact ⟨rxReturned, txReturned, rfl⟩

end Opened

/-- A side that holds its end of a connection. -/
structure HoldsEnd (g : Geometry) (name : CString) (side : Side)
    (party : Party) (ipc : SharedMemoryIPC) : Prop where
  rxQueue : ipc.rxQueue = some (channelQueue name side.other)
  txQueue : ipc.txQueue = some (channelQueue name side)
  registered : ∀ sender, party.Registered (channelQueue name sender)
    (g.limits (effectiveSizeOfMemory g.segmentSize g.count))
  locates : ∀ sender, party.Locates (channelQueue name sender)
    (!sender.isOwner)

theorem holdsEnd_of_created {g : Geometry} {name : CString} {side : Side}
    {party : Party} {names : List CString} {sizes : Nat × Nat} {shm : ShmStore}
    {shmName : CString} {rx tx : PartyCreation}
    (rxCreated : Party.CreatedQueue names sizes party rxCalls shm
      (channelQueue name side.other) g.count side.isOwner
      (!side.other.isOwner) rx)
    (txCreated : Party.CreatedQueue names sizes rx.party txCalls rx.shm
      (channelQueue name side) g.count side.isOwner (!side.isOwner) tx)
    (rxSegment : rx.party.segmentSize = g.segmentSize)
    (txSizes : (tx.party.segmentSize, tx.party.entrySize) =
      (g.segmentSize, g.segmentSize)) :
    HoldsEnd g name side tx.party
      { shmName
        rxQueue := some (channelQueue name side.other)
        txQueue := some (channelQueue name side) } := by
  obtain ⟨segment, entry⟩ := Prod.mk.inj txSizes
  have opposite : (!(!side.isOwner)) = !side.other.isOwner := by
    cases side <;> rfl
  have kept := txCreated.others (channelQueue name side.other)
    (channelQueue_ne name side).symm
    (by
      have recorded := rxCreated.records
      rw [rxSegment] at recorded
      rw [segment]
      exact recorded)
    (opposite ▸ rxCreated.locates)
  rw [segment, opposite] at kept
  have recorded := txCreated.records
  rw [segment] at recorded
  have registered : ∀ queue,
      tx.party.Records queue g.count
        (effectiveSizeOfMemory g.segmentSize g.count) →
      tx.party.Registered queue
        (g.limits (effectiveSizeOfMemory g.segmentSize g.count)) :=
    fun _ records => txCreated.negotiates.registered records segment entry
  exact
    { rxQueue := rfl
      txQueue := rfl
      registered := by
        intro sender
        rcases sender.eq_or_eq_other side with rfl | rfl
        · exact registered _ recorded
        · exact registered _ kept.1
      locates := by
        intro sender
        rcases sender.eq_or_eq_other side with rfl | rfl
        · exact txCreated.locates
        · exact kept.2 }

/-- The queues that an owner leaves for its user. -/
def Prepared (g : Geometry) (name : CString) (shm : ShmStore) : Prop :=
  ∀ sender, ∃ object, shm (channelQueue name sender) = some object ∧
    Stamped object (channelQueue name sender) g.count g.segmentSize ∧
    Holds g (effectiveSizeOfMemory g.segmentSize g.count) object.queue []

section Sides

variable {party : Party} {names : List CString} {sizes : Nat × Nat}
variable {calls : IpcCalls} {shm : ShmStore} {name : CString}
variable {g : Geometry} {ipc : SharedMemoryIPC} {rx tx : PartyCreation}

theorem prepared_of_created
    (rxCreated : Party.CreatedQueue names sizes party rxCalls shm
      (channelQueue name .user) g.count true true rx)
    (txCreated : Party.CreatedQueue names sizes rx.party txCalls rx.shm
      (channelQueue name .owner) g.count true false tx)
    (rxSegment : rx.party.segmentSize = g.segmentSize)
    (txSegment : tx.party.segmentSize = g.segmentSize)
    (positive : 0 < g.count) : Prepared g name tx.shm := by
  have short := channelQueue_short name
  have apart : channelQueue name .user ≠ channelQueue name .owner :=
    channelQueue_ne name .user
  have rxObject := rxCreated.object
  have txObject := txCreated.object
  have left := txCreated.shm
  have leftBefore := rxCreated.shm
  rw [rxSegment] at rxObject leftBefore
  rw [txSegment] at txObject left
  obtain ⟨toOwner, rxLeft, rxReady⟩ :=
    createdObject_owner positive (short _) rxObject
  obtain ⟨toUser, txLeft, txReady⟩ :=
    createdObject_owner positive (short _) txObject
  intro sender
  rw [left]
  cases sender with
  | owner => exact ⟨toUser, (ShmStore.set_same _ _ _).trans txLeft, txReady⟩
  | user =>
      refine ⟨toOwner, ?_, rxReady⟩
      rw [ShmStore.set_other _ _ apart, leftBefore]
      exact (ShmStore.set_same _ _ _).trans rxLeft

/-- A user that attaches finds the queues as its owner left them, and leaves
them so. -/
theorem attached_of_created (prepared : Prepared g name shm)
    (rxCreated : Party.CreatedQueue names sizes party rxCalls shm
      (channelQueue name .owner) g.count false false rx)
    (txCreated : Party.CreatedQueue names sizes rx.party txCalls rx.shm
      (channelQueue name .user) g.count false true tx) (positive : 0 < g.count)
    (released : g.segmentSize = sharedMemorySegmentEntrySizeBC ∨
      g.segmentSize = sharedMemorySegmentEntrySize)
    (adopts : sizes = (g.segmentSize, g.segmentSize) ∨
      rxCalls.HeaderReadable ∧ txCalls.HeaderReadable ∧
        sizes.1 ≠ g.segmentSize) :
    (rx.party.segmentSize, rx.party.entrySize) =
        (g.segmentSize, g.segmentSize) ∧
      (tx.party.segmentSize, tx.party.entrySize) =
        (g.segmentSize, g.segmentSize) ∧
      Prepared g name tx.shm := by
  have apart : channelQueue name .user ≠ channelQueue name .owner :=
    channelQueue_ne name .user
  obtain ⟨toUser, toUserPresent, toUserStamped, toUserHolds⟩ :=
    prepared .owner
  obtain ⟨toOwner, toOwnerPresent, toOwnerStamped, toOwnerHolds⟩ :=
    prepared .user
  have rxSizes := rxCreated.sizes.trans (createdSizes_user toUserPresent
    toUserStamped positive released
    (adopts.imp id fun both => ⟨both.1, both.2.2⟩) rxCreated.object)
  obtain ⟨rxFd, rxLeft⟩ := createdObject_user toUserPresent rxCreated.object
  have stillThere : rx.shm (channelQueue name .user) = some toOwner := by
    rw [rxCreated.shm, ShmStore.set_other _ _ apart]
    exact toOwnerPresent
  have txSizes := txCreated.sizes.trans (createdSizes_user stillThere
    toOwnerStamped positive released (adopts.imp id fun both => both.2)
    txCreated.object)
  obtain ⟨txFd, txLeft⟩ := createdObject_user stillThere txCreated.object
  refine ⟨rxSizes, txSizes, ?_⟩
  intro sender
  rw [txCreated.shm]
  cases sender with
  | owner =>
      refine ⟨{ toUser with queue := { toUser.queue with userFd := rxFd } },
        ?_, ⟨toUserStamped.fileSize, toUserStamped.location,
          toUserStamped.count, toUserStamped.memory, toUserStamped.readPos,
          toUserStamped.writePos⟩,
        ⟨⟨toUserHolds.header.count, toUserHolds.header.memory⟩,
          toUserHolds.body, toUserHolds.free⟩⟩
      rw [ShmStore.set_other _ _ apart.symm, rxCreated.shm]
      exact (ShmStore.set_same _ _ _).trans rxLeft
  | user =>
      exact ⟨{ toOwner with queue := { toOwner.queue with userFd := txFd } },
        (ShmStore.set_same _ _ _).trans txLeft,
        ⟨toOwnerStamped.fileSize, toOwnerStamped.location,
          toOwnerStamped.count, toOwnerStamped.memory,
          toOwnerStamped.readPos, toOwnerStamped.writePos⟩,
        ⟨⟨toOwnerHolds.header.count, toOwnerHolds.header.memory⟩,
          toOwnerHolds.body, toOwnerHolds.free⟩⟩

theorem initIpc_owner
    (negotiates : party.Negotiates names (g.segmentSize, g.segmentSize))
    (members : ∀ sender, channelQueue name sender ∈ names)
    (positive : 0 < g.count)
    (opened : (initIpc party calls shm name true g.count).result =
      some ipc) :
    let opening := initIpc party calls shm name true g.count
    HoldsEnd g name .owner opening.party ipc ∧
      Prepared g name opening.shm := by
  have short := channelQueue_short name
  obtain ⟨rxOpened, txOpened, openingEq⟩ :=
    @initIpc_some party shm name g.count calls .owner ipc opened
  have rxCreated := Party.createdQueue
    negotiates.createSharedRingGlobalData (members _) (short _) rxOpened
  have txCreated := Party.createdQueue rxCreated.negotiates (members _)
    (short _) txOpened
  have rxSizes := rxCreated.sizes.trans (createdSizes_owner _ _ _ _ _)
  have txSizes := txCreated.sizes.trans (createdSizes_owner _ _ _ _ _)
  have rxSegment := (Prod.mk.inj rxSizes).1
  have txSegment := (Prod.mk.inj txSizes).1
  change initIpc party calls shm name true g.count = _ at openingEq
  rw [openingEq] at opened ⊢
  cases opened
  exact ⟨holdsEnd_of_created rxCreated txCreated rxSegment txSizes,
    prepared_of_created rxCreated txCreated rxSegment txSegment positive⟩

theorem initIpc_user
    (prepared : Prepared g name shm)
    (negotiates : party.Negotiates names sizes)
    (members : ∀ sender, channelQueue name sender ∈ names)
    (positive : 0 < g.count)
    (released : g.segmentSize = sharedMemorySegmentEntrySizeBC ∨
      g.segmentSize = sharedMemorySegmentEntrySize)
    (adopts : Adopts sizes g.segmentSize calls)
    (opened : (initIpc party calls shm name false g.count).result =
      some ipc) :
    let opening := initIpc party calls shm name false g.count
    HoldsEnd g name .user opening.party ipc ∧
      Prepared g name opening.shm := by
  have short := channelQueue_short name
  obtain ⟨rxOpened, txOpened, openingEq⟩ :=
    @initIpc_some party shm name g.count calls .user ipc opened
  have rxCreated := Party.createdQueue
    negotiates.createSharedRingGlobalData (members _) (short _) rxOpened
  have txCreated := Party.createdQueue rxCreated.negotiates (members _)
    (short _) txOpened
  obtain ⟨rxSizes, txSizes, still⟩ := attached_of_created prepared rxCreated
    txCreated positive released adopts
  have rxSegment := (Prod.mk.inj rxSizes).1
  change initIpc party calls shm name false g.count = _ at openingEq
  rw [openingEq] at opened ⊢
  cases opened
  exact ⟨holdsEnd_of_created rxCreated txCreated rxSegment txSizes, still⟩

end Sides

/-- The two processes of a connection, right after the user has attached. -/
def connect (owner user : Opening SharedMemoryIPC)
    (ownerIpc userIpc : SharedMemoryIPC) : Connection :=
  { party := fun side =>
      match side with
      | .owner => owner.party
      | .user => user.party
    ipc := fun side =>
      match side with
      | .owner => ownerIpc
      | .user => userIpc
    shm := user.shm }

theorem joined_of_prepared {g : Geometry} {name : CString}
    {owner user : Opening SharedMemoryIPC}
    {ownerIpc userIpc : SharedMemoryIPC}
    (ownerEnd : HoldsEnd g name .owner owner.party ownerIpc)
    (userEnd : HoldsEnd g name .user user.party userIpc)
    (prepared : Prepared g name user.shm) :
    Joined g (effectiveSizeOfMemory g.segmentSize g.count) name
      (connect owner user ownerIpc userIpc) (fun _ => []) :=
  { rxQueue := by
      intro side
      cases side
      · exact ownerEnd.rxQueue
      · exact userEnd.rxQueue
    txQueue := by
      intro side
      cases side
      · exact ownerEnd.txQueue
      · exact userEnd.txQueue
    apart := channelQueue_ne name
    registered := by
      intro side
      cases side
      · exact ownerEnd.registered
      · exact userEnd.registered
    locates := by
      intro side
      cases side
      · exact ownerEnd.locates
      · exact userEnd.locates
    stored := by
      intro sender
      obtain ⟨object, present, stamped, holds⟩ := prepared sender
      exact ⟨object, present, stamped.location, holds⟩ }

/-- An owner opens a connection and a user attaches to it, each linked with
either generation of the library and each negotiating one segment size for
both queues. -/
structure Connects (owner user : Party) (ownerCalls userCalls : IpcCalls)
    (shm : ShmStore) (name : CString) (g : Geometry)
    (connection : Connection) : Prop where
  positive : 0 < g.count
  released : g.segmentSize = sharedMemorySegmentEntrySizeBC ∨
    g.segmentSize = sharedMemorySegmentEntrySize
  ownerNegotiates : ∃ names,
    owner.Negotiates names (g.segmentSize, g.segmentSize) ∧
      ∀ sender, channelQueue name sender ∈ names
  userNegotiates : ∃ names sizes, user.Negotiates names sizes ∧
    Adopts sizes g.segmentSize userCalls ∧
      ∀ sender, channelQueue name sender ∈ names
  opened : ∃ ownerIpc userIpc,
    let opening := initIpc owner ownerCalls shm name true g.count
    let attaching := initIpc user userCalls opening.shm name false g.count
    opening.result = some ownerIpc ∧ attaching.result = some userIpc ∧
      connection = connect opening attaching ownerIpc userIpc

theorem Connects.joined {owner user : Party} {ownerCalls userCalls : IpcCalls}
    {shm : ShmStore} {name : CString} {g : Geometry} {connection : Connection}
    (connects : Connects owner user ownerCalls userCalls shm name g
      connection) :
    Joined g (effectiveSizeOfMemory g.segmentSize g.count) name connection
      (fun _ => []) := by
  obtain ⟨_, ownerNegotiates, ownerKnows⟩ := connects.ownerNegotiates
  obtain ⟨_, _, userNegotiates, adopts, userKnows⟩ := connects.userNegotiates
  obtain ⟨_, _, opened, attached, rfl⟩ := connects.opened
  obtain ⟨ownerEnd, prepared⟩ := initIpc_owner ownerNegotiates ownerKnows
    connects.positive opened
  obtain ⟨userEnd, still⟩ := initIpc_user prepared userNegotiates userKnows
    connects.positive connects.released adopts attached
  exact joined_of_prepared ownerEnd userEnd still

/-- An agent of the second generation that owns small queues. -/
def smallOwner : Party :=
  .shmemIpc2 dualDockerHost ShmemIpc2.createSharedRingGlobalData
    (.start fun _ => none)

/-- An attachment of the first generation that prefers large queues. -/
def largeUser : Party :=
  .shmemIpc singleDockerHost (.start fun _ => none)

/-- What the two processes hold once the attachment has attached. -/
def acrossGenerations : Connection :=
  let opening := initIpc smallOwner (.succeed 3 4) .empty ['w'] true 4
  let attaching := initIpc largeUser (.succeed 5 6) opening.shm ['w'] false 4
  let ipc := fun side =>
    ({ shmName := ['w']
       rxQueue := some (channelQueue ['w'] (Side.other side))
       txQueue := some (channelQueue ['w'] side) } : SharedMemoryIPC)
  connect opening attaching (ipc .owner) (ipc .user)

def smallQueues : Geometry where
  count := 4
  segmentSize := 1024
  large := Nat.le_refl _
  fits := Nat.le_of_ble_eq_true rfl
  bounded := Nat.le_of_ble_eq_true rfl

theorem connects_across_generations :
    Connects smallOwner largeUser (.succeed 3 4) (.succeed 5 6) .empty ['w']
      smallQueues acrossGenerations := by
  let names := [channelQueue ['w'] .owner, channelQueue ['w'] .user]
  have known : ∀ sender, channelQueue ['w'] sender ∈ names := by
    intro sender
    cases sender <;> simp [names]
  have settled := @ShmemIpc.settled_of_metadataKeepsSize singleDockerHost
    (.start fun _ => none) (by decide +kernel)
  exact
    { positive := by decide
      released := Or.inl rfl
      ownerNegotiates := ⟨names, ⟨by decide +kernel, rfl⟩, known⟩
      userNegotiates := ⟨names, (4096, 4096),
        ⟨by decide, ⟨rfl, List.nodup_nil, List.nil_subset _⟩, true, settled,
          rfl⟩,
        Or.inr ⟨⟨rfl, rfl⟩, ⟨rfl, rfl⟩, by decide⟩, known⟩
      opened := ⟨_, _, by decide +kernel, by decide +kernel, rfl⟩ }

end Ring

section Connected

variable {owner user : Party} {ownerCalls userCalls : IpcCalls}
variable {shm : ShmStore} {name : CString} {g : Geometry}
variable {connection : Connection}

end Connected

end OpenAppsec
