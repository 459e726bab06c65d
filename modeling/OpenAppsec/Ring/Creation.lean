import OpenAppsec.Ring.Generations
import OpenAppsec.Ring.ParamsTable

/-!
# What a creation leaves behind

A successful `createSharedRingQueue` fills the caches of its process, records
the limits of the queue and maps it.  These are the facts that later calls on
the queue depend on.
-/

namespace OpenAppsec

open Ring

namespace Ring

/-- `size_of_memory` as both versions compute it. -/
def effectiveSizeOfMemory (segmentSize numOfDataSegments : Nat) : Nat :=
  sizeOfSharedRingQueue - sharedMemorySegmentEntrySize + segmentSize +
    numOfDataSegments * segmentSize

/-- The mapped queue after a creation. -/
def openedQueue (object : ShmObject) (name : CString)
    (numOfDataSegments sizeOfMemory : Nat) (fd : Int) (isOwner : Bool) :
    SharedRingQueue :=
  if isOwner then
    initializeQueue (object.ftruncate (sizeOfMemory + 1)).queue name
      numOfDataSegments sizeOfMemory fd
  else
    { object.queue with userFd := fd }

/-- The object behind the mapping, resized by its owner. -/
def resizedObject (object : ShmObject) (sizeOfMemory : Nat)
    (isOwner : Bool) : ShmObject :=
  if isOwner then object.ftruncate (sizeOfMemory + 1) else object

@[simp] theorem ShmStore.set_same (shm : ShmStore) (name : CString)
    (object : Option ShmObject) : shm.set name object name = object := by
  simp [ShmStore.set]

theorem ShmStore.set_other (shm : ShmStore) {name other : CString}
    (object : Option ShmObject) (different : other ≠ name) :
    shm.set name object other = shm other := by
  simp [ShmStore.set, different]

end Ring

namespace ShmemIpc

/-- The process state with which `createSharedRingQueue` starts. -/
def resetCaches (process : Process) : Process :=
  { process with
    gEffectiveSizeInitialized := false
    gEffectiveEntrySize := 0 }

/-- The process state in which a creation reads the segment size. -/
def sizingProcess (host : Host) (calls : SystemCalls) (process : Process)
    (object : ShmObject) (isOwner : Bool) : Process :=
  if isOwner then resetCaches process
  else adoptSegmentSize host calls object (resetCaches process)

theorem getEffectiveEntrySize_of_reset (host : Host) {process : Process}
    (reset : process.gEffectiveEntrySize = 0) :
    (getEffectiveEntrySize host process).1 = sharedMemorySegmentEntrySize ∨
      (getEffectiveEntrySize host process).1 =
        sharedMemorySegmentEntrySizeBC := by
  simp only [getEffectiveEntrySize, reset, ne_eq, not_true_eq_false, if_false]
  split
  · exact Or.inl rfl
  · exact Or.inr rfl

/-- `createSharedRingQueue` with its repeated size computations shared. -/
theorem createSharedRingQueue_eq (host : Host) (calls : SystemCalls)
    (process : Process) (shm : ShmStore) (name : CString)
    (numOfDataSegments : Nat) (isOwner : Bool) :
    createSharedRingQueue host calls process shm name numOfDataSegments
        isOwner =
      if numOfDataSegments > maxNumOfDataSegments then
        { opened := false, process := resetCaches process, shm }
      else
        match shmOpen calls isOwner name shm with
        | none => { opened := false, process := resetCaches process, shm }
        | some (fd, object) =>
            let sized := getEffectiveSegmentSize host
              (sizingProcess host calls process object isOwner)
            let sizeOfMemory :=
              effectiveSizeOfMemory sized.1 numOfDataSegments
            let resized := resizedObject object sizeOfMemory isOwner
            if isOwner && calls.ftruncateFails then
              { opened := false
                process := sized.2
                shm := shm.set name (some object) }
            else if calls.mmapReturnsNull then
              { opened := false
                process := sized.2
                shm := shm.set name (some resized) }
            else
              let mapped := shm.set name (some
                { resized with
                  queue := openedQueue object name numOfDataSegments
                    sizeOfMemory fd isOwner })
              match addQueueParams sized.2 name numOfDataSegments
                  sizeOfMemory fd with
              | none =>
                  { opened := false, process := sized.2, shm := mapped }
              | some process =>
                  { opened := true, process, shm := mapped } := by
  unfold createSharedRingQueue
  split
  · rfl
  cases shmOpen calls isOwner name shm with
  | none => rfl
  | some pair =>
      obtain ⟨fd, object⟩ := pair
      cases isOwner <;>
        simp only [getEffectiveSharedRingQueueSize,
          getEffectiveSegmentSize_again] <;> rfl

/-- What a successful creation leaves in its process and in shared memory. -/
structure Opened (host : Host) (calls : SystemCalls) (process : Process)
    (name : CString) (numOfDataSegments : Nat) (isOwner : Bool) (fd : Int)
    (object : ShmObject) (created : Creation) : Prop where
  bounded : numOfDataSegments ≤ maxNumOfDataSegments
  process_eq : created.process =
    { (getEffectiveSegmentSize host
        (sizingProcess host calls process object isOwner)).2 with
      gQueueParams := created.process.gQueueParams }
  params : getQueueParams created.process name =
    some
      { locationName := name
        numOfDataSegments
        memorySize := effectiveSizeOfMemory
          (getEffectiveSegmentSize host
            (sizingProcess host calls process object isOwner)).1
          numOfDataSegments
        fd
        inUse := true }
  mapped : created.shm name =
    let sizeOfMemory := effectiveSizeOfMemory
      (getEffectiveSegmentSize host
        (sizingProcess host calls process object isOwner)).1
      numOfDataSegments
    some
      { fileSize := (resizedObject object sizeOfMemory isOwner).fileSize
        queue := openedQueue object name numOfDataSegments sizeOfMemory fd
          isOwner }

section Opened

variable {host : Host} {calls : SystemCalls} {process : Process}
variable {name : CString} {numOfDataSegments : Nat} {isOwner : Bool}
variable {fd : Int} {object : ShmObject} {created : Creation}

theorem Opened.initialized
    (facts : Opened host calls process name numOfDataSegments isOwner fd
      object created) : created.process.gEffectiveSizeInitialized = true := by
  rw [facts.process_eq]
  exact (getEffectiveSegmentSize_initialized host _).1

theorem Opened.segmentSize
    (facts : Opened host calls process name numOfDataSegments isOwner fd
      object created) :
    (getEffectiveSegmentSize host created.process).1 =
      (getEffectiveSegmentSize host
        (sizingProcess host calls process object isOwner)).1 := by
  rw [getEffectiveSegmentSize_of_initialized facts.initialized,
    facts.process_eq]
  exact (getEffectiveSegmentSize_initialized host _).2

end Opened

theorem Opened.ownerEntrySize {host : Host} {calls : SystemCalls}
    {process : Process} {name : CString} {numOfDataSegments : Nat} {fd : Int}
    {object : ShmObject} {created : Creation}
    (facts : Opened host calls process name numOfDataSegments true fd object
      created) : created.process.gEffectiveEntrySize = 0 := by
  rw [facts.process_eq]
  exact (getEffectiveSegmentSize_frame host (resetCaches process)).2

theorem createSharedRingQueue_opened {host : Host} {calls : SystemCalls}
    {process : Process} {shm : ShmStore} {name : CString}
    {numOfDataSegments : Nat} {isOwner : Bool}
    (short : name.length < maxOneWayQueueNameLength)
    (opened : (createSharedRingQueue host calls process shm name
      numOfDataSegments isOwner).opened = true) :
    ∃ fd object, shmOpen calls isOwner name shm = some (fd, object) ∧
      Opened host calls process name numOfDataSegments isOwner fd object
        (createSharedRingQueue host calls process shm name numOfDataSegments
          isOwner) := by
  rw [createSharedRingQueue_eq] at opened ⊢
  split at opened
  · cases opened
  rename_i bounded
  rw [if_neg bounded]
  cases found : shmOpen calls isOwner name shm with
  | none =>
      rw [found] at opened
      cases opened
  | some pair =>
      obtain ⟨fd, object⟩ := pair
      refine ⟨fd, object, rfl, ?_⟩
      rw [found] at opened
      dsimp only at opened ⊢
      split at opened
      · cases opened
      rename_i resized
      split at opened
      · cases opened
      rename_i unmapped
      rw [if_neg resized, if_neg unmapped]
      split at opened
      · cases opened
      · rename_i after added
        obtain ⟨registered, _, frame⟩ := addQueueParams_spec short added
        exact
          { bounded := Nat.le_of_not_gt bounded
            process_eq := frame
            params := registered
            mapped := ShmStore.set_same _ _ _ }

end ShmemIpc

namespace ShmemIpc2

/-- The process state with which `createSharedRingQueue` starts. -/
def resetCaches (process : Process) : Process :=
  { process with
    gEffectiveSizeInitialized := false
    gEffectiveSegmentSize := 0 }

/-- The process state in which a creation reads the segment size. -/
def sizingProcess (host : Host) (calls : SystemCalls) (process : Process)
    (object : ShmObject) (isOwner : Bool) : Process :=
  if isOwner then resetCaches process
  else adoptSegmentSize host calls object (resetCaches process)

/-- `createSharedRingQueue` with its repeated size computations shared. -/
theorem createSharedRingQueue_eq (host : Host) (calls : SystemCalls)
    (process : Process) (shm : ShmStore) (name : CString)
    (numOfDataSegments : Nat) (isOwner isTx : Bool)
    (globalData : SharedRingGlobalData) :
    createSharedRingQueue host calls process shm name numOfDataSegments
        isOwner isTx globalData =
      if numOfDataSegments > maxNumOfDataSegments then
        { opened := false, process := resetCaches process, globalData, shm }
      else
        let counted :=
          { globalData with gNumOfDataSegments := numOfDataSegments }
        match shmOpen calls isOwner name shm with
        | none =>
            { opened := false
              process := resetCaches process
              globalData := counted
              shm }
        | some (fd, object) =>
            let sized := getEffectiveSegmentSize host
              (sizingProcess host calls process object isOwner)
            let sizeOfMemory :=
              effectiveSizeOfMemory sized.1 numOfDataSegments
            let resized := resizedObject object sizeOfMemory isOwner
            if isOwner && calls.ftruncateFails then
              { opened := false
                process := sized.2
                globalData := counted
                shm := shm.set name (some object) }
            else if calls.mmapReturnsNull then
              { opened := false
                process := sized.2
                globalData := counted
                shm := shm.set name (some resized) }
            else
              { opened := true
                process := sized.2
                globalData :=
                  recordLocation counted name isTx fd sizeOfMemory
                shm := shm.set name (some
                  { resized with
                    queue := openedQueue object name numOfDataSegments
                      sizeOfMemory fd isOwner }) } := by
  unfold createSharedRingQueue
  split
  · rfl
  cases shmOpen calls isOwner name shm with
  | none => rfl
  | some pair =>
      obtain ⟨fd, object⟩ := pair
      cases isOwner <;>
        simp only [getEffectiveSharedRingQueueSize,
          getEffectiveSegmentSize_again] <;> rfl

@[simp] theorem recordLocation_memory (globalData : SharedRingGlobalData)
    (name : CString) (isTx : Bool) (fd : Int) (sizeOfMemory : Nat) :
    (recordLocation globalData name isTx fd sizeOfMemory).gMemorySize =
      sizeOfMemory := by
  cases isTx <;> rfl

@[simp] theorem recordLocation_count (globalData : SharedRingGlobalData)
    (name : CString) (isTx : Bool) (fd : Int) (sizeOfMemory : Nat) :
    (recordLocation globalData name isTx fd
        sizeOfMemory).gNumOfDataSegments =
      globalData.gNumOfDataSegments := by
  cases isTx <;> rfl

/-- What a successful creation leaves in its process, in its record and in
shared memory. -/
structure Opened (host : Host) (calls : SystemCalls) (process : Process)
    (name : CString) (numOfDataSegments : Nat) (isOwner isTx : Bool)
    (globalData : SharedRingGlobalData) (fd : Int) (object : ShmObject)
    (created : Creation) : Prop where
  bounded : numOfDataSegments ≤ maxNumOfDataSegments
  process_eq : created.process =
    (getEffectiveSegmentSize host
      (sizingProcess host calls process object isOwner)).2
  globalData_eq : created.globalData =
    recordLocation
      { globalData with gNumOfDataSegments := numOfDataSegments } name isTx fd
      (effectiveSizeOfMemory
        (getEffectiveSegmentSize host
          (sizingProcess host calls process object isOwner)).1
        numOfDataSegments)
  mapped : created.shm name =
    let sizeOfMemory := effectiveSizeOfMemory
      (getEffectiveSegmentSize host
        (sizingProcess host calls process object isOwner)).1
      numOfDataSegments
    some
      { fileSize := (resizedObject object sizeOfMemory isOwner).fileSize
        queue := openedQueue object name numOfDataSegments sizeOfMemory fd
          isOwner }

/-- The segment size of a created queue stays in force. -/
theorem Opened.segmentSize {host : Host} {calls : SystemCalls}
    {process : Process} {name : CString} {numOfDataSegments : Nat}
    {isOwner isTx : Bool} {globalData : SharedRingGlobalData} {fd : Int}
    {object : ShmObject} {created : Creation}
    (facts : Opened host calls process name numOfDataSegments isOwner isTx
      globalData fd object created) :
    (getEffectiveSegmentSize host created.process).1 =
      (getEffectiveSegmentSize host
        (sizingProcess host calls process object isOwner)).1 := by
  rw [facts.process_eq, getEffectiveSegmentSize_again]

theorem createSharedRingQueue_opened {host : Host} {calls : SystemCalls}
    {process : Process} {shm : ShmStore} {name : CString}
    {numOfDataSegments : Nat} {isOwner isTx : Bool}
    {globalData : SharedRingGlobalData}
    (opened : (createSharedRingQueue host calls process shm name
      numOfDataSegments isOwner isTx globalData).opened = true) :
    ∃ fd object, shmOpen calls isOwner name shm = some (fd, object) ∧
      Opened host calls process name numOfDataSegments isOwner isTx globalData
        fd object (createSharedRingQueue host calls process shm name
          numOfDataSegments isOwner isTx globalData) := by
  rw [createSharedRingQueue_eq] at opened ⊢
  split at opened
  · cases opened
  rename_i bounded
  rw [if_neg bounded]
  cases found : shmOpen calls isOwner name shm with
  | none =>
      rw [found] at opened
      cases opened
  | some pair =>
      obtain ⟨fd, object⟩ := pair
      refine ⟨fd, object, rfl, ?_⟩
      rw [found] at opened
      dsimp only at opened ⊢
      split at opened
      · cases opened
      rename_i resized
      split at opened
      · cases opened
      rename_i unmapped
      rw [if_neg resized, if_neg unmapped]
      exact
        { bounded := Nat.le_of_not_gt bounded
          process_eq := rfl
          globalData_eq := rfl
          mapped := ShmStore.set_same _ _ _ }

end ShmemIpc2

end OpenAppsec
