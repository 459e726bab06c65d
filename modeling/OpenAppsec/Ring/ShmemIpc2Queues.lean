import OpenAppsec.Ring.QueueSet

/-!
# The queues of a process of the second generation

Each record holds the limits of two queues, one for each direction, and one
cache of the process holds the segment size of all of them.
-/

namespace OpenAppsec.ShmemIpc2

open Ring

variable {calls : SystemCalls} {shm : ShmStore} {numOfDataSegments : Nat}
variable {isOwner : Bool} {globalData : SharedRingGlobalData}

/-- The static variables of the library with the records of the process. -/
structure ProcessRecords where
  process : Process
  records : Nat → SharedRingGlobalData

def ProcessRecords.set (state : ProcessRecords) (record : Nat)
    (globalData : SharedRingGlobalData) : ProcessRecords :=
  { state with
    records := fun other =>
      if other = record then globalData else state.records other }

/-- The second generation over its static variables and records. -/
def library (host : Host) (queues : QueueSet) :
    RingLibrary queues ProcessRecords :=
  { createSharedRingQueue := fun calls state shm name numOfDataSegments
        isOwner =>
      let role := queues.role name
      let creation := ShmemIpc2.createSharedRingQueue host calls state.process
        shm name numOfDataSegments isOwner role.isTx
        (state.records role.record)
      { opened := creation.opened
        process := { state with process := creation.process }.set role.record
          creation.globalData
        shm := creation.shm }
    destroySharedRingQueue := fun state shm name object isOwner =>
      let role := queues.role name
      let after := ShmemIpc2.destroySharedRingQueue shm name object
        (state.records role.record) isOwner role.isTx
      (state.set role.record after.1, after.2)
    serve := fun name (state, queue) call =>
      let globalData := state.records (queues.role name).record
      let (answer, process, queue) :=
        ShmemIpc2.serve host globalData (state.process, queue) call
      (answer, { state with process }, queue) }

/-- The one size in force, as stride and as entry size. -/
def sizesInForce (host : Host) (state : ProcessRecords) : Nat × Nat :=
  let size := (getEffectiveSegmentSize host state.process).1
  (size, size)

def negotiatedSizes (host : Host) (state : ProcessRecords) : Nat × Nat :=
  let size := negotiatedSegmentSize host state.process
  (size, size)

/-- The location name that a record holds for a direction. -/
def SharedRingGlobalData.location (globalData : SharedRingGlobalData)
    (isTx : Bool) : CString :=
  if isTx then globalData.gTxLocationName else globalData.gRxLocationName

/-- A creation for the other direction of the record of an open queue brings
the same limits. -/
def KeepsRecord (host : Host) {queues : QueueSet} (own : CString)
    (state : QueueProcess ProcessRecords) (call : ProcessCall queues) :
    Prop :=
  match call.operation with
  | .createSharedRingQueue calls numOfDataSegments isOwner =>
      let globalData := state.process.records (queues.role own).record
      let sizes := createdSizes (negotiatedSizes host state.process) calls
        state.shm call.name numOfDataSegments isOwner
      call.name ≠ own → state.isOpen own = true →
        (queues.role call.name).record = (queues.role own).record →
        numOfDataSegments ≤ maxNumOfDataSegments →
        globalData.gNumOfDataSegments = numOfDataSegments ∧
          ((createdObject sizes.1 calls state.shm call.name numOfDataSegments
            isOwner).1 = true →
              globalData.gMemorySize =
                effectiveSizeOfMemory sizes.1 numOfDataSegments)
  | _ => True

instance (host : Host) {queues : QueueSet} (own : CString)
    (state : QueueProcess ProcessRecords) (call : ProcessCall queues) :
    Decidable (KeepsRecord host own state call) :=
  match call with
  | ⟨_, _, .createSharedRingQueue _ _ _⟩ =>
      inferInstanceAs (Decidable (_ → _ → _ → _ → _ ∧ (_ → _)))
  | ⟨_, _, .destroySharedRingQueue _⟩ => isTrue trivial
  | ⟨_, _, .data _⟩ => isTrue trivial

section Sizes

variable {host : Host} {process : Process}

theorem negotiatedSegmentSize_afterSegment (host : Host)
    (process : Process) :
    negotiatedSegmentSize host (getEffectiveSegmentSize host process).2 =
      negotiatedSegmentSize host process := by
  cases initialized : process.gEffectiveSizeInitialized with
  | true => simp [getEffectiveSegmentSize, initialized]
  | false =>
      have again :=
        (readLargerDataSegmentSupported_again host process.environ).1
      simp only [negotiatedSegmentSize, getEffectiveSegmentSize, initialized,
        resetCaches, isLargerDataSegmentSupported, Bool.false_eq_true,
        if_false, again]
      rfl

theorem negotiatedSegmentSize_sizing (host : Host) (calls : SystemCalls)
    (process : Process) (object : ShmObject) (isOwner : Bool) :
    negotiatedSegmentSize host (getEffectiveSegmentSize host
        (sizingProcess host calls process object isOwner)).2 =
      negotiatedSegmentSize host process := by
  rw [negotiatedSegmentSize_afterSegment]
  have negotiated :=
    negotiatedSegmentSize_afterSegment host (resetCaches process)
  cases isOwner with
  | true => rfl
  | false =>
      unfold sizingProcess adoptSegmentSize
      rw [if_neg Bool.false_ne_true]
      dsimp only
      split
      · exact negotiated
      · exact negotiated

theorem sizingProcess_size (calls : SystemCalls) (object : ShmObject)
    (isOwner : Bool) :
    let derived := deriveSegmentSizeFromExistingQueue calls object
    let negotiated := negotiatedSegmentSize host process
    (getEffectiveSegmentSize host
        (sizingProcess host calls process object isOwner)).1 =
      (if isOwner = true ∨ derived = 0 ∨ derived = negotiated then
        (negotiated, negotiated)
      else (derived, derived)).1 := by
  cases isOwner with
  | true => rfl
  | false =>
      have attached := attachedSize host calls process object
      dsimp only at attached ⊢
      rw [attached]
      by_cases none : deriveSegmentSizeFromExistingQueue calls object = 0
      · simp [none]
      · by_cases same : deriveSegmentSizeFromExistingQueue calls object =
            negotiatedSegmentSize host process
        · simp [same]
        · simp [none, same]

end Sizes

/-- What a creation does to its process, to its record and to its object. -/
structure CreationSpec (host : Host) (calls : SystemCalls)
    (process : Process) (shm : ShmStore) (name : CString)
    (numOfDataSegments : Nat) (isOwner isTx : Bool)
    (globalData : SharedRingGlobalData) (created : Creation) : Prop where
  negotiated : negotiatedSegmentSize host created.process =
    negotiatedSegmentSize host process
  size :
    let negotiated := negotiatedSegmentSize host process
    (getEffectiveSegmentSize host created.process).1 =
      (createdSizes (negotiated, negotiated) calls shm name numOfDataSegments
        isOwner).1
  effect :
    let size := (getEffectiveSegmentSize host created.process).1
    let object := createdObject size calls shm name numOfDataSegments isOwner
    created.opened = object.1 ∧ created.shm = shm.set name object.2 ∧
      created.globalData.gNumOfDataSegments =
        (if numOfDataSegments > maxNumOfDataSegments then
          globalData.gNumOfDataSegments
        else numOfDataSegments) ∧
      created.globalData.gMemorySize =
        (if object.1 then (effectiveSizeOfMemory size numOfDataSegments : Int)
        else globalData.gMemorySize) ∧
      created.globalData.location isTx =
        (if object.1 then snprintfName name else globalData.location isTx) ∧
      created.globalData.location (!isTx) = globalData.location (!isTx)

theorem createdObject_bounded {segmentSize : Nat} {name : CString}
    (opened : (createdObject segmentSize calls shm name numOfDataSegments
      isOwner).1 = true) : ¬numOfDataSegments > maxNumOfDataSegments := by
  intro large
  rw [createdObject, if_pos large] at opened
  cases opened

/-- Two processes that negotiate the same size make the same of one object. -/
theorem CreationSpec.agree {host : Host} {process other : Process}
    {otherShm : ShmStore} {name : CString} {isTx : Bool}
    {otherData : SharedRingGlobalData} {first second : Creation}
    (left : CreationSpec host calls process shm name numOfDataSegments isOwner
      isTx globalData first)
    (right : CreationSpec host calls other otherShm name numOfDataSegments
      isOwner isTx otherData second) (sameShm : shm name = otherShm name)
    (negotiated : negotiatedSegmentSize host process =
      negotiatedSegmentSize host other) :
    first.opened = second.opened ∧ first.shm name = second.shm name ∧
      (getEffectiveSegmentSize host first.process).1 =
        (getEffectiveSegmentSize host second.process).1 ∧
      (first.opened = true ∨
          globalData.gNumOfDataSegments = otherData.gNumOfDataSegments ∧
            globalData.gMemorySize = otherData.gMemorySize →
        first.globalData.gNumOfDataSegments =
            second.globalData.gNumOfDataSegments ∧
          first.globalData.gMemorySize = second.globalData.gMemorySize) := by
  have size : (getEffectiveSegmentSize host first.process).1 =
      (getEffectiveSegmentSize host second.process).1 := by
    rw [left.size, right.size, negotiated]
    exact congrArg Prod.fst (createdSizes_congr _ sameShm)
  obtain ⟨leftOpened, leftShm, leftCount, leftMemory, _⟩ := left.effect
  obtain ⟨rightOpened, rightShm, rightCount, rightMemory, _⟩ := right.effect
  rw [size, createdObject_congr _ sameShm] at leftOpened leftShm leftMemory
  refine ⟨leftOpened.trans rightOpened.symm, ?_, size, ?_⟩
  · rw [leftShm, rightShm, ShmStore.set_same, ShmStore.set_same]
  · rintro (opened | ⟨count, memory⟩)
    · rw [leftOpened] at opened
      have bounded := createdObject_bounded opened
      rw [leftCount, rightCount, leftMemory, rightMemory, if_neg bounded,
        if_neg bounded, if_pos opened, if_pos opened]
      exact ⟨rfl, rfl⟩
    · rw [leftCount, rightCount, leftMemory, rightMemory, count, memory]
      exact ⟨rfl, rfl⟩

/-- A creation with the recorded limits leaves them as they are. -/
theorem CreationSpec.keepsRecord {host : Host} {process : Process}
    {name : CString} {isTx : Bool} {recorded : SharedRingGlobalData}
    {created : Creation}
    (spec : CreationSpec host calls process shm name numOfDataSegments isOwner
      isTx globalData created) (same : globalData = recorded)
    (keeps :
      let negotiated := negotiatedSegmentSize host process
      let size := (createdSizes (negotiated, negotiated) calls shm name
        numOfDataSegments isOwner).1
      numOfDataSegments ≤ maxNumOfDataSegments →
        recorded.gNumOfDataSegments = numOfDataSegments ∧
          ((createdObject size calls shm name numOfDataSegments
            isOwner).1 = true →
              recorded.gMemorySize =
                effectiveSizeOfMemory size numOfDataSegments)) :
    created.globalData.gNumOfDataSegments = recorded.gNumOfDataSegments ∧
      created.globalData.gMemorySize = recorded.gMemorySize := by
  obtain ⟨_, _, count, memory, _⟩ := spec.effect
  dsimp only at keeps
  rw [← spec.size] at keeps
  rw [count, memory, same]
  by_cases large : numOfDataSegments > maxNumOfDataSegments
  · rw [if_pos large]
    refine ⟨rfl, ?_⟩
    split
    · rename_i opened
      exact absurd large (createdObject_bounded opened)
    · rfl
  · obtain ⟨sameCount, sameMemory⟩ := keeps (Nat.le_of_not_gt large)
    rw [if_neg large]
    refine ⟨sameCount.symm, ?_⟩
    split
    · rename_i opened
      exact (sameMemory opened).symm
    · rfl

theorem destroySharedRingQueue_limits (shm : ShmStore) (name : CString)
    (object : ShmObject) (globalData : SharedRingGlobalData)
    (isOwner isTx : Bool) :
    let after := (destroySharedRingQueue shm name object globalData isOwner
      isTx).1
    after.gNumOfDataSegments = globalData.gNumOfDataSegments ∧
      after.gMemorySize = globalData.gMemorySize := by
  cases isTx <;> exact ⟨rfl, rfl⟩

theorem recordLocation_location (globalData : SharedRingGlobalData)
    (name : CString) (isTx : Bool) (fd : Int) (sizeOfMemory : Nat) :
    (recordLocation globalData name isTx fd sizeOfMemory).location isTx =
        snprintfName name ∧
      (recordLocation globalData name isTx fd sizeOfMemory).location (!isTx) =
        globalData.location (!isTx) := by
  cases isTx <;> exact ⟨rfl, rfl⟩

theorem createSharedRingQueue_spec (host : Host) (calls : SystemCalls)
    (process : Process) (shm : ShmStore) (name : CString)
    (numOfDataSegments : Nat) (isOwner isTx : Bool)
    (globalData : SharedRingGlobalData) :
    CreationSpec host calls process shm name numOfDataSegments isOwner isTx
      globalData
      (createSharedRingQueue host calls process shm name numOfDataSegments
        isOwner isTx globalData) := by
  rw [createSharedRingQueue_eq]
  by_cases bounded : numOfDataSegments > maxNumOfDataSegments
  · rw [if_pos bounded]
    exact
      { negotiated := rfl
        size := by
          simp only [createdSizes, if_pos bounded]
          rfl
        effect := by
          simp only [createdObject, if_pos bounded, ShmStore.set_self]
          exact ⟨trivial, trivial, trivial, rfl, rfl, trivial⟩ }
  rw [if_neg bounded]
  cases found : shmOpen calls isOwner name shm with
  | none =>
      exact
        { negotiated := rfl
          size := by
            simp only [createdSizes, if_neg bounded, found]
            rfl
          effect := by
            simp only [createdObject, if_neg bounded, found,
              ShmStore.set_self]
            exact ⟨trivial, trivial, trivial, rfl, rfl, rfl⟩ }
  | some pair =>
      obtain ⟨fd, object⟩ := pair
      have negotiated :=
        negotiatedSegmentSize_sizing host calls process object isOwner
      have size : (getEffectiveSegmentSize host
          (getEffectiveSegmentSize host
            (sizingProcess host calls process object isOwner)).2).1 =
          (createdSizes (negotiatedSegmentSize host process,
            negotiatedSegmentSize host process) calls shm name
              numOfDataSegments isOwner).1 := by
        rw [getEffectiveSegmentSize_again, sizingProcess_size, createdSizes,
          if_neg bounded, found]
      dsimp only
      split
      · rename_i refused
        exact
          { negotiated := negotiated
            size := size
            effect := by
              simp only [createdObject, if_neg bounded, found, if_pos refused]
              exact ⟨trivial, trivial, trivial, rfl, rfl, rfl⟩ }
      rename_i truncated
      split
      · rename_i refused
        exact
          { negotiated := negotiated
            size := size
            effect := by
              simp only [createdObject, if_neg bounded, found,
                if_neg truncated, if_pos refused,
                getEffectiveSegmentSize_again]
              exact ⟨trivial, trivial, trivial, rfl, rfl, rfl⟩ }
      rename_i mapped
      obtain ⟨recorded, other⟩ := recordLocation_location
        { globalData with gNumOfDataSegments := numOfDataSegments } name isTx
        fd (effectiveSizeOfMemory (getEffectiveSegmentSize host
          (sizingProcess host calls process object isOwner)).1
            numOfDataSegments)
      exact
        { negotiated := negotiated
          size := size
          effect := by
            simp only [createdObject, if_neg bounded, found,
              if_neg truncated, if_neg mapped, getEffectiveSegmentSize_again,
              recordLocation_count, recordLocation_memory, recorded]
            exact ⟨trivial, trivial, trivial, rfl, rfl, other⟩ }

theorem serve_process (host : Host) (process : Process)
    (globalData : SharedRingGlobalData) (queue : SharedRingQueue)
    (call : QueueCall) (kept : Process → Prop)
    (segment : ∀ process, kept process →
      kept (getEffectiveSegmentSize host process).2)
    (holds : kept process) :
    kept (serve host globalData (process, queue) call).2.1 := by
  have pushed : ∀ buffers, kept
      (pushBuffersToQueue host process queue globalData buffers).process := by
    intro buffers
    unfold pushBuffersToQueue
    split
    · exact holds
    split
    · exact holds
    dsimp only
    split
    · exact segment _ holds
    split
    · exact segment _ holds
    · exact segment _ (segment _ holds)
  cases call with
  | pushBuffersToQueue buffers => exact pushed buffers
  | pushToQueue buffer => exact pushed [buffer]
  | peekToQueue =>
      simp only [serve, peekToQueue]
      split
      · exact holds
      split
      · exact holds
      split
      · exact holds
      · exact segment _ holds
  | popFromQueue =>
      simp only [serve, popFromQueue]
      split
      · exact holds
      split
      · exact holds
      · exact segment _ holds
  | isQueueEmpty => exact holds

/-- The segment size in force, and the one that a creation negotiates. -/
def sizes (host : Host) (process : Process) : Nat × Nat :=
  ((getEffectiveSegmentSize host process).1,
    negotiatedSegmentSize host process)

theorem serve_sizes (host : Host) (process : Process)
    (globalData : SharedRingGlobalData) (queue : SharedRingQueue)
    (call : QueueCall) :
    sizes host (serve host globalData (process, queue) call).2.1 =
      sizes host process := by
  apply serve_process host process globalData queue call
    (fun after => sizes host after = sizes host process)
  · intro after same
    unfold sizes at same ⊢
    rw [getEffectiveSegmentSize_again,
      negotiatedSegmentSize_afterSegment, same]
  · rfl

/-- What a data call answers and leaves depends on the queue, the limits in
its record and the size in force. -/
theorem serve_spec (host : Host) (process : Process)
    (globalData : SharedRingGlobalData) (queue : SharedRingQueue)
    (call : QueueCall) :
    let served := serve host globalData (process, queue) call
    let size := (getEffectiveSegmentSize host process).1
    let answer := Ring.serve
      { numOfDataSegments := globalData.gNumOfDataSegments
        memorySize := globalData.gMemorySize
        segmentSize := size
        entrySize := size } queue call
    served.1 = answer ∧ served.2.2 = answer.queue := by
  have registered : Registered host process globalData
      { numOfDataSegments := globalData.gNumOfDataSegments
        memorySize := globalData.gMemorySize
        segmentSize := (getEffectiveSegmentSize host process).1
        entrySize := (getEffectiveSegmentSize host process).1 } :=
    ⟨rfl, rfl, rfl, rfl⟩
  obtain ⟨answer, left, _⟩ := serve_eq (process, queue) registered call
  exact ⟨answer, left⟩

/-- The record that a queue shares with the other direction. -/
def ProcessRecords.recordOf (state : ProcessRecords) (queues : QueueSet)
    (name : CString) : SharedRingGlobalData :=
  state.records (queues.role name).record

/-- The location name that is recorded for a queue. -/
def ProcessRecords.locationOf (state : ProcessRecords) (queues : QueueSet)
    (name : CString) : CString :=
  (state.recordOf queues name).location (queues.role name).isTx

/-- Every open queue is recorded under its own name. -/
def Sound (queues : QueueSet) (state : QueueProcess ProcessRecords) : Prop :=
  ∀ name ∈ queues.names, state.isOpen name = true →
    state.process.locationOf queues name = name

/-- Two states that a queue of the process cannot tell apart. -/
structure Related (host : Host) (queues : QueueSet) (own : CString)
    (first second : QueueProcess ProcessRecords) : Prop where
  shm : first.shm own = second.shm own
  isOpen : first.isOpen own = second.isOpen own
  negotiated : negotiatedSegmentSize host first.process.process =
    negotiatedSegmentSize host second.process.process
  limits : first.isOpen own = true →
    (getEffectiveSegmentSize host first.process.process).1 =
        (getEffectiveSegmentSize host second.process.process).1 ∧
      (first.process.recordOf queues own).gNumOfDataSegments =
        (second.process.recordOf queues own).gNumOfDataSegments ∧
      (first.process.recordOf queues own).gMemorySize =
        (second.process.recordOf queues own).gMemorySize
  first : Sound queues first
  second : Sound queues second

section Independence

variable {host : Host} {queues : QueueSet} {own name other : CString}
variable {state after : QueueProcess ProcessRecords} {object : ShmObject}

theorem ProcessRecords.recordOf_set (state : ProcessRecords)
    (globalData : SharedRingGlobalData) :
    (state.set (queues.role name).record globalData).recordOf queues name =
      globalData := by
  simp [ProcessRecords.set, ProcessRecords.recordOf]

/-- Writing to the record of a queue leaves what is recorded for another
queue's direction. -/
theorem ProcessRecords.locationOf_set (state : ProcessRecords)
    (member : name ∈ queues.names) (memberOther : other ∈ queues.names)
    (different : other ≠ name)
    (kept : globalData.location (!(queues.role name).isTx) =
      (state.recordOf queues name).location (!(queues.role name).isTx)) :
    (state.set (queues.role name).record globalData).locationOf queues other =
      state.locationOf queues other := by
  by_cases same : (queues.role other).record = (queues.role name).record
  · have direction : (queues.role other).isTx =
        !(queues.role name).isTx := by
      by_contra agree
      apply different
      apply queues.roles other memberOther name member
      cases found : queues.role other
      cases foundName : queues.role name
      simp_all
    simp only [ProcessRecords.locationOf, ProcessRecords.recordOf,
      ProcessRecords.set, same, direction, if_true]
    exact kept
  · simp only [ProcessRecords.locationOf, ProcessRecords.recordOf,
      ProcessRecords.set, if_neg same]

theorem ProcessRecords.recordOf_set_shared (state : ProcessRecords)
    (globalData : SharedRingGlobalData)
    (shared : (queues.role name).record = (queues.role own).record) :
    (state.set (queues.role name).record globalData).recordOf queues own =
      globalData := by
  simp only [ProcessRecords.recordOf, ProcessRecords.set, shared, if_true]

theorem ProcessRecords.recordOf_set_other (state : ProcessRecords)
    (globalData : SharedRingGlobalData)
    (separate : (queues.role name).record ≠ (queues.role own).record) :
    (state.set (queues.role name).record globalData).recordOf queues own =
      state.recordOf queues own := by
  simp only [ProcessRecords.recordOf, ProcessRecords.set,
    if_neg (Ne.symm separate)]

theorem Sound.create (host : Host) (sound : Sound queues state)
    (member : name ∈ queues.names) (calls : SystemCalls)
    (numOfDataSegments : Nat) (isOwner : Bool) :
    Sound queues (state.created name
      ((library host queues).createSharedRingQueue calls state.process
        state.shm name numOfDataSegments isOwner)) := by
  obtain ⟨opened, _, _, _, recorded, direction⟩ :=
    (createSharedRingQueue_spec host calls state.process.process state.shm
      name numOfDataSegments isOwner (queues.role name).isTx
      (state.process.recordOf queues name)).effect
  intro other memberOther isOpen
  by_cases same : other = name
  · subst same
    simp only [QueueProcess.created, library, if_true,
      Bool.or_eq_true] at isOpen ⊢
    rw [ProcessRecords.locationOf, ProcessRecords.recordOf_set]
    refine recorded.trans ?_
    split
    · exact snprintfName_of_short (queues.short other memberOther)
    · rename_i failed
      rcases isOpen with before | now
      · exact sound other memberOther before
      · exact absurd (opened.symm.trans now) failed
  · simp only [QueueProcess.created, library, if_neg same] at isOpen ⊢
    rw [ProcessRecords.locationOf_set _ member memberOther same]
    · exact sound other memberOther isOpen
    · exact direction

/-- What a destruction does to a queue that is recorded under its own name. -/
theorem Sound.destroy (host : Host) (sound : Sound queues state)
    (member : name ∈ queues.names) (opened : state.isOpen name = true)
    (object : ShmObject) (isOwner : Bool) :
    let after := (library host queues).destroySharedRingQueue state.process
      state.shm name object isOwner
    after.2 = state.shm.set name (destroyedObject object isOwner) ∧
      Sound queues (state.destroyed name after) := by
  have location := sound name member opened
  unfold ProcessRecords.locationOf SharedRingGlobalData.location at location
  constructor
  · simp only [library, ShmemIpc2.destroySharedRingQueue]
    cases isOwner with
    | true =>
        unfold ProcessRecords.recordOf at location
        rw [if_pos rfl, location]
        exact ShmStore.set_destroyed _ _ _ _
    | false => rfl
  · intro other memberOther isOpen
    by_cases same : other = name
    · simp [QueueProcess.destroyed, same] at isOpen
    · simp only [QueueProcess.destroyed, if_neg same] at isOpen
      refine Eq.trans ?_ (sound other memberOther isOpen)
      apply ProcessRecords.locationOf_set _ member memberOther same
      cases (queues.role name).isTx <;> rfl

variable (related : Related host queues own state after)

include related

theorem Related.create (member : own ∈ queues.names) (calls : SystemCalls)
    (numOfDataSegments : Nat) (isOwner : Bool) :
    let first := (library host queues).createSharedRingQueue calls
      state.process state.shm own numOfDataSegments isOwner
    let second := (library host queues).createSharedRingQueue calls
      after.process after.shm own numOfDataSegments isOwner
    first.opened = second.opened ∧
      Related host queues own (state.created own first)
        (after.created own second) := by
  have left := createSharedRingQueue_spec host calls state.process.process
    state.shm own numOfDataSegments isOwner (queues.role own).isTx
    (state.process.recordOf queues own)
  have right := createSharedRingQueue_spec host calls after.process.process
    after.shm own numOfDataSegments isOwner (queues.role own).isTx
    (after.process.recordOf queues own)
  obtain ⟨opened, shm, size, limits⟩ :=
    left.agree right related.shm related.negotiated
  refine ⟨opened, ?_⟩
  constructor
  · exact shm
  · have before := related.isOpen
    simp only [QueueProcess.created, if_true, before]
    exact congrArg _ opened
  · exact (left.negotiated.trans related.negotiated).trans
      right.negotiated.symm
  · intro stillOpen
    refine ⟨size, ?_⟩
    simp only [QueueProcess.created, library, ProcessRecords.recordOf_set]
    apply limits
    simp only [QueueProcess.created, if_true, Bool.or_eq_true] at stillOpen
    rcases stillOpen with before | now
    · exact Or.inr (related.limits before).2
    · exact Or.inl now
  · exact related.first.create host member calls numOfDataSegments isOwner
  · exact related.second.create host member calls numOfDataSegments isOwner

theorem Related.destroy (member : own ∈ queues.names)
    (opened : state.isOpen own = true) (object : ShmObject) (isOwner : Bool) :
    Related host queues own
      (state.destroyed own ((library host queues).destroySharedRingQueue
        state.process state.shm own object isOwner))
      (after.destroyed own ((library host queues).destroySharedRingQueue
        after.process after.shm own object isOwner)) := by
  have openedAfter := related.isOpen.symm.trans opened
  obtain ⟨left, leftSound⟩ :=
    related.first.destroy host member opened object isOwner
  obtain ⟨right, rightSound⟩ :=
    related.second.destroy host member openedAfter object isOwner
  constructor
  · simp only [QueueProcess.destroyed]
    rw [left, right, ShmStore.set_same, ShmStore.set_same]
  · simp only [QueueProcess.destroyed, if_true]
  · exact related.negotiated
  · intro stillOpen
    simp [QueueProcess.destroyed] at stillOpen
  · exact leftSound
  · exact rightSound

theorem Related.data (opened : state.isOpen own = true) (object : ShmObject)
    (request : QueueCall) :
    let first := (library host queues).serve own
      (state.process, object.queue) request
    let second := (library host queues).serve own
      (after.process, object.queue) request
    first.1 = second.1 ∧ first.2.2 = second.2.2 ∧
      Related host queues own (state.served own object first.2)
        (after.served own object second.2) := by
  obtain ⟨size, count, memory⟩ := related.limits opened
  obtain ⟨leftAnswer, leftQueue⟩ := serve_spec host state.process.process
    (state.process.recordOf queues own) object.queue request
  obtain ⟨rightAnswer, rightQueue⟩ := serve_spec host after.process.process
    (after.process.recordOf queues own) object.queue request
  rw [size, count, memory] at leftAnswer leftQueue
  have leftSizes := serve_sizes host state.process.process
    (state.process.recordOf queues own) object.queue request
  have rightSizes := serve_sizes host after.process.process
    (after.process.recordOf queues own) object.queue request
  have queue := leftQueue.trans rightQueue.symm
  refine ⟨leftAnswer.trans rightAnswer.symm, queue, ?_⟩
  constructor
  · simp only [QueueProcess.served, ShmStore.set_same]
    exact congrArg _ (congrArg _ queue)
  · exact related.isOpen
  · refine (congrArg Prod.snd leftSizes).trans ?_
    exact related.negotiated.trans (congrArg Prod.snd rightSizes).symm
  · intro _
    refine ⟨(congrArg Prod.fst leftSizes).trans ?_, count, memory⟩
    exact size.trans (congrArg Prod.fst rightSizes).symm
  · exact related.first
  · exact related.second

theorem Related.foreign (call : ProcessCall queues) (foreign : call.name ≠ own)
    (keeps : state.KeepsSizes (sizesInForce host) (negotiatedSizes host) own
      call ∧ KeepsRecord host own state call) :
    Related host queues own (state.step (library host queues) call).2
      after := by
  obtain ⟨name, member, operation⟩ := call
  have different : own ≠ name := fun same => foreign same.symm
  obtain ⟨keepsSizes, keepsRecord⟩ := keeps
  cases operation with
  | createSharedRingQueue calls numOfDataSegments isOwner =>
      have spec := createSharedRingQueue_spec host calls state.process.process
        state.shm name numOfDataSegments isOwner (queues.role name).isTx
        (state.process.recordOf queues name)
      obtain ⟨opened, shm, count, memory, _⟩ := spec.effect
      constructor
      · refine (congrFun shm own).trans ?_
        rw [ShmStore.set_other _ _ different]
        exact related.shm
      · simp only [QueueProcess.step, QueueProcess.created, if_neg different]
        exact related.isOpen
      · exact spec.negotiated.trans related.negotiated
      · intro stillOpen
        simp only [QueueProcess.step, QueueProcess.created,
          if_neg different] at stillOpen
        have kept := keepsSizes foreign stillOpen
        obtain ⟨size, sameCount, sameMemory⟩ := related.limits stillOpen
        have inForce := spec.size.trans (congrArg Prod.fst kept)
        refine ⟨inForce.trans size, ?_⟩
        rw [← sameCount, ← sameMemory]
        simp only [QueueProcess.step, QueueProcess.created, library]
        by_cases shared :
            (queues.role name).record = (queues.role own).record
        · have recorded := keepsRecord foreign stillOpen shared
          have same : state.process.recordOf queues name =
              state.process.recordOf queues own :=
            congrArg state.process.records shared
          rw [ProcessRecords.recordOf_set_shared _ _ shared]
          exact spec.keepsRecord same recorded
        · rw [ProcessRecords.recordOf_set_other _ _ shared]
          exact ⟨rfl, rfl⟩
      · exact related.first.create host member calls numOfDataSegments isOwner
      · exact related.second
  | destroySharedRingQueue isOwner =>
      simp only [QueueProcess.step]
      split
      · rename_i object opened found
        obtain ⟨effect, sound⟩ :=
          related.first.destroy host member opened object isOwner
        constructor
        · refine (congrFun effect own).trans ?_
          rw [ShmStore.set_other _ _ different]
          exact related.shm
        · simp only [QueueProcess.destroyed, if_neg different]
          exact related.isOpen
        · exact related.negotiated
        · intro stillOpen
          simp only [QueueProcess.destroyed, if_neg different] at stillOpen
          obtain ⟨size, sameCount, sameMemory⟩ := related.limits stillOpen
          refine ⟨size, ?_⟩
          rw [← sameCount, ← sameMemory]
          simp only [QueueProcess.destroyed, library]
          by_cases shared :
              (queues.role name).record = (queues.role own).record
          · rw [ProcessRecords.recordOf_set_shared _ _ shared]
            have same : state.process.recordOf queues name =
                state.process.recordOf queues own :=
              congrArg state.process.records shared
            rw [← same]
            exact destroySharedRingQueue_limits _ _ _ _ _ _
          · rw [ProcessRecords.recordOf_set_other _ _ shared]
            exact ⟨rfl, rfl⟩
        · exact sound
        · exact related.second
      · exact related
  | data request =>
      simp only [QueueProcess.step]
      split
      · rename_i object opened found
        have kept := serve_sizes host state.process.process
          (state.process.recordOf queues name) object.queue request
        constructor
        · simp only [QueueProcess.served]
          rw [ShmStore.set_other _ _ different]
          exact related.shm
        · exact related.isOpen
        · exact (congrArg Prod.snd kept).trans related.negotiated
        · intro stillOpen
          obtain ⟨size, sameRecord⟩ := related.limits stillOpen
          exact ⟨(congrArg Prod.fst kept).trans size, sameRecord⟩
        · exact related.first
        · exact related.second
      · exact related

omit related

theorem isolates (member : own ∈ queues.names) :
    Isolates (library host queues) own
      (fun state call =>
        state.KeepsSizes (sizesInForce host) (negotiatedSizes host) own call ∧
          KeepsRecord host own state call)
      (Related host queues own) :=
  { isOpen := fun _ _ related => related.isOpen
    shm := fun _ _ related => related.shm
    create := fun _ _ calls numOfDataSegments isOwner related =>
      related.create member calls numOfDataSegments isOwner
    destroy := fun _ _ object isOwner related opened _ =>
      related.destroy member opened object isOwner
    data := fun _ _ object request related opened _ =>
      related.data opened object request
    foreign := fun _ _ call related foreign keeps =>
      related.foreign call foreign keeps }

end Independence

/-- A process that has not opened a queue yet. -/
def start (environ : Environ) (shm : ShmStore) :
    QueueProcess ProcessRecords :=
  { process :=
      { process := Process.start environ
        records := fun _ => createSharedRingGlobalData }
    shm
    isOpen := fun _ => false }

theorem start_related (host : Host) (queues : QueueSet) (own : CString)
    (environ : Environ) (shm : ShmStore) :
    Related host queues own (start environ shm) (start environ shm) := by
  have sound : Sound queues (start environ shm) := by
    intro name _ opened
    cases opened
  exact ⟨rfl, rfl, rfl, fun _ => ⟨rfl, rfl, rfl⟩, sound, sound⟩

end OpenAppsec.ShmemIpc2
