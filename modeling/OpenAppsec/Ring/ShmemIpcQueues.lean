import OpenAppsec.Ring.QueueSet
import OpenAppsec.Ring.StableNegotiation

/-!
# The queues of a process of the first generation

All queues of the process are registered in one table and addressed with the
two sizes that its caches hold.  What one call does to the table, the caches
and shared memory is stated here for a process whose negotiations always give
the same sizes.
-/

namespace OpenAppsec.ShmemIpc

open Ring

/-- The segment size and the entry size that the next data operation uses. -/
def sizesInForce (host : Host) (process : Process) : Nat × Nat :=
  ((getEffectiveSegmentSize host process).1,
    (getEffectiveEntrySize host process).1)

/-- The sizes that a creation negotiates. -/
def negotiatedSizes (host : Host) (process : Process) : Nat × Nat :=
  (negotiatedSegmentSize host process, negotiatedEntrySize host process)

/-- The registered limits that the data operations read. -/
def registeredLimits (process : Process) (name : CString) :
    Option (Nat × Int) :=
  (getQueueParams process name).map fun params =>
    (params.numOfDataSegments, params.memorySize)

/-- The first generation over its static variables. -/
def library (host : Host) (queues : QueueSet) :
    RingLibrary queues Process :=
  { createSharedRingQueue := fun calls process shm name numOfDataSegments
        isOwner =>
      let creation := ShmemIpc.createSharedRingQueue host calls process shm
        name numOfDataSegments isOwner
      { opened := creation.opened
        process := creation.process
        shm := creation.shm }
    destroySharedRingQueue := ShmemIpc.destroySharedRingQueue
    serve := fun _ => ShmemIpc.serve host }

section Sizes

variable {host : Host} {segmentSize : Nat} {larger : Bool}
variable {process : Process}

variable (settled : Settled host segmentSize larger process)

include settled

theorem sizesInForce_of_settled :
    sizesInForce host process =
      (if process.gEffectiveSizeInitialized then process.gEffectiveSegmentSize
        else segmentSize,
        if process.gEffectiveEntrySize ≠ 0 then process.gEffectiveEntrySize
        else releasedSize larger) := by
  unfold sizesInForce
  rw [settled.getEffectiveSegmentSize.1, settled.getEffectiveEntrySize.1]

/-- Looking the segment size up leaves both sizes in force. -/
theorem sizesInForce_afterSegment :
    sizesInForce host (getEffectiveSegmentSize host process).2 =
      sizesInForce host process := by
  unfold sizesInForce
  rw [getEffectiveSegmentSize_again, settled.segmentThenEntry]

theorem sizesInForce_afterEntry :
    sizesInForce host (getEffectiveEntrySize host process).2 =
      sizesInForce host process := by
  unfold sizesInForce
  rw [getEffectiveEntrySize_again, settled.entryThenSegment]

theorem sizesInForce_table (table : List QueueParams) :
    sizesInForce host { process with gQueueParams := table } =
      sizesInForce host process := by
  rw [sizesInForce_of_settled settled,
    sizesInForce_of_settled (settled.withCaches table _ _ _)]

theorem Settled.reset :
    Settled host segmentSize larger (resetCaches process) :=
  settled.withCaches _ _ _ _

theorem sizesInForce_reset :
    sizesInForce host (resetCaches process) =
      (segmentSize, releasedSize larger) := by
  rw [sizesInForce_of_settled settled.reset]
  rfl

theorem negotiatedSizes_of_settled :
    negotiatedSizes host process = (segmentSize, releasedSize larger) := by
  unfold negotiatedSizes
  rw [settled.negotiated.1, settled.negotiated.2]

theorem adoptSegmentSize_settled {calls : SystemCalls} {object : ShmObject} :
    Settled host segmentSize larger
      (adoptSegmentSize host calls object process) := by
  have negotiated := settled.getEffectiveSegmentSize.2
  unfold adoptSegmentSize
  dsimp only
  split
  · exact settled
  · split
    · exact negotiated.withCaches _ _ _ _
    · exact negotiated

/-- The sizes with which a creation lays its queue out. -/
theorem sizingProcess_spec (calls : SystemCalls) (object : ShmObject)
    (isOwner : Bool) :
    let sizing := sizingProcess host calls process object isOwner
    let derived := deriveSegmentSizeFromExistingQueue calls object
    Settled host segmentSize larger sizing ∧
      sizesInForce host sizing =
        if isOwner = true ∨ derived = 0 ∨ derived = segmentSize then
          (segmentSize, releasedSize larger)
        else
          (derived, derived) := by
  cases isOwner with
  | true => exact ⟨settled.reset, sizesInForce_reset settled⟩
  | false =>
      have sizing : Settled host segmentSize larger
          (sizingProcess host calls process object false) :=
        adoptSegmentSize_settled settled.reset
      obtain ⟨segment, entry⟩ := attachedSizes host calls process object
      rw [sizing.segmentThenEntry] at entry
      refine ⟨sizing, ?_⟩
      unfold sizesInForce
      rw [segment, entry, settled.negotiated.1, settled.negotiated.2]
      by_cases none : deriveSegmentSizeFromExistingQueue calls object = 0
      · simp [none]
      · by_cases same : deriveSegmentSizeFromExistingQueue calls object =
            segmentSize
        · simp [same]
        · simp [none, same]

end Sizes

/-- What a creation does to a process whose negotiations are settled. -/
structure CreationSpec (host : Host) (names : List CString)
    (segmentSize : Nat) (larger : Bool) (calls : SystemCalls)
    (process : Process) (shm : ShmStore) (name : CString)
    (numOfDataSegments : Nat) (isOwner : Bool) (created : Creation) :
    Prop where
  settled : Settled host segmentSize larger created.process
  table : TableOk names created.process
  sizes : sizesInForce host created.process =
    createdSizes (segmentSize, releasedSize larger) calls shm name
      numOfDataSegments isOwner
  effect :
    let object := createdObject (sizesInForce host created.process).1 calls
      shm name numOfDataSegments isOwner
    created.opened = object.1 ∧ created.shm = shm.set name object.2 ∧
      registeredLimits created.process name =
        if object.1 then
          some (numOfDataSegments, (effectiveSizeOfMemory
            (sizesInForce host created.process).1 numOfDataSegments : Int))
        else
          registeredLimits process name
  others : ∀ other, other ≠ name →
    getQueueParams created.process other = getQueueParams process other

section Creation

variable {host : Host} {segmentSize : Nat} {larger : Bool}
variable {process after : Process} {names : List CString}

theorem TableOk.of_table (table : TableOk names process)
    (same : after.gQueueParams = process.gQueueParams) :
    TableOk names after := by
  obtain ⟨slots, distinct, known⟩ := table
  unfold registeredNames at distinct known
  constructor
  · rw [same, slots]
  · rw [registeredNames, same]
    exact distinct
  · rw [registeredNames, same]
    exact known

theorem getQueueParams_of_table (name : CString)
    (same : after.gQueueParams = process.gQueueParams) :
    getQueueParams after name = getQueueParams process name := by
  unfold getQueueParams
  rw [same]

theorem adoptSegmentSize_table (host : Host) (calls : SystemCalls)
    (object : ShmObject) (process : Process) :
    (adoptSegmentSize host calls object process).gQueueParams =
      process.gQueueParams := by
  have negotiated := (getEffectiveSegmentSize_frame host process).1
  unfold adoptSegmentSize
  dsimp only
  split
  · rfl
  · split
    · exact negotiated
    · exact negotiated

theorem sizingProcess_table (host : Host) (calls : SystemCalls)
    (process : Process) (object : ShmObject) (isOwner : Bool) :
    (getEffectiveSegmentSize host
      (sizingProcess host calls process object isOwner)).2.gQueueParams =
        process.gQueueParams := by
  rw [(getEffectiveSegmentSize_frame host _).1]
  cases isOwner with
  | true => rfl
  | false => exact adoptSegmentSize_table host calls object _

theorem createSharedRingQueue_spec
    (settled : Settled host segmentSize larger process)
    (table : TableOk names process) (few : names.length ≤ maxQueues)
    {name : CString} (member : name ∈ names)
    (short : name.length < maxOneWayQueueNameLength) (calls : SystemCalls)
    (shm : ShmStore) (numOfDataSegments : Nat) (isOwner : Bool) :
    CreationSpec host names segmentSize larger calls process shm name
      numOfDataSegments isOwner
      (createSharedRingQueue host calls process shm name numOfDataSegments
        isOwner) := by
  rw [createSharedRingQueue_eq]
  by_cases bounded : numOfDataSegments > maxNumOfDataSegments
  · rw [if_pos bounded]
    exact
      { settled := settled.reset
        table := table.of_table rfl
        sizes := by
          rw [sizesInForce_reset settled, createdSizes, if_pos bounded]
        effect := by
          simp only [createdObject, if_pos bounded, ShmStore.set_self]
          exact ⟨trivial, trivial, rfl⟩
        others := fun _ _ => rfl }
  rw [if_neg bounded]
  cases found : shmOpen calls isOwner name shm with
  | none =>
      exact
        { settled := settled.reset
          table := table.of_table rfl
          sizes := by
            rw [sizesInForce_reset settled, createdSizes, if_neg bounded,
              found]
          effect := by
            simp only [createdObject, if_neg bounded, found,
              ShmStore.set_self]
            exact ⟨trivial, trivial, rfl⟩
          others := fun _ _ => rfl }
  | some pair =>
      obtain ⟨fd, object⟩ := pair
      obtain ⟨sizing, sizes⟩ :=
        sizingProcess_spec settled calls object isOwner
      have inForce := sizesInForce_afterSegment sizing
      have laidOut : (sizesInForce host (getEffectiveSegmentSize host
          (sizingProcess host calls process object isOwner)).2).1 =
            (getEffectiveSegmentSize host
              (sizingProcess host calls process object isOwner)).1 :=
        congrArg Prod.fst inForce
      have unchanged := sizingProcess_table host calls process object isOwner
      have sized := sizing.getEffectiveSegmentSize.2
      have sizedTable := table.of_table unchanged
      have created : sizesInForce host (getEffectiveSegmentSize host
          (sizingProcess host calls process object isOwner)).2 =
            createdSizes (segmentSize, releasedSize larger) calls shm name
              numOfDataSegments isOwner := by
        rw [inForce, sizes, createdSizes, if_neg bounded, found]
      have limits : registeredLimits (getEffectiveSegmentSize host
          (sizingProcess host calls process object isOwner)).2 name =
            registeredLimits process name := by
        unfold registeredLimits
        rw [getQueueParams_of_table name unchanged]
      dsimp only
      split
      · rename_i refused
        exact
          { settled := sized
            table := sizedTable
            sizes := created
            effect := by
              simp only [createdObject, if_neg bounded, found, if_pos refused]
              exact ⟨trivial, trivial, limits⟩
            others := fun other _ => getQueueParams_of_table other unchanged }
      rename_i truncated
      split
      · rename_i refused
        exact
          { settled := sized
            table := sizedTable
            sizes := created
            effect := by
              simp only [createdObject, if_neg bounded, found,
                if_neg truncated, if_pos refused, laidOut]
              exact ⟨trivial, trivial, limits⟩
            others := fun other _ => getQueueParams_of_table other unchanged }
      rename_i mapped
      obtain ⟨registered, added, stillTable⟩ :
          ∃ registered, addQueueParams (getEffectiveSegmentSize host
              (sizingProcess host calls process object isOwner)).2 name
                numOfDataSegments (effectiveSizeOfMemory
                  (getEffectiveSegmentSize host (sizingProcess host calls
                    process object isOwner)).1 numOfDataSegments) fd =
              some registered ∧ TableOk names registered :=
        sizedTable.addQueueParams few member short
      obtain ⟨own, others, frame⟩ := addQueueParams_spec short added
      rw [added]
      have registeredSettled : Settled host segmentSize larger registered := by
        rw [frame]
        exact sized.withCaches _ _ _ _
      have registeredSizes : sizesInForce host registered =
          sizesInForce host (getEffectiveSegmentSize host
            (sizingProcess host calls process object isOwner)).2 := by
        rw [frame]
        exact sizesInForce_table sized _
      exact
        { settled := registeredSettled
          table := stillTable
          sizes := registeredSizes.trans created
          effect := by
            simp only [createdObject, if_neg bounded, found,
              if_neg truncated, if_neg mapped, registeredSizes, laidOut,
              registeredLimits, own]
            exact ⟨trivial, trivial, rfl⟩
          others := fun other different =>
            (others other different).trans
              (getQueueParams_of_table other unchanged) }

end Creation

section Data

variable {host : Host} {segmentSize : Nat} {larger : Bool}
variable {process other : Process} {queue : SharedRingQueue}

/-- A data call looks up the entry size, the segment size, or both. -/
theorem serve_process (host : Host) (process : Process)
    (queue : SharedRingQueue) (call : QueueCall) (kept : Process → Prop)
    (segment : ∀ process, kept process →
      kept (getEffectiveSegmentSize host process).2)
    (entry : ∀ process, kept process →
      kept (getEffectiveEntrySize host process).2)
    (holds : kept process) :
    kept (serve host (process, queue) call).2.1 := by
  have pushed : ∀ buffers,
      kept (pushBuffersToQueue host process queue buffers).process := by
    intro buffers
    unfold pushBuffersToQueue
    split
    · exact holds
    split
    · exact holds
    split
    · exact holds
    dsimp only
    split
    · exact entry _ holds
    split
    · exact entry _ holds
    · exact segment _ (entry _ holds)
  cases call with
  | pushBuffersToQueue buffers => exact pushed buffers
  | pushToQueue buffer => exact pushed [buffer]
  | peekToQueue =>
      simp only [serve, peekToQueue]
      split
      · exact holds
      split
      · exact holds
      split
      · exact holds
      split
      · exact holds
      · exact segment _ holds
  | popFromQueue =>
      simp only [serve, popFromQueue]
      split
      · exact holds
      split
      · exact holds
      split
      · exact holds
      · exact entry _ holds
  | isQueueEmpty => exact holds

/-- The state of a process that foreign calls on its open queues keep. -/
structure Keeps (host : Host) (segmentSize : Nat) (larger : Bool)
    (table : List QueueParams) (sizes : Nat × Nat) (process : Process) :
    Prop where
  settled : Settled host segmentSize larger process
  table : process.gQueueParams = table
  sizes : sizesInForce host process = sizes

theorem serve_keeps (settled : Settled host segmentSize larger process)
    (queue : SharedRingQueue) (call : QueueCall) :
    Keeps host segmentSize larger process.gQueueParams
      (sizesInForce host process)
      (serve host (process, queue) call).2.1 := by
  apply serve_process
  · intro process keeps
    exact
      { settled := keeps.settled.getEffectiveSegmentSize.2
        table := (getEffectiveSegmentSize_frame host process).1.trans
          keeps.table
        sizes := (sizesInForce_afterSegment keeps.settled).trans keeps.sizes }
  · intro process keeps
    exact
      { settled := keeps.settled.getEffectiveEntrySize.2
        table := (getEffectiveEntrySize_frame host process).1.trans
          keeps.table
        sizes := (sizesInForce_afterEntry keeps.settled).trans keeps.sizes }
  · exact ⟨settled, rfl, rfl⟩

/-- The answer to a call on a queue that is not registered. -/
def refuse (queue : SharedRingQueue) (call : QueueCall) : QueueAnswer :=
  match call with
  | .isQueueEmpty => ⟨(isQueueEmpty queue).toInt, none, queue⟩
  | _ => ⟨-1, none, queue⟩

theorem serve_of_unregistered (host : Host)
    (unregistered :
      getQueueParams process queue.sharedLocationName = none)
    (call : QueueCall) :
    serve host (process, queue) call =
      (refuse queue call, process, queue) := by
  cases call <;>
    simp [serve, refuse, pushToQueue, pushBuffersToQueue, peekToQueue,
      popFromQueue, isGetPossitionSucceccful, unregistered]

/-- The limits of a registered queue, with the sizes in force. -/
def limitsInForce (sizes : Nat × Nat) (registered : Nat × Int) : Limits :=
  { numOfDataSegments := registered.1
    memorySize := registered.2
    segmentSize := sizes.1
    entrySize := sizes.2 }

/-- What a data call answers and leaves depends on the queue, its registered
limits and the sizes in force. -/
theorem serve_spec (settled : Settled host segmentSize larger process)
    (queue : SharedRingQueue) (call : QueueCall) :
    let served := serve host (process, queue) call
    let answer :=
      match registeredLimits process queue.sharedLocationName with
      | none => refuse queue call
      | some registered =>
          Ring.serve (limitsInForce (sizesInForce host process) registered)
            queue call
    served.1 = answer ∧ served.2.2 = answer.queue := by
  unfold registeredLimits
  cases found : getQueueParams process queue.sharedLocationName with
  | none =>
      rw [serve_of_unregistered host found call]
      refine ⟨rfl, ?_⟩
      cases call <;> rfl
  | some params =>
      have registered := settled.registered found
      obtain ⟨answer, left, _⟩ :=
        serve_eq (process, queue) registered call
      exact ⟨answer, left⟩

theorem serve_sharedLocationName
    (settled : Settled host segmentSize larger process)
    (queue : SharedRingQueue) (call : QueueCall) :
    (serve host (process, queue) call).2.2.sharedLocationName =
      queue.sharedLocationName := by
  rw [(serve_spec settled queue call).2]
  split
  · cases call <;> rfl
  · exact Ring.serve_sharedLocationName _ queue call

end Data

/-- A destruction finds its queue registered under the name in the header. -/
def Releases (process : Process) (name : CString) (object : ShmObject) :
    Prop :=
  object.queue.sharedLocationName = name ∧
    (registeredLimits process name).isSome

instance (process : Process) (name : CString) (object : ShmObject) :
    Decidable (Releases process name object) := by
  unfold Releases
  infer_instance

/-- The process registers its own queues only, negotiates the same sizes every
time, and finds no other queue's name in a header. -/
structure Sound (host : Host) (queues : QueueSet) (segmentSize : Nat)
    (larger : Bool) (state : QueueProcess Process) : Prop where
  settled : Settled host segmentSize larger state.process
  table : TableOk queues.names state.process
  named : queues.HeadersNamed state.shm

/-- Two states that a queue of the process cannot tell apart. -/
structure Related (host : Host) (queues : QueueSet) (segmentSize : Nat)
    (larger : Bool) (own : CString) (first second : QueueProcess Process) :
    Prop where
  shm : first.shm own = second.shm own
  isOpen : first.isOpen own = second.isOpen own
  limits : registeredLimits first.process own =
    registeredLimits second.process own
  sizes : first.isOpen own = true →
    sizesInForce host first.process = sizesInForce host second.process
  first : Sound host queues segmentSize larger first
  second : Sound host queues segmentSize larger second

section Independence

variable {host : Host} {queues : QueueSet} {segmentSize : Nat}
variable {larger : Bool} {own name : CString}
variable {state other : QueueProcess Process} {object : ShmObject}

variable (sound : Sound host queues segmentSize larger state)

include sound

theorem Sound.unregistered (unknown : name ∉ queues.names) :
    getQueueParams state.process name =
      none := by
  rw [getQueueParams_eq_none_iff]
  exact fun registered => unknown (sound.table.known registered)

/-- The location name in a header leads to the limits of its own queue, or to
none. -/
theorem Sound.location (member : name ∈ queues.names)
    (found : state.shm name = some object) :
    object.queue.sharedLocationName = name ∨
      object.queue.sharedLocationName ∉ queues.names ∧
        snprintfName object.queue.sharedLocationName ∉ queues.names := by
  by_cases carried :
      snprintfName object.queue.sharedLocationName ∈ queues.names
  · exact Or.inl (sound.named name member object found carried)
  · right
    refine ⟨?_, carried⟩
    intro known
    rw [snprintfName_of_short (queues.short _ known)] at carried
    exact carried known

theorem Sound.create (member : name ∈ queues.names) (calls : SystemCalls)
    (numOfDataSegments : Nat) (isOwner : Bool) :
    let creation := createSharedRingQueue host calls state.process state.shm
      name numOfDataSegments isOwner
    CreationSpec host queues.names segmentSize larger calls state.process
        state.shm name numOfDataSegments isOwner creation ∧
      Sound host queues segmentSize larger (state.created name
        { opened := creation.opened
          process := creation.process
          shm := creation.shm }) := by
  have spec := createSharedRingQueue_spec sound.settled sound.table queues.few
    member (queues.short name member) calls state.shm numOfDataSegments
    isOwner
  refine ⟨spec, spec.settled, spec.table, ?_⟩
  simp only [QueueProcess.created, spec.effect.2.1]
  exact sound.named.create member _

theorem Sound.data (member : name ∈ queues.names)
    (found : state.shm name = some object) (request : QueueCall) :
    let after := (serve host (state.process, object.queue) request).2
    Sound host queues segmentSize larger
      (state.served name object after) := by
  have keeps := serve_keeps sound.settled object.queue request
  refine ⟨keeps.settled, sound.table.of_table keeps.table, ?_⟩
  apply sound.named.set
  intro left same carried
  cases same
  rw [serve_sharedLocationName sound.settled] at carried ⊢
  exact sound.named name member object found carried

omit sound

theorem registeredLimits_isSome_iff {process : Process} :
    (registeredLimits process name).isSome = true ↔
      getQueueParams process name ≠ none := by
  unfold registeredLimits
  rw [Option.isSome_map, Option.isSome_iff_ne_none]

include sound

theorem Sound.destroy_released (member : name ∈ queues.names)
    (releases : Releases state.process name object) (isOwner : Bool) :
    let after := destroySharedRingQueue state.process state.shm name object
      isOwner
    after = (removeQueueParams state.process name,
        state.shm.set name (destroyedObject object isOwner)) ∧
      Sound host queues segmentSize larger (state.destroyed name after) := by
  obtain ⟨same, registered⟩ := releases
  have present := registeredLimits_isSome_iff.mp registered
  have effect : destroySharedRingQueue state.process state.shm name object
      isOwner = (removeQueueParams state.process name,
        state.shm.set name (destroyedObject object isOwner)) := by
    unfold destroySharedRingQueue
    rw [same, snprintfName_of_short (queues.short name member)]
    dsimp only
    split
    · rename_i absent
      exact absurd absent present
    · cases isOwner with
      | true => exact congrArg (Prod.mk _) (ShmStore.set_destroyed _ _ _ _)
      | false => rfl
  refine ⟨effect, ?_⟩
  rw [effect]
  refine ⟨sound.settled.withCaches _ _ _ _,
    (sound.table.removeQueueParams name).1, ?_⟩
  apply sound.named.set
  intro left destroyed _
  unfold destroyedObject at destroyed
  split at destroyed
  · cases destroyed
  · cases destroyed
    exact same

theorem Sound.destroy_refused (member : name ∈ queues.names)
    (found : state.shm name = some object)
    (refuses : ¬Releases state.process name object) (isOwner : Bool) :
    let after := destroySharedRingQueue state.process state.shm name object
      isOwner
    after = (state.process, state.shm) ∧
      Sound host queues segmentSize larger (state.destroyed name after) := by
  have absent : getQueueParams state.process
      (snprintfName object.queue.sharedLocationName) = none := by
    rcases sound.location member found with same | ⟨_, unknown⟩
    · rw [same, snprintfName_of_short (queues.short name member)]
      by_contra present
      exact refuses ⟨same, registeredLimits_isSome_iff.mpr present⟩
    · exact sound.unregistered unknown
  have effect : destroySharedRingQueue state.process state.shm name object
      isOwner = (state.process, state.shm) := by
    unfold destroySharedRingQueue
    simp only [absent]
  refine ⟨effect, ?_⟩
  rw [effect]
  exact ⟨sound.settled, sound.table, sound.named⟩

theorem registeredLimits_removeQueueParams (name other : CString) :
    registeredLimits (removeQueueParams state.process name) other =
      if other = name then none
      else registeredLimits state.process other := by
  unfold registeredLimits
  split
  · rename_i same
    rw [same, (sound.table.removeQueueParams name).2]
    rfl
  · rename_i different
    rw [removeQueueParams_other different]

omit sound

variable (related : Related host queues segmentSize larger own state other)

include related

theorem Related.create (member : own ∈ queues.names) (calls : SystemCalls)
    (numOfDataSegments : Nat) (isOwner : Bool) :
    let first := (library host queues).createSharedRingQueue calls
      state.process state.shm own numOfDataSegments isOwner
    let second := (library host queues).createSharedRingQueue calls
      other.process other.shm own numOfDataSegments isOwner
    first.opened = second.opened ∧
      Related host queues segmentSize larger own (state.created own first)
        (other.created own second) := by
  obtain ⟨left, leftSound⟩ :=
    related.first.create member calls numOfDataSegments isOwner
  obtain ⟨right, rightSound⟩ :=
    related.second.create member calls numOfDataSegments isOwner
  have sizes : sizesInForce host
      (createSharedRingQueue host calls state.process state.shm own
        numOfDataSegments isOwner).process =
      sizesInForce host
        (createSharedRingQueue host calls other.process other.shm own
          numOfDataSegments isOwner).process := by
    rw [left.sizes, right.sizes]
    exact createdSizes_congr _ related.shm
  obtain ⟨leftOpened, leftShm, leftLimits⟩ := left.effect
  obtain ⟨rightOpened, rightShm, rightLimits⟩ := right.effect
  rw [sizes, createdObject_congr _ related.shm] at leftOpened leftShm leftLimits
  have opened := leftOpened.trans rightOpened.symm
  refine ⟨opened, ?_⟩
  constructor
  · simp only [QueueProcess.created, library, leftShm, rightShm,
      ShmStore.set_same]
  · simp only [QueueProcess.created, library, opened, related.isOpen]
  · simp only [QueueProcess.created, library]
    rw [leftLimits, rightLimits, related.limits]
  · exact fun _ => sizes
  · exact leftSound
  · exact rightSound

theorem Related.destroy (member : own ∈ queues.names)
    (found : state.shm own = some object) (isOwner : Bool) :
    Related host queues segmentSize larger own
      (state.destroyed own (destroySharedRingQueue state.process state.shm
        own object isOwner))
      (other.destroyed own (destroySharedRingQueue other.process other.shm
        own object isOwner)) := by
  have foundOther : other.shm own = some object :=
    related.shm.symm.trans found
  by_cases releases : Releases state.process own object
  · have releasesOther : Releases other.process own object := by
      unfold Releases at releases ⊢
      rwa [← related.limits]
    obtain ⟨leftEffect, leftSound⟩ :=
      related.first.destroy_released member releases isOwner
    obtain ⟨rightEffect, rightSound⟩ :=
      related.second.destroy_released member releasesOther isOwner
    rw [leftEffect] at leftSound ⊢
    rw [rightEffect] at rightSound ⊢
    constructor
    · simp only [QueueProcess.destroyed, ShmStore.set_same]
    · simp only [QueueProcess.destroyed, if_true]
    · simp only [QueueProcess.destroyed]
      rw [registeredLimits_removeQueueParams related.first,
        registeredLimits_removeQueueParams related.second, if_pos rfl,
        if_pos rfl]
    · intro stillOpen
      simp [QueueProcess.destroyed] at stillOpen
    · exact leftSound
    · exact rightSound
  · have refusesOther : ¬Releases other.process own object := by
      unfold Releases at releases ⊢
      rwa [← related.limits]
    obtain ⟨leftEffect, leftSound⟩ :=
      related.first.destroy_refused member found releases isOwner
    obtain ⟨rightEffect, rightSound⟩ :=
      related.second.destroy_refused member foundOther refusesOther isOwner
    rw [leftEffect] at leftSound ⊢
    rw [rightEffect] at rightSound ⊢
    constructor
    · exact related.shm
    · simp only [QueueProcess.destroyed, if_true]
    · exact related.limits
    · intro stillOpen
      simp [QueueProcess.destroyed] at stillOpen
    · exact leftSound
    · exact rightSound

theorem Related.data (member : own ∈ queues.names)
    (opened : state.isOpen own = true) (found : state.shm own = some object)
    (request : QueueCall) :
    let first := serve host (state.process, object.queue) request
    let second := serve host (other.process, object.queue) request
    first.1 = second.1 ∧ first.2.2 = second.2.2 ∧
      Related host queues segmentSize larger own
        (state.served own object first.2)
        (other.served own object second.2) := by
  have foundOther : other.shm own = some object :=
    related.shm.symm.trans found
  have sizes := related.sizes opened
  have limits : registeredLimits state.process
        object.queue.sharedLocationName =
      registeredLimits other.process object.queue.sharedLocationName := by
    rcases related.first.location member found with same | ⟨unknown, _⟩
    · rw [same, related.limits]
    · unfold registeredLimits
      rw [related.first.unregistered unknown,
        related.second.unregistered unknown]
  obtain ⟨leftAnswer, leftQueue⟩ :=
    serve_spec related.first.settled object.queue request
  obtain ⟨rightAnswer, rightQueue⟩ :=
    serve_spec related.second.settled object.queue request
  rw [limits, sizes] at leftAnswer leftQueue
  have queue := leftQueue.trans rightQueue.symm
  have leftKeeps := serve_keeps related.first.settled object.queue request
  have rightKeeps := serve_keeps related.second.settled object.queue request
  refine ⟨leftAnswer.trans rightAnswer.symm, queue, ?_⟩
  constructor
  · simp only [QueueProcess.served, ShmStore.set_same, queue]
  · exact related.isOpen
  · simp only [QueueProcess.served, registeredLimits]
    rw [getQueueParams_of_table own leftKeeps.table,
      getQueueParams_of_table own rightKeeps.table]
    exact related.limits
  · intro _
    simp only [QueueProcess.served]
    rw [leftKeeps.sizes, rightKeeps.sizes, sizes]
  · exact related.first.data member found request
  · exact related.second.data member foundOther request

theorem Related.foreign (call : ProcessCall queues) (foreign : call.name ≠ own)
    (keeps : state.KeepsSizes (sizesInForce host) (negotiatedSizes host) own
      call) :
    Related host queues segmentSize larger own
      (state.step (library host queues) call).2 other := by
  obtain ⟨name, member, operation⟩ := call
  have different : own ≠ name := fun same => foreign same.symm
  cases operation with
  | createSharedRingQueue calls numOfDataSegments isOwner =>
      obtain ⟨spec, sound⟩ :=
        related.first.create member calls numOfDataSegments isOwner
      refine ⟨?_, ?_, ?_, ?_, sound, related.second⟩
      · simp only [QueueProcess.step, QueueProcess.created, library]
        rw [spec.effect.2.1, ShmStore.set_other _ _ different]
        exact related.shm
      · simp only [QueueProcess.step, QueueProcess.created, if_neg different]
        exact related.isOpen
      · simp only [QueueProcess.step, QueueProcess.created, library,
          registeredLimits]
        rw [spec.others own different]
        exact related.limits
      · intro opened
        simp only [QueueProcess.step, QueueProcess.created,
          if_neg different] at opened
        have kept := keeps foreign opened
        rw [negotiatedSizes_of_settled related.first.settled] at kept
        simp only [QueueProcess.step, QueueProcess.created, library]
        rw [spec.sizes, kept]
        exact related.sizes opened
  | destroySharedRingQueue isOwner =>
      simp only [QueueProcess.step]
      split
      · rename_i object opened found
        by_cases releases : Releases state.process name object
        · obtain ⟨effect, sound⟩ :=
            related.first.destroy_released member releases isOwner
          simp only [library]
          rw [effect] at sound ⊢
          refine ⟨?_, ?_, ?_, ?_, sound, related.second⟩
          · simp only [QueueProcess.destroyed]
            rw [ShmStore.set_other _ _ different]
            exact related.shm
          · simp only [QueueProcess.destroyed, if_neg different]
            exact related.isOpen
          · simp only [QueueProcess.destroyed]
            rw [registeredLimits_removeQueueParams related.first,
              if_neg different]
            exact related.limits
          · simp only [QueueProcess.destroyed, if_neg different]
            intro stillOpen
            rw [← related.sizes stillOpen]
            exact sizesInForce_table related.first.settled _
        · obtain ⟨effect, sound⟩ :=
            related.first.destroy_refused member found releases isOwner
          simp only [library]
          rw [effect] at sound ⊢
          refine ⟨related.shm, ?_, related.limits, ?_, sound,
            related.second⟩
          · simp only [QueueProcess.destroyed, if_neg different]
            exact related.isOpen
          · simp only [QueueProcess.destroyed, if_neg different]
            exact related.sizes
      · exact related
  | data request =>
      simp only [QueueProcess.step]
      split
      · rename_i object opened found
        have kept := serve_keeps related.first.settled object.queue request
        refine ⟨?_, related.isOpen, ?_, ?_,
          related.first.data member found request, related.second⟩
        · simp only [QueueProcess.served]
          rw [ShmStore.set_other _ _ different]
          exact related.shm
        · simp only [QueueProcess.served, library, registeredLimits]
          rw [getQueueParams_of_table own kept.table]
          exact related.limits
        · intro stillOpen
          simp only [QueueProcess.served, library]
          rw [kept.sizes]
          exact related.sizes stillOpen
      · exact related

omit related

theorem isolates (member : own ∈ queues.names) :
    Isolates (library host queues) own
      (QueueProcess.KeepsSizes (sizesInForce host) (negotiatedSizes host) own)
      (Related host queues segmentSize larger own) :=
  { isOpen := fun _ _ related => related.isOpen
    shm := fun _ _ related => related.shm
    create := fun _ _ calls numOfDataSegments isOwner related =>
      related.create member calls numOfDataSegments isOwner
    destroy := fun _ _ _ isOwner related _ found =>
      related.destroy member found isOwner
    data := fun _ _ _ request related opened found =>
      related.data member opened found request
    foreign := fun _ _ call related foreign keeps =>
      related.foreign call foreign keeps }

end Independence

/-- A process that has not opened a queue yet. -/
def start (environ : Environ) (shm : ShmStore) : QueueProcess Process :=
  { process := Process.start environ
    shm
    isOpen := fun _ => false }

/-- A process starts in a sound state if reading its metadata file does not
change the segment size that it sets directly. -/
theorem start_related {host : Host} {queues : QueueSet} {environ : Environ}
    {shm : ShmStore} (own : CString)
    (keeps : MetadataKeepsSize host (Process.start environ))
    (named : queues.HeadersNamed shm) :
    ∃ segmentSize larger, Related host queues segmentSize larger own
      (start environ shm) (start environ shm) := by
  have none : registeredNames (Process.start environ) = [] := rfl
  have table : TableOk queues.names (Process.start environ) := by
    constructor
    · rfl
    · rw [none]
      exact List.nodup_nil
    · rw [none]
      exact List.nil_subset _
  have sound : Sound host queues _ _ (start environ shm) :=
    ⟨settled_of_metadataKeepsSize keeps, table, named⟩
  exact ⟨_, _, rfl, rfl, rfl, fun _ => rfl, sound, sound⟩

end OpenAppsec.ShmemIpc
