import OpenAppsec.Library.Trace
import OpenAppsec.Ring.Negotiation

/-!
# The queues of one process

A process creates, uses and destroys several queues through one library, whose
static variables all of its queues share.  This file states the calls of such
a process over either version of the library, and reduces the independence of
its queues to conditions on single calls.
-/

namespace OpenAppsec.Ring

/-- The record that a queue of the second generation shares with the queue of
the other direction, and its direction in that record. -/
structure Role where
  record : Nat
  isTx : Bool
  deriving DecidableEq

/-- The queues that one process may open. -/
structure QueueSet where
  names : List CString
  role : CString → Role
  few : names.length ≤ 4
  named : ∀ name ∈ names, name ≠ []
  short : ∀ name ∈ names, name.length < maxOneWayQueueNameLength
  roles : ∀ name ∈ names, ∀ other ∈ names, role name = role other →
    name = other

/-- A call of a process on one of its queues. -/
inductive QueueOperation where
  | createSharedRingQueue (calls : SystemCalls) (numOfDataSegments : Nat)
      (isOwner : Bool)
  | destroySharedRingQueue (isOwner : Bool)
  | data (call : QueueCall)

structure ProcessCall (queues : QueueSet) where
  name : CString
  member : name ∈ queues.names
  operation : QueueOperation

/-- What a call returns to its caller. -/
inductive CallResult where
  | created (opened : Bool)
  | destroyed
  | answered (code : Int) (output : Option (Nat × Nat))
  | notOpen
  deriving DecidableEq

/-- The result of a call, with the memory of its queue afterwards. -/
structure CallReport where
  result : CallResult
  object : Option ShmObject

/-- No header carries the name of another queue of the process. -/
def QueueSet.HeadersNamed (queues : QueueSet) (shm : ShmStore) : Prop :=
  ∀ name ∈ queues.names, ∀ object, shm name = some object →
    snprintfName object.queue.sharedLocationName ∈ queues.names →
      object.queue.sharedLocationName = name

/-- The sizes in force after a creation: decoded from a header that differs
from the negotiated segment size, negotiated otherwise. -/
def createdSizes (negotiated : Nat × Nat) (calls : SystemCalls)
    (shm : ShmStore) (name : CString) (numOfDataSegments : Nat)
    (isOwner : Bool) : Nat × Nat :=
  if numOfDataSegments > maxNumOfDataSegments then negotiated
  else
    match shmOpen calls isOwner name shm with
    | none => negotiated
    | some (_, object) =>
        let derived := deriveSegmentSizeFromExistingQueue calls object
        if isOwner = true ∨ derived = 0 ∨ derived = negotiated.1 then
          negotiated
        else
          (derived, derived)

/-- Whether a creation returns its queue, and the object it leaves. -/
def createdObject (segmentSize : Nat) (calls : SystemCalls) (shm : ShmStore)
    (name : CString) (numOfDataSegments : Nat) (isOwner : Bool) :
    Bool × Option ShmObject :=
  if numOfDataSegments > maxNumOfDataSegments then (false, shm name)
  else
    match shmOpen calls isOwner name shm with
    | none => (false, shm name)
    | some (fd, object) =>
        let sizeOfMemory :=
          effectiveSizeOfMemory segmentSize numOfDataSegments
        let resized := resizedObject object sizeOfMemory isOwner
        if isOwner && calls.ftruncateFails then (false, some object)
        else if calls.mmapReturnsNull then (false, some resized)
        else
          (true, some
            { resized with
              queue := openedQueue object name numOfDataSegments sizeOfMemory
                fd isOwner })

/-- What a destruction leaves of the object under the name of its queue. -/
def destroyedObject (object : ShmObject) (isOwner : Bool) :
    Option ShmObject :=
  if isOwner then none
  else some { object with queue := { object.queue with userFd := 0 } }

section Created

variable {calls : SystemCalls} {shm other : ShmStore} {name : CString}
variable {numOfDataSegments : Nat} {isOwner : Bool}

theorem shmOpen_congr (same : shm name = other name) :
    shmOpen calls isOwner name shm = shmOpen calls isOwner name other := by
  unfold shmOpen
  rw [same]

theorem createdSizes_congr (negotiated : Nat × Nat)
    (same : shm name = other name) :
    createdSizes negotiated calls shm name numOfDataSegments isOwner =
      createdSizes negotiated calls other name numOfDataSegments isOwner := by
  unfold createdSizes
  rw [shmOpen_congr same]

theorem createdObject_congr (segmentSize : Nat)
    (same : shm name = other name) :
    createdObject segmentSize calls shm name numOfDataSegments isOwner =
      createdObject segmentSize calls other name numOfDataSegments
        isOwner := by
  unfold createdObject
  rw [shmOpen_congr same, same]

theorem ShmStore.set_self (shm : ShmStore) (name : CString) :
    shm.set name (shm name) = shm := by
  funext other
  unfold ShmStore.set
  split
  · rename_i same
    rw [same]
  · rfl

/-- An owner unlinks the object that it has just let go of. -/
theorem ShmStore.set_destroyed (shm : ShmStore) (name : CString)
    (object : ShmObject) (queue : SharedRingQueue) :
    (shm.set name (some { object with queue })).set name none =
      shm.set name (destroyedObject object true) := by
  funext other
  simp only [ShmStore.set, destroyedObject, if_true]
  split <;> rfl

/-- The header of a created queue carries its own name, unless an owner did
not get as far as to write it, or it was there before. -/
theorem createdObject_location {segmentSize : Nat} {object : ShmObject}
    (short : name.length < maxOneWayQueueNameLength)
    (left : (createdObject segmentSize calls shm name numOfDataSegments
      isOwner).2 = some object) :
    object.queue.sharedLocationName = name ∨
      object.queue.sharedLocationName = [] ∨
      ∃ before, shm name = some before ∧
        object.queue.sharedLocationName = before.queue.sharedLocationName := by
  unfold createdObject at left
  split at left
  · exact Or.inr (Or.inr ⟨object, left, rfl⟩)
  cases found : shmOpen calls isOwner name shm with
  | none =>
      rw [found] at left
      exact Or.inr (Or.inr ⟨object, left, rfl⟩)
  | some pair =>
      obtain ⟨fd, opened⟩ := pair
      have origin : opened.queue.sharedLocationName = [] ∨
          ∃ before, shm name = some before ∧
            opened.queue.sharedLocationName =
              before.queue.sharedLocationName := by
        unfold shmOpen at found
        split at found
        · cases found
        · rename_i before present
          cases found
          exact Or.inr ⟨_, present, rfl⟩
        · split at found
          · cases found
            exact Or.inl rfl
          · cases found
      rw [found] at left
      dsimp only at left
      split at left
      · cases left
        exact Or.inr origin
      split at left
      · cases left
        cases isOwner with
        | true => exact Or.inr origin
        | false => exact Or.inr origin
      · cases left
        cases isOwner with
        | true => exact Or.inl (snprintfName_of_short short)
        | false => exact Or.inr origin

theorem QueueSet.HeadersNamed.set {queues : QueueSet}
    (named : queues.HeadersNamed shm) {object : Option ShmObject}
    (own : ∀ left, object = some left →
      snprintfName left.queue.sharedLocationName ∈ queues.names →
        left.queue.sharedLocationName = name) :
    queues.HeadersNamed (shm.set name object) := by
  intro other member left found carried
  by_cases same : other = name
  · subst same
    rw [ShmStore.set_same] at found
    exact own left found carried
  · rw [ShmStore.set_other _ _ same] at found
    exact named other member left found carried

theorem QueueSet.HeadersNamed.create {queues : QueueSet}
    (named : queues.HeadersNamed shm) (member : name ∈ queues.names)
    (segmentSize : Nat) :
    queues.HeadersNamed (shm.set name
      (createdObject segmentSize calls shm name numOfDataSegments
        isOwner).2) := by
  apply named.set
  intro left object carried
  rcases createdObject_location (queues.short name member) object with
    same | empty | ⟨before, present, same⟩
  · exact same
  · rw [empty] at carried
    exact absurd rfl (queues.named [] carried)
  · rw [same] at carried ⊢
    exact named name member before present carried

end Created

/-- What `createSharedRingQueue` gives back. -/
structure Created (π : Type) where
  opened : Bool
  process : π
  shm : ShmStore

/-- The functions of one version, over its static variables and records. -/
structure RingLibrary (queues : QueueSet) (π : Type) where
  createSharedRingQueue : SystemCalls → π → ShmStore → CString → Nat → Bool →
    Created π
  destroySharedRingQueue : π → ShmStore → CString → ShmObject → Bool →
    π × ShmStore
  serve : CString → π × SharedRingQueue → QueueCall →
    QueueAnswer × (π × SharedRingQueue)

/-- A process with the shared memory it sees and the queues it holds. -/
structure QueueProcess (π : Type) where
  process : π
  shm : ShmStore
  isOpen : CString → Bool

namespace QueueProcess

variable {π : Type}

/-- A queue handle stays valid when a second creation fails. -/
def created (state : QueueProcess π) (name : CString) (creation : Created π) :
    QueueProcess π :=
  { process := creation.process
    shm := creation.shm
    isOpen := fun other =>
      if other = name then state.isOpen other || creation.opened
      else state.isOpen other }

def destroyed (state : QueueProcess π) (name : CString)
    (after : π × ShmStore) : QueueProcess π :=
  { process := after.1
    shm := after.2
    isOpen := fun other => if other = name then false else state.isOpen other }

def served (state : QueueProcess π) (name : CString) (object : ShmObject)
    (after : π × SharedRingQueue) : QueueProcess π :=
  { state with
    process := after.1
    shm := state.shm.set name (some { object with queue := after.2 }) }

/-- One call; a process does not use a queue it has not opened. -/
def step {queues : QueueSet} (library : RingLibrary queues π)
    (state : QueueProcess π) (call : ProcessCall queues) :
    CallReport × QueueProcess π :=
  match call.operation with
  | .createSharedRingQueue calls numOfDataSegments isOwner =>
      let creation := library.createSharedRingQueue calls state.process
        state.shm call.name numOfDataSegments isOwner
      (⟨.created creation.opened, creation.shm call.name⟩,
        state.created call.name creation)
  | .destroySharedRingQueue isOwner =>
      match state.isOpen call.name, state.shm call.name with
      | true, some object =>
          let after := library.destroySharedRingQueue state.process state.shm
            call.name object isOwner
          (⟨.destroyed, after.2 call.name⟩, state.destroyed call.name after)
      | _, _ => (⟨.notOpen, state.shm call.name⟩, state)
  | .data request =>
      match state.isOpen call.name, state.shm call.name with
      | true, some object =>
          let (answer, after) := library.serve call.name
            (state.process, object.queue) request
          (⟨.answered answer.code answer.output,
              some { object with queue := after.2 }⟩,
            state.served call.name object after)
      | _, _ => (⟨.notOpen, state.shm call.name⟩, state)

/-- A creation of another queue finds the sizes that are in force while the
own queue is open. -/
def KeepsSizes {queues : QueueSet} (inForce negotiated : π → Nat × Nat)
    (own : CString) (state : QueueProcess π) (call : ProcessCall queues) :
    Prop :=
  match call.operation with
  | .createSharedRingQueue calls numOfDataSegments isOwner =>
      call.name ≠ own → state.isOpen own = true →
        createdSizes (negotiated state.process) calls state.shm call.name
            numOfDataSegments isOwner =
          inForce state.process
  | _ => True

instance {queues : QueueSet} (inForce negotiated : π → Nat × Nat)
    (own : CString) (state : QueueProcess π) (call : ProcessCall queues) :
    Decidable (state.KeepsSizes inForce negotiated own call) := by
  unfold KeepsSizes
  split <;> infer_instance

/-- Removing the calls on the other queues changes neither what the calls on
one queue return nor what they leave in its memory. -/
def Undisturbed {queues : QueueSet} (library : RingLibrary queues π)
    (own : CString) (state : QueueProcess π)
    (calls : List (ProcessCall queues)) : Prop :=
  let ownCall := fun call : ProcessCall queues => decide (call.name = own)
  let whole := Trace.run (step library) state calls
  let alone := Trace.run (step library) state (calls.filter ownCall)
  Trace.ownOutputs ownCall calls whole.1 = alone.1 ∧
    whole.2.shm own = alone.2.shm own

end QueueProcess

/-- Calls on one queue answer alike in related states and keep them related;
guarded calls on the other queues keep a state related to one that does not
see them. -/
structure Isolates {queues : QueueSet} {π : Type}
    (library : RingLibrary queues π) (own : CString)
    (guard : QueueProcess π → ProcessCall queues → Prop)
    (related : QueueProcess π → QueueProcess π → Prop) : Prop where
  isOpen : ∀ state other, related state other →
    state.isOpen own = other.isOpen own
  shm : ∀ state other, related state other → state.shm own = other.shm own
  create : ∀ state other calls numOfDataSegments isOwner,
    related state other →
    let first := library.createSharedRingQueue calls state.process state.shm
      own numOfDataSegments isOwner
    let second := library.createSharedRingQueue calls other.process other.shm
      own numOfDataSegments isOwner
    first.opened = second.opened ∧
      related (state.created own first) (other.created own second)
  destroy : ∀ state other object isOwner, related state other →
    state.isOpen own = true → state.shm own = some object →
    related
      (state.destroyed own (library.destroySharedRingQueue state.process
        state.shm own object isOwner))
      (other.destroyed own (library.destroySharedRingQueue other.process
        other.shm own object isOwner))
  data : ∀ state other object request, related state other →
    state.isOpen own = true → state.shm own = some object →
    let first := library.serve own (state.process, object.queue) request
    let second := library.serve own (other.process, object.queue) request
    first.1 = second.1 ∧ first.2.2 = second.2.2 ∧
      related (state.served own object first.2)
        (other.served own object second.2)
  foreign : ∀ state other call, related state other → call.name ≠ own →
    guard state call → related (state.step library call).2 other

namespace Isolates

variable {queues : QueueSet} {π : Type} {library : RingLibrary queues π}
variable {own : CString} {guard : QueueProcess π → ProcessCall queues → Prop}
variable {related : QueueProcess π → QueueProcess π → Prop}

theorem step_own (isolates : Isolates library own guard related)
    {state other : QueueProcess π} (call : ProcessCall queues)
    (holds : related state other) (owned : call.name = own) :
    (state.step library call).1 = (other.step library call).1 ∧
      related (state.step library call).2 (other.step library call).2 := by
  obtain ⟨name, member, operation⟩ := call
  subst owned
  have sameOpen := isolates.isOpen state other holds
  have sameShm := isolates.shm state other holds
  cases operation with
  | createSharedRingQueue calls numOfDataSegments isOwner =>
      obtain ⟨opened, after⟩ := isolates.create state other calls
        numOfDataSegments isOwner holds
      have left := isolates.shm _ _ after
      refine ⟨?_, after⟩
      simp only [QueueProcess.step]
      rw [opened]
      exact congrArg (CallReport.mk _) left
  | destroySharedRingQueue isOwner =>
      simp only [QueueProcess.step, ← sameOpen, ← sameShm]
      split
      · rename_i object opened found
        have after := isolates.destroy state other object isOwner holds opened
          found
        exact ⟨congrArg (CallReport.mk _) (isolates.shm _ _ after), after⟩
      · exact ⟨rfl, holds⟩
  | data request =>
      simp only [QueueProcess.step, ← sameOpen, ← sameShm]
      split
      · rename_i object opened found
        obtain ⟨answer, queue, after⟩ := isolates.data state other object
          request holds opened found
        refine ⟨?_, after⟩
        rw [answer, queue]
      · exact ⟨rfl, holds⟩

theorem undisturbed (isolates : Isolates library own guard related)
    {state : QueueProcess π} {calls : List (ProcessCall queues)}
    (holds : related state state)
    (guarded : Trace.Along (QueueProcess.step library) guard state calls) :
    state.Undisturbed library own calls := by
  obtain ⟨outputs, after⟩ := Trace.run_purge
    (fun call : ProcessCall queues => decide (call.name = own)) guard related
    (fun _ _ call related owned _ =>
      isolates.step_own call related (of_decide_eq_true owned))
    (fun _ _ call related foreign guard =>
      isolates.foreign _ _ call related (of_decide_eq_false foreign) guard)
    holds guarded
  exact ⟨outputs, isolates.shm _ _ after⟩

end Isolates

end OpenAppsec.Ring
