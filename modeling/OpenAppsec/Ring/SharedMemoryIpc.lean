import OpenAppsec.Ring.GeometryAgreement

/-!
# Two queues make a connection

The functions of `shmem_ipc.c`, which are the same in both generations: an
owner and a user open one queue for each direction under names derived from
the name of the connection, and then only use the queue they send on and the
queue they receive from.  A mapped queue is referred to by the name of its
shared memory object.
-/

namespace OpenAppsec

open Ring

namespace Party

/-- `createSharedRingGlobalData` of the second generation, which gives every
connection its own record. -/
def createSharedRingGlobalData : Party → Party
  | shmemIpc host process => shmemIpc host process
  | shmemIpc2 host _ process =>
      shmemIpc2 host ShmemIpc2.createSharedRingGlobalData process

def destroySharedRingQueue (party : Party) (shm : ShmStore) (name : CString)
    (object : ShmObject) (isOwner isTx : Bool) : Party × ShmStore :=
  match party with
  | shmemIpc host process =>
      let after :=
        ShmemIpc.destroySharedRingQueue process shm name object isOwner
      (shmemIpc host after.1, after.2)
  | shmemIpc2 host globalData process =>
      let after := ShmemIpc2.destroySharedRingQueue shm name object globalData
        isOwner isTx
      (shmemIpc2 host after.1 process, after.2)

end Party

namespace Ring

/-- The two processes of a connection. -/
inductive Side where
  | owner
  | user
  deriving DecidableEq

namespace Side

def isOwner : Side → Bool
  | owner => true
  | user => false

def other : Side → Side
  | owner => user
  | user => owner

end Side

/-- Whether a queue carries messages to the owner. -/
def isTowardsOwner (isOwner isTx : Bool) : Bool :=
  if isOwner then !isTx else isTx

def direction (towardsOwner : Bool) : CString :=
  if towardsOwner then "rx".toList else "tx".toList

/-- The queue name that `createOneWayIPCQueue` prints into its buffer. -/
def oneWayQueueName (towardsOwner : Bool) (name : CString) : CString :=
  ("__cp_nano_".toList ++ direction towardsOwner ++
    "_shared_memory_".toList ++ name ++ "__".toList).take
      (maxOneWayQueueNameLength - 2)

/-- What the system calls inside one `createOneWayIPCQueue` return. -/
structure OneWayCalls where
  createQueue : SystemCalls
  chmodFails : Bool

/-- What the allocations and system calls inside one `initIpc` return. -/
structure IpcCalls where
  mallocFails : Bool
  rx : OneWayCalls
  tx : OneWayCalls

/-- All calls succeed. -/
def IpcCalls.succeed (rxFd txFd : Int) : IpcCalls :=
  { mallocFails := false
    rx := { createQueue := .succeed rxFd, chmodFails := false }
    tx := { createQueue := .succeed txFd, chmodFails := false } }

/-- A connection; a queue that is not mapped is `none`. -/
structure SharedMemoryIPC where
  shmName : CString
  rxQueue : Option CString
  txQueue : Option CString
  deriving DecidableEq

/-- What a function that opens or closes queues leaves behind. -/
structure Opening (α : Type) where
  result : Option α
  party : Party
  shm : ShmStore

def destroyQueue (party : Party) (shm : ShmStore) (queue : CString)
    (isOwner isTx : Bool) : Party × ShmStore :=
  match shm queue with
  | none => (party, shm)
  | some object =>
      party.destroySharedRingQueue shm queue object isOwner
        (isTowardsOwner isOwner isTx)

def createOneWayIPCQueue (party : Party) (calls : OneWayCalls)
    (shm : ShmStore) (name : CString) (isTxQueue isOwner : Bool)
    (numOfQueueElem : Nat) : Opening CString :=
  let towardsOwner := isTowardsOwner isOwner isTxQueue
  let queueName := oneWayQueueName towardsOwner name
  let created := party.createSharedRingQueue calls.createQueue shm queueName
    numOfQueueElem isOwner towardsOwner
  if !created.opened then
    { result := none, party := created.party, shm := created.shm }
  else if ("/dev/shm/".toList ++ queueName).length <
      (direction towardsOwner).length + name.length then
    { result := none, party := created.party, shm := created.shm }
  else if isOwner && calls.chmodFails then
    let destroyed := destroyQueue created.party created.shm queueName isOwner
      isTxQueue
    { result := none, party := destroyed.1, shm := destroyed.2 }
  else
    { result := some queueName, party := created.party, shm := created.shm }

def destroyIpc (party : Party) (shm : ShmStore) (ipc : SharedMemoryIPC)
    (isOwner : Bool) : Party × ShmStore :=
  let afterRx :=
    match ipc.rxQueue with
    | none => (party, shm)
    | some queue => destroyQueue party shm queue isOwner false
  match ipc.txQueue with
  | none => afterRx
  | some queue => destroyQueue afterRx.1 afterRx.2 queue isOwner true

def initIpc (party : Party) (calls : IpcCalls) (shm : ShmStore)
    (queueName : CString) (isOwner : Bool) (numOfQueueElem : Nat) :
    Opening SharedMemoryIPC :=
  if calls.mallocFails then { result := none, party, shm }
  else
    let party := party.createSharedRingGlobalData
    let rx := createOneWayIPCQueue party calls.rx shm queueName false isOwner
      numOfQueueElem
    match rx.result with
    | none => { result := none, party := rx.party, shm := rx.shm }
    | some rxQueue =>
        let tx := createOneWayIPCQueue rx.party calls.tx rx.shm queueName true
          isOwner numOfQueueElem
        match tx.result with
        | none =>
            let destroyed := destroyIpc tx.party tx.shm
              { shmName := [], rxQueue := some rxQueue, txQueue := none }
              isOwner
            { result := none, party := destroyed.1, shm := destroyed.2 }
        | some txQueue =>
            { result := some
                { shmName := queueName.take 32
                  rxQueue := some rxQueue
                  txQueue := some txQueue }
              party := tx.party
              shm := tx.shm }

/-- A call on an open connection. -/
inductive IpcCall where
  | sendData (dataToSend : List UInt8)
  | sendChunkedData (dataElemToSend : List (List UInt8))
  | receiveData
  | popData
  | isDataAvailable
  | isCorruptedShmem

/-- What a call returns; a receiver reads the data it was pointed to. -/
structure IpcAnswer where
  code : Int
  receivedData : Option (List UInt8)
  deriving DecidableEq

/-- The queue that a call works on, and what it asks of it. -/
def IpcCall.request (ipc : SharedMemoryIPC) :
    IpcCall → Option (Option CString × QueueCall)
  | sendData dataToSend => some (ipc.txQueue, .pushToQueue dataToSend)
  | sendChunkedData dataElemToSend =>
      some (ipc.txQueue, .pushBuffersToQueue dataElemToSend)
  | receiveData => some (ipc.rxQueue, .peekToQueue)
  | popData => some (ipc.rxQueue, .popFromQueue)
  | isDataAvailable => some (ipc.rxQueue, .isQueueEmpty)
  | isCorruptedShmem => none

/-- What a call makes of the answer of its queue. -/
def IpcCall.answer (call : IpcCall) (answer : QueueAnswer) : IpcAnswer :=
  match call with
  | isDataAvailable =>
      { code := if answer.code = 0 then 1 else 0, receivedData := none }
  | _ =>
      { code := answer.code
        receivedData := answer.output.map (payloadAt answer.queue) }

/-- What a call returns without a queue to work on. -/
def IpcCall.refusal : IpcCall → IpcAnswer
  | isDataAvailable => { code := 0, receivedData := none }
  | _ => { code := -1, receivedData := none }

def isCorruptedShmem (party : Party) (shm : ShmStore) (ipc : SharedMemoryIPC)
    (isOwner : Bool) : Bool :=
  let corrupted := fun (queue : Option CString) (isTx : Bool) =>
    match queue.bind shm with
    | none => false
    | some object =>
        party.isCorruptedQueue object.queue (isTowardsOwner isOwner isTx)
  corrupted ipc.rxQueue false || corrupted ipc.txQueue true

/-- Two processes that hold the ends of a connection. -/
structure Connection where
  party : Side → Party
  ipc : Side → SharedMemoryIPC
  shm : ShmStore

/-- One call of one of the two processes. -/
def Connection.call (connection : Connection) (input : Side × IpcCall) :
    IpcAnswer × Connection :=
  let side := input.1
  let call := input.2
  match call.request (connection.ipc side) with
  | none =>
      let corrupted := Ring.isCorruptedShmem (connection.party side)
        connection.shm (connection.ipc side) side.isOwner
      ({ code := corrupted.toInt, receivedData := none }, connection)
  | some (none, _) => (call.refusal, connection)
  | some (some queue, request) =>
      match connection.shm queue with
      | none => (call.refusal, connection)
      | some object =>
          let served := (connection.party side).serve object.queue request
          (call.answer served.1,
            { connection with
              party := Function.update connection.party side served.2
              shm := connection.shm.set queue
                (some { object with queue := served.1.queue }) })

end Ring

end OpenAppsec
