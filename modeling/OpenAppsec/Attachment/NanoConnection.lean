import OpenAppsec.Attachment.Senders
import OpenAppsec.Library.Holdings
import OpenAppsec.Library.Trace

/-!
# The connection of the nano attachment

How an attachment registers, connects to the service, and connects again when
something goes wrong: which sockets and channels it opens and closes, whatever
the system answers.
-/

namespace OpenAppsec.Nano.Connection

open BlockLedger

inductive RegistrationState where
  | notRegistered
  | pending
  | registered
  deriving DecidableEq

/-- The fields that hold a descriptor, -1 if there is none, or a channel, NULL
if there is none.  A descriptor of the system is never 0, which is the
standard input. -/
inductive Resource where
  | registrationSocket
  | commSocket
  | commSocketSync
  | nanoServiceIpc
  | nanoServiceSyncIpc
  deriving DecidableEq

/-- The fields that connections depend on, the names of the channels, what
the system answers to each question (whether a call succeeds, or a thread goes
on), and what variables hold that nothing was assigned to, `none` being a
number that is no result. -/
structure NanoAttachment where
  uniqueId : String
  containerId : String
  registrationState : RegistrationState
  isConfigurationUpdated : Bool
  isAsyncModeEnabled : Bool
  numOfConnectionAttempts : Nat
  channelName : Resource → String
  holdings : Holdings Resource
  answers : Nat → Bool
  residues : Nat → Option NanoCommunicationResult
  asked : Nat

namespace NanoAttachment

/-- `InitNanoAttachment`, before it connects. -/
def start (uniqueId containerId : String) (answers : Nat → Bool)
    (residues : Nat → Option NanoCommunicationResult) : NanoAttachment where
  uniqueId
  containerId
  registrationState := .notRegistered
  isConfigurationUpdated := false
  isAsyncModeEnabled := false
  numOfConnectionAttempts := 0
  channelName := fun _ => ""
  holdings := .start Resource
  answers
  residues
  asked := 0

def held (attachment : NanoAttachment) : Resource → Option Nat :=
  attachment.holdings.held

/-- The answer to the next question. -/
def ask (attachment : NanoAttachment) : Bool × NanoAttachment :=
  (attachment.answers attachment.asked,
    { attachment with asked := attachment.asked + 1 })

/-- A descriptor or channel is opened for a field. -/
def acquire (attachment : NanoAttachment) (resource : Resource) :
    NanoAttachment :=
  { attachment with holdings := attachment.holdings.acquire resource }

/-- A field is closed, which then is -1 or NULL. -/
def surrender (attachment : NanoAttachment) (resource : Resource) :
    NanoAttachment :=
  { attachment with holdings := attachment.holdings.surrender resource }

/-- `socket` and `connect`.  A thread that has run too long is cancelled in
`connect`, and there is no result. -/
def connectSocket (resource : Resource) (attachment : NanoAttachment) :
    Option NanoCommunicationResult × NanoAttachment :=
  let socket := attachment.ask
  if !socket.1 then (some .error, socket.2)
  else
    let goesOn := (socket.2.acquire resource).ask
    if !goesOn.1 then (none, goesOn.2)
    else
      let connect := goesOn.2.ask
      (some (if connect.1 then .ok else .error), connect.2)

/-- `connect_to_comm_socket` and `connect_to_comm_socket_sync`: the old socket
is closed first, where the thread may be cancelled, too. -/
def connectToCommSocket (resource : Resource)
    (attachment : NanoAttachment) :
    Option NanoCommunicationResult × NanoAttachment :=
  let goesOn := attachment.ask
  if !goesOn.1 then (none, goesOn.2)
  else connectSocket resource (goesOn.2.surrender resource)

/-- The result is that of the second socket, if there is one. -/
def registrationCommSocketThread (attachment : NanoAttachment) :
    Option NanoCommunicationResult × NanoAttachment :=
  let comm := connectToCommSocket .commSocket attachment
  if comm.1.isSome ∧ comm.2.isAsyncModeEnabled then
    connectToCommSocket .commSocketSync comm.2
  else comm

def registrationSocketThread (attachment : NanoAttachment) :
    Option NanoCommunicationResult × NanoAttachment :=
  connectSocket .registrationSocket attachment

/-- `NanoRunInThreadTimeout`: no result if the thread does not start, is
cancelled, or comes to its end when its time is over. -/
def runInThreadTimeout
    (routine :
      NanoAttachment → Option NanoCommunicationResult × NanoAttachment)
    (attachment : NanoAttachment) :
    Option NanoCommunicationResult × NanoAttachment :=
  let starts := attachment.ask
  if !starts.1 then (none, starts.2)
  else
    let ran := routine starts.2
    let joined := ran.2.ask
    (if joined.1 then ran.1 else none, joined.2)

/-- `write_to_service` and `read_from_service`, which close the socket unless
all bytes are transferred. -/
def exchange (resource : Resource) (attachment : NanoAttachment) :
    Bool × NanoAttachment :=
  let moved := attachment.ask
  if (attachment.held resource).isSome ∧ moved.1 then (true, moved.2)
  else (false, moved.2.surrender resource)

/-- So many transfers, up to the first that fails. -/
def exchanges (resource : Resource) :
    Nat → NanoAttachment → Bool × NanoAttachment
  | 0, attachment => (true, attachment)
  | number + 1, attachment =>
      let first := exchange resource attachment
      if first.1 then exchanges resource number first.2 else first

/-- The size of the unique id, the id, the user and the group. -/
def sendCommDataToCommSocket (attachment : NanoAttachment) :
    Bool × NanoAttachment :=
  exchanges .commSocket 4 attachment

/-- The type, the worker, the number of workers, the size of the container id,
and the id if it is not empty. -/
def sendRegistrationDataToRegistrationSocket (attachment : NanoAttachment) :
    Bool × NanoAttachment :=
  exchanges .registrationSocket
    (if attachment.containerId = "" then 4 else 5) attachment

/-- The length of the path, which may be too long, and the path. -/
def readVerdictSignalPathFromRegistrationSocket
    (attachment : NanoAttachment) : Bool × NanoAttachment :=
  let length := exchange .registrationSocket attachment
  if !length.1 then length
  else
    let fits := length.2.ask
    if !fits.1 then fits else exchange .registrationSocket fits.2

/-- How a failure of `init_signaling_socket` ends. -/
def failSignaling (attachment : NanoAttachment) :
    NanoCommunicationResult × NanoAttachment :=
  (.error,
    { attachment.surrender .commSocket with
      registrationState :=
        if attachment.registrationState = .pending then .pending
        else .notRegistered })

def initSignalingSocket (attachment : NanoAttachment) :
    NanoCommunicationResult × NanoAttachment :=
  let thread := runInThreadTimeout registrationCommSocketThread attachment
  if thread.1 ≠ some .ok then thread.2.failSignaling
  else
    let sent := sendCommDataToCommSocket thread.2
    if !sent.1 then sent.2.failSignaling
    else
      let acked := exchange .commSocket sent.2
      if !acked.1 then acked.2.failSignaling else (.ok, acked.2)

def registerToAttachmentsManager (attachment : NanoAttachment) :
    NanoCommunicationResult × NanoAttachment :=
  let thread := runInThreadTimeout registrationSocketThread
    (attachment.surrender .registrationSocket)
  if thread.1 ≠ some .ok then
    (.error, thread.2.surrender .registrationSocket)
  else
    let sent := sendRegistrationDataToRegistrationSocket thread.2
    if !sent.1 then (.error, sent.2.surrender .registrationSocket)
    else
      let read := readVerdictSignalPathFromRegistrationSocket sent.2
      (if read.1 then .ok else .error,
        read.2.surrender .registrationSocket)

/-- `initIpc`, for a field that is NULL. -/
def initIpc (resource : Resource) (name : String)
    (attachment : NanoAttachment) : Bool × NanoAttachment :=
  let made := attachment.ask
  if made.1 then
    (true,
      { made.2.acquire resource with
        channelName :=
          Function.update made.2.channelName resource name })
  else made

/-- The part of `restart_communication` that opens the sockets, after another
registration if need be. -/
def signalAgain (attachment : NanoAttachment) :
    NanoCommunicationResult × NanoAttachment :=
  let first := initSignalingSocket attachment
  if first.1 = .error then
    let registered := registerToAttachmentsManager first.2
    if registered.1 = .error then registered
    else initSignalingSocket registered.2
  else first

/-- The part of `restart_communication` that opens the channels, which are both
given the unique id. -/
def initChannels (attachment : NanoAttachment) :
    NanoCommunicationResult × NanoAttachment :=
  let ipc := initIpc .nanoServiceIpc attachment.uniqueId attachment
  if !ipc.1 then (.error, ipc.2)
  else if ipc.2.isAsyncModeEnabled then
    let sync := initIpc .nanoServiceSyncIpc ipc.2.uniqueId ipc.2
    (if sync.1 then .ok else .error, sync.2)
  else (.ok, ipc.2)

/-- `restart_communication`. -/
def restartCommunication (attachment : NanoAttachment) :
    NanoCommunicationResult × NanoAttachment :=
  let signaled := signalAgain
    ((attachment.surrender .nanoServiceIpc).surrender .nanoServiceSyncIpc)
  if signaled.1 = .error then signaled else signaled.2.initChannels

def disconnectCommunication (attachment : NanoAttachment) : NanoAttachment :=
  (((attachment.surrender .commSocket).surrender .commSocketSync).surrender
    .nanoServiceIpc).surrender .nanoServiceSyncIpc

/-- `init_attachment_config`: the file may be missing, unreadable or have an
illegal value. -/
def initAttachmentConfig (attachment : NanoAttachment) :
    Bool × NanoAttachment :=
  let access := attachment.ask
  if !access.1 then access
  else if access.2.isConfigurationUpdated then (true, access.2)
  else
    let loaded := access.2.ask
    if !loaded.1 then loaded
    else
      let legal := loaded.2.ask
      if !legal.1 then
        (false, { legal.2 with isConfigurationUpdated := false })
      else
        let async := legal.2.ask
        (true,
          { async.2 with
            isAsyncModeEnabled := async.1
            isConfigurationUpdated := true })

def resetAttachmentConfig (attachment : NanoAttachment) :
    Bool × NanoAttachment :=
  initAttachmentConfig { attachment with isConfigurationUpdated := false }

/-- The part of `nano_attachment_init_process` that registers. -/
def register (attachment : NanoAttachment) :
    NanoCommunicationResult × NanoAttachment :=
  if attachment.registrationState = .notRegistered then
    let registered := registerToAttachmentsManager attachment
    if registered.1 = .error then registered
    else
      (.ok, { registered.2 with registrationState := .registered })
  else (.ok, attachment)

/-- A channel that is not there is opened; when that fails, the communication
is restarted and the process fails all the same. -/
def openChannel (resource : Resource) (name : String)
    (attachment : NanoAttachment) :
    NanoCommunicationResult × NanoAttachment :=
  if (attachment.held resource).isSome then (.ok, attachment)
  else
    let ipc := initIpc resource name attachment
    if ipc.1 then (.ok, ipc.2)
    else (.error, (restartCommunication ipc.2).2)

/-- The second channel, which the asynchronous mode alone needs. -/
def openSyncChannel (attachment : NanoAttachment) :
    NanoCommunicationResult × NanoAttachment :=
  if attachment.isAsyncModeEnabled then
    openChannel .nanoServiceSyncIpc (attachment.uniqueId ++ "_sync") attachment
  else (.ok, attachment)

/-- The rest of the process, behind the second reading of the
configuration. -/
def connect (attachment : NanoAttachment) :
    NanoCommunicationResult × NanoAttachment :=
  let signaled :=
    if (attachment.held .commSocket).isSome then (.ok, attachment)
    else initSignalingSocket attachment
  if signaled.1 = .error then signaled
  else
    let ipc := openChannel .nanoServiceIpc signaled.2.uniqueId signaled.2
    if ipc.1 = .error then ipc
    else
      let sync := ipc.2.openSyncChannel
      if sync.1 = .error then sync
      else (.ok, { sync.2 with numOfConnectionAttempts := 0 })

/-- `nano_attachment_init_process`. -/
def initProcess (attachment : NanoAttachment) :
    NanoCommunicationResult × NanoAttachment :=
  let counted :=
    { attachment with
      numOfConnectionAttempts := attachment.numOfConnectionAttempts + 1 }
  let manager := (initAttachmentConfig counted).2.ask
  if !manager.1 then (.abort, manager.2)
  else if manager.2.registrationState = .pending then (.error, manager.2)
  else
    let registered := manager.2.register
    if registered.1 = .error then registered
    else
      let config := initAttachmentConfig registered.2
      if !config.1 then (.error, config.2) else config.2.connect

/-- A channel that is not there is restarted with all the others. -/
def restoreIpc (resource : Resource) (attachment : NanoAttachment) :
    NanoCommunicationResult × NanoAttachment :=
  if (attachment.held resource).isSome then (.ok, attachment)
  else restartCommunication attachment.disconnectCommunication

/-- `handle_ipc_corruption_sync` and `handle_ipc_corruption_async`. -/
def handleIpcCorruption (resource : Resource) (attachment : NanoAttachment) :
    NanoCommunicationResult × NanoAttachment :=
  let up := restoreIpc resource attachment
  if up.1 ≠ .ok then (.error, up.2)
  else
    let intact := up.2.ask
    if intact.1 then (.ok, intact.2)
    else (.error, intact.2.disconnectCommunication)

/-- What the variable `res` holds before anything is assigned to it. -/
def unassigned (attachment : NanoAttachment) :
    Option NanoCommunicationResult × NanoAttachment :=
  (attachment.residues attachment.asked, attachment.ask.2)

/-- `handle_shmem_corruption` assigns `res` in the asynchronous mode only. -/
def handleShmemCorruption (attachment : NanoAttachment) :
    Option NanoCommunicationResult × NanoAttachment :=
  let res :=
    if attachment.isAsyncModeEnabled then
      let handled := handleIpcCorruption .nanoServiceSyncIpc attachment
      (some handled.1, handled.2)
    else attachment.unassigned
  if res.1 ≠ some .ok then res
  else
    let handled := handleIpcCorruption .nanoServiceIpc res.2
    (some handled.1, handled.2)

def isIpcReady (attachment : NanoAttachment) : Bool :=
  if !attachment.isAsyncModeEnabled then
    (attachment.held .nanoServiceIpc).isSome &&
      (attachment.held .commSocket).isSome
  else
    (attachment.held .nanoServiceIpc).isSome &&
      (attachment.held .commSocket).isSome &&
      (attachment.held .nanoServiceSyncIpc).isSome &&
      (attachment.held .commSocketSync).isSome

/-- `SendKeepAlive`: a transfer that fails closes the copy of the descriptor,
and the descriptor is closed again behind it.  Whether it did so. -/
def sendKeepAlive (attachment : NanoAttachment) : Bool × NanoAttachment :=
  let socket := attachment.ask
  if !socket.1 then (false, socket.2)
  else
    let connect := socket.2.ask
    if !connect.1 then
      (false,
        { connect.2 with holdings := connect.2.holdings.transient })
    else
      let sent := connect.2.ask
      if sent.1 then
        (false, { sent.2 with holdings := sent.2.holdings.transient })
      else
        (true, { sent.2 with holdings := sent.2.holdings.transientTwice })

end NanoAttachment

/-- What happens to an attachment that was made: the check before a message,
the restart when a message fails, a new configuration, and the keep-alive
signal.  The restart runs to its end: the thread of the message, which may be
cancelled, is not cancelled in it. -/
inductive Step where
  | handleShmemCorruption
  | reconnect
  | resetAttachmentConfig
  | sendKeepAlive
  deriving DecidableEq

/-- What a step returns; the result is `none` for a number that is none of the
results. -/
inductive Report where
  | result (result : Option NanoCommunicationResult)
  | config (success : Bool)
  | keepAlive (closedTwice : Bool)
  deriving DecidableEq

def step (attachment : NanoAttachment) : Step → Report × NanoAttachment
  | .handleShmemCorruption =>
      let handled := attachment.handleShmemCorruption
      (.result handled.1, handled.2)
  | .reconnect =>
      let restarted := attachment.disconnectCommunication.restartCommunication
      (.result (some restarted.1), restarted.2)
  | .resetAttachmentConfig =>
      let reset := attachment.resetAttachmentConfig
      (.config reset.1, reset.2)
  | .sendKeepAlive =>
      let sent := attachment.sendKeepAlive
      (.keepAlive sent.1, sent.2)

end OpenAppsec.Nano.Connection
