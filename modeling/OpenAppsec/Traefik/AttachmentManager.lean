import Mathlib.Data.Nat.Notation
import OpenAppsec.Attachment.VerdictTable
import OpenAppsec.Library.Mutexes
import OpenAppsec.Library.Trace
import OpenAppsec.Traefik.ResponseInspector

/-!
# The daemon of the traefik plugin

The attachment manager owns the attachments and the sessions.  Any number of
calls run at once; a step of one of them is a section of a mutex, an operation
on the channel of idle attachments, or the start or the end of a call to the
library.
-/

namespace OpenAppsec.Traefik

open Nano (AttachmentVerdict)

inductive HttpChunkType where
  | requestFilter
  | requestBody
  | requestEnd
  | responseHeader
  | responseBody
  | responseEnd
  deriving DecidableEq

/-- `session`.  Its data are named by the session they were initialised for. -/
structure Session where
  id : Nat
  worker : Nat
  data : Option Nat
  released : Bool
  deriving DecidableEq

/-- What the goroutine of a call has to do. -/
inductive Task where
  | startTransaction
  | finiSession
  | send (chunkType : HttpChunkType) (bodyEmpty : Bool)
  deriving DecidableEq

/-- Where a call is.  In a stage whose name ends in "ing" the call is inside the
library, with the mutex of the worker. -/
inductive Stage where
  | takeId
  | takeSecondId
  | acquire (sid : Nat)
  | queue (sid : Nat)
  | initSession (sid worker : Nat)
  | initialising (sid worker : Nat)
  | giveBack (worker : Nat)
  | register (sid worker : Nat)
  | lookup (id : Nat)
  | lock (s : Nat)
  | check (s : Nat)
  | prepare (s : Nat)
  | send (s : Nat) (data : Option Nat)
  | sending (s : Nat) (data : Option Nat)
  | build (s : Nat) (verdict : AttachmentVerdict) (webResponse : Bool)
  | describing (s : Nat) (data : Option Nat)
  | free (s : Nat) (verdict : Verdict)
  | freeing (s : Nat) (data : Option Nat) (verdict : Verdict)
  | decide (s : Nat) (verdict : Verdict)
  | remove (s : Nat)
  | lockToFinalise (s : Nat)
  | finalise (s : Nat)
  | finalising (s data : Nat)
  | clear (s : Nat)
  | release (s : Nat)
  | unlock (s : Nat)
  | returned
  deriving DecidableEq

structure Call where
  task : Task
  stage : Stage
  deriving DecidableEq

/-- The functions that the server calls. -/
inductive ApiCall where
  | startTransaction
  | sendRequestBody (id : Nat) (body : List UInt8)
  | sendResponseHeaders (id : Nat)
  | sendResponseBody (id : Nat) (body : List UInt8)
  | endRequest (id : Nat)
  | endResponse (id : Nat)
  | finiSession (id : Nat)

def ApiCall.begin : ApiCall → Call
  | .startTransaction => ⟨.startTransaction, .takeId⟩
  | .sendRequestBody id body => ⟨.send .requestBody body.isEmpty, .lookup id⟩
  | .sendResponseHeaders id => ⟨.send .responseHeader false, .lookup id⟩
  | .sendResponseBody id body =>
      ⟨.send .responseBody body.isEmpty, .lookup id⟩
  | .endRequest id => ⟨.send .requestEnd false, .lookup id⟩
  | .endResponse id => ⟨.send .responseEnd false, .lookup id⟩
  | .finiSession id => ⟨.finiSession, .lookup id⟩

/-- `AttachmentManager`, the calls under way, and a record: the sessions whose
data were finalised, and the sessions that a call has finished. -/
structure AttachmentManager where
  workers : Nat
  initialised : Nat
  idle : List Nat
  workerMu : Mutexes.Owners Nat Nat
  sessions : Nat → Option Nat
  nextSessionID : Nat
  created : List Session
  sessionMu : Mutexes.Owners Nat Nat
  calls : List Call
  finalised : List Nat
  finished : List Nat

/-- `NewAttachmentManager`. -/
def newAttachmentManager (numWorkers : Nat) : AttachmentManager where
  workers := numWorkers
  initialised := 0
  idle := []
  workerMu := fun _ => none
  sessions := fun _ => none
  nextSessionID := 0
  created := []
  sessionMu := fun _ => none
  calls := []
  finalised := []
  finished := []

/-- What the channel, the timer or the library answers in a step. -/
inductive Outcome where
  | goesOn
  | timerFires
  | initFails
  | replies (verdict : AttachmentVerdict) (webResponse : Bool)

namespace AttachmentManager

/-- The call goes to a stage. -/
def goTo (m : AttachmentManager) (index : Nat) (call : Call) (stage : Stage) :
    AttachmentManager :=
  { m with calls := m.calls.set index { call with stage := stage } }

/-- `m.nextSessionID.Add(1)`. -/
def nextID (m : AttachmentManager) : Nat :=
  (m.nextSessionID + 1) % 2 ^ 32

/-- Receive from the channel of idle attachments. -/
def receive (m : AttachmentManager) : Option (Nat × AttachmentManager) :=
  match m.idle with
  | [] => none
  | worker :: idle => some (worker, { m with idle := idle })

/-- Send to the channel of idle attachments, which holds as many as there
are. -/
def giveIdle (m : AttachmentManager) (worker : Nat) :
    Option AttachmentManager :=
  if m.idle.length < m.workers then
    some { m with idle := m.idle ++ [worker] }
  else
    none

def lockWorker (m : AttachmentManager) (worker index : Nat) :
    Option AttachmentManager :=
  match m.workerMu worker with
  | none =>
      some { m with
        workerMu := Function.update m.workerMu worker (some index) }
  | some _ => none

def unlockWorker (m : AttachmentManager) (worker : Nat) : AttachmentManager :=
  { m with workerMu := Function.update m.workerMu worker none }

def lockSession (m : AttachmentManager) (s index : Nat) :
    Option AttachmentManager :=
  match m.sessionMu s with
  | none =>
      some { m with sessionMu := Function.update m.sessionMu s (some index) }
  | some _ => none

def unlockSession (m : AttachmentManager) (s : Nat) : AttachmentManager :=
  { m with sessionMu := Function.update m.sessionMu s none }

/-- The session is put into the map under its identifier. -/
def registerSession (m : AttachmentManager) (session : Session) :
    AttachmentManager :=
  { m with
    created := m.created ++ [session]
    sessions := Function.update m.sessions session.id (some m.created.length) }

def removeSession (m : AttachmentManager) (id : Nat) : AttachmentManager :=
  { m with sessions := Function.update m.sessions id none }

/-- The call has finished the session. -/
def finish (m : AttachmentManager) (s : Nat) : AttachmentManager :=
  { m with finished := m.finished ++ [s] }

/-- `FiniSessionData` has returned. -/
def finiSessionData (m : AttachmentManager) (data : Nat) : AttachmentManager :=
  { m with finalised := m.finalised ++ [data] }

def clearData (m : AttachmentManager) (s : Nat) (session : Session) :
    AttachmentManager :=
  { m with created := m.created.set s { session with data := none } }

/-- `s.released.Do`. -/
def release (m : AttachmentManager) (s : Nat) (session : Session) :
    Option AttachmentManager :=
  if session.released then
    some m
  else
    ({ m with
      created := m.created.set s { session with released := true } }).giveIdle
        session.worker

end AttachmentManager

/-- The verdict of the result. -/
def buildResult : AttachmentVerdict → Verdict
  | .accept => .accept
  | .drop => .drop
  | _ => .inspect

/-- `FiniSession` takes the mutex of the session after it has removed the
session; `finalizeLocked` is called with the mutex. -/
def Task.locked : Task → Bool
  | .send _ _ => true
  | _ => false

/-- Whether the call finishes the session after the verdict. -/
def Task.ends (verdict : Verdict) : Task → Bool
  | .send chunkType _ => verdict ≠ .inspect || chunkType = .responseEnd
  | _ => verdict ≠ .inspect

namespace AttachmentManager

/-- The steps of `StartTransaction` until its session is registered. -/
def advanceStart (m : AttachmentManager) (index : Nat) (call : Call)
    (outcome : Outcome) : Stage → Option AttachmentManager
  | .takeId =>
      some ({ m with nextSessionID := m.nextID }.goTo index call
        (if m.nextID = 0 then .takeSecondId else .acquire m.nextID))
  | .takeSecondId =>
      some ({ m with nextSessionID := m.nextID }.goTo index call
        (.acquire m.nextID))
  | .acquire sid =>
      match m.receive with
      | some (worker, m) => some (m.goTo index call (.initSession sid worker))
      | none => some (m.goTo index call (.queue sid))
  | .queue sid =>
      match outcome with
      | .timerFires => some (m.goTo index call .returned)
      | _ => do
          let (worker, m) ← m.receive
          some (m.goTo index call (.initSession sid worker))
  | .initSession sid worker => do
      let m ← m.lockWorker worker index
      some (m.goTo index call (.initialising sid worker))
  | .initialising sid worker =>
      match outcome with
      | .initFails =>
          some ((m.unlockWorker worker).goTo index call (.giveBack worker))
      | _ =>
          some ((m.unlockWorker worker).goTo index call (.register sid worker))
  | .giveBack worker => do
      let m ← m.giveIdle worker
      some (m.goTo index call .returned)
  | .register sid worker =>
      some ((m.registerSession
          { id := sid
            worker := worker
            data := some m.created.length
            released := false }).goTo index call (.prepare m.created.length))
  | _ => none

/-- The steps of `sendChunkWithBody` for a session. -/
def advanceChunk (m : AttachmentManager) (index : Nat) (call : Call)
    (outcome : Outcome) (s : Nat) (session : Session) :
    Stage → Option AttachmentManager
  | .prepare _ => some (m.goTo index call (.send s session.data))
  | .send _ data => do
      let m ← m.lockWorker session.worker index
      some (m.goTo index call (.sending s data))
  | .sending _ _ =>
      match outcome with
      | .replies verdict webResponse =>
          some ((m.unlockWorker session.worker).goTo index call
            (.build s verdict webResponse))
      | _ => none
  | .build _ verdict webResponse =>
      if verdict = .drop ∧ webResponse then do
        let m ← m.lockWorker session.worker index
        some (m.goTo index call (.describing s session.data))
      else
        some (m.goTo index call (.free s (buildResult verdict)))
  | .describing _ _ =>
      some ((m.unlockWorker session.worker).goTo index call (.free s .drop))
  | .free _ verdict => do
      let m ← m.lockWorker session.worker index
      some (m.goTo index call (.freeing s session.data verdict))
  | .freeing _ _ verdict =>
      some ((m.unlockWorker session.worker).goTo index call
        (.decide s verdict))
  | _ => none

/-- The steps of `FiniSession` and `finalizeLocked` for a session. -/
def advanceFini (m : AttachmentManager) (index : Nat) (call : Call) (s : Nat)
    (session : Session) : Stage → Option AttachmentManager
  | .remove _ =>
      some ((m.removeSession session.id).goTo index call
        (if call.task.locked then .finalise s else .lockToFinalise s))
  | .lockToFinalise _ => do
      let m ← m.lockSession s index
      some (m.goTo index call (.finalise s))
  | .finalise _ =>
      match session.data with
      | none =>
          some (m.goTo index call
            (if call.task.locked then .release s else .unlock s))
      | some data => do
          let m ← m.lockWorker session.worker index
          some (m.goTo index call (.finalising s data))
  | .finalising _ data =>
      some (((m.unlockWorker session.worker).finiSessionData data).goTo index
        call (.clear s))
  | .clear _ =>
      some ((m.clearData s session).goTo index call
        (if call.task.locked then .release s else .unlock s))
  | .release _ => do
      let m ← m.release s session
      some (m.goTo index call
        (if call.task.locked then .unlock s else .returned))
  | .unlock _ =>
      some ((m.unlockSession s).goTo index call
        (if call.task.locked then .returned else .release s))
  | _ => none

/-- `getSession`, and what a call does with its answer. -/
def advanceLookup (m : AttachmentManager) (index : Nat) (call : Call)
    (id : Nat) : AttachmentManager :=
  match m.sessions id with
  | none => m.goTo index call .returned
  | some s =>
      if call.task.locked then
        m.goTo index call (.lock s)
      else
        (m.finish s).goTo index call (.remove s)

/-- The steps of a call on a session that are not about a chunk. -/
def advanceSession (m : AttachmentManager) (index : Nat) (call : Call)
    (s : Nat) (session : Session) : Stage → Option AttachmentManager
  | .lock _ => do
      let m ← m.lockSession s index
      some (m.goTo index call (.check s))
  | .check _ =>
      match call.task, session.data with
      | .send _ false, some _ => some (m.goTo index call (.prepare s))
      | _, _ => some (m.goTo index call (.unlock s))
  | .decide _ verdict =>
      if call.task.ends verdict then
        if call.task.locked then
          some ((m.finish s).goTo index call (.remove s))
        else
          some ((m.finish s).advanceLookup index call session.id)
      else if call.task.locked then
        some (m.goTo index call (.unlock s))
      else
        some (m.goTo index call .returned)
  | _ => none

end AttachmentManager

/-- The session that a stage is about. -/
def Stage.session : Stage → Option Nat
  | .lock s | .check s | .prepare s | .send s _ | .sending s _
  | .build s _ _ | .describing s _ | .free s _ | .freeing s _ _
  | .decide s _ | .remove s | .lockToFinalise s | .finalise s
  | .finalising s _ | .clear s | .release s | .unlock s => some s
  | _ => none

/-- A step of a call. -/
def AttachmentManager.advance (m : AttachmentManager) (index : Nat)
    (outcome : Outcome) : Option AttachmentManager := do
  let call ← m.calls[index]?
  match call.stage with
  | .lookup id => some (m.advanceLookup index call id)
  | stage =>
      match stage.session with
      | none => m.advanceStart index call outcome stage
      | some s => do
          let session ← m.created[s]?
          (m.advanceSession index call s session stage).or
            ((m.advanceChunk index call outcome s session stage).or
              (m.advanceFini index call s session stage))

inductive Input where
  | initialise
  | call (api : ApiCall)
  | collect (id : Nat)
  | advance (index : Nat) (outcome : Outcome)

/-- `Init` hands over the next attachment, a call comes in, the collector picks
a registered session, or a call goes a step further. -/
def AttachmentManager.step (m : AttachmentManager) :
    Input → Option AttachmentManager
  | .initialise =>
      if m.initialised < m.workers then
        { m with initialised := m.initialised + 1 }.giveIdle m.initialised
      else
        none
  | .call api => some { m with calls := m.calls ++ [api.begin] }
  | .collect id =>
      if m.sessions id = none then
        none
      else
        some { m with calls := m.calls ++ [(ApiCall.finiSession id).begin] }
  | .advance index outcome => m.advance index outcome

end OpenAppsec.Traefik
