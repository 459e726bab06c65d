import OpenAppsec.Attachment.Replies
import OpenAppsec.Attachment.Senders
import OpenAppsec.Library.FueledLoop
import Mathlib.Logic.Function.Basic

/-!
# The reply receiver of the nano attachment

`service_reply_receiver` from the acknowledgement of the service on.  The
service sends nothing more meanwhile, so a queue that is empty stays empty.
-/

namespace OpenAppsec.Nano

open CountedReader FueledLoop

/-- The two channels to the service. -/
inductive ServiceIpc where
  | nanoServiceIpc
  | nanoServiceSyncIpc
  deriving DecidableEq

/-- A channel that is not there holds no replies. -/
structure NanoAttachment where
  isAsyncModeEnabled : Bool
  currentConfigVersion : Nat
  queue : ServiceIpc → List Delivery

structure HttpSessionData where
  sessionId : BitVec 32
  verdict : ServiceVerdict
  remainingMessagesToReply : Nat

structure ReceiverState (ω : Type*) where
  attachment : NanoAttachment
  sessionData : HttpSessionData
  webResponseData : ω
  modificationList : List ModificationNode

def getNanoServiceIpc (attachment : NanoAttachment)
    (usageMode : SignalUsageMode) : ServiceIpc :=
  if attachment.isAsyncModeEnabled = false then .nanoServiceIpc
  else if usageMode = .async then .nanoServiceIpc
  else .nanoServiceSyncIpc

def popData (ipc : ServiceIpc) (attachment : NanoAttachment) :
    NanoAttachment :=
  { attachment with
    queue := Function.update attachment.queue ipc
      (attachment.queue ipc).tail }

def receiveDataFromService (attachment : NanoAttachment)
    (usageMode : SignalUsageMode) : Option Delivery :=
  (attachment.queue (getNanoServiceIpc attachment usageMode)).head?

/-- Only an empty list keeps the new node: the search for the end of the list
moves the head of the list itself. -/
def handleInjectResponse (malloc : Nat → Bool) :
    Nat → List ModificationNode → List HttpInjectData → List ModificationNode
  | _, modificationList, [] => modificationList
  | index, modificationList, modification :: modifications =>
      match createModificationNode (malloc index) modification with
      | none => []
      | some node =>
          handleInjectResponse malloc (index + 1)
            (if modificationList = [] then [node] else []) modifications

/-- `none` if a node has to be released: `modification.data` is an array
inside of the node, and no pointer that `free` accepts. -/
def freeModificationData :
    List ModificationNode → Option (List ModificationNode)
  | [] => some []
  | _ :: _ => none

def resetAttachmentConfig (loadedAsyncMode : Option Bool)
    (attachment : NanoAttachment) : NanoAttachment :=
  { attachment with
    currentConfigVersion := attachment.currentConfigVersion + 1
    isAsyncModeEnabled :=
      loadedAsyncMode.getD attachment.isAsyncModeEnabled }

/-- How a call ends. -/
inductive Return (ω : Type*) where
  | returned (result : NanoCommunicationResult) (state : ReceiverState ω)
  | invalidFree

section Receiver

variable {ω : Type*} (handlers : ResponseHandlers ω)
  (usageMode : SignalUsageMode)

/-- `popData` on the channel in use. -/
def ReceiverState.pop (state : ReceiverState ω) : ReceiverState ω :=
  { state with
    attachment :=
      popData (getNanoServiceIpc state.attachment usageMode)
        state.attachment }

def ReceiverState.setVerdict (verdict : ServiceVerdict)
    (state : ReceiverState ω) : ReceiverState ω :=
  { state with sessionData := { state.sessionData with verdict } }

def ReceiverState.setRemaining (remaining : Nat) (state : ReceiverState ω) :
    ReceiverState ω :=
  { state with
    sessionData :=
      { state.sessionData with remainingMessagesToReply := remaining } }

/-- The switch over the verdict and the pop after it. -/
def handleVerdict (delivery : Delivery) (state : ReceiverState ω) :
    ReceiverState ω ⊕ Return ω :=
  match delivery.reply.verdict with
  | .inject =>
      .inl <|
        ({ state with
          modificationList :=
            handleInjectResponse delivery.malloc 0 state.modificationList
              delivery.reply.injectData }.setVerdict .inspect).pop usageMode
  | .drop =>
      let state := { state with
        webResponseData :=
          handlers.handleDropResponse delivery state.webResponseData }
      let state := state.setRemaining 0
      match freeModificationData state.modificationList with
      | none => .inr .invalidFree
      | some modificationList =>
          .inr <| .returned .httpForbidden
            ({ state with modificationList }.pop usageMode)
  | .customResponse =>
      let state := { state with
        webResponseData :=
          handlers.handleCustomResponse delivery state.webResponseData }
      let state := state.setRemaining 0
      match freeModificationData state.modificationList with
      | none => .inr .invalidFree
      | some modificationList =>
          .inr <| .returned .httpForbidden
            { state with
              modificationList
              attachment := popData .nanoServiceIpc state.attachment }
  | .accept => .inr <| .returned .ok ((state.setRemaining 0).pop usageMode)
  | .reconf =>
      .inl <|
        { state with
          attachment := resetAttachmentConfig delivery.loadedAsyncMode
            state.attachment }.pop usageMode
  | .limitResponseHeaders =>
      .inl <| (state.setVerdict .inspect).pop usageMode
  | .irrelevant | .inspect | .delayed | .other _ =>
      .inl <| state.pop usageMode

/-- One pass of the loop over the expected replies. -/
def receiveReply (state : ReceiverState ω) :
    ReceiverState ω ⊕ Return ω :=
  let sessionData := state.sessionData
  if sessionData.remainingMessagesToReply = 0 then
    .inr <| .returned .ok state
  else
    match receiveDataFromService state.attachment usageMode with
    | none => .inr <| .returned .error state
    | some delivery =>
        let verdict := delivery.reply.verdict
        if verdict ≠ .reconf then
          if delivery.reply.sessionId ≠ sessionData.sessionId then
            .inl <| state.pop usageMode
          else
            handleVerdict handlers usageMode delivery
              ((state.setRemaining
                (sessionData.remainingMessagesToReply - 1)).setVerdict
                  verdict)
        else
          handleVerdict handlers usageMode delivery (state.setVerdict verdict)

/-- More than the passes that the loop makes over the two queues. -/
def passes (attachment : NanoAttachment) : Nat :=
  2 * ((attachment.queue .nanoServiceIpc).length +
    (attachment.queue .nanoServiceSyncIpc).length) + 2

def serviceReplyReceiver (state : ReceiverState ω) : Option (Return ω) :=
  if state.sessionData.remainingMessagesToReply = 0 then
    some <| .returned .ok (state.setVerdict .inspect)
  else
    runLoop (receiveReply handlers usageMode) (passes state.attachment) state

end Receiver

section Pops

variable {ω : Type*} {handlers : ResponseHandlers ω}
  {usageMode : SignalUsageMode}

/-- The channel that a call reads from. -/
def ReceiverState.channel (usageMode : SignalUsageMode)
    (state : ReceiverState ω) : ServiceIpc :=
  getNanoServiceIpc state.attachment usageMode

/-- No queue grows. -/
def Shrinks (before after : NanoAttachment) : Prop :=
  ∀ ipc, (after.queue ipc).length ≤ (before.queue ipc).length

theorem popData_shrinks (ipc : ServiceIpc) (attachment : NanoAttachment) :
    Shrinks attachment (popData ipc attachment) := by
  intro other
  unfold popData
  by_cases popped : other = ipc
  · subst popped
    simp only [Function.update_self, List.length_tail]
    exact Nat.sub_le _ _
  · simp only [Function.update_of_ne popped]
    exact Nat.le_refl _

/-- A pass that goes on pops from the channel in use, and no queue grows in a
pass that returns. -/
def PassPops (usageMode : SignalUsageMode) (attachment : NanoAttachment) :
    ReceiverState ω ⊕ Return ω → Prop
  | .inl after =>
      ∃ changed : ReceiverState ω, after = changed.pop usageMode ∧
        changed.attachment.queue = attachment.queue
  | .inr (.returned _ final) => Shrinks attachment final.attachment
  | .inr .invalidFree => True

theorem handleVerdict_pops (delivery : Delivery) (state : ReceiverState ω) :
    PassPops usageMode state.attachment
      (handleVerdict handlers usageMode delivery state) := by
  unfold handleVerdict
  cases delivery.reply.verdict with
  | drop =>
      dsimp only
      cases freeModificationData _ with
      | none => trivial
      | some list => exact popData_shrinks _ _
  | customResponse =>
      dsimp only
      cases freeModificationData _ with
      | none => trivial
      | some list => exact popData_shrinks _ _
  | accept => exact popData_shrinks _ _
  | inspect => exact ⟨_, rfl, rfl⟩
  | inject => exact ⟨_, rfl, rfl⟩
  | irrelevant => exact ⟨_, rfl, rfl⟩
  | reconf => exact ⟨_, rfl, rfl⟩
  | delayed => exact ⟨_, rfl, rfl⟩
  | limitResponseHeaders => exact ⟨_, rfl, rfl⟩
  | other code => exact ⟨_, rfl, rfl⟩

variable (handlers usageMode) in
theorem receiveReply_pops (state : ReceiverState ω) :
    PassPops usageMode state.attachment
      (receiveReply handlers usageMode state) := by
  unfold receiveReply
  dsimp only
  split
  · exact fun _ => Nat.le_refl _
  split
  · exact fun _ => Nat.le_refl _
  split
  · split
    · exact ⟨state, rfl, rfl⟩
    · exact handleVerdict_pops _ _
  · exact handleVerdict_pops _ _

theorem runLoop_shrinks {fuel : Nat} {state final : ReceiverState ω}
    {result : NanoCommunicationResult}
    (returned : runLoop (receiveReply handlers usageMode) fuel state =
      some (.returned result final)) :
    Shrinks state.attachment final.attachment := by
  refine runLoop_invariant
    (fun current => Shrinks state.attachment current.attachment)
    (fun outcome : Return ω =>
      PassPops usageMode state.attachment (.inr outcome))
    ?_ ?_ (fun _ => Nat.le_refl _) returned
  · intro current next shrunk pass ipc
    have step := receiveReply_pops handlers usageMode current
    rw [pass] at step
    obtain ⟨changed, rfl, queue⟩ := step
    have popped := popData_shrinks
      (getNanoServiceIpc changed.attachment usageMode) changed.attachment ipc
    rw [queue] at popped
    exact Nat.le_trans popped (shrunk ipc)
  · intro current outcome shrunk pass
    have step := receiveReply_pops handlers usageMode current
    rw [pass] at step
    cases outcome with
    | invalidFree => trivial
    | returned result last =>
        intro ipc
        exact Nat.le_trans (step ipc) (shrunk ipc)

/-- The passes that are left: two for each reply, and one for a channel in use
that is not empty. -/
def passesLeft (usageMode : SignalUsageMode) (state : ReceiverState ω) : Nat :=
  2 * ((state.attachment.queue .nanoServiceIpc).length +
      (state.attachment.queue .nanoServiceSyncIpc).length) +
    min 1 (state.attachment.queue (state.channel usageMode)).length

/-- A pass that goes on finds a reply. -/
theorem receiveReply_finds {state after : ReceiverState ω}
    (pass : receiveReply handlers usageMode state = .inl after) :
    state.attachment.queue (state.channel usageMode) ≠ [] := by
  intro empty
  have none : receiveDataFromService state.attachment usageMode = none := by
    unfold receiveDataFromService
    exact List.head?_eq_none_iff.mpr empty
  unfold receiveReply at pass
  rw [none] at pass
  dsimp only at pass
  split at pass
  · cases pass
  · cases pass

theorem receiveReply_decreases {state after : ReceiverState ω}
    (pass : receiveReply handlers usageMode state = .inl after) :
    passesLeft usageMode after < passesLeft usageMode state := by
  have finds := List.length_pos_iff.mpr (receiveReply_finds pass)
  have step := receiveReply_pops handlers usageMode state
  rw [pass] at step
  obtain ⟨changed, rfl, queue⟩ := step
  have used : (changed.pop usageMode).channel usageMode =
      changed.channel usageMode := rfl
  have popped : (changed.pop usageMode).attachment.queue =
      Function.update state.attachment.queue (changed.channel usageMode)
        (state.attachment.queue (changed.channel usageMode)).tail := by
    rw [← queue]
    rfl
  unfold passesLeft
  rw [Nat.min_eq_left finds, used, popped, Function.update_self]
  cases channel : changed.channel usageMode with
  | nanoServiceIpc =>
      rw [Function.update_self, Function.update_of_ne (by simp)]
      cases state.attachment.queue .nanoServiceIpc with
      | nil => simp
      | cons head tail =>
          simp only [List.tail_cons, List.length_cons]
          omega
  | nanoServiceSyncIpc =>
      rw [Function.update_self, Function.update_of_ne (by simp)]
      cases state.attachment.queue .nanoServiceSyncIpc with
      | nil => simp
      | cons head tail =>
          simp only [List.tail_cons, List.length_cons]
          omega

theorem serviceReplyReceiver_returns (state : ReceiverState ω) :
    ∃ outcome, serviceReplyReceiver handlers usageMode state =
      some outcome := by
  unfold serviceReplyReceiver
  split
  · exact ⟨_, rfl⟩
  · apply runLoop_returns (passesLeft usageMode)
    · intro current next pass
      exact receiveReply_decreases pass
    · unfold passesLeft passes
      omega

end Pops

end OpenAppsec.Nano
