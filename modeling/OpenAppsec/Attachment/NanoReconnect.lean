import OpenAppsec.Attachment.NanoConnection

/-!
# What is open between the steps of an attachment

Whatever the system answers, an attachment keeps track of what it opens: a
descriptor or channel is open just when one field names it, and none is closed
twice but by the keep-alive signal.  A channel is there only with its socket,
so the check before a message finds the connection ready or fails.
-/

namespace OpenAppsec.Nano.Connection

open BlockLedger

/-- An operation opens and closes in order. -/
structure Books (before after : NanoAttachment) : Prop where
  sound : after.holdings.Sound
  faults : after.holdings.ledger.faults = before.holdings.ledger.faults
  fresh : before.holdings.ledger.fresh ≤ after.holdings.ledger.fresh
  uniqueId : after.uniqueId = before.uniqueId

/-- It does so for some of the fields only, and leaves the mode. -/
structure Moves (touched : Resource → Prop) (before after : NanoAttachment) :
    Prop extends Books before after where
  kept : ∀ resource, ¬touched resource →
    after.held resource = before.held resource
  named : ∀ resource, ¬touched resource →
    after.channelName resource = before.channelName resource
  mode : after.isAsyncModeEnabled = before.isAsyncModeEnabled

/-- All resources may change. -/
def Anything (_ : Resource) : Prop :=
  True

variable {touched : Resource → Prop} {before after last : NanoAttachment}

theorem Books.refl (sound : before.holdings.Sound) : Books before before where
  sound := sound
  faults := rfl
  fresh := Nat.le_refl _
  uniqueId := rfl

theorem Books.trans (first : Books before after) (second : Books after last) :
    Books before last where
  sound := second.sound
  faults := second.faults.trans first.faults
  fresh := Nat.le_trans first.fresh second.fresh
  uniqueId := second.uniqueId.trans first.uniqueId

namespace Moves

theorem refl (sound : before.holdings.Sound) : Moves touched before before where
  toBooks := .refl sound
  kept := fun _ _ => rfl
  named := fun _ _ => rfl
  mode := rfl

theorem trans (first : Moves touched before after)
    (second : Moves touched after last) : Moves touched before last where
  toBooks := first.toBooks.trans second.toBooks
  kept := fun resource apart =>
    (second.kept resource apart).trans (first.kept resource apart)
  named := fun resource apart =>
    (second.named resource apart).trans (first.named resource apart)
  mode := second.mode.trans first.mode

theorem mono {wider : Resource → Prop} (moves : Moves touched before after)
    (within : ∀ resource, touched resource → wider resource) :
    Moves wider before after where
  toBooks := moves.toBooks
  kept := fun resource apart =>
    moves.kept resource (fun inside => apart (within resource inside))
  named := fun resource apart =>
    moves.named resource (fun inside => apart (within resource inside))
  mode := moves.mode

theorem anything (moves : Moves touched before after) :
    Moves Anything before after :=
  moves.mono fun _ _ => trivial

end Moves

namespace NanoAttachment

variable {resource : Resource}

theorem ask_moves (sound : before.holdings.Sound) :
    Moves touched before before.ask.2 where
  sound := sound
  faults := rfl
  fresh := Nat.le_refl _
  kept := fun _ _ => rfl
  named := fun _ _ => rfl
  mode := rfl
  uniqueId := rfl

@[simp] theorem held_ask (attachment : NanoAttachment) (resource : Resource) :
    attachment.ask.2.held resource = attachment.held resource :=
  rfl

theorem acquire_moves (sound : before.holdings.Sound)
    (empty : before.held resource = none) (inside : touched resource) :
    Moves touched before (before.acquire resource) where
  sound := sound.acquire empty
  faults := rfl
  fresh := Nat.le_succ _
  kept := by
    intro other apart
    refine Holdings.held_acquire_of_ne ?_ _
    rintro rfl
    exact apart inside
  named := fun _ _ => rfl
  mode := rfl
  uniqueId := rfl

@[simp] theorem isSome_held_acquire (attachment : NanoAttachment)
    (resource : Resource) :
    ((attachment.acquire resource).held resource).isSome = true := by
  simp [acquire, held]

theorem surrender_moves (sound : before.holdings.Sound)
    (inside : touched resource) :
    Moves touched before (before.surrender resource) where
  sound := sound.surrender resource
  faults := sound.faults_surrender resource
  fresh := by
    simp only [surrender, Holdings.surrender]
    cases names : before.holdings.held resource with
    | none => exact Nat.le_refl _
    | some block =>
        dsimp only
        exact Nat.le_of_eq (by rw [sound.release_eq names])
  kept := by
    intro other apart
    refine Holdings.held_surrender_of_ne ?_ _
    rintro rfl
    exact apart inside
  named := fun _ _ => rfl
  mode := rfl
  uniqueId := rfl

@[simp] theorem held_surrender (attachment : NanoAttachment)
    (resource : Resource) :
    (attachment.surrender resource).held resource = none :=
  Holdings.held_surrender_self ..

theorem held_surrender_of_none (empty : before.held resource = none)
    (other : Resource) :
    (before.surrender other).held resource = none := by
  by_cases same : resource = other
  · rw [same, held_surrender]
  · exact (Holdings.held_surrender_of_ne same before.holdings).trans empty

theorem connectSocket_moves (sound : before.holdings.Sound)
    (empty : before.held resource = none) (inside : touched resource) :
    let connected := connectSocket resource before
    Moves touched before connected.2 ∧
      (connected.1 = some .ok → (connected.2.held resource).isSome) := by
  simp only [connectSocket]
  have socket : Moves touched before before.ask.2 := ask_moves sound
  split
  · exact ⟨socket, nofun⟩
  · have acquired := socket.trans
      (acquire_moves socket.sound empty inside)
    have goesOn := acquired.trans (ask_moves acquired.sound)
    split
    · exact ⟨goesOn, nofun⟩
    · exact ⟨goesOn.trans (ask_moves goesOn.sound), fun _ => by simp⟩

theorem connectToCommSocket_moves (sound : before.holdings.Sound)
    (inside : touched resource) :
    let connected := connectToCommSocket resource before
    Moves touched before connected.2 ∧
      (connected.1 = some .ok → (connected.2.held resource).isSome) := by
  simp only [connectToCommSocket]
  have goesOn : Moves touched before before.ask.2 := ask_moves sound
  split
  · exact ⟨goesOn, nofun⟩
  · have closed := goesOn.trans
      (surrender_moves goesOn.sound inside)
    have connected := connectSocket_moves closed.sound (held_surrender _ _)
      inside
    exact ⟨closed.trans connected.1, connected.2⟩

/-- The two sockets to the service. -/
abbrev CommSockets (resource : Resource) : Prop :=
  resource = .commSocket ∨ resource = .commSocketSync

theorem comm_inside : CommSockets .commSocket :=
  .inl rfl

theorem sync_inside : CommSockets .commSocketSync :=
  .inr rfl

theorem registrationCommSocketThread_moves (sound : before.holdings.Sound) :
    let ran := registrationCommSocketThread before
    Moves CommSockets before ran.2 ∧
      (ran.1 = some .ok → before.isAsyncModeEnabled = true →
        (ran.2.held .commSocketSync).isSome) := by
  have comm := connectToCommSocket_moves sound comm_inside
  simp only [registrationCommSocketThread]
  split
  · have sync := connectToCommSocket_moves comm.1.sound sync_inside
    exact ⟨comm.1.trans sync.1, fun done _ => sync.2 done⟩
  · rename_i alone
    refine ⟨comm.1, ?_⟩
    intro done async
    refine absurd ⟨?_, comm.1.mode.trans async⟩ alone
    rw [done]
    rfl

theorem runInThreadTimeout_moves
    (routine :
      NanoAttachment → Option NanoCommunicationResult × NanoAttachment)
    (outcome : NanoAttachment → Prop) (sound : before.holdings.Sound)
    (outcome_ask : ∀ attachment : NanoAttachment,
      outcome attachment → outcome attachment.ask.2)
    (routine_moves : Moves touched before.ask.2 (routine before.ask.2).2 ∧
      ((routine before.ask.2).1 = some .ok →
        outcome (routine before.ask.2).2)) :
    let ran := runInThreadTimeout routine before
    Moves touched before ran.2 ∧ (ran.1 = some .ok → outcome ran.2) := by
  simp only [runInThreadTimeout]
  have starts : Moves touched before before.ask.2 := ask_moves sound
  split
  · exact ⟨starts, nofun⟩
  · have ran := starts.trans routine_moves.1
    refine ⟨ran.trans (ask_moves ran.sound), ?_⟩
    intro done
    split at done
    · exact outcome_ask _ (routine_moves.2 done)
    · cases done

theorem exchange_moves (sound : before.holdings.Sound)
    (inside : touched resource) :
    let exchanged := exchange resource before
    Moves touched before exchanged.2 ∧
      (exchanged.1 = true →
        ∀ other, exchanged.2.held other = before.held other) ∧
      (exchanged.1 = true → (before.held resource).isSome) := by
  simp only [exchange]
  have moved : Moves touched before before.ask.2 := ask_moves sound
  split
  · rename_i there
    exact ⟨moved, fun _ _ => rfl, fun _ => there.1⟩
  · exact ⟨moved.trans (surrender_moves moved.sound inside), nofun, nofun⟩

theorem exchanges_moves (sound : before.holdings.Sound)
    (inside : touched resource) (number : Nat) :
    let exchanged := exchanges resource number before
    Moves touched before exchanged.2 ∧
      (exchanged.1 = true →
        ∀ other, exchanged.2.held other = before.held other) := by
  induction number generalizing before with
  | zero => exact ⟨.refl sound, fun _ _ => rfl⟩
  | succ number induction =>
      simp only [exchanges]
      obtain ⟨first, same, -⟩ :=
        exchange_moves sound inside
      split
      · rename_i succeeds
        obtain ⟨rest, sameRest⟩ := induction first.sound
        refine ⟨first.trans rest, ?_⟩
        intro done other
        exact (sameRest done other).trans (same succeeds other)
      · rename_i fails
        exact ⟨first, fun succeeds => absurd succeeds fails⟩

theorem failSignaling_moves (sound : before.holdings.Sound) :
    Moves CommSockets before before.failSignaling.2 := by
  have closed := surrender_moves sound comm_inside
  exact
    { sound := closed.sound
      faults := closed.faults
      fresh := closed.fresh
      kept := closed.kept
      named := closed.named
      mode := closed.mode
      uniqueId := closed.uniqueId }

/-- The sockets that the mode needs are there. -/
structure Signaled (attachment : NanoAttachment) : Prop where
  comm : (attachment.held .commSocket).isSome
  sync : attachment.isAsyncModeEnabled = true →
    (attachment.held .commSocketSync).isSome

theorem initSignalingSocket_moves (sound : before.holdings.Sound) :
    let signaled := initSignalingSocket before
    Moves CommSockets before signaled.2 ∧
      (signaled.1 ≠ .error → signaled.1 = .ok ∧ Signaled signaled.2) := by
  obtain ⟨thread, sockets⟩ := runInThreadTimeout_moves
    registrationCommSocketThread
    (fun ran => before.isAsyncModeEnabled = true →
      (ran.held .commSocketSync).isSome)
    sound (fun _ there => there)
    (registrationCommSocketThread_moves (show before.ask.2.holdings.Sound from
      sound))
  simp only [initSignalingSocket]
  split
  · exact ⟨thread.trans (failSignaling_moves thread.sound),
      fun noError => absurd rfl noError⟩
  · rename_i started
    rw [not_not] at started
    obtain ⟨sent, sameSent⟩ := exchanges_moves thread.sound comm_inside 4
    rw [← sendCommDataToCommSocket] at sent sameSent
    have sentSoFar := thread.trans sent
    split
    · exact ⟨sentSoFar.trans (failSignaling_moves sent.sound),
        fun noError => absurd rfl noError⟩
    · rename_i succeeds
      obtain ⟨acked, sameAcked, there⟩ :=
        exchange_moves sent.sound comm_inside
      have ackedSoFar := sentSoFar.trans acked
      split
      · exact ⟨ackedSoFar.trans (failSignaling_moves acked.sound),
          fun noError => absurd rfl noError⟩
      · rename_i answered
        have success : (exchange .commSocket
            (sendCommDataToCommSocket (runInThreadTimeout
              registrationCommSocketThread before).2).2).1 = true := by
          simpa using answered
        refine ⟨ackedSoFar, fun _ => ⟨rfl, ?_, ?_⟩⟩
        · rw [sameAcked success]
          exact there success
        · intro async
          rw [sameAcked success, sameSent (by simpa using succeeds)]
          exact sockets started (ackedSoFar.mode.symm.trans async)

abbrev RegistrationSocket (resource : Resource) : Prop :=
  resource = .registrationSocket

theorem registration_inside : RegistrationSocket .registrationSocket :=
  rfl

theorem readVerdictSignalPath_moves (sound : before.holdings.Sound) :
    Moves RegistrationSocket before
      (readVerdictSignalPathFromRegistrationSocket before).2 := by
  have length := (exchange_moves sound registration_inside).1
  simp only [readVerdictSignalPathFromRegistrationSocket]
  split
  · exact length
  · have fits := length.trans (ask_moves length.sound)
    split
    · exact fits
    · exact fits.trans (exchange_moves fits.sound registration_inside).1

theorem registerToAttachmentsManager_moves (sound : before.holdings.Sound) :
    Moves RegistrationSocket before
      (registerToAttachmentsManager before).2 := by
  have closing {attachment : NanoAttachment}
      (moves : Moves RegistrationSocket before attachment) :
      Moves RegistrationSocket before
        (attachment.surrender .registrationSocket) :=
    moves.trans (surrender_moves moves.sound registration_inside)
  have closed := closing (.refl sound)
  have starts : Moves RegistrationSocket before
      (before.surrender .registrationSocket).ask.2 :=
    closed.trans (ask_moves closed.sound)
  have connected := connectSocket_moves starts.sound
    (held_surrender before .registrationSocket) registration_inside
  have thread := closed.trans (runInThreadTimeout_moves
    registrationSocketThread (fun _ => True) closed.sound
    (fun _ _ => trivial) ⟨connected.1, fun _ => trivial⟩).1
  simp only [registerToAttachmentsManager]
  split
  · exact closing thread
  · have sent := thread.trans
      (exchanges_moves thread.sound registration_inside
        (if (runInThreadTimeout registrationSocketThread
          (before.surrender .registrationSocket)).2.containerId = "" then 4
        else 5)).1
    split
    · exact closing sent
    · exact closing (sent.trans (readVerdictSignalPath_moves sent.sound))

/-- The two sockets to the service and the one for the registration. -/
abbrev Sockets (resource : Resource) : Prop :=
  CommSockets resource ∨ RegistrationSocket resource

theorem signalAgain_moves (sound : before.holdings.Sound) :
    let signaled := signalAgain before
    Moves Sockets before signaled.2 ∧
      (signaled.1 ≠ .error → signaled.1 = .ok ∧ Signaled signaled.2) := by
  have first := initSignalingSocket_moves sound
  have firstMoves : Moves Sockets before (initSignalingSocket before).2 :=
    first.1.mono fun _ => .inl
  simp only [signalAgain]
  split
  · have registered := firstMoves.trans
      ((registerToAttachmentsManager_moves firstMoves.sound).mono
        fun _ => .inr)
    split
    · rename_i fails
      exact ⟨registered, fun succeeds => absurd fails succeeds⟩
    · have second := initSignalingSocket_moves registered.sound
      exact ⟨registered.trans (second.1.mono fun _ => .inl), second.2⟩
  · exact ⟨firstMoves, first.2⟩

theorem initIpc_moves (sound : before.holdings.Sound) (name : String)
    (empty : before.held resource = none) :
    let made := initIpc resource name before
    Moves (· = resource) before made.2 ∧
      (made.1 = true →
        made.2.held resource = some before.holdings.ledger.fresh ∧
          made.2.channelName resource = name) ∧
      (made.1 = false → made.2.held resource = none) := by
  simp only [initIpc]
  have made : Moves (· = resource) before before.ask.2 := ask_moves sound
  split
  · have acquired := made.trans (acquire_moves made.sound empty rfl)
    refine ⟨?_, fun _ => ⟨?_, ?_⟩, nofun⟩
    · exact
        { sound := acquired.sound
          faults := acquired.faults
          fresh := acquired.fresh
          kept := acquired.kept
          named := fun other apart => Function.update_of_ne apart ..
          mode := acquired.mode
          uniqueId := acquired.uniqueId }
    · exact Holdings.held_acquire_self ..
    · exact Function.update_self ..
  · rename_i fails
    exact ⟨made, fun succeeds => absurd succeeds fails, fun _ => empty⟩

/-- A channel is there only with its socket, and the second only with the
first.  The second still has a name of its own if it was there at the
origin. -/
structure Linked (origin attachment : NanoAttachment) : Prop where
  ipc : (attachment.held .nanoServiceIpc).isSome →
    (attachment.held .commSocket).isSome ∧
      attachment.channelName .nanoServiceIpc = attachment.uniqueId
  sync : (attachment.held .nanoServiceSyncIpc).isSome →
    (attachment.held .nanoServiceIpc).isSome ∧
      (attachment.held .commSocketSync).isSome
  name : ∀ block, attachment.held .nanoServiceSyncIpc = some block →
    (origin.held .nanoServiceSyncIpc = some block ∧
        attachment.channelName .nanoServiceSyncIpc =
          attachment.uniqueId ++ "_sync") ∨
      (origin.holdings.ledger.fresh ≤ block ∧
        attachment.channelName .nanoServiceSyncIpc = attachment.uniqueId)

variable {origin : NanoAttachment}

theorem Linked.isIpcReady (linked : Linked origin before)
    (ipc : (before.held .nanoServiceIpc).isSome)
    (sync : before.isAsyncModeEnabled = true →
      (before.held .nanoServiceSyncIpc).isSome) :
    before.isIpcReady = true := by
  have comm := (linked.ipc ipc).1
  rw [NanoAttachment.isIpcReady]
  cases async : before.isAsyncModeEnabled with
  | false => simp [ipc, comm]
  | true =>
      have there := sync async
      simp [ipc, comm, there, (linked.sync there).2]

theorem linked_of_none (noIpc : before.held .nanoServiceIpc = none)
    (noSync : before.held .nanoServiceSyncIpc = none) :
    Linked origin before where
  ipc := by simp [noIpc]
  sync := by simp [noSync]
  name := by simp [noSync]

theorem Linked.ask (linked : Linked origin before) :
    Linked origin before.ask.2 where
  ipc := linked.ipc
  sync := linked.sync
  name := linked.name

theorem disconnectCommunication_moves (sound : before.holdings.Sound) :
    Moves Anything before before.disconnectCommunication := by
  have closing {attachment : NanoAttachment} (resource : Resource)
      (moves : Moves Anything before attachment) :
      Moves Anything before (attachment.surrender resource) :=
    moves.trans (surrender_moves moves.sound trivial)
  exact closing _ (closing _ (closing _ (closing _ (.refl sound))))

theorem disconnectCommunication_linked (attachment : NanoAttachment) :
    Linked origin attachment.disconnectCommunication :=
  linked_of_none (held_surrender_of_none (held_surrender _ _) _)
    (held_surrender _ _)

theorem initIpc_linked (sound : before.holdings.Sound)
    (comm : (before.held .commSocket).isSome)
    (noIpc : before.held .nanoServiceIpc = none)
    (noSync : before.held .nanoServiceSyncIpc = none) :
    Linked origin (initIpc .nanoServiceIpc before.uniqueId before).2 := by
  obtain ⟨moves, made, failed⟩ := initIpc_moves sound before.uniqueId noIpc
  have stillNoSync :
      (initIpc .nanoServiceIpc before.uniqueId before).2.held
        .nanoServiceSyncIpc = none :=
    (moves.kept .nanoServiceSyncIpc nofun).trans noSync
  cases succeeds : (initIpc .nanoServiceIpc before.uniqueId before).1 with
  | false => exact linked_of_none (failed succeeds) stillNoSync
  | true =>
      exact
        { ipc := by
            intro _
            rw [moves.kept .commSocket nofun, (made succeeds).2,
              moves.uniqueId]
            exact ⟨comm, rfl⟩
          sync := by simp [stillNoSync]
          name := by simp [stillNoSync] }

/-- The second channel, behind the first and its socket. -/
theorem initIpc_linked_sync (sound : before.holdings.Sound)
    (linked : Linked origin before)
    (ipc : (before.held .nanoServiceIpc).isSome)
    (comm : (before.held .commSocketSync).isSome)
    (noSync : before.held .nanoServiceSyncIpc = none) {name : String}
    (fits :
      (origin.held .nanoServiceSyncIpc = some before.holdings.ledger.fresh ∧
          name = before.uniqueId ++ "_sync") ∨
        (origin.holdings.ledger.fresh ≤ before.holdings.ledger.fresh ∧
          name = before.uniqueId)) :
    Linked origin (initIpc .nanoServiceSyncIpc name before).2 := by
  obtain ⟨moves, made, failed⟩ := initIpc_moves sound name noSync
  have first : ((initIpc .nanoServiceSyncIpc name before).2.held
        .commSocket).isSome ∧
      (initIpc .nanoServiceSyncIpc name before).2.channelName
          .nanoServiceIpc =
        (initIpc .nanoServiceSyncIpc name before).2.uniqueId := by
    rw [moves.kept .commSocket nofun, moves.named .nanoServiceIpc nofun,
      moves.uniqueId]
    exact linked.ipc ipc
  refine ⟨fun _ => first, ?_, ?_⟩
  · intro _
    rw [moves.kept .nanoServiceIpc nofun, moves.kept .commSocketSync nofun]
    exact ⟨ipc, comm⟩
  · intro block there
    cases succeeds : (initIpc .nanoServiceSyncIpc name before).1 with
    | false => cases there.symm.trans (failed succeeds)
    | true =>
        obtain ⟨held, named⟩ := made succeeds
        cases there.symm.trans held
        rw [named, moves.uniqueId]
        exact fits

/-- The channels are opened behind their sockets, one after the other. -/
theorem initChannels_moves (sound : before.holdings.Sound)
    (later : origin.holdings.ledger.fresh ≤ before.holdings.ledger.fresh)
    (sockets : Signaled before)
    (noIpc : before.held .nanoServiceIpc = none)
    (noSync : before.held .nanoServiceSyncIpc = none) :
    let opened := initChannels before
    Moves Anything before opened.2 ∧ Linked origin opened.2 ∧
      (opened.1 ≠ .error →
        opened.1 = .ok ∧ opened.2.isIpcReady = true) := by
  obtain ⟨ipcMoves, ipcMade, -⟩ := initIpc_moves sound before.uniqueId noIpc
  have linked : Linked origin
      (initIpc .nanoServiceIpc before.uniqueId before).2 :=
    initIpc_linked sound sockets.comm noIpc noSync
  simp only [initChannels]
  split
  · exact ⟨ipcMoves.anything, linked, fun succeeds => absurd rfl succeeds⟩
  · rename_i made
    have there : ((initIpc .nanoServiceIpc before.uniqueId before).2.held
        .nanoServiceIpc).isSome := by
      rw [(ipcMade (by simpa using made)).1]
      rfl
    have comm := (linked.ipc there).1
    split
    · rename_i async
      have commSync : ((initIpc .nanoServiceIpc before.uniqueId before).2.held
          .commSocketSync).isSome := by
        rw [ipcMoves.kept .commSocketSync nofun]
        exact sockets.sync (ipcMoves.mode.symm.trans async)
      have stillNoSync := (ipcMoves.kept .nanoServiceSyncIpc nofun).trans noSync
      obtain ⟨syncMoves, syncMade, -⟩ := initIpc_moves ipcMoves.sound
        (initIpc .nanoServiceIpc before.uniqueId before).2.uniqueId
        stillNoSync
      have linkedSync := initIpc_linked_sync ipcMoves.sound linked there
        commSync stillNoSync
        (.inr ⟨Nat.le_trans later ipcMoves.fresh, rfl⟩)
      refine ⟨ipcMoves.anything.trans syncMoves.anything, linkedSync, ?_⟩
      split
      · rename_i succeeds
        obtain ⟨syncHeld, -⟩ := syncMade succeeds
        refine fun _ => ⟨rfl, linkedSync.isIpcReady ?_ fun _ => ?_⟩
        · rw [syncMoves.kept .nanoServiceIpc nofun]
          exact there
        · rw [syncHeld]
          rfl
      · exact fun succeeds => absurd rfl succeeds
    · rename_i alone
      refine ⟨ipcMoves.anything, linked, fun _ => ⟨rfl, ?_⟩⟩
      exact linked.isIpcReady there fun async => absurd async alone

/-- The old channels are closed, whose sockets are opened again. -/
theorem restartCommunication_moves (sound : before.holdings.Sound)
    (later : origin.holdings.ledger.fresh ≤ before.holdings.ledger.fresh) :
    let restarted := restartCommunication before
    Moves Anything before restarted.2 ∧ Linked origin restarted.2 ∧
      (restarted.1 ≠ .error →
        restarted.1 = .ok ∧ restarted.2.isIpcReady = true) := by
  have closedIpc : Moves Anything before (before.surrender .nanoServiceIpc) :=
    surrender_moves sound trivial
  have closed : Moves Anything before
      ((before.surrender .nanoServiceIpc).surrender .nanoServiceSyncIpc) :=
    closedIpc.trans (surrender_moves closedIpc.sound trivial)
  obtain ⟨sockets, signaled⟩ := signalAgain_moves closed.sound
  have soFar := closed.trans sockets.anything
  have noIpc := (sockets.kept .nanoServiceIpc (by decide)).trans
    (held_surrender_of_none (held_surrender _ _) _)
  have noSync :=
    (sockets.kept .nanoServiceSyncIpc (by decide)).trans
      (held_surrender _ _)
  simp only [restartCommunication]
  split
  · rename_i fails
    exact ⟨soFar, linked_of_none noIpc noSync,
      fun succeeds => absurd fails succeeds⟩
  · rename_i succeeds
    obtain ⟨channels, linked, ready⟩ := initChannels_moves soFar.sound
      (Nat.le_trans later soFar.fresh) (signaled succeeds).2 noIpc noSync
    exact ⟨soFar.trans channels, linked, ready⟩

theorem initAttachmentConfig_books (sound : before.holdings.Sound) :
    Books before before.initAttachmentConfig.2 ∧
      before.initAttachmentConfig.2.held = before.held ∧
      before.initAttachmentConfig.2.channelName = before.channelName := by
  have same {attachment : NanoAttachment}
      (holdings : attachment.holdings = before.holdings)
      (uniqueId : attachment.uniqueId = before.uniqueId)
      (channelName : attachment.channelName = before.channelName) :
      Books before attachment ∧ attachment.held = before.held ∧
        attachment.channelName = before.channelName := by
    refine ⟨⟨?_, ?_, ?_, uniqueId⟩, ?_, channelName⟩
    · rw [holdings]
      exact sound
    · rw [holdings]
    · exact Nat.le_of_eq (by rw [holdings])
    · rw [held, held, holdings]
  simp only [initAttachmentConfig]
  split
  · exact same rfl rfl rfl
  · split
    · exact same rfl rfl rfl
    · split
      · exact same rfl rfl rfl
      · split <;> exact same rfl rfl rfl

theorem register_books (sound : before.holdings.Sound) :
    Books before before.register.2 ∧
      ∀ resource, ¬RegistrationSocket resource →
        before.register.2.held resource = before.held resource := by
  simp only [register]
  split
  · have moves := registerToAttachmentsManager_moves sound
    split
    · exact ⟨moves.toBooks, moves.kept⟩
    · exact ⟨⟨moves.sound, moves.faults, moves.fresh, moves.uniqueId⟩,
        moves.kept⟩
  · exact ⟨.refl sound, fun _ _ => rfl⟩

theorem openChannel_moves (sound : before.holdings.Sound) (name : String)
    (empty : before.held resource = none) :
    let opened := openChannel resource name before
    Moves Anything before opened.2 ∧
      (opened.1 ≠ .error → opened.2 = (initIpc resource name before).2 ∧
        (initIpc resource name before).1 = true) := by
  have made := (initIpc_moves sound name empty).1
  simp only [openChannel, empty, Option.isSome_none, Bool.false_eq_true,
    if_false]
  split
  · rename_i succeeds
    exact ⟨made.anything, fun _ => ⟨rfl, succeeds⟩⟩
  · have restarted := restartCommunication_moves made.sound
      (Nat.le_refl _)
    exact ⟨made.anything.trans restarted.1,
      fun noError => absurd rfl noError⟩

theorem openSyncChannel_linked (sound : before.holdings.Sound)
    (linked : ∀ origin, Linked origin before)
    (ipc : (before.held .nanoServiceIpc).isSome)
    (comm : before.isAsyncModeEnabled = true →
      (before.held .commSocketSync).isSome)
    (noSync : before.held .nanoServiceSyncIpc = none) :
    let sync := openSyncChannel before
    Books before sync.2 ∧
      (sync.1 ≠ .error →
        Linked sync.2 sync.2 ∧ sync.2.isIpcReady = true) := by
  simp only [openSyncChannel]
  split
  · rename_i async
    obtain ⟨syncMoves, syncOpened⟩ :=
      openChannel_moves sound (before.uniqueId ++ "_sync") noSync
    refine ⟨syncMoves.toBooks, fun opens => ?_⟩
    obtain ⟨syncEq, syncMade⟩ := syncOpened opens
    obtain ⟨made, syncHeld, -⟩ :=
      initIpc_moves sound (before.uniqueId ++ "_sync") noSync
    have held := (syncHeld syncMade).1
    have linkedSync := initIpc_linked_sync sound (linked _) ipc (comm async)
      noSync (.inl ⟨held, rfl⟩)
    rw [syncEq]
    refine ⟨linkedSync, linkedSync.isIpcReady ?_ fun _ => ?_⟩
    · rw [made.kept .nanoServiceIpc nofun]
      exact ipc
    · rw [held]
      rfl
  · rename_i alone
    refine ⟨.refl sound, fun _ => ⟨linked _, ?_⟩⟩
    exact (linked before).isIpcReady ipc fun async => absurd async alone

/-- A first connection leaves every channel behind its socket, if it ends
well. -/
theorem connect_books (sound : before.holdings.Sound)
    (noComm : before.held .commSocket = none)
    (noIpc : before.held .nanoServiceIpc = none)
    (noSync : before.held .nanoServiceSyncIpc = none) :
    let connected := connect before
    Books before connected.2 ∧
      (connected.1 = .ok → Linked connected.2 connected.2 ∧
        connected.2.isIpcReady = true) := by
  obtain ⟨signaled, sockets⟩ := initSignalingSocket_moves sound
  have stillNoIpc := (signaled.kept .nanoServiceIpc (by decide)).trans noIpc
  have stillNoSync :=
    (signaled.kept .nanoServiceSyncIpc (by decide)).trans noSync
  obtain ⟨ipcMoves, ipcOpened⟩ := openChannel_moves signaled.sound
    before.initSignalingSocket.2.uniqueId stillNoIpc
  have ipcSoFar := signaled.toBooks.trans ipcMoves.toBooks
  simp only [connect, noComm, Option.isSome_none, Bool.false_eq_true, if_false]
  split
  · rename_i fails
    refine ⟨signaled.toBooks, fun succeeds => ?_⟩
    cases fails.symm.trans succeeds
  · rename_i signals
    have there := (sockets signals).2
    split
    · rename_i fails
      refine ⟨ipcSoFar, fun succeeds => ?_⟩
      cases fails.symm.trans succeeds
    · rename_i opens
      obtain ⟨ipcEq, ipcMade⟩ := ipcOpened opens
      obtain ⟨made, ipcHeld, -⟩ := initIpc_moves signaled.sound
        before.initSignalingSocket.2.uniqueId stillNoIpc
      have held := (ipcHeld ipcMade).1
      have noSyncYet :=
        (made.kept .nanoServiceSyncIpc (by decide)).trans stillNoSync
      have linked (origin : NanoAttachment) : Linked origin
          (initIpc .nanoServiceIpc before.initSignalingSocket.2.uniqueId
            before.initSignalingSocket.2).2 :=
        initIpc_linked signaled.sound there.comm stillNoIpc stillNoSync
      have comm := made.kept .commSocketSync (by decide)
      rw [← ipcEq] at held noSyncYet linked comm
      obtain ⟨sync, syncReady⟩ := openSyncChannel_linked ipcMoves.sound
        linked
        (by rw [held]; rfl)
        (fun async => by
          rw [comm]
          exact there.sync (ipcMoves.mode.symm.trans async))
        noSyncYet
      have soFar := ipcSoFar.trans sync
      split
      · rename_i fails
        refine ⟨soFar, fun succeeds => ?_⟩
        cases fails.symm.trans succeeds
      · rename_i succeeds
        obtain ⟨linkedSync, ready⟩ := syncReady succeeds
        exact ⟨⟨soFar.sound, soFar.faults, soFar.fresh, soFar.uniqueId⟩,
          fun _ =>
            ⟨⟨linkedSync.ipc, linkedSync.sync, linkedSync.name⟩, ready⟩⟩

/-- `InitNanoAttachment` connects once. -/
theorem initProcess_books (uniqueId containerId : String)
    (answers : Nat → Bool)
    (residues : Nat → Option NanoCommunicationResult) :
    let registered := (start uniqueId containerId answers residues).initProcess
    Books (start uniqueId containerId answers residues) registered.2 ∧
      (registered.1 = .ok → Linked registered.2 registered.2 ∧
        registered.2.isIpcReady = true) := by
  set counted : NanoAttachment :=
    { start uniqueId containerId answers residues with numOfConnectionAttempts := 0 + 1 }
  have sound : counted.holdings.Sound := Holdings.sound_start
  obtain ⟨config, configHeld, -⟩ := initAttachmentConfig_books sound
  have manager : Books counted counted.initAttachmentConfig.2.ask.2 :=
    ⟨config.sound, config.faults, config.fresh, config.uniqueId⟩
  obtain ⟨register, registerHeld⟩ := register_books manager.sound
  have registerSoFar := manager.trans register
  obtain ⟨second, secondHeld, -⟩ :=
    initAttachmentConfig_books registerSoFar.sound
  have secondSoFar := registerSoFar.trans second
  have empty (resource : Resource) (apart : ¬RegistrationSocket resource) :
      counted.initAttachmentConfig.2.ask.2.register.2.initAttachmentConfig.2.held
        resource = none := by
    rw [secondHeld, registerHeld resource apart, held_ask, configHeld]
    rfl
  have closing {attachment : NanoAttachment}
      (books : Books counted attachment) :
      Books (start uniqueId containerId answers residues) attachment :=
    ⟨books.sound, books.faults, books.fresh, books.uniqueId⟩
  obtain ⟨connects, ready⟩ := connect_books secondSoFar.sound
    (empty .commSocket (by decide)) (empty .nanoServiceIpc (by decide))
    (empty .nanoServiceSyncIpc (by decide))
  simp only [initProcess]
  split
  · exact ⟨closing manager, nofun⟩
  · split
    · exact ⟨closing manager, nofun⟩
    · split
      · rename_i fails
        exact ⟨closing registerSoFar, fun succeeds =>
          NanoCommunicationResult.noConfusion (fails.symm.trans succeeds)⟩
      · split
        · exact ⟨closing secondSoFar, nofun⟩
        · exact ⟨closing (secondSoFar.trans connects), ready⟩

/-- The channels that a message needs in this mode. -/
abbrev Needed (attachment : NanoAttachment) (resource : Resource) : Prop :=
  resource = .nanoServiceIpc ∨
    (resource = .nanoServiceSyncIpc ∧ attachment.isAsyncModeEnabled = true)

theorem isSome_held_of_isIpcReady (ready : before.isIpcReady = true)
    (needed : Needed before resource) :
    (before.held resource).isSome := by
  rw [isIpcReady] at ready
  rcases needed with rfl | ⟨rfl, async⟩
  · split at ready <;> grind
  · grind

theorem restoreIpc_moves (sound : before.holdings.Sound)
    (later : origin.holdings.ledger.fresh ≤ before.holdings.ledger.fresh)
    (linked : Linked origin before) (needed : Needed before resource) :
    let restored := restoreIpc resource before
    Moves Anything before restored.2 ∧ Linked origin restored.2 ∧
      (restored.1 = .ok → (restored.2.held resource).isSome) ∧
      ((before.held resource).isSome → restored.2.held = before.held) := by
  simp only [restoreIpc]
  split
  · rename_i there
    exact ⟨.refl sound, linked, fun _ => there, fun _ => rfl⟩
  · rename_i gone
    have closed := disconnectCommunication_moves sound
    obtain ⟨restarted, linkedAgain, ready⟩ := restartCommunication_moves
      closed.sound (Nat.le_trans later closed.fresh)
    have soFar := closed.trans restarted
    refine ⟨soFar, linkedAgain, fun succeeds => ?_,
      fun there => absurd there gone⟩
    refine isSome_held_of_isIpcReady (ready (by simp [succeeds])).2 ?_
    rw [Needed, soFar.mode]
    exact needed

theorem handleIpcCorruption_moves (sound : before.holdings.Sound)
    (later : origin.holdings.ledger.fresh ≤ before.holdings.ledger.fresh)
    (linked : Linked origin before) (needed : Needed before resource) :
    let handled := handleIpcCorruption resource before
    Moves Anything before handled.2 ∧ Linked origin handled.2 ∧
      (handled.1 = .ok ∨ handled.1 = .error) ∧
      (handled.1 = .ok → (handled.2.held resource).isSome ∧
        ((before.held resource).isSome → handled.2.held = before.held)) := by
  obtain ⟨restored, linkedAgain, there, same⟩ :=
    restoreIpc_moves sound later linked needed
  simp only [handleIpcCorruption]
  split
  · exact ⟨restored, linkedAgain, .inr rfl, nofun⟩
  · rename_i succeeds
    rw [not_not] at succeeds
    have asked : Moves Anything before (restoreIpc resource before).2.ask.2 :=
      restored.trans (ask_moves restored.sound)
    split
    · exact ⟨asked, linkedAgain.ask, .inl rfl,
        fun _ => ⟨there succeeds, same⟩⟩
    · exact ⟨asked.trans (disconnectCommunication_moves asked.sound),
        disconnectCommunication_linked _, .inr rfl, nofun⟩

theorem unassigned_moves (sound : before.holdings.Sound)
    (linked : Linked origin before) :
    Moves touched before before.unassigned.2 ∧
      Linked origin before.unassigned.2 :=
  ⟨ask_moves sound, linked.ask⟩

/-- The connection is ready if the check ends well, and otherwise it fails; but
in the synchronous mode it may end at once, with what `res` held. -/
theorem handleShmemCorruption_moves (sound : before.holdings.Sound)
    (later : origin.holdings.ledger.fresh ≤ before.holdings.ledger.fresh)
    (linked : Linked origin before) :
    let handled := handleShmemCorruption before
    Moves Anything before handled.2 ∧ Linked origin handled.2 ∧
      (handled.1 = some .ok → handled.2.isIpcReady = true) ∧
      (before.isAsyncModeEnabled = true →
        handled.1 = some .ok ∨ handled.1 = some .error) := by
  simp only [handleShmemCorruption]
  cases async : before.isAsyncModeEnabled with
  | true =>
      obtain ⟨first, linkedFirst, firstResult, firstThere⟩ :=
        handleIpcCorruption_moves sound later linked (.inr ⟨rfl, async⟩)
      simp only [if_true]
      split
      · rename_i fails
        exact ⟨first, linkedFirst, fun succeeds => absurd succeeds fails,
          fun _ => firstResult.imp (congrArg some) (congrArg some)⟩
      · rename_i succeeds
        have succeeds := Option.some.inj (not_not.mp succeeds)
        have sync := (firstThere succeeds).1
        have ipc := (linkedFirst.sync sync).1
        obtain ⟨second, linkedSecond, secondResult, secondThere⟩ :=
          handleIpcCorruption_moves first.sound
            (Nat.le_trans later first.fresh) linkedFirst (.inl rfl)
        refine ⟨first.trans second, linkedSecond, fun done => ?_,
          fun _ => secondResult.imp (congrArg some) (congrArg some)⟩
        obtain ⟨there, same⟩ := secondThere (Option.some.inj done)
        refine linkedSecond.isIpcReady there fun _ => ?_
        rw [same ipc]
        exact sync
  | false =>
      obtain ⟨first, linkedFirst⟩ :=
        unassigned_moves sound linked
      simp only [Bool.false_eq_true, if_false]
      split
      · rename_i fails
        exact ⟨first, linkedFirst, fun succeeds => absurd succeeds fails,
          nofun⟩
      · obtain ⟨second, linkedSecond, -, secondThere⟩ :=
          handleIpcCorruption_moves first.sound
            (Nat.le_trans later first.fresh) linkedFirst (.inl rfl)
        have soFar := first.trans second
        refine ⟨soFar, linkedSecond, fun done => ?_, nofun⟩
        refine linkedSecond.isIpcReady (secondThere (Option.some.inj done)).1 fun isAsync => ?_
        cases async.symm.trans (soFar.mode.symm.trans isAsync)

end NanoAttachment

open Connection.NanoAttachment

/-- What stays between the steps. -/
structure Steady (origin attachment : NanoAttachment) : Prop where
  sound : attachment.holdings.Sound
  later : origin.holdings.ledger.fresh ≤ attachment.holdings.ledger.fresh
  uniqueId : attachment.uniqueId = origin.uniqueId
  linked : Linked origin attachment

variable {origin : NanoAttachment}

variable (steady : Steady origin before)

include steady

theorem Steady.books (books : Books before after)
    (linked : Linked origin after) :
    Steady origin after where
  sound := books.sound
  later := Nat.le_trans steady.later books.fresh
  uniqueId := books.uniqueId.trans steady.uniqueId
  linked := linked

theorem Steady.of_held (sound : after.holdings.Sound)
    (fresh :
      before.holdings.ledger.fresh ≤ after.holdings.ledger.fresh)
    (uniqueId : after.uniqueId = before.uniqueId)
    (held : after.held = before.held)
    (channelName : after.channelName = before.channelName) :
    Steady origin after where
  sound := sound
  later := Nat.le_trans steady.later fresh
  uniqueId := uniqueId.trans steady.uniqueId
  linked :=
    { ipc := by
        rw [held, channelName, uniqueId]
        exact steady.linked.ipc
      sync := by
        rw [held]
        exact steady.linked.sync
      name := by
        rw [held, channelName, uniqueId]
        exact steady.linked.name }

/-- The keep-alive signal is the only step that closes a descriptor twice, and
the field of no other is touched. -/
theorem sendKeepAlive_steady :
    let sent := before.sendKeepAlive
    Steady origin sent.2 ∧
      sent.2.holdings.ledger.faults.length =
        before.holdings.ledger.faults.length + if sent.1 then 1 else 0 := by
  have once := steady.sound.transient
  have twice := steady.sound.transientTwice
  have onceLedger := before.holdings.transient_ledger
  have twiceLedger := steady.sound.transientTwice_ledger
  simp only [NanoAttachment.sendKeepAlive]
  split
  · exact ⟨steady.of_held steady.sound (Nat.le_refl _) rfl rfl rfl, rfl⟩
  · have onceSteady {attachment : NanoAttachment}
        (holdings : attachment.holdings = before.holdings.transient)
        (uniqueId : attachment.uniqueId = before.uniqueId)
        (channelName : attachment.channelName = before.channelName) :
        Steady origin attachment := by
      refine steady.of_held ?_ ?_ uniqueId ?_ channelName
      · rw [holdings]
        exact once
      · rw [holdings, onceLedger]
        exact Nat.le_succ _
      · rw [NanoAttachment.held, holdings]
        rfl
    split
    · exact ⟨onceSteady rfl rfl rfl, by
        simp [NanoAttachment.ask, onceLedger]⟩
    · split
      · exact ⟨onceSteady rfl rfl rfl, by
          simp [NanoAttachment.ask, onceLedger]⟩
      · refine ⟨steady.of_held twice ?_ rfl rfl rfl, ?_⟩
        · change _ ≤ before.holdings.transientTwice.ledger.fresh
          rw [twiceLedger, onceLedger]
          exact Nat.le_succ _
        · simp [NanoAttachment.ask, twiceLedger, onceLedger]

omit steady

/-- What a step reports about the connection that it leaves. -/
structure Reported (before after : NanoAttachment) (input : Step)
    (report : Report) : Prop where
  ready : report = .result (some .ok) → after.isIpcReady = true
  failed : before.isAsyncModeEnabled = true ∨ input = .reconnect →
    ∀ result, report = .result result →
      result = some .ok ∨ result = some .error

include steady in
theorem step_steady (input : Step) :
    let done := step before input
    Steady origin done.2 ∧ Reported before done.2 input done.1 ∧
      done.2.holdings.ledger.faults.length =
        before.holdings.ledger.faults.length +
          if done.1 = .keepAlive true then 1 else 0 := by
  cases input with
  | handleShmemCorruption =>
      obtain ⟨moves, linked, ready, failed⟩ := handleShmemCorruption_moves
        steady.sound steady.later steady.linked
      refine ⟨steady.books moves.toBooks linked, ⟨?_, ?_⟩, ?_⟩
      · intro succeeds
        exact ready (Report.result.inj succeeds)
      · rintro (async | other) result reported
        · rw [← Report.result.inj reported]
          exact failed async
        · cases other
      · simp [step, moves.faults]
  | reconnect =>
      have closed := disconnectCommunication_moves steady.sound
      obtain ⟨restarted, linked, ready⟩ := restartCommunication_moves
        closed.sound (Nat.le_trans steady.later closed.fresh)
      have moves := closed.trans restarted
      refine ⟨steady.books moves.toBooks linked, ⟨?_, ?_⟩, ?_⟩
      · intro succeeds
        refine (ready ?_).2
        rw [Option.some.inj (Report.result.inj succeeds)]
        exact nofun
      · intro _ result reported
        rw [← Report.result.inj reported]
        by_cases fails :
            before.disconnectCommunication.restartCommunication.1 = .error
        · exact .inr (congrArg some fails)
        · exact .inl (congrArg some (ready fails).1)
      · simp [step, moves.faults]
  | resetAttachmentConfig =>
      have sound : ({ before with isConfigurationUpdated := false } :
          NanoAttachment).holdings.Sound := steady.sound
      obtain ⟨books, held, channelName⟩ := initAttachmentConfig_books sound
      refine ⟨?_, ⟨nofun, nofun⟩, ?_⟩
      · exact steady.of_held books.sound books.fresh books.uniqueId held
          channelName
      · simp [step, NanoAttachment.resetAttachmentConfig, books.faults]
  | sendKeepAlive =>
      obtain ⟨kept, faults⟩ := sendKeepAlive_steady steady
      refine ⟨kept, ⟨nofun, nofun⟩, ?_⟩
      simp [step, faults]

include steady in
theorem run_steady (steps : List Step) :
    let ran := Trace.run step before steps
    Steady origin ran.2 ∧
      ran.2.holdings.ledger.faults.length =
        before.holdings.ledger.faults.length +
          ran.1.count (.keepAlive true) := by
  induction steps generalizing before with
  | nil => exact ⟨steady, rfl⟩
  | cons input steps induction =>
      obtain ⟨next, -, faults⟩ := step_steady steady input
      obtain ⟨last, restFaults⟩ := induction next
      refine ⟨last, ?_⟩
      rw [Trace.run_cons, restFaults, faults, List.count_cons]
      simp only [beq_iff_eq]
      omega

theorem steady_registered {uniqueId containerId : String}
    {answers : Nat → Bool} {residues : Nat → Option NanoCommunicationResult}
    (registered : (start uniqueId containerId answers residues).initProcess.1 = .ok) :
    Steady (start uniqueId containerId answers residues).initProcess.2
      (start uniqueId containerId answers residues).initProcess.2 := by
  obtain ⟨books, linked⟩ := initProcess_books uniqueId containerId answers residues
  exact ⟨books.sound, Nat.le_refl _, rfl, (linked registered).1⟩

/-- A descriptor or channel is open just when a field names it, and then only
one does.  Exactly the keep-alive signals that fail to be sent close a
descriptor twice.  An attachment whose registration fails takes no steps: it
is freed, and what its fields name stays open. -/
theorem attachment_resources (uniqueId containerId : String)
    (answers : Nat → Bool)
    (residues : Nat → Option NanoCommunicationResult) (steps : List Step)
    (freed :
      (start uniqueId containerId answers residues).initProcess.1 ≠ .ok → steps = []) :
    let ran := Trace.run step
      (start uniqueId containerId answers residues).initProcess.2 steps
    (∀ block, block ∈ ran.2.holdings.ledger.live ↔
        ∃ resource, ran.2.held resource = some block) ∧
      (∀ first second block, ran.2.held first = some block →
        ran.2.held second = some block → first = second) ∧
      ran.2.holdings.ledger.faults.length =
        ran.1.count (.keepAlive true) := by
  have books := (initProcess_books uniqueId containerId answers residues).1
  have noFault := books.faults
  change _ = [] at noFault
  by_cases registered :
      (start uniqueId containerId answers residues).initProcess.1 = .ok
  · obtain ⟨last, faults⟩ := run_steady (steady_registered registered) steps
    refine ⟨last.sound.live_iff, last.sound.apart, ?_⟩
    rw [faults, noFault]
    exact Nat.zero_add _
  · rw [freed registered]
    exact ⟨books.sound.live_iff, books.sound.apart, by simp [noFault]⟩

/-- A signal that fails, and then a message. -/
theorem attachment_resources_keepAlive :
    (Trace.run step (start "1" "" (· != 37) (fun _ => none)).initProcess.2
      [.sendKeepAlive, .handleShmemCorruption]).2.holdings.ledger.faults.length
        = 1 :=
  (attachment_resources "1" "" (· != 37) (fun _ => none)
    [.sendKeepAlive, .handleShmemCorruption]
    (fun fails => absurd (by decide) fails)).2.2.trans (by decide)

/-- Whenever the check before a message or a reconnection ends well, the
connection is ready; and where it does not, it fails, but that in the
synchronous mode the check may end with what an unassigned variable held. -/
theorem attachment_readiness (uniqueId containerId : String)
    (answers : Nat → Bool)
    (residues : Nat → Option NanoCommunicationResult) (steps : List Step)
    (registered : (start uniqueId containerId answers residues).initProcess.1 = .ok) :
    (start uniqueId containerId answers residues).initProcess.2.isIpcReady = true ∧
      Trace.Along step
        (fun attachment input => Reported attachment (step attachment input).2
          input (step attachment input).1)
        (start uniqueId containerId answers residues).initProcess.2 steps := by
  have steady := steady_registered registered
  have always : Trace.Along step (fun _ _ => True)
      (start uniqueId containerId answers residues).initProcess.2 steps :=
    Trace.along_of_forall step (fun _ _ => trivial) _ _
  refine ⟨((initProcess_books _ _ _ _).2 registered).2,
    Trace.along_of_invariant _ ?_ steady always⟩
  intro attachment input steady _
  obtain ⟨next, reported, -⟩ := step_steady steady input
  exact ⟨reported, next⟩

/-- The shared memory is corrupted before a message, and there again before the
next. -/
theorem attachment_readiness_corrupted :
    (Trace.run step (start "1" "" (· != 35) (fun _ => none)).initProcess.2
      [.handleShmemCorruption, .handleShmemCorruption]).2.isIpcReady = true :=
  (attachment_readiness "1" "" (· != 35) (fun _ => none)
    [.handleShmemCorruption, .handleShmemCorruption]
    (by decide)).2.2.1.ready (by decide)

/-- The second channel has a name of its own only as long as it is the one that
the registration opened: a reconnection gives both channels one name. -/
theorem attachment_channel_names (uniqueId containerId : String)
    (answers : Nat → Bool)
    (residues : Nat → Option NanoCommunicationResult) (steps : List Step)
    (registered : (start uniqueId containerId answers residues).initProcess.1 = .ok) :
    let origin := (start uniqueId containerId answers residues).initProcess.2
    let last := (Trace.run step origin steps).2
    (last.held .nanoServiceSyncIpc).isSome →
      (last.held .nanoServiceIpc).isSome ∧
        (last.channelName .nanoServiceSyncIpc ≠
            last.channelName .nanoServiceIpc ↔
          last.held .nanoServiceSyncIpc = origin.held .nanoServiceSyncIpc) := by
  intro origin last there
  have steady := steady_registered registered
  have linked := (run_steady steady steps).1.linked
  have ipc := (linked.sync there).1
  obtain ⟨block, held⟩ := Option.isSome_iff_exists.mp there
  refine ⟨ipc, ?_⟩
  rw [(linked.ipc ipc).2, held]
  rcases linked.name block held with ⟨original, named⟩ | ⟨recent, named⟩
  · rw [named]
    refine iff_of_true ?_ original.symm
    intro same
    have lengths := congrArg String.length same
    rw [String.length_append] at lengths
    exact absurd (Nat.add_eq_left.mp lengths) (by decide)
  · refine iff_of_false (not_not.mpr named) ?_
    intro original
    have older := steady.sound.old block
      ((steady.sound.live_iff block).mpr ⟨_, original.symm⟩)
    exact Nat.lt_irrefl _ (Nat.lt_of_lt_of_le older recent)

theorem attachment_channel_names_reconnected :
    let origin :=
      (start "1" "" (fun _ => true) (fun _ => none)).initProcess.2
    let last := (Trace.run step origin [.reconnect]).2
    ¬(last.channelName .nanoServiceSyncIpc ≠
      last.channelName .nanoServiceIpc) := by
  intro origin last
  rw [(attachment_channel_names "1" "" (fun _ => true) (fun _ => none)
    [.reconnect] (by decide) (by decide)).2]
  decide

end OpenAppsec.Nano.Connection
