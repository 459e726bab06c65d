import Mathlib.Data.List.Nodup
import OpenAppsec.Traefik.DaemonSteps

/-!
# Exclusive attachments

An attachment is idle, or it belongs to one transaction, and the data of a
session are finalised once and then not used: so it is in every run in which no
call takes a session away from the one that is about to use it.
-/

namespace OpenAppsec.Traefik

/-- The session data that the call to the library uses. -/
def Stage.uses : Stage → Option Nat
  | .sending _ data | .describing _ data | .freeing _ data _ => data
  | .finalising _ data => some data
  | _ => none

/-- `StartTransaction` holds the attachment, and has no session yet. -/
def Stage.holds (worker : Nat) : Stage → Bool
  | .initSession _ held | .initialising _ held | .giveBack held
  | .register _ held => held = worker
  | _ => false

/-- The session belongs to a transaction that holds the attachment. -/
def Session.holds (worker : Nat) (session : Session) : Bool :=
  session.worker = worker && !session.released

namespace AttachmentManager

/-- What the manager promises about attachments and session data. -/
structure Exclusive (m : AttachmentManager) : Prop where
  /-- An initialised attachment is idle, or one transaction holds it. -/
  once : ∀ worker,
    m.idle.count worker + m.calls.countP (·.stage.holds worker) +
        m.created.countP (·.holds worker) =
      if worker < m.initialised then 1 else 0
  /-- No two calls are inside the library with one attachment. -/
  alone : ∀ (first second : Nat) (one other : Call) (worker : Nat),
    m.calls[first]? = some one → m.calls[second]? = some other →
      m.inLibrary one = some worker → m.inLibrary other = some worker →
        first = second
  /-- A session inside the library still holds its attachment. -/
  held : ∀ call ∈ m.calls, (m.inLibrary call).isSome →
    ∀ s session, call.stage.session = some s → m.created[s]? = some session →
      session.released = false
  /-- The data of a session that was finished are finalised once, when the
  calls about it have returned. -/
  finalisedOnce : ∀ s ∈ m.finished,
    (∀ call ∈ m.calls, call.stage.session ≠ some s) → m.finalised.count s = 1
  /-- The data of a session are never finalised twice. -/
  finalisedAtMostOnce : ∀ s, m.finalised.count s ≤ 1
  /-- No call to the library uses data that were finalised. -/
  alive : ∀ call ∈ m.calls, ∀ data, call.stage.uses = some data →
    data ∉ m.finalised

variable {m : AttachmentManager} {index : Nat} {call : Call} {stage : Stage}

/-- How often an attachment is idle or held. -/
def accounts (m : AttachmentManager) (worker : Nat) : Nat :=
  m.idle.count worker + m.calls.countP (·.stage.holds worker) +
    m.created.countP (·.holds worker)

/-- An attachment is where it was, or has passed from one holder to another. -/
def SameAccounts (next m : AttachmentManager) (worker : Nat) : Prop :=
  next.accounts worker = m.accounts worker ∧
    next.initialised = m.initialised

theorem SameAccounts.trans {third second first : AttachmentManager}
    {worker : Nat} (later : third.SameAccounts second worker)
    (earlier : second.SameAccounts first worker) :
    third.SameAccounts first worker :=
  ⟨later.1.trans earlier.1, later.2.trans earlier.2⟩

section Accounts

variable {next : AttachmentManager} {outcome : Outcome} {s worker : Nat}
  {session : Session}

/-- Replacing an item of a list moves its part of the count. -/
theorem countP_set_add {α : Type} (role : α → Bool) {items : List α}
    {place : Nat} {old : α} (found : items[place]? = some old) (new : α) :
    (items.set place new).countP role + (role old).toNat =
      items.countP role + (role new).toNat := by
  obtain ⟨inside, rfl⟩ := List.getElem?_eq_some_iff.mp found
  rw [List.countP_set inside]
  cases here : role items[place] with
  | false => cases role new <;> simp
  | true =>
      have positive : 0 < items.countP role :=
        List.countP_pos_iff.mpr ⟨_, List.getElem_mem inside, here⟩
      cases role new <;> simp <;> omega

variable (found : m.calls[index]? = some call)

include found in
theorem accounts_goTo (stage : Stage) (worker : Nat) :
    (m.goTo index call stage).accounts worker +
        (call.stage.holds worker).toNat =
      m.accounts worker + (stage.holds worker).toNat := by
  have moved := countP_set_add (fun other : Call => other.stage.holds worker)
    found { call with stage := stage }
  simp only [accounts, AttachmentManager.goTo] at moved ⊢
  omega

include found in
theorem accounts_goTo_same
    (same : stage.holds worker = call.stage.holds worker) :
    (m.goTo index call stage).SameAccounts m worker := by
  have moved := accounts_goTo found stage worker
  rw [same] at moved
  exact ⟨Nat.add_right_cancel moved, rfl⟩

theorem accounts_giveIdle {given : Nat} (gives : m.giveIdle given = some next)
    (worker : Nat) :
    next.accounts worker =
      m.accounts worker + (decide (given = worker)).toNat := by
  cases giveIdle_eq gives
  simp only [accounts, List.count_append, List.count_singleton]
  by_cases same : given = worker
  · simp [same]
    omega
  · simp [same]

theorem accounts_receive {taken : Nat} (takes : m.receive = some (taken, next))
    (worker : Nat) :
    next.accounts worker + (decide (taken = worker)).toNat =
      m.accounts worker := by
  obtain ⟨idle, same, rfl⟩ := receive_eq takes
  simp only [accounts, same, List.count_cons]
  by_cases same : taken = worker
  · simp [same]
    omega
  · simp [same]

theorem accounts_registerSession (m : AttachmentManager) (session : Session)
    (worker : Nat) :
    (m.registerSession session).accounts worker =
      m.accounts worker + (session.holds worker).toNat := by
  simp only [accounts, AttachmentManager.registerSession, List.countP_append,
    List.countP_singleton]
  cases session.holds worker with
  | false => simp
  | true =>
      simp
      omega

theorem accounts_change (created : m.created[s]? = some session)
    (changed : Session) (worker : Nat) :
    { m with created := m.created.set s changed }.accounts worker +
        (session.holds worker).toNat =
      m.accounts worker + (changed.holds worker).toNat := by
  have moved := countP_set_add (fun other : Session => other.holds worker)
    created changed
  simp only [accounts] at moved ⊢
  omega

theorem holds_of_session (about : stage.session = some s) (worker : Nat) :
    stage.holds worker = false := by
  cases stage <;> cases about <;> rfl

include found

/-- An attachment passes from the channel to a call. -/
theorem accounts_take {taken sid : Nat}
    (holdsNone : call.stage.holds worker = false)
    (takes : m.receive = some (taken, next)) :
    (next.goTo index call (.initSession sid taken)).SameAccounts m worker := by
  have received := accounts_receive takes worker
  obtain ⟨idle, -, rfl⟩ := receive_eq takes
  have moved := accounts_goTo (m := { m with idle := idle }) found
    (.initSession sid taken) worker
  have held : (Stage.initSession sid taken).holds worker =
      decide (taken = worker) := rfl
  rw [holdsNone, held] at moved
  simp only [Bool.toNat_false] at moved
  refine ⟨?_, rfl⟩
  omega

theorem accounts_advanceStart
    (stepped : m.advanceStart index call outcome call.stage = some next)
    (worker : Nat) : next.SameAccounts m worker := by
  obtain ⟨task, before⟩ := call
  cases before with
  | takeId =>
      cases stepped
      split <;> exact accounts_goTo_same (m := m) found rfl
  | takeSecondId =>
      cases stepped
      exact accounts_goTo_same (m := m) found rfl
  | acquire sid =>
      rw [AttachmentManager.advanceStart] at stepped
      split at stepped
      case h_1 taken m' received =>
        cases stepped
        exact accounts_take found rfl received
      case h_2 =>
        cases stepped
        exact accounts_goTo_same found rfl
  | queue sid =>
      by_cases fires : outcome = .timerFires
      · subst fires
        cases stepped
        exact accounts_goTo_same found rfl
      · rw [AttachmentManager.advanceStart] at stepped
        · obtain ⟨⟨taken, m'⟩, received, rest⟩ :=
            Option.bind_eq_some_iff.mp stepped
          cases rest
          exact accounts_take found rfl received
        · exact fires
  | initSession sid taken =>
      obtain ⟨m', locked, rest⟩ := Option.bind_eq_some_iff.mp stepped
      obtain ⟨-, rfl⟩ := lockWorker_eq locked
      cases rest
      exact accounts_goTo_same (m := m) found rfl
  | initialising sid taken =>
      cases outcome <;> cases stepped <;>
        exact accounts_goTo_same (m := m) found rfl
  | giveBack taken =>
      obtain ⟨m', given, rest⟩ := Option.bind_eq_some_iff.mp stepped
      cases rest
      have gave := accounts_giveIdle given worker
      cases giveIdle_eq given
      have moved := accounts_goTo (m := { m with idle := m.idle ++ [taken] })
        found .returned worker
      simp only [Stage.holds, Bool.toNat_false] at moved
      refine ⟨?_, rfl⟩
      omega
  | register sid taken =>
      cases stepped
      have registered := accounts_registerSession m
        ⟨sid, taken, some m.created.length, false⟩ worker
      have moved := accounts_goTo
        (m := m.registerSession ⟨sid, taken, some m.created.length, false⟩)
        found (.prepare m.created.length) worker
      simp only [Stage.holds, Session.holds, Bool.toNat_false, Bool.not_false,
        Bool.and_true] at moved registered
      refine ⟨?_, rfl⟩
      omega
  | _ => cases stepped

theorem accounts_advanceLookup {id : Nat}
    (holdsNone : call.stage.holds worker = false) :
    (m.advanceLookup index call id).SameAccounts m worker := by
  rw [AttachmentManager.advanceLookup]
  split
  · exact accounts_goTo_same found holdsNone.symm
  · split
    · exact accounts_goTo_same found holdsNone.symm
    · exact accounts_goTo_same (m := m) found holdsNone.symm

theorem accounts_advanceSession (about : call.stage.session = some s)
    (stepped : m.advanceSession index call s session call.stage = some next)
    (worker : Nat) : next.SameAccounts m worker := by
  have holdsNone := holds_of_session about worker
  obtain ⟨task, before⟩ := call
  cases before with
  | lock _ =>
      obtain ⟨m', locked, rest⟩ := Option.bind_eq_some_iff.mp stepped
      obtain ⟨-, rfl⟩ := lockSession_eq locked
      cases rest
      exact accounts_goTo_same (m := m) found rfl
  | check _ =>
      rw [AttachmentManager.advanceSession] at stepped
      split at stepped <;> cases stepped <;>
        exact accounts_goTo_same found rfl
  | decide _ verdict =>
      rw [AttachmentManager.advanceSession] at stepped
      split at stepped
      · split at stepped <;> cases stepped
        · exact accounts_goTo_same (m := m) found rfl
        · exact accounts_advanceLookup (m := m.finish s) found rfl
      · split at stepped <;> cases stepped <;>
          exact accounts_goTo_same found rfl
  | _ => cases stepped

theorem accounts_advanceChunk
    (stepped :
      m.advanceChunk index call outcome s session call.stage = some next)
    (worker : Nat) : next.SameAccounts m worker := by
  obtain ⟨task, before⟩ := call
  cases before with
  | prepare _ =>
      cases stepped
      exact accounts_goTo_same found rfl
  | send _ _ | free _ _ =>
      obtain ⟨m', locked, rest⟩ := Option.bind_eq_some_iff.mp stepped
      obtain ⟨-, rfl⟩ := lockWorker_eq locked
      cases rest
      exact accounts_goTo_same (m := m) found rfl
  | sending _ _ =>
      cases outcome <;> cases stepped
      exact accounts_goTo_same (m := m) found rfl
  | build _ verdict webResponse =>
      rw [AttachmentManager.advanceChunk] at stepped
      split at stepped
      · obtain ⟨m', locked, rest⟩ := Option.bind_eq_some_iff.mp stepped
        obtain ⟨-, rfl⟩ := lockWorker_eq locked
        cases rest
        exact accounts_goTo_same (m := m) found rfl
      · cases stepped
        exact accounts_goTo_same found rfl
  | describing _ _ | freeing _ _ _ =>
      cases stepped
      exact accounts_goTo_same (m := m) found rfl
  | _ => cases stepped

omit found

theorem accounts_release (created : m.created[s]? = some session)
    (released : m.release s session = some next) (worker : Nat) :
    next.SameAccounts m worker ∧ next.calls = m.calls := by
  rw [AttachmentManager.release] at released
  split at released
  case isTrue =>
    cases released
    exact ⟨⟨rfl, rfl⟩, rfl⟩
  case isFalse unreleased =>
    have given := accounts_giveIdle released worker
    have changed :=
      accounts_change created { session with released := true } worker
    simp only [Session.holds, Bool.eq_false_iff.mpr unreleased, Bool.not_true,
      Bool.not_false, Bool.and_true, Bool.and_false, Bool.toNat_false]
      at given changed
    cases giveIdle_eq released
    refine ⟨⟨?_, rfl⟩, rfl⟩
    omega

include found in
theorem accounts_advanceFini (created : m.created[s]? = some session)
    (stepped : m.advanceFini index call s session call.stage = some next)
    (worker : Nat) : next.SameAccounts m worker := by
  obtain ⟨task, before⟩ := call
  cases before with
  | remove _ =>
      cases stepped
      split <;> exact accounts_goTo_same (m := m) found rfl
  | lockToFinalise _ =>
      obtain ⟨m', locked, rest⟩ := Option.bind_eq_some_iff.mp stepped
      obtain ⟨-, rfl⟩ := lockSession_eq locked
      cases rest
      exact accounts_goTo_same (m := m) found rfl
  | finalise _ =>
      rw [AttachmentManager.advanceFini] at stepped
      split at stepped
      · cases stepped
        split <;> exact accounts_goTo_same found rfl
      · obtain ⟨m', locked, rest⟩ := Option.bind_eq_some_iff.mp stepped
        obtain ⟨-, rfl⟩ := lockWorker_eq locked
        cases rest
        exact accounts_goTo_same (m := m) found rfl
  | finalising _ _ =>
      cases stepped
      exact accounts_goTo_same (m := m) found rfl
  | clear _ =>
      cases stepped
      have changed :=
        accounts_change created { session with data := none } worker
      have cleared := Nat.add_right_cancel changed
      split
      · refine SameAccounts.trans ?_ ⟨cleared, rfl⟩
        exact accounts_goTo_same (m := m.clearData s session) found rfl
      · refine SameAccounts.trans ?_ ⟨cleared, rfl⟩
        exact accounts_goTo_same (m := m.clearData s session) found rfl
  | release _ =>
      obtain ⟨m', released, rest⟩ := Option.bind_eq_some_iff.mp stepped
      cases rest
      obtain ⟨same, sameCalls⟩ := accounts_release created released worker
      rw [← sameCalls] at found
      split
      · exact SameAccounts.trans (accounts_goTo_same found rfl) same
      · exact SameAccounts.trans (accounts_goTo_same found rfl) same
  | unlock _ =>
      cases stepped
      split <;> exact accounts_goTo_same (m := m) found rfl
  | _ => cases stepped

/-- A step of a call passes attachments on, but neither makes nor loses
one. -/
theorem accounts_advance (stepped : m.advance index outcome = some next)
    (worker : Nat) : next.SameAccounts m worker := by
  obtain ⟨call, found, ways⟩ := advance_cases stepped
  obtain ⟨id, stage, rfl⟩ | starts | ⟨s, session, about, created, ways⟩ := ways
  · exact accounts_advanceLookup found (by rw [stage]; rfl)
  · exact accounts_advanceStart found starts worker
  · obtain steps | steps | steps := ways
    · exact accounts_advanceSession found about steps worker
    · exact accounts_advanceChunk found steps worker
    · exact accounts_advanceFini found created steps worker

/-- Each initialised attachment is in one place. -/
def Accounted (m : AttachmentManager) : Prop :=
  ∀ worker, m.accounts worker = if worker < m.initialised then 1 else 0

theorem begin_holds (api : ApiCall) (worker : Nat) :
    api.begin.stage.holds worker = false := by
  cases api <;> rfl

theorem Accounted.step (accounted : m.Accounted) {input : Input}
    (stepped : m.step input = some next) : next.Accounted := by
  intro worker
  have before := accounted worker
  have comesIn (api : ApiCall) :
      { m with calls := m.calls ++ [api.begin] }.accounts worker =
        m.accounts worker := by
    simp [accounts, List.countP_append, begin_holds]
  cases input with
  | initialise =>
      rw [AttachmentManager.step] at stepped
      split at stepped
      case isTrue =>
        have given := accounts_giveIdle stepped worker
        have same : { m with initialised := m.initialised + 1 }.accounts worker =
          m.accounts worker := rfl
        cases giveIdle_eq stepped
        rw [given, same, before]
        by_cases here : m.initialised = worker
        · simp [here]
        · simp only [here, decide_false, Bool.toNat_false]
          split <;> split <;> omega
      case isFalse => cases stepped
  | call api =>
      cases stepped
      exact (comesIn api).trans before
  | collect id =>
      rw [AttachmentManager.step] at stepped
      split at stepped
      · cases stepped
      · cases stepped
        exact (comesIn (.finiSession id)).trans before
  | advance index outcome =>
      obtain ⟨same, initialised⟩ := accounts_advance stepped worker
      rw [same, initialised]
      exact before

end Accounts

theorem ordered_new (numWorkers : Nat) :
    (newAttachmentManager numWorkers).Ordered where
  library := fun _ _ ⟨_, there, _⟩ => by cases there
  sections := fun _ _ ⟨_, there, _⟩ => by cases there
  fits := fun _ member => by cases member
  apart := fun _ member => by cases member
  data := fun _ _ created => by cases created
  nodup := List.nodup_nil
  finalised := fun _ inFinalised => by cases inFinalised
  map := fun _ _ entry => by cases entry
  finished := fun _ inFinished => by cases inFinished
  unregistered := fun _ inside => absurd inside (Nat.not_lt_zero _)

theorem accounted_new (numWorkers : Nat) :
    (newAttachmentManager numWorkers).Accounted := by
  intro worker
  exact (if_neg (Nat.not_lt_zero worker)).symm

theorem Ordered.live_inLibrary {s : Nat} (ordered : m.Ordered)
    (member : call ∈ m.calls) (inside : (m.inLibrary call).isSome)
    (about : call.stage.session = some s) : m.Live s := by
  have fits := ordered.fits call member
  obtain ⟨task, stage⟩ := call
  cases stage with
  | sending _ _ | describing _ _ | freeing _ _ _ | finalising _ _ =>
      cases about
      exact fits.1
  | initialising _ _ => cases about
  | _ => cases inside

theorem Ordered.uses_live {data : Nat} (ordered : m.Ordered)
    (member : call ∈ m.calls) (uses : call.stage.uses = some data) :
    m.Live data := by
  have fits := ordered.fits call member
  obtain ⟨task, stage⟩ := call
  cases stage with
  | sending _ _ | describing _ _ | freeing _ _ _ =>
      cases fits.2.symm.trans uses
      exact fits.1
  | finalising _ _ =>
      cases uses
      obtain ⟨isLive, same⟩ := fits
      exact same ▸ isLive
  | _ => cases uses

theorem session_of_finalises {s : Nat} (finalises : stage.finalises = some s) :
    stage.session = some s := by
  cases stage <;> cases finalises <;> rfl

/-- A session that was finished, and that no call is about, has no data. -/
theorem Ordered.cleared_of_finished {s : Nat} (ordered : m.Ordered)
    (inFinished : s ∈ m.finished)
    (quiet : ∀ call ∈ m.calls, call.stage.session ≠ some s) :
    m.Cleared s := by
  obtain ⟨inside, removes⟩ := ordered.finished s inFinished
  have unregistered : ¬m.Registered s := by
    intro registered
    obtain ⟨call, member, stage⟩ := removes registered
    exact quiet call member (by rw [stage]; rfl)
  obtain cleared | ⟨call, member, finalises⟩ :=
    ordered.unregistered s inside unregistered
  · exact cleared
  · exact absurd (session_of_finalises finalises) (quiet call member)

theorem Ordered.exclusive (ordered : m.Ordered) (accounted : m.Accounted) :
    m.Exclusive where
  once := accounted
  alone first second one other worker oneThere otherThere oneIn otherIn :=
    ordered.library.exclusive ⟨one, oneThere, oneIn⟩
      ⟨other, otherThere, otherIn⟩
  held call member inside s session about created := by
    obtain ⟨fresh, -⟩ := ordered.live_inLibrary member inside about
    obtain ⟨-, inFinalised⟩ | ⟨-, held⟩ := ordered.data s session created
    · exact absurd inFinalised fresh
    · exact held
  finalisedOnce s inFinished quiet := by
    obtain ⟨session, created, data⟩ :=
      ordered.cleared_of_finished inFinished quiet
    obtain ⟨-, inFinalised⟩ | ⟨named, -⟩ := ordered.data s session created
    · exact List.count_eq_one_of_mem ordered.nodup inFinalised
    · cases data.symm.trans named
  finalisedAtMostOnce := List.nodup_iff_count_le_one.mp ordered.nodup
  alive call member data uses := (ordered.uses_live member uses).1

end AttachmentManager

/-- Attachments are exclusive and sessions are finalised once in every state of
a run that nobody disturbs. -/
theorem attachments_exclusive (numWorkers : Nat) (inputs : List Input)
    (m : AttachmentManager)
    (ran : Trace.runPartial AttachmentManager.step
      (newAttachmentManager numWorkers) inputs = some m)
    (undisturbed : Trace.Every AttachmentManager.step
      AttachmentManager.Undisturbed (newAttachmentManager numWorkers) inputs) :
    m.Exclusive := by
  have holds := Trace.runPartial_invariant
    (fun state => state.Ordered ∧ state.Accounted)
    (fun state input next invariant guard stepped =>
      ⟨invariant.1.step guard stepped, invariant.2.step stepped⟩)
    ⟨AttachmentManager.ordered_new numWorkers,
      AttachmentManager.accounted_new numWorkers⟩ undisturbed ran
  exact holds.1.exclusive holds.2

/-- One call takes as many steps. -/
def steps (index count : Nat) (outcome : Outcome) : List Input :=
  List.replicate count (.advance index outcome)

/-- Two transactions step by step in turn; the agent accepts both. -/
def interleavedTransactions : List Input :=
  let outcomes := List.replicate 7 .goesOn ++ [.replies .accept false] ++
    List.replicate 11 .goesOn
  [.initialise, .initialise, .call .startTransaction,
      .call .startTransaction] ++
    outcomes.flatMap fun outcome =>
      [.advance 0 outcome, .advance 1 outcome]

theorem interleavedTransactions_exclusive : ∃ m,
    Trace.runPartial AttachmentManager.step (newAttachmentManager 2)
      interleavedTransactions = some m ∧ m.Exclusive := by
  have returns : (Trace.runPartial AttachmentManager.step
      (newAttachmentManager 2) interleavedTransactions).isSome := by
    decide
  obtain ⟨m, ran⟩ := Option.isSome_iff_exists.mp returns
  exact ⟨m, ran,
    attachments_exclusive 2 interleavedTransactions m ran (by decide)⟩

/-- The collector picks a session that is still being started, and finalises it
before its first chunk is sent. -/
def collectedTransaction : List Input :=
  [.initialise, .call .startTransaction] ++ steps 0 6 .goesOn ++
    [.collect 1] ++ steps 1 8 .goesOn ++ steps 0 1 .goesOn

/-- The chunk is then sent with data that were finalised. -/
theorem collectedTransaction_not_exclusive : ∃ m,
    Trace.runPartial AttachmentManager.step (newAttachmentManager 1)
      collectedTransaction = some m ∧ ¬m.Exclusive := by
  have used : ((Trace.runPartial AttachmentManager.step
      (newAttachmentManager 1) collectedTransaction).any fun m =>
        m.calls.any fun call =>
          call.stage.uses.any fun data => data ∈ m.finalised) = true := by
    decide
  obtain ⟨m, ran, bad⟩ := (Option.any_eq_true _ _).mp used
  obtain ⟨call, member, bad⟩ := List.any_eq_true.mp bad
  obtain ⟨data, uses, inFinalised⟩ := (Option.any_eq_true _ _).mp bad
  exact ⟨m, ran, fun exclusive =>
    exclusive.alive call member data uses (of_decide_eq_true inFinalised)⟩

end OpenAppsec.Traefik
