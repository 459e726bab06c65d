import OpenAppsec.Traefik.DaemonSessions

/-!
# Steps of the daemon

Each step of a call keeps the sessions in order, unless another call disturbs
it.
-/

namespace OpenAppsec.Traefik

open Mutexes

namespace AttachmentManager

variable {m : AttachmentManager} {index : Nat} {call : Call} {stage : Stage}

variable {s : Nat}

theorem getElem?_goTo_self (found : m.calls[index]? = some call) :
    (m.goTo index call stage).calls[index]? =
      some { call with stage := stage } := by
  obtain ⟨inside, -⟩ := List.getElem?_eq_some_iff.mp found
  exact List.getElem?_set_self inside

namespace Ordered

variable {worker : Nat}

theorem enterLibrary {next : AttachmentManager} (ordered : m.Ordered)
    (found : m.calls[index]? = some call)
    (locked : m.lockWorker worker index = some next)
    (inside : m.inLibrary { call with stage := stage } = some worker)
    (allows : m.Allows index call stage) :
    (next.goTo index call stage).Ordered := by
  have lockedOrdered := ordered.lockWorker locked
  obtain ⟨-, rfl⟩ := lockWorker_eq locked
  apply lockedOrdered.goTo found
  · intro other insideOther
    cases inside.symm.trans insideOther
    exact Function.update_self worker _ m.workerMu
  · exact { allows with }

theorem leaveLibrary (ordered : m.Ordered)
    (found : m.calls[index]? = some call)
    (inside : m.inLibrary call = some worker)
    (outside : m.inLibrary { call with stage := stage } = none)
    (allows : m.Allows index call stage) :
    ((m.unlockWorker worker).goTo index call stage).Ordered := by
  have held := ordered.library index worker ⟨call, found, inside⟩
  have moved := ordered.goTo found
    (fun other insideOther => by cases outside.symm.trans insideOther) allows
  exact moved.unlockWorker held (getElem?_goTo_self found) outside

theorem goOutside (ordered : m.Ordered) (found : m.calls[index]? = some call)
    (outside : m.inLibrary { call with stage := stage } = none)
    (allows : m.Allows index call stage) :
    (m.goTo index call stage).Ordered :=
  ordered.goTo found
    (fun other insideOther => by cases outside.symm.trans insideOther) allows

end Ordered

/-- A call that has not removed its session, and takes no data. -/
theorem Allows.of_plain
    (sections : ∀ s, { call with stage := stage : Call }.inSession = some s →
      m.sessionMu s = some index)
    (fits : m.Fits { call with stage := stage })
    (inspects : ∀ s, stage.inspects = some s →
      call.stage.inspects = some s ∨
        ∀ other ∈ m.calls, other.stage.takesData ≠ some s)
    (old : call.stage.finalises = none) (new : stage.takesData = none) :
    m.Allows index call stage where
  sections := sections
  fits := fits
  inspects := inspects
  takesData s takes := by cases new.symm.trans takes
  clear s same := by
    rw [same] at old
    cases old
  remove s same := by
    rw [same] at old
    cases old
  finalises s same := by cases old.symm.trans same

/-- A call that finalises a session that is not registered any more. -/
theorem Allows.of_finalises (about : call.stage.finalises = some s)
    (removed : call.stage = .remove s → ¬m.Registered s)
    (sections : ∀ s, { call with stage := stage : Call }.inSession = some s →
      m.sessionMu s = some index) (fits : m.Fits { call with stage := stage })
    (inspects : stage.inspects = none)
    (takesData : ∀ s, stage.takesData = some s →
      ∀ other ∈ m.calls, other.stage.inspects ≠ some s)
    (goes : m.Cleared s ∨
      (stage.finalises = some s ∧ call.stage ≠ .clear s)) :
    m.Allows index call stage where
  sections := sections
  fits := fits
  inspects other here := by cases inspects.symm.trans here
  takesData other takes := .inr (takesData other takes)
  clear other same := by
    rw [same] at about
    cases about
    exact goes.resolve_right fun ⟨_, different⟩ => different same
  remove other same := by
    have sameSession : call.stage.finalises = some other := by
      rw [same]
      rfl
    cases about.symm.trans sameSession
    exact removed same
  finalises other same := by
    cases about.symm.trans same
    exact goes.imp id And.left

theorem Allows.of_start (old : call.stage.session = none)
    (new : stage.session = none) (fits : m.Fits { call with stage := stage }) :
    m.Allows index call stage := by
  obtain ⟨task, before⟩ := call
  apply Allows.of_plain _ fits
  · intro s inspects
    cases stage <;> simp [Stage.inspects, Stage.session] at inspects new
  · cases before <;> simp [Stage.finalises, Stage.session] at old ⊢
  · cases stage <;> simp [Stage.takesData, Stage.session] at new ⊢
  · intro s inside
    cases stage <;> simp [Call.inSession, Stage.session] at inside new

/-- A call that goes on inspecting. -/
theorem Allows.of_inspects (ordered : m.Ordered)
    (found : m.calls[index]? = some call) (old : call.stage.inspects = some s)
    (new : stage.inspects = some s)
    (fits : m.Fits { call with stage := stage }) :
    m.Allows index call stage := by
  have sections := ordered.sections index
  obtain ⟨task, before⟩ := call
  have same : { task := task, stage := stage : Call }.inSession =
      { task := task, stage := before : Call }.inSession := by
    cases before <;> cases old <;> cases stage <;> cases new <;> rfl
  apply Allows.of_plain _ fits
  · intro other inspects
    cases new.symm.trans inspects
    exact .inl old
  · cases before <;> simp [Stage.inspects, Stage.finalises] at old ⊢
  · cases stage <;> simp [Stage.inspects, Stage.takesData] at new ⊢
  · intro other inside
    exact sections other ⟨_, found, same ▸ inside⟩

theorem receive_eq {next : AttachmentManager} {worker : Nat}
    (received : m.receive = some (worker, next)) :
    ∃ idle, m.idle = worker :: idle ∧ next = { m with idle := idle } := by
  unfold receive at received
  split at received
  case h_1 => cases received
  case h_2 first idle same =>
    cases received
    exact ⟨idle, same, rfl⟩

theorem giveIdle_eq {next : AttachmentManager} {worker : Nat}
    (given : m.giveIdle worker = some next) :
    next = { m with idle := m.idle ++ [worker] } := by
  unfold giveIdle at given
  split at given
  case isTrue => exact (Option.some.inj given).symm
  case isFalse => cases given

section Steps

variable {next : AttachmentManager} {outcome : Outcome}

variable {session : Session}

variable {task : Task}

theorem Stage.session_of_takesData {stage : Stage}
    (takes : stage.takesData = some s) : stage.session = some s := by
  cases stage <;> cases takes <;> rfl

theorem Ordered.advanceStart (ordered : m.Ordered)
    (found : m.calls[index]? = some call)
    (free : ∀ sid worker, call.stage = .register sid worker →
      m.sessions sid = none)
    (stepped : m.advanceStart index call outcome call.stage = some next) :
    next.Ordered := by
  have fits := ordered.fits call (List.mem_of_getElem? found)
  obtain ⟨task, before⟩ := call
  have goes (stage : Stage) (new : stage.session = none)
      (old : before.session = none)
      (outside : m.inLibrary ⟨task, stage⟩ = none)
      (fits : m.Fits ⟨task, stage⟩) :
      (m.goTo index ⟨task, before⟩ stage).Ordered :=
    ordered.goOutside found outside (.of_start old new fits)
  cases before with
  | takeId =>
      cases stepped
      split
      · exact { goes .takeSecondId rfl rfl rfl fits with }
      · exact { goes (.acquire m.nextID) rfl rfl rfl fits with }
  | takeSecondId =>
      cases stepped
      exact { goes (.acquire m.nextID) rfl rfl rfl fits with }
  | acquire sid =>
      rw [AttachmentManager.advanceStart] at stepped
      split at stepped
      case h_1 worker m' received =>
        obtain ⟨idle, -, rfl⟩ := receive_eq received
        cases stepped
        exact { goes (.initSession sid worker) rfl rfl rfl fits with }
      case h_2 =>
        cases stepped
        exact goes (.queue sid) rfl rfl rfl fits
  | queue sid =>
      by_cases fires : outcome = .timerFires
      · subst fires
        cases stepped
        exact goes .returned rfl rfl rfl (fun _ about => by cases about)
      · rw [AttachmentManager.advanceStart] at stepped
        · obtain ⟨⟨worker, m'⟩, received, rest⟩ :=
            Option.bind_eq_some_iff.mp stepped
          obtain ⟨idle, -, rfl⟩ := receive_eq received
          cases rest
          exact { goes (.initSession sid worker) rfl rfl rfl fits with }
        · exact fires
  | initSession sid worker =>
      obtain ⟨m', locked, rest⟩ := Option.bind_eq_some_iff.mp stepped
      cases rest
      exact ordered.enterLibrary found locked rfl (.of_start rfl rfl fits)
  | initialising sid worker =>
      cases outcome <;> cases stepped <;>
        exact ordered.leaveLibrary found rfl rfl (.of_start rfl rfl fits)
  | giveBack worker =>
      obtain ⟨m', given, rest⟩ := Option.bind_eq_some_iff.mp stepped
      cases giveIdle_eq given
      cases rest
      exact { goes .returned rfl rfl rfl (fun _ about => by cases about) with }
  | register sid worker =>
      cases stepped
      have unlocked : task.locked = false := fits
      have registered : (m.registerSession
          ⟨sid, worker, some m.created.length, false⟩).Ordered :=
        ordered.registerSession rfl rfl (free sid worker rfl)
      refine registered.goOutside found rfl
        (.of_plain ?_ ?_ ?_ rfl rfl)
      · intro s inside
        simp [Call.inSession, unlocked] at inside
      · refine ⟨?_, _, List.getElem?_concat_length, rfl⟩
        exact fun inFinalised =>
          absurd (ordered.finalised_lt inFinalised) (Nat.lt_irrefl _)
      · intro s inspects
        cases inspects
        refine .inr fun other member takes => ?_
        have inside := (ordered.fits other member).session_lt
          (Stage.session_of_takesData takes)
        exact absurd inside (Nat.lt_irrefl _)
  | _ => cases stepped

theorem Ordered.advanceChunk (ordered : m.Ordered)
    (found : m.calls[index]? = some call) (about : call.stage.session = some s)
    (created : m.created[s]? = some session)
    (stepped :
      m.advanceChunk index call outcome s session call.stage = some next) :
    next.Ordered := by
  have fits := ordered.fits call (List.mem_of_getElem? found)
  have worker : m.created[s]?.map Session.worker = some session.worker := by
    rw [created, Option.map_some]
  have data : m.Live s → session.data = some s := by
    rintro ⟨-, other, created', data⟩
    cases created.symm.trans created'
    exact data
  obtain ⟨task, before⟩ := call
  have allows (stage : Stage) (old : before.inspects = some s)
      (new : stage.inspects = some s) (fits : m.Fits ⟨task, stage⟩) :
      m.Allows index ⟨task, before⟩ stage :=
    .of_inspects ordered found old new fits
  cases before with
  | prepare _ =>
      cases about
      cases stepped
      exact ordered.goOutside found rfl (allows _ rfl rfl ⟨fits, data fits⟩)
  | send _ sent =>
      cases about
      obtain ⟨m', locked, rest⟩ := Option.bind_eq_some_iff.mp stepped
      cases rest
      exact ordered.enterLibrary found locked worker (allows _ rfl rfl fits)
  | sending _ sent =>
      cases about
      cases outcome with
      | replies verdict webResponse =>
          cases stepped
          exact ordered.leaveLibrary found worker rfl
            (allows _ rfl rfl fits.1)
      | _ => cases stepped
  | build _ verdict webResponse =>
      cases about
      rw [AttachmentManager.advanceChunk] at stepped
      split at stepped
      · obtain ⟨m', locked, rest⟩ := Option.bind_eq_some_iff.mp stepped
        cases rest
        exact ordered.enterLibrary found locked worker
          (allows _ rfl rfl ⟨fits, data fits⟩)
      · cases stepped
        exact ordered.goOutside found rfl (allows _ rfl rfl fits)
  | describing _ used =>
      cases about
      cases stepped
      exact ordered.leaveLibrary found worker rfl (allows _ rfl rfl fits.1)
  | free _ verdict =>
      cases about
      obtain ⟨m', locked, rest⟩ := Option.bind_eq_some_iff.mp stepped
      cases rest
      exact ordered.enterLibrary found locked worker
        (allows _ rfl rfl ⟨fits, data fits⟩)
  | freeing _ used verdict =>
      cases about
      cases stepped
      have inside := (List.getElem?_eq_some_iff.mp created).1
      refine ordered.leaveLibrary found worker rfl
        (.of_plain (fun other mutex => ?_) ?_ ?_ rfl rfl)
      · exact ordered.sections index other ⟨_, found, mutex⟩
      · rintro other about
        cases about
        exact inside
      · exact fun _ inspects => by cases inspects
  | _ => cases stepped

theorem inSession_of_takesData (takes : call.stage.takesData = some s) :
    call.inSession = some s := by
  obtain ⟨task, stage⟩ := call
  cases stage <;> cases takes <;> rfl

theorem Ordered.takesData_ne (ordered : m.Ordered)
    (found : m.calls[index]? = some call) (mutex : call.inSession = some s)
    (own : call.stage.takesData ≠ some s) :
    ∀ other ∈ m.calls, other.stage.takesData ≠ some s := by
  intro other member takes
  obtain ⟨place, there⟩ := List.mem_iff_getElem?.mp member
  have same := ordered.sections.exclusive ⟨call, found, mutex⟩
    ⟨other, there, inSession_of_takesData takes⟩
  subst same
  cases found.symm.trans there
  exact own takes

theorem Ordered.live (ordered : m.Ordered) (found : m.calls[index]? = some call)
    (mutex : call.inSession = some s) (own : call.stage.takesData ≠ some s)
    (created : m.created[s]? = some session) {data : Nat}
    (has : session.data = some data) : m.Live s ∧ data = s := by
  obtain ⟨none', -⟩ | ⟨named, -⟩ := ordered.data s session created
  · cases none'.symm.trans has
  · cases named.symm.trans has
    refine ⟨⟨?_, session, created, named⟩, rfl⟩
    intro inFinalised
    obtain ⟨other, created', none'⟩ | ⟨other, member, stage⟩ :=
      ordered.finalised s inFinalised
    · cases created.symm.trans created'
      cases none'.symm.trans named
    · exact ordered.takesData_ne found mutex own other member
        (by rw [stage]; rfl)

theorem Ordered.findSession (ordered : m.Ordered)
    (found : m.calls[index]? = some call) (unlocked : call.task.locked = false)
    (old : call.stage.finalises = none) (inside : s < m.created.length) :
    (m.goTo index call (.remove s)).Ordered := by
  apply ordered.goOutside found rfl
  apply Allows.of_plain _ _ _ old rfl
  · intro other mutex
    simp [Call.inSession, unlocked] at mutex
  · rintro other about
    cases about
    exact inside
  · exact fun _ inspects => by cases inspects

theorem Ordered.leave (ordered : m.Ordered)
    (found : m.calls[index]? = some call)
    (old : call.stage.finalises = none) :
    (m.goTo index call .returned).Ordered := by
  apply ordered.goOutside found rfl
  apply Allows.of_plain _ _ _ old rfl
  · intro other mutex
    simp [Call.inSession, Stage.session] at mutex
  · exact fun _ about => by cases about
  · exact fun _ inspects => by cases inspects

theorem Ordered.advanceLookup {id : Nat} (ordered : m.Ordered)
    (found : m.calls[index]? = some call)
    (old : call.stage.finalises = none) :
    (m.advanceLookup index call id).Ordered := by
  rw [AttachmentManager.advanceLookup]
  split
  case h_1 => exact ordered.leave found old
  case h_2 s registered =>
    obtain ⟨session, created, -⟩ := ordered.map id s registered
    have inside := (List.getElem?_eq_some_iff.mp created).1
    split
    case isTrue locked =>
      apply ordered.goOutside found rfl
      apply Allows.of_plain _ _ _ old rfl
      · exact fun _ mutex => by cases mutex
      · exact ⟨inside, locked⟩
      · exact fun _ inspects => by cases inspects
    case isFalse free =>
      have unlocked := Bool.eq_false_iff.mpr free
      exact (ordered.findSession found unlocked old inside).finish inside
        fun _ => ⟨_, mem_goTo_self found, rfl⟩

theorem inSession_of_locked (locked : call.task.locked)
    (about : call.stage = .check s ∨ ∃ verdict, call.stage = .decide s verdict) :
    call.inSession = some s := by
  obtain same | ⟨verdict, same⟩ := about <;>
    rw [Call.inSession, same] <;> exact if_pos locked

/-- `StartTransaction` goes on to `FiniSession`. -/
theorem Ordered.finishStart (ordered : m.Ordered)
    (found : m.calls[index]? = some call) (unlocked : call.task.locked = false)
    (old : call.stage.finalises = none)
    (created : m.created[s]? = some session) :
    ((m.finish s).advanceLookup index call session.id).Ordered := by
  have inside := (List.getElem?_eq_some_iff.mp created).1
  have entry (registered : m.Registered s) :
      m.sessions session.id = some s := by
    obtain ⟨id, there⟩ := registered
    obtain ⟨other, created', sameId⟩ := ordered.map id s there
    cases created.symm.trans created'
    rw [sameId, there]
  cases lookup : m.sessions session.id with
  | none =>
      have same : (m.finish s).advanceLookup index call session.id =
          (m.goTo index call .returned).finish s := by
        rw [AttachmentManager.advanceLookup]
        simp only [AttachmentManager.finish, lookup]
        rfl
      rw [same]
      refine (ordered.leave found old).finish inside fun registered => ?_
      cases lookup.symm.trans (entry registered)
  | some other =>
      have same : (m.finish s).advanceLookup index call session.id =
          ((m.goTo index call (.remove other)).finish s).finish other := by
        rw [AttachmentManager.advanceLookup]
        simp only [AttachmentManager.finish, lookup, unlocked]
        rfl
      obtain ⟨_, otherCreated, -⟩ := ordered.map _ other lookup
      have otherInside := (List.getElem?_eq_some_iff.mp otherCreated).1
      have removes : ∃ call' ∈ (m.goTo index call (.remove other)).calls,
          call'.stage = .remove other :=
        ⟨_, mem_goTo_self found, rfl⟩
      rw [same]
      refine ((ordered.findSession found unlocked old otherInside).finish
        inside fun registered => ?_).finish otherInside fun _ => removes
      cases lookup.symm.trans (entry registered)
      exact removes

theorem Ordered.goToUnlock (ordered : m.Ordered)
    (found : m.calls[index]? = some call) (locked : call.task.locked)
    (mutex : call.inSession = some s) (inside : s < m.created.length)
    (old : call.stage.finalises = none) :
    (m.goTo index call (.unlock s)).Ordered := by
  refine ordered.goOutside found rfl (.of_plain ?_ ?_ ?_ old rfl)
  · intro other mutex'
    cases mutex'
    exact ordered.sections index s ⟨call, found, mutex⟩
  · exact ⟨inside, fun free => by cases free.symm.trans locked⟩
  · exact fun _ inspects => by cases inspects

theorem Ordered.advanceSession (ordered : m.Ordered)
    (found : m.calls[index]? = some call) (about : call.stage.session = some s)
    (created : m.created[s]? = some session)
    (stepped : m.advanceSession index call s session call.stage = some next) :
    next.Ordered := by
  have fits := ordered.fits call (List.mem_of_getElem? found)
  have inside := (List.getElem?_eq_some_iff.mp created).1
  obtain ⟨task, before⟩ := call
  cases before with
  | lock _ =>
      cases about
      obtain ⟨m', locked, rest⟩ := Option.bind_eq_some_iff.mp stepped
      cases rest
      have lockedOrdered := ordered.lockSession locked
      obtain ⟨-, rfl⟩ := lockSession_eq locked
      refine lockedOrdered.goOutside found rfl
        (.of_plain (fun other mutex => ?_) fits ?_ rfl rfl)
      · have same : some s = some other :=
          (if_pos fits.2).symm.trans mutex
        cases same
        exact Function.update_self s _ m.sessionMu
      · exact fun _ inspects => by cases inspects
  | check _ =>
      cases about
      have mutex : { task := task, stage := .check s : Call }.inSession =
          some s :=
        inSession_of_locked fits.2 (.inl rfl)
      rw [AttachmentManager.advanceSession] at stepped
      split at stepped
      case h_1 chunkType data isSend has =>
        cases stepped
        have own : (Stage.check s).takesData ≠ some s := by
          simp [Stage.takesData]
        refine ordered.goOutside found rfl (.of_plain ?_ ?_ ?_ rfl rfl)
        · exact fun other held =>
            ordered.sections index other ⟨_, found, held⟩
        · exact (ordered.live found mutex own created has).1
        · intro other inspects
          cases inspects
          exact .inr (ordered.takesData_ne found mutex own)
      case h_2 =>
        cases stepped
        exact ordered.goToUnlock found fits.2 mutex inside rfl
  | decide _ verdict =>
      cases about
      rw [AttachmentManager.advanceSession] at stepped
      split at stepped
      · split at stepped
        case isTrue locked =>
          cases stepped
          have moved : (m.goTo index ⟨task, .decide s verdict⟩
              (.remove s)).Ordered := by
            refine ordered.goOutside found rfl (.of_plain ?_ ?_ ?_ rfl rfl)
            · exact fun other held =>
                ordered.sections index other ⟨_, found, held⟩
            · exact fun other same => by
                cases same
                exact inside
            · exact fun _ inspects => by cases inspects
          exact moved.finish inside fun _ => ⟨_, mem_goTo_self found, rfl⟩
        case isFalse free =>
          cases stepped
          exact ordered.finishStart found (Bool.eq_false_iff.mpr free) rfl
            created
      · split at stepped
        case isTrue locked =>
          cases stepped
          exact ordered.goToUnlock found locked
            (inSession_of_locked locked (.inr ⟨verdict, rfl⟩)) inside rfl
        case isFalse free =>
          cases stepped
          exact ordered.leave found rfl
  | _ => cases stepped

theorem inSession_of_inspects (locked : call.task.locked)
    (inspects : call.stage.inspects = some s) : call.inSession = some s := by
  obtain ⟨task, stage⟩ := call
  cases stage <;> cases inspects <;> exact if_pos locked

/-- A call with the mutex of a session that has no data goes on. -/
theorem Ordered.goOnCleared (ordered : m.Ordered)
    (found : m.calls[index]? = some call) (mutex : call.inSession = some s)
    (about : call.stage.finalises = some s) (removed : call.stage ≠ .remove s)
    (inside : s < m.created.length) (cleared : m.Cleared s) :
    (m.goTo index call
      (if call.task.locked then .release s else .unlock s)).Ordered := by
  have held := ordered.sections index s ⟨call, found, mutex⟩
  by_cases locked : call.task.locked
  · rw [if_pos locked]
    refine ordered.goOutside found rfl
      (.of_finalises about (fun same => absurd same removed) ?_ cleared rfl
        (fun _ takes => by cases takes) (.inl cleared))
    intro other mutex'
    have same : some s = some other := (if_pos locked).symm.trans mutex'
    cases same
    exact held
  · rw [if_neg locked]
    refine ordered.goOutside found rfl
      (.of_finalises about (fun same => absurd same removed) ?_
        ⟨inside, fun _ => cleared⟩ rfl (fun _ takes => by cases takes)
        (.inl cleared))
    intro other mutex'
    cases mutex'
    exact held

theorem release_ordered (ordered : m.Ordered)
    (created : m.created[s]? = some session) (data : session.data = none)
    (released : m.release s session = some next) :
    next.Ordered ∧ next.calls = m.calls ∧ next.Cleared s := by
  rw [AttachmentManager.release] at released
  split at released
  · cases released
    exact ⟨ordered, rfl, session, created, data⟩
  · cases giveIdle_eq released
    obtain ⟨-, inFinalised⟩ | ⟨named, -⟩ := ordered.data s session created
    · have changed : AttachmentManager.Ordered { m with
          created := m.created.set s { session with released := true } } :=
        ordered.change created rfl rfl data inFinalised
      refine ⟨{ changed with }, rfl, { session with released := true }, ?_, data⟩
      exact (Ordered.getElem?_changed created s).trans (if_pos rfl)
    · cases named.symm.trans data

/-- A call that has removed its session comes to finalise it. -/
theorem Ordered.goToFinalise (ordered : m.Ordered)
    (found : m.calls[index]? = some call)
    (about : call.stage.finalises = some s)
    (removed : call.stage = .remove s → ¬m.Registered s)
    (notYet : call.stage ≠ .clear s)
    (comes : stage = .finalise s ∨ stage = .lockToFinalise s)
    (held : stage = .finalise s → m.sessionMu s = some index)
    (inside : s < m.created.length) : (m.goTo index call stage).Ordered := by
  have bound : ∀ other, some s = some other → other < m.created.length := by
    rintro other same
    cases same
    exact inside
  obtain rfl | rfl := comes
  · refine ordered.goOutside found rfl (.of_finalises about removed ?_ bound
      rfl (fun _ takes => by cases takes) (.inr ⟨rfl, notYet⟩))
    intro other mutex
    cases mutex
    exact held rfl
  · exact ordered.goOutside found rfl (.of_finalises about removed
      (fun _ mutex => by cases mutex) bound rfl
      (fun _ takes => by cases takes) (.inr ⟨rfl, notYet⟩))

theorem Ordered.advanceRemove (ordered : m.Ordered)
    (found : m.calls[index]? = some ⟨task, .remove s⟩)
    (created : m.created[s]? = some session)
    (own : ∀ other, m.sessions session.id = some other → other = s) :
    ((m.removeSession session.id).goTo index ⟨task, .remove s⟩
      (if task.locked then .finalise s else .lockToFinalise s)).Ordered := by
  obtain ⟨removed, unregistered⟩ := ordered.removeSession created
    ⟨_, List.mem_of_getElem? found, rfl⟩ own
  refine removed.goToFinalise found rfl (fun _ => unregistered) (by simp)
    (by split <;> simp) ?_ (List.getElem?_eq_some_iff.mp created).1
  intro isFinalise
  split at isFinalise
  · rename_i locked
    exact ordered.sections index s ⟨_, found, if_pos locked⟩
  · cases isFinalise

theorem Ordered.advanceFinalise (ordered : m.Ordered)
    (found : m.calls[index]? = some ⟨task, .finalise s⟩)
    (created : m.created[s]? = some session)
    (undisturbed : ∀ other ∈ m.calls,
      other.stage.inspects = some s → other.task.locked)
    (stepped : m.advanceFini index ⟨task, .finalise s⟩ s session
      (.finalise s) = some next) : next.Ordered := by
  rw [AttachmentManager.advanceFini] at stepped
  split at stepped
  case h_1 none' =>
    cases stepped
    exact ordered.goOnCleared found rfl rfl (by simp)
      (List.getElem?_eq_some_iff.mp created).1 ⟨session, created, none'⟩
  case h_2 data has =>
    obtain ⟨m', locked, rest⟩ := Option.bind_eq_some_iff.mp stepped
    cases rest
    have isLive := ordered.live found rfl (by simp [Stage.takesData])
      created has
    obtain rfl : data = s := isLive.2
    refine ordered.enterLibrary found locked
      ((congrArg _ created).trans (Option.map_some ..))
      (.of_finalises rfl (fun same => by cases same) ?_ isLive rfl ?_
        (.inr ⟨rfl, by simp⟩))
    · intro other mutex
      cases mutex
      exact ordered.sections index data ⟨_, found, rfl⟩
    · rintro other takes inspector inCalls inspects
      cases takes
      obtain ⟨place, there⟩ := List.mem_iff_getElem?.mp inCalls
      have mutex := inSession_of_inspects
        (undisturbed inspector inCalls inspects) inspects
      have same := ordered.sections.exclusive ⟨_, found, rfl⟩
        ⟨inspector, there, mutex⟩
      subst same
      cases found.symm.trans there
      cases inspects

theorem Ordered.advanceRelease (ordered : m.Ordered)
    (found : m.calls[index]? = some ⟨task, .release s⟩)
    (created : m.created[s]? = some session)
    (stepped : m.advanceFini index ⟨task, .release s⟩ s session
      (.release s) = some next) : next.Ordered := by
  obtain ⟨m', released, rest⟩ := Option.bind_eq_some_iff.mp stepped
  cases rest
  obtain ⟨other, created', data⟩ :=
    ordered.fits _ (List.mem_of_getElem? found)
  cases created.symm.trans created'
  obtain ⟨releasedOrdered, sameCalls, cleared⟩ :=
    release_ordered ordered created data released
  have found' : m'.calls[index]? = some ⟨task, .release s⟩ := by
    rw [sameCalls, found]
  split
  case isTrue locked =>
    have inside := (List.getElem?_eq_some_iff.mp cleared.choose_spec.1).1
    exact releasedOrdered.goToUnlock found' locked (if_pos locked) inside rfl
  case isFalse => exact releasedOrdered.leave found' rfl

theorem Ordered.advanceUnlock (ordered : m.Ordered)
    (found : m.calls[index]? = some ⟨task, .unlock s⟩) :
    ((m.unlockSession s).goTo index ⟨task, .unlock s⟩
      (if task.locked then .returned else .release s)).Ordered := by
  have held := ordered.sections index s ⟨_, found, rfl⟩
  have fits := ordered.fits _ (List.mem_of_getElem? found)
  split
  case isTrue locked =>
    exact (ordered.leave found rfl).unlockSession held
      (getElem?_goTo_self found) (by simp [Call.inSession, Stage.session])
  case isFalse free =>
    have unlocked := Bool.eq_false_iff.mpr free
    have none' : { task := task, stage := Stage.release s : Call }.inSession
        = none :=
      if_neg free
    have moved : (m.goTo index ⟨task, .unlock s⟩ (.release s)).Ordered := by
      refine ordered.goOutside found rfl (.of_plain ?_ (fits.2 unlocked)
        (fun _ inspects => by cases inspects) rfl rfl)
      intro other mutex
      cases none'.symm.trans mutex
    exact moved.unlockSession held (getElem?_goTo_self found) none'

theorem Ordered.advanceFini (ordered : m.Ordered)
    (found : m.calls[index]? = some call) (about : call.stage.session = some s)
    (created : m.created[s]? = some session)
    (own : call.stage = .remove s →
      ∀ other, m.sessions session.id = some other → other = s)
    (undisturbed : call.stage = .finalise s → ∀ other ∈ m.calls,
      other.stage.inspects = some s → other.task.locked)
    (stepped : m.advanceFini index call s session call.stage = some next) :
    next.Ordered := by
  have fits := ordered.fits call (List.mem_of_getElem? found)
  have inside := (List.getElem?_eq_some_iff.mp created).1
  obtain ⟨task, before⟩ := call
  cases before with
  | remove _ =>
      cases about
      cases stepped
      exact ordered.advanceRemove found created (own rfl)
  | lockToFinalise _ =>
      cases about
      obtain ⟨m', locked, rest⟩ := Option.bind_eq_some_iff.mp stepped
      cases rest
      have lockedOrdered := ordered.lockSession locked
      obtain ⟨-, rfl⟩ := lockSession_eq locked
      exact lockedOrdered.goToFinalise found rfl (fun same => by cases same)
        (by simp) (.inl rfl) (fun _ => Function.update_self s _ m.sessionMu)
        inside
  | finalise _ =>
      cases about
      exact ordered.advanceFinalise found created (undisturbed rfl) stepped
  | finalising _ data =>
      cases about
      obtain rfl : data = s := fits.2
      cases stepped
      have worker : m.created[data]?.map Session.worker =
          some session.worker := by
        rw [created, Option.map_some]
      exact (ordered.finiSessionData found rfl).unlockWorker
        (ordered.library index _ ⟨_, found, worker⟩)
        (getElem?_goTo_self (m := m.finiSessionData data) found) rfl
  | clear _ =>
      cases about
      cases stepped
      have changed : (m.clearData s session).Ordered :=
        ordered.change created rfl rfl rfl fits.2
      refine changed.goOnCleared found rfl rfl (by simp)
        (inside.trans_eq List.length_set.symm)
        ⟨{ session with data := none }, ?_, rfl⟩
      exact (Ordered.getElem?_changed created s).trans (if_pos rfl)
  | release _ =>
      cases about
      exact ordered.advanceRelease found created stepped
  | unlock _ =>
      cases about
      cases stepped
      exact ordered.advanceUnlock found
  | _ => cases stepped

theorem advance_cases (stepped : m.advance index outcome = some next) :
    ∃ call, m.calls[index]? = some call ∧
      ((∃ id, call.stage = .lookup id ∧
          next = m.advanceLookup index call id) ∨
        m.advanceStart index call outcome call.stage = some next ∨
        ∃ s session, call.stage.session = some s ∧
          m.created[s]? = some session ∧
          (m.advanceSession index call s session call.stage = some next ∨
            m.advanceChunk index call outcome s session call.stage =
              some next ∨
            m.advanceFini index call s session call.stage = some next)) := by
  obtain ⟨call, found, stepped⟩ := Option.bind_eq_some_iff.mp stepped
  refine ⟨call, found, ?_⟩
  split at stepped
  case h_1 id stage => exact .inl ⟨id, stage, (Option.some.inj stepped).symm⟩
  case h_2 =>
    split at stepped
    case h_1 => exact .inr (.inl stepped)
    case h_2 s about =>
      obtain ⟨session, created, stepped⟩ := Option.bind_eq_some_iff.mp stepped
      refine .inr (.inr ⟨s, session, about, created, ?_⟩)
      obtain steps | ⟨-, steps⟩ := Option.or_eq_some_iff.mp stepped
      · exact .inl steps
      · obtain steps | ⟨-, steps⟩ := Option.or_eq_some_iff.mp steps
        · exact .inr (.inl steps)
        · exact .inr (.inr steps)

theorem Ordered.advance (ordered : m.Ordered)
    (undisturbed : m.Undisturbed (.advance index outcome))
    (stepped : m.advance index outcome = some next) : next.Ordered := by
  obtain ⟨call, found, ways⟩ := advance_cases stepped
  have guard := undisturbed call found
  obtain ⟨id, stage, rfl⟩ | starts | ⟨s, session, about, created, ways⟩ := ways
  · exact ordered.advanceLookup found (by rw [stage]; rfl)
  · refine ordered.advanceStart found (fun sid worker stage => ?_) starts
    rw [stage] at guard
    exact guard
  · obtain steps | steps | steps := ways
    · exact ordered.advanceSession found about created steps
    · exact ordered.advanceChunk found about created steps
    · refine ordered.advanceFini found about created (fun stage => ?_)
        (fun stage => ?_) steps
      · rw [stage] at guard
        exact guard session created
      · rw [stage] at guard
        exact guard

theorem begin_quiet (m : AttachmentManager) (api : ApiCall) :
    m.Fits api.begin ∧ m.inLibrary api.begin = none ∧
      api.begin.inSession = none ∧ api.begin.stage.inspects = none ∧
      api.begin.stage.takesData = none := by
  cases api
  case startTransaction => exact ⟨rfl, rfl, rfl, rfl, rfl⟩
  all_goals exact ⟨fun _ about => (by cases about), rfl, rfl, rfl, rfl⟩

/-- A call comes in. -/
theorem Ordered.comesIn (ordered : m.Ordered) (api : ApiCall) :
    { m with calls := m.calls ++ [api.begin] }.Ordered := by
  obtain ⟨fits, library, sections, inspects, takesData⟩ := begin_quiet m api
  have cases' {place : Nat} {other : Call}
      (there : (m.calls ++ [api.begin])[place]? = some other) :
      m.calls[place]? = some other ∨ other = api.begin := by
    rw [List.getElem?_append] at there
    split at there
    · exact .inl there
    · exact .inr (List.mem_singleton.mp (List.mem_of_getElem? there))
  have mem {other : Call} (member : other ∈ m.calls ++ [api.begin]) :
      other ∈ m.calls ∨ other = api.begin :=
    (List.mem_append.mp member).imp id List.mem_singleton.mp
  have kept {role : Call → Prop} (some' : ∃ other ∈ m.calls, role other) :
      ∃ other ∈ m.calls ++ [api.begin], role other := by
    obtain ⟨other, member, has⟩ := some'
    exact ⟨other, List.mem_append_left _ member, has⟩
  refine
    { library := ?_
      sections := ?_
      fits := ?_
      apart := ?_
      data := ordered.data
      nodup := ordered.nodup
      finalised := ?_
      map := ordered.map
      finished := ?_
      unregistered := ?_ }
  · rintro place worker ⟨other, there, inside⟩
    obtain before | rfl := cases' there
    · exact ordered.library place worker ⟨other, before, inside⟩
    · cases library.symm.trans inside
  · rintro place s ⟨other, there, inside⟩
    obtain before | rfl := cases' there
    · exact ordered.sections place s ⟨other, before, inside⟩
    · cases sections.symm.trans inside
  · intro other member
    obtain before | rfl := mem member
    · exact ordered.fits other before
    · exact fits
  · intro first firstIn second secondIn s here takes
    obtain firstIn | rfl := mem firstIn
    · obtain secondIn | rfl := mem secondIn
      · exact ordered.apart first firstIn second secondIn s here takes
      · cases takesData.symm.trans takes
    · cases inspects.symm.trans here
  · exact fun s inFinalised =>
      (ordered.finalised s inFinalised).imp id kept
  · intro s inFinished
    obtain ⟨inside, removes⟩ := ordered.finished s inFinished
    exact ⟨inside, fun registered => kept (removes registered)⟩
  · exact fun s inside unregistered =>
      (ordered.unregistered s inside unregistered).imp id kept

theorem Ordered.step (ordered : m.Ordered) {input : Input}
    (undisturbed : m.Undisturbed input) (stepped : m.step input = some next) :
    next.Ordered := by
  cases input with
  | initialise =>
      rw [AttachmentManager.step] at stepped
      split at stepped
      · cases giveIdle_eq stepped
        exact { ordered with }
      · cases stepped
  | call api =>
      cases stepped
      exact ordered.comesIn api
  | collect id =>
      rw [AttachmentManager.step] at stepped
      split at stepped
      · cases stepped
      · cases stepped
        exact ordered.comesIn (.finiSession id)
  | advance index outcome => exact ordered.advance undisturbed stepped

end Steps

end AttachmentManager

end OpenAppsec.Traefik
