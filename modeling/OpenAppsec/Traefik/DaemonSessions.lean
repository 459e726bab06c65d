import OpenAppsec.Traefik.AttachmentManager

/-!
# Sessions of the daemon

What a call relies on where it is: the mutexes it has, the session it is about,
and whether the data of the session are still there.  `StartTransaction`
inspects its session without the mutex of the session, though, and the session
is registered by then: whoever finalises it meanwhile takes the data away.
-/

namespace OpenAppsec.Traefik

open Mutexes

/-- The session whose chunk is inspected. -/
def Stage.inspects : Stage → Option Nat
  | .prepare s | .send s _ | .sending s _ | .build s _ _ | .describing s _
  | .free s _ | .freeing s _ _ => some s
  | _ => none

/-- The session whose data are taken away. -/
def Stage.takesData : Stage → Option Nat
  | .finalising s _ | .clear s => some s
  | _ => none

/-- The session that is removed and finalised. -/
def Stage.finalises : Stage → Option Nat
  | .remove s | .lockToFinalise s | .finalise s | .finalising s _ | .clear s => some s
  | _ => none

/-- The session whose mutex the call has. -/
def Call.inSession (call : Call) : Option Nat :=
  match call.stage with
  | .finalise s | .finalising s _ | .clear s | .unlock s => some s
  | .lock _ | .lockToFinalise _ => none
  | stage => if call.task.locked then stage.session else none

namespace AttachmentManager

variable {next : AttachmentManager} {worker : Nat}

/-- The worker whose library the call is inside. -/
def inLibrary (m : AttachmentManager) (call : Call) : Option Nat :=
  match call.stage with
  | .initialising _ worker => some worker
  | .sending s _ | .describing s _ | .freeing s _ _ | .finalising s _ =>
      m.created[s]?.map Session.worker
  | _ => none

/-- An identifier is not in use when it is handed out, nor the entry of another
session when it is removed; and no session is finalised while the
`StartTransaction` that opened it still inspects it. -/
def SafeAt (m : AttachmentManager) : Stage → Prop
  | .register sid _ => m.sessions sid = none
  | .remove s => ∀ session ∈ m.created[s]?,
      ∀ other ∈ m.sessions session.id, other = s
  | .finalise s => ∀ other ∈ m.calls,
      other.stage.inspects = some s → other.task.locked
  | _ => True

instance (m : AttachmentManager) : DecidablePred m.SafeAt
  | .register sid _ => inferInstanceAs (Decidable (m.sessions sid = none))
  | .remove s => inferInstanceAs (Decidable (∀ session ∈ m.created[s]?,
      ∀ other ∈ m.sessions session.id, other = s))
  | .finalise s => inferInstanceAs (Decidable (∀ other ∈ m.calls,
      other.stage.inspects = some s → other.task.locked))
  | .takeId | .takeSecondId | .acquire _ | .queue _ | .initSession _ _
  | .initialising _ _ | .giveBack _ | .lookup _ | .lock _ | .check _
  | .prepare _ | .send _ _ | .sending _ _ | .build _ _ _ | .describing _ _
  | .free _ _ | .freeing _ _ _ | .decide _ _ | .lockToFinalise _
  | .finalising _ _ | .clear _ | .release _ | .unlock _ | .returned =>
      isTrue trivial

/-- The call that goes a step further is not disturbed. -/
def Undisturbed (m : AttachmentManager) : Input → Prop
  | .advance index _ => ∀ call ∈ m.calls[index]?, m.SafeAt call.stage
  | _ => True

instance (m : AttachmentManager) : DecidablePred m.Undisturbed
  | .advance index _ =>
      inferInstanceAs (Decidable (∀ call ∈ m.calls[index]?,
        m.SafeAt call.stage))
  | .initialise | .call _ | .collect _ => isTrue trivial

/-- The session has its data. -/
def Live (m : AttachmentManager) (s : Nat) : Prop :=
  s ∉ m.finalised ∧
    ∃ session, m.created[s]? = some session ∧ session.data = some s

/-- The session has no data any more. -/
def Cleared (m : AttachmentManager) (s : Nat) : Prop :=
  ∃ session, m.created[s]? = some session ∧ session.data = none

def Registered (m : AttachmentManager) (s : Nat) : Prop :=
  ∃ id, m.sessions id = some s

/-- What a call can rely on where it is. -/
def Fits (m : AttachmentManager) (call : Call) : Prop :=
  match call.stage with
  | .prepare s | .build s _ _ | .free s _ => m.Live s
  | .send s data | .sending s data | .describing s data
  | .freeing s data _ => m.Live s ∧ data = some s
  | .finalising s data => m.Live s ∧ data = s
  | .clear s => s < m.created.length ∧ s ∈ m.finalised
  | .release s => m.Cleared s
  | .unlock s =>
      s < m.created.length ∧ (call.task.locked = false → m.Cleared s)
  | .takeId | .takeSecondId | .acquire _ | .queue _ | .initSession _ _
  | .initialising _ _ | .giveBack _ | .register _ _ =>
      call.task.locked = false
  | .lock s | .check s => s < m.created.length ∧ call.task.locked
  | stage => ∀ s, stage.session = some s → s < m.created.length

/-- The invariant of the sessions and their mutexes. -/
structure Ordered (m : AttachmentManager) : Prop where
  library : Guarded m.workerMu fun index worker =>
    ∃ call, m.calls[index]? = some call ∧ m.inLibrary call = some worker
  sections : Guarded m.sessionMu fun index s =>
    ∃ call, m.calls[index]? = some call ∧ call.inSession = some s
  fits : ∀ call ∈ m.calls, m.Fits call
  apart : ∀ first ∈ m.calls, ∀ second ∈ m.calls, ∀ s,
    first.stage.inspects = some s → second.stage.takesData ≠ some s
  data : ∀ s session, m.created[s]? = some session →
    (session.data = none ∧ s ∈ m.finalised) ∨
      (session.data = some s ∧ session.released = false)
  nodup : m.finalised.Nodup
  finalised : ∀ s ∈ m.finalised,
    m.Cleared s ∨ ∃ call ∈ m.calls, call.stage = .clear s
  map : ∀ id s, m.sessions id = some s →
    ∃ session, m.created[s]? = some session ∧ session.id = id
  finished : ∀ s ∈ m.finished, s < m.created.length ∧
    (m.Registered s → ∃ call ∈ m.calls, call.stage = .remove s)
  unregistered : ∀ s < m.created.length, ¬m.Registered s →
    m.Cleared s ∨ ∃ call ∈ m.calls, call.stage.finalises = some s

variable {m : AttachmentManager} {index : Nat} {call : Call} {stage : Stage}

theorem Fits.session_lt (fits : m.Fits call) {s : Nat}
    (about : call.stage.session = some s) : s < m.created.length := by
  have lt_of_found {session : Session} (found : m.created[s]? = some session) :
      s < m.created.length :=
    (List.getElem?_eq_some_iff.mp found).1
  obtain ⟨task, stage⟩ := call
  cases stage <;> cases about
  case prepare | build | free => exact lt_of_found fits.2.choose_spec.1
  case send | sending | describing | freeing | finalising =>
    exact lt_of_found fits.1.2.choose_spec.1
  case release => exact lt_of_found fits.choose_spec.1
  case clear | unlock | lock | check => exact fits.1
  case decide | remove | lockToFinalise | finalise => exact fits s rfl

theorem getElem?_goTo {other : Call} {place : Nat}
    (there : (m.goTo index call stage).calls[place]? = some other) :
    (place = index ∧ other = { call with stage := stage }) ∨
      (place ≠ index ∧ m.calls[place]? = some other) := by
  have there' : (m.calls.set index { call with stage := stage })[place]? =
    some other := there
  by_cases same : place = index
  · subst same
    rw [List.getElem?_set_self'] at there'
    obtain ⟨_, -, rfl⟩ := Option.map_eq_some_iff.mp there'
    exact .inl ⟨rfl, rfl⟩
  · rw [List.getElem?_set_ne (Ne.symm same)] at there'
    exact .inr ⟨same, there'⟩

theorem mem_goTo {other : Call}
    (member : other ∈ (m.goTo index call stage).calls) :
    other ∈ m.calls ∨ other = { call with stage := stage } :=
  List.mem_or_eq_of_mem_set member

theorem mem_goTo_self (found : m.calls[index]? = some call) :
    { call with stage := stage } ∈ (m.goTo index call stage).calls := by
  obtain ⟨inside, -⟩ := List.getElem?_eq_some_iff.mp found
  exact List.mem_set inside _

theorem exists_goTo {role : Call → Prop} (found : m.calls[index]? = some call)
    (some' : ∃ other ∈ m.calls, role other)
    (keeps : role call → role { call with stage := stage }) :
    ∃ other ∈ (m.goTo index call stage).calls, role other := by
  obtain ⟨other, member, has⟩ := some'
  obtain ⟨place, there⟩ := List.mem_iff_getElem?.mp member
  by_cases same : place = index
  · subst same
    cases found.symm.trans there
    exact ⟨_, mem_goTo_self found, keeps has⟩
  · refine ⟨other, List.mem_iff_getElem?.mpr ⟨place, ?_⟩, has⟩
    have unmoved := List.getElem?_set_ne (Ne.symm same) (l := m.calls)
      (a := { call with stage := stage })
    exact unmoved.trans there

/-- What has to be the case for a call to go to a stage. -/
structure Allows (m : AttachmentManager) (index : Nat) (call : Call)
    (stage : Stage) : Prop where
  sections : ∀ s, { call with stage := stage : Call }.inSession = some s →
    m.sessionMu s = some index
  fits : m.Fits { call with stage := stage }
  inspects : ∀ s, stage.inspects = some s → call.stage.inspects = some s ∨
    ∀ other ∈ m.calls, other.stage.takesData ≠ some s
  takesData : ∀ s, stage.takesData = some s →
    call.stage.takesData = some s ∨
      ∀ other ∈ m.calls, other.stage.inspects ≠ some s
  clear : ∀ s, call.stage = .clear s → m.Cleared s
  remove : ∀ s, call.stage = .remove s → ¬m.Registered s
  finalises : ∀ s, call.stage.finalises = some s →
    m.Cleared s ∨ stage.finalises = some s

theorem inspects_ne_takesData (s : Nat) (inspects : stage.inspects = some s) :
    stage.takesData ≠ some s := by
  cases stage <;> cases inspects <;> simp [Stage.takesData]

theorem Ordered.goTo (ordered : m.Ordered)
    (found : m.calls[index]? = some call)
    (library : ∀ worker,
      m.inLibrary { call with stage := stage } = some worker →
        m.workerMu worker = some index)
    (allows : m.Allows index call stage) :
    (m.goTo index call stage).Ordered := by
  have member := List.mem_of_getElem? found
  refine
    { library := ?_
      sections := ?_
      fits := ?_
      apart := ?_
      data := ordered.data
      nodup := ordered.nodup
      finalised := ?_
      map := ordered.map
      finished := ?_
      unregistered := ?_ }
  · rintro place worker ⟨other, there, inside⟩
    obtain ⟨rfl, rfl⟩ | ⟨-, before⟩ := getElem?_goTo there
    · exact library worker inside
    · exact ordered.library place worker ⟨other, before, inside⟩
  · rintro place s ⟨other, there, inside⟩
    obtain ⟨rfl, rfl⟩ | ⟨-, before⟩ := getElem?_goTo there
    · exact allows.sections s inside
    · exact ordered.sections place s ⟨other, before, inside⟩
  · intro other inCalls
    obtain before | rfl := mem_goTo inCalls
    · exact ordered.fits other before
    · exact allows.fits
  · intro first firstIn second secondIn s inspects
    obtain firstIn | rfl := mem_goTo firstIn <;>
      obtain secondIn | rfl := mem_goTo secondIn
    · exact ordered.apart first firstIn second secondIn s inspects
    · intro takes
      obtain before | none' := allows.takesData s takes
      · exact ordered.apart first firstIn call member s inspects before
      · exact none' first firstIn inspects
    · obtain before | none' := allows.inspects s inspects
      · exact ordered.apart call member second secondIn s before
      · exact none' second secondIn
    · exact inspects_ne_takesData s inspects
  · intro s inFinalised
    obtain cleared | there := ordered.finalised s inFinalised
    · exact .inl cleared
    · by_cases same : call.stage = .clear s
      · exact .inl (allows.clear s same)
      · exact .inr (exists_goTo found there fun here => absurd here same)
  · intro s inFinished
    obtain ⟨inside, removes⟩ := ordered.finished s inFinished
    refine ⟨inside, fun registered => ?_⟩
    exact exists_goTo found (removes registered) fun here =>
      absurd registered (allows.remove s here)
  · intro s inside unregistered
    obtain cleared | there := ordered.unregistered s inside unregistered
    · exact .inl cleared
    · by_cases role : call.stage.finalises = some s
      · obtain cleared | stays := allows.finalises s role
        · exact .inl cleared
        · exact .inr ⟨_, mem_goTo_self found, stays⟩
      · exact .inr (exists_goTo found there fun here => absurd here role)

theorem lockWorker_eq (locked : m.lockWorker worker index = some next) :
    m.workerMu worker = none ∧ next = { m with
      workerMu := Function.update m.workerMu worker (some index) } := by
  unfold lockWorker at locked
  split at locked
  case h_1 free => exact ⟨free, (Option.some.inj locked).symm⟩
  case h_2 => cases locked

theorem lockSession_eq {s : Nat} (locked : m.lockSession s index = some next) :
    m.sessionMu s = none ∧ next = { m with
      sessionMu := Function.update m.sessionMu s (some index) } := by
  unfold lockSession at locked
  split at locked
  case h_1 free => exact ⟨free, (Option.some.inj locked).symm⟩
  case h_2 => cases locked

namespace Ordered

theorem lockWorker (ordered : m.Ordered)
    (locked : m.lockWorker worker index = some next) :
    next.Ordered := by
  obtain ⟨free, rfl⟩ := lockWorker_eq locked
  exact { ordered with
    library := ordered.library.lock free fun _ _ inside => .inl inside }

theorem lockSession {s : Nat} (ordered : m.Ordered)
    (locked : m.lockSession s index = some next) :
    next.Ordered := by
  obtain ⟨free, rfl⟩ := lockSession_eq locked
  exact { ordered with
    sections := ordered.sections.lock free fun _ _ inside => .inl inside }

theorem unlockWorker (ordered : m.Ordered)
    (held : m.workerMu worker = some index)
    (found : m.calls[index]? = some call) (outside : m.inLibrary call = none) :
    (m.unlockWorker worker).Ordered := by
  refine { ordered with library := ordered.library.unlock held ?_ }
  rintro place worker' ⟨other, there, inside⟩
  refine ⟨⟨other, there, inside⟩, ?_⟩
  rintro ⟨rfl, -⟩
  cases found.symm.trans there
  cases outside.symm.trans inside

theorem unlockSession {s : Nat} (ordered : m.Ordered)
    (held : m.sessionMu s = some index)
    (found : m.calls[index]? = some call)
    (outside : call.inSession = none) : (m.unlockSession s).Ordered := by
  refine { ordered with sections := ordered.sections.unlock held ?_ }
  rintro place s' ⟨other, there, inside⟩
  refine ⟨⟨other, there, inside⟩, ?_⟩
  rintro ⟨rfl, -⟩
  cases found.symm.trans there
  cases outside.symm.trans inside

/-- A session that is not registered, or is on its way out, may count as
finished. -/
theorem finish {s : Nat} (ordered : m.Ordered) (inside : s < m.created.length)
    (removes : m.Registered s → ∃ call ∈ m.calls, call.stage = .remove s) :
    (m.finish s).Ordered := by
  refine { ordered with finished := ?_ }
  intro other inFinished
  obtain before | here := List.mem_append.mp inFinished
  · exact ordered.finished other before
  · cases List.mem_singleton.mp here
    exact ⟨inside, removes⟩

/-- The entry that a call removes is that of its session. -/
theorem removeSession {s : Nat} {session : Session} (ordered : m.Ordered)
    (created : m.created[s]? = some session)
    (removes : ∃ call ∈ m.calls, call.stage = .remove s)
    (own : ∀ other, m.sessions session.id = some other → other = s) :
    (m.removeSession session.id).Ordered ∧
      ¬(m.removeSession session.id).Registered s := by
  have entry (id other : Nat) :
      (m.removeSession session.id).sessions id = some other ↔
        m.sessions id = some other ∧ id ≠ session.id := by
    change Function.update m.sessions session.id none id = some other ↔ _
    by_cases same : id = session.id
    · subst same
      simp
    · simp [same]
  constructor
  · refine
      { ordered with
        map := fun id other registered =>
          ordered.map id other ((entry id other).mp registered).1
        finished := ?_
        unregistered := ?_ }
    · intro other inFinished
      obtain ⟨inside, still⟩ := ordered.finished other inFinished
      exact ⟨inside, fun ⟨id, registered⟩ =>
        still ⟨id, ((entry id other).mp registered).1⟩⟩
    · intro other inside unregistered
      by_cases same : other = s
      · subst same
        obtain ⟨call, member, stage⟩ := removes
        exact .inr ⟨call, member, by rw [stage]; rfl⟩
      · apply ordered.unregistered other inside
        rintro ⟨id, registered⟩
        apply unregistered
        refine ⟨id, (entry id other).mpr ⟨registered, ?_⟩⟩
        rintro rfl
        exact same (own other registered)
  · rintro ⟨id, registered⟩
    obtain ⟨before, different⟩ := (entry id s).mp registered
    obtain ⟨session', created', sameId⟩ := ordered.map id s before
    cases created.symm.trans created'
    exact different sameId.symm

end Ordered

theorem Fits.of_changes (fits : m.Fits call)
    (inside : m.created.length ≤ next.created.length)
    (finalised : ∀ s ∈ m.finalised, s ∈ next.finalised)
    (live : ∀ s, call.stage.inspects = some s ∨
      call.stage = .finalising s s → m.Live s → next.Live s)
    (cleared : ∀ s, m.Cleared s → next.Cleared s) : next.Fits call := by
  obtain ⟨task, stage⟩ := call
  cases stage
  case prepare s | build s _ _ | free s _ => exact live s (.inl rfl) fits
  case send s _ | sending s _ | describing s _ | freeing s _ _ =>
    exact ⟨live s (.inl rfl) fits.1, fits.2⟩
  case finalising s data =>
    obtain ⟨isLive, rfl⟩ := fits
    exact ⟨live data (.inr rfl) isLive, rfl⟩
  case clear s =>
    exact ⟨Nat.lt_of_lt_of_le fits.1 inside, finalised s fits.2⟩
  case release s => exact cleared s fits
  case unlock s =>
    exact ⟨Nat.lt_of_lt_of_le fits.1 inside,
      fun unlocked => cleared s (fits.2 unlocked)⟩
  case takeId | takeSecondId | acquire | queue | initSession | initialising
    | giveBack | register =>
      exact fits
  case lock | check => exact ⟨Nat.lt_of_lt_of_le fits.1 inside, fits.2⟩
  all_goals
    exact fun s about => Nat.lt_of_lt_of_le (fits s about) inside

theorem inLibrary_congr
    (same : ∀ s, call.stage.session = some s →
      next.created[s]?.map Session.worker =
        m.created[s]?.map Session.worker) :
    next.inLibrary call = m.inLibrary call := by
  obtain ⟨task, stage⟩ := call
  cases stage
  case sending s _ | describing s _ | freeing s _ _ | finalising s _ =>
    exact same s rfl
  all_goals rfl

theorem library_congr (calls : next.calls = m.calls)
    (workerMu : next.workerMu = m.workerMu)
    (same : ∀ call ∈ m.calls, next.inLibrary call = m.inLibrary call)
    (library : Guarded m.workerMu fun index worker =>
      ∃ call, m.calls[index]? = some call ∧ m.inLibrary call = some worker) :
    Guarded next.workerMu fun index worker =>
      ∃ call, next.calls[index]? = some call ∧
        next.inLibrary call = some worker := by
  rw [workerMu]
  apply library.mono
  rintro place worker ⟨call, there, inside⟩
  rw [calls] at there
  rw [same call (List.mem_of_getElem? there)] at inside
  exact ⟨call, there, inside⟩

namespace Ordered

theorem finalised_lt (ordered : m.Ordered) {s : Nat}
    (inFinalised : s ∈ m.finalised) : s < m.created.length := by
  obtain ⟨session, created, -⟩ | ⟨call, member, stage⟩ :=
    ordered.finalised s inFinalised
  · exact (List.getElem?_eq_some_iff.mp created).1
  · exact (ordered.fits call member).session_lt (by rw [stage]; rfl)

section Register

variable {session : Session}

theorem created_registerSession {s : Nat} {old : Session}
    (created : m.created[s]? = some old) :
    (m.registerSession session).created[s]? = some old := by
  obtain ⟨inside, -⟩ := List.getElem?_eq_some_iff.mp created
  exact (List.getElem?_append_left inside).trans created

theorem registered_registerSession (free : m.sessions session.id = none)
    (s : Nat) :
    (m.registerSession session).Registered s ↔
      m.Registered s ∨ s = m.created.length := by
  have entry (id : Nat) : (m.registerSession session).sessions id =
      if id = session.id then some m.created.length else m.sessions id :=
    Function.update_apply m.sessions session.id _ id
  constructor
  · rintro ⟨id, found⟩
    rw [entry] at found
    split at found
    · exact .inr (Option.some.inj found).symm
    · exact .inl ⟨id, found⟩
  · rintro (⟨id, found⟩ | rfl)
    · refine ⟨id, ?_⟩
      rw [entry, if_neg, found]
      rintro rfl
      cases free.symm.trans found
    · exact ⟨session.id, by rw [entry, if_pos rfl]⟩

/-- A new session is registered with its data, under an identifier that is
free. -/
theorem registerSession (ordered : m.Ordered)
    (data : session.data = some m.created.length)
    (unreleased : session.released = false)
    (free : m.sessions session.id = none) :
    (m.registerSession session).Ordered := by
  have longer : m.created.length ≤ (m.registerSession session).created.length :=
    List.length_append ▸ Nat.le_add_right _ _
  have cleared (s : Nat) :
      m.Cleared s → (m.registerSession session).Cleared s :=
    fun ⟨old, created, none'⟩ => ⟨old, created_registerSession created, none'⟩
  have live (s : Nat) : m.Live s → (m.registerSession session).Live s :=
    fun ⟨fresh, old, created, some'⟩ =>
      ⟨fresh, old, created_registerSession created, some'⟩
  refine
    { library := ?_
      sections := ordered.sections
      fits := ?_
      apart := ordered.apart
      data := ?_
      nodup := ordered.nodup
      finalised := ?_
      map := ?_
      finished := ?_
      unregistered := ?_ }
  · refine library_congr (m := m) rfl rfl ?_ ordered.library
    intro call member
    apply inLibrary_congr
    intro s about
    have inside := (ordered.fits call member).session_lt about
    exact congrArg (Option.map Session.worker)
      (List.getElem?_append_left inside)
  · intro call member
    exact (ordered.fits call member).of_changes longer (fun _ inList => inList)
      (fun s _ => live s) cleared
  · intro s other created
    obtain ⟨inside, -⟩ := List.getElem?_eq_some_iff.mp created
    by_cases old : s < m.created.length
    · exact ordered.data s other
        ((List.getElem?_append_left old).symm.trans created)
    · have last : s = m.created.length := by
        have length : (m.registerSession session).created.length =
            m.created.length + 1 := List.length_append
        omega
      subst last
      cases (List.getElem?_concat_length).symm.trans created
      exact .inr ⟨data, unreleased⟩
  · intro s inFinalised
    exact (ordered.finalised s inFinalised).imp (cleared s) id
  · intro id s found
    by_cases same : id = session.id
    · subst same
      have here : some m.created.length = some s :=
        (Function.update_self session.id _ m.sessions).symm.trans found
      cases here
      exact ⟨session, List.getElem?_concat_length, rfl⟩
    · have before : m.sessions id = some s :=
        (Function.update_of_ne same _ m.sessions).symm.trans found
      obtain ⟨old, created, sameId⟩ := ordered.map id s before
      exact ⟨old, created_registerSession created, sameId⟩
  · intro s inFinished
    obtain ⟨inside, removes⟩ := ordered.finished s inFinished
    refine ⟨Nat.lt_of_lt_of_le inside longer, ?_⟩
    intro registered
    obtain before | rfl := (registered_registerSession free s).mp registered
    · exact removes before
    · exact absurd inside (Nat.lt_irrefl _)
  · intro s inside unregistered
    rw [registered_registerSession free, not_or] at unregistered
    have length : (m.registerSession session).created.length =
        m.created.length + 1 := List.length_append
    have old : s < m.created.length := by omega
    exact (ordered.unregistered s old unregistered.1).imp (cleared s) id

end Register

section Change

variable {s : Nat} {session changed : Session}

theorem getElem?_changed (created : m.created[s]? = some session)
    (place : Nat) :
    (m.created.set s changed)[place]? =
      if place = s then some changed else m.created[place]? := by
  obtain ⟨inside, -⟩ := List.getElem?_eq_some_iff.mp created
  by_cases same : place = s
  · subst same
    rw [if_pos rfl, List.getElem?_set_self inside]
  · rw [if_neg same, List.getElem?_set_ne (Ne.symm same)]

/-- A session whose data were finalised has none; its identifier and its
worker stay. -/
theorem change (ordered : m.Ordered)
    (created : m.created[s]? = some session)
    (sameId : changed.id = session.id)
    (worker : changed.worker = session.worker)
    (data : changed.data = none) (inFinalised : s ∈ m.finalised) :
    { m with created := m.created.set s changed }.Ordered := by
  have cleared (place : Nat) (before : m.Cleared place) :
      { m with created := m.created.set s changed }.Cleared place := by
    obtain ⟨old, there, none'⟩ := before
    by_cases same : place = s
    · exact ⟨changed, (getElem?_changed created place).trans (if_pos same),
        data⟩
    · exact ⟨old, ((getElem?_changed created place).trans
        (if_neg same)).trans there, none'⟩
  refine
    { ordered with
      library := ?_
      fits := ?_
      data := ?_
      finalised := ?_
      map := ?_
      finished := ?_
      unregistered := ?_ }
  · refine library_congr (m := m) rfl rfl ?_ ordered.library
    intro call _
    apply inLibrary_congr
    intro place _
    change Option.map _ (m.created.set s changed)[place]? = _
    rw [getElem?_changed created]
    split
    case isTrue same =>
      rw [same, created, Option.map_some, Option.map_some, worker]
    case isFalse => rfl
  · intro call member
    apply (ordered.fits call member).of_changes
    · exact Nat.le_of_eq List.length_set.symm
    · exact fun _ inList => inList
    · rintro place needed ⟨fresh, old, there, some'⟩
      refine ⟨fresh, old, ?_, some'⟩
      refine ((getElem?_changed created place).trans (if_neg ?_)).trans there
      rintro rfl
      exact fresh inFinalised
    · exact cleared
  · intro place other there
    have there' : (m.created.set s changed)[place]? = some other := there
    rw [getElem?_changed created] at there'
    split at there'
    case isTrue same =>
      cases there'
      exact .inl ⟨data, same ▸ inFinalised⟩
    case isFalse => exact ordered.data place other there'
  · intro place inList
    exact (ordered.finalised place inList).imp (cleared place) id
  · intro id place found
    obtain ⟨old, there, oldId⟩ := ordered.map id place found
    by_cases same : place = s
    · subst same
      cases created.symm.trans there
      exact ⟨changed, (getElem?_changed created place).trans (if_pos rfl),
        sameId.trans oldId⟩
    · exact ⟨old, ((getElem?_changed created place).trans
        (if_neg same)).trans there, oldId⟩
  · intro place inFinished
    obtain ⟨inside, removes⟩ := ordered.finished place inFinished
    exact ⟨inside.trans_eq List.length_set.symm, removes⟩
  · intro place inside unregistered
    have inside' := inside.trans_eq List.length_set
    exact (ordered.unregistered place inside' unregistered).imp
      (cleared place) id

end Change

/-- `FiniSessionData` returns: no other call uses the data, because each has
the mutex of the session or is known not to inspect it. -/
theorem finiSessionData {s : Nat} (ordered : m.Ordered)
    (found : m.calls[index]? = some call)
    (here : call.stage = .finalising s s) :
    ((m.finiSessionData s).goTo index call (.clear s)).Ordered := by
  obtain ⟨task, stage⟩ := call
  cases here
  have member := List.mem_of_getElem? found
  have isLive : m.Live s := (ordered.fits _ member).1
  have kept {other : Nat} (inFinalised : other ∈ m.finalised) :
      other ∈ m.finalised ++ [s] :=
    List.mem_append_left _ inFinalised
  refine
    { library := ?_
      sections := ?_
      fits := ?_
      apart := ?_
      data := ?_
      nodup := ?_
      finalised := ?_
      map := ordered.map
      finished := ?_
      unregistered := ?_ }
  · rintro place worker ⟨other, there, inside⟩
    obtain ⟨rfl, rfl⟩ | ⟨-, before⟩ := getElem?_goTo there
    · cases inside
    · exact ordered.library place worker ⟨other, before, inside⟩
  · rintro place s' ⟨other, there, inside⟩
    obtain ⟨rfl, rfl⟩ | ⟨-, before⟩ := getElem?_goTo there
    · exact ordered.sections place s' ⟨_, found, inside⟩
    · exact ordered.sections place s' ⟨other, before, inside⟩
  · intro other inCalls
    obtain ⟨place, there⟩ := List.mem_iff_getElem?.mp inCalls
    obtain ⟨rfl, rfl⟩ | ⟨elsewhere, before⟩ := getElem?_goTo there
    · exact ⟨(ordered.fits _ member).session_lt rfl,
        List.mem_append_right _ (List.mem_singleton_self s)⟩
    · have otherIn := List.mem_of_getElem? before
      refine Fits.of_changes (ordered.fits other otherIn) (Nat.le_refl _)
        (fun _ => kept) ?_ ?_
      · rintro s' needed ⟨fresh, created⟩
        refine ⟨?_, created⟩
        intro inFinalised
        obtain old | here := List.mem_append.mp inFinalised
        · exact fresh old
        · cases List.mem_singleton.mp here
          obtain inspects | stage := needed
          · exact ordered.apart other otherIn _ member s inspects rfl
          · have mutex : other.inSession = some s := by
              rw [Call.inSession, stage]
            exact elsewhere (ordered.sections.exclusive
              ⟨other, before, mutex⟩ ⟨_, found, rfl⟩)
      · exact fun _ cleared => cleared
  · intro first firstIn second secondIn s' inspects
    obtain firstIn | rfl := mem_goTo firstIn
    · obtain secondIn | rfl := mem_goTo secondIn
      · exact ordered.apart first firstIn second secondIn s' inspects
      · exact ordered.apart first firstIn _ member s' inspects
    · cases inspects
  · intro s' session created
    exact (ordered.data s' session created).imp
      (fun ⟨data, inFinalised⟩ => ⟨data, kept inFinalised⟩) id
  · have apart : s ∉ m.finalised := isLive.1
    exact List.nodup_append.mpr ⟨ordered.nodup, List.pairwise_singleton _ s,
      fun old inOld new inNew same =>
        apart (List.mem_singleton.mp inNew ▸ same ▸ inOld)⟩
  · intro s' inFinalised
    obtain old | new := List.mem_append.mp inFinalised
    · exact (ordered.finalised s' old).imp id fun there =>
        exists_goTo (m := m) found there fun stage => by cases stage
    · cases List.mem_singleton.mp new
      exact .inr ⟨_, mem_goTo_self (m := m) found, rfl⟩
  · intro s' inFinished
    obtain ⟨inside, removes⟩ := ordered.finished s' inFinished
    exact ⟨inside, fun registered =>
      exists_goTo (m := m) found (removes registered) fun stage => by
        cases stage⟩
  · intro s' inside unregistered
    exact (ordered.unregistered s' inside unregistered).imp id fun there =>
      exists_goTo (m := m) found there id

end Ordered

end AttachmentManager

end OpenAppsec.Traefik
