import Mathlib.Algebra.Group.Nat.Defs
import Mathlib.Algebra.Ring.Int.Defs
import Mathlib.Data.List.Dedup
import Mathlib.Data.List.Perm.Subperm
import OpenAppsec.Library.Trace

/-!
# The worker threads of Envoy

`ConfigFactory` makes the filter of a stream on the worker thread that serves
it.  A thread gets one of the attachments when it first comes, and a filter a
session id from a counter that the threads share.  No lock is taken: the
lookup, the length, the two writes, the addition and the load are steps of
their own, so that steps of other threads may lie between any two of them.
-/

namespace OpenAppsec.Envoy

/-- What `ConfigFactory` has taken for a filter: `session_id`, and the id
that `InitSessionData` is given. -/
structure CreatedFilter where
  thread : Nat
  workerId : Nat
  sessionId : Int
  sessionData : Nat
  deriving DecidableEq

/-- How far the call of a thread is, with its `map_size` or `worker_id`. -/
inductive FactoryStage where
  | idle
  | missed
  | sized (mapSize : Nat)
  | recorded (mapSize : Nat)
  | entered
  | found (workerId : Nat)
  | added (workerId : Nat)
  deriving DecidableEq

/-- The thread was not in the map, and is not yet. -/
def FactoryStage.visitsFirst : FactoryStage → Bool
  | missed => true
  | sized _ => true
  | recorded _ => true
  | _ => false

/-- The global variables, where each thread is, and the filters so far.
`attachmentToThread` lists the threads in the order of their keys. -/
structure Factory where
  numOfAttachments : Nat
  attachmentToThread : List Nat
  threadToAttachment : Nat → Option Nat
  filterId : Int
  stage : Nat → FactoryStage
  filters : List CreatedFilter

inductive FactoryReport where
  | goesOn
  | panics
  | created (filter : CreatedFilter)
  deriving DecidableEq

namespace Factory

def start (numOfAttachments : Nat) : Factory where
  numOfAttachments
  attachmentToThread := []
  threadToAttachment := fun _ => none
  filterId := 0
  stage := fun _ => .idle
  filters := []

def goTo (thread : Nat) (stage : FactoryStage) (factory : Factory) :
    Factory :=
  { factory with stage := Function.update factory.stage thread stage }

/-- `attachment_to_thread_mapping[map_size] = worker_thread_id`, at a key that
the map has or at the next one. -/
def record (factory : Factory) (mapSize thread : Nat) : Factory :=
  let threads := factory.attachmentToThread
  { factory with
    attachmentToThread :=
      threads.take mapSize ++ thread :: threads.drop (mapSize + 1) }

/-- `thread_to_attachment_mapping[worker_thread_id] = map_size`. -/
def assign (factory : Factory) (thread mapSize : Nat) : Factory :=
  { factory with
    threadToAttachment :=
      Function.update factory.threadToAttachment thread (some mapSize) }

/-- The addition of an `atomic.Int64`. -/
def add (factory : Factory) : Factory :=
  { factory with filterId := (factory.filterId + 1).bmod (2 ^ 64) }

/-- The filter of a call; `SessionID` is an unsigned number of 32 bits. -/
def created (factory : Factory) (thread workerId : Nat) : CreatedFilter where
  thread
  workerId
  sessionId := factory.filterId
  sessionData := (factory.filterId % 2 ^ 32).toNat

/-- The next step of a thread: the lookup of a new call, `map_size` and its
check, the writes to the two maps, `worker_id`, `filter_id.Add(1)`, and
`filter_id.Load()` with what comes after it. -/
def step (factory : Factory) (thread : Nat) : FactoryReport × Factory :=
  match factory.stage thread with
  | .idle =>
      let known := (factory.threadToAttachment thread).isSome
      (.goesOn, factory.goTo thread (if known then .entered else .missed))
  | .missed =>
      let mapSize := factory.attachmentToThread.length
      if mapSize < factory.numOfAttachments then
        (.goesOn, factory.goTo thread (.sized mapSize))
      else (.panics, factory.goTo thread .idle)
  | .sized mapSize =>
      (.goesOn,
        (factory.record mapSize thread).goTo thread (.recorded mapSize))
  | .recorded mapSize =>
      (.goesOn, (factory.assign thread mapSize).goTo thread .entered)
  | .entered =>
      -- a key that is not there would read as 0
      let workerId := (factory.threadToAttachment thread).getD 0
      (.goesOn, factory.goTo thread (.found workerId))
  | .found workerId =>
      (.goesOn, factory.add.goTo thread (.added workerId))
  | .added workerId =>
      let filter := factory.created thread workerId
      (.created filter,
        { factory with filters := factory.filters ++ [filter] }.goTo thread
          .idle)

/-- No first visit begins while another one is under way, and the counter
does not overflow. -/
structure Regular (factory : Factory) (thread : Nat) : Prop where
  alone : factory.stage thread = .idle →
    factory.threadToAttachment thread = none →
      ∀ other, (factory.stage other).visitsFirst = false
  counts : factory.filterId + 1 < 2 ^ 63

/-- What a call knows of the maps and of the counter, by how far it is. -/
def Knows (factory : Factory) (thread : Nat) : FactoryStage → Prop
  | .idle => True
  | .missed => factory.threadToAttachment thread = none
  | .sized mapSize =>
      factory.threadToAttachment thread = none ∧
        mapSize = factory.attachmentToThread.length ∧
        mapSize < factory.numOfAttachments
  | .recorded mapSize =>
      factory.threadToAttachment thread = none ∧
        factory.attachmentToThread[mapSize]? = some thread
  | .entered => (factory.threadToAttachment thread).isSome
  | .found workerId => factory.threadToAttachment thread = some workerId
  | .added workerId =>
      factory.threadToAttachment thread = some workerId ∧
        ∀ filter ∈ factory.filters, filter.thread = thread →
          filter.sessionId < factory.filterId

/-- The two maps agree, but for the thread between its two writes, and the
filters of a thread have its attachment and ids that the counter passed. -/
structure Sound (factory : Factory) : Prop where
  owner : ∀ thread workerId,
    factory.threadToAttachment thread = some workerId →
      factory.attachmentToThread[workerId]? = some thread
  listed : ∀ thread workerId,
    factory.attachmentToThread[workerId]? = some thread →
      factory.threadToAttachment thread = some workerId ∨
        factory.stage thread = .recorded workerId
  distinct : factory.attachmentToThread.Nodup
  bounded : factory.attachmentToThread.length ≤ factory.numOfAttachments
  alone : ∃ visitor, ∀ thread,
    (factory.stage thread).visitsFirst = true → thread = visitor
  knows : ∀ thread, factory.Knows thread (factory.stage thread)
  owned : ∀ filter ∈ factory.filters,
    factory.threadToAttachment filter.thread = some filter.workerId
  counted : 0 ≤ factory.filterId
  passed : ∀ filter ∈ factory.filters,
    0 ≤ filter.sessionId ∧ filter.sessionId ≤ factory.filterId ∧
      filter.sessionData = (filter.sessionId % 2 ^ 32).toNat
  sorted : factory.filters.Pairwise fun earlier later =>
    earlier.thread = later.thread → earlier.sessionId < later.sessionId

variable {factory : Factory} {thread : Nat} {stage : FactoryStage}

@[simp] theorem stage_goTo_self :
    (factory.goTo thread stage).stage thread = stage :=
  Function.update_self _ _ _

theorem stage_goTo_of_ne {other : Nat} (differ : other ≠ thread) :
    (factory.goTo thread stage).stage other = factory.stage other :=
  Function.update_of_ne differ _ _

theorem forall_stage_goTo {holds : Nat → FactoryStage → Prop}
    (here : holds thread stage)
    (there : ∀ other, other ≠ thread → holds other (factory.stage other))
    (other : Nat) : holds other ((factory.goTo thread stage).stage other) := by
  by_cases same : other = thread
  · rw [same, stage_goTo_self]
    exact here
  · rw [stage_goTo_of_ne same]
    exact there other same

theorem record_length (factory : Factory) (thread : Nat) :
    (factory.record factory.attachmentToThread.length
      thread).attachmentToThread = factory.attachmentToThread ++ [thread] := by
  simp [record]

/-- What a call knows stays true when its thread keeps its attachment, the
maps do not change during a first visit, and others take the new ids. -/
theorem Knows.keep {after : Factory} (knows : factory.Knows thread stage)
    (attachment : after.threadToAttachment thread =
      factory.threadToAttachment thread)
    (maps : stage.visitsFirst = true →
      after.attachmentToThread = factory.attachmentToThread ∧
        after.numOfAttachments = factory.numOfAttachments)
    (filters : ∀ filter ∈ after.filters, filter.thread = thread →
      filter ∈ factory.filters)
    (grows : factory.filterId ≤ after.filterId) :
    after.Knows thread stage := by
  cases stage with
  | idle => trivial
  | missed => exact attachment.trans knows
  | sized mapSize =>
      obtain ⟨threads, number⟩ := maps rfl
      rw [Knows, attachment, threads, number]
      exact knows
  | recorded mapSize =>
      rw [Knows, attachment, (maps rfl).1]
      exact knows
  | entered =>
      rw [Knows, attachment]
      exact knows
  | found workerId => exact attachment.trans knows
  | added workerId =>
      refine ⟨attachment.trans knows.1, fun filter member same => ?_⟩
      exact Int.lt_of_lt_of_le
        (knows.2 filter (filters filter member same) same) grows

theorem sound_start (numOfAttachments : Nat) :
    (start numOfAttachments).Sound where
  owner := by simp [start]
  listed := by simp [start]
  distinct := List.nodup_nil
  bounded := Nat.zero_le _
  alone := ⟨0, by simp [start, FactoryStage.visitsFirst]⟩
  knows := fun _ => trivial
  owned := by simp [start]
  counted := Int.le_refl _
  passed := by simp [start]
  sorted := List.Pairwise.nil

namespace Sound

theorem others (sound : factory.Sound)
    (visits : (factory.stage thread).visitsFirst = true) {other : Nat}
    (differ : other ≠ thread) :
    (factory.stage other).visitsFirst = false := by
  obtain ⟨visitor, only⟩ := sound.alone
  refine Bool.eq_false_iff.mpr fun first => differ ?_
  rw [only other first, only thread visits]

theorem not_mem (sound : factory.Sound)
    (unknown : factory.threadToAttachment thread = none)
    (before : ∀ mapSize, factory.stage thread ≠ .recorded mapSize) :
    thread ∉ factory.attachmentToThread := by
  intro member
  obtain ⟨workerId, found⟩ := List.mem_iff_getElem?.mp member
  rcases sound.listed thread workerId found with known | recorded
  · rw [unknown] at known
    cases known
  · exact before workerId recorded

theorem alone_goTo (alone : ∃ visitor, ∀ other,
      (factory.stage other).visitsFirst = true → other = visitor)
    (others : stage.visitsFirst = true → ∀ other, other ≠ thread →
      (factory.stage other).visitsFirst = false) :
    ∃ visitor, ∀ other,
      ((factory.goTo thread stage).stage other).visitsFirst = true →
        other = visitor := by
  cases visits : stage.visitsFirst with
  | true =>
      refine ⟨thread, @forall_stage_goTo factory thread stage
        (fun other stage => stage.visitsFirst = true → other = thread)
        (fun _ => rfl) fun other differ first => ?_⟩
      rw [others visits other differ] at first
      cases first
  | false =>
      obtain ⟨visitor, only⟩ := alone
      exact ⟨visitor, @forall_stage_goTo factory thread stage
        (fun other stage => stage.visitsFirst = true → other = visitor)
        (by simp [visits]) fun other _ => only other⟩

/-- A step that leaves the maps, the counter and the filters alone. -/
theorem goTo (sound : factory.Sound) (knows : factory.Knows thread stage)
    (before : ∀ mapSize, factory.stage thread ≠ .recorded mapSize)
    (others : stage.visitsFirst = true → ∀ other, other ≠ thread →
      (factory.stage other).visitsFirst = false) :
    (factory.goTo thread stage).Sound :=
  { sound with
    listed := by
      intro other workerId found
      refine (sound.listed other workerId found).imp id fun recorded => ?_
      have differ : other ≠ thread := by
        rintro rfl
        exact before workerId recorded
      exact (stage_goTo_of_ne differ).trans recorded
    alone := alone_goTo sound.alone others
    knows := forall_stage_goTo knows fun other _ => sound.knows other }

/-- The first write: no other thread is between its length and its write. -/
theorem record (sound : factory.Sound) {mapSize : Nat}
    (sized : factory.stage thread = .sized mapSize) :
    ((factory.record mapSize thread).goTo thread (.recorded mapSize)).Sound := by
  have knows := sound.knows thread
  rw [sized] at knows
  obtain ⟨unknown, size, room⟩ := knows
  have rest : ∀ other, other ≠ thread →
      (factory.stage other).visitsFirst = false :=
    fun other => sound.others (by rw [sized]; rfl)
  have written : (factory.record mapSize thread).attachmentToThread =
      factory.attachmentToThread ++ [thread] := by
    rw [size, record_length]
  have last : (factory.attachmentToThread ++ [thread])[mapSize]? =
      some thread := by
    simp [size]
  exact
    { sound with
      owner := by
        intro other workerId known
        have old := sound.owner other workerId known
        obtain ⟨inside, _⟩ := List.getElem?_eq_some_iff.mp old
        exact written ▸ (List.getElem?_append_left inside).trans old
      listed := by
        intro other workerId found
        have found : (factory.attachmentToThread ++ [thread])[workerId]? =
            some other := written ▸ found
        rw [List.getElem?_append] at found
        split at found
        · refine (sound.listed other workerId found).imp id fun recorded => ?_
          have differ : other ≠ thread := by
            rintro rfl
            rw [sized] at recorded
            cases recorded
          exact (stage_goTo_of_ne differ).trans recorded
        · rw [List.getElem?_singleton] at found
          split at found
          · cases found
            have same : workerId = mapSize := by omega
            exact .inr (same ▸ stage_goTo_self)
          · cases found
      distinct := by
        change (factory.record mapSize thread).attachmentToThread.Nodup
        rw [written, ← List.concat_eq_append, List.nodup_concat]
        exact ⟨sound.not_mem unknown (by simp [sized]), sound.distinct⟩
      bounded := by
        change (factory.record mapSize thread).attachmentToThread.length ≤ _
        rw [written, List.length_append, ← size]
        exact room
      alone :=
        @alone_goTo (factory.record mapSize thread) _ _ sound.alone fun _ => rest
      knows := forall_stage_goTo ⟨unknown, written ▸ last⟩ fun other differ =>
        (sound.knows other).keep rfl
          (fun first => by simp [rest other differ] at first)
          (fun _ member _ => member) (Int.le_refl _) }

theorem assign (sound : factory.Sound) {mapSize : Nat}
    (recorded : factory.stage thread = .recorded mapSize) :
    ((factory.assign thread mapSize).goTo thread .entered).Sound := by
  have knows := sound.knows thread
  rw [recorded] at knows
  obtain ⟨unknown, listed⟩ := knows
  have assigned : (factory.assign thread mapSize).threadToAttachment thread =
      some mapSize := Function.update_self _ _ _
  have unchanged : ∀ other, other ≠ thread →
      (factory.assign thread mapSize).threadToAttachment other =
        factory.threadToAttachment other :=
    fun other differ => Function.update_of_ne differ _ _
  exact
    { sound with
      owner := by
        intro other workerId known
        by_cases same : other = thread
        · subst same
          rw [← Option.some.inj (assigned.symm.trans known)]
          exact listed
        · exact sound.owner other workerId
            ((unchanged other same).symm.trans known)
      listed := by
        intro other workerId found
        by_cases same : other = thread
        · subst same
          obtain ⟨inside, _⟩ := List.getElem?_eq_some_iff.mp found
          have same : workerId = mapSize :=
            (List.getElem?_inj inside sound.distinct).mp
              (found.trans listed.symm)
          exact .inl (same ▸ assigned)
        · exact (sound.listed other workerId found).imp
            (unchanged other same).trans (stage_goTo_of_ne same).trans
      alone := @alone_goTo (factory.assign thread mapSize) _ _ sound.alone
        (by rintro ⟨⟩)
      knows := forall_stage_goTo
        (Option.isSome_iff_exists.mpr ⟨mapSize, assigned⟩)
        fun other differ => (sound.knows other).keep (unchanged other differ)
          (fun _ => ⟨rfl, rfl⟩) (fun _ member _ => member) (Int.le_refl _)
      owned := by
        intro filter member
        have old := sound.owned filter member
        have differ : filter.thread ≠ thread := by
          intro same
          rw [same, unknown] at old
          cases old
        exact (unchanged _ differ).trans old }

theorem add (sound : factory.Sound) (counts : factory.filterId + 1 < 2 ^ 63)
    {workerId : Nat} (found : factory.stage thread = .found workerId) :
    (factory.add.goTo thread (.added workerId)).Sound := by
  have positive := sound.counted
  have next : factory.add.filterId = factory.filterId + 1 :=
    Int.bmod_eq_of_le (by omega) (by omega)
  have grows : factory.filterId ≤ factory.add.filterId := by omega
  have counted : factory.add.Sound :=
    { sound with
      knows := fun other => (sound.knows other).keep rfl
        (fun _ => ⟨rfl, rfl⟩) (fun _ member _ => member) grows
      counted := Int.le_trans positive grows
      passed := by
        intro filter member
        obtain ⟨old, below, short⟩ := sound.passed filter member
        exact ⟨old, Int.le_trans below grows, short⟩ }
  have knows := sound.knows thread
  rw [found] at knows
  have stays : factory.add.stage thread = .found workerId := found
  refine counted.goTo ⟨knows, fun filter member _ => ?_⟩ (by simp [stays])
    (by rintro ⟨⟩)
  have below := (sound.passed filter member).2.1
  omega

/-- The call ends: its filter is the newest one of the thread. -/
theorem load (sound : factory.Sound) {workerId : Nat}
    (added : factory.stage thread = .added workerId) :
    let filter := factory.created thread workerId
    ({ factory with filters := factory.filters ++ [filter] }.goTo thread
      .idle).Sound := by
  intro filter
  have knows := sound.knows thread
  rw [added] at knows
  obtain ⟨known, newest⟩ := knows
  have left : (factory.goTo thread .idle).Sound :=
    sound.goTo trivial (by simp [added]) (by rintro ⟨⟩)
  exact
    { left with
      knows := forall_stage_goTo trivial fun other differ =>
        (sound.knows other).keep rfl (fun _ => ⟨rfl, rfl⟩)
          (fun created member same => by
            rcases List.mem_append.mp member with old | last
            · exact old
            · rw [List.mem_singleton.mp last] at same
              exact absurd same.symm differ) (Int.le_refl _)
      owned := by
        intro other member
        rcases List.mem_append.mp member with old | last
        · exact sound.owned other old
        · rw [List.mem_singleton.mp last]
          exact known
      passed := by
        intro other member
        rcases List.mem_append.mp member with old | last
        · exact sound.passed other old
        · rw [List.mem_singleton.mp last]
          exact ⟨sound.counted, Int.le_refl _, rfl⟩
      sorted := by
        refine List.pairwise_append.mpr
          ⟨sound.sorted, List.pairwise_singleton _ _, ?_⟩
        intro other member last lastMember same
        rw [List.mem_singleton.mp lastMember] at same ⊢
        exact newest other member same }

theorem step (sound : factory.Sound) (regular : factory.Regular thread) :
    (factory.step thread).2.Sound := by
  have knows := sound.knows thread
  rw [Factory.step]
  cases stage : factory.stage thread with
  | idle =>
      dsimp only
      cases known : factory.threadToAttachment thread with
      | some workerId =>
          exact sound.goTo (by simp [Knows, known]) (by simp [stage])
            (by rintro ⟨⟩)
      | none =>
          exact sound.goTo (by exact known) (by simp [stage])
            fun _ other _ => regular.alone stage known other
  | missed =>
      rw [stage] at knows
      have rest : ∀ other, other ≠ thread →
          (factory.stage other).visitsFirst = false :=
        fun other => sound.others (by rw [stage]; rfl)
      dsimp only
      split
      · rename_i room
        exact sound.goTo ⟨knows, rfl, room⟩ (by simp [stage]) fun _ => rest
      · exact sound.goTo trivial (by simp [stage]) fun _ => rest
  | sized mapSize => exact sound.record stage
  | recorded mapSize => exact sound.assign stage
  | entered =>
      rw [stage] at knows
      obtain ⟨workerId, known⟩ := Option.isSome_iff_exists.mp knows
      exact sound.goTo (by simp [Knows, known]) (by simp [stage])
        (by rintro ⟨⟩)
  | found workerId => exact sound.add regular.counts stage
  | added workerId => exact sound.load stage

/-- A step lists no thread but its own. -/
theorem step_threads (sound : factory.Sound) (thread : Nat) :
    (factory.step thread).2.numOfAttachments = factory.numOfAttachments ∧
      (factory.step thread).2.attachmentToThread ⊆
        thread :: factory.attachmentToThread := by
  have kept := List.subset_cons_self thread factory.attachmentToThread
  have knows := sound.knows thread
  rw [Factory.step]
  cases stage : factory.stage thread with
  | sized mapSize =>
      rw [stage] at knows
      refine ⟨rfl, ?_⟩
      change (factory.record mapSize thread).attachmentToThread ⊆ _
      rw [knows.2.1, record_length]
      simp
  | missed =>
      dsimp only
      split <;> exact ⟨rfl, kept⟩
  | _ => exact ⟨rfl, kept⟩

theorem step_ne_panics (sound : factory.Sound) {threads : List Nat}
    (few : threads.dedup.length ≤ factory.numOfAttachments)
    (seen : factory.attachmentToThread ⊆ threads)
    (member : thread ∈ threads) :
    (factory.step thread).1 ≠ .panics := by
  have knows := sound.knows thread
  rw [Factory.step]
  cases stage : factory.stage thread with
  | missed =>
      rw [stage] at knows
      dsimp only
      split
      · simp
      · rename_i full
        have absent := sound.not_mem knows (by simp [stage])
        have nodup : (thread :: factory.attachmentToThread).Nodup :=
          List.nodup_cons.mpr ⟨absent, sound.distinct⟩
        have inside : thread :: factory.attachmentToThread ⊆ threads.dedup :=
          fun other inList => List.mem_dedup.mpr
            (List.cons_subset.mpr ⟨member, seen⟩ inList)
        have length := (List.subperm_of_subset nodup inside).length_le
        rw [List.length_cons] at length
        omega
  | _ => simp

/-- The attachment of a filter tells its thread. -/
theorem thread_iff (sound : factory.Sound) {one other : CreatedFilter}
    (member : one ∈ factory.filters) (otherMember : other ∈ factory.filters) :
    one.thread = other.thread ↔ one.workerId = other.workerId := by
  have owned := sound.owned one member
  have otherOwned := sound.owned other otherMember
  constructor
  · intro same
    rw [same, otherOwned] at owned
    exact (Option.some.inj owned).symm
  · intro same
    have listed := sound.owner _ _ owned
    rw [same, sound.owner _ _ otherOwned] at listed
    exact (Option.some.inj listed).symm

end Sound

end Factory

open Factory

/-- As long as no first visits of threads overlap and the counter does not
overflow, the filters of a thread share a worker id that no other thread has,
their session ids grow, also as they are sent until they exceed 32 bits, and
no thread is turned away if there are no more threads than attachments. -/
theorem worker_session_ids (numOfAttachments : Nat) (threads : List Nat)
    (regular : Trace.Along Factory.step Factory.Regular
      (.start numOfAttachments) threads) :
    let start := Factory.start numOfAttachments
    let filters := (Trace.run Factory.step start threads).2.filters
    (filters.Pairwise fun earlier later =>
      (earlier.thread = later.thread ↔ earlier.workerId = later.workerId) ∧
        (earlier.workerId = later.workerId →
          earlier.sessionId < later.sessionId ∧
            (later.sessionId < 2 ^ 32 →
              earlier.sessionData < later.sessionData))) ∧
    (∀ filter ∈ filters, filter.workerId < numOfAttachments) ∧
    (threads.dedup.length ≤ numOfAttachments →
      Trace.Along Factory.step
        (fun factory thread => (factory.step thread).1 ≠ .panics) start
        threads) := by
  intro start filters
  have begins := sound_start numOfAttachments
  obtain ⟨sound, same⟩ := Trace.run_invariant Factory.Regular
    (fun factory => factory.Sound ∧
      factory.numOfAttachments = numOfAttachments)
    (fun factory thread ⟨sound, same⟩ regular =>
      ⟨sound.step regular, (sound.step_threads thread).1.trans same⟩)
    ⟨begins, rfl⟩ regular
  refine ⟨?_, ?_, ?_⟩
  · refine List.Pairwise.imp_of_mem ?_ sound.sorted
    intro earlier later member laterMember ordered
    have sameThread := sound.thread_iff member laterMember
    refine ⟨sameThread, fun same => ?_⟩
    have grows := ordered (sameThread.mpr same)
    refine ⟨grows, fun short => ?_⟩
    obtain ⟨positive, _, sent⟩ := sound.passed earlier member
    rw [sent, (sound.passed later laterMember).2.2]
    omega
  · intro filter member
    have listed := sound.owner _ _ (sound.owned filter member)
    obtain ⟨inside, _⟩ := List.getElem?_eq_some_iff.mp listed
    exact same ▸ Nat.lt_of_lt_of_le inside sound.bounded
  · intro few
    refine Trace.along_of_invariant
      (fun factory => factory.Sound ∧
        factory.numOfAttachments = numOfAttachments ∧
        factory.attachmentToThread ⊆ threads) ?_
      ⟨begins, rfl, List.nil_subset _⟩
      (regular.and_of_mem fun thread member => member)
    intro factory thread ⟨sound, same, seen⟩ ⟨member, regular⟩
    obtain ⟨number, threadsAfter⟩ := sound.step_threads thread
    refine ⟨sound.step_ne_panics (same ▸ few) seen member,
      sound.step regular, number.trans same, ?_⟩
    exact List.Subset.trans threadsAfter
      (List.cons_subset.mpr ⟨member, seen⟩)

theorem step_stage_of_ne (factory : Factory) (thread : Nat) {other : Nat}
    (differ : other ≠ thread) :
    (factory.step thread).2.stage other = factory.stage other := by
  rw [Factory.step]
  cases factory.stage thread with
  | missed =>
      dsimp only
      split <;> exact stage_goTo_of_ne differ
  | _ => exact stage_goTo_of_ne differ

/-- Threads that take no step are in no visit. -/
theorem regular_of_among {among : List Nat} {factory : Factory}
    {threads : List Nat}
    (idle : ∀ other, other ∉ among → factory.stage other = .idle)
    (members : ∀ thread ∈ threads, thread ∈ among)
    (regular : Trace.Along Factory.step
      (fun factory thread =>
        (factory.stage thread = .idle →
          factory.threadToAttachment thread = none →
            ∀ other ∈ among, (factory.stage other).visitsFirst = false) ∧
          factory.filterId + 1 < 2 ^ 63) factory threads) :
    Trace.Along Factory.step Factory.Regular factory threads := by
  refine Trace.along_of_invariant
    (fun factory => ∀ other, other ∉ among → factory.stage other = .idle)
    ?_ idle (regular.and_of_mem members)
  intro factory thread idle ⟨member, first, counts⟩
  refine ⟨⟨fun here unknown other => ?_, counts⟩, fun other absent => ?_⟩
  · by_cases comes : other ∈ among
    · exact first here unknown other comes
    · rw [idle other comes]
      rfl
  · have differ : other ≠ thread := by
      rintro rfl
      exact absent member
    rw [step_stage_of_ne factory thread differ]
    exact idle other absent

/-- Two threads come one after the other, and then take their next ids
together. -/
def twoThreads : List Nat :=
  [10, 10, 10, 10, 10, 10, 11, 10, 11, 11, 11, 11, 11, 11, 10, 11, 10, 11, 10,
    11, 11, 10]

theorem worker_session_ids_twoThreads :
    ((Trace.run Factory.step (.start 2) twoThreads).2.filters.Pairwise
      fun earlier later =>
        earlier.thread = later.thread ↔ earlier.workerId = later.workerId) ∧
      (Trace.run Factory.step (.start 2) twoThreads).2.filters.map
        (fun filter => (filter.workerId, filter.sessionId)) =
          [(0, 1), (1, 2), (1, 4), (0, 4)] := by
  refine ⟨List.Pairwise.imp (fun pair => pair.1)
    (worker_session_ids 2 twoThreads ?_).1, by decide⟩
  refine @regular_of_among [10, 11] _ _ (fun _ _ => rfl) ?_ ?_
  · decide
  · decide

/-- Two new threads that read the size of the map before either writes to it
share an attachment. -/
example :
    ((Trace.run Factory.step (.start 2)
      [10, 10, 11, 11, 10, 10, 11, 11, 10, 10, 10, 11, 11,
        11]).2.filters.map fun filter =>
          (filter.thread, filter.workerId)) = [(10, 0), (11, 0)] := by
  decide

end OpenAppsec.Envoy
