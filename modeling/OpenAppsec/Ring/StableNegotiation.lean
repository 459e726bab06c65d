import OpenAppsec.Ring.Negotiation

/-!
# Negotiation that stays the same

Reading the metadata file changes the environment of the process, and with it
the size that a later negotiation finds set directly.  Where the two agree,
every negotiation of a process gives the same sizes, and looking a size up has
no effect that a later lookup could notice.
-/

namespace OpenAppsec

open Ring

namespace ShmemIpc

/-- The segment size that the environment sets, or the released size that goes
with an answer. -/
def directSize (environ : Environ) (larger : Bool) : Nat :=
  (environmentSegmentSize environ).getD (releasedSize larger)

/-- If the process reads its metadata file, the segment size that this sets
directly is the released size that the file announces. -/
def MetadataKeepsSize (host : Host) (process : Process) : Prop :=
  let asked := isLargerDataSegmentSupported host process
  directSize asked.2.environ asked.1 = directSize process.environ asked.1

instance (host : Host) (process : Process) :
    Decidable (MetadataKeepsSize host process) := by
  unfold MetadataKeepsSize
  infer_instance

/-- Two states of a process that differ in table and caches only. -/
structure SameEnvironment (first second : Process) : Prop where
  initialized : first.gDockerEnvInitialized = second.gDockerEnvInitialized
  nginx : first.isDualDockerNginxEnv = second.isDualDockerNginxEnv
  dual : first.isDualDockerEnv = second.isDualDockerEnv
  environ : first.environ = second.environ

/-- Every negotiation of the process gives these sizes, before and after it
has read its metadata file. -/
structure Settled (host : Host) (segmentSize : Nat) (larger : Bool)
    (process : Process) : Prop where
  answer : (isLargerDataSegmentSupported host process).1 = larger
  now : directSize process.environ larger = segmentSize
  later : directSize
    (isLargerDataSegmentSupported host process).2.environ larger = segmentSize

theorem settled_of_metadataKeepsSize {host : Host} {process : Process}
    (keeps : MetadataKeepsSize host process) :
    Settled host
      (directSize process.environ
        (isLargerDataSegmentSupported host process).1)
      (isLargerDataSegmentSupported host process).1 process :=
  { answer := rfl
    now := rfl
    later := keeps }

section Environment

variable {host : Host} {process other : Process}

theorem initializeDockerEnvironment_congr (host : Host)
    (same : SameEnvironment process other) :
    SameEnvironment (initializeDockerEnvironment host process)
      (initializeDockerEnvironment host other) := by
  unfold initializeDockerEnvironment
  rw [same.initialized]
  split
  · exact same
  · exact ⟨rfl, rfl, by rw [same.environ], same.environ⟩

theorem isLargerDataSegmentSupported_congr (host : Host)
    (same : SameEnvironment process other) :
    (isLargerDataSegmentSupported host process).1 =
        (isLargerDataSegmentSupported host other).1 ∧
      SameEnvironment (isLargerDataSegmentSupported host process).2
        (isLargerDataSegmentSupported host other).2 := by
  have docker := initializeDockerEnvironment_congr host same
  unfold isLargerDataSegmentSupported
  dsimp only
  rw [docker.dual, docker.nginx, docker.environ]
  split
  · exact ⟨rfl, docker⟩
  · exact ⟨rfl, docker.initialized, rfl, rfl, rfl⟩

theorem initializeDockerEnvironment_initialized (host : Host)
    (process : Process) :
    (initializeDockerEnvironment host process).gDockerEnvInitialized =
      true := by
  unfold initializeDockerEnvironment
  split
  · assumption
  · rfl

theorem initializeDockerEnvironment_of_initialized (host : Host)
    (initialized : process.gDockerEnvInitialized = true) :
    initializeDockerEnvironment host process = process := by
  simp [initializeDockerEnvironment, initialized]

theorem isLargerDataSegmentSupported_of_single
    (single : SingleDocker host process) :
    isLargerDataSegmentSupported host process =
      (true, initializeDockerEnvironment host process) := by
  simp [isLargerDataSegmentSupported, single.1, single.2]

theorem isLargerDataSegmentSupported_of_dual
    (dual : ¬SingleDocker host process) :
    isLargerDataSegmentSupported host process =
      let read := readLargerDataSegmentSupported host process.environ
      (read.1,
        { initializeDockerEnvironment host process with
          environ := read.2 }) := by
  unfold isLargerDataSegmentSupported
  rw [if_neg]
  · rw [initializeDockerEnvironment_environ]
  · intro single
    apply dual
    simpa [SingleDocker] using single

theorem isLargerDataSegmentSupported_environ_again (host : Host)
    (process : Process) :
    let asked := (isLargerDataSegmentSupported host process).2
    (isLargerDataSegmentSupported host asked).2.environ
        effectiveShmSegmentSize =
      asked.environ effectiveShmSegmentSize := by
  have ready := initializeDockerEnvironment_initialized host process
  have docker := initializeDockerEnvironment_of_initialized host ready
  by_cases single : SingleDocker host process
  · have still : SingleDocker host
        (initializeDockerEnvironment host process) := by
      rw [SingleDocker, docker]
      exact single
    rw [isLargerDataSegmentSupported_of_single single]
    dsimp only
    rw [isLargerDataSegmentSupported_of_single still, docker]
  · have still : ¬SingleDocker host
        { initializeDockerEnvironment host process with
          environ := (readLargerDataSegmentSupported host
            process.environ).2 } := by
      intro again
      unfold SingleDocker at again
      rw [initializeDockerEnvironment_of_initialized host
        (by exact ready)] at again
      exact single again
    rw [isLargerDataSegmentSupported_of_dual single]
    dsimp only
    rw [isLargerDataSegmentSupported_of_dual still]
    exact (readLargerDataSegmentSupported_again host process.environ).2

theorem environmentSegmentSize_congr {first second : Environ}
    (same : first effectiveShmSegmentSize = second effectiveShmSegmentSize) :
    environmentSegmentSize first = environmentSegmentSize second := by
  unfold environmentSegmentSize
  rw [same]

end Environment

namespace Settled

variable {host : Host} {segmentSize : Nat} {larger : Bool}
variable {process other : Process}

variable (settled : Settled host segmentSize larger process)

include settled

theorem congr (same : SameEnvironment other process) :
    Settled host segmentSize larger other := by
  obtain ⟨answer, asked⟩ :=
    isLargerDataSegmentSupported_congr host same
  constructor
  · rw [answer, settled.answer]
  · rw [same.environ, settled.now]
  · rw [asked.environ, settled.later]

/-- A process that has read its metadata file is settled on the same sizes. -/
theorem asked :
    Settled host segmentSize larger
      (isLargerDataSegmentSupported host process).2 := by
  constructor
  · rw [isLargerDataSegmentSupported_again rfl rfl rfl rfl, settled.answer]
  · exact settled.later
  · unfold directSize
    rw [environmentSegmentSize_congr
      (isLargerDataSegmentSupported_environ_again host process)]
    exact settled.later

theorem withCaches (table : List QueueParams) (segment entry : Nat)
    (initialized : Bool) :
    Settled host segmentSize larger
      { process with
        gQueueParams := table
        gEffectiveSegmentSize := segment
        gEffectiveEntrySize := entry
        gEffectiveSizeInitialized := initialized } :=
  settled.congr ⟨rfl, rfl, rfl, rfl⟩

/-- The segment size in force. -/
theorem getEffectiveSegmentSize :
    (ShmemIpc.getEffectiveSegmentSize host process).1 =
        (if process.gEffectiveSizeInitialized then
          process.gEffectiveSegmentSize
        else segmentSize) ∧
      Settled host segmentSize larger
        (ShmemIpc.getEffectiveSegmentSize host process).2 := by
  cases initialized : process.gEffectiveSizeInitialized with
  | true =>
      rw [getEffectiveSegmentSize_of_initialized initialized]
      exact ⟨rfl, settled⟩
  | false =>
      cases set : environmentSegmentSize process.environ with
      | some size =>
          rw [getEffectiveSegmentSize_of_set host process initialized set]
          have now := settled.now
          rw [directSize, set] at now
          exact ⟨now, settled.withCaches _ _ _ _⟩
      | none =>
          rw [getEffectiveSegmentSize_of_unset host process initialized set]
          have reset := settled.withCaches process.gQueueParams
            process.gEffectiveSegmentSize process.gEffectiveEntrySize true
          have now := settled.now
          rw [directSize, set] at now
          refine ⟨?_, reset.asked.withCaches _ _ _ _⟩
          rw [← now]
          exact congrArg releasedSize reset.answer

/-- The entry size in force. -/
theorem getEffectiveEntrySize :
    (ShmemIpc.getEffectiveEntrySize host process).1 =
        (if process.gEffectiveEntrySize ≠ 0 then process.gEffectiveEntrySize
        else releasedSize larger) ∧
      Settled host segmentSize larger
        (ShmemIpc.getEffectiveEntrySize host process).2 := by
  by_cases cached : process.gEffectiveEntrySize = 0
  · rw [getEffectiveEntrySize_eq cached, settled.answer,
      if_neg (fun some => some cached)]
    refine ⟨rfl, ?_⟩
    unfold ShmemIpc.getEffectiveEntrySize
    rw [if_neg (fun some => some cached)]
    exact settled.asked.withCaches _ _ _ _
  · rw [getEffectiveEntrySize_of_cached cached, if_pos cached]
    exact ⟨rfl, settled⟩

theorem segmentThenEntry :
    (ShmemIpc.getEffectiveEntrySize host
        (ShmemIpc.getEffectiveSegmentSize host process).2).1 =
      (ShmemIpc.getEffectiveEntrySize host process).1 := by
  have kept := (getEffectiveSegmentSize_frame host process).2
  rw [settled.getEffectiveSegmentSize.2.getEffectiveEntrySize.1,
    settled.getEffectiveEntrySize.1, kept]

theorem entryThenSegment :
    (ShmemIpc.getEffectiveSegmentSize host
        (ShmemIpc.getEffectiveEntrySize host process).2).1 =
      (ShmemIpc.getEffectiveSegmentSize host process).1 := by
  obtain ⟨_, initialized, segment⟩ :=
    getEffectiveEntrySize_frame host process
  rw [settled.getEffectiveEntrySize.2.getEffectiveSegmentSize.1,
    settled.getEffectiveSegmentSize.1, initialized, segment]

/-- In a settled process, a registered queue is served within its limits. -/
theorem registered {name : CString} {params : QueueParams}
    (found : getQueueParams process name = some params) :
    Registered host process name
      { numOfDataSegments := params.numOfDataSegments
        memorySize := params.memorySize
        segmentSize := (ShmemIpc.getEffectiveSegmentSize host process).1
        entrySize := (ShmemIpc.getEffectiveEntrySize host process).1 } :=
  { params := ⟨params, found, rfl, rfl⟩
    segmentSize := rfl
    entrySize := rfl
    segmentThenEntry := settled.segmentThenEntry
    entryThenSegment := settled.entryThenSegment }

theorem negotiated :
    negotiatedSegmentSize host process = segmentSize ∧
      negotiatedEntrySize host process = releasedSize larger := by
  have reset : Settled host segmentSize larger (resetCaches process) :=
    settled.withCaches _ _ _ _
  constructor
  · exact reset.getEffectiveSegmentSize.1
  · rw [negotiatedEntrySize, reset.segmentThenEntry]
    exact reset.getEffectiveEntrySize.1

end Settled

end ShmemIpc

end OpenAppsec
