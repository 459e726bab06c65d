import OpenAppsec.Ring.ShmemIpc

/-!
# The registration table of the first generation

A process registers the limits of its queues in a table of four slots.  The
table holds at most one slot for each name, so that a registration is found
under its own name and does not disturb another.
-/

namespace OpenAppsec

open Ring

theorem Ring.snprintfName_of_short {name : CString}
    (short : name.length < maxOneWayQueueNameLength) :
    snprintfName name = name := by
  simp only [maxOneWayQueueNameLength] at short
  exact List.take_of_length_le (by simp [maxOneWayQueueNameLength]; omega)

namespace ShmemIpc

/-- The name of a used slot. -/
def QueueParams.key (params : QueueParams) : Option CString :=
  if params.inUse then some params.locationName else none

theorem QueueParams.isFor_iff {name : CString} {params : QueueParams} :
    params.isFor name = true ↔
      params.inUse = true ∧ params.locationName = name := by
  simp [QueueParams.isFor]

theorem QueueParams.isFor_iff_key (name : CString) (params : QueueParams) :
    params.isFor name = true ↔ params.key = some name := by
  simp [QueueParams.isFor, QueueParams.key]

theorem QueueParams.key_isNone (params : QueueParams) :
    params.key.isNone = !params.inUse := by
  unfold QueueParams.key
  split
  · rename_i used
    simp [used]
  · rename_i unused
    simp [unused]

/-- The names that are registered in a process. -/
def registeredNames (process : Process) : List CString :=
  SlotTable.keys QueueParams.key process.gQueueParams

/-- The table of a process that registers no names but the given ones. -/
structure TableOk (names : List CString) (process : Process) : Prop where
  slots : process.gQueueParams.length = maxQueues
  distinct : (registeredNames process).Nodup
  known : registeredNames process ⊆ names

section Table

variable {process after : Process} {name : CString} {names : List CString}
variable {numOfDataSegments : Nat} {memorySize fd : Int}

theorem getQueueParams_eq_none_iff :
    getQueueParams process name = none ↔ name ∉ registeredNames process := by
  have present := SlotTable.any_key_iff process.gQueueParams
    (QueueParams.isFor_iff_key name)
  rw [registeredNames, ← present]
  simp [getQueueParams, List.find?_eq_none]

/-- A registration is found under its name, and no other name's registration
changes. -/
theorem addQueueParams_spec
    (short : name.length < maxOneWayQueueNameLength)
    (added : addQueueParams process name numOfDataSegments memorySize fd =
      some after) :
    getQueueParams after name =
        some
          { locationName := name
            numOfDataSegments
            memorySize
            fd
            inUse := true } ∧
      (∀ other, other ≠ name →
        getQueueParams after other = getQueueParams process other) ∧
      after = { process with gQueueParams := after.gQueueParams } := by
  unfold addQueueParams at added
  split at added
  · rename_i known
    cases added
    refine ⟨?_, ?_, rfl⟩
    · obtain ⟨slot, matched, found⟩ :=
        SlotTable.exists_find?_replaceFirst
          (fun params : QueueParams =>
            { params with numOfDataSegments, memorySize, fd })
          known (fun _ _ unmatched => unmatched) (fun _ matched => matched)
      obtain ⟨used, located⟩ := QueueParams.isFor_iff.mp matched
      rw [used, located] at found
      exact found
    · intro other different
      refine SlotTable.find?_replaceFirst_other ?_ ?_
      · intro slot matched
        rw [QueueParams.isFor_iff] at matched
        simp [QueueParams.isFor, matched.2, different.symm]
      · intro slot matched
        rw [QueueParams.isFor_iff] at matched
        simp [QueueParams.isFor, matched.2, different.symm]
  · rename_i unknown
    split at added
    · rename_i available
      cases added
      have located := snprintfName_of_short short
      have registered : QueueParams.isFor name
          { locationName := snprintfName name
            numOfDataSegments
            memorySize
            fd
            inUse := true } = true := by
        simp [QueueParams.isFor, located]
      refine ⟨?_, ?_, rfl⟩
      · have unmatched : ∀ slot ∈ process.gQueueParams,
            (!slot.inUse) = false → slot.isFor name = false := by
          intro slot member _
          cases matched : slot.isFor name with
          | false => rfl
          | true =>
              exact absurd (List.any_eq_true.mpr ⟨slot, member, matched⟩)
                unknown
        obtain ⟨slot, _, found⟩ :=
          SlotTable.exists_find?_replaceFirst _ available unmatched
            (fun _ _ => registered)
        simpa only [getQueueParams, located] using found
      · intro other different
        refine SlotTable.find?_replaceFirst_other ?_ ?_
        · intro slot unused
          simp only [Bool.not_eq_true'] at unused
          simp [QueueParams.isFor, unused]
        · intro slot unused
          simp [QueueParams.isFor, located, different.symm]
    · cases added

/-- A process with at most four queues always has a slot for one of them. -/
theorem TableOk.addQueueParams (table : TableOk names process)
    (few : names.length ≤ maxQueues) (member : name ∈ names)
    (short : name.length < maxOneWayQueueNameLength) :
    ∃ after,
      ShmemIpc.addQueueParams process name numOfDataSegments memorySize fd =
          some after ∧
        TableOk names after := by
  unfold ShmemIpc.addQueueParams
  by_cases known : process.gQueueParams.any (QueueParams.isFor name) = true
  · rw [if_pos known]
    refine ⟨_, rfl, ?_⟩
    have sameKeys : SlotTable.keys QueueParams.key
        (SlotTable.replaceFirst (QueueParams.isFor name)
          (fun params => { params with numOfDataSegments, memorySize, fd })
          process.gQueueParams) = registeredNames process :=
      SlotTable.keys_replaceFirst_keep fun slot _ => rfl
    constructor
    · rw [SlotTable.length_replaceFirst]
      exact table.slots
    · rw [registeredNames, sameKeys]
      exact table.distinct
    · rw [registeredNames, sameKeys]
      exact table.known
  · have absent : name ∉ registeredNames process := by
      have present := SlotTable.any_key_iff process.gQueueParams
        (QueueParams.isFor_iff_key name)
      rwa [registeredNames, ← present]
    have room : (registeredNames process).length <
        process.gQueueParams.length := by
      have bound : (name :: registeredNames process).length ≤ names.length :=
        (List.nodup_cons.mpr ⟨absent, table.distinct⟩).length_le_of_subset
          (List.cons_subset.mpr ⟨member, table.known⟩)
      rw [table.slots]
      simp only [List.length_cons] at bound
      omega
    have available : process.gQueueParams.any
        (fun params => !params.inUse) = true := by
      have unused := SlotTable.any_unused room
      simpa only [QueueParams.key_isNone] using unused
    rw [if_neg known, if_pos available]
    refine ⟨_, rfl, ?_⟩
    have newKeys : (SlotTable.keys QueueParams.key
        (SlotTable.replaceFirst (fun params => !params.inUse)
          (fun _ =>
            { locationName := snprintfName name
              numOfDataSegments
              memorySize
              fd
              inUse := true })
          process.gQueueParams)).Perm (name :: registeredNames process) := by
      apply SlotTable.keys_replaceFirst_fill available
      · intro slot unused
        have none := slot.key_isNone
        rw [unused] at none
        exact Option.isNone_iff_eq_none.mp none
      · intro slot _
        simp [QueueParams.key, snprintfName_of_short short]
    constructor
    · rw [SlotTable.length_replaceFirst]
      exact table.slots
    · exact newKeys.nodup_iff.mpr
        (List.nodup_cons.mpr ⟨absent, table.distinct⟩)
    · intro other registered
      rcases List.mem_cons.mp (newKeys.mem_iff.mp registered) with same | old
      · exact same ▸ member
      · exact table.known old

theorem TableOk.removeQueueParams (table : TableOk names process)
    (name : CString) :
    TableOk names (ShmemIpc.removeQueueParams process name) ∧
      getQueueParams (ShmemIpc.removeQueueParams process name) name =
        none := by
  have newKeys : registeredNames (ShmemIpc.removeQueueParams process name) =
      (registeredNames process).erase name :=
    SlotTable.keys_replaceFirst_clear
      (QueueParams.isFor_iff_key _) (fun _ _ => rfl)
  refine ⟨⟨?_, ?_, ?_⟩, ?_⟩
  · unfold ShmemIpc.removeQueueParams
    rw [SlotTable.length_replaceFirst]
    exact table.slots
  · rw [newKeys]
    exact table.distinct.erase name
  · rw [newKeys]
    exact List.Subset.trans List.erase_subset table.known
  · rw [getQueueParams_eq_none_iff, newKeys]
    exact table.distinct.not_mem_erase

theorem removeQueueParams_other {other : CString}
    (different : other ≠ name) :
    getQueueParams (removeQueueParams process name) other =
      getQueueParams process other := by
  refine SlotTable.find?_replaceFirst_other ?_ ?_
  · intro slot matched
    rw [QueueParams.isFor_iff] at matched
    simp [QueueParams.isFor, matched.2, different.symm]
  · intro slot _
    rfl

end Table

end ShmemIpc

end OpenAppsec
