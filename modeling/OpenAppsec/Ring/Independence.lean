import OpenAppsec.Ring.ShmemIpcQueues
import OpenAppsec.Ring.ShmemIpc2Queues

/-!
# Independence of the queues of one process

The sizes with which a process addresses its open queues are process-wide, and
every creation sets them anew.  Queues are independent as long as no creation
of another queue brings other sizes while a queue is open; a creation that
fails is no exception.
-/

namespace OpenAppsec

open Ring

/-- In both versions, the calls on one queue cannot tell whether the process
has other queues, unless another queue's creation changes the sizes in
force. -/
theorem queues_independent (host : Host) (queues : QueueSet)
    (environ : Environ) (shm : ShmStore) (own : CString)
    (member : own ∈ queues.names) (calls : List (ProcessCall queues)) :
    (ShmemIpc.MetadataKeepsSize host (.start environ) →
      queues.HeadersNamed shm →
      Trace.Along (QueueProcess.step (ShmemIpc.library host queues))
        (QueueProcess.KeepsSizes (ShmemIpc.sizesInForce host)
          (ShmemIpc.negotiatedSizes host) own)
        (ShmemIpc.start environ shm) calls →
      (ShmemIpc.start environ shm).Undisturbed (ShmemIpc.library host queues)
        own calls) ∧
    (Trace.Along (QueueProcess.step (ShmemIpc2.library host queues))
        (fun state call =>
          state.KeepsSizes (ShmemIpc2.sizesInForce host)
              (ShmemIpc2.negotiatedSizes host) own call ∧
            ShmemIpc2.KeepsRecord host own state call)
        (ShmemIpc2.start environ shm) calls →
      (ShmemIpc2.start environ shm).Undisturbed
        (ShmemIpc2.library host queues) own calls) := by
  constructor
  · intro metadata named guarded
    obtain ⟨_, _, related⟩ := ShmemIpc.start_related own metadata named
    exact (ShmemIpc.isolates member).undisturbed related guarded
  · intro guarded
    have related := ShmemIpc2.start_related host queues own environ shm
    exact (ShmemIpc2.isolates member).undisturbed related guarded

/-- Two queues of one record, one for each direction. -/
def twoQueues : QueueSet :=
  { names := [['a'], ['b']]
    role := fun name => { record := 0, isTx := decide (name = ['a']) }
    few := by decide
    named := by decide
    short := by decide
    roles := by decide }

/-- An environment that sets the larger segment size. -/
def largerEnvironment : Environ :=
  setenv (fun _ => none) effectiveShmSegmentSize "4096".toList

/-- A process owns two queues of equal geometry. -/
theorem queues_independent_of_equal_geometry :
    let create : QueueOperation := .createSharedRingQueue (.succeed 3) 2 true
    let calls : List (ProcessCall twoQueues) :=
      [⟨['a'], by decide, create⟩, ⟨['b'], by decide, create⟩,
        ⟨['a'], by decide, .data (.pushToQueue [7])⟩,
        ⟨['b'], by decide, .data .popFromQueue⟩,
        ⟨['a'], by decide, .data .peekToQueue⟩]
    (ShmemIpc.start largerEnvironment .empty).Undisturbed
        (ShmemIpc.library dualDockerHost twoQueues) ['a'] calls ∧
      (ShmemIpc2.start largerEnvironment .empty).Undisturbed
        (ShmemIpc2.library dualDockerHost twoQueues) ['a'] calls := by
  have independent := fun calls =>
    queues_independent dualDockerHost twoQueues largerEnvironment .empty ['a']
      (by decide) calls
  constructor
  · apply (independent _).1
    · decide +kernel
    · intro name _ object found
      cases found
    · decide +kernel
  · apply (independent _).2
    decide +kernel

/-- Attaching to a queue with small segments moves the data segments of a
queue that is already open. -/
theorem queues_disturbed_by_attachment :
    let small := ShmemIpc.createSharedRingQueue dualDockerHost (.succeed 3)
      (.start fun _ => none) .empty ['b'] 2 true
    let calls : List (ProcessCall twoQueues) :=
      [⟨['a'], by decide, .createSharedRingQueue (.succeed 3) 2 true⟩,
        ⟨['b'], by decide, .createSharedRingQueue (.succeed 4) 2 false⟩,
        ⟨['a'], by decide, .data (.pushToQueue [7])⟩,
        ⟨['a'], by decide, .data .peekToQueue⟩]
    ¬(ShmemIpc.start largerEnvironment small.shm).Undisturbed
        (ShmemIpc.library dualDockerHost twoQueues) ['a'] calls ∧
      ¬(ShmemIpc2.start largerEnvironment small.shm).Undisturbed
        (ShmemIpc2.library dualDockerHost twoQueues) ['a'] calls := by
  constructor
  · intro undisturbed
    have results := congrArg (List.map CallReport.result) undisturbed.1
    exact absurd results (by decide +kernel)
  · intro undisturbed
    have results := congrArg (List.map CallReport.result) undisturbed.1
    exact absurd results (by decide +kernel)

end OpenAppsec
