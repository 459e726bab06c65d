import OpenAppsec.Ring.Admission
import OpenAppsec.Ring.CallRuns

/-!
# Drained rings, consumable messages and lone pops

Three properties of every clean run: what a drained ring still accepts, that
each accepted message can be peeked and popped in its turn, and when a pop does
without the peek before it.
-/

namespace OpenAppsec.Ring

open ByteMemory

section States

variable {g : Geometry} {memorySize : Int}
variable {state : Party × SharedRingQueue} {ledger : CallLedger}

variable (follows : Follows g memorySize state ledger)

include follows in
theorem Follows.push_code_eq {buffers : List (List UInt8)}
    (size : IsMessage buffers.flatten) :
    (Party.call state (.pushBuffersToQueue buffers)).1.code = 0 ↔
      isThereEnoughMemory g.count state.2.writePos state.2.readPos
        (g.needed buffers.flatten.length) = true := by
  have readInside := follows.holds.body.readPos_lt
  have writeInside := follows.holds.body.writePos_lt
  rw [(follows.call_eq _).1]
  simp only [serve, follows.holds.header.push_eq readInside writeInside,
    if_pos size.2]
  split
  · rename_i admitted
    exact iff_of_true rfl admitted
  · rename_i refused
    exact iff_of_false (by simp) refused

theorem isThereEnoughMemory_empty_iff {count pos width : Nat}
    (positive : 1 ≤ width) (narrow : width ≤ 64)
    (bounded : count ≤ maxNumOfDataSegments) (inside : pos < count) :
    isThereEnoughMemory count pos pos width = true ↔
      width < count ∧ (pos + width ≤ count ∨ width < pos) := by
  rw [isThereEnoughMemory_iff positive narrow bounded inside inside]
  split
  · omega
  · split <;> omega

/-- So many peeks, each with its pop. -/
def consumePairs : Nat → List QueueCall
  | 0 => []
  | pairs + 1 => .peekToQueue :: .popFromQueue :: consumePairs pairs

include follows

theorem Follows.peek :
    Follows g memorySize (Party.call state .peekToQueue).2 ledger := by
  have after := follows.call .peekToQueue trivial
  have same : ledger.record .peekToQueue
      (Party.call state .peekToQueue).1 = ledger := by
    simp [CallLedger.record]
  rwa [same] at after

theorem Follows.peek_waiting {payload : List UInt8} {rest : List (List UInt8)}
    (waiting : ledger.waiting = payload :: rest) :
    let peeked := Party.call state .peekToQueue
    peeked.1.code = 0 ∧
      peeked.1.output.map Prod.snd = some payload.length ∧
      peeked.1.output.map (payloadAt peeked.2.2) = some payload ∧
      QueueCall.popFromQueue.Clean g.count g.segmentSize peeked.2.2 := by
  have holds := follows.holds
  rw [waiting] at holds
  obtain ⟨answer, queueEq, _⟩ := follows.call_eq .peekToQueue
  obtain ⟨code, output, moved, stop, later, laid⟩ := holds.peek
  simp only [answer, queueEq, serve]
  refine ⟨code, ?_, output, ?_⟩
  · rw [holds.header.peek_eq holds.body]
    rfl
  · intro _
    rw [AnnouncesMessage,
      skipToMessage_of_ne moved.body.readPos_lt laid.marker_ne_skip]

theorem Follows.pop_waiting {payload : List UInt8} {rest : List (List UInt8)}
    (waiting : ledger.waiting = payload :: rest)
    (clean : QueueCall.popFromQueue.Clean g.count g.segmentSize state.2) :
    let popped := Party.call state .popFromQueue
    popped.1.code = 0 ∧
      Follows g memorySize popped.2
        { ledger with popped := ledger.popped + 1 } := by
  have holds := follows.holds
  rw [waiting] at holds
  have some : state.2.readPos ≠ state.2.writePos := by
    intro meet
    cases holds.eq_nil_iff.mpr meet
  have code : (Party.call state .popFromQueue).1.code = 0 := by
    rw [(follows.call_eq .popFromQueue).1]
    exact (holds.pop_announced (clean some)).1
  have after := follows.call .popFromQueue clean
  rw [CallLedger.record, if_neg (by simp [code])] at after
  exact ⟨code, after⟩

theorem Follows.consume (pairs : Nat)
    (enough : ledger.popped + pairs ≤ ledger.accepted.length) :
    Follows g memorySize
      (Trace.run Party.call state (consumePairs pairs)).2
      { ledger with popped := ledger.popped + pairs } := by
  induction pairs generalizing state ledger with
  | zero => exact follows
  | succ pairs induction =>
      obtain ⟨payload, rest, waiting⟩ :
          ∃ payload rest, ledger.waiting = payload :: rest := by
        cases stored : ledger.waiting with
        | nil =>
            have length := congrArg List.length stored
            simp only [CallLedger.waiting, List.length_drop,
              List.length_nil] at length
            omega
        | cons payload rest => exact ⟨payload, rest, rfl⟩
      have clean := (follows.peek_waiting waiting).2.2.2
      have popped := (follows.peek.pop_waiting waiting clean).2
      have consumed := induction popped (by
        dsimp only
        omega)
      rw [Nat.add_right_comm] at consumed
      exact consumed

theorem Follows.isQueueEmpty_iff :
    (Party.call state .isQueueEmpty).1.code = 1 ↔
      (Party.call state .peekToQueue).1.code ≠ 0 := by
  rw [(follows.call_eq .isQueueEmpty).1, (follows.call_eq .peekToQueue).1]
  have holds := follows.holds
  have empty := holds.eq_nil_iff
  cases waiting : ledger.waiting with
  | nil =>
      have meet := empty.mp waiting
      rw [waiting] at holds
      simp only [serve, holds.header.peek_empty holds.body.readPos_lt meet]
      simp [meet]
  | cons payload rest =>
      rw [waiting] at holds empty
      have apart : state.2.readPos ≠ state.2.writePos := by
        intro meet
        cases empty.mpr meet
      simp only [serve, holds.peek.1]
      simp [apart]

theorem Follows.nonempty_of_push {buffers : List (List UInt8)}
    (clean : (QueueCall.pushBuffersToQueue buffers).Clean g.count
      g.segmentSize state.2)
    (accepted :
      (Party.call state (.pushBuffersToQueue buffers)).1.code = 0) :
    (Party.call (Party.call state (.pushBuffersToQueue buffers)).2
      .isQueueEmpty).1.code = 0 := by
  have after := follows.call _ clean
  rw [CallLedger.record, if_neg (by simp [accepted])] at after
  have few := follows.popped
  have apart : (Party.call state (.pushBuffersToQueue buffers)).2.2.readPos ≠
      (Party.call state (.pushBuffersToQueue buffers)).2.2.writePos := by
    intro meet
    have none := after.holds.eq_nil_iff.mpr meet
    have length := congrArg List.length none
    simp only [CallLedger.waiting, List.length_drop, List.length_append,
      List.length_singleton, List.length_nil] at length
    omega
  rw [(after.call_eq .isQueueEmpty).1]
  simp [serve, apart]

end States

/-- A clean run of a party on the ring that its owner has just initialized. -/
structure CleanRun (g : Geometry) (sizeOfMemory : Nat) (party : Party)
    (queue : SharedRingQueue) (name : CString) (fd : Int)
    (calls : List QueueCall) : Prop where
  several : 2 ≤ g.count
  ready : party.Registered (snprintfName name) (g.limits sizeOfMemory)
  clean : Trace.Along Party.call
    (fun state call => call.Clean g.count g.segmentSize state.2)
    (freshRing party queue name g.count sizeOfMemory fd) calls

section Claims

variable {g : Geometry} {sizeOfMemory : Nat} {party : Party}
variable {queue : SharedRingQueue} {name : CString} {fd : Int}
variable {calls : List QueueCall}

theorem CleanRun.fresh
    (run : CleanRun g sizeOfMemory party queue name fd calls) :
    Follows g sizeOfMemory
      (freshRing party queue name g.count sizeOfMemory fd) .empty :=
  follows_freshRing g sizeOfMemory party queue name fd run.several run.ready

theorem CleanRun.follows
    (run : CleanRun g sizeOfMemory party queue name fd calls) :
    Follows g sizeOfMemory
      (Trace.run Party.call
        (freshRing party queue name g.count sizeOfMemory fd) calls).2
      (Trace.history CallLedger.record .empty calls
        (Trace.run Party.call
          (freshRing party queue name g.count sizeOfMemory fd) calls).1) :=
  run.fresh.run run.clean

/-- A drained ring accepts a message that a fresh ring accepts exactly when
the message fits between the position where the ring stands empty and its end,
or below that position. -/
theorem drained_ring_accepts_iff
    (cleanRun : CleanRun g sizeOfMemory party queue name fd calls)
    (drained :
      let fresh := freshRing party queue name g.count sizeOfMemory fd
      let run := Trace.run Party.call fresh calls
      let ledger := Trace.history CallLedger.record .empty calls run.1
      ledger.popped = ledger.accepted.length)
    (buffers : List (List UInt8)) (size : IsMessage buffers.flatten)
    (fits : (Party.call
      (freshRing party queue name g.count sizeOfMemory fd)
      (.pushBuffersToQueue buffers)).1.code = 0) :
    let fresh := freshRing party queue name g.count sizeOfMemory fd
    let run := Trace.run Party.call fresh calls
    (Party.call run.2 (.pushBuffersToQueue buffers)).1.code = 0 ↔
      run.2.2.readPos +
          numOfDataSegmentsNeeded g.segmentSize buffers.flatten.length ≤
          g.count ∨
        numOfDataSegmentsNeeded g.segmentSize buffers.flatten.length <
          run.2.2.readPos := by
  have fresh := cleanRun.fresh
  have follows := cleanRun.follows
  have positive := g.needed_pos size.1
  have narrow : g.needed buffers.flatten.length ≤ 64 := by
    have bound := size.2
    simp only [maxWriteSize] at bound
    exact g.needed_le (by omega)
  have meet := follows.holds.eq_nil_iff.mp (by
    rw [CallLedger.waiting, drained, List.drop_length])
  rw [fresh.push_code_eq size] at fits
  have short := ((isThereEnoughMemory_empty_iff positive narrow g.bounded
    fresh.holds.body.readPos_lt).mp fits).1
  dsimp only
  rw [follows.push_code_eq size, ← meet,
    isThereEnoughMemory_empty_iff positive narrow g.bounded
      follows.holds.body.readPos_lt]
  exact and_iff_right short

/-- A ring of four segments, created with 1024-byte segments. -/
def fourSegments : Geometry :=
  { count := 4
    segmentSize := 1024
    large := by decide
    fits := by decide
    bounded := by decide }

/-- The process that created a ring. -/
def ownerOf (numOfDataSegments : Nat) : Party :=
  .shmemIpc dualDockerHost (ShmemIpc.createSharedRingQueue dualDockerHost
    (.succeed 3) (.start fun _ => none) .empty ['q'] numOfDataSegments
    true).process

theorem ownerOf_registered :
    (ownerOf 4).Registered (snprintfName ['q'])
      (fourSegments.limits (5202 : Nat)) := by
  exact ⟨⟨_, rfl, by decide +kernel, by decide +kernel⟩, by decide +kernel,
    by decide +kernel, by decide +kernel, by decide +kernel⟩

theorem drained_ring_accepts_one_byte :
    let fresh := freshRing (ownerOf 4) emptyShmObject.queue ['q'] 4 5202 3
    let run := Trace.run Party.call fresh
      [.pushToQueue [1], .peekToQueue, .popFromQueue]
    (Party.call run.2 (.pushBuffersToQueue [[2]])).1.code = 0 ↔
      run.2.2.readPos + numOfDataSegmentsNeeded 1024 1 ≤ 4 ∨
        numOfDataSegmentsNeeded 1024 1 < run.2.2.readPos :=
  drained_ring_accepts_iff (g := fourSegments)
    ⟨by decide, ownerOf_registered, by decide +kernel⟩ (by decide +kernel)
    [[2]] (by decide) (by decide +kernel)

/-- A ring of four segments, drained at its middle, refuses a message of three
segments that the fresh ring accepts. -/
theorem drained_ring_refuses :
    let fresh := freshRing (ownerOf 4) emptyShmObject.queue ['q'] 4 5202 3
    let calls : List QueueCall :=
      [.pushToQueue (List.replicate 1025 0), .peekToQueue, .popFromQueue]
    let run := Trace.run Party.call fresh calls
    let ledger := Trace.history CallLedger.record .empty calls run.1
    let message := List.replicate 2049 (0 : UInt8)
    ledger.popped = ledger.accepted.length ∧
      (Party.call fresh (.pushBuffersToQueue [message])).1.code = 0 ∧
      (Party.call run.2 (.pushBuffersToQueue [message])).1.code = -3 :=
  ⟨by decide +kernel, by decide +kernel, by decide +kernel⟩

/-- Every accepted message is consumed in its turn: an accepted push leaves
the ring nonempty, the emptiness test agrees with the peek, and behind the
pairs for the messages before it a peek hands the message out whole and the
pop removes exactly it. -/
theorem accepted_messages_consumable
    (cleanRun : CleanRun g sizeOfMemory party queue name fd calls) :
    let fresh := freshRing party queue name g.count sizeOfMemory fd
    let run := Trace.run Party.call fresh calls
    let ledger := Trace.history CallLedger.record .empty calls run.1
    (∀ buffers,
      (QueueCall.pushBuffersToQueue buffers).Clean g.count g.segmentSize
        run.2.2 →
      (Party.call run.2 (.pushBuffersToQueue buffers)).1.code = 0 →
      (Party.call (Party.call run.2 (.pushBuffersToQueue buffers)).2
        .isQueueEmpty).1.code = 0) ∧
    ((Party.call run.2 .isQueueEmpty).1.code = 1 ↔
      (Party.call run.2 .peekToQueue).1.code ≠ 0) ∧
    ∀ pairs payload,
      ledger.accepted[ledger.popped + pairs]? = some payload →
      let consumed := Trace.run Party.call run.2 (consumePairs pairs)
      let peeked := Party.call consumed.2 .peekToQueue
      let popped := Party.call peeked.2 .popFromQueue
      peeked.1.code = 0 ∧
        peeked.1.output.map Prod.snd = some payload.length ∧
        peeked.1.output.map (payloadAt peeked.2.2) = some payload ∧
        popped.1.code = 0 ∧
        Holds g sizeOfMemory popped.2.2
          (ledger.accepted.drop (ledger.popped + pairs + 1)) := by
  have follows := cleanRun.follows
  refine ⟨fun buffers message accepted =>
    follows.nonempty_of_push message accepted, follows.isQueueEmpty_iff, ?_⟩
  intro pairs payload turn
  have inside := (List.getElem?_eq_some_iff.mp turn).1
  have consumed := follows.consume pairs (Nat.le_of_lt inside)
  have waiting := CallLedger.waiting_eq_cons turn
  obtain ⟨code, length, whole, clean⟩ := consumed.peek_waiting waiting
  obtain ⟨taken, after⟩ := consumed.peek.pop_waiting waiting clean
  exact ⟨code, length, whole, taken, after.holds⟩

theorem accepted_message_of_one_byte_consumable :
    let fresh := freshRing (ownerOf 4) emptyShmObject.queue ['q'] 4 5202 3
    let calls : List QueueCall := [.pushToQueue [7]]
    let run := Trace.run Party.call fresh calls
    let ledger := Trace.history CallLedger.record .empty calls run.1
    (∀ buffers,
      (QueueCall.pushBuffersToQueue buffers).Clean 4 1024 run.2.2 →
      (Party.call run.2 (.pushBuffersToQueue buffers)).1.code = 0 →
      (Party.call (Party.call run.2 (.pushBuffersToQueue buffers)).2
        .isQueueEmpty).1.code = 0) ∧
    ((Party.call run.2 .isQueueEmpty).1.code = 1 ↔
      (Party.call run.2 .peekToQueue).1.code ≠ 0) ∧
    ∀ pairs payload,
      ledger.accepted[ledger.popped + pairs]? = some payload →
      let consumed := Trace.run Party.call run.2 (consumePairs pairs)
      let peeked := Party.call consumed.2 .peekToQueue
      let popped := Party.call peeked.2 .popFromQueue
      peeked.1.code = 0 ∧
        peeked.1.output.map Prod.snd = some payload.length ∧
        peeked.1.output.map (payloadAt peeked.2.2) = some payload ∧
        popped.1.code = 0 ∧
        Holds fourSegments (5202 : Nat) popped.2.2
          (ledger.accepted.drop (ledger.popped + pairs + 1)) :=
  accepted_messages_consumable (g := fourSegments)
    ⟨by decide, ownerOf_registered, by decide +kernel⟩

/-- An accepted push of no bytes: the pop behind its peek succeeds without
removing it, and where it closes the ring on the reader the queue looks empty
with an unread message in it. -/
theorem empty_message_not_consumable :
    let fresh := freshRing (ownerOf 4) emptyShmObject.queue ['q'] 4 5202 3
    let pushed := Party.call fresh (.pushToQueue [])
    let consumed := Trace.run Party.call pushed.2 (consumePairs 1)
    let full := Trace.run Party.call fresh
      [.pushToQueue (List.replicate 3072 0), .pushToQueue []]
    pushed.1.code = 0 ∧
      consumed.1.map QueueAnswer.code = [0, 0] ∧
      (Party.call consumed.2 .isQueueEmpty).1.code = 0 ∧
      full.1.map QueueAnswer.code = [0, 0] ∧
      (Party.call full.2 .isQueueEmpty).1.code = 1 :=
  ⟨by decide +kernel, by decide +kernel, by decide +kernel,
    by decide +kernel, by decide +kernel⟩

/-- On a ring that is not empty, a lone pop answers and leaves what the pop
behind a peek would, exactly when the marker at the read position announces
as many segments as the message that the peek finds. -/
theorem popFromQueue_alone_iff
    (cleanRun : CleanRun g sizeOfMemory party queue name fd calls)
    (nonempty :
      let fresh := freshRing party queue name g.count sizeOfMemory fd
      let run := Trace.run Party.call fresh calls
      run.2.2.readPos ≠ run.2.2.writePos) :
    let fresh := freshRing party queue name g.count sizeOfMemory fd
    let run := Trace.run Party.call fresh calls
    (Party.call run.2 .popFromQueue).1 =
        (Party.call (Party.call run.2 .peekToQueue).2 .popFromQueue).1 ↔
      AnnouncesMessage g.count g.segmentSize run.2.2 := by
  have follows := cleanRun.follows
  have holds := follows.holds
  dsimp only at nonempty ⊢
  rw [(follows.call_eq .popFromQueue).1,
    (follows.peek.call_eq .popFromQueue).1,
    (follows.call_eq .peekToQueue).2.1]
  cases waiting : CallLedger.waiting _ with
  | nil => exact absurd (holds.eq_nil_iff.mp waiting) nonempty
  | cons payload rest =>
      rw [waiting] at holds
      rw [← holds.pop_alone_iff]
      simp only [serve, QueueAnswer.mk.injEq, true_and]
      exact Prod.ext_iff.symm

theorem popFromQueue_alone_of_message :
    let fresh := freshRing (ownerOf 4) emptyShmObject.queue ['q'] 4 5202 3
    let run := Trace.run Party.call fresh [.pushToQueue [7]]
    (Party.call run.2 .popFromQueue).1 =
        (Party.call (Party.call run.2 .peekToQueue).2 .popFromQueue).1 ↔
      AnnouncesMessage 4 1024 run.2.2 :=
  popFromQueue_alone_iff (g := fourSegments)
    ⟨by decide, ownerOf_registered, by decide +kernel⟩ (by decide +kernel)

/-- In front of a message that lies behind the padding at the end of the ring,
a lone pop takes the padding for a message of the largest size and moves the
read position out of the ring. -/
theorem popFromQueue_alone_on_padding :
    let fresh := freshRing (ownerOf 4) emptyShmObject.queue ['q'] 4 5202 3
    let run := Trace.run Party.call fresh
      [.pushToQueue (List.replicate 3072 0), .peekToQueue, .popFromQueue,
        .pushToQueue (List.replicate 1025 0)]
    run.1.map QueueAnswer.code = [0, 0, 0, 0] ∧
      (Party.call run.2 .popFromQueue).2.2.readPos = 64 ∧
      (Party.call (Party.call run.2 .peekToQueue).2
        .popFromQueue).2.2.readPos = 2 :=
  ⟨by decide +kernel, by decide +kernel, by decide +kernel⟩

end Claims

end OpenAppsec.Ring
