import OpenAppsec.Ring.Steps
import OpenAppsec.Ring.SharedObjects

/-!
# The contents of a queue

`Holds` relates a queue in memory to the list of messages it stores.  It is
the refinement between the markers and bytes of the ring and an abstract FIFO
channel: a push appends, and a peek followed by a pop takes the head.
-/

namespace OpenAppsec.Ring

open ByteMemory

/-- The limits under which a ring of this geometry is registered. -/
def Geometry.limits (g : Geometry) (memorySize : Int) : Limits :=
  { numOfDataSegments := g.count
    memorySize
    segmentSize := g.segmentSize
    entrySize := g.segmentSize }

/-- The header fields that the operations compare with the limits. -/
structure Matches (g : Geometry) (memorySize : Int)
    (queue : SharedRingQueue) : Prop where
  count : queue.numOfDataSegments = g.count
  memory : queue.sizeOfMemory = memorySize

/-- The messages that a queue stores between two calls. -/
structure Holds (g : Geometry) (memorySize : Int) (queue : SharedRingQueue)
    (messages : List (List UInt8)) : Prop where
  header : Matches g memorySize queue
  body : Body g queue.bytes queue.readPos queue.writePos messages
  free : Free g queue.bytes queue.readPos queue.writePos

/-- The arithmetic slip of the admission check: from behind the reader, it
admits a push that reaches the end of the ring. -/
def OvertakesReader (numOfDataSegments segmentSize : Nat)
    (queue : SharedRingQueue) (buffers : List (List UInt8)) : Prop :=
  let width := numOfDataSegmentsNeeded segmentSize buffers.flatten.length
  buffers.flatten.length ≤ maxWriteSize ∧
    queue.writePos < queue.readPos ∧
    numOfDataSegments ≤ queue.writePos + width ∧
    isThereEnoughMemory numOfDataSegments queue.writePos queue.readPos
      width = true

instance (numOfDataSegments segmentSize : Nat) (queue : SharedRingQueue)
    (buffers : List (List UInt8)) :
    Decidable
      (OvertakesReader numOfDataSegments segmentSize queue buffers) := by
  unfold OvertakesReader
  infer_instance

section Calls

variable {g : Geometry} {memorySize : Int} {queue : SharedRingQueue}
variable {messages rest buffers : List (List UInt8)} {payload : List UInt8}

variable (header : Matches g memorySize queue)

include header in
theorem Matches.positions_eq (readInside : queue.readPos < g.count)
    (writeInside : queue.writePos < g.count) :
    positions (g.limits memorySize) queue =
      some (queue.readPos, queue.writePos) := by
  have nonempty : g.count ≠ 0 := by omega
  have readBound : ¬(queue.readPos > g.count) := by omega
  have writeBound : ¬(queue.writePos > g.count) := by omega
  simp [positions, Geometry.limits, header.count, header.memory, nonempty,
    readBound, writeBound]

theorem toUInt16_needed {size : Nat} (small : size ≤ 65535) :
    toUInt16 (g.needed size) = g.needed size := by
  have bound := g.needed_le small
  exact toUInt16_of_lt (by omega)

include header

/-- A push either stores the whole message or leaves the queue alone. -/
theorem Matches.push_eq (readInside : queue.readPos < g.count)
    (writeInside : queue.writePos < g.count) (buffers : List (List UInt8)) :
    push (g.limits memorySize) queue buffers =
      if buffers.flatten.length ≤ maxWriteSize then
        if isThereEnoughMemory g.count queue.writePos queue.readPos
            (g.needed buffers.flatten.length) then
          (0,
            { queue with
              bytes := (afterPush g queue.bytes queue.writePos buffers).2
              writePos :=
                (afterPush g queue.bytes queue.writePos buffers).1 })
        else
          (-3, queue)
      else
        (-2, queue) := by
  simp only [push, header.positions_eq readInside writeInside,
    totalElemSize_zero_eq]
  by_cases short : buffers.flatten.length ≤ maxWriteSize
  · have bound := short
    simp only [maxWriteSize] at bound
    have size16 : toUInt16 buffers.flatten.length = buffers.flatten.length :=
      toUInt16_of_lt (by omega)
    have width16 : toUInt16 (numOfDataSegmentsNeeded g.segmentSize
        buffers.flatten.length) = g.needed buffers.flatten.length :=
      toUInt16_needed (by omega)
    simp only [if_pos short, Geometry.limits, size16, width16]
    have inside : ¬(queue.writePos ≥ g.count) := by omega
    cases isThereEnoughMemory g.count queue.writePos queue.readPos
        (g.needed buffers.flatten.length) with
    | true => simp only [Bool.not_true, Bool.false_eq_true, if_false,
        if_neg inside, if_true, afterPush]
    | false => simp only [Bool.not_false, Bool.false_eq_true, if_false,
        if_true]
  · simp only [if_neg short]

theorem Matches.peek_eq
    (body : Body g queue.bytes queue.readPos queue.writePos
      (payload :: rest)) :
    peek (g.limits memorySize) queue =
      (0,
        some (g.address (skipToMessage g.count queue.bytes queue.readPos).1,
          payload.length),
        { queue with
          bytes := (skipToMessage g.count queue.bytes queue.readPos).2
          readPos := (skipToMessage g.count queue.bytes queue.readPos).1 }) := by
  have readInside := body.readPos_lt
  have nonempty : queue.readPos ≠ queue.writePos := by
    intro meet
    cases body.eq_nil_iff.mpr meet
  obtain ⟨_, stop, later, laid⟩ := body.skip
  have inside : ¬(queue.readPos ≥ g.count) := by omega
  simp only [peek, header.positions_eq readInside body.writePos_lt,
    if_neg nonempty]
  simp only [Geometry.limits, if_neg inside, laid.marker_eq]
  rfl

theorem Matches.peek_empty (inside : queue.readPos < g.count)
    (empty : queue.readPos = queue.writePos) :
    peek (g.limits memorySize) queue = (-1, none, queue) := by
  simp only [peek, header.positions_eq inside (empty ▸ inside), if_pos empty]

theorem Matches.pop_empty (inside : queue.readPos < g.count)
    (empty : queue.readPos = queue.writePos) :
    pop (g.limits memorySize) queue = (-1, queue) := by
  simp only [pop, header.positions_eq inside (empty ▸ inside), if_pos empty]

theorem Matches.pop_eq (readInside : queue.readPos < g.count)
    (writeInside : queue.writePos < g.count)
    (nonempty : queue.readPos ≠ queue.writePos) :
    pop (g.limits memorySize) queue =
      (0,
        { queue with
          bytes := (releaseMessage g.count
            (g.needed (marker queue.bytes queue.readPos)) queue.bytes
            queue.readPos).2
          readPos := (releaseMessage g.count
            (g.needed (marker queue.bytes queue.readPos)) queue.bytes
            queue.readPos).1 }) := by
  have small := marker_lt queue.bytes queue.readPos
  have width16 : toUInt16 (numOfDataSegmentsNeeded g.segmentSize
      (marker queue.bytes queue.readPos)) =
        g.needed (marker queue.bytes queue.readPos) :=
    toUInt16_needed (by omega)
  simp only [pop, header.positions_eq readInside writeInside,
    if_neg nonempty]
  simp only [Geometry.limits, width16]

namespace Holds

omit header

theorem eq_nil_iff (holds : Holds g memorySize queue messages) :
    messages = [] ↔ queue.readPos = queue.writePos :=
  holds.body.eq_nil_iff

/-- A push that does not overtake the reader appends its message when it is
accepted, and changes nothing when it is refused. -/
theorem push (holds : Holds g memorySize queue messages)
    (nonempty : buffers.flatten ≠ [])
    (behind : ¬OvertakesReader g.count g.segmentSize queue buffers) :
    let pushed := Ring.push (g.limits memorySize) queue buffers
    (pushed.1 = 0 ∧ IsMessage buffers.flatten ∧
        Holds g memorySize pushed.2 (messages ++ [buffers.flatten])) ∨
      (pushed.1 ≠ 0 ∧ pushed.2 = queue) := by
  have readInside := holds.body.readPos_lt
  have writeInside := holds.body.writePos_lt
  rw [holds.header.push_eq readInside writeInside]
  by_cases short : buffers.flatten.length ≤ maxWriteSize
  · rw [if_pos short]
    by_cases admitted : isThereEnoughMemory g.count queue.writePos
        queue.readPos (g.needed buffers.flatten.length) = true
    · rw [if_pos admitted]
      have size : IsMessage buffers.flatten :=
        ⟨List.length_pos_iff.mpr nonempty, short⟩
      have bound := short
      simp only [maxWriteSize] at bound
      have room : Room g.count queue.readPos queue.writePos
          (g.needed buffers.flatten.length) := by
        refine isThereEnoughMemory_room admitted
          (g.needed_le (by omega)) g.bounded readInside writeInside ?_
        intro overtakes
        by_contra reaches
        exact behind ⟨short, overtakes, Nat.le_of_not_lt reaches, admitted⟩
      exact Or.inl ⟨rfl, size,
        { header := ⟨holds.header.count, holds.header.memory⟩
          body := holds.body.push size room
          free := holds.free.push size readInside writeInside room }⟩
    · rw [if_neg admitted]
      exact Or.inr ⟨by simp, rfl⟩
  · rw [if_neg short]
    exact Or.inr ⟨by simp, rfl⟩

theorem peek (holds : Holds g memorySize queue (payload :: rest)) :
    let peeked := Ring.peek (g.limits memorySize) queue
    peeked.1 = 0 ∧
      peeked.2.1.map (payloadAt peeked.2.2) = some payload ∧
      Holds g memorySize peeked.2.2 (payload :: rest) ∧
      ∃ stop later, Laid g peeked.2.2.bytes peeked.2.2.readPos stop
        (payload :: later) := by
  obtain ⟨moved, stop, later, laid⟩ := holds.body.skip
  rw [holds.header.peek_eq holds.body]
  refine ⟨rfl, ?_, ?_, stop, later, laid⟩
  · simp only [Option.map_some, payloadAt]
    rw [laid.read_eq]
  · exact
      { header := ⟨holds.header.count, holds.header.memory⟩
        body := moved
        free := holds.free.skip holds.body }

theorem pop (holds : Holds g memorySize queue (payload :: rest))
    (head : ∃ stop later, Laid g queue.bytes queue.readPos stop
      (payload :: later)) :
    let popped := Ring.pop (g.limits memorySize) queue
    popped.1 = 0 ∧ Holds g memorySize popped.2 rest := by
  obtain ⟨stop, later, laid⟩ := head
  have nonempty : queue.readPos ≠ queue.writePos := by
    intro meet
    cases holds.eq_nil_iff.mpr meet
  have lookahead : rest = [] → queue.readPos ≤ queue.writePos →
      marker queue.bytes queue.writePos ≠ skipBuffMgmtMagic := by
    intro _ straight
    have unoccupied : Unoccupied queue.readPos queue.writePos
        queue.writePos := by
      rw [Unoccupied, if_pos straight]
      exact Or.inr (Nat.le_refl _)
    rw [holds.free queue.writePos holds.body.writePos_lt unoccupied]
    decide
  rw [holds.header.pop_eq holds.body.readPos_lt holds.body.writePos_lt
    nonempty, laid.marker_eq]
  exact ⟨rfl,
    { header := ⟨holds.header.count, holds.header.memory⟩
      body := holds.body.release laid.marker_ne_skip lookahead
      free := holds.free.release holds.body laid.marker_ne_skip lookahead }⟩

end Holds

end Calls

theorem initializeQueue_holds (g : Geometry) (queue : SharedRingQueue)
    (name : CString) (sizeOfMemory : Nat) (fd : Int)
    (positive : 0 < g.count) :
    Holds g sizeOfMemory
      (initializeQueue queue name g.count sizeOfMemory fd) [] :=
  { header := ⟨rfl, rfl⟩
    body := .straight positive (.nil 0)
    free := fun _ within _ =>
      marker_setMarkers_inside empty_lt (Nat.zero_le _) within }

end OpenAppsec.Ring
