import OpenAppsec.Library.Trace
import OpenAppsec.Ring.Contents
import OpenAppsec.Ring.Generations

/-!
# Runs of single calls

A party pushes, peeks and pops in any order.  A ledger records the messages
that were accepted and how many pops succeeded; as long as every call is clean,
the ring stores exactly the accepted messages that no pop has taken.
-/

namespace OpenAppsec.Ring

open ByteMemory

/-- One call of a party on the shared queue. -/
def Party.call (state : Party × SharedRingQueue) (call : QueueCall) :
    QueueAnswer × (Party × SharedRingQueue) :=
  let (answer, party) := state.1.serve state.2 call
  (answer, party, answer.queue)

/-- The accepted messages in order, and the number of successful pops. -/
structure CallLedger where
  accepted : List (List UInt8)
  popped : Nat

namespace CallLedger

def empty : CallLedger :=
  { accepted := []
    popped := 0 }

def record (ledger : CallLedger) (call : QueueCall) (answer : QueueAnswer) :
    CallLedger :=
  if answer.code ≠ 0 then ledger
  else
    match call with
    | .pushBuffersToQueue inputBuffers =>
        { ledger with accepted := ledger.accepted ++ [inputBuffers.flatten] }
    | .pushToQueue inputBuffer =>
        { ledger with accepted := ledger.accepted ++ [inputBuffer] }
    | .popFromQueue => { ledger with popped := ledger.popped + 1 }
    | _ => ledger

/-- The accepted messages that no pop has taken. -/
def waiting (ledger : CallLedger) : List (List UInt8) :=
  ledger.accepted.drop ledger.popped

theorem waiting_eq_cons {accepted : List (List UInt8)} {popped : Nat}
    {payload : List UInt8} (next : accepted[popped]? = some payload) :
    waiting { accepted, popped } =
      payload :: accepted.drop (popped + 1) := by
  obtain ⟨inside, found⟩ := List.getElem?_eq_some_iff.mp next
  rw [waiting, List.drop_eq_getElem_cons inside, found]

end CallLedger

/-- The marker at the read position announces as many segments as the message
that a peek would find.  It does so unless the reader stands on padding. -/
def AnnouncesMessage (numOfDataSegments segmentSize : Nat)
    (queue : SharedRingQueue) : Prop :=
  let head := skipToMessage numOfDataSegments queue.bytes queue.readPos
  numOfDataSegmentsNeeded segmentSize (marker queue.bytes queue.readPos) =
    numOfDataSegmentsNeeded segmentSize (marker head.2 head.1)

/-- A push carries at least one byte and does not overtake the reader; a pop
finds the segment count of a message at the read position. -/
def QueueCall.Clean (numOfDataSegments segmentSize : Nat)
    (queue : SharedRingQueue) : QueueCall → Prop
  | .pushBuffersToQueue inputBuffers =>
      inputBuffers.flatten ≠ [] ∧
        ¬OvertakesReader numOfDataSegments segmentSize queue inputBuffers
  | .pushToQueue inputBuffer =>
      inputBuffer ≠ [] ∧
        ¬OvertakesReader numOfDataSegments segmentSize queue [inputBuffer]
  | .popFromQueue =>
      queue.readPos ≠ queue.writePos →
        AnnouncesMessage numOfDataSegments segmentSize queue
  | _ => True

instance (numOfDataSegments segmentSize : Nat) (queue : SharedRingQueue) :
    Decidable (AnnouncesMessage numOfDataSegments segmentSize queue) := by
  unfold AnnouncesMessage
  infer_instance

instance (numOfDataSegments segmentSize : Nat) (queue : SharedRingQueue)
    (call : QueueCall) :
    Decidable (call.Clean numOfDataSegments segmentSize queue) := by
  cases call <;> unfold QueueCall.Clean <;> infer_instance

section Alone

variable {g : Geometry} {memorySize : Int} {queue : SharedRingQueue}
variable {payload : List UInt8} {rest messages : List (List UInt8)}

variable (holds : Holds g memorySize queue (payload :: rest))

include holds in
theorem Holds.peek_of_message
    (message : marker queue.bytes queue.readPos ≠ skipBuffMgmtMagic) :
    (Ring.peek (g.limits memorySize) queue).2.2 = queue := by
  rw [holds.header.peek_eq holds.body,
    skipToMessage_of_ne holds.body.readPos_lt message]

theorem releaseMessage_wrapped_readPos (bytes : ByteMemory)
    {count width readPos : Nat} (wraps : count < readPos + width)
    (narrow : width < 65536) :
    (releaseMessage count width bytes readPos).1 = 0 ∨
      (releaseMessage count width bytes readPos).1 = width := by
  have endPos : toUInt16 (0 + width) = width := by
    rw [toUInt16_of_lt (by omega), Nat.zero_add]
  have furthest : max 0 width = width := by omega
  simp only [releaseMessage, if_pos wraps, endPos, furthest]
  split
  · simp
  · by_cases whole : width = count
    · simp [whole]
    · simp [whole]

include holds

theorem Holds.pop_after_padding (behind : queue.writePos < queue.readPos)
    (laid : Laid g queue.bytes 0 queue.writePos (payload :: rest))
    (padding : ∀ index, queue.readPos ≤ index → index < g.count →
      marker queue.bytes index = skipBuffMgmtMagic) :
    let moved := (Ring.peek (g.limits memorySize) queue).2.2
    let released := releaseMessage g.count (g.needed payload.length)
      (setMarkers queue.bytes queue.readPos g.count emptyBuffMgmtMagic) 0
    Ring.pop (g.limits memorySize) moved =
        (0, { queue with bytes := released.2, readPos := released.1 }) ∧
      released.1 = g.needed payload.length := by
  have readInside := holds.body.readPos_lt
  have within := laid.later.le
  obtain ⟨_, _, moved, stop, later, head⟩ := holds.peek
  rw [holds.header.peek_eq holds.body,
    skipToMessage_of_padding readInside padding] at moved head ⊢
  dsimp only at moved head ⊢
  have popped := moved.header.pop_eq moved.body.readPos_lt
    moved.body.writePos_lt (by
      have positive := head.lt_of_cons
      have some := laid.lt_of_cons
      dsimp only
      omega)
  rw [popped]
  dsimp only
  rw [head.marker_eq]
  have size := laid.isMessage payload List.mem_cons_self
  have positive := g.needed_pos size.1
  have notPadding : marker (setMarkers queue.bytes queue.readPos g.count
      emptyBuffMgmtMagic) (0 + g.needed payload.length) ≠
        skipBuffMgmtMagic := by
    cases rest with
    | nil =>
        have ends := laid.later.eq_nil_iff.mp rfl
        have empty := moved.free queue.writePos moved.body.writePos_lt (by
          simp [Unoccupied])
        dsimp only at empty
        rw [ends, empty]
        decide
    | cons next rest =>
        rw [marker_setMarkers_outside empty_lt (Or.inl (by
          have further := laid.later.lt_of_cons
          omega))]
        exact laid.later.marker_ne_skip
  refine ⟨rfl, ?_⟩
  rw [releaseMessage_of_le positive (by omega),
    if_neg (fun both => notPadding both.2), if_neg (by omega), Nat.zero_add]

/-- A pop without a peek does what the peek and the pop would have done
exactly when the marker it finds announces as many segments as the message. -/
theorem Holds.pop_alone_iff :
    Ring.pop (g.limits memorySize) queue =
        Ring.pop (g.limits memorySize)
          (Ring.peek (g.limits memorySize) queue).2.2 ↔
      AnnouncesMessage g.count g.segmentSize queue := by
  have readInside := holds.body.readPos_lt
  obtain ⟨_, _, _, found⟩ := holds.body.skip
  rw [AnnouncesMessage, found.marker_eq]
  rcases holds.body.head_cases with ⟨stop, later, laid⟩ |
    ⟨behind, laid, overflow, padding⟩
  · rw [holds.peek_of_message laid.marker_ne_skip, laid.marker_eq]
    simp
  · have wide : g.needed payload.length ≤ g.needed skipBuffMgmtMagic := by
      have size := (laid.isMessage payload List.mem_cons_self).2
      apply Nat.div_le_div_right
      simp only [maxWriteSize, skipBuffMgmtMagic] at size ⊢
      omega
    have marked := padding queue.readPos (Nat.le_refl _) readInside
    have within := laid.later.le
    have size := laid.isMessage payload List.mem_cons_self
    have positive := g.needed_pos size.1
    obtain ⟨popped, position⟩ := holds.pop_after_padding behind laid padding
    rw [popped,
      holds.header.pop_eq readInside holds.body.writePos_lt (by omega),
      marked]
    constructor
    · intro same
      have positions := congrArg (fun result => result.2.readPos) same
      dsimp only at positions
      have narrow : g.needed skipBuffMgmtMagic ≤ 64 :=
        g.needed_le (by decide)
      have wraps : g.count < queue.readPos + g.needed skipBuffMgmtMagic := by
        omega
      rcases releaseMessage_wrapped_readPos queue.bytes wraps
        (by omega) with start | behindIt
      · omega
      · exact behindIt.symm.trans (positions.trans position)
    · intro same
      have width : g.needed skipBuffMgmtMagic = g.needed payload.length :=
        same
      rw [width, releaseMessage_of_gt overflow (by omega)]

theorem Holds.pop_announced
    (announces : AnnouncesMessage g.count g.segmentSize queue) :
    let popped := Ring.pop (g.limits memorySize) queue
    popped.1 = 0 ∧ Holds g memorySize popped.2 rest := by
  obtain ⟨_, _, moved, head⟩ := holds.peek
  rw [holds.pop_alone_iff.mpr announces]
  exact moved.pop head

end Alone

section Runs

variable {g : Geometry} {memorySize : Int}
variable {state : Party × SharedRingQueue} {ledger : CallLedger}

/-- A party on a ring that stores what the ledger says. -/
structure Follows (g : Geometry) (memorySize : Int)
    (state : Party × SharedRingQueue) (ledger : CallLedger) : Prop where
  registered : state.1.Registered state.2.sharedLocationName
    (g.limits memorySize)
  popped : ledger.popped ≤ ledger.accepted.length
  holds : Holds g memorySize state.2 ledger.waiting

variable (follows : Follows g memorySize state ledger)

include follows

theorem Follows.call_eq (call : QueueCall) :
    (Party.call state call).1 = serve (g.limits memorySize) state.2 call ∧
      (Party.call state call).2.2 =
        (serve (g.limits memorySize) state.2 call).queue ∧
      (Party.call state call).2.1.Registered
        (Party.call state call).2.2.sharedLocationName
        (g.limits memorySize) := by
  obtain ⟨answer, after⟩ := Party.serve_eq follows.registered call
  simp only [Party.call, answer]
  exact ⟨trivial, trivial, after⟩

theorem Follows.of_served {call : QueueCall} {after : CallLedger}
    (popped : after.popped ≤ after.accepted.length)
    (holds : Holds g memorySize
      (serve (g.limits memorySize) state.2 call).queue after.waiting) :
    Follows g memorySize (Party.call state call).2 after := by
  obtain ⟨_, queueEq, registered⟩ := follows.call_eq call
  exact ⟨registered, popped, queueEq ▸ holds⟩

theorem Follows.push (buffers : List (List UInt8))
    (nonempty : buffers.flatten ≠ [])
    (behind : ¬OvertakesReader g.count g.segmentSize state.2 buffers) :
    let pushed := Ring.push (g.limits memorySize) state.2 buffers
    let after :=
      if pushed.1 ≠ 0 then ledger
      else { ledger with accepted := ledger.accepted ++ [buffers.flatten] }
    after.popped ≤ after.accepted.length ∧
      Holds g memorySize pushed.2 after.waiting := by
  rcases follows.holds.push nonempty behind with ⟨accepted, _, after⟩ |
    ⟨refused, same⟩
  · have few := follows.popped
    simp only [accepted, ne_eq, not_true_eq_false, if_false,
      CallLedger.waiting, List.length_append]
    refine ⟨by omega, ?_⟩
    rw [List.drop_append_of_le_length few]
    exact after
  · simp only [refused, ne_eq, not_false_eq_true, if_true, same]
    exact ⟨follows.popped, follows.holds⟩

/-- Every clean call keeps the ring in step with the ledger. -/
theorem Follows.call (call : QueueCall)
    (clean : call.Clean g.count g.segmentSize state.2) :
    Follows g memorySize (Party.call state call).2
      (ledger.record call (Party.call state call).1) := by
  rw [(follows.call_eq call).1]
  cases call with
  | pushBuffersToQueue buffers =>
      obtain ⟨popped, holds⟩ := follows.push buffers clean.1 clean.2
      exact follows.of_served popped holds
  | pushToQueue buffer =>
      obtain ⟨popped, holds⟩ := follows.push [buffer]
        (by simpa using clean.1) clean.2
      simp only [List.flatten_singleton] at popped holds
      exact follows.of_served popped holds
  | peekToQueue =>
      have same : ledger.record .peekToQueue
          (serve (g.limits memorySize) state.2 .peekToQueue) = ledger := by
        simp [CallLedger.record]
      rw [same]
      refine follows.of_served follows.popped ?_
      have holds := follows.holds
      cases stored : ledger.waiting with
      | nil =>
          rw [stored] at holds
          simp only [serve, holds.header.peek_empty holds.body.readPos_lt
            (holds.eq_nil_iff.mp rfl)]
          exact holds
      | cons payload rest =>
          rw [stored] at holds
          exact holds.peek.2.2.1
  | popFromQueue =>
      have holds := follows.holds
      cases stored : ledger.waiting with
      | nil =>
          rw [stored] at holds
          have refused := holds.header.pop_empty holds.body.readPos_lt
            (holds.eq_nil_iff.mp rfl)
          have same : ledger.record .popFromQueue
              (serve (g.limits memorySize) state.2 .popFromQueue) =
                ledger := by
            simp [CallLedger.record, serve, refused]
          rw [same]
          refine follows.of_served follows.popped ?_
          simp only [serve, refused, stored]
          exact holds
      | cons payload rest =>
          rw [stored] at holds
          have some : state.2.readPos ≠ state.2.writePos := by
            intro meet
            cases holds.eq_nil_iff.mpr meet
          obtain ⟨code, after⟩ := holds.pop_announced (clean some)
          have taken : ledger.record .popFromQueue
              (serve (g.limits memorySize) state.2 .popFromQueue) =
                { ledger with popped := ledger.popped + 1 } := by
            simp [CallLedger.record, serve, code]
          rw [taken]
          have length := congrArg List.length stored
          simp only [CallLedger.waiting, List.length_drop,
            List.length_cons] at length
          refine follows.of_served (by dsimp only; omega) ?_
          have next : CallLedger.waiting
              { ledger with popped := ledger.popped + 1 } = rest := by
            simp only [CallLedger.waiting, ← List.tail_drop] at stored ⊢
            rw [stored, List.tail_cons]
          rw [next]
          exact after
  | isQueueEmpty =>
      have same : ledger.record .isQueueEmpty
          (serve (g.limits memorySize) state.2 .isQueueEmpty) = ledger := by
        simp [CallLedger.record]
      rw [same]
      exact follows.of_served follows.popped follows.holds

theorem Follows.run {calls : List QueueCall}
    (clean : Trace.Along Party.call
      (fun state call => call.Clean g.count g.segmentSize state.2) state
      calls) :
    Follows g memorySize (Trace.run Party.call state calls).2
      (Trace.history CallLedger.record ledger calls
        (Trace.run Party.call state calls).1) :=
  Trace.run_history _ CallLedger.record (Follows g memorySize)
    (fun _ _ call follows clean => follows.call call clean) follows clean

end Runs

/-- A party and the ring that its owner has just initialized. -/
def freshRing (party : Party) (queue : SharedRingQueue) (name : CString)
    (numOfDataSegments sizeOfMemory : Nat) (fd : Int) :
    Party × SharedRingQueue :=
  (party, initializeQueue queue name numOfDataSegments sizeOfMemory fd)

theorem follows_freshRing (g : Geometry) (sizeOfMemory : Nat) (party : Party)
    (queue : SharedRingQueue) (name : CString) (fd : Int)
    (several : 2 ≤ g.count)
    (ready : party.Registered (snprintfName name) (g.limits sizeOfMemory)) :
    Follows g sizeOfMemory
      (freshRing party queue name g.count sizeOfMemory fd) .empty :=
  { registered := ready
    popped := Nat.le_refl 0
    holds := initializeQueue_holds g queue name sizeOfMemory fd (by omega) }

end OpenAppsec.Ring
