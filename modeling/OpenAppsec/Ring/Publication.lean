import OpenAppsec.Library.Trace
import OpenAppsec.Ring.Contents
import OpenAppsec.Ring.Generations

/-!
# Pushes that are not yet published

A producer writes markers and payload first and publishes its write position
last; the peeks and pops of the consumer may fall in between.  The invariant
keeps two views of the ring: what lies before the published write position,
and what will lie before the one that is still to be published.
-/

namespace OpenAppsec.Ring

open ByteMemory

/-- A producer and a consumer that share one ring.  `unpublished` is the write
position of a push whose markers and payload are already written. -/
structure Interleaving where
  producer : Party
  consumer : Party
  queue : SharedRingQueue
  unpublished : Option Nat

/-- The steps of the two processes. -/
inductive SpscStep where
  | beginPush (inputBuffers : List (List UInt8))
  | publish
  | peek
  | pop

/-- What a step reports; a peek reads the payload it was handed. -/
inductive SpscReport where
  | begun (code : Int)
  | published
  | peeked (code : Int) (payload : Option (List UInt8))
  | popped (code : Int)
  | idle

def SpscReport.succeeds : SpscReport → Bool
  | .begun code => code = 0
  | .published => true
  | .peeked code _ => code = 0
  | .popped code => code = 0
  | .idle => false

/-- One step.  A producer in the middle of a push does not begin another. -/
def Interleaving.step (state : Interleaving) (step : SpscStep) :
    SpscReport × Interleaving :=
  match step, state.unpublished with
  | .beginPush inputBuffers, none =>
      let (answer, producer) :=
        state.producer.serve state.queue (.pushBuffersToQueue inputBuffers)
      if answer.code = 0 then
        (.begun 0,
          { state with
            producer
            queue := { answer.queue with writePos := state.queue.writePos }
            unpublished := some answer.queue.writePos })
      else
        (.begun answer.code, { state with producer })
  | .beginPush _, some _ => (.idle, state)
  | .publish, some writePos =>
      (.published,
        { state with
          queue := { state.queue with writePos }
          unpublished := none })
  | .publish, none => (.idle, state)
  | .peek, _ =>
      let (answer, consumer) := state.consumer.serve state.queue .peekToQueue
      (.peeked answer.code (answer.output.map (payloadAt answer.queue)),
        { state with consumer, queue := answer.queue })
  | .pop, _ =>
      let (answer, consumer) := state.consumer.serve state.queue .popFromQueue
      (.popped answer.code, { state with consumer, queue := answer.queue })

/-- The messages that pushes have begun, in order, how many of them are
published, and how many have been popped. -/
structure Ledger where
  begun : List (List UInt8)
  published : Nat
  popped : Nat

def Ledger.empty : Ledger :=
  { begun := []
    published := 0
    popped := 0 }

def Ledger.record (ledger : Ledger) (step : SpscStep)
    (report : SpscReport) : Ledger :=
  match step, report with
  | .beginPush inputBuffers, .begun code =>
      if code = 0 then
        { ledger with begun := ledger.begun ++ [inputBuffers.flatten] }
      else
        ledger
  | .publish, .published => { ledger with published := ledger.published + 1 }
  | .pop, .popped code =>
      if code = 0 then { ledger with popped := ledger.popped + 1 }
      else ledger
  | _, _ => ledger

/-- The published message that is next in order, if there is one. -/
def Ledger.next (ledger : Ledger) : Option (List UInt8) :=
  (ledger.begun.take ledger.published)[ledger.popped]?

/-- A pushed message has a length that one push can carry. -/
def SpscStep.CarriesMessage : SpscStep → Prop
  | .beginPush inputBuffers => IsMessage inputBuffers.flatten
  | _ => True

/-- An admitted push finds its target segments free. -/
def Interleaving.TargetsFree (numOfDataSegments segmentSize : Nat)
    (state : Interleaving) : SpscStep → Prop
  | .beginPush inputBuffers =>
      let queue := state.queue
      let width :=
        numOfDataSegmentsNeeded segmentSize inputBuffers.flatten.length
      state.unpublished = none →
        isThereEnoughMemory numOfDataSegments queue.writePos queue.readPos
          width = true →
        Ring.TargetsFree numOfDataSegments queue.readPos queue.writePos width
  | _ => True

/-- A pop removes a message and nothing else: what it finds at the read
position announces the segments of the first message, and the segment after
that message is not padding that awaits publication. -/
def Interleaving.PopsCleanly (numOfDataSegments segmentSize : Nat)
    (state : Interleaving) : SpscStep → Prop
  | .pop =>
      let queue := state.queue
      let head := skipToMessage numOfDataSegments queue.bytes queue.readPos
      let width := numOfDataSegmentsNeeded segmentSize (marker head.2 head.1)
      queue.readPos ≠ queue.writePos →
        numOfDataSegmentsNeeded segmentSize
            (marker queue.bytes queue.readPos) = width ∧
          ¬(head.1 + width = queue.writePos ∧
            marker head.2 queue.writePos = skipBuffMgmtMagic)
  | _ => True

instance (step : SpscStep) : Decidable step.CarriesMessage := by
  cases step <;> unfold SpscStep.CarriesMessage <;> infer_instance

instance (numOfDataSegments segmentSize : Nat) (state : Interleaving)
    (step : SpscStep) :
    Decidable (state.TargetsFree numOfDataSegments segmentSize step) := by
  cases step <;> unfold Interleaving.TargetsFree <;> infer_instance

instance (numOfDataSegments segmentSize : Nat) (state : Interleaving)
    (step : SpscStep) :
    Decidable (state.PopsCleanly numOfDataSegments segmentSize step) := by
  cases step <;> unfold Interleaving.PopsCleanly <;> infer_instance

/-- What the pending push adds to the ring once it is published. -/
inductive Pending (g : Geometry) (queue : SharedRingQueue)
    (waiting : List (List UInt8)) :
    Option Nat → Option (List UInt8) → Prop where
  | quiet (free : Free g queue.bytes queue.readPos queue.writePos) :
      Pending g queue waiting none none
  | halfway {next : Nat} {payload : List UInt8}
      (body : Body g queue.bytes queue.readPos next (waiting ++ [payload]))
      (free : Free g queue.bytes queue.readPos next) :
      Pending g queue waiting (some next) (some payload)

/-- The state of the ring, seen by the consumer and by the producer. -/
structure Views (g : Geometry) (memorySize : Int) (queue : SharedRingQueue)
    (unpublished : Option Nat) (waiting : List (List UInt8))
    (pending : Option (List UInt8)) : Prop where
  header : Matches g memorySize queue
  body : Body g queue.bytes queue.readPos queue.writePos waiting
  pending : Pending g queue waiting unpublished pending

section Views

variable {g : Geometry} {memorySize : Int} {queue : SharedRingQueue}
variable {unpublished : Option Nat} {waiting : List (List UInt8)}
variable {pending : Option (List UInt8)} {buffers : List (List UInt8)}

theorem TargetsFree.notBehind {count readPos writePos width : Nat}
    (free : TargetsFree count readPos writePos width)
    (readInside : readPos < count) (writeInside : writePos < count)
    (behind : writePos < readPos) : writePos + width < count := by
  by_contra reaches
  have last := free (count - 1) (by omega) (by
    unfold Written
    split <;> omega)
  rw [Unoccupied, if_neg (Nat.not_le_of_lt behind)] at last
  omega

/-- The first half of a push: the published view keeps its messages, and the
view of the producer gains one. -/
theorem Views.begin (views : Views g memorySize queue none waiting none)
    (size : IsMessage buffers.flatten)
    (free : isThereEnoughMemory g.count queue.writePos queue.readPos
        (g.needed buffers.flatten.length) = true →
      TargetsFree g.count queue.readPos queue.writePos
        (g.needed buffers.flatten.length)) :
    let pushed := push (g.limits memorySize) queue buffers
    if pushed.1 = 0 then
      Views g memorySize { pushed.2 with writePos := queue.writePos }
        (some pushed.2.writePos) waiting (some buffers.flatten)
    else
      pushed.2 = queue := by
  have readInside := views.body.readPos_lt
  have writeInside := views.body.writePos_lt
  have bound := size.2
  simp only [maxWriteSize] at bound
  rw [views.header.push_eq readInside writeInside, if_pos size.2]
  by_cases admitted : isThereEnoughMemory g.count queue.writePos
      queue.readPos (g.needed buffers.flatten.length) = true
  · rw [if_pos admitted]
    have room : Room g.count queue.readPos queue.writePos
        (g.needed buffers.flatten.length) :=
      isThereEnoughMemory_room admitted (g.needed_le (by omega)) g.bounded
        readInside writeInside
        ((free admitted).notBehind readInside writeInside)
    cases views.pending with
    | quiet markers =>
        exact
          { header := ⟨views.header.count, views.header.memory⟩
            body := views.body.kept size room
            pending := .halfway (views.body.push size room)
              (markers.push size readInside writeInside room) }
  · rw [if_neg admitted]
    rfl

theorem Views.publish {next : Nat}
    (views : Views g memorySize queue (some next) waiting pending) :
    ∃ payload, pending = some payload ∧
      Views g memorySize { queue with writePos := next } none
        (waiting ++ [payload]) none := by
  cases views.pending with
  | @halfway _ payload body free =>
      exact ⟨payload, rfl,
        { header := ⟨views.header.count, views.header.memory⟩
          body := body
          pending := .quiet free }⟩

theorem Views.consume_nil (views : Views g memorySize queue unpublished []
      pending) :
    peek (g.limits memorySize) queue = (-1, none, queue) ∧
      pop (g.limits memorySize) queue = (-1, queue) := by
  have inside := views.body.readPos_lt
  have empty := views.body.eq_nil_iff.mp rfl
  exact ⟨views.header.peek_empty inside empty,
    views.header.pop_empty inside empty⟩

variable {payload : List UInt8} {rest : List (List UInt8)}

variable (views : Views g memorySize queue unpublished (payload :: rest)
  pending)

include views

theorem Views.skip :
    Views g memorySize
      { queue with
        bytes := (skipToMessage g.count queue.bytes queue.readPos).2
        readPos := (skipToMessage g.count queue.bytes queue.readPos).1 }
      unpublished (payload :: rest) pending := by
  refine ⟨⟨views.header.count, views.header.memory⟩, views.body.skip.1, ?_⟩
  cases views.pending with
  | quiet free => exact .quiet (free.skip views.body)
  | halfway body free => exact .halfway body.skip.1 (free.skip body)

theorem Views.peek :
    let peeked := Ring.peek (g.limits memorySize) queue
    peeked.1 = 0 ∧
      peeked.2.1.map (payloadAt peeked.2.2) = some payload ∧
      Views g memorySize peeked.2.2 unpublished (payload :: rest)
        pending := by
  obtain ⟨_, stop, later, laid⟩ := views.body.skip
  rw [views.header.peek_eq views.body]
  refine ⟨rfl, ?_, views.skip⟩
  simp only [Option.map_some, payloadAt]
  rw [laid.read_eq]

/-- Releasing the first message is the same step in both views, unless the
look-ahead meets padding that is not yet published. -/
theorem Views.release
    (head : marker queue.bytes queue.readPos ≠ skipBuffMgmtMagic)
    (lookahead : rest = [] → queue.readPos ≤ queue.writePos →
      marker queue.bytes queue.writePos ≠ skipBuffMgmtMagic) :
    Views g memorySize
      { queue with
        bytes := (releaseMessage g.count (g.needed payload.length)
          queue.bytes queue.readPos).2
        readPos := (releaseMessage g.count (g.needed payload.length)
          queue.bytes queue.readPos).1 }
      unpublished rest pending := by
  refine ⟨⟨views.header.count, views.header.memory⟩,
    views.body.release head lookahead, ?_⟩
  cases views.pending with
  | quiet free => exact .quiet (free.release views.body head lookahead)
  | @halfway next message body free =>
      have ahead : rest ++ [message] = [] → queue.readPos ≤ next →
          marker queue.bytes next ≠ skipBuffMgmtMagic := by
        intro none
        simp at none
      exact .halfway (body.release head ahead) (free.release body head ahead)

omit views

theorem Body.end_of_single
    (body : Body g queue.bytes queue.readPos queue.writePos [payload])
    (straight : queue.readPos ≤ queue.writePos) :
    queue.readPos + g.needed payload.length = queue.writePos := by
  generalize whole : [payload] = messages at body
  cases body with
  | straight _ laid =>
      subst whole
      exact laid.later.eq_nil_iff.mp rfl
  | wrapped behind => omega

include views in
theorem Views.pop
    (clean :
      let head := skipToMessage g.count queue.bytes queue.readPos
      let width := g.needed (marker head.2 head.1)
      g.needed (marker queue.bytes queue.readPos) = width ∧
        ¬(head.1 + width = queue.writePos ∧
          marker head.2 queue.writePos = skipBuffMgmtMagic)) :
    let popped := Ring.pop (g.limits memorySize) queue
    popped.1 = 0 ∧
      Views g memorySize popped.2 unpublished rest pending := by
  have readInside := views.body.readPos_lt
  have nonempty : queue.readPos ≠ queue.writePos := by
    intro meet
    cases views.body.eq_nil_iff.mpr meet
  obtain ⟨_, stop, later, laid⟩ := views.body.skip
  have skipped := views.skip
  dsimp only at clean
  rw [laid.marker_eq] at clean
  have released := skipped.release laid.marker_ne_skip (by
    intro alone straight padding
    subst alone
    have ends := skipped.body.end_of_single straight
    exact clean.2 ⟨ends, padding⟩)
  rw [views.header.pop_eq readInside views.body.writePos_lt nonempty,
    clean.1]
  refine ⟨rfl, ?_⟩
  have same : releaseMessage g.count (g.needed payload.length) queue.bytes
      queue.readPos =
        releaseMessage g.count (g.needed payload.length)
          (skipToMessage g.count queue.bytes queue.readPos).2
          (skipToMessage g.count queue.bytes queue.readPos).1 := by
    rcases views.body.head_cases with ⟨_, _, here⟩ |
      ⟨behind, ahead, overflow, padding⟩
    · rw [skipToMessage_of_ne readInside here.marker_ne_skip]
    · rw [skipToMessage_of_padding readInside padding]
      refine releaseMessage_of_gt overflow ?_
      have ordered := ahead.later.le
      have writeInside := views.body.writePos_lt
      omega
  rw [same]
  exact released

end Views

/-- The invariant of a run: what has been popped, what waits before the
published write position, and the push in progress, in order. -/
structure Interleaving.Keeps (g : Geometry) (memorySize : Int)
    (state : Interleaving) (ledger : Ledger)
    (past waiting : List (List UInt8)) (pending : Option (List UInt8)) :
    Prop where
  producer : state.producer.Registered state.queue.sharedLocationName
    (g.limits memorySize)
  consumer : state.consumer.Registered state.queue.sharedLocationName
    (g.limits memorySize)
  views : Views g memorySize state.queue state.unpublished waiting pending
  begun : ledger.begun = past ++ waiting ++ pending.toList
  published : ledger.published = (past ++ waiting).length
  popped : ledger.popped = past.length

/-- A run keeps its invariant for some split of the messages. -/
def Interleaving.Delivers (g : Geometry) (memorySize : Int)
    (state : Interleaving) (ledger : Ledger) : Prop :=
  ∃ past waiting pending,
    state.Keeps g memorySize ledger past waiting pending

section Interleaved

variable {g : Geometry} {memorySize : Int} {state : Interleaving}
variable {ledger : Ledger}

theorem Interleaving.Keeps.next {past waiting : List (List UInt8)}
    {pending : Option (List UInt8)}
    (keeps : state.Keeps g memorySize ledger past waiting pending) :
    ledger.next = waiting.head? := by
  rw [Ledger.next, keeps.begun, keeps.published, keeps.popped,
    List.take_left, List.getElem?_append_right (Nat.le_refl _), Nat.sub_self,
    List.head?_eq_getElem?]

theorem Interleaving.Keeps.begin {past waiting : List (List UInt8)}
    (keeps : state.Keeps g memorySize ledger past waiting none)
    (ready : state.unpublished = none) {buffers : List (List UInt8)}
    (size : IsMessage buffers.flatten)
    (free : state.TargetsFree g.count g.segmentSize (.beginPush buffers)) :
    let stepped := state.step (.beginPush buffers)
    stepped.2.Delivers g memorySize
      (ledger.record (.beginPush buffers) stepped.1) := by
  obtain ⟨answer, registered⟩ := Party.serve_eq keeps.producer
    (.pushBuffersToQueue buffers)
  have name := serve_sharedLocationName (g.limits memorySize) state.queue
    (.pushBuffersToQueue buffers)
  rw [name] at registered
  have views := keeps.views
  rw [ready] at views
  have pushed := views.begin size (free ready)
  have begun := keeps.begun
  simp only [serve] at name
  simp only [Interleaving.step, ready, answer, serve]
  by_cases accepted :
      (push (g.limits memorySize) state.queue buffers).1 = 0
  · simp only [if_pos accepted] at pushed ⊢
    exact ⟨past, waiting, some buffers.flatten,
      { producer := name ▸ registered
        consumer := name ▸ keeps.consumer
        views := pushed
        begun := by simp [Ledger.record, begun]
        published := keeps.published
        popped := keeps.popped }⟩
  · simp only [if_neg accepted] at pushed ⊢
    simp only [Ledger.record, if_neg accepted]
    exact ⟨past, waiting, none, { keeps with producer := registered, views }⟩

theorem Interleaving.Keeps.publish {past waiting : List (List UInt8)}
    {pending : Option (List UInt8)} {next : Nat}
    (keeps : state.Keeps g memorySize ledger past waiting pending)
    (halfway : state.unpublished = some next) :
    let stepped := state.step .publish
    stepped.2.Delivers g memorySize (ledger.record .publish stepped.1) := by
  have views := keeps.views
  rw [halfway] at views
  obtain ⟨payload, rfl, published⟩ := views.publish
  have count := keeps.published
  simp only [Interleaving.step, halfway]
  exact ⟨past, waiting ++ [payload], none,
    { producer := keeps.producer
      consumer := keeps.consumer
      views := published
      begun := by simp [Ledger.record, keeps.begun]
      published := by
        simp only [Ledger.record, List.length_append] at count ⊢
        simp only [List.length_singleton]
        omega
      popped := keeps.popped }⟩

theorem Interleaving.Keeps.peek {past waiting : List (List UInt8)}
    {pending : Option (List UInt8)}
    (keeps : state.Keeps g memorySize ledger past waiting pending) :
    let stepped := state.step .peek
    stepped.1 = .peeked (if waiting = [] then -1 else 0) waiting.head? ∧
      stepped.2.Keeps g memorySize ledger past waiting pending := by
  obtain ⟨answer, registered⟩ := Party.serve_eq keeps.consumer .peekToQueue
  have name := serve_sharedLocationName (g.limits memorySize) state.queue
    .peekToQueue
  rw [name] at registered
  simp only [serve] at name
  simp only [Interleaving.step, answer, serve]
  cases waiting with
  | nil =>
      have found := keeps.views.consume_nil.1
      simp only [found]
      exact ⟨rfl, { keeps with consumer := registered }⟩
  | cons payload rest =>
      obtain ⟨code, output, views⟩ := keeps.views.peek
      simp only [code, output]
      exact ⟨rfl,
        { keeps with
          producer := name ▸ keeps.producer
          consumer := name ▸ registered
          views }⟩

theorem Interleaving.Keeps.pop {past waiting : List (List UInt8)}
    {pending : Option (List UInt8)}
    (keeps : state.Keeps g memorySize ledger past waiting pending)
    (clean : state.PopsCleanly g.count g.segmentSize .pop) :
    let stepped := state.step .pop
    stepped.2.Delivers g memorySize (ledger.record .pop stepped.1) := by
  obtain ⟨answer, registered⟩ := Party.serve_eq keeps.consumer .popFromQueue
  have name := serve_sharedLocationName (g.limits memorySize) state.queue
    .popFromQueue
  rw [name] at registered
  simp only [serve] at name
  simp only [Interleaving.step, answer, serve]
  cases waiting with
  | nil =>
      have found := keeps.views.consume_nil.2
      simp only [found]
      exact ⟨past, [], pending, { keeps with consumer := registered }⟩
  | cons payload rest =>
      have nonempty : state.queue.readPos ≠ state.queue.writePos := by
        intro meet
        cases keeps.views.body.eq_nil_iff.mpr meet
      obtain ⟨code, views⟩ := keeps.views.pop (clean nonempty)
      have count := keeps.popped
      have published := keeps.published
      simp only [code]
      exact ⟨past ++ [payload], rest, pending,
        { producer := name ▸ keeps.producer
          consumer := name ▸ registered
          views
          begun := by simp [Ledger.record, keeps.begun]
          published := by simp [Ledger.record, published]
          popped := by simp [Ledger.record, count] }⟩

theorem Interleaving.Delivers.step
    (delivers : state.Delivers g memorySize ledger) (step : SpscStep)
    (message : step.CarriesMessage)
    (free : state.TargetsFree g.count g.segmentSize step)
    (clean : state.PopsCleanly g.count g.segmentSize step) :
    (state.step step).2.Delivers g memorySize
      (ledger.record step (state.step step).1) := by
  obtain ⟨past, waiting, pending, keeps⟩ := delivers
  cases step with
  | beginPush buffers =>
      cases progress : state.unpublished with
      | none =>
          have quiet : pending = none := by
            have views := keeps.views
            rw [progress] at views
            cases views.pending
            rfl
          subst quiet
          exact keeps.begin progress message free
      | some next =>
          simp only [Interleaving.step, progress]
          exact ⟨past, waiting, pending, keeps⟩
  | publish =>
      cases progress : state.unpublished with
      | none =>
          simp only [Interleaving.step, progress]
          exact ⟨past, waiting, pending, keeps⟩
      | some next => exact keeps.publish progress
  | peek => exact ⟨past, waiting, pending, keeps.peek.2⟩
  | pop => exact keeps.pop clean

end Interleaved

/-- Two processes and the ring that its owner has just initialized. -/
def Interleaving.start (producer consumer : Party) (queue : SharedRingQueue)
    (name : CString) (numOfDataSegments sizeOfMemory : Nat) (fd : Int) :
    Interleaving :=
  { producer
    consumer
    queue := initializeQueue queue name numOfDataSegments sizeOfMemory fd
    unpublished := none }

/-- Whatever the interleaving of the two processes, a peek shows exactly the
published message that is next in order, and the positions meet exactly when
every published message has been popped. -/
theorem interleaved_delivery (g : Geometry) (sizeOfMemory : Nat)
    (producer consumer : Party) (queue : SharedRingQueue) (name : CString)
    (fd : Int) (several : 2 ≤ g.count)
    (producerReady : producer.Registered (snprintfName name)
      (g.limits sizeOfMemory))
    (consumerReady : consumer.Registered (snprintfName name)
      (g.limits sizeOfMemory))
    (steps : List SpscStep) (messages : ∀ step ∈ steps, step.CarriesMessage)
    (free : Trace.Along Interleaving.step
      (Interleaving.TargetsFree g.count g.segmentSize)
      (.start producer consumer queue name g.count sizeOfMemory fd) steps)
    (clean : Trace.Along Interleaving.step
      (Interleaving.PopsCleanly g.count g.segmentSize)
      (.start producer consumer queue name g.count sizeOfMemory fd) steps) :
    let run := Trace.run Interleaving.step
      (.start producer consumer queue name g.count sizeOfMemory fd) steps
    let ledger := Trace.history Ledger.record .empty steps run.1
    (run.2.step .peek).1 =
        .peeked (if ledger.next = none then -1 else 0) ledger.next ∧
      (run.2.queue.readPos = run.2.queue.writePos ↔
        ledger.popped = ledger.published) ∧
      (run.2.unpublished = none → ledger.published = ledger.begun.length) := by
  have initially : Interleaving.Delivers g sizeOfMemory
      (.start producer consumer queue name g.count sizeOfMemory fd)
      .empty := by
    have holds := initializeQueue_holds g queue name sizeOfMemory fd
      (by omega)
    exact ⟨[], [], none,
      { producer := producerReady
        consumer := consumerReady
        views := ⟨holds.header, holds.body, .quiet holds.free⟩
        begun := rfl
        published := rfl
        popped := rfl }⟩
  obtain ⟨past, waiting, pending, keeps⟩ := Trace.run_history
    _ Ledger.record (Interleaving.Delivers g sizeOfMemory)
    (fun _ _ step delivers guard =>
      delivers.step step guard.1 guard.2.1 guard.2.2)
    initially ((free.and clean).and_of_mem messages)
  refine ⟨?_, ?_, ?_⟩
  · rw [keeps.peek.1, keeps.next]
    simp only [List.head?_eq_none_iff]
  · rw [← keeps.views.body.eq_nil_iff, keeps.popped, keeps.published,
      List.length_append]
    constructor
    · rintro rfl
      rfl
    · intro meet
      exact List.eq_nil_of_length_eq_zero (by omega)
  · intro quiet
    have views := keeps.views
    rw [quiet] at views
    cases views.pending
    rw [keeps.published, keeps.begun]
    simp

theorem interleaved_delivery_between_generations :
    let owner := ShmemIpc.createSharedRingQueue dualDockerHost (.succeed 3)
      (.start fun _ => none) .empty ['q'] 2 true
    let attacher := ShmemIpc2.createSharedRingQueue dualDockerHost
      (.succeed 4) (.start fun _ => none) owner.shm ['q'] 2 false true
      ShmemIpc2.createSharedRingGlobalData
    let steps : List SpscStep :=
      [.beginPush [[7]], .peek, .publish, .peek, .pop]
    let run := Trace.run Interleaving.step
      (.start (.shmemIpc dualDockerHost owner.process)
        (.shmemIpc2 dualDockerHost attacher.globalData attacher.process)
        emptyShmObject.queue ['q'] 2 3154 3) steps
    let ledger := Trace.history Ledger.record .empty steps run.1
    (run.2.step .peek).1 =
        .peeked (if ledger.next = none then -1 else 0) ledger.next ∧
      (run.2.queue.readPos = run.2.queue.writePos ↔
        ledger.popped = ledger.published) ∧
      (run.2.unpublished = none → ledger.published = ledger.begun.length) :=
  interleaved_delivery
    { count := 2
      segmentSize := 1024
      large := by decide
      fits := by decide
      bounded := by decide }
    3154 _ _ _ ['q'] 3 (by decide)
    (by exact ⟨⟨_, rfl, by decide +kernel, by decide +kernel⟩,
      by decide +kernel, by decide +kernel, by decide +kernel,
      by decide +kernel⟩)
    (by exact ⟨by decide +kernel, by decide +kernel, by decide +kernel,
      rfl⟩)
    _ (by decide +kernel) (by decide +kernel) (by decide +kernel)

/-- The look-ahead of a pop follows the padding of a push that is not yet
published, so that a peek succeeds with no published message left. -/
theorem interleaved_delivery_runs_ahead :
    let owner := ShmemIpc.createSharedRingQueue dualDockerHost (.succeed 3)
      (.start fun _ => none) .empty ['q'] 5 true
    let attacher := ShmemIpc.createSharedRingQueue dualDockerHost (.succeed 4)
      (.start fun _ => none) owner.shm ['q'] 5 false
    let start := Interleaving.start (.shmemIpc dualDockerHost owner.process)
      (.shmemIpc dualDockerHost attacher.process) emptyShmObject.queue ['q']
      5 6226 3
    let steps : List SpscStep :=
      [.beginPush [List.replicate 2049 0], .publish, .beginPush [[1]],
        .publish, .peek, .pop, .beginPush [List.replicate 1025 0], .peek,
        .pop]
    let run := Trace.run Interleaving.step start steps
    let ledger := Trace.history Ledger.record .empty steps run.1
    (∀ step ∈ steps, step.CarriesMessage) ∧
      Trace.Along Interleaving.step (Interleaving.TargetsFree 5 1024) start
        steps ∧
      ledger.next = none ∧ (run.2.step .peek).1.succeeds = true :=
  ⟨by decide +kernel, by decide +kernel, by decide +kernel,
    by decide +kernel⟩

end OpenAppsec.Ring
