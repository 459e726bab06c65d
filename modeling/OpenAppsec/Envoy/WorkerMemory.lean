import OpenAppsec.Envoy.WorkerIsolation

/-!
# The strings of a worker's metadata

A request leaves copies of six strings in the metadata that the streams of a
worker share, and the destruction of any stream releases what is there.  A
request that comes before another one's copies are released takes their place,
and nobody releases them any more; a destruction before the first request
releases what memory held by chance.
-/

namespace OpenAppsec.Envoy

open BlockLedger

variable {lost : List Nat}

/-- What happens to the strings of the metadata. -/
inductive StringEvent where
  | copied
  | released
  deriving DecidableEq

/-- A callback copies the strings of its request. -/
def Filter.copies (filter : Filter) : Callback → Bool
  | .decodeHeaders streamInfo header _ _ =>
      !filter.finalized && (streamInfo.metaData header .zeroed).isSome
  | _ => false

def stringEvent (worker : Worker) (input : Nat × StreamCall) :
    Option StringEvent :=
  match input.2, worker.filters input.1 with
  | .callback callback, some filter =>
      if filter.copies callback then some .copied else none
  | .onDestroy, some _ => some .released
  | _, _ => none

/-- The events of some calls, in order. -/
def stringEvents : Worker → List (Nat × StreamCall) → List StringEvent
  | _, [] => []
  | worker, input :: inputs =>
      (stringEvent worker input).toList ++
        stringEvents (worker.step input).2 inputs

/-- How many copies no release follows before the next copy. -/
def unreleased : List StringEvent → Nat
  | [] => 0
  | [.copied] => 1
  | .copied :: .released :: events => unreleased events
  | .copied :: .copied :: events => 1 + unreleased (.copied :: events)
  | .released :: events => unreleased events

/-- The fields of the metadata that are released. -/
def strings (metaData : HttpMetaData CopiedStr) : List (Field CopiedStr) :=
  [metaData.httpProtocol, metaData.methodName, metaData.host,
    metaData.listeningIp, metaData.uri, metaData.clientIp]

def Field.blocks : Field CopiedStr → List Nat
  | written text => [text.block]
  | _ => []

/-- What kind of content a field has. -/
def Field.kind {α : Type} (field : Field α) : Field Unit :=
  field.map fun _ => ()

/-- The strings are all of one kind, and the live blocks are theirs and those
that were lost. -/
structure Held (kind : Field Unit) (lost : List Nat) (memory : Memory) :
    Prop where
  uniform : ∀ field ∈ strings memory.structs.httpMetaData, field.kind = kind
  balanced : memory.ledger.Balanced
    ((strings memory.structs.httpMetaData).flatMap Field.blocks ++ lost)

/-- The part of the memory that the strings are in. -/
def Memory.allocations (memory : Memory) :
    HttpMetaData CopiedStr × Ledger × Nat :=
  (memory.structs.httpMetaData, memory.ledger, memory.wildReleases)

theorem Held.of_allocations {kind : Field Unit} {memory other : Memory}
    (held : Held kind lost memory)
    (same : other.allocations = memory.allocations) :
    Held kind lost other := by
  simp only [Memory.allocations, Prod.mk.injEq] at same
  obtain ⟨metaData, ledger, -⟩ := same
  exact
    { uniform := metaData ▸ held.uniform
      balanced := metaData ▸ ledger ▸ held.balanced }

namespace Call

variable (call : Call)

theorem handleStartTransaction_isSome (streamInfo : StreamInfo)
    (header : HeaderMap) (unused : Field String) :
    (call.handleStartTransaction streamInfo header).isSome =
      (streamInfo.metaData header unused).isSome := by
  simp only [handleStartTransaction, StreamInfo.metaData]
  cases (splitColon streamInfo.downstreamLocalAddress)[1]? with
  | none => rfl
  | some listeningPort =>
      cases (splitColon streamInfo.downstreamRemoteAddress)[1]? with
      | none => rfl
      | some clientPort => rfl

/-- A callback that copies nothing leaves the strings alone. -/
theorem callback_allocations {callback : Callback}
    (none : call.filter.copies callback = false) :
    (call.callback callback).2.1.allocations = call.memory.allocations := by
  simp only [Call.callback]
  split
  · rfl
  · rename_i unfinished
    cases callback with
    | decodeHeaders streamInfo header endStream answer =>
        have noStart : call.handleStartTransaction streamInfo header =
            .none := by
          rw [← Option.isNone_iff_eq_none, ← Option.not_isSome,
            call.handleStartTransaction_isSome streamInfo header .zeroed]
          simpa [Filter.copies, unfinished] using none
        simp only [decodeHeaders, noStart]
        rfl
    | decodeData buffer endStream answer lastAnswer =>
        simp only [decodeData]
        split
        · rw [endInspectionPart_memory]
        · split
          · rfl
          · rw [afterSend_memory]
            rfl
    | encodeHeaders header endStream answer lastAnswer =>
        simp only [encodeHeaders]
        rw [afterSend_memory]
        rfl
    | encodeData buffer endStream answer lastAnswer =>
        simp only [encodeData]
        split
        · rw [endInspectionPart_memory]
        · split
          · rfl
          · rw [afterSend_memory]
            rfl

/-- New strings are each in a new block; those before them are lost. -/
theorem handleStartTransaction_held {kind : Field Unit}
    (held : Held kind lost call.memory) {streamInfo : StreamInfo}
    {header : HeaderMap} {started : Call}
    (begins : call.handleStartTransaction streamInfo header = some started) :
    Held (.written ())
        ((strings call.memory.structs.httpMetaData).flatMap Field.blocks ++
          lost) started.memory ∧
      started.memory.wildReleases = call.memory.wildReleases := by
  simp only [handleStartTransaction, Option.bind_eq_bind,
    Option.bind_eq_some_iff, createNanoStr, Option.some.injEq] at begins
  obtain ⟨listeningPort, -, clientPort, -, rfl⟩ := begins
  refine ⟨⟨?_, ?_⟩, rfl⟩
  · intro field member
    simp only [strings, List.mem_cons, List.not_mem_nil, or_false] at member
    rcases member with rfl | rfl | rfl | rfl | rfl | rfl <;> rfl
  · have balanced := held.balanced.alloc.alloc.alloc.alloc.alloc.alloc
    apply balanced.perm
    set owned := (strings call.memory.structs.httpMetaData).flatMap
      Field.blocks ++ lost
    exact List.Perm.append_right owned (List.reverse_perm
      (List.map (call.memory.ledger.fresh + ·) (List.range 6)))

theorem callback_held {kind : Field Unit} (held : Held kind lost call.memory)
    {callback : Callback} (copies : call.filter.copies callback = true) :
    Held (.written ())
        ((strings call.memory.structs.httpMetaData).flatMap Field.blocks ++
          lost) (call.callback callback).2.1 ∧
      (call.callback callback).2.1.wildReleases =
        call.memory.wildReleases := by
  cases callback with
  | decodeHeaders streamInfo header endStream answer =>
      simp only [Filter.copies, Bool.and_eq_true,
        Bool.not_eq_true'] at copies
      obtain ⟨unfinished, starts⟩ := copies
      rw [← call.handleStartTransaction_isSome] at starts
      obtain ⟨started, begins⟩ := Option.isSome_iff_exists.mp starts
      have started_held := call.handleStartTransaction_held held begins
      simp only [Call.callback, unfinished, Bool.false_eq_true, if_false,
        decodeHeaders, begins]
      rw [afterSend_memory]
      exact ⟨started_held.1.of_allocations rfl, started_held.2⟩
  | decodeData => simp [Filter.copies] at copies
  | encodeHeaders => simp [Filter.copies] at copies
  | encodeData => simp [Filter.copies] at copies

end Call

/-- How many of the fields nobody has written. -/
def wild (fields : List (Field CopiedStr)) : Nat :=
  fields.countP (·.kind = .uninitialised)

theorem foldl_freeNanoStr (fields : List (Field CopiedStr))
    (memory : Memory) :
    let freed := fields.foldl Memory.freeNanoStr memory
    freed.structs = memory.structs ∧
      freed.ledger = memory.ledger.releaseAll
        ((fields.flatMap Field.blocks).map .start) ∧
      freed.wildReleases = memory.wildReleases + wild fields := by
  induction fields generalizing memory with
  | nil => exact ⟨rfl, rfl, rfl⟩
  | cons field fields induction =>
      obtain ⟨structs, ledger, wildReleases⟩ :=
        induction (memory.freeNanoStr field)
      rw [List.foldl_cons]
      refine ⟨structs.trans ?_, ledger.trans ?_, wildReleases.trans ?_⟩
      · cases field <;> rfl
      · cases field <;> rfl
      · cases field with
        | uninitialised =>
            simp only [Memory.freeNanoStr, wild, Field.kind, Field.map,
              List.countP_cons, decide_true, if_true]
            omega
        | zeroed => simp [Memory.freeNanoStr, wild, Field.kind, Field.map]
        | written text =>
            simp [Memory.freeNanoStr, wild, Field.kind, Field.map]

theorem Held.onDestroy {kind : Field Unit} {memory : Memory}
    (held : Held kind lost memory) :
    Held .zeroed lost memory.onDestroy ∧
      memory.onDestroy.wildReleases =
        memory.wildReleases + if kind = .uninitialised then 6 else 0 := by
  obtain ⟨structs, ledger, wildReleases⟩ :=
    foldl_freeNanoStr (strings memory.structs.httpMetaData) memory
  refine ⟨⟨?_, ?_⟩, ?_⟩
  · intro field member
    simp only [Memory.onDestroy, RequestStructs.zeroInitialize, strings,
      HttpMetaData.filled, List.mem_cons, List.not_mem_nil, or_false,
      or_self] at member
    rw [member]
    rfl
  · have released := held.balanced.releaseAll
    rw [← ledger] at released
    exact released
  · refine wildReleases.trans ?_
    congr 1
    have uniform := held.uniform
    rw [wild]
    split
    · rename_i uninitialised
      rw [List.countP_eq_length.mpr]
      · rfl
      · intro field member
        exact decide_eq_true ((uniform field member).trans uninitialised)
    · rename_i initialised
      apply List.countP_eq_zero.mpr
      intro field member
      rw [uniform field member]
      exact of_decide_eq_false (decide_eq_false (by simpa using initialised))

/-- What the strings of a kind are, as the last event. -/
def pending : Field Unit → List StringEvent
  | .written _ => [.copied]
  | _ => []

theorem pending_written : pending (.written ()) = [.copied] :=
  rfl

theorem pending_zeroed : pending .zeroed = [] :=
  rfl

theorem blocks_length {kind : Field Unit} {fields : List (Field CopiedStr)}
    (uniform : ∀ field ∈ fields, field.kind = kind) :
    (fields.flatMap Field.blocks).length =
      fields.length * unreleased (pending kind) := by
  induction fields with
  | nil => simp
  | cons field fields induction =>
      obtain ⟨head, tail⟩ := List.forall_mem_cons.mp uniform
      have one : field.blocks.length = unreleased (pending kind) := by
        subst head
        cases field <;> rfl
      rw [List.flatMap_cons, List.length_append, induction tail, one,
        List.length_cons, Nat.succ_mul, Nat.add_comm]

theorem unreleased_copied (kind : Field Unit) (events : List StringEvent) :
    unreleased (pending kind ++ .copied :: events) =
      unreleased (pending kind) + unreleased (.copied :: events) := by
  cases kind <;> simp [pending, unreleased]

theorem unreleased_released (kind : Field Unit)
    (events : List StringEvent) :
    unreleased (pending kind ++ .released :: events) = unreleased events := by
  cases kind <;> simp [pending, unreleased]

/-- The pointers that nobody has written are released by the first event. -/
def wildReleases : Field Unit → List StringEvent → Nat
  | .uninitialised, .released :: _ => 6
  | _, _ => 0

/-- The strings after an event, and those that it loses. -/
def StringEvent.leaves (kind : Field Unit) (old lost : List Nat) :
    Option StringEvent → Field Unit × List Nat
  | some .copied => (.written (), old ++ lost)
  | some .released => (.zeroed, lost)
  | none => (kind, lost)

theorem Worker.step_held {kind : Field Unit} {worker : Worker}
    (held : Held kind lost worker.memory) (input : Nat × StreamCall) :
    let left := StringEvent.leaves kind
      ((strings worker.memory.structs.httpMetaData).flatMap Field.blocks) lost
      (stringEvent worker input)
    Held left.1 left.2 (worker.step input).2.memory ∧
      (worker.step input).2.memory.wildReleases =
        worker.memory.wildReleases +
          wildReleases kind (stringEvent worker input).toList := by
  obtain ⟨session, call⟩ := input
  simp only [stringEvent, Worker.step]
  have quiet : worker.memory.wildReleases =
      worker.memory.wildReleases + wildReleases kind [] := by
    cases kind <;> rfl
  cases found : worker.filters session with
  | none => cases call <;> exact ⟨held, quiet⟩
  | some filter =>
      cases call with
      | create => exact ⟨held, quiet⟩
      | callback callback =>
          cases copies : filter.copies callback with
          | true =>
              have copied := Call.callback_held
                { memory := worker.memory, filter, messages := [] } held
                copies
              simp only [copies, if_true]
              refine ⟨copied.1, copied.2.trans ?_⟩
              cases kind <;> rfl
          | false =>
              have same := Call.callback_allocations
                { memory := worker.memory, filter, messages := [] } copies
              simp only [copies, Bool.false_eq_true, if_false]
              exact ⟨held.of_allocations same,
                (congrArg (·.2.2) same).trans quiet⟩
      | onDestroy =>
          have destroyed := held.onDestroy
          refine ⟨destroyed.1, destroyed.2.trans ?_⟩
          cases kind <;> rfl

theorem run_held {kind : Field Unit} {worker : Worker}
    (held : Held kind lost worker.memory) (steps : List (Nat × StreamCall)) :
    let reached := (Trace.run Worker.step worker steps).2.memory
    let events := stringEvents worker steps
    reached.ledger.live.length =
        lost.length + 6 * unreleased (pending kind ++ events) ∧
      reached.ledger.faults = [] ∧
      reached.wildReleases =
        worker.memory.wildReleases + wildReleases kind events := by
  induction steps generalizing worker kind lost with
  | nil =>
      refine ⟨?_, held.balanced.noFault, by cases kind <;> rfl⟩
      rw [stringEvents, List.append_nil]
      have length := held.balanced.live_perm.length_eq
      rw [List.length_append, blocks_length held.uniform] at length
      exact length.trans (Nat.add_comm _ _)
  | cons input steps induction =>
      obtain ⟨next, wildHere⟩ := worker.step_held held input
      obtain ⟨live, faults, wildLater⟩ := induction next
      have blocks := blocks_length held.uniform
      have six : (strings worker.memory.structs.httpMetaData).length = 6 := rfl
      rw [six] at blocks
      dsimp only at live wildLater ⊢
      rw [Trace.run_cons, stringEvents]
      refine ⟨live.trans ?_, faults, wildLater.trans ?_⟩
      · cases happens : stringEvent worker input with
        | none => rfl
        | some event =>
            cases event with
            | copied =>
                simp only [StringEvent.leaves, List.length_append, blocks,
                  Option.toList_some, List.singleton_append,
                  unreleased_copied, pending_written]
                omega
            | released =>
                simp only [StringEvent.leaves, Option.toList_some,
                  List.singleton_append, unreleased_released, pending_zeroed,
                  List.nil_append]
      · rw [wildHere, Nat.add_assoc]
        congr 1
        cases happens : stringEvent worker input with
        | none =>
            have quiet : wildReleases kind [] = 0 := by cases kind <;> rfl
            exact (congrArg (· + _) quiet).trans (Nat.zero_add _)
        | some event => cases kind <;> cases event <;> rfl

/-- However the calls of a worker's streams interleave: six blocks are left
for each request whose strings another request replaced before a stream was
destroyed, and for the last one if none was destroyed since; a block is never
released twice; and memory that nobody wrote is released just when a stream is
destroyed before the first request. -/
theorem worker_memory (steps : List (Nat × StreamCall)) :
    let reached := (Trace.run Worker.step .start steps).2.memory
    let events := stringEvents .start steps
    reached.ledger.live.length = 6 * unreleased events ∧
      reached.ledger.faults = [] ∧
      reached.wildReleases =
        if events.head? = some .released then 6 else 0 := by
  have held : Held .uninitialised [] Worker.start.memory :=
    { uniform := by
        intro field member
        simp only [strings, Worker.start, Memory.start, initFilterStructs,
          HttpMetaData.filled, List.mem_cons, List.not_mem_nil, or_false,
          or_self] at member
        rw [member]
        rfl
      balanced :=
        { live_perm := List.Perm.nil
          nodup := List.nodup_nil
          old := nofun
          noFault := rfl } }
  obtain ⟨live, faults, wildReleased⟩ := run_held held steps
  refine ⟨?_, faults, ?_⟩
  · simpa [pending] using live
  · refine wildReleased.trans ?_
    cases stringEvents .start steps with
    | nil => rfl
    | cons event events => cases event <;> rfl

end OpenAppsec.Envoy
