import OpenAppsec.Attachment.BodyChunks
import OpenAppsec.Library.Insertions
import Mathlib.Data.List.TakeWhile

/-!
# Injections into response bodies

The service answers a response body with a list of injections, each with a
buffer of the body and a position in it.  The daemon of the traefik plugin, the
envoy filter and the kong plugin apply such a list each in their own way.
-/

namespace OpenAppsec.Nano

open Insertions

variable {body : List UInt8}

/-- `NanoHttpModificationList`: a node of the list.  `modificationBuffer` is
the injected data, which a zero byte follows in memory. -/
structure NanoHttpModification where
  isHeader : Bool
  origBuffIndex : Nat
  injectionPos : Int
  modificationBuffer : List UInt8
  deriving DecidableEq

/-- `C.GoString` and `ffi.string`: the bytes up to the first zero. -/
def goString (buffer : List UInt8) : List UInt8 :=
  buffer.takeWhile (· ≠ 0)

/-- The injections that `applyBodyModifications` keeps, in list order. -/
def collectInjections (body : List UInt8)
    (modifications : List NanoHttpModification) (numChunks : Nat) :
    List (Insertion UInt8) :=
  modifications.filterMap fun mod =>
    if mod.isHeader then none
    else if mod.origBuffIndex ≥ numChunks then none
    else
      let pos : Int := mod.origBuffIndex * bodyChunkSize + mod.injectionPos
      if pos < 0 ∨ pos > body.length then none
      else some { pos := pos.toNat, data := goString mod.modificationBuffer }

/-- The result so far and the end of what has been copied from the body. -/
def applyInjection (body : List UInt8) (state : List UInt8 × Nat)
    (inj : Insertion UInt8) : List UInt8 × Nat :=
  if inj.pos < state.2 then state
  else (state.1 ++ (body.take inj.pos).drop state.2 ++ inj.data, inj.pos)

/-- `applyBodyModifications` of the traefik daemon. -/
def applyBodyModifications (body : List UInt8)
    (modifications : List NanoHttpModification) (numChunks : Nat) :
    List UInt8 :=
  let injections := collectInjections body modifications numChunks
  if injections = [] then body
  else
    let (result, last) := injections.foldl (applyInjection body) ([], 0)
    result ++ body.drop last

/-- `insertAtPosition` of the envoy filter. -/
def insertAtPosition (buff injection : List UInt8) (pos : Int) : List UInt8 :=
  if pos < 0 ∨ pos > buff.length then buff
  else buff.take pos.toNat ++ injection ++ buff.drop pos.toNat

/-- `injectBodyChunk` of the envoy filter. -/
def injectBodyChunk (modifications : List NanoHttpModification)
    (bodyBufferChunk : Nat) (buffer : List UInt8) : List UInt8 :=
  modifications.foldl (fun buffer mod =>
    if mod.origBuffIndex = bodyBufferChunk then
      insertAtPosition buffer (goString mod.modificationBuffer)
        mod.injectionPos
    else buffer) buffer

/-- `nano.inject_at_position` of the kong plugin. -/
def injectAtPosition (buffer injection : List UInt8) (pos : Int) : List UInt8 :=
  if pos < 0 ∨ pos > buffer.length then buffer
  else buffer.take pos.toNat ++ injection ++ buffer.drop pos.toNat

/-- `nano.handle_body_modifications` of the kong plugin. -/
def handleBodyModifications (body : List UInt8)
    (modifications : List NanoHttpModification) (bodyBufferChunk : Nat) :
    List UInt8 :=
  modifications.foldl (fun body mod =>
    if mod.origBuffIndex = bodyBufferChunk then
      injectAtPosition body (goString mod.modificationBuffer) mod.injectionPos
    else body) body

/-- A part of a response body, which is not empty, and the injections that the
service has answered it with. -/
structure BodyCall where
  body : List UInt8
  modifications : List NanoHttpModification
  deriving DecidableEq

/-- What the calls of a filter for one response share; `none` is a field that
is not set yet. -/
structure BodyFilter where
  bodyBufferChunk : Option Nat
  deriving DecidableEq

def FrontEnd.newFilter : FrontEnd → BodyFilter
  | .kong => { bodyBufferChunk := none }
  | .envoy => { bodyBufferChunk := some 0 }
  | .traefik => { bodyBufferChunk := none }

/-- The body that a filter passes on for a part of the response: of
`filter.EncodeData` in envoy, of `NanoHandler.body_filter` in kong and of
`sendBody` in the traefik daemon. -/
def FrontEnd.filterBody (frontEnd : FrontEnd) (filter : BodyFilter)
    (call : BodyCall) : List UInt8 × BodyFilter :=
  let bodyBufferChunk := filter.bodyBufferChunk.getD 0
  let counted := { filter with bodyBufferChunk := some (bodyBufferChunk + 1) }
  match frontEnd with
  | .kong =>
      (handleBodyModifications call.body call.modifications bodyBufferChunk,
        counted)
  | .envoy =>
      (injectBodyChunk call.modifications bodyBufferChunk call.body, counted)
  | .traefik =>
      (applyBodyModifications call.body call.modifications
        (attachmentManagerSendBodyChunks call.body).length, filter)

/-- What a filter passes on for a part of the response that follows others. -/
def FrontEnd.filtered (frontEnd : FrontEnd) (earlier : List BodyCall)
    (call : BodyCall) : List UInt8 :=
  let filter := earlier.foldl
    (fun filter call => (frontEnd.filterBody filter call).2)
    frontEnd.newFilter
  (frontEnd.filterBody filter call).1

/-- The injection is one into the body, at a byte of one of the buffers that
the front end has cut the body into. -/
def NanoHttpModification.Inside (body : List UInt8)
    (mod : NanoHttpModification) : Prop :=
  mod.isHeader = false ∧ 0 ≤ mod.injectionPos ∧
    ∀ frontEnd : FrontEnd, ∃ chunk ∈ (frontEnd.chunks body)[mod.origBuffIndex]?,
      mod.injectionPos < chunk.length

/-- The injection with its position in the body. -/
def NanoHttpModification.insertion (mod : NanoHttpModification) :
    Insertion UInt8 :=
  { pos := mod.origBuffIndex * bodyChunkSize + mod.injectionPos.toNat
    data := mod.modificationBuffer }

/-- The body with each injected string before the byte at its position. -/
def BodyCall.edited (call : BodyCall) : List UInt8 :=
  weave (call.modifications.map NanoHttpModification.insertion) 0 call.body

/-- Another content of the same buffers, positions and sizes, with zero bytes
in the same strings. -/
structure NanoHttpModification.SameShape
    (mod other : NanoHttpModification) : Prop where
  isHeader : other.isHeader = mod.isHeader
  origBuffIndex : other.origBuffIndex = mod.origBuffIndex
  injectionPos : other.injectionPos = mod.injectionPos
  size : other.modificationBuffer.length = mod.modificationBuffer.length
  zeros : 0 ∈ other.modificationBuffer ↔ 0 ∈ mod.modificationBuffer

structure BodyCall.SameShape (call other : BodyCall) : Prop where
  body : other.body.length = call.body.length
  modifications : List.Forall₂ NanoHttpModification.SameShape
    call.modifications other.modifications

/-- No string holds a zero byte.  At most one is not empty; it goes into the
first buffer of the first part of the body, and no injection before it in the
list has a later position. -/
structure BodyCall.InjectsOnce (earlier : List BodyCall) (call : BodyCall) :
    Prop where
  terminated : ∀ mod ∈ call.modifications, 0 ∉ mod.modificationBuffer
  first : ∀ mod ∈ call.modifications, mod.modificationBuffer ≠ [] →
    earlier = [] ∧ mod.origBuffIndex = 0
  single : call.modifications.Pairwise fun first second =>
    second.modificationBuffer ≠ [] →
      first.modificationBuffer = [] ∧
        first.insertion.pos ≤ second.insertion.pos

theorem NanoHttpModification.Inside.buffer {mod : NanoHttpModification}
    (inside : mod.Inside body) :
    mod.origBuffIndex < (attachmentManagerSendBodyChunks body).length ∧
      mod.origBuffIndex * bodyChunkSize + mod.injectionPos.toNat <
        body.length := by
  obtain ⟨_, nonneg, buffers⟩ := inside
  obtain ⟨chunk, found, within⟩ := buffers .traefik
  obtain ⟨index, rfl⟩ := List.getElem?_eq_some_iff.mp found
  refine ⟨index, ?_⟩
  simp only [FrontEnd.chunks, attachmentManagerSendBodyChunks,
    List.getElem_map, List.getElem_range, List.length_take,
    List.length_drop] at within
  split at within <;> omega

theorem NanoHttpModification.Inside.pos_lt {mod : NanoHttpModification}
    (inside : mod.Inside body) :
    mod.insertion.pos < body.length :=
  inside.buffer.2

/-- The injection as the front ends read its string. -/
def NanoHttpModification.read (mod : NanoHttpModification) : Insertion UInt8 :=
  { mod.insertion with data := goString mod.modificationBuffer }

theorem goString_length_le (buffer : List UInt8) :
    (goString buffer).length ≤ buffer.length :=
  (List.takeWhile_prefix _).length_le

theorem goString_eq_iff {buffer : List UInt8} :
    goString buffer = buffer ↔ 0 ∉ buffer := by
  rw [goString, List.takeWhile_eq_self_iff]
  constructor
  · intro whole zero
    simpa using whole 0 zero
  · intro terminated byte member
    apply decide_eq_true
    rintro rfl
    exact terminated member

theorem goString_eq_of_length {buffer : List UInt8}
    (whole : (goString buffer).length = buffer.length) :
    goString buffer = buffer :=
  (List.takeWhile_prefix _).eq_of_length whole

@[simp] theorem goString_nil : goString [] = [] :=
  rfl

variable {modifications : List NanoHttpModification}

theorem map_read_of_terminated
    (terminated : ∀ mod ∈ modifications, 0 ∉ mod.modificationBuffer) :
    modifications.map NanoHttpModification.read =
      modifications.map NanoHttpModification.insertion := by
  apply List.map_congr_left
  intro mod member
  rw [NanoHttpModification.read, goString_eq_iff.mpr (terminated mod member)]
  rfl

theorem foldl_applyInjection (body : List UInt8) (state : List UInt8 × Nat)
    (injections : List (Insertion UInt8)) :
    (injections.foldl (applyInjection body) state).1 ++
        body.drop (injections.foldl (applyInjection body) state).2 =
      state.1 ++ splice body state.2 injections := by
  induction injections generalizing state with
  | nil => rfl
  | cons inj injections induction =>
      rw [List.foldl_cons, induction, applyInjection, splice]
      split
      · rfl
      · simp

theorem collectInjections_of_inside
    (inside : ∀ mod ∈ modifications, mod.Inside body) :
    collectInjections body modifications
        (attachmentManagerSendBodyChunks body).length =
      modifications.map NanoHttpModification.read := by
  rw [collectInjections, ← List.filterMap_eq_map]
  apply List.filterMap_congr
  intro mod member
  have isBody := (inside mod member).1
  have nonneg := (inside mod member).2.1
  obtain ⟨index, reached⟩ := (inside mod member).buffer
  have known : ¬mod.origBuffIndex ≥
      (attachmentManagerSendBodyChunks body).length := Nat.not_le.mpr index
  have within : ¬((mod.origBuffIndex * bodyChunkSize + mod.injectionPos : Int) <
      0 ∨ (mod.origBuffIndex * bodyChunkSize + mod.injectionPos : Int) >
        body.length) := by
    omega
  have pos : (mod.origBuffIndex * bodyChunkSize + mod.injectionPos : Int).toNat =
      mod.origBuffIndex * bodyChunkSize + mod.injectionPos.toNat := by
    omega
  simp only [isBody, Bool.false_eq_true, if_false, if_neg known,
    if_neg within, pos]
  rfl

theorem applyBodyModifications_eq
    (inside : ∀ mod ∈ modifications, mod.Inside body) :
    applyBodyModifications body modifications
        (attachmentManagerSendBodyChunks body).length =
      splice body 0 (modifications.map NanoHttpModification.read) := by
  have passed := foldl_applyInjection body ([], 0)
    (modifications.map NanoHttpModification.read)
  rw [applyBodyModifications, collectInjections_of_inside inside]
  dsimp only
  split
  · rename_i nothing
    rw [nothing]
    rfl
  · simpa using passed

theorem handleBodyModifications_eq (body : List UInt8)
    (modifications : List NanoHttpModification) (bodyBufferChunk : Nat) :
    handleBodyModifications body modifications bodyBufferChunk =
      injectBodyChunk modifications bodyBufferChunk body :=
  rfl

theorem length_insertAtPosition {buff injection : List UInt8} {pos : Int}
    (nonneg : 0 ≤ pos) (within : pos.toNat ≤ buff.length) :
    (insertAtPosition buff injection pos).length =
      buff.length + injection.length := by
  have valid : ¬(pos < 0 ∨ pos > buff.length) := by omega
  rw [insertAtPosition, if_neg valid]
  simp only [List.length_append, List.length_take, List.length_drop]
  omega

@[simp] theorem insertAtPosition_nil (buff : List UInt8) (pos : Int) :
    insertAtPosition buff [] pos = buff := by
  rw [insertAtPosition]
  split <;> simp

theorem injectBodyChunk_cons (mod : NanoHttpModification)
    (modifications : List NanoHttpModification) (bodyBufferChunk : Nat)
    (buffer : List UInt8) :
    injectBodyChunk (mod :: modifications) bodyBufferChunk buffer =
      injectBodyChunk modifications bodyBufferChunk
        (if mod.origBuffIndex = bodyBufferChunk then
          insertAtPosition buffer (goString mod.modificationBuffer)
            mod.injectionPos
        else buffer) :=
  rfl

/-- Only the injections of the named buffer are applied. -/
theorem length_injectBodyChunk {bodyBufferChunk : Nat} {buffer : List UInt8}
    (inside : ∀ mod ∈ modifications, 0 ≤ mod.injectionPos ∧
      mod.injectionPos.toNat ≤ buffer.length) :
    (injectBodyChunk modifications bodyBufferChunk buffer).length =
      buffer.length + (modifications.map fun mod =>
        if mod.origBuffIndex = bodyBufferChunk then
          (goString mod.modificationBuffer).length
        else 0).sum := by
  induction modifications generalizing buffer with
  | nil => rfl
  | cons mod modifications induction =>
      obtain ⟨nonneg, within⟩ := inside mod List.mem_cons_self
      have insideRest : ∀ other ∈ modifications, 0 ≤ other.injectionPos ∧
          other.injectionPos.toNat ≤ buffer.length :=
        fun other member => inside other (List.mem_cons_of_mem _ member)
      have skipped := induction insideRest
      have inserted : (insertAtPosition buffer
          (goString mod.modificationBuffer) mod.injectionPos).length =
            buffer.length + (goString mod.modificationBuffer).length :=
        length_insertAtPosition nonneg within
      have applied : (injectBodyChunk modifications bodyBufferChunk
          (insertAtPosition buffer (goString mod.modificationBuffer)
            mod.injectionPos)).length = _ :=
        induction fun other member => by
          obtain ⟨nonneg, within⟩ := insideRest other member
          exact ⟨nonneg, by omega⟩
      rw [injectBodyChunk_cons, List.map_cons, List.sum_cons]
      split
      · rw [applied, inserted]
        omega
      · rw [skipped]
        omega

theorem injectBodyChunk_of_empty
    (nothing : ∀ mod ∈ modifications, mod.modificationBuffer = [])
    (bodyBufferChunk : Nat) (buffer : List UInt8) :
    injectBodyChunk modifications bodyBufferChunk buffer = buffer := by
  induction modifications with
  | nil => rfl
  | cons mod modifications induction =>
      have rest := induction fun other member =>
        nothing other (List.mem_cons_of_mem _ member)
      have here := nothing mod List.mem_cons_self
      simpa [injectBodyChunk_cons, here] using rest

/-- A filter counts the parts of the body that it has seen. -/
theorem FrontEnd.filtered_eq (frontEnd : FrontEnd) (earlier : List BodyCall)
    (call : BodyCall) :
    frontEnd.filtered earlier call =
      match frontEnd with
      | .kong | .envoy =>
          injectBodyChunk call.modifications earlier.length call.body
      | .traefik =>
          applyBodyModifications call.body call.modifications
            (attachmentManagerSendBodyChunks call.body).length := by
  have counts (counter : FrontEnd) (counting : counter ≠ .traefik)
      (filter : BodyFilter) :
      ((earlier.foldl
          (fun filter call => (counter.filterBody filter call).2)
          filter).bodyBufferChunk.getD 0) =
        filter.bodyBufferChunk.getD 0 + earlier.length := by
    induction earlier generalizing filter with
    | nil => rfl
    | cons call earlier induction =>
        rw [List.foldl_cons, induction]
        cases counter with
        | traefik => exact (counting rfl).elim
        | kong =>
            simp [FrontEnd.filterBody]
            omega
        | envoy =>
            simp [FrontEnd.filterBody]
            omega
  cases frontEnd with
  | traefik => rfl
  | kong =>
      have counted := counts .kong nofun (FrontEnd.newFilter .kong)
      rw [FrontEnd.filtered, FrontEnd.filterBody, counted]
      simp [FrontEnd.newFilter, handleBodyModifications_eq]
  | envoy =>
      have counted := counts .envoy nofun (FrontEnd.newFilter .envoy)
      rw [FrontEnd.filtered, FrontEnd.filterBody, counted]
      simp [FrontEnd.newFilter]

/-- The filters insert the only string of a list where it belongs. -/
theorem injectBodyChunk_of_once
    (inside : ∀ mod ∈ modifications, mod.Inside body)
    (terminated : ∀ mod ∈ modifications, 0 ∉ mod.modificationBuffer)
    (first : ∀ mod ∈ modifications, mod.modificationBuffer ≠ [] →
      mod.origBuffIndex = 0)
    (single : modifications.Pairwise fun first second =>
      second.modificationBuffer ≠ [] → first.modificationBuffer = []) :
    injectBodyChunk modifications 0 body =
      weave (modifications.map NanoHttpModification.insertion) 0 body := by
  induction modifications with
  | nil =>
      rw [List.map_nil, weave_of_empty fun _ _ _ => rfl]
      rfl
  | cons mod modifications induction =>
      obtain ⟨before, single⟩ := List.pairwise_cons.mp single
      have rest := induction
        (fun other member => inside other (List.mem_cons_of_mem _ member))
        (fun other member => terminated other (List.mem_cons_of_mem _ member))
        (fun other member => first other (List.mem_cons_of_mem _ member))
        single
      by_cases nothing : mod.modificationBuffer = []
      · have kept : injectBodyChunk (mod :: modifications) 0 body =
            injectBodyChunk modifications 0 body := by
          simp [injectBodyChunk_cons, nothing]
        rw [kept, rest]
        apply weave_congr
        intro index _
        simp [dataAt_cons, NanoHttpModification.insertion, nothing]
      · have others : ∀ other ∈ modifications, other.modificationBuffer = [] := by
          intro other member
          by_contra filled
          exact nothing (before other member filled)
        have named := first mod List.mem_cons_self nothing
        have nonneg := (inside mod List.mem_cons_self).2.1
        have within := (inside mod List.mem_cons_self).pos_lt
        simp only [NanoHttpModification.insertion, named] at within
        have valid : ¬(mod.injectionPos < 0 ∨
            mod.injectionPos > body.length) := by
          omega
        have inserted : injectBodyChunk (mod :: modifications) 0 body =
            insertAtPosition body mod.modificationBuffer mod.injectionPos := by
          have whole :=
            goString_eq_iff.mpr (terminated mod List.mem_cons_self)
          rw [injectBodyChunk_cons, if_pos named, whole,
            injectBodyChunk_of_empty others]
        rw [inserted, insertAtPosition, if_neg valid, List.map_cons,
          weave_single]
        · simp [NanoHttpModification.insertion, named]
        · intro other member
          rw [← List.map_cons] at member
          obtain ⟨source, known, rfl⟩ := List.mem_map.mp member
          exact (inside source known).pos_lt
        · intro other member
          obtain ⟨source, known, rfl⟩ := List.mem_map.mp member
          exact others source known

theorem filtered_of_injectsOnce {earlier : List BodyCall} {call : BodyCall}
    (inside : ∀ mod ∈ call.modifications, mod.Inside call.body)
    (once : call.InjectsOnce earlier) (frontEnd : FrontEnd) :
    frontEnd.filtered earlier call = call.edited := by
  have counted : injectBodyChunk call.modifications earlier.length call.body =
      call.edited := by
    by_cases filled : ∃ mod ∈ call.modifications, mod.modificationBuffer ≠ []
    · obtain ⟨mod, member, filled⟩ := filled
      rw [(once.first mod member filled).1]
      exact injectBodyChunk_of_once inside once.terminated
        (fun mod member filled => (once.first mod member filled).2)
        (once.single.imp fun follows filled => (follows filled).1)
    · have nothing : ∀ mod ∈ call.modifications,
          mod.modificationBuffer = [] := by
        simpa using filled
      rw [injectBodyChunk_of_empty nothing, BodyCall.edited, weave_of_empty]
      intro index _ _
      apply dataAt_eq_nil
      rintro other member _
      obtain ⟨source, known, rfl⟩ := List.mem_map.mp member
      exact nothing source known
  rw [frontEnd.filtered_eq]
  cases frontEnd with
  | kong => exact counted
  | envoy => exact counted
  | traefik =>
      dsimp only
      rw [applyBodyModifications_eq inside,
        map_read_of_terminated once.terminated, splice_eq_weave]
      · rfl
      · apply List.pairwise_map.mpr
        exact once.single.imp fun follows filled => (follows filled).2
      · exact fun _ _ _ => Nat.zero_le _
      · intro other member
        obtain ⟨source, known, rfl⟩ := List.mem_map.mp member
        exact (inside source known).pos_lt

theorem BodyCall.length_edited {call : BodyCall}
    (inside : ∀ mod ∈ call.modifications, mod.Inside call.body) :
    call.edited.length = call.body.length +
      (call.modifications.map fun mod => mod.modificationBuffer.length).sum := by
  rw [edited, length_weave, totalSize, List.map_map]
  · rfl
  · intro insertion member
    obtain ⟨mod, known, rfl⟩ := List.mem_map.mp member
    exact (inside mod known).pos_lt

/-- A daemon that leaves nothing out reads whole strings in order. -/
theorem inOrder_of_whole {call : BodyCall}
    (inside : ∀ mod ∈ call.modifications, mod.Inside call.body)
    (whole : (applyBodyModifications call.body call.modifications
      (attachmentManagerSendBodyChunks call.body).length).length =
        call.edited.length) :
    (∀ mod ∈ call.modifications, 0 ∉ mod.modificationBuffer) ∧
      InOrder (call.modifications.map NanoHttpModification.insertion) := by
  rw [applyBodyModifications_eq inside, call.length_edited inside] at whole
  have within : ∀ insertion ∈
      call.modifications.map NanoHttpModification.read,
        insertion.pos ≤ call.body.length := by
    intro insertion member
    obtain ⟨mod, known, rfl⟩ := List.mem_map.mp member
    exact Nat.le_of_lt (inside mod known).pos_lt
  have bound := length_splice_le call.body 0 _ (Nat.zero_le _) within
  have size : totalSize (call.modifications.map NanoHttpModification.read) =
      (call.modifications.map fun mod =>
        (goString mod.modificationBuffer).length).sum := by
    rw [totalSize, List.map_map]
    rfl
  have read := eq_of_sum_le
    (fun mod (_ : mod ∈ call.modifications) =>
      goString_length_le mod.modificationBuffer) (by omega)
  have terminated : ∀ mod ∈ call.modifications,
      0 ∉ mod.modificationBuffer := fun mod member =>
    goString_eq_iff.mp (goString_eq_of_length (read mod member))
  have sameSize : totalSize (call.modifications.map
      NanoHttpModification.read) = (call.modifications.map fun mod =>
        mod.modificationBuffer.length).sum := by
    rw [map_read_of_terminated terminated, totalSize, List.map_map]
    rfl
  have ordered := (inOrder_of_length_splice (Nat.zero_le _) within
    (by rw [whole, sameSize, Nat.sub_zero])).1
  rw [map_read_of_terminated terminated] at ordered
  exact ⟨terminated, ordered⟩

/-- A filter that leaves nothing out finds every string in the buffer of its
own number. -/
theorem named_of_whole {earlier : List BodyCall} {call : BodyCall}
    (inside : ∀ mod ∈ call.modifications, mod.Inside call.body)
    (whole : (injectBodyChunk call.modifications earlier.length
      call.body).length = call.edited.length) :
    ∀ mod ∈ call.modifications, mod.modificationBuffer ≠ [] →
      mod.origBuffIndex = earlier.length := by
  have within : ∀ mod ∈ call.modifications, 0 ≤ mod.injectionPos ∧
      mod.injectionPos.toNat ≤ call.body.length := by
    intro mod member
    have reached := (inside mod member).buffer.2
    exact ⟨(inside mod member).2.1, by omega⟩
  rw [length_injectBodyChunk within, call.length_edited inside] at whole
  have read := eq_of_sum_le
    (fun mod (_ : mod ∈ call.modifications) => show
        (if mod.origBuffIndex = earlier.length then
          (goString mod.modificationBuffer).length
        else 0) ≤ mod.modificationBuffer.length by
      split
      · exact goString_length_le _
      · exact Nat.zero_le _) (by omega)
  intro mod member filled
  by_contra other
  have none := read mod member
  rw [if_neg other] at none
  exact filled (List.eq_nil_of_length_eq_zero none.symm)

/-- The modification with one byte repeated. -/
def NanoHttpModification.fill (byte : UInt8) (mod : NanoHttpModification) :
    NanoHttpModification :=
  { mod with
    modificationBuffer := List.replicate mod.modificationBuffer.length byte }

theorem NanoHttpModification.fill_sameShape {byte : UInt8}
    {mod : NanoHttpModification} (nonzero : byte ≠ 0)
    (terminated : 0 ∉ mod.modificationBuffer) :
    mod.SameShape (mod.fill byte) where
  isHeader := rfl
  origBuffIndex := rfl
  injectionPos := rfl
  size := List.length_replicate
  zeros := by
    refine iff_of_false ?_ terminated
    intro member
    exact nonzero (List.eq_of_mem_replicate member).symm

theorem FrontEnd.chunks_sizes (frontEnd : FrontEnd) {other : List UInt8}
    (same : other.length = body.length) :
    (frontEnd.chunks other).map List.length =
      (frontEnd.chunks body).map List.length := by
  cases frontEnd with
  | traefik =>
      simp [chunks, attachmentManagerSendBodyChunks, same, Function.comp_def]
  | envoy => simp [chunks, filterSendBodyChunks, same, Function.comp_def]
  | kong =>
      rw [chunks, luaSendBodyChunks, luaSendBodyChunks, same]
      split
      · simp [same]
      · simp [same, Function.comp_def]

variable {filled : NanoHttpModification}

theorem NanoHttpModification.Inside.of_sameShape {other : List UInt8}
    {mod : NanoHttpModification} (inside : mod.Inside body)
    (size : other.length = body.length) (same : mod.SameShape filled) :
    filled.Inside other := by
  obtain ⟨isBody, nonneg, buffers⟩ := inside
  refine ⟨same.isHeader.trans isBody, same.injectionPos ▸ nonneg, ?_⟩
  intro frontEnd
  obtain ⟨chunk, found, within⟩ := buffers frontEnd
  have sizes := congrArg (fun sizes => sizes[mod.origBuffIndex]?)
    (frontEnd.chunks_sizes size)
  have found : (frontEnd.chunks body)[mod.origBuffIndex]? = some chunk := found
  simp only [List.getElem?_map, found, Option.map_some] at sizes
  obtain ⟨cut, known, sized⟩ := Option.map_eq_some_iff.mp sizes
  refine ⟨cut, ?_, ?_⟩
  · rw [same.origBuffIndex]
    exact known
  · rw [same.injectionPos, sized]
    exact within

theorem exists_source {α β : Type*} {related : α → β → Prop}
    {sources : List α} {images : List β}
    (all : List.Forall₂ related sources images) {image : β}
    (member : image ∈ images) : ∃ source ∈ sources, related source image := by
  obtain ⟨index, inside, rfl⟩ := List.getElem_of_mem member
  have bound := all.length_eq ▸ inside
  exact ⟨sources[index], List.getElem_mem _, all.get bound inside⟩

theorem BodyCall.SameShape.inside {call other : BodyCall}
    (same : call.SameShape other)
    (inside : ∀ mod ∈ call.modifications, mod.Inside call.body) :
    ∀ mod ∈ other.modifications, mod.Inside other.body := by
  intro filled member
  obtain ⟨mod, known, shape⟩ := exists_source same.modifications member
  exact (inside mod known).of_sameShape same.body shape

theorem NanoHttpModification.SameShape.nil_iff {mod : NanoHttpModification}
    (same : mod.SameShape filled) :
    filled.modificationBuffer = [] ↔ mod.modificationBuffer = [] := by
  rw [← List.length_eq_zero_iff, same.size, List.length_eq_zero_iff]

theorem NanoHttpModification.SameShape.pos {mod : NanoHttpModification}
    (same : mod.SameShape filled) :
    filled.insertion.pos = mod.insertion.pos := by
  simp [insertion, same.origBuffIndex, same.injectionPos]

theorem BodyCall.SameShape.injectsOnce {earlier : List BodyCall}
    {call other : BodyCall} (same : call.SameShape other)
    (once : call.InjectsOnce earlier) : other.InjectsOnce earlier where
  terminated := by
    intro filled member
    obtain ⟨mod, known, shape⟩ := exists_source same.modifications member
    exact fun zero => once.terminated mod known (shape.zeros.mp zero)
  first := by
    intro filled member holds
    obtain ⟨mod, known, shape⟩ := exists_source same.modifications member
    rw [shape.origBuffIndex]
    exact once.first mod known (holds ∘ shape.nil_iff.mpr)
  single := by
    have single := once.single
    have shapes := same.modifications
    generalize call.modifications = sources at single shapes
    generalize other.modifications = modifications at shapes
    induction shapes with
    | nil => exact List.Pairwise.nil
    | @cons mod filled sources modifications shape shapes induction =>
        obtain ⟨before, single⟩ := List.pairwise_cons.mp single
        refine List.pairwise_cons.mpr ⟨fun later member holds => ?_,
          induction single⟩
        obtain ⟨source, known, shapeLater⟩ := exists_source shapes member
        rw [shape.nil_iff, shape.pos, shapeLater.pos]
        exact before source known (holds ∘ shapeLater.nil_iff.mpr)

theorem injectBodyChunk_ones (modifications : List NanoHttpModification)
    (bodyBufferChunk size : Nat) :
    ∃ grown, size ≤ grown ∧
      injectBodyChunk (modifications.map (NanoHttpModification.fill 1))
          bodyBufferChunk (List.replicate size 1) =
        List.replicate grown 1 := by
  induction modifications generalizing size with
  | nil => exact ⟨size, Nat.le_refl _, rfl⟩
  | cons mod modifications induction =>
      have inserted : ∃ next, size ≤ next ∧
          (if (mod.fill 1).origBuffIndex = bodyBufferChunk then
            insertAtPosition (List.replicate size 1)
              (goString (mod.fill 1).modificationBuffer)
              (mod.fill 1).injectionPos
          else List.replicate size 1) = List.replicate next (1 : UInt8) := by
        have whole : goString (mod.fill 1).modificationBuffer =
            List.replicate mod.modificationBuffer.length 1 := by
          apply goString_eq_iff.mpr
          intro member
          exact nomatch List.eq_of_mem_replicate member
        split
        · rw [whole, insertAtPosition]
          split
          · exact ⟨size, Nat.le_refl _, rfl⟩
          · rename_i valid
            rw [List.length_replicate] at valid
            refine ⟨size + mod.modificationBuffer.length,
              Nat.le_add_right _ _, ?_⟩
            rw [List.take_replicate, List.drop_replicate,
              List.replicate_append_replicate,
              List.replicate_append_replicate]
            congr 1
            omega
        · exact ⟨size, Nat.le_refl _, rfl⟩
      obtain ⟨next, more, inserted⟩ := inserted
      obtain ⟨grown, larger, filled⟩ := induction next
      refine ⟨grown, Nat.le_trans more larger, ?_⟩
      rw [List.map_cons, injectBodyChunk_cons, inserted, filled]

theorem injectBodyChunk_append (first second : List NanoHttpModification)
    (bodyBufferChunk : Nat) (buffer : List UInt8) :
    injectBodyChunk (first ++ second) bodyBufferChunk buffer =
      injectBodyChunk second bodyBufferChunk
        (injectBodyChunk first bodyBufferChunk buffer) :=
  List.foldl_append

theorem ones_injective {left right count : Nat} {first second : List UInt8}
    (filled : count ≠ 0)
    (same : List.replicate left 1 ++ (List.replicate count 3 ++ first) =
      List.replicate right 1 ++ (List.replicate count 3 ++ second)) :
    left = right := by
  obtain ⟨rest, rfl⟩ := Nat.exists_eq_succ_of_ne_zero filled
  have counted := congrArg
    (fun bytes => (bytes.takeWhile fun byte => byte = 1).length) same
  simpa [List.replicate_succ] using counted

theorem exists_last {α : Type*} {property : α → Prop} {items : List α}
    (some : ∃ item ∈ items, property item) :
    ∃ before item after, items = before ++ item :: after ∧ property item ∧
      ∀ other ∈ after, ¬property other := by
  induction items with
  | nil =>
      obtain ⟨_, none, _⟩ := some
      exact nomatch none
  | cons item items induction =>
      by_cases later : ∃ other ∈ items, property other
      · obtain ⟨before, other, after, rfl, holds, nothing⟩ := induction later
        exact ⟨item :: before, other, after, rfl, holds, nothing⟩
      · obtain ⟨found, member, holds⟩ := some
        obtain rfl | member := List.mem_cons.mp member
        · exact ⟨[], found, items, rfl, holds, by simpa using later⟩
        · exact (later ⟨found, member, holds⟩).elim

/-- A call with ones everywhere but in one injection, which has threes. -/
def BodyCall.marked (size : Nat) (before : List NanoHttpModification)
    (mod : NanoHttpModification) (after : List NanoHttpModification) :
    BodyCall :=
  { body := List.replicate size 1
    modifications := before.map (NanoHttpModification.fill 1) ++
      mod.fill 3 :: after.map (NanoHttpModification.fill 1) }

section Marked

variable {call : BodyCall} {before after : List NanoHttpModification}
  {mod : NanoHttpModification}

theorem BodyCall.marked_sameShape
    (terminated : ∀ mod ∈ call.modifications, 0 ∉ mod.modificationBuffer)
    (listed : call.modifications = before ++ mod :: after) :
    call.SameShape (marked call.body.length before mod after) := by
  have shaped {source : NanoHttpModification} {byte : UInt8}
      (nonzero : byte ≠ 0) (member : source ∈ before ++ mod :: after) :
      source.SameShape (source.fill byte) :=
    NanoHttpModification.fill_sameShape nonzero
      (terminated source (listed ▸ member))
  refine { body := List.length_replicate, modifications := ?_ }
  rw [listed]
  apply List.rel_append
  · apply List.forall₂_map_right_iff.mpr
    apply List.forall₂_same.mpr
    exact fun source member => shaped (by decide) (by simp [member])
  · apply List.Forall₂.cons (shaped (by decide) (by simp))
    apply List.forall₂_map_right_iff.mpr
    apply List.forall₂_same.mpr
    exact fun source member => shaped (by decide) (by simp [member])

theorem splice_marked {size : Nat} (filled : mod.modificationBuffer ≠ [])
    (within : mod.insertion.pos ≤ size)
    (ordered : InOrder ((BodyCall.marked size before mod after).modifications.map
      NanoHttpModification.insertion)) :
    ∃ rest, splice (BodyCall.marked size before mod after).body 0
        ((BodyCall.marked size before mod after).modifications.map
          NanoHttpModification.insertion) =
      List.replicate (mod.insertion.pos +
          (before.map fun mod => mod.modificationBuffer.length).sum) 1 ++
        (List.replicate mod.modificationBuffer.length 3 ++ rest) := by
  have more : (mod.fill 3).insertion.data ≠ [] := by
    simpa [NanoHttpModification.fill, NanoHttpModification.insertion]
      using filled
  have size : totalSize ((before.map (NanoHttpModification.fill 1)).map
      NanoHttpModification.insertion) =
        (before.map fun mod => mod.modificationBuffer.length).sum := by
    simp [totalSize, Function.comp_def, NanoHttpModification.insertion,
      NanoHttpModification.fill]
  rw [BodyCall.marked, List.map_append, List.map_cons] at ordered ⊢
  rw [← size]
  apply splice_replicate _ ordered (fun _ _ _ => Nat.zero_le _) more within
  intro other member
  rw [List.map_map] at member
  obtain ⟨source, _, rfl⟩ := List.mem_map.mp member
  simp [NanoHttpModification.insertion, NanoHttpModification.fill]

/-- The filters put the threes at the position that the injection names. -/
theorem injectBodyChunk_marked {size : Nat} (nonneg : 0 ≤ mod.injectionPos)
    (within : mod.injectionPos.toNat ≤ size)
    (nothing : ∀ other ∈ after, other.modificationBuffer = []) :
    ∃ rest, injectBodyChunk (BodyCall.marked size before mod after).modifications
        mod.origBuffIndex (BodyCall.marked size before mod after).body =
      List.replicate mod.injectionPos.toNat 1 ++
        (List.replicate mod.modificationBuffer.length 3 ++ rest) := by
  obtain ⟨grown, larger, ones⟩ :=
    injectBodyChunk_ones before mod.origBuffIndex size
  have valid : ¬((mod.fill 3).injectionPos < 0 ∨
      (mod.fill 3).injectionPos > (List.replicate grown (1 : UInt8)).length) := by
    rw [List.length_replicate]
    simp only [NanoHttpModification.fill]
    omega
  have whole : goString (mod.fill 3).modificationBuffer =
      List.replicate mod.modificationBuffer.length 3 := by
    apply goString_eq_iff.mpr
    intro member
    exact nomatch List.eq_of_mem_replicate member
  have named : (mod.fill 3).origBuffIndex = mod.origBuffIndex := rfl
  have position : (mod.fill 3).injectionPos = mod.injectionPos := rfl
  refine ⟨List.replicate (grown - mod.injectionPos.toNat) 1, ?_⟩
  rw [BodyCall.marked, injectBodyChunk_append, ones, injectBodyChunk_cons,
    if_pos named, whole, injectBodyChunk_of_empty, insertAtPosition,
    if_neg valid, position, List.take_replicate, List.drop_replicate,
    List.append_assoc]
  · congr 2
    omega
  · intro other member
    obtain ⟨source, known, rfl⟩ := List.mem_map.mp member
    simp [NanoHttpModification.fill, nothing source known]

end Marked

section Agreement

variable {earlier : List BodyCall} {call : BodyCall}

theorem agreement_orders
    (inside : ∀ mod ∈ call.modifications, mod.Inside call.body)
    (agree : ∀ frontEnd : FrontEnd,
      frontEnd.filtered earlier call = call.edited) :
    (∀ mod ∈ call.modifications, 0 ∉ mod.modificationBuffer) ∧
      InOrder (call.modifications.map NanoHttpModification.insertion) ∧
      ∀ mod ∈ call.modifications, mod.modificationBuffer ≠ [] →
        mod.origBuffIndex = earlier.length := by
  have daemon := congrArg List.length (agree .traefik)
  have envoy := congrArg List.length (agree .envoy)
  rw [FrontEnd.filtered_eq] at daemon envoy
  obtain ⟨terminated, ordered⟩ := inOrder_of_whole inside daemon
  exact ⟨terminated, ordered, named_of_whole inside envoy⟩

/-- The last injection is the only one, and it goes into the first buffer. -/
theorem last_injection {before after : List NanoHttpModification}
    {mod : NanoHttpModification}
    (inside : ∀ mod ∈ call.modifications, mod.Inside call.body)
    (agree : ∀ other, call.SameShape other → ∀ frontEnd : FrontEnd,
      frontEnd.filtered earlier other = other.edited)
    (terminated : ∀ mod ∈ call.modifications, 0 ∉ mod.modificationBuffer)
    (named : mod.origBuffIndex = earlier.length)
    (listed : call.modifications = before ++ mod :: after)
    (filled : mod.modificationBuffer ≠ [])
    (nothing : ∀ other ∈ after, other.modificationBuffer = []) :
    mod.origBuffIndex = 0 ∧
      ∀ other ∈ before, other.modificationBuffer = [] := by
  have same := BodyCall.marked_sameShape terminated listed
  have insideMarked := same.inside inside
  have agree := agree _ same
  obtain ⟨terminated, ordered, _⟩ := agreement_orders insideMarked agree
  have member : mod ∈ call.modifications := by simp [listed]
  have within := (inside mod member).buffer.2
  have nonneg := (inside mod member).2.1
  obtain ⟨daemonRest, daemon⟩ := splice_marked filled (Nat.le_of_lt within)
    ordered
  have reached : mod.injectionPos.toNat ≤ call.body.length := by omega
  obtain ⟨envoyRest, envoy⟩ := injectBodyChunk_marked nonneg reached nothing
  have both := (agree .traefik).trans (agree .envoy).symm
  rw [FrontEnd.filtered_eq, FrontEnd.filtered_eq] at both
  dsimp only at both
  rw [applyBodyModifications_eq insideMarked,
    map_read_of_terminated terminated, daemon, ← named, envoy] at both
  have size : mod.modificationBuffer.length ≠ 0 := by
    simpa using filled
  have counted := ones_injective size both
  have chunk : 0 < bodyChunkSize := by decide
  have position : mod.insertion.pos =
      mod.origBuffIndex * bodyChunkSize + mod.injectionPos.toNat := rfl
  have first : mod.origBuffIndex * bodyChunkSize = 0 := by omega
  refine ⟨(Nat.mul_eq_zero.mp first).resolve_right (by omega), ?_⟩
  intro other earlierMember
  have nothing : (before.map fun mod => mod.modificationBuffer.length).sum =
      0 := by
    omega
  apply List.eq_nil_of_length_eq_zero
  apply List.sum_eq_zero_iff.mp nothing
  exact List.mem_map_of_mem earlierMember

theorem injectsOnce_of_agreement
    (inside : ∀ mod ∈ call.modifications, mod.Inside call.body)
    (agree : ∀ other, call.SameShape other → ∀ frontEnd : FrontEnd,
      frontEnd.filtered earlier other = other.edited) :
    call.InjectsOnce earlier := by
  have own : call.SameShape call :=
    { body := rfl
      modifications := List.forall₂_same.mpr fun mod _ =>
        ⟨rfl, rfl, rfl, rfl, Iff.rfl⟩ }
  obtain ⟨terminated, ordered, named⟩ :=
    agreement_orders inside (agree call own)
  have ordered := List.pairwise_map.mp ordered
  by_cases filled : ∃ mod ∈ call.modifications, mod.modificationBuffer ≠ []
  · obtain ⟨before, mod, after, listed, filled, nothing⟩ := exists_last filled
    have nothing : ∀ other ∈ after, other.modificationBuffer = [] :=
      fun other member => not_not.mp (nothing other member)
    have member : mod ∈ call.modifications := by simp [listed]
    obtain ⟨index, empty⟩ := last_injection inside agree terminated
      (named mod member filled) listed filled nothing
    have alone : earlier = [] := by
      apply List.eq_nil_of_length_eq_zero
      rw [← named mod member filled, index]
    have single : call.modifications.Pairwise fun first second =>
        second.modificationBuffer ≠ [] → first.modificationBuffer = [] := by
      rw [listed, List.pairwise_append, List.pairwise_cons]
      refine ⟨?_, ⟨?_, ?_⟩, ?_⟩
      · apply List.pairwise_of_forall_mem_list
        exact fun first member _ _ _ => empty first member
      · exact fun second member filled =>
          (filled (nothing second member)).elim
      · apply List.pairwise_of_forall_mem_list
        exact fun first member _ _ _ => nothing first member
      · exact fun first member _ _ _ => empty first member
    exact
      { terminated
        first := fun other member filled =>
          ⟨alone, by rw [named other member filled, alone]; rfl⟩
        single := (single.and ordered).imp fun both filled =>
          ⟨both.1 filled, both.2 filled⟩ }
  · have nothing : ∀ mod ∈ call.modifications,
        mod.modificationBuffer = [] := by
      simpa using filled
    exact
      { terminated
        first := fun mod member filled => (filled (nothing mod member)).elim
        single := ordered.imp_of_mem fun _ member follows filled =>
          (filled (nothing _ member)).elim }

/-- The front ends make the same edit, whatever the bytes are, exactly when
there is one injection at most, into the first buffer of the first part. -/
theorem front_ends_agree_iff
    (inside : ∀ mod ∈ call.modifications, mod.Inside call.body) :
    (∀ other, call.SameShape other → ∀ frontEnd : FrontEnd,
        frontEnd.filtered earlier other = other.edited) ↔
      call.InjectsOnce earlier := by
  constructor
  · exact injectsOnce_of_agreement inside
  · intro once other same
    exact filtered_of_injectsOnce (same.inside inside) (same.injectsOnce once)

end Agreement

/-- An injection into the first buffer of a body. -/
def injectAt (pos : Nat) (data : List UInt8) : NanoHttpModification :=
  { isHeader := false
    origBuffIndex := 0
    injectionPos := pos
    modificationBuffer := data }

theorem injectAt_inside {pos : Nat} {data : List UInt8}
    (within : pos < body.length) (short : body.length ≤ 8 * 1024) :
    (injectAt pos data).Inside body := by
  refine ⟨rfl, Int.natCast_nonneg pos, fun frontEnd => ?_⟩
  have one : (body.length - 1) / (8 * 1024) = 0 := by omega
  rw [frontEnd.chunks_of_short (by omega), one]
  exact ⟨body, by simp [Bulks.pieces, Bulks.piece, injectAt],
    Int.ofNat_lt.mpr within⟩

def oneInjection : BodyCall :=
  { body := [120, 121], modifications := [injectAt 1 [65]] }

theorem front_ends_agree_on_one_injection :
    [FrontEnd.envoy, .kong, .traefik].map
        (fun frontEnd => frontEnd.filtered [] oneInjection) =
      [[120, 65, 121], [120, 65, 121], [120, 65, 121]] := by
  have inside : ∀ mod ∈ oneInjection.modifications,
      mod.Inside oneInjection.body := by
    intro mod member
    cases List.mem_singleton.mp member
    exact injectAt_inside (by decide) (by decide)
  have once : oneInjection.InjectsOnce [] :=
    { terminated := by decide
      first := by decide
      single := List.pairwise_singleton _ _ }
  have same : oneInjection.SameShape oneInjection :=
    { body := rfl
      modifications := List.forall₂_same.mpr fun mod _ =>
        ⟨rfl, rfl, rfl, rfl, Iff.rfl⟩ }
  have agrees := (front_ends_agree_iff inside).mpr once oneInjection same
  have edited : oneInjection.edited = [120, 65, 121] := by decide
  simp only [List.map_cons, List.map_nil, agrees, edited]

/-- The filters insert `B` at position 1 of the body that `A` has been inserted
into, and not before `y`. -/
theorem two_injections_disagree :
    let call : BodyCall :=
      { body := [120, 121]
        modifications := [injectAt 0 [65], injectAt 1 [66]] }
    (∀ mod ∈ call.modifications, mod.Inside call.body) ∧
      call.edited = [65, 120, 66, 121] ∧
      FrontEnd.traefik.filtered [] call = [65, 120, 66, 121] ∧
      FrontEnd.envoy.filtered [] call = [65, 66, 120, 121] ∧
      FrontEnd.kong.filtered [] call = [65, 66, 120, 121] := by
  intro call
  refine ⟨?_, by decide, by decide, by decide, by decide⟩
  intro mod member
  have inside (pos : Nat) (data : List UInt8) (within : pos < 2) :
      (injectAt pos data).Inside call.body :=
    injectAt_inside within (by decide)
  obtain rfl | member := List.mem_cons.mp member
  · exact inside 0 [65] (by decide)
  · cases List.mem_singleton.mp member
    exact inside 1 [66] (by decide)

/-- The daemon leaves out an injection that lies before the last one. -/
example :
    let call : BodyCall :=
      { body := [120, 121]
        modifications := [injectAt 1 [66], injectAt 0 [65]] }
    call.edited = [65, 120, 66, 121] ∧
      FrontEnd.traefik.filtered [] call = [120, 66, 121] ∧
      FrontEnd.envoy.filtered [] call = [65, 120, 66, 121] := by
  decide

end OpenAppsec.Nano
