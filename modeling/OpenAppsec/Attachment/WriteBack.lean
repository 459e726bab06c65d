import OpenAppsec.Library.IntrusiveList

/-!
# Writing a recompressed body back

The module compresses a body into buffers of its own and copies the result
into the buffers that nginx handed over, one after the other.  The chain links
lie in memory, so that a link put in between changes what the walk reaches.
-/

namespace OpenAppsec.Nginx.WriteBack

open IntrusiveList

/-- The bytes between `pos` and `last`, of the `capacity` bytes up to
`end`. -/
structure NgxBuf where
  capacity : Nat
  content : List UInt8
  memory : Bool
  temporary : Bool
  fits : content.length ≤ capacity

/-- As many of the compressed bytes as the buffer holds. -/
def NgxBuf.copy (buf : NgxBuf) (compressed : List UInt8) : NgxBuf :=
  let copySize := min compressed.length buf.capacity
  { capacity := buf.capacity
    content := compressed.take copySize
    memory := true
    temporary := true
    fits := by
      rw [List.length_take]
      omega }

/-- A buffer of `ngx_calloc_buf`: all its pointers are null. -/
def overflowBuf : NgxBuf where
  capacity := 0
  content := []
  memory := true
  temporary := true
  fits := Nat.le_refl 0

/-- The chain links in memory.  New links are numbered from `fresh` on, and
`allocations` counts the requests to the pool. -/
structure Memory where
  buf : Nat → NgxBuf
  next : Nat → Option Nat
  fresh : Nat
  allocations : Nat

def Memory.setBuf (memory : Memory) (link : Nat) (buf : NgxBuf) : Memory :=
  { memory with buf := Function.update memory.buf link buf }

/-- A new link behind this one, with nothing behind it. -/
def Memory.linkOverflow (memory : Memory) (link : Nat) : Memory :=
  let overflow := memory.fresh
  { buf := Function.update memory.buf overflow overflowBuf
    next := Function.update
      (Function.update memory.next link (some overflow)) overflow none
    fresh := memory.fresh + 1
    allocations := memory.allocations + 2 }

/-- The inner loop for one compressed buffer; it leaves with `break` or with
nothing remaining, so it makes one round.  The result is the memory and
`orig_cl`, or `none` for `NGX_ERROR`. -/
def copyBuffer (allocated : Nat → Bool) (memory : Memory)
    (origCl : Option Nat) (compressed : List UInt8) :
    Option (Memory × Option Nat) :=
  match origCl with
  | none => some (memory, none)
  | some link =>
      if compressed = [] then some (memory, some link)
      else
        let buf := memory.buf link
        let filled := memory.setBuf link (buf.copy compressed)
        if compressed.length ≤ buf.capacity then
          some (filled, memory.next link)
        else if allocated memory.allocations ∧
            allocated (memory.allocations + 1) then
          -- the links behind are walked on, but nothing leads to them
          some (filled.linkOverflow link, memory.next link)
        else
          none

/-- `none` stands for `NGX_ERROR`. -/
def copyCompressedToOriginalBuffers (allocated : Nat → Bool) :
    Memory → Option Nat → List (List UInt8) → Option Memory
  | memory, _, [] => some memory
  | memory, origCl, compressed :: rest =>
      match copyBuffer allocated memory origCl compressed with
      | none => none
      | some (memory, origCl) =>
          copyCompressedToOriginalBuffers allocated memory origCl rest

/-- The buffers of the chain after the copy, in terms of those before it. -/
def reached : List NgxBuf → List (List UInt8) → List NgxBuf
  | bufs, [] => bufs
  | [], _ :: _ => []
  | buf :: bufs, compressed :: rest =>
      if compressed = [] then reached (buf :: bufs) rest
      else if compressed.length ≤ buf.capacity then
        buf.copy compressed :: reached bufs rest
      else
        [buf.copy compressed, overflowBuf]

/-- What a walk does to the links that it does not pass is nothing. -/
structure Walked (before after : Memory) (links : List Nat) : Prop where
  fresh_le : before.fresh ≤ after.fresh
  buf_eq : ∀ link < before.fresh, link ∉ links →
    after.buf link = before.buf link
  next_eq : ∀ link < before.fresh, link ∉ links →
    after.next link = before.next link

theorem Walked.refl (memory : Memory) (links : List Nat) :
    Walked memory memory links where
  fresh_le := Nat.le_refl _
  buf_eq := fun _ _ _ => rfl
  next_eq := fun _ _ _ => rfl

theorem reached_nil (compressed : List (List UInt8)) :
    reached [] compressed = [] := by
  cases compressed with
  | nil => rfl
  | cons compressed rest => rfl

theorem copyCompressedToOriginalBuffers_none (allocated : Nat → Bool)
    (memory : Memory) (compressed : List (List UInt8)) :
    copyCompressedToOriginalBuffers allocated memory none compressed =
      some memory := by
  induction compressed with
  | nil => rfl
  | cons compressed rest induction =>
      simpa [copyCompressedToOriginalBuffers, copyBuffer] using induction

theorem Walked.cons {before filled after : Memory} {link : Nat}
    {links : List Nat} (fresh_le : before.fresh ≤ filled.fresh)
    (buf_eq : ∀ other < before.fresh, other ≠ link →
      filled.buf other = before.buf other)
    (next_eq : ∀ other < before.fresh, other ≠ link →
      filled.next other = before.next other)
    (walked : Walked filled after links) :
    Walked before after (link :: links) where
  fresh_le := Nat.le_trans fresh_le walked.fresh_le
  buf_eq := by
    intro other old apart
    rw [List.mem_cons, not_or] at apart
    rw [walked.buf_eq other (Nat.lt_of_lt_of_le old fresh_le) apart.2]
    exact buf_eq other old apart.1
  next_eq := by
    intro other old apart
    rw [List.mem_cons, not_or] at apart
    rw [walked.next_eq other (Nat.lt_of_lt_of_le old fresh_le) apart.2]
    exact next_eq other old apart.1

theorem copy_reaches {allocated : Nat → Bool} {memory after : Memory}
    {origCl : Option Nat} {links : List Nat}
    {compressed : List (List UInt8)} (chain : Path memory.next origCl links)
    (old : ∀ link ∈ links, link < memory.fresh)
    (copied : copyCompressedToOriginalBuffers allocated memory origCl
      compressed = some after) :
    Walked memory after links ∧ ∃ reachedLinks,
      Path after.next origCl reachedLinks ∧
        reachedLinks.map after.buf =
          reached (links.map memory.buf) compressed := by
  induction compressed generalizing memory origCl links with
  | nil =>
      cases copied
      exact ⟨Walked.refl _ links, links, chain, by simp [reached]⟩
  | cons compressed rest induction =>
      cases chain with
      | nil =>
          rw [copyCompressedToOriginalBuffers_none] at copied
          cases copied
          exact ⟨Walked.refl _ [], [], .nil, rfl⟩
      | @cons link later tail =>
          have distinct := (Path.cons tail).nodup
          obtain ⟨notLater, -⟩ := List.nodup_cons.mp distinct
          obtain ⟨linkOld, laterOld⟩ := List.forall_mem_cons.mp old
          by_cases empty : compressed = []
          · simp only [copyCompressedToOriginalBuffers, copyBuffer,
              if_pos empty] at copied
            have same := induction (.cons tail) old copied
            simpa [reached, empty] using same
          have laterBufs : ∀ buf : NgxBuf,
              later.map (Function.update memory.buf link buf) =
                later.map memory.buf := by
            intro buf
            apply List.map_congr_left
            intro other member
            exact Function.update_of_ne
              (ne_of_mem_of_not_mem member notLater) _ _
          by_cases fits : compressed.length ≤ (memory.buf link).capacity
          · simp only [copyCompressedToOriginalBuffers, copyBuffer,
              if_neg empty, if_pos fits] at copied
            have linked : Path (memory.setBuf link
                ((memory.buf link).copy compressed)).next
                (memory.next link) later := tail
            obtain ⟨walked, reachedLinks, path, bufs⟩ :=
              induction linked laterOld copied
            have ownBuf := walked.buf_eq link linkOld notLater
            have ownNext := walked.next_eq link linkOld notLater
            constructor
            · apply Walked.cons _ _ _ walked
              · exact Nat.le_refl _
              · intro other _ apart
                exact Function.update_of_ne apart _ _
              · intro other _ _
                rfl
            · refine ⟨link :: reachedLinks, .cons (ownNext ▸ path), ?_⟩
              simp only [Memory.setBuf, laterBufs] at bufs
              simp [reached, empty, fits, bufs, ownBuf, Memory.setBuf]
          · simp only [copyCompressedToOriginalBuffers, copyBuffer,
              if_neg empty, if_neg fits] at copied
            split_ifs at copied with enough
            have laterNotFresh : memory.fresh ∉ later := fun member =>
              Nat.lt_irrefl _ (laterOld _ member)
            have linkNotFresh : link ≠ memory.fresh := Nat.ne_of_lt linkOld
            have detached : Path ((memory.setBuf link
                ((memory.buf link).copy compressed)).linkOverflow link).next
                (memory.next link) later := by
              apply tail.congr
              intro other member
              have notLink := ne_of_mem_of_not_mem member notLater
              have notFresh := ne_of_mem_of_not_mem member laterNotFresh
              simp [Memory.linkOverflow, Memory.setBuf, notLink, notFresh]
            obtain ⟨walked, -⟩ := induction detached
              (fun other member => Nat.lt_succ_of_lt (laterOld other member))
              copied
            have ownBuf := walked.buf_eq link (Nat.lt_succ_of_lt linkOld)
              notLater
            have ownNext := walked.next_eq link (Nat.lt_succ_of_lt linkOld)
              notLater
            have overflowBuf := walked.buf_eq memory.fresh
              (Nat.lt_succ_self _) laterNotFresh
            have overflowNext := walked.next_eq memory.fresh
              (Nat.lt_succ_self _) laterNotFresh
            simp [Memory.linkOverflow, Memory.setBuf, linkNotFresh]
              at ownBuf ownNext overflowBuf overflowNext
            constructor
            · apply Walked.cons _ _ _ walked
              · exact Nat.le_succ _
              · intro other less apart
                simp [Memory.linkOverflow, Memory.setBuf, apart,
                  Nat.ne_of_lt less]
              · intro other less apart
                simp [Memory.linkOverflow, Memory.setBuf, apart,
                  Nat.ne_of_lt less]
            · refine ⟨[link, memory.fresh], ?_, ?_⟩
              · apply Path.cons
                rw [ownNext]
                apply Path.cons
                rw [overflowNext]
                exact .nil
              · simp [reached, empty, fits, ownBuf, overflowBuf]

/-- The bytes of a chain. -/
def bytesOf (bufs : List NgxBuf) : List UInt8 :=
  bufs.flatMap NgxBuf.content

/-- Each compressed buffer with bytes in it has an original buffer of its own
that is large enough, and the original buffers left over are empty. -/
def FitsOneToOne (bufs : List NgxBuf) (compressed : List (List UInt8)) :
    Prop :=
  let filled := compressed.filter (· ≠ [])
  List.Forall₂ (fun bytes buf => bytes.length ≤ buf.capacity) filled
      (bufs.take filled.length) ∧
    ∀ buf ∈ bufs.drop filled.length, buf.content = []

theorem bytesOf_reached_iff (bufs : List NgxBuf)
    (compressed : List (List UInt8)) :
    bytesOf (reached bufs compressed) = compressed.flatten ↔
      FitsOneToOne bufs compressed := by
  induction compressed generalizing bufs with
  | nil => simp [reached, bytesOf, FitsOneToOne]
  | cons compressed rest induction =>
      by_cases empty : compressed = []
      · subst compressed
        cases bufs with
        | nil =>
            have same := induction []
            rw [reached_nil] at same
            simpa [reached, FitsOneToOne] using same
        | cons buf bufs =>
            have same := induction (buf :: bufs)
            simpa [reached, FitsOneToOne] using same
      cases bufs with
      | nil => simp [reached, bytesOf, FitsOneToOne, empty]
      | cons buf bufs =>
          by_cases fits : compressed.length ≤ buf.capacity
          · have whole : (buf.copy compressed).content = compressed := by
              simp [NgxBuf.copy, fits]
            have same := induction bufs
            simp only [bytesOf, FitsOneToOne] at same
            simp [reached, empty, fits, bytesOf, FitsOneToOne, whole, same]
          · apply iff_of_false
            · intro equal
              have lengths := congrArg List.length equal
              simp [reached, empty, fits, bytesOf, NgxBuf.copy, overflowBuf]
                at lengths
              omega
            · simp [FitsOneToOne, empty, fits]

/-- A copy that returns `NGX_OK` leaves the compressed bytes in the chain just
when they fit the original buffers one to one. -/
theorem copyCompressedToOriginalBuffers_iff {allocated : Nat → Bool}
    {memory after : Memory} {originalChain : Option Nat} {links : List Nat}
    {compressed : List (List UInt8)}
    (chain : Path memory.next originalChain links)
    (old : ∀ link ∈ links, link < memory.fresh)
    (copied : copyCompressedToOriginalBuffers allocated memory originalChain
      compressed = some after) :
    ∃ reachedLinks, Path after.next originalChain reachedLinks ∧
      (bytesOf (reachedLinks.map after.buf) = compressed.flatten ↔
        FitsOneToOne (links.map memory.buf) compressed) := by
  obtain ⟨-, reachedLinks, path, bufs⟩ := copy_reaches chain old copied
  refine ⟨reachedLinks, path, ?_⟩
  rw [bufs]
  exact bytesOf_reached_iff (links.map memory.buf) compressed

/-- A buffer as nginx hands it over. -/
def filledBuf (content : List UInt8) (room : Nat) : NgxBuf where
  capacity := content.length + room
  content := content
  memory := false
  temporary := true
  fits := Nat.le_add_right _ _

/-- A chain of these buffers. -/
def chainOf (bufs : List NgxBuf) : Memory where
  buf := fun link => bufs.getD link overflowBuf
  next := fun link =>
    if link + 1 < bufs.length then some (link + 1) else none
  fresh := bufs.length
  allocations := 0

theorem path_chainOf_two (first second : NgxBuf) :
    Path (chainOf [first, second]).next (some 0) [0, 1] :=
  .cons (.cons .nil)

theorem copyCompressedToOriginalBuffers_iff_twoBuffers :
    ∃ after reachedLinks,
      copyCompressedToOriginalBuffers (fun _ => true)
          (chainOf [filledBuf [7, 7] 1, filledBuf [8] 0]) (some 0)
          [[1, 2, 3], [], [4]] = some after ∧
        Path after.next (some 0) reachedLinks ∧
        (bytesOf (reachedLinks.map after.buf) = [1, 2, 3, 4] ↔
          FitsOneToOne [filledBuf [7, 7] 1, filledBuf [8] 0]
            [[1, 2, 3], [], [4]]) := by
  obtain ⟨after, copied⟩ : ∃ after,
      copyCompressedToOriginalBuffers (fun _ => true)
        (chainOf [filledBuf [7, 7] 1, filledBuf [8] 0]) (some 0)
        [[1, 2, 3], [], [4]] = some after :=
    ⟨_, rfl⟩
  obtain ⟨reachedLinks, path, written⟩ :=
    copyCompressedToOriginalBuffers_iff
      (path_chainOf_two (filledBuf [7, 7] 1) (filledBuf [8] 0)) (by decide)
      copied
  exact ⟨after, reachedLinks, copied, path, written⟩

/-- A compressed buffer that is too long loses its end, and with one that needs
only the first of two buffers the second keeps its old bytes. -/
theorem copyCompressedToOriginalBuffers_loses :
    (∃ after,
      copyCompressedToOriginalBuffers (fun _ => true)
          (chainOf [filledBuf [7] 1, filledBuf [8] 0]) (some 0)
          [[1, 2, 3], [4]] = some after ∧
        Path after.next (some 0) [0, 2] ∧
        bytesOf ([0, 2].map after.buf) = [1, 2] ∧
        bytesOf ([0, 2].map after.buf) ≠ [[1, 2, 3], [4]].flatten) ∧
    ∃ after,
      copyCompressedToOriginalBuffers (fun _ => true)
          (chainOf [filledBuf [7] 0, filledBuf [8, 8] 0]) (some 0)
          [[1]] = some after ∧
        Path after.next (some 0) [0, 1] ∧
        bytesOf ([0, 1].map after.buf) = [1, 8, 8] ∧
        bytesOf ([0, 1].map after.buf) ≠ [[1]].flatten :=
  ⟨⟨_, rfl, .cons (.cons .nil), by decide, by decide⟩,
    ⟨_, rfl, .cons (.cons .nil), by decide, by decide⟩⟩

end OpenAppsec.Nginx.WriteBack
