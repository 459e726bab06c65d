import Mathlib.Algebra.Group.Nat.Defs
import OpenAppsec.Attachment.Senders
import OpenAppsec.Library.ByteMemory
import OpenAppsec.Library.IntrusiveList

/-!
# Splitting an element of a chain

An element is split by a second buffer over the same bytes, whose link is put
behind that of the first.  The size of the element is compared with the index
in 16 bits.
-/

namespace OpenAppsec.ChainSplit

open IntrusiveList

/-- The buffer `ngx_buf_t` describes the bytes from `pos` to `last`. -/
structure NgxBuf where
  pos : Nat
  last : Nat
  start : Nat
  bufEnd : Nat
  memory : Bool
  lastBuf : Bool
  lastInChain : Bool
  deriving DecidableEq

/-- `ngx_calloc_buf`. -/
def callocBuf : NgxBuf :=
  { pos := 0
    last := 0
    start := 0
    bufEnd := 0
    memory := false
    lastBuf := false
    lastInChain := false }

/-- The bytes, the buffers, and the two pointers of each `ngx_chain_t`. -/
structure Memory where
  bytes : ByteMemory
  bufs : Nat → NgxBuf
  buf : Nat → Nat
  next : Nat → Option Nat

namespace Memory

def elem (memory : Memory) (link : Nat) : NgxBuf :=
  memory.bufs (memory.buf link)

def setBuf (memory : Memory) (address : Nat) (buf : NgxBuf) : Memory :=
  { memory with bufs := Function.update memory.bufs address buf }

def setNext (memory : Memory) (link : Nat) (next : Option Nat) : Memory :=
  { memory with next := Function.update memory.next link next }

def size (memory : Memory) (link : Nat) : Nat :=
  (memory.elem link).last - (memory.elem link).pos

def content (memory : Memory) (link : Nat) : List UInt8 :=
  memory.bytes.read (memory.elem link).pos (memory.size link)

def stream (memory : Memory) (links : List Nat) : List UInt8 :=
  links.flatMap memory.content

end Memory

def appendChainElem (currentElem newElem : Nat) (memory : Memory) : Memory :=
  let memory := memory.setNext newElem (memory.next currentElem)
  let memory := memory.setBuf (memory.buf newElem)
    { memory.elem newElem with
      lastBuf := (memory.elem currentElem).lastBuf
      lastInChain := (memory.elem currentElem).lastInChain }
  let memory := memory.setNext currentElem (some newElem)
  memory.setBuf (memory.buf currentElem)
    { memory.elem currentElem with
      lastBuf := false
      lastInChain := false }

/-- `split_chain_elem`, for what the pool returns; none where `assert(0)` ends
the worker. -/
def splitChainElem (newBuf newChain : Option Nat) (elem : Nat)
    (splitIndex : UInt16) (memory : Memory) :
    Option (Nginx.NgxResult × Memory) :=
  let originalElementSize := UInt16.ofNat (memory.size elem)
  if splitIndex ≤ 0 ∨ splitIndex > originalElementSize then none
  else
    match newBuf with
    | none => some (.error, memory)
    | some newBuf =>
        let memory := memory.setBuf newBuf callocBuf
        match newChain with
        | none => some (.error, memory)
        | some newChain =>
            let buf := memory.elem elem
            let split := buf.pos + splitIndex.toNat - 1
            let memory := memory.setBuf newBuf
              { memory.bufs newBuf with
                start := split
                pos := split
                bufEnd := buf.bufEnd
                last := buf.last
                memory := true }
            let memory := memory.setBuf (memory.buf elem)
              { memory.elem elem with
                bufEnd := split
                last := split }
            let memory :=
              { memory with
                buf := Function.update memory.buf newChain newBuf }
            some (.ok, appendChainElem elem newChain memory)

/-- A chain: each link has a buffer of its own. -/
structure Memory.Chain (memory : Memory) (head : Option Nat)
    (links : List Nat) : Prop where
  path : Path memory.next head links
  apart : (links.map memory.buf).Nodup
  ordered : ∀ link ∈ links, (memory.elem link).pos ≤ (memory.elem link).last

/-- What the pool returns is not in use. -/
structure Pool (memory : Memory) (links : List Nat) where
  newBuf : Option Nat
  newChain : Option Nat
  freshBuf : ∀ address, newBuf = some address →
    address ∉ links.map memory.buf
  freshChain : ∀ link, newChain = some link → link ∉ links

/-- An element is split before the byte with an index, and the second part is
put behind it. -/
structure Split (head : Option Nat) (front : List Nat) (elem : Nat)
    (back : List Nat) (index : Nat) (before after : Memory) (right : Nat) :
    Prop where
  path : Path after.next head (front ++ elem :: right :: back)
  stream : after.stream (front ++ elem :: right :: back) =
    before.stream (front ++ elem :: back)
  left : (after.content elem).length = index - 1
  rest : (after.content right).length =
    (before.content elem).length - (index - 1)
  lastBuf : (after.elem right).lastBuf = (before.elem elem).lastBuf ∧
    (after.elem elem).lastBuf = false
  lastInChain :
    (after.elem right).lastInChain = (before.elem elem).lastInChain ∧
      (after.elem elem).lastInChain = false
  bytes : after.bytes = before.bytes
  others : ∀ link ∈ front ++ back, after.buf link = before.buf link ∧
    after.next link = before.next link ∧ after.elem link = before.elem link

/-- The memory with the element split at an address. -/
def Memory.splitAt (memory : Memory) (elem newBuf newChain split : Nat) :
    Memory where
  bytes := memory.bytes
  bufs := Function.update
    (Function.update memory.bufs newBuf
      { memory.elem elem with
        start := split
        pos := split
        memory := true })
    (memory.buf elem)
    { memory.elem elem with
      bufEnd := split
      last := split
      lastBuf := false
      lastInChain := false }
  buf := Function.update memory.buf newChain newBuf
  next := Function.update
    (Function.update memory.next newChain (memory.next elem)) elem
    (some newChain)

variable {memory : Memory} {head : Option Nat} {front back : List Nat}
  {elem newBuf newChain : Nat} {splitIndex : UInt16}

theorem splitChainElem_eq_ok (otherBuf : memory.buf elem ≠ newBuf)
    (otherChain : elem ≠ newChain) (positive : 0 < splitIndex.toNat)
    (inside : splitIndex.toNat ≤ memory.size elem % 2 ^ 16) :
    splitChainElem (some newBuf) (some newChain) elem splitIndex memory =
      some (.ok, memory.splitAt elem newBuf newChain
        ((memory.elem elem).pos + splitIndex.toNat - 1)) := by
  have legal : ¬(splitIndex ≤ 0 ∨
      splitIndex > UInt16.ofNat (memory.size elem)) := by
    rintro (none | past)
    · rw [UInt16.le_iff_toNat_le] at none
      simp at none
      omega
    · rw [gt_iff_lt, UInt16.lt_iff_toNat_lt, UInt16.toNat_ofNat'] at past
      omega
  simp only [splitChainElem, if_neg legal, appendChainElem, Memory.splitAt]
  simp only [Memory.elem, Memory.setBuf, Memory.setNext, Option.some.injEq,
    Prod.mk.injEq,
    Memory.mk.injEq, Function.update_self, Function.update_of_ne otherBuf,
    Function.update_of_ne otherBuf.symm, Function.update_of_ne otherChain,
    true_and, and_true]
  funext address
  by_cases here : address = memory.buf elem
  · simp [here]
  · by_cases new : address = newBuf
    · simp [new, otherBuf.symm]
    · simp [here, new]

theorem splitChainElem_aborts
    (illegal : splitIndex.toNat = 0 ∨
      memory.size elem % 2 ^ 16 < splitIndex.toNat)
    (newBuf newChain : Option Nat) :
    splitChainElem newBuf newChain elem splitIndex memory = none := by
  apply if_pos
  rcases illegal with none | past
  · left
    rw [UInt16.le_iff_toNat_le, none]
    exact Nat.zero_le _
  · right
    rwa [gt_iff_lt, UInt16.lt_iff_toNat_lt, UInt16.toNat_ofNat']

theorem splitChainElem_no_buf (newChain : Option Nat) (after : Memory) :
    splitChainElem none newChain elem splitIndex memory ≠
      some (.ok, after) := by
  rw [splitChainElem]
  split <;> simp

theorem splitChainElem_no_chain (newBuf : Option Nat) (after : Memory) :
    splitChainElem newBuf none elem splitIndex memory ≠
      some (.ok, after) := by
  cases newBuf with
  | none => exact splitChainElem_no_buf none after
  | some newBuf =>
      simp only [splitChainElem]
      split <;> simp

section SplitAt

variable {split : Nat}

theorem elem_splitAt_left (otherChain : elem ≠ newChain) :
    (memory.splitAt elem newBuf newChain split).elem elem =
      { memory.elem elem with
        bufEnd := split
        last := split
        lastBuf := false
        lastInChain := false } := by
  simp [Memory.elem, Memory.splitAt, otherChain]

theorem elem_splitAt_right (otherBuf : memory.buf elem ≠ newBuf) :
    (memory.splitAt elem newBuf newChain split).elem newChain =
      { memory.elem elem with
        start := split
        pos := split
        memory := true } := by
  simp [Memory.elem, Memory.splitAt, otherBuf.symm]

theorem elem_splitAt_other {link : Nat} (otherLink : link ≠ newChain)
    (otherElem : memory.buf link ≠ memory.buf elem)
    (otherBuf : memory.buf link ≠ newBuf) :
    (memory.splitAt elem newBuf newChain split).elem link =
      memory.elem link := by
  simp [Memory.elem, Memory.splitAt, otherLink, otherElem, otherBuf]

end SplitAt

variable (chain : memory.Chain head (front ++ elem :: back))

include chain

theorem Memory.Chain.buf_ne {link : Nat} (member : link ∈ front ++ back) :
    memory.buf link ≠ memory.buf elem := by
  have apart := chain.apart
  rw [List.map_append, List.map_cons] at apart
  have moved := List.nodup_middle.mp apart
  obtain ⟨once, -⟩ := List.nodup_cons.mp moved
  intro same
  apply once
  rw [← List.map_append, ← same]
  exact List.mem_map_of_mem member

theorem Memory.Chain.ne_elem {link : Nat} (member : link ∈ front ++ back) :
    link ≠ elem := by
  rintro rfl
  exact chain.buf_ne member rfl

/-- The element is split as it should be. -/
theorem Memory.Chain.split
    (freshBuf : newBuf ∉ (front ++ elem :: back).map memory.buf)
    (freshChain : newChain ∉ front ++ elem :: back) {index : Nat}
    (positive : 0 < index) (inside : index ≤ memory.size elem) :
    Split head front elem back index memory
      (memory.splitAt elem newBuf newChain
        ((memory.elem elem).pos + index - 1)) newChain := by
  have elemMember : elem ∈ front ++ elem :: back :=
    List.mem_append_right _ List.mem_cons_self
  have linkMember {link : Nat} (member : link ∈ front ++ back) :
      link ∈ front ++ elem :: back :=
    (List.Sublist.append_left (List.sublist_cons_self _ _) _).mem member
  have bufFresh {link : Nat} (member : link ∈ front ++ elem :: back) :
      memory.buf link ≠ newBuf :=
    ne_of_mem_of_not_mem (List.mem_map_of_mem member) freshBuf
  have linkFresh {link : Nat} (member : link ∈ front ++ elem :: back) :
      link ≠ newChain :=
    ne_of_mem_of_not_mem member freshChain
  have ordered := chain.ordered elem elemMember
  set split := (memory.elem elem).pos + index - 1 with splitEq
  have left := @elem_splitAt_left memory _ newBuf _ split
    (linkFresh elemMember)
  have right := @elem_splitAt_right _ _ _ newChain split (bufFresh elemMember)
  have other {link : Nat} (member : link ∈ front ++ back) :
      (memory.splitAt elem newBuf newChain split).elem link =
        memory.elem link :=
    elem_splitAt_other (linkFresh (linkMember member)) (chain.buf_ne member)
      (bufFresh (linkMember member))
  have contentOther {link : Nat} (member : link ∈ front ++ back) :
      (memory.splitAt elem newBuf newChain split).content link =
        memory.content link := by
    rw [Memory.content, Memory.content, Memory.size, Memory.size, other member]
    rfl
  have sizes : memory.size elem =
      (split - (memory.elem elem).pos) + ((memory.elem elem).last - split) := by
    rw [Memory.size] at inside ⊢
    omega
  have joined : (memory.splitAt elem newBuf newChain split).content elem ++
      (memory.splitAt elem newBuf newChain split).content newChain =
        memory.content elem := by
    have behind : (memory.elem elem).pos + (split - (memory.elem elem).pos) =
        split := by
      omega
    simp only [Memory.content, Memory.size, left, right]
    rw [← Memory.size, sizes, ByteMemory.read_add, behind]
    rfl
  exact
    { path := chain.path.insert freshChain
      stream := by
        simp only [Memory.stream, List.flatMap_append, List.flatMap_cons]
        rw [← joined, List.append_assoc,
          List.flatMap_congr fun link member =>
            contentOther (List.mem_append_left _ member),
          List.flatMap_congr fun link member =>
            contentOther (List.mem_append_right _ member)]
      left := by
        simp only [Memory.content, Memory.size, left, ByteMemory.length_read]
        omega
      rest := by
        simp only [Memory.content, Memory.size, right, ByteMemory.length_read]
        omega
      lastBuf := by simp [left, right]
      lastInChain := by simp [left, right]
      bytes := rfl
      others := by
        intro link member
        have fresh := linkFresh (linkMember member)
        refine ⟨Function.update_of_ne fresh _ _, ?_, other member⟩
        simp [Memory.splitAt, fresh, chain.ne_elem member] }

omit chain

/-- The split is right just when the pool has a buffer and a link, and the
index is not behind the size of the element in 16 bits. -/
theorem chain_elem_split_iff
    (chain : memory.Chain head (front ++ elem :: back))
    (pool : Pool memory (front ++ elem :: back)) {index : Nat}
    (positive : 1 ≤ index) :
    (∃ after right,
      splitChainElem pool.newBuf pool.newChain elem (UInt16.ofNat index)
          memory = some (.ok, after) ∧
        Split head front elem back index memory after right) ↔
      pool.newBuf.isSome ∧ pool.newChain.isSome ∧
        index ≤ memory.size elem % 2 ^ 16 := by
  set size := memory.size elem with sizeEq
  have index16 : (UInt16.ofNat index).toNat = index % 2 ^ 16 :=
    UInt16.toNat_ofNat'
  by_cases legal : 0 < index % 2 ^ 16 ∧ index % 2 ^ 16 ≤ size % 2 ^ 16
  swap
  · have illegal : (UInt16.ofNat index).toNat = 0 ∨
        memory.size elem % 2 ^ 16 < (UInt16.ofNat index).toNat := by
      rw [index16]
      omega
    rw [splitChainElem_aborts illegal]
    apply iff_of_false
    · rintro ⟨after, right, ok, -⟩
      cases ok
    · rintro ⟨-, -, fits⟩
      omega
  obtain ⟨newBuf, newChain, freshBuf, freshChain⟩ := pool
  cases newBuf with
  | none => simp [splitChainElem_no_buf]
  | some newBuf =>
      cases newChain with
      | none => simp [splitChainElem_no_chain]
      | some newChain =>
          have member : elem ∈ front ++ elem :: back :=
            List.mem_append_right _ List.mem_cons_self
          have otherBuf : memory.buf elem ≠ newBuf :=
            ne_of_mem_of_not_mem (List.mem_map_of_mem member)
              (freshBuf newBuf rfl)
          have otherChain : elem ≠ newChain :=
            ne_of_mem_of_not_mem member (freshChain newChain rfl)
          have split := chain.split (freshBuf newBuf rfl)
            (freshChain newChain rfl) legal.1 (by omega)
          rw [← index16] at legal split
          rw [splitChainElem_eq_ok otherBuf otherChain legal.1 legal.2]
          constructor
          · rintro ⟨after, right, ok, wanted⟩
            cases ok
            -- the left part is as long as the index in 16 bits says
            have same := split.left.symm.trans wanted.left
            refine ⟨rfl, rfl, ?_⟩
            omega
          · rintro ⟨-, -, fits⟩
            have whole : (UInt16.ofNat index).toNat = index := by omega
            rw [whole] at split ⊢
            exact ⟨_, newChain, rfl, split⟩

/-- A chain of one element with as many bytes. -/
def oneElement (size : Nat) : Memory where
  bytes := fun address => UInt8.ofNat address
  bufs := fun _ =>
    { callocBuf with last := size, bufEnd := size, lastBuf := true }
  buf := id
  next := fun _ => none

theorem chain_oneElement (size : Nat) :
    (oneElement size).Chain (some 7) ([] ++ 7 :: []) where
  path := .cons .nil
  apart := by simp
  ordered := by simp [oneElement, Memory.elem, callocBuf]

def oneElementPool (size : Nat) : Pool (oneElement size) ([] ++ 7 :: []) where
  newBuf := some 8
  newChain := some 9
  freshBuf := by simp [oneElement]
  freshChain := by simp

theorem threeBytes_split :
    ∃ after right,
      splitChainElem (some 8) (some 9) 7 (UInt16.ofNat 2) (oneElement 3) =
          some (.ok, after) ∧
        Split (some 7) [] 7 [] 2 (oneElement 3) after right :=
  (chain_elem_split_iff (chain_oneElement 3) (oneElementPool 3)
    (by decide)).mpr ⟨rfl, rfl, by decide⟩

/-- An element of 65536 bytes has no byte in 16 bits. -/
theorem long_elem_not_split :
    ¬∀ (memory : Memory) (head : Option Nat) (front back : List Nat)
      (elem : Nat), memory.Chain head (front ++ elem :: back) →
        ∀ pool : Pool memory (front ++ elem :: back),
          pool.newBuf.isSome → pool.newChain.isSome →
          ∀ index, 1 ≤ index → index ≤ memory.size elem →
            ∃ after right,
              splitChainElem pool.newBuf pool.newChain elem
                  (UInt16.ofNat index) memory = some (.ok, after) ∧
                Split head front elem back index memory after right := by
  intro splits
  have size : (oneElement 65536).size 7 = 65536 := by
    simp [Memory.size, Memory.elem, oneElement, callocBuf]
  obtain ⟨_, _, ok, -⟩ := splits (oneElement 65536) (some 7) [] [] 7
    (chain_oneElement 65536) (oneElementPool 65536) rfl rfl 1 (Nat.le_refl 1)
    (by rw [size]; omega)
  have failed := @splitChainElem_aborts (oneElement 65536) 7
    (UInt16.ofNat 1) (.inr (by rw [size]; decide)) (some 8) (some 9)
  rw [oneElementPool, failed] at ok
  cases ok

end OpenAppsec.ChainSplit
