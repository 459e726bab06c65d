import Mathlib.Data.List.TakeWhile
import OpenAppsec.Async.Processing
import OpenAppsec.Attachment.NanoReceiver
import OpenAppsec.Attachment.NginxReceiver
import OpenAppsec.Library.ByteMemory
import OpenAppsec.Library.LengthPrefixed

/-!
# Inject records

The records of an inject reply lie packed in the queue, one behind the other.
Each becomes a node with a buffer of its own, filled by a string function from
data that may be any bytes, and the three receivers link the nodes in three
different ways.
-/

namespace OpenAppsec

open LengthPrefixed

def HttpModificationType.code : HttpModificationType → Nat
  | .append => 0
  | .inject => 1
  | .replace => 2

/-- The service sends no code beyond `REPLACE`. -/
def HttpModificationType.ofCode : Nat → HttpModificationType
  | 0 => .append
  | 1 => .inject
  | _ => .replace

@[simp] theorem HttpModificationType.ofCode_code
    (modType : HttpModificationType) : ofCode modType.code = modType := by
  cases modType with
  | append => rfl
  | inject => rfl
  | replace => rfl

namespace HttpInjectData

/-- The fields in front of `data`. -/
def packedHeader (modification : HttpInjectData) : List UInt8 :=
  littleEndian 8 (BitVec.ofInt 64 modification.injectionPos).toNat ++
    (littleEndian 4 modification.modType.code ++
      (littleEndian 2 modification.data.length ++
        ([modification.isHeader] ++ [modification.origBuffIndex])))

def packed (modification : HttpInjectData) : List UInt8 :=
  modification.packedHeader ++ modification.data

/-- The values that the packed fields can hold. -/
structure Encodable (modification : HttpInjectData) : Prop where
  injectionPos : modification.injectionPos.bmod (2 ^ 64) =
    modification.injectionPos
  injectionSize : modification.data.length < 2 ^ 16

/-- `sizeof(HttpInjectData)`. -/
def headerSize : Nat := 16

@[simp] theorem length_packedHeader (modification : HttpInjectData) :
    modification.packedHeader.length = headerSize := by
  simp [packedHeader, headerSize]

end HttpInjectData

/-- A little-endian field in memory. -/
def numberAt (memory : ByteMemory) (address width : Nat) : Nat :=
  Nat.ofDigits 256 ((memory.read address width).map UInt8.toNat)

theorem numberAt_of_holds {memory : ByteMemory} {address width value : Nat}
    (small : value < 256 ^ width)
    (held : memory.Holds address (littleEndian width value)) :
    numberAt memory address width = value := by
  rw [ByteMemory.Holds, length_littleEndian] at held
  rw [numberAt, held, ofDigits_littleEndian small]

/-- The record that a pointer to `HttpInjectData` shows. -/
def injectDataAt (memory : ByteMemory) (address : Nat) : HttpInjectData where
  injectionPos := (BitVec.ofNat 64 (numberAt memory address 8)).toInt
  modType := .ofCode (numberAt memory (address + 8) 4)
  isHeader := memory (address + 14)
  origBuffIndex := memory (address + 15)
  data := memory.read (address + HttpInjectData.headerSize)
    (numberAt memory (address + 12) 2)

/-- The records that the walk meets: the next one is behind the data. -/
def injectRecords (memory : ByteMemory) : Nat → Nat → List HttpInjectData
  | _, 0 => []
  | address, modificationCount + 1 =>
      let modification := injectDataAt memory address
      modification ::
        injectRecords memory
          (address + HttpInjectData.headerSize + modification.data.length)
          modificationCount

theorem injectDataAt_of_holds {memory : ByteMemory} {address : Nat}
    {modification : HttpInjectData} (encodable : modification.Encodable)
    (held : memory.Holds address modification.packed) :
    injectDataAt memory address = modification := by
  obtain ⟨header, data⟩ := ByteMemory.holds_append_iff.mp held
  rw [HttpInjectData.length_packedHeader] at data
  obtain ⟨pos, rest⟩ := ByteMemory.holds_append_iff.mp header
  obtain ⟨modType, rest⟩ := ByteMemory.holds_append_iff.mp rest
  obtain ⟨size, rest⟩ := ByteMemory.holds_append_iff.mp rest
  obtain ⟨isHeader, index⟩ := ByteMemory.holds_append_iff.mp rest
  simp only [length_littleEndian, List.length_singleton, Nat.add_assoc]
    at modType size isHeader index
  have posNumber := numberAt_of_holds (BitVec.isLt _) pos
  have modTypeNumber := numberAt_of_holds
    (by cases modification.modType <;> decide) modType
  have sizeNumber := numberAt_of_holds encodable.injectionSize size
  have position : (BitVec.ofNat 64
      (BitVec.ofInt 64 modification.injectionPos).toNat).toInt =
        modification.injectionPos := by
    rw [BitVec.ofNat_toNat, BitVec.setWidth_eq, BitVec.toInt_ofInt]
    exact encodable.injectionPos
  simp only [injectDataAt, posNumber, modTypeNumber, sizeNumber, position,
    isHeader.apply_zero, index.apply_zero, HttpModificationType.ofCode_code]
  rw [show memory.read (address + HttpInjectData.headerSize)
    modification.data.length = modification.data from data]

theorem injectRecords_of_holds {memory : ByteMemory} {address : Nat}
    {modifications : List HttpInjectData}
    (encodable : ∀ modification ∈ modifications, modification.Encodable)
    (held : memory.Holds address
      (modifications.flatMap HttpInjectData.packed)) :
    injectRecords memory address modifications.length = modifications := by
  induction modifications generalizing address with
  | nil => rfl
  | cons modification modifications induction =>
      rw [List.flatMap_cons] at held
      obtain ⟨first, rest⟩ := ByteMemory.holds_append_iff.mp held
      obtain ⟨ownEncodable, restEncodable⟩ := List.forall_mem_cons.mp encodable
      have own := injectDataAt_of_holds ownEncodable first
      rw [HttpInjectData.packed, List.length_append,
        HttpInjectData.length_packedHeader, ← Nat.add_assoc] at rest
      rw [List.length_cons, injectRecords]
      simp only [own, induction restEncodable rest]

/-- A block after `snprintf(block, size, "%s", source)`: the string up to its
zero byte or up to the size, a zero byte, and what was there before. -/
def snprintf (block : Nat → UInt8) (size : Nat) (source : List UInt8) :
    Nat → UInt8 :=
  let written := (source.takeWhile (· ≠ 0)).take (size - 1) ++ [0]
  fun index => written[index]?.getD (block index)

namespace HttpInjectData

/-- The `injection_size` bytes of the buffer that `create_modification_buffer`
fills, in a block with these bytes. -/
def bufferBytes (modification : HttpInjectData) (block : Nat → UInt8) :
    List UInt8 :=
  (List.range modification.data.length).map
    (snprintf block (modification.data.length + 1) modification.data)

/-- A node with these bytes in its buffer. -/
def nodeWith (modification : HttpInjectData) (bytes : List UInt8) :
    ModificationNode :=
  { modification.modificationNode with modificationBuffer := bytes }

/-- The node that holds exactly the data. -/
def decodedNode (modification : HttpInjectData) : ModificationNode :=
  modification.nodeWith modification.data

theorem nodeWith_eq_decodedNode_iff {modification : HttpInjectData}
    {bytes : List UInt8} :
    modification.nodeWith bytes = modification.decodedNode ↔
      bytes = modification.data := by
  simp [decodedNode, nodeWith]

/-- The only zero byte, if there is one, is the last byte. -/
def ZeroLast (modification : HttpInjectData) : Prop :=
  (modification.data.dropWhile (· ≠ 0)).length ≤ 1

/-- Behind a zero byte there are only zero bytes. -/
def ZerosTrail (modification : HttpInjectData) : Prop :=
  ∀ byte ∈ modification.data.dropWhile (· ≠ 0), byte = 0

/-- The string, a zero byte, and bytes of the block. -/
theorem bufferBytes_eq (modification : HttpInjectData)
    (block : Nat → UInt8) :
    let string := modification.data.takeWhile (· ≠ 0)
    modification.bufferBytes block =
      string ++ (List.range (modification.data.dropWhile (· ≠ 0)).length).map
        fun index =>
          if index = 0 then 0 else block (string.length + index) := by
  intro string
  have lengths : modification.data.length =
      string.length + (modification.data.dropWhile (· ≠ 0)).length := by
    rw [← List.length_append, List.takeWhile_append_dropWhile]
  have all : string.take (modification.data.length + 1 - 1) = string := by
    apply List.take_of_length_le
    omega
  rw [bufferBytes, lengths, List.range_add, List.map_append]
  congr 1
  · apply List.ext_getElem
    · simp
    intro index _ inString
    simp only [List.getElem_map, List.getElem_range, snprintf]
    rw [← lengths, all, List.getElem?_append_left inString,
      List.getElem?_eq_getElem inString, Option.getD_some]
  · rw [List.map_map]
    apply List.map_congr_left
    intro index _
    simp only [Function.comp_apply, snprintf]
    rw [← lengths, all, List.getElem?_append_right (by omega)]
    by_cases first : index = 0
    · simp [first]
    · simp [first]

theorem bufferBytes_eq_data_iff (modification : HttpInjectData)
    (block : Nat → UInt8) :
    modification.bufferBytes block = modification.data ↔
      (List.range (modification.data.dropWhile (· ≠ 0)).length).map
          (fun index =>
            if index = 0 then 0
            else block
              ((modification.data.takeWhile (· ≠ 0)).length + index)) =
        modification.data.dropWhile (· ≠ 0) := by
  have split : modification.data.takeWhile (· ≠ 0) ++
      modification.data.dropWhile (· ≠ 0) = modification.data :=
    List.takeWhile_append_dropWhile
  have stored := modification.bufferBytes_eq block
  constructor
  · intro same
    rw [stored] at same
    exact List.append_cancel_left (same.trans split.symm)
  · intro same
    rw [stored, same]
    exact split

theorem dropWhile_head (modification : HttpInjectData) {head : UInt8}
    {tail : List UInt8}
    (found : modification.data.dropWhile (· ≠ 0) = head :: tail) :
    head = 0 := by
  have stopped := List.head?_dropWhile_not (· ≠ (0 : UInt8)) modification.data
  rw [found] at stopped
  simpa using stopped

/-- In a block of `malloc`, whatever bytes it had, the buffer holds the data
just when no zero byte is followed by another byte. -/
theorem forall_bufferBytes_iff (modification : HttpInjectData) :
    (∀ block, modification.bufferBytes block = modification.data) ↔
      modification.ZeroLast := by
  simp only [bufferBytes_eq_data_iff]
  rw [ZeroLast]
  cases found : modification.data.dropWhile (· ≠ 0) with
  | nil => simp
  | cons head tail =>
      have zero := modification.dropWhile_head found
      subst head
      cases tail with
      | nil => simp
      | cons second rest =>
          apply iff_of_false
          · intro always
            have other := always fun _ => second + 1
            simp [List.range_succ_eq_map] at other
          · simp

theorem bufferBytes_zero_iff (modification : HttpInjectData) :
    modification.bufferBytes (fun _ => 0) = modification.data ↔
      modification.ZerosTrail := by
  rw [bufferBytes_eq_data_iff, ZerosTrail]
  simp only [ite_self]
  rw [List.map_const', List.length_range, eq_comm, List.eq_replicate_iff]
  simp

theorem bufferBytes_string (modification : HttpInjectData)
    (block : Nat → UInt8) :
    (modification.bufferBytes block).takeWhile (· ≠ 0) =
      modification.modificationNode.modificationBuffer := by
  rw [bufferBytes_eq]
  have nonzero : ∀ byte ∈ modification.data.takeWhile (· ≠ 0),
      decide (byte ≠ 0) = true := by
    intro byte member
    exact List.mem_takeWhile_imp (p := fun byte => decide (byte ≠ 0)) member
  rw [List.takeWhile_append_of_pos nonzero]
  cases modification.data.dropWhile (· ≠ 0) with
  | nil => simp [modificationNode]
  | cons head tail =>
      simp [modificationNode, List.range_succ_eq_map]

end HttpInjectData

section Links

variable {μ ν : Type}

/-- The loop of `handle_inject_response`.  Behind a list that is not empty, the
search for its end leaves the head of the list null. -/
def Nano.linkNodes (create : Nat → μ → Option ν) :
    Nat → List ν → List μ → List ν
  | _, modificationList, [] => modificationList
  | index, modificationList, modification :: modifications =>
      match create index modification with
      | none => []
      | some node =>
          let modificationList :=
            match modificationList with
            | [] => [node]
            | _ :: _ => []
          linkNodes create (index + 1) modificationList modifications

/-- The loop of `ngx_http_cp_reply_receiver`, from the last node on; `none`
for `NGX_ERROR`. -/
def Nginx.linkNodes (create : Nat → μ → Option ν) :
    Nat → List ν → List μ → Option (List ν)
  | _, modificationList, [] => some modificationList
  | index, modificationList, modification :: modifications =>
      match create index modification with
      | none => none
      | some node =>
          linkNodes create (index + 1) (modificationList ++ [node])
            modifications

/-- The loop of `ngx_cp_async_apply_verdict`; `none` where it links a node
behind the null pointer with which `current_modification` starts. -/
def Async.linkNodes (create : Nat → μ → Option ν) :
    Nat → Bool → List ν → List μ → Option (List ν)
  | _, _, modifications, [] => some modifications
  | index, hasCurrent, modifications, modification :: rest =>
      match create index modification with
      | none => some []
      | some node =>
          match modifications, hasCurrent with
          | [], _ => linkNodes create (index + 1) true [node] rest
          | _ :: _, false => none
          | modifications, true =>
              linkNodes create (index + 1) true (modifications ++ [node]) rest

/-- A view of the nodes that the creation respects is respected by the list. -/
theorem Nano.linkNodes_map {ν' : Type} {create : Nat → μ → Option ν}
    {create' : Nat → μ → Option ν'} {view : ν → ν'}
    (same : ∀ index modification,
      (create index modification).map view = create' index modification)
    (index : Nat) (modificationList : List ν) (modifications : List μ) :
    (Nano.linkNodes create index modificationList modifications).map view =
      Nano.linkNodes create' index (modificationList.map view)
        modifications := by
  induction modifications generalizing index modificationList with
  | nil => rfl
  | cons modification modifications induction =>
      rw [Nano.linkNodes, Nano.linkNodes, ← same]
      cases created : create index modification with
      | none => rfl
      | some node =>
          simp only [Option.map_some]
          rw [induction]
          cases modificationList with
          | nil => rfl
          | cons head tail => rfl

theorem Nginx.linkNodes_map {ν' : Type} {create : Nat → μ → Option ν}
    {create' : Nat → μ → Option ν'} {view : ν → ν'}
    (same : ∀ index modification,
      (create index modification).map view = create' index modification)
    (index : Nat) (modificationList : List ν) (modifications : List μ) :
    (Nginx.linkNodes create index modificationList modifications).map
        (List.map view) =
      Nginx.linkNodes create' index (modificationList.map view)
        modifications := by
  induction modifications generalizing index modificationList with
  | nil => rfl
  | cons modification modifications induction =>
      rw [Nginx.linkNodes, Nginx.linkNodes, ← same]
      cases created : create index modification with
      | none => rfl
      | some node => simp [induction]

/-- Once a node is linked, the async loop is that of the receiver, with an
empty list in place of an error. -/
theorem Async.linkNodes_true (create : Nat → μ → Option ν) (index : Nat)
    {modifications : List ν} (some_node : modifications ≠ [])
    (rest : List μ) :
    Async.linkNodes create index true modifications rest =
      some ((Nginx.linkNodes create index modifications rest).getD []) := by
  induction rest generalizing index modifications with
  | nil => simp [Async.linkNodes, Nginx.linkNodes]
  | cons modification rest induction =>
      cases modifications with
      | nil => exact absurd rfl some_node
      | cons head tail =>
          rw [Async.linkNodes, Nginx.linkNodes]
          cases created : create index modification with
          | none => rfl
          | some node => exact induction (index + 1) (by simp)

theorem Nano.length_linkNodes_le (create : Nat → μ → Option ν) (index : Nat)
    (modificationList : List ν) {modifications : List μ}
    (some_record : modifications ≠ []) :
    (Nano.linkNodes create index modificationList modifications).length ≤
      1 := by
  induction modifications generalizing index modificationList with
  | nil => exact absurd rfl some_record
  | cons modification modifications induction =>
      rw [Nano.linkNodes]
      cases create index modification with
      | none => simp
      | some node =>
          cases modifications with
          | nil =>
              cases modificationList with
              | nil => simp [Nano.linkNodes]
              | cons head tail => simp [Nano.linkNodes]
          | cons next rest => exact induction _ _ (by simp)

theorem Nano.linkNodes_eq_append_iff {stored : Nat → μ → ν}
    {decoded : μ → ν} {modificationList : List ν} {modifications : List μ} :
    Nano.linkNodes (fun index modification => some (stored index modification))
        0 modificationList modifications =
      modificationList ++ modifications.map decoded ↔
    modifications = [] ∨ modificationList = [] ∧
      ∃ modification, modifications = [modification] ∧
        stored 0 modification = decoded modification := by
  cases modifications with
  | nil => simp [Nano.linkNodes]
  | cons modification modifications =>
      have short := Nano.length_linkNodes_le
        (fun index modification => some (stored index modification)) 0
        modificationList (List.cons_ne_nil modification modifications)
      constructor
      · intro same
        rw [same, List.length_append, List.length_map, List.length_cons]
          at short
        have noList : modificationList = [] :=
          List.eq_nil_of_length_eq_zero (by omega)
        have noMore : modifications = [] :=
          List.eq_nil_of_length_eq_zero (by omega)
        subst modificationList modifications
        simpa [Nano.linkNodes] using same
      · rintro (none | ⟨rfl, only, found, same⟩)
        · cases none
        · cases found
          simp [Nano.linkNodes, same]

theorem Nginx.linkNodes_eq (stored : μ → ν) (index : Nat)
    (modificationList : List ν) (modifications : List μ) :
    Nginx.linkNodes (fun _ modification => some (stored modification)) index
        modificationList modifications =
      some (modificationList ++ modifications.map stored) := by
  induction modifications generalizing index modificationList with
  | nil => simp [Nginx.linkNodes]
  | cons modification modifications induction =>
      simp [Nginx.linkNodes, induction]

theorem Async.linkNodes_eq_append_iff {stored decoded : μ → ν}
    {modifications : List ν} {rest : List μ} :
    Async.linkNodes (fun _ modification => some (stored modification)) 0 false
        modifications rest = some (modifications ++ rest.map decoded) ↔
      (rest = [] ∨ modifications = []) ∧
        ∀ modification ∈ rest, stored modification = decoded modification := by
  cases rest with
  | nil => simp [Async.linkNodes]
  | cons modification rest =>
      cases modifications with
      | nil =>
          rw [Async.linkNodes]
          simp only
          rw [Async.linkNodes_true _ _ (by simp), Nginx.linkNodes_eq]
          simp
      | cons head tail => simp [Async.linkNodes]

theorem Nano.handleInjectResponse_eq_linkNodes (malloc : Nat → Bool)
    (index : Nat) (modificationList : List ModificationNode)
    (modifications : List HttpInjectData) :
    Nano.handleInjectResponse malloc index modificationList modifications =
      Nano.linkNodes (fun index => createModificationNode (malloc index))
        index modificationList modifications := by
  induction modifications generalizing index modificationList with
  | nil => rfl
  | cons modification modifications induction =>
      rw [Nano.handleInjectResponse, Nano.linkNodes]
      cases createModificationNode (malloc index) modification with
      | none => rfl
      | some node =>
          simp only [induction]
          cases modificationList with
          | nil => rfl
          | cons head tail => rfl

theorem Nginx.appendModifications_eq_linkNodes (ngxPcalloc : Nat → Bool)
    (index : Nat) (modificationList : List ModificationNode)
    (modifications : List HttpInjectData) :
    Nginx.appendModifications ngxPcalloc index modificationList
        modifications =
      Nginx.linkNodes
        (fun index => createModificationNode (ngxPcalloc index)) index
        modificationList modifications := by
  induction modifications generalizing index modificationList with
  | nil => rfl
  | cons modification modifications induction =>
      rw [Nginx.appendModifications, Nginx.linkNodes]
      cases createModificationNode (ngxPcalloc index) modification with
      | none => rfl
      | some node => exact induction (index + 1) (modificationList ++ [node])

theorem Async.addModifications_eq_linkNodes (reply : Async.VerdictReply)
    (modifications : List ModificationNode) :
    Async.addModifications reply modifications =
      Async.linkNodes
        (fun index => createModificationNode (reply.ngxPcalloc index)) 0 false
        modifications reply.injectData := by
  unfold Async.addModifications
  cases modifications with
  | nil =>
      cases reply.injectData with
      | nil => rfl
      | cons modification rest =>
          simp only [Async.linkNodes, Nginx.appendModifications]
          cases created :
              createModificationNode (reply.ngxPcalloc 0) modification with
          | none => rfl
          | some node =>
              simp only
              rw [Async.linkNodes_true _ _ (by simp),
                Nginx.appendModifications_eq_linkNodes]
              rfl
  | cons head tail =>
      cases reply.injectData with
      | nil => rfl
      | cons modification rest =>
          simp only [Async.linkNodes]
          cases createModificationNode (reply.ngxPcalloc 0) modification with
          | none => rfl
          | some node => rfl

end Links

/-- The allocations of a node succeed with a buffer block of these bytes, or
one of them fails. -/
def storeNode (blocks : Nat → Option (Nat → UInt8)) (index : Nat)
    (modification : HttpInjectData) : Option ModificationNode :=
  (blocks index).map fun block =>
    modification.nodeWith (modification.bufferBytes block)

/-- `handle_inject_response` on the bytes of a reply. -/
def Nano.injectFrom (malloc : Nat → Option (Nat → UInt8))
    (memory : ByteMemory) (injectData modificationCount : Nat)
    (modificationList : List ModificationNode) : List ModificationNode :=
  Nano.linkNodes (storeNode malloc) 0 modificationList
    (injectRecords memory injectData modificationCount)

/-- `ngx_pcalloc` clears the blocks that it hands out. -/
def clearedBlocks (ngxPcalloc : Nat → Bool) (index : Nat) :
    Option (Nat → UInt8) :=
  if ngxPcalloc index then some fun _ => 0 else none

/-- The inject branch of `ngx_http_cp_reply_receiver`. -/
def Nginx.injectFrom (ngxPcalloc : Nat → Bool) (memory : ByteMemory)
    (injectData modificationCount : Nat)
    (modificationList : List ModificationNode) :
    Option (List ModificationNode) :=
  Nginx.linkNodes (storeNode (clearedBlocks ngxPcalloc)) 0 modificationList
    (injectRecords memory injectData modificationCount)

/-- The inject branch of `ngx_cp_async_apply_verdict`. -/
def Async.injectFrom (ngxPcalloc : Nat → Bool) (memory : ByteMemory)
    (injectData modificationCount : Nat)
    (modifications : List ModificationNode) :
    Option (List ModificationNode) :=
  if 0 < modificationCount then
    Async.linkNodes (storeNode (clearedBlocks ngxPcalloc)) 0 false
      modifications (injectRecords memory injectData modificationCount)
  else
    some modifications

/-- The node with its buffer as a string. -/
def ModificationNode.asString (node : ModificationNode) : ModificationNode :=
  { node with modificationBuffer := node.modificationBuffer.takeWhile (· ≠ 0) }

theorem storeNode_asString (blocks : Nat → Option (Nat → UInt8))
    (index : Nat) (modification : HttpInjectData) :
    (storeNode blocks index modification).map ModificationNode.asString =
      createModificationNode (blocks index).isSome modification := by
  cases found : blocks index with
  | none => simp [storeNode, found, createModificationNode]
  | some block =>
      have string := modification.bufferBytes_string block
      simp only [storeNode, found, Option.map_some, ModificationNode.asString,
        HttpInjectData.nodeWith, string]
      rfl

theorem Nano.injectFrom_asString (malloc : Nat → Option (Nat → UInt8))
    (memory : ByteMemory) (injectData modificationCount : Nat)
    (modificationList : List ModificationNode) :
    (Nano.injectFrom malloc memory injectData modificationCount
        modificationList).map ModificationNode.asString =
      Nano.handleInjectResponse (fun index => (malloc index).isSome) 0
        (modificationList.map ModificationNode.asString)
        (injectRecords memory injectData modificationCount) := by
  rw [Nano.handleInjectResponse_eq_linkNodes]
  exact Nano.linkNodes_map (storeNode_asString malloc) 0 _ _

theorem Nginx.injectFrom_asString (ngxPcalloc : Nat → Bool)
    (memory : ByteMemory) (injectData modificationCount : Nat)
    (modificationList : List ModificationNode) :
    (Nginx.injectFrom ngxPcalloc memory injectData modificationCount
        modificationList).map (List.map ModificationNode.asString) =
      Nginx.appendModifications ngxPcalloc 0
        (modificationList.map ModificationNode.asString)
        (injectRecords memory injectData modificationCount) := by
  rw [Nginx.appendModifications_eq_linkNodes]
  apply Nginx.linkNodes_map
  intro index modification
  rw [storeNode_asString]
  cases allocated : ngxPcalloc index with
  | false => simp [clearedBlocks, allocated]
  | true => simp [clearedBlocks, allocated]

/-- The nano attachment appends just one record to an empty list, provided that
no zero byte is followed by another byte; the async branch of the nginx module
appends to an empty list only, and both branches there lose bytes behind a zero
byte that are not zero. -/
theorem inject_decoding_appends_iff {memory : ByteMemory} {injectData : Nat}
    {modifications : List HttpInjectData}
    (encodable : ∀ modification ∈ modifications, modification.Encodable)
    (packed : memory.Holds injectData
      (modifications.flatMap HttpInjectData.packed))
    (modificationList : List ModificationNode) :
    let appended :=
      modificationList ++ modifications.map HttpInjectData.decodedNode
    ((∀ blocks : Nat → Nat → UInt8,
      Nano.injectFrom (fun index => some (blocks index)) memory injectData
        modifications.length modificationList = appended) ↔
      modifications = [] ∨ modificationList = [] ∧
        ∃ modification, modifications = [modification] ∧
          modification.ZeroLast) ∧
    (Nginx.injectFrom (fun _ => true) memory injectData modifications.length
        modificationList = some appended ↔
      ∀ modification ∈ modifications, modification.ZerosTrail) ∧
    (Async.injectFrom (fun _ => true) memory injectData modifications.length
        modificationList = some appended ↔
      (modifications = [] ∨ modificationList = []) ∧
        ∀ modification ∈ modifications, modification.ZerosTrail) := by
  intro appended
  have walked := injectRecords_of_holds encodable packed
  have cleared : storeNode (clearedBlocks fun _ => true) =
      fun _ modification => some
        (modification.nodeWith (modification.bufferBytes fun _ => 0)) := by
    funext index modification
    simp [storeNode, clearedBlocks]
  have trailing : ∀ modification : HttpInjectData,
      modification.nodeWith (modification.bufferBytes fun _ => 0) =
          modification.decodedNode ↔ modification.ZerosTrail := by
    intro modification
    rw [HttpInjectData.nodeWith_eq_decodedNode_iff,
      modification.bufferBytes_zero_iff]
  refine ⟨?_, ?_, ?_⟩
  · have linked : ∀ blocks : Nat → Nat → UInt8,
        Nano.injectFrom (fun index => some (blocks index)) memory injectData
            modifications.length modificationList = appended ↔
          modifications = [] ∨ modificationList = [] ∧
            ∃ modification, modifications = [modification] ∧
              modification.bufferBytes (blocks 0) = modification.data := by
      intro blocks
      have stored : storeNode (fun index => some (blocks index)) =
          fun index modification => some
            (modification.nodeWith
              (modification.bufferBytes (blocks index))) :=
        rfl
      rw [Nano.injectFrom, walked, stored, Nano.linkNodes_eq_append_iff]
      simp only [HttpInjectData.nodeWith_eq_decodedNode_iff]
    simp only [linked, ← HttpInjectData.forall_bufferBytes_iff]
    constructor
    · intro always
      rcases always fun _ _ => 0 with none | ⟨noList, only, found, _⟩
      · exact Or.inl none
      · refine Or.inr ⟨noList, only, found, ?_⟩
        intro block
        rcases always fun _ => block with none | ⟨_, other, again, same⟩
        · rw [found] at none
          cases none
        · rw [found, List.cons.injEq] at again
          rw [again.1]
          exact same
    · rintro (none | ⟨noList, only, found, same⟩) blocks
      · exact Or.inl none
      · exact Or.inr ⟨noList, only, found, same (blocks 0)⟩
  · rw [Nginx.injectFrom, walked, cleared, Nginx.linkNodes_eq,
      Option.some.injEq, List.append_right_inj]
    simp only [List.map_inj_left, trailing]
  · rw [Async.injectFrom, walked, cleared]
    by_cases none : modifications = []
    · simp [none, appended]
    · rw [if_pos (List.length_pos_iff.mpr none), Async.linkNodes_eq_append_iff]
      simp only [trailing]

/-- A record of the packed layout. -/
def recordOf (data : List UInt8) : HttpInjectData where
  injectionPos := -1
  modType := .inject
  isHeader := 0
  origBuffIndex := 1
  data := data

/-- These bytes in memory, and zeros around them. -/
def memoryOf (bytes : List UInt8) : ByteMemory :=
  fun address => bytes.getD address 0

theorem memoryOf_holds (bytes : List UInt8) :
    (memoryOf bytes).Holds 0 bytes := by
  apply List.ext_getElem
  · simp
  intro index inRead inBytes
  simp [ByteMemory.read, memoryOf, inBytes]

theorem recordOf_encodable {data : List UInt8} (short : data.length < 2 ^ 16) :
    (recordOf data).Encodable where
  injectionPos := (by decide : (-1 : Int).bmod (2 ^ 64) = -1)
  injectionSize := short

theorem inject_decoding_appends_oneRecord :
    Nginx.injectFrom (fun _ => true) (memoryOf (recordOf [65, 0]).packed) 0 1
        [(recordOf [66]).decodedNode] =
      some [(recordOf [66]).decodedNode, (recordOf [65, 0]).decodedNode] := by
  have encodable : ∀ modification ∈ [recordOf [65, 0]],
      modification.Encodable := by
    simpa using recordOf_encodable (by decide)
  have packed : (memoryOf (recordOf [65, 0]).packed).Holds 0
      ([recordOf [65, 0]].flatMap HttpInjectData.packed) := by
    simpa using memoryOf_holds (recordOf [65, 0]).packed
  have appends := inject_decoding_appends_iff encodable packed
    [(recordOf [66]).decodedNode]
  apply appends.2.1.mpr
  intro modification member
  rw [List.mem_singleton.mp member]
  simp [HttpInjectData.ZerosTrail, recordOf]

/-- One more record empties a list of the nano attachment and crashes the async
branch; a zero byte inside the data clears what is behind it. -/
theorem inject_decoding_loses :
    Nano.injectFrom (fun _ => some fun _ => 0)
        (memoryOf (recordOf [65]).packed) 0 1 [(recordOf [66]).decodedNode] ≠
      [(recordOf [66]).decodedNode, (recordOf [65]).decodedNode] ∧
    Async.injectFrom (fun _ => true) (memoryOf (recordOf [65]).packed) 0 1
        [(recordOf [66]).decodedNode] ≠
      some [(recordOf [66]).decodedNode, (recordOf [65]).decodedNode] ∧
    Nginx.injectFrom (fun _ => true)
        (memoryOf (recordOf [65, 0, 66]).packed) 0 1 [] ≠
      some [(recordOf [65, 0, 66]).decodedNode] := by
  decide +kernel

end OpenAppsec
