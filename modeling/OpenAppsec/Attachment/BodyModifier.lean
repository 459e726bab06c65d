import OpenAppsec.Attachment.Replies
import OpenAppsec.Library.BackToFront
import OpenAppsec.Library.BubbleSort

/-!
# The body modifier of the nginx attachment

The modifications of a buffer are gathered from the list, sorted, applied from
the back to the front and released.  The list goes on behind the node that was
released last.
-/

namespace OpenAppsec.BodyModifier

open BubbleSort Insertions

/-- The bytes that are copied out of the buffer of a node, which is filled up
with zeros. -/
def injected (node : ModificationNode) : List UInt8 :=
  node.modificationBuffer.takeD node.injectionSize 0

/-- A pointer into the list is the place of the node, and `NULL` the length of
the list. -/
abbrev Entry := ModificationNode × Nat

/-- `MAX_MODIFICATIONS_PER_CHUNK`. -/
def maxModificationsPerChunk : Nat := 64

section List

/- The nodes of the list, as they were before any was released. -/
variable (modifications : List ModificationNode)

/-- The nodes from a place on that are for a buffer; `none` if one is read that
was released. -/
def gather (released : List Nat) (chunk : Nat) :
    Nat → Nat → Option (List Entry)
  | 0, place =>
      match modifications[place]? with
      | none => some []
      | some _ => if place ∈ released then none else some []
  | room + 1, place =>
      match modifications[place]? with
      | none => some []
      | some node =>
          if place ∈ released then none
          else if node.origBuffIndex.toNat ≠ chunk then some []
          else
            (gather released chunk room (place + 1)).map ((node, place) :: ·)

/-- The copy of a buffer with one modification: a position outside it is left
out, a negative one as well. -/
def applyModification (buffer : List UInt8) (entry : Entry) : List UInt8 :=
  if entry.1.injectionPos < 0 ∨ buffer.length < entry.1.injectionPos then
    buffer
  else
    insertAt buffer
      { pos := entry.1.injectionPos.toNat, data := injected entry.1 }

/-- The modifications of a buffer in the order in which they are applied. -/
def sortDescending (entries : List Entry) : List Entry :=
  sort (fun entry : Entry => entry.1.injectionPos) entries

/-- The nodes are released in turn, and the list goes on behind each. -/
def nextModification (entries : List Entry) (cursor : Nat) : Nat :=
  entries.foldl (fun _ entry => entry.2 + 1) cursor

/-- The loop of `ngx_http_cp_body_modifier` from a buffer on, with the place of
the list and the released nodes: the buffers and all released nodes, if no node
is read after its release.  Every allocation succeeds. -/
def bodyModifier : Nat → List (List UInt8) → Nat → List Nat →
    Option (List (List UInt8) × List Nat)
  | _, [], _, released => some ([], released)
  | chunk, buffer :: chain, cursor, released =>
      if modifications.length ≤ cursor then some (buffer :: chain, released)
      else if buffer = [] then
        (bodyModifier (chunk + 1) chain cursor released).map
          (Prod.map (buffer :: ·) id)
      else
        match gather modifications released chunk maxModificationsPerChunk
            cursor with
        | none => none
        | some [] =>
            (bodyModifier (chunk + 1) chain cursor released).map
              (Prod.map (buffer :: ·) id)
        | some (entry :: entries) =>
            let sorted := sortDescending (entry :: entries)
            (bodyModifier (chunk + 1) chain (nextModification sorted cursor)
                (released ++ sorted.map Prod.snd)).map
              (Prod.map (sorted.foldl applyModification buffer :: ·) id)

end List

/-- `ngx_http_cp_body_modifier`. -/
def ngxHttpCpBodyModifier (chain : List (List UInt8))
    (modifications : List ModificationNode) :
    Option (List (List UInt8) × List Nat) :=
  bodyModifier modifications 0 chain 0 []

/-- The modifications of a buffer. -/
def group (modifications : List ModificationNode) (chunk : Nat) :
    List ModificationNode :=
  modifications.filter fun node => node.origBuffIndex.toNat = chunk

def insertion (node : ModificationNode) : Insertion UInt8 :=
  { pos := node.injectionPos.toNat, data := injected node }

/-- The buffers from one on, each with all its injections at their original
positions. -/
def modified (modifications : List ModificationNode) (chunk : Nat)
    (chain : List (List UInt8)) : List (List UInt8) :=
  (chain.zipIdx chunk).map fun buffer =>
    interleave ((group modifications buffer.2).map insertion) buffer.1

/-- The buffers are as expected, and of the nodes the first ones were applied
and released once. -/
def AppliesFirst (count : Nat) (expected : List (List UInt8))
    (result : Option (List (List UInt8) × List Nat)) : Prop :=
  ∃ released, result = some (expected, released) ∧
    released.Perm (List.range count)

/-- Each buffer has its injections, and each node was released once. -/
def AppliesOnce (modifications : List ModificationNode)
    (expected : List (List UInt8))
    (result : Option (List (List UInt8) × List Nat)) : Prop :=
  AppliesFirst modifications.length expected result

/-- A modification has a position in its buffer. -/
def InRange (chunk : Nat) (chain : List (List UInt8))
    (node : ModificationNode) : Prop :=
  chunk ≤ node.origBuffIndex.toNat ∧
    ∃ buffer, chain[node.origBuffIndex.toNat - chunk]? = some buffer ∧
      0 ≤ node.injectionPos ∧ node.injectionPos ≤ buffer.length

/-- The modifications of a list come in the order of their buffers, and each
has a position there. -/
structure WellFormed (chain : List (List UInt8))
    (modifications : List ModificationNode) : Prop where
  ordered : modifications.Pairwise fun first second =>
    first.origBuffIndex ≤ second.origBuffIndex
  inRange : ∀ node ∈ modifications, InRange 0 chain node

/-- No modification of a buffer is in front of the last one of the list. -/
def LastLowest (nodes : List ModificationNode) : Prop :=
  ∀ last ∈ nodes.getLast?, ∀ node ∈ nodes,
    last.injectionPos ≤ node.injectionPos

/-- What the modifier needs to apply the modifications of a buffer, with the
buffers behind it.  Those at one position come out backwards. -/
structure Applicable (nodes : List ModificationNode) (buffer : List UInt8)
    (later : List (List UInt8)) : Prop where
  filled : buffer ≠ []
  few : nodes.length ≤ maxModificationsPerChunk
  reversible : ∀ pos, dataAt (nodes.map insertion).reverse pos =
    dataAt (nodes.map insertion) pos
  reaches : LastLowest nodes ∨ ∀ other ∈ later, other = []

/-- The modifier can apply what is for the buffers from one on. -/
def AllApplicable (rest : List ModificationNode) (chunk : Nat)
    (chain : List (List UInt8)) : Prop :=
  ∀ index buffer, chain[index]? = some buffer →
    group rest (chunk + index) ≠ [] →
      Applicable (group rest (chunk + index)) buffer (chain.drop (index + 1))

/-- The node behind these modifications is not taken for one of a buffer: the
buffer of its number is empty or has no room for it, or is passed before. -/
def Spared (rest : List ModificationNode) (chunk : Nat)
    (chain : List (List UInt8)) (node : ModificationNode) : Prop :=
  ∀ index buffer, chain[index]? = some buffer →
    node.origBuffIndex.toNat = chunk + index → buffer = [] ∨
      maxModificationsPerChunk ≤ (group rest (chunk + index)).length ∨
      ∃ other ∈ rest, chunk + index < other.origBuffIndex.toNat

section Gather

variable {modifications nodes later : List ModificationNode}
  {released : List Nat} {chunk place : Nat}

theorem getElem?_of_drop {node : ModificationNode}
    (rest : modifications.drop place = node :: later) :
    modifications[place]? = some node ∧
      modifications.drop (place + 1) = later := by
  constructor
  · have first : (modifications.drop place)[0]? = some node := by
      rw [rest]
      rfl
    rwa [List.getElem?_drop, Nat.add_zero] at first
  · rw [← List.tail_drop, rest]
    rfl

theorem gather_eq {room : Nat}
    (rest : modifications.drop place = nodes ++ later)
    (here : ∀ node ∈ nodes, node.origBuffIndex.toNat = chunk)
    (behind : nodes.length < room →
      ∀ node ∈ later.head?, node.origBuffIndex.toNat ≠ chunk)
    (fresh : ∀ other ∈ released, other < place) :
    gather modifications released chunk room place =
      some ((nodes.take room).zipIdx place) := by
  have kept : place ∉ released :=
    fun member => Nat.lt_irrefl place (fresh place member)
  induction nodes generalizing place room with
  | nil =>
      cases later with
      | nil =>
          have last : modifications[place]? = none := by
            rw [List.getElem?_eq_none_iff]
            exact List.drop_eq_nil_iff.mp rest
          cases room with
          | zero => simp [gather, last]
          | succ room => simp [gather, last]
      | cons node later =>
          have read := (getElem?_of_drop rest).1
          cases room with
          | zero => simp [gather, read, kept]
          | succ room =>
              have other := behind (Nat.succ_pos room) node rfl
              simp [gather, read, kept, other]
  | cons node nodes induction =>
      obtain ⟨read, rest⟩ := getElem?_of_drop rest
      obtain ⟨own, here⟩ := List.forall_mem_cons.mp here
      cases room with
      | zero => simp [gather, read, kept]
      | succ room =>
          have freshNext : ∀ other ∈ released, other < place + 1 :=
            fun other member => Nat.lt_succ_of_lt (fresh other member)
          have next := @induction (place + 1) room rest here
            (fun short => behind (Nat.succ_lt_succ short)) freshNext
            fun member => Nat.lt_irrefl _ (freshNext _ member)
          simp [gather, read, kept, own, next]

theorem bodyModifier_stuck {cursor : Nat} {node : ModificationNode}
    (read : modifications[cursor]? = some node)
    (early : node.origBuffIndex.toNat < chunk) (kept : cursor ∉ released)
    (chain : List (List UInt8)) :
    bodyModifier modifications chunk chain cursor released =
      some (chain, released) := by
  obtain ⟨inside, -⟩ := List.getElem?_eq_some_iff.mp read
  induction chain generalizing chunk with
  | nil => rfl
  | cons buffer chain induction =>
      have rest := @induction (chunk + 1) (Nat.lt_succ_of_lt early)
      have gathered : gather modifications released chunk
          maxModificationsPerChunk cursor = some [] := by
        have other : node.origBuffIndex.toNat ≠ chunk := Nat.ne_of_lt early
        simp [gather, maxModificationsPerChunk, read, kept, other]
      rw [bodyModifier, if_neg (Nat.not_le.mpr inside), gathered]
      simp [rest]

/-- Behind a released node only empty buffers pass. -/
theorem bodyModifier_released {cursor : Nat}
    (inside : cursor < modifications.length) (gone : cursor ∈ released)
    (chain : List (List UInt8)) :
    ((∀ buffer ∈ chain, buffer = []) →
        bodyModifier modifications chunk chain cursor released =
          some (chain, released)) ∧
      ((¬∀ buffer ∈ chain, buffer = []) →
        bodyModifier modifications chunk chain cursor released = none) := by
  have read := List.getElem?_eq_getElem inside
  induction chain generalizing chunk with
  | nil => exact ⟨fun _ => rfl, fun filled => absurd nofun filled⟩
  | cons buffer chain induction =>
      obtain ⟨passes, fails⟩ := @induction (chunk + 1)
      rw [bodyModifier, if_neg (Nat.not_le.mpr inside)]
      by_cases empty : buffer = []
      · rw [if_pos empty, List.forall_mem_cons]
        constructor
        · intro all
          simp [passes all.2]
        · intro filled
          have rest : ¬∀ buffer ∈ chain, buffer = [] :=
            fun all => filled ⟨empty, all⟩
          simp [fails rest]
      · have gathered : gather modifications released chunk
            maxModificationsPerChunk cursor = none := by
          simp [gather, maxModificationsPerChunk, read, gone]
        rw [if_neg empty, gathered, List.forall_mem_cons]
        exact ⟨fun all => absurd all.1 empty, fun _ => rfl⟩

end Gather

section Group

variable {nodes : List ModificationNode} {cursor : Nat}

theorem sorted_places (nodes : List ModificationNode) (cursor : Nat) :
    ((sortDescending (nodes.zipIdx cursor)).map Prod.snd).Perm
      (List.range' cursor nodes.length) := by
  have perm := (@sort_perm Entry Int _ (fun entry => entry.1.injectionPos)
    (nodes.zipIdx cursor)).map Prod.snd
  rw [List.zipIdx_map_snd] at perm
  exact perm

theorem foldl_applyModification {entries : List Entry}
    {buffer : List UInt8}
    (inside : ∀ entry ∈ entries, 0 ≤ entry.1.injectionPos ∧
      entry.1.injectionPos ≤ buffer.length) :
    entries.foldl applyModification buffer =
      (entries.map fun entry => insertion entry.1).foldl insertAt buffer := by
  induction entries generalizing buffer with
  | nil => rfl
  | cons entry entries induction =>
      obtain ⟨⟨positive, within⟩, rest⟩ := List.forall_mem_cons.mp inside
      have outside : ¬(entry.1.injectionPos < 0 ∨
          (buffer.length : Int) < entry.1.injectionPos) := by
        omega
      have applied : applyModification buffer entry =
          insertAt buffer (insertion entry.1) := if_neg outside
      have grown : buffer.length ≤
          (insertAt buffer (insertion entry.1)).length := by
        simp only [insertAt, List.length_append, List.length_take,
          List.length_drop]
        omega
      rw [List.foldl_cons, List.map_cons, List.foldl_cons, applied]
      apply induction
      intro other member
      have := rest other member
      omega

theorem dataAt_sorted
    (positive : ∀ node ∈ nodes, 0 ≤ node.injectionPos) (pos : Nat) :
    dataAt ((sortDescending (nodes.zipIdx cursor)).map fun entry =>
        insertion entry.1).reverse pos =
      dataAt (nodes.map insertion).reverse pos := by
  have same (entries : List Entry)
      (positive : ∀ entry ∈ entries, 0 ≤ entry.1.injectionPos) :
      (entries.map fun entry => insertion entry.1).filter
          (fun insertion => insertion.pos = pos) =
        (entries.filter fun entry : Entry =>
            entry.1.injectionPos = (pos : Int)).map
          fun entry => insertion entry.1 := by
    rw [List.filter_map]
    congr 1
    apply List.filter_congr
    intro entry member
    have := positive entry member
    have inserted : (insertion entry.1).pos = entry.1.injectionPos.toNat := rfl
    simp only [Function.comp_apply, inserted, decide_eq_decide]
    omega
  have positiveEntries : ∀ entry ∈ nodes.zipIdx cursor,
      0 ≤ entry.1.injectionPos :=
    fun entry member => positive entry.1 (List.fst_mem_of_mem_zipIdx member)
  have positiveSorted : ∀ entry ∈ sortDescending (nodes.zipIdx cursor),
      0 ≤ entry.1.injectionPos :=
    fun entry member =>
      positiveEntries entry ((sort_perm _).mem_iff.mp member)
  have unsorted : nodes.map insertion =
      (nodes.zipIdx cursor).map fun entry => insertion entry.1 := by
    conv_lhs => rw [← List.zipIdx_map_fst cursor nodes]
    rw [List.map_map]
    rfl
  unfold dataAt
  rw [unsorted, List.filter_reverse, List.filter_reverse,
    same _ positiveEntries, same _ positiveSorted, sortDescending,
    sort_filter]

theorem foldl_sorted {buffer : List UInt8}
    (inside : ∀ node ∈ nodes, 0 ≤ node.injectionPos ∧
      node.injectionPos ≤ buffer.length) :
    (sortDescending (nodes.zipIdx cursor)).foldl applyModification buffer =
      interleave (nodes.map insertion).reverse buffer := by
  have insideSorted : ∀ entry ∈ sortDescending (nodes.zipIdx cursor),
      0 ≤ entry.1.injectionPos ∧ entry.1.injectionPos ≤ buffer.length := by
    intro entry member
    have unsorted := (sort_perm _).mem_iff.mp member
    exact inside entry.1 (List.fst_mem_of_mem_zipIdx unsorted)
  have downwards : ((sortDescending (nodes.zipIdx cursor)).map fun entry =>
      insertion entry.1).Pairwise fun first second =>
        second.pos ≤ first.pos := by
    rw [List.pairwise_map]
    apply (sort_descending (nodes.zipIdx cursor)).imp
    intro first second lower
    exact Int.toNat_le_toNat lower
  rw [foldl_applyModification insideSorted, foldl_insertAt downwards]
  · have same := @dataAt_sorted nodes cursor
      fun node member => (inside node member).1
    rw [interleave, interleave, same]
    rw [weave_congr fun index _ => same index]
  · intro other member
    obtain ⟨entry, sorted, rfl⟩ := List.mem_map.mp member
    exact Int.toNat_le.mpr (insideSorted entry sorted).2

theorem foldl_sorted_eq_iff {buffer : List UInt8}
    (inside : ∀ node ∈ nodes, 0 ≤ node.injectionPos ∧
      node.injectionPos ≤ buffer.length) :
    (sortDescending (nodes.zipIdx cursor)).foldl applyModification buffer =
        interleave (nodes.map insertion) buffer ↔
      ∀ pos, dataAt (nodes.map insertion).reverse pos =
        dataAt (nodes.map insertion) pos := by
  have sizes (pos : Nat) :
      (dataAt (nodes.map insertion).reverse pos).length =
        (dataAt (nodes.map insertion) pos).length := by
    rw [dataAt, dataAt, List.filter_reverse]
    exact ((List.reverse_perm _).flatMap_right _).length_eq
  have outside {pos : Nat} (above : buffer.length < pos) :
      dataAt (nodes.map insertion) pos = [] := by
    apply dataAt_eq_nil
    intro other member here
    obtain ⟨node, among, rfl⟩ := List.mem_map.mp member
    have within := (inside node among).2
    have inserted : node.injectionPos.toNat = pos := here
    omega
  rw [foldl_sorted inside, interleave_eq_interleave_iff sizes]
  constructor
  · intro same pos
    by_cases within : pos ≤ buffer.length
    · exact same pos within
    · have empty := outside (Nat.lt_of_not_le within)
      have length := sizes pos
      rw [empty, List.length_nil] at length
      rw [empty, List.eq_nil_of_length_eq_zero length]
  · exact fun same pos _ => same pos

/-- The node that is released last is the last one of the lowest position. -/
theorem nextModification_spec (filled : nodes ≠ []) :
    cursor < nextModification (sortDescending (nodes.zipIdx cursor)) cursor ∧
      nextModification (sortDescending (nodes.zipIdx cursor)) cursor ≤
        cursor + nodes.length ∧
      (nextModification (sortDescending (nodes.zipIdx cursor)) cursor =
        cursor + nodes.length ↔ LastLowest nodes) := by
  obtain ⟨front, last, rfl⟩ :=
    (List.eq_nil_or_concat' nodes).resolve_left filled
  have entries : (front ++ [last]).zipIdx cursor =
      front.zipIdx cursor ++ [(last, cursor + front.length)] := by
    rw [List.zipIdx_append]
    rfl
  have perm := @sort_perm Entry Int _ (fun entry => entry.1.injectionPos)
    ((front ++ [last]).zipIdx cursor)
  rcases List.eq_nil_or_concat' (sortDescending ((front ++ [last]).zipIdx
      cursor)) with empty | ⟨rest, final, sorted⟩
  · rw [sortDescending] at empty
    rw [empty, entries] at perm
    exact absurd perm.length_eq (by simp)
  have next : nextModification (sortDescending ((front ++ [last]).zipIdx
      cursor)) cursor = final.2 + 1 := by
    rw [sorted, nextModification, List.foldl_append]
    rfl
  obtain ⟨lowest, lastOf⟩ := sort_last sorted
  have member : final ∈ (front ++ [last]).zipIdx cursor := by
    apply perm.mem_iff.mp
    rw [← sortDescending, sorted]
    simp
  obtain ⟨from_, upTo, -⟩ := List.mem_zipIdx member
  rw [next]
  refine ⟨by omega, by omega, ?_⟩
  rw [List.length_append, List.length_singleton, LastLowest,
    List.getLast?_concat]
  simp only [Option.mem_def, Option.some.injEq, forall_eq']
  constructor
  · intro ends
    have final_eq : final = (last, cursor + front.length) := by
      rw [entries, List.mem_append] at member
      rcases member with early | same
      · obtain ⟨-, short, -⟩ := List.mem_zipIdx early
        omega
      · exact List.mem_singleton.mp same
    intro node among
    have some_place : ∃ place, (node, place) ∈
        (front ++ [last]).zipIdx cursor := by
      rw [← List.zipIdx_map_fst cursor (front ++ [last])] at among
      obtain ⟨entry, listed, rfl⟩ := List.mem_map.mp among
      exact ⟨entry.2, listed⟩
    obtain ⟨place, among⟩ := some_place
    have lower := lowest _ among
    rw [final_eq] at lower
    exact lower
  · intro low
    have value : last.injectionPos = final.1.injectionPos := by
      apply Int.le_antisymm
      · exact low final.1 (List.fst_mem_of_mem_zipIdx member)
      · have ending : (last, cursor + front.length) ∈
            (front ++ [last]).zipIdx cursor := by
          rw [entries]
          simp
        exact lowest _ ending
    rw [entries, List.filter_append, List.filter_singleton] at lastOf
    simp only [value, decide_true, cond_true, List.getLast?_concat,
      Option.some.injEq] at lastOf
    rw [← lastOf, Nat.add_assoc]

end Group

end OpenAppsec.BodyModifier
