import Mathlib.Data.List.TakeWhile
import OpenAppsec.Attachment.BodyModifier

/-!
# The bodies that the body modifier leaves

Exactly when the modifier applies the modifications of all buffers, and of
a longer list only those: the released nodes are always the first ones, and
the list is read on behind them or not at all.
-/

namespace OpenAppsec.BodyModifier

open BubbleSort Insertions

section Chain

variable {modifications : List ModificationNode}

variable {expected buffers : List (List UInt8)} {node : ModificationNode}
variable {count : Nat}

theorem appliesFirst_cons {buffer other : List UInt8}
    {result : Option (List (List UInt8) × List Nat)} :
    AppliesFirst count (other :: expected)
        (result.map (Prod.map (buffer :: ·) id)) ↔
      buffer = other ∧ AppliesFirst count expected result := by
  rcases result with - | ⟨buffers, released⟩
  · simp [AppliesFirst]
  · simp only [AppliesFirst, Option.map_some, Prod.map, id, Option.some.injEq,
      Prod.mk.injEq, List.cons.injEq]
    constructor
    · rintro ⟨_, ⟨⟨rfl, rfl⟩, rfl⟩, perm⟩
      exact ⟨rfl, _, ⟨rfl, rfl⟩, perm⟩
    · rintro ⟨rfl, _, ⟨rfl, rfl⟩, perm⟩
      exact ⟨_, ⟨⟨rfl, rfl⟩, rfl⟩, perm⟩

theorem not_appliesFirst {place : Nat} {released : List Nat}
    (inside : place < count) (kept : place ∉ released) :
    ¬AppliesFirst count expected (some (buffers, released)) := by
  rintro ⟨all, same, perm⟩
  obtain ⟨-, rfl⟩ := Prod.mk.inj (Option.some.inj same)
  exact kept (perm.mem_iff.mpr (List.mem_range.mpr inside))

/-- The nodes from a place on are for these buffers, up to the last nodes of
the list, and all nodes before were released once. -/
structure Remaining (modifications last : List ModificationNode) (chunk : Nat)
    (chain : List (List UInt8)) (cursor : Nat) (released : List Nat)
    (rest : List ModificationNode) : Prop where
  suffix : modifications.drop cursor = rest ++ last
  reached : cursor ≤ modifications.length
  released : released.Perm (List.range cursor)
  ordered : rest.Pairwise fun first second =>
    first.origBuffIndex ≤ second.origBuffIndex
  inRange : ∀ node ∈ rest, InRange chunk chain node

variable {last : List ModificationNode} {chunk cursor : Nat}
  {chain : List (List UInt8)} {buffer : List UInt8} {released : List Nat}
  {rest : List ModificationNode}

theorem Remaining.length (remaining :
      Remaining modifications last chunk chain cursor released rest) :
    cursor + rest.length + last.length = modifications.length := by
  have reached := remaining.reached
  have length := congrArg List.length remaining.suffix
  rw [List.length_drop, List.length_append] at length
  omega

theorem Remaining.fresh (remaining :
      Remaining modifications last chunk chain cursor released rest) :
    ∀ place ∈ released, place < cursor :=
  fun _ member => List.mem_range.mp (remaining.released.mem_iff.mp member)

variable (remaining : Remaining modifications last chunk (buffer :: chain)
  cursor released rest)

include remaining in
/-- The nodes of the first buffer come before the others. -/
theorem Remaining.split :
    ∃ later, rest = group rest chunk ++ later ∧
      (∀ node ∈ group rest chunk, 0 ≤ node.injectionPos ∧
        node.injectionPos ≤ buffer.length) ∧
      (∀ node ∈ later, InRange (chunk + 1) chain node) ∧
      ∀ other, chunk < other → group rest other = group later other := by
  have ordered := remaining.ordered
  have inRange := remaining.inRange
  clear remaining
  induction rest with
  | nil => exact ⟨[], rfl, nofun, nofun, fun _ _ => rfl⟩
  | cons node rest induction =>
      obtain ⟨first, ordered⟩ := List.pairwise_cons.mp ordered
      obtain ⟨here, inRange⟩ := List.forall_mem_cons.mp inRange
      obtain ⟨from_, own, found, position⟩ := here
      by_cases same : node.origBuffIndex.toNat = chunk
      · obtain ⟨later, split, inside, behind, groups⟩ :=
          induction ordered inRange
        have grouped : group (node :: rest) chunk =
            node :: group rest chunk := by
          simp [group, same]
        rw [same, Nat.sub_self, List.getElem?_cons_zero] at found
        obtain rfl := Option.some.inj found
        refine ⟨later, ?_, ?_, behind, ?_⟩
        · rw [grouped, List.cons_append, ← split]
        · rw [grouped]
          exact List.forall_mem_cons.mpr ⟨position, inside⟩
        · intro other above
          rw [← groups other above]
          have different : node.origBuffIndex.toNat ≠ other := by
            omega
          simp [group, different]
      · have behind : ∀ other ∈ node :: rest,
            InRange (chunk + 1) chain other := by
          have above : ∀ other ∈ node :: rest,
              chunk < other.origBuffIndex.toNat := by
            intro other member
            rcases List.mem_cons.mp member with rfl | member
            · omega
            · have order : node.origBuffIndex.toNat ≤
                  other.origBuffIndex.toNat := first other member
              omega
          intro other member
          have far := above other member
          obtain ⟨-, own, found, position⟩ :=
            List.forall_mem_cons.mpr ⟨⟨from_, own, found, position⟩, inRange⟩
              other member
          have shifted : other.origBuffIndex.toNat - chunk =
              other.origBuffIndex.toNat - (chunk + 1) + 1 := by
            omega
          rw [shifted, List.getElem?_cons_succ] at found
          exact ⟨far, own, found, position⟩
        have empty : group (node :: rest) chunk = [] := by
          rw [group, List.filter_eq_nil_iff]
          intro other member
          have far := (behind other member).1
          simp only [decide_eq_true_eq]
          omega
        rw [empty]
        exact ⟨node :: rest, rfl, nofun, behind, fun _ _ => rfl⟩

theorem modified_cons (rest : List ModificationNode) (chunk : Nat)
    (buffer : List UInt8) (chain : List (List UInt8)) :
    modified rest chunk (buffer :: chain) =
      interleave ((group rest chunk).map insertion) buffer ::
        modified rest (chunk + 1) chain := by
  simp [modified]

theorem modified_congr {first second : List ModificationNode} {chunk : Nat}
    (same : ∀ other, chunk ≤ other → group first other = group second other)
    (chain : List (List UInt8)) :
    modified first chunk chain = modified second chunk chain := by
  induction chain generalizing chunk with
  | nil => rfl
  | cons buffer chain induction =>
      rw [modified_cons, modified_cons, same chunk (Nat.le_refl chunk)]
      rw [induction fun other above => same other (Nat.le_of_succ_le above)]

theorem allApplicable_cons {rest : List ModificationNode} {chunk : Nat} :
    AllApplicable rest chunk (buffer :: chain) ↔
      (group rest chunk ≠ [] →
        Applicable (group rest chunk) buffer chain) ∧
      AllApplicable rest (chunk + 1) chain := by
  constructor
  · intro all
    refine ⟨all 0 buffer rfl, ?_⟩
    intro index other found
    have shifted : chunk + 1 + index = chunk + (index + 1) := by
      omega
    rw [shifted]
    exact all (index + 1) other found
  · rintro ⟨first, later⟩ index other found
    cases index with
    | zero =>
        obtain rfl := Option.some.inj found
        exact first
    | succ index =>
        have shifted : chunk + (index + 1) = chunk + 1 + index := by
          omega
        rw [shifted]
        exact later index other found

theorem allApplicable_congr {first second : List ModificationNode}
    {chunk : Nat}
    (same : ∀ other, chunk ≤ other → group first other = group second other)
    (chain : List (List UInt8)) :
    AllApplicable first chunk chain ↔ AllApplicable second chunk chain := by
  constructor
  · intro all index buffer found
    rw [← same (chunk + index) (Nat.le_add_right chunk index)]
    exact all index buffer found
  · intro all index buffer found
    rw [same (chunk + index) (Nat.le_add_right chunk index)]
    exact all index buffer found

theorem modified_nil (chunk : Nat) (chain : List (List UInt8)) :
    modified [] chunk chain = chain := by
  induction chain generalizing chunk with
  | nil => rfl
  | cons buffer chain induction =>
      rw [modified_cons, induction]
      simp [group]

theorem allApplicable_nil (chunk : Nat) (chain : List (List UInt8)) :
    AllApplicable [] chunk chain :=
  fun _ _ _ filled => absurd rfl filled

include remaining in
theorem Remaining.skip (empty : group rest chunk = []) :
    Remaining modifications last (chunk + 1) chain cursor released rest := by
  obtain ⟨later, split, -, behind, -⟩ := remaining.split
  rw [empty, List.nil_append] at split
  rw [← split] at behind
  exact { remaining with inRange := behind }

include remaining in
/-- The state behind a buffer whose modifications were all applied, with the
list going on behind the last of them. -/
theorem Remaining.apply {later : List ModificationNode} {places : List Nat}
    (split : rest = group rest chunk ++ later)
    (behind : ∀ node ∈ later, InRange (chunk + 1) chain node)
    (perm : places.Perm (List.range' cursor (group rest chunk).length)) :
    Remaining modifications last (chunk + 1) chain
      (cursor + (group rest chunk).length) (released ++ places) later where
  suffix := by
    rw [← List.drop_drop, remaining.suffix]
    calc
      (rest ++ last).drop (group rest chunk).length =
          (group rest chunk ++ (later ++ last)).drop
            (group rest chunk).length := by
        rw [← List.append_assoc, ← split]
      _ = later ++ last := List.drop_left
  reached := by
    have length := remaining.length
    have parts := congrArg List.length split
    rw [List.length_append] at parts
    omega
  released := by
    rw [List.range_add, ← List.range'_eq_map_range]
    exact remaining.released.append perm
  ordered := by
    have ordered := remaining.ordered
    rw [split] at ordered
    exact (List.pairwise_append.mp ordered).2.1
  inRange := behind

theorem own_of_mem_group (member : node ∈ group rest chunk) :
    node.origBuffIndex.toNat = chunk := by
  simpa using (List.mem_filter.mp member).2

theorem Remaining.not_appliesFirst_of_empty
    (remaining : Remaining modifications last chunk ([] :: chain) cursor
      released rest) (filled : group rest chunk ≠ []) :
    ¬AppliesFirst (cursor + rest.length) expected
      (bodyModifier modifications chunk ([] :: chain) cursor released) := by
  obtain ⟨later, split, -⟩ := remaining.split
  obtain ⟨node, nodes, first⟩ := List.exists_cons_of_ne_nil filled
  have own : node.origBuffIndex.toNat = chunk := by
    have member : node ∈ group rest chunk := by
      rw [first]
      exact List.mem_cons_self
    exact own_of_mem_group member
  have more : 0 < rest.length := by
    rw [split, first]
    simp
  have suffix := remaining.suffix
  rw [split, first] at suffix
  obtain ⟨read, -⟩ := getElem?_of_drop suffix
  obtain ⟨inside, -⟩ := List.getElem?_eq_some_iff.mp read
  have kept : cursor ∉ released :=
    fun member => Nat.lt_irrefl cursor (remaining.fresh cursor member)
  rw [bodyModifier, if_neg (Nat.not_le.mpr inside), if_pos rfl,
    bodyModifier_stuck read (by omega) kept]
  exact not_appliesFirst (by omega) kept

theorem bodyModifier_of_gather {nodes : List ModificationNode}
    (inside : cursor < modifications.length) (filled : buffer ≠ [])
    (gathered : gather modifications released chunk maxModificationsPerChunk
      cursor = some (nodes.zipIdx cursor)) :
    (nodes = [] →
      bodyModifier modifications chunk (buffer :: chain) cursor released =
        (bodyModifier modifications (chunk + 1) chain cursor released).map
          (Prod.map (buffer :: ·) id)) ∧
      (nodes ≠ [] →
        bodyModifier modifications chunk (buffer :: chain) cursor released =
          (bodyModifier modifications (chunk + 1) chain
            (nextModification (sortDescending (nodes.zipIdx cursor)) cursor)
            (released ++
              (sortDescending (nodes.zipIdx cursor)).map Prod.snd)).map
            (Prod.map ((sortDescending (nodes.zipIdx cursor)).foldl
              applyModification buffer :: ·) id)) := by
  rw [bodyModifier, if_neg (Nat.not_le.mpr inside), if_neg filled, gathered]
  constructor
  · rintro rfl
    rfl
  · intro some_
    obtain ⟨node, nodes, rfl⟩ := List.exists_cons_of_ne_nil some_
    simp only [List.zipIdx_cons]

theorem bodyModifier_keeps {final : List Nat}
    (result : bodyModifier modifications chunk chain cursor released =
      some (buffers, final)) :
    ∀ place ∈ released, place ∈ final := by
  induction chain generalizing chunk cursor released buffers with
  | nil =>
      obtain ⟨-, rfl⟩ := Prod.mk.inj (Option.some.inj result)
      exact fun _ member => member
  | cons buffer chain induction =>
      rw [bodyModifier] at result
      split_ifs at result
      · obtain ⟨-, rfl⟩ := Prod.mk.inj (Option.some.inj result)
        exact fun _ member => member
      · obtain ⟨⟨_, _⟩, later, same⟩ := Option.map_eq_some_iff.mp result
        obtain ⟨-, rfl⟩ := Prod.mk.inj same
        exact induction later
      · split at result
        · exact absurd result (by simp)
        · obtain ⟨⟨_, _⟩, later, same⟩ := Option.map_eq_some_iff.mp result
          obtain ⟨-, rfl⟩ := Prod.mk.inj same
          exact induction later
        · obtain ⟨⟨_, _⟩, later, same⟩ := Option.map_eq_some_iff.mp result
          obtain ⟨-, rfl⟩ := Prod.mk.inj same
          exact fun place member =>
            induction later place (List.mem_append_left _ member)

theorem gather_consecutive {room place : Nat} {entries : List Entry}
    (gathered : gather modifications released chunk room place =
      some entries) :
    ∃ nodes, entries = nodes.zipIdx place ∧
      (nodes ≠ [] → place ∉ released ∧
        place + nodes.length ≤ modifications.length) := by
  induction room generalizing place entries with
  | zero =>
      rw [gather] at gathered
      split at gathered
      · exact ⟨[], (Option.some.inj gathered).symm, by simp⟩
      · split_ifs at gathered
        exact ⟨[], (Option.some.inj gathered).symm, by simp⟩
  | succ room induction =>
      rw [gather] at gathered
      split at gathered
      · exact ⟨[], (Option.some.inj gathered).symm, by simp⟩
      · rename_i node read
        obtain ⟨inside, -⟩ := List.getElem?_eq_some_iff.mp read
        split_ifs at gathered with gone other
        · exact ⟨[], (Option.some.inj gathered).symm, by simp⟩
        · obtain ⟨later, rest, rfl⟩ := Option.map_eq_some_iff.mp gathered
          obtain ⟨nodes, rfl, within⟩ := induction rest
          refine ⟨node :: nodes, by simp, fun _ => ⟨gone, ?_⟩⟩
          rw [List.length_cons]
          by_cases empty : nodes = []
          · rw [empty, List.length_nil]
            omega
          · have := (within empty).2
            omega

theorem bodyModifier_first {final : List Nat}
    (first : released.Perm (List.range count)) (reached : cursor ≤ count)
    (inside : count ≤ modifications.length)
    (result : bodyModifier modifications chunk chain cursor released =
      some (buffers, final)) :
    ∃ count ≤ modifications.length, final.Perm (List.range count) := by
  induction chain generalizing chunk cursor released count buffers with
  | nil =>
      obtain ⟨-, rfl⟩ := Prod.mk.inj (Option.some.inj result)
      exact ⟨count, inside, first⟩
  | cons buffer chain induction =>
      rw [bodyModifier] at result
      split_ifs at result
      · obtain ⟨-, rfl⟩ := Prod.mk.inj (Option.some.inj result)
        exact ⟨count, inside, first⟩
      · obtain ⟨⟨_, _⟩, later, same⟩ := Option.map_eq_some_iff.mp result
        obtain ⟨-, rfl⟩ := Prod.mk.inj same
        exact induction first reached inside later
      · split at result
        · exact absurd result (by simp)
        · obtain ⟨⟨_, _⟩, later, same⟩ := Option.map_eq_some_iff.mp result
          obtain ⟨-, rfl⟩ := Prod.mk.inj same
          exact induction first reached inside later
        · rename_i entry entries gathered
          obtain ⟨⟨_, _⟩, later, same⟩ := Option.map_eq_some_iff.mp result
          obtain ⟨-, rfl⟩ := Prod.mk.inj same
          obtain ⟨nodes, shape, within⟩ := gather_consecutive gathered
          have some_ : nodes ≠ [] := by
            rintro rfl
            exact absurd shape (by simp)
          obtain ⟨kept, room⟩ := within some_
          obtain rfl : cursor = count := by
            apply Nat.le_antisymm reached
            apply Nat.le_of_not_lt
            intro short
            exact kept (first.mem_iff.mpr (List.mem_range.mpr short))
          rw [shape] at later
          have next := (@nextModification_spec _ cursor some_).2.1
          refine induction ?_ next room later
          rw [List.range_add, ← List.range'_eq_map_range]
          exact first.append (sorted_places nodes cursor)

/-- A buffer takes the first of the last nodes for its own. -/
def Takes (rest last : List ModificationNode) (chunk : Nat) : Prop :=
  (∀ node ∈ rest, node.origBuffIndex.toNat = chunk) ∧
    rest.length < maxModificationsPerChunk ∧
    ∃ node ∈ last.head?, node.origBuffIndex.toNat = chunk

include remaining in
theorem Remaining.not_appliesFirst_of_takes (takes : Takes rest last chunk)
    (filled : buffer ≠ []) :
    ¬AppliesFirst (cursor + rest.length) expected
      (bodyModifier modifications chunk (buffer :: chain) cursor
        released) := by
  obtain ⟨own, room, node, first, ownNode⟩ := takes
  obtain ⟨others, rfl⟩ : ∃ others, last = node :: others := by
    cases last with
    | nil => exact absurd first (by simp)
    | cons head others =>
        obtain rfl := Option.some.inj first
        exact ⟨others, rfl⟩
  let more := others.takeWhile fun node => node.origBuffIndex.toNat = chunk
  have suffix : modifications.drop cursor = (rest ++ node :: more) ++
      others.dropWhile fun node => node.origBuffIndex.toNat = chunk := by
    rw [remaining.suffix]
    simp [more]
  have inside : cursor < modifications.length := by
    have length := remaining.length
    rw [List.length_cons] at length
    omega
  have gathered := @gather_eq modifications (rest ++ node :: more) _ released
    chunk cursor maxModificationsPerChunk suffix ?_ ?_ remaining.fresh
  · have size : rest.length <
        ((rest ++ node :: more).take maxModificationsPerChunk).length := by
      rw [List.length_take, List.length_append, List.length_cons]
      omega
    have nonempty :
        (rest ++ node :: more).take maxModificationsPerChunk ≠ [] := by
      intro empty
      rw [empty] at size
      exact absurd size (by simp)
    rintro ⟨final, result, perm⟩
    rw [(bodyModifier_of_gather inside filled gathered).2 nonempty] at result
    obtain ⟨⟨_, _⟩, later, same⟩ := Option.map_eq_some_iff.mp result
    obtain ⟨-, rfl⟩ := Prod.mk.inj same
    have taken := bodyModifier_keeps later (cursor + rest.length) (by
      rw [List.mem_append, (sorted_places _ _).mem_iff, List.mem_range'_1]
      exact .inr ⟨Nat.le_add_right _ _, by omega⟩)
    have short := List.mem_range.mp (perm.mem_iff.mp taken)
    exact Nat.lt_irrefl _ short
  · intro other member
    rcases List.mem_append.mp member with member | member
    · exact own other member
    · rcases List.mem_cons.mp member with rfl | member
      · exact ownNode
      · simpa using List.mem_takeWhile_imp member
  · intro _ other member own
    have stops := List.head?_dropWhile_not
      (fun node : ModificationNode => node.origBuffIndex.toNat = chunk) others
    rw [Option.mem_def.mp member] at stops
    simp [own] at stops

include remaining in
theorem Remaining.gathers (spares : ¬Takes rest last chunk) :
    gather modifications released chunk maxModificationsPerChunk cursor =
      some (((group rest chunk).take maxModificationsPerChunk).zipIdx
        cursor) := by
  obtain ⟨later, split, -, behind, -⟩ := remaining.split
  have suffix : modifications.drop cursor =
      group rest chunk ++ (later ++ last) := by
    rw [remaining.suffix, ← List.append_assoc, ← split]
  apply gather_eq suffix
  · exact fun node member => own_of_mem_group member
  · intro short node member own
    cases later with
    | nil =>
        rw [List.append_nil] at split
        apply spares
        refine ⟨?_, ?_, node, member, own⟩
        · intro other among
          rw [split] at among
          exact own_of_mem_group among
        · rw [split]
          exact short
    | cons other later =>
        obtain rfl := Option.some.inj member
        have far := (behind _ List.mem_cons_self).1
        omega
  · exact remaining.fresh

theorem spared_cons :
    Spared rest chunk (buffer :: chain) node ↔
      (node.origBuffIndex.toNat = chunk → buffer = [] ∨
        maxModificationsPerChunk ≤ (group rest chunk).length ∨
        ∃ other ∈ rest, chunk < other.origBuffIndex.toNat) ∧
      Spared rest (chunk + 1) chain node := by
  constructor
  · intro spared
    refine ⟨spared 0 buffer rfl, ?_⟩
    intro index other found own
    have shifted : chunk + 1 + index = chunk + (index + 1) := by
      omega
    rw [shifted] at own ⊢
    exact spared (index + 1) other found own
  · rintro ⟨first, later⟩ index other found own
    cases index with
    | zero =>
        obtain rfl := Option.some.inj found
        exact first own
    | succ index =>
        have shifted : chunk + (index + 1) = chunk + 1 + index := by
          omega
        rw [shifted] at own ⊢
        exact later index other found own

theorem spared_congr {later : List ModificationNode}
    (split : rest = group rest chunk ++ later)
    (groups : ∀ other, chunk < other → group rest other = group later other) :
    Spared rest (chunk + 1) chain node ↔
      Spared later (chunk + 1) chain node := by
  have others (index : Nat) :
      (∃ other ∈ rest, chunk + 1 + index < other.origBuffIndex.toNat) ↔
        ∃ other ∈ later, chunk + 1 + index < other.origBuffIndex.toNat := by
    constructor
    · rintro ⟨other, member, above⟩
      rw [split] at member
      rcases List.mem_append.mp member with own | member
      · have := own_of_mem_group own
        omega
      · exact ⟨other, member, above⟩
    · rintro ⟨other, member, above⟩
      rw [split]
      exact ⟨other, List.mem_append_right _ member, above⟩
  have groups (index : Nat) : group rest (chunk + 1 + index) =
      group later (chunk + 1 + index) :=
    groups _ (by omega)
  simp only [Spared, others, groups]

include remaining in
/-- Where there is something to modify, the last nodes are spared unless their
first one is taken here or later. -/
theorem Remaining.spared_iff (filled : buffer ≠ []) :
    (∀ node ∈ last.head?, Spared rest chunk (buffer :: chain) node) ↔
      ¬Takes rest last chunk ∧
        ∀ node ∈ last.head?, Spared rest (chunk + 1) chain node := by
  obtain ⟨later, split, -, behind, -⟩ := remaining.split
  simp only [spared_cons]
  constructor
  · intro spared
    refine ⟨?_, fun node first => (spared node first).2⟩
    rintro ⟨own, room, node, first, ownNode⟩
    have whole : group rest chunk = rest :=
      List.filter_eq_self.mpr fun other member => by simp [own other member]
    rcases (spared node first).1 ownNode with empty | full | above
    · exact filled empty
    · rw [whole] at full
      omega
    · obtain ⟨other, member, above⟩ := above
      have := own other member
      omega
  · rintro ⟨spares, spared⟩ node first
    refine ⟨?_, spared node first⟩
    intro ownNode
    by_contra taken
    simp only [filled, false_or, not_or, not_exists, not_and, Nat.not_le,
      Nat.not_lt] at taken
    obtain ⟨room, below⟩ := taken
    apply spares
    have own : ∀ other ∈ rest, other.origBuffIndex.toNat = chunk :=
      fun other member => Nat.le_antisymm (below other member)
        (remaining.inRange other member).1
    have whole : group rest chunk = rest :=
      List.filter_eq_self.mpr fun other member => by simp [own other member]
    rw [whole] at room
    exact ⟨own, room, node, first, ownNode⟩

include remaining in
theorem Remaining.not_appliesFirst_of_many
    (many : maxModificationsPerChunk < (group rest chunk).length)
    (filled : buffer ≠ []) :
    ¬AppliesFirst (cursor + rest.length) expected
      (bodyModifier modifications chunk (buffer :: chain) cursor
        released) := by
  obtain ⟨later, split, -⟩ := remaining.split
  have long : maxModificationsPerChunk < rest.length := by
    have parts := congrArg List.length split
    rw [List.length_append] at parts
    omega
  have spares : ¬Takes rest last chunk := fun takes =>
    Nat.lt_asymm long takes.2.1
  have size : ((group rest chunk).take maxModificationsPerChunk).length =
      maxModificationsPerChunk :=
    List.length_take_of_le (Nat.le_of_lt many)
  have taken : (group rest chunk).take maxModificationsPerChunk ≠ [] := by
    intro empty
    rw [empty] at size
    exact absurd size (by simp [maxModificationsPerChunk])
  obtain ⟨after, upTo, -⟩ := @nextModification_spec _ cursor taken
  have perm := sorted_places
    ((group rest chunk).take maxModificationsPerChunk) cursor
  rw [size] at upTo perm
  -- The node behind the last one that was gathered.
  obtain ⟨node, left, own⟩ : ∃ node,
      modifications[cursor + maxModificationsPerChunk]? = some node ∧
        node.origBuffIndex.toNat = chunk := by
    have suffix : modifications.drop cursor =
        group rest chunk ++ (later ++ last) := by
      rw [remaining.suffix, ← List.append_assoc, ← split]
    refine ⟨(group rest chunk)[maxModificationsPerChunk], ?_, ?_⟩
    · rw [← List.getElem?_drop, suffix, List.getElem?_append_left many,
        List.getElem?_eq_getElem many]
    · exact own_of_mem_group (List.getElem_mem many)
  obtain ⟨inside, -⟩ := List.getElem?_eq_some_iff.mp left
  have kept : cursor + maxModificationsPerChunk ∉ released ++
      (sortDescending (((group rest chunk).take
        maxModificationsPerChunk).zipIdx cursor)).map Prod.snd := by
    rw [List.mem_append, perm.mem_iff, List.mem_range'_1]
    rintro (early | ⟨-, short⟩)
    · have := remaining.fresh _ early
      omega
    · omega
  have within :
      cursor + maxModificationsPerChunk < cursor + rest.length := by
    omega
  rw [(bodyModifier_of_gather (by omega) filled
    (remaining.gathers spares)).2 taken]
  rcases Nat.eq_or_lt_of_le upTo with same | short
  · rw [same, bodyModifier_stuck left (by omega) kept]
    exact not_appliesFirst within kept
  · have gone : nextModification (sortDescending (((group rest chunk).take
        maxModificationsPerChunk).zipIdx cursor)) cursor ∈ released ++
          (sortDescending (((group rest chunk).take
            maxModificationsPerChunk).zipIdx cursor)).map Prod.snd := by
      rw [List.mem_append, perm.mem_iff, List.mem_range'_1]
      exact .inr ⟨Nat.le_of_lt after, short⟩
    obtain ⟨passes, fails⟩ :=
      @bodyModifier_released modifications _ (chunk + 1) _
        (short.trans inside) gone chain
    by_cases empty : ∀ other ∈ chain, other = []
    · rw [passes empty]
      exact not_appliesFirst within kept
    · rw [fails empty]
      simp [AppliesFirst]

theorem Remaining.appliesFirst_released_iff {next : Nat}
    (remaining :
      Remaining modifications last chunk chain cursor released rest)
    (inside : next < modifications.length) (gone : next ∈ released) :
    AppliesFirst (cursor + rest.length) (modified rest chunk chain)
        (bodyModifier modifications chunk chain next released) ↔
      (∀ other ∈ chain, other = []) ∧ AllApplicable rest chunk chain := by
  obtain ⟨passes, fails⟩ :=
    @bodyModifier_released modifications released chunk next inside gone chain
  by_cases empty : ∀ other ∈ chain, other = []
  · rw [passes empty]
    cases rest with
    | nil =>
        refine iff_of_true ?_ ⟨empty, allApplicable_nil _ _⟩
        rw [modified_nil]
        exact ⟨released, rfl, remaining.released⟩
    | cons node rest =>
        have left : cursor < cursor + (node :: rest).length := by
          simp
        have kept : cursor ∉ released :=
          fun member => Nat.lt_irrefl cursor (remaining.fresh cursor member)
        refine iff_of_false (not_appliesFirst left kept) ?_
        rintro ⟨-, all⟩
        obtain ⟨from_, own, found, -⟩ :=
          remaining.inRange node List.mem_cons_self
        have grouped : node ∈ group (node :: rest)
            (chunk + (node.origBuffIndex.toNat - chunk)) := by
          rw [Nat.add_sub_cancel' from_]
          simp [group]
        have applicable := all _ own found (List.ne_nil_of_mem grouped)
        exact applicable.filled (empty own (List.mem_of_getElem? found))
  · rw [fails empty]
    refine iff_of_false ?_ fun both => empty both.1
    simp [AppliesFirst]

theorem spared_of_empty (empty : ∀ other ∈ chain, other = []) :
    Spared rest chunk chain node :=
  fun _ other found _ => .inl (empty other (List.mem_of_getElem? found))

/-- From any place on: the buffers have their injections and of what is left
only the nodes for them are released, exactly if the modifier can apply these
and takes none of the last ones. -/
theorem Remaining.appliesFirst_iff
    (remaining :
      Remaining modifications last chunk chain cursor released rest) :
    AppliesFirst (cursor + rest.length) (modified rest chunk chain)
        (bodyModifier modifications chunk chain cursor released) ↔
      AllApplicable rest chunk chain ∧
        ∀ node ∈ last.head?, Spared rest chunk chain node := by
  induction chain generalizing chunk cursor released rest with
  | nil =>
      have done : rest = [] := by
        cases rest with
        | nil => rfl
        | cons node rest =>
            obtain ⟨-, own, found, -⟩ :=
              remaining.inRange node List.mem_cons_self
            exact absurd found (by simp)
      subst done
      refine iff_of_true ⟨released, rfl, remaining.released⟩ ?_
      exact ⟨allApplicable_nil _ _, fun _ _ => spared_of_empty nofun⟩
  | cons buffer chain induction =>
      by_cases inside : cursor < modifications.length
      swap
      · have length := remaining.length
        have done : rest = [] := List.length_eq_zero_iff.mp (by omega)
        have none_ : last = [] := List.length_eq_zero_iff.mp (by omega)
        subst done none_
        refine iff_of_true ?_ ⟨allApplicable_nil _ _, by simp⟩
        rw [bodyModifier, if_pos (Nat.not_lt.mp inside), modified_nil]
        exact ⟨released, rfl, remaining.released⟩
      rw [allApplicable_cons, modified_cons]
      by_cases filled : buffer = []
      · subst filled
        by_cases none_ : group rest chunk = []
        · have skipped : bodyModifier modifications chunk ([] :: chain) cursor
              released = (bodyModifier modifications (chunk + 1) chain cursor
                released).map (Prod.map ([] :: ·) id) := by
            rw [bodyModifier, if_neg (Nat.not_le.mpr inside), if_pos rfl]
          rw [skipped, appliesFirst_cons, induction (remaining.skip none_),
            none_]
          simp [spared_cons]
        · refine iff_of_false (remaining.not_appliesFirst_of_empty none_) ?_
          intro all
          exact (all.1.1 none_).filled rfl
      rw [remaining.spared_iff filled]
      by_cases takes : Takes rest last chunk
      · refine iff_of_false
          (remaining.not_appliesFirst_of_takes takes filled) ?_
        exact fun all => all.2.1 takes
      have stepped := @bodyModifier_of_gather modifications chunk cursor chain
        buffer released _ inside filled (remaining.gathers takes)
      by_cases none_ : group rest chunk = []
      · rw [none_, List.take_nil] at stepped
        rw [stepped.1 rfl, appliesFirst_cons, induction (remaining.skip none_),
          none_]
        simp [takes]
      by_cases few :
          (group rest chunk).length ≤ maxModificationsPerChunk
      swap
      · refine iff_of_false (remaining.not_appliesFirst_of_many
          (Nat.lt_of_not_le few) filled) ?_
        intro all
        exact few (all.1.1 none_).few
      obtain ⟨later, split, within, behind, groups⟩ := remaining.split
      rw [List.take_of_length_le few] at stepped
      have applied := remaining.apply split behind
        (sorted_places (group rest chunk) cursor)
      obtain ⟨after, upTo, ends⟩ := @nextModification_spec _ cursor none_
      have total : cursor + rest.length =
          cursor + (group rest chunk).length + later.length := by
        have parts := congrArg List.length split
        rw [List.length_append] at parts
        omega
      have needed : (group rest chunk ≠ [] →
          Applicable (group rest chunk) buffer chain) ↔
            (∀ pos, dataAt ((group rest chunk).map insertion).reverse pos =
              dataAt ((group rest chunk).map insertion) pos) ∧
            (LastLowest (group rest chunk) ∨
              ∀ other ∈ chain, other = []) := by
        constructor
        · intro applicable
          have applicable := applicable none_
          exact ⟨applicable.reversible, applicable.reaches⟩
        · rintro ⟨reversible, reaches⟩ _
          exact ⟨filled, few, reversible, reaches⟩
      rw [stepped.2 none_, appliesFirst_cons, foldl_sorted_eq_iff within,
        needed, modified_congr groups, allApplicable_congr groups, total]
      simp only [spared_congr split groups]
      by_cases low : LastLowest (group rest chunk)
      · rw [ends.mpr low, induction applied]
        simp [low, takes, and_assoc]
      · have short := Nat.lt_of_le_of_ne upTo fun same => low (ends.mp same)
        have gone := applied.released.mem_iff.mpr (List.mem_range.mpr short)
        have reached := short.trans_le applied.reached
        rw [applied.appliesFirst_released_iff reached gone]
        by_cases empty : ∀ other ∈ chain, other = []
        · have spared : (∀ node ∈ last.head?,
              Spared later (chunk + 1) chain node) ↔ True :=
            iff_true_intro fun _ _ => spared_of_empty empty
          rw [spared]
          simp [low, takes, and_assoc]
        · simp [low, empty]

end Chain

/-- The modifier applies each modification once and reads no released node
exactly if no empty buffer has modifications, none has more than can be
gathered, those at one position are the same backwards, and the last one of a
buffer is in front of none of the others or there is nothing behind it. -/
theorem body_modified_iff (chain : List (List UInt8))
    (modifications : List ModificationNode)
    (wellFormed : WellFormed chain modifications) :
    AppliesOnce modifications (modified modifications 0 chain)
        (ngxHttpCpBodyModifier chain modifications) ↔
      AllApplicable modifications 0 chain := by
  have remaining : Remaining modifications [] 0 chain 0 [] modifications :=
    { suffix := by simp
      reached := Nat.zero_le _
      released := List.Perm.refl _
      ordered := wellFormed.ordered
      inRange := wellFormed.inRange }
  have exactly := remaining.appliesFirst_iff
  rw [Nat.zero_add] at exactly
  exact exactly.trans (by simp)

/-- An injection into a buffer. -/
def inject (chunk : UInt8) (pos : Int) (data : List UInt8) :
    ModificationNode :=
  { injectionPos := pos
    modType := .inject
    injectionSize := data.length
    isHeader := 0
    origBuffIndex := chunk
    modificationBuffer := data }

/-- Two injections into the first buffer, from the back to the front, and one
into the last buffer. -/
def backwards : List ModificationNode :=
  [inject 0 2 [7], inject 0 0 [8, 8], inject 2 1 [9]]

theorem body_modified_backwards :
    AllApplicable backwards 0 [[1, 2], [], [3]] := by
  have wellFormed : WellFormed [[1, 2], [], [3]] backwards := by
    refine ⟨by decide, ?_⟩
    simp [backwards, inject, InRange]
  apply (body_modified_iff _ _ wellFormed).mp
  exact ⟨[0, 1, 2], by decide, by decide⟩

/-- Two injections at one position come out backwards, and two injections from
the front to the back lead to a released node. -/
theorem body_modification_lost :
    (WellFormed [[1, 2]] [inject 0 1 [7], inject 0 1 [8]] ∧
      ngxHttpCpBodyModifier [[1, 2]] [inject 0 1 [7], inject 0 1 [8]] =
        some ([[1, 8, 7, 2]], [0, 1]) ∧
      ¬AppliesOnce [inject 0 1 [7], inject 0 1 [8]]
        (modified [inject 0 1 [7], inject 0 1 [8]] 0 [[1, 2]])
        (ngxHttpCpBodyModifier [[1, 2]]
          [inject 0 1 [7], inject 0 1 [8]])) ∧
    WellFormed [[1, 2], [3]] [inject 0 0 [7], inject 0 1 [8], inject 1 0 [9]] ∧
      ngxHttpCpBodyModifier [[1, 2], [3]]
        [inject 0 0 [7], inject 0 1 [8], inject 1 0 [9]] = none := by
  have swapped :
      ngxHttpCpBodyModifier [[1, 2]] [inject 0 1 [7], inject 0 1 [8]] =
        some ([[1, 8, 7, 2]], [0, 1]) := by
    decide
  have intended :
      modified [inject 0 1 [7], inject 0 1 [8]] 0 [[1, 2]] =
        [[1, 7, 8, 2]] := by
    decide
  refine ⟨⟨⟨by decide, ?_⟩, swapped, ?_⟩, ⟨by decide, ?_⟩, by decide⟩
  · simp [inject, InRange]
  · rintro ⟨released, same, -⟩
    rw [swapped, intended] at same
    simp at same
  · simp [inject, InRange]

end OpenAppsec.BodyModifier
