import OpenAppsec.Library.Insertions

/-!
# Insertions from the back to the front

Insertions that are made one after another, each into what the one before
left.  If the positions go down, no insertion moves the place of a later one,
and those at one position come out in reverse.
-/

namespace Insertions

variable {α : Type*}

variable {items : List α} {first second insertions : List (Insertion α)}
variable {start : Nat}

/-- Put an insertion before the item at its position. -/
def insertAt (items : List α) (insertion : Insertion α) : List α :=
  items.take insertion.pos ++ insertion.data ++ items.drop insertion.pos

/-- A list with every insertion before its item or at the end. -/
def interleave (insertions : List (Insertion α)) (items : List α) : List α :=
  weave insertions 0 items ++ dataAt insertions items.length

theorem dataAt_append (first second : List (Insertion α)) (pos : Nat) :
    dataAt (first ++ second) pos = dataAt first pos ++ dataAt second pos := by
  simp [dataAt]

@[simp] theorem interleave_nil (items : List α) :
    interleave [] items = items := by
  rw [interleave, weave_of_empty fun _ _ _ => rfl]
  simp

/-- Up to the last position that is used, an insertion there comes before the
rest. -/
theorem interleave_of_le {pos : Nat} (inside : pos ≤ items.length)
    (below : ∀ insertion ∈ insertions, insertion.pos ≤ pos) :
    interleave insertions items =
      weave insertions 0 (items.take pos) ++ dataAt insertions pos ++
        items.drop pos := by
  have above {index : Nat} (later : pos < index) :
      dataAt insertions index = [] := by
    apply dataAt_eq_nil
    intro insertion member here
    have := below insertion member
    omega
  have cut : (items.take pos).length = pos := by
    rw [List.length_take]
    omega
  have split := weave_append insertions 0 (items.take pos) (items.drop pos)
  rw [List.take_append_drop, cut, Nat.zero_add] at split
  rw [interleave, split, List.append_assoc, List.append_assoc]
  congr 1
  cases rest : items.drop pos with
  | nil =>
      have last : items.length = pos :=
        Nat.le_antisymm (List.drop_eq_nil_iff.mp rest) inside
      simp [weave, last]
  | cons item later =>
      have short : pos < items.length := by
        apply Nat.lt_of_not_le
        intro long
        rw [List.drop_eq_nil_iff.mpr long] at rest
        exact absurd rest (by simp)
      have kept : weave insertions (pos + 1) later = later := by
        apply weave_of_empty
        intro index first _
        exact above (by omega)
      rw [weave, kept, above short]
      simp

theorem weave_congr_within
    (same : ∀ index, start ≤ index → index < start + items.length →
      dataAt first index = dataAt second index) :
    weave first start items = weave second start items := by
  induction items generalizing start with
  | nil => rfl
  | cons item items induction =>
      rw [List.length_cons] at same
      rw [weave, weave, same start (Nat.le_refl start) (by omega)]
      rw [induction fun index later within =>
        same index (by omega) (by omega)]

theorem interleave_insertAt {insertion : Insertion α}
    (inside : insertion.pos ≤ items.length)
    (below : ∀ other ∈ insertions, other.pos ≤ insertion.pos) :
    interleave insertions (insertAt items insertion) =
      interleave (insertions ++ [insertion]) items := by
  have cut : (items.take insertion.pos).length = insertion.pos := by
    rw [List.length_take]
    omega
  have front : (insertAt items insertion).take insertion.pos =
      items.take insertion.pos := by
    rw [insertAt, List.append_assoc, List.take_left' cut]
  have back : (insertAt items insertion).drop insertion.pos =
      insertion.data ++ items.drop insertion.pos := by
    rw [insertAt, List.append_assoc, List.drop_left' cut]
  have within : insertion.pos ≤ (insertAt items insertion).length := by
    rw [insertAt, List.length_append, List.length_append, cut]
    omega
  have belowAll : ∀ other ∈ insertions ++ [insertion],
      other.pos ≤ insertion.pos := by
    intro other member
    rcases List.mem_append.mp member with member | member
    · exact below other member
    · rw [List.mem_singleton.mp member]
  have before : weave (insertions ++ [insertion]) 0
      (items.take insertion.pos) =
        weave insertions 0 (items.take insertion.pos) := by
    apply weave_congr_within
    intro index _ early
    rw [cut] at early
    rw [dataAt_append, dataAt_cons, if_neg (by omega)]
    simp
  rw [interleave_of_le within below, interleave_of_le inside belowAll, front,
    back, before, dataAt_append, dataAt_cons, if_pos rfl]
  simp

/-- Insertions from the back to the front: those at one position come out in
reverse. -/
theorem foldl_insertAt
    (downwards : insertions.Pairwise fun first second =>
      second.pos ≤ first.pos)
    (inside : ∀ insertion ∈ insertions, insertion.pos ≤ items.length) :
    insertions.foldl insertAt items =
      interleave insertions.reverse items := by
  induction insertions generalizing items with
  | nil => simp
  | cons insertion insertions induction =>
      obtain ⟨below, downwards⟩ := List.pairwise_cons.mp downwards
      obtain ⟨here, rest⟩ := List.forall_mem_cons.mp inside
      have grown : items.length ≤ (insertAt items insertion).length := by
        simp only [insertAt, List.length_append, List.length_take,
          List.length_drop]
        omega
      rw [List.foldl_cons, induction downwards fun other member =>
        (rest other member).trans grown]
      rw [interleave_insertAt here, List.reverse_cons]
      intro other member
      exact below other (List.mem_reverse.mp member)

variable (sizes : ∀ pos, (dataAt first pos).length = (dataAt second pos).length)

include sizes

theorem weave_eq_weave_iff :
    weave first start items = weave second start items ↔
      ∀ index, start ≤ index → index < start + items.length →
        dataAt first index = dataAt second index := by
  refine ⟨?_, weave_congr_within⟩
  induction items generalizing start with
  | nil =>
      intro _ index later within
      rw [List.length_nil] at within
      omega
  | cons item items induction =>
      intro same index later within
      rw [weave, weave] at same
      obtain ⟨here, rest⟩ := List.append_inj same (sizes start)
      rcases Nat.eq_or_lt_of_le later with rfl | later
      · exact here
      · rw [List.length_cons] at within
        exact induction (List.cons.inj rest).2 index later (by omega)

theorem length_weave_of_sizes :
    (weave first start items).length = (weave second start items).length := by
  induction items generalizing start with
  | nil => rfl
  | cons item items induction =>
      simp [weave, sizes start, @induction (start + 1)]

theorem interleave_eq_interleave_iff :
    interleave first items = interleave second items ↔
      ∀ pos ≤ items.length, dataAt first pos = dataAt second pos := by
  constructor
  · intro same pos inside
    obtain ⟨before, last⟩ :=
      List.append_inj same (length_weave_of_sizes sizes)
    rcases Nat.eq_or_lt_of_le inside with rfl | inside
    · exact last
    · exact (weave_eq_weave_iff sizes).mp before pos (Nat.zero_le pos)
        (by omega)
  · intro same
    rw [interleave, interleave, same items.length (Nat.le_refl _)]
    rw [weave_congr_within fun index _ within => same index (by omega)]

end Insertions
