import Mathlib.Algebra.Ring.Nat
import Mathlib.Algebra.Order.BigOperators.Group.List
import Mathlib.Algebra.Order.Group.Nat
import Mathlib.Data.List.Basic
import Mathlib.Tactic.Common

/-!
# Insertions into a list

Data that is to be inserted before items of a list, the result with every
insertion before its item, and the single pass over the list that reaches it
when the insertions are ordered by position.
-/

namespace Insertions

variable {α : Type*}

variable {items : List α} {last pos : Nat}

/-- Data that goes before the item at a position. -/
structure Insertion (α : Type*) where
  pos : Nat
  data : List α

/-- What goes before the item at a position, in list order. -/
def dataAt (insertions : List (Insertion α)) (pos : Nat) : List α :=
  (insertions.filter fun insertion => insertion.pos = pos).flatMap
    Insertion.data

/-- The items from a position on, each with what goes before it. -/
def weave (insertions : List (Insertion α)) : Nat → List α → List α
  | _, [] => []
  | pos, item :: items =>
      dataAt insertions pos ++ item :: weave insertions (pos + 1) items

/-- One pass over the list: an insertion behind the last one is left out. -/
def splice (items : List α) : Nat → List (Insertion α) → List α
  | last, [] => items.drop last
  | last, insertion :: insertions =>
      if insertion.pos < last then splice items last insertions
      else
        (items.take insertion.pos).drop last ++ insertion.data ++
          splice items insertion.pos insertions

/-- The size of all the data. -/
def totalSize (insertions : List (Insertion α)) : Nat :=
  (insertions.map fun insertion => insertion.data.length).sum

@[simp] theorem totalSize_nil : totalSize ([] : List (Insertion α)) = 0 :=
  rfl

@[simp] theorem totalSize_cons (insertion : Insertion α)
    (insertions : List (Insertion α)) :
    totalSize (insertion :: insertions) =
      insertion.data.length + totalSize insertions := by
  simp [totalSize]

@[simp] theorem dataAt_nil (pos : Nat) :
    dataAt ([] : List (Insertion α)) pos = [] :=
  rfl

theorem dataAt_cons (insertion : Insertion α)
    (insertions : List (Insertion α)) (pos : Nat) :
    dataAt (insertion :: insertions) pos =
      (if insertion.pos = pos then insertion.data else []) ++
        dataAt insertions pos := by
  simp only [dataAt, List.filter_cons, decide_eq_true_eq]
  split <;> simp

variable {insertions : List (Insertion α)}

/-- Insertions without data put nothing anywhere. -/
theorem dataAt_eq_nil
    (nothing : ∀ insertion ∈ insertions, insertion.pos = pos →
      insertion.data = []) : dataAt insertions pos = [] := by
  simp only [dataAt, List.flatMap_eq_nil_iff, List.mem_filter,
    decide_eq_true_eq]
  rintro insertion ⟨member, here⟩
  exact nothing insertion member here

theorem weave_congr {first second : List (Insertion α)}
    (same : ∀ index, pos ≤ index → dataAt first index = dataAt second index) :
    weave first pos items = weave second pos items := by
  induction items generalizing pos with
  | nil => rfl
  | cons item items induction =>
      rw [weave, weave, same pos (Nat.le_refl pos)]
      rw [induction fun index later => same index (Nat.le_of_succ_le later)]

theorem weave_of_empty
    (nothing : ∀ index, pos ≤ index → index < pos + items.length →
      dataAt insertions index = []) :
    weave insertions pos items = items := by
  induction items generalizing pos with
  | nil => rfl
  | cons item items induction =>
      simp only [List.length_cons] at nothing
      have here := nothing pos (Nat.le_refl pos) (by omega)
      have rest : weave insertions (pos + 1) items = items :=
        induction fun index later inside =>
          nothing index (by omega) (by omega)
      rw [weave, here, rest]
      rfl

theorem weave_append (insertions : List (Insertion α)) (pos : Nat)
    (first second : List α) :
    weave insertions pos (first ++ second) =
      weave insertions pos first ++
        weave insertions (pos + first.length) second := by
  induction first generalizing pos with
  | nil => simp [weave]
  | cons item items induction =>
      have shifted : pos + 1 + items.length = pos + (items.length + 1) := by
        omega
      simp [weave, induction, shifted]

theorem length_weave_cons (insertion : Insertion α)
    (insertions : List (Insertion α)) (pos : Nat) (items : List α) :
    (weave (insertion :: insertions) pos items).length =
      (weave insertions pos items).length +
        if pos ≤ insertion.pos ∧ insertion.pos < pos + items.length then
          insertion.data.length
        else 0 := by
  induction items generalizing pos with
  | nil =>
      have outside : ¬(pos ≤ insertion.pos ∧ insertion.pos < pos + 0) := by
        omega
      simp only [weave, List.length_nil]
      rw [if_neg outside]
  | cons item items induction =>
      have size : (if insertion.pos = pos then insertion.data else []).length =
          if insertion.pos = pos then insertion.data.length else 0 := by
        split <;> rfl
      simp only [weave, dataAt_cons, List.length_append, List.length_cons,
        induction, size]
      split_ifs <;> omega

theorem length_weave
    (inside : ∀ insertion ∈ insertions, insertion.pos < items.length) :
    (weave insertions 0 items).length =
      items.length + totalSize insertions := by
  induction insertions with
  | nil =>
      have plain : weave ([] : List (Insertion α)) 0 items = items :=
        weave_of_empty fun _ _ _ => rfl
      simp [plain]
  | cons insertion insertions induction =>
      have first := inside insertion List.mem_cons_self
      have rest := induction fun later member =>
        inside later (List.mem_cons_of_mem _ member)
      rw [length_weave_cons, rest, totalSize_cons, if_pos (by omega)]
      omega

/-- An insertion with data follows the insertions before it in the list. -/
def InOrder (insertions : List (Insertion α)) : Prop :=
  insertions.Pairwise fun first second =>
    second.data ≠ [] → first.pos ≤ second.pos

/-- One pass over the list puts ordered insertions where they belong. -/
theorem splice_eq_weave (ordered : InOrder insertions)
    (ahead : ∀ insertion ∈ insertions, insertion.data ≠ [] →
      last ≤ insertion.pos)
    (inside : ∀ insertion ∈ insertions, insertion.pos < items.length) :
    splice items last insertions = weave insertions last (items.drop last) := by
  induction insertions generalizing last with
  | nil =>
      rw [splice, weave_of_empty]
      exact fun _ _ _ => rfl
  | cons insertion insertions induction =>
      obtain ⟨before, ordered⟩ := List.pairwise_cons.mp ordered
      have insideRest : ∀ later ∈ insertions, later.pos < items.length :=
        fun later member => inside later (List.mem_cons_of_mem _ member)
      rw [splice]
      split
      · rename_i behind
        have nothing : insertion.data = [] := by
          by_contra filled
          exact Nat.not_le.mpr behind
            (ahead insertion List.mem_cons_self filled)
        rw [induction ordered (fun later member =>
          ahead later (List.mem_cons_of_mem _ member)) insideRest]
        apply weave_congr
        intro index _
        simp [dataAt_cons, nothing]
      · rename_i reached
        have reached : last ≤ insertion.pos := Nat.not_lt.mp reached
        have here := inside insertion List.mem_cons_self
        have cut : items.drop last =
            (items.take insertion.pos).drop last ++
              items.drop insertion.pos := by
          conv => lhs; rw [← List.take_append_drop insertion.pos items]
          rw [List.drop_append_of_le_length]
          rw [List.length_take]
          omega
        have size : last + ((items.take insertion.pos).drop last).length =
            insertion.pos := by
          rw [List.length_drop, List.length_take]
          omega
        have copied : weave (insertion :: insertions) last
            ((items.take insertion.pos).drop last) =
              (items.take insertion.pos).drop last := by
          apply weave_of_empty
          intro index _ inside
          rw [size] at inside
          apply dataAt_eq_nil
          intro later member pos
          by_contra filled
          obtain same | member := List.mem_cons.mp member
          · rw [same] at pos
            omega
          · have := before later member filled
            omega
        have next : weave (insertion :: insertions) insertion.pos
            (items.drop insertion.pos) =
              insertion.data ++
                weave insertions insertion.pos (items.drop insertion.pos) := by
          rw [List.drop_eq_getElem_cons here, weave, weave, dataAt_cons,
            if_pos rfl, List.append_assoc]
          congr 3
          apply weave_congr
          intro index later
          rw [dataAt_cons, if_neg (by omega)]
          rfl
        rw [cut, weave_append, copied, size, next,
          induction ordered before insideRest]
        simp

theorem length_splice_le (items : List α) (last : Nat)
    (insertions : List (Insertion α)) (reached : last ≤ items.length)
    (inside : ∀ insertion ∈ insertions, insertion.pos ≤ items.length) :
    (splice items last insertions).length ≤
      items.length - last + totalSize insertions := by
  induction insertions generalizing last with
  | nil => simp [splice]
  | cons insertion insertions induction =>
      have insideRest : ∀ later ∈ insertions, later.pos ≤ items.length :=
        fun later member => inside later (List.mem_cons_of_mem _ member)
      have here := inside insertion List.mem_cons_self
      rw [splice, totalSize_cons]
      split
      · have rest := induction last reached insideRest
        omega
      · have rest := induction insertion.pos here insideRest
        simp only [List.length_append, List.length_drop, List.length_take]
        omega

theorem inOrder_of_length_splice (reached : last ≤ items.length)
    (inside : ∀ insertion ∈ insertions, insertion.pos ≤ items.length)
    (whole : (splice items last insertions).length =
      items.length - last + totalSize insertions) :
    InOrder insertions ∧
      ∀ insertion ∈ insertions, insertion.data ≠ [] →
        last ≤ insertion.pos := by
  induction insertions generalizing last with
  | nil => exact ⟨List.Pairwise.nil, nofun⟩
  | cons insertion insertions induction =>
      have insideRest : ∀ later ∈ insertions, later.pos ≤ items.length :=
        fun later member => inside later (List.mem_cons_of_mem _ member)
      have here := inside insertion List.mem_cons_self
      rw [splice, totalSize_cons] at whole
      split at whole
      · rename_i behind
        have bound := length_splice_le items last insertions reached insideRest
        have nothing : insertion.data = [] := by
          apply List.eq_nil_of_length_eq_zero
          omega
        obtain ⟨ordered, ahead⟩ := induction reached insideRest (by
          rw [whole, nothing]
          simp)
        refine ⟨List.pairwise_cons.mpr ⟨fun later member filled => ?_,
          ordered⟩, ?_⟩
        · have := ahead later member filled
          omega
        · rintro later member filled
          obtain rfl | member := List.mem_cons.mp member
          · exact (filled nothing).elim
          · exact ahead later member filled
      · rename_i passed
        have passed : last ≤ insertion.pos := Nat.not_lt.mp passed
        simp only [List.length_append, List.length_drop, List.length_take]
          at whole
        obtain ⟨ordered, ahead⟩ := induction here insideRest (by omega)
        refine ⟨List.pairwise_cons.mpr ⟨ahead, ordered⟩, ?_⟩
        rintro later member filled
        obtain rfl | member := List.mem_cons.mp member
        · exact passed
        · exact Nat.le_trans passed (ahead later member filled)

theorem splice_of_empty (reached : last ≤ items.length)
    (inside : ∀ insertion ∈ insertions, insertion.pos ≤ items.length)
    (nothing : ∀ insertion ∈ insertions, insertion.data = []) :
    splice items last insertions = items.drop last := by
  induction insertions generalizing last with
  | nil => rfl
  | cons insertion insertions induction =>
      have here := inside insertion List.mem_cons_self
      have rest {next : Nat} (reached : next ≤ items.length) :
          splice items next insertions = items.drop next :=
        induction reached
          (fun later member => inside later (List.mem_cons_of_mem _ member))
          fun later member => nothing later (List.mem_cons_of_mem _ member)
      rw [splice]
      split
      · exact rest reached
      · rw [rest here, nothing insertion List.mem_cons_self, List.append_nil,
          ← List.drop_append_of_le_length, List.take_append_drop]
        rw [List.length_take]
        omega

theorem weave_single {insertion : Insertion α}
    (inside : ∀ other ∈ insertion :: insertions, other.pos < items.length)
    (nothing : ∀ other ∈ insertions, other.data = []) :
    weave (insertion :: insertions) 0 items =
      items.take insertion.pos ++ insertion.data ++
        items.drop insertion.pos := by
  have ordered : InOrder (insertion :: insertions) := by
    refine List.pairwise_cons.mpr ⟨fun other member filled => ?_, ?_⟩
    · exact (filled (nothing other member)).elim
    · apply List.pairwise_of_forall_mem_list
      exact fun _ _ other member filled => (filled (nothing other member)).elim
  have insideRest : ∀ other ∈ insertions, other.pos ≤ items.length :=
    fun other member =>
      Nat.le_of_lt (inside other (List.mem_cons_of_mem _ member))
  have here := Nat.le_of_lt (inside insertion List.mem_cons_self)
  have passed :
      splice items 0 (insertion :: insertions) =
        weave (insertion :: insertions) 0 (items.drop 0) :=
    splice_eq_weave ordered (fun _ _ _ => Nat.zero_le _) inside
  rw [List.drop_zero] at passed
  rw [← passed, splice, if_neg (Nat.not_lt_zero _), List.drop_zero,
    splice_of_empty here insideRest nothing]

/-- When all other data and the list repeat one item, the pass puts that many
items before the data of an insertion. -/
theorem splice_replicate {item : α} {size : Nat}
    {before after : List (Insertion α)} {insertion : Insertion α}
    (same : ∀ other ∈ before,
      other.data = List.replicate other.data.length item)
    (ordered : InOrder (before ++ insertion :: after))
    (ahead : ∀ other ∈ before ++ insertion :: after, other.data ≠ [] →
      last ≤ other.pos) (filled : insertion.data ≠ [])
    (inside : insertion.pos ≤ size) :
    ∃ rest, splice (List.replicate size item) last
        (before ++ insertion :: after) =
      List.replicate (insertion.pos - last + totalSize before) item ++
        (insertion.data ++ rest) := by
  induction before generalizing last with
  | nil =>
      have reached := ahead insertion List.mem_cons_self filled
      refine ⟨splice (List.replicate size item) insertion.pos after, ?_⟩
      rw [List.nil_append, splice, if_neg (Nat.not_lt.mpr reached),
        List.append_assoc]
      simp [Nat.min_eq_left inside]
  | cons other before induction =>
      have sameRest := fun later member =>
        same later (List.mem_cons_of_mem other member)
      obtain ⟨follows, ordered⟩ := List.pairwise_cons.mp ordered
      have listed : insertion ∈ before ++ insertion :: after := by simp
      have reached := follows insertion listed filled
      rw [List.cons_append, splice, totalSize_cons]
      split
      · rename_i behind
        have nothing : other.data = [] := by
          by_contra holds
          have := ahead other List.mem_cons_self holds
          omega
        obtain ⟨rest, spliced⟩ := induction sameRest ordered
          fun later member => ahead later (List.mem_cons_of_mem _ member)
        exact ⟨rest, by simpa [nothing] using spliced⟩
      · rename_i passed
        obtain ⟨rest, spliced⟩ := induction sameRest ordered follows
        refine ⟨rest, ?_⟩
        have here : min other.pos size = other.pos := by omega
        have total : other.pos - last + (other.data.length +
            (insertion.pos - other.pos + totalSize before)) =
              insertion.pos - last +
                (other.data.length + totalSize before) := by
          omega
        have copied : other.data ++ List.replicate
            (insertion.pos - other.pos + totalSize before) item =
              List.replicate (other.data.length +
                (insertion.pos - other.pos + totalSize before)) item := by
          conv => lhs; rw [same other List.mem_cons_self]
          exact List.replicate_append_replicate
        rw [spliced, List.take_replicate, List.drop_replicate, here, ← total,
          List.append_assoc, ← List.append_assoc other.data, copied,
          ← List.append_assoc, ← List.replicate_add]

theorem eq_of_sum_le {ι : Type*} {items : List ι} {smaller larger : ι → Nat}
    (below : ∀ item ∈ items, smaller item ≤ larger item)
    (reached : (items.map larger).sum ≤ (items.map smaller).sum) :
    ∀ item ∈ items, smaller item = larger item := by
  induction items with
  | nil => nofun
  | cons item items induction =>
      have here := below item List.mem_cons_self
      have belowRest : ∀ other ∈ items, smaller other ≤ larger other :=
        fun other member => below other (List.mem_cons_of_mem _ member)
      have bound : (items.map smaller).sum ≤ (items.map larger).sum :=
        List.sum_le_sum belowRest
      simp only [List.map_cons, List.sum_cons] at reached
      intro other member
      obtain rfl | member := List.mem_cons.mp member
      · omega
      · exact induction belowRest (by omega) other member

end Insertions
