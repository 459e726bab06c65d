import Mathlib.Tactic.Common

/-!
# Buffers of a fixed capacity

A buffer has as many bytes as its capacity, whatever they are.  A block that
is copied to a place where it does not fit has no outcome.
-/

/-- The bytes of a buffer, as many as its capacity. -/
structure FixedBuffer (capacity : Nat) where
  bytes : List UInt8
  filled : bytes.length = capacity
  deriving DecidableEq

namespace FixedBuffer

variable {capacity start : Nat} {buffer : FixedBuffer capacity}

variable {text block : List UInt8} {blocks : List (List UInt8)}

/-- A buffer of zeros. -/
def zeroed (capacity : Nat) : FixedBuffer capacity where
  bytes := List.replicate capacity 0
  filled := List.length_replicate

/-- Copy a block of bytes to a place of the buffer. -/
def copy (buffer : FixedBuffer capacity) (start : Nat)
    (block : List UInt8) : Option (FixedBuffer capacity) :=
  if fits : start + block.length ≤ capacity then
    some
      { bytes := buffer.bytes.take start ++ block ++
          buffer.bytes.drop (start + block.length)
        filled := by
          have filled := buffer.filled
          simp only [List.length_append, List.length_take, List.length_drop]
          omega }
  else
    none

/-- The first bytes of the buffer. -/
def StartsWith (buffer : FixedBuffer capacity) (text : List UInt8) : Prop :=
  text <+: buffer.bytes

theorem startsWith_nil : buffer.StartsWith [] :=
  List.nil_prefix

theorem StartsWith.of_append {rest : List UInt8}
    (starts : buffer.StartsWith (text ++ rest)) : buffer.StartsWith text :=
  (List.prefix_append text rest).trans starts

theorem copy_eq_none_iff :
    buffer.copy start block = none ↔ capacity < start + block.length := by
  simp [copy]

/-- A block that fits comes after the bytes before its place. -/
theorem StartsWith.copy (starts : buffer.StartsWith text)
    (place : text.length = start) (fits : start + block.length ≤ capacity) :
    ∃ after, buffer.copy start block = some after ∧
      after.StartsWith (text ++ block) := by
  subst place
  refine ⟨_, dif_pos fits, ?_⟩
  have front : buffer.bytes.take text.length = text :=
    (List.prefix_iff_eq_take.mp starts).symm
  simp only [StartsWith, front]
  exact List.prefix_append _ _

theorem copy_zero (fits : block.length ≤ capacity) :
    ∃ after, buffer.copy 0 block = some after ∧ after.StartsWith block := by
  have fromZero : 0 + block.length ≤ capacity := by omega
  exact startsWith_nil.copy rfl fromZero

/-- Copy several blocks one after the other. -/
def copyAll (buffer : FixedBuffer capacity) (start : Nat) :
    List (List UInt8) → Option (FixedBuffer capacity)
  | [] => some buffer
  | block :: blocks => do
      (← buffer.copy start block).copyAll (start + block.length) blocks

/-- The blocks come after the bytes before their place if they fit. -/
theorem StartsWith.copyAll (starts : buffer.StartsWith text)
    (place : text.length = start)
    (fits : start + blocks.flatten.length ≤ capacity) :
    ∃ after, buffer.copyAll start blocks = some after ∧
      after.StartsWith (text ++ blocks.flatten) := by
  induction blocks generalizing buffer start text with
  | nil => exact ⟨buffer, rfl, by simpa using starts⟩
  | cons block blocks induction =>
      simp only [List.flatten_cons, List.length_append] at fits
      have blockFits : start + block.length ≤ capacity := by omega
      obtain ⟨middle, copied, front⟩ := starts.copy place blockFits
      have nextPlace : (text ++ block).length = start + block.length := by
        simp [place]
      obtain ⟨after, copiedAll, whole⟩ :=
        induction front nextPlace (by omega)
      refine ⟨after, by simp [FixedBuffer.copyAll, copied, copiedAll], ?_⟩
      simpa using whole

theorem copyAll_eq_none (inside : start ≤ capacity)
    (overruns : capacity < start + blocks.flatten.length) :
    buffer.copyAll start blocks = none := by
  induction blocks generalizing buffer start with
  | nil => simp at overruns; omega
  | cons block blocks induction =>
      simp only [List.flatten_cons, List.length_append] at overruns
      cases copied : buffer.copy start block with
      | none => simp [copyAll, copied]
      | some middle =>
          have blockFits : start + block.length ≤ capacity := by
            by_contra past
            simp [copy_eq_none_iff.mpr (Nat.lt_of_not_le past)] at copied
          simpa [copyAll, copied] using
            @induction _ middle blockFits (by omega)

theorem copyAll_zero (fits : blocks.flatten.length ≤ capacity) :
    ∃ after, buffer.copyAll 0 blocks = some after ∧
      after.StartsWith blocks.flatten := by
  have fromZero : 0 + blocks.flatten.length ≤ capacity := by omega
  exact startsWith_nil.copyAll rfl fromZero

end FixedBuffer
