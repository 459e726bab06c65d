import Mathlib.Algebra.Group.Nat.Defs
import Mathlib.Tactic.Common

/-!
# Numbers in big-endian bytes

Blocks of equal length compare byte by byte as their numbers compare.
-/

namespace BigEndian

/-- The number that the bytes are. -/
def value : List UInt8 → Nat
  | [] => 0
  | byte :: bytes => byte.toNat * 256 ^ bytes.length + value bytes

/-- The difference at the first byte that differs among so many. -/
def memcmp : Nat → List UInt8 → List UInt8 → Int
  | size + 1, byte :: bytes, other :: others =>
      if byte = other then memcmp size bytes others
      else (byte.toNat : Int) - other.toNat
  | _, _, _ => 0

theorem mul_add_le_mul {first second unit : Nat} (less : first < second) :
    first * unit + unit ≤ second * unit := by
  calc
    first * unit + unit = (first + 1) * unit :=
      (Nat.succ_mul first unit).symm
    _ ≤ second * unit := Nat.mul_le_mul_right unit less

theorem value_lt (bytes : List UInt8) :
    value bytes < 256 ^ bytes.length := by
  induction bytes with
  | nil => simp [value]
  | cons byte bytes induction =>
      have carry :=
        @mul_add_le_mul _ _ (256 ^ bytes.length) byte.toNat_lt
      rw [value, List.length_cons, Nat.pow_succ, Nat.mul_comm (256 ^ _) 256]
      omega

/-- A larger first byte outweighs the bytes after it. -/
theorem value_cons_lt {byte other : UInt8} {bytes others : List UInt8}
    (same : bytes.length = others.length) (less : byte.toNat < other.toNat) :
    value (byte :: bytes) < value (other :: others) := by
  have small := value_lt bytes
  have step := @mul_add_le_mul _ _ (256 ^ bytes.length) less
  rw [value, value, ← same]
  omega

/-- The comparison of the bytes is that of the numbers. -/
theorem memcmp_neg_iff {size : Nat} {bytes others : List UInt8}
    (length : bytes.length = size) (same : others.length = size) :
    memcmp size bytes others < 0 ↔ value bytes < value others := by
  induction size generalizing bytes others with
  | zero =>
      obtain rfl := List.length_eq_zero_iff.mp length
      obtain rfl := List.length_eq_zero_iff.mp same
      simp [memcmp]
  | succ size induction =>
      obtain ⟨byte, bytes, rfl⟩ := List.exists_cons_of_length_eq_add_one length
      obtain ⟨other, others, rfl⟩ := List.exists_cons_of_length_eq_add_one same
      have restLength : bytes.length = size := Nat.succ.inj length
      have othersLength : others.length = size := Nat.succ.inj same
      rw [memcmp]
      by_cases equal : byte = other
      · rw [if_pos equal, induction restLength othersLength, equal, value,
          value, restLength, othersLength]
        omega
      · rw [if_neg equal]
        have differs : byte.toNat ≠ other.toNat :=
          fun sameNat => equal (UInt8.toNat_inj.mp sameNat)
        rcases Nat.lt_or_gt_of_ne differs with less | greater
        · have below := value_cons_lt (restLength.trans othersLength.symm) less
          exact iff_of_true (by omega) below
        · have above :=
            value_cons_lt (othersLength.trans restLength.symm) greater
          exact iff_of_false (by omega) (by omega)

end BigEndian
