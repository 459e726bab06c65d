import Mathlib.Data.Nat.Digits.Defs
import Mathlib.Tactic.Common

/-!
# Length-prefixed fields

Numbers are written little-endian in a fixed number of bytes, and a field is
preceded by its length.  A reader that knows the order of the fields takes
them back one after the other.
-/

namespace LengthPrefixed

variable {width : Nat} {content : List UInt8}

/-- The low `width` bytes of a number. -/
def littleEndian : Nat → Nat → List UInt8
  | 0, _ => []
  | width + 1, value => UInt8.ofNat value :: littleEndian width (value / 256)

@[simp] theorem length_littleEndian (width value : Nat) :
    (littleEndian width value).length = width := by
  induction width generalizing value with
  | zero => rfl
  | succ width induction =>
      rw [littleEndian, List.length_cons, induction]

theorem littleEndian_injective {left right : Nat}
    (leftSmall : left < 256 ^ width) (rightSmall : right < 256 ^ width)
    (same : littleEndian width left = littleEndian width right) :
    left = right := by
  induction width generalizing left right with
  | zero => omega
  | succ width induction =>
      rw [littleEndian, littleEndian, List.cons.injEq] at same
      have low : left % 256 = right % 256 := by
        have bytes := congrArg UInt8.toNat same.1
        rwa [UInt8.toNat_ofNat', UInt8.toNat_ofNat'] at bytes
      rw [Nat.pow_succ] at leftSmall rightSmall
      have high : left / 256 = right / 256 := by
        apply induction
        · exact Nat.div_lt_of_lt_mul (by omega)
        · exact Nat.div_lt_of_lt_mul (by omega)
        · exact same.2
      omega

/-- The bytes of a number as its digits. -/
theorem ofDigits_littleEndian {value : Nat} (small : value < 256 ^ width) :
    Nat.ofDigits 256 ((littleEndian width value).map UInt8.toNat) = value := by
  induction width generalizing value with
  | zero =>
      have zero : value = 0 := by simpa using small
      simp [littleEndian, zero]
  | succ width induction =>
      rw [Nat.pow_succ] at small
      have high := induction (Nat.div_lt_of_lt_mul (by omega) :
        value / 256 < 256 ^ width)
      rw [littleEndian, List.map_cons, Nat.ofDigits_cons, high,
        UInt8.toNat_ofNat']
      omega

/-- A field after its length. -/
def field (width : Nat) (content : List UInt8) : List UInt8 :=
  littleEndian width content.length ++ content

theorem littleEndian_append_inj {left right : Nat}
    {leftRest rightRest : List UInt8} (leftSmall : left < 256 ^ width)
    (rightSmall : right < 256 ^ width)
    (same : littleEndian width left ++ leftRest =
      littleEndian width right ++ rightRest) :
    left = right ∧ leftRest = rightRest := by
  have lengths : (littleEndian width left).length =
      (littleEndian width right).length := by
    rw [length_littleEndian, length_littleEndian]
  obtain ⟨numbers, rests⟩ := List.append_inj same lengths
  exact ⟨littleEndian_injective leftSmall rightSmall numbers, rests⟩

theorem field_append_inj {left right leftRest rightRest : List UInt8}
    (leftSmall : left.length < 256 ^ width)
    (rightSmall : right.length < 256 ^ width)
    (same : field width left ++ leftRest = field width right ++ rightRest) :
    left = right ∧ leftRest = rightRest := by
  rw [field, field, List.append_assoc, List.append_assoc] at same
  obtain ⟨lengths, contents⟩ :=
    littleEndian_append_inj leftSmall rightSmall same
  exact List.append_inj contents lengths

theorem field_ne_nil (wide : 0 < width) (content : List UInt8) :
    field width content ≠ [] := by
  intro empty
  have length := congrArg List.length empty
  rw [field, List.length_append, length_littleEndian, List.length_nil]
    at length
  omega

/-- A field that is left out, with its length, when it is empty. -/
def optionalField (width : Nat) (content : List UInt8) : List UInt8 :=
  if content = [] then [] else field width content

@[simp] theorem optionalField_nil (width : Nat) :
    optionalField width [] = [] :=
  if_pos rfl

theorem optionalField_of_ne (filled : content ≠ []) :
    optionalField width content = field width content :=
  if_neg filled

theorem optionalField_eq_nil_iff (wide : 0 < width) :
    optionalField width content = [] ↔ content = [] := by
  constructor
  · intro empty
    by_contra filled
    rw [optionalField_of_ne filled] at empty
    exact field_ne_nil wide content empty
  · intro empty
    rw [empty, optionalField_nil]

theorem optionalField_eq_append (wide : 0 < width) {head tail : List UInt8}
    (contentSmall : content.length < 256 ^ width)
    (headSmall : head.length < 256 ^ width)
    (same : optionalField width content =
      field width head ++ optionalField width tail) :
    content = head ∧ tail = [] := by
  have filled : content ≠ [] := by
    intro empty
    rw [empty, optionalField_nil] at same
    exact List.append_ne_nil_of_left_ne_nil (field_ne_nil wide head) _
      same.symm
  have peeled : field width content ++ [] =
      field width head ++ optionalField width tail := by
    rw [List.append_nil, ← same, optionalField_of_ne filled]
  obtain ⟨contents, rest⟩ :=
    field_append_inj contentSmall headSmall peeled
  exact ⟨contents, (optionalField_eq_nil_iff wide).mp rest.symm⟩

theorem optionalField_injective (wide : 0 < width) {left right : List UInt8}
    (leftSmall : left.length < 256 ^ width)
    (rightSmall : right.length < 256 ^ width)
    (same : optionalField width left = optionalField width right) :
    left = right := by
  by_cases filled : right = []
  · rw [filled, optionalField_nil] at same
    rw [filled, (optionalField_eq_nil_iff wide).mp same]
  · have alone : optionalField width left =
        field width right ++ optionalField width [] := by
      rw [same, optionalField_of_ne filled, optionalField_nil,
        List.append_nil]
    exact (optionalField_eq_append wide leftSmall rightSmall alone).1

/-- One of two values has only its first optional field, the other has the
same content as its second one. -/
def Shifted (first second first' second' : List UInt8) : Prop :=
  first ≠ [] ∧ second = [] ∧ first' = [] ∧ second' = first

/-- Two optional fields in a row tell their contents, but not which of the
two fields a single content belongs to. -/
theorem optionalFields_eq_iff (wide : 0 < width)
    {first second first' second' : List UInt8}
    (firstSmall : first.length < 256 ^ width)
    (secondSmall : second.length < 256 ^ width)
    (firstSmall' : first'.length < 256 ^ width)
    (secondSmall' : second'.length < 256 ^ width) :
    optionalField width first ++ optionalField width second =
        optionalField width first' ++ optionalField width second' ↔
      (first = first' ∧ second = second') ∨
        Shifted first second first' second' ∨
        Shifted first' second' first second := by
  constructor
  · intro same
    by_cases given : first = []
    · rw [given, optionalField_nil, List.nil_append] at same
      by_cases given' : first' = []
      · rw [given', optionalField_nil, List.nil_append] at same
        have contents :=
          optionalField_injective wide secondSmall secondSmall' same
        exact .inl ⟨given.trans given'.symm, contents⟩
      · rw [optionalField_of_ne given'] at same
        obtain ⟨contents, none⟩ :=
          optionalField_eq_append wide secondSmall firstSmall' same
        exact .inr (.inr ⟨given', none, given, contents⟩)
    · rw [optionalField_of_ne given] at same
      by_cases given' : first' = []
      · rw [given', optionalField_nil, List.nil_append] at same
        obtain ⟨contents, none⟩ :=
          optionalField_eq_append wide secondSmall' firstSmall same.symm
        exact .inr (.inl ⟨given, none, given', contents⟩)
      · rw [optionalField_of_ne given'] at same
        obtain ⟨contents, rest⟩ :=
          field_append_inj firstSmall firstSmall' same
        have others :=
          optionalField_injective wide secondSmall secondSmall' rest
        exact .inl ⟨contents, others⟩
  · rintro (⟨rfl, rfl⟩ | ⟨_, rfl, rfl, rfl⟩ | ⟨_, rfl, rfl, rfl⟩)
    · rfl
    · rw [optionalField_nil, List.nil_append, List.append_nil]
    · rw [optionalField_nil, List.nil_append, List.append_nil]

end LengthPrefixed
