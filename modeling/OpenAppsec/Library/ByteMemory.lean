import Mathlib.Tactic.Common

/-!
# Byte-addressed memory

A memory is a total map from addresses to bytes.  Sixteen-bit words are stored
little-endian.  The lemmas below are the usual read-over-write facts, stated
for byte blocks and for words, together with the frame rule for reads.
-/

/-- A byte-addressed memory. -/
abbrev ByteMemory := Nat → UInt8

namespace ByteMemory

variable {start low high address value : Nat} {block : List UInt8}

/-- Copy a block of bytes to consecutive addresses. -/
def write (memory : ByteMemory) (start : Nat) (block : List UInt8) :
    ByteMemory :=
  fun address =>
    if start ≤ address ∧ address < start + block.length then
      block.getD (address - start) 0
    else
      memory address

/-- The block of `length` bytes at `start`. -/
def read (memory : ByteMemory) (start length : Nat) : List UInt8 :=
  (List.range length).map fun index => memory (start + index)

/-- The little-endian sixteen-bit word at an address. -/
def readWord (memory : ByteMemory) (address : Nat) : Nat :=
  (memory address).toNat + 256 * (memory (address + 1)).toNat

/-- Store the low sixteen bits of a value, little-endian. -/
def writeWord (memory : ByteMemory) (address value : Nat) : ByteMemory :=
  memory.write address [UInt8.ofNat value, UInt8.ofNat (value / 256)]

/-- Copy several blocks one after the other. -/
def writeAll (memory : ByteMemory) (start : Nat) :
    List (List UInt8) → ByteMemory
  | [] => memory
  | block :: blocks =>
      writeAll (memory.write start block) (start + block.length) blocks

/-- Two memories agree on a half-open address range. -/
def AgreeOn (left right : ByteMemory) (low high : Nat) : Prop :=
  ∀ address, low ≤ address → address < high → left address = right address

@[simp] theorem length_read (memory : ByteMemory) (start length : Nat) :
    (memory.read start length).length = length := by
  simp [read]

theorem read_add (memory : ByteMemory) (start first second : Nat) :
    memory.read start (first + second) =
      memory.read start first ++ memory.read (start + first) second := by
  simp [read, List.range_add, Nat.add_assoc, Function.comp_def]

variable {memory : ByteMemory}

@[simp] theorem read_eq_nil_iff {length : Nat} :
    memory.read start length = [] ↔ length = 0 := by
  rw [← List.length_eq_zero_iff, length_read]

/-- The block is in memory from this address on. -/
def Holds (memory : ByteMemory) (start : Nat) (block : List UInt8) : Prop :=
  memory.read start block.length = block

theorem holds_append_iff {first second : List UInt8} :
    memory.Holds start (first ++ second) ↔
      memory.Holds start first ∧
        memory.Holds (start + first.length) second := by
  rw [Holds, List.length_append, read_add]
  constructor
  · intro same
    exact List.append_inj same (length_read _ _ _)
  · rintro ⟨left, right⟩
    rw [left, right]

theorem Holds.apply_zero {byte : UInt8} (held : memory.Holds start [byte]) :
    memory start = byte := by
  simpa [Holds, read] using held

theorem write_apply_outside
    (outside : address < start ∨ start + block.length ≤ address) :
    memory.write start block address = memory address := by
  have notInside :
      ¬(start ≤ address ∧ address < start + block.length) := by omega
  simp [write, notInside]

theorem write_apply_inside {index : Nat} (inside : index < block.length) :
    memory.write start block (start + index) = block[index] := by
  simp [write, inside]

@[simp] theorem write_nil (memory : ByteMemory) (start : Nat) :
    memory.write start [] = memory := by
  funext address
  exact write_apply_outside (by simp; omega)

theorem write_append (memory : ByteMemory) (start : Nat)
    (first second : List UInt8) :
    (memory.write start first).write (start + first.length) second =
      memory.write start (first ++ second) := by
  funext address
  by_cases inSecond : start + first.length ≤ address ∧
      address < start + first.length + second.length
  · obtain ⟨index, rfl⟩ : ∃ index, address = start + first.length + index :=
      ⟨address - (start + first.length), by omega⟩
    have indexLt : index < second.length := by omega
    have joinedLt : first.length + index < (first ++ second).length := by
      simp
      omega
    rw [write_apply_inside indexLt, Nat.add_assoc,
      write_apply_inside joinedLt]
    simp
  · rw [write_apply_outside (by omega)]
    by_cases inFirst : start ≤ address ∧ address < start + first.length
    · obtain ⟨index, rfl⟩ : ∃ index, address = start + index :=
        ⟨address - start, by omega⟩
      have indexLt : index < first.length := by omega
      have joinedLt : index < (first ++ second).length := by
        simp
        omega
      rw [write_apply_inside indexLt, write_apply_inside joinedLt]
      exact (List.getElem_append_left indexLt).symm
    · rw [write_apply_outside (by omega),
        write_apply_outside (by simp; omega)]

/-- Copying blocks one after the other is copying their concatenation. -/
theorem writeAll_eq_write (memory : ByteMemory) (start : Nat)
    (blocks : List (List UInt8)) :
    memory.writeAll start blocks = memory.write start blocks.flatten := by
  induction blocks generalizing memory start with
  | nil => simp [writeAll]
  | cons block blocks induction =>
      simp only [writeAll, List.flatten_cons]
      rw [induction, write_append]

theorem read_write_same (memory : ByteMemory) (start : Nat)
    (block : List UInt8) :
    (memory.write start block).read start block.length = block := by
  apply List.ext_getElem (by simp)
  intro index _ inside
  simp [read, write_apply_inside inside]

theorem AgreeOn.refl (memory : ByteMemory) (low high : Nat) :
    AgreeOn memory memory low high :=
  fun _ _ _ => rfl

variable {left right : ByteMemory}

theorem AgreeOn.trans {first second third : ByteMemory}
    (left : AgreeOn first second low high)
    (right : AgreeOn second third low high) : AgreeOn first third low high :=
  fun address lower upper =>
    (left address lower upper).trans (right address lower upper)

theorem AgreeOn.mono {low' high' : Nat} (agree : AgreeOn left right low high)
    (lower : low ≤ low') (upper : high' ≤ high) :
    AgreeOn left right low' high' :=
  fun address above below =>
    agree address (Nat.le_trans lower above) (Nat.lt_of_lt_of_le below upper)

theorem agreeOn_write (apart : high ≤ start ∨ start + block.length ≤ low) :
    AgreeOn (memory.write start block) memory low high :=
  fun _ lower upper => write_apply_outside (by omega)

theorem agreeOn_writeWord (apart : high ≤ address ∨ address + 2 ≤ low) :
    AgreeOn (memory.writeWord address value) memory low high :=
  agreeOn_write (by simpa using apart)

theorem AgreeOn.read_eq (agree : AgreeOn left right low high) {length : Nat}
    (lower : low ≤ start) (upper : start + length ≤ high) :
    left.read start length = right.read start length := by
  apply List.map_congr_left
  intro index member
  have indexLt := List.mem_range.mp member
  exact agree _ (by omega) (by omega)

theorem AgreeOn.readWord_eq (agree : AgreeOn left right low high)
    (lower : low ≤ address) (upper : address + 2 ≤ high) :
    left.readWord address = right.readWord address := by
  simp only [readWord]
  rw [agree address lower (by omega),
    agree (address + 1) (by omega) (by omega)]

theorem readWord_writeWord_same (memory : ByteMemory) (address : Nat)
    (small : value < 65536) :
    (memory.writeWord address value).readWord address = value := by
  have low : memory.writeWord address value address = UInt8.ofNat value := by
    simp [writeWord, write]
  have high : memory.writeWord address value (address + 1) =
      UInt8.ofNat (value / 256) := by
    simp [writeWord, write]
  simp only [readWord, low, high, UInt8.toNat_ofNat']
  omega

theorem readWord_writeWord_apart (memory : ByteMemory) {other : Nat}
    (apart : other + 2 ≤ address ∨ address + 2 ≤ other) :
    (memory.writeWord address value).readWord other =
      memory.readWord other := by
  have agree : AgreeOn (memory.writeWord address value) memory other
      (other + 2) :=
    agreeOn_writeWord (by omega)
  exact agree.readWord_eq (Nat.le_refl _) (Nat.le_refl _)

theorem readWord_lt (memory : ByteMemory) (address : Nat) :
    memory.readWord address < 65536 := by
  have low := (memory address).toNat_lt
  have high := (memory (address + 1)).toNat_lt
  simp only [readWord]
  omega

end ByteMemory
