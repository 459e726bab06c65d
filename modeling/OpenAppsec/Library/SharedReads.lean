import OpenAppsec.Library.ByteMemory

/-!
# Reads of a memory that others write

A program reads blocks of a memory one after the other, and where it reads may
depend on what it has read before.  Between two reads the memory may change.
A change that leaves alone the blocks still to be read goes unnoticed.
-/

universe u

/-- A program that reads memory and returns a result. -/
inductive ReadProgram (ρ : Type u) where
  | done (result : ρ)
  | read (address length : Nat) (next : List UInt8 → ReadProgram ρ)

namespace ReadProgram

variable {ρ κ : Type u}

def bind : ReadProgram ρ → (ρ → ReadProgram κ) → ReadProgram κ
  | done result, next => next result
  | read address length rest, next =>
      read address length fun bytes => (rest bytes).bind next

instance : Monad ReadProgram where
  pure := done
  bind := bind

/-- Read one block. -/
def block (address length : Nat) : ReadProgram (List UInt8) :=
  read address length done

/-- The result when each read sees a memory of its own. -/
def run (memories : Nat → ByteMemory) : ReadProgram ρ → ρ
  | done result => result
  | read address length next =>
      run (fun index => memories (index + 1))
        (next ((memories 0).read address length))

/-- The result on a memory that stands still. -/
def eval (memory : ByteMemory) : ReadProgram ρ → ρ
  | done result => result
  | read address length next =>
      eval memory (next (memory.read address length))

/-- The blocks, in order, that the program reads from a memory that stands
still. -/
def reads (memory : ByteMemory) : ReadProgram ρ → List (Nat × Nat)
  | done _ => []
  | read address length next =>
      (address, length) :: reads memory (next (memory.read address length))

variable (memory : ByteMemory)

@[simp] theorem eval_pure (result : ρ) :
    (pure result : ReadProgram ρ).eval memory = result :=
  rfl

@[simp] theorem eval_block (address length : Nat) :
    (block address length).eval memory = memory.read address length :=
  rfl

@[simp] theorem eval_bind (program : ReadProgram ρ)
    (next : ρ → ReadProgram κ) :
    (program >>= next).eval memory =
      (next (program.eval memory)).eval memory := by
  change (program.bind next).eval memory = _
  induction program with
  | done result => rfl
  | read address length rest induction => exact induction _

@[simp] theorem eval_map (program : ReadProgram ρ) (function : ρ → κ) :
    (function <$> program).eval memory = function (program.eval memory) := by
  change (program >>= fun result => pure (function result)).eval memory = _
  rw [eval_bind, eval_pure]

/-- Memories that agree with one memory on each block at the time when it is
read give the result of that memory. -/
theorem run_eq_eval {memory : ByteMemory} {program : ReadProgram ρ}
    {memories : Nat → ByteMemory}
    (same : ∀ index block, (program.reads memory)[index]? = some block →
      (memories index).read block.1 block.2 =
        memory.read block.1 block.2) :
    program.run memories = program.eval memory := by
  induction program generalizing memories with
  | done result => rfl
  | read address length next induction =>
      have first := same 0 (address, length) rfl
      dsimp only at first
      rw [run, eval, first]
      apply induction
      intro index block later
      exact same (index + 1) block later

end ReadProgram
