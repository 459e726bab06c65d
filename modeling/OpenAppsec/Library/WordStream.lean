import Mathlib.Logic.Function.Basic
import OpenAppsec.Library.ByteMemory
import OpenAppsec.Library.Trace

/-!
# Words in byte streams

A stream carries words of one width, one after the other.  Its readers come
after each other and share nothing but the position of the next byte, so a
word that one of them takes in part is lost to all of them.
-/

namespace WordStream

variable {ω ρ σ : Type*}

/-- The bytes of a word, as many for every word. -/
structure Code (ω : Type*) where
  width : Nat
  encode : ω → List UInt8
  positive : 0 < width
  length_encode : ∀ word, (encode word).length = width

/-- The words of a stream one after the other; a reader never comes to the
end. -/
def Code.stream (code : Code ω) (words : Nat → ω) : ByteMemory :=
  fun position =>
    (code.encode (words (position / code.width))).getD
      (position % code.width) 0

@[simp] theorem Code.read_stream (code : Code ω) (words : Nat → ω)
    (index : Nat) :
    (code.stream words).read (code.width * index) code.width =
      code.encode (words index) := by
  apply List.ext_getElem
  · simp [code.length_encode]
  intro offset inWord inCode
  have below : offset < code.width := by
    rwa [code.length_encode] at inCode
  have quotient : (code.width * index + offset) / code.width = index := by
    rw [Nat.mul_add_div code.positive, Nat.div_eq_of_lt below, Nat.add_zero]
  have remainder : (code.width * index + offset) % code.width = offset := by
    rw [Nat.mul_add_mod, Nat.mod_eq_of_lt below]
  simp only [ByteMemory.read, List.getElem_map, List.getElem_range,
    Code.stream, quotient, remainder]
  simp [inCode]

/-- What a reader took, the word that it saw in what it took, and what it
returned to the caller who waits for one word. -/
structure Reading (ω ρ : Type*) where
  expected : ω
  taken : List UInt8
  word : Option ω
  result : ρ

/-- Nothing was taken, or the next word as a whole. -/
def Reading.TakesWhole (code : Code ω) (next : ω) (reading : Reading ω ρ) :
    Prop :=
  reading.taken = [] ∧ reading.word = none ∨
    reading.taken = code.encode next ∧ reading.word = some next

/-- From this word on, the readings take the words in order and whole. -/
def InOrder (code : Code ω) (words : Nat → ω) :
    Nat → List (Reading ω ρ) → Prop
  | _, [] => True
  | index, reading :: readings =>
      reading.TakesWhole code (words index) ∧
        InOrder code words (index + reading.word.toList.length) readings

/-- A reader of one of several streams. -/
structure Reader (σ ω ρ : Type*) where
  source : σ
  read : ByteMemory → Nat → Reading ω ρ

variable [DecidableEq σ]

/-- One reader, from the position that its stream is at. -/
def step (streams : σ → ByteMemory) (positions : σ → Nat)
    (reader : Reader σ ω ρ) : (σ × Reading ω ρ) × (σ → Nat) :=
  let reading := reader.read (streams reader.source) (positions reader.source)
  ((reader.source, reading),
    Function.update positions reader.source
      (positions reader.source + reading.taken.length))

/-- The readings of one stream. -/
def readingsOf (source : σ) (readings : List (σ × Reading ω ρ)) :
    List (Reading ω ρ) :=
  (readings.filter fun reading => reading.1 = source).map Prod.snd

@[simp] theorem readingsOf_nil (source : σ) :
    readingsOf source ([] : List (σ × Reading ω ρ)) = [] :=
  rfl

@[simp] theorem readingsOf_cons_self (source : σ) (reading : Reading ω ρ)
    (readings : List (σ × Reading ω ρ)) :
    readingsOf source ((source, reading) :: readings) =
      reading :: readingsOf source readings := by
  simp [readingsOf]

theorem readingsOf_cons_of_ne {source other : σ} (apart : other ≠ source)
    (reading : Reading ω ρ) (readings : List (σ × Reading ω ρ)) :
    readingsOf source ((other, reading) :: readings) =
      readingsOf source readings := by
  simp [readingsOf, apart]

/-- What holds of every reader at every position holds along a run. -/
theorem forall_mem_run {streams : σ → ByteMemory}
    {property : σ × Reading ω ρ → Prop} {readers : List (Reader σ ω ρ)}
    (positions : σ → Nat)
    (holds : ∀ reader ∈ readers, ∀ position, property
      (reader.source, reader.read (streams reader.source) position)) :
    ∀ reading ∈ (Trace.run (step streams) positions readers).1,
      property reading := by
  induction readers generalizing positions with
  | nil => simp
  | cons reader readers induction =>
      rw [Trace.run_cons, List.forall_mem_cons]
      constructor
      · exact holds reader List.mem_cons_self (positions reader.source)
      · apply induction
        intro other member
        exact holds other (List.mem_cons_of_mem reader member)

/-- The positions at which the streams have so many whole words behind
them. -/
def wordStarts (code : Code ω) (indices : σ → Nat) : σ → Nat :=
  fun source => code.width * indices source

theorem Reading.TakesWhole.length_taken {code : Code ω} {next : ω}
    {reading : Reading ω ρ} (whole : reading.TakesWhole code next) :
    reading.taken.length = code.width * reading.word.toList.length := by
  rcases whole with ⟨nothing, unseen⟩ | ⟨taken, seen⟩
  · simp [nothing, unseen]
  · simp [taken, seen, code.length_encode]

theorem not_takesWhole_of_part {code : Code ω} {next : ω}
    {reading : Reading ω ρ} (some_taken : reading.taken ≠ [])
    (part : reading.taken.length ≠ code.width) :
    ¬reading.TakesWhole code next := by
  rintro (⟨nothing, _⟩ | ⟨taken, _⟩)
  · exact some_taken nothing
  · rw [taken, code.length_encode] at part
    exact part rfl

theorem step_wordStarts {code : Code ω} {words : σ → Nat → ω}
    {indices : σ → Nat} {reader : Reader σ ω ρ} {reading : Reading ω ρ}
    {next : ω}
    (read : reader.read (code.stream (words reader.source))
      (code.width * indices reader.source) = reading)
    (whole : reading.TakesWhole code next) :
    (step (fun source => code.stream (words source))
        (wordStarts code indices) reader).2 =
      wordStarts code (Function.update indices reader.source
        (indices reader.source + reading.word.toList.length)) := by
  funext source
  by_cases same : source = reader.source
  · subst source
    simp [step, wordStarts, read, whole.length_taken, Nat.mul_add]
  · simp [step, wordStarts, same]

/-- Where each call reads, from the start of a word, whole words only in the
good case, a run keeps the order of the words just when every call is in the
good case. -/
theorem inOrder_iff {κ : Type*} {code : Code ω} (words : σ → Nat → ω)
    {reader : κ → Reader σ ω ρ} {good : κ → Prop} (calls : List κ)
    (indices : σ → Nat)
    (exact_whole : ∀ call ∈ calls, ∀ index,
      ((reader call).read (code.stream (words (reader call).source))
        (code.width * index)).TakesWhole code
          (words (reader call).source index) ↔ good call) :
    (∀ source, InOrder code (words source) (indices source)
      (readingsOf source (Trace.run
        (step fun source => code.stream (words source))
        (wordStarts code indices) (calls.map reader)).1)) ↔
      ∀ call ∈ calls, good call := by
  induction calls generalizing indices with
  | nil => simp [InOrder]
  | cons call calls induction =>
      have wholeIff := exact_whole call List.mem_cons_self
        (indices (reader call).source)
      generalize read : (reader call).read
        (code.stream (words (reader call).source))
        (code.width * indices (reader call).source) = reading at wholeIff
      have first : (step (fun source => code.stream (words source))
          (wordStarts code indices) (reader call)).1 =
            ((reader call).source, reading) := by
        simp [step, wordStarts, read]
      have later := induction
        (Function.update indices (reader call).source
          (indices (reader call).source + reading.word.toList.length))
        fun other member =>
          exact_whole other (List.mem_cons_of_mem call member)
      rw [List.forall_mem_cons, ← wholeIff, List.map_cons, Trace.run_cons,
        first]
      constructor
      · intro ordered
        have own := ordered (reader call).source
        rw [readingsOf_cons_self, InOrder] at own
        refine ⟨own.1, ?_⟩
        rw [← later, ← step_wordStarts read own.1]
        intro source
        by_cases same : source = (reader call).source
        · subst source
          simpa using own.2
        · have others := ordered source
          rw [readingsOf_cons_of_ne (Ne.symm same)] at others
          simpa [same] using others
      · rintro ⟨whole, rest⟩ source
        have ordered := later.mpr rest source
        rw [← step_wordStarts read whole] at ordered
        by_cases same : source = (reader call).source
        · subst source
          rw [readingsOf_cons_self, InOrder]
          refine ⟨whole, ?_⟩
          simpa using ordered
        · rw [readingsOf_cons_of_ne (Ne.symm same)]
          simpa [same] using ordered

end WordStream
