import OpenAppsec.Ring.Operations

/-!
# Messages laid out in the ring

`Laid` describes consecutive messages between two positions, `Body` the whole
occupied part of the ring with its wrap-around and padding, and `Free` the
markers of the unoccupied part.  `Body` and `Free` are kept apart because a
push that is not yet published already occupies segments past the published
write position.
-/

namespace OpenAppsec.Ring

open ByteMemory

/-- A ring whose marker table fits its management segment. -/
structure Geometry where
  count : Nat
  segmentSize : Nat
  large : sharedMemorySegmentEntrySizeBC ≤ segmentSize
  fits : 2 * count ≤ segmentSize
  bounded : count ≤ maxNumOfDataSegments

/-- A payload that one successful push can carry. -/
def IsMessage (payload : List UInt8) : Prop :=
  0 < payload.length ∧ payload.length ≤ maxWriteSize

instance (payload : List UInt8) : Decidable (IsMessage payload) := by
  unfold IsMessage
  infer_instance

namespace Geometry

variable (g : Geometry)

def needed (size : Nat) : Nat := numOfDataSegmentsNeeded g.segmentSize size

def address (index : Nat) : Nat := dataSegmentAddress g.segmentSize index

theorem address_add (index width : Nat) :
    g.address (index + width) =
      g.address index + g.segmentSize * width := by
  simp only [address, dataSegmentAddress_eq]
  rw [Nat.add_right_comm index width 1, Nat.mul_add, Nat.add_assoc]

theorem address_mono {low high : Nat} (ordered : low ≤ high) :
    g.address low ≤ g.address high := by
  obtain ⟨width, rfl⟩ := Nat.exists_eq_add_of_le ordered
  rw [g.address_add]
  exact Nat.le_add_right _ _

/-- The marker table ends before the first data segment. -/
theorem markerOffset_le_address {index : Nat} (within : index ≤ g.count)
    (segment : Nat) : markerOffset index ≤ g.address segment := by
  have first : g.address 0 ≤ g.address segment :=
    g.address_mono (Nat.zero_le segment)
  have start : g.address 0 =
      sharedRingQueueHeaderPrefixSize + g.segmentSize := by
    rw [address, dataSegmentAddress_eq]
    omega
  have fits := g.fits
  simp only [markerOffset]
  omega

theorem needed_pos {size : Nat} (positive : 0 < size) :
    0 < g.needed size := by
  have large := g.large
  simp only [sharedMemorySegmentEntrySizeBC] at large
  exact Nat.div_pos (by omega) (by omega)

theorem needed_le {size : Nat} (small : size ≤ 65535) :
    g.needed size ≤ 64 := by
  have large := g.large
  simp only [sharedMemorySegmentEntrySizeBC] at large
  have bound : g.needed size < 65 := by
    refine (Nat.div_lt_iff_lt_mul (by omega)).mpr ?_
    omega
  omega

theorem size_le_needed (size : Nat) :
    size ≤ g.segmentSize * g.needed size := by
  have large := g.large
  simp only [sharedMemorySegmentEntrySizeBC] at large
  have division : size + g.segmentSize - 1 <
      g.segmentSize * (g.needed size + 1) :=
    Nat.lt_mul_div_succ _ (by omega)
  rw [Nat.mul_succ] at division
  omega

/-- The bytes of a message stay inside its segments. -/
theorem address_add_size_le (index size : Nat) :
    g.address index + size ≤ g.address (index + g.needed size) := by
  rw [g.address_add]
  exact Nat.add_le_add_left (g.size_le_needed size) _

end Geometry

/-- Two memories hold the same markers and bytes in a range of segments. -/
structure SameSegments (g : Geometry) (left right : ByteMemory)
    (low high : Nat) : Prop where
  markers : ∀ index, low ≤ index → index < high →
    marker left index = marker right index
  data : AgreeOn left right (g.address low) (g.address high)

theorem SameSegments.mono {g : Geometry} {left right : ByteMemory}
    {low high low' high' : Nat}
    (same : SameSegments g left right low high)
    (lower : low ≤ low') (upper : high' ≤ high) :
    SameSegments g left right low' high' :=
  { markers := fun index above below =>
      same.markers index (by omega) (by omega)
    data := same.data.mono (g.address_mono lower) (g.address_mono upper) }

theorem SameSegments.trans {g : Geometry} {first second third : ByteMemory}
    {low high : Nat} (left : SameSegments g first second low high)
    (right : SameSegments g second third low high) :
    SameSegments g first third low high :=
  { markers := fun index above below =>
      (left.markers index above below).trans
        (right.markers index above below)
    data := left.data.trans right.data }

theorem sameSegments_setMarkers {g : Geometry} (bytes : ByteMemory)
    {pos stop value low high : Nat} (small : value < 65536)
    (ordered : pos ≤ stop) (within : stop ≤ g.count)
    (apart : high ≤ pos ∨ stop ≤ low) :
    SameSegments g (setMarkers bytes pos stop value) bytes low high :=
  { markers := fun index above below =>
      marker_setMarkers_outside small (by omega)
    data := agreeOn_setMarkers bytes value ordered
      (g.markerOffset_le_address within low) }

/-- Messages laid one after the other from one position to another. -/
inductive Laid (g : Geometry) (bytes : ByteMemory) :
    Nat → Nat → List (List UInt8) → Prop where
  | nil (pos : Nat) : Laid g bytes pos pos []
  | cons {pos stop : Nat} {payload : List UInt8} {rest : List (List UInt8)}
      (size : IsMessage payload)
      (head : marker bytes pos = payload.length)
      (tail : ∀ index, pos < index →
        index < pos + g.needed payload.length →
        marker bytes index = skipBuffMgmtMagic)
      (data : bytes.read (g.address pos) payload.length = payload)
      (later : Laid g bytes (pos + g.needed payload.length) stop rest) :
      Laid g bytes pos stop (payload :: rest)

namespace Laid

variable {g : Geometry} {bytes : ByteMemory} {pos middle stop : Nat}
variable {payload : List UInt8} {messages rest added : List (List UInt8)}

theorem le (laid : Laid g bytes pos stop messages) : pos ≤ stop := by
  induction laid with
  | nil => exact Nat.le_refl _
  | cons _ _ _ _ _ induction => omega

variable (laid : Laid g bytes pos stop (payload :: rest))

include laid in
theorem later :
    Laid g bytes (pos + g.needed payload.length) stop rest := by
  cases laid with
  | cons _ _ _ _ later => exact later

include laid in
theorem lt_of_cons :
    pos < stop := by
  cases laid with
  | cons size _ _ _ later =>
      have positive := g.needed_pos size.1
      have ordered := later.le
      omega

theorem eq_nil_iff (laid : Laid g bytes pos stop messages) :
    messages = [] ↔ pos = stop := by
  constructor
  · rintro rfl
    cases laid
    rfl
  · rintro rfl
    cases laid with
    | nil => rfl
    | cons size head tail data later =>
        have ahead := (Laid.cons size head tail data later).lt_of_cons
        omega

include laid in
theorem marker_eq :
    marker bytes pos = payload.length := by
  cases laid with
  | cons _ head _ _ _ => exact head

include laid in
theorem read_eq :
    bytes.read (g.address pos) payload.length = payload := by
  cases laid with
  | cons _ _ _ data _ => exact data

theorem isMessage (laid : Laid g bytes pos stop messages) :
    ∀ payload ∈ messages, IsMessage payload := by
  induction laid with
  | nil => intro payload member; cases member
  | cons size _ _ _ _ induction =>
      intro payload member
      cases member with
      | head => exact size
      | tail _ later => exact induction payload later

include laid in
theorem marker_ne_skip :
    marker bytes pos ≠ skipBuffMgmtMagic := by
  cases laid with
  | cons size head _ _ _ =>
      have bound := size.2
      simp only [maxWriteSize] at bound
      rw [head, skipBuffMgmtMagic]
      omega

/-- A layout depends only on the segments it covers. -/
theorem congr {other : ByteMemory}
    (laid : Laid g bytes pos stop messages)
    (same : SameSegments g other bytes pos stop) :
    Laid g other pos stop messages := by
  induction laid with
  | nil pos => exact .nil pos
  | @cons pos stop payload rest size head tail data later induction =>
      have positive := g.needed_pos size.1
      have ordered := later.le
      refine .cons size ?_ ?_ ?_
        (induction (same.mono (Nat.le_add_right _ _) (Nat.le_refl _)))
      · rw [same.markers pos (Nat.le_refl _) (by omega), head]
      · intro index above below
        rw [same.markers index (by omega) (by omega)]
        exact tail index above below
      · rw [same.data.read_eq (Nat.le_refl _)
          (Nat.le_trans (g.address_add_size_le pos payload.length)
            (g.address_mono ordered)), data]

theorem append (first : Laid g bytes pos middle messages)
    (second : Laid g bytes middle stop added) :
    Laid g bytes pos stop (messages ++ added) := by
  induction first with
  | nil => exact second
  | cons size head tail data _ induction =>
      exact .cons size head tail data (induction second)

end Laid

/-- The occupied part of the ring, from the read to the write position.  In
the wrapped case the messages of `front` end at `stop`, padding fills the ring
from there, and padding exists only because the next message did not fit. -/
inductive Body (g : Geometry) (bytes : ByteMemory) :
    Nat → Nat → List (List UInt8) → Prop where
  | straight {readPos writePos : Nat} {messages : List (List UInt8)}
      (inside : writePos < g.count)
      (laid : Laid g bytes readPos writePos messages) :
      Body g bytes readPos writePos messages
  | wrapped {readPos stop writePos : Nat} {front back : List (List UInt8)}
      (behind : writePos < readPos)
      (inside : readPos < g.count)
      (laidFront : Laid g bytes readPos stop front)
      (within : stop ≤ g.count)
      (padding : ∀ index, stop ≤ index → index < g.count →
        marker bytes index = skipBuffMgmtMagic)
      (tight : stop < g.count → ∃ payload rest, back = payload :: rest ∧
        g.count < stop + g.needed payload.length)
      (laidBack : Laid g bytes 0 writePos back) :
      Body g bytes readPos writePos (front ++ back)

/-- A position that no message between the read and the write position
occupies. -/
def Unoccupied (readPos writePos index : Nat) : Prop :=
  if readPos ≤ writePos then index < readPos ∨ writePos ≤ index
  else writePos ≤ index ∧ index < readPos

/-- All unoccupied markers read as empty. -/
def Free (g : Geometry) (bytes : ByteMemory) (readPos writePos : Nat) :
    Prop :=
  ∀ index, index < g.count → Unoccupied readPos writePos index →
    marker bytes index = emptyBuffMgmtMagic

namespace Body

variable {g : Geometry} {bytes : ByteMemory} {readPos writePos : Nat}
variable {messages : List (List UInt8)}

variable (body : Body g bytes readPos writePos messages)

include body

theorem readPos_lt :
    readPos < g.count := by
  cases body with
  | straight inside laid => exact Nat.lt_of_le_of_lt laid.le inside
  | wrapped _ inside => exact inside

theorem writePos_lt :
    writePos < g.count := by
  cases body with
  | straight inside => exact inside
  | wrapped behind inside => omega

theorem isMessage :
    ∀ payload ∈ messages, IsMessage payload := by
  cases body with
  | straight _ laid => exact laid.isMessage
  | wrapped _ _ laidFront _ _ _ laidBack =>
      intro payload member
      rcases List.mem_append.mp member with inFront | inBack
      · exact laidFront.isMessage payload inFront
      · exact laidBack.isMessage payload inBack

/-- The ring is empty exactly when its positions meet. -/
theorem eq_nil_iff :
    messages = [] ↔ readPos = writePos := by
  cases body with
  | straight _ laid => exact laid.eq_nil_iff
  | wrapped behind inside laidFront _ _ tight _ =>
      constructor
      · intro none
        obtain ⟨frontNil, backNil⟩ := List.append_eq_nil_iff.mp none
        have atStop := laidFront.eq_nil_iff.mp frontNil
        obtain ⟨payload, rest, backCons, _⟩ := tight (by omega)
        rw [backNil] at backCons
        cases backCons
      · intro meet
        omega

end Body

end OpenAppsec.Ring
