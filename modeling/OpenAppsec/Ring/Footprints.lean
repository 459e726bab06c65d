import OpenAppsec.Ring.Admission

/-!
# Footprints of the data operations

The indices into the marker table that a call reads or writes, and the ranges
of data bytes that it writes, in the order of the source.  A call changes
nothing outside its footprint.
-/

namespace OpenAppsec.Ring

open ByteMemory

/-- What a call touches behind the header. -/
structure Footprint where
  markers : List Nat
  data : List (Nat × Nat)

namespace Footprint

def empty : Footprint :=
  { markers := []
    data := [] }

/-- The address belongs to a marker or to a data range of the footprint. -/
def Covers (footprint : Footprint) (address : Nat) : Prop :=
  (∃ index ∈ footprint.markers,
      markerOffset index ≤ address ∧ address < markerOffset index + 2) ∨
    ∃ range ∈ footprint.data,
      range.1 ≤ address ∧ address < range.1 + range.2

end Footprint

/-- The markers that the loop of `peekToQueue` reads. -/
def clearPaddingMarkers : Nat → Nat → ByteMemory → List Nat
  | 0, _, _ => []
  | count + 1, pos, bytes =>
      pos ::
        if marker bytes pos = skipBuffMgmtMagic then
          clearPaddingMarkers count (pos + 1)
            (setMarker bytes pos emptyBuffMgmtMagic)
        else []

def skipToMessageMarkers (count : Nat) (bytes : ByteMemory) (readPos : Nat) :
    List Nat :=
  readPos ::
    (if marker bytes readPos = skipBuffMgmtMagic then
      clearPaddingMarkers (count - readPos) readPos bytes
    else []) ++
    [(skipToMessage count bytes readPos).1]

def storeMessageMarkers (count writePos numOfSegments : Nat) : List Nat :=
  let padding := writePos + numOfSegments > count
  let start := if padding then 0 else writePos
  let next := toUInt16 (start + 1)
  let endPos := toUInt16 (next + numOfSegments - 1)
  (if padding then List.range' writePos (count - writePos) else []) ++
    start :: List.range' next (endPos - next)

/-- The markers that `popFromQueue` touches.  The last one is read by its
debug line, before a position at the end of the ring is wrapped. -/
def releaseMessageMarkers (count numOfSegments : Nat) (bytes : ByteMemory)
    (readPos : Nat) : List Nat :=
  let wraps := readPos + numOfSegments > count
  let cleared :=
    if wraps then setMarkers bytes readPos count emptyBuffMgmtMagic else bytes
  let start := if wraps then 0 else readPos
  let endPos := toUInt16 (start + numOfSegments)
  let cleared := setMarkers cleared start endPos emptyBuffMgmtMagic
  let stop := max start endPos
  let padding := stop < count ∧ marker cleared stop = skipBuffMgmtMagic
  readPos ::
    (if wraps then List.range' readPos (count - readPos) else []) ++
    List.range' start (endPos - start) ++
    (if stop < count then [stop] else []) ++
    (if padding then List.range' stop (count - stop) else []) ++
    [if padding then count else stop]

def peekFootprint (limits : Limits) (queue : SharedRingQueue) : Footprint :=
  match positions limits queue with
  | none => .empty
  | some (readPos, writePos) =>
      if readPos = writePos then .empty
      else if readPos ≥ limits.numOfDataSegments then .empty
      else
        { markers := skipToMessageMarkers limits.numOfDataSegments
            queue.bytes readPos
          data := [] }

def pushFootprint (limits : Limits) (queue : SharedRingQueue)
    (buffers : List (List UInt8)) : Footprint :=
  match positions limits queue with
  | none => .empty
  | some (readPos, writePos) =>
      match totalElemSize 0 buffers with
      | none => .empty
      | some total =>
          let numOfSegments :=
            toUInt16 (numOfDataSegmentsNeeded limits.entrySize
              (toUInt16 total))
          if !isThereEnoughMemory limits.numOfDataSegments writePos readPos
              numOfSegments then
            .empty
          else if writePos ≥ limits.numOfDataSegments then .empty
          else
            let start :=
              if writePos + numOfSegments > limits.numOfDataSegments then 0
              else writePos
            { markers := storeMessageMarkers limits.numOfDataSegments
                writePos numOfSegments
              data := [(dataSegmentAddress limits.segmentSize start,
                buffers.flatten.length)] }

def popFootprint (limits : Limits) (queue : SharedRingQueue) : Footprint :=
  match positions limits queue with
  | none => .empty
  | some (readPos, writePos) =>
      if readPos = writePos then .empty
      else
        { markers := releaseMessageMarkers limits.numOfDataSegments
            (toUInt16 (numOfDataSegmentsNeeded limits.entrySize
              (marker queue.bytes readPos))) queue.bytes readPos
          data := [] }

/-- The footprint of one call; the emptiness test reads the header only. -/
def footprint (limits : Limits) (queue : SharedRingQueue)
    (call : QueueCall) : Footprint :=
  match call with
  | .pushBuffersToQueue buffers => pushFootprint limits queue buffers
  | .pushToQueue buffer => pushFootprint limits queue [buffer]
  | .peekToQueue => peekFootprint limits queue
  | .popFromQueue => popFootprint limits queue
  | .isQueueEmpty => .empty

section Frame

variable {limits : Limits} {queue : SharedRingQueue} {address : Nat}

/-- The address lies outside all markers of the given indices. -/
def ApartFrom (markers : List Nat) (address : Nat) : Prop :=
  ∀ index ∈ markers,
    address < markerOffset index ∨ markerOffset index + 2 ≤ address

theorem ApartFrom.of_not_covers {touched : Footprint}
    (outside : ¬touched.Covers address) :
    ApartFrom touched.markers address := by
  intro index member
  by_contra inside
  exact outside (Or.inl ⟨index, member, by omega⟩)

@[simp] theorem apartFrom_append {first second : List Nat} :
    ApartFrom (first ++ second) address ↔
      ApartFrom first address ∧ ApartFrom second address := by
  simp [ApartFrom, or_imp, forall_and]

@[simp] theorem apartFrom_cons {index : Nat} {rest : List Nat} :
    ApartFrom (index :: rest) address ↔
      (address < markerOffset index ∨ markerOffset index + 2 ≤ address) ∧
        ApartFrom rest address := by
  simp [ApartFrom]

theorem setMarker_apply_outside (bytes : ByteMemory) {index value : Nat}
    (outside : address < markerOffset index ∨
      markerOffset index + 2 ≤ address) :
    setMarker bytes index value address = bytes address := by
  apply write_apply_outside
  simpa using outside

theorem setMarkers_apply_outside (bytes : ByteMemory)
    {pos stop value address : Nat}
    (outside : ∀ index, pos ≤ index → index < stop →
      address < markerOffset index ∨ markerOffset index + 2 ≤ address) :
    setMarkers bytes pos stop value address = bytes address := by
  have general : ∀ count pos bytes,
      (∀ index, pos ≤ index → index < pos + count →
        address < markerOffset index ∨ markerOffset index + 2 ≤ address) →
      fillMarkers value count pos bytes address = bytes address := by
    intro count
    induction count with
    | zero => intro pos bytes _; rfl
    | succ count induction =>
        intro pos bytes outside
        rw [fillMarkers, induction (pos + 1) _ (fun index lower upper =>
          outside index (by omega) (by omega))]
        apply write_apply_outside
        simpa using outside pos (Nat.le_refl pos) (by omega)
  apply general
  intro index lower upper
  exact outside index lower (by omega)

theorem setMarkers_apply_apart (bytes : ByteMemory) (value : Nat)
    {pos stop : Nat}
    (outside : ApartFrom (List.range' pos (stop - pos)) address) :
    setMarkers bytes pos stop value address = bytes address := by
  apply setMarkers_apply_outside
  intro index lower upper
  refine outside index (List.mem_range'_1.mpr ?_)
  omega

theorem clearPadding_frame {count pos : Nat} {bytes : ByteMemory}
    (outside : ApartFrom (clearPaddingMarkers count pos bytes) address) :
    (clearPadding count pos bytes).2 address = bytes address := by
  induction count generalizing pos bytes with
  | zero => rfl
  | succ count induction =>
      rw [clearPaddingMarkers, apartFrom_cons] at outside
      rw [clearPadding]
      split
      · rename_i padding
        rw [if_pos padding] at outside
        rw [induction outside.2, setMarker_apply_outside bytes outside.1]
      · rfl

theorem skipToMessage_frame {count readPos : Nat} {bytes : ByteMemory}
    (outside : ApartFrom (skipToMessageMarkers count bytes readPos)
      address) :
    (skipToMessage count bytes readPos).2 address = bytes address := by
  simp only [skipToMessageMarkers, List.cons_append, apartFrom_cons,
    apartFrom_append] at outside
  rw [skipToMessage]
  split
  · rename_i padding
    rw [if_pos padding] at outside
    exact clearPadding_frame outside.2.1
  · rfl

theorem storeMessageMarkers_frame
    {count segmentSize writePos numOfSegments size : Nat}
    {bytes : ByteMemory} {buffers : List (List UInt8)}
    (outside : ApartFrom (storeMessageMarkers count writePos numOfSegments)
      address)
    (data :
      let start := if writePos + numOfSegments > count then 0 else writePos
      address < dataSegmentAddress segmentSize start ∨
        dataSegmentAddress segmentSize start + buffers.flatten.length ≤
          address) :
    (storeMessage count segmentSize bytes writePos numOfSegments size
      buffers).2 address = bytes address := by
  simp only [storeMessageMarkers, apartFrom_append, apartFrom_cons]
    at outside
  obtain ⟨padded, head, tail⟩ := outside
  dsimp only at data
  rw [storeMessage]
  dsimp only
  rw [setMarkers_apply_apart _ _ tail, writeAll_eq_write,
    write_apply_outside data, setMarker_apply_outside _ head]
  split
  · rename_i padding
    rw [if_pos padding] at padded
    exact setMarkers_apply_apart bytes _ padded
  · rfl

theorem releaseMessage_frame {count numOfSegments readPos : Nat}
    {bytes : ByteMemory}
    (outside : ApartFrom
      (releaseMessageMarkers count numOfSegments bytes readPos) address) :
    (releaseMessage count numOfSegments bytes readPos).2 address =
      bytes address := by
  simp only [releaseMessageMarkers, List.cons_append, apartFrom_cons,
    apartFrom_append] at outside
  obtain ⟨_, ⟨⟨⟨wrapped, message⟩, _⟩, padded⟩, _⟩ := outside
  have released : ∀ memory stop,
      (memory address = bytes address) →
      ApartFrom (List.range' stop (count - stop)) address →
      setMarkers memory stop count emptyBuffMgmtMagic address =
        bytes address := by
    intro memory stop same apart
    rw [setMarkers_apply_apart memory _ apart, same]
  rw [releaseMessage]
  dsimp only
  by_cases wraps : readPos + numOfSegments > count
  · simp only [if_pos wraps] at wrapped message padded ⊢
    have cleared := (setMarkers_apply_apart _ emptyBuffMgmtMagic
      message).trans (setMarkers_apply_apart bytes emptyBuffMgmtMagic wrapped)
    split
    · rename_i padding
      rw [if_pos padding] at padded
      exact released _ _ cleared padded
    · exact cleared
  · simp only [if_neg wraps] at message padded ⊢
    have cleared := setMarkers_apply_apart bytes emptyBuffMgmtMagic message
    split
    · rename_i padding
      rw [if_pos padding] at padded
      exact released _ _ cleared padded
    · exact cleared

theorem push_frame (buffers : List (List UInt8))
    (outside : ¬(pushFootprint limits queue buffers).Covers address) :
    (push limits queue buffers).2.bytes address = queue.bytes address := by
  unfold pushFootprint at outside
  unfold push
  cases found : positions limits queue with
  | none => rfl
  | some pair =>
      obtain ⟨readPos, writePos⟩ := pair
      cases summed : totalElemSize 0 buffers with
      | none => rfl
      | some total =>
          simp only [found, summed] at outside ⊢
          split
          · rfl
          · rename_i admitted
            rw [if_neg admitted] at outside
            split
            · rfl
            · rename_i inside
              rw [if_neg inside] at outside
              refine storeMessageMarkers_frame
                (ApartFrom.of_not_covers outside) ?_
              dsimp only
              by_contra within
              exact outside (Or.inr ⟨_, List.mem_singleton_self _,
                by dsimp only; omega⟩)

/-- A call changes no byte outside its footprint. -/
theorem serve_frame (call : QueueCall)
    (outside : ¬(footprint limits queue call).Covers address) :
    (serve limits queue call).queue.bytes address = queue.bytes address := by
  cases call with
  | pushBuffersToQueue buffers => exact push_frame buffers outside
  | pushToQueue buffer => exact push_frame [buffer] outside
  | peekToQueue =>
      simp only [footprint, peekFootprint] at outside
      simp only [serve, peek]
      cases found : positions limits queue with
      | none => rfl
      | some pair =>
          simp only [found] at outside ⊢
          split
          · rfl
          · rename_i apart
            rw [if_neg apart] at outside
            split
            · rfl
            · rename_i inside
              rw [if_neg inside] at outside
              exact skipToMessage_frame (ApartFrom.of_not_covers outside)
  | popFromQueue =>
      simp only [footprint, popFootprint] at outside
      simp only [serve, pop]
      cases found : positions limits queue with
      | none => rfl
      | some pair =>
          simp only [found] at outside ⊢
          split
          · rfl
          · rename_i apart
            rw [if_neg apart] at outside
            exact releaseMessage_frame (ApartFrom.of_not_covers outside)
  | isQueueEmpty => rfl

end Frame

theorem mem_clearPaddingMarkers {count pos index : Nat} {bytes : ByteMemory}
    (member : index ∈ clearPaddingMarkers count pos bytes) :
    pos ≤ index ∧ index < pos + count := by
  induction count generalizing pos bytes with
  | zero => cases member
  | succ count induction =>
      rw [clearPaddingMarkers] at member
      rcases List.mem_cons.mp member with rfl | later
      · omega
      · split at later
        · have bounds := induction later
          omega
        · cases later

theorem clearPadding_le (count pos : Nat) (bytes : ByteMemory) :
    (clearPadding count pos bytes).1 ≤ pos + count := by
  induction count generalizing pos bytes with
  | zero => exact Nat.le_refl pos
  | succ count induction =>
      rw [clearPadding]
      split
      · have bound := induction (pos + 1)
          (setMarker bytes pos emptyBuffMgmtMagic)
        omega
      · exact Nat.le_add_right pos _

theorem skipToMessage_lt {count readPos : Nat} (inside : readPos < count)
    (bytes : ByteMemory) : (skipToMessage count bytes readPos).1 < count := by
  have bound := clearPadding_le (count - readPos) readPos bytes
  rw [skipToMessage]
  dsimp only
  split <;> split <;> omega

theorem skipToMessageMarkers_lt {count readPos : Nat}
    (inside : readPos < count) (bytes : ByteMemory) :
    ∀ index ∈ skipToMessageMarkers count bytes readPos, index < count := by
  intro index member
  have last := skipToMessage_lt inside bytes
  simp only [skipToMessageMarkers, List.cons_append, List.mem_cons,
    List.mem_append, List.not_mem_nil, or_false] at member
  rcases member with rfl | cleared | rfl
  · exact inside
  · split at cleared
    · have bounds := mem_clearPaddingMarkers cleared
      omega
    · cases cleared
  · exact last

/-- A placement of an admitted width stays inside the marker table, also for
a message of no bytes. -/
theorem storeMessageMarkers_lt {count writePos width : Nat}
    (narrower : width < count) (inside : writePos < count)
    (bounded : count ≤ maxNumOfDataSegments) :
    ∀ index ∈ storeMessageMarkers count writePos width, index < count := by
  simp only [maxNumOfDataSegments, sharedMemorySegmentEntrySize] at bounded
  intro index member
  by_cases wraps : writePos + width > count
  · have next : toUInt16 (0 + 1) = 1 := rfl
    have last : toUInt16 (1 + width - 1) = width := by
      rw [toUInt16_of_lt (by omega)]
      omega
    simp only [storeMessageMarkers, if_pos wraps, next, last,
      List.mem_append, List.mem_cons, List.mem_range'_1] at member
    omega
  · have next : toUInt16 (writePos + 1) = writePos + 1 :=
      toUInt16_of_lt (by omega)
    have last : toUInt16 (writePos + 1 + width - 1) = writePos + width := by
      rw [toUInt16_of_lt (by omega)]
      omega
    simp only [storeMessageMarkers, if_neg wraps, next, last,
      List.nil_append, List.mem_cons, List.mem_range'_1] at member
    omega

/-- The release of so many segments stays inside the ring: it ends before the
end of the ring, on no padding. -/
def ReleasesInside (count numOfSegments : Nat) (bytes : ByteMemory)
    (readPos : Nat) : Prop :=
  if readPos + numOfSegments > count then
    numOfSegments < count ∧
      (numOfSegments < readPos →
        marker bytes numOfSegments ≠ skipBuffMgmtMagic)
  else
    readPos + numOfSegments < count ∧
      marker bytes (readPos + numOfSegments) ≠ skipBuffMgmtMagic

/-- The markers of a pop lie in the ring, and so does the position it leaves,
exactly when it stops in front of the end of the ring and not on padding. -/
theorem releaseMessage_inside_iff_stop {count numOfSegments readPos : Nat}
    {bytes : ByteMemory} (inside : readPos < count) :
    let wraps := readPos + numOfSegments > count
    let cleared :=
      if wraps then setMarkers bytes readPos count emptyBuffMgmtMagic
      else bytes
    let start := if wraps then 0 else readPos
    let endPos := toUInt16 (start + numOfSegments)
    let stop := max start endPos
    ((∀ index ∈ releaseMessageMarkers count numOfSegments bytes readPos,
        index < count) ∧
      (releaseMessage count numOfSegments bytes readPos).1 < count) ↔
      stop < count ∧
        marker (setMarkers cleared start endPos emptyBuffMgmtMagic) stop ≠
          skipBuffMgmtMagic := by
  intro wraps cleared start endPos stop
  constructor
  · rintro ⟨markers, _⟩
    have last := markers
      (if stop < count ∧ marker
          (setMarkers cleared start endPos emptyBuffMgmtMagic) stop =
            skipBuffMgmtMagic then count else stop)
      (List.mem_append_right _ (List.mem_singleton_self _))
    split at last
    · omega
    · rename_i message
      exact ⟨last, fun padding => message ⟨last, padding⟩⟩
  · rintro ⟨short, message⟩
    have noPadding : ¬(stop < count ∧ marker
        (setMarkers cleared start endPos emptyBuffMgmtMagic) stop =
          skipBuffMgmtMagic) :=
      fun padding => message padding.2
    have ordered : endPos ≤ stop := Nat.le_max_right _ _
    constructor
    · intro index member
      change index ∈ readPos ::
        (if wraps then List.range' readPos (count - readPos) else []) ++
        List.range' start (endPos - start) ++
        (if stop < count then [stop] else []) ++
        (if stop < count ∧ marker
          (setMarkers cleared start endPos emptyBuffMgmtMagic) stop =
            skipBuffMgmtMagic then List.range' stop (count - stop) else []) ++
        [if stop < count ∧ marker
          (setMarkers cleared start endPos emptyBuffMgmtMagic) stop =
            skipBuffMgmtMagic then count else stop] at member
      rw [if_neg noPadding, if_neg noPadding, if_pos short] at member
      simp only [List.cons_append, List.mem_cons, List.mem_append,
        List.not_mem_nil, or_false, List.mem_range'_1] at member
      rcases member with rfl | ((wrapped | message) | rfl) | rfl
      · exact inside
      · split at wrapped
        · have bounds := List.mem_range'_1.mp wrapped
          omega
        · cases wrapped
      · omega
      · exact short
      · exact short
    · change (if (if stop < count ∧ marker
          (setMarkers cleared start endPos emptyBuffMgmtMagic) stop =
            skipBuffMgmtMagic then count else stop) = count then 0
        else if stop < count ∧ marker
          (setMarkers cleared start endPos emptyBuffMgmtMagic) stop =
            skipBuffMgmtMagic then count else stop) < count
      rw [if_neg noPadding]
      split <;> omega

/-- A pop touches only markers of the ring and leaves a position inside it
exactly when its release stays inside. -/
theorem releaseMessage_inside_iff {count numOfSegments readPos : Nat}
    {bytes : ByteMemory} (narrow : numOfSegments ≤ 64)
    (bounded : count ≤ maxNumOfDataSegments) (inside : readPos < count) :
    ((∀ index ∈ releaseMessageMarkers count numOfSegments bytes readPos,
        index < count) ∧
      (releaseMessage count numOfSegments bytes readPos).1 < count) ↔
      ReleasesInside count numOfSegments bytes readPos := by
  simp only [maxNumOfDataSegments, sharedMemorySegmentEntrySize] at bounded
  refine (releaseMessage_inside_iff_stop inside).trans ?_
  unfold ReleasesInside
  by_cases wraps : readPos + numOfSegments > count
  · have endPos : toUInt16 (0 + numOfSegments) = numOfSegments := by
      rw [toUInt16_of_lt (by omega), Nat.zero_add]
    have furthest : max 0 numOfSegments = numOfSegments := by omega
    simp only [if_pos wraps, endPos, furthest]
    apply and_congr_right
    intro short
    rw [marker_setMarkers_outside empty_lt (Or.inr (Nat.le_refl _)),
      marker_setMarkers bytes empty_lt]
    split
    · simp only [emptyBuffMgmtMagic, skipBuffMgmtMagic]
      omega
    · rename_i before
      have earlier : numOfSegments < readPos := by omega
      simp [earlier]
  · have endPos : toUInt16 (readPos + numOfSegments) =
        readPos + numOfSegments :=
      toUInt16_of_lt (by omega)
    have furthest : max readPos (readPos + numOfSegments) =
        readPos + numOfSegments := by
      omega
    simp only [if_neg wraps, endPos, furthest]
    rw [marker_setMarkers_outside empty_lt (Or.inr (Nat.le_refl _))]

end OpenAppsec.Ring
