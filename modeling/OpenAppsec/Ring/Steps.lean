import OpenAppsec.Ring.Layout

/-!
# What the operations do to the layout

One lemma for each operation: an admitted message extends the occupied part
of the ring, the padding loop of a peek moves the read position onto the next
message, and a pop releases exactly the first message.
-/

namespace OpenAppsec.Ring

open ByteMemory

theorem skip_lt : skipBuffMgmtMagic < 65536 := by decide

theorem empty_lt : emptyBuffMgmtMagic < 65536 := by decide

/-- The memory after a message has been written at a position. -/
def stored (g : Geometry) (bytes : ByteMemory) (pos : Nat)
    (payload : List UInt8) : ByteMemory :=
  setMarkers
    ((setMarker bytes pos payload.length).write (g.address pos) payload)
    (pos + 1) (pos + g.needed payload.length) skipBuffMgmtMagic

section Stored

variable {g : Geometry} {bytes : ByteMemory} {pos : Nat}
variable {payload : List UInt8}

theorem marker_write_payload {index : Nat} (within : index < g.count)
    (segment : Nat) :
    marker (bytes.write (g.address segment) payload) index =
      marker bytes index := by
  have below : markerOffset (index + 1) ≤ g.address segment :=
    g.markerOffset_le_address within segment
  have agree : AgreeOn (bytes.write (g.address segment) payload) bytes
      (markerOffset index) (markerOffset index + 2) :=
    agreeOn_write (Or.inl below)
  exact agree.readWord_eq (Nat.le_refl _) (Nat.le_refl _)

theorem marker_stored_outside {index : Nat} (within : index < g.count)
    (size : IsMessage payload)
    (outside : index < pos ∨ pos + g.needed payload.length ≤ index) :
    marker (stored g bytes pos payload) index = marker bytes index := by
  have positive := g.needed_pos size.1
  rw [stored, marker_setMarkers_outside (by decide) (by omega),
    marker_write_payload within, marker_setMarker_other _ (by omega)]

theorem marker_stored_head (within : pos < g.count)
    (size : IsMessage payload) :
    marker (stored g bytes pos payload) pos = payload.length := by
  have bound := size.2
  simp only [maxWriteSize] at bound
  rw [stored, marker_setMarkers_outside (by decide) (by omega),
    marker_write_payload within, marker_setMarker_same _ _ (by omega)]

theorem marker_stored_tail {index : Nat} (lower : pos < index)
    (upper : index < pos + g.needed payload.length) :
    marker (stored g bytes pos payload) index = skipBuffMgmtMagic :=
  marker_setMarkers_inside (by decide) lower upper

theorem sameSegments_stored (size : IsMessage payload) {low high : Nat}
    (within : pos + g.needed payload.length ≤ g.count)
    (bounded : high ≤ g.count)
    (apart : high ≤ pos ∨ pos + g.needed payload.length ≤ low) :
    SameSegments g (stored g bytes pos payload) bytes low high := by
  have positive := g.needed_pos size.1
  refine ⟨fun index above below =>
    marker_stored_outside (by omega) size (by omega), ?_⟩
  have afterMarkers : AgreeOn (stored g bytes pos payload)
      ((setMarker bytes pos payload.length).write (g.address pos) payload)
      (g.address low) (g.address high) :=
    agreeOn_setMarkers _ _ (by omega)
      (g.markerOffset_le_address within low)
  have afterPayload : AgreeOn
      ((setMarker bytes pos payload.length).write (g.address pos) payload)
      (setMarker bytes pos payload.length)
      (g.address low) (g.address high) := by
    refine agreeOn_write ?_
    rcases apart with before | after
    · exact Or.inl (g.address_mono before)
    · exact Or.inr (Nat.le_trans (g.address_add_size_le pos _)
        (g.address_mono after))
  have afterHead : AgreeOn (setMarker bytes pos payload.length) bytes
      (g.address low) (g.address high) := by
    have below : markerOffset (pos + 1) ≤ g.address low :=
      g.markerOffset_le_address (by omega) low
    exact agreeOn_writeWord (Or.inr below)
  exact (afterMarkers.trans afterPayload).trans afterHead

theorem read_stored (size : IsMessage payload)
    (within : pos + g.needed payload.length ≤ g.count) :
    (stored g bytes pos payload).read (g.address pos) payload.length =
      payload := by
  have positive := g.needed_pos size.1
  have agree : AgreeOn (stored g bytes pos payload)
      ((setMarker bytes pos payload.length).write (g.address pos) payload)
      (g.address pos) (g.address pos + payload.length) :=
    agreeOn_setMarkers _ _ (by omega)
      (g.markerOffset_le_address within pos)
  rw [agree.read_eq (Nat.le_refl _) (Nat.le_refl _), read_write_same]

theorem laid_stored (bytes : ByteMemory) (size : IsMessage payload)
    (within : pos + g.needed payload.length ≤ g.count) :
    Laid g (stored g bytes pos payload) pos
      (pos + g.needed payload.length) [payload] := by
  have positive := g.needed_pos size.1
  exact .cons size (marker_stored_head (by omega) size)
    (fun index lower upper => marker_stored_tail lower upper)
    (read_stored size within) (.nil _)

end Stored

section StoreMessage

variable {g : Geometry} {bytes : ByteMemory} {writePos : Nat}
variable {buffers : List (List UInt8)}

theorem storeMessage_of_le (size : IsMessage buffers.flatten)
    (within : writePos + g.needed buffers.flatten.length ≤ g.count) :
    storeMessage g.count g.segmentSize bytes writePos
        (g.needed buffers.flatten.length) buffers.flatten.length buffers =
      (if writePos + g.needed buffers.flatten.length = g.count then 0
        else writePos + g.needed buffers.flatten.length,
        stored g bytes writePos buffers.flatten) := by
  have positive := g.needed_pos size.1
  have bounded := g.bounded
  simp only [maxNumOfDataSegments, sharedMemorySegmentEntrySize] at bounded
  have noPadding :
      ¬(writePos + g.needed buffers.flatten.length > g.count) := by omega
  have next : toUInt16 (writePos + 1) = writePos + 1 :=
    toUInt16_of_lt (by omega)
  have last :
      toUInt16 (writePos + 1 + g.needed buffers.flatten.length - 1) =
        writePos + g.needed buffers.flatten.length := by
    rw [toUInt16_of_lt (by omega)]
    omega
  have furthest :
      max (writePos + 1) (writePos + g.needed buffers.flatten.length) =
        writePos + g.needed buffers.flatten.length := by
    omega
  have atEnd :
      (writePos + g.needed buffers.flatten.length ≥ g.count) =
        (writePos + g.needed buffers.flatten.length = g.count) :=
    propext ⟨fun reached => by omega, fun reached => by omega⟩
  simp only [storeMessage, if_neg noPadding, next, last, furthest, atEnd,
    writeAll_eq_write]
  rfl

theorem storeMessage_of_gt (size : IsMessage buffers.flatten)
    (wraps : g.count < writePos + g.needed buffers.flatten.length)
    (within : g.needed buffers.flatten.length < g.count) :
    storeMessage g.count g.segmentSize bytes writePos
        (g.needed buffers.flatten.length) buffers.flatten.length buffers =
      (g.needed buffers.flatten.length,
        stored g (setMarkers bytes writePos g.count skipBuffMgmtMagic) 0
          buffers.flatten) := by
  have positive := g.needed_pos size.1
  have bounded := g.bounded
  simp only [maxNumOfDataSegments, sharedMemorySegmentEntrySize] at bounded
  have last :
      toUInt16 (0 + 1 + g.needed buffers.flatten.length - 1) =
        g.needed buffers.flatten.length := by
    rw [toUInt16_of_lt (by omega)]
    omega
  have furthest : max (0 + 1) (g.needed buffers.flatten.length) =
      g.needed buffers.flatten.length := by
    omega
  have notAtEnd : ¬(g.needed buffers.flatten.length ≥ g.count) := by omega
  have next : toUInt16 (0 + 1) = 0 + 1 := rfl
  have padding :
      writePos + g.needed buffers.flatten.length > g.count := wraps
  simp only [storeMessage, if_pos padding, next, last, furthest,
    if_neg notAtEnd, writeAll_eq_write, stored, Nat.zero_add]
  rfl

end StoreMessage

/-- The segments that a message of the given width writes, its padding
included. -/
def Written (count writePos width index : Nat) : Prop :=
  if writePos + width > count then
    (writePos ≤ index ∧ index < count) ∨ index < width
  else
    writePos ≤ index ∧ index < writePos + width

/-- Every segment that a push writes is unoccupied. -/
def TargetsFree (count readPos writePos width : Nat) : Prop :=
  ∀ index < count, Written count writePos width index →
    Unoccupied readPos writePos index

instance (count readPos writePos width : Nat) :
    Decidable (TargetsFree count readPos writePos width) := by
  unfold TargetsFree Written Unoccupied
  infer_instance

/-- The three ways in which a message finds room. -/
inductive Room (count readPos writePos width : Nat) : Prop where
  | here (inside : writePos + width < count)
      (free : readPos ≤ writePos ∨ writePos + width < readPos)
  | edge (reaches : writePos + width = count) (straight : readPos ≤ writePos)
      (free : 0 < readPos)
  | start (wraps : count < writePos + width) (straight : readPos ≤ writePos)
      (free : width < readPos)

/-- The admission check is right about every push that, from behind the
reader, stays short of the end of the ring. -/
theorem isThereEnoughMemory_room {count readPos writePos width : Nat}
    (admitted : isThereEnoughMemory count writePos readPos width = true)
    (narrow : width ≤ 64) (bounded : count ≤ maxNumOfDataSegments)
    (readInside : readPos < count) (writeInside : writePos < count)
    (notBehind : writePos < readPos → writePos + width < count) :
    Room count readPos writePos width := by
  simp only [maxNumOfDataSegments, sharedMemorySegmentEntrySize] at bounded
  have width8 : toUInt8 width = width := toUInt8_of_lt (by omega)
  have read16 : toUInt16 (readPos + count) = readPos + count :=
    toUInt16_of_lt (by omega)
  simp only [isThereEnoughMemory, width8, read16] at admitted
  have narrower : width < count := by
    by_contra wide
    simp [Nat.le_of_not_lt wide] at admitted
  rw [if_neg (by omega)] at admitted
  rcases Nat.lt_trichotomy (writePos + width) count with inside | edge | wraps
  · rw [if_neg (show ¬(writePos + width > count) by omega)] at admitted
    rw [if_neg (by omega)] at admitted
    simp only [Bool.or_eq_true, decide_eq_true_eq] at admitted
    exact .here inside (by omega)
  · rw [if_neg (show ¬(writePos + width > count) by omega)] at admitted
    rw [if_pos (by omega)] at admitted
    simp only [Bool.or_eq_true, decide_eq_true_eq] at admitted
    exact .edge edge (by omega) (by omega)
  · have padded8 : toUInt8 (width + (count - writePos)) =
        width + (count - writePos) :=
      toUInt8_of_lt (by omega)
    rw [if_pos (show writePos + width > count from wraps), padded8,
      if_pos (by omega)] at admitted
    simp only [Bool.or_eq_true, decide_eq_true_eq] at admitted
    exact .start wraps (by omega) (by omega)

theorem Room.lt {count readPos writePos width : Nat}
    (room : Room count readPos writePos width)
    (readInside : readPos < count) : width < count := by
  cases room with
  | here inside => omega
  | edge reaches straight free => omega
  | start _ _ free => exact Nat.lt_trans free readInside

section Store

variable {g : Geometry} {bytes : ByteMemory} {readPos writePos : Nat}
variable {messages buffers : List (List UInt8)}

/-- The next write position and the memory after a push. -/
def afterPush (g : Geometry) (bytes : ByteMemory) (writePos : Nat)
    (buffers : List (List UInt8)) : Nat × ByteMemory :=
  storeMessage g.count g.segmentSize bytes writePos
    (g.needed buffers.flatten.length) buffers.flatten.length buffers

theorem sameSegments_afterPush (size : IsMessage buffers.flatten)
    (writeInside : writePos < g.count)
    (narrower : g.needed buffers.flatten.length < g.count) {low high : Nat}
    (bounded : high ≤ g.count)
    (apart : ∀ index, low ≤ index → index < high →
      ¬Written g.count writePos (g.needed buffers.flatten.length) index) :
    SameSegments g (afterPush g bytes writePos buffers).2 bytes low high := by
  have positive := g.needed_pos size.1
  rcases Nat.lt_or_ge low high with some | none
  case inr =>
    have ordered := g.address_mono none
    exact ⟨fun index above below => by omega,
      fun address above below => by omega⟩
  by_cases wraps : writePos + g.needed buffers.flatten.length > g.count
  · have first := apart low (Nat.le_refl low) some
    have last := apart (high - 1) (by omega) (by omega)
    simp only [Written, if_pos wraps] at first last
    rw [afterPush, storeMessage_of_gt size wraps narrower]
    exact (sameSegments_stored size (by omega) bounded
      (Or.inr (by omega))).trans
      (sameSegments_setMarkers bytes skip_lt (Nat.le_of_lt writeInside)
        (Nat.le_refl g.count) (Or.inl (by omega)))
  · have within := Nat.le_of_not_lt wraps
    have separate : high ≤ writePos ∨
        writePos + g.needed buffers.flatten.length ≤ low := by
      by_contra overlapping
      have meets := apart (max low writePos) (by omega) (by omega)
      simp only [Written, if_neg wraps] at meets
      omega
    rw [afterPush, storeMessage_of_le size within]
    exact sameSegments_stored size within bounded separate

/-- A push does not disturb what is already in the ring, so a consumer that
still sees the old write position finds the same messages. -/
theorem Body.kept (body : Body g bytes readPos writePos messages)
    (size : IsMessage buffers.flatten)
    (room : Room g.count readPos writePos
      (g.needed buffers.flatten.length)) :
    Body g (afterPush g bytes writePos buffers).2 readPos writePos
      messages := by
  have readInside := body.readPos_lt
  have writeInside := body.writePos_lt
  have narrower := room.lt readInside
  have same : ∀ low high, high ≤ g.count →
      (∀ index, low ≤ index → index < high →
        ¬Written g.count writePos (g.needed buffers.flatten.length) index) →
      SameSegments g (afterPush g bytes writePos buffers).2 bytes low high :=
    fun low high => sameSegments_afterPush size writeInside narrower
  cases body with
  | straight inside laid =>
      have ordered := laid.le
      refine .straight inside (laid.congr (same _ _ (by omega) ?_))
      intro index lower upper
      unfold Written
      cases room with
      | here inside free => rw [if_neg (by omega)]; omega
      | edge reaches straight free => rw [if_neg (by omega)]; omega
      | start wraps straight free => rw [if_pos (by omega)]; omega
  | wrapped behind _ laidFront within padding tight laidBack =>
      have ordered := laidFront.le
      have free : writePos + g.needed buffers.flatten.length < readPos := by
        cases room with
        | here _ free => omega
        | edge _ straight => omega
        | start _ straight => omega
      have outside : ∀ index, (index < writePos ∨ readPos ≤ index) →
          ¬Written g.count writePos (g.needed buffers.flatten.length)
            index := by
        intro index apart
        unfold Written
        rw [if_neg (by omega)]
        omega
      refine .wrapped behind readInside
        (laidFront.congr (same _ _ within ?_)) within ?_ tight
        (laidBack.congr (same _ _ (by omega) ?_))
      · exact fun index lower _ => outside index (Or.inr lower)
      · intro index lower upper
        have unchanged := (same _ _ (Nat.le_refl g.count)
          (fun other above _ => outside other (Or.inr above))).markers
            index (Nat.le_trans ordered lower) upper
        rw [unchanged]
        exact padding index lower upper
      · exact fun index _ upper => outside index (Or.inl upper)

theorem laid_afterPush_of_le (bytes : ByteMemory)
    (size : IsMessage buffers.flatten)
    (within : writePos + g.needed buffers.flatten.length ≤ g.count) :
    Laid g (afterPush g bytes writePos buffers).2 writePos
      (writePos + g.needed buffers.flatten.length) [buffers.flatten] := by
  rw [afterPush, storeMessage_of_le size within]
  exact laid_stored bytes size within

theorem laid_afterPush_of_gt (bytes : ByteMemory)
    (size : IsMessage buffers.flatten)
    (wraps : g.count < writePos + g.needed buffers.flatten.length)
    (narrower : g.needed buffers.flatten.length < g.count) :
    Laid g (afterPush g bytes writePos buffers).2 0
      (g.needed buffers.flatten.length) [buffers.flatten] := by
  have within : 0 + g.needed buffers.flatten.length ≤ g.count := by omega
  have laid := laid_stored
    (setMarkers bytes writePos g.count skipBuffMgmtMagic) size within
  rw [Nat.zero_add] at laid
  rwa [afterPush, storeMessage_of_gt size wraps narrower]

/-- An admitted message joins the occupied part of the ring. -/
theorem Body.push (body : Body g bytes readPos writePos messages)
    (size : IsMessage buffers.flatten)
    (room : Room g.count readPos writePos
      (g.needed buffers.flatten.length)) :
    Body g (afterPush g bytes writePos buffers).2 readPos
      (afterPush g bytes writePos buffers).1
      (messages ++ [buffers.flatten]) := by
  have readInside := body.readPos_lt
  have writeInside := body.writePos_lt
  have kept := body.kept size room
  cases room with
  | here inside free =>
      have added := laid_afterPush_of_le bytes size (Nat.le_of_lt inside)
      have next : (afterPush g bytes writePos buffers).1 =
          writePos + g.needed buffers.flatten.length := by
        rw [afterPush, storeMessage_of_le size (Nat.le_of_lt inside),
          if_neg (Nat.ne_of_lt inside)]
      rw [next]
      cases kept with
      | straight _ laid => exact .straight inside (laid.append added)
      | wrapped behind _ laidFront within padding tight laidBack =>
          rw [List.append_assoc]
          refine .wrapped (by omega) readInside laidFront within padding ?_
            (laidBack.append added)
          intro short
          obtain ⟨payload, rest, rfl, overflow⟩ := tight short
          exact ⟨payload, rest ++ [buffers.flatten], rfl, overflow⟩
  | edge reaches straight free =>
      have within := Nat.le_of_eq reaches
      have added := laid_afterPush_of_le bytes size within
      have next : (afterPush g bytes writePos buffers).1 = 0 := by
        rw [afterPush, storeMessage_of_le size within, if_pos reaches]
      rw [next]
      cases kept with
      | straight _ laid =>
          have whole := Body.wrapped free readInside (laid.append added)
            within (fun index lower upper => by omega)
            (fun short => by omega) (Laid.nil 0)
          simpa only [List.append_nil] using whole
      | wrapped behind => omega
  | start wraps straight free =>
      have narrower : g.needed buffers.flatten.length < g.count := by omega
      have added := laid_afterPush_of_gt bytes size wraps narrower
      have next : (afterPush g bytes writePos buffers).1 =
          g.needed buffers.flatten.length := by
        rw [afterPush, storeMessage_of_gt size wraps narrower]
      rw [next]
      cases kept with
      | straight _ laid =>
          refine .wrapped free readInside laid (Nat.le_of_lt writeInside) ?_
            (fun _ => ⟨_, [], rfl, wraps⟩) added
          intro index lower upper
          rw [afterPush, storeMessage_of_gt size wraps narrower,
            marker_stored_outside upper size (Or.inr (by omega)),
            marker_setMarkers_inside skip_lt lower upper]
      | wrapped behind => omega

/-- The segments that remain unoccupied are still marked empty. -/
theorem Free.push (free : Free g bytes readPos writePos)
    (size : IsMessage buffers.flatten) (readInside : readPos < g.count)
    (writeInside : writePos < g.count)
    (room : Room g.count readPos writePos
      (g.needed buffers.flatten.length)) :
    Free g (afterPush g bytes writePos buffers).2 readPos
      (afterPush g bytes writePos buffers).1 := by
  have positive := g.needed_pos size.1
  have narrower := room.lt readInside
  intro index within unoccupied
  have before : Unoccupied readPos writePos index ∧
      ¬Written g.count writePos (g.needed buffers.flatten.length) index := by
    revert unoccupied
    unfold Written Unoccupied
    cases room with
    | here inside room =>
        rw [afterPush, storeMessage_of_le size (Nat.le_of_lt inside),
          if_neg (Nat.ne_of_lt inside)]
        grind
    | edge reaches straight room =>
        rw [afterPush, storeMessage_of_le size (Nat.le_of_eq reaches),
          if_pos reaches]
        grind
    | start wraps straight room =>
        rw [afterPush, storeMessage_of_gt size wraps narrower]
        grind
  have same : SameSegments g (afterPush g bytes writePos buffers).2 bytes
      index (index + 1) := by
    refine sameSegments_afterPush size writeInside narrower within ?_
    intro other lower upper
    rw [Nat.le_antisymm (Nat.le_of_lt_succ upper) lower]
    exact before.2
  rw [same.markers index (Nat.le_refl index) (Nat.lt_succ_self index)]
  exact free index within before.1

end Store

section Skip

variable {g : Geometry} {bytes : ByteMemory} {readPos writePos : Nat}
variable {payload : List UInt8} {rest : List (List UInt8)}

theorem skipToMessage_of_ne (inside : readPos < g.count)
    (message : marker bytes readPos ≠ skipBuffMgmtMagic) :
    skipToMessage g.count bytes readPos = (readPos, bytes) := by
  simp only [skipToMessage, if_neg message, if_neg (Nat.ne_of_lt inside)]

theorem skipToMessage_of_padding (inside : readPos < g.count)
    (padding : ∀ index, readPos ≤ index → index < g.count →
      marker bytes index = skipBuffMgmtMagic) :
    skipToMessage g.count bytes readPos =
      (0, setMarkers bytes readPos g.count emptyBuffMgmtMagic) := by
  have whole : readPos + (g.count - readPos) = g.count := by omega
  have cleared : clearPadding (g.count - readPos) readPos bytes =
      (g.count, setMarkers bytes readPos g.count emptyBuffMgmtMagic) := by
    rw [clearPadding_eq bytes (fun index lower upper =>
      padding index lower (whole ▸ upper)), whole]
  have first := padding readPos (Nat.le_refl readPos) inside
  simp only [skipToMessage, if_pos first, cleared, if_true]

/-- Where the reader stands: on its next message, or on the padding that
precedes it. -/
theorem Body.head_cases
    (body : Body g bytes readPos writePos (payload :: rest)) :
    (∃ stop later, Laid g bytes readPos stop (payload :: later)) ∨
      (writePos < readPos ∧ Laid g bytes 0 writePos (payload :: rest) ∧
        g.count < readPos + g.needed payload.length ∧
        ∀ index, readPos ≤ index → index < g.count →
          marker bytes index = skipBuffMgmtMagic) := by
  generalize whole : payload :: rest = messages at body
  cases body with
  | straight _ laid =>
      subst whole
      exact Or.inl ⟨_, _, laid⟩
  | @wrapped _ stop front back behind inside laidFront _ padding tight
      laidBack =>
      cases front with
      | nil =>
          have atStop := laidFront.eq_nil_iff.mp rfl
          subst atStop
          obtain ⟨next, later, backCons, overflow⟩ := tight inside
          rw [List.nil_append] at whole
          subst whole
          cases backCons
          exact Or.inr ⟨behind, laidBack, overflow, padding⟩
      | cons first front =>
          rw [List.cons_append] at whole
          cases whole
          exact Or.inl ⟨_, _, laidFront⟩

theorem Body.skip (body : Body g bytes readPos writePos (payload :: rest)) :
    Body g (skipToMessage g.count bytes readPos).2
        (skipToMessage g.count bytes readPos).1 writePos (payload :: rest) ∧
      ∃ stop later, Laid g (skipToMessage g.count bytes readPos).2
        (skipToMessage g.count bytes readPos).1 stop (payload :: later) := by
  have readInside := body.readPos_lt
  rcases body.head_cases with ⟨stop, later, laid⟩ |
    ⟨behind, laid, _, padding⟩
  · rw [skipToMessage_of_ne readInside laid.marker_ne_skip]
    exact ⟨body, stop, later, laid⟩
  · rw [skipToMessage_of_padding readInside padding]
    have moved := laid.congr
      (sameSegments_setMarkers bytes empty_lt (Nat.le_of_lt readInside)
        (Nat.le_refl g.count) (Or.inl (Nat.le_of_lt behind)))
    exact ⟨.straight body.writePos_lt moved, writePos, rest, moved⟩

theorem Free.skip (free : Free g bytes readPos writePos)
    (body : Body g bytes readPos writePos (payload :: rest)) :
    Free g (skipToMessage g.count bytes readPos).2
      (skipToMessage g.count bytes readPos).1 writePos := by
  have readInside := body.readPos_lt
  rcases body.head_cases with ⟨stop, later, laid⟩ |
    ⟨behind, laid, _, padding⟩
  · rw [skipToMessage_of_ne readInside laid.marker_ne_skip]
    exact free
  · rw [skipToMessage_of_padding readInside padding]
    intro index within unoccupied
    simp only [Unoccupied, Nat.zero_le, if_true] at unoccupied
    rw [marker_setMarkers bytes empty_lt]
    split
    · rfl
    · refine free index within ?_
      simp only [Unoccupied, if_neg (Nat.not_le_of_lt behind)]
      omega

end Skip

section Release

variable {g : Geometry} {bytes : ByteMemory} {readPos writePos : Nat}
variable {payload : List UInt8} {rest : List (List UInt8)}

theorem releaseMessage_of_le {width : Nat} (positive : 0 < width)
    (within : readPos + width ≤ g.count) :
    releaseMessage g.count width bytes readPos =
      if readPos + width < g.count ∧
          marker bytes (readPos + width) = skipBuffMgmtMagic then
        (0, setMarkers (setMarkers bytes readPos (readPos + width)
          emptyBuffMgmtMagic) (readPos + width) g.count emptyBuffMgmtMagic)
      else
        (if readPos + width = g.count then 0 else readPos + width,
          setMarkers bytes readPos (readPos + width) emptyBuffMgmtMagic) := by
  have bounded := g.bounded
  simp only [maxNumOfDataSegments, sharedMemorySegmentEntrySize] at bounded
  have noWrap : ¬(readPos + width > g.count) := by omega
  have endPos : toUInt16 (readPos + width) = readPos + width :=
    toUInt16_of_lt (by omega)
  have furthest : max readPos (readPos + width) = readPos + width := by omega
  have next : marker (setMarkers bytes readPos (readPos + width)
      emptyBuffMgmtMagic) (readPos + width) =
        marker bytes (readPos + width) :=
    marker_setMarkers_outside empty_lt (Or.inr (Nat.le_refl _))
  simp only [releaseMessage, if_neg noWrap, endPos, furthest, next]
  split <;> simp

theorem releaseMessage_of_gt {width : Nat}
    (wraps : g.count < readPos + width) (narrower : width ≤ g.count) :
    releaseMessage g.count width bytes readPos =
      releaseMessage g.count width
        (setMarkers bytes readPos g.count emptyBuffMgmtMagic) 0 := by
  have noWrap : ¬(0 + width > g.count) := by omega
  simp only [releaseMessage, if_pos wraps, if_neg noWrap]

/-- A pop removes the first message.  The look-ahead for padding is harmless
unless it inspects a marker that the writer has not published. -/
theorem Body.release
    (body : Body g bytes readPos writePos (payload :: rest))
    (head : marker bytes readPos ≠ skipBuffMgmtMagic)
    (lookahead : rest = [] → readPos ≤ writePos →
      marker bytes writePos ≠ skipBuffMgmtMagic) :
    Body g
      (releaseMessage g.count (g.needed payload.length) bytes readPos).2
      (releaseMessage g.count (g.needed payload.length) bytes readPos).1
      writePos rest := by
  have readInside := body.readPos_lt
  generalize whole : payload :: rest = messages at body
  cases body with
  | straight inside laid =>
      subst whole
      cases laid with
      | cons size _ _ _ later =>
          have positive := g.needed_pos size.1
          have ordered := later.le
          have message :
              marker bytes (readPos + g.needed payload.length) ≠
                skipBuffMgmtMagic := by
            cases rest with
            | nil =>
                have meet := later.eq_nil_iff.mp rfl
                rw [meet]
                exact lookahead rfl (by omega)
            | cons next rest => exact later.marker_ne_skip
          rw [releaseMessage_of_le positive (by omega),
            if_neg (fun both => message both.2), if_neg (by omega)]
          refine .straight inside (later.congr ?_)
          exact sameSegments_setMarkers bytes empty_lt (by omega) (by omega)
            (Or.inr (Nat.le_refl _))
  | @wrapped _ stop front back behind inside laidFront within padding tight
      laidBack =>
      cases laidFront with
      | nil =>
          exact absurd (padding readPos (Nat.le_refl readPos) inside) head
      | @cons _ _ first front size _ _ _ later =>
          rw [List.cons_append] at whole
          cases whole
          have positive := g.needed_pos size.1
          have ordered := later.le
          have keptBack := laidBack.congr
            (sameSegments_setMarkers bytes empty_lt
              (Nat.le_add_right readPos (g.needed payload.length)) (by omega)
              (Or.inl (Nat.le_of_lt behind)))
          rw [releaseMessage_of_le positive (by omega)]
          cases front with
          | nil =>
              have meet := later.eq_nil_iff.mp rfl
              subst meet
              rw [List.nil_append]
              split
              · rename_i short
                have cleared := keptBack.congr
                  (sameSegments_setMarkers _ empty_lt
                    (Nat.le_of_lt short.1) (Nat.le_refl g.count)
                    (Or.inl (by omega)))
                exact .straight (by omega) cleared
              · rename_i atEnd
                have reaches :
                    readPos + g.needed payload.length = g.count := by
                  by_contra short
                  exact atEnd ⟨by omega,
                    padding _ (Nat.le_refl _) (by omega)⟩
                rw [if_pos reaches]
                exact .straight (by omega) keptBack
          | cons next front =>
              have further := later.lt_of_cons
              rw [if_neg (fun both => later.marker_ne_skip both.2),
                if_neg (by omega)]
              refine .wrapped (by omega) (by omega) (later.congr ?_) within
                ?_ tight keptBack
              · exact sameSegments_setMarkers bytes empty_lt (by omega)
                  (by omega) (Or.inr (Nat.le_refl _))
              · intro index lower upper
                rw [marker_setMarkers_outside empty_lt
                  (Or.inr (by omega))]
                exact padding index lower upper

theorem Body.head_span
    (body : Body g bytes readPos writePos (payload :: rest))
    (head : marker bytes readPos ≠ skipBuffMgmtMagic)
    (lookahead : rest = [] → readPos ≤ writePos →
      marker bytes writePos ≠ skipBuffMgmtMagic) :
    (readPos + g.needed payload.length ≤ writePos ∧
        marker bytes (readPos + g.needed payload.length) ≠
          skipBuffMgmtMagic) ∨
      (writePos < readPos ∧
        readPos + g.needed payload.length ≤ g.count) := by
  have readInside := body.readPos_lt
  generalize whole : payload :: rest = messages at body
  cases body with
  | straight inside laid =>
      subst whole
      cases laid with
      | cons size _ _ _ later =>
          refine Or.inl ⟨later.le, ?_⟩
          cases rest with
          | nil =>
              have meet := later.eq_nil_iff.mp rfl
              rw [meet]
              exact lookahead rfl (by omega)
          | cons next rest => exact later.marker_ne_skip
  | @wrapped _ stop front back behind inside laidFront within padding =>
      cases laidFront with
      | nil =>
          exact absurd (padding readPos (Nat.le_refl readPos) inside) head
      | cons _ _ _ _ later =>
          rw [List.cons_append] at whole
          cases whole
          have ordered := later.le
          exact Or.inr ⟨behind, by omega⟩

theorem Free.release (free : Free g bytes readPos writePos)
    (body : Body g bytes readPos writePos (payload :: rest))
    (head : marker bytes readPos ≠ skipBuffMgmtMagic)
    (lookahead : rest = [] → readPos ≤ writePos →
      marker bytes writePos ≠ skipBuffMgmtMagic) :
    Free g
      (releaseMessage g.count (g.needed payload.length) bytes readPos).2
      (releaseMessage g.count (g.needed payload.length) bytes readPos).1
      writePos := by
  have readInside := body.readPos_lt
  have writeInside := body.writePos_lt
  have positive := g.needed_pos (body.isMessage payload
    List.mem_cons_self).1
  have span := body.head_span head lookahead
  rw [releaseMessage_of_le positive (by omega)]
  intro index within unoccupied
  have was : Unoccupied readPos writePos index →
      marker bytes index = emptyBuffMgmtMagic := free index within
  simp only [Unoccupied] at was
  split at unoccupied
  · rename_i padded
    rw [if_pos padded, marker_setMarkers _ empty_lt,
      marker_setMarkers _ empty_lt]
    simp only [Unoccupied, Nat.zero_le, if_true] at unoccupied
    grind
  · rename_i message
    rw [if_neg message, marker_setMarkers _ empty_lt]
    simp only [Unoccupied] at unoccupied
    grind

end Release

end OpenAppsec.Ring
