import OpenAppsec.Ring.SharedMemory

/-!
# Reading markers back

What the marker loops of the queue operations leave in memory.  A marker loop
changes exactly the markers of its range, and nothing past the marker table.
-/

namespace OpenAppsec.Ring

open ByteMemory

variable {value pos index stop : Nat}

theorem dataSegmentAddress_eq (segmentSize index : Nat) :
    dataSegmentAddress segmentSize index =
      sharedRingQueueHeaderPrefixSize + segmentSize * (index + 1) := by
  have distributed : segmentSize * (index + 1) =
      segmentSize + index * segmentSize := by
    rw [Nat.mul_succ, Nat.mul_comm, Nat.add_comm]
  unfold dataSegmentAddress sizeOfSharedRingQueue
  split
  · rename_i larger
    rw [distributed, larger]
    omega
  · rw [distributed]
    omega

@[simp] theorem toUInt16_of_lt (small : value < 65536) :
    toUInt16 value = value :=
  Nat.mod_eq_of_lt small

@[simp] theorem toUInt8_of_lt (small : value < 256) :
    toUInt8 value = value :=
  Nat.mod_eq_of_lt small

theorem marker_setMarker_same (bytes : ByteMemory) (index : Nat)
    (small : value < 65536) :
    marker (setMarker bytes index value) index = value :=
  readWord_writeWord_same bytes _ small

theorem marker_setMarker_other (bytes : ByteMemory) {other : Nat}
    (different : other ≠ index) :
    marker (setMarker bytes index value) other = marker bytes other :=
  readWord_writeWord_apart bytes (by simp only [markerOffset]; omega)

theorem marker_lt (bytes : ByteMemory) (index : Nat) :
    marker bytes index < 65536 :=
  readWord_lt bytes _

theorem marker_fillMarkers (bytes : ByteMemory) (small : value < 65536)
    (count pos index : Nat) :
    marker (fillMarkers value count pos bytes) index =
      if pos ≤ index ∧ index < pos + count then value
      else marker bytes index := by
  induction count generalizing pos bytes with
  | zero =>
      have outside : ¬(pos ≤ index ∧ index < pos + 0) := by omega
      simp only [fillMarkers, if_neg outside]
  | succ count induction =>
      rw [fillMarkers, induction]
      by_cases later : pos + 1 ≤ index ∧ index < pos + 1 + count
      · have inside : pos ≤ index ∧ index < pos + (count + 1) := by omega
        simp only [if_pos later, if_pos inside]
      · rw [if_neg later]
        by_cases first : index = pos
        · subst first
          have inside : index ≤ index ∧ index < index + (count + 1) := by omega
          rw [if_pos inside, marker_setMarker_same bytes index small]
        · have outside : ¬(pos ≤ index ∧ index < pos + (count + 1)) := by omega
          rw [if_neg outside, marker_setMarker_other bytes first]

theorem marker_setMarkers (bytes : ByteMemory) (small : value < 65536)
    (pos stop index : Nat) :
    marker (setMarkers bytes pos stop value) index =
      if pos ≤ index ∧ index < stop then value else marker bytes index := by
  rw [setMarkers, marker_fillMarkers bytes small]
  by_cases inside : pos ≤ index ∧ index < stop
  · rw [if_pos inside, if_pos (by omega)]
  · rw [if_neg inside, if_neg (by omega)]

theorem marker_setMarkers_inside {bytes : ByteMemory} (small : value < 65536)
    (lower : pos ≤ index) (upper : index < stop) :
    marker (setMarkers bytes pos stop value) index = value := by
  rw [marker_setMarkers bytes small, if_pos ⟨lower, upper⟩]

theorem marker_setMarkers_outside {bytes : ByteMemory} (small : value < 65536)
    (outside : index < pos ∨ stop ≤ index) :
    marker (setMarkers bytes pos stop value) index = marker bytes index := by
  rw [marker_setMarkers bytes small, if_neg (by omega)]

theorem agreeOn_fillMarkers (bytes : ByteMemory) (value : Nat)
    {count low high : Nat} (above : markerOffset (pos + count) ≤ low) :
    AgreeOn (fillMarkers value count pos bytes) bytes low high := by
  induction count generalizing pos bytes with
  | zero => exact AgreeOn.refl bytes low high
  | succ count induction =>
      have later : markerOffset (pos + 1 + count) ≤ low := by
        simp only [markerOffset] at above ⊢
        omega
      refine (induction (setMarker bytes pos value) later).trans ?_
      refine agreeOn_writeWord (Or.inr ?_)
      simp only [markerOffset] at above ⊢
      omega

/-- A marker loop does not touch the bytes past its last marker. -/
theorem agreeOn_setMarkers (bytes : ByteMemory) (value : Nat) {low high : Nat}
    (ordered : pos ≤ stop) (above : markerOffset stop ≤ low) :
    AgreeOn (setMarkers bytes pos stop value) bytes low high := by
  refine agreeOn_fillMarkers bytes value ?_
  rwa [Nat.add_sub_cancel' ordered]

/-- Over a run of padding, the loop of `peekToQueue` is a marker loop. -/
theorem clearPadding_eq (bytes : ByteMemory) {count : Nat}
    (padding : ∀ index, pos ≤ index → index < pos + count →
      marker bytes index = skipBuffMgmtMagic) :
    clearPadding count pos bytes =
      (pos + count, setMarkers bytes pos (pos + count) emptyBuffMgmtMagic) := by
  induction count generalizing pos bytes with
  | zero => simp [clearPadding, setMarkers, fillMarkers]
  | succ count induction =>
      have first : marker bytes pos = skipBuffMgmtMagic :=
        padding pos (Nat.le_refl pos) (by omega)
      have later : ∀ index, pos + 1 ≤ index → index < pos + 1 + count →
          marker (setMarker bytes pos emptyBuffMgmtMagic) index =
            skipBuffMgmtMagic := by
        intro index lower upper
        rw [marker_setMarker_other bytes (by omega)]
        exact padding index (by omega) (by omega)
      have width : pos + (count + 1) - pos = count + 1 := by omega
      have laterWidth : pos + 1 + count - (pos + 1) = count := by omega
      rw [clearPadding, if_pos first,
        induction (setMarker bytes pos emptyBuffMgmtMagic) later]
      simp only [setMarkers, width, laterWidth, fillMarkers]
      rw [Nat.add_right_comm, Nat.add_assoc]

end OpenAppsec.Ring
