import Mathlib.Tactic.Common

/-!
# Readers

A reader gives some of its bytes at each call, as many as it likes up to the
size it is asked for, until it stops with an error or at its end.  A reader
delivers a text if it gives these bytes in order, however it is asked.
-/

namespace Readers

/-- Why a reader stops. -/
inductive Stop where
  | eof
  | failed (code : Nat)
  deriving DecidableEq

/-- The bytes of one call, and the stop that comes with them. -/
structure Reading where
  bytes : List UInt8
  stop : Option Stop

structure Reader where
  State : Type
  read : State → Nat → Reading × State
  bounded : ∀ state size, (read state size).1.bytes.length ≤ size
  state : State

namespace Reader

def reading (reader : Reader) (size : Nat) : Reading :=
  (reader.read reader.state size).1

/-- The reader after a call. -/
def next (reader : Reader) (size : Nat) : Reader :=
  { reader with state := (reader.read reader.state size).2 }

theorem length_reading_le (reader : Reader) (size : Nat) :
    (reader.reading size).bytes.length ≤ size :=
  reader.bounded _ _

end Reader

/-- What several calls gave up to a stop, and the reader after them. -/
structure Drained where
  bytes : List UInt8
  stop : Option Stop
  after : Reader

namespace Reader

/-- Call the reader with these sizes until it stops. -/
def drain (reader : Reader) : List Nat → Drained
  | [] => { bytes := [], stop := none, after := reader }
  | size :: sizes =>
      match (reader.reading size).stop with
      | some stop =>
          { bytes := (reader.reading size).bytes
            stop := some stop
            after := reader.next size }
      | none =>
          let later := (reader.next size).drain sizes
          { later with bytes := (reader.reading size).bytes ++ later.bytes }

variable {reader : Reader} {size : Nat} {sizes : List Nat}

theorem drain_cons_of_stop {stop : Stop}
    (stops : (reader.reading size).stop = some stop) :
    reader.drain (size :: sizes) =
      { bytes := (reader.reading size).bytes
        stop := some stop
        after := reader.next size } := by
  simp [drain, stops]

theorem drain_cons_of_open (goesOn : (reader.reading size).stop = none) :
    reader.drain (size :: sizes) =
      { (reader.next size).drain sizes with
        bytes := (reader.reading size).bytes ++
          ((reader.next size).drain sizes).bytes } := by
  simp [drain, goesOn]

theorem drain_append {first second : List Nat}
    (goesOn : (reader.drain first).stop = none) :
    reader.drain (first ++ second) =
      { (reader.drain first).after.drain second with
        bytes := (reader.drain first).bytes ++
          ((reader.drain first).after.drain second).bytes } := by
  induction first generalizing reader with
  | nil => rfl
  | cons size first induction =>
      cases stop : (reader.reading size).stop with
      | some stop =>
          rw [drain_cons_of_stop stop] at goesOn
          exact absurd goesOn (by simp)
      | none =>
          rw [drain_cons_of_open stop] at goesOn
          rw [List.cons_append, drain_cons_of_open stop,
            drain_cons_of_open stop, induction goesOn]
          simp

end Reader

/-- Calls that ask for something. -/
def Positive (sizes : List Nat) : Prop :=
  ∀ size ∈ sizes, 0 < size

/-- The reader gives these bytes and stops so, however it is asked. -/
structure Delivers (reader : Reader) (bytes : List UInt8) (stop : Stop) :
    Prop where
  inOrder : ∀ sizes, Positive sizes → (reader.drain sizes).bytes <+: bytes
  atEnd : ∀ sizes last, Positive sizes →
    (reader.drain sizes).stop = some last →
      last = stop ∧ (reader.drain sizes).bytes = bytes
  ends : ∃ bound, ∀ sizes, Positive sizes → bound ≤ sizes.length →
    (reader.drain sizes).stop ≠ none

/-- A reader that is asked again after it stopped stops so again. -/
def Repeats (reader : Reader) (stop : Stop) : Prop :=
  ∀ sizes, Positive sizes → (reader.drain sizes).stop ≠ none →
    Delivers (reader.drain sizes).after [] stop

theorem Positive.append {first second : List Nat} (left : Positive first)
    (right : Positive second) : Positive (first ++ second) := by
  intro size member
  exact (List.mem_append.mp member).elim (left size) (right size)

/-- After some calls a reader delivers the rest. -/
theorem Delivers.drop {reader : Reader} {bytes : List UInt8} {stop : Stop}
    (delivers : Delivers reader bytes stop) {sizes : List Nat}
    (positive : Positive sizes)
    (goesOn : (reader.drain sizes).stop = none) :
    Delivers (reader.drain sizes).after
      (bytes.drop (reader.drain sizes).bytes.length) stop := by
  have split (later : List Nat) :
      (reader.drain (sizes ++ later)).bytes = (reader.drain sizes).bytes ++
          ((reader.drain sizes).after.drain later).bytes ∧
        (reader.drain (sizes ++ later)).stop =
          ((reader.drain sizes).after.drain later).stop := by
    rw [Reader.drain_append goesOn]
    exact ⟨rfl, rfl⟩
  obtain ⟨rest, whole⟩ := delivers.inOrder sizes positive
  have dropped : bytes.drop (reader.drain sizes).bytes.length = rest := by
    rw [← whole, List.drop_left]
  rw [dropped]
  refine ⟨?_, ?_, ?_⟩
  · intro later laterPositive
    have inOrder := delivers.inOrder _ (positive.append laterPositive)
    rw [(split later).1, ← whole] at inOrder
    exact (List.prefix_append_right_inj _).mp inOrder
  · intro later last laterPositive stops
    rw [← (split later).2] at stops
    obtain ⟨same, all⟩ :=
      delivers.atEnd _ last (positive.append laterPositive) stops
    rw [(split later).1, ← whole] at all
    exact ⟨same, List.append_cancel_left all⟩
  · obtain ⟨bound, ends⟩ := delivers.ends
    refine ⟨bound, ?_⟩
    intro later laterPositive enough
    rw [← (split later).2]
    apply ends _ (positive.append laterPositive)
    rw [List.length_append]
    omega

/-- Read all up to a limit: past it the reader seems to be at its end. -/
def Reader.readAllLimited (reader : Reader) (limit : Nat) :
    List Nat → Drained
  | [] => { bytes := [], stop := none, after := reader }
  | size :: sizes =>
      if limit = 0 then
        { bytes := [], stop := some .eof, after := reader }
      else
        let reading := reader.reading (min size limit)
        let next := reader.next (min size limit)
        match reading.stop with
        | some stop =>
            { bytes := reading.bytes, stop := some stop, after := next }
        | none =>
            let later :=
              next.readAllLimited (limit - reading.bytes.length) sizes
            { later with bytes := reading.bytes ++ later.bytes }

/-- The calls that reading up to a limit makes: they stop, or give as many
bytes as the limit. -/
theorem readAllLimited_eq_drain {reader : Reader} {limit : Nat}
    {sizes : List Nat} (positive : Positive sizes) :
    ∃ clipped, Positive clipped ∧
      (reader.readAllLimited limit sizes).bytes =
        (reader.drain clipped).bytes ∧
      (reader.readAllLimited limit sizes).after =
        (reader.drain clipped).after ∧
      (reader.readAllLimited limit sizes).bytes.length ≤ limit ∧
      ((reader.readAllLimited limit sizes).stop =
          (reader.drain clipped).stop ∨
        (reader.readAllLimited limit sizes).stop = some .eof ∧
          (reader.drain clipped).stop = none ∧
          (reader.drain clipped).bytes.length = limit) ∧
      ((reader.readAllLimited limit sizes).stop = none →
        clipped.length = sizes.length) := by
  induction sizes generalizing reader limit with
  | nil =>
      exact ⟨[], fun _ member => absurd member List.not_mem_nil, rfl, rfl,
        Nat.zero_le _, .inl rfl, fun _ => rfl⟩
  | cons size sizes induction =>
      obtain ⟨here, rest⟩ := List.forall_mem_cons.mp positive
      by_cases done : limit = 0
      · refine ⟨[], fun _ member => absurd member List.not_mem_nil, ?_⟩
        simp [Reader.readAllLimited, Reader.drain, done]
      have short := reader.length_reading_le (min size limit)
      have clippedPositive : 0 < min size limit := by omega
      cases stop : (reader.reading (min size limit)).stop with
      | some stop =>
          refine ⟨[min size limit], by simpa [Positive] using
            clippedPositive, ?_⟩
          rw [Reader.drain_cons_of_stop stop]
          simp only [Reader.readAllLimited, if_neg done, stop]
          exact ⟨trivial, trivial, by omega, .inl trivial,
            fun reads => absurd reads (by simp)⟩
      | none =>
          obtain ⟨clipped, laterPositive, bytes, after, within, stops,
              length⟩ :=
            @induction (reader.next (min size limit))
              (limit - (reader.reading (min size limit)).bytes.length) rest
          refine ⟨min size limit :: clipped,
            List.forall_mem_cons.mpr ⟨clippedPositive, laterPositive⟩, ?_⟩
          rw [Reader.drain_cons_of_open stop]
          simp only [Reader.readAllLimited, if_neg done, stop]
          refine ⟨by rw [bytes], after, ?_, ?_, ?_⟩
          · rw [List.length_append]
            omega
          · refine stops.imp id ?_
            rintro ⟨stopped, goesOn, full⟩
            refine ⟨stopped, goesOn, ?_⟩
            rw [List.length_append]
            omega
          · intro reads
            simp [length reads]

/-- A call on a buffer in front of a reader: past the end of the reader the
state has none of it. -/
def Reader.multiRead {State : Type} (read : State → Nat → Reading × State) :
    List UInt8 × Option State → Nat →
      Reading × (List UInt8 × Option State)
  | (byte :: rest, inner), size =>
      ({ bytes := (byte :: rest).take size, stop := none },
        ((byte :: rest).drop size, inner))
  | ([], some inner), size =>
      let (reading, inner) := read inner size
      (reading, ([], if reading.stop = some .eof then none else some inner))
  | ([], none), _ => ({ bytes := [], stop := some .eof }, ([], none))

/-- The bytes of a buffer, and then those of a reader. -/
def Reader.multi (buffered : List UInt8) (reader : Reader) : Reader where
  State := List UInt8 × Option reader.State
  read := multiRead reader.read
  bounded := by
    rintro ⟨rest, inner⟩ size
    rcases rest with - | ⟨byte, rest⟩
    · rcases inner with - | inner
      · exact Nat.zero_le _
      · exact reader.bounded inner size
    · exact List.length_take_le _ _
  state := (buffered, some reader.state)

namespace Reader

variable {reader : Reader} {size : Nat} {sizes : List Nat}

theorem multi_buffered {buffered : List UInt8} (nonempty : buffered ≠ []) :
    (multi buffered reader).reading size =
        { bytes := buffered.take size, stop := none } ∧
      (multi buffered reader).next size =
        multi (buffered.drop size) reader := by
  rcases buffered with - | ⟨byte, rest⟩
  · exact absurd rfl nonempty
  · exact ⟨rfl, rfl⟩

theorem multi_inner :
    (multi [] reader).reading size = reader.reading size ∧
      ((reader.reading size).stop = none →
        (multi [] reader).next size = multi [] (reader.next size)) := by
  refine ⟨rfl, ?_⟩
  intro goesOn
  have open_ : ¬(reader.read reader.state size).1.stop = some .eof := by
    rw [reading] at goesOn
    simp [goesOn]
  simp only [next, multi, multiRead, if_neg open_]

theorem drain_multi_nil :
    ((multi [] reader).drain sizes).bytes = (reader.drain sizes).bytes ∧
      ((multi [] reader).drain sizes).stop = (reader.drain sizes).stop := by
  induction sizes generalizing reader with
  | nil => exact ⟨rfl, rfl⟩
  | cons size sizes induction =>
      obtain ⟨same, next⟩ := @multi_inner reader size
      cases stop : (reader.reading size).stop with
      | some stop =>
          rw [drain_cons_of_stop stop, drain_cons_of_stop (same ▸ stop), same]
          exact ⟨rfl, rfl⟩
      | none =>
          obtain ⟨bytes, stops⟩ := @induction (reader.next size)
          rw [drain_cons_of_open stop, drain_cons_of_open (same ▸ stop), same,
            next stop]
          exact ⟨congrArg ((reader.reading size).bytes ++ ·) bytes, stops⟩

theorem drain_multi {buffered : List UInt8} (positive : Positive sizes) :
    (((multi buffered reader).drain sizes).stop = none ∧
        ((multi buffered reader).drain sizes).bytes <+: buffered ∧
        sizes.length < buffered.length) ∨
      ∃ later, Positive later ∧
        sizes.length ≤ later.length + buffered.length ∧
        ((multi buffered reader).drain sizes).bytes =
          buffered ++ (reader.drain later).bytes ∧
        ((multi buffered reader).drain sizes).stop =
          (reader.drain later).stop := by
  induction sizes generalizing buffered with
  | nil =>
      rcases buffered with - | ⟨byte, rest⟩
      · exact .inr ⟨[], positive, Nat.le_refl _, rfl, rfl⟩
      · exact .inl ⟨rfl, List.nil_prefix, Nat.succ_pos _⟩
  | cons size sizes induction =>
      obtain ⟨here, rest⟩ := List.forall_mem_cons.mp positive
      by_cases nonempty : buffered = []
      · subst nonempty
        obtain ⟨bytes, stops⟩ :=
          @drain_multi_nil reader (size :: sizes)
        exact .inr ⟨size :: sizes, positive, Nat.le_refl _, bytes, stops⟩
      obtain ⟨first, next⟩ :=
        @multi_buffered reader size buffered nonempty
      have goesOn : ((multi buffered reader).reading size).stop = none := by
        rw [first]
      have shorter : (buffered.drop size).length < buffered.length := by
        have length := List.length_pos_iff.mpr nonempty
        rw [List.length_drop]
        omega
      rw [drain_cons_of_open goesOn, first, next]
      rcases @induction (buffered.drop size) rest with
        ⟨stops, bytes, short⟩ | ⟨later, laterPositive, long, bytes, stops⟩
      · refine .inl ⟨stops, ?_, ?_⟩
        · calc
            buffered.take size ++
                ((multi (buffered.drop size) reader).drain sizes).bytes <+:
              buffered.take size ++ buffered.drop size :=
              (List.prefix_append_right_inj _).mpr bytes
            _ = buffered := List.take_append_drop _ _
        · rw [List.length_cons]
          omega
      · refine .inr ⟨later, laterPositive, ?_, ?_, stops⟩
        · rw [List.length_cons]
          omega
        · rw [bytes, ← List.append_assoc, List.take_append_drop]

end Reader

/-- A buffer in front of a reader is delivered before what the reader
delivers. -/
theorem Delivers.multi {reader : Reader} {bytes : List UInt8} {stop : Stop}
    (delivers : Delivers reader bytes stop) (buffered : List UInt8) :
    Delivers (.multi buffered reader) (buffered ++ bytes) stop := by
  refine ⟨?_, ?_, ?_⟩
  · intro sizes positive
    rcases @Reader.drain_multi reader sizes buffered positive with
        ⟨-, inOrder, -⟩ | ⟨later, laterPositive, -, all, -⟩
    · exact inOrder.trans (List.prefix_append _ _)
    · rw [all, List.prefix_append_right_inj]
      exact delivers.inOrder later laterPositive
  · intro sizes last positive stops
    rcases @Reader.drain_multi reader sizes buffered positive with
        ⟨goesOn, -, -⟩ | ⟨later, laterPositive, -, all, same⟩
    · rw [goesOn] at stops
      exact absurd stops (by simp)
    · rw [same] at stops
      obtain ⟨last, bytes⟩ := delivers.atEnd later last laterPositive stops
      exact ⟨last, by rw [all, bytes]⟩
  · obtain ⟨bound, ends⟩ := delivers.ends
    refine ⟨bound + buffered.length, ?_⟩
    intro sizes positive enough
    rcases @Reader.drain_multi reader sizes buffered positive with
        ⟨-, -, short⟩ | ⟨later, laterPositive, long, -, same⟩
    · omega
    · rw [same]
      exact ends later laterPositive (by omega)

/-- What was read up to a limit, in front of the rest, is what the reader
would have delivered. -/
theorem Delivers.restored {reader : Reader} {bytes : List UInt8} {stop : Stop}
    (delivers : Delivers reader bytes stop) (repeats : Repeats reader stop)
    {limit : Nat} {sizes : List Nat} (positive : Positive sizes)
    (returns : (reader.readAllLimited limit sizes).stop ≠ none) :
    (reader.readAllLimited limit sizes).bytes = bytes.take limit ∧
      Delivers (.multi (reader.readAllLimited limit sizes).bytes
        (reader.readAllLimited limit sizes).after) bytes stop := by
  obtain ⟨clipped, clippedPositive, read, after, within, stops, -⟩ :=
    @readAllLimited_eq_drain reader limit sizes positive
  rw [read] at within
  rw [read, after]
  rcases stops with same | ⟨-, goesOn, full⟩
  · rw [same] at returns
    obtain ⟨last, stopped⟩ := Option.ne_none_iff_exists'.mp returns
    obtain ⟨-, whole⟩ := delivers.atEnd clipped last clippedPositive stopped
    have rest := repeats clipped clippedPositive returns
    rw [whole] at within ⊢
    refine ⟨(List.take_of_length_le within).symm, ?_⟩
    simpa using rest.multi bytes
  · have inOrder := delivers.inOrder clipped clippedPositive
    have taken : (reader.drain clipped).bytes = bytes.take limit := by
      rw [← full]
      exact List.prefix_iff_eq_take.mp inOrder
    have rest := delivers.drop clippedPositive goesOn
    refine ⟨taken, ?_⟩
    have spliced := rest.multi (reader.drain clipped).bytes
    rw [full, taken, List.take_append_drop] at spliced
    rw [taken]
    exact spliced

theorem Delivers.readAllLimited_stop {reader : Reader} {bytes : List UInt8}
    {stop : Stop} (delivers : Delivers reader bytes stop) {limit : Nat}
    {sizes : List Nat} (positive : Positive sizes)
    (returns : (reader.readAllLimited limit sizes).stop ≠ none) :
    (reader.readAllLimited limit sizes).stop = some stop ∧
        bytes.length ≤ limit ∨
      (reader.readAllLimited limit sizes).stop = some .eof ∧
        limit ≤ bytes.length := by
  obtain ⟨clipped, clippedPositive, read, -, within, stops, -⟩ :=
    @readAllLimited_eq_drain reader limit sizes positive
  rcases stops with same | ⟨stopped, -, full⟩
  · rw [same] at returns ⊢
    obtain ⟨last, stopped⟩ := Option.ne_none_iff_exists'.mp returns
    obtain ⟨own, whole⟩ :=
      delivers.atEnd clipped last clippedPositive stopped
    rw [read, whole] at within
    exact .inl ⟨by rw [stopped, own], within⟩
  · have inOrder := (delivers.inOrder clipped clippedPositive).length_le
    exact .inr ⟨stopped, by omega⟩

theorem Delivers.readAllLimited_returns {reader : Reader}
    {bytes : List UInt8} {stop : Stop} (delivers : Delivers reader bytes stop)
    (limit : Nat) :
    ∃ bound, ∀ sizes, Positive sizes → bound ≤ sizes.length →
      (reader.readAllLimited limit sizes).stop ≠ none := by
  obtain ⟨bound, ends⟩ := delivers.ends
  refine ⟨bound, ?_⟩
  intro sizes positive enough reads
  obtain ⟨clipped, clippedPositive, -, -, -, stops, length⟩ :=
    @readAllLimited_eq_drain reader limit sizes positive
  rcases stops with same | ⟨stopped, -, -⟩
  · apply ends clipped clippedPositive
    · rw [length reads]
      exact enough
    · rw [← same]
      exact reads
  · rw [stopped] at reads
    exact absurd reads (by simp)

def Reader.ofBytes (bytes : List UInt8) (stop : Stop) : Reader where
  State := List UInt8
  read := fun rest size =>
    if rest = [] then ({ bytes := [], stop := some stop }, [])
    else ({ bytes := rest.take size, stop := none }, rest.drop size)
  bounded := by
    intro rest size
    by_cases empty : rest = []
    · simp [empty]
    · simp only [if_neg empty]
      exact List.length_take_le size rest
  state := bytes

theorem Reader.drain_ofBytes {bytes : List UInt8} {stop : Stop}
    {sizes : List Nat} (positive : Positive sizes) :
    ((ofBytes bytes stop).drain sizes).stop = none ∧
        ((ofBytes bytes stop).drain sizes).bytes <+: bytes ∧
        sizes.length ≤ bytes.length ∨
      (ofBytes bytes stop).drain sizes =
        { bytes := bytes, stop := some stop, after := ofBytes [] stop } := by
  induction sizes generalizing bytes with
  | nil => exact .inl ⟨rfl, List.nil_prefix, Nat.zero_le _⟩
  | cons size sizes induction =>
      obtain ⟨here, rest⟩ := List.forall_mem_cons.mp positive
      by_cases empty : bytes = []
      · subst empty
        exact .inr rfl
      have gives : (ofBytes bytes stop).reading size =
          { bytes := bytes.take size, stop := none } := by
        simp [reading, ofBytes, empty]
      have goesOn : ((ofBytes bytes stop).reading size).stop = none := by
        rw [gives]
      have later :
          (ofBytes bytes stop).next size = ofBytes (bytes.drop size) stop := by
        simp [next, ofBytes, empty]
      have shorter : (bytes.drop size).length < bytes.length := by
        have length := List.length_pos_iff.mpr empty
        rw [List.length_drop]
        omega
      rw [drain_cons_of_open goesOn, gives, later]
      rcases @induction (bytes.drop size) rest with
        ⟨stops, inOrder, short⟩ | all
      · refine .inl ⟨stops, ?_, ?_⟩
        · calc
            bytes.take size ++
                ((ofBytes (bytes.drop size) stop).drain sizes).bytes <+:
              bytes.take size ++ bytes.drop size :=
              (List.prefix_append_right_inj _).mpr inOrder
            _ = bytes := List.take_append_drop _ _
        · rw [List.length_cons]
          omega
      · right
        rw [all, List.take_append_drop]

theorem delivers_ofBytes (bytes : List UInt8) (stop : Stop) :
    Delivers (.ofBytes bytes stop) bytes stop := by
  refine ⟨?_, ?_, bytes.length + 1, ?_⟩
  · intro sizes positive
    rcases @Reader.drain_ofBytes bytes stop sizes positive with
      ⟨-, inOrder, -⟩ | all
    · exact inOrder
    · simp [all]
  · intro sizes last positive stops
    rcases @Reader.drain_ofBytes bytes stop sizes positive with
      ⟨goesOn, -, -⟩ | all
    · rw [goesOn] at stops
      exact absurd stops (by simp)
    · rw [all] at stops ⊢
      exact ⟨(Option.some.inj stops).symm, rfl⟩
  · intro sizes positive enough goesOn
    rcases @Reader.drain_ofBytes bytes stop sizes positive with
      ⟨-, -, short⟩ | all
    · omega
    · rw [all] at goesOn
      exact absurd goesOn (by simp)

theorem repeats_ofBytes (bytes : List UInt8) (stop : Stop) :
    Repeats (.ofBytes bytes stop) stop := by
  intro sizes positive stops
  rcases @Reader.drain_ofBytes bytes stop sizes positive with
    ⟨goesOn, -, -⟩ | all
  · exact absurd goesOn stops
  · rw [all]
    exact delivers_ofBytes [] stop

end Readers
