import Mathlib.Algebra.Ring.Int.Defs
import Mathlib.Algebra.Ring.Nat
import OpenAppsec.Attachment.Senders
import OpenAppsec.Library.PartialTransfers

/-!
# The messages of the registration

The attachment registers with messages of known sizes, which it writes to a
socket or reads from it in as many parts as the socket makes of them.
-/

namespace OpenAppsec

open PartialTransfers

/-- What `read` or `write` does: it fails, or it transfers so many bytes, but
never more than it is asked for. -/
inductive Transfer where
  | failed
  | moved (count : Nat)
  deriving DecidableEq

namespace Transfer

def count : Transfer → Nat
  | failed => 0
  | moved count => count

/-- The result of the call, a `ssize_t`. -/
def result (asked : Nat) : Transfer → Int
  | failed => -1
  | moved count => (min count asked : Nat)

/-- What the result adds to the bytes transferred, if it is less than what is
asked for. -/
def step : Transfer → Int
  | failed => -1
  | moved count => count

/-- The result is negative as an `int`: the call fails, or the count is too
large. -/
def Lapses (transfer : Transfer) : Prop :=
  transfer = failed ∨ 2 ^ 31 ≤ transfer.count

end Transfer

/-- The conversion of a `ssize_t` to an `int`. -/
def intOf (value : Int) : Int :=
  (value + 2 ^ 31) % 2 ^ 32 - 2 ^ 31

theorem intOf_of_lt {count : Nat} (small : count < 2 ^ 31) :
    intOf count = count := by
  rw [intOf]
  omega

theorem intOf_of_ge {count : Nat} (large : 2 ^ 31 ≤ count)
    (bounded : count < 2 ^ 32) : intOf count = count - 2 ^ 32 := by
  rw [intOf]
  omega

/-- The message is reported as transferred just when each of its bytes was
transferred once and in order, and there are no others. -/
structure TransfersExactly (size : Nat) (reported : Prop)
    (places : List Int) : Prop where
  reports : reported ↔ places = whole size
  inside : ∀ place ∈ places, 0 ≤ place ∧ place < size

theorem TransfersExactly.of_short {size done : Nat} {reported : Prop}
    (silent : ¬reported) (short : done < size) :
    TransfersExactly size reported (whole done) where
  reports := by
    rw [whole_eq_whole_iff]
    exact iff_of_false silent short.ne
  inside := by
    intro place member
    have bounds := mem_whole.mp member
    omega

theorem TransfersExactly.of_whole {size : Nat} {reported : Prop}
    (success : reported) : TransfersExactly size reported (whole size) where
  reports := iff_of_true success rfl
  inside := fun _ member => mem_whole.mp member

namespace Nano

/-- The local variables of a transfer: the size that is missing, a `uint32_t`,
and the pointer, relative to the buffer; and the places transferred. -/
structure Cursor where
  remainingSize : Nat
  curDataPtr : Int
  places : List Int

namespace Cursor

def start (size : BitVec 32) : Cursor :=
  { remainingSize := size.toNat, curDataPtr := 0, places := [] }

/-- The system call, with the bytes that it transfers. -/
def transfer (transfer : Transfer) (cursor : Cursor) : Cursor :=
  { cursor with
    places := cursor.places ++
      stretch cursor.curDataPtr (min transfer.count cursor.remainingSize) }

/-- `remaining_size -= res; cur_data_ptr += res`. -/
def advance (res : Int) (cursor : Cursor) : Cursor :=
  { cursor with
    remainingSize := ((cursor.remainingSize - res) % 2 ^ 32).toNat
    curDataPtr := cursor.curDataPtr + res }

end Cursor

/-- A pass of `write_to_service`. -/
structure WritePass where
  timedOut : Bool
  transfer : Transfer

/-- The loop of `write_to_service`; it goes on behind the last pass if the
result is `none`. -/
def writeToService :
    List WritePass → Cursor → Option NanoCommunicationResult × Cursor
  | [], cursor =>
      if cursor.remainingSize = 0 then (some .ok, cursor) else (none, cursor)
  | pass :: passes, cursor =>
      if cursor.remainingSize = 0 then (some .ok, cursor)
      else if pass.timedOut then (some .timeout, cursor)
      else
        let res := intOf (pass.transfer.result cursor.remainingSize)
        let cursor := cursor.transfer pass.transfer
        if res < 0 then (some .error, cursor)
        else writeToService passes (cursor.advance res)

/-- A pass of `read_from_service`; `ready` if `poll` finds data. -/
structure ReadPass where
  timedOut : Bool
  ready : Bool
  transfer : Transfer

/-- The loop of `read_from_service`. -/
def readFromService :
    List ReadPass → Cursor → Option NanoCommunicationResult × Cursor
  | [], cursor =>
      if cursor.remainingSize = 0 then (some .ok, cursor) else (none, cursor)
  | pass :: passes, cursor =>
      if cursor.remainingSize = 0 then (some .ok, cursor)
      else if pass.timedOut then (some .timeout, cursor)
      else if pass.ready = false then (some .error, cursor)
      else
        let res := intOf (pass.transfer.result cursor.remainingSize)
        let cursor := cursor.transfer pass.transfer
        readFromService passes (cursor.advance res)

/-- The cursor stands behind the bytes that are done. -/
structure Cursor.Stands (size done : Nat) (cursor : Cursor) : Prop where
  inside : done ≤ size
  small : size < 2 ^ 32
  remaining : cursor.remainingSize = size - done
  pointer : cursor.curDataPtr = done
  places : cursor.places = whole done

/-- The loop goes on behind the pass: the result is not negative as an
`int`. -/
structure WritePass.GoesOn (pass : WritePass) : Prop where
  inTime : pass.timedOut = false
  moved : pass.transfer ≠ .failed
  small : pass.transfer.count < 2 ^ 31

def WritePass.total (passes : List WritePass) : Nat :=
  (passes.map fun pass => pass.transfer.count).sum

/-- The write that completes the message has less than `2 ^ 31` bytes to
write. -/
def WritesFit (size done : Nat) (passes : List WritePass) : Prop :=
  ForallParts (fun before pass =>
    (∀ earlier ∈ before, earlier.GoesOn) → pass.timedOut = false →
      size ≤ done + WritePass.total before + pass.transfer.count →
        size - (done + WritePass.total before) < 2 ^ 31) passes

theorem WritesFit.of_done {size done : Nat} (passes : List WritePass)
    (complete : size ≤ done) : WritesFit size done passes := by
  apply forallParts_of_forall
  intro before pass goOn inTime reached
  omega

theorem writesFit_cons_of_stops {size done : Nat} {pass : WritePass}
    {passes : List WritePass} (stops : ¬pass.GoesOn) :
    WritesFit size done (pass :: passes) ↔
      (pass.timedOut = false → size ≤ done + pass.transfer.count →
        size - done < 2 ^ 31) := by
  rw [WritesFit, forallParts_cons]
  have vacuous : ForallParts (fun before later =>
      (∀ earlier ∈ pass :: before, earlier.GoesOn) →
        later.timedOut = false →
        size ≤ done + WritePass.total (pass :: before) +
          later.transfer.count →
          size - (done + WritePass.total (pass :: before)) < 2 ^ 31)
      passes := by
    apply forallParts_of_forall
    intro before later goOn
    exact absurd (goOn pass List.mem_cons_self) stops
  rw [and_iff_left vacuous]
  simp [WritePass.total]

theorem writesFit_cons_of_goesOn {size done : Nat} {pass : WritePass}
    {passes : List WritePass} (goesOn : pass.GoesOn) (short : done ≤ size)
    (small : size - done < 2 ^ 31 ∨ pass.transfer.count < size - done) :
    WritesFit size done (pass :: passes) ↔
      WritesFit size (done + pass.transfer.count) passes := by
  rw [WritesFit, forallParts_cons]
  refine (and_iff_right ?_).trans ?_
  · intro _ _ reached
    simp only [WritePass.total, List.map_nil, List.sum_nil] at reached ⊢
    omega
  · apply forallParts_congr
    intro before later
    simp only [List.forall_mem_cons, goesOn, true_and, WritePass.total,
      List.map_cons, List.sum_cons, Nat.add_assoc]

theorem Cursor.Stands.transfer {size done count : Nat} {cursor : Cursor}
    (stands : cursor.Stands size done) :
    (cursor.transfer (.moved count)).places =
      whole (done + min count (size - done)) := by
  simp only [Cursor.transfer, Transfer.count, stands.remaining,
    stands.pointer, stands.places]
  exact whole_append done _

theorem Cursor.Stands.advance {size done count : Nat} {cursor : Cursor}
    (stands : cursor.Stands size done) :
    ((cursor.transfer (.moved count)).advance
      (min count (size - done) : Nat)).Stands size
      (done + min count (size - done)) where
  inside := by
    have := stands.inside
    omega
  small := stands.small
  remaining := by
    have small := stands.small
    simp only [Cursor.advance, Cursor.transfer, stands.remaining]
    omega
  pointer := by
    simp [Cursor.advance, Cursor.transfer, stands.pointer]
  places := stands.transfer

theorem writeToService_exact_iff {size done : Nat} (passes : List WritePass)
    {cursor : Cursor} (stands : cursor.Stands size done) :
    TransfersExactly size ((writeToService passes cursor).1 = some .ok)
        (writeToService passes cursor).2.places ↔
      WritesFit size done passes := by
  induction passes generalizing done cursor with
  | nil =>
      refine iff_of_true ?_ forallParts_nil
      by_cases complete : size ≤ done
      · obtain rfl := le_antisymm complete stands.inside
        have remaining : cursor.remainingSize = 0 := by
          rw [stands.remaining, Nat.sub_self]
        simp only [writeToService, if_pos remaining, stands.places]
        exact .of_whole trivial
      · have remaining : cursor.remainingSize ≠ 0 := by
          rw [stands.remaining]
          omega
        simp only [writeToService, if_neg remaining, stands.places]
        exact .of_short nofun (by omega)
  | cons pass passes induction =>
      by_cases complete : size ≤ done
      · refine iff_of_true ?_ (.of_done _ complete)
        obtain rfl := le_antisymm complete stands.inside
        have remaining : cursor.remainingSize = 0 := by
          rw [stands.remaining, Nat.sub_self]
        simp only [writeToService, if_pos remaining, stands.places]
        exact .of_whole trivial
      have remaining : cursor.remainingSize ≠ 0 := by
        rw [stands.remaining]
        omega
      have small := stands.small
      simp only [writeToService, if_neg remaining]
      obtain ⟨timedOut, transfer⟩ := pass
      cases timedOut with
      | true =>
          have stops : ¬(⟨true, transfer⟩ : WritePass).GoesOn :=
            fun goesOn => Bool.noConfusion goesOn.inTime
          rw [writesFit_cons_of_stops stops]
          refine iff_of_true ?_ (fun inTime => Bool.noConfusion inTime)
          simp only [if_true, stands.places]
          exact .of_short nofun (by omega)
      | false =>
      simp only [Bool.false_eq_true, if_false]
      cases transfer with
      | failed =>
          have stops : ¬(⟨false, .failed⟩ : WritePass).GoesOn :=
            fun goesOn => goesOn.moved rfl
          rw [writesFit_cons_of_stops stops]
          refine iff_of_true ?_ ?_
          · have negative : intOf (-1) < 0 := by decide
            simp only [Transfer.result, if_pos negative, Cursor.transfer,
              Transfer.count, Nat.zero_min, stretch_zero, List.append_nil,
              stands.places]
            exact .of_short nofun (by omega)
          · intro _ reached
            simp only [Transfer.count] at reached
            omega
      | moved count =>
      simp only [Transfer.result, stands.remaining]
      by_cases large : 2 ^ 31 ≤ min count (size - done)
      · -- The count is read as an error.
        have negative : intOf (min count (size - done) : Nat) < 0 := by
          rw [intOf_of_ge large (by omega)]
          omega
        have stops : ¬(⟨false, .moved count⟩ : WritePass).GoesOn := by
          intro goesOn
          have bound : count < 2 ^ 31 := goesOn.small
          omega
        rw [writesFit_cons_of_stops stops]
        simp only [if_pos negative, stands.transfer, Transfer.count,
          forall_const]
        constructor
        · intro exactly reached
          have complete : done + min count (size - done) = size := by omega
          have reported := exactly.reports.mpr (congrArg whole complete)
          cases reported
        · intro fits
          exact .of_short nofun (by omega)
      · have converted := intOf_of_lt (not_le.mp large)
        have positive : ¬intOf (min count (size - done) : Nat) < 0 := by
          rw [converted]
          omega
        rw [if_neg positive, converted, induction stands.advance]
        by_cases bound : count < 2 ^ 31
        · have goesOn : (⟨false, .moved count⟩ : WritePass).GoesOn :=
            ⟨rfl, nofun, bound⟩
          rw [writesFit_cons_of_goesOn goesOn stands.inside
            (by simp only [Transfer.count]; omega)]
          by_cases reached : count ≤ size - done
          · rw [Nat.min_eq_left reached]
            rfl
          · refine iff_of_true (.of_done _ ?_) (.of_done _ ?_)
            · omega
            · simp only [Transfer.count]
              omega
        · have stops : ¬(⟨false, .moved count⟩ : WritePass).GoesOn :=
            fun goesOn => bound goesOn.small
          rw [writesFit_cons_of_stops stops]
          refine iff_of_true (.of_done _ (by omega)) ?_
          intro _ _
          omega

def ReadPass.attempts (pass : ReadPass) : Bool :=
  !pass.timedOut && pass.ready

/-- The reads before a timeout or a poll without data. -/
def reads (passes : List ReadPass) : List Transfer :=
  (passes.takeWhile ReadPass.attempts).map ReadPass.transfer

/-- The sum of the results. -/
def progress (transfers : List Transfer) : Int :=
  (transfers.map Transfer.step).sum

/-- The sum of the results as values of type `int`. -/
def landing (transfers : List Transfer) : Int :=
  (transfers.map fun transfer => intOf transfer.step).sum

/-- The loop ends when nothing is missing, also when so many reads have failed
that the missing size has become `2 ^ 32`. -/
def Ends (size : Nat) (sum : Int) : Prop :=
  size ≤ sum ∨ sum + 2 ^ 32 ≤ size

/-- As long as the loop has not ended: no byte arrives while the sum of the
results is negative, and if the loop ends, no result before was negative and
the last read has not failed.  The first three arguments are about the reads
before these. -/
def ReadsInOrder (size : Nat) (lapsed : Prop) (landed sum : Int)
    (transfers : List Transfer) : Prop :=
  ForallParts (fun before transfer =>
    (∀ earlier, earlier <+: before → ¬Ends size (sum + progress earlier)) →
      (0 < transfer.count → 0 ≤ landed + landing before) ∧
      (Ends size (sum + progress before + transfer.step) →
        ¬(lapsed ∨ ∃ earlier ∈ before, earlier.Lapses) ∧
          transfer ≠ .failed)) transfers

theorem readsInOrder_cons {size : Nat} {lapsed : Prop} {landed sum : Int}
    {transfer : Transfer} {transfers : List Transfer}
    (opened : ¬Ends size sum) :
    ReadsInOrder size lapsed landed sum (transfer :: transfers) ↔
      ((0 < transfer.count → 0 ≤ landed) ∧
        (Ends size (sum + transfer.step) → ¬lapsed ∧ transfer ≠ .failed)) ∧
      (¬Ends size (sum + transfer.step) →
        ReadsInOrder size (lapsed ∨ transfer.Lapses)
          (landed + intOf transfer.step) (sum + transfer.step) transfers) := by
  have prefixes (before : List Transfer) :
      (∀ earlier, earlier <+: transfer :: before →
          ¬Ends size (sum + progress earlier)) ↔
        ¬Ends size (sum + transfer.step) ∧
          ∀ earlier, earlier <+: before →
            ¬Ends size (sum + transfer.step + progress earlier) := by
    constructor
    · intro none
      refine ⟨?_, ?_⟩
      · simpa [progress] using none [transfer] (by simp)
      · intro earlier before
        have := none (transfer :: earlier) (by simpa using before)
        simpa [progress, Int.add_assoc] using this
    · rintro ⟨first, none⟩ earlier starts
      cases earlier with
      | nil => simpa [progress] using opened
      | cons head earlier =>
          obtain ⟨rfl, rest⟩ := List.cons_prefix_cons.mp starts
          simpa [progress, Int.add_assoc] using none earlier rest
  rw [ReadsInOrder, forallParts_cons]
  refine and_congr ?_ ?_
  · simp [progress, landing, opened]
  · simp only [prefixes, and_imp]
    rw [ReadsInOrder]
    constructor
    · intro all first before later after split none
      have := all before later after split first none
      simpa [progress, landing, Int.add_assoc, or_assoc] using this
    · intro all before later after split first none
      have := all first before later after split none
      simpa [progress, landing, Int.add_assoc, or_assoc] using this

/-- Where the cursor stands after reads that have not ended the loop. -/
structure Cursor.Reached (size : Nat) (lapsed : Prop) (landed sum : Int)
    (cursor : Cursor) : Prop where
  small : size < 2 ^ 32
  opened : ¬Ends size sum
  remaining : (cursor.remainingSize : Int) = size - sum
  pointer : cursor.curDataPtr = landed
  behind : landed ≤ sum
  straight : ¬lapsed → landed = sum ∧ cursor.places = whole landed.toNat ∧
    0 ≤ landed
  crooked : lapsed → landed < cursor.places.length ∧
    (Straight cursor.places → cursor.places.length < size)

variable {size : Nat} {lapsed : Prop} {landed sum : Int} {cursor : Cursor}

variable (reached : cursor.Reached size lapsed landed sum)

include reached

theorem Cursor.Reached.places_ne_whole :
    cursor.places ≠ whole size := by
  intro complete
  have bounds := not_or.mp reached.opened
  by_cases crooked : lapsed
  · have short := (reached.crooked crooked).2
    rw [complete] at short
    exact (short (straight_whole size)).ne (length_whole size)
  · obtain ⟨same, places, inside⟩ := reached.straight crooked
    rw [places, whole_eq_whole_iff] at complete
    omega

theorem Cursor.Reached.missing :
    cursor.remainingSize ≠ 0 := by
  have bounds := not_or.mp reached.opened
  have remaining := reached.remaining
  omega

theorem Cursor.Reached.exactly_iff {reported : Prop} (silent : ¬reported) :
    TransfersExactly size reported cursor.places ↔
      ∀ place ∈ cursor.places, 0 ≤ place ∧ place < size := by
  constructor
  · exact TransfersExactly.inside
  · exact fun inside =>
      ⟨iff_of_false silent reached.places_ne_whole, inside⟩

theorem Cursor.Reached.ends_iff (count : Nat) :
    Ends size (sum + (Transfer.moved count).step) ↔
      cursor.remainingSize ≤ count := by
  have bounds := not_or.mp reached.opened
  have remaining := reached.remaining
  simp only [Ends, Transfer.step]
  omega

theorem Cursor.Reached.remaining_of_ends {transfer : Transfer}
    (ended : Ends size (sum + transfer.step)) :
    ((cursor.transfer transfer).advance
      (intOf (transfer.result cursor.remainingSize))).remainingSize = 0 := by
  have bounds := not_or.mp reached.opened
  have remaining := reached.remaining
  have small := reached.small
  cases transfer with
  | failed =>
      have converted : intOf (-1) = -1 := by decide
      simp only [Ends, Transfer.step] at ended
      simp only [Transfer.result, converted, Cursor.advance, Cursor.transfer]
      omega
  | moved count =>
      have last := (reached.ends_iff count).mp ended
      have whole : (cursor.remainingSize : Int) -
          intOf cursor.remainingSize = 0 ∨
          (cursor.remainingSize : Int) - intOf cursor.remainingSize =
            2 ^ 32 := by
        rcases lt_or_ge cursor.remainingSize (2 ^ 31) with below | above
        · rw [intOf_of_lt below]
          omega
        · rw [intOf_of_ge above (by omega)]
          omega
      simp only [Transfer.result, Nat.min_eq_right last, Cursor.advance,
        Cursor.transfer]
      omega

/-- A part of the message that does not complete it. -/
theorem Cursor.Reached.moved {count : Nat}
    (short : count < cursor.remainingSize) :
    ((cursor.transfer (.moved count)).advance (intOf count)).Reached size
      (lapsed ∨ (Transfer.moved count).Lapses) (landed + intOf count)
      (sum + count) := by
  have bounds := not_or.mp reached.opened
  have remaining := reached.remaining
  have small := reached.small
  have behind := reached.behind
  have taken : min count cursor.remainingSize = count := by omega
  have converted : intOf count = count ∧ count < 2 ^ 31 ∨
      intOf count = count - 2 ^ 32 ∧ 2 ^ 31 ≤ count := by
    rcases lt_or_ge count (2 ^ 31) with below | above
    · exact .inl ⟨intOf_of_lt below, below⟩
    · exact .inr ⟨intOf_of_ge above (by omega), above⟩
  refine ⟨small, ?_, ?_, ?_, by omega, ?_, ?_⟩
  · simp only [Ends]
    omega
  · simp only [Cursor.advance, Cursor.transfer]
    omega
  · simp only [Cursor.advance, Cursor.transfer, reached.pointer]
  · intro straight
    rw [not_or] at straight
    obtain ⟨same, places, inside⟩ := reached.straight straight.1
    have below : count < 2 ^ 31 := by
      by_contra above
      exact straight.2 (.inr (not_lt.mp above))
    rw [intOf_of_lt below]
    refine ⟨by omega, ?_, by omega⟩
    simp only [Cursor.advance, Cursor.transfer, Transfer.count, taken,
      places, reached.pointer]
    obtain ⟨done, rfl⟩ := Int.eq_ofNat_of_zero_le inside
    rw [← Int.natCast_add, Int.toNat_natCast, Int.toNat_natCast]
    exact whole_append done count
  · intro crooked
    simp only [Cursor.advance, Cursor.transfer, Transfer.count, taken,
      List.length_append, length_stretch, Int.natCast_add, reached.pointer]
    by_cases before : lapsed
    · obtain ⟨inside, incomplete⟩ := reached.crooked before
      refine ⟨by omega, ?_⟩
      intro straight
      rcases Nat.eq_zero_or_pos count with rfl | positive
      · rw [stretch_zero, List.append_nil] at straight
        exact incomplete straight
      · exact absurd straight
          (not_straight_of_part positive (Int.ne_of_lt inside))
    · obtain ⟨same, places, inside⟩ := reached.straight before
      have length : cursor.places.length = landed.toNat := by
        rw [places, length_whole]
      have large : 2 ^ 31 ≤ count := by
        rcases crooked.resolve_left before with failed | large
        · cases failed
        · exact large
      constructor
      · omega
      · intro _
        omega

/-- A failed read moves the cursor back. -/
theorem Cursor.Reached.failed
    (opened : ¬Ends size (sum + Transfer.failed.step)) :
    ((cursor.transfer .failed).advance (intOf (-1))).Reached size
      (lapsed ∨ Transfer.failed.Lapses) (landed + intOf (-1)) (sum + -1) := by
  have converted : intOf (-1) = -1 := by decide
  have bounds := not_or.mp reached.opened
  have stays := not_or.mp opened
  have remaining := reached.remaining
  have behind := reached.behind
  have places : (cursor.transfer .failed).places = cursor.places := by
    simp [Cursor.transfer, Transfer.count]
  simp only [Transfer.step] at stays
  rw [converted]
  refine ⟨reached.small, opened, ?_, ?_, by omega, ?_, ?_⟩
  · simp only [Cursor.advance, Cursor.transfer]
    omega
  · simp only [Cursor.advance, Cursor.transfer, reached.pointer]
  · exact fun straight => absurd (.inr (.inl rfl)) straight
  · intro _
    simp only [Cursor.advance, places]
    by_cases before : lapsed
    · obtain ⟨inside, short⟩ := reached.crooked before
      exact ⟨by omega, short⟩
    · obtain ⟨same, found, inside⟩ := reached.straight before
      have length : cursor.places.length = landed.toNat := by
        rw [found, length_whole]
      constructor
      · omega
      · intro _
        omega

omit reached

theorem readFromService_complete {passes : List ReadPass}
    (complete : cursor.remainingSize = 0) :
    readFromService passes cursor = (some .ok, cursor) := by
  cases passes <;> simp [readFromService, complete]

include reached in
theorem Cursor.Reached.inside_iff (count : Nat) :
    (∀ place ∈ (cursor.transfer (.moved count)).places,
        0 ≤ place ∧ place < size) ↔
      (∀ place ∈ cursor.places, 0 ≤ place ∧ place < size) ∧
        (0 < count → 0 ≤ landed) := by
  have bounds := not_or.mp reached.opened
  have remaining := reached.remaining
  have behind := reached.behind
  have pointer := reached.pointer
  simp only [Cursor.transfer, Transfer.count]
  constructor
  · intro inside
    refine ⟨fun place member =>
      inside place (List.mem_append_left _ member), ?_⟩
    intro positive
    have first : landed ∈ stretch cursor.curDataPtr
        (min count cursor.remainingSize) := mem_stretch.mpr (by omega)
    exact (inside landed (List.mem_append_right _ first)).1
  · rintro ⟨inside, starts⟩ place member
    rcases List.mem_append.mp member with old | new
    · exact inside place old
    · have within := mem_stretch.mp new
      omega

include reached in
/-- The last read of a loop that ends. -/
theorem Cursor.Reached.ended_iff {transfer : Transfer}
    (ended : Ends size (sum + transfer.step)) {reported : Prop}
    (success : reported) :
    TransfersExactly size reported (cursor.transfer transfer).places ↔
      (∀ place ∈ cursor.places, 0 ≤ place ∧ place < size) ∧
        (0 < transfer.count → 0 ≤ landed) ∧ ¬lapsed ∧ transfer ≠ .failed := by
  cases transfer with
  | failed =>
      refine iff_of_false ?_ (fun all => all.2.2.2 rfl)
      intro exactly
      have complete := exactly.reports.mp success
      simp only [Cursor.transfer, Transfer.count, Nat.zero_min, stretch_zero,
        List.append_nil] at complete
      exact reached.places_ne_whole complete
  | moved count =>
  have bounds := not_or.mp reached.opened
  have remaining := reached.remaining
  have last := (reached.ends_iff count).mp ended
  have taken : min count cursor.remainingSize = cursor.remainingSize := by
    omega
  by_cases crooked : lapsed
  · refine iff_of_false ?_ (fun all => all.2.2.1 crooked)
    intro exactly
    have complete := exactly.reports.mp success
    have out := @not_straight_of_part cursor.places landed
      cursor.remainingSize (by omega)
      (Int.ne_of_lt (reached.crooked crooked).1)
    simp only [Cursor.transfer, Transfer.count, taken,
      reached.pointer] at complete
    rw [complete] at out
    exact out (straight_whole size)
  · obtain ⟨same, places, inside⟩ := reached.straight crooked
    have complete : (cursor.transfer (.moved count)).places = whole size := by
      obtain ⟨done, rfl⟩ := Int.eq_ofNat_of_zero_le inside
      simp only [Cursor.transfer, Transfer.count, taken, reached.pointer,
        places, Int.toNat_natCast, whole_append]
      rw [whole_eq_whole_iff]
      omega
    rw [complete]
    refine iff_of_true (.of_whole success) ⟨?_, fun _ => inside, crooked,
      nofun⟩
    intro place member
    rw [places] at member
    have within := mem_whole.mp member
    omega

theorem readFromService_exact_iff (passes : List ReadPass)
    (reached : cursor.Reached size lapsed landed sum) :
    TransfersExactly size ((readFromService passes cursor).1 = some .ok)
        (readFromService passes cursor).2.places ↔
      (∀ place ∈ cursor.places, 0 ≤ place ∧ place < size) ∧
        ReadsInOrder size lapsed landed sum (reads passes) := by
  have missing := reached.missing
  induction passes generalizing lapsed landed sum cursor with
  | nil =>
      simp only [readFromService, if_neg missing, reads, List.takeWhile_nil,
        List.map_nil, ReadsInOrder, forallParts_nil, and_true]
      exact reached.exactly_iff (by simp)
  | cons pass passes induction =>
      simp only [readFromService, if_neg missing]
      obtain ⟨timedOut, ready, transfer⟩ := pass
      cases timedOut with
      | true =>
          have none : reads (⟨true, ready, transfer⟩ :: passes) = [] := rfl
          simp only [none, ReadsInOrder, forallParts_nil, and_true, if_true]
          exact reached.exactly_iff (by simp)
      | false =>
      cases ready with
      | false =>
          have none : reads (⟨false, false, transfer⟩ :: passes) = [] := rfl
          simp only [none, ReadsInOrder, forallParts_nil, and_true, if_true,
            Bool.false_eq_true, if_false]
          exact reached.exactly_iff (by simp)
      | true =>
      have first : reads (⟨false, true, transfer⟩ :: passes) =
          transfer :: reads passes := rfl
      rw [first, readsInOrder_cons reached.opened]
      simp only [Bool.false_eq_true, if_false, Bool.true_eq_false]
      by_cases ended : Ends size (sum + transfer.step)
      · have complete : ((cursor.transfer transfer).advance
            (intOf (transfer.result cursor.remainingSize))).remainingSize =
            0 := reached.remaining_of_ends ended
        rw [readFromService_complete complete]
        simp only [not_true_eq_false, false_implies, ended, true_implies,
          and_true]
        exact reached.ended_iff ended trivial
      · simp only [ended, false_implies, and_true, not_false_eq_true,
          true_implies]
        cases transfer with
        | failed =>
            have next := reached.failed ended
            refine (induction next next.missing).trans (and_congr ?_ ?_)
            · simp [Cursor.advance, Cursor.transfer, Transfer.count]
            · simp [Transfer.count, Transfer.step]
        | moved count =>
            have short : count < cursor.remainingSize := by
              rw [reached.ends_iff] at ended
              exact not_le.mp ended
            have result : (Transfer.moved count).result
                cursor.remainingSize = count := by
              rw [Transfer.result, Nat.min_eq_left short.le]
            have next := reached.moved short
            rw [result, ← and_assoc]
            exact (induction next next.missing).trans
              (and_congr_left' (reached.inside_iff count))

end Nano

namespace Nginx

inductive CommDirection where
  | writeToSocket
  | readFromSocket
  deriving DecidableEq

/-- The local variables of `exchange_communication_data_with_service`, with an
`int` for the size that is missing. -/
structure Exchange where
  res : Int
  remainingSize : Int
  curDataPtr : Int
  places : List Int

def Exchange.start (size : BitVec 32) : Exchange :=
  { res := 0
    remainingSize := intOf size.toNat
    curDataPtr := 0
    places := [] }

/-- A pass of the loop: what the polls before a read find, the call, and
whether the time is over behind it. -/
structure ExchangePass where
  polls : List Bool
  transfer : Transfer
  timedOut : Bool

/-- The call of the pass.  Three polls without data count as a failed read. -/
def ExchangePass.call (direction : CommDirection) (pass : ExchangePass) :
    Transfer :=
  match direction with
  | .writeToSocket => pass.transfer
  | .readFromSocket =>
      if (pass.polls.take 3).any id then pass.transfer else .failed

/-- The loop of `exchange_communication_data_with_service`. -/
def exchangeCommunicationDataWithService (direction : CommDirection) :
    List ExchangePass → Exchange → Option Int × Exchange
  | [], exchange =>
      if 0 < exchange.remainingSize then (none, exchange)
      else (some exchange.res, exchange)
  | pass :: passes, exchange =>
      if 0 < exchange.remainingSize then
        let asked := exchange.remainingSize.toNat
        let call := pass.call direction
        let exchange := { exchange with
          res := intOf (call.result asked)
          places := exchange.places ++
            stretch exchange.curDataPtr (min call.count asked) }
        if exchange.res < 0 then (some exchange.res, exchange)
        else
          let exchange := { exchange with
            remainingSize := exchange.remainingSize - exchange.res
            curDataPtr := exchange.curDataPtr + exchange.res }
          if pass.timedOut then (some exchange.res, exchange)
          else
            exchangeCommunicationDataWithService direction passes exchange
      else (some exchange.res, exchange)

/-- The callers take a positive result as success. -/
def Succeeds (result : Option Int) : Prop :=
  ∃ res, result = some res ∧ 0 < res

structure ExchangePass.GoesOn (direction : CommDirection)
    (pass : ExchangePass) : Prop where
  moved : pass.call direction ≠ .failed
  inTime : pass.timedOut = false

def ExchangePass.total (direction : CommDirection)
    (passes : List ExchangePass) : Nat :=
  (passes.map fun pass => (pass.call direction).count).sum

/-- The time is not over behind a part of the message that does not complete
it. -/
def ExchangedInTime (direction : CommDirection) (size done : Nat)
    (passes : List ExchangePass) : Prop :=
  ForallParts (fun before pass =>
    (∀ earlier ∈ before, earlier.GoesOn direction) →
      pass.timedOut = true → 0 < (pass.call direction).count →
        size ≤ done + ExchangePass.total direction before +
          (pass.call direction).count) passes

variable {direction : CommDirection} {size done : Nat}

theorem ExchangedInTime.of_done (passes : List ExchangePass)
    (complete : size ≤ done) :
    ExchangedInTime direction size done passes := by
  apply forallParts_of_forall
  intro before pass goOn late moved
  omega

theorem exchangedInTime_cons_of_stops {pass : ExchangePass}
    {passes : List ExchangePass} (stops : ¬pass.GoesOn direction) :
    ExchangedInTime direction size done (pass :: passes) ↔
      (pass.timedOut = true → 0 < (pass.call direction).count →
        size ≤ done + (pass.call direction).count) := by
  rw [ExchangedInTime, forallParts_cons]
  have vacuous : ForallParts (fun before later =>
      (∀ earlier ∈ pass :: before, earlier.GoesOn direction) →
        later.timedOut = true → 0 < (later.call direction).count →
          size ≤ done + ExchangePass.total direction (pass :: before) +
            (later.call direction).count) passes := by
    apply forallParts_of_forall
    intro before later goOn
    exact absurd (goOn pass List.mem_cons_self) stops
  rw [and_iff_left vacuous]
  simp [ExchangePass.total]

theorem exchangedInTime_cons_of_goesOn {pass : ExchangePass}
    {passes : List ExchangePass} (goesOn : pass.GoesOn direction) :
    ExchangedInTime direction size done (pass :: passes) ↔
      ExchangedInTime direction size (done + (pass.call direction).count)
        passes := by
  rw [ExchangedInTime, forallParts_cons]
  refine (and_iff_right ?_).trans ?_
  · intro _ late
    exact absurd (late.symm.trans goesOn.inTime) (by simp)
  · apply forallParts_congr
    intro before later
    simp only [List.forall_mem_cons, goesOn, true_and, ExchangePass.total,
      List.map_cons, List.sum_cons, Nat.add_assoc]

/-- The exchange stands behind the bytes that are done. -/
structure Exchange.Stands (size done : Nat) (exchange : Exchange) :
    Prop where
  inside : done ≤ size
  small : size < 2 ^ 31
  remaining : exchange.remainingSize = size - done
  pointer : exchange.curDataPtr = done
  places : exchange.places = whole done
  succeeded : done = size → 0 < exchange.res

theorem Exchange.Stands.exactly_of_done {exchange : Exchange}
    (stands : exchange.Stands size done) (complete : size ≤ done) :
    TransfersExactly size (Succeeds (some exchange.res)) exchange.places := by
  obtain rfl := le_antisymm complete stands.inside
  rw [stands.places]
  exact .of_whole ⟨exchange.res, rfl, stands.succeeded rfl⟩

theorem exchange_exact_iff (passes : List ExchangePass) {exchange : Exchange}
    (stands : exchange.Stands size done) :
    TransfersExactly size
        (Succeeds
          (exchangeCommunicationDataWithService direction passes exchange).1)
        (exchangeCommunicationDataWithService direction passes
          exchange).2.places ↔
      ExchangedInTime direction size done passes := by
  induction passes generalizing done exchange with
  | nil =>
      refine iff_of_true ?_ forallParts_nil
      have remaining := stands.remaining
      by_cases complete : size ≤ done
      · simp only [exchangeCommunicationDataWithService,
          if_neg (by omega : ¬0 < exchange.remainingSize)]
        exact stands.exactly_of_done complete
      · simp only [exchangeCommunicationDataWithService,
          if_pos (by omega : 0 < exchange.remainingSize), stands.places]
        refine .of_short ?_ (by omega)
        rintro ⟨res, returned, _⟩
        cases returned
  | cons pass passes induction =>
      have remaining := stands.remaining
      by_cases complete : size ≤ done
      · refine iff_of_true ?_ (.of_done _ complete)
        simp only [exchangeCommunicationDataWithService,
          if_neg (by omega : ¬0 < exchange.remainingSize)]
        exact stands.exactly_of_done complete
      have asked : exchange.remainingSize.toNat = size - done := by omega
      have small := stands.small
      simp only [exchangeCommunicationDataWithService,
        if_pos (by omega : 0 < exchange.remainingSize), asked,
        stands.pointer, stands.places]
      cases call : pass.call direction with
      | failed =>
          have stops : ¬pass.GoesOn direction :=
            fun goesOn => goesOn.moved call
          have negative : intOf (-1) < 0 := by decide
          rw [exchangedInTime_cons_of_stops stops, call]
          refine iff_of_true ?_ (fun _ moved => nomatch moved)
          simp only [Transfer.result, if_pos negative, Transfer.count,
            Nat.zero_min, stretch_zero, List.append_nil]
          refine .of_short ?_ (by omega)
          rintro ⟨res, returned, positive⟩
          cases returned
          exact absurd positive (by decide)
      | moved count =>
      have converted : intOf (min count (size - done) : Nat) =
          (min count (size - done) : Nat) := by
        rw [intOf]
        omega
      have nonnegative : ¬((min count (size - done) : Nat) : Int) < 0 := by
        omega
      simp only [Transfer.result, Transfer.count, converted,
        if_neg nonnegative]
      have places : whole done ++ stretch done (min count (size - done)) =
          whole (done + min count (size - done)) := whole_append done _
      rw [places]
      cases late : pass.timedOut with
      | true =>
          have stops : ¬pass.GoesOn direction :=
            fun goesOn => Bool.noConfusion (late.symm.trans goesOn.inTime)
          rw [exchangedInTime_cons_of_stops stops, call, if_pos rfl]
          simp only [late, Transfer.count, true_implies]
          by_cases reached : size - done ≤ count
          · refine iff_of_true ?_ (by omega)
            rw [Nat.min_eq_right reached,
              Nat.add_sub_cancel' stands.inside]
            exact .of_whole ⟨_, rfl, by omega⟩
          · rw [Nat.min_eq_left (by omega)]
            rcases Nat.eq_zero_or_pos count with rfl | positive
            · refine iff_of_true (.of_short ?_ (by omega)) nofun
              rintro ⟨res, returned, positive⟩
              cases returned
              exact absurd positive (by decide)
            · refine iff_of_false ?_ (by omega)
              intro exactly
              have reported :=
                exactly.reports.mp ⟨_, rfl, by simpa using positive⟩
              rw [whole_eq_whole_iff] at reported
              omega
      | false =>
          have goesOn : pass.GoesOn direction :=
            ⟨by rw [call]; nofun, late⟩
          rw [exchangedInTime_cons_of_goesOn goesOn, call]
          simp only [Bool.false_eq_true, if_false, Transfer.count]
          have next : ({ exchange with
              res := (min count (size - done) : Nat)
              places := whole (done + min count (size - done))
              remainingSize :=
                exchange.remainingSize - (min count (size - done) : Nat)
              curDataPtr := done + (min count (size - done) : Nat) } :
              Exchange).Stands size (done + min count (size - done)) := by
            refine ⟨by omega, small, ?_, by simp, rfl, ?_⟩
            · simp only
              omega
            · intro complete
              simp only
              omega
          refine (induction next).trans ?_
          by_cases reached : count ≤ size - done
          · rw [Nat.min_eq_left reached]
          · exact iff_of_true (.of_done _ (by omega)) (.of_done _ (by omega))

end Nginx

/-- An empty message is never reported as transferred, and one that is too
large for an `int` is not begun. -/
theorem Nginx.exchange_size_iff (size : BitVec 32)
    (direction : CommDirection) (exchanges : List ExchangePass) :
    TransfersExactly size.toNat
        (Succeeds (exchangeCommunicationDataWithService direction exchanges
          (.start size)).1)
        (exchangeCommunicationDataWithService direction exchanges
          (.start size)).2.places ↔
      size ≠ 0#32 ∧ (size.toNat < 2 ^ 31 →
        ExchangedInTime direction size.toNat 0 exchanges) := by
  by_cases empty : size = 0#32
  · subst empty
    refine iff_of_false ?_ (fun nonempty => nonempty.1 rfl)
    intro exactly
    have reported : Succeeds (some 0) := by
      cases exchanges <;> exact exactly.reports.mpr rfl
    obtain ⟨res, returned, positive⟩ := reported
    cases returned
    exact absurd positive (by decide)
  have positive : 0 < size.toNat := by
    apply Nat.pos_of_ne_zero
    intro none
    exact empty (BitVec.eq_of_toNat_eq none)
  by_cases large : 2 ^ 31 ≤ size.toNat
  · have negative : ¬0 < intOf size.toNat := by
      have bounded := size.isLt
      rw [intOf_of_ge large bounded]
      omega
    have stopped : exchangeCommunicationDataWithService direction exchanges
        (.start size) = (some 0, .start size) := by
      cases exchanges with
      | nil => exact if_neg negative
      | cons pass passes => exact if_neg negative
    refine iff_of_true ?_ ⟨empty, fun small => absurd large (by omega)⟩
    rw [stopped]
    apply @TransfersExactly.of_short _ 0 _ _ positive
    rintro ⟨res, returned, moved⟩
    cases returned
    exact absurd moved (by decide)
  · have small : size.toNat < 2 ^ 31 := not_le.mp large
    have stands : (Exchange.start size).Stands size.toNat 0 := by
      refine ⟨Nat.zero_le _, small, ?_, rfl, rfl, fun none => ?_⟩
      · simp [Exchange.start, intOf_of_lt small]
      · exact absurd none positive.ne
    rw [exchange_exact_iff exchanges stands]
    exact ⟨fun met => ⟨empty, fun _ => met⟩, fun met => met.2 small⟩

/-- For every size and all results of the system calls: when each of the three
functions reports a transfer just when it is exact. -/
theorem registration_messages_exact_iff (size : BitVec 32)
    (writes : List Nano.WritePass) (reads : List Nano.ReadPass)
    (direction : Nginx.CommDirection)
    (exchanges : List Nginx.ExchangePass) :
    let written := Nano.writeToService writes (.start size)
    let received := Nano.readFromService reads (.start size)
    let exchanged := Nginx.exchangeCommunicationDataWithService direction
      exchanges (.start size)
    (TransfersExactly size.toNat (written.1 = some .ok) written.2.places ↔
        Nano.WritesFit size.toNat 0 writes) ∧
      (TransfersExactly size.toNat (received.1 = some .ok)
          received.2.places ↔
        Nano.ReadsInOrder size.toNat False 0 0 (Nano.reads reads)) ∧
      (TransfersExactly size.toNat (Nginx.Succeeds exchanged.1)
          exchanged.2.places ↔
        size ≠ 0#32 ∧ (size.toNat < 2 ^ 31 →
          Nginx.ExchangedInTime direction size.toNat 0 exchanges)) := by
  intro written received exchanged
  refine ⟨?_, ?_, Nginx.exchange_size_iff size direction exchanges⟩
  · exact Nano.writeToService_exact_iff writes
      ⟨Nat.zero_le _, size.isLt, rfl, rfl, rfl⟩
  · by_cases empty : size.toNat = 0
    · have complete : (Nano.Cursor.start size).remainingSize = 0 := empty
      have ended : Nano.Ends size.toNat (0 + Nano.progress []) :=
        .inl (by simp [empty, Nano.progress])
      refine iff_of_true ?_ ?_
      · simp only [received, Nano.readFromService_complete complete, empty]
        exact .of_whole trivial
      · apply forallParts_of_forall
        intro before transfer opened
        exact absurd ended (opened [] List.nil_prefix)
    · have reached : (Nano.Cursor.start size).Reached size.toNat False 0 0 := by
        have bounded := size.isLt
        refine ⟨bounded, ?_, ?_, rfl, Int.le_refl _, ?_, False.elim⟩
        · simp only [Nano.Ends]
          omega
        · simp [Nano.Cursor.start]
        · exact fun _ => ⟨rfl, rfl, Int.le_refl _⟩
      refine (Nano.readFromService_exact_iff reads reached).trans ?_
      simp [Nano.Cursor.start]

/-- A read that fails moves the pointer in front of the buffer, and a part of
a message behind which the time is over is reported as the whole. -/
theorem registration_message_misreported :
    let received := Nano.readFromService
      [⟨false, true, .failed⟩, ⟨false, true, .moved 3⟩] (.start 2)
    let exchanged := Nginx.exchangeCommunicationDataWithService
      .writeToSocket [⟨[], .moved 2, true⟩] (.start 4)
    received.1 = some .ok ∧ received.2.places = [-1, 0, 1] ∧
      ¬TransfersExactly 2 (received.1 = some .ok) received.2.places ∧
      exchanged.1 = some 2 ∧ exchanged.2.places = [0, 1] ∧
      ¬TransfersExactly 4 (Nginx.Succeeds exchanged.1)
        exchanged.2.places := by
  intro received exchanged
  have places : received.2.places = [-1, 0, 1] := by decide
  have returned : exchanged.1 = some 2 := by decide
  have sent : exchanged.2.places = [0, 1] := by decide
  refine ⟨by decide, places, ?_, returned, sent, ?_⟩
  · intro exactly
    have outside := exactly.inside (-1) (by simp [places])
    exact absurd outside.1 (by decide)
  · intro exactly
    have reported := exactly.reports.mp ⟨2, returned, by decide⟩
    exact absurd (congrArg List.length reported) (by simp [sent, whole])

end OpenAppsec
