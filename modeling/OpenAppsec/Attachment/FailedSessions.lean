import OpenAppsec.Attachment.Senders
import OpenAppsec.Library.RingWindow

/-!
# The queue of failed sessions

A ring of session ids.  Adding to a full queue is refused, and popping from an
empty one gives the id zero.
-/

namespace OpenAppsec.Nano

open RingWindow

/-- `SESSION_ID_QUEUE_SIZE`. -/
def sessionIdQueueSize : Nat := 1024

structure SessionIdQueue where
  queue : Nat → BitVec 32
  head : Nat
  tail : Nat
  count : Nat
  head_lt : head < sessionIdQueueSize
  count_le : count ≤ sessionIdQueueSize
  tail_eq : tail = (head + count) % sessionIdQueueSize

/-- The queue of a new attachment, whose memory is cleared. -/
def SessionIdQueue.empty : SessionIdQueue :=
  { queue := fun _ => 0
    head := 0
    tail := 0
    count := 0
    head_lt := Nat.zero_lt_succ _
    count_le := Nat.zero_le _
    tail_eq := rfl }

def nanoAsyncFailedSessionIdQueueIsEmpty (bucket : SessionIdQueue) : Bool :=
  bucket.count = 0

def nanoAsyncFailedSessionIdQueueAdd (sessionId : BitVec 32)
    (bucket : SessionIdQueue) : NanoCommunicationResult × SessionIdQueue :=
  if full : bucket.count ≥ sessionIdQueueSize then
    (.error, bucket)
  else
    (.ok,
      { queue := Function.update bucket.queue bucket.tail sessionId
        head := bucket.head
        tail := (bucket.tail + 1) % sessionIdQueueSize
        count := bucket.count + 1
        head_lt := bucket.head_lt
        count_le := Nat.lt_of_not_ge full
        tail_eq := by
          rw [bucket.tail_eq, Nat.mod_add_mod, Nat.add_assoc] })

def nanoAsyncFailedSessionIdQueuePop (bucket : SessionIdQueue) :
    BitVec 32 × SessionIdQueue :=
  if empty : bucket.count = 0 then
    (0, bucket)
  else
    (bucket.queue bucket.head,
      { queue := bucket.queue
        head := (bucket.head + 1) % sessionIdQueueSize
        tail := bucket.tail
        count := bucket.count - 1
        head_lt := Nat.mod_lt _ (Nat.zero_lt_succ _)
        count_le := Nat.le_trans (Nat.sub_le _ _) bucket.count_le
        tail_eq := by
          rw [bucket.tail_eq, Nat.mod_add_mod, Nat.add_assoc,
            Nat.add_sub_cancel' (Nat.one_le_iff_ne_zero.mpr empty)] })

namespace SessionIdQueue

/-- The ids in the order in which they will be popped. -/
def contents (bucket : SessionIdQueue) : List (BitVec 32) :=
  window bucket.queue sessionIdQueueSize bucket.head bucket.count

theorem length_contents (bucket : SessionIdQueue) :
    bucket.contents.length = bucket.count := by
  apply length_window

theorem contents_eq_nil_iff (bucket : SessionIdQueue) :
    bucket.contents = [] ↔ bucket.count = 0 := by
  rw [← List.length_eq_zero_iff, length_contents]

/-- Adding an id, without the result. -/
def add (sessionId : BitVec 32) (bucket : SessionIdQueue) : SessionIdQueue :=
  (nanoAsyncFailedSessionIdQueueAdd sessionId bucket).2

theorem contents_add (sessionId : BitVec 32) {bucket : SessionIdQueue}
    (room : bucket.count < sessionIdQueueSize) :
    (bucket.add sessionId).contents = bucket.contents ++ [sessionId] := by
  rw [add, nanoAsyncFailedSessionIdQueueAdd, dif_neg (Nat.not_le.mpr room)]
  have filled := window_fill bucket.queue bucket.head room sessionId
  rw [← bucket.tail_eq] at filled
  exact filled

/-- A pop takes the first id away and returns it. -/
theorem contents_pop {bucket : SessionIdQueue}
    (pending : bucket.contents ≠ []) :
    bucket.contents =
      (nanoAsyncFailedSessionIdQueuePop bucket).1 ::
        (nanoAsyncFailedSessionIdQueuePop bucket).2.contents := by
  have counted : bucket.count ≠ 0 :=
    fun none => pending ((contents_eq_nil_iff bucket).mpr none)
  rw [nanoAsyncFailedSessionIdQueuePop, dif_neg counted]
  have headed := window_head bucket.queue sessionIdQueueSize bucket.head
    (bucket.count - 1)
  rw [Nat.sub_add_cancel (Nat.one_le_iff_ne_zero.mpr counted),
    Nat.mod_eq_of_lt bucket.head_lt] at headed
  exact headed

end SessionIdQueue

end OpenAppsec.Nano
