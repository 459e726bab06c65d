import Mathlib.Tactic.Common

/-!
# Readers that wait for a number of messages

A reader takes messages from the front of a queue until it has counted as many
as it waits for.  Some messages pass without being counted, some end the
reading at once, and some make the reader give up.
-/

namespace CountedReader

variable {μ : Type*}

variable {message : μ} {before after : List μ}

/-- What a reader does with a message. -/
inductive Kind where
  | pass
  | count
  | stop
  | abort
  deriving DecidableEq

/-- The number of counted messages. -/
def counted (kind : μ → Kind) (messages : List μ) : Nat :=
  messages.countP fun message => kind message = .count

/-- After these messages the reader goes on. -/
structure StillReading (kind : μ → Kind) (count : Nat)
    (messages : List μ) : Prop where
  waiting : counted kind messages < count
  goesOn : ∀ message ∈ messages,
    kind message ≠ .stop ∧ kind message ≠ .abort

/-- A reader that has gone through `before` ends at this message. -/
def EndsAt (kind : μ → Kind) (count : Nat) (before : List μ)
    (message : μ) : Prop :=
  kind message = .stop ∨ kind message = .abort ∨
    kind message = .count ∧ counted kind before + 1 = count

variable {kind : μ → Kind} {count : Nat}

@[simp] theorem counted_nil : counted kind [] = 0 :=
  rfl

@[simp] theorem counted_append (before after : List μ) :
    counted kind (before ++ after) =
      counted kind before + counted kind after :=
  List.countP_append

theorem counted_singleton_of_count (counts : kind message = .count) :
    counted kind [message] = 1 := by
  simp [counted, counts]

theorem counted_singleton_of_ne (other : kind message ≠ .count) :
    counted kind [message] = 0 := by
  simp [counted, other]

theorem StillReading.nil (waiting : 0 < count) :
    StillReading kind count [] where
  waiting := waiting
  goesOn := fun _ member => absurd member List.not_mem_nil

theorem StillReading.left
    (reading : StillReading kind count (before ++ after)) :
    StillReading kind count before where
  waiting := by
    have total := reading.waiting
    rw [counted_append] at total
    exact Nat.lt_of_le_of_lt (Nat.le_add_right _ _) total
  goesOn := fun message member =>
    reading.goesOn message (List.mem_append_left after member)

theorem StillReading.through
    (reading : StillReading kind count (before ++ message :: after)) :
    StillReading kind count (before ++ [message]) := by
  apply StillReading.left
  rwa [List.append_assoc, List.singleton_append]

theorem StillReading.concat (reading : StillReading kind count before)
    (goesOn : ¬EndsAt kind count before message) :
    StillReading kind count (before ++ [message]) where
  waiting := by
    have waiting := reading.waiting
    rw [counted_append]
    cases found : kind message with
    | count =>
        rw [counted_singleton_of_count found]
        apply Nat.lt_of_le_of_ne waiting
        intro last
        exact goesOn (Or.inr (Or.inr ⟨found, last⟩))
    | pass => rwa [counted_singleton_of_ne (by simp [found])]
    | stop => exact absurd (Or.inl found) goesOn
    | abort => exact absurd (Or.inr (Or.inl found)) goesOn
  goesOn := by
    intro other member
    rcases List.mem_append.mp member with early | last
    · exact reading.goesOn other early
    · rw [List.mem_singleton.mp last]
      constructor
      · intro stops
        exact goesOn (Or.inl stops)
      · intro aborts
        exact goesOn (Or.inr (Or.inl aborts))

theorem StillReading.append_or_endsAt {examined : List μ}
    (reading : StillReading kind count examined) (rest : List μ) :
    StillReading kind count (examined ++ rest) ∨
      ∃ before message after, rest = before ++ message :: after ∧
        StillReading kind count (examined ++ before) ∧
        EndsAt kind count (examined ++ before) message := by
  induction rest generalizing examined with
  | nil =>
      left
      rwa [List.append_nil]
  | cons message rest induction =>
      by_cases ends : EndsAt kind count examined message
      · right
        refine ⟨[], message, rest, rfl, ?_, ?_⟩
        · rwa [List.append_nil]
        · rwa [List.append_nil]
      · have step := induction (reading.concat ends)
        rw [List.append_assoc, List.singleton_append] at step
        rcases step with all | ⟨before, last, after, split, early, endsLater⟩
        · exact Or.inl all
        · right
          refine ⟨message :: before, last, after,
            congrArg (List.cons message) split, ?_, ?_⟩
          · rwa [List.append_assoc, List.singleton_append] at early
          · rwa [List.append_assoc, List.singleton_append] at endsLater

/-- A reader that waits for something goes through its queue, or it ends at
one of the messages. -/
theorem stillReading_or_endsAt (kind : μ → Kind) (waiting : 0 < count) (queue : List μ) :
    StillReading kind count queue ∨
      ∃ before message after, queue = before ++ message :: after ∧
        StillReading kind count before ∧
        EndsAt kind count before message := by
  have nothing : StillReading kind count [] := .nil waiting
  exact nothing.append_or_endsAt queue

theorem EndsAt.not_stillReading (ends : EndsAt kind count before message) :
    ¬StillReading kind count (before ++ message :: after) := by
  intro reading
  have through := reading.through
  have goesOn := through.goesOn message (by simp)
  rcases ends with stops | aborts | ⟨counts, last⟩
  · exact goesOn.1 stops
  · exact goesOn.2 aborts
  · have waiting := through.waiting
    rw [counted_append, counted_singleton_of_count counts, last] at waiting
    exact Nat.lt_irrefl _ waiting

/-- Every message that the reader comes to is one of those before the message
at which it ends, or that message. -/
theorem EndsAt.mem_or_eq {early late : List μ} {reached : μ}
    (ends : EndsAt kind count before message)
    (split : before ++ message :: after = early ++ reached :: late)
    (reading : StillReading kind count early) :
    reached ∈ before ∨ reached = message := by
  rcases List.append_eq_append_iff.mp split with
    ⟨middle, parts, rest⟩ | ⟨middle, parts, rest⟩
  · cases middle with
    | nil => exact Or.inr (List.cons.inj rest).1.symm
    | cons head tail =>
        obtain ⟨same, -⟩ := List.cons.inj rest
        rw [parts, ← same] at reading
        exact absurd reading ends.not_stillReading
  · cases middle with
    | nil => exact Or.inr (List.cons.inj rest).1
    | cons head tail =>
        obtain ⟨same, -⟩ := List.cons.inj rest
        left
        rw [parts, same]
        simp

section Filter

variable (keep : μ → Bool) {messages : List μ}

theorem counted_filter
    (passes : ∀ message ∈ messages, keep message = false →
      kind message = .pass) :
    counted kind (messages.filter keep) = counted kind messages := by
  unfold counted
  rw [List.countP_filter]
  apply List.countP_congr
  intro message member
  cases kept : keep message with
  | true => simp
  | false => simp [passes message member kept]

theorem stillReading_filter_iff
    (passes : ∀ message ∈ messages, keep message = false →
      kind message = .pass) :
    StillReading kind count (messages.filter keep) ↔
      StillReading kind count messages := by
  constructor
  · intro reading
    refine ⟨?_, ?_⟩
    · rw [← counted_filter keep passes]
      exact reading.waiting
    · intro message member
      cases kept : keep message with
      | true =>
          exact reading.goesOn message (List.mem_filter.mpr ⟨member, kept⟩)
      | false => simp [passes message member kept]
  · intro reading
    refine ⟨?_, ?_⟩
    · rw [counted_filter keep passes]
      exact reading.waiting
    · intro message member
      exact reading.goesOn message (List.mem_filter.mp member).1

variable {keep} in
/-- The end of a reading is found in every queue that keeps the same
messages. -/
theorem EndsAt.of_filter {rest other : List μ}
    (ends : EndsAt kind count before message)
    (reading : StillReading kind count before)
    (passes : ∀ message, keep message = false → kind message = .pass)
    (kept : keep message = true)
    (same : (before ++ message :: rest).filter keep = other.filter keep) :
    ∃ before' rest', other = before' ++ message :: rest' ∧
      before'.filter keep = before.filter keep ∧
      StillReading kind count before' ∧
      EndsAt kind count before' message := by
  rw [List.filter_append, List.filter_cons_of_pos kept] at same
  obtain ⟨front, back, parts, fronts, backs⟩ :=
    List.filter_eq_append_iff.mp same.symm
  obtain ⟨skipped, after, rfl, none, -, -⟩ :=
    List.filter_eq_cons_iff.mp backs
  have filtered : (front ++ skipped).filter keep = before.filter keep := by
    rw [List.filter_append, fronts, List.filter_eq_nil_iff.mpr none,
      List.append_nil]
  have sameCount : counted kind (front ++ skipped) = counted kind before := by
    rw [← counted_filter keep fun other _ => passes other, filtered,
      counted_filter keep fun other _ => passes other]
  refine ⟨front ++ skipped, after, ?_, filtered, ?_, ?_⟩
  · rw [parts, List.append_assoc]
  · rw [← stillReading_filter_iff keep fun other _ => passes other,
      filtered, stillReading_filter_iff keep fun other _ => passes other]
    exact reading
  · unfold EndsAt at ends ⊢
    rwa [sameCount]

end Filter

section Compare

variable {other : μ → Kind} {messages : List μ}

theorem counted_le
    (fewer : ∀ message ∈ messages, other message = .count →
      kind message = .count) :
    counted other messages ≤ counted kind messages := by
  apply List.countP_mono_left
  intro message member
  simpa using fewer message member

theorem counted_congr
    (agree : ∀ message ∈ messages, other message = kind message) :
    counted other messages = counted kind messages := by
  apply List.countP_congr
  intro message member
  rw [agree message member]

theorem counted_lt
    (fewer : ∀ message ∈ messages, other message = .count →
      kind message = .count) (member : message ∈ messages)
    (counts : kind message = .count) (skips : other message ≠ .count) :
    counted other messages < counted kind messages := by
  obtain ⟨before, after, rfl⟩ := List.append_of_mem member
  rw [← List.singleton_append] at fewer ⊢
  simp only [counted_append]
  rw [counted_singleton_of_count counts, counted_singleton_of_ne skips]
  have early : counted other before ≤ counted kind before :=
    counted_le fun message member =>
      fewer message (List.mem_append_left _ member)
  have late : counted other after ≤ counted kind after :=
    counted_le fun message member =>
      fewer message (List.mem_append_right _ (List.mem_append_right _ member))
  omega

/-- A reader that counts no more and gives up nowhere goes at least as far. -/
theorem StillReading.mono (reading : StillReading kind count messages)
    (fewer : ∀ message ∈ messages, other message = .count →
      kind message = .count)
    (goesOn : ∀ message ∈ messages,
      other message ≠ .stop ∧ other message ≠ .abort) :
    StillReading other count messages where
  waiting := Nat.lt_of_le_of_lt (counted_le fewer) reading.waiting
  goesOn := goesOn

end Compare

end CountedReader
