import Mathlib.Logic.Function.Basic
import OpenAppsec.Library.Trace

/-!
# Channels of messages

Several first-in first-out channels, read one message at a time: a reader
looks at the first message and takes it later.  What a system reports of its
calls is explained by the channels when each report is the one that they would
have given.  The order of delivery is then a fact about the channels alone.
-/

namespace MessageChannels

variable {κ μ : Type*}

/-- What one call on a channel reports. -/
inductive Report (κ μ : Type*) where
  | sent (channel : κ) (message : μ)
  | refused (channel : κ)
  | seen (channel : κ) (first : Option μ)
  | taken (channel : κ) (found : Bool)
  | asked (channel : κ) (waiting : Bool)

/-- The report agrees with the messages that wait in each channel; a channel
may refuse a message at any time. -/
def Agrees (contents : κ → List μ) : Report κ μ → Prop
  | .sent _ _ => True
  | .refused _ => True
  | .seen channel first => first = (contents channel).head?
  | .taken channel found => found = !(contents channel).isEmpty
  | .asked channel waiting => waiting = !(contents channel).isEmpty

section Steps

variable [DecidableEq κ]

/-- The messages that wait after a call. -/
def after (contents : κ → List μ) : Report κ μ → κ → List μ
  | .sent channel message =>
      Function.update contents channel (contents channel ++ [message])
  | .taken channel _ =>
      Function.update contents channel (contents channel).tail
  | _ => contents

/-- Every report of a sequence agrees with what waits at that point. -/
def Explains (contents : κ → List μ) (reports : List (Report κ μ)) : Prop :=
  Trace.Along (fun contents report => ((), after contents report)) Agrees
    contents reports

/-- The messages that a sequence of reports adds to a channel. -/
def sentOn (channel : κ) (reports : List (Report κ μ)) : List μ :=
  reports.flatMap fun
    | .sent other message => if other = channel then [message] else []
    | _ => []

/-- How many messages a sequence of reports takes from a channel. -/
def takenFrom (channel : κ) (reports : List (Report κ μ)) : Nat :=
  reports.countP fun
    | .taken other found => decide (other = channel) && found
    | _ => false

theorem explains_append_iff {contents : κ → List μ}
    {front back : List (Report κ μ)} :
    Explains contents (front ++ back) ↔
      Explains contents front ∧
        Explains (front.foldl after contents) back := by
  induction front generalizing contents with
  | nil => exact (and_iff_right trivial).symm
  | cons report front induction =>
      simp only [Explains, List.cons_append, Trace.Along,
        List.foldl_cons] at induction ⊢
      rw [induction, and_assoc]

/-- What waits in a channel is what it held and was sent, less what was
taken. -/
theorem waiting_eq {contents : κ → List μ} {reports : List (Report κ μ)}
    (explains : Explains contents reports) (channel : κ) :
    takenFrom channel reports ≤
        (contents channel ++ sentOn channel reports).length ∧
      reports.foldl after contents channel =
        (contents channel ++ sentOn channel reports).drop
          (takenFrom channel reports) := by
  induction reports generalizing contents with
  | nil => simp [takenFrom, sentOn]
  | cons report reports induction =>
      obtain ⟨agrees, later⟩ := explains
      obtain ⟨bounded, waits⟩ := induction later
      rw [List.foldl_cons, waits]
      cases report with
      | sent other message =>
          by_cases same : other = channel
          · subst same
            simp_all [sentOn, takenFrom, after]
          · have apart : channel ≠ other := fun equal => same equal.symm
            simp_all [sentOn, takenFrom, after]
      | taken other found =>
          by_cases same : other = channel
          · subst same
            cases held : contents other with
            | nil =>
                have none : found = false := by
                  simpa [Agrees, held] using agrees
                simp_all [sentOn, takenFrom, after]
            | cons first rest =>
                have some : found = true := by
                  simpa [Agrees, held] using agrees
                simp_all [sentOn, takenFrom, after]
          · have apart : channel ≠ other := fun equal => same equal.symm
            simp_all [sentOn, takenFrom, after]
      | refused _ => simp_all [sentOn, takenFrom, after]
      | seen _ _ => simp_all [sentOn, takenFrom, after]
      | asked _ _ => simp_all [sentOn, takenFrom, after]

/-- A reader of channels that start empty sees the messages in the order in
which they were sent, each until it is taken. -/
theorem seen_eq {channel : κ} {first : Option μ}
    {front back : List (Report κ μ)}
    (explains : Explains (fun _ => [])
      (front ++ .seen channel first :: back)) :
    first = (sentOn channel front)[takenFrom channel front]? := by
  obtain ⟨before, agrees, _⟩ := explains_append_iff.mp explains
  have waits := (waiting_eq before channel).2
  rw [List.nil_append] at waits
  change first = (front.foldl after (fun _ => []) channel).head? at agrees
  rw [agrees, waits, List.head?_drop]

end Steps

end MessageChannels
