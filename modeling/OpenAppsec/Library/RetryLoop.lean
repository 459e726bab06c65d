import Mathlib.Tactic.Common

/-!
# Retrying senders

A sender offers one message to a channel up to a fixed number of times.
Between two offers it waits for an answer of its peer and may give up.  It
reports success when an offer is accepted and the answer before it was good.
-/

namespace RetryLoop

/-- One offer with the wait after it: whether the channel accepts the offer,
and whether the wait is answered well; `none` when the sender gives up. -/
structure Attempt where
  accepted : Bool
  answered : Option Bool

/-- Whether the sender reports success, and how many copies were accepted. -/
structure Outcome where
  success : Bool
  copies : Nat

def offer : Bool → List Attempt → Outcome
  | _, [] => { success := false, copies := 0 }
  | answered, attempt :: attempts =>
      if answered && attempt.accepted then { success := true, copies := 1 }
      else
        let rest : Outcome :=
          match attempt.answered with
          | none => { success := false, copies := 0 }
          | some answered => offer answered attempts
        { rest with copies := rest.copies + attempt.accepted.toNat }

/-- At most one copy is accepted, and success means that one was. -/
structure Outcome.ExactlyOnce (outcome : Outcome) : Prop where
  atMostOne : outcome.copies ≤ 1
  success_iff : outcome.success = true ↔ outcome.copies = 1

/-- The first offer that the channel accepts comes after a good answer. -/
def FirstCopyAnswered : Bool → List Attempt → Prop
  | _, [] => True
  | answered, attempt :: attempts =>
      if attempt.accepted then answered = true
      else
        match attempt.answered with
        | none => True
        | some answered => FirstCopyAnswered answered attempts

/-- A successful sender has had a copy accepted. -/
theorem offer_copies_of_success {answered : Bool} {attempts : List Attempt}
    (success : (offer answered attempts).success = true) :
    1 ≤ (offer answered attempts).copies := by
  induction attempts generalizing answered with
  | nil => cases success
  | cons attempt attempts induction =>
      unfold offer at success ⊢
      split
      · exact Nat.le_refl 1
      · rename_i refused
        rw [if_neg refused] at success
        cases wait : attempt.answered with
        | none =>
            rw [wait] at success
            cases success
        | some next =>
            rw [wait] at success
            exact Nat.le_add_right_of_le (induction success)

theorem not_exactlyOnce_of_unanswered {attempt : Attempt}
    {attempts : List Attempt} (accepted : attempt.accepted = true) :
    ¬(offer false (attempt :: attempts)).ExactlyOnce := by
  intro once
  obtain ⟨atMostOne, success_iff⟩ := once
  simp only [offer, Bool.false_and, Bool.false_eq_true, if_false, accepted,
    Bool.toNat_true] at atMostOne success_iff
  cases wait : attempt.answered with
  | none =>
      rw [wait] at success_iff
      simp at success_iff
  | some next =>
      rw [wait] at atMostOne success_iff
      dsimp only at atMostOne success_iff
      have none : (offer next attempts).copies = 0 := by omega
      have success := success_iff.mpr (by simp [none])
      have some := offer_copies_of_success success
      omega

/-- Delivery is exactly once precisely when the first accepted offer is
recognised. -/
theorem offer_exactlyOnce_iff (answered : Bool) (attempts : List Attempt) :
    (offer answered attempts).ExactlyOnce ↔
      FirstCopyAnswered answered attempts := by
  induction attempts generalizing answered with
  | nil =>
      apply iff_of_true _ trivial
      exact ⟨Nat.zero_le 1, by simp [offer]⟩
  | cons attempt attempts induction =>
      unfold FirstCopyAnswered
      cases accepted : attempt.accepted with
      | true =>
          rw [if_pos rfl]
          cases answered with
          | true =>
              apply iff_of_true _ rfl
              simp only [offer, accepted, Bool.and_self, if_true]
              exact ⟨Nat.le_refl 1, by simp⟩
          | false =>
              apply iff_of_false
              · exact not_exactlyOnce_of_unanswered accepted
              · exact Bool.false_ne_true
      | false =>
          have rest : offer answered (attempt :: attempts) =
              match attempt.answered with
              | none => { success := false, copies := 0 }
              | some next => offer next attempts := by
            simp only [offer, accepted, Bool.and_false, Bool.false_eq_true,
              if_false, Bool.toNat_false, Nat.add_zero]
          rw [rest, if_neg Bool.false_ne_true]
          cases attempt.answered with
          | none =>
              apply iff_of_true _ trivial
              exact ⟨Nat.zero_le 1, by simp⟩
          | some next => exact induction next

end RetryLoop
