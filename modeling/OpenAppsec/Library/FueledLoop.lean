import Mathlib.Data.List.Induction
import Mathlib.Tactic.Common

/-!
# Loops with fuel

A pass of a loop goes on with a state or leaves with a result.  The rules here
follow a loop along a list of inputs, carry an invariant to its result, and
show that it ends when a measure decreases.
-/

namespace FueledLoop

variable {σ ρ μ : Type*}

/-- `none` when the fuel runs out. -/
def runLoop (body : σ → σ ⊕ ρ) : Nat → σ → Option ρ
  | 0, _ => none
  | fuel + 1, state =>
      match body state with
      | .inl next => runLoop body fuel next
      | .inr result => some result

variable {body : σ → σ ⊕ ρ}

theorem runLoop_goesOn {state next : σ} (fuel : Nat)
    (goesOn : body state = .inl next) :
    runLoop body (fuel + 1) state = runLoop body fuel next := by
  simp only [runLoop, goesOn]

theorem runLoop_leaves {state : σ} {result : ρ} (fuel : Nat)
    (leaves : body state = .inr result) :
    runLoop body (fuel + 1) state = some result := by
  simp only [runLoop, leaves]

/-- If each input takes the loop one pass further, then the loop gets through
all of them. -/
theorem runLoop_along {inputs : List μ} {Reached : List μ → σ → Prop}
    (advances : ∀ before input after state,
      inputs = before ++ input :: after → Reached before state →
        ∃ next, body state = .inl next ∧ Reached (before ++ [input]) next)
    {state : σ} (start : Reached [] state) :
    ∃ reached, Reached inputs reached ∧
      ∀ fuel, runLoop body (inputs.length + fuel) state =
        runLoop body fuel reached := by
  have along : ∀ before after, inputs = before ++ after →
      ∃ reached, Reached before reached ∧
        ∀ fuel, runLoop body (before.length + fuel) state =
          runLoop body fuel reached := by
    intro before
    induction before using List.reverseRecOn with
    | nil =>
        intro after split
        refine ⟨state, start, ?_⟩
        intro fuel
        rw [List.length_nil, Nat.zero_add]
    | append_singleton before input induction =>
        intro after split
        rw [List.append_assoc, List.singleton_append] at split
        obtain ⟨reached, holds, same⟩ := induction (input :: after) split
        obtain ⟨next, goesOn, holdsNext⟩ :=
          advances before input after reached split holds
        refine ⟨next, holdsNext, ?_⟩
        intro fuel
        rw [List.length_append, List.length_singleton, Nat.add_assoc,
          Nat.add_comm 1 fuel, same, runLoop_goesOn fuel goesOn]
  exact along inputs [] (List.append_nil inputs).symm

/-- What every pass keeps holds when the loop leaves. -/
theorem runLoop_invariant (Holds : σ → Prop) (Post : ρ → Prop)
    (keeps : ∀ state next, Holds state → body state = .inl next → Holds next)
    (leaves : ∀ state result, Holds state → body state = .inr result →
      Post result)
    {fuel : Nat} {state : σ} (holds : Holds state) {result : ρ}
    (returned : runLoop body fuel state = some result) : Post result := by
  induction fuel generalizing state with
  | zero => exact absurd returned (Option.some_ne_none result).symm
  | succ fuel induction =>
      cases pass : body state with
      | inl next =>
          rw [runLoop_goesOn fuel pass] at returned
          exact induction (keeps state next holds pass) returned
      | inr left =>
          rw [runLoop_leaves fuel pass] at returned
          cases returned
          exact leaves state _ holds pass

/-- Every pass starts in a state that meets a guard. -/
def Along (body : σ → σ ⊕ ρ) (guard : σ → Prop) : Nat → σ → Prop
  | 0, _ => True
  | fuel + 1, state =>
      guard state ∧
        match body state with
        | .inl next => Along body guard fuel next
        | .inr _ => True

instance Along.decidable (body : σ → σ ⊕ ρ) (guard : σ → Prop)
    [DecidablePred guard] :
    ∀ fuel state, Decidable (Along body guard fuel state)
  | 0, _ => inferInstanceAs (Decidable True)
  | fuel + 1, state =>
      match pass : body state with
      | .inl next =>
          have := Along.decidable body guard fuel next
          decidable_of_iff (guard state ∧ Along body guard fuel next)
            (by rw [Along, pass])
      | .inr _ =>
          decidable_of_iff (guard state) (by simp [Along, pass])

theorem runLoop_of_along (Holds : σ → Prop) {guard : σ → Prop}
    (Post : ρ → Prop)
    (keeps : ∀ state next, Holds state → guard state →
      body state = .inl next → Holds next)
    (leaves : ∀ state result, Holds state → guard state →
      body state = .inr result → Post result)
    {fuel : Nat} {state : σ} (along : Along body guard fuel state)
    (holds : Holds state) {result : ρ}
    (returned : runLoop body fuel state = some result) : Post result := by
  induction fuel generalizing state with
  | zero => exact absurd returned (Option.some_ne_none result).symm
  | succ fuel induction =>
      obtain ⟨guarded, rest⟩ := along
      cases pass : body state with
      | inl next =>
          rw [pass] at rest
          rw [runLoop_goesOn fuel pass] at returned
          exact induction rest (keeps state next holds guarded pass) returned
      | inr left =>
          rw [runLoop_leaves fuel pass] at returned
          cases returned
          exact leaves state _ holds guarded pass

theorem runLoop_iff_along (Holds : σ → Prop) {guard : σ → Prop}
    (Post : ρ → Prop)
    (keeps : ∀ state next, Holds state → body state = .inl next →
      guard state ∧ Holds next)
    (leaves : ∀ state result, Holds state → body state = .inr result →
      (Post result ↔ guard state))
    {fuel : Nat} {state : σ} (holds : Holds state) {result : ρ}
    (returned : runLoop body fuel state = some result) :
    Post result ↔ Along body guard fuel state := by
  induction fuel generalizing state with
  | zero => exact absurd returned (Option.some_ne_none result).symm
  | succ fuel induction =>
      rw [Along]
      cases pass : body state with
      | inl next =>
          obtain ⟨guarded, holdsNext⟩ := keeps state next holds pass
          rw [runLoop_goesOn fuel pass] at returned
          rw [induction holdsNext returned]
          exact (and_iff_right guarded).symm
      | inr left =>
          rw [runLoop_leaves fuel pass] at returned
          cases returned
          rw [leaves state _ holds pass]
          exact (and_iff_left trivial).symm

theorem runLoop_returns_of (Holds : σ → Prop) (measure : σ → Nat)
    (keeps : ∀ state next, Holds state → body state = .inl next →
      Holds next ∧ measure next < measure state)
    {fuel : Nat} {state : σ} (holds : Holds state)
    (enough : measure state < fuel) :
    ∃ result, runLoop body fuel state = some result := by
  induction fuel generalizing state with
  | zero => exact absurd enough (Nat.not_lt_zero _)
  | succ fuel induction =>
      cases pass : body state with
      | inl next =>
          obtain ⟨holdsNext, decreases⟩ := keeps state next holds pass
          rw [runLoop_goesOn fuel pass]
          apply induction holdsNext
          exact Nat.lt_of_lt_of_le decreases (Nat.le_of_lt_succ enough)
      | inr left => exact ⟨left, runLoop_leaves fuel pass⟩

theorem runLoop_establishes (Holds : σ → Prop) (Post : ρ → Prop)
    (measure : σ → Nat)
    (passes : ∀ state, Holds state →
      (∃ next, body state = .inl next ∧ Holds next ∧
        measure next < measure state) ∨
      ∃ result, body state = .inr result ∧ Post result)
    {fuel : Nat} {state : σ} (holds : Holds state)
    (enough : measure state < fuel) :
    ∃ result, runLoop body fuel state = some result ∧ Post result := by
  induction fuel generalizing state with
  | zero => exact absurd enough (Nat.not_lt_zero _)
  | succ fuel induction =>
      obtain ⟨next, goesOn, holdsNext, decreases⟩ | ⟨result, leaves, post⟩ :=
        passes state holds
      · rw [runLoop_goesOn fuel goesOn]
        apply induction holdsNext
        exact Nat.lt_of_lt_of_le decreases (Nat.le_of_lt_succ enough)
      · exact ⟨result, runLoop_leaves fuel leaves, post⟩

theorem runLoop_returns (measure : σ → Nat)
    (decreases : ∀ state next, body state = .inl next →
      measure next < measure state)
    {fuel : Nat} {state : σ} (enough : measure state < fuel) :
    ∃ result, runLoop body fuel state = some result := by
  apply runLoop_returns_of (fun _ => True) measure _ trivial enough
  intro state next _ pass
  exact ⟨trivial, decreases state next pass⟩

theorem runLoop_never (Holds : σ → Prop)
    (goesOn : ∀ state, Holds state →
      ∃ next, body state = .inl next ∧ Holds next)
    {state : σ} (holds : Holds state) (fuel : Nat) :
    runLoop body fuel state = none := by
  induction fuel generalizing state with
  | zero => rfl
  | succ fuel induction =>
      obtain ⟨next, pass, holdsNext⟩ := goesOn state holds
      rw [runLoop_goesOn fuel pass]
      exact induction holdsNext

end FueledLoop
