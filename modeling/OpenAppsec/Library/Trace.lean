import Mathlib.Tactic.Common

/-!
# Runs of deterministic systems

A system is a step function from a state and an input to an output and the
next state.  This file packages the inductions over runs once: invariants,
lockstep simulations, removal of the inputs of other parties, and the
conservation law of a channel that stores the messages it accepts until it
delivers them.
-/

namespace Trace

variable {σ τ ι ω μ η : Type*}

variable {state final : σ} {inputs : List ι}
variable {guard first second property : σ → ι → Prop}

/-- Feed a list of inputs to a system, collecting the outputs. -/
def run (step : σ → ι → ω × σ) : σ → List ι → List ω × σ
  | state, [] => ([], state)
  | state, input :: inputs =>
      let first := step state input
      let rest := run step first.2 inputs
      (first.1 :: rest.1, rest.2)

/-- Every step of a run meets a guard in the state it starts from. -/
def Along (step : σ → ι → ω × σ) (guard : σ → ι → Prop) :
    σ → List ι → Prop
  | _, [] => True
  | state, input :: inputs =>
      guard state input ∧ Along step guard (step state input).2 inputs

instance Along.decidable (step : σ → ι → ω × σ) (guard : σ → ι → Prop)
    [∀ state input, Decidable (guard state input)] :
    ∀ state inputs, Decidable (Along step guard state inputs)
  | _, [] => inferInstanceAs (Decidable True)
  | state, input :: inputs =>
      have := Along.decidable step guard (step state input).2 inputs
      inferInstanceAs
        (Decidable (guard state input ∧
          Along step guard (step state input).2 inputs))

@[simp] theorem run_nil (step : σ → ι → ω × σ) (state : σ) :
    run step state [] = ([], state) :=
  rfl

@[simp] theorem run_cons (step : σ → ι → ω × σ) (state : σ) (input : ι)
    (inputs : List ι) :
    run step state (input :: inputs) =
      ((step state input).1 :: (run step (step state input).2 inputs).1,
        (run step (step state input).2 inputs).2) :=
  rfl

theorem along_of_forall (step : σ → ι → ω × σ)
    (always : ∀ state input, guard state input) (state : σ) (inputs : List ι) :
    Along step guard state inputs := by
  induction inputs generalizing state with
  | nil => trivial
  | cons input inputs induction => exact ⟨always state input, induction _⟩

theorem Along.and_of_mem {step : σ → ι → ω × σ} {always : ι → Prop}
    (guarded : Along step guard state inputs)
    (member : ∀ input ∈ inputs, always input) :
    Along step (fun state input => always input ∧ guard state input) state
      inputs := by
  induction inputs generalizing state with
  | nil => trivial
  | cons input inputs induction =>
      exact ⟨⟨member input List.mem_cons_self, guarded.1⟩,
        induction guarded.2 fun later inLater =>
          member later (List.mem_cons_of_mem _ inLater)⟩

theorem Along.mono {step : σ → ι → ω × σ}
    (implies : ∀ state input, first state input → second state input)
    (along : Along step first state inputs) :
    Along step second state inputs := by
  induction inputs generalizing state with
  | nil => trivial
  | cons input inputs induction =>
      exact ⟨implies state input along.1, induction along.2⟩

theorem along_congr {step : σ → ι → ω × σ}
    (agree : ∀ state input, first state input ↔ second state input) :
    Along step first state inputs ↔ Along step second state inputs :=
  ⟨Along.mono fun state input => (agree state input).mp,
    Along.mono fun state input => (agree state input).mpr⟩

theorem along_forall_iff {κ : Type*} {step : σ → ι → ω × σ}
    {guard : κ → σ → ι → Prop} :
    Along step (fun state input => ∀ index, guard index state input) state
        inputs ↔
      ∀ index, Along step (guard index) state inputs := by
  induction inputs generalizing state with
  | nil => exact iff_of_true trivial fun _ => trivial
  | cons input inputs induction =>
      constructor
      · intro along index
        exact ⟨along.1 index, induction.mp along.2 index⟩
      · intro along
        exact ⟨fun index => (along index).1,
          induction.mpr fun index => (along index).2⟩

theorem Along.and {step : σ → ι → ω × σ} (left : Along step first state inputs)
    (right : Along step second state inputs) :
    Along step (fun state input => first state input ∧ second state input)
      state inputs := by
  induction inputs generalizing state with
  | nil => trivial
  | cons input inputs induction =>
      exact ⟨⟨left.1, right.1⟩, induction left.2 right.2⟩

/-- If a guard keeps an invariant and gives a property of each step, then a
guarded run has the property at every step. -/
theorem along_of_invariant {step : σ → ι → ω × σ} (invariant : σ → Prop)
    (kept : ∀ state input, invariant state → guard state input →
      property state input ∧ invariant (step state input).2)
    (holds : invariant state) (guarded : Along step guard state inputs) :
    Along step property state inputs := by
  induction inputs generalizing state with
  | nil => trivial
  | cons input inputs induction =>
      obtain ⟨here, next⟩ := kept state input holds guarded.1
      exact ⟨here, induction next guarded.2⟩

theorem along_pinned_iff {step : σ → ι → ω × σ}
    (pinned : ∀ input, guard state input → (step state input).2 = state) :
    Along step guard state inputs ↔ ∀ input ∈ inputs, guard state input := by
  induction inputs with
  | nil => exact iff_of_true trivial nofun
  | cons input inputs induction =>
      rw [List.forall_mem_cons]
      apply and_congr_right
      intro here
      rw [pinned input here]
      exact induction

theorem run_invariant {step : σ → ι → ω × σ} (guard : σ → ι → Prop)
    (invariant : σ → Prop)
    (preserved : ∀ state input, invariant state → guard state input →
      invariant (step state input).2) (holds : invariant state)
    (guarded : Along step guard state inputs) :
    invariant (run step state inputs).2 := by
  induction inputs generalizing state with
  | nil => exact holds
  | cons input inputs induction =>
      exact induction (preserved state input holds guarded.1) guarded.2

theorem along_of_end {step : σ → ι → ω × σ} (property : σ → Prop)
    (back : ∀ state input, property (step state input).2 → property state)
    (ended : property (run step state inputs).2) :
    Along step (fun state input => property (step state input).2) state
      inputs := by
  have before (inputs : List ι) (state : σ)
      (ended : property (run step state inputs).2) : property state := by
    induction inputs generalizing state with
    | nil => exact ended
    | cons input inputs induction => exact back state input (induction _ ended)
  induction inputs generalizing state with
  | nil => trivial
  | cons input inputs induction =>
      exact ⟨before inputs _ ended, induction ended⟩

/-- Systems whose related states answer alike, and stay related, give equal
outputs over whole runs. -/
theorem run_lockstep {left : σ → ι → ω × σ} {right : τ → ι → ω × τ}
    (guard : σ → ι → Prop) (related : σ → τ → Prop)
    (preserved : ∀ state other input, related state other →
      guard state input →
      (left state input).1 = (right other input).1 ∧
        related (left state input).2 (right other input).2) {other : τ}
    (holds : related state other) (guarded : Along left guard state inputs) :
    (run left state inputs).1 = (run right other inputs).1 ∧
      related (run left state inputs).2 (run right other inputs).2 := by
  induction inputs generalizing state other with
  | nil => exact ⟨rfl, holds⟩
  | cons input inputs induction =>
      obtain ⟨sameOutput, nextRelated⟩ :=
        preserved state other input holds guarded.1
      obtain ⟨restOutputs, restRelated⟩ := induction nextRelated guarded.2
      exact ⟨by simp [sameOutput, restOutputs], restRelated⟩

/-- The outputs of the inputs that belong to one party. -/
def ownOutputs (own : ι → Bool) : List ι → List ω → List ω
  | input :: inputs, output :: outputs =>
      if own input then output :: ownOutputs own inputs outputs
      else ownOutputs own inputs outputs
  | _, _ => []

theorem run_projection {κ υ : Type*} {left : σ → ι → ω × σ}
    {right : τ → κ → υ × τ} (own : ι → Bool) (part : ι → κ) (view : ω → υ)
    (guard : σ → ι → Prop) (related : σ → τ → Prop)
    (ownStep : ∀ state other input, related state other →
      own input = true → guard state input →
      view (left state input).1 = (right other (part input)).1 ∧
        related (left state input).2 (right other (part input)).2)
    (foreignStep : ∀ state other input, related state other →
      own input = false → guard state input →
      related (left state input).2 other) {other : τ}
    (holds : related state other) (guarded : Along left guard state inputs) :
    (ownOutputs own inputs (run left state inputs).1).map view =
        (run right other ((inputs.filter own).map part)).1 ∧
      related (run left state inputs).2
        (run right other ((inputs.filter own).map part)).2 := by
  induction inputs generalizing state other with
  | nil => exact ⟨rfl, holds⟩
  | cons input inputs induction =>
      cases owned : own input with
      | true =>
          obtain ⟨sameOutput, nextRelated⟩ :=
            ownStep state other input holds owned guarded.1
          obtain ⟨restOutputs, restRelated⟩ := induction nextRelated guarded.2
          simp only [run_cons, ownOutputs, owned, if_true,
            List.filter_cons_of_pos, List.map_cons]
          exact ⟨by rw [sameOutput, restOutputs], restRelated⟩
      | false =>
          have nextRelated :=
            foreignStep state other input holds owned guarded.1
          obtain ⟨restOutputs, restRelated⟩ := induction nextRelated guarded.2
          have removed : (input :: inputs).filter own = inputs.filter own := by
            simp [owned]
          rw [removed]
          simp only [run_cons, ownOutputs, owned, Bool.false_eq_true, if_false]
          exact ⟨restOutputs, restRelated⟩

/-- If a party's own steps answer alike in related states and foreign steps
keep a state related to a partner that does not take them, then a run and the
run without the foreign inputs cannot be told apart by that party. -/
theorem run_purge {step : σ → ι → ω × σ} (own : ι → Bool) (guard : σ → ι → Prop)
    (related : σ → σ → Prop)
    (ownStep : ∀ state other input, related state other →
      own input = true → guard state input →
      (step state input).1 = (step other input).1 ∧
        related (step state input).2 (step other input).2)
    (foreignStep : ∀ state other input, related state other →
      own input = false → guard state input →
      related (step state input).2 other) {other : σ}
    (holds : related state other) (guarded : Along step guard state inputs) :
    ownOutputs own inputs (run step state inputs).1 =
        (run step other (inputs.filter own)).1 ∧
      related (run step state inputs).2
        (run step other (inputs.filter own)).2 := by
  simpa using run_projection own id id guard related ownStep foreignStep holds
    guarded

/-- What an observer records of a run, input by input. -/
def history (record : η → ι → ω → η) : η → List ι → List ω → η
  | past, input :: inputs, output :: outputs =>
      history record (record past input output) inputs outputs
  | past, _, _ => past

theorem run_history {step : σ → ι → ω × σ} (guard : σ → ι → Prop)
    (record : η → ι → ω → η) (invariant : σ → η → Prop)
    (preserved : ∀ state past input, invariant state past →
      guard state input →
      invariant (step state input).2
        (record past input (step state input).1)) {past : η}
    (holds : invariant state past) (guarded : Along step guard state inputs) :
    invariant (run step state inputs).2
      (history record past inputs (run step state inputs).1) := by
  induction inputs generalizing state past with
  | nil => exact holds
  | cons input inputs induction =>
      exact induction (preserved state past input holds guarded.1) guarded.2

/-- The messages a run contributes, input by input. -/
def collect (messages : ι → ω → List μ) : List ι → List ω → List μ
  | input :: inputs, output :: outputs =>
      messages input output ++ collect messages inputs outputs
  | _, _ => []

theorem run_conservation {step : σ → ι → ω × σ} (guard : σ → ι → Prop)
    (holdsMessages : σ → List μ → Prop) (accepted delivered : ι → ω → List μ)
    (preserved : ∀ state input contents, holdsMessages state contents →
      guard state input →
      ∃ left, holdsMessages (step state input).2 left ∧
        contents ++ accepted input (step state input).1 =
          delivered input (step state input).1 ++ left) {contents : List μ}
    (holds : holdsMessages state contents)
    (guarded : Along step guard state inputs) :
    ∃ left, holdsMessages (run step state inputs).2 left ∧
      contents ++ collect accepted inputs (run step state inputs).1 =
        collect delivered inputs (run step state inputs).1 ++ left := by
  induction inputs generalizing state contents with
  | nil => exact ⟨contents, holds, by simp [collect]⟩
  | cons input inputs induction =>
      obtain ⟨middle, middleHolds, firstLaw⟩ :=
        preserved state input contents holds guarded.1
      obtain ⟨left, leftHolds, restLaw⟩ := induction middleHolds guarded.2
      refine ⟨left, leftHolds, ?_⟩
      simp only [run_cons, collect]
      rw [← List.append_assoc, firstLaw, List.append_assoc, restLaw,
        List.append_assoc]

/-- The sum of what the inputs of a run and their outputs contribute. -/
def tally (amount : ι → ω → Nat) : List ι → List ω → Nat
  | input :: inputs, output :: outputs =>
      amount input output + tally amount inputs outputs
  | _, _ => 0

section Ledger

variable {step : σ → ι → ω × σ} {held : σ → Nat} {income outgo : ι → ω → Nat}
  {loss : σ → ι → Nat}

theorem run_bounded
    (balanced : ∀ state input,
      held state + income input (step state input).1 =
        outgo input (step state input).1 + held (step state input).2 +
          loss state input)
    (state : σ) (inputs : List ι) :
    tally outgo inputs (run step state inputs).1 +
        held (run step state inputs).2 ≤
      held state + tally income inputs (run step state inputs).1 := by
  induction inputs generalizing state with
  | nil => simp [tally]
  | cons input inputs induction =>
      have first := balanced state input
      have rest := induction (step state input).2
      simp only [run_cons, tally]
      omega

theorem run_balanced_iff
    (balanced : ∀ state input,
      held state + income input (step state input).1 =
        outgo input (step state input).1 + held (step state input).2 +
          loss state input)
    (state : σ) (inputs : List ι) :
    held state + tally income inputs (run step state inputs).1 =
        tally outgo inputs (run step state inputs).1 +
          held (run step state inputs).2 ↔
      Along step (fun state input => loss state input = 0) state inputs := by
  induction inputs generalizing state with
  | nil => simp [tally, Along]
  | cons input inputs induction =>
      have first := balanced state input
      have bound := run_bounded balanced (step state input).2 inputs
      have rest := induction (step state input).2
      simp only [run_cons, tally, Along, ← rest]
      omega

end Ledger

/-- The state after a list of inputs, if every step returns. -/
def runPartial (step : σ → ι → Option σ) : σ → List ι → Option σ
  | state, [] => some state
  | state, input :: inputs =>
      (step state input).bind fun next => runPartial step next inputs

/-- A property of every input of a run and the state that it meets. -/
def Every (step : σ → ι → Option σ) (property : σ → ι → Prop) :
    σ → List ι → Prop
  | _, [] => True
  | state, input :: inputs =>
      property state input ∧
        ∀ next, step state input = some next →
          Every step property next inputs

theorem every_cons_iff {step : σ → ι → Option σ} {next : σ} {input : ι}
    (returned : step state input = some next) (inputs : List ι) :
    Every step property state (input :: inputs) ↔
      property state input ∧ Every step property next inputs := by
  apply and_congr Iff.rfl
  constructor
  · intro all
    exact all next returned
  · intro rest other same
    cases returned.symm.trans same
    exact rest

instance Every.decidable (step : σ → ι → Option σ) (property : σ → ι → Prop)
    [∀ state input, Decidable (property state input)] :
    ∀ state inputs, Decidable (Every step property state inputs)
  | _, [] => inferInstanceAs (Decidable True)
  | state, input :: inputs =>
      match returned : step state input with
      | none =>
          decidable_of_iff (property state input)
            ⟨fun here => ⟨here, fun _ later =>
              nomatch returned.symm.trans later⟩, And.left⟩
      | some next =>
          have := Every.decidable step property next inputs
          decidable_of_iff
            (property state input ∧ Every step property next inputs)
            (every_cons_iff returned inputs).symm

theorem every_of_forall (step : σ → ι → Option σ)
    (always : ∀ state input, property state input) (state : σ)
    (inputs : List ι) : Every step property state inputs := by
  induction inputs generalizing state with
  | nil => trivial
  | cons input inputs induction =>
      exact ⟨always state input, fun next _ => induction next⟩

theorem runPartial_invariant {step : σ → ι → Option σ} (invariant : σ → Prop)
    (preserved : ∀ state input next, invariant state → guard state input →
      step state input = some next → invariant next) (holds : invariant state)
    (guarded : Every step guard state inputs)
    (ran : runPartial step state inputs = some final) : invariant final := by
  induction inputs generalizing state with
  | nil =>
      cases ran
      exact holds
  | cons input inputs induction =>
      obtain ⟨next, returned, rest⟩ := Option.bind_eq_some_iff.mp ran
      have nextHolds :=
        preserved state input next holds guarded.1 returned
      exact induction nextHolds (guarded.2 next returned) rest

/-- If a guard keeps an invariant and gives a property of each step, then a
guarded run has the property at every step. -/
theorem every_of_invariant {step : σ → ι → Option σ} (invariant : σ → Prop)
    (kept : ∀ state input, invariant state → guard state input →
      property state input ∧
        ∀ next, step state input = some next → invariant next)
    (holds : invariant state) (guarded : Every step guard state inputs) :
    Every step property state inputs := by
  induction inputs generalizing state with
  | nil => trivial
  | cons input inputs induction =>
      obtain ⟨here, keeps⟩ := kept state input holds guarded.1
      refine ⟨here, ?_⟩
      intro next returned
      exact induction (keeps next returned) (guarded.2 next returned)

theorem Every.and {step : σ → ι → Option σ}
    (left : Every step first state inputs)
    (right : Every step second state inputs) :
    Every step (fun state input => first state input ∧ second state input)
      state inputs := by
  induction inputs generalizing state with
  | nil => trivial
  | cons input inputs induction =>
      refine ⟨⟨left.1, right.1⟩, ?_⟩
      intro next returned
      exact induction (left.2 next returned) (right.2 next returned)

theorem every_congr {step : σ → ι → Option σ} (invariant : σ → Prop)
    (agree : ∀ state input next, invariant state →
      step state input = some next →
        invariant next ∧ (first state input ↔ second state input))
    (holds : invariant state)
    (ran : runPartial step state inputs = some final) :
    Every step first state inputs ↔ Every step second state inputs := by
  induction inputs generalizing state with
  | nil => exact Iff.rfl
  | cons input inputs induction =>
      obtain ⟨next, returned, rest⟩ := Option.bind_eq_some_iff.mp ran
      obtain ⟨nextHolds, here⟩ := agree state input next holds returned
      rw [every_cons_iff returned, every_cons_iff returned, here]
      exact and_congr Iff.rfl (induction nextHolds rest)

theorem runPartial_backwards {step : σ → ι → Option σ} (quiet : σ → Prop)
    (back : ∀ state input next, step state input = some next →
      quiet next → quiet state)
    (ran : runPartial step state inputs = some final) (ended : quiet final) :
    quiet state := by
  induction inputs generalizing state with
  | nil =>
      cases ran
      exact ended
  | cons input inputs induction =>
      obtain ⟨next, returned, rest⟩ := Option.bind_eq_some_iff.mp ran
      exact back state input next returned (induction rest)

/-- If a guard says exactly which steps keep an invariant, then the invariant
holds in every state of a run precisely when every step meets the guard. -/
theorem every_kept_iff {step : σ → ι → Option σ} (invariant quiet : σ → Prop)
    (back : ∀ state input next, step state input = some next →
      quiet next → quiet state)
    (kept : ∀ state input next, invariant state →
      step state input = some next → quiet next →
        (invariant next ↔ guard state input)) (holds : invariant state)
    (ran : runPartial step state inputs = some final) (ended : quiet final) :
    Every step
        (fun state input =>
          ∀ next, step state input = some next → invariant next)
        state inputs ↔
      Every step guard state inputs := by
  induction inputs generalizing state with
  | nil => exact Iff.rfl
  | cons input inputs induction =>
      obtain ⟨next, returned, rest⟩ := Option.bind_eq_some_iff.mp ran
      have still := runPartial_backwards quiet back rest ended
      have here := kept state input next holds returned still
      rw [every_cons_iff returned, every_cons_iff returned, ← here]
      constructor
      · rintro ⟨all, later⟩
        have nextHolds := all next returned
        exact ⟨nextHolds, (induction nextHolds rest).mp later⟩
      · rintro ⟨nextHolds, later⟩
        refine ⟨?_, (induction nextHolds rest).mpr later⟩
        intro other same
        cases returned.symm.trans same
        exact nextHolds

/-- If every guarded step keeps an invariant and reaches a good state, and
every other step reaches a state that is not good, then all states that a run
reaches are good precisely when all of its steps are guarded. -/
theorem every_good_iff {step : σ → ι → Option σ} {domain : σ → ι → Prop}
    {good : σ → Prop} (invariant : σ → Prop)
    (kept : ∀ state input next, invariant state → domain state input →
      step state input = some next → guard state input →
        invariant next ∧ good next)
    (broken : ∀ state input next, invariant state → domain state input →
      step state input = some next → ¬guard state input → ¬good next)
    (holds : invariant state) (inDomain : Every step domain state inputs)
    (ran : runPartial step state inputs = some final) :
    Every step
        (fun state input => ∀ next, step state input = some next → good next)
        state inputs ↔
      Every step guard state inputs := by
  induction inputs generalizing state with
  | nil => exact Iff.rfl
  | cons input inputs induction =>
      obtain ⟨next, returned, rest⟩ := Option.bind_eq_some_iff.mp ran
      obtain ⟨here, later⟩ := (every_cons_iff returned inputs).mp inDomain
      have keeps := kept state input next holds here returned
      rw [every_cons_iff returned, every_cons_iff returned]
      constructor
      · rintro ⟨reached, rest'⟩
        have guarded : guard state input := by
          by_contra violated
          exact broken state input next holds here returned violated
            (reached next returned)
        exact ⟨guarded,
          (induction (keeps guarded).1 later rest).mp rest'⟩
      · rintro ⟨guarded, rest'⟩
        refine ⟨?_, (induction (keeps guarded).1 later rest).mpr rest'⟩
        intro other same
        cases returned.symm.trans same
        exact (keeps guarded).2

end Trace
