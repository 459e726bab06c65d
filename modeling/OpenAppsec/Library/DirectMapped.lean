import Mathlib.Data.Set.Function
import OpenAppsec.Library.Trace

/-!
# Direct-mapped tables

A direct-mapped table keeps one entry for each hash value and never compares
the key of an entry with the key it is asked for.  With the identity for its
hash it is a map.  On a set of keys it cannot be told from that map exactly
when the hash is injective on them.
-/

namespace DirectMapped

variable {κ β ν ω : Type*}

inductive Call (κ ν : Type*) where
  | put (key : κ) (value : ν)
  | take (key : κ)

def Call.key : Call κ ν → κ
  | .put key _ => key
  | .take key => key

/-- The slots of a table, each with the key that its entry was stored under. -/
abbrev Slots (β κ ν : Type*) := β → Option (κ × ν)

def empty : Slots β κ ν := fun _ => none

/-- The entry that a call returns: the stored one for `put`, and for `take`
the one that it removes. -/
def step [DecidableEq β] (hash : κ → β)
    (answer : Call κ ν → Option (κ × ν) → ω) (slots : Slots β κ ν) :
    Call κ ν → ω × Slots β κ ν
  | .put key value =>
      (answer (.put key value) (some (key, value)),
        Function.update slots (hash key) (some (key, value)))
  | .take key =>
      (answer (.take key) (slots (hash key)),
        Function.update slots (hash key) none)

/-- A run over the keys of a set answers as the map does. -/
def Separates [DecidableEq β] [DecidableEq κ] (hash : κ → β)
    (answer : Call κ ν → Option (κ × ν) → ω) (keys : Set κ) : Prop :=
  ∀ calls : List (Call κ ν), (∀ call ∈ calls, call.key ∈ keys) →
    (Trace.run (step hash answer) empty calls).1 =
      (Trace.run (step id answer) empty calls).1

section Agreement

variable [DecidableEq β] [DecidableEq κ] {hash : κ → β}
variable {answer : Call κ ν → Option (κ × ν) → ω} {keys : Set κ}

/-- Updating the slot of one key acts on the keys of an injective set as
updating the map does. -/
theorem update_agree (injective : Set.InjOn hash keys) {slots : Slots β κ ν}
    {map : Slots κ κ ν} (agree : ∀ key ∈ keys, slots (hash key) = map key)
    {key : κ} (member : key ∈ keys) (entry : Option (κ × ν)) :
    ∀ other ∈ keys, Function.update slots (hash key) entry (hash other) =
      Function.update map key entry other := by
  intro other memberOther
  by_cases same : other = key
  · subst same
    rw [Function.update_self, Function.update_self]
  · have apart : hash other ≠ hash key :=
      fun collide => same (injective memberOther member collide)
    rw [Function.update_of_ne apart, Function.update_of_ne same]
    exact agree other memberOther

theorem separates_of_injOn (injective : Set.InjOn hash keys) :
    Separates hash answer keys := by
  intro calls member
  have always : Trace.Along (step hash answer) (fun _ _ => True) empty
      calls :=
    Trace.along_of_forall _ (fun _ _ => trivial) _ _
  have guarded := always.and_of_mem member
  refine (Trace.run_lockstep _
    (fun slots map => ∀ key ∈ keys, slots (hash key) = map key)
    ?_ (fun _ _ => rfl) guarded).1
  intro slots map call agree guard
  cases call with
  | put key value =>
      exact ⟨rfl, update_agree injective agree guard.1 _⟩
  | take key =>
      have same := agree key guard.1
      exact ⟨congrArg (answer (.take key)) same,
        update_agree injective agree guard.1 _⟩

/-- Two keys of one slot are told apart by storing under one and taking with
the other. -/
theorem injOn_of_separates [Nonempty ν]
    (distinguishes : ∀ key other value, key ≠ other →
      answer (.take key) (some (other, value)) ≠ answer (.take key) none)
    (separates : Separates hash answer keys) : Set.InjOn hash keys := by
  intro key member other memberOther collide
  by_contra different
  obtain ⟨value⟩ := ‹Nonempty ν›
  have outputs := separates [.put key value, .take other] (by
    intro call inCalls
    simp only [List.mem_cons, List.not_mem_nil, or_false] at inCalls
    rcases inCalls with rfl | rfl
    · exact member
    · exact memberOther)
  simp only [Trace.run_cons, Trace.run_nil, step, collide, id,
    Function.update_self, Function.update_of_ne (Ne.symm different),
    List.cons.injEq] at outputs
  exact distinguishes other key value (Ne.symm different) outputs.2.1

end Agreement

end DirectMapped
