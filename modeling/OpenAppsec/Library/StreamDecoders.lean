import Mathlib.Algebra.Ring.Nat
import Mathlib.Tactic.Common

/-!
# Decoders of streams

A decoder turns a stream into its content, call by call: each call consumes
some of its input and writes some of the content into a limited space.  A
driver calls the decoder for one chunk of the stream after the other; what the
calls of the driver write is the content, however the stream is cut.
-/

namespace StreamDecoders

variable {σ κ α β ρ ε : Type*}

/-- What one call of a decoder has done. -/
structure Step (σ β ρ : Type*) where
  consumed : Nat
  output : List β
  result : ρ
  next : σ

/-- A call gets along the stream: `at'` relates a decoder to the rest of the
stream and to what is left of the content. -/
structure Proceeds (at' : σ → List α → List β → Prop) (input after : List α)
    (left : List β) (space : Nat) (step : Step σ β ρ) (later : List β) :
    Prop where
  consumed : step.consumed ≤ input.length
  fits : step.output.length ≤ space
  written : left = step.output ++ later
  next : at' step.next (input.drop step.consumed ++ after) later

/-- The results of the calls for the chunks of a stream; `none` if one does not
return. -/
def runCalls (call : κ → List α → Option (Except ε (List β × Bool) × κ)) :
    κ → List (List α) → Option (List (Except ε (List β × Bool)))
  | _, [] => some []
  | driver, chunk :: chunks =>
      (call driver chunk).bind fun (result, driver) =>
        (runCalls call driver chunks).map (result :: ·)

/-- Parts of the content, the last one marked. -/
def flagged : List (List β) → List (Except ε (List β × Bool))
  | [] => []
  | part :: parts => .ok (part, parts.isEmpty) :: flagged parts

/-- No call fails, the calls write the content, and the last one, and only
that, says that it is the last. -/
def Delivers (call : κ → List α → Option (Except ε (List β × Bool) × κ))
    (driver : κ) (chunks : List (List α)) (content : List β) : Prop :=
  ∃ parts : List (List β), runCalls call driver chunks = some (flagged parts) ∧
    parts.flatten = content

variable {call : κ → List α → Option (Except ε (List β × Bool) × κ)}

theorem flagged_ne_error (error : ε) (rest : List (Except ε (List β × Bool)))
    (parts : List (List β)) : flagged parts ≠ .error error :: rest := by
  cases parts <;> simp [flagged]

theorem length_flagged (parts : List (List β)) :
    (flagged parts : List (Except ε (List β × Bool))).length =
      parts.length := by
  induction parts with
  | nil => rfl
  | cons part parts induction =>
      rw [flagged, List.length_cons, List.length_cons, induction]

theorem runCalls_cons {driver next : κ} {chunk : List α}
    {result : Except ε (List β × Bool)}
    (returned : call driver chunk = some (result, next))
    (chunks : List (List α)) :
    runCalls call driver (chunk :: chunks) =
      (runCalls call next chunks).map (result :: ·) := by
  rw [runCalls, returned]
  rfl

theorem length_runCalls {driver : κ} {chunks : List (List α)}
    {results : List (Except ε (List β × Bool))}
    (ran : runCalls call driver chunks = some results) :
    results.length = chunks.length := by
  induction chunks generalizing driver results with
  | nil =>
      cases ran
      rfl
  | cons chunk chunks induction =>
      obtain ⟨⟨result, next⟩, -, rest⟩ := Option.bind_eq_some_iff.mp ran
      obtain ⟨later, ranLater, rfl⟩ := Option.map_eq_some_iff.mp rest
      rw [List.length_cons, List.length_cons, induction ranLater]

theorem delivers_congr {driver other : κ} {chunk : List α}
    (same : call driver chunk = call other chunk) (chunks : List (List α))
    (content : List β) :
    Delivers call driver (chunk :: chunks) content ↔
      Delivers call other (chunk :: chunks) content := by
  rw [Delivers, Delivers, runCalls, runCalls, same]

theorem not_delivers_of_error {driver next : κ} {chunk : List α} {error : ε}
    (failed : call driver chunk = some (.error error, next))
    (chunks : List (List α)) (content : List β) :
    ¬Delivers call driver (chunk :: chunks) content := by
  rintro ⟨parts, ran, -⟩
  rw [runCalls_cons failed] at ran
  obtain ⟨rest, -, same⟩ := Option.map_eq_some_iff.mp ran
  exact flagged_ne_error error rest parts same.symm

theorem delivers_cons_iff {driver next : κ} {chunk : List α}
    {part : List β} {chunks : List (List α)} {later : List β}
    (returned : call driver chunk = some (.ok (part, chunks.isEmpty), next)) :
    Delivers call driver (chunk :: chunks) (part ++ later) ↔
      Delivers call next chunks later := by
  constructor
  · rintro ⟨parts, ran, content⟩
    rw [runCalls_cons returned] at ran
    obtain ⟨rest, ranRest, same⟩ := Option.map_eq_some_iff.mp ran
    cases parts with
    | nil => cases same
    | cons first parts =>
        obtain ⟨head, tail⟩ := List.cons.inj same
        have samePart := (Prod.mk.inj (Except.ok.inj head)).1
        subst samePart
        rw [tail] at ranRest
        exact ⟨parts, ranRest, List.append_cancel_left content⟩
  · rintro ⟨parts, ran, content⟩
    have lengths := (length_flagged parts).symm.trans (length_runCalls ran)
    have sameEmpty : parts.isEmpty = chunks.isEmpty := by
      rw [Bool.eq_iff_iff, List.isEmpty_iff_length_eq_zero,
        List.isEmpty_iff_length_eq_zero, lengths]
    refine ⟨part :: parts, ?_, ?_⟩
    · rw [runCalls_cons returned, ran, Option.map_some, flagged, sameEmpty]
    · rw [List.flatten_cons, content]

/-- The calls write the content until one fails: for the chunk of that call,
the rest of the stream behind it and what is left of the content there is a
`reason` for the error. -/
inductive Breaks (call : κ → List α → Option (Except ε (List β × Bool) × κ))
    (reason : List α → List α → List β → ε → Prop) :
    κ → List (List α) → List β → Prop where
  | here {driver next : κ} {chunk : List α} {chunks : List (List α)}
      {left : List β} {error : ε} :
      call driver chunk = some (.error error, next) →
      reason chunk chunks.flatten left error →
      Breaks call reason driver (chunk :: chunks) left
  | later {driver next : κ} {chunk : List α} {chunks : List (List α)}
      {part left : List β} :
      call driver chunk = some (.ok (part, false), next) →
      Breaks call reason next chunks left →
      Breaks call reason driver (chunk :: chunks) (part ++ left)

variable {reason : List α → List α → List β → ε → Prop}

theorem Breaks.exists_reason {driver : κ} {chunks : List (List α)}
    {content : List β} (breaks : Breaks call reason driver chunks content) :
    ∃ chunk after left error, left <:+ content ∧
      reason chunk after left error := by
  induction breaks with
  | here _ because => exact ⟨_, _, _, _, List.suffix_rfl, because⟩
  | later _ _ induction =>
      obtain ⟨chunk, after, left, error, suffix, because⟩ := induction
      exact ⟨chunk, after, left, error,
        suffix.trans (List.suffix_append _ _), because⟩

/-- Drivers that do the same for the first chunk break the same. -/
theorem Breaks.congr {driver other : κ} {chunk : List α}
    (same : call driver chunk = call other chunk) {chunks : List (List α)}
    {content : List β}
    (breaks : Breaks call reason driver (chunk :: chunks) content) :
    Breaks call reason other (chunk :: chunks) content := by
  cases breaks with
  | here failed because => exact .here (same ▸ failed) because
  | later returned breaks => exact .later (same ▸ returned) breaks

theorem Breaks.isEmpty_eq_false {driver : κ} {chunks : List (List α)}
    {content : List β} (breaks : Breaks call reason driver chunks content) :
    chunks.isEmpty = false := by
  cases breaks <;> rfl

theorem Breaks.not_delivers {driver : κ} {chunks : List (List α)}
    {content : List β} (breaks : Breaks call reason driver chunks content) :
    ¬Delivers call driver chunks content := by
  induction breaks with
  | here failed _ => exact not_delivers_of_error failed _ _
  | later returned breaks induction =>
      rw [← breaks.isEmpty_eq_false] at returned
      rw [delivers_cons_iff returned]
      exact induction

theorem isEmpty_flatten {chunks : List (List α)}
    (nonempty : ∀ chunk ∈ chunks, chunk ≠ []) :
    chunks.flatten.isEmpty = chunks.isEmpty := by
  cases chunks with
  | nil => rfl
  | cons head tail =>
      have headNonempty := nonempty head List.mem_cons_self
      cases head with
      | nil => exact absurd rfl headNonempty
      | cons => rfl

section Driver

variable (ready : κ → List α → List β → Prop) {driver : κ}
  {chunks : List (List α)} {content : List β}

/-- A driver is `ready` for the rest of a stream and what is left of the
content.  If each call gets along its chunk or fails for the reason, then the
calls deliver the content or break. -/
theorem delivers_or_breaks
    (passes : ∀ driver chunk after left, chunk ≠ [] →
      ready driver (chunk ++ after) left →
        (∃ part later next,
          call driver chunk = some (.ok (part, after.isEmpty), next) ∧
            left = part ++ later ∧ ready next after later) ∨
          ∃ error next, call driver chunk = some (.error error, next) ∧
            reason chunk after left error)
    (done : ∀ driver left, ready driver [] left → left = [])
    (nonempty : ∀ chunk ∈ chunks, chunk ≠ [])
    (isReady : ready driver chunks.flatten content) :
    Delivers call driver chunks content ∨
      Breaks call reason driver chunks content := by
  induction chunks generalizing driver content with
  | nil =>
      cases done driver content isReady
      exact .inl ⟨[], rfl, rfl⟩
  | cons chunk chunks induction =>
      obtain ⟨chunkNonempty, restNonempty⟩ := List.forall_mem_cons.mp nonempty
      obtain ⟨part, later, next, returned, rfl, isReadyNext⟩ |
          ⟨error, next, failed, because⟩ :=
        passes driver chunk chunks.flatten content chunkNonempty isReady
      · rw [isEmpty_flatten restNonempty] at returned
        obtain delivers | breaks := induction restNonempty isReadyNext
        · exact .inl ((delivers_cons_iff returned).mpr delivers)
        · rw [breaks.isEmpty_eq_false] at returned
          exact .inr (.later returned breaks)
      · exact .inr (.here failed because)

/-- If each call that gets along its chunk writes at most what it has room for,
then calls that deliver the content have room for it. -/
theorem length_le_of_delivers {room : List α → Nat}
    (passes : ∀ driver chunk after left, chunk ≠ [] →
      ready driver (chunk ++ after) left →
        (∃ part later next,
          call driver chunk = some (.ok (part, after.isEmpty), next) ∧
            left = part ++ later ∧ ready next after later ∧
              part.length ≤ room chunk) ∨
          ∃ error next, call driver chunk = some (.error error, next))
    (done : ∀ driver left, ready driver [] left → left = [])
    (nonempty : ∀ chunk ∈ chunks, chunk ≠ [])
    (isReady : ready driver chunks.flatten content)
    (delivers : Delivers call driver chunks content) :
    content.length ≤ (chunks.map room).sum := by
  induction chunks generalizing driver content with
  | nil =>
      cases done driver content isReady
      exact Nat.le_refl 0
  | cons chunk chunks induction =>
      obtain ⟨chunkNonempty, restNonempty⟩ := List.forall_mem_cons.mp nonempty
      obtain ⟨part, later, next, returned, rfl, isReadyNext, fits⟩ |
          ⟨error, next, failed⟩ :=
        passes driver chunk chunks.flatten content chunkNonempty isReady
      · rw [isEmpty_flatten restNonempty] at returned
        rw [delivers_cons_iff returned] at delivers
        have restFits := induction restNonempty isReadyNext delivers
        rw [List.length_append, List.map_cons, List.sum_cons]
        exact Nat.add_le_add fits restFits
      · exact absurd delivers (not_delivers_of_error failed chunks content)

theorem delivers_of_passes
    (passes : ∀ driver chunk after left, chunk ≠ [] →
      ready driver (chunk ++ after) left →
        ∃ part later next,
          call driver chunk = some (.ok (part, after.isEmpty), next) ∧
            left = part ++ later ∧ ready next after later)
    (done : ∀ driver left, ready driver [] left → left = [])
    (nonempty : ∀ chunk ∈ chunks, chunk ≠ [])
    (isReady : ready driver chunks.flatten content) :
    Delivers call driver chunks content := by
  have never : Delivers call driver chunks content ∨
      Breaks call (fun _ _ _ _ => False) driver chunks content :=
    delivers_or_breaks ready
      (fun driver chunk after left chunkNonempty isReady =>
        .inl (passes driver chunk after left chunkNonempty isReady))
      done nonempty isReady
  obtain delivers | breaks := never
  · exact delivers
  · obtain ⟨chunk, after, left, error, -, impossible⟩ := breaks.exists_reason
    exact impossible.elim

end Driver

end StreamDecoders
