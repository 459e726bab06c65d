import OpenAppsec.Attachment.ListIterator
import OpenAppsec.Attachment.Senders
import OpenAppsec.Library.FueledLoop

/-!
# Releasing an nginx list

One loop goes through the elements and the parts of a list, and passes the
elements and each part to the pool when it enters the part.  The pointer to the
next part is read once, before the loop, so that the loop stays in the second
part if there is a third one.
-/

namespace OpenAppsec.ListRelease

open FueledLoop ListIterator

variable {α : Type*}

variable {rounds : Nat} {result : Nginx.NgxResult}

/-- What is passed to `ngx_pfree`: the list, a part, or the elements of a
part. -/
inductive Address where
  | list
  | part (part : Nat)
  | elts (part : Nat)
  deriving DecidableEq

inductive Action where
  | read (part : Nat)
  | free (address : Address)
  deriving DecidableEq

/-- The pointer to the next part, unless this is `NULL`. -/
def next (list : NgxList α) (part : Nat) : Option Nat :=
  if part + 1 < list.parts.length then some (part + 1) else none

/-- The variables of `free_list_from_pool`, and what was done to memory. -/
structure FreeLoop where
  wasFreeSuccessful : Bool
  currListPartElemIdx : Nat
  freedCurrent : Bool
  data : Address
  part : Nat
  nextPart : Option Nat
  numPartElements : Nat
  actions : List Action

namespace FreeLoop

def start (list : NgxList α) : FreeLoop :=
  { wasFreeSuccessful := true
    currListPartElemIdx := 0
    freedCurrent := false
    data := .elts 0
    part := 0
    nextPart := next list 0
    numPartElements := list.nelts 0
    actions := [.read 0] }

/-- The pointer to the next part is compared with `NULL`. -/
def check (loop : FreeLoop) : FreeLoop :=
  { loop with actions := loop.actions ++ [.read loop.part] }

/-- A freed part is read with what was in it. -/
def enter (list : NgxList α) (part : Nat) (loop : FreeLoop) : FreeLoop :=
  { loop with
    part := part
    data := .elts part
    numPartElements := list.nelts part
    currListPartElemIdx := 0
    freedCurrent := false
    actions := loop.actions ++ [.read part] }

section Rounds

variable (ngxPfree : List Action → Address → Bool)

def free (address : Address) (loop : FreeLoop) : FreeLoop :=
  { loop with
    wasFreeSuccessful :=
      loop.wasFreeSuccessful && ngxPfree loop.actions address
    actions := loop.actions ++ [.free address] }

/-- The end of a round. -/
def goOn (loop : FreeLoop) : FreeLoop :=
  let loop :=
    if loop.freedCurrent then loop
    else
      { (loop.free ngxPfree loop.data).free ngxPfree (.part loop.part) with
        freedCurrent := true }
  { loop with currListPartElemIdx := loop.currListPartElemIdx + 1 }

/-- A round of the loop; without a result if `NULL` is dereferenced. -/
def round (list : NgxList α) (loop : FreeLoop) :
    FreeLoop ⊕ Option FreeLoop :=
  if loop.numPartElements ≤ loop.currListPartElemIdx then
    if next list loop.part = none then .inr (some loop.check)
    else
      match loop.nextPart with
      | none => .inr none
      | some part => .inl ((loop.check.enter list part).goOn ngxPfree)
  else .inl (loop.goOn ngxPfree)

end Rounds

end FreeLoop

/-- `free_list_from_pool`, if it returns within as many rounds. -/
def freeListFromPool (ngxPfree : List Action → Address → Bool)
    (list : Option (NgxList α)) (rounds : Nat) :
    Option (Nginx.NgxResult × List Action) :=
  match list with
  | none => some (.ok, [])
  | some list =>
      (runLoop (FreeLoop.round ngxPfree list) rounds (.start list)).join.map
        fun loop =>
          let loop := loop.free ngxPfree .list
          (if loop.wasFreeSuccessful then .ok else .error, loop.actions)

/-- The allocation that a part is in: the first one is in the list itself. -/
def allocation : Nat → Address
  | 0 => .list
  | part + 1 => .part (part + 1)

theorem allocation_of_pos {part : Nat} (later : 0 < part) :
    allocation part = .part part := by
  cases part with
  | zero => exact absurd later (Nat.lt_irrefl 0)
  | succ part => rfl

/-- Every allocation is freed once, and no part is read when its allocation was
freed before. -/
structure Released (list : NgxList α) (actions : List Action) : Prop where
  elements : ∀ part < list.parts.length,
    actions.count (.free (.elts part)) = 1
  parts : ∀ part < list.parts.length,
    actions.count (.free (allocation part)) = 1
  reads : ∀ before part after, actions = before ++ .read part :: after →
    .free (allocation part) ∉ before

/-- What holds between the rounds. -/
structure FreeLoop.Stands (list : NgxList α) (loop : FreeLoop) : Prop where
  inside : loop.part < list.parts.length
  early : loop.part ≤ 1
  nextPart : loop.nextPart = next list 0
  counted : loop.numPartElements = list.nelts loop.part
  freed : 0 < loop.part →
    loop.freedCurrent = true ∧ .free (.part loop.part) ∈ loop.actions

variable {ngxPfree : List Action → Address → Bool} {list : NgxList α}
  {loop following : FreeLoop}

theorem next_eq_none_iff {part : Nat} :
    next list part = none ↔ list.parts.length ≤ part + 1 := by
  simp [next]

namespace FreeLoop

theorem stands_start : (start list).Stands list where
  inside := List.length_pos_of_ne_nil list.nonempty
  early := Nat.zero_le 1
  nextPart := rfl
  counted := rfl
  freed := fun later => absurd later (Nat.lt_irrefl 0)

theorem goOn_of_freed (freed : loop.freedCurrent = true) :
    loop.goOn ngxPfree =
      { loop with currListPartElemIdx := loop.currListPartElemIdx + 1 } := by
  simp [goOn, freed]

section GoOn

@[simp]
theorem goOn_part : (loop.goOn ngxPfree).part = loop.part := by
  simp only [goOn]
  split <;> rfl

@[simp]
theorem goOn_nextPart : (loop.goOn ngxPfree).nextPart = loop.nextPart := by
  simp only [goOn]
  split <;> rfl

@[simp]
theorem goOn_numPartElements :
    (loop.goOn ngxPfree).numPartElements = loop.numPartElements := by
  simp only [goOn]
  split <;> rfl

@[simp]
theorem goOn_currListPartElemIdx :
    (loop.goOn ngxPfree).currListPartElemIdx =
      loop.currListPartElemIdx + 1 := by
  simp only [goOn]
  split <;> rfl

end GoOn

variable (stands : loop.Stands list)

include stands in
/-- What a round does from where the loop stands. -/
theorem Stands.round :
    (loop.currListPartElemIdx < loop.numPartElements ∧
        loop.round ngxPfree list = .inl (loop.goOn ngxPfree)) ∨
      (loop.numPartElements ≤ loop.currListPartElemIdx ∧
        list.parts.length ≤ loop.part + 1 ∧
        loop.round ngxPfree list = .inr (some loop.check)) ∨
      (loop.numPartElements ≤ loop.currListPartElemIdx ∧
        loop.part + 1 < list.parts.length ∧
        loop.round ngxPfree list =
          .inl ((loop.check.enter list 1).goOn ngxPfree)) := by
  rw [FreeLoop.round]
  by_cases spent : loop.numPartElements ≤ loop.currListPartElemIdx
  · rw [if_pos spent]
    by_cases last : list.parts.length ≤ loop.part + 1
    · right
      left
      exact ⟨spent, last, if_pos (next_eq_none_iff.mpr last)⟩
    · right
      right
      have more : next list 0 = some 1 := by
        apply if_pos
        omega
      rw [if_neg (mt next_eq_none_iff.mp last), stands.nextPart, more]
      exact ⟨spent, Nat.lt_of_not_le last, rfl⟩
  · rw [if_neg spent]
    left
    exact ⟨Nat.lt_of_not_le spent, rfl⟩

theorem goOn_enter (loop : FreeLoop) (list : NgxList α) (part : Nat) :
    ∃ successful, (loop.enter list part).goOn ngxPfree =
      { loop with
        wasFreeSuccessful := successful
        part := part
        data := .elts part
        numPartElements := list.nelts part
        currListPartElemIdx := 1
        freedCurrent := true
        actions := loop.actions ++
          [.read part, .free (.elts part), .free (.part part)] } := by
  simp [goOn, enter, free]

include stands

theorem Stands.goOn :
    (loop.goOn ngxPfree).Stands list where
  inside := by simpa using stands.inside
  early := by simpa using stands.early
  nextPart := by simpa using stands.nextPart
  counted := by simpa using stands.counted
  freed := by
    rw [FreeLoop.goOn]
    split
    · exact stands.freed
    · intro later
      exact ⟨rfl, by simp [free]⟩

theorem Stands.enter (more : 1 < list.parts.length) :
    ((loop.enter list 1).goOn ngxPfree).Stands list := by
  obtain ⟨successful, entered⟩ := loop.goOn_enter list 1
  rw [entered]
  exact
    { inside := more
      early := Nat.le_refl 1
      nextPart := stands.nextPart
      counted := rfl
      freed := fun _ => ⟨rfl, by simp⟩ }

theorem Stands.check :
    loop.check.Stands list where
  inside := stands.inside
  early := stands.early
  nextPart := stands.nextPart
  counted := stands.counted
  freed := fun later =>
    ⟨(stands.freed later).1, List.mem_append_left _ (stands.freed later).2⟩

theorem Stands.goesOn (pass : loop.round ngxPfree list = .inl following) :
    following.Stands list := by
  rcases stands.round with ⟨-, within⟩ | ⟨-, -, last⟩ | ⟨-, more, entered⟩
  · cases within.symm.trans pass
    exact stands.goOn
  · cases last.symm.trans pass
  · cases entered.symm.trans pass
    apply stands.check.enter
    omega

omit stands

theorem runLoop_round_eq_none (many : 2 < list.parts.length) (rounds : Nat) :
    runLoop (round ngxPfree list) rounds (start list) = none := by
  apply runLoop_never (Stands list) _ stands_start
  intro loop stands
  have early := stands.early
  rcases stands.round with ⟨-, within⟩ | ⟨-, last, -⟩ | ⟨-, more, entered⟩
  · exact ⟨_, within, stands.goOn⟩
  · omega
  · exact ⟨_, entered, stands.check.enter (by omega)⟩

/-- The rounds that are left, for a list of at most two parts. -/
def roundsLeft (list : NgxList α) (loop : FreeLoop) : Nat :=
  (if loop.part = 0 then list.nelts 1 + 1 else 0) +
    (loop.numPartElements - loop.currListPartElemIdx)

include stands in
theorem Stands.roundsLeft_lt (few : list.parts.length ≤ 2)
    (pass : loop.round ngxPfree list = .inl following) :
    following.roundsLeft list < loop.roundsLeft list := by
  rcases stands.round with
    ⟨before, within⟩ | ⟨-, -, last⟩ | ⟨-, more, entered⟩
  · cases within.symm.trans pass
    simp only [roundsLeft, goOn_part, goOn_numPartElements,
      goOn_currListPartElemIdx]
    omega
  · cases last.symm.trans pass
  · cases entered.symm.trans pass
    have first : loop.part = 0 := by omega
    obtain ⟨successful, same⟩ := loop.check.goOn_enter list 1
    rw [same]
    simp only [roundsLeft, first]
    simp
    omega

include stands in
/-- The round that leaves the loop. -/
theorem Stands.leaves {result : Option FreeLoop}
    (pass : loop.round ngxPfree list = .inr result) :
    result = some loop.check ∧
      loop.numPartElements ≤ loop.currListPartElemIdx ∧
      list.parts.length ≤ loop.part + 1 := by
  rcases stands.round with
    ⟨-, within⟩ | ⟨spent, last, left⟩ | ⟨-, -, entered⟩
  · cases within.symm.trans pass
  · cases left.symm.trans pass
    exact ⟨rfl, spent, last⟩
  · cases entered.symm.trans pass

theorem leaves_of_runLoop (Holds : FreeLoop → Prop)
    (starts : Holds (start list))
    (keeps : ∀ loop following, loop.Stands list → Holds loop →
      loop.round ngxPfree list = .inl following → Holds following)
    {result : Option FreeLoop}
    (returned : runLoop (round ngxPfree list) rounds (start list) =
      some result) :
    ∃ loop : FreeLoop, result = some loop.check ∧ loop.Stands list ∧
      Holds loop ∧ loop.numPartElements ≤ loop.currListPartElemIdx ∧
      list.parts.length ≤ loop.part + 1 := by
  apply runLoop_invariant (fun loop => loop.Stands list ∧ Holds loop) _ _ _
    ⟨stands_start, starts⟩ returned
  · rintro loop following ⟨stands, holds⟩ pass
    exact ⟨stands.goesOn pass, keeps loop following stands holds pass⟩
  · rintro loop result ⟨stands, holds⟩ pass
    obtain ⟨left, spent, last⟩ := stands.leaves pass
    exact ⟨loop, left, stands, holds, spent, last⟩

end FreeLoop

open FreeLoop

theorem exists_returned_iff (list : NgxList α) :
    (∃ rounds, (freeListFromPool ngxPfree (some list) rounds).isSome) ↔
      list.parts.length ≤ 2 := by
  constructor
  · rintro ⟨rounds, returned⟩
    by_contra many
    have stuck := @runLoop_round_eq_none _ ngxPfree list
      (Nat.lt_of_not_le many) rounds
    simp [freeListFromPool, stuck] at returned
  · intro few
    obtain ⟨result, returned⟩ := @runLoop_returns_of _ _
      (FreeLoop.round ngxPfree list) (Stands list) (roundsLeft list)
      (fun _ _ stands pass =>
        ⟨stands.goesOn pass, stands.roundsLeft_lt few pass⟩)
      _ (start list) stands_start (Nat.lt_succ_self _)
    obtain ⟨loop, rfl, -⟩ := leaves_of_runLoop (fun _ => True) trivial
      (fun _ _ _ _ _ => trivial) returned
    refine ⟨(roundsLeft list (start list)).succ, ?_⟩
    simp [freeListFromPool, returned]

variable {actions : List Action}

theorem loop_of_returned (Holds : FreeLoop → Prop)
    (starts : Holds (.start list))
    (keeps : ∀ loop following, loop.Stands list → Holds loop →
      loop.round ngxPfree list = .inl following → Holds following)
    (returned : freeListFromPool ngxPfree (some list) rounds =
      some (result, actions)) :
    ∃ loop : FreeLoop, loop.Stands list ∧ Holds loop ∧
      loop.numPartElements ≤ loop.currListPartElemIdx ∧
      list.parts.length ≤ loop.part + 1 ∧
      (loop.wasFreeSuccessful = false → result = .error) ∧
      actions = loop.actions ++ [.read loop.part, .free .list] := by
  simp only [freeListFromPool, Option.map_eq_some_iff, Option.join_eq_some_iff,
    Prod.mk.injEq] at returned
  obtain ⟨checked, left, rfl, rfl⟩ := returned
  obtain ⟨loop, same, stands, holds, spent, last⟩ :=
    leaves_of_runLoop Holds starts keeps left
  cases same
  refine ⟨loop, stands, holds, spent, last, ?_, by simp [free, check]⟩
  intro failed
  simp [free, check, failed]

theorem not_released_of_many (many : 1 < list.parts.length)
    (returned : freeListFromPool ngxPfree (some list) rounds =
      some (result, actions)) : ¬Released list actions := by
  intro released
  obtain ⟨loop, stands, -, -, last, -, rfl⟩ := loop_of_returned (fun _ => True)
    trivial (fun _ _ _ _ _ => trivial) returned
  have later : 0 < loop.part := by omega
  apply released.reads loop.actions loop.part [.free .list] rfl
  rw [allocation_of_pos later]
  exact (stands.freed later).2

theorem not_released_of_empty (one : list.parts.length = 1)
    (empty : list.nelts 0 = 0)
    (returned : freeListFromPool ngxPfree (some list) rounds =
      some (result, actions)) : ¬Released list actions := by
  intro released
  have leaves : (start list).round ngxPfree list =
      .inr (some (start list).check) := by
    simp [FreeLoop.round, start, empty, next, one]
  obtain ⟨loop, -, same, -, -, -, rfl⟩ := loop_of_returned
    (fun loop => loop = start list) rfl
    (by
      rintro _ following - rfl pass
      cases leaves.symm.trans pass) returned
  have freed := released.elements 0 (by omega)
  rw [same] at freed
  simp [start] at freed

/-- What is done to a list of one part that has elements. -/
theorem actions_of_one (one : list.parts.length = 1)
    (nonempty : 0 < list.nelts 0)
    (returned : freeListFromPool ngxPfree (some list) rounds =
      some (result, actions)) :
    actions = [.read 0, .free (.elts 0), .free (.part 0), .read 0,
      .free .list] := by
  obtain ⟨loop, stands, first | ⟨freed, done⟩, spent, -, -, rfl⟩ :=
    loop_of_returned
      (fun loop => loop = start list ∨ loop.freedCurrent = true ∧
        loop.actions = [.read 0, .free (.elts 0), .free (.part 0)])
      (.inl rfl)
      (by
        intro loop following stands holds pass
        right
        rcases stands.round with ⟨-, within⟩ | ⟨-, -, last⟩ | ⟨-, more, -⟩
        · cases within.symm.trans pass
          rcases holds with rfl | ⟨freed, done⟩
          · simp [goOn, start, free]
          · simp [goOn_of_freed freed, freed, done]
        · cases last.symm.trans pass
        · omega) returned
  · rw [first] at spent
    exact absurd spent (Nat.not_le_of_lt nonempty)
  · have first : loop.part = 0 := by
      have inside := stands.inside
      omega
    simp [done, first]

theorem released_of_one (one : list.parts.length = 1) :
    Released list [.read 0, .free (.elts 0), .free (.part 0), .read 0,
      .free .list] where
  elements := by
    intro part inside
    obtain rfl : part = 0 := by omega
    decide
  parts := by
    intro part inside
    obtain rfl : part = 0 := by omega
    decide
  reads := by
    intro before part after split freed
    -- The list is freed at the very end, and no part but the first is read.
    have whole : [.read 0, .free (.elts 0), .free (.part 0), .read 0] ++
        [.free .list] = before ++ .read part :: after := split
    rcases List.eq_nil_or_concat' after with rfl | ⟨after, last, rfl⟩
    · have read := (List.append_inj' whole rfl).2
      simp at read
    · rw [← List.cons_append, ← List.append_assoc] at whole
      have front := (List.append_inj' whole rfl).1
      have read : .read part ∈ before ++ .read part :: after := by simp
      have earlier := List.mem_append_left (.read part :: after) freed
      rw [← front] at read earlier
      have first : part = 0 := by simpa using read
      simp [first, allocation] at earlier

/-- A list is released in order just when it has one part, and this has
elements. -/
theorem list_released_iff (ngxPfree : List Action → Address → Bool)
    (list : NgxList α) :
    (∃ rounds result actions,
        freeListFromPool ngxPfree (some list) rounds =
          some (result, actions) ∧
        Released list actions) ↔
      list.parts.length = 1 ∧ 0 < list.nelts 0 := by
  have positive := List.length_pos_of_ne_nil list.nonempty
  constructor
  · rintro ⟨rounds, result, actions, returned, released⟩
    have one : list.parts.length = 1 := by
      by_contra several
      exact not_released_of_many (by omega) returned released
    refine ⟨one, Nat.pos_of_ne_zero ?_⟩
    intro empty
    exact not_released_of_empty one empty returned released
  · rintro ⟨one, nonempty⟩
    obtain ⟨rounds, returned⟩ :=
      (@exists_returned_iff _ ngxPfree list).mpr (by omega)
    obtain ⟨⟨result, actions⟩, returned⟩ := Option.isSome_iff_exists.mp returned
    refine ⟨rounds, result, actions, returned, ?_⟩
    rw [actions_of_one one nonempty returned]
    exact released_of_one one

/-- A list of three parts is never released: the second part is freed again and
again. -/
theorem three_parts_not_released :
    ¬∀ (ngxPfree : List Action → Address → Bool) (list : NgxList Nat),
      ∃ rounds result actions,
        freeListFromPool ngxPfree (some list) rounds =
          some (result, actions) ∧
        Released list actions := by
  intro releases
  have nonempty : [[1], [2], [3]] ≠ [] := by simp
  obtain ⟨rounds, result, actions, returned, -⟩ :=
    releases (fun _ _ => true) ⟨[[1], [2], [3]], nonempty⟩
  have stuck := @runLoop_round_eq_none _ (fun _ _ => true)
    ⟨[[1], [2], [3]], nonempty⟩ (by simp) rounds
  simp [freeListFromPool, stuck] at returned

theorem FreeLoop.goOn_failed (failed : loop.wasFreeSuccessful = false) :
    (loop.goOn ngxPfree).wasFreeSuccessful = false := by
  simp only [goOn]
  split
  · exact failed
  · simp [free, failed]

/-- The first part is no allocation.  As the pool declines it, an error is
reported for every list whose first part has elements. -/
theorem freeListFromPool_error
    (declines : ∀ actions, ngxPfree actions (.part 0) = false)
    (nonempty : 0 < list.nelts 0)
    (returned : freeListFromPool ngxPfree (some list) rounds =
      some (result, actions)) : result = .error := by
  obtain ⟨loop, -, first | failed, spent, -, error, -⟩ := loop_of_returned
    (fun loop => loop = start list ∨ loop.wasFreeSuccessful = false)
    (.inl rfl)
    (by
      intro loop following stands holds pass
      right
      rcases stands.round with ⟨-, within⟩ | ⟨-, -, last⟩ | ⟨spent, -, entered⟩
      · cases within.symm.trans pass
        rcases holds with rfl | failed
        · simp [goOn, start, free, declines]
        · exact goOn_failed failed
      · cases last.symm.trans pass
      · cases entered.symm.trans pass
        rcases holds with rfl | failed
        · exact absurd spent (Nat.not_le_of_lt nonempty)
        · exact goOn_failed failed) returned
  · rw [first] at spent
    exact absurd spent (Nat.not_le_of_lt nonempty)
  · exact error failed

end OpenAppsec.ListRelease
