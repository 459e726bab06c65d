import Mathlib.Data.List.Basic
import Mathlib.Data.List.Nodup
import Mathlib.Logic.Function.Basic

/-!
# Intrusive linked lists

Nodes carry the pointer to the node behind them.  A path is the list of nodes
that a walk from a start pointer meets.  Loops that walk a list are bounded by
a number of rounds, and a path says which number suffices.
-/

namespace IntrusiveList

variable {P : Type*} {next : P → Option P}

inductive Path (next : P → Option P) : Option P → List P → Prop
  | nil : Path next none []
  | cons {node : P} {rest : List P} :
      Path next (next node) rest → Path next (some node) (node :: rest)

namespace Path

variable {start : Option P} {nodes : List P}

variable (path : Path next start nodes)

include path

theorem unique {others : List P} (other : Path next start others) :
    nodes = others := by
  induction path generalizing others with
  | nil =>
      cases other
      rfl
  | cons _ induction =>
      cases other with
      | cons otherRest => rw [induction otherRest]

theorem congr {next' : P → Option P}
    (same : ∀ node ∈ nodes, next' node = next node) :
    Path next' start nodes := by
  induction path with
  | nil => exact .nil
  | cons rest induction =>
      obtain ⟨here, later⟩ := List.forall_mem_cons.mp same
      exact .cons (here ▸ induction later)

/-- A walk passes from each of its nodes to the rest of its path. -/
theorem split {node : P} (member : node ∈ nodes) :
    ∃ before after, nodes = before ++ node :: after ∧
      Path next (next node) after := by
  induction path with
  | nil => cases member
  | cons rest induction =>
      rcases List.mem_cons.mp member with same | later
      · cases same
        exact ⟨[], _, rfl, rest⟩
      · obtain ⟨before, after, split, tail⟩ := induction later
        exact ⟨_ :: before, after, by rw [split, List.cons_append], tail⟩

theorem nodup : nodes.Nodup := by
  induction path with
  | nil => exact List.nodup_nil
  | cons rest induction =>
      refine List.nodup_cons.mpr ⟨?_, induction⟩
      intro again
      obtain ⟨before, after, split, tail⟩ := rest.split again
      have same := rest.unique tail
      rw [same] at split
      have length := congrArg List.length split
      simp only [List.length_append, List.length_cons] at length
      omega

variable [DecidableEq P]

theorem push {node : P} (absent : node ∉ nodes) :
    Path (Function.update next node start) (some node) (node :: nodes) := by
  apply Path.cons
  rw [Function.update_self]
  apply path.congr
  intro other member
  have other : other ≠ node := ne_of_mem_of_not_mem member absent
  exact Function.update_of_ne other _ _

omit path

/-- Linking to a new node, and from it to what was behind, puts it into the
path. -/
theorem insert {front back : List P} {node new : P}
    (path : Path next start (front ++ node :: back))
    (absent : new ∉ front ++ node :: back) :
    Path (Function.update (Function.update next new (next node)) node
      (some new)) start (front ++ node :: new :: back) := by
  have distinct := path.nodup
  induction front generalizing start with
  | nil =>
      obtain ⟨once, -⟩ := List.nodup_cons.mp distinct
      have other := List.ne_of_not_mem_cons absent
      have apart := List.not_mem_of_not_mem_cons absent
      cases path with
      | cons rest =>
          apply Path.cons
          rw [Function.update_self]
          apply Path.cons
          rw [Function.update_of_ne other, Function.update_self]
          apply rest.congr
          intro later member
          rw [Function.update_of_ne (ne_of_mem_of_not_mem member once),
            Function.update_of_ne (ne_of_mem_of_not_mem member apart)]
  | cons head front induction =>
      obtain ⟨once, distinct⟩ := List.nodup_cons.mp distinct
      have other := List.ne_of_not_mem_cons absent
      have apart := List.not_mem_of_not_mem_cons absent
      have before : head ≠ node := by
        rintro rfl
        exact once (List.mem_append_right _ List.mem_cons_self)
      cases path with
      | cons rest =>
          apply Path.cons
          rw [Function.update_of_ne before, Function.update_of_ne other.symm]
          exact induction rest apart distinct

include path in
theorem unlink {previous node : P} (linked : next previous = some node) :
    Path (Function.update next previous (next node)) start
      (if previous ∈ nodes then nodes.erase node else nodes) := by
  induction path with
  | nil => exact .nil
  | @cons head rest tail induction =>
      have distinct := (Path.cons tail).nodup
      obtain ⟨fresh, -⟩ := List.nodup_cons.mp distinct
      by_cases here : head = previous
      · cases here
        rw [if_pos List.mem_cons_self]
        rw [linked] at tail
        cases tail with
        | cons tail =>
            have other := List.ne_of_not_mem_cons fresh
            have apart := List.not_mem_of_not_mem_cons fresh
            rw [List.erase_cons_tail (by simpa using other),
              List.erase_cons_head]
            apply Path.cons
            rw [Function.update_self]
            apply tail.congr
            intro later member
            exact Function.update_of_ne (ne_of_mem_of_not_mem member apart) _ _
      · have goesOn : Path (Function.update next previous (next node))
            (some head)
            (head :: if previous ∈ rest then rest.erase node else rest) := by
          apply Path.cons
          rwa [Function.update_of_ne here]
        by_cases later : previous ∈ rest
        · obtain ⟨before, after, split, behind⟩ := tail.split later
          have inside : node ∈ rest := by
            rw [linked] at behind
            cases behind
            rw [split]
            exact List.mem_append_right _
              (List.mem_cons_of_mem _ List.mem_cons_self)
          have other : head ≠ node := fun same => fresh (same ▸ inside)
          rw [if_pos later] at goesOn
          rw [if_pos (List.mem_cons_of_mem _ later),
            List.erase_cons_tail (by simpa using other)]
          exact goesOn
        · have never : previous ∉ head :: rest :=
            List.not_mem_cons_of_ne_of_not_mem (Ne.symm here) later
          rw [if_neg later] at goesOn
          rw [if_neg never]
          exact goesOn

end Path

/-- Search for the first node that meets a test; `none` when the rounds do not
suffice. -/
def find (next : P → Option P) (test : P → Bool) :
    Nat → Option P → Option (Option P)
  | _, none => some none
  | 0, some _ => none
  | rounds + 1, some current =>
      if test current then some (some current)
      else find next test rounds (next current)

theorem Path.find_eq {start : Option P} {nodes : List P}
    (path : Path next start nodes) (test : P → Bool) {rounds : Nat}
    (enough : nodes.length ≤ rounds) :
    find next test rounds start = some (nodes.find? test) := by
  induction path generalizing rounds with
  | nil => cases rounds <;> rfl
  | @cons node rest tail induction =>
      cases rounds with
      | zero => exact absurd enough (Nat.not_succ_le_zero _)
      | succ rounds =>
          rw [find, List.find?_cons]
          cases test node with
          | true => rfl
          | false => exact induction (Nat.le_of_succ_le_succ enough)

/-- Where a node stands in a list. -/
inductive Place (P : Type*) where
  | absent
  | first
  | behind (previous : P)

section Locate

variable [DecidableEq P]

/-- Walk to a node, remembering the node before the current one; `none` when
the rounds do not suffice. -/
def locate (next : P → Option P) (node : P) :
    Nat → Option P → Option P → Option (Place P)
  | _, _, none => some .absent
  | 0, _, some _ => none
  | rounds + 1, previous, some current =>
      if current = node then
        some (match previous with
          | none => .first
          | some previous => .behind previous)
      else locate next node rounds (some current) (next current)

/-- What a place says of a path. -/
def Place.Fits (next : P → Option P) (start : Option P) (nodes : List P)
    (node : P) : Place P → Prop
  | .absent => node ∉ nodes
  | .first => start = some node
  | .behind previous => previous ∈ nodes ∧ next previous = some node

theorem Path.locate_behind {current : Option P} {nodes : List P}
    (path : Path next current nodes) (node : P) {previous : P}
    (linked : next previous = current) {rounds : Nat}
    (enough : nodes.length ≤ rounds) :
    (node ∉ nodes ∧
        locate next node rounds (some previous) current = some .absent) ∨
      ∃ before ∈ previous :: nodes, next before = some node ∧
        node ∈ nodes ∧
        locate next node rounds (some previous) current =
          some (.behind before) := by
  induction path generalizing rounds previous with
  | nil => exact .inl ⟨List.not_mem_nil, by cases rounds <;> rfl⟩
  | @cons head rest tail induction =>
      cases rounds with
      | zero => exact absurd enough (Nat.not_succ_le_zero _)
      | succ rounds =>
          rw [locate]
          by_cases found : head = node
          · rw [if_pos found]
            exact .inr ⟨previous, List.mem_cons_self, found ▸ linked,
              found ▸ List.mem_cons_self, rfl⟩
          · rw [if_neg found]
            rcases induction rfl (Nat.le_of_succ_le_succ enough) with
              ⟨absent, located⟩ | ⟨before, inside, behind, member, located⟩
            · refine .inl ⟨?_, located⟩
              exact List.not_mem_cons_of_ne_of_not_mem (Ne.symm found) absent
            · exact .inr ⟨before, List.mem_cons_of_mem _ inside, behind,
                List.mem_cons_of_mem _ member, located⟩

theorem Path.locate_fits {start : Option P} {nodes : List P}
    (path : Path next start nodes) (node : P) {rounds : Nat}
    (enough : nodes.length ≤ rounds) :
    ∃ place, locate next node rounds none start = some place ∧
      place.Fits next start nodes node := by
  cases path with
  | nil => exact ⟨.absent, by cases rounds <;> rfl, List.not_mem_nil⟩
  | @cons head rest tail =>
      cases rounds with
      | zero => exact absurd enough (Nat.not_succ_le_zero _)
      | succ rounds =>
          rw [locate]
          by_cases found : head = node
          · exact ⟨.first, if_pos found, found ▸ rfl⟩
          · rw [if_neg found]
            rcases tail.locate_behind node rfl
              (Nat.le_of_succ_le_succ enough) with
              ⟨absent, located⟩ | ⟨before, inside, behind, -, located⟩
            · refine ⟨.absent, located, ?_⟩
              exact List.not_mem_cons_of_ne_of_not_mem (Ne.symm found) absent
            · exact ⟨.behind before, located, inside, behind⟩

end Locate

end IntrusiveList
