import Mathlib.Data.List.Perm.Basic
import Mathlib.Tactic.Common

/-!
# Ledgers of allocated blocks

A program allocates blocks and releases pointers.  A release is in order when
its pointer is the start of a block that is live; what it names otherwise is
kept as a fault.  A ledger is balanced over the blocks that the program can
still name when there is no fault and no other block is live.
-/

namespace BlockLedger

/-- An address, as the block that it lies in and the place there. -/
inductive Pointer where
  | start (block : Nat)
  | inside (block offset : Nat)
  deriving DecidableEq

/-- New blocks are numbered from `fresh` on. -/
structure Ledger where
  fresh : Nat
  live : List Nat
  faults : List Pointer

namespace Ledger

/-- The new block is `ledger.fresh`. -/
def alloc (ledger : Ledger) : Ledger :=
  { ledger with
    fresh := ledger.fresh + 1
    live := ledger.fresh :: ledger.live }

def release (ledger : Ledger) : Pointer → Ledger
  | .start block =>
      if block ∈ ledger.live then
        { ledger with live := ledger.live.erase block }
      else
        { ledger with faults := .start block :: ledger.faults }
  | .inside block offset =>
      { ledger with faults := .inside block offset :: ledger.faults }

/-- Releases one after the other. -/
def releaseAll (ledger : Ledger) (pointers : List Pointer) : Ledger :=
  pointers.foldl release ledger

/-- The live blocks are these, each once, and every release was in order. -/
structure Balanced (ledger : Ledger) (owned : List Nat) : Prop where
  live_perm : ledger.live.Perm owned
  nodup : owned.Nodup
  old : ∀ block ∈ owned, block < ledger.fresh
  noFault : ledger.faults = []

namespace Balanced

variable {ledger : Ledger} {owned : List Nat}

theorem perm {others : List Nat} (balanced : Balanced ledger owned)
    (same : owned.Perm others) : Balanced ledger others where
  live_perm := balanced.live_perm.trans same
  nodup := same.nodup balanced.nodup
  old := fun block member => balanced.old block (same.mem_iff.mpr member)
  noFault := balanced.noFault

theorem live_eq_nil (balanced : Balanced ledger []) : ledger.live = [] :=
  balanced.live_perm.eq_nil

theorem alloc (balanced : Balanced ledger owned) :
    Balanced ledger.alloc (ledger.fresh :: owned) where
  live_perm := balanced.live_perm.cons ledger.fresh
  nodup := by
    apply List.nodup_cons.mpr
    refine ⟨?_, balanced.nodup⟩
    intro member
    exact Nat.lt_irrefl _ (balanced.old _ member)
  old := by
    intro block member
    rcases List.mem_cons.mp member with rfl | member
    · exact Nat.lt_succ_self _
    · exact Nat.lt_succ_of_lt (balanced.old block member)
  noFault := balanced.noFault

theorem release {block : Nat} (balanced : Balanced ledger (block :: owned)) :
    Balanced (ledger.release (.start block)) owned := by
  have live : block ∈ ledger.live :=
    balanced.live_perm.mem_iff.mpr List.mem_cons_self
  have erased := balanced.live_perm.erase block
  rw [List.erase_cons_head] at erased
  rw [Ledger.release, if_pos live]
  exact
    { live_perm := erased
      nodup := balanced.nodup.of_cons
      old := fun other member =>
        balanced.old other (List.mem_cons_of_mem _ member)
      noFault := balanced.noFault }

/-- Releasing blocks that are named once each leaves the others. -/
theorem releaseAll {blocks : List Nat}
    (balanced : Balanced ledger (blocks ++ owned)) :
    Balanced (ledger.releaseAll (blocks.map .start)) owned := by
  induction blocks generalizing ledger with
  | nil => exact balanced
  | cons block blocks induction => exact induction balanced.release

end Balanced

theorem faults_release_ne_nil {ledger : Ledger} {pointer : Pointer}
    (fault : ledger.faults ≠ []) : (ledger.release pointer).faults ≠ [] := by
  cases pointer with
  | start block =>
      rw [release]
      split
      · exact fault
      · exact List.cons_ne_nil _ _
  | inside block offset => exact List.cons_ne_nil _ _

theorem faults_releaseAll_ne_nil {ledger : Ledger} {pointers : List Pointer}
    (fault : ledger.faults ≠ []) :
    (ledger.releaseAll pointers).faults ≠ [] := by
  induction pointers generalizing ledger with
  | nil => exact fault
  | cons pointer pointers induction =>
      exact induction (faults_release_ne_nil fault)

theorem faults_releaseAll_inside {ledger : Ledger} {block offset : Nat}
    {pointers : List Pointer} :
    (ledger.releaseAll (.inside block offset :: pointers)).faults ≠ [] := by
  have fault : (ledger.release (.inside block offset)).faults ≠ [] :=
    List.cons_ne_nil _ _
  have kept : ((ledger.release (.inside block offset)).releaseAll
      pointers).faults ≠ [] :=
    faults_releaseAll_ne_nil fault
  exact kept

end Ledger

end BlockLedger
