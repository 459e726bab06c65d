import Mathlib.Logic.Function.Basic
import OpenAppsec.Library.BlockLedger

/-!
# Holders of blocks

A program keeps the blocks that it has acquired in holders, each of which
names at most one.  As long as it puts new blocks only into empty holders and
releases only what a holder names, which then is empty, the live blocks are
those that the holders name, each by one holder.
-/

namespace BlockLedger

variable {κ : Type*}

/-- The blocks, and which of them each holder names. -/
structure Holdings (κ : Type*) where
  ledger : Ledger
  held : κ → Option Nat

namespace Holdings

def start (κ : Type*) : Holdings κ where
  ledger := { fresh := 0, live := [], faults := [] }
  held := fun _ => none

/-- Every live block has its holder, and no two holders share one. -/
structure Sound (holdings : Holdings κ) : Prop where
  live_iff : ∀ block,
    block ∈ holdings.ledger.live ↔ ∃ holder, holdings.held holder = some block
  apart : ∀ first second block, holdings.held first = some block →
    holdings.held second = some block → first = second
  nodup : holdings.ledger.live.Nodup
  old : ∀ block ∈ holdings.ledger.live, block < holdings.ledger.fresh

theorem sound_start : Sound (start κ) where
  live_iff := by simp [start]
  apart := nofun
  nodup := List.nodup_nil
  old := nofun

/-- What a holder names is live, so its release is in order. -/
theorem Sound.release_eq {holdings : Holdings κ} (sound : Sound holdings)
    {holder : κ} {block : Nat} (names : holdings.held holder = some block) :
    holdings.ledger.release (.start block) =
      { holdings.ledger with live := holdings.ledger.live.erase block } := by
  rw [Ledger.release, if_pos ((sound.live_iff block).mpr ⟨holder, names⟩)]

/-- A block that no holder names, from its acquisition to its release. -/
def transient (holdings : Holdings κ) : Holdings κ :=
  { holdings with
    ledger := holdings.ledger.alloc.release (.start holdings.ledger.fresh) }

/-- Such a block is released once more. -/
def transientTwice (holdings : Holdings κ) : Holdings κ :=
  { holdings with
    ledger := holdings.transient.ledger.release
      (.start holdings.ledger.fresh) }

theorem transient_ledger (holdings : Holdings κ) :
    holdings.transient.ledger =
      { holdings.ledger with fresh := holdings.ledger.fresh + 1 } := by
  simp [transient, Ledger.alloc, Ledger.release]

theorem Sound.transient {holdings : Holdings κ} (sound : Sound holdings) :
    Sound holdings.transient := by
  have ledger := holdings.transient_ledger
  exact
    { live_iff := by
        rw [ledger]
        exact sound.live_iff
      apart := sound.apart
      nodup := by
        rw [ledger]
        exact sound.nodup
      old := by
        rw [ledger]
        exact fun block member => Nat.lt_succ_of_lt (sound.old block member) }

/-- The second release finds the block no longer live. -/
theorem Sound.transientTwice_ledger {holdings : Holdings κ}
    (sound : Sound holdings) :
    holdings.transientTwice.ledger =
      { holdings.transient.ledger with
        faults := .start holdings.ledger.fresh :: holdings.ledger.faults } := by
  have gone : holdings.ledger.fresh ∉ holdings.ledger.live :=
    fun member => Nat.lt_irrefl _ (sound.old _ member)
  simp [transientTwice, transient_ledger, Ledger.release, gone]

theorem Sound.transientTwice {holdings : Holdings κ}
    (sound : Sound holdings) : Sound holdings.transientTwice := by
  have ledger := sound.transientTwice_ledger
  have once := sound.transient
  exact
    { live_iff := by
        rw [ledger]
        exact once.live_iff
      apart := sound.apart
      nodup := by
        rw [ledger]
        exact once.nodup
      old := by
        rw [ledger]
        exact once.old }

variable [DecidableEq κ]

/-- A new block, for a holder. -/
def acquire (holder : κ) (holdings : Holdings κ) : Holdings κ where
  ledger := holdings.ledger.alloc
  held := Function.update holdings.held holder (some holdings.ledger.fresh)

/-- The block of a holder is released, if there is one. -/
def surrender (holder : κ) (holdings : Holdings κ) : Holdings κ :=
  match holdings.held holder with
  | none => holdings
  | some block =>
      { ledger := holdings.ledger.release (.start block)
        held := Function.update holdings.held holder none }

@[simp] theorem held_acquire_self (holder : κ) (holdings : Holdings κ) :
    (holdings.acquire holder).held holder = some holdings.ledger.fresh :=
  Function.update_self ..

theorem held_acquire_of_ne {holder other : κ} (differ : other ≠ holder)
    (holdings : Holdings κ) :
    (holdings.acquire holder).held other = holdings.held other :=
  Function.update_of_ne differ ..

@[simp] theorem held_surrender_self (holder : κ) (holdings : Holdings κ) :
    (holdings.surrender holder).held holder = none := by
  rw [surrender]
  cases found : holdings.held holder with
  | none => exact found
  | some block => exact Function.update_self ..

theorem held_surrender_of_ne {holder other : κ} (differ : other ≠ holder)
    (holdings : Holdings κ) :
    (holdings.surrender holder).held other = holdings.held other := by
  rw [surrender]
  cases holdings.held holder with
  | none => rfl
  | some block => exact Function.update_of_ne differ ..

namespace Sound

variable {holdings : Holdings κ}

/-- A new block goes into an empty holder. -/
theorem acquire (sound : Sound holdings) {holder : κ}
    (empty : holdings.held holder = none) :
    Sound (holdings.acquire holder) where
  live_iff := by
    intro block
    simp only [Holdings.acquire, Ledger.alloc, List.mem_cons, sound.live_iff]
    constructor
    · rintro (rfl | ⟨other, names⟩)
      · exact ⟨holder, Function.update_self ..⟩
      · refine ⟨other, ?_⟩
        have differ : other ≠ holder := by
          rintro rfl
          rw [empty] at names
          cases names
        rw [Function.update_of_ne differ, names]
    · rintro ⟨other, names⟩
      by_cases same : other = holder
      · subst same
        rw [Function.update_self] at names
        exact .inl (Option.some.inj names).symm
      · rw [Function.update_of_ne same] at names
        exact .inr ⟨other, names⟩
  apart := by
    intro first second block namesFirst namesSecond
    have known (other : κ) (names : holdings.held other = some block) :
        block < holdings.ledger.fresh :=
      sound.old block ((sound.live_iff block).mpr ⟨other, names⟩)
    simp only [Holdings.acquire, Function.update_apply] at namesFirst namesSecond
    split at namesFirst
    · rename_i isFirst
      split at namesSecond
      · rename_i isSecond
        exact isFirst.trans isSecond.symm
      · have older := known second namesSecond
        rw [← Option.some.inj namesFirst] at older
        exact absurd older (Nat.lt_irrefl _)
    · split at namesSecond
      · have older := known first namesFirst
        rw [← Option.some.inj namesSecond] at older
        exact absurd older (Nat.lt_irrefl _)
      · exact sound.apart first second block namesFirst namesSecond
  nodup := by
    refine List.nodup_cons.mpr ⟨?_, sound.nodup⟩
    intro member
    exact Nat.lt_irrefl _ (sound.old _ member)
  old := by
    intro block member
    rcases List.mem_cons.mp member with rfl | member
    · exact Nat.lt_succ_self _
    · exact Nat.lt_succ_of_lt (sound.old block member)

theorem surrender (sound : Sound holdings) (holder : κ) :
    Sound (holdings.surrender holder) := by
  rw [Holdings.surrender]
  cases names : holdings.held holder with
  | none => exact sound
  | some block =>
      dsimp only
      rw [sound.release_eq names]
      exact
        { live_iff := by
            intro other
            dsimp only
            rw [sound.nodup.mem_erase_iff, sound.live_iff]
            constructor
            · rintro ⟨differ, owner, namesOther⟩
              refine ⟨owner, ?_⟩
              rw [Function.update_of_ne, namesOther]
              rintro rfl
              rw [names] at namesOther
              exact differ (Option.some.inj namesOther).symm
            · rintro ⟨owner, namesOther⟩
              have apart : owner ≠ holder := by
                rintro rfl
                rw [Function.update_self] at namesOther
                cases namesOther
              rw [Function.update_of_ne apart] at namesOther
              refine ⟨?_, owner, namesOther⟩
              rintro rfl
              exact apart (sound.apart owner holder other namesOther names)
          apart := by
            intro first second other namesFirst namesSecond
            have differ (owner : κ)
                (namesOwner : Function.update holdings.held holder none owner =
                  some other) :
                holdings.held owner = some other := by
              rw [Function.update_apply] at namesOwner
              split at namesOwner
              · cases namesOwner
              · exact namesOwner
            exact sound.apart first second other (differ first namesFirst)
              (differ second namesSecond)
          nodup := sound.nodup.erase block
          old := fun other member =>
            sound.old other (List.mem_of_mem_erase member) }

theorem faults_surrender (sound : Sound holdings) (holder : κ) :
    (holdings.surrender holder).ledger.faults = holdings.ledger.faults := by
  rw [Holdings.surrender]
  cases names : holdings.held holder with
  | none => rfl
  | some block =>
      dsimp only
      rw [sound.release_eq names]

end Sound

end Holdings

end BlockLedger
