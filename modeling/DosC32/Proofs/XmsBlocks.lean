import DosC32.Core.Ledger
import DosC32.Model.Xms

/-! # What one XMS call does to the handle table

The table and the backend's blocks together form the holdings of a manager. `HoldingsStep` lists all that a
call may do to them. The functions of `dos_xms_control` are shown, one by one, to take at most one such step;
a manager that ends poisoned still has a table that took one, but the backend may then have kept or lost
anything.
-/

namespace DosC32

open Effect Function XmsHandle Ledger

/-- What each position of the handle table holds. -/
def XmsManager.table (manager : XmsManager) : Fin 32 → Option XmsHandle := fun index =>
  if manager.handleIsAllocated index then some (manager.handles index) else none

/-- The sizes of a block in use. -/
def XmsHandle.Sized (handle : XmsHandle) : Prop := 0 < handle.sizeBytes ∧ handle.sizeBytes ≤ handle.capacityBytes

/-- A handle table and the blocks that the backend has live for it. -/
structure Holdings where
  table : Fin 32 → Option XmsHandle
  live : Set ℕ

/-- The table accounts for exactly the live blocks, and every size is in range. -/
structure Holdings.Owned (holdings : Holdings) : Prop where
  blocks : Owns (fun index => (holdings.table index).map block) holdings.live
  sized : ∀ index handle, holdings.table index = some handle → handle.Sized

/-- All that one call may do. -/
inductive HoldingsStep (old : Holdings) : Holdings → Prop
  | idle : HoldingsStep old old
  | allocate (index : Fin 32) (handle : XmsHandle) : old.table index = none → handle.block ∉ old.live →
      handle.Sized → handle.lockCount = 0 →
      HoldingsStep old ⟨update old.table index (some handle), insert handle.block old.live⟩
  | free (index : Fin 32) (handle : XmsHandle) : old.table index = some handle → handle.lockCount = 0 →
      HoldingsStep old ⟨update old.table index none, old.live \ {handle.block}⟩
  | relock (index : Fin 32) (handle : XmsHandle) (lockCount : UInt8) : old.table index = some handle →
      lockCount.toNat = handle.lockCount.toNat + 1 ∨ lockCount.toNat + 1 = handle.lockCount.toNat →
      HoldingsStep old ⟨update old.table index (some { handle with lockCount }), old.live⟩
  | resize (index : Fin 32) (handle : XmsHandle) (sizeBytes : ℕ) : old.table index = some handle →
      handle.lockCount = 0 → 0 < sizeBytes → sizeBytes ≤ handle.capacityBytes →
      HoldingsStep old ⟨update old.table index (some { handle with sizeBytes }), old.live⟩
  | replace (index : Fin 32) (handle handle' : XmsHandle) : old.table index = some handle → handle.lockCount = 0 →
      handle'.block ∉ old.live → handle'.Sized → handle'.lockCount = 0 →
      HoldingsStep old ⟨update old.table index (some handle'), insert handle'.block old.live \ {handle.block}⟩

section Steps

variable {old new : Holdings} {handle : XmsHandle} {index : Fin 32}

private theorem blocks_update (table : Fin 32 → Option XmsHandle) (index : Fin 32) (entry : Option XmsHandle) :
    (fun other => (update table index entry other).map block) =
      update (fun other => (table other).map block) index (entry.map block) :=
  funext fun other => Function.apply_update (fun _ => Option.map block) table index entry other

private theorem sized_update (owned : old.Owned) (sized : handle.Sized) (other : Fin 32) (found : XmsHandle)
    (holds : update old.table index (some handle) other = some found) : found.Sized := by
  rw [update_apply] at holds
  split at holds
  · cases holds
    exact sized
  · exact owned.sized other found holds

/-- Rewriting a handle without changing its block. -/
private theorem Holdings.Owned.rewrite (owned : old.Owned) {handle' : XmsHandle}
    (holds : old.table index = some handle) (same : handle'.block = handle.block) (sized : handle'.Sized) :
    Holdings.Owned ⟨update old.table index (some handle'), old.live⟩ := by
  refine ⟨?_, sized_update owned sized⟩
  have unchanged : update (fun other => (old.table other).map block) index (some handle.block) =
      fun other => (old.table other).map block :=
    update_eq_self_iff.mpr (by rw [holds, Option.map_some])
  show Owns (fun other => (update old.table index (some handle') other).map block) old.live
  rw [blocks_update, Option.map_some, same, unchanged]
  exact owned.blocks

theorem HoldingsStep.owned (step : HoldingsStep old new) (owned : old.Owned) : new.Owned := by
  cases step with
  | idle => exact owned
  | allocate index handle empty fresh sized _ =>
    refine ⟨?_, sized_update owned sized⟩
    show Owns (fun other => (update old.table index (some handle) other).map block) _
    rw [blocks_update]
    exact owned.blocks.take (by rw [empty, Option.map_none]) fresh
  | free index handle holds _ =>
    constructor
    · show Owns (fun other => (update old.table index none other).map block) _
      rw [blocks_update]
      exact owned.blocks.drop (by rw [holds, Option.map_some])
    · intro other found atOther
      change update old.table index none other = some found at atOther
      rw [update_apply] at atOther
      split at atOther
      · cases atOther
      · exact owned.sized other found atOther
  | relock index handle lockCount holds _ => exact owned.rewrite holds rfl (owned.sized index handle holds)
  | resize index handle sizeBytes holds _ positive bounded => exact owned.rewrite holds rfl ⟨positive, bounded⟩
  | replace index handle handle' holds _ fresh sized _ =>
    refine ⟨?_, sized_update owned sized⟩
    show Owns (fun other => (update old.table index (some handle') other).map block) _
    rw [blocks_update]
    exact owned.blocks.exchange (by rw [holds, Option.map_some]) fresh

/-- A locked handle stays where it is, with its block and its address. -/
theorem HoldingsStep.locked (step : HoldingsStep old new) (holds : old.table index = some handle)
    (locked : 0 < handle.lockCount) : ∃ handle', new.table index = some handle' ∧ handle'.block = handle.block ∧
      handle'.physicalAddress = handle.physicalAddress := by
  have elsewhere : ∀ {other : Fin 32} {entry : Option XmsHandle}, index ≠ other →
      ∃ handle', update old.table other entry index = some handle' ∧ handle'.block = handle.block ∧
        handle'.physicalAddress = handle.physicalAddress := by
    intro other entry different
    exact ⟨handle, by rw [update_of_ne different, holds], rfl, rfl⟩
  have unlocked : ∀ {other : Fin 32} {found : XmsHandle}, old.table other = some found → found.lockCount = 0 →
      index ≠ other := by
    rintro other found atOther unlocked rfl
    cases holds.symm.trans atOther
    rw [unlocked] at locked
    exact absurd locked (by decide)
  cases step with
  | idle => exact ⟨handle, holds, rfl, rfl⟩
  | allocate other _ empty _ _ _ =>
    apply elsewhere
    rintro rfl
    rw [holds] at empty
    cases empty
  | free other found atOther zero | resize other found _ atOther zero _ _ | replace other found _ atOther zero _ _ _ =>
    exact elsewhere (unlocked atOther zero)
  | relock other found lockCount atOther _ =>
    by_cases same : index = other
    · subst same
      cases holds.symm.trans atOther
      exact ⟨_, update_self .., rfl, rfl⟩
    · exact elsewhere same

/-- Lock counts move by one or not at all, as natural numbers. -/
def CountStep (count count' : UInt8) : Prop :=
  count' = count ∨ count'.toNat = count.toNat + 1 ∨ count'.toNat + 1 = count.toNat

theorem HoldingsStep.counted (step : HoldingsStep old new) {handle' : XmsHandle}
    (holds : old.table index = some handle) (holds' : new.table index = some handle') :
    CountStep handle.lockCount handle'.lockCount := by
  -- Only the entry written by the step needs to be compared with the one it replaces.
  have written : ∀ {other : Fin 32} {found entry : XmsHandle}, old.table other = some found →
      update old.table other (some entry) index = some handle' → CountStep found.lockCount entry.lockCount →
      CountStep handle.lockCount handle'.lockCount := by
    intro other found entry atOther atIndex counted
    rw [update_apply] at atIndex
    split at atIndex
    · rename_i same
      subst same
      cases atOther.symm.trans holds
      cases atIndex
      exact counted
    · rw [holds] at atIndex
      exact .inl (congrArg lockCount (Option.some.inj atIndex)).symm
  cases step with
  | idle => exact .inl (congrArg lockCount (Option.some.inj (holds.symm.trans holds'))).symm
  | allocate other _ empty _ _ _ =>
    have different : index ≠ other := by
      rintro rfl
      rw [holds] at empty
      cases empty
    simp only [update_of_ne different, holds, Option.some.injEq] at holds'
    exact .inl (congrArg lockCount holds').symm
  | free other _ _ _ =>
    simp only [update_apply, holds] at holds'
    split at holds'
    · cases holds'
    · exact .inl (congrArg lockCount (Option.some.inj holds')).symm
  | relock other found lockCount atOther change => exact written atOther holds' (.inr change)
  | resize other found _ atOther zero _ _ => exact written atOther holds' (.inl rfl)
  | replace other found _ atOther zero _ _ zero' => exact written atOther holds' (.inl (zero'.trans zero.symm))

end Steps

end DosC32
