import DosC32.Core.Ledger
import DosC32.Model.Vcpi

/-! # The steps of the EMS manager

`EmsStep` lists all that one interrupt may do to the three tables of the manager and to the blocks in use at the
page backend. Every step keeps `manager_state_is_valid` and the ownership of the blocks by the two allocation
tables.
-/

namespace DosC32

open Effect Function Bitmap

namespace EmsManager

variable {manager : EmsManager} {grant : EmsGrant}

/-- What a frame slot records: the address that it shows. -/
def recorded (manager : EmsManager) : Fin 4 → Option ℕ := fun index =>
  if (manager.frameSlots index).mapped = 0 then none else some (manager.frameSlots index).physicalAddress

/-- The blocks held by EMS handles and by VCPI pages. -/
def held (manager : EmsManager) : Fin 32 ⊕ Fin 256 → Option ℕ :=
  Sum.elim (fun index => if manager.handleBitIsSet index then some (manager.handles index).block else none)
    (fun index => if manager.vcpiBitIsSet index then some (manager.vcpiAllocations index).block else none)

theorem resolveHandle_eq_some {visibleHandle : UInt16} {index : Fin 32} :
    manager.resolveHandle visibleHandle = some index ↔
      visibleHandle.toNat = index.val + 1 ∧ manager.handleBitIsSet index := by
  unfold resolveHandle
  constructor
  · intro resolved
    split at resolved
    · rename_i bound
      simp only at resolved
      split at resolved
      · rename_i set
        cases resolved
        exact ⟨by simp only; omega, set⟩
      · cases resolved
    · cases resolved
  · rintro ⟨number, set⟩
    have inside := index.isLt
    have bound : visibleHandle.toNat ≠ 0 ∧ visibleHandle.toNat ≤ 32 := by omega
    have position : (⟨visibleHandle.toNat - 1, by omega⟩ : Fin 32) = index := Fin.ext (by simp only; omega)
    simp only [dif_pos bound, position, if_pos set]

theorem slotShowsPage_iff {slot : EmsFrameSlot} : manager.slotShowsPage slot ↔
    ∃ position, manager.resolveHandle slot.handle = some position ∧
      slot.logicalPage.toNat < (manager.handles position).pageCount ∧
      slot.physicalAddress = (manager.handles position).physicalAddress + slot.logicalPage.toNat * emsPageBytes := by
  unfold slotShowsPage
  cases manager.resolveHandle slot.handle <;> simp

theorem handleBitIsSet_takeHandle {index other : Fin 32} {pageCount : ℕ} :
    (manager.takeHandle index grant pageCount).handleBitIsSet other ↔ other = index ∨ manager.handleBitIsSet other := by
  simp only [handleBitIsSet, takeHandle, test_insert _ index.isLt other.isLt, Bool.or_eq_true,
    decide_eq_true_eq, Fin.ext_iff]

theorem handleBitIsSet_dropHandle {index other : Fin 32} :
    (manager.dropHandle index).handleBitIsSet other ↔ other ≠ index ∧ manager.handleBitIsSet other := by
  simp only [handleBitIsSet, dropHandle, test_erase _ index.isLt other.isLt, Bool.and_eq_true,
    Bool.not_eq_true', decide_eq_false_iff_not, ne_eq, Fin.ext_iff]

variable {index other : Fin 256}

/-- Only the entry whose bit was edited sees the edited word. -/
private theorem test_updated {bits : Fin 8 → BitVec 32} {word : BitVec 32} {value : Bool}
    (edited : ∀ bit < 32, test word bit =
      if bit = index % 32 then value else test (bits (vcpiWord index)) bit) :
    test (update bits (vcpiWord index) word (vcpiWord other)) (other % 32) =
      if other = index then value else test (bits (vcpiWord other)) (other % 32) := by
  by_cases same : vcpiWord other = vcpiWord index
  · have number : other.val / 32 = index.val / 32 := congrArg Fin.val same
    rw [same, update_self, edited _ (Nat.mod_lt _ (by decide))]
    exact if_congr (by rw [Fin.ext_iff]; omega) rfl rfl
  · rw [update_of_ne same, if_neg fun equal => same (by rw [equal])]

theorem vcpiBitIsSet_takePage :
    (manager.takePage index grant).vcpiBitIsSet other ↔ other = index ∨ manager.vcpiBitIsSet other := by
  unfold vcpiBitIsSet takePage
  rw [@test_updated _ _ _ _ true fun bit inside => by
    rw [test_insert _ (Nat.mod_lt _ (by decide)) inside]; split <;> simp [*]]
  split <;> simp [*]

theorem vcpiBitIsSet_dropPage :
    (manager.dropPage index).vcpiBitIsSet other ↔ other ≠ index ∧ manager.vcpiBitIsSet other := by
  unfold vcpiBitIsSet dropPage
  rw [@test_updated _ _ _ _ false fun bit inside => by
    rw [test_erase _ (Nat.mod_lt _ (by decide)) inside]; split <;> simp [*]]
  split <;> simp [*]

end EmsManager

/-- All that one interrupt may do to the tables and to the blocks in use. -/
inductive EmsStep (old : EmsManager) (live : Set ℕ) : EmsManager → Set ℕ → Prop
  | idle : EmsStep old live old live
  | allocate (index : Fin 32) (grant : EmsGrant) (pageCount : ℕ) : ¬ old.handleBitIsSet index →
      (old.handles index).generation < emsGenerationMax → pageCount ≠ 0 → pageCount ≤ emsVisiblePageLimit →
      allocationResultIsValid grant.block grant.physicalAddress (pageCount * emsNativePagesPerPage)
        grant.capacityPages → grant.block ∉ live →
      EmsStep old live (old.takeHandle index grant pageCount) (insert grant.block live)
  | unmap (index : Fin 4) : EmsStep old live (old.setSlot index {}) live
  | map (index : Fin 4) (position : Fin 32) (visibleHandle logicalPage : UInt16) :
      old.resolveHandle visibleHandle = some position → logicalPage.toNat < (old.handles position).pageCount →
      EmsStep old live (old.setSlot index
        { physicalAddress := (old.handles position).physicalAddress + logicalPage.toNat * emsPageBytes
          handle := visibleHandle, logicalPage, mapped := 1 }) live
  | release (index : Fin 32) (visibleHandle : UInt16) (mask : BitVec 32) :
      old.resolveHandle visibleHandle = some index →
      (∀ slot : Fin 4, test mask slot = true ↔
        (old.frameSlots slot).mapped ≠ 0 ∧ (old.frameSlots slot).handle = visibleHandle) →
      EmsStep old live ((old.clearSlots mask).dropHandle index) (live \ {(old.handles index).block})
  | takePage (index : Fin 256) (grant : EmsGrant) : ¬ old.vcpiBitIsSet index →
      (old.vcpiAllocations index).generation < emsGenerationMax →
      allocationResultIsValid grant.block grant.physicalAddress 1 grant.capacityPages → grant.block ∉ live →
      EmsStep old live (old.takePage index grant) (insert grant.block live)
  | dropPage (index : Fin 256) : old.vcpiBitIsSet index →
      EmsStep old live (old.dropPage index) (live \ {(old.vcpiAllocations index).block})

variable {Platform : Type} {vcpi : Option (VcpiPlatformOps Platform)} {old new : EmsManager} {live live' : Set ℕ}

open EmsManager

private theorem frameSlotIsValid_empty {manager : EmsManager} {index : Fin 4} (empty : manager.frameSlots index = {}) :
    manager.frameSlotIsValid index := by
  unfold frameSlotIsValid
  rw [empty]
  exact ⟨by decide, fun _ => ⟨rfl, rfl, rfl⟩, fun mapped => absurd rfl mapped⟩

/-- A slot that is left alone stays valid while the handles in use at its position are left alone. -/
private theorem frameSlotIsValid_of_same {manager : EmsManager} {index : Fin 4} (valid : old.frameSlotIsValid index)
    (slot : manager.frameSlots index = old.frameSlots index)
    (position : (old.frameSlots index).mapped ≠ 0 → ∀ position,
      old.resolveHandle (old.frameSlots index).handle = some position →
      manager.handleBitIsSet position ∧ manager.handles position = old.handles position) :
    manager.frameSlotIsValid index := by
  unfold frameSlotIsValid at valid ⊢
  rw [slot]
  refine ⟨valid.1, valid.2.1, fun mapped => ⟨(valid.2.2 mapped).1, ?_⟩⟩
  obtain ⟨found, resolved, inside, address⟩ := slotShowsPage_iff.mp (valid.2.2 mapped).2
  obtain ⟨set, handles⟩ := position mapped found resolved
  refine slotShowsPage_iff.mpr ⟨found, resolveHandle_eq_some.mpr ⟨(resolveHandle_eq_some.mp resolved).1, set⟩, ?_, ?_⟩
  · rw [handles]
    exact inside
  · rw [handles]
    exact address

section

variable (valid : old.managerStateIsValid vcpi)
include valid

private theorem takeHandle_valid {index : Fin 32} {pageCount : ℕ} (free : ¬ old.handleBitIsSet index)
    (room : (old.handles index).generation < emsGenerationMax) (positive : pageCount ≠ 0)
    (visible : pageCount ≤ emsVisiblePageLimit)
    (usable : allocationResultIsValid grant.block grant.physicalAddress (pageCount * emsNativePagesPerPage)
      grant.capacityPages) : (old.takeHandle index grant pageCount).managerStateIsValid vcpi := by
  obtain ⟨context, binding, vcpiBinding, reserved, handles, pages, slots⟩ := valid
  refine ⟨context, binding, vcpiBinding, reserved, fun other => ?_, pages, fun slot => ?_⟩
  · unfold handleEntryIsValid
    rw [handleBitIsSet_takeHandle]
    by_cases same : other = index
    · subst same
      simp only [takeHandle, update_self]
      refine ⟨room, fun _ => ⟨Nat.succ_ne_zero _, positive, visible, usable⟩, fun unset => absurd (.inl trivial) unset⟩
    · simp only [takeHandle, update_of_ne same, same, false_or]
      exact handles other
  · refine frameSlotIsValid_of_same (slots slot) rfl fun _ position resolved => ?_
    have set := (resolveHandle_eq_some.mp resolved).2
    have different : position ≠ index := by
      rintro rfl
      exact free set
    exact ⟨handleBitIsSet_takeHandle.mpr (.inr set), update_of_ne different _ _⟩

private theorem setSlot_valid {index : Fin 4} {slot : EmsFrameSlot}
    (shown : (old.setSlot index slot).frameSlotIsValid index) : (old.setSlot index slot).managerStateIsValid vcpi := by
  obtain ⟨context, binding, vcpiBinding, reserved, handles, pages, slots⟩ := valid
  refine ⟨context, binding, vcpiBinding, reserved, handles, pages, fun other => ?_⟩
  by_cases same : other = index
  · subst same
    exact shown
  · exact frameSlotIsValid_of_same (slots other) (update_of_ne same _ _)
      fun _ position resolved => ⟨(resolveHandle_eq_some.mp resolved).2, rfl⟩

private theorem release_valid {index : Fin 32} {visibleHandle : UInt16} {mask : BitVec 32}
    (resolved : old.resolveHandle visibleHandle = some index)
    (cleared : ∀ slot : Fin 4, test mask slot = true ↔
      (old.frameSlots slot).mapped ≠ 0 ∧ (old.frameSlots slot).handle = visibleHandle) :
    ((old.clearSlots mask).dropHandle index).managerStateIsValid vcpi := by
  obtain ⟨context, binding, vcpiBinding, reserved, handles, pages, slots⟩ := valid
  refine ⟨context, binding, vcpiBinding, reserved, fun other => ?_, pages, fun slot => ?_⟩
  · unfold handleEntryIsValid
    rw [handleBitIsSet_dropHandle]
    by_cases same : other = index
    · subst same
      simp only [dropHandle, update_self]
      exact ⟨(handles other).1, fun set => absurd rfl set.1, fun _ => ⟨rfl, trivial, trivial, trivial⟩⟩
    · simp only [dropHandle, update_of_ne same, ne_eq, same, not_false_eq_true, true_and]
      exact handles other
  · by_cases hidden : test mask slot = true
    · exact frameSlotIsValid_empty (if_pos hidden)
    · refine frameSlotIsValid_of_same (slots slot) (if_neg hidden) fun mapped position shown => ?_
      -- A slot outside the mask names another handle, hence another position.
      obtain ⟨number, set⟩ := resolveHandle_eq_some.mp shown
      have different : position ≠ index := by
        rintro rfl
        apply hidden
        refine (cleared slot).mpr ⟨mapped, UInt16.toNat_inj.mp ?_⟩
        rw [number, (resolveHandle_eq_some.mp resolved).1]
      exact ⟨handleBitIsSet_dropHandle.mpr ⟨different, set⟩, update_of_ne different _ _⟩

private theorem takePage_valid {index : Fin 256} (room : (old.vcpiAllocations index).generation < emsGenerationMax)
    (usable : allocationResultIsValid grant.block grant.physicalAddress 1 grant.capacityPages) :
    (old.takePage index grant).managerStateIsValid vcpi := by
  obtain ⟨context, binding, vcpiBinding, reserved, handles, pages, slots⟩ := valid
  refine ⟨context, binding, vcpiBinding, reserved, handles, fun other => ?_, slots⟩
  unfold vcpiEntryIsValid
  rw [vcpiBitIsSet_takePage]
  by_cases same : other = index
  · subst same
    simp only [takePage, update_self]
    exact ⟨room, fun _ => ⟨Nat.succ_ne_zero _, usable⟩, fun unset => absurd (.inl trivial) unset⟩
  · simp only [takePage, update_of_ne same, same, false_or]
    exact pages other

private theorem dropPage_valid {index : Fin 256} : (old.dropPage index).managerStateIsValid vcpi := by
  obtain ⟨context, binding, vcpiBinding, reserved, handles, pages, slots⟩ := valid
  refine ⟨context, binding, vcpiBinding, reserved, handles, fun other => ?_, slots⟩
  unfold vcpiEntryIsValid
  rw [vcpiBitIsSet_dropPage]
  by_cases same : other = index
  · subst same
    simp only [dropPage, update_self]
    exact ⟨(pages other).1, fun set => absurd rfl set.1, fun _ => ⟨rfl, trivial, trivial⟩⟩
  · simp only [dropPage, update_of_ne same, ne_eq, same, not_false_eq_true, true_and]
    exact pages other

end

/-- Every step keeps the state that the interrupt checks. -/
theorem EmsStep.valid (step : EmsStep old live new live') (valid : old.managerStateIsValid vcpi) :
    new.managerStateIsValid vcpi := by
  cases step with
  | idle => exact valid
  | allocate index grant pageCount free room positive visible usable _ =>
    exact takeHandle_valid valid free room positive visible usable
  | unmap index => exact setSlot_valid valid (frameSlotIsValid_empty (update_self ..))
  | map index position visibleHandle logicalPage resolved inside =>
    apply setSlot_valid valid
    unfold frameSlotIsValid setSlot
    simp only [update_self]
    refine ⟨by decide, fun unmapped => absurd unmapped (by decide), fun _ => ⟨trivial, ?_⟩⟩
    exact slotShowsPage_iff.mpr ⟨position, resolved, inside, rfl⟩
  | release index visibleHandle mask resolved cleared => exact release_valid valid resolved cleared
  | takePage index grant _ room usable _ => exact takePage_valid valid room usable
  | dropPage index _ => exact dropPage_valid valid

private theorem held_takeHandle (index : Fin 32) (grant : EmsGrant) (pageCount : ℕ) :
    (old.takeHandle index grant pageCount).held = update old.held (.inl index) (some grant.block) := by
  unfold held
  rw [Sum.update_elim_inl]
  congr 1
  funext other
  simp only [handleBitIsSet_takeHandle]
  simp only [takeHandle, update_apply]
  by_cases same : other = index <;> simp [same]

private theorem held_dropHandle (index : Fin 32) :
    (old.dropHandle index).held = update old.held (.inl index) none := by
  unfold held
  rw [Sum.update_elim_inl]
  congr 1
  funext other
  simp only [handleBitIsSet_dropHandle]
  simp only [dropHandle, update_apply]
  by_cases same : other = index <;> simp [same]

private theorem held_takePage (index : Fin 256) (grant : EmsGrant) :
    (old.takePage index grant).held = update old.held (.inr index) (some grant.block) := by
  unfold held
  rw [Sum.update_elim_inr]
  congr 1
  funext other
  simp only [vcpiBitIsSet_takePage]
  simp only [takePage, update_apply]
  by_cases same : other = index <;> simp [same]

private theorem held_dropPage (index : Fin 256) : (old.dropPage index).held = update old.held (.inr index) none := by
  unfold held
  rw [Sum.update_elim_inr]
  congr 1
  funext other
  simp only [vcpiBitIsSet_dropPage]
  simp only [dropPage, update_apply]
  by_cases same : other = index <;> simp [same]

/-- Every step keeps the ownership of the blocks in use. -/
theorem EmsStep.owns (step : EmsStep old live new live') (owns : Ledger.Owns old.held live) :
    Ledger.Owns new.held live' := by
  cases step with
  | idle => exact owns
  | allocate index grant pageCount free _ _ _ _ fresh =>
    rw [held_takeHandle]
    exact owns.take (if_neg free) fresh
  | unmap index => exact owns
  | map index position visibleHandle logicalPage _ _ => exact owns
  | release index visibleHandle mask resolved _ =>
    rw [held_dropHandle]
    exact owns.drop (if_pos (resolveHandle_eq_some.mp resolved).2)
  | takePage index grant free _ _ fresh =>
    rw [held_takePage]
    exact owns.take (if_neg free) fresh
  | dropPage index set =>
    rw [held_dropPage]
    exact owns.drop (if_pos set)

end DosC32
