import DosC32.Proofs.Device

/-! # The leases of device instances

A successful open publishes a lease, a close callback that succeeds ends one. The history of the registry
determines which leases were opened and closed; `Balanced` ties it to the instance table, and `Progressed` is what
every step does to that table.
-/

namespace DosC32

open Effect Reentry DeviceManager List

abbrev DeviceMove := Move DeviceRequest DeviceAnswer
abbrev DeviceReport := Report DeviceRequest DeviceCallback IomgrError DeviceResult
abbrev DeviceHistory := History DeviceRequest DeviceCallback DeviceAnswer IomgrError DeviceResult
abbrev DeviceMachine := Reentry.Machine DeviceRequest DeviceCallback DeviceAnswer IomgrError DeviceManager DeviceResult

/-- An open instance as its driver knows it: the context of the driver and the context of the instance. -/
structure DeviceLease where
  (handle context driverContext : UInt64)

/-- The lease that an open call published when its callback was answered. -/
def openedBy : DeviceMove × Except Unit DeviceReport → Option DeviceLease
  | (.answer answer, .ok ⟨.openDevice _ _, some callback, .done (.device handle)⟩) =>
    some ⟨handle, callback.context, answer.driverContext⟩
  | _ => none

/-- The lease that a close callback ended by reporting success. -/
def closedBy : DeviceMove × Except Unit DeviceReport → Option DeviceLease
  | (.answer answer, .ok ⟨_, some callback, _⟩) =>
    if callback.operation = .closeDevice ∧ answer.status = .ok then
      some ⟨callback.device, callback.context, callback.driverContext⟩
    else none
  | _ => none

def openings (history : DeviceHistory) : List DeviceLease := history.filterMap openedBy
def closings (history : DeviceHistory) : List DeviceLease := history.filterMap closedBy

/-- What every step does to the instances: generations grow, a slot is reserved under a new generation only, and
a slot that stays published stays the same lease. -/
structure Progressed (before after : DeviceManager) : Prop where
  grown : ∀ index, (before.instances index).generation.toNat ≤ (after.instances index).generation.toNat
  reserved : ∀ index, (after.instances index).state = .reserved → (before.instances index).state = .reserved ∨
    (before.instances index).generation.toNat < (after.instances index).generation.toNat
  published : ∀ index, (after.instances index).Published → (before.instances index).Published ∧
    (after.instances index).generation = (before.instances index).generation ∧
    (after.instances index).driverContext = (before.instances index).driverContext
  context : ∀ index registration, (after.instances index).Published →
    after.Bound (after.instances index) registration → before.Bound (before.instances index) registration ∧
      (after.registrations registration).ops.context = (before.registrations registration).ops.context

theorem Progressed.refl (manager : DeviceManager) : Progressed manager manager where
  grown _ := Nat.le_refl _
  reserved _ state := .inl state
  published _ shown := ⟨shown, rfl, rfl⟩
  context _ _ _ bound := ⟨bound, rfl⟩

theorem Progressed.trans {first second third : DeviceManager} (left : Progressed first second)
    (right : Progressed second third) : Progressed first third where
  grown index := (left.grown index).trans (right.grown index)
  reserved index state := by
    rcases right.reserved index state with earlier | advanced
    · rcases left.reserved index earlier with earliest | advanced
      · exact .inl earliest
      · exact .inr (advanced.trans_le (right.grown index))
    · exact .inr ((left.grown index).trans_lt advanced)
  published index shown := by
    obtain ⟨shown', generation', context'⟩ := right.published index shown
    obtain ⟨shown'', generation, context⟩ := left.published index shown'
    exact ⟨shown'', generation'.trans generation, context'.trans context⟩
  context index registration shown bound := by
    obtain ⟨bound', context'⟩ := right.context index registration shown bound
    obtain ⟨bound'', context⟩ := left.context index registration (right.published index shown).1 bound'
    exact ⟨bound'', context'.trans context⟩

/-- Every instance slot is as it was, or its generation grows and it is out of sight, or only its state changes. -/
theorem progressed_of_instances {before after : DeviceManager} (registrations : after.registrations = before.registrations)
    (each : ∀ index, after.instances index = before.instances index ∨
      ((before.instances index).generation.toNat ≤ (after.instances index).generation.toNat ∧
        ¬ (after.instances index).Published ∧ ((after.instances index).state = .reserved →
          (before.instances index).generation.toNat < (after.instances index).generation.toNat)) ∨
      ((before.instances index).Published ∧ (after.instances index).Published ∧
        after.instances index = { before.instances index with state := (after.instances index).state })) :
    Progressed before after := by
  have sameBound : after.Bound = before.Bound := by
    funext slot registration
    simp only [Bound, handleOf, registrations]
  constructor
  · intro index
    rcases each index with same | ⟨grown, -⟩ | ⟨-, -, same⟩
    · rw [same]
    · exact grown
    · rw [same]
  · intro index state
    rcases each index with same | ⟨-, -, advanced⟩ | ⟨-, shown, -⟩
    · rw [same] at state
      exact .inl state
    · exact .inr (advanced state)
    · rcases shown with other | other <;> cases state.symm.trans other
  · intro index shown
    rcases each index with same | ⟨-, hidden, -⟩ | ⟨earlier, -, same⟩
    · rw [same] at shown ⊢
      exact ⟨shown, rfl, rfl⟩
    · exact absurd shown hidden
    · rw [same]
      exact ⟨earlier, rfl, rfl⟩
  · intro index registration shown bound
    rw [sameBound] at bound
    rw [registrations]
    rcases each index with same | ⟨-, hidden, -⟩ | ⟨-, -, same⟩
    · rw [same] at bound
      exact ⟨bound, rfl⟩
    · exact absurd shown hidden
    · rw [same] at bound
      exact ⟨bound, rfl⟩

/-- Steps on the registrations leave the instances alone. -/
theorem progressed_of_registrations {before after : DeviceManager} {pending : List DeviceCallback}
    (tables : before.Tables pending) (instances : after.instances = before.instances)
    (kept : KeepsBound before after) : Progressed before after := by
  constructor
  · intro index
    rw [instances]
  · intro index state
    rw [instances] at state
    exact .inl state
  · intro index shown
    rw [instances] at shown ⊢
    exact ⟨shown, rfl, rfl⟩
  · intro index registration shown bound
    rw [instances] at shown bound
    obtain ⟨earlier, named⟩ := tables.bound index shown.inUse
    obtain rfl := (kept.bound shown.inUse named).unique bound
    exact ⟨named, by rw [(kept index earlier shown.inUse named).2.2]⟩

namespace DeviceManager

/-- The lease that an instance bound to a registration stands for. -/
def leaseAt (manager : DeviceManager) (index : Fin 32) (registration : Fin 16) : DeviceLease :=
  ⟨makeDeviceHandle index (manager.instances index).generation deviceInstanceKind,
    (manager.registrations registration).ops.context, (manager.instances index).driverContext⟩

/-- A handle that the instance table will not issue any more. -/
def Issued (manager : DeviceManager) (handle : UInt64) : Prop :=
  ∃ (index : Fin 32) (generation : UInt32), handle = makeDeviceHandle index generation deviceInstanceKind ∧
    generation.toNat ≤ (manager.instances index).generation.toNat ∧
    ((manager.instances index).state = .reserved → generation.toNat < (manager.instances index).generation.toNat)

end DeviceManager

/-- The history accounts for the instances: leases have distinct handles, a published instance is an open lease,
and a closed lease was opened and is closed once. -/
structure Balanced (history : DeviceHistory) (manager : DeviceManager) : Prop where
  distinct : ((openings history).map DeviceLease.handle).Nodup
  issued : ∀ lease ∈ openings history, manager.Issued lease.handle
  current : ∀ index registration, (manager.instances index).Published →
    manager.Bound (manager.instances index) registration → manager.leaseAt index registration ∈ openings history ∧
      (manager.leaseAt index registration).handle ∉ (closings history).map DeviceLease.handle
  matched : ∀ lease ∈ closings history, lease ∈ openings history
  once : ((closings history).map DeviceLease.handle).Nodup

section Balance

variable {history : DeviceHistory} {before after : DeviceManager} {entry : DeviceMove × Except Unit DeviceReport}
    {registration : Fin 16} {index : Fin 32}

section

variable (progressed : Progressed before after)
include progressed

private theorem Progressed.issued {handle : UInt64} (issued : before.Issued handle) : after.Issued handle := by
  obtain ⟨index, generation, same, reached, strict⟩ := issued
  refine ⟨index, generation, same, reached.trans (progressed.grown index), fun reserved => ?_⟩
  rcases progressed.reserved index reserved with earlier | advanced
  · exact (strict earlier).trans_le (progressed.grown index)
  · exact reached.trans_lt advanced

variable (balanced : Balanced history before)
include balanced

private theorem Balanced.current_after (shown : (after.instances index).Published)
    (bound : after.Bound (after.instances index) registration) : after.leaseAt index registration ∈ openings history ∧
      (after.leaseAt index registration).handle ∉ (closings history).map DeviceLease.handle := by
  obtain ⟨shown', generation, driverContext⟩ := progressed.published index shown
  obtain ⟨bound', context⟩ := progressed.context index registration shown bound
  have same : after.leaseAt index registration = before.leaseAt index registration := by
    rw [leaseAt, generation, driverContext, context]
    rfl
  rw [same]
  exact balanced.current index registration shown' bound'

/-- A move that neither publishes nor ends a lease. -/
theorem Balanced.pass
    (opens : openedBy entry = none) (closes : closedBy entry = none) : Balanced (entry :: history) after := by
  have sameOpenings : openings (entry :: history) = openings history := filterMap_cons_none opens
  have sameClosings : closings (entry :: history) = closings history := filterMap_cons_none closes
  constructor <;> simp only [sameOpenings, sameClosings]
  · exact balanced.distinct
  · exact fun lease member => progressed.issued (balanced.issued lease member)
  · exact fun index registration shown bound => balanced.current_after progressed shown bound
  · exact balanced.matched
  · exact balanced.once

/-- A close callback that succeeds ends the lease of a published instance, which goes out of sight. -/
theorem Balanced.close (shown : (before.instances index).Published)
    (bound : before.Bound (before.instances index) registration) (hidden : ¬ (after.instances index).Published)
    (opens : openedBy entry = none) (closes : closedBy entry = some (before.leaseAt index registration)) :
    Balanced (entry :: history) after := by
  have sameOpenings : openings (entry :: history) = openings history := filterMap_cons_none opens
  have moreClosings : closings (entry :: history) = _ :: closings history := filterMap_cons_some closes
  obtain ⟨member, fresh⟩ := balanced.current index registration shown bound
  constructor <;> simp only [sameOpenings, moreClosings, map_cons]
  · exact balanced.distinct
  · exact fun lease earlier => progressed.issued (balanced.issued lease earlier)
  · intro other registration' shown' bound'
    obtain ⟨member', fresh'⟩ := balanced.current_after progressed shown' bound'
    rw [mem_cons, not_or]
    refine ⟨member', fun same => ?_, fresh'⟩
    obtain ⟨rfl, -⟩ := makeDeviceHandle_inj (by decide) properKind_instance same
    exact hidden shown'
  · exact forall_mem_cons.mpr ⟨member, balanced.matched⟩
  · exact nodup_cons.mpr ⟨fresh, balanced.once⟩

end

/-- An open that succeeds publishes the slot it had reserved. -/
theorem Balanced.open (balanced : Balanced history before) {driverContext : UInt64}
    (reserved : (before.instances index).state = .reserved)
    (bound : before.Bound (before.instances index) registration)
    (result : after = before.setInstance index { before.instances index with driverContext, state := .live })
    (opens : openedBy entry = some (after.leaseAt index registration)) (closes : closedBy entry = none) :
    Balanced (entry :: history) after := by
  have moreOpenings : openings (entry :: history) = _ :: openings history := filterMap_cons_some opens
  have sameClosings : closings (entry :: history) = closings history := filterMap_cons_none closes
  have atIndex : after.instances index = { before.instances index with driverContext, state := .live } := by
    rw [result]
    exact Function.update_self ..
  have elsewhere : ∀ other, other ≠ index → after.instances other = before.instances other := by
    intro other apart
    rw [result]
    exact Function.update_of_ne apart _ _
  have registrations : after.registrations = before.registrations := by
    rw [result]
    rfl
  have sameBound : after.Bound = before.Bound := by
    rw [result]
    rfl
  have fresh : (after.leaseAt index registration).handle ∉ (openings history).map DeviceLease.handle := by
    intro known
    obtain ⟨lease, member, same⟩ := mem_map.mp known
    obtain ⟨place, generation, handle, -, strict⟩ := balanced.issued lease member
    obtain ⟨rfl, rfl⟩ := makeDeviceHandle_inj (by decide) properKind_instance (same.symm.trans handle)
    rw [atIndex] at strict
    exact Nat.lt_irrefl _ (strict reserved)
  have unclosed : (after.leaseAt index registration).handle ∉ (closings history).map DeviceLease.handle := by
    intro known
    obtain ⟨lease, member, same⟩ := mem_map.mp known
    exact fresh (mem_map.mpr ⟨lease, balanced.matched lease member, same⟩)
  constructor <;> simp only [moreOpenings, sameClosings, map_cons]
  · exact nodup_cons.mpr ⟨fresh, balanced.distinct⟩
  · refine forall_mem_cons.mpr ⟨⟨index, _, rfl, Nat.le_refl _, fun state => ?_⟩, fun lease member => ?_⟩
    · rw [atIndex] at state
      cases state
    · obtain ⟨place, generation, handle, reached, strict⟩ := balanced.issued lease member
      by_cases same : place = index
      · subst same
        refine ⟨place, generation, handle, ?_, fun state => ?_⟩
        · rw [atIndex]
          exact reached
        · rw [atIndex] at state
          cases state
      · exact ⟨place, generation, handle, by rwa [elsewhere place same], by rwa [elsewhere place same]⟩
  · intro other registration' shown' bound'
    rw [sameBound] at bound'
    by_cases same : other = index
    · subst same
      rw [atIndex] at bound'
      obtain rfl := bound.unique bound'
      exact ⟨mem_cons_self, unclosed⟩
    · rw [elsewhere other same] at shown' bound'
      have kept : after.leaseAt other registration' = before.leaseAt other registration' := by
        rw [leaseAt, elsewhere other same, registrations]
        rfl
      rw [kept]
      obtain ⟨member, fresh'⟩ := balanced.current other registration' shown' bound'
      exact ⟨mem_cons_of_mem _ member, fresh'⟩
  · exact fun lease earlier => mem_cons_of_mem _ (balanced.matched lease earlier)
  · exact balanced.once

end Balance

end DosC32
