import DosC32.Model.Device

/-! # The tables of the device registry

Handles and their fields determine each other. `Tables` says how the two slot tables, the bitmaps and the
suspended driver calls fit together: an instance in use is bound to a live registration, and every pending call
holds its own instance slot.
-/

namespace DosC32

open Effect Reentry Bitmap List Function

private theorem or_eq_add {high low : ℕ} (multiple : high % 2 ^ 30 = 0) (small : low < 2 ^ 30) :
    high ||| low = high + low := by
  have parted := Nat.shiftLeft_add_eq_or_of_lt small (high / 2 ^ 30)
  rw [Nat.shiftLeft_eq, Nat.div_mul_cancel (Nat.dvd_of_mod_eq_zero multiple)] at parted
  exact parted.symm

theorem toNat_makeDeviceHandle (index : Fin 32) (generation : UInt32) {kind : UInt32}
    (clear : kind.toNat % 2 ^ 30 = 0) :
    (makeDeviceHandle index generation kind).toNat = generation.toNat * 2 ^ 32 + (kind.toNat + (index + 1)) := by
  have below := index.isLt
  have bounded := generation.toNat_lt
  have small := kind.toNat_lt
  have low : kind.toNat ||| (index + 1) = kind.toNat + (index + 1) := or_eq_add clear (by omega)
  have wide : generation.toNat <<< 32 % 2 ^ 64 = generation.toNat <<< 32 := by
    rw [Nat.shiftLeft_eq]
    omega
  have tail : ((index : ℕ) + 1) % 2 ^ 64 = index + 1 := by omega
  simp only [makeDeviceHandle, UInt64.toNat_or, UInt64.toNat_shiftLeft, UInt32.toNat_toUInt64, UInt64.toNat_ofNat',
    tail, Nat.or_assoc, low]
  show generation.toNat <<< 32 % 2 ^ 64 ||| (kind.toNat + (↑index + 1)) = _
  rw [wide, ← Nat.shiftLeft_add_eq_or_of_lt (by omega), Nat.shiftLeft_eq]

private theorem kind_add_slot (word : UInt32) :
    (word &&& deviceHandleSlotMask).toNat = word.toNat % 2 ^ 30 ∧
      (word &&& deviceHandleKindMask).toNat + word.toNat % 2 ^ 30 = word.toNat := by
  have slot : word.toNat &&& deviceHandleSlotMask.toNat = word.toNat % 2 ^ 30 := Nat.and_two_pow_sub_one_eq_mod _ 30
  have whole : word.toNat &&& (deviceHandleKindMask.toNat ||| deviceHandleSlotMask.toNat) = word.toNat := by
    have bounded := word.toNat_lt
    rw [show deviceHandleKindMask.toNat ||| deviceHandleSlotMask.toNat = 2 ^ 32 - 1 from rfl,
      Nat.and_two_pow_sub_one_eq_mod]
    omega
  have multiple : (word.toNat &&& deviceHandleKindMask.toNat) % 2 ^ 30 = 0 := by
    rw [← Nat.and_two_pow_sub_one_eq_mod, Nat.and_assoc,
      show deviceHandleKindMask.toNat &&& (2 ^ 30 - 1) = 0 from rfl, Nat.and_zero]
  rw [UInt32.toNat_and, UInt32.toNat_and]
  rw [Nat.and_or_distrib_left, slot, or_eq_add multiple (Nat.mod_lt _ (by decide))] at whole
  exact ⟨slot, whole⟩

private theorem toNat_generation (handle : UInt64) : ((handle >>> 32).toUInt32).toNat = handle.toNat / 2 ^ 32 := by
  have bounded := handle.toNat_lt
  rw [UInt64.toNat_toUInt32, UInt64.toNat_shiftRight, show (32 : UInt64).toNat % 64 = 32 from rfl,
    Nat.shiftRight_eq_div_pow]
  omega

private theorem handle_fields (handle : UInt64) : handleSlot handle = handle.toNat % 2 ^ 30 ∧
    handle.toNat = (handle >>> 32).toUInt32.toNat * 2 ^ 32 +
      ((handle.toUInt32 &&& deviceHandleKindMask).toNat + handleSlot handle) := by
  obtain ⟨slot, whole⟩ := kind_add_slot handle.toUInt32
  have low : handle.toUInt32.toNat = handle.toNat % 2 ^ 32 := UInt64.toNat_toUInt32 handle
  have high := toNat_generation handle
  unfold handleSlot
  omega

/-- The kinds of handles in use. -/
def ProperKind (kind : UInt32) : Prop := kind.toNat % 2 ^ 30 = 0 ∧ 0 < kind.toNat ∧ kind.toNat ≤ 2 ^ 31

theorem properKind_registration : ProperKind deviceRegistrationKind := by
  unfold ProperKind
  decide

theorem properKind_instance : ProperKind deviceInstanceKind := by
  unfold ProperKind
  decide

variable {count : ℕ} {handle : UInt64} {kind generation : UInt32} {index : Fin count}

/-- A handle and its fields determine each other. -/
theorem decodeDeviceHandle_eq_some (narrow : count ≤ 32) (proper : ProperKind kind) :
    decodeDeviceHandle kind count handle = some (index, generation) ↔
      generation ≠ 0 ∧ handle = makeDeviceHandle index generation kind := by
  have below := index.isLt
  have bounded := generation.toNat_lt
  have packed := toNat_makeDeviceHandle ⟨index, by omega⟩ generation proper.1
  obtain ⟨multiple, positive, small⟩ := proper
  obtain ⟨slot, whole⟩ := handle_fields handle
  have high := toNat_generation handle
  have invalid : deviceHandleInvalid.toNat = 2 ^ 64 - 1 := rfl
  dsimp only at packed
  simp only [decodeDeviceHandle, ← UInt64.toNat_inj, packed, ne_eq, ← UInt32.toNat_inj, invalid, UInt64.toNat_zero,
    UInt32.toNat_zero]
  split_ifs <;>
    simp only [Option.some.injEq, Prod.mk.injEq, Fin.ext_iff, ← UInt32.toNat_inj, false_iff] <;> omega

theorem decode_makeDeviceHandle (index : Fin count) (narrow : count ≤ 32) (proper : ProperKind kind)
    (positive : generation ≠ 0) :
    decodeDeviceHandle kind count (makeDeviceHandle index generation kind) = some (index, generation) :=
  (decodeDeviceHandle_eq_some narrow proper).mpr ⟨positive, rfl⟩

theorem handleSlot_of_decode (decoded : decodeDeviceHandle kind count handle = some (index, generation)) :
    handleSlot handle - 1 = index := by
  unfold decodeDeviceHandle at decoded
  dsimp only at decoded
  split_ifs at decoded
  simp only [Option.some.injEq, Prod.mk.injEq, Fin.ext_iff] at decoded
  exact decoded.1

theorem makeDeviceHandle_inj {other : Fin count} {generation' : UInt32} (narrow : count ≤ 32)
    (proper : ProperKind kind)
    (same : makeDeviceHandle index generation kind = makeDeviceHandle other generation' kind) :
    index = other ∧ generation = generation' := by
  have below := index.isLt
  have below' := other.isLt
  have packed := toNat_makeDeviceHandle ⟨index, by omega⟩ generation proper.1
  have packed' := toNat_makeDeviceHandle ⟨other, by omega⟩ generation' proper.1
  obtain ⟨-, -, bounded⟩ := proper
  dsimp only at packed packed'
  rw [Fin.ext_iff, ← UInt32.toNat_inj]
  rw [same] at packed
  omega

/-- What a reservation does to one slot and its bit. -/
inductive Visited {Slot : Type} (generation : Slot → UInt32) (retire take : Slot → Slot) (slot : Slot) :
    Bool → Bool → Bool → Slot → Prop
  | kept {bit : Bool} : Visited generation retire take slot bit false bit slot
  | retired : Visited generation retire take slot false false true (retire slot)
  | taken : generation slot < deviceGenerationLimit → Visited generation retire take slot false true true (take slot)

variable {Slot : Type} {generation : Slot → UInt32} {retire take : Slot → Slot} {slot result : Slot}
    {taken bit bit' : Bool}

theorem Visited.of_used (visited : Visited generation retire take slot true taken bit result) :
    taken = false ∧ bit = true ∧ result = slot := by
  cases visited
  exact ⟨rfl, rfl, rfl⟩

theorem Visited.of_taken (visited : Visited generation retire take slot bit true bit' result) :
    bit = false ∧ bit' = true ∧ result = take slot ∧ generation slot < deviceGenerationLimit := by
  cases visited with
  | taken fresh => exact ⟨rfl, rfl, rfl, fresh⟩

theorem Visited.of_passed (visited : Visited generation retire take slot bit false bit' result) :
    (bit' = bit ∧ result = slot) ∨ (bit = false ∧ bit' = true ∧ result = retire slot) := by
  cases visited with
  | kept => exact .inl ⟨rfl, rfl⟩
  | retired => exact .inr ⟨rfl, rfl, rfl⟩

theorem reserveSlot_visited (narrow : count ≤ 32) (index : Fin count) (list : List (Fin count)) (bitmap : BitVec 32)
    (slots : Fin count → Slot) :
    Visited generation retire take (slots index) (test bitmap index)
      (decide ((reserveSlot generation retire take list bitmap slots).1 = some index))
      (test (reserveSlot generation retire take list bitmap slots).2.1 index)
      ((reserveSlot generation retire take list bitmap slots).2.2 index) := by
  have inside : ∀ place : Fin count, (place : ℕ) < 32 := fun place => by omega
  induction list generalizing bitmap slots with
  | nil =>
    simp only [reserveSlot, reduceCtorEq, decide_false]
    exact .kept
  | cons head rest ih =>
    unfold reserveSlot
    split_ifs with used spent
    · exact ih bitmap slots
    · have later := ih (insert bitmap head) (update slots head (retire (slots head)))
      by_cases same : index = head
      · subst same
        rw [test_insert _ (inside index) (inside index), update_self] at later
        simp only [decide_true, Bool.true_or] at later
        rw [Bool.not_eq_true] at used
        rw [used]
        obtain ⟨notTaken, bit, slot⟩ := later.of_used
        rw [notTaken, bit, slot]
        exact .retired
      · have apart : ¬ (index : ℕ) = head := fun equal => same (Fin.ext equal)
        rw [test_insert _ (inside head) (inside index), update_of_ne same] at later
        simpa only [apart, decide_false, Bool.false_or] using later
    · dsimp only
      by_cases same : index = head
      · subst same
        rw [Bool.not_eq_true] at used
        rw [test_insert _ (inside index) (inside index), update_self, used]
        simp only [decide_true, Bool.true_or]
        exact .taken (UInt32.not_le.mp spent)
      · have apart : ¬ (index : ℕ) = head := fun equal => same (Fin.ext equal)
        have other : ¬ some head = some index := fun equal => same (Option.some.inj equal).symm
        rw [test_insert _ (inside head) (inside index), update_of_ne same]
        simp only [apart, other, decide_false, Bool.false_or]
        exact .kept

theorem DeviceManager.reserveRegistration_visited (manager : DeviceManager) (index : Fin 16) :
    Visited DeviceRegistrationSlot.generation (fun slot => { slot with state := .retired })
      (fun slot => { slot with generation := slot.generation + 1, state := .reserved }) (manager.registrations index)
      (test manager.registrationBitmap index) (decide (manager.reserveRegistration.1 = some index))
      (test manager.reserveRegistration.2.registrationBitmap index)
      (manager.reserveRegistration.2.registrations index) :=
  reserveSlot_visited (by decide) index (finRange 16) manager.registrationBitmap manager.registrations

theorem DeviceManager.reserveInstance_visited (manager : DeviceManager) (index : Fin 32) :
    Visited DeviceInstanceSlot.generation (fun slot => { slot with state := .retired })
      (fun slot => { slot with generation := slot.generation + 1, state := .reserved }) (manager.instances index)
      (test manager.instanceBitmap index) (decide (manager.reserveInstance.1 = some index))
      (test manager.reserveInstance.2.instanceBitmap index)
      (manager.reserveInstance.2.instances index) :=
  reserveSlot_visited (by decide) index (finRange 32) manager.instanceBitmap manager.instances

/-- A generation below the limit can advance. -/
theorem toNat_generation_succ {generation : UInt32} (fresh : generation < deviceGenerationLimit) :
    (generation + 1).toNat = generation.toNat + 1 := by
  have below : generation.toNat < 2 ^ 32 - 1 := UInt32.lt_iff_toNat_lt.mp fresh
  rw [UInt32.toNat_add]
  simp only [UInt32.toNat_one]
  omega

/-- The slot was taken and not given back. -/
def DeviceInstanceSlot.InUse (slot : DeviceInstanceSlot) : Prop := slot.state ≠ .free ∧ slot.state ≠ .retired

/-- The slot has a handle that callers know. -/
def DeviceInstanceSlot.Published (slot : DeviceInstanceSlot) : Prop := slot.state = .live ∨ slot.state = .inCallback

theorem DeviceInstanceSlot.Published.inUse {slot : DeviceInstanceSlot} (published : slot.Published) : slot.InUse := by
  rcases published with state | state <;> simp [InUse, state]

/-- The state an instance is in while a driver is called on its behalf. -/
def DeviceOperation.occupies : DeviceOperation → DeviceInstanceState
  | .openDevice => .reserved
  | _ => .inCallback

/-- The handle of the instance a driver is called for. -/
def DeviceCallback.device (callback : DeviceCallback) : UInt64 :=
  makeDeviceHandle callback.slot callback.generation deviceInstanceKind

namespace DeviceManager

/-- The current handle of a registration. -/
abbrev handleOf (manager : DeviceManager) (registration : Fin 16) : UInt64 :=
  makeDeviceHandle registration (manager.registrations registration).generation deviceRegistrationKind

/-- The slot names a live registration. -/
def Bound (manager : DeviceManager) (slot : DeviceInstanceSlot) (registration : Fin 16) : Prop :=
  (manager.registrations registration).state = .live ∧ slot.registration = manager.handleOf registration

theorem Bound.unique {manager : DeviceManager} {slot : DeviceInstanceSlot} {registration other : Fin 16}
    (bound : manager.Bound slot registration) (bound' : manager.Bound slot other) : registration = other :=
  (makeDeviceHandle_inj (by decide) properKind_registration (bound.2.symm.trans bound'.2)).1

/-- A pending call keeps its instance slot for itself. -/
structure Holds (manager : DeviceManager) (callback : DeviceCallback) : Prop where
  state : (manager.instances callback.slot).state = callback.operation.occupies
  generation : (manager.instances callback.slot).generation = callback.generation
  bound : manager.Bound (manager.instances callback.slot) callback.registration
  context : (manager.registrations callback.registration).ops.context = callback.context
  driverContext : callback.operation ≠ .openDevice →
    (manager.instances callback.slot).driverContext = callback.driverContext

theorem Holds.inUse {manager : DeviceManager} {callback : DeviceCallback} (holds : manager.Holds callback) :
    (manager.instances callback.slot).InUse := by
  unfold DeviceInstanceSlot.InUse
  rw [holds.state]
  unfold DeviceOperation.occupies
  split <;> decide

/-- Every registration that an instance in use is bound to stays as it is, but for its quarantine mark. -/
def KeepsBound (before after : DeviceManager) : Prop :=
  ∀ index registration, (before.instances index).InUse → before.Bound (before.instances index) registration →
    (after.registrations registration).state = .live ∧
      (after.registrations registration).generation = (before.registrations registration).generation ∧
      (after.registrations registration).ops = (before.registrations registration).ops

/-- The registry between two steps, with the calls that are pending. -/
structure Tables (manager : DeviceManager) (pending : List DeviceCallback) : Prop where
  initialized : manager.initialized = true
  registrationBit : ∀ index : Fin 16, test manager.registrationBitmap index = true ↔
    (manager.registrations index).state ≠ .free
  instanceBit : ∀ index : Fin 32, test manager.instanceBitmap index = true ↔ (manager.instances index).state ≠ .free
  registrationCounted : ∀ index, (manager.registrations index).state = .live →
    (manager.registrations index).generation ≠ 0
  instanceCounted : ∀ index, (manager.instances index).InUse → (manager.instances index).generation ≠ 0
  bound : ∀ index, (manager.instances index).InUse → ∃ registration, manager.Bound (manager.instances index) registration
  held : ∀ callback ∈ pending, manager.Holds callback
  apart : (pending.map DeviceCallback.slot).Nodup

variable {manager : DeviceManager} {pending : List DeviceCallback}

theorem resolveRegistration_ok {index : Fin 16} (resolved : manager.resolveRegistration handle = .ok index) :
    (manager.registrations index).state = .live ∧ handle = manager.handleOf index := by
  unfold resolveRegistration at resolved
  split_ifs at resolved
  split at resolved
  · cases resolved
  · next place generation decoded =>
    split_ifs at resolved with unset stale
    cases resolved
    simp only [not_or, not_not] at stale
    obtain ⟨-, same⟩ := (decodeDeviceHandle_eq_some (by decide) properKind_registration).mp decoded
    rw [handleOf, stale.1]
    exact ⟨stale.2, same⟩

variable (tables : manager.Tables pending)
include tables

theorem Tables.resolveRegistration {index : Fin 16} (live : (manager.registrations index).state = .live) :
    manager.resolveRegistration (manager.handleOf index) = .ok index := by
  have decoded := decode_makeDeviceHandle index (by decide) properKind_registration
    (tables.registrationCounted index live)
  have bit : test manager.registrationBitmap index = true := by
    rw [tables.registrationBit, live]
    decide
  simp [DeviceManager.resolveRegistration, tables.initialized, decoded, bit, live]

/-- What a handle of an instance in use resolves to depends on the state of its slot alone. -/
theorem Tables.resolveInstance {index : Fin 32} (used : (manager.instances index).InUse) :
    manager.resolveInstance (makeDeviceHandle index (manager.instances index).generation deviceInstanceKind) =
      if (manager.instances index).state = .quarantined then .error .poisoned
      else if (manager.instances index).state = .inCallback then .error .busy
      else if (manager.instances index).state ≠ .live then .error .staleHandle
      else .ok index := by
  have decoded := decode_makeDeviceHandle index (by decide) properKind_instance (tables.instanceCounted index used)
  have bit : test manager.instanceBitmap index = true := (tables.instanceBit index).mpr used.1
  simp [DeviceManager.resolveInstance, tables.initialized, decoded, bit]

omit tables in
theorem resolveInstance_ok {index : Fin 32} (resolved : manager.resolveInstance handle = .ok index) :
    (manager.instances index).state = .live ∧
      handle = makeDeviceHandle index (manager.instances index).generation deviceInstanceKind ∧
      handleSlot handle - 1 = index := by
  unfold DeviceManager.resolveInstance at resolved
  split_ifs at resolved
  split at resolved
  · cases resolved
  · next place generation decoded =>
    split_ifs at resolved with unset stale quarantined busy dead
    cases resolved
    rw [not_not] at stale dead
    obtain ⟨-, same⟩ := (decodeDeviceHandle_eq_some (by decide) properKind_instance).mp decoded
    rw [stale]
    exact ⟨dead, same, handleSlot_of_decode decoded⟩

variable {later : DeviceManager} {callback : DeviceCallback}

/-- Every instance slot is as it was, or nobody waits on it and it fits the tables anew. -/
theorem Tables.setInstances (registrations : later.registrations = manager.registrations)
    (bitmap : later.registrationBitmap = manager.registrationBitmap) (initialized :
    later.initialized = manager.initialized) (each : ∀ index, (later.instances index = manager.instances index ∧
        test later.instanceBitmap index = test manager.instanceBitmap index) ∨
      ((∀ callback ∈ pending, callback.slot ≠ index) ∧
        (test later.instanceBitmap index = true ↔ (later.instances index).state ≠ .free) ∧
        ((later.instances index).InUse → (later.instances index).generation ≠ 0 ∧
          ∃ registration, manager.Bound (later.instances index) registration))) : later.Tables pending := by
  have sameBound : later.Bound = manager.Bound := by
    funext slot registration
    simp only [Bound, handleOf, registrations]
  constructor
  · rw [initialized, tables.initialized]
  · rw [bitmap, registrations]
    exact tables.registrationBit
  · intro index
    rcases each index with ⟨slot, bit⟩ | ⟨-, bit, -⟩
    · rw [slot, bit]
      exact tables.instanceBit index
    · exact bit
  · rw [registrations]
    exact tables.registrationCounted
  · intro index used
    rcases each index with ⟨slot, -⟩ | ⟨-, -, fits⟩
    · rw [slot] at used ⊢
      exact tables.instanceCounted index used
    · exact (fits used).1
  · intro index used
    rw [sameBound]
    rcases each index with ⟨slot, -⟩ | ⟨-, -, fits⟩
    · rw [slot] at used ⊢
      exact tables.bound index used
    · exact (fits used).2
  · intro callback waiting
    have holds := tables.held callback waiting
    rcases each callback.slot with ⟨slot, -⟩ | ⟨apart, -⟩
    · constructor
      · rw [slot, holds.state]
      · rw [slot, holds.generation]
      · rw [slot, sameBound]
        exact holds.bound
      · rw [registrations, holds.context]
      · rw [slot]
        exact holds.driverContext
    · exact absurd rfl (apart callback waiting)
  · exact tables.apart

omit tables in
theorem KeepsBound.bound {index : Fin 32} {registration : Fin 16} (kept : KeepsBound manager later)
    (used : (manager.instances index).InUse) (named : manager.Bound (manager.instances index) registration) :
    later.Bound (manager.instances index) registration := by
  obtain ⟨live, generation, -⟩ := kept index registration used named
  exact ⟨live, by rw [handleOf, generation]; exact named.2⟩

theorem Tables.setRegistrations (instances : later.instances = manager.instances)
    (bitmap : later.instanceBitmap = manager.instanceBitmap) (initialized : later.initialized = manager.initialized)
    (bits : ∀ index : Fin 16, test later.registrationBitmap index = true ↔ (later.registrations index).state ≠ .free)
    (counted : ∀ index, (later.registrations index).state = .live → (later.registrations index).generation ≠ 0)
    (kept : KeepsBound manager later) : later.Tables pending := by
  constructor
  · rw [initialized, tables.initialized]
  · exact bits
  · rw [bitmap, instances]
    exact tables.instanceBit
  · exact counted
  · rw [instances]
    exact tables.instanceCounted
  · intro index used
    rw [instances] at used ⊢
    obtain ⟨registration, named⟩ := tables.bound index used
    exact ⟨registration, kept.bound used named⟩
  · intro callback waiting
    have holds := tables.held callback waiting
    have used : (manager.instances callback.slot).InUse := holds.inUse
    obtain ⟨-, -, ops⟩ := kept callback.slot callback.registration used holds.bound
    constructor
    · rw [instances, holds.state]
    · rw [instances, holds.generation]
    · rw [instances]
      exact kept.bound used holds.bound
    · rw [ops, holds.context]
    · rw [instances]
      exact holds.driverContext
  · exact tables.apart

omit tables in
/-- A call that is answered gives its slot up. -/
theorem Tables.pop (tables : manager.Tables (callback :: pending)) :
    manager.Tables pending ∧ manager.Holds callback ∧ ∀ other ∈ pending, other.slot ≠ callback.slot := by
  have apart := tables.apart
  rw [map_cons, nodup_cons, mem_map] at apart
  refine ⟨{ tables with held := fun other waiting => ?_, apart := apart.2 }, ?_, fun other waiting same => ?_⟩
  · exact tables.held other (mem_cons_of_mem _ waiting)
  · exact tables.held callback mem_cons_self
  · exact apart.1 ⟨other, waiting, same⟩

theorem Tables.push (holds : manager.Holds callback)
    (apart : ∀ other ∈ pending, other.slot ≠ callback.slot) : manager.Tables (callback :: pending) := by
  refine { tables with held := fun other waiting => ?_, apart := ?_ }
  · rcases mem_cons.mp waiting with rfl | earlier
    · exact holds
    · exact tables.held other earlier
  · rw [map_cons, nodup_cons, mem_map]
    constructor
    · rintro ⟨other, waiting, same⟩
      exact apart other waiting same
    · exact tables.apart

/-- Nobody waits on a slot that is neither reserved nor in a callback. -/
theorem Tables.unclaimed {index : Fin 32} (notReserved : (manager.instances index).state ≠ .reserved)
    (notCalled : (manager.instances index).state ≠ .inCallback) : ∀ callback ∈ pending, callback.slot ≠ index := by
  rintro callback waiting rfl
  have state := (tables.held callback waiting).state
  unfold DeviceOperation.occupies at state
  split at state
  · exact notReserved state
  · exact notCalled state

end DeviceManager

end DosC32
