import DosC32.Proofs.DeviceLeases

/-! # Re-entrant driver callbacks

Over every sequence of calls and answers, with callbacks that enter the registry again to any depth: a pending
callback has its instance and its registration for itself, every live instance is bound to a live registration,
and every successful open is closed at most once.
-/

namespace DosC32

open Effect Reentry DeviceManager Function Bitmap List

/-- A step on the tables that leaves the pending calls alone. -/
def DeviceStep (pending : List DeviceCallback) (before after : DeviceManager) : Prop :=
  after.Tables pending ∧ Progressed before after

variable {pending : List DeviceCallback} {manager : DeviceManager} {slot : Fin 32} {registration : Fin 16}

theorem DeviceStep.trans {first second third : DeviceManager} (left : DeviceStep pending first second)
    (right : DeviceStep pending second third) : DeviceStep pending first third :=
  ⟨right.1, left.2.trans right.2⟩

/-- What a step may leave in an instance slot: what was there, or, where nobody waits, an instance that fits the tables
and is out of sight or shown as before. -/
private def Refit (pending : List DeviceCallback) (manager : DeviceManager) (index : Fin 32) (entry : DeviceInstanceSlot)
    (bit : Bool) : Prop :=
  (entry = manager.instances index ∧ bit = test manager.instanceBitmap index) ∨
    (∀ callback ∈ pending, callback.slot ≠ index) ∧ (bit = true ↔ entry.state ≠ .free) ∧
      (entry.InUse → entry.generation ≠ 0 ∧ ∃ registration, manager.Bound entry registration) ∧
      (((manager.instances index).generation.toNat ≤ entry.generation.toNat ∧ ¬ entry.Published ∧
          (entry.state = .reserved → (manager.instances index).generation.toNat < entry.generation.toNat)) ∨
        ((manager.instances index).Published ∧ entry.Published ∧
          entry = { manager.instances index with state := entry.state }))

variable (tables : manager.Tables pending) {later : DeviceManager} {index : Fin 32}
include tables

private theorem step_of_refit (registrations : later.registrations = manager.registrations)
    (bitmap : later.registrationBitmap = manager.registrationBitmap)
    (initialized : later.initialized = manager.initialized)
    (each : ∀ index, Refit pending manager index (later.instances index) (test later.instanceBitmap index)) :
    DeviceStep pending manager later := by
  constructor
  · exact tables.setInstances registrations bitmap initialized fun index =>
      (each index).imp_right fun fits => ⟨fits.1, fits.2.1, fits.2.2.1⟩
  · exact progressed_of_instances registrations fun index => (each index).imp And.left fun fits => fits.2.2.2

/-- The state of an instance that nobody waits on changes among the states of an instance in use. -/
private theorem setInstanceState_step (shown : (manager.instances slot).Published)
    (unclaimed : ∀ callback ∈ pending, callback.slot ≠ slot) {state : DeviceInstanceState}
    (used : state = .live ∨ state = .inCallback ∨ state = .quarantined) :
    DeviceStep pending manager (manager.setInstanceState slot state) := by
  refine step_of_refit tables rfl rfl rfl fun index => ?_
  by_cases same : index = slot
  · subst same
    have bit : test manager.instanceBitmap index = true := (tables.instanceBit index).mpr shown.inUse.1
    simp only [setInstanceState, setInstance, update_self]
    refine .inr ⟨unclaimed, ?_, fun _ => ⟨tables.instanceCounted index shown.inUse, tables.bound index shown.inUse⟩, ?_⟩
    · rcases used with rfl | rfl | rfl <;> simp [bit]
    · rcases used with rfl | rfl | rfl
      · exact .inr ⟨shown, .inl rfl, rfl⟩
      · exact .inr ⟨shown, .inr rfl, rfl⟩
      · exact .inl ⟨Nat.le_refl _, by simp [DeviceInstanceSlot.Published], by simp⟩
  · exact .inl ⟨update_of_ne same _ _, rfl⟩

private theorem releaseInstance_step (unclaimed : ∀ callback ∈ pending, callback.slot ≠ slot) :
    DeviceStep pending manager (manager.releaseInstance slot slot) ∧
      ((manager.releaseInstance slot slot).instances slot).state = .free := by
  have atSlot : (manager.releaseInstance slot slot).instances slot = { manager.instances slot with
      registration := deviceHandleInvalid, driverContext := deviceHandleInvalid, state := .free } :=
    update_self ..
  have bits : ∀ other : Fin 32, test (manager.releaseInstance slot slot).instanceBitmap other =
      (!decide ((other : ℕ) = slot) && test manager.instanceBitmap other) := fun other =>
    test_erase _ slot.isLt other.isLt
  refine ⟨step_of_refit tables rfl rfl rfl fun index => ?_, by rw [atSlot]⟩
  rw [bits]
  by_cases same : index = slot
  · subst same
    rw [atSlot]
    exact .inr ⟨unclaimed, by simp, fun used => absurd rfl used.1,
      .inl ⟨Nat.le_refl _, by simp [DeviceInstanceSlot.Published], by simp⟩⟩
  · have apart : ¬ (index : ℕ) = slot := fun equal => same (Fin.ext equal)
    exact .inl ⟨update_of_ne same _ _, by simp [apart]⟩

omit tables

/-- What a step may leave in a registration slot: what was there, but for the quarantine mark, or, where no instance is
bound, a registration that fits the tables. -/
private def Reregister (manager : DeviceManager) (index : Fin 16) (entry : DeviceRegistrationSlot) (bit : Bool) : Prop :=
  (entry = { manager.registrations index with openQuarantined := entry.openQuarantined } ∧
      bit = test manager.registrationBitmap index) ∨
    (∀ slot, (manager.instances slot).InUse → ¬ manager.Bound (manager.instances slot) index) ∧
      (bit = true ↔ entry.state ≠ .free) ∧ (entry.state = .live → entry.generation ≠ 0)

include tables

private theorem step_of_reregister (instances : later.instances = manager.instances)
    (bitmap : later.instanceBitmap = manager.instanceBitmap) (initialized : later.initialized = manager.initialized)
    (each : ∀ index, Reregister manager index (later.registrations index) (test later.registrationBitmap index)) :
    DeviceStep pending manager later := by
  have kept : KeepsBound manager later := by
    intro index registration used bound
    rcases each registration with ⟨same, -⟩ | ⟨unbound, -⟩
    · rw [same]
      exact ⟨bound.1, rfl, rfl⟩
    · exact absurd bound (unbound index used)
  constructor
  · refine tables.setRegistrations instances bitmap initialized (fun index => ?_) (fun index live => ?_) kept
    · rcases each index with ⟨same, bit⟩ | ⟨-, fits, -⟩
      · rw [same, bit]
        exact tables.registrationBit index
      · exact fits
    · rcases each index with ⟨same, -⟩ | ⟨-, -, counted⟩
      · rw [same] at live ⊢
        exact tables.registrationCounted index live
      · exact counted live
  · exact progressed_of_registrations tables instances kept

/-- The mark on a registration whose driver cannot be trusted with new instances. -/
private theorem quarantineOpen_step (registration : Fin 16) :
    DeviceStep pending manager (manager.quarantineOpen registration) := by
  refine step_of_reregister tables rfl rfl rfl fun index => .inl ⟨?_, rfl⟩
  by_cases same : index = registration
  · subst same
    simp [quarantineOpen, setRegistration]
  · simp [quarantineOpen, setRegistration, same]

omit tables

private theorem generation_succ_ne_zero {generation : UInt32} (fresh : generation < deviceGenerationLimit) :
    generation + 1 ≠ 0 := by
  intro zero
  have advanced := toNat_generation_succ fresh
  rw [zero] at advanced
  exact absurd advanced (by simp)

include tables

variable (handle : UInt64)

/-- A handle that resolves names a live instance with its registration; the branch that quarantines an instance
without a registration is not reached. -/
theorem resolveBinding_spec (allowDrain : Bool) :
    wp (resolveBinding handle allowDrain) manager
      (fun bound next => next = manager ∧ manager.resolveInstance handle = .ok bound.1 ∧
        manager.Bound (manager.instances bound.1) bound.2)
      (fun _ next => next = manager) := by
  simp only [resolveBinding, wp_rules]
  cases resolved : manager.resolveInstance handle with
  | error error => exact rfl
  | ok slot =>
    obtain ⟨live, -, -⟩ := resolveInstance_ok resolved
    have shown : (manager.instances slot).Published := .inl live
    obtain ⟨registration, bound⟩ := tables.bound slot shown.inUse
    have found : manager.resolveRegistration (manager.instances slot).registration = .ok registration := by
      rw [bound.2]
      exact tables.resolveRegistration bound.1
    simp only [found, wp_split]
    exact ⟨fun _ => ⟨trivial, trivial, bound⟩, fun _ => trivial⟩

private theorem initialize_spec : Leaves iomgrDeviceInitialize manager (DeviceStep pending manager) := by
  simp only [iomgrDeviceInitialize, wp_rules]
  exact ⟨fun _ => ⟨tables, .refl manager⟩, fun unset => absurd tables.initialized unset⟩

/-- A reservation among the registrations, and what is written into the slot it finds. -/
private theorem register_step (entry : DeviceRegistrationSlot) (live : entry.state = .live)
    (result : (match manager.reserveRegistration.1 with
      | none => manager.reserveRegistration.2
      | some index => manager.reserveRegistration.2.setRegistration index
          { entry with generation := (manager.reserveRegistration.2.registrations index).generation }) = later) :
    DeviceStep pending manager later := by
  have untouched : later.instances = manager.instances ∧ later.instanceBitmap = manager.instanceBitmap ∧
      later.initialized = manager.initialized ∧
      later.registrationBitmap = manager.reserveRegistration.2.registrationBitmap := by
    subst result
    cases manager.reserveRegistration.1 <;> exact ⟨rfl, rfl, rfl, rfl⟩
  have unbound : ∀ {index : Fin 16}, test manager.registrationBitmap index = false → ∀ slot,
      (manager.instances slot).InUse → ¬ manager.Bound (manager.instances slot) index := by
    intro index unset slot used bound
    rw [(tables.registrationBit index).mpr (by rw [bound.1]; decide)] at unset
    cases unset
  -- Each slot is the new entry, or the reservation passed it.
  refine step_of_reregister tables untouched.1 untouched.2.1 untouched.2.2.1 fun index => ?_
  have visited := manager.reserveRegistration_visited index
  rw [untouched.2.2.2]
  by_cases found : manager.reserveRegistration.1 = some index
  · rw [decide_eq_true found] at visited
    obtain ⟨unset, set, slot, fresh⟩ := visited.of_taken
    have new : later.registrations index = { entry with generation := (manager.registrations index).generation + 1 } := by
      rw [← result, found]
      simp [setRegistration, slot]
    rw [new]
    exact .inr ⟨unbound unset, by simp [set, live], fun _ => generation_succ_ne_zero fresh⟩
  · rw [decide_eq_false found] at visited
    have same : later.registrations index = manager.reserveRegistration.2.registrations index := by
      rw [← result]
      cases search : manager.reserveRegistration.1 with
      | none => rfl
      | some other =>
        have apart : index ≠ other := fun equal => found (by rw [search, equal])
        simp [setRegistration, apart]
    rw [same]
    rcases visited.of_passed with ⟨bit, slot⟩ | ⟨unset, set, slot⟩
    · exact .inl ⟨by rw [slot], bit⟩
    · rw [slot]
      exact .inr ⟨unbound unset, by simp [set], by simp⟩

private theorem register_spec (name : Option (List UInt8)) (ops : Option DeviceOps) (out : Bool) :
    Leaves (iomgrDeviceRegister name ops out) manager (DeviceStep pending manager) := by
  have still : DeviceStep pending manager manager := ⟨tables, .refl manager⟩
  simp only [iomgrDeviceRegister, wp_rules, wp_set]
  refine ⟨fun _ => still, fun _ => ⟨fun _ => still, fun _ => ⟨fun bytes _ => ⟨fun ops _ => ⟨fun _ => still, fun _ =>
    ⟨fun _ => still, fun _ => ⟨fun index found => ?_, fun none => ?_⟩⟩⟩, fun _ => still⟩, fun _ => still⟩⟩⟩
  · exact register_step tables { state := .live, openQuarantined := false, name := bytes, ops } rfl (by rw [found])
  · exact register_step tables { state := .live } rfl (by rw [none])

/-- A registration without instances goes away. -/
private theorem unregister_step
    (unbound : ∀ index, (manager.instances index).InUse → ¬ manager.Bound (manager.instances index) registration) :
    DeviceStep pending manager
      { manager.setRegistration registration { manager.registrations registration with
          name := [], openQuarantined := false, ops := {}, state := .free } with
        registrationBitmap := erase manager.registrationBitmap registration } := by
  refine step_of_reregister tables rfl rfl rfl fun other => ?_
  have bit : test (erase manager.registrationBitmap registration) other =
      (!decide ((other : ℕ) = registration) && test manager.registrationBitmap other) :=
    test_erase _ (by omega) (by omega)
  by_cases same : other = registration
  · subst same
    exact .inr ⟨unbound, by simp [setRegistration, bit], by simp [setRegistration]⟩
  · have apart : ¬ (other : ℕ) = registration := fun equal => same (Fin.ext equal)
    exact .inl ⟨by simp [setRegistration, same], by simp [bit, apart]⟩

/-- An instance in use holds its registration back. -/
theorem binds_of_bound (used : (manager.instances index).InUse)
    (bound : manager.Bound (manager.instances index) registration) :
    manager.binds (manager.handleOf registration) index = true := by
  have bit : test manager.instanceBitmap index = true := (tables.instanceBit index).mpr used.1
  simp [binds, bit, bound.2]

private theorem unregister_spec : Leaves (iomgrDeviceUnregister handle) manager (DeviceStep pending manager) := by
  have still : DeviceStep pending manager manager := ⟨tables, .refl manager⟩
  simp only [iomgrDeviceUnregister, wp_rules]
  cases resolved : manager.resolveRegistration handle with
  | error error => exact still
  | ok registration =>
    obtain ⟨live, named⟩ := resolveRegistration_ok resolved
    simp only [wp_rules]
    refine ⟨fun _ => still, fun _ => ⟨fun _ => still, fun sane => ⟨fun _ => still, fun idle => ?_⟩⟩⟩
    have decoded := decode_makeDeviceHandle registration (by decide) properKind_registration
      (tables.registrationCounted registration live)
    rw [← handleOf, ← named] at decoded
    rw [handleSlot_of_decode decoded]
    refine unregister_step tables fun index used bound => ?_
    have binds := binds_of_bound tables used bound
    rw [← named] at binds
    have member : index ∈ (finRange 32).filter (manager.binds handle) := by
      simp [binds]
    have notQuarantined : ¬ (manager.instances index).state = .quarantined := by
      intro state
      exact sane (any_eq_true.mpr ⟨index, member, by simp [state]⟩)
    have notUsed : ¬ ((manager.instances index).state = .reserved ∨ (manager.instances index).state = .live ∨
        (manager.instances index).state = .inCallback) := by
      intro state
      refine idle (any_eq_true.mpr ⟨index, member, ?_⟩)
      rcases state with state | state | state <;> simp [state]
    obtain ⟨notFree, notRetired⟩ := used
    cases state : (manager.instances index).state <;> simp_all

private theorem free_of_unset (unset : test manager.instanceBitmap index = false) :
    (manager.instances index).state = .free := by
  by_contra used
  rw [(tables.instanceBit index).mpr used] at unset
  cases unset

/-- What a reservation does to an instance slot that it does not take. -/
private theorem passed_instance (other : manager.reserveInstance.1 ≠ some index) :
    Refit pending manager index (manager.reserveInstance.2.instances index)
      (test manager.reserveInstance.2.instanceBitmap index) := by
  have visited := manager.reserveInstance_visited index
  rw [decide_eq_false other] at visited
  rcases visited.of_passed with ⟨bit, slot⟩ | ⟨unset, set, slot⟩
  · exact .inl ⟨slot, bit⟩
  · have free := free_of_unset tables unset
    rw [slot]
    exact .inr ⟨tables.unclaimed (by simp [free]) (by simp [free]), by simp [set], fun used => absurd rfl used.2,
      .inl ⟨Nat.le_refl _, by simp [DeviceInstanceSlot.Published], by simp⟩⟩

/-- A reservation among the instances, and the registration that is written into the slot it finds. -/
private theorem reserve_step (live : (manager.registrations registration).state = .live)
    (found : manager.reserveInstance.1 = some slot)
    (result : later = manager.reserveInstance.2.setInstance slot { manager.reserveInstance.2.instances slot with
      registration := manager.handleOf registration }) :
    DeviceStep pending manager later ∧ (manager.instances slot).state = .free ∧
      (later.instances slot).state = .reserved ∧ later.Bound (later.instances slot) registration := by
  have visited := manager.reserveInstance_visited slot
  rw [decide_eq_true found] at visited
  obtain ⟨unset, set, taken, fresh⟩ := visited.of_taken
  have wasFree := free_of_unset tables unset
  have atSlot : later.instances slot = { manager.instances slot with
      state := .reserved, generation := (manager.instances slot).generation + 1,
      registration := manager.handleOf registration } := by
    rw [result]
    simp [setInstance, taken]
  have bitmap : later.instanceBitmap = manager.reserveInstance.2.instanceBitmap := by rw [result]; rfl
  have registrations : later.registrations = manager.registrations := by rw [result]; rfl
  have bound : manager.Bound (later.instances slot) registration := ⟨live, by rw [atSlot]⟩
  have advanced := toNat_generation_succ fresh
  refine ⟨step_of_refit tables registrations (by rw [result]; rfl) (by rw [result]; rfl) fun index => ?_, wasFree,
    by rw [atSlot], by rw [atSlot]; simp [Bound, handleOf, registrations, live]⟩
  rw [bitmap]
  by_cases same : index = slot
  · subst same
    refine .inr ⟨tables.unclaimed (by simp [wasFree]) (by simp [wasFree]), by simp [atSlot, set],
      fun _ => ⟨?_, registration, bound⟩, .inl ?_⟩
    · rw [atSlot]
      exact generation_succ_ne_zero fresh
    · rw [atSlot]
      exact ⟨by dsimp only; omega, by simp [DeviceInstanceSlot.Published], fun _ => by dsimp only; omega⟩
  · have elsewhere : later.instances index = manager.reserveInstance.2.instances index := by
      rw [result]
      exact update_of_ne same _ _
    rw [elsewhere]
    exact passed_instance tables fun equal => same (Option.some.inj (equal.symm.trans found))

private theorem exhausted_step (found : manager.reserveInstance.1 = none) :
    DeviceStep pending manager manager.reserveInstance.2 := by
  refine step_of_refit tables rfl rfl rfl fun index => passed_instance tables ?_
  rw [found]
  simp

omit tables

/-- The invariant of the registry: the tables fit the pending calls, and the history accounts for the instances. -/
def DeviceSound (history : DeviceHistory) (pending : List DeviceCallback) (manager : DeviceManager) : Prop :=
  manager.Tables pending ∧ Balanced history manager

variable {history : DeviceHistory} {request : DeviceRequest} {operation : DeviceOperation}

variable {action : EStateM IomgrError DeviceManager DeviceResult}

private theorem lift_keeps
    (sound : DeviceSound history pending manager) (spec : Leaves action manager (DeviceStep pending manager)) :
    ((lift action : DeviceProcedure DeviceResult) manager).Keeps DeviceSound request pending (.enter request) none
      history := by
  rw [keeps_iff_wp, Procedure.wp_lift]
  apply wp_mono spec
  · intro value next step
    exact ⟨step.1, sound.2.pass step.2 rfl rfl⟩
  · intro error next step
    exact ⟨step.1, sound.2.pass step.2 rfl rfl⟩

private theorem occupies_of_ne (notOpen : operation ≠ .openDevice) : operation.occupies = .inCallback := by
  cases operation with
  | openDevice => exact absurd rfl notOpen
  | _ => rfl

/-- A call on behalf of a live instance starts. -/
private theorem begin_step (tables : manager.Tables pending) (live : (manager.instances slot).state = .live)
    (bound : manager.Bound (manager.instances slot) registration) (notOpen : operation ≠ .openDevice)
    (result : later = manager.setInstanceState slot .inCallback) :
    later.Tables (later.callback slot registration operation :: pending) ∧ Progressed manager later := by
  have unclaimed := tables.unclaimed (by simp [live]) (by simp [live] : (manager.instances slot).state ≠ .inCallback)
  obtain ⟨tables', progressed⟩ := setInstanceState_step tables (.inl live) unclaimed (.inr (.inl rfl))
  rw [← result] at tables' progressed
  have atSlot : later.instances slot = { manager.instances slot with state := .inCallback } := by
    rw [result]
    exact update_self ..
  refine ⟨tables'.push ⟨?_, rfl, ?_, rfl, fun _ => rfl⟩ unclaimed, progressed⟩
  · change (later.instances slot).state = _
    rw [atSlot]
    exact (occupies_of_ne notOpen).symm
  · change later.Bound (later.instances slot) registration
    rw [atSlot, result]
    exact bound

variable {callback : DeviceCallback}

/-- An answered call gives its instance back, live or in quarantine. -/
private theorem finish_step (tables : manager.Tables (callback :: pending))
    (notOpen : callback.operation ≠ .openDevice) {state : DeviceInstanceState}
    (known : state = .live ∨ state = .quarantined) :
    DeviceStep pending manager (manager.setInstanceState callback.slot state) := by
  obtain ⟨rest, holds, apart⟩ := tables.pop
  apply setInstanceState_step rest (.inr (holds.state.trans (occupies_of_ne notOpen))) apart
  rcases known with rfl | rfl
  · exact .inl rfl
  · exact .inr (.inr rfl)

private theorem mapCallbackStatus_of_ne {status : DeviceCallbackStatus} (failed : status ≠ .ok) :
    ∃ error uncertain, mapCallbackStatus status = (.error error, uncertain) := by
  cases status with
  | ok => exact absurd rfl failed
  | _ => exact ⟨_, _, rfl⟩

/-- The history of a request after its callback was answered. -/
private abbrev answered (request : DeviceRequest) (callback : DeviceCallback) (answer : DeviceAnswer)
    (exit : Exit DeviceCallback IomgrError DeviceResult) (later : DeviceHistory) : DeviceHistory :=
  (.answer answer, .ok ⟨request, some callback, exit⟩) :: later

/-- A request that publishes no lease. -/
private def Silent (request : DeviceRequest) : Prop :=
  ∀ answer callback exit, openedBy (.answer answer, .ok ⟨request, some callback, exit⟩) = none

variable {resolve : EStateM IomgrError DeviceManager (Fin 32 × Fin 16)}

variable {finish : Fin 32 → Fin 16 → DeviceAnswer → EStateM IomgrError DeviceManager DeviceResult}

/-- The calls on an instance keep the invariant, provided that what they do with a successful answer does. -/
private theorem onInstance_keeps
    (sound : DeviceSound history pending manager) (notOpen : operation ≠ .openDevice) (silent : Silent request)
    (resolved : wp resolve manager
      (fun bound next => next = manager ∧ manager.resolveInstance handle = .ok bound.1 ∧
        manager.Bound (manager.instances bound.1) bound.2)
      (fun _ next => next = manager))
    (finished : ∀ callback answer later next, handleSlot handle - 1 = callback.slot → callback.operation = operation →
      next.Tables (callback :: pending) → Balanced later next → answer.status = .ok →
      wp (finish callback.slot callback.registration answer) (next.setInstanceState callback.slot .live)
        (fun value final => DeviceSound (answered request callback answer (.done value) later) pending final)
        (fun error final => DeviceSound (answered request callback answer (.failed error) later) pending final)) :
    (onInstance resolve operation finish manager).Keeps DeviceSound request pending (.enter request) none history := by
  rw [keeps_iff_wp, onInstance, Procedure.wp_bind, Procedure.wp_lift]
  apply wp_mono resolved
  · rintro ⟨slot, registration⟩ _ ⟨rfl, found, bound⟩
    obtain ⟨live, -, place⟩ := resolveInstance_ok found
    dsimp only at live bound place
    simp only [callInstance, beginInstanceCallback, Procedure.wp_bind, Procedure.wp_lift, Procedure.wp_invoke, wp_rules]
    obtain ⟨tables, progressed⟩ := begin_step sound.1 live bound notOpen rfl
    refine ⟨⟨tables, sound.2.pass progressed rfl rfl⟩, ?_⟩
    clear tables
    generalize called : DeviceManager.callback _ slot registration operation = callback
    rintro answer later next ⟨tables, balanced⟩
    have same : callback.slot = slot ∧ callback.registration = registration ∧ callback.operation = operation := by
      rw [← called]
      exact ⟨rfl, rfl, rfl⟩
    obtain ⟨rfl, rfl, rfl⟩ := same
    change Progress.Keeps DeviceSound request pending
      (((lift (finishInstanceCallback callback.slot answer.status) >>= fun _ => pure answer) >>=
        fun answer => lift (finish callback.slot callback.registration answer) : DeviceProcedure DeviceResult) next)
      (.answer answer) _ later
    rw [keeps_iff_wp]
    simp only [Procedure.wp_bind, Procedure.wp_lift, Procedure.wp_pure, finishInstanceCallback, wp_rules]
    by_cases done : answer.status = .ok
    · rw [done]
      exact finished callback answer later next place rfl tables balanced done
    · obtain ⟨error, uncertain, mapped⟩ := mapCallbackStatus_of_ne done
      rw [mapped]
      have step : DeviceStep pending next (next.setInstanceState callback.slot
          (if uncertain then .quarantined else .live)) := by
        apply finish_step tables notOpen
        cases uncertain
        · exact .inl rfl
        · exact .inr rfl
      exact ⟨step.1, balanced.pass step.2 (silent ..) (by simp [closedBy, done])⟩
  · rintro error _ rfl
    exact ⟨sound.1, sound.2.pass (.refl _) rfl rfl⟩

/-- The last step of a transfer or a query leaves the instance live or quarantines it. -/
private theorem accept_sound {answer : DeviceAnswer} {later : DeviceHistory} (tables : manager.Tables (callback :: pending))
    (balanced : Balanced later manager) (notOpen : callback.operation ≠ .openDevice)
    (notClose : callback.operation ≠ .closeDevice) (silent : Silent request)
    (spec : wp action (manager.setInstanceState callback.slot .live)
      (fun _ next => next = manager.setInstanceState callback.slot .live)
      (fun _ next => next = manager.setInstanceState callback.slot .quarantined)) :
    wp action (manager.setInstanceState callback.slot .live)
      (fun value final => DeviceSound (answered request callback answer (.done value) later) pending final)
      (fun error final => DeviceSound (answered request callback answer (.failed error) later) pending final) := by
  have ends : ∀ exit, closedBy (.answer answer, .ok ⟨request, some callback, exit⟩) = none := by
    intro exit
    simp [closedBy, notClose]
  apply wp_mono spec
  · rintro value _ rfl
    have step := finish_step tables notOpen (.inl rfl)
    exact ⟨step.1, balanced.pass step.2 (silent ..) (ends _)⟩
  · rintro error _ rfl
    have step := finish_step tables notOpen (.inr rfl)
    exact ⟨step.1, balanced.pass step.2 (silent ..) (ends _)⟩

private theorem setInstanceState_twice (slot : Fin 32) (first second : DeviceInstanceState) :
    (manager.setInstanceState slot first).setInstanceState slot second = manager.setInstanceState slot second := by
  simp [setInstanceState, setInstance]

private theorem prepareOpen_spec (tables : manager.Tables pending) (name : Option (List UInt8)) (out : Bool) :
    wp (prepareOpen name out) manager
      (fun callback next => next.Tables (callback :: pending) ∧ callback.operation = .openDevice ∧
        Progressed manager next)
      (fun _ => DeviceStep pending manager) := by
  have still : DeviceStep pending manager manager := ⟨tables, .refl manager⟩
  simp only [prepareOpen, wp_rules, wp_set]
  refine ⟨fun _ => still, fun _ => ⟨fun _ => still, fun _ => ⟨fun bytes _ => ⟨fun registration named =>
    ⟨fun _ => still, fun _ => ⟨fun slot found => ?_, fun exhausted => exhausted_step tables exhausted⟩⟩,
    fun _ => still⟩, fun _ => still⟩⟩⟩
  have live : (manager.registrations registration).state = .live := by
    have isNamed := find?_some named
    simp only [DeviceManager.isNamed, Bool.and_eq_true, beq_iff_eq] at isNamed
    exact isNamed.1.2
  generalize result : DeviceManager.setInstance slot _ manager.reserveInstance.2 = later
  obtain ⟨step, wasFree, reserved, bound⟩ := reserve_step tables live found result.symm
  have unclaimed : ∀ other ∈ pending, other.slot ≠ slot := tables.unclaimed (by simp [wasFree]) (by simp [wasFree])
  exact ⟨step.1.push ⟨reserved, rfl, bound, rfl, fun other => absurd rfl other⟩ unclaimed, rfl, step.2⟩

/-- The slot of an answered open becomes live under the handle the callback was made for. -/
private theorem publish_tables (tables : manager.Tables (callback :: pending)) {driverContext : UInt64}
    (result : later = manager.setInstance callback.slot { manager.instances callback.slot with
      driverContext, state := .live }) :
    later.Tables pending ∧ (later.instances callback.slot).generation = callback.generation := by
  obtain ⟨rest, holds, apart⟩ := tables.pop
  have atSlot : later.instances callback.slot =
      { manager.instances callback.slot with driverContext, state := .live } := by
    rw [result]
    exact update_self ..
  have bitmap : later.instanceBitmap = manager.instanceBitmap := by rw [result]; rfl
  constructor
  · refine rest.setInstances (by rw [result]; rfl) (by rw [result]; rfl) (by rw [result]; rfl) fun index => ?_
    by_cases same : index = callback.slot
    · subst same
      have bit := (rest.instanceBit callback.slot).mpr holds.inUse.1
      rw [atSlot, bitmap]
      refine .inr ⟨apart, ?_, fun _ => ⟨rest.instanceCounted _ holds.inUse, rest.bound _ holds.inUse⟩⟩
      simp [bit]
    · refine .inl ⟨?_, by rw [bitmap]⟩
      rw [result]
      exact update_of_ne same _ _
  · rw [atSlot, ← holds.generation]

/-- An open that succeeds publishes its slot; any other outcome gives the slot back. -/
private theorem finishOpen_spec (tables : manager.Tables (callback :: pending)) (answer : DeviceAnswer) :
    wp (finishOpen callback.slot callback.registration answer) manager
      (fun value next => next.Tables pending ∧ value = .device callback.device ∧
        next = manager.setInstance callback.slot { manager.instances callback.slot with
          driverContext := answer.driverContext, state := .live })
      (fun _ => DeviceStep pending manager) := by
  obtain ⟨rest, -, apart⟩ := tables.pop
  have still : DeviceStep pending manager manager := ⟨rest, .refl manager⟩
  have marked := quarantineOpen_step rest callback.registration
  have release : ∀ {before}, DeviceStep pending manager before →
      DeviceStep pending manager (before.releaseInstance callback.slot callback.slot) := fun step =>
    step.trans (releaseInstance_step step.1 apart).1
  unfold finishOpen
  by_cases done : answer.status = .ok
  · obtain ⟨tables', generation⟩ := publish_tables tables rfl
    simp only [done, mapCallbackStatus, Bool.false_eq_true, if_false, wp_split]
    refine ⟨fun _ => release marked, fun _ => ⟨tables', ?_, trivial⟩⟩
    rw [generation]
    rfl
  · obtain ⟨error, uncertain, mapped⟩ := mapCallbackStatus_of_ne done
    rw [mapped]
    cases uncertain
    · exact release still
    · exact release marked

variable (sound : DeviceSound history pending manager)
include sound

private theorem transfer_keeps (device : UInt64) (invalid : Prop)
    [Decidable invalid] (capability : BitVec 32) (limit : ℕ) (notOpen : operation ≠ .openDevice)
    (notClose : operation ≠ .closeDevice) (silent : Silent request) :
    (deviceTransfer device invalid capability operation limit manager).Keeps DeviceSound request pending
      (.enter request) none history := by
  apply onInstance_keeps device sound notOpen silent
  · simp only [wp_rules]
    refine ⟨fun _ => trivial, fun _ => wp_mono_done (resolveBinding_spec sound.1 device false) ?_⟩
    rintro ⟨slot, registration⟩ _ ⟨rfl, found, bound⟩
    exact ⟨fun _ => rfl, fun _ => ⟨rfl, found, bound⟩⟩
  · rintro callback answer later next place rfl tables balanced _
    apply accept_sound tables balanced notOpen notClose silent
    simp only [wp_split, setInstanceState_twice]
    exact ⟨fun _ => trivial, fun _ => trivial⟩

private theorem queryInfo_keeps (device : UInt64) (out : Bool) :
    (iomgrDeviceQueryInfo device out manager).Keeps DeviceSound (.queryInfo device out) pending
      (.enter (.queryInfo device out)) none history := by
  apply onInstance_keeps device sound (by simp) (fun _ _ _ => rfl)
  · simp only [wp_rules]
    exact ⟨fun _ => trivial, fun _ => resolveBinding_spec sound.1 device false⟩
  · intro callback answer later next place operation tables balanced _
    apply accept_sound tables balanced (by simp [operation]) (by simp [operation]) (fun _ _ _ => rfl)
    simp only [wp_split, setInstanceState_twice]
    exact ⟨fun _ => trivial, fun _ => trivial⟩

private theorem close_keeps (device : UInt64) :
    (iomgrDeviceClose device manager).Keeps DeviceSound (.closeDevice device) pending
      (.enter (.closeDevice device)) none history := by
  apply onInstance_keeps device sound (by simp) (fun _ _ _ => rfl) (resolveBinding_spec sound.1 device true)
  intro callback answer later next place operation tables balanced done
  obtain ⟨rest, holds, apart⟩ := tables.pop
  have shown : (next.instances callback.slot).Published := .inr (holds.state.trans (by rw [operation]; rfl))
  simp only [wp_rules, place]
  have first := finish_step tables (by simp [operation]) (.inl rfl)
  obtain ⟨second, free⟩ := releaseInstance_step first.1 apart
  have step := first.trans second
  refine ⟨step.1, balanced.close step.2 shown holds.bound ?_ rfl ?_⟩
  · intro still
    rcases still with state | state <;> cases free.symm.trans state
  · have closes : closedBy (.answer answer, .ok ⟨.closeDevice device, some callback, .done .nothing⟩) =
        some ⟨callback.device, callback.context, callback.driverContext⟩ := by
      simp [closedBy, operation, done]
    rw [leaseAt, holds.generation, holds.context, holds.driverContext (by simp [operation])]
    exact closes

private theorem open_keeps (name : Option (List UInt8)) (out : Bool) :
    (iomgrDeviceOpen name out manager).Keeps DeviceSound (.openDevice name out) pending
      (.enter (.openDevice name out)) none history := by
  obtain ⟨tables, balanced⟩ := sound
  rw [keeps_iff_wp]
  simp only [iomgrDeviceOpen, Procedure.wp_bind, Procedure.wp_lift, Procedure.wp_invoke]
  apply wp_mono (prepareOpen_spec tables name out)
  · rintro callback next ⟨tables, isOpen, progressed⟩
    refine ⟨⟨tables, balanced.pass progressed rfl rfl⟩, ?_⟩
    rintro answer later state ⟨tables, balanced⟩
    change Progress.Keeps DeviceSound _ pending
      ((lift (finishOpen callback.slot callback.registration answer) : DeviceProcedure DeviceResult) state) _ _ later
    rw [keeps_iff_wp, Procedure.wp_lift]
    have notClosed : ∀ exit, closedBy (.answer answer, .ok ⟨.openDevice name out, some callback, exit⟩) = none := by
      intro exit
      simp [closedBy, isOpen]
    apply wp_mono (finishOpen_spec tables answer)
    · rintro value final ⟨tables', rfl, result⟩
      have holds := tables.pop.2.1
      have reserved := holds.state
      rw [isOpen] at reserved
      refine ⟨tables', balanced.open reserved holds.bound result ?_ (notClosed _)⟩
      simp [result, openedBy, leaseAt, setInstance, DeviceCallback.device, holds.generation, holds.context]
    · intro error final step
      exact ⟨step.1, balanced.pass step.2 rfl (notClosed _)⟩
  · intro error next step
    exact ⟨step.1, balanced.pass step.2 rfl rfl⟩

omit sound

theorem deviceRequest_keeps (request : DeviceRequest) (sound : DeviceSound history pending manager) :
    (deviceRequest request manager).Keeps DeviceSound request pending (.enter request) none history := by
  cases request with
  | initializeRegistry =>
    apply lift_keeps sound
    rw [Leaves, wp_bind]
    exact wp_mono (initialize_spec sound.1) (fun _ _ => id) (fun _ _ => id)
  | register name ops out => exact lift_keeps sound (register_spec sound.1 name ops out)
  | unregister registration => exact lift_keeps sound (unregister_spec sound.1 registration)
  | openDevice name out => exact open_keeps sound name out
  | closeDevice device => exact close_keeps sound device
  | read | write | control => exact transfer_keeps sound _ _ _ _ (by simp) (by simp) (fun _ _ _ => rfl)
  | queryInfo device out => exact queryInfo_keeps sound device out

theorem deviceSound_of_start {boot start : DeviceManager} (started : iomgrDeviceInitialize boot = .ok () start) :
    DeviceSound [] [] start := by
  have spec : wp iomgrDeviceInitialize boot (fun _ => DeviceSound [] []) (fun _ _ => True) := by
    simp only [iomgrDeviceInitialize, wp_rules]
    refine ⟨fun _ => trivial, fun _ => ⟨⟨rfl, ?_, ?_, ?_, ?_, ?_, by simp, nodup_nil⟩,
      ⟨nodup_nil, forall_mem_nil _, ?_, forall_mem_nil _, nodup_nil⟩⟩⟩
    · intro index
      simp [test]
    · intro index
      simp [test]
    · intro index live
      cases live
    · intro index used
      exact absurd rfl used.1
    · intro index used
      exact absurd rfl used.1
    · intro index registration shown
      rcases shown with state | state <;> cases state
  have sound := wp_of_ok spec started
  exact sound

/-- The instance a request names. -/
def DeviceRequest.device : DeviceRequest → Option UInt64
  | .closeDevice device => some device
  | .read device .. => some device
  | .write device .. => some device
  | .control device .. => some device
  | .queryInfo device _ => some device
  | _ => none

/-- The arguments fail the checks that come before the instance is looked up. -/
def DeviceRequest.malformed : DeviceRequest → Bool
  | .read _ destination capacity count out => !out || decide (count > capacity) || (capacity != 0 && destination == none)
  | .write _ source sourceCapacity count out =>
    !out || decide (count > sourceCapacity) || (sourceCapacity != 0 && source == none)
  | .control _ _ input inputCapacity inputCount output outputCapacity out =>
    !out || decide (inputCount > inputCapacity) || (inputCapacity != 0 && input == none) ||
      (outputCapacity != 0 && output == none)
  | .queryInfo _ out => !out
  | _ => false

variable {next : DeviceManager} {handle : UInt64} {error : IomgrError}

private theorem resolveBinding_refused (refused : manager.resolveInstance handle = .error error) (allowDrain : Bool) :
    resolveBinding handle allowDrain manager = .error error manager := by
  have refusal : wp (resolveBinding handle allowDrain) manager (fun _ _ => False)
      (fun error' next => error' = error ∧ next = manager) := by
    simp [resolveBinding, refused]
  obtain ⟨_, _, ran, rfl, rfl⟩ := error_of_wp refusal
  exact ran

private theorem onInstance_refused
    (ran : resolve manager = .error error next) : onInstance resolve operation finish manager = .failed error next := by
  change (lift resolve manager).bind _ = _
  rw [lift_of_error ran]
  rfl

private theorem deviceTransfer_refused (refused : manager.resolveInstance handle = .error error) (invalid : Prop)
    [Decidable invalid] (capability : BitVec 32) (operation : DeviceOperation) (limit : ℕ) :
    deviceTransfer handle invalid capability operation limit manager =
      .failed (if invalid then .invalidArgument else error) manager := by
  apply onInstance_refused
  by_cases bad : invalid
  · simp only [bad, failWhen, if_true]
    rfl
  · simp only [bad, failWhen, if_false]
    change EStateM.bind (resolveBinding handle false) _ manager = _
    unfold EStateM.bind
    rw [resolveBinding_refused refused]

/-- A request on a handle that does not resolve fails and changes nothing. -/
theorem deviceRequest_refused (named : request.device = some handle)
    (refused : manager.resolveInstance handle = .error error) :
    deviceRequest request manager = .failed (if request.malformed then .invalidArgument else error) manager := by
  cases request with
  | initializeRegistry | register | unregister | openDevice => cases named
  | closeDevice device =>
    cases named
    unfold deviceRequest iomgrDeviceClose
    exact onInstance_refused (resolveBinding_refused refused true)
  | read | write | control =>
    cases named
    refine (deviceTransfer_refused refused _ _ _ _).trans ?_
    congr 1
    simp [DeviceRequest.malformed, or_assoc]
  | queryInfo device out =>
    cases named
    unfold deviceRequest iomgrDeviceQueryInfo
    apply onInstance_refused
    cases out with
    | false => rfl
    | true => exact resolveBinding_refused refused false

/-- What holds between any two moves, whatever calls are pending. -/
structure ReentrySafe (history : DeviceHistory) (machine : DeviceMachine) : Prop where
  /-- No other request reaches the instance of a pending callback. -/
  exclusive : ∀ callback ∈ machine.pending, ∀ request : DeviceRequest, request.device = some callback.device →
    deviceRequest request machine.state =
      .failed (if request.malformed then .invalidArgument
        else if callback.operation = .openDevice then .staleHandle else .busy) machine.state
  apart : (machine.pending.map DeviceCallback.slot).Nodup
  /-- The registration of a pending callback is there and stays. -/
  registered : ∀ callback ∈ machine.pending,
    machine.state.resolveRegistration (machine.state.instances callback.slot).registration = .ok callback.registration ∧
      ∀ handle, machine.state.resolveRegistration handle = .ok callback.registration →
        ∃ error, (error = .busy ∨ error = .poisoned) ∧
          deviceRequest (.unregister handle) machine.state = .failed error machine.state
  resolves : ∀ index, (machine.state.instances index).state = .live →
    ∃ registration, machine.state.resolveRegistration (machine.state.instances index).registration = .ok registration
  /-- The branch of `resolve_binding` for an instance without a registration is not reached. -/
  unreached : ∀ handle slot, machine.state.resolveInstance handle = .ok slot → ∀ error,
    machine.state.resolveRegistration (machine.state.instances slot).registration ≠ .error error
  opened : ((openings history).map DeviceLease.handle).Nodup
  closed : ∀ lease ∈ closings history, lease ∈ openings history
  closedOnce : ((closings history).map DeviceLease.handle).Nodup

private theorem pending_resolves (tables : manager.Tables pending) (waiting : callback ∈ pending) :
    manager.resolveInstance callback.device =
      .error (if callback.operation = .openDevice then .staleHandle else .busy) := by
  have holds := tables.held callback waiting
  have resolved := tables.resolveInstance holds.inUse
  rw [holds.generation, holds.state] at resolved
  refine resolved.trans ?_
  cases operation : callback.operation <;> rfl

/-- An instance in use keeps its registration from being removed. -/
private theorem unregister_refused (tables : manager.Tables pending) (waiting : callback ∈ pending)
    (resolved : manager.resolveRegistration handle = .ok callback.registration) :
    ∃ error, (error = .busy ∨ error = .poisoned) ∧
      deviceRequest (.unregister handle) manager = .failed error manager := by
  have holds := tables.held callback waiting
  obtain ⟨-, named⟩ := resolveRegistration_ok resolved
  have binds := binds_of_bound tables holds.inUse holds.bound
  rw [← named] at binds
  have busy : ((finRange 32).filter (manager.binds handle)).any (fun slot =>
      (manager.instances slot).state == .reserved || (manager.instances slot).state == .live ||
        (manager.instances slot).state == .inCallback) = true := by
    refine any_eq_true.mpr ⟨callback.slot, by simp [binds], ?_⟩
    rw [holds.state]
    cases callback.operation <;> rfl
  have spec : wp (iomgrDeviceUnregister handle) manager (fun _ _ => False)
      (fun error next => (error = .busy ∨ error = .poisoned) ∧ next = manager) := by
    simp only [iomgrDeviceUnregister, wp_rules, resolved]
    exact ⟨fun _ => ⟨.inr trivial, trivial⟩, fun _ => ⟨fun _ => ⟨.inr trivial, trivial⟩, fun _ =>
      ⟨fun _ => ⟨.inl trivial, trivial⟩, fun idle => absurd busy idle⟩⟩⟩
  obtain ⟨error, _, ran, kind, rfl⟩ := error_of_wp spec
  exact ⟨error, kind, lift_of_error ran⟩

/-- Callbacks that re-enter the registry, to any depth and in any order, never meet each other's instances. -/
theorem device_reentry_safe {boot start : DeviceManager} (started : iomgrDeviceInitialize boot = .ok () start)
    {history : DeviceHistory} {machine : DeviceMachine}
    (run : Runs (advance deviceRequest) (fun _ _ => True) ⟨start, []⟩ history machine) :
    ReentrySafe history machine := by
  have sound : DeviceSound history machine.pending machine.state := by
    apply Reentry.invariant (deviceSound_of_start started) _ _ run
    · rintro answer history state ⟨tables, balanced⟩
      exact ⟨tables, balanced.pass (.refl state) rfl rfl⟩
    · intro request history pending state sound
      exact deviceRequest_keeps request sound
  obtain ⟨tables, balanced⟩ := sound
  have resolves : ∀ index, (machine.state.instances index).state = .live → ∃ registration,
      machine.state.resolveRegistration (machine.state.instances index).registration = .ok registration := by
    intro index live
    have shown : (machine.state.instances index).Published := .inl live
    obtain ⟨registration, bound⟩ := tables.bound index shown.inUse
    rw [bound.2]
    exact ⟨registration, tables.resolveRegistration bound.1⟩
  constructor
  · intro callback waiting request named
    exact deviceRequest_refused named (pending_resolves tables waiting)
  · exact tables.apart
  · intro callback waiting
    have bound := (tables.held callback waiting).bound
    refine ⟨?_, fun handle resolved => unregister_refused tables waiting resolved⟩
    rw [bound.2]
    exact tables.resolveRegistration bound.1
  · exact resolves
  · intro handle slot resolved error stale
    obtain ⟨registration, found⟩ := resolves slot (resolveInstance_ok resolved).1
    rw [found] at stale
    cases stale
  · exact balanced.distinct
  · exact balanced.matched
  · exact balanced.once

private def consoleOps : DeviceOps where
  abiVersion := 1
  identity := 1
  capabilities := deviceCapRead
  openEntry := some 0
  closeEntry := some 0
  readEntry := some 0
  queryInfoEntry := some 0

private def bootDevices : DeviceManager := final iomgrDeviceInitialize {}

private def consoleDevice (generation : UInt32) : UInt64 := makeDeviceHandle 0 generation deviceInstanceKind

/-- The console is opened and closed; its close callback tries to read from it. Then it is opened again, and a read
is under way. -/
private def consoleMoves : List DeviceMove :=
  [.enter (.register (some [67]) (some consoleOps) true), .enter (.openDevice (some [67]) true),
    .answer { status := .ok, driverContext := 7 }, .enter (.closeDevice (consoleDevice 1)),
    .enter (.read (consoleDevice 1) none 0 0 true), .answer { status := .ok },
    .enter (.openDevice (some [67]) true), .answer { status := .ok, driverContext := 7 },
    .enter (.read (consoleDevice 2) none 0 0 true)]

theorem device_reentry_safe_console :
    ReentrySafe (transcript (advance deviceRequest) ⟨bootDevices, []⟩ consoleMoves)
        (replay (advance deviceRequest) ⟨bootDevices, []⟩ consoleMoves) ∧
      (replay (advance deviceRequest) ⟨bootDevices, []⟩ consoleMoves).pending.length = 1 ∧
      (openings (transcript (advance deviceRequest) ⟨bootDevices, []⟩ consoleMoves)).length = 2 ∧
      (closings (transcript (advance deviceRequest) ⟨bootDevices, []⟩ consoleMoves)).length = 1 := by
  have started : iomgrDeviceInitialize {} = .ok () bootDevices := rfl
  have run : Runs (advance deviceRequest) (fun _ _ => True) ⟨bootDevices, []⟩
      (transcript (advance deviceRequest) ⟨bootDevices, []⟩ consoleMoves ++ [])
      (replay (advance deviceRequest) ⟨bootDevices, []⟩ consoleMoves) := Runs.replay .start consoleMoves
  rw [append_nil] at run
  exact ⟨device_reentry_safe started run, by decide +kernel, by decide +kernel, by decide +kernel⟩

end DosC32
