import DosC32.Core.Run
import DosC32.Proofs.Machine
import DosC32.Proofs.XmsControl

/-! # The A20 discipline of the XMS manager

The setting callback may fail after changing the line and may report a success that did not happen; only the
query is trusted. Along every run of calls the local lock count equals the local enables minus the counted local
disables, a held lock means that the line is enabled, and a call that asked for the line leaves the machine's
copy equal to it.
-/

namespace DosC32

open Effect Register

/-- What the query callback reports, if there is one, is the state of the line. -/
structure A20Ops.Truthful (a20 : A20Ops) : Prop where
  query : ∀ callback, a20.queryA20 = some callback → ∀ call enabled observed,
    callback call enabled = .ok observed → observed = enabled

namespace A20State

variable {a20 : A20Ops} {state : A20State}

/-- The machine works, and its copy of the line is the line. -/
structure Synced (state : A20State) : Prop where
  running : state.machine.poisoned = 0
  copy : state.machine.a20Enabled = state.line.enabled

private theorem wp_machineReady {done : Unit → A20State → Prop} {failed : MachineError → A20State → Prop}
    (running : state.machine.poisoned = 0) (ready : done () state) : wp machineReady state done failed := by
  simp only [machineReady, wp_rules, running]
  exact ⟨fun large => absurd large (by decide), fun _ => ⟨fun nonzero => absurd rfl nonzero, fun _ => ready⟩⟩

theorem queryA20Backend_spec (truthful : a20.Truthful) (state : A20State) :
    wp (queryA20Backend a20) state
      (fun observed next => next.machine = state.machine ∧ next.line.enabled = state.line.enabled ∧
        observed = state.line.enabled)
      (fun _ next => next.machine = state.machine) := by
  simp only [queryA20Backend, wp_rules]
  refine ⟨fun callback present => ?_, fun _ => trivial⟩
  cases reported : callback state.line.calls state.line.enabled with
  | ok observed =>
    simp only [wp, callQuery, reported]
    exact ⟨trivial, trivial, truthful.query callback present _ _ _ reported⟩
  | error status => simp only [wp, callQuery, reported]

/-- A query reports the line and refreshes the machine's copy; a failed one stops the machine. -/
theorem dosMachineQueryA20_spec (truthful : a20.Truthful) (configured : state.machine.ops.isNone = false)
    (running : state.machine.poisoned = 0) :
    wp (dosMachineQueryA20 a20) state
      (fun observed next => next.Synced ∧ next.machine.ops = state.machine.ops ∧
        next.line.enabled = state.line.enabled ∧ observed = state.line.enabled)
      (fun _ next => next.machine.poisoned ≠ 0) := by
  simp only [dosMachineQueryA20, wp_bind, wp_get, wp_failWhen, configured]
  refine ⟨fun absent => absurd absent Bool.false_ne_true, fun _ => wp_machineReady running ?_⟩
  rw [wp_attempt]
  apply wp_mono (queryA20Backend_spec truthful state)
  · rintro observed next ⟨machine, line, rfl⟩
    simp only [setA20Enabled, wp_rules]
    refine ⟨⟨?_, line.symm⟩, ?_, line, trivial⟩
    · rw [machine, running]
    · rw [machine]
  · intro status next machine
    simp only [setPoisoned, wp_rules]
    decide

/-- Setting the line ends with the requested state, with the opposite one, or with a stopped machine. -/
theorem dosMachineSetA20_spec (truthful : a20.Truthful) (settable : a20.setA20.isSome)
    (queryable : a20.queryA20.isNone = false) (configured : state.machine.ops.isNone = false)
    (running : state.machine.poisoned = 0) (requested : Bool) :
    wp (dosMachineSetA20 a20 requested) state
      (fun _ next => next.Synced ∧ next.machine.ops = state.machine.ops ∧ next.line.enabled = requested)
      (fun _ next => next.machine.poisoned ≠ 0 ∨
        next.Synced ∧ next.machine.ops = state.machine.ops ∧ next.line.enabled ≠ requested) := by
  obtain ⟨callback, setting⟩ := Option.isSome_iff_exists.mp settable
  simp only [dosMachineSetA20, wp_bind, wp_get, wp_failWhen, wp_demand, setting, configured, queryable]
  refine ⟨fun absent => absurd absent (by simp), fun _ => ⟨fun found same => ?_, by simp⟩⟩
  cases same
  apply wp_machineReady running
  simp only [setPoisoned, wp_modify]
  show wp (attempt (queryA20Backend a20)) _ _ _
  rw [wp_attempt]
  apply wp_mono (queryA20Backend_spec truthful _)
  · rintro observed next ⟨machine, line, rfl⟩
    have ops : next.machine.ops = state.machine.ops := by rw [machine]
    simp only [setA20Enabled, wp_rules]
    constructor
    · intro different
      right
      exact ⟨⟨rfl, line.symm⟩, ops, by rw [line]; exact different⟩
    · intro same
      exact ⟨⟨rfl, line.symm⟩, ops, by rw [line]; exact not_not.mp same⟩
  · intro status next machine
    left
    rw [machine]
    show (1 : UInt8) ≠ 0
    decide

end A20State

namespace XmsWorld

variable {Memory : Type} {ops : XmsMemoryOps Memory} (a20 : A20Ops) (function : Option XmsFunction)
  (before after world : XmsWorld Memory)

/-- Neither manager nor machine is poisoned, and the callbacks are those checked at initialization. -/
structure Working : Prop where
  clean : world.manager.poisoned = 0
  running : world.machine.poisoned = 0
  configured : world.machine.ops.isNone = false
  settable : a20.setA20.isSome
  queryable : a20.queryA20.isNone = false

/-- The line, the machine's copy of it and the lock count are as before. -/
structure LineKept : Prop where
  machine : after.machine = before.machine
  line : after.line = before.line
  locks : after.manager.localA20Locks = before.manager.localA20Locks

/-- A local enable that succeeded. -/
def enabledLocally (cpu : CpuState) : Prop :=
  function = some .localEnableA20 ∧ low16 cpu.eax = 1
deriving Decidable

/-- A local disable that was counted: the last one, or one that leaves the line enabled for the others. -/
def disabledLocally (cpu : CpuState) : Prop :=
  function = some .localDisableA20 ∧ (low16 cpu.eax = 1 ∨ low16 cpu.eax = 0 ∧ low8 cpu.ebx = xmsErrorA20StillEnabled)
deriving Decidable

/-- What a completed call did to the line. -/
structure LineEffect : Prop where
  working : Working a20 after
  copied : A20State.Synced ⟨after.machine, after.line⟩ ∨ after.line = before.line
  held : 0 < after.manager.localA20Locks → after.line.enabled = true
  count : after.manager.localA20Locks.toNat + (if disabledLocally function after.cpu then 1 else 0) =
    before.manager.localA20Locks.toNat + (if enabledLocally function after.cpu then 1 else 0)

/-- A call that did not poison the manager accounts for what it did to the line, and did nothing to it if it failed. -/
abbrev Accounts (action : XmsM Memory Unit) : Prop :=
  wp action world (fun _ after => after.manager.poisoned = 0 → LineEffect a20 function world after)
    (fun _ after => after.manager.poisoned = 0 → LineKept world after)

variable {a20 function before after world}

theorem LineKept.working (kept : LineKept world after) (working : Working a20 world)
    (clean : after.manager.poisoned = 0) : Working a20 after :=
  ⟨clean, by rw [kept.machine]; exact working.running, by rw [kept.machine]; exact working.configured,
    working.settable, working.queryable⟩

/-- Asking for the line leaves manager and machine at work. -/
theorem Working.moved (working : Working a20 world) (manager : after.manager = world.manager)
    (synced : A20State.Synced ⟨after.machine, after.line⟩) (ops : after.machine.ops = world.machine.ops) :
    Working a20 after :=
  ⟨by rw [manager]; exact working.clean, synced.running, by rw [ops]; exact working.configured,
    working.settable, working.queryable⟩

/-- A call that has nothing to do with the line and did not poison the manager. -/
theorem LineKept.effect (kept : LineKept world after) (working : Working a20 world)
    (held : 0 < world.manager.localA20Locks → world.line.enabled = true)
    (enable : ¬ enabledLocally function after.cpu) (disable : ¬ disabledLocally function after.cpu)
    (clean : after.manager.poisoned = 0) : LineEffect a20 function world after where
  working := kept.working working clean
  copied := .inr kept.line
  held := by rw [kept.locks, kept.line]; exact held
  count := by rw [if_neg enable, if_neg disable, kept.locks]

private theorem wp_a20Fault {done : Unit → XmsWorld Memory → Prop} {failed : XmsError → XmsWorld Memory → Prop}
    (stopped : world.machine.poisoned ≠ 0 → failed .machineFault world.poisonedManager)
    (refused : world.machine.poisoned = 0 → ∀ cpu, low16 cpu.eax = 0 → low8 cpu.ebx = xmsErrorA20Failure →
      done () { world with cpu }) : wp a20Fault world done failed := by
  simp only [a20Fault, poisonedFault, poison, setManager, returnFailure, setCpu, wp_split]
  refine ⟨stopped, fun running => refused (not_not.mp running) _ ?_ ?_⟩
  · exact low16_setLow16 _ _
  · exact low8_setLow8 _ _

/-- What `query_a20` establishes. -/
theorem queryA20_spec (truthful : a20.Truthful) (working : Working a20 world) :
    wp (queryA20 a20) world
      (fun observed next => next.manager = world.manager ∧ A20State.Synced ⟨next.machine, next.line⟩ ∧
        next.machine.ops = world.machine.ops ∧ next.line.enabled = world.line.enabled ∧
        observed = some world.line.enabled)
      (fun _ next => next.manager.poisoned ≠ 0) := by
  simp only [queryA20, wp_bind, wp_attempt, onA20, wp_focus]
  apply wp_mono (A20State.dosMachineQueryA20_spec truthful working.configured working.running)
  · rintro observed next ⟨synced, machine, line, rfl⟩
    exact ⟨rfl, synced, machine, line, rfl⟩
  · intro status next stopped
    apply wp_a20Fault
    · intro _
      show (1 : UInt8) ≠ 0
      decide
    · exact fun running => absurd running stopped

/-- What `ensure_a20` establishes. -/
theorem ensureA20_spec (truthful : a20.Truthful) (working : Working a20 world) (requested : Bool) :
    wp (ensureA20 a20 requested) world
      (fun achieved next => next.manager = world.manager ∧ A20State.Synced ⟨next.machine, next.line⟩ ∧
        next.machine.ops = world.machine.ops ∧ (achieved = true → next.line.enabled = requested) ∧
        (achieved = false → next.line.enabled ≠ requested ∧ world.line.enabled ≠ requested ∧
          low16 next.cpu.eax = 0 ∧ low8 next.cpu.ebx = xmsErrorA20Failure))
      (fun _ next => next.manager.poisoned ≠ 0) := by
  simp only [ensureA20, wp_bind]
  apply wp_mono_done (queryA20_spec truthful working)
  rintro observed next ⟨manager, synced, machine, line, rfl⟩
  simp only [wp_get, wp_ite, wp_pure]
  have clean : next.manager.poisoned = 0 := by rw [manager]; exact working.clean
  refine ⟨fun poisoned => absurd clean poisoned, fun _ => ⟨fun same => ?_, fun different => ?_⟩⟩
  · exact ⟨manager, synced, machine, fun _ => line.trans (Option.some.inj same), by simp⟩
  · have opposite : world.line.enabled ≠ requested := fun same => different (congrArg some same)
    have configured : next.machine.ops.isNone = false := by rw [machine]; exact working.configured
    rw [wp_bind, wp_attempt, onA20, wp_focus]
    apply wp_mono (A20State.dosMachineSetA20_spec truthful working.settable working.queryable configured synced.running
      requested)
    · rintro _ last ⟨synced', machine', line'⟩
      exact ⟨manager, synced', machine'.trans machine, fun _ => line', by simp⟩
    · intro status last ended
      rw [wp_bind]
      apply wp_a20Fault
      · intro _
        show (1 : UInt8) ≠ 0
        decide
      · intro running cpu zero code
        obtain stopped | ⟨synced', machine', line'⟩ := ended
        · exact absurd running stopped
        · exact ⟨manager, synced', machine'.trans machine, by simp, fun _ => ⟨line', opposite, zero, code⟩⟩

variable (truthful : a20.Truthful) (working : Working a20 world)
    (held : 0 < world.manager.localA20Locks → world.line.enabled = true)

include working held

private theorem returnFailure_effect {error : UInt8}
    (uncounted : function = some .localDisableA20 → error ≠ xmsErrorA20StillEnabled := by simp) :
    Accounts a20 function world (returnFailure error) := by
  show _ → LineEffect a20 function world { world with cpu := _ }
  refine LineKept.effect ⟨rfl, rfl, rfl⟩ working held ?_ ?_
  · rintro ⟨_, succeeded⟩
    simp at succeeded
  · rintro ⟨same, counted⟩
    simp [uncounted same] at counted

include truthful

/-- What each of the functions that change the line does once the line is known. A line that could not be changed is as
it was before. -/
private theorem wp_withA20 {requested : Bool} {achieved : XmsM Memory Unit}
    (reached : ∀ next, next.manager = world.manager → Working a20 next → A20State.Synced ⟨next.machine, next.line⟩ →
      next.line.enabled = requested →
      wp achieved next (fun _ => LineEffect a20 function world) (fun _ _ => False)) :
    Accounts a20 function world (withA20 a20 requested achieved) := by
  simp only [withA20, wp_bind]
  refine wp_mono (ensureA20_spec truthful working requested) ?_ fun _ _ poisoned clean => absurd clean poisoned
  rintro result next ⟨manager, synced, machine, onTrue, onFalse⟩
  have working' := working.moved manager synced machine
  cases result with
  | true => exact wp_returns (reached next manager working' synced (onTrue rfl)) fun _ _ effect _ => effect
  | false =>
    intro _
    obtain ⟨different, opposite, zero, code⟩ := onFalse rfl
    have same : next.line.enabled = world.line.enabled := by
      rw [Bool.eq_not_of_ne different, Bool.eq_not_of_ne opposite]
    have failure : xmsErrorA20Failure ≠ xmsErrorA20StillEnabled := by decide
    refine ⟨working', .inl synced, by rwa [same, manager], ?_⟩
    simp [enabledLocally, disabledLocally, manager, zero, code, failure]

private theorem globalEnableA20_effect : Accounts a20 (some .globalEnableA20) world (globalEnableA20 a20) := by
  apply wp_withA20 truthful working held
  intro next manager working' synced enabled
  refine ⟨{ working' with }, .inl synced, fun _ => enabled, ?_⟩
  simp [enabledLocally, disabledLocally, manager]

private theorem globalDisableA20_effect : Accounts a20 (some .globalDisableA20) world (globalDisableA20 a20) := by
  simp only [globalDisableA20, wp_split]
  constructor
  · intro locked
    exact returnFailure_effect working held
  · intro unlocked
    have none : world.manager.localA20Locks = 0 := not_not.mp unlocked
    apply wp_withA20 truthful working held
    intro next manager working' synced disabled
    refine ⟨{ working' with }, .inl synced, fun positive => ?_, ?_⟩
    · change 0 < next.manager.localA20Locks at positive
      rw [manager, none] at positive
      exact absurd positive (by decide)
    · simp [enabledLocally, disabledLocally, manager]

private theorem localEnableA20_effect : Accounts a20 (some .localEnableA20) world (localEnableA20 a20) := by
  simp only [localEnableA20, wp_split]
  constructor
  · intro full
    exact returnFailure_effect working held
  · intro room
    apply wp_withA20 truthful working held
    intro next manager working' synced enabled
    refine ⟨{ working' with }, .inl synced, fun _ => enabled, ?_⟩
    have small : world.manager.localA20Locks.toNat ≠ 0xffff := fun full => room (UInt16.toNat_inj.mp full)
    have bound := world.manager.localA20Locks.toNat_lt
    have counted : (world.manager.localA20Locks + 1).toNat = world.manager.localA20Locks.toNat + 1 := by
      rw [UInt16.toNat_add, UInt16.toNat_one]
      omega
    simp [enabledLocally, disabledLocally, manager, counted]

private theorem localDisableA20_effect : Accounts a20 (some .localDisableA20) world (localDisableA20 a20) := by
  simp only [localDisableA20, wp_split]
  refine ⟨fun none => ?_, fun some => ⟨fun several => ?_, fun one => ?_⟩⟩
  · exact returnFailure_effect working held fun _ => by decide
  · have large : 1 < world.manager.localA20Locks.toNat := several
    apply wp_withA20 truthful working held
    intro next manager working' synced enabled
    refine ⟨{ working' with }, .inl synced, fun _ => enabled, ?_⟩
    have counted : (world.manager.localA20Locks - 1).toNat + 1 = world.manager.localA20Locks.toNat := by
      rw [UInt16.toNat_sub_of_le _ _ (show 1 ≤ world.manager.localA20Locks.toNat from Nat.le_of_lt large), UInt16.toNat_one]
      omega
    simp [enabledLocally, disabledLocally, manager, counted]
  · have single : world.manager.localA20Locks.toNat = 1 := by
      have small : ¬ 1 < world.manager.localA20Locks.toNat := one
      have nonzero : world.manager.localA20Locks.toNat ≠ 0 := fun zero => some (UInt16.toNat_inj.mp zero)
      omega
    apply wp_withA20 truthful working held
    intro next manager working' synced disabled
    refine ⟨{ working' with }, .inl synced, fun positive => ?_, ?_⟩
    · exact absurd positive (by show ¬ (0 : UInt16) < 0; decide)
    · simp [enabledLocally, disabledLocally, single]

private theorem reportA20_effect : Accounts a20 (some .queryA20) world (reportA20 a20) := by
  simp only [reportA20, wp_bind]
  refine wp_mono (queryA20_spec truthful working) ?_ fun _ _ poisoned clean => absurd clean poisoned
  rintro observed next ⟨manager, synced, machine, line, _⟩ -
  refine ⟨{ working.moved manager synced machine with }, .inl synced, fun positive => ?_, ?_⟩
  · change 0 < next.manager.localA20Locks at positive
    rw [manager] at positive
    exact line.trans (held positive)
  · simp [enabledLocally, disabledLocally, manager]

omit working held truthful

variable {α : Type}

private theorem kept_callMemory (callback : ℕ → EStateM XmsMemoryError Memory α) :
    Preserves (LineKept before) (callMemory callback) := by
  intro world kept
  simp only [callMemory, onMemory, wp_rules]
  exact leaves_any fun _ => { kept with }

private theorem kept_consults {action : EStateM XmsMemoryError (XmsWorld Memory) α}
    (kept : Preserves (LineKept before) action) : Consults (LineKept before) action := by
  intro world holds
  apply wp_mono_failed (kept world holds)
  exact fun _ _ kept => ⟨{ kept with }, fun _ => kept⟩

theorem lineKept_passive : Passive ops (LineKept before) where
  cpu _ kept := { kept with }
  guest _ kept := { kept with }
  poison kept := { kept with }
  lease _ _ kept := { kept with }
  query := kept_consults (kept_callMemory _)
  read _ _ _ := kept_consults (kept_callMemory _)
  write _ _ _ := kept_consults (kept_callMemory _)
  queryHma _ _ _ := kept_consults (kept_callMemory _)

variable {update : XmsManager → XmsManager}

private theorem kept_setManager (same : ∀ manager, (update manager).localA20Locks = manager.localA20Locks) :
    Preserves (LineKept before) (setManager update : XmsM Memory Unit) :=
  preserves_modify fun world kept => ⟨kept.machine, kept.line, (same world.manager).trans kept.locks⟩

variable (passive : Passive ops (LineKept before))

include passive

private theorem kept_rewrite (same : ∀ manager, (update manager).localA20Locks = manager.localA20Locks) :
    Preserves (LineKept before) (do setManager update; returnSuccess) :=
  (kept_setManager same).bind fun _ => passive.preserves_returnSuccess

private theorem kept_withGrant (bytes : ℕ) {granted : XmsGrant → XmsM Memory Unit}
    (kept : ∀ grant, Preserves (LineKept before) (granted grant)) :
    Preserves (LineKept before) (withGrant ops bytes granted) := by
  apply (kept_callMemory _).attempt.bind
  intro result
  split
  · exact passive.preserves_returnFailure
  · exact passive.preserves_memoryFault _
  · exact .ite ((kept_callMemory _).attempt.bind fun _ => passive.preserves_poisonedFault) (kept _)

private theorem kept_allocate (extended : Bool) : Preserves (LineKept before) (allocate ops extended) := by
  apply preserves_get.bind
  intro world
  apply Preserves.ite passive.preserves_returnFailure
  split
  · exact passive.preserves_returnFailure
  · apply kept_withGrant passive
    intro grant
    apply Preserves.bind
    · exact kept_setManager fun _ => rfl
    · exact fun _ => passive.preserves_returnSuccess.bind fun _ => passive.preserves_setCpu

private theorem kept_free : Preserves (LineKept before) (free ops) := by
  apply passive.preserves_withHandle
  intro index handle
  apply Preserves.ite passive.preserves_returnFailure
  apply (kept_callMemory _).attempt.bind
  intro result
  split
  · exact passive.preserves_memoryFault _
  · exact kept_rewrite passive fun _ => rfl

private theorem kept_lock : Preserves (LineKept before) lock := by
  apply passive.preserves_withHandle
  intro index handle
  apply Preserves.ite passive.preserves_returnFailure
  apply Preserves.bind
  · exact kept_setManager fun _ => rfl
  · exact fun _ => passive.preserves_returnSuccess.bind fun _ => passive.preserves_setCpu

private theorem kept_unlock : Preserves (LineKept before) unlock := by
  apply passive.preserves_withHandle
  intro index handle
  apply Preserves.ite passive.preserves_returnFailure
  exact kept_rewrite passive fun _ => rfl

private theorem kept_abandonGrant (block : ℕ) (status : XmsMemoryError) :
    Preserves (LineKept before) (abandonGrant ops block status) := by
  apply (kept_callMemory _).attempt.bind
  intro result
  split
  · exact passive.preserves_poison.bind fun _ => passive.preserves_memoryFault _
  · exact passive.preserves_memoryFault _

private theorem kept_reallocate (extended : Bool) : Preserves (LineKept before) (reallocate ops extended) := by
  apply passive.preserves_withHandle
  intro index handle
  apply preserves_get.bind
  intro world
  apply Preserves.ite passive.preserves_returnFailure
  apply Preserves.ite passive.preserves_returnFailure
  apply Preserves.ite
  · exact kept_rewrite passive fun _ => rfl
  apply kept_withGrant passive
  intro grant
  apply (kept_callMemory _).attempt.bind
  intro result
  split
  · exact kept_abandonGrant passive _ _
  · apply (kept_callMemory _).attempt.bind
    intro result
    split
    · exact kept_abandonGrant passive _ _
    · exact kept_rewrite passive fun _ => rfl

omit passive

include truthful working held

/-- Every function accounts for what it does to the line. -/
theorem performFunction_effect (function : XmsFunction) :
    Accounts a20 (some function) world (performFunction ops a20 function) := by
  have passive : Passive ops (LineKept world) := lineKept_passive
  have kept {action : XmsM Memory Unit} (keeps : Preserves (LineKept world) action)
      (enable : function ≠ .localEnableA20 := by simp) (disable : function ≠ .localDisableA20 := by simp) :
      Accounts a20 (some function) world action := by
    apply wp_mono (keeps world ⟨rfl, rfl, rfl⟩)
    · intro _ after same
      exact same.effect working held (fun enabled => enable (Option.some.inj enabled.1))
        (fun disabled => disable (Option.some.inj disabled.1))
    · exact fun _ _ same _ => same
  cases function with
  | version =>
    exact kept (passive.preserves_setCpu.bind fun _ => passive.preserves_hmaReportVersion)
  | requestHma => exact kept passive.preserves_hmaRequest
  | releaseHma => exact kept passive.preserves_hmaRelease
  | globalEnableA20 => exact globalEnableA20_effect truthful working held
  | globalDisableA20 => exact globalDisableA20_effect truthful working held
  | localEnableA20 => exact localEnableA20_effect truthful working held
  | localDisableA20 => exact localDisableA20_effect truthful working held
  | queryA20 => exact reportA20_effect truthful working held
  | queryFree extended => exact kept (passive.preserves_queryFree extended)
  | allocate extended => exact kept (kept_allocate passive extended)
  | free => exact kept (kept_free passive)
  | move => exact kept passive.preserves_moveMemory
  | lock => exact kept (kept_lock passive)
  | unlock => exact kept (kept_unlock passive)
  | handleInfo extended => exact kept (passive.preserves_handleInfo extended)
  | reallocate extended => exact kept (kept_reallocate passive extended)

theorem request_effect (registers : CpuState) :
    wp (request ops a20 registers) world
      (fun result after => after.cpu = result ∧ (after.manager.poisoned = 0 →
        LineEffect a20 (XmsFunction.ofByte (high8 registers.eax)) world after))
      (fun _ after => after.manager.poisoned = 0 → LineKept world after) := by
  have working' : Working a20 { world with cpu := registers } := { working with }
  simp only [request, dosXmsControl, setCpu, wp_rules, true_and]
  refine ⟨fun _ _ => ⟨rfl, rfl, rfl⟩, fun _ => ⟨fun poisoned => absurd working.clean poisoned, fun _ => ?_⟩⟩
  cases XmsFunction.ofByte (high8 registers.eax) with
  | none =>
    have refused : Accounts a20 none { world with cpu := registers } (returnFailure xmsErrorNotImplemented) :=
      returnFailure_effect working' held
    exact wp_mono refused (fun _ _ effect clean => { effect clean with }) fun _ _ kept clean => { kept clean with }
  | some function =>
    exact wp_mono (performFunction_effect truthful working' held function) (fun _ _ effect clean => { effect clean with })
      fun _ _ kept clean => { kept clean with }

omit truthful working held

/-- The entries of a history that a test on function and resulting registers selects. -/
def countCalls (test : Option XmsFunction → CpuState → Prop) [∀ function cpu, Decidable (test function cpu)]
    (history : List (CpuState × Except XmsError CpuState)) : ℕ :=
  history.countP fun entry =>
    match entry.2 with
    | .ok result => test (XmsFunction.ofByte (high8 entry.1.eax)) result
    | .error _ => false

variable (history : List (CpuState × Except XmsError CpuState))

/-- The number of local enables that succeeded. -/
def localEnables : ℕ := countCalls enabledLocally history

/-- The number of local disables that were counted. -/
def localDisables : ℕ := countCalls disabledLocally history

/-- The invariant of a run. -/
structure Disciplined (a20 : A20Ops) (history : List (CpuState × Except XmsError CpuState)) (world : XmsWorld Memory) :
    Prop where
  working : Working a20 world
  held : 0 < world.manager.localA20Locks → world.line.enabled = true
  count : world.manager.localA20Locks.toNat + localDisables history = localEnables history

theorem request_disciplined (truthful : a20.Truthful) {history : List (CpuState × Except XmsError CpuState)}
    (disciplined : world.manager.poisoned = 0 → Disciplined a20 history world) (registers : CpuState) :
    wp (request ops a20 registers) world
      (fun result after => after.manager.poisoned = 0 → Disciplined a20 ((registers, .ok result) :: history) after ∧
        (A20State.Synced ⟨after.machine, after.line⟩ ∨ after.line = world.line))
      (fun error after => after.manager.poisoned = 0 → Disciplined a20 ((registers, .error error) :: history) after ∧
        (A20State.Synced ⟨after.machine, after.line⟩ ∨ after.line = world.line)) := by
  by_cases clean : world.manager.poisoned = 0
  · obtain ⟨working, held, count⟩ := disciplined clean
    apply wp_mono (request_effect truthful working held registers)
    · rintro result after ⟨rfl, effect⟩ clean'
      obtain ⟨working', copied, held', count'⟩ := effect clean'
      refine ⟨⟨working', held', ?_⟩, copied⟩
      simp only [localDisables, localEnables, countCalls, List.countP_cons, decide_eq_true_eq] at count ⊢
      omega
    · intro error after kept clean'
      have same := kept clean'
      refine ⟨⟨same.working working clean', by rw [same.locks, same.line]; exact held, ?_⟩, .inr same.line⟩
      simp only [localDisables, localEnables, countCalls, List.countP_cons, Bool.false_eq_true, if_false, same.locks]
      exact count
  · simp only [request, dosXmsControl, setCpu, wp_rules]
    exact ⟨fun _ clean' => absurd clean' clean, fun _ => ⟨fun _ clean' => absurd clean' clean,
      fun clean' => absurd (not_not.mp clean') clean⟩⟩

theorem initialize_disciplined (memoryContext : ℕ) (config : XmsConfig) :
    wp (dosXmsInitialize ops a20 memoryContext config) world (fun _ => Disciplined a20 []) (fun _ _ => True) := by
  simp only [dosXmsInitialize, wp_all, onMemory]
  intro accepted
  simp only [not_or, ne_eq, not_not, Bool.not_eq_true] at accepted
  obtain ⟨_, _, _, configured, settable, queryable, _, _⟩ := accepted
  refine wp_intro (fun free memory _ => ?_) (fun status memory _ => ?_)
  · simp only [onGuest, wp_rules, setManager]
    intro _
    apply wp_mono (Machine.writeFar_spec _)
    · rintro _ guest ⟨-, running⟩
      refine ⟨⟨rfl, running, configured, ?_, queryable⟩, fun positive => ?_, rfl⟩
      · exact Option.isSome_iff_ne_none.mpr fun missing => by simp [missing] at settable
      · exact absurd positive (by show ¬ (0 : UInt16) < 0; decide)
    · exact fun _ _ _ => trivial
  · cases status <;> trivial

/-- What holds of the A20 line in a state reached by `history` and in every call made from it. -/
structure A20Law (ops : XmsMemoryOps Memory) (a20 : A20Ops) (history : List (CpuState × Except XmsError CpuState))
    (world : XmsWorld Memory) : Prop where
  held : world.manager.poisoned = 0 → world.machine.poisoned = 0 → 0 < world.manager.localA20Locks →
    world.line.enabled = true
  count : world.manager.poisoned = 0 → world.machine.poisoned = 0 →
    world.manager.localA20Locks.toNat + localDisables history = localEnables history
  copy : ∀ registers, (final (request ops a20 registers) world).manager.poisoned = 0 →
    (final (request ops a20 registers) world).machine.poisoned = 0 →
    world.line.calls < (final (request ops a20 registers) world).line.calls →
    (final (request ops a20 registers) world).machine.a20Enabled = (final (request ops a20 registers) world).line.enabled

/-- Along every run of calls from initialization, locks, line and the machine's copy stay in step. -/
theorem a20_disciplined (truthful : a20.Truthful) {memoryContext : ℕ} {config : XmsConfig}
    {origin start world : XmsWorld Memory} {history : List (CpuState × Except XmsError CpuState)}
    (initialized : dosXmsInitialize ops a20 memoryContext config origin = .ok () start)
    (run : Runs (request ops a20) (fun _ _ => True) start history world) : A20Law ops a20 history world := by
  have disciplined : world.manager.poisoned = 0 → Disciplined a20 history world := by
    have initial := wp_of_ok (initialize_disciplined memoryContext config) initialized
    apply run.invariant (fun history world => world.manager.poisoned = 0 → Disciplined a20 history world) (fun _ => initial)
    intro history state registers holds _
    exact wp_mono (request_disciplined truthful holds registers) (fun _ _ kept clean => (kept clean).1)
      fun _ _ kept clean => (kept clean).1
  constructor
  · exact fun clean _ => (disciplined clean).held
  · exact fun clean _ => (disciplined clean).count
  · intro registers clean _ asked
    have copied : wp (request ops a20 registers) world _ _ := wp_mono (request_disciplined truthful disciplined registers)
      (fun _ _ kept clean => (kept clean).2) (fun _ _ kept clean => (kept clean).2)
    obtain synced | same := wp_final copied clean
    · exact synced.copy
    · rw [same] at asked
      exact absurd asked (Nat.lt_irrefl _)

/-- A backend without memory to give. -/
def barrenOps : XmsMemoryOps Unit where
  query _ := pure ⟨1, 1, 1⟩
  allocate _ _ := throw .noMemory
  release _ _ := throw .fault
  read _ _ _ _ := throw .fault
  write _ _ _ _ := throw .fault
  queryHma := none

/-- The first setting callback reports a success that did not happen. -/
def stubbornA20 : A20Ops where
  setA20 := some fun call requested enabled => (none, if call = 1 then enabled else requested)
  queryA20 := some fun _ enabled => .ok enabled

theorem stubborn_truthful : stubbornA20.Truthful where
  query callback present call enabled observed reported := by
    cases present
    exact (Except.ok.inj reported).symm

def stubbornOrigin : XmsWorld Unit where
  manager := { identity := 1, constructed := 1 }
  machine := ⟨some ⟨some fun _ => none, some fun _ => none⟩, 1, 0x110000, false, 0⟩
  line := ⟨false, 0⟩
  guest := ⟨fun _ => 0, 0⟩
  memory := ()
  cpu := ⟨0, 0, 0, 0, 0, 0, 0, 0, 0, 0, 0, 0, 0, 0, 0, 0, 0⟩

def stubbornStart : XmsWorld Unit :=
  final (dosXmsInitialize barrenOps stubbornA20 1 { hmaMinimumBytes := 0 }) stubbornOrigin

/-- A local enable. -/
def enableCall : CpuState := { stubbornOrigin.cpu with eax := 0x0500 }

/-- The state after one failed and one successful local enable. -/
def stubbornEnd : XmsWorld Unit :=
  final (request barrenOps stubbornA20 enableCall) (final (request barrenOps stubbornA20 enableCall) stubbornStart)

theorem a20_disciplined_stubborn :
    A20Law barrenOps stubbornA20
      [(enableCall, outcome (request barrenOps stubbornA20 enableCall)
          (final (request barrenOps stubbornA20 enableCall) stubbornStart)),
        (enableCall, outcome (request barrenOps stubbornA20 enableCall) stubbornStart)] stubbornEnd ∧
      stubbornEnd.manager.localA20Locks = 1 ∧ stubbornEnd.line.enabled = true := by
  have initialized : dosXmsInitialize barrenOps stubbornA20 1 { hmaMinimumBytes := 0 } stubbornOrigin =
      .ok () stubbornStart := rfl
  refine ⟨a20_disciplined stubborn_truthful initialized ?_, by decide +kernel, by decide +kernel⟩
  exact .step enableCall (.step enableCall .start trivial) trivial

end XmsWorld

end DosC32
