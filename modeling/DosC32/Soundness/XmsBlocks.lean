import DosC32.Core.Run
import DosC32.Proofs.XmsBlocks
import DosC32.Proofs.XmsControl
import Mathlib.Algebra.Order.BigOperators.Group.List

/-! # XMS block ownership

Over a backend that hands out fresh blocks and whose definite failures change nothing, every call takes one
step of the holdings. Along any run of calls with any registers the handle table therefore accounts for exactly
the blocks that are live at the backend, until an uncertain result poisons the manager.
-/

namespace DosC32.XmsWorld

open Effect Function Register Bitmap XmsManager

variable {Memory α : Type} (ops : XmsMemoryOps Memory) (a20 : A20Ops) (live : ℕ → Memory → Set ℕ)
  (before after world : XmsWorld Memory)

/-- A callback that neither takes nor gives back blocks. -/
def Harmless (context : ℕ) (callback : EStateM XmsMemoryError Memory α) : Prop :=
  ∀ memory, wp callback memory (fun _ next => live context next = live context memory)
    (fun status next => status ≠ .uncertain → live context next = live context memory)

/-- The blocks in use for a context are those allocated and not released; allocation returns fresh blocks, and a
callback that fails with a definite status has no effect on them. -/
structure Lawful : Prop where
  query : ∀ context, Harmless live context (ops.query context)
  read : ∀ context block offset count, Harmless live context (ops.read context block offset count)
  write : ∀ context block offset buffer, Harmless live context (ops.write context block offset buffer)
  queryHma : ∀ callback, ops.queryHma = some callback → ∀ context machine,
    Harmless live context (callback context machine)
  allocate : ∀ context bytes memory, wp (ops.allocate context bytes) memory
    (fun grant next => grant.block ∉ live context memory ∧
      live context next = insert grant.block (live context memory))
    (fun status next => status ≠ .uncertain → live context next = live context memory)
  release : ∀ context block memory, block ∈ live context memory → wp (ops.release context block) memory
    (fun _ next => live context next = live context memory \ {block})
    (fun status next => status ≠ .uncertain → live context next = live context memory)

/-- The blocks that the backend has live for the manager. -/
def liveBlocks : Set ℕ :=
  live world.manager.memoryContext world.memory

def holdings : Holdings :=
  ⟨world.manager.table, liveBlocks live world⟩

/-- Table and live blocks are as before; the blocks only while the manager is not poisoned. -/
structure Idle : Prop where
  table : after.manager.table = before.manager.table
  live : after.manager.poisoned = 0 → liveBlocks live after = liveBlocks live before

/-- One step of the holdings; the live blocks are known while the manager is not poisoned. -/
def Steps : Prop :=
  ∃ blocks, HoldingsStep (holdings live before) ⟨after.manager.table, blocks⟩ ∧
    (after.manager.poisoned = 0 → liveBlocks live after = blocks)

/-- The table accounts for the live blocks, unless the manager is poisoned. -/
def Accounted : Prop :=
  world.manager.poisoned = 0 → (holdings live world).Owned

/-- The handle is in use and locked before each of the calls. -/
def LockedThrough (index : Fin 32) : XmsWorld Memory → List CpuState → Prop
  | _, [] => True
  | world, registers :: rest =>
    (∃ handle, world.manager.table index = some handle ∧ 0 < handle.lockCount) ∧
      LockedThrough index (final (request ops a20 registers) world) rest

/-- What holds of the blocks in a state and in all calls made from it. -/
structure BlocksOwned : Prop where
  distinct : world.manager.poisoned = 0 → ∀ first second handle handle', world.manager.table first = some handle →
    world.manager.table second = some handle' → handle.block = handle'.block → first = second
  exact : world.manager.poisoned = 0 → ∀ block,
    block ∈ liveBlocks live world ↔ ∃ index handle, world.manager.table index = some handle ∧ handle.block = block
  sized : world.manager.poisoned = 0 → ∀ index handle, world.manager.table index = some handle →
    0 < handle.sizeBytes ∧ handle.sizeBytes ≤ handle.capacityBytes
  locked : ∀ calls index handle, world.manager.table index = some handle → LockedThrough ops a20 index world calls →
    ∃ handle', (replay (request ops a20) world calls).manager.table index = some handle' ∧
      handle'.block = handle.block ∧ handle'.physicalAddress = handle.physicalAddress
  counted : ∀ registers index handle handle', world.manager.table index = some handle →
    (final (request ops a20 registers) world).manager.table index = some handle' →
    CountStep handle.lockCount handle'.lockCount
  numbered : ∀ registers extended result,
    XmsFunction.ofByte (high8 registers.eax) = some (.allocate extended) →
    outcome (request ops a20 registers) world = .ok result → low16 result.eax = 1 →
    ∃ index handle, (low16 result.edx).toNat = index.val + 1 ∧ world.manager.table index = none ∧
      (final (request ops a20 registers) world).manager.table = update world.manager.table index (some handle)

variable {ops a20 live before after world}

theorem Idle.steps (idle : Idle live before after) : Steps live before after := by
  refine ⟨liveBlocks live before, ?_, idle.live⟩
  rw [idle.table]
  exact .idle

theorem Idle.refl (world : XmsWorld Memory) : Idle live world world := ⟨rfl, fun _ => rfl⟩

private theorem idle_poisoned (same : after.manager.table = before.manager.table) :
    Idle live before after.poisonedManager :=
  ⟨same, fun clean => absurd (show (1 : UInt8) = 0 from clean) (by decide)⟩

variable {callback : ℕ → EStateM XmsMemoryError Memory α} {failed : XmsMemoryError → XmsWorld Memory → Prop}

variable {done : α → XmsWorld Memory → Prop}

theorem wp_callMemory : wp (callMemory callback) world done failed ↔ wp (callback world.manager.memoryContext) world.memory
      (fun value memory => done value { world with memory }) (fun status memory => failed status { world with memory }) := by
  simp only [callMemory, onMemory, wp_rules]

theorem Harmless.consults (harmless : ∀ context, Harmless live context (callback context)) :
    Consults (Idle live before) (callMemory callback) := by
  intro world idle
  rw [wp_callMemory]
  apply wp_mono (harmless world.manager.memoryContext world.memory)
  · intro _ memory same
    exact ⟨idle.table, fun clean => Eq.trans same (idle.live clean)⟩
  · intro status memory same
    exact ⟨idle_poisoned idle.table, fun certain => ⟨idle.table, fun clean => (same certain).trans (idle.live clean)⟩⟩

theorem idle_passive (lawful : Lawful ops live) : Passive ops (Idle live before) where
  cpu _ idle := ⟨idle.table, idle.live⟩
  guest _ idle := ⟨idle.table, idle.live⟩
  poison idle := idle_poisoned idle.table
  lease _ _ idle := ⟨idle.table, idle.live⟩
  query := Harmless.consults lawful.query
  read block offset count := Harmless.consults fun context => lawful.read context block offset count
  write block offset buffer := Harmless.consults fun context => lawful.write context block offset buffer
  queryHma callback present machine := Harmless.consults fun context => lawful.queryHma callback present context machine

/-- Whatever a callback does, it leaves the table alone. -/
theorem wp_callMemory_any (onDone : ∀ value memory, done value { world with memory })
    (onFailed : ∀ status memory, failed status { world with memory }) :
    wp (callMemory callback) world done failed :=
  wp_callMemory.mpr (wp_intro (fun value memory _ => onDone value memory) (fun status memory _ => onFailed status memory))

theorem Harmless.bind {context : ℕ} {β : Type} {first : EStateM XmsMemoryError Memory α}
    {rest : α → EStateM XmsMemoryError Memory β} (harmless : Harmless live context first)
    (harmless' : ∀ value, Harmless live context (rest value)) : Harmless live context (first >>= rest) := by
  intro memory
  rw [wp_bind]
  apply wp_mono (harmless memory)
  · intro value next same
    apply wp_mono (harmless' value next)
    · exact fun _ last same' => same'.trans same
    · exact fun status last same' certain => (same' certain).trans same
  · exact fun status next same => same

theorem harmless_copyExtendedBlock (lawful : Lawful ops live) (context source destination byteCount : ℕ) :
    Harmless live context (copyExtendedBlock ops context source destination byteCount) := by
  have loop : ∀ rounds completed,
      Harmless live context (copyExtendedLoop ops context source destination byteCount rounds completed) := by
    intro rounds
    induction rounds with
    | zero => exact fun completed memory => rfl
    | succ rounds ih =>
      intro completed
      unfold copyExtendedLoop
      split
      · apply (lawful.read _ _ _ _).bind
        intro buffer
        exact (lawful.write _ _ _ _).bind fun _ => ih _
      · exact fun memory => rfl
  exact loop byteCount 0

variable {manager : XmsManager} {index : Fin 32}

private theorem table_apply (manager : XmsManager) (index : Fin 32) :
    manager.table index =
      if test manager.allocatedBitmap index = true then some (manager.handles index) else none := rfl

theorem table_eq_none : manager.table index = none ↔ ¬ manager.handleIsAllocated index := by
  unfold table
  split <;> simp_all

theorem table_empty (empty : manager.allocatedBitmap = 0#32) : manager.table = fun _ => none := by
  funext index
  rw [table_apply, empty]
  exact if_neg (by rw [test_zero]; exact Bool.false_ne_true)

theorem table_of_allocated (allocated : manager.handleIsAllocated index) :
    manager.table index = some (manager.handles index) := if_pos allocated

theorem table_insert (manager : XmsManager) (index : Fin 32) (handle : XmsHandle) :
    table { manager.setHandle index handle with
      allocatedBitmap := insert manager.allocatedBitmap index } =
      update manager.table index (some handle) := by
  funext other
  simp only [table_apply, setHandle, update_apply,
    test_insert _ index.isLt other.isLt, Fin.ext_iff, Bool.or_eq_true, decide_eq_true_eq]
  by_cases same : other.val = index.val <;> simp [same]

theorem table_erase (manager : XmsManager) (index : Fin 32) (handle : XmsHandle) :
    table { manager.setHandle index handle with
      allocatedBitmap := erase manager.allocatedBitmap index } =
      update manager.table index none := by
  funext other
  simp only [table_apply, setHandle, update_apply,
    test_erase _ index.isLt other.isLt, Fin.ext_iff, Bool.and_eq_true, Bool.not_eq_true', decide_eq_false_iff_not]
  by_cases same : other.val = index.val <;> simp [same]

theorem table_setHandle (allocated : manager.handleIsAllocated index) (handle : XmsHandle) :
    (manager.setHandle index handle).table = update manager.table index (some handle) := by
  funext other
  simp only [table_apply, setHandle, update_apply]
  by_cases same : other = index
  · subst same
    have set : test manager.allocatedBitmap other = true := allocated
    simp [set]
  · simp [same]

theorem resolveHandle_allocated {handle : UInt16} (resolved : manager.resolveHandle handle = some index) :
    manager.handleIsAllocated index := by
  unfold resolveHandle at resolved
  split at resolved
  · simp only at resolved
    split at resolved
    · cases resolved
      assumption
    · cases resolved
  · cases resolved

theorem freeIndex_free (found : manager.freeIndex = some index) : manager.table index = none := by
  rw [table_eq_none]
  simpa using List.find?_some found

variable {done : Unit → XmsWorld Memory → Prop} {failed : XmsError → XmsWorld Memory → Prop}

theorem wp_withHandle {resolved : Fin 32 → XmsHandle → XmsM Memory Unit}
    (unknown : wp (returnFailure xmsErrorInvalidHandle) world done failed)
    (known : ∀ index, world.manager.handleIsAllocated index →
      wp (resolved index (world.manager.handles index)) world done failed) :
    wp (withHandle resolved) world done failed := by
  simp only [withHandle, wp_rules]
  split
  · exact unknown
  · exact known _ (resolveHandle_allocated (by assumption))

theorem owned_block (owned : (holdings live world).Owned) (allocated : world.manager.handleIsAllocated index) :
    (world.manager.handles index).block ∈ liveBlocks live world :=
  owned.blocks.mem (congrArg (Option.map XmsHandle.block) (table_of_allocated allocated))

private theorem returnFailure_steps (error : UInt8) : Leaves (returnFailure error) world (Steps live world) :=
  Idle.steps ⟨rfl, fun _ => rfl⟩

/-- A successful allocation returns the number of a position that was free. -/
def Allotted (before after : XmsWorld Memory) : Prop :=
  low16 after.cpu.eax = 1 → ∃ index handle, (low16 after.cpu.edx).toNat = index.val + 1 ∧
    before.manager.table index = none ∧ after.manager.table = update before.manager.table index (some handle)

private theorem allotted_of_refused (refused : low16 after.cpu.eax = 0) : Allotted world after := by
  intro succeeded
  rw [refused] at succeeded
  exact absurd succeeded (by decide)

private theorem sized_of_usable {grant : XmsGrant} {kib : ℕ} (positive : kib ≠ 0)
    (usable : grantIsUsable (kib * 1024) grant) : (grantedHandle grant (kib * 1024)).Sized := by
  constructor
  · show 0 < kib * 1024
    omega
  · exact usable.2.1

/-- A handle keeps everything but its lock count. -/
private theorem relock_steps (allocated : world.manager.handleIsAllocated index) (lockCount : UInt8)
    (change : lockCount.toNat = (world.manager.handles index).lockCount.toNat + 1 ∨
      lockCount.toNat + 1 = (world.manager.handles index).lockCount.toNat) (cpu : CpuState) :
    Steps live world { world with
      manager := world.manager.setHandle index { world.manager.handles index with lockCount }, cpu } := by
  refine ⟨liveBlocks live world, ?_, fun _ => rfl⟩
  show HoldingsStep _ ⟨(world.manager.setHandle index { world.manager.handles index with lockCount }).table, _⟩
  rw [table_setHandle allocated]
  exact .relock index _ lockCount (table_of_allocated allocated) change

theorem lock_spec : Leaves lock world (Steps live world) := by
  apply wp_withHandle (returnFailure_steps _)
  intro index allocated
  simp only [wp_ite]
  refine ⟨fun _ => returnFailure_steps _, fun below => ?_⟩
  apply relock_steps allocated
  have small : (world.manager.handles index).lockCount.toNat ≠ 255 := fun full => below (UInt8.toNat_inj.mp full)
  have bound := (world.manager.handles index).lockCount.toNat_lt
  left
  rw [UInt8.toNat_add, UInt8.toNat_one]
  omega

theorem unlock_spec : Leaves unlock world (Steps live world) := by
  apply wp_withHandle (returnFailure_steps _)
  intro index allocated
  simp only [wp_ite]
  refine ⟨fun _ => returnFailure_steps _, fun locked => ?_⟩
  apply relock_steps allocated
  have positive : (world.manager.handles index).lockCount.toNat ≠ 0 := fun zero => locked (UInt8.toNat_inj.mp zero)
  have atLeast : (1 : UInt8) ≤ (world.manager.handles index).lockCount := by
    rw [UInt8.le_iff_toNat_le, UInt8.toNat_one]
    omega
  right
  rw [UInt8.toNat_sub_of_le _ _ atLeast, UInt8.toNat_one]
  omega

variable (lawful : Lawful ops live)
include lawful

/-- The grant is checked before it is used; otherwise nothing happened, or the manager is poisoned. -/
theorem wp_withGrant {bytes : ℕ} {granted : XmsGrant → XmsM Memory Unit}
    (refused : ∀ after, Idle live world after → low16 after.cpu.eax = 0 → done () after)
    (faulted : ∀ error after, Idle live world after → failed error after)
    (usable : ∀ grant memory, grantIsUsable bytes grant → grant.block ∉ liveBlocks live world →
      live world.manager.memoryContext memory = insert grant.block (liveBlocks live world) →
      wp (granted grant) { world with memory } done failed) : wp (withGrant ops bytes granted) world done failed := by
  simp only [withGrant, wp_rules, wp_callMemory]
  apply wp_mono (lawful.allocate world.manager.memoryContext bytes world.memory)
  · rintro grant memory ⟨fresh, taken⟩
    simp only [wp_ite]
    constructor
    · intro _
      rw [wp_bind, wp_attempt]
      refine wp_callMemory_any (fun _ after => ?_) (fun _ after => ?_)
      all_goals exact faulted _ _ (idle_poisoned rfl)
    · intro accepted
      exact usable grant memory (not_not.mp accepted) fresh taken
  · intro status memory same
    cases status
    case noMemory =>
      apply refused
      · exact ⟨rfl, fun _ => same (by simp)⟩
      · exact low16_setLow16 _ _
    all_goals
      exact wp_memoryFault (fun _ => faulted _ _ (idle_poisoned rfl))
        (fun certain => faulted _ _ ⟨rfl, fun _ => same certain⟩)

theorem allocate_spec (extended : Bool) :
    wp (allocate ops extended) world (fun _ after => Steps live world after ∧ Allotted world after)
      (fun _ => Steps live world) := by
  have refused : ∀ error, wp (returnFailure error) world (fun _ after => Steps live world after ∧ Allotted world after)
      (fun _ => Steps live world) := by
    intro error
    exact ⟨Idle.steps ⟨rfl, fun _ => rfl⟩, allotted_of_refused (low16_setLow16 _ _)⟩
  simp only [allocate, wp_split]
  refine ⟨fun _ => refused _, fun positive => ?_⟩
  split
  · exact refused _
  · rename_i index found
    apply wp_withGrant lawful
    · exact fun after idle zero => ⟨idle.steps, allotted_of_refused zero⟩
    · exact fun _ after idle => idle.steps
    · intro grant memory usable fresh taken
      simp only [setManager, returnSuccess, setCpu, wp_rules]
      have table := table_insert world.manager index (grantedHandle grant (requestedKib extended world.cpu.edx * 1024))
      constructor
      · refine ⟨_, ?_, fun _ => taken⟩
        rw [table]
        exact .allocate index _ (freeIndex_free found) fresh (sized_of_usable positive usable) rfl
      · intro _
        refine ⟨index, _, ?_, freeIndex_free found, table⟩
        have bound := index.isLt
        simp only [low16_setLow16, UInt16.toNat_ofNat']
        omega

theorem free_spec (owned : (holdings live world).Owned) : Leaves (free ops) world (Steps live world) := by
  apply wp_withHandle (returnFailure_steps _)
  intro index allocated
  have inUse := owned_block owned allocated
  simp only [wp_ite]
  refine ⟨fun _ => returnFailure_steps _, fun unlocked => ?_⟩
  rw [wp_bind, wp_attempt, wp_callMemory]
  apply wp_mono (lawful.release _ _ _ inUse)
  · intro _ memory given
    simp only [setManager, returnSuccess, setCpu, wp_rules]
    refine ⟨_, ?_, fun _ => given⟩
    rw [table_erase]
    exact .free index _ (table_of_allocated allocated) (not_not.mp unlocked)
  · intro status memory same
    exact wp_memoryFault (fun _ => Idle.steps (idle_poisoned rfl))
      (fun certain => Idle.steps ⟨rfl, fun _ => same certain⟩)

/-- A reallocation that cannot be completed gives the new block back, or poisons the manager. -/
private theorem abandonGrant_spec {memory : Memory} {block : ℕ} {status : XmsMemoryError}
    (fresh : block ∉ liveBlocks live world)
    (taken : status ≠ .uncertain → live world.manager.memoryContext memory = insert block (liveBlocks live world)) :
    Leaves (abandonGrant ops block status) { world with memory } (Steps live world) := by
  simp only [abandonGrant, wp_rules]
  by_cases certain : status = .uncertain
  · apply wp_callMemory_any
    all_goals exact fun _ _ => wp_memoryFault (fun _ => Idle.steps (idle_poisoned rfl)) (fun known => absurd certain known)
  · have blocks := taken certain
    have inUse : block ∈ live world.manager.memoryContext memory := by
      rw [blocks]
      exact Set.mem_insert _ _
    rw [wp_callMemory]
    apply wp_mono (lawful.release _ _ _ inUse)
    · intro _ memory' given
      refine wp_memoryFault (fun lost => absurd lost certain) (fun _ => Idle.steps ⟨rfl, fun _ => ?_⟩)
      show live world.manager.memoryContext memory' = liveBlocks live world
      rw [given, blocks, Set.insert_sdiff_of_mem _ (Set.mem_singleton block), Set.sdiff_singleton_eq_self fresh]
    · intro _ memory' _
      exact wp_memoryFault (fun _ => Idle.steps (idle_poisoned rfl)) (fun _ => Idle.steps (idle_poisoned rfl))

theorem reallocate_spec (owned : (holdings live world).Owned) (extended : Bool) :
    Leaves (reallocate ops extended) world (Steps live world) := by
  apply wp_withHandle (returnFailure_steps _)
  intro index allocated
  have inUse := owned_block owned allocated
  simp only [wp_split]
  refine ⟨fun _ => returnFailure_steps _, fun unlocked => ⟨fun _ => returnFailure_steps _, fun positive =>
    ⟨fun fits => ?_, fun _ => ?_⟩⟩⟩
  · simp only [setManager, returnSuccess, setCpu, wp_modify]
    refine ⟨liveBlocks live world, ?_, fun _ => rfl⟩
    rw [table_setHandle allocated]
    exact .resize index _ _ (table_of_allocated allocated) (not_not.mp unlocked) (by omega) fits
  apply wp_withGrant lawful
  · exact fun after idle _ => idle.steps
  · exact fun _ after idle => idle.steps
  intro grant memory usable fresh taken
  rw [wp_bind, wp_attempt, wp_callMemory]
  apply wp_mono (harmless_copyExtendedBlock lawful _ _ _ _ memory)
  · intro _ copied same
    have blocks := Eq.trans same taken
    rw [wp_bind, wp_attempt, wp_callMemory]
    have inUse' : (world.manager.handles index).block ∈ live world.manager.memoryContext copied := by
      rw [blocks]
      exact Set.mem_insert_of_mem _ inUse
    apply wp_mono (lawful.release _ _ _ inUse')
    · intro _ released given
      simp only [setManager, returnSuccess, setCpu, wp_rules]
      refine ⟨_, ?_, fun _ => given.trans (by rw [blocks])⟩
      rw [table_setHandle allocated]
      exact .replace index _ _ (table_of_allocated allocated) (not_not.mp unlocked) fresh
        (sized_of_usable positive usable) rfl
    · intro status released kept
      exact abandonGrant_spec lawful fresh fun certain => (kept certain).trans blocks
  · intro status copied same
    exact abandonGrant_spec lawful fresh fun certain => (same certain).trans taken

omit lawful

private theorem idle_onA20 (action : A20M α) :
    Preserves (Idle live before) (attempt (onA20 action) : XmsM Memory (Except MachineError α)) := by
  intro world idle
  rw [wp_attempt, onA20, wp_focus]
  exact leaves_any fun _ => ⟨idle.table, idle.live⟩

private theorem idle_setLocalA20Locks (update : UInt16 → UInt16) :
    Preserves (Idle live before) (setLocalA20Locks update) :=
  preserves_modify fun _ idle => ⟨idle.table, idle.live⟩

variable (passive : Passive ops (Idle live before))

include passive

private theorem idle_a20Fault : Preserves (Idle live before) a20Fault := by
  apply preserves_get.bind
  intro world
  exact .ite passive.preserves_poisonedFault passive.preserves_returnFailure

private theorem idle_queryA20 : Preserves (Idle live before) (queryA20 a20) := by
  apply (idle_onA20 _).bind
  intro result
  split
  · exact (idle_a20Fault passive).bind fun _ => preserves_pure _
  · exact preserves_pure _

private theorem idle_ensureA20 (requested : Bool) : Preserves (Idle live before) (ensureA20 a20 requested) := by
  apply (idle_queryA20 passive).bind
  intro observed
  apply preserves_get.bind
  intro world
  apply Preserves.ite (preserves_pure _)
  apply Preserves.ite (preserves_pure _)
  apply (idle_onA20 _).bind
  intro result
  split
  · exact (idle_a20Fault passive).bind fun _ => preserves_pure _
  · exact preserves_pure _

private theorem idle_withA20 (requested : Bool) {achieved : XmsM Memory Unit}
    (kept : Preserves (Idle live before) achieved) : Preserves (Idle live before) (withA20 a20 requested achieved) := by
  apply (idle_ensureA20 passive requested).bind
  intro done
  exact .ite kept (preserves_pure _)

private theorem idle_localEnableA20 : Preserves (Idle live before) (localEnableA20 a20) := by
  apply preserves_get.bind
  intro world
  apply Preserves.ite passive.preserves_returnFailure
  apply idle_withA20 passive
  exact (idle_setLocalA20Locks _).bind fun _ => passive.preserves_returnSuccess

private theorem idle_localDisableA20 : Preserves (Idle live before) (localDisableA20 a20) := by
  apply preserves_get.bind
  intro world
  apply Preserves.ite passive.preserves_returnFailure
  apply Preserves.ite
  · apply idle_withA20 passive
    exact (idle_setLocalA20Locks _).bind fun _ => passive.preserves_returnFailure
  · apply idle_withA20 passive
    exact (idle_setLocalA20Locks _).bind fun _ => passive.preserves_returnSuccess

omit passive

theorem Steps.accounted (steps : Steps live before after) (owned : (holdings live before).Owned) : Accounted live after := by
  obtain ⟨blocks, step, known⟩ := steps
  intro clean
  rw [holdings, known clean]
  exact step.owned owned

theorem owned_empty (empty : world.manager.allocatedBitmap = 0#32) (unused : liveBlocks live world = ∅) :
    (holdings live world).Owned := by
  have table := table_empty empty
  constructor
  · simp only [holdings, table, unused, Option.map_none]
    exact Ledger.owns_empty
  · intro index handle holds
    simp only [holdings, table] at holds
    cases holds

include lawful

/-- Every function takes one step of the holdings. -/
theorem performFunction_spec (owned : (holdings live world).Owned) (function : XmsFunction) :
    wp (performFunction ops a20 function) world
      (fun _ after => Steps live world after ∧ ((∃ extended, function = .allocate extended) → Allotted world after))
      (fun _ => Steps live world) := by
  have passive : Passive ops (Idle live world) := idle_passive lawful
  -- All functions but allocation satisfy the second conjunct for want of a success to speak about.
  have other {action : XmsM Memory Unit} (steps : Leaves action world (Steps live world))
      (different : ¬ ∃ extended, function = .allocate extended := by simp) : wp action world
        (fun _ after => Steps live world after ∧ ((∃ extended, function = .allocate extended) → Allotted world after))
        (fun _ => Steps live world) :=
    wp_mono_done steps fun _ after step => ⟨step, fun same => absurd same different⟩
  have idle : ∀ {action : XmsM Memory Unit}, Preserves (Idle live world) action →
      Leaves action world (Steps live world) := by
    intro action kept
    exact Leaves.mono (kept world (Idle.refl world)) fun _ idle => idle.steps
  cases function with
  | version =>
    refine other ?_
    exact idle (passive.preserves_setCpu.bind fun _ => passive.preserves_hmaReportVersion)
  | requestHma => exact other (idle passive.preserves_hmaRequest)
  | releaseHma => exact other (idle passive.preserves_hmaRelease)
  | globalEnableA20 => exact other (idle (idle_withA20 passive _ passive.preserves_returnSuccess))
  | globalDisableA20 =>
    refine other ?_
    apply idle
    apply preserves_get.bind
    intro _
    exact .ite passive.preserves_returnFailure (idle_withA20 passive _ passive.preserves_returnSuccess)
  | localEnableA20 => exact other (idle (idle_localEnableA20 passive))
  | localDisableA20 => exact other (idle (idle_localDisableA20 passive))
  | queryA20 => exact other (idle ((idle_queryA20 passive).bind fun _ => passive.preserves_setCpu))
  | queryFree extended => exact other (idle (passive.preserves_queryFree extended))
  | allocate extended =>
    apply wp_mono (allocate_spec lawful extended)
    · exact fun _ after spec => ⟨spec.1, fun _ => spec.2⟩
    · exact fun _ after step => step
  | free => exact other (free_spec lawful owned)
  | move => exact other (idle passive.preserves_moveMemory)
  | lock => exact other lock_spec
  | unlock => exact other unlock_spec
  | handleInfo extended => exact other (idle (passive.preserves_handleInfo extended))
  | reallocate extended => exact other (reallocate_spec lawful owned extended)

theorem request_spec (accounted : Accounted live world) (registers : CpuState) : wp (request ops a20 registers) world
      (fun result after => Steps live world after ∧ Accounted live after ∧
        ((∃ extended, XmsFunction.ofByte (high8 registers.eax) = some (.allocate extended)) →
          after.cpu = result ∧ Allotted world after))
      (fun _ after => Steps live world after ∧ Accounted live after) := by
  have unchanged : Steps live world { world with cpu := registers } ∧ Accounted live { world with cpu := registers } :=
    ⟨Idle.steps ⟨rfl, fun _ => rfl⟩, accounted⟩
  simp only [request, dosXmsControl, setCpu, wp_rules]
  refine ⟨fun _ => unchanged, fun _ => ⟨fun _ => unchanged, fun clean => ?_⟩⟩
  have owned : (holdings live { world with cpu := registers }).Owned := accounted (not_not.mp clean)
  split
  · rename_i undefined
    refine ⟨unchanged.1, unchanged.2, ?_⟩
    rintro ⟨extended, defined⟩
    rw [undefined] at defined
    cases defined
  · rename_i function defined
    apply wp_mono (performFunction_spec lawful owned function)
    · rintro _ after ⟨steps, allotted⟩
      refine ⟨steps, steps.accounted owned, ?_⟩
      rintro ⟨extended, same⟩
      refine ⟨trivial, allotted ⟨extended, ?_⟩⟩
      rw [defined] at same
      exact Option.some.inj same
    · exact fun _ after steps => ⟨steps, steps.accounted owned⟩

theorem initialize_accounted {memoryContext : ℕ} {config : XmsConfig} (unused : live memoryContext world.memory = ∅) :
    wp (dosXmsInitialize ops a20 memoryContext config) world (fun _ => Accounted live) (fun _ _ => True) := by
  simp only [dosXmsInitialize, wp_all, onMemory]
  intro _
  apply wp_mono (lawful.query memoryContext world.memory)
  · intro free memory same
    simp only [onGuest, wp_rules, setManager]
    intro _
    refine wp_intro (fun _ guest _ _ => ?_) (fun _ _ _ => trivial)
    have blocks : live memoryContext memory = ∅ := Eq.trans same unused
    exact owned_empty rfl blocks
  · intro status _ _
    cases status <;> trivial

private theorem request_final (accounted : Accounted live world) (registers : CpuState) :
    Steps live world (final (request ops a20 registers) world) ∧
      Accounted live (final (request ops a20 registers) world) := by
  have both : Leaves (request ops a20 registers) world
    (fun after => Steps live world after ∧ Accounted live after) :=
    wp_mono_done (request_spec lawful accounted registers) (fun _ _ spec => ⟨spec.1, spec.2.1⟩)
  exact wp_final both

private theorem locked_through (calls : List CpuState) :
    ∀ {world : XmsWorld Memory} {handle : XmsHandle}, Accounted live world → world.manager.table index = some handle →
      LockedThrough ops a20 index world calls →
      ∃ handle', (replay (request ops a20) world calls).manager.table index = some handle' ∧
        handle'.block = handle.block ∧ handle'.physicalAddress = handle.physicalAddress := by
  induction calls with
  | nil => exact fun {world handle} _ holds _ => ⟨handle, holds, rfl, rfl⟩
  | cons registers rest ih =>
    rintro world handle accounted holds ⟨⟨found, atIndex, locked⟩, through⟩
    cases holds.symm.trans atIndex
    have called : Steps live world (final (request ops a20 registers) world) ∧ _ := request_final lawful accounted registers
    obtain ⟨⟨blocks, step, _⟩, accounted'⟩ := called
    obtain ⟨kept, keeps, block, address⟩ := step.locked holds locked
    obtain ⟨last, ends, block', address'⟩ := ih accounted' keeps through
    exact ⟨last, ends, block'.trans block, address'.trans address⟩

omit lawful

variable {memoryContext : ℕ} {config : XmsConfig} {origin start : XmsWorld Memory}
    {history : List (CpuState × Except XmsError CpuState)} (unused : live memoryContext origin.memory = ∅)
    (initialized : dosXmsInitialize ops a20 memoryContext config origin = .ok () start)
    (run : Runs (request ops a20) (fun _ _ => True) start history world)
include lawful unused initialized run

theorem run_accounted : Accounted live world := by
  have initial := wp_of_ok (initialize_accounted lawful unused) initialized
  apply run.invariant_state (Accounted live) initial
  intro state registers holds _
  exact wp_mono (request_spec lawful holds registers) (fun _ _ spec => spec.2.1) (fun _ _ spec => spec.2)

omit lawful unused initialized run

/-- Along every run of calls with any registers, the handles own exactly the live blocks. -/
theorem xms_blocks_owned (lawful : Lawful ops live) {memoryContext : ℕ} {config : XmsConfig}
    {origin start world : XmsWorld Memory} {history : List (CpuState × Except XmsError CpuState)}
    (unused : live memoryContext origin.memory = ∅)
    (initialized : dosXmsInitialize ops a20 memoryContext config origin = .ok () start)
    (run : Runs (request ops a20) (fun _ _ => True) start history world) : BlocksOwned ops a20 live world := by
  have accounted : Accounted live world := run_accounted lawful unused initialized run
  constructor
  · intro clean first second handle handle' atFirst atSecond same
    have blocks := (accounted clean).blocks
    have holdsFirst : (world.manager.table first).map XmsHandle.block = some handle.block := by
      rw [atFirst, Option.map_some]
    have holdsSecond : (world.manager.table second).map XmsHandle.block = some handle.block := by
      rw [atSecond, Option.map_some, same]
    exact blocks.distinct holdsFirst holdsSecond
  · intro clean block
    have blocks := (accounted clean).blocks
    exact (blocks.exact block).trans (by simp only [holdings, Option.map_eq_some_iff])
  · exact fun clean => (accounted clean).sized
  · exact fun calls index handle => locked_through lawful calls accounted
  · intro registers index handle handle' before after
    have called : Steps live world (final (request ops a20 registers) world) ∧ _ := request_final lawful accounted registers
    obtain ⟨⟨blocks, step, _⟩, _⟩ := called
    exact step.counted before after
  · intro registers extended result function returned succeeded
    obtain ⟨_, _, allotted⟩ := wp_outcome_ok (request_spec lawful accounted registers) returned
    obtain ⟨same, number⟩ := allotted ⟨extended, function⟩
    rw [← same] at succeeded ⊢
    exact number succeeded

/-- A backend that numbers its blocks upwards and never runs out. -/
def shelfOps : XmsMemoryOps (List ℕ) where
  query _ := pure ⟨0x100000, 0x100000, 0x20ffff⟩
  allocate _ bytes := fun blocks => .ok ⟨blocks.sum + 1, 0x110000, bytes⟩ ((blocks.sum + 1) :: blocks)
  release _ block := fun blocks =>
    if block ∈ blocks then .ok () (blocks.filter (· ≠ block)) else .error .fault blocks
  read _ _ _ count := pure (List.replicate count 0)
  write _ _ _ _ := pure ()
  queryHma := none

def shelfLive (_ : ℕ) (blocks : List ℕ) : Set ℕ := { block | block ∈ blocks }

theorem shelf_lawful : Lawful shelfOps shelfLive where
  query _ _ := rfl
  read _ _ _ _ _ := rfl
  write _ _ _ _ _ := rfl
  queryHma _ missing := by cases missing
  allocate _ bytes blocks := by
    refine ⟨fun member => ?_, ?_⟩
    · have small : blocks.sum + 1 ≤ blocks.sum := List.single_le_sum (fun _ _ => Nat.zero_le _) _ member
      omega
    · ext block
      simp [shelfLive]
  release _ block blocks inUse := by
    have member : block ∈ blocks := inUse
    simp only [shelfOps, wp, member, if_true]
    ext other
    simp [shelfLive]

def steadyA20 : A20Ops where
  setA20 := some fun _ requested _ => (none, requested)
  queryA20 := some fun _ enabled => .ok enabled

def steadyMachine : Machine where
  ops := some ⟨some fun _ => none, some fun _ => none⟩
  context := 1
  addressLimit := 0x110000
  a20Enabled := false
  poisoned := 0

def zeroCpu : CpuState := ⟨0, 0, 0, 0, 0, 0, 0, 0, 0, 0, 0, 0, 0, 0, 0, 0, 0⟩

def shelfOrigin : XmsWorld (List ℕ) where
  manager := { identity := 1, constructed := 1 }
  machine := steadyMachine
  line := ⟨false, 0⟩
  guest := ⟨fun _ => 0, 0⟩
  memory := []
  cpu := zeroCpu

def shelfStart : XmsWorld (List ℕ) := final (dosXmsInitialize shelfOps steadyA20 1 { hmaMinimumBytes := 0 }) shelfOrigin

/-- Allocate 4 KiB, then lock the block. -/
def shelfCalls : List CpuState := [{ zeroCpu with eax := 0x0900, edx := 4 }, { zeroCpu with eax := 0x0c00, edx := 1 }]

theorem xms_blocks_owned_shelf :
    BlocksOwned shelfOps steadyA20 shelfLive (replay (request shelfOps steadyA20) shelfStart shelfCalls) ∧
      ((replay (request shelfOps steadyA20) shelfStart shelfCalls).manager.table 0).map XmsHandle.lockCount = some 1 := by
  have initialized : dosXmsInitialize shelfOps steadyA20 1 { hmaMinimumBytes := 0 } shelfOrigin = .ok () shelfStart := rfl
  have unused : shelfLive 1 shelfOrigin.memory = ∅ := by simp [shelfLive, shelfOrigin]
  obtain ⟨history, run⟩ : ∃ history, Runs (request shelfOps steadyA20) (fun _ _ => True) shelfStart history _ :=
    Runs.extend .start shelfCalls
  exact ⟨xms_blocks_owned shelf_lawful unused initialized run, by decide +kernel⟩

end DosC32.XmsWorld
