import DosC32.Model.Memory

/-! # Generation-checked leases of arena blocks

`dos/memory_lease.c`: a fixed table of slots, each standing for one block that an EXEC transaction
allocated and may still roll back. A handle packs the identity of the table, the generation of the
slot and its index; a slot is reused only at the next generation and retires at the last one. The
arena is the one of `dos/memory.c`; table and arena are updated one after the other.
-/

namespace DosC32

open Effect Memory

/-- `enum dos_memory_lease_status` without `DOS_MEMORY_LEASE_OK`. -/
inductive LeaseError where
  | invalidArgument
  | noSlot
  | notEnoughMemory
  | invalidBlock
  | arenaDamaged
  | machineFault
  | machinePoisoned
  | staleHandle
  | ownerMismatch
  | contextMismatch
  | identityMismatch
  | generationExhausted
  | invalidState

def leaseSlotCount : ℕ := 16
def leaseSlotMask : UInt64 := 0x0f
def leaseGenerationShift : UInt64 := 4
def leaseTableIdentityShift : UInt64 := 32
def leaseGenerationMax : UInt64 := 0x0fffffff
def leaseTableIdentityInvalid : UInt32 := 0xffffffff

def leaseSlotVacant : UInt8 := 0
def leaseSlotAcquiring : UInt8 := 1
def leaseSlotActive : UInt8 := 2
def leaseSlotReleasing : UInt8 := 3
def leaseSlotReleased : UInt8 := 4
def leaseSlotAborted : UInt8 := 5
def leaseSlotPublished : UInt8 := 6

/-- `struct dos_memory_lease_slot`. -/
structure LeaseSlot where
  generation : UInt64
  (machineContext arenaIdentity arenaGeneration : ℕ)
  (arenaHeadSegment guestSegment owner paragraphs : UInt16)
  lifetimeIdentity : UInt32
  state : UInt8
  reserved : Fin 3 → UInt8

/-- `struct dos_memory_lease_table`. -/
structure LeaseTable where
  slots : Fin 16 → LeaseSlot
  lifetimeIdentity : UInt32
  (initialized constructed : UInt8)
  reserved : Fin 2 → UInt8

/-- `struct dos_memory_lease_receipt`. -/
structure LeaseReceipt where
  handle : UInt64
  (guestSegment paragraphs maximumAvailable reserved : UInt16)

/-- `struct dos_memory_lease_view`. -/
structure LeaseView where
  handle : UInt64
  (machineContext arenaIdentity arenaGeneration : ℕ)
  (guestSegment paragraphs owner reserved : UInt16)

/-- `struct dos_memory_lease_rebind_plan`. -/
structure LeaseRebindPlan where
  handle : UInt64
  (machineContext arenaIdentity arenaGeneration : ℕ)
  value : OwnerRebindValue
  (guestSegment paragraphs arenaHeadSegment : UInt16)
  reserved : Fin 2 → UInt8

/-- The native table, and the arena with its guest memory. -/
structure LeaseState where
  table : LeaseTable
  memory : ArenaState

abbrev LeaseM := EStateM LeaseError LeaseState

/-- `table_identity_is_valid`. -/
def tableIdentityIsValid (identity : UInt32) : Prop := identity ≠ 0 ∧ identity ≠ leaseTableIdentityInvalid
deriving Decidable

namespace LeaseSlot

variable (slot : LeaseSlot)

/-- `slot_has_valid_encoding`. -/
def hasValidEncoding (lifetimeIdentity : UInt32) : Prop :=
  slot.generation ≤ leaseGenerationMax ∧ slot.lifetimeIdentity = lifetimeIdentity ∧
    slot.state ≤ leaseSlotPublished ∧ ∀ index, slot.reserved index = 0
deriving Decidable

/-- `slot_is_reusable`. -/
def isReusable : Prop :=
  slot.state = leaseSlotVacant ∨ slot.state = leaseSlotReleased ∨ slot.state = leaseSlotAborted ∨
    slot.state = leaseSlotPublished
deriving Decidable

/-- `clear_slot_identity`. -/
def clearIdentity : LeaseSlot := { slot with
  machineContext := kernelObjectHandleInvalid, arenaIdentity := kernelObjectHandleInvalid, arenaGeneration := 0,
  arenaHeadSegment := 0, guestSegment := 0, owner := 0, paragraphs := 0, reserved := fun _ => 0 }

/-- A slot as construction and initialization leave it. -/
def blank (lifetimeIdentity : UInt32) : LeaseSlot :=
  { ({ slot with generation := 0 } : LeaseSlot).clearIdentity with lifetimeIdentity, state := leaseSlotVacant }

end LeaseSlot

namespace LeaseTable

/-- `table_has_valid_encoding`. -/
def hasValidEncoding (table : LeaseTable) : Prop :=
  table.constructed = 1 ∧ table.initialized = 1 ∧ tableIdentityIsValid table.lifetimeIdentity ∧
    (∀ index, table.reserved index = 0) ∧ ∀ index, (table.slots index).hasValidEncoding table.lifetimeIdentity
deriving Decidable

end LeaseTable

namespace Lease

/-- `make_handle`. -/
def makeHandle (lifetimeIdentity : UInt32) (slot : Fin 16) (generation : UInt64) : UInt64 :=
  (lifetimeIdentity.toUInt64 <<< leaseTableIdentityShift) ||| (generation <<< leaseGenerationShift) |||
    UInt64.ofNat slot.val

section Handles

variable (handle : UInt64)

def handleIdentity : UInt32 := (handle >>> leaseTableIdentityShift).toUInt32

def handleGeneration : UInt64 := (handle >>> leaseGenerationShift) &&& leaseGenerationMax

def handleSlot : Fin 16 := Fin.ofNat 16 (handle &&& leaseSlotMask).toNat

/-- `decode_handle`; the three fields are the functions above. -/
def decodeHandle : LeaseM Unit := do
  failWhen (handle = 0) .invalidArgument
  failWhen (¬ tableIdentityIsValid (handleIdentity handle)) .invalidArgument
  failWhen (handleGeneration handle = 0) .staleHandle

end Handles

/-- `memory_status_to_lease_status`. -/
def memoryStatusToLeaseStatus : MemoryError → LeaseError
  | .invalidArgument => .invalidArgument
  | .invalidBlock => .invalidBlock
  | .notEnoughMemory => .notEnoughMemory
  | .arenaDamaged => .arenaDamaged
  | .machineFault => .machineFault
  | .machinePoisoned => .machinePoisoned
  | .ownerMismatch => .ownerMismatch
  | .identityMismatch => .identityMismatch
  | .generationExhausted => .generationExhausted

/-- An arena operation on the memory component of the state. -/
def onArena {ε α : Type} (action : EStateM ε ArenaState α) : EStateM ε LeaseState α :=
  focus LeaseState.memory (fun memory state => { state with memory }) action

def modifySlot (index : Fin 16) (update : LeaseSlot → LeaseSlot) : LeaseM Unit :=
  modify fun state => { state with table := { state.table with
    slots := Function.update state.table.slots index (update (state.table.slots index)) } }

/-- `dos_memory_lease_table_construct`. -/
def tableConstruct (lifetimeIdentity : UInt32) : LeaseM Unit := do
  failWhen (¬ tableIdentityIsValid lifetimeIdentity) .invalidArgument
  modify fun state => { state with table :=
    ⟨fun index => (state.table.slots index).blank lifetimeIdentity, lifetimeIdentity, 0, 1, fun _ => 0⟩ }

/-- `dos_memory_lease_table_initialize`. -/
def tableInitialize : LeaseM Unit := do
  let table := (← get).table
  failWhen (table.constructed ≠ 1 ∨ table.initialized > 1 ∨ ¬ tableIdentityIsValid table.lifetimeIdentity ∨
    ¬ ∀ index, table.reserved index = 0) .invalidArgument
  failWhen (table.initialized ≠ 0) .invalidState
  modify fun state => { state with table := { state.table with
    slots := fun index => (state.table.slots index).blank state.table.lifetimeIdentity
    initialized := 1, constructed := 1 } }

variable (machine : Machine)

/-- `reserve_slot`: the first reusable slot that is not retired. -/
def reserveSlot (owner paragraphs : UInt16) : LeaseM (Fin 16) := do
  let slots := (← get).table.slots
  let arena := (← get).memory.arena
  match (List.finRange 16).find? (fun index =>
    (slots index).isReusable ∧ (slots index).generation ≠ leaseGenerationMax) with
  | none =>
    if ∀ index, (slots index).generation = leaseGenerationMax then throw .generationExhausted else throw .noSlot
  | some index =>
    modifySlot index fun slot => { slot with
      generation := slot.generation + 1, machineContext := machine.context, arenaIdentity := arena.identity,
      arenaGeneration := arena.generation, arenaHeadSegment := arena.headSegment, guestSegment := 0, owner,
      paragraphs, state := leaseSlotAcquiring }
    pure index

/-- `acquire_common`. -/
def acquireCommon (owner : UInt16) (namedOwner : Option OwnerIdentity) (paragraphs : UInt16) :
    LeaseM LeaseReceipt := do
  let state ← get
  let arena := state.memory.arena
  failWhen (¬ state.table.hasValidEncoding ∨ ¬ arena.flagsHaveValidEncoding ∨ owner = 0 ∨ arena.initialized ≠ 1 ∨
    ¬ identityIsValid arena.identity ∨ arena.generation = 0 ∨ ∃ named ∈ namedOwner, named.pspSegment ≠ owner)
    .invalidArgument
  failWhen (arena.machinePoisoned = 1) .machinePoisoned
  let index ← reserveSlot machine owner paragraphs
  let allocating := match namedOwner with
    | none => allocate machine owner paragraphs
    | some named => allocateNamed machine named paragraphs
  match ← attempt (onArena allocating) with
  | .error (refusal : Refusal) => do
    modifySlot index fun slot => { slot.clearIdentity with state := leaseSlotVacant }
    throw (memoryStatusToLeaseStatus refusal.status)
  | .ok allocation => do
    modifySlot index fun slot => { slot with guestSegment := allocation.blockSegment, state := leaseSlotActive }
    let table := (← get).table
    pure ⟨makeHandle table.lifetimeIdentity index (table.slots index).generation, allocation.blockSegment,
      paragraphs, allocation.maximumAvailable, 0⟩

/-- `dos_memory_lease_acquire`. -/
def acquire (owner : OwnerIdentity) (paragraphs : UInt16) : LeaseM LeaseReceipt :=
  acquireCommon machine owner.pspSegment (some owner) paragraphs

/-- `dos_memory_lease_acquire_unnamed`. -/
def acquireUnnamed (owner paragraphs : UInt16) : LeaseM LeaseReceipt :=
  acquireCommon machine owner none paragraphs

variable (handle : UInt64) (expectedOwner : UInt16)

/-- `find_slot`. -/
def findSlot : LeaseM (Fin 16) := do
  let state ← get
  let arena := state.memory.arena
  failWhen (¬ state.table.hasValidEncoding ∨ ¬ arena.flagsHaveValidEncoding ∨ machine.ops.isNone ∨
    arena.initialized ≠ 1 ∨ ¬ identityIsValid arena.identity ∨ arena.generation = 0 ∨ expectedOwner = 0)
    .invalidArgument
  decodeHandle handle
  failWhen (handleIdentity handle ≠ state.table.lifetimeIdentity) .identityMismatch
  failWhen ((handleSlot handle).val ≥ leaseSlotCount) .staleHandle
  let slot := state.table.slots (handleSlot handle)
  failWhen (slot.generation ≠ handleGeneration handle ∨ slot.state = leaseSlotVacant) .staleHandle
  failWhen (slot.machineContext ≠ machine.context) .contextMismatch
  failWhen (slot.arenaIdentity ≠ arena.identity) .identityMismatch
  failWhen (slot.arenaHeadSegment ≠ arena.headSegment ∨ slot.arenaGeneration ≠ arena.generation) .staleHandle
  failWhen (slot.owner ≠ expectedOwner) .ownerMismatch
  pure (handleSlot handle)

/-- The prologue shared by the calls that need an ACTIVE lease on a healthy arena. -/
def findActiveSlot : LeaseM (Fin 16) := do
  let index ← findSlot machine handle expectedOwner
  failWhen (((← get).table.slots index).state ≠ leaseSlotActive) .invalidState
  failWhen ((← get).memory.arena.machinePoisoned ≠ 0) .machinePoisoned
  pure index

/-- `dos_memory_lease_resolve_active`. -/
def resolveActive : LeaseM LeaseView := do
  let index ← findActiveSlot machine handle expectedOwner
  let slot := (← get).table.slots index
  pure ⟨handle, slot.machineContext, slot.arenaIdentity, slot.arenaGeneration, slot.guestSegment, slot.paragraphs,
    slot.owner, 0⟩

variable (newOwner : UInt16)

/-- `transfer_owner_common`. -/
def transferOwnerCommon (namedNewOwner : Option OwnerIdentity) (namePatch : Option OwnerNamePatch) : LeaseM Unit := do
  failWhen (newOwner = 0 ∨ (namedNewOwner.isSome ∧ namePatch.isSome) ∨
    ∃ named ∈ namedNewOwner, named.pspSegment ≠ newOwner) .invalidArgument
  let index ← findActiveSlot machine handle expectedOwner
  let guestSegment := ((← get).table.slots index).guestSegment
  mapError memoryStatusToLeaseStatus (onArena (match namePatch, namedNewOwner with
    | some patch, _ => transferOwnerNamePatch machine guestSegment expectedOwner newOwner patch
    | none, none => transferOwner machine guestSegment expectedOwner newOwner
    | none, some named => transferNamedOwner machine guestSegment expectedOwner named))
  modifySlot index fun slot => { slot with owner := newOwner }

/-- `dos_memory_lease_transfer_owner`. -/
def transferOwner : LeaseM Unit :=
  transferOwnerCommon machine handle expectedOwner newOwner none none

/-- `dos_memory_lease_transfer_named_owner`. -/
def transferNamedOwner (newOwner : OwnerIdentity) : LeaseM Unit := do
  failWhen (newOwner.pspSegment = 0) .invalidArgument
  transferOwnerCommon machine handle expectedOwner newOwner.pspSegment (some newOwner) none

/-- `dos_memory_lease_transfer_owner_name_patch`. -/
def transferOwnerNamePatch (patch : OwnerNamePatch) : LeaseM Unit := do
  failWhen (¬ patch.isValid) .invalidArgument
  transferOwnerCommon machine handle expectedOwner newOwner none (some patch)

variable (plan : LeaseRebindPlan)

/-- `dos_memory_lease_rebind_plan_has_valid_encoding`. -/
def rebindPlanHasValidEncoding : Prop :=
  plan.handle ≠ 0 ∧ plan.machineContext ≠ kernelObjectHandleInvalid ∧ identityIsValid plan.arenaIdentity ∧
    plan.arenaGeneration ≠ 0 ∧ (∀ index, plan.reserved index = 0) ∧ plan.value.hasValidEncoding ∧
    plan.value.headerSegment = plan.guestSegment - 1
deriving Decidable

/-- `prepare_rebind_common`. -/
def prepareRebindCommon (namePatch : Option OwnerNamePatch) : LeaseM LeaseRebindPlan := do
  failWhen (newOwner = 0) .invalidArgument
  let index ← findActiveSlot machine handle expectedOwner
  let slot := (← get).table.slots index
  let value ← mapError memoryStatusToLeaseStatus (onArena (match namePatch with
    | none => prepareOwnerRebind machine slot.guestSegment expectedOwner newOwner
    | some patch => prepareOwnerNamePatchRebind machine slot.guestSegment expectedOwner newOwner patch))
  let prepared : LeaseRebindPlan := ⟨handle, slot.machineContext, slot.arenaIdentity, slot.arenaGeneration, value,
    slot.guestSegment, slot.paragraphs, slot.arenaHeadSegment, fun _ => 0⟩
  failWhen (¬ rebindPlanHasValidEncoding prepared) .arenaDamaged
  pure prepared

/-- `dos_memory_lease_prepare_owner_rebind`. -/
def prepareOwnerRebind : LeaseM LeaseRebindPlan :=
  prepareRebindCommon machine handle expectedOwner newOwner none

/-- `dos_memory_lease_prepare_owner_name_patch_rebind`. -/
def prepareOwnerNamePatchRebind (patch : OwnerNamePatch) : LeaseM LeaseRebindPlan := do
  failWhen (¬ patch.isValid) .invalidArgument
  prepareRebindCommon machine handle expectedOwner newOwner (some patch)

/-- `dos_memory_lease_preflight_rebind_publish`. -/
def preflightRebindPublish : LeaseM Unit := do
  failWhen (¬ rebindPlanHasValidEncoding plan) .invalidArgument
  let index ← findSlot machine plan.handle plan.value.expectedOwner
  let slot := (← get).table.slots index
  failWhen ((← get).memory.arena.machinePoisoned ≠ 0) .machinePoisoned
  failWhen (slot.state ≠ leaseSlotActive) .invalidState
  failWhen (slot.machineContext ≠ plan.machineContext) .contextMismatch
  failWhen (slot.arenaIdentity ≠ plan.arenaIdentity) .identityMismatch
  failWhen (slot.arenaGeneration ≠ plan.arenaGeneration ∨ slot.arenaHeadSegment ≠ plan.arenaHeadSegment ∨
    slot.guestSegment ≠ plan.guestSegment ∨ slot.paragraphs ≠ plan.paragraphs) .staleHandle

/-- `dos_memory_lease_rebind_publish`. -/
def rebindPublish : LeaseM Unit := do
  preflightRebindPublish machine plan
  let index ← findSlot machine plan.handle plan.value.expectedOwner
  modifySlot index fun slot => { slot with owner := plan.value.newOwner, state := leaseSlotPublished }

/-- `dos_memory_lease_preflight_publish`. -/
def preflightPublish : LeaseM Unit := do
  let index ← findSlot machine handle expectedOwner
  failWhen ((← get).memory.arena.machinePoisoned ≠ 0) .machinePoisoned
  failWhen (((← get).table.slots index).state ≠ leaseSlotActive) .invalidState

/-- `dos_memory_lease_publish`. -/
def publish : LeaseM Unit := do
  let index ← findSlot machine handle expectedOwner
  failWhen ((← get).memory.arena.machinePoisoned ≠ 0) .machinePoisoned
  if ((← get).table.slots index).state = leaseSlotPublished then pure () else do
    failWhen (((← get).table.slots index).state ≠ leaseSlotActive) .invalidState
    modifySlot index fun slot => { slot with state := leaseSlotPublished }

/-- `finish_active_lease`. -/
def finishActiveLease (aborting : Bool) : LeaseM Unit := do
  let index ← findSlot machine handle expectedOwner
  let slot := (← get).table.slots index
  if aborting ∧ (slot.state = leaseSlotAborted ∨ slot.state = leaseSlotReleased) then pure () else do
    failWhen (slot.state ≠ leaseSlotActive) .invalidState
    modifySlot index fun slot => { slot with state := leaseSlotReleasing }
    match ← attempt (onArena (freeOwned machine slot.guestSegment expectedOwner)) with
    | .error (status : MemoryError) => do
      modifySlot index fun slot => { slot with state := leaseSlotActive }
      throw (memoryStatusToLeaseStatus status)
    | .ok () =>
      modifySlot index fun slot => { slot with state := if aborting then leaseSlotAborted else leaseSlotReleased }

/-- `dos_memory_lease_release`. -/
def release : LeaseM Unit :=
  finishActiveLease machine handle expectedOwner false

/-- `dos_memory_lease_abort`. -/
def abort : LeaseM Unit :=
  finishActiveLease machine handle expectedOwner true

end Lease

end DosC32
