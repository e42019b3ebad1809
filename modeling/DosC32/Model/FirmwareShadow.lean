import DosC32.Model.GuestMemory
import DosC32.Model.Paging

/-! # Private copies of firmware pages

`kernel/x86_vm/memory/firmware_shadow.c`: a write fault on a firmware page gives the guest a private
copy of it, which is taken back when the last execution client leaves. The answers of the zeroing
callback and whether the page could be copied are part of the calls.
-/

namespace DosC32

open Effect

/-- `enum x86_firmware_shadow_status` without `X86_FIRMWARE_SHADOW_OK`. -/
inductive FirmwareShadowError where
  | invalidArgument
  | invalidState
  | machineMismatch
  | staleBinding
  | notApplicable
  | capacityExhausted
  | noMemory
  | retry
  | pagingMismatch
  | poisoned
deriving DecidableEq

/-- `enum x86_firmware_page_state`. -/
inductive FirmwarePageState where
  | empty
  | leased
  | active
  | restored
deriving DecidableEq

/-- `struct x86_firmware_client_slot`. -/
structure FirmwareClientSlot where
  (generation executionGeneration : ℕ)
  active : Bool

/-- `struct x86_firmware_shadow_page`. -/
structure FirmwareShadowPage where
  snapshot : PagingShadowSnapshot
  (lease linearPage physicalPage : ℕ)
  state : FirmwarePageState

/-- `struct x86_guest_space_firmware_binding`. -/
structure FirmwareBinding where
  (addressSpaceIdentity addressSpaceGeneration machineIdentity executionGeneration clientGeneration : ℕ)
  clientSlot : ℕ
  reserved : List UInt8

namespace FirmwareShadow

def clientCapacity : ℕ := 8
def pageCapacity : ℕ := (X86Paging.legacyRomLimit - X86Paging.dosVideoLimit) / X86Paging.pageBytes
def generationMax : ℕ := 2 ^ 64 - 2
def firmwareFirstGeneration : ℕ := 1
/-- `X86_FIRMWARE_WRITE_FAULT`: present, write and user. -/
def firmwareWriteFault : BitVec 32 := 0x7

end FirmwareShadow

/-- `struct x86_firmware_shadow_owner`. -/
structure FirmwareShadowOwner where
  paging : PagingBinding
  clients : Fin FirmwareShadow.clientCapacity → FirmwareClientSlot
  pages : Fin FirmwareShadow.pageCapacity → FirmwareShadowPage
  (addressSpaceIdentity machineIdentity addressSpaceGeneration executionGeneration clientCount pageCount : ℕ)
  (initialized poisoned cleanupCorrupted : Bool)

/-- The owner with what it works on. -/
structure FirmwareState where
  owner : FirmwareShadowOwner
  paging : X86Paging
  memory : GuestMemoryManager

namespace FirmwareShadow

open X86Paging

abbrev FirmwareM := EStateM FirmwareShadowError FirmwareState

/-- A page record with every byte zero. -/
def emptyPage : FirmwareShadowPage := ⟨⟨⟨0, 0, 0⟩, 0, 0, [0, 0, 0, 0, 0, 0, 0, 0]⟩, 0, 0, 0, .empty⟩

/-- `owner_is_active`. -/
def ownerIsActive (state : FirmwareState) : Bool :=
  state.owner.initialized && !state.owner.poisoned && state.paging.bindingIsActive state.owner.paging

variable (owner : FirmwareShadowOwner)

/-- `binding_header_matches` and the slot it names. -/
def bindingSlot (binding : FirmwareBinding) : Option (Fin clientCapacity) :=
  if inside : binding.clientSlot < clientCapacity then
    if binding.addressSpaceIdentity = owner.addressSpaceIdentity ∧
        binding.addressSpaceGeneration = owner.addressSpaceGeneration ∧
        binding.machineIdentity = owner.machineIdentity ∧ binding.executionGeneration = owner.executionGeneration ∧
        binding.reserved.all (· == 0) then some ⟨binding.clientSlot, inside⟩
    else none
  else none

/-- `resolve_client`. -/
def resolveClient (binding : FirmwareBinding) : Option (Fin clientCapacity) :=
  (bindingSlot owner binding).filter fun slot =>
    (owner.clients slot).generation == binding.clientGeneration &&
      (owner.clients slot).executionGeneration == binding.executionGeneration

/-- `find_page`. -/
def findPage (linearPage : ℕ) : Option (Fin pageCapacity) :=
  (List.finRange pageCapacity).find? fun index =>
    decide ((owner.pages index).state ≠ .empty) && (owner.pages index).linearPage == linearPage

/-- `find_empty_page`. -/
def findEmptyPage : Option (Fin pageCapacity) :=
  (List.finRange pageCapacity).find? fun index => decide ((owner.pages index).state = .empty)

variable (index : Fin pageCapacity)

def setPage (page : FirmwareShadowPage) : FirmwareShadowOwner :=
  { owner with pages := Function.update owner.pages index page }

/-- `clear_page`. -/
def clearPage (owner : FirmwareShadowOwner) : FirmwareShadowOwner :=
  { setPage owner index emptyPage with pageCount := owner.pageCount - 1 }

def changeOwner (change : FirmwareShadowOwner → FirmwareShadowOwner) : FirmwareM Unit :=
  modify fun state => { state with owner := change state.owner }

def setPageState (pageState : FirmwarePageState) (owner : FirmwareShadowOwner) : FirmwareShadowOwner :=
  setPage owner index { owner.pages index with state := pageState }

variable {α : Type}

/-- Run a procedure of the page tables. -/
def onPaging (action : PagingM α) : FirmwareM (Except PagingShadowError α) :=
  attempt (focus (·.paging) (fun paging state => { state with paging }) action)

/-- Run a procedure of the page manager. -/
def onMemory (action : GuestMemory.GuestMemoryM α) : FirmwareM (Except GuestMemoryError α) :=
  attempt (focus (·.memory) (fun memory state => { state with memory }) action)

/-- Poison the owner and give up. -/
def poisonOwner : FirmwareM α := do
  changeOwner fun owner => { owner with poisoned := true }
  throw .poisoned

/-- What `release_private_page` makes of the outcome of a restoration; true if the mapping had to be forced. -/
def settleRestore : Except PagingShadowError Unit → FirmwareM Bool
  | .ok _ => do
    changeOwner (setPageState index .restored)
    pure false
  | .error .mappingMismatch => do
    changeOwner fun owner => { setPageState index .restored owner with cleanupCorrupted := true }
    pure true
  | .error _ => throw .poisoned

/-- The first part of `release_private_page`: an active page gets its original mapping back. -/
def restorePrivatePage : FirmwareM Bool := do
  let state ← get
  if (state.owner.pages index).state = .active then do
    let outcome ← onPaging (guestShadowRestore (state.owner.pages index).snapshot (state.owner.pages index).physicalPage)
    settleRestore index outcome
  else pure false

/-- What `release_private_page` makes of the answer of the page manager. -/
def settleLease : Except GuestMemoryError Unit → FirmwareM Unit
  | .ok _ => changeOwner (clearPage index)
  | .error .zeroFailed => throw .retry
  | .error _ => throw .poisoned

/-- The second part of `release_private_page`: the lease of the page is returned. -/
def returnLease (zero : GuestZeroStatus) : FirmwareM Unit := do
  let state ← get
  failWhen ((state.owner.pages index).state ≠ .leased ∧ (state.owner.pages index).state ≠ .restored) .poisoned
  let outcome ← onMemory (GuestMemory.release state.owner.addressSpaceIdentity (state.owner.pages index).lease zero)
  settleLease index outcome

/-- `release_private_page`. -/
def releasePrivatePage (zero : GuestZeroStatus) : FirmwareM Bool := do
  let corrupted ← restorePrivatePage index
  returnLease index zero
  pure corrupted

/-- What `rollback_private_page` makes of the outcome of the release. -/
def settleRollback (original : FirmwareShadowError) : Except FirmwareShadowError Bool → FirmwareM α
  | .ok false => throw original
  | _ => poisonOwner

/-- `rollback_private_page`. -/
def rollbackPrivatePage (index : Fin pageCapacity) (zero : GuestZeroStatus) (original : FirmwareShadowError) :
    FirmwareM α := do
  let outcome ← attempt (releasePrivatePage index zero)
  settleRollback original outcome

variable (addressSpaceIdentity machineIdentity addressSpaceGeneration : ℕ)

/-- The owner that `x86_firmware_shadow_initialize` stores. -/
def initialOwner (paging : PagingBinding) :
    FirmwareShadowOwner where
  paging := paging
  clients := fun _ => ⟨0, 0, false⟩
  pages := fun _ => emptyPage
  addressSpaceIdentity := addressSpaceIdentity
  machineIdentity := machineIdentity
  addressSpaceGeneration := addressSpaceGeneration
  executionGeneration := 0
  clientCount := 0
  pageCount := 0
  initialized := true
  poisoned := false
  cleanupCorrupted := false

/-- `x86_firmware_shadow_initialize`. -/
def firmwareShadowInitialize (paging : PagingBinding) : FirmwareM Unit := do
  failWhen (¬ identityIsValid addressSpaceIdentity ∨ ¬ identityIsValid machineIdentity ∨
    addressSpaceIdentity = machineIdentity ∨ addressSpaceGeneration = 0) .invalidArgument
  let state ← get
  failWhen (state.owner.initialized = true) .invalidState
  failWhen (state.paging.bindingIsActive paging = false) .pagingMismatch
  changeOwner fun _ => initialOwner addressSpaceIdentity machineIdentity addressSpaceGeneration paging

/-- The checks that acquire and write fault share. -/
def requireActive : FirmwareM Unit := do
  failWhen (¬ identityIsValid machineIdentity) .invalidArgument
  let state ← get
  failWhen (ownerIsActive state = false ∧ state.owner.poisoned = true) .poisoned
  failWhen (ownerIsActive state = false) .invalidState
  failWhen (machineIdentity ≠ state.owner.machineIdentity) .machineMismatch

/-- The first client begins a new execution. -/
def beginExecution : FirmwareM Unit := do
  let state ← get
  if state.owner.clientCount ≠ 0 then pure ()
  else if state.owner.pageCount ≠ 0 ∨ state.owner.executionGeneration ≥ generationMax then poisonOwner
  else changeOwner fun owner => { owner with
    executionGeneration := max (owner.executionGeneration + 1) firmwareFirstGeneration }

/-- The first client slot that is neither active nor exhausted. -/
def findClientSlot (owner : FirmwareShadowOwner) : Option (Fin clientCapacity) :=
  (List.finRange clientCapacity).find? fun index =>
    !(owner.clients index).active && decide ((owner.clients index).generation < generationMax)

variable (slot : Fin clientCapacity)

/-- A client slot is taken. -/
def takeClientSlot (owner : FirmwareShadowOwner) : FirmwareShadowOwner :=
  { owner with
    clients := Function.update owner.clients slot
      ⟨(owner.clients slot).generation + 1, owner.executionGeneration, true⟩
    clientCount := owner.clientCount + 1 }

/-- `x86_firmware_shadow_execution_acquire`. -/
def executionAcquire : FirmwareM FirmwareBinding := do
  requireActive machineIdentity
  beginExecution
  let state ← get
  let slot ← demand (findClientSlot state.owner) .capacityExhausted
  changeOwner (takeClientSlot slot)
  pure ⟨state.owner.addressSpaceIdentity, state.owner.addressSpaceGeneration, state.owner.machineIdentity,
    state.owner.executionGeneration, (state.owner.clients slot).generation + 1, slot, [0, 0, 0, 0]⟩

/-- What `execution_release` makes of the release of one page. -/
def settleRelease : Except FirmwareShadowError Bool → FirmwareM Bool
  | .ok corrupted => pure corrupted
  | .error .retry => throw .retry
  | .error _ => poisonOwner

/-- The loop of `execution_release`; `zeros` are the answers of the zeroing callback. -/
def releasePages (zeros : Fin pageCapacity → GuestZeroStatus) : List (Fin pageCapacity) → FirmwareM Bool
  | [] => pure false
  | index :: rest => do
    let state ← get
    if (state.owner.pages index).state = .empty then releasePages zeros rest
    else do
      let outcome ← attempt (releasePrivatePage index (zeros index))
      let corrupted ← settleRelease outcome
      let others ← releasePages zeros rest
      pure (corrupted || others)

/-- A client leaves. -/
def dropClient (remaining : ℕ) (owner : FirmwareShadowOwner) : FirmwareShadowOwner :=
  { owner with
    clients := Function.update owner.clients slot { owner.clients slot with active := false }, clientCount := remaining }

/-- The last checks of `execution_release`. -/
def finishRelease (corrupted : Bool) : FirmwareM Unit := do
  let state ← get
  if state.owner.pageCount ≠ 0 ∨ corrupted = true ∨ state.owner.cleanupCorrupted = true then poisonOwner else pure ()

variable (binding : FirmwareBinding) (zeros : Fin pageCapacity → GuestZeroStatus)

/-- An active client leaves; the last one takes the private pages with it. -/
def leaveClient : FirmwareM Unit := do
  let state ← get
  failWhen (state.owner.poisoned = true) .poisoned
  if state.owner.clientCount = 0 then poisonOwner
  else if state.owner.clientCount > 1 then changeOwner (dropClient slot (state.owner.clientCount - 1))
  else do
    let corrupted ← releasePages zeros (List.finRange pageCapacity).reverse
    changeOwner (dropClient slot 0)
    finishRelease corrupted

/-- The checks that release and quarantine share; the result is the slot of the client. -/
def requireClient : FirmwareM (Fin clientCapacity) := do
  failWhen (¬ identityIsValid machineIdentity) .invalidArgument
  let state ← get
  failWhen (state.owner.initialized = false) .invalidState
  failWhen (machineIdentity ≠ state.owner.machineIdentity) .machineMismatch
  demand (resolveClient state.owner binding) .staleBinding

/-- `x86_firmware_shadow_execution_release`. -/
def executionRelease : FirmwareM Unit := do
  let slot ← requireClient machineIdentity binding
  let state ← get
  if (state.owner.clients slot).active = false then pure () else leaveClient slot zeros

/-- What the outcome of a forced restoration does to the record of the page. -/
def markRestored : Except PagingShadowError Unit → FirmwareM Unit
  | .ok _ | .error .mappingMismatch => changeOwner (setPageState index .restored)
  | .error _ => pure ()

/-- An active page gets its original mapping back; its lease is kept. -/
def stripPage : FirmwareM Unit := do
  let state ← get
  if (state.owner.pages index).state = .active then do
    let outcome ← onPaging (guestShadowRestore (state.owner.pages index).snapshot (state.owner.pages index).physicalPage)
    markRestored index outcome
  else pure ()

/-- The loop of `execution_quarantine`. -/
def stripPages : List (Fin pageCapacity) → FirmwareM Unit
  | [] => pure ()
  | index :: rest => do
    stripPage index
    stripPages rest

/-- `x86_firmware_shadow_execution_quarantine`. -/
def executionQuarantine : FirmwareM Unit := do
  let _ ← requireClient machineIdentity binding
  stripPages (List.finRange pageCapacity)
  poisonOwner

/-- `memory_allocation_status`. -/
def memoryAllocationStatus : GuestMemoryError → FirmwareShadowError
  | .noMemory | .noLease | .zeroFailed => .noMemory
  | .poisoned => .poisoned
  | _ => .invalidState

/-- The page that the manager allocated, or the status that its refusal becomes. -/
def settleAllocation : Except GuestMemoryError (ℕ × ℕ) → FirmwareM (ℕ × ℕ)
  | .ok result => pure result
  | .error status => do
    if memoryAllocationStatus status = .poisoned then poisonOwner else throw (memoryAllocationStatus status)

/-- A write fault on a page that has a record. -/
def faultOnRecord (faultAddress : ℕ) : FirmwareM Unit := do
  let state ← get
  if (state.owner.pages index).state = .active ∧
      (state.paging.guestShadowTranslate (state.owner.pages index).snapshot (state.owner.pages index).physicalPage
        faultAddress true).isSome then pure ()
  else do
    stripPage index
    poisonOwner

/-- The lease is as it was issued. -/
def leaseIsExpected (owner : FirmwareShadowOwner) (physicalPage : ℕ) : Except GuestMemoryError GuestLeaseInfo → Bool
  | .ok info => info.owner == owner.addressSpaceIdentity && info.physicalAddress == physicalPage && info.pageCount == 1
  | .error _ => false

variable (zero : GuestZeroStatus)

/-- Go on, or roll the page back. -/
def keepOrRollback (keep : Bool) (original : FirmwareShadowError) : FirmwareM Unit :=
  if keep then pure () else rollbackPrivatePage index zero original

/-- The snapshot, or roll the page back. -/
def takeSnapshot :
    Except PagingShadowError PagingShadowSnapshot → FirmwareM Unit
  | .ok snapshot => changeOwner fun owner => setPage owner index { owner.pages index with snapshot }
  | .error _ => rollbackPrivatePage index zero .pagingMismatch

/-- Publish the private page, or roll it back. -/
def publishPage : FirmwareM Unit := do
  let state ← get
  let outcome ← onPaging (guestShadowPublish (state.owner.pages index).snapshot (state.owner.pages index).physicalPage)
  keepOrRollback index zero outcome.isOk .pagingMismatch
  changeOwner (setPageState index .active)

/-- The record of a page that was just leased. -/
def leasedPage (lease linearPage physicalPage : ℕ) : FirmwareShadowPage :=
  { emptyPage with lease, linearPage, physicalPage, state := .leased }

/-- The snapshot, the copy and the publication of a page that was just leased. -/
def shadowPage (linearPage : ℕ) (copied : Bool) (rollbackZero : GuestZeroStatus) : FirmwareM Unit := do
  let state ← get
  let snapshot ← onPaging (guestShadowSnapshot state.owner.paging linearPage)
  takeSnapshot index rollbackZero snapshot
  keepOrRollback index rollbackZero copied .invalidState
  publishPage index rollbackZero

/-- A write fault on a page without a record. -/
def faultOnOriginal (linearPage : ℕ) (allocateZero : GuestZeroStatus) (copied : Bool) (rollbackZero : GuestZeroStatus) :
    FirmwareM Unit := do
  let state ← get
  failWhen (state.owner.pageCount ≥ pageCapacity) .capacityExhausted
  match findEmptyPage state.owner with
  | none => poisonOwner
  | some index => do
    let allocation ← onMemory (GuestMemory.allocate state.owner.addressSpaceIdentity 1 allocateZero)
    let result ← settleAllocation allocation
    changeOwner fun owner => { setPage owner index (leasedPage result.1 linearPage result.2) with
      pageCount := owner.pageCount + 1 }
    let info ← onMemory (GuestMemory.inspect result.1)
    keepOrRollback index rollbackZero (leaseIsExpected state.owner result.2 info) .invalidState
    shadowPage index linearPage copied rollbackZero

/-- `x86_firmware_shadow_write_fault`; the answers of the callbacks are those of the allocation, of the copy and of the
release in a rollback. -/
def writeFault (machineIdentity : ℕ) (binding : FirmwareBinding) (pageFaultError : BitVec 32) (faultAddress : ℕ)
    (allocateZero : GuestZeroStatus) (copied : Bool) (rollbackZero : GuestZeroStatus) : FirmwareM Unit := do
  requireActive machineIdentity
  let state ← get
  let slot ← demand (resolveClient state.owner binding) .staleBinding
  failWhen ((state.owner.clients slot).active = false) .staleBinding
  failWhen (pageFaultError ≠ firmwareWriteFault ∨ faultAddress < dosVideoLimit ∨ legacyRomLimit ≤ faultAddress)
    .notApplicable
  match findPage state.owner (faultAddress / pageBytes * pageBytes) with
  | some index => faultOnRecord index faultAddress
  | none => faultOnOriginal (faultAddress / pageBytes * pageBytes) allocateZero copied rollbackZero

/-- `x86_firmware_shadow_translate`. -/
def translate (state : FirmwareState) (address : ℕ) (writable : Bool) : Option PagingTranslation :=
  if ownerIsActive state = false ∨ state.owner.paging.guestLinearLimit ≤ address then none
  else match findPage state.owner (address / pageBytes * pageBytes) with
    | none => state.paging.guestIdentityTranslate state.owner.paging address writable
    | some index =>
      if (state.owner.pages index).state ≠ .active then none
      else state.paging.guestShadowTranslate (state.owner.pages index).snapshot (state.owner.pages index).physicalPage
        address writable

end FirmwareShadow

end DosC32
