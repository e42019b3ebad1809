import DosC32.Core.Bitmap
import DosC32.Model.Cpu

/-! # The EMS manager

`dos/ems/core.c` and `dos/ems/vcpi.c`: expanded-memory handles over a page backend, the four-slot page frame
over a mapping backend, and the VCPI page table behind the same interrupt. The callback tables of the source are
total records here; `struct dos_ems_page_frame_ops` keeps the two callbacks the manager makes.
-/

namespace DosC32

open Effect Register Bitmap Function

/-- `enum dos_ems_page_status` without `DOS_EMS_PAGE_OK`; `unknown` is a value outside the enumeration. -/
inductive EmsPageError where
  | noMemory
  | invalidBlock
  | fault
  | uncertain
  | unknown

/-- `enum dos_ems_page_frame_status` without `DOS_EMS_PAGE_FRAME_OK`. -/
inductive EmsFrameError where
  | unavailable
  | conflict
  | fault
  | uncertain
  | unknown

/-- `enum dos_vcpi_platform_status` without `DOS_VCPI_PLATFORM_OK`. -/
inductive VcpiPlatformError where
  | unsupported
  | fault
  | uncertain
  | unknown

/-- `enum dos_vcpi_handoff_status`. -/
inductive VcpiHandoffStatus where
  | completed
  | transferred
  | unsupported
  | fault
  | uncertain
  | unknown

/-- The two statuses of `enum dos_ems_status` that keep the caller's registers. -/
inductive EmsOutcome where
  | ready
  | executionTransferred

/-- The other statuses of `enum dos_ems_status`. -/
inductive EmsError where
  | invalidArgument
  | memoryFault
  | poisoned
deriving DecidableEq

def emsVersion : UInt8 := 0x40
def emsPageBytes : ℕ := 16384
def emsNativePageBytes : ℕ := 4096
def emsNativePagesPerPage : ℕ := emsPageBytes / emsNativePageBytes
def emsPageFrameSlots : ℕ := 4
def emsPageParagraphs : ℕ := emsPageBytes / 16
def emsVisiblePageLimit : ℕ := 0xffff
def emsGenerationMax : ℕ := 0xfffffffffffffffe
def emsBlockInvalid : ℕ := 0
def emsLeaseInvalid : ℕ := 0
def vcpiFirstMegabytePages : ℕ := 256
def vcpiSwitchStructureBytes : ℕ := 22

def emsStatusOk : UInt8 := 0x00
def emsStatusInvalidHandle : UInt8 := 0x83
def emsStatusInvalidFunction : UInt8 := 0x84
def emsStatusNoMoreHandles : UInt8 := 0x85
def emsStatusOutOfPages : UInt8 := 0x87
def emsStatusOutOfFreePages : UInt8 := 0x88
def emsStatusZeroPages : UInt8 := 0x89
def emsStatusLogicalPageInvalid : UInt8 := 0x8a
def emsStatusPhysicalPageInvalid : UInt8 := 0x8b

/-- `struct dos_ems_page_snapshot`. -/
structure EmsPageSnapshot where
  (largestFreePages totalFreePages managedPages highestAddress : ℕ)

/-- The outputs of one allocation callback. -/
structure EmsGrant where
  (block physicalAddress capacityPages : ℕ)

/-- `struct dos_ems_page_ops`; the first argument is the context. -/
structure EmsPageOps (Pages : Type) where
  query : ℕ → EStateM EmsPageError Pages EmsPageSnapshot
  allocate : ℕ → ℕ → EStateM EmsPageError Pages EmsGrant
  release : ℕ → ℕ → EStateM EmsPageError Pages Unit

/-- `struct dos_ems_page_frame_ops`; the first arguments are the context and the lease. -/
structure EmsFrameOps (Frame : Type) where
  map : ℕ → ℕ → Fin 4 → ℕ → EStateM EmsFrameError Frame Unit
  unmap : ℕ → ℕ → Fin 4 → EStateM EmsFrameError Frame Unit

/-- `enum dos_vcpi_handoff_kind`. -/
inductive VcpiHandoffKind where
  | getInterface
  | enterProtected
  | returnToV86

/-- `struct dos_vcpi_handoff_request`. -/
structure VcpiHandoffRequest where
  kind : VcpiHandoffKind
  callerMode : UInt32
  pageTableSegment : UInt16 := 0
  pageTableOffset : UInt16 := 0
  descriptorSegment : UInt16 := 0
  descriptorOffset : UInt16 := 0
  switchDataLinear : UInt32 := 0

/-- `struct dos_vcpi_platform_ops`. The hand-over may rewrite the caller's registers. -/
structure VcpiPlatformOps (Platform : Type) where
  translateLowPage : ℕ → UInt16 → EStateM VcpiPlatformError Platform ℕ
  readVirtualCr0 : ℕ → EStateM VcpiPlatformError Platform UInt32
  queryPicMappings : ℕ → EStateM VcpiPlatformError Platform (UInt8 × UInt8)
  setPicMappings : ℕ → UInt8 → UInt8 → EStateM VcpiPlatformError Platform Unit
  handoff : ℕ → VcpiHandoffRequest → CpuState → Platform → VcpiHandoffStatus × CpuState × Platform

/-- `struct dos_ems_page_frame_binding`. -/
structure EmsFrameBinding where
  context : ℕ := kernelObjectHandleInvalid
  lease : ℕ := emsLeaseInvalid
  linearAddress : ℕ := 0
  byteCount : ℕ := 0

/-- `struct dos_ems_config`. -/
structure EmsConfig where
  pageFrameSegment : UInt16
  reserved : UInt16 := 0
  reserved2 : UInt32 := 0

/-- `struct dos_ems_handle`. -/
structure EmsHandle where
  block : ℕ := 0
  generation : ℕ := 0
  physicalAddress : ℕ := 0
  pageCount : ℕ := 0
  capacityPages : ℕ := 0

/-- `struct dos_vcpi_allocation`. -/
structure VcpiAllocation where
  block : ℕ := 0
  generation : ℕ := 0
  physicalAddress : ℕ := 0
  capacityPages : ℕ := 0

/-- `struct dos_ems_page_frame_slot`. -/
structure EmsFrameSlot where
  physicalAddress : ℕ := 0
  handle : UInt16 := 0
  logicalPage : UInt16 := 0
  mapped : UInt8 := 0
  reserved : List UInt8 := List.replicate 3 0

/-- `struct dos_ems_manager` beside the callback tables, which never change. -/
structure EmsManager where
  pageContext : ℕ := kernelObjectHandleInvalid
  pageFrame : EmsFrameBinding := {}
  vcpiContext : ℕ := kernelObjectHandleInvalid
  allocatedHandles : BitVec 32 := 0
  vcpiAllocated : Fin 8 → BitVec 32 := fun _ => 0
  handles : Fin 32 → EmsHandle := fun _ => {}
  vcpiAllocations : Fin 256 → VcpiAllocation := fun _ => {}
  frameSlots : Fin 4 → EmsFrameSlot := fun _ => {}
  pageFrameSegment : UInt16 := 0
  initialized : UInt8 := 0
  constructed : UInt8 := 0
  poisoned : UInt8 := 0
  vcpiAvailable : UInt8 := 0
  reserved : List UInt8 := List.replicate 4 0

/-- Everything one interrupt can reach. -/
structure EmsWorld (Pages Frame Platform : Type) where
  manager : EmsManager
  pages : Pages
  frame : Frame
  platform : Platform
  cpu : CpuState

/-- The callback tables of a manager; VCPI is optional. -/
structure EmsOps (Pages Frame Platform : Type) where
  pages : EmsPageOps Pages
  frame : EmsFrameOps Frame
  vcpi : Option (VcpiPlatformOps Platform)

abbrev EmsM (Pages Frame Platform : Type) := EStateM EmsError (EmsWorld Pages Frame Platform)

/-- `service_config_is_valid`. -/
def serviceConfigIsValid (config : EmsConfig) : Prop :=
  config.reserved = 0 ∧ config.reserved2 = 0 ∧ config.pageFrameSegment.toNat % emsPageParagraphs = 0 ∧
    emsPageBytes * emsPageFrameSlots ≤ a20WrapAddress ∧
    config.pageFrameSegment.toNat * 16 ≤ a20WrapAddress - emsPageBytes * emsPageFrameSlots
deriving Decidable

/-- `frame_binding_is_valid`. -/
def frameBindingIsValid (binding : EmsFrameBinding) (config : EmsConfig) : Prop :=
  serviceConfigIsValid config ∧ identityIsValid binding.context ∧ binding.lease ≠ emsLeaseInvalid ∧
    binding.linearAddress = config.pageFrameSegment.toNat * 16 ∧ binding.byteCount = emsPageBytes * emsPageFrameSlots
deriving Decidable

/-- `dos_ems_page_snapshot_is_valid`. -/
def pageSnapshotIsValid (snapshot : EmsPageSnapshot) : Prop :=
  snapshot.managedPages ≠ 0 ∧ snapshot.largestFreePages ≤ snapshot.totalFreePages ∧
    snapshot.totalFreePages ≤ snapshot.managedPages ∧ snapshot.highestAddress ≥ emsNativePageBytes - 1 ∧
    snapshot.highestAddress % emsNativePageBytes = emsNativePageBytes - 1 ∧
    snapshot.managedPages ≤ snapshot.highestAddress / emsNativePageBytes + 1
deriving Decidable

/-- `dos_ems_allocation_result_is_valid`. -/
def allocationResultIsValid (block physicalAddress requestedPages capacityPages : ℕ) : Prop :=
  block ≠ emsBlockInvalid ∧ requestedPages ≠ 0 ∧ capacityPages ≥ requestedPages ∧
    capacityPages ≤ guest32AddressLimit / emsNativePageBytes ∧ physicalAddress % emsNativePageBytes = 0 ∧
    physicalAddress ≤ guest32AddressLimit - capacityPages * emsNativePageBytes
deriving Decidable

namespace EmsManager

variable (manager : EmsManager)

/-- `handle_bit_is_set`. -/
def handleBitIsSet (index : Fin 32) : Prop := test manager.allocatedHandles index = true
deriving Decidable

variable (index : Fin 256)

/-- The word of a VCPI bit. -/
def vcpiWord : Fin 8 := ⟨index / 32, by omega⟩

/-- `vcpi_bit_is_set`. -/
def vcpiBitIsSet : Prop :=
  test (manager.vcpiAllocated (vcpiWord index)) (index % 32) = true
deriving Decidable

/-- `resolve_handle`; the value is the position in the table. -/
def resolveHandle (visibleHandle : UInt16) : Option (Fin 32) :=
  if bound : visibleHandle.toNat ≠ 0 ∧ visibleHandle.toNat ≤ 32 then
    let index : Fin 32 := ⟨visibleHandle.toNat - 1, position_lt bound⟩
    if manager.handleBitIsSet index then some index else none
  else none

/-- `find_free_handle`. -/
def findFreeHandle : Option (Fin 32) :=
  (List.finRange 32).find? fun index =>
    ¬ manager.handleBitIsSet index ∧ (manager.handles index).generation < emsGenerationMax

/-- The test of `find_vcpi_slot` and `available_vcpi_slots`. -/
def vcpiSlotIsAvailable : Prop :=
  ¬ manager.vcpiBitIsSet index ∧ (manager.vcpiAllocations index).generation < emsGenerationMax
deriving Decidable

/-- `find_vcpi_slot`. -/
def findVcpiSlot : Option (Fin 256) := (List.finRange 256).find? fun index => manager.vcpiSlotIsAvailable index

/-- `available_vcpi_slots`. -/
def availableVcpiSlots : ℕ := (List.finRange 256).countP fun index => manager.vcpiSlotIsAvailable index

/-- `find_vcpi_physical_page`. -/
def findVcpiPhysicalPage (physicalAddress : UInt32) : Option (Fin 256) :=
  (List.finRange 256).find? fun index =>
    manager.vcpiBitIsSet index ∧ (manager.vcpiAllocations index).physicalAddress = physicalAddress.toNat

/-- The fields of a handle in use, as `handle_entry_is_valid` checks them. -/
def handleIsValid (handle : EmsHandle) : Prop :=
  handle.generation ≠ 0 ∧ handle.pageCount ≠ 0 ∧ handle.pageCount ≤ emsVisiblePageLimit ∧
    allocationResultIsValid handle.block handle.physicalAddress (handle.pageCount * emsNativePagesPerPage)
      handle.capacityPages
deriving Decidable

/-- `handle_entry_is_valid`. -/
def handleEntryIsValid (index : Fin 32) : Prop :=
  (manager.handles index).generation ≤ emsGenerationMax ∧
    (manager.handleBitIsSet index → handleIsValid (manager.handles index)) ∧
    (¬ manager.handleBitIsSet index → (manager.handles index).block = emsBlockInvalid ∧
      (manager.handles index).physicalAddress = 0 ∧ (manager.handles index).pageCount = 0 ∧
      (manager.handles index).capacityPages = 0)
deriving Decidable

/-- The fields of a VCPI page in use, as `vcpi_entry_is_valid` checks them. -/
def vcpiIsValid (allocation : VcpiAllocation) : Prop :=
  allocation.generation ≠ 0 ∧
    allocationResultIsValid allocation.block allocation.physicalAddress 1 allocation.capacityPages
deriving Decidable

/-- `vcpi_entry_is_valid`. -/
def vcpiEntryIsValid : Prop :=
  (manager.vcpiAllocations index).generation ≤ emsGenerationMax ∧
    (manager.vcpiBitIsSet index → vcpiIsValid (manager.vcpiAllocations index)) ∧
    (¬ manager.vcpiBitIsSet index → (manager.vcpiAllocations index).block = emsBlockInvalid ∧
      (manager.vcpiAllocations index).physicalAddress = 0 ∧ (manager.vcpiAllocations index).capacityPages = 0)
deriving Decidable

/-- The slot shows the page of an allocated handle that it names. -/
def slotShowsPage (slot : EmsFrameSlot) : Prop :=
  match manager.resolveHandle slot.handle with
  | none => False
  | some position =>
    slot.logicalPage.toNat < (manager.handles position).pageCount ∧
      slot.physicalAddress = (manager.handles position).physicalAddress + slot.logicalPage.toNat * emsPageBytes

instance (slot : EmsFrameSlot) : Decidable (manager.slotShowsPage slot) :=
  match resolved : manager.resolveHandle slot.handle with
  | none => isFalse (by simp [slotShowsPage, resolved])
  | some position => decidable_of_iff
      (slot.logicalPage.toNat < (manager.handles position).pageCount ∧
        slot.physicalAddress = (manager.handles position).physicalAddress + slot.logicalPage.toNat * emsPageBytes)
      (by simp [slotShowsPage, resolved])

/-- `frame_slot_is_valid`. -/
def frameSlotIsValid (index : Fin 4) : Prop :=
  (manager.frameSlots index).reserved.all (· == 0) ∧
    ((manager.frameSlots index).mapped = 0 → (manager.frameSlots index).physicalAddress = 0 ∧
      (manager.frameSlots index).handle = 0 ∧ (manager.frameSlots index).logicalPage = 0) ∧
    ((manager.frameSlots index).mapped ≠ 0 → (manager.frameSlots index).mapped = 1 ∧
      manager.slotShowsPage (manager.frameSlots index))
deriving Decidable

/-- The checks on the binding of the VCPI platform. -/
def vcpiBindingIsValid {Platform : Type} (vcpi : Option (VcpiPlatformOps Platform)) : Prop :=
  manager.vcpiAvailable ≤ 1 ∧
    (manager.vcpiAvailable ≠ 0 → vcpi.isSome = true ∧ identityIsValid manager.vcpiContext) ∧
    (manager.vcpiAvailable = 0 → vcpi.isSome = false ∧ ¬ identityIsValid manager.vcpiContext)
deriving Decidable

/-- `manager_state_is_valid`. -/
def managerStateIsValid {Platform : Type} (vcpi : Option (VcpiPlatformOps Platform)) : Prop :=
  identityIsValid manager.pageContext ∧
    frameBindingIsValid manager.pageFrame { pageFrameSegment := manager.pageFrameSegment } ∧
    manager.vcpiBindingIsValid vcpi ∧ manager.reserved.all (· == 0) ∧
    (∀ index, manager.handleEntryIsValid index) ∧ (∀ index, manager.vcpiEntryIsValid index) ∧
    ∀ index, manager.frameSlotIsValid index
deriving Decidable

/-- A free position takes a granted block. -/
def takeHandle (index : Fin 32) (grant : EmsGrant) (pageCount : ℕ) : EmsManager :=
  { manager with
    handles := update manager.handles index
      { block := grant.block
        generation := (manager.handles index).generation + 1
        physicalAddress := grant.physicalAddress
        pageCount
        capacityPages := grant.capacityPages }
    allocatedHandles := insert manager.allocatedHandles index }

/-- The slots of a mask are cleared. -/
def clearSlots (mask : BitVec 32) : EmsManager :=
  { manager with frameSlots := fun index => if test mask index = true then {} else manager.frameSlots index }

/-- A position gives its block back and keeps its generation. -/
def dropHandle (index : Fin 32) : EmsManager :=
  { manager with
    handles := update manager.handles index { generation := (manager.handles index).generation }
    allocatedHandles := erase manager.allocatedHandles index }

def setSlot (index : Fin 4) (slot : EmsFrameSlot) : EmsManager :=
  { manager with frameSlots := update manager.frameSlots index slot }

/-- A free VCPI entry takes a granted block. -/
def takePage (index : Fin 256) (grant : EmsGrant) : EmsManager :=
  { manager with
    vcpiAllocations := update manager.vcpiAllocations index
      { block := grant.block
        generation := (manager.vcpiAllocations index).generation + 1
        physicalAddress := grant.physicalAddress
        capacityPages := grant.capacityPages }
    vcpiAllocated := update manager.vcpiAllocated (vcpiWord index)
      (insert (manager.vcpiAllocated (vcpiWord index)) (index % 32)) }

/-- A VCPI entry gives its block back and keeps its generation. -/
def dropPage (index : Fin 256) : EmsManager :=
  { manager with
    vcpiAllocations := update manager.vcpiAllocations index
      { generation := (manager.vcpiAllocations index).generation }
    vcpiAllocated := update manager.vcpiAllocated (vcpiWord index)
      (erase (manager.vcpiAllocated (vcpiWord index)) (index % 32)) }

end EmsManager

/-- The functions selected by AH. -/
inductive EmsFunction where
  | status
  | pageFrame
  | pageCounts
  | allocate
  | map
  | release
  | version
  | vcpi

def EmsFunction.ofByte (function : UInt8) : Option EmsFunction :=
  match function.toNat with
  | 0x40 => some .status
  | 0x41 => some .pageFrame
  | 0x42 => some .pageCounts
  | 0x43 => some .allocate
  | 0x44 => some .map
  | 0x45 => some .release
  | 0x46 => some .version
  | 0xde => some .vcpi
  | _ => none

/-- The VCPI functions selected by AL. -/
inductive VcpiFunction where
  | presence
  | getInterface
  | getMaximumAddress
  | getFreePages
  | allocatePage
  | freePage
  | translateLowPage
  | readCr0
  | getPicMappings
  | setPicMappings
  | switchMode

def VcpiFunction.ofByte (function : UInt8) : Option VcpiFunction :=
  match function.toNat with
  | 0x00 => some .presence
  | 0x01 => some .getInterface
  | 0x02 => some .getMaximumAddress
  | 0x03 => some .getFreePages
  | 0x04 => some .allocatePage
  | 0x05 => some .freePage
  | 0x06 => some .translateLowPage
  | 0x07 => some .readCr0
  | 0x0a => some .getPicMappings
  | 0x0b => some .setPicMappings
  | 0x0c => some .switchMode
  | _ => none

/-- `protected_caller_function_is_valid`. -/
def VcpiFunction.protectedCallerIsValid : VcpiFunction → Bool
  | .getFreePages | .allocatePage | .freePage | .switchMode => true
  | _ => false

namespace EmsWorld

variable {Pages Frame Platform α : Type} (ops : EmsOps Pages Frame Platform)

/-- One callback of the page backend, made with the manager's context. -/
def callPages (callback : ℕ → EStateM EmsPageError Pages α) : EStateM EmsPageError (EmsWorld Pages Frame Platform) α := do
  let world ← get
  focus (·.pages) (fun pages world => { world with pages }) (callback world.manager.pageContext)

/-- One callback of the page-frame backend, made with the manager's binding. -/
def callFrame (callback : ℕ → ℕ → EStateM EmsFrameError Frame α) :
    EStateM EmsFrameError (EmsWorld Pages Frame Platform) α := do
  let world ← get
  focus (·.frame) (fun frame world => { world with frame })
    (callback world.manager.pageFrame.context world.manager.pageFrame.lease)

/-- One callback of the VCPI platform. -/
def callPlatform (callback : ℕ → EStateM VcpiPlatformError Platform α) :
    EStateM VcpiPlatformError (EmsWorld Pages Frame Platform) α := do
  let world ← get
  focus (·.platform) (fun platform world => { world with platform }) (callback world.manager.vcpiContext)

def setManager (update : EmsManager → EmsManager) : EmsM Pages Frame Platform Unit :=
  modify fun world => { world with manager := update world.manager }

def setCpu (update : CpuState → CpuState) : EmsM Pages Frame Platform Unit :=
  modify fun world => { world with cpu := update world.cpu }

/-- The manager is poisoned. -/
def poisonedFault : EmsM Pages Frame Platform α := do
  setManager fun manager => { manager with poisoned := 1 }
  throw .poisoned

/-- `dos_ems_return_status`. -/
def returnStatus (status : UInt8) : EmsM Pages Frame Platform EmsOutcome := do
  setCpu fun cpu => { cpu with eax := setHigh8 cpu.eax status }
  pure .ready

/-- `dos_ems_page_fault`. -/
def pageFault : EmsPageError → EmsM Pages Frame Platform α
  | .noMemory | .fault => throw .memoryFault
  | .invalidBlock | .uncertain | .unknown => poisonedFault

/-- `frame_operation_status`. -/
def frameOperationStatus : EmsFrameError → EmsM Pages Frame Platform α
  | .unavailable | .conflict | .fault => throw .memoryFault
  | .uncertain | .unknown => poisonedFault

/-- `dos_ems_query_pages`. -/
def queryPages : EmsM Pages Frame Platform EmsPageSnapshot := do
  let world ← get
  failWhen (¬ identityIsValid world.manager.pageContext) .invalidArgument
  failWhen (world.manager.poisoned ≠ 0) .poisoned
  match ← attempt (callPages ops.pages.query) with
  | .error status => pageFault status
  | .ok snapshot => if ¬ pageSnapshotIsValid snapshot then poisonedFault else pure snapshot

/-- `visible_ems_pages`. -/
def visibleEmsPages (nativePages : ℕ) : UInt16 :=
  UInt16.ofNat (min (nativePages / emsNativePagesPerPage) emsVisiblePageLimit)

/-- `query_page_counts`. -/
def queryPageCounts : EmsM Pages Frame Platform EmsOutcome := do
  let snapshot ← queryPages ops
  setCpu fun cpu => { cpu with
    ebx := setLow16 cpu.ebx (visibleEmsPages snapshot.totalFreePages)
    edx := setLow16 cpu.edx (visibleEmsPages snapshot.managedPages) }
  returnStatus emsStatusOk

/-- The allocation callback with the checks and exits that both allocations share;
`dos_ems_reject_invalid_allocation` is the refusal of its outputs. -/
def withGrant (requestedPages : ℕ) (granted : EmsGrant → EmsM Pages Frame Platform EmsOutcome) :
    EmsM Pages Frame Platform EmsOutcome := do
  match ← attempt (callPages (ops.pages.allocate · requestedPages)) with
  | .error .noMemory => returnStatus emsStatusOutOfFreePages
  | .error status => pageFault status
  | .ok grant =>
    if ¬ allocationResultIsValid grant.block grant.physicalAddress requestedPages grant.capacityPages then do
      let _ ← attempt (callPages (ops.pages.release · grant.block))
      poisonedFault
    else granted grant

/-- `allocate_handle`. -/
def allocateHandle : EmsM Pages Frame Platform EmsOutcome := do
  let world ← get
  let requestedPages := (low16 world.cpu.ebx).toNat
  if requestedPages = 0 then returnStatus emsStatusZeroPages
  else
    match world.manager.findFreeHandle with
    | none => returnStatus emsStatusNoMoreHandles
    | some index => do
      let requestedNativePages := requestedPages * emsNativePagesPerPage
      let snapshot ← queryPages ops
      if requestedNativePages > snapshot.managedPages then returnStatus emsStatusOutOfPages
      else if requestedNativePages > snapshot.totalFreePages ∨ requestedNativePages > snapshot.largestFreePages then
        returnStatus emsStatusOutOfFreePages
      else
        withGrant ops requestedNativePages fun grant => do
          setManager (·.takeHandle index grant requestedPages)
          setCpu fun cpu => { cpu with edx := setLow16 cpu.edx (UInt16.ofNat (index + 1)) }
          returnStatus emsStatusOk

/-- `unmap_frame_slot`. -/
def unmapFrameSlot (physicalPage : Fin 4) : EmsM Pages Frame Platform Unit := do
  let world ← get
  if (world.manager.frameSlots physicalPage).mapped = 0 then pure ()
  else
    match ← attempt (callFrame fun context lease => ops.frame.unmap context lease physicalPage) with
    | .error status => frameOperationStatus status
    | .ok () => setManager (·.setSlot physicalPage {})

/-- `map_handle_page`. -/
def mapHandlePage : EmsM Pages Frame Platform EmsOutcome := do
  let world ← get
  let logicalPage := low16 world.cpu.ebx
  let visibleHandle := low16 world.cpu.edx
  let physicalPage := low8 world.cpu.eax
  if bound : physicalPage.toNat < 4 then
    let page : Fin 4 := ⟨physicalPage.toNat, bound⟩
    if logicalPage = 0xffff then do
      unmapFrameSlot ops page
      returnStatus emsStatusOk
    else
      match world.manager.resolveHandle visibleHandle with
      | none => returnStatus emsStatusInvalidHandle
      | some index =>
        let handle := world.manager.handles index
        let nativePageOffset := logicalPage.toNat * emsNativePagesPerPage
        if logicalPage.toNat ≥ handle.pageCount then returnStatus emsStatusLogicalPageInvalid
        else if handle.capacityPages < emsNativePagesPerPage ∨
            nativePageOffset > handle.capacityPages - emsNativePagesPerPage then poisonedFault
        else do
          let physicalAddress := handle.physicalAddress + nativePageOffset * emsNativePageBytes
          match ← attempt (callFrame fun context lease => ops.frame.map context lease page physicalAddress) with
          | .error status => frameOperationStatus status
          | .ok () =>
            setManager (·.setSlot page { physicalAddress, handle := visibleHandle, logicalPage, mapped := 1 })
            returnStatus emsStatusOk
  else returnStatus emsStatusPhysicalPageInvalid

/-- The loop of `restore_frame_slots`. -/
def restoreLoop (mask : BitVec 32) : List (Fin 4) → EmsM Pages Frame Platform Bool
  | [] => pure true
  | index :: rest =>
    if test mask index = true then do
      let world ← get
      match ← attempt (callFrame fun context lease =>
        ops.frame.map context lease index (world.manager.frameSlots index).physicalAddress) with
      | .error _ => pure false
      | .ok () => restoreLoop mask rest
    else restoreLoop mask rest

/-- `restore_frame_slots`: the highest slot first. -/
def restoreFrameSlots (mask : BitVec 32) : EmsM Pages Frame Platform Bool := restoreLoop ops mask [3, 2, 1, 0]

/-- The first loop of `release_handle`; the error carries the slots unmapped so far. -/
def unmapLoop (visibleHandle : UInt16) :
    List (Fin 4) → BitVec 32 → EStateM (EmsFrameError × BitVec 32) (EmsWorld Pages Frame Platform) (BitVec 32)
  | [], mask => pure mask
  | index :: rest, mask => do
    let world ← get
    if (world.manager.frameSlots index).mapped = 0 ∨ (world.manager.frameSlots index).handle ≠ visibleHandle then
      unmapLoop visibleHandle rest mask
    else do
      mapError (fun status => (status, mask)) (callFrame fun context lease => ops.frame.unmap context lease index)
      unmapLoop visibleHandle rest (insert mask index)

/-- Put the slots of a mask back and report a memory fault, or poison the manager. -/
def restoreOrPoison (mask : BitVec 32) : EmsM Pages Frame Platform α := do
  if ← restoreFrameSlots ops mask then throw .memoryFault else poisonedFault

/-- `release_handle`. -/
def releaseHandle : EmsM Pages Frame Platform EmsOutcome := do
  let world ← get
  let visibleHandle := low16 world.cpu.edx
  match world.manager.resolveHandle visibleHandle with
  | none => returnStatus emsStatusInvalidHandle
  | some index => do
    match ← attempt (unmapLoop ops visibleHandle [0, 1, 2, 3] 0) with
    | .error (.uncertain, _) | .error (.unknown, _) => poisonedFault
    | .error (_, mask) => restoreOrPoison ops mask
    | .ok mask =>
      match ← attempt (callPages (ops.pages.release · (world.manager.handles index).block)) with
      | .error .fault => restoreOrPoison ops mask
      | .error _ => poisonedFault
      | .ok () =>
        setManager fun manager => (manager.clearSlots mask).dropHandle index
        returnStatus emsStatusOk

end EmsWorld

end DosC32
