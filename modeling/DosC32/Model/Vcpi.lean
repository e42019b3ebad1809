import DosC32.Model.Ems

/-! # VCPI and the EMS interrupt

`dos/ems/vcpi.c` with the entry points of `dos/ems/core.c`. The caller's registers are restored when a call
ends with a fault, whatever the service did to them before.
-/

namespace DosC32

open Effect Register

def cpuReal16 : UInt32 := 0
def cpuVm86 : UInt32 := 1
def cpuProtected16 : UInt32 := 2
def cpuProtected32 : UInt32 := 3

/-- `dos_cpu_mode_value_is_valid`. -/
def cpuModeValueIsValid (mode : UInt32) : Prop :=
  mode = cpuReal16 ∨ mode = cpuVm86 ∨ mode = cpuProtected16 ∨ mode = cpuProtected32
deriving Decidable

namespace EmsWorld

variable {Pages Frame Platform α : Type} (ops : EmsOps Pages Frame Platform) (vcpi : VcpiPlatformOps Platform)

/-- `platform_failure`. -/
def platformFailure : VcpiPlatformError → EmsM Pages Frame Platform EmsOutcome
  | .unsupported => returnStatus emsStatusInvalidFunction
  | .fault => throw .memoryFault
  | .uncertain | .unknown => poisonedFault

/-- `vcpi_get_maximum_address`. -/
def vcpiGetMaximumAddress : EmsM Pages Frame Platform EmsOutcome := do
  let snapshot ← queryPages ops
  let address := snapshot.highestAddress / emsNativePageBytes * emsNativePageBytes
  setCpu fun cpu => { cpu with edx := UInt32.ofNat (min address (guest32AddressLimit - emsNativePageBytes)) }
  returnStatus emsStatusOk

/-- `vcpi_get_free_pages`. -/
def vcpiGetFreePages : EmsM Pages Frame Platform EmsOutcome := do
  let snapshot ← queryPages ops
  let available := (← get).manager.availableVcpiSlots
  setCpu fun cpu => { cpu with edx := UInt32.ofNat (min (min snapshot.totalFreePages available) 0xffffffff) }
  returnStatus emsStatusOk

/-- `vcpi_allocate_page`. -/
def vcpiAllocatePage : EmsM Pages Frame Platform EmsOutcome := do
  let world ← get
  match world.manager.findVcpiSlot with
  | none => returnStatus emsStatusOutOfFreePages
  | some index =>
    withGrant ops 1 fun grant => do
      setManager (·.takePage index grant)
      setCpu fun cpu => { cpu with edx := UInt32.ofNat grant.physicalAddress }
      returnStatus emsStatusOk

/-- `vcpi_free_page`. -/
def vcpiFreePage : EmsM Pages Frame Platform EmsOutcome := do
  let world ← get
  if world.cpu.edx.toNat % emsNativePageBytes ≠ 0 then returnStatus emsStatusLogicalPageInvalid
  else
    match world.manager.findVcpiPhysicalPage world.cpu.edx with
    | none => returnStatus emsStatusLogicalPageInvalid
    | some index => do
      match ← attempt (callPages (ops.pages.release · (world.manager.vcpiAllocations index).block)) with
      | .error status => pageFault status
      | .ok () =>
        setManager (·.dropPage index)
        returnStatus emsStatusOk

/-- `vcpi_translate_low_page`. -/
def vcpiTranslateLowPage : EmsM Pages Frame Platform EmsOutcome := do
  let page := low16 (← get).cpu.ecx
  if page.toNat ≥ vcpiFirstMegabytePages then returnStatus emsStatusPhysicalPageInvalid
  else do
    match ← attempt (callPlatform (vcpi.translateLowPage · page)) with
    | .error status => platformFailure status
    | .ok physicalAddress =>
      if physicalAddress > guest32AddressLimit - emsNativePageBytes ∨ physicalAddress % emsNativePageBytes ≠ 0 then
        poisonedFault
      else do
        setCpu fun cpu => { cpu with edx := UInt32.ofNat physicalAddress }
        returnStatus emsStatusOk

/-- `vcpi_read_cr0`. -/
def vcpiReadCr0 : EmsM Pages Frame Platform EmsOutcome := do
  match ← attempt (callPlatform vcpi.readVirtualCr0) with
  | .error status => platformFailure status
  | .ok virtualCr0 =>
    setCpu fun cpu => { cpu with ebx := virtualCr0 }
    returnStatus emsStatusOk

/-- `vcpi_get_pic_mappings`. -/
def vcpiGetPicMappings : EmsM Pages Frame Platform EmsOutcome := do
  match ← attempt (callPlatform vcpi.queryPicMappings) with
  | .error status => platformFailure status
  | .ok (masterBase, slaveBase) =>
    setCpu fun cpu => { cpu with
      ebx := setLow16 cpu.ebx masterBase.toUInt16
      ecx := setLow16 cpu.ecx slaveBase.toUInt16 }
    returnStatus emsStatusOk

/-- `vcpi_set_pic_mappings`. -/
def vcpiSetPicMappings : EmsM Pages Frame Platform EmsOutcome := do
  let world ← get
  let masterBase := low16 world.cpu.ebx
  let slaveBase := low16 world.cpu.ecx
  if masterBase > 0xff ∨ slaveBase > 0xff then returnStatus emsStatusInvalidFunction
  else do
    match ← attempt (callPlatform (vcpi.setPicMappings · masterBase.toUInt8 slaveBase.toUInt8)) with
    | .error status => platformFailure status
    | .ok () => returnStatus emsStatusOk

/-- The request built by `vcpi_handoff`; there is none for switch data beyond the first megabyte. -/
def handoffRequest (cpu : CpuState) (interfaceRequest : Bool) : Option VcpiHandoffRequest :=
  if interfaceRequest then
    some { kind := .getInterface, callerMode := cpu.mode, pageTableSegment := cpu.es,
           pageTableOffset := low16 cpu.edi, descriptorSegment := cpu.ds,
           descriptorOffset := low16 cpu.esi }
  else if cpu.mode = cpuReal16 ∨ cpu.mode = cpuVm86 then
    if cpu.esi.toNat > a20WrapAddress - vcpiSwitchStructureBytes then none
    else some { kind := .enterProtected, callerMode := cpu.mode, switchDataLinear := cpu.esi }
  else some { kind := .returnToV86, callerMode := cpu.mode }

/-- The platform's part of a hand-over. -/
def callHandoff (request : VcpiHandoffRequest) : EmsM Pages Frame Platform VcpiHandoffStatus := fun world =>
  let (status, cpu, platform) := vcpi.handoff world.manager.vcpiContext request world.cpu world.platform
  .ok status { world with cpu, platform }

/-- `vcpi_handoff`. -/
def vcpiHandoff (interfaceRequest : Bool) : EmsM Pages Frame Platform EmsOutcome := do
  let original := (← get).cpu
  match handoffRequest original interfaceRequest with
  | none => returnStatus emsStatusPhysicalPageInvalid
  | some request => do
    match ← callHandoff vcpi request with
    | .unsupported =>
      setCpu fun _ => original
      returnStatus emsStatusInvalidFunction
    | .uncertain | .unknown =>
      setCpu fun _ => original
      poisonedFault
    | .fault =>
      setCpu fun _ => original
      throw .memoryFault
    | .completed =>
      if interfaceRequest ∧ (← get).cpu.mode = original.mode then returnStatus emsStatusOk
      else do
        setCpu fun _ => original
        poisonedFault
    | .transferred =>
      if interfaceRequest then do
        setCpu fun _ => original
        poisonedFault
      else pure .executionTransferred

def performVcpi : VcpiFunction → EmsM Pages Frame Platform EmsOutcome
  | .presence => do
    setCpu fun cpu => { cpu with ebx := setLow16 cpu.ebx 0x0100 }
    returnStatus emsStatusOk
  | .getInterface => vcpiHandoff vcpi true
  | .getMaximumAddress => vcpiGetMaximumAddress ops
  | .getFreePages => vcpiGetFreePages ops
  | .allocatePage => vcpiAllocatePage ops
  | .freePage => vcpiFreePage ops
  | .translateLowPage => vcpiTranslateLowPage vcpi
  | .readCr0 => vcpiReadCr0 vcpi
  | .getPicMappings => vcpiGetPicMappings vcpi
  | .setPicMappings => vcpiSetPicMappings vcpi
  | .switchMode => vcpiHandoff vcpi false

/-- `dos_vcpi_dispatch`. The state check of the interrupt has seen that an available platform is there. -/
def dosVcpiDispatch : EmsM Pages Frame Platform EmsOutcome := do
  let world ← get
  if world.manager.vcpiAvailable = 0 then returnStatus emsStatusInvalidFunction
  else do
    let vcpi ← demand ops.vcpi .invalidArgument
    match VcpiFunction.ofByte (low8 world.cpu.eax) with
    | none => returnStatus emsStatusInvalidFunction
    | some function =>
      if (world.cpu.mode = cpuProtected16 ∨ world.cpu.mode = cpuProtected32) ∧ ¬ function.protectedCallerIsValid then
        returnStatus emsStatusInvalidFunction
      else performVcpi ops vcpi function

/-- `dispatch_standard_ems` together with the choice of the VCPI dispatcher. -/
def dispatchEms : Option EmsFunction → EmsM Pages Frame Platform EmsOutcome
  | some .status => returnStatus emsStatusOk
  | some .pageFrame => do
    let segment := (← get).manager.pageFrameSegment
    setCpu fun cpu => { cpu with ebx := setLow16 cpu.ebx segment }
    returnStatus emsStatusOk
  | some .pageCounts => queryPageCounts ops
  | some .allocate => allocateHandle ops
  | some .map => mapHandlePage ops
  | some .release => releaseHandle ops
  | some .version => do
    setCpu fun cpu => { cpu with eax := setLow8 cpu.eax emsVersion }
    returnStatus emsStatusOk
  | some .vcpi => dosVcpiDispatch ops
  | none => returnStatus emsStatusInvalidFunction

/-- `dos_ems_interrupt`. -/
def dosEmsInterrupt : EmsM Pages Frame Platform EmsOutcome := do
  let world ← get
  failWhen (world.manager.constructed ≠ 1 ∨ world.manager.initialized ≠ 1 ∨ ¬ cpuModeValueIsValid world.cpu.mode)
    .invalidArgument
  failWhen (world.manager.poisoned ≠ 0) .poisoned
  if ¬ world.manager.managerStateIsValid ops.vcpi then poisonedFault
  else
    match ← attempt (dispatchEms ops (EmsFunction.ofByte (high8 world.cpu.eax))) with
    | .ok outcome => pure outcome
    | .error error => do
      setCpu fun _ => world.cpu
      throw error

/-- `dos_ems_initialize`. -/
def dosEmsInitialize (pageContext : ℕ) (pageFrame : EmsFrameBinding) (vcpiContext : ℕ) (config : EmsConfig) :
    EmsM Pages Frame Platform Unit := do
  let world ← get
  failWhen (world.manager.constructed ≠ 1 ∨ world.manager.initialized ≠ 0 ∨ world.manager.poisoned ≠ 0 ∨
    ¬ identityIsValid pageContext ∨ ¬ frameBindingIsValid pageFrame config ∨
    (ops.vcpi.isSome = true ∧ ¬ identityIsValid vcpiContext) ∨
    (ops.vcpi.isSome = false ∧ identityIsValid vcpiContext)) .invalidArgument
  let prepared : EmsManager :=
    { pageContext
      pageFrame
      vcpiContext := if ops.vcpi.isSome then vcpiContext else kernelObjectHandleInvalid
      pageFrameSegment := config.pageFrameSegment
      vcpiAvailable := if ops.vcpi.isSome then 1 else 0
      constructed := 1 }
  -- The query runs on the prepared manager; only its poisoning reaches the old one.
  setManager fun _ => prepared
  match ← attempt (queryPages ops) with
  | .error status =>
    setManager fun _ => { world.manager with poisoned := if status = .poisoned then 1 else world.manager.poisoned }
    throw status
  | .ok _ => setManager fun manager => { manager with initialized := 1 }

end EmsWorld

end DosC32
