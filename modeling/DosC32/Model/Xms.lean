import DosC32.Core.Bitmap
import DosC32.Core.LittleEndian
import DosC32.Model.A20
import DosC32.Model.Cpu

/-! # The XMS manager

`dos/xms/manager.c` and `dos/xms/hma.c`: the handle table over an extended-memory backend, the nested A20
locks and the single lease of the high memory area. One call works on the manager, the guest machine, the
A20 line, the backend's memory and the caller's registers; all of them keep what was done to them when the
call fails. `DOS_XMS_READY` is the ordinary exit.
-/

namespace DosC32

open Effect LittleEndian Register

/-- `enum dos_xms_memory_status` without `DOS_XMS_MEMORY_OK`; `unknown` is a value outside the enumeration. -/
inductive XmsMemoryError where
  | noMemory
  | fault
  | uncertain
  | unknown
deriving DecidableEq

/-- `enum dos_xms_status` without `DOS_XMS_READY`. -/
inductive XmsError where
  | chain
  | invalidArgument
  | machineFault
deriving DecidableEq

def xmsHmaBase : ℕ := 0x100000
def xmsHmaBytes : ℕ := 0xfff0
def xmsHmaLimit : ℕ := xmsHmaBase + xmsHmaBytes
def xmsManagerGenerationMax : ℕ := 2 ^ 64 - 1
def xmsControlVector : UInt8 := 0xfe
def xmsControlSegment : UInt16 := 0x0f00
def xmsControlOffset : UInt16 := 0x0100
def xmsTransferBytes : ℕ := 256
def xmsMoveDescriptorBytes : ℕ := 16
def xmsVersion : UInt16 := 0x0300
def xmsDriverRevision : UInt16 := 0x0300
def xmsBlockInvalid : ℕ := 0

/-- `struct dos_xms_hma_snapshot`. -/
structure HmaSnapshot where
  addressSpaceIdentity : ℕ := 0
  addressSpaceGeneration : ℕ := 0
  machineContext : ℕ := 0
  baseAddress : ℕ := 0
  byteCount : ℕ := 0
deriving DecidableEq

/-- `struct dos_xms_hma_lease`. -/
structure HmaLease where
  managerIdentity : ℕ := 0
  managerGeneration : ℕ := 0
  leaseGeneration : ℕ := 0
  mapping : HmaSnapshot := {}
  active : UInt8 := 0
  reserved : List UInt8 := List.replicate 7 0

/-- The outputs of one allocation callback. -/
structure XmsGrant where
  (block physicalAddress capacityBytes : ℕ)

/-- The outputs of one query callback. -/
structure XmsFreeMemory where
  (largestBytes totalBytes highestAddress : ℕ)

/-- `struct dos_xms_memory_ops` over the memory of a backend; the first argument is the context. -/
structure XmsMemoryOps (Memory : Type) where
  query : ℕ → EStateM XmsMemoryError Memory XmsFreeMemory
  allocate : ℕ → ℕ → EStateM XmsMemoryError Memory XmsGrant
  release : ℕ → ℕ → EStateM XmsMemoryError Memory Unit
  read : ℕ → ℕ → ℕ → ℕ → EStateM XmsMemoryError Memory (List UInt8)
  write : ℕ → ℕ → ℕ → List UInt8 → EStateM XmsMemoryError Memory Unit
  queryHma : Option (ℕ → Machine → EStateM XmsMemoryError Memory HmaSnapshot)

/-- `struct dos_xms_handle`. -/
structure XmsHandle where
  block : ℕ := 0
  sizeBytes : ℕ := 0
  capacityBytes : ℕ := 0
  physicalAddress : ℕ := 0
  lockCount : UInt8 := 0

/-- `struct dos_xms_manager` beside the callback table, which never changes. -/
structure XmsManager where
  memoryContext : ℕ := 0
  identity : ℕ := 0
  generation : ℕ := 0
  hmaGeneration : ℕ := 0
  hma : HmaLease := {}
  allocatedBitmap : BitVec 32 := 0
  handles : Fin 32 → XmsHandle := fun _ => {}
  localA20Locks : UInt16 := 0
  hmaMinimumBytes : UInt16 := 0
  initialized : UInt8 := 0
  poisoned : UInt8 := 0
  constructed : UInt8 := 0

/-- `struct dos_xms_config`. -/
structure XmsConfig where
  hmaMinimumBytes : UInt16
  reserved : List UInt8 := List.replicate 6 0

/-- Everything one call can reach. -/
structure XmsWorld (Memory : Type) where
  manager : XmsManager
  machine : Machine
  line : A20Line
  guest : Guest
  memory : Memory
  cpu : CpuState

abbrev XmsM (Memory : Type) := EStateM XmsError (XmsWorld Memory)

/-- The functions selected by AH. The flag marks the 32-bit variants. -/
inductive XmsFunction where
  | version
  | requestHma
  | releaseHma
  | globalEnableA20
  | globalDisableA20
  | localEnableA20
  | localDisableA20
  | queryA20
  | queryFree (extended : Bool)
  | allocate (extended : Bool)
  | free
  | move
  | lock
  | unlock
  | handleInfo (extended : Bool)
  | reallocate (extended : Bool)
deriving DecidableEq

def XmsFunction.ofByte (function : UInt8) : Option XmsFunction :=
  match function.toNat with
  | 0x00 => some .version
  | 0x01 => some .requestHma
  | 0x02 => some .releaseHma
  | 0x03 => some .globalEnableA20
  | 0x04 => some .globalDisableA20
  | 0x05 => some .localEnableA20
  | 0x06 => some .localDisableA20
  | 0x07 => some .queryA20
  | 0x08 => some (.queryFree false)
  | 0x09 => some (.allocate false)
  | 0x0a => some .free
  | 0x0b => some .move
  | 0x0c => some .lock
  | 0x0d => some .unlock
  | 0x0e => some (.handleInfo false)
  | 0x0f => some (.reallocate false)
  | 0x88 => some (.queryFree true)
  | 0x89 => some (.allocate true)
  | 0x8e => some (.handleInfo true)
  | 0x8f => some (.reallocate true)
  | _ => none

/-- The `XMS_ERROR_*` codes returned in BL. -/
def xmsErrorNotImplemented : UInt8 := 0x80
def xmsErrorA20Failure : UInt8 := 0x82
def xmsErrorHmaNotPresent : UInt8 := 0x90
def xmsErrorHmaInUse : UInt8 := 0x91
def xmsErrorHmaRequestTooSmall : UInt8 := 0x92
def xmsErrorHmaNotUsed : UInt8 := 0x93
def xmsErrorA20StillEnabled : UInt8 := 0x94
def xmsErrorOutOfMemory : UInt8 := 0xa0
def xmsErrorOutOfHandles : UInt8 := 0xa1
def xmsErrorInvalidHandle : UInt8 := 0xa2
def xmsErrorInvalidSourceHandle : UInt8 := 0xa3
def xmsErrorInvalidSourceOffset : UInt8 := 0xa4
def xmsErrorInvalidDestinationHandle : UInt8 := 0xa5
def xmsErrorInvalidDestinationOffset : UInt8 := 0xa6
def xmsErrorInvalidLength : UInt8 := 0xa7
def xmsErrorBlockNotLocked : UInt8 := 0xaa
def xmsErrorBlockLocked : UInt8 := 0xab
def xmsErrorLockOverflow : UInt8 := 0xac

namespace XmsManager

variable (manager : XmsManager)

/-- `manager_lifetime_is_valid`. -/
def managerLifetimeIsValid : Prop :=
  manager.constructed = 1 ∧ manager.initialized = 1 ∧ identityIsValid manager.identity ∧ manager.generation ≠ 0
deriving Decidable

/-- `handle_is_allocated`. -/
def handleIsAllocated (index : Fin 32) : Prop :=
  Bitmap.test manager.allocatedBitmap index = true
deriving Decidable

/-- `resolve_handle` and `resolve_const_handle`; the value is the position in the table. -/
def resolveHandle (handle : UInt16) : Option (Fin 32) :=
  if bound : handle.toNat ≠ 0 ∧ handle.toNat ≤ 32 then
    let index : Fin 32 := ⟨handle.toNat - 1, position_lt bound⟩
    if manager.handleIsAllocated index then some index else none
  else none

/-- The search for a free position in `dos_xms_control`. -/
def freeIndex : Option (Fin 32) :=
  (List.finRange 32).find? fun index => ¬ manager.handleIsAllocated index

/-- The number of free positions, as `XMS_FUNCTION_HANDLE_INFO` counts them. -/
def freeHandles : ℕ :=
  (List.finRange 32).countP fun index => ¬ manager.handleIsAllocated index

def setHandle (index : Fin 32) (handle : XmsHandle) : XmsManager :=
  { manager with handles := Function.update manager.handles index handle }

end XmsManager

namespace XmsWorld

variable {Memory α : Type}

/-- `config_is_valid`. -/
def configIsValid (config : XmsConfig) : Prop :=
  config.hmaMinimumBytes.toNat ≤ xmsHmaBytes ∧ config.reserved.all (· == 0)
deriving Decidable

def onMemory (action : EStateM XmsMemoryError Memory α) : EStateM XmsMemoryError (XmsWorld Memory) α :=
  focus (·.memory) (fun memory world => { world with memory }) action

/-- One callback of the manager, made with its own context. -/
def callMemory (callback : ℕ → EStateM XmsMemoryError Memory α) : EStateM XmsMemoryError (XmsWorld Memory) α := do
  onMemory (callback (← get).manager.memoryContext)

def onA20 (action : A20M α) : EStateM MachineError (XmsWorld Memory) α :=
  focus (fun world => ⟨world.machine, world.line⟩)
    (fun state world => { world with machine := state.machine, line := state.line }) action

/-- A guest memory transfer; every failure of one is a machine fault. -/
def onGuest (action : MachineM α) : XmsM Memory α :=
  mapError (fun _ => .machineFault) (focus (·.guest) (fun guest world => { world with guest }) action)

def setManager (update : XmsManager → XmsManager) : XmsM Memory Unit :=
  modify fun world => { world with manager := update world.manager }

def setCpu (update : CpuState → CpuState) : XmsM Memory Unit :=
  modify fun world => { world with cpu := update world.cpu }

def poison : XmsM Memory Unit := setManager fun manager => { manager with poisoned := 1 }

/-- `return_failure`. -/
def returnFailure (error : UInt8) : XmsM Memory Unit :=
  setCpu fun cpu => { cpu with eax := setLow16 cpu.eax 0, ebx := setLow8 cpu.ebx error }

/-- `return_success`. -/
def returnSuccess : XmsM Memory Unit :=
  setCpu fun cpu => { cpu with eax := setLow16 cpu.eax 1, ebx := setLow8 cpu.ebx 0 }

/-- `memory_fault` and `mapping_fault`. -/
def memoryFault (status : XmsMemoryError) : XmsM Memory α := do
  if status = .uncertain then poison else pure ()
  throw .machineFault

/-- A consistency check failed: the manager is poisoned. -/
def poisonedFault : XmsM Memory α := do
  poison
  throw .machineFault

/-! ## The high memory area -/

/-- `snapshot_is_valid`. -/
def snapshotIsValid (snapshot : HmaSnapshot) (machine : Machine) : Prop :=
  identityIsValid snapshot.addressSpaceIdentity ∧ snapshot.addressSpaceGeneration ≠ 0 ∧
    snapshot.machineContext = machine.context ∧ snapshot.baseAddress = xmsHmaBase ∧
    snapshot.byteCount = xmsHmaBytes ∧ machine.addressLimit ≥ xmsHmaLimit
deriving Decidable

/-- `active_lease_is_valid`. -/
def activeLeaseIsValid (manager : XmsManager) (machine : Machine) : Prop :=
  manager.hma.active = 1 ∧ manager.hma.reserved.all (· == 0) ∧
    manager.hma.managerIdentity = manager.identity ∧ manager.hma.managerGeneration = manager.generation ∧
    manager.hma.leaseGeneration = manager.hmaGeneration ∧ snapshotIsValid manager.hma.mapping machine
deriving Decidable

variable (ops : XmsMemoryOps Memory) (a20 : A20Ops)

/-- `query_mapping`. -/
def queryMapping : EStateM XmsMemoryError (XmsWorld Memory) HmaSnapshot := do
  let world ← get
  let callback ← demand ops.queryHma .noMemory
  let snapshot ← callMemory (callback · world.machine)
  failWhen (¬ snapshotIsValid snapshot world.machine) .uncertain
  pure snapshot

/-- `dos_xms_hma_report_version`. -/
def hmaReportVersion : XmsM Memory Unit := do
  match ← attempt (queryMapping ops) with
  | .error .noMemory => setCpu fun cpu => { cpu with edx := setLow16 cpu.edx 0 }
  | .error status => memoryFault status
  | .ok _ => setCpu fun cpu => { cpu with edx := setLow16 cpu.edx 1 }

/-- `dos_xms_hma_request`. -/
def hmaRequest : XmsM Memory Unit := do
  let world ← get
  let requested := low16 world.cpu.edx
  if world.manager.hma.active ≠ 0 then
    if ¬ activeLeaseIsValid world.manager world.machine then poisonedFault
    else returnFailure xmsErrorHmaInUse
  else if requested < world.manager.hmaMinimumBytes then returnFailure xmsErrorHmaRequestTooSmall
  else
    match ← attempt (queryMapping ops) with
    | .error .noMemory => returnFailure xmsErrorHmaNotPresent
    | .error status => memoryFault status
    | .ok snapshot =>
      if world.manager.hmaGeneration = xmsManagerGenerationMax then poisonedFault
      else do
        setManager fun manager => { manager with
          hmaGeneration := manager.hmaGeneration + 1
          hma :=
            { managerIdentity := manager.identity
              managerGeneration := manager.generation
              leaseGeneration := manager.hmaGeneration + 1
              mapping := snapshot
              active := 1 } }
        returnSuccess

/-- `dos_xms_hma_release`. -/
def hmaRelease : XmsM Memory Unit := do
  let world ← get
  if world.manager.hma.active = 0 then returnFailure xmsErrorHmaNotUsed
  else if ¬ activeLeaseIsValid world.manager world.machine then poisonedFault
  else
    match ← attempt (queryMapping ops) with
    | .error .noMemory => returnFailure xmsErrorHmaNotPresent
    | .error status => memoryFault status
    | .ok snapshot =>
      if world.manager.hma.mapping ≠ snapshot then poisonedFault
      else do
        setManager fun manager => { manager with hma := {} }
        returnSuccess

/-! ## The A20 line -/

/-- `a20_fault`. -/
def a20Fault : XmsM Memory Unit := do
  if (← get).machine.poisoned ≠ 0 then poisonedFault
  else returnFailure xmsErrorA20Failure

/-- `query_a20`. A failed query stops the machine, so the ordinary exit always carries the line's state. -/
def queryA20 : XmsM Memory (Option Bool) := do
  match ← attempt (onA20 (A20State.dosMachineQueryA20 a20)) with
  | .error _ =>
    a20Fault
    pure none
  | .ok observed => pure (some observed)

/-- `ensure_a20`; the value is `*achieved`. -/
def ensureA20 (requested : Bool) : XmsM Memory Bool := do
  let observed ← queryA20 a20
  if (← get).manager.poisoned ≠ 0 then pure false
  else if observed = some requested then pure true
  else
    match ← attempt (onA20 (A20State.dosMachineSetA20 a20 requested)) with
    | .error _ =>
      a20Fault
      pure false
    | .ok () => pure true

/-- The common frame of the five functions that change the line. -/
def withA20 (requested : Bool) (achieved : XmsM Memory Unit) : XmsM Memory Unit := do
  if ← ensureA20 a20 requested then achieved else pure ()

def globalEnableA20 : XmsM Memory Unit := withA20 a20 true returnSuccess

def globalDisableA20 : XmsM Memory Unit := do
  if (← get).manager.localA20Locks ≠ 0 then returnFailure xmsErrorA20StillEnabled
  else withA20 a20 false returnSuccess

def setLocalA20Locks (update : UInt16 → UInt16) : XmsM Memory Unit :=
  setManager fun manager => { manager with localA20Locks := update manager.localA20Locks }

def localEnableA20 : XmsM Memory Unit := do
  if (← get).manager.localA20Locks = 0xffff then returnFailure xmsErrorA20Failure
  else withA20 a20 true do
    setLocalA20Locks (· + 1)
    returnSuccess

def localDisableA20 : XmsM Memory Unit := do
  let locks := (← get).manager.localA20Locks
  if locks = 0 then returnFailure xmsErrorA20Failure
  else if locks > 1 then
    withA20 a20 true do
      setLocalA20Locks (· - 1)
      returnFailure xmsErrorA20StillEnabled
  else
    withA20 a20 false do
      setLocalA20Locks fun _ => 0
      returnSuccess

def reportA20 : XmsM Memory Unit := do
  let enabled ← queryA20 a20
  setCpu fun cpu => { cpu with
    eax := setLow16 cpu.eax (if enabled = some true then 1 else 0)
    ebx := setLow8 cpu.ebx 0 }

/-! ## Blocks -/

variable (extended : Bool)

def queryFree : XmsM Memory Unit := do
  match ← attempt (callMemory ops.query) with
  | .error status => memoryFault status
  | .ok free =>
    if free.largestBytes > free.totalBytes then poisonedFault
    else do
      let largest := free.largestBytes / 1024
      let total := free.totalBytes / 1024
      if extended then
        setCpu fun cpu => { cpu with
          eax := UInt32.ofNat (min largest 0xffffffff)
          edx := UInt32.ofNat (min total 0xffffffff)
          ecx := UInt32.ofNat (min free.highestAddress 0xffffffff) }
      else
        setCpu fun cpu => { cpu with
          eax := setLow16 cpu.eax (UInt16.ofNat (min largest 0xffff))
          edx := setLow16 cpu.edx (UInt16.ofNat (min total 0xffff)) }
      setCpu fun cpu => { cpu with
        ebx := setLow8 cpu.ebx (if total = 0 then xmsErrorOutOfMemory else 0) }

/-- A size register in KiB; the 16-bit variants read its low half. -/
def requestedKib (register : UInt32) : ℕ :=
  if extended then register.toNat else (low16 register).toNat

/-- The checks on the outputs of an allocation callback. -/
def grantIsUsable (requestedBytes : ℕ) (grant : XmsGrant) : Prop :=
  grant.block ≠ xmsBlockInvalid ∧ grant.capacityBytes ≥ requestedBytes ∧ grant.physicalAddress ≤ 0xffffffff
deriving Decidable

def grantedHandle (grant : XmsGrant) (requestedBytes : ℕ) : XmsHandle :=
  { block := grant.block
    sizeBytes := requestedBytes
    capacityBytes := grant.capacityBytes
    physicalAddress := grant.physicalAddress }

/-- The allocation callback with the checks and exits that allocation and reallocation share. -/
def withGrant (requestedBytes : ℕ) (granted : XmsGrant → XmsM Memory Unit) : XmsM Memory Unit := do
  match ← attempt (callMemory (ops.allocate · requestedBytes)) with
  | .error .noMemory => returnFailure xmsErrorOutOfMemory
  | .error status => memoryFault status
  | .ok grant =>
    if ¬ grantIsUsable requestedBytes grant then do
      let _ ← attempt (callMemory (ops.release · grant.block))
      poisonedFault
    else granted grant

def allocate : XmsM Memory Unit := do
  let world ← get
  let kib := requestedKib extended world.cpu.edx
  if kib = 0 then returnFailure xmsErrorInvalidLength
  else
    match world.manager.freeIndex with
    | none => returnFailure xmsErrorOutOfHandles
    | some index =>
      withGrant ops (kib * 1024) fun grant => do
        setManager fun manager => { manager.setHandle index (grantedHandle grant (kib * 1024)) with
          allocatedBitmap := Bitmap.insert manager.allocatedBitmap index }
        returnSuccess
        setCpu fun cpu => { cpu with edx := setLow16 cpu.edx (UInt16.ofNat (index + 1)) }

/-- `resolve_handle` of DX; a number that does not resolve is reported to the caller. -/
def withHandle (resolved : Fin 32 → XmsHandle → XmsM Memory Unit) : XmsM Memory Unit := do
  let world ← get
  match world.manager.resolveHandle (low16 world.cpu.edx) with
  | none => returnFailure xmsErrorInvalidHandle
  | some index => resolved index (world.manager.handles index)

def free : XmsM Memory Unit :=
  withHandle fun index handle => do
    if handle.lockCount ≠ 0 then returnFailure xmsErrorBlockLocked
    else
      match ← attempt (callMemory (ops.release · handle.block)) with
      | .error status => memoryFault status
      | .ok () =>
        setManager fun manager => { manager.setHandle index {} with
          allocatedBitmap := Bitmap.erase manager.allocatedBitmap index }
        returnSuccess

def lock : XmsM Memory Unit :=
  withHandle fun index handle => do
    if handle.lockCount = 0xff then returnFailure xmsErrorLockOverflow
    else
      setManager (·.setHandle index { handle with lockCount := handle.lockCount + 1 })
      returnSuccess
      setCpu fun cpu => { cpu with
        ebx := setLow16 cpu.ebx (UInt16.ofNat handle.physicalAddress)
        edx := setLow16 cpu.edx (UInt16.ofNat (handle.physicalAddress / 0x10000)) }

def unlock : XmsM Memory Unit :=
  withHandle fun index handle => do
    if handle.lockCount = 0 then returnFailure xmsErrorBlockNotLocked
    else
      setManager (·.setHandle index { handle with lockCount := handle.lockCount - 1 })
      returnSuccess

def handleInfo : XmsM Memory Unit :=
  withHandle fun _ handle => do
    let freeHandles := (← get).manager.freeHandles
    returnSuccess
    setCpu fun cpu => { cpu with ebx := setHigh8 cpu.ebx handle.lockCount }
    if extended then
      setCpu fun cpu => { cpu with
        ecx := UInt32.ofNat freeHandles
        edx := UInt32.ofNat (min (handle.sizeBytes / 1024) 0xffffffff) }
    else
      setCpu fun cpu => { cpu with
        ebx := setLow8 cpu.ebx (UInt8.ofNat freeHandles)
        edx := setLow16 cpu.edx (UInt16.ofNat (min (handle.sizeBytes / 1024) 0xffff)) }

/-- The loop of `copy_extended_block`. -/
def copyExtendedLoop (context source destination byteCount : ℕ) : ℕ → ℕ → EStateM XmsMemoryError Memory Unit
  | 0, _ => pure ()
  | rounds + 1, completed =>
    if completed < byteCount then do
      let count := min (byteCount - completed) xmsTransferBytes
      let buffer ← ops.read context source completed count
      ops.write context destination completed buffer
      copyExtendedLoop context source destination byteCount rounds (completed + count)
    else pure ()

/-- `copy_extended_block`; every round copies a byte or more. -/
def copyExtendedBlock (context source destination byteCount : ℕ) : EStateM XmsMemoryError Memory Unit :=
  copyExtendedLoop ops context source destination byteCount byteCount 0

/-- The clean-up of a reallocation that cannot be completed. -/
def abandonGrant (block : ℕ) (status : XmsMemoryError) : XmsM Memory Unit := do
  match ← attempt (callMemory (ops.release · block)) with
  | .error _ => poison
  | .ok () => pure ()
  memoryFault status

def reallocate : XmsM Memory Unit :=
  withHandle fun index handle => do
    let kib := requestedKib extended (← get).cpu.ebx
    if handle.lockCount ≠ 0 then returnFailure xmsErrorBlockLocked
    else if kib = 0 then returnFailure xmsErrorInvalidLength
    else if kib * 1024 ≤ handle.capacityBytes then do
      setManager (·.setHandle index { handle with sizeBytes := kib * 1024 })
      returnSuccess
    else
      withGrant ops (kib * 1024) fun grant => do
        match ← attempt (callMemory (copyExtendedBlock ops · handle.block grant.block handle.sizeBytes)) with
        | .error status => abandonGrant ops grant.block status
        | .ok () =>
          match ← attempt (callMemory (ops.release · handle.block)) with
          | .error status => abandonGrant ops grant.block status
          | .ok () =>
            setManager (·.setHandle index (grantedHandle grant (kib * 1024)))
            returnSuccess

/-! ## Block moves -/

/-- `struct xms_move_descriptor`. -/
structure MoveDescriptor where
  length : UInt32
  sourceHandle : UInt16
  sourceOffset : UInt32
  destinationHandle : UInt16
  destinationOffset : UInt32

/-- `read_le16` at an offset. -/
def readLe16 (bytes : List UInt8) (offset : ℕ) : UInt16 :=
  word (bytes.getD offset 0) (bytes.getD (offset + 1) 0)

/-- `read_le32` at an offset. -/
def readLe32 (bytes : List UInt8) (offset : ℕ) : UInt32 :=
  double (bytes.getD offset 0) (bytes.getD (offset + 1) 0) (bytes.getD (offset + 2) 0) (bytes.getD (offset + 3) 0)

def MoveDescriptor.parse (raw : List UInt8) : MoveDescriptor :=
  ⟨readLe32 raw 0, readLe16 raw 4, readLe32 raw 6, readLe16 raw 10, readLe32 raw 12⟩

/-- `struct xms_endpoint`. -/
inductive Endpoint where
  | conventional (linear : ℕ)
  | extended (block offset : ℕ)
deriving DecidableEq

/-- `decode_endpoint`. -/
def decodeEndpoint (manager : XmsManager) (handleNumber : UInt16) (encodedOffset length : UInt32) (source : Bool) :
    Except UInt8 Endpoint :=
  let invalidOffset := if source then xmsErrorInvalidSourceOffset else xmsErrorInvalidDestinationOffset
  if handleNumber = 0 then
    let linear := encodedOffset.toNat / 0x10000 * 16 + encodedOffset.toNat % 0x10000
    if linear ≥ 0x100000 ∨ length.toNat > 0x100000 - linear then .error invalidOffset
    else .ok (.conventional linear)
  else
    match manager.resolveHandle handleNumber with
    | none => .error (if source then xmsErrorInvalidSourceHandle else xmsErrorInvalidDestinationHandle)
    | some index =>
      let handle := manager.handles index
      if encodedOffset.toNat > handle.sizeBytes ∨ length.toNat > handle.sizeBytes - encodedOffset.toNat then
        .error invalidOffset
      else .ok (.extended handle.block encodedOffset.toNat)

/-- The overlap test of `move_memory`: the copy runs from the end. -/
def backward (length : ℕ) : Endpoint → Endpoint → Bool
  | .conventional source, .conventional destination => source < destination ∧ destination < source + length
  | .extended block source, .extended block' destination =>
    block = block' ∧ source < destination ∧ destination < source + length
  | _, _ => false

def readEndpoint (endpoint : Endpoint) (position count : ℕ) : XmsM Memory (List UInt8) :=
  match endpoint with
  | .conventional linear => do
    onGuest ((← get).machine.read (linear + position) xmsTransferBytes count)
  | .extended block offset => do
    match ← attempt (callMemory (ops.read · block (offset + position) count)) with
    | .error status => memoryFault status
    | .ok buffer => pure buffer

def writeEndpoint (endpoint : Endpoint) (position : ℕ) (buffer : List UInt8) (count : ℕ) : XmsM Memory Unit :=
  match endpoint with
  | .conventional linear => do
    onGuest ((← get).machine.write (linear + position) buffer count)
  | .extended block offset => do
    match ← attempt (callMemory (ops.write · block (offset + position) (buffer.take count))) with
    | .error status => memoryFault status
    | .ok () => pure ()

/-- The loop of `move_memory`; every round moves a byte or more. -/
def moveLoop (source destination : Endpoint) (length : ℕ) : ℕ → ℕ → XmsM Memory Unit
  | 0, _ => pure ()
  | rounds + 1, completed =>
    if completed < length then do
      let count := min (length - completed) xmsTransferBytes
      let position := if backward length source destination then length - completed - count else completed
      let buffer ← readEndpoint ops source position count
      writeEndpoint ops destination position buffer count
      moveLoop source destination length rounds (completed + count)
    else pure ()

/-- `move_memory`. -/
def moveMemory : XmsM Memory Unit := do
  let world ← get
  let raw ← onGuest (world.machine.readFar world.cpu.ds (low16 world.cpu.esi) xmsMoveDescriptorBytes
    xmsMoveDescriptorBytes)
  let move := MoveDescriptor.parse raw
  if move.length = 0 ∨ move.length.toNat % 2 ≠ 0 then returnFailure xmsErrorInvalidLength
  else
    match decodeEndpoint world.manager move.sourceHandle move.sourceOffset move.length true with
    | .error error => returnFailure error
    | .ok source =>
      match decodeEndpoint world.manager move.destinationHandle move.destinationOffset move.length false with
      | .error error => returnFailure error
      | .ok destination =>
        moveLoop ops source destination move.length.toNat move.length.toNat 0
        returnSuccess

/-! ## Entry points -/

/-- `dos_xms_initialize`. -/
def dosXmsInitialize (memoryContext : ℕ) (config : XmsConfig) : XmsM Memory Unit := do
  let world ← get
  failWhen (world.manager.constructed ≠ 1 ∨ world.manager.initialized ≠ 0 ∨ ¬ identityIsValid world.manager.identity ∨
    world.machine.ops.isNone ∨ a20.setA20.isNone ∨ a20.queryA20.isNone ∨ ¬ identityIsValid memoryContext ∨
    ¬ configIsValid config) .invalidArgument
  match ← attempt (onMemory (ops.query memoryContext)) with
  | .error .noMemory => throw .invalidArgument
  | .error _ => throw .machineFault
  | .ok free =>
    failWhen (free.largestBytes = 0 ∨ free.largestBytes > free.totalBytes ∨ free.highestAddress = 0) .invalidArgument
    onGuest (world.machine.writeFar xmsControlSegment xmsControlOffset [0xcd, xmsControlVector, 0xcb] 3)
    setManager fun manager =>
      { memoryContext, identity := manager.identity, generation := 1, hmaMinimumBytes := config.hmaMinimumBytes,
        initialized := 1, constructed := 1 }

def performFunction : XmsFunction → XmsM Memory Unit
  | .version => do
    setCpu fun cpu => { cpu with
      eax := setLow16 cpu.eax xmsVersion
      ebx := setLow16 cpu.ebx xmsDriverRevision }
    hmaReportVersion ops
  | .requestHma => hmaRequest ops
  | .releaseHma => hmaRelease ops
  | .globalEnableA20 => globalEnableA20 a20
  | .globalDisableA20 => globalDisableA20 a20
  | .localEnableA20 => localEnableA20 a20
  | .localDisableA20 => localDisableA20 a20
  | .queryA20 => reportA20 a20
  | .queryFree extended => queryFree ops extended
  | .allocate extended => allocate ops extended
  | .free => free ops
  | .move => moveMemory ops
  | .lock => lock
  | .unlock => unlock
  | .handleInfo extended => handleInfo extended
  | .reallocate extended => reallocate ops extended

/-- `dos_xms_control`. -/
def dosXmsControl : XmsM Memory Unit := do
  let world ← get
  failWhen (¬ world.manager.managerLifetimeIsValid) .invalidArgument
  failWhen (world.manager.poisoned ≠ 0) .machineFault
  match XmsFunction.ofByte (high8 world.cpu.eax) with
  | none => returnFailure xmsErrorNotImplemented
  | some function => performFunction ops a20 function

end XmsWorld

end DosC32
