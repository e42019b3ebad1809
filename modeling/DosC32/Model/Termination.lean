import DosC32.Model.Memory
import DosC32.Model.ProcessRuntime
import DosC32.Model.SftBatch

/-! # Termination of a process

`dos/termination.c`: the prefix of the process is captured and its handle table checked, the saved
vectors are restored as one unit, the memory of the process is freed, its handles are closed from the
last to the first, and the parent's process state is restored. The handle table is streamed in chunks
of 64 bytes. Pointer arguments and adapter callbacks are never null.
-/

namespace DosC32

open Effect LittleEndian SftBatch

/-- `enum dos_termination_status` without `DOS_TERMINATION_OK`. -/
inductive TerminationError where
  | invalidArgument
  | stalePlan
  | machineFault
  | machinePoisoned
  | sftPoisoned
  | memoryFault
  | runtimeFault
  | poisoned
deriving DecidableEq

/-- `struct dos_termination_plan`. -/
structure TerminationPlan where
  (machineIdentity machineContext machineAddressLimit : ℕ)
  (terminateVector controlCVector criticalErrorVector parentUserStack jftPointer : FarPointer16)
  (processPsp parentPsp jftLength : UInt16)
  (a20Enabled captured : UInt8)
  reserved : Fin 4 → UInt8
deriving DecidableEq

/-- `struct dos_termination_result`; a status without error is `none`. -/
structure TerminationResult where
  plan : TerminationPlan
  childRuntime : RuntimeSnapshot
  vectorStatus : Option TerminationError
  memoryStatus : Option MemoryError
  sftStatus : Option TerminationError
  runtimeStatus : Option RuntimeError
deriving DecidableEq

/-- A failed termination, with the result if it was published. -/
structure TerminationFailure where
  status : TerminationError
  result : Option TerminationResult
deriving DecidableEq

/-- `struct dos_termination_services` without the records that change. -/
structure TerminationServices (σ : Type) where
  machine : Machine
  sftOps : SftBatchOps σ
  (machineIdentity sftContext : ℕ)

/-- What the handle loop works on. -/
structure HandleState (σ : Type) where
  guest : Guest
  world : SftWorld σ

/-- The records that a termination changes. -/
structure TerminationState (σ : Type) where
  runtime : ProcessRuntime
  arena : Arena
  guest : Guest
  world : SftWorld σ

namespace Termination

variable {σ : Type}

def vectorBytes : ℕ := 12
def jftChunkBytes : ℕ := 64
def pspPrefixBytes : ℕ := 92
def interruptTerminate : ℕ := 0x22
def exitVectorOffset : ℕ := 10
def controlCVectorOffset : ℕ := 14
def fatalAbortVectorOffset : ℕ := 18
def parentPspOffset : ℕ := 22
def userStackOffset : ℕ := 46
def jftLengthOffset : ℕ := 50
def jftPointerOffset : ℕ := 52

variable (machine : Machine)

/-- `machine_is_usable`. -/
def machineIsUsable : Prop :=
  (machine.ops.bind MachineOps.readMemory).isSome ∧ (machine.ops.bind MachineOps.writeMemory).isSome ∧
    machine.addressLimit ≠ 0 ∧ machine.addressLimit ≤ guest32AddressLimit ∧ machine.poisoned = 0
deriving Decidable

/-- `read_le16`. -/
def readLe16 (bytes : List UInt8) (position : ℕ) : UInt16 := word (bytes.getD position 0) (bytes.getD (position + 1) 0)

/-- `read_far`. -/
def readFar (bytes : List UInt8) (position : ℕ) : FarPointer16 := ⟨readLe16 bytes position, readLe16 bytes (position + 2)⟩

/-- `write_far`. -/
def writeFar (address : FarPointer16) : List UInt8 :=
  [lowByte address.offset, highByte address.offset, lowByte address.segment, highByte address.segment]

/-- The far offset of a byte of the table, which wraps in its segment. -/
def jftOffset (jft : FarPointer16) (completed : ℕ) : UInt16 := UInt16.ofNat (jft.offset.toNat + completed)

/-- The loop of `termination_jft_preflight`; every round reads at least one byte. -/
def preflightLoop (jft : FarPointer16) (length : ℕ) : ℕ → ℕ → MachineM Unit
  | 0, _ => pure ()
  | rounds + 1, completed =>
    if completed < length then do
      let count := min (length - completed) jftChunkBytes
      let _ ← machine.readFar jft.segment (jftOffset jft completed) jftChunkBytes count
      preflightLoop jft length rounds (completed + count)
    else pure ()

/-- `termination_jft_preflight`. -/
def jftPreflight (jft : FarPointer16) (jftLength : UInt16) : MachineM Unit := do
  machine.validateFar jft.segment jft.offset jftLength.toNat
  preflightLoop machine jft jftLength.toNat jftLength.toNat 0

/-- `plan_matches_machine`. -/
def planMatchesMachine (plan : TerminationPlan) (machine : Machine) (machineIdentity : ℕ) : Prop :=
  plan.captured = 1 ∧ plan.a20Enabled ≤ 1 ∧ (∀ index, plan.reserved index = 0) ∧
    plan.machineIdentity = machineIdentity ∧ plan.machineContext = machine.context ∧
    plan.machineAddressLimit = machine.addressLimit ∧ plan.a20Enabled = if machine.a20Enabled then 1 else 0
deriving Decidable

variable (machineIdentity : ℕ)

/-- `dos_termination_capture`. -/
def capture (processPsp : UInt16) : EStateM TerminationError Guest TerminationPlan := do
  failWhen (¬ machineIsUsable machine ∨ ¬ identityIsValid machineIdentity) .invalidArgument
  let bytes ← mapError (fun _ => .machineFault) (machine.readFar processPsp 0 pspPrefixBytes pspPrefixBytes)
  let jftLength := readLe16 bytes jftLengthOffset
  let jft := readFar bytes jftPointerOffset
  mapError (fun _ => .machineFault) (jftPreflight machine jft jftLength)
  pure {
    machineIdentity
    machineContext := machine.context
    machineAddressLimit := machine.addressLimit
    terminateVector := readFar bytes exitVectorOffset
    controlCVector := readFar bytes controlCVectorOffset
    criticalErrorVector := readFar bytes fatalAbortVectorOffset
    parentUserStack := readFar bytes userStackOffset
    jftPointer := jft
    processPsp
    parentPsp := readLe16 bytes parentPspOffset
    jftLength
    a20Enabled := if machine.a20Enabled then 1 else 0
    captured := 1
    reserved := fun _ => 0 }

/-- `dos_termination_restore_vectors`. -/
def restoreVectors (plan : TerminationPlan) : EStateM TerminationError Guest Unit := do
  failWhen (¬ machineIsUsable machine ∨ ¬ identityIsValid machineIdentity) .invalidArgument
  failWhen (¬ planMatchesMachine plan machine machineIdentity) .stalePlan
  let vectors := writeFar plan.terminateVector ++ writeFar plan.controlCVector ++ writeFar plan.criticalErrorVector
  match ← attempt (machine.replace (interruptTerminate * 4) vectors vectorBytes vectorBytes) with
  | .ok _ => pure ()
  | .error .rollbackFailed => throw .machinePoisoned
  | .error _ => throw .machineFault

/-- The two flags of the handle loop. -/
structure CloseFlags where
  (irreversible failed : Bool)

/-- One byte of the table. -/
def closeHandle {ε : Type} (ops : SftBatchOps σ) (context : ℕ) (flags : CloseFlags) (sfn : UInt8) :
    EStateM ε (SftWorld σ) CloseFlags := do
  if sfn = jftEntryUnused then pure flags
  else do
    let answer ← lookupSft ops context sfn
    if answer.1 = .invalidSft then pure flags
    else if answer.1 ≠ .ok ∨ answer.2.referenceHandle = referenceHandleInvalid then
      pure { flags with failed := true }
    else do
      let released ← actOnSft ops context .referenceRelease answer.2.referenceHandle
      if released ≠ .ok then pure { flags with failed := true }
      else if isLocal answer.2.flags then do
        let closed ← actOnSft ops context .deviceClose answer.2.referenceHandle
        pure ⟨true, flags.failed || closed != .ok⟩
      else pure { flags with irreversible := true }

/-- The bytes of a chunk, in the order of the loop. -/
def closeChunk {ε : Type} (ops : SftBatchOps σ) (context : ℕ) : CloseFlags → List UInt8 → EStateM ε (SftWorld σ) CloseFlags
  | flags, [] => pure flags
  | flags, sfn :: rest => do
    let flags ← closeHandle ops context flags sfn
    closeChunk ops context flags rest

abbrev HandleM (σ : Type) := EStateM TerminationError (HandleState σ)

variable {ε α : Type}

def onTable (action : EStateM ε Guest α) : EStateM ε (HandleState σ) α :=
  focus HandleState.guest (fun guest state => { state with guest }) action

def onAdapter (action : EStateM ε (SftWorld σ) α) : EStateM ε (HandleState σ) α :=
  focus HandleState.world (fun world state => { state with world }) action

/-- The loop of `dos_termination_close_handles`; every round handles at least one byte. -/
def closeLoop (plan : TerminationPlan) (ops : SftBatchOps σ) (context : ℕ) :
    ℕ → ℕ → CloseFlags → HandleM σ CloseFlags
  | 0, _, flags => pure flags
  | rounds + 1, remaining, flags =>
    if remaining = 0 then pure flags
    else do
      let count := min remaining jftChunkBytes
      let start := remaining - count
      match ← attempt (onTable (machine.readFar plan.jftPointer.segment (jftOffset plan.jftPointer start)
        jftChunkBytes count)) with
      | .error _ => throw (if flags.failed || flags.irreversible then .sftPoisoned else .machineFault)
      | .ok chunk => do
        let flags ← onAdapter (closeChunk ops context flags chunk.reverse)
        closeLoop plan ops context rounds start flags

/-- The checks of `dos_termination_close_handles`. -/
def closePreflight (plan : TerminationPlan) (ops : SftBatchOps σ) (context : ℕ) : HandleM σ Unit := do
  failWhen (¬ machineIsUsable machine ∨ ¬ identityIsValid machineIdentity ∨ ¬ identityIsValid ops.identity ∨
    context = kernelObjectHandleInvalid) .invalidArgument
  failWhen (¬ planMatchesMachine plan machine machineIdentity) .stalePlan
  mapError (fun _ => .machineFault) (onTable (jftPreflight machine plan.jftPointer plan.jftLength))

/-- `dos_termination_close_handles`. -/
def closeHandles (plan : TerminationPlan) (ops : SftBatchOps σ) (context : ℕ) : HandleM σ Unit := do
  closePreflight machine machineIdentity plan ops context
  let flags ← closeLoop machine plan ops context plan.jftLength.toNat plan.jftLength.toNat ⟨false, false⟩
  failWhen (flags.failed = true) .sftPoisoned

abbrev TerminationM (σ : Type) := EStateM TerminationFailure (TerminationState σ)

def onRuntime (action : EStateM ε ProcessRuntime α) : EStateM ε (TerminationState σ) α :=
  focus TerminationState.runtime (fun runtime state => { state with runtime }) action

def onMachine (action : EStateM ε Guest α) : EStateM ε (TerminationState σ) α :=
  focus TerminationState.guest (fun guest state => { state with guest }) action

def onArena (action : EStateM ε ArenaState α) : EStateM ε (TerminationState σ) α :=
  focus (fun state => ⟨state.arena, state.guest⟩) (fun part state => { state with arena := part.arena, guest := part.guest })
    action

def onHandles (action : EStateM ε (HandleState σ) α) : EStateM ε (TerminationState σ) α :=
  focus (fun state => ⟨state.guest, state.world⟩) (fun part state => { state with guest := part.guest, world := part.world })
    action

/-- `poison_termination_domain`. -/
def poisonTerminationDomain : TerminationM σ Unit := do
  modify fun state => { state with arena := state.arena.poison }
  match ← attempt (onRuntime ProcessRuntime.poison) with
  | .ok () => pure ()
  | .error .poisoned => pure ()
  | .error _ => modify fun state => { state with runtime := { state.runtime with poisoned := 1 } }

/-- Poison the domain and publish the result of a termination that failed. -/
def failPoisoned {α : Type} (status : TerminationError) (prepared : TerminationResult) : TerminationM σ α := do
  poisonTerminationDomain
  throw ⟨status, some prepared⟩

variable (services : TerminationServices σ)

/-- `services_are_usable`. -/
def servicesAreUsable : Prop :=
  machineIsUsable services.machine ∧ identityIsValid services.machineIdentity ∧ identityIsValid services.sftOps.identity ∧
    services.sftContext ≠ kernelObjectHandleInvalid
deriving Decidable

variable (parentRuntime : RuntimeSnapshot) (processPsp : UInt16)

/-- The first phase of `dos_termination_execute`, which only reads. -/
def beginTermination : TerminationM σ TerminationResult := do
  failWhen (¬ servicesAreUsable services ∨ parentRuntime.reserved ≠ 0 ∨ ¬ identityIsValid parentRuntime.runtimeIdentity)
    ⟨.invalidArgument, none⟩
  let childRuntime ← mapError (fun _ => ⟨.runtimeFault, none⟩) (onRuntime ProcessRuntime.snapshot)
  let plan ← mapError (fun status => ⟨status, none⟩)
    (onMachine (capture services.machine services.machineIdentity processPsp))
  failWhen (childRuntime.currentPsp ≠ processPsp ∨ plan.processPsp ≠ processPsp ∨
    plan.parentPsp ≠ parentRuntime.currentPsp ∨ childRuntime.runtimeIdentity ≠ parentRuntime.runtimeIdentity ∨
    childRuntime.generation ≤ parentRuntime.generation) ⟨.stalePlan, none⟩
  pure ⟨plan, childRuntime, none, none, none, none⟩

variable (prepared : TerminationResult)

/-- The second phase: the saved vectors. -/
def vectorPhase : TerminationM σ Unit := do
  match ← attempt (onMachine (restoreVectors services.machine services.machineIdentity prepared.plan)) with
  | .ok () => pure ()
  | .error .machinePoisoned => failPoisoned .poisoned { prepared with vectorStatus := some .machinePoisoned }
  | .error status => throw ⟨status, some { prepared with vectorStatus := some status }⟩

/-- The third phase: the memory of the process. -/
def memoryPhase : TerminationM σ Unit := do
  match ← attempt (onArena (Memory.freeProcess services.machine processPsp)) with
  | .ok () => pure ()
  | .error status =>
    failPoisoned (if status = .machinePoisoned then .poisoned else .memoryFault)
      { prepared with memoryStatus := some status }

/-- The fourth phase: the handles. -/
def handlePhase : TerminationM σ Unit := do
  match ← attempt (onHandles (closeHandles services.machine services.machineIdentity prepared.plan services.sftOps
    services.sftContext)) with
  | .ok () => pure ()
  | .error status => failPoisoned .poisoned { prepared with sftStatus := some status }

/-- The last phase: the parent's process state. -/
def runtimePhase : TerminationM σ Unit := do
  match ← attempt (onRuntime (ProcessRuntime.restoreParent prepared.childRuntime parentRuntime)) with
  | .ok () => pure ()
  | .error status => failPoisoned .poisoned { prepared with runtimeStatus := some status }

/-- `dos_termination_execute` up to the handles. -/
def reachHandles : TerminationM σ TerminationResult := do
  let prepared ← beginTermination services parentRuntime processPsp
  vectorPhase services prepared
  memoryPhase services processPsp prepared
  pure prepared

/-- `dos_termination_execute`. -/
def execute : TerminationM σ TerminationResult := do
  let prepared ← reachHandles services parentRuntime processPsp
  handlePhase services prepared
  runtimePhase parentRuntime prepared
  pure prepared

end Termination

end DosC32
