import DosC32.Model.Machine
import DosC32.Core.LittleEndian
import Mathlib.Data.Fintype.Basic

/-! # Process-global state

`dos/process_runtime.c`: the current process and its transfer address, published against snapshots
that pin the identity and the generation of the record. Pointers to records are never null.
-/

namespace DosC32

open Effect

/-- `struct dos_far_pointer16`. -/
structure FarPointer16 where
  (offset segment : UInt16)
deriving DecidableEq

/-- `enum dos_process_runtime_status` without `DOS_PROCESS_RUNTIME_OK`. -/
inductive RuntimeError where
  | invalidArgument
  | notInitialized
  | invalidState
  | staleSnapshot
  | generationExhausted
  | poisoned
deriving DecidableEq

/-- `struct dos_process_runtime`. -/
structure ProcessRuntime where
  (generation identity : ℕ)
  dta : FarPointer16
  currentPsp : UInt16
  (initialized poisoned constructed : UInt8)
  reserved : Fin 7 → UInt8

/-- `struct dos_process_runtime_snapshot`. -/
structure RuntimeSnapshot where
  (generation runtimeIdentity : ℕ)
  dta : FarPointer16
  (currentPsp reserved : UInt16)
deriving DecidableEq

namespace ProcessRuntime

abbrev RuntimeM := EStateM RuntimeError ProcessRuntime

def generationMax : ℕ := 2 ^ 64 - 1

/-- `runtime_has_valid_encoding`. -/
def hasValidEncoding (runtime : ProcessRuntime) : Prop :=
  (runtime.initialized ≤ 1 ∧ runtime.poisoned ≤ 1 ∧ runtime.constructed ≤ 1 ∧ ∀ index, runtime.reserved index = 0) ∧
    if runtime.initialized = 0 then
      runtime.identity = kernelObjectHandleInvalid ∧ runtime.generation = 0 ∧ runtime.poisoned = 0 ∧
        runtime.dta.offset = 0 ∧ runtime.dta.segment = 0 ∧ runtime.currentPsp = 0
    else runtime.constructed = 1 ∧ runtime.generation ≠ 0 ∧ identityIsValid runtime.identity
deriving Decidable

/-- `runtime_ready_status`. -/
def readyStatus : RuntimeM Unit := do
  let runtime ← get
  failWhen (¬ runtime.hasValidEncoding) .invalidArgument
  failWhen (runtime.constructed ≠ 1 ∨ runtime.initialized ≠ 1 ∨ runtime.generation = 0) .notInitialized
  failWhen (runtime.poisoned = 1) .poisoned

/-- `runtime_can_advance`. -/
def canAdvance : RuntimeM Unit := do
  readyStatus
  let runtime ← get
  failWhen (runtime.generation = generationMax) .generationExhausted

/-- `dos_process_runtime_snapshot`. -/
def snapshot : RuntimeM RuntimeSnapshot := do
  readyStatus
  let runtime ← get
  pure ⟨runtime.generation, runtime.identity, runtime.dta, runtime.currentPsp, 0⟩

/-- `dos_process_runtime_preflight_exec`. -/
def preflightExec (expected : RuntimeSnapshot) : RuntimeM Unit := do
  failWhen (expected.reserved ≠ 0 ∨ ¬ identityIsValid expected.runtimeIdentity) .invalidArgument
  canAdvance
  let runtime ← get
  failWhen (expected.runtimeIdentity ≠ runtime.identity ∨ expected.generation ≠ runtime.generation ∨
    expected.currentPsp ≠ runtime.currentPsp ∨ expected.dta ≠ runtime.dta) .staleSnapshot

/-- `dos_process_runtime_restore_parent`. -/
def restoreParent (expectedChild parent : RuntimeSnapshot) : RuntimeM Unit := do
  failWhen (parent.reserved ≠ 0 ∨ ¬ identityIsValid parent.runtimeIdentity) .invalidArgument
  preflightExec expectedChild
  let runtime ← get
  failWhen (parent.runtimeIdentity ≠ runtime.identity) .staleSnapshot
  modify fun runtime => { runtime with
    dta := parent.dta, currentPsp := parent.currentPsp, generation := runtime.generation + 1 }

/-- `dos_process_runtime_poison`. -/
def poison : RuntimeM Unit := do
  match ← attempt readyStatus with
  | .ok () => modify fun runtime => { runtime with poisoned := 1 }
  | .error .poisoned => modify fun runtime => { runtime with poisoned := 1 }
  | .error status => throw status

end ProcessRuntime

end DosC32
