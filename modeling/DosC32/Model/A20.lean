import DosC32.Model.Machine

/-! # The A20 line

`dos_machine_set_a20` and `dos_machine_query_a20` of `dos/machine.c`. The backend is again a schedule: the
number of a callback and the state of the line decide what it reports and, for the setting callback, the
state in which it leaves the line. What the setting callback reports need not be true.
-/

namespace DosC32

open Effect

/-- The A20 callbacks of `struct dos_machine_ops`. -/
structure A20Ops where
  setA20 : Option (ℕ → Bool → Bool → Option (Option MachineError) × Bool)
  queryA20 : Option (ℕ → Bool → Except (Option MachineError) Bool)

/-- The line itself, and the number of callbacks made so far. -/
structure A20Line where
  enabled : Bool
  calls : ℕ

/-- The machine and the line behind it. -/
structure A20State where
  machine : Machine
  line : A20Line

abbrev A20M := EStateM MachineError A20State

namespace A20State

variable (ops : A20Ops)

/-- `machine_ready` on the current machine. -/
def machineReady : A20M Unit := do
  let state ← get
  failWhen (state.machine.poisoned > 1) .invalidArgument
  failWhen (state.machine.poisoned ≠ 0) .stopped

def setPoisoned (poisoned : UInt8) : A20M Unit :=
  modify fun state => { state with machine := { state.machine with poisoned } }

def setA20Enabled (a20Enabled : Bool) : A20M Unit :=
  modify fun state => { state with machine := { state.machine with a20Enabled } }

/-- One `set_a20` callback; the value is its normalised failure. -/
def callSet (callback : ℕ → Bool → Bool → Option (Option MachineError) × Bool) (enabled : Bool) :
    A20M (Option MachineError) := fun state =>
  let (failure, line) := callback state.line.calls enabled state.line.enabled
  .ok (failure.map Machine.normalizeCallbackStatus) { state with line := ⟨line, state.line.calls + 1⟩ }

/-- One `query_a20` callback. -/
def callQuery (callback : ℕ → Bool → Except (Option MachineError) Bool) : A20M Bool := fun state =>
  let next := { state with line := ⟨state.line.enabled, state.line.calls + 1⟩ }
  match callback state.line.calls state.line.enabled with
  | .ok observed => .ok observed next
  | .error status => .error (Machine.normalizeCallbackStatus status) next

/-- `query_a20_backend`. -/
def queryA20Backend : A20M Bool := do
  let callback ← demand ops.queryA20 .unsupported
  callQuery callback

/-- `dos_machine_set_a20`. -/
def dosMachineSetA20 (enabled : Bool) : A20M Unit := do
  failWhen ((← get).machine.ops.isNone ∨ ops.queryA20.isNone) .invalidArgument
  let callback ← demand ops.setA20 .invalidArgument
  machineReady
  setPoisoned 1
  let failure ← callSet callback enabled
  match ← attempt (queryA20Backend ops) with
  | .error queryStatus => throw (failure.getD queryStatus)
  | .ok observed =>
    setA20Enabled observed
    setPoisoned 0
    failWhen (observed ≠ enabled) .ioFault

/-- `dos_machine_query_a20`. -/
def dosMachineQueryA20 : A20M Bool := do
  failWhen ((← get).machine.ops.isNone) .invalidArgument
  machineReady
  match ← attempt (queryA20Backend ops) with
  | .error status =>
    setPoisoned 1
    throw status
  | .ok observed =>
    setA20Enabled observed
    pure observed

end A20State

end DosC32
