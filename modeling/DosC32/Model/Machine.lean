import DosC32.Core.Effect
import DosC32.Core.Store

/-! # The DOS guest-machine boundary

`dos/machine.c`: bounded transfers between native buffers and simulated memory through backend
callbacks, the segment:offset and A20 address transform, and transactional replacement. A backend
is a schedule: the number of a callback selects whether it completes, and a write that does not
complete may leave any bytes in its own target range. Native buffers are lists, whose length is
the capacity the C interface passes beside the pointer; pointers to them are never null and
distinct buffers never overlap.
-/

namespace DosC32

open Effect

-- The lengths of the fixed arrays whose elements the source names by number.
instance neZero_two : NeZero 2 := ⟨by decide⟩
instance neZero_eight : NeZero 8 := ⟨by decide⟩
instance neZero_sixteen : NeZero 16 := ⟨by decide⟩

/-- `enum dos_machine_status` without `DOS_MACHINE_OK`, which is the successful exit. -/
inductive MachineError where
  | invalidArgument
  | addressFault
  | ioDenied
  | ioFault
  | rollbackFailed
  | unsupported
  | stopped
deriving DecidableEq

/-- A write callback that did not complete. A missing status is a value outside the enumeration. -/
structure WriteFault where
  status : Option MachineError
  residue : ℕ → UInt8

/-- `struct dos_machine_ops`, restricted to the guest-memory callbacks. -/
structure MachineOps where
  readMemory : Option (ℕ → Option (Option MachineError))
  writeMemory : Option (ℕ → Option WriteFault)

/-- The backend-owned state: guest memory and the number of callbacks made so far. -/
structure Guest where
  memory : ℕ → UInt8
  calls : ℕ

/-- `struct dos_machine`. -/
structure Machine where
  ops : Option MachineOps
  (context addressLimit : ℕ)
  a20Enabled : Bool
  poisoned : UInt8

abbrev MachineM := EStateM MachineError Guest

def kernelObjectHandleInvalid : ℕ := 2 ^ 64 - 1

/-- `arena_identity_is_valid` of `dos/memory.c` and `identity_is_valid` of the other DOS modules. -/
def identityIsValid (identity : ℕ) : Prop := identity ≠ 0 ∧ identity ≠ kernelObjectHandleInvalid
deriving Decidable

def a20WrapAddress : ℕ := 0x100000
def guest32AddressLimit : ℕ := 0x100000000

namespace Machine

/-- `dos_machine_configure`; the new machine is the value returned. -/
def configure (ops : MachineOps) (context addressLimit : ℕ) (a20Enabled : Bool) : Except MachineError Machine :=
  if ops.readMemory.isNone ∨ ops.writeMemory.isNone ∨ addressLimit = 0 ∨ addressLimit > guest32AddressLimit then
    .error .invalidArgument
  else .ok ⟨some ops, context, addressLimit, a20Enabled, 0⟩

/-- `normalize_callback_status`. -/
def normalizeCallbackStatus (status : Option MachineError) : MachineError := status.getD .ioFault

variable (machine : Machine)

/-- `machine_ready`. -/
def machineReady : MachineM Unit := do
  failWhen (machine.poisoned > 1) .invalidArgument
  failWhen (machine.poisoned ≠ 0) .stopped

/-- `guest_range_is_valid`. -/
def guestRangeIsValid (address count : ℕ) : Prop :=
  address < machine.addressLimit ∧ count ≤ machine.addressLimit - address
deriving Decidable

/-- One `read_memory` callback. -/
def callRead (callback : ℕ → Option (Option MachineError)) (address count : ℕ) : MachineM (List UInt8) :=
  fun guest =>
    let next := { guest with calls := guest.calls + 1 }
    match callback guest.calls with
    | none => .ok (Store.load guest.memory (List.range' address count)) next
    | some status => .error (normalizeCallbackStatus status) next

/-- One `write_memory` callback. -/
def callWrite (callback : ℕ → Option WriteFault) (address : ℕ) (source : List UInt8) (count : ℕ) :
    MachineM Unit := fun guest =>
  match callback guest.calls with
  | none =>
    .ok () ⟨Store.save guest.memory (List.range' address count) (source.take count), guest.calls + 1⟩
  | some fault =>
    .error (normalizeCallbackStatus fault.status)
      ⟨fun target => if address ≤ target ∧ target < address + count then fault.residue target
        else guest.memory target, guest.calls + 1⟩

/-- `dos_machine_read`. -/
def read (address capacity count : ℕ) : MachineM (List UInt8) := do
  let callback ← demand (machine.ops.bind MachineOps.readMemory) .invalidArgument
  machine.machineReady
  if count = 0 then pure [] else do
    failWhen (count > capacity) .invalidArgument
    failWhen (¬ machine.guestRangeIsValid address count) .addressFault
    callRead callback address count

/-- `dos_machine_write`. -/
def write (address : ℕ) (source : List UInt8) (count : ℕ) : MachineM Unit := do
  let callback ← demand (machine.ops.bind MachineOps.writeMemory) .invalidArgument
  machine.machineReady
  if count = 0 then pure () else do
    failWhen (count > source.length) .invalidArgument
    failWhen (¬ machine.guestRangeIsValid address count) .addressFault
    callWrite callback address source count

/-- The common tail of both replacements: publish, or put the saved bytes back. -/
def publishOrRestore (publish restore : MachineM Unit) (rollback : List UInt8) : MachineM (List UInt8) := do
  match ← attempt publish with
  | .ok () => pure rollback
  | .error status =>
    match ← attempt restore with
    | .ok () => throw status
    | .error _ => throw .rollbackFailed

/-- `dos_machine_replace`; the value returned is the content of the rollback buffer. -/
def replace (address : ℕ) (source : List UInt8) (rollbackCapacity count : ℕ) : MachineM (List UInt8) :=
  if count = 0 then pure [] else do
    failWhen (count > source.length ∨ count > rollbackCapacity) .invalidArgument
    let rollback ← machine.read address rollbackCapacity count
    publishOrRestore (machine.write address source count) (machine.write address rollback count) rollback

variable (segment offset : UInt16)

/-- `dos_far_to_linear`. -/
def farToLinear (a20Enabled : Bool) : ℕ :=
  let linear := segment.toNat * 16 + offset.toNat
  if a20Enabled then linear else linear % a20WrapAddress

/-- One contiguous piece of a far transfer. -/
structure Chunk where
  (linear length : ℕ)

def Chunk.addresses (chunk : Chunk) : List ℕ := List.range' chunk.linear chunk.length

/-- `far_transfer_chunk`. -/
def farTransferChunk (remaining : ℕ) : Chunk :=
  let linear := farToLinear segment offset machine.a20Enabled
  let chunk := min remaining (0x10000 - offset.toNat)
  ⟨linear, if machine.a20Enabled then chunk else min chunk (a20WrapAddress - linear)⟩

/-- The chunks visited by the transfer loops; every chunk is nonempty, so `count` rounds suffice. -/
def farChunksLoop : ℕ → UInt16 → ℕ → List Chunk
  | 0, _, _ => []
  | rounds + 1, offset, remaining =>
    if remaining = 0 then [] else
      let chunk := machine.farTransferChunk segment offset remaining
      chunk :: farChunksLoop rounds (offset + UInt16.ofNat chunk.length) (remaining - chunk.length)

def farChunks (count : ℕ) : List Chunk :=
  machine.farChunksLoop segment count offset count

/-- The linear addresses of a far range, in transfer order. -/
def footprint (count : ℕ) : List ℕ :=
  (machine.farChunks segment offset count).flatMap Chunk.addresses

/-- `dos_machine_validate_far`. -/
def validateFar (count : ℕ) : MachineM Unit := do
  failWhen (machine.addressLimit = 0 ∨ machine.addressLimit > guest32AddressLimit) .invalidArgument
  machine.machineReady
  failWhen (¬ ∀ chunk ∈ machine.farChunks segment offset count,
    chunk.length ≠ 0 ∧ machine.guestRangeIsValid chunk.linear chunk.length) .addressFault

def readChunks : ℕ → List Chunk → MachineM (List UInt8)
  | _, [] => pure []
  | capacity, chunk :: rest => do
    let head ← machine.read chunk.linear capacity chunk.length
    let tail ← readChunks (capacity - chunk.length) rest
    pure (head ++ tail)

def writeChunks : List UInt8 → List Chunk → MachineM Unit
  | _, [] => pure ()
  | source, chunk :: rest => do
    machine.write chunk.linear source chunk.length
    writeChunks (source.drop chunk.length) rest

/-- `dos_machine_read_far`. -/
def readFar (capacity count : ℕ) : MachineM (List UInt8) := do
  let _ ← demand (machine.ops.bind MachineOps.readMemory) .invalidArgument
  failWhen (count > capacity) .invalidArgument
  machine.validateFar segment offset count
  machine.readChunks capacity (machine.farChunks segment offset count)

/-- `dos_machine_write_far`. -/
def writeFar (source : List UInt8) (count : ℕ) : MachineM Unit := do
  let _ ← demand (machine.ops.bind MachineOps.writeMemory) .invalidArgument
  failWhen (count > source.length) .invalidArgument
  machine.validateFar segment offset count
  machine.writeChunks source (machine.farChunks segment offset count)

/-- `dos_machine_replace_far`. -/
def replaceFar (source : List UInt8) (rollbackCapacity count : ℕ) : MachineM (List UInt8) :=
  if count = 0 then pure [] else do
    failWhen (count > source.length ∨ count > rollbackCapacity) .invalidArgument
    let rollback ← machine.readFar segment offset rollbackCapacity count
    publishOrRestore (machine.writeFar segment offset source count)
      (machine.writeFar segment offset rollback count) rollback

/-- Both callbacks are present and no call of either of them ever fails. -/
def FaultFree : Prop :=
  ∃ readCallback writeCallback,
    machine.ops.bind MachineOps.readMemory = some readCallback ∧
    machine.ops.bind MachineOps.writeMemory = some writeCallback ∧
    (∀ call, readCallback call = none) ∧ ∀ call, writeCallback call = none

end Machine

end DosC32
