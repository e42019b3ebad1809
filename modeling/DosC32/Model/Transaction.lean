import DosC32.Model.Manager

/-! # Sector transactions

`storage/core/transaction.c`: two transactions of at most sixteen sectors each. Staging reads the image a
sector has before the transaction; committing writes the staged images in order, and puts the earlier
images back in reverse order when a write or the closing flush does not complete.
-/

namespace DosC32

open Effect

def iomgrTransactionMaxSectors : ℕ := 16

namespace Storage

variable {Driver : Type}

def withTransactions (transactions : Fin 2 → Pool.Slot Transaction) (storage : Storage Driver) : Storage Driver :=
  { storage with transactions }

variable (index : Fin 2)

def setTransactionState (state : Pool.State) : StorageM Driver Unit :=
  modify fun storage => storage.withTransactions (Pool.setState storage.transactions index state)

def setTransaction (content : Transaction) : StorageM Driver Unit :=
  modify fun storage => storage.withTransactions
    (Function.update storage.transactions index { storage.transactions index with content })

def transactionAt : StorageM Driver Transaction := do pure ((← get).transactions index).content

/-- `resolve_transaction`. -/
def resolveTransaction (handle : ℕ) : StorageM Driver (Fin 2) := resolveIn Storage.transactions handle

/-- `reserve_transaction`. -/
def reserveTransaction : StorageM Driver (Fin 2) := reserveIn Storage.transactions withTransactions .live

/-- `iomgr_transaction_begin`. -/
def iomgrTransactionBegin (volume : ℕ) : StorageM Driver ℕ := do
  let info ← iomgrGetVolumeInfo volume
  failWhen (info.capabilities &&& iomgrVolumeCapWrite = 0) .readOnly
  let index ← reserveTransaction
  setTransaction index ⟨volume, info, []⟩
  pure (Pool.makeHandle index ((← get).transactions index).generation)

/-- `bindings_match`. -/
def bindingsMatch (left right : VolumeInfo) : Prop :=
  left.driverIdentity = right.driverIdentity ∧ left.device = right.device ∧ left.firstLba = right.firstLba ∧
  left.sectorCount = right.sectorCount ∧ left.capabilities = right.capabilities ∧
  left.maximumNameUnits = right.maximumNameUnits ∧ left.reserved = 0 ∧ right.reserved = 0
deriving Decidable

/-- Give an entry that is already staged a new image; staged addresses are distinct. -/
def restage (entries : List TransactionEntry) (lba : ℕ) (after : Sector) : List TransactionEntry :=
  entries.map fun entry => if entry.relativeLba = lba then { entry with after } else entry

/-- `iomgr_transaction_stage`. -/
def iomgrTransactionStage (transaction relativeLba : ℕ) (after : Sector) : StorageM Driver Unit := do
  let index ← resolveTransaction transaction
  let slot ← transactionAt index
  failWhen (relativeLba ≥ slot.binding.sectorCount) .invalidArgument
  let physicalLba ← demand (Checked.add 64 slot.binding.firstLba relativeLba) .invalidArgument
  if slot.entries.any (·.relativeLba = relativeLba) then
    setTransaction index { slot with entries := restage slot.entries relativeLba after }
  else do
    failWhen (slot.entries.length = iomgrTransactionMaxSectors) .noSlot
    let before ← transfer (Devices.blockDeviceReadSector slot.binding.device physicalLba)
    setTransaction index { slot with entries := slot.entries ++ [⟨relativeLba, before, after⟩] }

/-- Write one sector of the bound volume, as the forward and the rollback loop do. -/
def writeBound (binding : VolumeInfo) (relativeLba : ℕ) (content : Sector) : StorageM Driver Unit := do
  let physicalLba ← demand (Checked.add 64 binding.firstLba relativeLba) .ioError
  transfer (Devices.blockDeviceWriteSector binding.device physicalLba content)

/-- The forward loop of the commit; the value is the number of sectors written. -/
def writeForward (binding : VolumeInfo) : List TransactionEntry → StorageM Driver ℕ
  | [] => pure 0
  | entry :: rest => do
    match ← attempt (writeBound binding entry.relativeLba entry.after) with
    | .ok () => return (← writeForward binding rest) + 1
    | .error _ => pure 0

/-- The loop of `rollback`, over the written entries from the last to the first. -/
def rollbackLoop (binding : VolumeInfo) : List TransactionEntry → StorageM Driver Bool
  | [] => pure true
  | entry :: rest => do
    let written ← attempt (writeBound binding entry.relativeLba entry.before)
    let restored ← rollbackLoop binding rest
    pure (written.isOk && restored)

variable (slot : Transaction)

/-- `rollback`. -/
def rollback (written : ℕ) : StorageM Driver Bool := do
  let restored ← rollbackLoop slot.binding (slot.entries.take written).reverse
  let flushed ← attempt (transfer (Devices.blockDeviceFlush slot.binding.device))
  pure (restored && flushed.isOk)

/-- The binding check at the head of the commit; a transaction that lost its volume is released. -/
def checkBinding : StorageM Driver Unit := do
  match ← attempt (iomgrGetVolumeInfo slot.volume) with
  | .error status =>
    setTransactionState index .free
    throw status
  | .ok current =>
    if ¬ bindingsMatch slot.binding current then do
      setTransactionState index .free
      throw .staleHandle
    else pure ()

/-- The failing exits of the commit: the sectors are put back, or transaction and volume are quarantined. -/
def undoCommit (written : ℕ) : StorageM Driver Unit := do
  if ← rollback slot written then do
    setTransactionState index .free
    throw .ioError
  else do
    setTransactionState index .quarantined
    match ← attempt (iomgrQuarantineVolume slot.volume) with
    | .ok () => throw .uncertain
    | .error _ => throw .poisoned

/-- The tail of the commit after the forward loop. -/
def settleCommit (written : ℕ) : StorageM Driver Unit := do
  if written = slot.entries.length then do
    match ← attempt (transfer (Devices.blockDeviceFlush slot.binding.device)) with
    | .ok () => setTransactionState index .free
    | .error _ => undoCommit index slot written
  else undoCommit index slot written

/-- `iomgr_transaction_commit`. -/
def iomgrTransactionCommit (transaction : ℕ) : StorageM Driver Unit := do
  let index ← resolveTransaction transaction
  let slot ← transactionAt index
  checkBinding index slot
  let written ← writeForward slot.binding slot.entries
  settleCommit index slot written

/-- `iomgr_transaction_abort`. -/
def iomgrTransactionAbort (transaction : ℕ) : StorageM Driver Unit := do
  let index ← resolveTransaction transaction
  setTransactionState index .free

end Storage

end DosC32
