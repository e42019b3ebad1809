import DosC32.Model.Machine

/-! # The undo journal of guest writes

`dos/exec_journal.c`: a bounded list of far writes, each with the bytes it displaced. Staging
publishes one record per successful replacement; a span is cut into records of at most 64 bytes
and undone as a whole when one of them fails; aborting restores the records newest first. The
source buffer of a call is a list, whose length is the capacity passed beside the pointer.
-/

namespace DosC32

open Effect

/-- `enum dos_exec_journal_status` without `DOS_EXEC_JOURNAL_OK`. -/
inductive JournalError where
  | invalidArgument
  | invalidState
  | recordTooLarge
  | full
  | identityMismatch
  | contextMismatch
  | machineMismatch
  | machineFault
  | poisoned

def journalRecordCapacity : ℕ := 16
def journalRecordBytes : ℕ := 64

def journalStateUninitialized : UInt8 := 0
def journalStateStaging : UInt8 := 1
def journalStateSealed : UInt8 := 2
def journalStateAborted : UInt8 := 3
def journalStatePoisoned : UInt8 := 4

/-- `struct dos_exec_journal_record`. -/
structure JournalRecord where
  (segment offset : UInt16)
  count : UInt8
  reserved : Fin 3 → UInt8
  oldBytes : Fin 64 → UInt8

/-- `struct dos_exec_journal`. -/
structure Journal where
  (machineIdentity machineContext machineAddressLimit recordCount : ℕ)
  (state constructed a20Enabled reserved : UInt8)
  records : Fin 16 → JournalRecord

/-- The native journal and the guest memory it protects. -/
structure JournalState where
  journal : Journal
  guest : Guest

abbrev JournalM := EStateM JournalError JournalState

namespace JournalRecord

/-- `clear_record`. -/
def clear : JournalRecord := ⟨0, 0, 0, fun _ => 0, fun _ => 0⟩

/-- `record_is_clear`. -/
def isClear (record : JournalRecord) : Prop :=
  record.segment = 0 ∧ record.offset = 0 ∧ record.count = 0 ∧ (∀ index, record.reserved index = 0) ∧
    ∀ index, record.oldBytes index = 0
deriving Decidable

/-- `record_is_valid`. -/
def isValid (record : JournalRecord) : Prop :=
  record.count ≠ 0 ∧ record.count.toNat ≤ journalRecordBytes ∧ (∀ index, record.reserved index = 0) ∧
    ∀ index : Fin 64, record.count.toNat ≤ index.val → record.oldBytes index = 0
deriving Decidable

end JournalRecord

namespace Journal

/-- `state_is_valid`. -/
def stateIsValid (state : UInt8) : Prop :=
  state = journalStateUninitialized ∨ state = journalStateStaging ∨ state = journalStateSealed ∨
    state = journalStateAborted ∨ state = journalStatePoisoned
deriving Decidable

variable (journal : Journal)

/-- `dos_exec_journal_has_valid_encoding`. -/
def hasValidEncoding : Prop :=
  (journal.constructed = 1 ∧ journal.reserved = 0 ∧ journal.a20Enabled ≤ 1 ∧ stateIsValid journal.state ∧
    journal.recordCount ≤ journalRecordCapacity) ∧
  (journal.state = journalStateUninitialized →
    journal.machineIdentity = kernelObjectHandleInvalid ∧ journal.machineContext = kernelObjectHandleInvalid ∧
      journal.machineAddressLimit = 0 ∧ journal.recordCount = 0 ∧ journal.a20Enabled = 0) ∧
  (journal.state ≠ journalStateUninitialized →
    identityIsValid journal.machineIdentity ∧ journal.machineContext ≠ kernelObjectHandleInvalid ∧
      journal.machineAddressLimit ≠ 0 ∧ journal.machineAddressLimit ≤ guest32AddressLimit) ∧
  (journal.state = journalStateSealed ∨ journal.state = journalStateAborted → journal.recordCount = 0) ∧
  ∀ index : Fin 16, (index.val < journal.recordCount → (journal.records index).isValid) ∧
    (journal.recordCount ≤ index.val → (journal.records index).isClear)
deriving Decidable

/-- `dos_exec_journal_construct`. -/
def construct : Journal :=
  ⟨kernelObjectHandleInvalid, kernelObjectHandleInvalid, 0, 0, journalStateUninitialized, 1, 0, 0, fun _ => .clear⟩

/-- `machine_is_usable`. -/
def machineIsUsable (machine : Machine) : Prop :=
  (machine.ops.bind MachineOps.readMemory).isSome ∧ (machine.ops.bind MachineOps.writeMemory).isSome ∧
    machine.context ≠ kernelObjectHandleInvalid ∧ machine.addressLimit ≠ 0 ∧
    machine.addressLimit ≤ guest32AddressLimit
deriving Decidable

def a20Byte (a20Enabled : Bool) : UInt8 := if a20Enabled then 1 else 0

def onGuest {α : Type} (action : MachineM α) : EStateM MachineError JournalState α :=
  focus JournalState.guest (fun guest state => { state with guest }) action

def modifyJournal (update : Journal → Journal) : JournalM Unit :=
  modify fun state => { state with journal := update state.journal }

variable (machineIdentity : ℕ) (machine : Machine)

/-- `validate_binding`. -/
def validateBinding : JournalM Unit := do
  let journal := (← get).journal
  failWhen (¬ journal.hasValidEncoding ∨ ¬ identityIsValid machineIdentity ∨ ¬ machineIsUsable machine)
    .invalidArgument
  failWhen (journal.state = journalStatePoisoned) .poisoned
  failWhen (journal.state = journalStateUninitialized) .invalidState
  failWhen (machineIdentity ≠ journal.machineIdentity) .identityMismatch
  failWhen (machine.context ≠ journal.machineContext) .contextMismatch
  failWhen (machine.addressLimit ≠ journal.machineAddressLimit ∨ a20Byte machine.a20Enabled ≠ journal.a20Enabled)
    .machineMismatch

/-- `dos_exec_journal_initialize`. -/
def initializeJournal : JournalM Unit := do
  let journal := (← get).journal
  failWhen (¬ journal.hasValidEncoding ∨ ¬ identityIsValid machineIdentity ∨ ¬ machineIsUsable machine)
    .invalidArgument
  failWhen (journal.state = journalStatePoisoned) .poisoned
  failWhen (journal.state ≠ journalStateUninitialized) .invalidState
  modifyJournal fun journal => { journal with
    machineIdentity, machineContext := machine.context, machineAddressLimit := machine.addressLimit,
    a20Enabled := a20Byte machine.a20Enabled, state := journalStateStaging }

def poison : Journal := { journal with state := journalStatePoisoned }

/-- Append one record at `record_count`. -/
def push (record : JournalRecord) (journal : Journal) : Journal := { journal with
  records := Function.update journal.records (Fin.ofNat 16 journal.recordCount) record
  recordCount := journal.recordCount + 1 }

/-- Clear the last record. -/
def pop : Journal := { journal with
  records := Function.update journal.records (Fin.ofNat 16 (journal.recordCount - 1)) .clear
  recordCount := journal.recordCount - 1 }

variable (segment offset : UInt16) (source : List UInt8) (count : ℕ)

/-- `dos_exec_journal_stage_replace_far`. -/
def stageReplaceFar : JournalM Unit := do
  validateBinding machineIdentity machine
  let journal := (← get).journal
  failWhen (journal.state ≠ journalStateStaging) .invalidState
  failWhen (count = 0 ∨ count > source.length) .invalidArgument
  failWhen (count > journalRecordBytes) .recordTooLarge
  failWhen (journal.recordCount = journalRecordCapacity) .full
  match ← attempt (onGuest (machine.replaceFar segment offset source journalRecordBytes count)) with
  | .error .rollbackFailed => do
    modifyJournal poison
    throw .poisoned
  | .error .invalidArgument => throw .invalidArgument
  | .error _ => throw .machineFault
  | .ok oldBytes => modifyJournal (push
      ⟨segment, offset, UInt8.ofNat count, fun _ => 0, fun index => oldBytes.getD index.val 0⟩)

/-- `restore_to_record_count`; each round removes a record, so `record_count` rounds suffice. -/
def restoreLoop (targetCount : ℕ) : ℕ → JournalM Unit
  | 0 => pure ()
  | rounds + 1 => do
    let journal := (← get).journal
    if journal.recordCount > targetCount then do
      let record := journal.records (Fin.ofNat 16 (journal.recordCount - 1))
      match ← attempt (onGuest (machine.replaceFar record.segment record.offset (List.ofFn record.oldBytes)
        journalRecordBytes record.count.toNat)) with
      | .error (_ : MachineError) => do
        modifyJournal poison
        throw .poisoned
      | .ok _ => do
        modifyJournal pop
        restoreLoop targetCount rounds
    else pure ()

def restoreToRecordCount (targetCount : ℕ) : JournalM Unit := do
  restoreLoop machine targetCount (← get).journal.recordCount

/-- The loop of `dos_exec_journal_stage_replace_far_span`; every chunk is nonempty. -/
def spanLoop (initialCount : ℕ) : ℕ → ℕ → JournalM Unit
  | 0, _ => pure ()
  | rounds + 1, completed =>
    if completed < count then do
      let chunk := min (count - completed) journalRecordBytes
      match ← attempt (stageReplaceFar machineIdentity machine segment
        (UInt16.ofNat (offset.toNat + completed)) (source.drop completed) chunk) with
      | .error status => do
        failWhen ((← get).journal.state = journalStatePoisoned) .poisoned
        match ← attempt (restoreToRecordCount machine initialCount) with
        | .error (_ : JournalError) => throw .poisoned
        | .ok () => throw status
      | .ok () => spanLoop initialCount rounds (completed + chunk)
    else pure ()

/-- `dos_exec_journal_stage_replace_far_span`. -/
def stageReplaceFarSpan : JournalM Unit := do
  validateBinding machineIdentity machine
  let journal := (← get).journal
  failWhen (journal.state ≠ journalStateStaging) .invalidState
  failWhen (count = 0 ∨ count > source.length) .invalidArgument
  let requiredRecords := count / journalRecordBytes + (if count % journalRecordBytes ≠ 0 then 1 else 0)
  failWhen (requiredRecords > journalRecordCapacity - journal.recordCount) .full
  spanLoop machineIdentity machine segment offset source count journal.recordCount count 0

/-- `dos_exec_journal_abort`. -/
def abort : JournalM Unit := do
  validateBinding machineIdentity machine
  let journal := (← get).journal
  if journal.state = journalStateAborted then pure () else do
    failWhen (journal.state ≠ journalStateStaging) .invalidState
    match ← attempt (restoreToRecordCount machine 0) with
    | .error (_ : JournalError) => throw .poisoned
    | .ok () => modifyJournal fun journal => { journal with state := journalStateAborted }

end Journal

end DosC32
