import DosC32.Model.Machine

/-! # Inheritance of open files by a child

`dos/sft_batch.c`: the twenty bytes of the parent's handle table are filtered, every inherited entry
opens its device and takes a reference, and a failure or an abort undoes them in reverse. The adapter
of the system file table is a record of callbacks on a state of its own; the model records every call
with its answer. A batch keeps its entries newest first, which is the order of the unwind. Pointer
arguments and callbacks are never null.
-/

namespace DosC32

open Effect

/-- `enum dos_sft_adapter_status`; every other value counts as a fault. -/
inductive SftAdapterStatus where
  | ok
  | invalidSft
  | fault
deriving DecidableEq

/-- `struct dos_sft_view`. -/
structure SftView where
  referenceHandle : ℕ
  (flags mode : BitVec 16)
deriving DecidableEq

/-- The callbacks that act on a reference. -/
inductive SftAction where
  | deviceOpen
  | referenceAcquire
  | referenceRelease
  | deviceClose
deriving DecidableEq

/-- `struct dos_sft_batch_ops`, on the adapter's own state. -/
structure SftBatchOps (σ : Type) where
  identity : ℕ
  lookup : ℕ → UInt8 → σ → (SftAdapterStatus × SftView) × σ
  act : SftAction → ℕ → ℕ → σ → SftAdapterStatus × σ

/-- A call of the adapter; a lookup with the view it filled in. -/
inductive SftCall where
  | lookup (sfn : UInt8) (view : SftView)
  | act (action : SftAction) (reference : ℕ)
deriving DecidableEq

/-- The adapter's state and the calls made so far, newest first. -/
structure SftWorld (σ : Type) where
  adapter : σ
  trace : List (SftCall × SftAdapterStatus)

namespace SftBatch

def jftEntries : ℕ := 20
def batchMaximum : ℕ := 8
def slotBits : ℕ := 4
def generationMaximum : ℕ := 0x0fffffffffffffff
def jftEntryUnused : UInt8 := 0xff
def flagIsNetwork : BitVec 16 := 0x8000
def flagNoInherit : BitVec 16 := 0x1000
def sharingMask : BitVec 16 := 0x00f0
def sharingNetworkFcb : BitVec 16 := 0x0070
def referenceHandleInvalid : ℕ := kernelObjectHandleInvalid

section Adapter

variable {ε σ : Type} (ops : SftBatchOps σ) (context : ℕ)

/-- Call `lookup`. -/
def lookupSft (sfn : UInt8) : EStateM ε (SftWorld σ) (SftAdapterStatus × SftView) := fun world =>
  let answer := ops.lookup context sfn world.adapter
  .ok answer.1 ⟨answer.2, (.lookup sfn answer.1.2, answer.1.1) :: world.trace⟩

/-- Call one of the other callbacks. -/
def actOnSft (action : SftAction) (reference : ℕ) : EStateM ε (SftWorld σ) SftAdapterStatus := fun world =>
  let answer := ops.act action context reference world.adapter
  .ok answer.1 ⟨answer.2, (.act action reference, answer.1) :: world.trace⟩

end Adapter

/-- The flags of a view say that the entry is not on a network. -/
def isLocal (flags : BitVec 16) : Bool := flags &&& flagIsNetwork == 0

/-- `sft_is_inheritable`. -/
def sftIsInheritable (view : SftView) : Bool :=
  view.flags &&& flagNoInherit == 0 && view.mode &&& sharingMask != sharingNetworkFcb

end SftBatch

/-- `struct batch_entry`; the two flags are the bits of `actions`. -/
structure BatchEntry where
  referenceHandle : ℕ
  sfn : UInt8
  (deviceOpen referenceAcquired : Bool)

/-- `enum internal_batch_state`. -/
inductive BatchState where
  | free
  | preparing
  | prepared
  | committed
  | aborted
  | poisoned
deriving DecidableEq

/-- `struct batch_slot`; `entries` holds the first `action_count`, newest first. -/
structure BatchSlot where
  entries : List BatchEntry
  childJft : Fin SftBatch.jftEntries → UInt8
  (context adapterIdentity generation inheritedCount : ℕ)
  state : BatchState

/-- `enum dos_sft_batch_status` without `DOS_SFT_BATCH_OK`; a poisoned preparation publishes its handle. -/
inductive SftBatchError where
  | invalidArgument
  | noSlot
  | staleHandle
  | invalidState
  | alreadyCommitted
  | adapterFault
  | poisoned (handle : ℕ)

/-- The registry of batches with the adapter. -/
structure SftBatches (σ : Type) where
  slots : Fin SftBatch.batchMaximum → BatchSlot
  world : SftWorld σ

namespace SftBatch

variable {σ : Type}

abbrev BatchM (σ : Type) := EStateM SftBatchError (SftBatches σ)

/-- `make_handle`. -/
def makeHandle (slot generation : ℕ) : ℕ := generation <<< slotBits ||| (slot + 1)

variable (slots : Fin batchMaximum → BatchSlot)

/-- `resolve_handle`. -/
def resolveHandle (handle : ℕ) : Option (Fin batchMaximum) :=
  let encodedSlot := handle % 2 ^ slotBits
  let generation := handle >>> slotBits
  if encodedSlot = 0 ∨ generation = 0 then none
  else if inside : encodedSlot - 1 < batchMaximum then
    if (slots ⟨encodedSlot - 1, inside⟩).state = .free ∨ (slots ⟨encodedSlot - 1, inside⟩).generation ≠ generation then none
    else some ⟨encodedSlot - 1, inside⟩
  else none

/-- `initialize_slot`. -/
def initializeSlot (context adapterIdentity generation : ℕ) : BatchSlot :=
  ⟨[], fun _ => jftEntryUnused, context, adapterIdentity, generation, 0, .preparing⟩

/-- `recycle_slot`. -/
def recycleSlot (slot : BatchSlot) : BatchSlot :=
  ⟨[], fun _ => jftEntryUnused, kernelObjectHandleInvalid, kernelObjectHandleInvalid, slot.generation, 0, .free⟩

section Unwind

variable {ε : Type} (ops : SftBatchOps σ) (context : ℕ)

/-- The first half of a round of `unwind_entries`: the entry after it, and whether the call succeeded. -/
def releaseEntry (entry : BatchEntry) : EStateM ε (SftWorld σ) (BatchEntry × Bool) := do
  if entry.referenceAcquired then do
    let status ← actOnSft ops context .referenceRelease entry.referenceHandle
    if status = .ok then pure ({ entry with referenceAcquired := false }, true) else pure (entry, false)
  else pure (entry, true)

/-- The second half: the device is closed only once the reference is gone. -/
def closeEntry (entry : BatchEntry) : EStateM ε (SftWorld σ) (BatchEntry × Bool) := do
  if entry.referenceAcquired = false ∧ entry.deviceOpen = true then do
    let status ← actOnSft ops context .deviceClose entry.referenceHandle
    if status = .ok then pure ({ entry with deviceOpen := false }, true) else pure (entry, false)
  else pure (entry, true)

/-- `unwind_entries`: the entries after it, and whether every call succeeded. -/
def unwindEntries : List BatchEntry → EStateM ε (SftWorld σ) (List BatchEntry × Bool)
  | [] => pure ([], true)
  | entry :: rest => do
    let released ← releaseEntry ops context entry
    let closed ← closeEntry ops context released.1
    let others ← unwindEntries rest
    pure (closed.1 :: others.1, released.2 && closed.2 && others.2)

end Unwind

/-- The slot under preparation and the adapter. -/
abbrev PrepareM (σ : Type) := EStateM Unit (BatchSlot × SftWorld σ)

/-- Run an adapter call. -/
def onWorld {α : Type} (action : EStateM Unit (SftWorld σ) α) : PrepareM σ α :=
  focus Prod.snd (fun world state => (state.1, world)) action

/-- Change the newest entry. -/
def markEntry (mark : BatchEntry → BatchEntry) (slot : BatchSlot) : BatchSlot :=
  { slot with entries := slot.entries.modifyHead mark }

def changeSlot (change : BatchSlot → BatchSlot) : PrepareM σ Unit := modify fun state => (change state.1, state.2)

variable (ops : SftBatchOps σ) (context : ℕ)

/-- The device of a local entry is opened. -/
def openDevice (view : SftView) : PrepareM σ Unit := do
  if isLocal view.flags then do
    let status ← onWorld (actOnSft ops context .deviceOpen view.referenceHandle)
    failWhen (status ≠ .ok) ()
    changeSlot (markEntry fun entry => { entry with deviceOpen := true })
  else pure ()

/-- An inheritable entry of the parent's table. -/
def inheritEntry (index : Fin jftEntries) (sfn : UInt8) (view : SftView) : PrepareM σ Unit := do
  changeSlot fun slot => { slot with entries := ⟨view.referenceHandle, sfn, false, false⟩ :: slot.entries }
  openDevice ops context view
  let status ← onWorld (actOnSft ops context .referenceAcquire view.referenceHandle)
  failWhen (status ≠ .ok) ()
  changeSlot fun slot => { markEntry (fun entry => { entry with referenceAcquired := true }) slot with
    childJft := Function.update slot.childJft index sfn, inheritedCount := slot.inheritedCount + 1 }

variable (parentJft : Fin jftEntries → UInt8)

/-- One round of the loop of `dos_sft_batch_prepare`. -/
def prepareEntry (index : Fin jftEntries) : PrepareM σ Unit := do
  if parentJft index = jftEntryUnused then pure ()
  else do
    let answer ← onWorld (lookupSft ops context (parentJft index))
    if answer.1 = .invalidSft then pure ()
    else do
      failWhen (answer.1 ≠ .ok ∨ answer.2.referenceHandle = referenceHandleInvalid) ()
      if sftIsInheritable answer.2 then inheritEntry ops context index (parentJft index) answer.2 else pure ()

/-- The loop of `dos_sft_batch_prepare`. -/
def prepareEntries : List (Fin jftEntries) → PrepareM σ Unit
  | [] => pure ()
  | index :: rest => do
    prepareEntry ops context parentJft index
    prepareEntries rest

/-- Run a procedure on one slot and the adapter. -/
def onSlot {α : Type} (index : Fin batchMaximum) (action : PrepareM σ α) : BatchM σ (Except Unit α) :=
  attempt (focus (fun state => (state.slots index, state.world))
    (fun part state => ⟨Function.update state.slots index part.1, part.2⟩) action)

variable (index : Fin batchMaximum)

def setSlot (change : BatchSlot → BatchSlot) : BatchM σ Unit :=
  modify fun state => { state with slots := Function.update state.slots index (change (state.slots index)) }

/-- Unwind the entries of a slot. -/
def unwindSlot : BatchM σ Bool := do
  let state ← get
  let unwound ← focus (·.world) (fun world state => { state with world })
    (unwindEntries ops context (state.slots index).entries)
  setSlot index fun slot => { slot with entries := unwound.1 }
  pure unwound.2

variable (handle : ℕ)

/-- `fail_prepare`. -/
def failPrepare : BatchM σ ℕ := do
  let clean ← unwindSlot ops context index
  if clean then do
    setSlot index recycleSlot
    throw .adapterFault
  else do
    setSlot index fun slot => { slot with state := .poisoned }
    throw (.poisoned handle)

/-- The first slot that is free and not exhausted. -/
def findSlot : Option (Fin batchMaximum) :=
  (List.finRange batchMaximum).find? fun index =>
    decide ((slots index).state = .free) && decide ((slots index).generation < generationMaximum)

/-- What the outcome of the loop means. -/
def settlePrepare :
    Except Unit Unit → BatchM σ ℕ
  | .ok _ => do
    setSlot index fun slot => { slot with state := .prepared }
    pure handle
  | .error _ => failPrepare ops context index handle

/-- `dos_sft_batch_prepare`. -/
def prepare : BatchM σ ℕ := do
  failWhen (ops.identity = kernelObjectHandleInvalid ∨ context = kernelObjectHandleInvalid) .invalidArgument
  let state ← get
  let index ← demand (findSlot state.slots) .noSlot
  setSlot index fun slot => initializeSlot context ops.identity (slot.generation + 1)
  let outcome ← onSlot index (prepareEntries ops context parentJft (List.finRange jftEntries))
  settlePrepare ops context index (makeHandle index ((state.slots index).generation + 1)) outcome

/-- `dos_sft_batch_preflight_commit`. -/
def preflightCommit : BatchM σ (Fin batchMaximum) := do
  let state ← get
  let index ← demand (resolveHandle state.slots handle) .staleHandle
  failWhen ((state.slots index).state = .poisoned) (.poisoned handle)
  failWhen ((state.slots index).state ≠ .prepared) .invalidState
  pure index

/-- `dos_sft_batch_commit`. -/
def commit : BatchM σ Unit := do
  let state ← get
  let index ← demand (resolveHandle state.slots handle) .staleHandle
  if (state.slots index).state = .committed then pure ()
  else do
    let _ ← preflightCommit handle
    setSlot index fun slot => { slot with state := .committed }

/-- The last step of `dos_sft_batch_abort`. -/
def settleAbort (clean : Bool) : BatchM σ Unit :=
  if clean then setSlot index fun slot => { slot with state := .aborted }
  else do
    setSlot index fun slot => { slot with state := .poisoned }
    throw (.poisoned handle)

/-- `dos_sft_batch_abort`. -/
def abort (context handle : ℕ) : BatchM σ Unit := do
  let state ← get
  let index ← demand (resolveHandle state.slots handle) .staleHandle
  failWhen ((state.slots index).state = .poisoned) (.poisoned handle)
  failWhen (context ≠ (state.slots index).context ∨ ops.identity ≠ (state.slots index).adapterIdentity) .invalidArgument
  failWhen ((state.slots index).state = .committed) .alreadyCommitted
  if (state.slots index).state = .aborted then pure ()
  else do
    failWhen ((state.slots index).state ≠ .prepared) .invalidState
    failWhen (ops.identity = kernelObjectHandleInvalid) .invalidArgument
    let clean ← unwindSlot ops context index
    settleAbort index handle clean

/-- `dos_sft_batch_preflight_retire`. -/
def preflightRetire : BatchM σ (Fin batchMaximum) := do
  let state ← get
  let index ← demand (resolveHandle state.slots handle) .staleHandle
  failWhen ((state.slots index).state = .poisoned) (.poisoned handle)
  failWhen ((state.slots index).state ≠ .aborted ∧ (state.slots index).state ≠ .committed) .invalidState
  pure index

/-- `dos_sft_batch_retire`; the result is the record that was retired. -/
def retire : BatchM σ BatchSlot := do
  let index ← preflightRetire handle
  let state ← get
  setSlot index recycleSlot
  pure (state.slots index)

end SftBatch

end DosC32
