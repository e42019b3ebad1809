import DosC32.Core.LittleEndian
import DosC32.Model.Machine
import Mathlib.Data.Fintype.Basic

/-! # The DOS memory-control-block arena

`dos/memory.c`: allocation, release, transfer and resizing of paragraph blocks whose 16-byte
headers live in guest memory. Every header is read and replaced through the machine boundary. The
walks are bounded by `MCB_MAXIMUM_WALK`, as in the source. A status that the C code returns beside
an output buffer is an error value that carries the buffer's content.
-/

namespace DosC32

open Effect LittleEndian

/-- `enum dos_memory_status` without `DOS_MEMORY_OK`. -/
inductive MemoryError where
  | invalidArgument
  | invalidBlock
  | notEnoughMemory
  | arenaDamaged
  | machineFault
  | machinePoisoned
  | ownerMismatch
  | identityMismatch
  | generationExhausted
deriving DecidableEq

def mcbBytes : ℕ := 16
def mcbSignatureNormal : UInt8 := 0x4d
def mcbSignatureEnd : UInt8 := 0x5a
def mcbOwnerFree : UInt16 := 0
def mcbOwnerNameOffset : ℕ := 8
def mcbMaximumWalk : ℕ := 65536
def memoryOwnerNameBytes : UInt8 := 8
def memoryGenerationMax : ℕ := 2 ^ 64 - 1

def allocFirstFit : UInt8 := 0
def allocBestFit : UInt8 := 1

/-- `struct mcb_record`. -/
@[ext] structure McbRecord where
  bytes : Fin 16 → UInt8
deriving DecidableEq

namespace McbRecord

variable (record : McbRecord)

/-- `mcb_signature`. -/
def signature : UInt8 := record.bytes 0

/-- `mcb_owner`. -/
def owner : UInt16 := word (record.bytes 1) (record.bytes 2)

/-- `mcb_size`. -/
def size : UInt16 := word (record.bytes 3) (record.bytes 4)

/-- `mcb_set_signature`. -/
def setSignature (signature : UInt8) : McbRecord :=
  ⟨Function.update record.bytes 0 signature⟩

/-- `mcb_set_owner`. -/
def setOwner (owner : UInt16) : McbRecord :=
  ⟨Function.update (Function.update record.bytes 1 (lowByte owner)) 2 (highByte owner)⟩

/-- `mcb_set_size`. -/
def setSize (size : UInt16) : McbRecord :=
  ⟨Function.update (Function.update record.bytes 3 (lowByte size)) 4 (highByte size)⟩

/-- `mcb_patch_owner_name`. -/
def patchOwnerName (name : Fin 8 → UInt8) (count : UInt8) : McbRecord :=
  ⟨fun index => if mcbOwnerNameOffset ≤ index.val ∧ index.val - mcbOwnerNameOffset < count.toNat then
    name (Fin.ofNat 8 (index.val - mcbOwnerNameOffset)) else record.bytes index⟩

/-- `mcb_set_owner_name`. -/
def setOwnerName (name : Fin 8 → UInt8) : McbRecord :=
  record.patchOwnerName name memoryOwnerNameBytes

/-- `mcb_signature_is_valid`. -/
def signatureIsValid : Prop :=
  record.signature = mcbSignatureNormal ∨ record.signature = mcbSignatureEnd
deriving Decidable

/-- `mcb_extent_is_valid`. -/
def extentIsValid (segment : UInt16) (record : McbRecord) : Prop :=
  record.size.toNat ≤ 0xffff - segment.toNat
deriving Decidable

/-- The record as a native buffer. -/
def toBytes : List UInt8 := List.ofFn record.bytes

def ofBytes (bytes : List UInt8) : McbRecord := ⟨fun index => bytes.getD index.val 0⟩

end McbRecord

/-- `struct dos_memory_owner_identity`. -/
structure OwnerIdentity where
  pspSegment : UInt16
  name : Fin 8 → UInt8

/-- `struct dos_memory_owner_name_patch`. -/
structure OwnerNamePatch where
  bytes : Fin 8 → UInt8
  count : UInt8
  reserved : Fin 7 → UInt8

/-- `owner_name_patch_is_valid`. -/
def OwnerNamePatch.isValid (patch : OwnerNamePatch) : Prop :=
  patch.count ≠ 0 ∧ patch.count ≤ memoryOwnerNameBytes ∧ ∀ index, patch.reserved index = 0
deriving Decidable

/-- `struct dos_memory_owner_rebind_value`. -/
structure OwnerRebindValue where
  (headerSegment expectedOwner newOwner : UInt16)
  reserved : Fin 2 → UInt8
  replacement : McbRecord

/-- `dos_memory_owner_rebind_value_has_valid_encoding`. -/
def OwnerRebindValue.hasValidEncoding (value : OwnerRebindValue) : Prop :=
  value.expectedOwner ≠ mcbOwnerFree ∧ value.newOwner ≠ mcbOwnerFree ∧ (∀ index, value.reserved index = 0) ∧
    value.replacement.signatureIsValid ∧ McbRecord.extentIsValid value.headerSegment value.replacement ∧
    value.replacement.owner = value.newOwner
deriving Decidable

/-- `struct dos_memory_allocation_result`. -/
structure AllocationResult where
  (blockSegment maximumAvailable : UInt16)
deriving DecidableEq

/-- A failed request together with the maximum left in its output buffer. -/
structure Refusal where
  status : MemoryError
  maximumAvailable : UInt16
deriving DecidableEq

/-- `struct dos_memory_arena`. -/
structure Arena where
  (generation identity : ℕ)
  headSegment : UInt16
  (strategy initialized machinePoisoned constructed : UInt8)
  reserved : Fin 2 → UInt8

/-- The native arena and the guest memory that holds its headers. -/
structure ArenaState where
  arena : Arena
  guest : Guest

abbrev MemoryM := EStateM MemoryError ArenaState

namespace Arena

/-- `arena_flags_have_valid_encoding`. -/
def flagsHaveValidEncoding (arena : Arena) : Prop :=
  arena.initialized ≤ 1 ∧ arena.machinePoisoned ≤ 1 ∧ arena.constructed = 1 ∧
    arena.reserved 0 = 0 ∧ arena.reserved 1 = 0
deriving Decidable

/-- `DOS_MEMORY_ARENA_INITIALIZER`. -/
def initializer (identity : ℕ) : Arena := ⟨0, identity, 0, allocFirstFit, 0, 0, 1, fun _ => 0⟩

def poison (arena : Arena) : Arena := { arena with machinePoisoned := 1 }

end Arena

namespace Memory

/-- `arena->machine_poisoned = 1u; return DOS_MEMORY_MACHINE_POISONED;`. -/
def poisonAndFail {α : Type} : MemoryM α := do
  modify fun state => { state with arena := state.arena.poison }
  throw .machinePoisoned

/-- `arena_is_ready`. -/
def arenaIsReady : MemoryM Unit := do
  let arena := (← get).arena
  failWhen (¬ arena.flagsHaveValidEncoding) .invalidArgument
  failWhen (¬ identityIsValid arena.identity ∨ arena.generation = 0) .invalidArgument
  failWhen (arena.machinePoisoned = 1) .machinePoisoned
  failWhen (arena.initialized ≠ 1) .invalidArgument

/-- `dos_memory_arena_construct`. -/
def arenaConstruct (identity : ℕ) : MemoryM Unit := do
  failWhen (¬ identityIsValid identity) .invalidArgument
  modify fun state => { state with arena := .initializer identity }

/-- A machine operation on the guest component of the state. -/
def onGuest {α : Type} (action : MachineM α) : EStateM MachineError ArenaState α :=
  focus ArenaState.guest (fun guest state => { state with guest }) action

variable (machine : Machine) (segment : UInt16)

/-- `read_record_bytes`. -/
def readRecordBytes : MemoryM McbRecord := do
  let bytes ← mapError (fun _ => .machineFault) (onGuest (machine.readFar segment 0 mcbBytes mcbBytes))
  pure (.ofBytes bytes)

/-- `read_mcb`. -/
def readMcb : MemoryM McbRecord := do
  let record ← readRecordBytes machine segment
  failWhen (¬ (record.signatureIsValid ∧ McbRecord.extentIsValid segment record)) .arenaDamaged
  pure record

variable (record : McbRecord)

/-- `replace_record_bytes`. -/
def replaceRecordBytes : MemoryM Unit := do
  match ← attempt (onGuest (machine.replace (Machine.farToLinear segment 0 machine.a20Enabled)
    record.toBytes mcbBytes mcbBytes)) with
  | .ok _ => pure ()
  | .error .rollbackFailed => poisonAndFail
  | .error _ => throw .machineFault

/-- `next_mcb_segment`. -/
def nextMcbSegment : MemoryM UInt16 := do
  let value := segment.toNat + record.size.toNat + 1
  failWhen (value > 0xffff ∨ value ≤ segment.toNat) .arenaDamaged
  pure (UInt16.ofNat value)

/-- `commit_split`. -/
def commitSplit (currentSegment : UInt16) (currentAfter : McbRecord)
    (splitSegment : UInt16) (splitBefore splitAfter : McbRecord) : MemoryM Unit := do
  replaceRecordBytes machine splitSegment splitAfter
  match ← attempt (replaceRecordBytes machine currentSegment currentAfter) with
  | .ok () => pure ()
  | .error publishStatus =>
    match ← attempt (replaceRecordBytes machine splitSegment splitBefore) with
    | .ok () => if publishStatus = .machinePoisoned then poisonAndFail else throw publishStatus
    | .error (_ : MemoryError) => poisonAndFail

/-- `coalesce_forward`, with the number of rounds still allowed. -/
def coalesceForwardLoop : ℕ → McbRecord → MemoryM McbRecord
  | steps, record =>
    if record.signature = mcbSignatureEnd then pure record else
      match steps with
      | 0 => throw .arenaDamaged
      | steps + 1 => do
        let followingSegment ← nextMcbSegment segment record
        let following ← readMcb machine followingSegment
        if following.owner ≠ mcbOwnerFree then pure record else do
          let combinedSize := record.size.toNat + following.size.toNat + 1
          failWhen (combinedSize > 0xffff) .arenaDamaged
          let record := (record.setSize (UInt16.ofNat combinedSize)).setSignature following.signature
          replaceRecordBytes machine segment record
          coalesceForwardLoop steps record

def coalesceForward : MemoryM McbRecord :=
  coalesceForwardLoop machine segment mcbMaximumWalk record

/-- `dos_memory_arena_initialize_checked`. -/
def arenaInitialize (headSegment endSegment : UInt16) : MemoryM Unit := do
  let arena := (← get).arena
  failWhen (¬ arena.flagsHaveValidEncoding ∨ ¬ identityIsValid arena.identity ∨
    endSegment ≤ headSegment) .invalidArgument
  failWhen (arena.machinePoisoned = 1) .machinePoisoned
  failWhen (arena.generation = memoryGenerationMax) .generationExhausted
  let paragraphs := endSegment.toNat - headSegment.toNat - 1
  failWhen (paragraphs > 0xffff) .invalidArgument
  replaceRecordBytes machine headSegment
    (((McbRecord.mk fun _ => 0).setSignature mcbSignatureEnd).setOwner mcbOwnerFree
      |>.setSize (UInt16.ofNat paragraphs))
  modify fun state => { state with arena := { state.arena with
    generation := state.arena.generation + 1, headSegment, strategy := allocFirstFit,
    initialized := 1, machinePoisoned := 0, constructed := 1 } }

/-- The walk of `dos_memory_arena_validate_checked`. -/
def validateLoop : ℕ → UInt16 → MemoryM Unit
  | 0, _ => throw .arenaDamaged
  | steps + 1, segment => do
    let record ← readMcb machine segment
    if record.signature = mcbSignatureEnd then pure () else do
      let next ← nextMcbSegment segment record
      validateLoop steps next

/-- `dos_memory_arena_validate_checked`. -/
def arenaValidate : MemoryM Unit := do
  arenaIsReady
  validateLoop machine mcbMaximumWalk (← get).arena.headSegment

/-- `dos_memory_arena_poison`. -/
def arenaPoison : MemoryM Unit := do
  let arena := (← get).arena
  failWhen (¬ arena.flagsHaveValidEncoding ∨ arena.initialized ≠ 1 ∨
    ¬ identityIsValid arena.identity ∨ arena.generation = 0) .invalidArgument
  modify fun state => { state with arena := state.arena.poison }

/-- `struct allocation_candidates`. -/
structure AllocationCandidates where
  found : Bool
  (first best bestSize last maximum : UInt16)

namespace AllocationCandidates

def none : AllocationCandidates := ⟨false, 0, 0, 0, 0, 0⟩

/-- Account for one free block of a search. -/
def consider (candidates : AllocationCandidates) (requested segment size : UInt16) : AllocationCandidates :=
  let candidates := if size > candidates.maximum then { candidates with maximum := size } else candidates
  if size ≥ requested then
    let candidates :=
      if candidates.found = false then
        { candidates with first := segment, best := segment, bestSize := size, found := true }
      else if size < candidates.bestSize then { candidates with best := segment, bestSize := size }
      else candidates
    { candidates with last := segment }
  else candidates

/-- The block chosen by an allocation strategy. -/
def selected (candidates : AllocationCandidates) (strategy : UInt8) : UInt16 :=
  if strategy = allocFirstFit then candidates.first
  else if strategy = allocBestFit then candidates.best
  else candidates.last

end AllocationCandidates

/-- The walk of `find_candidates`. -/
def findCandidatesLoop (requested : UInt16) : ℕ → UInt16 → AllocationCandidates → MemoryM AllocationCandidates
  | 0, _, _ => throw .arenaDamaged
  | steps + 1, segment, candidates => do
    let record ← readMcb machine segment
    let (record, candidates) ←
      if record.owner = mcbOwnerFree then do
        let record ← coalesceForward machine segment record
        pure (record, candidates.consider requested segment record.size)
      else pure (record, candidates)
    if record.signature = mcbSignatureEnd then pure candidates else do
      let next ← nextMcbSegment segment record
      findCandidatesLoop requested steps next candidates

/-- `find_candidates`. -/
def findCandidates (requested : UInt16) : MemoryM AllocationCandidates := do
  findCandidatesLoop machine requested mcbMaximumWalk (← get).arena.headSegment .none

/-- `dos_memory_query_maximum_checked`. -/
def queryMaximum : MemoryM UInt16 := do
  arenaIsReady
  let candidates ← findCandidates machine 0xffff
  pure candidates.maximum

/-- The header of an allocated block, with its owner name when one is given. -/
def claimRecord (record : McbRecord) (owner : UInt16) (ownerName : Option (Fin 8 → UInt8)) : McbRecord :=
  match ownerName with
  | some name => (record.setOwner owner).setOwnerName name
  | none => record.setOwner owner

/-- `allocate_low`; the value is the segment of the block. -/
def allocateLow (segment requested owner : UInt16) (ownerName : Option (Fin 8 → UInt8)) : MemoryM UInt16 := do
  let currentBefore ← readMcb machine segment
  let originalSize := currentBefore.size
  failWhen (requested > originalSize) .arenaDamaged
  let currentAfter := claimRecord currentBefore owner ownerName
  if requested < originalSize then do
    let remainderValue := segment.toNat + requested.toNat + 1
    failWhen (remainderValue > 0xffff) .arenaDamaged
    let remainderSegment := UInt16.ofNat remainderValue
    let remainderBefore ← readRecordBytes machine remainderSegment
    let remainderAfter := ((remainderBefore.setSignature currentBefore.signature).setOwner mcbOwnerFree).setSize
      (originalSize - requested - 1)
    commitSplit machine segment ((currentAfter.setSignature mcbSignatureNormal).setSize requested)
      remainderSegment remainderBefore remainderAfter
    pure (segment + 1)
  else do
    replaceRecordBytes machine segment currentAfter
    pure (segment + 1)

/-- `allocate_high`. -/
def allocateHigh (segment requested owner : UInt16) (ownerName : Option (Fin 8 → UInt8)) : MemoryM UInt16 := do
  let lowerBefore ← readMcb machine segment
  let originalSize := lowerBefore.size
  failWhen (requested > originalSize) .arenaDamaged
  if requested = originalSize then allocateLow machine segment requested owner ownerName else do
    let difference := originalSize - requested
    let upperValue := segment.toNat + difference.toNat
    failWhen (upperValue > 0xffff) .arenaDamaged
    let upperSegment := UInt16.ofNat upperValue
    let upperBefore ← readRecordBytes machine upperSegment
    let upperAfter := claimRecord ((upperBefore.setSignature lowerBefore.signature).setSize requested)
      owner ownerName
    let lowerAfter := ((lowerBefore.setSignature mcbSignatureNormal).setSize (difference - 1)).setOwner mcbOwnerFree
    commitSplit machine segment lowerAfter upperSegment upperBefore upperAfter
    pure (upperSegment + 1)

/-- `allocate_checked_common`. -/
def allocateCheckedCommon (ownerPsp : UInt16) (ownerName : Option (Fin 8 → UInt8))
    (paragraphs : UInt16) : EStateM Refusal ArenaState AllocationResult := do
  mapError (Refusal.mk · 0) arenaIsReady
  let candidates ← mapError (Refusal.mk · 0) (findCandidates machine paragraphs)
  failWhen (candidates.found = false) ⟨.notEnoughMemory, candidates.maximum⟩
  let strategy := (← get).arena.strategy
  let selected := candidates.selected strategy
  let block ← mapError (Refusal.mk · candidates.maximum)
    (if strategy > allocBestFit then allocateHigh machine selected paragraphs ownerPsp ownerName
     else allocateLow machine selected paragraphs ownerPsp ownerName)
  pure ⟨block, candidates.maximum⟩

/-- `dos_memory_allocate_checked`. -/
def allocate (ownerPsp paragraphs : UInt16) : EStateM Refusal ArenaState AllocationResult :=
  allocateCheckedCommon machine ownerPsp none paragraphs

/-- `dos_memory_allocate_named_checked`. -/
def allocateNamed (owner : OwnerIdentity) (paragraphs : UInt16) : EStateM Refusal ArenaState AllocationResult := do
  failWhen (owner.pspSegment = mcbOwnerFree) ⟨.invalidArgument, 0⟩
  allocateCheckedCommon machine owner.pspSegment (some owner.name) paragraphs

/-- The walk of `locate_mcb`. -/
def locateMcbLoop (wantedSegment : UInt16) : ℕ → UInt16 → MemoryM McbRecord
  | 0, _ => throw .arenaDamaged
  | steps + 1, segment => do
    let record ← readMcb machine segment
    if segment = wantedSegment then pure record else do
      failWhen (wantedSegment < segment ∨ record.signature = mcbSignatureEnd) .invalidBlock
      let next ← nextMcbSegment segment record
      locateMcbLoop wantedSegment steps next

/-- `locate_mcb`. -/
def locateMcb (wantedSegment : UInt16) : MemoryM McbRecord := do
  locateMcbLoop machine wantedSegment mcbMaximumWalk (← get).arena.headSegment

/-- `dos_memory_free_checked`: `free_checked_common` without the owner check. -/
def free (blockSegment : UInt16) : MemoryM Unit := do
  arenaIsReady
  let headerSegment := blockSegment - 1
  let record ← readRecordBytes machine headerSegment
  failWhen (¬ record.signatureIsValid) .invalidBlock
  replaceRecordBytes machine headerSegment (record.setOwner mcbOwnerFree)

variable (blockSegment expectedOwner : UInt16)

/-- `dos_memory_free_owned_checked`: `free_checked_common` with the owner check. -/
def freeOwned : MemoryM Unit := do
  arenaIsReady
  failWhen (expectedOwner = mcbOwnerFree) .invalidArgument
  let headerSegment := blockSegment - 1
  let record ← locateMcb machine headerSegment
  failWhen (record.owner ≠ expectedOwner) .ownerMismatch
  replaceRecordBytes machine headerSegment (record.setOwner mcbOwnerFree)

variable (newOwner : UInt16) (newName : Option ((Fin 8 → UInt8) × UInt8))

/-- `prepare_owner_rebind_checked_common`; a new name comes with the number of its bytes to store. -/
def prepareOwnerRebindCommon : MemoryM OwnerRebindValue := do
  failWhen (expectedOwner = mcbOwnerFree ∨ newOwner = mcbOwnerFree ∨
    ∃ name ∈ newName, name.2 = 0 ∨ name.2 > memoryOwnerNameBytes) .invalidArgument
  arenaIsReady
  let headerSegment := blockSegment - 1
  let record ← locateMcb machine headerSegment
  failWhen (record.owner ≠ expectedOwner) .ownerMismatch
  let record := record.setOwner newOwner
  let record := match newName with
    | some (name, count) => record.patchOwnerName name count
    | none => record
  let prepared : OwnerRebindValue := ⟨headerSegment, expectedOwner, newOwner, fun _ => 0, record⟩
  failWhen (¬ prepared.hasValidEncoding) .arenaDamaged
  pure prepared

/-- `dos_memory_prepare_owner_rebind_checked`. -/
def prepareOwnerRebind : MemoryM OwnerRebindValue :=
  prepareOwnerRebindCommon machine blockSegment expectedOwner newOwner none

/-- `dos_memory_prepare_owner_name_patch_rebind_checked`. -/
def prepareOwnerNamePatchRebind (patch : OwnerNamePatch) : MemoryM OwnerRebindValue := do
  failWhen (¬ patch.isValid) .invalidArgument
  prepareOwnerRebindCommon machine blockSegment expectedOwner newOwner (some (patch.bytes, patch.count))

/-- `transfer_owner_checked_common`. -/
def transferOwnerCommon : MemoryM Unit := do
  let value ← prepareOwnerRebindCommon machine blockSegment expectedOwner newOwner newName
  replaceRecordBytes machine value.headerSegment value.replacement

/-- `dos_memory_transfer_owner_checked`. -/
def transferOwner : MemoryM Unit :=
  transferOwnerCommon machine blockSegment expectedOwner newOwner none

/-- `dos_memory_transfer_named_owner_checked`. -/
def transferNamedOwner (newOwner : OwnerIdentity) : MemoryM Unit := do
  failWhen (newOwner.pspSegment = mcbOwnerFree ∨ expectedOwner = mcbOwnerFree) .invalidArgument
  transferOwnerCommon machine blockSegment expectedOwner newOwner.pspSegment
    (some (newOwner.name, memoryOwnerNameBytes))

/-- `dos_memory_transfer_owner_name_patch_checked`. -/
def transferOwnerNamePatch (patch : OwnerNamePatch) : MemoryM Unit := do
  failWhen (expectedOwner = mcbOwnerFree ∨ newOwner = mcbOwnerFree ∨ ¬ patch.isValid) .invalidArgument
  transferOwnerCommon machine blockSegment expectedOwner newOwner (some (patch.bytes, patch.count))

/-- `dos_memory_resize_checked`; the value is the maximum reported in its output buffer. -/
def resize (blockSegment currentPsp paragraphs : UInt16) : EStateM Refusal ArenaState UInt16 := do
  mapError (Refusal.mk · 0) arenaIsReady
  let headerSegment := blockSegment - 1
  let record ← mapError (Refusal.mk · 0) (readMcb machine headerSegment)
  let record ← mapError (Refusal.mk · 0) (coalesceForward machine headerSegment record)
  failWhen (paragraphs > record.size) ⟨.notEnoughMemory, record.size⟩
  let _ ← mapError (Refusal.mk · record.size) (allocateLow machine headerSegment paragraphs currentPsp none)
  pure record.size

/-- The walk of `dos_memory_free_process_checked`; `changed` records that a header was replaced. -/
def freeProcessLoop (ownerPsp : UInt16) : ℕ → UInt16 → Bool → MemoryM Unit
  | 0, _, _ => throw .arenaDamaged
  | steps + 1, segment, changed => do
    match ← attempt (readMcb machine segment) with
    | .error status => if changed then poisonAndFail else throw status
    | .ok record =>
      let (record, changed) ←
        if record.owner = ownerPsp then do
          let record := record.setOwner mcbOwnerFree
          match ← attempt (replaceRecordBytes machine segment record) with
          | .error status => if changed ∧ status ≠ .machinePoisoned then poisonAndFail else throw status
          | .ok () => pure (record, true)
        else pure (record, changed)
      if record.signature = mcbSignatureEnd then pure () else
        match ← attempt (nextMcbSegment segment record) with
        | .error status => if changed then poisonAndFail else throw status
        | .ok next => freeProcessLoop ownerPsp steps next changed

/-- `dos_memory_free_process_checked`. -/
def freeProcess (ownerPsp : UInt16) : MemoryM Unit := do
  arenaIsReady
  freeProcessLoop machine ownerPsp mcbMaximumWalk (← get).arena.headSegment false

/-- The checks shared by the two strategy accessors. -/
def strategyReady : MemoryM Unit := do
  let arena := (← get).arena
  failWhen (¬ arena.flagsHaveValidEncoding) .invalidArgument
  failWhen (arena.machinePoisoned = 1) .machinePoisoned
  failWhen (arena.initialized ≠ 1 ∨ ¬ identityIsValid arena.identity ∨ arena.generation = 0)
    .invalidArgument

/-- `dos_memory_get_strategy_checked`. -/
def getStrategy : MemoryM UInt8 := do
  strategyReady
  pure (← get).arena.strategy

/-- `dos_memory_set_strategy_checked`. -/
def setStrategy (strategy : UInt8) : MemoryM Unit := do
  strategyReady
  modify fun state => { state with arena := { state.arena with strategy } }

end Memory

end DosC32
