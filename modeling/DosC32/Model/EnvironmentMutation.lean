import DosC32.Core.Checked
import DosC32.Model.Memory

/-! # Transactional mutation of a PSP environment

`dos/environment/mutation.c`: set or delete one variable of the environment block that a PSP names
at offset 2Ch. The entries are read twice through a small cache, once to measure the replacement
and once to copy it into a newly allocated block; the new block is checked, published in the PSP,
and the old one is freed. A pointer with its length is the list of the bytes it covers. The scans
are bounded by the capacity of the block, beyond which a reader refuses.
-/

namespace DosC32

open Effect LittleEndian Checked Memory

/-- `enum dos_environment_mutation_status` without `DOS_ENVIRONMENT_MUTATION_OK`. -/
inductive EnvironmentMutationError where
  | invalidArgument
  | notFound
  | badPsp
  | badBlock
  | badLayout
  | rangeOverflow
  | notEnoughMemory
  | machineFault
  | arenaDamaged
  | ownerMismatch
  | stalePsp
  | poisoned
deriving DecidableEq

/-- `enum dos_environment_mutation_action`; a value outside the enumeration is unknown. -/
inductive EnvironmentMutationAction where
  | set
  | delete
  | unknown
deriving DecidableEq

abbrev EnvironmentM := EStateM EnvironmentMutationError ArenaState

namespace EnvironmentMutation

def environmentCacheBytes : ℕ := 128
def environmentMaxNameBytes : ℕ := 126
def environmentMaxBlockBytes : ℕ := 0x8000
def environmentParagraphBytes : ℕ := 16
def environmentTrailerValue : UInt16 := 1
def pspEnvironmentOffset : UInt16 := 0x2c
def equalSign : UInt8 := 0x3d

/-- `struct environment_reader`; the list holds the first `cache_length` bytes of the cache. -/
structure EnvironmentReader where
  segment : UInt16
  (capacity cacheBase : ℕ)
  cache : List UInt8
  cacheValid : Bool

/-- A reader that has not read yet. -/
def EnvironmentReader.start (segment : UInt16) (capacity : ℕ) : EnvironmentReader := ⟨segment, capacity, 0, [], false⟩

/-- `struct environment_entry`. -/
structure EnvironmentEntry where
  (start bytes : ℕ)
  isMatch : Bool

/-- `struct environment_layout`. -/
structure EnvironmentLayout where
  capacity : ℕ
  retainedBytes : ℕ := 0
  retainedEntries : ℕ := 0
  matchingEntries : ℕ := 0
  trailerOffset : ℕ := 0
  argv0Offset : ℕ := 0
  argv0Bytes : ℕ := 0
  payloadBytes : ℕ := 0

/-- `environment_upper`. -/
def environmentUpper (value : UInt8) : UInt8 := if value ≥ 0x61 ∧ value ≤ 0x7a then value - 0x20 else value

/-- A machine operation whose failures are all reported alike. -/
def onMachine {α : Type} (action : MachineM α) : EnvironmentM α :=
  mapError (fun _ => .machineFault) (onGuest action)

variable (machine : Machine) (reader : EnvironmentReader)

/-- Bring the cache over an offset that it does not hold. -/
def readerFill (offset : ℕ) : EnvironmentM EnvironmentReader :=
  if reader.cacheValid = false ∨ offset < reader.cacheBase ∨
      offset - reader.cacheBase ≥ reader.cache.length then do
    let base := offset - offset % environmentCacheBytes
    let amount := min (reader.capacity - base) environmentCacheBytes
    let bytes ← onMachine (machine.readFar reader.segment (UInt16.ofNat base) environmentCacheBytes amount)
    pure { reader with cacheBase := base, cache := bytes, cacheValid := true }
  else pure reader

/-- `reader_byte`. -/
def readerByte (offset : ℕ) : EnvironmentM (UInt8 × EnvironmentReader) := do
  failWhen (offset ≥ reader.capacity) .badLayout
  let reader ← readerFill machine reader offset
  pure (reader.cache.getD (offset - reader.cacheBase) 0, reader)

/-- `memory_status`. -/
def memoryStatus : MemoryError → EnvironmentMutationError
  | .invalidArgument => .invalidArgument
  | .invalidBlock => .badBlock
  | .notEnoughMemory => .notEnoughMemory
  | .arenaDamaged => .arenaDamaged
  | .identityMismatch => .arenaDamaged
  | .generationExhausted => .arenaDamaged
  | .machineFault => .machineFault
  | .machinePoisoned => .poisoned
  | .ownerMismatch => .ownerMismatch

/-- `poison_transaction`. -/
def poisonTransaction {α : Type} : EnvironmentM α := do
  match ← attempt arenaPoison with
  | .ok () => throw .poisoned
  | .error status => if status ≠ .machinePoisoned then throw .arenaDamaged else throw .poisoned

/-- `validate_owned_block`; the value is the capacity of the block. -/
def validateOwnedBlock (pspSegment blockSegment : UInt16) : EnvironmentM ℕ := do
  let value ← mapError memoryStatus (prepareOwnerRebind machine blockSegment pspSegment pspSegment)
  let paragraphs := value.replacement.size
  failWhen (paragraphs = 0) .badBlock
  let bytes := paragraphs.toNat * environmentParagraphBytes
  failWhen (bytes > environmentMaxBlockBytes) .badBlock
  pure bytes

/-- The local variables of the loop of `inspect_entry`. -/
structure EntryScan where
  (cursor nameIndex : ℕ)
  (hasEqual isMatch : Bool)

/-- One round of that loop on a byte other than zero. -/
def EntryScan.consume (scan : EntryScan) (name : List UInt8) (byte : UInt8) : EntryScan :=
  if scan.hasEqual = false ∧ byte = equalSign then
    { scan with
      cursor := scan.cursor + 1, hasEqual := true, isMatch := scan.isMatch && scan.nameIndex == name.length }
  else if scan.hasEqual = false then
    { scan with
      cursor := scan.cursor + 1
      nameIndex := scan.nameIndex + 1
      isMatch := scan.isMatch && !(decide (scan.nameIndex ≥ name.length) ||
        environmentUpper byte != environmentUpper (name.getD scan.nameIndex 0)) }
  else { scan with cursor := scan.cursor + 1 }

/-- The loop of `inspect_entry`, up to and including the closing zero. -/
def inspectEntryLoop (name : List UInt8) :
    ℕ → EntryScan → EnvironmentReader → EnvironmentM (EntryScan × EnvironmentReader)
  | 0, _, _ => throw .badLayout
  | rounds + 1, scan, reader => do
    let (byte, reader) ← readerByte machine reader scan.cursor
    if byte = 0 then pure ({ scan with cursor := scan.cursor + 1 }, reader)
    else inspectEntryLoop name rounds (scan.consume name byte) reader

/-- `inspect_entry`. -/
def inspectEntry (name : List UInt8) (reader : EnvironmentReader) (start : ℕ) :
    EnvironmentM (EnvironmentEntry × EnvironmentReader) := do
  let (byte, reader) ← readerByte machine reader start
  if byte = 0 then pure (⟨start, 0, false⟩, reader)
  else do
    let (scan, reader) ← inspectEntryLoop machine name (reader.capacity + 1) ⟨start, 0, false, true⟩ reader
    pure (⟨start, scan.cursor - start, scan.hasEqual && scan.isMatch⟩, reader)

variable (layout : EnvironmentLayout)

/-- Account for one entry in the layout. -/
def countEntry (entry : EnvironmentEntry) : EnvironmentM EnvironmentLayout :=
  if entry.isMatch then do
    let matchingEntries ← demand (add 32 layout.matchingEntries 1) .rangeOverflow
    pure { layout with matchingEntries }
  else do
    let retainedBytes ← demand (add 32 layout.retainedBytes entry.bytes) .rangeOverflow
    let retainedEntries ← demand (add 32 layout.retainedEntries 1) .rangeOverflow
    pure { layout with retainedBytes, retainedEntries }

/-- The first loop of `scan_layout`, up to the offset of the trailer. -/
def scanEntriesLoop (name : List UInt8) :
    ℕ → ℕ → EnvironmentLayout → EnvironmentReader → EnvironmentM (EnvironmentLayout × EnvironmentReader)
  | 0, _, _, _ => throw .badLayout
  | rounds + 1, cursor, prepared, reader => do
    let (entry, reader) ← inspectEntry machine name reader cursor
    if entry.bytes = 0 then
      if cursor = 0 then do
        let (secondZero, reader) ← readerByte machine reader 1
        failWhen (secondZero ≠ 0) .badLayout
        pure ({ prepared with trailerOffset := 2 }, reader)
      else pure ({ prepared with trailerOffset := cursor + 1 }, reader)
    else do
      let prepared ← countEntry prepared entry
      let cursor ← demand (add 32 cursor entry.bytes) .badLayout
      failWhen (cursor ≥ prepared.capacity) .badLayout
      scanEntriesLoop name rounds cursor prepared reader

/-- The second loop of `scan_layout`; the value is the offset after the closing zero of `argv[0]`. -/
def scanArgv0Loop : ℕ → ℕ → EnvironmentReader → EnvironmentM ℕ
  | 0, _, _ => throw .badLayout
  | rounds + 1, cursor, reader => do
    let (byte, reader) ← readerByte machine reader cursor
    if byte = 0 then pure (cursor + 1) else scanArgv0Loop rounds (cursor + 1) reader

variable (segment : UInt16)

/-- `scan_layout`. -/
def scanLayout (capacity : ℕ) (name : List UInt8) : EnvironmentM EnvironmentLayout := do
  let (prepared, reader) ←
    scanEntriesLoop machine name (capacity + 1) 0 { capacity } (.start segment capacity)
  failWhen (prepared.trailerOffset > capacity ∨ 2 > capacity - prepared.trailerOffset) .badLayout
  let (low, reader) ← readerByte machine reader prepared.trailerOffset
  let (high, reader) ← readerByte machine reader (prepared.trailerOffset + 1)
  failWhen (word low high ≠ environmentTrailerValue) .badLayout
  let argv0Offset := prepared.trailerOffset + 2
  let cursor ← scanArgv0Loop machine (capacity + 1) argv0Offset reader
  pure { prepared with argv0Offset, argv0Bytes := cursor - argv0Offset, payloadBytes := cursor }

/-- `write_range`; the value is the cursor after the bytes written. -/
def writeRange (cursor : ℕ) (source : List UInt8) (count : ℕ) : EnvironmentM ℕ :=
  if count = 0 then pure cursor else do
    let next ← demand (add 32 cursor (count % 2 ^ 32)) .rangeOverflow
    failWhen (next > environmentMaxBlockBytes) .rangeOverflow
    onMachine (machine.writeFar segment (UInt16.ofNat cursor) source count)
    pure next

/-- `write_upper_name`. -/
def writeUpperName (cursor : ℕ) (name : List UInt8) : EnvironmentM ℕ :=
  writeRange machine segment cursor (name.map environmentUpper) name.length

/-- The inner loop of `copy_guest_range`, which fills the staging buffer. -/
def stageBytes : ℕ → ℕ → EnvironmentReader → EnvironmentM (List UInt8 × EnvironmentReader)
  | 0, _, reader => pure ([], reader)
  | amount + 1, offset, reader => do
    let (byte, reader) ← readerByte machine reader offset
    let (staging, reader) ← stageBytes amount (offset + 1) reader
    pure (byte :: staging, reader)

/-- The loop of `copy_guest_range`; every round copies at least one byte. -/
def copyGuestRangeLoop : ℕ → ℕ → ℕ → ℕ → EnvironmentReader → EnvironmentM (ℕ × EnvironmentReader)
  | 0, _, _, destination, reader => pure (destination, reader)
  | rounds + 1, offset, remaining, destination, reader =>
    if remaining = 0 then pure (destination, reader) else do
      let amount := min remaining environmentCacheBytes
      let (staging, reader) ← stageBytes machine amount offset reader
      let destination ← writeRange machine segment destination staging amount
      copyGuestRangeLoop rounds (offset + amount) (remaining - amount) destination reader

/-- `copy_guest_range`. -/
def copyGuestRange (sourceOffset count : ℕ)
    (destinationSegment : UInt16) (destinationOffset : ℕ) : EnvironmentM (ℕ × EnvironmentReader) :=
  copyGuestRangeLoop machine destinationSegment count sourceOffset count destinationOffset reader

/-- The first loop of `build_replacement`, which copies the entries that stay. -/
def copyEntriesLoop (name : List UInt8) (segment : UInt16) :
    ℕ → ℕ → ℕ → EnvironmentReader → EnvironmentM (ℕ × EnvironmentReader)
  | 0, _, _, _ => throw .badLayout
  | rounds + 1, cursor, destination, reader => do
    let (entry, reader) ← inspectEntry machine name reader cursor
    if entry.bytes = 0 then pure (destination, reader)
    else do
      let (destination, reader) ←
        if entry.isMatch then pure (destination, reader)
        else copyGuestRange machine reader entry.start entry.bytes segment destination
      copyEntriesLoop name segment rounds (cursor + entry.bytes) destination reader

variable (action : EnvironmentMutationAction)

/-- The part of `build_replacement` that writes the new entry. -/
def writeEntry (cursor : ℕ) (name value : List UInt8) : EnvironmentM ℕ :=
  if action = .set then do
    let cursor ← writeUpperName machine segment cursor name
    let cursor ← writeRange machine segment cursor [equalSign] 1
    let cursor ← writeRange machine segment cursor value value.length
    writeRange machine segment cursor [0, 0] 1
  else pure cursor

/-- The local variable `result_entries`. -/
def resultEntries : ℕ :=
  if action = .set then layout.retainedEntries + 1 else layout.retainedEntries

/-- The number of zeros that close the entries. -/
def closingZeros (entries : ℕ) : ℕ := if entries = 0 then 2 else 1

/-- `build_replacement`. -/
def buildReplacement (sourceSegment : UInt16) (layout : EnvironmentLayout)
    (segment : UInt16) (action : EnvironmentMutationAction) (name value : List UInt8) (payloadBytes : ℕ) :
    EnvironmentM Unit := do
  let (cursor, reader) ← copyEntriesLoop machine name segment (layout.capacity + 1) 0 0
    (.start sourceSegment layout.capacity)
  let cursor ← writeEntry machine segment action cursor name value
  let cursor ← writeRange machine segment cursor [0, 0] (closingZeros (resultEntries layout action))
  let (low, reader) ← readerByte machine reader layout.trailerOffset
  let (high, reader) ← readerByte machine reader (layout.trailerOffset + 1)
  let cursor ← writeRange machine segment cursor [low, high] 2
  let (cursor, _) ← copyGuestRange machine reader layout.argv0Offset layout.argv0Bytes segment cursor
  failWhen (cursor ≠ payloadBytes) .badLayout

/-- The loop of `compare_guest_ranges`. -/
def compareGuestLoop : ℕ → ℕ → ℕ → EnvironmentReader → EnvironmentReader → EnvironmentM Unit
  | 0, _, _, _, _ => pure ()
  | count + 1, firstOffset, secondOffset, first, second => do
    let (firstByte, first) ← readerByte machine first firstOffset
    let (secondByte, second) ← readerByte machine second secondOffset
    failWhen (firstByte ≠ secondByte) .badLayout
    compareGuestLoop count (firstOffset + 1) (secondOffset + 1) first second

/-- `compare_guest_ranges`. -/
def compareGuestRanges (firstSegment : UInt16) (firstOffset firstCapacity : ℕ)
    (secondSegment : UInt16) (secondOffset secondCapacity count : ℕ) : EnvironmentM Unit :=
  compareGuestLoop machine count firstOffset secondOffset (.start firstSegment firstCapacity)
    (.start secondSegment secondCapacity)

/-- `revalidate_replacement`. -/
def revalidateReplacement (pspSegment oldSegment : UInt16) (oldLayout : EnvironmentLayout)
    (newSegment : UInt16) (expectedCapacity expectedPayload : ℕ) (action : EnvironmentMutationAction)
    (name : List UInt8) : EnvironmentM Unit := do
  let capacity ← validateOwnedBlock machine pspSegment newSegment
  failWhen (capacity ≠ expectedCapacity) .badBlock
  let layout ← scanLayout machine newSegment capacity name
  failWhen (layout.retainedBytes ≠ oldLayout.retainedBytes ∨
    layout.retainedEntries ≠ oldLayout.retainedEntries ∨ layout.payloadBytes ≠ expectedPayload ∨
    layout.argv0Bytes ≠ oldLayout.argv0Bytes ∨ (action = .set ∧ layout.matchingEntries ≠ 1) ∨
    (action = .delete ∧ layout.matchingEntries ≠ 0)) .badLayout
  compareGuestRanges machine oldSegment oldLayout.argv0Offset oldLayout.capacity newSegment layout.argv0Offset
    layout.capacity oldLayout.argv0Bytes

/-- `discard_replacement`. -/
def discardReplacement {α : Type} (segment owner : UInt16)
    (originalStatus : EnvironmentMutationError) : EnvironmentM α := do
  match ← attempt (freeOwned machine segment owner) with
  | .error (_ : MemoryError) => poisonTransaction
  | .ok () => throw originalStatus

/-- The arguments of one call. Each buffer, when present, has the capacity of its list; a null
value pointer comes with the capacity that the caller states. -/
structure EnvironmentRequest where
  pspSegment : UInt16
  action : EnvironmentMutationAction
  name : Option (List UInt8)
  nameLength : ℕ
  value : Option (List UInt8)
  (nullCapacity valueLength : ℕ)

namespace EnvironmentRequest

variable (request : EnvironmentRequest)

def valueCapacity : ℕ := request.value.elim request.nullCapacity List.length

/-- The `name_length` bytes of the name. -/
def nameBytes : List UInt8 := (request.name.getD []).take request.nameLength

/-- The `value_length` bytes of the value. -/
def valueBytes : List UInt8 := (request.value.getD []).take request.valueLength

end EnvironmentRequest

variable (request : EnvironmentRequest)

/-- `mutation_arguments_are_valid`. -/
def mutationArgumentsAreValid : Prop :=
  request.pspSegment ≠ 0 ∧ request.action ≠ .unknown ∧ request.name ≠ none ∧ request.nameLength ≠ 0 ∧
    request.nameLength ≤ environmentMaxNameBytes ∧ request.nameLength ≤ (request.name.getD []).length ∧
    request.valueLength ≤ request.valueCapacity ∧ (request.value = none → request.valueLength = 0) ∧
    (request.action = .delete →
      request.value = none ∧ request.valueCapacity = 0 ∧ request.valueLength = 0) ∧
    request.nameBytes.all (fun byte => byte != 0 && byte != equalSign) ∧
    request.valueBytes.all (fun byte => byte != 0)
deriving Decidable

/-- The bytes of the new entry, added in `calculate_replacement_size`. -/
def addEntryBytes (payload nameLength valueLength : ℕ) : EnvironmentM ℕ :=
  if action = .set then do
    failWhen (nameLength > environmentMaxBlockBytes ∨ valueLength > environmentMaxBlockBytes) .rangeOverflow
    let payload ← demand (add 32 payload nameLength) .rangeOverflow
    let payload ← demand (add 32 payload 1) .rangeOverflow
    let payload ← demand (add 32 payload valueLength) .rangeOverflow
    demand (add 32 payload 1) .rangeOverflow
  else pure payload

/-- The bytes after the entries, added in `calculate_replacement_size`. -/
def addClosingBytes (payload entries argv0Bytes : ℕ) : EnvironmentM ℕ := do
  let payload ← demand (add 32 payload (closingZeros entries)) .rangeOverflow
  let payload ← demand (add 32 payload 2) .rangeOverflow
  demand (add 32 payload argv0Bytes) .rangeOverflow

/-- `calculate_replacement_size`; the value is the payload with the paragraphs it needs. -/
def calculateReplacementSize (nameLength valueLength : ℕ) : EnvironmentM (ℕ × UInt16) := do
  let payload ← addEntryBytes action layout.retainedBytes nameLength valueLength
  let payload ← addClosingBytes payload (resultEntries layout action) layout.argv0Bytes
  failWhen (payload > environmentMaxBlockBytes) .rangeOverflow
  let rounded ← demand (add 32 payload 15) .rangeOverflow
  let allocationBytes := rounded / 16 * 16
  failWhen (allocationBytes = 0 ∨ allocationBytes > environmentMaxBlockBytes) .rangeOverflow
  pure (payload, UInt16.ofNat (allocationBytes / environmentParagraphBytes))

/-- What the checks before the allocation establish. -/
structure PreparedMutation where
  oldBytes : List UInt8
  oldLayout : EnvironmentLayout
  payloadBytes : ℕ
  paragraphs : UInt16

/-- The segment in a word read from, or written to, the PSP. -/
def encodedSegment (bytes : List UInt8) : UInt16 := word (bytes.getD 0 0) (bytes.getD 1 0)

def encodeSegment (segment : UInt16) : List UInt8 := [lowByte segment, highByte segment]

/-- The part of `dos_environment_mutate_psp` that reads and measures. -/
def prepareMutation : EnvironmentM PreparedMutation := do
  failWhen (¬ mutationArgumentsAreValid request) .invalidArgument
  let oldBytes ← onMachine (machine.readFar request.pspSegment pspEnvironmentOffset 2 2)
  let oldSegment := encodedSegment oldBytes
  failWhen (oldSegment = 0) .badPsp
  let capacity ← validateOwnedBlock machine request.pspSegment oldSegment
  let oldLayout ← scanLayout machine oldSegment capacity request.nameBytes
  failWhen (request.action = .delete ∧ oldLayout.matchingEntries = 0) .notFound
  let (payloadBytes, paragraphs) ←
    calculateReplacementSize oldLayout request.action request.nameLength request.valueLength
  pure ⟨oldBytes, oldLayout, payloadBytes, paragraphs⟩

/-- The part that fills and checks the new block. -/
def fillReplacement (prepared : PreparedMutation) (newSegment : UInt16) : EnvironmentM Unit := do
  let oldSegment := encodedSegment prepared.oldBytes
  buildReplacement machine oldSegment prepared.oldLayout newSegment request.action request.nameBytes
    request.valueBytes prepared.payloadBytes
  revalidateReplacement machine request.pspSegment oldSegment prepared.oldLayout newSegment
    (prepared.paragraphs.toNat * environmentParagraphBytes) prepared.payloadBytes request.action request.nameBytes

/-- One replacement of the word at PSP:2Ch; the value is the content of the rollback buffer. -/
def replacePspWord (pspSegment : UInt16) (bytes : List UInt8) : EStateM MachineError ArenaState (List UInt8) :=
  onGuest (machine.replaceFar pspSegment pspEnvironmentOffset bytes 2 2)

variable (pspSegment newSegment : UInt16)

/-- Put a word back into the PSP, which must still hold the new segment, and free the new block. -/
def withdraw (bytes : List UInt8) (status : EnvironmentMutationError) : EnvironmentM Unit := do
  match ← attempt (replacePspWord machine pspSegment bytes) with
  | .error (_ : MachineError) => poisonTransaction
  | .ok current =>
    if encodedSegment current ≠ newSegment then poisonTransaction
    else discardReplacement machine newSegment pspSegment status

/-- The part after the publication, which frees the old block. -/
def retireOld (oldBytes : List UInt8) : EnvironmentM Unit := do
  match ← attempt (freeOwned machine (encodedSegment oldBytes) pspSegment) with
  | .ok () => pure ()
  | .error status =>
    if status ≠ .machineFault then poisonTransaction
    else withdraw machine pspSegment newSegment oldBytes (memoryStatus status)

/-- The part that publishes the new block. -/
def publishReplacement (oldBytes : List UInt8) : EnvironmentM Unit := do
  match ← attempt (replacePspWord machine pspSegment (encodeSegment newSegment)) with
  | .error .rollbackFailed => poisonTransaction
  | .error _ => discardReplacement machine newSegment pspSegment .machineFault
  | .ok rollback =>
    if encodedSegment rollback ≠ encodedSegment oldBytes then
      withdraw machine pspSegment newSegment rollback .stalePsp
    else retireOld machine pspSegment newSegment oldBytes

/-- `dos_environment_mutate_psp`. -/
def mutatePsp : EnvironmentM Unit := do
  let prepared ← prepareMutation machine request
  let allocation ← mapError (fun refusal : Refusal => memoryStatus refusal.status)
    (allocate machine request.pspSegment prepared.paragraphs)
  match ← attempt (fillReplacement machine request prepared allocation.blockSegment) with
  | .error status => discardReplacement machine allocation.blockSegment request.pspSegment status
  | .ok () => publishReplacement machine request.pspSegment allocation.blockSegment prepared.oldBytes

end EnvironmentMutation

end DosC32
