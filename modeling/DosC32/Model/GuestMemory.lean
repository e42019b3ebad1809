import DosC32.Core.Bitmap
import DosC32.Model.Machine

/-! # The physical pages of the guests

`kernel/x86_vm/memory/physical.c` and the validation of the boot memory map in
`kernel/x86_vm/memory/map.c`: the two bitmaps, the lease slots, and the allocation and release of
page runs. What the zeroing callback returns is part of the call; its address is not modelled, so a
manager has a callback exactly when it is initialised. Pointer arguments are never null.
-/

namespace DosC32

open Effect Bitmap List

/-- `struct x86_boot_memory_range`. -/
structure BootMemoryRange where
  (base length type : ℕ)
  attributes : BitVec 32

/-- The fields of `struct x86_boot_info` that describe the memory map; `ranges` holds the first `range_count`. -/
structure BootInfo where
  (signature version headerBytes rangeBytes : ℕ)
  (flags platformFlags : BitVec 32)
  platformReserved : List UInt8
  ranges : List BootMemoryRange

/-- `enum x86_guest_memory_zero_status`; every other value counts as uncertain. -/
inductive GuestZeroStatus where
  | ok
  | failed
  | uncertain

/-- `enum x86_guest_memory_status` without `X86_GUEST_MEMORY_OK`. -/
inductive GuestMemoryError where
  | invalidArgument
  | invalidMap
  | notInitialized
  | noMemory
  | noLease
  | staleLease
  | ownerMismatch
  | zeroFailed
  | poisoned

/-- `enum x86_guest_memory_lease_state`. -/
inductive GuestLeaseState where
  | free
  | live
  | retired
deriving DecidableEq

/-- `struct x86_guest_memory_lease_slot`. -/
structure GuestLeaseSlot where
  (generation owner firstPage pageCount : ℕ)
  state : GuestLeaseState

/-- `struct x86_guest_memory_lease_info`. -/
structure GuestLeaseInfo where
  (owner physicalAddress pageCount : ℕ)

/-- `struct x86_guest_memory_snapshot`. -/
structure GuestMemorySnapshot where
  (largestFreePages totalFreePages managedPages highestAddress : ℕ)

namespace GuestMemory

def bootInfoSignature : ℕ := 0x32494258
def bootInfoVersion : ℕ := 4
def bootInfoHeaderBytes : ℕ := 168
def bootMemoryRangeBytes : ℕ := 24
def bootMemoryRangeCount : ℕ := 64
def bootInfoFlagMask : BitVec 32 := 3
def bootPlatformFlagMask : BitVec 32 := 3
def bootMemoryUsable : ℕ := 1
def bootMemoryEnabled : BitVec 32 := 1

def guestPageBytes : ℕ := 4096
def guestMemoryBase : ℕ := 0x00800000
def guestMemoryApertureLimit : ℕ := 0x10000000
def guestMemoryPageCount : ℕ := (guestMemoryApertureLimit - guestMemoryBase) / guestPageBytes
def guestMemoryLeaseCount : ℕ := 1024
def leaseSlotBits : ℕ := 11
def generationMax : ℕ := 0x001fffffffffffff

end GuestMemory

/-- `struct x86_guest_memory_manager`. -/
structure GuestMemoryManager where
  (available allocated : ℕ → BitVec 32)
  leases : Fin GuestMemory.guestMemoryLeaseCount → GuestLeaseSlot
  (zeroContext managedBase managedLimit availablePages allocatedPages nextFreeHint : ℕ)
  (initialized constructed poisoned : Bool)

namespace GuestMemory

abbrev GuestMemoryM := EStateM GuestMemoryError GuestMemoryManager

variable (bootInfo : BootInfo)

/-- `boot_platform_header_is_well_formed`. -/
def bootPlatformHeaderIsWellFormed : Bool :=
  bootInfo.platformFlags &&& ~~~bootPlatformFlagMask == 0 && bootInfo.platformReserved.all (· == 0)

/-- `x86_memory_map_is_valid`. -/
def memoryMapIsValid : Bool :=
  bootInfo.signature == bootInfoSignature && bootInfo.version == bootInfoVersion &&
    bootInfo.headerBytes == bootInfoHeaderBytes && bootInfo.rangeBytes == bootMemoryRangeBytes &&
    bootInfo.ranges.length != 0 && decide (bootInfo.ranges.length ≤ bootMemoryRangeCount) &&
    bootInfo.flags == bootInfoFlagMask && bootPlatformHeaderIsWellFormed bootInfo &&
    bootInfo.ranges.all fun range => range.length != 0 && range.type != 0 &&
      range.attributes &&& bootMemoryEnabled != 0 && decide (range.base + range.length < 2 ^ 64)

/-- `align_up_page`. -/
def alignUpPage (value : ℕ) : ℕ :=
  if value > 2 ^ 64 - 1 - (guestPageBytes - 1) then 2 ^ 64 - 1
  else (value + (guestPageBytes - 1)) / guestPageBytes * guestPageBytes

/-- `align_down_page`. -/
def alignDownPage (value : ℕ) : ℕ := value / guestPageBytes * guestPageBytes

/-- The pages that `change_range_availability` changes, in order. -/
def rangePages (range : BootMemoryRange) (available : Bool) : List ℕ :=
  let rangeEnd := range.base + range.length
  let start := if available then alignUpPage range.base else alignDownPage range.base
  let stop := if available then alignDownPage rangeEnd else alignUpPage rangeEnd
  let first := if start < guestMemoryBase then guestMemoryBase else start
  let last := if stop > guestMemoryApertureLimit then guestMemoryApertureLimit else stop
  if last ≤ first ∨ guestMemoryApertureLimit ≤ first ∨ last ≤ guestMemoryBase then []
  else
    let page := (first - guestMemoryBase) / guestPageBytes
    range' page ((last - guestMemoryBase) / guestPageBytes - page)

variable (words : ℕ → BitVec 32)

/-- `change_range_availability`. -/
def changeRangeAvailability (range : BootMemoryRange) (available : Bool) : ℕ → BitVec 32 :=
  if available then insertAll words (rangePages range available)
  else eraseAll words (rangePages range available)

/-- The two passes over the map: usable ranges first, then every other range. -/
def availableWords (ranges : List BootMemoryRange) : ℕ → BitVec 32 :=
  let usable := (ranges.filter (·.type == bootMemoryUsable)).foldl (changeRangeAvailability · · true) fun _ => 0
  (ranges.filter (·.type != bootMemoryUsable)).foldl (changeRangeAvailability · · false) usable

/-- `count_available`. -/
def countAvailable : ℕ := (range guestMemoryPageCount).countP (testAt words)

def pageAddress (page : ℕ) : ℕ := guestMemoryBase + page * guestPageBytes

/-- The loop that finds the managed span, up to some page. -/
def spanUpTo (count : ℕ) : ℕ × ℕ :=
  (range count).foldl
    (fun span page =>
      if testAt words page then (if span.1 = 0 then pageAddress page else span.1, pageAddress (page + 1)) else span)
    (0, 0)

def managedSpan : ℕ × ℕ := spanUpTo words guestMemoryPageCount

/-- A slot that was never used. -/
def emptySlot : GuestLeaseSlot := ⟨0, 0, 0, 0, .free⟩

/-- What `x86_guest_memory_construct` stores; the hint is what its wrapping subtraction gives. -/
def constructedManager : GuestMemoryManager where
  available := fun _ => 0
  allocated := fun _ => 0
  leases := fun _ => emptySlot
  zeroContext := kernelObjectHandleInvalid
  managedBase := 0
  managedLimit := 0
  availablePages := 0
  allocatedPages := 0
  nextFreeHint := (2 ^ 64 - guestMemoryBase) / guestPageBytes % 2 ^ 32
  initialized := false
  constructed := true
  poisoned := false

/-- `x86_guest_memory_initialize`. -/
def guestMemoryInitialize (zeroContext : ℕ) : GuestMemoryM Unit := do
  failWhen (¬ identityIsValid zeroContext) .invalidArgument
  let manager ← get
  failWhen (manager.constructed = false ∨ manager.initialized = true) .invalidArgument
  failWhen (memoryMapIsValid bootInfo = false) .invalidMap
  let words := availableWords bootInfo.ranges
  let span := managedSpan words
  let cleared := { manager with available := words, allocated := fun _ => 0, leases := fun _ => emptySlot }
  if countAvailable words = 0 then
    set { cleared with zeroContext := kernelObjectHandleInvalid, availablePages := 0 }
    throw .invalidMap
  else if span.1 = 0 ∨ span.2 ≤ span.1 then
    set { cleared with
      zeroContext := kernelObjectHandleInvalid, managedBase := span.1, managedLimit := span.2, availablePages := 0 }
    throw .invalidMap
  else
    set { cleared with
      zeroContext, managedBase := span.1, managedLimit := span.2, availablePages := countAvailable words
      allocatedPages := 0, nextFreeHint := 0, poisoned := false, initialized := true }

/-- `find_lease_slot`: retire exhausted free slots and return the first free one that is left. -/
def findLeaseSlot : List (Fin guestMemoryLeaseCount) → (Fin guestMemoryLeaseCount → GuestLeaseSlot) →
    Option (Fin guestMemoryLeaseCount) × (Fin guestMemoryLeaseCount → GuestLeaseSlot)
  | [], leases => (none, leases)
  | index :: rest, leases =>
    if (leases index).state ≠ .free then findLeaseSlot rest leases
    else if (leases index).generation ≥ generationMax then
      findLeaseSlot rest (Function.update leases index { leases index with state := .retired })
    else (some index, leases)

variable (manager : GuestMemoryManager)

/-- `page_is_free`. -/
def pageIsFree (page : ℕ) : Bool :=
  testAt manager.available page && !testAt manager.allocated page

/-- `managed_first_page`. -/
def managedFirstPage : ℕ := (manager.managedBase - guestMemoryBase) / guestPageBytes

/-- `managed_page_limit`. -/
def managedPageLimit : ℕ := (manager.managedLimit - guestMemoryBase) / guestPageBytes

/-- `run_is_free`. -/
def runIsFree (first count : ℕ) : Bool :=
  if count = 0 ∨ count > managedPageLimit manager ∨ first > managedPageLimit manager - count then false
  else (range count).all fun index => pageIsFree manager (first + index)

/-- `find_free_run`: from the hint to the end, then from the first managed page to the hint. -/
def findFreeRun (count : ℕ) : Option ℕ :=
  if manager.allocatedPages > manager.availablePages ∨ count = 0 ∨ count > guestMemoryPageCount ∨
      count > manager.availablePages - manager.allocatedPages then none
  else if count > managedPageLimit manager - managedFirstPage manager then none
  else
    let first := managedFirstPage manager
    let limit := managedPageLimit manager - count
    let hint := if manager.nextFreeHint ≤ limit then manager.nextFreeHint else first
    let start := if hint < first then first else hint
    ((range' start (limit + 1 - start)).find? (runIsFree manager · count)).or
      ((range' first (min start (limit + 1) - first)).find? (runIsFree manager · count))

/-- `make_lease`. -/
def makeLease (slot generation : ℕ) : ℕ := generation <<< leaseSlotBits ||| (slot + 1)

/-- `resolve_lease`. -/
def resolveLease (lease : ℕ) : Option (Fin guestMemoryLeaseCount) :=
  let encodedSlot := lease % 2 ^ leaseSlotBits
  let generation := lease >>> leaseSlotBits
  if lease = 0 ∨ lease = kernelObjectHandleInvalid then none
  else if valid : encodedSlot ≠ 0 ∧ encodedSlot ≤ guestMemoryLeaseCount ∧ generation ≠ 0 ∧ generation ≤ generationMax then
    let slot : Fin guestMemoryLeaseCount := ⟨encodedSlot - 1, by omega⟩
    if (manager.leases slot).state = .live ∧ (manager.leases slot).generation = generation then some slot else none
  else none

/-- The pages of a run, in order. -/
def runPages (first count : ℕ) : List ℕ := (range count).map (first + ·)

/-- What a successful allocation stores. -/
def grantRun (slot : Fin guestMemoryLeaseCount) (owner firstPage pageCount : ℕ) : GuestMemoryManager :=
  { manager with
    allocated := insertAll manager.allocated (runPages firstPage pageCount)
    leases := Function.update manager.leases slot
      ⟨(manager.leases slot).generation + 1, owner, firstPage, pageCount, .live⟩
    allocatedPages := manager.allocatedPages + pageCount
    nextFreeHint := if firstPage + pageCount ≥ managedPageLimit manager then managedFirstPage manager
      else firstPage + pageCount }

/-- Quarantine the manager. -/
def poisonManager {α : Type} : GuestMemoryM α := do
  modify fun manager => { manager with poisoned := true }
  throw .poisoned

/-- A consistency check. -/
def poisonWhen (condition : Prop) [Decidable condition] : GuestMemoryM Unit := if condition then poisonManager else pure ()

/-- What the answer of the zeroing callback means to its caller. -/
def requireZeroed : GuestZeroStatus → GuestMemoryM Unit
  | .ok => pure ()
  | .failed => throw .zeroFailed
  | .uncertain => poisonManager

/-- `x86_guest_memory_allocate`; the callback returns `zero`. The result is the lease and the address. -/
def allocate (owner pageCount : ℕ) (zero : GuestZeroStatus) : GuestMemoryM (ℕ × ℕ) := do
  failWhen (¬ identityIsValid owner ∨ pageCount = 0) .invalidArgument
  let manager ← get
  failWhen (manager.initialized = false) .notInitialized
  failWhen (manager.poisoned = true) .poisoned
  poisonWhen (manager.allocatedPages > manager.availablePages)
  failWhen (pageCount > guestMemoryPageCount ∨ pageCount > manager.availablePages - manager.allocatedPages) .noMemory
  let found := findLeaseSlot (finRange guestMemoryLeaseCount) manager.leases
  set { manager with leases := found.2 }
  let slot ← demand found.1 .noLease
  let firstPage ← demand (findFreeRun manager pageCount) .noMemory
  requireZeroed zero
  modify (grantRun · slot owner firstPage pageCount)
  pure (makeLease slot ((found.2 slot).generation + 1), pageAddress firstPage)

/-- What a successful release stores. -/
def takeRun (slot : Fin guestMemoryLeaseCount) : GuestMemoryManager :=
  let lease := manager.leases slot
  { manager with
    allocated := eraseAll manager.allocated (runPages lease.firstPage lease.pageCount)
    allocatedPages := manager.allocatedPages - lease.pageCount
    nextFreeHint := if lease.firstPage < manager.nextFreeHint then lease.firstPage else manager.nextFreeHint
    leases := Function.update manager.leases slot ⟨lease.generation, kernelObjectHandleInvalid, 0, 0, .free⟩ }

/-- The consistency checks of a release. -/
def leaseIsConsistent (lease : GuestLeaseSlot) : Bool :=
  lease.pageCount != 0 && decide (lease.firstPage ≤ guestMemoryPageCount - lease.pageCount) &&
    decide (lease.pageCount ≤ manager.allocatedPages) &&
    (runPages lease.firstPage lease.pageCount).all (testAt manager.allocated)

/-- `x86_guest_memory_release`. -/
def release (owner lease : ℕ) (zero : GuestZeroStatus) : GuestMemoryM Unit := do
  failWhen (¬ identityIsValid owner) .invalidArgument
  let manager ← get
  failWhen (manager.initialized = false) .notInitialized
  failWhen (manager.poisoned = true) .poisoned
  let slot ← demand (resolveLease manager lease) .staleLease
  failWhen ((manager.leases slot).owner ≠ owner) .ownerMismatch
  poisonWhen (leaseIsConsistent manager (manager.leases slot) = false)
  requireZeroed zero
  modify (takeRun · slot)

/-- `x86_guest_memory_inspect`. -/
def inspect (lease : ℕ) : GuestMemoryM GuestLeaseInfo := do
  let manager ← get
  failWhen (manager.initialized = false) .notInitialized
  failWhen (manager.poisoned = true) .poisoned
  let slot ← demand (resolveLease manager lease) .staleLease
  pure ⟨(manager.leases slot).owner, pageAddress (manager.leases slot).firstPage, (manager.leases slot).pageCount⟩

/-- One page of the loop of `x86_guest_memory_query_snapshot`, on the current and the largest run. -/
def countRun (runs : ℕ × ℕ) (free : Bool) : ℕ × ℕ :=
  if free then (runs.1 + 1, if runs.1 + 1 > runs.2 then runs.1 + 1 else runs.2) else (0, runs.2)

/-- The loop over the pages from `first` to `limit`. -/
def largestRun (free : ℕ → Bool) (first limit : ℕ) : ℕ :=
  (((range' first (limit - first)).map free).foldl countRun (0, 0)).2

/-- `x86_guest_memory_query_snapshot`. -/
def querySnapshot : GuestMemoryM GuestMemorySnapshot := do
  let manager ← get
  failWhen (manager.initialized = false) .notInitialized
  failWhen (manager.poisoned = true ∨ manager.allocatedPages > manager.availablePages) .poisoned
  failWhen (manager.managedBase < guestMemoryBase ∨ manager.managedLimit ≤ manager.managedBase ∨
    manager.managedLimit > guestMemoryApertureLimit) .poisoned
  pure ⟨largestRun (pageIsFree manager) (managedFirstPage manager) (managedPageLimit manager),
    manager.availablePages - manager.allocatedPages, manager.availablePages, manager.managedLimit - 1⟩

end GuestMemory

end DosC32
