import DosC32.Model.IoResource
import DosC32.Model.Paging

/-! # The display of the guest space

The display capability of `kernel/x86_vm/platform/display.c` and the part of `kernel/x86_vm/guest_space.c`
that lends the display to a foreground client: the lease of its ports, the grant of its memory and
the undoing of both. What the registry of port resources answers to a call is part of the call. Only
the fields that these functions read are kept of the guest space and of the BIOS snapshot.
-/

namespace DosC32

/-- `struct x86_display_memory_range`. -/
structure DisplayMemoryRange where
  (base bytes : ℕ)
deriving DecidableEq

/-- `enum x86_display_class`. -/
inductive DisplayClass where
  | none
  | mda
  | cga
  | ega
  | vga
  | mcga

/-- `struct x86_display_capability`; `memory` holds the first `memory_range_count` ranges. -/
structure DisplayCapability where
  platformGeneration : ℕ := 0
  memory : List DisplayMemoryRange := []
  ioFirstPort : UInt16 := 0
  ioLastPort : UInt16 := 0
  biosCapabilities : BitVec 16 := 0
  displayClass : DisplayClass := .none
  activeDcc : UInt8 := 0

/-- The fields of `struct x86_legacy_bios_snapshot` that describe the display. -/
structure DisplayPlatform where
  (generation textMemoryAddress textMemoryBytes : ℕ)
  crtcIndexPort : UInt16
  textConsoleAvailable : Bool
  reserved0 : List UInt8
  displayCapabilities : BitVec 16
  displayActiveDcc : UInt8
  displayDccValid : ℕ
  reserved1 : UInt8

/-- `enum x86_display_status` without `X86_DISPLAY_OK`. -/
inductive DisplayError where
  | invalidArgument
  | invalidPlatform
  | unsupported

namespace Display

def mdaMemoryBase : ℕ := 0x000b0000
def cgaMemoryBase : ℕ := 0x000b8000
def textMemoryBytes : ℕ := 0x00008000
def planarMemoryBase : ℕ := 0x000a0000
def mcgaGraphicsMemoryBytes : ℕ := 0x00010000
def egaVgaMemoryBytes : ℕ := 0x00020000

def mdaIoFirst : UInt16 := 0x03b0
def mdaIoLast : UInt16 := 0x03bf
def displayControlIoFirst : UInt16 := 0x03c0
def cgaIoFirst : UInt16 := 0x03d0
def cgaIoLast : UInt16 := 0x03df

def monoTextMemory : BitVec 16 := 0x001
def colorTextMemory : BitVec 16 := 0x002
def graphicsMemory : BitVec 16 := 0x004
def monoCrtcIo : BitVec 16 := 0x008
def colorCrtcIo : BitVec 16 := 0x010
def controlIo : BitVec 16 := 0x020
def egaCompatible : BitVec 16 := 0x040
def vgaCompatible : BitVec 16 := 0x080
def mcgaCompatible : BitVec 16 := 0x100

variable (platform : DisplayPlatform) (capability : DisplayCapability)

/-- `text_console_matches`. -/
def textConsoleMatches : Bool :=
  if platform.textConsoleAvailable = false then true
  else if platform.textMemoryBytes = 0 ∨ 0xffffffff - platform.textMemoryBytes < platform.textMemoryAddress then false
  else capability.memory.any fun range =>
    decide (range.base ≤ platform.textMemoryAddress) &&
      decide (platform.textMemoryAddress + platform.textMemoryBytes ≤ range.base + range.bytes)

/-- `crtc_matches`. -/
def crtcMatches : Bool :=
  !platform.textConsoleAvailable ||
    (decide (capability.ioFirstPort ≤ platform.crtcIndexPort) && decide (platform.crtcIndexPort ≤ capability.ioLastPort))

/-- `expected_capabilities`. -/
def expectedCapabilities (dcc : UInt8) : BitVec 16 :=
  let mono := monoTextMemory ||| monoCrtcIo
  let color := colorTextMemory ||| colorCrtcIo
  let switched := mono ||| color ||| graphicsMemory ||| controlIo
  match dcc.toNat with
  | 0x01 => mono
  | 0x02 => color ||| graphicsMemory
  | 0x04 | 0x05 => switched ||| egaCompatible
  | 0x07 | 0x08 => switched ||| egaCompatible ||| vgaCompatible
  | 0x0a | 0x0b | 0x0c => color ||| graphicsMemory ||| controlIo ||| mcgaCompatible
  | _ => 0

/-- The ranges of an EGA or a VGA. -/
def switchedRanges (displayClass : DisplayClass) : DisplayCapability :=
  { capability with
    displayClass, memory := [⟨planarMemoryBase, egaVgaMemoryBytes⟩], ioFirstPort := mdaIoFirst, ioLastPort := cgaIoLast }

/-- `prepare_ranges`. -/
def prepareRanges (dcc : UInt8) (capability : DisplayCapability) : Option DisplayCapability :=
  match dcc.toNat with
  | 0x01 => some { capability with
      displayClass := .mda, memory := [⟨mdaMemoryBase, textMemoryBytes⟩], ioFirstPort := mdaIoFirst,
      ioLastPort := mdaIoLast }
  | 0x02 => some { capability with
      displayClass := .cga, memory := [⟨cgaMemoryBase, textMemoryBytes⟩], ioFirstPort := cgaIoFirst,
      ioLastPort := cgaIoLast }
  | 0x04 | 0x05 => some (switchedRanges capability .ega)
  | 0x07 | 0x08 => some (switchedRanges capability .vga)
  | 0x0a | 0x0b | 0x0c => some { capability with
      displayClass := .mcga
      memory := [⟨planarMemoryBase, mcgaGraphicsMemoryBytes⟩, ⟨cgaMemoryBase, textMemoryBytes⟩]
      ioFirstPort := displayControlIoFirst, ioLastPort := cgaIoLast }
  | _ => none

/-- `x86_display_capability_prepare`. -/
def capabilityPrepare : Except DisplayError DisplayCapability :=
  if platform.generation = 0 ∨ platform.displayDccValid > 1 ∨ ¬ platform.reserved0.all (· == 0) ∨
      platform.reserved1 ≠ 0 then .error .invalidPlatform
  else if platform.displayDccValid = 0 then .error .unsupported
  else if expectedCapabilities platform.displayActiveDcc = 0 then .error .unsupported
  else if platform.displayCapabilities ≠ expectedCapabilities platform.displayActiveDcc then .error .invalidPlatform
  else match prepareRanges platform.displayActiveDcc
      { platformGeneration := platform.generation, activeDcc := platform.displayActiveDcc
        biosCapabilities := expectedCapabilities platform.displayActiveDcc } with
    | none => .error .unsupported
    | some capability =>
      if textConsoleMatches platform capability = false ∨ crtcMatches platform capability = false then
        .error .invalidPlatform
      else .ok capability

end Display

/-- `enum x86_guest_space_status`, the errors that these functions return. -/
inductive GuestSpaceError where
  | invalidArgument
  | invalidState
  | pagingMismatch
  | machineMismatch
  | ioDenied
  | ioFault
  | deviceFault
deriving DecidableEq

/-- The fields of `struct x86_guest_space_owner` that concern the display. -/
structure GuestDisplayOwner where
  (addressSpaceIdentity machineIdentity ioRequesterIdentity displayResource displayForegroundToken : ℕ)
  display : DisplayCapability
  (initialized displayAvailable displayMemoryGranted displayCleanupRequired poisoned machinePoisoned : Bool)

/-- The display owner and the page tables. -/
structure DisplayState where
  owner : GuestDisplayOwner
  paging : X86Paging

namespace Display

open Effect

abbrev DisplayM := EStateM GuestSpaceError DisplayState

def foregroundTokenInvalid : ℕ := 0

variable (owner : GuestDisplayOwner)

/-- `guest_space_is_active`. -/
def guestSpaceIsActive : Bool :=
  owner.initialized && !owner.poisoned && !owner.machinePoisoned

/-- `context_matches`. -/
def contextMatches (context : ℕ) : Bool :=
  guestSpaceIsActive owner && context == owner.addressSpaceIdentity

/-- `display_io_requester`. -/
def displayIoRequester : ℕ :=
  if owner.displayAvailable = false ∨ owner.displayMemoryGranted = false ∨ owner.displayCleanupRequired = true ∨
      owner.displayForegroundToken = foregroundTokenInvalid then kernelObjectHandleInvalid
  else owner.ioRequesterIdentity

/-- The requester with which `registered_port_read` and `registered_port_write` reach the registry, if they do. -/
def portRequester (context : ℕ) : Option ℕ :=
  if contextMatches owner context then some (displayIoRequester owner) else none

/-- `guest_space_io_status` of an error. -/
def guestSpaceIoStatus : IoResourceError → GuestSpaceError
  | .invalidArgument => .invalidArgument
  | .accessDenied | .ownershipDenied => .ioDenied
  | _ => .ioFault

/-- `clear_display_lease`. -/
def clearDisplayLease : GuestDisplayOwner :=
  { owner with
    ioRequesterIdentity := kernelObjectHandleInvalid, displayForegroundToken := foregroundTokenInvalid
    displayMemoryGranted := false, displayCleanupRequired := false }

variable (requesterIdentity token : ℕ)

/-- `quarantine_display_lease`. -/
def quarantineDisplayLease (owner : GuestDisplayOwner) : GuestDisplayOwner :=
  { owner with
    ioRequesterIdentity := requesterIdentity, displayForegroundToken := token
    displayMemoryGranted := false, displayCleanupRequired := true }

/-- `quarantine_display_mapping`. -/
def quarantineDisplayMapping : GuestDisplayOwner :=
  { owner with
    ioRequesterIdentity := kernelObjectHandleInvalid, displayForegroundToken := foregroundTokenInvalid
    displayMemoryGranted := false, displayCleanupRequired := true }

/-- `enum display_memory_transition`. -/
inductive DisplayMemoryTransition where
  | ok
  | mappingMismatch
  | cleanupFault
deriving DecidableEq

/-- Revoke ranges in the order of the list; false when one of them was not mapped as expected. -/
def revokeRanges : List DisplayMemoryRange → X86Paging → X86Paging × Bool
  | [], paging => (paging, true)
  | range :: rest, paging =>
    let revoked := paging.revokeLegacyVideoRange range.base range.bytes
    let others := revokeRanges rest revoked.1
    (others.1, revoked.2 && others.2)

/-- The loop of `grant_display_memory`; `done` are the ranges already granted, the last one first. -/
def grantRanges (done : List DisplayMemoryRange) :
    List DisplayMemoryRange → X86Paging → X86Paging × DisplayMemoryTransition
  | [], paging => (paging, .ok)
  | range :: rest, paging =>
    let granted := paging.grantLegacyVideoRange range.base range.bytes
    if granted.2 then grantRanges (range :: done) rest granted.1
    else
      let rolledBack := revokeRanges done granted.1
      (rolledBack.1, if rolledBack.2 then .mappingMismatch else .cleanupFault)

/-- `grant_display_memory`. -/
def grantDisplayMemory (state : DisplayState) : X86Paging × DisplayMemoryTransition :=
  grantRanges [] state.owner.display.memory state.paging

/-- `revoke_display_memory`. -/
def revokeDisplayMemory (state : DisplayState) : X86Paging × Bool :=
  revokeRanges state.owner.display.memory.reverse state.paging

def changeOwner (change : GuestDisplayOwner → GuestDisplayOwner) : DisplayM Unit :=
  modify fun state => { state with owner := change state.owner }

/-- What `x86_guest_space_display_foreground_acquire` does when the memory was not granted. -/
def abandonAcquire (memoryStatus : DisplayMemoryTransition) (revoked : Option IoResourceError) : DisplayM ℕ :=
  match revoked with
  | none =>
    if memoryStatus = .mappingMismatch then throw .pagingMismatch
    else do
      changeOwner quarantineDisplayMapping
      throw .pagingMismatch
  | some status => do
    changeOwner (quarantineDisplayLease requesterIdentity token)
    throw (guestSpaceIoStatus status)

/-- `x86_guest_space_display_foreground_acquire`; the registry answers `acquired`, and `revoked` when asked to undo it. -/
def displayForegroundAcquire (machineIdentity requesterIdentity : ℕ) (acquired : Except IoResourceError ℕ)
    (revoked : Option IoResourceError) : DisplayM ℕ := do
  failWhen (¬ identityIsValid machineIdentity ∨ ¬ identityIsValid requesterIdentity) .invalidArgument
  let state ← get
  failWhen (guestSpaceIsActive state.owner = false) .invalidState
  failWhen (machineIdentity ≠ state.owner.machineIdentity) .machineMismatch
  failWhen (state.owner.displayAvailable = false) .ioDenied
  failWhen (state.owner.displayForegroundToken ≠ foregroundTokenInvalid ∨
    state.owner.ioRequesterIdentity ≠ kernelObjectHandleInvalid ∨ state.owner.displayMemoryGranted = true ∨
    state.owner.displayCleanupRequired = true) .ioDenied
  match acquired with
  | .error status => throw (guestSpaceIoStatus status)
  | .ok prepared =>
    let granted := grantDisplayMemory state
    set { state with paging := granted.1 }
    if granted.2 ≠ .ok then abandonAcquire requesterIdentity prepared granted.2 revoked
    else do
      changeOwner fun owner => { owner with
        displayMemoryGranted := true, ioRequesterIdentity := requesterIdentity, displayForegroundToken := prepared
        displayCleanupRequired := false }
      pure prepared

/-- What release and revoke do once they have passed their checks; the registry answers `answer`. -/
def takeBackDisplay (answer : Option IoResourceError) : DisplayM Unit := do
  let state ← get
  let released := revokeDisplayMemory state
  set { state with
    paging := released.1
    owner := { state.owner with displayMemoryGranted := false, displayCleanupRequired := true } }
  match answer with
  | some status => throw (guestSpaceIoStatus status)
  | none =>
    if released.2 = false then do
      changeOwner quarantineDisplayMapping
      throw .pagingMismatch
    else changeOwner clearDisplayLease

/-- `x86_guest_space_display_foreground_release`. -/
def displayForegroundRelease (released : Option IoResourceError) : DisplayM Unit := do
  failWhen (¬ identityIsValid requesterIdentity ∨ token = foregroundTokenInvalid) .invalidArgument
  let state ← get
  failWhen (guestSpaceIsActive state.owner = false) .invalidState
  failWhen (requesterIdentity ≠ state.owner.ioRequesterIdentity ∨ token ≠ state.owner.displayForegroundToken ∨
    (state.owner.displayMemoryGranted = false ∧ state.owner.displayCleanupRequired = false)) .ioDenied
  takeBackDisplay released

/-- Nothing of the display is lent and nothing is left to clean up. -/
def displayIsIdle : Bool :=
  owner.displayForegroundToken == foregroundTokenInvalid && owner.ioRequesterIdentity == kernelObjectHandleInvalid &&
    !owner.displayMemoryGranted && !owner.displayCleanupRequired

/-- `x86_guest_space_display_foreground_revoke`. -/
def displayForegroundRevoke (machineIdentity : ℕ) (revoked : Option IoResourceError) : DisplayM Unit := do
  failWhen (¬ identityIsValid machineIdentity) .invalidArgument
  let state ← get
  failWhen (state.owner.initialized = false) .invalidState
  failWhen (machineIdentity ≠ state.owner.machineIdentity) .machineMismatch
  failWhen (state.owner.displayAvailable = false) .ioDenied
  if displayIsIdle state.owner then pure () else takeBackDisplay revoked

/-- The flags that `poison_guest_devices` sets in the guest space. -/
def poisonGuestDevices : GuestDisplayOwner :=
  { owner with poisoned := true, machinePoisoned := true }

/-- `x86_guest_space_quarantine`; `ownMachine` tells whether the caller's machine is the guest space's. -/
def quarantine (machineIdentity : ℕ) (ownMachine : Bool) (revoked : Option IoResourceError) : DisplayM Unit := do
  failWhen (¬ identityIsValid machineIdentity) .invalidArgument
  let state ← get
  failWhen (state.owner.initialized = false) .invalidState
  failWhen (machineIdentity ≠ state.owner.machineIdentity ∨ ownMachine = false) .machineMismatch
  let displayStatus ←
    if state.owner.displayAvailable then attempt (displayForegroundRevoke machineIdentity revoked) else pure (.ok ())
  changeOwner poisonGuestDevices
  match displayStatus with
  | .ok _ => pure ()
  | .error _ => throw .deviceFault

/-- The display owner after `x86_guest_space_initialize`, which takes an unsupported display for none. -/
def installDisplay (addressSpaceIdentity machineIdentity displayResource : ℕ)
    (prepared : Option DisplayCapability) : GuestDisplayOwner where
  addressSpaceIdentity := addressSpaceIdentity
  machineIdentity := machineIdentity
  ioRequesterIdentity := kernelObjectHandleInvalid
  displayResource := displayResource
  displayForegroundToken := foregroundTokenInvalid
  display := prepared.getD {}
  initialized := true
  displayAvailable := prepared.isSome
  displayMemoryGranted := false
  displayCleanupRequired := false
  poisoned := false
  machinePoisoned := false

end Display

end DosC32
