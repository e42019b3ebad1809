import DosC32.Model.LegacyPic
import DosC32.Model.Machine

/-! # The owner of the guest chipset

`kernel/x86_vm/chipset/owner.c`: the lifecycle of the chipset, the bound interrupt source, and the
two-phase delivery of an interrupt, together with the port callbacks that `pic.c`, `pit.c`,
`rtc.c` and `dma.c` register. The timer, the clock and the DMA controllers have their own state and
touch no controller register; what they do with it is a parameter.
-/

namespace DosC32

open Effect

/-- `enum x86_legacy_chipset_status` without `X86_LEGACY_CHIPSET_OK`. -/
inductive ChipsetError where
  | invalidArgument
  | invalidState
  | capacityExhausted
  | identityMismatch
  | poisoned
  | noInterrupt
  | staleInterrupt
deriving DecidableEq

/-- `enum x86_chipset_phase`. -/
inductive ChipsetPhase where
  | empty
  | prepared
  | active
  | poisoned
deriving DecidableEq

/-- `enum x86_chipset_source_phase`. -/
inductive ChipsetSourcePhase where
  | empty
  | active
  | quiesced
deriving DecidableEq

/-- `struct x86_legacy_chipset_config`. -/
structure ChipsetConfig where
  rtcYear : ℕ
  pitReload : Fin 3 → UInt16
  picVectorBase : Fin 2 → UInt8
  picMask : Fin 2 → BitVec 8
  (pitAccess pitMode pitBcd : Fin 3 → ℕ)
  (rtcSecond rtcMinute rtcHour rtcWeekday rtcDay rtcMonth : ℕ)
  (rtcStatusA rtcStatusB : BitVec 8)
  rtcValid : ℕ
  picCascadeConfig : Fin 2 → BitVec 8

/-- `struct x86_legacy_chipset_source_config`. -/
structure ChipsetSourceConfig where
  pitInputQuantum : ℕ
  capabilities : BitVec 32
  pitRateCalibrated : ℕ
  reserved : List UInt8

/-- `enum x86_legacy_chipset_source_event_kind`; a value outside the enumeration is unknown. -/
inductive ChipsetEventKind where
  | pitClock
  | irqEdge
  | unknown
deriving DecidableEq

/-- `struct x86_legacy_chipset_source_event`. -/
structure ChipsetSourceEvent where
  pitInputTicks : ℕ
  kind : ChipsetEventKind
  irq : ℕ
  reserved : List UInt8

/-- The callbacks registered for the ports of the chipset. -/
inductive ChipsetCallback where
  | pic
  | pit
  | rtc
  | dma
deriving DecidableEq

/-- What the timer, the clock and the DMA controllers do with their own state. -/
structure Peripherals (Devices : Type) where
  initial : ChipsetConfig → Devices
  advance : Devices → ℕ → Devices × ℕ
  read : ChipsetCallback → Devices → UInt16 → Option (UInt32 × Devices)
  write : ChipsetCallback → Devices → UInt16 → BitVec 8 → Option Devices

/-- `struct x86_legacy_chipset_owner`. -/
structure ChipsetOwner (Devices : Type) where
  (contextIdentity ownerIdentity interruptSourceIdentity generation interruptSourceGeneration : ℕ)
  (pitInputQuantum pitIrq0Edges pitIrq0CoalescedEdges interruptDeliverySequence : ℕ)
  preparedInterrupt : InterruptClaim
  interruptSourceCapabilities : BitVec 32
  pics : PicPair
  devices : Devices
  phase : ChipsetPhase
  interruptSourcePhase : ChipsetSourcePhase
  pitRateCalibrated : ℕ
  interruptPrepared : Bool

namespace Chipset

def chipsetGenerationMax : ℕ := 2 ^ 64 - 2
def chipsetInterruptTokenMax : ℕ := 2 ^ 64 - 2
def chipsetResourceCount : ℕ := 10
def chipsetIrqCount : ℕ := 16
def sourcePitClock : BitVec 32 := 1
def sourceIrqEdge : BitVec 32 := 2
def sourceCapabilities : BitVec 32 := 3

/-- `year_is_leap`. -/
def yearIsLeap (year : ℕ) : Bool := year % 4 == 0 && (year % 100 != 0 || year % 400 == 0)

/-- `days_in_month`. -/
def daysInMonth (year month : ℕ) : ℕ :=
  if month = 0 ∨ month > 12 then 0
  else if month = 2 ∧ yearIsLeap year then 29
  else [31, 28, 31, 30, 31, 30, 31, 31, 30, 31, 30, 31].getD (month - 1) 0

/-- `vector_ranges_overlap`. -/
def vectorRangesOverlap (first second : UInt8) : Prop :=
  first.toNat ≤ second.toNat + 7 ∧ second.toNat ≤ first.toNat + 7
deriving Decidable

/-- The clock part of `config_is_valid`. -/
def clockIsValid (config : ChipsetConfig) : Prop :=
  (config.rtcValid ≠ 0 →
    config.rtcYear ≠ 0 ∧ config.rtcYear ≤ 9999 ∧ config.rtcSecond ≤ 59 ∧ config.rtcMinute ≤ 59 ∧
      config.rtcHour ≤ 23 ∧ config.rtcWeekday ≠ 0 ∧ config.rtcWeekday ≤ 7 ∧ config.rtcMonth ≠ 0 ∧
      config.rtcMonth ≤ 12 ∧ config.rtcDay ≠ 0 ∧ config.rtcDay ≤ daysInMonth config.rtcYear config.rtcMonth) ∧
  (config.rtcValid = 0 →
    config.rtcYear = 0 ∧ config.rtcSecond = 0 ∧ config.rtcMinute = 0 ∧ config.rtcHour = 0 ∧
      config.rtcWeekday = 0 ∧ config.rtcDay = 0 ∧ config.rtcMonth = 0)
deriving Decidable

/-- `config_is_valid`. -/
def configIsValid (config : ChipsetConfig) : Prop :=
  config.picVectorBase 0 &&& 7 = 0 ∧ config.picVectorBase 1 &&& 7 = 0 ∧
    ¬ vectorRangesOverlap (config.picVectorBase 0) (config.picVectorBase 1) ∧
    config.rtcStatusA &&& 0x80#8 = 0 ∧ config.rtcStatusB &&& 0x78#8 = 0 ∧ config.rtcValid ≤ 1 ∧
    (config.picCascadeConfig 1).toNat ≤ 7 ∧
    Bitmap.test (config.picCascadeConfig 0) (config.picCascadeConfig 1).toNat ∧ clockIsValid config ∧
    ∀ channel, config.pitAccess channel ≠ 0 ∧ config.pitAccess channel ≤ 3 ∧ config.pitMode channel ≤ 5 ∧
      config.pitBcd channel ≤ 1
deriving Decidable

/-- `source_config_is_valid`. -/
def sourceConfigIsValid (config : ChipsetSourceConfig) : Prop :=
  config.reserved.all (· == 0) ∧ config.capabilities ≠ 0 ∧ config.capabilities &&& ~~~sourceCapabilities = 0 ∧
    config.pitRateCalibrated ≤ 1 ∧
    if config.capabilities &&& sourcePitClock ≠ 0 then config.pitInputQuantum ≠ 0
    else config.pitInputQuantum = 0 ∧ config.pitRateCalibrated = 0
deriving Decidable

/-- `source_event_is_valid`. -/
def sourceEventIsValid (event : ChipsetSourceEvent) : Prop :=
  event.reserved.all (· == 0) ∧ event.kind ≠ .unknown ∧
    (event.kind = .pitClock → event.pitInputTicks ≠ 0 ∧ event.irq = 0) ∧
    (event.kind = .irqEdge → event.pitInputTicks = 0 ∧ event.irq < chipsetIrqCount)
deriving Decidable

/-- `saturating_add_u64`. -/
def saturatingAdd (left right : ℕ) : ℕ := if 2 ^ 64 - 1 - left < right then 2 ^ 64 - 1 else left + right

/-- A claim with every byte zero. -/
def clearClaim : InterruptClaim := ⟨0, 0, 0, 0, false, false, false, [0, 0, 0]⟩

/-- A controller with every byte zero. -/
def clearPic : PicState :=
  ⟨0, 0, 0, 0, 0, 0, 0, false, false, false, false, false, false, false, false, false⟩

section Operations

variable {Devices : Type}

abbrev ChipsetM (Devices : Type) := EStateM ChipsetError (ChipsetOwner Devices)

/-- The owner with every byte zero but its generation; the devices are whatever zero bytes are. -/
def emptyOwner (blank : Devices) (generation : ℕ) : ChipsetOwner Devices :=
  ⟨0, 0, 0, generation, 0, 0, 0, 0, 0, clearClaim, 0, ⟨clearPic, clearPic⟩, blank, .empty, .empty, 0, false⟩

variable (peripherals : Peripherals Devices) (contextIdentity ownerIdentity : ℕ)

/-- `prepare_owner`. -/
def prepareOwner (config : ChipsetConfig) (generation : ℕ) : ChipsetOwner Devices :=
  { emptyOwner (peripherals.initial config) generation with
    contextIdentity, ownerIdentity, interruptSourceIdentity := kernelObjectHandleInvalid, phase := .prepared
    pics := ⟨.configured (config.picVectorBase 0) (config.picMask 0) (config.picCascadeConfig 0),
      .configured (config.picVectorBase 1) (config.picMask 1) (config.picCascadeConfig 1)⟩ }

variable (owner : ChipsetOwner Devices)

/-- `x86_legacy_chipset_active_owner` finds the owner. -/
def isActiveOwner (contextIdentity : ℕ) : Prop :=
  owner.phase = .active ∧ owner.contextIdentity = contextIdentity ∧ owner.interruptPrepared = false
deriving Decidable

/-- `x86_legacy_chipset_prepare`. -/
def prepare (config : ChipsetConfig) (descriptorCapacity : ℕ) : ChipsetM Devices Unit := do
  failWhen (¬ identityIsValid contextIdentity ∨ ¬ identityIsValid ownerIdentity ∨
    contextIdentity = ownerIdentity ∨ ¬ configIsValid config) .invalidArgument
  failWhen (descriptorCapacity < chipsetResourceCount) .capacityExhausted
  let owner ← get
  failWhen (owner.phase = .poisoned) .poisoned
  failWhen (owner.phase ≠ .empty) .invalidState
  failWhen (owner.generation ≥ chipsetGenerationMax) .capacityExhausted
  set (prepareOwner peripherals contextIdentity ownerIdentity config (owner.generation + 1))

/-- The checks that `publish` and `abort` share. -/
def requirePrepared : ChipsetM Devices Unit := do
  failWhen (¬ identityIsValid contextIdentity) .invalidArgument
  let owner ← get
  failWhen (owner.phase = .poisoned) .poisoned
  failWhen (owner.contextIdentity ≠ contextIdentity) .identityMismatch
  failWhen (owner.phase ≠ .prepared) .invalidState

/-- `x86_legacy_chipset_publish`. -/
def publish : ChipsetM Devices Unit := do
  requirePrepared contextIdentity
  modify fun owner => { owner with phase := .active }

/-- `x86_legacy_chipset_abort`. -/
def abort (blank : Devices) (contextIdentity : ℕ) : ChipsetM Devices Unit := do
  requirePrepared contextIdentity
  modify fun owner => emptyOwner blank owner.generation

/-- `x86_legacy_chipset_poison`. -/
def poison : ChipsetM Devices Unit := do
  failWhen (¬ identityIsValid contextIdentity) .invalidArgument
  let owner ← get
  failWhen (owner.contextIdentity ≠ contextIdentity) .identityMismatch
  failWhen (owner.phase = .empty) .invalidState
  modify fun owner => { owner with phase := .poisoned }

/-- `x86_legacy_chipset_source_bind`. -/
def sourceBind (contextIdentity ownerIdentity sourceIdentity : ℕ) (config : ChipsetSourceConfig) :
    ChipsetM Devices Unit := do
  failWhen (¬ identityIsValid contextIdentity ∨ ¬ identityIsValid ownerIdentity ∨
    ¬ identityIsValid sourceIdentity ∨ sourceIdentity = contextIdentity ∨ sourceIdentity = ownerIdentity ∨
    ¬ sourceConfigIsValid config) .invalidArgument
  let owner ← get
  failWhen (owner.phase = .poisoned) .poisoned
  failWhen (owner.contextIdentity ≠ contextIdentity ∨ owner.ownerIdentity ≠ ownerIdentity) .identityMismatch
  failWhen (owner.phase ≠ .active ∨ owner.interruptSourcePhase ≠ .empty) .invalidState
  failWhen (owner.interruptSourceGeneration = 2 ^ 64 - 1) .capacityExhausted
  modify fun owner => { owner with
    interruptSourceIdentity := sourceIdentity
    interruptSourceGeneration := owner.interruptSourceGeneration + 1
    pitInputQuantum := config.pitInputQuantum
    interruptSourceCapabilities := config.capabilities
    pitRateCalibrated := config.pitRateCalibrated
    interruptSourcePhase := .active }

variable (sourceIdentity : ℕ)

/-- `source_identity_status`. -/
def sourceIdentityStatus : ChipsetM Devices Unit := do
  failWhen (¬ identityIsValid contextIdentity ∨ ¬ identityIsValid sourceIdentity) .invalidArgument
  let owner ← get
  failWhen (owner.phase = .poisoned) .poisoned
  failWhen (owner.contextIdentity ≠ contextIdentity ∨ owner.interruptSourceIdentity ≠ sourceIdentity)
    .identityMismatch
  failWhen (owner.phase ≠ .active ∨ owner.interruptSourcePhase = .empty) .invalidState

/-- `x86_legacy_chipset_source_quiesce`. -/
def sourceQuiesce : ChipsetM Devices Unit := do
  sourceIdentityStatus contextIdentity sourceIdentity
  let owner ← get
  failWhen (owner.interruptSourcePhase ≠ .active) .invalidState
  failWhen (owner.interruptPrepared = true) .invalidState
  modify fun owner => { owner with interruptSourcePhase := .quiesced }

/-- `x86_legacy_chipset_source_resume`. -/
def sourceResume : ChipsetM Devices Unit := do
  sourceIdentityStatus contextIdentity sourceIdentity
  let owner ← get
  failWhen (owner.interruptSourcePhase ≠ .quiesced) .invalidState
  modify fun owner => { owner with interruptSourcePhase := .active }

/-- `x86_legacy_chipset_source_unbind`. -/
def sourceUnbind : ChipsetM Devices Unit := do
  sourceIdentityStatus contextIdentity sourceIdentity
  let owner ← get
  failWhen (owner.interruptSourcePhase ≠ .quiesced) .invalidState
  modify fun owner => { owner with
    interruptSourceIdentity := kernelObjectHandleInvalid, pitInputQuantum := 0
    interruptSourceCapabilities := 0, pitRateCalibrated := 0, interruptSourcePhase := .empty }

/-- The effect of `input_ticks` ticks of the timer clock. -/
def clockTicks (ticks : ℕ) : ChipsetOwner Devices :=
  let (devices, edges) := peripherals.advance owner.devices ticks
  let owner := { owner with devices }
  if edges = 0 then owner
  else
    let (alreadyPending, pics) := owner.pics.requestIrq 0
    let coalesced := if alreadyPending then saturatingAdd (edges - 1) 1 else edges - 1
    { owner with
      pics, pitIrq0Edges := saturatingAdd owner.pitIrq0Edges edges
      pitIrq0CoalescedEdges := saturatingAdd owner.pitIrq0CoalescedEdges coalesced }

/-- `x86_legacy_chipset_source_submit`. -/
def sourceSubmit (contextIdentity sourceIdentity : ℕ) (event : ChipsetSourceEvent) : ChipsetM Devices Unit := do
  failWhen (¬ identityIsValid contextIdentity ∨ ¬ identityIsValid sourceIdentity ∨ ¬ sourceEventIsValid event)
    .invalidArgument
  let owner ← get
  failWhen (owner.phase = .poisoned) .poisoned
  failWhen (owner.contextIdentity ≠ contextIdentity ∨ owner.interruptSourceIdentity ≠ sourceIdentity)
    .identityMismatch
  failWhen (owner.phase ≠ .active ∨ owner.interruptSourcePhase ≠ .active) .invalidState
  if event.kind = .irqEdge then do
    failWhen (owner.interruptSourceCapabilities &&& sourceIrqEdge = 0) .invalidState
    modify fun owner => { owner with pics := (owner.pics.requestIrq event.irq).2 }
  else do
    failWhen (owner.interruptSourceCapabilities &&& sourcePitClock = 0) .invalidState
    modify fun owner => clockTicks peripherals owner event.pitInputTicks

/-- `interrupt_owner_status`. -/
def interruptOwnerStatus : ChipsetM Devices Unit := do
  failWhen (¬ identityIsValid contextIdentity ∨ ¬ identityIsValid ownerIdentity) .invalidArgument
  let owner ← get
  failWhen (owner.phase = .poisoned) .poisoned
  failWhen (owner.contextIdentity ≠ contextIdentity ∨ owner.ownerIdentity ≠ ownerIdentity) .identityMismatch
  failWhen (owner.phase ≠ .active ∨ owner.interruptSourcePhase ≠ .active) .invalidState

/-- `interrupt_claim_matches`. -/
def interruptClaimMatches (left right : InterruptClaim) : Prop :=
  left.chipsetGeneration = right.chipsetGeneration ∧ left.deliveryToken = right.deliveryToken ∧
    left.irq = right.irq ∧ left.vector = right.vector ∧ left.primaryAutoEoi = right.primaryAutoEoi ∧
    left.secondaryAutoEoi = right.secondaryAutoEoi ∧ left.cascaded = right.cascaded ∧
    left.reserved.all (· == 0) ∧ right.reserved.all (· == 0)
deriving Decidable

/-- `x86_legacy_chipset_interrupt_prepare`. -/
def interruptPrepare : ChipsetM Devices InterruptClaim := do
  interruptOwnerStatus contextIdentity ownerIdentity
  let owner ← get
  failWhen (owner.interruptPrepared = true) .invalidState
  failWhen (owner.interruptDeliverySequence ≥ chipsetInterruptTokenMax) .capacityExhausted
  let prepared ← demand (owner.pics.prepareInterrupt owner.generation) .noInterrupt
  let claim := { prepared with deliveryToken := owner.interruptDeliverySequence + 1 }
  set { owner with
    interruptDeliverySequence := owner.interruptDeliverySequence + 1
    preparedInterrupt := claim, interruptPrepared := true }
  pure claim

variable (claim : InterruptClaim)

/-- The checks that `interrupt_commit` and `interrupt_cancel` share. -/
def requireClaim : ChipsetM Devices Unit := do
  interruptOwnerStatus contextIdentity ownerIdentity
  let owner ← get
  failWhen (owner.interruptPrepared = false) .invalidState
  failWhen (¬ interruptClaimMatches owner.preparedInterrupt claim) .staleInterrupt

/-- The claim is no longer outstanding. -/
def forgetClaim : ChipsetOwner Devices :=
  { owner with preparedInterrupt := clearClaim, interruptPrepared := false }

/-- `x86_legacy_chipset_interrupt_commit`. -/
def interruptCommit : ChipsetM Devices Unit := do
  requireClaim contextIdentity ownerIdentity claim
  let owner ← get
  let pics ← demand (owner.pics.commitInterrupt owner.generation claim) .staleInterrupt
  modify fun owner => forgetClaim { owner with pics }

/-- `x86_legacy_chipset_interrupt_cancel`. -/
def interruptCancel : ChipsetM Devices Unit := do
  requireClaim contextIdentity ownerIdentity claim
  modify forgetClaim

/-- `x86_legacy_chipset_interrupt_claim`. -/
def interruptClaim : ChipsetM Devices InterruptClaim := do
  let claim ← interruptPrepare contextIdentity ownerIdentity
  interruptCommit contextIdentity ownerIdentity claim
  pure claim

/-- `X86_IO_CALLBACK_FAULT`. -/
inductive ChipsetFault where
  | fault

/-- `x86_legacy_pic_read`, `x86_legacy_pit_read`, `x86_legacy_rtc_read`, `x86_legacy_dma_read`. -/
def portRead (callback : ChipsetCallback) (context : ℕ) (port : UInt16)
    (width : ℕ) : EStateM ChipsetFault (ChipsetOwner Devices) UInt32 := do
  let owner ← get
  failWhen (¬ isActiveOwner owner context ∨ width ≠ 1) .fault
  if callback = .pic then do
    let (value, pics) ← demand (owner.pics.read port) .fault
    set { owner with pics }
    pure value
  else do
    let (value, devices) ← demand (peripherals.read callback owner.devices port) .fault
    set { owner with devices }
    pure value

/-- `x86_legacy_pic_write`, `x86_legacy_pit_write`, `x86_legacy_rtc_write`, `x86_legacy_dma_write`. -/
def portWrite (callback : ChipsetCallback) (context : ℕ) (port : UInt16)
    (width value : ℕ) : EStateM ChipsetFault (ChipsetOwner Devices) Unit := do
  let owner ← get
  failWhen (¬ isActiveOwner owner context ∨ width ≠ 1 ∨ value > 0xff) .fault
  if callback = .pic then do
    let pics ← demand (owner.pics.write port (BitVec.ofNat 8 value)) .fault
    set { owner with pics }
  else do
    let devices ← demand (peripherals.write callback owner.devices port (BitVec.ofNat 8 value)) .fault
    set { owner with devices }

end Operations

end Chipset

end DosC32
