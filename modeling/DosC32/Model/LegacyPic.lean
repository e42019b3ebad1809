import DosC32.Core.Bitmap

/-! # The guest's pair of 8259A interrupt controllers

`kernel/x86_vm/chipset/pic.c`: the command and data ports of both controllers, requests, and the
two halves of an interrupt acknowledge. Interrupt levels are numbers below eight; a register with
one bit for each level is a bit vector. The pair is a value, so that the private copies of the
source are plain bindings.
-/

namespace DosC32

/-- `struct x86_chipset_pic_state`. -/
@[ext] structure PicState where
  vectorBase : UInt8
  interruptMask : BitVec 8
  interruptRequest : BitVec 8
  inService : BitVec 8
  initializationStep : UInt8
  cascadeConfig : BitVec 8
  priorityLowest : UInt8
  readIsr : Bool
  mode8086 : Bool
  autoEoi : Bool
  specialMask : Bool
  rotateOnAutoEoi : Bool
  single : Bool
  levelTriggered : Bool
  pollPending : Bool
  needsIcw4 : Bool

namespace PicState

/-- The level at an offset from the one with the lowest priority. -/
def candidate (priorityLowest : UInt8) (offset : ℕ) : ℕ := (priorityLowest.toNat + offset) % 8

/-- `highest_priority_level`. -/
def highestPriorityLevel (bits : BitVec 8) (priorityLowest : UInt8) : Option ℕ :=
  ((List.range' 1 8).find? fun offset => Bitmap.test bits (candidate priorityLowest offset)).map
    (candidate priorityLowest)

/-- `priority_rank`. -/
def priorityRank (priorityLowest : UInt8) (level : ℕ) : ℕ := (level + 8 - (priorityLowest.toNat + 1) % 8) % 8

variable (pic : PicState)

/-- The requests that are not masked. -/
def pending : BitVec 8 := pic.interruptRequest &&& ~~~pic.interruptMask

/-- The levels in service that block others; in special-mask mode a masked one does not. -/
def effectiveIsr : BitVec 8 := if pic.specialMask then pic.inService &&& ~~~pic.interruptMask else pic.inService

/-- `next_eligible_level`. -/
def nextEligibleLevel : Option ℕ :=
  match highestPriorityLevel pic.pending pic.priorityLowest with
  | none => none
  | some level =>
    match highestPriorityLevel pic.effectiveIsr pic.priorityLowest with
    | none => some level
    | some inServiceLevel =>
      if priorityRank pic.priorityLowest level < priorityRank pic.priorityLowest inServiceLevel then some level
      else none

/-- `acknowledge_level`. -/
def acknowledgeLevel (level : ℕ) : PicState :=
  let pic := { pic with interruptRequest := Bitmap.erase pic.interruptRequest level }
  if pic.autoEoi = false then { pic with inService := Bitmap.insert pic.inService level }
  else if pic.rotateOnAutoEoi then { pic with priorityLowest := UInt8.ofNat level }
  else pic

/-- `acknowledge_next`. -/
def acknowledgeNext : Option (ℕ × PicState) :=
  pic.nextEligibleLevel.map fun level => (level, pic.acknowledgeLevel level)

/-- `clear_non_specific_eoi`. -/
def clearNonSpecificEoi : Option (ℕ × PicState) :=
  (highestPriorityLevel pic.inService pic.priorityLowest).map fun level =>
    (level, { pic with inService := Bitmap.erase pic.inService level })

variable (command : BitVec 8)

/-- `write_icw1`. -/
def writeIcw1 : PicState :=
  { pic with
    interruptMask := 0, interruptRequest := 0, inService := 0, initializationStep := 2, cascadeConfig := 0
    priorityLowest := 7, readIsr := false, mode8086 := false, autoEoi := false, specialMask := false
    rotateOnAutoEoi := false, single := command &&& 0x02#8 != 0, levelTriggered := command &&& 0x08#8 != 0
    pollPending := false, needsIcw4 := command &&& 0x01#8 != 0 }

/-- `write_ocw3`. -/
def writeOcw3 : PicState :=
  { pic with
    specialMask := if command &&& 0x40#8 != 0 then command &&& 0x20#8 != 0 else pic.specialMask
    pollPending := if command &&& 0x04#8 != 0 then true else pic.pollPending
    readIsr := if command &&& 0x02#8 != 0 then command &&& 0x01#8 != 0 else pic.readIsr }

/-- `write_ocw2`. -/
def writeOcw2 : PicState :=
  let level := command.toNat % 8
  match command.toNat / 32 % 8 with
  | 0 => { pic with rotateOnAutoEoi := false }
  | 1 => (pic.clearNonSpecificEoi.map Prod.snd).getD pic
  | 2 => pic
  | 3 => { pic with inService := Bitmap.erase pic.inService level }
  | 4 => { pic with rotateOnAutoEoi := true }
  | 5 =>
    match pic.clearNonSpecificEoi with
    | some (completed, pic) => { pic with priorityLowest := UInt8.ofNat completed }
    | none => pic
  | 6 => { pic with priorityLowest := UInt8.ofNat level }
  | _ => { pic with inService := Bitmap.erase pic.inService level, priorityLowest := UInt8.ofNat level }

/-- `write_data`. -/
def writeData (data : BitVec 8) : PicState :=
  let afterIcw3 : UInt8 := if pic.needsIcw4 then 4 else 0
  if pic.initializationStep = 0 then { pic with interruptMask := data }
  else if pic.initializationStep = 2 then
    { pic with
      vectorBase := UInt8.ofBitVec (data &&& 0xf8#8), initializationStep := if pic.single then afterIcw3 else 3 }
  else if pic.initializationStep = 3 then { pic with cascadeConfig := data, initializationStep := afterIcw3 }
  else if pic.initializationStep = 4 then
    { pic with mode8086 := data &&& 0x01#8 != 0, autoEoi := data &&& 0x02#8 != 0, initializationStep := 0 }
  else { pic with initializationStep := 0 }

/-- `initialize_pic` of `owner.c`. -/
def configured (vectorBase : UInt8) (interruptMask cascadeConfig : BitVec 8) : PicState :=
  ⟨vectorBase, interruptMask, 0, 0, 0, cascadeConfig, 7, false, true, false, false, false, false, false, false, false⟩

end PicState

/-- The member `pic` of `struct x86_legacy_chipset_owner`. -/
@[ext] structure PicPair where
  primary : PicState
  secondary : PicState

/-- `struct x86_legacy_interrupt_claim`. -/
structure InterruptClaim where
  (chipsetGeneration deliveryToken irq : ℕ)
  vector : UInt8
  (primaryAutoEoi secondaryAutoEoi cascaded : Bool)
  reserved : List UInt8

namespace PicPair

variable (pics : PicPair)

/-- `cascade_level`. -/
def cascadeLevel : Option ℕ :=
  if pics.primary.single ∨ pics.secondary.single then none
  else
    let configured := pics.secondary.cascadeConfig.toNat % 8
    if Bitmap.test pics.primary.cascadeConfig configured = false then none else some configured

/-- Replace the requests of the primary controller. -/
def withRequests (requests : BitVec 8) : PicPair :=
  { pics with primary := { pics.primary with interruptRequest := requests } }

/-- `refresh_cascade_request`. -/
def refreshCascadeRequest : PicPair :=
  match pics.cascadeLevel with
  | none => pics
  | some configured =>
    if pics.secondary.nextEligibleLevel.isSome then
      pics.withRequests (Bitmap.insert pics.primary.interruptRequest configured)
    else pics.withRequests (Bitmap.erase pics.primary.interruptRequest configured)

/-- `x86_legacy_pic_request_irq`; the value says that the request was pending already. -/
def requestIrq (irq : ℕ) : Bool × PicPair :=
  if irq ≥ 16 then (true, pics)
  else if irq < 8 then
    (Bitmap.test pics.primary.interruptRequest irq,
      pics.withRequests (Bitmap.insert pics.primary.interruptRequest irq))
  else
    (Bitmap.test pics.secondary.interruptRequest (irq - 8),
      PicPair.refreshCascadeRequest { pics with secondary := { pics.secondary with
        interruptRequest := Bitmap.insert pics.secondary.interruptRequest (irq - 8) } })

/-- The claim for a level of the primary controller, before its token is drawn. -/
def directClaim (generation level : ℕ) : InterruptClaim :=
  ⟨generation, 0, level, pics.primary.vectorBase + UInt8.ofNat level, pics.primary.autoEoi, false, false, [0, 0, 0]⟩

/-- The claim for a level of the secondary controller, before its token is drawn. -/
def cascadedClaim (generation level : ℕ) : InterruptClaim :=
  ⟨generation, 0, 8 + level, pics.secondary.vectorBase + UInt8.ofNat level, pics.primary.autoEoi,
    pics.secondary.autoEoi, true, [0, 0, 0]⟩

/-- `x86_legacy_pic_prepare_interrupt`. -/
def prepareInterrupt (generation : ℕ) : Option InterruptClaim :=
  let sampled := pics.refreshCascadeRequest
  match sampled.primary.nextEligibleLevel with
  | none => none
  | some primaryLevel =>
    match sampled.secondary.nextEligibleLevel with
    | some secondaryLevel =>
      if sampled.cascadeLevel = some primaryLevel then some (sampled.cascadedClaim generation secondaryLevel)
      else some (sampled.directClaim generation primaryLevel)
    | none => some (sampled.directClaim generation primaryLevel)

/-- `direct_claim_matches`. -/
def directClaimMatches (claim : InterruptClaim) : Prop :=
  claim.cascaded = false ∧ claim.irq < 8 ∧ claim.vector = pics.primary.vectorBase + UInt8.ofNat claim.irq ∧
    claim.primaryAutoEoi = pics.primary.autoEoi ∧ claim.secondaryAutoEoi = false ∧
    Bitmap.test pics.primary.interruptRequest claim.irq
deriving Decidable

/-- `cascaded_claim_matches`, for the level that the cascade is configured at. -/
def cascadedClaimMatches (claim : InterruptClaim) (primaryLevel : ℕ) : Prop :=
  claim.cascaded = true ∧ 8 ≤ claim.irq ∧ claim.irq < 16 ∧
    claim.vector = pics.secondary.vectorBase + UInt8.ofNat (claim.irq - 8) ∧
    claim.primaryAutoEoi = pics.primary.autoEoi ∧ claim.secondaryAutoEoi = pics.secondary.autoEoi ∧
    Bitmap.test pics.primary.interruptRequest primaryLevel ∧
    Bitmap.test pics.secondary.interruptRequest (claim.irq - 8)
deriving Decidable

/-- `x86_legacy_pic_commit_interrupt`; the pair is published only when every check holds. -/
def commitInterrupt (generation : ℕ) (claim : InterruptClaim) : Option PicPair :=
  if claim.chipsetGeneration ≠ generation then none
  else
    let committed := pics.refreshCascadeRequest
    if committed.directClaimMatches claim then
      some (PicPair.refreshCascadeRequest
        { committed with primary := committed.primary.acknowledgeLevel claim.irq })
    else
      match committed.cascadeLevel with
      | none => none
      | some primaryLevel =>
        if committed.cascadedClaimMatches claim primaryLevel then
          some (PicPair.refreshCascadeRequest ⟨committed.primary.acknowledgeLevel primaryLevel,
            committed.secondary.acknowledgeLevel (claim.irq - 8)⟩)
        else none

/-- Which controller a port addresses; a command port is marked. -/
inductive Selection where
  | primary (command : Bool)
  | secondary (command : Bool)

/-- `pic_for_port`. -/
def picForPort (port : UInt16) : Option Selection :=
  if port = 0x20 ∨ port = 0x21 then some (.primary (port = 0x20))
  else if port = 0xa0 ∨ port = 0xa1 then some (.secondary (port = 0xa0))
  else none

def Selection.command : Selection → Bool
  | .primary command => command
  | .secondary command => command

/-- The selected controller. -/
def select : Selection → PicState
  | .primary _ => pics.primary
  | .secondary _ => pics.secondary

def replace (selection : Selection) (pic : PicState) : PicPair :=
  match selection with
  | .primary _ => { pics with primary := pic }
  | .secondary _ => { pics with secondary := pic }

/-- `x86_legacy_pic_read` on an active chipset; without a value the callback faults. -/
def read (port : UInt16) : Option (UInt32 × PicPair) := do
  let selection ← picForPort port
  let pic := pics.select selection
  if selection.command = false then pure (UInt32.ofNat pic.interruptMask.toNat, pics)
  else if pic.pollPending then
    let polled := { pic with pollPending := false }
    match polled.acknowledgeNext with
    | none => pure (0, pics.replace selection polled)
    | some (level, acknowledged) =>
      pure (UInt32.ofNat (0x80 + level), (pics.replace selection acknowledged).refreshCascadeRequest)
  else pure (UInt32.ofNat (if pic.readIsr then pic.inService.toNat else pic.interruptRequest.toNat), pics)

/-- The effect of a byte written to a command port. -/
def writeCommand (pic : PicState) (byte : BitVec 8) : PicState :=
  if byte &&& 0x10#8 != 0 then pic.writeIcw1 byte
  else if byte &&& 0x08#8 != 0 then pic.writeOcw3 byte
  else pic.writeOcw2 byte

/-- `x86_legacy_pic_write` on an active chipset. -/
def write (port : UInt16) (byte : BitVec 8) : Option PicPair := do
  let selection ← picForPort port
  let pic := pics.select selection
  let written := if selection.command then writeCommand pic byte else pic.writeData byte
  pure (pics.replace selection written).refreshCascadeRequest

end PicPair

end DosC32
