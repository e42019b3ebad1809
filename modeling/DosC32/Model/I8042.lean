import DosC32.Core.Fifo
import DosC32.Model.Machine

/-! # The guest's keyboard controller

`kernel/x86_vm/chipset/i8042.c`: the output and event queues, the commands of the controller, the
keyboard and the auxiliary device, the injection of input and the two port callbacks. A function of
the source that returns a flag is a procedure that is refused where the flag is false; what it
changed before stays changed. Pointer arguments are never null.
-/

namespace DosC32

open Effect

/-- `enum x86_i8042_status` without `X86_I8042_OK`. -/
inductive I8042Error where
  | invalidArgument
  | invalidState
  | capacityExhausted
  | identityMismatch
  | poisoned
  | inputDisabled
  | noEvent
  | staleEvent
  | staleBinding
  | modeChanged

/-- `enum i8042_phase`. -/
inductive I8042Phase where
  | empty
  | prepared
  | active
  | poisoned
deriving DecidableEq

/-- `enum i8042_input_phase`. -/
inductive I8042InputPhase where
  | empty
  | active
  | quiesced
deriving DecidableEq

/-- `enum i8042_output_source`. -/
inductive I8042OutputSource where
  | controller
  | keyboard
  | auxiliary
deriving DecidableEq

/-- `enum i8042_pending_command`. -/
inductive I8042PendingCommand where
  | none
  | commandByte
  | outputPort
  | keyboardOutput
  | auxiliaryOutput
  | auxiliaryCommand
  | keyboardLeds
  | keyboardScanSet
  | keyboardTypematic
  | auxiliaryParameter
deriving DecidableEq

/-- `struct i8042_output_entry`. -/
structure I8042OutputEntry where
  value : BitVec 8
  source : I8042OutputSource

/-- `enum x86_i8042_event_kind`; zeroed storage holds no event. -/
inductive I8042EventKind where
  | none
  | irqRequest
  | a20Change
deriving DecidableEq

/-- `struct x86_i8042_event`. -/
structure I8042Event where
  (controllerGeneration sequence : ℕ)
  kind : I8042EventKind
  irq : ℕ
  a20Enabled : Bool

/-- `struct x86_i8042_config`. -/
structure I8042Config where
  (commandByte inputPort outputPort : BitVec 8)
  (keyboardPresent auxiliaryPresent keyboardScanningEnabled : ℕ)
  keyboardScanSet : BitVec 8
  keyboardUnlocked : ℕ
  (keyboardLeds keyboardTypematic : BitVec 8)
  keyboardIdLength : ℕ
  (keyboardIdFirst keyboardIdSecond auxiliaryId : BitVec 8)
  reserved : List UInt8

/-- `struct x86_i8042_input_config`. -/
structure I8042InputConfig where
  capabilities : BitVec 32
  reserved : List UInt8

/-- `struct x86_i8042_input_binding`. -/
structure I8042InputBinding where
  (contextIdentity ownerIdentity controllerGeneration sourceIdentity sourceGeneration : ℕ)
  capabilities : BitVec 32
  reserved : List UInt8

/-- `struct x86_i8042_keyboard_mode`. -/
structure I8042KeyboardMode where
  (sourceIdentity controllerGeneration sourceGeneration modeGeneration : ℕ)
  scanSet : BitVec 8
  (translationEnabled scanningEnabled interfaceEnabled : ℕ)
  reserved : List UInt8

/-- `enum x86_i8042_input_kind`; a value outside the enumeration is unknown. -/
inductive I8042InputKind where
  | keyboardScan
  | auxiliaryByte
  | unknown
deriving DecidableEq

/-- `struct i8042_owner`. -/
structure I8042Owner where
  (contextIdentity ownerIdentity inputSourceIdentity generation inputSourceGeneration : ℕ)
  (keyboardModeGeneration nextEventSequence outputOverflowCount eventOverflowCount suppressedResetRequests : ℕ)
  unsupportedCommandCount : ℕ
  inputCapabilities : BitVec 32
  outputFifo : Fifo I8042OutputEntry 16
  eventFifo : Fifo I8042Event 16
  (commandByte inputPort outputPort : BitVec 8)
  pendingCommand : I8042PendingCommand
  pendingIrqMask : BitVec 8
  (keyboardPresent auxiliaryPresent keyboardScanningEnabled : ℕ)
  (keyboardScanSet keyboardLeds keyboardTypematic : BitVec 8)
  (keyboardUnlocked keyboardIdLength : ℕ)
  (keyboardIdFirst keyboardIdSecond auxiliaryId : BitVec 8)
  lastWriteCommand : ℕ
  lastKeyboardReply : BitVec 8
  phase : I8042Phase
  inputSourcePhase : I8042InputPhase

namespace I8042

def generationMax : ℕ := 2 ^ 64 - 2
def inputGenerationMax : ℕ := 2 ^ 64 - 2
def modeGenerationMax : ℕ := 2 ^ 64 - 2
def eventSequenceMax : ℕ := 2 ^ 64 - 2
def outputFifoCapacity : ℕ := 16
def eventFifoCapacity : ℕ := 16
def resourceCount : ℕ := 2

def dataPort : UInt16 := 0x60
def statusPort : UInt16 := 0x64
def commandPort : UInt16 := statusPort

def statusOutputFull : BitVec 8 := 0x01
def statusSystem : BitVec 8 := 0x04
def statusCommand : BitVec 8 := 0x08
def statusKeyUnlocked : BitVec 8 := 0x10
def statusAuxiliary : BitVec 8 := 0x20

def commandByteIrq1 : BitVec 8 := 0x01
def commandByteIrq12 : BitVec 8 := 0x02
def commandByteSystem : BitVec 8 := 0x04
def commandByteIgnoreLock : BitVec 8 := 0x08
def commandByteKeyboardDisabled : BitVec 8 := 0x10
def commandByteAuxiliaryDisabled : BitVec 8 := 0x20
def commandByteTranslate : BitVec 8 := 0x40

def outputPortResetHigh : BitVec 8 := 0x01
def outputPortA20 : BitVec 8 := 0x02

def inputKeyboard : BitVec 32 := 0x1
def inputAuxiliary : BitVec 32 := 0x2
def inputCapabilities : BitVec 32 := 0x3

def pendingIrq1 : BitVec 8 := 0x01
def pendingIrq12 : BitVec 8 := 0x02

def responseControllerOk : BitVec 8 := 0x55
def responsePortOk : BitVec 8 := 0x00
def responseAck : BitVec 8 := 0xfa
def responseResend : BitVec 8 := 0xfe
def responseBatOk : BitVec 8 := 0xaa

/-- `saturating_increment`. -/
def saturatingIncrement (value : ℕ) : ℕ := if value = 2 ^ 64 - 1 then value else value + 1

/-- `config_is_valid`. -/
def configIsValid (config : I8042Config) : Prop :=
  config.reserved.all (· == 0) ∧ config.keyboardPresent ≤ 1 ∧ config.auxiliaryPresent ≤ 1 ∧
    config.keyboardScanningEnabled ≤ 1 ∧ config.keyboardUnlocked ≤ 1 ∧ config.keyboardScanSet ≠ 0 ∧
    config.keyboardScanSet.toNat ≤ 3 ∧ config.keyboardIdLength ≤ 2 ∧ config.outputPort &&& outputPortResetHigh ≠ 0 ∧
    (config.keyboardPresent = 0 → config.keyboardScanningEnabled = 0 ∧ config.commandByte &&& commandByteIrq1 = 0 ∧
      config.commandByte &&& commandByteKeyboardDisabled ≠ 0) ∧
    (config.auxiliaryPresent = 0 → config.commandByte &&& commandByteIrq12 = 0 ∧
      config.commandByte &&& commandByteAuxiliaryDisabled ≠ 0)
deriving Decidable

/-- `input_config_is_valid`. -/
def inputConfigIsValid (config : I8042InputConfig) : Prop :=
  config.capabilities ≠ 0 ∧ config.capabilities &&& ~~~inputCapabilities = 0 ∧ config.reserved.all (· == 0)
deriving Decidable

/-- `keyboard_mode_is_valid`. -/
def keyboardModeIsValid (mode : I8042KeyboardMode) : Prop :=
  identityIsValid mode.sourceIdentity ∧ mode.controllerGeneration ≠ 0 ∧ mode.sourceGeneration ≠ 0 ∧
    mode.modeGeneration ≠ 0 ∧ mode.scanSet ≠ 0 ∧ mode.scanSet.toNat ≤ 3 ∧ mode.translationEnabled ≤ 1 ∧
    mode.scanningEnabled ≤ 1 ∧ mode.interfaceEnabled ≤ 1 ∧ mode.reserved.all (· == 0)
deriving Decidable

/-- `source_irq_mask`. -/
def sourceIrqMask : I8042OutputSource → BitVec 8
  | .keyboard => pendingIrq1
  | .auxiliary => pendingIrq12
  | .controller => 0

/-- `command_byte_source_irq_enabled`. -/
def commandByteSourceIrqEnabled (commandByte : BitVec 8) : I8042OutputSource → Bool
  | .keyboard => commandByte &&& commandByteIrq1 != 0 && commandByte &&& commandByteKeyboardDisabled == 0
  | .auxiliary => commandByte &&& commandByteIrq12 != 0 && commandByte &&& commandByteAuxiliaryDisabled == 0
  | .controller => false

section Owner

variable (owner : I8042Owner)

/-- `keyboard_mode_epoch_available`. -/
def keyboardModeEpochAvailable (changing : Bool) : Bool :=
  !changing || owner.keyboardModeGeneration < modeGenerationMax

/-- `keyboard_mode_epoch_commit`. -/
def keyboardModeEpochCommit (changing : Bool) : I8042Owner :=
  if changing then { owner with keyboardModeGeneration := owner.keyboardModeGeneration + 1 } else owner

/-- `source_irq_enabled`. -/
def sourceIrqEnabled (source : I8042OutputSource) : Bool := commandByteSourceIrqEnabled owner.commandByte source

/-- `event_has_capacity`. -/
def eventHasCapacity : Bool := owner.eventFifo.count < eventFifoCapacity && owner.nextEventSequence < eventSequenceMax

/-- `irq_event_needs_slot`. -/
def irqEventNeedsSlot (source : I8042OutputSource) : Bool :=
  sourceIrqEnabled owner source && owner.pendingIrqMask &&& sourceIrqMask source == 0

/-- `output_has_capacity`. -/
def outputHasCapacity (count : ℕ) : Bool :=
  count ≤ outputFifoCapacity && owner.outputFifo.count ≤ outputFifoCapacity - count

def countOutputOverflow : I8042Owner :=
  { owner with outputOverflowCount := saturatingIncrement owner.outputOverflowCount }

def countEventOverflow : I8042Owner :=
  { owner with eventOverflowCount := saturatingIncrement owner.eventOverflowCount }

/-- `controller_status`. -/
def controllerStatus : BitVec 8 :=
  (if owner.outputFifo.count ≠ 0 then
    statusOutputFull ||| (if (owner.outputFifo.entry 0).source = .auxiliary then statusAuxiliary else 0)
   else 0) |||
  (if owner.commandByte &&& commandByteSystem ≠ 0 then statusSystem else 0) |||
  (if owner.lastWriteCommand ≠ 0 then statusCommand else 0) |||
  (if owner.keyboardUnlocked ≠ 0 ∨ owner.commandByte &&& commandByteIgnoreLock ≠ 0 then statusKeyUnlocked else 0)

end Owner

/-- A function of the source returned false. -/
inductive Refusal where
  | refused

abbrev Attempt := EStateM Refusal I8042Owner

/-- Count an overflow and return false. -/
def refuseWhen (condition : Prop) [Decidable condition] (count : I8042Owner → I8042Owner) : Attempt Unit :=
  if condition then do modify count; throw .refused else pure ()

/-- The pending bit of an IRQ line. -/
def irqMask (irq : ℕ) : BitVec 8 := if irq = 1 then pendingIrq1 else pendingIrq12

/-- The pending bits that an event of a kind concerns. -/
def eventMask (kind : I8042EventKind) (irq : ℕ) : BitVec 8 := if kind = .irqRequest then irqMask irq else 0

variable (owner : I8042Owner)

/-- Append an event and mark its line. -/
def appendEvent (kind : I8042EventKind) (irq : ℕ) (a20Enabled : Bool) : I8042Owner :=
  { owner with
    eventFifo := owner.eventFifo.push ⟨owner.generation, owner.nextEventSequence + 1, kind, irq, a20Enabled⟩
    nextEventSequence := owner.nextEventSequence + 1
    pendingIrqMask := owner.pendingIrqMask ||| eventMask kind irq }

/-- `enqueue_event`. -/
def enqueueEvent (kind : I8042EventKind) (irq : ℕ) (a20Enabled : Bool) : Attempt Unit := do
  let owner ← get
  if kind = .irqRequest ∧ owner.pendingIrqMask &&& irqMask irq ≠ 0 then pure ()
  else do
    refuseWhen (eventHasCapacity owner = false) countEventOverflow
    modify fun owner => appendEvent owner kind irq a20Enabled

variable (source : I8042OutputSource)

/-- The line of a source. -/
def sourceIrq : ℕ := if source = .keyboard then 1 else 12

/-- `enqueue_irq_for_source`. -/
def enqueueIrqForSource : Attempt Unit := do
  let owner ← get
  if sourceIrqEnabled owner source = false then pure ()
  else enqueueEvent .irqRequest (sourceIrq source) false

/-- The last part of `enqueue_output`: the first byte of an empty queue raises its line. -/
def announceOutput (count : ℕ) : Attempt Unit := do
  let owner ← get
  if owner.outputFifo.count = count then do
    match ← attempt (enqueueIrqForSource source) with
    | .ok () => pure ()
    | .error _ => do
      modify fun owner => { owner with outputFifo := owner.outputFifo.clear }
      throw .refused
  else pure ()

/-- `enqueue_output`. -/
def enqueueOutput (values : List (BitVec 8)) : Attempt Unit := do
  let owner ← get
  refuseWhen (values.length = 0 ∨ outputHasCapacity owner values.length = false) countOutputOverflow
  refuseWhen (owner.outputFifo.count = 0 ∧ irqEventNeedsSlot owner source = true ∧ eventHasCapacity owner = false)
    countEventOverflow
  modify fun owner => { owner with outputFifo := owner.outputFifo.pushAll (values.map (⟨·, source⟩)) }
  announceOutput source values.length

/-- `queue_keyboard_reply`. -/
def queueKeyboardReply (reply : List (BitVec 8)) : Attempt Unit := do
  enqueueOutput .keyboard reply
  modify fun owner => { owner with lastKeyboardReply := reply.getLastD 0 }

/-- What a byte sent to the keyboard comes to: the mode may change, the reply is queued, the state follows. -/
structure KeyboardStep where
  modeChanging : Bool := false
  reply : List (BitVec 8)
  effect : I8042Owner → I8042Owner := id

/-- The common shape of the cases of `keyboard_parameter` and `keyboard_command`. -/
def KeyboardStep.run (step : KeyboardStep) : Attempt Unit := do
  let owner ← get
  failWhen (keyboardModeEpochAvailable owner step.modeChanging = false) .refused
  queueKeyboardReply step.reply
  modify fun owner => keyboardModeEpochCommit (step.effect owner) step.modeChanging

variable (value : BitVec 8)

/-- The cases of `keyboard_parameter`. -/
def keyboardParameterStep : Option KeyboardStep :=
  match owner.pendingCommand with
  | .keyboardLeds => some {
      reply := [responseAck], effect := fun owner => { owner with keyboardLeds := value &&& 0x07 } }
  | .keyboardTypematic => some {
      reply := [responseAck], effect := fun owner => { owner with keyboardTypematic := value } }
  | .keyboardScanSet =>
    if value = 0 then some { reply := [responseAck, owner.keyboardScanSet] }
    else if value.toNat ≤ 3 then some {
      modeChanging := owner.keyboardScanSet != value
      reply := [responseAck], effect := fun owner => { owner with keyboardScanSet := value } }
    else some { reply := [responseResend] }
  | _ => none

/-- `keyboard_parameter`. -/
def keyboardParameter : Attempt Unit := do
  let owner ← get
  let step ← demand (keyboardParameterStep owner value) .refused
  step.run
  modify fun owner => { owner with pendingCommand := .none }

variable (command : BitVec 8)

/-- The cases of `keyboard_command`. -/
def keyboardCommandStep : KeyboardStep :=
  match command.toNat with
  | 0xed => { reply := [responseAck], effect := fun owner => { owner with pendingCommand := .keyboardLeds } }
  | 0xee => { reply := [0xee] }
  | 0xf0 => { reply := [responseAck], effect := fun owner => { owner with pendingCommand := .keyboardScanSet } }
  | 0xf2 => { reply := [responseAck, owner.keyboardIdFirst, owner.keyboardIdSecond].take (1 + owner.keyboardIdLength) }
  | 0xf3 => { reply := [responseAck], effect := fun owner => { owner with pendingCommand := .keyboardTypematic } }
  | 0xf4 => {
      modeChanging := owner.keyboardScanningEnabled == 0, reply := [responseAck]
      effect := fun owner => { owner with keyboardScanningEnabled := 1 } }
  | 0xf5 => {
      modeChanging := owner.keyboardScanningEnabled != 0, reply := [responseAck]
      effect := fun owner => { owner with keyboardScanningEnabled := 0 } }
  | 0xf6 => {
      modeChanging := owner.keyboardScanningEnabled != 0 || owner.keyboardScanSet != 2, reply := [responseAck]
      effect := fun owner => { owner with
        keyboardScanningEnabled := 0, keyboardScanSet := 2, keyboardLeds := 0, keyboardTypematic := 0 } }
  | 0xfe => { reply := [owner.lastKeyboardReply] }
  | 0xff => {
      modeChanging := owner.keyboardScanningEnabled == 0 || owner.keyboardScanSet != 2
      reply := [responseAck, responseBatOk]
      effect := fun owner => { owner with
        keyboardScanningEnabled := 1, keyboardScanSet := 2, keyboardLeds := 0, keyboardTypematic := 0 } }
  | _ => {
      reply := [responseResend]
      effect := fun owner => { owner with
        unsupportedCommandCount := saturatingIncrement owner.unsupportedCommandCount } }

/-- `keyboard_command`. -/
def keyboardCommand : Attempt Unit := do
  let owner ← get
  if owner.keyboardPresent = 0 then pure () else (keyboardCommandStep owner command).run

/-- The reply of the auxiliary device and the command that is pending after it. -/
def auxiliaryStep : List (BitVec 8) × I8042PendingCommand :=
  if owner.pendingCommand = .auxiliaryParameter then ([responseAck], .none)
  else if command = 0xff then ([responseAck, responseBatOk, owner.auxiliaryId], owner.pendingCommand)
  else if command = 0xf2 then ([responseAck, owner.auxiliaryId], owner.pendingCommand)
  else if command = 0xe8 ∨ command = 0xf3 then ([responseAck], .auxiliaryParameter)
  else ([responseAck], owner.pendingCommand)

/-- `auxiliary_command`. -/
def auxiliaryCommand : Attempt Unit := do
  let owner ← get
  if owner.auxiliaryPresent = 0 then pure ()
  else do
    enqueueOutput .auxiliary (auxiliaryStep owner command).1
    modify fun state => { state with pendingCommand := (auxiliaryStep owner command).2 }

/-- `value & X86_I8042_OUTPUT_PORT_A20`. -/
def drivesA20 : Bool := value &&& outputPortA20 != 0

/-- The part of `set_output_port` that keeps the guest from pulling the reset line. -/
def suppressReset : I8042Owner :=
  if value &&& outputPortResetHigh = 0 then
    { owner with suppressedResetRequests := saturatingIncrement owner.suppressedResetRequests }
  else owner

/-- The part of `set_output_port` that reports the A20 line. -/
def announceA20 (changed enabled : Bool) : Attempt Unit :=
  if changed then enqueueEvent .a20Change 0 enabled else pure ()

/-- `set_output_port`. -/
def setOutputPort : Attempt Unit := do
  let owner ← get
  let changed := drivesA20 value != drivesA20 owner.outputPort
  refuseWhen (changed = true ∧ eventHasCapacity owner = false) countEventOverflow
  modify fun owner => suppressReset owner value
  announceA20 changed (drivesA20 value)
  modify fun owner => { owner with outputPort := value ||| outputPortResetHigh }

/-- The source of the byte at the head of the output; a controller byte stands for none. -/
def headSource : I8042OutputSource :=
  if owner.outputFifo.count ≠ 0 then (owner.outputFifo.entry 0).source else .controller

/-- The last part of `write_command_byte`. -/
def announceHead : Attempt Unit := do
  let owner ← get
  if owner.outputFifo.count = 0 then pure () else enqueueIrqForSource source

/-- `write_command_byte`. -/
def writeCommandByte : Attempt Unit := do
  let owner ← get
  let modeChanging := (owner.commandByte ^^^ value) &&& (commandByteKeyboardDisabled ||| commandByteTranslate) != 0
  failWhen (keyboardModeEpochAvailable owner modeChanging = false) .refused
  refuseWhen (owner.outputFifo.count ≠ 0 ∧ commandByteSourceIrqEnabled value (headSource owner) = true ∧
    owner.pendingIrqMask &&& sourceIrqMask (headSource owner) = 0 ∧ eventHasCapacity owner = false) countEventOverflow
  modify fun owner => keyboardModeEpochCommit { owner with commandByte := value } modeChanging
  announceHead (headSource owner)

/-- A data byte goes where the pending command sends it. -/
def routeData (pending : I8042PendingCommand) (value : BitVec 8) : Attempt Unit :=
  match pending with
  | .commandByte => writeCommandByte value
  | .outputPort => setOutputPort value
  | .keyboardOutput => enqueueOutput .keyboard [value]
  | .auxiliaryOutput => enqueueOutput .auxiliary [value]
  | .auxiliaryCommand | .auxiliaryParameter => auxiliaryCommand value
  | .keyboardLeds | .keyboardScanSet | .keyboardTypematic => keyboardParameter value
  | .none => keyboardCommand value

/-- The commands of the controller that take one data byte. -/
def takesDataByte : I8042PendingCommand → Bool
  | .commandByte | .outputPort | .keyboardOutput | .auxiliaryOutput => true
  | _ => false

/-- `write_data`. -/
def writeData : Attempt Unit := do
  let owner ← get
  routeData owner.pendingCommand value
  modify fun state => { state with
    pendingCommand := if takesDataByte owner.pendingCommand then .none else state.pendingCommand
    lastWriteCommand := 0 }

/-- `queue_controller_byte`. -/
def queueControllerByte : Attempt Unit := enqueueOutput .controller [value]

/-- The commands of the controller, before the write is noted. -/
def routeCommand (command : BitVec 8) : Attempt Unit :=
  match command.toNat with
  | 0x20 => queueControllerByte owner.commandByte
  | 0x60 => modify fun owner => { owner with pendingCommand := .commandByte }
  | 0xa7 => modify fun owner => { owner with commandByte := owner.commandByte ||| commandByteAuxiliaryDisabled }
  | 0xa8 => writeCommandByte (owner.commandByte &&& ~~~commandByteAuxiliaryDisabled)
  | 0xa9 => queueControllerByte (if owner.auxiliaryPresent ≠ 0 then responsePortOk else 0xff)
  | 0xaa => do
    queueControllerByte responseControllerOk
    modify fun owner => { owner with commandByte := owner.commandByte ||| commandByteSystem }
  | 0xab => queueControllerByte (if owner.keyboardPresent ≠ 0 then responsePortOk else 0xff)
  | 0xad => writeCommandByte (owner.commandByte ||| commandByteKeyboardDisabled)
  | 0xae => writeCommandByte (owner.commandByte &&& ~~~commandByteKeyboardDisabled)
  | 0xc0 => queueControllerByte owner.inputPort
  | 0xd0 => queueControllerByte owner.outputPort
  | 0xd1 => modify fun owner => { owner with pendingCommand := .outputPort }
  | 0xd2 => modify fun owner => { owner with pendingCommand := .keyboardOutput }
  | 0xd3 => modify fun owner => { owner with pendingCommand := .auxiliaryOutput }
  | 0xd4 => modify fun owner => { owner with pendingCommand := .auxiliaryCommand }
  | 0xdd => setOutputPort (owner.outputPort &&& ~~~outputPortA20)
  | 0xdf => setOutputPort (owner.outputPort ||| outputPortA20)
  | 0xfe => modify fun owner => { owner with
      suppressedResetRequests := saturatingIncrement owner.suppressedResetRequests }
  | _ => modify fun owner => { owner with
      unsupportedCommandCount := saturatingIncrement owner.unsupportedCommandCount }

/-- `write_command`. -/
def writeCommand (command : BitVec 8) : Attempt Unit := do
  let owner ← get
  routeCommand owner command
  modify fun owner => { owner with lastWriteCommand := 1 }

/-- How a port callback fails. -/
inductive PortFailure where
  | denied
  | fault
deriving DecidableEq

/-- A flag that is false becomes a fault. -/
def faults (action : Attempt Unit) : EStateM PortFailure I8042Owner Unit := mapError (fun _ => .fault) action

/-- The part of `i8042_read` that takes a byte from the output. -/
def readOutput : Attempt (BitVec 8) := do
  let owner ← get
  refuseWhen (owner.outputFifo.count > 1 ∧ irqEventNeedsSlot owner (owner.outputFifo.entry 1).source = true ∧
    eventHasCapacity owner = false) countEventOverflow
  modify fun owner => { owner with outputFifo := owner.outputFifo.pop }
  announceHead (headSource { owner with outputFifo := owner.outputFifo.pop })
  pure (owner.outputFifo.entry 0).value

/-- `i8042_read`. -/
def read (context : ℕ) (port : UInt16) (width : ℕ) : EStateM PortFailure I8042Owner (BitVec 8) := do
  failWhen (width ≠ 1 ∨ (port ≠ dataPort ∧ port ≠ statusPort)) .denied
  let owner ← get
  failWhen (owner.phase ≠ .active ∨ owner.contextIdentity ≠ context) .fault
  if port = statusPort then pure (controllerStatus owner)
  else if owner.outputFifo.count = 0 then pure 0xff
  else mapError (fun _ => .fault) readOutput

/-- `i8042_write`. -/
def write (context : ℕ) (port : UInt16) (width value : ℕ) : EStateM PortFailure I8042Owner Unit := do
  failWhen (width ≠ 1 ∨ value > 0xff ∨ (port ≠ dataPort ∧ port ≠ commandPort)) .denied
  let owner ← get
  failWhen (owner.phase ≠ .active ∨ owner.contextIdentity ≠ context) .fault
  if port = commandPort then faults (writeCommand (BitVec.ofNat 8 value)) else faults (writeData (BitVec.ofNat 8 value))

abbrev I8042M := EStateM I8042Error I8042Owner

/-- The owner with every byte zero but its generation. -/
def emptyOwner (generation : ℕ) : I8042Owner where
  contextIdentity := 0
  ownerIdentity := 0
  inputSourceIdentity := 0
  generation := generation
  inputSourceGeneration := 0
  keyboardModeGeneration := 0
  nextEventSequence := 0
  outputOverflowCount := 0
  eventOverflowCount := 0
  suppressedResetRequests := 0
  unsupportedCommandCount := 0
  inputCapabilities := 0
  outputFifo := Fifo.empty ⟨0, .controller⟩ (by decide)
  eventFifo := Fifo.empty ⟨0, 0, .none, 0, false⟩ (by decide)
  commandByte := 0
  inputPort := 0
  outputPort := 0
  pendingCommand := .none
  pendingIrqMask := 0
  keyboardPresent := 0
  auxiliaryPresent := 0
  keyboardScanningEnabled := 0
  keyboardScanSet := 0
  keyboardLeds := 0
  keyboardTypematic := 0
  keyboardUnlocked := 0
  keyboardIdLength := 0
  keyboardIdFirst := 0
  keyboardIdSecond := 0
  auxiliaryId := 0
  lastWriteCommand := 0
  lastKeyboardReply := 0
  phase := .empty
  inputSourcePhase := .empty

variable (contextIdentity ownerIdentity : ℕ)

/-- The owner that `x86_i8042_prepare` stores. -/
def preparedOwner (config : I8042Config) (generation : ℕ) : I8042Owner :=
  { emptyOwner generation with
    contextIdentity, ownerIdentity, inputSourceIdentity := kernelObjectHandleInvalid, keyboardModeGeneration := 1
    commandByte := config.commandByte, inputPort := config.inputPort, outputPort := config.outputPort
    keyboardPresent := config.keyboardPresent, auxiliaryPresent := config.auxiliaryPresent
    keyboardScanningEnabled := config.keyboardScanningEnabled, keyboardScanSet := config.keyboardScanSet
    keyboardUnlocked := config.keyboardUnlocked, keyboardLeds := config.keyboardLeds
    keyboardTypematic := config.keyboardTypematic, keyboardIdLength := config.keyboardIdLength
    keyboardIdFirst := config.keyboardIdFirst, keyboardIdSecond := config.keyboardIdSecond
    auxiliaryId := config.auxiliaryId, lastKeyboardReply := responseResend, phase := .prepared }

/-- `x86_i8042_prepare`, without the port descriptors it fills in. -/
def prepare (config : I8042Config) (descriptorCapacity : ℕ) : I8042M Unit := do
  failWhen (¬ identityIsValid contextIdentity ∨ ¬ identityIsValid ownerIdentity ∨ contextIdentity = ownerIdentity ∨
    ¬ configIsValid config) .invalidArgument
  failWhen (descriptorCapacity < resourceCount) .capacityExhausted
  let owner ← get
  failWhen (owner.phase = .poisoned) .poisoned
  failWhen (owner.phase ≠ .empty) .invalidState
  failWhen (owner.generation ≥ generationMax) .capacityExhausted
  set (preparedOwner contextIdentity ownerIdentity config (owner.generation + 1))

/-- The checks that `publish` and `abort` share. -/
def requirePrepared : I8042M Unit := do
  failWhen (¬ identityIsValid contextIdentity) .invalidArgument
  let owner ← get
  failWhen (owner.phase = .poisoned) .poisoned
  failWhen (owner.contextIdentity ≠ contextIdentity) .identityMismatch
  failWhen (owner.phase ≠ .prepared) .invalidState

/-- `x86_i8042_publish`. -/
def publish : I8042M Unit := do
  requirePrepared contextIdentity
  modify fun owner => { owner with phase := .active }

/-- `x86_i8042_abort`. -/
def abort : I8042M Unit := do
  requirePrepared contextIdentity
  modify fun owner => emptyOwner owner.generation

/-- `x86_i8042_poison`. -/
def poison : I8042M Unit := do
  failWhen (¬ identityIsValid contextIdentity) .invalidArgument
  let owner ← get
  failWhen (owner.contextIdentity ≠ contextIdentity) .identityMismatch
  failWhen (owner.phase = .empty) .invalidState
  modify fun owner => { owner with phase := .poisoned }

/-- `x86_i8042_input_bind`. -/
def inputBind (contextIdentity ownerIdentity sourceIdentity : ℕ) (config : I8042InputConfig) :
    I8042M I8042InputBinding := do
  failWhen (¬ identityIsValid contextIdentity ∨ ¬ identityIsValid ownerIdentity ∨ ¬ identityIsValid sourceIdentity ∨
    sourceIdentity = contextIdentity ∨ sourceIdentity = ownerIdentity ∨ ¬ inputConfigIsValid config) .invalidArgument
  let owner ← get
  failWhen (owner.phase = .poisoned) .poisoned
  failWhen (owner.contextIdentity ≠ contextIdentity ∨ owner.ownerIdentity ≠ ownerIdentity) .identityMismatch
  failWhen (owner.phase ≠ .active ∨ owner.inputSourcePhase ≠ .empty) .invalidState
  failWhen (owner.inputSourceGeneration ≥ inputGenerationMax) .capacityExhausted
  failWhen ((config.capabilities &&& inputKeyboard ≠ 0 ∧ owner.keyboardPresent = 0) ∨
    (config.capabilities &&& inputAuxiliary ≠ 0 ∧ owner.auxiliaryPresent = 0)) .invalidArgument
  set { owner with
    inputSourceIdentity := sourceIdentity, inputSourceGeneration := owner.inputSourceGeneration + 1
    inputCapabilities := config.capabilities, inputSourcePhase := .active }
  pure ⟨contextIdentity, ownerIdentity, owner.generation, sourceIdentity, owner.inputSourceGeneration + 1,
    config.capabilities, [0, 0, 0, 0]⟩

variable (binding : I8042InputBinding)

/-- `input_binding_status`. -/
def inputBindingStatus : I8042M Unit := do
  failWhen (¬ identityIsValid contextIdentity ∨ ¬ identityIsValid ownerIdentity ∨
    ¬ identityIsValid binding.contextIdentity ∨ ¬ identityIsValid binding.ownerIdentity ∨
    ¬ identityIsValid binding.sourceIdentity ∨ binding.capabilities = 0 ∨
    binding.capabilities &&& ~~~inputCapabilities ≠ 0 ∨ binding.reserved.any (· != 0)) .invalidArgument
  let owner ← get
  failWhen (owner.phase = .poisoned) .poisoned
  failWhen (owner.contextIdentity ≠ contextIdentity ∨ owner.ownerIdentity ≠ ownerIdentity ∨
    binding.contextIdentity ≠ contextIdentity ∨ binding.ownerIdentity ≠ ownerIdentity) .identityMismatch
  failWhen (owner.phase ≠ .active) .invalidState
  failWhen (binding.controllerGeneration ≠ owner.generation ∨
    binding.sourceGeneration ≠ owner.inputSourceGeneration ∨ owner.inputSourcePhase = .empty) .staleBinding
  failWhen (owner.inputSourceIdentity ≠ binding.sourceIdentity) .identityMismatch
  failWhen (owner.inputCapabilities ≠ binding.capabilities) .staleBinding

/-- A bound input source changes its phase. -/
def changeInputPhase (required : I8042InputPhase) (change : I8042Owner → I8042Owner) : I8042M Unit := do
  inputBindingStatus contextIdentity ownerIdentity binding
  let owner ← get
  failWhen (owner.inputSourcePhase ≠ required) .invalidState
  modify change

/-- `x86_i8042_input_quiesce`. -/
def inputQuiesce : I8042M Unit :=
  changeInputPhase contextIdentity ownerIdentity binding .active fun owner =>
    { owner with inputSourcePhase := .quiesced }

/-- `x86_i8042_input_resume`. -/
def inputResume : I8042M Unit :=
  changeInputPhase contextIdentity ownerIdentity binding .quiesced fun owner =>
    { owner with inputSourcePhase := .active }

/-- `x86_i8042_input_unbind`. -/
def inputUnbind : I8042M Unit :=
  changeInputPhase contextIdentity ownerIdentity binding .quiesced fun owner =>
    { owner with
      inputSourceIdentity := kernelObjectHandleInvalid, inputCapabilities := 0, inputSourcePhase := .empty }

/-- `active_input_binding`. -/
def activeInputBinding : I8042M Unit := do
  inputBindingStatus binding.contextIdentity binding.ownerIdentity binding
  let owner ← get
  failWhen (owner.inputSourcePhase ≠ .active) .invalidState

/-- One for a bit that is set. -/
def bitValue (bit : Bool) : ℕ := if bit then 1 else 0

/-- The mode that `x86_i8042_input_keyboard_mode` reports. -/
def currentMode : I8042KeyboardMode :=
  ⟨owner.inputSourceIdentity, owner.generation, owner.inputSourceGeneration, owner.keyboardModeGeneration,
    owner.keyboardScanSet, bitValue (owner.commandByte &&& commandByteTranslate != 0), owner.keyboardScanningEnabled,
    bitValue (owner.commandByte &&& commandByteKeyboardDisabled == 0), [0, 0, 0, 0]⟩

/-- `x86_i8042_input_keyboard_mode`. -/
def inputKeyboardMode : I8042M I8042KeyboardMode := do
  activeInputBinding binding
  let owner ← get
  failWhen (owner.inputCapabilities &&& inputKeyboard = 0 ∨ owner.keyboardPresent = 0) .invalidArgument
  pure (currentMode owner)

variable (mode : I8042KeyboardMode)

/-- `keyboard_mode_matches_owner`. -/
def keyboardModeMatchesOwner : Prop :=
  mode.sourceIdentity = owner.inputSourceIdentity ∧ mode.controllerGeneration = owner.generation ∧
    mode.sourceGeneration = owner.inputSourceGeneration ∧ mode.modeGeneration = owner.keyboardModeGeneration ∧
    mode.scanSet = owner.keyboardScanSet ∧
    mode.translationEnabled = bitValue (owner.commandByte &&& commandByteTranslate != 0) ∧
    mode.scanningEnabled = owner.keyboardScanningEnabled ∧
    mode.interfaceEnabled = bitValue (owner.commandByte &&& commandByteKeyboardDisabled == 0)
deriving Decidable

/-- `x86_i8042_input_inject_keyboard_sequence`. -/
def inputInjectKeyboardSequence (values : List (BitVec 8)) (valuesCapacity : ℕ) : I8042M Unit := do
  failWhen (¬ keyboardModeIsValid mode ∨ values.length = 0 ∨ values.length > valuesCapacity) .invalidArgument
  activeInputBinding binding
  let owner ← get
  failWhen (owner.inputCapabilities &&& inputKeyboard = 0 ∨ owner.keyboardPresent = 0) .invalidArgument
  failWhen (¬ keyboardModeMatchesOwner owner mode) .modeChanged
  failWhen (owner.keyboardScanningEnabled = 0 ∨ owner.commandByte &&& commandByteKeyboardDisabled ≠ 0) .inputDisabled
  mapError (fun _ => .capacityExhausted) (enqueueOutput .keyboard values)

/-- `x86_i8042_input_inject_keyboard`. -/
def inputInjectKeyboard (value : BitVec 8) : I8042M Unit :=
  inputInjectKeyboardSequence binding mode [value] 1

/-- `x86_i8042_input_inject_sequence`. -/
def inputInjectSequence (kind : I8042InputKind) (values : List (BitVec 8)) (valuesCapacity : ℕ) : I8042M Unit := do
  failWhen (values.length = 0 ∨ values.length > valuesCapacity ∨ kind ≠ .auxiliaryByte) .invalidArgument
  activeInputBinding binding
  let owner ← get
  failWhen (owner.inputCapabilities &&& inputAuxiliary = 0 ∨ owner.auxiliaryPresent = 0) .invalidArgument
  failWhen (owner.commandByte &&& commandByteAuxiliaryDisabled ≠ 0) .inputDisabled
  mapError (fun _ => .capacityExhausted) (enqueueOutput .auxiliary values)

/-- `x86_i8042_input_inject`. -/
def inputInject (kind : I8042InputKind) (value : BitVec 8) : I8042M Unit :=
  inputInjectSequence binding kind [value] 1

/-- `active_owner`. -/
def activeOwner : I8042M Unit := do
  failWhen (¬ identityIsValid contextIdentity ∨ ¬ identityIsValid ownerIdentity) .invalidArgument
  let owner ← get
  failWhen (owner.phase = .poisoned) .poisoned
  failWhen (owner.contextIdentity ≠ contextIdentity ∨ owner.ownerIdentity ≠ ownerIdentity) .identityMismatch
  failWhen (owner.phase ≠ .active) .invalidState

/-- `x86_i8042_event_peek`. -/
def eventPeek : I8042M I8042Event := do
  activeOwner contextIdentity ownerIdentity
  let owner ← get
  failWhen (owner.eventFifo.count = 0) .noEvent
  pure (owner.eventFifo.entry 0)

/-- `x86_i8042_event_consume`. -/
def eventConsume (contextIdentity ownerIdentity sequence : ℕ) : I8042M Unit := do
  activeOwner contextIdentity ownerIdentity
  let owner ← get
  failWhen (owner.eventFifo.count = 0) .noEvent
  let event := owner.eventFifo.entry 0
  failWhen (sequence = 0 ∨ event.sequence ≠ sequence) .staleEvent
  set { owner with
    pendingIrqMask := owner.pendingIrqMask &&& ~~~eventMask event.kind event.irq, eventFifo := owner.eventFifo.pop }

end I8042

end DosC32
