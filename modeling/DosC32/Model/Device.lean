import DosC32.Core.Bitmap
import DosC32.Core.Reentry
import DosC32.Model.Manager

/-! # Named character devices

`storage/core/device.c`: the registry of named devices and the table of their open instances. Driver callbacks
run in the middle of the procedures and may enter the registry again, so the procedures that call a driver are
`Reentry` procedures. Callback entry points and buffers are addresses that are handed on to the driver; what a
driver does with a buffer is not tracked here.
-/

namespace DosC32

open Effect Reentry Bitmap

/-- `IOMGR_DEVICE_GENERATION_LIMIT`. -/
def deviceGenerationLimit : UInt32 := 0xffffffff

def deviceHandleKindMask : UInt32 := 0xc0000000
def deviceRegistrationKind : UInt32 := 0x40000000
def deviceInstanceKind : UInt32 := 0x80000000
def deviceHandleSlotMask : UInt32 := 0x3fffffff

/-- `IOMGR_DEVICE_HANDLE_INVALID`, also the invalid registration handle and driver context. -/
def deviceHandleInvalid : UInt64 := 0xffffffffffffffff

def deviceNameMaxBytes : ℕ := 64
def deviceAbiVersion : UInt32 := 1

def deviceCapRead : BitVec 32 := 1#32
def deviceCapWrite : BitVec 32 := 2#32
def deviceCapControl : BitVec 32 := 4#32

/-- `IOMGR_DEVICE_CAPABILITY_MASK`. -/
def deviceCapabilityMask : BitVec 32 := deviceCapRead ||| deviceCapWrite ||| deviceCapControl

def deviceStateReadReady : BitVec 32 := 1#32
def deviceStateWriteReady : BitVec 32 := 2#32
def deviceStateEndOfInput : BitVec 32 := 4#32

/-- `IOMGR_DEVICE_STATE_MASK`. -/
def deviceStateMask : BitVec 32 := deviceStateReadReady ||| deviceStateWriteReady ||| deviceStateEndOfInput

/-- `enum iomgr_device_callback_status`; `unknown` is any value outside the enumeration. -/
inductive DeviceCallbackStatus where
  | ok
  | invalidArgument
  | busy
  | unsupported
  | ioError
  | noSpace
  | noResources
  | uncertain
  | unknown
deriving DecidableEq

/-- `struct iomgr_device_query_result`. -/
structure DeviceQueryResult where
  pendingReadBytes : UInt64 := 0
  state : BitVec 32 := 0
  reserved : UInt32 := 0

/-- `struct iomgr_device_info`. -/
structure DeviceInfo where
  (identity pendingReadBytes : UInt64)
  (capabilities state : BitVec 32)
  name : List UInt8

/-- `struct iomgr_device_ops`; an entry point is `none` where the pointer is null. -/
structure DeviceOps where
  abiVersion : UInt32 := 0
  reserved : UInt32 := 0
  identity : UInt64 := 0
  context : UInt64 := 0
  capabilities : BitVec 32 := 0
  reserved2 : UInt32 := 0
  openEntry : Option ℕ := none
  closeEntry : Option ℕ := none
  readEntry : Option ℕ := none
  writeEntry : Option ℕ := none
  controlEntry : Option ℕ := none
  queryInfoEntry : Option ℕ := none

inductive DeviceRegistrationState where
  | free
  | reserved
  | live
  | retired
deriving DecidableEq

inductive DeviceInstanceState where
  | free
  | reserved
  | live
  | inCallback
  | quarantined
  | retired
deriving DecidableEq

/-- `struct device_registration_slot`; `name` holds the first `name_length` bytes. -/
structure DeviceRegistrationSlot where
  state : DeviceRegistrationState := .free
  generation : UInt32 := 0
  openQuarantined : Bool := false
  name : List UInt8 := []
  ops : DeviceOps := {}

/-- `struct device_instance_slot`. -/
structure DeviceInstanceSlot where
  state : DeviceInstanceState := .free
  generation : UInt32 := 0
  registration : UInt64 := 0
  driverContext : UInt64 := 0

/-- The static `device_manager`. -/
structure DeviceManager where
  initialized : Bool := false
  registrationBitmap : BitVec 32 := 0
  instanceBitmap : BitVec 32 := 0
  registrations : Fin 16 → DeviceRegistrationSlot := fun _ => {}
  instances : Fin 32 → DeviceInstanceSlot := fun _ => {}

/-- The arguments of a driver callback besides the two contexts. -/
inductive DeviceOperation where
  | openDevice
  | closeDevice
  | read (destination : Option ℕ) (capacity count : ℕ)
  | write (source : Option ℕ) (sourceCapacity count : ℕ)
  | control (operation : UInt64) (input : Option ℕ) (inputCapacity inputCount : ℕ) (output : Option ℕ)
      (outputCapacity : ℕ)
  | queryInfo
deriving DecidableEq

/-- A call into a driver. `slot`, `generation` and `registration` say which instance and registration the
caller's own pointers name; the driver does not see them. -/
structure DeviceCallback where
  entry : Option ℕ
  (context driverContext : UInt64)
  operation : DeviceOperation
  slot : Fin 32
  generation : UInt32
  registration : Fin 16

/-- The status of a driver callback and the values it leaves in its out-parameters. -/
structure DeviceAnswer where
  status : DeviceCallbackStatus
  driverContext : UInt64 := deviceHandleInvalid
  completed : ℕ := 0
  query : DeviceQueryResult := {}

abbrev DeviceProcedure := Procedure DeviceCallback DeviceAnswer IomgrError DeviceManager

/-- The low half of a handle, without its kind. -/
def handleSlot (handle : UInt64) : ℕ := (handle.toUInt32 &&& deviceHandleSlotMask).toNat

def makeDeviceHandle (index : ℕ) (generation kind : UInt32) : UInt64 :=
  generation.toUInt64 <<< 32 ||| kind.toUInt64 ||| UInt64.ofNat (index + 1)

/-- The slot and the generation a handle of one kind speaks about. -/
def decodeDeviceHandle (kind : UInt32) (count : ℕ) (handle : UInt64) : Option (Fin count × UInt32) :=
  let generation := (handle >>> 32).toUInt32
  if handle = 0 ∨ handle = deviceHandleInvalid then none
  else if handle.toUInt32 &&& deviceHandleKindMask ≠ kind then none
  else if valid : handleSlot handle ≠ 0 ∧ handleSlot handle ≤ count ∧ generation ≠ 0 then
    some (⟨handleSlot handle - 1, by omega⟩, generation)
  else none

/-- `name_is_valid`; a null name has no bytes to look at. -/
def nameIsValid (name : Option (List UInt8)) : Prop :=
  ∃ bytes ∈ name, bytes.length ≠ 0 ∧ bytes.length ≤ deviceNameMaxBytes

instance (name : Option (List UInt8)) : Decidable (nameIsValid name) :=
  match name with
  | none => .isFalse (by simp [nameIsValid])
  | some bytes =>
    decidable_of_iff (bytes.length ≠ 0 ∧ bytes.length ≤ deviceNameMaxBytes) (by simp [nameIsValid])

def DeviceOps.isValid (ops : DeviceOps) : Prop :=
  ops.abiVersion = deviceAbiVersion ∧ ops.reserved = 0 ∧ ops.reserved2 = 0 ∧ ops.identity ≠ 0 ∧
    ops.identity ≠ deviceHandleInvalid ∧ ops.context ≠ deviceHandleInvalid ∧
    ops.capabilities &&& ~~~deviceCapabilityMask = 0 ∧ ops.openEntry.isSome ∧ ops.closeEntry.isSome ∧
    ops.queryInfoEntry.isSome ∧
    ops.readEntry.isSome = decide (ops.capabilities &&& deviceCapRead ≠ 0) ∧
    ops.writeEntry.isSome = decide (ops.capabilities &&& deviceCapWrite ≠ 0) ∧
    ops.controlEntry.isSome = decide (ops.capabilities &&& deviceCapControl ≠ 0)
deriving Decidable

/-- `reserve_registration` and `reserve_instance`: visit the slots in order, retire the exhausted ones among
those whose bit is clear, and take the first that is left. -/
def reserveSlot {count : ℕ} {Slot : Type} (generation : Slot → UInt32) (retire take : Slot → Slot) :
    List (Fin count) → BitVec 32 → (Fin count → Slot) → Option (Fin count) × BitVec 32 × (Fin count → Slot)
  | [], bitmap, slots => (none, bitmap, slots)
  | index :: rest, bitmap, slots =>
    if test bitmap index then reserveSlot generation retire take rest bitmap slots
    else if generation (slots index) ≥ deviceGenerationLimit then
      reserveSlot generation retire take rest (insert bitmap index)
        (Function.update slots index (retire (slots index)))
    else (some index, insert bitmap index, Function.update slots index (take (slots index)))

namespace DeviceManager

def setRegistration (index : Fin 16) (slot : DeviceRegistrationSlot) (manager : DeviceManager) : DeviceManager :=
  { manager with registrations := Function.update manager.registrations index slot }

def setInstance (index : Fin 32) (slot : DeviceInstanceSlot) (manager : DeviceManager) : DeviceManager :=
  { manager with instances := Function.update manager.instances index slot }

def setInstanceState (index : Fin 32) (state : DeviceInstanceState) (manager : DeviceManager) : DeviceManager :=
  manager.setInstance index { manager.instances index with state }

def releaseInstance (index : ℕ) (slot : Fin 32) (manager : DeviceManager) : DeviceManager :=
  { manager.setInstance slot { manager.instances slot with
      registration := deviceHandleInvalid, driverContext := deviceHandleInvalid, state := .free } with
    instanceBitmap := erase manager.instanceBitmap index }

/-- A registration whose driver may have lost track of an instance opens no more of them. -/
def quarantineOpen (registration : Fin 16) (manager : DeviceManager) : DeviceManager :=
  manager.setRegistration registration { manager.registrations registration with openQuarantined := true }

variable (manager : DeviceManager)

def reserveRegistration : Option (Fin 16) × DeviceManager :=
  let (found, bitmap, slots) := reserveSlot DeviceRegistrationSlot.generation
    (fun slot => { slot with state := .retired })
    (fun slot => { slot with generation := slot.generation + 1, state := .reserved })
    (List.finRange 16) manager.registrationBitmap manager.registrations
  (found, { manager with registrationBitmap := bitmap, registrations := slots })

def reserveInstance : Option (Fin 32) × DeviceManager :=
  let (found, bitmap, slots) := reserveSlot DeviceInstanceSlot.generation
    (fun slot => { slot with state := .retired })
    (fun slot => { slot with generation := slot.generation + 1, state := .reserved })
    (List.finRange 32) manager.instanceBitmap manager.instances
  (found, { manager with instanceBitmap := bitmap, instances := slots })

def resolveRegistration (handle : UInt64) : Except IomgrError (Fin 16) :=
  if ¬ manager.initialized then .error .notInitialized
  else match decodeDeviceHandle deviceRegistrationKind 16 handle with
    | none => .error .staleHandle
    | some (index, generation) =>
      if ¬ test manager.registrationBitmap index then .error .staleHandle
      else if (manager.registrations index).generation ≠ generation ∨ (manager.registrations index).state ≠ .live then
        .error .staleHandle
      else .ok index

def resolveInstance (handle : UInt64) : Except IomgrError (Fin 32) :=
  if ¬ manager.initialized then .error .notInitialized
  else match decodeDeviceHandle deviceInstanceKind 32 handle with
    | none => .error .staleHandle
    | some (index, generation) =>
      if ¬ test manager.instanceBitmap index then .error .staleHandle
      else if (manager.instances index).generation ≠ generation then .error .staleHandle
      else if (manager.instances index).state = .quarantined then .error .poisoned
      else if (manager.instances index).state = .inCallback then .error .busy
      else if (manager.instances index).state ≠ .live then .error .staleHandle
      else .ok index

/-- A live registration whose name is `name`. -/
def isNamed (name : List UInt8) (index : Fin 16) : Bool :=
  test manager.registrationBitmap index && (manager.registrations index).state == .live &&
    (manager.registrations index).name == name

/-- The entry point of a driver for an operation. -/
def entry (ops : DeviceOps) : DeviceOperation → Option ℕ
  | .openDevice => ops.openEntry
  | .closeDevice => ops.closeEntry
  | .read .. => ops.readEntry
  | .write .. => ops.writeEntry
  | .control .. => ops.controlEntry
  | .queryInfo => ops.queryInfoEntry

/-- The call of a driver on behalf of an instance. -/
def callback (slot : Fin 32) (registration : Fin 16) (operation : DeviceOperation) :
    DeviceCallback where
  entry := entry (manager.registrations registration).ops operation
  context := (manager.registrations registration).ops.context
  driverContext := (manager.instances slot).driverContext
  operation := operation
  slot := slot
  generation := (manager.instances slot).generation
  registration := registration

end DeviceManager

open DeviceManager

def resolveBinding (handle : UInt64) (allowDrain : Bool) : EStateM IomgrError DeviceManager (Fin 32 × Fin 16) := do
  let manager ← get
  match manager.resolveInstance handle with
  | .error error => throw error
  | .ok slot =>
    match manager.resolveRegistration (manager.instances slot).registration with
    | .ok registration =>
      if ¬ (manager.registrations registration).openQuarantined ∨ allowDrain then return (slot, registration)
      else throw .poisoned
    | .error _ =>
      modify (setInstanceState slot .quarantined)
      throw .uncertain

/-- The status the caller reports, and whether the effect of the callback is in doubt. -/
def mapCallbackStatus : DeviceCallbackStatus → Except IomgrError Unit × Bool
  | .ok => (.ok (), false)
  | .invalidArgument => (.error .invalidArgument, false)
  | .busy => (.error .busy, false)
  | .unsupported => (.error .unsupported, false)
  | .ioError => (.error .ioError, false)
  | .noSpace => (.error .noSpace, false)
  | .noResources => (.error .noSlot, false)
  | .uncertain => (.error .uncertain, true)
  | .unknown => (.error .uncertain, true)

/-- Report a mapped status. -/
def report (status : Except IomgrError Unit) : EStateM IomgrError DeviceManager Unit :=
  match status with
  | .ok _ => return
  | .error error => throw error

variable (slot : Fin 32)

def finishInstanceCallback (callbackStatus : DeviceCallbackStatus) : EStateM IomgrError DeviceManager Unit := do
  let (status, uncertain) := mapCallbackStatus callbackStatus
  modify (setInstanceState slot (if uncertain then .quarantined else .live))
  report status

def beginInstanceCallback : EStateM IomgrError DeviceManager Unit :=
  modify (setInstanceState slot .inCallback)

/-- The callback of a published instance, between `begin_instance_callback` and `finish_instance_callback`. -/
def callInstance (registration : Fin 16) (operation : DeviceOperation) : DeviceProcedure DeviceAnswer := do
  let callback ← lift do
    beginInstanceCallback slot
    return (← get).callback slot registration operation
  let answer ← invoke callback
  lift (finishInstanceCallback slot answer.status)
  return answer

def iomgrDeviceInitialize : EStateM IomgrError DeviceManager Unit := do
  failWhen (← get).initialized .alreadyInitialized
  modify fun manager =>
    { initialized := true
      registrationBitmap := 0
      instanceBitmap := 0
      registrations := fun index =>
        { manager.registrations index with state := .free, generation := 0, openQuarantined := false }
      instances := fun index => { manager.instances index with state := .free, generation := 0 } }

/-- What a successful call leaves in its out-parameter. -/
inductive DeviceResult where
  | nothing
  | registration (handle : UInt64)
  | device (handle : UInt64)
  | bytes (completed : ℕ)
  | info (info : DeviceInfo)

variable (name : Option (List UInt8))

/-- `out` says whether the caller passed a place for the handle. -/
def iomgrDeviceRegister (ops : Option DeviceOps) (out : Bool) : EStateM IomgrError DeviceManager DeviceResult := do
  failWhen (¬ (← get).initialized) .notInitialized
  failWhen (¬ out ∨ ¬ nameIsValid name) .invalidArgument
  let bytes ← demand name .invalidArgument
  let ops ← demand ops .invalidArgument
  failWhen (¬ ops.isValid) .invalidArgument
  let manager ← get
  failWhen ((List.finRange 16).any (manager.isNamed bytes)) .alreadyExists
  let (found, reserved) := manager.reserveRegistration
  set reserved
  let index ← demand found .noSlot
  let generation := (reserved.registrations index).generation
  modify (setRegistration index { state := .live, generation, openQuarantined := false, name := bytes, ops })
  return .registration (makeDeviceHandle index generation deviceRegistrationKind)

/-- An instance that was opened through the registration and is not closed. -/
def DeviceManager.binds (manager : DeviceManager) (registration : UInt64) (index : Fin 32) : Bool :=
  test manager.instanceBitmap index && (manager.instances index).registration == registration

def iomgrDeviceUnregister (registration : UInt64) : EStateM IomgrError DeviceManager DeviceResult := do
  let manager ← get
  match manager.resolveRegistration registration with
  | .error error => throw error
  | .ok index =>
    failWhen (manager.registrations index).openQuarantined .poisoned
    -- The loop of the source stops at the first quarantined instance and only notes the busy ones.
    let bound := (List.finRange 32).filter (manager.binds registration)
    failWhen (bound.any fun slot => (manager.instances slot).state == .quarantined) .poisoned
    failWhen (bound.any fun slot => (manager.instances slot).state == .reserved ||
      (manager.instances slot).state == .live || (manager.instances slot).state == .inCallback) .busy
    modify fun manager =>
      { manager.setRegistration index { manager.registrations index with
          name := [], openQuarantined := false, ops := {}, state := .free } with
        registrationBitmap := erase manager.registrationBitmap (handleSlot registration - 1) }
    return .nothing

/-- `iomgr_device_open` up to the call of the driver: an instance slot is reserved for the named registration. -/
def prepareOpen (out : Bool) : EStateM IomgrError DeviceManager DeviceCallback := do
  failWhen (¬ (← get).initialized) .notInitialized
  failWhen (¬ out ∨ ¬ nameIsValid name) .invalidArgument
  let bytes ← demand name .invalidArgument
  let manager ← get
  let registration ← demand ((List.finRange 16).find? (manager.isNamed bytes)) .notFound
  failWhen (manager.registrations registration).openQuarantined .poisoned
  let (found, reserved) := manager.reserveInstance
  set reserved
  let slot ← demand found .noSlot
  modify fun manager => manager.setInstance slot { manager.instances slot with
    registration := makeDeviceHandle registration (manager.registrations registration).generation
      deviceRegistrationKind }
  return { (← get).callback slot registration .openDevice with driverContext := deviceHandleInvalid }

/-- `iomgr_device_open` after the call of the driver. -/
def finishOpen (registration : Fin 16) (answer : DeviceAnswer) : EStateM IomgrError DeviceManager DeviceResult := do
  let (status, uncertain) := mapCallbackStatus answer.status
  if uncertain then modify (quarantineOpen registration)
  match status with
  | .error error =>
    modify (releaseInstance slot slot)
    throw error
  | .ok _ =>
    if answer.driverContext = 0 ∨ answer.driverContext = deviceHandleInvalid then
      modify (quarantineOpen registration)
      modify (releaseInstance slot slot)
      throw .uncertain
    modify fun manager => manager.setInstance slot { manager.instances slot with
      driverContext := answer.driverContext, state := .live }
    return .device (makeDeviceHandle slot ((← get).instances slot).generation deviceInstanceKind)

def iomgrDeviceOpen (out : Bool) : DeviceProcedure DeviceResult := do
  let callback ← lift (prepareOpen name out)
  let answer ← invoke callback
  lift (finishOpen callback.slot callback.registration answer)

/-- The calls on an instance: find it, call its driver, and look at the answer. -/
def onInstance (resolve : EStateM IomgrError DeviceManager (Fin 32 × Fin 16)) (operation : DeviceOperation)
    (finish : Fin 32 → Fin 16 → DeviceAnswer → EStateM IomgrError DeviceManager DeviceResult) :
    DeviceProcedure DeviceResult := do
  let (slot, registration) ← lift resolve
  let answer ← callInstance slot registration operation
  lift (finish slot registration answer)

variable (device : UInt64)

def iomgrDeviceClose : DeviceProcedure DeviceResult :=
  onInstance (resolveBinding device true) .closeDevice fun slot _ _ => do
    modify (releaseInstance (handleSlot device - 1) slot)
    return .nothing

/-- `read`, `write` and `control`: the driver must offer the operation and may not report more than `limit` bytes. -/
def deviceTransfer (invalid : Prop) [Decidable invalid] (capability : BitVec 32)
    (operation : DeviceOperation) (limit : ℕ) : DeviceProcedure DeviceResult :=
  onInstance
    (do
      failWhen invalid .invalidArgument
      let (slot, registration) ← resolveBinding device false
      failWhen (((← get).registrations registration).ops.capabilities &&& capability = 0) .unsupported
      return (slot, registration))
    operation
    fun slot _ answer => do
      if answer.completed > limit then
        modify (setInstanceState slot .quarantined)
        throw .uncertain
      return .bytes answer.completed

def iomgrDeviceRead (destination : Option ℕ) (capacity count : ℕ) (out : Bool) : DeviceProcedure DeviceResult :=
  deviceTransfer device (¬ out ∨ count > capacity ∨ (capacity ≠ 0 ∧ destination = none)) deviceCapRead
    (.read destination capacity count) count

def iomgrDeviceWrite (source : Option ℕ) (sourceCapacity count : ℕ) (out : Bool) : DeviceProcedure DeviceResult :=
  deviceTransfer device (¬ out ∨ count > sourceCapacity ∨ (sourceCapacity ≠ 0 ∧ source = none)) deviceCapWrite
    (.write source sourceCapacity count) count

def iomgrDeviceControl (operation : UInt64) (input : Option ℕ) (inputCapacity inputCount : ℕ)
    (output : Option ℕ) (outputCapacity : ℕ) (out : Bool) : DeviceProcedure DeviceResult :=
  deviceTransfer device
    (¬ out ∨ inputCount > inputCapacity ∨ (inputCapacity ≠ 0 ∧ input = none) ∨ (outputCapacity ≠ 0 ∧ output = none))
    deviceCapControl (.control operation input inputCapacity inputCount output outputCapacity) outputCapacity

def queryResultIsValid (ops : DeviceOps) (result : DeviceQueryResult) : Prop :=
  result.reserved = 0 ∧ result.state &&& ~~~deviceStateMask = 0 ∧
    ¬ (ops.capabilities &&& deviceCapRead = 0 ∧
      (result.pendingReadBytes ≠ 0 ∨ result.state &&& (deviceStateReadReady ||| deviceStateEndOfInput) ≠ 0)) ∧
    ¬ (ops.capabilities &&& deviceCapWrite = 0 ∧ result.state &&& deviceStateWriteReady ≠ 0)
deriving Decidable

def iomgrDeviceQueryInfo (out : Bool) : DeviceProcedure DeviceResult :=
  onInstance
    (do
      failWhen (¬ out) .invalidArgument
      resolveBinding device false)
    .queryInfo
    fun slot registration answer => do
      let entry := (← get).registrations registration
      if ¬ queryResultIsValid entry.ops answer.query then
        modify (setInstanceState slot .quarantined)
        throw .uncertain
      return .info
        { identity := entry.ops.identity
          pendingReadBytes := answer.query.pendingReadBytes
          capabilities := entry.ops.capabilities
          state := answer.query.state
          name := entry.name }

/-- The calls of the device interface. -/
inductive DeviceRequest where
  | initializeRegistry
  | register (name : Option (List UInt8)) (ops : Option DeviceOps) (out : Bool)
  | unregister (registration : UInt64)
  | openDevice (name : Option (List UInt8)) (out : Bool)
  | closeDevice (device : UInt64)
  | read (device : UInt64) (destination : Option ℕ) (capacity count : ℕ) (out : Bool)
  | write (device : UInt64) (source : Option ℕ) (sourceCapacity count : ℕ) (out : Bool)
  | control (device operation : UInt64) (input : Option ℕ) (inputCapacity inputCount : ℕ) (output : Option ℕ)
      (outputCapacity : ℕ) (out : Bool)
  | queryInfo (device : UInt64) (out : Bool)

def deviceRequest : DeviceRequest → DeviceProcedure DeviceResult
  | .initializeRegistry => lift (do iomgrDeviceInitialize; return .nothing)
  | .register name ops out => lift (iomgrDeviceRegister name ops out)
  | .unregister registration => lift (iomgrDeviceUnregister registration)
  | .openDevice name out => iomgrDeviceOpen name out
  | .closeDevice device => iomgrDeviceClose device
  | .read device destination capacity count out => iomgrDeviceRead device destination capacity count out
  | .write device source sourceCapacity count out => iomgrDeviceWrite device source sourceCapacity count out
  | .control device operation input inputCapacity inputCount output outputCapacity out =>
    iomgrDeviceControl device operation input inputCapacity inputCount output outputCapacity out
  | .queryInfo device out => iomgrDeviceQueryInfo device out

end DosC32
