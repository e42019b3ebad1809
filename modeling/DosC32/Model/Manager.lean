import DosC32.Core.Checked
import DosC32.Core.Pool
import DosC32.Model.BlockDevice
import DosC32.Model.Machine

/-! # The I/O Manager

`storage/core/manager.c`: the volume owner between the DOS adapters and the filesystem drivers.
Volumes, files and searches live in slot pools; a driver is a record of callbacks on the storage
system, which may come back into the manager and the transaction pool. Drivers are registered at
start-up and never removed, so their table is a parameter of the operations.
-/

namespace DosC32

open Effect

/-- `enum iomgr_status` without `IOMGR_OK`, which is the successful exit. -/
inductive IomgrError where
  | invalidArgument
  | notInitialized
  | alreadyInitialized
  | noSlot
  | duplicateDriver
  | noDriver
  | staleHandle
  | readOnly
  | busy
  | corrupt
  | unsupported
  | ioError
  | uncertain
  | poisoned
  | notFound
  | notDirectory
  | isDirectory
  | invalidName
  | alreadyExists
  | noSpace
  | endOfSearch
deriving DecidableEq

/-- `struct iomgr_volume_info`. -/
structure VolumeInfo where
  (driverIdentity device firstLba sectorCount capabilities maximumNameUnits reserved : ℕ)

/-- `struct iomgr_volume_slot` without its state and generation. -/
structure Volume where
  driverSlot : Fin 8
  driverVolumeContext : ℕ
  info : VolumeInfo

/-- `struct iomgr_named_object_slot` without its state and generation. -/
structure NamedObject where
  (volume driverContext : ℕ)

/-- `struct transaction_entry`. -/
structure TransactionEntry where
  relativeLba : ℕ
  (before after : Sector)

/-- `struct transaction_slot` without its state and generation. -/
structure Transaction where
  volume : ℕ
  binding : VolumeInfo
  entries : List TransactionEntry

structure Manager where
  initialized : Bool
  volumes : Fin 32 → Pool.Slot Volume
  files : Fin 64 → Pool.Slot NamedObject
  searches : Fin 32 → Pool.Slot NamedObject

/-- The storage system: devices, manager, transaction pool, and the drivers' own state. -/
structure Storage (Driver : Type) where
  devices : Devices
  manager : Manager
  transactions : Fin 2 → Pool.Slot Transaction
  driver : Driver

abbrev StorageM (Driver : Type) := EStateM IomgrError (Storage Driver)

/-- `struct iomgr_path`: counted bytes. -/
abbrev Path := List UInt8

/-- `struct iomgr_timestamp`. -/
structure Timestamp where
  year : UInt16
  (month day hour minute second centiseconds : UInt8)

/-- `struct iomgr_node_info`. -/
structure NodeInfo where
  (size attributes : ℕ)
  modified : Timestamp

/-- `struct iomgr_file_update`. -/
structure FileUpdate where
  valid : ℕ
  modified : Timestamp

/-- `struct iomgr_directory_entry`. -/
structure DirectoryEntry where
  info : NodeInfo
  nameLength : ℕ
  name : Fin 256 → UInt8

/-- `struct iomgr_space_info`. -/
structure SpaceInfo where
  (totalBytes freeBytes allocationUnitBytes reserved : ℕ)

/-- `struct iomgr_mount_request`. -/
structure MountRequest where
  (device firstLba sectorCount flags reserved : ℕ)

/-- `enum iomgr_probe_result`, and a value outside it. -/
inductive ProbeResult where
  | noMatch
  | isMatch
  | corrupt
  | unsupported
  | ioError
  | unknown

/-- `enum iomgr_driver_mount_status` without `IOMGR_DRIVER_MOUNT_OK`, and a value outside it. -/
inductive DriverMountError where
  | corrupt
  | unsupported
  | noResources
  | ioError
  | uncertain
  | unknown
deriving DecidableEq

/-- `enum iomgr_driver_unmount_status` without the clean exit; unknown values are uncertain. -/
inductive DriverUnmountError where
  | busy
  | uncertain

/-- `struct iomgr_driver_mount_result`. -/
structure DriverMountResult where
  (volumeContext capabilities maximumNameUnits reserved : ℕ)

/-- `struct iomgr_driver_named_ops`. A read returns the bytes it delivered, a write their number. -/
structure DriverNamedOps (Driver : Type) where
  stat : Option (ℕ → Path → StorageM Driver NodeInfo)
  openFile : Option (ℕ → Path → StorageM Driver (ℕ × NodeInfo))
  createFile : Option (ℕ → Path → ℕ → ℕ → StorageM Driver (ℕ × NodeInfo))
  readFile : Option (ℕ → ℕ → ℕ → ℕ → ℕ → StorageM Driver (List UInt8))
  writeFile : Option (ℕ → ℕ → ℕ → ℕ → List UInt8 → ℕ → StorageM Driver ℕ)
  getFileInfo : Option (ℕ → ℕ → StorageM Driver NodeInfo)
  setFileInfo : Option (ℕ → ℕ → ℕ → FileUpdate → StorageM Driver Unit)
  closeFile : Option (ℕ → ℕ → StorageM Driver Unit)
  openSearch : Option (ℕ → Path → ℕ → StorageM Driver ℕ)
  searchNext : Option (ℕ → ℕ → StorageM Driver DirectoryEntry)
  closeSearch : Option (ℕ → ℕ → StorageM Driver Unit)
  querySpace : Option (ℕ → Bool → StorageM Driver SpaceInfo)
  createDirectory : Option (ℕ → Path → ℕ → StorageM Driver Unit)
  rename : Option (ℕ → Path → Path → ℕ → StorageM Driver Unit)

/-- `struct iomgr_driver_ops` of a registered driver. -/
structure DriverOps (Driver : Type) where
  (identity context : ℕ)
  probe : ℕ → MountRequest → Storage Driver → ProbeResult × Storage Driver
  mount : ℕ → MountRequest → EStateM DriverMountError (Storage Driver) DriverMountResult
  unmount : ℕ → ℕ → EStateM DriverUnmountError (Storage Driver) Unit
  named : Option (DriverNamedOps Driver)

/-- `manager.drivers`; a missing entry is an unoccupied slot. -/
abbrev DriverTable (Driver : Type) := Fin 8 → Option (DriverOps Driver)

def iomgrMountReadOnly : ℕ := 1
def iomgrVolumeCapRead : ℕ := 1
def iomgrVolumeCapWrite : ℕ := 2
def iomgrCapabilityMask : ℕ := 0x1f
def iomgrPathMaxBytes : ℕ := 4096
def iomgrNameMaxBytes : ℕ := 255
def iomgrNodeDirectory : ℕ := 0x10
def iomgrNodeMask : ℕ := 0x3f
def iomgrFileUpdateModified : ℕ := 1

/-- The bits of `value` outside `mask`, for 32-bit operands. -/
def bitsOutside (value mask : ℕ) : ℕ := value &&& (0xffffffff ^^^ mask)

namespace Path

/-- The continuation bytes of one encoded character, folded into its value. -/
def continuation : ℕ → ℕ → Path → Option (ℕ × Path)
  | 0, value, rest => some (value, rest)
  | _ + 1, _, [] => none
  | count + 1, value, byte :: rest =>
    if byte &&& 0xc0 ≠ 0x80 then none else continuation count ((value <<< 6) ||| (byte &&& 0x3f).toNat) rest

/-- The scan of `path_is_valid`; every round consumes a byte, so the length bounds the rounds. -/
def isUtf8 : ℕ → Path → Bool
  | _, [] => true
  | 0, _ => false
  | rounds + 1, first :: rest =>
    if first = 0 then false
    else if first < 0x80 then isUtf8 rounds rest
    else
      let header : Option (ℕ × ℕ) :=
        if 0xc2 ≤ first ∧ first ≤ 0xdf then some ((first &&& 0x1f).toNat, 2)
        else if 0xe0 ≤ first ∧ first ≤ 0xef then some ((first &&& 0x0f).toNat, 3)
        else if 0xf0 ≤ first ∧ first ≤ 0xf4 then some ((first &&& 0x07).toNat, 4)
        else none
      match header with
      | none => false
      | some (value, count) =>
        match continuation (count - 1) value rest with
        | none => false
        | some (value, rest) =>
          if (count = 3 ∧ value < 0x800) ∨ (count = 4 ∧ value < 0x10000) ∨ (0xd800 ≤ value ∧ value ≤ 0xdfff) ∨
              value > 0x10ffff then false
          else isUtf8 rounds rest

/-- `path_is_valid`. -/
def pathIsValid (path : Path) : Bool :=
  path.length ≠ 0 && path.length ≤ iomgrPathMaxBytes && isUtf8 path.length path

end Path

namespace Timestamp

/-- `timestamp_is_valid`. -/
def timestampIsValid (timestamp : Timestamp) : Bool :=
  timestamp.month ≤ 12 && timestamp.day ≤ 31 && timestamp.hour ≤ 23 && timestamp.minute ≤ 59 &&
    timestamp.second ≤ 60 && timestamp.centiseconds ≤ 199

def monthDays : List UInt8 := [31, 28, 31, 30, 31, 30, 31, 31, 30, 31, 30, 31]

/-- `timestamp_update_is_valid`. -/
def timestampUpdateIsValid (timestamp : Timestamp) : Bool :=
  if timestamp.month = 0 ∨ timestamp.month > 12 ∨ timestamp.day = 0 ∨ timestamp.hour > 23 ∨
      timestamp.minute > 59 ∨ timestamp.second > 59 ∨ timestamp.centiseconds > 99 then false
  else
    let leap := timestamp.year % 4 = 0 ∧ (timestamp.year % 100 ≠ 0 ∨ timestamp.year % 400 = 0)
    let limit := monthDays.getD (timestamp.month.toNat - 1) 0
    timestamp.day ≤ (if timestamp.month = 2 ∧ leap then limit + 1 else limit)

end Timestamp

/-- `node_info_is_valid`. -/
def NodeInfo.nodeInfoIsValid (info : NodeInfo) : Bool :=
  bitsOutside info.attributes iomgrNodeMask = 0 && info.modified.timestampIsValid &&
    (info.attributes &&& iomgrNodeDirectory = 0 || info.size = 0)

/-- `normalize_named_status`, for the statuses other than `IOMGR_OK`. -/
def normalizeNamedStatus : IomgrError → IomgrError
  | .notInitialized | .alreadyInitialized | .duplicateDriver | .noDriver => .uncertain
  | status => status

namespace Storage

variable {Driver : Type}

/-- Run a device operation as a step of the storage system; every caller in the storage core reports
a device failure as `IOMGR_IO_ERROR`. -/
def transfer {α : Type} (operation : DeviceM α) : StorageM Driver α :=
  focus Storage.devices (fun devices storage => { storage with devices })
    (mapError (fun _ => IomgrError.ioError) operation)

def withVolumes (volumes : Fin 32 → Pool.Slot Volume) (storage : Storage Driver) : Storage Driver :=
  { storage with manager := { storage.manager with volumes } }

def withFiles (files : Fin 64 → Pool.Slot NamedObject) (storage : Storage Driver) : Storage Driver :=
  { storage with manager := { storage.manager with files } }

def withSearches (searches : Fin 32 → Pool.Slot NamedObject) (storage : Storage Driver) : Storage Driver :=
  { storage with manager := { storage.manager with searches } }

variable (index : Fin 32)

def setVolumeState (state : Pool.State) : StorageM Driver Unit :=
  modify fun storage => storage.withVolumes (Pool.setState storage.manager.volumes index state)

def setFileState (index : Fin 64) (state : Pool.State) : StorageM Driver Unit :=
  modify fun storage => storage.withFiles (Pool.setState storage.manager.files index state)

def setSearchState (state : Pool.State) : StorageM Driver Unit :=
  modify fun storage => storage.withSearches (Pool.setState storage.manager.searches index state)

section Pools

variable {count : ℕ} {Content : Type}

/-- The status of a handle that does not resolve. -/
def refusalStatus : Pool.Refusal → IomgrError
  | .stale => .staleHandle
  | .poisoned => .poisoned

variable (slots : Storage Driver → Fin count → Pool.Slot Content)

/-- The body of `resolve_volume`, `resolve_named_object` and `resolve_transaction`. -/
def resolveIn (handle : ℕ) :
    StorageM Driver (Fin count) := fun storage =>
  match Pool.resolve (slots storage) handle with
  | .ok index => .ok index storage
  | .error refusal => .error (refusalStatus refusal) storage

/-- The body of `reserve_volume_slot`, `reserve_named_object` and `reserve_transaction`. -/
def reserveIn (put : (Fin count → Pool.Slot Content) → Storage Driver → Storage Driver) (taken : Pool.State) :
    StorageM Driver (Fin count) := fun storage =>
  match Pool.reserve taken (slots storage) with
  | (some index, next) => .ok index (put next storage)
  | (none, next) => .error .noSlot (put next storage)

end Pools

/-- `resolve_volume`. -/
def resolveVolume (handle : ℕ) : StorageM Driver (Fin 32) := resolveIn (·.manager.volumes) handle

/-- `resolve_named_object` on `manager.files`. -/
def resolveFile (handle : ℕ) : StorageM Driver (Fin 64) := resolveIn (·.manager.files) handle

/-- `resolve_named_object` on `manager.searches`. -/
def resolveSearch (handle : ℕ) : StorageM Driver (Fin 32) := resolveIn (·.manager.searches) handle

/-- `reserve_volume_slot`. -/
def reserveVolumeSlot : StorageM Driver (Fin 32) := reserveIn (·.manager.volumes) withVolumes .reserved

/-- `reserve_named_object` on `manager.files`. -/
def reserveFile : StorageM Driver (Fin 64) := reserveIn (·.manager.files) withFiles .live

/-- `reserve_named_object` on `manager.searches`. -/
def reserveSearch : StorageM Driver (Fin 32) := reserveIn (·.manager.searches) withSearches .live

/-- The content of a volume slot. -/
def volumeAt : StorageM Driver Volume := do pure ((← get).manager.volumes index).content

/-- The content of a file slot. -/
def fileAt (index : Fin 64) : StorageM Driver NamedObject := do pure ((← get).manager.files index).content

/-- The content of a search slot. -/
def searchAt : StorageM Driver NamedObject := do pure ((← get).manager.searches index).content

/-- `manager.initialized` is tested first by the operations that do not reach a named object. -/
def requireInitialized : StorageM Driver Unit := do failWhen ((← get).manager.initialized = false) .notInitialized

/-- `validate_mount_request`. -/
def validateMountRequest (request : MountRequest) : StorageM Driver MountRequest := do
  failWhen (request.device = kernelObjectHandleInvalid ∨ request.sectorCount = 0 ∨ request.reserved ≠ 0 ∨
    bitsOutside request.flags iomgrMountReadOnly ≠ 0) .invalidArgument
  failWhen (Checked.add 64 request.firstLba request.sectorCount = none) .invalidArgument
  let geometry ← transfer (Devices.resolveHandle request.device)
  failWhen (geometry.logicalSectorBytes ≠ blockDeviceSectorBytes) .unsupported
  failWhen (request.firstLba ≥ geometry.sectorCount ∨ request.sectorCount > geometry.sectorCount - request.firstLba)
    .invalidArgument
  pure (if geometry.writable = 0 then { request with flags := request.flags ||| iomgrMountReadOnly } else request)

/-- `map_mount_status`. -/
def mapMountStatus : DriverMountError → IomgrError
  | .corrupt => .corrupt
  | .unsupported => .unsupported
  | .noResources => .noSlot
  | .ioError => .ioError
  | .uncertain | .unknown => .uncertain

/-- The manager's own check of what a driver's mount callback reports. -/
def mountResultIsValid (prepared : MountRequest) (result : DriverMountResult) : Prop :=
  result.volumeContext ≠ kernelObjectHandleInvalid ∧ result.reserved = 0 ∧ result.maximumNameUnits ≠ 0 ∧
  bitsOutside result.capabilities iomgrCapabilityMask = 0 ∧ result.capabilities &&& iomgrVolumeCapRead ≠ 0 ∧
  ¬ (prepared.flags &&& iomgrMountReadOnly ≠ 0 ∧ result.capabilities &&& iomgrVolumeCapWrite ≠ 0)
deriving Decidable

section Operations

variable (drivers : DriverTable Driver)

/-- Mount through a driver whose probe matched. -/
def mountThrough (index : Fin 32) (prepared : MountRequest) (driverIndex : Fin 8) (ops : DriverOps Driver) :
    StorageM Driver ℕ := do
  match ← attempt (ops.mount ops.context prepared) with
  | .error status =>
    setVolumeState index (if status = .uncertain then .quarantined else .free)
    throw (mapMountStatus status)
  | .ok result =>
    if ¬ mountResultIsValid prepared result then do
      setVolumeState index .quarantined
      throw .uncertain
    else do
      let generation := ((← get).manager.volumes index).generation
      let info : VolumeInfo := ⟨ops.identity, prepared.device, prepared.firstLba, prepared.sectorCount,
        result.capabilities, result.maximumNameUnits, 0⟩
      let mounted : Pool.Slot Volume := ⟨.live, generation, ⟨driverIndex, result.volumeContext, info⟩⟩
      modify fun storage => storage.withVolumes (Function.update storage.manager.volumes index mounted)
      pure (Pool.makeHandle index generation)

/-- The driver loop of `iomgr_mount`. -/
def mountLoop (index : Fin 32) (prepared : MountRequest) : List (Fin 8) → StorageM Driver ℕ
  | [] => do
    setVolumeState index .free
    throw .noDriver
  | driverIndex :: rest =>
    match drivers driverIndex with
    | none => mountLoop index prepared rest
    | some ops => do
      let probe ← fun storage =>
        let (result, next) := ops.probe ops.context prepared storage
        .ok result next
      match probe with
      | .noMatch => mountLoop index prepared rest
      | .corrupt => setVolumeState index .free; throw .corrupt
      | .unsupported => setVolumeState index .free; throw .unsupported
      | .ioError => setVolumeState index .free; throw .ioError
      | .unknown => setVolumeState index .quarantined; throw .uncertain
      | .isMatch => mountThrough index prepared driverIndex ops

/-- `iomgr_mount`. -/
def iomgrMount (request : MountRequest) : StorageM Driver ℕ := do
  requireInitialized
  let prepared ← validateMountRequest request
  let index ← reserveVolumeSlot
  mountLoop drivers index prepared (List.finRange 8)

/-- `volume_has_named_objects`. -/
def volumeHasNamedObjects (storage : Storage Driver) (volume : ℕ) : Bool :=
  (List.finRange 64).any (fun index =>
    (storage.manager.files index).state = .live && (storage.manager.files index).content.volume = volume) ||
  (List.finRange 32).any (fun index =>
    (storage.manager.searches index).state = .live && (storage.manager.searches index).content.volume = volume)

/-- `iomgr_unmount`. -/
def iomgrUnmount (volume : ℕ) : StorageM Driver Unit := do
  requireInitialized
  let index ← resolveVolume volume
  failWhen ((← get).volumeHasNamedObjects volume) .busy
  let slot ← volumeAt index
  let ops ← demand (drivers slot.driverSlot) .noDriver
  match ← attempt (ops.unmount ops.context slot.driverVolumeContext) with
  | .ok () => setVolumeState index .free
  | .error .busy => throw .busy
  | .error .uncertain =>
    setVolumeState index .quarantined
    throw .uncertain

end Operations

/-- `iomgr_get_volume_info`. -/
def iomgrGetVolumeInfo (volume : ℕ) : StorageM Driver VolumeInfo := do
  requireInitialized
  let index ← resolveVolume volume
  let slot ← volumeAt index
  failWhen (slot.info.reserved ≠ 0) .poisoned
  pure slot.info

/-- `iomgr_quarantine_volume`. -/
def iomgrQuarantineVolume (volume : ℕ) : StorageM Driver Unit := do
  requireInitialized
  let index ← resolveVolume volume
  setVolumeState index .quarantined

/-- `iomgr_get_driver_volume_context`. -/
def iomgrGetDriverVolumeContext (volume expectedDriverIdentity : ℕ) : StorageM Driver ℕ := do
  requireInitialized
  failWhen (expectedDriverIdentity = 0 ∨ expectedDriverIdentity = kernelObjectHandleInvalid) .invalidArgument
  let index ← resolveVolume volume
  let slot ← volumeAt index
  failWhen (slot.info.driverIdentity ≠ expectedDriverIdentity) .noDriver
  pure slot.driverVolumeContext

/-- `quarantine_after_named_failure`. -/
def quarantineAfterNamedFailure (status : IomgrError) : StorageM Driver Unit :=
  if status = .uncertain ∨ status = .poisoned then setVolumeState index .quarantined else pure ()

/-- Call a driver operation on a volume. A failure is normalised, `release` settles the object slot the
caller holds, and an uncertain outcome quarantines the volume. A status outside the enumeration is
represented by `uncertain`, to which it is normalised. -/
def callDriver {α : Type} (index : Fin 32) (release : StorageM Driver Unit) (operation : StorageM Driver α) :
    StorageM Driver α := do
  match ← attempt operation with
  | .ok value => pure value
  | .error status =>
    release
    quarantineAfterNamedFailure index (normalizeNamedStatus status)
    throw (normalizeNamedStatus status)

/-- Reject a success that a driver reported with an impossible result. -/
def distrust {α : Type} (index : Fin 32) (discard : StorageM Driver Unit) : StorageM Driver α := do
  discard
  setVolumeState index .quarantined
  throw .uncertain

/-- The write capability is tested before a mutating driver operation is looked up. -/
def requireWritable (volume : Volume) : StorageM Driver Unit :=
  failWhen (volume.info.capabilities &&& iomgrVolumeCapWrite = 0) .readOnly

section NamedOperations

open DriverNamedOps

variable (drivers : DriverTable Driver)

/-- `volume_named_ops`, with the operation the caller needs. -/
def namedOp {α : Type} (volume : Volume) (select : DriverNamedOps Driver → Option α) : StorageM Driver α :=
  demand (((drivers volume.driverSlot).bind DriverOps.named).bind select) .unsupported

variable (handle : ℕ) (path : Path)

/-- `iomgr_stat`. -/
def iomgrStat : StorageM Driver NodeInfo := do
  failWhen (¬ path.pathIsValid) .invalidArgument
  let index ← resolveVolume handle
  let volume ← volumeAt index
  let stat ← namedOp drivers volume stat
  let prepared ← callDriver index (pure ()) (stat volume.driverVolumeContext path)
  if ¬ prepared.nodeInfoIsValid then distrust index (pure ()) else pure prepared

/-- The driver context of a fresh object is neither of the two reserved values. -/
def contextIsValid (context : ℕ) : Prop := context ≠ 0 ∧ context ≠ kernelObjectHandleInvalid
deriving Decidable

/-- The common tail of `iomgr_open_file` and `iomgr_create_file`. -/
def publishFile (index : Fin 32) (accepts : NodeInfo → Prop) [DecidablePred accepts]
    (operation : StorageM Driver (ℕ × NodeInfo)) : StorageM Driver (NodeInfo × ℕ) := do
  let file ← reserveFile
  let (context, prepared) ← callDriver index (setFileState file .free) operation
  if ¬ contextIsValid context ∨ ¬ prepared.nodeInfoIsValid ∨ ¬ accepts prepared then
    distrust index (setFileState file .quarantined)
  else do
    modify fun storage => storage.withFiles (Function.update storage.manager.files file
      { storage.manager.files file with content := ⟨handle, context⟩ })
    pure (prepared, Pool.makeHandle file ((← get).manager.files file).generation)

/-- `iomgr_open_file`. -/
def iomgrOpenFile : StorageM Driver (NodeInfo × ℕ) := do
  failWhen (¬ path.pathIsValid) .invalidArgument
  let index ← resolveVolume handle
  let volume ← volumeAt index
  let openFile ← namedOp drivers volume openFile
  let _ ← namedOp drivers volume closeFile
  let _ ← namedOp drivers volume readFile
  publishFile handle index (fun prepared => prepared.attributes &&& iomgrNodeDirectory = 0)
    (openFile volume.driverVolumeContext path)

/-- `iomgr_create_file`. -/
def iomgrCreateFile (attributes : ℕ) : StorageM Driver (NodeInfo × ℕ) := do
  failWhen (¬ path.pathIsValid ∨ bitsOutside attributes 0x27 ≠ 0) .invalidArgument
  let index ← resolveVolume handle
  let volume ← volumeAt index
  requireWritable volume
  let createFile ← namedOp drivers volume createFile
  let _ ← namedOp drivers volume closeFile
  let _ ← namedOp drivers volume readFile
  let _ ← namedOp drivers volume writeFile
  publishFile handle index (fun prepared => prepared.attributes &&& iomgrNodeDirectory = 0 ∧ prepared.size = 0)
    (createFile volume.driverVolumeContext path attributes handle)

/-- `iomgr_read_file`, into a buffer of the given capacity. -/
def iomgrReadFile (file offset capacity count : ℕ) : StorageM Driver (List UInt8) := do
  failWhen (count > capacity) .invalidArgument
  let object ← resolveFile file
  let slot ← fileAt object
  let index ← resolveVolume slot.volume
  let volume ← volumeAt index
  let readFile ← namedOp drivers volume readFile
  let prepared ← callDriver index (pure ())
    (readFile volume.driverVolumeContext slot.driverContext offset capacity count)
  if prepared.length > count then distrust index (setFileState object .quarantined) else pure prepared

/-- `iomgr_write_file`. -/
def iomgrWriteFile (file offset : ℕ) (source : List UInt8) (count : ℕ) : StorageM Driver ℕ := do
  failWhen (count > source.length) .invalidArgument
  let object ← resolveFile file
  let slot ← fileAt object
  let index ← resolveVolume slot.volume
  let volume ← volumeAt index
  requireWritable volume
  let writeFile ← namedOp drivers volume writeFile
  let prepared ← callDriver index (pure ())
    (writeFile volume.driverVolumeContext slot.driverContext slot.volume offset source count)
  if prepared > count then distrust index (setFileState object .quarantined) else pure prepared

/-- `iomgr_get_file_info`. -/
def iomgrGetFileInfo (file : ℕ) : StorageM Driver NodeInfo := do
  let object ← resolveFile file
  let slot ← fileAt object
  let index ← resolveVolume slot.volume
  let volume ← volumeAt index
  let getFileInfo ← namedOp drivers volume getFileInfo
  let prepared ← callDriver index (pure ()) (getFileInfo volume.driverVolumeContext slot.driverContext)
  if ¬ prepared.nodeInfoIsValid ∨ prepared.attributes &&& iomgrNodeDirectory ≠ 0 then
    distrust index (setFileState object .quarantined)
  else pure prepared

/-- `iomgr_set_file_info`. -/
def iomgrSetFileInfo (file : ℕ) (update : FileUpdate) : StorageM Driver Unit := do
  failWhen (update.valid ≠ iomgrFileUpdateModified ∨ ¬ update.modified.timestampUpdateIsValid) .invalidArgument
  let object ← resolveFile file
  let slot ← fileAt object
  let index ← resolveVolume slot.volume
  let volume ← volumeAt index
  requireWritable volume
  let setFileInfo ← namedOp drivers volume setFileInfo
  callDriver index (pure ()) (setFileInfo volume.driverVolumeContext slot.driverContext slot.volume update)

/-- `iomgr_close_file`. -/
def iomgrCloseFile (file : ℕ) : StorageM Driver Unit := do
  let object ← resolveFile file
  let slot ← fileAt object
  let index ← resolveVolume slot.volume
  let volume ← volumeAt index
  let closeFile ← namedOp drivers volume closeFile
  callDriver index (setFileState object .quarantined) (closeFile volume.driverVolumeContext slot.driverContext)
  setFileState object .free

/-- `iomgr_open_search`. -/
def iomgrOpenSearch (pattern : Path) (attributes : ℕ) : StorageM Driver ℕ := do
  failWhen (¬ pattern.pathIsValid ∨ bitsOutside attributes iomgrNodeMask ≠ 0) .invalidArgument
  let index ← resolveVolume handle
  let volume ← volumeAt index
  let openSearch ← namedOp drivers volume openSearch
  let _ ← namedOp drivers volume searchNext
  let _ ← namedOp drivers volume closeSearch
  let search ← reserveSearch
  let context ← callDriver index (setSearchState search .free) (openSearch volume.driverVolumeContext pattern attributes)
  if ¬ contextIsValid context then distrust index (setSearchState search .quarantined) else do
    modify fun storage => storage.withSearches (Function.update storage.manager.searches search
      { storage.manager.searches search with content := ⟨handle, context⟩ })
    pure (Pool.makeHandle search ((← get).manager.searches search).generation)

/-- `iomgr_search_next`. -/
def iomgrSearchNext (search : ℕ) : StorageM Driver DirectoryEntry := do
  let object ← resolveSearch search
  let slot ← searchAt object
  let index ← resolveVolume slot.volume
  let volume ← volumeAt index
  let searchNext ← namedOp drivers volume searchNext
  let prepared ← callDriver index (pure ()) (searchNext volume.driverVolumeContext slot.driverContext)
  if prepared.nameLength = 0 ∨ prepared.nameLength > iomgrNameMaxBytes ∨
      prepared.name (Fin.ofNat 256 prepared.nameLength) ≠ 0 ∨ ¬ prepared.info.nodeInfoIsValid then
    distrust index (setSearchState object .quarantined)
  else pure prepared

/-- `iomgr_close_search`. -/
def iomgrCloseSearch (search : ℕ) : StorageM Driver Unit := do
  let object ← resolveSearch search
  let slot ← searchAt object
  let index ← resolveVolume slot.volume
  let volume ← volumeAt index
  let closeSearch ← namedOp drivers volume closeSearch
  callDriver index (setSearchState object .quarantined) (closeSearch volume.driverVolumeContext slot.driverContext)
  setSearchState object .free

/-- `iomgr_query_space`. -/
def iomgrQuerySpace (countFree : Bool) : StorageM Driver SpaceInfo := do
  let index ← resolveVolume handle
  let volume ← volumeAt index
  let querySpace ← namedOp drivers volume querySpace
  let prepared ← callDriver index (pure ()) (querySpace volume.driverVolumeContext countFree)
  if prepared.reserved ≠ 0 ∨ prepared.allocationUnitBytes = 0 ∨ prepared.freeBytes > prepared.totalBytes then
    distrust index (pure ())
  else pure prepared

/-- `iomgr_create_directory`. -/
def iomgrCreateDirectory : StorageM Driver Unit := do
  failWhen (¬ path.pathIsValid) .invalidArgument
  let index ← resolveVolume handle
  let volume ← volumeAt index
  requireWritable volume
  let createDirectory ← namedOp drivers volume createDirectory
  callDriver index (pure ()) (createDirectory volume.driverVolumeContext path handle)

/-- `iomgr_rename`. -/
def iomgrRename (oldPath newPath : Path) : StorageM Driver Unit := do
  failWhen (¬ oldPath.pathIsValid ∨ ¬ newPath.pathIsValid) .invalidArgument
  let index ← resolveVolume handle
  let volume ← volumeAt index
  requireWritable volume
  let rename ← namedOp drivers volume rename
  callDriver index (pure ()) (rename volume.driverVolumeContext oldPath newPath handle)

end NamedOperations

end Storage

end DosC32
