import DosC32.Core.Effect
import DosC32.Core.LittleEndian
import Mathlib.Data.Fintype.Basic

/-! # Block devices

`kernel/block_device.c`: exact 512-byte sectors behind generation handles. The registry is the partial
map that `resolve_handle` computes, from a handle to the device it names. An adapter is a schedule:
the number of a callback selects whether it completes, and a sector write that does not complete may
leave any content in its own sector. The numbers run through the whole system, so that a callback
number also says when the call happened relative to every other device.
-/

namespace DosC32

open Effect

def blockDeviceSectorBytes : ℕ := 512

/-- `union block_device_sector`. -/
abbrev Sector := Fin 512 → UInt8

namespace Sector

/-- The byte at an offset below 512. -/
def byte (sector : Sector) (offset : ℕ) : UInt8 := sector (Fin.ofNat 512 offset)

/-- `read_le16`. -/
def le16 (sector : Sector) (offset : ℕ) : ℕ :=
  (LittleEndian.word (sector.byte offset) (sector.byte (offset + 1))).toNat

/-- `read_le32`. -/
def le32 (sector : Sector) (offset : ℕ) : ℕ :=
  (LittleEndian.double (sector.byte offset) (sector.byte (offset + 1)) (sector.byte (offset + 2))
    (sector.byte (offset + 3))).toNat

/-- `clear_sector`. -/
def zero : Sector := fun _ => 0

end Sector

/-- `enum block_device_status` without `BLOCK_DEVICE_OK`, which is the successful exit. -/
inductive BlockDeviceError where
  | invalidArgument
  | noSlot
  | staleHandle
  | notReady
  | noMedia
  | unsupported
  | outOfRange
  | readOnly
  | timeout
  | ioError
  | generationExhausted

/-- A sector write that did not complete; without a residue it left the sector as it was. A missing
status is a value outside the enumeration. -/
structure SectorWriteFault where
  status : Option BlockDeviceError
  residue : Option Sector

/-- `struct registered_block_device`: the adapter's callbacks, the geometry, and the medium. -/
structure BlockDevice where
  (sectorCount logicalSectorBytes : ℕ)
  writable : UInt8
  readSector : ℕ → Option (Option BlockDeviceError)
  writeSector : Option (ℕ → Option SectorWriteFault)
  flush : Option (ℕ → Option (Option BlockDeviceError))
  sectors : ℕ → Sector

/-- The registered devices and the number of adapter callbacks made so far. -/
structure Devices where
  registry : ℕ → Option BlockDevice
  calls : ℕ

abbrev DeviceM := EStateM BlockDeviceError Devices

namespace Devices

/-- `adapter_status_is_valid`, for the statuses other than `BLOCK_DEVICE_OK`. -/
def adapterStatusIsValid : BlockDeviceError → Bool
  | .noSlot | .staleHandle | .generationExhausted => false
  | _ => true

/-- `normalize_adapter_status`. -/
def normalizeAdapterStatus : Option BlockDeviceError → BlockDeviceError
  | some status => if adapterStatusIsValid status then status else .ioError
  | none => .ioError

/-- `resolve_handle`. -/
def resolveHandle (handle : ℕ) : DeviceM BlockDevice := do
  demand ((← get).registry handle) .staleHandle

/-- A status callback: count it and hand its result on. -/
def callback (result : Option (Option BlockDeviceError)) : DeviceM Unit := fun devices =>
  let next := { devices with calls := devices.calls + 1 }
  match result with
  | none => .ok () next
  | some status => .error (normalizeAdapterStatus status) next

/-- Replace one sector of the device a handle names. -/
def store (devices : Devices) (handle lba : ℕ) (device : BlockDevice) (content : Sector) : Devices :=
  let written := { device with sectors := Function.update device.sectors lba content }
  { devices with registry := Function.update devices.registry handle (some written) }

variable (handle lba : ℕ)

/-- One `write_sector` callback. -/
def callWrite (device : BlockDevice) (adapter : ℕ → Option SectorWriteFault)
    (sector : Sector) : DeviceM Unit := fun devices =>
  let next := { devices with calls := devices.calls + 1 }
  match adapter devices.calls with
  | none => .ok () (next.store handle lba device sector)
  | some fault => .error (normalizeAdapterStatus fault.status)
      (match fault.residue with
        | none => next
        | some content => next.store handle lba device content)

/-- `block_device_read_sector`. -/
def blockDeviceReadSector : DeviceM Sector := do
  let device ← resolveHandle handle
  failWhen (lba ≥ device.sectorCount) .outOfRange
  callback (device.readSector (← get).calls)
  pure (device.sectors lba)

/-- `block_device_write_sector`. -/
def blockDeviceWriteSector (sector : Sector) : DeviceM Unit := do
  let device ← resolveHandle handle
  failWhen (lba ≥ device.sectorCount) .outOfRange
  failWhen (device.writable ≠ 1) .readOnly
  let adapter ← demand device.writeSector .readOnly
  callWrite handle lba device adapter sector

/-- `block_device_flush`. -/
def blockDeviceFlush (handle : ℕ) : DeviceM Unit := do
  let device ← resolveHandle handle
  match device.flush with
  | none => pure ()
  | some adapter => callback (adapter (← get).calls)

end Devices

end DosC32
