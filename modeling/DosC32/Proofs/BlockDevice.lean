import DosC32.Model.Manager

/-! # Contracts of the block devices

A read changes nothing but the callback count. A write reaches its callback only on a writable device
and inside it, and then the schedule of the device decides what the sector holds afterwards.
-/

namespace DosC32

open Effect Function

/-- The write callback that `block_device_write_sector` reaches. -/
def BlockDevice.writer (device : BlockDevice) : Option (ℕ → Option SectorWriteFault) :=
  if device.writable = 1 then device.writeSector else none

/-- The flush with the given callback number completes; a device without the callback always does. -/
def BlockDevice.Flushes (device : BlockDevice) (call : ℕ) : Prop :=
  ∀ adapter, device.flush = some adapter → adapter call = none

/-- The content of a sector after a write to it failed. -/
def SectorWriteFault.leaves (fault : SectorWriteFault) (content : Sector) : Sector := fault.residue.getD content

namespace Devices

variable (devices : Devices) (handle lba : ℕ)

def withCalls (calls : ℕ) : Devices := { devices with calls }

/-- The devices with the medium of one of them and the callback count replaced. -/
def withMedium (device : BlockDevice) (sectors : ℕ → Sector) (calls : ℕ) : Devices :=
  ⟨update devices.registry handle (some { device with sectors }), calls⟩

theorem callback_spec (result : Option (Option BlockDeviceError)) :
    wp (callback result) devices (fun _ next => result = none ∧ next = devices.withCalls (devices.calls + 1))
      (fun _ next => result ≠ none ∧ next = devices.withCalls (devices.calls + 1)) := by
  cases result <;> simp [wp, callback, withCalls]

theorem blockDeviceReadSector_spec :
    wp (blockDeviceReadSector handle lba) devices
      (fun sector next => ∃ device, devices.registry handle = some device ∧ lba < device.sectorCount ∧
        sector = device.sectors lba ∧ next = devices.withCalls (devices.calls + 1))
      (fun _ next => ∃ calls, next = devices.withCalls calls) := by
  simp only [blockDeviceReadSector, resolveHandle, wp_rules]
  refine ⟨fun device registered => ⟨fun _ => ⟨devices.calls, rfl⟩, fun inside => ?_⟩, fun _ => ⟨devices.calls, rfl⟩⟩
  apply wp_mono (callback_spec devices _)
  · rintro _ _ ⟨-, rfl⟩
    exact ⟨device, registered, by omega, rfl, rfl⟩
  · rintro _ _ ⟨-, rfl⟩
    exact ⟨_, rfl⟩

/-- A write that never reaches the adapter. -/
def Unreached (handle lba : ℕ) : Prop :=
  ∀ device, devices.registry handle = some device → lba < device.sectorCount → device.writer = none

theorem blockDeviceWriteSector_spec (content : Sector) :
    wp (blockDeviceWriteSector handle lba content) devices
      (fun _ next => ∃ device adapter, devices.registry handle = some device ∧ lba < device.sectorCount ∧
        device.writer = some adapter ∧ adapter devices.calls = none ∧
        next = devices.withMedium handle device (update device.sectors lba content) (devices.calls + 1))
      (fun _ next => (devices.Unreached handle lba ∧ next = devices) ∨
        ∃ device adapter fault, devices.registry handle = some device ∧ lba < device.sectorCount ∧
          device.writer = some adapter ∧ adapter devices.calls = some fault ∧
          next = devices.withMedium handle device
            (update device.sectors lba (fault.leaves (device.sectors lba))) (devices.calls + 1)) := by
  simp only [blockDeviceWriteSector, resolveHandle, wp_rules]
  refine ⟨fun device registered => ⟨fun outside => ?_, fun inside => ⟨fun readOnly => ?_, fun writable => ⟨?_, ?_⟩⟩⟩,
    fun unknown => ?_⟩
  · refine .inl ⟨fun other found inside => ?_, trivial⟩
    cases registered.symm.trans found
    omega
  · refine .inl ⟨fun other found _ => ?_, trivial⟩
    cases registered.symm.trans found
    exact if_neg readOnly
  · intro adapter found
    have writer : device.writer = some adapter := by
      rw [BlockDevice.writer, if_pos (not_not.mp writable), found]
    unfold wp callWrite
    cases outcome : adapter devices.calls with
    | none => exact ⟨device, adapter, registered, by omega, writer, outcome, rfl⟩
    | some fault =>
      refine .inr ⟨device, adapter, fault, registered, by omega, writer, outcome, ?_⟩
      unfold SectorWriteFault.leaves
      cases fault.residue with
      | none =>
        simp only [Option.getD_none, update_eq_self, withMedium]
        rw [← registered, update_eq_self]
      | some residue => rfl
  · intro missing
    refine .inl ⟨fun other found _ => ?_, trivial⟩
    cases registered.symm.trans found
    rw [BlockDevice.writer, missing, ite_self]
  · refine .inl ⟨fun other found _ => ?_, trivial⟩
    rw [unknown] at found
    cases found

theorem blockDeviceFlush_spec :
    wp (blockDeviceFlush handle) devices
      (fun _ next => (∃ device, devices.registry handle = some device ∧ device.Flushes devices.calls) ∧
        ∃ calls, next = devices.withCalls calls)
      (fun _ next => (∀ device, devices.registry handle = some device → ¬ device.Flushes devices.calls) ∧
        ∃ calls, next = devices.withCalls calls) := by
  simp only [blockDeviceFlush, resolveHandle, wp_rules]
  refine ⟨fun device registered => ?_, fun unknown => ⟨fun device found => ?_, devices.calls, rfl⟩⟩
  · cases adapter : device.flush with
    | none =>
      exact ⟨⟨device, registered, fun other found => by rw [adapter] at found; cases found⟩, devices.calls, rfl⟩
    | some adapter' =>
      simp only [wp_rules]
      apply wp_mono (callback_spec devices _)
      · rintro _ _ ⟨completes, rfl⟩
        refine ⟨⟨device, registered, fun other found => ?_⟩, _, rfl⟩
        cases adapter.symm.trans found
        exact completes
      · rintro _ _ ⟨fails, rfl⟩
        refine ⟨fun other found flushes => ?_, _, rfl⟩
        cases registered.symm.trans found
        exact fails (flushes _ adapter)
  · rw [unknown] at found
    cases found

end Devices

namespace Storage

variable {Driver α : Type}

theorem wp_transfer {operation : DeviceM α} {storage : Storage Driver} {done : α → Storage Driver → Prop}
    {failed : IomgrError → Storage Driver → Prop} :
    wp (transfer operation) storage done failed ↔ wp operation storage.devices
      (fun value devices => done value { storage with devices })
      (fun _ devices => failed .ioError { storage with devices }) := by
  simp only [transfer, wp_focus, wp_mapError]

end Storage

end DosC32
