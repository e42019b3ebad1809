import DosC32.Model.FatTable
import DosC32.Model.Manager

/-! # FAT volume geometry

`storage/fat/boot.c`: the validator of a boot sector, and the translation of clusters to sectors that
the rest of the driver builds on it. The parser's state is the caller's layout, which it assigns only
as its last step.
-/

namespace DosC32

open Effect Checked

/-- `enum fat_volume_status` without `FAT_VOLUME_OK`. -/
inductive FatVolumeError where
  | noMatch
  | corrupt
  | unsupported
  | overflow
deriving DecidableEq

/-- `struct fat_volume_layout`. -/
structure FatVolumeLayout where
  (totalSectors sectorsPerFat rootStart rootSectors dataStart dataClusters clusterLimit rootCluster : ℕ)
  (fsinfoSector backupBootSector sectorBytes reservedSectors rootEntries sectorsPerCluster fatCount : ℕ)
  (fatBits media : ℕ)

/-- `is_power_of_two`. -/
def isPowerOfTwo (value : UInt8) : Prop := value ≠ 0 ∧ value &&& (value - 1) = 0
deriving Decidable

/-- `bytes_equal` of boot-sector bytes and a text. -/
def bytesEqual (boot : Sector) (offset : ℕ) (text : String) : Prop :=
  ∀ index < text.length, boot.byte (offset + index) = (text.toList.getD index '\x00').toUInt8

instance (boot : Sector) (offset : ℕ) (text : String) : Decidable (bytesEqual boot offset text) :=
  inferInstanceAs (Decidable (∀ index < _, _))

/-- `has_dos_jump`. -/
def hasDosJump (boot : Sector) : Prop := (boot.byte 0 = 0xeb ∧ boot.byte 2 = 0x90) ∨ boot.byte 0 = 0xe9
deriving Decidable

namespace FatVolumeLayout

variable (layout : FatVolumeLayout)

/-- `table_layout`. -/
def tableLayout : FatTableLayout :=
  ⟨layout.reservedSectors, layout.sectorsPerFat, layout.clusterLimit, layout.sectorBytes, layout.fatCount,
    layout.fatBits⟩

/-- `cluster_valid` and `cluster_is_valid`. -/
def clusterValid (cluster : ℕ) : Prop := 2 ≤ cluster ∧ cluster < layout.clusterLimit
deriving Decidable

/-- `cluster_sector_lba`. -/
def clusterSectorLba (cluster sectorIndex : ℕ) : Except IomgrError ℕ := do
  refuse (¬ layout.clusterValid cluster ∨ sectorIndex ≥ layout.sectorsPerCluster) .corrupt
  let offset ← orFail (mul 64 (cluster - 2) layout.sectorsPerCluster) .corrupt
  let candidate ← orFail (add 64 layout.dataStart offset) .corrupt
  let lba ← orFail (add 64 candidate sectorIndex) .corrupt
  refuse (lba ≥ layout.totalSectors) .corrupt
  pure lba

end FatVolumeLayout

/-- The variant is decided by the number of clusters alone. -/
def fatVariant (clusters : ℕ) : ℕ :=
  if clusters < 4085 then fatTable12 else if clusters < 65525 then fatTable16 else fatTable32

/-- `fat_volume_parse_boot`. -/
def fatVolumeParseBoot (boot : Sector) (availableSectors : ℕ) : EStateM FatVolumeError FatVolumeLayout Unit := do
  failWhen (availableSectors = 0) .corrupt
  failWhen (bytesEqual boot 3 "EXFAT   " ∨ bytesEqual boot 3 "NTFS    ") .noMatch
  failWhen (¬ hasDosJump boot) .noMatch
  let sectorBytes := boot.le16 11
  let sectorsPerCluster := boot.byte 13
  let reservedSectors := boot.le16 14
  let fatCount := (boot.byte 16).toNat
  let rootEntries := boot.le16 17
  let total16 := boot.le16 19
  let media := boot.byte 21
  let fat16Length := boot.le16 22
  let total32 := boot.le32 32
  failWhen (sectorBytes ≠ blockDeviceSectorBytes) .unsupported
  failWhen (¬ isPowerOfTwo sectorsPerCluster ∨ sectorsPerCluster > 128 ∨ reservedSectors = 0 ∨ fatCount = 0 ∨
    media &&& 0xf0 ≠ 0xf0) .corrupt
  let total := if total16 ≠ 0 then total16 else total32
  failWhen (total = 0 ∨ total > availableSectors) .corrupt
  let fat32Length := boot.le32 36
  let sectorsPerFat := if fat16Length ≠ 0 then fat16Length else fat32Length
  failWhen (sectorsPerFat = 0) .corrupt
  let rootBytes ← demand (mul 32 rootEntries 32) .overflow
  let rootRounded ← demand (add 32 rootBytes (blockDeviceSectorBytes - 1)) .overflow
  let rootSectors := rootRounded >>> 9
  let fatArea ← demand (mul 32 fatCount sectorsPerFat) .overflow
  let rootStart ← demand (add 32 reservedSectors fatArea) .overflow
  let dataStart ← demand (add 32 rootStart rootSectors) .overflow
  failWhen (dataStart ≥ total) .corrupt
  let dataSectors := total - dataStart
  let clusters := dataSectors / sectorsPerCluster.toNat
  failWhen (clusters = 0) .corrupt
  let fatBits := fatVariant clusters
  failWhen (fatBits = fatTable32 ∧ (fat16Length ≠ 0 ∨ rootEntries ≠ 0 ∨ fat32Length = 0)) .corrupt
  failWhen (fatBits ≠ fatTable32 ∧ (fat16Length = 0 ∨ rootEntries = 0)) .corrupt
  let rootCluster := if fatBits = fatTable32 then boot.le32 44 &&& 0x0fffffff else 0
  let fsinfoSector := if fatBits = fatTable32 then boot.le16 48 else 0
  let backupBootSector := if fatBits = fatTable32 then boot.le16 50 else 0
  let clusterLimit ← demand (add 32 clusters 2) .overflow
  let prepared : FatVolumeLayout :=
    ⟨total, sectorsPerFat, rootStart, rootSectors, dataStart, clusters, clusterLimit, rootCluster, fsinfoSector,
      backupBootSector, sectorBytes, reservedSectors, rootEntries, sectorsPerCluster.toNat, fatCount, fatBits,
      media.toNat⟩
  expect prepared.tableLayout.fatTableValidateLayout .corrupt
  failWhen (fatBits = fatTable32 ∧ (rootCluster < 2 ∨ rootCluster ≥ clusterLimit ∨ fsinfoSector ≥ reservedSectors ∨
    (backupBootSector ≠ 0 ∧ backupBootSector ≥ reservedSectors))) .corrupt
  set prepared

end DosC32
