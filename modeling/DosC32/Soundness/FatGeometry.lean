import DosC32.Core.Run
import DosC32.Core.Tiling
import DosC32.Proofs.FatVolume

/-! # Soundness of the boot-sector geometry

Every accepted boot sector describes consecutive regions inside the available sectors, in which every
cluster and every table entry has its own place.
-/

namespace DosC32

open Effect Tiling Checked

/-- A range of sectors. -/
structure Region where
  (start length : ℕ)

def Region.Contains (region : Region) (lba : ℕ) : Prop := region.start ≤ lba ∧ lba < region.start + region.length

namespace FatVolumeLayout

variable (layout : FatVolumeLayout)

def reservedArea : Region := ⟨0, layout.reservedSectors⟩

/-- The range of one table copy. -/
def fatCopy (copy : ℕ) : Region := ⟨layout.reservedSectors + copy * layout.sectorsPerFat, layout.sectorsPerFat⟩

def rootArea : Region := ⟨layout.rootStart, layout.rootSectors⟩

def dataArea : Region := ⟨layout.dataStart, layout.totalSectors - layout.dataStart⟩

/-- All areas, in the order of the volume. -/
def regions : List Region :=
  layout.reservedArea :: ((List.range layout.fatCount).map layout.fatCopy ++ [layout.rootArea, layout.dataArea])

/-- The geometry that the rest of the driver relies on. -/
structure Geometry (layout : FatVolumeLayout) (availableSectors : ℕ) : Prop where
  consecutive : Tiles Region.start Region.length 0 layout.regions layout.totalSectors
  disjoint : layout.regions.Pairwise fun left right => left.start + left.length ≤ right.start
  available : layout.totalSectors ≤ availableSectors
  clusterSector : ∀ cluster index, layout.clusterValid cluster → index < layout.sectorsPerCluster →
    ∃ lba, layout.clusterSectorLba cluster index = .ok lba ∧ layout.dataArea.Contains lba
  clusterInjective : ∀ cluster index cluster' index' lba, layout.clusterSectorLba cluster index = .ok lba →
    layout.clusterSectorLba cluster' index' = .ok lba → cluster = cluster' ∧ index = index'
  entrySector : ∀ cluster copy, layout.clusterValid cluster → copy < layout.fatCount →
    ∃ position, layout.tableLayout.fatTableLocate cluster = .ok position ∧ ∀ extra < position.sectorCount,
      ∃ lba, layout.tableLayout.fatTableCopyLba copy (position.sectorIndex + extra) = .ok lba ∧
        (layout.fatCopy copy).Contains lba

private theorem fatCopies_tile (count : ℕ) :
    Tiles Region.start Region.length layout.reservedSectors ((List.range count).map layout.fatCopy)
      (layout.reservedSectors + count * layout.sectorsPerFat) := by
  induction count with
  | zero => simp [Tiles]
  | succ count ih =>
    rw [List.range_succ, List.map_append]
    refine tiles_append.mpr ⟨_, ih, rfl, ?_⟩
    change _ + layout.sectorsPerFat = _
    rw [Nat.succ_mul, Nat.add_assoc]

namespace WellFormed

variable {layout : FatVolumeLayout} (wellFormed : layout.WellFormed)
include wellFormed

theorem regions_tile : Tiles Region.start Region.length 0 layout.regions layout.totalSectors := by
  have data := wellFormed.data
  refine ⟨rfl, tiles_append.mpr ⟨layout.rootStart, ?_, rfl, wellFormed.dataStart, ?_⟩⟩
  · rw [wellFormed.rootStart]
    change Tiles _ _ (0 + layout.reservedSectors) _ _
    rw [Nat.zero_add]
    exact fatCopies_tile layout layout.fatCount
  · change layout.rootStart + layout.rootSectors + (layout.totalSectors - layout.dataStart) = layout.totalSectors
    rw [← wellFormed.dataStart]
    omega

theorem clusterSectorLba_injective {cluster index cluster' index' lba : ℕ}
    (found : layout.clusterSectorLba cluster index = .ok lba)
    (found' : layout.clusterSectorLba cluster' index' = .ok lba) : cluster = cluster' ∧ index = index' := by
  obtain ⟨valid, inside, here, -⟩ := clusterSectorLba_ok found
  obtain ⟨valid', inside', there, -⟩ := clusterSectorLba_ok found'
  have lower := valid.1
  have lower' := valid'.1
  have same : index + layout.sectorsPerCluster * (cluster - 2) = index' + layout.sectorsPerCluster * (cluster' - 2) := by
    rw [Nat.mul_comm _ (cluster - 2), Nat.mul_comm _ (cluster' - 2)]
    omega
  have quotient := congrArg (· / layout.sectorsPerCluster) same
  have remainder := congrArg (· % layout.sectorsPerCluster) same
  simp only [Nat.add_mul_div_left _ _ wellFormed.cluster, Nat.div_eq_of_lt inside, Nat.div_eq_of_lt inside'] at quotient
  simp only [Nat.add_mul_mod_self_left, Nat.mod_eq_of_lt inside, Nat.mod_eq_of_lt inside'] at remainder
  exact ⟨by omega, remainder⟩

theorem entrySector_inside {cluster copy : ℕ} (valid : layout.clusterValid cluster) (copies : copy < layout.fatCount) :
    ∃ position, layout.tableLayout.fatTableLocate cluster = .ok position ∧ ∀ extra < position.sectorCount,
      ∃ lba, layout.tableLayout.fatTableCopyLba copy (position.sectorIndex + extra) = .ok lba ∧
        (layout.fatCopy copy).Contains lba := by
  obtain ⟨format, table⟩ := FatTableLayout.fatTableValidateLayout_valid wellFormed.table
  have below : cluster < layout.tableLayout.entryLimit := valid.2
  refine ⟨_, table.fatTableLocate_eq wellFormed.table below, fun extra more => ?_⟩
  have inside := table.position_inside below
  change _ ≤ layout.sectorsPerFat at inside
  refine ⟨_, wellFormed.fatTableCopyLba_eq copies (by omega), ?_, ?_⟩
  · simp only [fatCopy]
    omega
  · simp only [fatCopy]
    omega

theorem geometry {availableSectors : ℕ} (available : layout.totalSectors ≤ availableSectors) :
    layout.Geometry availableSectors where
  consecutive := wellFormed.regions_tile
  disjoint := wellFormed.regions_tile.pairwise
  available := available
  clusterSector := by
    intro cluster index valid inside
    have below := wellFormed.data_lt valid inside
    refine ⟨_, wellFormed.clusterSectorLba_eq valid inside, ?_, ?_⟩
    · simp only [dataArea]
      omega
    · simp only [dataArea]
      omega
  clusterInjective := fun _ _ _ _ _ found found' => wellFormed.clusterSectorLba_injective found found'
  entrySector := fun _ _ valid copies => wellFormed.entrySector_inside valid copies

end WellFormed

end FatVolumeLayout

/-- Whatever the boot sector and the space available to the volume, an accepted layout has the
geometry, and any other status leaves the caller's layout as it was. -/
theorem fatVolumeParseBoot_geometry (boot : Sector) (availableSectors : ℕ) (old : FatVolumeLayout) :
    wp (fatVolumeParseBoot boot availableSectors) old (fun _ layout => layout.Geometry availableSectors)
      (fun _ layout => layout = old) := by
  apply wp_mono_done (fatVolumeParseBoot_spec boot availableSectors old)
  rintro _ layout ⟨wellFormed, available⟩
  exact wellFormed.geometry available

/-! ## Acceptance -/

namespace Sector

variable (boot : Sector)

def totalSectors : ℕ := if boot.le16 19 ≠ 0 then boot.le16 19 else boot.le32 32

/-- The first data sector of a volume that has a 16-bit table length. -/
def dataStart : ℕ := boot.le16 14 + (boot.byte 16).toNat * boot.le16 22 + (boot.le16 17 * 32 + 511) / 512

def dataClusters : ℕ := (boot.totalSectors - boot.dataStart) / (boot.byte 13).toNat

/-- The boot sector describes a FAT12 or FAT16 volume inside the available sectors. -/
structure Consistent (availableSectors : ℕ) : Prop where
  jump : hasDosJump boot
  sectorBytes : boot.le16 11 = 512
  power : isPowerOfTwo (boot.byte 13)
  small : boot.byte 13 ≤ 128
  reserved : boot.le16 14 ≠ 0
  copies : boot.byte 16 ≠ 0
  entries : boot.le16 17 ≠ 0
  media : 0xf0 ≤ boot.byte 21
  available : boot.totalSectors ≤ availableSectors
  length : boot.le16 22 ≠ 0
  clusters : 1 ≤ boot.dataClusters ∧ boot.dataClusters ≤ 65524
  table : (boot.dataClusters + 2) * fatVariant boot.dataClusters ≤ boot.le16 22 * 512 * 8

/-- The name of another file system is absent, and no cluster has a reserved number. -/
def Recognised : Prop :=
  ¬ (bytesEqual boot 3 "EXFAT   " ∨ bytesEqual boot 3 "NTFS    ") ∧
    boot.dataClusters + 2 ≤ if boot.dataClusters < 4085 then 0xff0 else 0xfff0

end Sector

private theorem media_mask (media : UInt8) (high : 0xf0 ≤ media) : media &&& 0xf0 = 0xf0 := by
  have each : ∀ value : Fin 256, 0xf0 ≤ value.val → value.val &&& 0xf0 = 0xf0 := by decide +kernel
  apply UInt8.toNat_inj.mp
  rw [UInt8.toNat_and]
  exact each ⟨media.toNat, media.toNat_lt⟩ high

/-- The validator accepts what it checks for, unless the size of the table overflows. -/
theorem FatTableLayout.Valid.accepted {layout : FatTableLayout} {format : FatEntryFormat} (valid : layout.Valid format)
    (bounded : layout.sectorsPerFat * 512 < 2 ^ 64) : layout.fatTableValidateLayout = .ok () := by
  have fits := valid.fits
  have lower := valid.lower
  have upper := valid.upper
  have stored : 2 ≤ format.storedBytes := by
    rcases fatEntryFormatPrepare_eq_some.mp valid.prepared with ⟨-, rfl⟩ | ⟨-, rfl⟩ | ⟨-, rfl⟩ <;> decide
  simp only [fatTableValidateLayout, bind_eq_ok, orFail_eq_ok, refuse_eq_ok, mul_eq_some,
    add_eq_some, valid.sectorBytes, blockDeviceSectorBytes]
  refine ⟨format, valid.prepared, (), ?_, _, ⟨bounded, rfl⟩, _, FatEntryFormat.fatEntryByteOffset_of_lt (by omega), _,
    ⟨by omega, rfl⟩, by omega⟩
  have copies := valid.copies
  omega

/-- The width that the parser chooses has a place for every cluster, unless one has a reserved number. -/
theorem fatVariant_accepted_iff (reserved : ℕ) {length clusters copies : ℕ} (few : clusters ≤ 65524)
    (short : length < 2 ^ 16)
    (present : copies ≠ 0) (table : (clusters + 2) * fatVariant clusters ≤ length * 512 * 8) :
    (FatTableLayout.mk reserved length (clusters + 2) 512 copies (fatVariant clusters)).fatTableValidateLayout = .ok () ↔
      clusters + 2 ≤ if clusters < 4085 then 0xff0 else 0xfff0 := by
  obtain ⟨format, prepared, limits, fits⟩ : ∃ format, fatEntryFormatPrepare (fatVariant clusters) = some format ∧
      format.reservedFirst = (if clusters < 4085 then 0xff0 else 0xfff0) ∧
      format.offset (clusters + 1) + format.storedBytes ≤ length * 512 := by
    unfold fatVariant fatTable12 fatTable16 at *
    by_cases narrow : clusters < 4085
    · simp only [if_pos narrow] at table ⊢
      refine ⟨_, rfl, rfl, ?_⟩
      show clusters + 1 + (clusters + 1) / 2 + 2 ≤ length * 512
      omega
    · simp only [if_neg narrow, if_pos (show clusters < 65525 by omega)] at table ⊢
      refine ⟨_, rfl, rfl, ?_⟩
      show (clusters + 1) * 2 + 2 ≤ length * 512
      omega
  rw [← limits]
  constructor
  · intro accepted
    obtain ⟨format', valid⟩ := FatTableLayout.fatTableValidateLayout_valid accepted
    cases prepared.symm.trans valid.prepared
    exact valid.upper
  · intro limit
    exact FatTableLayout.Valid.accepted ⟨prepared, rfl, present, Nat.le_add_left _ _, limit, fits⟩ (by dsimp only; omega)

/-- What the parser does with a consistent boot sector. -/
theorem fatVolumeParseBoot_consistent {boot : Sector} {availableSectors : ℕ} (consistent : boot.Consistent availableSectors)
    (old : FatVolumeLayout) :
    wp (fatVolumeParseBoot boot availableSectors) old
      (fun _ layout => boot.Recognised ∧ layout.fatBits = fatVariant boot.dataClusters) (fun _ _ => ¬ boot.Recognised) := by
  obtain ⟨jump, sectorBytes, power, small, reserved, copies, entries, media, available, length, ⟨some, few⟩, table⟩ :=
    consistent
  have start : boot.dataStart < boot.totalSectors := by
    by_contra past
    rw [Sector.dataClusters, Nat.sub_eq_zero_of_le (Nat.le_of_not_lt past), Nat.zero_div] at some
    exact absurd some (by decide)
  have lengthLt := le16_lt boot 22
  have present : (boot.byte 16).toNat ≠ 0 := fun zero => copies (UInt8.toNat_inj.mp zero)
  have accepted := fatVariant_accepted_iff (boot.le16 14) few lengthLt present table
  have area : (boot.byte 16).toNat * boot.le16 22 ≤ 255 * 65535 :=
    Nat.mul_le_mul (Nat.le_of_lt_succ (boot.byte 16).toNat_lt) (Nat.le_of_lt_succ lengthLt)
  have reservedLt := le16_lt boot 14
  have entriesLt := le16_lt boot 17
  have not32 : fatVariant boot.dataClusters ≠ fatTable32 := by
    unfold fatVariant
    rw [if_pos (show boot.dataClusters < 65525 by omega)]
    split <;> decide
  have checks : ¬ (¬ isPowerOfTwo (boot.byte 13) ∨ boot.byte 13 > 128 ∨ boot.le16 14 = 0 ∨ (boot.byte 16).toNat = 0 ∨
      boot.byte 21 &&& 0xf0 ≠ 0xf0) := by
    simp only [not_or, not_not]
    exact ⟨power, UInt8.not_lt.mpr small, reserved, present, media_mask _ media⟩
  have total : (if boot.le16 19 ≠ 0 then boot.le16 19 else boot.le32 32) = boot.totalSectors := rfl
  have data : add 32 (boot.le16 14 + (boot.byte 16).toNat * boot.le16 22)
      ((boot.le16 17 * 32 + (blockDeviceSectorBytes - 1)) >>> 9) = Option.some boot.dataStart := by
    rw [blockDeviceSectorBytes, Nat.shiftRight_eq_div_pow]
    exact add_of_lt (by omega)
  have number : (boot.totalSectors - boot.dataStart) / (boot.byte 13).toNat = boot.dataClusters := rfl
  simp only [fatVolumeParseBoot, wp_rules, wp_expect, wp_set, total, if_pos length,
    mul_of_lt (show boot.le16 17 * 32 < 2 ^ 32 by omega),
    add_of_lt (show boot.le16 17 * 32 + (blockDeviceSectorBytes - 1) < 2 ^ 32 by unfold blockDeviceSectorBytes; omega),
    mul_of_lt (show (boot.byte 16).toNat * boot.le16 22 < 2 ^ 32 by omega),
    add_of_lt (show boot.le16 14 + (boot.byte 16).toNat * boot.le16 22 < 2 ^ 32 by omega), data, number,
    add_of_lt (show boot.dataClusters + 2 < 2 ^ 32 by omega),
    Option.some.injEq, forall_eq', reduceCtorEq, false_implies, and_true]
  -- every check but the first of the names and the last of the table passes
  refine ⟨fun none => by omega, fun _ => ⟨fun foreign recognised => recognised.1 foreign, fun own => ?_⟩⟩
  refine ⟨absurd jump, fun _ => ⟨absurd sectorBytes, fun _ => ⟨fun bad => absurd bad checks, fun _ => ?_⟩⟩⟩
  refine ⟨fun bad => by omega, fun _ => ⟨fun none => absurd none length, fun _ => ⟨fun past => by omega, fun _ => ?_⟩⟩⟩
  refine ⟨fun none => by omega, fun _ => ⟨fun wide => absurd wide.1 not32, fun _ => ⟨fun bad => by omega, fun _ => ?_⟩⟩⟩
  rw [← sectorBytes] at accepted
  constructor
  · intro _ passed
    exact ⟨fun wide => absurd wide.1 not32, fun _ => ⟨own, accepted.mp passed⟩⟩
  · intro cause refused recognised
    have passed := accepted.mpr recognised.2
    cases passed.symm.trans refused

/-- A consistent boot sector is accepted, with the width that its number of clusters selects, exactly when it is
recognised. -/
theorem fatVolumeParseBoot_accepts_iff (boot : Sector) (availableSectors : ℕ) (consistent : boot.Consistent availableSectors)
    (old : FatVolumeLayout) :
    (∃ layout, fatVolumeParseBoot boot availableSectors old = .ok () layout ∧
      layout.fatBits = if boot.dataClusters < 4085 then fatTable12 else fatTable16) ↔ boot.Recognised := by
  have spec := fatVolumeParseBoot_consistent consistent old
  constructor
  · rintro ⟨layout, parsed, -⟩
    exact (wp_of_ok spec parsed).1
  · intro recognised
    cases parsed : fatVolumeParseBoot boot availableSectors old with
    | ok _ layout =>
      refine ⟨layout, rfl, (wp_of_ok spec parsed).2.trans ?_⟩
      rw [fatVariant, if_pos (show boot.dataClusters < 65525 from Nat.lt_succ_of_le consistent.clusters.2)]
    | error _ _ => exact absurd recognised (wp_of_error spec parsed)

/-- A boot sector with one table of twelve sectors, one root sector and the given number of sectors in all. -/
def smallBoot (total : ℕ) : Sector := fun offset =>
  match offset.val with
  | 0 => 0xe9
  | 12 => 2
  | 13 | 14 | 16 => 1
  | 17 => 16
  | 19 => UInt8.ofNat total
  | 20 => UInt8.ofNat (total / 256)
  | 21 => 0xf8
  | 22 => 12
  | _ => 0

def blankLayout : FatVolumeLayout := ⟨0, 0, 0, 0, 0, 0, 0, 0, 0, 0, 0, 0, 0, 0, 0, 0, 0⟩

/-- The largest FAT12 volume of this shape that is accepted. -/
theorem fatVolumeParseBoot_accepts_4078 : ∃ layout, fatVolumeParseBoot (smallBoot 4092) 4092 blankLayout = .ok () layout ∧
    layout.fatBits = if (smallBoot 4092).dataClusters < 4085 then fatTable12 else fatTable16 := by
  apply (fatVolumeParseBoot_accepts_iff (smallBoot 4092) 4092 (by constructor <;> decide +kernel) blankLayout).mpr
  constructor <;> decide +kernel

/-- One more cluster is still a FAT12 volume whose table has room, and is refused. -/
theorem fatVolumeParseBoot_refuses_4079 : (smallBoot 4093).Consistent 4093 ∧ (smallBoot 4093).dataClusters = 4079 ∧
    outcome (fatVolumeParseBoot (smallBoot 4093) 4093) blankLayout = .error .corrupt := by
  refine ⟨?_, ?_, ?_⟩
  · constructor <;> decide +kernel
  · decide +kernel
  · decide +kernel

end DosC32
