import DosC32.Model.FatVolume
import DosC32.Proofs.FatTable

/-! # Contracts of the FAT volume geometry

The arithmetic facts that the checks of the boot-sector parser establish are collected once; on a
layout that has them the address computations of the driver succeed and have closed forms.
-/

namespace DosC32

open Effect Checked

namespace FatVolumeLayout

/-- What the checks of the parser establish about the layout it publishes. -/
structure WellFormed (layout : FatVolumeLayout) : Prop where
  table : layout.tableLayout.fatTableValidateLayout = .ok ()
  reserved : 0 < layout.reservedSectors
  cluster : 0 < layout.sectorsPerCluster
  rootStart : layout.rootStart = layout.reservedSectors + layout.fatCount * layout.sectorsPerFat
  dataStart : layout.dataStart = layout.rootStart + layout.rootSectors
  data : layout.dataStart + layout.dataClusters * layout.sectorsPerCluster ≤ layout.totalSectors
  total : layout.totalSectors < 2 ^ 32
  clusters : 0 < layout.dataClusters
  limit : layout.clusterLimit = layout.dataClusters + 2
  root32 : layout.fatBits = fatTable32 → layout.rootSectors = 0 ∧ layout.clusterValid layout.rootCluster
  root16 : layout.fatBits ≠ fatTable32 → 0 < layout.rootSectors

namespace WellFormed

variable {layout : FatVolumeLayout} (wellFormed : layout.WellFormed)
include wellFormed

theorem data_lt {cluster index : ℕ} (valid : layout.clusterValid cluster) (inside : index < layout.sectorsPerCluster) :
    layout.dataStart + (cluster - 2) * layout.sectorsPerCluster + index < layout.totalSectors := by
  have limit := wellFormed.limit
  have data := wellFormed.data
  have next : (cluster - 2 + 1) * layout.sectorsPerCluster ≤ layout.dataClusters * layout.sectorsPerCluster :=
    Nat.mul_le_mul_right _ (by have := valid.1; have := valid.2; omega)
  rw [Nat.succ_mul] at next
  omega

theorem clusterSectorLba_eq {cluster index : ℕ} (valid : layout.clusterValid cluster)
    (inside : index < layout.sectorsPerCluster) :
    layout.clusterSectorLba cluster index =
      .ok (layout.dataStart + (cluster - 2) * layout.sectorsPerCluster + index) := by
  have below := wellFormed.data_lt valid inside
  have total := wellFormed.total
  simp only [clusterSectorLba, refuse, bind, Except.bind, orFail, pure, Except.pure,
    if_neg (show ¬ (¬ layout.clusterValid cluster ∨ index ≥ layout.sectorsPerCluster) by
      rw [not_or, not_not]; exact ⟨valid, Nat.not_le.mpr inside⟩),
    mul_of_lt (show (cluster - 2) * layout.sectorsPerCluster < 2 ^ 64 by omega),
    add_of_lt (show layout.dataStart + (cluster - 2) * layout.sectorsPerCluster < 2 ^ 64 by omega),
    add_of_lt (show layout.dataStart + (cluster - 2) * layout.sectorsPerCluster + index < 2 ^ 64 by omega),
    if_neg (show ¬ layout.dataStart + (cluster - 2) * layout.sectorsPerCluster + index ≥ layout.totalSectors by omega)]

theorem tables_lt : layout.reservedSectors + layout.fatCount * layout.sectorsPerFat < layout.totalSectors := by
  have rootStart := wellFormed.rootStart
  have dataStart := wellFormed.dataStart
  have data := wellFormed.data
  have clusters := Nat.mul_pos wellFormed.clusters wellFormed.cluster
  omega

theorem fatTableCopyLba_eq {copy index : ℕ} (copies : copy < layout.fatCount) (inside : index < layout.sectorsPerFat) :
    layout.tableLayout.fatTableCopyLba copy index =
      .ok (layout.reservedSectors + (copy * layout.sectorsPerFat + index)) := by
  apply FatTableLayout.fatTableCopyLba_eq wellFormed.table _ copies inside
  have tables := wellFormed.tables_lt
  have total := wellFormed.total
  change layout.reservedSectors + layout.fatCount * layout.sectorsPerFat < 2 ^ 64
  omega

end WellFormed

/-- What a successful `cluster_sector_lba` says about its arguments, whatever the layout. -/
theorem clusterSectorLba_ok {layout : FatVolumeLayout} {cluster index lba : ℕ}
    (found : layout.clusterSectorLba cluster index = .ok lba) :
    layout.clusterValid cluster ∧ index < layout.sectorsPerCluster ∧
      lba = layout.dataStart + (cluster - 2) * layout.sectorsPerCluster + index ∧ lba < layout.totalSectors := by
  simp only [clusterSectorLba, bind_eq_ok, refuse_eq_ok, orFail_eq_ok, mul_eq_some, add_eq_some,
    pure_eq_ok, not_or, not_not] at found
  obtain ⟨_, ⟨valid, inside⟩, _, ⟨_, rfl⟩, _, ⟨_, rfl⟩, _, ⟨_, rfl⟩, _, below, rfl⟩ := found
  exact ⟨valid, by omega, rfl, by omega⟩

end FatVolumeLayout

theorem le16_lt (sector : Sector) (offset : ℕ) : sector.le16 offset < 2 ^ 16 := UInt16.toNat_lt _

private theorem le32_lt (sector : Sector) (offset : ℕ) : sector.le32 offset < 2 ^ 32 := UInt32.toNat_lt _

private theorem isPowerOfTwo_pos {value : UInt8} (power : isPowerOfTwo value) : 0 < value.toNat := by
  have nonzero : value.toNat ≠ 0 := fun zero => power.1 (UInt8.toNat_inj.mp zero)
  omega

/-- The parser's contract: a layout it publishes is well formed, and it publishes only on success. -/
theorem fatVolumeParseBoot_spec (boot : Sector) (availableSectors : ℕ) (old : FatVolumeLayout) :
    wp (fatVolumeParseBoot boot availableSectors) old
      (fun _ layout => layout.WellFormed ∧ layout.totalSectors ≤ availableSectors)
      (fun _ layout => layout = old) := by
  simp only [fatVolumeParseBoot, wp_all, wp_expect, mul_eq_some, add_eq_some]
  rintro _ _ _ _ checks total _ rootBytes ⟨_, rootBytesEq⟩ rootRounded ⟨_, roundedEq⟩ fatArea ⟨_, areaEq⟩ rootStart
    ⟨_, rootEq⟩ dataStart ⟨_, dataEq⟩ below clusters wide narrow limit ⟨_, limitEq⟩ _ table root
  have bound : (if boot.le16 19 ≠ 0 then boot.le16 19 else boot.le32 32) < 2 ^ 32 := by
    have low := le16_lt boot 19
    have high := le32_lt boot 32
    split <;> omega
  generalize (if boot.le16 19 ≠ 0 then boot.le16 19 else boot.le32 32) = sectors at *
  simp only [not_or, not_not] at checks
  obtain ⟨power, _, reserved, _, _⟩ := checks
  have enough := Nat.div_mul_le_self (sectors - dataStart) (boot.byte 13).toNat
  have rounded : rootRounded >>> 9 = (boot.le16 17 * 32 + 511) / 512 := by
    rw [← roundedEq, ← rootBytesEq, Nat.shiftRight_eq_div_pow]
    rfl
  refine ⟨⟨table, Nat.pos_of_ne_zero reserved, isPowerOfTwo_pos power, ?_, dataEq.symm, ?_, bound,
    Nat.pos_of_ne_zero clusters, limitEq.symm, ?_, ?_⟩, by omega⟩
  · rw [← rootEq, ← areaEq]
  · dsimp only
    omega
  · intro is32
    have empty : boot.le16 17 = 0 := by
      by_contra filled
      exact wide ⟨is32, .inr (.inl filled)⟩
    refine ⟨?_, ?_⟩
    · change rootRounded >>> 9 = 0
      rw [rounded, empty]
    · have inRange : ¬ (_ ∨ _ ∨ _) := fun bad => root ⟨is32, bad⟩
      rw [not_or, not_or] at inRange
      exact ⟨Nat.le_of_not_lt inRange.1, Nat.lt_of_not_le inRange.2.1⟩
  · intro not32
    have filled : boot.le16 17 ≠ 0 := fun empty => narrow ⟨not32, .inr empty⟩
    change 0 < rootRounded >>> 9
    rw [rounded]
    omega

end DosC32
