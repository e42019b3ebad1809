import DosC32.Model.FatTable
import Mathlib.Tactic.Ring

/-! # Contracts of the FAT table layer

What acceptance by `fat_table_validate_layout` gives: every entry below the limit is located inside
the table, and every sector of every copy has an address.
-/

namespace DosC32

open Checked FatEntryFormat

section Checks

variable {ε α : Type}

@[simp] theorem refuse_eq_ok {condition : Prop} [Decidable condition] {error : ε} {value : Unit} :
    refuse condition error = .ok value ↔ ¬ condition := by
  unfold refuse
  split <;> simp_all

@[simp] theorem orFail_eq_ok {value : Option α} {error : ε} {found : α} :
    orFail value error = .ok found ↔ value = some found := by
  cases value <;> simp [orFail]

end Checks

/-- The byte offset of an entry in its table. -/
def FatEntryFormat.offset (format : FatEntryFormat) (entry : ℕ) : ℕ :=
  if format.packed12bit then entry + entry / 2 else entry * format.storedBytes

variable {format : FatEntryFormat}

theorem fatEntryFormatPrepare_eq_some {fatBits : ℕ} :
    fatEntryFormatPrepare fatBits = some format ↔
      (fatBits = fatTable12 ∧ format = ⟨0xfff, 0xff0, 0xff7, 0xff8, 2, true⟩) ∨
      (fatBits = fatTable16 ∧ format = ⟨0xffff, 0xfff0, 0xfff7, 0xfff8, 2, false⟩) ∨
      (fatBits = fatTable32 ∧ format = ⟨0x0fffffff, 0x0ffffff0, 0x0ffffff7, 0x0ffffff8, 4, false⟩) := by
  unfold fatEntryFormatPrepare fatTable12 fatTable16 fatTable32
  split_ifs <;> simp_all [eq_comm]

theorem FatEntryFormat.fatEntryByteOffset_eq_some {entry value : ℕ}
    (found : format.fatEntryByteOffset entry = some value) : value = format.offset entry := by
  unfold fatEntryByteOffset at found
  unfold offset
  split_ifs at found ⊢
  · rw [Nat.shiftRight_one] at found
    exact (Option.some.inj found).symm
  · exact (mul_eq_some.mp found).2.symm

theorem FatEntryFormat.fatEntryByteOffset_of_lt {entry : ℕ}
    (fits : format.offset entry < 2 ^ 64) : format.fatEntryByteOffset entry = some (format.offset entry) := by
  unfold fatEntryByteOffset
  unfold offset at fits ⊢
  split_ifs at fits ⊢
  · rw [Nat.shiftRight_one]
  · exact mul_of_lt fits

theorem FatEntryFormat.offset_mono (format : FatEntryFormat) {entry entry' : ℕ} (le : entry ≤ entry') :
    format.offset entry ≤ format.offset entry' := by
  unfold offset
  split_ifs
  · omega
  · exact Nat.mul_le_mul_right _ le

namespace FatTableLayout

variable {layout : FatTableLayout}

/-- What the validator checked of a layout with the given entry format. -/
structure Valid (layout : FatTableLayout) (format : FatEntryFormat) : Prop where
  prepared : fatEntryFormatPrepare layout.fatBits = some format
  sectorBytes : layout.sectorBytes = 512
  copies : layout.fatCount ≠ 0
  lower : 2 ≤ layout.entryLimit
  upper : layout.entryLimit ≤ format.reservedFirst
  fits : format.offset (layout.entryLimit - 1) + format.storedBytes ≤ layout.sectorsPerFat * 512

theorem fatTableValidateLayout_valid (accepted : layout.fatTableValidateLayout = .ok ()) :
    ∃ format, layout.Valid format := by
  simp only [fatTableValidateLayout, bind_eq_ok, orFail_eq_ok, refuse_eq_ok, mul_eq_some,
    add_eq_some] at accepted
  obtain ⟨format, prepared, _, checks, tableBytes, ⟨_, rfl⟩, finalOffset, offset, required, ⟨_, rfl⟩, fits⟩ := accepted
  have place := fatEntryByteOffset_eq_some offset
  simp only [blockDeviceSectorBytes, not_or, not_not] at checks
  obtain ⟨bytes, copies, _, lower, upper⟩ := checks
  refine ⟨format, prepared, bytes, copies, by omega, by omega, ?_⟩
  rw [bytes, place] at fits
  omega

section Located

variable {format : FatEntryFormat} (valid : layout.Valid format)
include valid

/-- Every entry has its stored bytes inside the table. -/
theorem Valid.inside {entry : ℕ} (below : entry < layout.entryLimit) :
    format.offset entry + format.storedBytes ≤ layout.sectorsPerFat * 512 :=
  Nat.le_trans (Nat.add_le_add_right (format.offset_mono (by omega)) _) valid.fits

theorem Valid.offset_lt {entry : ℕ} (below : entry < layout.entryLimit) : format.offset entry < 2 ^ 32 := by
  have upper := valid.upper
  rcases fatEntryFormatPrepare_eq_some.mp valid.prepared with ⟨-, rfl⟩ | ⟨-, rfl⟩ | ⟨-, rfl⟩
  · simp only [offset, if_true] at upper ⊢
    omega
  · simp only [offset, Bool.false_eq_true, if_false] at upper ⊢
    omega
  · simp only [offset, Bool.false_eq_true, if_false] at upper ⊢
    omega

/-- Where an entry is found. -/
def position (format : FatEntryFormat) (entry : ℕ) : FatTablePosition :=
  ⟨format.offset entry / 512, format.offset entry % 512,
    if format.packed12bit ∧ format.offset entry % 512 = 511 then 2 else 1⟩

/-- The sectors an entry is found in belong to the table. -/
theorem Valid.position_inside {entry : ℕ} (below : entry < layout.entryLimit) :
    (position format entry).sectorIndex + (position format entry).sectorCount ≤ layout.sectorsPerFat := by
  have inside := valid.inside below
  unfold position
  dsimp only
  have stored : 2 ≤ format.storedBytes := by
    rcases fatEntryFormatPrepare_eq_some.mp valid.prepared with ⟨-, rfl⟩ | ⟨-, rfl⟩ | ⟨-, rfl⟩ <;> decide
  split_ifs with straddles
  · have last := straddles.2
    omega
  · omega

theorem Valid.fatTableLocate_eq (accepted : layout.fatTableValidateLayout = .ok ()) {entry : ℕ}
    (below : entry < layout.entryLimit) : layout.fatTableLocate entry = .ok (position format entry) := by
  have offsetLt := valid.offset_lt below
  have inside := valid.position_inside below
  have located := fatEntryByteOffset_of_lt (Nat.lt_trans offsetLt (by decide))
  simp only [fatTableLocate, accepted, valid.prepared, located, orFail, refuse, bind, Except.bind, pure, Except.pure,
    if_neg (show ¬ entry ≥ layout.entryLimit by omega)]
  have index : (format.offset entry >>> 9) % 2 ^ 32 = format.offset entry / 512 := by
    rw [Nat.shiftRight_eq_div_pow]
    exact Nat.mod_eq_of_lt (by omega)
  have low : format.offset entry &&& 511 = format.offset entry % 512 :=
    Nat.and_two_pow_sub_one_eq_mod (format.offset entry) 9
  rw [index, low, valid.sectorBytes]
  unfold position at inside ⊢
  dsimp only at inside
  rw [if_neg]
  rintro (high | ⟨two, high⟩)
  · split_ifs at inside <;> omega
  · rw [if_pos (by by_contra none; rw [if_neg none] at two; omega)] at inside
    omega

end Located

/-- The address of a sector of a copy. -/
theorem fatTableCopyLba_eq (accepted : layout.fatTableValidateLayout = .ok ())
    (bounded : layout.fatStart + layout.fatCount * layout.sectorsPerFat < 2 ^ 64) {copy index : ℕ}
    (copies : copy < layout.fatCount) (inside : index < layout.sectorsPerFat) :
    layout.fatTableCopyLba copy index = .ok (layout.fatStart + (copy * layout.sectorsPerFat + index)) := by
  have area : copy * layout.sectorsPerFat + layout.sectorsPerFat ≤ layout.fatCount * layout.sectorsPerFat := by
    calc copy * layout.sectorsPerFat + layout.sectorsPerFat = (copy + 1) * layout.sectorsPerFat := by ring
      _ ≤ layout.fatCount * layout.sectorsPerFat := Nat.mul_le_mul_right _ copies
  simp only [fatTableCopyLba, accepted, refuse, bind, Except.bind, orFail,
    if_neg (show ¬ (copy ≥ layout.fatCount ∨ index ≥ layout.sectorsPerFat) by omega),
    mul_of_lt (show copy * layout.sectorsPerFat < 2 ^ 64 by omega),
    add_of_lt (show copy * layout.sectorsPerFat + index < 2 ^ 64 by omega),
    add_of_lt (show layout.fatStart + (copy * layout.sectorsPerFat + index) < 2 ^ 64 by omega)]

end FatTableLayout

end DosC32
