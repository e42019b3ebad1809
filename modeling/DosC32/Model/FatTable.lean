import DosC32.Core.Checked
import DosC32.Model.BlockDevice

/-! # FAT table entries

`storage/fat/entry.c`: the FAT12/16/32 entry formats and the placement of an entry in the mirrored
table copies. Results of the pure functions are `Except` values, with `FAT_TABLE_OK` as the
successful exit.
-/

namespace DosC32

/-- `enum fat_table_status` without `FAT_TABLE_OK`. -/
inductive FatTableError where
  | invalidArgument
  | invalidLayout
  | outOfRange
  | overflow

/-- `enum fat_table_variant`, as stored in the `fat_bits` fields. -/
def fatTable12 : ℕ := 12
def fatTable16 : ℕ := 16
def fatTable32 : ℕ := 32

/-- `struct fat_table_layout`. -/
structure FatTableLayout where
  (fatStart sectorsPerFat entryLimit sectorBytes fatCount fatBits : ℕ)

/-- `struct fat_table_position`. -/
structure FatTablePosition where
  (sectorIndex byteOffset sectorCount : ℕ)

/-- `struct fat_entry_format`. -/
structure FatEntryFormat where
  (valueMask reservedFirst badValue eocFirst storedBytes : ℕ)
  packed12bit : Bool

/-- `fat_entry_format_prepare`. -/
def fatEntryFormatPrepare (fatBits : ℕ) : Option FatEntryFormat :=
  if fatBits = fatTable12 then some ⟨0xfff, 0xff0, 0xff7, 0xff8, 2, true⟩
  else if fatBits = fatTable16 then some ⟨0xffff, 0xfff0, 0xfff7, 0xfff8, 2, false⟩
  else if fatBits = fatTable32 then some ⟨0x0fffffff, 0x0ffffff0, 0x0ffffff7, 0x0ffffff8, 4, false⟩
  else none

namespace FatEntryFormat

/-- `fat_entry_byte_offset`. -/
def fatEntryByteOffset (format : FatEntryFormat) (entry : ℕ) : Option ℕ :=
  if format.packed12bit then some (entry + entry >>> 1) else Checked.mul 64 entry format.storedBytes

end FatEntryFormat

/-- Name the failure of a checked operation. -/
def orFail {ε α : Type} (value : Option α) (error : ε) : Except ε α :=
  match value with
  | some value => .ok value
  | none => .error error

/-- The C idiom `if (condition) return error;` of a pure function. -/
def refuse {ε : Type} (condition : Prop) [Decidable condition] (error : ε) : Except ε Unit :=
  if condition then .error error else .ok ()

namespace FatTableLayout

variable (layout : FatTableLayout)

/-- `fat_table_validate_layout`. -/
def fatTableValidateLayout : Except FatTableError Unit := do
  let format ← orFail (fatEntryFormatPrepare layout.fatBits) .invalidLayout
  refuse (layout.sectorBytes ≠ blockDeviceSectorBytes ∨ layout.fatCount = 0 ∨ layout.sectorsPerFat = 0 ∨
    layout.entryLimit < 2 ∨ layout.entryLimit > format.reservedFirst) .invalidLayout
  let tableBytes ← orFail (Checked.mul 64 layout.sectorsPerFat layout.sectorBytes) .overflow
  let finalOffset ← orFail (format.fatEntryByteOffset (layout.entryLimit - 1)) .overflow
  let requiredBytes ← orFail (Checked.add 64 finalOffset format.storedBytes) .overflow
  refuse (requiredBytes > tableBytes) .invalidLayout

/-- `fat_table_locate`. -/
def fatTableLocate (entry : ℕ) : Except FatTableError FatTablePosition := do
  layout.fatTableValidateLayout
  refuse (entry ≥ layout.entryLimit) .outOfRange
  let format ← orFail (fatEntryFormatPrepare layout.fatBits) .overflow
  let byteOffset ← orFail (format.fatEntryByteOffset entry) .overflow
  let sectorIndex := (byteOffset >>> 9) % 2 ^ 32
  let offset := byteOffset &&& 511
  let sectorCount := if format.packed12bit ∧ offset = layout.sectorBytes - 1 then 2 else 1
  refuse (sectorIndex ≥ layout.sectorsPerFat ∨ (sectorCount = 2 ∧ sectorIndex ≥ layout.sectorsPerFat - 1))
    .invalidLayout
  pure ⟨sectorIndex, offset, sectorCount⟩

/-- `fat_table_copy_lba`. -/
def fatTableCopyLba (copyIndex sectorIndex : ℕ) : Except FatTableError ℕ := do
  layout.fatTableValidateLayout
  refuse (copyIndex ≥ layout.fatCount ∨ sectorIndex ≥ layout.sectorsPerFat) .outOfRange
  let copyStart ← orFail (Checked.mul 64 copyIndex layout.sectorsPerFat) .overflow
  let relativeLba ← orFail (Checked.add 64 copyStart sectorIndex) .overflow
  orFail (Checked.add 64 layout.fatStart relativeLba) .overflow

end FatTableLayout

end DosC32
