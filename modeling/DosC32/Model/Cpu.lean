import DosC32.Model.Machine
import Mathlib.Tactic.IntervalCases

/-! # The guest CPU state

The register file of `include/dos_machine.h` and its partial accesses: DOS services read and write the
low halves of 32-bit registers and leave the upper halves alone.
-/

namespace DosC32

/-- `struct dos_cpu_state`. -/
structure CpuState where
  (eax ebx ecx edx esi edi ebp esp eip eflags : UInt32)
  (cs ss ds es fs gs : UInt16)
  mode : UInt32

namespace Register

variable (value : UInt32)

/-- `dos_register_low16`. -/
def low16 : UInt16 := (value &&& 0xffff).toUInt16

/-- `dos_register_low8`. -/
def low8 : UInt8 := (value &&& 0xff).toUInt8

/-- `dos_register_high8`. -/
def high8 : UInt8 := ((value >>> 8) &&& 0xff).toUInt8

/-- `dos_register_set_low16`. -/
def setLow16 (low : UInt16) : UInt32 := (value &&& (0xffff0000 : UInt32)) ||| low.toUInt32

/-- `dos_register_set_low8`. -/
def setLow8 (low : UInt8) : UInt32 := (value &&& (0xffffff00 : UInt32)) ||| low.toUInt32

/-- `dos_register_set_high8`. -/
def setHigh8 (high : UInt8) : UInt32 := (value &&& (0xffff00ff : UInt32)) ||| (high.toUInt32 <<< 8)

@[simp] theorem low16_setLow16 (low : UInt16) : low16 (setLow16 value low) = low := by
  apply UInt16.toBitVec_inj.mp
  apply BitVec.eq_of_getLsbD_eq
  intro index bound
  simp only [low16, setLow16, UInt32.toBitVec_toUInt16, UInt32.toBitVec_and, UInt32.toBitVec_or, UInt16.toBitVec_toUInt32,
    BitVec.getLsbD_setWidth, BitVec.getLsbD_and, BitVec.getLsbD_or]
  interval_cases index <;> simp

@[simp] theorem low8_setLow8 (low : UInt8) : low8 (setLow8 value low) = low := by
  apply UInt8.toBitVec_inj.mp
  apply BitVec.eq_of_getLsbD_eq
  intro index bound
  simp only [low8, setLow8, UInt32.toBitVec_toUInt8, UInt32.toBitVec_and, UInt32.toBitVec_or, UInt8.toBitVec_toUInt32,
    BitVec.getLsbD_setWidth, BitVec.getLsbD_and, BitVec.getLsbD_or]
  interval_cases index <;> simp

/-- XMS and EMS handles number the positions of their tables from one. -/
theorem position_lt {handle : UInt16} (bound : handle.toNat ≠ 0 ∧ handle.toNat ≤ 32) : handle.toNat - 1 < 32 := by
  omega

end Register

end DosC32
