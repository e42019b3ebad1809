import Mathlib.Algebra.GroupWithZero.Nat

/-! # Little-endian words

Bytes are composed and split arithmetically. Composition inverts splitting at either width, which
is all that a field accessor and its setter need of each other.
-/

namespace LittleEndian

/-- The 16-bit word with the given low and high byte. -/
def word (low high : UInt8) : UInt16 := UInt16.ofNat (low.toNat + 256 * high.toNat)

def lowByte (value : UInt16) : UInt8 := UInt8.ofNat value.toNat
def highByte (value : UInt16) : UInt8 := UInt8.ofNat (value.toNat / 256)

/-- The 32-bit word with the given bytes, lowest first. -/
def double (byte0 byte1 byte2 byte3 : UInt8) : UInt32 :=
  UInt32.ofNat (byte0.toNat + 256 * byte1.toNat + 65536 * byte2.toNat + 16777216 * byte3.toNat)

theorem toNat_word (low high : UInt8) : (word low high).toNat = low.toNat + 256 * high.toNat := by
  have lowBound := low.toNat_lt
  have highBound := high.toNat_lt
  simp only [word, UInt16.toNat_ofNat']
  omega

@[simp] theorem word_bytes (value : UInt16) : word (lowByte value) (highByte value) = value := by
  have bound := value.toNat_lt
  apply UInt16.toNat_inj.mp
  rw [toNat_word]
  simp only [lowByte, highByte, UInt8.toNat_ofNat']
  omega

end LittleEndian
