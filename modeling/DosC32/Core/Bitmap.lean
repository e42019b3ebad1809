import Mathlib.Algebra.GroupWithZero.Nat
import Mathlib.Data.Fintype.Basic

/-! # Bit sets in machine words

Membership is tested with a one-bit mask, as C code does it; the lemmas reduce the mask operations to
the bits of the word.
-/

namespace Bitmap

open Function

variable {width : ℕ} (bits : BitVec width) (index : ℕ)

/-- `bits & (1 << index)` is not zero. -/
def test : Bool := bits &&& (BitVec.ofNat width 1 <<< index) != BitVec.ofNat width 0

/-- `bits | (1 << index)`. -/
def insert : BitVec width := bits ||| (BitVec.ofNat width 1 <<< index)

/-- `bits & ~(1 << index)`. -/
def erase : BitVec width := bits &&& ~~~(BitVec.ofNat width 1 <<< index)

variable {index}

theorem test_eq_getLsbD (inside : index < width) : test bits index = bits.getLsbD index := by
  unfold test
  rw [← BitVec.twoPow_eq, BitVec.and_twoPow]
  have nonzero : BitVec.twoPow width index ≠ BitVec.ofNat width 0 := by
    intro zero
    have selected := congrArg (fun word => word.getLsbD index) zero
    simp [inside] at selected
  cases bits.getLsbD index <;> simp [nonzero]

theorem test_zero (index : ℕ) : test (BitVec.ofNat width 0) index = false := by
  simp [test]

private theorem getLsbD_mask (inside : index < width) (other : ℕ) :
    (BitVec.ofNat width 1 <<< index).getLsbD other = decide (other = index) := by
  rw [← BitVec.twoPow_eq, BitVec.getLsbD_twoPow]
  by_cases same : other = index
  · simp [same, inside]
  · simp [same, Ne.symm same]

theorem test_insert {other : ℕ} (inside : index < width) (inside' : other < width) :
    test (insert bits index) other = (decide (other = index) || test bits other) := by
  rw [test_eq_getLsbD _ inside', test_eq_getLsbD _ inside', insert, BitVec.getLsbD_or, getLsbD_mask inside, Bool.or_comm]

theorem test_erase {other : ℕ} (inside : index < width) (inside' : other < width) :
    test (erase bits index) other = (!decide (other = index) && test bits other) := by
  rw [test_eq_getLsbD _ inside', test_eq_getLsbD _ inside', erase, BitVec.getLsbD_and, BitVec.getLsbD_not,
    getLsbD_mask inside, Bool.and_comm]
  simp [inside']

theorem test_or (left right : BitVec width) (inside : index < width) :
    test (left ||| right) index = (test left index || test right index) := by
  rw [test_eq_getLsbD _ inside, test_eq_getLsbD _ inside, test_eq_getLsbD _ inside, BitVec.getLsbD_or]

/-! ## Arrays of words -/

section Words

variable (words : ℕ → BitVec 32)

/-- `(words[index >> 5] & (1 << (index & 31))) != 0`. -/
def testAt (index : ℕ) : Bool := test (words (index / 32)) (index % 32)

/-- `words[index >> 5] |= 1 << (index & 31)`. -/
def insertAt (index : ℕ) : ℕ → BitVec 32 :=
  update words (index / 32) (insert (words (index / 32)) (index % 32))

/-- `words[index >> 5] &= ~(1 << (index & 31))`. -/
def eraseAt (index : ℕ) : ℕ → BitVec 32 :=
  update words (index / 32) (erase (words (index / 32)) (index % 32))

/-- Insert the indices of a list, in order. -/
def insertAll (indices : List ℕ) : ℕ → BitVec 32 := indices.foldl insertAt words

/-- Erase the indices of a list, in order. -/
def eraseAll (indices : List ℕ) : ℕ → BitVec 32 := indices.foldl eraseAt words

theorem testAt_zero (index : ℕ) : testAt (fun _ => BitVec.ofNat 32 0) index = false := test_zero _

theorem testAt_insertAt (index other : ℕ) :
    testAt (insertAt words index) other = (decide (other = index) || testAt words other) := by
  unfold testAt insertAt
  by_cases sameWord : other / 32 = index / 32
  · rw [sameWord, update_self, test_insert _ (Nat.mod_lt _ (by decide)) (Nat.mod_lt _ (by decide))]
    congr 2
    apply propext
    omega
  · rw [update_of_ne sameWord]
    have different : other ≠ index := fun same => sameWord (by rw [same])
    simp [different]

theorem testAt_eraseAt (index other : ℕ) :
    testAt (eraseAt words index) other = (!decide (other = index) && testAt words other) := by
  unfold testAt eraseAt
  by_cases sameWord : other / 32 = index / 32
  · rw [sameWord, update_self, test_erase _ (Nat.mod_lt _ (by decide)) (Nat.mod_lt _ (by decide))]
    congr 3
    apply propext
    omega
  · rw [update_of_ne sameWord]
    have different : other ≠ index := fun same => sameWord (by rw [same])
    simp [different]

theorem testAt_insertAll (indices : List ℕ) (other : ℕ) :
    testAt (insertAll words indices) other = true ↔ other ∈ indices ∨ testAt words other = true := by
  induction indices generalizing words with
  | nil => simp [insertAll]
  | cons index rest ih =>
    rw [insertAll, List.foldl_cons, ← insertAll, ih, testAt_insertAt, List.mem_cons, Bool.or_eq_true, decide_eq_true_eq]
    tauto

theorem testAt_eraseAll (indices : List ℕ) (other : ℕ) :
    testAt (eraseAll words indices) other = true ↔ other ∉ indices ∧ testAt words other = true := by
  induction indices generalizing words with
  | nil => simp [eraseAll]
  | cons index rest ih =>
    rw [eraseAll, List.foldl_cons, ← eraseAll, ih, testAt_eraseAt, List.mem_cons, Bool.and_eq_true, Bool.not_eq_true',
      decide_eq_false_iff_not]
    tauto

end Words

end Bitmap
