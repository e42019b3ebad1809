import Mathlib.Tactic.Positivity
import DosC32.Model.DiskSpace

/-! # AH=36h never overstates the space of a volume

The clusters that are reported may be larger than those of the volume, and their number is rounded down and clamped.
-/

namespace DosC32

open Effect Register

namespace DiskSpace

variable (space : DiskSpace)

/-- The volumes that get an answer. Their allocation unit is a power of two between one sector and 32768 of them. -/
def Reportable : Prop :=
  space.reserved = 0 ∧ space.freeBytes ≤ space.totalBytes ∧
    (∃ exponent ≤ 15, space.allocationUnitBytes = 2 ^ exponent * 512) ∧
    space.allocationUnitBytes ∣ space.totalBytes ∧ space.allocationUnitBytes ∣ space.freeBytes

/-- The answer is at most what the volume has, and less than a cluster below it unless the total was clamped. -/
structure Reports (sectors bytes free total : ℕ) : Prop where
  freeHeld : sectors * bytes * free ≤ space.freeBytes
  totalHeld : sectors * bytes * total ≤ space.totalBytes
  ordered : free ≤ total
  bounded : total ≤ 0xfff6
  power : sectors.isPowerOfTwo
  tight : total = 0xfff6 ∧ sectors * bytes * (0xfff6 + 1) ≤ space.totalBytes ∨
    space.freeBytes < sectors * bytes * free + sectors * bytes ∧
      space.totalBytes < sectors * bytes * total + sectors * bytes

theorem divideLoop_pow (exponent total free : ℕ) :
    divideLoop (2 ^ exponent) total free = (total / 2 ^ exponent, free / 2 ^ exponent) := by
  induction exponent generalizing total free with
  | zero => simp [divideLoop]
  | succ exponent ih =>
    have half : 2 ^ (exponent + 1) >>> 1 = 2 ^ exponent := by omega
    rw [divideLoop, if_pos (Nat.one_lt_two_pow exponent.succ_ne_zero), half, ih]
    simp only [Nat.shiftRight_one, Nat.div_div_eq_div_mul, Nat.pow_succ']

/-- The loop halves the counts as often as it doubles the cluster, and stops before the cluster leaves 16 bits. -/
theorem fitLoop_spec (sectors total free : ℕ) :
    ∃ rounds, fitLoop sectors total free = (sectors * 2 ^ rounds, total / 2 ^ rounds, free / 2 ^ rounds) ∧
      (sectors * 2 ^ rounds ≤ 0xffff ↔ sectors ≤ 0xffff) := by
  fun_induction fitLoop sectors total free with
  | case1 sectors total free continues ih =>
    obtain ⟨rounds, result, fits⟩ := ih
    simp only [Nat.shiftLeft_eq, Nat.pow_one, Nat.shiftRight_one, Nat.div_div_eq_div_mul, Nat.mul_assoc,
      ← Nat.pow_succ'] at *
    exact ⟨rounds + 1, result, fits.trans (by omega)⟩
  | case2 => exact ⟨0, by simp⟩

theorem unit_iff (unit : ℕ) :
    (512 ≤ unit ∧ unit &&& (unit - 1) = 0 ∧ unit &&& 511 = 0) ↔ ∃ exponent, unit = 2 ^ exponent * 512 := by
  constructor
  · rintro ⟨large, power, -⟩
    obtain ⟨exponent, rfl⟩ := (Nat.and_sub_one_eq_zero_iff_isPowerOfTwo (by omega)).mp power
    have above : 9 ≤ exponent := (Nat.pow_le_pow_iff_right (a := 2) (by decide)).mp large
    exact ⟨exponent - 9, by rw [← Nat.pow_add 2 _ 9, Nat.sub_add_cancel above]⟩
  · rintro ⟨exponent, rfl⟩
    refine ⟨Nat.le_mul_of_pos_left _ (Nat.two_pow_pos _), ?_, ?_⟩
    · exact (Nat.and_sub_one_eq_zero_iff_isPowerOfTwo (by positivity)).mpr ⟨exponent + 9, (Nat.pow_add 2 _ 9).symm⟩
    · exact (Nat.and_two_pow_sub_one_eq_mod _ 9).trans (Nat.mul_mod_left ..)

theorem small_iff (exponent : ℕ) : 2 ^ exponent ≤ 0xffff ↔ exponent ≤ 15 := by
  rw [← Nat.lt_succ_iff, ← Nat.lt_succ_iff]
  exact Nat.pow_lt_pow_iff_right (a := 2) (m := 16) (by decide)

/-- Rounding down and clamping keep every bound of the answer. -/
theorem reports_of_power {sectors : ℕ} (power : sectors.isPowerOfTwo) (le : space.freeBytes ≤ space.totalBytes) :
    space.Reports sectors 512 (min (space.freeBytes / (sectors * 512)) 0xfff6)
      (min (space.totalBytes / (sectors * 512)) 0xfff6) := by
  have ordered := Nat.div_le_div_right (c := sectors * 512) le
  have positive : 0 < sectors * 512 := Nat.mul_pos (Nat.pos_of_isPowerOfTwo power) (by decide)
  have below (count : ℕ) : sectors * 512 * min (count / (sectors * 512)) 0xfff6 ≤ count :=
    (Nat.mul_le_mul_left _ (Nat.min_le_left ..)).trans (Nat.mul_div_le ..)
  refine ⟨below _, below _, by omega, Nat.min_le_right .., power, ?_⟩
  by_cases fits : space.totalBytes / (sectors * 512) ≤ 0xfff6
  · rw [Nat.min_eq_left fits, Nat.min_eq_left (ordered.trans fits)]
    exact .inr ⟨Nat.lt_mul_div_succ _ positive, Nat.lt_mul_div_succ _ positive⟩
  · rw [Nat.min_eq_right (by omega)]
    exact .inl ⟨rfl, Nat.mul_comm .. ▸ (Nat.le_div_iff_mul_le positive).mp (by omega)⟩

theorem clusters_spec :
    (space.clusters = none ∧ ¬ space.Reportable) ∨
      ∃ sectors free total, space.clusters = some (sectors, free, total) ∧ sectors ≤ 0xffff ∧ space.Reportable ∧
        space.Reports sectors 512 free total := by
  by_cases plain : space.reserved = 0 ∧ space.freeBytes ≤ space.totalBytes ∧
    ∃ exponent, space.allocationUnitBytes = 2 ^ exponent * 512
  · obtain ⟨zero, le, exponent, unit⟩ := plain
    have pow : 2 ^ exponent * 512 = 2 ^ (exponent + 9) := (Nat.pow_add 2 _ 9).symm
    have masked (count : ℕ) : count &&& (2 ^ exponent * 512 - 1) = 0 ↔ 2 ^ exponent * 512 ∣ count := by
      rw [pow, Nat.and_two_pow_sub_one_eq_mod, Nat.dvd_iff_mod_eq_zero]
    obtain ⟨rounds, result, fits⟩ := fitLoop_spec (2 ^ exponent) (space.totalBytes / (2 ^ exponent * 512))
      (space.freeBytes / (2 ^ exponent * 512))
    have power : (2 ^ exponent * 2 ^ rounds).isPowerOfTwo := ⟨exponent + rounds, (Nat.pow_add ..).symm⟩
    have divided := pow ▸ divideLoop_pow (exponent + 9) space.totalBytes space.freeBytes
    have shifted : (2 ^ exponent * 512) >>> 9 = 2 ^ exponent := by simp [Nat.shiftRight_eq_div_pow]
    simp only [clusters, Reportable, unit, masked, zero, le, (unit_iff _).mpr ⟨exponent, rfl⟩, divided, shifted,
      result, true_and, and_true, guard, Nat.div_div_eq_div_mul, Nat.mul_right_comm _ 512,
      (Nat.pos_of_isPowerOfTwo power).ne', ne_eq, not_false_eq_true, fits]
    by_cases multiple : 2 ^ exponent * 512 ∣ space.totalBytes ∧ 2 ^ exponent * 512 ∣ space.freeBytes
    · by_cases small : 2 ^ exponent ≤ 0xffff
      · exact .inr ⟨_, _, _, by simp [multiple, small], fits.mpr small,
          ⟨⟨exponent, (small_iff _).mp small, rfl⟩, multiple⟩, space.reports_of_power power le⟩
      · refine .inl ⟨by simp [small], ?_⟩
        rintro ⟨⟨other, few, same⟩, -⟩
        apply small
        exact Nat.eq_of_mul_eq_mul_right (by decide) same ▸ (small_iff _).mpr few
    · exact .inl ⟨by simp [multiple], fun reportable => multiple reportable.2⟩
  · refine .inl ⟨?_, fun all => plain ⟨all.1, all.2.1, all.2.2.1.imp fun _ => And.right⟩⟩
    rw [clusters, guard, if_neg]
    · rfl
    · rintro ⟨zero, large, power, mask, le⟩
      exact plain ⟨zero, le, (unit_iff _).mp ⟨large, power, mask⟩⟩

end DiskSpace

/-- Whatever the callback delivers, AX is FFFFh or the registers report the volume, and exactly the reportable volumes
get an answer. -/
theorem diskFreeSpace_never_overstates (query : UInt8 → Option DiskSpace) (registers : CpuState) :
    ∃ after, dispatchGetDiskFreeSpace (some query) registers = .ok () after ∧
      (low16 after.eax = 0xffff ∨ ∃ space, query (low8 registers.edx) = some space ∧
        space.Reports (low16 after.eax).toNat (low16 after.ecx).toNat (low16 after.ebx).toNat
          (low16 after.edx).toNat) ∧
      ∀ space, query (low8 registers.edx) = some space → (low16 after.eax ≠ 0xffff ↔ space.Reportable) := by
  refine ⟨_, rfl, ?_⟩
  cases delivered : query (low8 registers.edx) with
  | none => simp [delivered]
  | some space =>
    obtain ⟨refused, unreportable⟩ | ⟨sectors, free, total, answer, small, reportable, reports⟩ := space.clusters_spec
    · simp [delivered, refused, unreportable]
    · have exact16 {count : ℕ} (fits : count ≤ 0xffff) : (UInt16.ofNat count).toNat = count :=
        UInt16.toNat_ofNat_of_lt' (Nat.lt_succ_of_le fits)
      have ordered := reports.ordered
      have bounded := reports.bounded
      simp only [delivered, Option.bind_some, answer, low16_setLow16]
      refine ⟨.inr ⟨_, rfl, ?_⟩, fun _ same => ?_⟩
      · rwa [exact16 small, exact16 (by omega), exact16 (by omega)]
      · cases same
        refine iff_of_true (fun same => ?_) reportable
        obtain ⟨exponent, rfl⟩ := reports.power
        have few := Nat.pow_le_pow_right (n := 2) (by decide) ((DiskSpace.small_iff _).mp small)
        rw [← exact16 small, same] at few
        exact absurd few (by decide)

/-- A volume of three-sector clusters gets no answer, although its byte counts are multiples of the cluster. -/
theorem diskFreeSpace_refuses_three_sectors :
    dispatchGetDiskFreeSpace (some fun _ => some ⟨1536, 1536, 1536, 0⟩)
      ⟨0x3600, 0, 0, 0, 0, 0, 0, 0, 0, 0, 0, 0, 0, 0, 0, 0, 0⟩ =
      .ok () ⟨0xffff, 0, 0, 0, 0, 0, 0, 0, 0, 0, 0, 0, 0, 0, 0, 0, 0⟩ := rfl

end DosC32
