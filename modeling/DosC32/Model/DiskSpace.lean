import DosC32.Model.ConsoleInput

/-! # Free disk space for DOS programs

`dispatch_get_disk_free_space` of `dos/int21.c`, the function 36h of INT 21h. The callback gives 64-bit byte counts
and a 32-bit allocation unit; every operation on them is a mask or a shift that cannot overflow.
-/

namespace DosC32

open Effect Register

/-- `struct dos_int21_disk_space`. -/
structure DiskSpace where
  (totalBytes freeBytes allocationUnitBytes reserved : ℕ)

namespace DiskSpace

/-- The loop that divides both byte counts by the allocation unit. -/
def divideLoop (divisor total free : ℕ) : ℕ × ℕ :=
  if divisor > 1 then divideLoop (divisor >>> 1) (total >>> 1) (free >>> 1) else (total, free)
termination_by divisor
decreasing_by rw [Nat.shiftRight_one]; omega

/-- The loop that enlarges the reported cluster until 16 bits hold the number of clusters. -/
def fitLoop (sectorsPerCluster total free : ℕ) : ℕ × ℕ × ℕ :=
  if total > 0xfff6 ∧ sectorsPerCluster ≤ 0x7fff then fitLoop (sectorsPerCluster <<< 1) (total >>> 1) (free >>> 1)
  else (sectorsPerCluster, total, free)
termination_by total
decreasing_by rw [Nat.shiftRight_one]; omega

/-- Sectors per cluster, free and total clusters; `none` where the function answers FFFFh. -/
def clusters (space : DiskSpace) : Option (ℕ × ℕ × ℕ) := do
  let unit := space.allocationUnitBytes
  guard (space.reserved = 0 ∧ 512 ≤ unit ∧ unit &&& (unit - 1) = 0 ∧ unit &&& 511 = 0 ∧
    space.freeBytes ≤ space.totalBytes)
  guard (space.totalBytes &&& (unit - 1) = 0 ∧ space.freeBytes &&& (unit - 1) = 0)
  let (total, free) := divideLoop unit space.totalBytes space.freeBytes
  let (sectorsPerCluster, total, free) := fitLoop (unit >>> 9) total free
  guard (sectorsPerCluster ≠ 0 ∧ sectorsPerCluster ≤ 0xffff)
  pure (sectorsPerCluster, min free 0xfff6, min total 0xfff6)

end DiskSpace

/-- `dispatch_get_disk_free_space`. DL is the callback's argument, and the callback's errors are not told apart. -/
def dispatchGetDiskFreeSpace (getDiskSpace : Option (UInt8 → Option DiskSpace)) :
    EStateM Console.Int21Error CpuState Unit := do
  let query ← demand getDiskSpace .unimplemented
  modify fun registers =>
    match (query (low8 registers.edx)).bind DiskSpace.clusters with
    | none => { registers with eax := setLow16 registers.eax 0xffff }
    | some (sectorsPerCluster, free, total) =>
      { registers with
        eax := setLow16 registers.eax (.ofNat sectorsPerCluster)
        ebx := setLow16 registers.ebx (.ofNat free)
        ecx := setLow16 registers.ecx 512
        edx := setLow16 registers.edx (.ofNat total) }

end DosC32
