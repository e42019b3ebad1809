import DosC32.Proofs.Machine

/-! # Far ranges byte by byte

The chunks of a far transfer visit the addresses of its bytes one after another, whatever wraps on
the way. A part of a range therefore reads a part of its bytes, and a read of addresses below the
limit can only fail in the backend.
-/

namespace DosC32.Machine

open Effect Store List

variable (machine : Machine) (guest : Guest)

/-- The linear address of one byte of a far range. -/
def farAddress (segment offset : UInt16) (index : ℕ) : ℕ :=
  farToLinear segment (offset + UInt16.ofNat index) machine.a20Enabled

section Footprint

variable (segment offset : UInt16) {remaining : ℕ}

theorem farAddress_add (first index : ℕ) :
    machine.farAddress segment (offset + UInt16.ofNat first) index = machine.farAddress segment offset (first + index) := by
  unfold farAddress
  rw [UInt16.ofNat_add, UInt16.add_assoc]

/-- Inside a chunk the addresses are consecutive. -/
theorem farAddress_chunk {index : ℕ} (inside : index < (machine.farTransferChunk segment offset remaining).length) :
    machine.farAddress segment offset index = (machine.farTransferChunk segment offset remaining).linear + index := by
  have bound := offset.toNat_lt
  simp only [farTransferChunk] at inside ⊢
  have short : index < 0x10000 - offset.toNat := by
    split at inside <;> omega
  have value : (offset + UInt16.ofNat index).toNat = offset.toNat + index := by
    rw [UInt16.toNat_add, UInt16.toNat_ofNat', Nat.mod_eq_of_lt (by omega : index < 2 ^ 16), Nat.mod_eq_of_lt (by omega)]
  unfold farAddress farToLinear
  rw [value]
  unfold farToLinear at inside
  simp only [a20WrapAddress] at inside ⊢
  split at inside
  next line =>
    rw [if_pos line, if_pos line]
    omega
  next line =>
    rw [if_neg line, if_neg line]
    omega

theorem farChunksLoop_pos {rounds : ℕ} (enough : remaining ≤ rounds) :
    ∀ chunk ∈ machine.farChunksLoop segment rounds offset remaining, chunk.length ≠ 0 := by
  induction rounds generalizing offset remaining with
  | zero => simp [farChunksLoop]
  | succ rounds ih =>
    rw [farChunksLoop]
    split
    · simp
    next some =>
      obtain ⟨positive, below⟩ := machine.farTransferChunk_pos segment offset some
      refine forall_mem_cons.mpr ⟨by omega, ih _ ?_⟩
      omega

theorem farChunksLoop_addresses {rounds : ℕ} (enough : remaining ≤ rounds) :
    (machine.farChunksLoop segment rounds offset remaining).flatMap Chunk.addresses =
      (range remaining).map (machine.farAddress segment offset) := by
  induction rounds generalizing offset remaining with
  | zero => simp [farChunksLoop, Nat.le_zero.mp enough]
  | succ rounds ih =>
    rw [farChunksLoop]
    split
    next none => simp [none]
    next some =>
      obtain ⟨positive, below⟩ := machine.farTransferChunk_pos segment offset some
      have inside := fun index => @farAddress_chunk machine segment offset remaining index
      set chunk := machine.farTransferChunk segment offset remaining with isChunk
      have split : range remaining = range chunk.length ++
          (range (remaining - chunk.length)).map (chunk.length + ·) := by
        rw [← range_add]
        congr 1
        omega
      rw [flatMap_cons, ih _ (by omega), split, map_append, map_map]
      congr 1
      · rw [Chunk.addresses, range'_eq_map_range]
        apply map_congr_left
        intro index member
        exact (inside index (mem_range.mp member)).symm
      · apply map_congr_left
        intro index _
        exact machine.farAddress_add segment offset chunk.length index

/-- The addresses of a far range are those of its bytes. -/
theorem footprint_eq (count : ℕ) :
    machine.footprint segment offset count = (range count).map (machine.farAddress segment offset) :=
  machine.farChunksLoop_addresses segment offset (Nat.le_refl count)

/-- The chunks of a range are valid just when its addresses are below the limit. -/
theorem farChunks_valid_iff (count : ℕ) :
    (∀ chunk ∈ machine.farChunks segment offset count,
      chunk.length ≠ 0 ∧ machine.guestRangeIsValid chunk.linear chunk.length) ↔
      ∀ index < count, machine.farAddress segment offset index < machine.addressLimit := by
  have addresses : (∀ index < count, machine.farAddress segment offset index < machine.addressLimit) ↔
      ∀ chunk ∈ machine.farChunks segment offset count, ∀ address ∈ chunk.addresses, address < machine.addressLimit := by
    have all := machine.footprint_eq segment offset count
    unfold footprint at all
    constructor
    · intro below chunk member address inside
      have listed : address ∈ (machine.farChunks segment offset count).flatMap Chunk.addresses :=
        mem_flatMap.mpr ⟨chunk, member, inside⟩
      rw [all] at listed
      obtain ⟨index, bound, rfl⟩ := mem_map.mp listed
      exact below index (mem_range.mp bound)
    · intro below index bound
      have listed : machine.farAddress segment offset index ∈
          (range count).map (machine.farAddress segment offset) := mem_map_of_mem (mem_range.mpr bound)
      rw [← all] at listed
      obtain ⟨chunk, member, inside⟩ := mem_flatMap.mp listed
      exact below chunk member _ inside
  rw [addresses]
  constructor
  · intro valid chunk member address inside
    obtain ⟨-, low, high⟩ := valid chunk member
    rw [Chunk.addresses, mem_range'_1] at inside
    omega
  · intro below chunk member
    have nonempty := machine.farChunksLoop_pos segment offset (Nat.le_refl count) chunk member
    have first := below chunk member chunk.linear (by rw [Chunk.addresses, mem_range'_1]; omega)
    have last := below chunk member (chunk.linear + chunk.length - 1) (by rw [Chunk.addresses, mem_range'_1]; omega)
    refine ⟨nonempty, first, ?_⟩
    omega

end Footprint

/-- A far read of addresses below the limit can only fail in the backend. -/
theorem readFar_fails_spec {machine : Machine} {guest : Guest} (readable : machine.Readable) {segment offset : UInt16}
    {capacity count : ℕ} (ready : machine.poisoned = 0)
    (limit : machine.addressLimit ≠ 0 ∧ machine.addressLimit ≤ guest32AddressLimit) (fits : count ≤ capacity)
    (below : ∀ index < count, machine.farAddress segment offset index < machine.addressLimit) :
    wp (machine.readFar segment offset capacity count) guest
      (fun bytes next => next.memory = guest.memory ∧
        bytes = (range count).map (fun index => guest.memory (machine.farAddress segment offset index)) ∧
        guest.calls ≤ next.calls)
      (fun _ next => machine.ReadFails guest.calls next.calls) := by
  have valid := (machine.farChunks_valid_iff segment offset count).mpr below
  apply wp_mono machine.readFar_spec
  · rintro bytes next ⟨same, rfl, later, -⟩
    rw [footprint_eq, load, map_map]
    exact ⟨same, rfl, later⟩
  · rintro _ next ⟨-, refused⟩
    exact refused.resolve_right fun refused => refused readable fits (Nat.pos_of_ne_zero limit.1) limit.2 ready valid

end DosC32.Machine
