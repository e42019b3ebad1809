import DosC32.Core.Run
import DosC32.Proofs.FarRange

/-! # Chunked far transfers are bytewise transfers

A far range wraps its offset at 64 KiB and, with the A20 line off, its address at 1 MiB. The chunks
split at both wraps; byte by byte the transfers are what an access of every single byte would be.
-/

namespace DosC32.Machine

open Effect Store List

variable {machine : Machine} (guest : Guest)

/-- Guest memory after the first `count` bytes of a source went to their own addresses, one at a time. -/
def storeBytes (machine : Machine) (segment offset : UInt16) (source : List UInt8) (memory : ℕ → UInt8) : ℕ → ℕ → UInt8
  | 0 => memory
  | count + 1 => Function.update (machine.storeBytes segment offset source memory count)
      (machine.farAddress segment offset count) (source.getD count 0)

variable (segment offset : UInt16) {source : List UInt8}

theorem storeBytes_eq (memory : ℕ → UInt8) {count : ℕ} (fits : count ≤ source.length) :
    machine.storeBytes segment offset source memory count =
      save memory (machine.footprint segment offset count) (source.take count) := by
  rw [footprint_eq]
  induction count with
  | zero => rfl
  | succ count ih =>
    rw [storeBytes, ih (by omega), range_succ, map_append, take_succ_eq_append_getElem fits]
    have here : source.getD count 0 = source[count] := (getElem_eq_getD 0).symm
    rw [save_append memory (by simp; omega), here]
    rfl

/-- Two bytes of one range share an address only a whole segment apart. -/
theorem farAddress_ne {first second : ℕ} (before : first < second) (near : second - first < 65536) :
    machine.farAddress segment offset first ≠ machine.farAddress segment offset second := by
  have bound := offset.toNat_lt
  have apart : (offset + UInt16.ofNat first).toNat ≠ (offset + UInt16.ofNat second).toNat := by
    simp only [UInt16.toNat_add, UInt16.toNat_ofNat']
    omega
  have low := (offset + UInt16.ofNat first).toNat_lt
  have high := (offset + UInt16.ofNat second).toNat_lt
  simp only [farAddress, farToLinear, a20WrapAddress]
  split <;> omega

theorem footprint_nodup {count : ℕ} (small : count ≤ 65536) : (machine.footprint segment offset count).Nodup := by
  rw [footprint_eq]
  refine pairwise_map.mpr (List.Pairwise.imp_of_mem ?_ pairwise_lt_range)
  intro first second _ member before
  have bound := mem_range.mp member
  exact farAddress_ne segment offset before (by omega)

theorem load_save_footprint (memory : ℕ → UInt8) {count : ℕ} (fits : count ≤ source.length) (small : count ≤ 65536) :
    load (save memory (machine.footprint segment offset count) (source.take count))
      (machine.footprint segment offset count) =
      source.take count := by
  have total := machine.footprint_length segment offset count
  apply ext_getElem
  · simp [load, total, fits]
  · intro index below below'
    simp only [load, getElem_map]
    exact save_get memory (footprint_nodup segment offset small) index (by simpa [load] using below) below'

/-- On a running machine the check of a far range decides whether its addresses are below the limit. -/
theorem validateFar_iff (limit : 0 < machine.addressLimit ∧ machine.addressLimit ≤ guest32AddressLimit)
    (ready : machine.poisoned = 0) (segment offset : UInt16) (count : ℕ) :
    wp (machine.validateFar segment offset count) guest
      (fun _ next => next = guest ∧ ∀ index < count, machine.farAddress segment offset index < machine.addressLimit)
      (fun _ next => next = guest ∧ ¬ ∀ index < count, machine.farAddress segment offset index < machine.addressLimit) := by
  rw [← farChunks_valid_iff]
  exact wp_mono machine.validateFar_spec (fun _ _ valid => ⟨valid.1, valid.2.2⟩)
    fun _ _ refused => ⟨refused.1, refused.2 limit.1 limit.2 ready⟩

section Transfers

variable (limit : 0 < machine.addressLimit ∧ machine.addressLimit ≤ guest32AddressLimit) (ready : machine.poisoned = 0)
  (clean : machine.FaultFree) {segment offset : UInt16} {count : ℕ}
  (below : ∀ index < count, machine.farAddress segment offset index < machine.addressLimit)
include limit ready clean below

theorem readFar_returns {capacity : ℕ} (fits : count ≤ capacity) :
    wp (machine.readFar segment offset capacity count) guest
      (fun bytes next => next.memory = guest.memory ∧ bytes = load guest.memory (machine.footprint segment offset count))
      (fun _ _ => False) := by
  apply wp_mono (readFar_fails_spec clean.readable ready ⟨by omega, limit.2⟩ fits below)
  · rintro bytes next ⟨same, rfl, -⟩
    rw [footprint_eq, load, map_map]
    exact ⟨same, rfl⟩
  · exact fun _ _ fails => clean.not_readFails fails

theorem writeFar_returns (fits : count ≤ source.length) : wp (machine.writeFar segment offset source count) guest
      (fun _ next => next.memory = machine.storeBytes segment offset source guest.memory count) (fun _ _ => False) := by
  have total : ((machine.farChunks segment offset count).map Chunk.length).sum = count :=
    machine.farChunksLoop_sum segment offset (Nat.le_refl count)
  have valid := (machine.farChunks_valid_iff segment offset count).mpr below
  simp only [writeFar, wp_rules]
  refine ⟨fun _ _ => ⟨fun short => by omega, fun _ => ?_⟩, fun missing => ?_⟩
  · apply wp_mono (validateFar_iff guest limit ready segment offset count)
    · rintro _ guest ⟨rfl, -⟩
      apply wp_mono (machine.writeChunks_spec source _)
      · intro _ next stored
        rw [storeBytes_eq segment offset guest.memory fits, stored]
        conv_lhs => rw [← take_append_drop count source]
        have enough : (machine.footprint segment offset count).length ≤ (source.take count).length := by
          rw [footprint_length, length_take]
          omega
        exact save_append_values _ enough _
      · rintro _ next ⟨-, refused⟩
        exact refused clean (by omega) fun chunk member => ⟨ready, (valid chunk member).2⟩
    · exact fun _ _ invalid => invalid.2 below
  · obtain ⟨_, _, _, present, _⟩ := clean
    rw [missing] at present
    cases present

end Transfers

/-- The chunked transfers of a far range are the transfers of its bytes, one after the other. -/
structure Bytewise (machine : Machine) (guest : Guest) (segment offset : UInt16) (count : ℕ) : Prop where
  /-- A complete read returns every byte from its own address. -/
  reads : ∀ capacity, count ≤ capacity → wp (machine.readFar segment offset capacity count) guest
    (fun bytes next => next.memory = guest.memory ∧
      bytes = (range count).map fun index => guest.memory (machine.farAddress segment offset index))
    (fun _ _ => False)
  /-- A write stores every byte at its own address, in increasing order. -/
  writes : ∀ source : List UInt8, count ≤ source.length → wp (machine.writeFar segment offset source count) guest
    (fun _ next => next.memory = machine.storeBytes segment offset source guest.memory count) (fun _ _ => False)
  /-- Up to 64 KiB, what was written is read back and nothing else changes. -/
  readsBack : count ≤ 65536 → ∀ (source : List UInt8) (capacity : ℕ), count ≤ source.length → count ≤ capacity →
    wp (do machine.writeFar segment offset source count; machine.readFar segment offset capacity count) guest
      (fun bytes next => bytes = source.take count ∧ ∀ address,
        (∀ index < count, machine.farAddress segment offset index ≠ address) → next.memory address = guest.memory address)
      (fun _ _ => False)

/-- Every machine that `dos_machine_configure` accepts checks and transfers far ranges as if it went
through them byte by byte. -/
theorem far_transfer_bytewise {ops : MachineOps} {context addressLimit : ℕ} {a20Enabled : Bool} {machine : Machine}
    (configured : configure ops context addressLimit a20Enabled = .ok machine) (segment offset : UInt16) (count : ℕ)
    (guest : Guest) :
    (outcome (machine.validateFar segment offset count) guest = .ok () ↔
      ∀ index < count, farToLinear segment (offset + UInt16.ofNat index) a20Enabled < addressLimit) ∧
    (machine.FaultFree → (∀ index < count, farToLinear segment (offset + UInt16.ofNat index) a20Enabled < addressLimit) →
      machine.Bytewise guest segment offset count) := by
  unfold configure at configured
  split at configured
  · contradiction
  next accepted =>
  cases configured
  simp only [not_or, Nat.not_lt] at accepted
  set machine : Machine := ⟨some ops, context, addressLimit, a20Enabled, 0⟩ with isMachine
  have limit : 0 < machine.addressLimit ∧ machine.addressLimit ≤ guest32AddressLimit :=
    ⟨Nat.pos_of_ne_zero accepted.2.2.1, accepted.2.2.2⟩
  have ready : machine.poisoned = 0 := rfl
  have checked := validateFar_iff guest limit ready segment offset count
  refine ⟨⟨fun returned => (wp_outcome_ok checked returned).2, fun below => ?_⟩, fun clean below => ⟨?_, ?_, ?_⟩⟩
  · cases answer : outcome (machine.validateFar segment offset count) guest with
    | ok => rfl
    | error => exact absurd below (wp_outcome_error checked answer).2
  · intro capacity fits
    apply wp_returns (readFar_returns guest limit ready clean below fits)
    rintro bytes next ⟨same, rfl⟩
    rw [footprint_eq, load, map_map]
    exact ⟨same, rfl⟩
  · exact fun source fits => writeFar_returns guest limit ready clean below fits
  · intro small source capacity fits fits'
    rw [wp_bind]
    apply wp_returns (writeFar_returns guest limit ready clean below fits)
    intro _ middle stored
    rw [storeBytes_eq segment offset guest.memory fits] at stored
    apply wp_returns (readFar_returns middle limit ready clean below fits')
    rintro bytes next ⟨same, rfl⟩
    rw [same, stored]
    refine ⟨load_save_footprint segment offset guest.memory fits small, fun address outside => save_agreeOff _ _ _ _ ?_⟩
    rw [footprint_eq]
    intro inside
    obtain ⟨index, bound, same⟩ := mem_map.mp inside
    exact outside index (mem_range.mp bound) same

theorem far_transfer_bytewise_wrapped :
    outcome (ideal.validateFar 0x1000 0xfffe 4) ⟨fun _ => 0, 0⟩ = .ok () ∧
      ideal.Bytewise ⟨fun _ => 0, 0⟩ 0x1000 0xfffe 4 := by
  have below : ∀ index < 4, farToLinear 0x1000 (0xfffe + UInt16.ofNat index) true < 0x110000 := by decide
  have both := far_transfer_bytewise ideal_configured 0x1000 0xfffe 4 ⟨fun _ => 0, 0⟩
  exact ⟨both.1.mpr below, both.2 ideal_faultFree below⟩

/-- A far replacement happens or leaves memory alone, and its rollback bytes put back every byte at every wrap. -/
theorem replaceFar_undone (capacity count : ℕ) : wp (machine.replaceFar segment offset source capacity count) guest
    (fun rollback next => next.memory = save guest.memory (machine.footprint segment offset count) source ∧
      wp (machine.writeFar segment offset rollback count) next (fun _ last => last.memory = guest.memory)
        fun _ last => AgreeOff (machine.footprint segment offset count) last.memory guest.memory)
    (fun error next => error ≠ .rollbackFailed → next.memory = guest.memory) := by
  refine wp_mono_done machine.replaceFar_spec ?_
  rintro _ next ⟨rfl, agrees, stored⟩
  refine ⟨stored, wp_mono machine.writeFar_spec ?_ fun _ _ torn => torn.trans agrees⟩
  rintro _ last ⟨written, -⟩
  rw [written, save_load agrees]

end DosC32.Machine
