import DosC32.Core.Checked
import DosC32.Soundness.FarTransfer
import DosC32.Soundness.XmsData

/-! # XMS moves

Guest memory and the blocks of the backend are one store of cells. A move copies a range of cells chunk by chunk,
in the order that the overlap test selects, so that no cell of the source is written before it is read.
-/

namespace DosC32.XmsWorld

open Effect Store Register List Endpoint MoveDescriptor

variable {Memory : Type} (ops : XmsMemoryOps Memory) {a20 : A20Ops} (context : ℕ) (extent : ℕ → ℕ) (valid : Memory → Prop)
  (bytes : Memory → ℕ → ℕ → UInt8) (world : XmsWorld Memory)

/-- All bytes of guest memory, and of the blocks. -/
def cells : ℕ ⊕ ℕ × ℕ → UInt8 :=
  Sum.elim world.guest.memory fun cell => bytes world.memory cell.1 cell.2

/-- The byte at a position of an endpoint. -/
def Endpoint.cell : Endpoint → ℕ → ℕ ⊕ ℕ × ℕ
  | .conventional linear, position => .inl (linear + position)
  | .extended block offset, position => .inr (block, offset + position)

/-- So many bytes are inside conventional memory, or inside the extent of the block. -/
def Endpoint.Fits (length : ℕ) : Endpoint → Prop
  | .conventional linear => linear + length ≤ a20WrapAddress
  | .extended block offset => offset + length ≤ extent block

/-- The backend completes every access inside the extents of its blocks. -/
structure Answers : Prop where
  reads : ∀ {memory block offset count}, valid memory → 0 < count → offset + count ≤ extent block →
    wp (ops.read context block offset count) memory
      (fun buffer next => valid next ∧ bytes next = bytes memory ∧
        buffer = load (bytes memory block) (range' offset count))
      (fun _ _ => False)
  writes : ∀ {memory block offset buffer}, valid memory → buffer ≠ [] → offset + buffer.length ≤ extent block →
    wp (ops.write context block offset buffer) memory
      (fun _ next => valid next ∧ bytes next = Function.update (bytes memory) block
        (save (bytes memory block) (range' offset buffer.length) buffer))
      (fun _ _ => False)

/-- A manager at work on a real-mode machine and a backend without faults. The extents hold what the handles promise. -/
structure FaultFree : Prop where
  lifetime : world.manager.managerLifetimeIsValid
  unpoisoned : world.manager.poisoned = 0
  machine : world.machine.Reliable
  running : world.machine.poisoned = 0
  reach : xmsHmaLimit ≤ world.machine.addressLimit
  answers : Answers ops world.manager.memoryContext extent valid bytes
  valid : valid world.memory
  backed : ∀ index, world.manager.handleIsAllocated index →
    (world.manager.handles index).sizeBytes ≤ extent (world.manager.handles index).block

variable {ops extent valid bytes world}

section Chunks

variable (faultFree : FaultFree ops extent valid bytes world) {endpoint : Endpoint} {length position count : ℕ}
  (fits : endpoint.Fits extent length) (inside : position + count ≤ length) (positive : 0 < count)
include faultFree

theorem FaultFree.reaches {address : ℕ} (positive : 0 < count) (below : address + count ≤ a20WrapAddress) :
    world.machine.Reaches address count := by
  have reach := faultFree.reach
  unfold xmsHmaLimit xmsHmaBase at reach
  unfold a20WrapAddress at below
  exact ⟨faultFree.running, by omega, by omega⟩

include fits inside positive

theorem readEndpoint_spec (small : count ≤ xmsTransferBytes) :
    wp (readEndpoint ops endpoint position count) world
      (fun buffer next => FaultFree ops extent valid bytes next ∧ cells bytes next = cells bytes world ∧
        buffer = (range' position count).map fun index => cells bytes world (endpoint.cell index))
      (fun _ _ => False) := by
  cases endpoint with
  | conventional linear =>
    simp only [readEndpoint, onGuest, wp_rules]
    apply wp_mono (Machine.read_spec _)
    · rintro buffer guest ⟨same, rfl, -⟩
      refine ⟨{ faultFree with }, by simp only [cells, same], ?_⟩
      rw [load, ← map_add_range', map_map]
      rfl
    · rintro _ guest ⟨-, -, refused⟩
      have clean := faultFree.machine.clean
      exact refused.resolve_left clean.not_readFails clean.readable small
        (faultFree.reaches positive (by unfold Fits at fits; omega))
  | extended block offset =>
    simp only [readEndpoint, wp_rules, wp_callMemory]
    apply wp_returns (faultFree.answers.reads faultFree.valid positive (by unfold Fits at fits; omega))
    rintro buffer memory ⟨valid, same, rfl⟩
    refine ⟨{ faultFree with valid }, by simp only [cells, same], ?_⟩
    rw [load, ← map_add_range', map_map]
    rfl

theorem writeEndpoint_spec (value : ℕ → UInt8) :
    wp (writeEndpoint ops endpoint position ((range' position count).map value) count) world
      (fun _ next => FaultFree ops extent valid bytes next ∧
        Assigned endpoint.cell ({ index | index ∈ range' position count }) value (cells bytes world) (cells bytes next))
      (fun _ _ => False) := by
  have all : ((range' position count).map value).take count = (range' position count).map value :=
    take_of_length_le (by simp)
  cases endpoint with
  | conventional linear =>
    simp only [writeEndpoint, onGuest, wp_rules]
    apply wp_mono (Machine.write_spec _)
    · rintro _ guest ⟨written, -⟩
      rw [all] at written
      have assigned := assigned_save world.guest.memory linear position count value
      rw [← written] at assigned
      refine ⟨{ faultFree with }, assigned.data, fun cell outside => ?_⟩
      cases cell with
      | inl address => exact assigned.frame address fun index member same => outside index member (congrArg Sum.inl same)
      | inr cell => rfl
    · rintro _ guest ⟨-, refused⟩
      refine refused faultFree.machine.clean (by simp) (faultFree.reaches positive ?_)
      unfold Fits at fits
      omega
  | extended block offset =>
    simp only [writeEndpoint, wp_rules, wp_callMemory, all]
    apply wp_returns (faultFree.answers.writes faultFree.valid (by simp; omega) (by simp [Fits] at fits ⊢; omega))
    rintro _ memory ⟨valid, written⟩
    have assigned := assigned_save (bytes world.memory block) offset position count value
    rw [length_map, length_range'] at written
    refine ⟨{ faultFree with valid }, fun index member => ?_, fun cell outside => ?_⟩
    · simpa [cells, cell, written] using assigned.data index member
    · cases cell with
      | inl address => rfl
      | inr cell =>
        obtain ⟨other, place⟩ := cell
        by_cases same : other = block
        · subst same
          simpa [cells, written] using
            assigned.frame place fun index member equal => outside index member (by rw [cell, equal])
        · simp [cells, written, same]

end Chunks

section Loop

variable {source destination : Endpoint} {length completed : ℕ}

/-- The positions that a move has passed, from either end. -/
def passed (backward : Bool) (length completed : ℕ) : Set ℕ :=
  { index | index < length ∧ bif backward then length ≤ index + completed else index < completed }

/-- One round passes one more chunk. -/
theorem passed_add (backward : Bool) {count : ℕ} (room : completed + count ≤ length) :
    passed backward length (completed + count) = passed backward length completed ∪
      { index | index ∈ range' (if backward then length - completed - count else completed) count } := by
  ext index
  cases backward <;> simp [passed, mem_range'_1] <;> omega

theorem notMem_passed_zero (backward : Bool) (index : ℕ) : index ∉ passed backward length 0 := by
  cases backward <;> simp [passed]

theorem passed_length (backward : Bool) (complete : length ≤ completed) :
    passed backward length completed = { index | index < length } := by
  ext index
  cases backward <;> simp [passed] <;> omega

theorem cell_injective (endpoint : Endpoint) : Function.Injective endpoint.cell := by
  intro index index' same
  cases endpoint <;> simpa [cell] using same

/-- No position that was passed shares its destination with the source of a later one. -/
theorem cell_ne {count index other : ℕ} (room : completed + count ≤ length)
    (later : index ∈ range' (if backward length source destination then length - completed - count else completed) count)
    (earlier : other ∈ passed (backward length source destination) length completed) :
    destination.cell other ≠ source.cell index := by
  intro same
  cases back : backward length source destination <;> rw [back] at later earlier
  all_goals
    simp only [passed, mem_range'_1, Set.mem_ofPred_eq, cond_true, cond_false, if_true, Bool.false_eq_true, if_false]
      at later earlier
    cases source <;> cases destination <;> simp [cell, backward] at same back <;> omega

/-- The rounds of a move, after some of them. -/
theorem moveLoop_spec {origin : ℕ ⊕ ℕ × ℕ → UInt8} (fits : source.Fits extent length)
    (fits' : destination.Fits extent length) {rounds : ℕ} (enough : length ≤ completed + rounds)
    (faultFree : FaultFree ops extent valid bytes world)
    (assigned : Assigned destination.cell (passed (backward length source destination) length completed)
      (fun index => origin (source.cell index)) origin (cells bytes world)) :
    wp (moveLoop ops source destination length rounds completed) world
      (fun _ next => Assigned destination.cell { index | index < length }
        (fun index => origin (source.cell index)) origin (cells bytes next))
      (fun _ _ => False) := by
  induction rounds generalizing completed world with
  | zero => exact passed_length _ enough ▸ assigned
  | succ rounds ih =>
    simp only [moveLoop, wp_split]
    refine ⟨fun more => ?_, fun complete => passed_length _ (Nat.not_lt.mp complete) ▸ assigned⟩
    have room : completed + min (length - completed) xmsTransferBytes ≤ length := by omega
    have positive : 0 < min (length - completed) xmsTransferBytes := by
      unfold xmsTransferBytes
      omega
    have inside : (if backward length source destination then length - completed - min (length - completed) xmsTransferBytes
        else completed) + min (length - completed) xmsTransferBytes ≤ length := by
      split <;> omega
    apply wp_returns (readEndpoint_spec faultFree fits inside positive (Nat.min_le_right _ _))
    rintro buffer middle ⟨faultFree', same, rfl⟩
    apply wp_returns (writeEndpoint_spec faultFree' fits' inside positive _)
    rintro _ next ⟨faultFree'', assigned'⟩
    rw [same] at assigned'
    refine ih (by omega) faultFree'' ?_
    rw [passed_add _ room]
    refine assigned.union assigned' (cell_injective _) fun index later => ?_
    exact assigned.frame _ fun other earlier => cell_ne room later earlier

end Loop

/-- The checks on a move, in the order in which they are made. -/
def validateMove (manager : XmsManager) (move : MoveDescriptor) : Except UInt8 (Endpoint × Endpoint) :=
  if move.length = 0 ∨ move.length.toNat % 2 ≠ 0 then .error xmsErrorInvalidLength
  else do
    let source ← decodeEndpoint manager move.sourceHandle move.sourceOffset move.length true
    let destination ← decodeEndpoint manager move.destinationHandle move.destinationOffset move.length false
    pure (source, destination)

/-- The descriptor at DS:SI. -/
def moveDescriptor (world : XmsWorld Memory) (registers : CpuState) : MoveDescriptor :=
  parse (load world.guest.memory
    (world.machine.footprint registers.ds (low16 registers.esi) xmsMoveDescriptorBytes))

/-- A valid move assigns the bytes of its source, as they were before, to its destination and changes nothing else;
an invalid one changes nothing. -/
def MoveDone (bytes : Memory → ℕ → ℕ → UInt8) (before : XmsWorld Memory) (move : MoveDescriptor) (result : CpuState)
    (after : XmsWorld Memory) : Prop :=
  match validateMove before.manager move with
  | .ok (source, destination) => low16 result.eax = 1 ∧
    Assigned destination.cell { index | index < move.length.toNat } (fun index => cells bytes before (source.cell index))
      (cells bytes before) (cells bytes after)
  | .error code => low16 result.eax = 0 ∧ low8 result.ebx = code ∧ cells bytes after = cells bytes before

theorem decodeEndpoint_fits (faultFree : FaultFree ops extent valid bytes world) {handleNumber : UInt16}
    {encodedOffset length : UInt32} {source : Bool} {endpoint : Endpoint}
    (decoded : decodeEndpoint world.manager handleNumber encodedOffset length source = .ok endpoint) :
    endpoint.Fits extent length.toNat := by
  simp only [decodeEndpoint] at decoded
  split at decoded
  · split at decoded
    · cases decoded
    · cases decoded
      unfold Fits a20WrapAddress
      omega
  · split at decoded
    · cases decoded
    next index resolved =>
      have backed := faultFree.backed index (resolveHandle_allocated resolved)
      split at decoded
      · cases decoded
      · cases decoded
        unfold Fits
        omega

/-- What `move_memory` does with the descriptor. -/
theorem moveMemory_eq : moveMemory ops = (do
    let world ← get
    let raw ← onGuest (world.machine.readFar world.cpu.ds (low16 world.cpu.esi) xmsMoveDescriptorBytes
      xmsMoveDescriptorBytes)
    match validateMove world.manager (parse raw) with
    | .error code => returnFailure code
    | .ok (source, destination) =>
      moveLoop ops source destination (parse raw).length.toNat (parse raw).length.toNat 0
      returnSuccess) := by
  unfold moveMemory
  congr with world
  congr with raw
  dsimp only [validateMove]
  split_ifs
  · rfl
  · cases decodeEndpoint world.manager _ _ _ true with
    | error => rfl
    | ok => cases decodeEndpoint world.manager _ _ _ false <;> rfl

theorem validateMove_fits (faultFree : FaultFree ops extent valid bytes world) {move : MoveDescriptor}
    {source destination : Endpoint} (accepted : validateMove world.manager move = .ok (source, destination)) :
    source.Fits extent move.length.toNat ∧ destination.Fits extent move.length.toNat := by
  unfold validateMove at accepted
  split at accepted
  · cases accepted
  · simp only [Checked.bind_eq_ok, Checked.pure_eq_ok] at accepted
    obtain ⟨_, first, _, second, pair⟩ := accepted
    cases pair
    exact ⟨decodeEndpoint_fits faultFree first, decodeEndpoint_fits faultFree second⟩

/-- A move through function 0Bh is a memmove. -/
theorem xms_move_is_memmove (faultFree : FaultFree ops extent valid bytes world) {registers : CpuState}
    (function : XmsFunction.ofByte (high8 registers.eax) = some .move) :
    wp (request ops a20 registers) world
      (fun result after => MoveDone bytes world (moveDescriptor world registers) result after) (fun _ _ => False) := by
  simp only [request, dosXmsControl, setCpu, wp_rules, function]
  refine ⟨absurd faultFree.lifetime, fun _ => ⟨absurd faultFree.unpoisoned, fun _ => ?_⟩⟩
  have limit := faultFree.reach
  have below : ∀ index < xmsMoveDescriptorBytes, world.machine.farAddress registers.ds (low16 registers.esi) index <
      world.machine.addressLimit := by
    intro index _
    have segment := registers.ds.toNat_lt
    have offset := (low16 registers.esi + UInt16.ofNat index).toNat_lt
    unfold xmsHmaLimit xmsHmaBase xmsHmaBytes at limit
    simp only [Machine.farAddress, Machine.farToLinear, a20WrapAddress]
    split <;> omega
  simp only [performFunction, moveMemory_eq, onGuest, wp_rules]
  apply wp_returns (Machine.readFar_returns world.guest ⟨Nat.lt_of_lt_of_le (by decide) limit, faultFree.machine.limit⟩
    faultFree.running faultFree.machine.clean below (Nat.le_refl _))
  rintro raw guest ⟨same, rfl⟩
  have start : FaultFree ops extent valid bytes { world with guest, cpu := registers } := { faultFree with }
  have untouched : cells bytes { world with guest, cpu := registers } = cells bytes world := by simp only [cells, same]
  unfold MoveDone moveDescriptor
  generalize parse _ = move
  cases decision : validateMove world.manager move with
  | error code =>
    simp only [returnFailure, setCpu, wp_rules]
    exact ⟨low16_setLow16 _ _, low8_setLow8 _ _, untouched⟩
  | ok endpoints =>
    obtain ⟨fits, fits'⟩ := validateMove_fits faultFree decision
    simp only [returnSuccess, setCpu, wp_rules]
    have nothing : Assigned endpoints.2.cell
        (passed (backward move.length.toNat endpoints.1 endpoints.2) move.length.toNat 0)
        (fun index => cells bytes world (endpoints.1.cell index)) (cells bytes world)
        (cells bytes { world with guest, cpu := registers }) :=
      ⟨fun index member => absurd member (notMem_passed_zero _ index), fun cell _ => congrFun untouched cell⟩
    refine wp_returns (moveLoop_spec fits fits' (Nat.le_add_left _ _) start nothing) ?_
    exact fun _ next moved => ⟨low16_setLow16 _ _, moved⟩

/-- One block of 4 KiB is allocated, and the descriptor at 0000:0000 moves 300 bytes of it up by two. -/
@[irreducible] def moveWorld : XmsWorld Archive where
  manager :=
    { memoryContext := 1, identity := 1, generation := 1, initialized := 1, constructed := 1, allocatedBitmap := 1,
      handles := fun _ => { block := 1, sizeBytes := 4096, capacityBytes := 4096 } }
  machine := steadyMachine
  line := ⟨false, 0⟩
  guest := ⟨fun address => [0x2c, 1, 0, 0, 1, 0, 0, 0, 0, 0, 1, 0, 2, 0, 0, 0].getD address 0, 0⟩
  memory := ⟨[1], fun _ => UInt8.ofNat⟩
  cpu := zeroCpu

def moveCall : CpuState := { zeroCpu with eax := 0x0b00 }

theorem xms_move_is_memmove_overlapping :
    validateMove moveWorld.manager (moveDescriptor moveWorld moveCall) = .ok (.extended 1 0, .extended 1 2) ∧
      wp (request archiveOps steadyA20 moveCall) moveWorld
        (fun result after => MoveDone Archive.bytes moveWorld (moveDescriptor moveWorld moveCall) result after)
        (fun _ _ => False) := by
  have faultFree : FaultFree archiveOps (fun _ => 4096) (fun _ => True) Archive.bytes moveWorld := by
    unfold moveWorld
    exact
      { lifetime := by decide
        unpoisoned := rfl
        machine := ⟨⟨_, _, rfl, rfl, fun _ => rfl, fun _ => rfl⟩, by decide⟩
        running := rfl
        reach := by decide
        answers := ⟨fun _ _ _ => ⟨trivial, rfl, rfl⟩, fun _ _ _ => ⟨trivial, rfl⟩⟩
        valid := trivial
        backed := fun _ _ => Nat.le_refl _ }
  exact ⟨by unfold moveWorld; decide +kernel, xms_move_is_memmove faultFree (by decide)⟩

end DosC32.XmsWorld
