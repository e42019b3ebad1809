import DosC32.Soundness.XmsBlocks

/-! # The data of XMS blocks

The backend keeps a byte array for every block in use. A reallocation hands the bytes of the handle on,
or leaves handle and bytes as they were.
-/

namespace DosC32.XmsWorld

open Effect Store Register List

variable {Memory : Type} (ops : XmsMemoryOps Memory) {a20 : A20Ops} (live : ℕ → Memory → Set ℕ)
  (bytes : ℕ → Memory → ℕ → ℕ → UInt8)

/-- The blocks have the same content in both memories. -/
def Alike (context : ℕ) (blocks : Set ℕ) (memory next : Memory) : Prop :=
  ∀ block ∈ blocks, bytes context next block = bytes context memory block

/-- After a definite failure the blocks in use are as before. -/
def Spares (context : ℕ) (memory : Memory) (status : XmsMemoryError) (next : Memory) : Prop :=
  status ≠ .uncertain → Alike bytes context (live context memory) memory next

/-- The blocks in use are byte arrays, which only a completed write changes. -/
structure Stores : Prop extends Lawful ops live where
  allocates : ∀ context size memory, wp (ops.allocate context size) memory
    (fun _ => Alike bytes context (live context memory) memory) (Spares live bytes context memory)
  releases : ∀ context block memory, block ∈ live context memory → wp (ops.release context block) memory
    (fun _ => Alike bytes context (live context memory \ {block}) memory) (Spares live bytes context memory)
  reads : ∀ context block offset count memory, block ∈ live context memory →
    wp (ops.read context block offset count) memory
      (fun buffer next => buffer = load (bytes context memory block) (range' offset count) ∧
        Alike bytes context (live context memory) memory next) (Spares live bytes context memory)
  writes : ∀ context block offset buffer memory, block ∈ live context memory →
    wp (ops.write context block offset buffer) memory
      (fun _ next => bytes context next block =
          save (bytes context memory block) (range' offset buffer.length) buffer ∧
        Alike bytes context (live context memory \ {block}) memory next) (Spares live bytes context memory)

/-- A copy of a block in use to a fresh one. -/
structure Copy (Memory : Type) where
  (context source destination : ℕ)
  kept : Set ℕ
  origin : Memory
  inUse : source ∈ kept
  fresh : destination ∉ kept

/-- The copy has come so far, and touched nothing else. -/
structure Copy.Reached (copy : Copy Memory) (completed : ℕ) (memory : Memory) : Prop where
  blocks : live copy.context memory = insert copy.destination copy.kept
  alike : Alike bytes copy.context copy.kept copy.origin memory
  copied : ∀ place < completed, bytes copy.context memory copy.destination place =
    bytes copy.context copy.origin copy.source place

def blockBytes (world : XmsWorld Memory) : ℕ → ℕ → UInt8 :=
  bytes world.manager.memoryContext world.memory

/-- The handle and its bytes are as before. -/
structure Unmoved (index : Fin 32) (before after : XmsWorld Memory) : Prop where
  table : after.manager.table index = before.manager.table index
  data : blockBytes bytes after (before.manager.handles index).block =
    blockBytes bytes before (before.manager.handles index).block

/-- The handle has the new size, and the bytes that fit in it. -/
structure Resized (index : Fin 32) (size : ℕ) (before after : XmsWorld Memory) : Prop where
  allocated : after.manager.handleIsAllocated index
  sized : (after.manager.handles index).sizeBytes = size
  data : ∀ place < min (before.manager.handles index).sizeBytes size,
    blockBytes bytes after (after.manager.handles index).block place =
      blockBytes bytes before (before.manager.handles index).block place

variable {ops live bytes}

section Copying

variable {copy : Copy Memory} {completed : ℕ} {memory next : Memory} (reached : copy.Reached live bytes completed memory)
include reached

theorem Copy.Reached.keep (same : live copy.context next = live copy.context memory)
    (untouched : Alike bytes copy.context (live copy.context memory) memory next) :
    copy.Reached live bytes completed next := by
  rw [reached.blocks] at untouched
  refine ⟨same.trans reached.blocks, fun block member => ?_, fun place below => ?_⟩
  · rw [untouched block (Set.mem_insert_of_mem _ member), reached.alike block member]
  · rw [untouched _ (Set.mem_insert _ _), reached.copied place below]

/-- One round of the loop. -/
theorem Copy.Reached.round (stores : Stores ops live bytes) (count : ℕ) :
    wp (do ops.write copy.context copy.destination completed (← ops.read copy.context copy.source completed count)) memory
      (fun _ => copy.Reached live bytes (completed + count))
      (fun status next => status ≠ .uncertain → copy.Reached live bytes completed next) := by
  have inUse : copy.source ∈ live copy.context memory := reached.blocks ▸ Set.mem_insert_of_mem _ copy.inUse
  rw [wp_bind]
  apply wp_mono (wp_and (stores.read _ _ _ _ memory) (stores.reads _ _ completed count memory inUse))
  · rintro buffer middle ⟨same, rfl, untouched⟩
    have reached' := reached.keep same untouched
    have held : copy.destination ∈ live copy.context middle := reached'.blocks ▸ Set.mem_insert _ _
    apply wp_mono (wp_and (stores.write _ _ _ _ middle) (stores.writes _ _ completed _ middle held))
    · rintro _ next ⟨same', written, others⟩
      rw [load, length_map, length_range', ← load] at written
      refine ⟨same'.trans reached'.blocks, fun block member => ?_, fun place below => ?_⟩
      · rw [others block ⟨reached'.blocks ▸ Set.mem_insert_of_mem _ member, fun same => copy.fresh (same ▸ member)⟩,
          reached'.alike block member]
      · rw [written, save_load_apply]
        split
        · rw [reached.alike _ copy.inUse]
        next later =>
          rw [mem_range'_1] at later
          exact reached'.copied place (by omega)
    · exact fun status next spared certain => reached'.keep (spared.1 certain) (spared.2 certain)
  · exact fun status next spared certain => reached.keep (spared.1 certain) (spared.2 certain)

/-- Enough rounds copy everything. -/
theorem Copy.Reached.loop (stores : Stores ops live bytes) {byteCount rounds : ℕ} (enough : byteCount ≤ completed + rounds) :
    wp (copyExtendedLoop ops copy.context copy.source copy.destination byteCount rounds completed) memory
      (fun _ => copy.Reached live bytes byteCount)
      (fun status next => status ≠ .uncertain → copy.Reached live bytes 0 next) := by
  induction rounds generalizing completed memory with
  | zero => exact ⟨reached.blocks, reached.alike, fun place below => reached.copied place (by omega)⟩
  | succ rounds ih =>
    simp only [copyExtendedLoop, wp_split]
    have restart : ∀ {completed next}, copy.Reached live bytes completed next → copy.Reached live bytes 0 next :=
      fun reached => ⟨reached.blocks, reached.alike, by simp⟩
    constructor
    · intro more
      have step := reached.round stores (min (byteCount - completed) xmsTransferBytes)
      rw [wp_bind] at step
      apply wp_mono step
      · intro buffer middle written
        apply wp_mono written
        · intro _ next reached'
          apply ih reached'
          unfold xmsTransferBytes
          omega
        · exact fun status next kept certain => restart (kept certain)
      · exact fun status next kept certain => restart (kept certain)
    · intro complete
      exact ⟨reached.blocks, reached.alike, fun place below => reached.copied place (by omega)⟩

end Copying

section Reallocation

variable {world : XmsWorld Memory} {index : Fin 32}

private theorem poisoned_ne {property : Prop} (clean : (1 : UInt8) = 0) : property := absurd clean (by decide)

variable {block : ℕ} (inUse : (world.manager.handles index).block ∈ liveBlocks live world)
  (fresh : block ∉ liveBlocks live world)

/-- The copy of a growing block. -/
def growth : Copy Memory :=
  ⟨world.manager.memoryContext, (world.manager.handles index).block, block, liveBlocks live world, world.memory,
    inUse, fresh⟩

/-- The new block is given back, and the old one was not touched. -/
theorem abandonGrant_data (stores : Stores ops live bytes) {memory : Memory} {status : XmsMemoryError}
    (reached : status ≠ .uncertain → (growth inUse fresh).Reached live bytes 0 memory) :
    wp (abandonGrant ops block status) { world with memory } (fun _ _ => False)
      (fun _ after => after.manager.poisoned = 0 → Unmoved bytes index world after) := by
  simp only [abandonGrant, wp_rules]
  by_cases certain : status = .uncertain
  · apply wp_callMemory_any
    all_goals exact fun _ _ => wp_memoryFault (fun _ => poisoned_ne) (fun known => absurd certain known)
  · obtain ⟨blocks, alike, -⟩ := reached certain
    rw [wp_callMemory]
    apply wp_mono (stores.releases _ block memory (blocks ▸ Set.mem_insert _ _))
    · intro _ released others
      refine wp_memoryFault (fun lost => absurd lost certain) (fun _ _ => ⟨rfl, ?_⟩)
      refine (others _ ⟨blocks ▸ Set.mem_insert_of_mem _ inUse, ?_⟩).trans (alike _ inUse)
      exact fun same => fresh (same ▸ inUse)
    · exact fun _ _ _ => wp_memoryFault (fun _ => poisoned_ne) (fun _ => poisoned_ne)

include inUse in
/-- What becomes of the data of a resolved, unlocked handle. -/
theorem reallocate_data (stores : Stores ops live bytes) {extended : Bool}
    (resolved : world.manager.resolveHandle (low16 world.cpu.edx) = some index)
    (unlocked : (world.manager.handles index).lockCount = 0) (positive : requestedKib extended world.cpu.ebx ≠ 0) :
    wp (reallocate ops extended) world
      (fun _ after => low16 after.cpu.eax = 1 ∧
          Resized bytes index (requestedKib extended world.cpu.ebx * 1024) world after ∨
        low16 after.cpu.eax = 0 ∧ Unmoved bytes index world after)
      (fun _ after => after.manager.poisoned = 0 → Unmoved bytes index world after) := by
  have allocated := resolveHandle_allocated resolved
  simp only [reallocate, withHandle, resolved, wp_split]
  refine ⟨absurd unlocked, fun _ => ⟨fun zero => absurd zero positive, fun _ => ⟨fun fits => ?_, fun _ => ?_⟩⟩⟩
  · simp only [setManager, returnSuccess, setCpu, wp_rules]
    left
    refine ⟨low16_setLow16 _ _, allocated, ?_, fun place _ => ?_⟩
    · simp [XmsManager.setHandle]
    · simp [XmsManager.setHandle, blockBytes]
  simp only [withGrant, wp_rules, wp_callMemory]
  apply wp_mono (wp_and (stores.allocate _ _ world.memory) (stores.allocates _ _ world.memory))
  · rintro grant memory ⟨⟨fresh, taken⟩, alike⟩
    simp only [wp_ite]
    constructor
    · intro _
      rw [wp_bind, wp_attempt]
      apply wp_callMemory_any
      all_goals exact fun _ _ => poisoned_ne
    · intro usable
      have reached : (growth inUse fresh).Reached live bytes 0 memory := ⟨taken, alike, by simp⟩
      rw [wp_bind, wp_attempt, wp_callMemory]
      apply wp_mono (reached.loop stores (Nat.le_add_left _ _))
      · intro _ copied reached'
        obtain ⟨blocks, alike', data⟩ := reached'
        rw [wp_bind, wp_attempt, wp_callMemory]
        have held : (world.manager.handles index).block ∈ live world.manager.memoryContext copied :=
          blocks ▸ Set.mem_insert_of_mem _ inUse
        apply wp_mono (wp_and (stores.release _ _ copied held) (stores.releases _ _ copied held))
        · rintro _ released ⟨-, others⟩
          simp only [setManager, returnSuccess, setCpu, wp_rules]
          left
          refine ⟨low16_setLow16 _ _, allocated, ?_, fun place below => ?_⟩
          · simp [XmsManager.setHandle, grantedHandle]
          · have new : grant.block ∈ live world.manager.memoryContext copied \ {(world.manager.handles index).block} :=
              ⟨blocks ▸ Set.mem_insert _ _, fun same => fresh (same ▸ inUse)⟩
            have here := congrFun (others _ new) place
            simp only [XmsManager.setHandle, Function.update_self, grantedHandle, blockBytes]
            exact here.trans (data place (Nat.lt_of_lt_of_le below (Nat.min_le_left _ _)))
        · rintro status released ⟨same, spared⟩
          apply wp_fails (abandonGrant_data inUse fresh stores fun certain => ?_) fun _ _ => id
          exact Copy.Reached.keep ⟨blocks, alike', by simp⟩ (same certain) (spared certain)
      · intro status copied reached'
        exact wp_fails (abandonGrant_data inUse fresh stores reached') fun _ _ => id
  · rintro status memory ⟨-, spared⟩
    cases status
    case noMemory =>
      exact .inr ⟨low16_setLow16 _ _, rfl, spared (by simp) _ inUse⟩
    all_goals exact wp_memoryFault (fun _ => poisoned_ne) (fun certain _ => ⟨rfl, spared certain _ inUse⟩)

end Reallocation

/-- Along every run of calls, a reallocation that succeeds keeps the data, and one that does not leaves the handle and
its bytes alone. -/
theorem xms_reallocation_keeps_data (stores : Stores ops live bytes) {memoryContext : ℕ} {config : XmsConfig}
    {origin start world : XmsWorld Memory} {history : List (CpuState × Except XmsError CpuState)}
    (unused : live memoryContext origin.memory = ∅)
    (initialized : dosXmsInitialize ops a20 memoryContext config origin = .ok () start)
    (run : Runs (request ops a20) (fun _ _ => True) start history world) {registers : CpuState} {extended : Bool}
    {index : Fin 32} (function : XmsFunction.ofByte (high8 registers.eax) = some (.reallocate extended))
    (resolved : world.manager.resolveHandle (low16 registers.edx) = some index)
    (unlocked : (world.manager.handles index).lockCount = 0) (positive : 0 < requestedKib extended registers.ebx) :
    wp (request ops a20 registers) world
      (fun result after => low16 result.eax = 1 ∧
          Resized bytes index (requestedKib extended registers.ebx * 1024) world after ∨
        low16 result.eax = 0 ∧ Unmoved bytes index world after)
      (fun _ after => after.manager.poisoned = 0 → Unmoved bytes index world after) := by
  have accounted : Accounted live world := run_accounted stores.toLawful unused initialized run
  simp only [request, dosXmsControl, setCpu, wp_rules, function]
  refine ⟨fun _ _ => ⟨rfl, rfl⟩, fun _ => ⟨fun poisoned clean => absurd clean poisoned, fun clean => ?_⟩⟩
  have inUse : (world.manager.handles index).block ∈ liveBlocks live { world with cpu := registers } :=
    owned_block (accounted (not_not.mp clean)) (resolveHandle_allocated resolved)
  have spec := reallocate_data inUse stores resolved unlocked (Nat.ne_of_gt positive)
  apply wp_mono spec
  · rintro _ after (⟨one, resized⟩ | ⟨zero, unmoved⟩)
    · exact .inl ⟨one, resized.allocated, resized.sized, resized.data⟩
    · exact .inr ⟨zero, unmoved.table, unmoved.data⟩
  · exact fun _ after unmoved clean => ⟨(unmoved clean).table, (unmoved clean).data⟩

/-- Blocks numbered upwards, each with its bytes. -/
structure Archive where
  blocks : List ℕ
  bytes : ℕ → ℕ → UInt8

def archiveOps : XmsMemoryOps Archive where
  query _ := pure ⟨0x100000, 0x100000, 0x20ffff⟩
  allocate _ size := fun archive =>
    .ok ⟨archive.blocks.sum + 1, 0x110000, size⟩ ⟨(archive.blocks.sum + 1) :: archive.blocks, archive.bytes⟩
  release _ block := fun archive => .ok () ⟨archive.blocks.filter (· ≠ block), archive.bytes⟩
  read _ block offset count := fun archive => .ok (load (archive.bytes block) (range' offset count)) archive
  write _ block offset buffer := fun archive =>
    .ok () ⟨archive.blocks, Function.update archive.bytes block
      (save (archive.bytes block) (range' offset buffer.length) buffer)⟩
  queryHma := none

theorem archive_stores :
    Stores archiveOps (fun _ archive => { block | block ∈ archive.blocks }) (fun _ => Archive.bytes) where
  query _ _ := rfl
  read _ _ _ _ _ := rfl
  write _ _ _ _ _ := rfl
  queryHma _ missing := by cases missing
  allocate _ _ archive := by
    refine ⟨fun member => ?_, ?_⟩
    · have small : archive.blocks.sum + 1 ≤ archive.blocks.sum := single_le_sum (fun _ _ => Nat.zero_le _) _ member
      omega
    · ext block
      simp
  release _ block archive _ := by
    ext other
    simp
  allocates _ _ _ _ _ := rfl
  releases _ _ _ _ _ _ := rfl
  reads _ _ _ _ _ _ := ⟨rfl, fun _ _ => rfl⟩
  writes _ block _ _ archive _ := by
    refine ⟨Function.update_self .., fun other member => ?_⟩
    exact Function.update_of_ne member.2 _ _

def archiveOrigin : XmsWorld Archive :=
  ⟨{ identity := 1, constructed := 1 }, steadyMachine, ⟨false, 0⟩, ⟨fun _ => 0, 0⟩, ⟨[], fun _ => UInt8.ofNat⟩, zeroCpu⟩

def archiveStart : XmsWorld Archive := final (dosXmsInitialize archiveOps steadyA20 1 { hmaMinimumBytes := 0 }) archiveOrigin

/-- One block of 4 KiB was allocated. -/
@[irreducible] def archiveWorld : XmsWorld Archive :=
  replay (request archiveOps steadyA20) archiveStart [{ zeroCpu with eax := 0x0900, edx := 4 }]

/-- It grows to 8 KiB. -/
def archiveGrow : CpuState := { zeroCpu with eax := 0x0f00, ebx := 8, edx := 1 }

theorem xms_reallocation_keeps_data_archive : ∃ result,
    outcome (request archiveOps steadyA20 archiveGrow) archiveWorld = .ok result ∧ low16 result.eax = 1 ∧
      Resized (fun _ => Archive.bytes) 0 (requestedKib false archiveGrow.ebx * 1024) archiveWorld
        (final (request archiveOps steadyA20 archiveGrow) archiveWorld) := by
  have initialized : dosXmsInitialize archiveOps steadyA20 1 { hmaMinimumBytes := 0 } archiveOrigin =
    .ok () archiveStart := rfl
  have unused : { block | block ∈ archiveOrigin.memory.blocks } = (∅ : Set ℕ) := by simp [archiveOrigin]
  obtain ⟨history, run⟩ : ∃ history, Runs (request archiveOps steadyA20) (fun _ _ => True) archiveStart history
      archiveWorld := by
    unfold archiveWorld
    exact Runs.extend .start _
  have function : XmsFunction.ofByte (high8 archiveGrow.eax) = some (.reallocate false) := by decide +kernel
  have resolved : archiveWorld.manager.resolveHandle (low16 archiveGrow.edx) = some 0 := by decide +kernel
  have unlocked : (archiveWorld.manager.handles 0).lockCount = 0 := by decide +kernel
  have spec := xms_reallocation_keeps_data archive_stores unused initialized run function resolved unlocked (by decide)
  have answer : (outcome (request archiveOps steadyA20 archiveGrow) archiveWorld).map (low16 ·.eax) = .ok 1 := by
    decide +kernel
  cases ran : outcome (request archiveOps steadyA20 archiveGrow) archiveWorld with
  | error status =>
    rw [ran] at answer
    cases answer
  | ok result =>
    have one : low16 result.eax = 1 := by
      rw [ran] at answer
      exact Except.ok.inj answer
    rcases wp_outcome_ok spec ran with ⟨-, resized⟩ | ⟨zero, -⟩
    · exact ⟨result, rfl, one, resized⟩
    · rw [one] at zero
      exact absurd zero (by decide)

end DosC32.XmsWorld
