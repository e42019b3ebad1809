import DosC32.Core.Run
import DosC32.Proofs.ArenaRelease

/-! # The MCB arena over whole runs

On a reliable machine an initialized arena keeps its blocks tiling the paragraphs it was given,
over every sequence of calls, whichever of them fail.
-/

namespace DosC32.Memory

open Effect Store Machine

/-- The public operations of the arena. -/
inductive ArenaCall where
  | arenaConstruct (identity : ℕ)
  | arenaInitialize (headSegment endSegment : UInt16)
  | arenaValidate
  | arenaPoison
  | queryMaximum
  | allocate (ownerPsp paragraphs : UInt16)
  | allocateNamed (owner : OwnerIdentity) (paragraphs : UInt16)
  | free (blockSegment : UInt16)
  | freeOwned (blockSegment expectedOwner : UInt16)
  | prepareOwnerRebind (blockSegment expectedOwner newOwner : UInt16)
  | prepareOwnerNamePatchRebind (blockSegment expectedOwner newOwner : UInt16) (patch : OwnerNamePatch)
  | transferOwner (blockSegment expectedOwner newOwner : UInt16)
  | transferNamedOwner (blockSegment expectedOwner : UInt16) (newOwner : OwnerIdentity)
  | transferOwnerNamePatch (blockSegment expectedOwner newOwner : UInt16) (patch : OwnerNamePatch)
  | resize (blockSegment currentPsp paragraphs : UInt16)
  | freeProcess (ownerPsp : UInt16)
  | getStrategy
  | setStrategy (strategy : UInt8)

/-- Perform a call, forgetting its output values. -/
def ArenaCall.perform (machine : Machine) : ArenaCall → MemoryM Unit
  | .arenaConstruct identity => Memory.arenaConstruct identity
  | .arenaInitialize headSegment endSegment => Memory.arenaInitialize machine headSegment endSegment
  | .arenaValidate => Memory.arenaValidate machine
  | .arenaPoison => Memory.arenaPoison
  | .queryMaximum => (fun _ => ()) <$> Memory.queryMaximum machine
  | .allocate ownerPsp paragraphs =>
    mapError Refusal.status ((fun _ => ()) <$> Memory.allocate machine ownerPsp paragraphs)
  | .allocateNamed owner paragraphs =>
    mapError Refusal.status ((fun _ => ()) <$> Memory.allocateNamed machine owner paragraphs)
  | .free blockSegment => Memory.free machine blockSegment
  | .freeOwned blockSegment expectedOwner => Memory.freeOwned machine blockSegment expectedOwner
  | .prepareOwnerRebind blockSegment expectedOwner newOwner =>
    (fun _ => ()) <$> Memory.prepareOwnerRebind machine blockSegment expectedOwner newOwner
  | .prepareOwnerNamePatchRebind blockSegment expectedOwner newOwner patch =>
    (fun _ => ()) <$> Memory.prepareOwnerNamePatchRebind machine blockSegment expectedOwner newOwner patch
  | .transferOwner blockSegment expectedOwner newOwner =>
    Memory.transferOwner machine blockSegment expectedOwner newOwner
  | .transferNamedOwner blockSegment expectedOwner newOwner =>
    Memory.transferNamedOwner machine blockSegment expectedOwner newOwner
  | .transferOwnerNamePatch blockSegment expectedOwner newOwner patch =>
    Memory.transferOwnerNamePatch machine blockSegment expectedOwner newOwner patch
  | .resize blockSegment currentPsp paragraphs =>
    mapError Refusal.status ((fun _ => ()) <$> Memory.resize machine blockSegment currentPsp paragraphs)
  | .freeProcess ownerPsp => Memory.freeProcess machine ownerPsp
  | .getStrategy => (fun _ => ()) <$> Memory.getStrategy
  | .setStrategy strategy => Memory.setStrategy strategy

variable (state : ArenaState)

/-- The chain as it is found in guest memory from the head of the arena. -/
def arenaBlocks : Option (List Mcb) :=
  walkChain state.cells mcbMaximumWalk state.arena.headSegment

theorem arenaBlocks_eq {state : ArenaState} {stop : ℕ} {blocks : List Mcb}
    (chain : ArenaChain state stop blocks) : arenaBlocks state = some blocks := by
  obtain ⟨block, rest, rfl, segment⟩ := Chain.exists_head chain
  have whole : ArenaChain state stop ([] ++ block :: rest) := chain
  rw [arenaBlocks, ← segment]
  exact whole.walk_eq chain.length_le

/-- The segment follows a header that is currently in the chain. -/
def IsBlockStart (blockSegment : UInt16) : Prop :=
  ∃ blocks block, arenaBlocks state = some blocks ∧ block ∈ blocks ∧ blockSegment = block.segment + 1

theorem IsBlockStart.exists_block {state : ArenaState} {stop : ℕ} {blocks : List Mcb}
    (chain : ArenaChain state stop blocks) {blockSegment : UInt16} (start : IsBlockStart state blockSegment) :
    ∃ before block after, blocks = before ++ block :: after ∧ blockSegment = block.segment + 1 := by
  obtain ⟨found, block, walked, member, rfl⟩ := start
  cases (arenaBlocks_eq chain).symm.trans walked
  obtain ⟨before, after, shape⟩ := List.append_of_mem member
  exact ⟨before, block, after, shape, rfl⟩

/-- The calls made to a live arena. `free` and `resize` are applied to blocks of the chain. -/
def ArenaCall.Admissible : ArenaCall → Prop
  | .arenaConstruct _ | .arenaInitialize _ _ | .arenaPoison => False
  | .free blockSegment | .resize blockSegment _ _ => IsBlockStart state blockSegment
  | _ => True

/-- A ready arena whose chain tiles `[headSegment, stop)` within reach of the machine. -/
structure Sound (machine : Machine) (headSegment : UInt16) (stop : ℕ) (state : ArenaState)
    (blocks : List Mcb) : Prop where
  ready : Ready state.arena
  head : state.arena.headSegment = headSegment
  chain : Chain state.cells headSegment.toNat stop blocks
  addressable : ∀ block ∈ blocks, Reached machine block.segment

namespace Sound

variable {machine : Machine} {headSegment : UInt16} {stop : ℕ} {state next : ArenaState} {blocks blocks' : List Mcb}

variable (sound : Sound machine headSegment stop state blocks) {block : Mcb}
include sound

/-- The chain from the head as the arena has it. -/
theorem headed : ArenaChain state stop blocks := by
  rw [ArenaChain, sound.head]
  exact sound.chain

theorem not_refused (reliable : machine.Reliable) : ¬ Refused machine blocks :=
  fun refused => refused reliable sound.addressable

theorem moves (arena : next.arena = state.arena) (chain : Chain next.cells headSegment.toNat stop blocks')
    (starts : ∀ block ∈ blocks', Reached machine block.segment ∨ ∃ old ∈ blocks, old.segment = block.segment) :
    Sound machine headSegment stop next blocks' := by
  refine ⟨arena ▸ sound.ready, arena ▸ sound.head, chain, fun block member => ?_⟩
  rcases starts block member with reached | ⟨old, isOld, same⟩
  · exact reached
  · exact same ▸ sound.addressable old isOld

theorem unchanged (same : Unchanged state next) : Sound machine headSegment stop next blocks :=
  sound.moves same.1 (same.chain sound.chain) (fun block member => .inr ⟨block, member, rfl⟩)

theorem searched (effect : Searched state next headSegment.toNat stop [] blocks blocks') :
    Sound machine headSegment stop next blocks' :=
  sound.moves effect.arena effect.chain (fun _ member => .inr (effect.merging.exists_segment member))

omit sound

theorem absorbed {before rest run rest' : List Mcb}
    (sound : Sound machine headSegment stop state (before ++ block :: rest))
    (effect : Absorbed state next headSegment.toNat stop before block rest run rest') :
    Sound machine headSegment stop next (before ++ block.absorbAll run :: rest') :=
  sound.moves effect.arena effect.chain (List.forall_mem_append.mpr ⟨fun new inside => .inr ⟨new, by simp [inside], rfl⟩,
    List.forall_mem_cons.mpr ⟨.inr ⟨block, by simp⟩, fun new inside => .inr ⟨new, by simp [effect.shape, inside], rfl⟩⟩⟩)

theorem placed {before pieces after : List Mcb}
    (sound : Sound machine headSegment stop state (before ++ block :: after))
    (effect : Placed machine state next headSegment.toNat stop before pieces after) :
    Sound machine headSegment stop next (before ++ (pieces ++ after)) := by
  refine sound.moves effect.arena effect.chain (fun new member => ?_)
  simp only [List.mem_append] at member
  rcases member with inside | piece | inside
  · exact .inr ⟨new, by simp [inside], rfl⟩
  · exact .inl (effect.reached new piece)
  · exact .inr ⟨new, by simp [inside], rfl⟩

include sound

theorem relabelled {record : McbRecord}
    (effect : Relabelled machine state next state.arena.headSegment.toNat stop blocks block record) :
    ∃ blocks', Sound machine headSegment stop next blocks' := by
  rw [sound.head] at effect
  have located := sound
  rw [effect.shape] at located
  exact ⟨_, located.placed effect.placed⟩

theorem allocated {paragraphs owner : UInt16} {name : Option (Fin 8 → UInt8)} {result : AllocationResult}
    (effect : Allocated machine state next stop blocks paragraphs owner name result) :
    ∃ blocks', Sound machine headSegment stop next blocks' := by
  have searched := effect.searched
  have placed := effect.placed
  rw [sound.head] at searched placed
  have middle := sound.searched searched
  rw [effect.shape] at middle
  exact ⟨_, middle.placed placed⟩

omit sound

theorem resized {before rest : List Mcb} {paragraphs currentPsp : UInt16}
    (sound : Sound machine headSegment stop state (before ++ block :: rest))
    (effect : Resized machine state next headSegment.toNat stop before block rest paragraphs currentPsp) :
    ∃ blocks', Sound machine headSegment stop next blocks' :=
  ⟨_, (sound.absorbed effect.absorbed).placed effect.placed⟩

include sound

/-- A failed search or placement on a reliable machine. -/
theorem failed (reliable : machine.Reliable)
    (outcome : Lost machine state next ∨ ∃ blocks', Swept state next stop blocks blocks') :
    ∃ blocks', Sound machine headSegment stop next blocks' := by
  rcases outcome with lost | ⟨blocks', effect⟩
  · exact (lost.2 reliable).elim
  · rw [Swept, sound.head] at effect
    exact ⟨blocks', sound.searched effect⟩

theorem kept (reliable : machine.Reliable)
    (outcome : Lost machine state next ∨ Unchanged state next) : Sound machine headSegment stop next blocks := by
  rcases outcome with lost | same
  · exact (lost.2 reliable).elim
  · exact sound.unchanged same

end Sound

variable {machine : Machine} {headSegment : UInt16} {stop : ℕ} {state : ArenaState} {blocks : List Mcb}

private theorem allocate_step (reliable : machine.Reliable) (sound : Sound machine headSegment stop state blocks)
    (owner : UInt16) (name : Option (Fin 8 → UInt8)) (paragraphs : UInt16) :
    Leaves (allocateCheckedCommon machine owner name paragraphs) state
      (fun next => ∃ blocks', Sound machine headSegment stop next blocks') := by
  apply wp_mono (allocateCheckedCommon_outcome owner name paragraphs sound.headed)
  · rintro _ next ⟨effect, -⟩
    exact sound.allocated effect
  · exact fun _ next outcome => sound.failed reliable outcome.1

private theorem transfer_step (reliable : machine.Reliable) (sound : Sound machine headSegment stop state blocks)
    (blockSegment expectedOwner newOwner : UInt16) (newName : Option ((Fin 8 → UInt8) × UInt8)) :
    Leaves (transferOwnerCommon machine blockSegment expectedOwner newOwner newName) state
      (fun next => ∃ blocks', Sound machine headSegment stop next blocks') := by
  apply wp_mono (transferOwnerCommon_spec sound.headed)
  · rintro _ next ⟨_, block, _, _, _, ⟨effect⟩⟩
    exact sound.relabelled effect
  · exact fun _ next outcome => ⟨blocks, sound.kept reliable outcome⟩

theorem prepareOwnerRebindCommon_sound (sound : Sound machine headSegment stop state blocks)
    (blockSegment expectedOwner newOwner : UInt16) (newName : Option ((Fin 8 → UInt8) × UInt8)) :
    Leaves (prepareOwnerRebindCommon machine blockSegment expectedOwner newOwner newName) state
      (fun next => next.arena = state.arena ∧ Sound machine headSegment stop next blocks) := by
  apply wp_mono (prepareOwnerRebindCommon_spec sound.headed)
  · exact fun _ next outcome => ⟨outcome.1.1, sound.unchanged outcome.1⟩
  · exact fun _ next same => ⟨same.1, sound.unchanged same⟩

/-- Every admissible call keeps a sound arena sound, whichever exit it takes. -/
theorem sound_step (reliable : machine.Reliable) (sound : Sound machine headSegment stop state blocks)
    (call : ArenaCall) (admissible : call.Admissible state) :
    Leaves (call.perform machine) state (fun next => ∃ blocks', Sound machine headSegment stop next blocks') := by
  have chain := sound.headed
  have kept : ∃ blocks, Sound machine headSegment stop state blocks := ⟨blocks, sound⟩
  have rebound (blockSegment expectedOwner newOwner newName) :
      Leaves (prepareOwnerRebindCommon machine blockSegment expectedOwner newOwner newName) state
        (fun next => ∃ blocks', Sound machine headSegment stop next blocks') :=
    (prepareOwnerRebindCommon_sound sound ..).mono fun _ same => ⟨blocks, same.2⟩
  cases call with
  | arenaConstruct | arenaInitialize | arenaPoison => exact admissible.elim
  | arenaValidate =>
    apply wp_mono (arenaValidate_spec sound.ready chain)
    · exact fun _ next same => ⟨blocks, sound.unchanged same⟩
    · exact fun _ next outcome => ⟨blocks, sound.unchanged outcome.1⟩
  | queryMaximum =>
    simp only [ArenaCall.perform, wp_map]
    refine wp_mono (queryMaximum_spec chain) ?_ (fun _ next outcome => sound.failed reliable outcome)
    exact fun _ next outcome => sound.failed reliable (.inr ⟨_, outcome.2⟩)
  | allocate ownerPsp paragraphs =>
    simp only [ArenaCall.perform, wp_mapError, wp_map]
    exact allocate_step reliable sound _ _ _
  | allocateNamed owner paragraphs =>
    simp only [ArenaCall.perform, Memory.allocateNamed, wp_rules, wp_map]
    exact ⟨fun _ => kept, fun _ => allocate_step reliable sound _ _ _⟩
  | free blockSegment =>
    obtain ⟨before, block, after, rfl, rfl⟩ := IsBlockStart.exists_block chain admissible
    have member : block ∈ before ++ block :: after := by simp
    refine wp_mono (free_spec chain member) ?_ fun _ next outcome => ⟨_, sound.kept reliable outcome⟩
    exact fun _ next effect => effect.elim sound.relabelled
  | freeOwned blockSegment expectedOwner =>
    refine wp_mono (freeOwned_spec chain) ?_
      fun _ next outcome => ⟨_, sound.kept reliable outcome⟩
    rintro _ next ⟨_, block, _, _, ⟨effect⟩⟩
    exact sound.relabelled effect
  | prepareOwnerRebind blockSegment expectedOwner newOwner =>
    simp only [ArenaCall.perform, wp_map]
    exact rebound _ _ _ _
  | prepareOwnerNamePatchRebind blockSegment expectedOwner newOwner patch =>
    simp only [ArenaCall.perform, Memory.prepareOwnerNamePatchRebind, wp_map, wp_rules]
    exact ⟨fun _ => kept, fun _ => rebound _ _ _ _⟩
  | transferOwner blockSegment expectedOwner newOwner => exact transfer_step reliable sound _ _ _ _
  | transferNamedOwner | transferOwnerNamePatch =>
    simp only [ArenaCall.perform, Memory.transferNamedOwner, Memory.transferOwnerNamePatch, wp_rules]
    exact ⟨fun _ => kept, fun _ => transfer_step reliable sound _ _ _ _⟩
  | resize blockSegment currentPsp paragraphs =>
    obtain ⟨before, block, after, rfl, rfl⟩ := IsBlockStart.exists_block chain admissible
    simp only [ArenaCall.perform, wp_mapError, wp_map]
    apply wp_mono (resize_outcome currentPsp paragraphs sound.chain)
    · rintro _ next ⟨effect, -⟩
      exact sound.resized effect
    · rintro _ next ⟨lost | ⟨run, rest, effect⟩, -⟩
      · exact (lost.2 reliable).elim
      · exact ⟨_, sound.absorbed effect⟩
  | freeProcess ownerPsp =>
    apply wp_mono (freeProcess_spec ownerPsp chain)
    · rintro _ next ⟨arena, freed, _⟩
      rw [sound.head] at freed
      refine ⟨_, sound.moves arena freed (fun new member => ?_)⟩
      obtain ⟨old, isOld, rfl⟩ := List.mem_map.mp member
      exact .inr ⟨old, isOld, (releaseOwned_segment _ _).symm⟩
    · rintro _ next (⟨_, refused⟩ | same)
      · exact (sound.not_refused reliable refused).elim
      · exact ⟨blocks, sound.unchanged same⟩
  | getStrategy =>
    simp only [ArenaCall.perform, Memory.getStrategy, strategyReady, wp_map, wp_rules]
    exact ⟨fun _ => kept, fun _ => ⟨fun _ => kept, fun _ => ⟨fun _ => kept, fun _ => kept⟩⟩⟩
  | setStrategy strategy =>
    apply wp_mono (setStrategy_spec strategy)
    · rintro _ next ⟨rfl, ready⟩
      exact ⟨blocks, { ready with }, sound.head, sound.chain, sound.addressable⟩
    · rintro _ next rfl
      exact kept

/-- A successful initialization leaves one free block over the whole arena. -/
theorem arenaInitialize_spec (machine : Machine) (state : ArenaState) (headSegment endSegment : UInt16) :
    wp (arenaInitialize machine headSegment endSegment) state
      (fun _ next => ∃ blocks, Sound machine headSegment endSegment.toNat next blocks) (fun _ _ => True) := by
  simp only [arenaInitialize, wp_all]
  intro accepted healthy _ _
  simp only [not_or, not_not, UInt16.not_le, UInt16.lt_iff_toNat_lt] at accepted
  obtain ⟨encoding, identity, nonempty⟩ := accepted
  have bound := endSegment.toNat_lt
  refine wp_mono replaceRecordBytes_spec ?_ (fun _ _ _ => trivial)
  rintro _ next ⟨arena, cells, reaches⟩
  have chain : ∃ blocks, Chain next.cells headSegment.toNat endSegment.toNat blocks ∧
      ∀ block ∈ blocks, Reached machine block.segment := by
    rw [cells]
    refine ⟨_, Chain.single state.cells headSegment (by simp) ?_ (by omega), by simpa using reaches⟩
    simp only [McbRecord.size_setSize, UInt16.toNat_ofNat']
    omega
  obtain ⟨blocks, chain, reached⟩ := chain
  refine ⟨blocks, ⟨?_, ?_, Nat.succ_ne_zero _, (by decide : (0 : UInt8) ≠ 1), rfl⟩, rfl, chain, reached⟩
  · rw [arena]
    exact ⟨(by decide : (1 : UInt8) ≤ 1), (by decide : (0 : UInt8) ≤ 1), rfl, encoding.2.2.2⟩
  · rw [arena]
    exact identity

/-- What it means for an arena to occupy exactly the paragraphs `[headSegment, endSegment)`. -/
structure Occupies (machine : Machine) (headSegment endSegment : UInt16) (state : ArenaState)
    (blocks : List Mcb) : Prop where
  walked : arenaBlocks state = some blocks
  increasing : (blocks.map Mcb.first).Pairwise (· < ·)
  signed : Signed blocks
  inside : ∀ block ∈ blocks, headSegment.toNat ≤ block.first ∧ block.first + block.span ≤ endSegment.toNat
  covered : ∀ paragraph, headSegment.toNat ≤ paragraph → paragraph < endSegment.toNat →
    ∃! block, block ∈ blocks ∧ block.first ≤ paragraph ∧ paragraph < block.first + block.span
  valid : ∃ next, arenaValidate machine state = .ok () next

/-- Over every run of admissible calls the chain walked from the head is a strictly increasing list
of headers, signed `M` up to a last `Z`, that tiles the arena and passes validation. -/
theorem arena_runs_keep_tiling {machine : Machine} {ops : MachineOps} {context addressLimit : ℕ} {a20Enabled : Bool}
    (configured : configure ops context addressLimit a20Enabled = .ok machine) (clean : machine.FaultFree)
    {fresh started state : ArenaState} {headSegment endSegment : UInt16}
    (initialized : arenaInitialize machine headSegment endSegment fresh = .ok () started)
    {history : List (ArenaCall × Except MemoryError Unit)}
    (run : Runs (ArenaCall.perform machine) (fun state call => call.Admissible state) started history state) :
    ∃ blocks, Occupies machine headSegment endSegment state blocks := by
  have reliable := machine.reliable_of_configure configured clean
  obtain ⟨blocks, sound⟩ := run.invariant_state
    (fun state => ∃ blocks, Sound machine headSegment endSegment.toNat state blocks)
    (wp_of_ok (arenaInitialize_spec machine fresh headSegment endSegment) initialized)
    (fun state call sound admissible => sound.elim fun _ sound => sound_step reliable sound call admissible)
  have chain := sound.headed
  refine ⟨blocks, arenaBlocks_eq chain, sound.chain.tiles.increasing Mcb.span_pos, sound.chain.signed,
    fun block member => sound.chain.tiles.bounds member, fun paragraph low high => ?_, ?_⟩
  · obtain ⟨block, member, extent⟩ := sound.chain.tiles.covered low high
    exact ⟨block, ⟨member, extent⟩, fun other covers => sound.chain.tiles.unique covers.1 member covers.2 extent⟩
  · have validated := @arenaValidate_spec machine _ _ _ sound.ready chain
    cases ran : arenaValidate machine state with
    | ok value next => exact ⟨next, rfl⟩
    | error error next => exact (sound.not_refused reliable (wp_of_error validated ran).2).elim

/-- A constructed arena over blank guest memory. -/
def blankArena : ArenaState := ⟨.initializer 1, fun _ => 0, 0⟩

def startedArena : ArenaState := final (arenaInitialize ideal 0x10 0x20) blankArena

theorem arena_runs_keep_tiling_allocate : ∃ blocks, Occupies ideal 0x10 0x20
    (final ((ArenaCall.allocate 7 3).perform ideal) startedArena) blocks :=
  arena_runs_keep_tiling ideal_configured ideal_faultFree
    (rfl : arenaInitialize ideal 0x10 0x20 blankArena = .ok () startedArena)
    (.step (ArenaCall.allocate 7 3) .start trivial)

/-- Three blocks in use, and between and behind them three free runs, the first of them two blocks. -/
def fragmentedMemory : ℕ → UInt8
  | 0x100 | 0x130 | 0x150 | 0x180 | 0x1a0 | 0x1d0 => mcbSignatureNormal
  | 0x1f0 => mcbSignatureEnd
  | 0x101 => 7
  | 0x181 | 0x1d1 => 9
  | 0x103 | 0x153 | 0x1a3 => 2
  | 0x133 | 0x183 | 0x1d3 => 1
  | 0x1f3 => 8
  | _ => 0

def fragmentedArena : ArenaState := ⟨⟨1, 1, 0x10, allocBestFit, 1, 0, 1, fun _ => 0⟩, fragmentedMemory, 0⟩

def fragmentedBlock (segment : UInt16) : Mcb := ⟨segment, fragmentedArena.cells segment.toNat⟩

/-- The blocks after the first. -/
def fragmentedRest : List Mcb := [0x13, 0x15, 0x18, 0x1a, 0x1d, 0x1f].map fragmentedBlock

theorem fragmentedArena_chain : Chain fragmentedArena.cells 0x10 0x28 ([] ++ fragmentedBlock 0x10 :: fragmentedRest) :=
  ⟨⟨rfl, rfl, rfl, rfl, rfl, rfl, rfl, rfl⟩, ⟨rfl, rfl, rfl, rfl, rfl, rfl, rfl⟩,
    by simp [fragmentedRest, fragmentedBlock, Mcb.first], by decide⟩

theorem fragmentedArena_ready : Ready fragmentedArena.arena := ⟨by decide, by decide, by decide, by decide, by decide⟩

end DosC32.Memory
