import DosC32.Proofs.EnvironmentMutation
import DosC32.Soundness.ArenaSpace

/-! # Environment mutation is all-or-nothing

From validation to publication everything that is written lies in the newly claimed block, so
releasing it takes the mutation back. After publication only the word in the PSP distinguishes
the two environments; putting the old word back restores the state before publication, whatever
made the release of the old block fail.
-/

namespace DosC32.EnvironmentMutation

open Effect Store Memory Machine List

variable (machine : Machine) (state next : ArenaState) (stop : ℕ) (blocks : List Mcb) (pspSegment : UInt16)

/-- The addresses of the word at PSP:2Ch. -/
def pspWord : List ℕ := machine.footprint pspSegment pspEnvironmentOffset 2

/-- The environment segment that a PSP names. -/
def environmentSegment : UInt16 :=
  encodedSegment (load state.guest.memory (pspWord machine pspSegment))

/-- The word at PSP:2Ch lies outside the arena, or in the body of a block in use that is not the
environment it names. -/
def PspApart (pspSegment : UInt16) (blocks : List Mcb) : Prop :=
  ∀ address ∈ pspWord machine pspSegment, ∀ block ∈ blocks, Inside block (address / 16) →
    ¬ block.isFree ∧ block.first ≠ address / 16 ∧ block.segment + 1 ≠ environmentSegment machine state pspSegment

/-- The mutation took place: the PSP names a block that was not in use, and the block it named is
free. -/
structure Replaced (blocks' : List Mcb) (old new : Mcb) : Prop where
  arena : next.arena = state.arena
  chain : Chain next.cells state.arena.headSegment.toNat stop blocks'
  isNew : new ∈ blocks' ∧ new.record.owner = pspSegment ∧ ∀ block ∈ owned blocks, block.segment ≠ new.segment
  named : environmentSegment machine next pspSegment = new.segment + 1
  isOld : old ∈ blocks ∧ old.record.owner = pspSegment
  wasNamed : environmentSegment machine state pspSegment = old.segment + 1
  freed : ⟨old.segment, old.record.setOwner mcbOwnerFree⟩ ∈ blocks'

/-- Nothing took place: the PSP names the same block, the blocks in use are the same, and so are
all their bytes and those of the environment. -/
structure Retained : Prop where
  arena : next.arena = state.arena
  named : environmentSegment machine next pspSegment = environmentSegment machine state pspSegment
  inUse : ∃ blocks', Chain next.cells state.arena.headSegment.toNat stop blocks' ∧ owned blocks' = owned blocks
  bytes : ∀ block ∈ blocks, (¬ block.isFree ∨ block.segment + 1 = environmentSegment machine state pspSegment) →
    ∀ paragraph, Inside block paragraph → next.cells paragraph = state.cells paragraph

variable {memory memory' : ℕ → UInt8}

theorem paragraphs_byte (memory : ℕ → UInt8) (address : ℕ) :
    memory address = (paragraphs memory (address / 16)).bytes ⟨address % 16, Nat.mod_lt _ (by decide)⟩ := by
  simp only [paragraphs]
  congr 1
  omega

theorem memory_eq_of_paragraph {address : ℕ} (same : paragraphs memory' (address / 16) = paragraphs memory (address / 16)) :
    memory' address = memory address := by
  rw [paragraphs_byte memory', paragraphs_byte memory, same]

theorem paragraph_eq {paragraph : ℕ} (same : ∀ address, address / 16 = paragraph → memory' address = memory address) :
    paragraphs memory' paragraph = paragraphs memory paragraph := by
  refine McbRecord.ext (funext fun index => same _ ?_)
  omega

variable {machine state next stop blocks pspSegment}

/-- The word at PSP:2Ch never crosses its paragraph. -/
theorem pspWord_eq (machine : Machine) (pspSegment : UInt16) :
    ∃ address, pspWord machine pspSegment = [address, address + 1] := by
  have bound := pspSegment.toNat_lt
  have offset : pspEnvironmentOffset.toNat = 44 := rfl
  refine ⟨farToLinear pspSegment pspEnvironmentOffset machine.a20Enabled, ?_⟩
  have chunk : machine.farTransferChunk pspSegment pspEnvironmentOffset 2 =
      ⟨farToLinear pspSegment pspEnvironmentOffset machine.a20Enabled, 2⟩ := by
    simp only [farTransferChunk, farToLinear, offset, a20WrapAddress]
    congr 1
    split
    · rfl
    · omega
  simp [pspWord, footprint, farChunks, farChunksLoop, chunk, Machine.Chunk.addresses, range'_succ]

/-- The word that was stored is the word that is read. -/
theorem encodedSegment_save (memory : ℕ → UInt8) (pspSegment segment : UInt16) :
    encodedSegment (load (save memory (pspWord machine pspSegment) (encodeSegment segment))
      (pspWord machine pspSegment)) = segment := by
  obtain ⟨address, isWord⟩ := pspWord_eq machine pspSegment
  simp [isWord, encodeSegment, encodedSegment, load]

theorem Quiet.unchanged (quiet : Quiet state next) : Unchanged state next :=
  ⟨quiet.arena, congrArg paragraphs quiet.memory⟩

theorem quiet_of_unchanged (same : Unchanged state next) : Quiet state next :=
  ⟨same.1, funext fun _ => memory_eq_of_paragraph (congrFun same.2 _)⟩

theorem Retained.of_quiet (chain : ArenaChain state stop blocks)
    (quiet : Quiet state next) : Retained machine state next stop blocks pspSegment where
  arena := quiet.arena
  named := by rw [environmentSegment, quiet.memory]; rfl
  inUse := ⟨blocks, quiet.unchanged.2 ▸ chain, rfl⟩
  bytes := fun _ _ _ paragraph _ => congrFun quiet.unchanged.2 paragraph

/-- Changes in unused space are no changes, once the environment is known to be in use. -/
theorem Retained.of_frame (chain : ArenaChain state stop blocks)
    (apart : PspApart machine state pspSegment blocks) {old : Mcb} (used : old ∈ owned blocks)
    (isOld : environmentSegment machine state pspSegment = old.segment + 1) {blocks' : List Mcb}
    (arena : next.arena = state.arena) (chain' : Chain next.cells state.arena.headSegment.toNat stop blocks')
    (same : owned blocks' = owned blocks)
    (frame : ∀ paragraph, ¬ Spare blocks paragraph → next.cells paragraph = state.cells paragraph) :
    Retained machine state next stop blocks pspSegment where
  arena := arena
  named := by
    have kept : load next.guest.memory (pspWord machine pspSegment) =
        load state.guest.memory (pspWord machine pspSegment) := by
      refine map_congr_left fun address member => memory_eq_of_paragraph (frame _ ?_)
      rintro ⟨block, isBlock, free, inside⟩
      exact (apart address member block isBlock inside).1 free
    rw [environmentSegment, kept]
    rfl
  inUse := ⟨blocks', chain', same⟩
  bytes := by
    intro block member kind paragraph inside
    refine frame paragraph (not_spare_of_owned chain ?_ inside)
    rcases kind with busy | isNamed
    · exact mem_owned.mpr ⟨member, busy⟩
    · rw [isOld] at isNamed
      obtain rfl := chain.eq_of_segment member (mem_owned.mp used).1 ((UInt16.add_left_inj 1).mp isNamed)
      exact used

/-! ## The stages -/

/-- Some region covers the body of a block that is neither empty nor too large. -/
theorem exists_region {cells : ℕ → McbRecord} {head : ℕ} (chain : Chain cells head stop blocks) {block : Mcb}
    (member : block ∈ blocks) (some : block.record.size ≠ 0)
    (small : block.record.size.toNat * 16 ≤ environmentMaxBlockBytes) :
    ∃ region : Region, region.segment = block.segment + 1 ∧ region.capacity = block.record.size.toNat * 16 ∧
      region.base = (block.first + 1) * 16 := by
  have extent := chain.extent_le member
  have positive : block.record.size.toNat ≠ 0 := fun none => some (UInt16.toNat_inj.mp none)
  simp only [Mcb.first, Mcb.span] at extent
  have next : (block.segment + 1).toNat = block.segment.toNat + 1 := by
    rw [UInt16.toNat_add]
    exact Nat.mod_eq_of_lt (by change block.segment.toNat + 1 < _; omega)
  refine ⟨⟨block.segment + 1, _, small, ?_⟩, rfl, rfl, ?_⟩
  · rw [next]
    simp only [a20WrapAddress]
    omega
  · simp only [Region.base, next, Mcb.first]

theorem prepareOwnerRebind_ready (blockSegment expectedOwner newOwner : UInt16) :
    wp (prepareOwnerRebind machine blockSegment expectedOwner newOwner) state (fun _ _ => Ready state.arena)
      (fun _ _ => True) := by
  simp only [prepareOwnerRebind, prepareOwnerRebindCommon, wp_rules]
  refine ⟨fun _ => trivial, fun _ => ?_⟩
  refine wp_arenaIsReady (fun ready => ?_) fun _ _ => trivial
  apply wp_intro
  · exact fun record next _ => ⟨fun _ => trivial, fun _ => ⟨fun _ => trivial, fun _ => ready⟩⟩
  · exact fun _ _ _ => trivial

/-- A validated block is a block of the owner whose body is a region. -/
theorem validateOwnedBlock_spec {pspSegment blockSegment : UInt16} (chain : ArenaChain state stop blocks) :
    Within Quiet (validateOwnedBlock machine pspSegment blockSegment) state
      (fun capacity _ => Ready state.arena ∧ pspSegment ≠ mcbOwnerFree ∧ ∃ block ∈ blocks,
        block.segment + 1 = blockSegment ∧ block.record.owner = pspSegment ∧ ∃ region : Region,
          region.segment = blockSegment ∧ region.capacity = capacity ∧ capacity = block.record.size.toNat * 16 ∧
          region.base = (block.first + 1) * 16) := by
  simp only [Within, validateOwnedBlock, wp_rules]
  apply wp_mono (wp_and (prepareOwnerRebindCommon_spec chain)
    (prepareOwnerRebind_ready blockSegment pspSegment pspSegment))
  · rintro _ next ⟨⟨same, valid, block, member, segment, owner, rfl⟩, ready⟩
    have quiet := quiet_of_unchanged same
    have here : block.segment + 1 = blockSegment := by rw [segment, UInt16.sub_add_cancel]
    simp only [rebound_size]
    refine ⟨fun _ => quiet, fun some => ⟨fun _ => quiet, fun small => ?_⟩⟩
    obtain ⟨region, isSegment, isCapacity, isBase⟩ := exists_region chain member some (Nat.not_lt.mp small)
    exact ⟨quiet, ready, valid.1, block, member, here, owner, region, isSegment.trans here, isCapacity, rfl, isBase⟩
  · exact fun _ next outcome => quiet_of_unchanged outcome.1

/-- A ready arena is poisoned for good, also when it has lost a rollback before. -/
theorem poisonTransaction_spec {α : Type} {arena : Arena} (ready : Ready arena)
    (shape : state.arena = arena ∨ state.arena = arena.poison) :
    wp (poisonTransaction : EnvironmentM α) state (fun _ _ => False)
      (fun _ next => next.arena.machinePoisoned = 1) := by
  have fits : state.arena.flagsHaveValidEncoding ∧ state.arena.initialized = 1 ∧
      identityIsValid state.arena.identity ∧ state.arena.generation ≠ 0 := by
    rcases shape with same | same <;> rw [same]
    · exact ⟨ready.encoding, ready.initialized, ready.identity, ready.generation⟩
    · have flag : arena.poison.machinePoisoned ≤ 1 := UInt8.le_refl 1
      exact ⟨⟨ready.encoding.1, flag, ready.encoding.2.2⟩, ready.initialized, ready.identity, ready.generation⟩
  simp only [poisonTransaction, arenaPoison, wp_split]
  refine ⟨fun invalid => (not_or.mpr ⟨not_not.mpr fits.1, ?_⟩ invalid).elim, fun _ => rfl⟩
  simp [fits.2]

/-- What validation has established about the call, besides the arena being well formed. -/
structure Validated (machine : Machine) (started : ArenaState) (stop : ℕ) (blocks : List Mcb) (pspSegment : UInt16)
    (old : Mcb) : Prop where
  chain : Chain started.cells started.arena.headSegment.toNat stop blocks
  ready : Ready started.arena
  apart : PspApart machine started pspSegment blocks
  used : old ∈ owned blocks
  owner : old.record.owner = pspSegment
  named : environmentSegment machine started pspSegment = old.segment + 1

/-- The failing exit of the whole operation. -/
def Failed (machine : Machine) (started : ArenaState) (stop : ℕ) (blocks : List Mcb) (pspSegment : UInt16)
    (_ : EnvironmentMutationError) (next : ArenaState) : Prop :=
  next.arena.machinePoisoned ≠ 1 → Retained machine started next stop blocks pspSegment

variable {paragraphs : UInt16} {before after : List Mcb} {block old : Mcb}

/-- Freeing a block of a chain, with the chain that results. -/
theorem freeOwned_chain_spec (owner : UInt16) (chain : ArenaChain state stop (before ++ block :: after)) :
    wp (freeOwned machine (block.segment + 1) owner) state
      (fun _ next => next.arena = state.arena ∧ Chain next.cells state.arena.headSegment.toNat stop
          (before ++ ⟨block.segment, block.record.setOwner mcbOwnerFree⟩ :: after) ∧
        AgreeOff [block.first] next.cells state.cells)
      (fun _ next => next.arena = state.arena.poison ∨ Unchanged state next) := by
  apply wp_mono (freeOwned_spec chain)
  · rintro _ next ⟨_, found, segment, _, ⟨effect⟩⟩
    rw [UInt16.add_sub_cancel] at segment
    have placed := effect.placed
    have inside : found ∈ before ++ block :: after := by rw [effect.shape]; simp
    obtain rfl := chain.eq_of_segment inside (by simp) segment
    have whole : ArenaChain state stop (before ++ ([found] ++ after)) := chain
    have outside : found ∉ before ∧ found ∉ after :=
      ⟨fun isBefore => segment_ne_of_apart whole (.inl isBefore) (mem_singleton_self found) rfl,
        fun isAfter => segment_ne_of_apart whole (.inr isAfter) (mem_singleton_self found) rfl⟩
    obtain ⟨sameBefore, _, sameAfter⟩ := (append_cons_inj_of_notMem outside.1 outside.2).mp effect.shape
    rw [← sameBefore, ← sameAfter] at placed
    exact ⟨placed.arena, placed.chain, placed.frame⟩
  · exact fun _ next outcome => outcome.imp (·.1) id

theorem replacePspWord_spec {pspSegment : UInt16} {bytes : List UInt8} :
    wp (replacePspWord machine pspSegment bytes) state
      (fun rollback next => next.arena = state.arena ∧
        rollback = load state.guest.memory (pspWord machine pspSegment) ∧
        next.guest.memory = save state.guest.memory (pspWord machine pspSegment) bytes)
      (fun error next => next.arena = state.arena ∧ (error ≠ .rollbackFailed → Quiet state next)) := by
  simp only [replacePspWord, onGuest, wp_focus]
  apply wp_mono machine.replaceFar_spec
  · rintro rollback guest ⟨loaded, _, stored⟩
    exact ⟨trivial, loaded, stored⟩
  · intro error guest restored
    exact ⟨trivial, fun other => ⟨rfl, restored other⟩⟩

section Publication

variable {started : ArenaState} (claimed : Claimed started state stop blocks pspSegment paragraphs before block after)
include claimed

theorem claimed_chain : ArenaChain state stop (before ++ block :: after) := by
  rw [ArenaChain, claimed.arena]
  exact claimed.chain

theorem claimed_of_quiet (quiet : Quiet state next) :
    Claimed started next stop blocks pspSegment paragraphs before block after where
  arena := quiet.arena.trans claimed.arena
  chain := quiet.unchanged.2 ▸ claimed.chain
  others := claimed.others
  owner := claimed.owner
  size := claimed.size
  frame := fun paragraph used => (congrFun quiet.unchanged.2 paragraph).trans (claimed.frame paragraph used)

/-- The new block lies apart from the environment it replaces. -/
theorem claimed_apart (used : old ∈ owned blocks) :
    old.first + old.span ≤ block.first ∨ block.first + block.span ≤ old.first := by
  by_contra overlap
  obtain ⟨member, elsewhere⟩ := claimed.apart used
  have positive := old.span_pos
  have positive' := block.span_pos
  refine elsewhere (congrArg Mcb.segment (claimed.chain.tiles.unique member claimed.member
    (⟨Nat.le_max_left _ _, ?_⟩ : Inside old (max old.first block.first)) ⟨Nat.le_max_right _ _, ?_⟩)) <;> omega

variable (validated : Validated machine started stop blocks pspSegment old)
include validated

/-- The word at PSP:2Ch is in no header and in no unused paragraph. -/
theorem claimed_word_apart {address : ℕ} (inWord : address ∈ pspWord machine pspSegment) :
    ¬ Spare blocks (address / 16) ∧ ∀ other ∈ before ++ block :: after, other.first ≠ address / 16 := by
  have notSpare : ¬ Spare blocks (address / 16) := by
    rintro ⟨other, member, free, inside⟩
    exact (validated.apart address inWord other member inside).1 free
  refine ⟨notSpare, fun other member isHeader => ?_⟩
  have inside : Inside other (address / 16) := isHeader ▸ Inside.first other
  by_cases free : other.isFree
  · exact notSpare (claimed.spare_of_free validated.chain member free inside)
  by_cases isBlock : other = block
  · exact notSpare (claimed.spare validated.chain (isBlock ▸ inside))
  have used : other ∈ owned blocks := by
    rw [← claimed.others, mem_append]
    simp only [mem_append, mem_cons, isBlock, false_or] at member
    exact member.imp (fun isBefore => mem_owned.mpr ⟨isBefore, free⟩) (fun isAfter => mem_owned.mpr ⟨isAfter, free⟩)
  exact (validated.apart address inWord other (mem_owned.mp used).1 inside).2.1 isHeader

/-- Until publication the PSP holds its old word. -/
theorem claimed_word_kept :
    load state.guest.memory (pspWord machine pspSegment) = load started.guest.memory (pspWord machine pspSegment) :=
  map_congr_left fun _ inWord =>
    memory_eq_of_paragraph (claimed.frame _ (claimed_word_apart claimed validated inWord).1)

/-- Replacing the word keeps the chain. -/
theorem claimed_published (arena : next.arena = state.arena) {bytes : List UInt8}
    (stored : next.guest.memory = save state.guest.memory (pspWord machine pspSegment) bytes) :
    ArenaChain next stop (before ++ block :: after) := by
  rw [ArenaChain, arena]
  refine Chain.of_headers (claimed_chain claimed) fun other member => paragraph_eq fun address here => ?_
  rw [stored]
  refine save_agreeOff _ _ _ _ fun inWord => ?_
  exact (claimed_word_apart claimed validated inWord).2 other member here.symm

end Publication

variable {started : ArenaState} {status : EnvironmentMutationError} {α : Type}

variable (validated : Validated machine started stop blocks pspSegment old)
include validated

variable {done : α → ArenaState → Prop}

/-- Quarantine is an admissible failure. -/
theorem poisonTransaction_fails (shape : state.arena = started.arena ∨ state.arena = started.arena.poison) :
    wp (poisonTransaction : EnvironmentM α) state done (Failed machine started stop blocks pspSegment) :=
  wp_fails (poisonTransaction_spec validated.ready shape) (fun _ _ poisoned healthy => (healthy poisoned).elim)

/-- Discarding the claimed block takes the mutation back, or quarantines the arena. -/
theorem discardReplacement_fails
    (claimed : Claimed started state stop blocks pspSegment paragraphs before block after) :
    wp (discardReplacement machine (block.segment + 1) pspSegment status : EnvironmentM α) state done
      (Failed machine started stop blocks pspSegment) := by
  simp only [discardReplacement, wp_rules]
  apply wp_mono (freeOwned_chain_spec pspSegment (claimed_chain claimed))
  · rintro _ next ⟨arena, chain', frame⟩ _
    rw [claimed.arena] at chain' arena
    have free : (⟨block.segment, block.record.setOwner mcbOwnerFree⟩ : Mcb).isFree := McbRecord.owner_setOwner _ _
    refine .of_frame validated.chain validated.apart validated.used validated.named arena chain' ?_
      fun paragraph outside => ?_
    · rw [owned_append, owned_cons_free free, claimed.others]
    · rw [frame paragraph, claimed.frame paragraph outside]
      intro isHeader
      obtain rfl := mem_singleton.mp isHeader
      exact outside (claimed.spare validated.chain (Inside.first block))
  · intro _ failed outcome
    refine poisonTransaction_fails validated (outcome.symm.imp (fun same => ?_) fun lost => ?_)
    · exact same.1.trans claimed.arena
    · exact lost.trans (congrArg _ claimed.arena)

/-- Once a rollback is lost, taking the publication back ends in quarantine. -/
theorem withdraw_poisoned (poisoned : state.arena = started.arena.poison) (newSegment : UInt16) (bytes : List UInt8)
    {done : Unit → ArenaState → Prop} :
    wp (withdraw machine pspSegment newSegment bytes status) state done
      (Failed machine started stop blocks pspSegment) := by
  simp only [withdraw, discardReplacement, wp_rules]
  apply wp_mono replacePspWord_spec
  · rintro current next ⟨arena, -, -⟩
    have lost : next.arena.machinePoisoned = 1 := by rw [arena, poisoned]; rfl
    simp only [wp_split]
    refine ⟨fun _ => poisonTransaction_fails validated (.inr (arena.trans poisoned)), fun _ => ?_⟩
    simp only [freeOwned, wp_bind]
    exact wp_arenaIsReady (fun ready => absurd lost ready.healthy) fun _ _ =>
      poisonTransaction_fails validated (.inr (arena.trans poisoned))
  · rintro _ next ⟨arena, _⟩
    exact poisonTransaction_fails validated (.inr (arena.trans poisoned))

section Published

variable {ready : ArenaState} (claimed : Claimed started ready stop blocks pspSegment paragraphs before block after)
    (stored : state.guest.memory =
      save ready.guest.memory (pspWord machine pspSegment) (encodeSegment (block.segment + 1)))
include claimed stored

/-- Putting the old word back after a failed release ends where publication began. -/
theorem withdraw_fails (healthy : state.arena = started.arena) {done : Unit → ArenaState → Prop} :
    wp (withdraw machine pspSegment (block.segment + 1)
      (load started.guest.memory (pspWord machine pspSegment)) status) state done
      (Failed machine started stop blocks pspSegment) := by
  simp only [withdraw, wp_rules]
  apply wp_mono replacePspWord_spec
  · rintro current next ⟨arena, rfl, restored⟩
    rw [stored, encodedSegment_save]
    simp only [ne_eq, not_true_eq_false, if_false]
    apply discardReplacement_fails validated (claimed_of_quiet claimed ⟨?_, ?_⟩)
    · rw [arena, healthy, claimed.arena]
    · rw [restored, stored, ← claimed_word_kept claimed validated]
      exact save_load (save_agreeOff _ _ _)
  · rintro _ next ⟨arena, _⟩
    exact poisonTransaction_fails validated (.inl (arena.trans healthy))

/-- After publication the old block is freed, or the publication is taken back. -/
theorem retireOld_spec (arena : state.arena = ready.arena) :
    wp (retireOld machine pspSegment (block.segment + 1) (load started.guest.memory (pspWord machine pspSegment))) state
      (fun _ next => ∃ blocks', Replaced machine started next stop blocks pspSegment blocks' old block)
      (Failed machine started stop blocks pspSegment) := by
  have published := claimed_published claimed validated arena stored
  have started_ : state.arena = started.arena := arena.trans claimed.arena
  obtain ⟨member, elsewhere⟩ := claimed.apart validated.used
  obtain ⟨before', after', shape⟩ := append_of_mem member
  have named : encodedSegment (load started.guest.memory (pspWord machine pspSegment)) = old.segment + 1 :=
    validated.named
  simp only [retireOld, wp_rules, named]
  rw [shape] at published
  apply wp_mono (freeOwned_chain_spec pspSegment published)
  · rintro _ next ⟨arena', chain', frame⟩
    rw [started_] at chain' arena'
    have kept : load next.guest.memory (pspWord machine pspSegment) =
        load state.guest.memory (pspWord machine pspSegment) := by
      refine map_congr_left fun address inWord => memory_eq_of_paragraph (frame _ ?_)
      intro isHeader
      exact (claimed_word_apart claimed validated inWord).2 old member (mem_singleton.mp isHeader).symm
    have remains : block ∈ before' ++ ⟨old.segment, old.record.setOwner mcbOwnerFree⟩ :: after' := by
      have inside := claimed.member
      rw [shape] at inside
      simp only [mem_append, mem_cons] at inside ⊢
      rcases inside with isBefore | isOld | isAfter
      · exact .inl isBefore
      · exact (elsewhere (congrArg Mcb.segment isOld.symm)).elim
      · exact .inr (.inr isAfter)
    refine ⟨_, arena', chain', ⟨remains, claimed.owner, fun other used => (claimed.apart used).2⟩, ?_,
      ⟨(mem_owned.mp validated.used).1, validated.owner⟩, validated.named, by simp⟩
    rw [environmentSegment, kept, stored, encodedSegment_save]
  · intro status failed outcome
    simp only [wp_ite]
    rcases outcome with lost | same
    · rw [started_] at lost
      exact ⟨fun _ => poisonTransaction_fails validated (.inr lost),
        fun _ => withdraw_poisoned validated lost _ _⟩
    · have healthy := same.1.trans started_
      refine ⟨fun _ => poisonTransaction_fails validated (.inl healthy), fun _ => ?_⟩
      apply withdraw_fails validated claimed _ healthy
      rw [(quiet_of_unchanged same).memory, stored]

end Published

/-- Publication of a filled block. -/
theorem publishReplacement_spec
    (claimed : Claimed started state stop blocks pspSegment paragraphs before block after) :
    wp (publishReplacement machine pspSegment (block.segment + 1)
      (load started.guest.memory (pspWord machine pspSegment))) state
      (fun _ next => ∃ blocks', Replaced machine started next stop blocks pspSegment blocks' old block)
      (Failed machine started stop blocks pspSegment) := by
  simp only [publishReplacement, wp_rules]
  apply wp_mono replacePspWord_spec
  · rintro rollback next ⟨arena, rfl, stored⟩
    rw [claimed_word_kept claimed validated]
    simp only [ne_eq, not_true_eq_false, if_false]
    exact retireOld_spec validated claimed stored arena
  · rintro error next ⟨arena, restored⟩
    cases error with
    | rollbackFailed => exact poisonTransaction_fails validated (.inl (arena.trans claimed.arena))
    | _ => exact discardReplacement_fails validated (claimed_of_quiet claimed (restored (by decide)))

omit validated

/-- The check of the filled block only reads. -/
theorem revalidateReplacement_spec {pspSegment : UInt16} {source : Region} {oldLayout : EnvironmentLayout}
    {newSegment : UInt16} {expectedCapacity expectedPayload : ℕ} {action : EnvironmentMutationAction}
    {name : List UInt8} (capacity : oldLayout.capacity = source.capacity) (chain : ArenaChain state stop blocks) :
    Within Quiet (revalidateReplacement machine pspSegment source.segment oldLayout newSegment expectedCapacity
      expectedPayload action name) state (fun _ _ => True) := by
  refine (validateOwnedBlock_spec chain).bind ?_
  rintro _ checked _ ⟨_, _, _, _, _, _, region, rfl, rfl, _, _⟩
  refine .unless fun _ => (scanLayout_spec name (region.stores_self checked)).bind ?_
  rintro layout scanned _ ⟨layoutCapacity, _⟩
  refine .unless fun _ => ?_
  unfold compareGuestRanges
  rw [capacity, layoutCapacity]
  exact compareGuestLoop_spec _ _ _ ⟨source.serves_start _, source.stores_self scanned⟩
    ⟨region.serves_start _, region.stores_self scanned⟩

/-- What the first pass has measured. -/
structure Measured (started : ArenaState) (request : EnvironmentRequest) (old : Mcb) (prepared : PreparedMutation)
    (source : Region) (entries : List EnvironmentEntry) : Prop where
  segment : source.segment = encodedSegment prepared.oldBytes
  extent : source.capacity = old.record.size.toNat * 16
  base : source.base = (old.first + 1) * 16
  capacity : prepared.oldLayout.capacity = source.capacity
  listed : Listed (entryAt source (fun offset => started.guest.memory (source.base + offset)) request.nameBytes) 0 entries
  counted : prepared.oldLayout.retainedBytes = retained entries
  fits : payloadOf prepared.oldLayout request.action request.nameBytes.length request.valueBytes.length ≤
    prepared.paragraphs.toNat * 16
  small : prepared.paragraphs.toNat * 16 ≤ environmentMaxBlockBytes
  some : prepared.paragraphs ≠ 0

variable {request : EnvironmentRequest}

theorem request_lengths (valid : mutationArgumentsAreValid request) :
    request.nameBytes.length = request.nameLength ∧ request.valueBytes.length = request.valueLength := by
  obtain ⟨_, _, _, _, _, nameFits, valueFits, noValue, _⟩ := valid
  refine ⟨by simpa [EnvironmentRequest.nameBytes] using nameFits, ?_⟩
  simp only [EnvironmentRequest.valueBytes, EnvironmentRequest.valueCapacity] at valueFits ⊢
  cases isValue : request.value with
  | none => simp [noValue isValue]
  | some bytes =>
    rw [isValue] at valueFits
    simpa using valueFits

/-- Everything before the allocation only reads. -/
theorem prepareMutation_spec (chain : ArenaChain state stop blocks)
    (apart : PspApart machine state request.pspSegment blocks) :
    Within Quiet (prepareMutation machine request) state
      (fun prepared _ => prepared.oldBytes = load state.guest.memory (pspWord machine request.pspSegment) ∧
        ∃ old source entries, Validated machine state stop blocks request.pspSegment old ∧
          Measured state request old prepared source entries) := by
  refine .unless fun valid => ?_
  obtain ⟨nameLength, valueLength⟩ := request_lengths (not_not.mp valid)
  refine onMachine_readFar_spec.bind ?_
  intro oldBytes read quiet loaded
  change oldBytes = load state.guest.memory (pspWord machine request.pspSegment) at loaded
  refine .unless fun _ => ?_
  have chain' : ArenaChain read stop blocks := by
    rw [ArenaChain, quiet.arena]
    exact quiet.unchanged.2 ▸ chain
  refine (validateOwnedBlock_spec chain').bind ?_
  rintro capacity checked quiet' ⟨ready, real, old, member, segment, owner, source, isSegment, isCapacity, isExtent,
    isBase⟩
  rw [← isSegment, ← isCapacity]
  refine (scanLayout_spec request.nameBytes (source.stores_self checked)).bind ?_
  rintro layout scanned _ ⟨layoutCapacity, entries, listed, counted⟩
  refine .unless fun _ => ?_
  refine calculateReplacementSize_spec.bind ?_
  rintro ⟨payload, paragraphs⟩ _ _ ⟨total, fits, small, some⟩
  dsimp only at total fits small some
  refine .pure ⟨loaded, old, source, entries, ⟨chain, quiet.arena ▸ ready, apart, ?_, owner, ?_⟩, ?_⟩
  · exact mem_owned.mpr ⟨member, fun free => real (owner.symm.trans free)⟩
  · rw [environmentSegment, ← loaded, segment]
  · rw [(quiet.trans quiet').memory] at listed
    rw [total, ← nameLength, ← valueLength] at fits
    exact ⟨isSegment, isCapacity.trans isExtent, isBase, layoutCapacity, listed, counted, fits, small, some⟩

/-- The new block is filled and checked without leaving it. -/
theorem fillReplacement_spec (validated : Validated machine started stop blocks request.pspSegment old)
    {prepared : PreparedMutation} {source : Region} {entries : List EnvironmentEntry}
    (measured : Measured started request old prepared source entries)
    (claimed : Claimed started state stop blocks request.pspSegment prepared.paragraphs before block after) :
    Leaves (fillReplacement machine request prepared (block.segment + 1)) state
      (fun next => Claimed started next stop blocks request.pspSegment prepared.paragraphs before block after) := by
  obtain ⟨target, isTarget, extent, base⟩ := exists_region claimed.chain claimed.member
    (claimed.size ▸ measured.some) (claimed.size ▸ measured.small)
  have filling : ∀ next, target.Filled state next →
      Claimed started next stop blocks request.pspSegment prepared.paragraphs before block after := by
    intro _ filled
    refine claimed.of_body validated.chain filled.arena fun paragraph outside => paragraph_eq fun address here => ?_
    refine filled.frame address ?_
    by_contra inside
    have span : block.span = block.record.size.toNat + 1 := rfl
    refine outside ⟨⟨?_, ?_⟩, ?_⟩ <;> omega
  have stores : source.Stores (fun offset => started.guest.memory (source.base + offset)) state := by
    intro offset inside
    refine memory_eq_of_paragraph (claimed.frame _ (not_spare_of_owned validated.chain validated.used ?_))
    rw [measured.extent] at inside
    have span : old.span = old.record.size.toNat + 1 := rfl
    have base := measured.base
    exact ⟨by omega, by omega⟩
  have apart : source.base + source.capacity ≤ target.base ∨ target.base + target.capacity ≤ source.base := by
    have bodies := claimed_apart claimed validated.used
    simp only [Mcb.span] at bodies
    rw [measured.base, measured.extent, base, extent]
    omega
  have room : payloadOf prepared.oldLayout request.action request.nameBytes.length request.valueBytes.length ≤
      target.capacity := by
    rw [extent, claimed.size]
    exact measured.fits
  simp only [fillReplacement, wp_bind]
  rw [← isTarget, ← measured.segment]
  apply wp_mono (buildReplacement_spec apart _ measured.capacity measured.listed measured.counted room stores)
  · intro _ built filled
    have claimed' := filling built filled.1
    apply wp_mono (revalidateReplacement_spec
      measured.capacity (claimed_chain claimed'))
    · exact fun _ next quiet => claimed_of_quiet claimed' quiet.1
    · exact fun _ next quiet => claimed_of_quiet claimed' quiet
  · exact fun _ next filled => filling next filled

theorem mutatePsp_spec (chain : ArenaChain state stop blocks)
    (apart : PspApart machine state request.pspSegment blocks) :
    wp (mutatePsp machine request) state
      (fun _ next => ∃ blocks' old new, Replaced machine state next stop blocks request.pspSegment blocks' old new)
      (fun _ next => next.arena.machinePoisoned ≠ 1 →
        Retained machine state next stop blocks request.pspSegment) := by
  simp only [mutatePsp, wp_bind]
  apply wp_mono (prepareMutation_spec chain apart)
  · rintro prepared checked ⟨quiet, loaded, old, source, entries, validated, measured⟩
    have chain' : ArenaChain checked stop blocks := by
      rw [ArenaChain, quiet.arena]
      exact quiet.unchanged.2 ▸ chain
    simp only [wp_rules]
    apply wp_mono (allocateCheckedCommon_outcome request.pspSegment none prepared.paragraphs chain')
    · rintro allocation allocated ⟨effect, -⟩
      obtain ⟨before, block, after, claimed, segment⟩ := effect.claimed machine chain'
      rw [← segment]
      have claimed' : Claimed state allocated stop blocks request.pspSegment prepared.paragraphs before block after :=
        { claimed with
          arena := claimed.arena.trans quiet.arena
          chain := quiet.arena ▸ claimed.chain
          frame := fun paragraph used => (claimed.frame paragraph used).trans (congrFun quiet.unchanged.2 paragraph) }
      apply wp_mono (fillReplacement_spec validated measured claimed')
      · intro _ filled stillClaimed
        rw [loaded]
        apply wp_mono (publishReplacement_spec validated stillClaimed)
        · rintro _ next ⟨blocks', replaced⟩
          exact ⟨blocks', old, block, replaced⟩
        · exact fun _ next failed => failed
      · intro status filled stillClaimed
        exact discardReplacement_fails validated stillClaimed
    · rintro _ next ⟨lost | ⟨blocks', searched⟩, -⟩ healthy
      · rw [lost.1] at healthy
        exact (healthy rfl).elim
      · obtain ⟨same, frame⟩ := Searched.kept searched
        rw [quiet.unchanged.2] at frame
        refine .of_frame chain apart validated.used validated.named (searched.arena.trans quiet.arena) ?_ same frame
        have later := searched.chain
        rw [quiet.arena] at later
        simpa using later
  · intro _ next quiet _
    exact .of_quiet chain quiet

/-- `dos_environment_mutate_psp` on every machine: after OK the PSP names a new block and the old one
is free; after any other status, unless the arena is poisoned, nothing has happened. -/
theorem environment_mutation_atomic (machine : Machine) (state next : ArenaState) (stop : ℕ) (blocks : List Mcb)
    (request : EnvironmentRequest) (chain : Chain state.cells state.arena.headSegment.toNat stop blocks)
    (apart : PspApart machine state request.pspSegment blocks) :
    (mutatePsp machine request state = .ok () next →
      ∃ blocks' old new, Replaced machine state next stop blocks request.pspSegment blocks' old new) ∧
    (∀ status, mutatePsp machine request state = .error status next → next.arena.machinePoisoned ≠ 1 →
      Retained machine state next stop blocks request.pspSegment) :=
  ⟨fun ran => wp_of_ok (mutatePsp_spec chain apart) ran,
    fun _ ran => wp_of_error (mutatePsp_spec chain apart) ran⟩

/-- An arena with one environment block and one free block, and a PSP below it. -/
def sampleArena : ArenaState where
  arena := ⟨1, 1, 0x10, allocFirstFit, 1, 0, 1, fun _ => 0⟩
  guest := ⟨fun address =>
    if address = 0x100 then mcbSignatureNormal else if address = 0x102 then 1 else if address = 0x103 then 1
    else if address = 0x112 then 1 else if address = 0x114 then 0x41
    else if address = 0x120 then mcbSignatureEnd else if address = 0x123 then 0xd
    else if address = 0x102c then 0x11 else 0, 0⟩

def sampleRequest : EnvironmentRequest := ⟨0x100, .set, some [0x41], 1, some [0x42], 0, 1⟩

def sampleBlocks : List Mcb := [⟨0x10, sampleArena.cells 0x10⟩, ⟨0x12, sampleArena.cells 0x12⟩]

theorem sampleArena_chain : ArenaChain sampleArena 0x20 sampleBlocks :=
  ⟨⟨rfl, rfl, rfl⟩, ⟨rfl, rfl⟩, by simp [sampleBlocks, Mcb.first], by decide⟩

theorem sampleArena_apart : PspApart ideal sampleArena sampleRequest.pspSegment sampleBlocks := by
  have word : pspWord ideal sampleRequest.pspSegment = [0x102c, 0x102d] := by decide
  intro address inWord block member inside
  rw [word] at inWord
  have bounds := sampleArena_chain.tiles.bounds member
  have high := inside.2
  simp only [mem_cons, not_mem_nil, or_false] at inWord
  omega

theorem environment_mutation_atomic_sample :
    outcome (mutatePsp ideal sampleRequest) sampleArena = .ok () ∧ ∃ blocks' old new,
      Replaced ideal sampleArena (final (mutatePsp ideal sampleRequest) sampleArena) 0x20 sampleBlocks
        sampleRequest.pspSegment blocks' old new := by
  have ran : outcome (mutatePsp ideal sampleRequest) sampleArena = .ok () := by decide +kernel
  have atomic := environment_mutation_atomic ideal sampleArena (final (mutatePsp ideal sampleRequest) sampleArena) 0x20
    sampleBlocks sampleRequest sampleArena_chain sampleArena_apart
  exact ⟨ran, atomic.1 (eq_ok_of_outcome ran)⟩

end DosC32.EnvironmentMutation
