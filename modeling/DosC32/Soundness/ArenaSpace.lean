import DosC32.Soundness.Arena

/-! # The space of an arena that is not in use

Allocation on any machine, seen by a client: one block is claimed inside the paragraphs that no
block uses, and nothing but those paragraphs has changed. Releasing the block makes it part of
them again.
-/

namespace DosC32.Memory

open Effect Store List

/-- The paragraphs of a block, its header included. -/
def Inside (block : Mcb) (paragraph : ℕ) : Prop := block.first ≤ paragraph ∧ paragraph < block.first + block.span

/-- A paragraph of a free block. -/
def Spare (blocks : List Mcb) (paragraph : ℕ) : Prop := ∃ block ∈ blocks, block.isFree ∧ Inside block paragraph

theorem Inside.first (block : Mcb) : Inside block block.first := ⟨Nat.le_refl _, Nat.lt_add_of_pos_right block.span_pos⟩

theorem mem_owned {blocks : List Mcb} {block : Mcb} : block ∈ owned blocks ↔ block ∈ blocks ∧ ¬ block.isFree := by
  simp [owned]

section Space

variable {cells cells' : ℕ → McbRecord} {head stop paragraph : ℕ} {blocks blocks' : List Mcb} {other : Mcb}

/-- Two blocks at different places of a chain start at different segments. -/
theorem segment_ne_of_apart {before run after : List Mcb} (chain : Chain cells head stop (before ++ (run ++ after)))
    {block : Mcb} (outside : block ∈ before ∨ block ∈ after) (inside : other ∈ run) :
    block.segment ≠ other.segment := by
  intro same
  have first : block.first = other.first := congrArg UInt16.toNat same
  have increasing := pairwise_map.mp (chain.tiles.increasing Mcb.span_pos)
  obtain ⟨-, later, ahead⟩ := pairwise_append.mp increasing
  obtain ⟨-, -, behind⟩ := pairwise_append.mp later
  rcases outside with isBefore | isAfter
  · exact Nat.ne_of_lt (ahead block isBefore other (mem_append_left _ inside)) first
  · exact Nat.ne_of_gt (behind other inside block isAfter) first

theorem mem_around {before pieces after : List Mcb} {block : Mcb} (outside : block ∈ before ∨ block ∈ after) :
    block ∈ before ++ (pieces ++ after) := by
  rcases outside with isBefore | isAfter
  · simp [isBefore]
  · simp [isAfter]

/-- A block around some pieces does not hold the header of one of them. -/
theorem not_inside_of_apart {before pieces after : List Mcb} (chain : Chain cells head stop (before ++ (pieces ++ after)))
    {block piece : Mcb} (outside : block ∈ before ∨ block ∈ after) (isPiece : piece ∈ pieces) :
    ¬ Inside block piece.first := by
  intro inside
  have same := chain.tiles.unique (mem_around outside) (by simp [isPiece]) inside (Inside.first piece)
  exact segment_ne_of_apart chain outside isPiece (congrArg Mcb.segment same)

variable (chain : Chain cells head stop blocks)
include chain

theorem spare_iff : Spare blocks paragraph ↔
      (head ≤ paragraph ∧ paragraph < stop) ∧ ∀ block ∈ owned blocks, ¬ Inside block paragraph := by
  constructor
  · rintro ⟨block, member, free, inside⟩
    have bounds := chain.tiles.bounds member
    refine ⟨⟨by have := inside.1; omega, by have := inside.2; omega⟩, fun other used inside' => ?_⟩
    obtain ⟨member', busy⟩ := mem_owned.mp used
    obtain rfl := chain.tiles.unique member member' inside inside'
    exact busy free
  · rintro ⟨⟨low, high⟩, unused⟩
    obtain ⟨block, member, inside⟩ := chain.tiles.covered low high
    by_cases free : block.isFree
    · exact ⟨block, member, free, inside⟩
    · exact (unused block (mem_owned.mpr ⟨member, free⟩) inside).elim

theorem not_spare_of_owned {block : Mcb} (used : block ∈ owned blocks)
    (inside : Inside block paragraph) : ¬ Spare blocks paragraph := fun spare =>
  ((spare_iff chain).mp spare).2 block used inside

/-- A chain survives any change that spares its headers. -/
theorem Chain.of_headers
    (same : ∀ block ∈ blocks, cells' block.first = cells block.first) : Chain cells' head stop blocks :=
  ⟨chain.tiles, chain.signed, fun block member => (same block member).trans (chain.stored block member), chain.bounded⟩

end Space

variable (machine : Machine) {state next : ArenaState} {stop : ℕ} {blocks : List Mcb}

/-- One block is in use that was not before, in space that was not in use. -/
structure Claimed (state next : ArenaState) (stop : ℕ) (blocks : List Mcb) (owner paragraphs : UInt16)
    (before : List Mcb) (block : Mcb) (after : List Mcb) : Prop where
  arena : next.arena = state.arena
  chain : Chain next.cells state.arena.headSegment.toNat stop (before ++ block :: after)
  others : owned before ++ owned after = owned blocks
  owner : block.record.owner = owner
  size : block.record.size = paragraphs
  frame : ∀ paragraph, ¬ Spare blocks paragraph → next.cells paragraph = state.cells paragraph

namespace Claimed

variable {owner paragraphs : UInt16} {before after : List Mcb} {block : Mcb}

theorem member (_ : Claimed state next stop blocks owner paragraphs before block after) :
    block ∈ before ++ block :: after := by simp

variable (claimed : Claimed state next stop blocks owner paragraphs before block after)
include claimed

/-- The blocks in use before are in use beside the claimed one. -/
theorem apart (used : other ∈ owned blocks) : other ∈ before ++ block :: after ∧ other.segment ≠ block.segment := by
  rw [← claimed.others, mem_append] at used
  have outside : other ∈ before ∨ other ∈ after :=
    used.imp (fun inside => (mem_owned.mp inside).1) (fun inside => (mem_owned.mp inside).1)
  have whole : Chain next.cells state.arena.headSegment.toNat stop (before ++ ([block] ++ after)) := claimed.chain
  exact ⟨(mem_around outside : other ∈ before ++ ([block] ++ after)), segment_ne_of_apart whole outside (by simp)⟩

variable (chain : ArenaChain state stop blocks)
include chain

/-- The claimed block lies in space that was not in use. -/
theorem spare (inside : Inside block paragraph) : Spare blocks paragraph := by
  rw [spare_iff chain]
  have bounds := claimed.chain.tiles.bounds claimed.member
  refine ⟨⟨by have := inside.1; omega, by have := inside.2; omega⟩, fun other used inside' => ?_⟩
  obtain ⟨member, elsewhere⟩ := claimed.apart used
  exact elsewhere (congrArg Mcb.segment (claimed.chain.tiles.unique member claimed.member inside' inside))

/-- So does every other block that is free now. -/
theorem spare_of_free (member : other ∈ before ++ block :: after) (free : other.isFree)
    (inside : Inside other paragraph) : Spare blocks paragraph := by
  rw [spare_iff chain]
  have bounds := claimed.chain.tiles.bounds member
  refine ⟨⟨by have := inside.1; omega, by have := inside.2; omega⟩, fun used isUsed inside' => ?_⟩
  obtain rfl := claimed.chain.tiles.unique (claimed.apart isUsed).1 member inside' inside
  exact (mem_owned.mp isUsed).2 free

/-- Changes inside the body of the claimed block keep the claim. -/
theorem of_body {later : ArenaState} (arena : later.arena = next.arena)
    (frame : ∀ paragraph, ¬ (Inside block paragraph ∧ paragraph ≠ block.first) →
      later.cells paragraph = next.cells paragraph) :
    Claimed state later stop blocks owner paragraphs before block after where
  arena := arena.trans claimed.arena
  others := claimed.others
  owner := claimed.owner
  size := claimed.size
  chain := by
    refine Chain.of_headers claimed.chain (fun other member => frame _ ?_)
    rintro ⟨inside, elsewhere⟩
    obtain rfl := claimed.chain.tiles.unique member claimed.member (Inside.first other) inside
    exact elsewhere rfl
  frame := by
    intro paragraph used
    rw [frame paragraph fun inside => used (claimed.spare chain inside.1)]
    exact claimed.frame paragraph used

end Claimed

/-- What a search leaves behind. -/
theorem Searched.kept {blocks' : List Mcb} (searched : Swept state next stop blocks blocks') :
    owned blocks' = owned blocks ∧ ∀ paragraph, ¬ Spare blocks paragraph → next.cells paragraph = state.cells paragraph := by
  refine ⟨searched.merging.owned_eq, fun paragraph used => searched.frame paragraph fun start => used ?_⟩
  simp only [freeStarts, mem_map, mem_filter, decide_eq_true_eq] at start
  obtain ⟨block, ⟨member, free⟩, rfl⟩ := start
  exact ⟨block, member, free, Inside.first block⟩

/-- The placement claims exactly one of its pieces for the new owner. -/
theorem place_claims (strategy : UInt8) (cells : ℕ → McbRecord) {block : Mcb} {paragraphs : UInt16} (owner : UInt16)
    (name : Option (Fin 8 → UInt8)) (fits : paragraphs ≤ block.record.size) :
    ∃ left claimed right, place strategy cells block paragraphs owner name = left ++ claimed :: right ∧
      (∀ piece ∈ left ++ right, piece.isFree) ∧ claimed.record.owner = owner ∧ claimed.record.size = paragraphs ∧
      claimed.segment + 1 = if strategy > allocBestFit then
        block.segment + (block.record.size - paragraphs) + 1 else block.segment + 1 := by
  have low : ∃ claimed right, placeLow cells block paragraphs owner name = claimed :: right ∧
      (∀ piece ∈ right, piece.isFree) ∧ claimed.record.owner = owner ∧ claimed.record.size = paragraphs ∧
      claimed.segment = block.segment := by
    unfold placeLow
    split
    next => exact ⟨_, _, rfl, by simp [Mcb.isFree, lowRemainder], by simp [lowClaimed], by simp [lowClaimed], rfl⟩
    next whole =>
      have same : block.record.size = paragraphs := UInt16.le_antisymm (UInt16.not_lt.mp whole) fits
      exact ⟨_, _, rfl, by simp, by simp, by simp [same], rfl⟩
  unfold place
  split
  next high =>
    unfold placeHigh
    split
    next whole =>
      obtain ⟨claimed, right, shape, free, isOwner, size, segment⟩ := low
      exact ⟨[], claimed, right, shape, free, isOwner, size, by simp [segment, whole]⟩
    next =>
      refine ⟨[_], _, [], rfl, by simp [Mcb.isFree, highRemainder], by simp [highClaimed], by simp [highClaimed], ?_⟩
      change UInt16.ofNat _ + 1 = _
      rw [UInt16.ofNat_add, UInt16.ofNat_toNat, UInt16.ofNat_toNat]
  next =>
    obtain ⟨claimed, right, shape, free, isOwner, size, segment⟩ := low
    exact ⟨[], claimed, right, shape, free, isOwner, size, by rw [segment]⟩

/-- Allocation claims a block. -/
theorem Allocated.claimed {paragraphs owner : UInt16} {name : Option (Fin 8 → UInt8)} {result : AllocationResult}
    (chain : ArenaChain state stop blocks)
    (effect : Allocated machine state next stop blocks paragraphs owner name result) :
    ∃ before block after, Claimed state next stop blocks owner paragraphs before block after ∧
      block.segment + 1 = result.blockSegment := by
  obtain ⟨left, block, right, shape, free, isOwner, size, segment⟩ :=
    place_claims state.arena.strategy effect.middle.cells owner name effect.fits
  rw [← effect.result] at segment
  have placed := effect.placed
  rw [shape] at placed
  obtain ⟨same, frame⟩ := Searched.kept effect.searched
  rw [effect.shape, owned_append, owned_cons_free effect.free] at same
  have unused : owned left = [] ∧ owned right = [] :=
    ⟨owned_eq_nil fun piece inside => free piece (by simp [inside]),
      owned_eq_nil fun piece inside => free piece (by simp [inside])⟩
  refine ⟨effect.before ++ left, block, right ++ effect.after, ⟨placed.arena.trans effect.searched.arena,
    by simpa using placed.chain, by simpa [owned_append, unused] using same, isOwner, size, fun paragraph used => ?_⟩,
      segment⟩
  rw [placed.frame paragraph ?_]
  · exact frame paragraph used
  · intro start
    obtain ⟨piece, inside, rfl⟩ := mem_map.mp start
    have bounds := placed.chain.tiles.bounds (mem_append_right _ (mem_append_left _ inside))
    have positive := piece.span_pos
    refine used ((spare_iff chain).mpr ⟨⟨bounds.1, by omega⟩, fun other isUsed => ?_⟩)
    rw [← same, mem_append] at isUsed
    exact not_inside_of_apart placed.chain
      (isUsed.imp (fun here => (mem_owned.mp here).1) (fun here => (mem_owned.mp here).1)) inside

end DosC32.Memory
