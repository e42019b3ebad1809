import DosC32.Soundness.ArenaSpace
import Mathlib.Data.List.TakeWhile
import Mathlib.Order.Bounds.Defs

/-! # The policy of the arena

Where `dos_memory_allocate_checked` puts a block, and what `dos_memory_resize_checked` makes of one, in
terms of the maximal runs of free blocks in the chain.
-/

namespace DosC32.Memory

open Effect Store Tiling List Mcb Machine

/-- The size of a block after it has absorbed a run of blocks with their headers. -/
def mergedSize (block : Mcb) (run : List Mcb) : ℕ := block.record.size.toNat + (run.map Mcb.span).sum

variable (blocks : List Mcb)

/-- The free blocks at the head of a list, and what follows them. -/
def freeHead : List Mcb := blocks.takeWhile fun block => block.isFree

def afterFree : List Mcb := blocks.dropWhile fun block => block.isFree

/-- A maximal run of free blocks, by its first paragraph and its merged size. -/
def FreeRun (start size : ℕ) : Prop :=
  ∃ before block rest, blocks = before ++ block :: rest ∧ block.isFree ∧ (∀ previous ∈ before.getLast?, ¬ previous.isFree) ∧
    start = block.first ∧ size = mergedSize block (freeHead rest)

/-- The run that a strategy takes for a request. -/
structure Selected (strategy : UInt8) (blocks : List Mcb) (requested start size : ℕ) : Prop where
  run : FreeRun blocks start size
  fits : requested ≤ size
  preferred : ∀ start' size', FreeRun blocks start' size' → requested ≤ size' →
    if strategy = allocFirstFit then start ≤ start'
    else if strategy = allocBestFit then size < size' ∨ size = size' ∧ start ≤ start'
    else start' ≤ start

/-- The blocks in use before are blocks of the chain now, and no byte of them has changed. -/
def KeepsOwned (state next : ArenaState) (blocks blocks' : List Mcb) : Prop :=
  arenaBlocks next = some blocks' ∧ ∀ old ∈ owned blocks, old ∈ blocks' ∧
    ∀ paragraph, Inside old paragraph → next.cells paragraph = state.cells paragraph

variable {cells : ℕ → McbRecord} {head stop : ℕ} {before rest run after blocks : List Mcb} {block : Mcb}

theorem freeHead_append (free : ∀ following ∈ run, following.isFree)
    (stops : ∀ following ∈ after.head?, ¬ following.isFree) :
    freeHead (run ++ after) = run ∧ afterFree (run ++ after) = after := by
  have none : freeHead after = [] ∧ afterFree after = after := by
    cases after with
    | nil => exact ⟨rfl, rfl⟩
    | cons following after => simp [freeHead, afterFree, stops following rfl]
  have all : ∀ following ∈ run, decide following.isFree = true :=
    fun following member => decide_eq_true (free following member)
  unfold freeHead afterFree at *
  rw [takeWhile_append_of_pos all, dropWhile_append_of_pos all, none.1, none.2, append_nil]
  exact ⟨rfl, rfl⟩

theorem freeHead_spec (rest : List Mcb) : freeHead rest ++ afterFree rest = rest ∧
    (∀ following ∈ freeHead rest, following.isFree) ∧ ∀ following ∈ (afterFree rest).head?, ¬ following.isFree := by
  refine ⟨takeWhile_append_dropWhile, fun following member => ?_, fun following isHead => ?_⟩
  · have holds := mem_takeWhile_imp (p := fun block : Mcb => decide block.isFree) member
    exact of_decide_eq_true holds
  · have stops := head?_dropWhile_not (fun block : Mcb => decide block.isFree) rest
    unfold afterFree at isHead
    rw [Option.mem_def.mp isHead] at stops
    simpa using stops

theorem absorbAll_size {start : ℕ} (tiled : Tiles Mcb.first Mcb.span start (block :: run) stop)
    (bounded : stop ≤ 0x10000) : (block.absorbAll run).record.size.toNat = mergedSize block run := by
  induction run generalizing block with
  | nil => rfl
  | cons following run ih =>
    obtain ⟨here, -, tail⟩ := tiled
    have inside := tail.le
    have span := Mcb.absorb_span (show block.span + following.span ≤ 0x10000 by omega)
    have merged : Tiles Mcb.first Mcb.span start (block.absorb following :: run) stop :=
      ⟨here, by rwa [span, ← Nat.add_assoc]⟩
    rw [Mcb.absorbAll_cons, ih merged]
    simp only [mergedSize, map_cons, sum_cons, Mcb.span] at span ⊢
    omega

/-- A run of the chain does not overflow the size of its first block. -/
theorem run_size (chain : Chain cells head stop (before ++ block :: (run ++ after))) :
    (block.absorbAll run).record.size.toNat = mergedSize block run := by
  obtain ⟨_, _, here⟩ := tiles_append.mp chain.tiles
  rw [← cons_append] at here
  obtain ⟨_, merged, rest⟩ := tiles_append.mp here
  exact absorbAll_size merged (rest.le.trans chain.bounded)

theorem mergeRuns_ne_nil (block : Mcb) (rest : List Mcb) : mergeRuns (block :: rest) ≠ [] := by
  rw [mergeRuns]
  split
  · exact cons_ne_nil _ _
  · split <;> exact cons_ne_nil _ _

/-- A block in use separates the runs before it from those after it. -/
theorem mergeRuns_append (stops : ∀ previous ∈ before.getLast?, ¬ previous.isFree) (rest : List Mcb) :
    mergeRuns (before ++ rest) = mergeRuns before ++ mergeRuns rest := by
  induction before with
  | nil => rfl
  | cons first before ih =>
    cases before with
    | nil =>
      have used : ¬ first.isFree := stops first rfl
      rw [singleton_append, mergeRuns_of_owned used, mergeRuns_of_owned used]
      rfl
    | cons second before =>
      have later := ih (by simpa using stops)
      rw [cons_append, mergeRuns.eq_2 first (second :: before ++ rest), later, mergeRuns.eq_2 first]
      cases shape : mergeRuns (second :: before) with
      | nil => exact absurd shape (mergeRuns_ne_nil _ _)
      | cons following others =>
        simp only [cons_append]
        split <;> rfl

/-- The runs that are found by decomposing the chain are the free blocks that merging leaves. -/
theorem mem_mergeRuns {merged : Mcb} :
    merged ∈ mergeRuns blocks ∧ merged.isFree ↔ ∃ before block rest, blocks = before ++ block :: rest ∧ block.isFree ∧
      (∀ previous ∈ before.getLast?, ¬ previous.isFree) ∧ merged = block.absorbAll (freeHead rest) := by
  constructor
  · rintro ⟨member, free⟩
    induction length : blocks.length using Nat.strong_induction_on generalizing blocks with
    | _ count ih =>
    cases blocks with
    | nil => cases member
    | cons first rest =>
      by_cases isFree : first.isFree
      · obtain ⟨shape, runFree, stops⟩ := freeHead_spec rest
        have merges := mergeRuns_of_free isFree runFree stops
        rw [shape] at merges
        rw [merges] at member
        rcases mem_cons.mp member with rfl | later
        · exact ⟨[], first, rest, rfl, isFree, by simp, rfl⟩
        · have shorter : (afterFree rest).length < count := by
            have total := congrArg List.length shape
            rw [length_append] at total
            rw [← length, length_cons]
            omega
          obtain ⟨before, block, rest', shape', blockFree, previous, rfl⟩ := ih _ shorter later rfl
          refine ⟨first :: freeHead rest ++ before, block, rest', ?_, blockFree, ?_, rfl⟩
          · rw [cons_append, cons_append, append_assoc, ← shape', shape]
          · cases before with
            | nil => exact absurd blockFree (stops block (by rw [shape']; rfl))
            | cons second before =>
              rw [getLast?_append_of_ne_nil _ (cons_ne_nil second before)]
              exact previous
      · rw [mergeRuns_of_owned isFree] at member
        rcases mem_cons.mp member with rfl | later
        · exact absurd free isFree
        · obtain ⟨before, block, rest', rfl, blockFree, previous, rfl⟩ :=
            ih _ (by rw [← length]; exact Nat.lt_succ_self _) later rfl
          refine ⟨first :: before, block, rest', rfl, blockFree, ?_, rfl⟩
          cases before with
          | nil => simpa using isFree
          | cons second before => simpa using previous
  · rintro ⟨before, block, rest, rfl, free, previous, rfl⟩
    obtain ⟨shape, runFree, stops⟩ := freeHead_spec rest
    have merges := mergeRuns_of_free free runFree stops
    rw [shape] at merges
    rw [mergeRuns_append previous, merges]
    exact ⟨by simp, (absorbAll_isFree _ _).mpr free⟩

theorem freeRun_iff (chain : Chain cells head stop blocks) {start size : ℕ} : FreeRun blocks start size ↔
      ∃ merged ∈ mergeRuns blocks, merged.isFree ∧ merged.first = start ∧ merged.record.size.toNat = size := by
  have sized : ∀ {before block rest}, blocks = before ++ block :: rest →
      (block.absorbAll (freeHead rest)).record.size.toNat = mergedSize block (freeHead rest) := by
    rintro before block rest rfl
    obtain ⟨shape, -⟩ := freeHead_spec rest
    rw [← shape] at chain
    exact run_size chain
  constructor
  · rintro ⟨before, block, rest, shape, free, previous, rfl, rfl⟩
    obtain ⟨member, isFree⟩ := mem_mergeRuns.mpr ⟨before, block, rest, shape, free, previous, rfl⟩
    exact ⟨_, member, isFree, by rw [first, absorbAll_segment]; rfl, sized shape⟩
  · rintro ⟨merged, member, free, rfl, rfl⟩
    obtain ⟨before, block, rest, shape, isFree, previous, rfl⟩ := mem_mergeRuns.mp ⟨member, free⟩
    exact ⟨before, block, rest, shape, isFree, previous, by rw [first, absorbAll_segment]; rfl, sized shape⟩

variable {machine : Machine} {state next : ArenaState}

theorem keepsOwned_of_frame {blocks' : List Mcb} (chain : ArenaChain state stop blocks)
    (arena : next.arena = state.arena) (chain' : Chain next.cells state.arena.headSegment.toNat stop blocks')
    (kept : ∀ old ∈ owned blocks, old ∈ blocks')
    (frame : ∀ paragraph, ¬ Spare blocks paragraph → next.cells paragraph = state.cells paragraph) :
    KeepsOwned state next blocks blocks' := by
  rw [← arena] at chain'
  exact ⟨arenaBlocks_eq chain', fun old used => ⟨kept old used, fun paragraph inside =>
    frame paragraph (not_spare_of_owned chain used inside)⟩⟩

/-- `dos_memory_allocate_checked` on a machine that does not fail: it refuses exactly when every free run is too small, and
then reports the largest; otherwise the block lies in the run that the strategy prefers, at its low end or, for a strategy
beyond best fit, at its high end. Blocks in use are left alone. -/
theorem allocation_policy {blocks : List Mcb} (reliable : machine.Reliable) (covers : Covers machine stop)
    (ready : Ready state.arena) (chain : Chain state.cells state.arena.headSegment.toNat stop blocks)
    (ownerPsp paragraphs : UInt16) :
    (∀ refusal, allocate machine ownerPsp paragraphs state = .error refusal next →
      refusal.status = .notEnoughMemory ∧ (∀ start size, FreeRun blocks start size → size < paragraphs.toNat) ∧
      IsGreatest (insert 0 { size | ∃ start, FreeRun blocks start size }) refusal.maximumAvailable.toNat ∧
      ∃ blocks', KeepsOwned state next blocks blocks') ∧
    (∀ result, allocate machine ownerPsp paragraphs state = .ok result next →
      ∃ start size, Selected state.arena.strategy blocks paragraphs.toNat start size ∧
        ∃ blocks' block, KeepsOwned state next blocks blocks' ∧ block ∈ blocks' ∧
          result.blockSegment = block.segment + 1 ∧ block.record.size = paragraphs ∧ block.record.owner = ownerPsp ∧
          block.first = if state.arena.strategy > allocBestFit then start + (size - paragraphs.toNat) else start) := by
  have spec := @allocateCheckedCommon_outcome machine _ _ ownerPsp none _ paragraphs chain
  constructor
  · intro refusal failed
    obtain ⟨outcome, refused⟩ := wp_of_error spec failed
    obtain ⟨status, none, bound, attained⟩ := refused ready reliable covers
    refine ⟨status, fun start size run => ?_, ⟨?_, ?_⟩, ?_⟩
    · obtain ⟨merged, member, free, -, rfl⟩ := (freeRun_iff chain).mp run
      rw [← UInt16.lt_iff_toNat_lt, ← UInt16.not_le]
      exact fun fits => none merged member ⟨free, fits⟩
    · rcases attained with zero | ⟨merged, member, free, size⟩
      · exact .inl (by rw [zero]; rfl)
      · exact .inr ⟨merged.first, (freeRun_iff chain).mpr ⟨merged, member, free, rfl, by rw [size]⟩⟩
    · rintro _ (rfl | ⟨start, run⟩)
      · exact Nat.zero_le _
      · obtain ⟨merged, member, free, -, rfl⟩ := (freeRun_iff chain).mp run
        exact UInt16.le_iff_toNat_le.mp (bound merged member free)
    · rcases outcome with lost | ⟨blocks', searched⟩
      · exact (lost.2 reliable).elim
      · obtain ⟨same, frame⟩ := Searched.kept searched
        refine ⟨blocks', keepsOwned_of_frame chain searched.arena searched.chain (fun old used => ?_) frame⟩
        rw [← same] at used
        exact (mem_owned.mp used).1
  · intro result returned
    obtain ⟨effect, preferred⟩ := wp_of_ok spec returned
    obtain ⟨before, block, after, claimed, segment⟩ := effect.claimed machine chain
    have member : effect.block ∈ mergeRuns blocks := by
      rw [effect.shape]
      simp
    refine ⟨_, _, ⟨(freeRun_iff chain).mpr ⟨effect.block, member, effect.free, rfl, rfl⟩,
      UInt16.le_iff_toNat_le.mp effect.fits, fun start' size' run fits => ?_⟩, _, block,
      keepsOwned_of_frame chain claimed.arena claimed.chain (fun old used => (claimed.apart used).1) claimed.frame,
      claimed.member, segment.symm, claimed.size, claimed.owner, ?_⟩
    · obtain ⟨merged, isMerged, free, rfl, rfl⟩ := (freeRun_iff chain).mp run
      have better := preferred merged isMerged ⟨free, UInt16.le_iff_toNat_le.mpr fits⟩
      simp only [Prefers, UInt16.lt_iff_toNat_lt, ← UInt16.toNat_inj] at better
      exact better
    · have extent := effect.searched.chain.extent_le member
      have difference := UInt16.toNat_sub_of_le _ _ effect.fits
      rw [effect.result] at segment
      simp only [Mcb.first, Mcb.span] at extent ⊢
      split at segment <;> rename_i high
      · rw [(UInt16.add_left_inj 1).mp segment, if_pos high, UInt16.toNat_add, difference]
        omega
      · rw [(UInt16.add_left_inj 1).mp segment, if_neg high]

theorem covers_ideal (stop : ℕ) : Covers ideal stop := by
  intro segment _
  have bound := segment.toNat_lt
  refine ⟨rfl, ?_⟩
  change segment.toNat * 16 < 0x110000 ∧ 16 ≤ 0x110000 - segment.toNat * 16
  omega

theorem ideal_reliable : ideal.Reliable :=
  ideal.reliable_of_configure ideal_configured ideal_faultFree

/-- Best fit takes the second run; the first is of two blocks and larger. -/
theorem allocation_policy_fragmented : ∃ size next,
    Selected allocBestFit (fragmentedBlock 0x10 :: fragmentedRest) 1 0x1a size ∧
    allocate ideal 5 1 fragmentedArena = .ok ⟨0x1b, 8⟩ next ∧
    ∃ blocks', KeepsOwned fragmentedArena next (fragmentedBlock 0x10 :: fragmentedRest) blocks' := by
  have ran : outcome (allocate ideal 5 1) fragmentedArena = .ok ⟨0x1b, 8⟩ := by decide +kernel
  have returned := eq_ok_of_outcome ran
  obtain ⟨start, size, selected, blocks', block, kept, -, segment, -, -, place⟩ :=
    (allocation_policy ideal_reliable (covers_ideal 0x28) fragmentedArena_ready fragmentedArena_chain 5 1).2 _ returned
  have here : block.segment = 0x1a := (UInt16.add_left_inj 1).mp segment.symm
  have low : start = 0x1a := by
    rw [first, here] at place
    exact place.symm
  subst low
  exact ⟨size, _, selected, returned, blocks', kept⟩

variable {pieces : List Mcb}

/-- Rewriting the headers of some blocks leaves the blocks on both sides alone. -/
theorem frame_apart (chain : Chain cells head stop (before ++ (pieces ++ after)))
    (frame : AgreeOff (pieces.map first) next.cells state.cells) {other : Mcb}
    (outside : other ∈ before ∨ other ∈ after) {paragraph : ℕ} (inside : Inside other paragraph) :
    next.cells paragraph = state.cells paragraph := by
  apply frame
  intro start
  obtain ⟨piece, isPiece, rfl⟩ := mem_map.mp start
  exact not_inside_of_apart chain outside isPiece inside

theorem absorbed_apart (absorbed : Absorbed state next head stop before block rest run after) {other : Mcb}
    (outside : other ∈ before ∨ other ∈ after) {paragraph : ℕ} (inside : Inside other paragraph) :
    next.cells paragraph = state.cells paragraph := by
  have chain : Chain next.cells head stop (before ++ ([block.absorbAll run] ++ after)) := absorbed.chain
  refine frame_apart chain ?_ outside inside
  simpa [first] using absorbed.frame

theorem keepsOwned_around (arena : next.arena = state.arena) (free : ∀ following ∈ run, following.isFree)
    (chain : Chain next.cells state.arena.headSegment.toNat stop (before ++ (pieces ++ after)))
    (frame : ∀ other, other ∈ before ∨ other ∈ after → ∀ paragraph, Inside other paragraph →
      next.cells paragraph = state.cells paragraph) :
    KeepsOwned state next (before ++ (run ++ after)) (before ++ (pieces ++ after)) := by
  rw [← arena] at chain
  refine ⟨arenaBlocks_eq chain, fun old used => ?_⟩
  obtain ⟨member, busy⟩ := mem_owned.mp used
  have outside : old ∈ before ∨ old ∈ after := by
    simp only [mem_append] at member
    rcases member with isBefore | isRun | isAfter
    · exact .inl isBefore
    · exact absurd (free old isRun) busy
    · exact .inr isAfter
  exact ⟨mem_around outside, frame old outside⟩

/-- What `allocate_low` leaves of a block, by sizes. -/
theorem placeLow_shape (cells : ℕ → McbRecord) {requested : UInt16} (owner : UInt16) (fits : requested ≤ block.record.size) :
    ∃ record remainder, placeLow cells block requested owner none = ⟨block.segment, record⟩ :: remainder ∧
      record.size = requested ∧ record.owner = owner ∧
      (requested.toNat = block.record.size.toNat ∧ remainder = [] ∨ ∃ free, remainder = [free] ∧ free.isFree ∧
        requested.toNat + 1 + free.record.size.toNat = block.record.size.toNat) := by
  unfold placeLow
  split
  next less =>
    obtain ⟨sizes, -⟩ := size_sub_sub_one less
    refine ⟨_, _, rfl, by simp, by simp, .inr ⟨_, rfl, by simp [isFree, lowRemainder], ?_⟩⟩
    simp only [lowRemainder, McbRecord.size_setSize]
    omega
  next whole =>
    have same : block.record.size = requested := UInt16.le_antisymm (UInt16.not_lt.mp whole) fits
    exact ⟨_, _, rfl, by simp [same], by simp, .inl ⟨by rw [same], rfl⟩⟩

/-- `dos_memory_resize_checked` on a block of the chain, on a machine that does not fail: the block can grow over the free
blocks directly after it, and what it does not need of them is one free block. -/
theorem resize_policy (reliable : machine.Reliable) (covers : Covers machine stop) (ready : Ready state.arena)
    (chain : Chain state.cells state.arena.headSegment.toNat stop (before ++ block :: rest))
    (currentPsp paragraphs : UInt16) :
    (∀ maximum, resize machine (block.segment + 1) currentPsp paragraphs state = .ok maximum next →
      maximum.toNat = mergedSize block (freeHead rest) ∧ paragraphs.toNat ≤ mergedSize block (freeHead rest) ∧
      ∃ record remainder,
        KeepsOwned state next (before ++ rest) (before ++ ⟨block.segment, record⟩ :: (remainder ++ afterFree rest)) ∧
        record.size = paragraphs ∧ record.owner = currentPsp ∧
        (paragraphs.toNat = mergedSize block (freeHead rest) ∧ remainder = [] ∨ ∃ free, remainder = [free] ∧ free.isFree ∧
          paragraphs.toNat + 1 + free.record.size.toNat = mergedSize block (freeHead rest)) ∧
        ∀ paragraph, block.first < paragraph →
          paragraph ≤ block.first + min block.record.size.toNat paragraphs.toNat →
          next.cells paragraph = state.cells paragraph) ∧
    (∀ refusal, resize machine (block.segment + 1) currentPsp paragraphs state = .error refusal next →
      refusal.status = .notEnoughMemory ∧ refusal.maximumAvailable.toNat = mergedSize block (freeHead rest) ∧
      mergedSize block (freeHead rest) < paragraphs.toNat ∧
      ∃ record, KeepsOwned state next (before ++ rest) (before ++ ⟨block.segment, record⟩ :: afterFree rest) ∧
        record.size.toNat = mergedSize block (freeHead rest) ∧ record.owner = block.record.owner) := by
  have spec := @resize_outcome machine _ _ _ _ _ _ currentPsp paragraphs chain
  constructor
  · intro maximum returned
    obtain ⟨⟨middle, run, after, absorbed, fits, placed⟩, isMaximum, stops⟩ := wp_of_ok spec returned
    obtain rfl := absorbed.shape
    obtain ⟨isRun, isAfter⟩ := freeHead_append absorbed.free stops
    have size := run_size chain
    rw [isRun, isAfter, ← size, isMaximum]
    refine ⟨rfl, UInt16.le_iff_toNat_le.mp fits, ?_⟩
    obtain ⟨record, remainder, shape, isSize, owner, rest⟩ := placeLow_shape middle.cells currentPsp fits
    rw [absorbAll_segment] at shape
    have kept := keepsOwned_around (placed.arena.trans absorbed.arena) absorbed.free placed.chain
      fun other outside paragraph inside => (frame_apart placed.chain placed.frame outside inside).trans
        (absorbed_apart absorbed outside inside)
    rw [shape] at kept
    refine ⟨record, remainder, kept, isSize, owner, rest, fun paragraph low high => ?_⟩
    rw [placed.frame paragraph ?_, absorbed.frame paragraph (by rw [mem_singleton]; omega)]
    -- the headers written lie at the start of the block and beyond what is left of it
    have tiles := placed.chain.tiles
    rw [shape] at tiles ⊢
    obtain ⟨_, _, here, tail⟩ := tiles_append.mp tiles
    rintro (_ | ⟨_, start⟩)
    · exact Nat.lt_irrefl _ low
    · obtain ⟨piece, isPiece, rfl⟩ := mem_map.mp start
      have bounds := tail.bounds (mem_append_left after isPiece)
      simp only [Mcb.first, Mcb.span, isSize] at here bounds high
      omega
  · intro refusal failed
    obtain ⟨-, refused⟩ := wp_of_error spec failed
    obtain ⟨run, after, absorbed, stops, large, rfl⟩ := refused ready reliable covers
    obtain rfl := absorbed.shape
    obtain ⟨isRun, isAfter⟩ := freeHead_append absorbed.free stops
    have size := run_size chain
    rw [isRun, isAfter, ← size]
    have self : block.absorbAll run = ⟨block.segment, (block.absorbAll run).record⟩ :=
      Mcb.ext (Mcb.absorbAll_segment block run) rfl
    have grown := absorbed.chain
    rw [self] at grown
    have kept := keepsOwned_around absorbed.arena absorbed.free (singleton_append ▸ grown)
      fun other outside paragraph inside => absorbed_apart absorbed outside inside
    exact ⟨rfl, rfl, UInt16.lt_iff_toNat_lt.mp large, _, kept, rfl, absorbAll_owner _ _⟩

/-- The first block grows over the free blocks behind it and leaves two paragraphs of them. -/
theorem resize_policy_fragmented : ∃ next record remainder,
    resize ideal 0x11 7 4 fragmentedArena = .ok 7 next ∧
    KeepsOwned fragmentedArena next fragmentedRest (⟨0x10, record⟩ :: (remainder ++ afterFree fragmentedRest)) ∧
    record.size = 4 ∧ ∃ free, remainder = [free] ∧ free.record.size.toNat = 2 := by
  have ran : outcome (resize ideal 0x11 7 4) fragmentedArena = .ok 7 := by decide +kernel
  have returned := eq_ok_of_outcome ran
  obtain ⟨merged, -, record, remainder, kept, size, -, rest, -⟩ :=
    (resize_policy ideal_reliable (covers_ideal 0x28) fragmentedArena_ready fragmentedArena_chain 7 4).1 _ returned
  rw [← merged] at rest
  rcases rest with ⟨exact', -⟩ | ⟨free, single, -, left⟩
  · cases exact'
  · refine ⟨_, record, remainder, returned, kept, size, free, single, ?_⟩
    change 4 + 1 + _ = 7 at left
    omega

end DosC32.Memory
