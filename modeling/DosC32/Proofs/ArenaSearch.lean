import DosC32.Proofs.Memory

/-! # Walks of the arena

The loops of `dos/memory.c` that follow the chain: forward coalescing, the candidate search,
validation and the lookup of one header. On a well-formed chain every loop ends within its bound,
and the search merges runs of free blocks without touching a block in use.
-/

namespace DosC32.Memory

open Effect Store List Mcb

variable {machine : Machine} {state : ArenaState} {head stop : ℕ}

variable {blocks before rest : List Mcb} {steps : ℕ} {block : Mcb}

/-- A walk goes on to the block after one that is not signed as the end. -/
theorem Chain.follow {cells : ℕ → McbRecord} (chain : Chain cells head stop (before ++ block :: rest))
    (open_ : block.record.signature ≠ mcbSignatureEnd) :
    ∃ following tail, rest = following :: tail ∧ Chain cells head stop ((before ++ [block]) ++ following :: tail) ∧
      nextMcbSegment block.segment block.record = pure following.segment := by
  obtain ⟨following, tail, rfl, segment, bound⟩ := chain.exists_next open_
  refine ⟨following, tail, rfl, by simpa using chain, ?_⟩
  have accepted : ¬ (block.segment.toNat + block.record.size.toNat + 1 > 0xffff ∨
      block.segment.toNat + block.record.size.toNat + 1 ≤ block.segment.toNat) := by omega
  simp only [nextMcbSegment, failWhen, if_neg accepted, segment]
  rfl

/-- The blocks tile the arena of the state. -/
abbrev ArenaChain (state : ArenaState) (stop : ℕ) (blocks : List Mcb) : Prop :=
  Chain state.cells state.arena.headSegment.toNat stop blocks

theorem Unchanged.chain {state next : ArenaState} (same : Unchanged state next)
    (chain : Chain state.cells head stop blocks) : Chain next.cells head stop blocks := by
  rw [same.2]
  exact chain

/-- A block has absorbed a run of free blocks directly after it; nothing but its header changed. -/
structure Absorbed (state next : ArenaState) (head stop : ℕ) (before : List Mcb) (block : Mcb)
    (rest run rest' : List Mcb) : Prop where
  arena : next.arena = state.arena
  shape : rest = run ++ rest'
  free : ∀ following ∈ run, following.isFree
  chain : Chain next.cells head stop (before ++ block.absorbAll run :: rest')
  frame : AgreeOff [block.first] next.cells state.cells

namespace Absorbed

variable {next middle : ArenaState} {run rest' : List Mcb} {following : Mcb}

theorem nothing (same : Unchanged state next) (chain : Chain state.cells head stop (before ++ block :: rest)) :
    Absorbed state next head stop before block rest [] rest :=
  ⟨same.1, rfl, by simp, same.chain chain, same.2 ▸ .refl _ _⟩

theorem of_unchanged (same : Unchanged state middle)
    (later : Absorbed middle next head stop before block rest run rest') :
    Absorbed state next head stop before block rest run rest' :=
  ⟨later.arena.trans same.1, later.shape, later.free, later.chain, same.2 ▸ later.frame⟩

theorem cons (arena : middle.arena = state.arena) (frame : AgreeOff [block.first] middle.cells state.cells)
    (free : following.isFree)
    (later : Absorbed middle next head stop before (block.absorb following) rest run rest') :
    Absorbed state next head stop before block (following :: rest) (following :: run) rest' where
  arena := later.arena.trans arena
  shape := congrArg (following :: ·) later.shape
  free := forall_mem_cons.mpr ⟨free, later.free⟩
  chain := later.chain
  frame := later.frame.trans frame

end Absorbed

/-- One block of a search, as `find_candidates` accounts for it. -/
def considerBlock (requested : UInt16) (candidates : AllocationCandidates) (block : Mcb) : AllocationCandidates :=
  if block.isFree then candidates.consider requested block.segment block.record.size else candidates

/-- Free blocks of the tail have merged; only their headers changed. -/
structure Searched (state next : ArenaState) (head stop : ℕ) (before rest rest' : List Mcb) : Prop where
  arena : next.arena = state.arena
  merging : Merging rest rest'
  chain : Chain next.cells head stop (before ++ rest')
  frame : AgreeOff (freeStarts rest) next.cells state.cells

/-- The whole arena has been searched. -/
abbrev Swept (state next : ArenaState) (stop : ℕ) (blocks blocks' : List Mcb) : Prop :=
  Searched state next state.arena.headSegment.toNat stop [] blocks blocks'

namespace Searched

variable {next middle : ArenaState} {run rest' : List Mcb}

theorem nothing (same : Unchanged state next) (chain : Chain state.cells head stop (before ++ rest)) :
    Searched state next head stop before rest rest :=
  ⟨same.1, .refl _, same.chain chain, same.2 ▸ .refl _ _⟩

theorem keep (same : Unchanged state middle) (later : Searched middle next head stop (before ++ [block]) rest rest') :
    Searched state next head stop before (block :: rest) (block :: rest') where
  arena := later.arena.trans same.1
  merging := .keep block later.merging
  chain := by simpa using later.chain
  frame := by
    rw [← same.2]
    refine later.frame.mono (fun start member => ?_)
    simp only [freeStarts, mem_map, mem_filter] at member ⊢
    obtain ⟨free, ⟨inside, isFree⟩, same⟩ := member
    exact ⟨free, ⟨by simp [inside], isFree⟩, same⟩

theorem absorb {tail tail' : List Mcb} (free : block.isFree)
    (absorbed : Absorbed state middle head stop before block rest run tail)
    (later : Searched middle next head stop (before ++ [block.absorbAll run]) tail tail') :
    Searched state next head stop before (block :: rest) (block.absorbAll run :: tail') where
  arena := later.arena.trans absorbed.arena
  merging := by
    rw [absorbed.shape]
    exact .absorb free absorbed.free later.merging
  chain := by simpa using later.chain
  frame := by
    have tailFrame : AgreeOff (freeStarts (block :: rest)) next.cells middle.cells := by
      refine later.frame.mono (fun start member => ?_)
      rw [absorbed.shape]
      simp only [freeStarts, mem_map, mem_filter] at member ⊢
      obtain ⟨other, ⟨inside, isFree⟩, same⟩ := member
      exact ⟨other, ⟨by simp [inside], isFree⟩, same⟩
    refine tailFrame.trans (absorbed.frame.mono (fun start member => ?_))
    obtain rfl := mem_singleton.mp member
    simp [freeStarts, free]

end Searched

section Walks

variable (chain : Chain state.cells head stop (before ++ block :: rest))
include chain

theorem coalesceForwardLoop_spec (enough : rest.length ≤ steps) :
    wp (coalesceForwardLoop machine block.segment steps block.record) state
      (fun record next => ∃ run rest', Absorbed state next head stop before block rest run rest' ∧
        record = (block.absorbAll run).record ∧ ∀ following ∈ rest'.head?, ¬ following.isFree)
      (fun _ next => Refused machine (before ++ block :: rest) ∧ (Lost machine state next ∨
        ∃ run rest', Absorbed state next head stop before block rest run rest')) := by
  induction steps generalizing state block rest with
  | zero =>
    obtain rfl := length_eq_zero_iff.mp (Nat.le_zero.mp enough)
    have closed : block.record.signature = mcbSignatureEnd := ((signed_append (cons_ne_nil _ _)).mp chain.signed).2
    rw [coalesceForwardLoop, if_pos closed]
    exact ⟨[], [], .nothing ⟨rfl, rfl⟩ chain, rfl, by simp⟩
  | succ steps ih =>
    rw [coalesceForwardLoop]
    by_cases closed : block.record.signature = mcbSignatureEnd
    · rw [if_pos closed]
      obtain rfl := chain.last_of_end closed
      exact ⟨[], [], .nothing ⟨rfl, rfl⟩ chain, rfl, by simp⟩
    rw [if_neg closed]
    obtain ⟨following, rest, rfl, _, goes⟩ := Chain.follow chain closed
    simp only [goes, wp_rules]
    have inside : following ∈ before ++ block :: following :: rest := by simp
    apply wp_mono (readMcb_chain_spec chain inside)
    · rintro _ read ⟨same, rfl, _⟩
      simp only [wp_split]
      refine ⟨fun used => ⟨[], following :: rest, .nothing same chain, rfl, ?_⟩, fun notUsed => ⟨?_, fun _ => ?_⟩⟩
      · simpa [isFree] using used
      · intro large
        obtain ⟨_, _, _, _, after⟩ := Tiling.tiles_append.mp chain.tiles
        have ends := Nat.le_trans after.le chain.bounded
        simp only [Mcb.span] at ends
        omega
      have free : following.isFree := not_not.mp notUsed
      apply wp_mono replaceRecordBytes_spec
      · rintro _ written ⟨arena, cells, _⟩
        have frame : AgreeOff [block.first] written.cells state.cells := by
          intro paragraph outside
          rw [cells, same.2]
          exact Function.update_of_ne (by simpa [first] using outside) _ _
        have absorbed : Chain written.cells head stop (before ++ block.absorb following :: rest) := by
          rw [cells, same.2]
          exact chain.absorb
        apply wp_mono (ih absorbed (by simpa using enough))
        · rintro record next ⟨run, rest', later, isRecord, stops⟩
          exact ⟨_, rest', .cons (arena.trans same.1) frame free later, isRecord, stops⟩
        · rintro _ next ⟨refused, outcome⟩
          refine ⟨refused.exchange rfl (subset_cons_self _ _), ?_⟩
          rcases outcome with lost | ⟨run, rest', later⟩
          · exact .inl (lost.of_arena (arena.trans same.1))
          · exact .inr ⟨_, rest', .cons (arena.trans same.1) frame free later⟩
      · rintro _ next ⟨outcome, out⟩
        refine ⟨out.refused _ (by simp), ?_⟩
        rcases outcome with ⟨_, lost⟩ | ⟨_, same'⟩
        · exact .inl (lost.of_arena same.1)
        · exact .inr ⟨[], _, .nothing (same.trans same') chain⟩
    · rintro _ next ⟨same, out⟩
      exact ⟨out.refused _ inside, .inr ⟨[], _, .nothing same chain⟩⟩

/-- The bound of `coalesce_forward` is never reached. -/
theorem Chain.tail_length_le : rest.length ≤ mcbMaximumWalk := by
  have length := chain.length_le
  simp only [length_append, length_cons] at length
  omega

/-- The search merges every run of free blocks in the tail it visits. -/
theorem findCandidatesLoop_spec (requested : UInt16) (candidates : AllocationCandidates)
    (enough : rest.length < steps) :
    wp (findCandidatesLoop machine requested steps block.segment candidates) state
      (fun found next => Searched state next head stop before (block :: rest) (mergeRuns (block :: rest)) ∧
        found = (mergeRuns (block :: rest)).foldl (considerBlock requested) candidates)
      (fun _ next => Refused machine (before ++ block :: rest) ∧ (Lost machine state next ∨
        ∃ rest', Searched state next head stop before (block :: rest) rest')) := by
  induction steps generalizing state before block rest candidates with
  | zero => omega
  | succ steps ih =>
    have inside : block ∈ before ++ block :: rest := by simp
    have continues : ∀ (middle : ArenaState) (block' : Mcb) (tail : List Mcb) (soFar : AllocationCandidates),
        Chain middle.cells head stop (before ++ block' :: tail) → tail.length ≤ rest.length →
        wp (if block'.record.signature = mcbSignatureEnd then pure soFar else do
            let next ← nextMcbSegment block'.segment block'.record
            findCandidatesLoop machine requested steps next soFar) middle
          (fun found next => Searched middle next head stop (before ++ [block']) tail (mergeRuns tail) ∧
            found = (mergeRuns tail).foldl (considerBlock requested) soFar)
          (fun _ next => Refused machine (before ++ block' :: tail) ∧ (Lost machine middle next ∨
            ∃ tail', Searched middle next head stop (before ++ [block']) tail tail')) := by
      intro middle block' tail soFar chain' shorter
      simp only [wp_split]
      refine ⟨fun closed => ?_, fun open_ => ?_⟩
      · obtain rfl := chain'.last_of_end closed
        exact ⟨.nothing ⟨rfl, rfl⟩ (by simpa using chain'), rfl⟩
      · obtain ⟨following, tail, rfl, moved, goes⟩ := Chain.follow chain' open_
        simp only [goes, wp_pure]
        simp only [length_cons] at shorter
        refine wp_mono_failed (ih moved soFar (by omega)) ?_
        rintro _ next ⟨refused, outcome⟩
        exact ⟨by simpa using refused, outcome⟩
    simp only [findCandidatesLoop, wp_bind]
    apply wp_mono (readMcb_chain_spec chain inside)
    · rintro _ read ⟨same, rfl, _⟩
      rw [wp_ite]
      refine ⟨fun free => ?_, fun used => ?_⟩
      · simp only [wp_rules]
        apply wp_mono (coalesceForwardLoop_spec (same.chain chain) (Chain.tail_length_le chain))
        · rintro _ middle ⟨run, tail, absorbed, rfl, stops⟩
          have shorter : tail.length ≤ rest.length := by
            rw [absorbed.shape]
            simp
          have further := continues middle (block.absorbAll run) tail
            (candidates.consider requested block.segment (block.absorbAll run).record.size) absorbed.chain shorter
          rw [absorbAll_segment] at further
          have merged : mergeRuns (block :: rest) = block.absorbAll run :: mergeRuns tail := by
            rw [absorbed.shape, mergeRuns_of_free free absorbed.free stops]
          apply wp_mono further
          · rintro found next ⟨searched, rfl⟩
            rw [merged]
            refine ⟨.absorb free (absorbed.of_unchanged same) searched, ?_⟩
            rw [foldl_cons, considerBlock, if_pos ((absorbAll_isFree _ _).mpr free), absorbAll_segment]
          · rintro _ next ⟨refused, outcome⟩
            refine ⟨refused.exchange (absorbAll_segment _ _) (by simp [absorbed.shape]), ?_⟩
            rcases outcome with lost | ⟨tail', searched⟩
            · exact .inl (lost.of_arena (absorbed.arena.trans same.1))
            · exact .inr ⟨_, .absorb free (absorbed.of_unchanged same) searched⟩
        · rintro _ next ⟨refused, outcome⟩
          refine ⟨refused, ?_⟩
          rcases outcome with lost | ⟨run, tail, absorbed⟩
          · exact .inl (lost.of_arena same.1)
          · have unmoved : Searched next next head stop (before ++ [block.absorbAll run]) tail tail :=
              .nothing ⟨rfl, rfl⟩ (by simpa using absorbed.chain)
            exact .inr ⟨_, .absorb free (absorbed.of_unchanged same) unmoved⟩
      · rw [wp_bind, wp_pure]
        apply wp_mono (continues read block rest candidates (same.chain chain) (Nat.le_refl _))
        · rintro found next ⟨searched, rfl⟩
          rw [mergeRuns_of_owned used]
          refine ⟨.keep same searched, ?_⟩
          rw [foldl_cons, considerBlock, if_neg (show ¬ block.isFree from used)]
        · rintro _ next ⟨refused, outcome⟩
          refine ⟨refused, ?_⟩
          rcases outcome with lost | ⟨tail', searched⟩
          · exact .inl (lost.of_arena same.1)
          · exact .inr ⟨_, .keep same searched⟩
    · rintro _ next ⟨same, out⟩
      exact ⟨out.refused _ inside, .inr ⟨_, .nothing same chain⟩⟩

theorem validateLoop_spec (enough : rest.length < steps) :
    wp (validateLoop machine steps block.segment) state (fun _ => Unchanged state)
      (fun _ next => Unchanged state next ∧ Refused machine (before ++ block :: rest)) := by
  induction steps generalizing state before block rest with
  | zero => omega
  | succ steps ih =>
    have inside : block ∈ before ++ block :: rest := by simp
    simp only [validateLoop, wp_bind]
    apply wp_mono (readMcb_chain_spec chain inside)
    · rintro _ read ⟨same, rfl, _⟩
      simp only [wp_split]
      refine ⟨fun _ => same, fun open_ => ?_⟩
      obtain ⟨following, tail, rfl, moved, goes⟩ := Chain.follow (same.chain chain) open_
      simp only [goes, wp_pure]
      simp only [length_cons] at enough
      refine wp_mono (ih moved (by omega)) (fun _ _ outcome => same.trans outcome) ?_
      rintro _ next ⟨same', refused⟩
      exact ⟨same.trans same', by simpa using refused⟩
    · rintro _ next ⟨same, out⟩
      exact ⟨same, out.refused _ inside⟩

theorem locateMcbLoop_spec (wanted : UInt16) (enough : rest.length < steps) :
    wp (locateMcbLoop machine wanted steps block.segment) state
      (fun record next => Unchanged state next ∧
        ∃ found ∈ block :: rest, found.segment = wanted ∧ record = found.record)
      (fun _ next => Unchanged state next ∧ (Refused machine (before ++ block :: rest) ∨
        ∀ other ∈ block :: rest, other.segment ≠ wanted)) := by
  induction steps generalizing state before block rest with
  | zero => omega
  | succ steps ih =>
    have inside : block ∈ before ++ block :: rest := by simp
    simp only [locateMcbLoop, wp_bind]
    apply wp_mono (readMcb_chain_spec chain inside)
    · rintro _ read ⟨same, rfl, _⟩
      simp only [wp_split]
      refine ⟨fun hit => ⟨same, block, by simp, hit, rfl⟩, fun miss => ⟨fun ended => ⟨same, .inr ?_⟩, fun goes => ?_⟩⟩
      · obtain ⟨_, _, here, after⟩ := Tiling.tiles_append.mp chain.tiles
        rintro other member rfl
        rcases mem_cons.mp member with rfl | later
        · exact miss rfl
        rcases ended with less | closed
        · have bounds := (after.bounds later).1
          have less' := UInt16.lt_iff_toNat_lt.mp less
          simp only [first] at here bounds
          omega
        · rw [chain.last_of_end closed] at later
          contradiction
      · rw [not_or] at goes
        obtain ⟨following, tail, rfl, moved, next⟩ := Chain.follow (same.chain chain) goes.2
        simp only [next, wp_pure]
        simp only [length_cons] at enough
        apply wp_mono (ih moved (by omega))
        · rintro record next ⟨same', found, member, hit, isRecord⟩
          exact ⟨same.trans same', found, mem_cons_of_mem _ member, hit, isRecord⟩
        · rintro _ next ⟨same', outcome⟩
          refine ⟨same.trans same', ?_⟩
          rcases outcome with refused | none
          · exact .inl (by simpa using refused)
          · exact .inr (forall_mem_cons.mpr ⟨miss, none⟩)
    · rintro _ next ⟨same, out⟩
      exact ⟨same, .inl (out.refused _ inside)⟩

end Walks

/-- `arena_is_ready` accepts the native part of the arena. -/
structure Ready (arena : Arena) : Prop where
  encoding : arena.flagsHaveValidEncoding
  identity : identityIsValid arena.identity
  generation : arena.generation ≠ 0
  healthy : arena.machinePoisoned ≠ 1
  initialized : arena.initialized = 1

theorem wp_arenaIsReady {done : Unit → ArenaState → Prop} {failed : MemoryError → ArenaState → Prop}
    (passed : Ready state.arena → done () state) (refused : ∀ error, ¬ Ready state.arena → failed error state) :
    wp arenaIsReady state done failed := by
  simp only [arenaIsReady, wp_rules]
  refine ⟨fun bad => refused _ fun ready => bad ready.encoding, fun encoding => ⟨fun bad => refused _ fun ready => ?_,
    fun identified => ⟨fun bad => refused _ fun ready => ready.healthy bad, fun healthy =>
      ⟨fun bad => refused _ fun ready => bad ready.initialized, fun initialized => passed ?_⟩⟩⟩⟩
  · exact bad.elim (fun invalid => invalid ready.identity) ready.generation
  · rw [not_or, not_not] at identified
    exact ⟨not_not.mp encoding, identified.1, identified.2, healthy, not_not.mp initialized⟩

theorem Chain.exists_head {cells : ℕ → McbRecord} {segment : UInt16}
    (chain : Chain cells segment.toNat stop blocks) : ∃ block rest, blocks = block :: rest ∧ block.segment = segment := by
  cases blocks with
  | nil => exact chain.signed.elim
  | cons block rest => exact ⟨block, rest, rfl, UInt16.toNat_inj.mp chain.tiles.1⟩

theorem findCandidates_spec (requested : UInt16) (chain : ArenaChain state stop blocks) :
    wp (findCandidates machine requested) state
      (fun found next => Swept state next stop blocks (mergeRuns blocks) ∧
        found = (mergeRuns blocks).foldl (considerBlock requested) .none)
      (fun _ next => Refused machine blocks ∧ (Lost machine state next ∨
        ∃ blocks', Swept state next stop blocks blocks')) := by
  obtain ⟨block, rest, rfl, segment⟩ := Chain.exists_head chain
  simp only [findCandidates, wp_rules]
  have whole : Chain state.cells block.segment.toNat stop ([] ++ block :: rest) := segment ▸ chain
  simp only [Swept, ← segment]
  exact findCandidatesLoop_spec whole requested .none chain.length_le

/-- A ready arena with a well-formed chain validates, unless the machine refuses to read it. -/
theorem arenaValidate_spec (ready : Ready state.arena) (chain : ArenaChain state stop blocks) :
    wp (arenaValidate machine) state (fun _ => Unchanged state)
      (fun _ next => Unchanged state next ∧ Refused machine blocks) := by
  obtain ⟨block, rest, rfl, segment⟩ := Chain.exists_head chain
  simp only [arenaValidate, wp_bind]
  refine wp_arenaIsReady (fun _ => ?_) fun _ unready => absurd ready unready
  rw [ArenaChain, ← segment] at chain
  rw [wp_get, ← segment]
  have whole : Chain _ block.segment.toNat stop ([] ++ block :: rest) := chain
  exact validateLoop_spec whole chain.length_le

/-- The lookup finds exactly the headers of the chain. -/
theorem locateMcb_spec {wanted : UInt16} (chain : ArenaChain state stop blocks) :
    wp (locateMcb machine wanted) state
      (fun record next => Unchanged state next ∧ ∃ found ∈ blocks, found.segment = wanted ∧ record = found.record)
      (fun _ next => Unchanged state next ∧ (Refused machine blocks ∨ ∀ other ∈ blocks, other.segment ≠ wanted)) := by
  obtain ⟨block, rest, rfl, segment⟩ := Chain.exists_head chain
  simp only [locateMcb, wp_rules]
  have whole : Chain state.cells block.segment.toNat stop ([] ++ block :: rest) := segment ▸ chain
  rw [← segment]
  exact locateMcbLoop_spec whole wanted chain.length_le

end DosC32.Memory
