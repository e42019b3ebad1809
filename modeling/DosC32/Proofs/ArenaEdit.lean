import DosC32.Proofs.ArenaSearch

/-! # Edits of the arena

The procedures of `dos/memory.c` that place, release and relabel blocks. Placing a block cuts the
chosen free block in two when it is larger than the request; the new header takes over whatever
bytes already stood in its paragraph, except for its signature, owner and size.
-/

namespace DosC32.Memory

open Effect Store List McbRecord

variable {machine : Machine} {state : ArenaState} {head stop : ℕ}

section Claim

variable (record : McbRecord) (owner : UInt16) (name : Option (Fin 8 → UInt8))

@[simp] theorem claimRecord_signature : (claimRecord record owner name).signature = record.signature := by
  cases name <;> simp [claimRecord, setOwnerName]

@[simp] theorem claimRecord_size : (claimRecord record owner name).size = record.size := by
  cases name <;> simp [claimRecord, setOwnerName]

@[simp] theorem claimRecord_owner : (claimRecord record owner name).owner = owner := by
  cases name <;> simp [claimRecord, setOwnerName]

end Claim

variable (cells : ℕ → McbRecord) (block : Mcb) (requested owner : UInt16) (name : Option (Fin 8 → UInt8))

/-- The lower part of a block cut by `allocate_low`, claimed by its new owner. -/
def lowClaimed : Mcb :=
  ⟨block.segment, ((claimRecord block.record owner name).setSignature mcbSignatureNormal).setSize requested⟩

/-- What `allocate_low` leaves free above the claimed part. -/
def lowRemainder : Mcb :=
  ⟨UInt16.ofNat (block.segment.toNat + requested.toNat + 1),
    (((cells (UInt16.ofNat (block.segment.toNat + requested.toNat + 1)).toNat).setSignature
      block.record.signature).setOwner mcbOwnerFree).setSize (block.record.size - requested - 1)⟩

/-- The blocks left by `allocate_low`. -/
def placeLow : List Mcb :=
  if requested < block.record.size then
    [lowClaimed block requested owner name, lowRemainder cells block requested]
  else [⟨block.segment, claimRecord block.record owner name⟩]

/-- What `allocate_high` leaves free below the claimed part. -/
def highRemainder : Mcb :=
  ⟨block.segment, ((block.record.setSignature mcbSignatureNormal).setSize
    (block.record.size - requested - 1)).setOwner mcbOwnerFree⟩

/-- The upper part of a block cut by `allocate_high`, claimed by its new owner. -/
def highClaimed : Mcb :=
  ⟨UInt16.ofNat (block.segment.toNat + (block.record.size - requested).toNat),
    claimRecord (((cells (UInt16.ofNat (block.segment.toNat + (block.record.size - requested).toNat)).toNat).setSignature
      block.record.signature).setSize requested) owner name⟩

/-- The blocks left by `allocate_high`. -/
def placeHigh : List Mcb :=
  if requested = block.record.size then placeLow cells block requested owner name
  else [highRemainder block requested, highClaimed cells block requested owner name]

variable (strategy : UInt8)

/-- The blocks left by the placement that a strategy selects. -/
def place (cells : ℕ → McbRecord) (block : Mcb) (requested owner : UInt16)
    (name : Option (Fin 8 → UInt8)) : List Mcb :=
  if strategy > allocBestFit then placeHigh cells block requested owner name
  else placeLow cells block requested owner name

theorem placeLow_starts : ∃ piece ∈ placeLow cells block requested owner name, piece.segment = block.segment := by
  unfold placeLow
  split <;> exact ⟨_, mem_cons_self, rfl⟩

theorem placeHigh_starts : ∃ piece ∈ placeHigh cells block requested owner name, piece.segment = block.segment := by
  unfold placeHigh
  split
  · exact placeLow_starts _ _ _ _ _
  · exact ⟨_, mem_cons_self, rfl⟩

variable (machine state) in
/-- A block has been exchanged for `pieces`, whose headers were written and nothing else. -/
structure Placed (next : ArenaState) (head stop : ℕ) (before pieces after : List Mcb) : Prop where
  arena : next.arena = state.arena
  chain : Chain next.cells head stop (before ++ (pieces ++ after))
  frame : AgreeOff (pieces.map Mcb.first) next.cells state.cells
  reached : ∀ piece ∈ pieces, Reached machine piece.segment

theorem size_sub_sub_one {original requested : UInt16} (less : requested < original) :
    (original - requested - 1).toNat + requested.toNat + 1 = original.toNat ∧
      (original - requested).toNat + requested.toNat = original.toNat ∧ (original - requested).toNat ≠ 0 := by
  have less' := UInt16.lt_iff_toNat_lt.mp less
  have bound := original.toNat_lt
  have difference : (original - requested).toNat = original.toNat - requested.toNat :=
    UInt16.toNat_sub_of_le _ _ (UInt16.le_of_lt less)
  have positive : (1 : UInt16) ≤ original - requested := by
    rw [UInt16.le_iff_toNat_le, difference]
    change 1 ≤ _
    omega
  rw [UInt16.toNat_sub_of_le _ _ positive, difference]
  change original.toNat - requested.toNat - 1 + requested.toNat + 1 = _ ∧ _
  omega

section Placing

variable {before after : List Mcb} {block} (chain : Chain state.cells head stop (before ++ block :: after))
include chain

/-- The header of the upper part is read and rewritten, and that of the block with it. -/
private theorem split_spec {read : ArenaState} (same : Unchanged state read) (lower upper : Mcb)
    {rewrite : McbRecord → McbRecord} (written : upper.record = rewrite (state.cells upper.segment.toNat))
    (starts : lower.segment = block.segment) (meets : upper.first = block.first + lower.span)
    (spans : lower.span + upper.span = block.span) (normal : lower.record.signature = mcbSignatureNormal)
    (signature : upper.record.signature = block.record.signature) (reaches : Reached machine block.segment)
    {done : Unit → ArenaState → Prop}
    (placed : ∀ next, Placed machine state next head stop before [lower, upper] after → done () next) :
    wp (readRecordBytes machine upper.segment) read
      (fun old middle => wp (commitSplit machine block.segment lower.record upper.segment old (rewrite old)) middle done
        (fun _ next => Refused machine [lower, upper] ∧ (Lost machine state next ∨ Unchanged state next)))
      (fun _ next => Refused machine [lower, upper] ∧ (Lost machine state next ∨ Unchanged state next)) := by
  apply wp_mono readRecordBytes_spec
  · rintro _ middle ⟨same', rfl, _⟩
    replace same' := same.trans same'
    have spec := @commitSplit_spec machine middle block.segment upper.segment lower.record upper.record reaches
    rw [same'.2] at spec
    rw [same.2, ← written]
    apply wp_mono spec
    · rintro _ next ⟨arena, cells, reaches'⟩
      rw [← starts] at cells
      refine placed next ⟨arena.trans same'.1, cells ▸ chain.split starts meets spans normal signature, ?_, ?_⟩
      · intro paragraph outside
        simp only [map_cons, map_nil, mem_cons, not_mem_nil, or_false, not_or, Mcb.first] at outside
        rw [cells, Function.update_of_ne outside.1, Function.update_of_ne outside.2]
      · simpa [starts] using ⟨reaches, reaches'⟩
    · rintro _ next ⟨outcome, out⟩
      exact ⟨out.refused upper (by simp), outcome.imp (Lost.of_arena same'.1) same'.trans⟩
  · rintro _ next ⟨same', _, out⟩
    exact ⟨out.refused upper (by simp), .inr (same.trans same')⟩

theorem relabel_spec {read : ArenaState} (same : Unchanged state read) {record : McbRecord}
    (size : record.size = block.record.size) (signature : record.signature = block.record.signature) :
    wp (replaceRecordBytes machine block.segment record) read
      (fun _ next => Placed machine state next head stop before [⟨block.segment, record⟩] after)
      (fun _ next => Refused machine [⟨block.segment, record⟩] ∧ (Lost machine state next ∨ Unchanged state next)) := by
  apply wp_mono replaceRecordBytes_spec
  · rintro _ next ⟨arena, cells, reaches⟩
    rw [same.2] at cells
    refine ⟨arena.trans same.1, cells ▸ chain.relabel size signature, ?_, by simpa using reaches⟩
    intro paragraph outside
    rw [cells]
    exact Function.update_of_ne (by simpa [Mcb.first] using outside) _ _
  · rintro _ next ⟨outcome, out⟩
    refine ⟨Unreached.refused ⟨block.segment, record⟩ out mem_cons_self, ?_⟩
    exact outcome.imp (fun lost => lost.2.of_arena same.1) (fun kept => same.trans kept.2)

variable {requested} (fits : requested ≤ block.record.size)
include fits

/-- `allocate_low` places the block at the bottom of the one it was given. -/
theorem allocateLow_spec : wp (allocateLow machine block.segment requested owner name) state
      (fun segment next => segment = block.segment + 1 ∧
        Placed machine state next head stop before (placeLow state.cells block requested owner name) after)
      (fun _ next => Refused machine (placeLow state.cells block requested owner name) ∧
        (Lost machine state next ∨ Unchanged state next)) := by
  have inside : block ∈ before ++ block :: after := by simp
  have extent := chain.extent_le inside
  simp only [allocateLow, wp_bind]
  apply wp_mono (readMcb_chain_spec chain inside)
  · rintro _ read ⟨same, rfl, reaches⟩
    simp only [wp_split]
    refine ⟨fun large => absurd fits (UInt16.not_le.mpr large), fun _ => ⟨fun less => ?_, fun whole => ?_⟩⟩
    · obtain ⟨sizes, _, _⟩ := size_sub_sub_one less
      simp only [Mcb.first, Mcb.span] at extent
      refine ⟨fun wraps => by omega, fun _ => ?_⟩
      simp only [placeLow, if_pos less]
      refine split_spec chain same (lowClaimed block requested owner name)
        (lowRemainder state.cells block requested) rfl rfl ?_ ?_ ?_ ?_ reaches fun _ placed => ⟨trivial, placed⟩
      · simp only [Mcb.first, Mcb.span, lowRemainder, lowClaimed, size_setSize, UInt16.toNat_ofNat']
        omega
      · simp only [Mcb.span, lowRemainder, lowClaimed, size_setSize]
        omega
      · simp [lowClaimed]
      · simp [lowRemainder]
    · rw [placeLow, if_neg whole]
      exact wp_mono (relabel_spec chain same (by simp) (by simp))
        (fun _ _ placed => ⟨trivial, placed⟩) (fun _ _ => id)
  · rintro _ next ⟨same, out⟩
    obtain ⟨piece, member, starts⟩ := placeLow_starts state.cells block requested owner name
    exact ⟨Unreached.refused piece (starts ▸ out) member, .inr same⟩

/-- `allocate_high` places the block at the top of the one it was given. -/
theorem allocateHigh_spec : wp (allocateHigh machine block.segment requested owner name) state
      (fun segment next => segment = block.segment + (block.record.size - requested) + 1 ∧
        Placed machine state next head stop before (placeHigh state.cells block requested owner name) after)
      (fun _ next => Refused machine (placeHigh state.cells block requested owner name) ∧
        (Lost machine state next ∨ Unchanged state next)) := by
  have inside : block ∈ before ++ block :: after := by simp
  have extent := chain.extent_le inside
  simp only [allocateHigh, wp_bind]
  apply wp_mono (readMcb_chain_spec chain inside)
  · rintro _ read ⟨same, rfl, reaches⟩
    simp only [wp_split]
    refine ⟨fun large => absurd fits (UInt16.not_le.mpr large), fun _ => ⟨fun exact_ => ?_, fun other => ?_⟩⟩
    · rw [placeHigh, if_pos exact_]
      apply wp_mono (allocateLow_spec owner name (same.chain chain) fits)
      · rintro segment next ⟨rfl, placed⟩
        rw [same.2] at placed
        refine ⟨by simp [exact_], placed.arena.trans same.1, placed.chain, same.2 ▸ placed.frame, placed.reached⟩
      · rintro _ next ⟨refused, outcome⟩
        rw [same.2] at refused
        exact ⟨refused, outcome.imp (Lost.of_arena same.1) same.trans⟩
    · have less : requested < block.record.size := UInt16.lt_of_le_of_ne fits other
      obtain ⟨sizes, difference, positive⟩ := size_sub_sub_one less
      simp only [Mcb.first, Mcb.span] at extent
      refine ⟨fun wraps => by omega, fun _ => ?_⟩
      simp only [placeHigh, if_neg other]
      refine split_spec chain same (highRemainder block requested)
        (highClaimed state.cells block requested owner name) rfl rfl ?_ ?_ ?_ ?_ reaches fun _ placed => ⟨?_, placed⟩
      · simp only [Mcb.first, Mcb.span, highClaimed, highRemainder, size_setOwner, size_setSize, UInt16.toNat_ofNat']
        omega
      · simp only [Mcb.span, highClaimed, highRemainder, size_setOwner, claimRecord_size, size_setSize]
        omega
      · simp [highRemainder]
      · simp [highClaimed]
      · rw [UInt16.ofNat_add, UInt16.ofNat_toNat, UInt16.ofNat_toNat]
  · rintro _ next ⟨same, out⟩
    obtain ⟨piece, member, starts⟩ := placeHigh_starts state.cells block requested owner name
    exact ⟨Unreached.refused piece (starts ▸ out) member, .inr same⟩

theorem place_spec (strategy : UInt8) :
    wp (if strategy > allocBestFit then allocateHigh machine block.segment requested owner name
        else allocateLow machine block.segment requested owner name) state
      (fun segment next => segment = (if strategy > allocBestFit then
          block.segment + (block.record.size - requested) + 1 else block.segment + 1) ∧
        Placed machine state next head stop before (place strategy state.cells block requested owner name) after)
      (fun _ next => Refused machine (place strategy state.cells block requested owner name) ∧
        (Lost machine state next ∨ Unchanged state next)) := by
  unfold place
  split
  · exact allocateHigh_spec owner name chain fits
  · exact allocateLow_spec owner name chain fits

end Placing

variable {requested}

/-- A free block that holds the request. -/
def Fits (requested : UInt16) (block : Mcb) : Prop := block.isFree ∧ requested ≤ block.record.size

/-- What the candidates say about the blocks seen so far. -/
structure Chosen (requested : UInt16) (seen : List Mcb) (candidates : AllocationCandidates) : Prop where
  bound : ∀ block ∈ seen, block.isFree → block.record.size ≤ candidates.maximum
  attained : candidates.maximum = 0 ∨ ∃ block ∈ seen, block.isFree ∧ block.record.size = candidates.maximum
  none : candidates.found = false → ∀ block ∈ seen, ¬ Fits requested block
  first : candidates.found = true → ∃ block ∈ seen, Fits requested block ∧ block.segment = candidates.first ∧
    ∀ other ∈ seen, Fits requested other → block.first ≤ other.first
  best : candidates.found = true → ∃ block ∈ seen, Fits requested block ∧ block.segment = candidates.best ∧
    block.record.size = candidates.bestSize ∧ ∀ other ∈ seen, Fits requested other →
      block.record.size < other.record.size ∨ block.record.size = other.record.size ∧ block.first ≤ other.first
  last : candidates.found = true → ∃ block ∈ seen, Fits requested block ∧ block.segment = candidates.last ∧
    ∀ other ∈ seen, Fits requested other → other.first ≤ block.first

variable {candidates : AllocationCandidates}

theorem consider_of_lt {segment size : UInt16} (small : size < requested) :
    candidates.consider requested segment size =
      { candidates with maximum := if size > candidates.maximum then size else candidates.maximum } := by
  simp only [AllocationCandidates.consider, ge_iff_le, UInt16.not_le.mpr small, if_false]
  split <;> rfl

theorem consider_of_le {segment size : UInt16} (fits : requested ≤ size) :
    candidates.consider requested segment size =
      ⟨true, if candidates.found then candidates.first else segment,
        if candidates.found ∧ ¬ size < candidates.bestSize then candidates.best else segment,
        if candidates.found ∧ ¬ size < candidates.bestSize then candidates.bestSize else size, segment,
        if size > candidates.maximum then size else candidates.maximum⟩ := by
  simp only [AllocationCandidates.consider, ge_iff_le, fits, if_true]
  by_cases larger : size > candidates.maximum <;> cases found : candidates.found <;>
    by_cases less : size < candidates.bestSize <;> simp [larger, found, less]

/-- The search accounts for one block after all the others. -/
theorem Chosen.step {seen : List Mcb}
    (chosen : Chosen requested seen candidates) {block : Mcb} (after : ∀ old ∈ seen, old.first < block.first) :
    Chosen requested (seen ++ [block]) (considerBlock requested candidates block) := by
  obtain ⟨bound, attained, none, first, best, last⟩ := chosen
  simp only [UInt16.le_iff_toNat_le, UInt16.lt_iff_toNat_lt] at bound best
  by_cases free : block.isFree
  · rw [considerBlock, if_pos free]
    rcases UInt16.lt_or_le block.record.size requested with small | fits
    · have misses : ¬ Fits requested block := fun both => UInt16.not_le.mpr small both.2
      rw [consider_of_lt small]
      constructor <;> simp only [mem_append, mem_singleton, UInt16.le_iff_toNat_le, UInt16.lt_iff_toNat_lt, gt_iff_lt]
      all_goals grind
    · have hits : Fits requested block := ⟨free, fits⟩
      rw [consider_of_le fits]
      constructor <;> simp only [mem_append, mem_singleton, UInt16.le_iff_toNat_le, UInt16.lt_iff_toNat_lt, gt_iff_lt]
      case best =>
        -- a tie stays with the earlier block
        intro _
        by_cases keeps : candidates.found = true ∧ ¬ block.record.size.toNat < candidates.bestSize.toNat
        · rw [if_pos keeps, if_pos keeps]
          obtain ⟨old, member, oldFits, segment, size, least⟩ := best keeps.1
          refine ⟨old, .inl member, oldFits, segment, size, fun other isOther otherFits => ?_⟩
          rcases isOther with inside | rfl
          · exact least other inside otherFits
          · have earlier := after old member
            rw [← size] at keeps
            rw [← UInt16.toNat_inj]
            omega
        · rw [if_neg keeps, if_neg keeps]
          refine ⟨block, .inr rfl, hits, rfl, rfl, fun other isOther otherFits => ?_⟩
          rcases isOther with inside | rfl
          · have found : candidates.found = true := by
              by_contra unfound
              exact none (Bool.not_eq_true _ ▸ unfound) other inside otherFits
            obtain ⟨old, -, -, -, size, least⟩ := best found
            have smaller := least other inside otherFits
            have less := not_not.mp fun large => keeps ⟨found, large⟩
            rw [size, ← UInt16.toNat_inj] at smaller
            omega
          · exact .inr ⟨rfl, Nat.le_refl _⟩
      all_goals grind
  · have misses : ¬ Fits requested block := fun both => free both.1
    rw [considerBlock, if_neg free]
    constructor <;> simp only [mem_append, mem_singleton, UInt16.le_iff_toNat_le, UInt16.lt_iff_toNat_lt]
    all_goals grind

/-- The candidates that a search of these blocks leaves. -/
def candidatesOf (requested : UInt16) (blocks : List Mcb) : AllocationCandidates :=
  blocks.foldl (considerBlock requested) .none

variable {blocks : List Mcb}

theorem chosen_candidatesOf (requested : UInt16)
    (increasing : blocks.Pairwise fun left right => left.first < right.first) :
    Chosen requested blocks (candidatesOf requested blocks) := by
  induction blocks using reverseRecOn with
  | nil => constructor <;> simp [candidatesOf, AllocationCandidates.none]
  | append_singleton seen block ih =>
    obtain ⟨earlier, -, after⟩ := pairwise_append.mp increasing
    rw [candidatesOf, foldl_append]
    exact (ih earlier).step fun old member => after old member block (mem_singleton_self block)

/-- A strategy does not take the other block before this one. -/
def Prefers (block other : Mcb) : Prop :=
  if strategy = allocFirstFit then block.first ≤ other.first
  else if strategy = allocBestFit then
    block.record.size < other.record.size ∨ block.record.size = other.record.size ∧ block.first ≤ other.first
  else other.first ≤ block.first

theorem Chosen.selected
    (chosen : Chosen requested blocks candidates) (found : candidates.found = true) (strategy : UInt8) :
    ∃ block ∈ blocks, Fits requested block ∧ block.segment = candidates.selected strategy ∧
      ∀ other ∈ blocks, Fits requested other → Prefers strategy block other := by
  unfold AllocationCandidates.selected Prefers
  split_ifs
  · exact chosen.first found
  · obtain ⟨block, member, fits, segment, -, least⟩ := chosen.best found
    exact ⟨block, member, fits, segment, least⟩
  · exact chosen.last found

variable (machine state) in
/-- A successful allocation: after the search, one free block of sufficient size was claimed. -/
structure Allocated (next : ArenaState) (stop : ℕ) (blocks : List Mcb) (paragraphs owner : UInt16)
    (name : Option (Fin 8 → UInt8)) (result : AllocationResult) where
  middle : ArenaState
  before : List Mcb
  block : Mcb
  after : List Mcb
  searched : Searched state middle state.arena.headSegment.toNat stop [] blocks (mergeRuns blocks)
  shape : mergeRuns blocks = before ++ block :: after
  free : block.isFree
  fits : paragraphs ≤ block.record.size
  placed : Placed machine middle next state.arena.headSegment.toNat stop before
    (place state.arena.strategy middle.cells block paragraphs owner name) after
  result : result.blockSegment = if state.arena.strategy > allocBestFit then
    block.segment + (block.record.size - paragraphs) + 1 else block.segment + 1

/-- The machine reaches every paragraph of the arena. -/
def Covers (machine : Machine) (stop : ℕ) : Prop := ∀ segment : UInt16, segment.toNat < stop → Reached machine segment

theorem Covers.not_refused {machine : Machine} (covers : Covers machine stop) (reliable : machine.Reliable)
    (inside : ∀ block ∈ blocks, block.first < stop) : ¬ Refused machine blocks := fun refused =>
  refused reliable fun block member => covers block.segment (inside block member)

theorem Chain.first_lt {cells : ℕ → McbRecord} (chain : Chain cells head stop blocks) :
    ∀ block ∈ blocks, block.first < stop := by
  intro block member
  have bounds := chain.tiles.bounds member
  have positive := block.span_pos
  omega

/-- A placement puts its headers inside the block it was given. -/
theorem place_first_lt (cells : ℕ → McbRecord) {block : Mcb} (owner : UInt16)
    (name : Option (Fin 8 → UInt8)) (fits : requested ≤ block.record.size) (extent : block.first + block.span ≤ 0x10000) :
    ∀ piece ∈ place strategy cells block requested owner name, piece.first < block.first + block.span := by
  have low : ∀ piece ∈ placeLow cells block requested owner name, piece.first < block.first + block.span := by
    unfold placeLow
    split
    next less =>
      rw [UInt16.lt_iff_toNat_lt] at less
      simp only [Mcb.first, Mcb.span, forall_mem_cons, lowClaimed, lowRemainder, UInt16.toNat_ofNat', not_mem_nil,
        false_implies, implies_true, and_true] at extent ⊢
      omega
    · simp [Mcb.first, Mcb.span]
  unfold place placeHigh
  split_ifs
  · exact low
  · have difference := UInt16.toNat_sub_of_le _ _ fits
    simp only [Mcb.first, Mcb.span, forall_mem_cons, highClaimed, highRemainder, UInt16.toNat_ofNat', not_mem_nil,
      false_implies, implies_true, and_true] at extent ⊢
    omega
  · exact low

/-- What an allocation selects, and the only reason to refuse one on a reliable machine. -/
theorem allocateCheckedCommon_outcome (paragraphs : UInt16) (chain : ArenaChain state stop blocks) :
    wp (allocateCheckedCommon machine owner name paragraphs) state
      (fun result next => ∃ effect : Allocated machine state next stop blocks paragraphs owner name result,
        ∀ other ∈ mergeRuns blocks, Fits paragraphs other → Prefers state.arena.strategy effect.block other)
      (fun refusal next => (Lost machine state next ∨ ∃ blocks', Swept state next stop blocks blocks') ∧
        (Ready state.arena → machine.Reliable → Covers machine stop → refusal.status = .notEnoughMemory ∧
          (∀ block ∈ mergeRuns blocks, ¬ Fits paragraphs block) ∧
          (∀ block ∈ mergeRuns blocks, block.isFree → block.record.size ≤ refusal.maximumAvailable) ∧
          (refusal.maximumAvailable = 0 ∨
            ∃ block ∈ mergeRuns blocks, block.isFree ∧ block.record.size = refusal.maximumAvailable))) := by
  simp only [allocateCheckedCommon, wp_bind, wp_mapError]
  refine wp_arenaIsReady (fun _ => ?_) fun _ unready =>
    ⟨.inr ⟨blocks, .nothing ⟨rfl, rfl⟩ chain⟩, fun ready => absurd ready unready⟩
  apply wp_mono (findCandidates_spec paragraphs chain)
  · rintro candidates middle ⟨searched, isFound⟩
    replace isFound : candidates = candidatesOf paragraphs (mergeRuns blocks) := isFound
    have chosen : Chosen paragraphs (mergeRuns blocks) (candidatesOf paragraphs (mergeRuns blocks)) :=
      chosen_candidatesOf paragraphs (pairwise_map.mp (searched.chain.tiles.increasing Mcb.span_pos))
    rw [← isFound] at chosen
    simp only [wp_failWhen, wp_get, wp_pure]
    refine ⟨fun none => ⟨.inr ⟨_, searched⟩, fun _ _ _ => ⟨trivial, chosen.none none, chosen.bound, chosen.attained⟩⟩,
      fun found => ?_⟩
    replace found := Bool.not_eq_false _ ▸ found
    obtain ⟨block, member, ⟨free, fits⟩, selected, preferred⟩ := chosen.selected found middle.arena.strategy
    obtain ⟨before, after, shape⟩ := append_of_mem member
    have located : Chain middle.cells state.arena.headSegment.toNat stop (before ++ block :: after) :=
      shape ▸ searched.chain
    have bounds := located.tiles.bounds (show block ∈ before ++ block :: after by simp)
    have pieces := place_first_lt state.arena.strategy middle.cells owner name fits (Nat.le_trans bounds.2 located.bounded)
    rw [← selected, searched.arena]
    rw [searched.arena] at preferred
    apply wp_mono (place_spec owner name located fits state.arena.strategy)
    · rintro segment next ⟨isSegment, placed⟩
      exact ⟨⟨middle, before, block, after, searched, shape, free, fits, placed, isSegment⟩, preferred⟩
    · rintro _ next ⟨refused, outcome⟩
      refine ⟨?_, fun _ reliable covers => (covers.not_refused reliable (fun piece member => ?_) refused).elim⟩
      · rcases outcome with lost | same
        · exact .inl (lost.of_arena searched.arena)
        · exact .inr ⟨_, same.1.trans searched.arena, searched.merging, same.chain searched.chain,
            same.2 ▸ searched.frame⟩
      · exact (pieces piece member).trans_le bounds.2
  · exact fun _ next outcome =>
      ⟨outcome.2, fun _ reliable covers => (covers.not_refused reliable (Chain.first_lt chain) outcome.1).elim⟩

end DosC32.Memory
