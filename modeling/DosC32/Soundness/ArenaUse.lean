import DosC32.Soundness.ArenaSpace

/-! # The arena as a partial map of headers in use

What a client of the arena relies on: a finite map from header segments to the headers in use. On
a reliable machine allocation adds one entry where there was none, a transfer replaces an entry,
a release removes one, and every failing call leaves the map as it was.
-/

namespace DosC32.Memory

open Effect Function List

/-- The header in use at a segment. -/
def usage (blocks : List Mcb) (segment : UInt16) : Option McbRecord :=
  ((owned blocks).find? fun block => block.segment = segment).map Mcb.record

variable {cells cells' : ℕ → McbRecord} {head stop : ℕ} {blocks blocks' : List Mcb} {record : McbRecord}
    {segment : UInt16}

theorem usage_eq_some (chain : Chain cells head stop blocks) :
    usage blocks segment = some record ↔ ⟨segment, record⟩ ∈ owned blocks := by
  simp only [usage, Option.map_eq_some_iff]
  constructor
  · rintro ⟨block, found, rfl⟩
    have here := find?_some found
    simp only [decide_eq_true_eq] at here
    subst here
    exact mem_of_find?_eq_some found
  · intro inUse
    cases found : (owned blocks).find? fun block => block.segment = segment with
    | none => exact absurd (find?_eq_none.mp found _ inUse) (by simp)
    | some block =>
      have here := find?_some found
      simp only [decide_eq_true_eq] at here
      have other := mem_owned.mp (mem_of_find?_eq_some found)
      obtain rfl := chain.eq_of_segment other.1 (mem_owned.mp inUse).1 here
      exact ⟨_, rfl, rfl⟩

theorem mem_of_usage (chain : Chain cells head stop blocks) (inUse : usage blocks segment = some record) :
    ⟨segment, record⟩ ∈ blocks ∧ record.owner ≠ mcbOwnerFree :=
  mem_owned.mp ((usage_eq_some chain).mp inUse)

/-- All headers in use but the one at `segment` are the same. -/
theorem usage_update (chain : Chain cells head stop blocks) (chain' : Chain cells' head stop blocks')
    {value : Option McbRecord} (here : ∀ record, value = some record ↔ ⟨segment, record⟩ ∈ owned blocks')
    (others : ∀ block : Mcb, block.segment ≠ segment → (block ∈ owned blocks' ↔ block ∈ owned blocks)) :
    usage blocks' = update (usage blocks) segment value := by
  funext other
  refine Option.ext fun record => ?_
  by_cases same : other = segment
  · rw [same, update_self, usage_eq_some chain', here]
  · rw [update_of_ne same, usage_eq_some chain', usage_eq_some chain]
    exact others ⟨other, record⟩ same

variable {machine : Machine} {headSegment owner : UInt16} {state next : ArenaState}

/-- Replace the header at a segment. -/
def rewriteHeader (segment : UInt16) (record : McbRecord) (block : Mcb) : Mcb :=
  if block.segment = segment then ⟨segment, record⟩ else block

theorem map_rewriteHeader {rest : List Mcb} (elsewhere : ∀ block ∈ rest, block.segment ≠ segment) :
    rest.map (rewriteHeader segment record) = rest := by
  conv => rhs; rw [← map_id rest]
  exact map_congr_left fun block member => if_neg (elsewhere block member)

variable (sound : Sound machine headSegment stop state blocks)
include sound

theorem Sound.arenaBlocks_eq : arenaBlocks state = some blocks :=
  Memory.arenaBlocks_eq sound.headed

omit sound in
/-- The claimed block is the one header that is in use in addition. -/
theorem Claimed.usage_eq {paragraphs : UInt16} {before after : List Mcb} {block : Mcb} (real : owner ≠ mcbOwnerFree)
    (claimed : Claimed state next stop blocks owner paragraphs before block after)
    (chain : ArenaChain state stop blocks) : usage blocks block.segment = none ∧
      usage (before ++ block :: after) = update (usage blocks) block.segment (some block.record) := by
  have busy : ¬ block.isFree := by
    rw [Mcb.isFree, claimed.owner]
    exact real
  have inUse : ∀ other, other ∈ owned (before ++ block :: after) ↔ other = block ∨ other ∈ owned blocks := by
    intro other
    have shape : owned (block :: after) = block :: owned after := by simp [owned, busy]
    rw [← claimed.others, owned_append, shape]
    simp only [mem_append, mem_cons, or_left_comm]
  constructor
  · refine Option.eq_none_iff_forall_ne_some.mpr fun record found => ?_
    exact (claimed.apart ((usage_eq_some chain).mp found)).2 rfl
  · refine usage_update chain claimed.chain (fun record => ?_) (fun other elsewhere => ?_)
    · rw [inUse]
      constructor
      · rintro ⟨⟩
        exact .inl rfl
      · rintro (same | used)
        · exact congrArg (some ∘ Mcb.record) same.symm
        · exact absurd rfl (claimed.apart used).2
    · rw [inUse]
      exact or_iff_right fun same => elsewhere (congrArg Mcb.segment same)

variable (stop blocks machine headSegment state) in
/-- One header is in use in addition, with this owner and size. -/
def Adds (owner paragraphs segment : UInt16) (next : ArenaState) : Prop :=
  next.arena = state.arena ∧ ∃ blocks' record, Sound machine headSegment stop next blocks' ∧ record.owner = owner ∧
    record.size = paragraphs ∧ usage blocks segment = none ∧
    usage blocks' = update (usage blocks) segment (some record)

variable (stop blocks machine headSegment state) in
/-- The header in use at the segment has another owner and its size as before. -/
def Rebinds (segment newOwner : UInt16) (next : ArenaState) : Prop :=
  next.arena = state.arena ∧ ∃ blocks' record record', Sound machine headSegment stop next blocks' ∧
    usage blocks segment = some record ∧ record'.owner = newOwner ∧ record'.size = record.size ∧
    usage blocks' = update (usage blocks) segment (some record')

theorem Allocated.adds {paragraphs : UInt16} {name : Option (Fin 8 → UInt8)} {result : AllocationResult}
    (real : owner ≠ mcbOwnerFree) (effect : Allocated machine state next stop blocks paragraphs owner name result) :
    Adds stop blocks machine headSegment state owner paragraphs (result.blockSegment - 1) next := by
  obtain ⟨before, block, after, claimed, segment⟩ := effect.claimed machine sound.headed
  obtain ⟨blocks', sound'⟩ := sound.allocated effect
  have chain' := claimed.chain
  rw [← claimed.arena] at chain'
  cases (Memory.arenaBlocks_eq chain').symm.trans sound'.arenaBlocks_eq
  rw [← segment, UInt16.add_sub_cancel]
  exact ⟨claimed.arena, _, block.record, sound', claimed.owner, claimed.size, claimed.usage_eq real sound.headed⟩

/-- Rewriting a header in place changes the map at its segment only. -/
theorem Relabelled.usage_eq {block : Mcb}
    (effect : Relabelled machine state next state.arena.headSegment.toNat stop blocks block record) :
    next.arena = state.arena ∧ Sound machine headSegment stop next (blocks.map (rewriteHeader block.segment record)) ∧
      (block.record.owner ≠ mcbOwnerFree → usage blocks block.segment = some block.record) ∧
      usage (blocks.map (rewriteHeader block.segment record)) = update (usage blocks) block.segment
        (if record.owner = mcbOwnerFree then none else some record) := by
  rw [sound.head] at effect
  obtain ⟨before, after, rfl, placement⟩ := effect
  have chain : Chain state.cells headSegment.toNat stop (before ++ ([block] ++ after)) := sound.chain
  have apart : ∀ other : Mcb, other ∈ before ∨ other ∈ after → other.segment ≠ block.segment :=
    fun other outside => segment_ne_of_apart chain outside mem_cons_self
  have shape : (before ++ block :: after).map (rewriteHeader block.segment record) =
      before ++ ([⟨block.segment, record⟩] ++ after) := by
    rw [map_append, map_cons, map_rewriteHeader fun other inside => apart other (.inl inside),
      map_rewriteHeader fun other inside => apart other (.inr inside), rewriteHeader, if_pos rfl]
    rfl
  have placed := sound.placed placement
  rw [shape]
  refine ⟨placement.arena, placed, fun used => (usage_eq_some sound.chain).mpr (mem_owned.mpr ⟨by simp, used⟩), ?_⟩
  refine usage_update sound.chain placed.chain (fun found => ?_) (fun other elsewhere => ?_)
  · rw [mem_owned]
    constructor
    · intro value
      split at value
      · exact absurd value (by simp)
      · next used =>
        cases value
        exact ⟨by simp, used⟩
    · rintro ⟨inside, used⟩
      obtain rfl := congrArg Mcb.record (placed.chain.eq_of_segment inside
        (by simp : (⟨block.segment, record⟩ : Mcb) ∈ _) rfl)
      exact if_neg used
  · have different : other ≠ ⟨block.segment, record⟩ := by
      rintro rfl
      exact elsewhere rfl
    have different' : other ≠ block := fun same => elsewhere (congrArg Mcb.segment same)
    simp [mem_owned, different, different']

variable (reliable : machine.Reliable)
include reliable

private theorem Sound.kept_arena (outcome : Lost machine state next ∨ Unchanged state next) :
    next.arena = state.arena ∧ Sound machine headSegment stop next blocks :=
  ⟨outcome.elim (fun lost => (lost.2 reliable).elim) And.left, sound.kept reliable outcome⟩

theorem allocateCheckedCommon_usage (real : owner ≠ mcbOwnerFree) (name : Option (Fin 8 → UInt8))
    (paragraphs : UInt16) : wp (allocateCheckedCommon machine owner name paragraphs) state
      (fun result => Adds stop blocks machine headSegment state owner paragraphs (result.blockSegment - 1))
      (fun _ next => next.arena = state.arena ∧ ∃ blocks', Sound machine headSegment stop next blocks' ∧
        usage blocks' = usage blocks) := by
  apply wp_mono (allocateCheckedCommon_outcome owner name paragraphs sound.headed)
  · rintro result next ⟨effect, -⟩
    exact effect.adds sound real
  · rintro _ next ⟨lost | ⟨blocks', effect⟩, -⟩
    · exact (lost.2 reliable).elim
    · rw [Swept, sound.head] at effect
      exact ⟨effect.arena, blocks', sound.searched effect, funext fun _ => by rw [usage, usage, effect.merging.owned_eq]⟩

theorem transferOwnerCommon_usage (blockSegment expectedOwner newOwner : UInt16)
    (newName : Option ((Fin 8 → UInt8) × UInt8)) :
    wp (transferOwnerCommon machine blockSegment expectedOwner newOwner newName) state
      (fun _ => Rebinds stop blocks machine headSegment state (blockSegment - 1) newOwner)
      (fun _ next => next.arena = state.arena ∧ Sound machine headSegment stop next blocks) := by
  apply wp_mono (transferOwnerCommon_spec sound.headed)
  · rintro _ next ⟨real, block, segment, owner, used, ⟨effect⟩⟩
    obtain ⟨arena, sound', here, updated⟩ := effect.usage_eq sound
    rw [rebound_owner, if_neg real, segment] at updated
    rw [segment] at here sound'
    exact ⟨arena, _, block.record, rebound block.record newOwner newName, sound', here (owner ▸ used), by simp, by simp,
      updated⟩
  · exact fun _ next outcome => sound.kept_arena reliable outcome

/-- A release removes one header in use and rewrites nothing else. -/
theorem freeOwned_usage {blockSegment expectedOwner : UInt16} :
    wp (freeOwned machine blockSegment expectedOwner) state
      (fun _ next => next.arena = state.arena ∧ ∃ record, usage blocks (blockSegment - 1) = some record ∧
        Sound machine headSegment stop next
          (blocks.map (rewriteHeader (blockSegment - 1) (record.setOwner mcbOwnerFree))) ∧
        usage (blocks.map (rewriteHeader (blockSegment - 1) (record.setOwner mcbOwnerFree))) =
          update (usage blocks) (blockSegment - 1) none)
      (fun _ next => next.arena = state.arena ∧ Sound machine headSegment stop next blocks) := by
  apply wp_mono (freeOwned_spec sound.headed)
  · rintro _ next ⟨real, block, segment, owner, ⟨effect⟩⟩
    obtain ⟨arena, sound', here, updated⟩ := effect.usage_eq sound
    rw [McbRecord.owner_setOwner, if_pos rfl, segment] at updated
    rw [segment] at here sound'
    exact ⟨arena, block.record, here (owner ▸ real), sound', updated⟩
  · exact fun _ next outcome => sound.kept_arena reliable outcome

/-- The owner of a header in use can release it. -/
theorem freeOwned_owner {blockSegment : UInt16} (inUse : usage blocks (blockSegment - 1) = some record) :
    wp (freeOwned machine blockSegment record.owner) state (fun _ _ => True) (fun _ _ => False) := by
  obtain ⟨member, used⟩ := mem_of_usage sound.chain inUse
  simp only [freeOwned, wp_bind]
  refine wp_arenaIsReady (fun _ => ?_) fun _ unready => unready sound.ready
  simp only [wp_failWhen]
  refine ⟨used, fun _ => wp_mono (locateMcb_spec sound.headed) ?_ ?_⟩
  · rintro _ read ⟨same, block, inside, segment, rfl⟩
    obtain rfl := sound.chain.eq_of_segment inside member segment
    refine ⟨fun other => other rfl, fun _ => ?_⟩
    obtain ⟨before, after, rfl⟩ := append_of_mem member
    apply wp_mono (relabel_spec sound.headed same (by simp) (by simp)) (fun _ _ _ => trivial)
    rintro _ _ ⟨refused, -⟩
    exact refused reliable (by simpa using sound.addressable _ member)
  · rintro _ _ ⟨-, refused | missing⟩
    · exact sound.not_refused reliable refused
    · exact missing _ member rfl

end DosC32.Memory
