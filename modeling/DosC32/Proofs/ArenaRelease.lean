import DosC32.Proofs.ArenaEdit

/-! # Release, transfer and resizing

The procedures of `dos/memory.c` that address an existing block. Those that look the block up in
the chain may be given any segment; `free` and `resize` trust the segment before their argument to
be a header, so their contracts ask for a block of the chain.
-/

namespace DosC32.Memory

open Effect Store List Mcb

variable {machine : Machine} {state : ArenaState} {stop : ℕ}

variable (machine state) in
/-- One header of the chain was rewritten without moving any boundary. -/
structure Relabelled (next : ArenaState) (head stop : ℕ) (blocks : List Mcb) (block : Mcb) (record : McbRecord) where
  (before after : List Mcb)
  shape : blocks = before ++ block :: after
  placed : Placed machine state next head stop before [⟨block.segment, record⟩] after

variable {blocks : List Mcb} {block : Mcb}

/-- `dos_memory_free_checked` on a block of the chain. -/
theorem free_spec (chain : ArenaChain state stop blocks) (member : block ∈ blocks) :
    wp (free machine (block.segment + 1)) state
      (fun _ next => Nonempty (Relabelled machine state next state.arena.headSegment.toNat stop blocks block
        (block.record.setOwner mcbOwnerFree)))
      (fun _ next => Lost machine state next ∨ Unchanged state next) := by
  obtain ⟨before, after, rfl⟩ := append_of_mem member
  have stored : state.cells block.segment.toNat = block.record := chain.stored block member
  simp only [free, wp_bind, UInt16.add_sub_cancel]
  refine wp_arenaIsReady (fun _ => ?_) fun _ _ => .inr ⟨rfl, rfl⟩
  apply wp_mono readRecordBytes_spec
  · rintro _ read ⟨same, rfl, _⟩
    rw [stored]
    simp only [wp_failWhen]
    refine ⟨fun _ => .inr same, fun _ => ?_⟩
    refine wp_mono (relabel_spec chain same (by simp) (by simp)) ?_ (fun _ _ outcome => outcome.2)
    exact fun _ next placed => ⟨⟨before, after, rfl, placed⟩⟩
  · exact fun _ next outcome => .inr outcome.1

/-- `dos_memory_free_owned_checked` releases only a block of the expected owner. -/
theorem freeOwned_spec {blockSegment expectedOwner : UInt16} (chain : ArenaChain state stop blocks) :
    wp (freeOwned machine blockSegment expectedOwner) state
      (fun _ next => expectedOwner ≠ mcbOwnerFree ∧ ∃ block, block.segment = blockSegment - 1 ∧
        block.record.owner = expectedOwner ∧ Nonempty (Relabelled machine state next
          state.arena.headSegment.toNat stop blocks block (block.record.setOwner mcbOwnerFree)))
      (fun _ next => Lost machine state next ∨ Unchanged state next) := by
  simp only [freeOwned, wp_bind]
  refine wp_arenaIsReady (fun _ => ?_) fun _ _ => .inr ⟨rfl, rfl⟩
  simp only [wp_failWhen]
  refine ⟨fun _ => .inr ⟨rfl, rfl⟩, fun real => ?_⟩
  refine wp_mono (locateMcb_spec chain) ?_ (fun _ _ outcome => .inr outcome.1)
  rintro _ read ⟨same, block, member, segment, rfl⟩
  refine ⟨fun _ => .inr same, fun owner => ?_⟩
  obtain ⟨before, after, rfl⟩ := append_of_mem member
  rw [← segment]
  refine wp_mono (relabel_spec chain same (by simp) (by simp)) ?_ (fun _ _ outcome => outcome.2)
  exact fun _ next placed => ⟨real, block, rfl, not_not.mp owner, ⟨⟨before, after, rfl, placed⟩⟩⟩

/-- The header that a transfer of ownership writes. -/
def rebound (record : McbRecord) (newOwner : UInt16) (newName : Option ((Fin 8 → UInt8) × UInt8)) : McbRecord :=
  match newName with
  | some (name, count) => (record.setOwner newOwner).patchOwnerName name count
  | none => record.setOwner newOwner

section Rebound

variable (record : McbRecord) (newOwner : UInt16) (newName : Option ((Fin 8 → UInt8) × UInt8))

@[simp] theorem rebound_signature : (rebound record newOwner newName).signature = record.signature := by
  rcases newName with _ | ⟨name, count⟩ <;> simp [rebound]

@[simp] theorem rebound_size : (rebound record newOwner newName).size = record.size := by
  rcases newName with _ | ⟨name, count⟩ <;> simp [rebound]

@[simp] theorem rebound_owner : (rebound record newOwner newName).owner = newOwner := by
  rcases newName with _ | ⟨name, count⟩ <;> simp [rebound]

end Rebound

variable (blockSegment expectedOwner newOwner : UInt16) (newName : Option ((Fin 8 → UInt8) × UInt8)) {head : ℕ}

variable (machine state) in
/-- A successful resize: the block absorbed what was free after it and was placed anew. -/
structure Resized (next : ArenaState) (head stop : ℕ) (before : List Mcb) (block : Mcb) (rest : List Mcb)
    (paragraphs currentPsp : UInt16) where
  middle : ArenaState
  (run after : List Mcb)
  absorbed : Absorbed state middle head stop before block rest run after
  fits : paragraphs ≤ (block.absorbAll run).record.size
  placed : Placed machine middle next head stop before
    (placeLow middle.cells (block.absorbAll run) paragraphs currentPsp none) after

/-- `dos_memory_resize_checked` on a block of the chain, and the only reason to refuse on a reliable machine. -/
theorem resize_outcome {before rest : List Mcb} (currentPsp paragraphs : UInt16)
    (chain : Chain state.cells head stop (before ++ block :: rest)) :
    wp (resize machine (block.segment + 1) currentPsp paragraphs) state
      (fun maximum next =>
        ∃ effect : Resized machine state next head stop before block rest paragraphs currentPsp,
          maximum = (block.absorbAll effect.run).record.size ∧ ∀ following ∈ effect.after.head?, ¬ following.isFree)
      (fun refusal next => (Lost machine state next ∨
        ∃ run after, Absorbed state next head stop before block rest run after) ∧
        (Ready state.arena → machine.Reliable → Covers machine stop →
          ∃ run after, Absorbed state next head stop before block rest run after ∧
            (∀ following ∈ after.head?, ¬ following.isFree) ∧ (block.absorbAll run).record.size < paragraphs ∧
            refusal = ⟨.notEnoughMemory, (block.absorbAll run).record.size⟩)) := by
  simp only [resize, wp_bind, wp_mapError, wp_pure, UInt16.add_sub_cancel]
  refine wp_arenaIsReady (fun _ => ?_) fun _ unready =>
    ⟨.inr ⟨[], rest, .nothing ⟨rfl, rfl⟩ chain⟩, fun ready => absurd ready unready⟩
  have member : block ∈ before ++ block :: rest := by simp
  apply wp_mono (readMcb_chain_spec chain member)
  · rintro _ read ⟨same, rfl, _⟩
    apply wp_mono (coalesceForwardLoop_spec (same.chain chain) (Chain.tail_length_le chain))
    · rintro _ middle ⟨run, after, absorbed, rfl, stops⟩
      have absorbed' := absorbed.of_unchanged same
      simp only [wp_failWhen]
      refine ⟨fun large => ⟨.inr ⟨run, after, absorbed'⟩, fun _ _ _ => ⟨run, after, absorbed', stops, large, rfl⟩⟩,
        fun fits => ?_⟩
      replace fits := UInt16.not_lt.mp fits
      have bounds := absorbed.chain.tiles.bounds (show block.absorbAll run ∈ _ by simp)
      have spec := @allocateLow_spec machine _ _ _ _ _ currentPsp none _ _ absorbed.chain fits
      rw [absorbAll_segment] at spec
      apply wp_mono spec
      · rintro _ next ⟨_, placed⟩
        exact ⟨⟨middle, run, after, absorbed', fits, placed⟩, rfl, stops⟩
      · rintro _ next ⟨refused, outcome⟩
        refine ⟨?_, fun _ reliable covers => (covers.not_refused reliable (fun piece inside => ?_) refused).elim⟩
        · rcases outcome with lost | kept
          · exact .inl (lost.of_arena absorbed'.arena)
          · exact .inr ⟨run, after, kept.1.trans absorbed'.arena, absorbed'.shape, absorbed'.free,
              kept.chain absorbed'.chain, kept.2 ▸ absorbed'.frame⟩
        · have pieces := place_first_lt allocFirstFit middle.cells currentPsp none fits
            (bounds.2.trans absorbed.chain.bounded)
          exact (pieces piece inside).trans_le bounds.2
    · rintro _ next ⟨refused, outcome⟩
      refine ⟨?_, fun _ reliable covers => (covers.not_refused reliable (Chain.first_lt chain) refused).elim⟩
      rcases outcome with lost | ⟨run, after, absorbed⟩
      · exact .inl (lost.of_arena same.1)
      · exact .inr ⟨run, after, absorbed.of_unchanged same⟩
  · rintro _ next ⟨same, out⟩
    refine ⟨.inr ⟨[], rest, .nothing same chain⟩, fun _ reliable covers => ?_⟩
    exact (out reliable (covers block.segment (Chain.first_lt chain block member))).elim

/-- A block after the mass release of one owner. -/
def releaseOwned (owner : UInt16) (block : Mcb) : Mcb :=
  if block.record.owner = owner then ⟨block.segment, block.record.setOwner mcbOwnerFree⟩ else block

theorem releaseOwned_segment (owner : UInt16) (block : Mcb) : (releaseOwned owner block).segment = block.segment := by
  unfold releaseOwned
  split <;> rfl

/-- The end of a round of the loop, which goes on with the next block if there is one. -/
def freeProcessNext (machine : Machine) (ownerPsp : UInt16) (steps : ℕ) (segment : UInt16) (record : McbRecord)
    (changed : Bool) : MemoryM Unit := do
  if record.signature = mcbSignatureEnd then pure () else
    match ← attempt (nextMcbSegment segment record) with
    | .error status => if changed then poisonAndFail else throw status
    | .ok next => freeProcessLoop machine ownerPsp steps next changed

/-- The blocks of an owner have been freed, and only headers were written. -/
def Released (state next : ArenaState) (head stop : ℕ) (ownerPsp : UInt16) (before rest : List Mcb) : Prop :=
  next.arena = state.arena ∧ Chain next.cells head stop (before ++ rest.map (releaseOwned ownerPsp)) ∧
    AgreeOff (rest.map first) next.cells state.cells

/-- A release gave up: nothing was written before it, or the arena is poisoned. -/
def GaveUp (machine : Machine) (state next : ArenaState) (changed : Bool) (blocks : List Mcb) : Prop :=
  Refused machine blocks ∧ (next.arena = state.arena.poison ∨ changed = false ∧ Unchanged state next)

/-- The walk of `dos_memory_free_process_checked`. Once a header has been released, any failure
poisons the arena. -/
theorem freeProcessLoop_spec (ownerPsp : UInt16) {steps : ℕ} {before rest : List Mcb} (changed : Bool)
    (chain : Chain state.cells head stop (before ++ block :: rest)) (enough : rest.length < steps) :
    wp (freeProcessLoop machine ownerPsp steps block.segment changed) state
      (fun _ next => Released state next head stop ownerPsp before (block :: rest))
      (fun _ next => GaveUp machine state next changed (before ++ block :: rest)) := by
  induction steps generalizing state before block rest changed with
  | zero => omega
  | succ steps ih =>
    have member : block ∈ before ++ block :: rest := by simp
    have continues : ∀ (middle : ArenaState) (changed' : Bool), middle.arena = state.arena →
        Chain middle.cells head stop (before ++ releaseOwned ownerPsp block :: rest) →
        AgreeOff [block.first] middle.cells state.cells →
        (changed' = false → changed = false ∧ middle.cells = state.cells) →
        wp (freeProcessNext machine ownerPsp steps block.segment (releaseOwned ownerPsp block).record changed') middle
          (fun _ next => Released state next head stop ownerPsp before (block :: rest))
          (fun _ next => GaveUp machine state next changed (before ++ block :: rest)) := by
      intro middle changed' arena chain' frame untouched
      have frame' : AgreeOff ((block :: rest).map first) middle.cells state.cells := frame.mono (by simp)
      simp only [freeProcessNext, wp_split]
      refine ⟨fun closed => ?_, fun open_ => ?_⟩
      · obtain rfl := chain'.last_of_end closed
        exact ⟨arena, chain', frame'⟩
      · obtain ⟨following, tail, rfl, moved, goes⟩ := Chain.follow chain' open_
        rw [releaseOwned_segment] at goes
        simp only [goes, wp_rules]
        simp only [length_cons] at enough
        apply wp_mono (ih changed' moved (by omega))
        · rintro _ next ⟨arena', freed, frame''⟩
          refine ⟨arena'.trans arena, by simpa using freed, ?_⟩
          exact (frame''.mono (by simp +contextual)).trans frame'
        · rintro _ next ⟨refused, outcome⟩
          rw [append_assoc, singleton_append] at refused
          refine ⟨refused.exchange (releaseOwned_segment _ _) (Subset.refl _), ?_⟩
          rcases outcome with poisoned | ⟨fresh, same⟩
          · exact .inl (by rw [poisoned, arena])
          · obtain ⟨old, cells⟩ := untouched fresh
            exact .inr ⟨old, same.1.trans arena, same.2.trans cells⟩
    simp only [freeProcessLoop, wp_rules]
    apply wp_mono (readMcb_chain_spec chain member)
    · rintro _ read ⟨same, rfl, _⟩
      rw [wp_ite]
      refine ⟨fun mine => ?_, fun other => ?_⟩
      · have released : releaseOwned ownerPsp block = ⟨block.segment, block.record.setOwner mcbOwnerFree⟩ := if_pos mine
        rw [released] at continues
        simp only [wp_bind, wp_attempt]
        apply wp_mono replaceRecordBytes_spec
        · rintro _ middle ⟨arena, cells, _⟩
          rw [same.2] at cells
          rw [wp_pure]
          refine continues middle true (arena.trans same.1) ?_ ?_ (by simp)
          · rw [cells]
            exact chain.relabel (by simp) (by simp)
          · intro paragraph outside
            rw [cells]
            exact Function.update_of_ne (by simpa [first] using outside) _ _
        · rintro status next ⟨outcome, unreached⟩
          have out : Refused machine (before ++ block :: rest) := unreached.refused _ member
          simp only [poisonAndFail, wp_split]
          refine ⟨fun dirty => ⟨out, .inl ?_⟩, fun calm => ⟨out, ?_⟩⟩
          · rcases outcome with ⟨lost, _⟩ | ⟨_, unchanged⟩
            · exact (dirty.2 lost).elim
            · rw [unchanged.1, same.1]
          · rcases outcome with ⟨_, lost⟩ | ⟨healthy, unchanged⟩
            · exact .inl (by rw [lost.1, same.1])
            · exact .inr ⟨Bool.eq_false_of_not_eq_true fun dirty => calm ⟨dirty, healthy⟩, same.trans unchanged⟩
      · have kept : releaseOwned ownerPsp block = block := if_neg other
        rw [kept] at continues
        rw [wp_bind, wp_pure]
        exact continues read changed same.1 (same.chain chain) (same.2 ▸ .refl _ _) (fun fresh => ⟨fresh, same.2⟩)
    · rintro status next ⟨same, unreached⟩
      have out : Refused machine (before ++ block :: rest) := unreached.refused _ member
      simp only [poisonAndFail, wp_split]
      refine ⟨fun _ => ⟨out, .inl (by rw [same.1])⟩, fun fresh => ⟨out, .inr ⟨by simpa using fresh, same⟩⟩⟩

/-- `dos_memory_free_process_checked` frees every block of one owner, or nothing, or poisons. -/
theorem freeProcess_spec (ownerPsp : UInt16) (chain : ArenaChain state stop blocks) :
    wp (freeProcess machine ownerPsp) state
      (fun _ next => Released state next state.arena.headSegment.toNat stop ownerPsp [] blocks)
      (fun _ next => (next.arena = state.arena.poison ∧ Refused machine blocks) ∨ Unchanged state next) := by
  obtain ⟨block, rest, rfl, segment⟩ := Chain.exists_head chain
  simp only [freeProcess, wp_bind]
  refine wp_arenaIsReady (fun _ => ?_) fun _ _ => .inr ⟨rfl, rfl⟩
  have whole : ArenaChain state stop ([] ++ block :: rest) := chain
  rw [wp_get]
  conv => arg 1; rw [← segment]
  refine wp_mono_failed (freeProcessLoop_spec ownerPsp false whole chain.length_le) ?_
  rintro _ next ⟨refused, poisoned | ⟨_, same⟩⟩
  · exact .inl ⟨poisoned, refused⟩
  · exact .inr same

variable {blockSegment expectedOwner newOwner newName} (chain : ArenaChain state stop blocks)
include chain

/-- A prepared rebinding is the exact replacement of one header of the chain. -/
theorem prepareOwnerRebindCommon_spec :
    wp (prepareOwnerRebindCommon machine blockSegment expectedOwner newOwner newName) state
      (fun value next => Unchanged state next ∧ value.hasValidEncoding ∧ ∃ block ∈ blocks,
        block.segment = blockSegment - 1 ∧ block.record.owner = expectedOwner ∧
        value = ⟨block.segment, expectedOwner, newOwner, fun _ => 0, rebound block.record newOwner newName⟩)
      (fun _ => Unchanged state) := by
  simp only [prepareOwnerRebindCommon, wp_rules]
  refine ⟨fun _ => ⟨rfl, rfl⟩, fun _ => ?_⟩
  refine wp_arenaIsReady (fun _ => ?_) fun _ _ => ⟨rfl, rfl⟩
  refine wp_mono (locateMcb_spec chain) ?_ (fun _ _ outcome => outcome.1)
  rintro _ read ⟨same, block, member, segment, rfl⟩
  refine ⟨fun _ => same, fun owner => ⟨fun _ => same, fun valid => ?_⟩⟩
  refine ⟨same, not_not.mp valid, block, member, segment, not_not.mp owner, ?_⟩
  rw [segment]
  rcases newName with _ | ⟨name, count⟩ <;> rfl

theorem transferOwnerCommon_spec : wp (transferOwnerCommon machine blockSegment expectedOwner newOwner newName) state
      (fun _ next => newOwner ≠ mcbOwnerFree ∧ ∃ block, block.segment = blockSegment - 1 ∧
        block.record.owner = expectedOwner ∧ expectedOwner ≠ mcbOwnerFree ∧ Nonempty (Relabelled machine state next
          state.arena.headSegment.toNat stop blocks block (rebound block.record newOwner newName)))
      (fun _ next => Lost machine state next ∨ Unchanged state next) := by
  simp only [transferOwnerCommon, wp_bind]
  refine wp_mono (prepareOwnerRebindCommon_spec chain) ?_
    (fun _ _ outcome => .inr outcome)
  rintro _ read ⟨same, valid, block, member, segment, owner, rfl⟩
  obtain ⟨before, after, rfl⟩ := append_of_mem member
  refine wp_mono (relabel_spec chain same (by simp) (by simp)) ?_ (fun _ _ outcome => outcome.2)
  exact fun _ next placed => ⟨valid.2.1, block, segment, owner, valid.1, ⟨⟨before, after, rfl, placed⟩⟩⟩

/-- `dos_memory_query_maximum_checked` reports the largest block after merging. -/
theorem queryMaximum_spec : wp (queryMaximum machine) state
      (fun maximum next => maximum = ((mergeRuns blocks).foldl (considerBlock 0xffff) .none).maximum ∧
        Swept state next stop blocks (mergeRuns blocks))
      (fun _ next => Lost machine state next ∨ ∃ blocks', Swept state next stop blocks blocks') := by
  simp only [queryMaximum, wp_rules]
  refine wp_arenaIsReady (fun _ => ?_) fun _ _ => .inr ⟨blocks, .nothing ⟨rfl, rfl⟩ chain⟩
  refine wp_mono (findCandidates_spec 0xffff chain) ?_ (fun _ _ outcome => outcome.2)
  rintro _ next ⟨searched, rfl⟩
  exact ⟨rfl, searched⟩

omit chain

theorem setStrategy_spec (strategy : UInt8) :
    wp (setStrategy strategy) state
      (fun _ next => next = { state with arena := { state.arena with strategy } } ∧ Ready state.arena)
      (fun _ next => next = state) := by
  simp only [setStrategy, strategyReady, wp_rules]
  refine ⟨fun _ => trivial, fun encoding => ⟨fun _ => trivial, fun healthy => ⟨fun _ => trivial, fun rest => ⟨trivial, ?_⟩⟩⟩⟩
  simp only [not_or, not_not] at rest
  exact ⟨not_not.mp encoding, rest.2.1, rest.2.2, healthy, rest.1⟩

end DosC32.Memory
