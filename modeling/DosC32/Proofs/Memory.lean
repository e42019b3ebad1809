import DosC32.Model.McbChain
import DosC32.Proofs.Machine

/-! # Contracts of the arena procedures

Each procedure of `dos/memory.c` is described by its effect on the abstract chain. A failed
procedure either leaves the headers as they were, up to free blocks merged by a search, or it has
lost a rollback and poisoned the arena; the latter never happens on a reliable machine.
-/

namespace DosC32

open Effect Store Function List McbRecord

/-- The paragraphs of guest memory. -/
def ArenaState.cells (state : ArenaState) : ℕ → McbRecord := paragraphs state.guest.memory

namespace Memory

variable (machine : Machine) (state : ArenaState) (segment : UInt16)

/-- The machine reaches the header at a segment. -/
def Reached : Prop := machine.Reaches (segment.toNat * 16) 16

/-- The header at a segment is out of reach, or the backend is unreliable. -/
def Unreached : Prop := machine.Reliable → ¬ Reached machine segment

/-- Some header of the list is out of reach, or the backend is unreliable. -/
def Refused (blocks : List Mcb) : Prop := machine.Reliable → ¬ ∀ block ∈ blocks, Reached machine block.segment

/-- A rollback was lost. -/
def Lost (next : ArenaState) : Prop := next.arena = state.arena.poison ∧ ¬ machine.Reliable

def Unchanged (next : ArenaState) : Prop := next.arena = state.arena ∧ next.cells = state.cells

variable {machine state}

theorem Unreached.refused {blocks : List Mcb} (block : Mcb) (out : Unreached machine block.segment)
    (member : block ∈ blocks) : Refused machine blocks :=
  fun reliable all => out reliable (all block member)

/-- A block was exchanged for one at the same segment, and some after it were lost. -/
theorem Refused.exchange {before rest rest' : List Mcb} {block block' : Mcb}
    (refused : Refused machine (before ++ block' :: rest')) (starts : block'.segment = block.segment)
    (fewer : rest' ⊆ rest) : Refused machine (before ++ block :: rest) := by
  intro reliable all
  simp only [forall_mem_append, forall_mem_cons] at all
  refine refused reliable (forall_mem_append.mpr ⟨all.1, forall_mem_cons.mpr ⟨starts ▸ all.2.1, ?_⟩⟩)
  exact fun other member => all.2.2 other (fewer member)

theorem Unchanged.trans {middle next : ArenaState} (first : Unchanged state middle)
    (second : Unchanged middle next) : Unchanged state next :=
  ⟨second.1.trans first.1, second.2.trans first.2⟩

theorem Lost.of_arena {middle next : ArenaState} (arena : middle.arena = state.arena)
    (lost : Lost machine middle next) : Lost machine state next :=
  ⟨arena ▸ lost.1, lost.2⟩

private theorem header_linear (a20Enabled : Bool) :
    Machine.farToLinear segment 0 a20Enabled = segment.toNat * 16 := by
  have bound := segment.toNat_lt
  simp only [Machine.farToLinear, a20WrapAddress]
  split
  · rfl
  · exact Nat.mod_eq_of_lt (by change segment.toNat * 16 + 0 < _; omega)

private theorem header_chunks : machine.farChunks segment 0 mcbBytes = [⟨segment.toNat * 16, mcbBytes⟩] := by
  have bound := segment.toNat_lt
  rw [machine.farChunks_single segment 0 mcbBytes (by decide) (by decide)]
  · rw [header_linear]
  · rw [header_linear]
    simp only [mcbBytes, a20WrapAddress]
    omega

theorem paragraphs_save (memory : ℕ → UInt8) (segment : UInt16) (record : McbRecord) :
    paragraphs (save memory (range' (segment.toNat * 16) mcbBytes) (record.toBytes.take mcbBytes)) =
      update (paragraphs memory) segment.toNat record := by
  have whole : record.toBytes.take mcbBytes = record.toBytes := by
    simp [toBytes, mcbBytes]
  rw [whole]
  funext paragraph
  by_cases same : paragraph = segment.toNat
  · subst same
    rw [update_self]
    refine McbRecord.ext (funext fun index => ?_)
    have inside : index.val < (range' (segment.toNat * 16) mcbBytes).length := by simp [mcbBytes]
    have inside' : index.val < record.toBytes.length := by simp [toBytes]
    have stored := save_get memory nodup_range' index.val inside inside'
    rw [getElem_range', Nat.one_mul] at stored
    refine stored.trans ?_
    simp only [toBytes, List.getElem_ofFn]
  · rw [update_of_ne same]
    refine McbRecord.ext (funext fun index => ?_)
    apply save_agreeOff
    simp only [mem_range'_1, mcbBytes]
    omega

variable {segment}

theorem readRecordBytes_spec :
    wp (readRecordBytes machine segment) state
      (fun record next => Unchanged state next ∧ record = state.cells segment.toNat ∧ Reached machine segment)
      (fun error next => Unchanged state next ∧ error = .machineFault ∧ Unreached machine segment) := by
  simp only [readRecordBytes, onGuest, wp_rules]
  refine wp_mono (machine.readFar_single_spec (by decide) (by decide)
    (header_chunks segment)) ?_ ?_
  · rintro bytes guest ⟨same, loaded, reaches⟩
    refine ⟨⟨rfl, congrArg paragraphs same⟩, ?_, reaches⟩
    rw [loaded]
    refine McbRecord.ext (funext fun index => ?_)
    simp [McbRecord.ofBytes, load, ArenaState.cells, paragraphs, mcbBytes, getD]
  · rintro _ guest ⟨same, refused⟩
    exact ⟨⟨rfl, congrArg paragraphs same⟩, trivial, refused⟩

theorem readMcb_spec :
    wp (readMcb machine segment) state
      (fun record next => Unchanged state next ∧ record = state.cells segment.toNat ∧ record.signatureIsValid ∧
        extentIsValid segment record ∧ Reached machine segment)
      (fun _ next => Unchanged state next ∧ (machine.Reliable → Reached machine segment →
        ¬ ((state.cells segment.toNat).signatureIsValid ∧
          extentIsValid segment (state.cells segment.toNat)))) := by
  simp only [readMcb, wp_rules]
  apply wp_mono readRecordBytes_spec
  · rintro record next ⟨same, rfl, reaches⟩
    refine ⟨fun invalid => ⟨same, fun _ _ => invalid⟩, fun valid => ?_⟩
    obtain ⟨signature, extent⟩ := not_not.mp valid
    exact ⟨same, rfl, signature, extent, reaches⟩
  · rintro _ next ⟨same, _, refused⟩
    exact ⟨same, fun reliable reaches => (refused reliable reaches).elim⟩

/-- The header of a chain block is read back, and is never taken for a damaged one. -/
theorem readMcb_chain_spec {head stop : ℕ} {blocks : List Mcb} {block : Mcb}
    (chain : Chain state.cells head stop blocks) (member : block ∈ blocks) :
    wp (readMcb machine block.segment) state
      (fun record next => Unchanged state next ∧ record = block.record ∧ Reached machine block.segment)
      (fun _ next => Unchanged state next ∧ Unreached machine block.segment) := by
  have stored : state.cells block.segment.toNat = block.record := chain.stored block member
  apply wp_mono readMcb_spec
  · rintro record next ⟨same, rfl, _, _, reaches⟩
    exact ⟨same, stored, reaches⟩
  · rintro _ next ⟨same, refused⟩
    refine ⟨same, fun reliable reaches => refused reliable reaches ?_⟩
    rw [stored]
    exact ⟨chain.signed.signatureIsValid member, chain.extentIsValid member⟩

/-- A header replacement happens exactly, not at all, or at the price of a poisoned arena. -/
theorem replaceRecordBytes_spec {record : McbRecord} :
    wp (replaceRecordBytes machine segment record) state
      (fun _ next => next.arena = state.arena ∧
        next.cells = update state.cells segment.toNat record ∧ Reached machine segment)
      (fun error next => ((error = .machinePoisoned ∧ Lost machine state next) ∨
        (error ≠ .machinePoisoned ∧ Unchanged state next)) ∧ Unreached machine segment) := by
  simp only [replaceRecordBytes, onGuest, wp_bind, wp_attempt, wp_focus, header_linear]
  apply wp_mono machine.replace_spec
  · rintro bytes guest ⟨_, stored, access⟩
    refine ⟨rfl, ?_, access.resolve_left (by decide)⟩
    change paragraphs guest.memory = _
    rw [stored]
    exact paragraphs_save _ _ _
  · rintro error guest ⟨kept, lost, refused⟩
    have out : Unreached machine segment := fun reliable =>
      refused reliable.clean (by simp [toBytes, mcbBytes]) (Nat.le_refl _)
    cases error with
    | rollbackFailed => exact ⟨.inl ⟨rfl, rfl, fun reliable => lost rfl reliable.clean⟩, out⟩
    | _ => exact ⟨.inr ⟨by decide, rfl, congrArg paragraphs (kept (by decide))⟩, out⟩

/-- Both headers of a split are published, or neither is. -/
theorem commitSplit_spec (currentSegment splitSegment : UInt16) (currentAfter splitAfter : McbRecord)
    (reaches : Reached machine currentSegment) :
    wp (commitSplit machine currentSegment currentAfter splitSegment (state.cells splitSegment.toNat) splitAfter)
      state
      (fun _ next => next.arena = state.arena ∧ next.cells = update
        (update state.cells splitSegment.toNat splitAfter) currentSegment.toNat currentAfter ∧
        Reached machine splitSegment)
      (fun _ next => (Lost machine state next ∨ Unchanged state next) ∧ Unreached machine splitSegment) := by
  simp only [commitSplit, wp_bind]
  apply wp_mono replaceRecordBytes_spec
  · rintro _ hidden ⟨arena, cells, reaches'⟩
    simp only [wp_attempt]
    apply wp_mono replaceRecordBytes_spec
    · rintro _ next ⟨arena', cells', _⟩
      exact ⟨arena'.trans arena, cells' ▸ cells ▸ rfl, reaches'⟩
    · rintro publishStatus failed ⟨outcome, refused⟩
      have faulty : ¬ machine.Reliable := fun reliable => refused reliable reaches
      have arenaFailed : failed.arena = state.arena ∨ failed.arena = state.arena.poison := by
        rcases outcome with ⟨_, lost, _⟩ | ⟨_, same, _⟩
        · exact .inr (by rw [lost, arena])
        · exact .inl (same.trans arena)
      have lostNow : ∀ next : ArenaState, (next.arena = failed.arena ∨ next.arena = failed.arena.poison) →
          Lost machine state { next with arena := next.arena.poison } := by
        intro next shape
        refine ⟨?_, faulty⟩
        rcases shape with same | same <;> rcases arenaFailed with same' | same' <;>
          simp only [same, same', Arena.poison]
      simp only [wp_rules]
      apply wp_mono replaceRecordBytes_spec
      · rintro _ restored ⟨arena', cells', _⟩
        simp only [poisonAndFail, wp_split]
        refine ⟨fun _ => ⟨.inl (lostNow restored (.inl arena')), fun reliable => (faulty reliable).elim⟩,
          fun other => ⟨.inr ?_, fun reliable => (faulty reliable).elim⟩⟩
        rcases outcome with ⟨poisoned, _⟩ | ⟨_, same⟩
        · exact (other poisoned).elim
        · refine ⟨arena'.trans (same.1.trans arena), ?_⟩
          rw [cells', same.2, cells, update_idem, update_eq_self]
      · rintro _ next ⟨outcome', _⟩
        simp only [poisonAndFail, wp_rules]
        refine ⟨.inl (lostNow next ?_), fun reliable => (faulty reliable).elim⟩
        rcases outcome' with ⟨_, lost, _⟩ | ⟨_, same, _⟩
        · exact .inr lost
        · exact .inl same
  · rintro _ next ⟨outcome, refused⟩
    refine ⟨?_, refused⟩
    rcases outcome with ⟨_, lost⟩ | ⟨_, same⟩
    · exact .inl lost
    · exact .inr same

end Memory

end DosC32
