import DosC32.Soundness.ArenaUse
import DosC32.Soundness.LeaseHandles

/-! # Leases own their blocks

One table used with one arena on a reliable machine. Every ACTIVE slot stands for its own header
in use; ending a lease takes exactly that header out of use, and a header whose lease has been
published is out of reach of the table ever after.
-/

namespace DosC32.Lease

open Effect Memory Function Machine

variable (table : LeaseTable) (blocks : List Mcb) {blocks' : List Mcb} (index : Fin 16) {slot : LeaseSlot}

/-- A header in use that no ACTIVE slot stands for. -/
structure Settled (segment : UInt16) (record : McbRecord) : Prop where
  inUse : usage blocks segment = some record
  apart : ∀ index, (table.slots index).state = leaseSlotActive → (table.slots index).guestSegment - 1 ≠ segment

/-- The table and the arena agree. -/
structure Backed : Prop where
  active : ∀ index, (table.slots index).state = leaseSlotActive →
    ∃ record, usage blocks ((table.slots index).guestSegment - 1) = some record ∧
      record.owner = (table.slots index).owner ∧ record.size = (table.slots index).paragraphs
  distinct : ∀ left right, (table.slots left).state = leaseSlotActive → (table.slots right).state = leaseSlotActive →
    (table.slots left).guestSegment - 1 = (table.slots right).guestSegment - 1 → left = right
  published : ∀ index, (table.slots index).state = leaseSlotPublished →
    ∃ record, Settled table blocks ((table.slots index).guestSegment - 1) record

/-- What a step of the pair preserves. -/
structure Preserves (next : LeaseTable) (blocks' : List Mcb) : Prop where
  backed : Backed next blocks'
  settled : ∀ segment record, Settled table blocks segment record → Settled next blocks' segment record

/-- No ACTIVE slot but perhaps this one stands for the header at a segment. -/
def Apart (segment : UInt16) : Prop :=
  ∀ other, other ≠ index → (table.slots other).state = leaseSlotActive → (table.slots other).guestSegment - 1 ≠ segment

/-- The header at a segment is at the disposal of a slot. -/
def Disposable (segment : UInt16) : Prop :=
  Apart table index segment ∧ ∀ record, ¬ Settled table blocks segment record

/-- The handle of the lease in a slot. -/
def handleOf : UInt64 :=
  makeHandle table.lifetimeIdentity index (table.slots index).generation

variable {table blocks index}

theorem Preserves.quiet (backed : Backed table blocks) (same : usage blocks' = usage blocks) :
    Preserves table blocks table blocks' := by
  have settled : ∀ segment record, Settled table blocks segment record → Settled table blocks' segment record :=
    fun segment record old => ⟨same ▸ old.inUse, old.apart⟩
  refine ⟨⟨fun index active => ?_, backed.distinct, fun index published => ?_⟩, settled⟩
  · rw [same]
    exact backed.active index active
  · obtain ⟨record, old⟩ := backed.published index published
    exact ⟨record, settled _ record old⟩

variable {segment : UInt16}

theorem Backed.disposable (backed : Backed table blocks) (unused : usage blocks segment = none) :
    Disposable table blocks index segment := by
  refine ⟨fun other _ active same => ?_, fun record settled => ?_⟩
  · obtain ⟨record, inUse, _⟩ := backed.active other active
    rw [same, unused] at inUse
    exact Option.some_ne_none _ inUse.symm
  · exact Option.some_ne_none _ (settled.inUse.symm.trans unused)

theorem Disposable.of_update {value : Option McbRecord} (disposable : Disposable table blocks index segment)
    (updated : usage blocks' = update (usage blocks) segment value) :
    ∀ other, usage blocks' other ≠ usage blocks other → Disposable table blocks index other := by
  intro other changed
  rw [updated] at changed
  have here : other = segment := not_not.mp fun elsewhere => changed (update_of_ne elsewhere _ _)
  exact here ▸ disposable

/-- A slot is rewritten, and in the arena only headers at its disposal. -/
theorem Preserves.rewrite (backed : Backed table blocks)
    (changed : ∀ segment, usage blocks' segment ≠ usage blocks segment → Disposable table blocks index segment)
    (active : slot.state = leaseSlotActive → Disposable table blocks index (slot.guestSegment - 1) ∧
      ∃ record, usage blocks' (slot.guestSegment - 1) = some record ∧ record.owner = slot.owner ∧
        record.size = slot.paragraphs)
    (published : slot.state = leaseSlotPublished → Apart table index (slot.guestSegment - 1) ∧
      ∃ record, usage blocks' (slot.guestSegment - 1) = some record) :
    Preserves table blocks (withSlot table index slot) blocks' := by
  have settled : ∀ segment record, Settled table blocks segment record →
      Settled (withSlot table index slot) blocks' segment record := by
    intro segment record before
    refine ⟨?_, fun named isActive => ?_⟩
    · rw [← before.inUse]
      exact not_not.mp fun differs => (changed segment differs).2 record before
    by_cases here : named = index
    · rw [here, withSlot_self] at isActive ⊢
      rintro rfl
      exact (active isActive).1.2 record before
    · rw [withSlot_of_ne here] at isActive ⊢
      exact before.apart named isActive
  refine ⟨⟨?_, ?_, ?_⟩, settled⟩
  · intro other isActive
    by_cases here : other = index
    · rw [here, withSlot_self] at isActive ⊢
      exact (active isActive).2
    · rw [withSlot_of_ne here] at isActive ⊢
      rw [not_not.mp fun differs => (changed _ differs).1 other here isActive rfl]
      exact backed.active other isActive
  · intro left right activeLeft activeRight same
    by_cases hereLeft : left = index <;> by_cases hereRight : right = index
    · rw [hereLeft, hereRight]
    · rw [hereLeft, withSlot_self] at activeLeft same
      rw [withSlot_of_ne hereRight] at activeRight same
      exact ((active activeLeft).1.1 right hereRight activeRight same.symm).elim
    · rw [hereRight, withSlot_self] at activeRight same
      rw [withSlot_of_ne hereLeft] at activeLeft same
      exact ((active activeRight).1.1 left hereLeft activeLeft same).elim
    · rw [withSlot_of_ne hereLeft] at activeLeft same
      rw [withSlot_of_ne hereRight] at activeRight same
      exact backed.distinct left right activeLeft activeRight same
  · intro other isPublished
    by_cases here : other = index
    · rw [here, withSlot_self] at isPublished ⊢
      obtain ⟨apart, record, inUse⟩ := published isPublished
      refine ⟨record, inUse, fun named isActive => ?_⟩
      by_cases same : named = index
      · rw [same, withSlot_self, isPublished] at isActive
        exact absurd isActive (by decide)
      · rw [withSlot_of_ne same] at isActive ⊢
        exact apart named same isActive
    · rw [withSlot_of_ne here] at isPublished ⊢
      obtain ⟨record, before⟩ := backed.published other isPublished
      exact ⟨record, settled _ record before⟩

/-- A slot whose handle a lookup with this machine and arena accepts. -/
structure Findable (machine : Machine) (arena : Arena) (slot : LeaseSlot) : Prop where
  counted : slot.generation ≠ 0
  context : slot.machineContext = machine.context
  identity : slot.arenaIdentity = arena.identity
  head : slot.arenaHeadSegment = arena.headSegment
  generation : slot.arenaGeneration = arena.generation

/-- A valid table that can find all its ACTIVE leases again. -/
structure Registered (machine : Machine) (state : LeaseState) : Prop where
  encoding : state.table.hasValidEncoding
  findable : ∀ index, (state.table.slots index).state = leaseSlotActive →
    Findable machine state.memory.arena (state.table.slots index)

section Registration

variable {machine : Machine} {state next : LeaseState} (registered : Registered machine state)
include registered

theorem Registered.withSlot {memory : ArenaState} (arena : memory.arena = state.memory.arena)
    (valid : slot.hasValidEncoding state.table.lifetimeIdentity)
    (found : slot.state = leaseSlotActive → Findable machine state.memory.arena slot) :
    Registered machine ⟨withSlot state.table index slot, memory⟩ := by
  obtain ⟨constructed, initialized, identity, reserved, slots⟩ := registered.encoding
  refine ⟨⟨constructed, initialized, identity, reserved, fun other => ?_⟩, fun other active => ?_⟩
  · by_cases here : other = index
    · rw [here, withSlot_self]
      exact valid
    · rw [withSlot_of_ne here]
      exact slots other
  · change Findable machine memory.arena _
    rw [arena]
    by_cases here : other = index
    · rw [here, withSlot_self] at active ⊢
      exact found active
    · rw [withSlot_of_ne here] at active ⊢
      exact registered.findable other active

omit registered in
private theorem closedState (aborting : Bool) :
    (if aborting then leaseSlotAborted else leaseSlotReleased) ≤ leaseSlotPublished ∧
      (if aborting then leaseSlotAborted else leaseSlotReleased) ≠ leaseSlotActive ∧
      (if aborting then leaseSlotAborted else leaseSlotReleased) ≠ leaseSlotPublished := by
  cases aborting <;> decide

/-- Every step that keeps the record of the arena keeps the leases registered. -/
theorem Step.keeps_registered {call : LeaseCall} {result : Except LeaseError LeaseReply}
    (step : Step machine state call result next) (arena : next.memory.arena = state.memory.arena) :
    Registered machine next := by
  have valid (index : Fin 16) := registered.encoding.2.2.2.2 index
  cases step with
  | refused | repeated => exact registered
  | kept =>
    refine ⟨registered.encoding, fun index active => ?_⟩
    rw [arena]
    exact registered.findable index active
  | @granted _ _ _ _ index _ _ _ _ _ reserved =>
    obtain ⟨grows, bounded⟩ := reserved.next_generation
    refine registered.withSlot arena ⟨bounded, (valid index).2.1, (by decide : leaseSlotActive ≤ leaseSlotPublished),
      (valid index).2.2.2⟩ fun _ => ⟨fun zero => ?_, rfl, rfl, rfl, rfl⟩
    have positive := congrArg UInt64.toNat zero
    change ((state.table.slots index).generation + 1).toNat = 0 at positive
    omega
  | @denied _ _ _ index _ _ _ _ _ _ reserved =>
    exact registered.withSlot arena ⟨reserved.next_generation.2, (valid index).2.1,
      (by decide : leaseSlotVacant ≤ leaseSlotPublished), fun _ => rfl⟩
      fun active => absurd active (by decide : leaseSlotVacant ≠ leaseSlotActive)
  | transferred _ _ found =>
    exact registered.withSlot arena (valid _) fun _ =>
      { registered.findable _ found.active with }
  | published =>
    exact registered.withSlot arena ⟨(valid _).1, (valid _).2.1, UInt8.le_refl leaseSlotPublished, (valid _).2.2.2⟩
      fun active => absurd active (by decide : leaseSlotPublished ≠ leaseSlotActive)
  | @finished _ _ aborting =>
    obtain ⟨known, idle, -⟩ := closedState aborting
    exact registered.withSlot arena ⟨(valid _).1, (valid _).2.1, known, (valid _).2.2.2⟩ fun active => (idle active).elim

/-- The owner of an ACTIVE lease finds its slot. -/
theorem Registered.findSlot (ready : Ready state.memory.arena) (wired : machine.ops ≠ none)
    (active : (state.table.slots index).state = leaseSlotActive) (real : (state.table.slots index).owner ≠ 0) :
    wp (findSlot machine (handleOf state.table index) (state.table.slots index).owner) state
      (fun found next => found = index ∧ next = state) (fun _ _ => False) := by
  have bounded := (registered.encoding.2.2.2.2 index).1
  have identity := registered.encoding.2.2.1
  have found := registered.findable index active
  have slot : handleSlot (handleOf state.table index) = index := handleSlot_makeHandle _ _ bounded
  have generation : handleGeneration (handleOf state.table index) = (state.table.slots index).generation :=
    handleGeneration_makeHandle _ _ bounded
  have named : handleIdentity (handleOf state.table index) = state.table.lifetimeIdentity :=
    handleIdentity_makeHandle _ _ bounded
  have nonzero : handleOf state.table index ≠ 0 := by
    intro zero
    rw [zero] at named
    exact identity.1 named.symm
  have vacant : leaseSlotActive ≠ leaseSlotVacant := by decide
  simp only [Lease.findSlot, decodeHandle, wp_rules, slot, generation, named]
  simp [registered.encoding, ready.encoding, ready.initialized, ready.identity, ready.generation, real, nonzero, identity,
    found.counted, found.context, found.identity, found.head, found.generation, active, leaseSlotCount, wired, vacant]

end Registration

variable (machine : Machine) (headSegment : UInt16) (stop : ℕ) (state : LeaseState)

/-- A table whose leases are backed by a sound arena. -/
structure Owns (blocks : List Mcb) : Prop where
  sound : Sound machine headSegment stop state.memory blocks
  registered : Registered machine state
  backed : Backed state.table blocks

/-- The next state is backed again, and settled headers stay settled. -/
def Keeps (blocks : List Mcb) (next : LeaseState) : Prop :=
  ∃ blocks', Owns machine headSegment stop next blocks' ∧ ∀ segment record,
    Settled state.table blocks segment record → Settled next.table blocks' segment record

variable {machine headSegment stop state} {next : LeaseState} (reliable : machine.Reliable)
  (owns : Owns machine headSegment stop state blocks)
include owns

omit owns in
theorem Keeps.of_preserves (sound : Sound machine headSegment stop next.memory blocks')
    (registered : Registered machine next) (preserves : Preserves state.table blocks next.table blocks') :
    Keeps machine headSegment stop state blocks next :=
  ⟨blocks', ⟨sound, registered, preserves.backed⟩, preserves.settled⟩

theorem Keeps.refl : Keeps machine headSegment stop state blocks state :=
  .of_preserves owns.sound owns.registered (.quiet owns.backed rfl)

/-- The entry that an ACTIVE slot stands for belongs to no other slot and is not settled. -/
theorem Owns.disposable (active : (state.table.slots index).state = leaseSlotActive) :
    Disposable state.table blocks index ((state.table.slots index).guestSegment - 1) := by
  constructor
  · intro other elsewhere isActive same
    exact elsewhere (owns.backed.distinct other index isActive active same)
  · intro record settled
    exact settled.apart index active rfl

include reliable

private theorem allocating_usage {owner : UInt16} (real : owner ≠ 0) {namedOwner : Option OwnerIdentity}
    (named : ∀ given ∈ namedOwner, given.pspSegment = owner) (paragraphs : UInt16) :
    wp (allocating machine owner namedOwner paragraphs) state.memory
      (fun result => Adds stop blocks machine headSegment state.memory owner paragraphs (result.blockSegment - 1))
      (fun _ next => next.arena = state.memory.arena ∧ ∃ blocks', Sound machine headSegment stop next blocks' ∧
        usage blocks' = usage blocks) := by
  cases namedOwner with
  | none => exact allocateCheckedCommon_usage owns.sound reliable real none paragraphs
  | some given =>
    obtain rfl := named given rfl
    simp only [allocating, allocateNamed, wp_rules]
    exact ⟨fun _ => ⟨trivial, blocks, owns.sound, rfl⟩,
      fun _ => allocateCheckedCommon_usage owns.sound reliable real (some given.name) paragraphs⟩

private theorem transferring_usage (guestSegment expectedOwner : UInt16) {newOwner : UInt16}
    {namedNewOwner : Option OwnerIdentity} (named : ∀ given ∈ namedNewOwner, given.pspSegment = newOwner)
    (namePatch : Option OwnerNamePatch) :
    wp (transferring machine guestSegment expectedOwner newOwner namedNewOwner namePatch) state.memory
      (fun _ => Rebinds stop blocks machine headSegment state.memory (guestSegment - 1) newOwner)
      (fun _ next => next.arena = state.memory.arena ∧ Sound machine headSegment stop next blocks) := by
  have common := transferOwnerCommon_usage owns.sound reliable guestSegment expectedOwner
  cases namePatch with
  | some patch =>
    simp only [transferring, Memory.transferOwnerNamePatch, wp_rules]
    exact ⟨fun _ => ⟨trivial, owns.sound⟩, fun _ => common _ _⟩
  | none =>
    cases namedNewOwner with
    | none => exact common _ _
    | some given =>
      obtain rfl := named given rfl
      simp only [transferring, Memory.transferNamedOwner, wp_rules]
      exact ⟨fun _ => ⟨trivial, owns.sound⟩, fun _ => common _ _⟩

/-- An arena operation that spares the table leaves the chain as it was. -/
theorem Spares.sound {memory : ArenaState} (spares : Spares machine state.memory memory) :
    memory.arena = state.memory.arena ∧ Sound machine headSegment stop memory blocks := by
  cases spares with
  | idle => exact ⟨rfl, owns.sound⟩
  | transferring named ran =>
    have failing := wp_of_error (transferring_usage reliable owns _ _ named _) ran
    exact failing
  | @preparing guestSegment expectedOwner newOwner namePatch _ ran =>
    have spec : Leaves (Lease.preparing machine guestSegment expectedOwner newOwner namePatch) state.memory
      (fun next => next.arena = state.memory.arena ∧ Sound machine headSegment stop next blocks) := by
      cases namePatch with
      | none => exact prepareOwnerRebindCommon_sound owns.sound _ _ _ _
      | some patch =>
        simp only [Lease.preparing, Memory.prepareOwnerNamePatchRebind, wp_rules]
        exact ⟨fun _ => ⟨trivial, owns.sound⟩, fun _ => prepareOwnerRebindCommon_sound owns.sound _ _ _ _⟩
    exact ran ▸ wp_final spec
  | freeing ran =>
    have failing := wp_of_error (freeOwned_usage owns.sound reliable) ran
    exact failing

/-- Every step keeps the leases backed. -/
theorem Step.keeps {call : LeaseCall} {result : Except LeaseError LeaseReply}
    (step : Step machine state call result next) : Keeps machine headSegment stop state blocks next := by
  have registered := step.keeps_registered owns.registered
  cases step with
  | refused => exact .refl owns
  | kept _ _ spares _ =>
    obtain ⟨arena, sound⟩ := spares.sound reliable owns
    exact .of_preserves sound (registered arena) (.quiet owns.backed rfl)
  | repeated _ _ _ _ => exact .refl owns
  | granted _ real named _ _ segment ran =>
    obtain ⟨arena, blocks', record, sound, isOwner, size, absent, updated⟩ :=
      wp_of_ok (allocating_usage reliable owns real named _) ran
    rw [← segment] at absent updated
    exact .of_preserves sound (registered arena) (.rewrite owns.backed
      (.of_update (owns.backed.disposable absent) updated)
      (fun _ => ⟨owns.backed.disposable absent, record, (congrFun updated _).trans (update_self _ _ _), isOwner, size⟩)
      fun published => absurd published (by decide : leaseSlotActive ≠ leaseSlotPublished))
  | denied _ real named _ ran =>
    obtain ⟨arena, blocks', sound, unchanged⟩ := wp_of_error (allocating_usage reliable owns real named _) ran
    exact .of_preserves sound (registered arena) (.rewrite owns.backed
      (fun segment differs => (differs (congrFun unchanged segment)).elim)
      (fun active => absurd active (by decide : leaseSlotVacant ≠ leaseSlotActive))
      fun published => absurd published (by decide : leaseSlotVacant ≠ leaseSlotPublished))
  | transferred _ _ found named ran =>
    obtain ⟨arena, blocks', record, record', sound, inUse, isOwner, size, updated⟩ :=
      wp_of_ok (transferring_usage reliable owns _ _ named _) ran
    obtain ⟨old, inUse', _, oldSize⟩ := owns.backed.active _ found.active
    cases inUse.symm.trans inUse'
    have own := owns.disposable found.active
    refine .of_preserves sound (registered arena) (.rewrite owns.backed (own.of_update updated)
      (fun _ => ⟨own, record', by rw [updated, update_self], isOwner, size.trans oldSize⟩) fun published => ?_)
    exact absurd (found.active.symm.trans published) (by decide)
  | published _ found =>
    obtain ⟨record, inUse, _⟩ := owns.backed.active _ found.active
    exact .of_preserves owns.sound (registered rfl) (.rewrite owns.backed (fun _ differs => (differs rfl).elim)
      (fun active => absurd active (by decide : leaseSlotPublished ≠ leaseSlotActive))
      fun _ => ⟨(owns.disposable found.active).1, record, inUse⟩)
  | @finished _ _ aborting _ _ _ found ran =>
    obtain ⟨arena, record, inUse, sound, updated⟩ := wp_of_ok (freeOwned_usage owns.sound reliable) ran
    obtain ⟨-, idle, closed⟩ := closedState aborting
    exact .of_preserves sound (registered arena) (.rewrite owns.backed
      ((owns.disposable found.active).of_update updated) (fun active => (idle active).elim)
      fun published => (closed published).elim)

/-- Every call keeps the leases backed, whichever exit it takes. -/
theorem owns_step (call : LeaseCall) :
    Leaves (call.perform machine) state (Keeps machine headSegment stop state blocks) :=
  wp_mono (perform_step owns.registered.encoding.2.1 call) (fun _ _ step => step.keeps reliable owns)
    fun _ _ step => step.keeps reliable owns

omit owns reliable

/-- A slot names a header of the chain with its own owner and size. -/
def Names (slot : LeaseSlot) (blocks : List Mcb) : Prop :=
  ∃ block ∈ blocks, slot.guestSegment = block.segment + 1 ∧ block.record.owner = slot.owner ∧
    block.record.size = slot.paragraphs

/-- The chain afterwards is the chain before with the header of the slot marked free. -/
def FreesExactly (slot : LeaseSlot) (state next : LeaseState) : Prop :=
  ∃ blocks, ∃ block ∈ blocks, arenaBlocks state.memory = some blocks ∧ slot.guestSegment = block.segment + 1 ∧
    arenaBlocks next.memory = some (blocks.map (rewriteHeader block.segment (block.record.setOwner mcbOwnerFree)))

/-- The two calls that end a lease. -/
def endings (handle : UInt64) (expectedOwner : UInt16) : List LeaseCall :=
  [.release handle expectedOwner, .abort handle expectedOwner]

/-- What the table promises at every point of a run. -/
structure KeepsOwnership (machine : Machine) (state : LeaseState) : Prop where
  active : ∃ blocks, arenaBlocks state.memory = some blocks ∧
    ∀ index, (state.table.slots index).state = leaseSlotActive → Names (state.table.slots index) blocks
  distinct : ∀ left right, (state.table.slots left).state = leaseSlotActive →
    (state.table.slots right).state = leaseSlotActive →
    (state.table.slots left).guestSegment = (state.table.slots right).guestSegment → left = right
  frees : ∀ handle expectedOwner,
    ∀ call ∈ endings handle expectedOwner, wp (call.perform machine) state
      (fun _ next => if (state.table.slots (handleSlot handle)).state = leaseSlotActive then
        FreesExactly (state.table.slots (handleSlot handle)) state next else next = state)
      (fun _ next => arenaBlocks next.memory = arenaBlocks state.memory)
  ends : ∀ index, (state.table.slots index).state = leaseSlotActive →
    ∀ call ∈ endings (handleOf state.table index) (state.table.slots index).owner,
      wp (call.perform machine) state (fun _ next => FreesExactly (state.table.slots index) state next)
        (fun _ _ => False)
  published : ∀ index, (state.table.slots index).state = leaseSlotPublished →
    ∃ block : Mcb, (state.table.slots index).guestSegment = block.segment + 1 ∧ ¬ block.isFree ∧
      ∀ history later, Runs (LeaseCall.perform machine) (fun _ _ => True) state history later →
        ∃ blocks, arenaBlocks later.memory = some blocks ∧ block ∈ blocks

/-- Settled headers stay in the chain along every run. -/
theorem settled_run (reliable : machine.Reliable) (owns : Owns machine headSegment stop state blocks)
    {segment : UInt16} {record : McbRecord} (settled : Settled state.table blocks segment record)
    {history : List (LeaseCall × Except LeaseError LeaseReply)} {later : LeaseState}
    (run : Runs (LeaseCall.perform machine) (fun _ _ => True) state history later) :
    ∃ blocks', Owns machine headSegment stop later blocks' ∧ Settled later.table blocks' segment record := by
  refine run.invariant_state (fun state => ∃ blocks, Owns machine headSegment stop state blocks ∧
    Settled state.table blocks segment record) ⟨blocks, owns, settled⟩ ?_
  rintro state call ⟨blocks, owns, settled⟩ _
  apply (owns_step reliable owns call).mono
  rintro next ⟨blocks', owns', kept⟩
  exact ⟨blocks', owns', kept segment record settled⟩

/-- Releasing or aborting a lease takes exactly its header out of use. -/
private theorem frees_step (reliable : machine.Reliable) (owns : Owns machine headSegment stop state blocks)
    {call : LeaseCall} {handle : UInt64} {expectedOwner : UInt16} (member : call ∈ endings handle expectedOwner) :
    wp (call.perform machine) state
      (fun _ next => if (state.table.slots (handleSlot handle)).state = leaseSlotActive then
        FreesExactly (state.table.slots (handleSlot handle)) state next else next = state)
      (fun _ next => arenaBlocks next.memory = arenaBlocks state.memory) := by
  have ends : call.endedHandle = some handle := by
    simp only [endings, List.mem_cons, List.not_mem_nil, or_false] at member
    rcases member with rfl | rfl <;> rfl
  have addressed := handle_of_endedHandle ends
  apply wp_mono (perform_step owns.registered.encoding.2.1 call)
  · intro reply next step
    cases step with
    | kept _ _ _ silent => cases ends.symm.trans (silent reply rfl).1
    | repeated same _ _ terminal =>
      cases ends.symm.trans same
      have inactive : (state.table.slots (handleSlot handle)).state ≠ leaseSlotActive := by
        intro active
        rw [Terminal, active] at terminal
        exact absurd terminal (by decide)
      rw [if_neg inactive]
    | granted unaddressed _ _ _ _ _ _ => cases addressed.symm.trans unaddressed
    | transferred _ lasting _ _ _ => cases ends.symm.trans lasting
    | published named _ =>
      obtain rfl | ⟨plan, rfl, _⟩ := named <;> simp [endings] at member
    | finished _ same found ran =>
      cases same.symm.trans ends
      rw [if_pos found.active]
      obtain ⟨-, record, inUse, sound, _⟩ := wp_of_ok (freeOwned_usage owns.sound reliable) ran
      exact ⟨blocks, ⟨_, record⟩, (mem_of_usage owns.sound.chain inUse).1, owns.sound.arenaBlocks_eq,
        (UInt16.sub_add_cancel _ _).symm, sound.arenaBlocks_eq⟩
  · intro error next step
    cases step with
    | refused => rfl
    | kept _ _ spares _ => rw [(spares.sound reliable owns).2.arenaBlocks_eq, owns.sound.arenaBlocks_eq]
    | denied unaddressed _ _ _ _ => cases addressed.symm.trans unaddressed

/-- The owner of an ACTIVE lease can end it. -/
private theorem finishes (reliable : machine.Reliable) (owns : Owns machine headSegment stop state blocks)
    (active : (state.table.slots index).state = leaseSlotActive) {call : LeaseCall}
    (member : call ∈ endings (handleOf state.table index) (state.table.slots index).owner) :
    wp (call.perform machine) state (fun _ _ => True) (fun _ _ => False) := by
  obtain ⟨record, inUse, owner, -⟩ := owns.backed.active index active
  have real : (state.table.slots index).owner ≠ 0 := by
    rw [← owner]
    exact (mem_of_usage owns.sound.chain inUse).2
  have wired : machine.ops ≠ none := by
    obtain ⟨_, _, wired, -⟩ := reliable.clean
    intro none
    simp [none] at wired
  have finish (aborting : Bool) : wp (finishActiveLease machine (handleOf state.table index)
      (state.table.slots index).owner aborting) state (fun _ _ => True) (fun _ _ => False) := by
    simp only [finishActiveLease, wp_bind]
    apply wp_mono_done (owns.registered.findSlot owns.sound.ready wired active real)
    rintro _ _ ⟨rfl, rfl⟩
    simp only [wp_all, wp_ite, wp_modifySlot, onArena]
    refine fun _ => ⟨fun idle => idle active, fun _ => ?_⟩
    rw [← owner]
    exact freeOwned_owner owns.sound reliable inUse
  simp only [endings, List.mem_cons, List.not_mem_nil, or_false] at member
  rcases member with rfl | rfl
  · exact (wp_map _ _).mpr (finish false)
  · exact (wp_map _ _).mpr (finish true)

theorem Owns.keepsOwnership (reliable : machine.Reliable) (owns : Owns machine headSegment stop state blocks) :
    KeepsOwnership machine state where
  active := by
    refine ⟨blocks, owns.sound.arenaBlocks_eq, fun index active => ?_⟩
    obtain ⟨record, inUse, owner, size⟩ := owns.backed.active index active
    exact ⟨⟨_, record⟩, (mem_of_usage owns.sound.chain inUse).1, (UInt16.sub_add_cancel _ _).symm, owner, size⟩
  distinct := by
    intro left right activeLeft activeRight same
    exact owns.backed.distinct left right activeLeft activeRight (by rw [same])
  frees := fun _ _ _ member => frees_step reliable owns member
  ends := by
    intro index active call member
    have frees := frees_step reliable owns member
    rw [handleOf, handleSlot_makeHandle _ _ (owns.registered.encoding.2.2.2.2 index).1] at frees
    simp only [if_pos active] at frees
    exact wp_mono (wp_and frees (finishes reliable owns active member)) (fun _ _ => And.left) fun _ _ => And.right
  published := by
    intro index published
    obtain ⟨record, settled⟩ := owns.backed.published index published
    refine ⟨⟨(state.table.slots index).guestSegment - 1, record⟩, (UInt16.sub_add_cancel _ _).symm,
      (mem_of_usage owns.sound.chain settled.inUse).2, ?_⟩
    intro history later run
    obtain ⟨blocks', owns', settled'⟩ := settled_run reliable owns settled run
    exact ⟨blocks', owns'.sound.arenaBlocks_eq, (mem_of_usage owns'.sound.chain settled'.inUse).1⟩

/-- Over every run of one table with one well-formed arena on a fault-free machine, ACTIVE leases
name distinct headers with their own owner and size, ending a lease frees exactly its header, and
the header of a published lease is never freed. -/
theorem leases_own_their_blocks {machine : Machine} {ops : MachineOps} {context addressLimit : ℕ} {a20Enabled : Bool}
    (configured : configure ops context addressLimit a20Enabled = .ok machine) (clean : machine.FaultFree)
    {constructed opened state : LeaseState} {headSegment : UInt16} {stop : ℕ} {blocks : List Mcb}
    (initializing : tableInitialize constructed = .ok () opened)
    (arena : Sound machine headSegment stop opened.memory blocks)
    {history : List (LeaseCall × Except LeaseError LeaseReply)}
    (run : Runs (LeaseCall.perform machine) (fun _ _ => True) opened history state) :
    KeepsOwnership machine state := by
  have reliable := machine.reliable_of_configure configured clean
  have vacant : wp tableInitialize constructed (fun _ next => next.table.hasValidEncoding ∧
      ∀ index, (next.table.slots index).state = leaseSlotVacant) (fun _ _ => True) := by
    simp only [tableInitialize, wp_all]
    intro accepted _
    simp only [not_or, not_not] at accepted
    obtain ⟨-, -, valid, reserved⟩ := accepted
    exact ⟨⟨rfl, rfl, valid, reserved, fun _ => ⟨(by decide : 0 ≤ leaseGenerationMax), rfl,
      (by decide : leaseSlotVacant ≤ leaseSlotPublished), fun _ => rfl⟩⟩, fun _ => rfl⟩
  obtain ⟨encoding, empty⟩ := wp_of_ok vacant initializing
  have start : Owns machine headSegment stop opened blocks := by
    refine ⟨arena, ⟨encoding, fun index active => ?_⟩, ?_, ?_, ?_⟩
    · rw [empty] at active
      exact absurd active (by decide)
    · intro index active
      rw [empty] at active
      exact absurd active (by decide)
    · intro left right active
      rw [empty] at active
      exact absurd active (by decide)
    · intro index published
      rw [empty] at published
      exact absurd published (by decide)
  obtain ⟨blocks', owns⟩ := run.invariant_state (fun state => ∃ blocks, Owns machine headSegment stop state blocks)
    ⟨blocks, start⟩ (fun state call owns _ => owns.elim fun _ owns =>
      (owns_step reliable owns call).mono fun _ kept => kept.imp fun _ => And.left)
  exact owns.keepsOwnership reliable

/-- Three leases, the first of which is published and the second released. -/
def sampleCalls : List LeaseCall :=
  [.acquireUnnamed 7 3, .acquireUnnamed 9 2, .acquireUnnamed 9 1, .publish 0x500000010 7, .release 0x500000011 9]

def sampleLeases : LeaseState := replay (LeaseCall.perform ideal) openedLeases sampleCalls

theorem leases_own_their_blocks_sample : KeepsOwnership ideal sampleLeases ∧
    [0, 1, 2].map (fun index => (sampleLeases.table.slots index).state) =
      [leaseSlotPublished, leaseSlotReleased, leaseSlotActive] := by
  have initializing : tableInitialize constructedLeases = .ok () openedLeases := rfl
  have ran : arenaInitialize ideal 0x10 0x20 ⟨.initializer 1, fun _ => 0, 0⟩ = .ok () openedLeases.memory := rfl
  obtain ⟨blocks, sound⟩ := wp_of_ok (arenaInitialize_spec ideal _ 0x10 0x20) ran
  refine ⟨?_, by decide +kernel⟩
  exact leases_own_their_blocks ideal_configured ideal_faultFree initializing sound
    (Runs.replay .start sampleCalls)

end DosC32.Lease
