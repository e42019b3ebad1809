import DosC32.Core.Run
import DosC32.Proofs.Machine
import DosC32.Proofs.MemoryLease

/-! # Lease handles are never revived

The generation of a slot never decreases, and it grows before the slot is granted again. So the
handles of all granted leases are distinct, and a handle whose lease has ended names nothing that
is ACTIVE ever after, whichever arenas and machines the later calls are made with.
-/

namespace DosC32.Lease

open Effect List

/-- How the slots of a table may change. -/
structure Advances (slot next : LeaseSlot) : Prop where
  generation : slot.generation ≤ next.generation
  terminal : slot.generation = next.generation → Terminal slot → Terminal next

structure Evolves (table next : LeaseTable) : Prop where
  identity : next.lifetimeIdentity = table.lifetimeIdentity
  initialized : next.initialized = table.initialized
  slots : ∀ index, Advances (table.slots index) (next.slots index)

/-- The lease that a handle was granted for is over. -/
def Ended (table : LeaseTable) (handle : UInt64) : Prop :=
  handleGeneration handle < (table.slots (handleSlot handle)).generation ∨
    (handleGeneration handle = (table.slots (handleSlot handle)).generation ∧
      Terminal (table.slots (handleSlot handle)))

variable {machine : Machine} {state next : LeaseState} {table table' : LeaseTable} {slot slot' : LeaseSlot}
    {handle : UInt64} {expectedOwner : UInt16} {index : Fin 16}

theorem Advances.refl (slot : LeaseSlot) : Advances slot slot := ⟨UInt64.le_refl _, fun _ => id⟩

theorem Evolves.refl (table : LeaseTable) : Evolves table table := ⟨rfl, rfl, fun _ => .refl _⟩

theorem evolves_withSlot (advances : Advances (table.slots index) slot) :
    Evolves table (withSlot table index slot) := by
  refine ⟨rfl, rfl, fun other => ?_⟩
  by_cases same : other = index
  · rw [same, withSlot_self]
    exact advances
  · rw [withSlot_of_ne same]
    exact .refl _

/-- A slot that is not terminal may change freely within its generation. -/
theorem Advances.of_active (active : slot.state = leaseSlotActive) (same : slot'.generation = slot.generation) :
    Advances slot slot' := by
  refine ⟨same ▸ UInt64.le_refl _, fun _ terminal => ?_⟩
  rw [Terminal, active] at terminal
  exact absurd terminal (by decide)

theorem Reserved.next_generation (reserved : Reserved state index) :
    ((state.table.slots index).generation + 1).toNat = (state.table.slots index).generation.toNat + 1 ∧
      (state.table.slots index).generation + 1 ≤ leaseGenerationMax := by
  have bounded : (state.table.slots index).generation.toNat ≤ 0x0fffffff :=
    UInt64.le_iff_toNat_le.mp (reserved.encoding.2.2.2.2 index).1
  have fresh : (state.table.slots index).generation.toNat ≠ 0x0fffffff :=
    fun same => reserved.fresh (UInt64.toNat_inj.mp same)
  have next : ((state.table.slots index).generation + 1).toNat = (state.table.slots index).generation.toNat + 1 := by
    rw [UInt64.toNat_add]
    change (_ + 1) % 2 ^ 64 = _
    omega
  refine ⟨next, UInt64.le_iff_toNat_le.mpr ?_⟩
  rw [next]
  change _ ≤ 0x0fffffff
  omega

theorem Advances.of_reserved (reserved : Reserved state index)
    (grows : slot.generation = (state.table.slots index).generation + 1) :
    Advances (state.table.slots index) slot := by
  have next := reserved.next_generation.1
  constructor
  · rw [UInt64.le_iff_toNat_le, grows, next]
    omega
  · intro same
    rw [grows] at same
    have values := congrArg UInt64.toNat same
    omega

theorem Ended.evolves (ended : Ended table handle) (evolves : Evolves table table') : Ended table' handle := by
  have advances := evolves.slots (handleSlot handle)
  rcases ended with earlier | ⟨same, terminal⟩
  · exact .inl (UInt64.lt_of_lt_of_le earlier advances.generation)
  · by_cases kept : (table.slots (handleSlot handle)).generation = (table'.slots (handleSlot handle)).generation
    · exact .inr ⟨same.trans kept, advances.terminal kept terminal⟩
    · exact .inl (same ▸ UInt64.lt_of_le_of_ne advances.generation kept)

theorem Found.terminal (found : Found state handle expectedOwner) (ended : Ended state.table handle) :
    Terminal (state.table.slots (handleSlot handle)) := by
  rcases ended with earlier | ⟨_, terminal⟩
  · rw [found.generation] at earlier
    exact absurd earlier (UInt64.lt_irrefl _)
  · exact terminal

theorem FoundActive.not_ended (found : FoundActive state handle expectedOwner) : ¬ Ended state.table handle := by
  intro ended
  have terminal := found.toFound.terminal ended
  rw [Terminal, found.active] at terminal
  exact absurd terminal (by decide)

/-- A lease that was found and whose slot is now terminal in the same generation is over. -/
theorem Found.ended (found : Found state handle expectedOwner)
    (shape : table' = withSlot state.table (handleSlot handle) slot)
    (same : slot.generation = (state.table.slots (handleSlot handle)).generation) (terminal : Terminal slot) :
    Ended table' handle := by
  refine .inr ?_
  rw [shape, withSlot_self, same, found.generation]
  exact ⟨rfl, terminal⟩

variable {call : LeaseCall} {result : Except LeaseError LeaseReply} {reply : LeaseReply}

/-- What a successful call may do to the handles: the reply names the next generation of some slot. -/
def Grants (table next : LeaseTable) (handle : UInt64) : Prop :=
  ∃ index generation, generation ≤ leaseGenerationMax ∧ (table.slots index).generation < generation ∧
    (next.slots index).generation = generation ∧ handle = makeHandle table.lifetimeIdentity index generation

/-- What a step does to the generations. -/
theorem Step.evolves (step : Step machine state call result next) : Evolves state.table next.table := by
  cases step with
  | refused | kept _ _ _ _ | repeated _ _ _ _ => exact .refl _
  | granted _ _ _ reserved _ _ _ | denied _ _ _ reserved _ => exact evolves_withSlot (.of_reserved reserved rfl)
  | transferred _ _ found _ _ | published _ found | finished _ _ found _ =>
    exact evolves_withSlot (.of_active found.active rfl)

theorem Step.grants (step : Step machine state call (.ok reply) next) :
    ∀ handle ∈ reply.grantedHandle, Grants state.table next.table handle := by
  cases step with
  | kept _ _ _ silent => simp [(silent reply rfl).2]
  | @granted _ _ _ receipt index _ _ _ _ _ reserved named _ _ =>
    obtain ⟨grows, bounded⟩ := reserved.next_generation
    intro handle given
    cases given
    refine ⟨index, _, bounded, ?_, ?_, named⟩
    · rw [UInt64.lt_iff_toNat_lt, grows]
      omega
    · rw [withSlot_self]
      rfl
  | _ => simp [LeaseReply.grantedHandle]

theorem handle_of_endedHandle (ends : call.endedHandle = some handle) : call.handle = some handle := by
  cases call <;> first | exact ends | cases ends

theorem Step.ends (step : Step machine state call (.ok reply) next) :
    ∀ handle ∈ call.endedHandle, Ended next.table handle := by
  intro handle given
  cases step with
  | kept _ _ _ silent => cases given.symm.trans (silent reply rfl).1
  | repeated ends _ found terminal =>
    cases ends.symm.trans given
    exact .inr ⟨found.generation.symm, terminal⟩
  | granted unaddressed _ _ _ _ _ _ => cases (handle_of_endedHandle given).symm.trans unaddressed
  | transferred _ lasting _ _ _ => cases given.symm.trans lasting
  | @published _ _ owner named found =>
    obtain rfl | ⟨plan, rfl, rfl⟩ := named
    · cases given
      exact found.toFound.ended rfl rfl (.inr (.inr rfl))
    · cases given
      exact found.toFound.ended rfl rfl (.inr (.inr rfl))
  | @finished _ _ aborting _ _ ends found _ =>
    cases ends.symm.trans given
    refine found.toFound.ended rfl rfl ?_
    cases aborting
    · exact .inl rfl
    · exact .inr (.inl rfl)

/-- A call addressed to a lease that is over changes nothing, and succeeds only where repeating is allowed. -/
theorem Step.of_ended (ended : Ended state.table handle) (addressed : call.handle = some handle)
    (step : Step machine state call result next) : next = state ∧ ∀ reply, result = .ok reply → call.IsIdempotent := by
  have inactive : ∀ {other expectedOwner}, call.handle = some other → ¬ FoundActive state other expectedOwner := by
    intro other expectedOwner same found
    cases addressed.symm.trans same
    exact found.not_ended ended
  cases step with
  | refused => exact ⟨rfl, by simp⟩
  | kept same found _ _ | transferred same _ found _ _ | finished same _ found _ => exact (inactive same found).elim
  | repeated _ idempotent _ _ => exact ⟨rfl, fun _ _ => idempotent⟩
  | granted unaddressed _ _ _ _ _ _ | denied unaddressed _ _ _ _ => cases unaddressed.symm.trans addressed
  | published named found =>
    obtain rfl | ⟨plan, rfl, rfl⟩ := named
    · exact (inactive rfl found).elim
    · exact (inactive rfl found).elim

/-- A call together with the machine and the arena it is made with. -/
structure LeaseUse where
  machine : Machine
  memory : ArenaState
  call : LeaseCall

def LeaseUse.perform (use : LeaseUse) : LeaseM LeaseReply := do
  modify fun state => { state with memory := use.memory }
  use.call.perform use.machine

abbrev LeaseHistory := List (LeaseUse × Except LeaseError LeaseReply)

/-- The handles returned by the successful acquisitions of a history. -/
def grantedHandles (history : LeaseHistory) : List UInt64 :=
  history.filterMap fun event => event.2.toOption.bind LeaseReply.grantedHandle

/-- The handles that were successfully released, aborted or published. -/
def endedHandles (history : LeaseHistory) : List UInt64 :=
  history.filterMap fun event => event.2.toOption.bind fun _ => event.1.call.endedHandle

/-- The invariant of a run. -/
structure Tracks (identity : UInt32) (history : LeaseHistory) (table : LeaseTable) : Prop where
  lifetime : table.lifetimeIdentity = identity
  initialized : table.initialized = 1
  distinct : (grantedHandles history).Nodup
  granted : ∀ handle ∈ grantedHandles history, ∃ index generation, generation ≤ leaseGenerationMax ∧
    generation ≤ (table.slots index).generation ∧ handle = makeHandle identity index generation
  ended : ∀ handle ∈ endedHandles history, Ended table handle

variable {identity : UInt32} {history : LeaseHistory} {next : LeaseTable} {use : LeaseUse}

theorem Tracks.failed (tracks : Tracks identity history table) (error : LeaseError) (evolves : Evolves table next) :
    Tracks identity ((use, .error error) :: history) next := by
  refine ⟨evolves.identity.trans tracks.lifetime, evolves.initialized.trans tracks.initialized, tracks.distinct, ?_, ?_⟩
  · intro handle member
    obtain ⟨index, generation, bounded, le, same⟩ := tracks.granted handle member
    exact ⟨index, generation, bounded, UInt64.le_trans le (evolves.slots index).generation, same⟩
  · exact fun handle member => (tracks.ended handle member).evolves evolves

theorem Tracks.succeeded (tracks : Tracks identity history table) (reply : LeaseReply) (evolves : Evolves table next)
    (grants : ∀ handle ∈ reply.grantedHandle, Grants table next handle)
    (ends : ∀ handle ∈ use.call.endedHandle, Ended next handle) :
    Tracks identity ((use, .ok reply) :: history) next := by
  have kept : Tracks identity ((use, .error .noSlot) :: history) next := tracks.failed .noSlot evolves
  have ended : ∀ handle ∈ endedHandles ((use, .ok reply) :: history), Ended next handle := by
    intro handle member
    simp only [endedHandles, mem_filterMap, mem_cons] at member
    obtain ⟨event, rfl | inside, found⟩ := member
    · exact ends handle found
    · exact kept.ended handle (mem_filterMap.mpr ⟨event, mem_cons_of_mem _ inside, found⟩)
  cases shape : reply.grantedHandle with
  | none =>
    have same : grantedHandles ((use, .ok reply) :: history) = grantedHandles history := by
      simp [grantedHandles, Except.toOption, shape]
    exact ⟨kept.lifetime, kept.initialized, same ▸ kept.distinct, same ▸ kept.granted, ended⟩
  | some handle =>
    have more : grantedHandles ((use, .ok reply) :: history) = handle :: grantedHandles history := by
      simp [grantedHandles, Except.toOption, shape]
    obtain ⟨index, generation, bounded, grows, reached, named⟩ := grants handle shape
    rw [tracks.lifetime] at named
    refine ⟨kept.lifetime, kept.initialized, ?_, ?_, ended⟩
    · rw [more, nodup_cons]
      refine ⟨fun member => ?_, tracks.distinct⟩
      obtain ⟨index', generation', bounded', le, same⟩ := tracks.granted _ member
      have slots := congrArg handleSlot (named.symm.trans same)
      have generations := congrArg handleGeneration (named.symm.trans same)
      rw [handleSlot_makeHandle _ _ bounded, handleSlot_makeHandle _ _ bounded'] at slots
      rw [handleGeneration_makeHandle _ _ bounded, handleGeneration_makeHandle _ _ bounded'] at generations
      rw [← slots, ← generations] at le
      exact UInt64.lt_irrefl _ (UInt64.lt_of_lt_of_le grows le)
    · rw [more]
      intro other member
      rcases mem_cons.mp member with rfl | inside
      · exact ⟨index, generation, bounded, reached ▸ UInt64.le_refl _, named⟩
      · exact kept.granted other inside

/-- One use of the table. -/
theorem tracks_step (tracks : Tracks identity history state.table) (use : LeaseUse) :
    wp use.perform state (fun reply next => Tracks identity ((use, .ok reply) :: history) next.table)
      (fun error next => Tracks identity ((use, .error error) :: history) next.table) := by
  simp only [LeaseUse.perform, wp_rules]
  have initialized : (LeaseState.mk state.table use.memory).table.initialized = 1 := tracks.initialized
  apply wp_mono (perform_step initialized use.call)
  · exact fun reply next step => tracks.succeeded reply step.evolves step.grants step.ends
  · exact fun error next step => tracks.failed error step.evolves

/-- Along every run of a constructed and initialized table all granted handles are distinct, and a
call addressed to a handle that was released, aborted or published changes nothing and fails,
unless it repeats an abort or a publication. -/
theorem lease_handles_never_revive {identity : UInt32} {raw constructed opened state : LeaseState}
    {history : LeaseHistory} (constructing : tableConstruct identity raw = .ok () constructed)
    (initializing : tableInitialize constructed = .ok () opened)
    (run : Runs LeaseUse.perform (fun _ _ => True) opened history state) :
    (grantedHandles history).Nodup ∧ ∀ handle ∈ endedHandles history, ∀ use : LeaseUse,
      use.call.handle = some handle →
      wp use.perform state (fun _ next => use.call.IsIdempotent ∧ next = ⟨state.table, use.memory⟩)
        (fun _ next => next = ⟨state.table, use.memory⟩) := by
  have start : Tracks identity [] opened.table := by
    have spec : wp (tableConstruct identity) raw (fun _ next => next.table.lifetimeIdentity = identity)
        (fun _ _ => True) := by
      simp only [tableConstruct, wp_rules, implies_true, and_self]
    have spec' : wp tableInitialize constructed (fun _ next => next.table.initialized = 1 ∧
        next.table.lifetimeIdentity = constructed.table.lifetimeIdentity) (fun _ _ => True) := by
      simp only [tableInitialize, wp_rules, implies_true, and_self]
    have made := wp_of_ok spec constructing
    have done := wp_of_ok spec' initializing
    exact ⟨done.2.trans made, done.1, nodup_nil, by simp [grantedHandles], by simp [endedHandles]⟩
  have tracks : Tracks identity history state.table :=
    run.invariant (fun history state => Tracks identity history state.table) start
      (fun _ _ use tracks _ => tracks_step tracks use)
  refine ⟨tracks.distinct, fun handle member use addressed => ?_⟩
  simp only [LeaseUse.perform, wp_rules]
  have initialized : (LeaseState.mk state.table use.memory).table.initialized = 1 := tracks.initialized
  have ended : Ended (LeaseState.mk state.table use.memory).table handle := tracks.ended handle member
  apply wp_mono (perform_step initialized use.call)
  · intro reply next step
    obtain ⟨same, idempotent⟩ := step.of_ended ended addressed
    exact ⟨idempotent reply rfl, same⟩
  · exact fun error next step => (step.of_ended ended addressed).1

def blankTable : LeaseTable := ⟨fun _ => ⟨0, 0, 0, 0, 0, 0, 0, 0, 0, 0, fun _ => 0⟩, 0, 0, 0, fun _ => 0⟩

/-- An arena of fifteen free paragraphs. -/
def freshArena : ArenaState := final (Memory.arenaInitialize Machine.ideal 0x10 0x20) ⟨.initializer 1, fun _ => 0, 0⟩

def constructedLeases : LeaseState := final (tableConstruct 5) ⟨blankTable, freshArena⟩

def openedLeases : LeaseState := final tableInitialize constructedLeases

def acquireThree : LeaseUse := ⟨Machine.ideal, freshArena, .acquireUnnamed 7 3⟩

def releaseThree : LeaseUse :=
  ⟨Machine.ideal, (final acquireThree.perform openedLeases).memory, .release 0x500000010 7⟩

theorem lease_handles_never_revive_release :
    wp releaseThree.perform (final releaseThree.perform (final acquireThree.perform openedLeases))
      (fun _ _ => False) (fun _ _ => True) := by
  have run : Runs LeaseUse.perform (fun _ _ => True) openedLeases _
      (final releaseThree.perform (final acquireThree.perform openedLeases)) :=
    .step releaseThree (.step acquireThree .start trivial) trivial
  have released : outcome releaseThree.perform (final acquireThree.perform openedLeases) = .ok .done := rfl
  have constructing : tableConstruct 5 ⟨blankTable, freshArena⟩ = .ok () constructedLeases := rfl
  have initializing : tableInitialize constructedLeases = .ok () openedLeases := rfl
  have again := (lease_handles_never_revive constructing initializing run).2 0x500000010
    (by rw [endedHandles, released]; exact mem_cons_self) releaseThree rfl
  exact wp_mono again (fun _ _ outcome => outcome.1.elim) (fun _ _ _ => trivial)

end DosC32.Lease
