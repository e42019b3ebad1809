import DosC32.Model.MemoryLease

/-! # Contracts of the lease procedures

`Step` lists all that a call may do: the slot that it changes and the arena operation that it ran.
Nothing is assumed of the arena here: a step only says which operation took which exit.
-/

namespace DosC32.Lease

open Effect

variable (machine : Machine) (state : LeaseState)

section Handles

variable (identity : UInt32) (slot : Fin 16) {generation : UInt64} (bounded : generation ≤ leaseGenerationMax)
include bounded

/-- The three fields of a handle do not overlap. -/
theorem toNat_makeHandle :
    (makeHandle identity slot generation).toNat = identity.toNat * 2 ^ 32 + generation.toNat * 16 + slot.val := by
  have high := identity.toNat_lt
  have middle : generation.toNat ≤ 0x0fffffff := UInt64.le_iff_toNat_le.mp bounded
  have low := slot.isLt
  have shifted : (identity.toUInt64 <<< leaseTableIdentityShift).toNat = identity.toNat <<< 32 := by
    rw [UInt64.toNat_shiftLeft, UInt32.toNat_toUInt64]
    change identity.toNat <<< 32 % 2 ^ 64 = _
    rw [Nat.shiftLeft_eq]
    omega
  have shifted' : (generation <<< leaseGenerationShift).toNat = generation.toNat <<< 4 := by
    rw [UInt64.toNat_shiftLeft]
    change generation.toNat <<< 4 % 2 ^ 64 = _
    rw [Nat.shiftLeft_eq]
    omega
  have small : (UInt64.ofNat slot.val).toNat = slot.val := by
    rw [UInt64.toNat_ofNat']
    omega
  rw [makeHandle, UInt64.toNat_or, UInt64.toNat_or, shifted, shifted', small, Nat.or_assoc,
    ← Nat.shiftLeft_add_eq_or_of_lt (show slot.val < 2 ^ 4 from low), ← Nat.shiftLeft_add_eq_or_of_lt,
    Nat.shiftLeft_eq, Nat.shiftLeft_eq]
  · omega
  · rw [Nat.shiftLeft_eq]
    omega

theorem handleGeneration_makeHandle : handleGeneration (makeHandle identity slot generation) = generation := by
  have middle : generation.toNat ≤ 0x0fffffff := UInt64.le_iff_toNat_le.mp bounded
  have low := slot.isLt
  apply UInt64.toNat_inj.mp
  rw [handleGeneration, UInt64.toNat_and, UInt64.toNat_shiftRight, toNat_makeHandle identity slot bounded]
  change (_ >>> 4) &&& (2 ^ 28 - 1) = _
  rw [Nat.and_two_pow_sub_one_eq_mod, Nat.shiftRight_eq_div_pow]
  omega

theorem handleIdentity_makeHandle : handleIdentity (makeHandle identity slot generation) = identity := by
  have middle : generation.toNat ≤ 0x0fffffff := UInt64.le_iff_toNat_le.mp bounded
  have low := slot.isLt
  have high := identity.toNat_lt
  apply UInt32.toNat_inj.mp
  rw [handleIdentity, UInt64.toNat_toUInt32, UInt64.toNat_shiftRight, toNat_makeHandle identity slot bounded]
  change (_ >>> 32) % 2 ^ 32 = _
  rw [Nat.shiftRight_eq_div_pow]
  omega

theorem handleSlot_makeHandle : handleSlot (makeHandle identity slot generation) = slot := by
  have low := slot.isLt
  apply Fin.ext
  rw [handleSlot, UInt64.toNat_and, toNat_makeHandle identity slot bounded, Fin.val_ofNat]
  change (_ &&& (2 ^ 4 - 1)) % 16 = _
  rw [Nat.and_two_pow_sub_one_eq_mod]
  omega

end Handles

/-- What a successful lookup has checked. -/
structure Found (handle : UInt64) (expectedOwner : UInt16) : Prop where
  encoding : state.table.hasValidEncoding
  generation : (state.table.slots (handleSlot handle)).generation = handleGeneration handle
  used : (state.table.slots (handleSlot handle)).state ≠ leaseSlotVacant
  owner : (state.table.slots (handleSlot handle)).owner = expectedOwner
  real : expectedOwner ≠ 0

/-- A successful lookup of an ACTIVE lease. -/
structure FoundActive (handle : UInt64) (expectedOwner : UInt16) : Prop extends Found state handle expectedOwner where
  active : (state.table.slots (handleSlot handle)).state = leaseSlotActive

section Lookup

variable {machine state} {handle : UInt64} {expectedOwner : UInt16}

theorem findSlot_spec :
    wp (findSlot machine handle expectedOwner) state
      (fun index next => next = state ∧ index = handleSlot handle ∧ Found state handle expectedOwner)
      (fun _ next => next = state) := by
  simp only [findSlot, decodeHandle, wp_all]
  intro accepted _ _ _ _ _ current _ _ _ owner
  simp only [not_or, not_not] at accepted current owner
  exact ⟨accepted.1, current.1, current.2, owner, accepted.2.2.2.2.2.2⟩

theorem findActiveSlot_spec :
    wp (findActiveSlot machine handle expectedOwner) state
      (fun index next => next = state ∧ index = handleSlot handle ∧ FoundActive state handle expectedOwner)
      (fun _ next => next = state) := by
  simp only [findActiveSlot, wp_bind]
  refine wp_mono_done findSlot_spec ?_
  rintro _ state ⟨rfl, rfl, found⟩
  simp only [wp_all]
  intro active _
  exact ⟨found, not_not.mp active⟩

end Lookup

/-- The table with one slot rewritten. -/
def withSlot (table : LeaseTable) (index : Fin 16) (slot : LeaseSlot) : LeaseTable :=
  { table with slots := Function.update table.slots index slot }

section Slots

variable (table : LeaseTable) (index : Fin 16) (slot slot' : LeaseSlot)

@[simp] theorem withSlot_self : (withSlot table index slot).slots index = slot := Function.update_self _ _ _

@[simp] theorem withSlot_withSlot : withSlot (withSlot table index slot) index slot' = withSlot table index slot' := by
  simp [withSlot]

variable {table index slot} in
theorem withSlot_of_ne {other : Fin 16} (apart : other ≠ index) :
    (withSlot table index slot).slots other = table.slots other := Function.update_of_ne apart _ _

theorem withSlot_eq_self : withSlot table index (table.slots index) = table := by
  simp [withSlot]

end Slots

@[simp] theorem wp_modifySlot {index : Fin 16} {update : LeaseSlot → LeaseSlot} {done : Unit → LeaseState → Prop}
    {failed : LeaseError → LeaseState → Prop} :
    wp (modifySlot index update) state done failed ↔
      done () ⟨withSlot state.table index (update (state.table.slots index)), state.memory⟩ := Iff.rfl

/-- The slot of a lease that was granted. -/
def grantedSlot (arena : Arena) (slot : LeaseSlot) (owner paragraphs guestSegment : UInt16) : LeaseSlot :=
  { slot with
    generation := slot.generation + 1, machineContext := machine.context, arenaIdentity := arena.identity,
    arenaGeneration := arena.generation, arenaHeadSegment := arena.headSegment, guestSegment, owner, paragraphs,
    state := leaseSlotActive }

/-- The slot of a lease that the arena refused. -/
def refusedSlot (slot : LeaseSlot) : LeaseSlot :=
  { ({ slot with generation := slot.generation + 1 } : LeaseSlot).clearIdentity with state := leaseSlotVacant }

/-- The slot chosen for a new lease. -/
structure Reserved (index : Fin 16) : Prop where
  encoding : state.table.hasValidEncoding
  reusable : (state.table.slots index).isReusable
  fresh : (state.table.slots index).generation ≠ leaseGenerationMax

/-- The arena operation behind an acquisition. -/
def allocating (owner : UInt16) (namedOwner : Option OwnerIdentity) (paragraphs : UInt16) :
    EStateM Refusal ArenaState AllocationResult :=
  match namedOwner with
  | none => Memory.allocate machine owner paragraphs
  | some named => Memory.allocateNamed machine named paragraphs

variable (guestSegment expectedOwner newOwner : UInt16)

/-- The arena operation behind a transfer. -/
def transferring (namedNewOwner : Option OwnerIdentity) (namePatch : Option OwnerNamePatch) : MemoryM Unit :=
  match namePatch, namedNewOwner with
  | some patch, _ => Memory.transferOwnerNamePatch machine guestSegment expectedOwner newOwner patch
  | none, none => Memory.transferOwner machine guestSegment expectedOwner newOwner
  | none, some named => Memory.transferNamedOwner machine guestSegment expectedOwner named

/-- The arena operation behind a prepared rebinding. -/
def preparing (namePatch : Option OwnerNamePatch) : MemoryM OwnerRebindValue :=
  match namePatch with
  | none => Memory.prepareOwnerRebind machine guestSegment expectedOwner newOwner
  | some patch => Memory.prepareOwnerNamePatchRebind machine guestSegment expectedOwner newOwner patch

/-- The public operations on a constructed table. -/
inductive LeaseCall where
  | tableInitialize
  | acquire (owner : OwnerIdentity) (paragraphs : UInt16)
  | acquireUnnamed (owner paragraphs : UInt16)
  | resolveActive (handle : UInt64) (expectedOwner : UInt16)
  | transferOwner (handle : UInt64) (expectedOwner newOwner : UInt16)
  | transferNamedOwner (handle : UInt64) (expectedOwner : UInt16) (newOwner : OwnerIdentity)
  | transferOwnerNamePatch (handle : UInt64) (expectedOwner newOwner : UInt16) (patch : OwnerNamePatch)
  | prepareOwnerRebind (handle : UInt64) (expectedOwner newOwner : UInt16)
  | prepareOwnerNamePatchRebind (handle : UInt64) (expectedOwner newOwner : UInt16) (patch : OwnerNamePatch)
  | preflightRebindPublish (plan : LeaseRebindPlan)
  | rebindPublish (plan : LeaseRebindPlan)
  | preflightPublish (handle : UInt64) (expectedOwner : UInt16)
  | publish (handle : UInt64) (expectedOwner : UInt16)
  | release (handle : UInt64) (expectedOwner : UInt16)
  | abort (handle : UInt64) (expectedOwner : UInt16)

/-- What a successful call hands back. -/
inductive LeaseReply where
  | done
  | receipt (receipt : LeaseReceipt)
  | view (view : LeaseView)
  | plan (plan : LeaseRebindPlan)

namespace LeaseCall

def perform (machine : Machine) : LeaseCall → LeaseM LeaseReply
  | tableInitialize => (fun _ => .done) <$> Lease.tableInitialize
  | acquire owner paragraphs => .receipt <$> Lease.acquire machine owner paragraphs
  | acquireUnnamed owner paragraphs => .receipt <$> Lease.acquireUnnamed machine owner paragraphs
  | resolveActive handle expectedOwner => .view <$> Lease.resolveActive machine handle expectedOwner
  | transferOwner handle expectedOwner newOwner =>
    (fun _ => .done) <$> Lease.transferOwner machine handle expectedOwner newOwner
  | transferNamedOwner handle expectedOwner newOwner =>
    (fun _ => .done) <$> Lease.transferNamedOwner machine handle expectedOwner newOwner
  | transferOwnerNamePatch handle expectedOwner newOwner patch =>
    (fun _ => .done) <$> Lease.transferOwnerNamePatch machine handle expectedOwner newOwner patch
  | prepareOwnerRebind handle expectedOwner newOwner =>
    .plan <$> Lease.prepareOwnerRebind machine handle expectedOwner newOwner
  | prepareOwnerNamePatchRebind handle expectedOwner newOwner patch =>
    .plan <$> Lease.prepareOwnerNamePatchRebind machine handle expectedOwner newOwner patch
  | preflightRebindPublish plan => (fun _ => .done) <$> Lease.preflightRebindPublish machine plan
  | rebindPublish plan => (fun _ => .done) <$> Lease.rebindPublish machine plan
  | preflightPublish handle expectedOwner => (fun _ => .done) <$> Lease.preflightPublish machine handle expectedOwner
  | publish handle expectedOwner => (fun _ => .done) <$> Lease.publish machine handle expectedOwner
  | release handle expectedOwner => (fun _ => .done) <$> Lease.release machine handle expectedOwner
  | abort handle expectedOwner => (fun _ => .done) <$> Lease.abort machine handle expectedOwner

/-- The handle that a call is addressed to. -/
def handle : LeaseCall → Option UInt64
  | tableInitialize | acquire _ _ | acquireUnnamed _ _ => none
  | resolveActive handle _ | transferOwner handle _ _ | transferNamedOwner handle _ _
  | transferOwnerNamePatch handle _ _ _ | prepareOwnerRebind handle _ _
  | prepareOwnerNamePatchRebind handle _ _ _ | preflightPublish handle _ | publish handle _
  | release handle _ | abort handle _ => some handle
  | preflightRebindPublish plan | rebindPublish plan => some plan.handle

/-- The calls that also succeed, without effect, on a lease that has ended. -/
def IsIdempotent : LeaseCall → Prop
  | publish _ _ | abort _ _ => True
  | _ => False

/-- The handle whose lease has ended once the call has succeeded. -/
def endedHandle : LeaseCall → Option UInt64
  | rebindPublish plan => some plan.handle
  | publish handle _ | release handle _ | abort handle _ => some handle
  | _ => none

end LeaseCall

/-- The handle that an acquisition returned. -/
def LeaseReply.grantedHandle : LeaseReply → Option UInt64
  | .receipt given => some given.handle
  | _ => none

/-- RELEASED, ABORTED or PUBLISHED. -/
def Terminal (slot : LeaseSlot) : Prop :=
  slot.state = leaseSlotReleased ∨ slot.state = leaseSlotAborted ∨ slot.state = leaseSlotPublished

/-- The arena operations that a call may run and leave the table as it was. -/
inductive Spares (machine : Machine) (memory : ArenaState) : ArenaState → Prop
  | idle : Spares machine memory memory
  | transferring {guestSegment expectedOwner newOwner : UInt16} {namedNewOwner : Option OwnerIdentity}
      {namePatch : Option OwnerNamePatch} {error : MemoryError} {next : ArenaState} :
      (∀ named ∈ namedNewOwner, named.pspSegment = newOwner) →
      transferring machine guestSegment expectedOwner newOwner namedNewOwner namePatch memory = .error error next →
      Spares machine memory next
  | preparing {guestSegment expectedOwner newOwner : UInt16} {namePatch : Option OwnerNamePatch} {next : ArenaState} :
      final (preparing machine guestSegment expectedOwner newOwner namePatch) memory = next → Spares machine memory next
  | freeing {guestSegment expectedOwner : UInt16} {error : MemoryError} {next : ArenaState} :
      Memory.freeOwned machine guestSegment expectedOwner memory = .error error next → Spares machine memory next

/-- All that one call may do. -/
inductive Step (machine : Machine) (state : LeaseState) (call : LeaseCall) :
    Except LeaseError LeaseReply → LeaseState → Prop
  | refused {error : LeaseError} : Step machine state call (.error error) state
  | kept {result : Except LeaseError LeaseReply} {handle : UInt64} {expectedOwner : UInt16} {memory : ArenaState} :
      call.handle = some handle → FoundActive state handle expectedOwner → Spares machine state.memory memory →
      (∀ reply, result = .ok reply → call.endedHandle = none ∧ reply.grantedHandle = none) →
      Step machine state call result ⟨state.table, memory⟩
  | repeated {handle : UInt64} {expectedOwner : UInt16} : call.endedHandle = some handle → call.IsIdempotent →
      Found state handle expectedOwner → Terminal (state.table.slots (handleSlot handle)) →
      Step machine state call (.ok .done) state
  | granted {owner paragraphs : UInt16} {namedOwner : Option OwnerIdentity} {receipt : LeaseReceipt} {index : Fin 16}
      {allocation : AllocationResult} {memory : ArenaState} : call.handle = none → owner ≠ 0 →
      (∀ named ∈ namedOwner, named.pspSegment = owner) → Reserved state index →
      receipt.handle = makeHandle state.table.lifetimeIdentity index ((state.table.slots index).generation + 1) →
      receipt.guestSegment = allocation.blockSegment →
      allocating machine owner namedOwner paragraphs state.memory = .ok allocation memory →
      Step machine state call (.ok (.receipt receipt)) ⟨withSlot state.table index (grantedSlot machine
        state.memory.arena (state.table.slots index) owner paragraphs receipt.guestSegment), memory⟩
  | denied {owner paragraphs : UInt16} {namedOwner : Option OwnerIdentity} {index : Fin 16} {error : LeaseError}
      {refusal : Refusal} {memory : ArenaState} : call.handle = none → owner ≠ 0 →
      (∀ named ∈ namedOwner, named.pspSegment = owner) → Reserved state index →
      allocating machine owner namedOwner paragraphs state.memory = .error refusal memory →
      Step machine state call (.error error)
        ⟨withSlot state.table index (refusedSlot (state.table.slots index)), memory⟩
  | transferred {handle : UInt64} {expectedOwner newOwner : UInt16} {namedNewOwner : Option OwnerIdentity}
      {namePatch : Option OwnerNamePatch} {memory : ArenaState} : call.handle = some handle → call.endedHandle = none →
      FoundActive state handle expectedOwner → (∀ named ∈ namedNewOwner, named.pspSegment = newOwner) →
      transferring machine (state.table.slots (handleSlot handle)).guestSegment expectedOwner newOwner namedNewOwner
        namePatch state.memory = .ok () memory →
      Step machine state call (.ok .done) ⟨withSlot state.table (handleSlot handle)
        { state.table.slots (handleSlot handle) with owner := newOwner }, memory⟩
  | published {handle : UInt64} {expectedOwner owner : UInt16} :
      (call = .publish handle expectedOwner ∨ ∃ plan, call = .rebindPublish plan ∧ plan.handle = handle) →
      FoundActive state handle expectedOwner →
      Step machine state call (.ok .done) ⟨withSlot state.table (handleSlot handle)
        { state.table.slots (handleSlot handle) with owner, state := leaseSlotPublished }, state.memory⟩
  | finished {handle : UInt64} {expectedOwner : UInt16} {aborting : Bool} {memory : ArenaState} :
      call.handle = some handle → call.endedHandle = some handle → FoundActive state handle expectedOwner →
      Memory.freeOwned machine (state.table.slots (handleSlot handle)).guestSegment expectedOwner state.memory =
        .ok () memory →
      Step machine state call (.ok .done) ⟨withSlot state.table (handleSlot handle)
        { state.table.slots (handleSlot handle) with
          state := if aborting then leaseSlotAborted else leaseSlotReleased }, memory⟩

/-- An action of a call ends in a step of it. -/
def Takes (machine : Machine) (state : LeaseState) (call : LeaseCall) {α : Type} (action : LeaseM α)
    (reply : α → LeaseReply) : Prop :=
  wp action state (fun value next => Step machine state call (.ok (reply value)) next)
    (fun error next => Step machine state call (.error error) next)

section Contracts

variable {machine state} {call : LeaseCall}

theorem Takes.guarded {α : Type} {condition : Prop} [Decidable condition] {error : LeaseError} {action : LeaseM α}
    {reply : α → LeaseReply} (takes : ¬ condition → Takes machine state call action reply) :
    Takes machine state call (do failWhen condition error; action) reply := by
  simp only [Takes, wp_rules]
  exact ⟨fun _ => .refused, takes⟩

variable {handle : UInt64}

/-- A lookup that leaves the manager as it is hands its slot to the rest of the call. -/
theorem Takes.looked {α : Type} {find : LeaseM (Fin 16)} {rest : Fin 16 → LeaseM α} {reply : α → LeaseReply}
    {Holds : Prop} (lookup : wp find state (fun slot next => next = state ∧ slot = handleSlot handle ∧ Holds)
      fun _ next => next = state) (found : Holds → Takes machine state call (rest (handleSlot handle)) reply) :
    Takes machine state call (find >>= rest) reply := by
  simp only [Takes, wp_bind]
  apply wp_mono lookup
  · rintro _ _ ⟨rfl, rfl, active⟩
    exact found active
  · rintro _ _ rfl
    exact .refused

/-- An acquisition advances one reusable slot to its next generation, whatever the arena answers. -/
theorem acquireCommon_takes (unaddressed : call.handle = none) (owner : UInt16) (namedOwner : Option OwnerIdentity)
    (paragraphs : UInt16) :
    Takes machine state call (acquireCommon machine owner namedOwner paragraphs) .receipt := by
  simp only [Takes, acquireCommon, wp_all, Step.refused]
  intro accepted _
  simp only [not_or, not_exists, not_and, not_not] at accepted
  have real := accepted.2.2.1
  have named := accepted.2.2.2.2.2.2
  simp only [reserveSlot, wp_rules]
  split
  next => simp only [wp_ite, wp_throw, Step.refused, implies_true, and_self]
  next index found =>
    have chosen := List.find?_some found
    simp only [decide_eq_true_eq] at chosen
    have reserved : Reserved state index := ⟨accepted.1, chosen.1, chosen.2⟩
    simp only [wp_rules, wp_modifySlot, onArena]
    change wp (allocating machine owner namedOwner paragraphs) state.memory _ _
    apply wp_intro
    · intro allocation memory ran
      simp only [withSlot_self, withSlot_withSlot]
      exact .granted unaddressed real named reserved rfl rfl ran
    · intro refusal memory ran
      simp only [withSlot_self, withSlot_withSlot]
      exact .denied unaddressed real named reserved ran

/-- An action on an ACTIVE lease that reads the arena at most. -/
theorem FoundActive.looks {result : Except LeaseError LeaseReply} {expectedOwner : UInt16}
    (found : FoundActive state handle expectedOwner) (addressed : call.handle = some handle)
    (silent : ∀ reply, result = .ok reply → call.endedHandle = none ∧ reply.grantedHandle = none) :
    Step machine state call result state := .kept addressed found .idle silent

variable (addressed : call.handle = some handle)
include addressed

theorem transferOwnerCommon_takes
    (open_ : call.endedHandle = none) (expectedOwner newOwner : UInt16) (namedNewOwner : Option OwnerIdentity)
    (namePatch : Option OwnerNamePatch) : Takes machine state call
      (transferOwnerCommon machine handle expectedOwner newOwner namedNewOwner namePatch) fun _ => .done := by
  apply Takes.guarded
  intro accepted
  simp only [not_or, not_exists, not_and, not_not] at accepted
  apply Takes.looked findActiveSlot_spec
  intro found
  simp only [Takes, wp_rules, onArena, wp_modifySlot]
  change wp (transferring machine _ expectedOwner newOwner namedNewOwner namePatch) state.memory _ _
  apply wp_intro
  · exact fun _ memory ran => .transferred addressed open_ found accepted.2.2 ran
  · exact fun error memory ran => .kept addressed found (.transferring accepted.2.2 ran) (by simp)

theorem prepareRebindCommon_takes
    (open_ : call.endedHandle = none) (expectedOwner newOwner : UInt16) (namePatch : Option OwnerNamePatch) :
    Takes machine state call (prepareRebindCommon machine handle expectedOwner newOwner namePatch) .plan := by
  apply Takes.guarded
  intro _
  apply Takes.looked findActiveSlot_spec
  intro found
  simp only [Takes, wp_rules, onArena]
  change wp (preparing machine _ expectedOwner newOwner namePatch) state.memory _ _
  have spares : ∀ memory, final (preparing machine (state.table.slots (handleSlot handle)).guestSegment expectedOwner
      newOwner namePatch) state.memory = memory → Spares machine state.memory memory := fun _ => .preparing
  apply wp_intro
  · intro value memory ran
    have spared := spares memory (by simp only [final, ran])
    constructor
    · exact fun _ => .kept addressed found spared (by simp)
    · exact fun _ => .kept addressed found spared fun _ same => ⟨open_, Except.ok.inj same ▸ rfl⟩
  · intro error memory ran
    exact .kept addressed found (spares memory (by simp only [final, ran])) (by simp)

/-- The end of a lease: its block goes back to the arena, unless it ended before. -/
theorem finishActiveLease_takes (ends : call.endedHandle = some handle) (expectedOwner : UInt16) {aborting : Bool}
    (idempotent : aborting → call.IsIdempotent) :
    Takes machine state call (finishActiveLease machine handle expectedOwner aborting) fun _ => .done := by
  apply Takes.looked findSlot_spec
  intro found
  simp only [Takes, wp_all, wp_ite, wp_modifySlot, onArena, Step.refused]
  refine ⟨fun earlier => .repeated ends (idempotent earlier.1) found (earlier.2.elim (.inr ∘ .inl) .inl), fun _ active => ?_⟩
  have active : FoundActive state handle expectedOwner := ⟨found, not_not.mp active⟩
  apply wp_intro
  · intro _ memory ran
    simp only [withSlot_self, withSlot_withSlot]
    exact .finished addressed ends active ran
  · intro error memory ran
    simp only [withSlot_self, withSlot_withSlot]
    have same : withSlot state.table (handleSlot handle)
        { state.table.slots (handleSlot handle) with state := leaseSlotActive } = state.table := by
      rw [← active.active]
      exact withSlot_eq_self _ _
    rw [same]
    exact .kept addressed active (.freeing ran) (by simp)

omit addressed

theorem preflightRebindPublish_spec (plan : LeaseRebindPlan) :
    wp (preflightRebindPublish machine plan) state
      (fun _ next => next = state ∧ FoundActive state plan.handle plan.value.expectedOwner)
      (fun _ next => next = state) := by
  simp only [preflightRebindPublish, wp_all]
  intro _
  refine wp_mono_done findSlot_spec ?_
  rintro _ state ⟨rfl, rfl, found⟩
  simp only [implies_true, true_and]
  intro _ active _ _ _
  exact ⟨found, not_not.mp active⟩

/-- Every call takes a step. -/
theorem perform_step (initialized : state.table.initialized = 1) (call : LeaseCall) :
    wp (call.perform machine) state (fun reply next => Step machine state call (.ok reply) next)
      (fun error next => Step machine state call (.error error) next) := by
  cases call <;> simp only [LeaseCall.perform, wp_map]
  case tableInitialize =>
    simp only [tableInitialize, wp_rules, initialized]
    exact ⟨fun _ => .refused, fun _ => ⟨fun _ => .refused, fun zero => (zero (by decide)).elim⟩⟩
  case acquire owner paragraphs => exact acquireCommon_takes rfl _ _ _
  case acquireUnnamed owner paragraphs => exact acquireCommon_takes rfl _ _ _
  case resolveActive handle expectedOwner =>
    apply Takes.looked findActiveSlot_spec
    exact fun found => found.looks rfl fun _ same => ⟨rfl, Except.ok.inj same ▸ rfl⟩
  case transferOwner handle expectedOwner newOwner => exact transferOwnerCommon_takes rfl rfl _ _ _ _
  case transferNamedOwner handle expectedOwner newOwner =>
    exact Takes.guarded fun _ => transferOwnerCommon_takes rfl rfl _ _ _ _
  case transferOwnerNamePatch handle expectedOwner newOwner patch =>
    exact Takes.guarded fun _ => transferOwnerCommon_takes rfl rfl _ _ _ _
  case prepareOwnerRebind handle expectedOwner newOwner => exact prepareRebindCommon_takes rfl rfl _ _ _
  case prepareOwnerNamePatchRebind handle expectedOwner newOwner patch =>
    exact Takes.guarded fun _ => prepareRebindCommon_takes rfl rfl _ _ _
  case preflightRebindPublish plan =>
    apply wp_mono (preflightRebindPublish_spec plan)
    · rintro _ _ ⟨rfl, found⟩
      exact found.looks rfl fun _ same => ⟨rfl, Except.ok.inj same ▸ rfl⟩
    · rintro _ _ rfl
      exact .refused
  case rebindPublish plan =>
    simp only [rebindPublish, wp_bind]
    apply wp_mono (preflightRebindPublish_spec plan)
    · rintro _ state ⟨rfl, found⟩
      apply wp_mono findSlot_spec
      · rintro _ _ ⟨rfl, rfl, _⟩
        exact .published (.inr ⟨plan, rfl, rfl⟩) found
      · rintro _ _ rfl
        exact .refused
    · rintro _ _ rfl
      exact .refused
  case preflightPublish handle expectedOwner =>
    apply Takes.looked findSlot_spec
    intro found
    simp only [Takes, wp_all, Step.refused]
    intro _ active
    exact FoundActive.looks ⟨found, not_not.mp active⟩ rfl fun _ same => ⟨rfl, Except.ok.inj same ▸ rfl⟩
  case publish handle expectedOwner =>
    apply Takes.looked findSlot_spec
    intro found
    simp only [Takes, wp_all, wp_ite, wp_modifySlot, Step.refused]
    intro _
    constructor
    · exact fun published => .repeated rfl trivial found (.inr (.inr published))
    · exact fun _ active => .published (.inl rfl) ⟨found, not_not.mp active⟩
  case release handle expectedOwner => exact finishActiveLease_takes rfl rfl _ (by simp)
  case abort handle expectedOwner => exact finishActiveLease_takes rfl rfl _ fun _ => trivial

end Contracts

end DosC32.Lease
