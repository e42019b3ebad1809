import DosC32.Model.LegacyPic

/-! # Priorities, requests and acknowledges of the controller pair

The search for the highest priority is characterised by ranks, from which it follows that more
requests never make a controller less eligible. A claim therefore stays valid while requests are
added, and committing it acknowledges exactly the levels it names.
-/

namespace DosC32

open Bitmap List PicState

namespace PicState

variable (priorityLowest : UInt8)

theorem candidate_lt (offset : ℕ) : candidate priorityLowest offset < 8 := Nat.mod_lt _ (by decide)

theorem priorityRank_candidate {offset : ℕ} (low : 1 ≤ offset) (high : offset ≤ 8) :
    priorityRank priorityLowest (candidate priorityLowest offset) = offset - 1 := by
  simp only [priorityRank, candidate]
  omega

theorem candidate_priorityRank {level : ℕ} (bound : level < 8) :
    candidate priorityLowest (priorityRank priorityLowest level + 1) = level := by
  simp only [priorityRank, candidate]
  omega

theorem priorityRank_lt (level : ℕ) : priorityRank priorityLowest level < 8 := Nat.mod_lt _ (by decide)

variable {priorityLowest} {bits : BitVec 8} {level : ℕ}

theorem highestPriorityLevel_eq_none :
    highestPriorityLevel bits priorityLowest = none ↔ ∀ level < 8, test bits level = false := by
  simp only [highestPriorityLevel, Option.map_eq_none_iff, find?_eq_none, mem_range'_1, Bool.not_eq_true]
  constructor
  · intro absent level bound
    have here := absent (priorityRank priorityLowest level + 1)
      ⟨by omega, by have := priorityRank_lt priorityLowest level; omega⟩
    rwa [candidate_priorityRank priorityLowest bound] at here
  · intro absent offset _
    exact absent _ (candidate_lt priorityLowest offset)

/-- The level found is present and no present level ranks before it. -/
theorem highestPriorityLevel_spec (found : highestPriorityLevel bits priorityLowest = some level) :
    level < 8 ∧ test bits level ∧
      ∀ other < 8, test bits other → priorityRank priorityLowest level ≤ priorityRank priorityLowest other := by
  simp only [highestPriorityLevel, Option.map_eq_some_iff, find?_range'_eq_some, mem_range'_1] at found
  obtain ⟨offset, ⟨present, inside, earlier⟩, rfl⟩ := found
  refine ⟨candidate_lt _ _, present, fun other bound here => ?_⟩
  rw [priorityRank_candidate priorityLowest inside.1 (by omega)]
  by_contra less
  have absent := earlier (priorityRank priorityLowest other + 1) (by omega) (by omega)
  rw [candidate_priorityRank priorityLowest bound, here] at absent
  cases absent

variable (pic : PicState)

/-- A controller is eligible when some unmasked request ranks before all levels that block it. -/
theorem nextEligibleLevel_isSome :
    pic.nextEligibleLevel.isSome ↔ ∃ level < 8, test pic.pending level ∧ ∀ blocking < 8,
      test pic.effectiveIsr blocking →
        priorityRank pic.priorityLowest level < priorityRank pic.priorityLowest blocking := by
  unfold nextEligibleLevel
  split
  next none =>
    rw [highestPriorityLevel_eq_none] at none
    constructor
    · intro impossible
      cases impossible
    · rintro ⟨level, bound, present, _⟩
      rw [none level bound] at present
      cases present
  next level found =>
    obtain ⟨bound, present, first⟩ := highestPriorityLevel_spec found
    split
    next none =>
      rw [highestPriorityLevel_eq_none] at none
      refine iff_of_true rfl ⟨level, bound, present, fun blocking inside blocks => ?_⟩
      rw [none blocking inside] at blocks
      cases blocks
    next blocker found' =>
      obtain ⟨bound', present', first'⟩ := highestPriorityLevel_spec found'
      split
      next before =>
        exact iff_of_true rfl ⟨level, bound, present, fun blocking inside blocks =>
          Nat.lt_of_lt_of_le before (first' blocking inside blocks)⟩
      next notBefore =>
        refine iff_of_false (by simp) ?_
        rintro ⟨other, inside, requested, unblocked⟩
        exact notBefore (Nat.lt_of_le_of_lt (first other inside requested) (unblocked blocker bound' present'))

/-- The level chosen is requested. -/
theorem nextEligibleLevel_spec (eligible : pic.nextEligibleLevel = some level) :
    level < 8 ∧ test pic.interruptRequest level := by
  have found : highestPriorityLevel pic.pending pic.priorityLowest = some level := by
    unfold nextEligibleLevel at eligible
    split at eligible
    · cases eligible
    next found =>
      split at eligible
      · rw [found, eligible]
      · split at eligible
        · rw [found, eligible]
        · cases eligible
  obtain ⟨bound, present, _⟩ := highestPriorityLevel_spec found
  refine ⟨bound, ?_⟩
  rw [test_eq_getLsbD _ bound] at present ⊢
  simp only [pending, BitVec.getLsbD_and, Bool.and_eq_true] at present
  exact present.1

end PicState

/-- A claim with its token drawn. -/
def InterruptClaim.withToken (claim : InterruptClaim) (token : ℕ) : InterruptClaim :=
  { claim with deliveryToken := token }

namespace PicPair

/-- The request line of an IRQ number. -/
def requested (pics : PicPair) (irq : ℕ) : Bool :=
  if irq < 8 then test pics.primary.interruptRequest irq
  else test pics.secondary.interruptRequest (irq - 8)

theorem requested_primary (pics : PicPair) {level : ℕ} (bound : level < 8) :
    pics.requested level = test pics.primary.interruptRequest level := if_pos bound

@[simp] theorem requested_secondary (pics : PicPair) (level : ℕ) :
    pics.requested (8 + level) = test pics.secondary.interruptRequest level := by
  simp [requested]

/-- Two controllers differ at most in their requests. -/
def SameButRequests (before after : PicState) : Prop :=
  after = { before with interruptRequest := after.interruptRequest }

/-- Requests were added, and the derived cascade request may have changed. -/
structure Grown (before after : PicPair) : Prop where
  primary : SameButRequests before.primary after.primary
  secondary : SameButRequests before.secondary after.secondary
  requests : ∀ irq < 16, before.cascadeLevel ≠ some irq → before.requested irq → after.requested irq

variable {pics before middle after : PicPair} {level irq : ℕ}

theorem cascadeLevel_lt (isLevel : pics.cascadeLevel = some level) : level < 8 := by
  unfold cascadeLevel at isLevel
  split at isLevel
  · cases isLevel
  · simp only at isLevel
    split at isLevel
    · cases isLevel
    · cases isLevel
      exact Nat.mod_lt _ (by decide)

theorem cascadeLevel_ne_secondary (level : ℕ) : pics.cascadeLevel ≠ some (8 + level) := fun isLevel =>
  absurd (cascadeLevel_lt isLevel) (by omega)

theorem cascadeLevel_congr (primary : SameButRequests before.primary after.primary)
    (secondary : SameButRequests before.secondary after.secondary) : after.cascadeLevel = before.cascadeLevel := by
  unfold cascadeLevel
  rw [primary, secondary]

theorem SameButRequests.trans {first second third : PicState} (left : SameButRequests first second)
    (right : SameButRequests second third) : SameButRequests first third := by
  unfold SameButRequests at *
  rw [right, left]

theorem Grown.trans (first : Grown before middle) (second : Grown middle after) : Grown before after where
  primary := first.primary.trans second.primary
  secondary := first.secondary.trans second.secondary
  requests := by
    intro irq bound elsewhere here
    refine second.requests irq bound ?_ (first.requests irq bound elsewhere here)
    rwa [cascadeLevel_congr first.primary first.secondary]

/-- Added requests of the secondary controller leave it eligible. -/
theorem Grown.eligible (grown : Grown before after) (eligible : before.secondary.nextEligibleLevel.isSome) :
    after.secondary.nextEligibleLevel.isSome := by
  rw [nextEligibleLevel_isSome] at eligible ⊢
  obtain ⟨level, bound, present, unblocked⟩ := eligible
  have same := grown.secondary
  have blocking : after.secondary.effectiveIsr = before.secondary.effectiveIsr := by rw [same]; rfl
  have lowest : after.secondary.priorityLowest = before.secondary.priorityLowest := by rw [same]
  have mask : after.secondary.interruptMask = before.secondary.interruptMask := by rw [same]
  refine ⟨level, bound, ?_, by rwa [blocking, lowest]⟩
  rw [test_eq_getLsbD _ bound] at present ⊢
  simp only [pending, BitVec.getLsbD_and, BitVec.getLsbD_not, mask, Bool.and_eq_true] at present ⊢
  refine ⟨?_, present.2⟩
  have more := grown.requests (8 + level) (by omega) (cascadeLevel_ne_secondary level)
  rw [requested_secondary, requested_secondary, test_eq_getLsbD _ bound, test_eq_getLsbD _ bound] at more
  exact more present.1

/-- Refreshing changes no request line but the cascade. -/
theorem requested_refresh (elsewhere : pics.cascadeLevel ≠ some irq) :
    pics.refreshCascadeRequest.requested irq = pics.requested irq := by
  unfold refreshCascadeRequest
  split
  · rfl
  next configured isLevel =>
    have inside := cascadeLevel_lt isLevel
    have different : irq ≠ configured := fun same => elsewhere (same ▸ isLevel)
    by_cases low : irq < 8
    · split <;>
        simp [requested, low, withRequests, test_insert, test_erase, inside, different]
    · split <;> simp [requested, low, withRequests]

/-- The cascade is requested exactly while the secondary controller is eligible. -/
theorem requested_cascade (isLevel : pics.cascadeLevel = some level) :
    pics.refreshCascadeRequest.requested level = pics.secondary.nextEligibleLevel.isSome := by
  have inside := cascadeLevel_lt isLevel
  unfold refreshCascadeRequest
  rw [isLevel]
  dsimp only
  split
  next eligible => simp [requested, inside, withRequests, test_insert, eligible]
  next idle =>
    rw [Bool.not_eq_true] at idle
    simp [requested, inside, withRequests, test_erase, idle]

variable (pics : PicPair)

theorem Grown.refl : Grown pics pics := ⟨rfl, rfl, fun _ _ _ => id⟩

theorem refreshCascadeRequest_secondary : pics.refreshCascadeRequest.secondary = pics.secondary := by
  unfold refreshCascadeRequest
  split
  · rfl
  · split <;> rfl

theorem refreshCascadeRequest_primary : SameButRequests pics.primary pics.refreshCascadeRequest.primary := by
  unfold refreshCascadeRequest
  split
  · rfl
  · split <;> rfl

@[simp] theorem cascadeLevel_refresh : pics.refreshCascadeRequest.cascadeLevel = pics.cascadeLevel :=
  cascadeLevel_congr (refreshCascadeRequest_primary pics) (by rw [refreshCascadeRequest_secondary]; rfl)

theorem refreshCascadeRequest_grown : Grown pics pics.refreshCascadeRequest where
  primary := refreshCascadeRequest_primary pics
  secondary := by rw [refreshCascadeRequest_secondary]; rfl
  requests := fun _ _ elsewhere here => (requested_refresh elsewhere).trans here

/-- A request adds itself. -/
theorem requestIrq_grown (irq : ℕ) : Grown pics (pics.requestIrq irq).2 := by
  unfold requestIrq
  split
  · exact .refl pics
  next known =>
    split
    next low =>
      refine ⟨rfl, rfl, fun other bound elsewhere here => ?_⟩
      by_cases low' : other < 8
      · simp only [requested, low', if_true, withRequests] at here ⊢
        rw [test_insert _ low low', here, Bool.or_true]
      · simpa only [requested, low', if_false, withRequests] using here
    next high =>
      have level : irq - 8 < 8 := by omega
      refine Grown.trans ?_ (refreshCascadeRequest_grown _)
      refine ⟨rfl, rfl, fun other bound elsewhere here => ?_⟩
      by_cases low' : other < 8
      · simpa only [requested, low', if_true] using here
      · have level' : other - 8 < 8 := by omega
        simp only [requested, low', if_false] at here ⊢
        rw [test_insert _ level level', here, Bool.or_true]

section Tokens

variable (generation level token : ℕ)

@[simp] theorem irq_withToken_direct : ((pics.directClaim generation level).withToken token).irq = level := rfl

@[simp] theorem irq_withToken_cascaded :
    ((pics.cascadedClaim generation level).withToken token).irq = 8 + level := rfl

@[simp] theorem cascaded_withToken_direct :
    ((pics.directClaim generation level).withToken token).cascaded = false := rfl

@[simp] theorem cascaded_withToken_cascaded :
    ((pics.cascadedClaim generation level).withToken token).cascaded = true := rfl

end Tokens

variable {pics}

/-- What a claim rests on: a request that does not depend on the cascade, or one of the secondary
controller that reaches the primary one. -/
inductive Claimable (pics : PicPair) (generation token : ℕ) : InterruptClaim → Prop
  | direct {level : ℕ} : level < 8 → pics.cascadeLevel ≠ some level → pics.requested level →
      Claimable pics generation token ((pics.directClaim generation level).withToken token)
  | cascaded {configured level : ℕ} : level < 8 → pics.cascadeLevel = some configured → pics.requested (8 + level) →
      pics.secondary.nextEligibleLevel.isSome →
      Claimable pics generation token ((pics.cascadedClaim generation level).withToken token)

/-- A prepared claim can be made. -/
theorem prepareInterrupt_claimable {generation : ℕ} {claim : InterruptClaim} (token : ℕ)
    (prepared : pics.prepareInterrupt generation = some claim) :
    Claimable pics generation token (claim.withToken token) := by
  have same := refreshCascadeRequest_primary pics
  have sampled := refreshCascadeRequest_secondary pics
  unfold prepareInterrupt at prepared
  simp only at prepared
  rw [sampled, cascadeLevel_refresh] at prepared
  have isDirect : ∀ level, pics.refreshCascadeRequest.primary.nextEligibleLevel = some level →
      pics.cascadeLevel ≠ some level →
      Claimable pics generation token
        ((pics.refreshCascadeRequest.directClaim generation level).withToken token) := by
    intro level eligible elsewhere
    obtain ⟨bound, here⟩ := nextEligibleLevel_spec _ eligible
    have requests : pics.requested level := by
      rw [← requested_refresh elsewhere]
      rwa [requested_primary _ bound]
    have claim : pics.refreshCascadeRequest.directClaim generation level = pics.directClaim generation level := by
      unfold directClaim
      rw [same]
    rw [claim]
    exact .direct bound elsewhere requests
  split at prepared
  · cases prepared
  next primaryLevel eligible =>
    split at prepared
    next secondaryLevel secondary =>
      split at prepared
      next isCascade =>
        cases prepared
        obtain ⟨bound, here⟩ := nextEligibleLevel_spec _ secondary
        have claim : pics.refreshCascadeRequest.cascadedClaim generation secondaryLevel =
            pics.cascadedClaim generation secondaryLevel := by
          unfold cascadedClaim
          rw [sampled, same]
        rw [claim]
        exact .cascaded bound isCascade (by rwa [requested_secondary]) (by rw [secondary]; rfl)
      next notCascade =>
        cases prepared
        exact isDirect primaryLevel eligible notCascade
    next idle =>
      cases prepared
      refine isDirect primaryLevel eligible fun isCascade => ?_
      -- The refresh has withdrawn the cascade request of an idle secondary controller.
      obtain ⟨bound, here⟩ := nextEligibleLevel_spec _ eligible
      have derived := requested_cascade isCascade
      rw [requested_primary _ bound, here, idle] at derived
      cases derived

theorem Claimable.of_grown {generation token : ℕ} {claim : InterruptClaim} (grown : Grown before after)
    (claimable : Claimable before generation token claim) : Claimable after generation token claim := by
  have level := cascadeLevel_congr grown.primary grown.secondary
  cases claimable with
  | @direct line bound elsewhere here =>
    have claim : before.directClaim generation line = after.directClaim generation line := by
      unfold directClaim
      rw [grown.primary]
    rw [claim]
    exact .direct bound (level ▸ elsewhere) (grown.requests line (by omega) elsewhere here)
  | @cascaded configured line bound isCascade here eligible =>
    have claim : before.cascadedClaim generation line = after.cascadedClaim generation line := by
      unfold cascadedClaim
      rw [grown.primary, grown.secondary]
    rw [claim]
    exact .cascaded bound (level ▸ isCascade) (grown.requests _ (by omega) (cascadeLevel_ne_secondary line) here)
      (grown.eligible eligible)

theorem Claimable.reserved {generation token : ℕ} {claim : InterruptClaim}
    (claimable : Claimable pics generation token claim) : claim.reserved = [0, 0, 0] := by
  cases claimable <;> rfl

/-- The levels that a claim acknowledges at the primary controller. -/
def acknowledgesPrimary (pics : PicPair) (claim : InterruptClaim) (level : ℕ) : Prop :=
  if claim.cascaded then pics.cascadeLevel = some level else level = claim.irq

/-- The levels that a claim acknowledges at the secondary controller. -/
def acknowledgesSecondary (claim : InterruptClaim) (level : ℕ) : Prop := claim.cascaded = true ∧ 8 + level = claim.irq

/-- The registers that an acknowledge leaves alone. -/
def SameProgramming (before after : PicState) : Prop :=
  after = { before with
    interruptRequest := after.interruptRequest, inService := after.inService, priorityLowest := after.priorityLowest }

/-- The effect of a committed claim on the pair. -/
structure Acknowledged (before after : PicPair) (claim : InterruptClaim) : Prop where
  wasRequested : before.requested claim.irq
  requests : ∀ irq < 16, before.cascadeLevel ≠ some irq →
    (after.requested irq ↔ before.requested irq ∧ irq ≠ claim.irq)
  cascade : ∀ level, before.cascadeLevel = some level →
    after.requested level = after.secondary.nextEligibleLevel.isSome
  primaryService : ∀ level < 8, test after.primary.inService level ↔
    test before.primary.inService level ∨ before.primary.autoEoi = false ∧ before.acknowledgesPrimary claim level
  secondaryService : ∀ level < 8, test after.secondary.inService level ↔
    test before.secondary.inService level ∨ before.secondary.autoEoi = false ∧ acknowledgesSecondary claim level
  primary : SameProgramming before.primary after.primary
  secondary : SameProgramming before.secondary after.secondary

end PicPair

namespace PicState

variable (pic : PicState) {level other : ℕ}

@[simp] theorem acknowledgeLevel_request :
    (pic.acknowledgeLevel level).interruptRequest = erase pic.interruptRequest level := by
  unfold acknowledgeLevel
  dsimp only
  split
  · rfl
  · split <;> rfl

theorem acknowledgeLevel_service (bound : level < 8) (bound' : other < 8) :
    test (pic.acknowledgeLevel level).inService other ↔
      test pic.inService other ∨ pic.autoEoi = false ∧ other = level := by
  unfold acknowledgeLevel
  dsimp only
  split
  next manual =>
    simp only [test_insert _ bound bound', Bool.or_eq_true, decide_eq_true_eq, manual, true_and]
    exact or_comm
  next automatic =>
    split <;> simp [automatic]

theorem acknowledgeLevel_programming (level : ℕ) : PicPair.SameProgramming pic (pic.acknowledgeLevel level) := by
  unfold acknowledgeLevel
  dsimp only
  split
  · rfl
  · split <;> rfl

end PicState

namespace PicPair

variable {before after : PicPair} {claim : InterruptClaim} {level irq : ℕ}

/-- The refresh that ends a commit gives the effect of the acknowledge itself. -/
theorem Acknowledged.of_refresh {acked : PicPair} (wasRequested : before.requested claim.irq) (bound : level < 8)
    (isAcked : acked.primary = before.refreshCascadeRequest.primary.acknowledgeLevel level)
    (secondary : SameProgramming before.secondary acked.secondary)
    (requests : ∀ irq < 16, before.cascadeLevel ≠ some irq →
      (acked.requested irq ↔ before.requested irq ∧ irq ≠ claim.irq))
    (primaryService : ∀ other, before.acknowledgesPrimary claim other ↔ other = level)
    (secondaryService : ∀ level < 8, test acked.secondary.inService level ↔
      test before.secondary.inService level ∨ before.secondary.autoEoi = false ∧ acknowledgesSecondary claim level) :
    Acknowledged before acked.refreshCascadeRequest claim := by
  have primary : SameProgramming before.primary acked.primary := by
    have programming := acknowledgeLevel_programming before.refreshCascadeRequest.primary level
    unfold SameProgramming at programming ⊢
    rw [isAcked, programming, refreshCascadeRequest_primary before]
  have kept := refreshCascadeRequest_primary acked
  have kept' := refreshCascadeRequest_secondary acked
  have service : acked.refreshCascadeRequest.primary.inService = acked.primary.inService := by rw [kept]
  have cascade : acked.cascadeLevel = before.cascadeLevel := by
    unfold cascadeLevel
    rw [primary, secondary]
  constructor
  · exact wasRequested
  · intro irq bound elsewhere
    rw [requested_refresh (by rwa [cascade])]
    exact requests irq bound elsewhere
  · intro level isLevel
    rw [kept', requested_cascade (by rwa [cascade])]
  · intro other inside
    rw [service, isAcked, acknowledgeLevel_service _ bound inside, refreshCascadeRequest_primary before,
      primaryService]
  · rw [kept']
    exact secondaryService
  · unfold SameProgramming at primary ⊢
    rw [kept, primary]
  · rw [kept']
    exact secondary

/-- A committed claim of the primary controller. -/
theorem acknowledged_direct {generation token : ℕ} (bound : level < 8) (elsewhere : before.cascadeLevel ≠ some level)
    (here : before.requested level) :
    ∃ after, before.commitInterrupt generation ((before.directClaim generation level).withToken token) = some after ∧
      Acknowledged before after ((before.directClaim generation level).withToken token) := by
  have kept := refreshCascadeRequest_primary before
  have refreshed : before.refreshCascadeRequest.requested level := by rwa [requested_refresh elsewhere]
  have claimMatches : before.refreshCascadeRequest.directClaimMatches
      ((before.directClaim generation level).withToken token) := by
    refine ⟨rfl, bound, ?_, ?_, rfl, ?_⟩
    · rw [kept]
      rfl
    · rw [kept]
      rfl
    · rw [irq_withToken_direct]
      rwa [← requested_primary _ bound]
  have same : ((before.directClaim generation level).withToken token).chipsetGeneration = generation := rfl
  refine ⟨refreshCascadeRequest ⟨before.refreshCascadeRequest.primary.acknowledgeLevel level, before.secondary⟩, ?_, ?_⟩
  · unfold commitInterrupt
    rw [if_neg (not_not.mpr same)]
    simp only [claimMatches, if_true, refreshCascadeRequest_secondary, irq_withToken_direct]
  apply Acknowledged.of_refresh here bound rfl
  · rfl
  · intro irq inside different
    rw [← requested_refresh different]
    by_cases low : irq < 8
    · simp [requested, low, test_erase _ bound low, and_comm]
    · have apart : irq ≠ level := by omega
      simp [requested, low, apart, refreshCascadeRequest_secondary]
  · simp [acknowledgesPrimary]
  · simp [acknowledgesSecondary]

/-- A committed claim of the secondary controller. -/
theorem acknowledged_cascaded {generation token configured : ℕ} (bound : level < 8)
    (isCascade : before.cascadeLevel = some configured) (here : before.requested (8 + level))
    (eligible : before.secondary.nextEligibleLevel.isSome) :
    ∃ after, before.commitInterrupt generation ((before.cascadedClaim generation level).withToken token) = some after ∧
      Acknowledged before after ((before.cascadedClaim generation level).withToken token) := by
  have kept := refreshCascadeRequest_primary before
  have kept' := refreshCascadeRequest_secondary before
  have inside := cascadeLevel_lt isCascade
  have sameLevel : (8 + level) - 8 = level := Nat.add_sub_cancel_left 8 level
  have raised := requested_cascade isCascade
  rw [eligible] at raised
  have claimMatches : before.refreshCascadeRequest.cascadedClaimMatches
      ((before.cascadedClaim generation level).withToken token) configured := by
    unfold cascadedClaimMatches
    rw [kept', irq_withToken_cascaded, sameLevel]
    refine ⟨rfl, by omega, by omega, rfl, ?_, rfl, by rwa [← requested_primary _ inside], by simpa using here⟩
    rw [kept]
    rfl
  have same : ((before.cascadedClaim generation level).withToken token).chipsetGeneration = generation := rfl
  have notDirect : ¬ before.refreshCascadeRequest.directClaimMatches
      ((before.cascadedClaim generation level).withToken token) := by
    rintro ⟨direct, -⟩
    cases direct
  refine ⟨refreshCascadeRequest ⟨before.refreshCascadeRequest.primary.acknowledgeLevel configured,
    before.secondary.acknowledgeLevel level⟩, ?_, ?_⟩
  · unfold commitInterrupt
    rw [if_neg (not_not.mpr same)]
    simp only [notDirect, if_false, cascadeLevel_refresh, isCascade, claimMatches, if_true, kept',
      irq_withToken_cascaded, sameLevel]
  apply Acknowledged.of_refresh here inside rfl
  · exact acknowledgeLevel_programming before.secondary level
  · intro irq range different
    rw [← requested_refresh different]
    by_cases low : irq < 8
    · have apart : irq ≠ configured := fun same => different (same ▸ isCascade)
      have apart' : irq ≠ 8 + level := by omega
      simp [requested, low, test_erase _ inside low, apart, apart']
    · have high : irq - 8 < 8 := by omega
      have same : irq - 8 = level ↔ irq = 8 + level := by omega
      simp [requested, low, test_erase _ bound high, same, and_comm, kept']
  · intro other
    simp only [acknowledgesPrimary, cascaded_withToken_cascaded, if_true, isCascade, Option.some.injEq]
    rw [@eq_comm _ other configured]
  · intro other range
    rw [acknowledgeLevel_service _ bound range]
    simp [acknowledgesSecondary]

/-- A claim that can be made is committed, and its commit acknowledges what it names. -/
theorem Claimable.commit {generation token : ℕ} (claimable : Claimable before generation token claim) :
    ∃ after, before.commitInterrupt generation claim = some after ∧ Acknowledged before after claim := by
  cases claimable with
  | direct bound elsewhere here => exact acknowledged_direct bound elsewhere here
  | cascaded bound isCascade here eligible => exact acknowledged_cascaded bound isCascade here eligible

end PicPair

end DosC32
