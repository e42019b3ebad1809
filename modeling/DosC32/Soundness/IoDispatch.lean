import DosC32.Proofs.IoResource

/-! # Port dispatch

Over every sequence of requests and answers, with callbacks that enter the registry again: active
ranges are disjoint, an access reaches the callback of the one range that contains it or none, at
most one callback runs, and handles and foreground tokens are issued once. Who holds a foreground
resource is read off the history and agrees with the registry.
-/

namespace DosC32.IoResource

open Effect Reentry Function List

abbrev IoHistory := History Request IoInvocation IoAnswer IoResourceError Reply

/-- The descriptors that a request registers. -/
def Request.batch : Request → Option (List IoResourceDescriptor)
  | .register descriptor => some [descriptor]
  | .registerBatch descriptors _ => some descriptors
  | _ => none

variable (owner next : IoResourceOwner)

/-- The registry accepts changes. -/
def Idle : Prop := owner.initialized = true ∧ owner.dispatchActive = false

/-- The registry comes into use. -/
def opened (identity : ℕ) : IoResourceOwner :=
  { owner with identity, activeBitmap := 0, dispatchActive := false, initialized := true }

/-- The generations of both kinds never fall. -/
def Advanced : Prop :=
  ∀ index, (owner.slots index).generation ≤ (next.slots index).generation ∧
    (owner.slots index).foregroundGeneration ≤ (next.slots index).foregroundGeneration

theorem Advanced.refl : Advanced owner owner := fun _ => ⟨Nat.le_refl _, Nat.le_refl _⟩

/-- The number was a handle or a token at a generation that has been reached. -/
def Spent (number : ℕ) : Prop :=
  ∃ (index : Fin 32) (generation : ℕ),
    (generation ≤ (owner.slots index).generation ∧ number = makeGenerationHandle index generation 0) ∨
    (generation ≤ (owner.slots index).foregroundGeneration ∧
      number = makeGenerationHandle index generation foregroundTokenDomain)

/-- The current token of a resource and its holder, as the registry has them. -/
def leaseOf (resource : ℕ) : Option (ℕ × ℕ) :=
  (decodeResource owner resource).bind fun index =>
    if (owner.slots index).foregroundToken = foregroundTokenInvalid then none
    else some ((owner.slots index).foregroundToken, (owner.slots index).foregroundRequester)

theorem opened_active (identity : ℕ) (index : Fin 32) :
    slotIsActive (opened owner identity) index = false := Bitmap.test_zero (index : ℕ)

variable (index : Fin 32)

/-- Withdraw an active slot. -/
def withdrawn : IoResourceOwner :=
  setSlot { owner with activeBitmap := Bitmap.erase owner.activeBitmap index } index
    { owner.slots index with
      descriptor := clearDescriptor, foregroundRequester := kernelObjectHandleInvalid
      foregroundToken := foregroundTokenInvalid }

/-- The token that the next lease of a slot gets. -/
def nextToken : ℕ :=
  makeGenerationHandle index ((owner.slots index).foregroundGeneration + 1) foregroundTokenDomain

/-- Lease a slot. -/
def leasedTo (requester : ℕ) : IoResourceOwner :=
  setSlot owner index { owner.slots index with
    foregroundGeneration := (owner.slots index).foregroundGeneration + 1, foregroundRequester := requester
    foregroundToken := nextToken owner index }

/-- What a request other than an access did when it returned. -/
inductive Step (owner : IoResourceOwner) : Request → Reply → IoResourceOwner → Prop
  | initialized {identity : ℕ} : owner.initialized = false →
      Step owner (.registryInitialize identity) .nothing (opened owner identity)
  | registered {request : Request} {descriptors : List IoResourceDescriptor} {claims : List (Fin 32 × ℕ)} :
      request.batch = some descriptors → Idle owner → Prepared owner [] 0 descriptors claims →
      Step owner request (.resources (claims.map fun claim => makeGenerationHandle claim.1 claim.2 0))
        (published owner descriptors claims)
  | unregistered {resource identity : ℕ} {index : Fin 32} : Idle owner → decodeResource owner resource = some index →
      Step owner (.unregister resource identity) .nothing (withdrawn owner index)
  | viewed {resource : ℕ} {view : IoResourceView} : Step owner (.query resource) (.view view) owner
  | acquired {resource identity requester : ℕ} {index : Fin 32} : Idle owner →
      decodeResource owner resource = some index → identityIsValid requester →
      (owner.slots index).foregroundGeneration < generationMax →
      Step owner (.foregroundAcquire resource identity requester) (.token (nextToken owner index))
        (leasedTo owner index requester)
  | released {token requester : ℕ} {index : Fin 32} : Idle owner → token ≠ foregroundTokenInvalid →
      (owner.slots index).foregroundToken = token →
      Step owner (.foregroundRelease token requester) .nothing (clearForeground owner index)
  | revoked {resource identity : ℕ} {index : Fin 32} : Idle owner → decodeResource owner resource = some index →
      Step owner (.foregroundRevoke resource identity) .nothing (clearForeground owner index)

variable {owner next}

theorem requireIdle_spec : wp requireIdle owner (fun _ next => next = owner ∧ Idle owner) (fun _ next => next = owner) := by
  simp only [requireIdle, wp_all]
  intro idle
  push Not at idle
  exact ⟨by simpa using idle.1, by simpa using idle.2⟩

theorem registerBatch_spec (descriptors : List IoResourceDescriptor) (capacity : ℕ) :
    wp (registerBatch descriptors capacity) owner
      (fun handles next => ∃ claims, Idle owner ∧ Prepared owner [] 0 descriptors claims ∧
        handles = claims.map (fun claim => makeGenerationHandle claim.1 claim.2 0) ∧
        next = published owner descriptors claims)
      (fun _ next => next = owner) := by
  simp only [registerBatch, wp_bind, wp_failWhen, implies_true, true_and]
  intro _
  apply wp_mono_done requireIdle_spec
  rintro _ _ ⟨rfl, idle⟩
  simp only [wp_get]
  split
  · exact rfl
  next claims prepared =>
    exact ⟨claims, idle, prepareBatch_spec prepared, rfl, rfl⟩

theorem requireOwned_spec {resource identity : ℕ} :
    wp (requireOwned resource identity) owner
      (fun index next => next = owner ∧ Idle owner ∧ decodeResource owner resource = some index)
      (fun _ next => next = owner) := by
  simp only [requireOwned, wp_bind]
  apply wp_mono_done requireIdle_spec
  rintro _ _ ⟨rfl, idle⟩
  simp only [wp_all]
  exact fun index found _ => ⟨idle, found⟩

/-- A request other than an access takes a step or changes nothing; it calls nobody. -/
theorem perform_spec (request : Request) (notAccess : ∀ access, request ≠ .transfer access) :
    (perform request).wp owner (fun reply next => Step owner request reply next) (fun _ next => next = owner)
      (fun _ _ _ => False) := by
  cases request
  case transfer access => exact absurd rfl (notAccess access)
  all_goals simp only [perform, Procedure.wp_bind, Procedure.wp_lift, Procedure.wp_pure]
  case registryInitialize identity =>
    simp only [registryInitialize, wp_all]
    intro _ unset
    exact .initialized (by simpa using unset)
  case register descriptor =>
    unfold register
    apply wp_mono_done (registerBatch_spec [descriptor] 1)
    rintro _ _ ⟨claims, idle, prepared, rfl, rfl⟩
    exact .registered rfl idle prepared
  case registerBatch descriptors capacity =>
    apply wp_mono_done (registerBatch_spec descriptors capacity)
    rintro _ _ ⟨claims, idle, prepared, rfl, rfl⟩
    exact .registered rfl idle prepared
  case unregister resource identity =>
    simp only [unregister, wp_all]
    intro _
    apply wp_mono_done requireOwned_spec
    rintro index _ ⟨rfl, idle, found⟩
    exact .unregistered idle found
  case query resource =>
    simp only [query, wp_all]
    exact fun _ _ _ => .viewed
  case foregroundAcquire resource identity requester =>
    simp only [foregroundAcquire, wp_all]
    intro valid
    push Not at valid
    apply wp_mono_done requireOwned_spec
    rintro index _ ⟨rfl, idle, found⟩
    simp only [implies_true, true_and]
    intro _ fresh
    exact .acquired idle found valid.2 (Nat.lt_of_not_le fresh)
  case foregroundRelease token requester =>
    simp only [foregroundRelease, wp_all]
    intro valid
    push Not at valid
    apply wp_mono_done requireIdle_spec
    rintro _ _ ⟨rfl, idle⟩
    simp only [implies_true, true_and, and_true, not_not]
    intro index _ _ held _
    exact .released idle valid.2.1 held
  case foregroundRevoke resource identity =>
    simp only [foregroundRevoke, wp_all]
    intro _
    apply wp_mono_done requireOwned_spec
    rintro index _ ⟨rfl, idle, found⟩
    exact .revoked idle found

theorem edited_setSlot {slot : IoResourceSlot} (descriptor : slot.descriptor = (owner.slots index).descriptor)
    (generation : slot.generation = (owner.slots index).generation) : Edited owner (setSlot owner index slot) index where
  elsewhere := fun other apart => ⟨update_of_ne apart _ _, rfl⟩
  active := fun active => ⟨active, by simpa [setSlot] using descriptor⟩
  generation := by simpa [setSlot] using generation
  initialized := rfl
  dispatch := rfl

theorem edited_clearForeground : Edited owner (clearForeground owner index) index := edited_setSlot index rfl rfl

theorem edited_leasedTo (requester : ℕ) : Edited owner (leasedTo owner index requester) index :=
  edited_setSlot index rfl rfl

theorem withdrawn_active (other : Fin 32) :
    slotIsActive (withdrawn owner index) other = (!decide (other = index) && slotIsActive owner other) := by
  have same : ((other : ℕ) = index) = (other = index) := propext Fin.ext_iff.symm
  unfold slotIsActive withdrawn
  simp only [setSlot, Bitmap.test_erase _ index.isLt other.isLt, same]

theorem edited_withdrawn : Edited owner (withdrawn owner index) index where
  elsewhere := fun other apart => ⟨update_of_ne apart _ _, by simp [withdrawn_active, apart]⟩
  active := fun active => by simp [withdrawn_active] at active
  generation := by simp [withdrawn, setSlot]
  initialized := rfl
  dispatch := rfl

variable {request : Request} {reply : Reply}

theorem registry_of_inactive (inactive : ∀ index, slotIsActive owner index = false)
    (bounded : ∀ index, (owner.slots index).generation ≤ generationMax)
    (foreground : ∀ index, (owner.slots index).foregroundGeneration ≤ generationMax)
    (leased : ∀ index, (owner.slots index).foregroundToken ≠ foregroundTokenInvalid →
      (owner.slots index).foregroundToken =
        makeGenerationHandle index (owner.slots index).foregroundGeneration foregroundTokenDomain ∧
      identityIsValid (owner.slots index).foregroundRequester)
    (unset : owner.initialized = false → owner.dispatchActive = false) : Registry owner := by
  have never : ∀ index, ¬ slotIsActive owner index := fun index => ne_true_of_eq_false (inactive index)
  exact ⟨⟨fun index active => absurd active (never index), bounded, foreground⟩,
    fun first _ _ active => absurd active (never first), fun index active => absurd active (never index), leased,
    fun closed => ⟨unset closed, inactive⟩⟩

theorem Step.registry (registry : Registry owner) (step : Step owner request reply next) : Registry next := by
  cases step with
  | @initialized identity unset =>
    exact registry_of_inactive (opened_active owner identity) registry.counted.bounded registry.counted.foreground
      registry.leased fun unset => by cases unset
  | registered _ idle prepared => exact registry.publish prepared idle.1
  | @unregistered resource identity index _ _ =>
    apply registry.edit (edited_withdrawn index)
    · simpa [withdrawn, setSlot] using registry.counted.foreground index
    · intro token
      simp [withdrawn, setSlot] at token
  | viewed => exact registry
  | @acquired resource identity requester index _ _ valid fresh =>
    apply registry.edit (edited_leasedTo index requester)
    · simpa [leasedTo, setSlot] using Nat.succ_le_of_lt fresh
    · intro _
      simpa [leasedTo, setSlot, nextToken] using valid
  | @released _ _ index _ _ _ | @revoked _ _ index _ _ =>
    apply registry.edit (edited_clearForeground index)
    · simpa [clearForeground, setSlot] using registry.counted.foreground index
    · intro token
      simp [clearForeground, setSlot] at token

/-- No callback starts or ends in a step. -/
theorem Step.dispatch (registry : Registry owner) (step : Step owner request reply next) :
    next.dispatchActive = owner.dispatchActive := by
  cases step with
  | initialized unset => exact (registry.unset unset).1.symm
  | registered _ idle prepared =>
    unfold published
    rw [publishBatch_fields]
  | unregistered | viewed | acquired | released | revoked => rfl

theorem advanced_of_slots (slots : next.slots = owner.slots) : Advanced owner next := by
  intro index
  rw [slots]
  exact Advanced.refl owner index

theorem Edited.advanced {index : Fin 32} (edited : Edited owner next index)
    (foreground : (owner.slots index).foregroundGeneration ≤ (next.slots index).foregroundGeneration) :
    Advanced owner next := by
  intro other
  by_cases same : other = index
  · subst same
    exact ⟨Nat.le_of_eq edited.generation.symm, foreground⟩
  · rw [(edited.elsewhere other same).1]
    exact Advanced.refl owner other

theorem Step.advanced (step : Step owner request reply next) : Advanced owner next := by
  cases step with
  | initialized unset => exact advanced_of_slots rfl
  | registered _ idle prepared =>
    intro index
    rcases prepared.slot index with ⟨_, same⟩ | ⟨descriptor, _, slot⟩
    · rw [same]
      exact Advanced.refl owner index
    · rw [slot]
      exact ⟨Nat.le_succ _, Nat.le_refl _⟩
  | @unregistered resource identity index _ _ =>
    apply (edited_withdrawn index).advanced
    simp [withdrawn, setSlot]
  | viewed => exact .refl owner
  | @acquired resource identity requester index _ _ _ _ =>
    apply (edited_leasedTo index requester).advanced
    simp [leasedTo, setSlot]
  | @released _ _ index _ _ _ | @revoked _ _ index _ _ =>
    apply (edited_clearForeground index).advanced
    simp [clearForeground, setSlot]

variable {numbers : List ℕ} {number : ℕ}

theorem Spent.advanced (spent : Spent owner number) (advanced : Advanced owner next) : Spent next number := by
  obtain ⟨index, generation, handle | token⟩ := spent
  · exact ⟨index, generation, .inl ⟨handle.1.trans (advanced index).1, handle.2⟩⟩
  · exact ⟨index, generation, .inr ⟨token.1.trans (advanced index).2, token.2⟩⟩

theorem handle_lt {generation : ℕ} (bounded : generation ≤ generationMax) :
    makeGenerationHandle index generation 0 < 2 ^ 63 := by
  rw [generationMax_eq] at bounded
  rw [makeGenerationHandle_resource index.isLt]
  omega

/-- The numbers that a reply hands out. -/
def Reply.issues : Reply → List ℕ
  | .resources handles => handles
  | .token number => [number]
  | _ => []

/-- The numbers issued so far are apart, and their generations have been reached. -/
structure Issued (numbers : List ℕ) (owner : IoResourceOwner) : Prop where
  apart : numbers.Nodup
  spent : ∀ number ∈ numbers, Spent owner number

theorem Issued.advanced (issued : Issued numbers owner) (advanced : Advanced owner next) : Issued numbers next :=
  ⟨issued.apart, fun number member => (issued.spent number member).advanced advanced⟩

/-- Numbers that were fresh and are reached now join the issued ones. -/
theorem Issued.append {fresh : List ℕ} (issued : Issued numbers owner) (advanced : Advanced owner next)
    (apart : fresh.Nodup) (unspent : ∀ number ∈ fresh, ¬ Spent owner number)
    (spent : ∀ number ∈ fresh, Spent next number) : Issued (fresh ++ numbers) next where
  apart := nodup_append.mpr ⟨apart, issued.apart, fun number inFresh other inNumbers same =>
    unspent number inFresh (same ▸ issued.spent other inNumbers)⟩
  spent := by
    intro number member
    rcases mem_append.mp member with inFresh | inNumbers
    · exact spent number inFresh
    · exact (issued.spent number inNumbers).advanced advanced

variable (counted : Counted owner)
include counted

/-- The next handle of a slot is fresh. -/
theorem not_spent_handle {index : Fin 32} (fresh : (owner.slots index).generation < generationMax) :
    ¬ Spent owner (makeGenerationHandle index ((owner.slots index).generation + 1) 0) := by
  rintro ⟨other, generation, ⟨reached, same⟩ | ⟨reached, same⟩⟩
  · obtain ⟨rfl, rfl⟩ := makeGenerationHandle_inj same
    omega
  · have low := handle_lt index (show (owner.slots index).generation + 1 ≤ generationMax from fresh)
    have high := makeGenerationHandle_token other.isLt (reached.trans (counted.foreground other))
    omega

/-- The next token of a slot is fresh. -/
theorem not_spent_token {index : Fin 32}
    (fresh : (owner.slots index).foregroundGeneration < generationMax) : ¬ Spent owner (nextToken owner index) := by
  have packed := makeGenerationHandle_token index.isLt
    (show (owner.slots index).foregroundGeneration + 1 ≤ generationMax from fresh)
  rintro ⟨other, generation, ⟨reached, same⟩ | ⟨reached, same⟩⟩
  · have low := handle_lt other (reached.trans (counted.bounded other))
    unfold nextToken at same
    omega
  · have packed' := makeGenerationHandle_token other.isLt (reached.trans (counted.foreground other))
    unfold nextToken at same
    obtain ⟨rfl, rfl⟩ := makeGenerationHandle_inj (Nat.add_left_cancel (packed.symm.trans (same.trans packed')))
    omega

omit counted in
theorem Step.issued (registry : Registry owner) (issued : Issued numbers owner) (step : Step owner request reply next) :
    Issued (reply.issues ++ numbers) next := by
  have advanced := step.advanced
  cases step with
  | @registered request descriptors claims _ idle prepared =>
    apply issued.append advanced
    · exact (nodup_map_iff_inj_on (prepared.apart.of_map _)).mpr fun first _ second _ same =>
        Prod.ext (makeGenerationHandle_inj same).1 (makeGenerationHandle_inj same).2
    · intro number member
      obtain ⟨claim, inClaims, rfl⟩ := mem_map.mp member
      obtain ⟨_, _, fresh, generation⟩ := prepared.fresh claim inClaims
      rw [generation]
      exact not_spent_handle registry.counted fresh
    · intro number member
      obtain ⟨claim, inClaims, rfl⟩ := mem_map.mp member
      refine ⟨claim.1, claim.2, .inl ⟨?_, rfl⟩⟩
      rcases prepared.slot claim.1 with ⟨outside, _⟩ | ⟨descriptor, _, slot⟩
      · exact absurd (mem_map.mpr ⟨claim, inClaims, rfl⟩) outside
      · rw [slot, (prepared.fresh claim inClaims).2.2.2]
  | @acquired resource identity requester index _ _ _ fresh =>
    apply issued.append advanced
    · exact nodup_singleton _
    · intro number member
      rw [mem_singleton.mp member]
      exact not_spent_token registry.counted fresh
    · intro number member
      rw [mem_singleton.mp member]
      refine ⟨index, (owner.slots index).foregroundGeneration + 1, .inr ⟨?_, rfl⟩⟩
      simp [leasedTo, setSlot]
  | initialized | unregistered | viewed | released | revoked => exact issued.advanced advanced

variable {resource : ℕ} {index : Fin 32}

/-- What a completed request does to the leases. -/
def leasesAfter (leases : ℕ → Option (ℕ × ℕ)) : Request → Reply → ℕ → Option (ℕ × ℕ)
  | .foregroundAcquire resource _ requester, .token token => update leases resource (some (token, requester))
  | .foregroundRelease token _, _ => fun resource => (leases resource).filter fun lease => lease.1 != token
  | .foregroundRevoke resource _, _ => update leases resource none
  | .unregister resource _, _ => update leases resource none
  | _, _ => leases

theorem leaseOf_handle (active : slotIsActive owner index) : leaseOf owner (handleOf owner index) =
      if (owner.slots index).foregroundToken = foregroundTokenInvalid then none
      else some ((owner.slots index).foregroundToken, (owner.slots index).foregroundRequester) := by
  unfold leaseOf
  rw [decodeResource_handleOf counted active]
  rfl

theorem leaseOf_eq_some {lease : ℕ × ℕ} :
    leaseOf owner resource = some lease ↔ ∃ index, slotIsActive owner index ∧ resource = handleOf owner index ∧
      (owner.slots index).foregroundToken ≠ foregroundTokenInvalid ∧
      lease = ((owner.slots index).foregroundToken, (owner.slots index).foregroundRequester) := by
  unfold leaseOf
  rw [Option.bind_eq_some_iff]
  refine exists_congr fun index => ?_
  rw [decodeResource_iff counted, and_assoc]
  refine and_congr_right fun _ => and_congr_right fun _ => ?_
  split
  next absent => simp [absent]
  next present => simp [present, eq_comm]

omit counted in
theorem handleOf_congr (generation : (next.slots index).generation = (owner.slots index).generation) :
    handleOf next index = handleOf owner index := by
  unfold handleOf
  rw [generation]

theorem leaseOf_of_inactive (inactive : ∀ index, slotIsActive owner index = false) :
    leaseOf owner = fun _ => none := by
  funext resource
  rw [Option.eq_none_iff_forall_ne_some]
  intro lease held
  obtain ⟨index, active, _⟩ := (leaseOf_eq_some counted).mp held
  exact Bool.eq_false_iff.mp (inactive index) active

/-- An edit concerns the resource of its slot alone. -/
theorem Edited.leaseOf_elsewhere (counted' : Counted next) (edited : Edited owner next index)
    (apart : resource ≠ handleOf owner index) : leaseOf next resource = leaseOf owner resource := by
  ext lease
  rw [leaseOf_eq_some counted', leaseOf_eq_some counted]
  refine exists_congr fun other => ?_
  rw [handleOf_congr (edited.generations other)]
  by_cases same : other = index
  · subst same
    simp [apart]
  · rw [(edited.elsewhere other same).1, (edited.elsewhere other same).2]

/-- An edit that ends a lease or the slot. -/
theorem Edited.leaseOf_ended (counted' : Counted next) (edited : Edited owner next index)
    (ended : (next.slots index).foregroundToken = foregroundTokenInvalid) :
    leaseOf next = update (leaseOf owner) (handleOf owner index) none := by
  funext resource
  by_cases same : resource = handleOf owner index
  · subst same
    rw [update_self, Option.eq_none_iff_forall_not_mem]
    intro lease member
    rw [Option.mem_def, leaseOf_eq_some counted'] at member
    obtain ⟨other, _, named, token, _⟩ := member
    rw [← handleOf_congr edited.generation] at named
    obtain ⟨rfl, _⟩ := makeGenerationHandle_inj named
    exact token ended
  · rw [update_of_ne same]
    exact edited.leaseOf_elsewhere counted counted' same

omit counted in
/-- Releasing a token ends the lease that carries it. -/
theorem leaseOf_released (registry : Registry owner) (registry' : Registry (clearForeground owner index)) :
    leaseOf (clearForeground owner index) = fun resource =>
      (leaseOf owner resource).filter fun lease => lease.1 != (owner.slots index).foregroundToken := by
  rw [(edited_clearForeground index).leaseOf_ended registry.counted registry'.counted (by simp [clearForeground, setSlot])]
  funext resource
  by_cases same : resource = handleOf owner index
  · subst same
    rw [update_self, eq_comm, Option.filter_eq_none_iff]
    intro lease held
    obtain ⟨other, _, named, _, rfl⟩ := (leaseOf_eq_some registry.counted).mp held
    simp [(makeGenerationHandle_inj named).1]
  · rw [update_of_ne same]
    cases held : leaseOf owner resource with
    | none => rfl
    | some lease =>
      obtain ⟨other, _, named, token, rfl⟩ := (leaseOf_eq_some registry.counted).mp held
      rw [eq_comm, Option.filter_some_eq_some, bne_iff_ne]
      intro (shared : (owner.slots other).foregroundToken = _)
      -- a token names the slot that carries it
      have here := (registry.leased other token).1
      have there := (registry.leased index (shared ▸ token)).1
      have decoded : decodeToken (owner.slots other).foregroundToken = some other := by
        rw [here, decodeToken_token (registry.counted.foreground other)]
      rw [shared, there, decodeToken_token (registry.counted.foreground index)] at decoded
      rw [← Option.some.inj decoded] at named
      exact same named

/-- A registration hands out resources that nobody holds, and leaves the others alone. -/
theorem leaseOf_published {descriptors : List IoResourceDescriptor} {claims : List (Fin 32 × ℕ)}
    (counted' : Counted (published owner descriptors claims)) (prepared : Prepared owner [] 0 descriptors claims) :
    leaseOf (published owner descriptors claims) = leaseOf owner := by
  funext resource
  ext lease
  rw [leaseOf_eq_some counted', leaseOf_eq_some counted]
  refine exists_congr fun index => ?_
  have active : slotIsActive (published owner descriptors claims) index = _ := published_active index
  rcases prepared.slot index with ⟨outside, same⟩ | ⟨descriptor, member, slot⟩
  · have handle : handleOf (published owner descriptors claims) index = handleOf owner index :=
      handleOf_congr (by rw [same])
    rw [same, handle, active]
    simp [outside]
  · have inClaims := (of_mem_zip member).2
    have inactive := (prepared.fresh _ inClaims).1
    simp [slot, inactive]

omit counted

/-- The leases of the registry follow the completed requests. -/
theorem Step.leases (registry : Registry owner) (step : Step owner request reply next) :
    leaseOf next = leasesAfter (leaseOf owner) request reply := by
  have registry' := step.registry registry
  cases step with
  | initialized unset =>
    simp only [leasesAfter]
    rw [leaseOf_of_inactive registry'.counted (opened_active owner _),
      leaseOf_of_inactive registry.counted (registry.unset unset).2]
  | @registered request descriptors claims named idle prepared =>
    rw [leaseOf_published registry.counted registry'.counted prepared]
    cases request with
    | register _ => rfl
    | registerBatch _ _ => rfl
    | _ => cases named
  | @unregistered resource identity index _ found =>
    obtain ⟨_, rfl⟩ := decodeResource_sound found
    exact (edited_withdrawn index).leaseOf_ended registry.counted registry'.counted (by simp [withdrawn, setSlot])
  | viewed => rfl
  | @acquired resource identity requester index _ found valid fresh =>
    obtain ⟨active, rfl⟩ := decodeResource_sound found
    have edited : Edited owner (leasedTo owner index requester) index := edited_leasedTo index requester
    simp only [leasesAfter]
    funext resource
    by_cases same : resource = handleOf owner index
    · subst same
      rw [update_self, ← handleOf_congr edited.generation]
      rw [leaseOf_handle registry'.counted active]
      have bounded : (owner.slots index).foregroundGeneration + 1 ≤ generationMax := fresh
      have token := makeGenerationHandle_token index.isLt bounded
      have present : nextToken owner index ≠ foregroundTokenInvalid := by
        unfold nextToken foregroundTokenInvalid
        omega
      simp [leasedTo, setSlot, present]
    · rw [update_of_ne same]
      exact edited.leaseOf_elsewhere registry.counted registry'.counted same
  | @released token requester index _ present held =>
    subst held
    exact leaseOf_released registry registry'
  | @revoked resource identity index _ found =>
    obtain ⟨_, rfl⟩ := decodeResource_sound found
    exact (edited_clearForeground index).leaseOf_ended registry.counted registry'.counted
      (by simp [clearForeground, setSlot])

variable {access : Access} {port : UInt16} {width : ℕ}

/-- The value of a write fits its width. -/
def Access.Fits (access : Access) : Prop := ∀ value, access.value = some value → valueFitsWidth value access.width

theorem Access.fits_iff : access.Fits ↔ ¬ (access.value.any fun value => decide (¬ valueFitsWidth value access.width)) := by
  unfold Access.Fits
  cases access.value <;> simp

/-- The whole access lies in one active range, which allows its width with a callback, and whose holder the
requester is when it is a foreground range. -/
structure Reaches (leases : ℕ → Option (ℕ × ℕ)) (owner : IoResourceOwner) (access : Access) (index : Fin 32) : Prop where
  active : slotIsActive owner index
  first : (owner.slots index).descriptor.firstPort.toNat ≤ access.port.toNat
  last : access.port.toNat + access.width ≤ (owner.slots index).descriptor.lastPort.toNat + 1
  width : (policy (owner.slots index).descriptor access).1 &&& widthMask access.width ≠ 0
  action : isCallbackAction (policy (owner.slots index).descriptor access).2.1
  holder : (owner.slots index).descriptor.flags &&& flagForeground ≠ 0 →
    ∃ token, leases (handleOf owner index) = some (token, access.requesterIdentity)

/-- The call that an access makes at a slot. -/
def invocation (owner : IoResourceOwner) (access : Access) (index : Fin 32) : IoInvocation :=
  ⟨index, (policy (owner.slots index).descriptor access).2.2.getD 0, (owner.slots index).descriptor.callbackContext,
    access.port, access.width, access.value⟩

theorem widthIsValid_of_mask {mask : BitVec 8} (allowed : mask &&& widthMask width ≠ 0) : widthIsValid width := by
  by_contra invalid
  unfold widthIsValid at invalid
  push Not at invalid
  apply allowed
  simp [widthMask, invalid]

theorem findContainingSlot_sound (found : findContainingSlot owner port = some index) :
    slotIsActive owner index ∧ (owner.slots index).descriptor.firstPort ≤ port ∧
      port ≤ (owner.slots index).descriptor.lastPort := by
  have passes := find?_some found
  simpa using passes

/-- The slot that contains a port is the only one. -/
theorem Registry.findContainingSlot (registry : Registry owner) (active : slotIsActive owner index)
    (first : (owner.slots index).descriptor.firstPort ≤ port) (last : port ≤ (owner.slots index).descriptor.lastPort) :
    findContainingSlot owner port = some index := by
  cases found : IoResource.findContainingSlot owner port with
  | none =>
    have missed := find?_eq_none.mp found index (mem_finRange index)
    simp [active, first, last] at missed
  | some other =>
    obtain ⟨active', first', last'⟩ := findContainingSlot_sound found
    by_contra apart
    have different : other ≠ index := fun same => apart (congrArg some same)
    exact registry.disjoint other index different active' active
      ⟨UInt16.le_trans first' last, UInt16.le_trans first last'⟩

/-- The holder of a foreground slot may use it. -/
theorem Registry.foregroundAccess (registry : Registry owner) (active : slotIsActive owner index) (requester : ℕ) :
    foregroundAccessIsValid (owner.slots index) requester ↔
      ((owner.slots index).descriptor.flags &&& flagForeground ≠ 0 →
        ∃ token, leaseOf owner (handleOf owner index) = some (token, requester)) := by
  rw [leaseOf_handle registry.counted active]
  unfold foregroundAccessIsValid
  by_cases open' : (owner.slots index).descriptor.flags &&& flagForeground = 0
  · simp [open']
  · by_cases absent : (owner.slots index).foregroundToken = foregroundTokenInvalid
    · simp [absent]
    · have valid := (registry.leased index absent).2
      simp only [open', absent, not_false_eq_true, ne_eq, if_false, Option.some.injEq, Prod.mk.injEq, exists_eq_left',
        forall_const, false_or, true_and]
      constructor
      · exact fun held => held.2
      · rintro rfl
        exact ⟨valid, rfl⟩

/-- What an access came to before its callback: nothing to call, or one callback that now runs. -/
inductive Dispatched (owner : IoResourceOwner) (access : Access) : Option IoInvocation → IoResourceOwner → Prop
  | quiet : Dispatched owner access none owner
  | calls {index : Fin 32} : Idle owner → access.Fits → Reaches (leaseOf owner) owner access index →
      Dispatched owner access (some (invocation owner access index)) { owner with dispatchActive := true }

theorem resolveAccess_sound (resolved : resolveAccess owner port width = .ok (some index)) :
    slotIsActive owner index ∧ (owner.slots index).descriptor.firstPort.toNat ≤ port.toNat ∧
      port.toNat + width ≤ (owner.slots index).descriptor.lastPort.toNat + 1 := by
  unfold resolveAccess at resolved
  dsimp only at resolved
  cases found : findContainingSlot owner port with
  | some place =>
    obtain ⟨active, first, _⟩ := findContainingSlot_sound found
    rw [found] at resolved
    dsimp only at resolved
    split_ifs at resolved with _ _ beyond
    cases resolved
    exact ⟨active, UInt16.le_iff_toNat_le.mp first, by omega⟩
  | none =>
    rw [found] at resolved
    dsimp only at resolved
    split_ifs at resolved
    cases Except.ok.inj resolved

variable (registry : Registry owner)
include registry

theorem resolveAccess_reaches {leases : ℕ → Option (ℕ × ℕ)}
    (reaches : Reaches leases owner access index) : resolveAccess owner access.port access.width = .ok (some index) := by
  have valid := widthIsValid_of_mask reaches.width
  have first := reaches.first
  have last := reaches.last
  have limit := (owner.slots index).descriptor.lastPort.toNat_lt
  have positive : 1 ≤ access.width := by
    rcases valid with width | width | width <;> omega
  have found := registry.findContainingSlot reaches.active (UInt16.le_iff_toNat_le.mpr first)
    (UInt16.le_iff_toNat_le.mpr (show access.port.toNat ≤ _ by omega))
  unfold resolveAccess
  rw [if_neg (not_not.mpr valid)]
  dsimp only
  rw [if_neg (by omega), found]
  dsimp only
  rw [if_neg (by omega)]

theorem resolveAccess_straddles (valid : widthIsValid width) (active : slotIsActive owner index)
    (meets : (owner.slots index).descriptor.firstPort.toNat < port.toNat + width ∧
      port.toNat ≤ (owner.slots index).descriptor.lastPort.toNat)
    (partly : port.toNat < (owner.slots index).descriptor.firstPort.toNat ∨
      (owner.slots index).descriptor.lastPort.toNat + 1 < port.toNat + width) :
    resolveAccess owner port width = .error .accessDenied := by
  unfold resolveAccess
  rw [if_neg (not_not.mpr valid)]
  dsimp only
  by_cases wraps : port.toNat + width - 1 > 0xffff
  · rw [if_pos wraps]
  · rw [if_neg wraps]
    cases found : findContainingSlot owner port with
    | some other =>
      obtain ⟨active', first', last'⟩ := findContainingSlot_sound found
      rw [UInt16.le_iff_toNat_le] at first' last'
      -- Inside another range, the access would make that range meet this one.
      have beyond : port.toNat + width - 1 > (owner.slots other).descriptor.lastPort.toNat := by
        by_contra inside
        by_cases same : other = index
        · subst same
          omega
        · refine registry.disjoint other index same active' active ⟨?_, ?_⟩
          · exact UInt16.le_iff_toNat_le.mpr (by omega)
          · exact UInt16.le_iff_toNat_le.mpr (by omega)
      exact if_pos beyond
    | none =>
      have last : (UInt16.ofNat (port.toNat + width - 1)).toNat = port.toNat + width - 1 := by
        rw [UInt16.toNat_ofNat']
        exact Nat.mod_eq_of_lt (by omega)
      have overlaps : activeRangeOverlaps owner port (UInt16.ofNat (port.toNat + width - 1)) = true := by
        refine activeRangeOverlaps_eq_true.mpr ⟨index, active, ?_, ?_⟩
        · exact UInt16.le_iff_toNat_le.mpr meets.2
        · rw [UInt16.le_iff_toNat_le, last]
          omega
      exact if_pos overlaps

theorem Registry.initialized (active : slotIsActive owner index) : owner.initialized = true := by
  by_contra unset
  rw [Bool.not_eq_true] at unset
  have inactive := (registry.unset unset).2 index
  rw [active] at inactive
  cases inactive

theorem policy_valid (active : slotIsActive owner index) (access : Access) :
    (policy (owner.slots index).descriptor access).2.1 ≠ .unknown := by
  obtain ⟨_, _, _, _, _, _, read, write, _⟩ := registry.valid index active
  unfold policy
  cases access.value
  · exact read.2.1
  · exact write.2.1

/-- An access up to its callback. -/
theorem dispatch_spec (access : Access) :
    wp (dispatch access) owner (fun called next => Dispatched owner access called next) (fun _ next => next = owner) := by
  simp only [dispatch, wp_bind, wp_failWhen, implies_true, true_and]
  intro fits
  rw [← Access.fits_iff] at fits
  apply wp_mono_done requireIdle_spec
  rintro _ state ⟨rfl, idle⟩
  simp only [wp_get]
  split
  · exact rfl
  · exact .quiet
  next index resolved =>
    obtain ⟨active, first, last⟩ := resolveAccess_sound resolved
    simp only [wp_all]
    intro permitted
    push Not at permitted
    have holder := (registry.foregroundAccess active _).mp permitted.2
    have known := policy_valid registry active access
    split
    · exact .quiet
    · exact rfl
    next notAbsent notDeny =>
      refine .calls idle fits ⟨active, first, last, permitted.1, ?_, holder⟩
      unfold isCallbackAction
      cases action : (policy (state.slots index).descriptor access).2.1 with
      | absent => exact absurd action notAbsent
      | deny => exact absurd action notDeny
      | unknown => exact absurd action known
      | emulate => rfl
      | native => rfl

/-- An access that reaches a range calls. -/
theorem dispatch_reaches (idle : owner.dispatchActive = false) (fits : access.Fits)
    (reaches : Reaches (leaseOf owner) owner access index) :
    dispatch access owner = .ok (some (invocation owner access index)) { owner with dispatchActive := true } := by
  have initialized := registry.initialized reaches.active
  have permitted := (registry.foregroundAccess reaches.active access.requesterIdentity).mpr reaches.holder
  apply eq_ok_of_wp
  simp only [dispatch, requireIdle, wp_rules, initialized, idle, resolveAccess_reaches registry reaches]
  refine ⟨fun unfit => Access.fits_iff.mp fits unfit, fun _ => ⟨by simp, fun _ => ⟨?_, fun _ => ?_⟩⟩⟩
  · rintro (narrow | denied)
    · exact reaches.width narrow
    · exact denied permitted
  · have action := reaches.action
    split
    next absent =>
      rw [absent] at action
      cases action
    next deny =>
      rw [deny] at action
      cases action
    · exact ⟨rfl, rfl⟩

omit registry

/-- The numbers that a move handed out. -/
def issuedIn : Move Request IoAnswer × Except Unit (Report Request IoInvocation IoResourceError Reply) → List ℕ
  | (_, .ok ⟨_, _, .done reply⟩) => reply.issues
  | _ => []

/-- The handles and tokens issued along a history. -/
def issued (history : IoHistory) : List ℕ := history.flatMap issuedIn

/-- The current token of each resource and its holder, as the completed requests have them. -/
def leases : IoHistory → ℕ → Option (ℕ × ℕ)
  | [] => fun _ => none
  | (_, .ok ⟨request, _, .done reply⟩) :: earlier => leasesAfter (leases earlier) request reply
  | _ :: earlier => leases earlier

/-- The invariant of the registry along a history, with the callbacks that run. -/
structure Sound (history : IoHistory) (pending : List IoInvocation) (owner : IoResourceOwner) : Prop where
  registry : Registry owner
  running : owner.dispatchActive = true ↔ pending ≠ []
  single : pending.length ≤ 1
  numbers : Issued (issued history) owner
  held : leases history = leaseOf owner

variable {history : IoHistory} {pending : List IoInvocation}

theorem sound_start : Sound [] [] clearOwner where
  registry := registry_of_inactive (fun index => Bitmap.test_zero (index : ℕ)) (fun _ => Nat.zero_le _)
    (fun _ => Nat.zero_le _)
    (fun index token => absurd rfl token) (fun _ => rfl)
  running := by simp [clearOwner]
  single := Nat.zero_le _
  numbers := ⟨nodup_nil, fun number member => absurd member not_mem_nil⟩
  held := by
    funext resource
    unfold leaseOf
    cases decoded : decodeResource clearOwner resource with
    | none => rfl
    | some index => rfl

variable (sound : Sound history pending owner)
include sound

variable {entry : Move Request IoAnswer × Except Unit (Report Request IoInvocation IoResourceError Reply)}
    (silent : issuedIn entry = []) (kept : leases (entry :: history) = leases history)
include silent kept

/-- A move without a reply changes no book. -/
theorem Sound.pass {pending' : List IoInvocation} (same : next = { owner with dispatchActive := next.dispatchActive })
    (idle : owner.initialized = false → next.dispatchActive = false)
    (running : next.dispatchActive = true ↔ pending' ≠ []) (single : pending'.length ≤ 1) :
    Sound (entry :: history) pending' next := by
  have registry := sound.registry
  refine ⟨?_, running, single, ?_, ?_⟩
  · rw [same]
    exact ⟨⟨registry.counted.started, registry.counted.bounded, registry.counted.foreground⟩, registry.disjoint,
      registry.valid, registry.leased, fun unset => ⟨idle unset, (registry.unset unset).2⟩⟩
  · unfold issued
    rw [flatMap_cons, silent, nil_append, same]
    exact sound.numbers.advanced (advanced_of_slots rfl)
  · rw [kept, sound.held, same]
    rfl

theorem Sound.refused : Sound (entry :: history) pending owner :=
  sound.pass silent kept rfl (fun unset => (sound.registry.unset unset).1) sound.running sound.single

omit silent kept

theorem request_keeps (request : Request) (notAccess : ∀ access, request ≠ .transfer access) :
    (perform request owner).Keeps Sound request pending (.enter request) none history := by
  rw [keeps_iff_wp]
  apply Procedure.wp_mono (perform_spec request notAccess)
  · intro reply next step
    refine ⟨step.registry sound.registry, ?_, sound.single, ?_, ?_⟩
    · rw [step.dispatch sound.registry]
      exact sound.running
    · unfold issued
      rw [flatMap_cons]
      exact step.issued sound.registry sound.numbers
    · rw [step.leases sound.registry, ← sound.held]
      rfl
  · rintro error _ rfl
    exact sound.refused rfl rfl
  · exact fun _ _ _ impossible => impossible.elim

theorem Sound.idle_iff : owner.dispatchActive = false ↔ pending = [] := by
  rw [← Bool.not_eq_true, sound.running, not_not]

omit sound

theorem complete_spec (answer : IoAnswer) :
    Leaves (complete access answer) owner (fun next => next = { owner with dispatchActive := false }) := by
  simp only [complete, wp_rules]
  split
  · exact rfl
  · split
    · exact rfl
    · simp

include sound in
theorem transfer_keeps (access : Access) :
    (perform (.transfer access) owner).Keeps Sound (.transfer access) pending (.enter (.transfer access)) none
      history := by
  rw [keeps_iff_wp]
  simp only [perform, transfer, Procedure.wp_bind, Procedure.wp_lift]
  apply wp_mono (dispatch_spec sound.registry access)
  · intro called next dispatched
    cases dispatched with
    | quiet =>
      exact sound.refused rfl rfl
    | @calls index idle fits reaches =>
      have empty := sound.idle_iff.mp idle.2
      subst empty
      simp only [Procedure.wp_bind, Procedure.wp_invoke]
      refine ⟨sound.pass rfl rfl rfl (fun unset => ?_) (by simp) (by simp), fun answer later state resumed => ?_⟩
      · rw [idle.1] at unset
        cases unset
      · change Progress.Keeps Sound (.transfer access) []
          (((lift (complete access answer) >>= fun value => pure (Reply.value value)) : IoProcedure Reply) state) _ _ _
        rw [keeps_iff_wp]
        simp only [Procedure.wp_bind, Procedure.wp_lift, Procedure.wp_pure]
        apply wp_mono (complete_spec answer)
        · rintro value _ rfl
          exact resumed.pass rfl rfl rfl (fun _ => rfl) (by simp) (by simp)
        · rintro error _ rfl
          exact resumed.pass rfl rfl rfl (fun _ => rfl) (by simp) (by simp)
  · rintro error _ rfl
    exact sound.refused rfl rfl

/-- The invariant holds after every sequence of requests and answers. -/
theorem sound_run {machine : Reentry.Machine Request IoInvocation IoAnswer IoResourceError IoResourceOwner Reply}
    (run : Runs (advance perform) (fun _ _ => True) ⟨clearOwner, []⟩ history machine) :
    Sound history machine.pending machine.state := by
  apply invariant sound_start _ _ run
  · intro answer history owner sound
    exact sound.refused rfl rfl
  · intro request history pending owner sound
    cases request with
    | transfer access => exact transfer_keeps sound access
    | _ => exact request_keeps sound _ (fun _ same => by cases same)

/-- An access as its dispatch has decided it. -/
theorem transfer_eq (access : Access) (owner : IoResourceOwner) :
    perform (.transfer access) owner = match dispatch access owner with
      | .error error next => .failed error next
      | .ok none next => .done (.value (if access.value.isSome then 0 else absentReadValue access.width)) next
      | .ok (some call) next => .calls call next fun answer =>
        (lift (complete access answer) >>= fun value => pure (.value value) : IoProcedure Reply) := by
  change Progress.bind (Progress.bind (lift (dispatch access) owner) _) _ = _
  unfold lift
  rcases dispatch access owner with ⟨_ | _, _⟩ | _
  · rfl
  · rfl
  · rfl

/-- A procedure has stopped at a call. -/
def Calls (progress : Progress IoInvocation IoAnswer IoResourceError IoResourceOwner Reply) (call : IoInvocation) : Prop :=
  ∃ next resume, progress = .calls call next resume

/-- The rest of an access calls nobody. -/
theorem complete_silent (answer : IoAnswer) (call : IoInvocation) :
    ¬ Calls ((lift (complete access answer) >>= fun value => pure (.value value) : IoProcedure Reply) owner) call := by
  rintro ⟨next, resume, stopped⟩
  change Progress.bind (lift (complete access answer) owner) _ = _ at stopped
  unfold lift at stopped
  cases ran : complete access answer owner with
  | ok value later =>
    rw [ran] at stopped
    cases stopped
  | error error later =>
    rw [ran] at stopped
    cases stopped

/-- An access calls exactly the callback of the range it reaches. -/
theorem Registry.calls_iff (registry : Registry owner) (access : Access) (call : IoInvocation) :
    Calls (perform (.transfer access) owner) call ↔ access.Fits ∧ owner.dispatchActive = false ∧
      ∃ index, Reaches (leaseOf owner) owner access index ∧ call = invocation owner access index := by
  constructor
  · rintro ⟨next, resume, stopped⟩
    have spec := dispatch_spec registry access
    rw [transfer_eq] at stopped
    cases ran : dispatch access owner with
    | error error later =>
      rw [ran] at stopped
      cases stopped
    | ok called later =>
      rw [ran] at stopped
      cases wp_of_ok spec ran with
      | quiet => cases stopped
      | @calls index idle fits reaches =>
        cases stopped
        exact ⟨fits, idle.2, index, reaches, rfl⟩
  · rintro ⟨fits, idle, index, reaches, rfl⟩
    rw [transfer_eq, dispatch_reaches registry idle fits reaches]
    exact ⟨_, _, rfl⟩

/-- All descriptors are registered under the handles, in order. -/
def AllRegistered (owner : IoResourceOwner) (descriptors : List IoResourceDescriptor) (handles : List ℕ) : Prop :=
  List.Forall₂ (fun descriptor handle => ∃ index, decodeResource owner handle = some index ∧
    (owner.slots index).descriptor = descriptor) descriptors handles

theorem Registry.batch (registry : Registry owner) {descriptors : List IoResourceDescriptor}
    (named : request.batch = some descriptors) :
    (perform request).wp owner (fun reply next => ∃ handles, reply = .resources handles ∧
      AllRegistered next descriptors handles) (fun _ next => next = owner) (fun _ _ _ => False) := by
  have notAccess : ∀ access, request ≠ .transfer access := by
    rintro access rfl
    cases named
  apply Procedure.wp_mono (perform_spec request notAccess)
  · intro reply next step
    cases step with
    | @registered request descriptors' claims named' idle prepared =>
      cases named.symm.trans named'
      have counted := (registry.publish prepared idle.1).counted
      refine ⟨_, rfl, ?_⟩
      unfold AllRegistered
      rw [forall₂_map_right_iff, forall₂_iff_zip]
      refine ⟨prepared.length.symm, fun {descriptor claim} member => ?_⟩
      have inClaims := (of_mem_zip member).2
      have claimed : claim.1 ∈ claims.map Prod.fst := mem_map.mpr ⟨claim, inClaims, rfl⟩
      have slot := (@publishBatch_slots owner _ _ prepared.length prepared.apart).1 _ member
      change (published owner descriptors claims).slots claim.1 = _ at slot
      have handle : makeGenerationHandle claim.1 claim.2 0 = handleOf (published owner descriptors claims) claim.1 := by
        unfold handleOf
        rw [slot]
      refine ⟨claim.1, ?_, by rw [slot]⟩
      rw [handle]
      exact decodeResource_handleOf counted (by simp [published_active, claimed])
    | _ => cases named
  · exact fun _ _ => id
  · exact fun _ _ _ => id

variable {machine : Reentry.Machine Request IoInvocation IoAnswer IoResourceError IoResourceOwner Reply}

/-- An access that is refused before it reaches a callback. -/
theorem transfer_refused {error : IoResourceError} (spec : wp (dispatch access) owner (fun _ _ => False)
    (fun refusal next => refusal = error ∧ next = owner)) : perform (.transfer access) owner = .failed error owner := by
  obtain ⟨_, _, ran, rfl, rfl⟩ := error_of_wp spec
  rw [transfer_eq, ran]

/-- After every sequence of requests and answers, with callbacks that enter the registry again: active ranges are
disjoint, at most one callback runs, a batch registers all or none, an access whose value fits its width calls exactly
the callback of the range that it reaches while none runs, and calls once, one that meets a range partly is denied, every
one is refused while a callback runs, and no number is issued twice. -/
theorem io_dispatch (run : Runs (advance perform) (fun _ _ => True) ⟨clearOwner, []⟩ history machine) :
    (∀ first second, first ≠ second → slotIsActive machine.state first → slotIsActive machine.state second →
      ¬ Overlap (machine.state.slots first).descriptor (machine.state.slots second).descriptor) ∧
    machine.stack.length ≤ 1 ∧ (∀ request descriptors, request.batch = some descriptors →
      (perform request).wp machine.state
        (fun reply next => ∃ handles, reply = .resources handles ∧ AllRegistered next descriptors handles)
        (fun _ next => next = machine.state) (fun _ _ _ => False)) ∧
    (∀ access call, Calls (perform (.transfer access) machine.state) call ↔
      access.Fits ∧ machine.stack = [] ∧
        ∃ index, Reaches (leases history) machine.state access index ∧ call = invocation machine.state access index) ∧
    (∀ access call next resume, perform (.transfer access) machine.state = .calls call next resume →
      ∀ answer later other, ¬ Calls (resume answer later) other) ∧
    (∀ (access : Access) index, access.Fits → machine.stack = [] → widthIsValid access.width →
      slotIsActive machine.state index →
      (machine.state.slots index).descriptor.firstPort.toNat < access.port.toNat + access.width →
      access.port.toNat ≤ (machine.state.slots index).descriptor.lastPort.toNat →
      (access.port.toNat < (machine.state.slots index).descriptor.firstPort.toNat ∨
        (machine.state.slots index).descriptor.lastPort.toNat + 1 < access.port.toNat + access.width) →
      perform (.transfer access) machine.state = .failed .accessDenied machine.state) ∧
    (∀ access : Access, access.Fits → machine.stack ≠ [] →
      perform (.transfer access) machine.state = .failed .invalidState machine.state) ∧ (issued history).Nodup := by
  have sound := sound_run run
  have registry := sound.registry
  have idle : machine.state.dispatchActive = false ↔ machine.stack = [] := by
    rw [sound.idle_iff]
    exact map_eq_nil_iff
  refine ⟨registry.disjoint, ?_, fun request descriptors named => registry.batch named, fun access call => ?_, ?_, ?_,
    ?_, sound.numbers.apart⟩
  · have single := sound.single
    rwa [Reentry.Machine.pending, length_map] at single
  · rw [registry.calls_iff, idle, sound.held]
  · intro access call next resume stopped answer later other
    -- the rest of an access that called is its completion
    obtain ⟨fits, isIdle, index, reaches, rfl⟩ := (registry.calls_iff access call).mp ⟨next, resume, stopped⟩
    rw [transfer_eq, dispatch_reaches registry isIdle fits reaches] at stopped
    cases stopped
    exact complete_silent answer other
  · intro access index fits empty valid active first last partly
    have resolved := resolveAccess_straddles registry valid active ⟨first, last⟩ partly
    apply transfer_refused
    simp only [dispatch, requireIdle, wp_bind, wp_get, wp_failWhen, registry.initialized active, idle.mpr empty, resolved]
    exact ⟨fun unfit => absurd unfit (Access.fits_iff.mp fits), fun _ => ⟨by simp, fun _ => ⟨rfl, rfl⟩⟩⟩
  · intro access fits running
    have busy : machine.state.dispatchActive = true := Bool.eq_true_of_not_eq_false (mt idle.mp running)
    apply transfer_refused
    simp only [dispatch, requireIdle, wp_bind, wp_get, wp_failWhen, busy]
    exact ⟨fun unfit => absurd unfit (Access.fits_iff.mp fits), fun _ => by simp⟩

/-- One port whose byte writes are emulated. -/
def samplePort : IoResourceDescriptor := ⟨2, 3, none, some 7, 0x60, 0x60, 0, 1, .deny, .emulate, 0, [0, 0, 0]⟩

/-- The registry with that port. -/
def sampleMoves : List (Move Request IoAnswer) := [.enter (.registryInitialize 1), .enter (.register samplePort)]

def sampleMachine : Reentry.Machine Request IoInvocation IoAnswer IoResourceError IoResourceOwner Reply :=
  replay (advance perform) ⟨clearOwner, []⟩ sampleMoves

theorem sampleMachine_run : Runs (advance perform) (fun _ _ => True) ⟨clearOwner, []⟩
    (transcript (advance perform) ⟨clearOwner, []⟩ sampleMoves ++ []) sampleMachine :=
  Runs.replay .start sampleMoves

theorem sampleMachine_reaches (leases : ℕ → Option (ℕ × ℕ)) (value : UInt32) :
    Reaches leases sampleMachine.state ⟨4, 0x60, 1, some value⟩ 0 where
  active := by decide +kernel
  first := by
    change (sampleMachine.state.slots 0).descriptor.firstPort.toNat ≤ 0x60
    decide +kernel
  last := by
    change 0x60 + 1 ≤ (sampleMachine.state.slots 0).descriptor.lastPort.toNat + 1
    decide +kernel
  width := by
    change (sampleMachine.state.slots 0).descriptor.writeWidthMask &&& widthMask 1 ≠ 0
    decide +kernel
  action := by
    change isCallbackAction (sampleMachine.state.slots 0).descriptor.writeAction
    decide +kernel
  holder := fun foreground => absurd (by decide +kernel) foreground

theorem io_dispatch_sample : Calls (perform (.transfer ⟨4, 0x60, 1, some 0x41⟩) sampleMachine.state)
    (invocation sampleMachine.state ⟨4, 0x60, 1, some 0x41⟩ 0) :=
  ((io_dispatch sampleMachine_run).2.2.2.1 _ _).mpr
    ⟨by intro value stored; obtain rfl := Option.some.inj stored; decide, rfl, 0, sampleMachine_reaches _ _, rfl⟩

/-- A byte write of 100h reaches the range and calls nobody. -/
theorem oversized_write_is_not_dispatched :
    ∃ history, Runs (advance perform) (fun _ _ => True) ⟨clearOwner, []⟩ history sampleMachine ∧
      sampleMachine.stack = [] ∧ Reaches (leases history) sampleMachine.state ⟨4, 0x60, 1, some 0x100⟩ 0 ∧
      ∀ call, ¬ Calls (perform (.transfer ⟨4, 0x60, 1, some 0x100⟩) sampleMachine.state) call := by
  refine ⟨_, sampleMachine_run, rfl, sampleMachine_reaches _ _, fun call calls => ?_⟩
  have refused : dispatch ⟨4, 0x60, 1, some 0x100⟩ sampleMachine.state =
      .error .invalidArgument sampleMachine.state := rfl
  rw [transfer_eq, refused] at calls
  obtain ⟨next, resume, stopped⟩ := calls
  cases stopped

end DosC32.IoResource
