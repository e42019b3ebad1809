import DosC32.Core.Run
import DosC32.Model.LegacyChipset
import DosC32.Proofs.LegacyPic

/-! # Two-phase interrupt delivery

Between the preparation of an interrupt and its commit or cancel, the source may submit further
events and the guest may try to reach its ports. The submits only add requests, under which a claim
stays valid; the ports are closed. The claim is therefore always committed, with the effect on both
controllers that it names. Delivery tokens are drawn from a sequence that restarts only while no
chipset is active, before any token was drawn.
-/

namespace DosC32.Chipset

open Effect PicPair List

variable {Devices : Type}

/-- A guest access to a port of the chipset. -/
inductive PortAccess where
  | read (callback : ChipsetCallback) (context : ℕ) (port : UInt16) (width : ℕ)
  | write (callback : ChipsetCallback) (context : ℕ) (port : UInt16) (width value : ℕ)

variable (peripherals : Peripherals Devices)

def PortAccess.perform :
    PortAccess → EStateM ChipsetFault (ChipsetOwner Devices) Unit
  | .read callback context port width => do
    let _ ← portRead peripherals callback context port width
  | .write callback context port width value => portWrite peripherals callback context port width value

/-- The calls of the chipset. -/
inductive ChipsetCall where
  | prepare (contextIdentity ownerIdentity : ℕ) (config : ChipsetConfig) (descriptorCapacity : ℕ)
  | publish (contextIdentity : ℕ)
  | abort (contextIdentity : ℕ)
  | poison (contextIdentity : ℕ)
  | sourceBind (contextIdentity ownerIdentity sourceIdentity : ℕ) (config : ChipsetSourceConfig)
  | sourceQuiesce (contextIdentity sourceIdentity : ℕ)
  | sourceResume (contextIdentity sourceIdentity : ℕ)
  | sourceUnbind (contextIdentity sourceIdentity : ℕ)
  | sourceSubmit (contextIdentity sourceIdentity : ℕ) (event : ChipsetSourceEvent)
  | interruptPrepare (contextIdentity ownerIdentity : ℕ)
  | interruptCommit (contextIdentity ownerIdentity : ℕ) (claim : InterruptClaim)
  | interruptCancel (contextIdentity ownerIdentity : ℕ) (claim : InterruptClaim)
  | interruptClaim (contextIdentity ownerIdentity : ℕ)
  | port (access : PortAccess)

/-- A call that returns no claim. -/
def unclaimed {ε : Type} (status : ε → Option ChipsetError) (action : EStateM ε (ChipsetOwner Devices) Unit) :
    EStateM (Option ChipsetError) (ChipsetOwner Devices) (Option InterruptClaim) := do
  mapError status action
  pure none

/-- A call that returns a claim. -/
def claimed (action : ChipsetM Devices InterruptClaim) :
    EStateM (Option ChipsetError) (ChipsetOwner Devices) (Option InterruptClaim) := do
  let claim ← mapError some action
  pure (some claim)

/-- Perform a call; a port access that faults has no status. -/
def perform (blank : Devices) :
    ChipsetCall → EStateM (Option ChipsetError) (ChipsetOwner Devices) (Option InterruptClaim)
  | .prepare context owner config capacity => unclaimed some (prepare peripherals context owner config capacity)
  | .publish context => unclaimed some (publish context)
  | .abort context => unclaimed some (abort blank context)
  | .poison context => unclaimed some (poison context)
  | .sourceBind context owner source config => unclaimed some (sourceBind context owner source config)
  | .sourceQuiesce context source => unclaimed some (sourceQuiesce context source)
  | .sourceResume context source => unclaimed some (sourceResume context source)
  | .sourceUnbind context source => unclaimed some (sourceUnbind context source)
  | .sourceSubmit context source event => unclaimed some (sourceSubmit peripherals context source event)
  | .interruptPrepare context owner => claimed (interruptPrepare context owner)
  | .interruptCommit context owner claim => unclaimed some (interruptCommit context owner claim)
  | .interruptCancel context owner claim => unclaimed some (interruptCancel context owner claim)
  | .interruptClaim context owner => claimed (interruptClaim context owner)
  | .port access => unclaimed (fun _ => none) (access.perform peripherals)

def ChipsetCall.isSubmit : ChipsetCall → Bool
  | .sourceSubmit _ _ _ => true
  | _ => false

def ChipsetCall.isPort : ChipsetCall → Bool
  | .port _ => true
  | _ => false

abbrev History := List (ChipsetCall × Except (Option ChipsetError) (Option InterruptClaim))

/-- The token that a completed call issued. -/
def issuedToken : ChipsetCall × Except (Option ChipsetError) (Option InterruptClaim) → Option ℕ
  | (_, .ok (some claim)) => some claim.deliveryToken
  | _ => none

/-- The tokens issued along a history. -/
def issuedTokens (history : History) : List ℕ := history.filterMap issuedToken

/-- A claim is outstanding. -/
structure Outstanding (contextIdentity ownerIdentity : ℕ) (claim : InterruptClaim) (owner : ChipsetOwner Devices) :
    Prop where
  identities : identityIsValid contextIdentity ∧ identityIsValid ownerIdentity
  context : owner.contextIdentity = contextIdentity
  ownedBy : owner.ownerIdentity = ownerIdentity
  phase : owner.phase = .active
  source : owner.interruptSourcePhase = .active
  prepared : owner.interruptPrepared = true
  recorded : owner.preparedInterrupt = claim
  claimable : owner.pics.Claimable owner.generation claim.deliveryToken claim

variable (blank : Devices) {contextIdentity ownerIdentity : ℕ} {claim : InterruptClaim} {owner : ChipsetOwner Devices}

theorem interruptPrepare_outstanding :
    wp (interruptPrepare contextIdentity ownerIdentity) owner
      (fun claim next => Outstanding contextIdentity ownerIdentity claim next ∧
        next.interruptDeliverySequence = owner.interruptDeliverySequence + 1 ∧
        claim.deliveryToken = owner.interruptDeliverySequence + 1)
      (fun _ next => next = owner) := by
  simp only [interruptPrepare, interruptOwnerStatus, wp_all]
  intro valid _ named live _ _ prepared found
  push Not at valid named live
  exact ⟨valid, named.1, named.2, live.1, live.2, rfl, rfl, prepareInterrupt_claimable _ found⟩

/-- The timer leaves everything but its own state, the requests and the edge counts alone. -/
theorem clockTicks_spec (ticks : ℕ) :
    ∃ pics devices edges coalesced, Grown owner.pics pics ∧
      clockTicks peripherals owner ticks =
        { owner with pics, devices, pitIrq0Edges := edges, pitIrq0CoalescedEdges := coalesced } := by
  unfold clockTicks
  dsimp only
  split
  · exact ⟨owner.pics, _, _, _, .refl _, rfl⟩
  · exact ⟨_, _, _, _, requestIrq_grown owner.pics 0, rfl⟩

/-- A submit adds requests. -/
theorem sourceSubmit_spec {context source : ℕ} {event : ChipsetSourceEvent} :
    wp (sourceSubmit peripherals context source event) owner
      (fun _ next => ∃ pics devices edges coalesced, Grown owner.pics pics ∧
        next = { owner with pics, devices, pitIrq0Edges := edges, pitIrq0CoalescedEdges := coalesced })
      (fun _ next => next = owner) := by
  simp only [sourceSubmit, wp_all, wp_ite]
  intro _ _ _ _
  constructor
  · intro _ _
    exact ⟨_, _, _, _, requestIrq_grown owner.pics event.irq, rfl⟩
  · intro _ _
    exact clockTicks_spec peripherals _

variable (outstanding : Outstanding contextIdentity ownerIdentity claim owner)
include outstanding

theorem Outstanding.submit (context source : ℕ) (event : ChipsetSourceEvent) :
    Leaves (sourceSubmit peripherals context source event) owner
      (Outstanding contextIdentity ownerIdentity claim) := by
  apply wp_mono (sourceSubmit_spec peripherals)
  · rintro _ next ⟨pics, devices, edges, coalesced, grown, rfl⟩
    exact { outstanding with claimable := outstanding.claimable.of_grown grown }
  · rintro _ next rfl
    exact outstanding

/-- While a claim is outstanding every port is closed. -/
theorem Outstanding.access (access : PortAccess) :
    wp (access.perform peripherals) owner (fun _ _ => False) (fun _ next => next = owner) := by
  have closed : ∀ context, ¬ isActiveOwner owner context := fun context active => by
    have differs := outstanding.prepared.symm.trans active.2.2
    cases differs
  cases access with
  | read | write =>
    simp only [PortAccess.perform, portRead, portWrite, wp_all]
    exact fun reached => absurd (Or.inl (closed _)) reached

theorem Outstanding.requireClaim :
    wp (requireClaim contextIdentity ownerIdentity claim) owner (fun _ next => next = owner) (fun _ _ => False) := by
  have reserved : claim.reserved.all (· == 0) := by
    rw [outstanding.claimable.reserved]
    rfl
  have same : interruptClaimMatches owner.preparedInterrupt claim := by
    rw [outstanding.recorded]
    exact ⟨rfl, rfl, rfl, rfl, rfl, rfl, rfl, reserved, reserved⟩
  simp [Chipset.requireClaim, interruptOwnerStatus, outstanding.identities, outstanding.context, outstanding.ownedBy,
    outstanding.phase, outstanding.source, outstanding.prepared, same]

/-- An outstanding claim is committed. -/
theorem Outstanding.commit :
    ∃ pics, interruptCommit contextIdentity ownerIdentity claim owner = .ok () (forgetClaim { owner with pics }) ∧
      Acknowledged owner.pics pics claim := by
  obtain ⟨pics, committed, acknowledged⟩ := outstanding.claimable.commit
  refine ⟨pics, ?_, acknowledged⟩
  apply eq_ok_of_wp
  simp only [interruptCommit, wp_bind]
  apply wp_returns outstanding.requireClaim
  rintro _ _ rfl
  simp [committed]

/-- An outstanding claim is cancelled. -/
theorem Outstanding.cancel :
    interruptCancel contextIdentity ownerIdentity claim owner = .ok () (forgetClaim owner) := by
  apply eq_ok_of_wp
  simp only [interruptCancel, wp_bind]
  apply wp_returns outstanding.requireClaim
  rintro _ _ rfl
  simp

omit outstanding

theorem final_unclaimed {ε : Type} (status : ε → Option ChipsetError) (action : EStateM ε (ChipsetOwner Devices) Unit) :
    final (unclaimed status action) owner = final action owner := by
  unfold final unclaimed
  simp only [bind, EStateM.bind, mapError]
  cases action owner <;> rfl

theorem Outstanding.access_unchanged (outstanding : Outstanding contextIdentity ownerIdentity claim owner)
    (access : PortAccess) : final (perform peripherals blank (.port access)) owner = owner := by
  have spec : Leaves (access.perform peripherals) owner (fun next => next = owner) :=
    wp_fails (outstanding.access peripherals access) fun _ _ => id
  rw [perform, final_unclaimed]
  exact wp_final spec

/-- The claim stays outstanding, and only the submits have an effect. -/
theorem Outstanding.replay (outstanding : Outstanding contextIdentity ownerIdentity claim owner)
    (between : List ChipsetCall) (only : between.all fun call => call.isSubmit || call.isPort) :
    Outstanding contextIdentity ownerIdentity claim (replay (perform peripherals blank) owner between) ∧
      replay (perform peripherals blank) owner between =
        replay (perform peripherals blank) owner (between.filter ChipsetCall.isSubmit) := by
  induction between generalizing owner with
  | nil => exact ⟨outstanding, rfl⟩
  | cons call rest ih =>
    rw [all_cons, Bool.and_eq_true] at only
    cases call with
    | sourceSubmit context source event =>
      apply ih _ only.2
      have submitted := wp_final (outstanding.submit peripherals context source event)
      rwa [← final_unclaimed some] at submitted
    | port access =>
      have unchanged := outstanding.access_unchanged peripherals blank access
      have tail := ih outstanding only.2
      simp only [replay, foldl_cons, unchanged] at tail ⊢
      exact tail
    | _ => cases only.1

/-- No chipset is active yet. -/
def Inactive (owner : ChipsetOwner Devices) : Prop := owner.phase = .empty ∨ owner.phase = .prepared

/-- What a call that issues no token does to the sequence of tokens. -/
def Kept (before after : ChipsetOwner Devices) : Prop :=
  Inactive before ∨ after.interruptDeliverySequence = before.interruptDeliverySequence ∧ ¬ Inactive after

/-- The tokens issued so far are apart and belong to the past of the sequence. -/
structure Issued (tokens : List ℕ) (owner : ChipsetOwner Devices) : Prop where
  apart : tokens.Nodup
  drawn : ∀ token ∈ tokens, token ≤ owner.interruptDeliverySequence
  active : Inactive owner → tokens = []

variable {before after : ChipsetOwner Devices} {tokens : List ℕ}

theorem Kept.refl (owner : ChipsetOwner Devices) : Kept owner owner := by
  by_cases inactive : Inactive owner
  · exact .inl inactive
  · exact .inr ⟨rfl, inactive⟩

theorem Issued.kept (issued : Issued tokens before) (kept : Kept before after) : Issued tokens after := by
  rcases kept with inactive | ⟨sequence, active⟩
  · rw [issued.active inactive]
    exact ⟨nodup_nil, fun token member => absurd member not_mem_nil, fun _ => rfl⟩
  · exact ⟨issued.apart, by rw [sequence]; exact issued.drawn, fun inactive => absurd inactive active⟩

theorem Issued.draw (issued : Issued tokens before)
    (sequence : after.interruptDeliverySequence = before.interruptDeliverySequence + 1) (active : ¬ Inactive after) :
    Issued ((before.interruptDeliverySequence + 1) :: tokens) after where
  apart := nodup_cons.mpr ⟨fun member => by have := issued.drawn _ member; omega, issued.apart⟩
  drawn := by
    intro token member
    rw [sequence]
    rcases mem_cons.mp member with rfl | member
    · exact Nat.le_refl _
    · exact Nat.le_succ_of_le (issued.drawn token member)
  active := fun inactive => absurd inactive active

/-- A call that issues no token. -/
def Silent {ε α : Type} (action : EStateM ε (ChipsetOwner Devices) α) : Prop :=
  ∀ owner, Leaves action owner (Kept owner)

variable (context identity : ℕ)

theorem Kept.of_active (sequence : after.interruptDeliverySequence = before.interruptDeliverySequence)
    (phase : after.phase = before.phase) : Kept before after := by
  unfold Kept Inactive
  rw [sequence, phase]
  exact Kept.refl before

theorem requirePrepared_spec (owner : ChipsetOwner Devices) :
    wp (requirePrepared context) owner (fun _ next => next = owner ∧ owner.phase = .prepared)
      (fun _ next => next = owner) := by
  simp only [requirePrepared, wp_all, not_not]
  exact fun _ _ _ => id

theorem silent_prepare (config : ChipsetConfig) (capacity : ℕ) :
    Silent (prepare peripherals context identity config capacity) := by
  intro owner
  simp only [prepare, wp_all, Kept.refl, not_not]
  exact fun _ _ _ empty _ => .inl (.inl empty)

theorem silent_of_prepared (update : ChipsetOwner Devices → ChipsetOwner Devices) :
    Silent (do requirePrepared context; modify update) := by
  intro owner
  simp only [wp_rules]
  apply wp_mono (requirePrepared_spec context owner)
  · rintro _ next ⟨rfl, prepared⟩
    exact .inl (.inr prepared)
  · rintro _ next rfl
    exact .refl _

theorem silent_poison : Silent (poison context : ChipsetM Devices Unit) := by
  intro owner
  simp only [poison, wp_all, Kept.refl]
  intro _ _ _
  refine .inr ⟨rfl, fun inactive => ?_⟩
  rcases inactive with empty | prepared
  · cases empty
  · cases prepared

theorem silent_sourceSubmit (event : ChipsetSourceEvent) :
    Silent (sourceSubmit peripherals context identity event) := by
  intro owner
  apply wp_mono (sourceSubmit_spec peripherals)
  · rintro _ next ⟨pics, devices, edges, coalesced, _, rfl⟩
    exact .of_active rfl rfl
  · rintro _ next rfl
    exact .refl _

theorem silent_access (access : PortAccess) : Silent (access.perform peripherals) := by
  intro owner
  cases access with
  | read | write =>
    simp only [PortAccess.perform, portRead, portWrite, wp_all, wp_ite, Kept.refl]
    exact fun _ => ⟨fun _ _ _ => .of_active rfl rfl, fun _ _ _ => .of_active rfl rfl⟩

/-- The tokens after a call. -/
def Continues (tokens : List ℕ) (call : ChipsetCall) (outcome : Except (Option ChipsetError) (Option InterruptClaim))
    (owner : ChipsetOwner Devices) : Prop :=
  Issued ((issuedToken (call, outcome)).toList ++ tokens) owner

theorem Silent.continues {ε : Type} {status : ε → Option ChipsetError}
    {action : EStateM ε (ChipsetOwner Devices) Unit} (silent : Silent action) (issued : Issued tokens owner)
    (call : ChipsetCall) :
    wp (unclaimed status action) owner (fun value next => Continues tokens call (.ok value) next)
      (fun error next => Continues tokens call (.error error) next) := by
  simp only [unclaimed, wp_rules]
  exact wp_mono (silent owner) (fun _ next kept => issued.kept kept) fun _ next kept => issued.kept kept

theorem Outstanding.active (outstanding : Outstanding context identity claim owner) : ¬ Inactive owner := by
  unfold Inactive
  rw [outstanding.phase]
  simp

/-- A call that draws the next token. -/
theorem claimed_continues (issued : Issued tokens owner) (call : ChipsetCall) {action : ChipsetM Devices InterruptClaim}
    (draws : wp action owner (fun claim next => ¬ Inactive next ∧
      next.interruptDeliverySequence = owner.interruptDeliverySequence + 1 ∧
      claim.deliveryToken = owner.interruptDeliverySequence + 1) (fun _ next => next = owner)) :
    wp (claimed action) owner (fun value next => Continues tokens call (.ok value) next)
      (fun error next => Continues tokens call (.error error) next) := by
  simp only [claimed, wp_rules]
  apply wp_mono draws
  · rintro claim next ⟨active, sequence, token⟩
    simp only [Continues, issuedToken, token]
    exact issued.draw sequence active
  · rintro _ next rfl
    exact issued

theorem perform_continues (issued : Issued tokens owner) (call : ChipsetCall) :
    wp (perform peripherals blank call) owner (fun value next => Continues tokens call (.ok value) next)
      (fun error next => Continues tokens call (.error error) next) := by
  cases call with
  | prepare context identity config capacity =>
    exact (silent_prepare peripherals context identity config capacity).continues issued _
  | publish context | abort context => exact (silent_of_prepared context _).continues issued _
  | poison context => exact (silent_poison context).continues issued _
  | sourceBind | sourceQuiesce | sourceResume | sourceUnbind | interruptCommit | interruptCancel =>
    refine Silent.continues (fun owner => ?_) issued _
    simp only [sourceBind, sourceQuiesce, sourceResume, sourceUnbind, sourceIdentityStatus, interruptCommit,
      interruptCancel, requireClaim, interruptOwnerStatus, wp_all, Kept.refl]
    intros
    exact .of_active rfl rfl
  | sourceSubmit context source event => exact (silent_sourceSubmit peripherals context source event).continues issued _
  | interruptPrepare context identity =>
    apply claimed_continues issued
    exact wp_mono_done interruptPrepare_outstanding fun _ _ drawn => ⟨drawn.1.active _ _, drawn.2⟩
  | interruptClaim context identity =>
    apply claimed_continues issued
    simp only [interruptClaim, wp_rules]
    apply wp_mono_done interruptPrepare_outstanding
    rintro claim next ⟨outstanding, drawn⟩
    obtain ⟨pics, committed, _⟩ := outstanding.commit
    simp only [wp, committed]
    exact ⟨outstanding.active _ _, drawn⟩
  | port access => exact (silent_access peripherals access).continues issued _

theorem issuedTokens_cons (entry : ChipsetCall × Except (Option ChipsetError) (Option InterruptClaim)) (history : History) :
    issuedTokens (entry :: history) = (issuedToken entry).toList ++ issuedTokens history := by
  unfold issuedTokens
  rw [filterMap_cons]
  cases issuedToken entry <;> rfl

/-- Along any run from power-on the tokens issued are apart. -/
theorem tokens_issued {history : History}
    (run : Runs (perform peripherals blank) (fun _ _ => True) (emptyOwner blank 0) history owner) :
    Issued (issuedTokens history) owner := by
  apply run.invariant (fun history owner => Issued (issuedTokens history) owner)
  · exact ⟨nodup_nil, fun token member => absurd member not_mem_nil, fun _ => rfl⟩
  · intro history owner call issued _
    simp only [issuedTokens_cons]
    exact perform_continues peripherals blank issued call

/-- In every reachable state, a prepared interrupt is delivered or cancelled whatever the source submits in between, the
ports are closed until then, and no token is issued twice. -/
theorem interrupt_delivery (peripherals : Peripherals Devices) (blank : Devices) {history : History}
    {owner : ChipsetOwner Devices}
    (run : Runs (perform peripherals blank) (fun _ _ => True) (emptyOwner blank 0) history owner) :
    (issuedTokens history).Nodup ∧
    ∀ (contextIdentity ownerIdentity : ℕ) (claim : InterruptClaim) (prepared : ChipsetOwner Devices),
      interruptPrepare contextIdentity ownerIdentity owner = .ok claim prepared →
      ∀ between : List ChipsetCall, (between.all fun call => call.isSubmit || call.isPort) →
        let now := replay (perform peripherals blank) prepared between
        now = replay (perform peripherals blank) prepared (between.filter ChipsetCall.isSubmit) ∧
        (∀ access, final (perform peripherals blank (.port access)) now = now) ∧
        (∃ pics, interruptCommit contextIdentity ownerIdentity claim now = .ok () (forgetClaim { now with pics }) ∧
          Acknowledged now.pics pics claim) ∧
        interruptCancel contextIdentity ownerIdentity claim now = .ok () (forgetClaim now) := by
  refine ⟨(tokens_issued peripherals blank run).apart, ?_⟩
  intro contextIdentity ownerIdentity claim prepared ran between only now
  obtain ⟨outstanding, _⟩ := wp_of_ok interruptPrepare_outstanding ran
  obtain ⟨still, same⟩ := outstanding.replay peripherals blank between only
  exact ⟨same, still.access_unchanged peripherals blank, still.commit, still.cancel⟩

/-- Devices without state, whose clock never reaches the interrupt output. -/
def idlePeripherals : Peripherals Unit :=
  ⟨fun _ => (), fun devices _ => (devices, 0), fun _ _ _ => none, fun _ _ _ _ => none⟩

/-- Vectors 08h and 70h, nothing masked, the cascade at level two and no clock. -/
def sampleConfig : ChipsetConfig where
  rtcYear := 0
  pitReload := fun _ => 0
  picVectorBase := fun controller => if controller = 0 then 0x08 else 0x70
  picMask := fun _ => 0
  pitAccess := fun _ => 3
  pitMode := fun _ => 3
  pitBcd := fun _ => 0
  rtcSecond := 0
  rtcMinute := 0
  rtcHour := 0
  rtcWeekday := 0
  rtcDay := 0
  rtcMonth := 0
  rtcStatusA := 0x26
  rtcStatusB := 0x02
  rtcValid := 0
  picCascadeConfig := fun controller => if controller = 0 then 0x04 else 0x02

def edge (irq : ℕ) : ChipsetCall := .sourceSubmit 1 3 ⟨0, .irqEdge, irq, [0, 0, 0]⟩

/-- An active chipset with an edge on line ten. -/
def sampleCalls : List ChipsetCall :=
  [.prepare 1 2 sampleConfig 10, .publish 1, .sourceBind 1 2 3 ⟨0, 2, 0, [0, 0, 0]⟩, edge 10]

/-- A higher line and a guest that masks everything come between. -/
def sampleBetween : List ChipsetCall := [edge 1, .port (.write .pic 1 0x21 1 0xff), edge 10]

theorem interrupt_delivery_sample :
    ∃ claim prepared pics,
      interruptPrepare 1 2 (replay (perform idlePeripherals ()) (emptyOwner () 0) sampleCalls) = .ok claim prepared ∧
      claim.irq = 10 ∧
      interruptCommit 1 2 claim (replay (perform idlePeripherals ()) prepared sampleBetween) =
        .ok () (forgetClaim { replay (perform idlePeripherals ()) prepared sampleBetween with pics }) ∧
      Acknowledged (replay (perform idlePeripherals ()) prepared sampleBetween).pics pics claim := by
  have prepares : (outcome (interruptPrepare 1 2)
      (replay (perform idlePeripherals ()) (emptyOwner () 0) sampleCalls)).map InterruptClaim.irq = .ok 10 := by
    decide +kernel
  have run : Runs (perform idlePeripherals ()) (fun _ _ => True) (emptyOwner () 0) [] (emptyOwner () 0) := .start
  cases ran : interruptPrepare 1 2 (replay (perform idlePeripherals ()) (emptyOwner () 0) sampleCalls) with
  | ok claim prepared =>
    obtain ⟨pics, committed, acknowledged⟩ := ((interrupt_delivery idlePeripherals () (run.replay sampleCalls)).2
      1 2 claim prepared ran sampleBetween (by decide)).2.2.1
    rw [outcome, ran] at prepares
    exact ⟨claim, prepared, pics, rfl, Except.ok.inj prepares, committed, acknowledged⟩
  | error status next =>
    rw [outcome, ran] at prepares
    cases prepares

end DosC32.Chipset
