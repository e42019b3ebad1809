import DosC32.Proofs.FirmwareShadow
import DosC32.Soundness.GuestMemory

/-! # Isolation of the firmware pages

A run starts from the tables of boot with an owner that was just initialised. The calls of the shadow
owner, changes of the processor's bits, and allocations and releases for other owners come in any
order. What the guest may write in the firmware window is always memory leased to its address space.
-/

namespace DosC32.FirmwareShadow

open Effect X86Paging GuestMemory Finset

inductive ShadowCall where
  | acquire (machineIdentity : ℕ)
  | release (machineIdentity : ℕ) (binding : FirmwareBinding) (zeros : Fin pageCapacity → GuestZeroStatus)
  | quarantine (machineIdentity : ℕ) (binding : FirmwareBinding)
  | writeFault (machineIdentity : ℕ) (binding : FirmwareBinding) (pageFaultError : BitVec 32) (faultAddress : ℕ)
      (allocateZero : GuestZeroStatus) (copied : Bool) (rollbackZero : GuestZeroStatus)
  | processor (entries directory : ℕ → BitVec 32)
  | foreign (call : MemoryCall)

/-- The accessed and dirty bits of an entry are what the processor makes them. -/
def withCpuState (entry bits : BitVec 32) : BitVec 32 := entry &&& ~~~pageHardwareMutable ||| bits &&& pageHardwareMutable

/-- Perform a call; an acquisition returns its binding. -/
def perform : ShadowCall → FirmwareM (Option FirmwareBinding)
  | .acquire machineIdentity => do
    let binding ← executionAcquire machineIdentity
    pure (some binding)
  | .release machineIdentity binding zeros => do
    executionRelease machineIdentity binding zeros
    pure none
  | .quarantine machineIdentity binding => do
    executionQuarantine machineIdentity binding
    pure none
  | .writeFault machineIdentity binding pageFaultError faultAddress allocateZero copied rollbackZero => do
    writeFault machineIdentity binding pageFaultError faultAddress allocateZero copied rollbackZero
    pure none
  | .processor entries directory => do
    modify fun state => { state with paging := { state.paging with
      identityPageTables := fun page => withCpuState (state.paging.identityPageTables page) (entries page)
      pageDirectory := fun table => withCpuState (state.paging.pageDirectory table) (directory table) } }
    pure none
  | .foreign call => do
    let _ ← onMemory (GuestMemory.perform call)
    pure none

/-- The owner in whose name a call of the manager is made. -/
def callOwner : MemoryCall → ℕ
  | .allocate owner _ _ => owner
  | .release owner _ _ => owner

/-- Only the shadow owner acts for the address space. -/
def Foreign (space : ℕ) (_ : FirmwareState) : ShadowCall → Prop
  | .foreign call => callOwner call ≠ space
  | _ => True

section Run

variable {base : X86Paging} {space : ℕ} {start state : FirmwareState}
    {history : List (ShadowCall × Except FirmwareShadowError (Option FirmwareBinding))}

theorem agree_withCpuState (entry bits : BitVec 32) : Agree (withCpuState entry bits) entry := by
  unfold Agree withCpuState
  rw [BitVec.and_or_distrib_right, BitVec.and_assoc, BitVec.and_self, BitVec.and_assoc, BitVec.and_not_self,
    show bits &&& 0 = 0 from BitVec.and_zero]
  exact BitVec.or_zero

variable (isolated : Isolated base space state)
include isolated

theorem Isolated.processor (entries directory : ℕ → BitVec 32) :
    Isolated base space { state with paging := { state.paging with
      identityPageTables := fun page => withCpuState (state.paging.identityPageTables page) (entries page)
      pageDirectory := fun table => withCpuState (state.paging.pageDirectory table) (directory table) } } := by
  obtain ⟨same, enabled, limit, boot, active⟩ := isolated.tables.mirrors
  refine ⟨isolated.identity, isolated.bound, isolated.leases, ?_, isolated.clients⟩
  apply isolated.tables.touch
  · exact ⟨fun table => (agree_withCpuState _ _).trans (same table), enabled, limit, boot, active⟩
  · exact fun page => agree_withCpuState _ _

theorem Isolated.foreign {call : MemoryCall} (foreign : callOwner call ≠ space) :
    Leaves (onMemory (GuestMemory.perform call)) state (Isolated base space) := by
  rw [Leaves, wp_onMemory]
  cases call with
  | allocate owner count zero =>
    simp only [GuestMemory.perform, wp_rules]
    exact Leaves.mono (allocate_keeps isolated.leases.sound foreign count zero) fun _ => isolated.keeps
  | release owner lease zero =>
    simp only [GuestMemory.perform, wp_rules]
    exact Leaves.mono (release_keeps isolated.leases.sound foreign lease zero) fun _ => isolated.keeps

/-- Every step of a run keeps the isolation. -/
theorem isolated_step {call : ShadowCall} (allowed : Foreign space state call) :
    Leaves (perform call) state (Isolated base space) := by
  cases call with
  | acquire machineIdentity =>
    simp only [perform, wp_rules]
    exact executionAcquire_keeps machineIdentity state isolated
  | release machineIdentity binding zeros =>
    simp only [perform, wp_rules]
    exact wp_mono (executionRelease_spec isolated) (fun _ _ left => left.1)
      (fun _ _ => id)
  | quarantine machineIdentity binding =>
    simp only [perform, wp_rules]
    exact executionQuarantine_keeps machineIdentity binding state isolated
  | writeFault machineIdentity binding pageFaultError faultAddress allocateZero copied rollbackZero =>
    simp only [perform, wp_rules]
    exact writeFault_keeps state isolated
  | processor entries directory =>
    simp only [perform, wp_rules]
    exact isolated.processor entries directory
  | foreign call =>
    simp only [perform, wp_rules]
    exact isolated.foreign allowed

omit isolated

/-- The start of a run. -/
theorem isolated_start {bootInfo : BootInfo} {zeroContext machine generation : ℕ} {manager memory : GuestMemoryManager}
    {owner : FirmwareShadowOwner} {binding : PagingBinding}
    (accepted : guestMemoryInitialize bootInfo zeroContext manager = .ok () memory)
    (started : firmwareShadowInitialize space machine generation binding ⟨owner, base, memory⟩ = .ok () start) :
    Isolated base space start := by
  obtain ⟨⟨sound, -⟩, -, fresh⟩ := wp_of_ok guestMemoryInitialize_spec accepted
  have spec : wp (firmwareShadowInitialize space machine generation binding) ⟨owner, base, memory⟩
      (fun _ next => base.bindingIsActive binding = true ∧
        next = ⟨initialOwner space machine generation binding, base, memory⟩) (fun _ _ => True) := by
    simp only [firmwareShadowInitialize, wp_all, wp_changeOwner, Bool.not_eq_false, imp_self]
  obtain ⟨bound, rfl⟩ := wp_of_ok spec started
  constructor
  · rfl
  · exact bound
  · constructor
    · exact sound
    · exact fun _ some => absurd rfl some
    · exact fun _ _ some => absurd rfl some
    · exact fun _ _ _ some => absurd rfl some
    · intro slot live
      rw [fresh] at live
      cases live
  · constructor
    · exact ⟨fun _ => Agree.refl _, rfl, rfl, rfl, rfl⟩
    · intro index active
      cases active
    · exact fun _ _ => Agree.refl _
  · refine (card_eq_zero.mpr (filter_eq_empty_iff.mpr fun index _ active => ?_)).symm
    cases active

end Run

variable {present : ℕ → Bool} {frames : ℕ → ℕ} {tableCount directory space : ℕ} {state : FirmwareState}

/-- A page of the firmware window, `C0000h` to `FFFFFh`. -/
def FirmwarePage (page : ℕ) : Prop := dosVideoLimit ≤ page * pageBytes ∧ page * pageBytes < legacyRomLimit

variable (paging : X86Paging)

/-- The entry lets the guest write. -/
def GuestWritable (page : ℕ) : Prop :=
  paging.identityPageTables page &&& requiredFlags true = requiredFlags true

/-- The physical page that an entry maps. -/
def frameOf (page : ℕ) : ℕ := (paging.identityPageTables page &&& pageAddressMask).toNat

variable (isolated : Isolated (afterBoot present frames tableCount directory) space state) {address page : ℕ}
include isolated

/-- The guest writes in the firmware window through active records only. -/
theorem active_of_writable (firmware : FirmwarePage page) (writable : GuestWritable state.paging page) :
    ∃ index, (state.owner.pages index).state = .active ∧ (state.owner.pages index).linearPage / pageBytes = page := by
  by_contra none
  push Not at none
  have agree := isolated.tables.plain page none
  unfold GuestWritable at writable
  rw [agree.flags true] at writable
  obtain ⟨-, access⟩ := afterBoot_writable present frames tableCount directory writable
  obtain ⟨lower, upper⟩ := firmware
  unfold bootPageAccess at access
  unfold dosVideoLimit at lower
  rw [if_neg (by unfold legacyVideoBase; omega), if_neg (by unfold dosVideoLimit; omega), if_pos upper] at access
  cases access

/-- What an active record stands for. -/
theorem Isolated.active {index : Fin pageCapacity} (active : (state.owner.pages index).state = .active) :
    ∃ slot, Backs state.memory space (state.owner.pages index) slot ∧
      Holds state.memory slot (state.memory.leases slot).firstPage ∧
      (state.memory.leases slot).firstPage < guestMemoryPageCount ∧
      frameOf state.paging ((state.owner.pages index).linearPage / pageBytes) =
        pageAddress (state.memory.leases slot).firstPage ∧
      state.paging.privateShadowTargetIsSafe (pageAddress (state.memory.leases slot).firstPage) = true := by
  obtain ⟨-, -, -, slot, backs⟩ := isolated.leases.recorded index (present_of_active active)
  obtain ⟨-, published, -, entry⟩ := isolated.tables.shadowed index active
  have holds : Holds state.memory slot (state.memory.leases slot).firstPage := by
    refine ⟨backs.live, Nat.le_refl _, ?_⟩
    rw [backs.single]
    exact Nat.lt_succ_self _
  have inside : (state.memory.leases slot).firstPage < guestMemoryPageCount := by
    have within := isolated.leases.sound.within slot ((mem_unitsAt_iff state.memory slot _).mpr holds)
    exact mem_range.mp (mem_filter.mp within).1
  have safe := (isolated.published.mpr published).safe
  refine ⟨slot, backs, holds, inside, ?_, ?_⟩
  · unfold frameOf
    rw [entry.address, shadowEntry_address published.aligned, BitVec.toNat_ofNat, ← backs.address]
    apply Nat.mod_eq_of_lt
    unfold guestMemoryPageCount guestMemoryApertureLimit guestMemoryBase guestPageBytes at inside
    unfold pageAddress guestMemoryBase guestPageBytes
    omega
  · rwa [← backs.address] at safe

/-- Two writable entries of the window map different pages. -/
theorem writable_apart {other : ℕ} (firmware : FirmwarePage page) (firmware' : FirmwarePage other)
    (writable : GuestWritable state.paging page) (writable' : GuestWritable state.paging other)
    (same : frameOf state.paging page = frameOf state.paging other) : page = other := by
  obtain ⟨index, active, rfl⟩ := active_of_writable isolated firmware writable
  obtain ⟨index', active', rfl⟩ := active_of_writable isolated firmware' writable'
  obtain ⟨slot, backs, holds, -, frame, -⟩ := isolated.active active
  obtain ⟨slot', backs', holds', -, frame', -⟩ := isolated.active active'
  rw [frame, frame'] at same
  have first : (state.memory.leases slot).firstPage = (state.memory.leases slot').firstPage := by
    unfold pageAddress guestMemoryBase guestPageBytes at same
    omega
  rw [first] at holds
  obtain rfl := isolated.leases.sound.unique holds holds'
  rw [isolated.leases.apart index index' slot (present_of_active active) (present_of_active active') backs backs']

/-- No entry of the tables lets the guest write to a page of the firmware. -/
theorem firmware_unwritable {entry : ℕ} (firmware : FirmwarePage page)
    (inside : entry < bootPageTableCapacity * pageTableEntries) (writable : GuestWritable state.paging entry) :
    frameOf state.paging entry ≠ page * pageBytes := by
  obtain ⟨lower, upper⟩ := firmware
  by_cases window : FirmwarePage entry
  · obtain ⟨index, active, rfl⟩ := active_of_writable isolated window writable
    obtain ⟨slot, -, -, -, frame, -⟩ := isolated.active active
    rw [frame]
    unfold pageAddress guestMemoryBase guestPageBytes
    unfold legacyRomLimit at upper
    omega
  · have plain : ∀ index, (state.owner.pages index).state = .active →
        (state.owner.pages index).linearPage / pageBytes ≠ entry := by
      rintro index active rfl
      obtain ⟨low, high, aligned, -⟩ := isolated.leases.recorded index (present_of_active active)
      have same : (state.owner.pages index).linearPage / pageBytes * pageBytes = (state.owner.pages index).linearPage :=
        Nat.div_mul_cancel (Nat.dvd_of_mod_eq_zero aligned)
      refine window ⟨?_, ?_⟩
      · rw [same]
        exact low
      · rw [same]
        exact high
    have agree := isolated.tables.plain entry plain
    unfold GuestWritable at writable
    rw [agree.flags true] at writable
    obtain ⟨address, access⟩ := afterBoot_writable present frames tableCount directory writable
    unfold frameOf
    rw [agree.address, address, BitVec.toNat_ofNat]
    intro same
    have own : entry * pageBytes = page * pageBytes := by
      unfold bootPageTableCapacity bootIdentityLimit pageTableSpan pageBytes pageTableEntries at inside
      rw [← same]
      symm
      apply Nat.mod_eq_of_lt
      unfold pageBytes
      omega
    refine window ⟨?_, ?_⟩
    · rw [own]
      exact lower
    · rw [own]
      exact upper

omit isolated

/-- The walk of the processor for an access of the guest. -/
def walk (address : ℕ) (writable : Bool) : Option PagingTranslation :=
  if paging.pageDirectory (address / pageTableSpan) &&& requiredFlags writable = requiredFlags writable ∧
      paging.identityPageTables (address / pageBytes) &&& requiredFlags writable = requiredFlags writable then
    some ⟨frameOf paging (address / pageBytes) + address % pageBytes, pageBytes - address % pageBytes⟩
  else none

/-- The owner is active and no record of the page awaits its release. -/
def Settled (state : FirmwareState) (address : ℕ) : Prop :=
  ownerIsActive state = true ∧ ∀ index, (state.owner.pages index).state ≠ .empty →
    (state.owner.pages index).linearPage = address / pageBytes * pageBytes → (state.owner.pages index).state = .active

/-- The owner refuses where it is not settled. -/
theorem translate_unsettled (isolated : Isolated (afterBoot present frames tableCount directory) space state)
    (unsettled : ¬ Settled state address) (writable : Bool) : translate state address writable = none := by
  unfold translate
  split
  · rfl
  next inside =>
    push Not at inside
    have active := Bool.eq_true_of_not_eq_false inside.1
    cases found : findPage state.owner (address / pageBytes * pageBytes) with
    | none =>
      exact absurd ⟨active, fun index some same => absurd same (findPage_none found index some)⟩ unsettled
    | some index =>
      obtain ⟨some, named⟩ := findPage_some found
      dsimp only
      split
      · rfl
      next isActive =>
        rw [not_not] at isActive
        refine absurd ⟨active, fun other some' same => ?_⟩ unsettled
        rw [isolated.leases.linear other index some' some (same.trans named.symm)]
        exact isActive

variable (mirrors : Mirrors (afterBoot present frames tableCount directory) state.paging)
include mirrors

/-- The guest reaches the first table only. -/
theorem directory_permits (address : ℕ) (writable : Bool) :
    state.paging.pageDirectory (address / pageTableSpan) &&& requiredFlags writable = requiredFlags writable ↔
      state.paging.guestDirectoryIsUserAccessible address = true := by
  have first : ∀ writable, state.paging.pageDirectory (address / pageTableSpan) &&& requiredFlags writable =
      requiredFlags writable ↔ address / pageTableSpan = 0 ∧ 0 < tableCount := by
    intro writable
    rw [(mirrors.directory _).flags writable]
    exact afterBoot_directory present frames tableCount directory _ writable
  have read := first false
  unfold requiredFlags at read
  rw [first writable]
  unfold guestDirectoryIsUserAccessible
  rw [Bool.and_eq_true, decide_eq_true_eq, beq_iff_eq]
  constructor
  · intro permits
    refine ⟨?_, read.mpr permits⟩
    rw [permits.1]
    decide
  · exact fun permits => read.mp permits.2

/-- The pages that the guest reaches have an entry. -/
theorem bootPageEntry_of_user (user : state.paging.guestDirectoryIsUserAccessible address = true) :
    address / pageBytes * pageBytes < pageTableSpan ∧
      state.paging.bootPageEntry (address / pageBytes * pageBytes) = some (address / pageBytes) := by
  have permits := (directory_permits mirrors address false).mpr user
  rw [(mirrors.directory _).flags false, afterBoot_directory] at permits
  obtain ⟨first, mapped⟩ := permits
  have below : address / pageBytes * pageBytes < pageTableSpan := by
    unfold pageTableSpan pageBytes pageTableEntries at first ⊢
    omega
  have table : address / pageBytes * pageBytes / pageTableSpan = 0 := Nat.div_eq_of_lt below
  have limit : pageTableSpan ≤ tableCount * pageTableSpan := Nat.le_mul_of_pos_left _ mapped
  have present' : (afterBoot present frames tableCount directory).pageDirectory 0 &&& pagePresent ≠ 0 := by
    have permits := (afterBoot_directory present frames tableCount directory 0 false).mpr ⟨rfl, mapped⟩
    intro absent
    have bit := congrArg (· &&& pagePresent) permits
    simp only [BitVec.and_assoc] at bit
    rw [show requiredFlags false &&& pagePresent = pagePresent by decide, absent] at bit
    exact absurd bit (by decide)
  refine ⟨below, ?_⟩
  rw [mirrors.bootPageEntry]
  unfold bootPageEntry
  rw [table, if_neg]
  · rw [Nat.mul_div_cancel _ (by decide)]
  · push Not
    refine ⟨?_, ?_, by decide, present'⟩
    · simp only [activeBootPageDirectory, afterBoot, Bool.true_and, beq_self_eq_true, Bool.and_true, ne_eq,
        Bool.not_eq_false]
      exact decide_eq_true (Nat.le_trans (show dosVideoLimit ≤ pageTableSpan by decide) limit)
    · exact below.trans_le limit

omit mirrors

include isolated

/-- Without a record the owner reads the tables of boot. -/
theorem identityTranslate_eq_walk (inside : address < realModeLinearLimit)
    (plain : Agree (state.paging.identityPageTables (address / pageBytes))
      ((afterBoot present frames tableCount directory).identityPageTables (address / pageBytes))) (writable : Bool) :
    state.paging.guestIdentityTranslate state.owner.paging address writable = walk state.paging address writable := by
  have mirrors := isolated.tables.mirrors
  have active := (mirrors.bindingIsActive state.owner.paging).trans isolated.bound
  have limit : state.owner.paging.guestLinearLimit = realModeLinearLimit := by
    have bound := isolated.bound
    simp only [bindingIsActive, Bool.and_eq_true, beq_iff_eq] at bound
    exact bound.1.2
  have directories := directory_permits mirrors address writable
  unfold guestIdentityTranslate walk
  rw [active, limit]
  cases user : state.paging.guestDirectoryIsUserAccessible address with
  | false =>
    rw [if_pos (.inr (.inr rfl)), if_neg]
    intro both
    rw [directories.mp both.1] at user
    cases user
  | true =>
    obtain ⟨below, found⟩ := bootPageEntry_of_user mirrors user
    rw [if_neg (by simp [Nat.not_le.mpr inside]), found]
    dsimp only
    by_cases permits : state.paging.identityPageTables (address / pageBytes) &&& requiredFlags writable =
        requiredFlags writable
    · have boot := permits
      rw [plain.flags writable] at boot
      obtain ⟨own, -⟩ := afterBoot_permits present frames tableCount directory boot
      have frame : frameOf state.paging (address / pageBytes) = address / pageBytes * pageBytes := by
        unfold frameOf
        rw [plain.address, own, BitVec.toNat_ofNat]
        apply Nat.mod_eq_of_lt
        unfold pageTableSpan pageBytes pageTableEntries at below
        unfold pageBytes
        omega
      rw [if_neg (by simp [plain.address, own, permits]), if_pos ⟨directories.mpr user, permits⟩, frame]
      have parts := Nat.div_add_mod' address pageBytes
      rw [parts]
    · rw [if_pos (.inr permits), if_neg (fun both => permits both.2)]

/-- With an active record the owner reads its shadow entry. -/
theorem shadowTranslate_eq_walk {index : Fin pageCapacity} (active : (state.owner.pages index).state = .active)
    (named : (state.owner.pages index).linearPage = address / pageBytes * pageBytes) (writable : Bool) :
    state.paging.guestShadowTranslate (state.owner.pages index).snapshot (state.owner.pages index).physicalPage address
      writable = walk state.paging address writable := by
  have mirrors := isolated.tables.mirrors
  obtain ⟨slot, backs, -, -, frame, -⟩ := isolated.active active
  obtain ⟨same, published, -, entry⟩ := isolated.tables.shadowed index active
  obtain ⟨-, valid, safe, user, mapped⟩ := isolated.published.mpr published
  have parts := Nat.div_add_mod' address pageBytes
  have below := Nat.mod_lt address (show 0 < pageBytes by decide)
  rw [same, named] at user mapped
  rw [named, Nat.mul_div_cancel _ (show 0 < pageBytes by decide)] at entry frame
  rw [Nat.mul_div_cancel _ (show 0 < pageBytes by decide)] at mapped
  have here : state.paging.guestDirectoryIsUserAccessible address = true := by
    have table : address / pageBytes * pageBytes / pageTableSpan = address / pageTableSpan := by
      unfold pageTableSpan pageBytes pageTableEntries
      omega
    unfold guestDirectoryIsUserAccessible at user ⊢
    rwa [table] at user
  have directories := (directory_permits mirrors address writable).mpr here
  unfold guestShadowTranslate walk
  rw [same, named, valid, safe, user, mapped, if_neg (by simp; omega)]
  dsimp only
  by_cases permits : state.paging.identityPageTables (address / pageBytes) &&& requiredFlags writable =
      requiredFlags writable
  · rw [if_neg (by simp [entriesMatch_iff.mpr entry, permits]), if_pos ⟨directories, permits⟩, frame, backs.address]
    have offset : address - address / pageBytes * pageBytes = address % pageBytes := by omega
    rw [offset]
  · rw [if_pos (.inr permits), if_neg (fun both => permits both.2)]

/-- The owner reads the tables where it is settled. -/
theorem translate_settled (settled : Settled state address) (writable : Bool) :
    translate state address writable = walk state.paging address writable := by
  have limit : state.owner.paging.guestLinearLimit = realModeLinearLimit := by
    have bound := isolated.bound
    simp only [bindingIsActive, Bool.and_eq_true, beq_iff_eq] at bound
    exact bound.1.2
  unfold translate
  rw [settled.1, limit]
  by_cases inside : address < realModeLinearLimit
  · rw [if_neg (by simp [Nat.not_le.mpr inside])]
    cases found : findPage state.owner (address / pageBytes * pageBytes) with
    | none =>
      apply identityTranslate_eq_walk isolated inside
      apply isolated.tables.plain
      intro index active same
      have some := present_of_active active
      have aligned := (isolated.leases.recorded index some).aligned
      apply findPage_none found index some
      rw [← same, Nat.div_mul_cancel (Nat.dvd_of_mod_eq_zero aligned)]
    | some index =>
      obtain ⟨some, named⟩ := findPage_some found
      have active := settled.2 index some named
      dsimp only
      rw [if_neg (not_not.mpr active)]
      exact shadowTranslate_eq_walk isolated active named writable
  · rw [if_pos (.inr (Nat.le_of_not_lt inside))]
    unfold walk
    rw [if_neg]
    rintro ⟨-, permits⟩
    have plain := isolated.tables.plain (address / pageBytes) (by
      intro index active same
      have upper := (isolated.leases.recorded index (present_of_active active)).upper
      unfold realModeLinearLimit at inside
      unfold legacyRomLimit at upper
      unfold pageBytes at same
      omega)
    rw [plain.flags writable] at permits
    have user := afterBoot_user present frames tableCount directory permits
    unfold realModeLinearLimit at inside user
    unfold pageBytes at user
    omega

omit isolated

/-- The binding names an active client, and no other client is active. -/
def LastClient (state : FirmwareState) (client : FirmwareBinding) : Prop :=
  ∃ slot, resolveClient state.owner client = some slot ∧ (state.owner.clients slot).active = true ∧
    ∀ other, (state.owner.clients other).active = true → other = slot

include isolated

theorem LastClient.count
    {client : FirmwareBinding} (last : LastClient state client) : state.owner.clientCount = 1 := by
  obtain ⟨slot, -, active, alone⟩ := last
  rw [isolated.clients]
  apply card_eq_one.mpr
  refine ⟨slot, ?_⟩
  ext other
  simp only [mem_filter, mem_univ, true_and, mem_singleton]
  constructor
  · exact alone other
  · rintro rfl
    exact active

/-- When no record is left, the tables are those of boot and the address space has no lease. -/
theorem Isolated.empty (empty : ∀ index, (state.owner.pages index).state = .empty) :
    (∀ page, entriesMatchIgnoringCpuState (state.paging.identityPageTables page)
        ((afterBoot present frames tableCount directory).identityPageTables page) = true) ∧
      ∀ slot, (state.memory.leases slot).state = .live → (state.memory.leases slot).owner ≠ space := by
  constructor
  · intro page
    apply entriesMatch_iff.mpr
    apply isolated.tables.plain page
    intro index active
    rw [empty index] at active
    cases active
  · intro slot live owned
    obtain ⟨index, some, -⟩ := isolated.leases.complete slot live owned
    exact some (empty index)

omit isolated

variable {machine generation zeroContext : ℕ} {bootInfo : BootInfo} {manager memory : GuestMemoryManager}
    {owner : FirmwareShadowOwner} {binding : PagingBinding} {start state : FirmwareState}
    {history : List (ShadowCall × Except FirmwareShadowError (Option FirmwareBinding))}

/-- In every run: a guest-writable entry of the firmware window maps a page leased to the address space whose identity
mapping belongs to the supervisor; two such entries map different pages; no entry lets the guest write to a firmware page;
the owner translates as the tables do while it is active and no record of the page awaits its release, and refuses
otherwise; and when the release by the last client succeeds, the entries are those of boot and no lease is left. -/
theorem firmware_shadow_isolation (accepted : guestMemoryInitialize bootInfo zeroContext manager = .ok () memory)
    (started : firmwareShadowInitialize space machine generation binding
      ⟨owner, afterBoot present frames tableCount directory, memory⟩ = .ok () start)
    (run : Runs perform (Foreign space) start history state) :
    (∀ page, FirmwarePage page → GuestWritable state.paging page → ∃ slot guestPage, Holds state.memory slot guestPage ∧
      (state.memory.leases slot).owner = space ∧ frameOf state.paging page = pageAddress guestPage ∧
      state.paging.isIdentityMapped (pageAddress guestPage / pageBytes) = true ∧
      state.paging.isUser (pageAddress guestPage / pageBytes) = false) ∧
    (∀ page other, FirmwarePage page → FirmwarePage other → GuestWritable state.paging page →
      GuestWritable state.paging other → frameOf state.paging page = frameOf state.paging other → page = other) ∧
    (∀ page entry, FirmwarePage page → entry < bootPageTableCapacity * pageTableEntries →
      GuestWritable state.paging entry → frameOf state.paging entry ≠ page * pageBytes) ∧
    (∀ address writable, (Settled state address → translate state address writable = walk state.paging address writable) ∧
      (¬ Settled state address → translate state address writable = none)) ∧
    (∀ machineIdentity client zeros, LastClient state client →
      outcome (executionRelease machineIdentity client zeros) state = .ok () →
      (∀ page, entriesMatchIgnoringCpuState
        ((final (executionRelease machineIdentity client zeros) state).paging.identityPageTables page)
        ((afterBoot present frames tableCount directory).identityPageTables page) = true) ∧
      ∀ slot, ((final (executionRelease machineIdentity client zeros) state).memory.leases slot).state = .live →
        ((final (executionRelease machineIdentity client zeros) state).memory.leases slot).owner ≠ space) := by
  have isolated : Isolated (afterBoot present frames tableCount directory) space state :=
    run.invariant_state _ (isolated_start accepted started) fun state call isolated allowed => isolated_step isolated allowed
  refine ⟨?_, ?_, ?_, ?_, ?_⟩
  · intro page firmware writable
    obtain ⟨index, active, rfl⟩ := active_of_writable isolated firmware writable
    obtain ⟨slot, backs, holds, -, frame, safe⟩ := isolated.active active
    refine ⟨slot, _, holds, backs.owner, frame, ?_⟩
    unfold privateShadowTargetIsSafe at safe
    split at safe
    · cases safe
    · split at safe
      · cases safe
      next page found =>
        obtain rfl := bootPageEntry_eq found
        simpa using safe
  · exact fun page other => writable_apart isolated
  · exact fun page entry => firmware_unwritable isolated
  · exact fun address writable => ⟨fun settled => translate_settled isolated settled writable,
      fun unsettled => translate_unsettled isolated unsettled writable⟩
  · intro machineIdentity client zeros last returned
    obtain ⟨isolated', left⟩ := wp_outcome_ok (executionRelease_spec isolated) returned
    have count := LastClient.count isolated last
    obtain ⟨slot, found, active, -⟩ := last
    exact isolated'.empty (left slot found active count)

def sampleBinding : PagingBinding := ⟨1, 0x1000, realModeLinearLimit⟩

/-- Tables that map twelve megabytes. -/
def samplePaging : X86Paging := afterBoot (fun _ => true) (fun table => table + 1) 3 0x1000

def sampleStart : FirmwareState := ⟨initialOwner 1 2 1 sampleBinding, samplePaging, sampleManager⟩

theorem sample_started : firmwareShadowInitialize 1 2 1 sampleBinding
    ⟨{ initialOwner 0 0 0 sampleBinding with initialized := false }, samplePaging, sampleManager⟩ = .ok () sampleStart := rfl

def sampleClient : FirmwareBinding := ⟨1, 1, 2, 1, 1, 0, [0, 0, 0, 0]⟩

/-- A client comes and writes to the first page of the firmware. -/
def sampleCalls : List ShadowCall := [.acquire 2, .writeFault 2 sampleClient 7 0xC0000 .ok true .ok]

theorem sample_run (calls : List ShadowCall) (permitted : ∀ call ∈ calls, ∀ state, Foreign 1 state call) :
    Runs perform (Foreign 1) sampleStart (transcript perform sampleStart calls) (replay perform sampleStart calls) := by
  have run := (Runs.start : Runs perform (Foreign 1) sampleStart [] sampleStart).replay_allowed calls permitted
  rwa [List.append_nil] at run

theorem firmware_shadow_isolation_sample :
    GuestWritable (replay perform sampleStart sampleCalls).paging 0xC0 ∧
      ∃ slot guestPage, Holds (replay perform sampleStart sampleCalls).memory slot guestPage ∧
        ((replay perform sampleStart sampleCalls).memory.leases slot).owner = 1 ∧
        frameOf (replay perform sampleStart sampleCalls).paging 0xC0 = pageAddress guestPage := by
  have run := sample_run sampleCalls (by simp [sampleCalls, Foreign])
  obtain ⟨leased, -⟩ := firmware_shadow_isolation sample_accepted sample_started run
  have writable : (replay perform sampleStart sampleCalls).paging.identityPageTables 0xC0 &&& requiredFlags true =
      requiredFlags true := by decide +kernel
  obtain ⟨slot, guestPage, holds, owned, frame, -⟩ := leased 0xC0 ⟨by decide, by decide⟩ writable
  exact ⟨writable, slot, guestPage, holds, owned, frame⟩

/-- The zeroing callback fails when the client leaves: the entry is the original one again and the guest reads through it,
but the owner does not translate. -/
theorem unreleased_page_not_translated :
    Runs perform (Foreign 1) sampleStart
      (transcript perform sampleStart (sampleCalls ++ [.release 2 sampleClient fun _ => .failed]))
      (replay perform sampleStart (sampleCalls ++ [.release 2 sampleClient fun _ => .failed])) ∧
    ownerIsActive (replay perform sampleStart (sampleCalls ++ [.release 2 sampleClient fun _ => .failed])) = true ∧
    translate (replay perform sampleStart (sampleCalls ++ [.release 2 sampleClient fun _ => .failed])) 0xC0000 false = none ∧
    walk (replay perform sampleStart (sampleCalls ++ [.release 2 sampleClient fun _ => .failed])).paging 0xC0000 false =
      some ⟨0xC0000, 4096⟩ :=
  ⟨sample_run _ (by simp [sampleCalls, Foreign]), by decide +kernel, by decide +kernel, by decide +kernel⟩

end DosC32.FirmwareShadow
