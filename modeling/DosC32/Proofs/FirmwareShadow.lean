import DosC32.Model.FirmwareShadow
import DosC32.Proofs.GuestMemory
import DosC32.Proofs.PagingShadow

/-! # The private pages of the firmware

Every record of the owner names one lease of the address space, and every lease of the address space
is named by one record. An entry of the tables is the shadow entry of the active record of its page,
or what boot left there. Each step of the source that changes one side changes the other with it.
-/

namespace DosC32.FirmwareShadow

open Effect X86Paging GuestMemory Function List

abbrev Pages := Fin pageCapacity → FirmwareShadowPage

variable (memory next : GuestMemoryManager) (space : ℕ) (page : FirmwareShadowPage) {pages pages' : Pages}
  {index : Fin pageCapacity} (slot : Fin guestMemoryLeaseCount)

/-- The slot holds the page of a record. -/
@[mk_iff] structure Backs : Prop where
  resolved : resolveLease memory page.lease = some slot
  owner : (memory.leases slot).owner = space
  single : (memory.leases slot).pageCount = 1
  address : pageAddress (memory.leases slot).firstPage = page.physicalPage

/-- The page is one of the firmware and has a lease. -/
structure Recorded : Prop where
  lower : dosVideoLimit ≤ page.linearPage
  upper : page.linearPage < legacyRomLimit
  aligned : page.linearPage % pageBytes = 0
  backed : ∃ slot, Backs memory space page slot

/-- The records and the leases of the address space are in correspondence. -/
structure Leases (space : ℕ) (pages : Pages) (memory : GuestMemoryManager) : Prop where
  sound : Sound memory
  recorded : ∀ index, (pages index).state ≠ .empty → Recorded memory space (pages index)
  linear : ∀ index other, (pages index).state ≠ .empty → (pages other).state ≠ .empty →
    (pages index).linearPage = (pages other).linearPage → index = other
  apart : ∀ index other slot, (pages index).state ≠ .empty → (pages other).state ≠ .empty →
    Backs memory space (pages index) slot → Backs memory space (pages other) slot → index = other
  complete : ∀ slot, (memory.leases slot).state = .live → (memory.leases slot).owner = space →
    ∃ index, (pages index).state ≠ .empty ∧ Backs memory space (pages index) slot

variable {memory next space page slot}

theorem Backs.congr (same : next.leases slot = memory.leases slot) :
    Backs next space page slot ↔ Backs memory space page slot := by
  simp only [backs_iff, resolveLease_congr same, same]

theorem Backs.live (backs : Backs memory space page slot) :
    (memory.leases slot).state = .live := live_of_resolveLease backs.resolved

theorem Backs.unique {other : Fin guestMemoryLeaseCount} (backs : Backs memory space page slot)
    (backs' : Backs memory space page other) : slot = other :=
  Option.some.inj (backs.resolved.symm.trans backs'.resolved)

/-- The correspondence after a change: the records of `kept` keep their pages and leases, and each of the others is
recorded anew, apart from all that there are. -/
theorem Leases.carry (leases : Leases space pages memory) (sound : Sound next) (kept : Fin pageCapacity → Prop)
    (old : ∀ index, kept index → (pages index).state ≠ .empty ∧ (pages' index).linearPage = (pages index).linearPage ∧
      ∀ slot, Backs memory space (pages index) slot → Backs next space (pages' index) slot)
    (new : ∀ index, (pages' index).state ≠ .empty → kept index ∨ Recorded next space (pages' index) ∧
      ∀ other, (pages' other).state ≠ .empty → index ≠ other → (pages' index).linearPage ≠ (pages' other).linearPage ∧
        ∀ slot, Backs next space (pages' index) slot → ¬ Backs next space (pages' other) slot)
    (complete : ∀ slot, (next.leases slot).state = .live → (next.leases slot).owner = space →
      ∃ index, (pages' index).state ≠ .empty ∧ Backs next space (pages' index) slot) : Leases space pages' next := by
  have backward : ∀ {index slot}, kept index → Backs next space (pages' index) slot →
      Backs memory space (pages index) slot := by
    intro index slot isKept backs
    obtain ⟨present, -, forward⟩ := old index isKept
    obtain ⟨-, -, -, before, backs'⟩ := leases.recorded index present
    obtain rfl := (forward before backs').unique backs
    exact backs'
  have clash : ∀ index other, (pages' index).state ≠ .empty → (pages' other).state ≠ .empty → index ≠ other →
      (pages' index).linearPage ≠ (pages' other).linearPage ∧
        ∀ slot, Backs next space (pages' index) slot → ¬ Backs next space (pages' other) slot := by
    intro index other present present' different
    rcases new index present with isKept | ⟨-, apart⟩
    · rcases new other present' with isKept' | ⟨-, apart⟩
      · obtain ⟨some, linear, -⟩ := old index isKept
        obtain ⟨some', linear', -⟩ := old other isKept'
        rw [linear, linear']
        exact ⟨fun equal => different (leases.linear index other some some' equal), fun slot backs backs' =>
          different (leases.apart index other slot some some' (backward isKept backs) (backward isKept' backs'))⟩
      · obtain ⟨linear, backing⟩ := apart index present (Ne.symm different)
        exact ⟨Ne.symm linear, fun slot backs backs' => backing slot backs' backs⟩
    · exact apart other present' different
  constructor
  · exact sound
  · intro index present
    rcases new index present with isKept | ⟨recorded, -⟩
    · obtain ⟨some, linear, forward⟩ := old index isKept
      obtain ⟨lower, upper, aligned, slot, backs⟩ := leases.recorded index some
      rw [← linear] at lower upper aligned
      exact ⟨lower, upper, aligned, slot, forward slot backs⟩
    · exact recorded
  · intro index other present present' equal
    by_contra different
    exact (clash index other present present' different).1 equal
  · intro index other slot present present' backs backs'
    by_contra different
    exact (clash index other present present' different).2 slot backs backs'
  · exact complete

/-- What others do to the manager. -/
theorem Leases.keeps (leases : Leases space pages memory) (sound : Sound next) (keeps : Keeps space memory next) :
    Leases space pages next := by
  have forward : ∀ {page} slot, Backs memory space page slot → Backs next space page slot := fun slot backs =>
    (Backs.congr (keeps slot (.inl ⟨backs.live, backs.owner⟩))).mpr backs
  apply leases.carry sound (fun index => (pages index).state ≠ .empty)
  · exact fun index present => ⟨present, rfl, forward⟩
  · exact fun index present => .inl present
  · intro slot live owned
    have same := keeps slot (.inr ⟨live, owned⟩)
    rw [same] at live owned
    obtain ⟨index, some, backs⟩ := leases.complete slot live owned
    exact ⟨index, some, forward slot backs⟩

theorem update_nonempty {other : Fin pageCapacity} (some : (update pages index page other).state ≠ .empty) :
    other = index ∨ (other ≠ index ∧ (pages other).state ≠ .empty) := by
  by_cases same : other = index
  · exact .inl same
  · rw [update_of_ne same] at some
    exact .inr ⟨same, some⟩

variable (leases : Leases space pages memory) {linearPage : ℕ}
include leases

/-- A change of the state and the snapshot of a record that neither makes nor clears it. -/
theorem Leases.rewrite (same : page.lease = (pages index).lease ∧ page.linearPage = (pages index).linearPage ∧
      page.physicalPage = (pages index).physicalPage) (before : (pages index).state ≠ .empty)
    (after : page.state ≠ .empty) : Leases space (update pages index page) memory := by
  have each : ∀ other, ((pages other).state ≠ .empty ↔ (update pages index page other).state ≠ .empty) ∧
      (update pages index page other).linearPage = (pages other).linearPage ∧
      ∀ slot, Backs memory space (pages other) slot → Backs memory space (update pages index page other) slot := by
    intro other
    by_cases isIndex : other = index
    · subst isIndex
      rw [update_self]
      exact ⟨iff_of_true before after, same.2.1, fun slot backs =>
        ⟨same.1.symm ▸ backs.resolved, backs.owner, backs.single, backs.address.trans same.2.2.symm⟩⟩
    · rw [update_of_ne isIndex]
      exact ⟨Iff.rfl, rfl, fun _ => id⟩
  apply leases.carry leases.sound (fun other => (pages other).state ≠ .empty)
  · exact fun other present => ⟨present, (each other).2⟩
  · exact fun other present => .inl ((each other).1.mpr present)
  · intro slot live owned
    obtain ⟨other, present, backs⟩ := leases.complete slot live owned
    exact ⟨other, (each other).1.mp present, (each other).2.2 slot backs⟩

/-- A page that was just leased gets a record. -/
theorem Leases.grant {prepared : GuestMemoryManager} {first : ℕ} (refused : Refused memory prepared)
    (idle : held prepared slot = none) (fresh : (memory.leases slot).generation < GuestMemory.generationMax)
    (free : runIsFree memory first 1 = true) (lower : dosVideoLimit ≤ linearPage)
    (upper : linearPage < legacyRomLimit) (aligned : linearPage % pageBytes = 0)
    (empty : (pages index).state = .empty)
    (unused : ∀ other, (pages other).state ≠ .empty → (pages other).linearPage ≠ linearPage) : Leases space
      (update pages index
        (leasedPage (makeLease slot ((memory.leases slot).generation + 1)) linearPage (pageAddress first)))
      (grantRun prepared slot space first 1) := by
  have granted : (grantRun prepared slot space first 1).leases slot =
      ⟨(prepared.leases slot).generation + 1, space, first, 1, .live⟩ := update_self _ _ _
  have own : Backs (grantRun prepared slot space first 1) space
      (leasedPage (makeLease slot ((memory.leases slot).generation + 1)) linearPage (pageAddress first)) slot := by
    rw [← (refused.kept slot).1] at fresh ⊢
    constructor
    · exact resolveLease_grantRun space first 1 fresh
    · rw [granted]
    · rw [granted]
    · rw [granted]
      rfl
  have notLive : (memory.leases slot).state ≠ .live := by
    intro live
    have same := refused.live slot (.inl live)
    rw [← same] at live
    exact live_of_held idle live
  -- the other slots of the address space are as before
  have others : ∀ {other}, other ≠ slot → (memory.leases other).state = .live ∨
      ((grantRun prepared slot space first 1).leases other).state = .live →
      (grantRun prepared slot space first 1).leases other = memory.leases other := by
    intro other different live
    rw [leases_grantRun different] at live ⊢
    exact refused.live other live
  have forward : ∀ {page} other, Backs memory space page other →
      Backs (grantRun prepared slot space first 1) space page other := by
    intro page other backs
    have different : other ≠ slot := by
      rintro rfl
      exact notLive backs.live
    exact (Backs.congr (others different (.inl backs.live))).mpr backs
  apply leases.carry _ (fun other => other ≠ index ∧ (pages other).state ≠ .empty)
  · rintro other ⟨different, present⟩
    rw [update_of_ne different]
    exact ⟨present, rfl, forward⟩
  · intro other some
    rcases update_nonempty some with rfl | kept
    · rw [update_self]
      refine .inr ⟨⟨lower, upper, aligned, slot, own⟩, fun another some' different => ?_⟩
      rw [update_of_ne (Ne.symm different)] at some' ⊢
      refine ⟨Ne.symm (unused another some'), fun holder backs backs' => ?_⟩
      obtain rfl := own.unique backs
      obtain ⟨-, -, -, before, backed⟩ := leases.recorded another some'
      obtain rfl := (forward before backed).unique backs'
      exact notLive backed.live
    · exact .inl kept
  · intro holder live owned
    by_cases same : holder = slot
    · subst same
      refine ⟨index, ?_, ?_⟩
      · rw [update_self]
        simp [leasedPage]
      · rw [update_self]
        exact own
    · have kept := others same (.inr live)
      rw [kept] at live owned
      obtain ⟨other, present, backs⟩ := leases.complete holder live owned
      have different : other ≠ index := by
        rintro rfl
        exact present empty
      exact ⟨other, by rwa [update_of_ne different], by rw [update_of_ne different]; exact forward holder backs⟩
  · apply (refused.sound leases.sound).grant idle
    rwa [runIsFree_congr refused]

/-- A record goes with its lease. -/
theorem Leases.clear (present : (pages index).state ≠ .empty) (backs : Backs memory space (pages index) slot) :
    Leases space (update pages index emptyPage) (takeRun memory slot) := by
  have forward : ∀ {other holder}, other ≠ index → (pages other).state ≠ .empty → Backs memory space (pages other) holder →
      Backs (takeRun memory slot) space (pages other) holder := by
    intro other holder different some backs'
    have apart : holder ≠ slot := by
      rintro rfl
      exact different (leases.apart other index holder some present backs' backs)
    exact (Backs.congr (leases_takeRun apart)).mpr backs'
  apply leases.carry (leases.sound.take backs.live) (fun other => other ≠ index ∧ (pages other).state ≠ .empty)
  · rintro other ⟨different, some⟩
    rw [update_of_ne different]
    exact ⟨some, rfl, fun slot => forward different some⟩
  · intro other some
    rcases update_nonempty some with rfl | kept
    · rw [update_self] at some
      exact absurd rfl some
    · exact .inl kept
  · intro holder live owned
    have apart : holder ≠ slot := by
      rintro rfl
      rw [freed_takeRun] at live
      cases live
    rw [leases_takeRun apart] at live owned
    obtain ⟨other, some, backs'⟩ := leases.complete holder live owned
    have different : other ≠ index := by
      rintro rfl
      exact apart (backs'.unique backs)
    refine ⟨other, ?_, ?_⟩
    · rwa [update_of_ne different]
    · rw [update_of_ne different]
      exact forward different some backs'

omit leases

variable {base paging next : X86Paging}

/-- The entry of the page is the shadow entry of its record. -/
structure Shadowed (base paging : X86Paging) (page : FirmwareShadowPage) : Prop where
  named : page.snapshot.linearPage = page.linearPage
  published : Published base page.snapshot page.physicalPage
  original : Agree page.snapshot.originalEntry (base.identityPageTables (page.linearPage / pageBytes))
  entry : Agree (paging.identityPageTables (page.linearPage / pageBytes))
    (guestShadowEntry page.snapshot page.physicalPage)

/-- The entries of the active records are shadow entries, and the others are those of boot. -/
structure Tables (base : X86Paging) (pages : Pages) (paging : X86Paging) : Prop where
  mirrors : Mirrors base paging
  shadowed : ∀ index, (pages index).state = .active → Shadowed base paging (pages index)
  plain : ∀ page, (∀ index, (pages index).state = .active → (pages index).linearPage / pageBytes ≠ page) →
    Agree (paging.identityPageTables page) (base.identityPageTables page)

theorem present_of_active (active : page.state = .active) : page.state ≠ .empty := by
  rw [active]
  simp

theorem present_of_leased (leased : page.state = .leased) : page.state ≠ .empty ∧ page.state ≠ .active := by
  rw [leased]
  exact ⟨by simp, by simp⟩

theorem setEntry_self (paging : X86Paging) (page : ℕ) (entry : BitVec 32) :
    (paging.setEntry page entry).identityPageTables page = entry := if_pos rfl

theorem setEntry_other {page other : ℕ} (different : other ≠ page) (entry : BitVec 32) :
    (paging.setEntry page entry).identityPageTables other = paging.identityPageTables other := if_neg different

/-- Two active records have different entries. -/
def Distinct (pages : Pages) : Prop :=
  ∀ index other, (pages index).state ≠ .empty → (pages other).state ≠ .empty →
    (pages index).linearPage / pageBytes = (pages other).linearPage / pageBytes → index = other

variable (tables : Tables base pages paging)
include tables

/-- A change of a record that is not active. -/
theorem Tables.rewrite (before : (pages index).state ≠ .active) (after : page.state ≠ .active) :
    Tables base (update pages index page) paging := by
  have same : ∀ other, (pages other).state = .active ∨ (update pages index page other).state = .active →
      update pages index page other = pages other := by
    intro other active
    apply update_of_ne
    rintro rfl
    rw [update_self] at active
    exact active.elim before after
  constructor
  · exact tables.mirrors
  · intro other active
    have equal := same other (.inr active)
    rw [equal] at active ⊢
    exact tables.shadowed other active
  · intro entry absent
    apply tables.plain entry
    intro other active
    have equal := same other (.inl active)
    have away := absent other (by rwa [equal])
    rwa [equal] at away

/-- The processor changes its own bits. -/
theorem Tables.touch (mirrors : Mirrors base next)
    (entries : ∀ page, Agree (next.identityPageTables page) (paging.identityPageTables page)) :
    Tables base pages next := by
  constructor
  · exact mirrors
  · intro index active
    obtain ⟨named, published, original, entry⟩ := tables.shadowed index active
    exact ⟨named, published, original, (entries _).trans entry⟩
  · exact fun page absent => (entries page).trans (tables.plain page absent)

/-- What the records say about the target of a shadow entry holds for the tables of boot. -/
theorem Tables.published
    (bounded : ∀ index, (pages index).state = .active → (pages index).linearPage < legacyRomLimit)
    {snapshot : PagingShadowSnapshot} {physical : ℕ} :
    Published paging snapshot physical ↔ Published base snapshot physical := by
  have safe : paging.privateShadowTargetIsSafe physical = base.privateShadowTargetIsSafe physical := by
    apply tables.mirrors.privateShadowTargetIsSafe
    intro above
    apply tables.plain
    intro index active same
    have below := bounded index active
    unfold legacyRomLimit at below
    unfold bootIdentityFloor at above
    unfold pageBytes at same
    omega
  have valid := tables.mirrors.guestShadowSnapshotIsValid snapshot
  have user := tables.mirrors.guestDirectoryIsUserAccessible snapshot.linearPage
  have mapped := tables.mirrors.bootPageEntry snapshot.linearPage
  constructor
  · rintro ⟨aligned, valid', safe', user', mapped'⟩
    exact ⟨aligned, valid ▸ valid', safe ▸ safe', user ▸ user', mapped ▸ mapped'⟩
  · rintro ⟨aligned, valid', safe', user', mapped'⟩
    exact ⟨aligned, valid.trans valid', safe.trans safe', user.trans user', mapped.trans mapped'⟩

/-- A record and the entry of its page change together. -/
theorem Tables.replace (distinct : Distinct pages) (present : (pages index).state ≠ .empty) {entry : BitVec 32}
    (linear : page.linearPage = (pages index).linearPage) (shadowed : page.state = .active →
      Shadowed base (paging.setEntry ((pages index).linearPage / pageBytes) entry) page)
    (plain : page.state ≠ .active → Agree entry (base.identityPageTables ((pages index).linearPage / pageBytes))) :
    Tables base (update pages index page) (paging.setEntry ((pages index).linearPage / pageBytes) entry) := by
  constructor
  · exact tables.mirrors.setEntry _ _
  · intro other active
    by_cases same : other = index
    · subst same
      rw [update_self] at active ⊢
      exact shadowed active
    · rw [update_of_ne same] at active ⊢
      obtain ⟨named, published, original, shadow⟩ := tables.shadowed other active
      refine ⟨named, published, original, ?_⟩
      rw [setEntry_other fun equal => same (distinct other index (present_of_active active) present equal)]
      exact shadow
  · intro number absent
    by_cases here : number = (pages index).linearPage / pageBytes
    · subst here
      rw [setEntry_self]
      apply plain
      intro active
      apply absent index <;> rw [update_self]
      · exact active
      · rw [linear]
    · rw [setEntry_other here]
      apply tables.plain number
      intro other active
      by_cases same : other = index
      · subst same
        exact Ne.symm here
      · have away := absent other (by rwa [update_of_ne same])
        rwa [update_of_ne same] at away

/-- A record becomes active with its shadow entry. -/
theorem Tables.publish (distinct : Distinct pages)
    (leased : (pages index).state = .leased) (named : (pages index).snapshot.linearPage = (pages index).linearPage)
    (published : Published base (pages index).snapshot (pages index).physicalPage) (agree :
    Agree (paging.identityPageTables ((pages index).linearPage / pageBytes)) (pages index).snapshot.originalEntry) :
    Tables base (update pages index { pages index with state := .active })
      (paging.setEntry ((pages index).linearPage / pageBytes)
        (guestShadowEntry (pages index).snapshot (pages index).physicalPage)) := by
  obtain ⟨present, inactive⟩ := present_of_leased leased
  refine tables.replace distinct present rfl (fun _ => ?_) fun idle => absurd rfl idle
  refine ⟨named, published, agree.symm.trans (tables.plain _ fun other active same => ?_), ?_⟩
  · obtain rfl := distinct other index (present_of_active active) present same
    exact inactive active
  · change Agree ((paging.setEntry _ _).identityPageTables ((pages index).linearPage / pageBytes)) _
    rw [setEntry_self]
    exact Agree.refl _

/-- An active record gives its entry back. -/
theorem Tables.restore (distinct : Distinct pages) (active : (pages index).state = .active) :
    Tables base (update pages index { pages index with state := .restored })
      (paging.setEntry ((pages index).linearPage / pageBytes) (pages index).snapshot.originalEntry) :=
  tables.replace distinct (present_of_active active) rfl (by simp) fun _ => (tables.shadowed index active).original

omit tables

variable {state next : FirmwareState}

/-- The number of clients that execute. -/
def activeClients (clients : Fin clientCapacity → FirmwareClientSlot) : ℕ :=
  (Finset.univ.filter fun slot => (clients slot).active = true).card

/-- What holds between the calls. -/
structure Isolated (base : X86Paging) (space : ℕ) (state : FirmwareState) : Prop where
  identity : state.owner.addressSpaceIdentity = space
  bound : base.bindingIsActive state.owner.paging = true
  leases : Leases space state.owner.pages state.memory
  tables : Tables base state.owner.pages state.paging
  clients : state.owner.clientCount = activeClients state.owner.clients

theorem Leases.distinct (leases : Leases space pages memory) : Distinct pages := by
  intro index other some some' same
  have aligned := (leases.recorded index some).aligned
  have aligned' := (leases.recorded other some').aligned
  unfold pageBytes at same aligned aligned'
  exact leases.linear index other some some' (by omega)

variable (isolated : Isolated base space state)
include isolated

/-- A change of the owner that leaves the pages alone. -/
theorem Isolated.change (owner : FirmwareShadowOwner)
    (pages : owner.pages = state.owner.pages) (same : owner.addressSpaceIdentity = state.owner.addressSpaceIdentity)
    (paging : owner.paging = state.owner.paging) (clients : owner.clientCount = activeClients owner.clients) :
    Isolated base space { state with owner } := by
  constructor
  · exact same.trans isolated.identity
  · exact paging ▸ isolated.bound
  · exact pages ▸ isolated.leases
  · exact pages ▸ isolated.tables
  · exact clients

theorem Isolated.poison : Isolated base space { state with owner := { state.owner with poisoned := true } } :=
  isolated.change _ rfl rfl rfl isolated.clients

/-- What others do to the manager. -/
theorem Isolated.keeps (keeps : Sound memory ∧ Keeps space state.memory memory) :
    Isolated base space { state with memory } :=
  { isolated with leases := isolated.leases.keeps keeps.1 keeps.2 }

theorem Isolated.refused (refused : Refused state.memory memory) : Isolated base space { state with memory } :=
  isolated.keeps ⟨refused.sound isolated.leases.sound, refused.keeps space⟩

theorem Isolated.published {snapshot : PagingShadowSnapshot} {physical : ℕ} :
    Published state.paging snapshot physical ↔ Published base snapshot physical :=
  isolated.tables.published fun index active => (isolated.leases.recorded index (present_of_active active)).upper

omit isolated

variable {failed : FirmwareShadowError → FirmwareState → Prop} {owner : FirmwareShadowOwner} {α : Type}

@[simp] theorem wp_changeOwner (change : FirmwareShadowOwner → FirmwareShadowOwner) {done : Unit → FirmwareState → Prop} :
    wp (changeOwner change) state done failed ↔ done () { state with owner := change state.owner } := by
  rw [changeOwner, wp_modify]

@[simp] theorem wp_poisonOwner {done : α → FirmwareState → Prop} : wp (poisonOwner : FirmwareM α) state done failed ↔
      failed .poisoned { state with owner := { state.owner with poisoned := true } } := by
  simp only [poisonOwner, wp_rules, wp_changeOwner]

@[simp] theorem wp_onPaging (action : PagingM α) {done : Except PagingShadowError α → FirmwareState → Prop} :
    wp (onPaging action) state done failed ↔
      wp action state.paging (fun value paging => done (.ok value) { state with paging })
        (fun error paging => done (.error error) { state with paging }) := by
  simp only [onPaging, wp_attempt, wp_focus]

@[simp] theorem wp_onMemory (action : GuestMemoryM α) {done : Except GuestMemoryError α → FirmwareState → Prop} :
    wp (onMemory action) state done failed ↔
      wp action state.memory (fun value memory => done (.ok value) { state with memory })
        (fun error memory => done (.error error) { state with memory }) := by
  simp only [onMemory, wp_attempt, wp_focus]

/-- The calls on one page leave the clients and the other pages alone. -/
structure Only (index : Fin pageCapacity) (state next : FirmwareState) : Prop where
  clients : next.owner.clients = state.owner.clients
  clientCount : next.owner.clientCount = state.owner.clientCount
  others : ∀ other, other ≠ index → next.owner.pages other = state.owner.pages other

theorem Only.refl (index : Fin pageCapacity) (state : FirmwareState) : Only index state state := ⟨rfl, rfl, fun _ _ => rfl⟩

theorem Only.trans {third : FirmwareState} (only : Only index state next) (only' : Only index next third) :
    Only index state third :=
  ⟨only'.clients.trans only.clients, only'.clientCount.trans only.clientCount,
    fun other different => (only'.others other different).trans (only.others other different)⟩

include isolated

/-- The active entry was restored. -/
theorem Isolated.restore (active : (state.owner.pages index).state = .active)
    (changed : owner = setPageState index .restored state.owner) : Isolated base space { state with
      owner
      paging := state.paging.setEntry ((state.owner.pages index).linearPage / pageBytes)
        (state.owner.pages index).snapshot.originalEntry } := by
  subst changed
  exact { isolated with
    leases := isolated.leases.rewrite ⟨rfl, rfl, rfl⟩ (present_of_active active) (by simp)
    tables := isolated.tables.restore isolated.leases.distinct active }

/-- What a restoration meets in an isolated state. -/
theorem restore_spec (active : (state.owner.pages index).state = .active) :
    wp (guestShadowRestore (state.owner.pages index).snapshot (state.owner.pages index).physicalPage) state.paging
      (fun _ paging => paging = state.paging.setEntry ((state.owner.pages index).linearPage / pageBytes)
        (state.owner.pages index).snapshot.originalEntry)
      (fun _ _ => False) := by
  obtain ⟨named, published, -, entry⟩ := isolated.tables.shadowed index active
  have here := isolated.published.mpr published
  rw [← named] at entry ⊢
  exact guestShadowRestore_spec here entry

theorem restorePrivatePage_spec (index : Fin pageCapacity) (present : (state.owner.pages index).state ≠ .empty) :
    wp (restorePrivatePage index) state
      (fun corrupted next => corrupted = false ∧ Isolated base space next ∧ Only index state next ∧
        (next.owner.pages index).state ≠ .empty ∧ (next.owner.pages index).state ≠ .active)
      (fun _ _ => False) := by
  simp only [restorePrivatePage, wp_split, wp_onPaging]
  constructor
  · intro active
    apply wp_returns (restore_spec isolated active)
    rintro _ _ rfl
    simp only [settleRestore, wp_rules, wp_changeOwner]
    refine ⟨trivial, isolated.restore active rfl, ⟨rfl, rfl, fun other different => ?_⟩, ?_⟩
    · exact update_of_ne different _ _
    · simp [setPageState, setPage]
  · exact fun inactive => ⟨trivial, isolated, .refl index state, present, inactive⟩

/-- The lease of a record that is not active is returned, or kept with the record. -/
theorem returnLease_spec (index : Fin pageCapacity) (zero : GuestZeroStatus)
    (present : (state.owner.pages index).state ≠ .empty) (inactive : (state.owner.pages index).state ≠ .active) :
    wp (returnLease index zero) state
      (fun _ next => Isolated base space next ∧ Only index state next ∧ (next.owner.pages index).state = .empty)
      (fun _ => Isolated base space) := by
  simp only [returnLease, wp_rules, wp_onMemory]
  refine ⟨fun _ => isolated, fun _ => ?_⟩
  apply wp_mono (release_spec isolated.leases.sound _ _ zero)
  · rintro _ memory ⟨slot, -, resolved, -, rfl⟩
    obtain ⟨-, -, -, holder, backs⟩ := isolated.leases.recorded index present
    cases backs.resolved.symm.trans resolved
    simp only [settleLease, wp_changeOwner]
    refine ⟨{ isolated with
        leases := isolated.leases.clear present backs, tables := isolated.tables.rewrite inactive (by simp [emptyPage]) },
      ⟨rfl, rfl, fun other different => update_of_ne different _ _⟩, ?_⟩
    simp [clearPage, setPage, emptyPage]
  · rintro error memory ⟨refused, -⟩
    have kept := isolated.refused refused
    unfold settleLease
    split <;> first | exact kept | contradiction

/-- A page is released, or its record stays. -/
theorem releasePrivatePage_spec (index : Fin pageCapacity) (zero : GuestZeroStatus)
    (present : (state.owner.pages index).state ≠ .empty) :
    wp (releasePrivatePage index zero) state
      (fun corrupted next => corrupted = false ∧ Isolated base space next ∧ Only index state next ∧
        (next.owner.pages index).state = .empty)
      (fun _ => Isolated base space) := by
  simp only [releasePrivatePage, wp_rules]
  apply wp_returns (restorePrivatePage_spec isolated index present)
  rintro corrupted next ⟨clean, isolated', only, present', inactive⟩
  apply wp_mono_done (returnLease_spec isolated' index zero present' inactive)
  rintro _ last ⟨isolated'', only', empty⟩
  exact ⟨clean, isolated'', only.trans only', empty⟩

theorem stripPage_spec (index : Fin pageCapacity) : Leaves (stripPage index) state (Isolated base space) := by
  simp only [stripPage, wp_split, wp_onPaging]
  refine ⟨fun active => ?_, fun _ => isolated⟩
  apply wp_returns (restore_spec isolated active)
  rintro _ _ rfl
  simp only [markRestored, wp_changeOwner]
  exact isolated.restore active rfl

omit isolated

/-- Every call keeps the isolation, whichever exit it takes. -/
abbrev KeepsIsolated {α : Type} (base : X86Paging) (space : ℕ) (action : FirmwareM α) : Prop :=
  Preserves (Isolated base space) action

variable (machineIdentity : ℕ)

theorem requireActive_spec : Leaves (requireActive machineIdentity) state (fun next => next = state) := by
  simp only [requireActive, wp_rules, implies_true, and_self]

theorem requireClient_spec (binding : FirmwareBinding) : wp (requireClient machineIdentity binding) state
      (fun slot next => next = state ∧ resolveClient state.owner binding = some slot) (fun _ next => next = state) := by
  simp only [requireClient, wp_all]
  exact fun _ _ _ slot found => found

theorem beginExecution_keeps : KeepsIsolated base space beginExecution := by
  intro state isolated
  simp only [beginExecution, wp_split, wp_poisonOwner, wp_changeOwner]
  exact ⟨fun _ => isolated, fun _ => ⟨fun _ => isolated.poison, fun _ => isolated.change _ rfl rfl rfl isolated.clients⟩⟩

variable {clients : Fin clientCapacity → FirmwareClientSlot} {slot : Fin clientCapacity}

/-- The number of active clients goes up by one. -/
theorem activeClients_take
    (idle : (clients slot).active = false) {taken : FirmwareClientSlot} (active : taken.active = true) :
    activeClients (update clients slot taken) = activeClients clients + 1 := by
  have set : (Finset.univ.filter fun index => (update clients slot taken index).active = true) =
      insert slot (Finset.univ.filter fun index => (clients index).active = true) := by
    ext index
    by_cases same : index = slot
    · subst same
      simp [active]
    · simp [same]
  unfold activeClients
  rw [set, Finset.card_insert_of_notMem (by simp [idle])]

/-- The number of active clients goes down by one. -/
theorem activeClients_drop
    (busy : (clients slot).active = true) {left : FirmwareClientSlot} (idle : left.active = false) :
    activeClients (update clients slot left) = activeClients clients - 1 := by
  have back := @activeClients_take (update clients slot left) slot (by rwa [update_self]) _ busy
  rw [update_idem, update_eq_self] at back
  omega

theorem executionAcquire_keeps : KeepsIsolated base space (executionAcquire machineIdentity) := by
  intro state isolated
  simp only [executionAcquire, wp_rules, wp_changeOwner]
  apply wp_mono (requireActive_spec machineIdentity)
  · rintro _ _ rfl
    apply wp_mono_done (beginExecution_keeps _ isolated)
    intro _ started isolated'
    refine ⟨fun slot found => ?_, fun _ => isolated'⟩
    have idle := find?_some found
    simp only [Bool.and_eq_true, Bool.not_eq_true'] at idle
    apply isolated'.change (takeClientSlot slot started.owner) rfl rfl rfl
    simp only [takeClientSlot]
    rw [activeClients_take idle.1 rfl, isolated'.clients]
  · rintro _ _ rfl
    exact isolated

/-- The loop of the last release clears every page that it passes. -/
theorem releasePages_spec (zeros : Fin pageCapacity → GuestZeroStatus) (list : List (Fin pageCapacity))
    (isolated : Isolated base space state) :
    wp (releasePages zeros list) state
      (fun _ next => Isolated base space next ∧ next.owner.clients = state.owner.clients ∧
        next.owner.clientCount = state.owner.clientCount ∧
        ∀ index, index ∈ list ∨ (state.owner.pages index).state = .empty → (next.owner.pages index).state = .empty)
      (fun _ => Isolated base space) := by
  induction list generalizing state with
  | nil =>
    simp only [releasePages, wp_pure]
    exact ⟨isolated, trivial, trivial, fun index empty => empty.resolve_left not_mem_nil⟩
  | cons index rest ih =>
    simp only [releasePages, wp_split]
    constructor
    · intro empty
      apply wp_mono_done (ih isolated)
      rintro _ next ⟨isolated', clients, count, cleared⟩
      refine ⟨isolated', clients, count, fun other listed => cleared other ?_⟩
      rcases listed with listed | was
      · rcases mem_cons.mp listed with rfl | listed
        · exact .inr empty
        · exact .inl listed
      · exact .inr was
    · intro present
      apply wp_mono (releasePrivatePage_spec isolated index (zeros index) present)
      · rintro corrupted middle ⟨-, isolated', only, empty⟩
        simp only [settleRelease, wp_pure]
        apply wp_mono_done (ih isolated')
        rintro _ next ⟨isolated'', clients, count, cleared⟩
        refine ⟨isolated'', clients.trans only.clients, count.trans only.clientCount, fun other listed => cleared other ?_⟩
        by_cases same : other = index
        · subst same
          exact .inr empty
        · rw [only.others other same]
          exact listed.imp_left fun member => (mem_cons.mp member).resolve_left same
      · intro error middle isolated'
        unfold settleRelease
        split <;> first | exact isolated' | exact wp_poisonOwner.mpr isolated'.poison | contradiction

/-- An active client leaves; if it was the last one and the call succeeds, no record is left. -/
theorem leaveClient_spec (isolated : Isolated base space state)
    (active : (state.owner.clients slot).active = true) (zeros : Fin pageCapacity → GuestZeroStatus) :
    wp (leaveClient slot zeros) state
      (fun _ next => Isolated base space next ∧
        (state.owner.clientCount = 1 → ∀ index, (next.owner.pages index).state = .empty))
      (fun _ => Isolated base space) := by
  simp only [leaveClient, wp_split, wp_poisonOwner, wp_changeOwner]
  refine ⟨fun _ => isolated, fun _ => ⟨fun _ => isolated.poison, fun some => ⟨fun several => ?_, fun single => ?_⟩⟩⟩
  · refine ⟨isolated.change _ rfl rfl rfl ?_, fun one => ?_⟩
    · simp only [dropClient]
      rw [activeClients_drop active rfl, isolated.clients]
    · rw [one] at several
      exact absurd several (by decide)
  · have count : state.owner.clientCount = 1 := by omega
    apply wp_mono_done (releasePages_spec zeros _ isolated)
    rintro corrupted middle ⟨isolated', clients, same, cleared⟩
    have empty : ∀ index, (middle.owner.pages index).state = .empty := fun index =>
      cleared index (.inl (mem_reverse.mpr (mem_finRange index)))
    have left : Isolated base space { middle with owner := dropClient slot 0 middle.owner } := by
      apply isolated'.change (dropClient slot 0 middle.owner) rfl rfl rfl
      simp only [dropClient]
      rw [clients, activeClients_drop active rfl, ← isolated.clients, count]
    simp only [finishRelease, wp_split, wp_poisonOwner]
    exact ⟨fun _ => left.poison, fun _ => ⟨left, fun _ => empty⟩⟩

theorem executionRelease_spec (isolated : Isolated base space state) {machineIdentity : ℕ} {binding : FirmwareBinding}
    {zeros : Fin pageCapacity → GuestZeroStatus} :
    wp (executionRelease machineIdentity binding zeros) state
      (fun _ next => Isolated base space next ∧
        ∀ slot, resolveClient state.owner binding = some slot → (state.owner.clients slot).active = true →
          state.owner.clientCount = 1 → ∀ index, (next.owner.pages index).state = .empty)
      (fun _ => Isolated base space) := by
  simp only [executionRelease, wp_split]
  apply wp_mono (requireClient_spec machineIdentity binding)
  · rintro slot _ ⟨rfl, found⟩
    refine ⟨fun idle => ⟨isolated, fun other found' busy => ?_⟩, fun active => ?_⟩
    · cases found.symm.trans found'
      rw [idle] at busy
      cases busy
    · apply wp_mono (leaveClient_spec isolated (Bool.eq_true_of_not_eq_false active) zeros)
      · exact fun _ _ left => ⟨left.1, fun _ _ _ => left.2⟩
      · exact fun _ _ => id
  · rintro _ _ rfl
    exact isolated

theorem stripPages_keeps (list : List (Fin pageCapacity)) : KeepsIsolated base space (stripPages list) := by
  induction list with
  | nil => exact fun state isolated => isolated
  | cons index rest ih =>
    unfold stripPages
    exact Preserves.bind (fun state isolated => stripPage_spec isolated index) fun _ => ih

theorem executionQuarantine_keeps (binding : FirmwareBinding) :
    KeepsIsolated base space (executionQuarantine machineIdentity binding) := by
  intro state isolated
  simp only [executionQuarantine, wp_bind, wp_poisonOwner]
  apply wp_mono (requireClient_spec machineIdentity binding)
  · rintro slot _ ⟨rfl, -⟩
    apply wp_mono_done (stripPages_keeps _ _ isolated)
    exact fun _ _ stripped => stripped.poison
  · rintro _ _ rfl
    exact isolated

theorem inspect_same (lease : ℕ) (memory : GuestMemoryManager) :
    Leaves (inspect lease) memory (fun next => next = memory) := by
  simp only [inspect, wp_rules, implies_true, and_self]

theorem findPage_none (absent : findPage owner linearPage = none) (other : Fin pageCapacity)
    (some : (owner.pages other).state ≠ .empty) : (owner.pages other).linearPage ≠ linearPage := by
  intro same
  have missing := find?_eq_none.mp absent other (mem_finRange other)
  simp [some, same] at missing

theorem findPage_some (found : findPage owner linearPage = some index) :
    (owner.pages index).state ≠ .empty ∧ (owner.pages index).linearPage = linearPage := by
  have match_ := find?_some found
  simpa using match_

theorem faultOnRecord_keeps (index : Fin pageCapacity) (faultAddress : ℕ) :
    KeepsIsolated base space (faultOnRecord index faultAddress) := by
  intro state isolated
  simp only [faultOnRecord, wp_split, wp_poisonOwner]
  refine ⟨fun _ => isolated, fun _ => ?_⟩
  apply wp_mono_done (stripPage_spec isolated index)
  exact fun _ _ stripped => stripped.poison

include isolated

theorem rollbackPrivatePage_spec (present : (state.owner.pages index).state ≠ .empty) {zero : GuestZeroStatus}
    {original : FirmwareShadowError} {done : α → FirmwareState → Prop} :
    wp (rollbackPrivatePage index zero original : FirmwareM α) state done (fun _ => Isolated base space) := by
  simp only [rollbackPrivatePage, wp_rules]
  apply wp_mono (releasePrivatePage_spec isolated index zero present)
  · rintro corrupted next ⟨rfl, isolated', -⟩
    simp only [settleRollback, wp_throw]
    exact isolated'
  · intro error next isolated'
    simp only [settleRollback, wp_poisonOwner]
    exact isolated'.poison

theorem keepOrRollback_spec (present : (state.owner.pages index).state ≠ .empty)
    (zero : GuestZeroStatus) (keep : Bool) (original : FirmwareShadowError) :
    wp (keepOrRollback index zero keep original) state (fun _ next => next = state)
      (fun _ => Isolated base space) := by
  cases keep with
  | true => exact rfl
  | false => exact rollbackPrivatePage_spec isolated present

variable (leased : (state.owner.pages index).state = .leased)
include leased

/-- The shadow entry and the state of the record change together. -/
theorem publishPage_spec
    (named : (state.owner.pages index).snapshot.linearPage = (state.owner.pages index).linearPage)
    (zero : GuestZeroStatus) : Leaves (publishPage index zero) state (Isolated base space) := by
  have present := (present_of_leased leased).1
  simp only [publishPage, wp_rules, wp_onPaging, wp_changeOwner]
  apply wp_mono (guestShadowPublish_spec _ _)
  · rintro _ _ ⟨published, agree, rfl⟩
    simp only [Except.isOk, Except.toBool, keepOrRollback, if_true, wp_pure]
    rw [named] at agree ⊢
    have tables := isolated.tables.publish isolated.leases.distinct leased named
      (isolated.published.mp published) agree
    exact { isolated with leases := isolated.leases.rewrite ⟨rfl, rfl, rfl⟩ present (by simp), tables }
  · rintro _ _ rfl
    simp only [Except.isOk, Except.toBool]
    exact rollbackPrivatePage_spec isolated present

/-- The snapshot of a leased record. -/
theorem Isolated.snapshot (snapshot : PagingShadowSnapshot) :
    Isolated base space { state with owner := setPage state.owner index { state.owner.pages index with snapshot } } := by
  obtain ⟨present, inactive⟩ := present_of_leased leased
  exact { isolated with
    leases := isolated.leases.rewrite ⟨rfl, rfl, rfl⟩ present present
    tables := isolated.tables.rewrite inactive inactive }

/-- A leased record is published, or rolled back. -/
theorem shadowPage_spec (named : (state.owner.pages index).linearPage = linearPage) (copied : Bool)
    (zero : GuestZeroStatus) : Leaves (shadowPage index linearPage copied zero) state (Isolated base space) := by
  have present := (present_of_leased leased).1
  simp only [shadowPage, wp_rules, wp_onPaging]
  apply wp_mono (guestShadowSnapshot_spec _ linearPage)
  · rintro snapshot _ ⟨rfl, taken⟩
    have isolated' := isolated.snapshot leased snapshot
    have self : (setPage state.owner index { state.owner.pages index with snapshot }).pages index =
        { state.owner.pages index with snapshot } := update_self _ _ _
    simp only [takeSnapshot, wp_changeOwner]
    apply wp_mono_done (keepOrRollback_spec isolated' (by rw [self]; exact present) zero copied _)
    rintro _ _ rfl
    apply publishPage_spec isolated'
    · rw [self]
      exact leased
    · rw [self]
      exact taken.trans named.symm
  · rintro _ _ rfl
    simp only [takeSnapshot]
    exact rollbackPrivatePage_spec isolated present

omit leased

/-- The lease was inspected. -/
theorem inspected_spec {lease physicalPage : ℕ}
    (self : state.owner.pages index = leasedPage lease linearPage physicalPage) (keep copied : Bool)
    (zero : GuestZeroStatus) : wp (keepOrRollback index zero keep .invalidState) state
      (fun _ next => Leaves (shadowPage index linearPage copied zero) next (Isolated base space))
      (fun _ => Isolated base space) := by
  have leased : (state.owner.pages index).state = .leased := by
    rw [self]
    rfl
  apply wp_mono_done (keepOrRollback_spec isolated (present_of_leased leased).1 zero keep _)
  rintro _ _ rfl
  apply shadowPage_spec isolated leased
  rw [self]
  rfl

/-- The state in which a page has just been leased. -/
theorem Isolated.lease (empty : (state.owner.pages index).state = .empty) {lease physicalPage : ℕ}
    (leases : Leases space (update state.owner.pages index (leasedPage lease linearPage physicalPage)) memory)
    (pageCount : ℕ) : Isolated base space { state with
      owner := { setPage state.owner index (leasedPage lease linearPage physicalPage) with pageCount }, memory } := by
  have inactive : (state.owner.pages index).state ≠ .active := by
    rw [empty]
    simp
  exact { isolated with leases, tables := isolated.tables.rewrite inactive (by simp [leasedPage]) }

theorem faultOnOriginal_spec (lower : dosVideoLimit ≤ linearPage) (upper : linearPage < legacyRomLimit)
    (aligned : linearPage % pageBytes = 0) (absent : findPage state.owner linearPage = none)
    (allocateZero : GuestZeroStatus) (copied : Bool) (rollbackZero : GuestZeroStatus) :
    Leaves (faultOnOriginal linearPage allocateZero copied rollbackZero) state (Isolated base space) := by
  simp only [faultOnOriginal, wp_rules]
  refine ⟨fun _ => isolated, fun _ => ?_⟩
  cases found : findEmptyPage state.owner with
  | none => exact wp_poisonOwner.mpr isolated.poison
  | some index =>
    have matched := find?_some found
    have empty : (state.owner.pages index).state = .empty := of_decide_eq_true matched
    simp only [wp_bind, wp_onMemory]
    apply wp_mono (allocate_spec isolated.leases.sound _ 1 allocateZero)
    · rintro _ memory ⟨slot, first, prepared, refused, idle, -, fresh, free, rfl, rfl⟩
      have granted := isolated.leases.grant refused idle fresh free lower upper aligned empty (findPage_none absent)
      rw [isolated.identity]
      simp only [settleAllocation, wp_pure, wp_changeOwner]
      have isolated' := isolated.lease empty granted (state.owner.pageCount + 1)
      have self := @update_self _ (fun _ => FirmwareShadowPage) _ index
        (leasedPage (makeLease slot ((state.memory.leases slot).generation + 1)) linearPage (pageAddress first))
        state.owner.pages
      apply wp_mono (inspect_same _ _)
      · rintro info _ rfl
        exact inspected_spec isolated' self _ copied rollbackZero
      · rintro error _ rfl
        exact inspected_spec isolated' self _ copied rollbackZero
    · rintro error memory ⟨refused, -⟩
      have kept := isolated.refused refused
      simp only [settleAllocation, wp_ite, wp_poisonOwner, wp_throw]
      exact ⟨fun _ => kept.poison, fun _ => kept⟩

omit isolated in
theorem writeFault_keeps {machineIdentity : ℕ} {binding : FirmwareBinding} {pageFaultError : BitVec 32} {faultAddress : ℕ}
    {allocateZero : GuestZeroStatus} {copied : Bool} {rollbackZero : GuestZeroStatus} :
    KeepsIsolated base space
      (writeFault machineIdentity binding pageFaultError faultAddress allocateZero copied rollbackZero) := by
  intro state isolated
  simp only [writeFault, wp_rules]
  apply wp_mono (requireActive_spec machineIdentity)
  · rintro _ _ rfl
    refine ⟨fun slot _ => ⟨fun _ => isolated, fun _ => ⟨fun _ => isolated, fun applicable => ?_⟩⟩, fun _ => isolated⟩
    push Not at applicable
    cases found : findPage _ (faultAddress / pageBytes * pageBytes) with
    | some index => exact faultOnRecord_keeps index faultAddress _ isolated
    | none =>
      obtain ⟨-, lower, upper⟩ := applicable
      apply faultOnOriginal_spec isolated _ _ _ found
      · unfold dosVideoLimit pageBytes at *
        omega
      · unfold legacyRomLimit pageBytes at *
        omega
      · exact Nat.mul_mod_left _ _
  · rintro _ _ rfl
    exact isolated

end DosC32.FirmwareShadow
