import DosC32.Core.Extents
import DosC32.Core.Run
import DosC32.Model.GuestMemory

/-! # The page runs of the guest memory

The marks, the lease slots and the counters agree at all times: a page is marked exactly when one
live lease holds it, and leased pages are available pages of the map.
-/

namespace DosC32.GuestMemory

open Effect Extents Function Bitmap Finset

variable {ranges : List BootMemoryRange} {page count : ℕ} {words : ℕ → BitVec 32}

/-- The page and the range have a byte in common. -/
def Touches (range : BootMemoryRange) (page : ℕ) : Prop :=
  range.base < pageAddress (page + 1) ∧ pageAddress page < range.base + range.length

theorem mem_rangePages_of_touches {range : BootMemoryRange} (inside : page < guestMemoryPageCount)
    (touches : Touches range page) : page ∈ rangePages range false := by
  unfold Touches at touches
  unfold rangePages
  simp only [Bool.false_eq_true, if_false]
  have lower : alignDownPage range.base ≤ pageAddress page := by
    simp only [alignDownPage, pageAddress, guestMemoryBase, guestPageBytes] at touches ⊢
    omega
  have upper : pageAddress (page + 1) ≤ alignUpPage (range.base + range.length) := by
    unfold guestMemoryPageCount guestMemoryApertureLimit guestMemoryBase guestPageBytes at inside
    unfold pageAddress guestMemoryBase guestPageBytes at touches ⊢
    unfold alignUpPage guestPageBytes
    split_ifs <;> omega
  generalize alignDownPage range.base = start at lower
  generalize alignUpPage (range.base + range.length) = stop at upper
  unfold guestMemoryPageCount guestMemoryApertureLimit guestMemoryBase guestPageBytes at inside
  unfold pageAddress guestMemoryBase guestPageBytes at lower upper
  unfold guestMemoryApertureLimit guestMemoryBase guestPageBytes
  have first : (if start < 0x00800000 then 0x00800000 else start) ≤ 0x00800000 + page * 4096 := by split_ifs <;> omega
  have floor : 0x00800000 ≤ if start < 0x00800000 then 0x00800000 else start := by split_ifs <;> omega
  have last : 0x00800000 + (page + 1) * 4096 ≤ if stop > 0x10000000 then 0x10000000 else stop := by split_ifs <;> omega
  generalize (if start < 0x00800000 then 0x00800000 else start) = low at first floor
  generalize (if stop > 0x10000000 then 0x10000000 else stop) = high at last
  rw [if_neg (by omega), List.mem_range'_1]
  omega

theorem testAt_erased (ranges : List BootMemoryRange) (words : ℕ → BitVec 32) (page : ℕ) :
    testAt (ranges.foldl (changeRangeAvailability · · false) words) page = true ↔
      (∀ range ∈ ranges, page ∉ rangePages range false) ∧ testAt words page = true := by
  induction ranges generalizing words with
  | nil => simp
  | cons range rest ih =>
    rw [List.foldl_cons, ih]
    simp only [changeRangeAvailability, Bool.false_eq_true, if_false, testAt_eraseAll, List.forall_mem_cons]
    tauto

/-- An available page has no byte in a range that is not usable. -/
theorem untouched_of_available {range : BootMemoryRange} (member : range ∈ ranges)
    (reserved : range.type ≠ bootMemoryUsable) (inside : page < guestMemoryPageCount)
    (available : testAt (availableWords ranges) page = true) : ¬ Touches range page := by
  intro touches
  have erased := ((testAt_erased _ _ page).mp available).1 range
    (List.mem_filter.mpr ⟨member, by simpa using reserved⟩)
  exact erased (mem_rangePages_of_touches inside touches)

theorem spanUpTo_succ (words : ℕ → BitVec 32) (count : ℕ) :
    spanUpTo words (count + 1) =
      if testAt words count then
        (if (spanUpTo words count).1 = 0 then pageAddress count else (spanUpTo words count).1, pageAddress (count + 1))
      else spanUpTo words count := by
  rw [spanUpTo, List.range_succ, List.foldl_append]
  rfl

/-- Pages that are not available do not change the span. -/
theorem spanUpTo_stable (beyond : ∀ page, count ≤ page → testAt words page = false) (more : ℕ) :
    spanUpTo words (count + more) = spanUpTo words count := by
  induction more with
  | zero => rfl
  | succ more ih => rw [← Nat.add_assoc, spanUpTo_succ, beyond _ (Nat.le_add_right _ _), ih, if_neg Bool.false_ne_true]

/-- What the loop knows after the pages below `count`: its span holds every available one of them and starts at one. -/
structure Spans (words : ℕ → BitVec 32) (count : ℕ) (span : ℕ × ℕ) : Prop where
  covers : ∀ page < count, testAt words page = true →
    span.1 ≠ 0 ∧ span.1 ≤ pageAddress page ∧ pageAddress (page + 1) ≤ span.2
  ordered : span.1 ≠ 0 → guestMemoryBase ≤ span.1 ∧ span.1 < span.2
  below : span.1 ≤ pageAddress count ∧ span.2 ≤ pageAddress count

theorem Spans.step {span : ℕ × ℕ} (spans : Spans words count span) :
    Spans words (count + 1) (if testAt words count then
      (if span.1 = 0 then pageAddress count else span.1, pageAddress (count + 1)) else span) := by
  have base : ∀ page, pageAddress page = guestMemoryBase + 4096 * page := by
    intro page
    rw [Nat.mul_comm]
    rfl
  have positive : guestMemoryBase ≠ 0 := by decide
  obtain ⟨covers, ordered, below⟩ := spans
  simp only [base] at covers below ⊢
  cases available : testAt words count with
  | true =>
    refine ⟨fun page inside isAvailable => ?_, ?_, ?_⟩ <;> simp only [base, if_true]
    · rcases Nat.lt_succ_iff_lt_or_eq.mp inside with earlier | rfl
      · have before := covers page earlier isAvailable
        rw [if_neg before.1]
        omega
      · split <;> omega
    all_goals split <;> omega
  | false =>
    refine ⟨fun page inside isAvailable => ?_, ordered, ?_⟩ <;> simp only [base, Bool.false_eq_true, if_false]
    · rcases Nat.lt_succ_iff_lt_or_eq.mp inside with earlier | rfl
      · exact covers page earlier isAvailable
      · rw [available] at isAvailable
        cases isAvailable
    · omega

theorem spans_managedSpan (words : ℕ → BitVec 32) : Spans words guestMemoryPageCount (managedSpan words) := by
  have upTo : ∀ count, Spans words count (spanUpTo words count) := by
    intro count
    induction count with
    | zero =>
      exact ⟨fun _ none => absurd none (Nat.not_lt_zero _), fun some => absurd rfl some, Nat.zero_le _, Nat.zero_le _⟩
    | succ count ih =>
      rw [spanUpTo_succ]
      exact ih.step
  exact upTo guestMemoryPageCount

variable (manager next : GuestMemoryManager) (slot : Fin guestMemoryLeaseCount)

/-- The run that a slot holds. -/
def extentOf (lease : GuestLeaseSlot) : Option Extent :=
  if lease.state = .live then some ⟨lease.firstPage, lease.pageCount⟩ else none

/-- The runs that the slots hold. -/
def held (index : Fin guestMemoryLeaseCount) : Option Extent :=
  extentOf (manager.leases index)

/-- The pages that the map makes available. -/
def availableSet : Finset ℕ :=
  (range guestMemoryPageCount).filter fun page => testAt manager.available page = true

/-- The marks, the slots and the counters agree. -/
structure Sound : Prop where
  owns : Owns (held manager) (testAt manager.allocated)
  total : manager.allocatedPages = total (held manager)
  within : ∀ index, unitsAt (held manager) index ⊆ availableSet manager
  nonempty : ∀ {index extent}, held manager index = some extent → extent.count ≠ 0
  counted : manager.availablePages = (availableSet manager).card
  limit : managedPageLimit manager ≤ guestMemoryPageCount

/-- The managed span lies in the aperture and holds every available page. -/
structure Spanned : Prop where
  initialized : manager.initialized = true
  low : guestMemoryBase ≤ manager.managedBase
  ordered : manager.managedBase < manager.managedLimit
  high : manager.managedLimit ≤ guestMemoryApertureLimit
  covers : ∀ page < guestMemoryPageCount, testAt manager.available page = true →
    managedFirstPage manager ≤ page ∧ page < managedPageLimit manager

/-- The slots are the same but for retired ones, and the manager may have been poisoned. -/
structure Refused : Prop where
  same : next = { manager with leases := next.leases, poisoned := next.poisoned }
  kept : ∀ index, (next.leases index).generation = (manager.leases index).generation ∧
    extentOf (next.leases index) = extentOf (manager.leases index)
  live : ∀ index, (manager.leases index).state = .live ∨ (next.leases index).state = .live →
    next.leases index = manager.leases index

theorem makeLease_eq (generation : ℕ) : makeLease slot generation = generation * 2048 + (slot + 1) := by
  have below : slot.val + 1 < 2 ^ 11 := by
    have bound := slot.isLt
    unfold guestMemoryLeaseCount at bound
    omega
  unfold makeLease leaseSlotBits
  rw [← Nat.shiftLeft_add_eq_or_of_lt below, Nat.shiftLeft_eq]

theorem makeLease_slot (generation : ℕ) : makeLease slot generation % 2 ^ leaseSlotBits = slot + 1 := by
  have bound := slot.isLt
  unfold guestMemoryLeaseCount at bound
  rw [makeLease_eq]
  unfold leaseSlotBits
  omega

theorem makeLease_generation (generation : ℕ) : makeLease slot generation >>> leaseSlotBits = generation := by
  have bound := slot.isLt
  unfold guestMemoryLeaseCount at bound
  rw [makeLease_eq, Nat.shiftRight_eq_div_pow]
  unfold leaseSlotBits
  omega

theorem makeLease_lt {generation : ℕ} (bounded : generation ≤ generationMax) :
    makeLease slot generation < kernelObjectHandleInvalid := by
  have bound := slot.isLt
  unfold guestMemoryLeaseCount at bound
  unfold generationMax at bounded
  rw [makeLease_eq]
  unfold kernelObjectHandleInvalid
  omega

variable {manager next slot}

theorem held_live (live : (manager.leases slot).state = .live) :
    held manager slot = some ⟨(manager.leases slot).firstPage, (manager.leases slot).pageCount⟩ := if_pos live

theorem held_idle (idle : (manager.leases slot).state ≠ .live) : held manager slot = none := if_neg idle

variable (list : List (Fin guestMemoryLeaseCount)) (leases : Fin guestMemoryLeaseCount → GuestLeaseSlot) {first : ℕ}

/-- The search for a slot only retires free slots. -/
theorem findLeaseSlot_slots (index : Fin guestMemoryLeaseCount) :
    (findLeaseSlot list leases).2 index = leases index ∨
      (leases index).state = .free ∧ (findLeaseSlot list leases).2 index = { leases index with state := .retired } := by
  induction list generalizing leases with
  | nil => exact .inl rfl
  | cons head rest ih =>
    unfold findLeaseSlot
    split_ifs with busy exhausted
    · exact ih leases
    · have later := ih (update leases head { leases head with state := .retired })
      by_cases same : index = head
      · subst same
        rw [update_self] at later
        exact .inr ⟨not_not.mp busy, later.resolve_right (by simp)⟩
      · rwa [update_of_ne same] at later
    · exact .inl rfl

/-- The slot that the search finds is free and not exhausted. -/
theorem findLeaseSlot_found (found : (findLeaseSlot list leases).1 = some slot) :
    ((findLeaseSlot list leases).2 slot).state = .free ∧ (leases slot).generation < generationMax := by
  induction list generalizing leases with
  | nil => cases found
  | cons head rest ih =>
    unfold findLeaseSlot at found ⊢
    split_ifs at found ⊢ with busy exhausted
    · exact ih leases found
    · have later := ih _ found
      by_cases same : slot = head
      · subst same
        rwa [update_self] at later
      · rwa [update_of_ne same] at later
    · cases found
      exact ⟨not_not.mp busy, Nat.lt_of_not_le exhausted⟩

variable {leases}

theorem runIsFree_iff : runIsFree manager first count = true ↔
    count ≠ 0 ∧ first + count ≤ managedPageLimit manager ∧
      ∀ page ∈ (Extent.mk first count).units, pageIsFree manager page := by
  have covers : (∀ index < count, pageIsFree manager (first + index) = true) ↔
      ∀ page ∈ (Extent.mk first count).units, pageIsFree manager page = true := by
    simp only [Extent.units, mem_Ico]
    constructor
    · intro free page inside
      have same := free (page - first) (by omega)
      rwa [Nat.add_sub_cancel' inside.1] at same
    · exact fun free index below => free (first + index) (by omega)
  unfold runIsFree
  split_ifs with outside
  · simp only [false_iff]
    rintro ⟨some, bounded, -⟩
    omega
  · simp only [List.all_eq_true, List.mem_range, covers]
    constructor
    · exact fun free => ⟨by omega, by omega, free⟩
    · exact fun free => free.2.2

/-- The search for a run finds a free one. -/
theorem findFreeRun_spec (found : findFreeRun manager count = some first) : runIsFree manager first count = true := by
  unfold findFreeRun at found
  split_ifs at found
  rcases Option.or_eq_some_iff.mp found with ahead | ⟨-, behind⟩
  · have free := List.find?_some ahead
    exact free
  · have free := List.find?_some behind
    exact free

theorem Sound.allocated_le (sound : Sound manager) : manager.allocatedPages ≤ manager.availablePages := by
  rw [sound.total, sound.counted]
  exact sound.owns.total_le sound.within

/-- A change of the slots that no run notices, and of the flags. -/
theorem Sound.relabel (sound : Sound manager) {leases : Fin guestMemoryLeaseCount → GuestLeaseSlot} {poisoned : Bool}
    (same : ∀ index, extentOf (leases index) = extentOf (manager.leases index)) :
    Sound { manager with leases, poisoned } := by
  have table : held { manager with leases, poisoned } = held manager := funext same
  constructor
  · rw [table]
    exact sound.owns
  · rw [table]
    exact sound.total
  · rw [table]
    exact sound.within
  · rw [table]
    exact sound.nonempty
  · exact sound.counted
  · exact sound.limit

theorem mem_runPages : page ∈ runPages first count ↔ page ∈ (Extent.mk first count).units := by
  simp only [runPages, Extent.units, List.mem_map, List.mem_range, mem_Ico]
  constructor
  · rintro ⟨index, below, rfl⟩
    omega
  · intro inside
    exact ⟨page - first, by omega, by omega⟩

theorem held_grantRun (owner first count : ℕ) :
    held (grantRun manager slot owner first count) = update (held manager) slot (some ⟨first, count⟩) :=
  comp_update extentOf manager.leases slot _

/-- A free run goes to an idle slot. -/
theorem Sound.grant (sound : Sound manager) (idle : held manager slot = none) (owner : ℕ)
    (free : runIsFree manager first count = true) : Sound (grantRun manager slot owner first count) := by
  obtain ⟨some, bounded, free⟩ := runIsFree_iff.mp free
  have unused : ∀ page ∈ (Extent.mk first count).units, testAt manager.allocated page = false := by
    intro page inside
    have unmarked := free page inside
    simp only [pageIsFree, Bool.and_eq_true, Bool.not_eq_true'] at unmarked
    exact unmarked.2
  constructor
  · rw [held_grantRun]
    apply sound.owns.take idle unused
    intro page
    rw [← mem_runPages]
    exact testAt_insertAll _ _ page
  · rw [held_grantRun, total_take idle, ← sound.total]
    rfl
  · intro index page inside
    rw [held_grantRun, unitsAt_update] at inside
    split_ifs at inside
    · have available := free page inside
      simp only [pageIsFree, Bool.and_eq_true] at available
      simp only [Option.elim_some, Extent.units, mem_Ico] at inside
      have limit := sound.limit
      exact mem_filter.mpr ⟨mem_range.mpr (by omega), available.1⟩
    · exact sound.within index inside
  · intro index extent holds
    rw [held_grantRun, update_apply] at holds
    split_ifs at holds
    · cases holds
      exact some
    · exact sound.nonempty holds
  · exact sound.counted
  · exact sound.limit

theorem held_takeRun : held (takeRun manager slot) = update (held manager) slot none :=
  comp_update extentOf manager.leases slot _

/-- A live slot gives its run back. -/
theorem Sound.take (sound : Sound manager) (live : (manager.leases slot).state = .live) : Sound (takeRun manager slot) := by
  have holds := held_live live
  constructor
  · rw [held_takeRun]
    apply sound.owns.drop holds
    intro page
    rw [← mem_runPages]
    exact testAt_eraseAll _ _ page
  · have dropped : Extents.total (update (held manager) slot none) + (manager.leases slot).pageCount = _ :=
      total_drop holds
    have before := sound.total
    rw [held_takeRun]
    change manager.allocatedPages - (manager.leases slot).pageCount = _
    omega
  · intro index page inside
    rw [held_takeRun, unitsAt_update] at inside
    split_ifs at inside
    · exact absurd inside (notMem_empty _)
    · exact sound.within index inside
  · intro index extent holds
    rw [held_takeRun, update_apply] at holds
    split_ifs at holds
    exact sound.nonempty holds
  · exact sound.counted
  · exact sound.limit

/-- The consistency checks of a release always pass. -/
theorem Sound.consistent (sound : Sound manager) (live : (manager.leases slot).state = .live) :
    leaseIsConsistent manager (manager.leases slot) = true := by
  have holds := held_live live
  have some := sound.nonempty holds
  have counted := count_le_total holds
  rw [← sound.total] at counted
  have pages : ∀ page ∈ (Extent.mk (manager.leases slot).firstPage (manager.leases slot).pageCount).units,
      page < guestMemoryPageCount ∧ testAt manager.allocated page = true := by
    intro page inside
    have member : page ∈ unitsAt (held manager) slot := by rwa [unitsAt_some holds]
    have within := mem_filter.mp (sound.within slot member)
    exact ⟨mem_range.mp within.1, (sound.owns.exact page).mpr ⟨slot, member⟩⟩
  have last := pages ((manager.leases slot).firstPage + (manager.leases slot).pageCount - 1) (by
    simp only [Extent.units, mem_Ico]
    simp only at some
    omega)
  simp only [leaseIsConsistent, Bool.and_eq_true, bne_iff_ne, decide_eq_true_eq, List.all_eq_true]
  refine ⟨⟨⟨some, by simp only at some; omega⟩, counted⟩, fun page inside => ?_⟩
  exact (pages page (mem_runPages.mp inside)).2

variable {lease : ℕ}

theorem makeLease_inj {other : Fin guestMemoryLeaseCount} {generation later : ℕ}
    (same : makeLease slot generation = makeLease other later) : slot = other ∧ generation = later := by
  rw [makeLease_eq, makeLease_eq] at same
  have bound := slot.isLt
  have bound' := other.isLt
  unfold guestMemoryLeaseCount at bound bound'
  constructor
  · apply Fin.ext
    omega
  · omega

/-- A lease resolves by its own slot alone. -/
theorem resolveLease_iff : resolveLease manager lease = some slot ↔
    lease ≠ 0 ∧ lease ≠ kernelObjectHandleInvalid ∧ lease % 2 ^ leaseSlotBits = slot + 1 ∧ lease >>> leaseSlotBits ≠ 0 ∧
      lease >>> leaseSlotBits ≤ generationMax ∧ (manager.leases slot).state = .live ∧
      (manager.leases slot).generation = lease >>> leaseSlotBits := by
  have bound := slot.isLt
  unfold resolveLease
  dsimp only
  constructor
  · intro found
    split_ifs at found with special valid live
    cases found
    push Not at special
    exact ⟨special.1, special.2, (Nat.sub_add_cancel (Nat.pos_of_ne_zero valid.1)).symm, valid.2.2.1, valid.2.2.2, live⟩
  · rintro ⟨nonzero, valid, encoded, first, last, live⟩
    have named : (⟨lease % 2 ^ leaseSlotBits - 1, by omega⟩ : Fin guestMemoryLeaseCount) = slot := Fin.ext (by
      change lease % 2 ^ leaseSlotBits - 1 = slot
      omega)
    rw [if_neg (by tauto), dif_pos ⟨by omega, by omega, first, last⟩, named, if_pos live]

theorem resolveLease_congr (same : next.leases slot = manager.leases slot) :
    resolveLease next lease = some slot ↔ resolveLease manager lease = some slot := by
  rw [resolveLease_iff, resolveLease_iff, same]

theorem live_of_resolveLease (found : resolveLease manager lease = some slot) : (manager.leases slot).state = .live :=
  (resolveLease_iff.mp found).2.2.2.2.2.1

/-- The lease of a grant resolves to the slot that was granted. -/
theorem resolveLease_grantRun (owner first count : ℕ) (fresh : (manager.leases slot).generation < generationMax) :
    resolveLease (grantRun manager slot owner first count) (makeLease slot ((manager.leases slot).generation + 1)) =
      some slot := by
  have granted : (grantRun manager slot owner first count).leases slot =
      ⟨(manager.leases slot).generation + 1, owner, first, count, .live⟩ := update_self _ _ _
  have encoded := makeLease_slot slot ((manager.leases slot).generation + 1)
  rw [resolveLease_iff, granted, makeLease_generation, encoded]
  refine ⟨?_, (makeLease_lt slot fresh).ne, rfl, Nat.succ_ne_zero _, fresh, rfl, rfl⟩
  intro zero
  rw [zero] at encoded
  cases encoded

theorem refused_of_slots {poisoned : Bool} (slots : ∀ index, leases index = manager.leases index ∨
      (manager.leases index).state = .free ∧ leases index = { manager.leases index with state := .retired }) :
    Refused manager { manager with leases, poisoned } := by
  refine ⟨rfl, fun index => ?_, fun index live => ?_⟩ <;> dsimp only at * <;>
    rcases slots index with same | ⟨free, retired⟩
  · rw [same]
    exact ⟨rfl, rfl⟩
  · rw [retired]
    simp [extentOf, free]
  · exact same
  · rw [free, retired] at live
    simp at live

theorem Refused.refl (manager : GuestMemoryManager) : Refused manager manager := refused_of_slots fun _ => .inl rfl

/-- A refusal poisons the manager only where the zeroing callback was uncertain. -/
structure Rejected (zero : GuestZeroStatus) (manager next : GuestMemoryManager) : Prop where
  refused : Refused manager next
  poisons : manager.poisoned = false → next.poisoned = true → zero = .uncertain

theorem Refused.rejected (refused : Refused manager next) (flag : next.poisoned = manager.poisoned)
    (zero : GuestZeroStatus) : Rejected zero manager next := by
  refine ⟨refused, fun healthy poisoned => ?_⟩
  rw [flag, healthy] at poisoned
  cases poisoned

theorem Refused.sound (refused : Refused manager next) (sound : Sound manager) : Sound next := by
  rw [refused.same]
  exact sound.relabel fun index => (refused.kept index).2

theorem runIsFree_congr {prepared : GuestMemoryManager} (refused : Refused manager prepared) (first count : ℕ) :
    runIsFree prepared first count = runIsFree manager first count := by
  rw [refused.same]
  rfl

variable {failed : GuestMemoryError → GuestMemoryManager → Prop} {done : Unit → GuestMemoryManager → Prop}

@[simp] theorem wp_poisonWhen (condition : Prop) [Decidable condition] :
    wp (poisonWhen condition) manager done failed ↔
      (condition → failed .poisoned { manager with poisoned := true }) ∧ (¬ condition → done () manager) := by
  simp only [poisonWhen, poisonManager, wp_split]

@[simp] theorem wp_requireZeroed (zero : GuestZeroStatus) :
    wp (requireZeroed zero) manager done failed ↔
      (zero = .ok → done () manager) ∧ (zero = .failed → failed .zeroFailed manager) ∧
        (zero = .uncertain → failed .poisoned { manager with poisoned := true }) := by
  cases zero <;> simp [requireZeroed, poisonManager]

/-- What an allocation does. -/
theorem allocate_spec (sound : Sound manager) (owner count : ℕ) (zero : GuestZeroStatus) :
    wp (allocate owner count zero) manager
      (fun result next => ∃ slot first prepared, Refused manager prepared ∧ held prepared slot = none ∧
        prepared.poisoned = manager.poisoned ∧ (manager.leases slot).generation < generationMax ∧
        runIsFree manager first count = true ∧ next = grantRun prepared slot owner first count ∧
        result = (makeLease slot ((manager.leases slot).generation + 1), pageAddress first))
      (fun _ => Rejected zero manager) := by
  have slots := findLeaseSlot_slots (List.finRange guestMemoryLeaseCount) manager.leases
  have found := fun slot => @findLeaseSlot_found slot (List.finRange guestMemoryLeaseCount) manager.leases
  simp only [allocate, wp_rules, wp_poisonWhen, wp_set, wp_requireZeroed]
  generalize findLeaseSlot (List.finRange guestMemoryLeaseCount) manager.leases = search at slots found
  have searched : Refused manager { manager with leases := search.2 } := refused_of_slots slots
  have unchanged := (Refused.refl manager).rejected rfl zero
  have retired := searched.rejected rfl zero
  refine ⟨fun badArgument => unchanged, fun _ => ⟨fun notInitialized => unchanged, fun _ => ?_⟩⟩
  refine ⟨fun alreadyPoisoned => unchanged, fun _ => ⟨fun overcommitted => ?_, fun _ => ?_⟩⟩
  · exact absurd sound.allocated_le (Nat.not_le.mpr overcommitted)
  refine ⟨fun tooMany => unchanged, fun _ => ⟨fun slot isFound => ?_, fun noSlot => retired⟩⟩
  refine ⟨fun first isFree => ⟨fun zeroed => ?_, fun zeroFailed => retired, fun uncertain => ?_⟩, fun noRun => retired⟩
  · obtain ⟨free, fresh⟩ := found slot isFound
    have empty : extentOf (search.2 slot) = none := by
      rw [extentOf, free]
      rfl
    refine ⟨slot, first, { manager with leases := search.2 }, searched, empty, rfl, fresh, findFreeRun_spec isFree, rfl, ?_⟩
    rw [← (searched.kept slot).1]
  · exact ⟨refused_of_slots slots, fun _ _ => uncertain⟩

/-- What a release does. -/
theorem release_spec (sound : Sound manager) (owner lease : ℕ) (zero : GuestZeroStatus) :
    wp (release owner lease zero) manager
      (fun _ next => ∃ slot, (manager.leases slot).state = .live ∧ resolveLease manager lease = some slot ∧
        (manager.leases slot).owner = owner ∧ next = takeRun manager slot)
      (fun _ => Rejected zero manager) := by
  have unchanged := (Refused.refl manager).rejected rfl zero
  simp only [release, wp_rules, wp_poisonWhen, wp_requireZeroed]
  refine ⟨fun badArgument => unchanged, fun _ => ⟨fun notInitialized => unchanged, fun _ => ?_⟩⟩
  refine ⟨fun alreadyPoisoned => unchanged, fun _ => ⟨fun slot found => ?_, fun stale => unchanged⟩⟩
  have live := live_of_resolveLease found
  refine ⟨fun foreign => unchanged, fun owned => ⟨fun inconsistent => ?_, fun _ => ?_⟩⟩
  · rw [sound.consistent live] at inconsistent
    cases inconsistent
  refine ⟨fun zeroed => ?_, fun zeroFailed => unchanged, fun uncertain => ?_⟩
  · exact ⟨slot, live, found, not_not.mp owned, rfl⟩
  · exact ⟨refused_of_slots fun _ => .inl rfl, fun _ _ => uncertain⟩

theorem countP_range (count : ℕ) (test : ℕ → Bool) :
    (List.range count).countP test = ((range count).filter fun index => test index = true).card := by
  simp [card, filter_val, range_val, Multiset.range, List.countP_eq_length_filter]

/-- A manager without leases is in order. -/
theorem sound_fresh (empty : ∀ index, (manager.leases index).state ≠ .live) (clear : manager.allocated = fun _ => 0)
    (none : manager.allocatedPages = 0) (counted : manager.availablePages = countAvailable manager.available)
    (limit : manager.managedLimit ≤ guestMemoryApertureLimit) : Sound manager := by
  have nothing : held manager = fun _ => Option.none := funext fun index => held_idle (empty index)
  constructor
  · rw [nothing, clear]
    exact owns_nothing fun page => testAt_zero page
  · rw [nothing, total_nothing, none]
  · intro index page inside
    rw [nothing] at inside
    exact absurd inside (notMem_empty _)
  · intro index extent holds
    rw [nothing] at holds
    cases holds
  · rw [counted, countAvailable, countP_range]
    rfl
  · unfold managedPageLimit guestMemoryPageCount
    apply Nat.div_le_div_right
    exact Nat.sub_le_sub_right limit _

theorem sound_started {span : ℕ × ℕ} {zeroContext : ℕ} (spans : Spans words guestMemoryPageCount span)
    (some : span.1 ≠ 0) (started : next = { manager with
      available := words, allocated := fun _ => 0, leases := fun _ => emptySlot, zeroContext, managedBase := span.1
      managedLimit := span.2, availablePages := countAvailable words, allocatedPages := 0, nextFreeHint := 0
      poisoned := false, initialized := true }) : Sound next ∧ Spanned next := by
  subst started
  refine ⟨sound_fresh (by simp [emptySlot]) rfl rfl (by dsimp only) spans.below.2, rfl, (spans.ordered some).1,
    (spans.ordered some).2, spans.below.2, fun page inside available => ?_⟩
  have within := (spans.covers page inside available).2
  simp only [managedFirstPage, managedPageLimit, pageAddress, guestMemoryBase, guestPageBytes] at within ⊢
  omega

/-- A manager that was just initialised has every page at its disposal and has issued no lease. -/
theorem guestMemoryInitialize_spec {bootInfo : BootInfo} {zeroContext : ℕ} :
    wp (guestMemoryInitialize bootInfo zeroContext) manager
      (fun _ next => (Sound next ∧ Spanned next) ∧ next.available = availableWords bootInfo.ranges ∧
        next.leases = fun _ => emptySlot)
      (fun _ _ => True) := by
  simp only [guestMemoryInitialize, wp_all, wp_ite]
  intro _ _ _ _ span
  exact sound_started (spans_managedSpan _) (not_or.mp span).1 rfl

variable {space : ℕ}

/-- The leases of an owner are as before. -/
def Keeps (space : ℕ) (manager next : GuestMemoryManager) : Prop :=
  ∀ index, ((manager.leases index).state = .live ∧ (manager.leases index).owner = space) ∨
    ((next.leases index).state = .live ∧ (next.leases index).owner = space) → next.leases index = manager.leases index

theorem Refused.keeps (refused : Refused manager next) (space : ℕ) : Keeps space manager next :=
  fun index live => refused.live index (live.imp And.left And.left)

theorem live_of_held (idle : held manager slot = none) : (manager.leases slot).state ≠ .live := by
  intro live
  rw [held_live live] at idle
  cases idle

variable {index : Fin guestMemoryLeaseCount}

/-- A grant touches the slot that it takes. -/
theorem leases_grantRun (other : index ≠ slot) (owner first count : ℕ) :
    (grantRun manager slot owner first count).leases index = manager.leases index := update_of_ne other _ _

theorem leases_takeRun (other : index ≠ slot) :
    (takeRun manager slot).leases index = manager.leases index := update_of_ne other _ _

theorem freed_takeRun (slot : Fin guestMemoryLeaseCount) : ((takeRun manager slot).leases slot).state = .free := by
  simp only [takeRun, update_self]

/-- An allocation for another owner keeps the leases of this one. -/
theorem allocate_keeps (sound : Sound manager) {owner : ℕ} (foreign : owner ≠ space) (count : ℕ) (zero : GuestZeroStatus) :
    Leaves (allocate owner count zero) manager (fun next => Sound next ∧ Keeps space manager next) := by
  apply wp_mono (allocate_spec sound owner count zero)
  · rintro _ next ⟨slot, first, prepared, refused, idle, _, _, free, rfl, _⟩
    constructor
    · apply (refused.sound sound).grant idle
      rwa [runIsFree_congr refused]
    · intro index live
      by_cases same : index = slot
      · subst same
        rcases live with live | live
        · rw [← refused.live index (.inl live.1)] at live
          exact absurd live.1 (live_of_held idle)
        · exact absurd (live.2.symm.trans (congrArg GuestLeaseSlot.owner (update_self _ _ _))) (Ne.symm foreign)
      · rw [leases_grantRun same] at live ⊢
        exact refused.live index (live.imp And.left And.left)
  · exact fun _ next rejected => ⟨rejected.refused.sound sound, rejected.refused.keeps space⟩

/-- A release by another owner keeps the leases of this one. -/
theorem release_keeps (sound : Sound manager) {owner : ℕ} (foreign : owner ≠ space) (lease : ℕ) (zero : GuestZeroStatus) :
    Leaves (release owner lease zero) manager (fun next => Sound next ∧ Keeps space manager next) := by
  apply wp_mono (release_spec sound owner lease zero)
  · rintro _ next ⟨slot, live, _, owned, rfl⟩
    refine ⟨sound.take live, fun index mine => ?_⟩
    by_cases same : index = slot
    · subst same
      rcases mine with mine | mine
      · exact absurd (owned.symm.trans mine.2) foreign
      · rw [freed_takeRun] at mine
        cases mine.1
    · exact leases_takeRun same
  · exact fun _ next rejected => ⟨rejected.refused.sound sound, rejected.refused.keeps space⟩

end DosC32.GuestMemory
