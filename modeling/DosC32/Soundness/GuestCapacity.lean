import DosC32.Soundness.GuestMemory

/-! # Completeness of the page allocation

The search for a run starts at a hint that earlier calls left and wraps around. It misses no run:
an allocation that has a lease slot and whose pages can be zeroed succeeds exactly if as many
consecutive pages are free, which is what the snapshot reports.
-/

namespace DosC32.GuestMemory

open Effect Extents Finset

variable {free : ℕ → Bool} {first count : ℕ}

/-- The pages of a run are free. -/
def FreeRun (free : ℕ → Bool) (start count : ℕ) : Prop := ∀ page, start ≤ page → page < start + count → free page = true

theorem freeRun_zero (start : ℕ) : FreeRun free start 0 := fun page _ _ => by omega

/-- The current run is the longest that ends with the last page scanned, and the largest is the longest of all. -/
structure Scanned (free : ℕ → Bool) (first scanned : ℕ) (runs : ℕ × ℕ) : Prop where
  current : ∀ count, count ≤ runs.1 ↔ count ≤ scanned ∧ FreeRun free (first + scanned - count) count
  largest : ∀ count, count ≤ runs.2 ↔
    ∃ start, first ≤ start ∧ start + count ≤ first + scanned ∧ FreeRun free start count

theorem Scanned.step {scanned : ℕ} {runs : ℕ × ℕ} (done : Scanned free first scanned runs) :
    Scanned free first (scanned + 1) (countRun runs (free (first + scanned))) := by
  cases isFree : free (first + scanned) with
  | true =>
    have current : ∀ count, count ≤ runs.1 + 1 ↔
        count ≤ scanned + 1 ∧ FreeRun free (first + (scanned + 1) - count) count := by
      intro count
      cases count with
      | zero => exact iff_of_true (Nat.zero_le _) ⟨Nat.zero_le _, freeRun_zero _⟩
      | succ count =>
        rw [Nat.add_le_add_iff_right, Nat.add_le_add_iff_right, done.current, Nat.add_comm scanned 1, ← Nat.add_assoc,
          Nat.add_right_comm, Nat.add_sub_add_right]
        refine and_congr_right fun bounded => ⟨fun run page lower upper => ?_, fun run page lower upper => ?_⟩
        · by_cases last : page = first + scanned
          · rwa [last]
          · exact run page lower (by omega)
        · exact run page lower (by omega)
    refine ⟨current, fun count => ?_⟩
    have either : count ≤ (countRun runs true).2 ↔ count ≤ runs.2 ∨ count ≤ runs.1 + 1 := by
      simp only [countRun, if_true]
      split <;> omega
    rw [either, done.largest, current]
    constructor
    · rintro (⟨start, lower, upper, run⟩ | ⟨bounded, run⟩)
      · exact ⟨start, lower, by omega, run⟩
      · exact ⟨_, by omega, by omega, run⟩
    · rintro ⟨start, lower, upper, run⟩
      by_cases last : start + count = first + (scanned + 1)
      · obtain rfl : start = first + (scanned + 1) - count := by omega
        exact .inr ⟨by omega, run⟩
      · exact .inl ⟨start, lower, by omega, run⟩
  | false =>
    have ends : ∀ {start count}, FreeRun free start count → start ≤ first + scanned → start + count ≤ first + scanned := by
      intro start count run lower
      by_contra reaches
      have free := run (first + scanned) lower (by omega)
      rw [isFree] at free
      cases free
    refine ⟨fun count => ⟨fun none => ?_, fun bounded => ?_⟩, fun count => (done.largest count).trans ?_⟩
    · obtain rfl := Nat.le_zero.mp none
      exact ⟨Nat.zero_le _, freeRun_zero _⟩
    · have stops := ends bounded.2
      change count ≤ 0
      omega
    · constructor
      · rintro ⟨start, lower, upper, run⟩
        exact ⟨start, lower, by omega, run⟩
      · rintro ⟨start, lower, upper, run⟩
        rcases Nat.eq_zero_or_pos count with rfl | some
        · exact ⟨first, Nat.le_refl _, by omega, freeRun_zero _⟩
        · exact ⟨start, lower, ends run (by omega), run⟩

/-- The loop of the snapshot. -/
theorem scanned_range (free : ℕ → Bool) (first scanned : ℕ) :
    Scanned free first scanned (((List.range' first scanned).map free).foldl countRun (0, 0)) := by
  induction scanned with
  | zero =>
    change Scanned free first 0 (0, 0)
    constructor <;> intro count <;> rcases Nat.eq_zero_or_pos count with rfl | some
    · exact iff_of_true (Nat.le_refl _) ⟨Nat.le_refl _, freeRun_zero _⟩
    · exact iff_of_false (by omega) fun run => by omega
    · exact iff_of_true (Nat.le_refl _) ⟨first, Nat.le_refl _, Nat.le_refl _, freeRun_zero _⟩
    · refine iff_of_false (by omega) ?_
      rintro ⟨start, _, _, _⟩
      omega
  | succ scanned ih =>
    rw [List.range'_concat, List.map_append, List.foldl_append, Nat.one_mul]
    exact ih.step

theorem le_largestRun_iff {limit : ℕ} (ordered : first ≤ limit) : count ≤ largestRun free first limit ↔
    ∃ start, first ≤ start ∧ start + count ≤ limit ∧ FreeRun free start count := by
  rw [largestRun, (scanned_range free first (limit - first)).largest, Nat.add_sub_cancel' ordered]

variable {manager : GuestMemoryManager} {start : ℕ}

/-- The pages of a free run are not among those that the leases hold. -/
theorem Sound.count_le (sound : Sound manager) (run : FreeRun (pageIsFree manager) start count)
    (bounded : start + count ≤ guestMemoryPageCount) : manager.allocatedPages + count ≤ manager.availablePages := by
  have pages : ∀ page ∈ (Extent.mk start count).units, Bitmap.testAt manager.available page = true ∧
      Bitmap.testAt manager.allocated page = false := by
    intro page inside
    have free := run page (mem_Ico.mp inside).1 (mem_Ico.mp inside).2
    simpa [pageIsFree] using free
  have inside : (Extent.mk start count).units ⊆ availableSet manager := by
    intro page member
    have upper := (mem_Ico.mp member).2
    exact mem_filter.mpr ⟨mem_range.mpr (upper.trans_le bounded), (pages page member).1⟩
  have others : ∀ index, unitsAt (held manager) index ⊆ availableSet manager \ (Extent.mk start count).units := by
    intro index page member
    refine mem_sdiff.mpr ⟨sound.within index member, fun mine => ?_⟩
    have marked := (sound.owns.exact page).mpr ⟨index, member⟩
    rw [(pages page mine).2] at marked
    cases marked
  have size : (Extent.mk start count).units.card = count := Extent.card_units _
  have total := sound.owns.total_le others
  have card := card_le_card inside
  rw [card_sdiff_of_subset inside, size] at total
  rw [size] at card
  rw [sound.total, sound.counted]
  omega

/-- The search from the hint and around it misses no run. -/
theorem findFreeRun_complete (sound : Sound manager) (some : count ≠ 0) (lower : managedFirstPage manager ≤ start)
    (upper : start + count ≤ managedPageLimit manager) (run : FreeRun (pageIsFree manager) start count) :
    (findFreeRun manager count).isSome = true := by
  have limit := sound.limit
  have fits := sound.count_le run (upper.trans limit)
  have free : runIsFree manager start count = true := runIsFree_iff.mpr ⟨some, upper, fun page inside =>
    run page (mem_Ico.mp inside).1 (mem_Ico.mp inside).2⟩
  unfold findFreeRun
  rw [if_neg (by omega), if_neg (by omega)]
  simp only [Option.isSome_or, List.find?_isSome, Bool.or_eq_true, List.mem_range'_1]
  generalize (if (if manager.nextFreeHint ≤ managedPageLimit manager - count then manager.nextFreeHint
    else managedFirstPage manager) < managedFirstPage manager then managedFirstPage manager
    else if manager.nextFreeHint ≤ managedPageLimit manager - count then manager.nextFreeHint
    else managedFirstPage manager) = hint
  by_cases ahead : hint ≤ start
  · exact .inl ⟨start, by omega, free⟩
  · exact .inr ⟨start, by omega, free⟩

/-- Some slot can be granted. -/
def Reusable (manager : GuestMemoryManager) : Prop :=
  ∃ slot, (manager.leases slot).state = .free ∧ (manager.leases slot).generation < generationMax

theorem findLeaseSlot_complete {list : List (Fin guestMemoryLeaseCount)} {slot : Fin guestMemoryLeaseCount}
    {leases : Fin guestMemoryLeaseCount → GuestLeaseSlot} (listed : slot ∈ list) (free : (leases slot).state = .free)
    (fresh : (leases slot).generation < generationMax) : (findLeaseSlot list leases).1.isSome = true := by
  induction list generalizing leases with
  | nil => cases listed
  | cons head rest ih =>
    unfold findLeaseSlot
    have later : ∀ table : Fin guestMemoryLeaseCount → GuestLeaseSlot, table slot = leases slot → slot ≠ head →
        (findLeaseSlot rest table).1.isSome = true := fun table same other =>
      ih ((List.mem_cons.mp listed).resolve_left other) (same ▸ free) (same ▸ fresh)
    split_ifs with busy exhausted
    · exact later _ rfl (by rintro rfl; exact busy free)
    · have other : slot ≠ head := by
        rintro rfl
        omega
      exact later _ (Function.update_of_ne other _ _) other
    · rfl

/-- With a slot and pages that can be zeroed, an allocation succeeds exactly if the search finds a run. -/
theorem allocate_ok_iff (sound : Sound manager) {owner : ℕ} (valid : identityIsValid owner)
    (initialized : manager.initialized = true) (healthy : manager.poisoned = false) (reusable : Reusable manager)
    (some : count ≠ 0) :
    (∃ result next, allocate owner count .ok manager = .ok result next) ↔ (findFreeRun manager count).isSome = true := by
  obtain ⟨slot, free, fresh⟩ := reusable
  have slots := findLeaseSlot_complete (List.mem_finRange slot) free fresh
  have spec : wp (allocate owner count .ok) manager (fun _ _ => (findFreeRun manager count).isSome = true)
      (fun _ _ => (findFreeRun manager count).isSome = false) := by
    simp only [allocate, wp_rules, wp_poisonWhen, wp_set, wp_requireZeroed]
    refine ⟨fun bad => bad.elim (absurd valid) (absurd · some), fun _ => ⟨fun bad => ?_, fun _ => ⟨fun bad => ?_, fun _ =>
      ⟨fun bad => ?_, fun _ => ⟨fun large => ?_, fun _ => ⟨fun _ _ => ⟨fun first found => ?_, fun none => ?_⟩,
        fun none => ?_⟩⟩⟩⟩⟩⟩
    · rw [initialized] at bad
      cases bad
    · rw [healthy] at bad
      cases bad
    · exact absurd sound.allocated_le (Nat.not_le.mpr bad)
    · rw [findFreeRun, if_pos (by omega)]
      rfl
    · rw [found]
      exact ⟨fun _ => rfl, by simp, by simp⟩
    · rw [none]
      rfl
    · rw [none] at slots
      cases slots
  constructor
  · rintro ⟨result, next, ran⟩
    have found := wp_of_ok spec ran
    exact found
  · intro found
    rw [found] at spec
    obtain ⟨result, next, ran, -⟩ := ok_of_wp (wp_mono_failed spec fun _ _ missed => Bool.noConfusion missed)
    exact ⟨result, next, ran⟩

variable {bootInfo : BootInfo} {zeroContext : ℕ} {start state : GuestMemoryManager} {history : History}

/-- The calls change neither the map nor the span. -/
theorem spanned_of_run (sound : Sound start) (spanned : Spanned start)
    (run : Runs perform (fun _ _ => True) start history state) : Spanned state := by
  refine (run.invariant_state (fun manager => Sound manager ∧ Spanned manager) ⟨sound, spanned⟩ ?_).2
  rintro manager call ⟨sound, spanned⟩ -
  have refused : ∀ {next}, Refused manager next → Spanned next := by
    intro next refused
    rw [refused.same]
    exact { spanned with }
  cases call with
  | allocate owner count zero =>
    simp only [perform, wp_rules]
    apply wp_mono (allocate_spec sound owner count zero)
    · rintro _ next ⟨slot, first, prepared, isRefused, idle, _, _, free, rfl, -⟩
      have kept := refused isRefused
      exact ⟨(isRefused.sound sound).grant idle owner ((runIsFree_congr isRefused first count).trans free), { kept with }⟩
    · exact fun _ _ outcome => ⟨outcome.1.sound sound, refused outcome.1⟩
  | release owner lease zero =>
    simp only [perform, wp_rules]
    apply wp_mono (release_spec sound owner lease zero)
    · rintro _ next ⟨slot, live, -, -, rfl⟩
      exact ⟨sound.take live, { spanned with }⟩
    · exact fun _ _ outcome => ⟨outcome.1.sound sound, refused outcome.1⟩

/-- The snapshot of a healthy manager reports the longest free run. -/
theorem querySnapshot_spec (sound : Sound manager) (spanned : Spanned manager) (healthy : manager.poisoned = false) :
    wp querySnapshot manager
      (fun snapshot next => next = manager ∧ ∀ count, count ≤ snapshot.largestFreePages ↔
        ∃ first, managedFirstPage manager ≤ first ∧ first + count ≤ managedPageLimit manager ∧
          FreeRun (pageIsFree manager) first count)
      (fun _ _ => False) := by
  obtain ⟨initialized, low, ordered, high, _⟩ := spanned
  have accepted : ¬ (manager.managedBase < guestMemoryBase ∨ manager.managedLimit ≤ manager.managedBase ∨
      manager.managedLimit > guestMemoryApertureLimit) := by omega
  have pages : managedFirstPage manager ≤ managedPageLimit manager := by
    unfold managedFirstPage managedPageLimit
    exact Nat.div_le_div_right (Nat.sub_le_sub_right ordered.le _)
  have largest := fun count => @le_largestRun_iff (pageIsFree manager) _ count _ pages
  simp only [querySnapshot, wp_rules]
  refine ⟨fun bad => ?_, fun _ => ⟨fun bad => ?_, fun _ => ⟨fun bad => absurd bad accepted, fun _ => ⟨trivial, largest⟩⟩⟩⟩
  · rw [initialized] at bad
    cases bad
  · rw [healthy] at bad
    exact absurd sound.allocated_le (Nat.not_le.mpr (bad.resolve_left Bool.false_ne_true))

/-- A run of free pages lies in the managed span. -/
theorem Spanned.freeRun_iff (spanned : Spanned manager) (sound : Sound manager) (some : count ≠ 0)
    (run : FreeRun (pageIsFree manager) first count) : first + count ≤ guestMemoryPageCount ↔
      managedFirstPage manager ≤ first ∧ first + count ≤ managedPageLimit manager := by
  have limit := sound.limit
  have inside : ∀ page, first ≤ page → page < first + count → page < guestMemoryPageCount →
      managedFirstPage manager ≤ page ∧ page < managedPageLimit manager := by
    intro page lower upper bounded
    have free := run page lower upper
    rw [pageIsFree, Bool.and_eq_true] at free
    exact spanned.covers page bounded free.1
  constructor
  · intro bounded
    have lowest := inside first (Nat.le_refl _) (by omega) (by omega)
    have highest := inside (first + count - 1) (by omega) (by omega) (by omega)
    exact ⟨lowest.1, by omega⟩
  · exact fun within => within.2.trans limit

/-- In every run of a manager that accepted a memory map, wherever the hint of a healthy manager with a slot to grant
points: an allocation whose pages are zeroed succeeds exactly if the snapshot reports as many consecutive free pages, and
that is exactly if there are as many. -/
theorem guest_allocation_complete (accepted : guestMemoryInitialize bootInfo zeroContext manager = .ok () start)
    (run : Runs perform (fun _ _ => True) start history state) (healthy : state.poisoned = false)
    (reusable : Reusable state) (hint : ℕ) {owner count : ℕ} (valid : identityIsValid owner) (some : count ≠ 0) :
    ∃ snapshot, querySnapshot { state with nextFreeHint := hint } = .ok snapshot { state with nextFreeHint := hint } ∧
      ((∃ result next, allocate owner count .ok { state with nextFreeHint := hint } = .ok result next) ↔
        count ≤ snapshot.largestFreePages) ∧
      (count ≤ snapshot.largestFreePages ↔
        ∃ first, first + count ≤ guestMemoryPageCount ∧ FreeRun (pageIsFree state) first count) := by
  obtain ⟨started, -⟩ := wp_of_ok guestMemoryInitialize_spec accepted
  have spanned := spanned_of_run started.1 started.2 run
  have sound : Sound { state with nextFreeHint := hint } := { (accounts_of_run accepted run).sound with }
  replace spanned : Spanned { state with nextFreeHint := hint } := { spanned with }
  have spec := querySnapshot_spec sound spanned healthy
  have found := allocate_ok_iff sound valid spanned.initialized healthy reusable some
  have same : pageIsFree state = pageIsFree { state with nextFreeHint := hint } := rfl
  rw [same]
  generalize { state with nextFreeHint := hint } = other at *
  obtain ⟨snapshot, _, ran, rfl, largest⟩ := ok_of_wp spec
  refine ⟨snapshot, ran, ?_, ?_⟩
  · rw [found, largest]
    constructor
    · intro isSome
      obtain ⟨first, isFound⟩ := Option.isSome_iff_exists.mp isSome
      obtain ⟨-, upper, free⟩ := runIsFree_iff.mp (findFreeRun_spec isFound)
      have free : FreeRun (pageIsFree _) first count := fun page lower above =>
        free page (mem_Ico.mpr ⟨lower, above⟩)
      have within := (spanned.freeRun_iff sound some free).mp (upper.trans sound.limit)
      exact ⟨first, within.1, within.2, free⟩
    · rintro ⟨first, lower, upper, free⟩
      exact findFreeRun_complete sound some lower upper free
  · rw [largest]
    refine exists_congr fun first => ?_
    rw [← and_assoc]
    exact and_congr_left fun free => (spanned.freeRun_iff sound some free).symm

theorem guest_allocation_complete_sample :
    ∃ snapshot, querySnapshot { sampleManager with nextFreeHint := 1 } =
        .ok snapshot { sampleManager with nextFreeHint := 1 } ∧
      ((∃ result next, allocate 5 2 .ok { sampleManager with nextFreeHint := 1 } = .ok result next) ↔
        2 ≤ snapshot.largestFreePages) ∧
      2 ≤ snapshot.largestFreePages := by
  have complete := guest_allocation_complete sample_accepted .start rfl ⟨⟨0, by decide⟩, rfl, by decide⟩ 1
    (show identityIsValid 5 by decide) (show 2 ≠ 0 by decide)
  obtain ⟨snapshot, ran, granted, reported⟩ := complete
  refine ⟨snapshot, ran, granted, reported.mpr ⟨0, by decide, fun page _ below => ?_⟩⟩
  have available : Bitmap.testAt sampleManager.available page = true := (sample_available page).mpr (by simp; omega)
  rw [pageIsFree, available]
  exact congrArg (!·) (Bitmap.testAt_zero page)

end DosC32.GuestMemory
