import DosC32.Proofs.GuestMemory

/-! # Ownership of the guests' physical pages

A run makes any allocations and releases on a manager that accepted a boot memory map, with any
answers of the zeroing callback. The leases partition the marked pages, every leased page is clear
of the ranges that are not usable, and no lease value is issued twice.
-/

namespace DosC32.GuestMemory

open Effect Extents Finset Bitmap

inductive MemoryCall where
  | allocate (owner pageCount : ℕ) (zero : GuestZeroStatus)
  | release (owner lease : ℕ) (zero : GuestZeroStatus)

/-- The answer of the zeroing callback, should the call ask for it. -/
def MemoryCall.zero : MemoryCall → GuestZeroStatus
  | .allocate _ _ zero => zero
  | .release _ _ zero => zero

/-- Perform a call; an allocation returns its lease and its address. -/
def perform : MemoryCall → GuestMemoryM (Option (ℕ × ℕ))
  | .allocate owner pageCount zero => do
    let result ← allocate owner pageCount zero
    pure (some result)
  | .release owner lease zero => do
    release owner lease zero
    pure none

abbrev History := List (MemoryCall × Except GuestMemoryError (Option (ℕ × ℕ)))

/-- The leases that a history issued, newest first. -/
def issuedLeases (history : History) : List ℕ :=
  history.filterMap fun event => match event.2 with
    | .ok (some result) => some result.1
    | _ => none

/-- The lease was issued with a generation that its slot has reached. -/
def Reached (manager : GuestMemoryManager) (lease : ℕ) : Prop :=
  ∃ (slot : Fin guestMemoryLeaseCount) (generation : ℕ),
    lease = makeLease slot generation ∧ generation ≤ (manager.leases slot).generation

/-- No generation goes back. -/
def Advances (manager next : GuestMemoryManager) : Prop :=
  ∀ index, (manager.leases index).generation ≤ (next.leases index).generation

variable {manager next : GuestMemoryManager}

theorem Reached.advances {lease : ℕ} (reached : Reached manager lease)
    (advances : Advances manager next) : Reached next lease := by
  obtain ⟨slot, generation, named, bounded⟩ := reached
  exact ⟨slot, generation, named, bounded.trans (advances slot)⟩

theorem unreached {manager : GuestMemoryManager} (slot : Fin guestMemoryLeaseCount) :
    ¬ Reached manager (makeLease slot ((manager.leases slot).generation + 1)) := by
  rintro ⟨other, generation, same, bounded⟩
  obtain ⟨rfl, rfl⟩ := makeLease_inj same
  omega

theorem advances_refused (refused : Refused manager next) : Advances manager next :=
  fun index => Nat.le_of_eq (refused.kept index).1.symm

theorem advances_update {slot : Fin guestMemoryLeaseCount} {lease : GuestLeaseSlot}
    (leases : next.leases = Function.update manager.leases slot lease)
    (grows : (manager.leases slot).generation ≤ lease.generation) : Advances manager next := by
  intro index
  rw [leases]
  by_cases same : index = slot
  · subst same
    rwa [Function.update_self]
  · rw [Function.update_of_ne same]

variable {bootInfo : BootInfo} {zeroContext : ℕ} {manager start state : GuestMemoryManager} {history : History}

/-- What holds along a run. -/
structure Accounts (bootInfo : BootInfo) (history : History) (manager : GuestMemoryManager) : Prop where
  sound : Sound manager
  map : manager.available = availableWords bootInfo.ranges
  numbers : ∀ lease ∈ issuedLeases history, Reached manager lease
  distinct : (issuedLeases history).Nodup

variable (accounts : Accounts bootInfo history manager)

include accounts in
/-- A call that issues no lease keeps the accounts. -/
theorem Accounts.step {next : GuestMemoryManager} (sound : Sound next)
    (map : next.available = manager.available) (advances : Advances manager next)
    {event : MemoryCall × Except GuestMemoryError (Option (ℕ × ℕ))} (silent : issuedLeases [event] = []) :
    Accounts bootInfo (event :: history) next := by
  have same : issuedLeases (event :: history) = issuedLeases history := by
    have split : issuedLeases (event :: history) = issuedLeases [event] ++ issuedLeases history :=
      @List.filterMap_append _ _ [event] history _
    rw [split, silent, List.nil_append]
  constructor
  · exact sound
  · rw [map, accounts.map]
  · rw [same]
    exact fun lease member => (accounts.numbers lease member).advances advances
  · rw [same]
    exact accounts.distinct

theorem Refused.available {next : GuestMemoryManager} (refused : Refused manager next) :
    next.available = manager.available := by rw [refused.same]

include accounts

theorem Accounts.refused {next : GuestMemoryManager}
    (refused : Refused manager next) (call : MemoryCall) (error : GuestMemoryError) :
    Accounts bootInfo ((call, .error error) :: history) next :=
  accounts.step (refused.sound accounts.sound) refused.available (advances_refused refused) rfl

theorem Accounts.allocate (owner count : ℕ) (zero : GuestZeroStatus) :
    wp (perform (.allocate owner count zero)) manager
      (fun result next => Accounts bootInfo ((.allocate owner count zero, .ok result) :: history) next)
      (fun error next => Accounts bootInfo ((.allocate owner count zero, .error error) :: history) next) := by
  simp only [perform, wp_rules]
  apply wp_mono (allocate_spec accounts.sound owner count zero)
  · rintro result next ⟨slot, first, prepared, refused, idle, _, _, free, rfl, rfl⟩
    have advances : Advances manager (grantRun prepared slot owner first count) := fun index =>
      (advances_refused refused index).trans (advances_update rfl (Nat.le_succ _) index)
    have free' : runIsFree prepared first count = true := (runIsFree_congr refused first count).trans free
    have issued : ∀ result : ℕ × ℕ, issuedLeases ((.allocate owner count zero, .ok (some result)) :: history) =
        result.1 :: issuedLeases history := fun _ => rfl
    constructor
    · exact (refused.sound accounts.sound).grant idle owner free'
    · exact refused.available.trans accounts.map
    · rw [issued]
      intro lease member
      rcases List.mem_cons.mp member with rfl | member
      · refine ⟨slot, _, rfl, ?_⟩
        rw [← (refused.kept slot).1]
        simp [grantRun]
      · exact (accounts.numbers lease member).advances advances
    · rw [issued, List.nodup_cons]
      exact ⟨fun member => unreached slot (accounts.numbers _ member), accounts.distinct⟩
  · exact fun error next rejected => accounts.refused rejected.refused _ error

theorem Accounts.release (owner lease : ℕ) (zero : GuestZeroStatus) : wp (perform (.release owner lease zero)) manager
      (fun result next => Accounts bootInfo ((.release owner lease zero, .ok result) :: history) next)
      (fun error next => Accounts bootInfo ((.release owner lease zero, .error error) :: history) next) := by
  simp only [perform, wp_rules]
  apply wp_mono (release_spec accounts.sound owner lease zero)
  · rintro _ next ⟨slot, live, _, _, rfl⟩
    exact accounts.step (accounts.sound.take live) rfl (advances_update rfl le_rfl) rfl
  · exact fun error next rejected => accounts.refused rejected.refused _ error

omit accounts

theorem accounts_of_run (accepted : guestMemoryInitialize bootInfo zeroContext manager = .ok () start)
    (run : Runs perform (fun _ _ => True) start history state) : Accounts bootInfo history state := by
  obtain ⟨⟨sound, -⟩, map, -⟩ := wp_of_ok guestMemoryInitialize_spec accepted
  apply run.invariant (Accounts bootInfo)
  · exact ⟨sound, map, fun _ member => absurd member List.not_mem_nil, List.nodup_nil⟩
  · intro history manager call accounts _
    cases call with
    | allocate owner count zero => exact accounts.allocate owner count zero
    | release owner lease zero => exact accounts.release owner lease zero

/-- A call that poisons a manager in order was told that the pages may not be zero. -/
theorem poisons_only_uncertain (sound : Sound manager) (call : MemoryCall) (healthy : manager.poisoned = false)
    (poisons : (final (perform call) manager).poisoned = true) : call.zero = .uncertain := by
  have stays : ∀ {next : GuestMemoryManager}, next.poisoned = manager.poisoned → next.poisoned = true →
      call.zero = .uncertain := by
    intro next same isTrue
    rw [same, healthy] at isTrue
    cases isTrue
  have spec : Leaves (perform call) manager (fun next => next.poisoned = true → call.zero = .uncertain) := by
    cases call with
    | allocate owner count zero =>
      simp only [perform, wp_rules]
      apply wp_mono (allocate_spec sound owner count zero)
      · rintro _ next ⟨slot, first, prepared, _, _, flag, _, _, rfl, _⟩
        exact stays flag
      · exact fun _ _ rejected => rejected.poisons healthy
    | release owner lease zero =>
      simp only [perform, wp_rules]
      apply wp_mono (release_spec sound owner lease zero)
      · rintro _ next ⟨slot, _, _, _, rfl⟩
        exact stays rfl
      · exact fun _ _ rejected => rejected.poisons healthy
  exact wp_final spec poisons

/-- The page belongs to the live lease of a slot. -/
def Holds (manager : GuestMemoryManager) (slot : Fin guestMemoryLeaseCount) (page : ℕ) : Prop :=
  (manager.leases slot).state = .live ∧ (manager.leases slot).firstPage ≤ page ∧
    page < (manager.leases slot).firstPage + (manager.leases slot).pageCount

theorem mem_unitsAt_iff (manager : GuestMemoryManager) (slot : Fin guestMemoryLeaseCount) (page : ℕ) :
    page ∈ unitsAt (held manager) slot ↔ Holds manager slot page := by
  by_cases live : (manager.leases slot).state = .live
  · rw [unitsAt_some (held_live live)]
    simp [Holds, live, Extent.units]
  · rw [unitsAt_none (held_idle live)]
    simp [Holds, live]

/-- Two live leases hold no page in common. -/
theorem Sound.unique (sound : Sound state) {slot other : Fin guestMemoryLeaseCount} {page : ℕ}
    (holds : Holds state slot page) (holds' : Holds state other page) : slot = other := by
  by_contra different
  exact disjoint_left.mp (sound.owns.apart different) ((mem_unitsAt_iff state slot page).mpr holds)
    ((mem_unitsAt_iff state other page).mpr holds')

/-- In every run of a manager that accepted a memory map: a page is marked exactly when it belongs to one live lease,
live leases are disjoint, the counter is the number of their pages, no leased page touches a range that is not usable, the
manager is poisoned only where the callback was uncertain, and no lease value is issued twice. -/
theorem guest_page_ownership (accepted : guestMemoryInitialize bootInfo zeroContext manager = .ok () start)
    (run : Runs perform (fun _ _ => True) start history state) :
    (∀ page, testAt state.allocated page = true ↔ ∃! slot, Holds state slot page) ∧
    (∀ slot other page, Holds state slot page → Holds state other page → slot = other) ∧
    state.allocatedPages = ∑ slot, (if (state.leases slot).state = .live then (state.leases slot).pageCount else 0) ∧
    (∀ slot page, Holds state slot page →
      ∀ range ∈ bootInfo.ranges, range.type ≠ bootMemoryUsable → ¬ Touches range page) ∧
    (∀ call, state.poisoned = false → (final (perform call) state).poisoned = true → call.zero = .uncertain) ∧
    (issuedLeases history).Nodup := by
  obtain ⟨sound, map, -, distinct⟩ := accounts_of_run accepted run
  refine ⟨fun page => ?_, fun slot other page => sound.unique, ?_, ?_, ?_, distinct⟩
  · rw [sound.owns.exact page]
    constructor
    · rintro ⟨slot, member⟩
      have holds := (mem_unitsAt_iff state slot page).mp member
      exact ⟨slot, holds, fun other holds' => sound.unique holds' holds⟩
    · rintro ⟨slot, holds, -⟩
      exact ⟨slot, (mem_unitsAt_iff state slot page).mpr holds⟩
  · rw [sound.total]
    refine sum_congr rfl fun slot _ => ?_
    split_ifs with live
    · rw [unitsAt_some (held_live live), Extent.card_units]
    · rw [unitsAt_none (held_idle live), card_empty]
  · intro slot page holds range member reserved
    have within := sound.within slot ((mem_unitsAt_iff state slot page).mpr holds)
    obtain ⟨inside, available⟩ := mem_filter.mp within
    rw [map] at available
    exact untouched_of_available member reserved (mem_range.mp inside) available
  · exact fun call healthy poisons => poisons_only_uncertain sound call healthy poisons

/-- Four usable pages, with a reserved range inside the third. -/
def sampleMap : BootInfo where
  signature := bootInfoSignature
  version := bootInfoVersion
  headerBytes := bootInfoHeaderBytes
  rangeBytes := bootMemoryRangeBytes
  flags := bootInfoFlagMask
  platformFlags := 0
  platformReserved := [0, 0]
  ranges := [⟨0x00802800, 0x100, 2, 1⟩, ⟨0x00800000, 0x4000, bootMemoryUsable, 1⟩]

theorem sample_available (page : ℕ) : testAt (availableWords sampleMap.ranges) page = true ↔ page ∈ [0, 1, 3] := by
  have words : availableWords sampleMap.ranges =
      eraseAll (insertAll (fun _ => 0) [0, 1, 2, 3]) [2] := rfl
  have none : testAt (fun _ => 0) page = false := testAt_zero page
  rw [words, testAt_eraseAll, testAt_insertAll, none]
  simp only [List.mem_cons, List.not_mem_nil, or_false, Bool.false_eq_true]
  omega

/-- The manager that accepted the sample map. -/
def sampleManager : GuestMemoryManager :=
  { constructedManager with
    available := availableWords sampleMap.ranges, zeroContext := 9, managedBase := 0x00800000
    managedLimit := 0x00804000, availablePages := 3, nextFreeHint := 0, initialized := true }

theorem sample_accepted : guestMemoryInitialize sampleMap 9 constructedManager = .ok () sampleManager := by
  have beyond : ∀ page, 4 ≤ page → testAt (availableWords sampleMap.ranges) page = false := by
    intro page above
    rw [← Bool.not_eq_true, sample_available]
    simp only [List.mem_cons, List.not_mem_nil, or_false]
    omega
  have counted : countAvailable (availableWords sampleMap.ranges) = 3 := by
    rw [countAvailable, countP_range]
    have set : ((range guestMemoryPageCount).filter fun page =>
        testAt (availableWords sampleMap.ranges) page = true) = {0, 1, 3} := by
      ext page
      rw [mem_filter, sample_available, mem_range]
      simp only [List.mem_cons, List.not_mem_nil, or_false, mem_insert, mem_singleton]
      unfold guestMemoryPageCount guestMemoryApertureLimit guestMemoryBase guestPageBytes
      omega
    rw [set]
    rfl
  have span : managedSpan (availableWords sampleMap.ranges) = (0x00800000, 0x00804000) := by
    have stable := spanUpTo_stable beyond (guestMemoryPageCount - 4)
    rw [Nat.add_sub_cancel' (by decide)] at stable
    exact stable.trans (by decide +kernel)
  have valid : memoryMapIsValid sampleMap = true := by decide +kernel
  apply eq_ok_of_wp
  simp only [guestMemoryInitialize, wp_split, wp_set, counted, span, valid]
  simp [sampleManager, constructedManager, identityIsValid, kernelObjectHandleInvalid]

def sampleCalls : List MemoryCall := [.allocate 5 2 .ok, .allocate 6 1 .failed, .allocate 6 1 .ok]

theorem guest_page_ownership_sample :
    ∃ start, guestMemoryInitialize sampleMap 9 constructedManager = .ok () start ∧
      (∀ page, testAt (replay perform start sampleCalls).allocated page = true ↔
        ∃! slot, Holds (replay perform start sampleCalls) slot page) ∧
      (issuedLeases (transcript perform start sampleCalls)).Nodup := by
  have owned := guest_page_ownership sample_accepted (Runs.start.replay sampleCalls)
  rw [List.append_nil] at owned
  exact ⟨sampleManager, sample_accepted, owned.1, owned.2.2.2.2.2⟩

end DosC32.GuestMemory
