import DosC32.Model.DisplayLease
import DosC32.Proofs.Paging

/-! # Display memory follows the foreground lease

A run mixes the calls that lend and take back the display with arbitrary changes of the page tables
by others. A call that takes the display back closes every page of every range, whatever the tables
hold by then. A call that does not lend the display opens no page, so with the memory not granted a
page can be open only because others have opened it since.
-/

namespace DosC32.Display

open Effect List X86Paging

variable {paging : X86Paging}

/-- The page belongs to one of the ranges. -/
def Covers (ranges : List DisplayMemoryRange) (page : ℕ) : Prop :=
  ∃ range ∈ ranges, page ∈ pagesOf range.base (range.base + range.bytes)

/-- Every range is a page-aligned part of the video window. -/
def InWindow (ranges : List DisplayMemoryRange) : Prop :=
  ∀ range ∈ ranges, (legacyVideoRange range.base range.bytes).isSome

theorem inWindow_prepareRanges {dcc : UInt8} {before capability : DisplayCapability}
    (found : prepareRanges dcc before = some capability) : InWindow capability.memory := by
  unfold prepareRanges at found
  split at found
  case h_10 => cases found
  all_goals
    cases found
    exact all_eq_true.mp rfl

/-- A prepared capability has its ranges in the video window. -/
theorem inWindow_prepared {platform : DisplayPlatform} {capability : DisplayCapability}
    (prepared : capabilityPrepare platform = .ok capability) : InWindow capability.memory := by
  unfold capabilityPrepare at prepared
  split_ifs at prepared
  split at prepared
  · cases prepared
  next found =>
    split_ifs at prepared
    cases prepared
    exact inWindow_prepareRanges found

/-- Revoking ranges closes their pages and no others. -/
theorem isUser_revokeRanges {ranges : List DisplayMemoryRange} (inWindow : InWindow ranges) (page : ℕ) :
    (revokeRanges ranges paging).1.isUser page = true ↔ paging.isUser page = true ∧ ¬ Covers ranges page := by
  induction ranges generalizing paging with
  | nil => simp [revokeRanges, Covers]
  | cons range rest ih =>
    have first := inWindow range mem_cons_self
    have others : InWindow rest := fun other member => inWindow other (mem_cons_of_mem _ member)
    simp only [revokeRanges]
    rw [ih others, isUser_revoke first]
    simp only [Covers, mem_cons, exists_eq_or_imp, Bool.and_eq_true, Bool.not_eq_true', contains_eq_mem,
      decide_eq_false_iff_not, not_or, and_assoc]

/-- The ranges that a grant visits, up to the one that fails. -/
def visited : List DisplayMemoryRange → X86Paging → List DisplayMemoryRange
  | [], _ => []
  | range :: rest, paging =>
    let granted := paging.grantLegacyVideoRange range.base range.bytes
    range :: if granted.2 then visited rest granted.1 else []

/-- A grant that fails part way opens no page and closes the ranges it visited. -/
theorem isUser_grantRanges {done ranges : List DisplayMemoryRange} (granted : InWindow done) (inWindow : InWindow ranges)
    (failed : (grantRanges done ranges paging).2 ≠ .ok) {page : ℕ}
    (user : (grantRanges done ranges paging).1.isUser page = true) :
    paging.isUser page = true ∧ ¬ Covers done page ∧ ¬ Covers (visited ranges paging) page := by
  induction ranges generalizing done paging with
  | nil => exact absurd rfl failed
  | cons range rest ih =>
    have first := inWindow range mem_cons_self
    have others : InWindow rest := fun other member => inWindow other (mem_cons_of_mem _ member)
    unfold grantRanges at failed user
    cases succeeded : (paging.grantLegacyVideoRange range.base range.bytes).2 with
    | true =>
      simp only [succeeded, if_true] at failed user
      have both : InWindow (range :: done) := by
        intro other member
        rcases mem_cons.mp member with rfl | member
        · exact first
        · exact granted other member
      obtain ⟨before, uncovered, unvisited⟩ := ih both others failed user
      rw [isUser_grant succeeded, Bool.or_eq_true] at before
      simp only [Covers, visited, succeeded, if_true, mem_cons, exists_eq_or_imp, not_or] at uncovered unvisited ⊢
      rcases before with before | inside
      · exact ⟨before, uncovered.2, uncovered.1, unvisited⟩
      · exact absurd (by simpa using inside) uncovered.1
    | false =>
      simp only [succeeded] at user
      obtain ⟨before, uncovered⟩ := (isUser_revokeRanges granted page).mp user
      rw [paging_of_refused succeeded, isUser_revoke first, Bool.and_eq_true] at before
      exact ⟨before.1, uncovered, by simpa [visited, succeeded, Covers] using before.2⟩

variable {state next : DisplayState}

/-- The calls that lend the display and take it back, with the answers of the registry. -/
inductive DisplayCall where
  | acquire (machineIdentity requesterIdentity : ℕ) (acquired : Except IoResourceError ℕ) (revoked : Option IoResourceError)
  | release (requesterIdentity token : ℕ) (released : Option IoResourceError)
  | revoke (machineIdentity : ℕ) (revoked : Option IoResourceError)
  | quarantine (machineIdentity : ℕ) (ownMachine : Bool) (revoked : Option IoResourceError)

def perform : DisplayCall → DisplayM Unit
  | .acquire machine requester acquired revoked => do
    let _ ← displayForegroundAcquire machine requester acquired revoked
  | .release requester token released => displayForegroundRelease requester token released
  | .revoke machine revoked => displayForegroundRevoke machine revoked
  | .quarantine machine ownMachine revoked => Display.quarantine machine ownMachine revoked

/-- No page of the display is open to the guest. -/
def Closed (state : DisplayState) : Prop :=
  ∀ page, Covers state.owner.display.memory page → state.paging.isUser page = false

/-- A call opens nothing, or leaves the memory granted; if it takes the memory back it closes everything. -/
structure Follows (state next : DisplayState) : Prop where
  display : next.owner.display = state.owner.display
  follows : next.owner.displayMemoryGranted = false → Closed next ∨
    (state.owner.displayMemoryGranted = false ∧ ∀ page, next.paging.isUser page = true → state.paging.isUser page = true)

theorem Follows.refl (state : DisplayState) : Follows state state := ⟨rfl, fun idle => .inr ⟨idle, fun _ => id⟩⟩

/-- The display was taken back. -/
structure TakenBack (state next : DisplayState) : Prop where
  display : next.owner.display = state.owner.display
  granted : next.owner.displayMemoryGranted = false
  closed : Closed next

theorem TakenBack.follows (taken : TakenBack state next) : Follows state next :=
  ⟨taken.display, fun _ => .inl taken.closed⟩

theorem takeBackDisplay_spec (inWindow : InWindow state.owner.display.memory) (answer : Option IoResourceError) :
    Leaves (takeBackDisplay answer) state (TakenBack state) := by
  have reversed : InWindow state.owner.display.memory.reverse :=
    fun range member => inWindow range (mem_reverse.mp member)
  have closed : ∀ page, Covers state.owner.display.memory page →
      (revokeDisplayMemory state).1.isUser page = false := by
    intro page covered
    by_contra opened
    rw [Bool.not_eq_false] at opened
    apply ((isUser_revokeRanges reversed page).mp opened).2
    obtain ⟨range, member, inside⟩ := covered
    exact ⟨range, mem_reverse.mpr member, inside⟩
  simp only [takeBackDisplay, wp_rules, wp_set]
  cases answer with
  | some status =>
    simp only [wp_throw]
    exact ⟨rfl, rfl, closed⟩
  | none =>
    simp only [changeOwner, wp_split]
    constructor
    · intro _
      exact ⟨rfl, rfl, closed⟩
    · intro _
      exact ⟨rfl, rfl, closed⟩

/-- The pages of the ranges that a grant would visit are closed. -/
def Shut (state next : DisplayState) : Prop :=
  ∀ page, Covers (visited state.owner.display.memory state.paging) page → next.paging.isUser page = false

theorem acquire_follows (inWindow : InWindow state.owner.display.memory) (machine requester : ℕ)
    (acquired : Except IoResourceError ℕ) (revoked : Option IoResourceError) :
    wp (displayForegroundAcquire machine requester acquired revoked) state (fun _ => Follows state)
      (fun _ next => Follows state next ∧ (next = state ∨ Shut state next)) := by
  simp only [displayForegroundAcquire, wp_all, Follows.refl, true_or]
  intro _ _ _ _ idle
  push Not at idle
  have unlent : state.owner.displayMemoryGranted = false := by simpa using idle.2.2.1
  cases acquired with
  | error status =>
    simp only [wp_throw]
    exact ⟨.refl state, .inl trivial⟩
  | ok prepared =>
    simp only [wp_bind, wp_set, wp_ite]
    refine ⟨fun failed => ?_, fun _ => ?_⟩
    · -- A grant that was rolled back leaves no page open that was closed before, and none that it visited.
      have kept {page : ℕ} (user : (grantDisplayMemory state).1.isUser page = true) :=
        isUser_grantRanges (fun _ member => absurd member not_mem_nil) inWindow failed user
      have shut : ∀ page, Covers (visited state.owner.display.memory state.paging) page →
          (grantDisplayMemory state).1.isUser page = false := by
        intro page covered
        rw [← Bool.not_eq_true]
        exact fun user => (kept user).2.2 covered
      unfold abandonAcquire changeOwner
      cases revoked with
      | none =>
        simp only [wp_split]
        constructor
        all_goals exact fun _ => ⟨⟨rfl, fun _ => .inr ⟨unlent, fun _ user => (kept user).1⟩⟩, .inr shut⟩
      | some status =>
        simp only [wp_rules]
        exact ⟨⟨rfl, fun _ => .inr ⟨unlent, fun _ user => (kept user).1⟩⟩, .inr shut⟩
    · simp only [changeOwner, wp_rules]
      exact ⟨rfl, fun impossible => by cases impossible⟩

/-- The call passes its checks and takes the display back. -/
def takesBack (owner : GuestDisplayOwner) : DisplayCall → Prop
  | .acquire _ _ _ _ => False
  | .release requester token _ =>
    identityIsValid requester ∧ token ≠ foregroundTokenInvalid ∧ guestSpaceIsActive owner ∧
      requester = owner.ioRequesterIdentity ∧ token = owner.displayForegroundToken ∧
      (owner.displayMemoryGranted ∨ owner.displayCleanupRequired)
  | .revoke machine _ =>
    identityIsValid machine ∧ owner.initialized ∧ machine = owner.machineIdentity ∧ owner.displayAvailable ∧
      displayIsIdle owner = false
  | .quarantine machine ownMachine _ =>
    identityIsValid machine ∧ owner.initialized ∧ machine = owner.machineIdentity ∧ ownMachine ∧ owner.displayAvailable ∧
      displayIsIdle owner = false

/-- What a call does: it keeps the law, and closes the display where it takes it back. -/
def Obeys (call : DisplayCall) (state next : DisplayState) : Prop :=
  Follows state next ∧ (takesBack state.owner call → Closed next)

theorem Obeys.refused {call : DisplayCall} (refused : ¬ takesBack state.owner call) : Obeys call state state :=
  ⟨.refl state, fun passes => absurd passes refused⟩

theorem TakenBack.obeys {call : DisplayCall} (taken : TakenBack state next) : Obeys call state next :=
  ⟨taken.follows, fun _ => taken.closed⟩

variable (inWindow : InWindow state.owner.display.memory)
include inWindow

theorem release_obeys (requester token : ℕ) (released : Option IoResourceError) :
    Leaves (displayForegroundRelease requester token released) state
      (Obeys (.release requester token released) state) := by
  simp only [displayForegroundRelease, wp_rules]
  refine ⟨fun malformed => ?_, fun _ => ⟨fun inactive => ?_, fun _ => ⟨fun denied => ?_, fun _ => ?_⟩⟩⟩
  · apply Obeys.refused
    intro passes
    rcases malformed with malformed | malformed
    · exact malformed passes.1
    · exact passes.2.1 malformed
  · apply Obeys.refused
    intro passes
    rw [passes.2.2.1] at inactive
    cases inactive
  · apply Obeys.refused
    intro passes
    rcases denied with other | other | ⟨unlent, clean⟩
    · exact other passes.2.2.2.1
    · exact other passes.2.2.2.2.1
    · rcases passes.2.2.2.2.2 with lent | pending
      · rw [unlent] at lent
        cases lent
      · rw [clean] at pending
        cases pending
  · apply wp_mono (takeBackDisplay_spec inWindow released)
    all_goals exact fun _ _ taken => taken.obeys

theorem revoke_obeys (machine : ℕ) (revoked : Option IoResourceError) :
    Leaves (displayForegroundRevoke machine revoked) state (Obeys (.revoke machine revoked) state) := by
  simp only [displayForegroundRevoke, wp_split]
  refine ⟨fun malformed => ?_, fun _ => ⟨fun uninitialized => ?_, fun _ => ⟨fun other => ?_, fun _ =>
    ⟨fun unavailable => ?_, fun _ => ⟨fun idle => ?_, fun _ => ?_⟩⟩⟩⟩⟩
  · exact .refused fun passes => malformed passes.1
  · apply Obeys.refused
    intro passes
    rw [passes.2.1] at uninitialized
    cases uninitialized
  · exact .refused fun passes => other passes.2.2.1
  · apply Obeys.refused
    intro passes
    rw [passes.2.2.2.1] at unavailable
    cases unavailable
  · apply Obeys.refused
    intro passes
    rw [passes.2.2.2.2] at idle
    cases idle
  · apply wp_mono (takeBackDisplay_spec inWindow revoked)
    all_goals exact fun _ _ taken => taken.obeys

omit inWindow

/-- Poisoning the guest space concerns neither the lease nor the tables. -/
theorem Obeys.poison {machine : ℕ} {revoked : Option IoResourceError}
    (obeys : Obeys (.revoke machine revoked) state next) :
    Obeys (.quarantine machine true revoked) state { next with owner := poisonGuestDevices next.owner } := by
  constructor
  · exact ⟨obeys.1.display, obeys.1.follows⟩
  · intro passes
    exact obeys.2 ⟨passes.1, passes.2.1, passes.2.2.1, passes.2.2.2.2⟩

include inWindow

theorem quarantine_obeys (machine : ℕ) (ownMachine : Bool) (revoked : Option IoResourceError) :
    Leaves (Display.quarantine machine ownMachine revoked) state
      (Obeys (.quarantine machine ownMachine revoked) state) := by
  simp only [Display.quarantine, changeOwner, wp_bind, wp_get, wp_failWhen, wp_ite]
  refine ⟨fun malformed => ?_, fun _ => ⟨fun uninitialized => ?_, fun _ => ⟨fun other => ?_, fun own =>
    ⟨fun available => ?_, fun unavailable => ?_⟩⟩⟩⟩
  · exact .refused fun passes => malformed passes.1
  · apply Obeys.refused
    intro passes
    rw [passes.2.1] at uninitialized
    cases uninitialized
  · apply Obeys.refused
    intro passes
    rcases other with other | other
    · exact other passes.2.2.1
    · rw [passes.2.2.2.1] at other
      cases other
  · have isOwn : ownMachine = true := by
      push Not at own
      simpa using own.2
    subst isOwn
    rw [wp_attempt]
    apply wp_mono (revoke_obeys inWindow machine revoked)
    all_goals
      intro _ next obeys
      simp only [wp_rules]
      exact obeys.poison
  · simp only [wp_pure, wp_modify]
    constructor
    · exact ⟨rfl, fun unlent => .inr ⟨unlent, fun _ => id⟩⟩
    · exact fun passes => absurd passes.2.2.2.2.1 unavailable

theorem perform_obeys (call : DisplayCall) : Obeys call state (final (perform call) state) := by
  apply wp_final
  cases call with
  | acquire machine requester acquired revoked =>
    simp only [perform, wp_rules]
    apply wp_mono (acquire_follows inWindow machine requester acquired revoked)
    · exact fun _ _ follows => ⟨follows, fun impossible => impossible.elim⟩
    · exact fun _ _ failed => ⟨failed.1, fun impossible => impossible.elim⟩
  | release requester token released => exact release_obeys inWindow requester token released
  | revoke machine revoked => exact revoke_obeys inWindow machine revoked
  | quarantine machine ownMachine revoked => exact quarantine_obeys inWindow machine ownMachine revoked

omit inWindow

/-- A move of a run: others change the page tables, or a call is made. -/
inductive Move where
  | alter (paging : X86Paging)
  | call (call : DisplayCall)

def Move.play (state : DisplayState) : Move → DisplayState
  | .alter paging => { state with paging }
  | .call request => final (perform request) state

/-- The state after the moves of a list, in order. -/
def play (start : DisplayState) (moves : List Move) : DisplayState := moves.foldl Move.play start

/-- While the memory is not granted, others open no page of the display. -/
def Tame : DisplayState → List Move → Prop
  | _, [] => True
  | state, move :: rest =>
    (∀ paging, move = .alter paging → state.owner.displayMemoryGranted = false →
      ∀ page, Covers state.owner.display.memory page → paging.isUser page = true → state.paging.isUser page = true) ∧
    Tame (move.play state) rest

/-- What the machine was booted with. -/
structure Boot where
  (addressSpaceIdentity machineIdentity displayResource : ℕ)
  platform : DisplayPlatform
  present : ℕ → Bool
  frames : ℕ → ℕ
  (tableCount pageDirectory : ℕ)

variable (boot : Boot)

/-- The display after boot; a platform whose display is not supported has none. -/
def Boot.start : DisplayState where
  owner := installDisplay boot.addressSpaceIdentity boot.machineIdentity boot.displayResource
    (capabilityPrepare boot.platform).toOption
  paging := .afterBoot boot.present boot.frames boot.tableCount boot.pageDirectory

theorem inWindow_start : InWindow boot.start.owner.display.memory := by
  cases prepared : capabilityPrepare boot.platform with
  | error status =>
    have none : boot.start.owner.display.memory = [] := by
      simp [Boot.start, installDisplay, prepared, Except.toOption]
    rw [none]
    exact fun _ member => absurd member not_mem_nil
  | ok capability =>
    have same : boot.start.owner.display.memory = capability.memory := by
      simp [Boot.start, installDisplay, prepared, Except.toOption]
    rw [same]
    exact inWindow_prepared prepared

theorem display_play (start : DisplayState) (inWindow : InWindow start.owner.display.memory) (moves : List Move) :
    (play start moves).owner.display = start.owner.display := by
  induction moves generalizing start with
  | nil => rfl
  | cons move rest ih =>
    have kept : (move.play start).owner.display = start.owner.display := by
      cases move with
      | alter paging => rfl
      | call call => exact (perform_obeys inWindow call).1.display
    have later := ih (move.play start) (by rw [kept]; exact inWindow)
    exact later.trans kept

/-- The pages of a range of the video window are the supervisor's after boot. -/
theorem closed_start : Closed boot.start := by
  intro page covered
  obtain ⟨range, member, inside⟩ := covered
  obtain ⟨lower, upper⟩ := window_of_mem (inWindow_start boot range member) inside
  exact isUser_afterBoot _ _ _ _ lower upper

/-- With the memory not granted every page is closed, if others opened none meanwhile. -/
theorem closed_play {moves : List Move} (inWindow : InWindow state.owner.display.memory)
    (closed : state.owner.displayMemoryGranted = false → Closed state) (tame : Tame state moves) :
    (play state moves).owner.displayMemoryGranted = false → Closed (play state moves) := by
  induction moves generalizing state with
  | nil => exact closed
  | cons move rest ih =>
    obtain ⟨here, later⟩ := tame
    cases move with
    | alter paging =>
      apply @ih (Move.play state (.alter paging)) inWindow _ later
      intro unlent page covered
      by_contra opened
      rw [Bool.not_eq_false] at opened
      have before := here paging rfl unlent page covered opened
      rw [closed unlent page covered] at before
      cases before
    | call request =>
      obtain ⟨display, follows⟩ := (perform_obeys inWindow request).1
      apply ih (by rw [Move.play, display]; exact inWindow) _ later
      intro unlent
      rcases follows unlent with shut | ⟨before, kept⟩
      · exact shut
      · intro page covered
        by_contra opened
        rw [Bool.not_eq_false] at opened
        rw [Move.play, display] at covered
        have still := kept page opened
        rw [closed before page covered] at still
        cases still

/-- In every run after boot, whatever the registry answers and others do to the page tables: a call that takes the
display back closes all of its pages; a call that ends with the memory not granted leaves a page open only if it was open
before, with the memory not granted then either; if others opened no page while the memory was not granted then none is
open whenever it is not granted; the ports are reached with a requester only under a complete lease; and an acquisition
that fails changes nothing or closes the ranges it visited. -/
theorem display_memory_follows_lease (moves : List Move) :
    (∀ call, (takesBack (play boot.start moves).owner call → Closed (final (perform call) (play boot.start moves))) ∧
      ((final (perform call) (play boot.start moves)).owner.displayMemoryGranted = false →
        ∀ page, Covers (play boot.start moves).owner.display.memory page →
          (final (perform call) (play boot.start moves)).paging.isUser page = true →
          (play boot.start moves).owner.displayMemoryGranted = false ∧
            (play boot.start moves).paging.isUser page = true)) ∧
    (Tame boot.start moves → (play boot.start moves).owner.displayMemoryGranted = false →
      Closed (play boot.start moves)) ∧
    (∀ context requester, portRequester (play boot.start moves).owner context = some requester →
      requester ≠ kernelObjectHandleInvalid →
      (play boot.start moves).owner.displayForegroundToken ≠ foregroundTokenInvalid ∧
        (play boot.start moves).owner.displayMemoryGranted = true ∧
        (play boot.start moves).owner.displayCleanupRequired = false) ∧
    ∀ machine requester acquired revoked,
      wp (displayForegroundAcquire machine requester acquired revoked) (play boot.start moves) (fun _ _ => True)
        (fun _ next => next = play boot.start moves ∨ Shut (play boot.start moves) next) := by
  have inWindow : InWindow (play boot.start moves).owner.display.memory := by
    rw [display_play boot.start (inWindow_start boot) moves]
    exact inWindow_start boot
  refine ⟨fun call => ?_, ?_, ?_, fun machine requester acquired revoked => ?_⟩
  · have obeys := perform_obeys inWindow call
    refine ⟨obeys.2, fun unlent page covered opened => ?_⟩
    rcases obeys.1.follows unlent with shut | ⟨before, kept⟩
    · rw [← obeys.1.display] at covered
      rw [shut page covered] at opened
      cases opened
    · exact ⟨before, kept page opened⟩
  · exact fun tame => closed_play (inWindow_start boot) (fun _ => closed_start boot) tame
  · intro context requester reached named
    unfold portRequester at reached
    split at reached
    · cases reached
      unfold displayIoRequester at named
      split at named
      · exact absurd rfl named
      next complete =>
        push Not at complete
        exact ⟨complete.2.2.2, by simpa using complete.2.1, by simpa using complete.2.2.1⟩
    · cases reached
  · exact wp_mono (acquire_follows inWindow machine requester acquired revoked) (fun _ _ _ => trivial)
      fun _ _ failed => failed.2

/-- A machine with an MCGA, which has two ranges of memory. -/
def sampleBoot : Boot where
  addressSpaceIdentity := 1
  machineIdentity := 2
  displayResource := 3
  platform :=
    { generation := 1, textMemoryAddress := 0, textMemoryBytes := 0, crtcIndexPort := 0, textConsoleAvailable := false
      reserved0 := [0, 0], displayCapabilities := expectedCapabilities 0x0a, displayActiveDcc := 0x0a
      displayDccValid := 1, reserved1 := 0 }
  present := fun _ => true
  frames := fun table => 0x500 + table
  tableCount := 2
  pageDirectory := 0x00400000

/-- The display is lent, others tear the mapping of its first page, and it is returned. -/
def sampleMoves : List Move :=
  [.call (.acquire 2 7 (.ok 5) none), .alter (sampleBoot.start.paging.setEntry 0xa0 0x007), .call (.release 7 5 none)]

theorem display_memory_follows_lease_sample :
    (play sampleBoot.start (sampleMoves.take 1)).owner.displayMemoryGranted = true ∧
      portRequester (play sampleBoot.start (sampleMoves.take 1)).owner 1 = some 7 ∧
      (play sampleBoot.start sampleMoves).owner.displayMemoryGranted = false ∧
      Closed (play sampleBoot.start sampleMoves) := by
  have tame : Tame sampleBoot.start sampleMoves := by
    refine ⟨?_, ?_, ?_, trivial⟩
    · intro _ isCall
      cases isCall
    · intro _ _ unlent
      exact absurd unlent (by decide +kernel)
    · intro _ isCall
      cases isCall
  have returned : (play sampleBoot.start sampleMoves).owner.displayMemoryGranted = false := by decide +kernel
  refine ⟨by decide +kernel, by decide +kernel, returned, ?_⟩
  exact (display_memory_follows_lease sampleBoot sampleMoves).2.1 tame returned

/-- Others unmap the first page of the first range and open a page of the second. -/
def sampleAltered : DisplayState :=
  { sampleBoot.start with paging := (sampleBoot.start.paging.setEntry 0xa0 0).setEntry 0xb8 0x000b8007 }

/-- An acquisition that fails in the first range leaves the memory not granted and the second range as it was. -/
theorem failed_acquire_skips_later_ranges :
    outcome (perform (.acquire 2 7 (.ok 5) none)) sampleAltered = .error .pagingMismatch ∧
      (final (perform (.acquire 2 7 (.ok 5) none)) sampleAltered).owner.displayMemoryGranted = false ∧
      Covers (final (perform (.acquire 2 7 (.ok 5) none)) sampleAltered).owner.display.memory 0xb8 ∧
      (final (perform (.acquire 2 7 (.ok 5) none)) sampleAltered).paging.legacyVideoRangeIsUserAccessible 0xb8000 4096
        = true := by
  refine ⟨by decide +kernel, by decide +kernel, ?_, by decide +kernel⟩
  exact ⟨⟨cgaMemoryBase, textMemoryBytes⟩, by decide +kernel, by decide +kernel⟩

end DosC32.Display
