import DosC32.Core.Run
import DosC32.Proofs.EmsSteps
import Mathlib.Algebra.Order.BigOperators.Group.List

/-! # The EMS manager along runs

Every interrupt takes one step of `EmsStep`. Over lawful backends the tables therefore stay as
`manager_state_is_valid` wants them and own exactly the blocks in use, and the page frame shows what the slots record.
Only a release that cannot map its slots again leaves a slot of the frame empty, and it poisons the manager.
-/

namespace DosC32

open Effect Function Register Bitmap List EmsManager Ledger

/-- The blocks in use for a context are those allocated and not released; allocation returns fresh blocks that the
manager can use, and a callback that fails has no effect on them. -/
structure EmsPageOps.Lawful {Pages : Type} (ops : EmsPageOps Pages) (live : ℕ → Pages → Set ℕ) : Prop where
  query : ∀ context pages, Leaves (ops.query context) pages fun next => live context next = live context pages
  allocate : ∀ context count pages, wp (ops.allocate context count) pages
    (fun grant next => allocationResultIsValid grant.block grant.physicalAddress count grant.capacityPages ∧
      grant.block ∉ live context pages ∧ live context next = insert grant.block (live context pages))
    (fun _ next => live context next = live context pages)
  release : ∀ context block pages, block ∈ live context pages → wp (ops.release context block) pages
    (fun _ next => live context next = live context pages \ {block})
    (fun _ next => live context next = live context pages)

/-- A mapping callback changes its slot of the window, or fails and changes nothing. -/
structure EmsFrameOps.Lawful {Frame : Type} (ops : EmsFrameOps Frame) (window : ℕ → ℕ → Frame → Fin 4 → Option ℕ) :
    Prop where
  map : ∀ context lease index address frame, wp (ops.map context lease index address) frame
    (fun _ next => window context lease next = update (window context lease frame) index (some address))
    (fun _ next => window context lease next = window context lease frame)
  unmap : ∀ context lease index frame, wp (ops.unmap context lease index) frame
    (fun _ next => window context lease next = update (window context lease frame) index none)
    (fun _ next => window context lease next = window context lease frame)

namespace EmsWorld

variable {Pages Frame Platform α β : Type} {vcpi : VcpiPlatformOps Platform}

/-- What the two backends show of themselves: the blocks in use and the page frame as it is mapped. -/
structure View (Pages Frame : Type) where
  live : ℕ → Pages → Set ℕ
  window : ℕ → ℕ → Frame → Fin 4 → Option ℕ

variable (ops : EmsOps Pages Frame Platform) (view : View Pages Frame)
  (before world after : EmsWorld Pages Frame Platform)

structure Lawful : Prop where
  pages : ops.pages.Lawful view.live
  frame : ops.frame.Lawful view.window

def live : Set ℕ :=
  view.live world.manager.pageContext world.pages

def window : Fin 4 → Option ℕ :=
  view.window world.manager.pageFrame.context world.manager.pageFrame.lease world.frame

/-- The same world with a poisoned manager. -/
def poisonedManager : EmsWorld Pages Frame Platform :=
  { world with manager := { world.manager with poisoned := 1 } }

/-- Tables, blocks and window are as before; the manager may have been poisoned. -/
structure Idle : Prop where
  manager : after.manager = before.manager ∨ after.manager = { before.manager with poisoned := 1 }
  blocks : live view after = live view before
  frame : window view after = window view before

/-- The window shows a slot as it is recorded or not at all, and a manager that is not poisoned hides nothing. -/
def Shows (recorded : Fin 4 → Option ℕ) (world : EmsWorld Pages Frame Platform) : Prop :=
  (∀ slot, window view world slot = none ∨ window view world slot = recorded slot) ∧
    (world.manager.poisoned = 0 → window view world = recorded)

/-- One step of the tables with what it does to the blocks and the window. -/
def Steps : Prop :=
  ∃ manager blocks, EmsStep before.manager (live view before) manager blocks ∧
    (after.manager = manager ∨ after.manager = { manager with poisoned := 1 }) ∧
    live view after = blocks ∧ Shows view manager.recorded after

/-- The window shows what the slots record, except at the slots of the mask, which are unmapped. -/
def Hidden (mask : BitVec 32) (world : EmsWorld Pages Frame Platform) : Prop :=
  window view world = fun slot : Fin 4 => if test mask slot = true then none else world.manager.recorded slot

/-- The tables are valid and own the blocks in use, and the window shows the slots. -/
structure Sound : Prop where
  valid : world.manager.managerStateIsValid ops.vcpi
  owns : Owns world.manager.held (live view world)
  shown : Shows view world.manager.recorded world

/-- One `dos_ems_interrupt` with the given registers; the value is what the caller finds in them afterwards. -/
def interrupt (registers : CpuState) : EmsM Pages Frame Platform CpuState := do
  setCpu fun _ => registers
  let _ ← dosEmsInterrupt ops
  pure (← get).cpu

/-- What holds of the tables and of the two backends. -/
structure EmsLaw : Prop where
  valid : world.manager.managerStateIsValid ops.vcpi
  slots : ∀ index, (world.manager.frameSlots index).mapped ≠ 0 → ∃ position,
    world.manager.resolveHandle (world.manager.frameSlots index).handle = some position ∧
      (world.manager.frameSlots index).logicalPage.toNat < (world.manager.handles position).pageCount ∧
      (world.manager.frameSlots index).physicalAddress = (world.manager.handles position).physicalAddress +
        (world.manager.frameSlots index).logicalPage.toNat * emsPageBytes
  distinct : ∀ first second block, world.manager.held first = some block → world.manager.held second = some block →
    first = second
  exact : ∀ block, block ∈ live view world ↔ ∃ position, world.manager.held position = some block
  shown : ∀ slot address, window view world slot = some address → world.manager.recorded slot = some address
  whole : world.manager.poisoned = 0 → window view world = world.manager.recorded

variable {ops view before world after}

theorem Idle.refl (world : EmsWorld Pages Frame Platform) : Idle view world world := ⟨.inl rfl, rfl, rfl⟩

theorem Idle.trans {middle : EmsWorld Pages Frame Platform} (first : Idle view before middle)
    (second : Idle view middle after) : Idle view before after := by
  refine ⟨?_, second.blocks.trans first.blocks, second.frame.trans first.frame⟩
  obtain manager | manager := second.manager
  · exact manager ▸ first.manager
  · right
    rw [manager]
    obtain same | same := first.manager <;> rw [same]

theorem Shows.of_eq {recorded : Fin 4 → Option ℕ} (same : window view world = recorded) : Shows view recorded world :=
  ⟨fun slot => .inr (congrFun same slot), fun _ => same⟩

theorem Idle.steps (idle : Idle view before after) (shown : window view before = before.manager.recorded) :
    Steps view before after :=
  ⟨_, _, .idle, idle.manager, idle.blocks, .of_eq (idle.frame.trans shown)⟩

/-- A call that only answers. -/
private theorem returnStatus_steps (shown : window view world = world.manager.recorded) (status : UInt8) :
    Leaves (returnStatus status) world (Steps view world) := Idle.steps ⟨.inl rfl, rfl, rfl⟩ shown

private theorem idle_setCpu (update : CpuState → CpuState) :
    Preserves (Idle view before) (setCpu update : EmsM Pages Frame Platform Unit) :=
  preserves_modify fun _ idle => ⟨idle.manager, idle.blocks, idle.frame⟩

private theorem idle_returnStatus (status : UInt8) :
    Preserves (Idle view before) (returnStatus status : EmsM Pages Frame Platform EmsOutcome) :=
  (idle_setCpu _).bind fun _ => preserves_pure _

private theorem idle_answer {update : CpuState → CpuState} {status : UInt8} :
    Preserves (Idle view before) (do setCpu update; returnStatus status : EmsM Pages Frame Platform EmsOutcome) :=
  (idle_setCpu _).bind fun _ => idle_returnStatus _

private theorem Idle.poisonedManager (idle : Idle view before world) : Idle view before world.poisonedManager := by
  refine ⟨.inr ?_, idle.blocks, idle.frame⟩
  obtain manager | manager := idle.manager <;> simp only [EmsWorld.poisonedManager, manager]

private theorem idle_poisonedFault : Preserves (Idle view before) (poisonedFault : EmsM Pages Frame Platform α) :=
  fun _ idle => idle.poisonedManager

variable {done : α → EmsWorld Pages Frame Platform → Prop}

private theorem pageFault_spec (status : EmsPageError) (idle : Idle view before world) :
    wp (pageFault status) world done fun _ => Idle view before := by
  cases status
  case noMemory => exact idle
  case fault => exact idle
  all_goals exact idle.poisonedManager

private theorem frameOperationStatus_spec (status : EmsFrameError) (idle : Idle view before world) :
    wp (frameOperationStatus status) world done fun _ => Idle view before := by
  cases status
  case uncertain => exact idle.poisonedManager
  case unknown => exact idle.poisonedManager
  all_goals exact idle

theorem wp_callPages {callback : ℕ → EStateM EmsPageError Pages α}
    {failed : EmsPageError → EmsWorld Pages Frame Platform → Prop} :
    wp (callPages callback) world done failed ↔ wp (callback world.manager.pageContext) world.pages
      (fun value pages => done value { world with pages }) (fun status pages => failed status { world with pages }) := by
  simp only [callPages, wp_rules]

theorem wp_callFrame {callback : ℕ → ℕ → EStateM EmsFrameError Frame α}
    {failed : EmsFrameError → EmsWorld Pages Frame Platform → Prop} :
    wp (callFrame callback) world done failed ↔
      wp (callback world.manager.pageFrame.context world.manager.pageFrame.lease) world.frame
        (fun value frame => done value { world with frame }) (fun status frame => failed status { world with frame }) := by
  simp only [callFrame, wp_rules]

private theorem idle_callPlatform (callback : ℕ → EStateM VcpiPlatformError Platform α) :
    Preserves (Idle view before)
      (attempt (callPlatform callback) : EmsM Pages Frame Platform (Except VcpiPlatformError α)) := by
  intro world idle
  simp only [wp_rules, callPlatform]
  exact leaves_any fun _ => ⟨idle.manager, idle.blocks, idle.frame⟩

private theorem idle_platformFailure (status : VcpiPlatformError) :
    Preserves (Idle view before) (platformFailure status : EmsM Pages Frame Platform EmsOutcome) := by
  cases status
  case unsupported => exact idle_returnStatus _
  case fault => exact preserves_throw _
  all_goals exact idle_poisonedFault

private theorem recorded_setSlot (manager : EmsManager) (index : Fin 4) (slot : EmsFrameSlot) :
    (manager.setSlot index slot).recorded =
      update manager.recorded index (if slot.mapped = 0 then none else some slot.physicalAddress) := by
  funext other
  simp only [recorded, setSlot, update_apply]
  by_cases same : other = index <;> simp [same]

/-- A call of the platform whose result is answered in the registers. -/
private theorem idle_platform {callback : ℕ → EStateM VcpiPlatformError Platform α}
    {next : Except VcpiPlatformError α → EmsM Pages Frame Platform EmsOutcome}
    (kept : ∀ value, Preserves (Idle view before) (next (.ok value)))
    (failed : ∀ status, next (.error status) = platformFailure status) :
    Preserves (Idle view before) (attempt (callPlatform callback) >>= next) := by
  refine (idle_callPlatform callback).bind fun result => ?_
  cases result with
  | error status => exact failed status ▸ idle_platformFailure status
  | ok value => exact kept value

private theorem idle_vcpiHandoff (interfaceRequest : Bool) :
    Preserves (Idle view before) (vcpiHandoff vcpi interfaceRequest : EmsM Pages Frame Platform EmsOutcome) := by
  apply preserves_get.bind
  intro world
  dsimp only
  cases handoffRequest world.cpu interfaceRequest with
  | none => exact idle_returnStatus _
  | some request =>
    refine Preserves.bind (fun _ idle => ⟨idle.manager, idle.blocks, idle.frame⟩) fun status => ?_
    cases status
    case completed =>
      apply preserves_get.bind
      intro _
      exact .ite (idle_returnStatus _) ((idle_setCpu _).bind fun _ => idle_poisonedFault)
    case transferred => exact .ite ((idle_setCpu _).bind fun _ => idle_poisonedFault) (preserves_pure _)
    case unsupported => exact idle_answer
    case fault => exact (idle_setCpu _).bind fun _ => preserves_throw _
    all_goals exact (idle_setCpu _).bind fun _ => idle_poisonedFault

theorem Hidden.partly {mask : BitVec 32} (hidden : Hidden view mask world) (slot : Fin 4) :
    window view world slot = none ∨ window view world slot = world.manager.recorded slot := by
  rw [congrFun hidden slot]
  split
  · exact .inl rfl
  · exact .inr rfl

/-- The manager is poisoned with some slots unmapped. -/
private theorem poisoned_steps (manager : after.manager = before.manager) (blocks : live view after = live view before)
    (partly : ∀ slot, window view after slot = none ∨ window view after slot = after.manager.recorded slot) :
    Steps view before after.poisonedManager := by
  refine ⟨_, _, .idle, .inr ?_, blocks, manager ▸ partly, fun clean => ?_⟩
  · rw [poisonedManager, manager]
  · exact absurd (show (1 : UInt8) = 0 from clean) (by decide)

/-- The slots that show a page of the handle. -/
def Names (manager : EmsManager) (visibleHandle : UInt16) (slot : Fin 4) : Prop :=
  (manager.frameSlots slot).mapped ≠ 0 ∧ (manager.frameSlots slot).handle = visibleHandle

theorem Steps.sound (steps : Steps view before after) (sound : Sound ops view before) : Sound ops view after := by
  obtain ⟨manager, _, step, same | same, rfl, shown⟩ := steps
  all_goals
    refine ⟨?_, ?_, ?_⟩
    · rw [same]
      exact step.valid sound.valid
    · rw [same]
      exact step.owns sound.owns
    · rw [same]
      exact shown

private theorem idle_spec {action : EmsM Pages Frame Platform α} (kept : Preserves (Idle view world) action)
    (shown : window view world = world.manager.recorded) : Leaves action world (Steps view world) :=
  Leaves.mono (kept world (Idle.refl world)) fun _ idle => idle.steps shown

variable (lawful : Lawful ops view)
include lawful

/-- A snapshot is taken without any other effect. -/
theorem queryPages_spec (clean : world.manager.poisoned = 0) : wp (queryPages ops) world
      (fun _ next => ∃ pages, next = { world with pages } ∧
        view.live world.manager.pageContext pages = live view world)
      (fun _ => Idle view world) := by
  simp only [queryPages, wp_rules, wp_callPages]
  refine ⟨fun _ => Idle.refl world, fun _ => ⟨fun poisoned => absurd clean poisoned, fun _ => ?_⟩⟩
  apply wp_mono (lawful.pages.query world.manager.pageContext world.pages)
  · intro snapshot pages same
    simp only [wp_ite, wp_pure]
    exact ⟨fun _ => ⟨.inr rfl, same, rfl⟩, fun _ => ⟨pages, rfl, same⟩⟩
  · exact fun status pages same => pageFault_spec status ⟨.inl rfl, same, rfl⟩

variable {done : EmsOutcome → EmsWorld Pages Frame Platform → Prop}
    {failed : EmsError → EmsWorld Pages Frame Platform → Prop}

/-- The backend grants a block that can be used, or nothing happened. -/
theorem wp_withGrant {count : ℕ} {granted : EmsGrant → EmsM Pages Frame Platform EmsOutcome}
    (refused : ∀ outcome after, Idle view world after → done outcome after)
    (faulted : ∀ error after, Idle view world after → failed error after)
    (usable : ∀ grant pages, allocationResultIsValid grant.block grant.physicalAddress count grant.capacityPages →
      grant.block ∉ live view world →
      view.live world.manager.pageContext pages = insert grant.block (live view world) →
      wp (granted grant) { world with pages } done failed) : wp (withGrant ops count granted) world done failed := by
  simp only [withGrant, wp_rules, wp_callPages]
  apply wp_mono (lawful.pages.allocate world.manager.pageContext count world.pages)
  · rintro grant pages ⟨valid, fresh, taken⟩
    rw [if_neg (not_not.mpr valid)]
    exact usable grant pages valid fresh taken
  · intro status pages same
    cases status
    case noMemory => exact refused _ _ ⟨.inl rfl, same, rfl⟩
    all_goals
      have idle : Idle view world { world with pages } := ⟨.inl rfl, same, rfl⟩
      exact wp_mono_failed (pageFault_spec _ idle) faulted

/-- The loop unmaps the slots of the handle, and knows at a failure which ones it has unmapped. -/
theorem unmapLoop_spec (visibleHandle : UInt16) (todo : List (Fin 4)) :
    ∀ (mask : BitVec 32) (world : EmsWorld Pages Frame Platform), Hidden view mask world →
      (∀ slot : Fin 4, test mask slot = true → Names world.manager visibleHandle slot) →
      (∀ slot, slot ∉ todo → Names world.manager visibleHandle slot → test mask slot = true) →
      wp (unmapLoop ops visibleHandle todo mask) world
        (fun mask' next => ∃ frame, next = { world with frame } ∧ Hidden view mask' next ∧
          ∀ slot : Fin 4, test mask' slot = true ↔ Names world.manager visibleHandle slot)
        (fun failure next => ∃ frame, next = { world with frame } ∧ Hidden view failure.2 next ∧
          ∀ slot : Fin 4, test failure.2 slot = true → Names world.manager visibleHandle slot) := by
  induction todo with
  | nil =>
    intro mask world hidden named complete
    exact ⟨world.frame, rfl, hidden, fun slot => ⟨named slot, complete slot (not_mem_nil)⟩⟩
  | cons index rest ih =>
    intro mask world hidden named complete
    simp only [unmapLoop, wp_split, wp_callFrame]
    constructor
    · intro skipped
      apply ih mask world hidden named
      intro slot outside names
      apply complete slot _ names
      rintro (_ | ⟨_, inside⟩)
      · exact skipped.elim names.1 (fun different => different names.2)
      · exact outside inside
    · intro chosen
      simp only [not_or, ne_eq, not_not] at chosen
      apply wp_mono (lawful.frame.unmap _ _ index world.frame)
      · intro _ frame moved
        have inserted : ∀ slot : Fin 4, test (insert mask index) slot = true ↔
            slot = index ∨ test mask slot = true := by
          intro slot
          rw [test_insert _ (by omega) (by omega), Bool.or_eq_true, decide_eq_true_eq, Fin.ext_iff]
        apply wp_mono (ih (insert mask index) { world with frame } ?_ ?_ ?_)
        · exact fun _ _ => id
        · exact fun _ _ => id
        · refine funext fun slot => ?_
          have here : window view { world with frame } = update (window view world) index none := moved
          rw [here, hidden, update_apply]
          by_cases same : slot = index
          · rw [if_pos same, if_pos ((inserted slot).mpr (.inl same))]
          · rw [if_neg same]
            exact if_congr (by rw [inserted, or_iff_right same]) rfl rfl
        · intro slot set
          obtain rfl | set := (inserted slot).mp set
          · exact chosen
          · exact named slot set
        · intro slot outside names
          rw [inserted]
          by_cases same : slot = index
          · exact .inl same
          · refine .inr (complete slot ?_ names)
            rintro (_ | ⟨_, inside⟩)
            · exact same rfl
            · exact outside inside
      · intro status frame same
        exact ⟨frame, rfl, Eq.trans same hidden, named⟩

/-- The slots of the mask are mapped again, or some of them are when a mapping fails. -/
theorem restoreLoop_spec (mask : BitVec 32) {todo : List (Fin 4)} (distinct : todo.Nodup) :
    ∀ (world : EmsWorld Pages Frame Platform),
      (∀ slot : Fin 4, test mask slot = true → (world.manager.frameSlots slot).mapped ≠ 0) →
      (window view world = fun slot : Fin 4 =>
        if test mask slot = true ∧ slot ∈ todo then none else world.manager.recorded slot) →
      wp (restoreLoop ops mask todo) world (fun restored next => ∃ frame, next = { world with frame } ∧
          (restored = true → window view next = world.manager.recorded) ∧
          ∀ slot, window view next slot = none ∨ window view next slot = world.manager.recorded slot)
        (fun _ _ => False) := by
  induction todo with
  | nil =>
    intro world _ partly
    have whole : window view world = world.manager.recorded := by
      rw [partly]
      funext slot
      simp
    exact ⟨world.frame, rfl, fun _ => whole, fun slot => .inr (congrFun whole slot)⟩
  | cons index rest ih =>
    intro world mapped partly
    obtain ⟨absent, distinct'⟩ := nodup_cons.mp distinct
    simp only [restoreLoop, wp_ite]
    constructor
    · intro hidden
      simp only [wp_rules, wp_callFrame]
      apply wp_mono (lawful.frame.map _ _ index _ world.frame)
      · intro _ frame moved
        apply wp_mono (ih distinct' { world with frame } mapped ?_)
        · exact fun _ _ => id
        · exact fun _ _ => id
        · funext slot
          have here : window view { world with frame } = update (window view world) index
            (some (world.manager.frameSlots index).physicalAddress) := moved
          rw [here, partly, update_apply]
          by_cases same : slot = index
          · subst same
            rw [if_pos rfl]
            have recorded : world.manager.recorded slot = some (world.manager.frameSlots slot).physicalAddress :=
              if_neg (mapped slot hidden)
            rw [if_neg fun both => absent both.2, recorded]
          · rw [if_neg same]
            simp [same]
      · intro status frame same
        have here : window view { world with frame } = window view world := same
        refine ⟨frame, rfl, by simp, fun slot => ?_⟩
        rw [here, partly]
        dsimp only
        split
        · exact .inl rfl
        · exact .inr rfl
    · intro plain
      apply ih distinct' world mapped
      rw [partly]
      funext slot
      by_cases same : slot = index
      · subst same
        simp [plain]
      · simp [same]

variable (shown : window view world = world.manager.recorded)
include shown

theorem allocateHandle_spec (clean : world.manager.poisoned = 0) :
    Leaves (allocateHandle ops) world (Steps view world) := by
  have refused : ∀ status {state : EmsWorld Pages Frame Platform}, Idle view world state →
      Leaves (returnStatus status) state (Steps view world) := by
    intro status state idle
    exact Idle.steps ⟨idle.manager, idle.blocks, idle.frame⟩ shown
  simp only [allocateHandle, wp_split]
  refine ⟨fun _ => refused _ (Idle.refl world), fun positive => ?_⟩
  split
  · exact refused _ (Idle.refl world)
  · rename_i index found
    rw [wp_bind]
    apply wp_mono (queryPages_spec lawful clean)
    · rintro snapshot _ ⟨pages, rfl, same⟩
      have idle : Idle view world { world with pages } := ⟨.inl rfl, same, rfl⟩
      have blocks : live view { world with pages } = live view world := same
      simp only [wp_ite]
      refine ⟨fun _ => refused _ idle, fun _ => ⟨fun _ => refused _ idle, fun _ => ?_⟩⟩
      apply wp_withGrant lawful
      · exact fun _ after idle' => (idle.trans idle').steps shown
      · exact fun _ after idle' => (idle.trans idle').steps shown
      · intro grant pages' usable fresh taken
        rw [blocks] at fresh taken
        have unused : ¬ world.manager.handleBitIsSet index ∧
            (world.manager.handles index).generation < emsGenerationMax := by
          simpa using find?_some found
        obtain ⟨free, room⟩ := unused
        refine ⟨_, _, .allocate index grant (low16 world.cpu.ebx).toNat free room positive ?_ usable fresh,
          .inl rfl, taken, .of_eq shown⟩
        exact Nat.le_of_lt_succ (low16 world.cpu.ebx).toNat_lt
    · exact fun _ _ idle => idle.steps shown

theorem unmapFrameSlot_spec (physicalPage : Fin 4) :
    Leaves (unmapFrameSlot ops physicalPage) world (Steps view world) := by
  simp only [unmapFrameSlot, wp_bind, wp_get, wp_ite, wp_pure]
  refine ⟨fun _ => (Idle.refl world).steps shown, fun _ => ?_⟩
  rw [wp_attempt, wp_callFrame]
  apply wp_mono (lawful.frame.unmap _ _ physicalPage world.frame)
  · intro _ frame moved
    refine ⟨_, _, .unmap physicalPage, .inl rfl, rfl, .of_eq ?_⟩
    rw [recorded_setSlot, ← shown]
    exact moved
  · intro status frame same
    have idle : Idle view world { world with frame } := ⟨.inl rfl, rfl, same⟩
    exact wp_mono_failed (frameOperationStatus_spec status idle) fun _ _ idle => idle.steps shown

theorem mapHandlePage_spec : Leaves (mapHandlePage ops) world (Steps view world) := by
  have refused := returnStatus_steps shown
  simp only [mapHandlePage, wp_rules]
  split
  · simp only [wp_ite, wp_bind]
    refine ⟨fun _ => ?_, fun _ => ?_⟩
    · apply wp_mono (unmapFrameSlot_spec lawful shown _)
      all_goals exact fun _ after steps => steps
    split
    · exact refused _
    · rename_i position resolved
      simp only [wp_ite]
      refine ⟨fun _ => refused _, fun inside => ⟨fun _ => ?_, fun _ => ?_⟩⟩
      · exact (Idle.refl world).poisonedManager.steps shown
      rw [wp_bind, wp_attempt, wp_callFrame]
      apply wp_mono (lawful.frame.map _ _ _ _ world.frame)
      · intro _ frame moved
        have address : (low16 world.cpu.ebx).toNat * emsNativePagesPerPage * emsNativePageBytes =
            (low16 world.cpu.ebx).toNat * emsPageBytes := by
          rw [Nat.mul_assoc]
          rfl
        rw [address] at moved ⊢
        refine ⟨_, _, .map _ position _ _ resolved (Nat.lt_of_not_le inside), .inl rfl, rfl, .of_eq ?_⟩
        rw [recorded_setSlot, ← shown]
        exact moved
      · intro status frame same
        have idle : Idle view world { world with frame } := ⟨.inl rfl, rfl, same⟩
        exact wp_mono_failed (frameOperationStatus_spec status idle) fun _ _ idle => idle.steps shown
  · exact refused _

private theorem restoreOrPoison_spec {mask : BitVec 32} {pages : Pages} {frame : Frame}
    (blocks : view.live world.manager.pageContext pages = live view world)
    (hidden : Hidden view mask { world with pages, frame })
    (mapped : ∀ slot : Fin 4, test mask slot = true → (world.manager.frameSlots slot).mapped ≠ 0) :
    Leaves (restoreOrPoison ops mask : EmsM Pages Frame Platform α) { world with pages, frame }
      (Steps view world) := by
  simp only [restoreOrPoison, restoreFrameSlots, wp_bind]
  have everywhere : ∀ slot : Fin 4, slot ∈ ([3, 2, 1, 0] : List (Fin 4)) := by decide
  apply wp_returns (restoreLoop_spec lawful mask (by decide) { world with pages, frame } mapped ?_)
  · rintro restored _ ⟨frame', rfl, back, partly⟩
    cases restored with
    | true => exact Idle.steps ⟨.inl rfl, blocks, (back rfl).trans shown.symm⟩ shown
    | false => exact poisoned_steps rfl blocks partly
  · rw [hidden]
    funext slot
    exact if_congr (by simp only [everywhere slot, and_true]) rfl rfl

theorem releaseHandle_spec (owns : Owns world.manager.held (live view world)) :
    Leaves (releaseHandle ops) world (Steps view world) := by
  simp only [releaseHandle, wp_rules]
  split
  · exact returnStatus_steps shown _
  rename_i index resolved
  have holds : world.manager.held (.inl index) = some (world.manager.handles index).block :=
    if_pos (resolveHandle_eq_some.mp resolved).2
  have inUse := owns.mem holds
  have nothing : ∀ slot : Fin 4, test (0 : BitVec 32) slot = false := by decide
  have start : Hidden view 0 world := by
    refine shown.trans ?_
    funext slot
    rw [nothing slot]
    rfl
  have everywhere : ∀ slot : Fin 4, slot ∈ ([0, 1, 2, 3] : List (Fin 4)) := by decide
  rw [wp_bind, wp_attempt]
  apply wp_mono (unmapLoop_spec lawful (low16 world.cpu.edx) [0, 1, 2, 3] 0 world start ?_ ?_)
  · rintro mask _ ⟨frame, rfl, hidden, named⟩
    rw [wp_bind, wp_attempt, wp_callPages]
    apply wp_mono (lawful.pages.release _ _ _ inUse)
    · intro _ pages given
      refine ⟨_, _, .release index _ mask resolved named, .inl rfl, given, .of_eq ?_⟩
      refine Eq.trans hidden ?_
      funext slot
      simp only [recorded, dropHandle, clearSlots]
      by_cases cleared : test mask slot = true <;> simp [cleared]
    · intro status pages same
      cases status
      case fault => exact restoreOrPoison_spec lawful shown same hidden fun slot set => ((named slot).mp set).1
      all_goals
        have partly : Hidden view mask { world with pages, frame } := hidden
        exact poisoned_steps rfl same partly.partly
  · rintro ⟨status, mask⟩ _ ⟨frame, rfl, hidden, named⟩
    cases status
    case uncertain => exact poisoned_steps rfl rfl hidden.partly
    case unknown => exact poisoned_steps rfl rfl hidden.partly
    all_goals exact restoreOrPoison_spec lawful shown rfl hidden fun slot set => (named slot set).1
  · intro slot set
    rw [nothing slot] at set
    cases set
  · exact fun slot outside => absurd (everywhere slot) outside

theorem vcpiAllocatePage_spec : Leaves (vcpiAllocatePage ops) world (Steps view world) := by
  simp only [vcpiAllocatePage, wp_rules]
  split
  · exact returnStatus_steps shown _
  · rename_i index found
    apply wp_withGrant lawful
    · exact fun _ after idle => idle.steps shown
    · exact fun _ after idle => idle.steps shown
    · intro grant pages usable fresh taken
      have unused : world.manager.vcpiSlotIsAvailable index := by simpa using find?_some found
      obtain ⟨free, room⟩ := unused
      exact ⟨_, _, .takePage index grant free room usable fresh, .inl rfl, taken, .of_eq shown⟩

theorem vcpiFreePage_spec (owns : Owns world.manager.held (live view world)) :
    Leaves (vcpiFreePage ops) world (Steps view world) := by
  have refused := returnStatus_steps shown
  simp only [vcpiFreePage, wp_split]
  refine ⟨fun _ => refused _, fun _ => ?_⟩
  split
  · exact refused _
  · rename_i index found
    have test := find?_some found
    simp only [decide_eq_true_eq] at test
    have set := test.1
    have holds : world.manager.held (.inr index) = some (world.manager.vcpiAllocations index).block := if_pos set
    have inUse := owns.mem holds
    rw [wp_bind, wp_attempt, wp_callPages]
    apply wp_mono (lawful.pages.release _ _ _ inUse)
    · intro _ pages given
      exact ⟨_, _, .dropPage index set, .inl rfl, given, .of_eq shown⟩
    · intro status pages same
      have idle : Idle view world { world with pages } := ⟨.inl rfl, same, rfl⟩
      exact wp_mono_failed (pageFault_spec status idle) fun _ _ idle => idle.steps shown

private theorem query_spec (clean : world.manager.poisoned = 0) {next : EmsPageSnapshot → EmsM Pages Frame Platform α}
    (kept : ∀ snapshot, Preserves (Idle view world) (next snapshot)) :
    Leaves (queryPages ops >>= next) world (Steps view world) := by
  simp only [Leaves, wp_bind]
  apply wp_mono (queryPages_spec lawful clean)
  · rintro snapshot _ ⟨pages, rfl, same⟩
    apply wp_mono (kept snapshot { world with pages } ⟨.inl rfl, same, rfl⟩)
    all_goals exact fun _ _ idle => idle.steps shown
  · exact fun _ _ idle => idle.steps shown

omit shown

variable (sound : Sound ops view world) (clean : world.manager.poisoned = 0)

include sound clean

theorem performVcpi_spec (function : VcpiFunction) :
    Leaves (performVcpi ops vcpi function) world (Steps view world) := by
  have shown := sound.shown.2 clean
  cases function with
  | presence => exact idle_spec idle_answer shown
  | getInterface => exact idle_spec (idle_vcpiHandoff true) shown
  | getMaximumAddress =>
    exact query_spec lawful shown clean fun _ => idle_answer
  | getFreePages =>
    refine query_spec lawful shown clean fun _ => ?_
    exact preserves_get.bind fun _ => idle_answer
  | allocatePage => exact vcpiAllocatePage_spec lawful shown
  | freePage => exact vcpiFreePage_spec lawful shown sound.owns
  | translateLowPage =>
    refine idle_spec (preserves_get.bind fun _ => .ite (idle_returnStatus _) ?_) shown
    exact idle_platform (fun _ => .ite idle_poisonedFault idle_answer) fun _ => rfl
  | readCr0 | getPicMappings => exact idle_spec (idle_platform (fun _ => idle_answer) fun _ => rfl) shown
  | setPicMappings =>
    refine idle_spec (preserves_get.bind fun _ => .ite (idle_returnStatus _) ?_) shown
    exact idle_platform (fun _ => idle_returnStatus _) fun _ => rfl
  | switchMode => exact idle_spec (idle_vcpiHandoff false) shown

theorem dosVcpiDispatch_spec : Leaves (dosVcpiDispatch ops) world (Steps view world) := by
  have shown := sound.shown.2 clean
  have refused := returnStatus_steps shown emsStatusInvalidFunction
  simp only [dosVcpiDispatch, wp_split]
  refine ⟨fun _ => refused, fun _ => ⟨fun vcpi _ => ?_, fun _ => (Idle.refl world).steps shown⟩⟩
  split
  · exact refused
  · rw [wp_ite]
    exact ⟨fun _ => refused, fun _ => performVcpi_spec lawful sound clean _⟩

theorem dispatchEms_spec (function : Option EmsFunction) :
    Leaves (dispatchEms ops function) world (Steps view world) := by
  have shown := sound.shown.2 clean
  have refused := returnStatus_steps shown
  cases function with
  | none => exact refused _
  | some function =>
    cases function with
    | status => exact refused _
    | pageFrame =>
      refine idle_spec ?_ shown
      exact preserves_get.bind fun _ => idle_answer
    | pageCounts => exact query_spec lawful shown clean fun _ => idle_answer
    | allocate => exact allocateHandle_spec lawful shown clean
    | map => exact mapHandlePage_spec lawful shown
    | release => exact releaseHandle_spec lawful shown sound.owns
    | version => exact idle_spec idle_answer shown
    | vcpi => exact dosVcpiDispatch_spec lawful sound clean

omit lawful sound clean

/-- Every interrupt keeps the manager sound. -/
theorem interrupt_sound (lawful : Lawful ops view) (sound : Sound ops view world) (registers : CpuState) :
    Leaves (interrupt ops registers) world (Sound ops view) := by
  have sound' : Sound ops view { world with cpu := registers } := { sound with }
  simp only [interrupt, dosEmsInterrupt, setCpu, wp_split]
  refine ⟨fun _ => sound', fun _ => ⟨fun _ => sound', fun clean => ⟨fun invalid => absurd sound.valid invalid, fun _ => ?_⟩⟩⟩
  apply wp_mono (dispatchEms_spec lawful sound' (not_not.mp clean) _)
  · exact fun _ after steps => steps.sound sound'
  · intro _ after steps
    have kept := steps.sound sound'
    exact { kept with }

/-- The tables of a fresh manager. -/
private theorem fresh_valid {manager : EmsManager} {vcpi : Option (VcpiPlatformOps Platform)}
    (context : identityIsValid manager.pageContext)
    (binding : frameBindingIsValid manager.pageFrame { pageFrameSegment := manager.pageFrameSegment })
    (vcpiBinding : manager.vcpiBindingIsValid vcpi) (reserved : manager.reserved = replicate 4 0)
    (bits : manager.allocatedHandles = 0#32) (words : manager.vcpiAllocated = fun _ => 0#32)
    (handles : manager.handles = fun _ => {}) (pages : manager.vcpiAllocations = fun _ => {})
    (slots : manager.frameSlots = fun _ => {}) : manager.managerStateIsValid vcpi := by
  refine ⟨context, binding, vcpiBinding, ?_, fun index => ?_, fun index => ?_, fun index => ?_⟩
  · rw [reserved]
    decide
  · have unset : ¬ manager.handleBitIsSet index := by
      simp only [handleBitIsSet, bits, test_zero, Bool.false_eq_true, not_false_eq_true]
    unfold handleEntryIsValid
    rw [handles]
    exact ⟨Nat.zero_le _, fun set => absurd set unset, fun _ => ⟨rfl, rfl, rfl, rfl⟩⟩
  · have unset : ¬ manager.vcpiBitIsSet index := by
      simp only [vcpiBitIsSet, words, test_zero, Bool.false_eq_true, not_false_eq_true]
    unfold vcpiEntryIsValid
    rw [pages]
    exact ⟨Nat.zero_le _, fun set => absurd set unset, fun _ => ⟨rfl, rfl, rfl⟩⟩
  · unfold frameSlotIsValid
    rw [slots]
    exact ⟨rfl, fun _ => ⟨rfl, rfl, rfl⟩, fun mapped => absurd rfl mapped⟩

private theorem fresh_owns {manager : EmsManager} (bits : manager.allocatedHandles = 0#32)
    (words : manager.vcpiAllocated = fun _ => 0#32) {blocks : Set ℕ} (unused : blocks = ∅) :
    Owns manager.held blocks := by
  have nothing : manager.held = fun _ => none := by
    funext position
    cases position with
    | inl index => exact if_neg (by simp [handleBitIsSet, bits, test_zero])
    | inr index => exact if_neg (by simp [vcpiBitIsSet, words, test_zero])
  rw [nothing, unused]
  exact owns_empty

/-- Initialization over unused backends. -/
theorem dosEmsInitialize_sound (lawful : Lawful ops view) {pageContext vcpiContext : ℕ} {pageFrame : EmsFrameBinding}
    {config : EmsConfig} (unused : view.live pageContext world.pages = ∅)
    (unmapped : view.window pageFrame.context pageFrame.lease world.frame = fun _ => none) :
    wp (dosEmsInitialize ops pageContext pageFrame vcpiContext config) world (fun _ => Sound ops view)
      (fun _ _ => True) := by
  simp only [dosEmsInitialize, wp_all, setManager]
  intro accepted
  simp only [not_or, ne_eq, not_not, not_and] at accepted
  obtain ⟨_, _, _, context, binding, present, absent⟩ := accepted
  apply wp_mono (queryPages_spec lawful rfl)
  · rintro snapshot _ ⟨pages, rfl, same⟩
    have blocks : view.live pageContext pages = ∅ := Eq.trans same unused
    refine ⟨?_, fresh_owns rfl rfl blocks, .of_eq unmapped⟩
    · refine fresh_valid context ?_ ?_ rfl rfl rfl rfl rfl rfl
      · obtain ⟨⟨_, _, rest⟩, identity⟩ := binding
        exact ⟨⟨rfl, rfl, rest⟩, identity⟩
      · unfold vcpiBindingIsValid
        dsimp only
        cases found : ops.vcpi.isSome with
        | true => exact ⟨by decide, fun _ => ⟨rfl, present found⟩, fun zero => absurd zero (by decide)⟩
        | false =>
          exact ⟨by decide, fun nonzero => absurd rfl nonzero,
            fun _ => ⟨rfl, show ¬ identityIsValid kernelObjectHandleInvalid by decide⟩⟩
  · exact fun _ _ _ => trivial

/-- Along every run of interrupts the tables stay valid and own exactly the blocks in use, and what the window maps is
as the slots record it, all of it until the manager is poisoned. -/
theorem ems_tables_sound (lawful : Lawful ops view) {pageContext vcpiContext : ℕ} {pageFrame : EmsFrameBinding}
    {config : EmsConfig} {origin start world : EmsWorld Pages Frame Platform}
    {history : List (CpuState × Except EmsError CpuState)} (unused : view.live pageContext origin.pages = ∅)
    (unmapped : view.window pageFrame.context pageFrame.lease origin.frame = fun _ => none)
    (initialized : dosEmsInitialize ops pageContext pageFrame vcpiContext config origin = .ok () start)
    (run : Runs (interrupt ops) (fun _ _ => True) start history world) : EmsLaw ops view world := by
  have sound : Sound ops view world := by
    have initial := wp_of_ok (dosEmsInitialize_sound lawful unused unmapped) initialized
    apply run.invariant_state (Sound ops view) initial
    exact fun state registers sound _ => interrupt_sound lawful sound registers
  constructor
  · exact sound.valid
  · intro index mapped
    obtain ⟨_, _, _, _, _, _, slots⟩ := sound.valid
    exact slotShowsPage_iff.mp ((slots index).2.2 mapped).2
  · exact fun first second block holds holds' => sound.owns.distinct holds holds'
  · exact sound.owns.exact
  · intro slot address mapped
    rcases sound.shown.1 slot with none | same
    · rw [none] at mapped
      cases mapped
    · exact same.symm.trans mapped
  · exact sound.shown.2

/-- A page backend that numbers its blocks upwards and grants up to 1024 pages at once. -/
def shelfPages : EmsPageOps (List ℕ) where
  query _ := pure ⟨1024, 1024, 1024, 0x3fffff⟩
  allocate _ count := fun blocks =>
    if count = 0 ∨ count > 1024 then .error .noMemory blocks
    else .ok ⟨blocks.sum + 1, 0x110000, count⟩ ((blocks.sum + 1) :: blocks)
  release _ block := fun blocks =>
    if block ∈ blocks then .ok () (blocks.filter (· ≠ block)) else .error .fault blocks

theorem shelfPages_lawful : shelfPages.Lawful fun _ blocks => { block | block ∈ blocks } where
  query _ _ := rfl
  allocate _ count blocks := by
    simp only [shelfPages, wp]
    by_cases refused : count = 0 ∨ count > 1024
    · rw [if_pos refused]
    · rw [if_neg refused]
      refine ⟨?_, fun member => ?_, ?_⟩
      · refine ⟨Nat.succ_ne_zero _, fun zero => refused (.inl zero), Nat.le_refl _, ?_, ?_, ?_⟩
        · show count ≤ 0x100000000 / 4096
          omega
        · show 0x110000 % 4096 = 0
          decide
        · show 0x110000 ≤ 0x100000000 - count * 4096
          omega
      · have small : blocks.sum + 1 ≤ blocks.sum := single_le_sum (fun _ _ => Nat.zero_le _) _ member
        omega
      · ext block
        simp
  release _ block blocks inUse := by
    have member : block ∈ blocks := inUse
    simp only [shelfPages, wp, member, if_true]
    ext other
    simp

/-- A page frame with the number of callbacks made so far. -/
structure CountedFrame where
  window : Fin 4 → Option ℕ
  calls : ℕ

variable (fails : ℕ → Bool)

/-- A frame backend that refuses the callbacks chosen by `fails` and is atomic otherwise. -/
def countedFrame : EmsFrameOps CountedFrame where
  map _ _ index address := fun frame =>
    if fails frame.calls then .error .fault { frame with calls := frame.calls + 1 }
    else .ok () ⟨update frame.window index (some address), frame.calls + 1⟩
  unmap _ _ index := fun frame =>
    if fails frame.calls then .error .fault { frame with calls := frame.calls + 1 }
    else .ok () ⟨update frame.window index none, frame.calls + 1⟩

theorem countedFrame_lawful : (countedFrame fails).Lawful fun _ _ frame => frame.window where
  map _ _ index address frame := by
    simp only [wp, countedFrame]
    cases fails frame.calls
    · rfl
    · rfl
  unmap _ _ index frame := by
    simp only [wp, countedFrame]
    cases fails frame.calls
    · rfl
    · rfl

def countedOps : EmsOps (List ℕ) CountedFrame Unit := ⟨shelfPages, countedFrame fails, none⟩

def countedView : View (List ℕ) CountedFrame := ⟨fun _ blocks => { block | block ∈ blocks }, fun _ _ frame => frame.window⟩

def countedOrigin : EmsWorld (List ℕ) CountedFrame Unit where
  manager := { constructed := 1 }
  pages := []
  frame := ⟨fun _ => none, 0⟩
  platform := ()
  cpu := ⟨0, 0, 0, 0, 0, 0, 0, 0, 0, 0, 0, 0, 0, 0, 0, 0, 0⟩

def countedBinding : EmsFrameBinding := ⟨1, 1, 0xe0000, 0x10000⟩

def countedStart : EmsWorld (List ℕ) CountedFrame Unit :=
  final (dosEmsInitialize (countedOps fails) 1 countedBinding 0 { pageFrameSegment := 0xe000 }) countedOrigin

/-- Allocate two pages and map them to the first two slots. -/
def countedCalls : List CpuState :=
  [{ countedOrigin.cpu with eax := 0x4300, ebx := 2 }, { countedOrigin.cpu with eax := 0x4400, ebx := 0, edx := 1 },
    { countedOrigin.cpu with eax := 0x4401, ebx := 1, edx := 1 }]

def countedRelease : CpuState := { countedOrigin.cpu with eax := 0x4500, edx := 1 }

/-- The second unmapping of the release fails, and so does putting the first slot back: definite failures without
effect, after which the window is not what the slots record. -/
def clumsy : ℕ → Bool := fun call => call = 3 ∨ call = 4

theorem ems_tables_sound_counted :
    let mapped := replay (interrupt (countedOps clumsy)) (countedStart clumsy) countedCalls
    let poisoned := replay (interrupt (countedOps clumsy)) (countedStart clumsy) (countedCalls ++ [countedRelease])
    mapped.manager.recorded 1 = some 0x114000 ∧ EmsLaw (countedOps clumsy) countedView mapped ∧
      poisoned.manager.poisoned = 1 ∧ EmsLaw (countedOps clumsy) countedView poisoned := by
  have lawful : Lawful (countedOps clumsy) countedView := ⟨shelfPages_lawful, countedFrame_lawful clumsy⟩
  have unused : countedView.live 1 countedOrigin.pages = ∅ := by simp [countedView, countedOrigin]
  have initialized : dosEmsInitialize (countedOps clumsy) 1 countedBinding 0 { pageFrameSegment := 0xe000 }
      countedOrigin = .ok () (countedStart clumsy) := rfl
  obtain ⟨history, run⟩ : ∃ history, Runs (interrupt (countedOps clumsy)) (fun _ _ => True) (countedStart clumsy)
      history _ := Runs.extend .start countedCalls
  obtain ⟨_, rest⟩ : ∃ history, Runs (interrupt (countedOps clumsy)) (fun _ _ => True) (countedStart clumsy)
      history _ := Runs.extend .start (countedCalls ++ [countedRelease])
  exact ⟨by decide +kernel, ems_tables_sound lawful unused rfl initialized run, by decide +kernel,
    ems_tables_sound lawful unused rfl initialized rest⟩

theorem failed_restore_hides_slot :
    Lawful (countedOps clumsy) countedView ∧
      (∀ context lease index address frame status next,
        (countedOps clumsy).frame.map context lease index address frame = .error status next → status = .fault) ∧
      (∀ context lease index frame status next,
        (countedOps clumsy).frame.unmap context lease index frame = .error status next → status = .fault) ∧
      dosEmsInitialize (countedOps clumsy) 1 countedBinding 0 { pageFrameSegment := 0xe000 } countedOrigin =
        .ok () (countedStart clumsy) ∧
      ∃ history world, Runs (interrupt (countedOps clumsy)) (fun _ _ => True) (countedStart clumsy) history world ∧
        window countedView world 0 = none ∧ world.manager.recorded 0 = some 0x110000 := by
  obtain ⟨history, run⟩ : ∃ history, Runs (interrupt (countedOps clumsy)) (fun _ _ => True) (countedStart clumsy)
      history _ := Runs.extend .start (countedCalls ++ [countedRelease])
  refine ⟨⟨shelfPages_lawful, countedFrame_lawful _⟩, ?_, ?_, rfl, history, _, run, by decide +kernel, by decide +kernel⟩
  · intro context lease index address frame status next failed
    simp only [countedOps, countedFrame] at failed
    split at failed
    · cases failed
      rfl
    · cases failed
  · intro context lease index frame status next failed
    simp only [countedOps, countedFrame] at failed
    split at failed
    · cases failed
      rfl
    · cases failed

end EmsWorld

end DosC32
