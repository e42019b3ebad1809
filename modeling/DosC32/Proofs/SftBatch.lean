import Mathlib.Data.Fintype.BigOperators
import DosC32.Core.Run
import DosC32.Model.SftBatch

/-! # Balance of inheritance batches

The calls that succeeded are counted in the record of the adapter, and the entries of a batch say
which of them are still to be undone. Every step moves the two together.
-/

namespace DosC32.SftBatch

open Effect Function List

variable {σ : Type}

abbrev SftTrace := List (SftCall × SftAdapterStatus)

/-- The two things an entry takes. -/
inductive Resource where
  | reference
  | device

namespace Resource

def take : Resource → SftAction
  | .reference => .referenceAcquire
  | .device => .deviceOpen

def give : Resource → SftAction
  | .reference => .referenceRelease
  | .device => .deviceClose

def marked : Resource → BatchEntry → Bool
  | .reference, entry => entry.referenceAcquired
  | .device, entry => entry.deviceOpen

def mark : Resource → Bool → BatchEntry → BatchEntry
  | .reference, value, entry => { entry with referenceAcquired := value }
  | .device, value, entry => { entry with deviceOpen := value }

end Resource

variable (kind : Resource) (entries : List BatchEntry) (trace : SftTrace) (entries' : List BatchEntry) (trace' : SftTrace)
  {entries'' rest : List BatchEntry} {trace'' : SftTrace} {entry entry' : BatchEntry}

/-- The number of successful calls of a callback on a reference. -/
def taken (action : SftAction) (reference : ℕ) : ℕ := trace.count (.act action reference, .ok)

/-- What entries hold on a reference. -/
def heldBy (reference : ℕ) : ℕ :=
  entries.countP fun entry => kind.marked entry && entry.referenceHandle == reference

/-- Nothing is left to undo. -/
def Clear : Prop := ∀ entry ∈ entries, entry.referenceAcquired = false ∧ entry.deviceOpen = false

/-- What was taken, not given back, and is not held by the entries. -/
def debt (reference : ℕ) : ℤ :=
  taken trace kind.take reference - taken trace kind.give reference - heldBy kind entries reference

/-- The entries and the calls of a state move together. -/
structure Balanced : Prop where
  same : ∀ kind reference, debt kind entries' trace' reference = debt kind entries trace reference
  grows : trace <:+ trace'

/-- Where a device may be closed: right after the release of its reference, or after its acquisition failed. -/
def MayClose (reference : ℕ) : Prop :=
  trace.head? = some (.act .referenceRelease reference, .ok) ∨
    ∃ status, status ≠ .ok ∧ trace.head? = some (.act .referenceAcquire reference, status)

/-- Every device was closed where it may be. -/
def CloseOrder : SftTrace → Prop
  | [] => True
  | (.act .deviceClose reference, _) :: rest => MayClose rest reference ∧ CloseOrder rest
  | _ :: rest => CloseOrder rest

/-- Every open device has a reference. -/
def Acquired : Prop :=
  ∀ entry ∈ entries, entry.deviceOpen = true → entry.referenceAcquired = true

/-- Only an entry whose acquisition has just failed has an open device without a reference. -/
def Undoable : List BatchEntry → Prop
  | [] => True
  | entry :: rest => (entry.deviceOpen = true → entry.referenceAcquired = false → MayClose trace entry.referenceHandle) ∧
    Acquired rest

theorem taken_lookup (action : SftAction) (reference : ℕ) (sfn : UInt8) (view : SftView) (status : SftAdapterStatus) :
    taken ((.lookup sfn view, status) :: trace) action reference = taken trace action reference := by
  simp [taken]

theorem taken_act (made action : SftAction) (named reference : ℕ) (status : SftAdapterStatus) :
    taken ((.act made named, status) :: trace) action reference =
      taken trace action reference + if made = action ∧ named = reference ∧ status = .ok then 1 else 0 := by
  unfold taken
  rw [count_cons]
  congr 1
  by_cases same : made = action ∧ named = reference ∧ status = .ok
  · obtain ⟨rfl, rfl, rfl⟩ := same
    simp
  · rw [if_neg same, if_neg]
    simp only [beq_iff_eq, Prod.mk.injEq, SftCall.act.injEq]
    tauto

theorem heldBy_cons (entry : BatchEntry) (rest : List BatchEntry) (reference : ℕ) :
    heldBy kind (entry :: rest) reference =
      heldBy kind rest reference + if kind.marked entry = true ∧ entry.referenceHandle = reference then 1 else 0 := by
  simp [heldBy, countP_cons]

@[simp] theorem heldBy_nil (reference : ℕ) : heldBy kind [] reference = 0 := rfl

theorem Balanced.refl : Balanced entries trace entries trace :=
  ⟨fun _ _ => rfl, suffix_refl _⟩

variable {entries trace entries' trace'}

theorem Clear.held (clear : Clear entries) (kind : Resource) (reference : ℕ) : heldBy kind entries reference = 0 := by
  apply countP_eq_zero.mpr
  intro entry member
  cases kind
  · simp [Resource.marked, (clear entry member).1]
  · simp [Resource.marked, (clear entry member).2]

theorem Balanced.trans (first : Balanced entries trace entries' trace')
    (second : Balanced entries' trace' entries'' trace'') :
    Balanced entries trace entries'' trace'' :=
  ⟨fun kind reference => (second.same kind reference).trans (first.same kind reference), first.grows.trans second.grows⟩

/-- Another entry does not matter. -/
theorem Balanced.cons (balanced : Balanced entries trace entries' trace') (entry : BatchEntry) :
    Balanced (entry :: entries) trace (entry :: entries') trace' := by
  refine ⟨fun kind reference => ?_, balanced.grows⟩
  have before := balanced.same kind reference
  unfold debt at before ⊢
  rw [heldBy_cons, heldBy_cons]
  omega

/-- Entries with nothing to undo may be dropped. -/
theorem Balanced.clear (balanced : Balanced entries trace entries' trace') (clear : Clear entries') :
    Balanced entries trace [] trace' := by
  refine ⟨fun kind reference => ?_, balanced.grows⟩
  have moved := balanced.same kind reference
  unfold debt at moved ⊢
  rwa [clear.held, ← heldBy_nil kind reference] at moved

/-- A new entry holds nothing. -/
theorem balanced_record (reference : ℕ) (sfn : UInt8) (entries : List BatchEntry) (trace : SftTrace) :
    Balanced entries trace (⟨reference, sfn, false, false⟩ :: entries) trace := by
  refine ⟨fun kind other => ?_, suffix_refl _⟩
  unfold debt
  rw [heldBy_cons]
  cases kind <;> simp [Resource.marked]

/-- A call that is refused changes nothing. -/
theorem balanced_refused {status : SftAdapterStatus} (refused : status ≠ .ok) (action : SftAction) (reference : ℕ)
    (entries : List BatchEntry) (trace : SftTrace) :
    Balanced entries trace entries ((.act action reference, status) :: trace) := by
  refine ⟨fun kind other => ?_, suffix_cons _ _⟩
  unfold debt
  simp only [taken_act, refused, and_false, if_false, Nat.add_zero]

/-- A resource is taken for an entry that misses it, or given back by one that has it. -/
theorem balanced_move (taking : Bool) (apart : kind.marked entry = !taking) (rest : List BatchEntry) (trace : SftTrace) :
    Balanced (entry :: rest) trace (kind.mark taking entry :: rest)
      ((.act (bif taking then kind.take else kind.give) entry.referenceHandle, .ok) :: trace) := by
  refine ⟨fun other reference => ?_, suffix_cons _ _⟩
  unfold debt
  simp only [taken_act, heldBy_cons]
  cases taking <;> cases kind <;> cases other <;>
    simp_all [Resource.take, Resource.give, Resource.mark, Resource.marked]
  all_goals first | omega | rfl

theorem closeOrder_act (order : CloseOrder trace) {action : SftAction} (other : action ≠ .deviceClose) (reference : ℕ)
    (status : SftAdapterStatus) : CloseOrder ((.act action reference, status) :: trace) := by
  cases action with
  | deviceClose => exact absurd rfl other
  | deviceOpen | referenceAcquire | referenceRelease => exact order

theorem Acquired.undoable (acquired : Acquired entries) (trace : SftTrace) : Undoable trace entries := by
  cases entries with
  | nil => trivial
  | cons entry rest =>
    obtain ⟨first, others⟩ := forall_mem_cons.mp acquired
    refine ⟨fun isOpen missing => ?_, others⟩
    rw [first isOpen] at missing
    cases missing

variable (entries rest entry) (world : SftWorld σ) (result : BatchEntry × Bool) (next : SftWorld σ)

/-- What the first half of a round does. -/
structure Released : Prop where
  balanced : Balanced (entry :: rest) world.trace (result.1 :: rest) next.trace
  same : result.1 = { entry with referenceAcquired := result.1.referenceAcquired }
  order : CloseOrder world.trace → CloseOrder next.trace
  gone : result.2 = true → result.1.referenceAcquired = false
  may : (entry.referenceAcquired = false → MayClose world.trace entry.referenceHandle) →
    result.1.referenceAcquired = false → MayClose next.trace entry.referenceHandle

/-- What the second half of a round does. -/
structure Closed : Prop where
  balanced : Balanced (entry :: rest) world.trace (result.1 :: rest) next.trace
  same : result.1 = { entry with deviceOpen := result.1.deviceOpen }
  order : CloseOrder world.trace → CloseOrder next.trace
  shut : result.2 = true → entry.referenceAcquired = false → result.1.deviceOpen = false

/-- What an unwind does. -/
structure Unwound (result : List BatchEntry × Bool) (next : SftWorld σ) : Prop where
  balanced : Balanced entries world.trace result.1 next.trace
  order : CloseOrder world.trace → CloseOrder next.trace
  clear : result.2 = true → Clear result.1

variable {entries rest entry world} {ε : Type} {ops : SftBatchOps σ} {context : ℕ} {failed : ε → SftWorld σ → Prop}

@[simp] theorem wp_lookupSft (sfn : UInt8) {done : SftAdapterStatus × SftView → SftWorld σ → Prop} :
    wp (lookupSft ops context sfn) world done failed ↔
      done (ops.lookup context sfn world.adapter).1
        ⟨(ops.lookup context sfn world.adapter).2,
          (.lookup sfn (ops.lookup context sfn world.adapter).1.2, (ops.lookup context sfn world.adapter).1.1) ::
            world.trace⟩ := Iff.rfl

@[simp] theorem wp_actOnSft (action : SftAction) (reference : ℕ) {done : SftAdapterStatus → SftWorld σ → Prop} :
    wp (actOnSft ops context action reference) world done failed ↔
      done (ops.act action context reference world.adapter).1
        ⟨(ops.act action context reference world.adapter).2,
          (.act action reference, (ops.act action context reference world.adapter).1) :: world.trace⟩ := Iff.rfl

theorem releaseEntry_spec (rest : List BatchEntry) (entry : BatchEntry) :
    wp (releaseEntry ops context entry : EStateM ε (SftWorld σ) _) world
      (fun result next => Released rest entry world result next) (fun _ _ => False) := by
  simp only [releaseEntry, wp_split, wp_actOnSft]
  generalize ops.act .referenceRelease context entry.referenceHandle world.adapter = answer
  obtain ⟨status, adapter⟩ := answer
  have ordered : CloseOrder world.trace →
      CloseOrder ((.act .referenceRelease entry.referenceHandle, status) :: world.trace) :=
    fun order => closeOrder_act order (by decide) _ _
  refine ⟨fun acquired => ⟨fun released => ?_, fun refused => ?_⟩, fun missing => ?_⟩
  · dsimp only at released ⊢
    subst released
    exact ⟨balanced_move .reference false acquired rest _, rfl, ordered, fun _ => rfl, fun _ _ => .inl rfl⟩
  · refine ⟨balanced_refused refused _ _ _ _, rfl, ordered, by simp, fun _ missing => ?_⟩
    rw [acquired] at missing
    cases missing
  · rw [Bool.not_eq_true] at missing
    exact ⟨.refl _ _, rfl, id, fun _ => missing, fun may _ => may missing⟩

theorem closeEntry_spec (rest : List BatchEntry) (entry : BatchEntry)
    (may : entry.referenceAcquired = false → entry.deviceOpen = true → MayClose world.trace entry.referenceHandle) :
    wp (closeEntry ops context entry : EStateM ε (SftWorld σ) _) world
      (fun result next => Closed rest entry world result next) (fun _ _ => False) := by
  simp only [closeEntry, wp_split, wp_actOnSft]
  generalize ops.act .deviceClose context entry.referenceHandle world.adapter = answer
  obtain ⟨status, adapter⟩ := answer
  refine ⟨fun closes => ⟨fun closed => ?_, fun refused => ?_⟩, fun stays => ?_⟩
  · dsimp only at closed ⊢
    subst closed
    exact ⟨balanced_move .device false closes.2 rest _, rfl, fun order => ⟨may closes.1 closes.2, order⟩, fun _ _ => rfl⟩
  · exact ⟨balanced_refused refused _ _ _ _, rfl, fun order => ⟨may closes.1 closes.2, order⟩, by simp⟩
  · refine ⟨.refl _ _, rfl, id, fun _ missing => ?_⟩
    exact Bool.eq_false_of_not_eq_true fun isOpen => stays ⟨missing, isOpen⟩

theorem unwindEntries_spec (entries : List BatchEntry) (undoable : Undoable world.trace entries) :
    wp (unwindEntries ops context entries : EStateM ε (SftWorld σ) _) world
      (fun result next => Unwound entries world result next)
      (fun _ _ => False) := by
  induction entries generalizing world with
  | nil =>
    simp only [unwindEntries, wp_pure]
    exact ⟨.refl _ _, id, by simp [Clear]⟩
  | cons entry rest ih =>
    simp only [unwindEntries, wp_rules]
    apply wp_mono_done (releaseEntry_spec rest entry)
    rintro released middle ⟨balanced, same, order, gone, may⟩
    have allowed : released.1.referenceAcquired = false → released.1.deviceOpen = true →
        MayClose middle.trace released.1.referenceHandle := by
      intro missing isOpen
      rw [same] at isOpen ⊢
      exact may (undoable.1 isOpen) missing
    apply wp_mono_done (closeEntry_spec rest released.1 allowed)
    rintro closed last ⟨balanced', same', order', shut⟩
    apply wp_mono_done (ih (undoable.2.undoable _))
    rintro others final unwound
    refine ⟨(balanced.trans balanced').trans (unwound.balanced.cons closed.1),
      fun before => unwound.order (order' (order before)), fun clean => ?_⟩
    simp only [Bool.and_eq_true] at clean
    obtain ⟨⟨first, second⟩, third⟩ := clean
    have missing := gone first
    refine forall_mem_cons.mpr ⟨⟨?_, shut second missing⟩, unwound.clear third⟩
    rw [same']
    exact missing

variable (base : SftTrace) {initial slot : BatchSlot} (handled : List (Fin jftEntries))
  (state : BatchSlot × SftWorld σ) {failed : Unit → BatchSlot × SftWorld σ → Prop}

@[simp] theorem wp_onWorld {α : Type} (action : EStateM Unit (SftWorld σ) α) {done : α → BatchSlot × SftWorld σ → Prop} :
    wp (onWorld action) (slot, world) done failed ↔
      wp action world (fun value next => done value (slot, next)) (fun error next => failed error (slot, next)) := by
  simp only [onWorld, wp_focus]

@[simp] theorem wp_changeSlot (change : BatchSlot → BatchSlot) {done : Unit → BatchSlot × SftWorld σ → Prop} :
    wp (changeSlot change) (slot, world) done failed ↔ done () (change slot, world) := by
  simp only [changeSlot, wp_modify]

/-- An entry holds its reference, and its device is open just when the view it was found with is not on a network. -/
structure Holds (trace : SftTrace) (entry : BatchEntry) : Prop where
  acquired : entry.referenceAcquired = true
  found : ∃ view : SftView, (SftCall.lookup entry.sfn view, SftAdapterStatus.ok) ∈ trace ∧
    view.referenceHandle = entry.referenceHandle ∧ entry.deviceOpen = isLocal view.flags

theorem Holds.mono (holds : Holds trace entry) (grows : trace <:+ trace') : Holds trace' entry := by
  obtain ⟨acquired, view, member, handle, isOpen⟩ := holds
  exact ⟨acquired, view, grows.subset member, handle, isOpen⟩

/-- A preparation after some entries of the parent's table: `rest` are the entries it holds. -/
structure Preparing (rest : List BatchEntry) (state : BatchSlot × SftWorld σ) : Prop where
  balanced : Balanced [] base state.1.entries state.2.trace
  order : CloseOrder base → CloseOrder state.2.trace
  holds : ∀ entry ∈ rest, Holds state.2.trace entry
  child : rest.reverse.map BatchEntry.sfn = (handled.map state.1.childJft).filter (· ≠ jftEntryUnused)
  unused : ∀ index, index ∉ handled → state.1.childJft index = jftEntryUnused

/-- A preparation that is about to be undone. -/
structure Failing : Prop where
  balanced : Balanced [] base state.1.entries state.2.trace
  undoable : Undoable state.2.trace state.1.entries
  order : CloseOrder base → CloseOrder state.2.trace

/-- The newest entry, with its reference still to be acquired. -/
structure Opening (rest : List BatchEntry) (entry : BatchEntry) (world : SftWorld σ) (state : BatchSlot × SftWorld σ) :
    Prop where
  entries : state.1.entries = entry :: rest
  grows : world.trace <:+ state.2.trace
  preparing : Preparing base handled rest state

variable {base handled state}

theorem Preparing.failing (preparing : Preparing base handled rest state)
    (undoable : Undoable state.2.trace state.1.entries) :
    Failing base state := ⟨preparing.balanced, undoable, preparing.order⟩

theorem Preparing.acquired (preparing : Preparing base handled rest state) : Acquired rest :=
  fun entry member _ => (preparing.holds entry member).acquired

variable (preparing : Preparing base handled rest (slot, world))
include preparing

/-- A step that leaves the child's table alone. -/
theorem Preparing.move (slot' : BatchSlot) (world' : SftWorld σ)
    (table : slot'.childJft = slot.childJft) (balanced : Balanced slot.entries world.trace slot'.entries world'.trace)
    (order : CloseOrder world.trace → CloseOrder world'.trace) : Preparing base handled rest (slot', world') := by
  refine ⟨preparing.balanced.trans balanced, fun before => order (preparing.order before),
    fun entry member => (preparing.holds entry member).mono balanced.grows, ?_, fun index absent => ?_⟩
  · rw [preparing.child]
    dsimp only
    rw [table]
  · dsimp only
    rw [table]
    exact preparing.unused index absent

/-- A call that does not close a device. -/
theorem Preparing.act (slot' : BatchSlot) (adapter : σ)
    (action : SftAction) (reference : ℕ) (status : SftAdapterStatus) (other : action ≠ .deviceClose)
    (table : slot'.childJft = slot.childJft)
    (balanced : Balanced slot.entries world.trace slot'.entries ((.act action reference, status) :: world.trace)) :
    Preparing base handled rest (slot', ⟨adapter, (.act action reference, status) :: world.trace⟩) :=
  preparing.move slot' _ table balanced fun order => closeOrder_act order other _ _

omit preparing

/-- An entry is skipped. -/
theorem Preparing.skip (preparing : Preparing base handled rest state) {index : Fin jftEntries} (fresh : index ∉ handled) :
    Preparing base (handled ++ [index]) rest state := by
  obtain ⟨balanced, order, holds, child, unused⟩ := preparing
  refine ⟨balanced, order, holds, ?_, fun other absent => unused other fun member => ?_⟩
  · rw [child, map_append, filter_append, map_singleton, unused index fresh]
    simp
  · exact absent (mem_append_left _ member)

include preparing in
/-- An entry that holds its reference is entered into the child's table. -/
theorem Preparing.enter {index : Fin jftEntries}
    (fresh : index ∉ handled) (entry : BatchEntry) (named : entry.sfn ≠ jftEntryUnused)
    (holds : Holds world.trace entry) (count : ℕ) : Preparing base (handled ++ [index]) (entry :: rest)
      ({ slot with childJft := update slot.childJft index entry.sfn, inheritedCount := count }, world) := by
  obtain ⟨balanced, order, held, child, unused⟩ := preparing
  refine ⟨balanced, order, forall_mem_cons.mpr ⟨holds, held⟩, ?_, fun other absent => ?_⟩
  · have elsewhere : handled.map (update slot.childJft index entry.sfn) = handled.map slot.childJft := by
      apply map_congr_left
      intro other member
      apply update_of_ne
      rintro rfl
      exact fresh member
    simp only [reverse_cons, map_append, filter_append, elsewhere, child, map_singleton, update_self]
    simp [named]
  · have different : other ≠ index := by
      rintro rfl
      exact absent (mem_append_right _ (mem_singleton_self _))
    dsimp only
    rw [update_of_ne different]
    exact unused other fun member => absent (mem_append_left _ member)

variable {parentJft : Fin jftEntries → UInt8}

/-- The device of the newest entry is opened, or the preparation fails. -/
theorem openDevice_spec {view : SftView} {sfn : UInt8}
    (opening : Opening base handled rest ⟨view.referenceHandle, sfn, false, false⟩ world (slot, world)) :
    wp (openDevice ops context view) (slot, world)
      (fun _ => Opening base handled rest ⟨view.referenceHandle, sfn, isLocal view.flags, false⟩ world)
      (fun _ => Failing base) := by
  obtain ⟨entries, -, preparing⟩ := opening
  dsimp only at entries
  simp only [openDevice, wp_split, wp_onWorld, wp_actOnSft, wp_changeSlot]
  generalize ops.act .deviceOpen context view.referenceHandle world.adapter = answer
  obtain ⟨status, adapter⟩ := answer
  refine ⟨fun isTrue => ⟨fun refused => ?_, fun opened => ?_⟩, fun network => ?_⟩
  · apply (preparing.act slot adapter _ _ _ (by decide) rfl (balanced_refused refused .deviceOpen _ _ _)).failing
    dsimp only
    rw [entries]
    exact ⟨by simp, preparing.acquired⟩
  · rw [not_not] at opened
    dsimp only at opened
    subst opened
    rw [isTrue]
    refine ⟨?_, suffix_cons _ _, preparing.act _ adapter _ _ _ (by decide) rfl ?_⟩
    · simp only [markEntry, entries, modifyHead_cons]
    · simp only [markEntry, entries, modifyHead_cons]
      exact balanced_move .device true rfl rest _
  · rw [Bool.eq_false_of_not_eq_true network]
    exact ⟨entries, suffix_refl _, preparing⟩

/-- An inheritable entry is taken over, or the preparation fails. -/
theorem inheritEntry_spec (preparing : Preparing base handled slot.entries (slot, world)) {index : Fin jftEntries}
    (fresh : index ∉ handled) {sfn : UInt8} (named : sfn ≠ jftEntryUnused) {view : SftView}
    (found : (SftCall.lookup sfn view, SftAdapterStatus.ok) ∈ world.trace) :
    wp (inheritEntry ops context index sfn view) (slot, world)
      (fun _ next => Preparing base (handled ++ [index]) next.1.entries next) (fun _ => Failing base) := by
  simp only [inheritEntry, wp_bind, wp_changeSlot]
  have recorded := preparing.move { slot with entries := ⟨view.referenceHandle, sfn, false, false⟩ :: slot.entries } world
    rfl (balanced_record view.referenceHandle sfn slot.entries world.trace) id
  apply wp_mono_done (openDevice_spec ⟨rfl, suffix_refl _, recorded⟩)
  rintro _ ⟨slot', world'⟩ ⟨entries, grows, preparing⟩
  dsimp only at entries grows
  simp only [wp_onWorld, wp_actOnSft, wp_failWhen, wp_changeSlot]
  generalize ops.act .referenceAcquire context view.referenceHandle world'.adapter = answer
  obtain ⟨status, adapter⟩ := answer
  refine ⟨fun refused => ?_, fun taken => ?_⟩
  · apply (preparing.act slot' adapter _ _ _ (by decide) rfl (balanced_refused refused .referenceAcquire _ _ _)).failing
    dsimp only
    rw [entries]
    exact ⟨fun _ _ => .inr ⟨status, refused, rfl⟩, preparing.acquired⟩
  · rw [not_not] at taken
    dsimp only at taken
    subst taken
    set entry : BatchEntry := ⟨view.referenceHandle, sfn, isLocal view.flags, false⟩
    have balanced : Balanced slot'.entries world'.trace ({ entry with referenceAcquired := true } :: slot.entries)
        ((.act .referenceAcquire view.referenceHandle, .ok) :: world'.trace) := by
      rw [entries]
      exact balanced_move .reference true rfl slot.entries world'.trace
    have entered := (preparing.act { slot' with entries := { entry with referenceAcquired := true } :: slot.entries } adapter
      .referenceAcquire view.referenceHandle .ok (by decide) rfl balanced).enter fresh
        { entry with referenceAcquired := true }
      named ⟨rfl, view, mem_cons_of_mem _ (grows.subset found), rfl, rfl⟩ (slot'.inheritedCount + 1)
    simpa only [markEntry, entries, modifyHead_cons] using entered

theorem prepareEntry_spec (preparing : Preparing base handled state.1.entries state) {index : Fin jftEntries}
    (fresh : index ∉ handled) :
    wp (prepareEntry ops context parentJft index) state
      (fun _ next => Preparing base (handled ++ [index]) next.1.entries next) (fun _ => Failing base) := by
  obtain ⟨slot, world⟩ := state
  simp only [prepareEntry, wp_split, wp_onWorld, wp_lookupSft]
  have looked := preparing.move slot ⟨(ops.lookup context (parentJft index) world.adapter).2, _⟩ rfl
    ⟨fun kind reference => by rw [debt, debt, taken_lookup, taken_lookup], suffix_cons (.lookup (parentJft index)
      (ops.lookup context (parentJft index) world.adapter).1.2,
        (ops.lookup context (parentJft index) world.adapter).1.1) _⟩ id
  refine ⟨fun _ => preparing.skip fresh, fun named => ⟨fun _ => looked.skip fresh,
    fun _ => ⟨fun _ => looked.failing (looked.acquired.undoable _), fun found => ⟨fun _ => ?_, fun _ => looked.skip fresh⟩⟩⟩⟩
  obtain ⟨answered, -⟩ := not_or.mp found
  rw [not_not] at answered
  apply inheritEntry_spec looked fresh named
  rw [answered]
  exact mem_cons_self

theorem prepareEntries_spec (list : List (Fin jftEntries)) (distinct : (handled ++ list).Nodup)
    (preparing : Preparing base handled state.1.entries state) :
    wp (prepareEntries ops context parentJft list) state
      (fun _ next => Preparing base (handled ++ list) next.1.entries next) (fun _ => Failing base) := by
  induction list generalizing handled state with
  | nil =>
    rw [append_nil]
    exact preparing
  | cons index rest ih =>
    simp only [prepareEntries, wp_bind]
    have fresh : index ∉ handled := fun member =>
      disjoint_of_nodup_append distinct member mem_cons_self
    have regroup : handled ++ index :: rest = handled ++ [index] ++ rest := by
      rw [append_assoc, singleton_append]
    rw [regroup] at distinct ⊢
    exact wp_mono_done (prepareEntry_spec preparing fresh) fun _ next preparing' => ih distinct preparing'

variable (trace slot) {handle : ℕ} {retired : List BatchSlot} {state next : SftBatches σ} {index : Fin batchMaximum}

/-- Every entry holds its reference, and the child's table names the entries in order. -/
structure Inherited : Prop where
  acquired : ∀ entry ∈ slot.entries, Holds trace entry
  child : slot.entries.reverse.map BatchEntry.sfn =
    ((finRange jftEntries).map slot.childJft).filter (· ≠ jftEntryUnused)

/-- What a state of a batch says about its entries. -/
def Kept : BatchState → Prop
  | .free => slot.entries = []
  | .preparing => False
  | .prepared | .committed => Inherited trace slot
  | .aborted => Clear slot.entries
  | .poisoned => True

/-- A batch that was retired: what it inherited went to the child, or it was aborted. -/
def Retired : Prop :=
  slot.state = .committed ∧ Inherited trace slot ∨ slot.state = .aborted ∧ Clear slot.entries

variable {trace slot}

theorem Inherited.mono (inherited : Inherited trace slot) (grows : trace <:+ trace') : Inherited trace' slot :=
  ⟨fun entry member => (inherited.acquired entry member).mono grows, inherited.child⟩

theorem Kept.mono {state : BatchState} (kept : Kept trace slot state) (grows : trace <:+ trace') :
    Kept trace' slot state := by
  cases state with
  | prepared | committed => exact Inherited.mono kept grows
  | _ => exact kept

theorem Retired.mono (handed : Retired trace slot) (grows : trace <:+ trace') : Retired trace' slot := by
  rcases handed with ⟨committed, inherited⟩ | aborted
  · exact .inl ⟨committed, inherited.mono grows⟩
  · exact .inr aborted

/-- The calls that succeeded are held by batches or were retired with one. -/
structure Sound (retired : List BatchSlot) (state : SftBatches σ) : Prop where
  granted : ∀ kind reference, taken state.world.trace kind.take reference =
    taken state.world.trace kind.give reference + ∑ index, heldBy kind (state.slots index).entries reference +
      heldBy kind (retired.flatMap BatchSlot.entries) reference
  kept : ∀ index, Kept state.world.trace (state.slots index) (state.slots index).state
  retired : ∀ slot ∈ retired, Retired state.world.trace slot
  order : CloseOrder state.world.trace

theorem Sound.of_state (sound : Sound retired state) {current : BatchState}
    (isState : (state.slots index).state = current) : Kept state.world.trace (state.slots index) current := by
  rw [← isState]
  exact sound.kept index

theorem sum_update (slots : Fin batchMaximum → BatchSlot) (index : Fin batchMaximum) (slot : BatchSlot)
    (count : BatchSlot → ℕ) :
    ∑ other, count (update slots index slot other) + count (slots index) =
      ∑ other, count (slots other) + count slot := by
  rw [← Finset.add_sum_erase _ _ (Finset.mem_univ index),
    ← Finset.add_sum_erase _ (fun other => count (slots other)) (Finset.mem_univ index), update_self]
  have rest : ∑ other ∈ Finset.univ.erase index, count (update slots index slot other) =
      ∑ other ∈ Finset.univ.erase index, count (slots other) := by
    apply Finset.sum_congr rfl
    intro other member
    rw [update_of_ne (Finset.ne_of_mem_erase member)]
  rw [rest]
  omega

theorem kept_update (sound : Sound retired state) (grows : state.world.trace <:+ world.trace)
    (kept : Kept world.trace slot slot.state) (other : Fin batchMaximum) :
    Kept world.trace (update state.slots index slot other) (update state.slots index slot other).state := by
  by_cases same : other = index
  · rw [same, update_self]
    exact kept
  · rw [update_of_ne same]
    exact (sound.kept other).mono grows

/-- One slot and the calls move together. -/
theorem Sound.move (sound : Sound retired state)
    (balanced : Balanced (state.slots index).entries state.world.trace slot.entries world.trace)
    (kept : Kept world.trace slot slot.state) (order : CloseOrder world.trace) :
    Sound retired ⟨update state.slots index slot, world⟩ := by
  refine ⟨fun kind reference => ?_, kept_update sound balanced.grows kept,
    fun slot member => (sound.retired slot member).mono balanced.grows, order⟩
  have before := sound.granted kind reference
  have moved := balanced.same kind reference
  have total := sum_update state.slots index slot fun slot => heldBy kind slot.entries reference
  unfold debt at moved
  dsimp only
  omega

variable {failed : SftBatchError → SftBatches σ → Prop}

@[simp] theorem wp_setSlot (change : BatchSlot → BatchSlot) {done : Unit → SftBatches σ → Prop} :
    wp (setSlot index change) state done failed ↔
      done () { state with slots := update state.slots index (change (state.slots index)) } := by
  simp only [setSlot, wp_modify]

@[simp] theorem wp_onSlot {α : Type} (action : PrepareM σ α) {done : Except Unit α → SftBatches σ → Prop} :
    wp (onSlot index action) state done failed ↔
      wp action (state.slots index, state.world)
        (fun value part => done (.ok value) ⟨update state.slots index part.1, part.2⟩)
        (fun error part => done (.error error) ⟨update state.slots index part.1, part.2⟩) := by
  simp only [onSlot, wp_attempt, wp_focus]

/-- The unwind of a slot. -/
theorem unwindSlot_spec (undoable : Undoable state.world.trace (state.slots index).entries) :
    wp (unwindSlot ops context index) state
      (fun clean next => ∃ entries world, Unwound (state.slots index).entries state.world (entries, clean) world ∧
        next = ⟨update state.slots index { state.slots index with entries }, world⟩)
      (fun _ _ => False) := by
  simp only [unwindSlot, wp_rules, wp_setSlot]
  apply wp_mono_done (unwindEntries_spec _ undoable)
  rintro ⟨entries, clean⟩ world unwound
  exact ⟨entries, world, unwound, rfl⟩

variable (sound : Sound retired state)
include sound

/-- A preparation that failed is undone, or its batch is poisoned. -/
theorem failPrepare_spec (empty : (state.slots index).entries = [])
    (failing : Failing state.world.trace (slot, world)) :
    wp (failPrepare ops context index handle) ⟨update state.slots index slot, world⟩ (fun _ _ => False)
      (fun error next => Sound retired next ∧
        (error = .adapterFault ∧ Balanced [] state.world.trace [] next.world.trace ∨ error = .poisoned handle)) := by
  obtain ⟨balanced, undoable, order⟩ := failing
  have self : (SftBatches.mk (update state.slots index slot) world).slots index = slot := update_self _ _ _
  rw [← empty] at balanced
  simp only [failPrepare, wp_split, wp_setSlot]
  apply wp_returns (unwindSlot_spec (by rw [self]; exact undoable))
  rintro clean _ ⟨entries, last, unwound, rfl⟩
  rw [self] at unwound
  have moved := balanced.trans unwound.balanced
  have ordered := unwound.order (order sound.order)
  simp only [update_idem, update_self]
  refine ⟨fun isClean => ?_, fun _ => ?_⟩
  · have cleared := moved.clear (unwound.clear isClean)
    refine ⟨sound.move cleared rfl ordered, .inl ⟨trivial, ?_⟩⟩
    rwa [empty] at cleared
  · exact ⟨sound.move moved trivial ordered, .inr trivial⟩

/-- What a preparation does. -/
theorem prepare_spec (parentJft : Fin jftEntries → UInt8) :
    wp (prepare ops context parentJft) state (fun _ => Sound retired)
      (fun error next => Sound retired next ∧
        ((∀ handle, error ≠ .poisoned handle) → Balanced [] state.world.trace [] next.world.trace)) := by
  simp only [prepare, wp_rules, wp_setSlot, wp_onSlot]
  refine ⟨fun _ => ⟨sound, fun _ => .refl _ _⟩, fun _ => ⟨fun index found => ?_, fun _ => ⟨sound, fun _ => .refl _ _⟩⟩⟩
  have matched := find?_some found
  simp only [Bool.and_eq_true, decide_eq_true_eq] at matched
  have empty : (state.slots index).entries = [] := sound.of_state matched.1
  rw [update_self]
  set initial := initializeSlot context ops.identity ((state.slots index).generation + 1)
  have start : Preparing state.world.trace [] initial.entries (initial, state.world) :=
    ⟨.refl _ _, id, by simp [initial, initializeSlot], rfl, fun _ _ => rfl⟩
  apply wp_mono (prepareEntries_spec _ (by rw [nil_append]; exact nodup_finRange _) start)
  · rintro _ ⟨slot, world⟩ ⟨balanced, order, holds, child, -⟩
    simp only [settlePrepare, wp_rules, wp_setSlot, update_idem, update_self]
    rw [← empty] at balanced
    rw [nil_append] at child
    exact sound.move balanced ⟨holds, child⟩ (order sound.order)
  · rintro _ ⟨slot, world⟩ failing
    simp only [settlePrepare, update_idem]
    apply wp_fails (failPrepare_spec sound empty failing)
    rintro error next ⟨sound', undone⟩
    refine ⟨sound', fun other => ?_⟩
    rcases undone with ⟨-, balanced⟩ | rfl
    · exact balanced
    · exact absurd rfl (other _)

theorem commit_spec (handle : ℕ) : Leaves (commit handle) state (Sound retired) := by
  simp only [commit, preflightCommit, wp_split, wp_setSlot]
  refine ⟨fun index found => ⟨fun _ => sound, fun _ => ⟨fun other found' => ⟨fun _ => sound,
    fun _ => ⟨fun _ => sound, fun isPrepared => ?_⟩⟩, fun _ => sound⟩⟩, fun _ => sound⟩
  cases found.symm.trans found'
  have inherited : Inherited state.world.trace (state.slots index) := sound.of_state (not_not.mp isPrepared)
  exact sound.move (.refl _ _) ⟨inherited.acquired, inherited.child⟩ sound.order

/-- What an abort does. -/
theorem abort_spec (handle : ℕ) :
    wp (abort ops context handle) state
      (fun _ next => Sound retired next ∧ ∀ index, resolveHandle state.slots handle = some index →
        Clear (next.slots index).entries ∧ Balanced (state.slots index).entries state.world.trace [] next.world.trace)
      (fun _ => Sound retired) := by
  simp only [abort, wp_split]
  refine ⟨fun index found =>
    ⟨fun _ => sound, fun _ => ⟨fun _ => sound, fun _ => ⟨fun _ => sound, fun _ => ⟨fun isAborted => ?_,
    fun _ => ⟨fun _ => sound, fun isPrepared => ⟨fun _ => sound, fun _ => ?_⟩⟩⟩⟩⟩⟩, fun _ => sound⟩
  · have clear : Clear (state.slots index).entries := sound.of_state isAborted
    refine ⟨sound, fun other found' => ?_⟩
    cases found.symm.trans found'
    exact ⟨clear, (Balanced.refl _ _).clear clear⟩
  · have inherited : Inherited state.world.trace (state.slots index) := sound.of_state (not_not.mp isPrepared)
    have acquired : Acquired (state.slots index).entries := fun entry member _ => (inherited.acquired entry member).acquired
    apply wp_returns (unwindSlot_spec (acquired.undoable _))
    rintro clean _ ⟨entries, world, unwound, rfl⟩
    have ordered := unwound.order sound.order
    unfold settleAbort
    simp only [wp_split, wp_setSlot, update_idem, update_self]
    refine ⟨fun isClean => ?_, fun _ => sound.move unwound.balanced trivial ordered⟩
    have clear := unwound.clear isClean
    refine ⟨sound.move unwound.balanced clear ordered, fun other found' => ?_⟩
    cases found.symm.trans found'
    refine ⟨?_, unwound.balanced.clear clear⟩
    rw [update_self]
    exact clear

/-- What a retirement does. -/
theorem retire_spec (handle : ℕ) :
    wp (retire handle) state (fun slot next => Sound (slot :: retired) next) (fun _ => Sound retired) := by
  simp only [retire, preflightRetire, wp_rules, wp_setSlot]
  refine ⟨fun index _ => ⟨fun _ => sound, fun _ => ⟨fun _ => sound, fun finished => ?_⟩⟩, fun _ => sound⟩
  refine ⟨fun kind reference => ?_, kept_update sound (suffix_refl _) rfl,
    forall_mem_cons.mpr ⟨?_, sound.retired⟩, sound.order⟩
  · have before := sound.granted kind reference
    have total := sum_update state.slots index (recycleSlot (state.slots index))
      fun slot => heldBy kind slot.entries reference
    have empty : heldBy kind (recycleSlot (state.slots index)).entries reference = 0 := rfl
    have split : heldBy kind ((state.slots index :: retired).flatMap BatchSlot.entries) reference =
        heldBy kind (state.slots index).entries reference + heldBy kind (retired.flatMap BatchSlot.entries) reference := by
      rw [flatMap_cons]
      exact countP_append
    dsimp only
    omega
  · by_cases isAborted : (state.slots index).state = .aborted
    · exact .inr ⟨isAborted, sound.of_state isAborted⟩
    · have isCommitted : (state.slots index).state = .committed := by
        by_contra different
        exact finished ⟨isAborted, different⟩
      exact .inl ⟨isCommitted, sound.of_state isCommitted⟩

end DosC32.SftBatch
