import DosC32.Soundness.Transaction

/-! # Two transactions on one volume

The image a rollback puts back is the one read when the sector was staged. Between that moment and the
commit the other transaction may have committed the same sector, and nothing looks for such a conflict:
the rollback then undoes a committed write and reports the status of a clean rollback. The result below
says, for every interleaving, which failing commits leave all sectors as they were.
-/

namespace DosC32

open Effect Store Pool

/-- A call on the first or on the second of two open transactions. -/
inductive PairCall where
  | stage (second : Bool) (lba : ℕ) (image : Sector)
  | commit (second : Bool)

namespace Storage

variable {Driver : Type}

def pairCall (handles : Bool → ℕ) : PairCall → StorageM Driver Unit
  | .stage which lba image => iomgrTransactionStage (handles which) lba image
  | .commit which => iomgrTransactionCommit (handles which)

variable (storage : Storage Driver)

/-- A sector write that fails leaves its sector as it was. -/
def AtomicWrites : Prop :=
  ∀ handle device adapter call fault, storage.devices.registry handle = some device → device.writer = some adapter →
    adapter call = some fault → fault.residue = none

/-- Every sector whose write, like every earlier one, the schedule completes holds what it held at its staging. -/
def Undisturbed (slot : Transaction) : Prop :=
  ∀ device adapter, storage.devices.registry slot.binding.device = some device → device.writer = some adapter →
    ∀ position entry, slot.entries[position]? = some entry →
      (∀ earlier ≤ position, adapter (storage.devices.calls + earlier) = none) →
      device.sectors (physical slot.binding entry) = entry.before

variable {storage : Storage Driver} {handle : ℕ} {index : Fin 2} {place : Fin 32} {slot : Transaction}
    {device : BlockDevice}

/-- The forward loop rewrites the sectors that its schedule lets it rewrite. -/
theorem Forwarded.undisturbed_iff {adapter : ℕ → Option SectorWriteFault}
    (registered : storage.devices.registry slot.binding.device = some device) (writer : device.writer = some adapter)
    {written : ℕ} {sectors : ℕ → Sector} {calls : ℕ}
    (forwarded : Forwarded adapter slot.binding slot.entries device.sectors storage.devices.calls written sectors calls) :
    storage.Undisturbed slot ↔
      ∀ entry ∈ slot.entries.take written, entry.before = device.sectors (physical slot.binding entry) := by
  constructor
  · intro undisturbed entry member
    obtain ⟨position, found⟩ := List.mem_iff_getElem?.mp member
    rw [List.getElem?_take] at found
    split_ifs at found with below
    have completed := (forwarded.lt_iff (List.getElem?_eq_some_iff.mp found).1).mp below
    exact (undisturbed device adapter registered writer position entry found completed).symm
  · intro same device' adapter' registered' writer' position entry found completed
    cases registered.symm.trans registered'
    cases writer.symm.trans writer'
    have below := (forwarded.lt_iff (List.getElem?_eq_some_iff.mp found).1).mpr completed
    have member : (slot.entries.take written)[position]? = some entry := by rw [List.getElem?_take_of_lt below, found]
    exact (same entry (List.mem_of_getElem? member)).symm

/-- The media after a rollback are the earlier ones exactly when it put the content of its device back. -/
theorem media_restored (registered : storage.devices.registry slot.binding.device = some device)
    (sectors : ℕ → Sector) (calls : ℕ) :
    (∀ other lba, ((storage.withMedium slot.binding.device device sectors calls).settled index .free).medium other lba =
      storage.medium other lba) ↔ sectors = device.sectors := by
  have media (other lba : ℕ) :
      ((storage.withMedium slot.binding.device device sectors calls).settled index .free).medium other lba =
        if other = slot.binding.device then some (sectors lba) else storage.medium other lba :=
    medium_withMedium _ _ _ _ _ _ _
  constructor
  · intro kept
    funext lba
    have here := kept slot.binding.device lba
    rw [media, if_pos rfl, medium_of_registered _ _ registered] at here
    exact Option.some.inj here
  · rintro rfl other lba
    rw [media]
    split
    · next here => rw [here, medium_of_registered _ _ registered]
    · rfl

/-- A commit that fails with an I/O error changes no sector exactly when the sectors it rewrote were undisturbed. -/
theorem Staged.intact_iff (staged : storage.Staged handle index place slot) (atomic : storage.AtomicWrites) :
    wp (iomgrTransactionCommit handle) storage (fun _ _ => True)
      (fun status next => status = .ioError →
        ((∀ device lba, next.medium device lba = storage.medium device lba) ↔ storage.Undisturbed slot)) := by
  by_cases reachable : ∃ device adapter, storage.devices.registry slot.binding.device = some device ∧
      device.writer = some adapter
  · obtain ⟨device, adapter, registered, writer⟩ := reachable
    have present := staged.present_on registered
    apply wp_mono (iomgrTransactionCommit_spec staged.resolved staged.held staged.bound registered writer present)
    · exact fun _ _ _ => trivial
    · rintro status next ⟨written, sectors, calls, base, forwarded, start, undone⟩
      cases undone with
      | quarantined => simp
      | restored calls' rolls =>
        intro _
        -- With atomic writes the forward loop changes only the sectors it counts.
        have touched : AgreeOff (addresses slot.binding (slot.entries.take written)) sectors device.sectors := by
          cases forwarded with
          | complete =>
            rw [List.take_length]
            exact publish_agreeOff _ _ _
          | stopped entry fault _ _ fails =>
            rw [SectorWriteFault.leaves, atomic _ _ adapter _ fault registered writer fails, Option.getD_none,
              Function.update_eq_self]
            exact publish_agreeOff _ _ _
        have distinct : ((slot.entries.take written).map TransactionEntry.relativeLba).Nodup := by
          rw [List.map_take]
          exact staged.distinct.sublist (List.take_sublist _ _)
        rw [media_restored registered, restore_eq_iff touched distinct, forwarded.undisturbed_iff registered writer]
  · have unreached : ∀ lba, storage.devices.Unreached slot.binding.device lba := by
      intro lba device registered _
      cases writer : device.writer with
      | none => rfl
      | some adapter => exact absurd ⟨device, adapter, registered, writer⟩ reachable
    have forward := writeForward_unreached unreached slot.entries
    have undisturbed : storage.Undisturbed slot :=
      fun device adapter registered writer => absurd ⟨device, adapter, registered, writer⟩ reachable
    rw [wp_iomgrTransactionCommit staged.resolved staged.held staged.bound]
    apply wp_returns forward
    rintro _ _ ⟨rfl, same⟩
    obtain rfl := same.symm
    apply wp_mono (settleCommit_unwritten staged.bound index)
    · exact fun _ _ _ => trivial
    · rintro status _ ⟨calls, ⟨rfl, rfl⟩ | ⟨rfl, rfl⟩⟩
      · exact fun _ => iff_of_true (fun _ _ => rfl) undisturbed
      · simp

variable {volume : ℕ} {info : VolumeInfo}

/-- The devices are the same up to the content of their sectors. -/
def SameAdapters (storage next : Storage Driver) : Prop :=
  ∀ handle, ∃ sectors, next.devices.registry handle =
    (storage.devices.registry handle).map fun device => { device with sectors }

theorem SameAdapters.withMedium {base : Storage Driver} (same : base.SameAdapters storage)
    (registered : storage.devices.registry handle = some device) (sectors : ℕ → Sector) (calls : ℕ) :
    base.SameAdapters (storage.withMedium handle device sectors calls) := by
  intro other
  by_cases here : other = handle
  · subst here
    obtain ⟨earlier, content⟩ := same other
    refine ⟨sectors, ?_⟩
    rw [registered] at content
    obtain ⟨original, found, rfl⟩ := Option.map_eq_some_iff.mp content.symm
    simp [Storage.withMedium, Devices.withMedium, found]
  · obtain ⟨earlier, content⟩ := same other
    refine ⟨earlier, ?_⟩
    simpa [Storage.withMedium, Devices.withMedium, here] using content

/-- The volume is live, or it has been quarantined. -/
def Attached (storage : Storage Driver) (volume : ℕ) (place : Fin 32) (info : VolumeInfo) : Prop :=
  storage.Bound volume place info ∨ storage.Quarantined volume

theorem Attached.of_manager {next : Storage Driver} (attached : storage.Attached volume place info)
    (same : next.manager = storage.manager) : next.Attached volume place info := by
  rcases attached with bound | quarantined
  · exact .inl (bound.of_manager same)
  · unfold Quarantined at quarantined
    rw [← same] at quarantined
    exact .inr quarantined

theorem Attached.quarantine (attached : storage.Attached volume place info) (slot : Fin 32) :
    (storage.withVolumes (setState storage.manager.volumes slot .quarantined)).Attached volume place info := by
  rcases attached with bound | ⟨other, decoded, state⟩
  · by_cases here : place = slot
    · subst here
      exact .inr (bound.quarantined _ rfl)
    · refine .inl ⟨bound.ready, ?_, ?_, bound.reserved⟩
      · apply resolve_eq_ok.mpr
        simpa [withVolumes, setState, here] using resolve_eq_ok.mp bound.resolved
      · simpa [withVolumes, setState, here] using bound.reported
  · refine .inr ⟨other, ?_, ?_⟩
    · by_cases here : other = slot <;> simpa [withVolumes, setState, here] using decoded
    · by_cases here : other = slot <;> simp [withVolumes, setState, here, state]

/-- What no commit changes: the content of the transactions, the devices up to their sectors, and the volume up to
its quarantine. -/
structure Steady (base : Storage Driver) (volume : ℕ) (place : Fin 32) (info : VolumeInfo) (storage : Storage Driver) :
    Prop where
  generations : ∀ index, (storage.transactions index).generation = (base.transactions index).generation
  contents : ∀ index, (storage.transactions index).content = (base.transactions index).content
  adapters : base.SameAdapters storage
  attached : storage.Attached volume place info

theorem steady_commitSteps (base : Storage Driver) : CommitSteps (base.Steady volume place info) where
  write handle lba content storage steady := by
    rw [wp_transfer]
    apply wp_mono (Devices.blockDeviceWriteSector_spec _ _ _ _)
    · rintro _ _ ⟨device, adapter, registered, -, -, -, rfl⟩
      exact ⟨steady.generations, steady.contents, steady.adapters.withMedium registered _ _, steady.attached.of_manager rfl⟩
    · rintro _ _ (⟨-, rfl⟩ | ⟨device, adapter, fault, registered, -, -, -, rfl⟩)
      · exact steady
      · exact ⟨steady.generations, steady.contents, steady.adapters.withMedium registered _ _,
          steady.attached.of_manager rfl⟩
  flush handle storage steady := by
    rw [wp_transfer]
    apply wp_mono (Devices.blockDeviceFlush_spec _ _)
    all_goals
      rintro _ _ ⟨-, calls, rfl⟩
      exact { steady with attached := steady.attached.of_manager rfl }
  settle index state _ storage steady := by
    rw [setTransactionState, wp_modify]
    refine ⟨fun other => ?_, fun other => ?_, steady.adapters, steady.attached.of_manager rfl⟩
    · by_cases same : other = index
      · subst same
        simpa [withTransactions, setState] using steady.generations other
      · simpa [withTransactions, setState, same] using steady.generations other
    · by_cases same : other = index
      · subst same
        simpa [withTransactions, setState] using steady.contents other
      · simpa [withTransactions, setState, same] using steady.contents other
  quarantine other storage steady := by
    simp only [iomgrQuarantineVolume, requireInitialized, resolveVolume, setVolumeState, wp_rules, wp_resolveIn]
    refine ⟨fun _ => steady, fun ready => ⟨fun slot resolved => ?_, fun _ _ => steady⟩⟩
    refine ⟨steady.generations, steady.contents, steady.adapters, ?_⟩
    exact steady.attached.quarantine slot

/-- Two transactions begun on one volume, each of them open or finished. -/
structure Paired (handles : Bool → ℕ) (slots : Bool → Fin 2) (volume : ℕ) (place : Fin 32) (info : VolumeInfo)
    (storage : Storage Driver) : Prop where
  apart : slots false ≠ slots true
  named : ∀ which, decode 2 (handles which) = some (slots which, (storage.transactions (slots which)).generation)
  contents : ∀ which, ∃ entries, (storage.transactions (slots which)).content = ⟨volume, info, entries⟩ ∧
    (entries.map TransactionEntry.relativeLba).Nodup ∧
    ∀ entry ∈ entries, ∃ device, storage.devices.registry info.device = some device ∧
      physical info entry < 2 ^ 64 ∧ physical info entry < device.sectorCount
  atomic : storage.AtomicWrites
  attached : storage.Attached volume place info

variable {handles : Bool → ℕ} {slots : Bool → Fin 2} (paired : storage.Paired handles slots volume place info)
include paired

theorem Paired.held {which : Bool} (resolved : resolve storage.transactions (handles which) = .ok index) :
    ∃ entries, storage.Held (handles which) (slots which) ⟨volume, info, entries⟩ := by
  have same : index = slots which := by
    have both := (resolve_eq_ok.mp resolved).1.symm.trans (paired.named which)
    exact congrArg Prod.fst (Option.some.inj both)
  subst same
  obtain ⟨entries, content, distinct, present⟩ := paired.contents which
  exact ⟨entries, resolved, content, distinct, present⟩

theorem Paired.of_steady {next : Storage Driver}
    (steady : storage.Steady volume place info next) : next.Paired handles slots volume place info where
  apart := paired.apart
  named which := by
    rw [steady.generations]
    exact paired.named which
  contents which := by
    obtain ⟨entries, content, distinct, present⟩ := paired.contents which
    refine ⟨entries, (steady.contents _).trans content, distinct, fun entry member => ?_⟩
    obtain ⟨device, registered, fits, inside⟩ := present entry member
    obtain ⟨sectors, same⟩ := steady.adapters info.device
    exact ⟨{ device with sectors }, by rw [same, registered]; rfl, fits, inside⟩
  atomic handle device adapter call fault registered writer fails := by
    obtain ⟨sectors, same⟩ := steady.adapters handle
    rw [registered] at same
    obtain ⟨original, found, rfl⟩ := Option.map_eq_some_iff.mp same.symm
    exact paired.atomic handle original adapter call fault found writer fails
  attached := steady.attached

theorem Paired.idle (calls : ℕ) : (storage.idle calls).Paired handles slots volume place info :=
  { paired with attached := paired.attached.of_manager rfl }

theorem Paired.restaged (which : Bool) {entries : List TransactionEntry} {calls : ℕ}
    (live : (storage.restaged (slots which) ⟨volume, info, entries⟩ calls).Held (handles which) (slots which)
      ⟨volume, info, entries⟩) :
    (storage.restaged (slots which) ⟨volume, info, entries⟩ calls).Paired handles slots volume place info where
  apart := paired.apart
  named other := by
    by_cases same : slots other = slots which
    · simpa [Storage.restaged, same] using paired.named other
    · simpa [Storage.restaged, same] using paired.named other
  contents other := by
    by_cases same : slots other = slots which
    · exact ⟨entries, by rw [same]; exact live.held, live.distinct, live.present⟩
    · obtain ⟨entries', content, rest⟩ := paired.contents other
      exact ⟨entries', by simpa [Storage.restaged, same] using content, rest⟩
  atomic := paired.atomic
  attached := paired.attached.of_manager rfl

omit paired

/-- Every call of a run on the two transactions keeps them paired. -/
theorem preserves_pairCall (call : PairCall) :
    Preserves (Storage.Paired handles slots volume place info) (pairCall handles call : StorageM Driver Unit) := by
  intro storage paired
  cases call with
  | stage which lba image =>
    cases resolved : resolve storage.transactions (handles which) with
    | error refusal =>
      simp only [pairCall, iomgrTransactionStage, resolveTransaction, wp_bind, wp_resolveIn, resolved, reduceCtorEq,
        false_implies, implies_true, true_and]
      exact fun _ _ => paired
    | ok index =>
      obtain ⟨entries, live⟩ := paired.held resolved
      apply wp_mono (iomgrTransactionStage_spec live lba image)
      · rintro _ _ ⟨entries', calls, rfl, live', -⟩
        exact paired.restaged which live'
      · rintro _ _ ⟨calls, rfl⟩
        exact paired.idle calls
  | commit which =>
    have start : storage.Steady volume place info storage :=
      ⟨fun _ => rfl, fun _ => rfl, fun handle => ?_, paired.attached⟩
    · apply Leaves.mono (preserves_iomgrTransactionCommit (steady_commitSteps storage) (handles which) storage start)
      exact fun _ steady => paired.of_steady steady
    · cases registered : storage.devices.registry handle with
      | none => exact ⟨fun _ => .zero, rfl⟩
      | some device => exact ⟨device.sectors, rfl⟩

theorem Bound.unique {place' : Fin 32} {info' : VolumeInfo} (bound : storage.Bound volume place info)
    (again : storage.Bound volume place' info') : place = place' ∧ info = info' := by
  cases bound.resolved.symm.trans again.resolved
  exact ⟨rfl, bound.reported.symm.trans again.reported⟩

/-- The handles of two transactions. -/
def handlesOf (first second : ℕ) (which : Bool) : ℕ := bif which then second else first

/-- Two transactions begun one after the other are paired. -/
theorem paired_of_begun {first second : ℕ} {start one two : Storage Driver} (atomic : start.AtomicWrites)
    (begun : iomgrTransactionBegin volume start = .ok first one)
    (begun' : iomgrTransactionBegin volume one = .ok second two) :
    ∃ slots place info, two.Paired (handlesOf first second) slots volume place info := by
  have opening := wp_of_ok (iomgrTransactionBegin_spec volume) begun
  obtain ⟨index, place, info, -, -, staged, -, frame, -⟩ := opening
  have opening' := wp_of_ok (iomgrTransactionBegin_spec volume) begun'
  obtain ⟨index', place', info', bound, -, staged', free, frame', others⟩ := opening'
  obtain ⟨rfl, rfl⟩ := staged.bound.unique bound
  have live := (resolve_eq_ok.mp staged.resolved).2
  have apart : index ≠ index' := by
    rintro rfl
    rw [free] at live
    cases live
  have kept : two.transactions index = one.transactions index := by
    rw [others index apart]
    apply reserve_of_busy
    rw [live]
    decide
  have devices : two.devices = start.devices := by rw [frame', frame]; rfl
  refine ⟨fun which => bif which then index' else index, place, info, apart, ?_, ?_, ?_, .inl staged'.bound⟩
  · rintro (_ | _)
    · have resolved := (resolve_eq_ok.mp staged.resolved).1
      rw [← kept] at resolved
      exact resolved
    · exact (resolve_eq_ok.mp staged'.resolved).1
  · rintro (_ | _)
    · exact ⟨[], by rw [cond_false, kept]; exact staged.held, by simp, by simp⟩
    · exact ⟨[], staged'.held, by simp, by simp⟩
  · rw [AtomicWrites, devices]
    exact atomic

/-- The status of an I/O error is only given by an open transaction on a live volume. -/
theorem Paired.staged_of_ioError (paired : storage.Paired handles slots volume place info) {which : Bool}
    (failed : outcome (iomgrTransactionCommit (handles which)) storage = .error .ioError) :
    ∃ entries, storage.Staged (handles which) (slots which) place ⟨volume, info, entries⟩ := by
  cases resolved : resolve storage.transactions (handles which) with
  | error refusal =>
    have refused : wp (iomgrTransactionCommit (handles which)) storage (fun _ _ => False)
        (fun status _ => status ≠ .ioError) := by
      simp only [iomgrTransactionCommit, resolveTransaction, wp_bind, wp_resolveIn, resolved, reduceCtorEq, false_implies,
        implies_true, true_and, Except.error.injEq, forall_eq']
      cases refusal <;> simp [refusalStatus]
    exact absurd rfl (wp_outcome_error refused failed)
  | ok index =>
    obtain ⟨entries, live⟩ := paired.held resolved
    rcases paired.attached with bound | ⟨slot, decoded, state⟩
    · exact ⟨entries, live, bound⟩
    · have poisoned := resolve_quarantined decoded state
      have refused : wp (iomgrTransactionCommit (handles which)) storage (fun _ _ => False)
          (fun status _ => status ≠ .ioError) := by
        simp [iomgrTransactionCommit, transactionAt, checkBinding, iomgrGetVolumeInfo, requireInitialized, resolveVolume,
          setTransactionState, wp_resolveTransaction live.resolved, wp_resolveIn, live.held, poisoned,
          refusalStatus]
      exact absurd rfl (wp_outcome_error refused failed)

/-- Two transactions are open on one volume, their stagings and commits are interleaved in any way, and
sector writes are atomic. A commit that returns an I/O error leaves every sector as it was exactly when
every sector it had rewritten still held, when it began, the content read at its staging. -/
theorem interleaved_commit_intact_iff {volume first second : ℕ} {start one two state : Storage Driver}
    {history : List (PairCall × Except IomgrError Unit)} (atomic : start.AtomicWrites)
    (begun : iomgrTransactionBegin volume start = .ok first one)
    (begun' : iomgrTransactionBegin volume one = .ok second two)
    (run : Runs (pairCall (handlesOf first second)) (fun _ _ => True) two history state) (which : Bool)
    (failed : outcome (pairCall (handlesOf first second) (.commit which)) state = .error .ioError) :
    (∀ device lba, (final (pairCall (handlesOf first second) (.commit which)) state).medium device lba =
        state.medium device lba) ↔
      ∀ slot, state.transactionOf (handlesOf first second which) = some slot → state.Undisturbed slot := by
  obtain ⟨slots, place, info, initial⟩ := paired_of_begun atomic begun begun'
  have paired := run.invariant_state _ initial fun storage call holds _ => preserves_pairCall call storage holds
  obtain ⟨entries, staged⟩ := paired.staged_of_ioError failed
  have intact := wp_outcome_error (staged.intact_iff paired.atomic) failed rfl
  simp only [staged.transactionOf_eq, Option.some.injEq, forall_eq']
  exact intact

def secondTransaction : ℕ := makeHandle 1 1

def bothTransactions : Bool → ℕ := handlesOf firstTransaction secondTransaction

/-- The sixth callback, a sector write, fails and changes nothing. -/
def lateFault (call : ℕ) : Option SectorWriteFault := if call = 5 then some ⟨some .ioError, none⟩ else none

def pairStart : Storage Unit := smallStorage lateFault

def pairOne : Storage Unit := final (iomgrTransactionBegin smallVolume) pairStart

def pairTwo : Storage Unit := final (iomgrTransactionBegin smallVolume) pairOne

/-- The first transaction stages two sectors, the second stages the first of them and commits it. -/
def pairCalls : List PairCall :=
  [.stage false 2 fun _ => 7, .stage false 3 fun _ => 7, .stage true 2 fun _ => 9, .commit true]

def pairState : Storage Unit := replay (pairCall bothTransactions) pairTwo pairCalls

private theorem pair_atomic : pairStart.AtomicWrites := by
  intro handle device adapter call fault registered writer fails
  by_cases here : handle = 1
  · subst here
    cases registered
    cases writer
    simp only [lateFault] at fails
    split at fails
    · cases fails
      rfl
    · cases fails
  · simp [pairStart, smallStorage, here] at registered

/-- The rollback of the first transaction undoes what the second has committed. -/
theorem rollback_undoes_other_commit :
    pairStart.AtomicWrites ∧ iomgrTransactionBegin smallVolume pairStart = .ok firstTransaction pairOne ∧
    iomgrTransactionBegin smallVolume pairOne = .ok secondTransaction pairTwo ∧
    (∃ history, Runs (pairCall bothTransactions) (fun _ _ => True) pairTwo history pairState) ∧
    pairState.medium 1 2 = some (fun _ => 9) ∧
    outcome (pairCall bothTransactions (.commit false)) pairState = .error .ioError ∧
    (final (pairCall bothTransactions (.commit false)) pairState).medium 1 2 = some .zero :=
  ⟨pair_atomic, rfl, rfl, Runs.extend .start pairCalls, rfl, rfl, rfl⟩

theorem interleaved_commit_intact_iff_pair :
    (∀ device lba, (final (pairCall bothTransactions (.commit false)) pairState).medium device lba =
        pairState.medium device lba) ↔
      ∀ slot, pairState.transactionOf (bothTransactions false) = some slot → pairState.Undisturbed slot := by
  obtain ⟨history, run⟩ := Runs.extend .start pairCalls
  have begun : iomgrTransactionBegin smallVolume pairStart = .ok firstTransaction pairOne := rfl
  have begun' : iomgrTransactionBegin smallVolume pairOne = .ok secondTransaction pairTwo := rfl
  exact interleaved_commit_intact_iff pair_atomic begun begun' run false rfl

end Storage

end DosC32
