import DosC32.Proofs.Manager

/-! # Contracts of the sector transactions

Inside a commit only the medium of one device and the number of callbacks change. The contracts follow
the fault schedule of that device exactly: which sector write is the first to fail, what it leaves
behind, and whether the writes that put the earlier images back all complete.
-/

namespace DosC32.Storage

open Effect Store Function Pool TransactionEntry List Devices

variable {Driver : Type}

/-- The storage system with the medium of one device and the callback count replaced. -/
def withMedium (storage : Storage Driver) (handle : ℕ) (device : BlockDevice) (sectors : ℕ → Sector) (calls : ℕ) :
    Storage Driver :=
  { storage with devices := storage.devices.withMedium handle device sectors calls }

theorem withMedium_self {storage : Storage Driver} {handle : ℕ} {device : BlockDevice}
    (registered : storage.devices.registry handle = some device) :
    storage.withMedium handle device device.sectors storage.devices.calls = storage := by
  unfold withMedium Devices.withMedium
  rw [← registered, update_eq_self]

variable (binding : VolumeInfo)

/-- The physical address of an entry. -/
def physical (entry : TransactionEntry) : ℕ := binding.firstLba + entry.relativeLba

def addresses (entries : List TransactionEntry) : List ℕ := entries.map (physical binding)

/-- Write the staged images. -/
def publish (sectors : ℕ → Sector) (entries : List TransactionEntry) : ℕ → Sector :=
  save sectors (addresses binding entries) (entries.map after)

/-- Write the earlier images. -/
def restore (sectors : ℕ → Sector) (entries : List TransactionEntry) : ℕ → Sector :=
  save sectors (addresses binding entries) (entries.map before)

/-- The sectors of the entries exist on the device. -/
def Present (device : BlockDevice) (entries : List TransactionEntry) : Prop :=
  ∀ entry ∈ entries, physical binding entry < 2 ^ 64 ∧ physical binding entry < device.sectorCount

/-- How far the forward loop gets from the given medium and callback number: through all entries, or to
the first write that fails. -/
inductive Forwarded (adapter : ℕ → Option SectorWriteFault) (binding : VolumeInfo) (entries : List TransactionEntry)
    (sectors : ℕ → Sector) (calls : ℕ) : ℕ → (ℕ → Sector) → ℕ → Prop
  | complete : (∀ earlier < entries.length, adapter (calls + earlier) = none) →
      Forwarded adapter binding entries sectors calls entries.length (publish binding sectors entries)
        (calls + entries.length)
  | stopped {written : ℕ} (entry : TransactionEntry) (fault : SectorWriteFault) :
      (∀ earlier < written, adapter (calls + earlier) = none) → entries[written]? = some entry →
      adapter (calls + written) = some fault →
      Forwarded adapter binding entries sectors calls written
        (update (publish binding sectors (entries.take written)) (physical binding entry)
          (fault.leaves (publish binding sectors (entries.take written) (physical binding entry))))
        (calls + written + 1)

variable {adapter : ℕ → Option SectorWriteFault}

private theorem shifted {calls count : ℕ} (first : adapter calls = none)
    (later : ∀ index < count, adapter (calls + 1 + index) = none) :
    ∀ index < count + 1, adapter (calls + index) = none := by
  intro index below
  cases index with
  | zero => exact first
  | succ index =>
    rw [show calls + (index + 1) = calls + 1 + index by omega]
    exact later index (by omega)

variable {binding} {entries : List TransactionEntry} {sectors sectors' : ℕ → Sector} {calls calls' written : ℕ}

theorem Forwarded.cons {entry : TransactionEntry} (completes : adapter calls = none)
    (forwarded : Forwarded adapter binding entries (update sectors (physical binding entry) entry.after) (calls + 1)
      written sectors' calls') :
    Forwarded adapter binding (entry :: entries) sectors calls (written + 1) sectors' calls' := by
  cases forwarded with
  | complete earlier =>
    rw [show calls + 1 + entries.length = calls + (entry :: entries).length by simp only [length_cons]; omega]
    exact .complete (shifted completes earlier)
  | stopped failed fault earlier found fails =>
    rw [show calls + 1 + written = calls + (written + 1) by omega] at fails ⊢
    exact .stopped failed fault (shifted completes earlier) found fails

variable (forwarded : Forwarded adapter binding entries sectors calls written sectors' calls')
include forwarded

theorem Forwarded.le : written ≤ entries.length := by
  cases forwarded with
  | complete => exact Nat.le_refl _
  | stopped _ _ _ found _ => exact Nat.le_of_lt (List.getElem?_eq_some_iff.mp found).1

/-- An entry is rewritten exactly when the schedule completes its write and every earlier one. -/
theorem Forwarded.lt_iff {position : ℕ} (inside : position < entries.length) :
    position < written ↔ ∀ earlier ≤ position, adapter (calls + earlier) = none := by
  cases forwarded with
  | complete all => exact iff_of_true inside fun earlier before => all earlier (by omega)
  | stopped _ fault completes _ fails =>
    constructor
    · exact fun below earlier before => completes earlier (by omega)
    · intro completed
      by_contra beyond
      rw [completed written (by omega)] at fails
      cases fails

omit forwarded

section Writing

variable (storage : Storage Driver) (binding : VolumeInfo) {device : BlockDevice}
  {adapter : ℕ → Option SectorWriteFault} (writer : device.writer = some adapter) {lba : ℕ}
include writer

theorem writeBound_spec (sectors : ℕ → Sector) (calls : ℕ) (content : Sector) (fits : binding.firstLba + lba < 2 ^ 64)
    (present : binding.firstLba + lba < device.sectorCount) :
    wp (writeBound binding lba content) (storage.withMedium binding.device device sectors calls)
      (fun _ next => adapter calls = none ∧ next = storage.withMedium binding.device device
        (update sectors (binding.firstLba + lba) content) (calls + 1))
      (fun _ next => ∃ fault, adapter calls = some fault ∧ next = storage.withMedium binding.device device
        (update sectors (binding.firstLba + lba) (fault.leaves (sectors (binding.firstLba + lba))))
        (calls + 1)) := by
  have registered : (storage.withMedium binding.device device sectors calls).devices.registry binding.device =
      some { device with sectors } := update_self _ _ _
  have again (sectors' : ℕ → Sector) (calls' : ℕ) :
      (storage.devices.withMedium binding.device device sectors calls).withMedium binding.device
        { device with sectors } sectors' calls' = storage.devices.withMedium binding.device device sectors' calls' := by
    simp only [Devices.withMedium, update_idem]
  simp only [writeBound, Checked.add_of_lt fits, wp_rules, Option.some.injEq, reduceCtorEq, false_implies, forall_eq',
    and_true, wp_transfer]
  apply wp_mono (blockDeviceWriteSector_spec _ _ _ _)
  · rintro _ _ ⟨found, adapter', registered', -, writer', completes, rfl⟩
    cases registered.symm.trans registered'
    cases writer.symm.trans writer'
    exact ⟨completes, congrArg (fun devices => { storage with devices }) (again _ _)⟩
  · rintro _ _ (⟨unreached, -⟩ | ⟨found, adapter', fault, registered', -, writer', fails, rfl⟩)
    · have refused := unreached _ registered present
      exact absurd (writer.symm.trans refused) (by simp)
    · cases registered.symm.trans registered'
      cases writer.symm.trans writer'
      exact ⟨fault, fails, congrArg (fun devices => { storage with devices }) (again _ _)⟩

/-- The forward loop stops at the first write that fails. -/
theorem writeForward_spec (present : Present binding device entries) (sectors : ℕ → Sector) (calls : ℕ) :
    wp (writeForward binding entries) (storage.withMedium binding.device device sectors calls)
      (fun written next => ∃ sectors' calls', Forwarded adapter binding entries sectors calls written sectors' calls' ∧
        next = storage.withMedium binding.device device sectors' calls')
      (fun _ _ => False) := by
  induction entries generalizing sectors calls with
  | nil => exact ⟨sectors, calls, .complete (by simp), rfl⟩
  | cons entry rest ih =>
    have here := present entry (by simp)
    simp only [writeForward, wp_bind, wp_attempt]
    apply wp_mono (writeBound_spec storage binding writer sectors calls entry.after here.1 here.2)
    · rintro _ _ ⟨completes, rfl⟩
      simp only [wp_pure]
      apply wp_mono_done (ih (fun other member => present other (by simp [member])) _ (calls + 1))
      rintro written _ ⟨sectors', calls', forwarded, rfl⟩
      exact ⟨sectors', calls', forwarded.cons completes, rfl⟩
    · rintro _ _ ⟨fault, fails, rfl⟩
      exact ⟨_, _, .stopped entry fault (by simp) rfl fails, rfl⟩

/-- The rollback loop visits every entry; it reports success exactly when all its writes complete. -/
theorem rollbackLoop_spec (present : Present binding device entries) (sectors : ℕ → Sector) (calls : ℕ) :
    wp (rollbackLoop binding entries) (storage.withMedium binding.device device sectors calls)
      (fun restored next => (restored = true ↔ ∀ index < entries.length, adapter (calls + index) = none) ∧
        ∃ sectors', next = storage.withMedium binding.device device sectors' (calls + entries.length) ∧
          (restored = true → sectors' = restore binding sectors entries))
      (fun _ _ => False) := by
  induction entries generalizing sectors calls with
  | nil => exact ⟨by simp, sectors, rfl, fun _ => rfl⟩
  | cons entry rest ih =>
    have here := present entry (by simp)
    have later := ih (fun other member => present other (by simp [member]))
    have count : calls + (entry :: rest).length = calls + 1 + rest.length := by
      simp only [length_cons]
      omega
    simp only [rollbackLoop, wp_rules]
    apply wp_mono (writeBound_spec storage binding writer sectors calls entry.before here.1 here.2)
    · rintro _ _ ⟨completes, rfl⟩
      apply wp_mono_done (later _ (calls + 1))
      rintro restored _ ⟨all, sectors', rfl, image⟩
      simp only [Except.isOk, Except.toBool, Bool.true_and]
      refine ⟨all.trans ⟨shifted completes, fun each index below => ?_⟩, sectors', by rw [count], image⟩
      · rw [show calls + 1 + index = calls + (index + 1) by omega]
        exact each (index + 1) (by simpa using below)
    · rintro _ _ ⟨fault, fails, rfl⟩
      apply wp_mono_done (later _ (calls + 1))
      rintro restored _ ⟨-, sectors', rfl, -⟩
      simp only [Except.isOk, Except.toBool, Bool.false_and, Bool.false_eq_true, false_iff, false_implies, and_true]
      refine ⟨fun each => ?_, sectors', by rw [count]⟩
      have first := each 0 (by simp)
      rw [Nat.add_zero, fails] at first
      cases first

end Writing

section Volumes

variable (storage : Storage Driver) (volume : ℕ) (place : Fin 32) (info : VolumeInfo)

/-- The handle names the live volume in the given slot. -/
structure Bound : Prop where
  ready : storage.manager.initialized = true
  resolved : resolve storage.manager.volumes volume = .ok place
  reported : (storage.manager.volumes place).content.info = info
  reserved : info.reserved = 0

variable {storage volume place info} (bound : storage.Bound volume place info) {failed : IomgrError → Storage Driver → Prop}

include bound in
theorem Bound.of_manager {next : Storage Driver}
    (same : next.manager = storage.manager) : next.Bound volume place info := by
  obtain ⟨ready, resolved, reported, reserved⟩ := bound
  rw [← same] at ready resolved reported
  exact ⟨ready, resolved, reported, reserved⟩

/-- What a successful `iomgr_get_volume_info` says. -/
theorem iomgrGetVolumeInfo_spec (volume : ℕ) :
    wp (iomgrGetVolumeInfo volume) storage
      (fun info next => (∃ place, storage.Bound volume place info) ∧ next = storage) (fun _ next => next = storage) := by
  simp only [iomgrGetVolumeInfo, requireInitialized, resolveVolume, volumeAt, wp_all, wp_resolveIn, ne_eq, not_not,
    Bool.not_eq_false]
  exact fun ready place resolved reserved => ⟨place, ready, resolved, rfl, reserved⟩

include bound

theorem Bound.wp_iomgrGetVolumeInfo {done : VolumeInfo → Storage Driver → Prop} :
    wp (iomgrGetVolumeInfo volume) storage done failed ↔ done info storage := by
  simp [iomgrGetVolumeInfo, requireInitialized, volumeAt, wp_resolveVolume bound.resolved, bound.ready,
    bound.reported, bound.reserved]

theorem Bound.wp_iomgrQuarantineVolume {done : Unit → Storage Driver → Prop} :
    wp (iomgrQuarantineVolume volume) storage done failed ↔
      done () (storage.withVolumes (setState storage.manager.volumes place .quarantined)) := by
  simp [iomgrQuarantineVolume, requireInitialized, setVolumeState, wp_resolveVolume bound.resolved, bound.ready]

end Volumes

section Commit

variable (storage : Storage Driver) (device : BlockDevice) (slot : Transaction)

/-- The storage system as a commit leaves it. -/
def settled (index : Fin 2) (state : State) : Storage Driver :=
  storage.withTransactions (setState storage.transactions index state)

/-- All writes that put back the first `written` images complete, and so does the closing flush. -/
def RollsBack (adapter : ℕ → Option SectorWriteFault) (written call : ℕ) : Prop :=
  (∀ index < written, adapter (call + index) = none) ∧ device.Flushes (call + written)

/-- The two failing exits of a commit whose rollback starts from the given medium and callback number. -/
inductive Undone (place : Fin 32) (index : Fin 2) (adapter : ℕ → Option SectorWriteFault) (written : ℕ)
    (sectors : ℕ → Sector) (calls : ℕ) : IomgrError → Storage Driver → Prop
  | restored (calls' : ℕ) : RollsBack device adapter written calls →
      Undone place index adapter written sectors calls .ioError
        ((storage.withMedium slot.binding.device device
          (restore slot.binding sectors (slot.entries.take written).reverse) calls').settled index .free)
  | quarantined (sectors' : ℕ → Sector) (calls' : ℕ) : ¬ RollsBack device adapter written calls →
      Undone place index adapter written sectors calls .uncertain
        (((storage.withMedium slot.binding.device device sectors' calls').settled index .quarantined).withVolumes
          (setState storage.manager.volumes place .quarantined))

variable {storage device slot}

theorem flush_spec (handle : ℕ) (sectors : ℕ → Sector) (calls : ℕ) :
    wp (attempt (transfer (blockDeviceFlush handle)) : StorageM Driver (Except IomgrError Unit))
      (storage.withMedium handle device sectors calls)
      (fun result next => (result.isOk = true ↔ device.Flushes calls) ∧
        ∃ calls', next = storage.withMedium handle device sectors calls')
      (fun _ _ => False) := by
  have registered : (storage.withMedium handle device sectors calls).devices.registry handle =
      some { device with sectors } := update_self _ _ _
  simp only [wp_attempt, wp_transfer]
  apply wp_mono (blockDeviceFlush_spec _ _)
  · rintro _ _ ⟨⟨other, found, flushes⟩, calls', rfl⟩
    cases registered.symm.trans found
    exact ⟨iff_of_true rfl flushes, calls', rfl⟩
  · rintro _ _ ⟨fails, calls', rfl⟩
    exact ⟨iff_of_false (by simp [Except.isOk, Except.toBool]) (fails { device with sectors } registered), calls', rfl⟩

theorem rollback_spec (writer : device.writer = some adapter) (present : Present slot.binding device slot.entries)
    (few : written ≤ slot.entries.length) (sectors : ℕ → Sector) (calls : ℕ) :
    wp (rollback slot written) (storage.withMedium slot.binding.device device sectors calls)
      (fun restored next => (restored = true ↔ RollsBack device adapter written calls) ∧
        ∃ sectors' calls', next = storage.withMedium slot.binding.device device sectors' calls' ∧
          (restored = true → sectors' = restore slot.binding sectors (slot.entries.take written).reverse))
      (fun _ _ => False) := by
  have count : (slot.entries.take written).reverse.length = written := by simpa using few
  have reachable : Present slot.binding device (slot.entries.take written).reverse := fun entry member =>
    present entry (mem_of_mem_take (mem_reverse.mp member))
  simp only [rollback, wp_bind, wp_pure]
  apply wp_mono_done (rollbackLoop_spec storage slot.binding writer reachable sectors calls)
  rintro restored _ ⟨all, sectors', rfl, image⟩
  rw [count] at all ⊢
  apply wp_mono_done (flush_spec slot.binding.device sectors' (calls + written))
  rintro result _ ⟨flushed, calls', rfl⟩
  rw [Bool.and_eq_true, all, flushed]
  exact ⟨Iff.rfl, sectors', calls', rfl, fun both => image (all.mpr both.1)⟩

variable {adapter : ℕ → Option SectorWriteFault} (writer : device.writer = some adapter)
  (present : Present slot.binding device slot.entries) {place : Fin 32} {info : VolumeInfo}
  (bound : storage.Bound slot.volume place info) (index : Fin 2) {written : ℕ}
  (few : written ≤ slot.entries.length) (sectors : ℕ → Sector) (calls : ℕ)
include writer present bound few

theorem undoCommit_spec :
    wp (undoCommit index slot written) (storage.withMedium slot.binding.device device sectors calls)
      (fun _ _ => False) (Undone storage device slot place index adapter written sectors calls) := by
  simp only [undoCommit, wp_bind]
  apply wp_returns (rollback_spec writer present few sectors calls)
  rintro restored _ ⟨rolls, sectors', calls', rfl, image⟩
  cases restored with
  | true =>
    obtain rfl := image rfl
    exact .restored calls' (rolls.mp rfl)
  | false =>
    have stays : ((storage.withMedium slot.binding.device device sectors' calls').settled index .quarantined).Bound
        slot.volume place info := bound.of_manager rfl
    simp only [Bool.false_eq_true, if_false, setTransactionState, wp_rules]
    exact stays.wp_iomgrQuarantineVolume.mpr
      (.quarantined sectors' calls' fun all => Bool.false_ne_true (rolls.mpr all))

/-- The tail of a commit, from the state its forward loop leaves. -/
theorem settleCommit_spec :
    wp (settleCommit index slot written) (storage.withMedium slot.binding.device device sectors calls)
      (fun _ next => written = slot.entries.length ∧ ∃ calls',
        next = (storage.withMedium slot.binding.device device sectors calls').settled index .free)
      (fun status next => ∃ base, (written < slot.entries.length → base = calls) ∧
        Undone storage device slot place index adapter written sectors base status next) := by
  simp only [settleCommit, wp_ite, wp_bind]
  refine ⟨fun complete => ?_, fun short => ?_⟩
  · apply wp_returns (flush_spec slot.binding.device sectors calls)
    rintro (_ | _) _ ⟨-, calls', rfl⟩
    · apply wp_fails (undoCommit_spec writer present bound index few sectors calls')
      exact fun _ _ undone => ⟨calls', fun less => by omega, undone⟩
    · exact ⟨complete, calls', rfl⟩
  · apply wp_fails (undoCommit_spec writer present bound index few sectors calls)
    exact fun _ _ undone => ⟨calls, fun _ => rfl, undone⟩

end Commit

section WholeCommit

variable {storage : Storage Driver} {device : BlockDevice} {slot : Transaction} {handle : ℕ} {place : Fin 32}
  {index : Fin 2} (resolved : resolve storage.transactions handle = .ok index)
  (held : (storage.transactions index).content = slot) (bound : storage.Bound slot.volume place slot.binding)
include resolved held bound

/-- A commit whose volume is still the one it was begun on reaches its forward loop. -/
theorem wp_iomgrTransactionCommit {done : Unit → Storage Driver → Prop} :
    wp (iomgrTransactionCommit handle) storage done failed ↔
      wp (writeForward slot.binding slot.entries) storage
        (fun written next => wp (settleCommit index slot written) next done failed) failed := by
  have matching : bindingsMatch slot.binding slot.binding := ⟨rfl, rfl, rfl, rfl, rfl, rfl, bound.reserved, bound.reserved⟩
  simp only [iomgrTransactionCommit, transactionAt, checkBinding, wp_all, wp_resolveTransaction resolved, held,
    bound.wp_iomgrGetVolumeInfo, matching, not_true_eq_false, if_false]

/-- The commit of a transaction whose sectors exist on a writable device. -/
theorem iomgrTransactionCommit_spec (registered : storage.devices.registry slot.binding.device = some device)
    (writer : device.writer = some adapter) (present : Present slot.binding device slot.entries) :
    wp (iomgrTransactionCommit handle) storage
      (fun _ next => (∀ earlier < slot.entries.length, adapter (storage.devices.calls + earlier) = none) ∧ ∃ calls,
        next = (storage.withMedium slot.binding.device device (publish slot.binding device.sectors slot.entries)
          calls).settled index .free)
      (fun status next => ∃ written sectors calls base,
        Forwarded adapter slot.binding slot.entries device.sectors storage.devices.calls written sectors calls ∧
        (written < slot.entries.length → base = calls) ∧
        Undone storage device slot place index adapter written sectors base status next) := by
  rw [wp_iomgrTransactionCommit resolved held bound]
  have forward := writeForward_spec storage slot.binding writer present device.sectors storage.devices.calls
  rw [withMedium_self registered] at forward
  apply wp_returns forward
  rintro written _ ⟨sectors, calls, forwarded, rfl⟩
  apply wp_mono (settleCommit_spec writer present bound index forwarded.le sectors calls)
  · rintro _ _ ⟨all, calls', rfl⟩
    cases forwarded with
    | complete earlier => exact ⟨earlier, calls', rfl⟩
    | stopped _ _ _ found _ =>
      have below := (List.getElem?_eq_some_iff.mp found).1
      omega
  · rintro status next ⟨base, start, undone⟩
    exact ⟨written, sectors, calls, base, forwarded, start, undone⟩

end WholeCommit

section Unwritten

variable (storage : Storage Driver) {slot : Transaction} (place : Fin 32)

/-- The storage system after callbacks that changed no medium. -/
def idle (calls : ℕ) : Storage Driver :=
  { storage with devices := storage.devices.withCalls calls }

/-- The two failing exits of a commit that wrote no sector. -/
def Withdrawn (index : Fin 2) (status : IomgrError) (next : Storage Driver) : Prop :=
  ∃ calls, (status = .ioError ∧ next = (storage.idle calls).settled index .free) ∨
    (status = .uncertain ∧ next = ((storage.idle calls).settled index .quarantined).withVolumes
      (setState storage.manager.volumes place .quarantined))

variable {storage place}

theorem writeForward_unreached {binding : VolumeInfo} (unreached : ∀ lba, storage.devices.Unreached binding.device lba)
    (entries : List TransactionEntry) :
    wp (writeForward binding entries) storage (fun written next => written = 0 ∧ next = storage) (fun _ _ => False) := by
  cases entries with
  | nil => exact ⟨rfl, rfl⟩
  | cons entry rest =>
    simp only [writeForward, writeBound, wp_bind, wp_attempt, wp_demand, wp_transfer]
    refine ⟨fun address _ => ?_, fun _ => ⟨rfl, rfl⟩⟩
    apply wp_mono (blockDeviceWriteSector_spec _ _ _ _)
    · rintro _ _ ⟨device, adapter, registered, inside, writer, -⟩
      rw [unreached _ device registered inside] at writer
      cases writer
    · rintro _ _ (⟨-, rfl⟩ | ⟨device, adapter, fault, registered, inside, writer, -⟩)
      · exact ⟨rfl, rfl⟩
      · rw [unreached _ device registered inside] at writer
        cases writer

theorem flush_idle (handle : ℕ) :
    wp (attempt (transfer (blockDeviceFlush handle)) : StorageM Driver (Except IomgrError Unit)) storage
      (fun _ next => ∃ calls, next = storage.idle calls) (fun _ _ => False) := by
  simp only [wp_attempt, wp_transfer]
  apply wp_mono (blockDeviceFlush_spec _ _)
  all_goals
    rintro _ _ ⟨-, calls, rfl⟩
    exact ⟨calls, rfl⟩

/-- A commit that wrote no sector changes no medium. -/
theorem settleCommit_unwritten (bound : storage.Bound slot.volume place slot.binding) (index : Fin 2) :
    wp (settleCommit index slot 0) storage
      (fun _ next => slot.entries = [] ∧ ∃ calls, next = (storage.idle calls).settled index .free)
      (storage.Withdrawn place index) := by
  have undo (calls : ℕ) :
      wp (undoCommit index slot 0) (storage.idle calls) (fun _ _ => False) (storage.Withdrawn place index) := by
    simp only [undoCommit, rollback, take_zero, reverse_nil, rollbackLoop, wp_bind, wp_pure]
    apply wp_returns (flush_idle _)
    rintro flushed _ ⟨calls', rfl⟩
    have stays : (((storage.idle calls).idle calls').settled index .quarantined).Bound slot.volume place slot.binding :=
      bound.of_manager rfl
    cases flushed with
    | ok => exact ⟨calls', .inl ⟨rfl, rfl⟩⟩
    | error =>
      simp only [Except.isOk, Except.toBool, Bool.and_false, Bool.false_eq_true, if_false, setTransactionState, wp_bind,
        wp_modify, wp_attempt]
      exact stays.wp_iomgrQuarantineVolume.mpr ⟨calls', .inr ⟨rfl, rfl⟩⟩
  simp only [settleCommit, wp_ite, wp_bind]
  refine ⟨fun empty => ?_, fun _ => ?_⟩
  · apply wp_returns (flush_idle _)
    rintro (_ | _) _ ⟨calls, rfl⟩
    · exact wp_fails (undo calls) fun _ _ => id
    · exact ⟨length_eq_zero_iff.mp empty.symm, calls, rfl⟩
  · exact wp_fails (undo storage.devices.calls) fun _ _ => id

end Unwritten

section Images

variable {binding : VolumeInfo} {sectors sectors' : ℕ → Sector} {entries : List TransactionEntry}

theorem publish_agreeOff (binding : VolumeInfo) (sectors : ℕ → Sector) (entries : List TransactionEntry) :
    AgreeOff (addresses binding entries) (publish binding sectors entries) sectors :=
  save_agreeOff _ _ _

theorem addresses_nodup (binding : VolumeInfo) (distinct : (entries.map relativeLba).Nodup) :
    (addresses binding entries).Nodup := by
  have shift : addresses binding entries = (entries.map relativeLba).map (binding.firstLba + ·) := by
    simp [addresses, physical, Function.comp_def]
  rw [shift]
  exact distinct.map fun _ _ same => Nat.add_left_cancel same

/-- Putting back images that are those of the medium undoes every change at their addresses. -/
theorem restore_eq (touched : AgreeOff (addresses binding entries) sectors' sectors)
    (images : ∀ entry ∈ entries, entry.before = sectors (physical binding entry)) :
    restore binding sectors' entries.reverse = sectors := by
  have values : entries.reverse.map before = load sectors (addresses binding entries.reverse) := by
    simp only [load, addresses, map_map]
    exact map_congr_left fun entry member => images entry (mem_reverse.mp member)
  rw [restore, values]
  exact save_load (touched.mono fun address member => by simpa [addresses] using member)

/-- An image that is put back is found at its address. -/
theorem restore_get (distinct : (entries.map relativeLba).Nodup) {entry : TransactionEntry}
    (member : entry ∈ entries) : restore binding sectors entries.reverse (physical binding entry) = entry.before := by
  obtain ⟨index, bound, here⟩ := mem_iff_getElem.mp (mem_reverse.mpr member)
  have apart : (addresses binding entries.reverse).Nodup := by
    rw [addresses, map_reverse, nodup_reverse]
    exact addresses_nodup binding distinct
  have below : index < (addresses binding entries.reverse).length := by simpa [addresses] using bound
  have found := save_get sectors apart index below (show index < (entries.reverse.map before).length by
    simpa using bound)
  simp only [addresses, getElem_map, here] at found
  exact found

/-- A rollback undoes the changes at its addresses exactly when its images are those of the medium. -/
theorem restore_eq_iff (touched : AgreeOff (addresses binding entries) sectors' sectors)
    (distinct : (entries.map relativeLba).Nodup) :
    restore binding sectors' entries.reverse = sectors ↔
      ∀ entry ∈ entries, entry.before = sectors (physical binding entry) := by
  constructor
  · intro same entry member
    rw [← same, restore_get distinct member]
  · exact restore_eq touched

/-- What the medium holds after a rollback that completes: everything as before, except the sector of
the write that failed. -/
theorem Forwarded.restore_eq (forwarded : Forwarded adapter binding entries sectors calls written sectors' calls')
    (distinct : (entries.map relativeLba).Nodup)
    (images : ∀ entry ∈ entries, entry.before = sectors (physical binding entry)) :
    (written = entries.length ∧ restore binding sectors' (entries.take written).reverse = sectors) ∨
      ∃ entry fault, entries[written]? = some entry ∧ adapter (calls + written) = some fault ∧
        (∀ earlier < written, adapter (calls + earlier) = none) ∧ calls' = calls + written + 1 ∧
        restore binding sectors' (entries.take written).reverse =
          update sectors (physical binding entry) (fault.leaves (sectors (physical binding entry))) := by
  cases forwarded with
  | complete earlier =>
    rw [take_length]
    exact .inl ⟨rfl, Storage.restore_eq (publish_agreeOff _ _ _) images⟩
  | stopped entry fault earlier found fails =>
    refine .inr ⟨entry, fault, found, fails, earlier, rfl, ?_⟩
    obtain ⟨below, rfl⟩ := List.getElem?_eq_some_iff.mp found
    have apart : ∀ other ∈ entries.take written, physical binding other ≠ physical binding entries[written] := by
      rintro other member same
      obtain ⟨place, bound, rfl⟩ := mem_take_iff_getElem.mp member
      have equal := inj_on_of_nodup_map distinct (getElem_mem _) (getElem_mem _) (Nat.add_left_cancel same)
      have collision := distinct.of_map.getElem_inj_iff.mp equal
      omega
    have untouched : physical binding entries[written] ∉ addresses binding (entries.take written) := by
      intro member
      obtain ⟨other, inside, same⟩ := mem_map.mp member
      exact apart other inside same
    have kept := publish_agreeOff binding sectors (entries.take written)
    rw [kept _ untouched]
    apply Storage.restore_eq
    · intro address outside
      simp only [update_apply]
      split
      · rfl
      · exact kept address outside
    · intro other member
      rw [update_of_ne (apart other member)]
      exact images other (mem_of_mem_take member)

end Images

section Staging

variable (storage : Storage Driver) (handle : ℕ) (index : Fin 2) (place : Fin 32) (slot : Transaction)

/-- The image an entry list stages for a sector. -/
def imageOf (entries : List TransactionEntry) (lba : ℕ) : Option Sector :=
  (entries.find? (·.relativeLba = lba)).map after

/-- The handle names a live transaction with distinct sectors that exist. -/
structure Held : Prop where
  resolved : resolve storage.transactions handle = .ok index
  held : (storage.transactions index).content = slot
  distinct : (slot.entries.map relativeLba).Nodup
  present : ∀ entry ∈ slot.entries, ∃ device, storage.devices.registry slot.binding.device = some device ∧
    physical slot.binding entry < 2 ^ 64 ∧ physical slot.binding entry < device.sectorCount

/-- The handle names a live transaction on a live volume. -/
structure Staged : Prop extends Held storage handle index slot where
  bound : storage.Bound slot.volume place slot.binding

/-- Every image taken at staging time is still the content of its sector. -/
def Current : Prop :=
  ∀ entry ∈ slot.entries, ∀ device, storage.devices.registry slot.binding.device = some device →
    entry.before = device.sectors (physical slot.binding entry)

/-- The storage system after staging: only the callback count and the transaction's entries change. -/
def restaged (calls : ℕ) : Storage Driver :=
  { storage with
    devices := storage.devices.withCalls calls
    transactions := update storage.transactions index { storage.transactions index with content := slot } }

variable {storage handle index place slot}

theorem imageOf_restage (after : Sector) (known : entries.any (·.relativeLba = lba) = true) :
    imageOf (restage entries lba after) = update (imageOf entries) lba (some after) := by
  funext other
  have same : (fun entry : TransactionEntry => decide (entry.relativeLba = other)) ∘
      (fun entry => if entry.relativeLba = lba then { entry with after } else entry) =
      fun entry => decide (entry.relativeLba = other) := by
    funext entry
    simp only [Function.comp_apply]
    split <;> rfl
  simp only [imageOf, restage, find?_map, same, Option.map_map]
  cases found : entries.find? (fun entry => decide (entry.relativeLba = other)) with
  | none =>
    have apart : other ≠ lba := by
      rintro rfl
      rw [find?_eq_none] at found
      obtain ⟨entry, member, here⟩ := any_eq_true.mp known
      exact found entry member here
    simp [update_of_ne apart, imageOf, found]
  | some entry =>
    have address : entry.relativeLba = other := by simpa using find?_some found
    simp only [Option.map_some, Function.comp_apply, address, update_apply, imageOf, found]
    split <;> rfl

theorem imageOf_append (before after : Sector) (unknown : ¬ entries.any (·.relativeLba = lba) = true) :
    imageOf (entries ++ [⟨lba, before, after⟩]) = update (imageOf entries) lba (some after) := by
  funext other
  simp only [imageOf, find?_append, update_apply]
  by_cases same : other = lba
  · subst same
    have absent : entries.find? (fun entry => decide (entry.relativeLba = other)) = none := by
      rw [find?_eq_none]
      exact fun entry member here => unknown (any_eq_true.mpr ⟨entry, member, here⟩)
    simp [absent]
  · have different : ¬ lba = other := fun equal => same equal.symm
    simp [same, different]

theorem imageOf_cons (entry : TransactionEntry) (entries : List TransactionEntry) (lba : ℕ) :
    imageOf (entry :: entries) lba = if entry.relativeLba = lba then some entry.after else imageOf entries lba := by
  simp only [imageOf, find?_cons]
  by_cases here : entry.relativeLba = lba <;> simp [here]

theorem imageOf_eq_none (absent : lba ∉ entries.map relativeLba) : imageOf entries lba = none := by
  simp only [imageOf, Option.map_eq_none_iff, find?_eq_none, decide_eq_true_eq]
  exact fun entry member here => absent (mem_map.mpr ⟨entry, member, here⟩)

/-- Publishing puts every staged image in its place and changes nothing else. -/
theorem publish_apply {binding : VolumeInfo}
    (distinct : (entries.map relativeLba).Nodup) (sectors : ℕ → Sector) (lba : ℕ) :
    publish binding sectors entries lba =
      if binding.firstLba ≤ lba then (imageOf entries (lba - binding.firstLba)).getD (sectors lba) else sectors lba := by
  induction entries generalizing sectors with
  | nil => simp [publish, addresses, imageOf]
  | cons entry rest ih =>
    rw [map_cons, nodup_cons] at distinct
    have step : publish binding sectors (entry :: rest) lba =
        publish binding (update sectors (physical binding entry) entry.after) rest lba := rfl
    rw [step, ih distinct.2, imageOf_cons]
    by_cases here : lba = physical binding entry
    · have offset : lba - binding.firstLba = entry.relativeLba := by
        simp only [here, physical]
        omega
      rw [offset, imageOf_eq_none distinct.1, here, update_self]
      simp [physical]
    · rw [update_of_ne here]
      split
      · have other : ¬ entry.relativeLba = lba - binding.firstLba := by
          simp only [physical] at here
          omega
        rw [if_neg other]
      · rfl

theorem Held.restaged (live : storage.Held handle index slot) (calls : ℕ) (distinct : (entries.map relativeLba).Nodup)
    (present : ∀ entry ∈ entries, ∃ device, storage.devices.registry slot.binding.device = some device ∧
      physical slot.binding entry < 2 ^ 64 ∧ physical slot.binding entry < device.sectorCount) :
    (storage.restaged index { slot with entries } calls).Held handle index { slot with entries } where
  resolved := by
    have resolved := resolve_eq_ok.mp live.resolved
    apply resolve_eq_ok.mpr
    simpa only [Storage.restaged, update_self] using resolved
  held := by simp only [Storage.restaged, update_self]
  distinct := distinct
  present := present

/-- Staging gives the sector its new image; the images of the other sectors and everything that was
read before stay as they are. -/
theorem iomgrTransactionStage_spec (live : storage.Held handle index slot) (lba : ℕ) (after : Sector) :
    wp (iomgrTransactionStage handle lba after) storage
      (fun _ next => ∃ entries calls, next = storage.restaged index { slot with entries } calls ∧
        next.Held handle index { slot with entries } ∧
        imageOf entries = update (imageOf slot.entries) lba (some after) ∧
        (storage.Current slot → next.Current { slot with entries }))
      (fun _ next => ∃ calls, next = storage.idle calls) := by
  simp only [iomgrTransactionStage, transactionAt, wp_all, wp_resolveTransaction live.resolved, live.held, wp_ite,
    setTransaction, wp_transfer, Checked.add_eq_some]
  have quiet : ∃ calls, storage = storage.idle calls := ⟨storage.devices.calls, rfl⟩
  refine ⟨fun _ => quiet, fun _ => ⟨?_, fun _ => quiet⟩⟩
  rintro _ ⟨fits, rfl⟩
  refine ⟨fun known => ?_, fun unknown => ⟨fun _ => quiet, fun _ => ?_⟩⟩
  · refine ⟨restage slot.entries lba after, storage.devices.calls, rfl, ?_, imageOf_restage after known, ?_⟩
    · apply live.restaged
      · convert live.distinct using 1
        rw [restage, map_map]
        refine map_congr_left fun entry _ => ?_
        simp only [Function.comp_apply]
        split <;> rfl
      · intro entry member
        obtain ⟨old, inside, rfl⟩ := mem_map.mp member
        have present := live.present old inside
        split <;> exact present
    · intro current entry member device registered
      obtain ⟨old, inside, rfl⟩ := mem_map.mp member
      have image := current old inside device registered
      split <;> exact image
  · apply wp_mono (blockDeviceReadSector_spec _ _ _)
    · rintro _ _ ⟨device, registered, inside, rfl, rfl⟩
      refine ⟨slot.entries ++ [⟨lba, device.sectors (slot.binding.firstLba + lba), after⟩], storage.devices.calls + 1,
        rfl, ?_,
        imageOf_append _ _ unknown, ?_⟩
      · apply live.restaged
        · rw [map_append, nodup_append]
          refine ⟨live.distinct, by simp, ?_⟩
          rintro _ member _ last rfl
          obtain ⟨entry, listed, same⟩ := mem_map.mp member
          have here : entry.relativeLba = lba := same.trans (by simpa using last)
          exact unknown (any_eq_true.mpr ⟨entry, listed, by simpa using here⟩)
        · intro entry member
          rcases mem_append.mp member with old | new
          · exact live.present entry old
          · obtain rfl := mem_singleton.mp new
            exact ⟨device, registered, fits, inside⟩
      · intro current entry member other registered'
        rcases mem_append.mp member with old | new
        · exact current entry old other registered'
        · obtain rfl := mem_singleton.mp new
          cases registered.symm.trans registered'
          rfl
    · rintro _ _ ⟨calls, rfl⟩
      exact ⟨calls, rfl⟩

/-- Beginning a transaction takes a free slot and binds it to the volume as it is reported. -/
theorem iomgrTransactionBegin_spec (volume : ℕ) :
    wp (iomgrTransactionBegin volume) storage
      (fun handle next => ∃ index place info, storage.Bound volume place info ∧
        info.capabilities &&& iomgrVolumeCapWrite ≠ 0 ∧
        next.Staged handle index place ⟨volume, info, []⟩ ∧ (storage.transactions index).state = .free ∧
        next = storage.withTransactions next.transactions ∧
        (∀ other, other ≠ index → next.transactions other = (reserve .live storage.transactions).2 other))
      (fun _ next => next = storage.withTransactions next.transactions) := by
  simp only [iomgrTransactionBegin, wp_bind]
  apply wp_mono (iomgrGetVolumeInfo_spec volume)
  · rintro info _ ⟨⟨place, bound⟩, rfl⟩
    simp only [wp_failWhen]
    refine ⟨fun _ => rfl, fun writable => ?_⟩
    simp only [reserveTransaction, wp_reserveIn, setTransaction, wp_rules]
    refine ⟨fun index found => ?_, fun _ => rfl⟩
    obtain ⟨free, fresh, taken⟩ := reserveFrom_taken .live _ _ found
    change (reserve .live _).2 index = _ at taken
    refine ⟨index, place, info, bound, writable, ⟨⟨?_, ?_, ?_, ?_⟩, ?_⟩, free, rfl, ?_⟩
    · apply resolve_eq_ok.mpr
      simp only [withTransactions, update_self, taken]
      exact ⟨decode_makeHandle index (by decide) (succ_ne_zero fresh), trivial⟩
    · simp only [withTransactions, update_self]
    · simp
    · simp
    · exact bound.of_manager rfl
    · intro other apart
      simp only [withTransactions, update_of_ne apart]
  · rintro _ _ rfl
    rfl

end Staging

end DosC32.Storage
