import DosC32.Proofs.Transaction
import DosC32.Soundness.Quarantine

/-! # Atomicity of sector transactions

A commit either publishes all staged images, or reports an I/O error, or quarantines its volume for
ever. The rollback puts back the sectors that were written before the write that failed, but not the
sector of that write itself: what the failing write left there stays, and the status is the one of a
clean rollback. The first result says exactly when a commit is atomic all the same.
-/

namespace DosC32.Storage

open Effect Store Pool

variable {Driver : Type}

/-- A staging call with its outcome. -/
abbrev StageEvent := (ℕ × Sector) × Except IomgrError Unit

/-- The image staged last for a sector, over a history with the newest call first. -/
def lastStaged : List StageEvent → ℕ → Option Sector
  | [], _ => none
  | ((lba, image), .ok _) :: earlier, address => if address = lba then some image else lastStaged earlier address
  | (_, .error _) :: earlier, address => lastStaged earlier address

def stageCall (handle : ℕ) (call : ℕ × Sector) : StorageM Driver Unit := iomgrTransactionStage handle call.1 call.2

variable (storage : Storage Driver)

/-- The content of a sector of a registered device. -/
def medium (device lba : ℕ) : Option Sector :=
  (storage.devices.registry device).map (·.sectors lba)

/-- The content of all sectors when the given images of a volume are published. -/
def published (info : VolumeInfo) (images : ℕ → Option Sector) (device lba : ℕ) : Option Sector :=
  if device = info.device ∧ info.firstLba ≤ lba then (images (lba - info.firstLba)).or (storage.medium device lba)
  else storage.medium device lba

/-- No operation on the handle succeeds, now or after any further calls. -/
def Dead (drivers : DriverTable Driver) (storage : Storage Driver) (volume : ℕ) : Prop :=
  ∀ history later, Runs (perform drivers) (fun _ _ => True) storage history later →
    ∀ call, wp (performOn drivers volume call) later (fun _ _ => False) (fun _ _ => True)

/-- Success publishes the images, an I/O error changes no sector, and every other status means that the
volume is quarantined and dead. -/
def AtomicCommit (drivers : DriverTable Driver) (storage : Storage Driver) (handle volume : ℕ) (info : VolumeInfo)
    (images : ℕ → Option Sector) : Prop :=
  wp (iomgrTransactionCommit handle) storage
    (fun _ next => ∀ device lba, next.medium device lba = storage.published info images device lba)
    (fun status next =>
      (status = .ioError → ∀ device lba, next.medium device lba = storage.medium device lba) ∧
      (status ≠ .ioError → next.Quarantined volume ∧ next.Dead drivers volume))

/-- The schedule tears a sector: some forward write is the first to fail and leaves its sector changed,
while the writes that put the earlier images back and the closing flush all complete. -/
def Tears (slot : Transaction) : Prop :=
  ∃ device adapter written entry fault, storage.devices.registry slot.binding.device = some device ∧
    device.writer = some adapter ∧ slot.entries[written]? = some entry ∧
    (∀ earlier < written, adapter (storage.devices.calls + earlier) = none) ∧
    adapter (storage.devices.calls + written) = some fault ∧
    fault.leaves (device.sectors (physical slot.binding entry)) ≠ device.sectors (physical slot.binding entry) ∧
    RollsBack device adapter written (storage.devices.calls + written + 1)

/-- The transaction a live handle names. -/
def transactionOf (handle : ℕ) : Option Transaction :=
  match resolve storage.transactions handle with
  | .ok index => some (storage.transactions index).content
  | .error _ => none

variable (storage : Storage Driver) (handle : ℕ) (device : BlockDevice) (sectors : ℕ → Sector) (calls : ℕ)

theorem medium_withMedium (other lba : ℕ) :
    (storage.withMedium handle device sectors calls).medium other lba =
      if other = handle then some (sectors lba) else storage.medium other lba := by
  by_cases same : other = handle
  · subst same
    simp [medium, withMedium, Devices.withMedium]
  · simp [medium, withMedium, Devices.withMedium, same]

variable {device : BlockDevice}

theorem medium_of_registered (registered : storage.devices.registry handle = some device)
    (lba : ℕ) : storage.medium handle lba = some (device.sectors lba) := by
  simp [medium, registered]

variable {storage : Storage Driver} {handle volume : ℕ} {index : Fin 2} {place : Fin 32} {slot : Transaction}

theorem Held.transactionOf_eq (live : storage.Held handle index slot) : storage.transactionOf handle = some slot := by
  simp only [transactionOf, live.resolved, live.held]

theorem Staged.withCalls (staged : storage.Staged handle index place slot) (calls : ℕ) :
    (storage.idle calls).Staged handle index place slot :=
  ⟨{ staged with }, staged.bound.of_manager rfl⟩

/-- The state of a transaction that has only been staged since it was begun. -/
def Collected (handle : ℕ) (index : Fin 2) (place : Fin 32) (volume : ℕ) (info : VolumeInfo) (history : List StageEvent)
    (storage : Storage Driver) : Prop :=
  ∃ entries, storage.Staged handle index place ⟨volume, info, entries⟩ ∧ storage.Current ⟨volume, info, entries⟩ ∧
    imageOf entries = lastStaged history

theorem collected_step {info : VolumeInfo} {history : List StageEvent}
    (collected : Collected handle index place volume info history storage) (call : ℕ × Sector) :
    wp (stageCall handle call) storage
      (fun value next => Collected handle index place volume info ((call, .ok value) :: history) next)
      (fun error next => Collected handle index place volume info ((call, .error error) :: history) next) := by
  obtain ⟨entries, staged, current, images⟩ := collected
  obtain ⟨lba, after⟩ := call
  apply wp_mono (iomgrTransactionStage_spec staged.toHeld lba after)
  · rintro _ _ ⟨entries', calls, rfl, live, image, kept⟩
    refine ⟨entries', ⟨live, staged.bound.of_manager rfl⟩, kept current, ?_⟩
    rw [image]
    funext address
    simp only [lastStaged, Function.update_apply, images]
  · rintro _ _ ⟨calls, rfl⟩
    exact ⟨entries, staged.withCalls calls, current, images⟩

variable {drivers : DriverTable Driver}

theorem dead_of_quarantined (lawful : KeepQuarantine drivers) (quarantined : storage.Quarantined volume) :
    storage.Dead drivers volume := fun _ _ run call =>
  (Quarantined.persists lawful quarantined run).refuses drivers call

/-- Quarantining the slot a handle resolves to quarantines the handle. -/
theorem Bound.quarantined {info : VolumeInfo} (bound : storage.Bound volume place info) (next : Storage Driver)
    (volumes : next.manager.volumes = setState storage.manager.volumes place .quarantined) :
    next.Quarantined volume := by
  refine ⟨place, ?_, ?_⟩
  · simpa [volumes, setState] using (resolve_eq_ok.mp bound.resolved).1
  · simp [volumes, setState]

theorem Held.present_on (live : storage.Held handle index slot)
    (registered : storage.devices.registry slot.binding.device = some device) :
    Present slot.binding device slot.entries := by
  intro entry member
  obtain ⟨other, registered', fits, inside⟩ := live.present entry member
  cases registered.symm.trans registered'
  exact ⟨fits, inside⟩

theorem Current.images (current : storage.Current slot) {device : BlockDevice}
    (registered : storage.devices.registry slot.binding.device = some device) :
    ∀ entry ∈ slot.entries, entry.before = device.sectors (physical slot.binding entry) :=
  fun entry member => current entry member device registered

theorem medium_published (distinct : (slot.entries.map TransactionEntry.relativeLba).Nodup)
    (registered : storage.devices.registry slot.binding.device = some device) (calls : ℕ) (other lba : ℕ) :
    (storage.withMedium slot.binding.device device (publish slot.binding device.sectors slot.entries)
      calls).medium other lba =
      storage.published slot.binding (imageOf slot.entries) other lba := by
  rw [medium_withMedium, published]
  by_cases same : other = slot.binding.device
  · subst same
    rw [if_pos rfl, publish_apply distinct, medium_of_registered _ _ registered]
    by_cases inside : slot.binding.firstLba ≤ lba
    · rw [if_pos inside, if_pos ⟨rfl, inside⟩]
      cases imageOf slot.entries (lba - slot.binding.firstLba) <;> rfl
    · rw [if_neg inside, if_neg fun both => inside both.2]
  · rw [if_neg same, if_neg fun both => same both.1]

/-- A commit that cannot reach its device's writer is atomic. -/
private theorem atomic_of_unreached (lawful : KeepQuarantine drivers) (staged : storage.Staged handle index place slot)
    (unreached : ∀ lba, storage.devices.Unreached slot.binding.device lba) :
    AtomicCommit drivers storage handle slot.volume slot.binding (imageOf slot.entries) := by
  unfold AtomicCommit
  rw [wp_iomgrTransactionCommit staged.resolved staged.held staged.bound]
  apply wp_returns (writeForward_unreached unreached slot.entries)
  rintro _ next ⟨rfl, same⟩
  obtain rfl := same.symm
  apply wp_mono (settleCommit_unwritten staged.bound index)
  · rintro _ _ ⟨empty, calls, rfl⟩ device lba
    simp only [published, empty, imageOf, List.find?_nil, Option.map_none, Option.none_or, ite_self]
    rfl
  · rintro status _ ⟨calls, ⟨rfl, rfl⟩ | ⟨rfl, rfl⟩⟩
    · exact ⟨fun _ _ _ => rfl, fun other => absurd rfl other⟩
    · have quarantined := staged.bound.quarantined (((storage.idle calls).settled index .quarantined).withVolumes
        (setState storage.manager.volumes place .quarantined)) rfl
      exact ⟨by simp, fun _ => ⟨quarantined, dead_of_quarantined lawful quarantined⟩⟩

private theorem atomic_of_not_tears (lawful : KeepQuarantine drivers) (staged : storage.Staged handle index place slot)
    (current : storage.Current slot) (whole : ¬ storage.Tears slot) :
    AtomicCommit drivers storage handle slot.volume slot.binding (imageOf slot.entries) := by
  by_cases reachable : ∃ device adapter, storage.devices.registry slot.binding.device = some device ∧
      device.writer = some adapter
  · obtain ⟨device, adapter, registered, writer⟩ := reachable
    apply wp_mono (iomgrTransactionCommit_spec staged.resolved staged.held staged.bound registered writer
      (staged.present_on registered))
    · rintro _ _ ⟨-, calls, rfl⟩ other lba
      exact medium_published staged.distinct registered calls other lba
    · rintro status next ⟨written, sectors, calls, base, forwarded, start, undone⟩
      have restored := forwarded.restore_eq staged.distinct (current.images registered)
      cases undone with
      | restored calls' rolls =>
        refine ⟨fun _ other lba => ?_, fun different => absurd rfl different⟩
        have same : restore slot.binding sectors (slot.entries.take written).reverse = device.sectors := by
          rcases restored with ⟨-, same⟩ | ⟨entry, fault, found, fails, earlier, rfl, same⟩
          · exact same
          · have below := (List.getElem?_eq_some_iff.mp found).1
            rw [start below] at rolls
            by_contra torn
            refine whole ⟨device, adapter, written, entry, fault, registered, writer, found, earlier, fails, ?_, rolls⟩
            intro kept
            rw [same, kept, Function.update_eq_self] at torn
            exact torn rfl
        change (storage.withMedium _ _ _ calls').medium other lba = _
        rw [medium_withMedium, same]
        split
        · next here => rw [here, medium_of_registered _ _ registered]
        · rfl
      | quarantined sectors' calls' refused =>
        have quarantined := staged.bound.quarantined (((storage.withMedium slot.binding.device device sectors'
          calls').settled index .quarantined).withVolumes (setState storage.manager.volumes place .quarantined)) rfl
        exact ⟨by simp, fun _ => ⟨quarantined, dead_of_quarantined lawful quarantined⟩⟩
  · apply atomic_of_unreached lawful staged
    intro lba device registered _
    cases writer : device.writer with
    | none => rfl
    | some adapter => exact absurd ⟨device, adapter, registered, writer⟩ reachable

private theorem not_atomic_of_tears (staged : storage.Staged handle index place slot) (current : storage.Current slot)
    (tears : storage.Tears slot) :
    ¬ AtomicCommit drivers storage handle slot.volume slot.binding (imageOf slot.entries) := by
  obtain ⟨device, adapter, written, entry, fault, registered, writer, found, earlier, fails, changed, rolls⟩ := tears
  have below := (List.getElem?_eq_some_iff.mp found).1
  intro atomic
  have both := wp_and atomic (iomgrTransactionCommit_spec staged.resolved staged.held staged.bound registered writer
    (staged.present_on registered))
  refine not_wp_false (wp_mono both ?_ ?_)
  · rintro _ _ ⟨-, all, -⟩
    have completes := all written below
    rw [fails] at completes
    cases completes
  · rintro status next ⟨⟨unchanged, -⟩, written', sectors, calls, base, forwarded, start, undone⟩
    rcases forwarded.restore_eq staged.distinct (current.images registered) with
      ⟨rfl, -⟩ | ⟨entry', fault', found', fails', earlier', rfl, restored⟩
    · cases forwarded with
      | complete all =>
        have completes := all written below
        rw [fails] at completes
        cases completes
      | stopped _ _ _ outside _ => simp at outside
    · have same : written' = written := by
        rcases Nat.lt_trichotomy written' written with less | same | more
        · simp [earlier written' less] at fails'
        · exact same
        · simp [earlier' written more] at fails
      subst same
      cases found.symm.trans found'
      cases fails.symm.trans fails'
      rw [← start below] at rolls
      cases undone with
      | restored calls' _ =>
        have kept := unchanged rfl slot.binding.device (physical slot.binding entry)
        change (storage.withMedium _ _ _ calls').medium _ _ = _ at kept
        rw [medium_withMedium, if_pos rfl, restored, Function.update_self, medium_of_registered _ _ registered] at kept
        exact changed (Option.some.inj kept)
      | quarantined _ _ refused => exact refused rolls

/-- Whatever is staged in a transaction, including sectors staged more than once, and whatever the
device does, its commit is atomic exactly when the schedule does not tear a sector. -/
theorem commit_atomic_iff {drivers : DriverTable Driver} (lawful : KeepQuarantine drivers) {volume handle : ℕ}
    {info : VolumeInfo} {start opened staged : Storage Driver} {history : List StageEvent}
    (reported : iomgrGetVolumeInfo volume start = .ok info start)
    (begun : iomgrTransactionBegin volume start = .ok handle opened)
    (stages : Runs (stageCall handle) (fun _ _ => True) opened history staged) :
    AtomicCommit drivers staged handle volume info (lastStaged history) ↔
      ∀ slot, staged.transactionOf handle = some slot → ¬ staged.Tears slot := by
  have opening := wp_of_ok (iomgrTransactionBegin_spec volume) begun
  obtain ⟨index, place, info', bound, -, empty, -⟩ := opening
  have same : info = info' := by
    have known : wp (iomgrGetVolumeInfo volume) start (fun value _ => value = info') (fun _ _ => False) :=
      bound.wp_iomgrGetVolumeInfo.mpr rfl
    have value := wp_of_ok known reported
    exact value
  subst same
  have fresh : Collected handle index place volume info [] opened :=
    ⟨[], empty, by simp [Current], by funext lba; rfl⟩
  have collected := stages.invariant (Collected handle index place volume info) fresh
    fun history storage call collected _ => collected_step collected call
  obtain ⟨entries, ready, current, images⟩ := collected
  rw [ready.transactionOf_eq, ← images]
  constructor
  · rintro atomic slot here tears
    cases here
    exact not_atomic_of_tears ready current tears atomic
  · intro whole
    exact atomic_of_not_tears lawful ready current (whole _ rfl)

def smallInfo : VolumeInfo := ⟨7, 1, 0, 4, 3, 12, 0⟩

variable (adapter : ℕ → Option SectorWriteFault)

def smallDevice : BlockDevice :=
  ⟨4, 512, 1, fun _ => none, some adapter, none, fun _ => .zero⟩

/-- A volume of four zeroed sectors on a device with the given write schedule. -/
def smallStorage : Storage Unit where
  devices := ⟨Function.update (fun _ => none) 1 (some (smallDevice adapter)), 0⟩
  manager :=
    { initialized := true
      volumes := fun place => if place = 0 then ⟨.live, 1, ⟨0, 5, smallInfo⟩⟩ else ⟨.free, 0, ⟨0, 0, smallInfo⟩⟩
      files := fun _ => ⟨.free, 0, ⟨0, 0⟩⟩
      searches := fun _ => ⟨.free, 0, ⟨0, 0⟩⟩ }
  transactions := fun _ => ⟨.free, 0, ⟨0, smallInfo, []⟩⟩
  driver := ()

def smallVolume : ℕ := makeHandle 0 1

def firstTransaction : ℕ := makeHandle 0 1

/-- The only write of the commit fails and leaves a sector of ones. -/
def tearingWrite (call : ℕ) : Option SectorWriteFault :=
  if call = 1 then some ⟨some .ioError, some fun _ => 1⟩ else none

def tornStart : Storage Unit := smallStorage tearingWrite

def tornOpened : Storage Unit := final (iomgrTransactionBegin smallVolume) tornStart

def tornStaged : Storage Unit := final (stageCall firstTransaction (2, fun _ => 9)) tornOpened

/-- The commit reports the status of a clean rollback, and the sector of the failed write has changed. -/
theorem commit_leaves_torn_sector :
    iomgrTransactionBegin smallVolume tornStart = .ok firstTransaction tornOpened ∧
    stageCall firstTransaction (2, fun _ => 9) tornOpened = .ok () tornStaged ∧
    tornStaged.medium 1 2 = some .zero ∧
    outcome (iomgrTransactionCommit firstTransaction) tornStaged = .error .ioError ∧
    (final (iomgrTransactionCommit firstTransaction) tornStaged).medium 1 2 = some (fun _ => 1) :=
  ⟨rfl, rfl, rfl, rfl, rfl⟩

theorem commit_atomic_iff_torn :
    AtomicCommit (fun _ => none) tornStaged firstTransaction smallVolume smallInfo
        (lastStaged [((2, fun _ => 9), .ok ())]) ↔
      ∀ slot, tornStaged.transactionOf firstTransaction = some slot → ¬ tornStaged.Tears slot := by
  have lawful : KeepQuarantine (fun _ => none : DriverTable Unit) := fun _ _ _ found => by cases found
  have stages : Runs (stageCall firstTransaction) (fun _ _ => True) tornOpened [((2, fun _ => 9), .ok ())] tornStaged :=
    .step (2, fun _ => 9) .start trivial
  have reported : iomgrGetVolumeInfo smallVolume tornStart = .ok smallInfo tornStart := rfl
  have begun : iomgrTransactionBegin smallVolume tornStart = .ok firstTransaction tornOpened := rfl
  exact commit_atomic_iff lawful reported begun stages

end DosC32.Storage
