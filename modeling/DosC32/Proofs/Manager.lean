import DosC32.Model.Transaction
import DosC32.Proofs.BlockDevice

/-! # Contracts of the manager's pools, and the permanence of quarantine

No operation of the manager or of the transaction pool changes a quarantined volume slot, provided the
driver callbacks do not: they reach the manager only through these operations. A handle of a
quarantined volume is therefore refused for ever.
-/

namespace DosC32

open Effect Pool

variable {Driver : Type} (property : Storage Driver → Prop)

/-- Every named operation of a driver keeps a property of the storage system. -/
structure DriverNamedOps.Keeps (ops : DriverNamedOps Driver) : Prop where
  stat : ∀ op, ops.stat = some op → ∀ context path, Preserves property (op context path)
  openFile : ∀ op, ops.openFile = some op → ∀ context path, Preserves property (op context path)
  createFile : ∀ op, ops.createFile = some op → ∀ context path attributes volume,
    Preserves property (op context path attributes volume)
  readFile : ∀ op, ops.readFile = some op → ∀ context file offset capacity count,
    Preserves property (op context file offset capacity count)
  writeFile : ∀ op, ops.writeFile = some op → ∀ context file volume offset source count,
    Preserves property (op context file volume offset source count)
  getFileInfo : ∀ op, ops.getFileInfo = some op → ∀ context file, Preserves property (op context file)
  setFileInfo : ∀ op, ops.setFileInfo = some op → ∀ context file volume update,
    Preserves property (op context file volume update)
  closeFile : ∀ op, ops.closeFile = some op → ∀ context file, Preserves property (op context file)
  openSearch : ∀ op, ops.openSearch = some op → ∀ context pattern attributes,
    Preserves property (op context pattern attributes)
  searchNext : ∀ op, ops.searchNext = some op → ∀ context search, Preserves property (op context search)
  closeSearch : ∀ op, ops.closeSearch = some op → ∀ context search, Preserves property (op context search)
  querySpace : ∀ op, ops.querySpace = some op → ∀ context countFree, Preserves property (op context countFree)
  createDirectory : ∀ op, ops.createDirectory = some op → ∀ context path volume,
    Preserves property (op context path volume)
  rename : ∀ op, ops.rename = some op → ∀ context oldPath newPath volume,
    Preserves property (op context oldPath newPath volume)

/-- Every callback of a driver keeps a property of the storage system. -/
structure DriverOps.Keeps (ops : DriverOps Driver) : Prop where
  probe : ∀ context request storage, property storage → property (ops.probe context request storage).2
  mount : ∀ context request, Preserves property (ops.mount context request)
  unmount : ∀ context volume, Preserves property (ops.unmount context volume)
  named : ∀ named, ops.named = some named → named.Keeps property

namespace Storage

variable {storage : Storage Driver} {failed : IomgrError → Storage Driver → Prop} {Content : Type}

theorem wp_resolveIn {count : ℕ} (slots : Storage Driver → Fin count → Slot Content) (handle : ℕ)
    {done : Fin count → Storage Driver → Prop} :
    wp (resolveIn slots handle) storage done failed ↔
      (∀ index, resolve (slots storage) handle = .ok index → done index storage) ∧
      (∀ refusal, resolve (slots storage) handle = .error refusal → failed (refusalStatus refusal) storage) := by
  unfold wp resolveIn
  cases resolve (slots storage) handle <;> simp

/-- A live transaction handle resolves to its slot. -/
theorem wp_resolveTransaction {handle : ℕ} {index : Fin 2} {done : Fin 2 → Storage Driver → Prop}
    (resolved : resolve storage.transactions handle = .ok index) :
    wp (resolveTransaction handle) storage done failed ↔ done index storage := by
  simp [resolveTransaction, wp_resolveIn, resolved]

/-- A live volume handle resolves to its slot. -/
theorem wp_resolveVolume {volume : ℕ} {place : Fin 32} {done : Fin 32 → Storage Driver → Prop}
    (resolved : resolve storage.manager.volumes volume = .ok place) :
    wp (resolveVolume volume) storage done failed ↔ done place storage := by
  simp [resolveVolume, wp_resolveIn, resolved]

theorem wp_reserveIn {count : ℕ} (slots : Storage Driver → Fin count → Slot Content)
    (put : (Fin count → Slot Content) → Storage Driver → Storage Driver) (taken : State)
    {done : Fin count → Storage Driver → Prop} :
    wp (reserveIn slots put taken) storage done failed ↔
      (∀ index, (reserve taken (slots storage)).1 = some index →
        done index (put (reserve taken (slots storage)).2 storage)) ∧
      ((reserve taken (slots storage)).1 = none → failed .noSlot (put (reserve taken (slots storage)).2 storage)) := by
  unfold wp reserveIn
  rcases reserve taken (slots storage) with ⟨_ | index, next⟩ <;> simp

variable {property : Storage Driver → Prop}

theorem preserves_resolveIn {count : ℕ} (slots : Storage Driver → Fin count → Slot Content)
    (handle : ℕ) : Preserves property (resolveIn slots handle) := by
  intro storage holds
  rw [wp_resolveIn]
  exact ⟨fun _ _ => holds, fun _ _ => holds⟩

theorem preserves_contentAt {α : Type} (view : Storage Driver → α) :
    Preserves property (do pure (view (← get)) : StorageM Driver α) :=
  preserves_get.bind fun _ => preserves_pure _

theorem preserves_requireInitialized : Preserves property (requireInitialized : StorageM Driver Unit) :=
  preserves_get.bind fun _ => preserves_failWhen _ _

theorem preserves_iomgrGetVolumeInfo (volume : ℕ) :
    Preserves property (iomgrGetVolumeInfo volume : StorageM Driver VolumeInfo) := by
  refine preserves_requireInitialized.bind fun _ => (preserves_resolveIn _ _).bind fun _ => ?_
  exact (preserves_contentAt _).bind fun _ => .guard <| preserves_pure _

/-- The elementary effects of a commit keep a property of the storage system. -/
structure CommitSteps (property : Storage Driver → Prop) : Prop where
  write : ∀ handle lba content,
    Preserves property (transfer (Devices.blockDeviceWriteSector handle lba content) : StorageM Driver Unit)
  flush : ∀ handle, Preserves property (transfer (Devices.blockDeviceFlush handle) : StorageM Driver Unit)
  settle (index : Fin 2) (state : State) (ended : state ≠ .live := by simp) :
    Preserves property (setTransactionState index state : StorageM Driver Unit)
  quarantine : ∀ volume, Preserves property (iomgrQuarantineVolume volume : StorageM Driver Unit)

variable (steps : CommitSteps property)
include steps

variable (binding : VolumeInfo)

theorem preserves_writeBound (lba : ℕ) (content : Sector) :
    Preserves property (writeBound binding lba content : StorageM Driver Unit) :=
  preserves_demand.bind fun _ => steps.write _ _ _

theorem preserves_writeForward (entries : List TransactionEntry) :
    Preserves property (writeForward binding entries : StorageM Driver ℕ) := by
  induction entries with
  | nil => exact preserves_pure _
  | cons entry rest ih =>
    refine (preserves_writeBound steps _ _ _).attempt.bind fun result => ?_
    cases result with
    | ok => exact ih.bind fun _ => preserves_pure _
    | error => exact preserves_pure _

theorem preserves_rollbackLoop (entries : List TransactionEntry) :
    Preserves property (rollbackLoop binding entries : StorageM Driver Bool) := by
  induction entries with
  | nil => exact preserves_pure _
  | cons entry rest ih =>
    exact (preserves_writeBound steps _ _ _).attempt.bind fun _ => ih.bind fun _ => preserves_pure _

theorem preserves_undoCommit (index : Fin 2) (slot : Transaction) (written : ℕ) :
    Preserves property (undoCommit index slot written : StorageM Driver Unit) := by
  refine Preserves.bind ?_ fun restored => ?_
  · refine (preserves_rollbackLoop steps _ _).bind fun _ => ?_
    exact (steps.flush _).attempt.bind fun _ => preserves_pure _
  · refine Preserves.ite ((steps.settle index .free).bind fun _ => preserves_throw _) ?_
    refine (steps.settle index .quarantined).bind fun _ => (steps.quarantine _).attempt.bind fun result => ?_
    cases result with
    | ok => exact preserves_throw _
    | error => exact preserves_throw _

theorem preserves_settleCommit (index : Fin 2) (slot : Transaction) (written : ℕ) :
    Preserves property (settleCommit index slot written : StorageM Driver Unit) := by
  refine Preserves.ite ((steps.flush _).attempt.bind fun result => ?_) (preserves_undoCommit steps _ _ _)
  cases result with
  | ok => exact steps.settle index .free
  | error => exact preserves_undoCommit steps _ _ _

theorem preserves_checkBinding (index : Fin 2) (slot : Transaction) :
    Preserves property (checkBinding index slot : StorageM Driver Unit) := by
  have release (error : IomgrError) :
      Preserves property (do setTransactionState index .free; throw error : StorageM Driver Unit) :=
    (steps.settle index .free).bind fun _ => preserves_throw _
  refine (preserves_iomgrGetVolumeInfo _).attempt.bind fun result => ?_
  cases result with
  | ok => exact Preserves.ite (release _) (preserves_pure _)
  | error status => exact release status

/-- What the elementary effects keep, the whole commit keeps. -/
theorem preserves_iomgrTransactionCommit (transaction : ℕ) :
    Preserves property (iomgrTransactionCommit transaction : StorageM Driver Unit) := by
  refine (preserves_resolveIn _ _).bind fun _ => (preserves_contentAt _).bind fun _ => ?_
  refine (preserves_checkBinding steps _ _).bind fun _ => (preserves_writeForward steps _ _).bind fun _ => ?_
  exact preserves_settleCommit steps _ _ _

omit steps

/-- The volume slots that were quarantined are as they were. -/
def Kept (start storage : Storage Driver) : Prop :=
  ∀ place, (start.manager.volumes place).state = .quarantined →
    storage.manager.volumes place = start.manager.volumes place

/-- The drivers leave quarantined volume slots alone. -/
def KeepQuarantine (drivers : DriverTable Driver) : Prop :=
  ∀ start : Storage Driver, ∀ index ops, drivers index = some ops → ops.Keeps start.Kept

variable {start : Storage Driver}

theorem Kept.refl (start : Storage Driver) : start.Kept start := fun _ _ => rfl

theorem preserves_kept_of_volumes {update : Storage Driver → Storage Driver}
    (same : ∀ storage, (update storage).manager.volumes = storage.manager.volumes) :
    Preserves start.Kept (modify update : StorageM Driver PUnit) :=
  preserves_modify fun storage kept place quarantined => by
    rw [same storage]
    exact kept place quarantined

/-- A slot that is not among the quarantined ones may be changed. -/
theorem preserves_updateVolume {place : Fin 32} (other : (start.manager.volumes place).state ≠ .quarantined)
    (change : Storage Driver → Slot Volume) :
    Preserves start.Kept (modify fun storage => storage.withVolumes
      (Function.update storage.manager.volumes place (change storage)) : StorageM Driver PUnit) := by
  refine preserves_modify fun storage kept here quarantined => ?_
  have apart : here ≠ place := fun same => other (same ▸ quarantined)
  exact (Function.update_of_ne apart _ _).trans (kept here quarantined)

variable {count : ℕ} {Content α : Type}

theorem preserves_reserveIn {slots : Storage Driver → Fin count → Slot Content}
    {put : (Fin count → Slot Content) → Storage Driver → Storage Driver} (taken : State)
    (same : ∀ next storage, (put next storage).manager.volumes = storage.manager.volumes) :
    Preserves start.Kept (reserveIn slots put taken) := by
  intro storage kept
  have unchanged (next : Fin count → Slot Content) : start.Kept (put next storage) := fun place quarantined => by
    rw [same]
    exact kept place quarantined
  rw [wp_reserveIn]
  exact ⟨fun _ _ => unchanged _, fun _ => unchanged _⟩

/-- A reserved volume slot was free, so it is not one of the quarantined slots either. -/
theorem preserves_reserveVolumeSlot {continuation : Fin 32 → StorageM Driver α}
    (rest : ∀ place, (start.manager.volumes place).state ≠ .quarantined → Preserves start.Kept (continuation place)) :
    Preserves start.Kept (reserveVolumeSlot >>= continuation) := by
  intro storage kept
  have unchanged : start.Kept (storage.withVolumes (reserve .reserved storage.manager.volumes).2) := by
    intro place quarantined
    have busy : (storage.manager.volumes place).state ≠ .free := by
      rw [kept place quarantined, quarantined]
      decide
    exact (reserve_of_busy busy).trans (kept place quarantined)
  rw [wp_bind, reserveVolumeSlot, wp_reserveIn]
  refine ⟨fun place found => ?_, fun _ => unchanged⟩
  have free := (reserveFrom_taken .reserved _ _ found).1
  refine rest place (fun quarantined => ?_) _ unchanged
  rw [kept place quarantined, quarantined] at free
  cases free

end Storage

end DosC32
