import DosC32.Core.Run
import DosC32.Proofs.Manager

/-! # Quarantined volumes stay out of reach

Every operation of the storage core, in any order and with any arguments, leaves a quarantined volume
slot as it is. From the moment of quarantine no operation on the handle of the volume succeeds.
-/

namespace DosC32

open Effect Pool

/-- The operations that take a volume handle. -/
inductive VolumeCall where
  | unmount
  | getVolumeInfo
  | quarantineVolume
  | getDriverVolumeContext (identity : ℕ)
  | transactionBegin
  | stat (path : Path)
  | openFile (path : Path)
  | createFile (path : Path) (attributes : ℕ)
  | openSearch (pattern : Path) (attributes : ℕ)
  | querySpace (countFree : Bool)
  | createDirectory (path : Path)
  | rename (oldPath newPath : Path)

/-- The operations of the manager and of the transaction pool. -/
inductive StorageCall where
  | mount (request : MountRequest)
  | onVolume (volume : ℕ) (call : VolumeCall)
  | readFile (file offset capacity count : ℕ)
  | writeFile (file offset : ℕ) (source : List UInt8) (count : ℕ)
  | getFileInfo (file : ℕ)
  | setFileInfo (file : ℕ) (update : FileUpdate)
  | closeFile (file : ℕ)
  | searchNext (search : ℕ)
  | closeSearch (search : ℕ)
  | transactionStage (transaction lba : ℕ) (after : Sector)
  | transactionCommit (transaction : ℕ)
  | transactionAbort (transaction : ℕ)

namespace Storage

variable {Driver : Type} (drivers : DriverTable Driver)

/-- Run an operation for its effect and its status. -/
def ignore {α : Type} (operation : StorageM Driver α) : StorageM Driver Unit := do
  let _ ← operation

def performOn (volume : ℕ) : VolumeCall → StorageM Driver Unit
  | .unmount => iomgrUnmount drivers volume
  | .getVolumeInfo => ignore (iomgrGetVolumeInfo volume)
  | .quarantineVolume => iomgrQuarantineVolume volume
  | .getDriverVolumeContext identity => ignore (iomgrGetDriverVolumeContext volume identity)
  | .transactionBegin => ignore (iomgrTransactionBegin volume)
  | .stat path => ignore (iomgrStat drivers volume path)
  | .openFile path => ignore (iomgrOpenFile drivers volume path)
  | .createFile path attributes => ignore (iomgrCreateFile drivers volume path attributes)
  | .openSearch pattern attributes => ignore (iomgrOpenSearch drivers volume pattern attributes)
  | .querySpace countFree => ignore (iomgrQuerySpace drivers volume countFree)
  | .createDirectory path => iomgrCreateDirectory drivers volume path
  | .rename oldPath newPath => iomgrRename drivers volume oldPath newPath

def perform : StorageCall → StorageM Driver Unit
  | .mount request => ignore (iomgrMount drivers request)
  | .onVolume volume call => performOn drivers volume call
  | .readFile file offset capacity count => ignore (iomgrReadFile drivers file offset capacity count)
  | .writeFile file offset source count => ignore (iomgrWriteFile drivers file offset source count)
  | .getFileInfo file => ignore (iomgrGetFileInfo drivers file)
  | .setFileInfo file update => iomgrSetFileInfo drivers file update
  | .closeFile file => iomgrCloseFile drivers file
  | .searchNext search => ignore (iomgrSearchNext drivers search)
  | .closeSearch search => iomgrCloseSearch drivers search
  | .transactionStage transaction lba after => iomgrTransactionStage transaction lba after
  | .transactionCommit transaction => iomgrTransactionCommit transaction
  | .transactionAbort transaction => iomgrTransactionAbort transaction

/-- The volume named by the handle is quarantined. -/
def Quarantined (storage : Storage Driver) (volume : ℕ) : Prop :=
  ∃ place, decode 32 volume = some (place, (storage.manager.volumes place).generation) ∧
    (storage.manager.volumes place).state = .quarantined

/-- A quarantined volume refuses every operation on its handle. -/
theorem Quarantined.refuses {storage : Storage Driver} {volume : ℕ} (quarantined : storage.Quarantined volume)
    (call : VolumeCall) : wp (performOn drivers volume call) storage (fun _ _ => False) (fun _ _ => True) := by
  obtain ⟨place, decoded, state⟩ := quarantined
  have refused := resolve_quarantined decoded state
  cases call <;> simp only [performOn, ignore, iomgrUnmount, iomgrGetVolumeInfo, iomgrQuarantineVolume,
    iomgrGetDriverVolumeContext, iomgrTransactionBegin, iomgrStat, iomgrOpenFile, iomgrCreateFile, iomgrOpenSearch,
    iomgrQuerySpace, iomgrCreateDirectory, iomgrRename, requireInitialized, bind_assoc, wp_rules, resolveVolume,
    wp_resolveIn, refused, reduceCtorEq, false_implies, implies_true, and_self]

section Steps

variable {drivers} {α : Type}

theorem preserves_ignore {property : Storage Driver → Prop} {operation : StorageM Driver α}
    (kept : Preserves property operation) : Preserves property (ignore operation) :=
  kept.bind fun _ => preserves_pure _

/-- The elementary effects of the storage core keep a property of the storage system. An operation may settle the
volume slots that are open to it. -/
structure ServiceSteps (property : Storage Driver → Prop) (isOpen : Fin 32 → Prop) : Prop where
  resolved : ∀ storage handle place, property storage → resolve storage.manager.volumes handle = .ok place →
    isOpen place
  volume (place : Fin 32) (state : State) (opened : isOpen place) (ended : state ≠ .live := by simp) :
    Preserves property (setVolumeState place state : StorageM Driver Unit)
  file (index : Fin 64) (state : State) (ended : state ≠ .live := by simp) :
    Preserves property (setFileState index state : StorageM Driver Unit)
  search (index : Fin 32) (state : State) (ended : state ≠ .live := by simp) :
    Preserves property (setSearchState index state : StorageM Driver Unit)
  settle (index : Fin 2) (state : State) (ended : state ≠ .live := by simp) :
    Preserves property (setTransactionState index state : StorageM Driver Unit)
  reserve : Preserves property (reserveTransaction : StorageM Driver (Fin 2))
  fill : ∀ index content, Preserves property (setTransaction index content : StorageM Driver Unit)
  device : ∀ {α : Type} (operation : DeviceM α), Preserves property (transfer operation : StorageM Driver α)

/-- So do the callbacks and the operations that fill a slot of the manager. -/
structure ManagerSteps (drivers : DriverTable Driver) (property : Storage Driver → Prop) (isOpen : Fin 32 → Prop) : Prop
    extends ServiceSteps property isOpen where
  mount : ∀ request, Preserves property (iomgrMount drivers request)
  openFile : ∀ volume path, Preserves property (iomgrOpenFile drivers volume path)
  createFile : ∀ volume path attributes, Preserves property (iomgrCreateFile drivers volume path attributes)
  openSearch : ∀ volume pattern attributes, Preserves property (iomgrOpenSearch drivers volume pattern attributes)
  callbacks : ∀ index ops, drivers index = some ops → ops.Keeps property

variable {property : Storage Driver → Prop} {isOpen : Fin 32 → Prop}

/-- The operation a driver offers keeps what its callbacks keep. -/
theorem preserves_namedOp (callbacks : ∀ index ops, drivers index = some ops → ops.Keeps property) {β : Type}
    (volume : Volume) (select : DriverNamedOps Driver → Option β) {continuation : β → StorageM Driver α}
    (rest : ∀ ops : DriverNamedOps Driver, ops.Keeps property → ∀ op, select ops = some op →
      Preserves property (continuation op)) :
    Preserves property (namedOp drivers volume select >>= continuation) := by
  intro storage holds
  rw [wp_bind, namedOp, wp_demand]
  refine ⟨fun op found => ?_, fun _ => holds⟩
  obtain ⟨ops, named, selected⟩ := Option.bind_eq_some_iff.mp found
  obtain ⟨driver, registered, offered⟩ := Option.bind_eq_some_iff.mp named
  exact rest ops ((callbacks _ driver registered).named ops offered) op selected storage holds

namespace ServiceSteps

variable (steps : ServiceSteps property isOpen) {place : Fin 32} {handle : ℕ}
include steps

theorem preserves_resolveVolume {continuation : Fin 32 → StorageM Driver α}
    (rest : ∀ place, isOpen place → Preserves property (continuation place)) :
    Preserves property (resolveVolume handle >>= continuation) := by
  intro storage holds
  rw [wp_bind, resolveVolume, wp_resolveIn]
  exact ⟨fun place resolved => rest place (steps.resolved storage handle place holds resolved) storage holds,
    fun _ _ => holds⟩

theorem preserves_quarantine (volume : ℕ) : Preserves property (iomgrQuarantineVolume volume : StorageM Driver Unit) :=
  preserves_requireInitialized.bind fun _ => steps.preserves_resolveVolume fun place opened =>
    steps.volume place .quarantined opened

theorem commitSteps : CommitSteps property :=
  ⟨fun _ _ _ => steps.device _, fun _ => steps.device _, @steps.settle, steps.preserves_quarantine⟩

theorem preserves_begin (volume : ℕ) : Preserves property (iomgrTransactionBegin volume : StorageM Driver ℕ) := by
  refine (preserves_iomgrGetVolumeInfo volume).bind fun _ => .guard <| ?_
  refine steps.reserve.bind fun _ => (steps.fill _ _).bind fun _ => ?_
  exact preserves_get.bind fun _ => preserves_pure _

theorem preserves_stage (transaction lba : ℕ) (after : Sector) :
    Preserves property (iomgrTransactionStage transaction lba after : StorageM Driver Unit) := by
  refine (preserves_resolveIn _ _).bind fun _ => (preserves_contentAt _).bind fun _ => ?_
  refine .guard <| preserves_demand.bind fun _ => ?_
  refine Preserves.ite (steps.fill _ _) (.guard <| ?_)
  exact (steps.device _).bind fun _ => steps.fill _ _

theorem preserves_abort (transaction : ℕ) :
    Preserves property (iomgrTransactionAbort transaction : StorageM Driver Unit) :=
  (preserves_resolveIn _ _).bind fun index => steps.settle index .free

theorem preserves_callDriver (opened : isOpen place) {release : StorageM Driver Unit} {operation : StorageM Driver α}
    (released : Preserves property release) (kept : Preserves property operation) :
    Preserves property (callDriver place release operation) := by
  refine kept.attempt.bind fun result => ?_
  cases result with
  | ok value => exact preserves_pure value
  | error status =>
    refine released.bind fun _ => Preserves.bind ?_ fun _ => preserves_throw _
    exact Preserves.ite (steps.volume place .quarantined opened) (preserves_pure _)

theorem preserves_distrust (opened : isOpen place) {discard : StorageM Driver Unit}
    (discarded : Preserves property discard) : Preserves property (distrust place discard : StorageM Driver α) :=
  discarded.bind fun _ => (steps.volume place .quarantined opened).bind fun _ => preserves_throw _

/-- The common head of the operations on an open file or search. -/
theorem preserves_onObject {count : ℕ} {slots : Storage Driver → Fin count → Slot NamedObject}
    {continuation : Fin count → NamedObject → Fin 32 → Volume → StorageM Driver α}
    (rest : ∀ object slot place, isOpen place → ∀ volume, Preserves property (continuation object slot place volume)) :
    Preserves property (do
      let object ← resolveIn slots handle
      let slot ← (get >>= fun storage => pure (slots storage object).content : StorageM Driver NamedObject)
      let place ← resolveVolume slot.volume
      let volume ← volumeAt place
      continuation object slot place volume) := by
  refine (preserves_resolveIn _ _).bind fun object => (preserves_contentAt _).bind fun slot => ?_
  exact steps.preserves_resolveVolume fun place opened => (preserves_contentAt _).bind fun volume =>
    rest object slot place opened volume

/-- The common head of the operations on a volume. -/
theorem preserves_onVolume {continuation : Fin 32 → Volume → StorageM Driver α}
    (rest : ∀ place, isOpen place → ∀ volume, Preserves property (continuation place volume)) : Preserves property (do
      let place ← resolveVolume handle
      let volume ← volumeAt place
      continuation place volume) :=
  steps.preserves_resolveVolume fun place opened => (preserves_contentAt _).bind fun volume => rest place opened volume

end ServiceSteps

variable (steps : ManagerSteps drivers property isOpen)
include steps

/-- The common tail of the operations that check what a driver returned. -/
theorem ManagerSteps.preserves_checked {β : Type} {place : Fin 32} (opened : isOpen place) {volume : Volume}
    {select : DriverNamedOps Driver → Option β} {operation : β → StorageM Driver α} {impossible : α → Prop}
    [DecidablePred impossible] {discard : StorageM Driver Unit} (discarded : Preserves property discard)
    (kept : ∀ ops : DriverNamedOps Driver, ops.Keeps property → ∀ op, select ops = some op →
      Preserves property (operation op)) : Preserves property (do
      let op ← namedOp drivers volume select
      let prepared ← callDriver place (pure ()) (operation op)
      if impossible prepared then distrust place discard else pure prepared) := by
  refine preserves_namedOp steps.callbacks volume _ fun ops lawful op found => ?_
  refine (steps.preserves_callDriver opened (preserves_pure _) (kept ops lawful op found)).bind fun _ => ?_
  exact Preserves.ite (steps.preserves_distrust opened discarded) (preserves_pure _)

theorem ManagerSteps.preserves_performOn (handle : ℕ) (call : VolumeCall) :
    Preserves property (performOn drivers handle call) := by
  cases call with
  | getVolumeInfo => exact preserves_ignore (preserves_iomgrGetVolumeInfo handle)
  | quarantineVolume => exact steps.preserves_quarantine handle
  | getDriverVolumeContext identity =>
    refine preserves_ignore (preserves_requireInitialized.bind fun _ => .guard <| ?_)
    exact steps.preserves_onVolume fun place opened content => .guard <| preserves_pure _
  | transactionBegin => exact preserves_ignore (steps.preserves_begin handle)
  | openFile path => exact preserves_ignore (steps.openFile handle path)
  | createFile path attributes => exact preserves_ignore (steps.createFile handle path attributes)
  | openSearch pattern attributes => exact preserves_ignore (steps.openSearch handle pattern attributes)
  | unmount =>
    refine preserves_requireInitialized.bind fun _ => steps.preserves_resolveVolume fun place opened => ?_
    refine preserves_get.bind fun _ => .guard <| (preserves_contentAt _).bind fun volume => ?_
    intro storage holds
    rw [wp_bind, wp_demand]
    refine ⟨fun ops registered => ?_, fun _ => holds⟩
    have unmounted := (steps.callbacks _ ops registered).unmount ops.context volume.driverVolumeContext
    refine (unmounted.attempt.bind fun result => ?_) storage holds
    rcases result with (_ | _) | _
    · exact preserves_throw _
    · exact (steps.volume place .quarantined opened).bind fun _ => preserves_throw _
    · exact steps.volume place .free opened
  | stat path =>
    refine preserves_ignore (.guard <| steps.preserves_onVolume fun place opened volume => ?_)
    exact steps.preserves_checked opened (preserves_pure _) fun ops kept op found => kept.stat op found _ _
  | querySpace countFree =>
    refine preserves_ignore (steps.preserves_onVolume fun place opened volume => ?_)
    exact steps.preserves_checked opened (preserves_pure _) fun ops kept op found => kept.querySpace op found _ _
  | createDirectory | rename =>
    refine .guard <| steps.preserves_onVolume fun place opened volume => ?_
    refine .guard <| preserves_namedOp steps.callbacks volume _ fun ops kept op found => ?_
    refine steps.preserves_callDriver opened (preserves_pure _) ?_
    cases kept
    solve_by_elim

/-- What the elementary effects keep, every call of the storage core keeps. -/
theorem ManagerSteps.preserves_perform (call : StorageCall) : Preserves property (perform drivers call) := by
  cases call with
  | mount request => exact preserves_ignore (steps.mount request)
  | onVolume volume call => exact steps.preserves_performOn volume call
  | readFile file offset capacity count =>
    refine preserves_ignore (.guard <| steps.preserves_onObject fun object slot place opened volume => ?_)
    exact steps.preserves_checked opened (steps.file object .quarantined)
      fun ops kept op found => kept.readFile op found _ _ _ _ _
  | writeFile file offset source count =>
    refine preserves_ignore (.guard <| steps.preserves_onObject fun object slot place opened volume => ?_)
    refine .guard <| steps.preserves_checked opened (steps.file object .quarantined) ?_
    exact fun ops kept op found => kept.writeFile op found _ _ _ _ _ _
  | getFileInfo file =>
    refine preserves_ignore (steps.preserves_onObject fun object slot place opened volume => ?_)
    exact steps.preserves_checked opened (steps.file object .quarantined)
      fun ops kept op found => kept.getFileInfo op found _ _
  | setFileInfo file update =>
    refine .guard <| steps.preserves_onObject fun object slot place opened volume => ?_
    refine .guard <| preserves_namedOp steps.callbacks volume _ fun ops kept op found => ?_
    exact steps.preserves_callDriver opened (preserves_pure _) (kept.setFileInfo op found _ _ _ _)
  | closeFile file =>
    refine steps.preserves_onObject fun object slot place opened volume => ?_
    refine preserves_namedOp steps.callbacks volume _ fun ops kept op found => ?_
    refine (steps.preserves_callDriver opened (steps.file object .quarantined) (kept.closeFile op found _ _)).bind
      fun _ => ?_
    exact steps.file object .free
  | searchNext search =>
    refine preserves_ignore (steps.preserves_onObject fun object slot place opened volume => ?_)
    exact steps.preserves_checked opened (steps.search object .quarantined)
      fun ops kept op found => kept.searchNext op found _ _
  | closeSearch search =>
    refine steps.preserves_onObject fun object slot place opened volume => ?_
    refine preserves_namedOp steps.callbacks volume _ fun ops kept op found => ?_
    refine (steps.preserves_callDriver opened (steps.search object .quarantined) (kept.closeSearch op found _ _)).bind
      fun _ => ?_
    exact steps.search object .free
  | transactionStage transaction lba after => exact steps.preserves_stage transaction lba after
  | transactionCommit transaction => exact preserves_iomgrTransactionCommit steps.commitSteps transaction
  | transactionAbort transaction => exact steps.preserves_abort transaction

end Steps

section Permanence

variable {drivers} {start : Storage Driver}

/-- The quarantined slots are kept by the elementary effects. -/
theorem kept_serviceSteps :
    ServiceSteps start.Kept (fun place => (start.manager.volumes place).state ≠ .quarantined) where
  resolved storage handle place kept resolved quarantined := by
    have live := (resolve_eq_ok.mp resolved).2
    rw [← kept place quarantined, live] at quarantined
    cases quarantined
  volume place state other _ := preserves_updateVolume other _
  file _ _ _ := preserves_kept_of_volumes fun _ => rfl
  search _ _ _ := preserves_kept_of_volumes fun _ => rfl
  settle _ _ _ := preserves_kept_of_volumes fun _ => rfl
  reserve := preserves_reserveIn _ fun _ _ => rfl
  fill _ _ := preserves_kept_of_volumes fun _ => rfl
  device operation storage kept := by
    unfold transfer
    rw [wp_focus, wp_mapError]
    exact leaves_any fun _ => kept

theorem preserves_publishFile {handle : ℕ} {place : Fin 32} (other : (start.manager.volumes place).state ≠ .quarantined)
    (accepts : NodeInfo → Prop) [DecidablePred accepts] {operation : StorageM Driver (ℕ × NodeInfo)}
    (kept : Preserves start.Kept operation) : Preserves start.Kept (publishFile handle place accepts operation) := by
  have steps : ServiceSteps start.Kept _ := kept_serviceSteps
  refine Preserves.bind (preserves_reserveIn _ ?_) fun file => ?_
  · exact fun _ _ => rfl
  refine (steps.preserves_callDriver other (steps.file file .free) kept).bind fun value => ?_
  refine Preserves.ite (steps.preserves_distrust other (steps.file file .quarantined)) (Preserves.bind ?_ fun _ => ?_)
  · exact preserves_kept_of_volumes fun _ => rfl
  · exact preserves_get.bind fun _ => preserves_pure _

section Named

variable (lawful : KeepQuarantine drivers)
include lawful

theorem preserves_mountLoop (other : (start.manager.volumes place).state ≠ .quarantined) (prepared : MountRequest)
    (order : List (Fin 8)) : Preserves start.Kept (mountLoop drivers place prepared order) := by
  have settle (state : State) (error : IomgrError) :
      Preserves start.Kept (do setVolumeState place state; throw error : StorageM Driver ℕ) :=
    (preserves_updateVolume other _).bind fun _ => preserves_throw error
  induction order with
  | nil => exact settle _ _
  | cons driverIndex rest ih =>
    unfold mountLoop
    split
    · exact ih
    · next ops registered =>
      have lawfulOps := lawful start driverIndex ops registered
      refine Preserves.bind (fun storage kept => lawfulOps.probe ops.context prepared storage kept) fun probe => ?_
      cases probe with
      | noMatch => exact ih
      | corrupt | unsupported | ioError | unknown => exact settle _ _
      | isMatch =>
        refine (lawfulOps.mount ops.context prepared).attempt.bind fun result => ?_
        cases result with
        | error status => exact settle _ _
        | ok mounted =>
          refine Preserves.ite (settle _ _) (preserves_get.bind fun storage => ?_)
          exact (preserves_updateVolume other _).bind fun _ => preserves_pure _

/-- The quarantined slots are kept by everything the storage core does. -/
theorem kept_managerSteps :
    ManagerSteps drivers start.Kept (fun place => (start.manager.volumes place).state ≠ .quarantined) :=
  have steps := kept_serviceSteps
  { steps with
    mount := fun request => by
      refine preserves_requireInitialized.bind fun _ => Preserves.bind ?_ fun prepared => ?_
      · refine .guard <| .guard <| ?_
        refine (steps.device _).bind fun _ => .guard <| ?_
        exact .guard <| preserves_pure _
      · exact preserves_reserveVolumeSlot fun place other => preserves_mountLoop lawful other prepared _
    openFile := fun volume path => by
      refine .guard <| steps.preserves_onVolume fun place other volume => ?_
      refine preserves_namedOp (lawful start) volume _ fun ops kept op found => ?_
      refine preserves_demand.bind fun _ => preserves_demand.bind fun _ => ?_
      exact preserves_publishFile other _ (kept.openFile op found _ _)
    createFile := fun volume path attributes => by
      refine .guard <| steps.preserves_onVolume fun place other volume => ?_
      refine .guard <| preserves_namedOp (lawful start) volume _ fun ops kept op found => ?_
      refine preserves_demand.bind fun _ => preserves_demand.bind fun _ => ?_
      exact preserves_demand.bind fun _ => preserves_publishFile other _ (kept.createFile op found _ _ _ _)
    openSearch := fun volume pattern attributes => by
      refine .guard <| steps.preserves_onVolume fun place other volume => ?_
      refine preserves_namedOp (lawful start) volume _ fun ops kept op found => ?_
      refine preserves_demand.bind fun _ => preserves_demand.bind fun _ => ?_
      refine Preserves.bind (preserves_reserveIn _ ?_) fun search => ?_
      · exact fun _ _ => rfl
      have called := kept.openSearch op found volume.driverVolumeContext pattern attributes
      refine (steps.preserves_callDriver other (steps.search search .free) called).bind fun _ => ?_
      refine Preserves.ite (steps.preserves_distrust other (steps.search search .quarantined))
        (Preserves.bind ?_ fun _ => ?_)
      · exact preserves_kept_of_volumes fun _ => rfl
      · exact preserves_get.bind fun _ => preserves_pure _
    callbacks := lawful start }

/-- Whatever calls follow, a quarantined volume stays quarantined. -/
theorem Quarantined.persists {volume : ℕ} (quarantined : start.Quarantined volume)
    {history : List (StorageCall × Except IomgrError Unit)} {later : Storage Driver}
    (run : Runs (perform drivers) (fun _ _ => True) start history later) : later.Quarantined volume := by
  have kept : start.Kept later :=
    run.invariant_state start.Kept (.refl start)
      fun storage call kept _ => (kept_managerSteps lawful).preserves_perform call storage kept
  obtain ⟨place, decoded, state⟩ := quarantined
  exact ⟨place, by rw [kept place state]; exact decoded, by rw [kept place state]; exact state⟩

end Named

end Permanence

end Storage

end DosC32
