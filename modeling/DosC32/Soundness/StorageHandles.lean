import DosC32.Soundness.Transaction

/-! # Handles of the I/O Manager are never revived

Every registry of the storage core is a pool whose slots only move forward: a generation never comes
back, and a slot that left its life does not return to it under the same generation. The handle laws
follow for every run, whatever the drivers report. A driver callback may change the devices and its own
state as it likes and may come back for the services that call no driver.
-/

namespace DosC32

open Effect Pool List Function DriverNamedOps

/-- The four registries of handles. -/
inductive HandleKind where
  | volume
  | file
  | search
  | transaction
deriving DecidableEq

namespace StorageCall

/-- The registry in which a successful call issues a handle. -/
def issues : StorageCall → Option HandleKind
  | .mount _ => some .volume
  | .onVolume _ (.openFile _) => some .file
  | .onVolume _ (.createFile _ _) => some .file
  | .onVolume _ (.openSearch _ _) => some .search
  | .onVolume _ .transactionBegin => some .transaction
  | _ => none

/-- The handle that a call closes, unmounts or finishes. -/
def ends : StorageCall → Option (HandleKind × ℕ)
  | .onVolume volume .unmount => some (.volume, volume)
  | .closeFile file => some (.file, file)
  | .closeSearch search => some (.search, search)
  | .transactionCommit transaction => some (.transaction, transaction)
  | .transactionAbort transaction => some (.transaction, transaction)
  | _ => none

/-- The open file or search that a call is made on. -/
def object : StorageCall → Option (HandleKind × ℕ)
  | .readFile file _ _ _ | .writeFile file _ _ _ | .getFileInfo file | .setFileInfo file _ | .closeFile file =>
    some (.file, file)
  | .searchNext search | .closeSearch search => some (.search, search)
  | _ => none

end StorageCall

namespace Storage

variable {Driver : Type} (drivers : DriverTable Driver) {next : Storage Driver}

/-- A call with the handle it issues. -/
def issue : StorageCall → StorageM Driver (Option ℕ)
  | .mount request => some <$> iomgrMount drivers request
  | .onVolume volume (.openFile path) => (fun result => some result.2) <$> iomgrOpenFile drivers volume path
  | .onVolume volume (.createFile path attributes) =>
    (fun result => some result.2) <$> iomgrCreateFile drivers volume path attributes
  | .onVolume volume (.openSearch pattern attributes) => some <$> iomgrOpenSearch drivers volume pattern attributes
  | .onVolume volume .transactionBegin => some <$> iomgrTransactionBegin volume
  | call => (fun _ => none) <$> perform drivers call

variable (storage : Storage Driver)

/-- The handle resolves to a live object. -/
def Live : HandleKind → ℕ → Prop
  | .volume, handle => ∃ index, resolve storage.manager.volumes handle = .ok index
  | .file, handle => ∃ index, resolve storage.manager.files handle = .ok index
  | .search, handle => ∃ index, resolve storage.manager.searches handle = .ok index
  | .transaction, handle => ∃ index, resolve storage.transactions handle = .ok index

/-- The slot with the given number has reached the last generation. -/
def Exhausted : HandleKind → ℕ → Prop
  | .volume, slot => ∃ below : slot < 32, (storage.manager.volumes ⟨slot, below⟩).generation = generationMax
  | .file, slot => ∃ below : slot < 64, (storage.manager.files ⟨slot, below⟩).generation = generationMax
  | .search, slot => ∃ below : slot < 32, (storage.manager.searches ⟨slot, below⟩).generation = generationMax
  | .transaction, slot => ∃ below : slot < 2, (storage.transactions ⟨slot, below⟩).generation = generationMax

/-- The generation that a handle carries has been reached in its registry. -/
def Spent : HandleKind → ℕ → Prop
  | .volume, handle => Pool.Spent storage.manager.volumes handle
  | .file, handle => Pool.Spent storage.manager.files handle
  | .search, handle => Pool.Spent storage.manager.searches handle
  | .transaction, handle => Pool.Spent storage.transactions handle

/-- The slot number a handle speaks about. -/
def slotOf : HandleKind → ℕ → Option ℕ
  | .volume, handle | .search, handle => (decode 32 handle).map (·.1.val)
  | .file, handle => (decode 64 handle).map (·.1.val)
  | .transaction, handle => (decode 2 handle).map (·.1.val)

variable (content : Volume)

/-- The callbacks that the driver of a volume has for an object: those on the driver's own contexts of the two. -/
def offers (object : NamedObject) :=
  let ops := (drivers content.driverSlot).bind DriverOps.named
  ((ops.bind readFile).map (· content.driverVolumeContext object.driverContext),
    (ops.bind writeFile).map (· content.driverVolumeContext object.driverContext object.volume),
    (ops.bind getFileInfo).map (· content.driverVolumeContext object.driverContext),
    (ops.bind setFileInfo).map (· content.driverVolumeContext object.driverContext object.volume),
    (ops.bind closeFile).map (· content.driverVolumeContext object.driverContext),
    (ops.bind searchNext).map (· content.driverVolumeContext object.driverContext),
    (ops.bind closeSearch).map (· content.driverVolumeContext object.driverContext))

/-- All that the calls on a handle use of the drivers is the volume's driver, on its contexts of the volume and the
object: under drivers that differ anywhere else they run the same. -/
def ReachesOnly (object : NamedObject) (kind : HandleKind) (handle : ℕ) (storage : Storage Driver) : Prop :=
  ∀ call drivers', call.object = some (kind, handle) → offers drivers' content object = offers drivers content object →
    perform drivers' call storage = perform drivers call storage

/-- The driver of a volume answered a call that opens an object with the given context. -/
def OpenedBy (volume : ℕ) : VolumeCall → ℕ → Prop
  | .openFile path, context => ∃ driver ops op before info after, drivers content.driverSlot = some driver ∧
      driver.named = some ops ∧ ops.openFile = some op ∧
      op content.driverVolumeContext path before = .ok (context, info) after
  | .createFile path attributes, context => ∃ driver ops op before info after, drivers content.driverSlot = some driver ∧
      driver.named = some ops ∧ ops.createFile = some op ∧
      op content.driverVolumeContext path attributes volume before = .ok (context, info) after
  | .openSearch pattern attributes, context => ∃ driver ops op before after, drivers content.driverSlot = some driver ∧
      driver.named = some ops ∧ ops.openSearch = some op ∧
      op content.driverVolumeContext pattern attributes before = .ok context after
  | _, _ => False

/-- The handles that the successful calls of a history issued in one registry, newest first. -/
def issuedIn (kind : HandleKind) (history : List (StorageCall × Except IomgrError (Option ℕ))) : List ℕ :=
  history.filterMap fun event =>
    match event.2 with
    | .ok (some handle) => if event.1.issues = some kind then some handle else none
    | _ => none

/-- What a driver callback may do to the storage system. -/
inductive Served (start : Storage Driver) : Storage Driver → Prop
  | start : Served start start
  | own {storage : Storage Driver} (devices : Devices) (driver : Driver) :
      Served start storage → Served start { storage with devices, driver }
  | quarantine {storage : Storage Driver} (volume : ℕ) :
      Served start storage → Served start (final (iomgrQuarantineVolume volume) storage)
  | transactionBegin {storage : Storage Driver} (volume : ℕ) :
      Served start storage → Served start (final (iomgrTransactionBegin volume) storage)
  | transactionStage {storage : Storage Driver} (transaction lba : ℕ) (after : Sector) :
      Served start storage → Served start (final (iomgrTransactionStage transaction lba after) storage)
  | transactionCommit {storage : Storage Driver} (transaction : ℕ) :
      Served start storage → Served start (final (iomgrTransactionCommit transaction) storage)
  | transactionAbort {storage : Storage Driver} (transaction : ℕ) :
      Served start storage → Served start (final (iomgrTransactionAbort transaction) storage)

/-- The callbacks of the drivers reach the storage system only through its services. -/
def ServedDrivers : Prop := ∀ start index ops, drivers index = some ops → ops.Keeps (Served start)

/-- Every registry moves forward. -/
structure Advances (base storage : Storage Driver) : Prop where
  volumes : Later id base.manager.volumes storage.manager.volumes
  files : Later id base.manager.files storage.manager.files
  searches : Later id base.manager.searches storage.manager.searches
  transactions : Later (fun _ => ()) base.transactions storage.transactions

theorem Advances.refl (base : Storage Driver) : base.Advances base := ⟨.refl _, .refl _, .refl _, .refl _⟩

theorem Advances.trans {base storage : Storage Driver} (first : base.Advances storage)
    (second : storage.Advances next) : base.Advances next :=
  ⟨first.volumes.trans second.volumes, first.files.trans second.files, first.searches.trans second.searches,
    first.transactions.trans second.transactions⟩

/-- A pool of the storage system that may be moved forward on its own. -/
structure Registry {count : ℕ} {Content Shown : Type} (pool : Storage Driver → Fin count → Slot Content)
    (put : (Fin count → Slot Content) → Storage Driver → Storage Driver) (view : Content → Shown) : Prop where
  narrow : count < 2 ^ 32
  read : ∀ slots storage, pool (put slots storage) = slots
  moved : ∀ storage next, storage.Advances next → Later view (pool storage) (pool next)
  moves : ∀ base storage slots, base.Advances storage → Later view (pool base) slots →
    base.Advances (put slots storage)

/-- A slot of one pool has been taken since `base`. -/
structure Taking {count : ℕ} {Content : Type} (pool : Storage Driver → Fin count → Slot Content) (base : Storage Driver)
    (index : Fin count) (storage : Storage Driver) : Prop where
  advances : base.Advances storage
  advanced : (pool base index).generation.toNat < (pool storage index).generation.toNat

/-- A property of the storage system that moving the registries forward keeps. -/
def Stable (property : Storage Driver → Prop) : Prop :=
  ∀ storage next, property storage → storage.Advances next → property next

section Registries

variable {base storage : Storage Driver}

theorem volumes_registry : Registry (fun storage : Storage Driver => storage.manager.volumes) withVolumes id where
  narrow := by decide
  read _ _ := rfl
  moved _ _ advances := advances.volumes
  moves _ _ _ advances later := { advances with volumes := later }

theorem files_registry : Registry (fun storage : Storage Driver => storage.manager.files) withFiles id where
  narrow := by decide
  read _ _ := rfl
  moved _ _ advances := advances.files
  moves _ _ _ advances later := { advances with files := later }

theorem searches_registry : Registry (fun storage : Storage Driver => storage.manager.searches) withSearches id where
  narrow := by decide
  read _ _ := rfl
  moved _ _ advances := advances.searches
  moves _ _ _ advances later := { advances with searches := later }

theorem transactions_registry :
    Registry (Storage.transactions : Storage Driver → Fin 2 → Slot Transaction) withTransactions (fun _ => ()) where
  narrow := by decide
  read _ _ := rfl
  moved _ _ advances := advances.transactions
  moves _ _ _ advances later := { advances with transactions := later }

variable {count : ℕ} {Content Shown : Type} {pool : Storage Driver → Fin count → Slot Content}
    {put : (Fin count → Slot Content) → Storage Driver → Storage Driver} {view : Content → Shown}
    (registry : Registry pool put view) {index : Fin count}
include registry

theorem Registry.setState (index : Fin count) (state : State) (ended : state ≠ .live := by simp) :
    Preserves base.Advances
      (modify fun storage => put (Pool.setState (pool storage) index state) storage : StorageM Driver Unit) :=
  preserves_modify fun _ advances => registry.moves _ _ _ advances ((registry.moved _ _ advances).setState index ended)

theorem Registry.reserve (taken : State) : Preserves base.Advances (reserveIn pool put taken) := by
  intro storage advances
  have reserved := registry.moves _ _ _ advances ((registry.moved _ _ advances).reserve taken)
  rw [wp_reserveIn]
  exact ⟨fun _ _ => reserved, fun _ => reserved⟩

theorem Registry.taking_stable (base : Storage Driver) (index : Fin count) : Stable (Taking pool base index) :=
  fun _ _ taking moved => ⟨taking.advances.trans moved,
    Nat.lt_of_lt_of_le taking.advanced ((registry.moved _ _ moved).generation_le index)⟩

theorem Registry.taking_reserve {taken : State} (found : (Pool.reserve taken (pool storage)).1 = some index) :
    Taking pool storage index (put (Pool.reserve taken (pool storage)).2 storage) := by
  refine ⟨registry.moves _ _ _ (.refl storage) ((Later.refl _).reserve taken), ?_⟩
  rw [registry.read]
  exact reserve_advances taken _ found

theorem Registry.shown (storage : Storage Driver) (index : Fin count) (slot : Slot Content) :
    pool (put (update (pool storage) index slot) storage) index = slot := by
  rw [registry.read, update_self]

/-- Filling a slot that has been taken issues its handle. -/
theorem Registry.fill (taking : Taking pool base index storage) (fresh : (pool base index).generation ≠ generationMax)
    {slot : Slot Content} (same : slot.generation = (pool storage index).generation) :
    base.Advances (put (update (pool storage) index slot) storage) ∧
      Issued (pool base) (pool (put (update (pool storage) index slot) storage))
        (makeHandle index slot.generation) index := by
  have advanced : (pool base index).generation.toNat < slot.generation.toNat := same ▸ taking.advanced
  have shown := registry.shown storage index slot
  refine ⟨registry.moves _ _ _ taking.advances ((registry.moved _ _ taking.advances).update advanced), ?_⟩
  have issued := issued_makeHandle registry.narrow (shown.symm ▸ advanced) fresh
  rwa [shown] at issued

end Registries

section Forward

variable {drivers} {base storage : Storage Driver}

theorem advances_stable (base : Storage Driver) : Stable base.Advances := fun _ _ => Advances.trans

/-- The elementary effects of the storage core move the registries forward. -/
theorem advances_serviceSteps : ServiceSteps base.Advances (fun _ => True) where
  resolved _ _ _ _ _ := trivial
  volume place state _ ended := volumes_registry.setState place state ended
  file index state ended := files_registry.setState index state ended
  search index state ended := searches_registry.setState index state ended
  settle index state ended := transactions_registry.setState index state ended
  reserve := transactions_registry.reserve .live
  fill _ _ := preserves_modify fun _ advances =>
    transactions_registry.moves _ _ _ advances (advances.transactions.setContent rfl)
  device operation storage advances := by
    unfold transfer
    rw [wp_focus, wp_mapError]
    exact leaves_any fun _ => { advances with }

/-- The services of the storage core move the registries forward. -/
theorem Served.advances (served : Served base storage) : base.Advances storage := by
  induction served with
  | start => exact .refl base
  | own devices driver _ ih => exact { ih with }
  | quarantine volume _ ih => exact wp_final (advances_serviceSteps.preserves_quarantine volume _ ih)
  | transactionBegin volume _ ih => exact wp_final (advances_serviceSteps.preserves_begin volume _ ih)
  | transactionStage transaction lba after _ ih =>
    exact wp_final (advances_serviceSteps.preserves_stage transaction lba after _ ih)
  | transactionCommit transaction _ ih =>
    exact wp_final (preserves_iomgrTransactionCommit advances_serviceSteps.commitSteps transaction _ ih)
  | transactionAbort transaction _ ih => exact wp_final (advances_serviceSteps.preserves_abort transaction _ ih)

variable {property : Storage Driver → Prop} (stable : Stable property) {α : Type}
include stable

/-- A callback that only uses services keeps what moving forward keeps. -/
theorem Stable.preserves {ε : Type} {operation : EStateM ε (Storage Driver) α}
    (served : ∀ start, Preserves (Served start) operation) : Preserves property operation := fun storage holds =>
  Leaves.mono (served storage storage .start) fun _ reached => stable _ _ holds reached.advances

theorem Stable.keeps (lawful : ServedDrivers drivers) (index : Fin 8) (ops : DriverOps Driver)
    (registered : drivers index = some ops) : ops.Keeps property where
  probe context request storage holds :=
    stable _ _ holds ((lawful storage index ops registered).probe context request storage .start).advances
  mount context request := stable.preserves fun start => (lawful start index ops registered).mount context request
  unmount context volume := stable.preserves fun start => (lawful start index ops registered).unmount context volume
  named named offered := by
    have kept (start : Storage Driver) := (lawful start index ops registered).named named offered
    constructor
    all_goals
      intros
      apply stable.preserves
      intro start
      cases kept start
      solve_by_elim

end Forward

section Opening

variable {drivers} {base storage : Storage Driver} (lawful : ServedDrivers drivers) {place : Fin 32}

/-- The driver callback that opens a named object: a failure leaves the registries moved forward. -/
theorem callDriver_spec {property : Storage Driver → Prop} (stable : Stable property) {release : StorageM Driver Unit}
    {operation : StorageM Driver α} (served : ∀ start, Preserves (Served start) operation)
    (released : ∀ storage, property storage → wp release storage (fun _ => base.Advances) (fun _ _ => False))
    (holds : property storage) : wp (callDriver place release operation) storage
      (fun value next => property next ∧ ∃ before after, operation before = .ok value after)
      (fun _ => base.Advances) := by
  have ran : wp operation storage (fun value next => operation storage = .ok value next) (fun _ _ => True) :=
    wp_intro (fun _ _ => id) (fun _ _ _ => trivial)
  simp only [callDriver, wp_rules]
  apply wp_mono (wp_and (stable.preserves served storage holds) ran)
  · exact fun value next both => ⟨both.1, storage, next, both.2⟩
  · rintro status next ⟨holds, -⟩
    apply wp_returns (released next holds)
    intro _ next moved
    simp only [quarantineAfterNamedFailure, wp_split]
    exact ⟨fun _ => (volumes_registry.setState place .quarantined) next moved, fun _ => moved⟩

/-- A call left a fresh handle on an object of the volume, with the context the driver gave. -/
def Opened {count : ℕ} (drivers : DriverTable Driver) (pool : Storage Driver → Fin count → Slot NamedObject)
    (volume : ℕ) (operation : VolumeCall) (storage : Storage Driver) (handle : ℕ) (next : Storage Driver) : Prop :=
  storage.Advances next ∧ ∃ place index context, resolve storage.manager.volumes volume = .ok place ∧
    Issued (pool storage) (pool next) handle index ∧ (pool next index).content = ⟨volume, context⟩ ∧
    OpenedBy drivers (storage.manager.volumes place).content volume operation context

variable {count : ℕ} {pool : Storage Driver → Fin count → Slot NamedObject}
    {put : (Fin count → Slot NamedObject) → Storage Driver → Storage Driver} (registry : Registry pool put id)
include registry

/-- The common tail of the calls that open an object. -/
theorem Registry.open_spec {β γ : Type} {volume : ℕ} (resolved : resolve storage.manager.volumes volume = .ok place)
    (call : VolumeCall) (context : β → ℕ) (rejects : β → Prop) [DecidablePred rejects] (answer : β → ℕ → γ)
    {done : γ → Storage Driver → Prop} {operation : StorageM Driver β}
    (served : ∀ start, Preserves (Served start) operation)
    (answered : ∀ value before after, operation before = .ok value after →
      OpenedBy drivers (storage.manager.volumes place).content volume call (context value))
    (opens : ∀ value handle next, Opened drivers pool volume call storage handle next → done (answer value handle) next) :
    wp (do
      let index ← reserveIn pool put .live
      let value ← callDriver place (modify fun storage => put (Pool.setState (pool storage) index .free) storage) operation
      if rejects value then
        distrust place (modify fun storage => put (Pool.setState (pool storage) index .quarantined) storage)
      else do
        modify fun storage => put (update (pool storage) index
          { pool storage index with content := ⟨volume, context value⟩ }) storage
        pure (answer value (makeHandle index (pool (← get) index).generation))) storage done
      (fun _ => storage.Advances) := by
  simp only [wp_bind, wp_reserveIn]
  refine ⟨fun index found => ?_, fun _ => ?_⟩
  · have fresh := (reserveFrom_taken .live _ _ found).2.1
    apply wp_mono_done (callDriver_spec (registry.taking_stable storage index) served (fun next holds =>
      (registry.setState index .free) next holds.advances) (registry.taking_reserve found))
    rintro value next ⟨taking, before, after, ran⟩
    simp only [distrust, wp_split]
    constructor
    · exact fun _ => (volumes_registry.setState place .quarantined) _
        ((registry.setState index .quarantined) next taking.advances)
    · intro _
      rw [registry.shown]
      exact opens value _ _ (And.imp_right (fun issued => ⟨place, index, context value, resolved, issued,
        congrArg _ (registry.shown ..), answered value before after ran⟩) (registry.fill taking fresh rfl))
  · exact registry.moves _ _ _ (.refl storage) ((Later.refl _).reserve .live)

/-- The common tail of the calls that close an object. -/
theorem Registry.close_spec {handle : ℕ} {index : Fin count} (resolved : resolve (pool storage) handle = .ok index)
    {release operation : StorageM Driver Unit} (served : ∀ start, Preserves (Served start) operation) :
    wp (callDriver place release operation) storage
      (fun _ next => Ended (Pool.setState (pool next) index .free) handle) (fun _ _ => True) := by
  simp only [callDriver, wp_rules]
  apply wp_mono ((advances_stable storage).preserves served storage (.refl storage))
  · exact fun _ next advances => ended_setState resolved (registry.moved _ _ advances) (by simp)
  · exact fun _ _ _ => wp_intro (fun _ _ _ => leaves_any fun _ => trivial) (fun _ _ _ => trivial)

omit registry

/-- Checking a mount request reaches the devices only. -/
theorem validateMountRequest_frame (request : MountRequest) :
    Leaves (validateMountRequest request) storage (fun next => ∃ devices, next = { storage with devices }) := by
  have kept : Preserves (fun next => ∃ devices, next = { storage with devices })
      (validateMountRequest request : StorageM Driver MountRequest) := by
    refine .guard <| .guard <| ?_
    refine Preserves.bind ?_ fun _ => .guard <| ?_
    · rintro _ ⟨devices, rfl⟩
      unfold transfer
      rw [wp_focus, wp_mapError]
      exact leaves_any fun devices => ⟨devices, rfl⟩
    · exact .guard <| preserves_pure _
  exact kept storage ⟨storage.devices, rfl⟩

include lawful

theorem mountThrough_spec (mounting : Taking (·.manager.volumes) base place storage)
    (fresh : (base.manager.volumes place).generation ≠ generationMax) (prepared : MountRequest) (index : Fin 8)
    (ops : DriverOps Driver) (registered : drivers index = some ops) :
    wp (mountThrough place prepared index ops) storage
      (fun handle next => base.Advances next ∧ Issued base.manager.volumes next.manager.volumes handle place)
      (fun _ => base.Advances) := by
  have keeps := (volumes_registry.taking_stable base place).keeps lawful index ops registered
  simp only [mountThrough, wp_rules]
  apply wp_mono (keeps.mount ops.context prepared storage mounting)
  · intro result next mounting
    simp only [wp_split]
    constructor
    · exact fun _ => (volumes_registry.setState place .quarantined) next mounting.advances
    · intro _
      exact volumes_registry.fill mounting fresh rfl
  · intro status next mounting
    apply volumes_registry.setState place _ _ next mounting.advances
    split <;> decide

theorem mountLoop_spec (fresh : (base.manager.volumes place).generation ≠ generationMax) (prepared : MountRequest)
    (order : List (Fin 8)) (storage : Storage Driver) (mounting : Taking (·.manager.volumes) base place storage) :
    wp (mountLoop drivers place prepared order) storage
      (fun handle next => base.Advances next ∧ Issued base.manager.volumes next.manager.volumes handle place)
      (fun _ => base.Advances) := by
  induction order generalizing storage with
  | nil => exact (volumes_registry.setState place .free) storage mounting.advances
  | cons index rest ih =>
    unfold mountLoop
    split
    · exact ih storage mounting
    · next ops registered =>
      have keeps := (volumes_registry.taking_stable base place).keeps lawful index ops registered
      refine (wp_bind _ _).mpr (wp_returns
        (?_ : wp _ storage (fun _ => Taking (·.manager.volumes) base place) (fun _ _ => False))
          fun probe next mounting => ?_)
      · exact keeps.probe ops.context prepared storage mounting
      · cases probe with
        | noMatch => exact ih next mounting
        | isMatch => exact mountThrough_spec lawful mounting fresh prepared index ops registered
        | corrupt | unsupported | ioError => exact (volumes_registry.setState place .free) next mounting.advances
        | unknown => exact (volumes_registry.setState place .quarantined) next mounting.advances

/-- Mounting takes a volume slot. -/
theorem iomgrMount_spec (request : MountRequest) :
    wp (iomgrMount drivers request) storage
      (fun handle next => storage.Advances next ∧
        ∃ place, Issued storage.manager.volumes next.manager.volumes handle place)
      (fun _ => storage.Advances) := by
  simp only [iomgrMount, requireInitialized, wp_rules]
  refine ⟨fun _ => .refl storage, fun _ => ?_⟩
  apply wp_mono (validateMountRequest_frame request)
  · rintro prepared _ ⟨devices, rfl⟩
    have moved : storage.Advances { storage with devices } := ⟨.refl _, .refl _, .refl _, .refl _⟩
    rw [reserveVolumeSlot, wp_reserveIn]
    refine ⟨fun place found => ?_, fun _ => ?_⟩
    · have fresh := (reserveFrom_taken .reserved _ _ found).2.1
      apply wp_mono (mountLoop_spec lawful fresh prepared _ _ (volumes_registry.taking_reserve found))
      · exact fun _ _ issued => ⟨moved.trans issued.1, place, issued.2⟩
      · exact fun _ _ advances => moved.trans advances
    · exact volumes_registry.moves _ _ _ moved ((Later.refl _).reserve .reserved)
  · rintro _ _ ⟨devices, rfl⟩
    exact ⟨.refl _, .refl _, .refl _, .refl _⟩

/-- The driver record that an operation comes from. -/
theorem named_found {volume : Volume} {select : DriverNamedOps Driver → Option α} {op : α}
    (found : ((drivers volume.driverSlot).bind DriverOps.named).bind select = some op) :
    ∃ driver ops, drivers volume.driverSlot = some driver ∧ driver.named = some ops ∧ select ops = some op ∧
      ∀ start, ops.Keeps (Served start) := by
  obtain ⟨ops, named, selected⟩ := Option.bind_eq_some_iff.mp found
  obtain ⟨driver, registered, offered⟩ := Option.bind_eq_some_iff.mp named
  exact ⟨driver, ops, registered, offered, selected, fun start => (lawful start _ driver registered).named ops offered⟩

variable (volume : ℕ)

theorem iomgrOpenFile_spec (path : Path) : wp (iomgrOpenFile drivers volume path) storage
      (fun result => Opened drivers (·.manager.files) volume (.openFile path) storage result.2)
      (fun _ => storage.Advances) := by
  have unmoved := Advances.refl storage
  simp only [iomgrOpenFile, wp_all, resolveVolume, wp_resolveIn, volumeAt, namedOp, unmoved]
  intro _ place resolved op found _ _ _ _
  obtain ⟨driver, ops, registered, offered, selected, kept⟩ := named_found lawful found
  exact files_registry.open_spec resolved (.openFile path) Prod.fst _ (fun value handle => (value.2, handle))
    (fun start => (kept start).openFile op selected _ path) (fun value before after ran =>
      ⟨driver, ops, op, before, value.2, after, registered, offered, selected, ran⟩) fun _ _ _ => id

theorem iomgrCreateFile_spec (path : Path) (attributes : ℕ) :
    wp (iomgrCreateFile drivers volume path attributes) storage
      (fun result => Opened drivers (·.manager.files) volume (.createFile path attributes) storage result.2)
      (fun _ => storage.Advances) := by
  have unmoved := Advances.refl storage
  simp only [iomgrCreateFile, wp_all, resolveVolume, wp_resolveIn, volumeAt, requireWritable, namedOp, unmoved]
  intro _ place resolved _ op found _ _ _ _ _ _
  obtain ⟨driver, ops, registered, offered, selected, kept⟩ := named_found lawful found
  exact files_registry.open_spec resolved (.createFile path attributes) Prod.fst _ (fun value handle => (value.2, handle))
    (fun start => (kept start).createFile op selected _ path attributes volume) (fun value before after ran =>
      ⟨driver, ops, op, before, value.2, after, registered, offered, selected, ran⟩) fun _ _ _ => id

theorem iomgrOpenSearch_spec (pattern : Path) (attributes : ℕ) :
    wp (iomgrOpenSearch drivers volume pattern attributes) storage
      (Opened drivers (·.manager.searches) volume (.openSearch pattern attributes) storage)
      (fun _ => storage.Advances) := by
  have unmoved := Advances.refl storage
  simp only [iomgrOpenSearch, wp_all, resolveVolume, wp_resolveIn, volumeAt, namedOp, unmoved]
  intro _ place resolved op found _ _ _ _
  obtain ⟨driver, ops, registered, offered, selected, kept⟩ := named_found lawful found
  have issued := searches_registry.open_spec resolved (.openSearch pattern attributes) id
    (fun context => ¬ contextIsValid context) (fun _ => id)
    (fun start => (kept start).openSearch op selected _ pattern attributes) (fun context before after ran =>
      ⟨driver, ops, op, before, after, registered, offered, selected, ran⟩) fun _ _ _ => id
  simp only [wp_bind] at issued
  exact issued

omit lawful in
theorem iomgrTransactionBegin_issues : wp (iomgrTransactionBegin volume) storage
      (fun handle next => storage.Advances next ∧ ∃ index, Issued storage.transactions next.transactions handle index)
      (fun _ => storage.Advances) := by
  have unchanged : Preserves (· = storage) (iomgrGetVolumeInfo volume : StorageM Driver VolumeInfo) :=
    preserves_iomgrGetVolumeInfo volume
  simp only [iomgrTransactionBegin, wp_bind]
  apply wp_mono (unchanged storage rfl)
  · rintro info next same
    subst same
    simp only [wp_rules, reserveTransaction, wp_reserveIn, setTransaction]
    refine ⟨fun _ => .refl next, fun _ => ⟨fun index found => ?_, fun _ => ?_⟩⟩
    · rw [transactions_registry.shown]
      exact And.imp_right (fun issued => ⟨index, issued⟩) (transactions_registry.fill
        (transactions_registry.taking_reserve found) (reserveFrom_taken .live _ _ found).2.1 rfl)
    · exact transactions_registry.moves _ _ _ (.refl next) ((Later.refl _).reserve .live)
  · rintro _ _ rfl
    exact .refl _

end Opening

section Ending

variable {drivers} {storage : Storage Driver}

/-- The handle names no object, now or after the registries moved forward. -/
def Over (kind : HandleKind) (handle : ℕ) (storage : Storage Driver) : Prop :=
  ∀ later, storage.Advances later → ¬ later.Live kind handle

theorem writeForward_total (binding : VolumeInfo) (entries : List TransactionEntry) (storage : Storage Driver) :
    wp (writeForward binding entries) storage (fun _ _ => True) (fun _ _ => False) := by
  induction entries generalizing storage with
  | nil => trivial
  | cons entry rest ih =>
    simp only [writeForward, wp_rules]
    apply wp_intro
    · exact fun _ next _ => wp_returns (ih next) fun _ _ _ => trivial
    · exact fun _ _ _ => trivial

theorem rollback_total (slot : Transaction) (written : ℕ) (storage : Storage Driver) :
    wp (rollback slot written) storage (fun _ _ => True) (fun _ _ => False) := by
  have loop (entries : List TransactionEntry) (storage : Storage Driver) :
      wp (rollbackLoop slot.binding entries) storage (fun _ _ => True) (fun _ _ => False) := by
    induction entries generalizing storage with
    | nil => trivial
    | cons entry rest ih =>
      simp only [rollbackLoop, wp_rules]
      apply wp_intro
      · exact fun _ next _ => wp_returns (ih next) fun _ _ _ => trivial
      · exact fun _ next _ => wp_returns (ih next) fun _ _ _ => trivial
  simp only [rollback, wp_rules]
  apply wp_mono_done (loop _ storage)
  exact fun _ _ _ => leaves_any fun _ => trivial

/-- The transaction in the slot is out of life. -/
def Settled (index : Fin 2) (storage : Storage Driver) : Prop := (storage.transactions index).state ≠ .live

theorem settled_setTransactionState (index : Fin 2) (state : State) (storage : Storage Driver)
    (ended : state ≠ .live := by simp) :
    Settled index (storage.withTransactions (setState storage.transactions index state)) := by
  simpa [Settled, withTransactions, setState] using ended

theorem undoCommit_settles (index : Fin 2) (slot : Transaction) (written : ℕ) (storage : Storage Driver) :
    wp (undoCommit index slot written) storage (fun _ => Settled index) (fun _ => Settled index) := by
  have quarantine : Preserves (Settled index) (iomgrQuarantineVolume slot.volume : StorageM Driver Unit) :=
    preserves_requireInitialized.bind fun _ => (preserves_resolveIn _ _).bind fun _ => preserves_modify fun _ => id
  simp only [undoCommit, wp_bind]
  apply wp_returns (rollback_total slot written storage)
  intro restored next _
  simp only [setTransactionState, wp_split]
  constructor
  · exact fun _ => settled_setTransactionState index .free next
  · exact fun _ => quarantine _ (settled_setTransactionState index .quarantined next)

/-- Whatever its status, a commit takes its transaction out of life. -/
theorem commit_settles {transaction : ℕ} {index : Fin 2} (resolved : resolve storage.transactions transaction = .ok index) :
    wp (iomgrTransactionCommit transaction) storage (fun _ => Settled index) (fun _ => Settled index) := by
  simp only [iomgrTransactionCommit, transactionAt, wp_all, wp_resolveTransaction resolved]
  generalize (storage.transactions index).content = slot
  have checked : wp (checkBinding index slot) storage (fun _ _ => True) (fun _ => Settled index) := by
    simp only [checkBinding, wp_rules]
    apply wp_intro
    · intro current next _
      simp only [setTransactionState, wp_split]
      exact ⟨fun _ => settled_setTransactionState index .free next, fun _ => trivial⟩
    · exact fun _ next _ => settled_setTransactionState index .free next
  apply wp_mono_done checked
  intro _ next _
  apply wp_returns (writeForward_total slot.binding slot.entries next)
  intro written later _
  simp only [settleCommit, wp_split]
  refine ⟨fun _ => ?_, fun _ => undoCommit_settles index slot written later⟩
  apply wp_intro
  · exact fun _ last _ => settled_setTransactionState index .free last
  · exact fun _ last _ => undoCommit_settles index slot written last

/-- The transaction that a commit or an abort names is over, if there was one. -/
theorem commit_ends (transaction : ℕ) :
    wp (iomgrTransactionCommit transaction) storage (fun _ => Over .transaction transaction)
      (fun _ next => storage.Live .transaction transaction → Over .transaction transaction next) := by
  cases resolved : resolve storage.transactions transaction with
  | ok index =>
    have gone (next : Storage Driver) (advances : storage.Advances next) (settled : Settled index next) :
        Over .transaction transaction next := by
      have ended : Ended next.transactions transaction :=
        ⟨index, _, (resolve_eq_ok.mp resolved).1, advances.transactions.generation_le index, fun _ => settled⟩
      exact fun later forward => not_exists.mpr (ended.never_resolves forward.transactions)
    have moved := preserves_iomgrTransactionCommit advances_serviceSteps.commitSteps transaction storage (.refl storage)
    apply wp_mono (wp_and moved (commit_settles resolved))
    · exact fun _ next both => gone next both.1 both.2
    · exact fun _ next both _ => gone next both.1 both.2
  | error refusal =>
    simp only [iomgrTransactionCommit, resolveTransaction, wp_bind, wp_resolveIn, resolved, reduceCtorEq, false_implies,
      implies_true, true_and]
    rintro _ _ ⟨place, live⟩
    rw [resolved] at live
    cases live

theorem abort_ends (transaction : ℕ) :
    wp (iomgrTransactionAbort transaction) storage (fun _ => Over .transaction transaction)
      (fun _ next => storage.Live .transaction transaction → Over .transaction transaction next) := by
  simp only [iomgrTransactionAbort, resolveTransaction, setTransactionState, wp_rules, wp_resolveIn]
  constructor
  · intro index resolved later forward
    have ended := ended_setState resolved (Later.refl _ : Later id _ _) (show State.free ≠ .live by simp)
    exact not_exists.mpr (ended.never_resolves forward.transactions)
  · rintro refusal refused ⟨place, live⟩
    rw [refused] at live
    cases live

variable (lawful : ServedDrivers drivers) {handle : ℕ}
include lawful

theorem unmount_ends (volume : ℕ) :
    wp (iomgrUnmount drivers volume) storage (fun _ => Over .volume volume) (fun _ _ => True) := by
  simp only [iomgrUnmount, requireInitialized, resolveVolume, volumeAt, wp_all, wp_resolveIn]
  intro _ place resolved _ ops registered
  have moved := ((advances_stable storage).keeps lawful _ ops registered).unmount ops.context
    (storage.manager.volumes place).content.driverVolumeContext storage (.refl storage)
  apply wp_mono moved
  · intro _ next advances later forward
    have ended := ended_setState resolved advances.volumes (show State.free ≠ .live by simp)
    exact not_exists.mpr (ended.never_resolves forward.volumes)
  · rintro (_ | _) next -
    · trivial
    · trivial

theorem closeFile_ends (file : ℕ) :
    wp (iomgrCloseFile drivers file) storage (fun _ => Over .file file) (fun _ _ => True) := by
  simp only [iomgrCloseFile, resolveFile, fileAt, resolveVolume, volumeAt, wp_all, wp_resolveIn, namedOp]
  intro index resolved place _ op found
  obtain ⟨driver, ops, registered, offered, selected, kept⟩ := named_found lawful found
  apply wp_mono_done (files_registry.close_spec resolved fun start => (kept start).closeFile op selected _ _)
  exact fun _ _ ended later forward => not_exists.mpr (ended.never_resolves forward.files)

theorem closeSearch_ends (search : ℕ) :
    wp (iomgrCloseSearch drivers search) storage (fun _ => Over .search search) (fun _ _ => True) := by
  simp only [iomgrCloseSearch, resolveSearch, searchAt, resolveVolume, volumeAt, wp_all, wp_resolveIn, namedOp]
  intro index resolved place _ op found
  obtain ⟨driver, ops, registered, offered, selected, kept⟩ := named_found lawful found
  apply wp_mono_done (searches_registry.close_spec resolved fun start => (kept start).closeSearch op selected _ _)
  exact fun _ _ ended later forward => not_exists.mpr (ended.never_resolves forward.searches)

/-- A call that finishes a handle ends it; a commit or an abort also when it fails. -/
theorem issue_ends {call : StorageCall} {kind : HandleKind} (ends : call.ends = some (kind, handle)) :
    wp (issue drivers call) storage (fun _ => Over kind handle)
      (fun _ next => kind = .transaction → storage.Live kind handle → Over kind handle next) := by
  cases call with
  | onVolume volume operation =>
    cases operation with
    | unmount =>
      cases ends
      exact (wp_map _ _).mpr (wp_mono_failed (unmount_ends lawful handle) (by simp))
    | _ => cases ends
  | closeFile file =>
    cases ends
    exact (wp_map _ _).mpr (wp_mono_failed (closeFile_ends lawful handle) (by simp))
  | closeSearch search =>
    cases ends
    exact (wp_map _ _).mpr (wp_mono_failed (closeSearch_ends lawful handle) (by simp))
  | transactionCommit transaction =>
    cases ends
    exact (wp_map _ _).mpr (wp_mono_failed (commit_ends handle) fun _ _ gone _ => gone)
  | transactionAbort transaction =>
    cases ends
    exact (wp_map _ _).mpr (wp_mono_failed (abort_ends handle) fun _ _ gone _ => gone)
  | _ => cases ends

end Ending

variable {drivers} {base storage later : Storage Driver}

/-- A contract that moves the registries forward keeps them ahead of any earlier state. -/
private theorem preserves_of_advances {α : Type} {action : StorageM Driver α}
    {done : Storage Driver → α → Storage Driver → Prop}
    (spec : ∀ storage, wp action storage (fun value next => storage.Advances next ∧ done storage value next)
      (fun _ => storage.Advances)) : Preserves base.Advances action := fun storage ahead =>
  wp_mono (spec storage) (fun _ _ moved => ahead.trans moved.1) (fun _ _ moved => ahead.trans moved)

/-- The handle is new in its registry, on a slot that was not exhausted. -/
structure NewHandle (before after : Storage Driver) (kind : HandleKind) (handle : ℕ) : Prop where
  spent : after.Spent kind handle
  unspent : ¬ before.Spent kind handle
  usable : ∀ slot, slotOf kind handle = some slot → ¬ before.Exhausted kind slot

variable {count : ℕ} {handle : ℕ}

private theorem usable_of_issued {Content : Type} {before after : Fin count → Slot Content}
    {index : Fin count} (issued : Issued before after handle index) {slot : ℕ}
    (named : (decode count handle).map (·.1.val) = some slot) :
    ¬ ∃ below : slot < count, (before ⟨slot, below⟩).generation = generationMax := by
  rw [issued.named, Option.map_some] at named
  cases named
  rintro ⟨_, last⟩
  exact issued.fresh last

theorem Spent.moved {kind : HandleKind} (spent : storage.Spent kind handle)
    (advances : storage.Advances later) : later.Spent kind handle := by
  cases kind with
  | volume => exact Pool.Spent.moved spent advances.volumes
  | file => exact Pool.Spent.moved spent advances.files
  | search => exact Pool.Spent.moved spent advances.searches
  | transaction => exact Pool.Spent.moved spent advances.transactions

theorem Exhausted.moved {kind : HandleKind} {slot : ℕ} (exhausted : storage.Exhausted kind slot)
    (advances : storage.Advances later) : later.Exhausted kind slot := by
  cases kind <;> obtain ⟨below, last⟩ := exhausted
  · exact ⟨below, advances.volumes.exhausted last⟩
  · exact ⟨below, advances.files.exhausted last⟩
  · exact ⟨below, advances.searches.exhausted last⟩
  · exact ⟨below, advances.transactions.exhausted last⟩

/-- A handle resolves to no other object, and the object's volume to no other volume. -/
structure Shows {count : ℕ} (pool : Storage Driver → Fin count → Slot NamedObject) (handle : ℕ) (object : NamedObject)
    (content : Volume) (storage : Storage Driver) : Prop where
  named : ∀ index, resolve (pool storage) handle = .ok index → (pool storage index).content = object
  mounted : ∀ place, resolve storage.manager.volumes object.volume = .ok place →
    (storage.manager.volumes place).content = content

private theorem resolveIn_congr {α Content : Type} {slots : Storage Driver → Fin count → Slot Content}
    {rest rest' : Fin count → StorageM Driver α}
    (same : ∀ index, resolve (slots storage) handle = .ok index → rest index storage = rest' index storage) :
    (resolveIn slots handle >>= rest) storage = (resolveIn slots handle >>= rest') storage := by
  refine bind_congr_at rfl fun index next ran => ?_
  unfold resolveIn at ran
  split at ran <;> cases ran
  exact same index ‹_›

/-- The calls on an open object first find the object and its volume. -/
private theorem Shows.congr {α : Type} {pool : Storage Driver → Fin count → Slot NamedObject}
    {object : NamedObject} {content : Volume} {body body' : Fin count → NamedObject → Fin 32 → Volume → StorageM Driver α}
    (shown : Shows pool handle object content storage)
    (agree : ∀ index place, body index object place content = body' index object place content) :
    (do
      let index ← resolveIn pool handle
      let slot ← (do pure (pool (← get) index).content : StorageM Driver NamedObject)
      let place ← resolveVolume slot.volume
      body index slot place (← volumeAt place)) storage = (do
      let index ← resolveIn pool handle
      let slot ← (do pure (pool (← get) index).content : StorageM Driver NamedObject)
      let place ← resolveVolume slot.volume
      body' index slot place (← volumeAt place)) storage := by
  refine resolveIn_congr fun index resolved => bind_congr_at rfl fun slot next ran => ?_
  cases ran
  rw [shown.named index resolved]
  refine resolveIn_congr fun place found => bind_congr_at rfl fun volume next ran => ?_
  cases ran
  rw [shown.mounted place found, agree]

theorem Shows.file {handle : ℕ} {object : NamedObject} {content : Volume}
    (shown : Shows (·.manager.files) handle object content storage) :
    storage.ReachesOnly drivers content object .file handle := by
  intro call drivers' addressed same
  cases call with
  | readFile file offset capacity count =>
    cases addressed
    refine bind_congr_at (failWhen_congr_at (shown.congr fun index place => ?_)) fun _ _ _ => rfl
    exact demand_congr (congrArg (·.1) same) fun op op' agree => by rw [agree]
  | writeFile file offset source count =>
    cases addressed
    refine bind_congr_at (failWhen_congr_at (shown.congr fun index place => ?_)) fun _ _ _ => rfl
    refine congrArg (requireWritable content >>= ·) (funext fun _ => ?_)
    exact demand_congr (congrArg (·.2.1) same) fun op op' agree => by rw [agree]
  | getFileInfo file =>
    cases addressed
    refine bind_congr_at (shown.congr fun index place => ?_) fun _ _ _ => rfl
    exact demand_congr (congrArg (·.2.2.1) same) fun op op' agree => by rw [agree]
  | setFileInfo file info =>
    cases addressed
    refine failWhen_congr_at (shown.congr fun index place => ?_)
    refine congrArg (requireWritable content >>= ·) (funext fun _ => ?_)
    exact demand_congr (congrArg (·.2.2.2.1) same) fun op op' agree => by rw [agree]
  | closeFile file =>
    cases addressed
    refine shown.congr fun index place => ?_
    exact demand_congr (congrArg (·.2.2.2.2.1) same) fun op op' agree => by rw [agree]
  | _ => cases addressed

theorem Shows.search {handle : ℕ} {object : NamedObject} {content : Volume}
    (shown : Shows (·.manager.searches) handle object content storage) :
    storage.ReachesOnly drivers content object .search handle := by
  intro call drivers' addressed same
  cases call with
  | searchNext search =>
    cases addressed
    refine bind_congr_at (shown.congr fun index place => ?_) fun _ _ _ => rfl
    exact demand_congr (congrArg (·.2.2.2.2.2.1) same) fun op op' agree => by rw [agree]
  | closeSearch search =>
    cases addressed
    refine shown.congr fun index place => ?_
    exact demand_congr (congrArg (·.2.2.2.2.2.2) same) fun op op' agree => by rw [agree]
  | _ => cases addressed

/-- The handle only ever reaches the object its driver opened, on the volume it was opened on. -/
def Pinned (drivers : DriverTable Driver) (storage : Storage Driver) (volume : ℕ) (operation : VolumeCall)
    (kind : HandleKind) (handle : ℕ) (next : Storage Driver) : Prop :=
  ∃ place object, resolve storage.manager.volumes volume = .ok place ∧ object.volume = volume ∧
    OpenedBy drivers (storage.manager.volumes place).content volume operation object.driverContext ∧
    ∀ later, next.Advances later →
      later.ReachesOnly drivers (storage.manager.volumes place).content object kind handle

/-- An object of a registry of named objects keeps its content, and its volume too. -/
private theorem Opened.pinned {pool : Storage Driver → Fin count → Slot NamedObject} {volume : ℕ}
    {operation : VolumeCall} {kind : HandleKind} {handle : ℕ}
    (opened : Opened drivers pool volume operation storage handle next)
    (moves : ∀ later, next.Advances later → Later id (pool next) (pool later))
    (serves : ∀ later object content, Shows pool handle object content later →
      later.ReachesOnly drivers content object kind handle) :
    Pinned drivers storage volume operation kind handle next := by
  obtain ⟨moved, place, index, context, resolved, issued, content, answered⟩ := opened
  refine ⟨place, ⟨volume, context⟩, resolved, rfl, answered, fun later forward => serves later _ _ ⟨?_, ?_⟩⟩
  · intro index' found
    obtain ⟨rfl, -, kept⟩ := (moves later forward).resolve_back issued.named (Nat.le_refl _) found
    exact kept.trans content
  · intro place' found
    obtain ⟨rfl, -, kept⟩ :=
      (moved.trans forward).volumes.resolve_back (resolve_eq_ok.mp resolved).1 (Nat.le_refl _) found
    exact kept

theorem Opened.file {volume : ℕ} {operation : VolumeCall} {handle : ℕ}
    (opened : Opened drivers (·.manager.files) volume operation storage handle next) :
    storage.NewHandle next .file handle ∧ Pinned drivers storage volume operation .file handle next := by
  refine ⟨?_, opened.pinned (fun _ forward => forward.files) fun _ _ _ => Shows.file⟩
  obtain ⟨-, -, index, -, -, issued, -⟩ := opened
  exact ⟨issued.spent, issued.unspent, fun slot => usable_of_issued issued⟩

theorem Opened.search {volume : ℕ} {operation : VolumeCall} {handle : ℕ}
    (opened : Opened drivers (·.manager.searches) volume operation storage handle next) :
    storage.NewHandle next .search handle ∧ Pinned drivers storage volume operation .search handle next := by
  refine ⟨?_, opened.pinned (fun _ forward => forward.searches) fun _ _ _ => Shows.search⟩
  obtain ⟨-, -, index, -, -, issued, -⟩ := opened
  exact ⟨issued.spent, issued.unspent, fun slot => usable_of_issued issued⟩

variable (lawful : ServedDrivers drivers)
include lawful

/-- Everything the storage core does moves the registries forward. -/
theorem advances_managerSteps : ManagerSteps drivers base.Advances (fun _ => True) where
  toServiceSteps := advances_serviceSteps
  mount request := preserves_of_advances fun _ => iomgrMount_spec lawful request
  openFile volume path := preserves_of_advances fun _ => iomgrOpenFile_spec lawful volume path
  createFile volume path attributes := preserves_of_advances fun _ => iomgrCreateFile_spec lawful volume path attributes
  openSearch volume pattern attributes :=
    preserves_of_advances fun _ => iomgrOpenSearch_spec lawful volume pattern attributes
  callbacks := (advances_stable base).keeps lawful

theorem preserves_issue (call : StorageCall) : Preserves base.Advances (issue drivers call) := by
  have steps : ManagerSteps drivers base.Advances (fun _ => True) := advances_managerSteps lawful
  cases call with
  | mount request => exact (steps.mount request).map _
  | onVolume volume operation =>
    cases operation with
    | openFile path => exact (steps.openFile volume path).map _
    | createFile path attributes => exact (steps.createFile volume path attributes).map _
    | openSearch pattern attributes => exact (steps.openSearch volume pattern attributes).map _
    | transactionBegin => exact (steps.preserves_begin volume).map _
    | _ => exact (steps.preserves_perform _).map _
  | _ => exact (steps.preserves_perform _).map _

/-- A run moves the registries forward. -/
theorem advances_of_runs {start : Storage Driver} {history}
    (run : Runs (issue drivers) (fun _ _ => True) start history later) : start.Advances later :=
  run.invariant_state start.Advances (.refl start) fun storage call ahead _ => preserves_issue lawful call storage ahead

/-- Every successful opening call issues a new handle, pinned to its object if it names one. -/
theorem issue_spec {call : StorageCall} {kind : HandleKind} (opens : call.issues = some kind) :
    wp (issue drivers call) storage (fun result next => ∃ handle, result = some handle ∧ storage.NewHandle next kind handle ∧
      ∀ volume operation, call = .onVolume volume operation → kind = .file ∨ kind = .search →
        Pinned drivers storage volume operation kind handle next) (fun _ _ => True) := by
  cases call with
  | mount request =>
    cases opens
    rw [issue, wp_map]
    apply wp_mono (iomgrMount_spec lawful request) _ fun _ _ _ => trivial
    rintro handle next ⟨-, place, issued⟩
    exact ⟨handle, rfl, ⟨issued.spent, issued.unspent, fun slot => usable_of_issued issued⟩, by simp⟩
  | onVolume volume operation =>
    cases operation with
    | openFile path =>
      cases opens
      rw [issue, wp_map]
      apply wp_mono (iomgrOpenFile_spec lawful volume path) _ fun _ _ _ => trivial
      rintro result next opened
      exact ⟨result.2, rfl, opened.file.1, fun _ _ same _ => by cases same; exact opened.file.2⟩
    | createFile path attributes =>
      cases opens
      rw [issue, wp_map]
      apply wp_mono (iomgrCreateFile_spec lawful volume path attributes) _ fun _ _ _ => trivial
      rintro result next opened
      exact ⟨result.2, rfl, opened.file.1, fun _ _ same _ => by cases same; exact opened.file.2⟩
    | openSearch pattern attributes =>
      cases opens
      rw [issue, wp_map]
      apply wp_mono (iomgrOpenSearch_spec lawful volume pattern attributes) _ fun _ _ _ => trivial
      rintro handle next opened
      exact ⟨handle, rfl, opened.search.1, fun _ _ same _ => by cases same; exact opened.search.2⟩
    | transactionBegin =>
      cases opens
      rw [issue, wp_map]
      apply wp_mono (iomgrTransactionBegin_issues volume) _ fun _ _ _ => trivial
      rintro handle next ⟨-, index, issued⟩
      exact ⟨handle, rfl, ⟨issued.spent, issued.unspent, fun slot => usable_of_issued issued⟩,
        fun _ _ _ named => by rcases named with same | same <;> cases same⟩
    | _ => cases opens
  | _ => cases opens

/-- No two successful calls of one kind issue the same handle. -/
theorem issued_nodup {start : Storage Driver} {history}
    (run : Runs (issue drivers) (fun _ _ => True) start history later) (kind : HandleKind) :
    (issuedIn kind history).Nodup := by
  have known := run.invariant (fun history storage => (issuedIn kind history).Nodup ∧
    ∀ handle ∈ issuedIn kind history, storage.Spent kind handle) ⟨by simp [issuedIn], by simp [issuedIn]⟩ ?_
  · exact known.1
  rintro history storage call ⟨distinct, spent⟩ -
  have forward : Preserves storage.Advances (issue drivers call) := preserves_issue lawful call
  have moved := forward storage (.refl storage)
  have older {next : Storage Driver} (advances : storage.Advances next) :
      (issuedIn kind history).Nodup ∧ ∀ handle ∈ issuedIn kind history, next.Spent kind handle :=
    ⟨distinct, fun handle member => (spent handle member).moved advances⟩
  by_cases opens : call.issues = some kind
  · apply wp_mono (wp_and moved (issue_spec lawful opens))
    · rintro _ next ⟨advances, handle, rfl, new, -⟩
      simp only [issuedIn, filterMap_cons, opens, if_true, nodup_cons, mem_cons, forall_eq_or_imp]
      exact ⟨⟨fun member => new.unspent (spent handle member), distinct⟩, new.spent, (older advances).2⟩
    · rintro _ next ⟨advances, -⟩
      simpa only [issuedIn, filterMap_cons] using older advances
  · apply wp_mono moved
    · rintro (_ | handle) next advances
      · simpa only [issuedIn, filterMap_cons] using older advances
      · simpa only [issuedIn, filterMap_cons, opens, if_false] using older advances
    · intro _ next advances
      simpa only [issuedIn, filterMap_cons] using older advances

omit lawful

/-- The laws of the handles, seen from a state that a run has reached. -/
structure NeverRevived (drivers : DriverTable Driver) (history : List (StorageCall × Except IomgrError (Option ℕ)))
    (storage : Storage Driver) : Prop where
  /-- The handles issued in one registry are pairwise distinct. -/
  distinct : ∀ kind, (issuedIn kind history).Nodup
  /-- A closed, unmounted or finished handle never resolves again. -/
  ended : ∀ call kind handle, call.ends = some (kind, handle) →
    (outcome (issue drivers call) storage = .ok none ∨ kind = .transaction ∧ storage.Live kind handle) →
    ∀ past later, Runs (issue drivers) (fun _ _ => True) (final (issue drivers call) storage) past later →
      ¬ later.Live kind handle
  /-- The calls on a file or a search reach the driver only with the context and the volume it was opened with. -/
  reached : ∀ volume operation kind handle, (StorageCall.onVolume volume operation).issues = some kind →
    (kind = .file ∨ kind = .search) → outcome (issue drivers (.onVolume volume operation)) storage = .ok (some handle) →
    ∃ place object, resolve storage.manager.volumes volume = .ok place ∧ object.volume = volume ∧
      OpenedBy drivers (storage.manager.volumes place).content volume operation object.driverContext ∧
      ∀ past later, Runs (issue drivers) (fun _ _ => True) (final (issue drivers (.onVolume volume operation)) storage)
        past later → later.ReachesOnly drivers (storage.manager.volumes place).content object kind handle
  /-- A slot at the last generation is never taken again. -/
  retired : ∀ kind slot, storage.Exhausted kind slot →
    ∀ past later, Runs (issue drivers) (fun _ _ => True) storage past later → later.Exhausted kind slot ∧
      ∀ call handle, call.issues = some kind → outcome (issue drivers call) later = .ok (some handle) →
        slotOf kind handle ≠ some slot

/-- In every run of the storage core, with whatever results the drivers report, handles are never revived. -/
theorem storage_handles_never_revive {drivers : DriverTable Driver} (lawful : ServedDrivers drivers)
    {start storage : Storage Driver} {history : List (StorageCall × Except IomgrError (Option ℕ))}
    (run : Runs (issue drivers) (fun _ _ => True) start history storage) : NeverRevived drivers history storage where
  distinct := issued_nodup lawful run
  ended call kind handle ends finished past later rest := by
    have spec : wp (issue drivers call) storage _ _ := issue_ends lawful ends
    rcases finished with done | ⟨same, live⟩
    · exact wp_outcome_ok spec done later (advances_of_runs lawful rest)
    · exact wp_final (wp_mono_failed spec fun _ _ gone => gone same live) later (advances_of_runs lawful rest)
  reached volume operation kind handle opens named opened := by
    obtain ⟨_, same, -, pinned⟩ := wp_outcome_ok (issue_spec lawful opens) opened
    cases same
    obtain ⟨place, object, resolved, same, answered, stays⟩ := pinned volume operation rfl named
    exact ⟨place, object, resolved, same, answered, fun past later rest => stays later (advances_of_runs lawful rest)⟩
  retired kind slot exhausted past later rest := by
    have last := exhausted.moved (advances_of_runs lawful rest)
    refine ⟨last, fun call handle opens issued named => ?_⟩
    obtain ⟨_, same, new, -⟩ := wp_outcome_ok (issue_spec lawful opens) issued
    cases same
    exact new.usable slot named last

/-- A driver that opens every file under one context and reads nothing. -/
def plainOps : DriverNamedOps Unit where
  stat := none
  openFile := some fun _ _ => pure (9, ⟨0, 0, ⟨2026, 1, 1, 0, 0, 0, 0⟩⟩)
  createFile := none
  readFile := some fun _ _ _ _ _ => pure []
  writeFile := none
  getFileInfo := none
  setFileInfo := none
  closeFile := some fun _ _ => pure ()
  openSearch := none
  searchNext := none
  closeSearch := none
  querySpace := none
  createDirectory := none
  rename := none

def plainDriver : DriverOps Unit where
  identity := 7
  context := 0
  probe _ _ storage := (.noMatch, storage)
  mount _ _ := throw .unsupported
  unmount _ _ := pure ()
  named := some plainOps

def plainDrivers : DriverTable Unit := fun index => if index = 0 then some plainDriver else none

private theorem plain_served : ServedDrivers plainDrivers := by
  intro start index ops registered
  have same : ops = plainDriver := by
    simp only [plainDrivers] at registered
    split at registered
    · exact (Option.some.inj registered).symm
    · cases registered
  subst same
  refine ⟨fun _ _ _ => id, fun _ _ => preserves_throw _, fun _ _ => preserves_pure _, ?_⟩
  rintro _ offered
  cases offered
  constructor <;> intro op found <;> cases found
  · exact fun _ _ => preserves_pure _
  · exact fun _ _ _ _ _ => preserves_pure _
  · exact fun _ _ => preserves_pure _

/-- Two files opened one after the other, the first of them closed in between. -/
def plainCalls : List StorageCall :=
  [.onVolume smallVolume (.openFile [0x41]), .closeFile (makeHandle 0 1), .onVolume smallVolume (.openFile [0x41])]

theorem storage_handles_never_revive_plain : ∃ history,
    issuedIn .file history = [makeHandle 0 2, makeHandle 0 1] ∧
    NeverRevived plainDrivers history (replay (issue plainDrivers) (smallStorage fun _ => none) plainCalls) := by
  have one : Runs (issue plainDrivers) (fun _ _ => True) (smallStorage fun _ => none) _ _ :=
    .step (StorageCall.onVolume smallVolume (.openFile [0x41])) .start trivial
  have two := Runs.step (StorageCall.closeFile (makeHandle 0 1)) one trivial
  have three := Runs.step (StorageCall.onVolume smallVolume (.openFile [0x41])) two trivial
  exact ⟨_, rfl, storage_handles_never_revive plain_served three⟩

end Storage

end DosC32
