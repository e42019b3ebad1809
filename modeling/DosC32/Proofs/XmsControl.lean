import DosC32.Model.Xms

/-! # The functions of the XMS manager

Each function of `dos_xms_control` is shown to preserve what it has no business with. A property is passive
when registers, guest memory, the HMA lease and the observing callbacks cannot change it; the functions that
do no more than that preserve every passive property. The functions that move blocks keep the state of the A20
line, and the functions that move the line keep the handle table.
-/

namespace DosC32.XmsWorld

open Effect

variable {Memory α β : Type} (ops : XmsMemoryOps Memory) (a20 : A20Ops) (property : XmsWorld Memory → Prop)

/-- One call of `dos_xms_control` with the given registers; the value is what the caller finds in them afterwards. -/
def request (registers : CpuState) : XmsM Memory CpuState := do
  setCpu fun _ => registers
  dosXmsControl ops a20
  pure (← get).cpu

/-- The same world with a poisoned manager. -/
def poisonedManager (world : XmsWorld Memory) : XmsWorld Memory :=
  { world with manager := { world.manager with poisoned := 1 } }

/-- A callback preserves the property, except that an uncertain result only does so once the manager is poisoned. -/
def Consults (action : EStateM XmsMemoryError (XmsWorld Memory) α) : Prop :=
  ∀ world, property world → wp action world (fun _ => property)
    (fun status next => property next.poisonedManager ∧ (status ≠ .uncertain → property next))

/-- The property depends on nothing that an observing function changes. -/
structure Passive : Prop where
  cpu : ∀ {world : XmsWorld Memory} (cpu : CpuState), property world → property { world with cpu }
  guest : ∀ {world : XmsWorld Memory} (guest : Guest), property world → property { world with guest }
  poison : ∀ {world : XmsWorld Memory}, property world → property world.poisonedManager
  lease : ∀ {world : XmsWorld Memory} (hma : HmaLease) (hmaGeneration : ℕ), property world →
    property { world with manager := { world.manager with hma, hmaGeneration } }
  query : Consults property (callMemory ops.query)
  read : ∀ block offset count, Consults property (callMemory (ops.read · block offset count))
  write : ∀ block offset buffer, Consults property (callMemory (ops.write · block offset buffer))
  queryHma : ∀ callback, ops.queryHma = some callback → ∀ machine, Consults property (callMemory (callback · machine))

variable {ops property}

theorem wp_memoryFault {world : XmsWorld Memory} {status : XmsMemoryError} {done : α → XmsWorld Memory → Prop}
    {failed : XmsError → XmsWorld Memory → Prop}
    (poisoned : status = .uncertain → failed .machineFault world.poisonedManager)
    (kept : status ≠ .uncertain → failed .machineFault world) : wp (memoryFault status) world done failed := by
  simp only [memoryFault, poison, setManager, wp_split]
  exact ⟨poisoned, kept⟩

/-- A callback whose uncertain result is turned into a memory fault. -/
theorem Consults.preserves {action : EStateM XmsMemoryError (XmsWorld Memory) α}
    {next : Except XmsMemoryError α → XmsM Memory β} (consults : Consults property action)
    (done : ∀ value, Preserves property (next (.ok value)))
    (failed : ∀ status, status ≠ .uncertain → Preserves property (next (.error status)))
    (lost : next (.error .uncertain) = memoryFault .uncertain) : Preserves property (attempt action >>= next) := by
  intro world holds
  rw [wp_bind, wp_attempt]
  apply wp_mono (consults world holds)
  · exact fun value after kept => done value after kept
  · rintro status after ⟨poisoned, kept⟩
    by_cases uncertain : status = .uncertain
    · subst uncertain
      rw [lost]
      exact wp_memoryFault (fun _ => poisoned) (fun certain => absurd rfl certain)
    · exact failed status uncertain after (kept uncertain)

namespace Passive

variable (passive : Passive ops property)

include passive

theorem preserves_setCpu {update : CpuState → CpuState} : Preserves property (setCpu update) :=
  preserves_modify fun world holds => passive.cpu (update world.cpu) holds

theorem preserves_returnFailure {error : UInt8} : Preserves property (returnFailure error) :=
  passive.preserves_setCpu

theorem preserves_returnSuccess : Preserves property (returnSuccess) := passive.preserves_setCpu

theorem preserves_poison : Preserves property (XmsWorld.poison : XmsM Memory Unit) :=
  preserves_modify fun _ holds => passive.poison holds

theorem preserves_poisonedFault : Preserves property (poisonedFault : XmsM Memory α) :=
  passive.preserves_poison.bind fun _ => preserves_throw _

theorem preserves_memoryFault (status : XmsMemoryError) : Preserves property (memoryFault status : XmsM Memory α) :=
  fun _ holds => wp_memoryFault (fun _ => passive.poison holds) (fun _ => holds)

theorem preserves_onGuest (action : MachineM α) : Preserves property (onGuest action) := by
  intro world holds
  simp only [onGuest, wp_mapError, wp_focus]
  exact leaves_any fun guest => passive.guest guest holds

theorem consults_queryMapping : Consults property (queryMapping ops) := by
  intro world holds
  simp only [queryMapping, wp_bind, wp_get, wp_demand]
  constructor
  · intro callback present
    apply wp_mono (passive.queryHma callback present world.machine world holds)
    · intro snapshot next kept
      simp only [wp_failWhen, wp_pure]
      exact ⟨fun _ => ⟨passive.poison kept, fun certain => absurd rfl certain⟩, fun _ => kept⟩
    · exact fun status next kept => kept
  · exact fun _ => ⟨passive.poison holds, fun _ => holds⟩

theorem preserves_hmaReportVersion : Preserves property (hmaReportVersion ops) := by
  apply passive.consults_queryMapping.preserves
  · exact fun _ => passive.preserves_setCpu
  · intro status certain
    cases status
    case noMemory => exact passive.preserves_setCpu
    all_goals exact passive.preserves_memoryFault _
  · rfl

theorem preserves_hmaRequest : Preserves property (hmaRequest ops) := by
  apply preserves_get.bind
  intro world
  apply Preserves.ite
  · exact .ite passive.preserves_poisonedFault passive.preserves_returnFailure
  apply Preserves.ite passive.preserves_returnFailure
  apply passive.consults_queryMapping.preserves
  · intro snapshot
    apply Preserves.ite passive.preserves_poisonedFault
    apply Preserves.bind
    · exact preserves_modify fun _ holds => passive.lease _ _ holds
    · exact fun _ => passive.preserves_returnSuccess
  · intro status certain
    cases status
    case noMemory => exact passive.preserves_returnFailure
    all_goals exact passive.preserves_memoryFault _
  · rfl

theorem preserves_hmaRelease : Preserves property (hmaRelease ops) := by
  apply preserves_get.bind
  intro world
  apply Preserves.ite passive.preserves_returnFailure
  apply Preserves.ite passive.preserves_poisonedFault
  apply passive.consults_queryMapping.preserves
  · intro snapshot
    apply Preserves.ite passive.preserves_poisonedFault
    apply Preserves.bind
    · exact preserves_modify fun world holds => passive.lease _ world.manager.hmaGeneration holds
    · exact fun _ => passive.preserves_returnSuccess
  · intro status certain
    cases status
    case noMemory => exact passive.preserves_returnFailure
    all_goals exact passive.preserves_memoryFault _
  · rfl

theorem preserves_queryFree (extended : Bool) : Preserves property (queryFree ops extended) := by
  apply passive.query.preserves
  · intro free
    apply Preserves.ite passive.preserves_poisonedFault
    split <;> exact passive.preserves_setCpu.bind fun _ => passive.preserves_setCpu
  · exact fun status _ => passive.preserves_memoryFault status
  · rfl

theorem preserves_readEndpoint (endpoint : Endpoint) (position count : ℕ) :
    Preserves property (readEndpoint ops endpoint position count) := by
  cases endpoint with
  | conventional linear => exact preserves_get.bind fun world => passive.preserves_onGuest _
  | extended block offset =>
    apply (passive.read _ _ _).preserves
    · exact fun buffer => preserves_pure buffer
    · exact fun status _ => passive.preserves_memoryFault status
    · rfl

theorem preserves_writeEndpoint (endpoint : Endpoint) (position : ℕ) (buffer : List UInt8) (count : ℕ) :
    Preserves property (writeEndpoint ops endpoint position buffer count) := by
  cases endpoint with
  | conventional linear => exact preserves_get.bind fun world => passive.preserves_onGuest _
  | extended block offset =>
    apply (passive.write _ _ _).preserves
    · exact fun _ => preserves_pure ()
    · exact fun status _ => passive.preserves_memoryFault status
    · rfl

theorem preserves_moveLoop (source destination : Endpoint) (length rounds completed : ℕ) :
    Preserves property (moveLoop ops source destination length rounds completed) := by
  induction rounds generalizing completed with
  | zero => exact preserves_pure ()
  | succ rounds ih =>
    unfold moveLoop
    apply Preserves.ite _ (preserves_pure ())
    apply (passive.preserves_readEndpoint source _ _).bind
    intro buffer
    exact (passive.preserves_writeEndpoint destination _ buffer _).bind fun _ => ih _

theorem preserves_moveMemory : Preserves property (moveMemory ops) := by
  apply preserves_get.bind
  intro world
  apply (passive.preserves_onGuest _).bind
  intro raw
  apply Preserves.ite passive.preserves_returnFailure
  split
  · exact passive.preserves_returnFailure
  · split
    · exact passive.preserves_returnFailure
    · exact (passive.preserves_moveLoop _ _ _ _ _).bind fun _ => passive.preserves_returnSuccess

theorem preserves_withHandle {resolved : Fin 32 → XmsHandle → XmsM Memory Unit}
    (kept : ∀ index handle, Preserves property (resolved index handle)) : Preserves property (withHandle resolved) := by
  apply preserves_get.bind
  intro world
  split
  · exact passive.preserves_returnFailure
  · exact kept _ _

theorem preserves_handleInfo (extended : Bool) : Preserves property (handleInfo extended) := by
  apply passive.preserves_withHandle
  intro index handle
  apply preserves_get.bind
  intro world
  apply passive.preserves_returnSuccess.bind
  intro _
  apply passive.preserves_setCpu.bind
  intro _
  split <;> exact passive.preserves_setCpu

end Passive

end DosC32.XmsWorld
