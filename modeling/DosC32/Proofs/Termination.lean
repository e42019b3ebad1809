import DosC32.Model.Termination
import DosC32.Proofs.FarRange
import DosC32.Proofs.SftBatch

/-! # Contracts of a termination

What the handle loop appends to the record of the adapter is one group of calls for every byte of
the table, from the last byte to the first. The phases before it leave the adapter alone, and every
phase that fails after the vectors were changed poisons the arena and the process state.
-/

namespace DosC32.Termination

open Effect SftBatch Machine List ProcessRuntime

variable {σ : Type} {ε : Type} {ops : SftBatchOps σ} {context : ℕ}

/-- The calls for one byte of the table, in their order. -/
inductive Closes : UInt8 → SftTrace → Prop
  | unused : Closes jftEntryUnused []
  | missing {sfn : UInt8} {view : SftView} {status : SftAdapterStatus} (named : sfn ≠ jftEntryUnused)
      (refused : status ≠ .ok ∨ view.referenceHandle = referenceHandleInvalid) : Closes sfn [(.lookup sfn view, status)]
  | released {sfn : UInt8} {view : SftView} {status : SftAdapterStatus} (named : sfn ≠ jftEntryUnused)
      (valid : view.referenceHandle ≠ referenceHandleInvalid) (remote : status = .ok → isLocal view.flags = false) :
      Closes sfn [(.lookup sfn view, .ok), (.act .referenceRelease view.referenceHandle, status)]
  | closed {sfn : UInt8} {view : SftView} {status : SftAdapterStatus} (named : sfn ≠ jftEntryUnused)
      (valid : view.referenceHandle ≠ referenceHandleInvalid) (near : isLocal view.flags = true) :
      Closes sfn [(.lookup sfn view, .ok), (.act .referenceRelease view.referenceHandle, .ok),
        (.act .deviceClose view.referenceHandle, status)]

/-- The record after the bytes of a list were closed one after another. -/
def ClosesAll (bytes : List UInt8) (trace trace' : SftTrace) : Prop :=
  ∃ groups, List.Forall₂ Closes bytes groups ∧ trace' = groups.flatten.reverse ++ trace

theorem ClosesAll.nil (trace : SftTrace) : ClosesAll [] trace trace := ⟨[], .nil, rfl⟩

theorem ClosesAll.append {bytes bytes' : List UInt8} {trace trace' trace'' : SftTrace}
    (first : ClosesAll bytes trace trace') (second : ClosesAll bytes' trace' trace'') :
    ClosesAll (bytes ++ bytes') trace trace'' := by
  obtain ⟨groups, closes, rfl⟩ := first
  obtain ⟨groups', closes', rfl⟩ := second
  refine ⟨groups ++ groups', rel_append closes closes', ?_⟩
  rw [flatten_append, reverse_append, append_assoc]

theorem Closes.all {sfn : UInt8} {events : SftTrace} (closes : Closes sfn events)
    {trace trace' : SftTrace} (recorded : trace' = events.reverse ++ trace) : ClosesAll [sfn] trace trace' := by
  refine ⟨[events], .cons closes .nil, ?_⟩
  rw [recorded, flatten_singleton]

theorem closeHandle_spec (world : SftWorld σ) (flags : CloseFlags) (sfn : UInt8) :
    wp (closeHandle ops context flags sfn : EStateM ε _ _) world
      (fun _ next => ClosesAll [sfn] world.trace next.trace) (fun _ _ => False) := by
  simp only [closeHandle, wp_split, wp_lookupSft, wp_actOnSft]
  generalize ops.lookup context sfn world.adapter = answer
  obtain ⟨⟨status, view⟩, adapter⟩ := answer
  dsimp only
  refine ⟨fun unused => ?_, fun named => ⟨fun invalid => ?_, fun _ => ⟨fun refused => ?_, fun found => ?_⟩⟩⟩
  · rw [unused]
    exact Closes.unused.all rfl
  · apply (Closes.missing named (.inl ?_)).all rfl
    rw [invalid]
    decide
  · exact (Closes.missing named refused).all rfl
  · obtain ⟨answered, valid⟩ := not_or.mp found
    rw [not_not] at answered
    subst answered
    refine ⟨fun failed => ?_, fun succeeded => ⟨fun near => ?_, fun remote => ?_⟩⟩
    · exact (Closes.released named valid fun ok => absurd ok failed).all rfl
    · rw [not_not] at succeeded
      rw [succeeded]
      exact (Closes.closed named valid near).all rfl
    · exact (Closes.released named valid fun _ => Bool.eq_false_of_not_eq_true remote).all rfl

theorem closeChunk_spec (world : SftWorld σ) (flags : CloseFlags) (bytes : List UInt8) :
    wp (closeChunk ops context flags bytes : EStateM ε _ _) world
      (fun _ next => ClosesAll bytes world.trace next.trace) (fun _ _ => False) := by
  induction bytes generalizing world flags with
  | nil => exact .nil _
  | cons sfn rest ih =>
    simp only [closeChunk, wp_bind]
    apply wp_mono_done (closeHandle_spec world flags sfn)
    intro flags next first
    apply wp_mono_done (ih next flags)
    exact fun _ _ others => first.append others

variable (machine : Machine) (plan : TerminationPlan)

/-- The bytes of the table as memory holds them. -/
def jftBytes (memory : ℕ → UInt8) (plan : TerminationPlan) : List UInt8 :=
  (range plan.jftLength.toNat).map fun index =>
    memory (machine.farAddress plan.jftPointer.segment plan.jftPointer.offset index)

/-- Every byte of the table is below the limit of the machine. -/
def TableFits : Prop :=
  ∀ index < plan.jftLength.toNat,
    machine.farAddress plan.jftPointer.segment plan.jftPointer.offset index < machine.addressLimit

/-- What is known once the loop is reached. -/
structure Reached (state next : HandleState σ) : Prop where
  usable : machineIsUsable machine
  fits : TableFits machine plan
  memory : next.guest.memory = state.guest.memory
  calls : state.guest.calls ≤ next.guest.calls
  world : next.world = state.world

variable {machine plan}

theorem jftOffset_eq (jft : FarPointer16) (completed : ℕ) :
    jftOffset jft completed = jft.offset + UInt16.ofNat completed := by
  rw [jftOffset, UInt16.ofNat_add, UInt16.ofNat_toNat]

/-- A chunk is a part of the table. -/
theorem take_jftBytes (memory : ℕ → UInt8) {start count : ℕ} (inside : start + count ≤ plan.jftLength.toNat) :
    (jftBytes machine memory plan).take (start + count) = (jftBytes machine memory plan).take start ++
      (range count).map (fun index =>
        memory (machine.farAddress plan.jftPointer.segment (jftOffset plan.jftPointer start) index)) := by
  unfold jftBytes
  rw [← map_take, ← map_take, take_range, take_range, Nat.min_eq_left inside,
    Nat.min_eq_left (by omega), range_add, map_append, map_map]
  congr 1
  apply map_congr_left
  intro index _
  rw [jftOffset_eq, farAddress_add]
  rfl

theorem closeLoop_spec (usable : machineIsUsable machine) (fits : TableFits machine plan) {rounds remaining : ℕ}
    (enough : remaining ≤ rounds) (inside : remaining ≤ plan.jftLength.toNat) (flags : CloseFlags) (state : HandleState σ) :
    wp (closeLoop machine plan ops context rounds remaining flags) state
      (fun _ next => ClosesAll ((jftBytes machine state.guest.memory plan).take remaining).reverse state.world.trace
        next.world.trace)
      (fun _ next => machine.ReadFails state.guest.calls next.guest.calls) := by
  induction rounds generalizing remaining flags state with
  | zero =>
    rw [Nat.le_zero.mp enough]
    exact .nil _
  | succ rounds ih =>
    simp only [closeLoop, wp_split, onTable]
    refine ⟨fun none => ?_, fun some => ?_⟩
    · rw [none]
      exact .nil _
    have nonempty : min remaining jftChunkBytes ≠ 0 := by
      unfold jftChunkBytes
      omega
    have whole : remaining = remaining - min remaining jftChunkBytes + min remaining jftChunkBytes := by omega
    generalize min remaining jftChunkBytes = count, (Nat.min_le_right remaining jftChunkBytes) = short at whole nonempty ⊢
    generalize remaining - count = start at whole ⊢
    subst whole
    obtain ⟨present, -, positive, limit, ready⟩ := usable
    have below : ∀ index < count, machine.farAddress plan.jftPointer.segment (jftOffset plan.jftPointer start) index <
        machine.addressLimit := by
      intro index bound
      rw [jftOffset_eq, farAddress_add]
      exact fits _ (by omega)
    apply wp_mono_done (readFar_fails_spec present ready ⟨positive, limit⟩ short below)
    rintro chunk guest ⟨same, rfl, later⟩
    simp only [onAdapter, wp_focus]
    apply wp_returns (closeChunk_spec _ _ _)
    intro flags world first
    apply wp_mono (ih (by omega) (by omega) flags _)
    · intro _ next others
      rw [take_jftBytes _ inside, reverse_append]
      dsimp only at others
      rw [same] at others
      exact first.append others
    · exact fun _ _ fails => fails.mono later

variable {machineIdentity : ℕ}

theorem preflightLoop_spec (machine : Machine) (jft : FarPointer16) (length rounds completed : ℕ) (guest : Guest) :
    wp (preflightLoop machine jft length rounds completed) guest
      (fun _ next => next.memory = guest.memory ∧ guest.calls ≤ next.calls)
      (fun _ next => next.memory = guest.memory) := by
  induction rounds generalizing completed guest with
  | zero => exact ⟨rfl, Nat.le_refl _⟩
  | succ rounds ih =>
    simp only [preflightLoop, wp_split]
    refine ⟨fun _ => ?_, fun _ => ⟨trivial, Nat.le_refl _⟩⟩
    refine wp_mono (readFar_spec machine) ?_ fun _ _ refused => refused.1
    rintro _ middle ⟨same, -, later, -⟩
    apply wp_mono (ih _ middle)
    · rintro _ next ⟨same', later'⟩
      exact ⟨same'.trans same, Nat.le_trans later later'⟩
    · exact fun _ _ same' => same'.trans same

theorem closePreflight_spec (state : HandleState σ) :
    wp (closePreflight machine machineIdentity plan ops context) state
      (fun _ => Reached machine plan state) (fun _ _ => True) := by
  simp only [closePreflight, wp_rules, onTable]
  refine ⟨fun _ => trivial, fun accepted => ⟨fun _ => trivial, fun _ => ?_⟩⟩
  have usable := not_not.mp (not_or.mp accepted).1
  simp only [jftPreflight, validateFar, machineReady, wp_rules]
  refine ⟨fun _ => trivial,
    fun _ => ⟨fun _ => trivial, fun _ => ⟨fun _ => trivial, fun _ => ⟨fun _ => trivial, fun valid => ?_⟩⟩⟩⟩
  rw [not_not, farChunks_valid_iff] at valid
  apply wp_mono (preflightLoop_spec machine _ _ _ _ _)
  · rintro _ guest ⟨same, later⟩
    exact ⟨usable, valid, same, later, rfl⟩
  · exact fun _ _ _ => trivial

/-- Once the loop is reached, the whole table is closed unless a read fails. -/
theorem closeHandles_spec {state : HandleState σ}
    (reached : outcome (closePreflight machine machineIdentity plan ops context) state = .ok ()) :
    wp (closeHandles machine machineIdentity plan ops context) state
      (fun _ next => ClosesAll (jftBytes machine state.guest.memory plan).reverse state.world.trace next.world.trace)
      (fun _ next => machine.ReadFails state.guest.calls next.guest.calls ∨
        ClosesAll (jftBytes machine state.guest.memory plan).reverse state.world.trace next.world.trace) := by
  simp only [closeHandles, wp_rules]
  apply wp_intro
  · intro _ middle ran
    obtain ⟨usable, fits, memory, calls, world⟩ := wp_of_ok (closePreflight_spec state) ran
    have whole : (jftBytes machine middle.guest.memory plan).take plan.jftLength.toNat =
        jftBytes machine state.guest.memory plan := by
      rw [memory]
      exact take_of_length_le (by simp [jftBytes])
    apply wp_mono (closeLoop_spec usable fits (Nat.le_refl _) (Nat.le_refl _) _ middle)
    · intro flags next closes
      rw [whole, world] at closes
      exact ⟨fun _ => .inr closes, fun _ => closes⟩
    · exact fun _ _ fails => .inl (fails.mono calls)
  · intro error next ran
    unfold outcome at reached
    rw [ran] at reached
    cases reached

variable {services : TerminationServices σ} {parentRuntime : RuntimeSnapshot} {processPsp : UInt16}
  {prepared : TerminationResult} (state next : TerminationState σ)

/-- Nothing happened: memory, the arena, the process state and the adapter are as before. -/
structure Untouched : Prop where
  memory : next.guest.memory = state.guest.memory
  arena : next.arena = state.arena
  runtime : next.runtime = state.runtime
  world : next.world = state.world

/-- The arena and the process state are poisoned. -/
structure Poisoned : Prop where
  arena : state.arena.machinePoisoned = 1
  runtime : state.runtime.poisoned = 1

theorem Untouched.refl : Untouched state state := ⟨rfl, rfl, rfl, rfl⟩

/-- The domain is poisoned, and nothing else changes. -/
structure Poisons : Prop where
  poisoned : Poisoned next
  guest : next.guest = state.guest
  world : next.world = state.world

theorem readyStatus_spec (runtime : ProcessRuntime) :
    wp readyStatus runtime (fun _ next => next = runtime) (fun error next => next = runtime ∧
      (error = .poisoned → runtime.poisoned = 1)) := by
  simp only [readyStatus, wp_rules]
  refine ⟨fun _ => ⟨trivial, by simp⟩, fun _ => ⟨fun _ => ⟨trivial, by simp⟩, fun _ => ⟨fun set => ⟨trivial, fun _ => set⟩,
    fun _ => trivial⟩⟩⟩

theorem poisonTerminationDomain_spec :
    wp poisonTerminationDomain state (fun _ => Poisons state) (fun _ _ => False) := by
  simp only [poisonTerminationDomain, onRuntime, poison, wp_bind, wp_modify, wp_attempt, wp_focus]
  apply wp_mono (readyStatus_spec _)
  · rintro _ _ rfl
    simp only [wp_pure]
    exact ⟨⟨rfl, rfl⟩, rfl, rfl⟩
  · rintro error _ ⟨rfl, -⟩
    cases error <;> simp only [wp_rules] <;> exact ⟨⟨rfl, rfl⟩, rfl, rfl⟩

variable {state next}

theorem Untouched.trans {middle : TerminationState σ} (first : Untouched state middle)
    (second : Untouched middle next) : Untouched state next :=
  ⟨second.memory.trans first.memory, second.arena.trans first.arena, second.runtime.trans first.runtime,
    second.world.trans first.world⟩

theorem failPoisoned_spec {α : Type} (status : TerminationError) (prepared : TerminationResult)
    (state : TerminationState σ) :
    wp (failPoisoned status prepared : TerminationM σ α) state (fun _ _ => False) (fun _ => Poisons state) := by
  simp only [failPoisoned, wp_rules]
  exact wp_returns (poisonTerminationDomain_spec state) fun _ _ => id

theorem capture_spec (machine : Machine) (machineIdentity : ℕ) (processPsp : UInt16) (guest : Guest) :
    Leaves (capture machine machineIdentity processPsp) guest (fun next => next.memory = guest.memory) := by
  simp only [capture, jftPreflight, wp_rules]
  refine ⟨fun _ => trivial, fun _ => ?_⟩
  refine wp_mono (readFar_spec machine) ?_ fun _ _ refused => refused.1
  rintro _ middle ⟨same, -⟩
  apply wp_mono (validateFar_spec machine)
  · rintro _ _ ⟨rfl, -⟩
    exact wp_mono (preflightLoop_spec machine _ _ _ _ _)
      (fun _ _ same' => same'.1.trans same) fun _ _ same' => same'.trans same
  · rintro _ _ ⟨rfl, -⟩
    exact same

theorem restoreVectors_spec (machine : Machine) (machineIdentity : ℕ) (plan : TerminationPlan) (guest : Guest) :
    wp (restoreVectors machine machineIdentity plan) guest (fun _ _ => True)
      (fun error next => error = .machinePoisoned ∨ next.memory = guest.memory) := by
  simp only [restoreVectors, wp_rules]
  refine ⟨fun _ => .inr trivial, fun _ => ⟨fun _ => .inr trivial, fun _ => ?_⟩⟩
  apply wp_mono (replace_spec machine)
  · exact fun _ _ _ => trivial
  · rintro error next ⟨restored, -⟩
    cases error
    case rollbackFailed => exact .inl rfl
    all_goals exact .inr (restored (by simp))

theorem beginTermination_spec :
    Leaves (beginTermination services parentRuntime processPsp) state (Untouched state) := by
  simp only [beginTermination, onRuntime, onMachine, snapshot, wp_rules]
  refine ⟨fun _ => .refl _, fun _ => ?_⟩
  apply wp_mono (readyStatus_spec _)
  · rintro _ _ rfl
    apply wp_mono (capture_spec _ _ _ _)
    · intro plan guest same
      exact ⟨fun _ => ⟨same, rfl, rfl, rfl⟩, fun _ => ⟨same, rfl, rfl, rfl⟩⟩
    · exact fun _ _ same => ⟨same, rfl, rfl, rfl⟩
  · rintro _ _ ⟨rfl, -⟩
    exact .refl _

theorem vectorPhase_spec :
    wp (vectorPhase services prepared) state (fun _ next => next.world = state.world)
      (fun _ next => Untouched state next ∨ Poisoned next) := by
  simp only [vectorPhase, onMachine, wp_bind, wp_attempt, wp_focus]
  apply wp_mono (restoreVectors_spec _ _ _ _)
  · exact fun _ _ _ => rfl
  · rintro error guest restored
    cases error
    case machinePoisoned =>
      exact wp_fails (failPoisoned_spec _ _ _) fun _ _ poisons => .inr poisons.poisoned
    all_goals
      have same := restored.resolve_left (by simp)
      exact .inl ⟨same, rfl, rfl, rfl⟩

theorem memoryPhase_spec :
    wp (memoryPhase services processPsp prepared) state (fun _ next => next.world = state.world)
      (fun _ => Poisoned) := by
  simp only [memoryPhase, onArena, wp_bind, wp_attempt, wp_focus]
  apply wp_intro
  · exact fun _ _ _ => rfl
  · intro error _ _
    exact wp_fails (failPoisoned_spec _ _ _) fun _ _ poisons => poisons.poisoned

theorem handlePhase_spec : wp (handlePhase services prepared) state (fun _ _ => True) (fun _ => Poisoned) := by
  simp only [handlePhase, wp_rules]
  apply wp_intro
  · exact fun _ _ _ => trivial
  · intro error _ _
    exact wp_fails (failPoisoned_spec _ _ _) fun _ _ poisons => poisons.poisoned

theorem runtimePhase_spec :
    wp (runtimePhase parentRuntime prepared) state (fun _ next => next.guest = state.guest ∧ next.world = state.world)
      (fun _ => Poisons state) := by
  simp only [runtimePhase, onRuntime, wp_bind, wp_attempt, wp_focus]
  apply wp_intro
  · exact fun _ _ _ => ⟨rfl, rfl⟩
  · intro error runtime _
    apply wp_fails (failPoisoned_spec _ _ _)
    exact fun _ _ poisons => { poisons with }

theorem reachHandles_spec :
    wp (reachHandles services parentRuntime processPsp) state (fun _ next => next.world = state.world)
      (fun _ next => Untouched state next ∨ Poisoned next) := by
  simp only [reachHandles, wp_rules]
  apply wp_mono beginTermination_spec
  · intro prepared first untouched
    apply wp_mono vectorPhase_spec
    · intro _ second same
      apply wp_mono memoryPhase_spec
      · exact fun _ _ same' => (same'.trans same).trans untouched.world
      · exact fun _ _ poisoned => .inr poisoned
    · intro _ next settled
      exact settled.imp untouched.trans id
  · exact fun _ _ untouched => .inl untouched

theorem execute_spec :
    wp (execute services parentRuntime processPsp) state (fun _ _ => True)
      (fun _ next => Untouched state next ∨ Poisoned next) := by
  simp only [execute, wp_rules]
  apply wp_mono_done reachHandles_spec
  intro prepared middle _
  apply wp_mono handlePhase_spec
  · intro _ next _
    exact wp_mono runtimePhase_spec (fun _ _ _ => trivial) fun _ _ poisons => .inr poisons.poisoned
  · exact fun _ _ poisoned => .inr poisoned

/-- The table is closed, or a read failed. -/
def Settled (services : TerminationServices σ) (plan : TerminationPlan) (state : TerminationState σ) (guest : Guest)
    (world : SftWorld σ) : Prop :=
  ClosesAll (jftBytes services.machine state.guest.memory plan).reverse state.world.trace world.trace ∨
    services.machine.ReadFails state.guest.calls guest.calls

/-- The handle loop of a termination that reaches it: the later phases make no call and read nothing. -/
theorem execute_closes {middle : TerminationState σ}
    (ran : reachHandles services parentRuntime processPsp state = .ok prepared middle)
    (reached : outcome (closePreflight services.machine services.machineIdentity prepared.plan services.sftOps
      services.sftContext) ⟨middle.guest, middle.world⟩ = .ok ()) :
    Leaves (execute services parentRuntime processPsp) state
      (fun next => Settled services prepared.plan middle next.guest next.world) := by
  simp only [execute, handlePhase, onHandles, wp_rules]
  rw [wp, ran]
  apply wp_mono (closeHandles_spec reached)
  · intro _ next closes
    apply wp_mono runtimePhase_spec
    · rintro _ last ⟨guest, world⟩
      rw [guest, world]
      exact .inl closes
    · rintro _ last ⟨-, guest, world⟩
      rw [guest, world]
      exact .inl closes
  · intro error next settled
    apply wp_fails (failPoisoned_spec _ _ _)
    rintro _ last ⟨-, guest, world⟩
    rw [guest, world]
    exact settled.symm

end DosC32.Termination
