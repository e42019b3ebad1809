import DosC32.Model.Machine

/-! # Contracts of guest-memory transfers

A read never changes guest memory. A write that completes stores exactly its bytes; one that does
not complete disturbs only its own target addresses. Replacement is therefore all or nothing
unless it reports `rollbackFailed`, and on a fault-free backend it never does.
-/

namespace DosC32.Machine

open Effect Store List

variable (machine : Machine) {guest : Guest}

/-- An unpoisoned machine accepts transfers of this range. -/
def Reaches (address count : ℕ) : Prop :=
  machine.poisoned = 0 ∧ machine.guestRangeIsValid address count

/-- A machine within the limits of `dos_machine_configure`, on a backend that never fails. -/
structure Reliable (machine : Machine) : Prop where
  clean : machine.FaultFree
  limit : machine.addressLimit ≤ guest32AddressLimit

theorem reliable_of_configure {ops : MachineOps} {context addressLimit : ℕ} {a20Enabled : Bool}
    (configured : configure ops context addressLimit a20Enabled = .ok machine) (clean : machine.FaultFree) :
    machine.Reliable := by
  refine ⟨clean, ?_⟩
  unfold configure at configured
  split at configured
  · contradiction
  next accepted =>
    cases configured
    simp only [not_or, Nat.not_lt] at accepted
    exact accepted.2.2.2

/-- A real-mode machine on a backend that never fails. -/
def ideal : Machine := ⟨some ⟨some fun _ => none, some fun _ => none⟩, 0, 0x110000, true, 0⟩

theorem ideal_configured : configure ⟨some fun _ => none, some fun _ => none⟩ 0 0x110000 true = .ok ideal := rfl

theorem ideal_faultFree : ideal.FaultFree := ⟨_, _, rfl, rfl, fun _ => rfl, fun _ => rfl⟩

/-- There is a read callback. -/
def Readable : Prop := (machine.ops.bind MachineOps.readMemory).isSome

/-- A read callback with a number in the given range fails. -/
def ReadFails (first last : ℕ) : Prop :=
  ∃ callback call, machine.ops.bind MachineOps.readMemory = some callback ∧ first ≤ call ∧ call < last ∧ callback call ≠ none

section Faults

variable {machine} {first first' last : ℕ}

theorem ReadFails.mono (fails : machine.ReadFails first last) (earlier : first' ≤ first) :
    machine.ReadFails first' last := by
  obtain ⟨callback, call, present, low, high, failed⟩ := fails
  exact ⟨callback, call, present, Nat.le_trans earlier low, high, failed⟩

theorem FaultFree.not_readFails (clean : machine.FaultFree) : ¬ machine.ReadFails first last := by
  rintro ⟨callback, call, present, -, -, failed⟩
  obtain ⟨readCallback, _, isRead, _, quiet, _⟩ := clean
  rw [Option.some.inj (present.symm.trans isRead)] at failed
  exact failed (quiet call)

theorem FaultFree.readable (clean : machine.FaultFree) : machine.Readable := by
  obtain ⟨_, _, isRead, _⟩ := clean
  rw [Readable, isRead]
  rfl

theorem not_readable (missing : machine.ops.bind MachineOps.readMemory = none) : ¬ machine.Readable := by
  rw [Readable, missing]
  exact Bool.false_ne_true

end Faults

theorem machineReady_spec :
    wp machine.machineReady guest (fun _ next => next = guest ∧ machine.poisoned = 0)
      (fun error next => next = guest ∧ machine.poisoned ≠ 0 ∧ error ≠ .rollbackFailed) := by
  simp only [machineReady, wp_rules]
  refine ⟨fun large => ⟨trivial, ?_, by decide⟩, fun _ => ⟨fun set => ⟨trivial, set, by decide⟩, fun zero => ⟨trivial, ?_⟩⟩⟩
  · intro zero
    rw [zero] at large
    exact absurd large (by decide)
  · exact not_not.mp zero

/-- A read that fails was refused, or met a failing callback. -/
theorem read_spec {address capacity count : ℕ} :
    wp (machine.read address capacity count) guest
      (fun bytes next => next.memory = guest.memory ∧ bytes = load guest.memory (range' address count) ∧
        guest.calls ≤ next.calls ∧ (count = 0 ∨ machine.Reaches address count))
      (fun error next => next.memory = guest.memory ∧ (error = .rollbackFailed → ¬ machine.FaultFree) ∧
        (machine.ReadFails guest.calls next.calls ∨
          (machine.Readable → count ≤ capacity → ¬ machine.Reaches address count))) := by
  simp only [read, wp_rules]
  refine ⟨fun callback present => ?_,
    fun missing => ⟨trivial, by simp, .inr fun readable => absurd readable (not_readable missing)⟩⟩
  apply wp_mono machine.machineReady_spec
  · rintro _ _ ⟨rfl, ready⟩
    simp only [wp_split]
    refine ⟨?_, fun _ => ⟨fun short => ⟨trivial, by simp, .inr fun _ _ => by omega⟩,
      fun _ => ⟨fun invalid => ?_, fun valid => ?_⟩⟩⟩
    · rintro rfl
      exact ⟨trivial, rfl, Nat.le_refl _, .inl rfl⟩
    · exact ⟨trivial, by simp, .inr fun _ _ reaches => invalid reaches.2⟩
    · unfold wp callRead
      cases answer : callback _ with
      | none => exact ⟨rfl, rfl, Nat.le_succ _, .inr ⟨ready, not_not.mp valid⟩⟩
      | some status =>
        have fails : machine.ReadFails _ _ := ⟨callback, _, present, Nat.le_refl _, Nat.lt_succ_self _, by rw [answer]; simp⟩
        exact ⟨rfl, fun _ clean => clean.not_readFails fails, .inl fails⟩
  · rintro error _ ⟨rfl, poisoned, other⟩
    exact ⟨rfl, fun same => (other same).elim, .inr fun _ _ reaches => poisoned reaches.1⟩

/-- A write completes exactly, or stays inside its target range; without backend faults it can only
be refused before anything happens. -/
theorem write_spec {address : ℕ} {source : List UInt8} {count : ℕ} :
    wp (machine.write address source count) guest
      (fun _ next => next.memory = save guest.memory (range' address count) (source.take count) ∧
        count ≤ source.length)
      (fun _ next => AgreeOff (range' address count) next.memory guest.memory ∧
        (machine.FaultFree → count ≤ source.length → ¬ machine.Reaches address count)) := by
  simp only [write, wp_rules]
  refine ⟨fun callback present => ?_, fun missing => ⟨.refl _ _, ?_⟩⟩
  · apply wp_mono machine.machineReady_spec
    · rintro _ _ ⟨rfl, ready⟩
      simp only [wp_split]
      refine ⟨?_, fun _ => ⟨fun short => ⟨.refl _ _, fun _ _ => by omega⟩, fun long => ⟨fun invalid => ?_, fun _ => ?_⟩⟩⟩
      · rintro rfl
        simp
      · exact ⟨.refl _ _, fun _ _ reaches => invalid reaches.2⟩
      · unfold wp callWrite
        cases answer : callback _ with
        | none => exact ⟨rfl, by omega⟩
        | some fault =>
          constructor
          · intro target outside
            rw [mem_range'_1] at outside
            exact if_neg outside
          · rintro ⟨_, writeCallback, _, isWrite, _, clean⟩
            rw [Option.some.inj (present.symm.trans isWrite), clean] at answer
            cases answer
    · rintro error _ ⟨rfl, poisoned, _⟩
      exact ⟨.refl _ _, fun _ _ reaches => poisoned reaches.1⟩
  · rintro ⟨_, writeCallback, _, isWrite, _⟩
    rw [missing] at isWrite
    contradiction

/-- Publishing restores the image it was given whenever it fails and the restore completes. -/
theorem publishOrRestore_spec {publish restore : MachineM Unit} {rollback : List UInt8} (touched : List ℕ)
    (published : (ℕ → UInt8) → Prop) (clean : Prop)
    (publishing : wp publish guest (fun _ next => published next.memory)
      (fun _ next => AgreeOff touched next.memory guest.memory ∧ ¬ clean))
    (restoring : ∀ torn : Guest,
      wp restore torn (fun _ next => next.memory = save torn.memory touched (load guest.memory touched)) (fun _ _ => True)) :
    wp (publishOrRestore publish restore rollback) guest
      (fun bytes next => bytes = rollback ∧ published next.memory)
      (fun error next => (error ≠ .rollbackFailed → next.memory = guest.memory) ∧ ¬ clean) := by
  simp only [publishOrRestore, wp_bind, wp_attempt]
  refine wp_mono publishing (fun _ next stored => ⟨rfl, stored⟩) ?_
  rintro status torn ⟨agree, faulty⟩
  apply wp_mono (restoring torn)
  · exact fun _ next restored => ⟨fun _ => restored.trans (save_load agree), faulty⟩
  · exact fun _ next _ => ⟨fun other => (other rfl).elim, faulty⟩

/-- `dos_machine_replace` is all or nothing unless it reports a lost rollback. -/
theorem replace_spec {address : ℕ} {source : List UInt8} {rollbackCapacity count : ℕ} :
    wp (machine.replace address source rollbackCapacity count) guest
      (fun bytes next => bytes = load guest.memory (range' address count) ∧
        next.memory = save guest.memory (range' address count) (source.take count) ∧
        (count = 0 ∨ machine.Reaches address count))
      (fun error next => (error ≠ .rollbackFailed → next.memory = guest.memory) ∧
        (error = .rollbackFailed → ¬ machine.FaultFree) ∧
        (machine.FaultFree → count ≤ source.length → count ≤ rollbackCapacity →
          ¬ machine.Reaches address count)) := by
  simp only [replace, wp_split]
  refine ⟨?_, fun some => ⟨fun _ => ⟨fun _ => trivial, by simp, fun _ _ _ => by omega⟩, fun fits => ?_⟩⟩
  · rintro rfl
    exact ⟨rfl, rfl, .inl rfl⟩
  rw [not_or, Nat.not_lt, Nat.not_lt] at fits
  apply wp_mono machine.read_spec
  · rintro rollback ready ⟨same, loaded, -, access⟩
    have reaches : machine.Reaches address count := access.resolve_left some
    refine wp_mono (publishOrRestore_spec (range' address count)
      (fun memory => memory = save ready.memory (range' address count) (source.take count)) machine.FaultFree
      (wp_mono machine.write_spec (fun _ _ outcome => outcome.1) ?_)
      fun torn => wp_mono machine.write_spec ?_ fun _ _ _ => trivial) ?_ ?_
    · rintro _ next ⟨agree, refused⟩
      exact ⟨agree, fun clean => refused clean fits.1 reaches⟩
    · rintro _ next ⟨stored, -⟩
      rw [stored, loaded, take_of_length_le (by simp [load]), same]
    · rintro bytes next ⟨rfl, stored⟩
      exact ⟨loaded, by rw [stored, same], access⟩
    · rintro error next ⟨restored, faulty⟩
      exact ⟨fun other => (restored other).trans same, fun _ => faulty, fun clean => (faulty clean).elim⟩
  · rintro error next ⟨same, lost, refused⟩
    exact ⟨fun _ => same, lost, fun clean _ => refused.resolve_left clean.not_readFails clean.readable⟩

variable (segment offset : UInt16)

/-- The chunks of a far range are valid. -/
abbrev FarValid (count : ℕ) : Prop := ∀ chunk ∈ machine.farChunks segment offset count,
  chunk.length ≠ 0 ∧ machine.guestRangeIsValid chunk.linear chunk.length

variable {segment offset} in
theorem validateFar_spec {count : ℕ} :
    wp (machine.validateFar segment offset count) guest
      (fun _ next => next = guest ∧ machine.poisoned = 0 ∧ machine.FarValid segment offset count)
      (fun _ next => next = guest ∧ (0 < machine.addressLimit → machine.addressLimit ≤ guest32AddressLimit →
        machine.poisoned = 0 → ¬ machine.FarValid segment offset count)) := by
  simp only [validateFar, wp_rules]
  refine ⟨fun outside => ⟨trivial, fun _ _ => by omega⟩, fun _ => ?_⟩
  apply wp_mono machine.machineReady_spec
  · rintro _ _ ⟨rfl, ready⟩
    exact ⟨fun bad => ⟨rfl, fun _ _ _ => bad⟩, fun fine => ⟨rfl, ready, not_not.mp fine⟩⟩
  · rintro error _ ⟨rfl, poisoned, _⟩
    exact ⟨rfl, fun _ _ ready => (poisoned ready).elim⟩

theorem readChunks_spec (capacity : ℕ) (chunks : List Chunk) :
    wp (machine.readChunks capacity chunks) guest
      (fun bytes next => next.memory = guest.memory ∧ bytes = load guest.memory (chunks.flatMap Chunk.addresses) ∧
        guest.calls ≤ next.calls)
      (fun _ next => next.memory = guest.memory ∧ (machine.ReadFails guest.calls next.calls ∨ (machine.Readable →
        (chunks.map Chunk.length).sum ≤ capacity → ¬ ∀ chunk ∈ chunks, machine.Reaches chunk.linear chunk.length))) := by
  induction chunks generalizing capacity guest with
  | nil => simp [readChunks, load]
  | cons chunk rest ih =>
    simp only [readChunks, wp_rules, map_cons, sum_cons, forall_mem_cons]
    apply wp_mono machine.read_spec
    · rintro head middle ⟨same, rfl, later, _⟩
      apply wp_mono (ih (capacity - chunk.length))
      · rintro tail next ⟨same', rfl, later'⟩
        refine ⟨same'.trans same, ?_, Nat.le_trans later later'⟩
        simp only [load, flatMap_cons, map_append, same, Chunk.addresses]
      · rintro _ next ⟨same', refused⟩
        exact ⟨same'.trans same, refused.imp (·.mono later) fun refused readable fits all =>
          refused readable (by omega) all.2⟩
    · rintro _ next ⟨same, _, refused⟩
      exact ⟨same, refused.imp_right fun refused readable fits all => refused readable (by omega) all.1⟩

variable (source : List UInt8)

/-- A chunked write stores consecutive bytes of its source, or stays inside the chunks. -/
theorem writeChunks_spec (chunks : List Chunk) : wp (machine.writeChunks source chunks) guest
      (fun _ next => next.memory = save guest.memory (chunks.flatMap Chunk.addresses) source)
      (fun _ next => AgreeOff (chunks.flatMap Chunk.addresses) next.memory guest.memory ∧
        (machine.FaultFree → (chunks.map Chunk.length).sum ≤ source.length →
          ¬ ∀ chunk ∈ chunks, machine.Reaches chunk.linear chunk.length)) := by
  induction chunks generalizing source guest with
  | nil => simp [writeChunks]
  | cons chunk rest ih =>
    simp only [writeChunks, wp_bind, flatMap_cons, map_cons, sum_cons, forall_mem_cons]
    apply wp_mono machine.write_spec
    · rintro _ middle ⟨stored, fits⟩
      apply wp_mono (ih (source.drop chunk.length))
      · intro _ next rested
        rw [rested, stored]
        conv_rhs => rw [← take_append_drop chunk.length source]
        exact (save_append _ (by simp [fits])).symm
      · rintro _ next ⟨agree, refused⟩
        have head : AgreeOff chunk.addresses middle.memory guest.memory := stored ▸ save_agreeOff _ _ _
        rw [length_drop] at refused
        exact ⟨(agree.mono (by simp +contextual)).trans (head.mono (by simp +contextual)),
          fun clean enough all => refused clean (by omega) all.2⟩
    · rintro _ next ⟨agree, refused⟩
      exact ⟨agree.mono (by simp +contextual [Chunk.addresses]), fun clean enough all => refused clean (by omega) all.1⟩

private theorem farChunksLoop_zero (rounds : ℕ) : machine.farChunksLoop segment rounds offset 0 = [] := by
  cases rounds <;> simp [farChunksLoop]

private theorem farToLinear_lt : farToLinear segment offset false < a20WrapAddress := Nat.mod_lt _ (by decide)

theorem farTransferChunk_pos {remaining : ℕ} (some : remaining ≠ 0) :
    0 < (machine.farTransferChunk segment offset remaining).length ∧
      (machine.farTransferChunk segment offset remaining).length ≤ remaining := by
  have bound := offset.toNat_lt
  simp only [farTransferChunk]
  split
  · omega
  next low =>
    have line := farToLinear_lt segment offset
    rw [(Bool.not_eq_true _).mp low]
    omega

theorem farChunksLoop_sum {rounds remaining : ℕ} (enough : remaining ≤ rounds) :
    ((machine.farChunksLoop segment rounds offset remaining).map Chunk.length).sum = remaining := by
  induction rounds generalizing offset remaining with
  | zero => simp [farChunksLoop, Nat.le_zero.mp enough]
  | succ rounds ih =>
    rw [farChunksLoop]
    split
    next none => simp [none]
    next some =>
      have chunk := machine.farTransferChunk_pos segment offset some
      simp only [map_cons, sum_cons]
      rw [ih _ (by omega)]
      omega

/-- A far range has as many addresses as it has bytes. -/
theorem footprint_length (count : ℕ) : (machine.footprint segment offset count).length = count := by
  have sum := machine.farChunksLoop_sum segment offset (Nat.le_refl count)
  simpa [footprint, farChunks, length_flatMap, Chunk.addresses, Function.comp_def] using sum

/-- The addresses of a far range depend on the machine only through its A20 line. -/
theorem footprint_congr {machine other : Machine} (same : machine.a20Enabled = other.a20Enabled)
    (segment offset : UInt16) (count : ℕ) :
    machine.footprint segment offset count = other.footprint segment offset count := by
  have loops : ∀ (rounds remaining : ℕ) (offset : UInt16),
      machine.farChunksLoop segment rounds offset remaining = other.farChunksLoop segment rounds offset remaining := by
    intro rounds
    induction rounds with
    | zero => intro remaining offset; rfl
    | succ rounds ih =>
      intro remaining offset
      simp only [farChunksLoop, farTransferChunk, same, ih]
  simp only [footprint, farChunks, loops]

/-- A range that wraps neither its offset nor the A20 line is one chunk. -/
theorem farChunks_single (count : ℕ) (some : count ≠ 0) (offsetFits : offset.toNat + count ≤ 0x10000)
    (lineFits : farToLinear segment offset machine.a20Enabled + count ≤ a20WrapAddress) :
    machine.farChunks segment offset count = [⟨farToLinear segment offset machine.a20Enabled, count⟩] := by
  obtain ⟨rounds, rfl⟩ := Nat.exists_eq_succ_of_ne_zero some
  have chunk : machine.farTransferChunk segment offset rounds.succ =
      ⟨farToLinear segment offset machine.a20Enabled, rounds.succ⟩ := by
    simp only [farTransferChunk]
    rw [Nat.min_eq_left (by omega), Nat.min_eq_left (by omega), ite_self]
  simp only [farChunks, farChunksLoop, chunk, Nat.sub_self, farChunksLoop_zero]
  rfl

variable {segment offset source}

/-- A far read that fails was refused, or met a failing callback. -/
theorem readFar_spec {capacity count : ℕ} :
    wp (machine.readFar segment offset capacity count) guest
      (fun bytes next => next.memory = guest.memory ∧ bytes = load guest.memory (machine.footprint segment offset count) ∧
        guest.calls ≤ next.calls ∧ machine.poisoned = 0 ∧ machine.FarValid segment offset count)
      (fun _ next => next.memory = guest.memory ∧ (machine.ReadFails guest.calls next.calls ∨ (machine.Readable →
        count ≤ capacity → 0 < machine.addressLimit → machine.addressLimit ≤ guest32AddressLimit →
        machine.poisoned = 0 → ¬ machine.FarValid segment offset count))) := by
  simp only [readFar, wp_rules]
  refine ⟨fun _ _ => ⟨fun short => ⟨trivial, .inr fun _ _ => by omega⟩, fun _ => ?_⟩,
    fun missing => ⟨trivial, .inr fun readable => absurd readable (not_readable missing)⟩⟩
  apply wp_mono machine.validateFar_spec
  · rintro _ _ ⟨rfl, ready, valid⟩
    apply wp_mono (machine.readChunks_spec capacity _)
    · rintro _ _ ⟨same, loaded, later⟩
      exact ⟨same, loaded, later, ready, valid⟩
    · rintro _ next ⟨same, refused⟩
      refine ⟨same, refused.imp_right fun refused readable fits _ _ _ _ => refused readable ?_ fun chunk member =>
        ⟨ready, (valid chunk member).2⟩⟩
      rwa [farChunks, machine.farChunksLoop_sum segment offset (Nat.le_refl count)]
  · rintro _ _ ⟨rfl, refused⟩
    exact ⟨rfl, .inr fun _ _ => refused⟩

/-- A far read of a range that lies in one chunk reaches it; a reliable machine never refuses one it
reaches. -/
theorem readFar_single_spec {capacity count linear : ℕ} (some : count ≠ 0)
    (fits : count ≤ capacity) (single : machine.farChunks segment offset count = [⟨linear, count⟩]) :
    wp (machine.readFar segment offset capacity count) guest
      (fun bytes next => next.memory = guest.memory ∧ bytes = load guest.memory (range' linear count) ∧
        machine.Reaches linear count)
      (fun _ next => next.memory = guest.memory ∧ (machine.Reliable → ¬ machine.Reaches linear count)) := by
  have all : machine.FarValid segment offset count ↔ machine.guestRangeIsValid linear count := by
    simp [FarValid, single, some]
  apply wp_mono machine.readFar_spec
  · rintro bytes next ⟨same, rfl, -, ready, valid⟩
    exact ⟨same, by simp [footprint, single, Chunk.addresses], ready, all.mp valid⟩
  · rintro _ next ⟨same, refused⟩
    refine ⟨same, fun reliable reaches => ?_⟩
    have low := reaches.2.1
    exact refused.resolve_left reliable.clean.not_readFails reliable.clean.readable fits (by omega) reliable.limit reaches.1
      (all.mpr reaches.2)

theorem writeFar_spec {count : ℕ} : wp (machine.writeFar segment offset source count) guest
      (fun _ next => next.memory = save guest.memory (machine.footprint segment offset count) source ∧ machine.poisoned = 0)
      (fun _ next => AgreeOff (machine.footprint segment offset count) next.memory guest.memory) := by
  simp only [writeFar, wp_rules]
  refine ⟨fun _ _ => ⟨fun _ => .refl _ _, fun _ => ?_⟩, fun _ => .refl _ _⟩
  apply wp_mono machine.validateFar_spec
  · rintro _ _ ⟨rfl, ready, -⟩
    exact wp_mono (machine.writeChunks_spec source _) (fun _ _ stored => ⟨stored, ready⟩) fun _ _ torn => torn.1
  · rintro _ _ ⟨rfl, _⟩
    exact .refl _ _

/-- `dos_machine_replace_far` over the whole segmented and A20-wrapped footprint. -/
theorem replaceFar_spec {rollbackCapacity count : ℕ} :
    wp (machine.replaceFar segment offset source rollbackCapacity count) guest
      (fun bytes next => bytes = load guest.memory (machine.footprint segment offset count) ∧
        AgreeOff (machine.footprint segment offset count) next.memory guest.memory ∧
        next.memory = save guest.memory (machine.footprint segment offset count) source)
      (fun error next => error ≠ .rollbackFailed → next.memory = guest.memory) := by
  simp only [replaceFar, wp_split]
  refine ⟨?_, fun _ => ⟨fun _ _ => trivial, fun _ => ?_⟩⟩
  · rintro rfl
    exact ⟨rfl, .refl _ _, by simp [footprint, farChunks, farChunksLoop]⟩
  refine wp_mono machine.readFar_spec ?_ (fun _ _ refused _ => refused.1)
  rintro rollback ready ⟨same, loaded, -⟩
  refine wp_mono (publishOrRestore_spec (machine.footprint segment offset count)
    (fun memory => memory = save ready.memory (machine.footprint segment offset count) source) False
    (wp_mono machine.writeFar_spec (fun _ _ outcome => outcome.1) fun _ _ agree => ⟨agree, not_false⟩)
    fun torn => wp_mono machine.writeFar_spec ?_ fun _ _ _ => trivial) ?_ ?_
  · rintro _ next ⟨stored, -⟩
    rw [stored, loaded, same]
  · rintro bytes next ⟨rfl, stored⟩
    refine ⟨loaded, ?_, same ▸ stored⟩
    rw [stored, same]
    exact save_agreeOff _ _ _
  · rintro error next ⟨restored, _⟩ other
    exact (restored other).trans same

end DosC32.Machine
