import DosC32.Proofs.ExecJournal

/-! # Runs of the undo journal

A run stages far writes, spans of them and aborts in any order, each call with its own machine
argument and so with its own backend failures. Until the journal is poisoned its records undo
guest memory back to the moment of initialization.
-/

namespace DosC32.Journal

open Effect Store

/-- The calls that stage and undo guest writes. -/
inductive JournalCall where
  | stageReplaceFar (machineIdentity : ℕ) (machine : Machine) (segment offset : UInt16) (source : List UInt8)
      (count : ℕ)
  | stageReplaceFarSpan (machineIdentity : ℕ) (machine : Machine) (segment offset : UInt16) (source : List UInt8)
      (count : ℕ)
  | abort (machineIdentity : ℕ) (machine : Machine)

def JournalCall.perform : JournalCall → JournalM Unit
  | stageReplaceFar machineIdentity machine segment offset source count =>
    Journal.stageReplaceFar machineIdentity machine segment offset source count
  | stageReplaceFarSpan machineIdentity machine segment offset source count =>
    Journal.stageReplaceFarSpan machineIdentity machine segment offset source count
  | abort machineIdentity machine => Journal.abort machineIdentity machine

def JournalCall.IsAbort : JournalCall → Prop
  | abort _ _ => True
  | _ => False

/-- What the journal guarantees about the memory it was opened on. -/
inductive Protects (machine : Machine) (origin : ℕ → UInt8) (state : JournalState) : Prop
  | staging (staging : state.journal.state = journalStateStaging)
      (a20 : a20Byte machine.a20Enabled = state.journal.a20Enabled)
      (undone : unwind state.guest.memory (images machine state.journal) = origin)
  | aborted (aborted : state.journal.state = journalStateAborted) (restored : state.guest.memory = origin)
  | poisoned (poisoned : state.journal.state = journalStatePoisoned)

variable {machine other : Machine} {origin : ℕ → UInt8} {state next : JournalState}

/-- The footprint of a record depends on the machine only through its A20 line. -/
theorem images_congr {journal : Journal} (same : other.a20Enabled = machine.a20Enabled) :
    images other journal = images machine journal := by
  simp only [images, image, Machine.footprint_congr same]

private theorem a20Byte_inj {left right : Bool} (same : a20Byte left = a20Byte right) : left = right := by
  revert same
  cases left <;> cases right <;> decide

namespace Protects

variable (protects : Protects machine origin state)
include protects

theorem undone (bound : Bound state.journal other) (staging : state.journal.state = journalStateStaging) :
    unwind state.guest.memory (images other state.journal) = origin := by
  cases protects with
  | staging _ a20 undone =>
    rw [images_congr (a20Byte_inj (bound.a20.trans a20.symm)), undone]
  | aborted aborted =>
    rw [aborted] at staging
    exact absurd staging (by decide)
  | poisoned poisoned => exact (bound.healthy poisoned).elim

theorem extended (bound : Bound state.journal other)
    (extended : Extends other state next) : Protects machine origin next := by
  have kept := congrArg Journal.state extended.journal
  have a20 := congrArg Journal.a20Enabled extended.journal
  change next.journal.state = state.journal.state at kept
  change next.journal.a20Enabled = state.journal.a20Enabled at a20
  cases protects with
  | staging staging initial undone =>
    refine .staging extended.staging (initial.trans a20.symm) ?_
    have same : other.a20Enabled = machine.a20Enabled := a20Byte_inj (bound.a20.trans initial.symm)
    rw [← images_congr same, extended.unwind_images, images_congr same, undone]
  | aborted aborted =>
    rw [extended.staging, aborted] at kept
    exact absurd kept (by decide)
  | poisoned poisoned => exact (bound.healthy poisoned).elim

theorem unchanged (journal : next.journal = state.journal)
    (memory : next.guest.memory = state.guest.memory) : Protects machine origin next := by
  cases protects with
  | staging staging a20 undone =>
    refine .staging ?_ ?_ ?_ <;> simpa only [journal, memory]
  | aborted aborted restored =>
    refine .aborted ?_ ?_ <;> simpa only [journal, memory]
  | poisoned poisoned => exact .poisoned (by rw [journal, poisoned])

end Protects

/-- The invariant of a run. -/
def Guarded (machine : Machine) (origin : ℕ → UInt8) (state : JournalState) : Prop :=
  state.journal.hasValidEncoding ∧ Protects machine origin state

theorem guarded_of_failed (guarded : Guarded machine origin state) (failed : Failed state next) :
    Guarded machine origin next ∧ (next.journal.state ≠ journalStatePoisoned →
      next.journal = state.journal ∧ next.guest.memory = state.guest.memory) := by
  obtain ⟨encoding, protects⟩ := guarded
  rcases failed with ⟨journal, memory⟩ | ⟨valid, poisoned⟩
  · exact ⟨⟨journal ▸ encoding, protects.unchanged journal memory⟩, fun _ => ⟨journal, memory⟩⟩
  · exact ⟨⟨valid, .poisoned poisoned⟩, fun healthy => (healthy poisoned).elim⟩

/-- What one call does to a guarded state. -/
theorem guarded_step (call : JournalCall) (guarded : Guarded machine origin state) :
    wp call.perform state
      (fun _ next => Guarded machine origin next ∧ (call.IsAbort → next.guest.memory = origin))
      (fun _ next => Guarded machine origin next ∧ (next.journal.state ≠ journalStatePoisoned →
        next.journal = state.journal ∧ next.guest.memory = state.guest.memory)) := by
  have protects := guarded.2
  cases call with
  | stageReplaceFar machineIdentity other segment offset source count =>
    apply wp_mono (stageReplaceFar_spec other machineIdentity segment offset source count state)
    · rintro _ next ⟨bound, staging, room, record, valid, journal, memory⟩
      have extended := (Extends.refl bound.encoding staging).push room valid journal memory
      exact ⟨⟨extended.encoding, protects.extended bound extended⟩, False.elim⟩
    · intro _ next failed
      exact guarded_of_failed guarded failed
  | stageReplaceFarSpan machineIdentity other segment offset source count =>
    apply wp_mono (stageReplaceFarSpan_spec other machineIdentity segment offset source count state)
    · rintro _ next ⟨bound, extended⟩
      exact ⟨⟨extended.encoding, protects.extended bound extended⟩, False.elim⟩
    · intro _ next failed
      exact guarded_of_failed guarded failed
  | abort machineIdentity other =>
    apply wp_mono (abort_spec other machineIdentity state)
    · rintro _ next ⟨bound, encoding, aborted, undone⟩
      have restored : next.guest.memory = origin := by
        rcases undone with ⟨already, memory⟩ | ⟨staging, memory⟩
        · cases protects with
          | staging staging =>
            rw [already] at staging
            exact absurd staging (by decide)
          | aborted _ restored => exact memory.trans restored
          | poisoned poisoned => exact (bound.healthy poisoned).elim
        · rw [memory, protects.undone bound staging]
      exact ⟨⟨encoding, .aborted aborted restored⟩, fun _ => restored⟩
    · intro _ next failed
      exact guarded_of_failed guarded failed

/-- A journal that was just opened has nothing to undo. -/
theorem initializeJournal_spec (machineIdentity : ℕ) (machine : Machine) (state : JournalState) :
    wp (initializeJournal machineIdentity machine) state
      (fun _ => Guarded machine state.guest.memory) (fun _ next => next = state) := by
  simp only [initializeJournal, modifyJournal, wp_all]
  intro accepted _ fresh
  simp only [not_or, not_not] at accepted fresh
  obtain ⟨⟨⟨constructed, reserved, _, _, bound⟩, blank, _, _, records⟩, identity, usable⟩ := accepted
  obtain ⟨_, _, _, empty, _⟩ := blank fresh
  have valid : stateIsValid journalStateStaging := by decide
  have apart : journalStateStaging ≠ journalStateUninitialized ∧ journalStateStaging ≠ journalStateSealed ∧
      journalStateStaging ≠ journalStateAborted := by decide
  have narrow : a20Byte machine.a20Enabled ≤ 1 := by
    cases machine.a20Enabled <;> decide
  refine ⟨⟨⟨constructed, reserved, narrow, valid, bound⟩, fun other => (apart.1 other).elim,
    fun _ => ⟨identity, usable.2.2⟩, fun closed => (closed.elim apart.2.1 apart.2.2).elim, records⟩,
    .staging rfl rfl ?_⟩
  simp only [images, empty, List.range_zero, List.map_nil, unwind_nil]

/-- Along every run after a successful initialization the journal is well encoded; an abort that
succeeds restores guest memory byte for byte, and a call that fails without poisoning the journal
changes neither the journal nor guest memory. -/
theorem journal_runs_undo {machineIdentity : ℕ} {fresh opened : JournalState}
    {history : List (JournalCall × Except JournalError Unit)}
    (opening : initializeJournal machineIdentity machine fresh = .ok () opened)
    (run : Runs JournalCall.perform (fun _ _ => True) opened history state) :
    state.journal.hasValidEncoding ∧ ∀ call : JournalCall, wp call.perform state
      (fun _ next => next.journal.hasValidEncoding ∧ (call.IsAbort → next.guest.memory = fresh.guest.memory))
      (fun _ next => next.journal.hasValidEncoding ∧ (next.journal.state ≠ journalStatePoisoned →
        next.journal = state.journal ∧ next.guest.memory = state.guest.memory)) := by
  have guarded := wp_of_ok (initializeJournal_spec machineIdentity machine fresh) opening
  have reached : Guarded machine fresh.guest.memory state := by
    refine run.invariant_state (Guarded machine fresh.guest.memory) guarded ?_
    intro state call guarded _
    exact wp_mono (guarded_step call guarded) (fun _ _ => And.left) (fun _ _ => And.left)
  refine ⟨reached.1, fun call => ?_⟩
  apply wp_mono (guarded_step call reached)
  · rintro _ next ⟨guarded, restored⟩
    exact ⟨guarded.1, restored⟩
  · rintro _ next ⟨guarded, unchanged⟩
    exact ⟨guarded.1, unchanged⟩

def blankJournal : JournalState := ⟨construct, fun _ => 0, 0⟩

def wrappingMachine : Machine := { Machine.ideal with a20Enabled := false }

def openedJournal : JournalState := final (initializeJournal 7 wrappingMachine) blankJournal

/-- Two writes that overlap at address zero, the first of them across the A20 wrap. -/
def stagedJournal : JournalState :=
  final (stageReplaceFarSpan 7 wrappingMachine 0 0 [5, 6, 7] 3)
    (final (stageReplaceFar 7 wrappingMachine 0xffff 0xf [1, 2] 2) openedJournal)

theorem journal_runs_undo_overlap : stagedJournal.guest.memory 0 = 5 ∧
    (final (abort 7 wrappingMachine) stagedJournal).guest.memory = blankJournal.guest.memory := by
  have run : Runs JournalCall.perform (fun _ _ => True) openedJournal _ stagedJournal :=
    .step (JournalCall.stageReplaceFarSpan 7 wrappingMachine 0 0 [5, 6, 7] 3)
      (.step (JournalCall.stageReplaceFar 7 wrappingMachine 0xffff 0xf [1, 2] 2) .start trivial) trivial
  have opening : initializeJournal 7 wrappingMachine blankJournal = .ok () openedJournal := rfl
  have aborted : Journal.abort 7 wrappingMachine stagedJournal =
    .ok () (final (abort 7 wrappingMachine) stagedJournal) := rfl
  exact ⟨rfl, (wp_of_ok ((journal_runs_undo opening run).2 (.abort 7 wrappingMachine)) aborted).2 trivial⟩

end DosC32.Journal
