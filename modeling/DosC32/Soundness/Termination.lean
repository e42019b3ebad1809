import DosC32.Proofs.Termination

/-! # All or poison

A termination that fails either did nothing or poisoned the arena and the process state. Whenever
it reaches the handle loop and no read fails, every handle of the table is released once, from the
last to the first, with the device of a local entry closed right after.
-/

namespace DosC32.Termination

open Effect SftBatch

variable {σ : Type}

/-- A failed termination left everything as it was, or both poison flags are set; and a termination that reaches the handle
loop without a failing read makes, for every byte of the table from the last to the first, exactly the calls of that
byte. -/
theorem termination_all_or_poisoned (services : TerminationServices σ) (parentRuntime : RuntimeSnapshot)
    (processPsp : UInt16) (state : TerminationState σ) :
    (∀ failure, outcome (execute services parentRuntime processPsp) state = .error failure →
      Untouched state (final (execute services parentRuntime processPsp) state) ∨
        Poisoned (final (execute services parentRuntime processPsp) state)) ∧
    ∀ prepared middle, outcome (reachHandles services parentRuntime processPsp) state = .ok prepared →
      middle = final (reachHandles services parentRuntime processPsp) state →
      outcome (closePreflight services.machine services.machineIdentity prepared.plan services.sftOps services.sftContext)
        ⟨middle.guest, middle.world⟩ = .ok () →
      ¬ services.machine.ReadFails middle.guest.calls
        (final (execute services parentRuntime processPsp) state).guest.calls →
      ClosesAll (jftBytes services.machine middle.guest.memory prepared.plan).reverse state.world.trace
        (final (execute services parentRuntime processPsp) state).world.trace := by
  constructor
  · intro failure failed
    exact wp_outcome_error execute_spec failed
  · rintro prepared _ returned rfl reached working
    have ran := eq_ok_of_outcome returned
    have settled := wp_final (execute_closes ran reached)
    rw [Settled, wp_of_ok reachHandles_spec ran] at settled
    exact settled.resolve_right working

section Sample

/-- A process at 1000h with two handles, and its parent at 0050h. -/
def sampleMemory : ℕ → UInt8
  | 0x10016 => 0x50
  | 0x10018 => 1
  | 0x10019 => 1
  | 0x10032 => 2
  | 0x10034 => 0x18
  | 0x10037 => 0x10
  | 0x20000 => mcbSignatureEnd
  | 0x20003 => 0x10
  | _ => 0

/-- An adapter that finds every file and answers every call. -/
def sampleOps : SftBatchOps Unit where
  identity := 5
  lookup := fun _ sfn _ => ((.ok, ⟨sfn.toNat, 0, 0⟩), ())
  act := fun _ _ _ _ => (.ok, ())

def sampleServices : TerminationServices Unit := ⟨Machine.ideal, sampleOps, 3, 7⟩

def sampleState : TerminationState Unit :=
  ⟨⟨2, 1, ⟨0x80, 0x1000⟩, 0x1000, 1, 0, 1, fun _ => 0⟩, ⟨1, 1, 0x2000, allocFirstFit, 1, 0, 1, fun _ => 0⟩,
    ⟨sampleMemory, 0⟩, ⟨(), []⟩⟩

def sampleParent : RuntimeSnapshot := ⟨1, 1, ⟨0x80, 0x50⟩, 0x50, 0⟩

def samplePlan : TerminationPlan :=
  ⟨3, 0, 0x110000, ⟨0, 0⟩, ⟨0, 0⟩, ⟨0, 0⟩, ⟨0, 0⟩, ⟨0x18, 0x1000⟩, 0x1000, 0x50, 2, 1, 1, fun _ => 0⟩

theorem termination_all_or_poisoned_sample :
    (final (execute sampleServices sampleParent 0x1000) sampleState).world.trace =
        [(.act .deviceClose 1, .ok), (.act .referenceRelease 1, .ok), (.lookup 1 ⟨1, 0, 0⟩, .ok),
          (.act .deviceClose 1, .ok), (.act .referenceRelease 1, .ok), (.lookup 1 ⟨1, 0, 0⟩, .ok)] ∧
      ClosesAll [1, 1] [] (final (execute sampleServices sampleParent 0x1000) sampleState).world.trace := by
  have started : outcome (reachHandles sampleServices sampleParent 0x1000) sampleState =
      .ok ⟨samplePlan, ⟨2, 1, ⟨0x80, 0x1000⟩, 0x1000, 0⟩, none, none, none, none⟩ := by decide +kernel
  have closes := (termination_all_or_poisoned sampleServices sampleParent 0x1000 sampleState).2 _ _ started rfl
    (by decide +kernel) Machine.ideal_faultFree.not_readFails
  have bytes : jftBytes sampleServices.machine
      (final (reachHandles sampleServices sampleParent 0x1000) sampleState).guest.memory
      samplePlan = [1, 1] := by decide +kernel
  rw [bytes] at closes
  exact ⟨by decide +kernel, closes⟩

/-- The adapter finds every file under a handle that is not valid. -/
def invalidServices : TerminationServices Unit :=
  ⟨Machine.ideal, { sampleOps with lookup := fun _ _ _ => ((.ok, ⟨referenceHandleInvalid, 0, 0⟩), ()) }, 3, 7⟩

/-- Both lookups succeed, and neither reference is released. -/
theorem invalid_reference_is_not_released :
    outcome (reachHandles invalidServices sampleParent 0x1000) sampleState =
        .ok ⟨samplePlan, ⟨2, 1, ⟨0x80, 0x1000⟩, 0x1000, 0⟩, none, none, none, none⟩ ∧
      (final (execute invalidServices sampleParent 0x1000) sampleState).world.trace =
        [(.lookup 1 ⟨referenceHandleInvalid, 0, 0⟩, .ok), (.lookup 1 ⟨referenceHandleInvalid, 0, 0⟩, .ok)] := by
  decide +kernel

end Sample

end DosC32.Termination
