import DosC32.Proofs.SftBatch

/-! # Runs of inheritance batches

Batches are prepared, committed, aborted and retired in any order, each call with adapter callbacks
of its own that answer as they like. What the adapter granted and did not take back is held by a
batch, or was handed over with a committed one.
-/

namespace DosC32.SftBatch

open Effect

variable {σ : Type}

inductive BatchCall (σ : Type) where
  | prepare (ops : SftBatchOps σ) (context : ℕ) (parentJft : Fin jftEntries → UInt8)
  | commit (handle : ℕ)
  | abort (ops : SftBatchOps σ) (context handle : ℕ)
  | retire (handle : ℕ)

/-- What a call returns. -/
inductive BatchReply where
  | handle (value : ℕ)
  | retired (slot : BatchSlot)
  | done

def perform : BatchCall σ → BatchM σ BatchReply
  | .prepare ops context parentJft => do
    let handle ← prepare ops context parentJft
    pure (.handle handle)
  | .commit handle => do
    commit handle
    pure .done
  | .abort ops context handle => do
    abort ops context handle
    pure .done
  | .retire handle => do
    let slot ← retire handle
    pure (.retired slot)

abbrev History (σ : Type) := List (BatchCall σ × Except SftBatchError BatchReply)

/-- The batches that were retired. -/
def retiredBatches (history : History σ) : List BatchSlot :=
  history.filterMap fun event => match event.2 with
    | .ok (.retired slot) => some slot
    | _ => none

/-- The static registry before the first call. -/
def constructed (adapter : σ) : SftBatches σ := ⟨fun _ => ⟨[], fun _ => 0, 0, 0, 0, 0, .free⟩, ⟨adapter, []⟩⟩

section Run

variable {adapter : σ} {state : SftBatches σ} {history : History σ}

theorem sound_constructed (adapter : σ) : Sound [] (constructed adapter) := by
  refine ⟨fun kind reference => ?_, fun _ => rfl, by simp, trivial⟩
  simp [constructed, taken]

theorem sound_step (sound : Sound (retiredBatches history) state) (call : BatchCall σ) :
    wp (perform call) state (fun reply next => Sound (retiredBatches ((call, .ok reply) :: history)) next)
      (fun error next => Sound (retiredBatches ((call, .error error) :: history)) next) := by
  cases call with
  | prepare ops context parentJft =>
    simp only [perform, wp_rules]
    exact wp_mono_failed (prepare_spec sound parentJft) (fun _ _ kept => kept.1)
  | commit handle =>
    simp only [perform, wp_rules]
    exact commit_spec sound handle
  | abort ops context handle =>
    simp only [perform, wp_rules]
    exact wp_mono_done (abort_spec sound handle) (fun _ _ kept => kept.1)
  | retire handle =>
    simp only [perform, wp_rules]
    exact retire_spec sound handle

theorem sound_of_run (run : Runs perform (fun _ _ => True) (constructed adapter) history state) :
    Sound (retiredBatches history) state :=
  run.invariant (fun history state => Sound (retiredBatches history) state) (sound_constructed adapter)
    fun _ _ call sound _ => sound_step sound call

/-- In every run: the references that were acquired and not released are those that the batches and the retired batches
hold, and likewise for devices; a batch that is prepared or committed, and one that was retired as committed, holds every
reference its child's table names, in order, and the devices of those not on a network; a free or aborted batch holds
nothing, and the only other state is the poisoned one; a preparation that fails without poison has no net effect, and an
abort that succeeds gives back exactly what the batch held; and a device is closed only right after its reference was
released or could not be acquired. -/
theorem sft_batch_balance (run : Runs perform (fun _ _ => True) (constructed adapter) history state) :
    (∀ kind reference, taken state.world.trace kind.take reference =
      taken state.world.trace kind.give reference + ∑ index, heldBy kind (state.slots index).entries reference +
        heldBy kind ((retiredBatches history).flatMap BatchSlot.entries) reference) ∧
    (∀ index, ((state.slots index).state = .prepared ∨ (state.slots index).state = .committed) ∧
        Inherited state.world.trace (state.slots index) ∨
      ((state.slots index).state = .free ∨ (state.slots index).state = .aborted) ∧ Clear (state.slots index).entries ∨
      (state.slots index).state = .poisoned) ∧ (∀ slot ∈ retiredBatches history, Retired state.world.trace slot) ∧
    (∀ ops context parentJft error, outcome (prepare ops context parentJft) state = .error error →
      (∀ handle, error ≠ .poisoned handle) →
      Balanced [] state.world.trace [] (final (prepare ops context parentJft) state).world.trace) ∧
    (∀ ops context handle index, outcome (abort ops context handle) state = .ok () →
      resolveHandle state.slots handle = some index →
      Clear ((final (abort ops context handle) state).slots index).entries ∧
        Balanced (state.slots index).entries state.world.trace [] (final (abort ops context handle) state).world.trace) ∧
    CloseOrder state.world.trace := by
  have sound := sound_of_run run
  refine ⟨sound.granted, ?_, sound.retired, ?_, ?_, sound.order⟩
  · intro index
    cases current : (state.slots index).state with
    | free =>
      have empty : (state.slots index).entries = [] := sound.of_state current
      rw [empty]
      exact .inr (.inl ⟨.inl rfl, by simp [Clear]⟩)
    | preparing => exact (sound.of_state current).elim
    | prepared => exact .inl ⟨.inl rfl, sound.of_state current⟩
    | committed => exact .inl ⟨.inr rfl, sound.of_state current⟩
    | aborted => exact .inr (.inl ⟨.inr rfl, sound.of_state current⟩)
    | poisoned => exact .inr (.inr rfl)
  · intro ops context parentJft error failed other
    exact (wp_outcome_error (prepare_spec sound parentJft) failed).2 other
  · intro ops context handle index returned found
    exact (wp_outcome_ok (abort_spec sound handle) returned).2 index found

end Run

section Sample

/-- An adapter that finds every file, opens every device, and refuses the reference with number three. -/
def sampleOps : SftBatchOps Unit where
  identity := 5
  lookup := fun _ sfn _ => ((.ok, ⟨sfn.toNat, 0, 0⟩), ())
  act := fun action _ reference _ => (if action = .referenceAcquire ∧ reference = 3 then .fault else .ok, ())

/-- A table that names one file twice. -/
def sampleJft : Fin jftEntries → UInt8 := fun index => if index.val < 2 then 1 else jftEntryUnused

def sampleCalls : List (BatchCall Unit) := [.prepare sampleOps 7 sampleJft]

theorem sft_batch_balance_sample :
    taken (replay perform (constructed ()) sampleCalls).world.trace .referenceAcquire 1 = 2 ∧
      taken (replay perform (constructed ()) sampleCalls).world.trace .referenceAcquire 1 =
        taken (replay perform (constructed ()) sampleCalls).world.trace .referenceRelease 1 +
          ∑ index, heldBy .reference ((replay perform (constructed ()) sampleCalls).slots index).entries 1 +
          heldBy .reference
            ((retiredBatches (transcript perform (constructed ()) sampleCalls ++ [])).flatMap BatchSlot.entries) 1 := by
  have run : Runs perform (fun _ _ => True) (constructed ()) [] (constructed ()) := .start
  have balance := (sft_batch_balance (run.replay sampleCalls)).1 .reference 1
  refine ⟨by decide +kernel, ?_⟩
  -- The sums are closed terms, which unification would otherwise evaluate.
  dsimp only [Resource.take, Resource.give] at balance
  with_reducible exact balance

/-- The reference could not be acquired: the device is closed although no reference was released. -/
theorem device_closed_without_release :
    (replay perform (constructed ())
      [.prepare sampleOps 7 fun index => if index.val = 0 then 3 else jftEntryUnused]).world.trace =
      [(.act .deviceClose 3, .ok), (.act .referenceAcquire 3, .fault), (.act .deviceOpen 3, .ok),
        (.lookup 3 ⟨3, 0, 0⟩, .ok)] := by
  decide +kernel

end Sample

end DosC32.SftBatch
