import DosC32.Soundness.I8042Delivery

/-! # Injected scan codes fit the keyboard mode

The source of the input asks for the keyboard mode and injects scan codes for it later. Every call that changes the mode
or the source moves a generation forward, so a mode that still matches has not changed in between.
-/

namespace DosC32.I8042

open Effect List

/-- The bits of the command byte that belong to the mode. -/
def modeBits (commandByte : BitVec 8) : BitVec 8 := commandByte &&& (commandByteKeyboardDisabled ||| commandByteTranslate)

/-- The part of the controller that a keyboard mode describes. -/
structure ModeState where
  phase : I8042Phase
  (generation source sourceGeneration modeGeneration : ℕ)
  scanSet : BitVec 8
  scanning : ℕ
  bits : BitVec 8

def modeState (owner : I8042Owner) : ModeState :=
  ⟨owner.phase, owner.generation, owner.inputSourceIdentity, owner.inputSourceGeneration, owner.keyboardModeGeneration,
    owner.keyboardScanSet, owner.keyboardScanningEnabled, modeBits owner.commandByte⟩

/-- Since `base` the source and the mode have changed only with their generations. -/
structure Kept (base now : ModeState) : Prop where
  published : now.phase = .active ∨ now.phase = .poisoned
  flag : now.scanning ≤ 1
  generation : now.generation = base.generation
  source : base.sourceGeneration < now.sourceGeneration ∨ now.sourceGeneration = base.sourceGeneration ∧
    (now.source = base.source ∨ now.source = kernelObjectHandleInvalid)
  mode : base.modeGeneration < now.modeGeneration ∨ now.modeGeneration = base.modeGeneration ∧
    now.scanSet = base.scanSet ∧ now.scanning = base.scanning ∧ now.bits = base.bits

variable {base : ModeState} {owner : I8042Owner}

/-- What was kept before a procedure is kept after it. -/
def Steady {ε α : Type} (action : EStateM ε I8042Owner α) (base : ModeState) (owner : I8042Owner) : Prop :=
  Leaves action owner fun next => Kept base (modeState next)

/-- A step of the keyboard moves the generation when it changes the mode. -/
theorem Kept.step {next : I8042Owner} {step : KeyboardStep} {value : BitVec 8} (kept : Kept base (modeState owner))
    (taken : step = keyboardCommandStep owner value ∨ some step = keyboardParameterStep owner value)
    (same : modeState next = modeState owner) :
    Kept base (modeState (keyboardModeEpochCommit (step.effect next) step.modeChanging)) := by
  obtain ⟨published, flag, generation, source, mode⟩ := kept
  simp only [modeState, ModeState.mk.injEq] at same published flag generation source mode
  unfold keyboardModeEpochCommit
  rcases taken with rfl | found
  · unfold keyboardCommandStep
    split <;> constructor <;> grind [modeState]
  · unfold keyboardParameterStep at found
    repeat' split at found
    all_goals cases found <;> constructor <;> grind [modeState]

/-- The rest of the command byte does not belong to the mode. -/
theorem modeBits_eq {left right : BitVec 8}
    (equal : (left ^^^ right) &&& (commandByteKeyboardDisabled ||| commandByteTranslate) = 0) :
    modeBits right = modeBits left := by
  ext index bound
  have bit := congrArg (·.getLsbD index) equal
  simp only [BitVec.getLsbD_and, BitVec.getLsbD_xor, modeBits] at bit ⊢
  grind

theorem enqueueOutput_frames (source : I8042OutputSource) (values : List (BitVec 8)) :
    Leaves (enqueueOutput source values) owner fun next => modeState next = modeState owner := by
  simp only [enqueueOutput, announceOutput, enqueueIrqForSource, enqueueEvent, refuseWhen, wp_all, wp_ite, modeState,
    countOutputOverflow, countEventOverflow, appendEvent]

theorem setOutputPort_frames (value : BitVec 8) :
    Leaves (setOutputPort value) owner fun next => modeState next = modeState owner := by
  have reset : modeState (suppressReset owner value) = modeState owner := by
    unfold suppressReset
    split <;> rfl
  unfold modeState at reset
  simp only [setOutputPort, announceA20, enqueueEvent, refuseWhen, wp_all, wp_ite, modeState, countEventOverflow,
    appendEvent, reset]

variable (kept : Kept base (modeState owner))
include kept

theorem steady_of_frame {ε α : Type} {action : EStateM ε I8042Owner α}
    (frame : Leaves action owner fun next => modeState next = modeState owner) : Steady action base owner :=
  frame.mono fun _ same => same ▸ kept

theorem step_steady {step : KeyboardStep} {value : BitVec 8}
    (taken : step = keyboardCommandStep owner value ∨ some step = keyboardParameterStep owner value) :
    Steady step.run base owner := by
  simp only [Steady, KeyboardStep.run, queueKeyboardReply, wp_all]
  refine ⟨fun _ => kept, fun _ => ?_⟩
  exact wp_mono (enqueueOutput_frames _ _) (fun _ next same => kept.step taken same) (fun _ _ same => same ▸ kept)

theorem writeCommandByte_steady (value : BitVec 8) : Steady (writeCommandByte value) base owner := by
  have committed : Kept base (modeState (keyboardModeEpochCommit { owner with commandByte := value }
      ((owner.commandByte ^^^ value) &&& (commandByteKeyboardDisabled ||| commandByteTranslate) != 0))) := by
    unfold keyboardModeEpochCommit
    split
    · exact { kept with mode := .inl (by grind [kept.mode, modeState]) }
    · next unchanged =>
      have same : modeState { owner with commandByte := value } = modeState owner := by
        rw [modeState, modeBits_eq (by simpa using unchanged)]
        rfl
      rwa [same]
  simp only [modeState] at kept committed
  simp only [Steady, writeCommandByte, announceHead, enqueueIrqForSource, enqueueEvent, refuseWhen, wp_all, wp_ite,
    countEventOverflow, appendEvent, modeState, kept, committed]

theorem writeData_steady (value : BitVec 8) : Steady (writeData value) base owner := by
  have parameter : Steady (keyboardParameter value) base owner := by
    simp only [Steady, keyboardParameter, wp_all]
    exact ⟨fun step found => step_steady kept (.inr found.symm), fun _ => kept⟩
  have auxiliary : Steady (auxiliaryCommand value) base owner := by
    simp only [Steady, auxiliaryCommand, wp_all, wp_ite]
    exact ⟨fun _ => kept, fun _ => steady_of_frame kept (enqueueOutput_frames _ _)⟩
  have routed : Steady (routeData owner.pendingCommand value) base owner := by
    unfold routeData
    split
    · exact writeCommandByte_steady kept value
    · exact steady_of_frame kept (setOutputPort_frames value)
    · exact steady_of_frame kept (enqueueOutput_frames _ _)
    · exact steady_of_frame kept (enqueueOutput_frames _ _)
    · exact auxiliary
    · exact auxiliary
    · exact parameter
    · exact parameter
    · exact parameter
    · simp only [Steady, keyboardCommand, wp_all, wp_ite]
      exact ⟨fun _ => kept, fun _ => step_steady kept (.inl rfl)⟩
  simp only [Steady, writeData, wp_all]
  exact wp_mono_done routed fun _ _ since => since

theorem writeCommand_steady (command : BitVec 8) : Steady (writeCommand command) base owner := by
  have auxiliary (byte : BitVec 8) : modeBits (byte ||| commandByteAuxiliaryDisabled) = modeBits byte := by
    revert byte
    decide
  have system (byte : BitVec 8) : modeBits (byte ||| commandByteSystem) = modeBits byte := by
    revert byte
    decide
  have queued (value : BitVec 8) : Steady (queueControllerByte value) base owner :=
    steady_of_frame kept (enqueueOutput_frames _ _)
  have routed : Steady (routeCommand owner command) base owner := by
    unfold routeCommand
    split
    all_goals with_reducible first
      | exact queued _
      | exact writeCommandByte_steady kept _
      | exact steady_of_frame kept (setOutputPort_frames _)
      | apply steady_of_frame kept
    all_goals simp only [queueControllerByte, wp_all, modeState, auxiliary, system]
    exact enqueueOutput_frames _ _
  simp only [Steady, writeCommand, wp_all]
  exact wp_mono_done routed fun _ _ since => since

theorem perform_steady (call : I8042Call) : Steady (perform call) base owner := by
  have published := kept.published
  have same := kept
  unfold modeState at same published
  unfold Steady
  cases call <;> simp only [perform, replying, prepare, publish, requirePrepared, abort, poison, inputBind, inputQuiesce,
    inputResume, inputUnbind, changeInputPhase, inputKeyboardMode, inputInjectKeyboard, inputInjectKeyboardSequence,
    inputInject, inputInjectSequence, activeInputBinding, inputBindingStatus, eventPeek, eventConsume, activeOwner, read,
    readOutput, announceHead, write, faults, enqueueOutput, announceOutput, enqueueIrqForSource, enqueueEvent, refuseWhen,
    wp_all, wp_ite, modeState, countOutputOverflow, countEventOverflow, appendEvent, same]
  -- The life cycle leaves a published controller alone.
  case prepare | publish | abort => grind
  case poison => exact fun _ _ _ => { kept with published := .inr rfl }
  case inputBind =>
    intros
    exact { kept with source := .inl (by grind [kept.source, modeState]) }
  case inputUnbind =>
    intros
    exact { kept with source := by grind [kept.source, modeState] }
  case write =>
    exact fun _ _ => ⟨fun _ => writeCommand_steady kept _, fun _ => writeData_steady kept _⟩

omit kept

theorem kept_booksOf (calls during : List I8042Call) (kept : Kept base (modeState (booksOf calls).state)) :
    Kept base (modeState (booksOf (calls ++ during)).state) := by
  induction during using reverseRecOn with
  | nil => rwa [append_nil]
  | append_singleton during call ih =>
    have steady : Leaves _ _ _ := perform_steady ih call
    rw [← append_assoc, booksOf_snoc, Books.after]
    cases ran : perform call (booksOf (calls ++ during)).state with
    | ok reply next => exact (wp_of_ok steady ran :)
    | error failure next => exact (wp_of_error steady ran :)

/-- A mode that matches at the end of a run has matched all along. -/
theorem currentMode_between {middle next : I8042Owner} (first : Kept (modeState owner) (modeState middle))
    (second : Kept (modeState middle) (modeState next)) (found : keyboardModeMatchesOwner next (currentMode owner))
    (valid : identityIsValid owner.inputSourceIdentity) : currentMode middle = currentMode owner := by
  obtain ⟨identity, -, sources, modes, -⟩ := found
  obtain ⟨-, -, generation, source, mode⟩ := first
  obtain ⟨-, -, -, source', mode'⟩ := second
  simp only [currentMode, modeState] at identity sources modes generation source source' mode mode'
  have translate : ∀ byte : BitVec 8, byte &&& commandByteTranslate = modeBits byte &&& commandByteTranslate := by decide
  have disabled : ∀ byte : BitVec 8,
      byte &&& commandByteKeyboardDisabled = modeBits byte &&& commandByteKeyboardDisabled := by decide
  have never := valid.2
  obtain ⟨-, scanSet, scanning, bits⟩ := mode.resolve_left (by omega)
  have source : middle.inputSourceIdentity = owner.inputSourceIdentity := by grind
  have epochs : middle.inputSourceGeneration = owner.inputSourceGeneration ∧
      middle.keyboardModeGeneration = owner.keyboardModeGeneration := by omega
  rw [currentMode, translate, disabled, bits, ← translate, ← disabled, source, generation, epochs.1, epochs.2, scanSet,
    scanning]
  rfl

/-- The mode was asked for after `before`, and scan codes are injected for it after `during`. An injection that succeeds
appends all of them, and the mode was the current one at every moment since it was asked for; a call that fails changes
an overflow counter at most. -/
theorem injection_fits_mode (before during : List I8042Call) (query : I8042InputBinding) (mode : I8042KeyboardMode)
    (obtained : outcome (perform (.inputKeyboardMode query)) (booksOf before).state = .ok (.mode mode)) :
    (∀ binding values capacity,
      wp (perform (.injectKeyboardSequence binding mode values capacity)) (booksOf (before ++ during)).state
        (fun _ next =>
          next.outputFifo.contents =
            (booksOf (before ++ during)).state.outputFifo.contents ++ keyboardEntries values ∧
          ∀ between, between <+: during → currentMode (booksOf (before ++ between)).state = mode)
        (fun _ => SameButOverflow (booksOf (before ++ during)).state)) ∧
    ∀ call, wp (perform call) (booksOf (before ++ during)).state (fun _ _ => True)
      (fun _ => SameButOverflow (booksOf (before ++ during)).state) := by
  have asked : wp (perform (.inputKeyboardMode query)) (booksOf before).state (fun reply _ =>
      reply = .mode (currentMode (booksOf before).state) ∧ (booksOf before).state.phase = .active) fun _ _ => True := by
    simp only [perform, replying, inputKeyboardMode, activeInputBinding, inputBindingStatus, wp_all]
    exact fun _ _ _ active _ _ _ _ _ => not_not.mp active
  obtain ⟨reply, active⟩ := wp_outcome_ok asked obtained
  cases reply
  have wired := wired_booksOf (before ++ during)
  refine ⟨fun binding values capacity => ?_, fun call => wp_mono_done (steps_perform wired call) fun _ _ _ => trivial⟩
  simp only [perform, replying, inputInjectKeyboardSequence, activeInputBinding, inputBindingStatus, wp_rules,
    SameButOverflow.refl, implies_true, true_and]
  intro valid _ _ _ running _ _ _ _ _ found _
  have moved := Queues.enqueue wired (not_not.mp running) .keyboard values
  refine wp_mono_done moved fun _ next moved => ⟨moved.contents, ?_⟩
  rintro between ⟨rest, rfl⟩
  obtain ⟨identity, -, -, -, -, -, -, flag, -⟩ := not_not.mp fun bad => valid (.inl bad)
  have first := kept_booksOf before between ⟨.inl active, flag, rfl, .inr ⟨rfl, .inl rfl⟩, .inr ⟨rfl, rfl, rfl, rfl⟩⟩
  have second := kept_booksOf (before ++ between) rest
    ⟨first.published, first.flag, rfl, .inr ⟨rfl, .inl rfl⟩, .inr ⟨rfl, rfl, rfl, rfl⟩⟩
  rw [append_assoc] at second
  exact currentMode_between first second (not_not.mp found) identity

/-- The mode is still the current one after the keyboard has been asked for its identity. -/
theorem injection_fits_mode_identified :
    outcome (perform (.injectKeyboardSequence sampleBinding sampleMode [0xe0, 0x48] 2))
        (booksOf (sampleCalls.take 4)).state = .ok .done ∧
      currentMode (booksOf (sampleCalls.take 3)).state = sampleMode ∧
      currentMode (booksOf (sampleCalls.take 4)).state = sampleMode := by
  have fits := injection_fits_mode (sampleCalls.take 3) [.write 1 dataPort 1 0xf2] sampleBinding sampleMode rfl
  have injected : outcome (perform (.injectKeyboardSequence sampleBinding sampleMode [0xe0, 0x48] 2))
      (booksOf (sampleCalls.take 4)).state = .ok .done := rfl
  have since := (wp_outcome_ok (fits.1 sampleBinding [0xe0, 0x48] 2) injected).2
  exact ⟨injected, since [] nil_prefix, since _ prefix_rfl⟩

end DosC32.I8042
