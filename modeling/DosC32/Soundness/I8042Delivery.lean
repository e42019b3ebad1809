import DosC32.Proofs.I8042

/-! # Delivery through the keyboard controller

A run starts with an empty controller and makes any calls in any order: the life cycle, the input
source, the injections, the ports and the events. Two books are kept beside it, of the sequences
that were queued and of the bytes that were read. The sequences that were queued are at all times
the bytes that were read followed by the bytes in the output, and the byte at the head has raised
its line since it came there with its interrupt enabled.
-/

namespace DosC32.I8042

open Effect List SameButOverflow

/-- The calls of the controller. -/
inductive I8042Call where
  | prepare (contextIdentity ownerIdentity : ℕ) (config : I8042Config) (descriptorCapacity : ℕ)
  | publish (contextIdentity : ℕ)
  | abort (contextIdentity : ℕ)
  | poison (contextIdentity : ℕ)
  | inputBind (contextIdentity ownerIdentity sourceIdentity : ℕ) (config : I8042InputConfig)
  | inputQuiesce (contextIdentity ownerIdentity : ℕ) (binding : I8042InputBinding)
  | inputResume (contextIdentity ownerIdentity : ℕ) (binding : I8042InputBinding)
  | inputUnbind (contextIdentity ownerIdentity : ℕ) (binding : I8042InputBinding)
  | inputKeyboardMode (binding : I8042InputBinding)
  | injectKeyboardSequence (binding : I8042InputBinding) (mode : I8042KeyboardMode) (values : List (BitVec 8))
      (valuesCapacity : ℕ)
  | injectKeyboard (binding : I8042InputBinding) (mode : I8042KeyboardMode) (value : BitVec 8)
  | injectSequence (binding : I8042InputBinding) (kind : I8042InputKind) (values : List (BitVec 8)) (valuesCapacity : ℕ)
  | inject (binding : I8042InputBinding) (kind : I8042InputKind) (value : BitVec 8)
  | eventPeek (contextIdentity ownerIdentity : ℕ)
  | eventConsume (contextIdentity ownerIdentity sequence : ℕ)
  | read (context : ℕ) (port : UInt16) (width : ℕ)
  | write (context : ℕ) (port : UInt16) (width value : ℕ)

/-- How a call fails: an error status, or a refused port access. -/
inductive Failure where
  | status (error : I8042Error)
  | port (failure : PortFailure)

/-- What a completed call returns. -/
inductive Reply where
  | done
  | binding (binding : I8042InputBinding)
  | mode (mode : I8042KeyboardMode)
  | event (event : I8042Event)
  | byte (value : BitVec 8)

/-- A call with its failure and its result in the common types. -/
def replying {ε α : Type} (failure : ε → Failure) (reply : α → Reply) (action : EStateM ε I8042Owner α) :
    EStateM Failure I8042Owner Reply := do
  let value ← mapError failure action
  pure (reply value)

def perform : I8042Call → EStateM Failure I8042Owner Reply
  | .prepare context owner config capacity => replying .status (fun _ => .done) (prepare context owner config capacity)
  | .publish context => replying .status (fun _ => .done) (publish context)
  | .abort context => replying .status (fun _ => .done) (abort context)
  | .poison context => replying .status (fun _ => .done) (poison context)
  | .inputBind context owner source config => replying .status .binding (inputBind context owner source config)
  | .inputQuiesce context owner binding => replying .status (fun _ => .done) (inputQuiesce context owner binding)
  | .inputResume context owner binding => replying .status (fun _ => .done) (inputResume context owner binding)
  | .inputUnbind context owner binding => replying .status (fun _ => .done) (inputUnbind context owner binding)
  | .inputKeyboardMode binding => replying .status .mode (inputKeyboardMode binding)
  | .injectKeyboardSequence binding mode values capacity =>
    replying .status (fun _ => .done) (inputInjectKeyboardSequence binding mode values capacity)
  | .injectKeyboard binding mode value => replying .status (fun _ => .done) (inputInjectKeyboard binding mode value)
  | .injectSequence binding kind values capacity =>
    replying .status (fun _ => .done) (inputInjectSequence binding kind values capacity)
  | .inject binding kind value => replying .status (fun _ => .done) (inputInject binding kind value)
  | .eventPeek context owner => replying .status .event (eventPeek context owner)
  | .eventConsume context owner sequence => replying .status (fun _ => .done) (eventConsume context owner sequence)
  | .read context port width => replying .port .byte (read context port width)
  | .write context port width value => replying .port (fun _ => .done) (write context port width value)

variable (owner : I8042Owner)

/-- The sequence that a completed call queued. -/
def queuedBy : I8042Call → List I8042OutputEntry
  | .injectKeyboardSequence _ _ values _ => keyboardEntries values
  | .injectKeyboard _ _ value => keyboardEntries [value]
  | .injectSequence _ _ values _ => auxiliaryEntries values
  | .inject _ _ value => auxiliaryEntries [value]
  | .write _ port _ value =>
    if port = commandPort then replyToCommand owner (BitVec.ofNat 8 value) else replyToData owner (BitVec.ofNat 8 value)
  | _ => []

/-- The data port was read while the output held a byte. -/
def takesByte : I8042Call → Bool
  | .read _ port _ => port = dataPort ∧ owner.outputFifo.count ≠ 0
  | _ => false

/-- The bytes that a completed call delivered. -/
def deliveredBy (call : I8042Call) : Reply → List (BitVec 8)
  | .byte value => if takesByte owner call then [value] else []
  | _ => []

/-- The values of a sequence. -/
def valuesOf (entries : List I8042OutputEntry) : List (BitVec 8) := entries.map I8042OutputEntry.value

variable {owner : I8042Owner}

/-- A call completed: nothing is lost, and a new byte at the head has raised its line. -/
structure Advanced (owner next : I8042Owner) (queued : List I8042OutputEntry) (delivered : List (BitVec 8)) : Prop where
  wired : Wired next
  contents : valuesOf owner.outputFifo.contents ++ valuesOf queued = delivered ++ valuesOf next.outputFifo.contents
  raised : ∀ source, HeadFrom next source → sourceIrqEnabled next source →
    Pending next source ∨ (delivered = [] ∧ HeadFrom owner source ∧ sourceIrqEnabled owner source)

variable {next : I8042Owner}

theorem Moved.advanced {queued : List I8042OutputEntry} (moved : Moved owner next queued) :
    Advanced owner next queued [] where
  wired := moved.wired
  contents := by rw [moved.contents, valuesOf, valuesOf, valuesOf, map_append, nil_append]
  raised := fun source head enabled => (moved.raised source head enabled).imp_right fun before => ⟨rfl, before⟩

theorem Taken.advanced {entry : I8042OutputEntry} (taken : Taken owner next entry) :
    Advanced owner next [] [entry.value] where
  wired := taken.wired
  contents := by
    rw [taken.contents]
    simp [valuesOf]
  raised := fun source head enabled => .inl (taken.raised source head enabled)

/-- A call that leaves the queues alone. -/
theorem Keeps.advanced (keeps : Keeps owner next) (wired : Wired owner) : Advanced owner next [] [] :=
  (keeps.moved wired).advanced

/-- A controller without output. -/
theorem Advanced.silent (wired : Wired next) (before : owner.outputFifo.contents = [])
    (after : next.outputFifo.contents = []) : Advanced owner next [] [] where
  wired := wired
  contents := by rw [before, after]; rfl
  raised := by
    intro source head
    rw [HeadFrom, after] at head
    cases head

theorem wired_empty (generation : ℕ) : Wired (emptyOwner generation) where
  lines := fun _ marked => absurd (BitVec.zero_and ..) marked
  quiet := fun _ => rfl

/-- What a call may do. -/
def Steps {ε α : Type} (action : EStateM ε I8042Owner α) (owner : I8042Owner) (queued : List I8042OutputEntry)
    (delivered : α → List (BitVec 8)) : Prop :=
  wp action owner (fun value next => Advanced owner next queued (delivered value)) (fun _ => SameButOverflow owner)

theorem inputBindingStatus_same (context identity : ℕ) (binding : I8042InputBinding) :
    wp (inputBindingStatus context identity binding) owner (fun _ next => next = owner ∧ owner.phase = .active)
      (fun _ => SameButOverflow owner) := by
  simp only [inputBindingStatus, wp_all, refl]
  intro _ _ _ active _ _ _
  rwa [not_not] at active

variable (wired : Wired owner)
include wired

theorem steps_prepare (context identity : ℕ) (config : I8042Config) (capacity : ℕ) :
    Steps (prepare context identity config capacity) owner [] (fun _ => []) := by
  simp only [Steps, prepare, wp_all, refl]
  intro _ _ _ empty _
  rw [not_not] at empty
  exact .silent ⟨fun _ marked => absurd (BitVec.zero_and ..) marked, fun _ => rfl⟩ (wired.quiet (.inl empty)) rfl

theorem steps_changeInputPhase (context identity : ℕ) (binding : I8042InputBinding)
    (required : I8042InputPhase) {change : I8042Owner → I8042Owner} (kept : Keeps owner (change owner)) :
    Steps (changeInputPhase context identity binding required change) owner [] (fun _ => []) := by
  simp only [Steps, changeInputPhase, wp_rules]
  apply wp_mono_done (inputBindingStatus_same context identity binding)
  rintro _ next ⟨rfl, _⟩
  exact ⟨fun _ => .refl next, fun _ => kept.advanced wired⟩

variable (context : ℕ)

theorem steps_publish : Steps (publish context) owner [] (fun _ => []) := by
  simp only [Steps, publish, requirePrepared, wp_all, refl]
  intro _ _ _ prepared
  rw [not_not] at prepared
  have quiet := wired.quiet (.inr prepared)
  exact .silent ⟨wired.lines, fun _ => quiet⟩ quiet quiet

theorem steps_abort : Steps (abort context) owner [] (fun _ => []) := by
  simp only [Steps, abort, requirePrepared, wp_all, refl]
  intro _ _ _ prepared
  rw [not_not] at prepared
  exact .silent (wired_empty _) (wired.quiet (.inr prepared)) rfl

theorem steps_poison : Steps (poison context) owner [] (fun _ => []) := by
  simp only [Steps, poison, wp_all, refl]
  intro _ _ _
  exact
    { wired := ⟨wired.lines, fun inactive => by rcases inactive with impossible | impossible <;> cases impossible⟩
      contents := append_nil _
      raised := fun _ head enabled => .inr ⟨rfl, head, enabled⟩ }

/-- An injected sequence joins the output whole or is refused. -/
theorem steps_enqueue (active : owner.phase = .active) (source : I8042OutputSource)
    (values : List (BitVec 8)) (error : I8042Error) :
    wp (mapError (fun _ => error) (enqueueOutput source values)) owner
      (fun _ next => Advanced owner next (values.map (⟨·, source⟩)) [])
      (fun _ => SameButOverflow owner) := by
  rw [wp_mapError]
  exact wp_mono_done (Queues.enqueue wired active source values) (fun _ _ moved => moved.advanced)

theorem steps_eventConsume (context identity sequence : ℕ) :
    Steps (eventConsume context identity sequence) owner [] (fun _ => []) := by
  simp only [Steps, eventConsume, activeOwner, wp_all, refl]
  intro _ _ _ _ present _
  exact
    { wired := wired.withoutEvent present
      contents := append_nil _
      raised := fun _ head enabled => .inr ⟨rfl, head, enabled⟩ }

theorem steps_write (port : UInt16) (width value : ℕ) : Steps (write context port width value) owner
      (if port = commandPort then replyToCommand owner (BitVec.ofNat 8 value) else replyToData owner (BitVec.ofNat 8 value))
      (fun _ => []) := by
  simp only [Steps, write, faults, wp_all, wp_ite, refl]
  intro _ opened
  push Not at opened
  constructor
  · intro isCommand
    rw [if_pos isCommand]
    exact wp_mono_done (Queues.writeCommand wired opened.1 _) (fun _ _ moved => moved.advanced)
  · intro isData
    rw [if_neg isData]
    exact wp_mono_done (Queues.writeData wired opened.1 _) (fun _ _ moved => moved.advanced)

theorem steps_read (port : UInt16) (width : ℕ) : Steps (read context port width) owner []
      (fun value => if takesByte owner (.read context port width) then [value] else []) := by
  simp only [Steps, read, takesByte, wp_all, wp_ite, refl, decide_eq_true_eq]
  intro known active
  push Not at known active
  refine ⟨fun isStatus => ?_, fun isData => ⟨fun none => ?_, fun present => ?_⟩⟩
  · rw [if_neg fun taken => absurd (isStatus.symm.trans taken.1) (by decide)]
    exact Keeps.advanced (.refl owner) wired
  · rw [if_neg fun taken => taken.2 none]
    exact Keeps.advanced (.refl owner) wired
  · have takes : port = dataPort ∧ owner.outputFifo.count ≠ 0 := by
      refine ⟨?_, present⟩
      by_contra other
      exact isData (known.2 other)
    simp only [if_pos takes]
    apply wp_mono_done (readOutput_spec wired active.1 present)
    rintro value next ⟨entry, rfl, taken⟩
    exact taken.advanced

omit wired

theorem steps_perform (wired : Wired owner) (call : I8042Call) :
    Steps (perform call) owner (queuedBy owner call) (deliveredBy owner call) := by
  -- Every call but a read returns nothing that counts as delivered.
  have lift : ∀ {ε α : Type} {failure : ε → Failure} {reply : α → Reply} {action : EStateM ε I8042Owner α}
      {queued : List I8042OutputEntry}, (∀ value, deliveredBy owner call (reply value) = []) →
      Steps action owner queued (fun _ => []) →
      Steps (replying failure reply action) owner queued (deliveredBy owner call) := by
    intro ε α failure reply action queued nothing steps
    simp only [Steps, replying, wp_rules, nothing]
    exact steps
  cases call with
  | prepare context identity config capacity => exact lift (fun _ => rfl) (steps_prepare wired ..)
  | publish context => exact lift (fun _ => rfl) (steps_publish wired _)
  | abort context => exact lift (fun _ => rfl) (steps_abort wired _)
  | poison context => exact lift (fun _ => rfl) (steps_poison wired _)
  | inputBind | inputKeyboardMode | eventPeek =>
    refine lift (fun _ => rfl) ?_
    simp only [Steps, inputBind, inputKeyboardMode, activeInputBinding, inputBindingStatus, eventPeek, activeOwner, wp_all,
      refl]
    intros
    exact Keeps.advanced ⟨rfl, rfl, rfl, rfl, rfl⟩ wired
  | inputQuiesce | inputResume | inputUnbind =>
    exact lift (fun _ => rfl) (steps_changeInputPhase wired _ _ _ _ ⟨rfl, rfl, rfl, rfl, rfl⟩)
  | injectKeyboardSequence | injectKeyboard | injectSequence | inject =>
    refine lift (fun _ => rfl) ?_
    simp only [Steps, inputInjectKeyboard, inputInjectKeyboardSequence, inputInject, inputInjectSequence,
      activeInputBinding, inputBindingStatus, wp_bind, wp_get, wp_failWhen, refl, implies_true, true_and]
    intro _ _ _ _ active
    intros
    exact steps_enqueue wired (not_not.mp active) _ _ _
  | eventConsume context identity sequence => exact lift (fun _ => rfl) (steps_eventConsume wired ..)
  | write context port width value => exact lift (fun _ => rfl) (steps_write wired ..)
  | read context port width =>
    simp only [Steps, perform, replying, wp_rules]
    exact steps_read wired context port width

/-- The controller with the sequences that were queued and the bytes that were delivered. -/
structure Books where
  state : I8042Owner
  queued : List (List (BitVec 8))
  delivered : List (BitVec 8)

/-- The books after one more call. -/
def Books.after (books : Books) (call : I8042Call) : Books :=
  match perform call books.state with
  | .ok reply next =>
    ⟨next, books.queued ++ [valuesOf (queuedBy books.state call)],
      books.delivered ++ deliveredBy books.state call reply⟩
  | .error _ next => ⟨next, books.queued, books.delivered⟩

/-- The books of a run that starts with an empty controller. -/
def booksOf (calls : List I8042Call) : Books := calls.foldl Books.after ⟨emptyOwner 0, [], []⟩

variable (calls : List I8042Call)

theorem booksOf_snoc (call : I8042Call) : booksOf (calls ++ [call]) = (booksOf calls).after call := foldl_concat ..

theorem wired_booksOf : Wired (booksOf calls).state := by
  induction calls using reverseRecOn with
  | nil => exact wired_empty 0
  | append_singleton calls call ih =>
    rw [booksOf_snoc, Books.after]
    have steps := steps_perform ih call
    cases ran : perform call (booksOf calls).state with
    | ok reply next => exact (wp_of_ok steps ran).wired
    | error failure next => exact (wp_of_error steps ran).wired ih

theorem SameButOverflow.output (same : SameButOverflow owner next) :
    next.outputFifo = owner.outputFifo := by rw [same]

/-- What was queued has been delivered or is in the output. -/
theorem queued_booksOf : (booksOf calls).queued.flatten =
      (booksOf calls).delivered ++ valuesOf (booksOf calls).state.outputFifo.contents := by
  induction calls using reverseRecOn with
  | nil => rfl
  | append_singleton calls call ih =>
    rw [booksOf_snoc, Books.after]
    have steps := steps_perform (wired_booksOf calls) call
    cases ran : perform call (booksOf calls).state with
    | ok reply next =>
      have advanced := wp_of_ok steps ran
      simp only [flatten_append, flatten_singleton]
      rw [ih, append_assoc, advanced.contents, append_assoc]
    | error failure next =>
      rw [← (wp_of_error steps ran).output] at ih
      exact ih

/-- Since the split, the byte that is now at the head has been there with its interrupt enabled. -/
def HeldSince (before during : List I8042Call) (source : I8042OutputSource) : Prop :=
  ∀ between, between <+: during →
    (booksOf (before ++ between)).delivered = (booksOf (before ++ during)).delivered ∧
      HeadFrom (booksOf (before ++ between)).state source ∧ sourceIrqEnabled (booksOf (before ++ between)).state source

theorem HeldSince.now {calls : List I8042Call} {source : I8042OutputSource} (head : HeadFrom (booksOf calls).state source)
    (enabled : sourceIrqEnabled (booksOf calls).state source) : HeldSince calls [] source := by
  intro between started
  obtain rfl := prefix_nil.mp started
  rw [append_nil]
  exact ⟨rfl, head, enabled⟩

/-- The line of the byte at the head was pending at some moment since the byte came there enabled. -/
theorem raised_booksOf (source : I8042OutputSource)
    (head : HeadFrom (booksOf calls).state source) (enabled : sourceIrqEnabled (booksOf calls).state source) :
    ∃ before during, calls = before ++ during ∧ Pending (booksOf before).state source ∧ HeldSince before during source := by
  induction calls using reverseRecOn with
  | nil => cases head
  | append_singleton calls call ih =>
    have unchanged : (booksOf (calls ++ [call])).delivered = (booksOf calls).delivered →
        HeadFrom (booksOf calls).state source ∧ sourceIrqEnabled (booksOf calls).state source →
        ∃ before during, calls ++ [call] = before ++ during ∧ Pending (booksOf before).state source ∧
          HeldSince before during source := by
      rintro kept ⟨head', enabled'⟩
      obtain ⟨before, during, rfl, pending, held⟩ := ih head' enabled'
      refine ⟨before, during ++ [call], by rw [append_assoc], pending, fun between started => ?_⟩
      rw [append_assoc] at kept head enabled
      rw [kept]
      rcases prefix_concat_iff.mp started with rfl | earlier
      · exact ⟨kept, head, enabled⟩
      · exact held between earlier
    have steps := steps_perform (wired_booksOf calls) call
    have books := booksOf_snoc calls call
    rw [Books.after] at books
    cases ran : perform call (booksOf calls).state with
    | ok reply next =>
      rw [ran] at books
      have advanced := wp_of_ok steps ran
      have state : (booksOf (calls ++ [call])).state = next := by rw [books]
      rcases advanced.raised source (state ▸ head) (state ▸ enabled) with pending | ⟨nothing, before⟩
      · exact ⟨calls ++ [call], [], (append_nil _).symm, state ▸ pending, .now head enabled⟩
      · refine unchanged ?_ before
        rw [books]
        simp only [nothing, append_nil]
    | error failure next =>
      rw [ran] at books
      have state : (booksOf (calls ++ [call])).state = next := by rw [books]
      have same := wp_of_error steps ran
      refine unchanged (by rw [books]) ?_
      rw [state, same] at head enabled
      exact ⟨head, enabled⟩

/-- What one call did to the controller. -/
def Accounted (owner : I8042Owner) (call : I8042Call) : EStateM.Result Failure I8042Owner Reply → Prop
  | .ok reply next =>
    valuesOf owner.outputFifo.contents ++ valuesOf (queuedBy owner call) =
      deliveredBy owner call reply ++ valuesOf next.outputFifo.contents
  | .error _ next => SameButOverflow owner next

theorem accounted_perform (wired : Wired owner) (call : I8042Call) : Accounted owner call (perform call owner) := by
  have steps := steps_perform wired call
  cases ran : perform call owner with
  | ok reply next => exact (wp_of_ok steps ran).contents
  | error failure next =>
    have same := wp_of_error steps ran
    exact same

/-- The data port of an active controller without output reads as ones, and nothing changes. -/
theorem perform_read_empty (active : owner.phase = .active) (empty : owner.outputFifo.count = 0) :
    perform (.read owner.contextIdentity dataPort 1) owner = .ok (.byte 0xff) owner := by
  have spec : wp (perform (.read owner.contextIdentity dataPort 1)) owner
      (fun reply next => reply = .byte 0xff ∧ next = owner) (fun _ _ => False) := by
    simp only [perform, replying, read, wp_rules, active, empty]
    simp [dataPort, statusPort]
  obtain ⟨_, _, ran, rfl, rfl⟩ := ok_of_wp spec
  exact ran

/-- In every run from an empty controller, the bytes that reads took from the output are the sequences that were
queued, whole and in order; a call that fails changes an overflow counter at most; whenever the byte at the head has
its interrupt enabled, its event was in the queue at some moment since the byte came there with the interrupt enabled;
and a read without output returns FFh and changes nothing. -/
theorem i8042_delivery (calls : List I8042Call) :
    ((booksOf calls).queued.flatten =
      (booksOf calls).delivered ++ valuesOf (booksOf calls).state.outputFifo.contents) ∧
    (∀ call, Accounted (booksOf calls).state call (perform call (booksOf calls).state)) ∧
    (∀ source, HeadFrom (booksOf calls).state source → sourceIrqEnabled (booksOf calls).state source →
      ∃ before during, calls = before ++ during ∧ Pending (booksOf before).state source ∧
        HeldSince before during source) ∧
    ((booksOf calls).state.phase = .active → (booksOf calls).state.outputFifo.count = 0 →
      perform (.read (booksOf calls).state.contextIdentity dataPort 1) (booksOf calls).state =
        .ok (.byte 0xff) (booksOf calls).state) := by
  refine ⟨queued_booksOf calls, fun call => ?_, ?_, fun active empty => ?_⟩
  · exact accounted_perform (wired_booksOf calls) call
  · exact fun source head enabled => raised_booksOf calls source head enabled
  · exact perform_read_empty active empty

/-- A controller with a keyboard whose interrupt is enabled. -/
def sampleConfig : I8042Config where
  commandByte := commandByteIrq1 ||| commandByteAuxiliaryDisabled
  inputPort := 0
  outputPort := outputPortResetHigh
  keyboardPresent := 1
  auxiliaryPresent := 0
  keyboardScanningEnabled := 1
  keyboardScanSet := 2
  keyboardUnlocked := 1
  keyboardLeds := 0
  keyboardTypematic := 0
  keyboardIdLength := 2
  keyboardIdFirst := 0xab
  keyboardIdSecond := 0x83
  auxiliaryId := 0
  reserved := [0]

def sampleBinding : I8042InputBinding := ⟨1, 2, 1, 3, 1, inputKeyboard, [0, 0, 0, 0]⟩

def sampleMode : I8042KeyboardMode := ⟨3, 1, 1, 1, 2, 0, 1, 1, [0, 0, 0, 0]⟩

/-- The controller is published, its keyboard is asked for its identity, and a key is pressed. -/
def sampleCalls : List I8042Call :=
  [.prepare 1 2 sampleConfig 16, .publish 1, .inputBind 1 2 3 ⟨inputKeyboard, [0]⟩, .write 1 dataPort 1 0xf2,
    .injectKeyboardSequence sampleBinding sampleMode [0xe0, 0x48] 2, .read 1 dataPort 1]

theorem i8042_delivery_sample :
    (booksOf sampleCalls).queued = [[], [], [], [0xfa, 0xab, 0x83], [0xe0, 0x48], []] ∧
      (booksOf sampleCalls).delivered = [0xfa] ∧
      valuesOf (booksOf sampleCalls).state.outputFifo.contents = [0xab, 0x83, 0xe0, 0x48] ∧
      ∃ before during, sampleCalls = before ++ during ∧ Pending (booksOf before).state .keyboard ∧
        HeldSince before during .keyboard := by
  refine ⟨by decide +kernel, by decide +kernel, by decide +kernel, ?_⟩
  have head : HeadFrom (booksOf sampleCalls).state .keyboard := by
    unfold HeadFrom
    decide +kernel
  exact (i8042_delivery sampleCalls).2.2.1 .keyboard head (by decide +kernel)

/-- A read of the data port of an active controller without output returns a byte that was never queued. -/
theorem empty_output_reads_ones :
    (booksOf [.prepare 1 2 sampleConfig 16, .publish 1]).state.phase = .active ∧
      (booksOf [.prepare 1 2 sampleConfig 16, .publish 1]).queued.flatten = [] ∧
      outcome (read 1 dataPort 1) (booksOf [.prepare 1 2 sampleConfig 16, .publish 1]).state = .ok 0xff := by
  refine ⟨?_, ?_, ?_⟩ <;> decide +kernel

end DosC32.I8042
