import DosC32.Core.Run
import DosC32.Model.I8042

/-! # The queues of the keyboard controller

A marked interrupt line always has its event in the queue. Every procedure either queues its whole
reply, raising the line of a byte that comes to the head with its interrupt enabled, or is refused
and counts an overflow at most.
-/

namespace DosC32.I8042

open Effect List

variable (owner next middle : I8042Owner) (source : I8042OutputSource) (queued : List I8042OutputEntry)

/-- An interrupt request of the source waits in the event queue. -/
def Pending : Prop :=
  ∃ event ∈ owner.eventFifo.contents, event.kind = .irqRequest ∧ event.irq = sourceIrq source

/-- A marked line has its event in the queue; before it is published the controller has no output. -/
structure Wired : Prop where
  lines : ∀ source, owner.pendingIrqMask &&& sourceIrqMask source ≠ 0 → Pending owner source
  quiet : owner.phase = .empty ∨ owner.phase = .prepared → owner.outputFifo.contents = []

/-- The byte at the head comes from the source. -/
def HeadFrom : Prop :=
  owner.outputFifo.contents.head?.map I8042OutputEntry.source = some source

/-- Only the overflow counters differ. -/
def SameButOverflow : Prop :=
  next = { owner with outputOverflowCount := next.outputOverflowCount, eventOverflowCount := next.eventOverflowCount }

/-- Everything that the queues and the interrupt lines depend on is kept. -/
structure Keeps : Prop where
  output : next.outputFifo = owner.outputFifo
  events : next.eventFifo = owner.eventFifo
  mask : next.pendingIrqMask = owner.pendingIrqMask
  command : next.commandByte = owner.commandByte
  phase : next.phase = owner.phase

/-- A procedure queued its reply; a byte that came to the head with its interrupt enabled has its event pending. -/
structure Moved : Prop where
  wired : Wired next
  contents : next.outputFifo.contents = owner.outputFifo.contents ++ queued
  phase : next.phase = owner.phase
  raised : ∀ source, HeadFrom next source → sourceIrqEnabled next source →
    Pending next source ∨ (HeadFrom owner source ∧ sourceIrqEnabled owner source)

/-- Only the events and their marks differ. -/
def EventsOnly : Prop :=
  next = { owner with
    eventFifo := next.eventFifo, nextEventSequence := next.nextEventSequence, pendingIrqMask := next.pendingIrqMask }

/-- The output with a sequence appended. -/
def withOutput (entries : List I8042OutputEntry) : I8042Owner :=
  { owner with outputFifo := owner.outputFifo.pushAll entries }

/-- A byte left the output; the next one raises its line. -/
structure Taken (entry : I8042OutputEntry) : Prop where
  wired : Wired next
  contents : owner.outputFifo.contents = entry :: next.outputFifo.contents
  raised : ∀ source, HeadFrom next source → sourceIrqEnabled next source → Pending next source

/-- The queue after its first event was taken; the mark of its line is cleared. -/
def withoutEvent : I8042Owner :=
  { owner with
    pendingIrqMask :=
      owner.pendingIrqMask &&& ~~~eventMask (owner.eventFifo.entry 0).kind (owner.eventFifo.entry 0).irq
    eventFifo := owner.eventFifo.pop }

variable {owner next middle source queued}

theorem SameButOverflow.refl (owner : I8042Owner) : SameButOverflow owner owner := rfl

theorem SameButOverflow.wired (same : SameButOverflow owner next) (wired : Wired owner) : Wired next := by
  rw [same]
  exact ⟨wired.lines, wired.quiet⟩

theorem Keeps.refl (owner : I8042Owner) : Keeps owner owner := ⟨rfl, rfl, rfl, rfl, rfl⟩

theorem Keeps.trans (first : Keeps owner middle) (second : Keeps middle next) : Keeps owner next :=
  ⟨second.output.trans first.output, second.events.trans first.events, second.mask.trans first.mask,
    second.command.trans first.command, second.phase.trans first.phase⟩

theorem Keeps.pending (keeps : Keeps owner next) (pending : Pending owner source) : Pending next source := by
  unfold Pending at pending ⊢
  rwa [keeps.events]

theorem Keeps.wired (keeps : Keeps owner next) (wired : Wired owner) : Wired next where
  lines := fun source marked => keeps.pending (wired.lines source (by rwa [keeps.mask] at marked))
  quiet := by
    rw [keeps.phase, keeps.output]
    exact wired.quiet

theorem Keeps.moved (keeps : Keeps owner next) (wired : Wired owner) : Moved owner next [] where
  wired := keeps.wired wired
  contents := by rw [keeps.output, append_nil]
  phase := keeps.phase
  raised := by
    intro source head enabled
    refine .inr ⟨?_, ?_⟩
    · rwa [HeadFrom, keeps.output] at head
    · rwa [sourceIrqEnabled, keeps.command] at enabled

theorem Moved.keeps (moved : Moved owner middle queued) (keeps : Keeps middle next := by constructor <;> rfl) :
    Moved owner next queued where
  wired := keeps.wired moved.wired
  contents := by rw [keeps.output, moved.contents]
  phase := keeps.phase.trans moved.phase
  raised := by
    intro source head enabled
    rw [HeadFrom, keeps.output] at head
    rw [sourceIrqEnabled, keeps.command] at enabled
    exact (moved.raised source head enabled).imp_left keeps.pending

theorem irqMask_sourceIrq (raises : source ≠ .controller) : irqMask (sourceIrq source) = sourceIrqMask source := by
  cases source with
  | controller => exact absurd rfl raises
  | keyboard => rfl
  | auxiliary => rfl

theorem sourceIrqEnabled_ne (enabled : sourceIrqEnabled owner source) : source ≠ .controller := by
  rintro rfl
  cases enabled

theorem count_lt_of_capacity (capacity : eventHasCapacity owner = true) : owner.eventFifo.count < 16 := by
  simp only [eventHasCapacity, Bool.and_eq_true, decide_eq_true_eq] at capacity
  exact capacity.1

theorem contents_appendEvent (kind : I8042EventKind) (irq : ℕ) (a20Enabled : Bool)
    (capacity : eventHasCapacity owner = true) :
    (appendEvent owner kind irq a20Enabled).eventFifo.contents =
      owner.eventFifo.contents ++ [⟨owner.generation, owner.nextEventSequence + 1, kind, irq, a20Enabled⟩] :=
  owner.eventFifo.contents_push _ (count_lt_of_capacity capacity)

theorem mask_cases (left right : BitVec 8) : ∀ source, (left ||| right) &&& sourceIrqMask source ≠ 0 →
    left &&& sourceIrqMask source ≠ 0 ∨ right &&& sourceIrqMask source ≠ 0 := by
  intro source marked
  by_contra neither
  push Not at neither
  apply marked
  rw [BitVec.and_comm, BitVec.and_or_distrib_left, BitVec.and_comm _ left, BitVec.and_comm _ right, neither.1, neither.2]
  rfl

/-- The mark of an event of a known line is the line's own. -/
theorem eventMask_meets {kind : I8042EventKind} {irq : ℕ} (known : kind = .irqRequest → irq = 1 ∨ irq = 12)
    (marked : eventMask kind irq &&& sourceIrqMask source ≠ 0) : kind = .irqRequest ∧ irq = sourceIrq source := by
  unfold eventMask at marked
  split at marked
  next request =>
    refine ⟨request, ?_⟩
    rcases known request with rfl | rfl
    · cases source with
      | controller => exact absurd rfl marked
      | keyboard => rfl
      | auxiliary => exact absurd rfl marked
    · cases source with
      | controller => exact absurd rfl marked
      | keyboard => exact absurd rfl marked
      | auxiliary => rfl
  · exact absurd (BitVec.zero_and ..) marked

theorem Wired.append (wired : Wired owner) {kind : I8042EventKind} {irq : ℕ} (a20Enabled : Bool)
    (known : kind = .irqRequest → irq = 1 ∨ irq = 12) (capacity : eventHasCapacity owner = true) :
    Wired (appendEvent owner kind irq a20Enabled) where
  lines := by
    intro source marked
    unfold Pending
    rw [contents_appendEvent kind irq a20Enabled capacity]
    rcases mask_cases _ _ source marked with before | here
    · obtain ⟨event, member, isRequest⟩ := wired.lines source before
      exact ⟨event, mem_append_left _ member, isRequest⟩
    · exact ⟨_, mem_append_right _ (mem_singleton_self _), eventMask_meets known here⟩
  quiet := wired.quiet

/-- What `enqueue_event` does. -/
theorem enqueueEvent_spec (kind : I8042EventKind) (irq : ℕ) (a20Enabled : Bool) :
    wp (enqueueEvent kind irq a20Enabled) owner
      (fun _ next => (next = owner ∧ kind = .irqRequest ∧ owner.pendingIrqMask &&& irqMask irq ≠ 0) ∨
        (next = appendEvent owner kind irq a20Enabled ∧ eventHasCapacity owner = true))
      (fun _ _ => eventHasCapacity owner = false ∧
        (kind = .irqRequest → owner.pendingIrqMask &&& irqMask irq = 0)) := by
  simp only [enqueueEvent, refuseWhen, wp_split]
  refine ⟨fun marked => .inl ⟨trivial, marked⟩, fun unmarked => ⟨fun full => ⟨full, fun request => ?_⟩, fun room => ?_⟩⟩
  · by_contra marked
    exact unmarked ⟨request, marked⟩
  · exact .inr ⟨trivial, by simpa using room⟩

theorem sourceIrq_known (source : I8042OutputSource) : sourceIrq source = 1 ∨ sourceIrq source = 12 := by
  cases source with
  | controller => exact .inr rfl
  | keyboard => exact .inl rfl
  | auxiliary => exact .inr rfl

theorem EventsOnly.output (only : EventsOnly owner next) : next.outputFifo = owner.outputFifo := by rw [only]

theorem EventsOnly.phase (only : EventsOnly owner next) : next.phase = owner.phase := by rw [only]

theorem EventsOnly.enabled (only : EventsOnly owner next) (source : I8042OutputSource) :
    sourceIrqEnabled next source = sourceIrqEnabled owner source := by
  unfold sourceIrqEnabled
  rw [only]

theorem headFrom_append {contents : List I8042OutputEntry} (before : contents ≠ []) :
    (contents ++ queued).head? = contents.head? := by
  cases contents with
  | nil => exact absurd rfl before
  | cons entry rest => rfl

/-- A procedure that queues a reply or is refused without effect. -/
def Queues (action : Attempt Unit) (owner : I8042Owner) (queued : List I8042OutputEntry) : Prop :=
  wp action owner (fun _ next => Moved owner next queued) (fun _ => SameButOverflow owner)

/-- What a procedure does after it has queued its reply must keep the queues. -/
theorem Queues.andThen {action : Attempt Unit} (queues : Queues action owner queued)
    {update : I8042Owner → I8042Owner} (kept : ∀ owner, Keeps owner (update owner)) :
    Queues (do action; modify update) owner queued := by
  unfold Queues at queues ⊢
  simp only [wp_rules]
  exact wp_mono_done queues (fun _ next moved => moved.keeps (kept next))

theorem keeps_epochCommit (owner : I8042Owner) (changing : Bool) : Keeps owner (keyboardModeEpochCommit owner changing) := by
  unfold keyboardModeEpochCommit
  split <;> exact ⟨rfl, rfl, rfl, rfl, rfl⟩

/-- The bytes of a keyboard reply. -/
def keyboardEntries (reply : List (BitVec 8)) : List I8042OutputEntry := reply.map (⟨·, .keyboard⟩)

theorem keeps_keyboardParameter {value : BitVec 8} {step : KeyboardStep}
    (found : keyboardParameterStep owner value = some step) (owner : I8042Owner) : Keeps owner (step.effect owner) := by
  unfold keyboardParameterStep at found
  split at found
  · cases found
    exact ⟨rfl, rfl, rfl, rfl, rfl⟩
  · cases found
    exact ⟨rfl, rfl, rfl, rfl, rfl⟩
  · split_ifs at found <;> obtain rfl := Option.some.inj found <;> exact ⟨rfl, rfl, rfl, rfl, rfl⟩
  · cases found

theorem keeps_keyboardCommand (owner : I8042Owner) (command : BitVec 8) (state : I8042Owner) :
    Keeps state ((keyboardCommandStep owner command).effect state) := by
  unfold keyboardCommandStep
  split <;> exact ⟨rfl, rfl, rfl, rfl, rfl⟩

/-- The bytes of a reply of the auxiliary device. -/
def auxiliaryEntries (reply : List (BitVec 8)) : List I8042OutputEntry := reply.map (⟨·, .auxiliary⟩)

theorem keeps_suppressReset (owner : I8042Owner) (value : BitVec 8) : Keeps owner (suppressReset owner value) := by
  unfold suppressReset
  split <;> exact ⟨rfl, rfl, rfl, rfl, rfl⟩

theorem Moved.after (keeps : Keeps owner middle) (moved : Moved middle next queued) : Moved owner next queued where
  wired := moved.wired
  contents := by rw [moved.contents, keeps.output]
  phase := moved.phase.trans keeps.phase
  raised := by
    intro source head enabled
    refine (moved.raised source head enabled).imp_right fun before => ?_
    rwa [HeadFrom, sourceIrqEnabled, keeps.output, keeps.command] at before

theorem headSource_of_head (head : HeadFrom owner source) :
    headSource owner = source ∧ owner.outputFifo.count ≠ 0 := by
  have present : owner.outputFifo.count ≠ 0 := by
    intro none
    rw [HeadFrom, owner.outputFifo.contents_eq_nil.mpr none] at head
    cases head
  rw [HeadFrom, owner.outputFifo.head?_contents present] at head
  exact ⟨by rw [headSource, if_pos present]; exact Option.some.inj head, present⟩

/-- The reply that a data byte asks for. -/
def replyToData (owner : I8042Owner) (value : BitVec 8) : List I8042OutputEntry :=
  match owner.pendingCommand with
  | .commandByte | .outputPort => []
  | .keyboardOutput => [⟨value, .keyboard⟩]
  | .auxiliaryOutput => [⟨value, .auxiliary⟩]
  | .auxiliaryCommand | .auxiliaryParameter =>
    if owner.auxiliaryPresent = 0 then [] else auxiliaryEntries (auxiliaryStep owner value).1
  | .keyboardLeds | .keyboardScanSet | .keyboardTypematic =>
    ((keyboardParameterStep owner value).map fun step => keyboardEntries step.reply).getD []
  | .none => if owner.keyboardPresent = 0 then [] else keyboardEntries (keyboardCommandStep owner value).reply

/-- The reply that a command asks for. -/
def replyToCommand (owner : I8042Owner) (command : BitVec 8) : List I8042OutputEntry :=
  match command.toNat with
  | 0x20 => [⟨owner.commandByte, .controller⟩]
  | 0xa9 => [⟨if owner.auxiliaryPresent ≠ 0 then responsePortOk else 0xff, .controller⟩]
  | 0xaa => [⟨responseControllerOk, .controller⟩]
  | 0xab => [⟨if owner.keyboardPresent ≠ 0 then responsePortOk else 0xff, .controller⟩]
  | 0xc0 => [⟨owner.inputPort, .controller⟩]
  | 0xd0 => [⟨owner.outputPort, .controller⟩]
  | _ => []

/-- A change of the command byte that enables no interrupt. -/
theorem Moved.disable (moved : Moved owner next queued) {commandByte : BitVec 8}
    (disables : ∀ source, commandByteSourceIrqEnabled commandByte source →
      commandByteSourceIrqEnabled next.commandByte source) : Moved owner { next with commandByte } queued where
  wired := ⟨moved.wired.lines, moved.wired.quiet⟩
  contents := moved.contents
  phase := moved.phase
  raised := fun source head enabled => moved.raised source head (disables source enabled)

theorem enabled_of_or {flag : BitVec 8} (masks : flag = commandByteAuxiliaryDisabled ∨ flag = commandByteSystem)
    (commandByte : BitVec 8) (source : I8042OutputSource) :
    commandByteSourceIrqEnabled (commandByte ||| flag) source → commandByteSourceIrqEnabled commandByte source := by
  revert commandByte
  rcases masks with rfl | rfl <;> cases source <;> decide

theorem marked_of_cleared {mask cleared line : BitVec 8} (marked : (mask &&& ~~~cleared) &&& line ≠ 0) :
    mask &&& line ≠ 0 ∧ cleared ≠ line := by
  refine ⟨fun unmarked => marked ?_, fun same => marked ?_⟩
  · rw [BitVec.and_assoc, BitVec.and_comm _ line, ← BitVec.and_assoc, unmarked]
    exact BitVec.zero_and
  · rw [same, BitVec.and_assoc, BitVec.and_comm _ line, BitVec.and_not_self]
    exact BitVec.and_zero

variable (wired : Wired owner)
include wired

/-- The line of a source is raised where its interrupt is enabled. It is refused only without room. -/
theorem enqueueIrqForSource_spec (source : I8042OutputSource) : wp (enqueueIrqForSource source) owner
      (fun _ next => EventsOnly owner next ∧ Wired next ∧ (sourceIrqEnabled owner source → Pending next source))
      (fun _ _ => irqEventNeedsSlot owner source = true ∧ eventHasCapacity owner = false) := by
  simp only [enqueueIrqForSource, wp_split]
  refine ⟨fun disabled => ⟨rfl, wired, fun enabled => by rw [disabled] at enabled; cases enabled⟩, fun enabled => ?_⟩
  rw [Bool.not_eq_false] at enabled
  have line := irqMask_sourceIrq (sourceIrqEnabled_ne enabled)
  apply wp_mono (enqueueEvent_spec _ _ _)
  · rintro _ next (⟨rfl, _, marked⟩ | ⟨rfl, capacity⟩)
    · rw [line] at marked
      exact ⟨rfl, wired, fun _ => wired.lines source marked⟩
    · refine ⟨rfl, wired.append false (fun _ => sourceIrq_known source) capacity, fun _ => ?_⟩
      unfold Pending
      rw [contents_appendEvent _ _ _ capacity]
      exact ⟨_, mem_append_right _ (mem_singleton_self _), rfl, rfl⟩
  · rintro _ _ ⟨full, unmarked⟩
    rw [line] at unmarked
    refine ⟨?_, full⟩
    simp [irqEventNeedsSlot, enabled, unmarked rfl]

/-- A byte that stays or comes to the head raises its line. -/
theorem announceHead_spec (isHead : ∀ other, HeadFrom owner other → other = source) : wp (announceHead source) owner
      (fun _ next => EventsOnly owner next ∧ Wired next ∧
        ∀ other, HeadFrom next other → sourceIrqEnabled next other → Pending next other)
      (fun _ _ => owner.outputFifo.count ≠ 0 ∧ irqEventNeedsSlot owner source = true ∧
        eventHasCapacity owner = false) := by
  simp only [announceHead, wp_split]
  refine ⟨fun none => ⟨rfl, wired, fun other head => absurd none (headSource_of_head head).2⟩, fun present => ?_⟩
  apply wp_mono (enqueueIrqForSource_spec wired source)
  · rintro _ next ⟨only, wired, pending⟩
    refine ⟨only, wired, fun other head enabled => ?_⟩
    rw [only.enabled] at enabled
    rw [HeadFrom, only.output] at head
    obtain rfl := isHead other head
    exact pending enabled
  · exact fun _ _ refused => ⟨present, refused⟩

theorem Queues.modify {update : I8042Owner → I8042Owner} (kept : Keeps owner (update owner) := by constructor <;> rfl) :
    Queues (modify update) owner [] := by
  unfold Queues
  simp only [wp_modify]
  exact kept.moved wired

theorem Queues.nothing : Queues (pure ()) owner [] := (Keeps.refl owner).moved wired

/-- An event that concerns no line. -/
theorem Wired.a20 (enabled : Bool) (capacity : eventHasCapacity owner = true) :
    Moved owner (appendEvent owner .a20Change 0 enabled) [] where
  wired := wired.append enabled (fun impossible => by cases impossible) capacity
  contents := by rw [append_nil]; rfl
  phase := rfl
  raised := fun _ head enabled => .inr ⟨head, enabled⟩

theorem Queues.setOutputPort (value : BitVec 8) : Queues (setOutputPort value) owner [] := by
  unfold Queues I8042.setOutputPort
  simp only [refuseWhen, wp_split]
  refine ⟨fun _ => rfl, fun room => ?_⟩
  have suppressed := keeps_suppressReset owner value
  have last : ∀ state, Moved owner state [] →
      Moved owner { state with outputPort := value ||| outputPortResetHigh } [] := fun state moved =>
    moved.keeps
  unfold announceA20
  split
  next changed =>
    have capacity : eventHasCapacity (suppressReset owner value) = true := by
      have before : eventHasCapacity owner = true := by
        by_contra full
        exact room ⟨changed, by simpa using full⟩
      unfold suppressReset
      split <;> exact before
    apply wp_mono (enqueueEvent_spec _ _ _)
    · rintro _ next (⟨_, impossible, _⟩ | ⟨rfl, _⟩)
      · cases impossible
      · exact last _ (Moved.after suppressed ((suppressed.wired wired).a20 _ capacity))
    · rintro _ _ ⟨full, _⟩
      rw [capacity] at full
      cases full
  · exact last _ (suppressed.moved wired)

theorem Queues.writeCommandByte (value : BitVec 8) : Queues (writeCommandByte value) owner [] := by
  unfold Queues I8042.writeCommandByte
  simp only [refuseWhen, wp_split]
  refine ⟨fun _ => rfl, fun _ => ⟨fun _ => rfl, fun room => ?_⟩⟩
  generalize changing : ((owner.commandByte ^^^ value) &&& _ != 0) = flag
  have kept := keeps_epochCommit { owner with commandByte := value } flag
  have wired' := kept.wired (⟨wired.lines, wired.quiet⟩ : Wired { owner with commandByte := value })
  apply wp_mono (announceHead_spec wired' fun other head => ?_)
  · rintro _ next ⟨only, wired, pending⟩
    refine ⟨wired, ?_, only.phase.trans kept.phase, fun source head enabled => .inl (pending source head enabled)⟩
    rw [only.output, kept.output, append_nil]
  · rintro _ _ ⟨present, needs, full⟩
    exfalso
    apply room
    have capacity : eventHasCapacity (keyboardModeEpochCommit { owner with commandByte := value } flag) =
        eventHasCapacity owner := by
      unfold keyboardModeEpochCommit
      split <;> rfl
    rw [kept.output] at present
    rw [irqEventNeedsSlot, sourceIrqEnabled, kept.command, kept.mask] at needs
    simp only [Bool.and_eq_true, beq_iff_eq] at needs
    exact ⟨present, needs.1, needs.2, capacity.symm.trans full⟩
  · rw [HeadFrom, kept.output] at head
    exact (@headSource_of_head owner _ head).1.symm

/-- A line that is still marked has an event behind the one that was taken. -/
theorem Wired.withoutEvent (present : owner.eventFifo.count ≠ 0) : Wired (withoutEvent owner) where
  lines := by
    intro source marked
    obtain ⟨before, differs⟩ := marked_of_cleared marked
    have raises : source ≠ .controller := by
      rintro rfl
      exact before (BitVec.and_zero ..)
    obtain ⟨event, member, request, line⟩ := wired.lines source before
    rw [owner.eventFifo.contents_eq_cons present, mem_cons] at member
    rcases member with rfl | later
    · refine absurd ?_ differs
      rw [eventMask, if_pos request, line]
      exact irqMask_sourceIrq raises
    · exact ⟨event, later, request, line⟩
  quiet := wired.quiet

variable (active : owner.phase = .active)
include active

/-- A sequence joins the output as a whole, or is refused and counted. -/
theorem enqueueOutput_spec (source : I8042OutputSource) (values : List (BitVec 8)) :
    wp (enqueueOutput source values) owner
      (fun _ next => Moved owner next (values.map (⟨·, source⟩)) ∧ next.commandByte = owner.commandByte)
      (fun _ => SameButOverflow owner) := by
  simp only [enqueueOutput, refuseWhen, wp_split]
  refine ⟨fun _ => rfl, fun room => ⟨fun _ => rfl, fun announced => ?_⟩⟩
  push Not at room announced
  obtain ⟨some, room⟩ := room
  have capacity : values.length ≤ 16 ∧ owner.outputFifo.count ≤ 16 - values.length := by
    unfold outputHasCapacity outputFifoCapacity at room
    simpa using room
  have fits : owner.outputFifo.count + (values.map fun value => (⟨value, source⟩ : I8042OutputEntry)).length ≤ 16 := by
    rw [length_map]
    omega
  have contents := owner.outputFifo.contents_pushAll _ fits
  have count := owner.outputFifo.count_pushAll _ fits
  rw [length_map] at count
  have wired' : Wired (withOutput owner (values.map (⟨·, source⟩))) :=
    ⟨wired.lines, fun inactive => by simp [withOutput, active] at inactive⟩
  simp only [announceOutput, wp_bind, wp_get, wp_ite, count]
  constructor
  · intro first
    have empty : owner.outputFifo.contents = [] := by
      rw [Fifo.contents_eq_nil]
      omega
    have none : owner.outputFifo.count = 0 := owner.outputFifo.contents_eq_nil.mp empty
    rw [wp_attempt]
    apply wp_mono (enqueueIrqForSource_spec wired' source)
    · rintro _ next ⟨only, wired, pending⟩
      refine ⟨⟨wired, by rw [only.output]; exact contents, only.phase, fun other head enabled => .inl ?_⟩, by rw [only]; rfl⟩
      rw [only.enabled] at enabled
      unfold HeadFrom at head
      rw [only.output, show (withOutput owner _).outputFifo.contents = _ from contents, empty, nil_append] at head
      cases values with
      | nil => exact absurd rfl some
      | cons value rest =>
        cases head
        exact pending enabled
    · rintro _ _ ⟨needs, full⟩
      exact absurd full (announced none needs)
  · intro later
    refine ⟨⟨wired', contents, rfl, fun other head enabled => .inr ⟨?_, enabled⟩⟩, rfl⟩
    have before : owner.outputFifo.contents ≠ [] := by
      rw [ne_eq, Fifo.contents_eq_nil]
      omega
    unfold HeadFrom at head ⊢
    rw [contents, headFrom_append before] at head
    exact head

theorem Queues.enqueue (source : I8042OutputSource)
    (values : List (BitVec 8)) : Queues (enqueueOutput source values) owner (values.map (⟨·, source⟩)) :=
  wp_mono_done (enqueueOutput_spec wired active source values) (fun _ _ moved => moved.1)

theorem Queues.keyboardStep {step : KeyboardStep}
    (kept : ∀ owner, Keeps owner (step.effect owner)) : Queues step.run owner (keyboardEntries step.reply) := by
  have reply : Queues (queueKeyboardReply step.reply) owner (keyboardEntries step.reply) :=
    (Queues.enqueue wired active .keyboard step.reply).andThen fun _ => ⟨rfl, rfl, rfl, rfl, rfl⟩
  have whole := reply.andThen fun owner => (kept owner).trans (keeps_epochCommit _ step.modeChanging)
  unfold Queues at whole ⊢
  simp only [KeyboardStep.run, wp_rules] at whole ⊢
  exact ⟨fun _ => .refl owner, fun _ => whole⟩

theorem Queues.keyboardParameter (value : BitVec 8) : Queues (keyboardParameter value) owner
      (((keyboardParameterStep owner value).map fun step => keyboardEntries step.reply).getD []) := by
  unfold Queues I8042.keyboardParameter
  simp only [wp_rules]
  refine ⟨fun step found => ?_, fun _ => .refl owner⟩
  rw [found]
  apply wp_mono_done (Queues.keyboardStep wired active (keeps_keyboardParameter found))
  exact fun _ next moved => moved.keeps

variable (command : BitVec 8)

theorem Queues.keyboardCommand : Queues (keyboardCommand command) owner
      (if owner.keyboardPresent = 0 then [] else keyboardEntries (keyboardCommandStep owner command).reply) := by
  unfold Queues I8042.keyboardCommand
  simp only [wp_split]
  refine ⟨fun absent => ?_, fun present => ?_⟩
  · rw [if_pos absent]
    exact Queues.nothing wired
  · rw [if_neg present]
    exact Queues.keyboardStep wired active (keeps_keyboardCommand owner command)

theorem Queues.auxiliaryCommand : Queues (auxiliaryCommand command) owner
      (if owner.auxiliaryPresent = 0 then [] else auxiliaryEntries (auxiliaryStep owner command).1) := by
  unfold Queues I8042.auxiliaryCommand
  simp only [wp_split]
  refine ⟨fun absent => ?_, fun present => ?_⟩
  · rw [if_pos absent]
    exact Queues.nothing wired
  · rw [if_neg present]
    apply wp_mono_done (Queues.enqueue wired active .auxiliary (auxiliaryStep owner command).1)
    exact fun _ next moved => moved.keeps

theorem Queues.routeData (value : BitVec 8) :
    Queues (routeData owner.pendingCommand value) owner (replyToData owner value) := by
  unfold I8042.routeData replyToData
  cases owner.pendingCommand with
  | commandByte => exact Queues.writeCommandByte wired value
  | outputPort => exact Queues.setOutputPort wired value
  | keyboardOutput => exact Queues.enqueue wired active .keyboard [value]
  | auxiliaryOutput => exact Queues.enqueue wired active .auxiliary [value]
  | auxiliaryCommand | auxiliaryParameter => exact Queues.auxiliaryCommand wired active value
  | keyboardLeds | keyboardScanSet | keyboardTypematic => exact Queues.keyboardParameter wired active value
  | none => exact Queues.keyboardCommand wired active value

theorem Queues.writeData (value : BitVec 8) : Queues (writeData value) owner (replyToData owner value) := by
  unfold Queues I8042.writeData
  simp only [wp_rules]
  apply wp_mono_done (Queues.routeData wired active value)
  exact fun _ next moved => moved.keeps

theorem Queues.routeCommand : Queues (routeCommand owner command) owner (replyToCommand owner command) := by
  have byte := fun value => Queues.enqueue wired active .controller [value]
  unfold I8042.routeCommand replyToCommand
  generalize command.toNat = code
  split
  · exact byte _
  · exact Queues.modify wired
  · exact ((Keeps.refl owner).moved wired).disable (enabled_of_or (.inl rfl) owner.commandByte)
  · exact Queues.writeCommandByte wired _
  · exact byte _
  · unfold Queues
    simp only [wp_rules]
    apply wp_mono_done (byte responseControllerOk)
    exact fun _ next moved => moved.disable (enabled_of_or (.inr rfl) next.commandByte)
  · exact byte _
  · exact Queues.writeCommandByte wired _
  · exact Queues.writeCommandByte wired _
  · exact byte _
  · exact byte _
  · exact Queues.modify wired
  · exact Queues.modify wired
  · exact Queues.modify wired
  · exact Queues.modify wired
  · exact Queues.setOutputPort wired _
  · exact Queues.setOutputPort wired _
  · exact Queues.modify wired
  · split
    all_goals first | exact Queues.modify wired | contradiction

theorem Queues.writeCommand : Queues (writeCommand command) owner (replyToCommand owner command) := by
  unfold Queues I8042.writeCommand
  simp only [wp_rules]
  apply wp_mono_done (Queues.routeCommand wired active command)
  exact fun _ next moved => moved.keeps

theorem readOutput_spec (present : owner.outputFifo.count ≠ 0) :
    wp readOutput owner (fun value next => ∃ entry, value = entry.value ∧ Taken owner next entry)
      (fun _ => SameButOverflow owner) := by
  simp only [readOutput, refuseWhen, wp_split]
  refine ⟨fun _ => rfl, fun room => ?_⟩
  have wired' : Wired { owner with outputFifo := owner.outputFifo.pop } :=
    ⟨wired.lines, fun inactive => by simp [active] at inactive⟩
  apply wp_mono (announceHead_spec wired' fun other head => (headSource_of_head head).1.symm)
  · rintro _ next ⟨only, wired, pending⟩
    refine ⟨owner.outputFifo.entry 0, rfl, wired, ?_, pending⟩
    rw [only.output]
    exact owner.outputFifo.contents_eq_cons present
  · rintro _ _ ⟨several, needs, full⟩
    exfalso
    have more : owner.outputFifo.count > 1 := by
      have popped : owner.outputFifo.pop.count = owner.outputFifo.count - 1 := rfl
      change owner.outputFifo.pop.count ≠ 0 at several
      omega
    have source : headSource { owner with outputFifo := owner.outputFifo.pop } = (owner.outputFifo.entry 1).source := by
      refine (headSource_of_head ?_).1
      unfold HeadFrom
      rw [owner.outputFifo.head?_pop more]
      rfl
    rw [source] at needs
    exact room ⟨more, needs, full⟩

end DosC32.I8042
