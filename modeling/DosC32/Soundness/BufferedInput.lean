import DosC32.Model.ConsoleInput
import DosC32.Soundness.FarTransfer

/-! # Buffered input and the caller's buffer

The editor reads a line of at most the declared number of characters and stores it with its length and a carriage
return. A line that was ended by the user fits the buffer together with its carriage return; a line that filled the
buffer does not, unless the caller offered no room and a carriage return stands behind the header already.
-/

namespace DosC32.Console

open Effect Store List

/-- What one character does to the line: a backspace deletes its last character, other control characters nothing. -/
def edit (line : List UInt8) (character : UInt8) : List UInt8 :=
  if character = 0x08 then line.dropLast else if character < 0x20 then line else line ++ [character]

/-- The line that a stream is edited into, of at most `limit` characters, and what it leaves of the stream. -/
def takeLine (limit : ℕ) (line : List UInt8) : List UInt8 → List UInt8 × List UInt8
  | [] => (line, [])
  | character :: rest =>
    if line.length < limit then
      if character = 0x0d ∨ character = 0x0a then (line, rest) else takeLine limit (edit line character) rest
    else (line, character :: rest)

theorem length_edit_le (line : List UInt8) (character : UInt8) : (edit line character).length ≤ line.length + 1 := by
  unfold edit
  split
  · simp only [length_dropLast]
    omega
  · split
    · omega
    · simp

theorem length_takeLine_le {limit : ℕ} (stream : List UInt8) {line : List UInt8} (fits : line.length ≤ limit) :
    (takeLine limit line stream).1.length ≤ limit := by
  induction stream generalizing line with
  | nil => exact fits
  | cons character rest ih =>
    unfold takeLine
    split
    · split
      · exact fits
      · have longer := length_edit_le line character
        exact ih (by omega)
    · exact fits

variable (accepts : List UInt8 → UInt8 → Bool)

theorem editCharacter_spec (line : List UInt8) (character : UInt8) (state : State) :
    wp (editCharacter accepts line character) state (fun line' next => line' = edit line character ∧
      next.guest = state.guest ∧ next.input = state.input) (fun _ _ => True) := by
  simp only [editCharacter, outputCharacter, edit, wp_all, wp_ite]
  refine ⟨fun back => ⟨fun _ _ _ _ => ?_, fun empty => ?_⟩, fun other => ⟨fun control => ?_, fun plain _ => ?_⟩⟩
  · simp [back]
  · simp [back, length_eq_zero_iff.mp (not_not.mp empty)]
  · simp [other, control]
  · simp [other, plain]

/-- The loop takes the line from the stream and leaves the guest alone. -/
theorem editLoop_spec (limit : ℕ) (stream line : List UInt8) (state : State) (input : state.input = stream) :
    wp (editLoop accepts limit stream line) state (fun result next => next.guest = state.guest ∧
      takeLine limit line stream = (result, next.input)) (fun _ _ => True) := by
  induction stream generalizing line state with
  | nil =>
    simp only [editLoop, wp_split]
    exact ⟨fun _ => trivial, fun _ => ⟨trivial, by rw [input]; rfl⟩⟩
  | cons character rest ih =>
    simp only [editLoop, takeLine, wp_split]
    refine ⟨fun short => ⟨fun stop => ?_, fun goesOn => ?_⟩, fun long => ?_⟩
    · simp [short, stop]
    · rw [if_pos short, if_neg goesOn]
      apply wp_mono_done (editCharacter_spec accepts line character _)
      rintro _ after ⟨rfl, guest, input⟩
      apply wp_mono_done (ih _ after input)
      exact fun _ next later => ⟨later.1.trans guest, later.2⟩
    · simp [long, input]

/-- A block that starts with the byte already there changes only what follows it. -/
theorem assigned_footprint (machine : Machine) (segment offset : UInt16) (memory : ℕ → UInt8) {bytes : List UInt8}
    (small : bytes.length ≤ 65536) (first : bytes.getD 0 0 = memory (machine.farAddress segment offset 0)) :
    Assigned (machine.farAddress segment offset) { index | 0 < index ∧ index < bytes.length } (bytes.getD · 0) memory
      (save memory (machine.footprint segment offset bytes.length) bytes) := by
  have loaded := machine.load_save_footprint segment offset memory (Nat.le_refl bytes.length) small
  rw [take_length] at loaded
  have stored (index : ℕ) (inside : index < bytes.length) :
      save memory (machine.footprint segment offset bytes.length) bytes (machine.farAddress segment offset index) =
        bytes.getD index 0 := by
    rw [← congrArg (getD · index 0) loaded]
    simp [load, machine.footprint_eq, inside]
  refine ⟨fun index inside => stored index inside.2, fun address outside => ?_⟩
  by_cases member : address ∈ machine.footprint segment offset bytes.length
  · rw [machine.footprint_eq, mem_map] at member
    obtain ⟨index, inside, rfl⟩ := member
    rw [mem_range] at inside
    rcases Nat.eq_zero_or_pos index with rfl | positive
    · exact (stored 0 inside).trans first
    · exact absurd rfl (outside index ⟨positive, inside⟩)
  · exact save_agreeOff _ _ _ _ member

theorem length_lineBuffer (limit : UInt8) (line : List UInt8) : (lineBuffer limit line).length = line.length + 3 := by
  simp [lineBuffer]

/-- What the caller may expect of its buffer of `limit + 2` bytes: nothing behind it is changed and the first byte is
kept, and if there is room, a line shorter than the limit is stored with its length and a carriage return. -/
structure Contained (place : ℕ → ℕ) (limit : ℕ) (line : List UInt8) (before after : ℕ → UInt8) : Prop where
  frame : ∀ address, (∀ index, 0 < index → index < limit + 2 → place index ≠ address) → after address = before address
  first : after (place 0) = before (place 0)
  stored : 0 < limit → line.length < limit ∧ after (place 1) = UInt8.ofNat line.length ∧
    ∀ index ≤ line.length, after (place (index + 2)) = (line ++ [0x0d]).getD index 0

theorem contained_iff {place : ℕ → ℕ} {limit : UInt8} {line : List UInt8} {before after : ℕ → UInt8}
    (apart : ∀ first second, first < second → second - first < 65536 → place first ≠ place second)
    (assigned : Assigned place { index | 0 < index ∧ index < line.length + 3 } ((lineBuffer limit line).getD · 0)
      before after) (fits : line.length ≤ limit.toNat) :
    Contained place limit.toNat line before after ↔
      line.length < limit.toNat ∨ limit.toNat = 0 ∧ before (place 2) = 0x0d := by
  have byte := limit.toNat_lt
  have first : after (place 0) = before (place 0) :=
    assigned.frame _ fun index inside => (apart 0 index inside.1 (by have := inside.2; omega)).symm
  constructor
  · intro contained
    by_cases room : 0 < limit.toNat
    · exact .inl (contained.stored room).1
    · obtain rfl : line = [] := length_eq_zero_iff.mp (by omega)
      have kept := contained.frame (place 2) fun index _ inside => apart index 2 (by omega) (by omega)
      exact .inr ⟨by omega, kept.symm.trans (assigned.data 2 ⟨by decide, by decide⟩)⟩
  · rintro (ended | ⟨none, ready⟩)
    · refine ⟨fun address outside => ?_, first, fun _ => ⟨ended, ?_, fun index inside => ?_⟩⟩
      · exact assigned.frame _ fun index inside => outside index inside.1 (by have := inside.2; omega)
      · exact assigned.data 1 ⟨by decide, by omega⟩
      · exact assigned.data (index + 2) ⟨by omega, by omega⟩
    · obtain rfl : line = [] := length_eq_zero_iff.mp (by omega)
      refine ⟨fun address outside => ?_, first, fun room => by omega⟩
      by_cases second : place 2 = address
      · rw [← second, ready]
        exact assigned.data 2 ⟨by decide, by decide⟩
      · refine assigned.frame _ fun index inside => ?_
        have near : index < 3 := inside.2
        obtain rfl | rfl : index = 1 ∨ index = 2 := by have := inside.1; omega
        · exact outside 1 (by decide) (by omega)
        · exact second

variable (context : Context)

/-- The line that the stream gives stands in the caller's buffer, with its length before and a carriage return behind
it, and no other byte was changed. The caller finds what it may expect exactly if the line ended before it was full,
or there was no room and the carriage return met another one. -/
def Stored (state : State) (stream : List UInt8) (next : State) : Prop :=
  let place := context.machine.farAddress state.cpu.ds (Register.low16 state.cpu.edx)
  let limit := state.guest.memory (place 0)
  let line := (takeLine limit.toNat [] stream).1
  next.input = (takeLine limit.toNat [] stream).2 ∧
    Assigned place { index | 0 < index ∧ index < line.length + 3 } ((lineBuffer limit line).getD · 0)
      state.guest.memory next.guest.memory ∧
    (Contained place limit.toNat line state.guest.memory next.guest.memory ↔
      line.length < limit.toNat ∨ limit.toNat = 0 ∧ state.guest.memory (place 2) = 0x0d)

theorem dispatchBufferedConsoleInput_spec (state : State) :
    wp (dispatchBufferedConsoleInput context) state (fun _ => Stored context state state.input) (fun _ _ => True) := by
  simp only [dispatchBufferedConsoleInput, onGuest, outputCharacter, wp_all, Stored]
  generalize state.cpu.ds = segment, Register.low16 state.cpu.edx = offset
  intro _ accepts _
  apply wp_mono context.machine.readFar_spec
  · rintro header guest ⟨same, rfl, -⟩
    have first : (load state.guest.memory (context.machine.footprint segment offset 2)).headD 0 =
        state.guest.memory (context.machine.farAddress segment offset 0) := by
      rw [context.machine.footprint_eq]
      rfl
    rw [first]
    have byte := (state.guest.memory (context.machine.farAddress segment offset 0)).toNat_lt
    refine wp_mono_done (editLoop_spec accepts _ state.input [] _ rfl) ?_
    rintro line next ⟨kept, taken⟩ - -
    have fits : line.length ≤ (state.guest.memory (context.machine.farAddress segment offset 0)).toNat := by
      rw [show line = _ from (congrArg Prod.fst taken).symm]
      exact length_takeLine_le state.input (Nat.zero_le _)
    rw [taken]
    apply wp_mono context.machine.replaceFar_spec
    · rintro _ after ⟨-, -, stored⟩
      have small : (lineBuffer (state.guest.memory (context.machine.farAddress segment offset 0)) line).length ≤ 65536 := by
        rw [length_lineBuffer]
        omega
      have assigned := assigned_footprint context.machine segment offset state.guest.memory small rfl
      rw [kept, same] at stored
      rw [length_lineBuffer, ← stored] at assigned
      exact ⟨rfl, assigned, contained_iff (fun _ _ => Machine.farAddress_ne _ _) assigned fits⟩
    · intro error after _
      cases error <;> trivial
  · exact fun _ _ _ => trivial

/-- Every handled line input, called directly or after a flush of the input. -/
theorem buffered_input_stored (state : State) :
    wp (dispatchBufferedConsoleInput context) state (fun _ => Stored context state state.input) (fun _ _ => True) ∧
    (Register.low8 state.cpu.eax = 0x0a → wp (dispatchConsoleInputFlush context) state
      (fun _ next => ∃ flush stream, context.inputFlush = some flush ∧ flush state.input = some stream ∧
        Stored context state stream next) (fun _ _ => True)) := by
  refine ⟨dispatchBufferedConsoleInput_spec context state, fun function => ?_⟩
  simp only [dispatchConsoleInputFlush, wp_all, function]
  intro flush present _ stream flushed
  refine wp_mono_done (dispatchBufferedConsoleInput_spec context { state with input := stream }) ?_
  exact fun _ next stored => ⟨flush, stream, present, flushed, stored⟩

/-- A caller at 0:0100h that offers room for `limit` characters. -/
def sampleState (limit : UInt8) (input : List UInt8) : State where
  guest := ⟨fun address => if address = 0x100 then limit else 0x55, 0⟩
  cpu := ⟨0x0c0a, 0, 0, 0x100, 0, 0, 0, 0, 0, 0, 0, 0, 0, 0, 0, 0, 0⟩
  input := input
  output := []
  machinePoisoned := false

def sampleContext : Context := ⟨.ideal, true, true, some fun _ _ => true, some some, fun _ => pure ()⟩

theorem buffered_input_stored_flushed :
    outcome (dispatchConsoleInputFlush sampleContext) (sampleState 5 [0x41, 0x58, 0x08, 0x07, 0x42, 0x0d, 0x43]) = .ok () ∧
      ∃ next, Stored sampleContext (sampleState 5 [0x41, 0x58, 0x08, 0x07, 0x42, 0x0d, 0x43])
        [0x41, 0x58, 0x08, 0x07, 0x42, 0x0d, 0x43] next := by
  have ran : outcome (dispatchConsoleInputFlush sampleContext)
    (sampleState 5 [0x41, 0x58, 0x08, 0x07, 0x42, 0x0d, 0x43]) = .ok () := by decide +kernel
  obtain ⟨_, _, ⟨⟩, ⟨⟩, stored⟩ := wp_of_ok ((buffered_input_stored _ _).2 (by decide)) (eq_ok_of_outcome ran)
  exact ⟨ran, _, stored⟩

/-- A full line leaves the buffer: the carriage return is stored behind it, and with no room at all behind the header. -/
theorem full_line_leaves_buffer :
    (outcome (dispatchBufferedConsoleInput sampleContext) (sampleState 1 [0x41]) = .ok () ∧
      (final (dispatchBufferedConsoleInput sampleContext) (sampleState 1 [0x41])).guest.memory 0x103 = 0x0d) ∧
    outcome (dispatchBufferedConsoleInput sampleContext) (sampleState 0 []) = .ok () ∧
      (final (dispatchBufferedConsoleInput sampleContext) (sampleState 0 [])).guest.memory 0x102 = 0x0d := by
  refine ⟨⟨?_, ?_⟩, ?_, ?_⟩ <;> decide +kernel

end DosC32.Console
