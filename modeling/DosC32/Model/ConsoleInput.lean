import DosC32.Model.Cpu

/-! # Buffered console input

The line input of `dos/int21.c` and the function that flushes the input before it. The input callback takes the next
character of a stream and fails at its end; the output callback sees all that was output before.
-/

namespace DosC32.Console

open Effect

/-- The failing values of `enum dos_int21_status` that the console functions return. -/
inductive Int21Error where
  | unimplemented
  | machineFault
  | machinePoisoned
deriving DecidableEq

/-- Guest, registers, the characters to come and those that were output. -/
structure State where
  guest : Guest
  cpu : CpuState
  (input output : List UInt8)
  machinePoisoned : Bool

abbrev ConsoleM := EStateM Int21Error State

/-- The console part of `struct dos_int21_context`; any of the callbacks may be missing. -/
structure Context where
  machine : Machine
  (inputCharacter inputStatus : Bool)
  outputCharacter : Option (List UInt8 → UInt8 → Bool)
  inputFlush : Option (List UInt8 → Option (List UInt8))
  /-- The functions 01h, 06h, 07h and 08h. -/
  dispatchOther : UInt8 → ConsoleM Unit

def onGuest {α : Type} (action : MachineM α) : EStateM MachineError State α :=
  focus State.guest (fun guest state => { state with guest }) action

variable (accepts : List UInt8 → UInt8 → Bool)

def outputCharacter (character : UInt8) : ConsoleM Unit := do
  failWhen (¬ accepts (← get).output character) .machineFault
  modify fun state => { state with output := state.output ++ [character] }

/-- The effect of one character inside the line; `line` is what `buffer + 2` holds. -/
def editCharacter (line : List UInt8) (character : UInt8) : ConsoleM (List UInt8) :=
  if character = 0x08 then
    if line.length ≠ 0 then do
      outputCharacter accepts character
      outputCharacter accepts 0x20
      outputCharacter accepts character
      pure line.dropLast
    else pure line
  else if character < 0x20 then pure line
  else do
    outputCharacter accepts character
    pure (line ++ [character])

/-- The loop of `dispatch_buffered_console_input` on the characters to come. -/
def editLoop (limit : ℕ) : List UInt8 → List UInt8 → ConsoleM (List UInt8)
  | [], line => if line.length < limit then throw .machineFault else pure line
  | character :: rest, line =>
    if line.length < limit then do
      modify fun state => { state with input := rest }
      if character = 0x0d ∨ character = 0x0a then pure line
      else editLoop limit rest (← editCharacter accepts line character)
    else pure line

/-- The part of the buffer that is transferred. -/
def lineBuffer (limit : UInt8) (line : List UInt8) : List UInt8 := limit :: UInt8.ofNat line.length :: line ++ [0x0d]

variable (context : Context)

/-- `dispatch_buffered_console_input`. -/
def dispatchBufferedConsoleInput : ConsoleM Unit := do
  let cpu := (← get).cpu
  let offset := Register.low16 cpu.edx
  failWhen (¬ context.inputCharacter) .unimplemented
  let accepts ← demand context.outputCharacter .unimplemented
  let header ← mapError (fun _ => .machineFault) (onGuest (context.machine.readFar cpu.ds offset 258 2))
  let limit := header.headD 0
  let line ← editLoop accepts limit.toNat (← get).input []
  outputCharacter accepts 0x0d
  outputCharacter accepts 0x0a
  let published := context.machine.replaceFar cpu.ds offset (lineBuffer limit line) 258 (line.length + 3)
  match ← attempt (onGuest published) with
  | .ok _ => pure ()
  | .error .rollbackFailed => do
    modify fun state => { state with machinePoisoned := true }
    throw .machinePoisoned
  | .error _ => throw .machineFault

/-- `console_input_followup_is_available`. -/
def consoleInputFollowupIsAvailable (cpu : CpuState) (function : UInt8) : Prop :=
  if function = 0x01 ∨ function = 0x0a then context.inputCharacter ∧ context.outputCharacter.isSome
  else if function = 0x06 then
    if Register.low8 cpu.edx = 0xff then context.inputStatus ∧ context.inputCharacter
    else context.outputCharacter.isSome
  else if function = 0x07 ∨ function = 0x08 then context.inputCharacter
  else True
deriving Decidable

/-- `dispatch_console_input_flush`. -/
def dispatchConsoleInputFlush : ConsoleM Unit := do
  let state ← get
  let function := Register.low8 state.cpu.eax
  let flush ← demand context.inputFlush .unimplemented
  failWhen (¬ consoleInputFollowupIsAvailable context state.cpu function) .unimplemented
  let kept ← demand (flush state.input) .machineFault
  modify fun state => { state with input := kept }
  if function = 0x01 ∨ function = 0x06 ∨ function = 0x07 ∨ function = 0x08 then context.dispatchOther function
  else if function = 0x0a then dispatchBufferedConsoleInput context
  else modify fun state => { state with cpu := { state.cpu with eax := Register.setLow8 state.cpu.eax 0 } }

end DosC32.Console
