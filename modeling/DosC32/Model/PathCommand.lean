import DosC32.Core.Effect
import Mathlib.Data.List.TakeDrop
import Mathlib.Data.List.TakeWhile

/-! # The PATH command of COMMAND

`command/path.c`, the PATH command of `command/command.c` and the system calls behind it, as
`x86_user_handle_trap` in `kernel/x86_user.c` answers the running process. The ranges that COMMAND names
in a call are arrays of its own and are lists here. Guest memory does not fail, so that the environment
callback reads the variable it is asked for.
-/

namespace DosC32.PathCommand

/-- `ascii_isspace`. -/
def isSpace (character : UInt8) : Bool := [0x20, 0x09, 0x0d, 0x0a, 0x0c, 0x0b].contains character

/-- `ascii_toupper`. -/
def toUpper (character : UInt8) : UInt8 :=
  if 0x61 ≤ character ∧ character ≤ 0x7a then character - 0x20 else character

/-- `enum command_path_parse_status`, an update with its value. -/
inductive PathParse where
  | display
  | update (value : List UInt8)
  | tooManyParameters
  | tooLong
  | invalidArgument
deriving DecidableEq

/-- `COMMAND_PATH_UPDATE_CAPACITY`. -/
def updateCapacity : ℕ := 127

def semicolon : UInt8 := 0x3b

/-- `command_path_parse`. -/
def commandPathParse (arguments : List UInt8) (valueCapacity : ℕ) : PathParse :=
  if valueCapacity = 0 then .invalidArgument else
  match arguments.dropWhile isSpace with
  | [] => .display
  | first :: rest =>
    -- The value and what follows it.
    let (word, tail) := if first = semicolon then ([], rest) else (first :: rest).span (!isSpace ·)
    if tail.dropWhile isSpace ≠ [] then .tooManyParameters
    else if word.length ≥ updateCapacity ∨ word.length ≥ valueCapacity then .tooLong
    else if word.any (· < 0x20) then .invalidArgument
    else .update (word.map toUpper)

def syscallError : UInt32 := 0xffffffff
def syscallNotFound : UInt32 := 0xfffffffe
def syscallBufferTooSmall : UInt32 := 0xfffffffd

/-- The registers of an `int 30h`: the call, the `ecx` bytes at `ebx`, the bytes at `edx` and `esi`. -/
structure TrapFrame where
  eax : UInt32
  (source value : List UInt8)
  esi : ℕ

/-- The environment of the process, and what else the calls reach. -/
structure User (Rest : Type) where
  environment : List UInt8 → Option (List UInt8)
  rest : Rest

variable {Rest : Type}

/-- The copy loop of ENV_GET, at most `X86_USER_COPY_CHUNK` bytes a round; what it has written so far. -/
def copyLoop (value : List UInt8) : ℕ → List UInt8 → List UInt8
  | 0, written => written
  | rounds + 1, written =>
    if written.length < value.length then
      copyLoop value rounds (written ++ (value.drop written.length).take (min (value.length - written.length) 128))
    else written

/-- `syscall_dos_environment_get`: the answer, and the bytes it writes at `edx`. -/
def syscallDosEnvironmentGet (frame : TrapFrame) (user : User Rest) : UInt32 × List UInt8 :=
  let nameLength := frame.source.length
  if nameLength = 0 ∨ nameLength > 126 ∨ frame.esi = 0 ∨ frame.esi > 0x8000 then (syscallError, [])
  else match user.environment frame.source with
  | none => (syscallNotFound, [])
  | some value =>
    if value.length ≥ frame.esi then (syscallBufferTooSmall, [])
    else (UInt32.ofNat value.length, copyLoop value value.length [] ++ [0])

/-- The services behind the other calls: the console, and what calls 2 to 10 do. -/
structure Services (Rest : Type) where
  consoleWrite : List UInt8 → Rest → UInt32 × Rest
  other : TrapFrame → User Rest → (UInt32 × List UInt8) × User Rest

variable (services : Services Rest) (user : User Rest)

/-- `x86_user_handle_trap`. -/
def handleTrap (frame : TrapFrame) : (UInt32 × List UInt8) × User Rest :=
  if frame.eax = 1 then
    let (eax, rest) := services.consoleWrite frame.source user.rest
    ((eax, []), { user with rest })
  else if 2 ≤ frame.eax ∧ frame.eax ≤ 10 then services.other frame user
  else if frame.eax = 11 then (syscallDosEnvironmentGet frame user, user)
  else ((syscallError, []), user)

def pathEnvironmentName : List UInt8 := [0x50, 0x41, 0x54, 0x48]

/-- `c32_environment_get`. -/
def environmentGet (name : List UInt8) (valueCapacity : ℕ) : UInt32 × List UInt8 :=
  (handleTrap services user ⟨11, name, [], valueCapacity⟩).1

/-- `c32_environment_set`. -/
def environmentSet (name value : List UInt8) : Bool × User Rest :=
  let (answer, user) := handleTrap services user ⟨12, name, value, value.length⟩
  (answer.1 = 0, user)

/-- `console_write_span`. -/
def consoleWriteSpan (span : List UInt8) : User Rest :=
  if span = [] then user else (handleTrap services user ⟨1, span, [], 0⟩).2

/-- `console_write`. -/
def consoleWrite (text : String) : User Rest :=
  (handleTrap services user ⟨1, text.toUTF8.toList, [], 0⟩).2

/-- `command_search_path`: the PATH that the search for an external command uses. -/
def commandSearchPath : Option (List UInt8) :=
  let (result, written) := environmentGet services user pathEnvironmentName 0x8000
  if result = syscallNotFound then some []
  else if result = syscallError ∨ result = syscallBufferTooSmall ∨ result.toNat ≥ 0x8000 then none
  else some (written.take result.toNat)

/-- `execute_path_command`. -/
def executePathCommand (arguments : List UInt8) : User Rest :=
  match commandPathParse arguments updateCapacity with
  | .display =>
    match commandSearchPath services user with
    | none => consoleWrite services user "Unable to read the DOS environment\r\n"
    | some path => consoleWrite services (consoleWriteSpan services (consoleWrite services user "PATH=") path) "\r\n"
  | .tooManyParameters => consoleWrite services user "Too many parameters\r\n"
  | .update value =>
    let (updated, user) := environmentSet services user pathEnvironmentName value
    if updated then user else consoleWrite services user "Unable to update the DOS environment\r\n"
  | .tooLong | .invalidArgument => consoleWrite services user "Invalid PATH value\r\n"

end DosC32.PathCommand
