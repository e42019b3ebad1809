import DosC32.Model.PathCommand

/-! # What the PATH command does to PATH

ENV_SET has no case in `x86_user_handle_trap`: every update is refused and the environment stays as it is.
-/

namespace DosC32.PathCommand

/-- The arguments are one word between whitespace that stands for the value. -/
def IsUpdate (arguments : List UInt8) (valueCapacity : ℕ) (value : List UInt8) : Prop :=
  ∃ before word after, arguments = before ++ (word ++ after) ∧ (∀ c ∈ before, isSpace c) ∧
    (∀ c ∈ after, isSpace c) ∧ word ≠ [] ∧ (∀ c ∈ word, ¬ isSpace c ∧ ¬ c < 0x20) ∧
    (word = [semicolon] ∧ value = [] ∨ word.head? ≠ some semicolon ∧ value = word.map toUpper) ∧
    value.length < updateCapacity ∧ value.length < valueCapacity

theorem commandPathParse_eq_update {arguments value : List UInt8} {valueCapacity : ℕ} :
    commandPathParse arguments valueCapacity = .update value ↔ IsUpdate arguments valueCapacity value := by
  constructor
  · intro parsed
    simp only [commandPathParse, ite_eq_iff, reduceCtorEq, and_false, false_or] at parsed
    cases found : arguments.dropWhile isSpace with
    | nil => simp [found] at parsed
    | cons first rest =>
      have split := List.takeWhile_append_dropWhile (p := isSpace) (l := arguments)
      have starts : isSpace first = false := by simpa [found] using List.head?_dropWhile_not isSpace arguments
      rw [found] at split
      refine ⟨arguments.takeWhile isSpace, ?_⟩
      by_cases lone : first = semicolon
      · simp only [found, lone, ite_eq_iff] at parsed
        simp at parsed
        obtain ⟨room, blank, -, rfl⟩ := parsed
        refine ⟨[semicolon], rest, by rw [← lone, List.singleton_append, split], fun _ => List.mem_takeWhile_imp,
          blank, by simp, List.forall_mem_singleton.mpr (by decide), .inl ⟨rfl, rfl⟩, by decide,
          Nat.pos_of_ne_zero room⟩
      · simp [found, lone, ite_eq_iff, List.span_eq_takeWhile_dropWhile] at parsed
        obtain ⟨-, blank, ⟨short, fits⟩, visible, rfl⟩ := parsed
        have plain : ∀ c ∈ (first :: rest).takeWhile (!isSpace ·), ¬ isSpace c ∧ ¬ c < 0x20 := fun c inside =>
          ⟨by simpa using List.mem_takeWhile_imp inside, by simpa using visible c inside⟩
        refine ⟨_, _, by rw [List.takeWhile_append_dropWhile, split], fun _ => List.mem_takeWhile_imp, blank,
          by simp [starts], plain, .inr ⟨by simpa [starts] using lone, rfl⟩, by simpa using short, by simpa using fits⟩
  · rintro ⟨before, word, after, rfl, blank, blank', some, visible, meaning, short, fits⟩
    obtain ⟨first, rest, rfl⟩ := List.exists_cons_of_ne_nil some
    have starts : (before ++ (first :: rest ++ after)).dropWhile isSpace = first :: (rest ++ after) := by
      rw [List.dropWhile_append_of_pos blank]
      exact List.dropWhile_cons_of_neg (visible first (by simp)).1
    have apart : (first :: (rest ++ after)).span (!isSpace ·) = (first :: rest, after) := by
      rw [List.span_eq_takeWhile_dropWhile, ← List.cons_append, List.takeWhile_append_of_pos (by simp_all),
        List.dropWhile_append_of_pos (by simp_all)]
      cases after <;> simp_all
    have ends := List.dropWhile_eq_nil_iff.mpr blank'
    have room : valueCapacity ≠ 0 := by omega
    simp only [commandPathParse, room, starts, apart, if_false]
    rcases meaning with ⟨lone, rfl⟩ | ⟨other, rfl⟩
    · cases lone
      simp [room, ends, updateCapacity]
    · have visible' : (first :: rest).any (· < 0x20) = false := by
        simpa using fun c inside => (visible c inside).2
      simp at other short fits
      simp [other, ends, short, fits, visible']

variable {Rest : Type} (services : Services Rest) (user : User Rest) (value : List UInt8)

/-- The rounds of the copy loop put the value together. -/
theorem copyLoop_take {rounds completed : ℕ} (inside : completed ≤ value.length)
    (enough : value.length ≤ completed + rounds) : copyLoop value rounds (value.take completed) = value := by
  induction rounds generalizing completed with
  | zero => exact List.take_of_length_le enough
  | succ rounds ih =>
    rw [copyLoop, List.length_take_of_le inside, ← List.take_add]
    split
    · exact ih (by omega) (by omega)
    · exact List.take_of_length_le (by omega)

/-- Of the calls that the PATH command makes none changes the environment. -/
theorem executePathCommand_environment (arguments : List UInt8) :
    (executePathCommand services user arguments).environment = user.environment := by
  have written (user : User Rest) (text : String) :
      (consoleWrite services user text).environment = user.environment := rfl
  unfold executePathCommand
  split
  · split
    · exact written ..
    · rw [written, consoleWriteSpan]
      split <;> rfl
  all_goals exact written ..

/-- Nor does a run of them. -/
theorem executePathCommand_run (commands : List (List UInt8)) :
    (commands.foldl (executePathCommand services) user).environment = user.environment := by
  induction commands generalizing user with
  | nil => rfl
  | cons arguments rest ih => rw [List.foldl_cons, ih, executePathCommand_environment]

/-- An answer of ENV_GET that gives the value. -/
def Gives (answer : UInt32 × List UInt8) : Prop :=
  answer = (UInt32.ofNat value.length, value ++ [0]) ∨ value = [] ∧ answer = (syscallNotFound, [])

/-- PATH has the value in the environment; an empty value may be absent. -/
def HasPath : Prop :=
  user.environment pathEnvironmentName = some value ∨ value = [] ∧ user.environment pathEnvironmentName = none

/-- PATH reads as the value, for ENV_GET and for the search for a command. -/
structure ReadsPath (value : List UInt8) : Prop where
  reads : ∀ capacity, value.length < capacity → capacity ≤ 0x8000 →
    Gives value (environmentGet services user pathEnvironmentName capacity)
  search : commandSearchPath services user = some value

theorem gives_iff {value : List UInt8} {capacity : ℕ} (fits : value.length < capacity) (small : capacity ≤ 0x8000) :
    Gives value (environmentGet services user pathEnvironmentName capacity) ↔ HasPath user value := by
  have named : pathEnvironmentName.length = 4 := rfl
  have copied (value : List UInt8) : copyLoop value value.length [] = value :=
    copyLoop_take value (Nat.zero_le _) (by simp)
  cases found : user.environment pathEnvironmentName with
  | none =>
    simp [Gives, HasPath, environmentGet, handleTrap, syscallDosEnvironmentGet, found, named, small.not_gt,
      Nat.ne_zero_of_lt fits]
  | some current =>
    by_cases long : capacity ≤ current.length
    · -- The answer that the buffer is too small comes without bytes.
      have other : current ≠ value := fun same => by rw [same] at long; omega
      simp [Gives, HasPath, environmentGet, handleTrap, syscallDosEnvironmentGet, found, named, small.not_gt,
        Nat.ne_zero_of_lt fits, long, other, syscallBufferTooSmall, syscallNotFound]
    · simp only [Gives, HasPath, environmentGet, handleTrap, syscallDosEnvironmentGet, found, named, copied]
      simp [small.not_gt, Nat.ne_zero_of_lt fits, long]
      exact fun same => by rw [same]

theorem readsPath_iff {value : List UInt8} (short : value.length < updateCapacity) :
    ReadsPath services user value ↔ HasPath user value := by
  have room : value.length < 0x8000 := by
    simp only [updateCapacity] at short
    omega
  refine ⟨fun reads => (gives_iff services user room le_rfl).mp (reads.reads _ room le_rfl), fun holds => ⟨?_, ?_⟩⟩
  · exact fun capacity fits small => (gives_iff services user fits small).mpr holds
  rcases (gives_iff services user room le_rfl).mpr holds with found | ⟨rfl, missing⟩
  · have small : (UInt32.ofNat value.length).toNat = value.length :=
      UInt32.toNat_ofNat_of_lt' (by rw [UInt32.size]; omega)
    have code (code : UInt32) (large : 0x8000 ≤ code.toNat) : UInt32.ofNat value.length ≠ code := by
      rintro rfl
      omega
    simp [commandSearchPath, found, code, small, syscallNotFound, syscallError, syscallBufferTooSmall]
    omega
  · simp [commandSearchPath, missing]

/-- After any PATH commands an update reads back exactly when PATH had its value before all of them, and other
variables read as before; the parser takes one visible word and no other. -/
theorem path_command_round_trip (earlier : List (List UInt8)) {arguments value : List UInt8}
    (parsed : commandPathParse arguments updateCapacity = .update value) :
    (ReadsPath services ((earlier ++ [arguments]).foldl (executePathCommand services) user) value ↔
      HasPath user value) ∧ (∀ name ≠ pathEnvironmentName, ∀ capacity,
      environmentGet services ((earlier ++ [arguments]).foldl (executePathCommand services) user) name capacity =
        environmentGet services user name capacity) ∧
    ∀ arguments capacity value, commandPathParse arguments capacity = .update value ↔
      IsUpdate arguments capacity value := by
  obtain ⟨-, -, -, -, -, -, -, -, -, short, -⟩ := commandPathParse_eq_update.mp parsed
  have kept := executePathCommand_run services user (earlier ++ [arguments])
  refine ⟨?_, fun name _ capacity => ?_, fun _ _ _ => commandPathParse_eq_update⟩
  · rw [readsPath_iff services _ short, HasPath, HasPath, kept]
  · simp only [environmentGet, handleTrap, syscallDosEnvironmentGet, kept]
    simp

/-- A system whose environment has PATH=A. -/
def sampleServices : Services Unit := ⟨fun _ rest => (0, rest), fun _ user => ((0, []), user)⟩

def sampleUser : User Unit := ⟨fun name => if name = pathEnvironmentName then some [0x41] else none, ()⟩

/-- After the refused updates `PATH B` and `PATH ;` the update `PATH a` finds PATH=A. -/
theorem path_command_round_trip_same : ReadsPath sampleServices
    ([[0x42], [0x3b], [0x61]].foldl (executePathCommand sampleServices) sampleUser) [0x41] :=
  (path_command_round_trip sampleServices sampleUser [[0x42], [0x3b]]
    (by decide : commandPathParse [0x61] updateCapacity = .update [0x41])).1.mpr (.inl rfl)

/-- `PATH B` is an update, and PATH is A after it. -/
theorem path_update_is_refused : commandPathParse [0x42] updateCapacity = .update [0x42] ∧
    environmentGet sampleServices (executePathCommand sampleServices sampleUser [0x42]) pathEnvironmentName 0x8000 =
      (1, [0x41, 0]) ∧
    ¬ Gives [0x42] (1, [0x41, 0]) := by
  refine ⟨by decide, by decide, ?_⟩
  simp [Gives]

end DosC32.PathCommand
