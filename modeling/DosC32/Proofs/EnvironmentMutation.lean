import DosC32.Model.EnvironmentMutation
import DosC32.Proofs.Memory

/-! # Reading and filling environment blocks

The two passes over an environment agree because both are functions of the bytes of the source
block, which neither the reads nor the writes of the second pass change. The first pass measures
the entries that stay, the second one copies them, so that the copy ends where the measure says
and never leaves the block allocated for it.
-/

namespace DosC32.EnvironmentMutation

open Effect Store Checked UInt16

/-- The native arena and guest memory are as before; callbacks may have been made. -/
structure Quiet (state next : ArenaState) : Prop where
  arena : next.arena = state.arena
  memory : next.guest.memory = state.guest.memory

theorem Quiet.refl (state : ArenaState) : Quiet state state := ⟨rfl, rfl⟩

theorem Quiet.trans {state middle next : ArenaState} (first : Quiet state middle) (second : Quiet middle next) :
    Quiet state next :=
  ⟨second.arena.trans first.arena, second.memory.trans first.memory⟩

instance : IsPreorder ArenaState Quiet where
  refl := Quiet.refl
  trans _ _ _ := Quiet.trans

/-- A block of guest bytes that wraps neither its segment nor the A20 line. -/
structure Region where
  segment : UInt16
  capacity : ℕ
  small : capacity ≤ environmentMaxBlockBytes
  low : segment.toNat * 16 + capacity ≤ a20WrapAddress

namespace Region

variable (region : Region) (bytes : ℕ → UInt8) (reader : EnvironmentReader) (state next : ArenaState)

def base : ℕ := region.segment.toNat * 16

/-- The region stores the given bytes. -/
def Stores : Prop :=
  ∀ offset < region.capacity, state.guest.memory (region.base + offset) = bytes offset

/-- Nothing outside the region has changed. -/
structure Filled : Prop where
  arena : next.arena = state.arena
  frame : ∀ address, (address < region.base ∨ region.base + region.capacity ≤ address) →
    next.guest.memory address = state.guest.memory address

/-- A reader of the region whose cache, if any, holds bytes of it. -/
structure Serves : Prop where
  segment : reader.segment = region.segment
  capacity : reader.capacity = region.capacity
  cached : reader.cacheValid = true → ∀ index < reader.cache.length,
    reader.cache.getD index 0 = bytes (reader.cacheBase + index)

/-- The reader serves what the state stores. -/
structure Reads : Prop where
  serves : region.Serves bytes reader
  stores : region.Stores bytes state

theorem serves_start : region.Serves bytes (.start region.segment region.capacity) :=
  ⟨rfl, rfl, fun valid => by cases valid⟩

theorem stores_self : region.Stores (fun offset => state.guest.memory (region.base + offset)) state := fun _ _ => rfl

variable {region bytes reader state next} {middle : ArenaState} {count : ℕ}

theorem Stores.of_quiet (stores : region.Stores bytes state) (quiet : Quiet state next) : region.Stores bytes next := by
  intro offset inside
  rw [quiet.memory]
  exact stores offset inside

theorem Reads.of_quiet (reads : region.Reads bytes reader state) (quiet : Quiet state next) :
    region.Reads bytes reader next :=
  ⟨reads.serves, reads.stores.of_quiet quiet⟩

theorem Filled.of_quiet (quiet : Quiet state next) : region.Filled state next :=
  ⟨quiet.arena, fun address _ => congrFun quiet.memory address⟩

instance : IsPreorder ArenaState region.Filled where
  refl state := .of_quiet (.refl state)
  trans _ _ _ first second := ⟨second.arena.trans first.arena, fun address outside =>
    (second.frame address outside).trans (first.frame address outside)⟩

/-- The addresses of a far range inside the region. -/
theorem footprint_eq {machine : Machine} {offset : ℕ} (some : count ≠ 0) (inside : offset + count ≤ region.capacity) :
    machine.footprint region.segment (ofNat offset) count = List.range' (region.base + offset) count := by
  have small : region.capacity ≤ 0x8000 := region.small
  have low : region.base + region.capacity ≤ 0x100000 := region.low
  have narrow : (ofNat offset).toNat = offset := by
    rw [toNat_ofNat']
    exact Nat.mod_eq_of_lt (by omega)
  have linear : Machine.farToLinear region.segment (ofNat offset) machine.a20Enabled = region.base + offset := by
    simp only [Machine.farToLinear, narrow, a20WrapAddress]
    split
    · rfl
    · exact Nat.mod_eq_of_lt (by change region.base + offset < _; omega)
  have single := machine.farChunks_single region.segment (ofNat offset) count some (by rw [narrow]; omega)
    (by rw [linear]; simp only [a20WrapAddress]; omega)
  simp [Machine.footprint, single, linear, Machine.Chunk.addresses]

end Region

variable {machine : Machine} {region : Region} {bytes : ℕ → UInt8} {state : ArenaState} {reader : EnvironmentReader}

theorem onMachine_readFar_spec {segment offset : UInt16} {capacity count : ℕ} :
    Within Quiet (onMachine (machine.readFar segment offset capacity count)) state
      (fun found _ => found = load state.guest.memory (machine.footprint segment offset count)) := by
  simp only [Within, onMachine, Memory.onGuest, wp_mapError, wp_focus]
  apply wp_mono machine.readFar_spec
  · rintro found guest ⟨same, loaded, -⟩
    exact ⟨⟨rfl, same⟩, loaded⟩
  · exact fun _ guest refused => ⟨rfl, refused.1⟩

/-- The loop of `inspect_entry` as a function of the bytes. -/
def scanBytes (bytes : ℕ → UInt8) (name : List UInt8) : ℕ → EntryScan → EntryScan
  | 0, scan => scan
  | rounds + 1, scan =>
    if bytes scan.cursor = 0 then { scan with cursor := scan.cursor + 1 }
    else scanBytes bytes name rounds (scan.consume name (bytes scan.cursor))

/-- The entry at an offset of the region. -/
def entryAt (region : Region) (bytes : ℕ → UInt8) (name : List UInt8) (start : ℕ) : EnvironmentEntry :=
  if bytes start = 0 then ⟨start, 0, false⟩
  else
    let scan := scanBytes bytes name (region.capacity + 1) ⟨start, 0, false, true⟩
    ⟨start, scan.cursor - start, scan.hasEqual && scan.isMatch⟩

/-- The entries from an offset up to the closing zero. -/
inductive Listed (next : ℕ → EnvironmentEntry) : ℕ → List EnvironmentEntry → Prop
  | stop {cursor : ℕ} : (next cursor).bytes = 0 → Listed next cursor []
  | entry {cursor : ℕ} {rest : List EnvironmentEntry} : (next cursor).bytes ≠ 0 →
      Listed next (cursor + (next cursor).bytes) rest → Listed next cursor (next cursor :: rest)

/-- The bytes of the entries that stay. -/
def retained (entries : List EnvironmentEntry) : ℕ :=
  ((entries.filter fun entry => !entry.isMatch).map EnvironmentEntry.bytes).sum

theorem retained_cons (entry : EnvironmentEntry) (rest : List EnvironmentEntry) :
    retained (entry :: rest) = (if entry.isMatch then 0 else entry.bytes) + retained rest := by
  cases isMatch : entry.isMatch <;> simp [retained, isMatch]

theorem countEntry_spec (layout : EnvironmentLayout) (entry : EnvironmentEntry) :
    Within Quiet (countEntry layout entry) state
      (fun counted _ => counted.capacity = layout.capacity ∧
        counted.retainedBytes = layout.retainedBytes + if entry.isMatch then 0 else entry.bytes) := by
  unfold countEntry
  split
  · exact .found fun _ _ => .pure ⟨rfl, rfl⟩
  · exact .found fun total sum => .found fun _ _ => .pure ⟨rfl, (add_eq_some.mp sum).2.symm⟩

section Reading

variable (name : List UInt8) (reads : region.Reads bytes reader state)
include reads

theorem readerFill_spec {offset : ℕ} (inside : offset < region.capacity) :
    Within Quiet (readerFill machine reader offset) state
      (fun filled next => region.Reads bytes filled next ∧ filled.cacheValid = true ∧
        filled.cacheBase ≤ offset ∧ offset - filled.cacheBase < filled.cache.length) := by
  unfold readerFill
  split
  next =>
    have bounded := Nat.mod_le offset environmentCacheBytes
    have rest := Nat.mod_lt offset (by decide : environmentCacheBytes > 0)
    generalize baseEq : offset - offset % environmentCacheBytes = base
    dsimp only
    generalize amountEq : min (reader.capacity - base) environmentCacheBytes = amount
    obtain ⟨serves, stores⟩ := reads
    have capacity := serves.capacity
    have fits : base + amount ≤ region.capacity := by omega
    refine onMachine_readFar_spec.bind ?_
    intro found next quiet loaded
    rw [serves.segment, Region.footprint_eq (by omega) fits] at loaded
    have size : found.length = amount := by simp [loaded, load]
    refine .pure ⟨⟨⟨serves.segment, capacity, fun _ index bound => ?_⟩, stores.of_quiet quiet⟩, rfl, by dsimp only; omega,
      by dsimp only; omega⟩
    dsimp only at bound ⊢
    rw [size] at bound
    have here := stores (base + index) (by omega)
    simp only [loaded, load, List.getD_eq_getElem?_getD, List.getElem?_map]
    rw [List.getElem?_range' bound]
    simpa [Nat.add_assoc] using here
  next held =>
    simp only [not_or, Bool.not_eq_false, Nat.not_lt, ge_iff_le, Nat.not_le] at held
    exact .pure ⟨reads, held⟩

/-- A byte is read from the region or not at all. -/
theorem readerByte_spec {offset : ℕ} :
    Within Quiet (readerByte machine reader offset) state
      (fun result next => result.1 = bytes offset ∧ region.Reads bytes result.2 next) := by
  refine .unless fun inside => ?_
  have within : offset < region.capacity := by
    rw [← reads.serves.capacity]
    omega
  refine (readerFill_spec reads within).bind ?_
  rintro filled next quiet ⟨reads', valid, low, high⟩
  refine .pure ⟨?_, reads'⟩
  rw [reads'.serves.cached valid _ high]
  exact congrArg bytes (by omega)

theorem inspectEntryLoop_spec (rounds : ℕ) (scan : EntryScan) :
    Within Quiet (inspectEntryLoop machine name rounds scan reader) state
      (fun result next => result.1 = scanBytes bytes name rounds scan ∧ region.Reads bytes result.2 next) := by
  induction rounds generalizing scan reader state with
  | zero => exact .refl state
  | succ rounds ih =>
    refine (readerByte_spec reads).bind ?_
    rintro ⟨byte, reader'⟩ middle quiet ⟨rfl, reads'⟩
    simp only [scanBytes]
    split
    · exact .pure ⟨rfl, reads'⟩
    · exact ih reads' _

theorem inspectEntry_spec (start : ℕ) :
    Within Quiet (inspectEntry machine name reader start) state
      (fun result next => result.1 = entryAt region bytes name start ∧ region.Reads bytes result.2 next) := by
  refine (readerByte_spec reads).bind ?_
  rintro ⟨byte, reader'⟩ middle quiet ⟨rfl, reads'⟩
  simp only [entryAt]
  split
  · exact .pure ⟨rfl, reads'⟩
  · rw [reads'.serves.capacity]
    refine (inspectEntryLoop_spec name reads' _ _).bind ?_
    rintro ⟨_, reader''⟩ next _ ⟨rfl, reads''⟩
    exact .pure ⟨rfl, reads''⟩

theorem scanEntriesLoop_spec (rounds cursor : ℕ) (prepared : EnvironmentLayout) :
    Within Quiet (scanEntriesLoop machine name rounds cursor prepared reader) state
      (fun result next => region.Reads bytes result.2 next ∧
        result.1.capacity = prepared.capacity ∧ ∃ entries, Listed (entryAt region bytes name) cursor entries ∧
          result.1.retainedBytes = prepared.retainedBytes + retained entries) := by
  induction rounds generalizing cursor prepared reader state with
  | zero => exact .refl state
  | succ rounds ih =>
    refine (inspectEntry_spec name reads cursor).bind ?_
    rintro ⟨entry, reader'⟩ middle _ ⟨rfl, reads'⟩
    dsimp only
    split
    next closing =>
      have listed : Listed (entryAt region bytes name) cursor [] := .stop closing
      split
      · refine (readerByte_spec reads').bind ?_
        rintro ⟨byte, reader''⟩ next _ ⟨_, reads''⟩
        exact .unless fun _ => .pure ⟨reads'', rfl, [], listed, rfl⟩
      · exact .pure ⟨reads', rfl, [], listed, rfl⟩
    next open_ =>
      refine (countEntry_spec prepared (entryAt region bytes name cursor)).bind ?_
      rintro counted following quiet ⟨capacity, total⟩
      refine .found fun cursor' sum => .unless fun _ => ?_
      obtain ⟨_, rfl⟩ := add_eq_some.mp sum
      apply wp_mono_done (ih (reads'.of_quiet quiet) _ counted)
      rintro result next ⟨quiet', reads'', capacity', entries, listed, total'⟩
      refine ⟨quiet', reads'', capacity'.trans capacity, _, .entry open_ listed, ?_⟩
      rw [total', total, retained_cons]
      omega

theorem scanArgv0Loop_spec (rounds cursor : ℕ) :
    Within Quiet (scanArgv0Loop machine rounds cursor reader) state (fun _ _ => True) := by
  induction rounds generalizing cursor reader state with
  | zero => exact .refl state
  | succ rounds ih =>
    refine (readerByte_spec reads).bind ?_
    rintro ⟨byte, reader'⟩ middle quiet ⟨_, reads'⟩
    dsimp only
    split
    · exact .pure trivial
    · exact ih reads' _

theorem stageBytes_spec (amount offset : ℕ) :
    Within Quiet (stageBytes machine amount offset reader) state (fun result => region.Reads bytes result.2) := by
  induction amount generalizing offset reader state with
  | zero => exact .pure reads
  | succ amount ih =>
    refine (readerByte_spec reads).bind ?_
    rintro ⟨byte, reader'⟩ middle quiet ⟨_, reads'⟩
    exact (ih reads' (offset + 1)).bind fun _ _ _ reads'' => .pure reads''

end Reading

/-- The measure of an environment is the measure of the entries its bytes list. -/
theorem scanLayout_spec (name : List UInt8) (stores : region.Stores bytes state) :
    Within Quiet (scanLayout machine region.segment region.capacity name) state
      (fun layout _ => layout.capacity = region.capacity ∧
        ∃ entries, Listed (entryAt region bytes name) 0 entries ∧ layout.retainedBytes = retained entries) := by
  refine (scanEntriesLoop_spec name ⟨region.serves_start bytes, stores⟩ (region.capacity + 1) 0 _).bind ?_
  rintro ⟨prepared, reader⟩ scanned _ ⟨reads, capacity, entries, listed, total⟩
  refine .unless fun _ => (readerByte_spec reads).bind ?_
  rintro ⟨low, reader'⟩ first _ ⟨_, reads'⟩
  refine (readerByte_spec reads').bind ?_
  rintro ⟨high, reader''⟩ second _ ⟨_, reads''⟩
  refine .unless fun _ => (scanArgv0Loop_spec reads'' _ _).bind ?_
  exact fun cursor next _ _ => .pure ⟨capacity, entries, listed, by simpa using total⟩

section Filling

variable {source target : Region}

/-- A range inside the target is written there, wherever the write stops. -/
theorem writeRange_spec {cursor : ℕ} (values : List UInt8) (fits : cursor + count ≤ target.capacity) :
    Within target.Filled (writeRange machine target.segment cursor values count) state
      (fun cursor' _ => cursor' = cursor + count) := by
  have small : target.capacity ≤ 0x8000 := target.small
  unfold writeRange
  split
  next none => exact .pure (by omega)
  next some =>
    refine .found fun total sum => .unless fun _ => ?_
    obtain ⟨_, rfl⟩ := add_eq_some.mp sum
    have inside : ∀ address, (address < target.base ∨ target.base + target.capacity ≤ address) →
        address ∉ machine.footprint target.segment (ofNat cursor) count := by
      intro address outside
      rw [Region.footprint_eq some fits, List.mem_range'_1]
      omega
    simp only [Within, onMachine, Memory.onGuest, wp_rules]
    apply wp_mono machine.writeFar_spec
    · rintro _ guest ⟨stored, -⟩
      refine ⟨⟨rfl, fun address outside => ?_⟩, by rw [Nat.mod_eq_of_lt (by omega)]⟩
      dsimp only
      rw [stored]
      exact save_agreeOff _ _ _ _ (inside address outside)
    · intro _ guest agree
      exact ⟨rfl, fun address outside => agree address (inside address outside)⟩

variable (apart : source.base + source.capacity ≤ target.base ∨ target.base + target.capacity ≤ source.base)
include apart

theorem Region.Reads.of_filled {next : ArenaState} (reads : source.Reads bytes reader state)
    (filled : target.Filled state next) : source.Reads bytes reader next := by
  refine ⟨reads.serves, fun offset inside => ?_⟩
  rw [filled.frame _ (by omega)]
  exact reads.stores offset inside

variable {destination : ℕ} (reads : source.Reads bytes reader state)
include reads

theorem copyGuestRangeLoop_spec {rounds remaining : ℕ} (offset : ℕ) (enough : remaining ≤ rounds)
    (fits : destination + remaining ≤ target.capacity) :
    Within target.Filled (copyGuestRangeLoop machine target.segment rounds offset remaining destination reader) state
      (fun result next => result.1 = destination + remaining ∧ source.Reads bytes result.2 next) := by
  induction rounds generalizing offset remaining destination reader state with
  | zero => exact .pure ⟨by dsimp only; omega, reads⟩
  | succ rounds ih =>
    unfold copyGuestRangeLoop
    split
    next none => exact .pure ⟨by dsimp only; omega, reads⟩
    next some =>
      have piece : min remaining environmentCacheBytes ≤ remaining := Nat.min_le_left _ _
      have positive : 0 < min remaining environmentCacheBytes := by simp only [environmentCacheBytes]; omega
      dsimp only
      generalize min remaining environmentCacheBytes = amount at piece positive
      refine ((stageBytes_spec reads amount offset).weaken fun _ => .of_quiet).bind ?_
      rintro ⟨staging, reader'⟩ staged _ reads'
      refine (writeRange_spec staging (by omega : destination + amount ≤ target.capacity)).bind ?_
      rintro _ written filled rfl
      apply wp_mono_done (ih (reads'.of_filled apart filled) (offset + amount) (by omega) (by omega))
      rintro result next ⟨rest, total, reads''⟩
      exact ⟨rest, by omega, reads''⟩

/-- A copy advances by its length and stays in the target. -/
theorem copyGuestRange_spec (offset : ℕ) (fits : destination + count ≤ target.capacity) :
    Within target.Filled (copyGuestRange machine reader offset count target.segment destination) state
      (fun result next => result.1 = destination + count ∧ source.Reads bytes result.2 next) :=
  copyGuestRangeLoop_spec apart reads offset (Nat.le_refl count) fits

/-- The second pass copies as many bytes as the first one counted. -/
theorem copyEntriesLoop_spec (name : List UInt8) {rounds cursor : ℕ} {entries : List EnvironmentEntry}
    (listed : Listed (entryAt source bytes name) cursor entries)
    (fits : destination + retained entries ≤ target.capacity) :
    Within target.Filled (copyEntriesLoop machine name target.segment rounds cursor destination reader) state
      (fun result next => result.1 = destination + retained entries ∧ source.Reads bytes result.2 next) := by
  induction rounds generalizing cursor destination entries reader state with
  | zero => exact .of_quiet (.refl state)
  | succ rounds ih =>
    refine ((inspectEntry_spec name reads cursor).weaken fun _ => .of_quiet).bind ?_
    rintro ⟨_, reader'⟩ middle _ ⟨rfl, reads'⟩
    dsimp only
    cases listed with
    | stop closing =>
      rw [if_pos closing]
      exact .pure ⟨rfl, reads'⟩
    | @entry _ rest open_ later =>
      rw [if_neg open_]
      rw [retained_cons] at fits ⊢
      split
      next isMatch =>
        rw [if_pos isMatch] at fits
        rw [Nat.zero_add] at fits ⊢
        exact ih reads' later fits
      next other =>
        rw [if_neg other] at fits
        refine (copyGuestRange_spec apart reads' _ (by omega)).bind ?_
        rintro ⟨_, reader''⟩ copied _ ⟨rfl, reads''⟩
        rw [← Nat.add_assoc]
        exact ih reads'' later (by omega)

end Filling

variable (action : EnvironmentMutationAction)

/-- The bytes that the new entry takes. -/
def entryPayload (nameLength valueLength : ℕ) : ℕ :=
  if action = .set then nameLength + 1 + valueLength + 1 else 0

/-- The bytes that the replacement takes. -/
def payloadOf (layout : EnvironmentLayout) (action : EnvironmentMutationAction) (nameLength valueLength : ℕ) : ℕ :=
  layout.retainedBytes + entryPayload action nameLength valueLength + closingZeros (resultEntries layout action) + 2 +
    layout.argv0Bytes

theorem addEntryBytes_spec (payload nameLength valueLength : ℕ) :
    Within Quiet (addEntryBytes action payload nameLength valueLength) state
      (fun total _ => total = payload + entryPayload action nameLength valueLength) := by
  unfold addEntryBytes entryPayload
  split
  · refine .unless fun _ => .found fun _ named => .found fun _ equated => .found fun _ valued => ?_
    refine (within_demand _ _).mono fun _ _ closed => ?_
    rw [add_eq_some] at named equated valued closed
    omega
  · exact .pure rfl

theorem addClosingBytes_spec (payload entries argv0Bytes : ℕ) :
    Within Quiet (addClosingBytes payload entries argv0Bytes) state
      (fun total _ => total = payload + closingZeros entries + 2 + argv0Bytes) := by
  refine .found fun _ closed => .found fun _ trailed => (within_demand _ _).mono fun _ _ whole => ?_
  rw [add_eq_some] at closed trailed whole
  omega

variable {action : EnvironmentMutationAction}

/-- The paragraphs asked for hold the payload. -/
theorem calculateReplacementSize_spec {layout : EnvironmentLayout} {nameLength valueLength : ℕ} :
    Within Quiet (calculateReplacementSize layout action nameLength valueLength) state
      (fun size _ => size.1 = payloadOf layout action nameLength valueLength ∧
        size.1 ≤ size.2.toNat * 16 ∧ size.2.toNat * 16 ≤ environmentMaxBlockBytes ∧ size.2 ≠ 0) := by
  refine (addEntryBytes_spec action _ _ _).bind fun _ _ _ entered => ?_
  refine (addClosingBytes_spec _ _ _).bind fun payload _ _ total => ?_
  subst entered
  refine .unless fun _ => .found fun _ rounded => .unless fun fits => ?_
  obtain ⟨_, rfl⟩ := add_eq_some.mp rounded
  simp only [environmentMaxBlockBytes, environmentParagraphBytes, gt_iff_lt, not_or, Nat.not_lt] at fits ⊢
  have narrow : (ofNat ((payload + 15) / 16 * 16 / 16)).toNat = (payload + 15) / 16 := by
    rw [toNat_ofNat']
    omega
  refine .pure ⟨total, by rw [narrow]; omega, by rw [narrow]; omega, fun none => ?_⟩
  dsimp only at none
  rw [none] at narrow
  change 0 = _ at narrow
  omega

theorem writeEntry_spec {target : Region} {cursor : ℕ} (action : EnvironmentMutationAction) (name value : List UInt8)
    (fits : cursor + entryPayload action name.length value.length ≤ target.capacity) :
    Within target.Filled (writeEntry machine target.segment action cursor name value) state
      (fun cursor' _ => cursor' = cursor + entryPayload action name.length value.length) := by
  unfold writeEntry entryPayload at *
  split
  next isSet =>
    rw [if_pos isSet] at fits
    unfold writeUpperName
    refine (writeRange_spec _ (by omega)).bind ?_
    rintro _ named _ rfl
    refine (writeRange_spec _ (by omega)).bind ?_
    rintro _ equated _ rfl
    refine (writeRange_spec _ (by omega)).bind ?_
    rintro _ valued _ rfl
    apply wp_mono_done (writeRange_spec _ (by omega))
    rintro _ next ⟨filled, rfl⟩
    exact ⟨filled, by omega⟩
  next => exact .pure rfl

/-- The replacement is built inside the target, which has room for the whole payload. -/
theorem buildReplacement_spec {source target : Region}
    (apart : source.base + source.capacity ≤ target.base ∨ target.base + target.capacity ≤ source.base)
    {layout : EnvironmentLayout} {name value : List UInt8}
    {entries : List EnvironmentEntry} (payload : ℕ) (capacity : layout.capacity = source.capacity)
    (listed : Listed (entryAt source bytes name) 0 entries) (counted : layout.retainedBytes = retained entries)
    (fits : payloadOf layout action name.length value.length ≤ target.capacity) (stores : source.Stores bytes state) :
    Within target.Filled (buildReplacement machine source.segment layout target.segment action name value payload) state
      (fun _ _ => True) := by
  simp only [payloadOf, counted] at fits
  unfold buildReplacement
  rw [capacity]
  refine (copyEntriesLoop_spec apart ⟨source.serves_start bytes, stores⟩ name listed (by omega)).bind ?_
  rintro ⟨_, reader⟩ copied _ ⟨rfl, reads⟩
  refine (writeEntry_spec action name value (by omega)).bind ?_
  rintro _ written filled rfl
  refine (writeRange_spec _ (by omega)).bind ?_
  rintro _ closed filled' rfl
  replace reads := (reads.of_filled apart filled).of_filled apart filled'
  refine ((readerByte_spec reads).weaken fun _ => .of_quiet).bind ?_
  rintro ⟨low, reader'⟩ first _ ⟨_, reads'⟩
  refine ((readerByte_spec reads').weaken fun _ => .of_quiet).bind ?_
  rintro ⟨high, reader''⟩ second _ ⟨_, reads''⟩
  refine (writeRange_spec _ (by omega)).bind ?_
  rintro _ trailed filledTrailer rfl
  refine (copyGuestRange_spec apart (reads''.of_filled apart filledTrailer) _ (by omega)).bind ?_
  exact fun _ _ _ _ => (within_failWhen _ _).mono fun _ _ _ => trivial

theorem compareGuestLoop_spec {first second : Region} {bytes' : ℕ → UInt8} {reader' : EnvironmentReader}
    (count offset offset' : ℕ) (reads : first.Reads bytes reader state) (reads' : second.Reads bytes' reader' state) :
    Within Quiet (compareGuestLoop machine count offset offset' reader reader') state (fun _ _ => True) := by
  induction count generalizing offset offset' reader reader' state with
  | zero => exact .pure trivial
  | succ count ih =>
    refine (readerByte_spec reads).bind ?_
    rintro ⟨left, following⟩ middle quiet ⟨_, reading⟩
    refine (readerByte_spec (reads'.of_quiet quiet)).bind ?_
    rintro ⟨right, following'⟩ compared quiet' ⟨_, reading'⟩
    exact .unless fun _ => ih _ _ (reading.of_quiet quiet') reading'

end DosC32.EnvironmentMutation
