import DosC32.Core.Run
import DosC32.Model.ExecJournal
import DosC32.Proofs.Machine

/-! # The undo journal restores guest memory

The records of a journal are an undo log over guest memory. Far addresses may alias through
overlapping segments and the A20 line, so one address may occur in several records and several
times in one record; undoing newest first restores it all the same.
-/

namespace DosC32.Journal

open Effect Store Function List

variable (machine : Machine)

/-- The undo step that a record stands for. -/
def image (record : JournalRecord) : Image ℕ UInt8 :=
  ⟨machine.footprint record.segment record.offset record.count.toNat, ofFn record.oldBytes⟩

/-- The records in use, oldest first, as an undo log. -/
def images (journal : Journal) : List (Image ℕ UInt8) :=
  (range journal.recordCount).map fun index => image machine (journal.records (Fin.ofNat 16 index))

/-- Forget the records from `count` on. -/
def truncate (count : ℕ) (journal : Journal) : Journal := { journal with
  recordCount := count
  records := fun index => if index.val < count then journal.records index else .clear }

variable {journal : Journal} {record : JournalRecord} {count : ℕ}

theorem eq_clear (isClear : record.isClear) : record = .clear := by
  obtain ⟨segment, offset, count, reserved, oldBytes⟩ := record
  obtain ⟨rfl, rfl, rfl, reservedZero, bytesZero⟩ := isClear
  simp only [JournalRecord.clear, JournalRecord.mk.injEq, true_and]
  exact ⟨funext reservedZero, funext bytesZero⟩

theorem isClear_clear : JournalRecord.clear.isClear := ⟨rfl, rfl, rfl, fun _ => rfl, fun _ => rfl⟩

private theorem ofNat_ne {left right : ℕ} (less : left < right) (bound : right < 16) :
    Fin.ofNat 16 left ≠ Fin.ofNat 16 right := by
  intro same
  have values := congrArg Fin.val same
  simp only [Fin.val_ofNat] at values
  omega

theorem truncate_truncate {few many : ℕ} (le : few ≤ many) :
    (journal.truncate many).truncate few = journal.truncate few := by
  simp only [truncate, Journal.mk.injEq, true_and]
  funext index
  by_cases low : index.val < few
  · simp [low, Nat.lt_of_lt_of_le low le]
  · simp [low]

theorem truncate_self (encoding : journal.hasValidEncoding) : journal.truncate journal.recordCount = journal := by
  obtain ⟨identity, context, limit, count, state, constructed, a20, reserved, records⟩ := journal
  simp only [truncate, Journal.mk.injEq, true_and]
  funext index
  by_cases low : index.val < count
  · exact if_pos low
  · rw [if_neg low]
    exact (eq_clear ((encoding.2.2.2.2 index).2 (Nat.not_lt.mp low))).symm

theorem truncate_push (le : count ≤ journal.recordCount) (room : journal.recordCount < 16) :
    (push record journal).truncate count = journal.truncate count := by
  simp only [truncate, push, Journal.mk.injEq, true_and]
  funext index
  by_cases low : index.val < count
  · have other : index ≠ Fin.ofNat 16 journal.recordCount := by
      intro same
      have values := congrArg Fin.val same
      simp only [Fin.val_ofNat] at values
      omega
    rw [if_pos low, if_pos low, update_of_ne other]
  · rw [if_neg low, if_neg low]

theorem pop_eq (encoding : journal.hasValidEncoding) (some : 0 < journal.recordCount) :
    pop journal = journal.truncate (journal.recordCount - 1) := by
  have bound : journal.recordCount ≤ 16 := encoding.1.2.2.2.2
  simp only [truncate, pop, Journal.mk.injEq, true_and]
  funext index
  by_cases last : index = Fin.ofNat 16 (journal.recordCount - 1)
  · subst last
    rw [update_self, if_neg]
    simp only [Fin.val_ofNat]
    omega
  · rw [update_of_ne last]
    by_cases low : index.val < journal.recordCount - 1
    · rw [if_pos low]
    · have high : ¬ index.val < journal.recordCount := by
        intro inside
        apply last
        apply Fin.ext
        simp only [Fin.val_ofNat]
        omega
      rw [if_neg low, eq_clear ((encoding.2.2.2.2 index).2 (Nat.not_lt.mp high))]

theorem images_push (room : journal.recordCount < 16) :
    images machine (push record journal) = images machine journal ++ [image machine record] := by
  simp only [images, push, range_succ, map_append, map_cons, map_nil, update_self]
  congr 1
  refine map_congr_left fun index inside => ?_
  rw [update_of_ne (ofNat_ne (mem_range.mp inside) room)]

theorem images_truncate (le : count ≤ journal.recordCount) (bound : journal.recordCount ≤ 16) :
    images machine (journal.truncate count) = (images machine journal).take count := by
  simp only [images, truncate]
  rw [← map_take, take_range, Nat.min_eq_left le]
  refine map_congr_left fun index inside => ?_
  have low := mem_range.mp inside
  rw [if_pos]
  simp only [Fin.val_ofNat]
  omega

theorem images_length : (images machine journal).length = journal.recordCount := by simp [images]

/-- The last record is the last undo step. -/
theorem images_last (some : 0 < journal.recordCount) (bound : journal.recordCount ≤ 16) :
    images machine journal = images machine (journal.truncate (journal.recordCount - 1)) ++
      [image machine (journal.records (Fin.ofNat 16 (journal.recordCount - 1)))] := by
  rw [images_truncate machine (by omega) bound]
  obtain ⟨count, shape⟩ := Nat.exists_eq_succ_of_ne_zero (Nat.pos_iff_ne_zero.mp some)
  simp [images, shape, range_succ]

variable (encoding : journal.hasValidEncoding) (staging : journal.state = journalStateStaging)
include encoding staging

/-- A journal in use with other records, and maybe in another state. -/
private theorem encoding_rewritten {state : UInt8} {records : Fin 16 → JournalRecord}
    (inUse : stateIsValid state ∧ state ≠ journalStateUninitialized) (bound : count ≤ 16)
    (closed : state = journalStateSealed ∨ state = journalStateAborted → count = 0)
    (each : ∀ index : Fin 16, (index.val < count → (records index).isValid) ∧
      (count ≤ index.val → (records index).isClear)) :
    ({ journal with state, recordCount := count, records } : Journal).hasValidEncoding := by
  obtain ⟨⟨constructed, reserved, a20, _, _⟩, _, binding, _, _⟩ := encoding
  have live : journal.state ≠ journalStateUninitialized := by
    rw [staging]
    decide
  exact ⟨⟨constructed, reserved, a20, inUse.1, bound⟩, fun other => (inUse.2 other).elim, fun _ => binding live,
    closed, each⟩

theorem encoding_truncate (le : count ≤ journal.recordCount) : (journal.truncate count).hasValidEncoding := by
  refine encoding_rewritten encoding staging ?_ (Nat.le_trans le encoding.1.2.2.2.2) ?_ fun index =>
    ⟨fun low => ?_, fun high => ?_⟩
  · rw [staging]
    decide
  · rw [staging]
    exact fun closed => absurd closed (by decide)
  · rw [if_pos low]
    exact (encoding.2.2.2.2 index).1 (Nat.lt_of_lt_of_le low le)
  · rw [if_neg (Nat.not_lt.mpr high)]
    exact isClear_clear

theorem encoding_push (room : journal.recordCount < 16) (valid : record.isValid) :
    (push record journal).hasValidEncoding := by
  have records := encoding.2.2.2.2
  refine encoding_rewritten encoding staging ?_ room ?_ fun index => ⟨fun low => ?_, fun high => ?_⟩
  · rw [staging]
    decide
  · rw [staging]
    exact fun closed => absurd closed (by decide)
  · by_cases last : index = Fin.ofNat 16 journal.recordCount
    · rw [last, update_self]
      exact valid
    · rw [update_of_ne last]
      refine (records index).1 (Nat.lt_of_le_of_ne (Nat.le_of_lt_succ low) (fun same => last (Fin.ext ?_)))
      rw [Fin.val_ofNat, same, Nat.mod_eq_of_lt room]
  · rw [update_of_ne]
    · exact (records index).2 (by omega)
    · intro same
      rw [same, Fin.val_ofNat] at high
      omega

theorem encoding_poison : (poison journal).hasValidEncoding :=
  encoding_rewritten encoding staging (by decide) encoding.1.2.2.2.2 (fun closed => absurd closed (by decide))
    encoding.2.2.2.2

theorem encoding_abort (empty : journal.recordCount = 0) :
    ({ journal with state := journalStateAborted } : Journal).hasValidEncoding :=
  encoding_rewritten encoding staging (by decide) encoding.1.2.2.2.2 (fun _ => empty) encoding.2.2.2.2

omit encoding staging

/-- A journal that could not restore what it displaced: well encoded, and closed to every call. -/
def Quarantined (journal : Journal) : Prop := journal.hasValidEncoding ∧ journal.state = journalStatePoisoned

/-- What a call that fails leaves behind: everything as it was, or a journal that is closed. -/
def Failed (state next : JournalState) : Prop :=
  (next.journal = state.journal ∧ next.guest.memory = state.guest.memory) ∨ Quarantined next.journal

theorem Failed.refl (state : JournalState) : Failed state state := .inl ⟨rfl, rfl⟩

/-- A journal that accepted the machine passed with a call. -/
structure Bound (journal : Journal) (machine : Machine) : Prop where
  encoding : journal.hasValidEncoding
  a20 : a20Byte machine.a20Enabled = journal.a20Enabled
  healthy : journal.state ≠ journalStatePoisoned

variable (machineIdentity : ℕ)

theorem validateBinding_spec (state : JournalState) :
    wp (validateBinding machineIdentity machine) state (fun _ next => next = state ∧ Bound state.journal machine)
      (fun _ next => next = state) := by
  simp only [validateBinding, wp_all]
  intro accepted healthy _ _ _ same
  simp only [not_or, not_not] at accepted same
  exact ⟨accepted.1, same.2, healthy⟩

private theorem ofFn_getD {bytes : List UInt8} (fits : bytes.length ≤ 64) :
    List.ofFn (fun index : Fin 64 => bytes.getD index.val 0) = bytes ++ List.replicate (64 - bytes.length) 0 := by
  refine ext_getElem (by simp [fits]) (fun index _ _ => ?_)
  rw [List.getElem_ofFn, List.getElem_append]
  split
  next inside => simp [getD, inside]
  next outside => simp [getD, Nat.not_lt.mp outside]

variable (segment offset : UInt16) (source : List UInt8)

/-- Staging publishes exactly one record, which undoes the write it stands for. -/
theorem stageReplaceFar_spec (count : ℕ) (state : JournalState) :
    wp (stageReplaceFar machineIdentity machine segment offset source count) state
      (fun _ next => Bound state.journal machine ∧ state.journal.state = journalStateStaging ∧
        state.journal.recordCount < 16 ∧ ∃ record : JournalRecord, record.isValid ∧
          next.journal = push record state.journal ∧
          save next.guest.memory (image machine record).addresses (image machine record).values = state.guest.memory)
      (fun _ => Failed state) := by
  simp only [stageReplaceFar, wp_bind]
  apply wp_mono (validateBinding_spec machine machineIdentity state)
  · rintro _ state ⟨rfl, bound⟩
    simp only [wp_all, onGuest, Failed.refl]
    intro staging some small notFull
    simp only [not_not, not_or, Nat.not_lt, journalRecordBytes] at staging some small
    have room : state.journal.recordCount < 16 := Nat.lt_of_le_of_ne bound.encoding.1.2.2.2.2 notFull
    apply wp_mono machine.replaceFar_spec
    · rintro bytes guest ⟨loaded, agree, _⟩
      have length : bytes.length = count := by
        rw [loaded, load, length_map, machine.footprint_length]
      have narrow : (UInt8.ofNat count).toNat = count := by
        rw [UInt8.toNat_ofNat']
        omega
      refine ⟨bound, staging, room, _, ⟨?_, ?_, fun _ => rfl, fun index high => ?_⟩, rfl, ?_⟩
      · intro zero
        rw [← UInt8.toNat_inj, narrow] at zero
        exact some.1 zero
      · change (UInt8.ofNat count).toNat ≤ 64
        rw [narrow]
        exact small
      · change (UInt8.ofNat count).toNat ≤ index.val at high
        rw [narrow] at high
        simp [getD, length, high]
      · simp only [image, narrow]
        rw [ofFn_getD (length ▸ small), save_append_values _ (Nat.le_of_eq (by rw [machine.footprint_length, length]))]
        rw [loaded]
        exact save_load agree
    · rintro error guest kept
      cases error with
      | rollbackFailed => exact .inr ⟨encoding_poison bound.encoding staging, rfl⟩
      | _ => exact .inl ⟨rfl, kept (by decide)⟩
  · rintro _ _ rfl
    exact .refl _

/-- Restoring undoes the records from `targetCount` on, newest first. -/
theorem restoreLoop_spec {targetCount rounds : ℕ} (state : JournalState) (encoding : state.journal.hasValidEncoding)
    (staging : state.journal.state = journalStateStaging) (le : targetCount ≤ state.journal.recordCount)
    (enough : state.journal.recordCount ≤ targetCount + rounds) :
    wp (restoreLoop machine targetCount rounds) state
      (fun _ next => next.journal = state.journal.truncate targetCount ∧
        next.guest.memory = unwind state.guest.memory ((images machine state.journal).drop targetCount))
      (fun _ next => ∃ count, count ≤ state.journal.recordCount ∧
        next.journal = poison (state.journal.truncate count)) := by
  induction rounds generalizing state with
  | zero =>
    have same : targetCount = state.journal.recordCount := by omega
    rw [restoreLoop, wp_pure, same, truncate_self encoding,
      drop_of_length_le (Nat.le_of_eq (images_length machine)), unwind_nil]
    exact ⟨rfl, rfl⟩
  | succ rounds ih =>
    have bound : state.journal.recordCount ≤ 16 := encoding.1.2.2.2.2
    simp only [restoreLoop, wp_split]
    refine ⟨fun more => ?_, fun done => ?_⟩
    · have some : 0 < state.journal.recordCount := by omega
      simp only [onGuest, wp_focus]
      apply wp_mono machine.replaceFar_spec
      · rintro _ guest ⟨_, _, restored⟩
        simp only [modifyJournal, wp_rules, pop_eq encoding some]
        have shorter := ih ⟨state.journal.truncate (state.journal.recordCount - 1), guest⟩
          (encoding_truncate encoding staging (by omega)) staging (Nat.le_sub_one_of_lt more)
          (by change state.journal.recordCount - 1 ≤ _; omega)
        apply wp_mono shorter
        · rintro _ next ⟨journal, memory⟩
          refine ⟨by rw [journal, truncate_truncate (by omega)], ?_⟩
          rw [memory, restored, images_last machine some bound, drop_append_of_le_length, unwind_append]
          · rfl
          · rw [images_length]
            exact Nat.le_sub_one_of_lt more
        · rintro _ next ⟨count, le, journal⟩
          change count ≤ state.journal.recordCount - 1 at le
          exact ⟨count, by omega, by rw [journal, truncate_truncate le]⟩
      · rintro _ guest _
        refine ⟨state.journal.recordCount, Nat.le_refl _, ?_⟩
        rw [truncate_self encoding]
    · have same : targetCount = state.journal.recordCount := by omega
      rw [same, truncate_self encoding, drop_of_length_le (Nat.le_of_eq (images_length machine)), unwind_nil]
      exact ⟨rfl, rfl⟩

/-- What `restore_to_record_count` does to a staging journal. -/
theorem restoreToRecordCount_spec {targetCount : ℕ} (state : JournalState)
    (encoding : state.journal.hasValidEncoding) (staging : state.journal.state = journalStateStaging)
    (le : targetCount ≤ state.journal.recordCount) :
    wp (restoreToRecordCount machine targetCount) state
      (fun _ next => next.journal = state.journal.truncate targetCount ∧
        next.guest.memory = unwind state.guest.memory ((images machine state.journal).drop targetCount))
      (fun _ next => Quarantined next.journal) := by
  simp only [restoreToRecordCount, wp_rules]
  refine wp_mono_failed (restoreLoop_spec machine state encoding staging le (Nat.le_add_left _ _)) ?_
  rintro _ next ⟨count, fewer, poisoned⟩
  rw [Quarantined, poisoned]
  exact ⟨encoding_poison (encoding_truncate encoding staging fewer) staging, rfl⟩

/-- `state` arises from the staging journal `start` by appending records that undo the difference. -/
structure Extends (start state : JournalState) : Prop where
  encoding : state.journal.hasValidEncoding
  staging : state.journal.state = journalStateStaging
  le : start.journal.recordCount ≤ state.journal.recordCount
  journal : state.journal.truncate start.journal.recordCount = start.journal
  memory : unwind state.guest.memory ((images machine state.journal).drop start.journal.recordCount) =
    start.guest.memory

namespace Extends

variable {machine} {start state next : JournalState}

theorem refl (encoding : start.journal.hasValidEncoding) (staging : start.journal.state = journalStateStaging) :
    Extends machine start start := by
  refine ⟨encoding, staging, Nat.le_refl _, truncate_self encoding, ?_⟩
  rw [drop_of_length_le (Nat.le_of_eq (images_length machine)), unwind_nil]

theorem push (extends_ : Extends machine start state) (room : state.journal.recordCount < 16) (valid : record.isValid)
    (journal : next.journal = state.journal.push record)
    (memory : save next.guest.memory (image machine record).addresses (image machine record).values =
      state.guest.memory) : Extends machine start next := by
  have more : next.journal.recordCount = state.journal.recordCount + 1 := by rw [journal]; rfl
  have le := extends_.le
  refine ⟨?_, ?_, by omega, ?_, ?_⟩
  · rw [journal]
    exact encoding_push extends_.encoding extends_.staging room valid
  · rw [journal]
    exact extends_.staging
  · rw [journal, truncate_push le room, extends_.journal]
  · rw [journal, images_push machine room, drop_append_of_le_length (by rw [images_length]; exact le),
      unwind_append, ← extends_.memory, ← memory]
    rfl

/-- Undoing everything leads back to the same memory from both. -/
theorem unwind_images (extends_ : Extends machine start state) :
    unwind state.guest.memory (images machine state.journal) =
      unwind start.guest.memory (images machine start.journal) := by
  have first : images machine start.journal = (images machine state.journal).take start.journal.recordCount := by
    rw [← images_truncate machine extends_.le extends_.encoding.1.2.2.2.2, extends_.journal]
  rw [first, ← extends_.memory, ← unwind_append, take_append_drop]

end Extends

/-- A span either extends the journal or is undone as a whole. -/
theorem spanLoop_spec {start : JournalState} (count rounds completed : ℕ) (state : JournalState)
    (extends_ : Extends machine start state) :
    wp (spanLoop machineIdentity machine segment offset source count start.journal.recordCount rounds completed) state
      (fun _ => Extends machine start) (fun _ => Failed start) := by
  induction rounds generalizing state completed with
  | zero =>
    rw [spanLoop, wp_pure]
    exact extends_
  | succ rounds ih =>
    simp only [spanLoop, wp_ite, wp_bind, wp_attempt, wp_pure]
    refine ⟨fun _ => ?_, fun _ => extends_⟩
    apply wp_mono (stageReplaceFar_spec machine machineIdentity segment _ _ _ state)
    · rintro _ next ⟨_, _, room, record, valid, journal, memory⟩
      exact ih _ next (extends_.push room valid journal memory)
    · intro status next failed
      simp only [wp_get, wp_failWhen]
      rcases failed with ⟨journal, memory⟩ | quarantined
      · have healthy : next.journal.state = journalStateStaging := by rw [journal, extends_.staging]
        refine ⟨fun poisoned => ?_, fun _ => ?_⟩
        · rw [healthy] at poisoned
          exact absurd poisoned (by decide)
        · have encoding : next.journal.hasValidEncoding := by
            rw [journal]
            exact extends_.encoding
          have fewer : start.journal.recordCount ≤ next.journal.recordCount := by
            rw [journal]
            exact extends_.le
          apply wp_mono (restoreToRecordCount_spec machine next encoding healthy fewer)
          · rintro _ last ⟨truncated, unwound⟩
            refine .inl ⟨?_, ?_⟩
            · rw [truncated, journal, extends_.journal]
            · rw [unwound, memory, journal, extends_.memory]
          · intro _ last lost
            exact .inr lost
      · exact ⟨fun _ => .inr quarantined, fun other => (other quarantined.2).elim⟩

theorem stageReplaceFarSpan_spec (count : ℕ) (state : JournalState) :
    wp (stageReplaceFarSpan machineIdentity machine segment offset source count) state
      (fun _ next => Bound state.journal machine ∧ Extends machine state next) (fun _ => Failed state) := by
  simp only [stageReplaceFarSpan, wp_bind]
  apply wp_mono (validateBinding_spec machine machineIdentity state)
  · rintro _ state ⟨rfl, bound⟩
    simp only [wp_all, Failed.refl]
    intro staging _ _
    have extended : Extends machine state state := .refl bound.encoding (not_not.mp staging)
    exact wp_mono (spanLoop_spec machine machineIdentity segment offset source count count 0 state extended)
      (fun _ _ extended => ⟨bound, extended⟩) (fun _ _ => id)
  · rintro _ _ rfl
    exact .refl _

/-- Aborting a staging journal undoes all its records; an aborted one stays as it is. -/
theorem abort_spec (state : JournalState) :
    wp (abort machineIdentity machine) state
      (fun _ next => Bound state.journal machine ∧ next.journal.hasValidEncoding ∧
        next.journal.state = journalStateAborted ∧
        ((state.journal.state = journalStateAborted ∧ next.guest.memory = state.guest.memory) ∨
          (state.journal.state = journalStateStaging ∧
            next.guest.memory = unwind state.guest.memory (images machine state.journal))))
      (fun _ => Failed state) := by
  simp only [abort, wp_bind]
  apply wp_mono (validateBinding_spec machine machineIdentity state)
  · rintro _ state ⟨rfl, bound⟩
    simp only [wp_all, wp_ite, Failed.refl]
    refine ⟨fun aborted => ⟨bound, bound.encoding, aborted, .inl aborted⟩, fun _ staging => ?_⟩
    have staged := not_not.mp staging
    apply wp_mono (restoreToRecordCount_spec machine state bound.encoding staged (Nat.zero_le _))
    · rintro _ next ⟨journal, memory⟩
      simp only [modifyJournal, wp_modify, true_and]
      refine ⟨bound, ?_, .inr ⟨staged, memory⟩⟩
      refine encoding_abort ?_ ?_ ?_
      · rw [journal]
        exact encoding_truncate bound.encoding staged (Nat.zero_le _)
      · rw [journal]
        exact staged
      · rw [journal]
        rfl
    · intro _ next lost
      exact .inr lost
  · rintro _ _ rfl
    exact .refl _

end DosC32.Journal
