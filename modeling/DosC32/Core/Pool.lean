import Mathlib.Algebra.GroupWithZero.Nat
import Mathlib.Data.Fintype.Basic

/-! # Slot pools with generation handles

A fixed array of slots, each with a generation counter. A handle packs the generation above the slot
index; a slot is taken by advancing its generation, and one whose counter is exhausted is retired
instead. A handle resolves only while the generation it carries is still the slot's own.
-/

namespace Pool

open Function

inductive State where
  | free
  | reserved
  | live
  | quarantined
  | retired
deriving DecidableEq

structure Slot (Content : Type) where
  state : State
  generation : UInt32
  content : Content

def generationMax : UInt32 := 0xffffffff

/-- The 64-bit handle with the generation in its high half and the index, counted from one, in the low half. -/
def makeHandle (index : ℕ) (generation : UInt32) : ℕ := generation.toNat <<< 32 ||| (index + 1)

variable {count : ℕ} {Content : Type}

/-- The slot and the generation a handle speaks about. -/
def decode (count handle : ℕ) : Option (Fin count × UInt32) :=
  let encodedSlot := handle % 2 ^ 32
  let generation := UInt32.ofNat (handle >>> 32)
  if valid : encodedSlot ≠ 0 ∧ encodedSlot ≤ count ∧ generation ≠ 0 then
    some (⟨encodedSlot - 1, by omega⟩, generation)
  else none

inductive Refusal where
  | stale
  | poisoned

variable (slots : Fin count → Slot Content)

/-- The live slot that a handle names. -/
def resolve (handle : ℕ) : Except Refusal (Fin count) :=
  match decode count handle with
  | none => .error .stale
  | some (index, generation) =>
    if (slots index).generation ≠ generation then .error .stale
    else if (slots index).state = .quarantined then .error .poisoned
    else if (slots index).state ≠ .live then .error .stale
    else .ok index

/-- Visit the slots in order, retire exhausted free ones, and take the first that is left. -/
def reserveFrom (taken : State) :
    List (Fin count) → (Fin count → Slot Content) → Option (Fin count) × (Fin count → Slot Content)
  | [], slots => (none, slots)
  | index :: rest, slots =>
    let slot := slots index
    if slot.state ≠ .free then reserveFrom taken rest slots
    else if slot.generation = generationMax then
      reserveFrom taken rest (update slots index { slot with state := .retired })
    else (some index,
      update slots index { slot with state := taken, generation := slot.generation + 1 })

def reserve (taken : State) (slots : Fin count → Slot Content) : Option (Fin count) × (Fin count → Slot Content) :=
  reserveFrom taken (List.finRange count) slots

def setState (index : Fin count) (state : State) : Fin count → Slot Content :=
  update slots index { slots index with state }

section Handles

variable {slots : Fin count → Slot Content} {handle : ℕ} {index : Fin count}

theorem decode_makeHandle {generation : UInt32} (index : Fin count) (narrow : count < 2 ^ 32) (positive : generation ≠ 0) :
    decode count (makeHandle index generation) = some (index, generation) := by
  have below := index.isLt
  have bounded := generation.toNat_lt
  have packed : makeHandle index generation = generation.toNat * 2 ^ 32 + (index + 1) := by
    rw [makeHandle, ← Nat.shiftLeft_add_eq_or_of_lt (show index.val + 1 < 2 ^ 32 by omega), Nat.shiftLeft_eq]
  have low : makeHandle index generation % 2 ^ 32 = index + 1 := by omega
  have high : UInt32.ofNat (makeHandle index generation >>> 32) = generation := by
    apply UInt32.toNat_inj.mp
    rw [packed, Nat.shiftRight_eq_div_pow, UInt32.toNat_ofNat']
    omega
  simp only [decode, low, high]
  rw [dif_pos ⟨by omega, by omega, positive⟩]
  rfl

/-- An advanced generation is never zero. -/
theorem succ_ne_zero {generation : UInt32} (fresh : generation ≠ generationMax) : generation + 1 ≠ 0 := by
  intro zero
  apply fresh
  have back : generation + 1 - 1 = 0 - 1 := by rw [zero]
  rwa [UInt32.add_sub_cancel] at back

theorem resolve_eq_ok : resolve slots handle = .ok index ↔
    decode count handle = some (index, (slots index).generation) ∧ (slots index).state = .live := by
  unfold resolve
  split
  · next none => simp [none]
  · next place generation found =>
    rw [found]
    split_ifs with other quarantined live
    · simp only [Option.some.injEq, Prod.mk.injEq, false_iff]
      rintro ⟨⟨rfl, rfl⟩, -⟩
      exact other rfl
    · simp only [Option.some.injEq, Prod.mk.injEq, false_iff]
      rintro ⟨⟨rfl, -⟩, live⟩
      simp [live] at quarantined
    · simp only [Option.some.injEq, Prod.mk.injEq, false_iff]
      rintro ⟨⟨rfl, -⟩, isLive⟩
      exact live isLive
    · rw [not_not] at other live
      simp only [Except.ok.injEq, Option.some.injEq, Prod.mk.injEq]
      constructor
      · rintro rfl
        exact ⟨⟨rfl, other.symm⟩, live⟩
      · exact fun same => same.1.1

/-- A quarantined slot refuses the handles of its generation. -/
theorem resolve_quarantined (decoded : decode count handle = some (index, (slots index).generation))
    (state : (slots index).state = .quarantined) : resolve slots handle = .error .poisoned := by
  simp [resolve, decoded, state]

end Handles

section Reserve

variable (taken : State) (slots : Fin count → Slot Content)

/-- The slot a reservation takes was free, and its generation advances by one. -/
theorem reserveFrom_taken (list : List (Fin count)) {index : Fin count}
    (found : (reserveFrom taken list slots).1 = some index) :
    (slots index).state = .free ∧ (slots index).generation ≠ generationMax ∧
      (reserveFrom taken list slots).2 index =
        { slots index with state := taken, generation := (slots index).generation + 1 } := by
  induction list generalizing slots with
  | nil => simp [reserveFrom] at found
  | cons head rest ih =>
    unfold reserveFrom at found ⊢
    dsimp only at found ⊢
    split_ifs at found ⊢ with busy exhausted
    · exact ih slots found
    · have earlier := ih _ found
      by_cases same : index = head
      · subst same
        simp at earlier
      · simpa only [update_of_ne same] using earlier
    · obtain rfl := Option.some.inj found
      rw [not_not] at busy
      exact ⟨busy, exhausted, by simp⟩

/-- The other slots stay, except that exhausted free slots may be retired. -/
theorem reserveFrom_other (list : List (Fin count)) {other : Fin count}
    (apart : (reserveFrom taken list slots).1 ≠ some other) :
    (reserveFrom taken list slots).2 other = slots other ∨
      ((slots other).state = .free ∧ (slots other).generation = generationMax ∧
        (reserveFrom taken list slots).2 other = { slots other with state := .retired }) := by
  induction list generalizing slots with
  | nil => exact .inl rfl
  | cons head rest ih =>
    unfold reserveFrom at apart ⊢
    dsimp only at apart ⊢
    split_ifs at apart ⊢ with busy exhausted
    · exact ih slots apart
    · have later := ih _ apart
      rw [not_not] at busy
      by_cases same : other = head
      · subst same
        simp only [update_self, reduceCtorEq, false_and, or_false] at later
        exact .inr ⟨busy, exhausted, later⟩
      · simpa only [update_of_ne same] using later
    · have different : other ≠ head := fun same => apart (congrArg some same.symm)
      exact .inl (update_of_ne different _ _)

variable {slots} {taken}

theorem reserve_of_busy {other : Fin count} (busy : (slots other).state ≠ .free) :
    (reserve taken slots).2 other = slots other := by
  have apart : (reserveFrom taken (List.finRange count) slots).1 ≠ some other := fun found =>
    busy (reserveFrom_taken taken slots _ found).1
  rcases reserveFrom_other taken slots _ apart with same | ⟨free, -⟩
  · exact same
  · exact absurd free busy

end Reserve

section Later

variable {Shown : Type} (view : Content → Shown)

/-- A slot moves forward: its generation advances, or it keeps its generation and does not come back to
life; while it stays live the visible part of its content stays. -/
def Slot.Later (before after : Slot Content) : Prop :=
  before.generation.toNat < after.generation.toNat ∨
    (after.generation = before.generation ∧
      (after.state = .live → before.state = .live ∧ view after.content = view before.content))

/-- Every slot of a pool moves forward. -/
def Later (before after : Fin count → Slot Content) : Prop := ∀ index, (before index).Later view (after index)

variable {view} {base slots later : Fin count → Slot Content} {index : Fin count} {handle : ℕ}

theorem toNat_succ {generation : UInt32} (fresh : generation ≠ generationMax) :
    (generation + 1).toNat = generation.toNat + 1 := by
  have bounded := generation.toNat_lt
  have below : generation.toNat ≠ 2 ^ 32 - 1 := fun same => fresh (UInt32.toNat_inj.mp same)
  rw [UInt32.toNat_add]
  simp only [UInt32.toNat_one]
  omega

/-- The slot a reservation takes advances. -/
theorem reserve_advances (taken : State) (slots : Fin count → Slot Content)
    (found : (reserve taken slots).1 = some index) :
    (slots index).generation.toNat < ((reserve taken slots).2 index).generation.toNat := by
  obtain ⟨-, fresh, content⟩ := reserveFrom_taken taken slots _ found
  change (reserve taken slots).2 index = _ at content
  rw [content, toNat_succ fresh]
  exact Nat.lt_succ_self _

/-- The handle names a slot that was taken in between. -/
structure Issued (before after : Fin count → Slot Content) (handle : ℕ) (index : Fin count) : Prop where
  named : decode count handle = some (index, (after index).generation)
  advanced : (before index).generation.toNat < (after index).generation.toNat
  fresh : (before index).generation ≠ generationMax

theorem issued_makeHandle {before after : Fin count → Slot Content} (narrow : count < 2 ^ 32)
    (advanced : (before index).generation.toNat < (after index).generation.toNat)
    (fresh : (before index).generation ≠ generationMax) :
    Issued before after (makeHandle index (after index).generation) index := by
  refine ⟨decode_makeHandle index narrow fun zero => ?_, advanced, fresh⟩
  rw [zero] at advanced
  exact Nat.not_lt_zero _ advanced

theorem Later.refl (slots : Fin count → Slot Content) : Later view slots slots := fun _ =>
  .inr ⟨rfl, fun live => ⟨live, rfl⟩⟩

theorem Later.trans (first : Later view base slots) (second : Later view slots later) : Later view base later := by
  intro index
  rcases first index with advanced | ⟨same, kept⟩ <;> rcases second index with advanced' | ⟨same', kept'⟩
  · exact .inl (advanced.trans advanced')
  · exact .inl (same' ▸ advanced)
  · exact .inl (same ▸ advanced')
  · refine .inr ⟨same'.trans same, fun live => ?_⟩
    obtain ⟨live', content'⟩ := kept' live
    obtain ⟨live'', content⟩ := kept live'
    exact ⟨live'', content'.trans content⟩

section

variable (moved : Later view base slots)
include moved

theorem Later.generation_le (index : Fin count) : (base index).generation.toNat ≤ (slots index).generation.toNat := by
  rcases moved index with advanced | ⟨same, -⟩
  · exact Nat.le_of_lt advanced
  · exact Nat.le_of_eq (congrArg UInt32.toNat same).symm

/-- Taking a slot out of life moves it forward. -/
theorem Later.setState (index : Fin count) {state : State} (ends : state ≠ .live) :
    Later view base (setState slots index state) := by
  intro other
  unfold Pool.setState
  by_cases same : other = index
  · subst same
    rw [update_self]
    rcases moved other with advanced | ⟨equal, -⟩
    · exact .inl advanced
    · exact .inr ⟨equal, fun live => absurd live ends⟩
  · rw [update_of_ne same]
    exact moved other

/-- The hidden part of a content may change. -/
theorem Later.setContent {content : Content} (shown : view content = view (slots index).content) :
    Later view base (update slots index { slots index with content }) := by
  intro other
  by_cases same : other = index
  · subst same
    rw [update_self]
    rcases moved other with advanced | ⟨equal, kept⟩
    · exact .inl advanced
    · exact .inr ⟨equal, fun live => ⟨(kept live).1, shown.trans (kept live).2⟩⟩
  · rw [update_of_ne same]
    exact moved other

/-- A slot whose generation has advanced may be filled anew. -/
theorem Later.update {slot : Slot Content} (advanced : (base index).generation.toNat < slot.generation.toNat) :
    Later view base (update slots index slot) := by
  intro other
  by_cases same : other = index
  · subst same
    rw [update_self]
    exact .inl advanced
  · rw [update_of_ne same]
    exact moved other

theorem Later.reserve (taken : State) : Later view base (reserve taken slots).2 := by
  refine moved.trans fun other => ?_
  by_cases found : (Pool.reserve taken slots).1 = some other
  · exact .inl (reserve_advances taken slots found)
  · rcases reserveFrom_other taken slots _ found with same | ⟨-, -, retired⟩
    · change (Pool.reserve taken slots).2 other = _ at same
      rw [same]
      exact .inr ⟨rfl, fun live => ⟨live, rfl⟩⟩
    · change (Pool.reserve taken slots).2 other = _ at retired
      rw [retired]
      exact .inr ⟨rfl, by simp⟩

/-- A slot at the last generation stays there. -/
theorem Later.exhausted (last : (base index).generation = generationMax) :
    (slots index).generation = generationMax := by
  have bounded := (slots index).generation.toNat_lt
  have reached := moved.generation_le index
  rw [last] at reached
  have top : generationMax.toNat = 2 ^ 32 - 1 := rfl
  apply UInt32.toNat_inj.mp
  omega

/-- A handle that resolves later was live all along, with the same visible content. -/
theorem Later.resolve_back {generation : UInt32}
    (named : decode count handle = some (index, generation)) (issued : generation.toNat ≤ (base index).generation.toNat)
    {place : Fin count} (resolved : resolve slots handle = .ok place) :
    place = index ∧ resolve base handle = .ok index ∧ view (slots index).content = view (base index).content := by
  obtain ⟨decoded, live⟩ := resolve_eq_ok.mp resolved
  obtain ⟨rfl, rfl⟩ := Prod.mk.inj (Option.some.inj (named.symm.trans decoded))
  rcases moved index with advanced | ⟨same, kept⟩
  · omega
  · obtain ⟨live', content⟩ := kept live
    exact ⟨rfl, resolve_eq_ok.mpr ⟨by rw [named, same], live'⟩, content⟩

end

/-- The generation a handle carries has been reached. -/
def Spent (slots : Fin count → Slot Content) (handle : ℕ) : Prop :=
  ∃ index generation, decode count handle = some (index, generation) ∧ generation.toNat ≤ (slots index).generation.toNat

theorem Spent.moved (spent : Spent base handle) (moved : Later view base slots) : Spent slots handle := by
  obtain ⟨index, generation, named, reached⟩ := spent
  exact ⟨index, generation, named, reached.trans (moved.generation_le index)⟩

theorem Issued.spent (issued : Issued base slots handle index) : Spent slots handle :=
  ⟨index, _, issued.named, Nat.le_refl _⟩

theorem Issued.unspent (issued : Issued base slots handle index) : ¬ Spent base handle := by
  rintro ⟨place, generation, named, reached⟩
  obtain ⟨rfl, rfl⟩ := Prod.mk.inj (Option.some.inj (named.symm.trans issued.named))
  exact absurd issued.advanced (Nat.not_lt.mpr reached)

/-- The generation a handle carries is over. -/
def Ended (slots : Fin count → Slot Content) (handle : ℕ) : Prop :=
  ∃ index generation, decode count handle = some (index, generation) ∧
    generation.toNat ≤ (slots index).generation.toNat ∧ ((slots index).generation = generation → (slots index).state ≠ .live)

/-- A handle whose generation is over never resolves again. -/
theorem Ended.never_resolves (ended : Ended base handle) (moved : Later view base slots) (place : Fin count) :
    resolve slots handle ≠ .ok place := by
  intro resolved
  obtain ⟨index, generation, named, issued, ended⟩ := ended
  obtain ⟨-, live, -⟩ := moved.resolve_back named issued resolved
  obtain ⟨named', live'⟩ := resolve_eq_ok.mp live
  have same := congrArg Prod.snd (Option.some.inj (named'.symm.trans named))
  exact ended same live'

/-- Taking the slot of a handle out of life ends the handle. -/
theorem ended_setState (resolved : resolve base handle = .ok index) (moved : Later view base slots)
    {state : State} (ends : state ≠ .live) : Ended (setState slots index state) handle := by
  refine ⟨index, (base index).generation, (resolve_eq_ok.mp resolved).1, ?_, fun _ => ?_⟩
  · simpa [Pool.setState] using moved.generation_le index
  · simpa [Pool.setState] using ends

end Later

end Pool
