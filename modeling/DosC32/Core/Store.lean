import Mathlib.Algebra.GroupWithZero.Nat
import Mathlib.Data.List.Basic

/-! # Stores, bulk writes, and undo by saved images

A store is a total function. A bulk write goes through a list of addresses in order, and an
interrupted one may leave anything at those addresses but nothing elsewhere. Writing back the
image read before it therefore restores the whole store, however far the write got and however
often one address occurs in the list. An undo log applies such images newest first.
-/

namespace Store

open List Function

variable {Address Value : Type}

/-- Two stores agree at every address outside the touched ones. -/
def AgreeOff (touched : List Address) (left right : Address → Value) : Prop :=
  ∀ address, address ∉ touched → left address = right address

/-- The values found at a list of addresses. -/
def load (store : Address → Value) (addresses : List Address) : List Value := addresses.map store

namespace AgreeOff

variable {first second : List Address} {left middle right : Address → Value}

theorem refl (touched : List Address) (store : Address → Value) : AgreeOff touched store store :=
  fun _ _ => rfl

theorem trans (agree : AgreeOff first left middle) (agree' : AgreeOff first middle right) :
    AgreeOff first left right :=
  fun address outside => (agree address outside).trans (agree' address outside)

theorem mono (agree : AgreeOff first left right) (more : ∀ address ∈ first, address ∈ second) :
    AgreeOff second left right :=
  fun address outside => agree address (fun inside => outside (more address inside))

end AgreeOff

/-- Some indexed values were written to their places, and nothing else changed. -/
structure Assigned {Index : Type} (place : Index → Address) (indices : Set Index) (value : Index → Value)
    (before after : Address → Value) : Prop where
  data : ∀ index ∈ indices, after (place index) = value index
  frame : ∀ address, (∀ index ∈ indices, place index ≠ address) → after address = before address

/-- Two assignments after each other, the second one of values that the first one left alone. -/
theorem Assigned.union {Index : Type} {place : Index → Address} {first second : Set Index} {value value' : Index → Value}
    {before middle after : Address → Value} (assigned : Assigned place first value before middle)
    (assigned' : Assigned place second value' middle after) (injective : Injective place)
    (same : ∀ index ∈ second, value' index = value index) : Assigned place (first ∪ second) value before after := by
  have late : ∀ index ∈ second, after (place index) = value index := fun index member =>
    (assigned'.data index member).trans (same index member)
  refine ⟨fun index member => ?_, fun address outside => ?_⟩
  · by_cases again : index ∈ second
    · exact late index again
    · have untouched : ∀ other ∈ second, place other ≠ place index := by
        rintro other inside equal
        exact again (injective equal ▸ inside)
      rw [assigned'.frame _ untouched]
      exact assigned.data index (member.resolve_right again)
  · rw [assigned'.frame _ fun index member => outside index (.inr member)]
    exact assigned.frame _ fun index member => outside index (.inl member)

variable [DecidableEq Address]

/-- Write values one after another; surplus addresses or values are ignored. -/
def save (store : Address → Value) : List Address → List Value → Address → Value
  | address :: addresses, value :: values => save (update store address value) addresses values
  | _, _ => store

section

variable (store : Address → Value)
include store

@[simp] theorem save_nil (values : List Value) : save store [] values = store := by
  cases values <;> rfl

@[simp] theorem save_cons (address : Address) (addresses : List Address) (value : Value) (values : List Value) :
    save store (address :: addresses) (value :: values) =
      save (update store address value) addresses values := rfl

/-- A bulk write changes nothing outside its addresses. -/
theorem save_agreeOff (addresses : List Address) (values : List Value) :
    AgreeOff addresses (save store addresses values) store := by
  induction addresses generalizing store values with
  | nil => simp [AgreeOff]
  | cons head tail ih =>
    cases values with
    | nil => exact .refl _ _
    | cons value values =>
      intro address outside
      rw [mem_cons, not_or] at outside
      rw [save_cons, ih _ _ address outside.2, update_of_ne outside.1]

theorem save_append {first second : List Address} {values values' : List Value}
    (same : first.length = values.length) :
    save store (first ++ second) (values ++ values') = save (save store first values) second values' := by
  induction first generalizing store values with
  | nil =>
    obtain rfl := length_eq_zero_iff.mp same.symm
    simp
  | cons head tail ih =>
    cases values with
    | nil => simp at same
    | cons value values => exact ih _ (by simpa using same)

theorem save_append_values {addresses : List Address} {values : List Value}
    (enough : addresses.length ≤ values.length) (surplus : List Value) :
    save store addresses (values ++ surplus) = save store addresses values := by
  induction addresses generalizing store values with
  | nil => simp
  | cons head tail ih =>
    cases values with
    | nil => simp at enough
    | cons value values => exact ih _ (by simpa using enough)

end

/-- An image written to its own addresses is found there. -/
theorem save_load_apply (store image : Address → Value) (addresses : List Address) (address : Address) :
    save store addresses (load image addresses) address = if address ∈ addresses then image address else store address := by
  induction addresses generalizing store with
  | nil => simp [load]
  | cons head tail ih =>
    rw [load, map_cons, save_cons, ← load, ih]
    by_cases same : address = head
    · subst same
      simp
    · simp [same]

/-- Writing back the image of the touched addresses restores the store. -/
theorem save_load {touched : List Address} {store torn : Address → Value}
    (agree : AgreeOff touched torn store) : save torn touched (load store touched) = store := by
  funext address
  rw [save_load_apply]
  split
  · rfl
  · exact agree address (by assumption)

/-- A bulk write of a range. -/
theorem assigned_save (store : ℕ → Value) (base position count : ℕ) (value : ℕ → Value) :
    Assigned (base + ·) ({ index | index ∈ range' position count }) value store
      (save store (range' (base + position) count) ((range' position count).map value)) := by
  have image : (range' position count).map value =
      load (fun address => value (address - base)) (range' (base + position) count) := by
    rw [load, ← map_add_range', map_map]
    exact map_congr_left fun index _ => by simp
  rw [image]
  refine ⟨fun index inside => ?_, fun address outside => ?_⟩
  · have there : base + index ∈ range' (base + position) count := by
      rw [← map_add_range']
      exact mem_map_of_mem inside
    rw [save_load_apply, if_pos there, Nat.add_sub_cancel_left]
  · rw [save_load_apply, if_neg]
    rw [← map_add_range', mem_map]
    rintro ⟨index, inside, same⟩
    exact outside index inside same

/-- One undo step: the addresses a write touched and the values that stood there. -/
structure Image (Address Value : Type) where
  addresses : List Address
  values : List Value

/-- Apply the images of a log, oldest first in the list, newest first in time. -/
def unwind (store : Address → Value) (log : List (Image Address Value)) : Address → Value :=
  log.foldr (fun image rest => save rest image.addresses image.values) store

variable (store : Address → Value)

/-- With distinct addresses every value is found where it was written. -/
theorem save_get {addresses : List Address} {values : List Value}
    (distinct : addresses.Nodup) (index : ℕ) (bound : index < addresses.length)
    (bound' : index < values.length) : save store addresses values addresses[index] = values[index] := by
  induction addresses generalizing store values index with
  | nil => simp at bound
  | cons head tail ih =>
    cases values with
    | nil => simp at bound'
    | cons value values =>
      rw [nodup_cons] at distinct
      cases index with
      | zero =>
        rw [getElem_cons_zero, save_cons, save_agreeOff _ _ _ _ distinct.1, update_self]
        rfl
      | succ index => exact ih _ distinct.2 index (by simpa using bound) (by simpa using bound')

@[simp] theorem unwind_nil : unwind store [] = store := rfl

theorem unwind_append (older newer : List (Image Address Value)) :
    unwind store (older ++ newer) = unwind (unwind store newer) older := by
  simp [unwind]

end Store
