import Mathlib.Data.Fintype.Basic
import Mathlib.Data.Nat.ModEq

/-! # Bounded ring buffers

An array with the index of its oldest element and the number of elements, as C code keeps a queue in
fixed storage. The bounds are part of the type; the lemmas reduce the operations to the list of the
elements in order.
-/

structure Fifo (α : Type) (capacity : ℕ) where
  cells : Fin capacity → α
  (head count : ℕ)
  head_lt : head < capacity
  count_le : count ≤ capacity

namespace Fifo

open List

variable {α : Type} {capacity : ℕ} (fifo : Fifo α capacity)

include fifo in
theorem capacity_pos : 0 < capacity := Nat.lt_of_le_of_lt (Nat.zero_le _) fifo.head_lt

/-- The cell at an offset from the oldest element. -/
def index (offset : ℕ) : Fin capacity := ⟨(fifo.head + offset) % capacity, Nat.mod_lt _ fifo.capacity_pos⟩

def entry (offset : ℕ) : α := fifo.cells (fifo.index offset)

/-- The elements, oldest first. -/
def contents : List α := (range fifo.count).map fifo.entry

/-- Append an element; a full buffer stays as it is. -/
def push (value : α) : Fifo α capacity :=
  if room : fifo.count < capacity then
    { fifo with cells := Function.update fifo.cells (fifo.index fifo.count) value, count := fifo.count + 1
                count_le := room }
  else fifo

variable (values : List α)

/-- Append elements in order. -/
def pushAll : Fifo α capacity := values.foldl push fifo

/-- Drop the oldest element. -/
def pop : Fifo α capacity where
  cells := fifo.cells
  head := (fifo.head + 1) % capacity
  count := fifo.count - 1
  head_lt := Nat.mod_lt _ fifo.capacity_pos
  count_le := Nat.le_trans (Nat.sub_le _ _) fifo.count_le

/-- Drop all elements. -/
def clear : Fifo α capacity := { fifo with count := 0, count_le := Nat.zero_le _ }

/-- A buffer without elements. -/
def empty (default : α) (positive : 0 < capacity) : Fifo α capacity :=
  ⟨fun _ => default, 0, 0, positive, Nat.zero_le _⟩

@[simp] theorem length_contents : fifo.contents.length = fifo.count := by simp [contents]

theorem contents_eq_nil : fifo.contents = [] ↔ fifo.count = 0 := by
  rw [← length_eq_zero_iff, length_contents]

private theorem index_ne {offset other : ℕ} (before : offset < other) (inside : other < capacity) :
    fifo.index offset ≠ fifo.index other := by
  intro same
  have congruent : fifo.head + offset ≡ fifo.head + other [MOD capacity] := congrArg Fin.val same
  have equal := (Nat.ModEq.add_left_cancel' fifo.head congruent).eq_of_lt_of_lt (before.trans inside) inside
  omega

theorem contents_push (value : α) (room : fifo.count < capacity) :
    (fifo.push value).contents = fifo.contents ++ [value] := by
  have pushed : fifo.push value = { fifo with
      cells := Function.update fifo.cells (fifo.index fifo.count) value, count := fifo.count + 1
      count_le := room } := dif_pos room
  rw [pushed]
  simp only [contents, range_succ, map_append, map_cons, map_nil]
  congr 1
  · apply map_congr_left
    intro offset member
    have before := mem_range.mp member
    exact Function.update_of_ne (fifo.index_ne before room) _ _
  · congr 1
    exact Function.update_self ..

theorem count_push (value : α) (room : fifo.count < capacity) : (fifo.push value).count = fifo.count + 1 := by
  rw [← length_contents, contents_push _ _ room, length_append, length_contents, length_singleton]

theorem contents_pushAll (room : fifo.count + values.length ≤ capacity) :
    (fifo.pushAll values).contents = fifo.contents ++ values := by
  induction values generalizing fifo with
  | nil => simp [pushAll]
  | cons value rest ih =>
    rw [length_cons] at room
    have here : fifo.count < capacity := by omega
    have later := ih (fifo.push value) (by rw [count_push _ _ here]; omega)
    rw [contents_push _ _ here, append_assoc] at later
    exact later

theorem count_pushAll (room : fifo.count + values.length ≤ capacity) :
    (fifo.pushAll values).count = fifo.count + values.length := by
  rw [← length_contents, contents_pushAll _ _ room, length_append, length_contents]

private theorem entry_pop (offset : ℕ) : fifo.pop.entry offset = fifo.entry (offset + 1) := by
  have place : fifo.pop.index offset = fifo.index (offset + 1) := by
    apply Fin.ext
    simp only [index, pop, Nat.mod_add_mod]
    congr 1
    omega
  exact congrArg fifo.cells place

/-- The oldest element comes first. -/
theorem contents_eq_cons (some : fifo.count ≠ 0) : fifo.contents = fifo.entry 0 :: fifo.pop.contents := by
  obtain ⟨rest, isSucc⟩ := Nat.exists_eq_succ_of_ne_zero some
  have popped : fifo.pop.count = rest := by
    simp only [pop]
    omega
  simp only [contents, popped, isSucc, range_succ_eq_map, map_cons, map_map]
  congr 1
  apply map_congr_left
  intro offset _
  exact (fifo.entry_pop offset).symm

theorem head?_contents (some : fifo.count ≠ 0) : fifo.contents.head? = .some (fifo.entry 0) := by
  rw [contents_eq_cons _ some, head?_cons]

/-- What comes after the oldest element is next. -/
theorem head?_pop (several : 1 < fifo.count) : fifo.pop.contents.head? = some (fifo.entry 1) := by
  have positive : fifo.pop.count ≠ 0 := by
    simp only [pop]
    omega
  rw [head?_contents _ positive, entry_pop]

end Fifo
