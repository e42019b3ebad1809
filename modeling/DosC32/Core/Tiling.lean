import Mathlib.Algebra.GroupWithZero.Nat
import Mathlib.Data.List.Pairwise
import Mathlib.Order.Basic

/-! # Consecutive tiles

A list of tiles covers an interval of naturals when each tile begins where the previous one
stopped. With nonempty tiles the list is strictly increasing, its length is bounded by the
interval, and every position lies in exactly one tile. Tilings are cut at any element and a run of
tiles may be exchanged for another one with the same ends.
-/

namespace Tiling

open List

variable {Tile : Type} (first size : Tile → ℕ)

/-- `tiles` covers exactly `[start, stop)`, in order and without gap. -/
def Tiles : ℕ → List Tile → ℕ → Prop
  | start, [], stop => start = stop
  | start, tile :: rest, stop => first tile = start ∧ Tiles (start + size tile) rest stop

variable {first size} {start stop : ℕ} {tiles : List Tile}

theorem tiles_append {left right : List Tile} :
    Tiles first size start (left ++ right) stop ↔
      ∃ middle, Tiles first size start left middle ∧ Tiles first size middle right stop := by
  induction left generalizing start with
  | nil => simp [Tiles]
  | cons tile rest ih =>
    simp only [cons_append, Tiles, ih]
    constructor
    · rintro ⟨here, middle, before, after⟩
      exact ⟨middle, ⟨here, before⟩, after⟩
    · rintro ⟨middle, ⟨here, before⟩, after⟩
      exact ⟨here, middle, before, after⟩

section

variable (tiled : Tiles first size start tiles stop)
include tiled

theorem Tiles.le : start ≤ stop := by
  induction tiles generalizing start with
  | nil => exact Nat.le_of_eq tiled
  | cons tile rest ih => exact Nat.le_trans (Nat.le_add_right _ _) (ih tiled.2)

theorem Tiles.bounds {tile : Tile} (member : tile ∈ tiles) : start ≤ first tile ∧ first tile + size tile ≤ stop := by
  induction tiles generalizing start with
  | nil => cases member
  | cons head rest ih =>
    obtain ⟨here, after⟩ := tiled
    rcases mem_cons.mp member with rfl | inside
    · exact ⟨Nat.le_of_eq here.symm, here ▸ after.le⟩
    · exact ⟨Nat.le_trans (Nat.le_add_right _ _) (ih after inside).1, (ih after inside).2⟩

/-- Tiles are disjoint from left to right. -/
theorem Tiles.pairwise : tiles.Pairwise (fun left right => first left + size left ≤ first right) := by
  induction tiles generalizing start with
  | nil => exact .nil
  | cons head rest ih =>
    obtain ⟨here, after⟩ := tiled
    refine .cons (fun tile member => ?_) (ih after)
    rw [here]
    exact (after.bounds member).1

/-- Every position of the interval lies in some tile. -/
theorem Tiles.covered {position : ℕ} (low : start ≤ position) (high : position < stop) :
    ∃ tile ∈ tiles, first tile ≤ position ∧ position < first tile + size tile := by
  induction tiles generalizing start with
  | nil =>
    have empty : start = stop := tiled
    omega
  | cons head rest ih =>
    obtain ⟨here, after⟩ := tiled
    by_cases inside : position < start + size head
    · exact ⟨head, by simp, by omega, by omega⟩
    · obtain ⟨tile, member, extent⟩ := ih after (by omega)
      exact ⟨tile, by simp [member], extent⟩

/-- Two tiles that share a position are the same tile. -/
theorem Tiles.unique {left right : Tile} (inLeft : left ∈ tiles) (inRight : right ∈ tiles) {position : ℕ}
    (extent : first left ≤ position ∧ position < first left + size left)
    (extent' : first right ≤ position ∧ position < first right + size right) : left = right := by
  induction tiles generalizing start with
  | nil => cases inLeft
  | cons head rest ih =>
    obtain ⟨here, after⟩ := tiled
    rcases mem_cons.mp inLeft with rfl | left' <;> rcases mem_cons.mp inRight with rfl | right'
    · rfl
    · have := (after.bounds right').1
      omega
    · have := (after.bounds left').1
      omega
    · exact ih after left' right'

end

section Positive

variable (positive : ∀ tile, 0 < size tile)
include positive

variable (tiled : Tiles first size start tiles stop)
include tiled

theorem Tiles.increasing : (tiles.map first).Pairwise (· < ·) := by
  refine pairwise_map.mpr (tiled.pairwise.imp ?_)
  intro left right apart
  have := positive left
  omega

theorem Tiles.length_le : start + tiles.length ≤ stop := by
  induction tiles generalizing start with
  | nil => exact tiled.le
  | cons head rest ih =>
    have tail := ih tiled.2
    have := positive head
    simp only [length_cons]
    omega

/-- Members of one tiling are determined by where they begin. -/
theorem Tiles.eq_of_first {left right : Tile}
    (inLeft : left ∈ tiles) (inRight : right ∈ tiles) (same : first left = first right) : left = right := by
  have leftPositive := positive left
  have rightPositive := positive right
  exact tiled.unique inLeft inRight (⟨Nat.le_refl _, by omega⟩ : first left ≤ first left ∧ _) ⟨by omega, by omega⟩

end Positive

end Tiling
