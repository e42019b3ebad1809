import Mathlib.Algebra.Order.BigOperators.Group.Finset
import Mathlib.Order.Interval.Finset.Nat

/-! # Extents held by the positions of a table

A store of numbered units lends runs of consecutive units to the positions of a table and keeps a
mark for every unit. `Owns` says that the marks and the table agree: a unit is marked exactly when
one position holds it, and no two positions hold the same unit.
-/

namespace Extents

open Function Finset

/-- A run of consecutive units. -/
structure Extent where
  (first count : ℕ)

def Extent.units (extent : Extent) : Finset ℕ := Finset.Ico extent.first (extent.first + extent.count)

theorem Extent.card_units (extent : Extent) : extent.units.card = extent.count := by
  simp [Extent.units]

variable {ι : Type} (held : ι → Option Extent)

/-- The units that a position holds. -/
def unitsAt (index : ι) : Finset ℕ := (held index).elim ∅ Extent.units

variable {held} {index : ι} {extent : Extent}

theorem unitsAt_some (holds : held index = some extent) : unitsAt held index = extent.units := by
  simp [unitsAt, holds]

theorem unitsAt_none (empty : held index = none) : unitsAt held index = ∅ := by
  simp [unitsAt, empty]

/-- The marks and the table agree. -/
structure Owns (held : ι → Option Extent) (marked : ℕ → Bool) : Prop where
  apart : ∀ {first second : ι}, first ≠ second → Disjoint (unitsAt held first) (unitsAt held second)
  exact : ∀ unit, marked unit = true ↔ ∃ index, unit ∈ unitsAt held index

variable {marked next : ℕ → Bool}

theorem owns_nothing (clear : ∀ unit, marked unit = false) : Owns (fun _ : ι => none) marked := by
  constructor
  · intro first second _
    exact disjoint_empty_left _
  · intro unit
    simp [clear, unitsAt]

variable [DecidableEq ι]

theorem unitsAt_update (other : ι) (value : Option Extent) :
    unitsAt (update held index value) other =
      if other = index then value.elim ∅ Extent.units else unitsAt held other := by
  unfold unitsAt
  by_cases same : other = index
  · subst same
    simp
  · simp [same]

/-- An empty position takes units that no position holds. -/
theorem Owns.take (owns : Owns held marked) (empty : held index = none) (unused : ∀ unit ∈ extent.units, marked unit = false)
    (marks : ∀ unit, next unit = true ↔ unit ∈ extent.units ∨ marked unit = true) :
    Owns (update held index (some extent)) next := by
  have fresh : ∀ other, Disjoint extent.units (unitsAt held other) := by
    intro other
    rw [disjoint_left]
    intro unit mine theirs
    have taken := (owns.exact unit).mpr ⟨other, theirs⟩
    rw [unused unit mine] at taken
    cases taken
  constructor
  · intro first second different
    rw [unitsAt_update, unitsAt_update]
    split_ifs with atFirst atSecond atSecond
    · exact absurd (atFirst.trans atSecond.symm) different
    · exact fresh second
    · exact (fresh first).symm
    · exact owns.apart different
  · intro unit
    rw [marks, owns.exact]
    constructor
    · rintro (mine | ⟨other, theirs⟩)
      · exact ⟨index, by rw [unitsAt_update, if_pos rfl]; exact mine⟩
      · have elsewhere : other ≠ index := by
          rintro rfl
          rw [unitsAt_none empty] at theirs
          exact notMem_empty _ theirs
        exact ⟨other, by rw [unitsAt_update, if_neg elsewhere]; exact theirs⟩
    · rintro ⟨other, holds⟩
      rw [unitsAt_update] at holds
      split_ifs at holds
      · exact .inl holds
      · exact .inr ⟨other, holds⟩

/-- A position gives its units back. -/
theorem Owns.drop (owns : Owns held marked) (holds : held index = some extent)
    (marks : ∀ unit, next unit = true ↔ unit ∉ extent.units ∧ marked unit = true) :
    Owns (update held index none) next := by
  constructor
  · intro first second different
    rw [unitsAt_update, unitsAt_update]
    split_ifs
    · exact disjoint_empty_left _
    · exact disjoint_empty_left _
    · exact disjoint_empty_right _
    · exact owns.apart different
  · intro unit
    rw [marks, owns.exact]
    constructor
    · rintro ⟨outside, other, theirs⟩
      have elsewhere : other ≠ index := by
        rintro rfl
        rw [unitsAt_some holds] at theirs
        exact outside theirs
      exact ⟨other, by rw [unitsAt_update, if_neg elsewhere]; exact theirs⟩
    · rintro ⟨other, theirs⟩
      rw [unitsAt_update] at theirs
      split_ifs at theirs with atIndex
      · exact absurd theirs (notMem_empty _)
      · refine ⟨fun mine => ?_, other, theirs⟩
        rw [← unitsAt_some holds] at mine
        exact disjoint_left.mp (owns.apart atIndex) theirs mine

variable [Fintype ι]

/-- The number of units that the table holds. -/
def total (held : ι → Option Extent) : ℕ := ∑ index, (unitsAt held index).card

omit [DecidableEq ι] in
theorem total_nothing : total (fun _ : ι => none) = 0 := by
  simp [total, unitsAt]

theorem total_update (value : Option Extent) :
    total (update held index value) + (unitsAt held index).card =
      total held + (value.elim ∅ Extent.units).card := by
  unfold total
  rw [← add_sum_erase _ _ (mem_univ index), ← add_sum_erase univ
    (fun other => (unitsAt held other).card) (mem_univ index)]
  have others : ∑ other ∈ univ.erase index, (unitsAt (update held index value) other).card =
      ∑ other ∈ univ.erase index, (unitsAt held other).card := by
    apply sum_congr rfl
    intro other member
    rw [unitsAt_update, if_neg (ne_of_mem_erase member)]
  rw [others, unitsAt_update, if_pos rfl]
  omega

theorem total_take (empty : held index = none) :
    total (update held index (some extent)) = total held + extent.count := by
  have changed := @total_update _ held index _ _ (some extent)
  rw [unitsAt_none empty, card_empty] at changed
  simpa [Extent.card_units] using changed

theorem total_drop (holds : held index = some extent) :
    total (update held index none) + extent.count = total held := by
  have changed := @total_update _ held index _ _ none
  rw [unitsAt_some holds, Extent.card_units] at changed
  simpa using changed

theorem count_le_total (holds : held index = some extent) : extent.count ≤ total held := by
  have changed := total_drop holds
  omega

omit [DecidableEq ι] in
/-- Extents that lie in a set are no more than the set holds. -/
theorem Owns.total_le (owns : Owns held marked) {inside : Finset ℕ} (within : ∀ index, unitsAt held index ⊆ inside) :
    total held ≤ inside.card := by
  unfold total
  rw [← card_biUnion fun first _ second _ different => owns.apart different]
  apply card_le_card
  intro unit member
  obtain ⟨index, -, holds⟩ := mem_biUnion.mp member
  exact within index holds

end Extents
