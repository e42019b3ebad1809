import Mathlib.Order.BooleanAlgebra.Set

/-! # Ownership of resources by the positions of a table

A provider hands out resources; a table records which position holds which of them. `Owns` says that the
table accounts for exactly the resources in use: none is held twice, none is lost and none is held that was
given back.
-/

namespace Ledger

open Function

variable {ι β : Type}

/-- The positions hold pairwise distinct resources, and together exactly those of `live`. -/
structure Owns (held : ι → Option β) (live : Set β) : Prop where
  distinct : ∀ {first second : ι} {resource : β}, held first = some resource → held second = some resource →
    first = second
  exact : ∀ resource, resource ∈ live ↔ ∃ index, held index = some resource

theorem owns_empty : Owns (fun _ : ι => (none : Option β)) ∅ := by
  constructor
  · intro first second resource holds
    cases holds
  · intro resource
    simp

variable {held : ι → Option β} {live : Set β} {index : ι} {resource : β} (owns : Owns held live)
include owns

theorem Owns.mem (holds : held index = some resource) : resource ∈ live :=
  (owns.exact resource).mpr ⟨index, holds⟩

variable [DecidableEq ι]

/-- An empty position takes a resource that was not in use. -/
theorem Owns.take (empty : held index = none) (fresh : resource ∉ live) :
    Owns (update held index (some resource)) (insert resource live) := by
  have unused : ∀ other, held other ≠ some resource := fun other holds => fresh (owns.mem holds)
  constructor
  · intro first second target atFirst atSecond
    simp only [update_apply] at atFirst atSecond
    split at atFirst <;> split at atSecond
    · simp_all
    · cases atFirst
      exact absurd atSecond (unused second)
    · cases atSecond
      exact absurd atFirst (unused first)
    · exact owns.distinct atFirst atSecond
  · intro target
    rw [Set.mem_insert_iff, owns.exact]
    constructor
    · rintro (rfl | ⟨other, holds⟩)
      · exact ⟨index, update_self ..⟩
      · have different : other ≠ index := by
          rintro rfl
          rw [empty] at holds
          cases holds
        exact ⟨other, by rw [update_of_ne different, holds]⟩
    · rintro ⟨other, holds⟩
      simp only [update_apply] at holds
      split at holds
      · exact .inl (Option.some.inj holds).symm
      · exact .inr ⟨other, holds⟩

/-- A position gives its resource back. -/
theorem Owns.drop (holds : held index = some resource) : Owns (update held index none) (live \ {resource}) := by
  constructor
  · intro first second target atFirst atSecond
    simp only [update_apply] at atFirst atSecond
    split at atFirst <;> split at atSecond
    · cases atFirst
    · cases atFirst
    · cases atSecond
    · exact owns.distinct atFirst atSecond
  · intro target
    rw [Set.mem_sdiff, Set.mem_singleton_iff, owns.exact]
    constructor
    · rintro ⟨⟨other, holdsOther⟩, different⟩
      have elsewhere : other ≠ index := by
        rintro rfl
        rw [holds] at holdsOther
        exact different (Option.some.inj holdsOther).symm
      exact ⟨other, by rw [update_of_ne elsewhere, holdsOther]⟩
    · rintro ⟨other, holdsOther⟩
      simp only [update_apply] at holdsOther
      split at holdsOther
      · cases holdsOther
      · rename_i elsewhere
        refine ⟨⟨other, holdsOther⟩, ?_⟩
        rintro rfl
        exact elsewhere (owns.distinct holdsOther holds)

/-- A position changes its resource for one that was not in use. -/
theorem Owns.exchange {fresh : β} (holds : held index = some resource) (unused : fresh ∉ live) :
    Owns (update held index (some fresh)) (insert fresh live \ {resource}) := by
  have dropped := owns.drop holds
  have taken := dropped.take (update_self index none held) (fun member => unused member.1)
  have different : fresh ∉ ({resource} : Set β) := by
    rintro rfl
    exact unused (owns.mem holds)
  rw [update_idem, ← Set.insert_sdiff_of_notMem live different] at taken
  exact taken

end Ledger
