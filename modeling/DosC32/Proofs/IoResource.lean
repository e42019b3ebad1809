import DosC32.Model.IoResource
import Mathlib.Data.List.Pairwise

/-! # Handles, ranges and batches of the port registry

Handles and tokens pack a generation above the slot index, in two domains that never meet. A prepared
batch names fresh slots for descriptors that overlap neither each other nor an active range, so that
publishing it keeps the registry well formed.
-/

namespace DosC32.IoResource

open Effect Reentry List Bitmap

theorem generationMax_eq : generationMax = 2 ^ 57 - 1 := by decide

theorem makeGenerationHandle_resource {index : ℕ} (inside : index < 32) (generation : ℕ) :
    makeGenerationHandle index generation 0 = generation * 64 + (index + 1) := by
  unfold makeGenerationHandle
  rw [Nat.zero_or, ← Nat.shiftLeft_add_eq_or_of_lt (show index + 1 < 2 ^ 6 by omega), Nat.shiftLeft_eq]

theorem makeGenerationHandle_token {index generation : ℕ} (inside : index < 32) (bounded : generation ≤ generationMax) :
    makeGenerationHandle index generation foregroundTokenDomain =
      2 ^ 63 + (makeGenerationHandle index generation 0) := by
  rw [generationMax_eq] at bounded
  have low : generation * 64 + (index + 1) < 2 ^ 63 := by omega
  have packed := makeGenerationHandle_resource inside generation
  rw [packed]
  unfold makeGenerationHandle at packed ⊢
  rw [Nat.zero_or] at packed
  rw [Nat.or_assoc, packed]
  have top := Nat.shiftLeft_add_eq_or_of_lt low 1
  rw [Nat.shiftLeft_eq, Nat.one_mul] at top
  exact top.symm

variable (owner next : IoResourceOwner) (index : Fin 32) (prior : List IoResourceDescriptor) (reserved : BitVec 32)
  (descriptors : List IoResourceDescriptor) (claims : List (Fin 32 × ℕ)) {resource : ℕ}

/-- The resource handle of a slot. -/
def handleOf : ℕ :=
  makeGenerationHandle index (owner.slots index).generation 0

/-- The generations are within their range. -/
structure Counted : Prop where
  started : ∀ index, slotIsActive owner index → 1 ≤ (owner.slots index).generation
  bounded : ∀ index, (owner.slots index).generation ≤ generationMax
  foreground : ∀ index, (owner.slots index).foregroundGeneration ≤ generationMax

/-- Two descriptors claim a common port. -/
def Overlap (first second : IoResourceDescriptor) : Prop :=
  rangesOverlap first.firstPort first.lastPort second.firstPort second.lastPort

/-- What the first loop of a registration established. -/
structure Prepared : Prop where
  length : claims.length = descriptors.length
  fresh : ∀ claim ∈ claims, slotIsActive owner claim.1 = false ∧ test reserved claim.1 = false ∧
    (owner.slots claim.1).generation < generationMax ∧ claim.2 = (owner.slots claim.1).generation + 1
  apart : (claims.map Prod.fst).Nodup
  valid : ∀ descriptor ∈ descriptors, descriptorIsValid descriptor
  free : ∀ descriptor ∈ descriptors, ∀ index, slotIsActive owner index →
    ¬ Overlap descriptor (owner.slots index).descriptor
  later : ∀ descriptor ∈ descriptors, ∀ other ∈ prior, ¬ Overlap descriptor other
  disjoint : descriptors.Pairwise fun first second => ¬ Overlap first second

/-- The registry is well formed: active ranges are disjoint, and a token belongs to the slot it names. -/
structure Registry : Prop where
  counted : Counted owner
  disjoint : ∀ first second, first ≠ second → slotIsActive owner first → slotIsActive owner second →
    ¬ Overlap (owner.slots first).descriptor (owner.slots second).descriptor
  valid : ∀ index, slotIsActive owner index → descriptorIsValid (owner.slots index).descriptor
  leased : ∀ index, (owner.slots index).foregroundToken ≠ foregroundTokenInvalid →
    (owner.slots index).foregroundToken =
      makeGenerationHandle index (owner.slots index).foregroundGeneration foregroundTokenDomain ∧
    identityIsValid (owner.slots index).foregroundRequester
  unset : owner.initialized = false → owner.dispatchActive = false ∧ ∀ index, slotIsActive owner index = false

/-- The state that a registration publishes. -/
def published : IoResourceOwner :=
  { publishBatch owner descriptors claims with
    activeBitmap := (publishBatch owner descriptors claims).activeBitmap ||| reservedBitmap claims }

/-- One slot changes, with the descriptor and the generation it had or without being active any more. -/
structure Edited : Prop where
  elsewhere : ∀ other, other ≠ index → next.slots other = owner.slots other ∧
    slotIsActive next other = slotIsActive owner other
  active : slotIsActive next index → slotIsActive owner index ∧
    (next.slots index).descriptor = (owner.slots index).descriptor
  generation : (next.slots index).generation = (owner.slots index).generation
  initialized : next.initialized = owner.initialized
  dispatch : next.dispatchActive = owner.dispatchActive

theorem publishBatch_fields :
    publishBatch owner descriptors claims = { owner with slots := (publishBatch owner descriptors claims).slots } := by
  induction descriptors generalizing claims owner with
  | nil => cases claims <;> rfl
  | cons descriptor rest ih =>
    cases claims with
    | nil => rfl
    | cons claim tail =>
      unfold publishBatch
      rw [ih]
      rfl

variable {owner next index prior reserved descriptors claims}

/-- A handle that decodes is the handle of its slot. -/
theorem decodeResource_sound (decoded : decodeResource owner resource = some index) :
    slotIsActive owner index ∧ resource = handleOf owner index := by
  unfold decodeResource at decoded
  dsimp only at decoded
  split at decoded
  next valid =>
    split at decoded
    next named =>
      cases decoded
      refine ⟨named.1, ?_⟩
      have bound : resource % 64 ≤ 32 := valid.2.2.2.2.1
      rw [handleOf, makeGenerationHandle_resource (by dsimp only; omega), named.2, Nat.shiftRight_eq_div_pow]
      have nonzero := valid.2.2.2.1
      dsimp only
      omega
    · cases decoded
  · cases decoded

/-- The handle of an active slot decodes to it. -/
theorem decodeResource_handleOf (counted : Counted owner) (active : slotIsActive owner index) :
    decodeResource owner (handleOf owner index) = some index := by
  have started := counted.started index active
  have bounded := counted.bounded index
  rw [generationMax_eq] at bounded
  have packed : handleOf owner index = (owner.slots index).generation * 64 + (index + 1) :=
    makeGenerationHandle_resource index.isLt _
  have low : handleOf owner index % 64 = index + 1 := by omega
  have high : handleOf owner index >>> 6 = (owner.slots index).generation := by
    rw [Nat.shiftRight_eq_div_pow]
    omega
  unfold decodeResource
  simp only [low, high]
  rw [dif_pos]
  · simp only [Nat.add_sub_cancel, Fin.eta, active, and_self, if_true]
  · refine ⟨?_, ?_, Nat.testBit_lt_two_pow (by omega), by omega, index.isLt, by omega, counted.bounded index⟩
    · unfold resourceHandleInvalid
      omega
    · unfold kernelObjectHandleInvalid
      omega

theorem decodeResource_iff (counted : Counted owner) :
    decodeResource owner resource = some index ↔ slotIsActive owner index ∧ resource = handleOf owner index := by
  constructor
  · exact decodeResource_sound
  · rintro ⟨active, rfl⟩
    exact decodeResource_handleOf counted active

/-- Handles tell slots and generations apart. -/
theorem makeGenerationHandle_inj {first second : Fin 32} {generation generation' : ℕ}
    (same : makeGenerationHandle first generation 0 = makeGenerationHandle second generation' 0) :
    first = second ∧ generation = generation' := by
  rw [makeGenerationHandle_resource first.isLt, makeGenerationHandle_resource second.isLt] at same
  have here := first.isLt
  have there := second.isLt
  exact ⟨Fin.ext (by omega), by omega⟩

/-- A token names its slot. -/
theorem decodeToken_token {generation : ℕ} (bounded : generation ≤ generationMax) :
    decodeToken (makeGenerationHandle index generation foregroundTokenDomain) = some index := by
  have here := index.isLt
  have packed := makeGenerationHandle_token here bounded
  rw [makeGenerationHandle_resource here] at packed
  have low : makeGenerationHandle index generation foregroundTokenDomain % 64 = index + 1 := by omega
  unfold decodeToken
  simp only [low]
  rw [dif_pos ⟨by omega, index.isLt⟩]
  simp only [Nat.add_sub_cancel, Fin.eta]

theorem Overlap.symm {first second : IoResourceDescriptor} (overlap : Overlap first second) : Overlap second first :=
  ⟨overlap.2, overlap.1⟩

theorem activeRangeOverlaps_eq_true {first last : UInt16} :
    activeRangeOverlaps owner first last = true ↔ ∃ index, slotIsActive owner index ∧
      rangesOverlap first last (owner.slots index).descriptor.firstPort (owner.slots index).descriptor.lastPort := by
  simp [activeRangeOverlaps]

theorem reserveSlot_spec {generation : ℕ} (found : reserveSlot owner reserved = some (index, generation)) :
    slotIsActive owner index = false ∧ test reserved index = false ∧
      (owner.slots index).generation < generationMax ∧ generation = (owner.slots index).generation + 1 := by
  simp only [reserveSlot, Option.map_eq_some_iff, Prod.mk.injEq] at found
  obtain ⟨place, first, rfl, rfl⟩ := found
  have passes := find?_some first
  simp only [Bool.not_eq_true', Bool.or_eq_false_iff, decide_eq_false_iff_not, not_le] at passes
  exact ⟨passes.1.1, passes.1.2, passes.2, rfl⟩

theorem prepareBatch_spec (prepared : prepareBatch owner prior reserved descriptors = .ok claims) :
    Prepared owner prior reserved descriptors claims := by
  induction descriptors generalizing prior reserved claims with
  | nil =>
    cases prepared
    exact ⟨rfl, by simp, nodup_nil, by simp, by simp, by simp, .nil⟩
  | cons descriptor rest ih =>
    unfold prepareBatch at prepared
    split_ifs at prepared with valid overlaps collides
    split at prepared
    · cases prepared
    next index generation found =>
      split at prepared
      · cases prepared
      next tail ready =>
        cases prepared
        have claimed := reserveSlot_spec found
        have remaining := ih ready
        have notTaken : index ∉ tail.map Prod.fst := by
          intro member
          obtain ⟨claim, inTail, same⟩ := mem_map.mp member
          have unset := (remaining.fresh claim inTail).2.1
          rw [same, test_insert _ index.isLt index.isLt] at unset
          simp at unset
        constructor
        · simp [remaining.length]
        · intro claim member
          rcases mem_cons.mp member with rfl | member
          · exact claimed
          · have later := remaining.fresh claim member
            rw [test_insert _ index.isLt claim.1.isLt, Bool.or_eq_false_iff] at later
            exact ⟨later.1, later.2.1.2, later.2.2⟩
        · exact nodup_cons.mpr ⟨notTaken, remaining.apart⟩
        · exact forall_mem_cons.mpr ⟨valid, remaining.valid⟩
        · refine forall_mem_cons.mpr ⟨fun place active overlap => overlaps ?_, remaining.free⟩
          exact activeRangeOverlaps_eq_true.mpr ⟨place, active, overlap⟩
        · refine forall_mem_cons.mpr ⟨fun other member overlap => collides ?_, fun next member other inPrior => ?_⟩
          · exact any_eq_true.mpr ⟨other, member, decide_eq_true overlap⟩
          · exact remaining.later next member other (mem_cons_of_mem _ inPrior)
        · refine pairwise_cons.mpr ⟨fun next member overlap => ?_, remaining.disjoint⟩
          exact remaining.later next member descriptor mem_cons_self overlap.symm

/-- The second loop writes the claimed slots and no others. -/
theorem publishBatch_slots (length : claims.length = descriptors.length) (apart : (claims.map Prod.fst).Nodup) :
    (∀ pair ∈ descriptors.zip claims, (publishBatch owner descriptors claims).slots pair.2.1 =
      { owner.slots pair.2.1 with
        descriptor := pair.1, generation := pair.2.2, foregroundRequester := kernelObjectHandleInvalid
        foregroundToken := foregroundTokenInvalid }) ∧
    (∀ index ∉ claims.map Prod.fst, (publishBatch owner descriptors claims).slots index = owner.slots index) := by
  induction descriptors generalizing claims owner with
  | nil =>
    cases claims with
    | nil => exact ⟨by simp, fun _ _ => rfl⟩
    | cons claim tail => cases length
  | cons descriptor rest ih =>
    cases claims with
    | nil => cases length
    | cons claim tail =>
      obtain ⟨index, generation⟩ := claim
      rw [map_cons, nodup_cons] at apart
      obtain ⟨written, kept⟩ := @ih (publishSlot owner descriptor index generation) tail (Nat.succ.inj length) apart.2
      unfold publishBatch
      constructor
      · rw [zip_cons_cons]
        refine forall_mem_cons.mpr ⟨?_, fun pair member => ?_⟩
        · rw [kept index apart.1]
          exact Function.update_self ..
        · have elsewhere : pair.2.1 ≠ index := by
            rintro rfl
            exact apart.1 (mem_map.mpr ⟨pair.2, (of_mem_zip member).2, rfl⟩)
          rw [written pair member]
          simp [publishSlot, setSlot, elsewhere]
      · intro other outside
        rw [map_cons, mem_cons, not_or] at outside
        rw [kept other outside.2]
        exact Function.update_of_ne outside.1 _ _

theorem test_foldl_insert (claims : List (Fin 32 × ℕ)) (bitmap : BitVec 32) (index : Fin 32) :
    test (claims.foldl (fun bitmap claim => insert bitmap claim.1) bitmap) index =
      (test bitmap index || decide (index ∈ claims.map Prod.fst)) := by
  induction claims generalizing bitmap with
  | nil => simp
  | cons claim tail ih =>
    rw [foldl_cons, ih, test_insert _ claim.1.isLt index.isLt]
    have same : ((index : ℕ) = claim.1) = (index = claim.1) := propext Fin.ext_iff.symm
    simp only [same, map_cons, mem_cons, Bool.decide_or]
    cases decide (index = claim.1) <;> cases test bitmap index <;> rfl

theorem test_reservedBitmap (index : Fin 32) :
    test (reservedBitmap claims) index = decide (index ∈ claims.map Prod.fst) := by
  rw [reservedBitmap, test_foldl_insert]
  simp [test_zero]

theorem published_active (index : Fin 32) :
    slotIsActive (published owner descriptors claims) index =
      (slotIsActive owner index || decide (index ∈ claims.map Prod.fst)) := by
  unfold slotIsActive published
  rw [publishBatch_fields, test_or _ _ index.isLt, test_reservedBitmap]

/-- A slot after a registration: as before, or filled with one of the descriptors. -/
theorem Prepared.slot (prepared : Prepared owner prior reserved descriptors claims) (index : Fin 32) :
    (index ∉ claims.map Prod.fst ∧ (published owner descriptors claims).slots index = owner.slots index) ∨
      ∃ descriptor, (descriptor, index, (owner.slots index).generation + 1) ∈ descriptors.zip claims ∧
        (published owner descriptors claims).slots index = { owner.slots index with
          descriptor, generation := (owner.slots index).generation + 1
          foregroundRequester := kernelObjectHandleInvalid, foregroundToken := foregroundTokenInvalid } := by
  obtain ⟨written, kept⟩ := @publishBatch_slots owner _ _ prepared.length prepared.apart
  by_cases member : index ∈ claims.map Prod.fst
  · obtain ⟨claim, inClaims, rfl⟩ := mem_map.mp member
    have paired : claim ∈ (descriptors.zip claims).map Prod.snd := by
      rwa [map_snd_zip (Nat.le_of_eq prepared.length)]
    obtain ⟨⟨descriptor, claim⟩, inZip, rfl⟩ := mem_map.mp paired
    have generation := (prepared.fresh claim inClaims).2.2.2
    refine .inr ⟨descriptor, ?_, ?_⟩
    · rw [← generation]
      exact inZip
    · rw [← generation]
      exact written _ inZip
  · exact .inl ⟨member, kept index member⟩

theorem Prepared.pair_eq (prepared : Prepared owner prior reserved descriptors claims)
    {first second : IoResourceDescriptor × Fin 32 × ℕ} (inFirst : first ∈ descriptors.zip claims)
    (inSecond : second ∈ descriptors.zip claims) (apart : first ≠ second) : ¬ Overlap first.1 second.1 := by
  have disjoint : (descriptors.zip claims).Pairwise fun first second => ¬ Overlap first.1 second.1 := by
    have firsts := prepared.disjoint
    rw [← map_fst_zip (Nat.le_of_eq prepared.length.symm), pairwise_map] at firsts
    exact firsts
  have symmetric : Std.Symm fun first second : IoResourceDescriptor × Fin 32 × ℕ => ¬ Overlap first.1 second.1 :=
    ⟨fun _ _ apart overlap => apart overlap.symm⟩
  exact disjoint.forall inFirst inSecond apart

/-- A registration keeps the registry well formed. -/
theorem Registry.publish (registry : Registry owner) (prepared : Prepared owner [] 0 descriptors claims)
    (initialized : owner.initialized = true) : Registry (published owner descriptors claims) := by
  have wasActive : ∀ index, index ∉ claims.map Prod.fst → slotIsActive (published owner descriptors claims) index →
      slotIsActive owner index := by
    intro index outside active
    rw [published_active] at active
    simpa [outside] using active
  constructor
  · constructor
    · intro index active
      rcases prepared.slot index with ⟨outside, same⟩ | ⟨descriptor, member, slot⟩
      · rw [same]
        exact registry.counted.started index (wasActive index outside active)
      · rw [slot]
        exact Nat.le_add_left 1 _
    · intro index
      rcases prepared.slot index with ⟨_, same⟩ | ⟨descriptor, member, slot⟩
      · rw [same]
        exact registry.counted.bounded index
      · rw [slot]
        exact (prepared.fresh _ (of_mem_zip member).2).2.2.1
    · intro index
      rcases prepared.slot index with ⟨_, same⟩ | ⟨descriptor, member, slot⟩
      · rw [same]
        exact registry.counted.foreground index
      · rw [slot]
        exact registry.counted.foreground index
  · intro first second apart active active' overlap
    rcases prepared.slot first with ⟨outside, same⟩ | ⟨descriptor, member, slot⟩ <;>
      rcases prepared.slot second with ⟨outside', same'⟩ | ⟨descriptor', member', slot'⟩
    · rw [same, same'] at overlap
      exact registry.disjoint first second apart (wasActive _ outside active) (wasActive _ outside' active') overlap
    · rw [same, slot'] at overlap
      exact prepared.free descriptor' (of_mem_zip member').1 first (wasActive _ outside active) overlap.symm
    · rw [slot, same'] at overlap
      exact prepared.free descriptor (of_mem_zip member).1 second (wasActive _ outside' active') overlap
    · rw [slot, slot'] at overlap
      refine prepared.pair_eq member member' (fun same => apart ?_) overlap
      exact congrArg (fun pair => pair.2.1) same
  · intro index active
    rcases prepared.slot index with ⟨outside, same⟩ | ⟨descriptor, member, slot⟩
    · rw [same]
      exact registry.valid index (wasActive index outside active)
    · rw [slot]
      exact prepared.valid descriptor (of_mem_zip member).1
  · intro index token
    rcases prepared.slot index with ⟨_, same⟩ | ⟨descriptor, member, slot⟩
    · rw [same] at token ⊢
      exact registry.leased index token
    · rw [slot] at token
      exact absurd rfl token
  · intro unset
    have same : (published owner descriptors claims).initialized = owner.initialized := by
      unfold published
      rw [publishBatch_fields]
    rw [same, initialized] at unset
    cases unset

theorem Edited.generations (edited : Edited owner next index) (other : Fin 32) :
    (next.slots other).generation = (owner.slots other).generation := by
  by_cases same : other = index
  · rw [same, edited.generation]
  · rw [(edited.elsewhere other same).1]

/-- The registry stays well formed when the lease of the edited slot is. -/
theorem Registry.edit (registry : Registry owner) (edited : Edited owner next index)
    (foreground : (next.slots index).foregroundGeneration ≤ generationMax)
    (leased : (next.slots index).foregroundToken ≠ foregroundTokenInvalid →
      (next.slots index).foregroundToken =
        makeGenerationHandle index (next.slots index).foregroundGeneration foregroundTokenDomain ∧
      identityIsValid (next.slots index).foregroundRequester) : Registry next := by
  have each : ∀ other, slotIsActive next other → slotIsActive owner other ∧
      (next.slots other).descriptor = (owner.slots other).descriptor := by
    intro other active
    by_cases same : other = index
    · subst same
      exact edited.active active
    · obtain ⟨slot, bit⟩ := edited.elsewhere other same
      rw [bit] at active
      exact ⟨active, by rw [slot]⟩
  constructor
  · constructor
    · intro other active
      rw [edited.generations]
      exact registry.counted.started other (each other active).1
    · intro other
      rw [edited.generations]
      exact registry.counted.bounded other
    · intro other
      by_cases same : other = index
      · subst same
        exact foreground
      · rw [(edited.elsewhere other same).1]
        exact registry.counted.foreground other
  · intro first second apart active active'
    rw [(each first active).2, (each second active').2]
    exact registry.disjoint first second apart (each first active).1 (each second active').1
  · intro other active
    rw [(each other active).2]
    exact registry.valid other (each other active).1
  · intro other token
    by_cases same : other = index
    · subst same
      exact leased token
    · rw [(edited.elsewhere other same).1] at token ⊢
      exact registry.leased other token
  · intro unset
    rw [edited.initialized] at unset
    rw [edited.dispatch]
    obtain ⟨idle, inactive⟩ := registry.unset unset
    exact ⟨idle, fun other => Bool.eq_false_iff.mpr fun active =>
      Bool.eq_false_iff.mp (inactive other) (each other active).1⟩

end DosC32.IoResource
