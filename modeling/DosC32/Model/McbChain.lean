import DosC32.Core.Tiling
import DosC32.Model.Memory

/-! # The abstract MCB chain

What an arena means: guest memory seen as 16-byte paragraphs, and a list of blocks whose headers
are stored in the paragraphs they begin at, whose extents tile the arena, and whose signatures say
`M` for every block but a last `Z`. The three edits that the arena manager makes to a chain
(relabelling a header, absorbing the following block, cutting a block in two) preserve it.
-/

namespace DosC32

open LittleEndian Store Tiling Function List

namespace McbRecord

variable (record : McbRecord) (signature : UInt8) (owner size : UInt16) (name : Fin 8 → UInt8) (count : UInt8)

@[simp] theorem signature_setSignature : (record.setSignature signature).signature = signature := by
  simp [McbRecord.signature, setSignature]

@[simp] theorem signature_setOwner : (record.setOwner owner).signature = record.signature := by
  simp [McbRecord.signature, setOwner]

@[simp] theorem signature_setSize : (record.setSize size).signature = record.signature := by
  simp [McbRecord.signature, setSize]

@[simp] theorem signature_patchOwnerName : (record.patchOwnerName name count).signature = record.signature := by
  simp [McbRecord.signature, patchOwnerName, mcbOwnerNameOffset]

@[simp] theorem owner_setSignature : (record.setSignature signature).owner = record.owner := by
  simp [McbRecord.owner, setSignature]

@[simp] theorem owner_setOwner : (record.setOwner owner).owner = owner := by
  simp [McbRecord.owner, setOwner]

@[simp] theorem owner_setSize : (record.setSize size).owner = record.owner := by
  simp [McbRecord.owner, setSize]

@[simp] theorem owner_patchOwnerName : (record.patchOwnerName name count).owner = record.owner := by
  simp [McbRecord.owner, patchOwnerName, mcbOwnerNameOffset]

@[simp] theorem size_setSignature : (record.setSignature signature).size = record.size := by
  simp [McbRecord.size, setSignature]

@[simp] theorem size_setOwner : (record.setOwner owner).size = record.size := by
  simp [McbRecord.size, setOwner]

@[simp] theorem size_setSize : (record.setSize size).size = size := by
  simp [McbRecord.size, setSize]

@[simp] theorem size_patchOwnerName : (record.patchOwnerName name count).size = record.size := by
  simp [McbRecord.size, patchOwnerName, mcbOwnerNameOffset]

end McbRecord

/-- One block of a chain: the segment of its header and the header itself. -/
@[ext] structure Mcb where
  segment : UInt16
  record : McbRecord
deriving DecidableEq

namespace Mcb

variable (block : Mcb)

def first : ℕ := block.segment.toNat

/-- Paragraphs taken by the header and the body. -/
def span : ℕ := block.record.size.toNat + 1

def isFree : Prop := block.record.owner = mcbOwnerFree
deriving Decidable

/-- Take over the extent and the signature of the block that follows. -/
def absorb (block following : Mcb) : Mcb :=
  ⟨block.segment, (block.record.setSize (UInt16.ofNat (block.record.size.toNat + following.record.size.toNat + 1))
    ).setSignature following.record.signature⟩

theorem span_pos : 0 < block.span := Nat.succ_pos _

variable (block following : Mcb)

@[simp] theorem absorb_segment : (block.absorb following).segment = block.segment := rfl

@[simp] theorem absorb_first : (block.absorb following).first = block.first := rfl

@[simp] theorem absorb_owner : (block.absorb following).record.owner = block.record.owner := by simp [absorb]

theorem absorb_assoc (block middle following : Mcb) :
    (block.absorb middle).absorb following = block.absorb (middle.absorb following) := by
  have size : UInt16.ofNat ((UInt16.ofNat (block.record.size.toNat + middle.record.size.toNat + 1)).toNat +
      following.record.size.toNat + 1) = UInt16.ofNat (block.record.size.toNat +
      (UInt16.ofNat (middle.record.size.toNat + following.record.size.toNat + 1)).toNat + 1) := by
    apply UInt16.toNat_inj.mp
    simp only [UInt16.toNat_ofNat']
    omega
  simp only [absorb, McbRecord.size_setSignature, McbRecord.size_setSize, McbRecord.signature_setSignature, size]
  refine Mcb.ext rfl (McbRecord.ext (funext fun index => ?_))
  simp only [McbRecord.setSignature, McbRecord.setSize, update_apply]
  grind

/-- Absorb a run of blocks, nearest first. -/
def absorbAll (run : List Mcb) : Mcb := run.foldl absorb block

@[simp] theorem absorbAll_nil : block.absorbAll [] = block := rfl

variable (run : List Mcb)

@[simp] theorem absorbAll_cons : block.absorbAll (following :: run) = (block.absorb following).absorbAll run := rfl

theorem absorbAll_absorb : block.absorb (following.absorbAll run) = (block.absorb following).absorbAll run := by
  induction run generalizing following with
  | nil => rfl
  | cons next run ih => rw [absorbAll_cons, absorbAll_cons, ih, absorb_assoc]

@[simp] theorem absorbAll_segment : (block.absorbAll run).segment = block.segment := by
  induction run generalizing block with
  | nil => rfl
  | cons next run ih => simp [ih]

@[simp] theorem absorbAll_owner : (block.absorbAll run).record.owner = block.record.owner := by
  induction run generalizing block with
  | nil => rfl
  | cons next run ih => simp [ih]

@[simp] theorem absorbAll_isFree : (block.absorbAll run).isFree ↔ block.isFree := by
  simp [isFree]

theorem absorb_span {block following : Mcb} (fits : block.span + following.span ≤ 0x10000) :
    (block.absorb following).span = block.span + following.span := by
  simp only [span, absorb, McbRecord.size_setSignature, McbRecord.size_setSize, UInt16.toNat_ofNat'] at fits ⊢
  omega

end Mcb

/-- Every signature is `M`, except a last `Z`. -/
def Signed : List Mcb → Prop
  | [] => False
  | [block] => block.record.signature = mcbSignatureEnd
  | block :: following :: rest => block.record.signature = mcbSignatureNormal ∧ Signed (following :: rest)

/-- Guest memory by paragraphs. -/
def paragraphs (memory : ℕ → UInt8) : ℕ → McbRecord := fun paragraph => ⟨fun index => memory (paragraph * 16 + index)⟩

/-- The blocks found by following headers from a segment, for at most `steps` headers. -/
def walkChain (cells : ℕ → McbRecord) : ℕ → UInt16 → Option (List Mcb)
  | 0, _ => none
  | steps + 1, segment =>
    let record := cells segment.toNat
    let next := segment.toNat + record.size.toNat + 1
    if record.signature = mcbSignatureEnd then some [⟨segment, record⟩]
    else if record.signature = mcbSignatureNormal ∧ next ≤ 0xffff then
      (walkChain cells steps (UInt16.ofNat next)).map (⟨segment, record⟩ :: ·)
    else none

/-- `blocks` are stored in `cells`, tile `[head, stop)` and are signed. -/
structure Chain (cells : ℕ → McbRecord) (head stop : ℕ) (blocks : List Mcb) : Prop where
  tiles : Tiles Mcb.first Mcb.span head blocks stop
  signed : Signed blocks
  stored : ∀ block ∈ blocks, cells block.first = block.record
  bounded : stop ≤ 0x10000

@[simp] theorem signed_cons_cons (block following : Mcb) (rest : List Mcb) :
    Signed (block :: following :: rest) ↔
      block.record.signature = mcbSignatureNormal ∧ Signed (following :: rest) := Iff.rfl

variable {block : Mcb}

theorem signed_cons_of_ne {rest : List Mcb} (some : rest ≠ []) :
    Signed (block :: rest) ↔ block.record.signature = mcbSignatureNormal ∧ Signed rest := by
  cases rest with
  | nil => contradiction
  | cons following rest => rfl

theorem signed_append {before after : List Mcb} (some : after ≠ []) :
    Signed (before ++ after) ↔ (∀ block ∈ before, block.record.signature = mcbSignatureNormal) ∧ Signed after := by
  induction before with
  | nil => simp
  | cons block rest ih =>
    rw [cons_append, signed_cons_of_ne (by simp [some]), ih, forall_mem_cons, and_assoc]

theorem Signed.signatureIsValid {blocks : List Mcb} (signed : Signed blocks) {block : Mcb}
    (member : block ∈ blocks) : block.record.signatureIsValid := by
  induction blocks with
  | nil => contradiction
  | cons head rest ih =>
    cases rest with
    | nil =>
      obtain rfl := mem_singleton.mp member
      exact .inr signed
    | cons following rest =>
      rcases mem_cons.mp member with rfl | inside
      · exact .inl signed.1
      · exact ih signed.2 inside

namespace Chain

variable {cells cells' : ℕ → McbRecord} {head stop : ℕ} {before after blocks : List Mcb} {block following : Mcb}

section

variable (chain : Chain cells head stop blocks)
include chain

theorem length_le : blocks.length ≤ mcbMaximumWalk := by
  have tiled := chain.tiles.length_le Mcb.span_pos
  have bounded := chain.bounded
  simp only [mcbMaximumWalk]
  omega

theorem extent_le (member : block ∈ blocks) : block.first + block.span ≤ 0x10000 :=
  Nat.le_trans (chain.tiles.bounds member).2 chain.bounded

theorem extentIsValid (member : block ∈ blocks) : McbRecord.extentIsValid block.segment block.record := by
  have extent := chain.extent_le member
  simp only [Mcb.first, Mcb.span, McbRecord.extentIsValid] at extent ⊢
  omega

theorem eq_of_segment (member : block ∈ blocks)
    (member' : following ∈ blocks) (same : block.segment = following.segment) : block = following :=
  chain.tiles.eq_of_first Mcb.span_pos member member' (congrArg UInt16.toNat same)

end

/-- A block that is not signed as the end is followed by the block its header points at. -/
theorem exists_next (chain : Chain cells head stop (before ++ block :: after))
    (open_ : block.record.signature ≠ mcbSignatureEnd) :
    ∃ following rest, after = following :: rest ∧
      following.segment = UInt16.ofNat (block.segment.toNat + block.record.size.toNat + 1) ∧
      block.segment.toNat + block.record.size.toNat + 1 ≤ 0xffff := by
  have signed := ((signed_append (cons_ne_nil _ _)).mp chain.signed).2
  cases after with
  | nil => exact (open_ signed).elim
  | cons following rest =>
    refine ⟨following, rest, rfl, ?_⟩
    obtain ⟨_, _, here, next, _⟩ := tiles_append.mp chain.tiles
    have bound := following.segment.toNat_lt
    simp only [Mcb.first, Mcb.span] at here next
    refine ⟨UInt16.toNat_inj.mp ?_, by omega⟩
    rw [UInt16.toNat_ofNat']
    omega

theorem last_of_end (chain : Chain cells head stop (before ++ block :: after))
    (closed : block.record.signature = mcbSignatureEnd) : after = [] := by
  have signed := ((signed_append (cons_ne_nil _ _)).mp chain.signed).2
  cases after with
  | nil => rfl
  | cons following rest =>
    rw [signed_cons_cons, closed] at signed
    exact absurd signed.1 (by decide)

/-- A chain of one block. -/
theorem single (cells : ℕ → McbRecord) (segment : UInt16) {record : McbRecord}
    (closed : record.signature = mcbSignatureEnd) (ends : segment.toNat + record.size.toNat + 1 = stop)
    (bounded : stop ≤ 0x10000) :
    Chain (update cells segment.toNat record) segment.toNat stop [⟨segment, record⟩] := by
  refine ⟨⟨rfl, ends⟩, closed, fun block member => ?_, bounded⟩
  obtain rfl := mem_singleton.mp member
  exact update_self _ _ _

/-- Exchange a run of blocks for another one over the same paragraphs. -/
theorem exchange (run run' : List Mcb) (chain : Chain cells head stop (before ++ (run ++ after))) (some : run ≠ [])
    (tiles : ∀ low high, high ≤ 0x10000 → Tiles Mcb.first Mcb.span low run high →
      Tiles Mcb.first Mcb.span low run' high) (signed : Signed (run ++ after) → Signed (run' ++ after))
    (stored : ∀ block ∈ run', cells' block.first = block.record)
    (frame : AgreeOff (run'.map Mcb.first) cells' cells) : Chain cells' head stop (before ++ (run' ++ after)) := by
  obtain ⟨low, left, rest⟩ := tiles_append.mp chain.tiles
  obtain ⟨high, middle, right⟩ := tiles_append.mp rest
  have middle' := tiles low high (Nat.le_trans right.le chain.bounded) middle
  have some' : run' ++ after ≠ [] := by
    intro empty
    have := ((signed_append (by simp [some])).mp chain.signed).2
    rw [empty] at signed
    exact signed this
  have apart : ∀ block ∈ before ++ after, block.first ∉ run'.map Mcb.first := by
    intro block member inside
    obtain ⟨block', member', same⟩ := mem_map.mp inside
    have inner := middle'.bounds member'
    have positive := block.span_pos
    have positive' := block'.span_pos
    rcases mem_append.mp member with isBefore | isAfter
    · have := left.bounds isBefore
      omega
    · have := right.bounds isAfter
      omega
  refine ⟨tiles_append.mpr ⟨low, left, tiles_append.mpr ⟨high, middle', right⟩⟩, ?_, ?_, chain.bounded⟩
  · have old := (signed_append (by simp [some])).mp chain.signed
    exact (signed_append some').mpr ⟨old.1, signed old.2⟩
  · intro block member
    simp only [mem_append] at member
    rcases member with isBefore | isRun | isAfter
    · rw [frame _ (apart block (by simp [isBefore]))]
      exact chain.stored block (by simp [isBefore])
    · exact stored block isRun
    · rw [frame _ (apart block (by simp [isAfter]))]
      exact chain.stored block (by simp [isAfter])

/-- Rewrite a header without changing its size or its signature. -/
theorem relabel (chain : Chain cells head stop (before ++ block :: after)) {record : McbRecord}
    (size : record.size = block.record.size) (signature : record.signature = block.record.signature) :
    Chain (update cells block.first record) head stop (before ++ ⟨block.segment, record⟩ :: after) := by
  refine exchange [block] [⟨block.segment, record⟩] chain (by simp) ?_ ?_ ?_ ?_
  · simp [Tiles, Mcb.first, Mcb.span, size]
  · cases after <;> simp [Signed, signature]
  · simp [Mcb.first]
  · intro paragraph outside
    exact update_of_ne (by simpa [Mcb.first] using outside) _ _

/-- Let a block absorb the one that follows. -/
theorem absorb (chain : Chain cells head stop (before ++ block :: following :: after)) :
    Chain (update cells block.first (block.absorb following).record) head stop
      (before ++ block.absorb following :: after) := by
  refine exchange [block, following] [block.absorb following] chain (by simp) ?_ ?_ ?_ ?_
  · rintro low high bound ⟨here, next, rfl⟩
    refine ⟨here, ?_⟩
    change low + (block.absorb following).span = low + block.span + following.span
    rw [Mcb.absorb_span (by omega)]
    omega
  · cases after <;> simp +contextual [Signed, Mcb.absorb]
  · simp
  · intro paragraph outside
    exact update_of_ne (by simpa using outside) _ _

/-- Cut a block in two. -/
theorem split (chain : Chain cells head stop (before ++ block :: after)) {lower upper : Mcb}
    (starts : lower.segment = block.segment) (meets : upper.first = block.first + lower.span)
    (spans : lower.span + upper.span = block.span) (normal : lower.record.signature = mcbSignatureNormal)
    (signature : upper.record.signature = block.record.signature) :
    Chain (update (update cells upper.first upper.record) lower.first lower.record) head stop
      (before ++ lower :: upper :: after) := by
  have here : lower.first = block.first := congrArg UInt16.toNat starts
  have positive := lower.span_pos
  refine exchange [block] [lower, upper] chain (by simp) ?_ ?_ ?_ ?_
  · rintro low high bound ⟨begin_, rfl⟩
    refine ⟨here.trans begin_, by omega, ?_⟩
    change low + lower.span + upper.span = low + block.span
    omega
  · cases after <;> simp [Signed, normal, signature]
  · intro member isMember
    rcases mem_cons.mp isMember with rfl | isUpper
    · exact update_self _ _ _
    · obtain rfl := mem_singleton.mp isUpper
      rw [update_of_ne (by omega), update_self]
  · intro paragraph outside
    simp only [map_cons, map_nil, mem_cons, not_mem_nil, or_false, not_or] at outside
    rw [update_of_ne outside.1, update_of_ne outside.2]

/-- The walk from the head finds exactly the blocks of the chain. -/
theorem walk_eq (chain : Chain cells head stop (before ++ block :: after)) {steps : ℕ}
    (enough : after.length < steps) : walkChain cells steps block.segment = some (block :: after) := by
  induction after generalizing before block steps with
  | nil =>
    obtain ⟨steps, rfl⟩ := Nat.exists_eq_add_of_lt enough
    have closed : block.record.signature = mcbSignatureEnd :=
      ((signed_append (cons_ne_nil _ _)).mp chain.signed).2
    have stored : cells block.segment.toNat = block.record := chain.stored block (by simp)
    simp only [length_nil, Nat.zero_add, walkChain]
    rw [stored, if_pos closed]
  | cons following rest ih =>
    obtain ⟨steps, rfl⟩ := Nat.exists_eq_add_of_lt (Nat.lt_of_le_of_lt (Nat.zero_le _) enough)
    have signed := ((signed_append (cons_ne_nil _ _)).mp chain.signed).2
    have stored : cells block.segment.toNat = block.record := chain.stored block (by simp)
    have notEnd : block.record.signature ≠ mcbSignatureEnd := by
      rw [signed.1]
      decide
    obtain ⟨next, tail, same, segment, bound⟩ := chain.exists_next notEnd
    obtain ⟨rfl, rfl⟩ := cons.inj same
    have tailChain : Chain cells head stop ((before ++ [block]) ++ following :: rest) := by simpa using chain
    have tailEnough : rest.length < steps := by
      simp only [length_cons] at enough
      omega
    simp only [Nat.zero_add, walkChain, stored]
    rw [if_neg notEnd, if_pos ⟨signed.1, bound⟩, ← segment, ih tailChain tailEnough]
    rfl

end Chain

/-- Some free blocks have absorbed free blocks that followed them. -/
inductive Merging : List Mcb → List Mcb → Prop
  | refl (blocks : List Mcb) : Merging blocks blocks
  | keep (block : Mcb) {rest rest' : List Mcb} : Merging rest rest' → Merging (block :: rest) (block :: rest')
  | absorb {block : Mcb} {run rest rest' : List Mcb} : block.isFree → (∀ free ∈ run, free.isFree) →
      Merging rest rest' → Merging (block :: (run ++ rest)) (block.absorbAll run :: rest')

/-- The blocks in use. -/
def owned (blocks : List Mcb) : List Mcb := blocks.filter (fun block => ¬ block.isFree)

/-- Where the free blocks begin. -/
def freeStarts (blocks : List Mcb) : List ℕ := (blocks.filter (fun block => block.isFree)).map Mcb.first

theorem owned_append (before after : List Mcb) : owned (before ++ after) = owned before ++ owned after :=
  filter_append _ _

theorem owned_cons_free (free : block.isFree) (rest : List Mcb) : owned (block :: rest) = owned rest := by
  simp [owned, free]

theorem owned_eq_nil {blocks : List Mcb} (free : ∀ block ∈ blocks, block.isFree) : owned blocks = [] := by
  simpa [owned] using free

namespace Merging

variable {blocks blocks' : List Mcb}

theorem owned_eq (merging : Merging blocks blocks') : owned blocks' = owned blocks := by
  induction merging with
  | refl => rfl
  | keep block _ ih => simp only [owned, filter_cons] at ih ⊢; rw [ih]
  | absorb free runFree _ ih =>
    rw [owned_cons_free ((Mcb.absorbAll_isFree _ _).mpr free), owned_cons_free free, owned_append, ih,
      owned_eq_nil runFree, nil_append]

/-- Merging introduces no new block start. -/
theorem exists_segment (merging : Merging blocks blocks') {block : Mcb} (member : block ∈ blocks') :
    ∃ old ∈ blocks, old.segment = block.segment := by
  induction merging with
  | refl => exact ⟨block, member, rfl⟩
  | keep first _ ih =>
    rcases mem_cons.mp member with rfl | inside
    · exact ⟨block, by simp, rfl⟩
    · obtain ⟨old, isOld, same⟩ := ih inside
      exact ⟨old, by simp [isOld], same⟩
  | absorb _ _ _ ih =>
    rcases mem_cons.mp member with rfl | inside
    · exact ⟨_, mem_cons_self, (Mcb.absorbAll_segment _ _).symm⟩
    · obtain ⟨old, isOld, same⟩ := ih inside
      exact ⟨old, by simp [isOld], same⟩

end Merging

/-- Let every maximal run of free blocks become one block. -/
def mergeRuns : List Mcb → List Mcb
  | [] => []
  | block :: rest =>
    match mergeRuns rest with
    | [] => [block]
    | following :: rest' =>
      if block.isFree ∧ following.isFree then block.absorb following :: rest' else block :: following :: rest'

theorem mergeRuns_of_owned (used : ¬ block.isFree) (rest : List Mcb) :
    mergeRuns (block :: rest) = block :: mergeRuns rest := by
  rw [mergeRuns]
  split <;> rename_i shape <;> simp [shape, used]

theorem mergeRuns_of_free (free : block.isFree) {run rest : List Mcb}
    (runFree : ∀ following ∈ run, following.isFree) (stops : ∀ following ∈ rest.head?, ¬ following.isFree) :
    mergeRuns (block :: (run ++ rest)) = block.absorbAll run :: mergeRuns rest := by
  induction run generalizing block with
  | nil =>
    rw [nil_append, mergeRuns]
    cases rest with
    | nil => rfl
    | cons following rest =>
      have used := stops following rfl
      rw [mergeRuns_of_owned used]
      simp [used]
  | cons next run ih =>
    rw [forall_mem_cons] at runFree
    rw [cons_append, mergeRuns, ih runFree.1 runFree.2]
    simp [free, runFree.1, Mcb.absorbAll_absorb]

end DosC32
