import DosC32.Model.Machine

/-! # The boot page tables

`kernel/x86_paging.c` and the access policy of `kernel/x86_page_policy.c`. The tables are numbered by
page: entry `n` maps the linear page at `n * 4096`. Linear and physical addresses are natural numbers,
entries are words. Which pages the firmware reports as present is a parameter, and the translation
cache is left out: the source flushes it wherever an entry changes under the active directory.
-/

namespace DosC32

open Effect

/-- `enum x86_page_access`. -/
inductive X86PageAccess where
  | supervisorReadWrite
  | guestReadWrite
  | guestReadOnly

/-- `struct x86_paging_binding`. -/
structure PagingBinding where
  (generation pageDirectory guestLinearLimit : ℕ)

/-- `struct x86_paging_guest_shadow_snapshot`. -/
structure PagingShadowSnapshot where
  paging : PagingBinding
  linearPage : ℕ
  originalEntry : BitVec 32
  reserved : List UInt8

/-- `struct x86_paging_guest_translation`. -/
structure PagingTranslation where
  (physicalAddress contiguousBytes : ℕ)
deriving DecidableEq

/-- `enum x86_paging_guest_shadow_status` without `X86_PAGING_GUEST_SHADOW_OK`. -/
inductive PagingShadowError where
  | invalidArgument
  | staleBinding
  | sourceMismatch
  | targetDenied
  | mappingMismatch

/-- The page tables, where `page_directory` lies, and the directory that the processor uses. -/
structure X86Paging where
  (pageDirectory identityPageTables : ℕ → BitVec 32)
  pagingEnabled : Bool
  (pagingIdentityLimit bootPageDirectory activePageDirectory : ℕ)

namespace X86Paging

def pageBytes : ℕ := 4096
def pageTableEntries : ℕ := 1024
def pageTableSpan : ℕ := pageBytes * pageTableEntries
def bootIdentityFloor : ℕ := 0x00800000
def bootIdentityLimit : ℕ := 0x10000000
def bootPageTableCapacity : ℕ := bootIdentityLimit / pageTableSpan
def legacyVideoBase : ℕ := 0x000a0000
def dosVideoLimit : ℕ := 0x000c0000
def legacyRomLimit : ℕ := 0x00100000
def realModeLinearLimit : ℕ := 0x00110000
def bootPagingGeneration : ℕ := 1

def pagePresent : BitVec 32 := 0x001
def pageWritable : BitVec 32 := 0x002
def pageUser : BitVec 32 := 0x004
def pageAccessed : BitVec 32 := 0x020
def pageDirty : BitVec 32 := 0x040
def pageAddressMask : BitVec 32 := 0xfffff000
def pageHardwareMutable : BitVec 32 := pageAccessed ||| pageDirty

/-- `x86_boot_page_access`. -/
def bootPageAccess (linearAddress : ℕ) : X86PageAccess :=
  if linearAddress < legacyVideoBase then .guestReadWrite
  else if linearAddress < dosVideoLimit then .supervisorReadWrite
  else if linearAddress < legacyRomLimit then .guestReadOnly
  else if linearAddress < realModeLinearLimit then .guestReadWrite
  else .supervisorReadWrite

/-- `access_flags`. -/
def accessFlags : X86PageAccess → BitVec 32
  | .guestReadWrite => pageWritable ||| pageUser
  | .guestReadOnly => pageUser
  | .supervisorReadWrite => pageWritable

/-- The entry that `x86_paging_initialize` stores for a page of a mapped table. -/
def bootEntry (present : ℕ → Bool) (page : ℕ) : BitVec 32 :=
  if present page then
    BitVec.ofNat 32 (page * pageBytes) ||| pagePresent ||| accessFlags (bootPageAccess (page * pageBytes))
  else 0

/-- The state that `x86_paging_initialize` leaves with a number of mapped tables; `frames` are the pages of the tables. -/
def afterBoot (present : ℕ → Bool) (frames : ℕ → ℕ) (tableCount bootPageDirectory : ℕ) : X86Paging where
  pageDirectory := fun table =>
    if table < tableCount then
      BitVec.ofNat 32 (frames table * pageBytes) ||| pagePresent ||| pageWritable |||
        (if table = 0 then pageUser else 0)
    else 0
  identityPageTables := fun page => if page < tableCount * pageTableEntries then bootEntry present page else 0
  pagingEnabled := true
  pagingIdentityLimit := tableCount * pageTableSpan
  bootPageDirectory := bootPageDirectory
  activePageDirectory := bootPageDirectory

variable (paging : X86Paging)

/-- `x86_paging_binding_is_active`. -/
def bindingIsActive (binding : PagingBinding) : Bool :=
  paging.pagingEnabled && binding.generation == bootPagingGeneration &&
    binding.pageDirectory == paging.bootPageDirectory && binding.guestLinearLimit == realModeLinearLimit &&
    paging.activePageDirectory == binding.pageDirectory

/-- `active_boot_page_directory`. -/
def activeBootPageDirectory : Bool :=
  paging.pagingEnabled && decide (dosVideoLimit ≤ paging.pagingIdentityLimit) &&
    paging.activePageDirectory == paging.bootPageDirectory

/-- `boot_page_entry`: the number of the entry. -/
def bootPageEntry (linearAddress : ℕ) : Option ℕ :=
  if paging.activeBootPageDirectory = false ∨ paging.pagingIdentityLimit ≤ linearAddress ∨
      bootPageTableCapacity ≤ linearAddress / pageTableSpan ∨
      paging.pageDirectory (linearAddress / pageTableSpan) &&& pagePresent = 0 then none
  else some (linearAddress / pageBytes)

/-- `guest_directory_is_user_accessible`. -/
def guestDirectoryIsUserAccessible (linearAddress : ℕ) : Bool :=
  decide (linearAddress / pageTableSpan < bootPageTableCapacity) &&
    paging.pageDirectory (linearAddress / pageTableSpan) &&& (pagePresent ||| pageUser) == pagePresent ||| pageUser

/-- Store an entry. -/
def setEntry (page : ℕ) (entry : BitVec 32) : X86Paging :=
  { paging with identityPageTables := fun other => if other = page then entry else paging.identityPageTables other }

variable (address count : ℕ)

/-- `legacy_video_range`: the limit of a page-aligned range inside the video window. -/
def legacyVideoRange : Option ℕ :=
  if count = 0 ∨ address % pageBytes ≠ 0 ∨ count % pageBytes ≠ 0 ∨ address < legacyVideoBase ∨
      dosVideoLimit ≤ address ∨ dosVideoLimit - address < count then none
  else some (address + count)

/-- The numbers of the pages that a loop from `address` up to `limit` visits. -/
def pagesOf (address limit : ℕ) : List ℕ :=
  (List.range ((limit - address) / pageBytes)).map (address / pageBytes + ·)

/-- A present, writable mapping of a page to itself. -/
def isIdentityMapped (page : ℕ) : Bool :=
  paging.identityPageTables page &&& pageAddressMask == BitVec.ofNat 32 (page * pageBytes) &&
    paging.identityPageTables page &&& (pagePresent ||| pageWritable) == pagePresent ||| pageWritable

/-- The user bit of an entry is set. -/
def isUser (page : ℕ) : Bool := paging.identityPageTables page &&& pageUser != 0

/-- `legacy_video_identity_mappings_are_valid`. -/
def legacyVideoIdentityMappingsAreValid (requireUser forbidUser : Bool) : Bool :=
  match legacyVideoRange address count with
  | none => false
  | some limit => (pagesOf address limit).all fun page =>
    paging.isIdentityMapped page && (!requireUser || paging.isUser page) && !(forbidUser && paging.isUser page)

/-- The loop of `force_legacy_video_supervisor`: the tables it leaves, and whether every mapping was valid. -/
def forcePages : List ℕ → X86Paging → X86Paging × Bool
  | [], paging => (paging, true)
  | page :: rest, paging =>
    let forced := forcePages rest
      (if paging.isUser page then paging.setEntry page (paging.identityPageTables page &&& ~~~pageUser) else paging)
    (forced.1, paging.isIdentityMapped page && forced.2)

/-- `force_legacy_video_supervisor`. -/
def forceLegacyVideoSupervisor : X86Paging × Bool :=
  match legacyVideoRange address count with
  | none => (paging, false)
  | some limit =>
    let forced := forcePages (pagesOf address limit) paging
    (forced.1, paging.activeBootPageDirectory && forced.2)

/-- The loop of `x86_paging_grant_legacy_video_range`. -/
def openPages : List ℕ → X86Paging → X86Paging
  | [], paging => paging
  | page :: rest, paging => openPages rest (paging.setEntry page (paging.identityPageTables page ||| pageUser))

/-- `x86_paging_grant_legacy_video_range`. -/
def grantLegacyVideoRange : X86Paging × Bool :=
  match legacyVideoRange address count with
  | none => ((paging.forceLegacyVideoSupervisor address count).1, false)
  | some limit =>
    if paging.activeBootPageDirectory && paging.legacyVideoIdentityMappingsAreValid address count false true then
      (openPages (pagesOf address limit) paging, true)
    else ((paging.forceLegacyVideoSupervisor address count).1, false)

/-- `x86_paging_revoke_legacy_video_range`. -/
def revokeLegacyVideoRange : X86Paging × Bool := paging.forceLegacyVideoSupervisor address count

/-- `x86_paging_legacy_video_range_is_user_accessible`. -/
def legacyVideoRangeIsUserAccessible : Bool :=
  paging.activeBootPageDirectory && paging.legacyVideoIdentityMappingsAreValid address count true false

/-- `entries_match_ignoring_cpu_state`. -/
def entriesMatchIgnoringCpuState (left right : BitVec 32) : Bool :=
  left &&& ~~~pageHardwareMutable == right &&& ~~~pageHardwareMutable

/-- `private_shadow_target_is_safe`. -/
def privateShadowTargetIsSafe (physicalPage : ℕ) : Bool :=
  if physicalPage % pageBytes ≠ 0 ∨ physicalPage < bootIdentityFloor ∨ paging.pagingIdentityLimit ≤ physicalPage then false
  else match paging.bootPageEntry physicalPage with
    | none => false
    | some page => paging.isIdentityMapped page && !paging.isUser page

variable (snapshot : PagingShadowSnapshot)

/-- `guest_shadow_snapshot_is_valid`. -/
def guestShadowSnapshotIsValid : Bool :=
  paging.bindingIsActive snapshot.paging && decide (dosVideoLimit ≤ snapshot.linearPage) &&
    decide (snapshot.linearPage < legacyRomLimit) && snapshot.linearPage % pageBytes == 0 &&
    snapshot.originalEntry &&& pageAddressMask == BitVec.ofNat 32 snapshot.linearPage &&
    snapshot.originalEntry &&& (pagePresent ||| pageUser ||| pageWritable) == pagePresent ||| pageUser &&
    snapshot.reserved.all (· == 0)

variable (privatePhysicalPage : ℕ)

/-- `guest_shadow_entry`. -/
def guestShadowEntry : BitVec 32 :=
  BitVec.ofNat 32 privatePhysicalPage ||| (snapshot.originalEntry &&& ~~~pageAddressMask) ||| pageWritable

/-- The flags that an access needs. -/
def requiredFlags (writable : Bool) : BitVec 32 :=
  if writable then pagePresent ||| pageUser ||| pageWritable else pagePresent ||| pageUser

/-- `x86_paging_guest_identity_translate`. -/
def guestIdentityTranslate (binding : PagingBinding) (address : ℕ) (writable : Bool) : Option PagingTranslation :=
  if paging.bindingIsActive binding = false ∨ binding.guestLinearLimit ≤ address ∨
      paging.guestDirectoryIsUserAccessible address = false then none
  else match paging.bootPageEntry (address / pageBytes * pageBytes) with
    | none => none
    | some page =>
      if paging.identityPageTables page &&& pageAddressMask ≠ BitVec.ofNat 32 (address / pageBytes * pageBytes) ∨
          paging.identityPageTables page &&& requiredFlags writable ≠ requiredFlags writable then none
      else some ⟨address, pageBytes - address % pageBytes⟩

abbrev PagingM := EStateM PagingShadowError X86Paging

/-- `x86_paging_guest_shadow_snapshot`. -/
def guestShadowSnapshot (binding : PagingBinding) (linearPage : ℕ) : PagingM PagingShadowSnapshot := do
  failWhen (linearPage % pageBytes ≠ 0 ∨ linearPage < dosVideoLimit ∨ legacyRomLimit ≤ linearPage) .invalidArgument
  let paging ← get
  failWhen (paging.bindingIsActive binding = false) .staleBinding
  failWhen (paging.guestDirectoryIsUserAccessible linearPage = false) .sourceMismatch
  let page ← demand (paging.bootPageEntry linearPage) .sourceMismatch
  failWhen (paging.identityPageTables page &&& pageAddressMask ≠ BitVec.ofNat 32 linearPage ∨
    paging.identityPageTables page &&& (pagePresent ||| pageUser ||| pageWritable) ≠ pagePresent ||| pageUser)
    .sourceMismatch
  pure ⟨binding, linearPage, paging.identityPageTables page, [0, 0, 0, 0, 0, 0, 0, 0]⟩

/-- `x86_paging_guest_shadow_publish`. -/
def guestShadowPublish : PagingM Unit := do
  failWhen (privatePhysicalPage % pageBytes ≠ 0) .invalidArgument
  let paging ← get
  failWhen (paging.guestShadowSnapshotIsValid snapshot = false) .staleBinding
  failWhen (paging.privateShadowTargetIsSafe privatePhysicalPage = false) .targetDenied
  failWhen (paging.guestDirectoryIsUserAccessible snapshot.linearPage = false) .sourceMismatch
  let page ← demand (paging.bootPageEntry snapshot.linearPage) .sourceMismatch
  failWhen (entriesMatchIgnoringCpuState (paging.identityPageTables page) snapshot.originalEntry = false) .sourceMismatch
  modify (·.setEntry page (guestShadowEntry snapshot privatePhysicalPage))

/-- `x86_paging_guest_shadow_restore`. -/
def guestShadowRestore : PagingM Unit := do
  failWhen (privatePhysicalPage % pageBytes ≠ 0) .invalidArgument
  let paging ← get
  failWhen (paging.guestShadowSnapshotIsValid snapshot = false) .staleBinding
  let page ← demand (paging.bootPageEntry snapshot.linearPage) .staleBinding
  if entriesMatchIgnoringCpuState (paging.identityPageTables page) snapshot.originalEntry then
    failWhen (paging.guestDirectoryIsUserAccessible snapshot.linearPage = false) .mappingMismatch
  else do
    modify (·.setEntry page snapshot.originalEntry)
    failWhen (entriesMatchIgnoringCpuState (paging.identityPageTables page)
      (guestShadowEntry snapshot privatePhysicalPage) = false ∨
      paging.guestDirectoryIsUserAccessible snapshot.linearPage = false) .mappingMismatch

/-- `x86_paging_guest_shadow_translate`. -/
def guestShadowTranslate (privatePhysicalPage address : ℕ) (writable : Bool) : Option PagingTranslation :=
  if paging.guestShadowSnapshotIsValid snapshot = false ∨ paging.privateShadowTargetIsSafe privatePhysicalPage = false ∨
      paging.guestDirectoryIsUserAccessible snapshot.linearPage = false ∨ address < snapshot.linearPage ∨
      snapshot.linearPage + pageBytes ≤ address then none
  else match paging.bootPageEntry snapshot.linearPage with
    | none => none
    | some page =>
      if entriesMatchIgnoringCpuState (paging.identityPageTables page)
            (guestShadowEntry snapshot privatePhysicalPage) = false ∨
          paging.identityPageTables page &&& requiredFlags writable ≠ requiredFlags writable then none
      else some ⟨privatePhysicalPage + (address - snapshot.linearPage), pageBytes - (address - snapshot.linearPage)⟩

end X86Paging

end DosC32
