import DosC32.Core.Run
import DosC32.Model.Paging

/-! # Entries up to the bits of the processor

The source compares entries without their accessed and dirty bits. Tables that agree in this sense
give the same answers to every check of the shadow functions, so these are decided by the tables
that boot left.
-/

namespace DosC32.X86Paging

open Effect

variable {left right third : BitVec 32}

/-- The entries agree but for what the processor changes. -/
def Agree (left right : BitVec 32) : Prop := left &&& ~~~pageHardwareMutable = right &&& ~~~pageHardwareMutable

theorem entriesMatch_iff : entriesMatchIgnoringCpuState left right = true ↔ Agree left right := by
  unfold entriesMatchIgnoringCpuState Agree
  exact beq_iff_eq

theorem Agree.refl (entry : BitVec 32) : Agree entry entry := rfl

variable (agree : Agree left right)
include agree

theorem Agree.symm : Agree right left := Eq.symm agree

theorem Agree.trans (agree' : Agree right third) : Agree left third := Eq.trans agree agree'

/-- Agreeing entries have the same bits under every mask that leaves the processor's bits out. -/
theorem Agree.masked (mask : BitVec 32) (clear : ~~~pageHardwareMutable &&& mask = mask) :
    left &&& mask = right &&& mask := by
  rw [← clear, ← BitVec.and_assoc, ← BitVec.and_assoc, agree]

theorem Agree.address : left &&& pageAddressMask = right &&& pageAddressMask := agree.masked _ (by decide)

theorem Agree.flags (writable : Bool) : left &&& requiredFlags writable = right &&& requiredFlags writable := by
  cases writable with
  | false | true => exact agree.masked _ (by decide)

omit agree

variable (page : ℕ)

/-- The address of a page has no bits among the flags. -/
theorem frame_and {mask : BitVec 32} (low : mask &&& 0xfff = mask) :
    BitVec.ofNat 32 (page * pageBytes) &&& mask = 0 := by
  have aligned : BitVec.ofNat 32 (page * pageBytes) &&& 0xfff = 0 := by
    apply BitVec.eq_of_toNat_eq
    rw [BitVec.toNat_and, BitVec.toNat_ofNat]
    change page * 4096 % 2 ^ 32 &&& (2 ^ 12 - 1) = 0
    rw [Nat.and_two_pow_sub_one_eq_mod]
    omega
  rw [← low, BitVec.and_comm mask, ← BitVec.and_assoc, aligned]
  exact BitVec.zero_and

theorem frame_address :
    BitVec.ofNat 32 (page * pageBytes) &&& pageAddressMask = BitVec.ofNat 32 (page * pageBytes) := by
  have split : ∀ word : BitVec 32, (word &&& pageAddressMask) ||| (word &&& 0xfff) = word := by
    intro word
    rw [← BitVec.and_or_distrib_left, show pageAddressMask ||| 0xfff = BitVec.allOnes 32 by decide, BitVec.and_allOnes]
  have whole := split (BitVec.ofNat 32 (page * pageBytes))
  rw [@frame_and page 0xfff (by decide)] at whole
  exact (BitVec.or_zero).symm.trans whole

/-- The parts of an entry for a page. -/
theorem entry_address {flags : BitVec 32} (low : flags &&& pageAddressMask = 0) :
    (BitVec.ofNat 32 (page * pageBytes) ||| flags) &&& pageAddressMask = BitVec.ofNat 32 (page * pageBytes) := by
  rw [BitVec.and_or_distrib_right, frame_address, low]
  exact BitVec.or_zero

theorem entry_flags (flags : BitVec 32) {mask : BitVec 32} (low : mask &&& 0xfff = mask) :
    (BitVec.ofNat 32 (page * pageBytes) ||| flags) &&& mask = flags &&& mask := by
  rw [BitVec.and_or_distrib_right, frame_and page low]
  exact BitVec.zero_or

variable {base paging next : X86Paging} {snapshot : PagingShadowSnapshot} {physical : ℕ}

/-- The tables have the directory and the settings of others. -/
structure Mirrors (base paging : X86Paging) : Prop where
  directory : ∀ table, Agree (paging.pageDirectory table) (base.pageDirectory table)
  enabled : paging.pagingEnabled = base.pagingEnabled
  limit : paging.pagingIdentityLimit = base.pagingIdentityLimit
  boot : paging.bootPageDirectory = base.bootPageDirectory
  active : paging.activePageDirectory = base.activePageDirectory

variable (mirrors : Mirrors base paging) {page : ℕ}
include mirrors

theorem Mirrors.setEntry (page : ℕ) (entry : BitVec 32) :
    Mirrors base (paging.setEntry page entry) := ⟨mirrors.1, mirrors.2, mirrors.3, mirrors.4, mirrors.5⟩

theorem Mirrors.bindingIsActive (binding : PagingBinding) :
    paging.bindingIsActive binding = base.bindingIsActive binding := by
  unfold X86Paging.bindingIsActive
  rw [mirrors.enabled, mirrors.boot, mirrors.active]

theorem Mirrors.bootPageEntry (address : ℕ) : paging.bootPageEntry address = base.bootPageEntry address := by
  have present := (mirrors.directory (address / pageTableSpan)).masked pagePresent (by decide)
  unfold X86Paging.bootPageEntry activeBootPageDirectory
  rw [mirrors.enabled, mirrors.limit, mirrors.boot, mirrors.active, present]

theorem Mirrors.guestDirectoryIsUserAccessible (address : ℕ) :
    paging.guestDirectoryIsUserAccessible address = base.guestDirectoryIsUserAccessible address := by
  have user := (mirrors.directory (address / pageTableSpan)).masked (pagePresent ||| pageUser) (by decide)
  unfold X86Paging.guestDirectoryIsUserAccessible
  rw [user]

theorem Mirrors.guestShadowSnapshotIsValid (snapshot : PagingShadowSnapshot) :
    paging.guestShadowSnapshotIsValid snapshot = base.guestShadowSnapshotIsValid snapshot := by
  unfold X86Paging.guestShadowSnapshotIsValid
  rw [mirrors.bindingIsActive]

omit mirrors

theorem bootPageEntry_eq {address : ℕ} (found : paging.bootPageEntry address = some page) :
    page = address / pageBytes := by
  unfold bootPageEntry at found
  split at found
  · cases found
  · exact (Option.some.inj found).symm

/-- The check of a target looks at an entry above the firmware only. -/
theorem Mirrors.privateShadowTargetIsSafe (mirrors : Mirrors base paging) (same : bootIdentityFloor ≤ physical →
      Agree (paging.identityPageTables (physical / pageBytes)) (base.identityPageTables (physical / pageBytes))) :
    paging.privateShadowTargetIsSafe physical = base.privateShadowTargetIsSafe physical := by
  unfold X86Paging.privateShadowTargetIsSafe
  rw [mirrors.limit, mirrors.bootPageEntry]
  split
  · rfl
  next inside =>
    have floor := (not_or.mp (not_or.mp inside).2).1
    have agree := same (Nat.le_of_not_lt floor)
    cases found : base.bootPageEntry physical with
    | none => rfl
    | some page =>
      obtain rfl := bootPageEntry_eq found
      dsimp only
      unfold isIdentityMapped isUser
      rw [agree.address, agree.masked (pagePresent ||| pageWritable) (by decide), agree.masked pageUser (by decide)]

theorem shadowEntry_address (aligned : physical % pageBytes = 0) :
    guestShadowEntry snapshot physical &&& pageAddressMask = BitVec.ofNat 32 physical := by
  have page : physical = physical / pageBytes * pageBytes := by
    unfold pageBytes at aligned ⊢
    omega
  unfold guestShadowEntry
  rw [page, BitVec.or_assoc]
  apply entry_address
  rw [BitVec.and_or_distrib_right, BitVec.and_assoc, BitVec.and_comm (~~~pageAddressMask), BitVec.and_not_self,
    show pageWritable &&& pageAddressMask = 0 by decide]
  exact BitVec.or_zero.trans BitVec.and_zero

/-- A shadow entry does not agree with its original. -/
theorem shadowEntry_differs (aligned : physical % pageBytes = 0)
    (original : snapshot.originalEntry &&& (pagePresent ||| pageUser ||| pageWritable) = pagePresent ||| pageUser)
    {entry : BitVec 32} (agree : Agree entry (guestShadowEntry snapshot physical)) :
    ¬ Agree entry snapshot.originalEntry := by
  intro same
  have flags := (agree.symm.trans same).flags true
  have page : physical = physical / pageBytes * pageBytes := by
    unfold pageBytes at aligned ⊢
    omega
  unfold requiredFlags guestShadowEntry at flags
  -- it has the flags of the original one, and is writable besides
  rw [if_pos rfl, original, page, BitVec.or_assoc, entry_flags _ _ (by decide), BitVec.and_or_distrib_right,
    BitVec.and_assoc, show ~~~pageAddressMask &&& (pagePresent ||| pageUser ||| pageWritable) =
      pagePresent ||| pageUser ||| pageWritable by decide, original] at flags
  exact absurd flags (by decide)

/-- What a valid snapshot says. -/
theorem snapshot_original (valid : base.guestShadowSnapshotIsValid snapshot = true) :
    snapshot.originalEntry &&& (pagePresent ||| pageUser ||| pageWritable) = pagePresent ||| pageUser := by
  simp only [guestShadowSnapshotIsValid, Bool.and_eq_true, beq_iff_eq] at valid
  exact valid.1.2

theorem guestShadowSnapshot_spec (binding : PagingBinding) (linearPage : ℕ) :
    wp (guestShadowSnapshot binding linearPage) paging
      (fun result next => next = paging ∧ result.linearPage = linearPage)
      (fun _ next => next = paging) := by
  simp only [guestShadowSnapshot, wp_rules, implies_true, and_self]

/-- A snapshot that was published. -/
structure Published (base : X86Paging) (snapshot : PagingShadowSnapshot) (physical : ℕ) : Prop where
  aligned : physical % pageBytes = 0
  valid : base.guestShadowSnapshotIsValid snapshot = true
  safe : base.privateShadowTargetIsSafe physical = true
  user : base.guestDirectoryIsUserAccessible snapshot.linearPage = true
  mapped : base.bootPageEntry snapshot.linearPage = some (snapshot.linearPage / pageBytes)

theorem guestShadowPublish_spec (snapshot : PagingShadowSnapshot) (physical : ℕ) :
    wp (guestShadowPublish snapshot physical) paging
      (fun _ next => Published paging snapshot physical ∧
        Agree (paging.identityPageTables (snapshot.linearPage / pageBytes)) snapshot.originalEntry ∧
        next = paging.setEntry (snapshot.linearPage / pageBytes) (guestShadowEntry snapshot physical))
      (fun _ next => next = paging) := by
  simp only [guestShadowPublish, wp_all]
  intro aligned valid safe user page found agree
  obtain rfl := bootPageEntry_eq found
  rw [Bool.not_eq_false] at valid safe user agree
  rw [not_not] at aligned
  exact ⟨⟨aligned, valid, safe, user, found⟩, entriesMatch_iff.mp agree, rfl⟩

/-- The shadow entry of a published snapshot is replaced by the original one. -/
theorem guestShadowRestore_spec (published : Published paging snapshot physical)
    (agree : Agree (paging.identityPageTables (snapshot.linearPage / pageBytes)) (guestShadowEntry snapshot physical)) :
    wp (guestShadowRestore snapshot physical) paging
      (fun _ next => next = paging.setEntry (snapshot.linearPage / pageBytes) snapshot.originalEntry)
      (fun _ _ => False) := by
  have differs := shadowEntry_differs published.aligned (snapshot_original published.valid) agree
  rw [← entriesMatch_iff] at differs agree
  simp only [guestShadowRestore, wp_split, published.aligned, published.valid, published.user, published.mapped]
  simp [differs, agree]

variable (present : ℕ → Bool) (frames : ℕ → ℕ) (tableCount directory : ℕ)

/-- An entry that boot left is empty, or maps its own page with the access of the policy. -/
theorem afterBoot_entry (page : ℕ) :
    (afterBoot present frames tableCount directory).identityPageTables page = 0 ∨
      (afterBoot present frames tableCount directory).identityPageTables page =
        BitVec.ofNat 32 (page * pageBytes) ||| (pagePresent ||| accessFlags (bootPageAccess (page * pageBytes))) := by
  simp only [afterBoot, bootEntry]
  split_ifs
  · exact .inr (BitVec.or_assoc _ _ _)
  · exact .inl rfl
  · exact .inl rfl

theorem accessFlags_address (access : X86PageAccess) : (pagePresent ||| accessFlags access) &&& pageAddressMask = 0 := by
  cases access <;> decide

/-- An entry of boot that permits an access maps its own page. -/
theorem afterBoot_permits {writable : Bool}
    (permits : (afterBoot present frames tableCount directory).identityPageTables page &&& requiredFlags writable =
      requiredFlags writable) :
    (afterBoot present frames tableCount directory).identityPageTables page &&& pageAddressMask =
        BitVec.ofNat 32 (page * pageBytes) ∧
      (pagePresent ||| accessFlags (bootPageAccess (page * pageBytes))) &&& requiredFlags writable =
        requiredFlags writable := by
  rcases afterBoot_entry present frames tableCount directory page with empty | entry
  · rw [empty, show (0 : BitVec 32) &&& requiredFlags writable = 0 from BitVec.zero_and] at permits
    cases writable <;> exact absurd permits (by decide)
  · rw [entry] at permits ⊢
    refine ⟨entry_address page (accessFlags_address _), ?_⟩
    rwa [entry_flags page _ (by cases writable <;> decide)] at permits

/-- A page that boot left writable for the guest is read-write by the policy. -/
theorem afterBoot_writable
    (permits : (afterBoot present frames tableCount directory).identityPageTables page &&& requiredFlags true =
      requiredFlags true) :
    (afterBoot present frames tableCount directory).identityPageTables page &&& pageAddressMask =
        BitVec.ofNat 32 (page * pageBytes) ∧ bootPageAccess (page * pageBytes) = .guestReadWrite := by
  obtain ⟨address, flags⟩ := afterBoot_permits present frames tableCount directory permits
  refine ⟨address, ?_⟩
  generalize bootPageAccess (page * pageBytes) = access at flags
  cases access with
  | guestReadWrite => rfl
  | guestReadOnly | supervisorReadWrite => exact absurd flags (by decide)

/-- A page that boot left open to the guest lies below the guest limit. -/
theorem afterBoot_user {writable : Bool}
    (permits : (afterBoot present frames tableCount directory).identityPageTables page &&& requiredFlags writable =
      requiredFlags writable) : page * pageBytes < realModeLinearLimit := by
  obtain ⟨-, flags⟩ := afterBoot_permits present frames tableCount directory permits
  by_contra above
  have access : bootPageAccess (page * pageBytes) = .supervisorReadWrite := by
    unfold realModeLinearLimit at above
    unfold bootPageAccess legacyVideoBase dosVideoLimit legacyRomLimit realModeLinearLimit
    rw [if_neg (by omega), if_neg (by omega), if_neg (by omega), if_neg (by omega)]
  rw [access] at flags
  cases writable <;> exact absurd flags (by decide)

/-- The first directory entry gives every access, the others none to the guest. -/
theorem afterBoot_directory (table : ℕ) (writable : Bool) :
    ((afterBoot present frames tableCount directory).pageDirectory table &&& requiredFlags writable =
      requiredFlags writable) ↔ table = 0 ∧ 0 < tableCount := by
  have low : requiredFlags writable &&& 0xfff = requiredFlags writable := by cases writable <;> decide
  simp only [afterBoot]
  by_cases mapped : table < tableCount
  · rw [if_pos mapped, BitVec.or_assoc, BitVec.or_assoc, entry_flags _ _ low]
    by_cases first : table = 0
    · rw [if_pos first]
      subst first
      cases writable <;> simp [mapped] <;> decide
    · rw [if_neg first]
      simp only [first, false_and, iff_false]
      cases writable <;> decide
  · rw [if_neg mapped, show (0 : BitVec 32) &&& requiredFlags writable = 0 from BitVec.zero_and]
    constructor
    · intro impossible
      cases writable <;> exact absurd impossible (by decide)
    · omega

end DosC32.X86Paging
