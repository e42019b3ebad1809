import DosC32.Model.Paging

/-! # The video window of the page tables

What a grant and a revocation do to the user bits, page by page. A revocation closes every page of
its range whatever the entries hold; a grant that fails opens nothing.
-/

namespace DosC32.X86Paging

variable {paging : X86Paging} {address count limit page : ℕ}

theorem isUser_setEntry (page other : ℕ) (entry : BitVec 32) :
    (paging.setEntry page entry).isUser other = if other = page then entry &&& pageUser != 0 else paging.isUser other := by
  unfold isUser setEntry
  by_cases same : other = page
  · simp [same]
  · simp [same]

theorem user_cleared (entry : BitVec 32) : (entry &&& ~~~pageUser) &&& pageUser = 0 := by
  rw [BitVec.and_assoc, BitVec.and_comm _ pageUser, BitVec.and_not_self]
  exact BitVec.and_zero

theorem user_opened (entry : BitVec 32) : (entry ||| pageUser) &&& pageUser ≠ 0 := by
  intro closed
  have bit := congrArg (fun word => BitVec.getLsbD word 2) closed
  simp [pageUser] at bit

/-- The loop of a revocation closes its pages and no others. -/
theorem isUser_forcePages (pages : List ℕ) (other : ℕ) :
    (forcePages pages paging).1.isUser other = (paging.isUser other && !pages.contains other) := by
  induction pages generalizing paging with
  | nil => simp [forcePages]
  | cons page rest ih =>
    simp only [forcePages, List.contains_cons]
    rw [ih]
    by_cases same : other = page
    · subst same
      by_cases opened : paging.isUser other = true
      · simp [opened, isUser_setEntry, user_cleared]
      · simp [opened]
    · have differs : (other == page) = false := beq_eq_false_iff_ne.mpr same
      by_cases opened : paging.isUser page = true
      · simp [opened, isUser_setEntry, same, differs]
      · simp [opened, differs]

/-- The loop of a grant opens its pages and closes none. -/
theorem isUser_openPages (pages : List ℕ) (other : ℕ) :
    (openPages pages paging).isUser other = (paging.isUser other || pages.contains other) := by
  induction pages generalizing paging with
  | nil => simp [openPages]
  | cons page rest ih =>
    simp only [openPages, List.contains_cons]
    rw [ih, isUser_setEntry]
    by_cases same : other = page
    · subst same
      have opened : ((paging.identityPageTables other ||| pageUser) &&& pageUser != 0) = true :=
        bne_iff_ne.mpr (user_opened _)
      rw [if_pos rfl, opened]
      simp
    · have differs : (other == page) = false := beq_eq_false_iff_ne.mpr same
      simp [same, differs]

theorem limit_of_legacyVideoRange (valid : legacyVideoRange address count = some limit) : limit = address + count := by
  unfold legacyVideoRange at valid
  split at valid
  · cases valid
  · exact (Option.some.inj valid).symm

/-- A revocation closes the range. -/
theorem isUser_revoke (valid : (legacyVideoRange address count).isSome) (page : ℕ) :
    (paging.revokeLegacyVideoRange address count).1.isUser page =
      (paging.isUser page && !(pagesOf address (address + count)).contains page) := by
  obtain ⟨limit, found⟩ := Option.isSome_iff_exists.mp valid
  obtain rfl := limit_of_legacyVideoRange found
  simp only [revokeLegacyVideoRange, forceLegacyVideoSupervisor, found]
  exact isUser_forcePages _ page

/-- A grant that succeeds opens the range. -/
theorem isUser_grant (granted : (paging.grantLegacyVideoRange address count).2 = true) (page : ℕ) :
    (paging.grantLegacyVideoRange address count).1.isUser page =
      (paging.isUser page || (pagesOf address (address + count)).contains page) := by
  unfold grantLegacyVideoRange at granted ⊢
  cases found : legacyVideoRange address count with
  | none =>
    rw [found] at granted
    cases granted
  | some limit =>
    obtain rfl := limit_of_legacyVideoRange found
    simp only [found] at granted ⊢
    split
    next opens => exact isUser_openPages _ page
    next refused =>
      rw [if_neg refused] at granted
      cases granted

/-- A grant that fails closes the range. -/
theorem paging_of_refused (refused : (paging.grantLegacyVideoRange address count).2 = false) :
    (paging.grantLegacyVideoRange address count).1 = (paging.revokeLegacyVideoRange address count).1 := by
  unfold grantLegacyVideoRange at refused ⊢
  cases found : legacyVideoRange address count with
  | none => rfl
  | some limit =>
    simp only [found] at refused ⊢
    split at refused
    · cases refused
    next denied => rw [if_neg denied, revokeLegacyVideoRange]

theorem videoEntry_supervisor : ∀ offset < 32,
    (BitVec.ofNat 32 ((160 + offset) * pageBytes) ||| pagePresent ||| accessFlags .supervisorReadWrite)
      &&& pageUser = 0 := by
  decide

/-- After boot the video window belongs to the supervisor. -/
theorem isUser_afterBoot (present : ℕ → Bool) (frames : ℕ → ℕ) (tableCount directory : ℕ)
    (lower : legacyVideoBase ≤ page * pageBytes) (upper : page * pageBytes < dosVideoLimit) :
    (afterBoot present frames tableCount directory).isUser page = false := by
  have access : bootPageAccess (page * pageBytes) = .supervisorReadWrite := by
    rw [bootPageAccess, if_neg (Nat.not_lt.mpr lower), if_pos upper]
  have entry : bootEntry present page &&& pageUser = 0 := by
    unfold bootEntry
    split
    · rw [access]
      simp only [legacyVideoBase, dosVideoLimit, pageBytes] at lower upper
      have supervisor := videoEntry_supervisor (page - 160) (by omega)
      rwa [show 160 + (page - 160) = page by omega] at supervisor
    · exact BitVec.zero_and
  simp only [isUser, afterBoot]
  split
  · rw [entry]
    rfl
  · rfl

/-- The pages of a valid range lie in the video window. -/
theorem window_of_mem (valid : (legacyVideoRange address count).isSome)
    (inside : page ∈ pagesOf address (address + count)) :
    legacyVideoBase ≤ page * pageBytes ∧ page * pageBytes < dosVideoLimit := by
  simp only [pagesOf, List.mem_map, List.mem_range] at inside
  obtain ⟨offset, bound, rfl⟩ := inside
  unfold legacyVideoRange at valid
  split at valid
  · cases valid
  next aligned =>
    push Not at aligned
    simp only [pageBytes, legacyVideoBase, dosVideoLimit] at aligned bound ⊢
    omega

end DosC32.X86Paging
