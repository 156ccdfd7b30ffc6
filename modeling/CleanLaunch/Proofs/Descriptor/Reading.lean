import CleanLaunch.Proofs.Descriptor.LiveListing

/-! Single reads of a listing, and how many there can be.

    A read fails, ends the listing or brings something: `read_cases`. It fails once the reads
    before it are as many as were to succeed: `read_eq_error_iff`; otherwise it is the next one
    of a script or what the kernel's own listing has next: `read_eq_ok`. Of a script only the
    reads before the one that fails can be had: `getD_untilFailure`. Each read that brings
    something leaves fewer that can, `remaining_decreases`, so the bound on their number is never
    reached: `remaining_lt_bound`. -/

namespace CleanLaunch.Descriptor

variable {cursor : Cursor} {table : Table}

/-! ### One read -/

/-- A read fails, ends the listing, or brings something. -/
theorem read_cases (listing : Listing) (table : Table) (cursor : Cursor) :
    (∃ errno, listing.read table cursor = .error errno) ∨
      (∃ next, listing.read table cursor = .ok ([], next)) ∨
      ∃ read next, read ≠ [] ∧ listing.read table cursor = .ok (read, next) := by
  rcases listing.read table cursor with errno | ⟨read, next⟩
  · exact Or.inl ⟨errno, rfl⟩
  · rcases eq_or_ne read [] with rfl | hne
    · exact Or.inr (Or.inl ⟨next, rfl⟩)
    · exact Or.inr (Or.inr ⟨read, next, hne, rfl⟩)

theorem read_eq_error_iff (listing : Listing) (table : Table) (cursor : Cursor) (errno : Errno) :
    listing.read table cursor = .error errno ↔
      ∃ count ≤ cursor.reads, listing.failure = some (count, errno) := by
  rw [Listing.read]
  cases hfail : listing.failure with
  | none => simp
  | some failure =>
    obtain ⟨count, cause⟩ := failure
    by_cases hcount : count ≤ cursor.reads <;> simp [hcount]

/-- A read that succeeds is the next one of the script, or what the kernel's own listing has
    next. -/
theorem read_eq_ok {listing : Listing} {read : Bytes} {next : Cursor}
    (hread : listing.read table cursor = .ok (read, next)) :
    (∃ reads, listing.scripted = some reads ∧ read = reads.getD cursor.reads [] ∧
        next.reads = cursor.reads + 1) ∨
      (listing.scripted = none ∧ read = (listing.liveRead table cursor).1 ∧
        next = ⟨cursor.reads + 1, (listing.liveRead table cursor).2⟩) := by
  have hsucceed : Listing.read.succeed listing table cursor = (read, next) := by
    rw [Listing.read] at hread
    split at hread
    · split at hread
      · cases hread
      · exact Except.ok.inj hread
    · exact Except.ok.inj hread
  rw [Listing.read.succeed] at hsucceed
  cases hscripted : listing.scripted with
  | some reads =>
    simp only [hscripted, Prod.mk.injEq] at hsucceed
    exact Or.inl ⟨reads, rfl, hsucceed.1.symm, hsucceed.2 ▸ rfl⟩
  | none =>
    simp only [hscripted, Prod.mk.injEq] at hsucceed
    exact Or.inr ⟨rfl, hsucceed.1.symm, hsucceed.2.symm⟩

theorem reads_next {listing : Listing} {read : Bytes} {next : Cursor}
    (hread : listing.read table cursor = .ok (read, next)) : next.reads = cursor.reads + 1 := by
  rcases read_eq_ok hread with ⟨_, _, _, hnext⟩ | ⟨_, _, rfl⟩
  · exact hnext
  · rfl

/-! ### Reads of a script -/

/-- From a read that is not empty on, the script is that read and those behind it. -/
theorem drop_eq_cons {reads : List Bytes} {index : Nat} {read : Bytes} (hne : read ≠ [])
    (hget : reads.getD index [] = read) : reads.drop index = read :: reads.drop (index + 1) := by
  have hlt : index < reads.length := by
    by_contra hge
    rw [List.getD_eq_getElem?_getD, List.getElem?_eq_none (Nat.le_of_not_lt hge)] at hget
    exact hne hget.symm
  rw [List.getD_eq_getElem?_getD, List.getElem?_eq_getElem hlt, Option.getD_some] at hget
  rw [List.drop_eq_getElem_cons hlt, hget]

theorem getD_script {listing : Listing} {reads : List Bytes} {read : Bytes} {next : Cursor}
    (hscripted : listing.scripted = some reads)
    (hread : listing.read table cursor = .ok (read, next)) : reads.getD cursor.reads [] = read := by
  rcases read_eq_ok hread with ⟨script, hsome, hget, _⟩ | ⟨hnone, _⟩
  · obtain rfl := Option.some.inj (hscripted.symm.trans hsome)
    exact hget.symm
  · rw [hscripted] at hnone
    cases hnone

/-- The reads of a script before the one that fails. -/
def Listing.untilFailure (listing : Listing) (reads : List Bytes) : List Bytes :=
  match listing.failure with
  | some (count, _) => reads.take count
  | none => reads

theorem prefix_untilFailure (listing : Listing) (reads : List Bytes) :
    listing.untilFailure reads <+: reads := by
  rw [Listing.untilFailure]
  split
  · exact List.take_prefix _ _
  · exact List.prefix_rfl

/-- A read that succeeds is made before the one that fails. -/
theorem lt_of_read_eq_ok {listing : Listing} {read : Bytes} {next : Cursor}
    (hread : listing.read table cursor = .ok (read, next)) {failure : Nat × Errno}
    (hfail : listing.failure = some failure) : cursor.reads < failure.1 := by
  by_contra hle
  have herror := (read_eq_error_iff listing table cursor failure.2).2
    ⟨failure.1, Nat.le_of_not_lt hle, hfail⟩
  rw [herror] at hread
  cases hread

/-- So what it brings is in the script before that one. -/
theorem getD_untilFailure {listing : Listing} {reads : List Bytes} {read : Bytes} {next : Cursor}
    (hscripted : listing.scripted = some reads)
    (hread : listing.read table cursor = .ok (read, next)) :
    (listing.untilFailure reads).getD cursor.reads [] = read := by
  have hget := getD_script hscripted hread
  rw [Listing.untilFailure]
  cases hfail : listing.failure with
  | none => exact hget
  | some failure =>
    rw [← hget, List.getD_eq_getElem?_getD, List.getD_eq_getElem?_getD,
      List.getElem?_take_of_lt (lt_of_read_eq_ok hread hfail)]

/-- A read that fails leaves nothing of the script to be read. -/
theorem drop_untilFailure_of_error {listing : Listing} {errno : Errno} (reads : List Bytes)
    (hread : listing.read table cursor = .error errno) :
    (listing.untilFailure reads).drop cursor.reads = [] := by
  obtain ⟨count, hcount, hfail⟩ := (read_eq_error_iff _ _ _ _).1 hread
  rw [Listing.untilFailure, hfail, List.drop_eq_nil_iff]
  exact Nat.le_trans (List.length_take_le count reads) hcount

/-! ### How many reads there can be -/

/-- More than this many reads cannot bring anything any more. -/
def Listing.remaining (listing : Listing) (table : Table) (cursor : Cursor) : Nat :=
  match listing.scripted with
  | some reads => reads.length - cursor.reads
  | none => (Listing.pending table cursor.position).length

theorem remaining_lt_bound (listing : Listing) (table : Table) :
    listing.remaining table {} < listing.bound table := by
  rw [Listing.remaining, Listing.bound]
  cases listing.scripted with
  | some reads => exact Nat.lt_succ_of_le (Nat.sub_le _ _)
  | none =>
    have hle : (Listing.pending table 0).length ≤ (Listing.entries table).length :=
      List.length_filter_le _ _
    rw [Listing.entries, List.length_cons, List.length_cons, List.length_map] at hle
    exact Nat.lt_succ_of_le hle

/-- Each read that brings something leaves fewer, also when descriptors are closed meanwhile. -/
theorem remaining_decreases {listing : Listing} {read : Bytes} {next : Cursor} (hne : read ≠ [])
    (hread : listing.read table cursor = .ok (read, next)) {closed : Table}
    (hsub : closed.numbers.Sublist table.numbers) :
    listing.remaining closed next < listing.remaining table cursor := by
  have hnext := reads_next hread
  cases hscripted : listing.scripted with
  | some reads =>
    have hlength := congrArg List.length (drop_eq_cons hne (getD_script hscripted hread))
    rw [List.length_cons, List.length_drop, List.length_drop] at hlength
    simp only [Listing.remaining, hscripted]
    omega
  | none =>
    rcases read_eq_ok hread with ⟨_, hsome, _⟩ | ⟨_, rfl, rfl⟩
    · rw [hscripted] at hsome
      cases hsome
    have hchosen : listing.chosen table cursor ≠ [] := fun hnil => hne (by
      simp only [Listing.liveRead, hnil, List.flatMap_nil])
    have hsplit := congrArg List.length (listing.pending_next table cursor)
    have hpos := List.length_pos_iff.2 hchosen
    have hle := Listing.length_pending_le hsub (listing.liveRead table cursor).2
    rw [List.length_append] at hsplit
    simp only [Listing.remaining, hscripted]
    omega

end CleanLaunch.Descriptor
