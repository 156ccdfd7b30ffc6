import CleanLaunch.Descriptor.Pruning
import CleanLaunch.Proofs.Descriptor.Name
import CleanLaunch.Proofs.Descriptor.Record
import Mathlib.Data.List.Basic

/-! What a live listing says, however the kernel cuts it into reads.

    The entries that are pending stand in ascending order of their places. A read takes some
    first ones of them, at least one while there are any and any that fit, and leaves exactly the
    others pending: `Listing.chosen_of_fits`, `Listing.pending_next`. So the descriptors that are
    awaiting their close call are the targets of the next read followed by those awaiting it
    afterwards: `Listing.awaiting_eq`, and they are the open ones above the threshold from the
    cursor's place on: `Listing.awaiting_eq_filter`. A read has a descriptor closed exactly if it
    took the entry for it: `Listing.mem_targets_liveRead`. -/

namespace CleanLaunch.Descriptor

/-- Every name has at most ten digits, as the name of every descriptor has. -/
def Table.ShortNamed (table : Table) : Prop := ∀ n ∈ table, n < 10000000000

namespace Listing

/-! ### Pending entries -/

theorem mem_entries {table : Table} {n : Nat} (hn : n ∈ table) :
    (placeOf n, nameOf n) ∈ entries table :=
  List.mem_cons_of_mem _ (List.mem_cons_of_mem _ (List.mem_map_of_mem hn))

theorem pairwise_entries (table : Table) :
    (entries table).Pairwise fun a b => a.1 < b.1 := by
  have hnumbers : (table.numbers.map fun n => (placeOf n, nameOf n)).Pairwise
      fun a b => a.1 < b.1 :=
    List.Pairwise.map _ (fun a b hlt => Nat.add_lt_add_right hlt 2) table.ascending
  refine List.pairwise_cons.2 ⟨fun e he => ?_, List.pairwise_cons.2 ⟨fun e he => ?_, hnumbers⟩⟩
  · rcases List.mem_cons.1 he with rfl | he
    · exact Nat.zero_lt_one
    · obtain ⟨n, _, rfl⟩ := List.mem_map.1 he
      exact Nat.succ_pos _
  · obtain ⟨n, _, rfl⟩ := List.mem_map.1 he
    exact Nat.succ_lt_succ (Nat.succ_pos n)

theorem pairwise_pending (table : Table) (position : Nat) :
    (pending table position).Pairwise fun a b => a.1 < b.1 :=
  (pairwise_entries table).filter _

theorem le_of_mem_pending {table : Table} {position : Nat} {entry : Nat × Bytes}
    (he : entry ∈ pending table position) : position ≤ entry.1 := by
  simpa using (List.mem_filter.1 he).2

/-- What is pending from a later place on is pending already. -/
theorem pending_of_le {table : Table} {position later : Nat} (hle : position ≤ later) :
    pending table later = (pending table position).filter (later ≤ ·.1) := by
  rw [pending, pending, List.filter_filter]
  refine List.filter_congr fun e _ => ?_
  rw [← Bool.decide_and, decide_eq_decide]
  omega

theorem length_pending_le {a b : Table} (hsub : a.numbers.Sublist b.numbers) (position : Nat) :
    (pending a position).length ≤ (pending b position).length :=
  ((((hsub.map _).cons_cons _).cons_cons _).filter _).length_le

/-- Behind the last of some first entries come the others. -/
theorem filter_behind {first later : List (Nat × Bytes)} {last : Nat × Bytes}
    (hasc : (first ++ last :: later).Pairwise fun a b => a.1 < b.1) :
    (first ++ last :: later).filter (last.1 + 1 ≤ ·.1) = later := by
  obtain ⟨_, hlater, hcross⟩ := List.pairwise_append.1 hasc
  have hfirst : first.filter (last.1 + 1 ≤ ·.1) = [] := by
    rw [List.filter_eq_nil_iff]
    intro e he
    have := hcross e he last List.mem_cons_self
    simp only [decide_eq_true_eq]
    omega
  have hrest : later.filter (last.1 + 1 ≤ ·.1) = later := by
    rw [List.filter_eq_self]
    intro e he
    simpa using Nat.succ_le_of_lt ((List.pairwise_cons.1 hlater).1 e he)
  rw [List.filter_append, hfirst, List.nil_append, List.filter_cons_of_neg (by simp), hrest]

/-! ### One read -/

theorem prefix_fitting : ∀ (entries : List (Nat × Bytes)) (room : Nat),
    fitting room entries <+: entries
  | [], _ => List.nil_prefix
  | entry :: rest, room => by
    rw [fitting]
    split
    · exact List.cons_prefix_cons.2 ⟨rfl, prefix_fitting rest _⟩
    · exact List.nil_prefix

theorem prefix_chosen (listing : Listing) (table : Table) (cursor : Cursor) :
    listing.chosen table cursor <+: pending table cursor.position :=
  (prefix_fitting _ _).trans <| List.take_prefix _ _

theorem paddedLength_le {name : Bytes} (hname : name.length ≤ 10) :
    Record.paddedLength name ≤ 40 := by
  rw [Record.paddedLength, nameOffset]
  omega

theorem length_name_le {table : Table} (hshort : table.ShortNamed) {entry : Nat × Bytes}
    (he : entry ∈ entries table) : entry.2.length ≤ 10 := by
  rcases List.mem_cons.1 he with rfl | he
  · decide
  · rcases List.mem_cons.1 he with rfl | he
    · decide
    · obtain ⟨n, hn, rfl⟩ := List.mem_map.1 he
      exact Bytes.length_decimal_le_ten (hshort n hn)

/-- While entries are pending, a read takes at least one. -/
theorem chosen_ne_nil (listing : Listing) {table : Table} (hshort : table.ShortNamed)
    {cursor : Cursor} (hpending : pending table cursor.position ≠ []) :
    listing.chosen table cursor ≠ [] := by
  obtain ⟨entry, rest, hcons⟩ := List.exists_cons_of_ne_nil hpending
  have he : entry ∈ entries table :=
    (List.mem_filter.1 (hcons ▸ List.mem_cons_self : entry ∈ pending table cursor.position)).1
  have hroom : Record.paddedLength entry.2 ≤ readCapacity :=
    Nat.le_trans (paddedLength_le (length_name_le hshort he)) (by decide)
  obtain ⟨count, hcount⟩ : ∃ count, max 1 (listing.cut cursor.reads) = count + 1 :=
    ⟨max 1 (listing.cut cursor.reads) - 1, by omega⟩
  rw [chosen, hcons, hcount, List.take_succ_cons, fitting, if_pos hroom]
  exact List.cons_ne_nil _ _

theorem name_record (entry : Nat × Bytes) : (record entry).name =
    entry.2 ++ List.replicate (Record.paddedLength entry.2 - nameOffset - entry.2.length) 0 := rfl

theorem length_record (entry : Nat × Bytes) :
    (record entry).encode.length = Record.paddedLength entry.2 := by
  rw [Record.length_encode, Record.length, name_record, List.length_append, List.length_replicate,
    Record.paddedLength, nameOffset]
  omega

/-- Entries whose records fit are all taken. -/
theorem fitting_of_fits : ∀ (entries : List (Nat × Bytes)) {room : Nat},
    (entries.flatMap fun entry => (record entry).encode).length ≤ room →
    fitting room entries = entries
  | [], _, _ => rfl
  | entry :: rest, room, hfits => by
    rw [List.flatMap_cons, List.length_append, length_record] at hfits
    rw [fitting, if_pos (by omega), fitting_of_fits rest (by omega)]

/-- Whatever leading entries have records that fit into one read, some cut takes just these. -/
theorem chosen_of_fits (listing : Listing) (table : Table) (cursor : Cursor)
    {first rest : List (Nat × Bytes)} (hpending : pending table cursor.position = first ++ rest)
    (hne : first ≠ [])
    (hfits : (first.flatMap fun entry => (record entry).encode).length ≤ readCapacity) :
    { listing with cut := fun _ => first.length }.chosen table cursor = first := by
  have hpos := List.length_pos_iff.2 hne
  rw [chosen, hpending, Nat.max_eq_right hpos, List.take_left, fitting_of_fits first hfits]

theorem record_encodable {entry : Nat × Bytes} (hname : entry.2.length ≤ 10) :
    (record entry).Encodable := by
  have hpad := paddedLength_le hname
  rw [Record.Encodable, Record.length, name_record, List.length_append, List.length_replicate,
    nameOffset]
  omega

/-- The names of a read are those of the entries it took. -/
theorem names_liveRead (listing : Listing) {table : Table} (hshort : table.ShortNamed)
    (cursor : Cursor) : Read.names (listing.liveRead table cursor).1 =
      (listing.chosen table cursor).map fun entry => (record entry).name := by
  have hfit : ∀ r ∈ (listing.chosen table cursor).map record, r.Encodable := by
    intro r hr
    obtain ⟨entry, he, rfl⟩ := List.mem_map.1 hr
    have hpending := (listing.prefix_chosen table cursor).subset he
    exact record_encodable (length_name_le hshort (List.mem_filter.1 hpending).1)
  have hnames := Read.names_encoded hfit (show Read.lengthAt? [] 0 = none from rfl)
  rw [List.append_nil, List.flatMap_map, List.map_map] at hnames
  exact hnames

/-- A read that took something is not empty. -/
theorem liveRead_ne_nil {listing : Listing} {table : Table} {cursor : Cursor}
    (hchosen : listing.chosen table cursor ≠ []) : (listing.liveRead table cursor).1 ≠ [] := by
  obtain ⟨entry, rest, hcons⟩ := List.exists_cons_of_ne_nil hchosen
  have hpos := (record entry).nameOffset_le_length
  rw [liveRead, hcons]
  intro h
  have hlength := congrArg List.length h
  rw [List.flatMap_cons, List.length_append, Record.length_encode, nameOffset] at *
  simp only [List.length_nil] at hlength
  omega

theorem liveRead_eq_nil {listing : Listing} {table : Table} {cursor : Cursor}
    (hpending : pending table cursor.position = []) : (listing.liveRead table cursor).1 = [] := by
  have hchosen : listing.chosen table cursor = [] := by
    rw [chosen, hpending, List.take_nil]
    rfl
  rw [liveRead, hchosen]
  rfl

theorem next_of_chosen {listing : Listing} {table : Table} {cursor : Cursor}
    {first : List (Nat × Bytes)} {last : Nat × Bytes}
    (hchosen : listing.chosen table cursor = first ++ [last]) :
    (listing.liveRead table cursor).2 = last.1 + 1 := by
  rw [liveRead, hchosen]
  simp

theorem position_le_next (listing : Listing) (table : Table) (cursor : Cursor) :
    cursor.position ≤ (listing.liveRead table cursor).2 := by
  rcases List.eq_nil_or_concat' (listing.chosen table cursor) with h | ⟨first, last, h⟩
  · rw [liveRead, h]
    exact Nat.le_refl _
  · have hlast : last ∈ listing.chosen table cursor := h ▸ List.mem_append_right _ List.mem_cons_self
    rw [next_of_chosen h]
    exact Nat.le_succ_of_le (le_of_mem_pending ((listing.prefix_chosen table cursor).subset hlast))

/-- What a read took lies before the place it leads to. -/
theorem lt_next_of_mem_chosen {listing : Listing} {table : Table} {cursor : Cursor}
    {entry : Nat × Bytes} (he : entry ∈ listing.chosen table cursor) :
    entry.1 < (listing.liveRead table cursor).2 := by
  obtain ⟨later, hlater⟩ := listing.prefix_chosen table cursor
  have hasc := (List.pairwise_append.1 (hlater ▸ pairwise_pending table cursor.position)).1
  rcases List.eq_nil_or_concat' (listing.chosen table cursor) with h | ⟨first, last, h⟩
  · rw [h] at he
    exact absurd he List.not_mem_nil
  · rw [next_of_chosen h]
    rw [h] at he hasc
    rcases List.mem_append.1 he with hfirst | hlast
    · exact Nat.lt_succ_of_lt
        ((List.pairwise_append.1 hasc).2.2 entry hfirst last List.mem_cons_self)
    · rw [List.mem_singleton.1 hlast]
      exact Nat.lt_succ_self _

/-- A read leaves pending what it did not take. -/
theorem pending_next (listing : Listing) (table : Table) (cursor : Cursor) :
    pending table cursor.position =
      listing.chosen table cursor ++ pending table (listing.liveRead table cursor).2 := by
  rcases List.eq_nil_or_concat' (listing.chosen table cursor) with h | ⟨first, last, h⟩
  · rw [liveRead, h]
    rfl
  obtain ⟨later, hlater⟩ := listing.prefix_chosen table cursor
  have hsplit : pending table cursor.position = first ++ last :: later := by
    rw [← hlater, h, List.append_assoc, List.singleton_append]
  have hle : cursor.position ≤ last.1 :=
    le_of_mem_pending (hsplit ▸ List.mem_append_right _ List.mem_cons_self)
  have hbehind : (first ++ last :: later).filter (last.1 + 1 ≤ ·.1) = later :=
    filter_behind (hsplit ▸ pairwise_pending table cursor.position)
  rw [next_of_chosen h, pending_of_le (Nat.le_succ_of_le hle), hsplit, hbehind, ← hsplit, hlater]

/-! ### Descriptors awaiting their close call -/

/-- The descriptors to be closed that the pending entries name, in order. -/
def awaiting (keep : Int) (own : Nat) (table : Table) (position : Nat) : List Nat :=
  ((pending table position).filterMap fun entry => parse? (record entry).name).filter
    fun n => keep < (n : Int) && n != own

/-- What a read names is closed next; the rest goes on awaiting. -/
theorem awaiting_eq (listing : Listing) (keep : Int) (own : Nat) {table : Table}
    (hshort : table.ShortNamed) (cursor : Cursor) :
    awaiting keep own table cursor.position =
      targets keep own (listing.liveRead table cursor).1 ++
        awaiting keep own table (listing.liveRead table cursor).2 := by
  rw [awaiting, listing.pending_next, List.filterMap_append, List.filter_append, targets,
    listing.names_liveRead hshort, List.filterMap_map, awaiting]
  rfl

/-- An entry that is no descriptor is read as nothing. -/
theorem parse?_dots {name : Bytes} (hname : name = utf8 "." ∨ name = utf8 "..") (place : Nat) :
    parse? (record (place, name)).name = none := by
  have hbefore (k : Nat) : (name ++ List.replicate k 0).beforeNul = name :=
    Bytes.beforeNul_append_replicate (by rcases hname with rfl | rfl <;> decide) k
  have hall : name.all Bytes.isDigit = false := by
    rcases hname with rfl | rfl <;> rfl
  rw [name_record, parse?_eq, hbefore, if_neg]
  rintro ⟨_, hdigits, _⟩
  rw [hall] at hdigits
  cases hdigits

/-- An entry for a descriptor is read as that descriptor, if it has a number that one can have. -/
theorem parse?_record (place n : Nat) :
    parse? (record (place, nameOf n)).name = if n ≤ maxNumber then some n else none := by
  rw [name_record]
  split
  · next hn => exact parse?_nameOf hn _
  · next hn => exact parse?_nameOf_eq_none (Nat.lt_of_not_le hn) _

/-- Of the entries of a table just that for a descriptor is read as that descriptor. -/
theorem parse?_record_eq_some_iff {table : Table} {entry : Nat × Bytes} (he : entry ∈ entries table)
    (n : Nat) : parse? (record entry).name = some n ↔
      n ≤ maxNumber ∧ entry = (placeOf n, nameOf n) := by
  constructor
  · intro hparse
    rcases List.mem_cons.1 he with rfl | he
    · rw [parse?_dots (Or.inl rfl)] at hparse
      cases hparse
    · rcases List.mem_cons.1 he with rfl | he
      · rw [parse?_dots (Or.inr rfl)] at hparse
        cases hparse
      · obtain ⟨m, _, rfl⟩ := List.mem_map.1 he
        rw [parse?_record] at hparse
        split at hparse
        · next hm =>
          obtain rfl := Option.some.inj hparse
          exact ⟨hm, rfl⟩
        · cases hparse
  · rintro ⟨hn, rfl⟩
    rw [parse?_record, if_pos hn]

/-- A read has a descriptor closed exactly if it took the entry for it. -/
theorem mem_targets_liveRead (listing : Listing) {keep : Int} {own : Nat} {table : Table}
    (hshort : table.ShortNamed) (cursor : Cursor) (n : Nat) :
    n ∈ targets keep own (listing.liveRead table cursor).1 ↔
      (n ≤ maxNumber ∧ keep < (n : Int) ∧ n ≠ own) ∧
        (placeOf n, nameOf n) ∈ listing.chosen table cursor := by
  have hentry {entry : Nat × Bytes} (he : entry ∈ listing.chosen table cursor) :
      parse? (record entry).name = some n ↔ n ≤ maxNumber ∧ entry = (placeOf n, nameOf n) :=
    parse?_record_eq_some_iff
      (List.mem_filter.1 ((listing.prefix_chosen table cursor).subset he)).1 n
  rw [targets, listing.names_liveRead hshort, List.filterMap_map, List.mem_filter,
    List.mem_filterMap, Bool.and_eq_true, decide_eq_true_eq, bne_iff_ne]
  constructor
  · rintro ⟨⟨entry, he, hparse⟩, habove⟩
    obtain ⟨hn, rfl⟩ := (hentry he).1 hparse
    exact ⟨⟨hn, habove⟩, he⟩
  · rintro ⟨⟨hn, habove⟩, he⟩
    exact ⟨⟨_, he, (hentry he).2 ⟨hn, rfl⟩⟩, habove⟩

/-- The awaiting descriptors are the open ones above the threshold from a place on. -/
theorem awaiting_eq_filter (keep : Int) (own : Nat) (table : Table) (position : Nat) :
    awaiting keep own table position = table.numbers.filter fun n : Nat =>
      (keep < (n : Int) && n != own) && decide (position ≤ placeOf n ∧ n ≤ maxNumber) := by
  have hnumbers : (pending table position).filterMap (fun entry => parse? (record entry).name) =
      table.numbers.filter fun n => decide (position ≤ placeOf n ∧ n ≤ maxNumber) := by
    rw [pending, entries, List.filterMap_filter, List.filterMap_cons_none, List.filterMap_cons_none,
      List.filterMap_map, ← List.filterMap_eq_filter]
    · refine List.filterMap_congr fun n _ => ?_
      by_cases hplace : position ≤ placeOf n <;> by_cases hn : n ≤ maxNumber <;>
        simp [hplace, hn, parse?_record, Option.guard]
    · rw [parse?_dots (Or.inr rfl), ite_self]
    · rw [parse?_dots (Or.inl rfl), ite_self]
  rw [awaiting, hnumbers, List.filter_filter]

end Listing

end CleanLaunch.Descriptor
