import CleanLaunch.Proofs.Descriptor.Pruning

/-! Closing by range beside closing by listing.

    Closing by range takes away what can be closed from the threshold to the reported limit, or to
    1024 where none is reported: `mem_closeRange_iff`. A listing read to its end takes away
    everything above the threshold: `mem_prune_of_ok`. So the two part exactly over a descriptor
    above the threshold that stands at or behind the end of the range: `closeRange_exact`. -/

namespace CleanLaunch.Descriptor

variable {kernel : Kernel} {keep : Int} {table : Table}

/-- A limit that is a C integer ends the range. -/
theorem rangeEnd_eq (hfits : ∀ limit, kernel.reportedLimit = some limit → limit ≤ maxNumber) :
    kernel.rangeEnd = kernel.reportedLimit.getD 1024 := by
  rw [Kernel.rangeEnd]
  cases hlimit : kernel.reportedLimit with
  | none => rfl
  | some limit =>
    have hle := hfits limit hlimit
    rw [maxNumber] at hle
    have hwrapped : wrapped limit = limit := wrapped_of_fits (by omega) (by omega)
    simp only [hwrapped, Int.toNat_natCast, Option.getD_some]

/-- What closing by range leaves, in the numbers it calls for. -/
theorem mem_closeRange_iff (hlow : -2147483648 ≤ keep) (hhigh : keep < 2147483647)
    (hfits : ∀ limit, kernel.reportedLimit = some limit → limit ≤ maxNumber) (table : Table)
    (n : Nat) :
    n ∈ closeRange kernel keep table ↔ n ∈ table ∧ ¬(max (keep + 1) 0 ≤ (n : Int) ∧
      n < kernel.reportedLimit.getD 1024 ∧ kernel.closeFailure n = none) := by
  have hfirst : max (keep + 1) 0 ≤ (n : Int) ↔ keep < (n : Int) := by omega
  rw [mem_closeRange kernel hlow hhigh, rangeEnd_eq hfits, hfirst, ← and_assoc, not_and]

/-- A listing read to its end leaves what stands up to the threshold, if every close succeeds. -/
theorem mem_prune_of_ok (hclose : kernel.ClosesAll table) (hvalid : table.Valid)
    (hlive : kernel.listing.scripted = none) (hresult : (prune kernel keep table).result = .ok ())
    (n : Nat) : n ∈ (prune kernel keep table).table ↔ n ∈ table ∧ (n : Int) ≤ keep := by
  rw [mem_prune_of_closesAll hclose, mem_called_of_ok hlive hvalid hresult]
  refine and_congr_right fun hn => ?_
  rw [not_and, Int.not_lt]
  exact ⟨fun h => h hn, fun h _ => h⟩

/-- Closing by range leaves no more than what stands up to the threshold exactly if nothing open
    stands above it and behind the end of the range. -/
theorem closeRange_keeps_iff (hclose : kernel.ClosesAll table) (hlow : -2147483648 ≤ keep)
    (hhigh : keep < 2147483647)
    (hfits : ∀ limit, kernel.reportedLimit = some limit → limit ≤ maxNumber) :
    (∀ n, n ∈ closeRange kernel keep table ↔ n ∈ table ∧ (n : Int) ≤ keep) ↔
      ¬∃ n ∈ table, keep < (n : Int) ∧ kernel.reportedLimit.getD 1024 ≤ n := by
  constructor
  · rintro hsame ⟨n, hn, habove, hbehind⟩
    have hleft : n ∈ closeRange kernel keep table :=
      (mem_closeRange_iff hlow hhigh hfits table n).2 ⟨hn, fun h => Nat.not_lt.2 hbehind h.2.1⟩
    exact Int.not_lt.2 ((hsame n).1 hleft).2 habove
  · intro hnone n
    rw [mem_closeRange_iff hlow hhigh hfits]
    refine and_congr_right fun hn => ⟨fun hcall => ?_, fun hle hcall => ?_⟩
    · by_contra hlt
      have hend : n < kernel.reportedLimit.getD 1024 :=
        Nat.lt_of_not_le fun hbehind => hnone ⟨n, hn, Int.not_le.1 hlt, hbehind⟩
      exact hcall ⟨by omega, hend, hclose n (Table.mem_insert.2 (Or.inr hn))⟩
    · exact absurd hcall.1 (by omega)

/-- Closing by range leaves exactly what does not stand between threshold and limit or does not
    close. So where every close succeeds, it leaves what stands up to the threshold, as a listing
    read to its end does, exactly if nothing open stands above the threshold and at or behind the
    limit. -/
theorem closeRange_exact (kernel : Kernel) (keep : Int) (table : Table)
    (hlow : -2147483648 ≤ keep) (hhigh : keep < 2147483647)
    (hfits : ∀ limit, kernel.reportedLimit = some limit → limit ≤ maxNumber) :
    let limit := kernel.reportedLimit.getD 1024
    let ranged := closeRange kernel keep table
    let listed := prune kernel keep table
    (∀ n, n ∈ ranged ↔ n ∈ table ∧
        ¬(max (keep + 1) 0 ≤ (n : Int) ∧ n < limit ∧ kernel.closeFailure n = none)) ∧
      (kernel.ClosesAll table →
        ((∀ n, n ∈ ranged ↔ n ∈ table ∧ (n : Int) ≤ keep) ↔
          ¬∃ n ∈ table, keep < (n : Int) ∧ limit ≤ n) ∧
        (table.Valid → kernel.listing.scripted = none → listed.result = .ok () →
          (∀ n, n ∈ listed.table ↔ n ∈ table ∧ (n : Int) ≤ keep) ∧
          (ranged = listed.table ↔ ¬∃ n ∈ table, keep < (n : Int) ∧ limit ≤ n))) := by
  intro limit ranged listed
  refine ⟨mem_closeRange_iff hlow hhigh hfits table, fun hclose =>
    ⟨closeRange_keeps_iff hclose hlow hhigh hfits, fun hvalid hlive hresult => ?_⟩⟩
  have hlisted := mem_prune_of_ok hclose hvalid hlive hresult
  refine ⟨hlisted, ?_⟩
  rw [← closeRange_keeps_iff hclose hlow hhigh hfits]
  constructor
  · intro hsame n
    rw [← hlisted n, ← hsame]
  · intro hkept
    refine Table.ext_mem fun n => ?_
    rw [hkept n, hlisted n]

/-- A threshold below every number, and a descriptor behind a limit that was lowered. -/
theorem closeRange_exact_lowered :
    let kernel : Kernel := { limit := 10 }
    let table := Table.ofList [0, 2, 7, 20]
    (∀ limit, kernel.reportedLimit = some limit → limit ≤ maxNumber) ∧
      (prune kernel (-3) table).result = .ok () ∧ 20 ∈ closeRange kernel (-3) table ∧
      20 ∉ (prune kernel (-3) table).table ∧
      closeRange kernel (-3) table ≠ (prune kernel (-3) table).table := by
  intro kernel table
  have hfits : ∀ limit, kernel.reportedLimit = some limit → limit ≤ maxNumber := by
    rintro limit ⟨⟩
    decide
  obtain ⟨hranged, hparted⟩ := closeRange_exact kernel (-3) table (by decide) (by decide) hfits
  have hresult : (prune kernel (-3) table).result = .ok () :=
    (prune_of_works (-3) ⟨rfl, rfl, rfl⟩ (by decide) ⟨1, by decide, by decide⟩).1
  obtain ⟨hlisted, hsame⟩ := (hparted fun _ _ => rfl).2 (by decide) rfl hresult
  refine ⟨hfits, hresult, (hranged 20).2 (by decide), ?_, ?_⟩
  · rw [hlisted]
    decide
  · rw [ne_eq, hsame, not_not]
    exact ⟨20, by decide, by decide, by decide⟩

end CleanLaunch.Descriptor
