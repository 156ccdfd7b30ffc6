import CleanLaunch.Proofs.Bytes
import CleanLaunch.Proofs.Environ.Passing
import CleanLaunch.Proofs.Environ.Storing

/-! Entries built from a key and a value.

    An entry is a key, a `=` and a value. It is built exactly if the key is not empty and has no `=`
    and there is no NUL in either: `Entry.make_eq_ok_iff`. Then the first `=` of the entry is the
    one behind the key, so key and value are read back whatever the value holds: `key?_join`,
    `value?_join`. Every entry that begins with no `=` but has one is built from one pair of texts
    and no other: `existsUnique_make`. -/

namespace CleanLaunch.Entry

/-! ### An entry of bytes -/

section
variable {key value : Bytes}

theorem takeWhile_join (hequals : equals ∉ key) (value : Bytes) :
    (key ++ equals :: value).takeWhile (· != equals) = key := by
  rw [List.takeWhile_append_of_pos (bne_of_not_mem hequals),
    List.takeWhile_cons_of_neg (by simp), List.append_nil]

theorem key?_join (hequals : equals ∉ key) (value : Bytes) :
    key? (key ++ equals :: value) = some key := by
  rw [key?, if_pos (by simp), takeWhile_join hequals]

theorem value?_join (hequals : equals ∉ key) (value : Bytes) :
    value? (key ++ equals :: value) = some value := by
  rw [value?, if_pos (by simp), List.dropWhile_append_of_pos (bne_of_not_mem hequals),
    List.dropWhile_cons_of_neg (by simp), List.drop_one, List.tail_cons]

/-- An entry passes if its key is short and allowed. -/
theorem passing_join_iff (hequals : equals ∉ key) (value : Bytes) (allow : Allowlist) :
    Passing allow (key ++ equals :: value) ↔ key.length < 256 ∧ key ∈ allow.keys := by
  rw [Passing, takeWhile_join hequals]
  exact and_iff_right (List.mem_append_right _ List.mem_cons_self)

theorem make_of_nil (value : Bytes) : make [] value = .error .emptyKey := rfl

theorem make_of_equals (hkey : key ≠ []) (hequals : equals ∈ key) (value : Bytes) :
    make key value = .error .equalsInKey := by
  rw [make, if_neg (by simpa using hkey), if_pos (by simpa using hequals)]

theorem make_of_valid (hkey : key ≠ []) (hequals : equals ∉ key) (value : Bytes) :
    make key value = match (key ++ equals :: value).nulOffset? with
      | some position => .error (.nul position)
      | none => .ok (key ++ equals :: value) :=
  have hnonempty : ¬key.isEmpty = true := by simpa using hkey
  have hfree : ¬key.contains equals = true := by simpa using hequals
  (if_neg hnonempty).trans (if_neg hfree)

theorem make_of_nul (hkey : key ≠ []) (hequals : equals ∉ key) {position : Nat}
    (hnul : FirstNul (key ++ equals :: value) position) :
    make key value = .error (.nul position) := by
  rw [make_of_valid hkey hequals, (nulOffset?_eq_some_iff _ _).2 hnul]

theorem zero_mem_join_iff (key value : Bytes) :
    (0 : UInt8) ∈ key ++ equals :: value ↔ (0 : UInt8) ∈ key ∨ (0 : UInt8) ∈ value := by
  rw [List.mem_append, List.mem_cons, or_iff_right (a := (0 : UInt8) = equals) (by decide)]

theorem make_eq_ok_iff (key value entry : Bytes) :
    make key value = .ok entry ↔
      (key ≠ [] ∧ equals ∉ key ∧ (0 : UInt8) ∉ key ∧ (0 : UInt8) ∉ value) ∧
        entry = key ++ equals :: value := by
  by_cases hkey : key = []
  · subst hkey
    exact ⟨fun h => (by cases h), fun h => absurd rfl h.1.1⟩
  by_cases hequals : equals ∈ key
  · rw [make_of_equals hkey hequals]
    exact ⟨fun h => (by cases h), fun h => absurd hequals h.1.2.1⟩
  by_cases hzero : (0 : UInt8) ∈ key ++ equals :: value
  · obtain ⟨position, hnul⟩ := (exists_firstNul_iff _).2 hzero
    rw [make_of_nul hkey hequals hnul]
    refine ⟨fun h => (by cases h), fun ⟨⟨_, _, hkeyZero, hvalueZero⟩, _⟩ => ?_⟩
    exact absurd ((zero_mem_join_iff key value).1 hzero) (not_or.2 ⟨hkeyZero, hvalueZero⟩)
  · rw [make_of_valid hkey hequals, (nulOffset?_eq_none_iff _).2 hzero]
    refine ⟨fun h => ⟨⟨hkey, hequals, ?_⟩, (Except.ok.inj h).symm⟩, fun h => congrArg _ h.2.symm⟩
    exact not_or.1 (mt (zero_mem_join_iff key value).2 hzero)

end

/-! ### An entry of texts -/

theorem utf8_join (key value : String) :
    utf8 (key ++ "=" ++ value) = utf8 key ++ equals :: utf8 value := by
  rw [utf8_append, utf8_append, List.append_assoc]
  rfl

theorem equals_mem_utf8_iff (text : String) : equals ∈ utf8 text ↔ '=' ∈ text.toList :=
  mem_utf8_iff (by decide) (by decide) text

theorem zero_mem_utf8_iff (text : String) : (0 : UInt8) ∈ utf8 text ↔ '\x00' ∈ text.toList :=
  mem_utf8_iff (by decide) (by decide) text

/-- The texts that an entry is built from: a key that is not empty and has no `=`, and no NUL in the
    key or the value. -/
def Admissible (key value : String) : Prop :=
  key ≠ "" ∧ '=' ∉ key.toList ∧ '\x00' ∉ key.toList ∧ '\x00' ∉ value.toList

theorem make_utf8_eq_ok_iff (key value : String) (entry : Bytes) :
    make (utf8 key) (utf8 value) = .ok entry ↔
      Admissible key value ∧ entry = utf8 (key ++ "=" ++ value) := by
  rw [make_eq_ok_iff, utf8_join, Admissible, ne_eq, utf8_eq_nil_iff, equals_mem_utf8_iff,
    zero_mem_utf8_iff, zero_mem_utf8_iff]

/-- A text with a `=` is a key without one, that `=` and a value. -/
theorem exists_join {text : String} (hequals : '=' ∈ text.toList) :
    ∃ key value : String, '=' ∉ key.toList ∧ text = key ++ "=" ++ value := by
  obtain ⟨before, behind, hsplit, hfirst⟩ := List.eq_append_cons_of_mem hequals
  refine ⟨String.ofList before, String.ofList behind, by rwa [String.toList_ofList], ?_⟩
  rw [← String.toList_inj, hsplit]
  simp

/-- A pair of texts is read back from its entry, so no other pair has that entry. -/
theorem eq_of_make_eq {key value otherKey otherValue : String} {entry : Bytes}
    (hmake : make (utf8 key) (utf8 value) = .ok entry)
    (hother : make (utf8 otherKey) (utf8 otherValue) = .ok entry) :
    otherKey = key ∧ otherValue = value := by
  obtain ⟨⟨_, hequals, _⟩, hentry⟩ := (make_eq_ok_iff _ _ _).1 hmake
  obtain ⟨⟨_, hotherEquals, _⟩, hotherEntry⟩ := (make_eq_ok_iff _ _ _).1 hother
  have hkey := key?_join hequals (utf8 value)
  have hvalue := value?_join hequals (utf8 value)
  rw [← hentry, hotherEntry, key?_join hotherEquals] at hkey
  rw [← hentry, hotherEntry, value?_join hotherEquals] at hvalue
  exact ⟨utf8_inj.1 (Option.some.inj hkey), utf8_inj.1 (Option.some.inj hvalue)⟩

theorem existsUnique_make {text : String} (hzero : '\x00' ∉ text.toList)
    (hequals : '=' ∈ text.toList) (hhead : text.toList.head? ≠ some '=') :
    ∃! pair : String × String, make (utf8 pair.1) (utf8 pair.2) = .ok (utf8 text) := by
  obtain ⟨key, value, hkeyEquals, rfl⟩ := exists_join hequals
  have hkey : key ≠ "" := by
    rintro rfl
    simp at hhead
  have hadmissible : Admissible key value := by
    refine ⟨hkey, hkeyEquals, fun hmem => hzero ?_, fun hmem => hzero ?_⟩
    · simp [hmem]
    · simp [hmem]
  have hmake := (make_utf8_eq_ok_iff key value _).2 ⟨hadmissible, rfl⟩
  exact ⟨(key, value), hmake, fun pair hpair => Prod.ext_iff.2 (eq_of_make_eq hmake hpair)⟩

/-- How building an entry from two texts ends: an empty key is reported before a `=` in the key, and
    this before a NUL, by its place in the entry; without any of these there is an entry. -/
structure Built (key value : String) (result : Except LaunchError Bytes) : Prop where
  emptyKey : key = "" → result = .error .emptyKey
  equalsInKey : key ≠ "" → '=' ∈ key.toList → result = .error .equalsInKey
  nul : key ≠ "" → '=' ∉ key.toList → '\x00' ∈ key.toList ∨ '\x00' ∈ value.toList →
    ∃ position, FirstNul (utf8 (key ++ "=" ++ value)) position ∧ result = .error (.nul position)
  ok_iff : ∀ entry, result = .ok entry ↔
    Admissible key value ∧ entry = utf8 (key ++ "=" ++ value)

theorem built_make (key value : String) : Built key value (make (utf8 key) (utf8 value)) where
  emptyKey := fun hkey => hkey ▸ rfl
  equalsInKey hkey hequals :=
    make_of_equals (mt utf8_eq_nil_iff.1 hkey) ((equals_mem_utf8_iff key).2 hequals) _
  nul hkey hequals hzero := by
    rw [← zero_mem_utf8_iff, ← zero_mem_utf8_iff, ← zero_mem_join_iff] at hzero
    obtain ⟨position, hnul⟩ := (exists_firstNul_iff _).2 hzero
    rw [utf8_join]
    exact ⟨position, hnul, make_of_nul (mt utf8_eq_nil_iff.1 hkey)
      (mt (equals_mem_utf8_iff key).1 hequals) hnul⟩
  ok_iff := make_utf8_eq_ok_iff key value

/-! ### An entry through the filter -/

theorem filter_single {array : EnvArray} (hcapacity : 2 ≤ array.capacity) (entry : Bytes)
    (allow : Allowlist) :
    ∃ left count, array.filter (some [entry]) allow = .ok (left, count) ∧
      left.visible = if Passing allow entry then [entry] else [] := by
  have hslots := EnvArray.slots_ne_nil (Nat.lt_of_lt_of_le Nat.zero_lt_two hcapacity)
  refine ⟨_, _, EnvArray.filter_eq_ok hslots _ _, ?_⟩
  rw [EnvArray.visible_filter hslots, Option.getD_some, filter_passes, List.take_of_length_le]
  · by_cases hpassing : Passing allow entry <;> simp [hpassing]
  · have hlength := List.length_filter_le (fun entry => decide (Passing allow entry)) [entry]
    rw [List.length_singleton] at hlength
    rw [EnvArray.last]
    omega

/-- From two texts an entry is built, or the first thing that is wrong with them reported. The entry
    gives back its key and its value, has no other pair of texts, and passes a filter exactly if its
    key is short and allowed. Every text that has a `=`, but not as its first character, and no NUL
    is the entry of one pair. -/
theorem make_reads_back (key value text : String) (allow : Allowlist) (array : EnvArray) :
    Built key value (make (utf8 key) (utf8 value)) ∧
      (∀ entry, make (utf8 key) (utf8 value) = .ok entry →
        key? entry = some (utf8 key) ∧ value? entry = some (utf8 value) ∧
        (∀ otherKey otherValue : String, make (utf8 otherKey) (utf8 otherValue) = .ok entry →
          otherKey = key ∧ otherValue = value) ∧
        (2 ≤ array.capacity →
          ∃ left count, array.filter (some [entry]) allow = .ok (left, count) ∧
            left.visible =
              if (utf8 key).length < 256 ∧ utf8 key ∈ allow.keys then [entry] else [])) ∧
      ('\x00' ∉ text.toList → '=' ∈ text.toList → text.toList.head? ≠ some '=' →
        ∃! pair : String × String, make (utf8 pair.1) (utf8 pair.2) = .ok (utf8 text)) := by
  refine ⟨built_make key value, fun entry hmake => ?_, existsUnique_make⟩
  obtain ⟨⟨_, hequals, _⟩, hentry⟩ := (make_eq_ok_iff _ _ _).1 hmake
  refine ⟨hentry ▸ key?_join hequals _, hentry ▸ value?_join hequals _,
    fun _ _ hother => eq_of_make_eq hmake hother, fun hcapacity => ?_⟩
  obtain ⟨left, count, hfilter, hvisible⟩ := filter_single hcapacity entry allow
  refine ⟨left, count, hfilter, hvisible.trans ?_⟩
  simp only [hentry, passing_join_iff hequals]

/-- A key of two bytes in one character, a value with a `=` in it, and a NUL on either side of the
    separator. -/
theorem make_reads_back_accented :
    let entry := utf8 "é=a=b"
    let array : EnvArray := ⟨[some (utf8 "STALE=1"), some (utf8 "STALE=2")]⟩
    make (utf8 "é") (utf8 "a=b") = .ok entry ∧ key? entry = some (utf8 "é") ∧
      value? entry = some (utf8 "a=b") ∧
      (∃ left count, array.filter (some [entry]) ⟨[utf8 "é"]⟩ = .ok (left, count) ∧
        left.visible = [entry]) ∧
      (∃! pair : String × String, make (utf8 pair.1) (utf8 pair.2) = .ok entry) ∧
      make (utf8 "A\x00") (utf8 "b\x00") = .error (.nul 1) := by
  intro entry array
  have hmake : make (utf8 "é") (utf8 "a=b") = .ok entry := by decide
  obtain ⟨_, hread, hunique⟩ := make_reads_back "é" "a=b" "é=a=b" ⟨[utf8 "é"]⟩ array
  obtain ⟨hkey, hvalue, _, hfilter⟩ := hread entry hmake
  obtain ⟨hbuilt, _⟩ := make_reads_back "A\x00" "b\x00" "" ⟨[]⟩ array
  refine ⟨hmake, hkey, hvalue, ?_, hunique (by decide) (by decide) (by decide), ?_⟩
  · obtain ⟨left, count, hleft, hvisible⟩ := hfilter (by decide)
    exact ⟨left, count, hleft, hvisible.trans (by decide)⟩
  · obtain ⟨position, hfirst, hnul⟩ := hbuilt.nul (by decide) (by decide) (Or.inl (by decide))
    have hone : (utf8 ("A\x00" ++ "=" ++ "b\x00")).nulOffset? = some 1 := by decide
    obtain rfl := Option.some.inj (((nulOffset?_eq_some_iff _ _).2 hfirst).symm.trans hone)
    exact hnul

end CleanLaunch.Entry
