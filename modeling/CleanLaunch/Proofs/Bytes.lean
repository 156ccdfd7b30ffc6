import CleanLaunch.Bytes
import Mathlib.Data.List.Basic

/-! Bytes of strings that the kernel takes.

    The kernel takes no string with a NUL, so the place of the first one is of interest: `FirstNul`,
    `nulOffset?_eq_some_iff`. Of a text a byte below 128 shows which characters it has, since no
    other character is written with that byte: `mem_utf8_iff`. -/

namespace CleanLaunch

theorem bne_of_not_mem {bytes : Bytes} {b : UInt8} (hb : b ∉ bytes) :
    ∀ other ∈ bytes, (other != b) = true := fun other hother => by
  simpa using fun heq : other = b => hb (heq ▸ hother)

/-! ### The first NUL -/

/-- The bytes have their first NUL at a position. -/
def FirstNul (bytes : Bytes) (position : Nat) : Prop :=
  bytes[position]? = some 0 ∧ (0 : UInt8) ∉ bytes.take position

theorem nulOffset?_eq_none_iff (bytes : Bytes) : bytes.nulOffset? = none ↔ (0 : UInt8) ∉ bytes := by
  rw [Bytes.nulOffset?, List.findIdx?_eq_none_iff]
  refine ⟨fun h hzero => ?_, fun h b hb => ?_⟩
  · simpa using h 0 hzero
  · simpa using fun hzero : b = 0 => h (hzero ▸ hb)

theorem nulOffset?_eq_some_iff (bytes : Bytes) (position : Nat) :
    bytes.nulOffset? = some position ↔ FirstNul bytes position := by
  rw [Bytes.nulOffset?, List.findIdx?_eq_some_iff_getElem, FirstNul]
  constructor
  · rintro ⟨hlt, hzero, hbefore⟩
    refine ⟨?_, fun hmem => ?_⟩
    · rw [List.getElem?_eq_getElem hlt]
      simpa using hzero
    · obtain ⟨i, hi, heq⟩ := List.mem_take_iff_getElem.1 hmem
      have := hbefore i (by omega)
      simp [heq] at this
  · rintro ⟨hget, hbefore⟩
    obtain ⟨hlt, hzero⟩ := List.getElem?_eq_some_iff.1 hget
    refine ⟨hlt, by simp [hzero], fun i hi hnul => hbefore ?_⟩
    exact List.mem_take_iff_getElem.2 ⟨i, by omega, by simpa using hnul⟩

/-- No byte string has a NUL without a first one. -/
theorem exists_firstNul_iff (bytes : Bytes) :
    (∃ position, FirstNul bytes position) ↔ (0 : UInt8) ∈ bytes := by
  rw [← not_iff_not, ← nulOffset?_eq_none_iff, Option.eq_none_iff_forall_ne_some, not_exists]
  exact forall_congr' fun position => not_congr (nulOffset?_eq_some_iff bytes position).symm

/-! ### Texts -/

theorem utf8_eq_flatMap (text : String) :
    utf8 text = text.toList.flatMap String.utf8EncodeChar := by
  rw [utf8, String.toUTF8_eq_toByteArray, ← String.utf8Encode_toList, List.utf8Encode,
    List.data_toByteArray]

theorem utf8_append (first second : String) :
    utf8 (first ++ second) = utf8 first ++ utf8 second := by
  rw [utf8_eq_flatMap, String.toList_append, List.flatMap_append, ← utf8_eq_flatMap,
    ← utf8_eq_flatMap]

theorem utf8_inj {first second : String} : utf8 first = utf8 second ↔ first = second :=
  ⟨fun h => String.toByteArray_inj.1 (ByteArray.ext (Array.toList_inj.1 h)), congrArg utf8⟩

theorem utf8_eq_nil_iff {text : String} : utf8 text = [] ↔ text = "" :=
  @utf8_inj text ""

/-- A byte below 128 is the whole of the character with that code and no part of any other. -/
theorem mem_utf8EncodeChar_iff {b : UInt8} (hb : b.toNat < 128) (c : Char) :
    b ∈ String.utf8EncodeChar c ↔ c.toNat = b.toNat := by
  have hcode : c.val.toNat = c.toNat := rfl
  simp only [String.utf8EncodeChar, hcode]
  split_ifs <;>
    simp only [List.mem_cons, List.not_mem_nil, or_false, ← UInt8.toNat_inj, UInt8.toNat_ofNat'] <;>
    omega

theorem mem_utf8_iff {b : UInt8} {c : Char} (hb : b.toNat < 128) (hc : c.toNat = b.toNat)
    (text : String) : b ∈ utf8 text ↔ c ∈ text.toList := by
  simp only [utf8_eq_flatMap, List.mem_flatMap, mem_utf8EncodeChar_iff hb, ← hc, Char.toNat_inj]
  exact exists_eq_right

end CleanLaunch
