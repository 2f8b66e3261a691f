import LexSpan.Utf8

/-!
# Searching a text for an ASCII character

A byte below 128 stands for the ASCII character of that number, and occurs in no other character's
encoding (`mem_utf8EncodeChar_iff`). So a search of the bytes for it finds the character:

* `index?_eq_none_iff`: it finds nothing exactly if the character does not occur;
* `index?_append_cons`: otherwise it finds the offset of the first occurrence;
* `mem_firstBytes_iff`: the byte is among the bytes of a leading part exactly if the character is
  in it.
-/

namespace LexSpan.Utf8

variable {a : Char}

theorem utf8Size_of_ascii (ha : a.toNat < 128) : a.utf8Size = 1 := by
  rw [Char.utf8Size_eq_one_iff, UInt32.le_iff_toNat_le]
  exact Nat.le_of_lt_succ ha

/-- An ASCII text has as many bytes as characters. -/
theorem length_of_ascii {as : List Char} (h : ∀ a ∈ as, a.toNat < 128) :
    length as = as.length := by
  induction as with
  | nil => rfl
  | cons a as ih =>
    rw [length_cons, utf8Size_of_ascii (h a List.mem_cons_self), List.length_cons,
      ih fun b hb => h b (List.mem_cons_of_mem _ hb), Nat.add_comm]

theorem utf8EncodeChar_of_ascii (ha : a.toNat < 128) :
    String.utf8EncodeChar a = [UInt8.ofNat a.toNat] := by
  rw [String.utf8EncodeChar_eq_singleton (utf8Size_of_ascii ha)]
  rfl

/-- Every byte of a longer encoding is at least 128. -/
theorem le_toNat_of_mem_utf8EncodeChar {c : Char} (hc : 128 ≤ c.toNat) {b : UInt8}
    (hb : b ∈ String.utf8EncodeChar c) : 128 ≤ b.toNat := by
  have hv : ¬ c.val.toNat ≤ 127 := Nat.not_le.mpr hc
  simp only [String.utf8EncodeChar, hv, if_false] at hb
  repeat' split at hb
  all_goals
    simp only [List.mem_cons, List.not_mem_nil, or_false] at hb
    rcases hb with rfl | rfl | rfl | rfl <;> simp only [UInt8.toNat_ofNat'] <;> omega

/-- The byte of an ASCII character occurs in the encoding of that character only. -/
theorem mem_utf8EncodeChar_iff (ha : a.toNat < 128) {c : Char} :
    UInt8.ofNat a.toNat ∈ String.utf8EncodeChar c ↔ c = a := by
  have hbyte : (UInt8.ofNat a.toNat).toNat = a.toNat := by
    rw [UInt8.toNat_ofNat', Nat.mod_eq_of_lt (by omega)]
  constructor
  · intro h
    by_cases hc : c.toNat < 128
    · rw [utf8EncodeChar_of_ascii hc, List.mem_singleton] at h
      have heq : a.toNat = c.toNat := by
        rw [← hbyte, h, UInt8.toNat_ofNat', Nat.mod_eq_of_lt (by omega)]
      rw [← Char.ofNat_toNat c, ← heq, Char.ofNat_toNat]
    · have := le_toNat_of_mem_utf8EncodeChar (by omega) h
      omega
  · rintro rfl
    rw [utf8EncodeChar_of_ascii ha]
    exact List.mem_singleton_self _

theorem mem_bytes_iff (ha : a.toNat < 128) {cs : List Char} :
    UInt8.ofNat a.toNat ∈ bytes cs ↔ a ∈ cs := by
  simp only [bytes, List.mem_flatMap, mem_utf8EncodeChar_iff ha, exists_eq_right]

theorem index?_eq_none_iff (ha : a.toNat < 128) {cs : List Char} :
    index? (UInt8.ofNat a.toNat) cs = none ↔ a ∉ cs := by
  rw [index?_eq_idxOf?, List.idxOf?_eq_none_iff, mem_bytes_iff ha]

/-- The search stops at the first occurrence. -/
theorem index?_append_cons (ha : a.toNat < 128) {as bs : List Char} (h : a ∉ as) :
    index? (UInt8.ofNat a.toNat) (as ++ a :: bs) = some (length as) := by
  have has : (bytes as).idxOf? (UInt8.ofNat a.toNat) = none := by
    rw [List.idxOf?_eq_none_iff, mem_bytes_iff ha]
    exact h
  have hbytes : bytes (as ++ a :: bs) = bytes as ++ (UInt8.ofNat a.toNat :: bytes bs) := by
    rw [bytes_append]
    simp only [bytes, List.flatMap_cons, utf8EncodeChar_of_ascii ha, List.singleton_append]
  rw [index?_eq_idxOf?, hbytes, ← length_bytes]
  simp only [List.idxOf?] at has ⊢
  rw [List.findIdx?_append, has, List.findIdx?_cons, beq_self_eq_true, if_pos rfl, Option.map_some,
    Option.none_or, Nat.zero_add]

theorem mem_firstBytes_iff (ha : a.toNat < 128) {as bs : List Char} :
    UInt8.ofNat a.toNat ∈ firstBytes (length as) (as ++ bs) ↔ a ∈ as := by
  rw [firstBytes_eq, bytes_append, ← length_bytes, List.take_left, mem_bytes_iff ha]

end LexSpan.Utf8
