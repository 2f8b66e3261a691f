import LexSpan.Literal
import LexSpan.Proofs.AsciiSearch

/-!
# Literals up to case, character by character

Whether a text starts with a literal up to case is decided by comparing bytes, as many as the literal
has. The first byte of a character tells how many bytes it has (`utf8Size_eq_leadSize`), whatever its
case (`leadSize_lowerByte`), so what is compared never ends inside a character. And the bytes with
capitals made small are those of the character made small (`loweredBytes_eq`), as no byte of a
character outside ASCII is a letter's.

Main statement (`startsWithIgnoringCase_iff`): a text starts with a literal up to case exactly if it
starts with as many characters, each of them the literal's with capitals made small.
-/

namespace LexSpan

/-- The number of bytes of a character that starts with the byte `b`. -/
def leadSize (b : UInt8) : Nat :=
  if b.toNat < 0x80 then 1 else if b.toNat < 0xe0 then 2 else if b.toNat < 0xf0 then 3 else 4

/-- The bytes of a character, with ASCII capitals made small. -/
def loweredBytes (c : Char) : List UInt8 := (String.utf8EncodeChar c).map lowerByte

theorem map_lowerByte_bytes (cs : List Char) :
    (Utf8.bytes cs).map lowerByte = (cs.map loweredBytes).flatten := by
  rw [Utf8.bytes, List.map_flatMap, List.flatMap_def]
  rfl

theorem length_eq_of_map_loweredBytes_eq {as bs : List Char}
    (h : as.map loweredBytes = bs.map loweredBytes) : Utf8.length as = Utf8.length bs := by
  rw [← Utf8.length_bytes, ← Utf8.length_bytes, ← List.length_map lowerByte, map_lowerByte_bytes, h,
    ← map_lowerByte_bytes, List.length_map]

theorem utf8Size_eq_leadSize {c : Char} {b : UInt8} {bs : List UInt8}
    (h : String.utf8EncodeChar c = b :: bs) : c.utf8Size = leadSize b := by
  have hlength := String.length_utf8EncodeChar c
  rw [h] at hlength
  simp only [String.utf8EncodeChar] at h
  -- one case for each length of an encoding, with the first byte written out
  repeat' split at h
  all_goals
    obtain ⟨rfl, rfl⟩ := List.cons_eq_cons.1 h
    rw [← hlength]
    simp only [leadSize, UInt8.toNat_ofNat', List.length_cons, List.length_nil]
    repeat' split
    all_goals omega

theorem toNat_lowerByte (b : UInt8) :
    (lowerByte b).toNat = if 0x41 ≤ b.toNat ∧ b.toNat ≤ 0x5a then b.toNat + 32 else b.toNat := by
  have hiff : (0x41 ≤ b && b ≤ 0x5a) = true ↔ 0x41 ≤ b.toNat ∧ b.toNat ≤ 0x5a := by
    simp [UInt8.le_iff_toNat_le]
  rw [lowerByte]
  by_cases h : 0x41 ≤ b.toNat ∧ b.toNat ≤ 0x5a
  · rw [if_pos (hiff.2 h), if_pos h, UInt8.toNat_add]
    exact Nat.mod_eq_of_lt (by show b.toNat + 32 < 256; omega)
  · rw [if_neg (mt hiff.1 h), if_neg h]

theorem leadSize_lowerByte (b : UInt8) : leadSize (lowerByte b) = leadSize b := by
  rw [leadSize, leadSize, toNat_lowerByte]
  split
  · rw [if_pos (by omega), if_pos (by omega)]
  · rfl

/-- Characters whose bytes start alike up to case have the same length. -/
theorem utf8Size_eq_of_lowerByte_eq {c d : Char} {b b' : UInt8} {bs bs' : List UInt8}
    (h : String.utf8EncodeChar c = b :: bs) (h' : String.utf8EncodeChar d = b' :: bs')
    (heq : lowerByte b = lowerByte b') : c.utf8Size = d.utf8Size := by
  rw [utf8Size_eq_leadSize h, utf8Size_eq_leadSize h', ← leadSize_lowerByte, heq, leadSize_lowerByte]

theorem exists_of_startsWithIgnoringCase {literal cs : List Char}
    (h : startsWithIgnoringCase literal cs = true) :
    ∃ as bs, cs = as ++ bs ∧ as.map loweredBytes = literal.map loweredBytes := by
  simp only [startsWithIgnoringCase, beq_iff_eq, Utf8.firstBytes_eq] at h
  induction literal generalizing cs with
  | nil => exact ⟨[], cs, rfl, rfl⟩
  | cons l ls ih =>
    obtain ⟨b, bs, hl⟩ := List.exists_cons_of_ne_nil (String.utf8EncodeChar_ne_nil (c := l))
    have hls : Utf8.bytes (l :: ls) = String.utf8EncodeChar l ++ Utf8.bytes ls := List.flatMap_cons
    rcases cs with _ | ⟨c, cs⟩
    · rw [hls, hl] at h
      simp [Utf8.bytes] at h
    · have hcs : Utf8.bytes (c :: cs) = String.utf8EncodeChar c ++ Utf8.bytes cs := List.flatMap_cons
      obtain ⟨b', bs', hc⟩ := List.exists_cons_of_ne_nil (String.utf8EncodeChar_ne_nil (c := c))
      have hpos := l.utf8Size_pos
      -- the first bytes agree, so the two characters have the same length
      have hlead : lowerByte b' = lowerByte b := by
        have hhead := congrArg List.head? h
        rw [hls, hcs, hl, hc, Utf8.length_cons] at hhead
        simpa [List.take_cons (show 0 < l.utf8Size + Utf8.length ls by omega)] using hhead
      have hsize := utf8Size_eq_of_lowerByte_eq hc hl hlead
      -- so what is compared falls into their bytes and those of the characters behind them
      have hlength : (String.utf8EncodeChar c).length = l.utf8Size := by
        rw [String.length_utf8EncodeChar, hsize]
      rw [hls, hcs, Utf8.length_cons, ← hlength, List.take_length_add_append, List.map_append,
        List.map_append] at h
      obtain ⟨hfirst, hothers⟩ := List.append_inj h (by simp [hlength])
      obtain ⟨as, bs, rfl, has⟩ := ih hothers
      exact ⟨c :: as, bs, rfl, List.cons_eq_cons.2 ⟨hfirst, has⟩⟩

/-! ## Characters made small -/

/-- An ASCII capital is 32 below its small letter, and every other character is its own. -/
theorem toLower_cases (c : Char) :
    ((0x41 ≤ c.toNat ∧ c.toNat ≤ 0x5a) ∧ c.toLower.toNat = c.toNat + 32) ∨
      (¬ (0x41 ≤ c.toNat ∧ c.toNat ≤ 0x5a) ∧ c.toLower = c) := by
  have hval : c.val ≥ 'A'.val ∧ c.val ≤ 'Z'.val ↔ 0x41 ≤ c.toNat ∧ c.toNat ≤ 0x5a :=
    and_congr UInt32.le_iff_toNat_le UInt32.le_iff_toNat_le
  by_cases h : c.val ≥ 'A'.val ∧ c.val ≤ 'Z'.val
  · have hle : c.val.toNat ≤ 0x5a := (hval.1 h).2
    have hlower : c.toLower.val = c.val + 32 := congrArg Char.val (dif_pos h)
    refine .inl ⟨hval.1 h, ?_⟩
    show c.toLower.val.toNat = c.val.toNat + 32
    rw [hlower, UInt32.toNat_add]
    exact Nat.mod_eq_of_lt (by show c.val.toNat + 32 < _; omega)
  · exact .inr ⟨mt hval.2 h, dif_neg h⟩

/-- A character outside ASCII has no other case. -/
theorem eq_of_toLower_eq {a b : Char} (ha : 128 ≤ a.toNat) (h : a.toLower = b.toLower) : a = b := by
  rcases toLower_cases a with ⟨hcapital, -⟩ | ⟨-, hsame⟩
  · omega
  · rcases toLower_cases b with ⟨hcapital, hlower⟩ | ⟨-, hsame'⟩
    · rw [← h, hsame] at hlower
      omega
    · rw [← hsame, h, hsame']

theorem loweredBytes_eq (c : Char) : loweredBytes c = String.utf8EncodeChar c.toLower := by
  rw [loweredBytes]
  by_cases hascii : c.toNat < 128
  · have hlower : c.toLower.toNat < 128 := by
      rcases toLower_cases c with ⟨hcapital, h⟩ | ⟨-, h⟩ <;> rw [h] <;> omega
    rw [Utf8.utf8EncodeChar_of_ascii hascii, Utf8.utf8EncodeChar_of_ascii hlower, List.map_singleton,
      List.singleton_inj, ← UInt8.toNat_inj, toNat_lowerByte, UInt8.toNat_ofNat', UInt8.toNat_ofNat',
      Nat.mod_eq_of_lt (by omega), Nat.mod_eq_of_lt (by omega)]
    rcases toLower_cases c with ⟨hcapital, h⟩ | ⟨hno, h⟩
    · rw [if_pos hcapital, h]
    · rw [if_neg hno, h]
  · have hkeep : ∀ b ∈ String.utf8EncodeChar c, lowerByte b = b := fun b hb => by
      have hle := Utf8.le_toNat_of_mem_utf8EncodeChar (Nat.not_lt.1 hascii) hb
      rw [← UInt8.toNat_inj, toNat_lowerByte, if_neg (by omega)]
    rcases toLower_cases c with ⟨hcapital, -⟩ | ⟨-, h⟩
    · omega
    · rw [h, List.map_congr_left hkeep, List.map_id']

theorem utf8EncodeChar_injective {a b : Char}
    (h : String.utf8EncodeChar a = String.utf8EncodeChar b) : a = b := by
  have ha := @ByteArray.utf8DecodeChar?_utf8EncodeChar_append ByteArray.empty a
  rw [h, ByteArray.utf8DecodeChar?_utf8EncodeChar_append] at ha
  exact (Option.some.inj ha).symm

theorem map_loweredBytes_eq_iff {as bs : List Char} :
    as.map loweredBytes = bs.map loweredBytes ↔ as.map Char.toLower = bs.map Char.toLower := by
  have hmap : ∀ cs : List Char,
      cs.map loweredBytes = (cs.map Char.toLower).map String.utf8EncodeChar := fun cs => by
    rw [List.map_map]
    exact List.map_congr_left fun c _ => loweredBytes_eq c
  rw [hmap, hmap, List.map_inj_right fun _ _ => utf8EncodeChar_injective]

theorem startsWithIgnoringCase_iff {literal cs : List Char} :
    startsWithIgnoringCase literal cs = true ↔
      ∃ as, as <+: cs ∧ literal.map Char.toLower = as.map Char.toLower := by
  constructor
  · intro h
    obtain ⟨as, bs, rfl, has⟩ := exists_of_startsWithIgnoringCase h
    exact ⟨as, ⟨bs, rfl⟩, (map_loweredBytes_eq_iff.1 has).symm⟩
  · rintro ⟨as, ⟨bs, rfl⟩, has⟩
    have hbytes := map_loweredBytes_eq_iff.2 has
    rw [startsWithIgnoringCase, beq_iff_eq, length_eq_of_map_loweredBytes_eq hbytes,
      Utf8.firstBytes_eq, Utf8.bytes_append, ← Utf8.length_bytes, List.take_left,
      map_lowerByte_bytes, map_lowerByte_bytes, hbytes]

end LexSpan
