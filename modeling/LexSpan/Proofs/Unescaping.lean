import LexSpan.CharClass
import LexSpan.Escaping
import Mathlib.Tactic.SplitIfs

/-!
# Quoted texts read back

`unquote` reads a text that `quote` has written: it undoes the escapes between the two quotes, those
of two characters and those by number, and refuses a text that goes on behind a quote without a
backslash. Main statements: `unquote_quote` gives back every text, and `le_of_mem_quote` leaves no
control character in what is written, so that it keeps to its line and to its column.

Both rest on what is written for a single character (`unescape_escapeChar`, `le_of_mem_escapeChar`),
and where that is a number, on its digits (`hexNumber_toDigits`, `isHexDigit_of_mem_toDigits`).
-/

namespace LexSpan

/-- The value of a hexadecimal digit. -/
def hexValue (c : Char) : Nat :=
  if c.isDigit then c.toNat - '0'.toNat
  else if 'a' ≤ c then c.toNat - 'a'.toNat + 10
  else c.toNat - 'A'.toNat + 10

/-- The number that hexadecimal digits stand for. -/
def hexNumber (digits : List Char) : Nat := digits.foldl (fun n c => 16 * n + hexValue c) 0

/-- The character with a number. Surrogates and numbers that are too large have none. -/
def charOfNumber? (n : Nat) : Option Char := if n.isValidChar then some (Char.ofNat n) else none

/-- The character that an escape stands for, and what follows it. Its backslash is left out. -/
def readEscape : List Char → Option (Char × List Char)
  | '"' :: cs => some ('"', cs)
  | '\\' :: cs => some ('\\', cs)
  | '0' :: cs => some ('\x00', cs)
  | 't' :: cs => some ('\t', cs)
  | 'n' :: cs => some ('\n', cs)
  | 'r' :: cs => some ('\r', cs)
  | 'u' :: '\x7b' :: cs =>
    let digits := cs.takeWhile isHexDigit
    match cs.dropWhile isHexDigit with
    | '\x7d' :: rest =>
      if digits = [] then none else (charOfNumber? (hexNumber digits)).map fun c => (c, rest)
    | _ => none
  | _ => none

theorem length_of_readEscape {cs rest : List Char} {c : Char}
    (h : readEscape cs = some (c, rest)) : rest.length < cs.length := by
  unfold readEscape at h
  split at h
  case h_7 cs =>
    simp only at h
    split at h
    · next rest' hdrop =>
      split at h
      · cases h
      · obtain ⟨d, -, he⟩ := Option.map_eq_some_iff.1 h
        obtain ⟨-, rfl⟩ := Prod.mk.inj he
        have hle := (List.dropWhile_suffix (l := cs) isHexDigit).length_le
        rw [hdrop, List.length_cons] at hle
        simp only [List.length_cons]
        omega
    · cases h
  case h_8 => cases h
  all_goals
    obtain ⟨-, rfl⟩ := Prod.mk.inj (Option.some.inj h)
    simp

/-- What follows an opening quote, with escapes undone. The text must end with the next quote. -/
def unescape : List Char → Option (List Char)
  | [] => none
  | c :: cs =>
    if c = '"' then if cs = [] then some [] else none
    else if c = '\\' then
      match h : readEscape cs with
      | none => none
      | some (d, rest) =>
        have : rest.length < cs.length := length_of_readEscape h
        (unescape rest).map (d :: ·)
    else (unescape cs).map (c :: ·)
termination_by cs => cs.length

/-- The text that is written in double quotes. -/
def unquote (text : String) : Option String :=
  match text.toList with
  | '"' :: cs => (unescape cs).map String.ofList
  | _ => none

variable {c d : Char} {cs rest : List Char}

/-! ## Numbers -/

theorem isHexDigit_digitChar {n : Nat} (h : n < 16) :
    isHexDigit n.digitChar = true ∧ hexValue n.digitChar = n := by
  have hall : ∀ n < 16, isHexDigit n.digitChar = true ∧ hexValue n.digitChar = n := by decide
  exact hall n h

theorem isHexDigit_of_mem_toDigits {n : Nat} (h : c ∈ Nat.toDigits 16 n) : isHexDigit c = true := by
  induction n using Nat.strongRecOn with
  | ind n ih =>
    by_cases hn : n < 16
    · rw [Nat.toDigits_of_lt_base hn, List.mem_singleton] at h
      exact h ▸ (isHexDigit_digitChar hn).1
    · rw [Nat.toDigits_of_base_le (by decide) (by omega), List.mem_append, List.mem_singleton] at h
      rcases h with h | rfl
      · exact ih _ (by omega) h
      · exact (isHexDigit_digitChar (Nat.mod_lt n (by decide))).1

/-- Digits read back are the number they were made of. -/
theorem hexNumber_toDigits (n : Nat) : hexNumber (Nat.toDigits 16 n) = n := by
  induction n using Nat.strongRecOn with
  | ind n ih =>
    by_cases hn : n < 16
    · rw [Nat.toDigits_of_lt_base hn]
      show 16 * 0 + hexValue n.digitChar = n
      rw [(isHexDigit_digitChar hn).2, Nat.mul_zero, Nat.zero_add]
    · have hlast := (isHexDigit_digitChar (Nat.mod_lt n (by decide : 0 < 16))).2
      rw [Nat.toDigits_of_base_le (by decide) (by omega), hexNumber, List.foldl_append]
      show 16 * hexNumber (Nat.toDigits 16 (n / 16)) + hexValue (n % 16).digitChar = n
      rw [ih _ (by omega), hlast]
      omega

theorem charOfNumber?_toNat (c : Char) : charOfNumber? c.toNat = some c := by
  have hvalid : c.toNat.isValidChar := c.valid
  rw [charOfNumber?, if_pos hvalid, Char.ofNat_toNat]

theorem readEscape_number (c : Char) (rest : List Char) :
    readEscape ('u' :: '\x7b' :: (Nat.toDigits 16 c.toNat ++ '\x7d' :: rest)) = some (c, rest) := by
  have hdigits : ∀ d ∈ Nat.toDigits 16 c.toNat, isHexDigit d = true :=
    fun _ => isHexDigit_of_mem_toDigits
  have hbrace : ¬ isHexDigit '\x7d' = true := by decide
  have hne : Nat.toDigits 16 c.toNat ≠ [] := Nat.toDigits_ne_nil
  rw [readEscape]
  simp only [List.takeWhile_append_of_pos hdigits, List.dropWhile_append_of_pos hdigits,
    List.takeWhile_cons_of_neg hbrace, List.dropWhile_cons_of_neg hbrace, List.append_nil]
  rw [if_neg hne, hexNumber_toDigits, charOfNumber?_toNat]
  rfl

/-! ## Characters -/

theorem unescape_backslash (h : readEscape cs = some (d, rest)) :
    unescape ('\\' :: cs) = (unescape rest).map (d :: ·) := by
  rw [unescape, if_neg (by decide), if_pos rfl]
  split <;> simp_all

/-- What is written for a character is read back as that character. -/
theorem unescape_escapeChar (c : Char) (rest : List Char) :
    unescape (escapeChar c ++ rest) = (unescape rest).map (c :: ·) := by
  unfold escapeChar
  split_ifs with hquote hbackslash hnull htab hfeed hreturn
  · subst hquote
    exact unescape_backslash rfl
  · subst hbackslash
    exact unescape_backslash rfl
  · subst hnull
    exact unescape_backslash rfl
  · subst htab
    exact unescape_backslash rfl
  · subst hfeed
    exact unescape_backslash rfl
  · subst hreturn
    exact unescape_backslash rfl
  · have happend : escapeByNumber c ++ rest =
        '\\' :: 'u' :: '\x7b' :: (Nat.toDigits 16 c.toNat ++ '\x7d' :: rest) := by
      simp [escapeByNumber]
    rw [happend]
    exact unescape_backslash (readEscape_number c rest)
  · rw [List.singleton_append, unescape, if_neg hquote, if_neg hbackslash]

theorem le_toNat_of_isHexDigit (h : isHexDigit c = true) : 0x20 ≤ c.toNat := by
  simp only [isHexDigit, Char.isDigit, Bool.or_eq_true, Bool.and_eq_true, decide_eq_true_eq] at h
  rcases h with (h | h) | h
  · exact Nat.le_trans (by decide) h.1
  · exact Nat.le_trans (by decide) h.1
  · exact Nat.le_trans (by decide) h.1

/-- No control character is written. -/
theorem le_of_mem_escapeChar (h : d ∈ escapeChar c) : 0x20 ≤ d.toNat := by
  have htwo : ∀ {e : Char}, 0x20 ≤ e.toNat → d ∈ ['\\', e] → 0x20 ≤ d.toNat := fun he hd => by
    simp only [List.mem_cons, List.not_mem_nil, or_false] at hd
    rcases hd with rfl | rfl
    · decide
    · exact he
  unfold escapeChar at h
  split_ifs at h with hquote hbackslash hnull htab hfeed hreturn hnumber
  · exact htwo (by decide) h
  · exact htwo (by decide) h
  · exact htwo (by decide) h
  · exact htwo (by decide) h
  · exact htwo (by decide) h
  · exact htwo (by decide) h
  · simp only [escapeByNumber, List.mem_cons, List.mem_append, List.not_mem_nil, or_false] at h
    rcases h with rfl | rfl | rfl | h | rfl
    · decide
    · decide
    · decide
    · exact le_toNat_of_isHexDigit (isHexDigit_of_mem_toDigits h)
    · decide
  · rw [List.mem_singleton.1 h]
    exact Nat.le_of_not_lt fun hlt => hnumber (.inl hlt)

/-! ## Texts -/

theorem unescape_escape (cs : List Char) : unescape (escape cs ++ ['"']) = some cs := by
  induction cs with
  | nil => rw [escape, List.flatMap_nil, List.nil_append, unescape, if_pos rfl, if_pos rfl]
  | cons c cs ih =>
    rw [escape, List.flatMap_cons, List.append_assoc, unescape_escapeChar]
    exact congrArg (Option.map (c :: ·)) ih

theorem toList_quote (text : String) : (quote text).toList = '"' :: (escape text.toList ++ ['"']) :=
  String.toList_ofList

/-- Every text is read back as it was. -/
theorem unquote_quote (text : String) : unquote (quote text) = some text := by
  simp only [unquote, toList_quote, unescape_escape, Option.map_some, String.ofList_toList]

/-- A quoted text holds no control character, whatever the text holds. -/
theorem le_of_mem_quote {text : String} (h : d ∈ (quote text).toList) : 0x20 ≤ d.toNat := by
  simp only [toList_quote, escape, List.mem_cons, List.mem_append, List.mem_flatMap,
    List.not_mem_nil, or_false] at h
  rcases h with rfl | ⟨c, -, h⟩ | rfl
  · decide
  · exact le_of_mem_escapeChar h
  · decide

end LexSpan
