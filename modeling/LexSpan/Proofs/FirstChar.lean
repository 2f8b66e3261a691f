import LexSpan.Lexeme
import LexSpan.Proofs.StringLiteral

/-!
# The first character of a lexeme

The kinds divide the characters among them: every character opens lexemes of exactly one kind
(`Kind.opens_iff`). Quotes, blanks of both kinds, starts of identifiers and digits are apart from
each other, over the whole of Unicode, and what is left are the symbols.
-/

namespace LexSpan

theorem isIdentifierStart_whiteSpaces : whiteSpaces.any isIdentifierStart = false := by
  decide +kernel

theorem isIdentifierStart_newLines : newLines.any isIdentifierStart = false := by decide +kernel

theorem isDecimalDigit_whiteSpaces : whiteSpaces.any isDecimalDigit = false := by decide +kernel

theorem isDecimalDigit_newLines : newLines.any isDecimalDigit = false := by decide +kernel

theorem not_isIdentifierStart_of_isWhiteSpace {c : Char} (h : isWhiteSpace c = true) :
    isIdentifierStart c = false := by
  simpa using List.any_eq_false.1 isIdentifierStart_whiteSpaces c (mem_whiteSpaces.2 h)

theorem not_isIdentifierStart_of_isNewLine {c : Char} (h : isNewLine c = true) :
    isIdentifierStart c = false := by
  simpa using List.any_eq_false.1 isIdentifierStart_newLines c (mem_newLines.2 h)

theorem not_isDecimalDigit_of_isWhiteSpace {c : Char} (h : isWhiteSpace c = true) :
    isDecimalDigit c = false := by
  simpa using List.any_eq_false.1 isDecimalDigit_whiteSpaces c (mem_whiteSpaces.2 h)

theorem not_isDecimalDigit_of_isNewLine {c : Char} (h : isNewLine c = true) :
    isDecimalDigit c = false := by
  simpa using List.any_eq_false.1 isDecimalDigit_newLines c (mem_newLines.2 h)

/-- The alphabetic characters outside ASCII are outside ASCII. -/
theorem le_of_isAlphabetic {c : Char} (h : Unicode.isAlphabetic c = true) : 128 ≤ c.toNat := by
  have hall : Unicode.alphabeticRanges.all (fun r => 128 ≤ r.1) = true := by decide +kernel
  obtain ⟨r, hr, hle, -⟩ := (Unicode.isAlphabetic_iff c).1 h
  have := of_decide_eq_true (List.all_eq_true.1 hall r hr)
  omega

theorem isDecimalDigit_iff {c : Char} : isDecimalDigit c = true ↔ 48 ≤ c.toNat ∧ c.toNat ≤ 57 := by
  simp [isDecimalDigit, Char.isDigit, UInt32.le_iff_toNat_le, ← Char.toNat_val]

theorem le_of_isAlpha {c : Char} (h : c.isAlpha = true) : 65 ≤ c.toNat := by
  have hcase : c.isUpper = true ∨ c.isLower = true := Bool.or_eq_true_iff.1 h
  rcases hcase with h | h
  · have hupper : 'A'.toNat ≤ c.toNat ∧ c.toNat ≤ 'Z'.toNat := of_decide_eq_true h
    exact hupper.1
  · have hlower : 'a'.toNat ≤ c.toNat := of_decide_eq_true (Bool.and_eq_true_iff.1 h).1
    exact Nat.le_trans (by decide) hlower

theorem not_isDecimalDigit_of_isIdentifierStart {c : Char} (h : isIdentifierStart c = true) :
    isDecimalDigit c = false := by
  refine Bool.eq_false_iff.2 fun hd => ?_
  have hle := (isDecimalDigit_iff.1 hd).2
  simp only [isIdentifierStart, Bool.or_eq_true, decide_eq_true_eq] at h
  rcases h with ((rfl | rfl) | h) | h
  · exact absurd hd (by decide)
  · exact absurd hd (by decide)
  · have := le_of_isAlpha h
    omega
  · have := le_of_isAlphabetic h
    omega

/-- A quote is in no other class. -/
theorem not_of_quote (q : Quote) : isWhiteSpace q.char = false ∧ isNewLine q.char = false ∧
    isIdentifierStart q.char = false ∧ isDecimalDigit q.char = false := by
  cases q <;> decide +kernel

namespace Kind

/-- Whether lexemes of a kind open with `c`. -/
def opens : Kind → Char → Bool
  | whiteSpace, c => isWhiteSpace c
  | newLine, c => isNewLine c
  | identifier, c => isIdentifierStart c
  | number, c => isDecimalDigit c
  | string, c => (Quote.ofChar? c).isSome
  | symbol, c =>
    !((Quote.ofChar? c).isSome || isWhiteSpace c || isNewLine c || isIdentifierStart c ||
      isDecimalDigit c)

/-- The kind of the lexemes that open with `c`. -/
def ofChar (c : Char) : Kind :=
  if (Quote.ofChar? c).isSome then string
  else if isWhiteSpace c then whiteSpace
  else if isNewLine c then newLine
  else if isIdentifierStart c then identifier
  else if isDecimalDigit c then number
  else symbol

theorem string_opens_iff {c : Char} : string.opens c = true ↔ ∃ q : Quote, c = q.char := by
  rw [opens, Option.isSome_iff_exists]
  exact exists_congr fun q => Quote.ofChar?_eq_some_iff

theorem opens_ofChar (c : Char) : (ofChar c).opens c = true := by
  unfold ofChar
  repeat' split
  all_goals simp only [opens, *, Bool.or_self, Bool.not_false]

theorem ofChar_eq_of_opens {k : Kind} {c : Char} (h : k.opens c = true) : ofChar c = k := by
  have hquote : (Quote.ofChar? c).isSome = true → isWhiteSpace c = false ∧ isNewLine c = false ∧
      isIdentifierStart c = false ∧ isDecimalDigit c = false := fun hq => by
    obtain ⟨q, rfl⟩ := string_opens_iff.1 hq
    exact not_of_quote q
  have hwn := @not_isNewLine_of_isWhiteSpace c
  have hwi := @not_isIdentifierStart_of_isWhiteSpace c
  have hwd := @not_isDecimalDigit_of_isWhiteSpace c
  have hni := @not_isIdentifierStart_of_isNewLine c
  have hnd := @not_isDecimalDigit_of_isNewLine c
  have hid := @not_isDecimalDigit_of_isIdentifierStart c
  cases k <;> simp only [opens] at h <;> grind [ofChar]

/-- Every character opens lexemes of one kind and no other. -/
theorem opens_iff {k : Kind} {c : Char} : k.opens c = true ↔ ofChar c = k :=
  ⟨ofChar_eq_of_opens, fun h => h ▸ opens_ofChar c⟩

theorem ofChar_quote (q : Quote) : ofChar q.char = string :=
  ofChar_eq_of_opens (string_opens_iff.2 ⟨q, rfl⟩)

end Kind

end LexSpan
