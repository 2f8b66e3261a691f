import LexSpan.Literal
import LexSpan.Quoted

/-!
# Shapes of tokens

A shape is a way to read one token at the head of a text. `extent?` measures in bytes what a shape
takes. Main statement: a shape never takes nothing (`pos_of_extent?`).
-/

namespace LexSpan

/-- What a reader may ask for at the head of a text. -/
inductive Shape where
  /-- The longest run of characters that satisfy `p`, at least one. -/
  | run (p : Char → Bool)
  /-- A character that satisfies `first`, then the longest run of `others`. -/
  | oneThenRun (first others : Char → Bool)
  /-- Digits, and a fraction if a point and more digits follow. -/
  | decimal
  /-- The given character. -/
  | char (c : Char)
  /-- The given text, which must not be empty. -/
  | literal (text : String)
  /-- The given text up to the case of ASCII letters. -/
  | literalIgnoringCase (text : String)
  /-- A quoted string, opened by the given quote or by either. -/
  | quoted (allowed : Option Quote)

namespace Shape

/-- An identifier. -/
def identifier : Shape := oneThenRun isIdentifierStart isIdentifierPart

/-- Digits alone. -/
def integer : Shape := run isDecimalDigit

/-- Everything up to white space, across lines. -/
def nonWhiteSpace : Shape := run fun c => !isWhiteSpace c

/-- Everything up to a blank of either kind. -/
def nonWhiteSpaceOrNewLine : Shape := run fun c => !isWhiteSpaceOrNewLine c

/-- Any one character. -/
def anyChar : Shape := oneThenRun (fun _ => true) (fun _ => false)

/-- The bytes of a fraction at the head of a text: a point and the digits behind it. A point that
no digit follows belongs to no number. -/
def fractionExtent : List Char → Nat
  | [] => 0
  | c :: cs =>
    let digits := cs.takeWhile isDecimalDigit
    if c = '.' ∧ digits ≠ [] then c.utf8Size + Utf8.length digits else 0

/-- The number of bytes that the shape takes from the head of a text, if it can be read there. -/
def extent? : Shape → List Char → Option Nat
  | run p, cs =>
    let taken := cs.takeWhile p
    if taken = [] then none else some (Utf8.length taken)
  | oneThenRun first others, cs =>
    match cs with
    | [] => none
    | c :: cs => if first c then some (c.utf8Size + Utf8.length (cs.takeWhile others)) else none
  | decimal, cs =>
    let digits := cs.takeWhile isDecimalDigit
    if digits = [] then none
    else some (Utf8.length digits + fractionExtent (cs.dropWhile isDecimalDigit))
  | char c, cs => if cs.head? = some c then some c.utf8Size else none
  | literal text, cs =>
    if text ≠ "" ∧ startsWith text.toList cs = true then some text.utf8ByteSize else none
  | literalIgnoringCase text, cs =>
    if text ≠ "" ∧ startsWithIgnoringCase text.toList cs = true then some text.utf8ByteSize
    else none
  | quoted allowed, cs => (Quoted.extent allowed cs).toOption

theorem utf8ByteSize_pos {text : String} (h : text ≠ "") : 0 < text.utf8ByteSize := by
  rw [Utf8.utf8ByteSize_eq]
  refine Nat.pos_of_ne_zero fun hn => h ?_
  rw [Utf8.length_eq_zero] at hn
  rw [← String.ofList_toList (s := text), hn]

/-- Whatever can be read has at least one byte. -/
theorem pos_of_extent? {shape : Shape} {cs : List Char} {n : Nat}
    (h : shape.extent? cs = some n) : 0 < n := by
  cases shape with
  | run p =>
    simp only [extent?, Option.ite_none_left_eq_some, Option.some.injEq] at h
    exact h.2 ▸ Nat.pos_of_ne_zero (mt Utf8.length_eq_zero.1 h.1)
  | oneThenRun first others =>
    cases cs with
    | nil => simp [extent?] at h
    | cons c cs =>
      simp only [extent?, Option.ite_none_right_eq_some, Option.some.injEq] at h
      have := c.utf8Size_pos
      omega
  | decimal =>
    simp only [extent?, Option.ite_none_left_eq_some, Option.some.injEq] at h
    have := Nat.pos_of_ne_zero (mt Utf8.length_eq_zero.1 h.1)
    omega
  | char c =>
    simp only [extent?, Option.ite_none_right_eq_some, Option.some.injEq] at h
    exact h.2 ▸ c.utf8Size_pos
  | literal text | literalIgnoringCase text =>
    simp only [extent?, Option.ite_none_right_eq_some, Option.some.injEq] at h
    exact h.2 ▸ utf8ByteSize_pos h.1.1
  | quoted allowed =>
    simp only [extent?] at h
    cases he : Quoted.extent allowed cs with
    | error => simp [he, Except.toOption] at h
    | ok m =>
      simp only [he, Except.toOption, Option.some.injEq] at h
      have := Quoted.pos_of_extent he
      omega

end Shape

end LexSpan
