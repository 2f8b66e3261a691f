import LexSpan.CharClass
import LexSpan.Utf8

/-!
# Quoted strings

A quoted string opens and closes with the same quote. In between stand ordinary characters, line
breaks and the other quote included, and escapes: a backslash followed by one of
`0 ' " \ b f n r t v`, by `u` and four hexadecimal digits, or by `x` and two.

`extent` measures the quoted string at the head of a text or says what is wrong with it. It looks
for the closing quote byte by byte, and goes through the characters (`endOfBody`) only if there is a
backslash before it. A string without any second quote is unterminated, whatever its escapes are
like.

Main statements: `extent_of_plain` and `extent_of_backslash` give its two ways, and what it
measures is never empty (`pos_of_extent`).
-/

namespace LexSpan

/-- The two quotes. -/
inductive Quote where
  | single
  | double
deriving DecidableEq

namespace Quote

/-- The character that a quote is. -/
def char : Quote → Char
  | single => '\''
  | double => '"'

/-- A quote is an ASCII character, so it has one byte. -/
def byte (q : Quote) : UInt8 := UInt8.ofNat q.char.toNat

/-- The quote that a character is. -/
def ofChar? (c : Char) : Option Quote :=
  if c = '\'' then some single else if c = '"' then some double else none

end Quote

namespace Quoted

/-- What is wrong with a quoted string. -/
inductive Defect where
  /-- The text does not start with an allowed quote. -/
  | noOpeningQuote
  /-- The quote never closes. -/
  | unterminated
  /-- The backslash at this offset starts no escape; the opening quote has offset zero. -/
  | invalidEscape (offset : Nat)
deriving DecidableEq

/-- The characters that make an escape of two characters. -/
def shortEscapes : List Char := ['0', '\'', '"', '\\', 'b', 'f', 'n', 'r', 't', 'v']

/-- How many hexadecimal digits follow the letter `c` of an escape, if there is such an escape. -/
def hexDigits? (c : Char) : Option Nat :=
  if shortEscapes.contains c then some 0
  else if c = 'u' then some 4
  else if c = 'x' then some 2
  else none

/-- The number of characters of the escape at the head of a text, its backslash not counted. -/
def escapeLength? : List Char → Option Nat
  | [] => none
  | c :: cs =>
    match hexDigits? c with
    | none => none
    | some n =>
      let digits := cs.take n
      if digits.length = n ∧ digits.all isHexDigit = true then some (n + 1) else none

/-- The offset behind the closing quote of a string whose body goes on at `offset` with `cs`. -/
def endOfBody (quote : Quote) (offset : Nat) : List Char → Except Defect Nat
  | [] => .error .unterminated
  | c :: cs =>
    if c = quote.char then .ok (offset + 1)
    else if c = '\\' then
      match escapeLength? cs with
      | none => .error (.invalidEscape offset)
      | some n => endOfBody quote (offset + 1 + n) (cs.drop n)
    else endOfBody quote (offset + c.utf8Size) cs
termination_by cs => cs.length
decreasing_by all_goals simp; try omega

/-- The byte of a backslash. -/
def backslashByte : UInt8 := UInt8.ofNat '\\'.toNat

/-- The number of bytes of the quoted string whose opening quote is followed by `body`. -/
def extentAfter (quote : Quote) (body : List Char) : Except Defect Nat :=
  match Utf8.index? quote.byte body with
  | none => .error .unterminated
  | some close =>
    if backslashByte ∈ Utf8.firstBytes close body then endOfBody quote 1 body
    else .ok (close + 2)

/-- The number of bytes of the quoted string at the head of a text. `allowed` is the only quote
that may open it, or none if either may. -/
def extent (allowed : Option Quote) : List Char → Except Defect Nat
  | [] => .error .noOpeningQuote
  | c :: body =>
    match Quote.ofChar? c with
    | none => .error .noOpeningQuote
    | some quote =>
      if allowed = none ∨ allowed = some quote then extentAfter quote body
      else .error .noOpeningQuote

theorem extent_of_plain {quote : Quote} {body : List Char} {close : Nat}
    (h : Utf8.index? quote.byte body = some close)
    (hb : backslashByte ∉ Utf8.firstBytes close body) :
    extentAfter quote body = .ok (close + 2) := by
  simp [extentAfter, h, hb]

theorem extent_of_backslash {quote : Quote} {body : List Char} {close : Nat}
    (h : Utf8.index? quote.byte body = some close)
    (hb : backslashByte ∈ Utf8.firstBytes close body) :
    extentAfter quote body = endOfBody quote 1 body := by
  simp [extentAfter, h, hb]

theorem lt_of_endOfBody {quote : Quote} {offset n : Nat} {cs : List Char}
    (h : endOfBody quote offset cs = .ok n) : offset < n := by
  fun_induction endOfBody quote offset cs with
  | case1 => simp at h
  | case2 => simp at h; omega
  | case3 => simp at h
  | case4 _ _ _ _ _ ih => have := ih h; omega
  | case5 _ _ _ _ _ ih => have := ih h; omega

/-- A quoted string has at least its two quotes. -/
theorem pos_of_extent {allowed : Option Quote} {cs : List Char} {n : Nat}
    (h : extent allowed cs = .ok n) : 1 < n := by
  cases cs with
  | nil => simp [extent] at h
  | cons c body =>
    rw [extent] at h
    split at h
    · simp at h
    · split at h
      · rw [extentAfter] at h
        split at h
        · simp at h
        · split at h
          · exact lt_of_endOfBody h
          · simp at h; omega
      · simp at h

end Quoted

end LexSpan
