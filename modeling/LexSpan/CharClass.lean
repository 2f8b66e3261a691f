import LexSpan.Unicode.Alphabetic

/-!
# Classes of characters

The classes that readers of a text choose by: white space, new lines, the characters of
identifiers, digits. Main statements: `mem_whiteSpaces` and `mem_newLines` list the two kinds of
blank, and no character is both (`not_isNewLine_of_isWhiteSpace`).
-/

namespace LexSpan

/-- White space within a line: tab, vertical tab, form feed, the spaces of Unicode that have a
width, and the byte order mark. -/
def whiteSpaces : List Char :=
  [' ', '\t', '\u000b', '\u000c', '\u00a0', '\u1680', '\u2000', '\u2001', '\u2002', '\u2003',
    '\u2004', '\u2005', '\u2006', '\u2007', '\u2008', '\u2009', '\u200a', '\u202f', '\u205f',
    '\u3000', '\ufeff']

/-- The characters that end a line of a document: line feed, carriage return, next line, line
separator and paragraph separator. -/
def newLines : List Char := ['\n', '\r', '\u0085', '\u2028', '\u2029']

/-- Whether `c` is one of `whiteSpaces`. -/
def isWhiteSpace (c : Char) : Bool := whiteSpaces.contains c

/-- Whether `c` is one of `newLines`. -/
def isNewLine (c : Char) : Bool := newLines.contains c

/-- Whether `c` is a blank of either kind. -/
def isWhiteSpaceOrNewLine (c : Char) : Bool := isNewLine c || isWhiteSpace c

/-- Whether an identifier may start with `c`: a dollar sign, an underscore, an ASCII letter or an
alphabetic character outside ASCII. -/
def isIdentifierStart (c : Char) : Bool :=
  c = '$' || c = '_' || c.isAlpha || Unicode.isAlphabetic c

/-- The decimal digits of ASCII; no other script's digits count. -/
def isDecimalDigit (c : Char) : Bool := c.isDigit

/-- Whether an identifier may go on with `c`. -/
def isIdentifierPart (c : Char) : Bool := isDecimalDigit c || isIdentifierStart c

/-- The hexadecimal digits of ASCII, in either case. -/
def isHexDigit (c : Char) : Bool :=
  c.isDigit || ('a' ≤ c && c ≤ 'f') || ('A' ≤ c && c ≤ 'F')

/-- The classes by name. -/
inductive CharClass where
  | whiteSpace
  | newLine
  | whiteSpaceOrNewLine
  | identifierStart
  | identifierPart
  | decimalDigit
  | hexDigit
deriving DecidableEq

namespace CharClass

/-- The classes in the order in which they are listed for a character. -/
def all : List CharClass :=
  [whiteSpace, newLine, whiteSpaceOrNewLine, identifierStart, identifierPart, decimalDigit,
    hexDigit]

/-- Whether `c` is in the class. -/
def contains : CharClass → Char → Bool
  | whiteSpace => isWhiteSpace
  | newLine => isNewLine
  | whiteSpaceOrNewLine => isWhiteSpaceOrNewLine
  | identifierStart => isIdentifierStart
  | identifierPart => isIdentifierPart
  | decimalDigit => isDecimalDigit
  | hexDigit => isHexDigit

end CharClass

theorem mem_whiteSpaces {c : Char} : c ∈ whiteSpaces ↔ isWhiteSpace c = true := by
  simp [isWhiteSpace]

theorem mem_newLines {c : Char} : c ∈ newLines ↔ isNewLine c = true := by
  simp [isNewLine]

/-- The two kinds of blank are disjoint. -/
theorem not_isNewLine_of_isWhiteSpace {c : Char} (h : isWhiteSpace c = true) :
    isNewLine c = false := by
  have hall : whiteSpaces.all (fun c => !isNewLine c) = true := by decide +kernel
  simpa using List.all_eq_true.1 hall c (mem_whiteSpaces.2 h)

end LexSpan
