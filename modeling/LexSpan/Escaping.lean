import LexSpan.Unicode.Glyphless

/-!
# Texts written on one line

`quote` writes a text between double quotes so that it stays on one line and shows every character:
a quote, a backslash and the common controls by an escape of their own, every other character
without a glyph by its number.
-/

namespace LexSpan

/-- A character written by its number, in hexadecimal between braces. -/
def escapeByNumber (c : Char) : List Char :=
  '\\' :: 'u' :: '\x7b' :: (Nat.toDigits 16 c.toNat ++ ['\x7d'])

/-- A character as it is written in a quoted text. -/
def escapeChar (c : Char) : List Char :=
  if c = '"' then ['\\', '"']
  else if c = '\\' then ['\\', '\\']
  else if c = '\x00' then ['\\', '0']
  else if c = '\t' then ['\\', 't']
  else if c = '\n' then ['\\', 'n']
  else if c = '\r' then ['\\', 'r']
  else if c.toNat < 0x20 ∨ c = '\x7f' ∨ Unicode.isGlyphless c = true then escapeByNumber c
  else [c]

/-- The characters of a text as they are written. -/
def escape (cs : List Char) : List Char := cs.flatMap escapeChar

/-- A text in double quotes. -/
def quote (text : String) : String := String.ofList ('"' :: (escape text.toList ++ ['"']))

end LexSpan
