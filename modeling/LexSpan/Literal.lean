import LexSpan.Utf8

/-!
# Literals at the head of a text

Whether a text starts with a given literal, letter by letter (`startsWith`) or up to the case of
ASCII letters (`startsWithIgnoringCase`). The second compares bytes: the case of an ASCII letter is
one bit of its only byte, and all other bytes stand for themselves.
-/

namespace LexSpan

/-- A byte with ASCII capitals made small, and all others as they are. -/
def lowerByte (b : UInt8) : UInt8 := if 0x41 ≤ b && b ≤ 0x5a then b + 0x20 else b

/-- Whether `cs` starts with the characters of `literal`. -/
def startsWith (literal cs : List Char) : Bool := literal.isPrefixOf cs

/-- Whether `cs` starts with the bytes of `literal`, up to the case of ASCII letters. -/
def startsWithIgnoringCase (literal cs : List Char) : Bool :=
  (Utf8.firstBytes (Utf8.length literal) cs).map lowerByte == (Utf8.bytes literal).map lowerByte

end LexSpan
