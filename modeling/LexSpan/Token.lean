import LexSpan.Position

/-!
# Tokens

A token is a piece of a text together with the positions where it starts and stops.
-/

namespace LexSpan

/-- A piece of a text in its place. -/
structure Token where
  text : String
  start : Position
  stop : Position
deriving DecidableEq

namespace Token

/-- The number of bytes from start to stop. -/
def length (t : Token) : Nat := t.stop.offset - t.start.offset

/-- Whether start and stop are the same place. -/
def isEmpty (t : Token) : Bool := t.length = 0

end Token

end LexSpan
