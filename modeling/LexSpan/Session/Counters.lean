import LexSpan.Session.Operation

/-!
# Counters

In a session lines and columns are counted in words of 64 bits, and an operation that would count
past the last word is refused. `Operation.reach` is the number of characters that an operation
passes, also where it goes back over them afterwards; `Cursor.countersFit` tells whether the
counters hold on the way over so many characters. A cursor that was never put at a position of
someone's choice cannot come near the limit.
-/

namespace LexSpan

/-- The first number that is too large for a counter. -/
def counterLimit : Nat := 0x10000000000000000

namespace Position

/-- Whether both counters are below the limit. -/
def countersFit (p : Position) : Bool := p.line < counterLimit && p.column < counterLimit

end Position

namespace Cursor

/-- Whether the counters hold on the way over the next `n` characters. -/
def countersFit (c : Cursor) : Nat → Bool
  | 0 => true
  | n + 1 => c.advance.position.countersFit && c.advance.countersFit n

end Cursor

namespace Quoted

/-- How many characters after a backslash fit the escape they start before one does not. -/
def escapeReach : List Char → Nat
  | [] => 0
  | c :: cs =>
    match hexDigits? c with
    | some (n + 1) => 1 + ((cs.take (n + 1)).takeWhile isHexDigit).length
    | _ => 0

/-- The number of characters passed to find the end of a quoted string or what is wrong with it. A
string without a second quote is refused before any is passed. -/
def reach (allowed : Option Quote) (cs : List Char) : Nat :=
  match extent allowed cs with
  | .ok n => Utf8.fitting n cs
  | .error .noOpeningQuote => 0
  | .error .unterminated =>
    match cs with
    | [] => 0
    | c :: body => if body.contains c then cs.length else 0
  | .error (.invalidEscape n) => Utf8.fitting n cs + 1 + escapeReach (Utf8.drop (n + 1) cs)

end Quoted

namespace Shape

/-- The number of characters passed in reading a shape, whether it can be read or not. The point
behind a number is passed to see whether a digit follows. -/
def reach : Shape → List Char → Nat
  | run p, cs => (cs.takeWhile p).length
  | oneThenRun first others, cs =>
    match cs with
    | [] => 0
    | c :: cs => if first c then 1 + (cs.takeWhile others).length else 0
  | decimal, cs =>
    let digits := cs.takeWhile isDecimalDigit
    let after := cs.dropWhile isDecimalDigit
    if digits ≠ [] ∧ after.head? = some '.' then
      digits.length + 1 + (after.tail.takeWhile isDecimalDigit).length
    else digits.length
  | quoted allowed, cs => Quoted.reach allowed cs
  | shape, cs =>
    match shape.extent? cs with
    | none => 0
    | some n => Utf8.fitting n cs

end Shape

namespace Operation

/-- The number of characters that an operation passes. -/
def reach (op : Operation) (c : Cursor) : Nat :=
  match op with
  | .advance count => count
  | .advanceTo target => Utf8.fitting (target - c.offset) c.rest
  | .skip p => (c.rest.takeWhile p).length
  | .read shape => shape.reach c.rest
  | _ => 0

end Operation

end LexSpan
