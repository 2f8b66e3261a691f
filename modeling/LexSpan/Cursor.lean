import LexSpan.Literal
import LexSpan.Token

/-!
# Cursors

A cursor stands in a text, between the characters already passed and the rest. It moves forward
character by character (`advance`) or to a given offset (`advanceTo`), and goes back to any
position (`reset`). Moves to an offset outside the text or inside a character are faults.

`Valid` ties the three fields together: the offset is the length of what was passed, and the rest
is what follows it. Main statements: a new cursor is valid (`valid_start`), and `advance` keeps
validity (`Valid.advance`).
-/

namespace LexSpan

/-- Why a cursor refuses a request. -/
inductive Fault where
  /-- A slice ends before it starts. -/
  | sliceReversed (start stop : Nat)
  /-- A slice is cut outside the text or inside a character. -/
  | sliceOffBoundary (start stop : Nat)
  /-- A cursor would go back, or past the end of the text. -/
  | targetOutside (target offset size : Nat)
  /-- A cursor would stop inside a character. -/
  | targetInsideChar (target : Nat)
  /-- A cursor would be put past the end of the text. -/
  | resetOutside (offset size : Nat)
  /-- A cursor would be put inside a character. -/
  | resetInsideChar (offset : Nat)
deriving DecidableEq

namespace Fault

/-- What a fault is reported as. A slice cut in the wrong place has no report of its own. -/
def message : Fault → Option String
  | sliceReversed start stop => some s!"slice start {start} exceeds end {stop}"
  | sliceOffBoundary _ _ => none
  | targetOutside target offset size => some s!"advance target {target} outside {offset}..={size}"
  | targetInsideChar target => some s!"advance target {target} is not a char boundary"
  | resetOutside offset size => some s!"reset offset {offset} outside buffer of {size} bytes"
  | resetInsideChar offset => some s!"reset offset {offset} is not a char boundary"

end Fault

/-- A place in a text, with the characters from there on at hand. -/
structure Cursor where
  text : String
  rest : List Char
  position : Position
deriving DecidableEq

namespace Cursor

/-- The cursor on the first character of a text. -/
def start (text : String) : Cursor := ⟨text, text.toList, .start⟩

/-- The bytes from the start of the text to the cursor. -/
def offset (c : Cursor) : Nat := c.position.offset

/-- The character under the cursor, if it is not at the end. -/
def current (c : Cursor) : Option Char := c.rest.head?

/-- The character after the current one. -/
def following (c : Cursor) : Option Char := c.rest.tail.head?

/-- Whether nothing is left. -/
def atEnd (c : Cursor) : Bool := c.rest.isEmpty

/-- The text not yet passed. -/
def remaining (c : Cursor) : String := String.ofList c.rest

/-- Whether the current character is `ch`. -/
def matchesChar (c : Cursor) (ch : Char) : Bool := c.current == some ch

/-- Whether the rest starts with `literal`. -/
def matchesText (c : Cursor) (literal : String) : Bool := startsWith literal.toList c.rest

/-- Whether the rest starts with `literal`, up to the case of ASCII letters. -/
def matchesTextIgnoringCase (c : Cursor) (literal : String) : Bool :=
  startsWithIgnoringCase literal.toList c.rest

/-- The part of the whole text between two offsets. -/
def slice (c : Cursor) (start stop : Nat) : Except Fault String :=
  if stop < start then .error (.sliceReversed start stop)
  else if Utf8.isBoundary start c.text.toList ∧ Utf8.isBoundary stop c.text.toList then
    .ok (String.ofList (Utf8.take (stop - start) (Utf8.drop start c.text.toList)))
  else .error (.sliceOffBoundary start stop)

/-- Moves one character on, and stays where it is at the end. -/
def advance (c : Cursor) : Cursor :=
  match c.rest with
  | [] => c
  | ch :: cs => { c with rest := cs, position := c.position.step ch cs.head? }

/-- Moves `n` characters on, or to the end. -/
def advanceBy : Nat → Cursor → Cursor
  | 0, c => c
  | n + 1, c => advanceBy n c.advance

theorem length_rest_advance (c : Cursor) (h : c.atEnd = false) :
    c.advance.rest.length < c.rest.length := by
  rcases c with ⟨text, _ | ⟨ch, cs⟩, position⟩
  · simp [atEnd] at h
  · simp [advance]

/-- Moves on character by character until the offset is at least `target`. -/
def walkTo (target : Nat) (c : Cursor) : Cursor :=
  if c.offset < target ∧ c.atEnd = false then walkTo target c.advance else c
termination_by c.rest.length
decreasing_by
  rename_i h
  exact length_rest_advance c h.2

/-- Moves on to the offset `target`, which must lie ahead and between two characters. -/
def advanceTo (c : Cursor) (target : Nat) : Except Fault Cursor :=
  if target < c.offset ∨ c.text.utf8ByteSize < target then
    .error (.targetOutside target c.offset c.text.utf8ByteSize)
  else if Utf8.isBoundary (target - c.offset) c.rest then .ok (c.walkTo target)
  else .error (.targetInsideChar target)

/-- Goes to the offset of a position, and takes the position's line and column as they are. -/
def reset (c : Cursor) (p : Position) : Except Fault Cursor :=
  if c.text.utf8ByteSize < p.offset then .error (.resetOutside p.offset c.text.utf8ByteSize)
  else if Utf8.isBoundary p.offset c.text.toList then
    .ok { c with rest := Utf8.drop p.offset c.text.toList, position := p }
  else .error (.resetInsideChar p.offset)

/-- What lies between a cursor and a later one over the same text. -/
def tokenTo (c later : Cursor) : Token :=
  ⟨String.ofList (Utf8.take (later.offset - c.offset) c.rest), c.position, later.position⟩

theorem text_advance (c : Cursor) : c.advance.text = c.text := by
  unfold advance; split <;> rfl

theorem text_advanceBy (n : Nat) (c : Cursor) : (advanceBy n c).text = c.text := by
  induction n generalizing c with
  | zero => rfl
  | succ n ih => rw [advanceBy, ih, text_advance]

theorem text_walkTo (target : Nat) (c : Cursor) : (walkTo target c).text = c.text := by
  fun_induction walkTo target c with
  | case1 c _ ih => rw [ih, text_advance]
  | case2 c _ => rfl

theorem text_of_advanceTo {c later : Cursor} {target : Nat}
    (h : c.advanceTo target = .ok later) : later.text = c.text := by
  unfold advanceTo at h
  split at h
  · simp at h
  · split at h
    · simp only [Except.ok.injEq] at h
      exact h ▸ text_walkTo target c
    · simp at h

theorem text_of_reset {c later : Cursor} {p : Position} (h : c.reset p = .ok later) :
    later.text = c.text := by
  unfold reset at h
  split at h
  · simp at h
  · split at h
    · simp only [Except.ok.injEq] at h
      exact h ▸ rfl
    · simp at h

/-- The offset counts the bytes of the passed text, and the rest is what follows it. -/
def Valid (c : Cursor) : Prop :=
  ∃ passed, c.text.toList = passed ++ c.rest ∧ c.offset = Utf8.length passed

theorem valid_start (text : String) : (start text).Valid := ⟨[], rfl, rfl⟩

theorem Valid.advance {c : Cursor} (h : c.Valid) : c.advance.Valid := by
  rcases c with ⟨text, _ | ⟨ch, cs⟩, position⟩
  · exact h
  · obtain ⟨passed, htext, hoffset⟩ := h
    refine ⟨passed ++ [ch], ?_, ?_⟩
    · simpa [Cursor.advance] using htext
    · simp_all [Cursor.advance, offset]

end Cursor

end LexSpan
