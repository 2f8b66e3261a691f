/-!
# Positions in a text

A position counts in three units: bytes from the start of the text, lines, and characters within
the line. Line feed, carriage return and the pair of both each break a line once; the pair breaks
it on the line feed. Main statement: a step moves the offset by the character's bytes and either
breaks the line or moves one column on (`step_of_breaksLine`, `step_of_not_breaksLine`).
-/

namespace LexSpan

/-- A place in a text: its byte offset, and its line and column, both counted from one. -/
structure Position where
  offset : Nat
  line : Nat
  column : Nat
deriving DecidableEq

/-- Whether reading `c` breaks the line, when `next` follows it. -/
def breaksLine (c : Char) (next : Option Char) : Bool :=
  c = '\n' || (c = '\r' && next ≠ some '\n')

namespace Position

/-- The position of the first character of a text. -/
def start : Position := ⟨0, 1, 1⟩

/-- The position behind `c`, which is followed by `next`. -/
def step (p : Position) (c : Char) (next : Option Char) : Position :=
  if breaksLine c next then ⟨p.offset + c.utf8Size, p.line + 1, 1⟩
  else ⟨p.offset + c.utf8Size, p.line, p.column + 1⟩

/-- A position as it is shown to a reader, who counts lines and columns. -/
def render (p : Position) : String := toString p.line ++ ":" ++ toString p.column

@[simp] theorem offset_step (p : Position) (c : Char) (next : Option Char) :
    (p.step c next).offset = p.offset + c.utf8Size := by
  unfold step; split <;> rfl

theorem step_of_breaksLine {p : Position} {c : Char} {next : Option Char}
    (h : breaksLine c next = true) :
    p.step c next = ⟨p.offset + c.utf8Size, p.line + 1, 1⟩ := by
  simp [step, h]

theorem step_of_not_breaksLine {p : Position} {c : Char} {next : Option Char}
    (h : breaksLine c next = false) :
    p.step c next = ⟨p.offset + c.utf8Size, p.line, p.column + 1⟩ := by
  simp [step, h]

end Position

end LexSpan
