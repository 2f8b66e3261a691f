import LexSpan.Reading

/-!
# Operations at a cursor

What can be done and asked at a cursor, as data: an `Operation` has an `Answer` and leads to a
cursor, or is refused. Main statement: an operation never changes the text (`text_of_run`).
-/

namespace LexSpan

/-- What can be done or asked at a cursor. -/
inductive Operation where
  | advance (count : Nat)
  | advanceTo (target : Nat)
  | reset (position : Position)
  | skip (p : Char → Bool)
  | read (shape : Shape)
  | matchesChar (ch : Char)
  | matchesText (literal : String)
  | matchesTextIgnoringCase (literal : String)
  | slice (start stop : Nat)
  | remaining
  | text
  | current
  | following
  | atEnd
  | offset
  | position
  | render

/-- What a step answers. -/
inductive Answer where
  | done
  | truth (value : Bool)
  | number (value : Nat)
  | text (value : String)
  | char (value : Option Char)
  | position (value : Position)
  | token (value : Option Token)
deriving DecidableEq

namespace Operation

/-- Carries out an operation: its answer, and the cursor after it. -/
def run (op : Operation) (c : Cursor) : Except Fault (Answer × Cursor) :=
  match op with
  | .advance count => .ok (.done, c.advanceBy count)
  | .advanceTo target => (c.advanceTo target).map fun later => (.done, later)
  | .reset p => (c.reset p).map fun later => (.done, later)
  | .skip p => (c.skip p).map fun (moved, later) => (.truth moved, later)
  | .read shape => (c.read shape).map fun (token, later) => (.token token, later)
  | .matchesChar ch => .ok (.truth (c.matchesChar ch), c)
  | .matchesText literal => .ok (.truth (c.matchesText literal), c)
  | .matchesTextIgnoringCase literal => .ok (.truth (c.matchesTextIgnoringCase literal), c)
  | .slice start stop => (c.slice start stop).map fun part => (.text part, c)
  | .remaining => .ok (.text c.remaining, c)
  | .text => .ok (.text c.text, c)
  | .current => .ok (.char c.current, c)
  | .following => .ok (.char c.following, c)
  | .atEnd => .ok (.truth c.atEnd, c)
  | .offset => .ok (.number c.offset, c)
  | .position => .ok (.position c.position, c)
  | .render => .ok (.text c.position.render, c)

theorem exists_of_map_eq_ok {ε α β : Type} {f : α → β} {x : Except ε α} {b : β}
    (h : x.map f = .ok b) : ∃ a, x = .ok a ∧ f a = b := by
  cases x with
  | error e => simp [Except.map] at h
  | ok a => exact ⟨a, rfl, by simpa [Except.map] using h⟩

/-- An operation stays in its text. -/
theorem text_of_run {op : Operation} {c later : Cursor} {answer : Answer}
    (h : op.run c = .ok (answer, later)) : later.text = c.text := by
  cases op with
  | advance count =>
    simp only [run, Except.ok.injEq, Prod.mk.injEq] at h
    rw [← h.2, Cursor.text_advanceBy]
  | advanceTo target =>
    obtain ⟨_, hr, he⟩ := exists_of_map_eq_ok h
    simp only [Prod.mk.injEq] at he
    exact he.2 ▸ Cursor.text_of_advanceTo hr
  | reset p =>
    obtain ⟨_, hr, he⟩ := exists_of_map_eq_ok h
    simp only [Prod.mk.injEq] at he
    exact he.2 ▸ Cursor.text_of_reset hr
  | skip p =>
    obtain ⟨_, hr, he⟩ := exists_of_map_eq_ok h
    simp only [Prod.mk.injEq] at he
    exact he.2 ▸ Cursor.text_of_skip hr
  | read shape =>
    obtain ⟨_, hr, he⟩ := exists_of_map_eq_ok h
    simp only [Prod.mk.injEq] at he
    exact he.2 ▸ Cursor.text_of_read hr
  | slice start stop =>
    obtain ⟨_, -, he⟩ := exists_of_map_eq_ok h
    simp only [Prod.mk.injEq] at he
    exact he.2 ▸ rfl
  | _ =>
    simp only [run, Except.ok.injEq, Prod.mk.injEq] at h
    exact h.2 ▸ rfl

end Operation

end LexSpan
