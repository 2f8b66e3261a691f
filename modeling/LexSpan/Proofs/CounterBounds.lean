import LexSpan.Proofs.Checkpoints
import LexSpan.Proofs.Consumption
import LexSpan.Proofs.LineColumn

/-!
# How far lines and columns are counted

Lines and columns are counted from one, and every count costs a byte: a step that breaks the line adds
one to it and gives up the column, and any other step adds one to the column (`Counted.step`). So the
counters of a cursor that was never put at a position of someone's choice stay below the number of
bytes before it, and hold to the end of every text that fits into memory (`Visited.hasRoom`). A session
that goes back to remembered positions only is never refused for its counters
(`Session.refusal_ne_countersExhausted`).
-/

namespace LexSpan

/-- The first number of bytes that no text has. -/
def sizeLimit : Nat := 0x8000000000000000

/-- Whether lines and columns are counted from one, and together by bytes. -/
structure Position.Counted (p : Position) : Prop where
  line_pos : 1 ≤ p.line
  column_pos : 1 ≤ p.column
  sum_le : p.line + p.column ≤ p.offset + 2

theorem Position.Counted.step {p : Position} (h : p.Counted) (ch : Char) (next : Option Char) :
    (p.step ch next).Counted := by
  have hpos := ch.utf8Size_pos
  obtain ⟨hline, hcolumn, hsum⟩ := h
  cases hb : breaksLine ch next with
  | true =>
    rw [Position.step_of_breaksLine hb]
    exact ⟨Nat.le_add_left 1 _, Nat.le_refl 1, by simp only; omega⟩
  | false =>
    rw [Position.step_of_not_breaksLine hb]
    exact ⟨hline, Nat.le_add_left 1 _, by simp only; omega⟩

variable {text : String} {c d : Cursor}

theorem Cursor.Ahead.counted (h : c.Ahead d) (hc : c.position.Counted) : d.position.Counted := by
  have hstep : ∀ e : Cursor, e.position.Counted → e.advance.position.Counted := fun e he => by
    rcases hrest : e.rest with _ | ⟨ch, cs⟩
    · rwa [Cursor.advance_of_atEnd hrest]
    · rw [Cursor.advance_of_rest hrest]
      exact he.step ch _
  exact h.keeps hstep hc

theorem Visited.counted (h : Visited text c) : c.position.Counted :=
  (visited_iff.1 h).counted ⟨Nat.le_refl 1, Nat.le_refl 1, Nat.le_refl 2⟩

theorem Visited.offset_le (h : Visited text c) : c.position.offset ≤ text.utf8ByteSize := by
  have hahead := visited_iff.1 h
  exact ((hahead.valid (Cursor.valid_start text)).inStep hahead.text_eq).offset_le

theorem Cursor.HasRoom.position_countersFit (h : c.HasRoom) : c.position.countersFit = true := by
  obtain ⟨hline, hcolumn⟩ := h
  rw [Position.countersFit, decide_eq_true (by omega), decide_eq_true (by omega)]
  rfl

theorem Visited.hasRoom (h : Visited text c) (hsize : text.utf8ByteSize < sizeLimit) :
    c.HasRoom := by
  have hahead := visited_iff.1 h
  have hbytes := (hahead.valid (Cursor.valid_start text)).utf8ByteSize_eq
  rw [hahead.text_eq] at hbytes
  have hlength := Utf8.length_le_length c.rest
  obtain ⟨hline, hcolumn, hsum⟩ := h.counted
  change text.utf8ByteSize = c.position.offset + Utf8.length c.rest at hbytes
  rw [sizeLimit] at hsize
  rw [Cursor.HasRoom, counterLimit]
  omega

namespace Session

variable {s : Session} {st : Step} {steps : List Step}

theorem operate_ne_countersExhausted (h : s.cursor.HasRoom) (op : Operation) :
    s.operate op ≠ .error .countersExhausted := by
  rw [operate]
  intro hoperate
  split at hoperate
  · cases hoperate
  · rw [if_pos (h.countersFit _)] at hoperate
    cases hoperate

theorem step_ne_countersExhausted (h : s.cursor.HasRoom) (st : Step) :
    s.step st ≠ .error .countersExhausted := by
  intro hstep
  cases st with
  | operation op => exact operate_ne_countersExhausted h op hstep
  | backTo name =>
    rw [step] at hstep
    split at hstep
    · cases hstep
    · exact operate_ne_countersExhausted h _ hstep
  | checkpoint name | save => cases hstep
  | restore | isSaved =>
    rw [step] at hstep
    split at hstep <;> cases hstep

/-- Counters hold throughout a session that knows visited places only. -/
theorem refusal_ne_countersExhausted (h : s.Knows (Visited text))
    (hsize : text.utf8ByteSize < sizeLimit)
    (hsteps : ∀ st ∈ steps, st.Allowed fun op => ∀ p, op ≠ .reset p) :
    (s.run steps).refusal ≠ some .countersExhausted := by
  induction steps generalizing s with
  | nil => nofun
  | cons st steps ih =>
    cases hstep : s.step st with
    | error refusal =>
      rw [run_of_error hstep]
      rintro ⟨⟩
      exact step_ne_countersExhausted (h.cursor.hasRoom hsize) st hstep
    | ok result =>
      have hlater := h.of_step (closedUnder_visited text) (hsteps st (.head _)) hstep
      rw [run_of_ok hstep]
      exact ih hlater fun st hst => hsteps st (.tail _ hst)

end Session

end LexSpan
