import LexSpan.Proofs.SessionRuns

/-!
# Room for the counters

A cursor counts lines and columns without a bound, and a session refuses to count past the last
word. Where there is room for all that is left of the text (`Cursor.HasRoom`), the counters hold over
any number of characters (`HasRoom.countersFit`), and there is still room further on
(`HasRoom.of_ahead`). So what holds of the operations of cursors holds of those of sessions, except
where a session refuses one for want of room (`Session.operate_of_run`, `Session.operate_read`).
-/

namespace LexSpan

namespace Cursor

/-- Whether the counters hold however far the cursor moves on: a character adds at most one. -/
def HasRoom (c : Cursor) : Prop :=
  c.position.line + c.rest.length < counterLimit ∧ c.position.column + c.rest.length < counterLimit

variable {c d : Cursor}

theorem HasRoom.advance (h : c.HasRoom) : c.advance.HasRoom := by
  rcases hc : c.rest with _ | ⟨ch, cs⟩
  · rwa [advance_of_atEnd hc]
  · rw [HasRoom, hc, List.length_cons] at h
    rw [advance_of_rest hc, HasRoom]
    cases hb : breaksLine ch cs.head? with
    | true => rw [Position.step_of_breaksLine hb]; simp only; omega
    | false => rw [Position.step_of_not_breaksLine hb]; simp only; omega

theorem HasRoom.of_ahead (h : c.HasRoom) (hahead : c.Ahead d) : d.HasRoom :=
  hahead.keeps (fun _ => HasRoom.advance) h

theorem HasRoom.countersFit (h : c.HasRoom) (n : Nat) : c.countersFit n = true := by
  induction n generalizing c with
  | zero => rfl
  | succ n ih =>
    have hroom := h.advance
    obtain ⟨hline, hcolumn⟩ := hroom
    rw [Cursor.countersFit, ih h.advance, Position.countersFit, decide_eq_true (by omega),
      decide_eq_true (by omega)]
    rfl

end Cursor

namespace Session

variable {s : Session} {op : Operation}

/-- What an operation of a cursor comes to in a session: it is refused only where the counters do
not hold. -/
theorem operate_of_run {answer : Answer} {later : Cursor}
    (h : op.run s.cursor = .ok (answer, later)) :
    (s.operate op = .error .countersExhausted ∧ ¬ s.cursor.HasRoom) ∨
      s.operate op = .ok (answer, { s with cursor := later }) := by
  rcases operate_of_ok h with hok | ⟨herror, hfit⟩
  · exact .inr hok
  · exact .inl ⟨herror, fun hroom => hfit (hroom.countersFit _)⟩

/-- A read in a session answers what the read at its cursor does. -/
theorem operate_read {shape : Shape} {found : Option Token} {later : Cursor}
    (h : s.cursor.read shape = .ok (found, later)) :
    (s.operate (.read shape) = .error .countersExhausted ∧ ¬ s.cursor.HasRoom) ∨
      s.operate (.read shape) = .ok (.token found, { s with cursor := later }) := by
  refine operate_of_run ?_
  rw [Operation.run, h]
  rfl

end Session

end LexSpan
