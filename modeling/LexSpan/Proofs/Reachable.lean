import LexSpan.Proofs.Ahead
import LexSpan.Proofs.ReadOutcome
import LexSpan.Session.Operation

/-!
# The cursors that operations lead to

`Reachable text` holds of the cursors that operations lead to from the start of a text, in any
order; resets may go to every position that is accepted, whatever its line and column. They are the
valid cursors over the text (`reachable_iff`): each operation leads on or is a reset
(`Valid.ahead_or_reset`) and so keeps validity (`Valid.of_run`), and a reset leads to any valid cursor
at once (`Valid.reset_position`).
-/

namespace LexSpan

namespace Cursor

variable {c later : Cursor}

/-- A reset that is accepted leads to a valid cursor, wherever it starts. -/
theorem Valid.of_reset {p : Position} (h : c.reset p = .ok later) : later.Valid := by
  unfold reset at h
  split at h
  · cases h
  · split at h
    · next hb =>
      cases h
      obtain ⟨as, bs, htext, hlen⟩ := Utf8.isBoundary_iff.1 hb
      exact ⟨as, by rw [htext, ← hlen, Utf8.drop_length_append], hlen.symm⟩
    · cases h

/-- All that an operation can do: it leads on, or it is a reset. -/
theorem Valid.ahead_or_reset (hv : c.Valid) {op : Operation} {answer : Answer}
    (h : op.run c = .ok (answer, later)) :
    c.Ahead later ∨ ∃ p, op = .reset p ∧ c.reset p = .ok later := by
  cases op with
  | advance count =>
    cases h
    exact .inl (.advanceBy count c)
  | advanceTo target =>
    obtain ⟨_, hr, he⟩ := Operation.exists_of_map_eq_ok h
    cases he
    exact .inl (.of_advanceTo hr)
  | reset p =>
    obtain ⟨_, hr, he⟩ := Operation.exists_of_map_eq_ok h
    cases he
    exact .inr ⟨p, rfl, hr⟩
  | skip p =>
    obtain ⟨_, hr, he⟩ := Operation.exists_of_map_eq_ok h
    cases he
    rcases skip_cases hv p with hskip | ⟨as, bs, -, -, hskip⟩
    · cases hskip.symm.trans hr
      exact .inl (.refl c)
    · cases hskip.symm.trans hr
      exact .inl (.advanceBy _ c)
  | read shape =>
    obtain ⟨_, hr, he⟩ := Operation.exists_of_map_eq_ok h
    cases he
    rcases read_cases hv shape with hread | ⟨as, bs, -, -, hread⟩
    · cases hread.symm.trans hr
      exact .inl (.refl c)
    · cases hread.symm.trans hr
      exact .inl (.advanceBy _ c)
  | slice start stop =>
    obtain ⟨_, -, he⟩ := Operation.exists_of_map_eq_ok h
    cases he
    exact .inl (.refl c)
  | _ =>
    cases h
    exact .inl (.refl c)

theorem Valid.of_run (hv : c.Valid) {op : Operation} {answer : Answer}
    (h : op.run c = .ok (answer, later)) : later.Valid := by
  rcases hv.ahead_or_reset h with hahead | ⟨p, -, hreset⟩
  · exact hahead.valid hv
  · exact .of_reset hreset

/-- A reset to the position of a valid cursor leads to that cursor from any other over the text. -/
theorem Valid.reset_position (hv : c.Valid) {d : Cursor} (htext : d.text = c.text) :
    d.reset c.position = .ok c := by
  obtain ⟨passed, hpassed, hoffset⟩ := hv
  have hle : c.position.offset ≤ d.text.utf8ByteSize := by
    rw [Utf8.utf8ByteSize_eq, htext, hpassed, Utf8.length_append]
    exact Nat.le_trans (Nat.le_of_eq hoffset) (Nat.le_add_right _ _)
  have hb : Utf8.isBoundary c.position.offset d.text.toList = true :=
    Utf8.isBoundary_iff.2 ⟨passed, c.rest, by rw [htext, hpassed], hoffset.symm⟩
  have hdrop : Utf8.drop c.position.offset d.text.toList = c.rest := by
    rw [htext, hpassed, show c.position.offset = Utf8.length passed from hoffset,
      Utf8.drop_length_append]
  rw [reset, if_neg (by omega), if_pos hb, hdrop, htext]

end Cursor

/-- The cursors that operations lead to from the start of a text. -/
inductive Reachable (text : String) : Cursor → Prop
  | start : Reachable text (.start text)
  | run {c later : Cursor} {op : Operation} {answer : Answer} (h : Reachable text c)
    (hop : op.run c = .ok (answer, later)) : Reachable text later

theorem Reachable.text_eq {text : String} {c : Cursor} (h : Reachable text c) : c.text = text := by
  induction h with
  | start => rfl
  | run _ hop ih => rw [Operation.text_of_run hop, ih]

theorem Reachable.valid {text : String} {c : Cursor} (h : Reachable text c) : c.Valid := by
  induction h with
  | start => exact Cursor.valid_start text
  | run _ hop ih => exact ih.of_run hop

theorem reachable_iff {text : String} {c : Cursor} :
    Reachable text c ↔ c.Valid ∧ c.text = text := by
  constructor
  · exact fun h => ⟨h.valid, h.text_eq⟩
  · rintro ⟨hv, rfl⟩
    have hreset : (Cursor.start c.text).reset c.position = .ok c := hv.reset_position rfl
    have hrun : (Operation.reset c.position).run (.start c.text) = .ok (.done, c) := by
      rw [Operation.run, hreset]
      rfl
    exact .run .start hrun

end LexSpan
