import LexSpan.Proofs.Room
import LexSpan.Proofs.StringLiteral

/-!
# Reading quoted strings

Main statement (`read_quoted_exact`): at every cursor that can be reached, a read of a quoted string
succeeds exactly if an allowed quote stands under the cursor and opens a string literal. It takes
that literal as it is written, which is the only one there, and leaves the cursor behind it;
otherwise the cursor stays. A session refuses such a read only where its counters have no room.
-/

namespace LexSpan

open Quoted

/-- A string literal `w` stands under a cursor, opened by the quote `q`, which is allowed. -/
structure LiteralAt (allowed : Option Quote) (c : Cursor) (q : Quote) (w : List Char) : Prop where
  current : c.current = some q.char
  allowed : allowed = none ∨ allowed = some q
  literal : IsLiteral q w
  head : w <+: c.rest

variable {allowed : Option Quote} {c : Cursor} {q : Quote} {w : List Char}

theorem LiteralAt.of_append {bs : List Char} (ha : allowed = none ∨ allowed = some q)
    (hw : IsLiteral q w) (hc : c.rest = w ++ bs) : LiteralAt allowed c q w := by
  refine ⟨?_, ha, hw, ⟨bs, hc.symm⟩⟩
  obtain ⟨items, -, rfl⟩ := hw
  rw [Cursor.current, hc, List.cons_append, List.head?_cons]

theorem extent?_quoted_eq_some_iff {n : Nat} :
    (Shape.quoted allowed).extent? c.rest = some n ↔
      ∃ q w, LiteralAt allowed c q w ∧ n = Utf8.length w := by
  have hext : (Shape.quoted allowed).extent? c.rest = some n ↔ extent allowed c.rest = .ok n := by
    rw [Shape.extent?]
    cases extent allowed c.rest <;> simp [Except.toOption]
  rw [hext, extent_eq_ok_iff]
  constructor
  · rintro ⟨q, w, bs, ha, hw, hc, hn⟩
    exact ⟨q, w, .of_append ha hw hc, hn⟩
  · rintro ⟨q, w, ⟨-, ha, hw, bs, hc⟩, hn⟩
    exact ⟨q, w, bs, ha, hw, hc.symm, hn⟩

/-- A literal under the cursor is read. -/
theorem read_of_literalAt (hv : c.Valid) (h : LiteralAt allowed c q w) :
    c.read (.quoted allowed) =
      .ok (some ⟨String.ofList w, c.position, (Cursor.advanceBy w.length c).position⟩,
        Cursor.advanceBy w.length c) := by
  obtain ⟨bs, hc⟩ := h.head
  exact Cursor.read_eq_some hv hc.symm (extent?_quoted_eq_some_iff.2 ⟨q, w, h, rfl⟩)

/-- Without a literal under the cursor nothing is read. -/
theorem read_of_not_literalAt (h : ¬ ∃ q w, LiteralAt allowed c q w) :
    c.read (.quoted allowed) = .ok (none, c) := by
  refine Cursor.read_eq_none (Option.eq_none_iff_forall_ne_some.2 fun n hn => h ?_)
  obtain ⟨q, w, hw, -⟩ := extent?_quoted_eq_some_iff.1 hn
  exact ⟨q, w, hw⟩

/-- Where the quote under the cursor is `q`, allowing either quote is allowing `q`. -/
theorem literalAt_none_iff (hq : c.current = some q.char) {q' : Quote} :
    LiteralAt none c q' w ↔ LiteralAt (some q) c q' w := by
  constructor
  · rintro ⟨hc, -, hw, hp⟩
    have hchar : q.char = q'.char := Option.some.inj (hq.symm.trans hc)
    exact ⟨hc, .inr (by rw [Quote.eq_of_char_eq hchar]), hw, hp⟩
  · rintro ⟨hc, -, hw, hp⟩
    exact ⟨hc, .inl rfl, hw, hp⟩

theorem read_quoted_exact {text : String} (h : Reachable text c) (allowed : Option Quote) :
    ((∃ token later, c.read (.quoted allowed) = .ok (some token, later)) ↔
      ∃ q w, LiteralAt allowed c q w) ∧
    (∀ q w, LiteralAt allowed c q w →
      (∀ q' w', IsLiteral q' w' → w' <+: c.rest → w' = w) ∧
      ∃ token later, c.read (.quoted allowed) = .ok (some token, later) ∧
        token.text = String.ofList w ∧ token.start = c.position ∧ token.stop = later.position ∧
        c.rest = w ++ later.rest ∧ later.offset = c.offset + Utf8.length w ∧
        later = Cursor.advanceBy w.length c) ∧
    ((¬ ∃ q w, LiteralAt allowed c q w) → c.read (.quoted allowed) = .ok (none, c)) ∧
    (∀ q : Quote, c.current = some q.char →
      c.read (.quoted none) = c.read (.quoted (some q))) ∧
    ∀ s : Session, s.cursor = c → ∀ found later, c.read (.quoted allowed) = .ok (found, later) →
      (s.operate (.read (.quoted allowed)) = .error .countersExhausted ∧ ¬ c.HasRoom) ∨
        s.operate (.read (.quoted allowed)) = .ok (.token found, { s with cursor := later }) := by
  refine ⟨⟨?_, ?_⟩, ?_, read_of_not_literalAt, ?_, ?_⟩
  · rintro ⟨token, later, hread⟩
    refine Classical.byContradiction fun hno => ?_
    rw [read_of_not_literalAt hno] at hread
    cases hread
  · rintro ⟨q, w, hw⟩
    exact ⟨_, _, read_of_literalAt h.valid hw⟩
  · intro q w hw
    obtain ⟨bs, hc⟩ := hw.head
    refine ⟨?_, _, _, read_of_literalAt h.valid hw, rfl, rfl, rfl, ?_, ?_, rfl⟩
    · rintro q' w' hw' ⟨bs', hc'⟩
      exact hw'.eq_of_append_eq hw.literal (hc'.trans hc.symm)
    · rw [Cursor.rest_advanceBy hc.symm, hc]
    · exact Cursor.offset_advanceBy hc.symm
  · intro q hq
    by_cases hlit : ∃ q' w, LiteralAt none c q' w
    · obtain ⟨q', w, hw⟩ := hlit
      rw [read_of_literalAt h.valid hw, read_of_literalAt h.valid ((literalAt_none_iff hq).1 hw)]
    · have hlit' : ¬ ∃ q' w, LiteralAt (some q) c q' w := by
        rintro ⟨q', w, hw⟩
        exact hlit ⟨q', w, (literalAt_none_iff hq).2 hw⟩
      rw [read_of_not_literalAt hlit, read_of_not_literalAt hlit']
  · rintro s rfl found later hread
    exact Session.operate_read hread

/-- An escaped quote does not close the literal that opens under the cursor. -/
theorem read_quoted_exact_escaped_quote :
    Reachable "x'\\'y'z" (Cursor.advanceBy 1 (.start "x'\\'y'z")) ∧
      ∃ token later,
        (Cursor.advanceBy 1 (.start "x'\\'y'z")).read (.quoted none) = .ok (some token, later) ∧
          token.text = "'\\'y'" ∧ later.rest = ['z'] := by
  have hrun : (Operation.advance 1).run (.start "x'\\'y'z") =
      .ok (.done, Cursor.advanceBy 1 (.start "x'\\'y'z")) := rfl
  have hreach := Reachable.run .start hrun
  have hitems : Items .single (['\\', '\''] ++ (['y'] ++ [])) :=
    .cons (.escape (.short (by decide))) (.cons (.plain (by decide) (by decide)) .nil)
  have hlit : LiteralAt none (Cursor.advanceBy 1 (.start "x'\\'y'z")) .single
      ['\'', '\\', '\'', 'y', '\''] :=
    .of_append (.inl rfl) ⟨_, hitems, rfl⟩ (show _ = _ ++ ['z'] by decide)
  obtain ⟨-, token, later, hread, htext, -, -, hrest, -⟩ :=
    (read_quoted_exact hreach none).2.1 _ _ hlit
  refine ⟨hreach, token, later, hread, htext, ?_⟩
  exact (List.append_cancel_left (hrest.symm.trans (show _ = _ ++ ['z'] by decide)))

end LexSpan
