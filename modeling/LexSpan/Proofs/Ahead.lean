import LexSpan.Proofs.Motion

/-!
# Cursors further on

`c.Ahead d` says that `d` is the cursor `c` some characters further on. It composes
(`Ahead.trans`), stays in the text (`Ahead.text_eq`) and never leads back (`Ahead.offset_le`,
`Ahead.length_rest_le`). Whatever a step keeps, it keeps (`Ahead.keeps`).
-/

namespace LexSpan.Cursor

/-- A cursor is another one, some characters further on. -/
def Ahead (c d : Cursor) : Prop := ∃ n, d = advanceBy n c

variable {c d e : Cursor}

theorem Ahead.refl (c : Cursor) : c.Ahead c := ⟨0, rfl⟩

theorem Ahead.advanceBy (n : Nat) (c : Cursor) : c.Ahead (advanceBy n c) := ⟨n, rfl⟩

theorem Ahead.advance (c : Cursor) : c.Ahead c.advance := ⟨1, rfl⟩

theorem Ahead.trans (h : c.Ahead d) (h' : d.Ahead e) : c.Ahead e := by
  obtain ⟨m, rfl⟩ := h
  obtain ⟨n, rfl⟩ := h'
  exact ⟨m + n, (advanceBy_add m n c).symm⟩

theorem Ahead.walkTo (target : Nat) (c : Cursor) : c.Ahead (c.walkTo target) := by
  fun_induction Cursor.walkTo target c with
  | case1 c _ ih => exact (Ahead.advance c).trans ih
  | case2 c _ => exact .refl c

theorem Ahead.of_advanceTo {target : Nat} (h : c.advanceTo target = .ok d) : c.Ahead d := by
  unfold advanceTo at h
  split at h
  · cases h
  · split at h
    · cases h
      exact .walkTo target c
    · cases h

theorem Ahead.text_eq (h : c.Ahead d) : d.text = c.text := by
  obtain ⟨n, rfl⟩ := h
  exact text_advanceBy n c

/-- What every step keeps holds further on. -/
theorem Ahead.keeps {P : Cursor → Prop} (h : c.Ahead d) (hstep : ∀ e, P e → P e.advance)
    (hc : P c) : P d := by
  obtain ⟨n, rfl⟩ := h
  induction n generalizing c with
  | zero => exact hc
  | succ n ih => exact ih (hstep c hc)

theorem Ahead.valid (h : c.Ahead d) (hv : c.Valid) : d.Valid := h.keeps (fun _ => Valid.advance) hv

theorem advance_of_atEnd (h : c.rest = []) : c.advance = c := by
  simp only [Cursor.advance, h]

/-- No more characters are passed than there are. -/
theorem advanceBy_length_take (n : Nat) (c : Cursor) :
    advanceBy (c.rest.take n).length c = advanceBy n c := by
  induction n generalizing c with
  | zero => rfl
  | succ n ih =>
    rcases hc : c.rest with _ | ⟨ch, cs⟩
    · rw [advanceBy, advance_of_atEnd hc, ← ih, hc, List.take_nil, List.take_nil]
    · rw [List.take_succ_cons, List.length_cons, advanceBy, advanceBy, ← ih, advance_of_rest hc]

/-- What a cursor further on has passed. -/
theorem Ahead.exists_append (h : c.Ahead d) :
    ∃ as, c.rest = as ++ d.rest ∧ d = Cursor.advanceBy as.length c := by
  obtain ⟨n, rfl⟩ := h
  have hc : c.rest = c.rest.take n ++ c.rest.drop n := (List.take_append_drop n _).symm
  refine ⟨c.rest.take n, ?_, (advanceBy_length_take n c).symm⟩
  rw [← advanceBy_length_take, rest_advanceBy hc]
  exact hc

theorem offset_le_advance (c : Cursor) : c.offset ≤ c.advance.offset := by
  rcases hc : c.rest with _ | ⟨ch, cs⟩
  · exact Nat.le_of_eq (congrArg offset (advance_of_atEnd hc).symm)
  · rw [advance_of_rest hc]
    show c.offset ≤ (c.position.step ch cs.head?).offset
    rw [Position.offset_step]
    exact Nat.le_add_right _ _

theorem Ahead.offset_le (h : c.Ahead d) : c.offset ≤ d.offset :=
  h.keeps (fun e hle => Nat.le_trans hle (offset_le_advance e)) (Nat.le_refl _)

theorem Ahead.length_rest_le (h : c.Ahead d) : d.rest.length ≤ c.rest.length :=
  h.keeps (fun e hle => Nat.le_trans (length_rest_advance_le e) hle) (Nat.le_refl _)

end LexSpan.Cursor
