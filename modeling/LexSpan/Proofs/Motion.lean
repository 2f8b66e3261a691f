import LexSpan.Reading

/-!
# Where a cursor goes

A valid cursor whose rest is `as ++ bs` passes `as` character by character (`advanceBy as.length`)
and then stands in front of `bs` (`rest_advanceBy`), as many bytes further on as `as` has
(`offset_advanceBy`). A move to that offset comes to the same (`advanceTo_append`), and so does a
read of a shape that takes `as` (`read_eq_some`).
-/

namespace LexSpan.Cursor

variable {c : Cursor} {as bs : List Char}

theorem advance_of_rest {ch : Char} (h : c.rest = ch :: bs) :
    c.advance = { c with rest := bs, position := c.position.step ch bs.head? } := by
  simp only [advance, h]

theorem advanceBy_add (m n : Nat) (c : Cursor) :
    advanceBy (m + n) c = advanceBy n (advanceBy m c) := by
  induction m generalizing c with
  | zero => rw [Nat.zero_add, advanceBy]
  | succ m ih => rw [Nat.succ_add, advanceBy, advanceBy, ih]

theorem Valid.advanceBy (hv : c.Valid) (n : Nat) : (advanceBy n c).Valid := by
  induction n generalizing c with
  | zero => exact hv
  | succ n ih => exact ih hv.advance

theorem rest_advanceBy (h : c.rest = as ++ bs) : (advanceBy as.length c).rest = bs := by
  induction as generalizing c with
  | nil => exact h
  | cons a as ih => exact ih (by rw [advance_of_rest (show c.rest = a :: (as ++ bs) from h)])

theorem offset_advanceBy (h : c.rest = as ++ bs) :
    (advanceBy as.length c).offset = c.offset + Utf8.length as := by
  induction as generalizing c with
  | nil => rfl
  | cons a as ih =>
    have ha := advance_of_rest (show c.rest = a :: (as ++ bs) from h)
    rw [List.length_cons, advanceBy, ih (by rw [ha]), ha, Utf8.length_cons, ← Nat.add_assoc]
    exact congrArg (· + _) (Position.offset_step _ _ _)

/-- Walking to where `as` ends passes `as`: no step goes past that offset, as each is as long as
its character. -/
theorem walkTo_append (h : c.rest = as ++ bs) :
    c.walkTo (c.offset + Utf8.length as) = advanceBy as.length c := by
  induction as generalizing c with
  | nil => rw [walkTo, if_neg (by simp)]; rfl
  | cons a as ih =>
    have ha := advance_of_rest (show c.rest = a :: (as ++ bs) from h)
    have hoffset : c.advance.offset = c.offset + a.utf8Size := by
      rw [ha]; exact Position.offset_step _ _ _
    have hpos := a.utf8Size_pos
    rw [walkTo, if_pos ⟨by rw [Utf8.length_cons]; omega, by simp [atEnd, h]⟩, List.length_cons,
      advanceBy, ← ih (by rw [ha]), hoffset, Utf8.length_cons, Nat.add_assoc]

/-- What is in front of a valid cursor takes up the rest of the text. -/
theorem Valid.utf8ByteSize_eq (hv : c.Valid) :
    c.text.utf8ByteSize = c.offset + Utf8.length c.rest := by
  obtain ⟨passed, htext, hoffset⟩ := hv
  rw [Utf8.utf8ByteSize_eq, htext, Utf8.length_append, hoffset]

theorem Valid.drop_offset (hv : c.Valid) : Utf8.drop c.offset c.text.toList = c.rest := by
  obtain ⟨passed, htext, hoffset⟩ := hv
  rw [htext, hoffset, Utf8.drop_length_append]

/-- A valid cursor and the bytes in front of it stay within the text. -/
theorem Valid.add_length_le (hv : c.Valid) (h : c.rest = as ++ bs) :
    c.offset + Utf8.length as ≤ c.text.utf8ByteSize := by
  obtain ⟨passed, htext, hoffset⟩ := hv
  rw [Utf8.utf8ByteSize_eq, htext, h, hoffset]
  simp only [Utf8.length_append]
  omega

theorem advanceTo_append (hv : c.Valid) (h : c.rest = as ++ bs) :
    c.advanceTo (c.offset + Utf8.length as) = .ok (advanceBy as.length c) := by
  have hle := hv.add_length_le h
  have hb : Utf8.isBoundary (c.offset + Utf8.length as - c.offset) c.rest = true :=
    Utf8.isBoundary_iff.2 ⟨as, bs, h, by omega⟩
  rw [advanceTo, if_neg (by omega), if_pos hb, walkTo_append h]

theorem tokenTo_advanceBy (h : c.rest = as ++ bs) :
    c.tokenTo (advanceBy as.length c) =
      ⟨String.ofList as, c.position, (advanceBy as.length c).position⟩ := by
  rw [tokenTo, offset_advanceBy h, Nat.add_sub_cancel_left, h, Utf8.take_length_append]

theorem read_eq_some (hv : c.Valid) (h : c.rest = as ++ bs) {shape : Shape}
    (he : shape.extent? c.rest = some (Utf8.length as)) :
    c.read shape = .ok (some ⟨String.ofList as, c.position, (advanceBy as.length c).position⟩,
      advanceBy as.length c) := by
  rw [read, he]
  simp only [advanceTo_append hv h, tokenTo_advanceBy h]

theorem read_eq_none {shape : Shape} (he : shape.extent? c.rest = none) :
    c.read shape = .ok (none, c) := by
  rw [read, he]

end LexSpan.Cursor
