import LexSpan.Proofs.IgnoringCase
import LexSpan.Proofs.Motion
import LexSpan.Proofs.StringLiteral

/-!
# The two outcomes of a read

Whatever its shape, a read takes some characters from the head of what is left, or none. Main
statement (`read_cases`): at a valid cursor it either reads nothing and stays, or takes a text `as`
that is not empty and leaves the cursor behind it, where passing `as` character by character leads.
No shape measures a text that ends inside a character (`Shape.exists_of_extent?`), so a read is
never refused. Skips come to the same (`skip_cases`).
-/

namespace LexSpan

namespace Shape

theorem exists_of_fractionExtent (cs : List Char) :
    ∃ as bs, cs = as ++ bs ∧ fractionExtent cs = Utf8.length as := by
  rcases cs with _ | ⟨c, cs⟩
  · exact ⟨[], [], rfl, rfl⟩
  · by_cases h : c = '.' ∧ cs.takeWhile isDecimalDigit ≠ []
    · refine ⟨c :: cs.takeWhile isDecimalDigit, cs.dropWhile isDecimalDigit, ?_, if_pos h⟩
      rw [List.cons_append, List.takeWhile_append_dropWhile]
    · exact ⟨[], c :: cs, rfl, if_neg h⟩

/-- What a shape measures is a text at the head. -/
theorem exists_of_extent? {shape : Shape} {cs : List Char} {n : Nat}
    (h : shape.extent? cs = some n) : ∃ as bs, cs = as ++ bs ∧ n = Utf8.length as := by
  cases shape with
  | run p =>
    simp only [extent?, Option.ite_none_left_eq_some, Option.some.injEq] at h
    exact ⟨_, _, List.takeWhile_append_dropWhile.symm, h.2.symm⟩
  | oneThenRun first others =>
    rcases cs with _ | ⟨c, cs⟩
    · cases h
    · simp only [extent?, Option.ite_none_right_eq_some, Option.some.injEq] at h
      refine ⟨c :: cs.takeWhile others, cs.dropWhile others, ?_, h.2.symm⟩
      rw [List.cons_append, List.takeWhile_append_dropWhile]
  | decimal =>
    simp only [extent?, Option.ite_none_left_eq_some, Option.some.injEq] at h
    obtain ⟨as, bs, has, hfraction⟩ := exists_of_fractionExtent (cs.dropWhile isDecimalDigit)
    refine ⟨cs.takeWhile isDecimalDigit ++ as, bs, ?_, ?_⟩
    · rw [List.append_assoc, ← has, List.takeWhile_append_dropWhile]
    · rw [← h.2, hfraction, Utf8.length_append]
  | char c =>
    simp only [extent?, Option.ite_none_right_eq_some, Option.some.injEq] at h
    obtain ⟨bs, rfl⟩ := List.head?_eq_some_iff.1 h.1
    exact ⟨[c], bs, rfl, h.2.symm⟩
  | literal text =>
    simp only [extent?, Option.ite_none_right_eq_some, Option.some.injEq] at h
    obtain ⟨bs, hbs⟩ := List.isPrefixOf_iff_prefix.1 h.1.2
    exact ⟨text.toList, bs, hbs.symm, by rw [← h.2, Utf8.utf8ByteSize_eq]⟩
  | literalIgnoringCase text =>
    simp only [extent?, Option.ite_none_right_eq_some, Option.some.injEq] at h
    obtain ⟨as, bs, hcs, has⟩ := exists_of_startsWithIgnoringCase h.1.2
    exact ⟨as, bs, hcs, by
      rw [← h.2, Utf8.utf8ByteSize_eq, length_eq_of_map_loweredBytes_eq has]⟩
  | quoted allowed =>
    have hextent : Quoted.extent allowed cs = .ok n := by
      rw [extent?] at h
      cases he : Quoted.extent allowed cs with
      | error => rw [he] at h; cases h
      | ok m => rw [he] at h; exact congrArg _ (Option.some.inj h)
    obtain ⟨-, w, bs, -, -, hcs, hn⟩ := Quoted.extent_eq_ok_iff.1 hextent
    exact ⟨w, bs, hcs, hn⟩

end Shape

namespace Cursor

variable {c : Cursor} {as bs : List Char}

/-- A read of a shape that takes `as`, with its token as what lies between two cursors. -/
theorem read_eq_tokenTo (hv : c.Valid) {shape : Shape} (h : c.rest = as ++ bs)
    (he : shape.extent? c.rest = some (Utf8.length as)) : c.read shape =
      .ok (some (c.tokenTo (advanceBy as.length c)), advanceBy as.length c) := by
  rw [read_eq_some hv h he, tokenTo_advanceBy h]

theorem read_cases (hv : c.Valid) (shape : Shape) :
    c.read shape = .ok (none, c) ∨
      ∃ as bs, as ≠ [] ∧ c.rest = as ++ bs ∧ c.read shape =
        .ok (some (c.tokenTo (advanceBy as.length c)), advanceBy as.length c) := by
  rcases he : shape.extent? c.rest with _ | n
  · exact .inl (read_eq_none he)
  · obtain ⟨as, bs, hc, rfl⟩ := Shape.exists_of_extent? he
    refine .inr ⟨as, bs, ?_, hc, read_eq_tokenTo hv hc he⟩
    rintro rfl
    exact absurd (Shape.pos_of_extent? he) (Nat.lt_irrefl 0)

theorem skip_cases (hv : c.Valid) (p : Char → Bool) :
    c.skip p = .ok (false, c) ∨
      ∃ as bs, as ≠ [] ∧ c.rest = as ++ bs ∧ c.skip p = .ok (true, advanceBy as.length c) := by
  rcases read_cases hv (.run p) with hread | ⟨as, bs, hne, hc, hread⟩
  · exact .inl (by rw [skip, hread]; rfl)
  · exact .inr ⟨as, bs, hne, hc, by rw [skip, hread]; rfl⟩

/-- Cutting out what lies under a cursor. -/
theorem slice_append (hv : c.Valid) (h : c.rest = as ++ bs) :
    c.slice c.offset (c.offset + Utf8.length as) = .ok (String.ofList as) := by
  obtain ⟨passed, htext, hoffset⟩ := hv
  have hstart : Utf8.isBoundary c.offset c.text.toList = true :=
    Utf8.isBoundary_iff.2 ⟨passed, c.rest, htext, hoffset.symm⟩
  have hstop : Utf8.isBoundary (c.offset + Utf8.length as) c.text.toList = true :=
    Utf8.isBoundary_iff.2 ⟨passed ++ as, bs, by rw [htext, h, List.append_assoc],
      by rw [Utf8.length_append, hoffset]⟩
  rw [slice, if_neg (by omega), if_pos ⟨hstart, hstop⟩, Nat.add_sub_cancel_left, htext, hoffset,
    Utf8.drop_length_append, h, Utf8.take_length_append]

end Cursor

end LexSpan
