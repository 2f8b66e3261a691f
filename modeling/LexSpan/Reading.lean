import LexSpan.Cursor
import LexSpan.Shape

/-!
# Reading tokens at a cursor

`Cursor.read` reads one token of a given shape, or reads nothing and leaves the cursor where it is.
`Cursor.skip` passes over characters. Main statement: a token read brings the cursor forward
(`length_rest_of_read`).
-/

namespace LexSpan

namespace Cursor

/-- Reads a token of the given shape. The cursor moves to its end, or stays if there is none. -/
def read (shape : Shape) (c : Cursor) : Except Fault (Option Token × Cursor) :=
  match shape.extent? c.rest with
  | none => .ok (none, c)
  | some n =>
    match c.advanceTo (c.offset + n) with
    | .error fault => .error fault
    | .ok later => .ok (some (c.tokenTo later), later)

/-- Passes the longest run of characters that satisfy `p`, and says whether there were any. -/
def skip (p : Char → Bool) (c : Cursor) : Except Fault (Bool × Cursor) :=
  match c.read (.run p) with
  | .error fault => .error fault
  | .ok (token, later) => .ok (token.isSome, later)

theorem text_of_read {c : Cursor} {shape : Shape} {result : Option Token × Cursor}
    (h : c.read shape = .ok result) : result.2.text = c.text := by
  unfold read at h
  split at h
  · simp only [Except.ok.injEq] at h
    exact h ▸ rfl
  · split at h
    · simp at h
    · rename_i later hl
      simp only [Except.ok.injEq] at h
      exact h ▸ text_of_advanceTo hl

theorem text_of_skip {c : Cursor} {p : Char → Bool} {result : Bool × Cursor}
    (h : c.skip p = .ok result) : result.2.text = c.text := by
  unfold skip at h
  split at h
  · simp at h
  · rename_i hr
    simp only [Except.ok.injEq] at h
    exact h ▸ text_of_read hr

theorem length_rest_advance_le (c : Cursor) : c.advance.rest.length ≤ c.rest.length := by
  cases h : c.atEnd with
  | true => rcases c with ⟨text, _ | ⟨ch, cs⟩, position⟩ <;> simp_all [atEnd, advance]
  | false => exact Nat.le_of_lt (length_rest_advance c h)

theorem length_rest_walkTo_le (c : Cursor) (target : Nat) :
    (c.walkTo target).rest.length ≤ c.rest.length := by
  fun_induction walkTo target c with
  | case1 c _ ih => exact Nat.le_trans ih (length_rest_advance_le c)
  | case2 c _ => exact Nat.le_refl _

/-- A move to an offset ahead passes at least one character. -/
theorem length_rest_of_advanceTo {c later : Cursor} {target : Nat} (ht : c.offset < target)
    (h : c.advanceTo target = .ok later) : later.rest.length < c.rest.length := by
  unfold advanceTo at h
  split at h
  · simp at h
  · split at h
    · rename_i hb
      simp only [Except.ok.injEq] at h
      subst h
      have hne : c.atEnd = false := by
        obtain ⟨as, bs, hcs, hlen⟩ := Utf8.isBoundary_iff.1 hb
        cases hr : c.rest with
        | nil =>
          rw [hr] at hcs
          have : as = [] := (List.nil_eq_append_iff.1 hcs).1
          subst this
          simp at hlen
          omega
        | cons => simp [atEnd, hr]
      rw [walkTo, if_pos ⟨ht, hne⟩]
      exact Nat.lt_of_le_of_lt (length_rest_walkTo_le _ _) (length_rest_advance c hne)
    · simp at h

/-- A token that was read brings the cursor forward. -/
theorem length_rest_of_read {c later : Cursor} {shape : Shape} {token : Token}
    (h : c.read shape = .ok (some token, later)) : later.rest.length < c.rest.length := by
  unfold read at h
  split at h
  · simp at h
  · rename_i n hn
    split at h
    · simp at h
    · rename_i later' hl
      simp only [Except.ok.injEq, Prod.mk.injEq, Option.some.injEq] at h
      obtain ⟨-, rfl⟩ := h
      exact length_rest_of_advanceTo (by have := Shape.pos_of_extent? hn; omega) hl

end Cursor

end LexSpan
