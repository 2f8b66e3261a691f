import LexSpan.Proofs.Ahead
import LexSpan.Proofs.StringLiteral

/-!
# Walking through a quoted string

A cursor can find a quoted string by moving through it: `walkBody` passes the body character by
character, checks every escape on the way (`passEscape`), and stops behind the closing quote or where
it has to give up. `walkQuoted` walks from the opening quote and goes back there if there is no
string.

Main statements: the walk follows the grammar of literals. It passes the items of a body
(`walkBody_items`), and then comes upon the closing quote (`walkBody_close`), the end of the text
(`walkBody_atEnd`) or a bad escape (`walkBody_badEscape`).
-/

namespace LexSpan

open Quoted

/-- Why no quoted string is found at a cursor. -/
inductive QuoteFailure where
  /-- No allowed quote stands there. -/
  | noOpeningQuote
  /-- The quote never closes. -/
  | unterminated
  /-- The backslash at this position starts no escape. -/
  | invalidEscape (position : Position)
deriving DecidableEq

namespace Cursor

/-- Passes `n` hexadecimal digits, and says whether there were so many. -/
def passHexDigits : Nat → Cursor → Bool × Cursor
  | 0, c => (true, c)
  | n + 1, c => if c.current.any isHexDigit = true then passHexDigits n c.advance else (false, c)

/-- Passes what follows the backslash of an escape, and says whether it is a legal one. -/
def passEscape (c : Cursor) : Bool × Cursor :=
  match c.current.bind hexDigits? with
  | none => (false, c)
  | some n => passHexDigits n c.advance

variable {c d : Cursor} {q : Quote}

theorem ahead_passHexDigits (n : Nat) (c : Cursor) : c.Ahead (passHexDigits n c).2 := by
  induction n generalizing c with
  | zero => exact .refl c
  | succ n ih =>
    rw [passHexDigits]
    split
    · exact (Ahead.advance c).trans (ih c.advance)
    · exact .refl c

theorem ahead_passEscape (c : Cursor) : c.Ahead c.passEscape.2 := by
  unfold passEscape
  split
  · exact .refl c
  · exact (Ahead.advance c).trans (ahead_passHexDigits _ _)

/-- Passes the body of a string, and its closing quote if it has one. -/
def walkBody (quote : Quote) (c : Cursor) : Except QuoteFailure Unit × Cursor :=
  if c.atEnd = true then (.error .unterminated, c)
  else if c.matchesChar quote.char = true then (.ok (), c.advance)
  else if c.matchesChar '\\' = true then
    let escape := c.advance.passEscape
    if escape.1 = true then walkBody quote escape.2
    else (.error (.invalidEscape c.position), escape.2)
  else walkBody quote c.advance
termination_by c.rest.length
decreasing_by
  · rename_i hend _ _ _
    have := (ahead_passEscape c.advance).length_rest_le
    have := length_rest_advance c (Bool.eq_false_iff.2 hend)
    omega
  · rename_i hend _ _
    exact length_rest_advance c (Bool.eq_false_iff.2 hend)

/-- Reads the quoted string under a cursor by walking through it, and goes back to the opening quote
if there is none. -/
def walkQuoted (quote : Quote) (c : Cursor) : Except Fault (Except QuoteFailure Token × Cursor) :=
  match walkBody quote c.advance with
  | (.ok (), later) => .ok (.ok (c.tokenTo later), later)
  | (.error failure, later) => (later.reset c.position).map fun back => (.error failure, back)

/-! ## Escapes -/

theorem passHexDigits_fst {n : Nat} : (passHexDigits n c).1 = true ↔
    (c.rest.take n).length = n ∧ (c.rest.take n).all isHexDigit = true := by
  induction n generalizing c with
  | zero => simp [passHexDigits]
  | succ n ih =>
    rw [passHexDigits]
    rcases hc : c.rest with _ | ⟨ch, cs⟩
    · simp [current, hc]
    · have hcs : c.advance.rest = cs := by rw [advance_of_rest hc]
      by_cases hch : isHexDigit ch = true
      · rw [if_pos (by simpa [current, hc] using hch), ih, hcs]
        simp [hch]
      · rw [if_neg (by simpa [current, hc] using hch)]
        simp [hch]

theorem passHexDigits_snd {n : Nat} (h : (passHexDigits n c).1 = true) :
    (passHexDigits n c).2 = advanceBy n c := by
  induction n generalizing c with
  | zero => rfl
  | succ n ih =>
    rw [passHexDigits] at h ⊢
    split at h
    · next hch => rw [if_pos hch, ih h, advanceBy]
    · cases h

/-- An escape is passed exactly if one is measured, and to its end. -/
theorem passEscape_of_some {n : Nat} (h : escapeLength? c.rest = some n) :
    c.passEscape = (true, advanceBy n c) := by
  rcases hc : c.rest with _ | ⟨ch, cs⟩
  · rw [hc] at h
    cases h
  · have hcs : c.advance.rest = cs := by rw [advance_of_rest hc]
    rw [hc] at h
    simp only [escapeLength?] at h
    split at h
    · cases h
    · next m hm =>
      simp only [Option.ite_none_right_eq_some, Option.some.injEq] at h
      obtain ⟨hdigits, rfl⟩ := h
      have hpass : (passHexDigits m c.advance).1 = true := by rwa [passHexDigits_fst, hcs]
      have hbind : c.current.bind hexDigits? = some m := by
        rw [current, hc]
        exact hm
      simp only [passEscape, hbind]
      exact Prod.ext hpass (passHexDigits_snd hpass)

theorem passEscape_of_none (h : escapeLength? c.rest = none) : c.passEscape.1 = false := by
  refine Bool.eq_false_iff.2 fun hpass => ?_
  unfold passEscape at hpass
  split at hpass
  · cases hpass
  · next n hn =>
    obtain ⟨ch, hch, hdigits⟩ := Option.bind_eq_some_iff.1 hn
    obtain ⟨cs, hc⟩ := List.head?_eq_some_iff.1 hch
    have hcs : c.advance.rest = cs := by rw [advance_of_rest hc]
    rw [passHexDigits_fst, hcs] at hpass
    rw [hc] at h
    simp only [escapeLength?, hdigits, if_pos hpass] at h
    cases h

/-! ## The body -/

theorem matchesChar_of_rest {ch : Char} {cs : List Char} (hc : c.rest = ch :: cs) (ch' : Char) :
    c.matchesChar ch' = true ↔ ch = ch' := by
  rw [matchesChar, current, hc, List.head?_cons, beq_iff_eq, Option.some.injEq]

theorem walkBody_item {item bs : List Char} (h : Item q item) (hc : c.rest = item ++ bs) :
    walkBody q c = walkBody q (advanceBy item.length c) := by
  cases h with
  | @plain ch hq hb =>
    have hch := matchesChar_of_rest (show c.rest = ch :: bs from hc)
    rw [walkBody, if_neg (by simp [atEnd, hc]), if_neg (mt (hch _).1 hq), if_neg (mt (hch _).1 hb)]
    rfl
  | escape h =>
    obtain ⟨w, rfl⟩ : ∃ w, item = '\\' :: w := by cases h <;> exact ⟨_, rfl⟩
    have hch := matchesChar_of_rest (show c.rest = '\\' :: (w ++ bs) from hc)
    have hlength : escapeLength? c.advance.rest = some w.length := by
      rw [advance_of_rest (show c.rest = '\\' :: (w ++ bs) from hc)]
      exact escapeLength?_append h bs
    rw [walkBody, if_neg (by simp [atEnd, hc]), if_neg (mt (hch _).1 (Ne.symm q.char_ne_backslash)),
      if_pos ((hch _).2 rfl), passEscape_of_some hlength, if_pos rfl]
    rfl

theorem walkBody_items {items bs : List Char} (h : Items q items) (hc : c.rest = items ++ bs) :
    walkBody q c = walkBody q (advanceBy items.length c) := by
  induction h generalizing c with
  | nil => rfl
  | cons h _ ih =>
    rw [List.append_assoc] at hc
    rw [walkBody_item h hc, ih (rest_advanceBy hc), List.length_append, advanceBy_add]

theorem walkBody_atEnd (hc : c.rest = []) : walkBody q c = (.error .unterminated, c) := by
  rw [walkBody, if_pos (by simp [atEnd, hc])]

theorem walkBody_close {bs : List Char} (hc : c.rest = q.char :: bs) :
    walkBody q c = (.ok (), c.advance) := by
  rw [walkBody, if_neg (by simp [atEnd, hc]), if_pos ((matchesChar_of_rest hc _).2 rfl)]

theorem walkBody_badEscape (h : BadEscape c.rest) :
    ∃ later, walkBody q c = (.error (.invalidEscape c.position), later) ∧ c.Ahead later := by
  obtain ⟨cs, hc⟩ := List.head?_eq_some_iff.1 h.1
  have hch := matchesChar_of_rest hc
  have hnone : escapeLength? c.advance.rest = none := by
    rw [advance_of_rest hc]
    exact BadEscape.escapeLength?_eq_none (hc ▸ h)
  refine ⟨c.advance.passEscape.2, ?_, (Ahead.advance c).trans (ahead_passEscape c.advance)⟩
  rw [walkBody, if_neg (by simp [atEnd, hc]), if_neg (mt (hch _).1 (Ne.symm q.char_ne_backslash)),
    if_pos ((hch _).2 rfl)]
  simp only [passEscape_of_none hnone]
  exact if_neg Bool.false_ne_true

end Cursor

end LexSpan
