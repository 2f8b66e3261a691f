import LexSpan.Proofs.QuotedScan
import LexSpan.Proofs.ReadOutcome

/-!
# Reads that move as they look

A read can also be carried out by a cursor that moves on as long as the characters fit
(`passWhile`), and goes back where that led to nothing: `readStepwise`. Two shapes go back after they
have moved. A number moves over the point behind its digits to see whether a digit follows, and a
quoted string is walked through up to its defect.

Main statement (`readStepwise_eq_read`): wherever such a read has been, it finds what the read of the
shape's extent finds, and leaves the same cursor.
-/

namespace LexSpan.Cursor

/-- Passes the longest run of characters that satisfy `p`. -/
def passWhile (p : Char → Bool) (c : Cursor) : Cursor :=
  if c.current.any p = true then passWhile p c.advance else c
termination_by c.rest.length
decreasing_by
  rename_i h
  refine length_rest_advance c ?_
  cases hc : c.rest with
  | nil => simp [current, hc] at h
  | cons => simp [atEnd, hc]

/-- Passes a run of characters, and says whether the offset has grown. -/
def skipStepwise (p : Char → Bool) (c : Cursor) : Bool × Cursor :=
  let later := c.passWhile p
  (decide (c.offset < later.offset), later)

/-- Moves on over a literal that is known to be there. -/
def takeBytes (n : Nat) (c : Cursor) : Except Fault (Option Token × Cursor) :=
  (c.advanceTo (c.offset + n)).map fun later => (some (c.tokenTo later), later)

/-- Passes the fraction behind the digits of a number, if there is one. The point is passed to look
behind it, and given back where no digit follows. -/
def passFraction (c : Cursor) : Except Fault Cursor :=
  if c.matchesChar '.' then
    let (found, later) := c.advance.skipStepwise isDecimalDigit
    if found then .ok later else later.reset c.position
  else .ok c

/-- Reads digits, and the fraction behind them. -/
def readNumber (c : Cursor) : Except Fault (Option Token × Cursor) :=
  let (found, whole) := c.skipStepwise isDecimalDigit
  if found then whole.passFraction.map fun later => (some (c.tokenTo later), later)
  else .ok (none, whole)

/-- Reads a token of the given shape by moving on as long as it fits. -/
def readStepwise (c : Cursor) : Shape → Except Fault (Option Token × Cursor)
  | .run p =>
    let (found, later) := c.skipStepwise p
    .ok (if found then some (c.tokenTo later) else none, later)
  | .oneThenRun first others =>
    if c.current.any first = true then
      let later := c.advance.passWhile others
      .ok (some (c.tokenTo later), later)
    else .ok (none, c)
  | .decimal => c.readNumber
  | .char ch =>
    if c.matchesChar ch = true then .ok (some (c.tokenTo c.advance), c.advance) else .ok (none, c)
  | .literal text =>
    if text ≠ "" ∧ c.matchesText text = true then c.takeBytes text.utf8ByteSize else .ok (none, c)
  | .literalIgnoringCase text =>
    if text ≠ "" ∧ c.matchesTextIgnoringCase text = true then c.takeBytes text.utf8ByteSize
    else .ok (none, c)
  | .quoted allowed =>
    (c.scanQuoted allowed).map fun (found, later) => (found.toOption, later)

variable {c : Cursor} {p : Char → Bool}

theorem passWhile_eq (p : Char → Bool) (c : Cursor) :
    c.passWhile p = advanceBy (c.rest.takeWhile p).length c := by
  fun_induction passWhile p c with
  | case1 c h ih =>
    rcases hc : c.rest with _ | ⟨ch, cs⟩
    · simp [current, hc] at h
    · have hch : p ch = true := by simpa [current, hc] using h
      rw [ih, advance_of_rest hc, List.takeWhile_cons_of_pos hch]
      simp only [List.length_cons, advanceBy, advance_of_rest hc]
  | case2 c h =>
    rcases hc : c.rest with _ | ⟨ch, cs⟩
    · rfl
    · have hch : ¬ p ch = true := by simpa [current, hc] using h
      rw [List.takeWhile_cons_of_neg hch]
      rfl

/-- The offset grows exactly if some characters are passed. -/
theorem skipStepwise_eq (p : Char → Bool) (c : Cursor) : c.skipStepwise p =
    (decide (c.rest.takeWhile p ≠ []), advanceBy (c.rest.takeWhile p).length c) := by
  have hoffset := offset_advanceBy (c := c) (List.takeWhile_append_dropWhile (p := p)).symm
  rw [skipStepwise, passWhile_eq]
  refine Prod.ext (decide_eq_decide.2 ?_) rfl
  show c.offset < (advanceBy _ c).offset ↔ _
  rw [hoffset, ne_eq, ← Utf8.length_eq_zero]
  omega

/-! ## Each shape -/

/-- A literal of `n` bytes that is taken where it fits, and measured so by its shape. -/
theorem takeBytes_eq_read (hv : c.Valid) {shape : Shape} {fits : Prop} [Decidable fits] {n : Nat}
    (he : shape.extent? c.rest = if fits then some n else none) :
    (if fits then c.takeBytes n else .ok (none, c)) = c.read shape := by
  by_cases h : fits
  · rw [if_pos h] at he ⊢
    obtain ⟨as, bs, hc, rfl⟩ := Shape.exists_of_extent? he
    rw [takeBytes, advanceTo_append hv hc, read_eq_tokenTo hv hc he]
    rfl
  · rw [if_neg h] at he ⊢
    rw [read_eq_none he]

theorem readRun_eq_read (hv : c.Valid) (p : Char → Bool) :
    c.readStepwise (.run p) = c.read (.run p) := by
  rw [readStepwise, skipStepwise_eq]
  by_cases h : c.rest.takeWhile p = []
  · rw [read_eq_none (by simp only [Shape.extent?, if_pos h])]
    simp [h, advanceBy]
  · rw [read_eq_tokenTo hv (List.takeWhile_append_dropWhile (p := p)).symm
      (by simp only [Shape.extent?, if_neg h])]
    simp [h]

theorem readOneThenRun_eq_read (hv : c.Valid) (first others : Char → Bool) :
    c.readStepwise (.oneThenRun first others) = c.read (.oneThenRun first others) := by
  rw [readStepwise]
  rcases hc : c.rest with _ | ⟨ch, cs⟩
  · rw [if_neg (by simp [current, hc]), read_eq_none (by rw [hc]; rfl)]
  · by_cases hch : first ch = true
    · have hrest : c.rest = (ch :: cs.takeWhile others) ++ cs.dropWhile others := by
        rw [hc, List.cons_append, List.takeWhile_append_dropWhile]
      have hlater : c.advance.passWhile others =
          advanceBy (ch :: cs.takeWhile others).length c := by
        rw [passWhile_eq, advance_of_rest hc]
        simp only [List.length_cons, advanceBy, advance_of_rest hc]
      rw [if_pos (by simpa [current, hc] using hch), hlater,
        read_eq_tokenTo hv hrest (by rw [hc]; exact if_pos hch)]
    · rw [if_neg (by simpa [current, hc] using hch),
        read_eq_none (by rw [hc]; exact if_neg hch)]

theorem readChar_eq_read (hv : c.Valid) (ch : Char) :
    c.readStepwise (.char ch) = c.read (.char ch) := by
  rw [readStepwise]
  by_cases h : c.rest.head? = some ch
  · obtain ⟨cs, hc⟩ := List.head?_eq_some_iff.1 h
    have hextent : (Shape.char ch).extent? c.rest = some (Utf8.length [ch]) := by
      rw [Shape.extent?, if_pos h]
      rfl
    rw [if_pos (by simp [matchesChar, current, h]), read_eq_tokenTo hv hc hextent]
    rfl
  · rw [if_neg (by simpa [matchesChar, current] using h),
      read_eq_none (by rw [Shape.extent?, if_neg h])]

/-- The cursor passes what the fraction measures, and stays if that is nothing. -/
theorem passFraction_eq (hv : c.Valid) : ∃ as bs, c.rest = as ++ bs ∧
    Shape.fractionExtent c.rest = Utf8.length as ∧ c.passFraction = .ok (advanceBy as.length c) := by
  rcases hc : c.rest with _ | ⟨ch, cs⟩
  · exact ⟨[], [], rfl, rfl, by rw [passFraction, if_neg (by simp [matchesChar, current, hc])]; rfl⟩
  have hmatch := matchesChar_of_rest hc '.'
  by_cases hch : ch = '.'
  · subst hch
    have hpoint : c.advance.rest = cs := by rw [advance_of_rest hc]
    rw [passFraction, if_pos (hmatch.2 rfl), skipStepwise_eq, hpoint]
    by_cases hdigits : cs.takeWhile isDecimalDigit = []
    · have hback : c.advance.reset c.position = .ok c := hv.reset_position (text_advance c)
      refine ⟨[], '.' :: cs, rfl, if_neg fun h => h.2 hdigits, ?_⟩
      simpa [hdigits, advanceBy] using hback
    · refine ⟨'.' :: cs.takeWhile isDecimalDigit, cs.dropWhile isDecimalDigit, ?_,
        if_pos ⟨rfl, hdigits⟩, ?_⟩
      · rw [List.cons_append, List.takeWhile_append_dropWhile]
      · simp [hdigits, advanceBy]
  · refine ⟨[], ch :: cs, rfl, if_neg fun h => hch h.1, ?_⟩
    rw [passFraction, if_neg (mt hmatch.1 hch)]
    rfl

theorem readNumber_eq_read (hv : c.Valid) : c.readNumber = c.read .decimal := by
  generalize hdigits : c.rest.takeWhile isDecimalDigit = digits
  generalize hafter : c.rest.dropWhile isDecimalDigit = after
  have hrest : c.rest = digits ++ after := by
    rw [← hdigits, ← hafter, List.takeWhile_append_dropWhile]
  rw [readNumber, skipStepwise_eq, hdigits]
  by_cases hd : digits = []
  · rw [read_eq_none (by simp only [Shape.extent?, hdigits, if_pos hd])]
    simp [hd, advanceBy]
  · obtain ⟨as, bs, hwhole, hlength, hpass⟩ := passFraction_eq (hv.advanceBy digits.length)
    rw [rest_advanceBy hrest] at hwhole hlength
    have hnumber : c.rest = (digits ++ as) ++ bs := by rw [hrest, hwhole, List.append_assoc]
    have hextent : Shape.decimal.extent? c.rest = some (Utf8.length (digits ++ as)) := by
      simp only [Shape.extent?, hdigits, hafter, if_neg hd, hlength, Utf8.length_append]
    rw [read_eq_tokenTo hv hnumber hextent, List.length_append, advanceBy_add]
    simp only [ne_eq, hd, not_false_eq_true, decide_true, if_true, hpass]
    rfl

/-! ## All shapes -/

theorem readStepwise_eq_read (hv : c.Valid) (shape : Shape) :
    c.readStepwise shape = c.read shape := by
  cases shape with
  | run p => exact readRun_eq_read hv p
  | oneThenRun first others => exact readOneThenRun_eq_read hv first others
  | decimal => exact readNumber_eq_read hv
  | char ch => exact readChar_eq_read hv ch
  | literal text => exact takeBytes_eq_read hv rfl
  | literalIgnoringCase text => exact takeBytes_eq_read hv rfl
  | quoted allowed => exact (read_quoted_eq_scanQuoted hv allowed).symm

theorem skipStepwise_eq_skip (hv : c.Valid) (p : Char → Bool) :
    .ok (c.skipStepwise p) = c.skip p := by
  rw [skip, ← readRun_eq_read hv, readStepwise]
  cases h : c.skipStepwise p with
  | mk found later => cases found <;> rfl

end LexSpan.Cursor
