import LexSpan.Proofs.Checkpoints
import LexSpan.Proofs.StepwiseReading

/-!
# Moves that check what they rest on

A cursor has the characters in front of it at hand. A `Head` has not: it is a place in a text with
the character that stands there, and looks every other character up by its offset. A look-up that is
cut outside the text or inside a character is refused, and so is a move or a token that does not hold
what it rests on (`Violation`).

Main statements: the head of a valid cursor makes the moves of the cursor, and nothing is refused on
the way. This goes for single steps (`advance_head`), for steps under a condition (`passWhile_head`),
for moves to an offset (`advanceTo_head`) and back to a position (`reset_head`), and for the token
between two places (`tokenTo_head`).
-/

namespace LexSpan

variable {ε α β : Type}

theorem ok_bind (a : α) (f : α → Except ε β) : (Except.ok a >>= f) = f a := rfl

theorem exists_of_bind_eq_ok {x : Except ε α} {f : α → Except ε β} {b : β}
    (h : (x >>= f) = .ok b) : ∃ a, x = .ok a ∧ f a = .ok b := by
  cases x with
  | error e => cases h
  | ok a => exact ⟨a, rfl, h⟩

/-- What a head holds against a move. -/
inductive Violation where
  /-- A slice, a move to an offset or a reset is refused. -/
  | fault (fault : Fault)
  /-- Bytes are taken from behind the end. -/
  | bytesOutside (offset size : Nat)
  /-- The head has no current character before the end of the text, or one at the end. -/
  | endOutOfStep (offset size : Nat)
  /-- A token stops before it starts. -/
  | tokenReversed (start stop : Nat)
  /-- A token stops behind the end of the text. -/
  | tokenOutside (stop size : Nat)
  /-- A lexeme does not bring the head forward. -/
  | noProgress (offset : Nat)
deriving DecidableEq

/-- A place in a text, and the character there. -/
structure Head where
  text : String
  position : Position
  current : Option Char
deriving DecidableEq

namespace Head

/-- The head on the first character of a text. -/
def start (text : String) : Head := ⟨text, .start, text.toList.head?⟩

/-- The bytes from the start of the text to the head. -/
def offset (h : Head) : Nat := h.position.offset

/-- The bytes from the head to the end of the text. -/
def left (h : Head) : Nat := h.text.utf8ByteSize - h.offset

/-- The part of the text between two offsets. -/
def slice (h : Head) (start stop : Nat) : Except Violation String :=
  ((Cursor.start h.text).slice start stop).mapError .fault

/-- The text from an offset on. -/
def restAt (h : Head) (offset : Nat) : Except Violation String :=
  h.slice offset h.text.utf8ByteSize

/-- The head itself, if it has a current character exactly where the text is not at its end. -/
def checkEnd (h : Head) : Except Violation Head :=
  if h.current = none ↔ h.offset = h.text.utf8ByteSize then .ok h
  else .error (.endOutOfStep h.offset h.text.utf8ByteSize)

/-- Moves one character on, and stays where it is at the end. -/
def advance (h : Head) : Except Violation Head :=
  match h.current with
  | none => .ok h
  | some ch => do
    let next := (← h.restAt (h.offset + ch.utf8Size)).toList.head?
    checkEnd ⟨h.text, h.position.step ch next, next⟩

theorem le_of_restAt {h : Head} {n : Nat} {rest : String} (hrest : h.restAt n = .ok rest) :
    n ≤ h.text.utf8ByteSize := by
  refine Nat.le_of_not_lt fun hlt => ?_
  rw [restAt, slice, Cursor.slice, if_pos hlt] at hrest
  cases hrest

/-- A step that is not at the end leaves less text. -/
theorem left_lt_of_advance {h later : Head} (hcurrent : h.current.isSome = true)
    (hadvance : h.advance = .ok later) : later.left < h.left := by
  obtain ⟨ch, hch⟩ := Option.isSome_iff_exists.1 hcurrent
  simp only [advance, hch] at hadvance
  obtain ⟨rest, hrest, hcheck⟩ := exists_of_bind_eq_ok hadvance
  rw [checkEnd] at hcheck
  split at hcheck
  · cases hcheck
    have hle := le_of_restAt hrest
    have hpos := ch.utf8Size_pos
    simp only [left, offset, Position.offset_step] at hle ⊢
    omega
  · cases hcheck

/-- Moves on as long as `p` holds. -/
def advanceWhile (p : Head → Bool) (h : Head) : Except Violation Head :=
  if hp : h.current.isSome = true ∧ p h = true then
    match hadvance : h.advance with
    | .error v => .error v
    | .ok later =>
      have : later.left < h.left := left_lt_of_advance hp.1 hadvance
      later.advanceWhile p
  else .ok h
termination_by h.left

theorem advanceWhile_of_advance {h later : Head} {p : Head → Bool}
    (hp : h.current.isSome = true ∧ p h = true) (hadvance : h.advance = .ok later) :
    h.advanceWhile p = later.advanceWhile p := by
  rw [advanceWhile, dif_pos hp]
  split
  · next h' =>
    rw [hadvance] at h'
    cases h'
  · next h' =>
    rw [hadvance] at h'
    cases h'
    rfl

/-- Moves on to the offset `target`, which must lie ahead and between two characters. -/
def advanceTo (h : Head) (target : Nat) : Except Violation Head :=
  if target < h.offset ∨ h.text.utf8ByteSize < target then
    .error (.fault (.targetOutside target h.offset h.text.utf8ByteSize))
  else if Utf8.isBoundary target h.text.toList then h.advanceWhile (·.offset < target)
  else .error (.fault (.targetInsideChar target))

/-- Goes to the offset of a position, and takes the position's line and column as they are. -/
def reset (h : Head) (p : Position) : Except Violation Head :=
  if h.text.utf8ByteSize < p.offset then
    .error (.fault (.resetOutside p.offset h.text.utf8ByteSize))
  else if Utf8.isBoundary p.offset h.text.toList then do
    let rest ← h.restAt p.offset
    .ok ⟨h.text, p, rest.toList.head?⟩
  else .error (.fault (.resetInsideChar p.offset))

/-- The token between a head and a later one, which must lie behind it and in the text. -/
def tokenTo (h later : Head) : Except Violation Token :=
  if later.offset < h.offset then .error (.tokenReversed h.offset later.offset)
  else if h.text.utf8ByteSize < later.offset then
    .error (.tokenOutside later.offset h.text.utf8ByteSize)
  else do
    let text ← h.slice h.offset later.offset
    .ok ⟨text, h.position, later.position⟩

/-- The bytes of the text from an offset on. -/
def bytesAt (h : Head) (offset : Nat) : Except Violation (List UInt8) :=
  if h.text.utf8ByteSize < offset then .error (.bytesOutside offset h.text.utf8ByteSize)
  else .ok ((Utf8.bytes h.text.toList).drop offset)

end Head

namespace Cursor

/-- What a cursor is without the rest of its text. -/
def head (c : Cursor) : Head := ⟨c.text, c.position, c.current⟩

variable {c d : Cursor} {as bs : List Char}

@[simp] theorem text_head (c : Cursor) : c.head.text = c.text := rfl

@[simp] theorem position_head (c : Cursor) : c.head.position = c.position := rfl

@[simp] theorem offset_head (c : Cursor) : c.head.offset = c.offset := rfl

@[simp] theorem current_head (c : Cursor) : c.head.current = c.current := rfl

theorem isSome_current (c : Cursor) : c.current.isSome = !c.atEnd := by
  rw [current, atEnd]
  cases c.rest <;> rfl

theorem head?_remaining (c : Cursor) : c.remaining.toList.head? = c.current := by
  rw [remaining, String.toList_ofList, current]

theorem slice_head {start stop : Nat} {text : String} (h : c.slice start stop = .ok text) :
    c.head.slice start stop = .ok text := by
  show (c.slice start stop).mapError Violation.fault = .ok text
  rw [h]
  rfl

theorem restAt_head (hd : d.Valid) (htext : d.text = c.text) :
    c.head.restAt d.offset = .ok d.remaining := by
  have hslice : c.slice d.offset c.text.utf8ByteSize = .ok d.remaining := by
    rw [← (hd.inStep htext).slice_eq, slice, slice, htext]
  exact slice_head hslice

theorem checkEnd_head (hv : c.Valid) : c.head.checkEnd = .ok c.head :=
  if_pos (hv.inStep rfl).current_eq_none

theorem advance_head (hv : c.Valid) : c.head.advance = .ok c.advance.head := by
  rcases hc : c.rest with _ | ⟨ch, cs⟩
  · rw [advance_of_atEnd hc, head, current, hc]
    rfl
  · have hadvance := advance_of_rest hc
    have hoffset : c.advance.offset = c.offset + ch.utf8Size := by
      rw [hadvance]
      exact Position.offset_step ..
    have hrest := restAt_head hv.advance (text_advance c)
    rw [hoffset] at hrest
    have hnext : c.advance.remaining.toList.head? = cs.head? := by
      rw [head?_remaining, hadvance]
      rfl
    have hlater : (⟨c.text, c.position.step ch cs.head?, cs.head?⟩ : Head) = c.advance.head := by
      rw [hadvance]
      rfl
    have hcurrent : c.current = some ch := by rw [current, hc, List.head?_cons]
    simp only [Head.advance, current_head, offset_head, hcurrent]
    rw [hrest, ok_bind, hnext, ← checkEnd_head hv.advance, ← hlater]
    rfl

theorem walkTo_head (hv : c.Valid) (target : Nat) :
    c.head.advanceWhile (·.offset < target) = .ok (c.walkTo target).head := by
  fun_induction walkTo target c with
  | case1 c h ih =>
    rw [Head.advanceWhile_of_advance ⟨?_, decide_eq_true h.1⟩ (advance_head hv)]
    · exact ih hv.advance
    · rw [current_head, isSome_current, h.2]
      rfl
  | case2 c h =>
    rw [Head.advanceWhile, dif_neg]
    rintro ⟨hcurrent, hlt⟩
    rw [current_head, isSome_current, Bool.not_eq_true'] at hcurrent
    exact h ⟨of_decide_eq_true hlt, hcurrent⟩

theorem passWhile_head (hv : c.Valid) (p : Char → Bool) :
    c.head.advanceWhile (·.current.any p) = .ok (c.passWhile p).head := by
  fun_induction passWhile p c with
  | case1 c h ih =>
    rw [Head.advanceWhile_of_advance ⟨?_, h⟩ (advance_head hv)]
    · exact ih hv.advance
    · obtain ⟨ch, hch, -⟩ := (Option.any_eq_true ..).1 h
      exact Option.isSome_iff_exists.2 ⟨ch, hch⟩
  | case2 c h =>
    rw [Head.advanceWhile, dif_neg]
    exact fun hp => h hp.2

/-- Where a cursor moves to an offset, its head does as well. -/
theorem advanceTo_head (hv : c.Valid) {target : Nat} (h : c.advanceTo target = .ok d) :
    c.head.advanceTo target = .ok d.head := by
  rw [advanceTo] at h
  split at h
  · cases h
  · next hinside =>
    split at h
    · next hb =>
      cases h
      have hwalk := walkTo_head hv target
      obtain ⟨as, bs, hc, hlength⟩ := Utf8.isBoundary_iff.1 hb
      obtain ⟨passed, htext, hoffset⟩ := hv
      have hboundary : Utf8.isBoundary target c.text.toList = true :=
        Utf8.isBoundary_iff.2 ⟨passed ++ as, bs, by rw [htext, hc, List.append_assoc],
          by rw [Utf8.length_append]; omega⟩
      rw [Head.advanceTo, offset_head, text_head, if_neg hinside, if_pos hboundary]
      exact hwalk
    · cases h

theorem reset_head {p : Position} (h : c.reset p = .ok d) : c.head.reset p = .ok d.head := by
  have hd := Valid.of_reset h
  have htext := text_of_reset h
  rw [reset] at h
  split at h
  · cases h
  · next hinside =>
    split at h
    · next hb =>
      cases h
      rw [Head.reset, text_head, if_neg hinside, if_pos hb,
        show c.head.restAt p.offset = _ from restAt_head hd htext]
      show Except.ok (Head.mk _ _ (remaining _).toList.head?) = _
      rw [head?_remaining]
      rfl
    · cases h

/-- The token that a cursor makes on its way is one that holds what tokens rest on. -/
theorem tokenTo_head (hv : c.Valid) (h : c.Ahead d) : c.head.tokenTo d.head = .ok (c.tokenTo d) := by
  obtain ⟨as, hc, hd⟩ := h.exists_append
  have hoffset := offset_advanceBy hc
  have hle := hv.add_length_le hc
  rw [← hd] at hoffset
  rw [Head.tokenTo, offset_head, offset_head, text_head, if_neg (by omega), if_neg (by omega),
    hoffset, slice_head (slice_append hv hc), hd, tokenTo_advanceBy hc]
  rfl

theorem bytesAt_head {ch : Char} (hv : c.Valid) (hc : c.rest = ch :: bs) :
    c.head.bytesAt (c.offset + ch.utf8Size) = .ok (Utf8.bytes bs) := by
  have hle : c.offset + ch.utf8Size ≤ c.text.utf8ByteSize :=
    hv.add_length_le (show c.rest = [ch] ++ bs from hc)
  obtain ⟨passed, htext, hoffset⟩ := hv
  have hsplit : c.text.toList = (passed ++ [ch]) ++ bs := by rw [htext, hc, List.append_cons]
  have hlength : c.offset + ch.utf8Size = (Utf8.bytes (passed ++ [ch])).length := by
    rw [Utf8.length_bytes, Utf8.length_append, hoffset]
    rfl
  rw [Head.bytesAt, text_head, if_neg (Nat.not_lt.2 hle), hsplit, Utf8.bytes_append, hlength,
    List.drop_left]

end Cursor

end LexSpan
