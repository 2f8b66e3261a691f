import LexSpan.Lexing
import LexSpan.Proofs.QuotedWalk
import LexSpan.Proofs.Room

/-!
# Scanning for a quoted string

`scanQuoted` finds the quoted string under a cursor and spares the walk where it can: it searches the
bytes for the closing quote first, does not move if there is none, and jumps behind it if no
backslash comes before it. Reading a quoted string and splitting a text come to what this scan finds
(`read_quoted_eq_scanQuoted`, `attempt_string_eq_scanQuoted`).

Main statement (`scanQuoted_refines_walk`): wherever the quote occurs a second time, the scan and the
plain walk find the same and leave the same cursor. Without a second quote both fail and stay; the
scan then calls the string unterminated, and the walk may come upon a bad escape first. A session
answers what the scan finds, unless its counters have no room.
-/

namespace LexSpan

open Quoted

namespace Cursor

/-- Finds the string opened by `quote` under a cursor, where `body` follows the quote. -/
def scanAfter (quote : Quote) (body : List Char) (c : Cursor) :
    Except Fault (Except QuoteFailure Token × Cursor) :=
  match Utf8.index? quote.byte body with
  | none => .ok (.error .unterminated, c)
  | some close =>
    if backslashByte ∈ Utf8.firstBytes close body then c.walkQuoted quote
    else (c.advanceTo (c.offset + 1 + close + 1)).map fun later => (.ok (c.tokenTo later), later)

/-- Finds the quoted string under a cursor. `allowed` is the only quote that may open it, or none if
either may. -/
def scanQuoted (allowed : Option Quote) (c : Cursor) :
    Except Fault (Except QuoteFailure Token × Cursor) :=
  match c.rest with
  | [] => .ok (.error .noOpeningQuote, c)
  | ch :: body =>
    match Quote.ofChar? ch with
    | none => .ok (.error .noOpeningQuote, c)
    | some quote =>
      if allowed = none ∨ allowed = some quote then c.scanAfter quote body
      else .ok (.error .noOpeningQuote, c)

/-- What the measure of a string, or the defect found instead, says at the cursor where it was
taken. -/
def ofExtent (c : Cursor) : Except Defect Nat → Except Fault (Except QuoteFailure Token × Cursor)
  | .ok n => (c.advanceTo (c.offset + n)).map fun later => (.ok (c.tokenTo later), later)
  | .error .noOpeningQuote => .ok (.error .noOpeningQuote, c)
  | .error .unterminated => .ok (.error .unterminated, c)
  | .error (.invalidEscape n) =>
    (c.advanceTo (c.offset + n)).map fun backslash =>
      (.error (.invalidEscape backslash.position), c)

/-- The attempt at a lexeme that a scan amounts to: a string, none, or an error. -/
def lexemeOfScan (c : Cursor) :
    Except Fault (Except QuoteFailure Token × Cursor) → Except Stop (Option (Lexeme × Cursor))
  | .error fault => .error (.fault fault)
  | .ok (.ok token, later) => .ok (some (⟨token, .string⟩, later))
  | .ok (.error .noOpeningQuote, _) => .ok none
  | .ok (.error .unterminated, _) => .error (.malformed ⟨.unterminatedString, c.position⟩)
  | .ok (.error (.invalidEscape p), _) => .error (.malformed ⟨.invalidEscape, p⟩)

variable {c : Cursor} {q : Quote} {allowed : Option Quote} {body as bs : List Char}

/-! ## The walk -/

/-- A move over both quotes and what stands between them. -/
theorem advanceTo_literal (hv : c.Valid) (hc : c.rest = q.char :: (as ++ q.char :: bs)) :
    c.advanceTo (c.offset + (1 + Utf8.length as + 1)) = .ok (advanceBy (as.length + 2) c) ∧
      (advanceBy (as.length + 2) c).rest = bs := by
  have hrest : c.rest = (q.char :: (as ++ [q.char])) ++ bs := by simp [hc]
  have hlength : (q.char :: (as ++ [q.char])).length = as.length + 2 := by simp
  rw [← hlength, ← IsLiteral.length_eq]
  exact ⟨advanceTo_append hv hrest, rest_advanceBy hrest⟩

/-- What the walk finds, by where the items of the body end. -/
theorem walkQuoted_cases (hv : c.Valid) (hc : c.rest = q.char :: body) :
    ∃ items rest, Items q items ∧ body = items ++ rest ∧
      (rest = [] ∧ c.walkQuoted q = .ok (.error .unterminated, c) ∨
        (∃ bs, rest = q.char :: bs) ∧ c.walkQuoted q =
          .ok (.ok (c.tokenTo (advanceBy (items.length + 2) c)), advanceBy (items.length + 2) c) ∨
        BadEscape rest ∧ c.walkQuoted q =
          .ok (.error (.invalidEscape (advanceBy (1 + items.length) c).position), c)) := by
  obtain ⟨items, rest, hitems, rfl, hrest⟩ := exists_items q body
  have hadvance : c.advance.rest = items ++ rest := by rw [advance_of_rest hc]
  have hback : ∀ later : Cursor, c.advance.Ahead later → later.reset c.position = .ok c :=
    fun later h => hv.reset_position ((Ahead.advance c).trans h).text_eq
  have hbehind : (advanceBy items.length c.advance).rest = rest := rest_advanceBy hadvance
  refine ⟨items, rest, hitems, rfl, ?_⟩
  rw [walkQuoted, walkBody_items hitems hadvance]
  rcases hrest with rfl | ⟨bs, rfl⟩ | hbad
  · refine .inl ⟨rfl, ?_⟩
    rw [walkBody_atEnd hbehind]
    simp only [hback _ (.advanceBy _ _)]
    rfl
  · refine .inr (.inl ⟨⟨bs, rfl⟩, ?_⟩)
    have hlater : (advanceBy items.length c.advance).advance = advanceBy (items.length + 2) c := by
      rw [show items.length + 2 = 1 + items.length + 1 by omega, advanceBy_add, advanceBy_add]
      rfl
    rw [walkBody_close hbehind, hlater]
  · refine .inr (.inr ⟨hbad, ?_⟩)
    obtain ⟨later, hwalk, hlater⟩ := walkBody_badEscape (q := q) (hbehind ▸ hbad)
    rw [hwalk, advanceBy_add]
    simp only [hback _ ((Ahead.advanceBy _ _).trans hlater)]
    rfl

/-- The walk finds what is measured behind the opening quote. -/
theorem walkQuoted_eq (hv : c.Valid) (hc : c.rest = q.char :: body) :
    c.walkQuoted q = c.ofExtent (endOfBody q 1 body) := by
  obtain ⟨items, rest, hitems, rfl, hwalk⟩ := walkQuoted_cases hv hc
  rw [endOfBody_items hitems]
  rcases hwalk with ⟨rfl, hwalk⟩ | ⟨⟨bs, rfl⟩, hwalk⟩ | ⟨hbad, hwalk⟩
  · rw [hwalk, endOfBody, ofExtent]
  · rw [hwalk, endOfBody_close, ofExtent, (advanceTo_literal hv hc).1]
    rfl
  · have hrest : c.rest = (q.char :: items) ++ rest := hc
    have hto := advanceTo_append hv hrest
    rw [Utf8.length_cons, Quote.utf8Size_char, List.length_cons, Nat.add_comm items.length] at hto
    rw [hwalk, endOfBody_badEscape hbad, ofExtent, hto]
    rfl

/-! ## The scan -/

theorem scanQuoted_of_quote (hc : c.rest = q.char :: body)
    (ha : allowed = none ∨ allowed = some q) : c.scanQuoted allowed = c.scanAfter q body := by
  simp only [scanQuoted, hc, Quote.ofChar?_char]
  exact if_pos ha

/-- The search finds the first quote, as a character. -/
theorem exists_of_index? {close : Nat} (h : Utf8.index? q.byte body = some close) :
    ∃ as bs, body = as ++ q.char :: bs ∧ q.char ∉ as ∧ Utf8.length as = close := by
  have hmem : q.char ∈ body := by
    refine Classical.byContradiction fun hmem => ?_
    rw [Quote.byte, (Utf8.index?_eq_none_iff q.char_lt).2 hmem] at h
    cases h
  obtain ⟨as, bs, rfl, has⟩ := List.eq_append_cons_of_mem hmem
  rw [Quote.byte, Utf8.index?_append_cons q.char_lt has, Option.some.injEq] at h
  exact ⟨as, bs, rfl, has, h⟩

/-- Behind an opening quote the scan is never in want of one. -/
theorem scanAfter_ne_noOpeningQuote (hv : c.Valid) (hc : c.rest = q.char :: body) {later : Cursor} :
    c.scanAfter q body ≠ .ok (.error .noOpeningQuote, later) := by
  intro h
  rw [scanAfter] at h
  split at h
  · cases h
  · split at h
    · obtain ⟨items, rest, -, -, ⟨-, hwalk⟩ | ⟨-, hwalk⟩ | ⟨-, hwalk⟩⟩ := walkQuoted_cases hv hc
      · cases hwalk.symm.trans h
      · cases hwalk.symm.trans h
      · cases hwalk.symm.trans h
    · obtain ⟨_, -, he⟩ := Operation.exists_of_map_eq_ok h
      cases he

/-- The scan finds what is measured. -/
theorem scanAfter_eq (hv : c.Valid) (hc : c.rest = q.char :: body) :
    c.scanAfter q body = c.ofExtent (extentAfter q body) := by
  rcases hi : Utf8.index? q.byte body with _ | close
  · simp only [scanAfter, extentAfter, hi, ofExtent]
  · by_cases hb : backslashByte ∈ Utf8.firstBytes close body
    · simp only [scanAfter, extentAfter, hi, if_pos hb]
      exact walkQuoted_eq hv hc
    · simp only [scanAfter, extentAfter, hi, if_neg hb, ofExtent]
      rw [show c.offset + 1 + close + 1 = c.offset + (close + 2) by omega]

theorem scanQuoted_eq (hv : c.Valid) (allowed : Option Quote) :
    c.scanQuoted allowed = c.ofExtent (extent allowed c.rest) := by
  rcases hc : c.rest with _ | ⟨ch, body⟩
  · simp only [scanQuoted, hc, extent, ofExtent]
  · rcases hq : Quote.ofChar? ch with _ | quote
    · simp only [scanQuoted, hc, extent, hq, ofExtent]
    · by_cases ha : allowed = none ∨ allowed = some quote
      · simp only [scanQuoted, hc, extent, hq, if_pos ha]
        exact scanAfter_eq hv (Quote.ofChar?_eq_some_iff.1 hq ▸ hc)
      · simp only [scanQuoted, hc, extent, hq, if_neg ha, ofExtent]

/-- Every defect is found at a character of the text. -/
theorem exists_ofExtent_eq_error {defect : Defect} (hv : c.Valid)
    (h : extent allowed c.rest = .error defect) :
    ∃ failure, c.ofExtent (.error defect) = .ok (.error failure, c) := by
  cases defect with
  | noOpeningQuote | unterminated => exact ⟨_, rfl⟩
  | invalidEscape n =>
    obtain ⟨q, body, hc, hbody⟩ :
        ∃ q body, c.rest = Quote.char q :: body ∧ extentAfter q body = .error (.invalidEscape n) := by
      rcases hc : c.rest with _ | ⟨ch, body⟩
      · rw [hc] at h
        cases h
      · rw [hc, extent] at h
        split at h
        · cases h
        · next q hq =>
          split at h
          · exact ⟨q, body, by rw [Quote.ofChar?_eq_some_iff.1 hq], h⟩
          · cases h
    rw [extentAfter_eq] at hbody
    split at hbody
    · obtain ⟨items, ⟨-, rest, rfl, -⟩, rfl⟩ := endOfBody_eq_invalidEscape_iff.1 hbody
      have hto := advanceTo_append hv (show c.rest = (q.char :: items) ++ rest from hc)
      rw [Utf8.length_cons, Quote.utf8Size_char] at hto
      rw [ofExtent, hto]
      exact ⟨_, rfl⟩
    · cases hbody

/-- Reading a quoted string comes to what the scan finds. -/
theorem read_quoted_eq_scanQuoted (hv : c.Valid) (allowed : Option Quote) :
    c.read (.quoted allowed) =
      (c.scanQuoted allowed).map fun (found, later) => (found.toOption, later) := by
  rw [scanQuoted_eq hv, read, Shape.extent?]
  rcases he : extent allowed c.rest with defect | n
  · obtain ⟨failure, hfailure⟩ := exists_ofExtent_eq_error hv he
    rw [hfailure]
    rfl
  · simp only [Except.toOption, ofExtent]
    cases c.advanceTo (c.offset + n) <;> rfl

/-- Without a backslash before it, the first quote of the body closes the string. -/
theorem walkQuoted_of_plain (hv : c.Valid) (hc : c.rest = q.char :: (as ++ q.char :: bs))
    (hq : q.char ∉ as) (hb : '\\' ∉ as) :
    (advanceBy (as.length + 2) c).rest = bs ∧ c.walkQuoted q =
      .ok (.ok (c.tokenTo (advanceBy (as.length + 2) c)), advanceBy (as.length + 2) c) := by
  obtain ⟨hto, hrest⟩ := advanceTo_literal hv hc
  refine ⟨hrest, ?_⟩
  rw [walkQuoted_eq hv hc, endOfBody_items (items_of_plain hq hb), endOfBody_close, ofExtent, hto]
  rfl

/-- Splitting a text comes to what the scan finds, and reports why it finds no string. -/
theorem attempt_string_eq_scanQuoted (hv : c.Valid) :
    c.attempt .string = c.lexemeOfScan (c.scanQuoted none) := by
  have hread := read_quoted_eq_scanQuoted hv none
  rw [scanQuoted_eq hv] at hread ⊢
  rw [attempt, if_pos rfl]
  rcases he : extent none c.rest with (_ | _ | n) | n
  · rw [he] at hread
    simp only [readAs, Kind.shape, hread, ofExtent, lexemeOfScan]
    rfl
  · rfl
  · simp only [ofExtent]
    cases c.advanceTo (c.offset + n) <;> rfl
  · rw [he] at hread
    simp only [readAs, Kind.shape, hread, ofExtent]
    cases c.advanceTo (c.offset + n) <;> rfl

end Cursor

variable {c : Cursor} {q : Quote} {allowed : Option Quote}

theorem scanQuoted_refines_walk {text : String} (h : Reachable text c)
    (hq : c.current = some q.char) (ha : allowed = none ∨ allowed = some q) :
    (c.read (.quoted allowed) =
        (c.scanQuoted allowed).map fun (found, later) => (found.toOption, later)) ∧
    c.attempt .string = c.lexemeOfScan (c.scanQuoted none) ∧
    (q.char ∈ c.rest.tail → c.scanQuoted allowed = c.walkQuoted q ∧
      ((∃ later, c.walkQuoted q = .ok (.ok (c.tokenTo later), later)) ∨
        ∃ failure, c.walkQuoted q = .ok (.error failure, c))) ∧
    (q.char ∉ c.rest.tail → c.scanQuoted allowed = .ok (.error .unterminated, c) ∧
      (Items q c.rest.tail ∧ c.walkQuoted q = .ok (.error .unterminated, c) ∨
        ∃ items, BadEscapeAfter q items c.rest.tail ∧ c.walkQuoted q =
          .ok (.error (.invalidEscape (Cursor.advanceBy (1 + items.length) c).position), c))) ∧
    (∀ close, Utf8.index? q.byte c.rest.tail = some close →
      ∃ as bs, c.rest.tail = as ++ q.char :: bs ∧ q.char ∉ as ∧ Utf8.length as = close) ∧
    (∀ as bs, c.rest.tail = as ++ q.char :: bs → q.char ∉ as → '\\' ∉ as →
      ∃ later, later = Cursor.advanceBy (as.length + 2) c ∧ later.rest = bs ∧
        c.scanQuoted allowed = .ok (.ok (c.tokenTo later), later) ∧
        c.walkQuoted q = .ok (.ok (c.tokenTo later), later)) ∧
    ∀ s : Session, s.cursor = c → ∀ found later, c.scanQuoted allowed = .ok (found, later) →
      (s.operate (.read (.quoted allowed)) = .error .countersExhausted ∧ ¬ c.HasRoom) ∨
        s.operate (.read (.quoted allowed)) =
          .ok (.token found.toOption, { s with cursor := later }) := by
  have hv := h.valid
  obtain ⟨body, hc⟩ := List.head?_eq_some_iff.1 hq
  have htail : c.rest.tail = body := by rw [hc, List.tail_cons]
  have hscan : c.scanQuoted allowed = c.ofExtent (extentAfter q body) := by
    rw [Cursor.scanQuoted_of_quote hc ha, Cursor.scanAfter_eq hv hc]
  have hwalk := Cursor.walkQuoted_eq hv hc
  have hagree : q.char ∈ body → c.scanQuoted allowed = c.walkQuoted q := fun hmem => by
    rw [hscan, hwalk, extentAfter_eq, if_pos hmem]
  rw [htail]
  refine ⟨Cursor.read_quoted_eq_scanQuoted hv allowed, Cursor.attempt_string_eq_scanQuoted hv,
    fun hmem => ⟨hagree hmem, ?_⟩, fun hmem => ⟨?_, ?_⟩, fun close => Cursor.exists_of_index?, ?_, ?_⟩
  · obtain ⟨items, rest, -, -, ⟨-, he⟩ | ⟨-, he⟩ | ⟨-, he⟩⟩ := Cursor.walkQuoted_cases hv hc
    · exact .inr ⟨_, he⟩
    · exact .inl ⟨_, he⟩
    · exact .inr ⟨_, he⟩
  · rw [hscan, extentAfter_eq, if_neg hmem, Cursor.ofExtent]
  · obtain ⟨items, rest, hitems, rfl, ⟨rfl, he⟩ | ⟨⟨bs, rfl⟩, -⟩ | ⟨hbad, he⟩⟩ :=
      Cursor.walkQuoted_cases hv hc
    · exact .inl ⟨by rwa [List.append_nil], he⟩
    · exact absurd (List.mem_append_right _ List.mem_cons_self) hmem
    · exact .inr ⟨items, ⟨hitems, rest, rfl, hbad⟩, he⟩
  · rintro as bs rfl has hb
    obtain ⟨hrest, hlater⟩ := Cursor.walkQuoted_of_plain hv hc has hb
    refine ⟨_, rfl, hrest, ?_, hlater⟩
    rw [hagree (List.mem_append_right _ List.mem_cons_self), hlater]
  · rintro s rfl found later hfound
    refine Session.operate_read ?_
    rw [Cursor.read_quoted_eq_scanQuoted hv, hfound]
    rfl

/-- The scan and the walk find the same string over a line break and an escaped quote. Where the
quote does not come again, the walk fails at the bad escape and the scan does not look at it. -/
theorem scanQuoted_refines_walk_bad_escape :
    (Reachable "x'\n\\''" (Cursor.advanceBy 1 (.start "x'\n\\''")) ∧
      (Cursor.advanceBy 1 (.start "x'\n\\''")).scanQuoted none =
        (Cursor.advanceBy 1 (.start "x'\n\\''")).walkQuoted .single) ∧
    (Cursor.start "'\\q").scanQuoted none = .ok (.error .unterminated, .start "'\\q") ∧
      (Cursor.start "'\\q").walkQuoted .single =
        .ok (.error (.invalidEscape ⟨1, 1, 2⟩), .start "'\\q") := by
  constructor
  · have hrun : (Operation.advance 1).run (.start "x'\n\\''") =
        .ok (.done, Cursor.advanceBy 1 (.start "x'\n\\''")) := rfl
    have hreach := Reachable.run .start hrun
    have hcurrent : (Cursor.advanceBy 1 (.start "x'\n\\''")).current = some Quote.single.char := by
      decide
    exact ⟨hreach, ((scanQuoted_refines_walk hreach hcurrent (.inl rfl)).2.2.1 (by decide)).1⟩
  · have hcurrent : (Cursor.start "'\\q").current = some Quote.single.char := by decide
    have htail : (Cursor.start "'\\q").rest.tail = ['\\', 'q'] := by decide
    have hq : BadEscapeAfter .single [] (Cursor.start "'\\q").rest.tail :=
      ⟨.nil, _, htail, badEscape_of_hexDigits?_eq_none (by decide) []⟩
    obtain ⟨hscan, ⟨hitems, -⟩ | ⟨items, hbad, hwalk⟩⟩ :=
      (scanQuoted_refines_walk .start hcurrent (.inl rfl)).2.2.2.1 (by decide)
    · have hend := endOfBody_eq_invalidEscape_iff.2 ⟨[], hq, (Nat.zero_add _).symm⟩
      rw [endOfBody_eq_unterminated_iff.2 hitems] at hend
      cases hend
    · obtain rfl := hq.eq hbad
      exact ⟨hscan, hwalk⟩

end LexSpan
