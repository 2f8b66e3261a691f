import LexSpan.Proofs.CounterBounds
import LexSpan.Proofs.HeadReading
import LexSpan.Proofs.Tiling
import Mathlib.Data.List.Basic

/-!
# Splitting that checks what it rests on

A text is split by a head, with its checked reads alone; a lexeme that would not bring the head
forward is held against the loop as well.

Main statement (`nothing_violated`): from every cursor that can be reached, also by resets to places of
someone's choice, the head of the cursor moves, reads and skips as the cursor does, and splits every
text as `tokenize` does; no check fails. Without such resets the counters hold too, in every text that
fits into memory.
-/

namespace LexSpan

open Quoted

namespace Head

/-- Reads a lexeme of the first kind in the list that fits, and a symbol if none does. -/
def firstOf : List Kind → Head → Except Violation (Lexeme × Head)
  | [], h => do
    let later ← h.advance
    let token ← h.tokenTo later
    .ok (⟨token, .symbol⟩, later)
  | kind :: kinds, h => do
    match ← h.read kind.shape with
    | (some token, later) => .ok (⟨token, kind⟩, later)
    | (none, later) => firstOf kinds later

/-- Reads the quoted string under a head, or says what is wrong with it. -/
def readString (h : Head) : Except Violation (Except LexError (Lexeme × Head)) := do
  match ← h.scanQuoted none with
  | (.ok token, later) => .ok (.ok (⟨token, .string⟩, later))
  | (.error (.invalidEscape p), _) => .ok (.error ⟨.invalidEscape, p⟩)
  | (.error _, _) => .ok (.error ⟨.unterminatedString, h.position⟩)

/-- Reads a lexeme. -/
def next (h : Head) : Except Violation (Except LexError (Lexeme × Head)) :=
  if h.matchesChar '"' || h.matchesChar '\'' then h.readString
  else do
    let found ← h.firstOf [.whiteSpace, .newLine, .identifier, .number]
    .ok (.ok found)

/-- Splits the rest of a text. The lexemes before it are `done`, the newest first. -/
def lexFrom (done : List Lexeme) (h : Head) : Except Violation (List Lexeme × Option LexError) :=
  match h.current with
  | none => .ok (done.reverse, none)
  | some _ =>
    match h.next with
    | .error v => .error v
    | .ok (.error e) => .ok (done.reverse, some e)
    | .ok (.ok (lexeme, later)) =>
      if _ : later.left < h.left then lexFrom (lexeme :: done) later
      else .error (.noProgress h.offset)
termination_by h.left

/-- Splits a text into the lexemes asked for. -/
def tokenize (text : String) (options : Options) :
    Except Violation (Except LexError (List Lexeme)) := do
  match ← lexFrom [] (.start text) with
  | (_, some e) => .ok (.error e)
  | (lexemes, none) => .ok (.ok (lexemes.filter options.keeps))

end Head

variable {c d : Cursor} {q : Quote} {body : List Char} {kinds : List Kind} {ch : Char}
  {cs : List Char}

namespace Cursor

theorem read_anyChar (hv : c.Valid) (hc : c.rest = ch :: cs) :
    c.read Kind.symbol.shape = .ok (some (c.tokenTo c.advance), c.advance) :=
  read_eq_tokenTo hv (show c.rest = [ch] ++ cs from hc) (by
    rw [hc]
    show some (ch.utf8Size + Utf8.length (cs.takeWhile fun _ => false)) = _
    cases cs <;> rfl)

theorem readAs_of_read {kind : Kind} {token : Option Token} (h : c.read kind.shape = .ok (token, d)) :
    c.readAs kind = .ok (token.map fun token => (⟨token, kind⟩, d)) := by
  rw [readAs, h]
  cases token <;> rfl

/-- The kinds other than strings are tried in the same order. -/
theorem firstOf_head (hv : c.Valid) (hc : c.rest = ch :: cs) (hkinds : .string ∉ kinds) :
    ∃ lexeme later, c.next (kinds ++ [.symbol]) = .ok (some (lexeme, later)) ∧
      c.head.firstOf kinds = .ok (lexeme, later.head) := by
  have hattempt : ∀ kind, kind ≠ .string → c.attempt kind = c.readAs kind := fun kind h => if_neg h
  induction kinds with
  | nil =>
    refine ⟨⟨c.tokenTo c.advance, .symbol⟩, c.advance, ?_, ?_⟩
    · rw [List.nil_append, next, hattempt _ (by decide), readAs_of_read (read_anyChar hv hc)]
      rfl
    · rw [Head.firstOf, advance_head hv, ok_bind, tokenTo_head hv (.advance c), ok_bind]
  | cons kind kinds ih =>
    rw [List.mem_cons, not_or] at hkinds
    obtain ⟨token, later, hread, hhead⟩ := read_head hv kind.shape
    rw [List.cons_append, next, hattempt _ (Ne.symm hkinds.1), readAs_of_read hread, Head.firstOf,
      hhead]
    cases token with
    | some token => exact ⟨_, _, rfl, rfl⟩
    | none =>
      have hstay : later = c := by
        rcases read_cases hv kind.shape with h | ⟨as, bs, -, -, h⟩
        · cases hread.symm.trans h
          rfl
        · cases hread.symm.trans h
      subst hstay
      exact ih hkinds.2

/-- A head reads the lexeme that its cursor reads, or finds the same error. -/
theorem next_head (hv : c.Valid) (hc : c.rest = ch :: cs) :
    (∃ lexeme later, c.next Kind.order = .ok (some (lexeme, later)) ∧
      c.head.next = .ok (.ok (lexeme, later.head))) ∨
    ∃ e, c.next Kind.order = .error (.malformed e) ∧ c.head.next = .ok (.error e) := by
  have hmatch := matchesChar_of_rest hc
  by_cases hquote : ∃ q : Quote, ch = q.char
  · obtain ⟨q, rfl⟩ := hquote
    have hhead : c.head.next = c.head.readString := if_pos (by
      rw [matchesChar_head, matchesChar_head, Bool.or_eq_true, hmatch, hmatch]
      cases q <;> decide)
    obtain ⟨_, _, hread, -⟩ := read_head hv (.quoted none)
    rw [read_quoted_eq_scanQuoted hv] at hread
    obtain ⟨⟨found, later⟩, hscan, -⟩ := Operation.exists_of_map_eq_ok hread
    have hattempt := attempt_string_eq_scanQuoted hv
    rw [hscan] at hattempt
    rw [hhead, Head.readString, scanQuoted_head hv hscan, Kind.order, next, hattempt]
    rcases found with (_ | _ | p) | token
    · rw [scanQuoted_of_quote hc (.inl rfl)] at hscan
      exact absurd hscan (scanAfter_ne_noOpeningQuote hv hc)
    · exact .inr ⟨_, rfl, rfl⟩
    · exact .inr ⟨_, rfl, rfl⟩
    · exact .inl ⟨_, _, rfl, rfl⟩
  · have hstring : Kind.string.opens ch = false :=
      Bool.eq_false_iff.2 (mt Kind.string_opens_iff.1 hquote)
    have hhead : c.head.next = _ := if_neg (by
      rw [matchesChar_head, matchesChar_head, Bool.or_eq_true, hmatch, hmatch]
      rintro (rfl | rfl)
      · exact hquote ⟨.double, rfl⟩
      · exact hquote ⟨.single, rfl⟩)
    have hkinds : Kind.string ∉ [.whiteSpace, .newLine, .identifier, .number] := by decide
    obtain ⟨lexeme, later, hnext, hfirst⟩ := firstOf_head hv hc hkinds
    rw [hhead, hfirst, Kind.order, next, attempt_of_not_opens hc (by decide) hstring]
    exact .inl ⟨lexeme, later, hnext, rfl⟩

theorem left_head (hv : c.Valid) : c.head.left = Utf8.length c.rest := by
  rw [Head.left, text_head, offset_head, hv.utf8ByteSize_eq, Nat.add_sub_cancel_left]

end Cursor

/-- A head splits what is left as its cursor does. -/
theorem lexFrom_head (hv : c.Valid) (done : List Lexeme) : ∃ e?,
    (lexFrom done c).stop = e?.map .malformed ∧
      c.head.lexFrom done = .ok ((lexFrom done c).lexemes, e?) := by
  induction hn : c.rest.length using Nat.strongRecOn generalizing done c with
  | ind n ih =>
    rw [lexFrom_eq, Head.lexFrom, Cursor.current_head, Cursor.current]
    rcases hc : c.rest with _ | ⟨ch, cs⟩
    · rw [ofCursor_of_none (Cursor.next_of_atEnd hc), List.append_nil]
      exact ⟨none, rfl, rfl⟩
    rcases Cursor.next_head hv hc with ⟨lexeme, later, hnext, hhead⟩ | ⟨e, hnext, hhead⟩
    · obtain ⟨bs, hrest, ht, -, -, hlater⟩ := Cursor.lexeme_of_next hv hnext
      have hvlater : later.Valid := hlater ▸ hv.advanceBy _
      have hbs : later.rest = bs := hlater ▸ Cursor.rest_advanceBy hrest
      have hpos := Nat.pos_of_ne_zero (mt Utf8.length_eq_zero.1 ht.ne_nil)
      have hleft : later.head.left < c.head.left := by
        rw [Cursor.left_head hv, Cursor.left_head hvlater, hrest, hbs, Utf8.length_append]
        omega
      obtain ⟨e?, hstop, hlex⟩ :=
        ih _ (hn ▸ Cursor.length_rest_of_next hnext) hvlater (lexeme :: done) rfl
      rw [ofCursor_of_some hnext]
      rw [lexFrom_eq, List.reverse_cons, List.append_assoc] at hstop hlex
      refine ⟨e?, hstop, ?_⟩
      simp only [List.head?_cons, hhead, dif_pos hleft]
      exact hlex
    · rw [ofCursor_of_error hnext, List.append_nil]
      refine ⟨some e, rfl, ?_⟩
      simp only [List.head?_cons, hhead]

theorem tokenize_head (text : String) (options : Options) : ∃ outcome,
    Head.tokenize text options = .ok outcome ∧
      tokenize text options = outcome.mapError .malformed := by
  obtain ⟨e?, hstop, hhead⟩ := lexFrom_head (Cursor.valid_start text) []
  rw [Head.tokenize, show Head.start text = (Cursor.start text).head from rfl, hhead]
  rw [tokenize, Lexing.outcome, Lexing.ofText, Lexing.ofCursor, hstop]
  cases e? with
  | none => exact ⟨_, rfl, rfl⟩
  | some e => exact ⟨_, rfl, rfl⟩

theorem nothing_violated (text : String) :
    (∀ c, Reachable text c →
      (c.head.advance = .ok c.advance.head ∧
        (c.advance.head.current = none ↔ c.advance.head.offset = text.utf8ByteSize)) ∧
      (∀ target later, c.advanceTo target = .ok later → c.head.advanceTo target = .ok later.head) ∧
      (∀ p later, c.reset p = .ok later → c.head.reset p = .ok later.head) ∧
      (∀ shape, ∃ token later,
        c.read shape = .ok (token, later) ∧ c.head.read shape = .ok (token, later.head)) ∧
      ∀ p, ∃ moved later, c.skip p = .ok (moved, later) ∧ c.head.skip p = .ok (moved, later.head)) ∧
    (∀ options, ∃ outcome, Head.tokenize text options = .ok outcome ∧
      tokenize text options = outcome.mapError .malformed) ∧
    (∀ c, Visited text c → 1 ≤ c.position.line ∧ 1 ≤ c.position.column ∧
      c.position.line + c.position.column ≤ c.position.offset + 2) ∧
    (text.utf8ByteSize < sizeLimit →
      (∀ c, Visited text c → c.position.offset < counterLimit ∧ c.position.countersFit = true ∧
        ∀ n, c.countersFit n = true) ∧
      ∀ steps, (∀ st ∈ steps, Step.Allowed (fun op => ∀ p, op ≠ .reset p) st) →
        (Session.run { cursor := .start text } steps).refusal ≠ some .countersExhausted) := by
  refine ⟨fun c hc => ?_, tokenize_head text, fun c hc => ?_, fun hsize => ⟨fun c hc => ?_, ?_⟩⟩
  · have hv := hc.valid
    have hend := (hv.advance.inStep ((Cursor.text_advance c).trans hc.text_eq)).current_eq_none
    refine ⟨⟨Cursor.advance_head hv, hend⟩, fun target later => Cursor.advanceTo_head hv,
      fun p later => Cursor.reset_head, Cursor.read_head hv, fun p => ?_⟩
    exact ⟨_, _, (Cursor.skipStepwise_eq_skip hv p).symm, Cursor.skip_head hv p⟩
  · exact ⟨hc.counted.line_pos, hc.counted.column_pos, hc.counted.sum_le⟩
  · have hoffset := hc.offset_le
    have hroom := hc.hasRoom hsize
    refine ⟨?_, hroom.position_countersFit, hroom.countersFit⟩
    rw [sizeLimit] at hsize
    rw [counterLimit]
    omega
  · exact fun steps hsteps => Session.refusal_ne_countersExhausted (.start .start) hsize hsteps

/-- A head that was put in a line of someone's choice walks through a string with an escape, and jumps
behind a literal; a session that goes back to its own places keeps its counters. -/
theorem nothing_violated_foreign_reset :
    (∃ h token later, (Cursor.start "é'\\x41'1.").head.reset ⟨2, 70, 9⟩ = .ok h ∧
      h.read (.quoted none) = .ok (some token, later) ∧ token.text = "'\\x41'" ∧
      later.position = ⟨8, 70, 15⟩ ∧ later.current = some '1') ∧
    (∃ later, (Cursor.start "é'\\x41'1.").head.advanceTo 8 = .ok later ∧
      later.position = ⟨8, 1, 8⟩) ∧
    (∃ c, Visited "é'\\x41'1." c ∧ c.position = ⟨8, 1, 8⟩ ∧
      c.position.line + c.position.column ≤ c.position.offset + 2 ∧ c.countersFit 3 = true) ∧
    (Session.run { cursor := .start "é'\\x41'1." } [.operation (.skip (· ≠ '1')), .checkpoint "one",
      .operation (.read .decimal), .backTo "one"]).refusal ≠ some .countersExhausted := by
  obtain ⟨hheads, -, hcounted, hfit⟩ := nothing_violated "é'\\x41'1."
  have hsize : "é'\\x41'1.".utf8ByteSize < sizeLimit := by decide
  refine ⟨?_, ?_, ?_, ?_⟩
  · have hreset : (Cursor.start "é'\\x41'1.").reset ⟨2, 70, 9⟩ =
        .ok ⟨"é'\\x41'1.", ['\'', '\\', 'x', '4', '1', '\'', '1', '.'], ⟨2, 70, 9⟩⟩ := by
      decide +kernel
    have hreach := reachable_iff.2 ⟨.of_reset hreset, Cursor.text_of_reset hreset⟩
    obtain ⟨token, later, hread, hhead⟩ := (hheads _ hreach).2.2.2.1 (.quoted none)
    have hquoted : Cursor.read (.quoted none)
        ⟨"é'\\x41'1.", ['\'', '\\', 'x', '4', '1', '\'', '1', '.'], ⟨2, 70, 9⟩⟩ =
          .ok (some ⟨"'\\x41'", ⟨2, 70, 9⟩, ⟨8, 70, 15⟩⟩,
            ⟨"é'\\x41'1.", ['1', '.'], ⟨8, 70, 15⟩⟩) := by decide +kernel
    cases hquoted.symm.trans hread
    exact ⟨_, _, _, (hheads _ .start).2.2.1 _ _ hreset, hhead, rfl, rfl, rfl⟩
  · have hto : (Cursor.start "é'\\x41'1.").advanceTo 8 =
        .ok ⟨"é'\\x41'1.", ['1', '.'], ⟨8, 1, 8⟩⟩ := by decide +kernel
    exact ⟨_, (hheads _ .start).2.1 _ _ hto, rfl⟩
  · have hrun : (Operation.advance 7).run (.start "é'\\x41'1.") =
        .ok (.done, Cursor.advanceBy 7 (.start "é'\\x41'1.")) := rfl
    have hvisited : Visited "é'\\x41'1." _ := .run .start (fun p h => by cases h) hrun
    exact ⟨_, hvisited, by decide +kernel, (hcounted _ hvisited).2.2,
      ((hfit hsize).1 _ hvisited).2.2 3⟩
  · refine (hfit hsize).2 _ fun st hst => ?_
    simp only [List.mem_cons, List.not_mem_nil, or_false] at hst
    rcases hst with rfl | rfl | rfl | rfl
    · exact fun p h => by cases h
    · trivial
    · exact fun p h => by cases h
    · trivial

end LexSpan
