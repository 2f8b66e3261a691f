import LexSpan.Proofs.NextLexeme
import LexSpan.Proofs.StepwiseReading
import Mathlib.Data.List.Basic

/-!
# The order of the attempts

A lexeme is found by attempts at the kinds, one after the other. Here the attempts are made by a cursor
that moves on as long as a kind fits and gives back what it took where it does not, and each attempt
starts where the one before has left the cursor: `tryInTurn`. `nextStepwise` looks for a quote first,
and then tries the other kinds in a fixed order.

Main statement (`order_of_attempts`): before the end of a text, at most one of the five kinds other
than symbol fits, so in whatever order they are tried, with symbols last, they come to the same
lexeme or the same error and leave the same cursor. The kind is that of the character under the cursor
(`Kind.ofChar`). It rests on the classes of characters being apart (`Kind.opens_iff`) and on every
attempt that fails leaving the cursor where it was (`tryKind_eq`).
-/

namespace LexSpan

namespace Cursor

/-- What a scan for a quoted string at a cursor says to one who reads lexemes. -/
def lexemeOfFound (c : Cursor) : Except QuoteFailure Token → Except LexError (Option Lexeme)
  | .ok token => .ok (some ⟨token, .string⟩)
  | .error (.invalidEscape p) => .error ⟨.invalidEscape, p⟩
  | .error _ => .error ⟨.unterminatedString, c.position⟩

/-- Reads the string that a quote under the cursor opens. -/
def readString (c : Cursor) : Except Fault (Except LexError (Option Lexeme) × Cursor) :=
  (c.scanQuoted none).map fun (found, later) => (c.lexemeOfFound found, later)

/-- Tries to read a lexeme by the shape of its kind. -/
def tryShape (kind : Kind) (c : Cursor) : Except Fault (Except LexError (Option Lexeme) × Cursor) :=
  (c.readStepwise kind.shape).map fun (token, later) =>
    (.ok (token.map fun token => ⟨token, kind⟩), later)

/-- Tries to read a lexeme of a kind. Without a quote there is no string to be read. -/
def tryKind (c : Cursor) : Kind → Except Fault (Except LexError (Option Lexeme) × Cursor)
  | .string => (c.scanQuoted none).map fun
    | (.error .noOpeningQuote, later) => (.ok none, later)
    | (found, later) => (c.lexemeOfFound found, later)
  | kind => c.tryShape kind

/-- Tries kinds in turn, each from where the one before has left the cursor. -/
def tryInTurn : List Kind → Cursor → Except Fault (Except LexError (Option Lexeme) × Cursor)
  | [], c => .ok (.ok none, c)
  | kind :: kinds, c =>
    match c.tryKind kind with
    | .ok (.ok none, later) => tryInTurn kinds later
    | outcome => outcome

/-- Reads the next lexeme: a string if there is a quote, and else whatever fits first. -/
def nextStepwise (c : Cursor) : Except Fault (Except LexError (Option Lexeme) × Cursor) :=
  if c.matchesChar '"' || c.matchesChar '\'' then c.readString
  else c.tryInTurn [.whiteSpace, .newLine, .identifier, .number, .symbol]

/-- An outcome with the cursor that it leaves. Without a lexeme that is the cursor itself. -/
def settled (c : Cursor) :
    Except Stop (Option (Lexeme × Cursor)) → Except Fault (Except LexError (Option Lexeme) × Cursor)
  | .error (.fault fault) => .error fault
  | .error (.malformed e) => .ok (.error e, c)
  | .ok none => .ok (.ok none, c)
  | .ok (some (lexeme, later)) => .ok (.ok (some lexeme), later)

variable {c : Cursor} {q : Quote} {ch : Char} {cs : List Char} {kinds : List Kind}

/-! ## Attempts -/

theorem tryShape_eq (hv : c.Valid) (kind : Kind) :
    c.tryShape kind = c.settled (c.readAs kind) := by
  rw [tryShape, readStepwise_eq_read hv, readAs]
  rcases read_cases hv kind.shape with h | ⟨_, _, -, -, h⟩ <;>
  · rw [h]
    rfl

/-- An attempt by moving on finds what the attempt finds, and leaves the cursor if that is nothing. -/
theorem tryKind_eq (hv : c.Valid) (kind : Kind) : c.tryKind kind = c.settled (c.attempt kind) := by
  cases kind with
  | string =>
    rw [attempt_string_eq_scanQuoted hv, tryKind, scanQuoted_eq hv]
    rcases Quoted.extent none c.rest with (_ | _ | n) | n
    · rfl
    · rfl
    · rw [ofExtent]
      cases c.advanceTo (c.offset + n) <;> rfl
    · rw [ofExtent]
      cases c.advanceTo (c.offset + n) <;> rfl
  | _ =>
    rw [attempt, if_neg (by decide)]
    exact tryShape_eq hv _

theorem tryInTurn_eq (hv : c.Valid) (kinds : List Kind) :
    c.tryInTurn kinds = c.settled (c.next kinds) := by
  induction kinds with
  | nil => rfl
  | cons kind kinds ih =>
    rw [tryInTurn, next, tryKind_eq hv]
    rcases c.attempt kind with (e | fault) | _ | ⟨lexeme, later⟩
    · rfl
    · rfl
    · exact ih
    · rfl

/-! ## What the current character decides -/

/-- A kind other than that of the current character reads nothing. -/
theorem read_of_ne_ofChar {k : Kind} (hc : c.rest = ch :: cs) (hs : k ≠ .symbol)
    (h : Kind.ofChar ch ≠ k) : c.read k.shape = .ok (none, c) := by
  have hopens : k.opens ch = false := Bool.eq_false_iff.2 (mt Kind.opens_iff.1 h)
  exact read_eq_none (by rw [hc, extent?_of_not_opens cs hs hopens])

/-- The attempt at the kind of the current character finds a lexeme, or a string that is malformed. -/
theorem attempt_ofChar (hv : c.Valid) (hc : c.rest = ch :: cs) :
    (∃ others bs, c.rest = (ch :: others) ++ bs ∧ c.attempt (Kind.ofChar ch) =
      .ok (some (c.lexeme (Kind.ofChar ch) (ch :: others), advanceBy (others.length + 1) c))) ∨
    Kind.ofChar ch = .string ∧ ∃ e, c.attempt (Kind.ofChar ch) = .error (.malformed e) := by
  rcases next_cases hv with ⟨hnil, -⟩ | ⟨k, w, bs, hw, ht, he, -⟩ | ⟨q, body, -, hq, hno, -, -⟩
  · rw [hnil] at hc
    cases hc
  · obtain ⟨first, others, rfl, hopens⟩ := ht.opens
    obtain ⟨rfl, -⟩ := List.cons_eq_cons.1 (hc.symm.trans hw)
    obtain rfl := Kind.opens_iff.1 hopens
    exact .inl ⟨others, bs, hw, attempt_of_isText hv hw ht he⟩
  · obtain ⟨rfl, -⟩ := List.cons_eq_cons.1 (hc.symm.trans hq)
    obtain ⟨e, -, he⟩ := attempt_string_of_no_literal hv hq hno
    exact .inr ⟨Kind.ofChar_quote q, e, (Kind.ofChar_quote q).symm ▸ he⟩

theorem attempt_ofChar_ne_none (hv : c.Valid) (hc : c.rest = ch :: cs) :
    c.attempt (Kind.ofChar ch) ≠ .ok none := by
  rcases attempt_ofChar hv hc with ⟨others, bs, -, he⟩ | ⟨-, e, he⟩
  · rw [he]
    exact fun h => by cases h
  · rw [he]
    exact fun h => by cases h

/-- In whatever order the kinds are tried, the one of the current character decides. -/
theorem next_eq_attempt (hv : c.Valid) (hc : c.rest = ch :: cs)
    (hkinds : kinds.Perm [.whiteSpace, .newLine, .identifier, .number, .string]) :
    c.next (kinds ++ [.symbol]) = c.attempt (Kind.ofChar ch) := by
  have hmem : ∀ k : Kind, k ≠ .symbol → k ∈ kinds := fun k hk => by
    rw [hkinds.mem_iff]
    cases k <;> simp_all
  have hsymbol : Kind.symbol ∉ kinds := by
    rw [hkinds.mem_iff]
    decide
  exact next_of_opens hmem hsymbol hc (Kind.opens_ofChar ch) (attempt_ofChar_ne_none hv hc)

theorem next_order_eq (hv : c.Valid) (hc : c.rest = ch :: cs) :
    c.next Kind.order = c.attempt (Kind.ofChar ch) := by
  have hperm : [Kind.string, .whiteSpace, .newLine, .identifier, .number].Perm
      [.whiteSpace, .newLine, .identifier, .number, .string] := by decide
  exact next_eq_attempt hv hc hperm

/-! ## A quote is looked for first -/

theorem matchesQuote_iff (hc : c.rest = ch :: cs) :
    (c.matchesChar '"' || c.matchesChar '\'') = true ↔ ∃ q : Quote, ch = q.char := by
  have hmatch := matchesChar_of_rest hc
  rw [Bool.or_eq_true, hmatch, hmatch]
  constructor
  · rintro (rfl | rfl)
    · exact ⟨.double, rfl⟩
    · exact ⟨.single, rfl⟩
  · rintro ⟨_ | _, rfl⟩
    · exact .inr rfl
    · exact .inl rfl

/-- Where there is a quote, the reading of a string is the attempt at one. -/
theorem readString_eq (hv : c.Valid) (hc : c.rest = q.char :: cs) :
    c.readString = c.tryKind .string := by
  have hscan : c.scanQuoted none = c.scanAfter q cs := scanQuoted_of_quote hc (.inl rfl)
  rw [readString, tryKind, hscan]
  rcases h : c.scanAfter q cs with fault | ⟨(_ | _ | p) | token, later⟩
  · rfl
  · exact absurd h (scanAfter_ne_noOpeningQuote hv hc)
  · rfl
  · rfl
  · rfl

/-- Looking for a quote first comes to the attempts in the order in which they are made. -/
theorem nextStepwise_eq (hv : c.Valid) (hc : c.rest = ch :: cs) :
    c.nextStepwise = c.settled (c.next Kind.order) := by
  by_cases hquote : ∃ q : Quote, ch = q.char
  · obtain ⟨q, rfl⟩ := hquote
    rw [nextStepwise, if_pos ((matchesQuote_iff hc).2 ⟨q, rfl⟩), readString_eq hv hc,
      tryKind_eq hv, next_order_eq hv hc, Kind.ofChar_quote]
  · have hstring : Kind.string.opens ch = false :=
      Bool.eq_false_iff.2 (mt Kind.string_opens_iff.1 hquote)
    have hnone : ∀ k ∈ [Kind.string], c.attempt k = .ok none := fun k hk => by
      rw [List.mem_singleton.1 hk]
      exact attempt_of_not_opens hc (by decide) hstring
    have horder : c.next Kind.order =
        c.next [.whiteSpace, .newLine, .identifier, .number, .symbol] := next_append _ hnone
    rw [nextStepwise, if_neg (mt (matchesQuote_iff hc).1 hquote), tryInTurn_eq hv, horder]

end Cursor

variable {text : String} {c : Cursor}

theorem order_of_attempts (h : Reachable text c) (hend : c.atEnd = false) :
    (∀ k : Kind, k ≠ .symbol → c.readStepwise k.shape = c.read k.shape ∧
      (c.read k.shape = .ok (none, c) ∨
        ∃ token later, c.read k.shape = .ok (some token, later))) ∧
    (∀ k k' : Kind, k ≠ .symbol → k' ≠ .symbol → k ≠ k' →
      c.read k.shape = .ok (none, c) ∨ c.read k'.shape = .ok (none, c)) ∧
    (∀ q : Quote, c.current = some q.char → ∀ k : Kind, k ≠ .symbol → k ≠ .string →
      c.read k.shape = .ok (none, c)) ∧
    c.tryInTurn [.whiteSpace, .newLine, .identifier, .number, .string, .symbol] = c.nextStepwise ∧
    (∀ kinds : List Kind, kinds.Perm [.whiteSpace, .newLine, .identifier, .number, .string] →
      c.tryInTurn (kinds ++ [.symbol]) = c.nextStepwise ∧
      c.next (kinds ++ [.symbol]) = c.next Kind.order) ∧
    c.nextStepwise = c.settled (c.next Kind.order) ∧
    ∀ ch, c.current = some ch →
      (∃ lexeme later, c.nextStepwise = .ok (.ok (some lexeme), later) ∧
        lexeme.text.toList.head? = some ch ∧ lexeme.kind = Kind.ofChar ch) ∨
      Kind.ofChar ch = .string ∧ ∃ e, c.nextStepwise = .ok (.error e, c) := by
  have hv := h.valid
  obtain ⟨ch, cs, hc⟩ : ∃ ch cs, c.rest = ch :: cs := by
    cases hr : c.rest with
    | nil => simp [Cursor.atEnd, hr] at hend
    | cons ch cs => exact ⟨ch, cs, rfl⟩
  have hcurrent : c.current = some ch := by rw [Cursor.current, hc, List.head?_cons]
  have hstepwise := Cursor.nextStepwise_eq hv hc
  have horder := Cursor.next_order_eq hv hc
  have hturn : ∀ kinds : List Kind,
      kinds.Perm [.whiteSpace, .newLine, .identifier, .number, .string] →
      c.tryInTurn (kinds ++ [.symbol]) = c.nextStepwise := fun kinds hkinds => by
    rw [Cursor.tryInTurn_eq hv, Cursor.next_eq_attempt hv hc hkinds, hstepwise, horder]
  refine ⟨fun k _ => ⟨Cursor.readStepwise_eq_read hv _, ?_⟩, fun k k' hs hs' hne => ?_,
    fun q hq k hs hk => ?_, hturn _ (.refl _), fun kinds hkinds => ⟨hturn kinds hkinds, ?_⟩, hstepwise,
    fun ch' hch' => ?_⟩
  · rcases Cursor.read_cases hv k.shape with hnone | ⟨_, _, -, -, hsome⟩
    · exact .inl hnone
    · exact .inr ⟨_, _, hsome⟩
  · by_cases hk : Kind.ofChar ch = k
    · exact .inr (Cursor.read_of_ne_ofChar hc hs' (hk ▸ hne))
    · exact .inl (Cursor.read_of_ne_ofChar hc hs hk)
  · obtain rfl : q.char = ch := Option.some.inj (hq.symm.trans hcurrent)
    exact Cursor.read_of_ne_ofChar hc hs ((Kind.ofChar_quote q).trans_ne (Ne.symm hk))
  · rw [Cursor.next_eq_attempt hv hc hkinds, horder]
  · obtain rfl : ch = ch' := Option.some.inj (hcurrent.symm.trans hch')
    rw [hstepwise, horder]
    rcases Cursor.attempt_ofChar hv hc with ⟨others, bs, -, he⟩ | ⟨hstring, e, he⟩
    · refine .inl ⟨_, _, by rw [he]; rfl, ?_, rfl⟩
      rw [Cursor.lexeme, String.toList_ofList, List.head?_cons]
    · exact .inr ⟨hstring, e, by rw [he]; rfl⟩

/-- A string that is tried among the last, and does not close; and a line separator, which is tried
behind four kinds and is no blank of ASCII. -/
theorem order_of_attempts_unclosed_string :
    ((Cursor.start "'\n1").atEnd = false ∧
      (Cursor.start "'\n1").tryInTurn [.whiteSpace, .newLine, .identifier, .number, .string, .symbol] =
        .ok (.error ⟨.unterminatedString, ⟨0, 1, 1⟩⟩, .start "'\n1") ∧
      (Cursor.start "'\n1").read Kind.newLine.shape = .ok (none, .start "'\n1")) ∧
    (Cursor.start "\u2028x").tryInTurn [.string, .number, .identifier, .whiteSpace, .newLine, .symbol] =
      .ok (.ok (some ⟨⟨"\u2028", ⟨0, 1, 1⟩, ⟨3, 1, 2⟩⟩, .newLine⟩), ⟨"\u2028x", ['x'], ⟨3, 1, 2⟩⟩) := by
  constructor
  · have hend : (Cursor.start "'\n1").atEnd = false := by decide
    have hnext : (Cursor.start "'\n1").next Kind.order =
        .error (.malformed ⟨.unterminatedString, ⟨0, 1, 1⟩⟩) := by decide +kernel
    obtain ⟨-, -, hquote, hdocumented, -, hsettled, -⟩ := order_of_attempts .start hend
    refine ⟨hend, ?_, hquote .single (by decide) .newLine (by decide) (by decide)⟩
    rw [hdocumented, hsettled, hnext]
    rfl
  · have hnext : (Cursor.start "\u2028x").next Kind.order =
        .ok (some (⟨⟨"\u2028", ⟨0, 1, 1⟩, ⟨3, 1, 2⟩⟩, .newLine⟩, ⟨"\u2028x", ['x'], ⟨3, 1, 2⟩⟩)) := by
      decide +kernel
    obtain ⟨-, -, -, -, hturn, hsettled, -⟩ :=
      order_of_attempts (.start : Reachable "\u2028x" _) (by decide)
    have hperm : [Kind.string, .number, .identifier, .whiteSpace, .newLine].Perm
        [.whiteSpace, .newLine, .identifier, .number, .string] := by decide
    refine (hturn _ hperm).1.trans ?_
    rw [hsettled, hnext]
    rfl

end LexSpan
