import LexSpan.Proofs.LexingRun

/-!
# Where and why splitting fails

Splitting a text gets stuck (`StuckAt`) behind lexemes that tile what was passed, in front of a
quote that opens no literal. Main statement (`tokenize_fails_exactly`): this is the only way in which
it fails; the error is the bad escape behind the quote if the quote stands there once more, and
otherwise that the string does not end; and its position is that of the backslash or of the quote,
as counted by a cursor that goes there character by character.
-/

namespace LexSpan

open Quoted

/-- The lexemes of a text tile its part `u`, and the quote behind it opens no literal. -/
structure StuckAt (text : String) (u : List Char) (q : Quote) (body : List Char) : Prop where
  text_eq : text.toList = u ++ q.char :: body
  chars_eq : charsOf (Lexing.ofText text).lexemes = u
  tiles : Tiles .start (Lexing.ofText text).lexemes (Cursor.advanceBy u.length (.start text)).position
  not_literal : ∀ w, w <+: q.char :: body → ¬ IsLiteral q w

/-- A position in a text, between `before` and the character `ch`. -/
structure Marks (text : String) (before : List Char) (ch : Char) (p : Position) : Prop where
  text_eq : ∃ after, text.toList = before ++ ch :: after
  advance_eq : (Cursor.advanceBy before.length (.start text)).position = p
  offset_eq : p.offset = Utf8.length before
  boundary : Utf8.isBoundary p.offset text.toList = true
  inside : p.offset < text.utf8ByteSize

/-- Splitting a text fails with an error at the character `ch` behind `before`. -/
def FailsAt (text : String) (options : Options) (kind : Malformation) (before : List Char)
    (ch : Char) : Prop :=
  ∃ p, tokenize text options = .error (.malformed ⟨kind, p⟩) ∧ Marks text before ch p

variable {text : String} {options : Options} {u body : List Char} {q : Quote}

theorem marks_advanceBy {before after : List Char} {ch : Char}
    (h : text.toList = before ++ ch :: after) :
    Marks text before ch (Cursor.advanceBy before.length (.start text)).position := by
  have hoffset : (Cursor.advanceBy before.length (.start text)).offset = Utf8.length before := by
    rw [Cursor.offset_advanceBy (show (Cursor.start text).rest = _ from h)]
    exact Nat.zero_add _
  have hpos := ch.utf8Size_pos
  refine ⟨⟨after, h⟩, rfl, hoffset, Utf8.isBoundary_iff.2 ⟨before, _, h, hoffset.symm⟩, ?_⟩
  show (Cursor.advanceBy before.length (.start text)).offset < _
  rw [hoffset, Utf8.utf8ByteSize_eq, h, Utf8.length_append, Utf8.length_cons]
  omega

/-- What splitting answers where it is stuck. -/
theorem StuckAt.exists_diagnosis (h : StuckAt text u q body) (options : Options) :
    ∃ e, (Cursor.advanceBy u.length (.start text)).Diagnosis q body e ∧
      tokenize text options = .error (.malformed e) := by
  obtain ⟨last, hreads, hend⟩ := exists_reads_ofText text
  have hlast := hreads.eq_advanceBy (Cursor.valid_start text)
  have hrest : text.toList = charsOf (Lexing.ofText text).lexemes ++ last.rest :=
    hreads.rest_eq (Cursor.valid_start text)
  rw [h.chars_eq] at hlast hrest
  have hquote : q.char :: body = last.rest := List.append_cancel_left (h.text_eq.symm.trans hrest)
  rcases hend with hnil | ⟨q', body', e, hrest', -, hdiagnosis, herror⟩
  · rw [hnil] at hquote
    cases hquote
  · obtain ⟨hchar, rfl⟩ := List.cons_eq_cons.1 (hquote.trans hrest')
    obtain rfl := Quote.eq_of_char_eq hchar
    exact ⟨e, hlast ▸ hdiagnosis, tokenize_of_error hreads herror⟩

/-- Splitting that fails is stuck somewhere. -/
theorem exists_stuckAt {stop : Stop} (h : tokenize text options = .error stop) :
    ∃ u q body, StuckAt text u q body := by
  obtain ⟨last, hreads, hend | ⟨q, body, e, hrest, hno, -, -⟩⟩ := exists_reads_ofText text
  · rw [tokenize_of_atEnd hreads hend] at h
    cases h
  · have hv := Cursor.valid_start text
    have htiles := hreads.tiles hv
    rw [hreads.eq_advanceBy hv] at htiles
    refine ⟨_, q, body, ?_, rfl, htiles, hrest ▸ hno⟩
    rw [← hrest]
    exact hreads.rest_eq hv

theorem StuckAt.failsAt_backslash (h : StuckAt text u q body) {items : List Char}
    (hmem : q.char ∈ body) (hbad : BadEscapeAfter q items body) :
    FailsAt text options .invalidEscape (u ++ q.char :: items) '\\' := by
  obtain ⟨e, hdiagnosis, herror⟩ := h.exists_diagnosis options
  cases hdiagnosis with
  | unterminated hno => exact absurd ⟨hmem, items, hbad⟩ hno
  | invalidEscape _ hbad' =>
    obtain rfl := hbad.eq hbad'
    obtain ⟨-, rest, hbody, hhead, -⟩ := hbad
    obtain ⟨after, rfl⟩ := List.head?_eq_some_iff.1 hhead
    have htext : text.toList = (u ++ q.char :: items) ++ '\\' :: after := by
      rw [h.text_eq, hbody, List.append_assoc, List.cons_append]
    refine ⟨_, ?_, marks_advanceBy htext⟩
    rw [herror, ← Cursor.advanceBy_add, List.length_append, List.length_cons,
      Nat.add_comm 1 items.length]

theorem StuckAt.failsAt_quote (h : StuckAt text u q body)
    (hno : ¬ (q.char ∈ body ∧ ∃ items, BadEscapeAfter q items body)) :
    FailsAt text options .unterminatedString u q.char := by
  obtain ⟨e, hdiagnosis, herror⟩ := h.exists_diagnosis options
  cases hdiagnosis with
  | unterminated => exact ⟨_, herror, marks_advanceBy h.text_eq⟩
  | invalidEscape hmem hbad => exact absurd ⟨hmem, _, hbad⟩ hno

theorem tokenize_fails_exactly (text : String) (options : Options) :
    ((∃ stop, tokenize text options = .error stop) ↔ ∃ u q body, StuckAt text u q body) ∧
    ∀ u q body, StuckAt text u q body →
      (∀ items, q.char ∈ body → BadEscapeAfter q items body →
        FailsAt text options .invalidEscape (u ++ q.char :: items) '\\') ∧
      (¬ (q.char ∈ body ∧ ∃ items, BadEscapeAfter q items body) →
        FailsAt text options .unterminatedString u q.char) := by
  refine ⟨⟨fun ⟨stop, h⟩ => exists_stuckAt h, ?_⟩, fun u q body h => ⟨?_, h.failsAt_quote⟩⟩
  · rintro ⟨u, q, body, h⟩
    obtain ⟨e, -, herror⟩ := h.exists_diagnosis options
    exact ⟨_, herror⟩
  · exact fun items => h.failsAt_backslash

/-- A failure is where the lexemes end. -/
theorem StuckAt.of_error {stop : Stop} (h : tokenize text options = .error stop)
    (hu : charsOf (Lexing.ofText text).lexemes = u) (htext : text.toList = u ++ q.char :: body) :
    StuckAt text u q body := by
  obtain ⟨u', q', body', hstuck⟩ := exists_stuckAt h
  obtain rfl : u = u' := hu.symm.trans hstuck.chars_eq
  obtain ⟨hchar, rfl⟩ :=
    List.cons_eq_cons.1 (List.append_cancel_left (htext.symm.trans hstuck.text_eq))
  obtain rfl := Quote.eq_of_char_eq hchar
  exact hstuck

/-- The same bad escape, with and without another quote behind it. -/
theorem tokenize_fails_exactly_bad_escape :
    FailsAt "\n'\\q'" {} .invalidEscape ['\n', '\''] '\\' ∧
      FailsAt "\n'\\q" {} .unterminatedString ['\n'] '\'' := by
  have herror : ∀ text, (tokenize text).isOk = false → ∃ stop, tokenize text = .error stop :=
    fun text h => by
      cases htokens : tokenize text with
      | error stop => exact ⟨stop, rfl⟩
      | ok lexemes => rw [htokens] at h; cases h
  have hbad : ∀ cs, BadEscapeAfter .single [] ('\\' :: 'q' :: cs) := fun cs => by
    refine ⟨.nil, _, rfl, rfl, fun w ⟨bs, hw⟩ hescape => ?_⟩
    cases hescape <;> simp_all
  constructor
  · obtain ⟨stop, h⟩ := herror "\n'\\q'" (by decide +kernel)
    have hstuck : StuckAt "\n'\\q'" ['\n'] .single ['\\', 'q', '\''] :=
      .of_error h (by decide +kernel) rfl
    exact ((tokenize_fails_exactly _ _).2 _ _ _ hstuck).1 [] (by decide) (hbad _)
  · obtain ⟨stop, h⟩ := herror "\n'\\q" (by decide +kernel)
    have hstuck : StuckAt "\n'\\q" ['\n'] .single ['\\', 'q'] :=
      .of_error h (by decide +kernel) rfl
    exact ((tokenize_fails_exactly _ _).2 _ _ _ hstuck).2 fun ⟨hmem, _⟩ => absurd hmem (by decide)

end LexSpan
