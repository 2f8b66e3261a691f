import LexSpan.Proofs.Parallel

/-!
# More text behind a text

How the lexemes of a text `s` and its errors fare in a longer text `s ++ t`. The two starts are
parallel, so a run over `s` whose last lexeme is settled is a run over `s ++ t` as well
(`Reads.append_more`), and lexemes and errors of the longer text follow it (`Reads.isPrefix`,
`Reads.offset_le_of_error`). What is left to say is how much of `s` such a run covers: all but the
last lexeme, or the last two (`Reads.exists_settled`); up to the quote where `s` fails.

Main statement (`tokenize_append`): settled lexemes stay, an error of the longer text does not lie
before them, and a bad escape that is bad whatever follows stays as it is.
-/

namespace LexSpan

open Quoted

/-- Whether lexemes end in a number without a fraction and a point: a digit behind them would make
the two one number. -/
def EndsInPoint (lexemes : List Lexeme) : Prop :=
  ∃ front number point, lexemes = front ++ [number, point] ∧ number.kind = .number ∧
    '.' ∉ number.text.toList ∧ point.kind = .symbol ∧ point.text = "."

/-- Whether a text ends inside the escape that it starts with, so that more text could make it a
legal one. -/
def Quoted.CutEscape (cs : List Char) : Prop := ∃ w, Escape w ∧ cs <+: w

variable {s t : String} {c d last : Cursor} {front lexemes : List Lexeme} {options : Options}
  {stop : Stop} {cs : List Char} {q : Quote}

/-! ## Runs over a longer text -/

theorem parallel_append (s t : String) :
    (Cursor.start s).Parallel (· = ·) t.toList (.start (s ++ t)) where
  valid := Cursor.valid_start s
  valid_other := Cursor.valid_start (s ++ t)
  rest_eq := String.toList_append
  position := rfl

theorem Reads.append_more (h : Reads (.start s) lexemes d) (hd : Settled lexemes d.rest)
    (t : String) : ∃ d', Reads (.start (s ++ t)) lexemes d' ∧ d.Parallel (· = ·) t.toList d' := by
  obtain ⟨lexemes', d', hreads, hlexemes, hd'⟩ :=
    (parallel_append s t).reads stepsTogether_eq h (.inl hd)
  have heq : lexemes' = lexemes := by
    rw [Lexeme.eq_map_of_parallel (f := id) (fun _ _ h => h.symm) hlexemes]
    exact List.map_id _
  exact ⟨d', heq ▸ hreads, hd'⟩

/-- The lexemes of a whole text start with those of every run from its start. -/
theorem Reads.isPrefix {text : String} {all : List Lexeme} (h : Reads (.start text) lexemes d)
    (hall : tokenize text = .ok all) : lexemes <+: all := by
  obtain ⟨last, hlast, hend⟩ := tokenize_eq_ok_iff.1 hall
  have hlexing := ofCursor_of_reads h
  rw [ofCursor_of_reads hlast, ofCursor_of_none (Cursor.next_of_atEnd hend), List.append_nil]
    at hlexing
  exact ⟨_, (congrArg Lexing.lexemes hlexing).symm⟩

theorem Cursor.Diagnosis.offset_le {body : List Char} {e : LexError} (h : c.Diagnosis q body e) :
    c.offset ≤ e.position.offset := by
  cases h with
  | invalidEscape => exact (Ahead.advanceBy _ c).offset_le
  | unterminated => exact Nat.le_refl _

/-- If a text fails, it does so at a quote behind every run from its start. -/
theorem Reads.exists_of_error {text : String} (h : Reads (.start text) lexemes d)
    (herror : tokenize text options = .error stop) :
    ∃ others f q body e, Reads d others f ∧ f.rest = Quote.char q :: body ∧
      stop = .malformed e ∧ f.offset ≤ e.position.offset := by
  rw [tokenize_eq_error_iff, Lexing.ofText, ofCursor_of_reads h] at herror
  obtain ⟨f, hreads, hend⟩ := exists_reads d
  rcases hend with ⟨-, hnone⟩ | ⟨stop', hnext, hstop⟩
  · rw [hnone] at herror
    cases herror
  · rw [hstop, Option.some.injEq] at herror
    subst herror
    have hv := hreads.valid (h.valid (Cursor.valid_start text))
    rcases Cursor.next_cases hv with ⟨-, he⟩ | ⟨k, w, bs, -, -, -, he⟩ |
      ⟨q, body, e, hf, -, hdiagnosis, he⟩
    · rw [hnext] at he
      cases he
    · rw [hnext] at he
      cases he
    · rw [hnext] at he
      cases he
      exact ⟨_, f, q, body, e, hreads, hf, rfl, hdiagnosis.offset_le⟩

/-- A run and what is left behind it make up the text. -/
theorem Reads.utf8ByteSize_eq (h : Reads (.start s) lexemes d) :
    s.utf8ByteSize = d.offset + Utf8.length d.rest := by
  rw [← (h.valid (Cursor.valid_start s)).utf8ByteSize_eq, h.text_eq]

theorem Reads.offset_le_of_error {text : String} (h : Reads (.start text) lexemes d)
    (herror : tokenize text options = .error stop) :
    ∃ e, stop = .malformed e ∧ d.offset ≤ e.position.offset := by
  obtain ⟨others, f, q, body, e, hreads, -, hstop, hle⟩ := h.exists_of_error herror
  exact ⟨e, hstop, Nat.le_trans (hreads.ahead (h.valid (Cursor.valid_start text))).offset_le hle⟩

/-! ## How much of a text is settled -/

theorem charsOf_ne_nil (h : ∀ lexeme ∈ lexemes, lexeme.kind.IsText lexeme.text.toList)
    (hne : lexemes ≠ []) : charsOf lexemes ≠ [] := by
  obtain ⟨lexeme, others, rfl⟩ := List.exists_cons_of_ne_nil hne
  rw [charsOf_cons]
  exact List.append_ne_nil_of_left_ne_nil (h lexeme List.mem_cons_self).ne_nil _

/-- The lexemes in front of the last one of a text are settled, unless a number and a point are the
last two; those in front of the last two always are. -/
theorem Reads.exists_settled {back : List Lexeme} (h : Reads c (front ++ back) last)
    (hv : c.Valid) (hend : last.rest = []) (hback : back ≠ [])
    (hlong : 1 < back.length ∨ ¬ EndsInPoint (front ++ back)) :
    ∃ d, Reads c front d ∧ Reads d back last ∧ d.rest = charsOf back ∧ Settled front d.rest := by
  obtain ⟨d, hfront, hs⟩ := Reads.append_iff.1 h
  have hd := hs.rest_eq (hfront.valid hv)
  rw [hend, List.append_nil] at hd
  have htexts := hs.isText (hfront.valid hv)
  refine ⟨d, hfront, hs, hd, hd ▸ charsOf_ne_nil htexts hback, ?_⟩
  rintro number hnumber ⟨hkind, hdot, hpoint⟩
  obtain ⟨front, rfl⟩ := List.getLast?_eq_some_iff.1 hnumber
  obtain ⟨point, others, rfl⟩ := List.exists_cons_of_ne_nil hback
  obtain ⟨ch, cs, htext, hopens⟩ := (htexts point List.mem_cons_self).opens
  rw [hd, charsOf_cons, htext, List.cons_append, List.cons_eq_cons, List.append_eq_nil_iff] at hpoint
  obtain ⟨rfl, rfl, hothers⟩ := hpoint
  have hnil : others = [] := Classical.byContradiction fun hne =>
    charsOf_ne_nil (fun l hl => htexts l (List.mem_cons_of_mem _ hl)) hne hothers
  subst hnil
  rcases hlong with hlong | hno
  · exact absurd hlong (Nat.lt_irrefl 1)
  · refine hno ⟨front, number, point, List.append_assoc .., hkind, hdot, ?_, String.toList_inj.1 htext⟩
    exact Kind.eq_symbol_of_opens_point hopens

/-- Quotes stand in strings only. -/
theorem Kind.IsText.quote_not_mem {k : Kind} {w : List Char} (h : k.IsText w) (hk : k ≠ .string)
    (q : Quote) : q.char ∉ w :=
  h.not_mem_of_opens hk (string_opens_iff.2 ⟨q, rfl⟩) hk (by decide) (by cases k <;> rfl)

/-! ## Errors behind a text, and errors in it -/

/-- An error of a longer text lies behind what is settled of the shorter one, and behind all of that
one if no quote is among the rest. -/
theorem Reads.le_offset_of_no_quote (h : Reads (.start s) front d) (hd : Settled front d.rest)
    (hno : ∀ q : Quote, q.char ∉ d.rest) (herror : tokenize (s ++ t) options = .error stop) :
    ∃ e, stop = .malformed e ∧ s.utf8ByteSize ≤ e.position.offset := by
  obtain ⟨d', hreads, hparallel⟩ := h.append_more hd t
  obtain ⟨others, f, q, body, e, hs, hf, hstop, hle⟩ := hreads.exists_of_error herror
  refine ⟨e, hstop, Nat.le_trans ?_ hle⟩
  have hrest := hs.rest_eq hparallel.valid_other
  have hchars := hparallel.rest_eq.symm.trans (hrest.trans (congrArg (_ ++ ·) hf))
  -- the quote stands behind the rest of `s`, as it is not in it
  obtain ⟨gap, hgap⟩ : d.rest <+: charsOf others := by
    rcases List.append_eq_append_iff.1 hchars with ⟨gap, hgap, -⟩ | ⟨gap, hgap, hquote⟩
    · exact ⟨gap, hgap.symm⟩
    · rcases gap with _ | ⟨ch, gap⟩
      · exact ⟨[], by rw [hgap, List.append_nil, List.append_nil]⟩
      · obtain ⟨rfl, -⟩ := List.cons_eq_cons.1 hquote
        exact absurd (hgap ▸ List.mem_append_right _ List.mem_cons_self) (hno q)
  have hoffset : d.offset = d'.offset := congrArg Position.offset hparallel.position
  calc s.utf8ByteSize = d'.offset + Utf8.length d.rest := by rw [h.utf8ByteSize_eq, hoffset]
    _ ≤ d'.offset + Utf8.length (charsOf others) := by
      rw [← hgap, Utf8.length_append]
      omega
    _ = f.offset := by
      rw [hs.eq_advanceBy hparallel.valid_other, Cursor.offset_advanceBy hrest]

/-- A last lexeme that is a string is settled all the same. -/
theorem Reads.le_offset_of_string (h : Reads (.start s) front d) (hd : Settled front d.rest)
    (hstring : Kind.string.IsText d.rest) (herror : tokenize (s ++ t) options = .error stop) :
    ∃ e, stop = .malformed e ∧ s.utf8ByteSize ≤ e.position.offset := by
  obtain ⟨d', hreads, hparallel⟩ := h.append_more hd t
  have hnext := Cursor.next_of_isText hparallel.valid_other hparallel.rest_eq hstring trivial
  have hall := Reads.append_iff.2 ⟨d', hreads, .step hnext (.refl _)⟩
  obtain ⟨e, hstop, hle⟩ := hall.offset_le_of_error herror
  refine ⟨e, hstop, Nat.le_trans (Nat.le_of_eq ?_) hle⟩
  have hoffset : d.offset = d'.offset := congrArg Position.offset hparallel.position
  rw [Cursor.offset_advanceBy hparallel.rest_eq, ← hoffset, h.utf8ByteSize_eq]

/-- If a text can be split, an error of a longer one lies behind it. -/
theorem le_offset_of_tokenize (h : tokenize s = .ok lexemes)
    (herror : tokenize (s ++ t) options = .error stop) :
    ∃ e, stop = .malformed e ∧ s.utf8ByteSize ≤ e.position.offset := by
  obtain ⟨last, hreads, hend⟩ := tokenize_eq_ok_iff.1 h
  have hv := Cursor.valid_start s
  by_cases hpoint : EndsInPoint lexemes
  · obtain ⟨front, number, point, rfl, hnumber, -, hsymbol, -⟩ := hpoint
    obtain ⟨d, hfront, hs, hd, hsettled⟩ := hreads.exists_settled hv hend (by simp) (.inl (by simp))
    have htexts := hs.isText (hfront.valid hv)
    refine hfront.le_offset_of_no_quote hsettled (fun q => ?_) herror
    rw [hd, charsOf_cons, charsOf_cons, List.mem_append, List.mem_append, not_or, not_or]
    refine ⟨?_, ?_, List.not_mem_nil⟩
    · exact (htexts number (by simp)).quote_not_mem (by rw [hnumber]; decide) q
    · exact (htexts point (by simp)).quote_not_mem (by rw [hsymbol]; decide) q
  · rcases List.eq_nil_or_concat lexemes with rfl | ⟨front, lexeme, rfl⟩
    · have hnil := hreads.charsOf_eq hend
      have hsize : s.utf8ByteSize = 0 := by rw [Utf8.utf8ByteSize_eq, ← hnil]; rfl
      obtain ⟨e, hstop, -⟩ := (Reads.refl _).offset_le_of_error herror
      exact ⟨e, hstop, by omega⟩
    · rw [List.concat_eq_append] at hreads hpoint
      obtain ⟨d, hfront, hs, hd, hsettled⟩ := hreads.exists_settled hv hend (by simp) (.inr hpoint)
      have htext := hs.isText (hfront.valid hv) lexeme List.mem_cons_self
      have hchars : charsOf [lexeme] = lexeme.text.toList := List.append_nil _
      rw [hchars] at hd
      by_cases hstring : lexeme.kind = .string
      · exact hfront.le_offset_of_string hsettled (by rwa [hstring, ← hd] at htext) herror
      · exact hfront.le_offset_of_no_quote hsettled (fun q => hd ▸ htext.quote_not_mem hstring q) herror

/-- Where a text fails, in front of a quote, all lexemes are settled. -/
theorem exists_settled_of_error (h : tokenize s = .error stop) : ∃ lexemes d q body e,
    Reads (.start s) lexemes d ∧ Settled lexemes d.rest ∧ d.rest = Quote.char q :: body ∧
      d.Diagnosis q body e ∧ stop = .malformed e := by
  obtain ⟨d, hreads, hend | ⟨q, body, e, hrest, -, hdiagnosis, herror⟩⟩ := exists_reads_ofText s
  · rw [tokenize_of_atEnd hreads hend] at h
    cases h
  · rw [tokenize_of_error hreads herror, Except.error.injEq] at h
    refine ⟨_, d, q, body, e, hreads, ⟨?_, ?_⟩, hrest, hdiagnosis, h.symm⟩
    · rw [hrest]
      exact List.cons_ne_nil _ _
    · rintro number - ⟨-, -, hpoint⟩
      rw [hrest, List.cons_eq_cons] at hpoint
      cases q <;> exact absurd hpoint.1 (by decide)

namespace Quoted

theorem BadEscape.append (h : BadEscape cs) (hcut : ¬ CutEscape cs) (more : List Char) :
    BadEscape (cs ++ more) := by
  obtain ⟨rest, rfl⟩ := List.head?_eq_some_iff.1 h.1
  refine ⟨rfl, fun w hw hescape => ?_⟩
  rcases List.prefix_or_prefix_of_prefix hw (List.prefix_append _ more) with hle | hle
  · exact h.2 w hle hescape
  · exact hcut ⟨w, hescape, hle⟩

theorem BadEscapeAfter.not_isLiteral {items body : List Char} (h : BadEscapeAfter q items body) :
    ∀ w, w <+: q.char :: body → ¬ IsLiteral q w := by
  rintro _ ⟨bs, hw⟩ ⟨items', hitems', rfl⟩
  have hbody : items' ++ q.char :: bs = body := by simpa using hw
  have hend := (endOfBody_eq_ok_iff (n := 0)).2 ⟨items', bs, hitems', hbody.symm, rfl⟩
  rw [endOfBody_eq_invalidEscape_iff.2 ⟨items, h, (Nat.zero_add _).symm⟩] at hend
  cases hend

end Quoted

/-- An unterminated string may be terminated by more text, but nothing in front of it changes. -/
theorem le_offset_of_unterminated {p : Position}
    (h : tokenize s = .error (.malformed ⟨.unterminatedString, p⟩))
    (herror : tokenize (s ++ t) options = .error stop) :
    ∃ e, stop = .malformed e ∧ p.offset ≤ e.position.offset := by
  obtain ⟨lexemes, d, q, body, e, hreads, hsettled, -, hdiagnosis, hstop⟩ := exists_settled_of_error h
  cases hstop
  obtain ⟨d', hreads', hparallel⟩ := hreads.append_more hsettled t
  obtain ⟨e', hstop', hle⟩ := hreads'.offset_le_of_error herror
  have hoffset : d.offset = d'.offset := congrArg Position.offset hparallel.position
  cases hdiagnosis with
  | unterminated => exact ⟨e', hstop', Nat.le_trans (Nat.le_of_eq hoffset) hle⟩

/-- A bad escape that no text behind it can make a legal one stays the first error. -/
theorem tokenize_append_of_invalidEscape {p : Position}
    (h : tokenize s = .error (.malformed ⟨.invalidEscape, p⟩))
    (hcut : ¬ CutEscape (Utf8.drop p.offset s.toList)) :
    tokenize (s ++ t) = .error (.malformed ⟨.invalidEscape, p⟩) := by
  obtain ⟨lexemes, d, q, body, e, hreads, hsettled, hd, hdiagnosis, hstop⟩ :=
    exists_settled_of_error h
  cases hstop
  obtain ⟨d', hreads', hparallel⟩ := hreads.append_more hsettled t
  cases hdiagnosis with
  | @invalidEscape items hmem hbad =>
    obtain ⟨hitems, rest, rfl, hrest⟩ := hbad
    have hbackslash : d.rest = (q.char :: items) ++ rest := hd
    have hlength : (q.char :: items).length = 1 + items.length := Nat.add_comm ..
    -- what `s` has from the backslash on is what the cursor has in front of it there
    have hdrop := ((hreads.valid (Cursor.valid_start s)).advanceBy (1 + items.length)).drop_offset
    rw [Cursor.text_advanceBy, hreads.text_eq, ← hlength, Cursor.rest_advanceBy hbackslash, hlength]
      at hdrop
    have hbad : BadEscapeAfter q items (items ++ rest ++ t.toList) :=
      ⟨hitems, _, List.append_assoc .., hrest.append (fun h => hcut (hdrop ▸ h)) _⟩
    have hd' : d'.rest = q.char :: (items ++ rest ++ t.toList) := by rw [hparallel.rest_eq, hd]; rfl
    obtain ⟨e', hdiagnosis', herror⟩ :=
      Cursor.next_of_no_literal hparallel.valid_other hd' (hd' ▸ hbad.not_isLiteral)
    rw [tokenize_of_error hreads' herror]
    cases hdiagnosis' with
    | @invalidEscape items' _ hbad' =>
      obtain rfl := hbad.eq hbad'
      have hne : rest ≠ [] := by
        rintro rfl
        cases hrest.1
      have hlater := hparallel.advanceBy stepsTogether_eq hbackslash (.inl hne)
      rw [hlength] at hlater
      rw [← hlater.position]
    | unterminated hno =>
      exact absurd ⟨List.mem_append_left _ hmem, items, hbad⟩ hno

/-- All lexemes but the last two of a text are lexemes of a longer one, and all but the last one are
unless these two are a number and a point. -/
theorem dropLast_isPrefix {all : List Lexeme} (h : tokenize s = .ok lexemes)
    (hall : tokenize (s ++ t) = .ok all) :
    lexemes.dropLast.dropLast <+: all ∧ (¬ EndsInPoint lexemes → lexemes.dropLast <+: all) := by
  obtain ⟨last, hreads, hend⟩ := tokenize_eq_ok_iff.1 h
  have hv := Cursor.valid_start s
  have hprefix : ∀ {front back}, Reads (.start s) (front ++ back) last → back ≠ [] →
      (1 < back.length ∨ ¬ EndsInPoint (front ++ back)) → front <+: all := by
    intro front back hreads hback hlong
    obtain ⟨d, hfront, -, -, hsettled⟩ := hreads.exists_settled hv hend hback hlong
    obtain ⟨d', hreads', -⟩ := hfront.append_more hsettled t
    exact hreads'.isPrefix hall
  rcases List.eq_nil_or_concat lexemes with rfl | ⟨front, lexeme, rfl⟩
  · exact ⟨List.nil_prefix, fun _ => List.nil_prefix⟩
  rw [List.concat_eq_append] at hreads ⊢
  rw [List.dropLast_concat]
  refine ⟨?_, fun hno => hprefix hreads (List.cons_ne_nil _ _) (.inr hno)⟩
  rcases List.eq_nil_or_concat front with rfl | ⟨front, other, rfl⟩
  · exact List.nil_prefix
  · rw [List.concat_eq_append, List.append_assoc] at hreads
    rw [List.concat_eq_append, List.dropLast_concat]
    exact hprefix hreads (List.cons_ne_nil _ _) (.inl (Nat.lt_succ_self 1))

theorem tokenize_append (s t : String) :
    (∀ ts us, tokenize s = .ok ts → tokenize (s ++ t) = .ok us →
      ts.dropLast.dropLast <+: us ∧ (¬ EndsInPoint ts → ts.dropLast <+: us)) ∧
    (∀ ts stop, tokenize s = .ok ts → tokenize (s ++ t) = .error stop →
      ∃ e, stop = .malformed e ∧ s.utf8ByteSize ≤ e.position.offset) ∧
    (∀ p, tokenize s = .error (.malformed ⟨.unterminatedString, p⟩) →
      (∃ us, tokenize (s ++ t) = .ok us) ∨
        ∃ e, tokenize (s ++ t) = .error (.malformed e) ∧ p.offset ≤ e.position.offset) ∧
    ∀ p, tokenize s = .error (.malformed ⟨.invalidEscape, p⟩) →
      ¬ CutEscape (Utf8.drop p.offset s.toList) →
        tokenize (s ++ t) = .error (.malformed ⟨.invalidEscape, p⟩) := by
  refine ⟨fun ts us => dropLast_isPrefix, fun ts stop => le_offset_of_tokenize, fun p h => ?_,
    fun p => tokenize_append_of_invalidEscape⟩
  cases htokens : tokenize (s ++ t) with
  | ok us => exact .inl ⟨us, rfl⟩
  | error stop =>
    obtain ⟨e, rfl, hle⟩ := le_offset_of_unterminated h htokens
    exact .inr ⟨e, rfl, hle⟩

/-- A digit behind a point makes it part of the number before it; a line feed joins the carriage
return before it. A quote behind a text is the only error, a quote that is there already may find
another partner or none, and a bad escape in front of a quote stays. -/
theorem tokenize_append_point :
    (∃ ts us, tokenize "x 12." = .ok ts ∧ tokenize ("x 12." ++ "5") = .ok us ∧
      ts.map Lexeme.tagged = [(.identifier, "x"), (.whiteSpace, " "), (.number, "12"), (.symbol, ".")] ∧
      us.map Lexeme.tagged = [(.identifier, "x"), (.whiteSpace, " "), (.number, "12.5")] ∧
      ts.dropLast.dropLast <+: us) ∧
    (∃ ts us, tokenize "x\r" = .ok ts ∧ tokenize ("x\r" ++ "\n") = .ok us ∧ ¬ EndsInPoint ts ∧
      ts.dropLast <+: us) ∧
    (∃ ts e, tokenize "'a'." = .ok ts ∧ tokenize ("'a'." ++ "'") = .error (.malformed e) ∧
      4 ≤ e.position.offset) ∧
    (∃ e, tokenize "b'\\" = .error (.malformed ⟨.unterminatedString, ⟨1, 1, 2⟩⟩) ∧
      tokenize ("b'\\" ++ "'c") = .error (.malformed e) ∧ 1 ≤ e.position.offset) ∧
    tokenize "'\\q'" = .error (.malformed ⟨.invalidEscape, ⟨1, 1, 2⟩⟩) ∧
      tokenize ("'\\q'" ++ "é") = .error (.malformed ⟨.invalidEscape, ⟨1, 1, 2⟩⟩) := by
  refine ⟨?_, ?_, ?_, ?_, ?_⟩
  · have h : tokenize "x 12." = .ok [⟨⟨"x", ⟨0, 1, 1⟩, ⟨1, 1, 2⟩⟩, .identifier⟩,
        ⟨⟨" ", ⟨1, 1, 2⟩, ⟨2, 1, 3⟩⟩, .whiteSpace⟩, ⟨⟨"12", ⟨2, 1, 3⟩, ⟨4, 1, 5⟩⟩, .number⟩,
        ⟨⟨".", ⟨4, 1, 5⟩, ⟨5, 1, 6⟩⟩, .symbol⟩] := by decide +kernel
    have h' : tokenize ("x 12." ++ "5") = .ok [⟨⟨"x", ⟨0, 1, 1⟩, ⟨1, 1, 2⟩⟩, .identifier⟩,
        ⟨⟨" ", ⟨1, 1, 2⟩, ⟨2, 1, 3⟩⟩, .whiteSpace⟩,
        ⟨⟨"12.5", ⟨2, 1, 3⟩, ⟨6, 1, 7⟩⟩, .number⟩] := by decide +kernel
    exact ⟨_, _, h, h', rfl, rfl, ((tokenize_append _ _).1 _ _ h h').1⟩
  · have h : tokenize "x\r" = .ok [⟨⟨"x", ⟨0, 1, 1⟩, ⟨1, 1, 2⟩⟩, .identifier⟩,
        ⟨⟨"\r", ⟨1, 1, 2⟩, ⟨2, 2, 1⟩⟩, .newLine⟩] := by decide +kernel
    have h' : tokenize ("x\r" ++ "\n") = .ok [⟨⟨"x", ⟨0, 1, 1⟩, ⟨1, 1, 2⟩⟩, .identifier⟩,
        ⟨⟨"\r\n", ⟨1, 1, 2⟩, ⟨3, 2, 1⟩⟩, .newLine⟩] := by decide +kernel
    have hno : ¬ EndsInPoint [⟨⟨"x", ⟨0, 1, 1⟩, ⟨1, 1, 2⟩⟩, .identifier⟩,
        ⟨⟨"\r", ⟨1, 1, 2⟩, ⟨2, 2, 1⟩⟩, .newLine⟩] := by
      rintro ⟨front, number, point, heq, -, -, hpoint, -⟩
      have hlast := congrArg (fun ls => ls.getLast?.map Lexeme.kind) heq
      simp [hpoint] at hlast
    exact ⟨_, _, h, h', hno, ((tokenize_append _ _).1 _ _ h h').2 hno⟩
  · have h : tokenize "'a'." = .ok [⟨⟨"'a'", ⟨0, 1, 1⟩, ⟨3, 1, 4⟩⟩, .string⟩,
        ⟨⟨".", ⟨3, 1, 4⟩, ⟨4, 1, 5⟩⟩, .symbol⟩] := by decide +kernel
    have herror : tokenize ("'a'." ++ "'") =
        .error (.malformed ⟨.unterminatedString, ⟨4, 1, 5⟩⟩) := by decide +kernel
    obtain ⟨e, he, hle⟩ := (tokenize_append _ _).2.1 _ _ h herror
    exact ⟨_, e, h, he ▸ herror, hle⟩
  · have h : tokenize "b'\\" = .error (.malformed ⟨.unterminatedString, ⟨1, 1, 2⟩⟩) := by
      decide +kernel
    rcases (tokenize_append "b'\\" "'c").2.2.1 _ h with ⟨us, hus⟩ | ⟨e, he, hle⟩
    · have hfails : (tokenize ("b'\\" ++ "'c")).isOk = false := by decide +kernel
      rw [hus] at hfails
      cases hfails
    · exact ⟨e, h, he, hle⟩
  · have h : tokenize "'\\q'" = .error (.malformed ⟨.invalidEscape, ⟨1, 1, 2⟩⟩) := by
      decide +kernel
    refine ⟨h, (tokenize_append _ _).2.2.2 _ h ?_⟩
    have hdrop : Utf8.drop 1 "'\\q'".toList = ['\\', 'q', '\''] := by decide +kernel
    rintro ⟨w, hescape, bs, hw⟩
    rw [hdrop] at hw
    cases hescape <;> simp_all

end LexSpan
