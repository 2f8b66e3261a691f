import LexSpan.Proofs.LineColumn
import LexSpan.Proofs.Restart
import Mathlib.Data.List.DropRight

/-!
# Where a lexeme stops

The position where a lexeme stops follows from where it starts and from its own text, whatever stands
behind it. For most pieces of a text this is not so: one that ends between a carriage return and its
line feed breaks no line, but would on its own. Lexemes do not end there (`Kind.Ends.not_dividesPair`).

Main statement (`stop_eq_translate_own`): a lexeme moves line and column by as much as a cursor moves
that passes its text alone. The line moves by the breaks of the text, which only new lines and strings
have, and the column counts the characters behind the last one (`lastLine`).

A cursor over the text alone is parallel to one over the whole text up to the last character
(`Cursor.position_advanceBy_eq_translate`); there the one sees the end and the other what follows, which
makes a difference for a carriage return in front of a line feed only.
-/

namespace LexSpan

/-- Whether a character is one that breaks a line. -/
def isBreak (c : Char) : Bool := c = '\n' || c = '\r'

/-- The characters of a text behind the last one that breaks a line. -/
def lastLine (cs : List Char) : List Char := cs.rtakeWhile (!isBreak ·)

/-- Whether the end of a text and the beginning of another are a carriage return and its line feed. -/
def DividesPair (w bs : List Char) : Prop := w.getLast? = some '\r' ∧ bs.head? = some '\n'

variable {c d : Cursor} {ch : Char} {w as bs : List Char} {next : Option Char}

/-! ## Texts that divide no pair -/

/-- New lines and strings are the only lexemes that can break a line. -/
theorem Kind.IsText.isBreak_eq_false {k : Kind} (h : k.IsText w) (hline : k ≠ .newLine)
    (hstring : k ≠ .string) : ∀ c ∈ w, isBreak c = false := by
  intro c hc
  refine Bool.eq_false_iff.2 fun hbreak => ?_
  have hopens : newLine.opens c = true := by
    simp only [isBreak, Bool.or_eq_true, decide_eq_true_eq] at hbreak
    rcases hbreak with rfl | rfl <;> decide
  exact h.not_mem_of_opens hstring hopens hline (by decide) (by cases k <;> simp_all [mergesWith]) hc

/-- New lines take the line feed behind a carriage return, and no other lexeme ends in one. -/
theorem Kind.Ends.not_dividesPair {k : Kind} (he : k.Ends w bs) (ht : k.IsText w) :
    ¬ DividesPair w bs := by
  intro ⟨hlast, hhead⟩
  by_cases hline : k = .newLine
  · subst hline
    exact absurd (he _ hhead) (by decide)
  by_cases hstring : k = .string
  · subst hstring
    obtain ⟨q, items, -, rfl⟩ := ht
    rw [← List.cons_append, List.getLast?_concat, Option.some.injEq] at hlast
    exact absurd hlast (by cases q <;> decide)
  · have hreturn := ht.isBreak_eq_false hline hstring _ (List.mem_of_getLast? hlast)
    exact absurd hreturn (by decide)

/-! ## Lines and columns of a text alone -/

theorem breaksLine_eq_isBreak (h : next ≠ some '\n') : breaksLine ch next = isBreak ch := by
  simp [breaksLine, isBreak, h]

theorem breaksLine_of_not_isBreak (h : isBreak ch = false) (next : Option Char) :
    breaksLine ch next = false := by
  simp only [isBreak, Bool.or_eq_false_iff] at h
  simp only [breaksLine, h.1, h.2, Bool.false_and, Bool.or_self]

namespace Cursor

/-- Characters that break no line move the column only. -/
theorem position_advanceBy_of_unbroken (hc : c.rest = as ++ bs)
    (has : ∀ ch ∈ as, isBreak ch = false) :
    (advanceBy as.length c).position.line = c.position.line ∧
      (advanceBy as.length c).position.column = c.position.column + as.length := by
  induction as generalizing c with
  | nil => exact ⟨rfl, rfl⟩
  | cons a as ih =>
    rw [List.forall_mem_cons] at has
    have ha := advance_of_rest (show c.rest = a :: (as ++ bs) from hc)
    obtain ⟨hline, hcolumn⟩ := ih (c := c.advance) (by rw [ha]) has.2
    rw [List.length_cons, advanceBy, hline, hcolumn, ha,
      Position.step_of_not_breaksLine (breaksLine_of_not_isBreak has.1 _)]
    exact ⟨rfl, by simp only; omega⟩

/-- At the end of a text the column counts the characters of its last line. -/
theorem column_advanceBy_start (text : String) :
    (advanceBy text.toList.length (.start text)).position.column =
      1 + (lastLine text.toList).length := by
  obtain ⟨before, hbefore⟩ : ∃ before, text.toList.rdropWhile (!isBreak ·) = before := ⟨_, rfl⟩
  have hsplit : (start text).rest = before ++ lastLine text.toList := by
    rw [← hbefore, lastLine, List.rdropWhile_append_rtakeWhile]
    rfl
  have hunbroken : ∀ ch ∈ lastLine text.toList, isBreak ch = false := fun ch hch => by
    simpa using List.mem_rtakeWhile_imp hch
  have hlength : text.toList.length = before.length + (lastLine text.toList).length := by
    rw [← List.length_append, ← hsplit]
    rfl
  -- the last line starts in the first column, whether there is a break before it or not
  have hfirst : (advanceBy before.length (start text)).position.column = 1 := by
    rcases List.eq_nil_or_concat before with rfl | ⟨front, ch, rfl⟩
    · rfl
    · have hbreak : isBreak ch = true := by
        have hlast := List.rdropWhile_last_not (!isBreak ·) text.toList (by rw [hbefore]; simp)
        simpa [hbefore] using hlast
      have hhead : (lastLine text.toList).head? ≠ some '\n' := fun hhead =>
        absurd (hunbroken _ (List.mem_of_head? hhead)) (by decide)
      rw [List.concat_eq_append, List.append_assoc, List.singleton_append] at hsplit
      rw [List.length_concat, advanceBy_add, advanceBy, advanceBy,
        advance_of_rest (rest_advanceBy hsplit), Position.step_of_breaksLine
          ((breaksLine_eq_isBreak hhead).trans hbreak)]
  have hrest : (advanceBy before.length (start text)).rest = lastLine text.toList ++ [] := by
    rw [rest_advanceBy hsplit, List.append_nil]
  rw [hlength, advanceBy_add, (position_advanceBy_of_unbroken hrest hunbroken).2, hfirst]

/-- At the end of a text the line counts its breaks. -/
theorem line_advanceBy_start (text : String) :
    (advanceBy text.toList.length (.start text)).position.line = 1 + lineBreaks text.toList := by
  have hend : (advanceBy text.toList.length (start text)).rest = [] :=
    rest_advanceBy (List.append_nil _).symm
  exact (visited_iff.2 (.advanceBy _ _)).line_of_atEnd (List.isEmpty_iff.2 hend)

/-- A cursor that goes to the end of a text passes all of it. -/
theorem advanceTo_size (text : String) : (start text).advanceTo text.utf8ByteSize =
    .ok (advanceBy text.toList.length (start text)) := by
  have hto := advanceTo_append (valid_start text) (List.append_nil text.toList).symm
  rwa [show (start text).offset = 0 from rfl, Nat.zero_add, ← Utf8.utf8ByteSize_eq] at hto

/-! ## A text alone and in its place -/

/-- What stands behind a text matters for its end only where the two divide a pair. -/
theorem position_advanceBy_eq_translate {text : String} (hv : c.Valid)
    (hc : c.rest = text.toList ++ bs) (hpair : ¬ DividesPair text.toList bs) :
    (advanceBy text.toList.length c).position =
      c.position.translate (advanceBy text.toList.length (.start text)).position := by
  have hparallel : (start text).Parallel c.position.Translated bs c :=
    ⟨valid_start text, hv, hc, translated_start _⟩
  rcases List.eq_nil_or_concat text.toList with hnil | ⟨front, ch, htext⟩
  · rw [hnil]
    exact hparallel.position.2.2
  · rw [List.concat_eq_append] at htext
    have hfront := hparallel.advanceBy (stepsTogether_translated _) htext (.inl (by simp))
    have hown : (advanceBy front.length (start text)).rest = [ch] := rest_advanceBy htext
    have hplace := hfront.rest_eq
    rw [hown, List.singleton_append] at hplace
    have hnext : breaksLine ch bs.head? = breaksLine ch none := by
      rw [DividesPair, htext, List.getLast?_concat, Option.some.injEq] at hpair
      by_cases hreturn : ch = '\r'
      · have hhead : bs.head? ≠ some '\n' := fun hhead => hpair ⟨hreturn, hhead⟩
        rw [breaksLine_eq_isBreak hhead, breaksLine_eq_isBreak (by simp)]
      · simp [breaksLine, hreturn]
    have hstep : ∀ p : Position, p.step ch bs.head? = p.step ch none := fun p => by
      simp only [Position.step, hnext]
    rw [htext, List.length_append, advanceBy_add, advanceBy_add]
    simp only [List.length_singleton, advanceBy, advance_of_rest hown, advance_of_rest hplace, hstep]
    exact (stepsTogether_translated _ _ _ ch none hfront.position).2.2

end Cursor

/-! ## The lexemes of a text -/

variable {lexeme : Lexeme} {lexemes : List Lexeme} {text : String}

/-- Each lexeme of a run was read at a cursor on the way, and ends in front of what follows there. -/
theorem Reads.exists_cursor (h : Reads c lexemes d) (hv : c.Valid) (hmem : lexeme ∈ lexemes) :
    ∃ e bs, c.Ahead e ∧ e.rest = lexeme.text.toList ++ bs ∧
      lexeme.kind.IsText lexeme.text.toList ∧ lexeme.kind.Ends lexeme.text.toList bs ∧
      lexeme.start = e.position ∧
      lexeme.stop = (Cursor.advanceBy lexeme.text.toList.length e).position := by
  obtain ⟨before, after, rfl⟩ := List.append_of_mem hmem
  obtain ⟨e, hbefore, hafter⟩ := Reads.append_iff.1 h
  cases hafter with
  | step hnext _ =>
    obtain ⟨bs, he, ht, hends, hlexeme, -⟩ := Cursor.lexeme_of_next (hbefore.valid hv) hnext
    exact ⟨e, bs, hbefore.ahead hv, he, ht, hends, congrArg (fun l : Lexeme => l.start) hlexeme,
      congrArg (fun l : Lexeme => l.stop) hlexeme⟩

/-- The lexemes that are asked for are among all those that splitting brings out. -/
theorem subset_of_tokenize {options : Options} (h : tokenize text options = .ok lexemes) :
    lexemes ⊆ (Lexing.ofText text).lexemes := by
  rw [tokenize, Lexing.outcome] at h
  split at h
  · cases h
  · cases h
    exact List.filter_subset_self _

/-- A lexeme stops where its text leads from its start, and divides no pair there. -/
theorem stop_of_mem (hmem : lexeme ∈ (Lexing.ofText text).lexemes) :
    lexeme.kind.IsText lexeme.text.toList ∧
    (∃ rest, (Cursor.start text).slice lexeme.stop.offset text.utf8ByteSize = .ok rest ∧
      ¬ DividesPair lexeme.text.toList rest.toList) ∧
    lexeme.stop = lexeme.start.translate
      (Cursor.advanceBy lexeme.text.toList.length (.start lexeme.text)).position := by
  obtain ⟨last, hreads, -⟩ := exists_reads (.start text)
  obtain ⟨e, bs, hahead, he, ht, hends, hstart, hstop⟩ :=
    hreads.exists_cursor (Cursor.valid_start text) hmem
  have hpair := hends.not_dividesPair ht
  have hslice := (hahead.trans (.advanceBy lexeme.text.toList.length e)).slice_remaining
  refine ⟨ht, ⟨_, by rw [hstop]; exact hslice, ?_⟩, ?_⟩
  · rwa [Cursor.remaining, String.toList_ofList, Cursor.rest_advanceBy he]
  · rw [hstop, hstart,
      Cursor.position_advanceBy_eq_translate (hahead.valid (Cursor.valid_start text)) he hpair]

theorem stop_eq_translate_own (text : String) :
    (∀ options lexemes, tokenize text options = .ok lexemes →
      lexemes ⊆ (Lexing.ofText text).lexemes) ∧
    (∀ ch ∈ ['\u0085', '\u2028', '\u2029'], ∀ (p : Position) next,
      p.step ch next = ⟨p.offset + ch.utf8Size, p.line, p.column + 1⟩) ∧
    ∀ lexeme ∈ (Lexing.ofText text).lexemes,
      (∃ rest, (Cursor.start text).slice lexeme.stop.offset text.utf8ByteSize = .ok rest ∧
        ¬ DividesPair lexeme.text.toList rest.toList) ∧
      (∃ last, (Cursor.start lexeme.text).advanceTo lexeme.text.utf8ByteSize = .ok last ∧
        last.atEnd = true ∧
        lexeme.stop.line = lexeme.start.line + last.position.line - 1 ∧
        (1 < last.position.line → lexeme.stop.column = last.position.column) ∧
        (last.position.line = 1 →
          lexeme.stop.column = lexeme.start.column + last.position.column - 1)) ∧
      (lexeme.kind ∈ [.whiteSpace, .identifier, .number, .symbol] →
        lexeme.stop.line = lexeme.start.line ∧
        lexeme.stop.column = lexeme.start.column + lexeme.text.length) ∧
      (lexeme.kind = .newLine →
        lexeme.stop.line = lexeme.start.line + lineBreaks lexeme.text.toList ∧
        lexeme.stop.column = (lastLine lexeme.text.toList).length +
          if lineBreaks lexeme.text.toList = 0 then lexeme.start.column else 1) := by
  refine ⟨fun _ _ => subset_of_tokenize, fun ch hch p next => ?_, fun lexeme hmem => ?_⟩
  · refine Position.step_of_not_breaksLine (breaksLine_of_not_isBreak ?_ next)
    simp only [List.mem_cons, List.not_mem_nil, or_false] at hch
    rcases hch with rfl | rfl | rfl <;> decide
  obtain ⟨ht, hpair, hstop⟩ := stop_of_mem hmem
  have hline := Cursor.line_advanceBy_start lexeme.text
  have hcolumn := Cursor.column_advanceBy_start lexeme.text
  have hstopLine := congrArg Position.line hstop
  have hstopColumn := congrArg Position.column hstop
  simp only [Position.translate] at hstopLine hstopColumn
  have hrest : (Cursor.start lexeme.text).rest = lexeme.text.toList ++ [] :=
    (List.append_nil _).symm
  refine ⟨hpair, ⟨_, Cursor.advanceTo_size lexeme.text, ?_, ?_, ?_, ?_⟩, fun hkind => ?_,
    fun hkind => ?_⟩
  · exact List.isEmpty_iff.2 (Cursor.rest_advanceBy hrest)
  · omega
  · intro hlt
    rw [hstopColumn, if_neg (by omega)]
  · intro hone
    rw [hstopColumn, if_pos hone]
    omega
  · have hunbroken := ht.isBreak_eq_false (by intro h; simp [h] at hkind)
      (by intro h; simp [h] at hkind)
    obtain ⟨hownLine, hownColumn⟩ := Cursor.position_advanceBy_of_unbroken hrest hunbroken
    rw [← String.length_toList, hstopLine, hstopColumn, hownLine, hownColumn]
    simp only [Cursor.start, Position.start, if_true]
    omega
  · rw [hstopLine, hstopColumn, hline, hcolumn]
    refine ⟨by omega, ?_⟩
    by_cases hnone : lineBreaks lexeme.text.toList = 0
    · rw [if_pos (by omega), if_pos hnone]
      omega
    · rw [if_neg (by omega), if_neg hnone]
      omega

/-- New lines that break the line once and go on in the next one, and a string over two lines. -/
theorem stop_eq_translate_own_pair :
    ∃ word newLines string : Lexeme,
      tokenize "x\r\n\u0085'é\n'" = .ok [word, newLines, string] ∧
      (newLines.text = "\r\n\u0085" ∧ newLines.stop.line = newLines.start.line + 1 ∧
        newLines.stop.column = 2) ∧
      (string.text = "'é\n'" ∧ string.stop.line = string.start.line + 1 ∧ string.stop.column = 2) := by
  have h : tokenize "x\r\n\u0085'é\n'" = .ok [⟨⟨"x", ⟨0, 1, 1⟩, ⟨1, 1, 2⟩⟩, .identifier⟩,
      ⟨⟨"\r\n\u0085", ⟨1, 1, 2⟩, ⟨5, 2, 2⟩⟩, .newLine⟩,
      ⟨⟨"'é\n'", ⟨5, 2, 2⟩, ⟨10, 3, 2⟩⟩, .string⟩] := by decide +kernel
  obtain ⟨hsubset, -, hstop⟩ := stop_eq_translate_own "x\r\n\u0085'é\n'"
  have hmem := hsubset _ _ h
  obtain ⟨-, -, -, hbreaks⟩ := hstop _ (hmem (.tail _ (.head _)))
  obtain ⟨hline, hcolumn⟩ := hbreaks rfl
  obtain ⟨-, ⟨last, hlast, -, hline', hcolumn', -⟩, -⟩ := hstop _ (hmem (.tail _ (.tail _ (.head _))))
  have hown : (Cursor.start "'é\n'").advanceTo 5 = .ok ⟨"'é\n'", [], ⟨5, 2, 2⟩⟩ := by decide +kernel
  obtain rfl := Except.ok.inj (hown.symm.trans hlast)
  exact ⟨_, _, _, h, ⟨rfl, hline, hcolumn⟩, rfl, hline', hcolumn' (by decide)⟩

end LexSpan
