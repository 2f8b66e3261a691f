import LexSpan.Proofs.Checkpoints
import LexSpan.Proofs.Parallel

/-!
# Splitting the rest of a text

At the place where a lexeme starts or stops, splitting can start over with the rest of the text.
Where the whole text has a cursor at such a place, the start of the rest is parallel to it: the two
have the same in front of them, and their positions differ by the way to the place
(`Position.translate`). Steps keep this difference (`stepsTogether_translated`), also where the rest
breaks lines.

Main statement (`tokenize_restart`): the rest is split into the lexemes that the whole text has from
the place on, or fails where the whole text does.
-/

namespace LexSpan

/-- Where a position of a text is in a longer one that has the text from `base` on. Columns are
shifted in the first line only. -/
def Position.translate (base p : Position) : Position :=
  ⟨p.offset + base.offset, p.line + base.line - 1,
    if p.line = 1 then p.column + base.column - 1 else p.column⟩

/-- Whether a position is another one, seen from a longer text that has the text of the other one
from `base` on. -/
def Position.Translated (base p p' : Position) : Prop :=
  1 ≤ p.line ∧ 1 ≤ p.column ∧ p' = base.translate p

variable {b : Position} {text : String} {c d e : Cursor} {lexeme : Lexeme}
  {lexemes : List Lexeme}

/-! ## Positions in the rest and in the whole -/

theorem translated_start (base : Position) : base.Translated .start base := by
  refine ⟨Nat.le_refl 1, Nat.le_refl 1, ?_⟩
  simp only [Position.translate, Position.start, if_pos, Nat.zero_add, Nat.add_sub_cancel_left]

theorem stepsTogether_translated (base : Position) : StepsTogether base.Translated := by
  rintro p - ch next ⟨hline, hcolumn, rfl⟩
  cases hb : breaksLine ch next with
  | true =>
    rw [Position.step_of_breaksLine hb, Position.step_of_breaksLine hb]
    refine ⟨Nat.le_add_left 1 _, Nat.le_refl 1, ?_⟩
    simp only [Position.translate, Position.mk.injEq]
    rw [if_neg (by omega)]
    omega
  | false =>
    rw [Position.step_of_not_breaksLine hb, Position.step_of_not_breaksLine hb]
    refine ⟨hline, Nat.le_add_left 1 _, ?_⟩
    simp only [Position.translate, Position.mk.injEq]
    refine ⟨Nat.add_right_comm .., trivial, ?_⟩
    split <;> omega

/-- The start of what is left in front of a cursor is parallel to it. -/
theorem parallel_remaining (hv : c.Valid) :
    (Cursor.start c.remaining).Parallel c.position.Translated [] c where
  valid := Cursor.valid_start _
  valid_other := hv
  rest_eq := by
    rw [List.append_nil]
    exact String.toList_ofList.symm
  position := translated_start _

/-! ## Places between lexemes -/

/-- A place where a lexeme starts or stops divides a run in two. -/
theorem Reads.exists_at (h : Reads c lexemes e) (hv : c.Valid) (hmem : lexeme ∈ lexemes)
    (hb : b = lexeme.start ∨ b = lexeme.stop) :
    ∃ before after d, lexemes = before ++ after ∧ Reads c before d ∧ d.position = b := by
  obtain ⟨before, after, rfl⟩ := List.append_of_mem hmem
  obtain ⟨d, hbefore, hafter⟩ := Reads.append_iff.1 h
  rcases hb with rfl | rfl
  · exact ⟨before, _, d, rfl, hbefore, (hafter.tiles (hbefore.valid hv)).1.symm⟩
  · rw [List.append_cons] at h ⊢
    obtain ⟨f, hbefore', -⟩ := Reads.append_iff.1 h
    obtain ⟨d', hd', hone⟩ := Reads.append_iff.1 hbefore'
    exact ⟨before ++ [lexeme], after, f, rfl, hbefore', (hone.tiles (hd'.valid hv)).2.symm⟩

/-- The lexemes of a run start behind its start and in front of its end. -/
theorem Reads.offset_start (h : Reads c lexemes d) (hv : c.Valid) :
    ∀ lexeme ∈ lexemes, c.offset ≤ lexeme.start.offset ∧ lexeme.start.offset < d.offset := by
  induction h with
  | refl => exact List.forall_mem_nil _
  | @step c f d lexeme lexemes hnext hs ih =>
    obtain ⟨bs, hc, ht, -, hlexeme, hf⟩ := Cursor.lexeme_of_next hv hnext
    have hvf : f.Valid := hf ▸ hv.advanceBy _
    have hstart : lexeme.start.offset = c.offset := by rw [hlexeme]; rfl
    have hpos := Nat.pos_of_ne_zero (mt Utf8.length_eq_zero.1 ht.ne_nil)
    have hoffset := Cursor.offset_advanceBy hc
    rw [← hf] at hoffset
    have hle := (hs.ahead hvf).offset_le
    refine List.forall_mem_cons.2 ⟨by omega, fun other hother => ?_⟩
    have := ih hvf other hother
    omega

/-- Where splitting passes a cursor, it goes on from there, and its lexemes from the offset of the
cursor on are those that it reads from there. -/
theorem lexing_of_reads (h : Reads (.start text) lexemes d) :
    (Lexing.ofText text).lexemes.filter (d.offset ≤ ·.start.offset) = (Lexing.ofCursor d).lexemes ∧
      (Lexing.ofText text).stop = (Lexing.ofCursor d).stop := by
  have hv := Cursor.valid_start text
  obtain ⟨last, hlast, -⟩ := exists_reads d
  rw [Lexing.ofText, ofCursor_of_reads h, List.filter_append]
  have hbefore : lexemes.filter (d.offset ≤ ·.start.offset) = [] :=
    List.filter_eq_nil_iff.2 fun lexeme hmem => by
      have := (h.offset_start hv lexeme hmem).2
      rw [decide_eq_true_iff]
      omega
  have hafter : (Lexing.ofCursor d).lexemes.filter (d.offset ≤ ·.start.offset) =
      (Lexing.ofCursor d).lexemes :=
    List.filter_eq_self.2 fun lexeme hmem =>
      decide_eq_true (hlast.offset_start (h.valid hv) lexeme hmem).1
  rw [hbefore, hafter, List.nil_append]
  exact ⟨rfl, rfl⟩

/-- What splitting makes of the rest of a text, and what splitting the whole text makes of it. -/
theorem lexing_restart (h : Reads (.start text) lexemes d) :
    (Lexing.ofText text).lexemes.filter (d.offset ≤ ·.start.offset) =
        (Lexing.ofText d.remaining).lexemes.map (Lexeme.relocate d.position.translate) ∧
      ((Lexing.ofText d.remaining).stop = none ∧ (Lexing.ofText text).stop = none ∨
        ∃ e, (Lexing.ofText d.remaining).stop = some (.malformed e) ∧
          (Lexing.ofText text).stop = some (.malformed (e.relocate d.position.translate))) := by
  have hf : ∀ p p', d.position.Translated p p' → p' = d.position.translate p := fun _ _ h => h.2.2
  obtain ⟨hlexemes, hstop⟩ := (parallel_remaining (h.valid (Cursor.valid_start text))).lexing
    (stepsTogether_translated d.position)
  obtain ⟨hfilter, hwhole⟩ := lexing_of_reads h
  rw [hfilter, hwhole]
  refine ⟨Lexeme.eq_map_of_parallel hf hlexemes, hstop.imp_right ?_⟩
  rintro ⟨e, e', hrest, hcursor, he⟩
  exact ⟨e, hrest, by rw [hcursor, he.eq_relocate hf]⟩

/-- What a cursor has in front of it, cut out of its text. -/
theorem Cursor.Ahead.slice_remaining (h : (Cursor.start text).Ahead d) :
    (Cursor.start text).slice d.offset text.utf8ByteSize = .ok d.remaining := by
  have hslice := ((h.valid (Cursor.valid_start text)).inStep h.text_eq).slice_eq
  rwa [Cursor.slice, h.text_eq] at hslice

theorem slice_remaining (h : Reads (.start text) lexemes d) :
    (Cursor.start text).slice d.offset text.utf8ByteSize = .ok d.remaining :=
  (h.ahead (Cursor.valid_start text)).slice_remaining

theorem tokenize_restart (text : String) (lexeme : Lexeme)
    (hmem : lexeme ∈ (Lexing.ofText text).lexemes) (b : Position)
    (hb : b = lexeme.start ∨ b = lexeme.stop) (options : Options) :
    ∃ rest, (Cursor.start text).slice b.offset text.utf8ByteSize = .ok rest ∧
      ((∃ ts, tokenize rest options = .ok ts) ↔ ∃ us, tokenize text options = .ok us) ∧
      (∀ ts us, tokenize rest options = .ok ts → tokenize text options = .ok us →
        us.filter (b.offset ≤ ·.start.offset) = ts.map (Lexeme.relocate b.translate)) ∧
      (∀ stop stop', tokenize rest options = .error stop → tokenize text options = .error stop' →
        ∃ e, stop = .malformed e ∧ stop' = .malformed (e.relocate b.translate)) ∧
      (Lexing.ofText text).lexemes.filter (b.offset ≤ ·.start.offset) =
        (Lexing.ofText rest).lexemes.map (Lexeme.relocate b.translate) := by
  obtain ⟨last, hreads, -⟩ := exists_reads (.start text)
  obtain ⟨before, after, d, -, hd, rfl⟩ := hreads.exists_at (Cursor.valid_start text) hmem hb
  obtain ⟨hlexemes, hstop⟩ := lexing_restart hd
  refine ⟨d.remaining, slice_remaining hd, ?_⟩
  have hkept : ((Lexing.ofText text).lexemes.filter options.keeps).filter
      (d.offset ≤ ·.start.offset) =
        ((Lexing.ofText d.remaining).lexemes.filter options.keeps).map
          (Lexeme.relocate d.position.translate) := by
    rw [List.filter_comm, hlexemes, List.filter_map]
    rfl
  rcases hstop with ⟨hrest, hwhole⟩ | ⟨e, hrest, hwhole⟩
  · simp only [tokenize, Lexing.outcome, hrest, hwhole]
    refine ⟨⟨fun _ => ⟨_, rfl⟩, fun _ => ⟨_, rfl⟩⟩, ?_, ?_, hlexemes⟩
    · rintro _ _ ⟨⟩ ⟨⟩
      exact hkept
    · rintro _ _ ⟨⟩
  · simp only [tokenize, Lexing.outcome, hrest, hwhole]
    refine ⟨?_, ?_, ?_, hlexemes⟩
    · constructor <;> rintro ⟨_, ⟨⟩⟩
    · rintro _ _ ⟨⟩
    · rintro _ _ ⟨⟩ ⟨⟩
      exact ⟨e, rfl, rfl⟩

/-- In front of a string that breaks the line, where what follows is shifted in lines and bytes only;
and in front of a bad escape, in a text that is split up to there. -/
theorem tokenize_restart_within_line :
    (∃ ts us, tokenize "'\n'x" = .ok ts ∧ tokenize "é '\n'x" = .ok us ∧
      us.filter (3 ≤ ·.start.offset) = ts.map (Lexeme.relocate (Position.translate ⟨3, 1, 3⟩)) ∧
      ts.map (·.start) = [⟨0, 1, 1⟩, ⟨3, 2, 2⟩] ∧
      (us.filter (3 ≤ ·.start.offset)).map (·.start) = [⟨3, 1, 3⟩, ⟨6, 2, 2⟩]) ∧
    ∃ e, tokenize "'\\q'" = .error (.malformed e) ∧ e = ⟨.invalidEscape, ⟨1, 1, 2⟩⟩ ∧
      tokenize "é '\\q'" = .error (.malformed (e.relocate (Position.translate ⟨3, 1, 3⟩))) := by
  constructor
  · have hmem : ⟨⟨"'\n'", ⟨3, 1, 3⟩, ⟨6, 2, 2⟩⟩, .string⟩ ∈ (Lexing.ofText "é '\n'x").lexemes := by
      decide +kernel
    obtain ⟨rest, hslice, -, hok, -⟩ := tokenize_restart _ _ hmem ⟨3, 1, 3⟩ (.inl rfl) {}
    have hrest : (Cursor.start "é '\n'x").slice 3 7 = .ok "'\n'x" := by decide +kernel
    cases hrest.symm.trans hslice
    have h : tokenize "'\n'x" = .ok [⟨⟨"'\n'", ⟨0, 1, 1⟩, ⟨3, 2, 2⟩⟩, .string⟩,
        ⟨⟨"x", ⟨3, 2, 2⟩, ⟨4, 2, 3⟩⟩, .identifier⟩] := by decide +kernel
    have h' : tokenize "é '\n'x" = .ok [⟨⟨"é", ⟨0, 1, 1⟩, ⟨2, 1, 2⟩⟩, .identifier⟩,
        ⟨⟨" ", ⟨2, 1, 2⟩, ⟨3, 1, 3⟩⟩, .whiteSpace⟩, ⟨⟨"'\n'", ⟨3, 1, 3⟩, ⟨6, 2, 2⟩⟩, .string⟩,
        ⟨⟨"x", ⟨6, 2, 2⟩, ⟨7, 2, 3⟩⟩, .identifier⟩] := by decide +kernel
    exact ⟨_, _, h, h', hok _ _ h h', rfl, rfl⟩
  · have hmem : ⟨⟨" ", ⟨2, 1, 2⟩, ⟨3, 1, 3⟩⟩, .whiteSpace⟩ ∈ (Lexing.ofText "é '\\q'").lexemes := by
      decide +kernel
    obtain ⟨rest, hslice, -, -, herror, -⟩ := tokenize_restart _ _ hmem ⟨3, 1, 3⟩ (.inr rfl) {}
    have hrest : (Cursor.start "é '\\q'").slice 3 7 = .ok "'\\q'" := by decide +kernel
    cases hrest.symm.trans hslice
    have h : tokenize "'\\q'" = .error (.malformed ⟨.invalidEscape, ⟨1, 1, 2⟩⟩) := by decide +kernel
    have h' : tokenize "é '\\q'" = .error (.malformed ⟨.invalidEscape, ⟨4, 1, 4⟩⟩) := by
      decide +kernel
    obtain ⟨e, he, he'⟩ := herror _ _ h h'
    cases he
    exact ⟨_, h, rfl, he' ▸ h'⟩

end LexSpan
