import LexSpan.Proofs.StopPosition
import LexSpan.Proofs.Trivia
import Mathlib.Data.Prod.Lex

/-!
# Lines and columns as names of places

Within one text a line and a column name a place. Main statement (`lineColumn_orders_places`): of two
places that operations lead to, the one with the smaller offset comes first by line and column
(`Position.lineColumn`), and no other place is shown by the same words; so the lines that the program
prints about a file have places in strictly ascending order.

A step comes later by line and column, whether it breaks the line or not
(`Position.lineColumn_lt_step`); the rest is an induction over the way from one cursor to another. Going
back needs no argument of its own: a visited cursor is one that the start of the text passes, and of
two such cursors one is ahead of the other (`Visited.ahead`).
-/

namespace LexSpan

/-- The line and the column of a position, ordered by the line first. -/
def Position.lineColumn (p : Position) : Nat ×ₗ Nat := toLex (p.line, p.column)

variable {p q : Position} {c d : Cursor} {text : String} {lexeme : Lexeme} {lexemes : List Lexeme}

/-! ## Places on the way of a cursor -/

theorem Position.lineColumn_lt_iff : p.lineColumn < q.lineColumn ↔
    p.line < q.line ∨ p.line = q.line ∧ p.column < q.column := Prod.Lex.toLex_lt_toLex

theorem Position.lineColumn_lt_step (p : Position) (ch : Char) (next : Option Char) :
    p.lineColumn < (p.step ch next).lineColumn := by
  rw [lineColumn_lt_iff]
  cases hb : breaksLine ch next with
  | true =>
    rw [step_of_breaksLine hb]
    exact .inl (Nat.lt_succ_self _)
  | false =>
    rw [step_of_not_breaksLine hb]
    exact .inr ⟨rfl, Nat.lt_succ_self _⟩

namespace Cursor

theorem lineColumn_le_advance (c : Cursor) :
    c.position.lineColumn ≤ c.advance.position.lineColumn := by
  rcases hc : c.rest with _ | ⟨ch, cs⟩
  · rw [advance_of_atEnd hc]
  · rw [advance_of_rest hc]
    exact (Position.lineColumn_lt_step _ _ _).le

theorem Ahead.lineColumn_le (h : c.Ahead d) : c.position.lineColumn ≤ d.position.lineColumn :=
  h.keeps (P := fun e => c.position.lineColumn ≤ e.position.lineColumn)
    (fun e hle => hle.trans (lineColumn_le_advance e)) (le_refl _)

theorem Ahead.lineColumn_lt (h : c.Ahead d) (hlt : c.offset < d.offset) :
    c.position.lineColumn < d.position.lineColumn := by
  obtain ⟨as, has, hd⟩ := h.exists_append
  rcases as with _ | ⟨ch, as⟩
  · rw [hd] at hlt
    exact absurd hlt (Nat.lt_irrefl _)
  · have hfirst : c.position.lineColumn < c.advance.position.lineColumn := by
      rw [advance_of_rest (show c.rest = ch :: (as ++ d.rest) from has)]
      exact Position.lineColumn_lt_step _ _ _
    have hrest : c.advance.Ahead d := ⟨as.length, hd⟩
    exact hfirst.trans_le hrest.lineColumn_le

end Cursor

/-! ## Visited places -/

/-- A visited cursor leads to every other one that lies no further back. -/
theorem Visited.ahead (hc : Visited text c) (hd : Visited text d) (h : c.offset ≤ d.offset) :
    c.Ahead d := by
  obtain ⟨m, rfl⟩ := visited_iff.1 hc
  obtain ⟨n, rfl⟩ := visited_iff.1 hd
  rcases Nat.le_total m n with hle | hle
  · exact ⟨n - m, by rw [← Cursor.advanceBy_add, Nat.add_sub_cancel' hle]⟩
  · have hback : (Cursor.advanceBy n (.start text)).Ahead (Cursor.advanceBy m (.start text)) :=
      ⟨m - n, by rw [← Cursor.advanceBy_add, Nat.add_sub_cancel' hle]⟩
    rw [hc.eq_of_offset_eq hd (Nat.le_antisymm h hback.offset_le)]
    exact .refl _

theorem Visited.offset_lt_iff (hc : Visited text c) (hd : Visited text d) :
    c.offset < d.offset ↔ c.position.lineColumn < d.position.lineColumn := by
  refine ⟨fun h => (hc.ahead hd h.le).lineColumn_lt h, fun h => ?_⟩
  by_contra hle
  exact absurd h (hd.ahead hc (Nat.le_of_not_lt hle)).lineColumn_le.not_gt

/-! ## Places as they are shown -/

theorem colon_not_mem_toString (n : Nat) : ':' ∉ (toString n).toList := by
  intro hmem
  have hdigit := isDecimalDigit_of_mem_toString hmem
  exact absurd hdigit (by decide)

/-- A place is shown by its line and column, and each of them can be read back. -/
theorem Position.render_eq_iff : p.render = q.render ↔ p.line = q.line ∧ p.column = q.column := by
  have hpieces : ∀ r : Position, pieces ':' r.render = [toString r.line, toString r.column] :=
    fun r => by
      rw [render, pieces_append rfl (colon_not_mem_toString _),
        pieces_of_not_mem (colon_not_mem_toString _)]
  constructor
  · intro h
    have hboth := congrArg (pieces ':') h
    simp only [hpieces, List.cons.injEq, toString_eq_iff, and_true] at hboth
    exact hboth
  · rintro ⟨hline, hcolumn⟩
    rw [render, render, hline, hcolumn]

theorem Position.render_ne_of_lt (h : p.lineColumn < q.lineColumn) : p.render ≠ q.render := by
  intro heq
  rw [render_eq_iff] at heq
  rw [lineColumn_lt_iff] at h
  omega

theorem Visited.render_ne (hc : Visited text c) (hd : Visited text d) (h : c.offset ≠ d.offset) :
    c.position.render ≠ d.position.render := by
  rcases Nat.lt_or_gt_of_ne h with hlt | hlt
  · exact Position.render_ne_of_lt ((hc.offset_lt_iff hd).1 hlt)
  · exact (Position.render_ne_of_lt ((hd.offset_lt_iff hc).1 hlt)).symm

/-! ## Places of lexemes -/

theorem Reads.pairwise_offset (h : Reads c lexemes d) (hv : c.Valid) :
    lexemes.Pairwise (·.start.offset < ·.start.offset) := by
  induction h with
  | refl => exact .nil
  | @step c e d lexeme lexemes hnext hs ih =>
    have hone : Reads c [lexeme] e := .step hnext (.refl e)
    have hve := hone.valid hv
    have hfirst := (hone.offset_start hv lexeme (.head _)).2
    exact .cons (fun other hother =>
      Nat.lt_of_lt_of_le hfirst (hs.offset_start hve other hother).1) (ih hve)

/-- Lexemes start at visited places. -/
theorem exists_visited_start (h : lexeme ∈ (Lexing.ofText text).lexemes) :
    ∃ c, Visited text c ∧ lexeme.start = c.position := by
  obtain ⟨last, hreads, -⟩ := exists_reads (.start text)
  obtain ⟨e, -, hahead, -, -, -, hstart, -⟩ := hreads.exists_cursor (Cursor.valid_start text) h
  exact ⟨e, visited_iff.2 hahead, hstart⟩

theorem pairwise_lineColumn (text : String) :
    (Lexing.ofText text).lexemes.Pairwise (·.start.lineColumn < ·.start.lineColumn) := by
  obtain ⟨last, hreads, -⟩ := exists_reads (.start text)
  refine (hreads.pairwise_offset (Cursor.valid_start text)).imp_of_mem fun ha hb hlt => ?_
  obtain ⟨c, hc, hstart⟩ := exists_visited_start ha
  obtain ⟨d, hd, hstart'⟩ := exists_visited_start hb
  rw [hstart, hstart'] at hlt ⊢
  exact (hc.offset_lt_iff hd).1 hlt

/-! ## Lines of output -/

variable {read : String → Except ReadError String} {filter : Option Filter} {words files : List String}
  {options : Options}

/-- What is printed about a file are lexemes of a text in their order, those of the file if it can be
split, and nothing at all if it fails. -/
theorem exists_sublist_output (read : String → Except ReadError String) (options : Options)
    (file : String) : ∃ (text : String) (lexemes : List Lexeme),
      lexemes.Sublist (Lexing.ofText text).lexemes ∧
      (Report.ofFile read (.tokens options) file).output = lexemes.map Lexeme.render ∧
      ∀ content kept, read file = .ok content → tokenize content options = .ok kept →
        lexemes = kept := by
  cases hread : read file with
  | error e =>
    refine ⟨"", [], List.nil_sublist _, ?_, fun _ _ h => nomatch h⟩
    rw [Report.ofFile, hread]
    rfl
  | ok text =>
    simp only [Report.ofFile, hread, Report.ofText, tokenize, Lexing.outcome, Command.options]
    cases hstop : (Lexing.ofText text).stop with
    | some stop =>
      refine ⟨text, [], List.nil_sublist _, ?_, ?_⟩
      · simp only [Report.output_events]
        rfl
      · rintro content kept ⟨⟩ h
        rw [hstop] at h
        cases h
    | none =>
      refine ⟨text, (Lexing.ofText text).lexemes.filter options.keeps, List.filter_sublist, ?_, ?_⟩
      · simp only [Report.output_events]
        simp only [Report.output, Command.remarks, List.filterMap_map, Function.comp_def,
          Remark.output?]
        exact congrFun List.filterMap_eq_map' _
      · rintro content kept ⟨⟩ h
        rw [hstop] at h
        cases h
        rfl

theorem output_ofFiles (read : String → Except ReadError String) (command : Command)
    (files : List String) : (Report.ofFiles read command files).output =
      files.flatMap fun file => (Report.ofFile read command file).output := by
  simp only [Report.output, Report.ofFiles, List.flatMap_map, List.filterMap_flatMap]

/-- The lines of a run are those of its files, one file after the other. -/
theorem lines?_run (h : Invocation.ofWords words = .run (.tokens options) files) :
    lines? (Program.run read filter words).output =
      some (files.flatMap fun file => (Report.ofFile read (.tokens options) file).output) := by
  rw [Program.run, h]
  show lines? (joinLines (Report.ofFiles read (.tokens options) files).output) = _
  rw [output_ofFiles]
  refine lines?_joinLines fun line hline => ?_
  obtain ⟨file, -, hmem⟩ := List.mem_flatMap.1 hline
  obtain ⟨text, lexemes, -, houtput, -⟩ := exists_sublist_output read options file
  rw [houtput] at hmem
  obtain ⟨lexeme, -, rfl⟩ := List.mem_map.1 hmem
  exact newline_not_mem_render lexeme

theorem lineColumn_orders_places :
    (∀ text c d, Visited text c → Visited text d →
      (c.offset < d.offset ↔ c.position.line < d.position.line ∨
        c.position.line = d.position.line ∧ c.position.column < d.position.column) ∧
      (c.offset ≠ d.offset → c.position.render ≠ d.position.render)) ∧
    ∀ read filter words options files, Invocation.ofWords words = .run (.tokens options) files →
      lines? (Program.run read filter words).output =
        some (files.flatMap fun file => (Report.ofFile read (.tokens options) file).output) ∧
      ∀ file ∈ files, ∃ (entries : List Entry) (places : List Position),
        (Report.ofFile read (.tokens options) file).output.mapM Entry.ofLine? = some entries ∧
        entries.map (·.place) = places.map Position.render ∧
        places.Pairwise (·.lineColumn < ·.lineColumn) ∧ (entries.map (·.place)).Nodup ∧
        ∀ text lexemes, read file = .ok text → tokenize text options = .ok lexemes →
          places = lexemes.map (·.start) := by
  refine ⟨fun text c d hc hd => ⟨?_, hc.render_ne hd⟩,
    fun read filter words options files h => ⟨lines?_run h, fun file _ => ?_⟩⟩
  · exact (hc.offset_lt_iff hd).trans Position.lineColumn_lt_iff
  · obtain ⟨text, lexemes, hsublist, houtput, hkept⟩ := exists_sublist_output read options file
    have hplaces : (lexemes.map (·.start)).Pairwise (·.lineColumn < ·.lineColumn) :=
      List.pairwise_map.2 ((pairwise_lineColumn text).sublist hsublist)
    have hentries : (lexemes.map Lexeme.entry).map (·.place) =
        (lexemes.map (·.start)).map Position.render := by
      rw [List.map_map, List.map_map]
      rfl
    refine ⟨lexemes.map Lexeme.entry, lexemes.map (·.start), ?_, hentries, hplaces, ?_, ?_⟩
    · rw [houtput, mapM_ofLine?]
    · rw [hentries]
      exact List.pairwise_map.2 (hplaces.imp Position.render_ne_of_lt)
    · intro content kept hcontent hok
      rw [hkept content kept hcontent hok]

/-- The two places within a pair, and two files of which one is listed twice. -/
theorem lineColumn_orders_places_within_pair :
    (∃ c d, Visited "a\r\nb" c ∧ Visited "a\r\nb" d ∧ c.position = ⟨2, 1, 3⟩ ∧
      d.position = ⟨3, 2, 1⟩ ∧ c.position.render ≠ d.position.render) ∧
    lines? (Program.run mixedTree.read none ["tokens", "a", "b", "a"]).output =
      some ["1:1\tidentifier\t\"x\"", "1:2\twhitespace\t\" \"", "1:3\tnumber\t\"1\"",
        "1:1\tidentifier\t\"x\"", "1:2\twhitespace\t\" \"", "1:3\tnumber\t\"1\""] ∧
    ∃ (entries : List Entry) (places : List Position),
      (Report.ofFile mixedTree.read (.tokens {}) "a").output.mapM Entry.ofLine? = some entries ∧
      entries.map (·.place) = ["1:1", "1:2", "1:3"] ∧
      entries.map (·.place) = places.map Position.render ∧
      places.Pairwise (·.lineColumn < ·.lineColumn) := by
  obtain ⟨hvisited, hrun⟩ := lineColumn_orders_places
  constructor
  · have hc : Visited "a\r\nb" (Cursor.advanceBy 2 (.start "a\r\nb")) := visited_iff.2 (.advanceBy _ _)
    have hd : Visited "a\r\nb" (Cursor.advanceBy 3 (.start "a\r\nb")) := visited_iff.2 (.advanceBy _ _)
    exact ⟨_, _, hc, hd, rfl, rfl, (hvisited _ _ _ hc hd).2 (by decide)⟩
  · have hwords : Invocation.ofWords ["tokens", "a", "b", "a"] = .run (.tokens {}) ["a", "b", "a"] := by
      decide +kernel
    obtain ⟨hlines, hfiles⟩ := hrun mixedTree.read none _ _ _ hwords
    obtain ⟨entries, places, hentries, hplaces, hpairwise, -⟩ := hfiles "a" (.head _)
    refine ⟨hlines.trans (by decide +kernel), entries, places, hentries, ?_, hplaces, hpairwise⟩
    have hread : (Report.ofFile mixedTree.read (.tokens {}) "a").output.mapM Entry.ofLine? =
        some [⟨"1:1", "identifier", "x"⟩, ⟨"1:2", "whitespace", " "⟩, ⟨"1:3", "number", "1"⟩] := by
      decide +kernel
    obtain rfl := Option.some.inj (hread.symm.trans hentries)
    rfl

end LexSpan
