import LexSpan.Proofs.Ahead
import LexSpan.Proofs.NextLexeme

/-!
# Runs of the lexer

`Reads c lexemes d` says that reading lexemes one after the other leads from `c` to `d` and brings
out `lexemes`. A text is split by such a run, from its start to its end or to where a step fails
(`exists_reads`).

From what one step does (`Cursor.lexeme_of_next`) follows by induction what a run does: the lexemes are the
text that was passed (`Reads.rest_eq`), they follow each other without a gap (`Reads.tiles`), and the
last cursor is the one that passed that text character by character (`Reads.eq_advanceBy`).
-/

namespace LexSpan

/-- Reading lexemes one after the other leads from a cursor to another. -/
inductive Reads : Cursor → List Lexeme → Cursor → Prop
  | refl (c : Cursor) : Reads c [] c
  | step {c d e : Cursor} {lexeme : Lexeme} {lexemes : List Lexeme}
    (h : c.next Kind.order = .ok (some (lexeme, d))) (hs : Reads d lexemes e) :
    Reads c (lexeme :: lexemes) e

/-- Each lexeme starts at the position where the one before it stops, from `p` to `q`. -/
def Tiles (p : Position) : List Lexeme → Position → Prop
  | [], q => p = q
  | lexeme :: lexemes, q => lexeme.start = p ∧ Tiles lexeme.stop lexemes q

/-- The characters of lexemes, in order. -/
def charsOf (lexemes : List Lexeme) : List Char := lexemes.flatMap fun lexeme => lexeme.text.toList

variable {c d : Cursor} {lexeme : Lexeme} {lexemes : List Lexeme}

/-! ## Splitting is a run -/

theorem ofCursor_of_none (h : c.next Kind.order = .ok none) : Lexing.ofCursor c = ⟨[], none⟩ := by
  rw [Lexing.ofCursor, lexFrom]
  split <;> simp_all

theorem ofCursor_of_error {stop : Stop} (h : c.next Kind.order = .error stop) :
    Lexing.ofCursor c = ⟨[], some stop⟩ := by
  rw [Lexing.ofCursor, lexFrom]
  split <;> simp_all

theorem ofCursor_of_some (h : c.next Kind.order = .ok (some (lexeme, d))) :
    Lexing.ofCursor c =
      ⟨lexeme :: (Lexing.ofCursor d).lexemes, (Lexing.ofCursor d).stop⟩ := by
  rw [Lexing.ofCursor, lexFrom]
  split
  · simp_all
  · simp_all
  · next h' =>
    rw [h] at h'
    cases h'
    rw [lexFrom_eq]
    rfl

theorem ofCursor_of_reads (h : Reads c lexemes d) :
    Lexing.ofCursor c =
      ⟨lexemes ++ (Lexing.ofCursor d).lexemes, (Lexing.ofCursor d).stop⟩ := by
  induction h with
  | refl => rfl
  | step h _ ih => rw [ofCursor_of_some h, ih, List.cons_append]

/-- Splitting reads lexemes until there are no more, or a step fails. -/
theorem exists_reads (c : Cursor) : ∃ d, Reads c (Lexing.ofCursor c).lexemes d ∧
    (d.next Kind.order = .ok none ∧ (Lexing.ofCursor c).stop = none ∨
      ∃ stop, d.next Kind.order = .error stop ∧ (Lexing.ofCursor c).stop = some stop) := by
  induction hn : c.rest.length using Nat.strongRecOn generalizing c with
  | ind n ih =>
    rcases h : c.next Kind.order with stop | _ | ⟨lexeme, d⟩
    · rw [ofCursor_of_error h]
      exact ⟨c, .refl c, .inr ⟨stop, h, rfl⟩⟩
    · rw [ofCursor_of_none h]
      exact ⟨c, .refl c, .inl ⟨h, rfl⟩⟩
    · obtain ⟨e, hreads, hend⟩ := ih _ (hn ▸ Cursor.length_rest_of_next h) d rfl
      rw [ofCursor_of_some h]
      exact ⟨e, .step h hreads, hend⟩

/-! ## What a run does -/

@[simp] theorem charsOf_cons (lexeme : Lexeme) (lexemes : List Lexeme) :
    charsOf (lexeme :: lexemes) = lexeme.text.toList ++ charsOf lexemes := rfl

/-- A step that succeeds takes the text of a kind, up to where it ends. -/
theorem Cursor.lexeme_of_next (hv : c.Valid) (h : c.next Kind.order = .ok (some (lexeme, d))) :
    ∃ bs, c.rest = lexeme.text.toList ++ bs ∧ lexeme.kind.IsText lexeme.text.toList ∧
      lexeme.kind.Ends lexeme.text.toList bs ∧
      lexeme = c.lexeme lexeme.kind lexeme.text.toList ∧
      d = Cursor.advanceBy lexeme.text.toList.length c := by
  rcases Cursor.next_cases hv with ⟨-, he⟩ | ⟨k, w, bs, hc, ht, hends, he⟩ | ⟨q, body, e, -, -, -, he⟩
  · rw [h] at he
    cases he
  · rw [h] at he
    simp only [Except.ok.injEq, Option.some.injEq, Prod.mk.injEq] at he
    obtain ⟨rfl, rfl⟩ := he
    have htext : (c.lexeme k w).text.toList = w := String.toList_ofList
    rw [htext]
    exact ⟨bs, hc, ht, hends, rfl, rfl⟩
  · rw [h] at he
    cases he

theorem Reads.valid (h : Reads c lexemes d) (hv : c.Valid) : d.Valid := by
  induction h with
  | refl => exact hv
  | step h _ ih =>
    obtain ⟨-, -, -, -, -, rfl⟩ := Cursor.lexeme_of_next hv h
    exact ih (hv.advanceBy _)

theorem Reads.rest_eq (h : Reads c lexemes d) (hv : c.Valid) :
    c.rest = charsOf lexemes ++ d.rest := by
  induction h with
  | refl => rfl
  | step h _ ih =>
    obtain ⟨bs, hc, -, -, -, rfl⟩ := Cursor.lexeme_of_next hv h
    rw [hc, charsOf_cons, List.append_assoc, ← ih (hv.advanceBy _), Cursor.rest_advanceBy hc]

theorem Reads.eq_advanceBy (h : Reads c lexemes d) (hv : c.Valid) :
    d = Cursor.advanceBy (charsOf lexemes).length c := by
  induction h with
  | refl => rfl
  | step h _ ih =>
    obtain ⟨-, -, -, -, -, rfl⟩ := Cursor.lexeme_of_next hv h
    rw [ih (hv.advanceBy _), charsOf_cons, List.length_append, Cursor.advanceBy_add]

theorem Reads.ahead (h : Reads c lexemes d) (hv : c.Valid) : c.Ahead d := by
  rw [h.eq_advanceBy hv]
  exact .advanceBy _ c

theorem Reads.tiles (h : Reads c lexemes d) (hv : c.Valid) :
    Tiles c.position lexemes d.position := by
  induction h with
  | refl => rfl
  | step h _ ih =>
    obtain ⟨-, -, -, -, hlexeme, rfl⟩ := Cursor.lexeme_of_next hv h
    refine ⟨by rw [hlexeme]; rfl, ?_⟩
    rw [hlexeme]
    exact ih (hv.advanceBy _)

/-- The span of every lexeme of a run is as long as its text. -/
theorem Reads.length_eq (h : Reads c lexemes d) (hv : c.Valid) :
    ∀ lexeme ∈ lexemes, lexeme.length = lexeme.text.utf8ByteSize := by
  induction h with
  | refl => exact List.forall_mem_nil _
  | @step _ _ _ lexeme _ h _ ih =>
    obtain ⟨bs, hc, -, -, hlexeme, rfl⟩ := Cursor.lexeme_of_next hv h
    refine List.forall_mem_cons.2 ⟨?_, ih (hv.advanceBy _)⟩
    have hlength := Cursor.length_lexeme lexeme.kind hc
    rwa [← hlexeme, ← Utf8.utf8ByteSize_eq] at hlength

/-- Every lexeme of a run has a text of its kind. -/
theorem Reads.isText (h : Reads c lexemes d) (hv : c.Valid) :
    ∀ lexeme ∈ lexemes, lexeme.kind.IsText lexeme.text.toList := by
  induction h with
  | refl => exact List.forall_mem_nil _
  | step h _ ih =>
    obtain ⟨-, -, ht, -, -, rfl⟩ := Cursor.lexeme_of_next hv h
    exact List.forall_mem_cons.2 ⟨ht, ih (hv.advanceBy _)⟩

/-- A run of more lexemes is a run of the first ones and, from where it leads, of the others. -/
theorem Reads.append_iff {before after : List Lexeme} {e : Cursor} :
    Reads c (before ++ after) e ↔ ∃ d, Reads c before d ∧ Reads d after e := by
  induction before generalizing c with
  | nil =>
    refine ⟨fun h => ⟨c, .refl c, h⟩, ?_⟩
    rintro ⟨d, h, hs⟩
    cases h
    exact hs
  | cons lexeme before ih =>
    constructor
    · intro h
      cases h with
      | step h hs =>
        obtain ⟨d, hbefore, hafter⟩ := ih.1 hs
        exact ⟨d, .step h hbefore, hafter⟩
    · rintro ⟨d, h, hafter⟩
      cases h with
      | step h hs => exact .step h (ih.2 ⟨d, hs, hafter⟩)

/-! ## Splitting a whole text -/

variable {text : String} {options : Options}

theorem Reads.text_eq (h : Reads (.start text) lexemes d) : d.text = text :=
  (h.ahead (Cursor.valid_start text)).text_eq

/-- A run to the end of a text passes all of it. -/
theorem Reads.charsOf_eq {last : Cursor} (h : Reads (.start text) lexemes last)
    (hend : last.rest = []) : charsOf lexemes = text.toList := by
  have hrest := h.rest_eq (Cursor.valid_start text)
  rw [hend, List.append_nil] at hrest
  exact hrest.symm

/-- The run over a text comes to its end, or to a quote that opens no literal. -/
theorem exists_reads_ofText (text : String) : ∃ last,
    Reads (.start text) (Lexing.ofText text).lexemes last ∧
      (last.rest = [] ∨ ∃ q body e, last.rest = q.char :: body ∧
        (∀ w, w <+: last.rest → ¬ Quoted.IsLiteral q w) ∧ last.Diagnosis q body e ∧
        last.next Kind.order = .error (.malformed e)) := by
  obtain ⟨last, hreads, hend⟩ := exists_reads (.start text)
  refine ⟨last, hreads, ?_⟩
  rcases Cursor.next_cases (hreads.valid (Cursor.valid_start text)) with
    ⟨hnil, -⟩ | ⟨k, w, bs, -, -, -, he⟩ | hmalformed
  · exact .inl hnil
  · rw [he] at hend
    rcases hend with ⟨hnone, -⟩ | ⟨stop, herror, -⟩
    · cases hnone
    · cases herror
  · exact .inr hmalformed

theorem tokenize_of_atEnd {last : Cursor} (h : Reads (.start text) lexemes last)
    (hend : last.rest = []) : tokenize text options = .ok (lexemes.filter options.keeps) := by
  rw [tokenize, Lexing.ofText, ofCursor_of_reads h, ofCursor_of_none (Cursor.next_of_atEnd hend),
    List.append_nil]
  rfl

theorem tokenize_of_error {last : Cursor} {stop : Stop} (h : Reads (.start text) lexemes last)
    (herror : last.next Kind.order = .error stop) : tokenize text options = .error stop := by
  rw [tokenize, Lexing.ofText, ofCursor_of_reads h, ofCursor_of_error herror]
  rfl

theorem tokenize_eq_error_iff {stop : Stop} :
    tokenize text options = .error stop ↔ (Lexing.ofText text).stop = some stop := by
  rw [tokenize, Lexing.outcome]
  cases (Lexing.ofText text).stop with
  | none => exact iff_of_false (fun h => by cases h) (fun h => by cases h)
  | some stop' => simp only [Except.error.injEq, Option.some.injEq]

/-- Nothing but a malformed string keeps a text from being split. -/
theorem exists_malformed {stop : Stop} (h : tokenize text options = .error stop) :
    ∃ e, stop = .malformed e := by
  obtain ⟨last, hreads, hend | ⟨q, body, e, -, -, -, herror⟩⟩ := exists_reads_ofText text
  · rw [tokenize_of_atEnd hreads hend] at h
    cases h
  · rw [tokenize_of_error hreads herror, Except.error.injEq] at h
    exact ⟨e, h.symm⟩

theorem exists_tokenize_ok_iff :
    (∃ ls, tokenize text options = .ok ls) ↔ (Lexing.ofText text).stop = none := by
  rw [tokenize, Lexing.outcome]
  cases (Lexing.ofText text).stop with
  | none => exact iff_of_true ⟨_, rfl⟩ rfl
  | some stop => exact iff_of_false (by rintro ⟨_, ⟨⟩⟩) (by rintro ⟨⟩)

/-- A text is split into `lexemes` exactly if reading them leads from its start to its end. -/
theorem tokenize_eq_ok_iff :
    tokenize text = .ok lexemes ↔ ∃ last, Reads (.start text) lexemes last ∧ last.rest = [] := by
  have hkeep : ∀ ls : List Lexeme, ls.filter (Options.keeps {}) = ls := fun ls =>
    List.filter_eq_self.2 fun _ _ => rfl
  constructor
  · intro h
    obtain ⟨last, hreads, hend | ⟨q, body, e, -, -, -, herror⟩⟩ := exists_reads_ofText text
    · rw [tokenize_of_atEnd hreads hend, hkeep, Except.ok.injEq] at h
      exact ⟨last, h ▸ hreads, hend⟩
    · rw [tokenize_of_error hreads herror] at h
      cases h
  · rintro ⟨last, hreads, hend⟩
    rw [tokenize_of_atEnd hreads hend, hkeep]

end LexSpan
