import LexSpan.Proofs.Canonical
import LexSpan.Proofs.Tiling
import Mathlib.Data.List.Forall2

/-!
# Two cursors in front of the same characters

Cursors over different texts may have the same in front of them, up to more text behind it, and
stand at positions between which some relation holds. `Cursor.Parallel` says so. Where the relation
is kept by steps over the same character (`StepsTogether`), the two go on side by side:

* `Parallel.advanceBy`: over the same characters they stay parallel, as long as the text behind does
  not change what follows the last of them;
* `Parallel.next`: they read the same lexeme, if it ends in both texts;
* `Parallel.reads`: they read the same lexemes, if the last of them is settled (`Settled`), since
  no other one reaches to the end;
* `Parallel.lexing`: with no more text behind, they split all that they have in front of them alike.
-/

namespace LexSpan

open Quoted

/-- Whether a relation between positions is kept by steps over the same character. -/
def StepsTogether (related : Position → Position → Prop) : Prop :=
  ∀ p p' ch next, related p p' → related (p.step ch next) (p'.step ch next)

theorem stepsTogether_eq : StepsTogether (· = ·) := fun _ _ _ _ h => h ▸ rfl

/-- A lexeme with other places. -/
def Lexeme.relocate (f : Position → Position) (lexeme : Lexeme) : Lexeme :=
  ⟨⟨lexeme.text, f lexeme.start, f lexeme.stop⟩, lexeme.kind⟩

/-- An error in another place. -/
def LexError.relocate (f : Position → Position) (e : LexError) : LexError := ⟨e.kind, f e.position⟩

/-- The second cursor has in front of it what the first one has, and `more` behind that. -/
structure Cursor.Parallel (related : Position → Position → Prop) (more : List Char)
    (c c' : Cursor) : Prop where
  valid : c.Valid
  valid_other : c'.Valid
  rest_eq : c'.rest = c.rest ++ more
  position : related c.position c'.position

/-- Two lexemes that differ in their places only. -/
structure Lexeme.Parallel (related : Position → Position → Prop) (lexeme lexeme' : Lexeme) :
    Prop where
  kind_eq : lexeme'.kind = lexeme.kind
  text_eq : lexeme'.text = lexeme.text
  start : related lexeme.start lexeme'.start
  stop : related lexeme.stop lexeme'.stop

/-- Two errors that differ in their places only. -/
structure LexError.Parallel (related : Position → Position → Prop) (e e' : LexError) : Prop where
  kind_eq : e'.kind = e.kind
  position : related e.position e'.position

/-- Whether it takes more text to tell if the point behind a number belongs to it. -/
def Lexeme.AwaitsDigit (lexeme : Lexeme) (rest : List Char) : Prop :=
  lexeme.kind = .number ∧ '.' ∉ lexeme.text.toList ∧ rest = ['.']

/-- Whether lexemes in front of `rest` stay as they are, whatever text follows behind it. -/
def Settled (lexemes : List Lexeme) (rest : List Char) : Prop :=
  rest ≠ [] ∧ ∀ last, lexemes.getLast? = some last → ¬ last.AwaitsDigit rest

variable {related : Position → Position → Prop} {more as bs : List Char} {c c' d : Cursor}
  {lexeme : Lexeme} {lexemes : List Lexeme}

/-! ## Where the relation is a function -/

section Relocation

variable {f : Position → Position} (hf : ∀ p p', related p p' → p' = f p)
include hf

theorem Lexeme.Parallel.eq_relocate {lexeme' : Lexeme} (h : lexeme.Parallel related lexeme') :
    lexeme' = lexeme.relocate f := by
  obtain ⟨⟨text', start', stop'⟩, kind'⟩ := lexeme'
  obtain ⟨rfl, rfl, hstart, hstop⟩ := h
  rw [Lexeme.relocate, ← hf _ _ hstart, ← hf _ _ hstop]

theorem Lexeme.eq_map_of_parallel {lexemes' : List Lexeme}
    (h : List.Forall₂ (Lexeme.Parallel related) lexemes lexemes') :
    lexemes' = lexemes.map (Lexeme.relocate f) := by
  induction h with
  | nil => rfl
  | cons hlexeme _ ih => rw [List.map_cons, ← ih, ← hlexeme.eq_relocate hf]

theorem LexError.Parallel.eq_relocate {e e' : LexError} (h : e.Parallel related e') :
    e' = e.relocate f := by
  obtain ⟨kind', position'⟩ := e'
  obtain ⟨rfl, hposition⟩ := h
  rw [LexError.relocate, ← hf _ _ hposition]

end Relocation

/-! ## Moving on -/

theorem head?_append_more (h : bs ≠ [] ∨ more = []) : (bs ++ more).head? = bs.head? := by
  rcases h with h | rfl
  · obtain ⟨b, bs, rfl⟩ := List.exists_cons_of_ne_nil h
    rfl
  · rw [List.append_nil]

theorem Cursor.Parallel.advanceBy (h : c.Parallel related more c') (hstep : StepsTogether related)
    (hc : c.rest = as ++ bs) (hbs : bs ≠ [] ∨ more = []) :
    (advanceBy as.length c).Parallel related more (advanceBy as.length c') := by
  induction as generalizing c c' with
  | nil => exact h
  | cons a as ih =>
    have hc : c.rest = a :: (as ++ bs) := hc
    have hc' : c'.rest = a :: (as ++ bs ++ more) := by rw [h.rest_eq, hc, List.cons_append]
    -- both steps look at the same next character
    have hnext : (as ++ bs ++ more).head? = (as ++ bs).head? :=
      head?_append_more (hbs.imp_left fun hne => List.append_ne_nil_of_right_ne_nil as hne)
    have hadvance : c.advance.Parallel related more c'.advance := by
      refine ⟨h.valid.advance, h.valid_other.advance, ?_, ?_⟩
      · rw [advance_of_rest hc, advance_of_rest hc']
      · rw [advance_of_rest hc, advance_of_rest hc', hnext]
        exact hstep _ _ _ _ h.position
    exact ih hadvance (by rw [advance_of_rest hc])

/-! ## One lexeme -/

theorem StopsBefore.append {p : Char → Bool} (h : StopsBefore p bs) (hbs : bs ≠ [])
    (more : List Char) : StopsBefore p (bs ++ more) := fun ch hch =>
  h ch (by rwa [← head?_append_more (.inl hbs)])

/-- A text that ends goes on ending, whatever follows behind. -/
theorem Kind.Ends.append {k : Kind} {w : List Char} (h : k.Ends w bs) (hbs : bs ≠ [])
    (hpoint : ¬ (k = number ∧ '.' ∉ w ∧ bs = ['.'])) (more : List Char) :
    k.Ends w (bs ++ more) := by
  rw [Kind.ends_iff_stopsBefore] at h ⊢
  refine ⟨h.1.append hbs more, fun hk hw cs hcs => ?_⟩
  obtain ⟨b, bs, rfl⟩ := List.exists_cons_of_ne_nil hbs
  rw [List.cons_append, List.cons_eq_cons] at hcs
  obtain ⟨rfl, rfl⟩ := hcs
  refine (h.2 hk hw bs rfl).append ?_ more
  rintro rfl
  exact hpoint ⟨hk, hw, rfl⟩

theorem Cursor.Parallel.next (h : c.Parallel related more c') (hstep : StepsTogether related)
    (hnext : c.next Kind.order = .ok (some (lexeme, d))) (hd : d.rest ≠ [] ∨ more = [])
    (he : lexeme.kind.Ends lexeme.text.toList (d.rest ++ more)) :
    ∃ lexeme' d', c'.next Kind.order = .ok (some (lexeme', d')) ∧
      lexeme.Parallel related lexeme' ∧ d.Parallel related more d' := by
  obtain ⟨bs, hc, ht, -, hlexeme, rfl⟩ := lexeme_of_next h.valid hnext
  rw [rest_advanceBy hc] at hd he
  have hc' : c'.rest = lexeme.text.toList ++ (bs ++ more) := by
    rw [h.rest_eq, hc, List.append_assoc]
  have hlater := h.advanceBy hstep hc hd
  refine ⟨_, _, next_of_isText h.valid_other hc' ht he, ?_, hlater⟩
  have hstart : lexeme.start = c.position := by rw [hlexeme]; rfl
  have hstop : lexeme.stop = (Cursor.advanceBy lexeme.text.toList.length c).position :=
    congrArg (fun l : Lexeme => l.stop) hlexeme
  exact {
    kind_eq := rfl
    text_eq := String.ofList_toList
    start := hstart ▸ h.position
    stop := hstop ▸ hlater.position }

/-! ## Runs -/

theorem Settled.tail (h : Settled (lexeme :: lexemes) bs) : Settled lexemes bs := by
  refine ⟨h.1, fun last hlast => h.2 last ?_⟩
  rw [List.getLast?_cons, hlast, Option.getD_some]

/-- Only the last lexeme of a run may wait for what follows behind the run. -/
theorem Settled.not_awaitsDigit {e : Cursor} (h : Settled (lexeme :: lexemes) e.rest)
    (hs : Reads d lexemes e) (hv : d.Valid) : ¬ lexeme.AwaitsDigit d.rest := by
  cases hs with
  | refl => exact h.2 lexeme rfl
  | @step _ f _ other others hnext hs =>
    rintro ⟨-, -, hpoint⟩
    obtain ⟨bs, hd, ht, -, -, rfl⟩ := Cursor.lexeme_of_next hv hnext
    have hbs := hs.rest_eq (hv.advanceBy _)
    rw [Cursor.rest_advanceBy hd] at hbs
    rw [hpoint, hbs] at hd
    -- the other lexeme and what follows the run are two characters at least
    have hlength := congrArg List.length hd
    have := List.length_pos_iff.2 ht.ne_nil
    have := List.length_pos_iff.2 h.1
    simp only [List.length_append, List.length_singleton] at hlength
    omega

theorem Cursor.Parallel.reads (h : c.Parallel related more c') (hstep : StepsTogether related)
    (hreads : Reads c lexemes d) (hd : Settled lexemes d.rest ∨ more = []) :
    ∃ lexemes' d', Reads c' lexemes' d' ∧ List.Forall₂ (Lexeme.Parallel related) lexemes lexemes' ∧
      d.Parallel related more d' := by
  induction hreads generalizing c' with
  | refl => exact ⟨[], c', .refl c', .nil, h⟩
  | @step c e d lexeme lexemes hnext hs ih =>
    obtain ⟨bs, hc, -, hends, -, he⟩ := lexeme_of_next h.valid hnext
    have hv : e.Valid := he ▸ h.valid.advanceBy _
    have hbs : bs = e.rest := by rw [he, rest_advanceBy hc]
    have hrest := hs.rest_eq hv
    rw [hbs] at hends
    have hbehind : e.rest ≠ [] ∨ more = [] := hd.imp_left fun hsettled =>
      hrest ▸ List.append_ne_nil_of_right_ne_nil _ hsettled.1
    have hmore : lexeme.kind.Ends lexeme.text.toList (e.rest ++ more) := by
      rcases hd with hsettled | rfl
      · have hne : e.rest ≠ [] := hrest ▸ List.append_ne_nil_of_right_ne_nil _ hsettled.1
        exact hends.append hne (hsettled.not_awaitsDigit hs hv) more
      · rwa [List.append_nil]
    obtain ⟨lexeme', e', hnext', hlexeme, he'⟩ := h.next hstep hnext hbehind hmore
    obtain ⟨lexemes', d', hs', hlexemes, hd'⟩ := ih he' (hd.imp_left Settled.tail)
    exact ⟨lexeme' :: lexemes', d', .step hnext' hs', .cons hlexeme hlexemes, hd'⟩

/-! ## Errors -/

/-- The same is wrong at both cursors. -/
theorem Cursor.Diagnosis.parallel {q : Quote} {body : List Char} {e e' : LexError}
    (hd : c.Diagnosis q body e) (hd' : c'.Diagnosis q body e') (h : c.Parallel related [] c')
    (hstep : StepsTogether related) (hc : c.rest = q.char :: body) :
    e.Parallel related e' := by
  cases hd with
  | @invalidEscape items hmem hbad =>
    cases hd' with
    | @invalidEscape items' _ hbad' =>
      obtain rfl := hbad.eq hbad'
      obtain ⟨-, rest, rfl, -⟩ := hbad
      have hsplit : c.rest = (q.char :: items) ++ rest := hc
      have hlater := h.advanceBy hstep hsplit (.inr rfl)
      rw [List.length_cons, Nat.add_comm] at hlater
      exact ⟨rfl, hlater.position⟩
    | unterminated hno => exact absurd ⟨hmem, items, hbad⟩ hno
  | unterminated hno =>
    cases hd' with
    | @invalidEscape items hmem hbad => exact absurd ⟨hmem, items, hbad⟩ hno
    | unterminated => exact ⟨rfl, h.position⟩

/-- What two cursors in front of the same make of it, with the same lexemes and the same end. -/
theorem Cursor.Parallel.lexing (h : c.Parallel related [] c') (hstep : StepsTogether related) :
    List.Forall₂ (Lexeme.Parallel related) (Lexing.ofCursor c).lexemes
        (Lexing.ofCursor c').lexemes ∧
      ((Lexing.ofCursor c).stop = none ∧ (Lexing.ofCursor c').stop = none ∨
        ∃ e e', (Lexing.ofCursor c).stop = some (.malformed e) ∧
          (Lexing.ofCursor c').stop = some (.malformed e') ∧ e.Parallel related e') := by
  obtain ⟨d, hreads, hend⟩ := exists_reads c
  obtain ⟨lexemes', d', hreads', hlexemes, hd⟩ := h.reads hstep hreads (.inr rfl)
  have hsame : d'.rest = d.rest := by rw [hd.rest_eq, List.append_nil]
  rw [ofCursor_of_reads hreads']
  rcases next_cases hd.valid with ⟨hnil, hnone⟩ | ⟨k, w, bs, -, -, -, hsome⟩ |
    ⟨q, body, e, hc, hno, hdiagnosis, herror⟩
  · rw [ofCursor_of_none (next_of_atEnd (hsame.trans hnil)), List.append_nil]
    refine ⟨hlexemes, .inl ⟨?_, rfl⟩⟩
    rcases hend with ⟨-, hstop⟩ | ⟨stop, hstop, -⟩
    · exact hstop
    · rw [hnone] at hstop
      cases hstop
  · rw [hsome] at hend
    rcases hend with ⟨hend, -⟩ | ⟨stop, hend, -⟩ <;> cases hend
  · obtain ⟨e', hdiagnosis', herror'⟩ :=
      next_of_no_literal hd.valid_other (hsame.trans hc) (hsame ▸ hno)
    rw [ofCursor_of_error herror', List.append_nil]
    refine ⟨hlexemes, .inr ⟨e, e', ?_, rfl, hdiagnosis.parallel hdiagnosis' hd hstep hc⟩⟩
    rcases hend with ⟨hstop, -⟩ | ⟨stop, hstop, hend⟩
    · rw [herror] at hstop
      cases hstop
    · rw [herror] at hstop
      cases hstop
      exact hend

end LexSpan
