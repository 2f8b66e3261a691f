import LexSpan.Proofs.LexingRun

/-!
# Canonical lists of texts

A list of texts with their kinds is canonical if each is a text of its kind and no neighbours would
be read as one. Main statement (`tokenize_iff_canonical`): the lexemes of a text are a canonical
list, and every canonical list is what its texts put together are split into.

In between stands `EndEach`: every text of the list ends where the next one begins. Runs bring out
such lists and follow them (`Reads.endEach`, `exists_reads_of_endEach`). Whether a text goes on is
decided by the first character behind it, hence by the kind of the next text (`Kind.goesOn_eq`),
and, where a number has no fraction yet, by the next two texts (`ends_iff`).
-/

namespace LexSpan

namespace Kind

/-- Whether a text of one kind and a text of another right behind it would be read as one. -/
def mergesWith : Kind → Kind → Bool
  | whiteSpace, whiteSpace => true
  | newLine, newLine => true
  | identifier, identifier => true
  | identifier, number => true
  | number, number => true
  | _, _ => false

/-- Whether a text of a kind goes on with a character. -/
def goesOn : Kind → Char → Bool
  | whiteSpace => isWhiteSpace
  | newLine => isNewLine
  | identifier => isIdentifierPart
  | number => isDecimalDigit
  | string => fun _ => false
  | symbol => fun _ => false

end Kind

/-- The kind and the text of a lexeme, without its span. -/
def Lexeme.tagged (lexeme : Lexeme) : Kind × String := (lexeme.kind, lexeme.text)

/-- Whether a number, a point and a number would be read as one number. -/
def FormsFraction (whole point fraction : Kind × String) : Prop :=
  whole.1 = .number ∧ '.' ∉ whole.2.toList ∧ point = (.symbol, ".") ∧ fraction.1 = .number

/-- Texts of their kinds, with no neighbours that would be read as one. -/
structure Canonical (ts : List (Kind × String)) : Prop where
  isText : ∀ t ∈ ts, t.1.IsText t.2.toList
  pairs : ∀ a b, [a, b] <:+: ts → a.1.mergesWith b.1 = false
  triples : ∀ a b c, [a, b, c] <:+: ts → ¬ FormsFraction a b c

/-- The characters of texts, in order. -/
def charsOfTexts (ts : List (Kind × String)) : List Char := ts.flatMap fun t => t.2.toList

/-- Texts of their kinds, each of which ends where the next one begins. -/
def EndEach : List (Kind × String) → Prop
  | [] => True
  | t :: ts =>
    t.1.IsText t.2.toList ∧ t.1.Ends t.2.toList (charsOfTexts ts) ∧ EndEach ts

variable {t : Kind × String} {ts : List (Kind × String)}

@[simp] theorem charsOfTexts_cons (t : Kind × String) (ts : List (Kind × String)) :
    charsOfTexts (t :: ts) = t.2.toList ++ charsOfTexts ts := rfl

theorem charsOfTexts_eq (ts : List (Kind × String)) :
    charsOfTexts ts = (String.join (ts.map Prod.snd)).toList := by
  rw [charsOfTexts, String.toList_join, List.flatMap_map]

/-! ## Neighbours -/

/-- The first character of a text decides like its kind whether another text goes on with it. -/
theorem Kind.goesOn_eq {k k' : Kind} {c : Char} (h : k'.opens c = true) :
    k.goesOn c = k.mergesWith k' := by
  have hopens : ∀ j : Kind, j.opens c = decide (j = k') := fun j => by
    rw [Bool.eq_iff_iff, decide_eq_true_iff, opens_iff, opens_iff.1 h]
    exact eq_comm
  cases k with
  | whiteSpace => rw [show goesOn whiteSpace c = _ from hopens whiteSpace]; cases k' <;> rfl
  | newLine => rw [show goesOn newLine c = _ from hopens newLine]; cases k' <;> rfl
  | number => rw [show goesOn number c = _ from hopens number]; cases k' <;> rfl
  | identifier =>
    have hpart : goesOn identifier c = (opens number c || opens identifier c) := rfl
    rw [hpart, hopens, hopens]
    cases k' <;> rfl
  | string | symbol => cases k' <;> rfl

theorem Kind.ends_iff_stopsBefore {k : Kind} {w bs : List Char} :
    k.Ends w bs ↔ StopsBefore k.goesOn bs ∧
      (k = number → '.' ∉ w → ∀ cs, bs = '.' :: cs → StopsBefore isDecimalDigit cs) := by
  cases k <;> simp [Ends, goesOn, StopsBefore]

/-- The text behind stops a class exactly if its kind does. -/
theorem stopsBefore_goesOn_iff (k : Kind) (h : ∀ t ∈ ts, t.1.IsText t.2.toList) :
    StopsBefore k.goesOn (charsOfTexts ts) ↔ ∀ b, [b] <+: ts → k.mergesWith b.1 = false := by
  rcases ts with _ | ⟨t, ts⟩
  · refine iff_of_true (fun c hc => by cases hc) fun b hb => ?_
    cases List.prefix_nil.1 hb
  · obtain ⟨c, cs, ht, hopens⟩ := (h t List.mem_cons_self).opens
    simp [StopsBefore, ht, Kind.goesOn_eq hopens]

theorem Kind.eq_symbol_of_opens_point {k : Kind} (h : k.opens '.' = true) : k = symbol := by
  have hpoint : ofChar '.' = symbol := by decide +kernel
  rw [← opens_iff.1 h, hpoint]

/-- A character that opens another kind is in no text of a kind that it does not go on with, but for
strings, and for the points in numbers. -/
theorem Kind.IsText.not_mem_of_opens {k k' : Kind} {w : List Char} {ch : Char} (h : k.IsText w)
    (hstring : k ≠ .string) (hopens : k'.opens ch = true) (hne : k ≠ k') (hsymbol : k' ≠ .symbol)
    (hmerge : k.mergesWith k' = false) : ch ∉ w := by
  have hopen : k.opens ch = false :=
    Bool.eq_false_iff.2 fun hk => hne ((opens_iff.1 hk).symm.trans (opens_iff.1 hopens))
  have hgo : k.goesOn ch = false := (goesOn_eq hopens).trans hmerge
  have hpoint : ch ≠ '.' := by
    rintro rfl
    exact hsymbol (eq_symbol_of_opens_point hopens)
  have hrun : ∀ {w : List Char}, (∀ c ∈ w, k.goesOn c = true) → ch ∉ w := fun hall hmem =>
    Bool.false_ne_true (hgo.symm.trans (hall ch hmem))
  cases k with
  | whiteSpace | newLine => exact hrun h.2
  | identifier =>
    obtain ⟨first, others, rfl, hfirst, hothers⟩ := h
    rw [List.mem_cons, not_or]
    refine ⟨?_, hrun hothers⟩
    rintro rfl
    exact Bool.false_ne_true (hopen.symm.trans hfirst)
  | number =>
    rcases h with h | ⟨whole, fraction, hwhole, hfraction, rfl⟩
    · exact hrun h.2
    · rw [List.mem_append, List.mem_cons, not_or, not_or]
      exact ⟨hrun hwhole.2, hpoint, hrun hfraction.2⟩
  | string => exact absurd rfl hstring
  | symbol =>
    obtain ⟨c, rfl, hc⟩ := h
    rw [List.mem_singleton]
    rintro rfl
    exact Bool.false_ne_true (hopen.symm.trans hc)

/-- A point that stands behind is a text of its own. -/
theorem eq_point_iff {cs : List Char} (h : ∀ t ∈ ts, t.1.IsText t.2.toList) :
    charsOfTexts ts = '.' :: cs ↔ ∃ us, ts = (.symbol, ".") :: us ∧ charsOfTexts us = cs := by
  constructor
  · intro hcs
    rcases ts with _ | ⟨⟨k, w⟩, us⟩
    · cases hcs
    have hw := h _ List.mem_cons_self
    obtain ⟨c, others, ht, hopens⟩ := hw.opens
    rw [charsOfTexts_cons, ht, List.cons_append, List.cons_eq_cons] at hcs
    obtain ⟨rfl, hothers⟩ := hcs
    obtain rfl := Kind.eq_symbol_of_opens_point hopens
    obtain ⟨c, hc, -⟩ := hw
    obtain ⟨rfl, rfl⟩ := List.cons_eq_cons.1 (ht.symm.trans hc)
    have hw : w = "." := String.toList_inj.1 hc
    exact ⟨us, by rw [hw], hothers⟩
  · rintro ⟨us, rfl, rfl⟩
    rfl

/-- A text ends where others begin exactly if it goes together neither with the next nor with the
next two. -/
theorem ends_iff (h : ∀ u ∈ ts, u.1.IsText u.2.toList) :
    t.1.Ends t.2.toList (charsOfTexts ts) ↔
      (∀ b, [b] <+: ts → t.1.mergesWith b.1 = false) ∧
      ∀ b c, [b, c] <+: ts → ¬ FormsFraction t b c := by
  rw [Kind.ends_iff_stopsBefore, stopsBefore_goesOn_iff t.1 h]
  refine and_congr_right fun _ => ?_
  constructor
  · rintro hpoint b c ⟨vs, rfl⟩ ⟨hnumber, hdot, rfl, hc⟩
    have hstop := hpoint hnumber hdot _ rfl
    have hus : ∀ u ∈ c :: vs, u.1.IsText u.2.toList := fun u hu => h u (List.mem_cons_of_mem _ hu)
    have hmerge := (stopsBefore_goesOn_iff .number hus).1 hstop c (List.prefix_append [c] vs)
    rw [hc] at hmerge
    cases hmerge
  · intro hno hnumber hdot cs hcs
    obtain ⟨us, rfl, rfl⟩ := (eq_point_iff h).1 hcs
    have hus : ∀ u ∈ us, u.1.IsText u.2.toList := fun u hu => h u (List.mem_cons_of_mem _ hu)
    refine (stopsBefore_goesOn_iff .number hus).2 fun c hc => ?_
    have hfraction := hno _ c (List.cons_prefix_cons.2 ⟨rfl, hc⟩)
    have hkind : c.1 ≠ .number := fun hc => hfraction ⟨hnumber, hdot, rfl, hc⟩
    cases hk : c.1 <;> simp_all [Kind.mergesWith]

theorem canonical_cons_iff : Canonical (t :: ts) ↔ t.1.IsText t.2.toList ∧
    (∀ b, [b] <+: ts → t.1.mergesWith b.1 = false) ∧
    (∀ b c, [b, c] <+: ts → ¬ FormsFraction t b c) ∧ Canonical ts := by
  constructor
  · intro h
    refine ⟨h.isText t List.mem_cons_self, fun b hb => h.pairs t b ?_,
      fun b c hbc => h.triples t b c ?_, fun u hu => h.isText u (List.mem_cons_of_mem _ hu),
      fun a b hab => h.pairs a b ?_, fun a b c habc => h.triples a b c ?_⟩
    · exact (List.cons_prefix_cons.2 ⟨rfl, hb⟩).isInfix
    · exact (List.cons_prefix_cons.2 ⟨rfl, hbc⟩).isInfix
    · exact List.infix_cons_iff.2 (.inr hab)
    · exact List.infix_cons_iff.2 (.inr habc)
  · rintro ⟨ht, hpair, htriple, h⟩
    refine ⟨List.forall_mem_cons.2 ⟨ht, h.isText⟩, fun a b hab => ?_, fun a b c habc => ?_⟩
    · rcases List.infix_cons_iff.1 hab with hhead | htail
      · obtain ⟨rfl, hb⟩ := List.cons_prefix_cons.1 hhead
        exact hpair b hb
      · exact h.pairs a b htail
    · rcases List.infix_cons_iff.1 habc with hhead | htail
      · obtain ⟨rfl, hbc⟩ := List.cons_prefix_cons.1 hhead
        exact htriple b c hbc
      · exact h.triples a b c htail

theorem canonical_nil : Canonical [] where
  isText := List.forall_mem_nil _
  pairs a b h := by cases List.infix_nil.1 h
  triples a b c h := by cases List.infix_nil.1 h

theorem endEach_iff_canonical : EndEach ts ↔ Canonical ts := by
  induction ts with
  | nil => exact iff_of_true trivial canonical_nil
  | cons t ts ih =>
    rw [EndEach, ih, canonical_cons_iff]
    refine and_congr_right fun _ => ?_
    constructor
    · rintro ⟨he, h⟩
      obtain ⟨hpair, htriple⟩ := (ends_iff h.isText).1 he
      exact ⟨hpair, htriple, h⟩
    · rintro ⟨hpair, htriple, h⟩
      exact ⟨(ends_iff h.isText).2 ⟨hpair, htriple⟩, h⟩

/-! ## Runs -/

variable {c last : Cursor} {lexemes : List Lexeme}

theorem charsOfTexts_tagged (lexemes : List Lexeme) :
    charsOfTexts (lexemes.map Lexeme.tagged) = charsOf lexemes := by
  rw [charsOfTexts, List.flatMap_map]
  rfl

/-- In a run to the end every text ends where the next one begins. -/
theorem Reads.endEach (h : Reads c lexemes last) (hv : c.Valid) (hend : last.rest = []) :
    EndEach (lexemes.map Lexeme.tagged) := by
  induction h with
  | refl => trivial
  | step h hs ih =>
    obtain ⟨bs, hc, ht, he, -, rfl⟩ := Cursor.lexeme_of_next hv h
    have hbs := hs.rest_eq (hv.advanceBy _)
    rw [hend, List.append_nil, Cursor.rest_advanceBy hc, ← charsOfTexts_tagged] at hbs
    exact ⟨ht, hbs ▸ he, ih (hv.advanceBy _) hend⟩

/-- Where such texts stand under a cursor, a run reads them. -/
theorem exists_reads_of_endEach (h : EndEach ts) (hv : c.Valid) (hc : c.rest = charsOfTexts ts) :
    ∃ lexemes last, Reads c lexemes last ∧ last.rest = [] ∧ lexemes.map Lexeme.tagged = ts := by
  induction ts generalizing c with
  | nil => exact ⟨[], c, .refl c, hc, rfl⟩
  | cons t ts ih =>
    obtain ⟨ht, he, hs⟩ := h
    rw [charsOfTexts_cons] at hc
    obtain ⟨lexemes, last, hreads, hend, htagged⟩ :=
      ih hs (hv.advanceBy _) (Cursor.rest_advanceBy hc)
    refine ⟨_, last, .step (Cursor.next_of_isText hv hc ht he) hreads, hend, ?_⟩
    rw [List.map_cons, htagged, Lexeme.tagged, Cursor.lexeme, String.ofList_toList]

theorem tokenize_iff_canonical (text : String) (ts : List (Kind × String)) :
    (∃ lexemes, tokenize text = .ok lexemes ∧ lexemes.map Lexeme.tagged = ts) ↔
      Canonical ts ∧ String.join (ts.map Prod.snd) = text := by
  rw [← endEach_iff_canonical, ← String.toList_inj, ← charsOfTexts_eq]
  constructor
  · rintro ⟨lexemes, htokens, rfl⟩
    obtain ⟨last, hreads, hend⟩ := tokenize_eq_ok_iff.1 htokens
    exact ⟨hreads.endEach (Cursor.valid_start text) hend,
      (charsOfTexts_tagged lexemes).trans (hreads.charsOf_eq hend)⟩
  · rintro ⟨hends, htext⟩
    obtain ⟨lexemes, last, hreads, hend, htagged⟩ :=
      exists_reads_of_endEach hends (Cursor.valid_start text) htext.symm
    exact ⟨lexemes, tokenize_eq_ok_iff.2 ⟨last, hreads, hend⟩, htagged⟩

end LexSpan
