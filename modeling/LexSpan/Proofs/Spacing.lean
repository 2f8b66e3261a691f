import LexSpan.Proofs.Canonical
import LexSpan.Proofs.Trivia

/-!
# Blanks between lexemes

Blanks may be inserted wherever one lexeme ends and the next one begins. Main statement
(`tokenize_spread`): the text that comes of it can be split, and without trivia it has the lexemes that
it had, by kind and text.

A text that ends goes on ending when blanks come into what follows it (`Kind.Ends.of_spaced`), as no
lexeme but trivia goes on with a blank, and no blank stands between a point and a digit that was not
there. Blanks in front of others join them (`exists_endEach_cons`), and trivia count as blanks
themselves. So a list in which every text ends where the next one begins stays one
(`exists_endEach_spread`), by induction on the list from its end.
-/

namespace LexSpan

/-- A text with blanks inserted somewhere. -/
inductive Spaced : List Char → List Char → Prop
  | nil : Spaced [] []
  | keep {c : Char} {as bs : List Char} (h : Spaced as bs) : Spaced (c :: as) (c :: bs)
  | blank {c : Char} {as bs : List Char} (hc : isWhiteSpaceOrNewLine c = true) (h : Spaced as bs) :
    Spaced as (c :: bs)

/-- The texts of lexemes with a gap in front of the first one and one behind each. -/
def spread (first : String) (spaced : List (Lexeme × String)) : String :=
  first ++ String.join (spaced.map fun p => p.1.text ++ p.2)

/-- What is left of texts without those that only separate others. -/
def significant (ts : List (Kind × String)) : List (Kind × String) :=
  ts.filter fun t => !t.1.isTrivia

variable {k : Kind} {ch : Char} {w gap as bs : List Char} {t : Kind × String}
  {ts : List (Kind × String)}

theorem significant_cons_of_isTrivia (h : t.1.isTrivia = true) (ts : List (Kind × String)) :
    significant (t :: ts) = significant ts :=
  List.filter_cons_of_neg (by rw [h]; decide)

theorem significant_cons_of_not_isTrivia (h : t.1.isTrivia = false) (ts : List (Kind × String)) :
    significant (t :: ts) = t :: significant ts :=
  List.filter_cons_of_pos (by rw [h]; decide)

/-! ## Insertions -/

namespace Spaced

theorem gap_append (hgap : ∀ c ∈ gap, isWhiteSpaceOrNewLine c = true) (h : Spaced as bs) :
    Spaced as (gap ++ bs) := by
  induction gap with
  | nil => exact h
  | cons c gap ih =>
    rw [List.forall_mem_cons] at hgap
    exact .blank hgap.1 (ih hgap.2)

theorem append_left (w : List Char) (h : Spaced as bs) : Spaced (w ++ as) (w ++ bs) := by
  induction w with
  | nil => exact h
  | cons c w ih => exact .keep ih

/-- What begins with a character other than a blank began with it before. -/
theorem of_cons (h : Spaced as (ch :: bs)) (hch : isWhiteSpaceOrNewLine ch = false) :
    ∃ as', as = ch :: as' ∧ Spaced as' bs := by
  cases h with
  | keep h => exact ⟨_, rfl, h⟩
  | blank hblank _ => exact absurd hblank (Bool.eq_false_iff.1 hch)

end Spaced

theorem StopsBefore.of_spaced {p : Char → Bool} (h : StopsBefore p as) (hs : Spaced as bs)
    (hp : ∀ c, isWhiteSpaceOrNewLine c = true → p c = false) : StopsBefore p bs := by
  cases hs with
  | nil => exact h
  | keep _ => exact h
  | blank hc _ =>
    rintro c ⟨⟩
    exact hp _ hc

/-! ## Kinds and blanks -/

theorem exists_opens_of_blank (h : isWhiteSpaceOrNewLine ch = true) :
    ∃ k : Kind, k.isTrivia = true ∧ k.opens ch = true := by
  rcases Bool.or_eq_true_iff.1 h with h | h
  · exact ⟨.newLine, rfl, h⟩
  · exact ⟨.whiteSpace, rfl, h⟩

/-- Trivia go together with trivia of their own kind only. -/
theorem Kind.eq_of_mergesWith {k' : Kind} (h : k.mergesWith k' = true)
    (htrivia : k.isTrivia = true ∨ k'.isTrivia = true) : k = k' := by
  cases k <;> cases k' <;> simp_all [mergesWith, isTrivia]

/-- Only blanks go on with a blank. -/
theorem Kind.goesOn_of_blank (hk : k.isTrivia = false) (h : isWhiteSpaceOrNewLine ch = true) :
    k.goesOn ch = false := by
  obtain ⟨k', hk', hopens⟩ := exists_opens_of_blank h
  rw [Kind.goesOn_eq hopens]
  refine Bool.eq_false_iff.2 fun hmerge => ?_
  rw [Kind.eq_of_mergesWith hmerge (.inr hk'), hk'] at hk
  cases hk

/-- A text ends in front of blanks as it does without them. -/
theorem Kind.Ends.of_spaced (h : k.Ends w as) (hk : k.isTrivia = false) (hs : Spaced as bs) :
    k.Ends w bs := by
  rw [Kind.ends_iff_stopsBefore] at h ⊢
  refine ⟨h.1.of_spaced hs fun c => goesOn_of_blank hk, fun hnumber hdot cs hcs => ?_⟩
  subst hcs
  obtain ⟨as', rfl, hs'⟩ := hs.of_cons (by decide)
  exact (h.2 hnumber hdot as' rfl).of_spaced hs' fun c => goesOn_of_blank (k := .number) rfl

theorem Kind.isText_iff_of_isTrivia (hk : k.isTrivia = true) :
    k.IsText w ↔ w ≠ [] ∧ ∀ c ∈ w, k.goesOn c = true := by
  cases k with
  | whiteSpace | newLine => exact Iff.rfl
  | _ => cases hk

theorem Kind.ends_iff_of_isTrivia (hk : k.isTrivia = true) :
    k.Ends w bs ↔ StopsBefore k.goesOn bs := by
  cases k with
  | whiteSpace | newLine => exact Iff.rfl
  | _ => cases hk

theorem Kind.opens_eq_goesOn (hk : k.isTrivia = true) : k.opens ch = k.goesOn ch := by
  cases k with
  | whiteSpace | newLine => rfl
  | _ => cases hk

/-! ## Blanks in front of a list of texts -/

/-- A blank goes together with the blanks of its kind that stand behind it. -/
theorem exists_endEach_cons (hch : isWhiteSpaceOrNewLine ch = true) (h : EndEach ts) :
    ∃ us, EndEach us ∧ charsOfTexts us = ch :: charsOfTexts ts ∧
      significant us = significant ts := by
  obtain ⟨k, hk, hopens⟩ := exists_opens_of_blank hch
  rw [Kind.opens_eq_goesOn hk] at hopens
  have hdropped : ∀ w ts, significant ((k, w) :: ts) = significant ts := fun _ =>
    significant_cons_of_isTrivia hk
  have hts := (endEach_iff_canonical.1 h).isText
  by_cases hstop : StopsBefore k.goesOn (charsOfTexts ts)
  · refine ⟨(k, String.ofList [ch]) :: ts, ⟨?_, (Kind.ends_iff_of_isTrivia hk).2 hstop, h⟩, ?_,
      hdropped _ _⟩
    · rw [Kind.isText_iff_of_isTrivia hk, String.toList_ofList]
      exact ⟨List.cons_ne_nil _ _, List.forall_mem_singleton.2 hopens⟩
    · rw [charsOfTexts_cons, String.toList_ofList, List.singleton_append]
  · obtain ⟨⟨k', w⟩, hfirst, hmerge⟩ : ∃ b, [b] <+: ts ∧ k.mergesWith b.1 = true := by
      simpa [stopsBefore_goesOn_iff k hts] using hstop
    obtain ⟨ts, rfl⟩ := hfirst
    obtain rfl := Kind.eq_of_mergesWith hmerge (.inl hk)
    obtain ⟨ht, he, hends⟩ := h
    rw [Kind.isText_iff_of_isTrivia hk] at ht
    refine ⟨(k, String.ofList (ch :: w.toList)) :: ts, ⟨?_, ?_, hends⟩, ?_, ?_⟩
    · rw [Kind.isText_iff_of_isTrivia hk, String.toList_ofList]
      exact ⟨List.cons_ne_nil _ _, List.forall_mem_cons.2 ⟨hopens, ht.2⟩⟩
    · exact (Kind.ends_iff_of_isTrivia hk).2 ((Kind.ends_iff_of_isTrivia hk).1 he)
    · rw [charsOfTexts_cons, String.toList_ofList, List.cons_append]
      rfl
    · exact (hdropped _ _).trans (hdropped _ _).symm

theorem exists_endEach_append (hgap : ∀ c ∈ gap, isWhiteSpaceOrNewLine c = true) (h : EndEach ts) :
    ∃ us, EndEach us ∧ charsOfTexts us = gap ++ charsOfTexts ts ∧
      significant us = significant ts := by
  induction gap with
  | nil => exact ⟨ts, h, rfl, rfl⟩
  | cons c gap ih =>
    rw [List.forall_mem_cons] at hgap
    obtain ⟨us, hus, hchars, hkept⟩ := ih hgap.2
    obtain ⟨vs, hvs, hchars', hkept'⟩ := exists_endEach_cons hgap.1 hus
    exact ⟨vs, hvs, by rw [hchars', hchars, List.cons_append], hkept'.trans hkept⟩

/-! ## Gaps between texts -/

/-- The characters of lexemes with their gaps, in order. -/
def spreadChars (spaced : List (Lexeme × String)) : List Char :=
  spaced.flatMap fun p => p.1.text.toList ++ p.2.toList

variable {spaced : List (Lexeme × String)} {text first : String}

theorem spreadChars_cons (lexeme : Lexeme) (gap : String) (spaced : List (Lexeme × String)) :
    spreadChars ((lexeme, gap) :: spaced) =
      lexeme.text.toList ++ (gap.toList ++ spreadChars spaced) := by
  rw [spreadChars, List.flatMap_cons, List.append_assoc]
  rfl

theorem toList_spread (first : String) (spaced : List (Lexeme × String)) :
    (spread first spaced).toList = first.toList ++ spreadChars spaced := by
  rw [spread, String.toList_append, String.toList_join, List.flatMap_map, spreadChars]
  simp only [String.toList_append]

theorem spaced_spreadChars
    (hgaps : ∀ gap ∈ spaced.map Prod.snd, ∀ c ∈ gap.toList, isWhiteSpaceOrNewLine c = true) :
    Spaced (charsOf (spaced.map Prod.fst)) (spreadChars spaced) := by
  induction spaced with
  | nil => exact .nil
  | cons p spaced ih =>
    rw [List.map_cons, List.forall_mem_cons] at hgaps
    rw [List.map_cons, charsOf_cons, spreadChars_cons]
    exact .append_left _ (.gap_append hgaps.1 (ih hgaps.2))

/-- Gaps leave each text where it ends, but for trivia, which become part of the gaps. -/
theorem exists_endEach_spread (h : EndEach ((spaced.map Prod.fst).map Lexeme.tagged))
    (hgaps : ∀ gap ∈ spaced.map Prod.snd, ∀ c ∈ gap.toList, isWhiteSpaceOrNewLine c = true) :
    ∃ us, EndEach us ∧ charsOfTexts us = spreadChars spaced ∧
      significant us = significant ((spaced.map Prod.fst).map Lexeme.tagged) := by
  induction spaced with
  | nil => exact ⟨[], trivial, rfl, rfl⟩
  | cons p spaced ih =>
    obtain ⟨lexeme, gap⟩ := p
    rw [List.map_cons, List.forall_mem_cons] at hgaps
    obtain ⟨ht, he, h⟩ := h
    rw [charsOfTexts_tagged] at he
    obtain ⟨us, hus, hchars, hkept⟩ := ih h hgaps.2
    obtain ⟨vs, hvs, hchars', hkept'⟩ := exists_endEach_append hgaps.1 hus
    rw [hchars] at hchars'
    rw [spreadChars_cons, ← hchars', List.map_cons, List.map_cons]
    cases hk : lexeme.kind.isTrivia with
    | true =>
      -- the text of the lexeme is a gap like the one behind it
      obtain ⟨ws, hws, hjoined, hleft⟩ := exists_endEach_append (ht.blank hk) hvs
      refine ⟨ws, hws, hjoined, ?_⟩
      rw [hleft, hkept', hkept, significant_cons_of_isTrivia hk]
    | false =>
      have hbehind : Spaced (charsOf (spaced.map Prod.fst)) (charsOfTexts vs) := by
        rw [hchars']
        exact .gap_append hgaps.1 (spaced_spreadChars hgaps.2)
      refine ⟨lexeme.tagged :: vs, ⟨ht, he.of_spaced hk hbehind, hvs⟩, rfl, ?_⟩
      rw [significant_cons_of_not_isTrivia hk, significant_cons_of_not_isTrivia hk, hkept', hkept]

/-- The kinds and texts of lexemes without trivia. -/
theorem tagged_filter (lexemes : List Lexeme) :
    (lexemes.filter (Options.keeps ⟨false⟩)).map Lexeme.tagged =
      significant (lexemes.map Lexeme.tagged) := by
  rw [significant, List.filter_map]
  rfl

theorem tokenize_spread (text first : String) (spaced : List (Lexeme × String))
    (h : tokenize text = .ok (spaced.map Prod.fst))
    (hgaps : ∀ gap ∈ first :: spaced.map Prod.snd,
      ∀ c ∈ gap.toList, isWhiteSpaceOrNewLine c = true) :
    String.join (spaced.map fun p => p.1.text) = text ∧
    (∃ lexemes, tokenize (spread first spaced) = .ok lexemes) ∧
    ∃ kept kept', tokenize text ⟨false⟩ = .ok kept ∧
      tokenize (spread first spaced) ⟨false⟩ = .ok kept' ∧
      kept'.map Lexeme.tagged = kept.map Lexeme.tagged := by
  rw [List.forall_mem_cons] at hgaps
  obtain ⟨last, hreads, hend⟩ := tokenize_eq_ok_iff.1 h
  have hends := hreads.endEach (Cursor.valid_start text) hend
  obtain ⟨us, hus, hchars, hkept⟩ := exists_endEach_spread hends hgaps.2
  obtain ⟨vs, hvs, hchars', hkept'⟩ := exists_endEach_append hgaps.1 hus
  have hrest : (Cursor.start (spread first spaced)).rest = charsOfTexts vs := by
    rw [hchars', hchars, ← toList_spread]
    rfl
  obtain ⟨lexemes, last', hreads', hend', htagged⟩ :=
    exists_reads_of_endEach hvs (Cursor.valid_start _) hrest
  have h' := tokenize_eq_ok_iff.2 ⟨last', hreads', hend'⟩
  refine ⟨?_, ⟨lexemes, h'⟩, _, _, tokenize_filter h ⟨false⟩, tokenize_filter h' ⟨false⟩, ?_⟩
  · have hjoin := join_texts (spaced.map Prod.fst)
    rw [hreads.charsOf_eq hend, String.ofList_toList, List.map_map] at hjoin
    exact hjoin
  · rw [tagged_filter, tagged_filter, htagged, hkept', hkept]

/-- Around a dangling point, in front of a return that the gap makes a pair, and around a string that
holds the other quote. -/
theorem tokenize_spread_pair :
    ∃ kept kept', tokenize "1.\r'\"'" ⟨false⟩ = .ok kept ∧
      tokenize "\n1. \r\n'\"'\t" ⟨false⟩ = .ok kept' ∧
      kept'.map Lexeme.tagged = kept.map Lexeme.tagged ∧
      kept.map Lexeme.tagged = [(.number, "1"), (.symbol, "."), (.string, "'\"'")] := by
  have h : tokenize "1.\r'\"'" = .ok ([
      (⟨⟨"1", ⟨0, 1, 1⟩, ⟨1, 1, 2⟩⟩, .number⟩, ""), (⟨⟨".", ⟨1, 1, 2⟩, ⟨2, 1, 3⟩⟩, .symbol⟩, " "),
      (⟨⟨"\r", ⟨2, 1, 3⟩, ⟨3, 2, 1⟩⟩, .newLine⟩, "\n"),
      (⟨⟨"'\"'", ⟨3, 2, 1⟩, ⟨6, 2, 4⟩⟩, .string⟩, "\t")].map Prod.fst) := by decide +kernel
  have hblank : (["\n", "", " ", "\n", "\t"].all fun gap =>
      gap.toList.all isWhiteSpaceOrNewLine) = true := by decide +kernel
  obtain ⟨-, -, kept, kept', hkept, hkept', htagged⟩ := tokenize_spread _ "\n" _ h
    fun gap hgap => List.all_eq_true.1 (List.all_eq_true.1 hblank gap hgap)
  refine ⟨kept, kept', hkept, hkept', htagged, ?_⟩
  have hbare : (tokenize "1.\r'\"'" ⟨false⟩).toOption.map (·.map Lexeme.tagged) =
      some [(.number, "1"), (.symbol, "."), (.string, "'\"'")] := by decide +kernel
  rw [hkept] at hbare
  exact Option.some.inj hbare

end LexSpan
