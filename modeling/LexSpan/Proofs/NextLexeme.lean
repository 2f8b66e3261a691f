import LexSpan.Lexing
import LexSpan.Proofs.Motion
import LexSpan.Proofs.Munch

/-!
# The next lexeme

What one step of splitting a text does at a valid cursor. Main statement (`next_cases`): at the end
there is no next lexeme; otherwise it is the text of the kind that the current character opens, up
to where that text ends, or the character is a quote that opens no literal and the step fails, with
the error that `Diagnosis` gives.

The order in which the kinds are tried does not matter, as long as symbols come last
(`next_of_opens`): a kind that the current character does not open takes nothing.
-/

namespace LexSpan

open Quoted

theorem extent?_nil (k : Kind) : k.shape.extent? [] = none := by cases k <;> rfl

theorem extent?_run_of_not {p : Char → Bool} {ch : Char} (cs : List Char) (h : p ch = false) :
    (Shape.run p).extent? (ch :: cs) = none := by
  simp only [Shape.extent?]
  exact if_pos (List.takeWhile_cons_of_neg (Bool.eq_false_iff.1 h))

/-- A kind takes nothing where it does not open. Symbols are left out, as their shape takes any
character. -/
theorem extent?_of_not_opens {k : Kind} {ch : Char} (cs : List Char) (hs : k ≠ .symbol)
    (h : k.opens ch = false) : k.shape.extent? (ch :: cs) = none := by
  cases k with
  | whiteSpace | newLine => exact extent?_run_of_not cs h
  | identifier => exact if_neg (Bool.eq_false_iff.1 h)
  | number =>
    exact if_pos (List.takeWhile_cons_of_neg (Bool.eq_false_iff.1 h))
  | string =>
    have hq : Quote.ofChar? ch = none := Option.not_isSome_iff_eq_none.1 (Bool.eq_false_iff.1 h)
    simp only [Kind.shape, Shape.extent?, extent, hq]
    rfl
  | symbol => exact absurd rfl hs

namespace Cursor

/-- The lexeme of a kind with the text `w` that stands under a cursor. -/
def lexeme (c : Cursor) (k : Kind) (w : List Char) : Lexeme :=
  ⟨⟨String.ofList w, c.position, (advanceBy w.length c).position⟩, k⟩

variable {c : Cursor} {k : Kind} {ch : Char} {w bs cs : List Char}

theorem length_lexeme (k : Kind) (hc : c.rest = w ++ bs) :
    (c.lexeme k w).length = Utf8.length w := by
  have hoffset := offset_advanceBy hc
  show (advanceBy w.length c).offset - c.offset = Utf8.length w
  omega

/-! ## Attempts at one kind -/

theorem readAs_eq_none (h : k.shape.extent? c.rest = none) : c.readAs k = .ok none := by
  rw [readAs, read_eq_none h]

theorem readAs_eq_some (hv : c.Valid) (hc : c.rest = w ++ bs)
    (h : k.shape.extent? c.rest = some (Utf8.length w)) :
    c.readAs k = .ok (some (c.lexeme k w, advanceBy w.length c)) := by
  rw [readAs, read_eq_some hv hc h]
  rfl

theorem attempt_of_atEnd (h : c.rest = []) : c.attempt k = .ok none := by
  have hread : c.readAs k = .ok none := readAs_eq_none (by rw [h, extent?_nil])
  unfold attempt
  split
  · rw [h]
    exact hread
  · exact hread

theorem attempt_of_not_opens (hc : c.rest = ch :: cs) (hs : k ≠ .symbol)
    (h : k.opens ch = false) : c.attempt k = .ok none := by
  have hread : c.readAs k = .ok none := readAs_eq_none (by rw [hc, extent?_of_not_opens cs hs h])
  unfold attempt
  split
  · next hk =>
    subst hk
    have hq : Quote.ofChar? ch = none := Option.not_isSome_iff_eq_none.1 (Bool.eq_false_iff.1 h)
    simp only [hc, extent, hq]
    exact hread
  · exact hread

theorem attempt_of_isText (hv : c.Valid) (hc : c.rest = w ++ bs) (ht : k.IsText w)
    (he : k.Ends w bs) : c.attempt k = .ok (some (c.lexeme k w, advanceBy w.length c)) := by
  unfold attempt
  split
  · next hk =>
    subst hk
    obtain ⟨q, hw⟩ := ht
    have hext : extent none c.rest = .ok (Utf8.length w) :=
      extent_eq_ok_iff.2 ⟨q, w, bs, .inl rfl, hw, hc, rfl⟩
    rw [hext]
    refine readAs_eq_some hv hc ?_
    rw [Kind.shape, Shape.extent?, hext]
    rfl
  · next hk =>
    refine readAs_eq_some hv hc ?_
    rw [hc]
    exact Kind.extent?_of_isText hk ht he

/-- What is wrong with a quote `q` under a cursor that opens no literal before `body`. A bad escape
is found only if there is another quote behind the first. -/
inductive Diagnosis (c : Cursor) (q : Quote) (body : List Char) : LexError → Prop
  | invalidEscape {items : List Char} (hmem : q.char ∈ body)
    (hbad : BadEscapeAfter q items body) :
    Diagnosis c q body ⟨.invalidEscape, (advanceBy (1 + items.length) c).position⟩
  | unterminated (h : ¬ (q.char ∈ body ∧ ∃ items, BadEscapeAfter q items body)) :
    Diagnosis c q body ⟨.unterminatedString, c.position⟩

theorem attempt_string_of_no_literal {q : Quote} {body : List Char} (hv : c.Valid)
    (hc : c.rest = q.char :: body) (hno : ∀ w, w <+: c.rest → ¬ IsLiteral q w) :
    ∃ e, Diagnosis c q body e ∧ c.attempt .string = .error (.malformed e) := by
  have hext : extent none c.rest = extentAfter q body := by
    rw [hc, extent, Quote.ofChar?_char]
    exact if_pos (.inl rfl)
  unfold attempt
  rw [if_pos rfl, hext]
  rcases extentAfter_of_no_literal (hc ▸ hno) with ⟨items, hmem, hbad, he⟩ | ⟨hbad, he⟩
  · refine ⟨_, .invalidEscape hmem hbad, ?_⟩
    obtain ⟨-, rest, hbody, -⟩ := hbad
    have hrest : c.rest = (q.char :: items) ++ rest := by rw [hc, hbody, List.cons_append]
    have hadvance := advanceTo_append hv hrest
    rw [Utf8.length_cons, Quote.utf8Size_char, List.length_cons, Nat.add_comm items.length]
      at hadvance
    rw [he]
    simp only [hadvance]
  · exact ⟨_, .unterminated hbad, by rw [he]⟩

/-! ## Attempts at all kinds in turn -/

theorem next_append {before : List Kind} (after : List Kind)
    (h : ∀ k ∈ before, c.attempt k = .ok none) : c.next (before ++ after) = c.next after := by
  induction before with
  | nil => rfl
  | cons k before ih =>
    rw [List.cons_append, next, h k List.mem_cons_self]
    exact ih fun k' hk' => h k' (List.mem_cons_of_mem _ hk')

theorem next_cons (after : List Kind) (h : c.attempt k ≠ .ok none) :
    c.next (k :: after) = c.attempt k := by
  rw [next]
  split
  · next hk => exact absurd hk h
  · rfl

/-- The kind that the current character opens decides, in whatever order the kinds are tried. -/
theorem next_of_opens {kinds : List Kind} (hmem : ∀ k, k ≠ .symbol → k ∈ kinds)
    (hs : .symbol ∉ kinds) (hc : c.rest = ch :: cs) (hk : k.opens ch = true)
    (h : c.attempt k ≠ .ok none) : c.next (kinds ++ [.symbol]) = c.attempt k := by
  have hother : ∀ k' ∈ kinds, k' ≠ k → c.attempt k' = .ok none := fun k' hk' hne => by
    refine attempt_of_not_opens hc (fun he => hs (he ▸ hk')) (Bool.eq_false_iff.2 fun ho => hne ?_)
    rw [← Kind.opens_iff.1 ho, Kind.opens_iff.1 hk]
  by_cases hsym : k = .symbol
  · rw [next_append _ fun k' hk' => hother k' hk' fun he => hs (hsym ▸ he ▸ hk'), ← hsym,
      next_cons _ h]
  · obtain ⟨before, after, hkinds, hbefore⟩ := List.eq_append_cons_of_mem (hmem k hsym)
    have hnone : ∀ k' ∈ before, c.attempt k' = .ok none := fun k' hk' =>
      hother k' (hkinds ▸ List.mem_append_left _ hk') fun he => hbefore (he ▸ hk')
    rw [hkinds, List.append_assoc, next_append _ hnone, List.cons_append, next_cons _ h]

theorem next_order_of_opens (hc : c.rest = ch :: cs) (hk : k.opens ch = true)
    (h : c.attempt k ≠ .ok none) : c.next Kind.order = c.attempt k :=
  have hmem : ∀ k : Kind, k ≠ .symbol → k ∈ [.string, .whiteSpace, .newLine, .identifier, .number] :=
    fun k hk => by cases k <;> simp_all
  next_of_opens hmem (by decide) hc hk h

theorem next_of_atEnd (h : c.rest = []) : c.next Kind.order = .ok none := by
  rw [← List.append_nil Kind.order, next_append [] fun _ _ => attempt_of_atEnd h, next]

/-- The next lexeme is whatever text of a kind stands under the cursor and ends. -/
theorem next_of_isText (hv : c.Valid) (hc : c.rest = w ++ bs) (ht : k.IsText w)
    (he : k.Ends w bs) :
    c.next Kind.order = .ok (some (c.lexeme k w, advanceBy w.length c)) := by
  obtain ⟨ch, cs, rfl, hk⟩ := ht.opens
  have hattempt := attempt_of_isText hv hc ht he
  rw [← hattempt]
  exact next_order_of_opens hc hk (by rw [hattempt]; exact fun h => by cases h)

theorem next_of_no_literal {q : Quote} {body : List Char} (hv : c.Valid)
    (hc : c.rest = q.char :: body) (hno : ∀ w, w <+: c.rest → ¬ IsLiteral q w) :
    ∃ e, Diagnosis c q body e ∧ c.next Kind.order = .error (.malformed e) := by
  obtain ⟨e, hdiagnosis, hattempt⟩ := attempt_string_of_no_literal hv hc hno
  refine ⟨e, hdiagnosis, ?_⟩
  rw [← hattempt]
  exact next_order_of_opens hc (Kind.string_opens_iff.2 ⟨q, rfl⟩)
    (by rw [hattempt]; exact fun h => by cases h)

/-- The three outcomes of a step. -/
theorem next_cases (hv : c.Valid) :
    (c.rest = [] ∧ c.next Kind.order = .ok none) ∨
    (∃ k w bs, c.rest = w ++ bs ∧ k.IsText w ∧ k.Ends w bs ∧
      c.next Kind.order = .ok (some (c.lexeme k w, advanceBy w.length c))) ∨
    ∃ q body e, c.rest = q.char :: body ∧ (∀ w, w <+: c.rest → ¬ IsLiteral q w) ∧
      Diagnosis c q body e ∧ c.next Kind.order = .error (.malformed e) := by
  rcases hc : c.rest with _ | ⟨ch, cs⟩
  · exact .inl ⟨rfl, next_of_atEnd hc⟩
  refine .inr ?_
  have hk := Kind.opens_ofChar ch
  by_cases hstring : Kind.ofChar ch = .string
  · obtain ⟨q, rfl⟩ := Kind.string_opens_iff.1 (hstring ▸ hk)
    by_cases hlit : ∃ w, w <+: c.rest ∧ IsLiteral q w
    · obtain ⟨w, ⟨bs, hw⟩, hlit⟩ := hlit
      have ht : Kind.string.IsText w := ⟨q, hlit⟩
      exact .inl ⟨.string, w, bs, hc.symm.trans hw.symm, ht, trivial,
        next_of_isText hv hw.symm ht trivial⟩
    · have hno : ∀ w, w <+: c.rest → ¬ IsLiteral q w := fun w hw hl => hlit ⟨w, hw, hl⟩
      obtain ⟨e, hdiagnosis, hnext⟩ := next_of_no_literal hv hc hno
      exact .inr ⟨q, cs, e, rfl, hc ▸ hno, hdiagnosis, hnext⟩
  · obtain ⟨w, bs, hw, ht, he⟩ := Kind.exists_isText_ends cs hstring hk
    exact .inl ⟨_, w, bs, hw, ht, he, next_of_isText hv (hc.trans hw) ht he⟩

end Cursor

end LexSpan
