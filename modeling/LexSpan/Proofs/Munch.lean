import LexSpan.Proofs.FirstChar
import LexSpan.Proofs.StringLiteral

/-!
# The texts of the kinds, and where they end

`Kind.IsText` says which texts lexemes of a kind have, and `Kind.Ends` when such a text cannot go on
with what follows it. Together they say what a kind takes from the head of a text:
`exists_isText_ends` finds a text that ends, for every kind but strings, wherever the kind opens;
`extent?_of_isText` measures it.
-/

namespace LexSpan

/-- Whether `cs` does not go on with a character of a class. -/
def StopsBefore (p : Char → Bool) (cs : List Char) : Prop :=
  ∀ c, cs.head? = some c → p c = false

namespace StopsBefore

variable {p : Char → Bool} {w bs : List Char}

theorem dropWhile (p : Char → Bool) (cs : List Char) : StopsBefore p (cs.dropWhile p) := by
  intro c hc
  have h := List.head?_dropWhile_not p cs
  rw [hc] at h
  exact h

theorem takeWhile_eq_nil (h : StopsBefore p bs) : bs.takeWhile p = [] := by
  cases bs with
  | nil => rfl
  | cons b bs => exact List.takeWhile_cons_of_neg (Bool.eq_false_iff.1 (h b rfl))

theorem takeWhile_append (h : StopsBefore p bs) (hw : ∀ c ∈ w, p c = true) :
    (w ++ bs).takeWhile p = w := by
  rw [List.takeWhile_append_of_pos hw, h.takeWhile_eq_nil, List.append_nil]

theorem dropWhile_append (h : StopsBefore p bs) (hw : ∀ c ∈ w, p c = true) :
    (w ++ bs).dropWhile p = bs := by
  rw [List.dropWhile_append_of_pos hw]
  cases bs with
  | nil => rfl
  | cons b bs => exact List.dropWhile_cons_of_neg (Bool.eq_false_iff.1 (h b rfl))

end StopsBefore

theorem mem_takeWhile {p : Char → Bool} {cs : List Char} :
    ∀ c ∈ cs.takeWhile p, p c = true :=
  List.all_eq_true.1 List.all_takeWhile

/-- One or more decimal digits. -/
def IsDigits (w : List Char) : Prop := w ≠ [] ∧ ∀ c ∈ w, isDecimalDigit c = true

theorem IsDigits.not_mem {w : List Char} (h : IsDigits w) : '.' ∉ w :=
  fun hmem => absurd (h.2 _ hmem) (by decide)

namespace Kind

/-- The texts of lexemes of a kind. -/
def IsText : Kind → List Char → Prop
  | whiteSpace, w => w ≠ [] ∧ ∀ c ∈ w, isWhiteSpace c = true
  | newLine, w => w ≠ [] ∧ ∀ c ∈ w, isNewLine c = true
  | identifier, w =>
    ∃ first others, w = first :: others ∧ isIdentifierStart first = true ∧
      ∀ c ∈ others, isIdentifierPart c = true
  | number, w =>
    IsDigits w ∨ ∃ whole fraction, IsDigits whole ∧ IsDigits fraction ∧ w = whole ++ '.' :: fraction
  | string, w => ∃ q, Quoted.IsLiteral q w
  | symbol, w => ∃ c, w = [c] ∧ symbol.opens c = true

/-- Whether a text of a kind ends where `bs` follows: no longer text of the kind is there. -/
def Ends : Kind → List Char → List Char → Prop
  | whiteSpace, _, bs => StopsBefore isWhiteSpace bs
  | newLine, _, bs => StopsBefore isNewLine bs
  | identifier, _, bs => StopsBefore isIdentifierPart bs
  | number, w, bs =>
    StopsBefore isDecimalDigit bs ∧
      ('.' ∉ w → ∀ cs, bs = '.' :: cs → StopsBefore isDecimalDigit cs)
  | string, _, _ => True
  | symbol, _, _ => True

/-- A text opens with a character that its kind opens with. -/
theorem IsText.opens {k : Kind} {w : List Char} (h : k.IsText w) :
    ∃ c cs, w = c :: cs ∧ k.opens c = true := by
  have hrun : ∀ {p : Char → Bool}, w ≠ [] ∧ (∀ c ∈ w, p c = true) →
      ∃ c cs, w = c :: cs ∧ p c = true := fun ⟨hne, hall⟩ => by
    obtain ⟨c, cs, rfl⟩ := List.exists_cons_of_ne_nil hne
    exact ⟨c, cs, rfl, hall c List.mem_cons_self⟩
  cases k with
  | whiteSpace | newLine => exact hrun h
  | identifier =>
    obtain ⟨first, others, rfl, hfirst, -⟩ := h
    exact ⟨first, others, rfl, hfirst⟩
  | number =>
    rcases h with h | ⟨whole, fraction, hwhole, -, rfl⟩
    · exact hrun h
    · obtain ⟨c, cs, rfl⟩ := List.exists_cons_of_ne_nil hwhole.1
      exact ⟨c, cs ++ '.' :: fraction, rfl, hwhole.2 c List.mem_cons_self⟩
  | string =>
    obtain ⟨q, items, -, rfl⟩ := h
    exact ⟨q.char, _, rfl, string_opens_iff.2 ⟨q, rfl⟩⟩
  | symbol =>
    obtain ⟨c, rfl, hc⟩ := h
    exact ⟨c, [], rfl, hc⟩

theorem extent?_run {p : Char → Bool} {w bs : List Char} (hne : w ≠ [])
    (hall : ∀ c ∈ w, p c = true) (he : StopsBefore p bs) :
    (Shape.run p).extent? (w ++ bs) = some (Utf8.length w) := by
  simp only [Shape.extent?]
  rw [he.takeWhile_append hall, if_neg hne]

theorem extent?_oneThenRun {first others : Char → Bool} {c : Char} {w bs : List Char}
    (hc : first c = true) (hall : ∀ d ∈ w, others d = true) (he : StopsBefore others bs) :
    (Shape.oneThenRun first others).extent? (c :: w ++ bs) = some (Utf8.length (c :: w)) := by
  simp only [Shape.extent?, List.cons_append]
  rw [if_pos hc, he.takeWhile_append hall, Utf8.length_cons]

theorem fractionExtent_eq_zero {bs : List Char}
    (h : ∀ cs, bs = '.' :: cs → StopsBefore isDecimalDigit cs) : Shape.fractionExtent bs = 0 := by
  rcases bs with _ | ⟨c, cs⟩
  · rfl
  · refine if_neg fun ⟨hc, hd⟩ => hd ?_
    exact (h cs (by rw [hc])).takeWhile_eq_nil

theorem fractionExtent_append {fraction bs : List Char} (hf : IsDigits fraction)
    (he : StopsBefore isDecimalDigit bs) :
    Shape.fractionExtent ('.' :: fraction ++ bs) = Utf8.length ('.' :: fraction) := by
  simp only [Shape.fractionExtent, List.cons_append]
  rw [he.takeWhile_append hf.2, if_pos ⟨trivial, hf.1⟩, Utf8.length_cons]

theorem extent?_decimal {w bs : List Char} (h : number.IsText w) (he : number.Ends w bs) :
    Shape.decimal.extent? (w ++ bs) = some (Utf8.length w) := by
  simp only [Shape.extent?]
  rcases h with h | ⟨whole, fraction, hwhole, hfraction, rfl⟩
  · rw [he.1.takeWhile_append h.2, he.1.dropWhile_append h.2, if_neg h.1,
      fractionExtent_eq_zero (he.2 h.not_mem), Nat.add_zero]
  · have hdot : StopsBefore isDecimalDigit ('.' :: fraction ++ bs) := by
      rintro c ⟨⟩
      decide
    rw [List.append_assoc, hdot.takeWhile_append hwhole.2, hdot.dropWhile_append hwhole.2,
      if_neg hwhole.1, fractionExtent_append hfraction he.1, Utf8.length_append]

/-- The shape of a kind takes the text of that kind that ends. -/
theorem extent?_of_isText {k : Kind} {w bs : List Char} (hk : k ≠ string) (h : k.IsText w)
    (he : k.Ends w bs) : k.shape.extent? (w ++ bs) = some (Utf8.length w) := by
  cases k with
  | whiteSpace | newLine => exact extent?_run h.1 h.2 he
  | identifier =>
    obtain ⟨first, others, rfl, hfirst, hothers⟩ := h
    exact extent?_oneThenRun hfirst hothers he
  | number => exact extent?_decimal h he
  | string => exact absurd rfl hk
  | symbol =>
    obtain ⟨c, rfl, -⟩ := h
    exact extent?_oneThenRun rfl (List.forall_mem_nil _) fun _ _ => rfl

theorem exists_run {p : Char → Bool} {c : Char} (cs : List Char) (hc : p c = true) :
    ∃ w bs, c :: cs = w ++ bs ∧ (w ≠ [] ∧ ∀ d ∈ w, p d = true) ∧ StopsBefore p bs := by
  refine ⟨(c :: cs).takeWhile p, (c :: cs).dropWhile p, List.takeWhile_append_dropWhile.symm,
    ⟨?_, mem_takeWhile⟩, .dropWhile p _⟩
  rw [List.takeWhile_cons_of_pos hc]
  exact List.cons_ne_nil _ _

theorem exists_number {c : Char} (cs : List Char) (hc : isDecimalDigit c = true) :
    ∃ w bs, c :: cs = w ++ bs ∧ number.IsText w ∧ number.Ends w bs := by
  obtain ⟨whole, rest, hcs, hwhole, hrest⟩ := exists_run cs hc
  by_cases hfraction : ∃ d ds, rest = '.' :: d :: ds ∧ isDecimalDigit d = true
  · obtain ⟨d, ds, rfl, hd⟩ := hfraction
    obtain ⟨fraction, bs, hds, hfraction, hbs⟩ := exists_run ds hd
    refine ⟨whole ++ '.' :: fraction, bs, ?_, .inr ⟨whole, fraction, hwhole, hfraction, rfl⟩, hbs,
      fun hdot => ?_⟩
    · rw [hcs, hds, List.append_assoc, List.cons_append]
    · exact absurd (List.mem_append_right _ List.mem_cons_self) hdot
  · refine ⟨whole, rest, hcs, .inl hwhole, hrest, fun _ ds hds d hd => ?_⟩
    obtain ⟨ds, rfl⟩ := List.head?_eq_some_iff.1 hd
    exact Bool.eq_false_iff.2 fun hdigit => hfraction ⟨d, ds, hds, hdigit⟩

/-- A kind other than string takes something wherever it opens. -/
theorem exists_isText_ends {k : Kind} {c : Char} (cs : List Char) (hk : k ≠ string)
    (hc : k.opens c = true) : ∃ w bs, c :: cs = w ++ bs ∧ k.IsText w ∧ k.Ends w bs := by
  cases k with
  | whiteSpace | newLine => exact exists_run cs hc
  | identifier =>
    exact ⟨c :: cs.takeWhile isIdentifierPart, cs.dropWhile isIdentifierPart,
      by rw [List.cons_append, List.takeWhile_append_dropWhile],
      ⟨c, _, rfl, hc, mem_takeWhile⟩, .dropWhile _ cs⟩
  | number => exact exists_number cs hc
  | string => exact absurd rfl hk
  | symbol => exact ⟨[c], cs, rfl, ⟨c, rfl, hc⟩, trivial⟩

end Kind

end LexSpan
