import LexSpan.Proofs.LongestRuns

/-!
# Numbers, taken as far as they go

A number is digits, or digits, a point and digits (`Kind.number`). One that ends is the longest at its
place (`isLongest_number`): of the numbers that a text starts with, each is part of its digits or goes on
behind all of them with a point (`number_cases`).

Main statement (`decimal_longest`): the read of a number takes the longest one. It finds one exactly where
a digit stands, as the read of an integer does, and goes on behind the integer exactly if a point and a
digit follow. A point that no digit follows is given back: the read leads to the very cursor behind the
integer.
-/

namespace LexSpan

variable {property : List Char → Prop} {cs v w bs : List Char}

/-- There is one longest text. -/
theorem IsLongest.unique (h : IsLongest property cs v) (h' : IsLongest property cs w) : v = w :=
  (List.prefix_of_prefix_length_le h.head h'.head (h'.longest v h.holds h.head)).eq_of_length_le
    (h.longest w h'.holds h'.head)

theorem stopsBefore_point (cs : List Char) : StopsBefore isDecimalDigit ('.' :: cs) := by
  rintro c ⟨⟩
  decide

/-- A number at the head of a text lies within the digits there, or has all of them before its point. -/
theorem number_cases (hv : Kind.number.IsText v) (hhead : v <+: cs) :
    v <+: cs.takeWhile isDecimalDigit ∨ ∃ fraction tail, IsDigits fraction ∧ fraction <+: tail ∧
      cs.dropWhile isDecimalDigit = '.' :: tail ∧
      v = cs.takeWhile isDecimalDigit ++ '.' :: fraction := by
  obtain ⟨more, rfl⟩ := hhead
  rcases hv with hv | ⟨whole, fraction, hwhole, hfraction, rfl⟩
  · rw [List.takeWhile_append_of_pos hv.2]
    exact .inl (List.prefix_append _ _)
  · have hpoint := stopsBefore_point (fraction ++ more)
    rw [List.append_assoc, List.cons_append, hpoint.takeWhile_append hwhole.2,
      hpoint.dropWhile_append hwhole.2]
    exact .inr ⟨fraction, _, hfraction, List.prefix_append _ _, rfl, rfl⟩

theorem isLongest_number (h : Kind.number.IsText w) (he : Kind.number.Ends w bs) :
    IsLongest Kind.number.IsText (w ++ bs) w where
  holds := h
  head := List.prefix_append w bs
  longest := by
    intro v hv hhead
    rcases h with hdigits | ⟨whole, fraction, hwhole, hfraction, rfl⟩
    · have hcases := number_cases hv hhead
      rw [he.1.takeWhile_append hdigits.2, he.1.dropWhile_append hdigits.2] at hcases
      rcases hcases with hwithin | ⟨fraction, tail, hfraction, ⟨more, rfl⟩, hbs, -⟩
      · exact hwithin.length_le
      · -- a digit would stand behind the point that follows
        obtain ⟨d, ds, rfl⟩ := List.exists_cons_of_ne_nil hfraction.1
        have hstop := he.2 hdigits.not_mem _ hbs d rfl
        rw [hfraction.2 d List.mem_cons_self] at hstop
        cases hstop
    · have hpoint := stopsBefore_point (fraction ++ bs)
      have hcases := number_cases hv hhead
      rw [List.append_assoc, List.cons_append, hpoint.takeWhile_append hwhole.2,
        hpoint.dropWhile_append hwhole.2] at hcases
      rw [List.length_append, List.length_cons]
      rcases hcases with hwithin | ⟨fraction', tail, hfraction', hhead', htail, rfl⟩
      · have := hwithin.length_le
        omega
      · cases htail
        have hle := (isLongest_takeWhile isDecimalDigit _).longest fraction' hfraction'.2 hhead'
        rw [he.1.takeWhile_append hfraction.2] at hle
        rw [List.length_append, List.length_cons]
        omega

namespace Cursor

/-- Whether a point stands under a cursor, and a digit behind it. -/
def AtFraction (c : Cursor) : Prop := c.current = some '.' ∧ c.following.any isDecimalDigit = true

variable {c : Cursor}

theorem atFraction_iff : c.AtFraction ↔
    ∃ d ds, c.rest = '.' :: d :: ds ∧ isDecimalDigit d = true := by
  constructor
  · rintro ⟨hpoint, hdigit⟩
    obtain ⟨cs, hc⟩ := List.head?_eq_some_iff.1 hpoint
    rw [following, hc, List.tail_cons] at hdigit
    obtain ⟨d, ds, rfl, hdigit⟩ := head?_any_iff.1 hdigit
    exact ⟨d, ds, hc, hdigit⟩
  · rintro ⟨d, ds, hc, hdigit⟩
    exact ⟨by rw [current, hc]; rfl, by rw [following, hc]; exact hdigit⟩

/-- Behind digits that no fraction follows, the number ends. -/
theorem ends_of_not_atFraction (hstop : StopsBefore isDecimalDigit c.rest) (h : ¬ c.AtFraction)
    (w : List Char) : Kind.number.Ends w c.rest := by
  refine ⟨hstop, fun _ cs hc d hd => Bool.eq_false_iff.2 fun hdigit => h (atFraction_iff.2 ?_)⟩
  obtain ⟨ds, rfl⟩ := List.head?_eq_some_iff.1 hd
  exact ⟨d, ds, hc, hdigit⟩

/-- Digits that a fraction follows are no longest number. -/
theorem not_isLongest_of_atFraction (hw : IsDigits w) (hc : cs = w ++ c.rest) (h : c.AtFraction) :
    ¬ IsLongest Kind.number.IsText cs w := by
  obtain ⟨d, ds, hrest, hd⟩ := atFraction_iff.1 h
  intro hlongest
  have hnumber : Kind.number.IsText (w ++ ['.', d]) :=
    .inr ⟨w, [d], hw, ⟨List.cons_ne_nil _ _, List.forall_mem_singleton.2 hd⟩, rfl⟩
  have hle := hlongest.longest _ hnumber ⟨ds, by rw [hc, hrest, List.append_assoc]; rfl⟩
  rw [List.length_append] at hle
  exact absurd hle (Nat.not_le.2 (Nat.lt_add_of_pos_right (Nat.succ_pos _)))

/-- Where a digit stands, the longest number there is taken. -/
theorem exists_readDecimal (hv : c.Valid) (hdigit : c.current.any isDecimalDigit = true) :
    ∃ w later, IsLongest Kind.number.IsText c.rest w ∧ c.rest = w ++ later.rest ∧
      later = advanceBy w.length c ∧
      c.read .decimal = .ok (some ⟨String.ofList w, c.position, later.position⟩, later) := by
  obtain ⟨ch, cs, hc, hdigit⟩ := head?_any_iff.1 hdigit
  obtain ⟨w, bs, hsplit, hw, he⟩ := Kind.exists_number cs hdigit
  have hrest : c.rest = w ++ bs := hc.trans hsplit
  have hextent := Kind.extent?_of_isText (k := .number) (by decide) hw he
  exact ⟨w, _, hrest ▸ isLongest_number hw he, by rw [rest_advanceBy hrest, hrest], rfl,
    read_eq_some hv hrest (hrest ▸ hextent)⟩

theorem readDecimal_of_stopsBefore (h : StopsBefore isDecimalDigit c.rest) :
    c.read .decimal = .ok (none, c) :=
  read_eq_none (if_pos h.takeWhile_eq_nil)

/-- What the read of an integer has taken. -/
theorem exists_of_readInteger (hv : c.Valid) {token : Token} {later : Cursor}
    (h : c.read .integer = .ok (some token, later)) :
    ∃ digits, IsDigits digits ∧ c.rest = digits ++ later.rest ∧
      StopsBefore isDecimalDigit later.rest ∧ later = advanceBy digits.length c ∧
      token = ⟨String.ofList digits, c.position, later.position⟩ := by
  have htaking := (readRun_eq_taking hv isDecimalDigit).symm.trans h
  obtain ⟨hne, htoken, rfl⟩ := taking_eq_some_iff.1 (Except.ok.inj htaking)
  refine ⟨_, ⟨hne, mem_takeWhile⟩, ?_, stopsBefore_advanceBy_takeWhile isDecimalDigit c, rfl, htoken⟩
  rw [rest_advanceBy List.takeWhile_append_dropWhile.symm, List.takeWhile_append_dropWhile]

/-- The digits at a cursor are its integer, and a number longer than these has a fraction. -/
theorem readDecimal_against_readInteger (hv : c.Valid) {token token' : Token} {later later' : Cursor}
    (hinteger : c.read .integer = .ok (some token, later))
    (hdecimal : c.read .decimal = .ok (some token', later')) :
    token'.start = token.start ∧ token.text.toList <+: token'.text.toList ∧
      ((token', later') = (token, later) ↔ ¬ later.AtFraction) := by
  have hdigit := (exists_readRun_iff hv).1 ⟨_, _, hinteger⟩
  obtain ⟨digits, hdigits, hsplit, hstop, hlater, rfl⟩ := exists_of_readInteger hv hinteger
  obtain ⟨w, last, hlongest, -, hlast, hread⟩ := exists_readDecimal hv hdigit
  cases hread.symm.trans hdecimal
  have hhead : digits <+: c.rest := ⟨later.rest, hsplit.symm⟩
  refine ⟨rfl, ?_, fun heq hfraction => ?_, fun hno => ?_⟩
  · rw [String.toList_ofList, String.toList_ofList]
    exact List.prefix_of_prefix_length_le hhead hlongest.head
      (hlongest.longest digits (.inl hdigits) hhead)
  · have hw : w = digits := String.ofList_injective (congrArg (·.1.text) heq)
    exact not_isLongest_of_atFraction hdigits hsplit hfraction (hw ▸ hlongest)
  · have hends := ends_of_not_atFraction hstop hno digits
    have hw : w = digits := hlongest.unique (hsplit ▸ isLongest_number (.inl hdigits) hends)
    rw [hlast, hlater, hw]

end Cursor

theorem decimal_longest {text : String} {c : Cursor} (h : Reachable text c) :
    (c.readStepwise .decimal = .ok (none, c) ↔ c.current.any isDecimalDigit = false) ∧
    (c.current.any isDecimalDigit = true → ∃ w later, IsLongest Kind.number.IsText c.rest w ∧
      c.readStepwise .decimal = .ok (some ⟨String.ofList w, c.position, later.position⟩, later) ∧
      c.rest = w ++ later.rest ∧ c.advanceTo (c.offset + Utf8.length w) = .ok later) ∧
    ((∃ token later, c.readStepwise .integer = .ok (some token, later)) ↔
      ∃ token later, c.readStepwise .decimal = .ok (some token, later)) ∧
    (∀ token later token' later', c.readStepwise .integer = .ok (some token, later) →
      c.readStepwise .decimal = .ok (some token', later') →
        token'.start = token.start ∧ token.text.toList <+: token'.text.toList ∧
        ((token', later') = (token, later) ↔ ¬ later.AtFraction) ∧
        (later.current = some '.' → ¬ later.AtFraction →
          later' = later ∧ later'.current = some '.')) ∧
    -- the point that is given back counts too, so one read may be refused where the other is not
    ∀ s : Session, s.cursor = c → ∀ shape found later,
      c.readStepwise shape = .ok (found, later) →
        (s.operate (.read shape) = .error .countersExhausted ∧ ¬ c.HasRoom) ∨
          s.operate (.read shape) = .ok (.token found, { s with cursor := later }) := by
  have hv := h.valid
  have hnone : c.current.any isDecimalDigit = false → c.read .decimal = .ok (none, c) := fun hno =>
    Cursor.readDecimal_of_stopsBefore (Cursor.stopsBefore_rest_iff.2 hno)
  rw [Cursor.readStepwise_eq_read hv, Cursor.readStepwise_eq_read hv]
  refine ⟨⟨fun hread => ?_, hnone⟩, fun hdigit => ?_, ?_, fun token later token' later' hint hdec => ?_,
    fun s hs shape found later hread => ?_⟩
  · refine Bool.eq_false_iff.2 fun hdigit => ?_
    obtain ⟨w, later, -, -, -, hsome⟩ := Cursor.exists_readDecimal hv hdigit
    rw [hread] at hsome
    cases hsome
  · obtain ⟨w, later, hlongest, hrest, rfl, hread⟩ := Cursor.exists_readDecimal hv hdigit
    exact ⟨w, _, hlongest, hread, hrest, Cursor.advanceTo_append hv hrest⟩
  · refine (Cursor.exists_readRun_iff hv).trans ⟨fun hdigit => ?_, fun ⟨token, later, hread⟩ => ?_⟩
    · obtain ⟨w, later, -, -, -, hread⟩ := Cursor.exists_readDecimal hv hdigit
      exact ⟨_, _, hread⟩
    · refine (Bool.eq_false_or_eq_true _).resolve_right fun hno => ?_
      rw [hnone hno] at hread
      cases hread
  · obtain ⟨hstart, hprefix, hiff⟩ := Cursor.readDecimal_against_readInteger hv hint hdec
    refine ⟨hstart, hprefix, hiff, fun hpoint hno => ?_⟩
    cases hiff.2 hno
    exact ⟨rfl, hpoint⟩
  · rw [Cursor.readStepwise_eq_read hv] at hread
    subst hs
    exact Session.operate_read hread

/-- A number in front of a second point, and a point at the end of the text, which is given back. -/
theorem decimal_longest_dangling_point :
    (∃ w later, IsLongest Kind.number.IsText ['9', '.', '2', '5', '.', '1', ' ', '7', '.'] w ∧
      (Cursor.start "9.25.1 7.").readStepwise .decimal =
        .ok (some ⟨String.ofList w, .start, later.position⟩, later) ∧ w = ['9', '.', '2', '5']) ∧
    ∃ c, Reachable "9.25.1 7." c ∧ c.position = ⟨7, 3, 4⟩ ∧
      ∃ token later, c.readStepwise .integer = .ok (some token, later) ∧
        c.readStepwise .decimal = .ok (some token, later) ∧ token.text = "7" ∧
        later.position = ⟨8, 3, 5⟩ ∧ later.current = some '.' := by
  constructor
  · have hv := Cursor.valid_start "9.25.1 7."
    have hstart : Reachable "9.25.1 7." (.start "9.25.1 7.") := .start
    obtain ⟨w, later, hlongest, hread, -⟩ := (decimal_longest hstart).2.1 rfl
    have hknown := Cursor.read_eq_some hv
      (show _ = ['9', '.', '2', '5'] ++ ['.', '1', ' ', '7', '.'] from rfl)
      (show Shape.decimal.extent? _ = _ by decide)
    have htoken := hread.symm.trans ((Cursor.readStepwise_eq_read hv _).trans hknown)
    have hfound := congrArg Prod.fst (Except.ok.inj htoken)
    exact ⟨w, later, hlongest, hread,
      String.ofList_injective (congrArg Token.text (Option.some.inj hfound))⟩
  · have hreset : (Operation.reset ⟨7, 3, 4⟩).run (.start "9.25.1 7.") =
        .ok (.done, ⟨"9.25.1 7.", ['7', '.'], ⟨7, 3, 4⟩⟩) := rfl
    have hreach := Reachable.run .start hreset
    obtain ⟨-, -, hboth, hagainst, -⟩ := decimal_longest hreach
    have hint := (Cursor.readStepwise_eq_read hreach.valid .integer).trans
      (Cursor.read_eq_some hreach.valid (show _ = ['7'] ++ ['.'] from rfl)
        (show Shape.integer.extent? _ = _ by decide))
    obtain ⟨token', later', hdec⟩ := hboth.1 ⟨_, _, hint⟩
    obtain ⟨-, -, hiff, hpoint⟩ := hagainst _ _ _ _ hint hdec
    have hno : ¬ (Cursor.advanceBy ['7'].length ⟨"9.25.1 7.", ['7', '.'], ⟨7, 3, 4⟩⟩).AtFraction :=
      fun hfraction => absurd hfraction.2 (by decide)
    cases hiff.2 hno
    exact ⟨_, hreach, rfl, _, _, hint, hdec, rfl, rfl, (hpoint rfl hno).2⟩

end LexSpan
