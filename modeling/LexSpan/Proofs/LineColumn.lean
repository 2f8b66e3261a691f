import LexSpan.Proofs.SessionRuns

/-!
# Lines and columns in closed form

A line feed breaks the line, and so does a carriage return that no line feed follows
(`isLoneReturn`, `breaksAt`). Whether the last character before a cursor is such a return depends on
the character under it, so the counts are taken over places of the whole text.

`Visited text` holds of the cursors that operations lead to when resets only go back to places of
such cursors. They are the cursors that the start of the text passes (`visited_iff`), and there the
line and the column count what lies before (`Cursor.position_advanceBy`).

Main statement (`visited_position`): the position of a visited cursor is determined by its offset,
through the line breaks before it; at the end of the text the line counts all of its breaks, a
carriage return with its line feed once (`lineBreaks`).
-/

namespace LexSpan

/-- Whether there is a carriage return at a place of a text, and no line feed right behind it. -/
def isLoneReturn (cs : List Char) (i : Nat) : Bool := cs[i]? = some '\r' && cs[i + 1]? ≠ some '\n'

/-- Whether the line breaks behind a place of a text. -/
def breaksAt (cs : List Char) (i : Nat) : Bool := cs[i]? = some '\n' || isLoneReturn cs i

/-- The number of line breaks of a text: line feeds, carriage returns, and pairs of both. -/
def lineBreaks : List Char → Nat
  | [] => 0
  | '\r' :: '\n' :: cs => lineBreaks cs + 1
  | c :: cs => if c = '\n' ∨ c = '\r' then lineBreaks cs + 1 else lineBreaks cs

/-- The cursors that operations lead to from the start of a text, when resets only go back to places
of such cursors. -/
inductive Visited (text : String) : Cursor → Prop
  | start : Visited text (.start text)
  | run {c later : Cursor} {op : Operation} {answer : Answer} (h : Visited text c)
    (hop : ∀ p, op ≠ .reset p) (hrun : op.run c = .ok (answer, later)) : Visited text later
  | reset {c d later : Cursor} (hc : Visited text c) (hd : Visited text d)
    (hreset : c.reset d.position = .ok later) : Visited text later

theorem visited_iff {text : String} {c : Cursor} : Visited text c ↔ (Cursor.start text).Ahead c := by
  constructor
  · intro h
    induction h with
    | start => exact .refl _
    | run _ hop hrun ih =>
      rcases (ih.valid (Cursor.valid_start text)).ahead_or_reset hrun with h | ⟨p, hp, -⟩
      · exact ih.trans h
      · exact absurd hp (hop p)
    -- a reset leads to the very cursor whose position it takes, wherever it starts
    | reset _ _ hreset ihc ihd =>
      have hback := (ihd.valid (Cursor.valid_start text)).reset_position
        (ihc.text_eq.trans ihd.text_eq.symm)
      cases hback.symm.trans hreset
      exact ihd
  · rintro ⟨n, rfl⟩
    have hrun : (Operation.advance n).run (.start text) =
      .ok (.done, Cursor.advanceBy n (.start text)) := rfl
    refine .run .start (fun p h => ?_) hrun
    cases h

/-- What sessions that reset to remembered positions only keep. -/
theorem closedUnder_visited (text : String) :
    ClosedUnder (fun op => ∀ p, op ≠ .reset p) (Visited text) where
  run := .run
  reset := .reset

/-! ## Counting -/

variable {cs : List Char} {n : Nat}

theorem breaksLine_eq_breaksAt {c : Char} (h : cs[n]? = some c) :
    breaksLine c cs[n + 1]? = breaksAt cs n := by
  simp [breaksLine, breaksAt, isLoneReturn, h]

/-- A character adds a break to those before it, if the line breaks there. -/
theorem breaks_add_one (h : n < cs.length) :
    (cs.take (n + 1)).count '\n' + (List.range (n + 1)).countP (isLoneReturn cs) =
      (cs.take n).count '\n' + (List.range n).countP (isLoneReturn cs) +
        (breaksAt cs n).toNat := by
  rw [List.take_succ_eq_append_getElem h, List.count_append, List.range_succ, List.countP_append,
    List.count_singleton, List.countP_singleton, breaksAt, isLoneReturn,
    List.getElem?_eq_getElem h]
  by_cases hfeed : cs[n] = '\n'
  · simp [hfeed]
    omega
  · by_cases hreturn : cs[n] = '\r'
    · by_cases hpair : cs[n + 1]? = some '\n'
      · simp [hreturn, hpair]
      · simp [hreturn, hpair]
        omega
    · simp [hfeed, hreturn]

/-- The places behind the last break go on, unless the line breaks. -/
theorem sinceBreak_add_one (cs : List Char) (n : Nat) :
    (List.range (n + 1)).reverse.takeWhile (!breaksAt cs ·) =
      if breaksAt cs n = true then [] else
        n :: (List.range n).reverse.takeWhile (!breaksAt cs ·) := by
  rw [List.range_succ, List.reverse_concat, List.takeWhile_cons]
  cases breaksAt cs n <;> rfl

namespace Cursor

theorem position_advanceBy {text : String} (h : n ≤ text.toList.length) :
    (advanceBy n (.start text)).position.line = 1 +
        ((text.toList.take n).count '\n' + (List.range n).countP (isLoneReturn text.toList)) ∧
      (advanceBy n (.start text)).position.column = 1 +
        ((List.range n).reverse.takeWhile (!breaksAt text.toList ·)).length := by
  induction n with
  | zero => exact ⟨rfl, rfl⟩
  | succ n ih =>
    obtain ⟨hline, hcolumn⟩ := ih (Nat.le_of_succ_le h)
    have hrest : (advanceBy n (.start text)).rest =
        text.toList[n] :: text.toList.drop (n + 1) := by
      have happend : (start text).rest = text.toList.take n ++ text.toList.drop n :=
        (List.take_append_drop n _).symm
      have hrest := rest_advanceBy happend
      rw [List.length_take_of_le (Nat.le_of_succ_le h)] at hrest
      rw [hrest, List.drop_eq_getElem_cons h]
    -- the step looks at the next character, which is the one at place `n + 1` of the whole text
    have hbreaks := breaksLine_eq_breaksAt (List.getElem?_eq_getElem h)
    rw [advanceBy_add n 1, advanceBy, advanceBy, advance_of_rest hrest, List.head?_drop,
      breaks_add_one h, sinceBreak_add_one]
    cases hb : breaksAt text.toList n with
    | true =>
      rw [Position.step_of_breaksLine (hbreaks.trans hb)]
      simp only [hline]
      exact ⟨rfl, rfl⟩
    | false =>
      rw [Position.step_of_not_breaksLine (hbreaks.trans hb)]
      simp only [hline, hcolumn]
      exact ⟨rfl, rfl⟩

end Cursor

theorem countP_isLoneReturn_cons (c : Char) (cs : List Char) :
    (List.range (c :: cs).length).countP (isLoneReturn (c :: cs)) =
      (if c = '\r' ∧ cs.head? ≠ some '\n' then 1 else 0) +
        (List.range cs.length).countP (isLoneReturn cs) := by
  have hshift : isLoneReturn (c :: cs) ∘ Nat.succ = isLoneReturn cs := rfl
  rw [List.length_cons, List.range_succ_eq_map, List.countP_cons, List.countP_map, hshift,
    Nat.add_comm]
  simp [isLoneReturn, List.head?_eq_getElem?]

/-- A pair breaks the line on its line feed. -/
theorem lineBreaks_eq (cs : List Char) :
    lineBreaks cs = cs.count '\n' + (List.range cs.length).countP (isLoneReturn cs) := by
  fun_induction lineBreaks cs with
  | case1 => rfl
  | case2 cs ih =>
    rw [countP_isLoneReturn_cons, countP_isLoneReturn_cons, ih]
    simp
    omega
  | case3 c cs hpair h ih =>
    rw [countP_isLoneReturn_cons, ih]
    rcases h with rfl | rfl
    · simp
      omega
    · have hhead : cs.head? ≠ some '\n' := by
        intro hhead
        obtain ⟨cs', rfl⟩ := List.head?_eq_some_iff.1 hhead
        exact hpair cs' rfl rfl
      simp [hhead]
      omega
  | case4 c cs hpair h ih =>
    rw [countP_isLoneReturn_cons, ih]
    simp [not_or.1 h]

/-! ## Visited cursors -/

variable {text : String} {c d : Cursor}

theorem Visited.exists_passed (h : Visited text c) :
    ∃ p, text.toList = p ++ c.rest ∧ Utf8.length p = c.offset ∧
      c = Cursor.advanceBy p.length (.start text) := by
  obtain ⟨p, hp, hc⟩ := (visited_iff.1 h).exists_append
  have hoffset := Cursor.offset_advanceBy hp
  rw [← hc, show (Cursor.start text).offset = 0 from rfl, Nat.zero_add] at hoffset
  exact ⟨p, hp, hoffset.symm, hc⟩

theorem Visited.position_eq (h : Visited text c) :
    ∃ p, text.toList = p ++ c.rest ∧ Utf8.length p = c.offset ∧
      c.position.line = 1 +
        (p.count '\n' + (List.range p.length).countP (isLoneReturn text.toList)) ∧
      c.position.column = 1 +
        ((List.range p.length).reverse.takeWhile (!breaksAt text.toList ·)).length := by
  obtain ⟨p, hp, hlength, hc⟩ := h.exists_passed
  have hle : p.length ≤ text.toList.length := by
    rw [hp, List.length_append]
    exact Nat.le_add_right _ _
  have hposition := Cursor.position_advanceBy hle
  rw [← hc, show text.toList.take p.length = p by rw [hp, List.take_left]] at hposition
  exact ⟨p, hp, hlength, hposition⟩

theorem Visited.eq_of_offset_eq (hc : Visited text c) (hd : Visited text d)
    (h : c.offset = d.offset) : c = d := by
  obtain ⟨p, hp, hlength, hc⟩ := hc.exists_passed
  obtain ⟨q, hq, hlength', hd⟩ := hd.exists_passed
  have hpq : p = q := by
    rw [← Utf8.take_length_append p c.rest, ← Utf8.take_length_append q d.rest, ← hp, ← hq,
      hlength, hlength', h]
  rw [hc, hd, hpq]

theorem Visited.line_of_atEnd (h : Visited text c) (hend : c.atEnd = true) :
    c.position.line = 1 + lineBreaks text.toList := by
  obtain ⟨p, hp, -, hline, -⟩ := h.position_eq
  rw [List.isEmpty_iff.1 hend, List.append_nil] at hp
  rw [hline, ← hp, lineBreaks_eq]

theorem breaksAt_eq_false {c : Char} {i : Nat} (h : cs[i]? = some c) (hfeed : c ≠ '\n')
    (hreturn : c ≠ '\r') : breaksAt cs i = false := by
  simp [breaksAt, isLoneReturn, h, hfeed, hreturn]

theorem visited_position (text : String) :
    (∀ c, Visited text c →
      ∃ p, text.toList = p ++ c.rest ∧ Utf8.length p = c.offset ∧
        c.position.line = 1 +
          (p.count '\n' + (List.range p.length).countP (isLoneReturn text.toList)) ∧
        c.position.column = 1 +
          ((List.range p.length).reverse.takeWhile (!breaksAt text.toList ·)).length) ∧
    (∀ (c : Char) i, text.toList[i]? = some c → c ≠ '\n' → c ≠ '\r' →
      breaksAt text.toList i = false) ∧
    (∀ c d, Visited text c → Visited text d → c.offset = d.offset → c = d) ∧
    (∀ c, Visited text c → c.atEnd = true → c.position.line = 1 + lineBreaks text.toList) ∧
    ∀ steps : List Step, (∀ st ∈ steps, st.Allowed fun op => ∀ p, op ≠ .reset p) →
      ∀ entry ∈ (Session.run { cursor := .start text } steps).entries, Visited text entry.2 :=
  ⟨fun _ h => h.position_eq, fun _ _ => breaksAt_eq_false, fun _ _ => Visited.eq_of_offset_eq,
    fun _ => Visited.line_of_atEnd,
    fun _ hsteps => (Session.Knows.start .start).of_run (closedUnder_visited text) hsteps⟩

/-- A session that goes on to the end and then back between a carriage return and its line feed. -/
theorem visited_position_within_pair :
    (∃ c, Visited "a\r\n\rb" c ∧ c.offset = 2 ∧ c.position.line = 1 ∧ c.position.column = 3) ∧
      ∃ c, Visited "a\r\n\rb" c ∧ c.atEnd = true ∧ c.position.line = 3 := by
  obtain ⟨hposition, -, -, hend, hrun⟩ := visited_position "a\r\n\rb"
  have hvisited := hrun
    [.operation (.advance 2), .checkpoint "m", .operation (.advance 3), .backTo "m"]
    (by simp [Step.Allowed])
  constructor
  · have hback : Visited "a\r\n\rb" (Cursor.advanceBy 2 (.start "a\r\n\rb")) :=
      hvisited (.done, _) (by decide +kernel)
    obtain ⟨p, hp, -, hline, hcolumn⟩ := hposition _ hback
    obtain rfl : ['a', '\r'] = p :=
      List.append_cancel_right (show ['a', '\r'] ++ _ = p ++ ['\n', '\r', 'b'] from hp)
    exact ⟨_, hback, rfl, hline, hcolumn⟩
  · have hlast : Visited "a\r\n\rb" (Cursor.advanceBy 5 (.start "a\r\n\rb")) :=
      hvisited (.done, _) (by decide +kernel)
    exact ⟨_, hlast, rfl, hend _ hlast rfl⟩

end LexSpan
