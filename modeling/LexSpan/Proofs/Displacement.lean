import LexSpan.Proofs.Consumption
import LexSpan.Proofs.LineColumn
import LexSpan.Proofs.Parallel
import Mathlib.Data.List.Induction

/-!
# Lines and columns do not matter for what is read

A cursor may be put at an offset with any line and column. Two cursors that differ in these only go on
side by side (`Cursor.Displaced`): whatever is done and asked at both, other than a reset and the words
for a position, is answered alike, up to the lines and columns in it (`Answer.Displaced`). Lines differ
by the same number throughout, and so do columns up to the first line break that is passed; behind it
columns are equal (`Position.Displaced`).

Main statement (`scans_displaced`): this holds of each read on its own, also of one that moves over
characters and gives them back, and of all entries of two sessions that carry out the same operations, up
to where the counters of one do not hold; and they do hold where there was room for them at the start.

That steps keep the relation between positions (`stepsTogether_displaced`) is all that is needed of
them: what an operation does depends on the text and on what is left, so each leads both cursors over
the same characters (`Cursor.Displaced.agree_run`). The sessions follow by induction over their
operations (`Session.run_agree`).
-/

namespace LexSpan

/-- The same place counted from two positions that stand at the same offset. -/
structure Position.Displaced (base base' p p' : Position) : Prop where
  offset_eq : p'.offset = p.offset
  line_le : base.line ≤ p.line
  line_sub : (p'.line : Int) - p.line = (base'.line : Int) - base.line
  column_sub : (p'.column : Int) - p.column =
    if p.line = base.line then (base'.column : Int) - base.column else 0

/-- The same token at places that are counted from two positions. -/
structure Token.Displaced (base base' : Position) (token token' : Token) : Prop where
  text_eq : token'.text = token.text
  start : base.Displaced base' token.start token'.start
  stop : base.Displaced base' token.stop token'.stop

/-- The same answer, with its places counted from two positions. -/
inductive Answer.Displaced (base base' : Position) : Answer → Answer → Prop
  | done : Displaced base base' .done .done
  | truth (value : Bool) : Displaced base base' (.truth value) (.truth value)
  | number (value : Nat) : Displaced base base' (.number value) (.number value)
  | text (value : String) : Displaced base base' (.text value) (.text value)
  | char (value : Option Char) : Displaced base base' (.char value) (.char value)
  | position {p p' : Position} (h : base.Displaced base' p p') :
    Displaced base base' (.position p) (.position p')
  | token {found found' : Option Token} (h : Option.Rel (Token.Displaced base base') found found') :
    Displaced base base' (.token found) (.token found')

/-- Two cursors at the same place of one text, ahead of `c`, with positions counted from those of `c`
and `c'`. -/
structure Cursor.Displaced (c c' d d' : Cursor) : Prop
    extends Cursor.Parallel (c.position.Displaced c'.position) [] d d' where
  text_eq : d'.text = d.text
  ahead : c.Ahead d

/-- The same entry of two sessions that started at `c` and `c'`. -/
structure Cursor.DisplacedEntry (c c' : Cursor) (entry entry' : Answer × Cursor) : Prop where
  answer : entry.1.Displaced c.position c'.position entry'.1
  cursor : c.Displaced c' entry.2 entry'.2

/-- Two transcripts with related entries, which end alike unless the counters of one do not hold. -/
structure Transcript.Agree (related : Answer × Cursor → Answer × Cursor → Prop)
    (t t' : Transcript) : Prop where
  entries : ∀ pair ∈ t.entries.zip t'.entries, related pair.1 pair.2
  length_ge : t.refusal ≠ some .countersExhausted → t'.entries.length ≤ t.entries.length
  length_le : t'.refusal ≠ some .countersExhausted → t.entries.length ≤ t'.entries.length
  refusal_eq : t.refusal ≠ some .countersExhausted → t'.refusal ≠ some .countersExhausted →
    t'.refusal = t.refusal

/-- Two results of an operation: the same fault, or entries of two sessions. -/
inductive Operation.Agree (c c' : Cursor) :
    Except Fault (Answer × Cursor) → Except Fault (Answer × Cursor) → Prop
  | error (fault : Fault) : Agree c c' (.error fault) (.error fault)
  | ok {entry entry' : Answer × Cursor} (h : c.DisplacedEntry c' entry entry') :
    Agree c c' (.ok entry) (.ok entry')

/-- Whether an operation neither puts the cursor at a place of someone's choice nor shows its line and
column in words. -/
def Operation.isScan : Operation → Bool
  | .reset _ | .render => false
  | _ => true

variable {base base' : Position} {c c' d d' : Cursor} {as bs : List Char}

/-! ## Positions -/

theorem displaced_self (h : base'.offset = base.offset) : base.Displaced base' base base' where
  offset_eq := h
  line_le := Nat.le_refl _
  line_sub := rfl
  column_sub := (if_pos rfl).symm

theorem stepsTogether_displaced (base base' : Position) :
    StepsTogether (base.Displaced base') := by
  intro p p' ch next ⟨hoffset, hle, hline, hcolumn⟩
  cases hb : breaksLine ch next with
  | true =>
    rw [Position.step_of_breaksLine hb, Position.step_of_breaksLine hb]
    refine ⟨congrArg (· + ch.utf8Size) hoffset, Nat.le_succ_of_le hle, ?_, ?_⟩
    · simp only
      omega
    · -- the break leaves the line of the base, wherever it was before
      rw [if_neg (by simp only; omega)]
      simp only
      omega
  | false =>
    rw [Position.step_of_not_breaksLine hb, Position.step_of_not_breaksLine hb]
    refine ⟨congrArg (· + ch.utf8Size) hoffset, hle, hline, ?_⟩
    simp only
    omega

namespace Cursor

/-- A cursor counts as many lines as breaks that it passes. -/
theorem line_advanceBy (hc : c.rest = as ++ bs) : (advanceBy as.length c).position.line =
    c.position.line + (List.range as.length).countP (breaksAt c.rest) := by
  induction as using List.reverseRecOn generalizing bs with
  | nil => rfl
  | append_singleton as ch ih =>
    rw [List.append_assoc, List.singleton_append] at hc
    have hch : c.rest[as.length]? = some ch := by rw [hc]; simp
    have hnext : c.rest[as.length + 1]? = bs.head? := by
      rw [hc, List.getElem?_append_right (Nat.le_add_right _ 1), Nat.add_sub_cancel_left,
        List.getElem?_cons_succ, List.head?_eq_getElem?]
    have hbreaks := breaksLine_eq_breaksAt hch
    rw [hnext] at hbreaks
    rw [List.length_append, List.length_singleton, advanceBy_add, advanceBy, advanceBy,
      advance_of_rest (rest_advanceBy hc), List.range_succ, List.countP_append, List.countP_singleton,
      ← hbreaks]
    cases hb : breaksLine ch bs.head? with
    | true =>
      rw [Position.step_of_breaksLine hb]
      simp only [ih hc, if_true]
      omega
    | false =>
      rw [Position.step_of_not_breaksLine hb]
      simp only [ih hc]
      rfl

/-! ## Cursors -/

theorem Displaced.refl (hv : c.Valid) (hv' : c'.Valid) (htext : c'.text = c.text)
    (hoffset : c'.offset = c.offset) : c.Displaced c' c c' where
  valid := hv
  valid_other := hv'
  rest_eq := by rw [List.append_nil, ← hv.drop_offset, ← hv'.drop_offset, htext, hoffset]
  position := displaced_self hoffset
  text_eq := htext
  ahead := .refl c

variable (h : c.Displaced c' d d')
include h

theorem Displaced.same_rest : d'.rest = d.rest := by
  rw [h.rest_eq, List.append_nil]

theorem Displaced.same_offset : d'.offset = d.offset := h.position.offset_eq

theorem Displaced.advanceBy (n : Nat) : c.Displaced c' (advanceBy n d) (advanceBy n d') := by
  have hd : d.rest = d.rest.take n ++ d.rest.drop n := (List.take_append_drop n _).symm
  have hlater := h.toParallel.advanceBy (stepsTogether_displaced _ _) hd (.inr rfl)
  rw [advanceBy_length_take, ← h.same_rest, advanceBy_length_take] at hlater
  refine ⟨hlater, ?_, h.ahead.trans (.advanceBy n d)⟩
  rw [text_advanceBy, text_advanceBy, h.text_eq]

theorem Displaced.advanceTo (target : Nat) :
    (∃ fault, d.advanceTo target = .error fault ∧ d'.advanceTo target = .error fault) ∨
      ∃ later later', d.advanceTo target = .ok later ∧ d'.advanceTo target = .ok later' ∧
        c.Displaced c' later later' := by
  by_cases hout : target < d.offset ∨ d.text.utf8ByteSize < target
  · refine .inl ⟨_, if_pos hout, ?_⟩
    rw [Cursor.advanceTo, h.same_offset, h.text_eq, if_pos hout]
  · by_cases hb : Utf8.isBoundary (target - d.offset) d.rest = true
    · obtain ⟨as, bs, hd, hlength⟩ := Utf8.isBoundary_iff.1 hb
      have htarget : d.offset + Utf8.length as = target := by omega
      have hto := advanceTo_append h.valid hd
      have hto' := advanceTo_append h.valid_other (h.same_rest.trans hd)
      rw [h.same_offset] at hto'
      rw [htarget] at hto hto'
      exact .inr ⟨_, _, hto, hto', h.advanceBy as.length⟩
    · refine .inl ⟨.targetInsideChar target, ?_, ?_⟩
      · rw [Cursor.advanceTo, if_neg hout, if_neg hb]
      · rw [Cursor.advanceTo, h.same_offset, h.text_eq, h.same_rest, if_neg hout, if_neg hb]

/-- A read finds the same at both cursors, and leads to the same place. -/
theorem Displaced.read (shape : Shape) : ∃ found found' later later',
    d.read shape = .ok (found, later) ∧ d'.read shape = .ok (found', later') ∧
      Option.Rel (Token.Displaced c.position c'.position) found found' ∧
      c.Displaced c' later later' := by
  rcases he : shape.extent? d.rest with _ | n
  · have he' : shape.extent? d'.rest = none := by rw [h.same_rest, he]
    exact ⟨none, none, d, d', read_eq_none he, read_eq_none he', .none, h⟩
  · obtain ⟨as, bs, hd, rfl⟩ := Shape.exists_of_extent? he
    have he' : shape.extent? d'.rest = some (Utf8.length as) := by rw [h.same_rest, he]
    have hlater := h.advanceBy as.length
    exact ⟨_, _, _, _, read_eq_some h.valid hd he,
      read_eq_some h.valid_other (h.same_rest.trans hd) he',
      .some ⟨rfl, h.position, hlater.position⟩, hlater⟩

theorem Displaced.skip (p : Char → Bool) : ∃ moved later later',
    d.skip p = .ok (moved, later) ∧ d'.skip p = .ok (moved, later') ∧
      c.Displaced c' later later' := by
  obtain ⟨found, found', later, later', hread, hread', hfound, hlater⟩ := h.read (.run p)
  refine ⟨found.isSome, later, later', by rw [Cursor.skip, hread], ?_, hlater⟩
  rw [Cursor.skip, hread']
  cases hfound <;> rfl

/-! ## Operations -/

/-- What is asked at a cursor depends on its text and on what is left. -/
theorem Displaced.agree_run {op : Operation} (hop : op.isScan = true) :
    Operation.Agree c c' (op.run d) (op.run d') := by
  have hsame := h.same_offset
  rcases d with ⟨text, rest, p⟩
  rcases d' with ⟨text', rest', p'⟩
  obtain rfl : text' = text := h.text_eq
  obtain rfl : rest' = rest := h.same_rest
  cases op with
  | advance count => exact .ok ⟨.done, h.advanceBy count⟩
  | advanceTo target =>
    rcases h.advanceTo target with ⟨fault, hto, hto'⟩ | ⟨later, later', hto, hto', hlater⟩
    · rw [Operation.run, Operation.run, hto, hto']
      exact .error fault
    · rw [Operation.run, Operation.run, hto, hto']
      exact .ok ⟨.done, hlater⟩
  | skip p =>
    obtain ⟨moved, later, later', hskip, hskip', hlater⟩ := h.skip p
    rw [Operation.run, Operation.run, hskip, hskip']
    exact .ok ⟨.truth moved, hlater⟩
  | read shape =>
    obtain ⟨found, found', later, later', hread, hread', hfound, hlater⟩ := h.read shape
    rw [Operation.run, Operation.run, hread, hread']
    exact .ok ⟨.token hfound, hlater⟩
  | slice start stop =>
    show Operation.Agree c c' ((slice ⟨text', rest', p⟩ start stop).map _)
      ((slice ⟨text', rest', p⟩ start stop).map _)
    cases slice ⟨text', rest', p⟩ start stop with
    | error fault => exact .error fault
    | ok part => exact .ok ⟨.text part, h⟩
  | matchesChar _ | matchesText _ | matchesTextIgnoringCase _ | atEnd => exact .ok ⟨.truth _, h⟩
  | remaining | text => exact .ok ⟨.text _, h⟩
  | current | following => exact .ok ⟨.char _, h⟩
  | offset =>
    rw [Operation.run, Operation.run, hsame]
    exact .ok ⟨.number _, h⟩
  | position => exact .ok ⟨.position h.position, h⟩
  | reset _ | render => cases hop

end Cursor

/-! ## Transcripts -/

namespace Transcript

variable {related : Answer × Cursor → Answer × Cursor → Prop} {t t' : Transcript}

theorem Agree.refl_refused (refusal : Option Refusal) :
    Agree related ⟨[], refusal⟩ ⟨[], refusal⟩ where
  entries := List.forall_mem_nil _
  length_ge _ := Nat.le_refl _
  length_le _ := Nat.le_refl _
  refusal_eq _ _ := rfl

/-- Where the counters of one session do not hold, nothing is said about what the other does. -/
theorem Agree.exhausted (t' : Transcript) : Agree related ⟨[], some .countersExhausted⟩ t' where
  entries := List.forall_mem_nil _
  length_ge h := absurd rfl h
  length_le _ := Nat.zero_le _
  refusal_eq h := absurd rfl h

theorem Agree.exhausted_other (t : Transcript) : Agree related t ⟨[], some .countersExhausted⟩ where
  entries := by
    rw [List.zip_nil_right]
    exact List.forall_mem_nil _
  length_ge _ := Nat.zero_le _
  length_le h := absurd rfl h
  refusal_eq _ h := absurd rfl h

theorem Agree.cons (h : Agree related t t') {entry entry' : Answer × Cursor}
    (hentry : related entry entry') :
    Agree related { t with entries := entry :: t.entries }
      { t' with entries := entry' :: t'.entries } where
  entries := by
    rw [List.zip_cons_cons]
    exact List.forall_mem_cons.2 ⟨hentry, h.entries⟩
  length_ge hne := Nat.succ_le_succ (h.length_ge hne)
  length_le hne := Nat.succ_le_succ (h.length_le hne)
  refusal_eq := h.refusal_eq

end Transcript

/-! ## Sessions -/

namespace Session

variable {s s' : Session} {op : Operation} {ops : List Operation}

theorem run_agree (h : c.Displaced c' s.cursor s'.cursor) (hops : ∀ op ∈ ops, op.isScan = true) :
    (s.run (ops.map .operation)).Agree (c.DisplacedEntry c') (s'.run (ops.map .operation)) := by
  induction ops generalizing s s' with
  | nil => exact .refl_refused none
  | cons op ops ih =>
    have hagree := h.agree_run (hops op (.head _))
    have hrest : ∀ op ∈ ops, op.isScan = true := fun op hop => hops op (.tail _ hop)
    rw [List.map_cons, run, run, step, step]
    generalize hrun : op.run s.cursor = result at hagree
    generalize hrun' : op.run s'.cursor = result' at hagree
    cases hagree with
    | error fault =>
      rw [operate_of_error hrun, operate_of_error hrun']
      exact .refl_refused _
    | ok hentry =>
      rcases operate_of_ok hrun with hok | ⟨herror, -⟩
      · rcases operate_of_ok hrun' with hok' | ⟨herror', -⟩
        · rw [hok, hok']
          exact (ih hentry.cursor hrest).cons hentry
        · rw [herror']
          exact .exhausted_other _
      · rw [herror]
        exact .exhausted _

/-- Where there is room for the counters, they hold as long as no reset takes it away. -/
theorem refusal_ne_of_hasRoom (hv : s.cursor.Valid) (hroom : s.cursor.HasRoom)
    (hops : ∀ op ∈ ops, op.isScan = true) :
    (s.run (ops.map .operation)).refusal ≠ some .countersExhausted := by
  induction ops generalizing s with
  | nil => nofun
  | cons op ops ih =>
    have hrest : ∀ op ∈ ops, op.isScan = true := fun op hop => hops op (.tail _ hop)
    rw [List.map_cons, run, step]
    cases hrun : op.run s.cursor with
    | error fault =>
      rw [operate_of_error hrun]
      rintro ⟨⟩
    | ok entry =>
      rcases operate_of_ok hrun with hok | ⟨-, hfit⟩
      · have hahead : s.cursor.Ahead entry.2 := by
          rcases hv.ahead_or_reset hrun with hahead | ⟨p, rfl, -⟩
          · exact hahead
          · cases hops _ (.head _)
        rw [hok]
        exact ih (hahead.valid hv) (hroom.of_ahead hahead) hrest
      · exact absurd (hroom.countersFit _) hfit

end Session

theorem scans_displaced (text : String) :
    (∀ c c', Reachable text c → Reachable text c' → c'.offset = c.offset →
      (∀ shape, ∃ found found' later later', c.readStepwise shape = .ok (found, later) ∧
        c'.readStepwise shape = .ok (found', later') ∧
        Option.Rel (Token.Displaced c.position c'.position) found found' ∧
        c.Displaced c' later later') ∧
      ∀ p, ∃ moved later later', c.skipStepwise p = (moved, later) ∧
        c'.skipStepwise p = (moved, later') ∧ c.Displaced c' later later') ∧
    (∀ (c d : Cursor) passed, c.rest = passed ++ d.rest → c.Ahead d →
      d.position.line = c.position.line + (List.range passed.length).countP (breaksAt c.rest)) ∧
    ∀ (s s' : Session) (ops : List Operation), Reachable text s.cursor → Reachable text s'.cursor →
      s'.cursor.offset = s.cursor.offset → (∀ op ∈ ops, op.isScan = true) →
      (s.run (ops.map .operation)).Agree (s.cursor.DisplacedEntry s'.cursor)
        (s'.run (ops.map .operation)) ∧
      (s.cursor.HasRoom → (s.run (ops.map .operation)).refusal ≠ some .countersExhausted) := by
  have hdisplaced : ∀ {c c'}, Reachable text c → Reachable text c' → c'.offset = c.offset →
      c.Displaced c' c c' := fun hc hc' hoffset =>
    .refl hc.valid hc'.valid (hc'.text_eq.trans hc.text_eq.symm) hoffset
  refine ⟨fun c c' hc hc' hoffset => ⟨fun shape => ?_, fun p => ?_⟩, fun c d passed hpassed h => ?_,
    fun s s' ops hs hs' hoffset hops => ⟨Session.run_agree (hdisplaced hs hs' hoffset) hops,
      fun hroom => Session.refusal_ne_of_hasRoom hs.valid hroom hops⟩⟩
  · obtain ⟨found, found', later, later', hread, hread', hfound, hlater⟩ :=
      (hdisplaced hc hc' hoffset).read shape
    rw [Cursor.readStepwise_eq_read hc.valid, Cursor.readStepwise_eq_read hc'.valid]
    exact ⟨found, found', later, later', hread, hread', hfound, hlater⟩
  · obtain ⟨moved, later, later', hskip, hskip', hlater⟩ := (hdisplaced hc hc' hoffset).skip p
    rw [← Cursor.skipStepwise_eq_skip hc.valid, Except.ok.injEq] at hskip
    rw [← Cursor.skipStepwise_eq_skip hc'.valid, Except.ok.injEq] at hskip'
    exact ⟨moved, later, later', hskip, hskip', hlater⟩
  · obtain ⟨as, has, rfl⟩ := h.exists_append
    obtain rfl : passed = as := List.append_cancel_right (hpassed.symm.trans has)
    exact Cursor.line_advanceBy has

/-- A number in front of a point that is given back, a string with a bad escape behind a line break
that is given back too, and then the break itself. -/
def givingBack : List Operation :=
  [.read .decimal, .read (.char '.'), .read (.quoted none), .position, .skip (· ≠ 'x'), .position]

theorem scans_displaced_givingBack :
    ∃ c', Reachable "1.'\n\\q'x" c' ∧ c'.position = ⟨0, 5, 9⟩ ∧
      (∃ found found' later later',
        (Cursor.start "1.'\n\\q'x").readStepwise .decimal = .ok (found, later) ∧
        c'.readStepwise .decimal = .ok (found', later') ∧
        Option.Rel (Token.Displaced .start ⟨0, 5, 9⟩) found found') ∧
      (Cursor.advanceBy 4 (.start "1.'\n\\q'x")).position.line = 2 ∧
      ∃ entries entries',
        Session.run { cursor := .start "1.'\n\\q'x" } (givingBack.map .operation) =
          ⟨entries, none⟩ ∧
        Session.run { cursor := c' } (givingBack.map .operation) = ⟨entries', none⟩ ∧
        entries.map (·.2.position) =
          [⟨1, 1, 2⟩, ⟨2, 1, 3⟩, ⟨2, 1, 3⟩, ⟨2, 1, 3⟩, ⟨7, 2, 4⟩, ⟨7, 2, 4⟩] ∧
        entries'.map (·.2.position) =
          [⟨1, 5, 10⟩, ⟨2, 5, 11⟩, ⟨2, 5, 11⟩, ⟨2, 5, 11⟩, ⟨7, 6, 4⟩, ⟨7, 6, 4⟩] ∧
        ∀ pair ∈ entries.zip entries',
          (Cursor.start "1.'\n\\q'x").DisplacedEntry c' pair.1 pair.2 := by
  obtain ⟨hreads, hline, hsessions⟩ := scans_displaced "1.'\n\\q'x"
  have hreset : (Operation.reset ⟨0, 5, 9⟩).run (.start "1.'\n\\q'x") =
      .ok (.done, ⟨"1.'\n\\q'x", "1.'\n\\q'x".toList, ⟨0, 5, 9⟩⟩) := by decide +kernel
  have hother := Reachable.run .start hreset
  refine ⟨_, hother, rfl, ?_, ?_, ?_⟩
  · obtain ⟨found, found', later, later', hread, hread', hfound, -⟩ :=
      (hreads _ _ .start hother rfl).1 .decimal
    exact ⟨found, found', later, later', hread, hread', hfound⟩
  · exact hline _ _ ['1', '.', '\'', '\n'] (by decide) (.advanceBy 4 _)
  · obtain ⟨hagree, -⟩ := hsessions { cursor := .start "1.'\n\\q'x" } { cursor := _ } givingBack
      .start hother rfl (by decide)
    exact ⟨_, _, by decide +kernel, by decide +kernel, by decide +kernel, by decide +kernel,
      hagree.entries⟩

end LexSpan
