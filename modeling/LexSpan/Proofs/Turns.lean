import LexSpan.Proofs.CounterBounds
import LexSpan.Proofs.LongestRuns
import Mathlib.Data.List.Chain

/-!
# Runs in turn

Two operations take turns (`inTurn`): one passes runs of characters that satisfy a predicate, the other
runs of characters that do not (`Operation.PassesRun`). Where one stops the other goes on, so nothing is
left between them (`TakesTurns`).

Main statement (`runs_partition_text`): a run takes as much as there is and not more, also in a session
unless its counters have no room, and runs in turn cut what is left into pieces that satisfy the
predicate and pieces that do not, up to the end. The induction is over the number of operations, with
the two and the predicate changing places in each step (`Session.takesTurns`); what carries it is that
behind a run stands a character of the other kind or none.
-/

namespace LexSpan

/-- An operation that passes the longest run of characters that satisfy `p`. -/
inductive Operation.PassesRun (p : Char → Bool) : Operation → Prop
  | read : PassesRun p (.read (.run p))
  | skip : PassesRun p (.skip p)

/-- Two operations in turn, `n` in all. -/
def inTurn (first second : Operation) : Nat → List Operation
  | 0 => []
  | n + 1 => first :: inTurn second first n

/-- Whether a step leads on, unless it starts at the end. -/
def Cursor.MovesOn (c later : Cursor) : Prop := c.atEnd = true ∨ c.offset < later.offset

/-- What a transcript shows of `count` operations in turn from `c` on, the first over characters that
satisfy `p` and the second over the others. -/
structure TakesTurns (p : Char → Bool) (c : Cursor) (count : Nat) (t : Transcript) : Prop where
  /-- The pieces that they pass are of one kind and of the other in turn. -/
  pieces : ∀ i piece, (passedTexts c t.entries)[i]? = some piece →
    ∀ ch ∈ piece.toList, p ch = decide (i % 2 = 0)
  /-- From the second on, each moves on. -/
  movesOn : (t.entries.map (·.2)).IsChain Cursor.MovesOn
  /-- The first does so where it finds a character of its kind. -/
  movesOn_first : c.current.all p = true → (c :: t.entries.map (·.2)).IsChain Cursor.MovesOn
  /-- Operations for each character, and one more, lead to the end. -/
  atEnd : t.refusal = none → c.rest.length < count → (lastCursor c t.entries).atEnd = true
  /-- Where the first finds a character of its kind, no more is needed. -/
  atEnd_of_all : t.refusal = none → c.current.all p = true → c.rest.length ≤ count →
    (lastCursor c t.entries).atEnd = true

variable {p : Char → Bool} {c d later : Cursor} {op first second : Operation}

/-- An operation that passes a run passes it whatever it answers. -/
theorem Operation.PassesRun.exists_run (h : op.PassesRun p) (hv : c.Valid) :
    ∃ answer later, op.run c = .ok (answer, later) ∧
      later = Cursor.advanceBy (c.rest.takeWhile p).length c ∧
      answer.passed c later = String.ofList (c.rest.takeWhile p) := by
  have hread := Cursor.readRun_eq_taking hv p
  have hsplit : c.rest = c.rest.takeWhile p ++ c.rest.dropWhile p :=
    List.takeWhile_append_dropWhile.symm
  cases h with
  | read =>
    refine ⟨.token (c.taking (c.rest.takeWhile p)).1, _, by rw [run, hread]; rfl, rfl, ?_⟩
    by_cases hnil : c.rest.takeWhile p = []
    · rw [hnil]
      rfl
    · rw [Cursor.taking, if_neg hnil]
      rfl
  | skip =>
    refine ⟨.truth (c.taking (c.rest.takeWhile p)).1.isSome, _, ?_, rfl, ?_⟩
    · rw [run, Cursor.skip, hread]
      rfl
    · exact congrArg Token.text (Cursor.tokenTo_advanceBy hsplit)

theorem Operation.PassesRun.isReadOrSkip (h : op.PassesRun p) : op.isReadOrSkip = true := by
  cases h <;> rfl

theorem length_inTurn (first second : Operation) (n : Nat) : (inTurn first second n).length = n := by
  induction n generalizing first second with
  | zero => rfl
  | succ n ih => rw [inTurn, List.length_cons, ih]

theorem mem_inTurn {n : Nat} (h : op ∈ inTurn first second n) : op = first ∨ op = second := by
  induction n generalizing first second with
  | zero => cases h
  | succ n ih =>
    rcases List.mem_cons.1 h with rfl | h
    · exact .inl rfl
    · exact (ih h).symm

namespace TakesTurns

theorem refused (p : Char → Bool) (c : Cursor) (count : Nat) (refusal : Refusal) :
    TakesTurns p c count ⟨[], some refusal⟩ where
  pieces _ _ h := by cases h
  movesOn := .nil
  movesOn_first _ := .singleton c
  atEnd h := by cases h
  atEnd_of_all h := by cases h

theorem none (p : Char → Bool) (c : Cursor) : TakesTurns p c 0 ⟨[], .none⟩ where
  pieces _ _ h := by cases h
  movesOn := .nil
  movesOn_first _ := .singleton c
  atEnd _ h := absurd h (Nat.not_lt_zero _)
  atEnd_of_all _ _ h := List.isEmpty_iff.2 (List.length_eq_zero_iff.1 (Nat.le_zero.1 h))

variable {answer : Answer} {count : Nat} {t : Transcript}

/-- Passing a run, and then runs of the other kind and of the same in turn. -/
theorem cons (hlater : later = Cursor.advanceBy (c.rest.takeWhile p).length c)
    (hpiece : answer.passed c later = String.ofList (c.rest.takeWhile p))
    (h : TakesTurns (fun ch => !p ch) later count t) :
    TakesTurns p c (count + 1) { t with entries := (answer, later) :: t.entries } := by
  have hsplit : c.rest = c.rest.takeWhile p ++ c.rest.dropWhile p :=
    List.takeWhile_append_dropWhile.symm
  have hrest : later.rest = c.rest.dropWhile p := hlater ▸ Cursor.rest_advanceBy hsplit
  -- behind the run stands a character of the other kind or none, so the next operation moves on
  have hother : later.current.all (fun ch => !p ch) = true := by
    have hstop := hlater ▸ Cursor.stopsBefore_advanceBy_takeWhile p c
    rw [Option.all_eq_true]
    intro ch hch
    rw [hstop ch hch, Bool.not_false]
  have hpasses : c.current.all p = true → c.rest ≠ [] → c.rest.takeWhile p ≠ [] := by
    intro hall hne
    obtain ⟨ch, cs, hc⟩ := List.exists_cons_of_ne_nil hne
    rw [Cursor.current, hc, List.head?_cons, Option.all_some] at hall
    rw [hc, List.takeWhile_cons_of_pos hall]
    exact List.cons_ne_nil _ _
  have hmoves : c.current.all p = true → c.MovesOn later := fun hall => by
    by_cases hne : c.rest = []
    · exact .inl (List.isEmpty_iff.2 hne)
    · exact .inr (hlater ▸ Cursor.offset_lt_advanceBy hsplit (hpasses hall hne))
  have hlength : c.rest.length = (c.rest.takeWhile p).length + later.rest.length := by
    rw [hrest, ← List.length_append, ← hsplit]
  exact {
    pieces := by
      rintro (_ | i) piece hpiece'
      · cases hpiece'
        rw [hpiece, String.toList_ofList]
        exact mem_takeWhile
      · intro ch hch
        have hkind := h.pieces i piece hpiece' ch hch
        rw [← Bool.not_not (p ch), hkind, ← decide_not, decide_eq_decide]
        omega
    movesOn := h.movesOn_first hother
    movesOn_first := fun hall => .cons_cons (hmoves hall) (h.movesOn_first hother)
    atEnd := fun hnone hlt => h.atEnd_of_all hnone hother (by omega)
    atEnd_of_all := fun hnone hall hle => by
      refine h.atEnd_of_all hnone hother ?_
      by_cases hne : c.rest = []
      · rw [hne] at hlength
        simp only [List.length_nil] at hlength
        omega
      · have := List.length_pos_iff.2 (hpasses hall hne)
        omega }

end TakesTurns

theorem Session.takesTurns {s : Session} (hv : s.cursor.Valid) (hfirst : first.PassesRun p)
    (hsecond : second.PassesRun fun ch => !p ch) (n : Nat) :
    TakesTurns p s.cursor n (s.run ((inTurn first second n).map .operation)) := by
  induction n generalizing s p first second with
  | zero => exact .none p s.cursor
  | succ n ih =>
    obtain ⟨answer, later, hrun, hlater, hpiece⟩ := hfirst.exists_run hv
    rw [inTurn, List.map_cons, run, step]
    rcases operate_of_ok hrun with hok | ⟨herror, -⟩
    · have hagain : first.PassesRun fun ch => !!p ch := by simpa only [Bool.not_not] using hfirst
      rw [hok]
      exact .cons hlater hpiece (ih (s := { s with cursor := later }) (hlater ▸ hv.advanceBy _)
        hsecond hagain)
    · rw [herror]
      exact .refused p s.cursor _ _

/-- Where operations in turn have come to the end, what they passed is all that was left. -/
theorem Session.Consumes.join_eq {t : Transcript} {count : Nat} (h : Session.Consumes c count t)
    (hend : (lastCursor c t.entries).atEnd = true) :
    String.join (passedTexts c t.entries) = c.remaining := by
  obtain ⟨as, hc, hjoin, -⟩ := h.passes
  rw [List.isEmpty_iff.1 hend, List.append_nil] at hc
  rw [hjoin, Cursor.remaining, hc]

/-- The skips over blanks, each with the read of what stands between such blanks. -/
def blankTurns : List (Operation × Operation) :=
  [(.skip isWhiteSpace, .read .nonWhiteSpace),
    (.skip isWhiteSpaceOrNewLine, .read .nonWhiteSpaceOrNewLine)]

theorem exists_passesRun_of_mem_blankTurns {turns : Operation × Operation} (h : turns ∈ blankTurns) :
    ∃ p : Char → Bool, turns.1.PassesRun p ∧ turns.2.PassesRun fun ch => !p ch := by
  rcases List.mem_cons.1 h with rfl | h
  · exact ⟨isWhiteSpace, .skip, .read⟩
  · cases List.mem_singleton.1 h
    exact ⟨isWhiteSpaceOrNewLine, .skip, .read⟩

theorem Session.consumes_inTurn {s : Session} (hv : s.cursor.Valid) (hfirst : first.PassesRun p)
    (hsecond : second.PassesRun fun ch => !p ch) (n : Nat) :
    Consumes s.cursor n (s.run ((inTurn first second n).map .operation)) := by
  have hops : ∀ op ∈ inTurn first second n, op.isReadOrSkip = true := fun op hmem => by
    rcases mem_inTurn hmem with rfl | rfl
    · exact hfirst.isReadOrSkip
    · exact hsecond.isReadOrSkip
  have h := run_consumes hv hops
  rwa [length_inTurn] at h

theorem runs_partition_text (text : String) :
    (∀ c, Reachable text c →
      (∀ p, ∃ w, IsLongest (Within p) c.rest w ∧ c.readStepwise (.run p) = .ok (c.taking w) ∧
        (∀ ch, (Cursor.advanceBy w.length c).current = some ch → p ch = false) ∧
        (Cursor.advanceBy w.length c).readStepwise (.run p) =
          .ok (none, Cursor.advanceBy w.length c) ∧
        c.readStepwise (.oneThenRun p p) = c.readStepwise (.run p)) ∧
      (∀ first others,
        (c.current.any first = false → c.readStepwise (.oneThenRun first others) = .ok (none, c)) ∧
        ∀ ch cs, c.rest = ch :: cs → first ch = true → ∃ w, IsLongest (Within others) cs w ∧
          c.readStepwise (.oneThenRun first others) = .ok (c.taking (ch :: w))) ∧
      ∀ s : Session, s.cursor = c → ∀ shape found later,
        c.readStepwise shape = .ok (found, later) →
          (s.operate (.read shape) = .error .countersExhausted ∧ ¬ c.HasRoom) ∨
            s.operate (.read shape) = .ok (.token found, { s with cursor := later })) ∧
    (∀ (s : Session) p first second n t, Reachable text s.cursor → first.PassesRun p →
      second.PassesRun (fun ch => !p ch) → s.run ((inTurn first second n).map .operation) = t →
        Session.Consumes s.cursor n t ∧ TakesTurns p s.cursor n t ∧
        (t.refusal = none → s.cursor.rest.length < n →
          String.join (passedTexts s.cursor t.entries) = s.cursor.remaining)) ∧
    ∀ turns ∈ blankTurns, text.utf8ByteSize < sizeLimit → ∀ n t, text.length < n →
      Session.run { cursor := .start text } ((inTurn turns.1 turns.2 n).map .operation) = t →
        t.refusal = none ∧ String.join (passedTexts (.start text) t.entries) = text ∧
        (lastCursor (.start text) t.entries).atEnd = true := by
  refine ⟨fun c hc => ⟨fun p => ?_, fun first others => ⟨fun hno => ?_, fun ch cs hrest hch => ?_⟩,
    ?_⟩, ?_, ?_⟩
  · have hv := hc.valid
    have hstop := Cursor.stopsBefore_advanceBy_takeWhile p c
    refine ⟨_, isLongest_takeWhile p c.rest, ?_, hstop, ?_, ?_⟩
    · rw [Cursor.readStepwise_eq_read hv, Cursor.readRun_eq_taking hv]
    · rw [Cursor.readStepwise_eq_read (hv.advanceBy _), Cursor.readRun_of_stopsBefore hstop]
    · rw [Cursor.readStepwise_eq_read hv, Cursor.readStepwise_eq_read hv, Cursor.readOneThenRun_self hv]
  · rw [Cursor.readStepwise_eq_read hc.valid, Cursor.readOneThenRun_eq_none hno]
  · refine ⟨_, isLongest_takeWhile others cs, ?_⟩
    rw [Cursor.readStepwise_eq_read hc.valid, Cursor.readOneThenRun_eq_taking hc.valid hrest hch]
  · rintro s rfl shape found later hread
    rw [Cursor.readStepwise_eq_read hc.valid] at hread
    exact Session.operate_read hread
  · rintro s p first second n t hs hfirst hsecond rfl
    have hconsumes := Session.consumes_inTurn hs.valid hfirst hsecond n
    have hturns := Session.takesTurns hs.valid hfirst hsecond n
    exact ⟨hconsumes, hturns, fun hnone hlt => hconsumes.join_eq (hturns.atEnd hnone hlt)⟩
  · rintro turns hmem hsize n t hlt rfl
    obtain ⟨p, hfirst, hsecond⟩ := exists_passesRun_of_mem_blankTurns hmem
    have hv := Cursor.valid_start text
    have hconsumes := Session.consumes_inTurn (s := { cursor := .start text }) hv hfirst hsecond n
    have hnone := hconsumes.not_refused (Visited.start.hasRoom hsize)
    have hend := (Session.takesTurns (s := { cursor := .start text }) hv hfirst hsecond n).atEnd hnone
      (String.length_toList ▸ hlt)
    refine ⟨hnone, (hconsumes.join_eq hend).trans ?_, hend⟩
    exact String.ofList_toList

/-- A text that starts with no blank, so that the skip before it passes nothing, and ends before the
turns do. -/
theorem runs_partition_text_word_first :
    (∃ w, IsLongest (Within isIdentifierPart) ['a', '\r', '\n', ' ', 'b'] w ∧
      (Cursor.start "a\r\n b").readStepwise (.oneThenRun isIdentifierPart isIdentifierPart) =
        .ok ((Cursor.start "a\r\n b").taking w)) ∧
    (∃ w, IsLongest (Within isDecimalDigit) ['\r', '\n', ' ', 'b'] w ∧
      (Cursor.start "a\r\n b").readStepwise (.oneThenRun (· = 'a') isDecimalDigit) =
        .ok ((Cursor.start "a\r\n b").taking ('a' :: w))) ∧
    (Cursor.start "a\r\n b").readStepwise (.oneThenRun isDecimalDigit isIdentifierPart) =
      .ok (none, .start "a\r\n b") ∧
    ∃ t, Session.run { cursor := .start "a\r\n b" }
        ((inTurn (.skip isWhiteSpaceOrNewLine) (.read .nonWhiteSpaceOrNewLine) 6).map .operation) = t ∧
      t.refusal = none ∧ passedTexts (.start "a\r\n b") t.entries = ["", "a", "\r\n ", "b", "", ""] ∧
      TakesTurns isWhiteSpaceOrNewLine (.start "a\r\n b") 6 t ∧
      String.join (passedTexts (.start "a\r\n b") t.entries) = "a\r\n b" ∧
      (lastCursor (.start "a\r\n b") t.entries).atEnd = true := by
  obtain ⟨hreads, hturns, hblanks⟩ := runs_partition_text "a\r\n b"
  obtain ⟨hrun, hone, -⟩ := hreads _ .start
  refine ⟨?_, ?_, (hone isDecimalDigit isIdentifierPart).1 (by decide), ?_⟩
  · obtain ⟨w, hlongest, hread, -, -, hself⟩ := hrun isIdentifierPart
    exact ⟨w, hlongest, hself.trans hread⟩
  · exact (hone (· = 'a') isDecimalDigit).2 'a' _ rfl rfl
  · have hpair : (Operation.skip isWhiteSpaceOrNewLine, Operation.read .nonWhiteSpaceOrNewLine) ∈
        blankTurns := .tail _ (.head _)
    obtain ⟨hnone, hjoin, hend⟩ := hblanks _ hpair (by decide) 6 _ (by decide) rfl
    obtain ⟨-, htakes, -⟩ := hturns { cursor := .start "a\r\n b" } isWhiteSpaceOrNewLine
      (.skip isWhiteSpaceOrNewLine) (.read .nonWhiteSpaceOrNewLine) 6 _ .start .skip .read rfl
    exact ⟨_, rfl, hnone, by decide +kernel, htakes, hjoin, hend⟩

end LexSpan
