import LexSpan.Proofs.SessionRuns

/-!
# Cursors in step with their text, and going back to them

A cursor keeps the characters behind its offset at hand. `Cursor.InStep` says that they are the ones
that stand there: the text is what was passed and what remains, the current character is the first
of the remaining ones, and there is none exactly at the end of the text.

Main statement (`cursor_in_step`): all operations keep cursors in step, also resets to any position
that is accepted. Hence a position that was taken at a cursor leads back to the same cursor from
everywhere in the text, and a session that goes back to a remembered position shows from there on
what it would have shown at once (`run_append_backTo`).
-/

namespace LexSpan

/-- What a cursor over a text shows is what stands at its offset. -/
structure Cursor.InStep (text : String) (c : Cursor) : Prop where
  text_eq : c.text = text
  offset_le : c.offset ≤ text.utf8ByteSize
  isBoundary : Utf8.isBoundary c.offset text.toList = true
  exists_passed : ∃ passed, text = passed ++ c.remaining ∧ passed.utf8ByteSize = c.offset
  slice_eq : c.slice c.offset text.utf8ByteSize = .ok c.remaining
  current_eq : c.current = c.remaining.toList.head?
  current_eq_none : c.current = none ↔ c.offset = text.utf8ByteSize
  atEnd_iff : c.atEnd = true ↔ c.offset = text.utf8ByteSize
  following_eq : c.following = c.advance.current

/-- Whether a step remembers a position under a name. -/
def Step.remembers (name : String) : Step → Bool
  | .checkpoint other => name == other
  | _ => false

/-- The sessions that steps lead to from the start of a text. -/
inductive Session.Reached (text : String) : Session → Prop
  | start : Reached text { cursor := .start text }
  | step {s later : Session} {st : Step} {answer : Answer} (h : Reached text s)
    (hstep : s.step st = .ok (answer, later)) : Reached text later

namespace Cursor

variable {c : Cursor} {text : String}

/-- Nothing is left exactly where all bytes of the text are passed. -/
theorem Valid.rest_eq_nil_iff (hv : c.Valid) : c.rest = [] ↔ c.offset = c.text.utf8ByteSize := by
  obtain ⟨passed, htext, hoffset⟩ := hv
  rw [Utf8.utf8ByteSize_eq, htext, hoffset, Utf8.length_append, ← Utf8.length_eq_zero]
  omega

theorem following_eq_current_advance (c : Cursor) : c.following = c.advance.current := by
  rcases hc : c.rest with _ | ⟨ch, cs⟩
  · simp only [following, current, advance, hc, List.tail_nil]
  · simp only [following, current, advance, hc, List.tail_cons]

theorem Valid.inStep (hv : c.Valid) (htext : c.text = text) : c.InStep text := by
  subst htext
  have hend := hv.rest_eq_nil_iff
  obtain ⟨passed, htext, hoffset⟩ := hv
  have hboundary : Utf8.isBoundary c.offset c.text.toList = true :=
    Utf8.isBoundary_iff.2 ⟨passed, c.rest, htext, hoffset.symm⟩
  have hsize : c.text.utf8ByteSize = c.offset + Utf8.length c.rest := by
    rw [Utf8.utf8ByteSize_eq, htext, Utf8.length_append, hoffset]
  have hwhole : Utf8.isBoundary c.text.utf8ByteSize c.text.toList = true :=
    Utf8.isBoundary_iff.2 ⟨c.text.toList, [], (List.append_nil _).symm, (Utf8.utf8ByteSize_eq _).symm⟩
  exact {
    text_eq := rfl
    offset_le := by omega
    isBoundary := hboundary
    exists_passed := by
      refine ⟨String.ofList passed, ?_, ?_⟩
      · rw [remaining, ← String.ofList_append, ← htext, String.ofList_toList]
      · rw [Utf8.utf8ByteSize_eq, String.toList_ofList, hoffset]
    slice_eq := by
      have htake : Utf8.take (Utf8.length c.rest) c.rest = c.rest := by
        have h := Utf8.take_length_append c.rest []
        rwa [List.append_nil] at h
      rw [slice, if_neg (by omega), if_pos ⟨hboundary, hwhole⟩, hsize, Nat.add_sub_cancel_left,
        htext, hoffset, Utf8.drop_length_append, htake, remaining]
    current_eq := by rw [remaining, String.toList_ofList, current]
    current_eq_none := List.head?_eq_none_iff.trans hend
    atEnd_iff := List.isEmpty_iff.trans hend
    following_eq := following_eq_current_advance c }

end Cursor

namespace Session

variable {s later : Session} {st : Step} {steps : List Step} {name text : String} {answer : Answer}

theorem Reached.knows (h : s.Reached text) : s.Knows (Reachable text) := by
  induction h with
  | start => exact .start .start
  | @step _ _ st _ _ hstep ih =>
    exact ih.of_step (closedUnder_reachable text) (st.allowed_of_forall fun _ => trivial) hstep

/-- Only a checkpoint changes what is remembered, and only under its own name. -/
theorem lookup_of_step (hst : st.remembers name = false) (hstep : s.step st = .ok (answer, later)) :
    later.marks.lookup name = s.marks.lookup name := by
  cases st with
  | operation op =>
    obtain ⟨_, -, rfl⟩ := operate_eq_ok hstep
    rfl
  | checkpoint other =>
    cases hstep
    have hname : (name == other) = false := hst
    rw [List.lookup_cons, hname]
  | backTo other =>
    rw [step] at hstep
    split at hstep
    · cases hstep
    · obtain ⟨_, -, rfl⟩ := operate_eq_ok hstep
      rfl
  | save =>
    cases hstep
    rfl
  | restore =>
    rw [step] at hstep
    split at hstep
    · cases hstep
    · cases hstep
      rfl
  | isSaved =>
    rw [step] at hstep
    split at hstep
    · cases hstep
    · cases hstep
      rfl

/-- Going back to a remembered position of a cursor. -/
theorem step_backTo {c : Cursor} (hs : Reachable text s.cursor) (hc : Reachable text c)
    (hmark : s.marks.lookup name = some c.position) :
    s.step (.backTo name) = .ok (.done, { s with cursor := c }) := by
  have hreset : s.cursor.reset c.position = .ok c :=
    hc.valid.reset_position (hs.text_eq.trans hc.text_eq.symm)
  rw [step, hmark]
  simp only [operate, Operation.run, hreset]
  rfl

theorem run_append_backTo {c : Cursor} {ops : List Operation} (h : s.Knows (Reachable text))
    (hc : Reachable text c) (hmark : s.marks.lookup name = some c.position)
    (hsteps : ∀ st ∈ steps, st.remembers name = false) (hrun : (s.run steps).refusal = none) :
    s.run (steps ++ .backTo name :: ops.map .operation) =
      ⟨(s.run steps).entries ++ (.done, c) :: (run { cursor := c } (ops.map .operation)).entries,
        (run { cursor := c } (ops.map .operation)).refusal⟩ := by
  -- induction on the steps in between: all the while `name` stands for the position of `c`
  induction steps generalizing s with
  | nil =>
    rw [List.nil_append, run_of_ok (step_backTo h.cursor hc hmark),
      @run_congr { s with cursor := c } { cursor := c } rfl ops]
    rfl
  | cons st steps ih =>
    cases hstep : s.step st with
    | error refusal =>
      rw [run_of_error hstep] at hrun
      cases hrun
    | ok result =>
      rw [run_of_ok hstep] at hrun
      have hlater := h.of_step (closedUnder_reachable text) (st.allowed_of_forall fun _ => trivial) hstep
      have hlookup := lookup_of_step (hsteps st (.head _)) hstep
      rw [List.cons_append, run_of_ok hstep, run_of_ok hstep,
        ih hlater (hlookup.trans hmark) (fun st hst => hsteps st (.tail _ hst)) hrun]
      rfl

end Session

theorem cursor_in_step (text : String) :
    (∀ c, Reachable text c → c.InStep text) ∧
    (∀ c d, Reachable text c → Reachable text d → d.reset c.position = .ok c) ∧
    ∀ s : Session, s.Reached text →
      (∀ steps, ∀ entry ∈ (s.run steps).entries, entry.2.InStep text) ∧
      ∀ (name : String) (steps : List Step) (ops : List Operation),
        (∀ st ∈ steps, st.remembers name = false) →
        ∀ t, s.run (.checkpoint name :: steps) = t → t.refusal = none →
        ∀ again, s.run (ops.map .operation) = again →
          s.run (.checkpoint name :: steps ++ .backTo name :: ops.map .operation) =
            ⟨t.entries ++ (.done, s.cursor) :: again.entries, again.refusal⟩ := by
  have hinStep : ∀ c, Reachable text c → c.InStep text := fun c hc => hc.valid.inStep hc.text_eq
  refine ⟨hinStep, fun c d hc hd => ?_, fun s hs => ⟨fun steps entry hmem => ?_, ?_⟩⟩
  · exact hc.valid.reset_position (hd.text_eq.trans hc.text_eq.symm)
  · exact hinStep _ (hs.knows.of_run (closedUnder_reachable text)
      (fun st _ => st.allowed_of_forall fun _ => trivial) entry hmem)
  · rintro name steps ops hsteps _ rfl hrefusal _ rfl
    have hstep : s.step (.checkpoint name) = .ok (.position s.cursor.position,
      { s with marks := (name, s.cursor.position) :: s.marks }) := rfl
    rw [Session.run_of_ok hstep] at hrefusal
    rw [List.cons_append, Session.run_of_ok hstep, Session.run_of_ok hstep,
      Session.run_append_backTo (hs.step hstep).knows hs.knows.cursor List.lookup_cons_self hsteps
        hrefusal, @Session.run_congr { cursor := s.cursor } s rfl ops]
    rfl

/-- A cursor that was put in a line of someone's choice, left for other places and found again. -/
theorem cursor_in_step_foreign_reset :
    ∃ c, Reachable "aé\n" c ∧ c.InStep "aé\n" ∧ c.position = ⟨1, 70, 9⟩ ∧ c.current = some 'é' ∧
      (Cursor.start "aé\n").reset ⟨1, 70, 9⟩ = .ok c ∧
      ∃ t : Transcript, t.entries.length = 3 ∧
        Session.run { cursor := c } [.checkpoint "m", .operation (.advance 1),
          .operation (.reset ⟨0, 5, 5⟩), .backTo "m", .operation .current] =
            ⟨t.entries ++ [(.done, c), (.char (some 'é'), c)], none⟩ := by
  obtain ⟨hinStep, hreset, hsession⟩ := cursor_in_step "aé\n"
  have hstep : Session.step { cursor := .start "aé\n" } (.operation (.reset ⟨1, 70, 9⟩)) =
    .ok (.done, { cursor := ⟨"aé\n", ['é', '\n'], ⟨1, 70, 9⟩⟩ }) := rfl
  have hreached := Session.Reached.step .start hstep
  have hc := hreached.knows.cursor
  have hrun := (hsession _ hreached).2 "m" [.operation (.advance 1), .operation (.reset ⟨0, 5, 5⟩)]
    [.current] (by decide) _ rfl rfl _ rfl
  exact ⟨_, hc, hinStep _ hc, rfl, rfl, hreset _ _ hc .start, _, rfl, hrun⟩

end LexSpan
