import LexSpan.Proofs.Reachable
import LexSpan.Session

/-!
# What holds throughout a session

A session knows places: its cursor, the positions it remembers and the cursors it has put aside.
Where a property of cursors is kept by the operations that a session may ask for (`ClosedUnder`), a
session that knows such places only (`Session.Knows`) does so after every step (`Knows.of_step`), and
every cursor that its run shows has the property (`Knows.of_run`).

What operations answer depends on the cursor, and on nothing else in the session (`run_congr`).
-/

namespace LexSpan

/-- Whether a step is other than an operation, or an operation with the property `allowed`. -/
def Step.Allowed (allowed : Operation → Prop) : Step → Prop
  | .operation op => allowed op
  | _ => True

theorem Step.allowed_of_forall {allowed : Operation → Prop} (h : ∀ op, allowed op) (st : Step) :
    st.Allowed allowed := by
  cases st with
  | operation op => exact h op
  | _ => trivial

/-- A property of cursors that allowed operations keep, and resets to places that have it. -/
structure ClosedUnder (allowed : Operation → Prop) (holds : Cursor → Prop) : Prop where
  run : ∀ {c later : Cursor} {op : Operation} {answer : Answer}, holds c → allowed op →
    op.run c = .ok (answer, later) → holds later
  reset : ∀ {c d later : Cursor}, holds c → holds d → c.reset d.position = .ok later → holds later

namespace Session

/-- All places that a session knows of have a property. -/
structure Knows (holds : Cursor → Prop) (s : Session) : Prop where
  cursor : holds s.cursor
  marks : ∀ mark ∈ s.marks, ∃ c, holds c ∧ mark.2 = c.position
  saved : ∀ c ∈ s.saved, holds c

variable {allowed : Operation → Prop} {holds : Cursor → Prop} {s s' later : Session} {st : Step}
  {steps : List Step} {op : Operation} {answer : Answer}

theorem Knows.start {c : Cursor} (h : holds c) : Knows holds { cursor := c } where
  cursor := h
  marks _ hmark := absurd hmark List.not_mem_nil
  saved _ hsaved := absurd hsaved List.not_mem_nil

/-- An operation changes nothing but the cursor. -/
theorem operate_eq_ok (h : s.operate op = .ok (answer, later)) :
    ∃ cursor, op.run s.cursor = .ok (answer, cursor) ∧ later = { s with cursor } := by
  unfold operate at h
  split at h
  · cases h
  · next hrun =>
    split at h
    · cases h
      exact ⟨_, hrun, rfl⟩
    · cases h

theorem operate_of_error {fault : Fault} (h : op.run s.cursor = .error fault) :
    s.operate op = .error (.fault fault) := by
  rw [operate, h]

/-- What can be carried out is carried out, unless the counters do not hold. -/
theorem operate_of_ok {cursor : Cursor} (h : op.run s.cursor = .ok (answer, cursor)) :
    s.operate op = .ok (answer, { s with cursor }) ∨
      s.operate op = .error .countersExhausted ∧
        s.cursor.countersFit (op.reach s.cursor) ≠ true := by
  rw [operate, h]
  by_cases hfit : s.cursor.countersFit (op.reach s.cursor) = true
  · exact .inl (if_pos hfit)
  · exact .inr ⟨if_neg hfit, hfit⟩

theorem Knows.of_cursor {cursor : Cursor} (h : s.Knows holds) (hc : holds cursor) :
    Knows holds { s with cursor } where
  cursor := hc
  marks := h.marks
  saved := h.saved

theorem Knows.of_step (hclosed : ClosedUnder allowed holds) (h : s.Knows holds)
    (hst : st.Allowed allowed) (hstep : s.step st = .ok (answer, later)) : later.Knows holds := by
  cases st with
  | operation op =>
    obtain ⟨cursor, hrun, rfl⟩ := operate_eq_ok hstep
    exact h.of_cursor (hclosed.run h.cursor hst hrun)
  | checkpoint name =>
    cases hstep
    refine ⟨h.cursor, fun mark hmem => ?_, h.saved⟩
    rcases List.mem_cons.1 hmem with rfl | hmem
    · exact ⟨_, h.cursor, rfl⟩
    · exact h.marks mark hmem
  | backTo name =>
    rw [step] at hstep
    split at hstep
    · cases hstep
    · next position hlookup =>
      obtain ⟨cursor, hrun, rfl⟩ := operate_eq_ok hstep
      obtain ⟨_, _, hmarks, -⟩ := List.lookup_eq_some_iff.1 hlookup
      have hmem : (name, position) ∈ s.marks := hmarks ▸ List.mem_append_cons_self
      obtain ⟨c, hc, hposition⟩ := h.marks _ hmem
      obtain ⟨_, hreset, he⟩ := Operation.exists_of_map_eq_ok hrun
      cases he
      exact h.of_cursor (hclosed.reset h.cursor hc (hposition ▸ hreset))
  | save =>
    cases hstep
    refine ⟨h.cursor, h.marks, fun c hmem => ?_⟩
    rcases List.mem_cons.1 hmem with rfl | hmem
    · exact h.cursor
    · exact h.saved c hmem
  | restore =>
    rw [step] at hstep
    split at hstep
    · cases hstep
    · next hsaved =>
      cases hstep
      exact ⟨h.saved _ (hsaved ▸ .head _), h.marks, fun c hmem => h.saved c (hsaved ▸ .tail _ hmem)⟩
  | isSaved =>
    rw [step] at hstep
    split at hstep
    · cases hstep
    · cases hstep
      exact h

theorem run_of_ok (h : s.step st = .ok (answer, later)) (steps : List Step) :
    s.run (st :: steps) = { later.run steps with
      entries := (answer, later.cursor) :: (later.run steps).entries } := by
  rw [run, h]

theorem run_of_error {refusal : Refusal} (h : s.step st = .error refusal) (steps : List Step) :
    s.run (st :: steps) = ⟨[], some refusal⟩ := by
  rw [run, h]

theorem Knows.of_run (hclosed : ClosedUnder allowed holds) (h : s.Knows holds)
    (hsteps : ∀ st ∈ steps, st.Allowed allowed) :
    ∀ entry ∈ (s.run steps).entries, holds entry.2 := by
  induction steps generalizing s with
  | nil => exact fun _ hmem => absurd hmem List.not_mem_nil
  | cons st steps ih =>
    cases hstep : s.step st with
    | error refusal =>
      rw [run_of_error hstep]
      exact fun _ hmem => absurd hmem List.not_mem_nil
    | ok result =>
      have hlater := h.of_step hclosed (hsteps st (.head _)) hstep
      rw [run_of_ok hstep]
      intro entry hmem
      rcases List.mem_cons.1 hmem with rfl | hmem
      · exact hlater.cursor
      · exact ih hlater (fun st hst => hsteps st (.tail _ hst)) entry hmem

/-- Operations go the same way in sessions at the same cursor. -/
theorem run_congr (h : s.cursor = s'.cursor) (ops : List Operation) :
    s.run (ops.map .operation) = s'.run (ops.map .operation) := by
  induction ops generalizing s s' with
  | nil => rfl
  | cons op ops ih =>
    simp only [List.map_cons, run, step, operate, h]
    cases op.run s'.cursor with
    | error fault => rfl
    | ok result =>
      by_cases hfit : s'.cursor.countersFit (op.reach s'.cursor) = true
      · simp only [if_pos hfit]
        rw [@ih { s with cursor := result.2 } { s' with cursor := result.2 } rfl]
      · simp only [if_neg hfit]

end Session

/-- Every operation leads from a reachable cursor to a reachable one. -/
theorem closedUnder_reachable (text : String) : ClosedUnder (fun _ => True) (Reachable text) where
  run hc _ hrun := hc.run hrun
  reset {c d later} hc _ hreset := by
    have hrun : (Operation.reset d.position).run c = .ok (.done, later) := by
      rw [Operation.run, hreset]
      rfl
    exact hc.run hrun

end LexSpan
