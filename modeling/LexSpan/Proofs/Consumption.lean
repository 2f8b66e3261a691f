import LexSpan.Proofs.Room
import LexSpan.Proofs.StepwiseReading

/-!
# Reads take or stay

`c.Passes s d` says that `s` lies under the cursor `c` and leads to `d` behind it. It composes along
a run (`Passes.trans`), and says where `d` is and what stands between the two (`Passes.advanceTo_eq`,
`Passes.slice_eq`).

Main statement (`reads_take_or_stay`): at every cursor that can be reached, a read or a skip either
fails and leaves the cursor as it is, also where it moves first and has to go back, or it takes what
lies between the cursor and a later one. Hence a session of reads and skips never goes back, and what
they passed, put together, is the part of the text from its first cursor to its last.
-/

namespace LexSpan

namespace Cursor

/-- A text lies under a cursor, and another cursor stands behind it. -/
def Passes (c : Cursor) (s : String) (later : Cursor) : Prop :=
  ∃ as, c.rest = as ++ later.rest ∧ s = String.ofList as ∧ later = advanceBy as.length c

/-- A token is what lies between a cursor and a later one, and is not empty. -/
structure Takes (c : Cursor) (token : Token) (later : Cursor) : Prop where
  start_eq : token.start = c.position
  stop_eq : token.stop = later.position
  length_pos : 0 < token.length
  slice_eq : c.slice token.start.offset token.stop.offset = .ok token.text
  advanceTo_eq : c.advanceTo token.stop.offset = .ok later

variable {c d e : Cursor} {s t : String} {as bs : List Char}

theorem Passes.of_append (h : c.rest = as ++ bs) :
    c.Passes (c.tokenTo (advanceBy as.length c)).text (advanceBy as.length c) :=
  ⟨as, by rw [rest_advanceBy h, h], by rw [tokenTo_advanceBy h], rfl⟩

theorem Passes.refl (c : Cursor) : c.Passes "" c := ⟨[], rfl, rfl, rfl⟩

theorem Passes.trans (h : c.Passes s d) (h' : d.Passes t e) : c.Passes (s ++ t) e := by
  obtain ⟨as, hc, rfl, rfl⟩ := h
  obtain ⟨bs, hd, rfl, rfl⟩ := h'
  refine ⟨as ++ bs, ?_, String.ofList_append.symm, ?_⟩
  · rw [hc, hd, List.append_assoc]
  · rw [List.length_append, advanceBy_add]

theorem Passes.ahead (h : c.Passes s d) : c.Ahead d := by
  obtain ⟨as, -, -, rfl⟩ := h
  exact .advanceBy _ c

theorem Passes.advanceTo_eq (hv : c.Valid) (h : c.Passes s d) : c.advanceTo d.offset = .ok d := by
  obtain ⟨as, hc, -, hd⟩ := h
  have hoffset := offset_advanceBy hc
  rw [← hd] at hoffset
  rw [hoffset, advanceTo_append hv hc, ← hd]

theorem Passes.slice_eq (hv : c.Valid) (h : c.Passes s d) : c.slice c.offset d.offset = .ok s := by
  obtain ⟨as, hc, rfl, hd⟩ := h
  have hoffset := offset_advanceBy hc
  rw [← hd] at hoffset
  rw [hoffset, slice_append hv hc]

theorem offset_lt_advanceBy (h : c.rest = as ++ bs) (hne : as ≠ []) :
    c.offset < (advanceBy as.length c).offset := by
  have hpos := Nat.pos_of_ne_zero (mt Utf8.length_eq_zero.1 hne)
  rw [offset_advanceBy h]
  omega

theorem Takes.of_append (hv : c.Valid) (h : c.rest = as ++ bs) (hne : as ≠ []) :
    c.Takes (c.tokenTo (advanceBy as.length c)) (advanceBy as.length c) where
  start_eq := rfl
  stop_eq := rfl
  length_pos := Nat.sub_pos_of_lt (offset_lt_advanceBy h hne)
  slice_eq := (Passes.of_append h).slice_eq hv
  advanceTo_eq := (Passes.of_append h).advanceTo_eq hv

end Cursor

namespace Operation

/-- Whether an operation is a read or a skip. -/
def isReadOrSkip : Operation → Bool
  | .read _ | .skip _ => true
  | _ => false

end Operation

/-- What a read or a skip passed between two cursors: the token of a read, if there is one, and all
that lies between the cursors of a skip. -/
def Answer.passed (before after : Cursor) : Answer → String
  | .token none => ""
  | .token (some piece) => piece.text
  | _ => (before.tokenTo after).text

/-- What the entries of a transcript that starts at `c` passed, one after the other. -/
def passedTexts (c : Cursor) : List (Answer × Cursor) → List String
  | [] => []
  | (answer, later) :: entries => answer.passed c later :: passedTexts later entries

/-- The cursor behind the last entry of a transcript that starts at `c`. -/
def lastCursor (c : Cursor) : List (Answer × Cursor) → Cursor
  | [] => c
  | (_, later) :: entries => lastCursor later entries

variable {c : Cursor} {op : Operation} {ops : List Operation}

/-- A read or a skip is never refused, and what it answers is what it passes. -/
theorem Operation.exists_passes (hv : c.Valid) (hop : op.isReadOrSkip = true) :
    ∃ answer later, op.run c = .ok (answer, later) ∧ c.Passes (answer.passed c later) later := by
  cases op with
  | read shape =>
    rcases Cursor.read_cases hv shape with hread | ⟨as, bs, -, hc, hread⟩
    · exact ⟨.token none, c, by rw [run, hread]; rfl, .refl c⟩
    · exact ⟨.token (some _), _, by rw [run, hread]; rfl, .of_append hc⟩
  | skip p =>
    rcases Cursor.skip_cases hv p with hskip | ⟨as, bs, -, hc, hskip⟩
    · exact ⟨.truth false, c, by rw [run, hskip]; rfl, .of_append (List.nil_append _).symm⟩
    · exact ⟨.truth true, _, by rw [run, hskip]; rfl, .of_append hc⟩
  | _ => cases hop

/-- Passing one stretch and then the ones of the entries behind it. -/
theorem Cursor.Passes.cons {later last : Cursor} {answer : Answer}
    {entries : List (Answer × Cursor)} (h : c.Passes (answer.passed c later) later)
    (h' : later.Passes (String.join (passedTexts later entries)) last) :
    c.Passes (String.join (passedTexts c ((answer, later) :: entries))) last := by
  rw [passedTexts, String.join_cons]
  exact h.trans h'

namespace Session

variable {s : Session}

/-- A read or a skip is refused only where the counters do not hold. -/
theorem operate_cases (hv : s.cursor.Valid) (hop : op.isReadOrSkip = true) :
    (s.operate op = .error .countersExhausted ∧ ¬ s.cursor.HasRoom) ∨ ∃ answer later,
      s.operate op = .ok (answer, { s with cursor := later }) ∧
        s.cursor.Passes (answer.passed s.cursor later) later := by
  obtain ⟨answer, later, hrun, hpasses⟩ := Operation.exists_passes hv hop
  exact (operate_of_run hrun).imp_right fun hok => ⟨answer, later, hok, hpasses⟩

/-- What a run of reads and skips from `c` comes to. -/
structure Consumes (c : Cursor) (count : Nat) (t : Transcript) : Prop where
  /-- All are carried out, if the counters hold. -/
  refusal_eq : t.refusal = none ∧ t.entries.length = count ∨ t.refusal = some .countersExhausted
  not_refused : c.HasRoom → t.refusal = none
  /-- No one goes back. -/
  offsets : (c.offset :: t.entries.map (·.2.offset)).Pairwise (· ≤ ·)
  /-- What they pass lies one after the other. -/
  passes : c.Passes (String.join (passedTexts c t.entries)) (lastCursor c t.entries)

theorem Consumes.cons {later : Cursor} {answer : Answer} {count : Nat} {t : Transcript}
    (hpasses : c.Passes (answer.passed c later) later) (h : Consumes later count t) :
    Consumes c (count + 1) { t with entries := (answer, later) :: t.entries } where
  refusal_eq := h.refusal_eq.imp_left fun ⟨hnone, hlength⟩ => ⟨hnone, congrArg (· + 1) hlength⟩
  not_refused hroom := h.not_refused (hroom.of_ahead hpasses.ahead)
  offsets := by
    refine List.pairwise_cons.2 ⟨?_, h.offsets⟩
    have hle := hpasses.ahead.offset_le
    intro offset hmem
    rcases List.mem_cons.1 hmem with rfl | hmem
    · exact hle
    · exact Nat.le_trans hle ((List.pairwise_cons.1 h.offsets).1 offset hmem)
  passes := hpasses.cons h.passes

theorem run_consumes (hv : s.cursor.Valid) (hops : ∀ op ∈ ops, op.isReadOrSkip = true) :
    Consumes s.cursor ops.length (s.run (ops.map .operation)) := by
  -- a cursor in front of the later reads and skips is valid, as it lies ahead of a valid one
  induction ops generalizing s with
  | nil => exact ⟨.inl ⟨rfl, rfl⟩, fun _ => rfl, List.pairwise_singleton _ _, .refl _⟩
  | cons op ops ih =>
    have hrest : ∀ op ∈ ops, op.isReadOrSkip = true := fun op hop => hops op (.tail _ hop)
    rw [List.map_cons, run, step]
    rcases operate_cases hv (hops op (.head _)) with
      ⟨h, hroom⟩ | ⟨answer, later, h, hpasses⟩
    · rw [h]
      exact ⟨.inr rfl, fun h => absurd h hroom, List.pairwise_singleton _ _, .refl _⟩
    · rw [h]
      exact .cons hpasses (ih (s := { s with cursor := later }) (hpasses.ahead.valid hv) hrest)

end Session

theorem reads_take_or_stay (text : String) :
    (∀ c, Reachable text c →
      (∀ shape, c.readStepwise shape = c.read shape ∧
        (c.read shape = .ok (none, c) ∨
          ∃ token later, c.read shape = .ok (some token, later) ∧ c.Takes token later)) ∧
      ∀ p, .ok (c.skipStepwise p) = c.skip p ∧
        (c.skip p = .ok (false, c) ∨
          ∃ later, c.skip p = .ok (true, later) ∧ c.offset < later.offset ∧
            c.advanceTo later.offset = .ok later)) ∧
    ∀ (s : Session) (ops : List Operation), Reachable text s.cursor →
      (∀ op ∈ ops, op.isReadOrSkip = true) →
      ∀ t last, s.run (ops.map .operation) = t → lastCursor s.cursor t.entries = last →
        (t.refusal = none ∧ t.entries.length = ops.length ∨
          t.refusal = some .countersExhausted) ∧
        (s.cursor.HasRoom → t.refusal = none) ∧
        (s.cursor.offset :: t.entries.map (·.2.offset)).Pairwise (· ≤ ·) ∧
        s.cursor.slice s.cursor.offset last.offset =
          .ok (String.join (passedTexts s.cursor t.entries)) := by
  refine ⟨fun c hc => ⟨fun shape => ?_, fun p => ?_⟩, ?_⟩
  · refine ⟨Cursor.readStepwise_eq_read hc.valid shape, ?_⟩
    rcases Cursor.read_cases hc.valid shape with hread | ⟨as, bs, hne, hrest, hread⟩
    · exact .inl hread
    · exact .inr ⟨_, _, hread, .of_append hc.valid hrest hne⟩
  · refine ⟨Cursor.skipStepwise_eq_skip hc.valid p, ?_⟩
    rcases Cursor.skip_cases hc.valid p with hskip | ⟨as, bs, hne, hrest, hskip⟩
    · exact .inl hskip
    · exact .inr ⟨_, hskip, Cursor.offset_lt_advanceBy hrest hne,
        (Cursor.Passes.of_append hrest).advanceTo_eq hc.valid⟩
  · rintro s ops hs hops t last rfl rfl
    have h := Session.run_consumes hs.valid hops
    exact ⟨h.refusal_eq, h.not_refused, h.offsets, h.passes.slice_eq hs.valid⟩

/-- A number that goes back to its point, and a quoted string without an end, which is left where it
starts. -/
theorem reads_take_or_stay_dangling_point :
    (∃ token later, (Cursor.start "12. \n'a").read .decimal = .ok (some token, later) ∧
      token.text = "12" ∧ later.offset = 2 ∧ (Cursor.start "12. \n'a").Takes token later) ∧
    ∃ last, lastCursor (.start "12. \n'a") (Session.run { cursor := .start "12. \n'a" }
        ([.read .decimal, .read (.char '.'), .skip (· ≠ '\''), .read (.quoted none)].map
          .operation)).entries = last ∧
      last.position = ⟨5, 2, 1⟩ ∧
      (Cursor.start "12. \n'a").slice 0 last.offset = .ok "12. \n" := by
  obtain ⟨hone, hall⟩ := reads_take_or_stay "12. \n'a"
  constructor
  · have hrest : (Cursor.start "12. \n'a").rest = ['1', '2'] ++ ['.', ' ', '\n', '\'', 'a'] := by
      decide
    have hextent : Shape.decimal.extent? (Cursor.start "12. \n'a").rest =
        some (Utf8.length ['1', '2']) := by decide
    have hread := Cursor.read_eq_some (Cursor.valid_start _) hrest hextent
    rcases ((hone _ .start).1 .decimal).2 with h | ⟨token, later, h, htakes⟩
    · rw [hread] at h
      cases h
    · rw [hread] at h
      cases h
      exact ⟨_, _, hread, by decide, by decide, htakes⟩
  · have hpassed := (hall { cursor := .start "12. \n'a" }
      [.read .decimal, .read (.char '.'), .skip (· ≠ '\''), .read (.quoted none)] .start
      (by decide) _ _ rfl rfl).2.2.2
    rw [show passedTexts _ _ = ["12", ".", " \n", ""] by decide +kernel] at hpassed
    exact ⟨_, rfl, by decide +kernel, hpassed⟩

end LexSpan
