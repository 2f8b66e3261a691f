import LexSpan.Session.Counters

/-!
# Sessions at a cursor

A session carries out steps at a cursor one after the other. It remembers positions by name, to go
back to them, and whole cursors on a stack. A step that is refused ends the session.
-/

namespace LexSpan

/-- A step of a session. -/
inductive Step where
  | operation (op : Operation)
  /-- Remembers the position under a name, in place of any before it. -/
  | checkpoint (name : String)
  /-- Goes back to the position remembered under a name. -/
  | backTo (name : String)
  /-- Puts the cursor on the stack. -/
  | save
  /-- Goes on with the cursor on top of the stack, and takes it off. -/
  | restore
  /-- Asks whether the cursor is the one on top of the stack. -/
  | isSaved

/-- Why a step is refused. -/
inductive Refusal where
  | fault (fault : Fault)
  /-- A line or a column would be counted past the last word. -/
  | countersExhausted
  | nothingRemembered (name : String)
  | nothingSaved
deriving DecidableEq

/-- A cursor with what was remembered on the way, the newest first. -/
structure Session where
  cursor : Cursor
  marks : List (String × Position) := []
  saved : List Cursor := []

/-- The answers of a session, each with the cursor after it, and the refusal that ended it. -/
structure Transcript where
  entries : List (Answer × Cursor)
  refusal : Option Refusal
deriving DecidableEq

namespace Session

/-- Carries out an operation, if the counters hold. -/
def operate (op : Operation) (s : Session) : Except Refusal (Answer × Session) :=
  match op.run s.cursor with
  | .error fault => .error (.fault fault)
  | .ok (answer, cursor) =>
    if s.cursor.countersFit (op.reach s.cursor) then .ok (answer, { s with cursor })
    else .error .countersExhausted

/-- Carries out one step. -/
def step (s : Session) : Step → Except Refusal (Answer × Session)
  | .operation op => s.operate op
  | .checkpoint name =>
    .ok (.position s.cursor.position, { s with marks := (name, s.cursor.position) :: s.marks })
  | .backTo name =>
    match s.marks.lookup name with
    | none => .error (.nothingRemembered name)
    | some position => s.operate (.reset position)
  | .save => .ok (.done, { s with saved := s.cursor :: s.saved })
  | .restore =>
    match s.saved with
    | [] => .error .nothingSaved
    | cursor :: saved => .ok (.done, { s with cursor, saved })
  | .isSaved =>
    match s.saved with
    | [] => .error .nothingSaved
    | cursor :: _ => .ok (.truth (s.cursor = cursor), s)

/-- Carries out steps until one is refused. -/
def run (s : Session) : List Step → Transcript
  | [] => ⟨[], none⟩
  | step :: steps =>
    match s.step step with
    | .error refusal => ⟨[], some refusal⟩
    | .ok (answer, s) =>
      let transcript := s.run steps
      { transcript with entries := (answer, s.cursor) :: transcript.entries }

end Session

end LexSpan
