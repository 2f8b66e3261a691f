import LexSpan.Lexeme
import LexSpan.Reading

/-!
# Splitting a text into lexemes

`Cursor.next` reads one lexeme by trying kinds in a given order. `Lexing.ofText` repeats it to the
end of a text, or to the first malformed quoted string, and keeps all lexemes on the way;
`tokenize` gives those asked for if the whole text could be split.

Main statements: each lexeme brings the cursor forward (`length_rest_of_next`), and what was read
before does not matter for what is read next (`lexFrom_eq`).
-/

namespace LexSpan

/-- The two ways in which a quoted string is malformed. -/
inductive Malformation where
  | unterminatedString
  | invalidEscape
deriving DecidableEq

namespace Malformation

/-- A malformation in words. -/
def message : Malformation → String
  | unterminatedString => "unterminated quoted string"
  | invalidEscape => "invalid escape sequence"

end Malformation

/-- A malformed quoted string: an unterminated one at its opening quote, a bad escape at its
backslash. -/
structure LexError where
  kind : Malformation
  position : Position
deriving DecidableEq

namespace LexError

/-- An error in words, with its place. -/
def message (e : LexError) : String :=
  e.kind.message ++ " at line " ++ toString e.position.line ++ ", column " ++
    toString e.position.column

end LexError

/-- Why splitting stops before the end of a text. -/
inductive Stop where
  | malformed (error : LexError)
  | fault (fault : Fault)
deriving DecidableEq

namespace Cursor

/-- Reads a lexeme of the given kind, or nothing. -/
def readAs (kind : Kind) (c : Cursor) : Except Stop (Option (Lexeme × Cursor)) :=
  match c.read kind.shape with
  | .error fault => .error (.fault fault)
  | .ok (none, _) => .ok none
  | .ok (some token, later) => .ok (some (⟨token, kind⟩, later))

/-- Tries to read a lexeme of the given kind. A malformed quoted string is an error. -/
def attempt (kind : Kind) (c : Cursor) : Except Stop (Option (Lexeme × Cursor)) :=
  if kind = .string then
    match Quoted.extent none c.rest with
    | .error .unterminated => .error (.malformed ⟨.unterminatedString, c.position⟩)
    | .error (.invalidEscape n) =>
      match c.advanceTo (c.offset + n) with
      | .error fault => .error (.fault fault)
      | .ok backslash => .error (.malformed ⟨.invalidEscape, backslash.position⟩)
    | _ => c.readAs kind
  else c.readAs kind

/-- Reads a lexeme of the first kind in the list that fits. -/
def next : List Kind → Cursor → Except Stop (Option (Lexeme × Cursor))
  | [], _ => .ok none
  | kind :: kinds, c =>
    match c.attempt kind with
    | .ok none => next kinds c
    | outcome => outcome

theorem length_rest_of_readAs {c later : Cursor} {kind : Kind} {lexeme : Lexeme}
    (h : c.readAs kind = .ok (some (lexeme, later))) : later.rest.length < c.rest.length := by
  unfold readAs at h
  split at h
  · simp at h
  · simp at h
  · rename_i hr
    simp only [Except.ok.injEq, Option.some.injEq, Prod.mk.injEq] at h
    exact h.2 ▸ length_rest_of_read hr

theorem length_rest_of_attempt {c later : Cursor} {kind : Kind} {lexeme : Lexeme}
    (h : c.attempt kind = .ok (some (lexeme, later))) : later.rest.length < c.rest.length := by
  unfold attempt at h
  split at h
  · split at h
    · simp at h
    · split at h <;> simp at h
    · exact length_rest_of_readAs h
  · exact length_rest_of_readAs h

/-- A lexeme brings the cursor forward. -/
theorem length_rest_of_next {kinds : List Kind} {c later : Cursor} {lexeme : Lexeme}
    (h : c.next kinds = .ok (some (lexeme, later))) : later.rest.length < c.rest.length := by
  induction kinds with
  | nil => simp [next] at h
  | cons kind kinds ih =>
    rw [next] at h
    split at h
    · exact ih h
    · exact length_rest_of_attempt h

end Cursor

/-- All that splitting a text brings out: its lexemes, and why it stopped if it did. -/
structure Lexing where
  lexemes : List Lexeme
  stop : Option Stop
deriving DecidableEq

/-- Splits the rest of a text. The lexemes before it are `done`, the newest first. -/
def lexFrom (done : List Lexeme) (c : Cursor) : Lexing :=
  match h : c.next Kind.order with
  | .error stop => ⟨done.reverse, some stop⟩
  | .ok none => ⟨done.reverse, none⟩
  | .ok (some (lexeme, later)) =>
    have : later.rest.length < c.rest.length := Cursor.length_rest_of_next h
    lexFrom (lexeme :: done) later
termination_by c.rest.length

namespace Lexing

/-- Splits what follows a cursor. -/
def ofCursor (c : Cursor) : Lexing := lexFrom [] c

/-- Splits a text. -/
def ofText (text : String) : Lexing := ofCursor (.start text)

end Lexing

/-- The lexemes before a cursor do not matter for those behind it. -/
theorem lexFrom_eq (done : List Lexeme) (c : Cursor) :
    lexFrom done c =
      ⟨done.reverse ++ (Lexing.ofCursor c).lexemes, (Lexing.ofCursor c).stop⟩ := by
  induction hn : c.rest.length using Nat.strongRecOn generalizing done c with
  | ind n ih =>
    rw [Lexing.ofCursor, lexFrom, lexFrom]
    split
    · simp
    · simp
    · rename_i lexeme later h
      have hlt := Cursor.length_rest_of_next h
      rw [ih _ (hn ▸ hlt) (lexeme :: done) later rfl, ih _ (hn ▸ hlt) [lexeme] later rfl]
      simp

/-- What to do with white space and new lines. -/
structure Options where
  keepTrivia : Bool := true
deriving DecidableEq

namespace Options

/-- The same options, but for what to do with trivia. -/
def withTrivia (options : Options) (keepTrivia : Bool) : Options := { options with keepTrivia }

/-- Whether a lexeme is among those asked for. -/
def keeps (options : Options) (lexeme : Lexeme) : Bool :=
  options.keepTrivia || !lexeme.kind.isTrivia

end Options

namespace Lexing

/-- The lexemes asked for, or why the text could not be split. -/
def outcome (options : Options) (lexing : Lexing) : Except Stop (List Lexeme) :=
  match lexing.stop with
  | some stop => .error stop
  | none => .ok (lexing.lexemes.filter options.keeps)

end Lexing

/-- Splits a text into the lexemes asked for. -/
def tokenize (text : String) (options : Options := {}) : Except Stop (List Lexeme) :=
  (Lexing.ofText text).outcome options

end LexSpan
