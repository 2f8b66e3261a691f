import LexSpan.Escaping
import LexSpan.Lexeme
import LexSpan.Pieces

/-!
# The log

While it works, the program notes events. A `Filter` chooses by target and level which events are
written. Its directives are separated by commas: a level alone holds for every target, a target
alone admits everything, and `target=level` bounds the level for all targets that start with it. The
directive with the longest such target decides, and without one nothing is written.
-/

namespace LexSpan

/-- The levels of importance. -/
inductive Level where
  | error
  | warn
  | info
  | debug
  | trace
deriving DecidableEq

namespace Level

/-- The name of a level at the head of a line of the log. -/
def name : Level → String
  | error => "ERROR"
  | warn => "WARN"
  | info => "INFO"
  | debug => "DEBUG"
  | trace => "TRACE"

/-- The number of levels up to this one. -/
def rank : Level → Nat
  | error => 1
  | warn => 2
  | info => 3
  | debug => 4
  | trace => 5

end Level

/-- What happens to a file. -/
inductive Event where
  /-- A file was read. -/
  | scanning (path : String) (bytes : Nat)
  /-- A lexeme was found, whether it is asked for or not. -/
  | token (lexeme : Lexeme)
  /-- The whole text was split, and `count` lexemes are asked for. -/
  | tokenized (count bytes : Nat)
deriving DecidableEq

namespace Event

/-- How important an event is. -/
def level : Event → Level
  | scanning _ _ => .debug
  | token _ => .trace
  | tokenized _ _ => .debug

/-- The part of the program that an event belongs to. -/
def target : Event → String
  | scanning _ _ => "textscan"
  | token _ => "textscan_rs::lexer"
  | tokenized _ _ => "textscan_rs::lexer"

/-- An event in words, followed by its fields. -/
def message : Event → String
  | scanning path bytes => "scanning path=" ++ path ++ " bytes=" ++ toString bytes
  | token lexeme =>
    "token kind=" ++ lexeme.kind.name ++ " at=" ++ lexeme.start.render ++ " text=" ++
      quote lexeme.text
  | tokenized count bytes =>
    "tokenized input count=" ++ toString count ++ " bytes=" ++ toString bytes

/-- An event as a line of the log. -/
def render (e : Event) : String := e.level.name ++ " " ++ e.target ++ ": " ++ e.message

end Event

/-- Admits events of up to `rank` levels, from targets that start with `target`. -/
structure Directive where
  target : String
  rank : Nat
deriving DecidableEq

namespace Directive

/-- The ranks that can be asked for, by name and by number. -/
def rank? (level : String) : Option Nat :=
  [("off", 0), ("error", 1), ("warn", 2), ("info", 3), ("debug", 4), ("trace", 5), ("0", 0),
    ("1", 1), ("2", 2), ("3", 3), ("4", 4), ("5", 5)].lookup level.toLower

/-- Reads a directive in one of the plain forms `level`, `target` and `target=level`; whatever else
is asked for, such as a span or a field, counts as malformed and admits nothing new. -/
def ofText? (text : String) : Option Directive :=
  match pieces '=' text with
  | [word] =>
    if word = "" then none
    else match rank? word with
      | some rank => some ⟨"", rank⟩
      | none => some ⟨word, Level.trace.rank⟩
  | [target, level] => if target = "" then none else (rank? level).map fun rank => ⟨target, rank⟩
  | _ => none

/-- Whether a directive is about a target. -/
def appliesTo (d : Directive) (target : String) : Bool :=
  d.target.toList.isPrefixOf target.toList

end Directive

/-- Which events are written. -/
structure Filter where
  directives : List Directive
deriving DecidableEq

namespace Filter

/-- Reads directives separated by commas, and passes over those that are malformed. -/
def ofText (text : String) : Filter := ⟨(pieces ',' text).filterMap Directive.ofText?⟩

/-- The more specific of two directives, the second if they have the same target. -/
def moreSpecific (best : Option Directive) (d : Directive) : Option Directive :=
  match best with
  | none => some d
  | some b => if b.target.length ≤ d.target.length then some d else some b

/-- Whether an event is written: its target's directive admits its level. -/
def enables (filter : Filter) (e : Event) : Bool :=
  match (filter.directives.filter (·.appliesTo e.target)).foldl moreSpecific none with
  | none => false
  | some d => e.level.rank ≤ d.rank

end Filter

end LexSpan
