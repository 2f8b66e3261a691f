import LexSpan.CommandLine
import LexSpan.FileTree
import LexSpan.Log

/-!
# Reports on files

A report is what a command says about files, in order: lines of output, messages, and events for
the log. The events are chosen only when a report is written down (`Report.written`).
-/

namespace LexSpan

/-- Something said about a file. -/
inductive Remark where
  /-- A line of output. -/
  | output (line : String)
  /-- A line about how the work goes. -/
  | message (line : String)
  | event (event : Event)
deriving DecidableEq

namespace Remark

/-- Whether a remark is written down when `filter` chooses the events, if any are. -/
def isWritten (filter : Option Filter) : Remark → Bool
  | event e => filter.any (·.enables e)
  | _ => true

/-- A line of output. -/
def output? : Remark → Option String
  | output line => some line
  | _ => none

/-- A line next to the output: a message, or an event for the log. -/
def message? : Remark → Option String
  | output _ => none
  | message line => some line
  | event e => some e.render

end Remark

/-- What was said about files, and whether one of them failed. -/
structure Report where
  remarks : List Remark
  failed : Bool
deriving DecidableEq

namespace Stop

/-- Why a text could not be split, in words. -/
def message : Stop → String
  | .malformed error => error.message
  | .fault f => f.message.getD "position outside the text"

end Stop

namespace Lexeme

/-- A lexeme as a line of output: its place, its kind and its text. -/
def render (lexeme : Lexeme) : String :=
  lexeme.start.render ++ "\t" ++ lexeme.kind.name ++ "\t" ++ quote lexeme.text

end Lexeme

namespace Command

/-- What a command says about a text that could be split. -/
def remarks (path : String) (lexemes : List Lexeme) : Command → List Remark
  | tokens _ => lexemes.map fun lexeme => .output lexeme.render
  | check => [.message (path ++ ": ok (" ++ toString lexemes.length ++ " tokens)")]

end Command

namespace Report

/-- The report on a text that was read from a file. -/
def ofText (command : Command) (path text : String) : Report :=
  let lexing := Lexing.ofText text
  let events := .scanning path text.utf8ByteSize :: lexing.lexemes.map .token
  match lexing.outcome command.options with
  | .error stop => ⟨events.map .event ++ [.message (path ++ ": " ++ stop.message)], true⟩
  | .ok lexemes =>
    let events := events ++ [.tokenized lexemes.length text.utf8ByteSize]
    ⟨events.map .event ++ command.remarks path lexemes, false⟩

/-- The report on a file. -/
def ofFile (read : String → Except ReadError String) (command : Command) (path : String) :
    Report :=
  match read path with
  | .error e => ⟨[.message (path ++ ": " ++ e.message)], true⟩
  | .ok text => ofText command path text

/-- The report on files, one after the other. -/
def ofFiles (read : String → Except ReadError String) (command : Command)
    (paths : List String) : Report :=
  let reports := paths.map (ofFile read command)
  ⟨reports.flatMap (·.remarks), reports.any (·.failed)⟩

/-- The lines of output. -/
def output (report : Report) : List String := report.remarks.filterMap Remark.output?

/-- The remarks that are written down when `filter` chooses the events, if any are. -/
def written (filter : Option Filter) (report : Report) : List Remark :=
  report.remarks.filter (·.isWritten filter)

/-- The messages, with the chosen events between them. -/
def messages (filter : Option Filter) (report : Report) : List String :=
  (report.written filter).filterMap Remark.message?

end Report

end LexSpan
