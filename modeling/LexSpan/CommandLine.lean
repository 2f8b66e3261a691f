import LexSpan.Lexing

/-!
# The command line

The words of a command line are read in order, and the first that does not fit decides. Main
statement: behind `--` every word is a file (`readArguments_dashes`).
-/

namespace LexSpan

/-- What to do with files. -/
inductive Command where
  /-- Print the lexemes asked for. -/
  | tokens (options : Options)
  /-- Only say whether the text can be split. -/
  | check
deriving DecidableEq

namespace Command

/-- The lexemes that a command looks at. -/
def options : Command → Options
  | tokens options => options
  | check => {}

end Command

/-- What a command line asks for. -/
inductive Invocation where
  | run (command : Command) (files : List String)
  | version
  | help
  | misuse
deriving DecidableEq

/-- The words behind a command, sorted. -/
structure Arguments where
  noTrivia : Bool := false
  files : List String := []
deriving DecidableEq

namespace Invocation

/-- Whether a word asks for help, alone or at the head of a cluster of short options. -/
def isHelp (word : String) : Bool := word = "--help" || word.startsWith "-h"

/-- Whether a word asks for the version. -/
def isVersion (word : String) : Bool := word = "--version" || word.startsWith "-V"

/-- Sorts the words behind a command, which may know the option to leave trivia out. -/
def readArguments (knowsNoTrivia : Bool) (found : Arguments) :
    List String → Except Invocation Arguments
  | [] => .ok found
  | word :: words =>
    if word = "--" then
      if words.contains "" then .error misuse
      else .ok { found with files := found.files ++ words }
    else if word = "--no-trivia" ∧ knowsNoTrivia = true ∧ found.noTrivia = false then
      readArguments knowsNoTrivia { found with noTrivia := true } words
    else if isHelp word then .error help
    else if word = "" then .error misuse
    else if word = "-" ∨ word.startsWith "-" = false then
      readArguments knowsNoTrivia { found with files := found.files ++ [word] } words
    else .error misuse

/-- The invocation of a command on the files among its words, of which there must be one. -/
def ofArguments (command : Arguments → Command) :
    Except Invocation Arguments → Invocation
  | .error invocation => invocation
  | .ok found => if found.files = [] then misuse else run (command found) found.files

/-- Reads a command line. -/
def ofWords : List String → Invocation
  | [] => misuse
  | word :: words =>
    if word = "tokens" then
      ofArguments (fun found => .tokens { keepTrivia := !found.noTrivia })
        (readArguments true {} words)
    else if word = "check" then ofArguments (fun _ => .check) (readArguments false {} words)
    else if word = "help" then
      if words = [] ∨ words ∈ [["tokens"], ["check"], ["help"]] then help else misuse
    else if isVersion word then version
    else if isHelp word then help
    else misuse

theorem readArguments_noTrivia (found : Arguments) (words : List String) :
    readArguments true { found with noTrivia := false } ("--no-trivia" :: words) =
      readArguments true { found with noTrivia := true } words := by
  rw [readArguments]
  simp

theorem readArguments_dashes (knowsNoTrivia : Bool) (found : Arguments) {words : List String}
    (h : "" ∉ words) : readArguments knowsNoTrivia found ("--" :: words) =
      .ok { found with files := found.files ++ words } := by
  simp [readArguments, h]

end Invocation

end LexSpan
