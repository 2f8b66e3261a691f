import LexSpan.Report

/-!
# The program

What a command line leads to: an exit code, and what is written on the two channels. Main
statement: the log never shows in the exit code or in the output (`run_filter`).
-/

namespace LexSpan

/-- What a run of the program leaves behind. -/
structure Outcome where
  code : Nat
  output : String
  messages : String
deriving DecidableEq

/-- Lines, each ended by a line feed. -/
def joinLines (lines : List String) : String := String.join (lines.map (· ++ "\n"))

/-- What is left behind by a report, with the events that `filter` chooses, if any. -/
def Outcome.ofReport (filter : Option Filter) (report : Report) : Outcome :=
  ⟨if report.failed then 1 else 0, joinLines report.output, joinLines (report.messages filter)⟩

namespace Program

/-- The name and version of the program. -/
def version : String := "textscan 0.1.0"

/-- How the program is called. The wording is this library's own: the program has its help and its
complaints about a command line generated, and they say more. -/
def usage : List String :=
  ["Usage: textscan tokens [--no-trivia] <FILES>...", "       textscan check <FILES>..."]

/-- Runs the program on a command line. `read` reads a file, and `filter` chooses the events that
are logged, if any are. -/
def run (read : String → Except ReadError String) (filter : Option Filter)
    (words : List String) : Outcome :=
  match Invocation.ofWords words with
  | .run command paths => .ofReport filter (.ofFiles read command paths)
  | .version => ⟨0, joinLines [version], ""⟩
  | .help => ⟨0, joinLines usage, ""⟩
  | .misuse => ⟨2, "", joinLines usage⟩

/-- The log does not show in the exit code or in the output. -/
theorem run_filter (read : String → Except ReadError String) (filter other : Option Filter)
    (words : List String) :
    (run read filter words).code = (run read other words).code ∧
      (run read filter words).output = (run read other words).output := by
  unfold run
  split <;> exact ⟨rfl, rfl⟩

end Program

end LexSpan
