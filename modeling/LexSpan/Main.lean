import LexSpan.Program

/-!
# The command line program

Reads the files that the command line names, and writes what `Program.run` says of them.
-/

namespace LexSpan

/-- Why the system does not give the bytes of a file. -/
def ReadError.ofSystem : IO.Error → ReadError
  | .noFileOrDirectory .. => .missing
  | .inappropriateType _ code _ =>
    if code = 20 ∨ code = -20 then .notADirectory else .isADirectory
  | e => .other (toString e)

/-- The text of a file, or why it cannot be read. -/
def readText (path : String) : IO (Except ReadError String) := do
  try
    return decodeText (← IO.FS.readBinFile path)
  catch e =>
    return .error (.ofSystem e)

/-- The files that a command line names. -/
def Invocation.files : Invocation → List String
  | run _ files => files
  | _ => []

/-- The variable that chooses what is logged. -/
def logVariable : String := "RUST_LOG"

end LexSpan

open LexSpan in
def main (words : List String) : IO UInt32 := do
  let texts ← (Invocation.ofWords words).files.mapM fun path => do
    return (path, ← readText path)
  let read path := (texts.lookup path).getD (.error .missing)
  let filter := (← IO.getEnv logVariable).map Filter.ofText
  let outcome := Program.run read filter words
  (← IO.getStdout).putStr outcome.output
  (← IO.getStderr).putStr outcome.messages
  return .ofNat outcome.code
