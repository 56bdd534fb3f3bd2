/-
# The command line

Reads the environment and the files that matter, runs the program on them, and writes what
comes of it.  A server that runs is told to stop by the end of the standard input.
-/

import MailGateway.Program

namespace MailGateway
namespace Console

/-- What a path names, if it can be read. -/
def lookUp (path : String) : IO (Option (String × Files.Entry)) := do
  try
    return some (path, .file (← IO.FS.readFile path))
  catch e =>
    match e with
    | .inappropriateType .. => return some (path, .directory)
    | _ => return none

/-- Looks at the files that may be read. -/
def lookAround (w : Program.Surroundings) (args : List String) : IO Program.Surroundings := do
  let found ← (Program.paths w args).filterMapM lookUp
  return { w with files := { lookedUp := found } }

/-- The part of the environment that matters. -/
def readEnvironment : IO Config.Environment :=
  Program.environmentNames.filterMapM fun name => do
    return (← IO.getEnv name).map fun value => (name, value)

/-- Waits for the end of the standard input. -/
partial def waitForEnd (input : IO.FS.Stream) : IO Unit := do
  if (← input.getLine).isEmpty then return else waitForEnd input

/-- Writes lines. -/
def write (lines : List String) : IO Unit := do
  let output ← IO.getStdout
  for line in lines do output.putStrLn line
  output.flush

end Console
end MailGateway

open MailGateway Console in
/-- Runs the program. -/
def main (args : List String) : IO UInt32 := do
  let w : Program.Surroundings := { environment := ← readEnvironment }
  let w ← lookAround (← lookAround w args) args
  let called := some CommandLine.programName
  let run := Program.run w called args
  write run.lines
  (← IO.getStderr).putStr run.complaint
  match run.ending with
  | .exit code => return code.toUInt32
  | .crash => return 101
  | .running =>
    waitForEnd (← IO.getStdin)
    let stopped := Program.run { w with signalled := true } called args
    write (stopped.lines.drop run.lines.length)
    return 0
