import TestForge.CommandLine.Program
import TestForge.Disk
import TestForge.Shell.Launcher

/-!
# The command line

Arguments, environment and standard input are handed to the program, and its output is printed. A
session answers each message as it comes. The build tool is taken to be a shell script.
-/

namespace TestForge.Terminal

/-- The variables that the program looks at. -/
def knownVariables : List String :=
  ["TESTSMITH_GRADLE", "TESTSMITH_JAVA_HOME", "TESTSMITH_TOOL_TIMEOUT_SECS",
    "TESTSMITH_STANDARDS_DIR", "JAVA_HOME"]

def readEnvironment : IO Program.Environment := do
  let values ← knownVariables.mapM fun name => do return (← IO.getEnv name).map fun v => (name, v)
  return values.filterMap id

def printAll (p : Printed) : IO UInt32 := do
  IO.print p.output
  IO.eprint p.errors
  return UInt32.ofNat p.status

/-- Answers messages until the input ends. -/
partial def session (d : Dispatcher Unit) (input output : IO.FS.Stream) : IO Unit := do
  let line ← input.getLine
  if line.isEmpty then return
  match ToolServer.messagesOf line with
  | message :: _ =>
    let files ← Disk.load
    let (reply, after) := ToolServer.receive d message ⟨files, .still (← Disk.now), ()⟩
    Disk.save files after.files
    if let some reply := reply then
      output.putStrLn reply.compact
      output.flush
  | [] => pure ()
  session d input output

end TestForge.Terminal

open TestForge Terminal in
def main (arguments : List String) : IO UInt32 := do
  let env ← readEnvironment
  let files ← Disk.load
  let stdin ← IO.getStdin
  match Program.prepare arguments env files with
  | .ok ⟨⟨_, _, .serve⟩, settings, env⟩ =>
    session (Program.Prepared.dispatcher ⟨⟨false, none, .serve⟩, settings, env⟩ Shell.launcher)
      stdin (← IO.getStdout)
    return 0
  | _ =>
    let (printed, after) :=
      Program.run Shell.launcher arguments env "" ⟨files, .still (← Disk.now), ()⟩
    Disk.save files after.files
    printAll printed
