/-!
# Failures of a toolchain call

Each failure keeps the raw output of the tool, so that repair rules see what a developer would read.
-/

namespace TestForge

inductive ToolFailure where
  /-- The compiler reported an error. -/
  | diagnostics (output : String)
  | testsFailed (failed : Nat) (output : String)
  | nonZeroExit (command status output : String)
  | spawn (command reason : String)
  | timeout (command : String) (seconds : Nat)
  deriving DecidableEq

namespace ToolFailure

def testsFailedHeader (failed : Nat) : String :=
  "Tests failed: " ++ toString failed ++ " test(s) failed"

def message : ToolFailure → String
  | .diagnostics output => "Compilation failed: " ++ output
  | .testsFailed failed _ => testsFailedHeader failed
  | .nonZeroExit command status output =>
    command ++ " exited with status " ++ status ++ ": " ++ output
  | .spawn command reason => "Failed to spawn " ++ command ++ ": " ++ reason
  | .timeout command seconds =>
    command ++ " did not finish within " ++ toString seconds ++ "s"

/-- The text repair rules look at: a header line and the raw output once. -/
def diagnosticText : ToolFailure → String
  | .diagnostics output => "Compilation failed\n" ++ output
  | .testsFailed failed output => testsFailedHeader failed ++ "\n" ++ output
  | .nonZeroExit command status output =>
    command ++ " exited with status " ++ status ++ "\n" ++ output
  | .spawn command reason => (ToolFailure.spawn command reason).message
  | .timeout command seconds => (ToolFailure.timeout command seconds).message

end ToolFailure

end TestForge
