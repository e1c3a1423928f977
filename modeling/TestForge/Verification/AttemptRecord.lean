import TestForge.FileSystem.Operations
import TestForge.Layout
import TestForge.Repair.Rule
import TestForge.Toolchain.Failure
import TestForge.Verification.Clock

/-!
# Records of failed attempts

The diagnostics of each failed attempt are kept under the project root, in a directory for the
verification and one for the attempt.
-/

namespace TestForge

/-- Where the records of one verification go. -/
structure AttemptRecorder where
  sessionDirectory : String
  deriving DecidableEq

namespace AttemptRecorder

/-- The recorder of a verification that starts at a reading of the clock. -/
def start (root target : String) (seconds : Nat) : AttemptRecorder :=
  ⟨Path.join (Path.join (Path.join (Path.join root ".testsmith") "validation")
    (timestamp seconds)) (Layout.testClass target)⟩

/-- Attempts count from one in the names of directories. -/
def attemptDirectory (r : AttemptRecorder) (phase : Phase) (attempt : Nat) : String :=
  Path.join r.sessionDirectory (phase.label ++ "_attempt_" ++ toString (attempt + 1))

def diagnosticsPath (r : AttemptRecorder) (phase : Phase) (attempt : Nat) : String :=
  Path.join (r.attemptDirectory phase attempt) "diagnostics.txt"

/-- Writes the diagnostics of an attempt. What cannot be written is left out. -/
def record (r : AttemptRecorder) (phase : Phase) (attempt : Nat) (failure : ToolFailure)
    (fs : FileSystem) : FileSystem :=
  match fs.createDirectories (r.attemptDirectory phase attempt) with
  | (.error _, made) => made
  | (.ok (), made) =>
    match made.writeText (r.diagnosticsPath phase attempt) failure.diagnosticText with
    | .ok written => written
    | .error _ => made

end AttemptRecorder

end TestForge
