import TestForge.CauseChain
import TestForge.FileSystem.Operations
import TestForge.Repair.Rule
import TestForge.Toolchain.Failure

/-!
# Repairing an artifact in place
-/

namespace TestForge

inductive RepairError where
  | unreadable (path : String) (cause : FileError)
  | unwritable (path : String) (cause : FileError)
  deriving DecidableEq

def RepairError.chain : RepairError → CauseChain
  | .unreadable path cause =>
    (CauseChain.root cause.message).wrap ("Failed to read artifact " ++ path)
  | .unwritable path cause =>
    (CauseChain.root cause.message).wrap ("Failed to write artifact " ++ path)

/-- Repairs the artifact at a path for a failure. The files are those after the repair, or nothing
if no rule applies; then the artifact is not even read. -/
def RepairRules.repair (rules : RepairRules) (phase : Phase) (path : String)
    (failure : ToolFailure) (fs : FileSystem) : Except RepairError (Option FileSystem) :=
  let diagnostic := failure.diagnosticText
  if (rules.matching phase diagnostic).isEmpty then .ok none
  else
    match fs.readText path with
    | .error e => .error (.unreadable path e)
    | .ok artifact =>
      match rules.pass? phase diagnostic artifact with
      | none => .ok none
      | some text =>
        match fs.writeText path text with
        | .error e => .error (.unwritable path e)
        | .ok written => .ok (some written)

end TestForge
