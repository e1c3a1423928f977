import TestForge.Operation.Dispatcher
import TestForge.Operation.Fault
import TestForge.Operation.Report
import TestForge.Operation.Request

/-!
# Analyzing a service
-/

namespace TestForge

def AnalyzeRequest.check (r : AnalyzeRequest) : Checked := do
  requirePath "project_root" r.projectRoot
  requireText "service_path" r.servicePath

/-- The model that patterns find in the source of a service. Nothing is changed by looking. -/
def Dispatcher.analyze {σ : Type} (d : Dispatcher σ) (r : AnalyzeRequest) (fs : FileSystem) :
    AnalysisReport :=
  match r.check with
  | .error fault => ⟨.error (OperationFailure.invalid .analyzeService fault).chain⟩
  | .ok () =>
    match extract fs d.defaultPackage r.projectRoot r.servicePath none with
    | .error e => ⟨.error e.chain⟩
    | .ok extraction => ⟨.ok extraction.model⟩

end TestForge
