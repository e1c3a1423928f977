import TestForge.Operation.Dispatcher
import TestForge.Operation.Fault
import TestForge.Operation.Report
import TestForge.Operation.Request

/-!
# Validating an existing test

A coverage report is produced on demand once all steps have succeeded; that it cannot be produced
does not make the validation fail.
-/

namespace TestForge

def ValidateRequest.check (r : ValidateRequest) : Checked := do
  requirePath "project_root" r.projectRoot
  requireText "test_path" r.testPath
  requireRetries r.maxRetries

namespace Dispatcher

variable {σ : Type}

/-- One call for coverage. -/
def runCoverage (d : Dispatcher σ) (root target : String) (w : World σ) :
    CoverageOutcome × World σ :=
  match d.tools.coverage root target w.files w.tools with
  | (.ok report, files, tools) =>
    (.produced report.reportPath, { w with files := files, tools := tools })
  | (.error failure, files, tools) =>
    (.failed failure.message, { w with files := files, tools := tools })

/-- Verifies an existing test, and covers it if that is asked for and all went well. -/
def verifyExisting (d : Dispatcher σ) (r : ValidateRequest) (w : World σ) :
    ValidationReport × World σ :=
  match (d.verification r.projectRoot r.testPath).verify r.maxRetries d.recordAttempts w with
  | (steps, w) =>
    if r.checkCoverage && steps.succeeded then
      match d.runCoverage r.projectRoot r.testPath w with
      | (outcome, w) => (⟨r.testPath, steps, some outcome, none⟩, w)
    else (⟨r.testPath, steps, none, none⟩, w)

def refusedValidation (r : ValidateRequest) (failure : OperationFailure) : ValidationReport :=
  ⟨r.testPath, .empty, none, some failure.chain⟩

def validate (d : Dispatcher σ) (r : ValidateRequest) (w : World σ) :
    ValidationReport × World σ :=
  match r.check with
  | .error fault => (refusedValidation r (.invalid .validateTest fault), w)
  | .ok () =>
    let path := Path.join r.projectRoot r.testPath
    match w.files.status path with
    | .error e => (refusedValidation r (.missingTest path e), w)
    | .ok _ => d.verifyExisting r w

end Dispatcher

end TestForge
