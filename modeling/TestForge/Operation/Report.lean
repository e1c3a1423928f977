import TestForge.CauseChain
import TestForge.Report.BatchTally
import TestForge.Report.StepLog
import TestForge.Service.Summary

/-!
# Reports

What each operation answers. Durations are not measured and show as zero.
-/

namespace TestForge

open Json

/-- What an analysis found, or why it failed. -/
structure AnalysisReport where
  result : Except CauseChain ServiceModel

structure GenerationReport where
  servicePath : String
  testPath : String
  steps : StepLog
  /-- What stopped the generation; a failed verification does not. -/
  failure : Option CauseChain

inductive CoverageOutcome where
  | produced (reportPath : String)
  | failed (error : String)
  deriving DecidableEq

structure ValidationReport where
  testPath : String
  steps : StepLog
  coverage : Option CoverageOutcome
  failure : Option CauseChain

inductive ItemStatus where
  | success
  | failed
  deriving DecidableEq

structure BatchItem where
  servicePath : String
  status : ItemStatus
  report : GenerationReport
  error : Option String

structure BatchReport where
  success : Bool
  summary : String
  total : Nat
  succeeded : Nat
  failed : Nat
  items : List BatchItem

/-! ## Verdicts -/

def AnalysisReport.success (r : AnalysisReport) : Bool :=
  match r.result with
  | .ok _ => true
  | .error _ => false

/-- Nothing stopped the generation, and no step failed. -/
def GenerationReport.success (r : GenerationReport) : Bool :=
  r.failure.isNone && !r.steps.hasFailure

/-- Nothing stopped the validation, and every step is completed. -/
def ValidationReport.success (r : ValidationReport) : Bool :=
  r.failure.isNone && r.steps.succeeded

def GenerationReport.error? (r : GenerationReport) : Option String :=
  r.failure.map (·.message)

def BatchItem.ofReport (r : GenerationReport) : BatchItem :=
  ⟨r.servicePath, if r.success then .success else .failed, r, r.error?⟩

/-! ## JSON -/

def durationMember : String × Json :=
  ("duration_ms", .nat 0)

/-- The message of a failure and the messages of its causes. -/
def failureMembers : Option CauseChain → List (String × Json)
  | some chain => [("error", .str chain.message), ("stack", .str chain.text)]
  | none => []

def foundMessage (model : ServiceModel) : String :=
  "Found " ++ toString model.methods.length ++ " method(s) and " ++
    toString model.dependencies.length ++ " dependency(ies) in " ++ model.className

def AnalysisReport.toJson (r : AnalysisReport) : Json :=
  match r.result with
  | .ok model =>
    .obj [("success", .bool true), durationMember, ("analysis", model.summaryJson),
      ("message", .str (foundMessage model))]
  | .error chain =>
    .obj ([("success", .bool false), durationMember, ("message", .str "Analysis failed")] ++
      failureMembers (some chain))

def GenerationReport.toJson (r : GenerationReport) : Json :=
  .obj ([("success", .bool r.success), durationMember, ("service_path", .str r.servicePath),
    ("test_path", .str r.testPath), ("steps", r.steps.toJson)] ++ failureMembers r.failure)

def CoverageOutcome.toJson : CoverageOutcome → Json
  | .produced path => .obj [("success", .bool true), ("report_path", .str path)]
  | .failed error => .obj [("success", .bool false), ("error", .str error)]

def ValidationReport.toJson (r : ValidationReport) : Json :=
  .obj ([("success", .bool r.success), durationMember, ("test_path", .str r.testPath),
    ("steps", r.steps.toJson)] ++
    optMember "coverage" (r.coverage.map CoverageOutcome.toJson) ++ failureMembers r.failure)

def ItemStatus.name : ItemStatus → String
  | .success => "success"
  | .failed => "failed"

def BatchItem.toJson (i : BatchItem) : Json :=
  .obj ([("service_path", .str i.servicePath), ("status", .str i.status.name),
    ("report", i.report.toJson)] ++ optMember "error" (i.error.map .str))

def BatchReport.toJson (r : BatchReport) : Json :=
  .obj [("success", .bool r.success), durationMember, ("summary", .str r.summary),
    ("total", .nat r.total), ("succeeded", .nat r.succeeded), ("failed", .nat r.failed),
    ("items", .arr (r.items.map BatchItem.toJson))]

/-- The report of any operation. -/
inductive Report where
  | analysis (r : AnalysisReport)
  | generation (r : GenerationReport)
  | batch (r : BatchReport)
  | validation (r : ValidationReport)

namespace Report

def success : Report → Bool
  | .analysis r => r.success
  | .generation r => r.success
  | .batch r => r.success
  | .validation r => r.success

def toJson : Report → Json
  | .analysis r => r.toJson
  | .generation r => r.toJson
  | .batch r => r.toJson
  | .validation r => r.toJson

end Report

end TestForge
