import TestForge.Operation.Generation

/-!
# Batches

Unit tests for several services, strictly in order. The batch stops at the first failure unless it
is to go on.
-/

namespace TestForge

def BatchRequest.check (r : BatchRequest) : Checked := do
  requirePath "project_root" r.projectRoot
  requireRetries r.maxRetries
  requireSome "service_paths" r.servicePaths

/-- The request for one service of a batch. -/
def BatchRequest.item (r : BatchRequest) (servicePath : String) : GenerateRequest :=
  { projectRoot := r.projectRoot
    servicePath := servicePath
    symbols := none
    testPath := none
    validate := r.validate
    maxRetries := r.maxRetries }

namespace Dispatcher

variable {σ : Type}

/-- Processes services in order: the items that were reached, and the tally with them. -/
def runItems (d : Dispatcher σ) (r : BatchRequest) :
    List String → BatchTally → World σ → List BatchItem × BatchTally × World σ
  | [], tally, w => ([], tally, w)
  | servicePath :: rest, tally, w =>
    match d.generateAs .generateBatchTests (r.item servicePath) .unit w with
    | (report, w) =>
      let tally := tally.complete report.success
      if report.success || r.continueOnError then
        match d.runItems r rest tally w with
        | (items, tally, w) => (BatchItem.ofReport report :: items, tally, w)
      else ([BatchItem.ofReport report], tally, w)

/-- The report of a batch that was not started. -/
def rejectedBatch (r : BatchRequest) (fault : ArgumentFault) : BatchReport :=
  { success := false
    summary := invalidArguments .generateBatchTests fault
    total := r.servicePaths.length
    succeeded := 0
    failed := 0
    items := [] }

def batchReport (tally : BatchTally) (items : List BatchItem) : BatchReport :=
  { success := tally.failed == 0 && tally.skipped == 0
    summary := tally.summary
    total := tally.total
    succeeded := tally.succeeded
    failed := tally.failed
    items := items }

def generateBatch (d : Dispatcher σ) (r : BatchRequest) (w : World σ) : BatchReport × World σ :=
  match r.check with
  | .error fault => (rejectedBatch r fault, w)
  | .ok () =>
    match d.runItems r r.servicePaths (.start r.servicePaths.length) w with
    | (items, tally, w) => (batchReport tally items, w)

end Dispatcher

end TestForge
