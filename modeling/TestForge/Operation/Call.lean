import TestForge.Operation.Analysis
import TestForge.Operation.Batch
import TestForge.Operation.Validation

/-!
# Calling an operation by name

Only an unknown name and arguments that cannot be decoded reject a call.
-/

namespace TestForge.Dispatcher

variable {σ : Type}

/-- A decoded request. -/
inductive Request where
  | analyze (r : AnalyzeRequest)
  | generate (r : GenerateRequest) (intent : TestIntent)
  | batch (r : BatchRequest)
  | validate (r : ValidateRequest)

/-- The request that the arguments of an operation stand for. -/
def Request.decode (op : Operation) (arguments : Json) : Json.Decoded Request :=
  match op with
  | .analyzeService => (AnalyzeRequest.decode arguments).map .analyze
  | .generateUnitTest => (GenerateRequest.decode arguments).map fun r => .generate r .unit
  | .generateIntegrationTest =>
    (GenerateRequest.decode arguments).map fun r => .generate r .integration
  | .generateBatchTests => (BatchRequest.decode arguments).map .batch
  | .validateTest => (ValidateRequest.decode arguments).map .validate

def Request.toJson : Request → Json
  | .analyze r => r.toJson
  | .generate r _ => r.toJson
  | .batch r => r.toJson
  | .validate r => r.toJson

def perform (d : Dispatcher σ) (request : Request) (w : World σ) : Report × World σ :=
  match request with
  | .analyze r => (.analysis (d.analyze r w.files), w)
  | .generate r intent =>
    match d.generate r intent w with
    | (report, w) => (.generation report, w)
  | .batch r =>
    match d.generateBatch r w with
    | (report, w) => (.batch report, w)
  | .validate r =>
    match d.validate r w with
    | (report, w) => (.validation report, w)

/-- Carries out the operation of a name on JSON arguments. -/
def call (d : Dispatcher σ) (name : String) (arguments : Json) (w : World σ) :
    Except Rejection Report × World σ :=
  match Operation.ofName? name with
  | none => (.error (.unknown name), w)
  | some op =>
    match Request.decode op arguments with
    | .error e => (.error (.invalid op e), w)
    | .ok request =>
      match d.perform request w with
      | (report, w) => (.ok report, w)

end TestForge.Dispatcher
