import TestForge.Service.Encoding

/-!
# The step log of a request

Steps are only appended, and only the last one can change. Once it is completed or failed it is
final.
-/

namespace TestForge

inductive StepStatus where
  | pending
  | inProgress
  | completed
  | failed
  deriving DecidableEq

def StepStatus.name : StepStatus → String
  | .pending => "pending"
  | .inProgress => "in_progress"
  | .completed => "completed"
  | .failed => "failed"

def StepStatus.isOpen : StepStatus → Bool
  | .pending => true
  | .inProgress => true
  | .completed => false
  | .failed => false

structure Step where
  ordinal : Nat
  name : String
  status : StepStatus
  message : String
  result : Option Json
  error : Option String

/-- The steps of one request, numbered from one. -/
structure StepLog where
  steps : List Step

namespace StepLog

def empty : StepLog :=
  ⟨[]⟩

def count (log : StepLog) : Nat :=
  log.steps.length

def last? (log : StepLog) : Option Step :=
  log.steps.getLast?

/-! ## Changing the log -/

/-- Appends a step in progress and answers its ordinal. -/
def begin (log : StepLog) (name message : String) : Nat × StepLog :=
  let ordinal := log.count + 1
  (ordinal, ⟨log.steps ++ [⟨ordinal, name, .inProgress, message, none, none⟩]⟩)

/-- Changes the last step if it is open. -/
def changeOpen (change : Step → Step) : List Step → List Step
  | [] => []
  | [s] => if s.status.isOpen then [change s] else [s]
  | s :: t :: rest => s :: changeOpen change (t :: rest)

/-- Adds to the message of the open step. -/
def note (log : StepLog) (suffix : String) : StepLog :=
  ⟨changeOpen (fun s => { s with message := s.message ++ suffix }) log.steps⟩

def complete (log : StepLog) (result : Json) : StepLog :=
  ⟨changeOpen (fun s => { s with status := .completed, result := some result }) log.steps⟩

def fail (log : StepLog) (error : String) : StepLog :=
  ⟨changeOpen (fun s => { s with status := .failed, error := some error }) log.steps⟩

/-- Numbers steps from `first` on. -/
def renumber (first : Nat) : List Step → List Step
  | [] => []
  | s :: rest => { s with ordinal := first } :: renumber (first + 1) rest

/-- Appends the steps of another log, numbered on. -/
def absorb (log other : StepLog) : StepLog :=
  ⟨log.steps ++ renumber (log.count + 1) other.steps⟩

/-! ## Verdicts -/

/-- Every step is completed. -/
def succeeded (log : StepLog) : Bool :=
  log.steps.all fun s => s.status == .completed

def hasFailure (log : StepLog) : Bool :=
  log.steps.any fun s => s.status == .failed

end StepLog

/-! ## JSON -/

def Step.toJson (s : Step) : Json :=
  .obj ([("step", .nat s.ordinal), ("name", .str s.name), ("status", .str s.status.name),
    ("message", .str s.message)] ++ Json.optMember "result" (s.result.map Json.sorted) ++
    Json.optMember "error" (s.error.map Json.str))

def StepLog.toJson (log : StepLog) : Json :=
  .arr (log.steps.map Step.toJson)

end TestForge
