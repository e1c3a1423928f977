import TestForge.Repair.InPlace
import TestForge.Report.StepLog
import TestForge.Toolchain.Interface
import TestForge.Verification.AttemptRecord
import TestForge.Verification.Retry

/-!
# Compile, then test

Each phase makes a bounded number of attempts. Between two attempts exactly one repair is made; a
failure that no repair answers ends the phase, and a phase that fails ends the verification.
-/

namespace TestForge

/-- What operations act on: the files, the clock and the state of the toolchain. -/
structure World (σ : Type) where
  files : FileSystem
  clock : Clock
  tools : σ

inductive PhaseOutcome where
  | succeeded (retries : Nat) (counts : Option TestCounts)
  | exhausted (retries : Nat) (failure : ToolFailure)
  deriving DecidableEq

/-- What a verification works with and on. -/
structure Verification (σ : Type) where
  tools : Toolchain σ
  rules : RepairRules
  root : String
  target : String

namespace Verification

variable {σ : Type}

/-! ## Attempts -/

/-- The artifact that is verified and repaired. -/
def artifact (v : Verification σ) : String :=
  Path.join v.root v.target

/-- One call of the toolchain. Only test runs count tests. -/
def attempt (v : Verification σ) (phase : Phase) (w : World σ) :
    Except ToolFailure (Option TestCounts) × World σ :=
  match phase with
  | .compile =>
    match v.tools.compile v.root v.target w.files w.tools with
    | (result, files, tools) => (result.map fun _ => none, { w with files := files, tools := tools })
  | .test =>
    match v.tools.run v.root v.target w.files w.tools with
    | (result, files, tools) => (result.map some, { w with files := files, tools := tools })

/-- Keeps the diagnostics of a failed attempt, if they are to be kept. -/
def keepRecord (recorder : Option AttemptRecorder) (phase : Phase) (attempt : Nat)
    (failure : ToolFailure) (w : World σ) : World σ :=
  match recorder with
  | some r => { w with files := r.record phase attempt failure w.files }
  | none => w

/-! ## Phases -/

/-- Attempts a phase until it succeeds, the attempts are used up, or no repair is made. -/
def runPhase (v : Verification σ) (phase : Phase) (recorder : Option AttemptRecorder)
    (state : RetryState) (w : World σ) : PhaseOutcome × World σ :=
  match v.attempt phase w with
  | (.ok counts, w) => (.succeeded state.attempt counts, w)
  | (.error failure, w) =>
    let w := keepRecord recorder phase state.attempt failure w
    if h : state.isLast then (.exhausted state.attempt failure, w)
    else
      match v.rules.repair phase v.artifact failure w.files with
      | .ok (some files) =>
        have : state.maxRetries - state.next.attempt < state.maxRetries - state.attempt := by
          simp only [RetryState.isLast, ge_iff_le, decide_eq_true_eq, Nat.not_le] at h
          simp only [RetryState.next]
          omega
        v.runPhase phase recorder state.next { w with files := files }
      | .ok none => (.exhausted state.attempt failure, w)
      | .error _ => (.exhausted state.attempt failure, w)
  termination_by state.maxRetries - state.attempt

/-! ## The whole verification -/

def startMessage (phase : Phase) (maxRetries : UInt32) : String :=
  match phase with
  | .compile => "Validating compilation (max " ++ toString maxRetries.toNat ++ " attempts)"
  | .test => "Running tests (max " ++ toString maxRetries.toNat ++ " attempts)"

/-- What the step of a phase that succeeded says. -/
def successResult (retries : Nat) : Option TestCounts → Json
  | some counts =>
    .obj [("failed_tests", .nat counts.failed), ("passed_tests", .nat counts.passed),
      ("retries", .nat retries)]
  | none => .obj [("message", .str "Compilation successful"), ("retries", .nat retries)]

/-- Adds the outcome of a phase to the log. -/
def report (log : StepLog) : PhaseOutcome → StepLog
  | .succeeded retries counts => log.complete (successResult retries counts)
  | .exhausted retries failure =>
    (log.note (" - failed after " ++ toString (retries + 1) ++ " attempt(s)")).fail failure.message

/-- Runs phases in order until one fails. -/
def runPhases (v : Verification σ) (maxRetries : UInt32) (recorder : Option AttemptRecorder) :
    List Phase → StepLog → World σ → StepLog × World σ
  | [], log, w => (log, w)
  | phase :: rest, log, w =>
    let (_, log) := log.begin phase.stepName (startMessage phase maxRetries)
    match v.runPhase phase recorder (RetryState.start maxRetries) w with
    | (.succeeded retries counts, w) =>
      v.runPhases maxRetries recorder rest (report log (.succeeded retries counts)) w
    | (.exhausted retries failure, w) => (report log (.exhausted retries failure), w)

/-- A recorder for a verification that starts now, if attempts are recorded. -/
def openRecorder (v : Verification σ) (recordAttempts : Bool) (w : World σ) :
    Option AttemptRecorder × World σ :=
  if recordAttempts then
    match w.clock.read with
    | (seconds, clock) =>
      (some (AttemptRecorder.start v.root v.target seconds), { w with clock := clock })
  else (none, w)

/-- Compiles the artifact and runs it. The test phase needs a successful compilation. -/
def verify (v : Verification σ) (maxRetries : UInt32) (recordAttempts : Bool) (w : World σ) :
    StepLog × World σ :=
  match v.openRecorder recordAttempts w with
  | (recorder, w) => v.runPhases maxRetries recorder [.compile, .test] .empty w

end Verification

end TestForge
