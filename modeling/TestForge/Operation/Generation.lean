import TestForge.Artifact.Rendering
import TestForge.Digest.Sha256
import TestForge.Layout
import TestForge.Operation.Dispatcher
import TestForge.Operation.Fault
import TestForge.Operation.Report
import TestForge.Operation.Request

/-!
# Generating the test of a service

The service is analyzed, its test rendered and written, and the written test verified on demand.
The intent of the test changes nothing but the artifact.
-/

namespace TestForge

def GenerateRequest.check (r : GenerateRequest) : Checked := do
  requirePath "project_root" r.projectRoot
  requireText "service_path" r.servicePath
  requireRetries r.maxRetries

/-- Where the test goes: the path asked for, or the one the layout gives. -/
def GenerateRequest.target (r : GenerateRequest) : String :=
  match r.testPath with
  | some path => if path.isEmpty then Layout.testPath r.servicePath else path
  | none => Layout.testPath r.servicePath

/-! ## Writing the artifact -/

/-- Creates the directories above a path. -/
def makeRoom (path : String) (fs : FileSystem) : Except OperationFailure Unit × FileSystem :=
  match Path.parent? path with
  | none => (.ok (), fs)
  | some directory =>
    match fs.createDirectories directory with
    | (.error e, made) => (.error (.uncreatable directory e), made)
    | (.ok (), made) => (.ok (), made)

/-- Writes an artifact, with the directories above it. -/
def writeArtifact (root target artifact : String) (fs : FileSystem) :
    Except OperationFailure Unit × FileSystem :=
  let path := Path.join root target
  match makeRoom path fs with
  | (.error failure, made) => (.error failure, made)
  | (.ok (), made) =>
    match made.writeText path artifact with
    | .error e => (.error (.unwritableTest path e), made)
    | .ok written => (.ok (), written)

/-! ## What the steps say -/

def ModelSource.name : ModelSource → String
  | .symbolTree => "symbol_tree"
  | .sourcePatterns => "source_patterns"

def analysisResult (x : Extraction) : Json :=
  .obj [("dependencies_found", .nat x.model.dependencies.length),
    ("methods_found", .nat x.model.methods.length), ("source", .str x.source.name)]

def artifactResult (target artifact : String) (model : ServiceModel) (style : TemplateStyle) :
    Json :=
  .obj [("artifact_sha256", .str (Sha256.ofText artifact)),
    ("framework_integrated", .bool (style = .frameworkIntegrated)),
    ("test_file", .str target), ("test_methods_generated", .nat model.caseCount)]

/-! ## The pipeline -/

namespace Dispatcher

variable {σ : Type}

/-- The style that suits the project. -/
def style (d : Dispatcher σ) (root : String) (fs : FileSystem) : TemplateStyle :=
  .forFramework (d.hasEntrypoint fs root)

/-- The log of a generation and what stopped it, if anything did. -/
abbrev Generated (σ : Type) := StepLog × Option OperationFailure × World σ

/-- Verifies a written test, if it is to be verified. -/
def verifyWritten (d : Dispatcher σ) (r : GenerateRequest) (log : StepLog) (w : World σ) :
    Generated σ :=
  if r.validate then
    match (d.verification r.projectRoot r.target).verify r.maxRetries d.recordAttempts w with
    | (verification, w) => (log.absorb verification, none, w)
  else (log, none, w)

/-- Renders and writes the test of an extracted model. -/
def writeTest (d : Dispatcher σ) (r : GenerateRequest) (intent : TestIntent) (x : Extraction)
    (log : StepLog) (w : World σ) : Generated σ :=
  let (_, log) := log.begin "generate_test_code" "Generating test code"
  let style := d.style r.projectRoot w.files
  let artifact := x.model.render style intent
  match writeArtifact r.projectRoot r.target artifact w.files with
  | (.error failure, files) =>
    (log.fail failure.chain.message, some failure, { w with files := files })
  | (.ok (), files) =>
    d.verifyWritten r (log.complete (artifactResult r.target artifact x.model style))
      { w with files := files }

/-- Checks the request, then analyzes, writes and verifies. -/
def runGeneration (d : Dispatcher σ) (op : Operation) (r : GenerateRequest) (intent : TestIntent)
    (w : World σ) : Generated σ :=
  match r.check with
  | .error fault => (.empty, some (.invalid op fault), w)
  | .ok () =>
    let (_, log) := StepLog.empty.begin Operation.analyzeService.name "Analyzing service structure"
    match extract w.files d.defaultPackage r.projectRoot r.servicePath r.symbols with
    | .error e => (log.fail e.chain.message, some (.unreadableService e), w)
    | .ok x => d.writeTest r intent x (log.complete (analysisResult x)) w

/-- Generates one test, under the name of the operation that asks for it. -/
def generateAs (d : Dispatcher σ) (op : Operation) (r : GenerateRequest) (intent : TestIntent)
    (w : World σ) : GenerationReport × World σ :=
  match d.runGeneration op r intent w with
  | (log, failure, w) => (⟨r.servicePath, r.target, log, failure.map (·.chain)⟩, w)

def intentOperation : TestIntent → Operation
  | .unit => .generateUnitTest
  | .integration => .generateIntegrationTest

def generate (d : Dispatcher σ) (r : GenerateRequest) (intent : TestIntent) (w : World σ) :
    GenerationReport × World σ :=
  d.generateAs (intentOperation intent) r intent w

end Dispatcher

end TestForge
