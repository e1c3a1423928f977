import TestForge.FileSystem.Operations
import TestForge.Layout
import TestForge.Settings.Model
import TestForge.Text.Utf8
import TestForge.Toolchain.Interface
import TestForge.Toolchain.Launch

/-!
# The Gradle toolchain

Every call runs the build tool in the project root, for the module that owns the target. What the
build tool does there is up to what runs it.
-/

namespace TestForge.Gradle

/-! ## Arguments -/

def moduleOf (s : ToolchainSettings) (target : String) : String :=
  Layout.moduleOf s.defaultModule target

/-- Every excluded task behind an option of its own. -/
def exclusions (s : ToolchainSettings) : List String :=
  s.excludedTasks.flatMap fun task => ["-x", task]

def task (s : ToolchainSettings) (target name : String) : String :=
  ":" ++ moduleOf s target ++ ":" ++ name

def compileArguments (s : ToolchainSettings) (target : String) : List String :=
  task s target "compileTestKotlin" :: exclusions s

def testArguments (s : ToolchainSettings) (target : String) : List String :=
  task s target "test" :: "--tests" :: Layout.testClass target :: exclusions s

def coverageArguments (s : ToolchainSettings) (target : String) : List String :=
  [task s target "jacocoTestReport"]

def reportPath (s : ToolchainSettings) (target : String) : String :=
  moduleOf s target ++ "/build/reports/jacoco/test/html/index.html"

/-! ## Calls -/

def commandLine (s : ToolchainSettings) (arguments : List String) : String :=
  s.gradleCommand ++ " " ++ " ".intercalate arguments

/-- The program of a call: a relative path with a slash starts at the project root. -/
def program (s : ToolchainSettings) (root : String) : String :=
  if s.gradleCommand.toList.contains '/' then Path.join root s.gradleCommand else s.gradleCommand

def environment (s : ToolchainSettings) (inherited : List (String × String)) :
    List (String × String) :=
  match s.javaHome with
  | some home => ("JAVA_HOME", home) :: inherited
  | none => inherited

def absoluteName (place : Location) : String :=
  "/" ++ "/".intercalate place

/-- The call of the build tool in a directory. -/
def launch (s : ToolchainSettings) (inherited : List (String × String)) (place : Location)
    (arguments : List String) : Launch :=
  ⟨program s (absoluteName place), arguments, environment s inherited, place, s.timeoutSeconds⟩

/-- What the end of a call, made as a line, comes to. -/
def outcomeOf (s : ToolchainSettings) (line : String) :
    LaunchResult → Except ToolFailure ToolOutput
  | .failed reason => .error (.spawn line reason)
  | .overdue => .error (.timeout line s.timeoutSeconds)
  | .ended succeeded output errors =>
    .ok ⟨succeeded, Text.ofBytes output, Text.ofBytes errors⟩

section

variable {σ : Type}

/-- Runs the build tool in the project root, and comes back to where the call was made. -/
def invoke (launcher : Launcher σ) (s : ToolchainSettings) (inherited : List (String × String))
    (root : String) (arguments : List String) (fs : FileSystem) (state : σ) :
    Except ToolFailure ToolOutput × FileSystem × σ :=
  let line := commandLine s arguments
  match fs.canonical root with
  | .error e => (.error (.spawn line ("project root " ++ root ++ ": " ++ e.message)), fs, state)
  | .ok place =>
    match launcher (launch s inherited place arguments) fs state with
    | (result, files, state) =>
      (outcomeOf s line result, { files with workingDirectory := fs.workingDirectory }, state)

/-- Reads the output of a call. -/
def judge {α : Type} (read : ToolOutput → Except ToolFailure α)
    (call : Except ToolFailure ToolOutput × FileSystem × σ) :
    Except ToolFailure α × FileSystem × σ :=
  (call.1.bind read, call.2)

end

def asCoverage (s : ToolchainSettings) (target : String) (o : ToolOutput) :
    Except ToolFailure CoverageReport :=
  if o.succeeded then .ok ⟨reportPath s target⟩ else .error (o.exitFailure s.gradleCommand)

end TestForge.Gradle

namespace TestForge

/-- The toolchain that calls the build tool of the project. -/
def Toolchain.gradle {σ : Type} (launcher : Launcher σ) (s : ToolchainSettings)
    (inherited : List (String × String)) : Toolchain σ where
  compile root target fs state :=
    Gradle.judge (ToolOutput.asCompile s.gradleCommand)
      (Gradle.invoke launcher s inherited root (Gradle.compileArguments s target) fs state)
  run root target fs state :=
    Gradle.judge (ToolOutput.asTestRun s.gradleCommand)
      (Gradle.invoke launcher s inherited root (Gradle.testArguments s target) fs state)
  coverage root target fs state :=
    Gradle.judge (Gradle.asCoverage s target)
      (Gradle.invoke launcher s inherited root (Gradle.coverageArguments s target) fs state)

end TestForge
