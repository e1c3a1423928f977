import TestForge.CommandLine.Commands
import TestForge.CommandLine.EnvironmentFile
import TestForge.Operation.Setup
import TestForge.Settings.Loading
import TestForge.Toolchain.Gradle
import TestForge.ToolServer.Session

/-!
# The program

The environment file is read first, then the arguments, then the settings. A usage error has status
two and changes nothing. The build tool runs by a launcher that the program is given.
-/

namespace TestForge.Program

abbrev Environment := List (String × String)

/-! ## Getting ready -/

/-- What a run needs besides the project. -/
structure Prepared where
  line : CommandLine
  settings : Settings
  environment : Environment

def usage : String :=
  "usage: testsmith [--verbose] [--config FILE] " ++
    "serve | analyze | generate | batch | validate | standards ...\n"

def prepare (arguments : List String) (env : Environment) (fs : FileSystem) :
    Except Printed Prepared :=
  let env := EnvironmentFile.loadFrom fs env
  match CommandLine.parse? arguments with
  | none => .error ⟨2, "", usage⟩
  | some line =>
    match Settings.load fs line.settingsFile env with
    | .error e => .error (.failure e.chain)
    | .ok settings => .ok ⟨line, settings, env⟩

variable {σ : Type}

/-- The toolchain of the settings, which hands the environment on. -/
def Prepared.tools (p : Prepared) (launcher : Launcher σ) : Toolchain σ :=
  .gradle launcher p.settings.toolchain p.environment

def Prepared.dispatcher (p : Prepared) (launcher : Launcher σ) : Dispatcher σ :=
  p.settings.dispatcher (p.tools launcher)

/-! ## Running -/

/-- A session over messages that are all there; without any it does not begin. -/
def serve (d : Dispatcher σ) (input : String) (w : World σ) : Printed × World σ :=
  match ToolServer.messagesOf input with
  | [] =>
    (.failure (.root "Failed to start MCP server: ConnectionClosed(\"initialized request\")"), w)
  | messages =>
    match ToolServer.receiveAll d messages w with
    | (replies, w) => (⟨0, String.join (replies.map (· ++ "\n")), ""⟩, w)

/-- Carries out a command with a dispatcher. -/
def runCommand (d : Dispatcher σ) (standardsDirectory input : String) (line : CommandLine)
    (w : World σ) : Printed × World σ :=
  match line.command with
  | .serve => serve d input w
  | .standards => ((Standards.ofDirectory standardsDirectory).printed w.files line.verbose, w)
  | command =>
    match command.report? d w with
    | (.error e, w) => (.failure e.chain, w)
    | (.ok (some report), w) => (.ofReport command.activity report, w)
    | (.ok none, w) => (⟨0, "", ""⟩, w)

/-- Runs the program on arguments, environment and standard input. -/
def run (launcher : Launcher σ) (arguments : List String) (env : Environment) (input : String)
    (w : World σ) : Printed × World σ :=
  match prepare arguments env w.files with
  | .error printed => (printed, w)
  | .ok p => runCommand (p.dispatcher launcher) p.settings.standardsDirectory input p.line w

end TestForge.Program
