import TestForge.Shell.Run
import TestForge.Toolchain.Launch

/-!
# Programs at hand

Runs shell scripts, and some utilities, where no other programs are to be had. A program is found by
its path or, without a slash in its name, among these. Scripts run in the shell their first line
names, time passes while they sleep, and what keeps a program from starting is a file error.
-/

namespace TestForge.Shell

/-! ## Installed programs -/

/-- Programs that run as commands of a shell. -/
def isCommand (name : String) : Bool :=
  ["sh", "dash", "bash", "sleep"].contains name

/-- Runs an installed program, which is a shell or a utility. -/
def runInstalled? (name : String) (call : Launch) (fs : FileSystem) : Option Ending :=
  let start := startOf fs name call.arguments call.environment call.seconds
  if isCommand name then some (start.invoke stepLimit name call.arguments).ending
  else (utility? false name).map fun u => (start.use u call.arguments).ending

/-- Runs the installed program of a path. -/
def runInstalledAt? (path : String) (call : Launch) (fs : FileSystem) : Option Ending :=
  (installedName? path).bind fun name => runInstalled? name call fs

/-! ## Programs in files -/

/-- Runs a script by the interpreter its first line names. -/
def runScriptFile (call : Launch) (fs : FileSystem) (content : ByteArray) :
    Except FileError Ending :=
  match Machine.interpreter? content.toList with
  | none => .error .notProgram
  | some (interpreter, options) =>
    match Machine.shellOf? interpreter options with
    | some escapes =>
      .ok (runScript escapes (Machine.interpreterOptions options) fs call.program call.arguments
        call.environment call.seconds (Text.ofBytes content))
    | none =>
      let inner := { call with arguments := options ++ call.program :: call.arguments }
      match runInstalledAt? interpreter inner fs with
      | some ending => .ok ending
      | none => .error .notFound

def containsNul (s : String) : Bool :=
  s.toList.contains (Char.ofNat 0)

/-- Starts a program below the working directory and waits for its end. -/
def start (call : Launch) (fs : FileSystem) : Except FileError Ending :=
  if containsNul call.program || call.arguments.any containsNul then .error .nulInArgument
  else if call.program.toList.contains '/' then
    match runInstalledAt? call.program call fs with
    | some ending => .ok ending
    | none =>
      match fs.status call.program with
      | .error e => .error e
      | .ok (.file content true) => runScriptFile call fs content
      | .ok _ => .error .permissionDenied
  else
    match runInstalled? call.program call fs with
    | some ending => .ok ending
    | none => .error .notFound

/-- Runs a program in its directory. A call without any time is over as soon as it has started. -/
def launcher : Launcher Unit := fun call fs _ =>
  if fs.get? call.directory ≠ some .directory then
    (.failed FileError.notDirectory.message, fs, ())
  else
    match start call { fs with workingDirectory := call.directory } with
    | .error e => (.failed e.message, fs, ())
    | .ok ending =>
      if call.seconds = 0 then (.overdue, fs, ())
      else if !ending.inTime then (.overdue, ending.files, ())
      else
        (.ended (ending.status == 0) ⟨ending.output.toArray⟩ ⟨ending.errors.toArray⟩,
          ending.files, ())

end TestForge.Shell
