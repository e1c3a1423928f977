import TestForge.CauseChain
import TestForge.FileSystem.Operations
import TestForge.Settings.Reading

/-!
# Loading settings

Settings come from a file, named or in its usual place, and from variables of the environment, which
win over the file.
-/

namespace TestForge

inductive SettingsError where
  /-- A text that is no YAML document of settings. -/
  | malformed
  | unreadable (path : String) (cause : FileError)
  | invalidFile (path : String)
  deriving DecidableEq

namespace SettingsError

def malformedMessage : String := "Failed to parse YAML config"

/-- The messages around the first cause, outermost first. -/
def contexts : SettingsError → List String
  | .malformed => [malformedMessage]
  | .unreadable path _ => ["Failed to read config file " ++ path]
  | .invalidFile path => ["Invalid config file " ++ path, malformedMessage]

/-- What a document reader says of a malformed text. -/
def malformedCause : String := "malformed document"

def cause : SettingsError → String
  | .malformed | .invalidFile _ => malformedCause
  | .unreadable _ e => e.message

def chain (e : SettingsError) : CauseChain :=
  e.contexts.foldr CauseChain.wrap (.root e.cause)

end SettingsError

namespace Settings

/-! ## Text and files -/

def ofText (text : String) : Except SettingsError Settings :=
  match Settings.read? text with
  | some s => .ok s
  | none => .error .malformed

def ofFile (fs : FileSystem) (path : String) : Except SettingsError Settings :=
  match fs.readText path with
  | .error e => .error (.unreadable path e)
  | .ok text =>
    match Settings.read? text with
    | some s => .ok s
    | none => .error (.invalidFile path)

def usualFile : String := "testsmith.yml"

/-! ## Environment -/

abbrev Environment := List (String × String)

def override (s : Settings) (env : Environment) : Settings :=
  let tools := s.toolchain
  let seconds? := (env.lookup "TESTSMITH_TOOL_TIMEOUT_SECS").bind fun n =>
    Text.signedNumeralBelow? secondsLimit n.toList
  { s with
    toolchain :=
      { tools with
        gradleCommand := (env.lookup "TESTSMITH_GRADLE").getD tools.gradleCommand
        javaHome := (env.lookup "TESTSMITH_JAVA_HOME").or tools.javaHome
        timeoutSeconds := seconds?.getD tools.timeoutSeconds }
    standardsDirectory := (env.lookup "TESTSMITH_STANDARDS_DIR").getD s.standardsDirectory }

/-- The settings of the named file, or of the usual one if it is there. -/
def load (fs : FileSystem) (explicit : Option String) (env : Environment) :
    Except SettingsError Settings :=
  let base :=
    match explicit with
    | some path => ofFile fs path
    | none => if fs.exists? usualFile then ofFile fs usualFile else .ok {}
  match base with
  | .ok s => .ok (s.override env)
  | .error e => .error e

end Settings

end TestForge
