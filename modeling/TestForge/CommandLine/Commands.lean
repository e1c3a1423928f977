import TestForge.CommandLine.Arguments
import TestForge.Json.Printer
import TestForge.Json.Reader
import TestForge.Operation.Call
import TestForge.Standards
import TestForge.Text.Blank

/-!
# Carrying out commands

A command that works on a project prints its report as JSON, and fails if the report is not one of
success. What keeps it from starting is an error with its causes.
-/

namespace TestForge

/-- What a program prints, and its exit status. -/
structure Printed where
  status : Nat
  output : String
  errors : String
  deriving DecidableEq

namespace Printed

/-! ## Errors -/

/-- A message whose lines stand behind a first and behind further indentations. -/
def indented (first further message : String) : String :=
  first ++ ("\n" ++ further).intercalate (message.splitOn "\n")

def numbered : Nat → List String → List String
  | _, [] => []
  | n, cause :: rest =>
    let number := toString n
    let space := String.ofList (List.replicate (5 - number.length) ' ')
    indented (space ++ number ++ ": ") "       " cause :: numbered (n + 1) rest

/-- An error and its causes, which are numbered if there are several. -/
def errorText (c : CauseChain) : String :=
  let causes :=
    match c.causes with
    | [] => ""
    | [cause] => "\n\nCaused by:\n" ++ indented "    " "    " cause
    | causes => "\n\nCaused by:\n" ++ "\n".intercalate (numbered 0 causes)
  "Error: " ++ c.message ++ causes ++ "\n"

def failure (c : CauseChain) : Printed :=
  ⟨1, "", errorText c⟩

/-! ## Reports -/

def ofReport (activity : String) (r : Report) : Printed :=
  let output := r.toJson.pretty ++ "\n"
  if r.success then ⟨0, output, ""⟩
  else ⟨1, output, errorText (.root (activity ++ " failed; see the report above"))⟩

end Printed

/-! ## Symbol overviews -/

inductive OverviewError where
  | unreadable (path : String) (cause : FileError)
  | malformed (path : String) (fault : Json.Fault) (text : String)

def OverviewError.chain : OverviewError → CauseChain
  | .unreadable path cause =>
    (CauseChain.root cause.message).wrap ("Failed to read symbol overview " ++ path)
  | .malformed path fault text =>
    (CauseChain.root (fault.message text)).wrap ("Invalid symbol overview " ++ path)

/-- The overview that a file holds as JSON. -/
def SymbolTree.ofFile (fs : FileSystem) (path : String) : Except OverviewError SymbolTree :=
  match fs.readText path with
  | .error e => .error (.unreadable path e)
  | .ok text =>
    match Json.read text with
    | .error fault => .error (.malformed path fault text)
    | .ok j => .ok (SymbolTree.ofJson j)

/-- The request with the overview that a file holds, if one is named. -/
def GenerateRequest.withOverview (r : GenerateRequest) (fs : FileSystem) :
    Option String → Except OverviewError GenerateRequest
  | none => .ok r
  | some path =>
    match SymbolTree.ofFile fs path with
    | .ok tree => .ok { r with symbols := some tree }
    | .error e => .error e

/-! ## Standards -/

namespace Standards

/-- A document under its name. -/
def titled (d : StandardsDocument) (text : String) : String :=
  let body :=
    if text.isEmpty then "(not found)" else String.ofList (Text.trimEnd text.toList)
  "==> " ++ d.fileName ++ " <==\n" ++ body ++ "\n\n"

def printed (s : Standards) (fs : FileSystem) (verbose : Bool) : Printed :=
  let (first, s) := s.read fs .testStandards
  let (second, _) := s.read fs .validationLoop
  { status := 0
    output := titled .testStandards first ++ titled .validationLoop second
    errors := if verbose then "Reading standards from " ++ s.directory ++ "\n" else "" }

end Standards

/-! ## Commands -/

namespace Command

variable {σ : Type}

/-- What a report is about. -/
def activity : Command → String
  | .analyze _ => "Analysis"
  | .generate _ _ _ => "Test generation"
  | .batch _ => "Batch generation"
  | .validate _ => "Validation"
  | .serve | .standards => ""

/-- The request a command makes, if it makes one. -/
def request? (c : Command) (fs : FileSystem) :
    Except OverviewError (Option Dispatcher.Request) :=
  match c with
  | .analyze r => .ok (some (.analyze r))
  | .generate r intent overviewFile =>
    match r.withOverview fs overviewFile with
    | .ok r => .ok (some (.generate r intent))
    | .error e => .error e
  | .batch r => .ok (some (.batch r))
  | .validate r => .ok (some (.validate r))
  | .serve | .standards => .ok none

/-- The report of a command that makes a request. -/
def report? (c : Command) (d : Dispatcher σ) (w : World σ) :
    Except OverviewError (Option Report) × World σ :=
  match c.request? w.files with
  | .error e => (.error e, w)
  | .ok none => (.ok none, w)
  | .ok (some request) =>
    match d.perform request w with
    | (report, w) => (.ok (some report), w)

end Command

end TestForge
