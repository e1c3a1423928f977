import TestForge.Artifact.Template
import TestForge.Operation.Request
import TestForge.Text.DecimalDigit
import TestForge.Text.Search

/-!
# Arguments

An argument with dashes in front is an option, up to a lone pair of dashes; the others are operands.
Options may be given once, before or after operands, and their values in the same argument or the
next. What cannot be read is a usage error.
-/

namespace TestForge

inductive Command where
  | serve
  | analyze (r : AnalyzeRequest)
  /-- The request is completed by the overview in a file, if one is named. -/
  | generate (r : GenerateRequest) (intent : TestIntent) (overviewFile : Option String)
  | batch (r : BatchRequest)
  | validate (r : ValidateRequest)
  | standards

structure CommandLine where
  verbose : Bool
  settingsFile : Option String
  command : Command

namespace CommandLine

/-! ## Options and operands -/

/-- The names of the options a command knows: those without and those with a value. -/
structure OptionNames where
  flags : List String
  valued : List String

structure Arguments where
  flags : List String
  values : List (String × String)
  operands : List String

namespace Arguments

def none : Arguments :=
  ⟨[], [], []⟩

def addFlag? (a : Arguments) (name : String) : Option Arguments :=
  if a.flags.contains name then .none else some { a with flags := name :: a.flags }

def addValue? (a : Arguments) (name value : String) : Option Arguments :=
  if (a.values.lookup name).isSome then .none
  else some { a with values := (name, value) :: a.values }

def addOperand (a : Arguments) (s : String) : Arguments :=
  { a with operands := a.operands ++ [s] }

end Arguments

def looksLikeOption (s : String) : Bool :=
  s.toList.head? == some '-' && s.length > 1

/-- The name of a long option, with the value behind an equals sign. -/
def longOption? (s : String) : Option (String × Option String) :=
  (Text.after? ['-', '-'] s.toList).map fun rest =>
    match Text.cutAtChar? '=' rest with
    | some (name, value) => (String.ofList name, some (String.ofList value))
    | none => (String.ofList rest, none)

/-- Reads options and operands, or options up to the first operand. -/
def scan (names : OptionNames) (toOperand : Bool) :
    Arguments → List String → Option (Arguments × List String)
  | a, [] => some (a, [])
  | a, "--" :: rest =>
    if toOperand then (if rest.isEmpty then some (a, []) else none)
    else some (rest.foldl Arguments.addOperand a, [])
  | a, s :: rest =>
    if !looksLikeOption s then
      if toOperand then some (a, s :: rest) else scan names toOperand (a.addOperand s) rest
    else
      match longOption? s with
      | none => none
      | some (name, some value) =>
        if names.valued.contains name then
          match a.addValue? name value with
          | some a => scan names toOperand a rest
          | none => none
        else none
      | some (name, none) =>
        if names.flags.contains name then
          match a.addFlag? name with
          | some a => scan names toOperand a rest
          | none => none
        else if names.valued.contains name then
          match rest with
          | value :: rest =>
            if looksLikeOption value then none
            else
              match a.addValue? name value with
              | some a => scan names toOperand a rest
              | none => none
          | [] => none
        else none

/-! ## Values -/

/-- A path given by an option must not be empty. -/
def path? (a : Arguments) (name : String) : Option (Option String) :=
  match a.values.lookup name with
  | some path => if path.isEmpty then none else some (some path)
  | none => some none

def projectRoot? (a : Arguments) : Option String :=
  (path? a "project-root").map (·.getD ".")

/-- A whole number in 32 bits. A sign may stand in front, a minus only of zero. -/
def word32? (s : String) : Option UInt32 :=
  match s.toList with
  | '-' :: digits => (Text.numeralBelow? 1 digits).map UInt32.ofNat
  | cs => (Text.signedNumeralBelow? (Nat.pow 2 32) cs).map UInt32.ofNat

def maxRetries? (a : Arguments) : Option UInt32 :=
  match a.values.lookup "max-retries" with
  | some n => word32? n
  | none => some defaultMaxRetries

def operand? (a : Arguments) : Option String :=
  match a.operands with
  | [s] => some s
  | _ => none

/-! ## Commands -/

def globalNames : OptionNames :=
  ⟨["verbose"], ["config"]⟩

/-- The options of a command, by its name. -/
def optionNames? : String → Option OptionNames
  | "serve" | "standards" => some ⟨[], []⟩
  | "analyze" => some ⟨[], ["project-root"]⟩
  | "generate" =>
    some ⟨["integration", "no-validate"], ["project-root", "test-path", "symbols", "max-retries"]⟩
  | "batch" => some ⟨["no-validate", "stop-on-error"], ["project-root", "max-retries"]⟩
  | "validate" => some ⟨["coverage"], ["project-root", "max-retries"]⟩
  | _ => none

def command? (name : String) (a : Arguments) : Option Command := do
  let root ← projectRoot? a
  let retries ← maxRetries? a
  match name with
  | "serve" => if a.operands.isEmpty then some .serve else none
  | "standards" => if a.operands.isEmpty then some .standards else none
  | "analyze" => return .analyze ⟨root, ← operand? a⟩
  | "generate" =>
    let overviewFile ← path? a "symbols"
    let request : GenerateRequest :=
      { projectRoot := root
        servicePath := ← operand? a
        symbols := none
        testPath := a.values.lookup "test-path"
        validate := !a.flags.contains "no-validate"
        maxRetries := retries }
    let intent := if a.flags.contains "integration" then TestIntent.integration else .unit
    return .generate request intent overviewFile
  | "batch" =>
    if a.operands.isEmpty then none
    else
      return .batch
        { projectRoot := root
          servicePaths := a.operands
          validate := !a.flags.contains "no-validate"
          maxRetries := retries
          continueOnError := !a.flags.contains "stop-on-error" }
  | "validate" =>
    return .validate
      { projectRoot := root
        testPath := ← operand? a
        maxRetries := retries
        checkCoverage := a.flags.contains "coverage" }
  | _ => none

def withGlobals (names : OptionNames) : OptionNames :=
  ⟨globalNames.flags ++ names.flags, globalNames.valued ++ names.valued⟩

/-- Reads the arguments of the program. An option of the program may also follow the command, where
it wins. -/
def parse? (arguments : List String) : Option CommandLine := do
  let (before, rest) ← scan globalNames true .none arguments
  match rest with
  | [] => none
  | name :: rest =>
    let names ← optionNames? name
    let (after, _) ← scan (withGlobals names) false .none rest
    let outer ← path? before "config"
    let inner ← path? after "config"
    let command ← command? name after
    return {
      verbose := before.flags.contains "verbose" || after.flags.contains "verbose"
      settingsFile := inner.or outer
      command := command }

end CommandLine

end TestForge
