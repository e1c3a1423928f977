import TestForge.Json.Value
import TestForge.Operation.Fault

/-!
# The tools a session offers

One tool for every operation, with a schema of its arguments.
-/

namespace TestForge.ToolServer

/-! ## Schemas -/

/-- An argument: whether it must be given, and its schema. -/
structure Parameter where
  name : String
  required : Bool
  schema : List (String × Json)

/-- The dialect of a schema, by the number of its draft. -/
def dialect (draft : String) : String :=
  "http://" ++ "json-schema.org/draft-" ++ draft ++ "/schema#"

def describe (text : String) : List (String × Json) :=
  [("description", .str text)]

def typed (name : String) : List (String × Json) :=
  [("type", .str name)]

def withDefault (value : Json) : List (String × Json) :=
  [("default", value)]

def word32Schema (default : Nat) : List (String × Json) :=
  [("default", .nat default), ("format", .str "uint32"), ("minimum", .nat 0),
    ("type", .str "integer")]

def schemaOf (title : String) (ps : List Parameter) : Json :=
  .obj [("$schema", .str (dialect "07")), ("title", .str title), ("type", .str "object"),
    ("properties", .obj (ps.map fun p => (p.name, .obj p.schema))),
    ("required", .strs ((ps.filter (·.required)).map (·.name)))]

/-! ## Arguments -/

def projectRoot : Parameter :=
  ⟨"project_root", true, describe "Absolute path of the Gradle project" ++ typed "string"⟩

def servicePath : Parameter :=
  ⟨"service_path", true,
    describe "Service source path relative to project_root" ++ typed "string"⟩

def retries (description : List (String × Json)) : Parameter :=
  ⟨"max_retries", false, description ++ word32Schema 3⟩

def choice (name : String) (default : Bool) (description : List (String × Json)) : Parameter :=
  ⟨name, false, description ++ withDefault (.bool default) ++ typed "boolean"⟩

def analyzeParameters : List Parameter :=
  [projectRoot, servicePath]

def generateParameters : List Parameter :=
  [projectRoot, servicePath,
    ⟨"serena_analysis", false,
      describe "Optional symbol overview (\x7bname, children: [\x7bkind, name, detail\x7d]\x7d)"⟩,
    ⟨"test_path", false,
      describe "Output path; inferred from service_path when omitted" ++
        [("nullable", .bool true)] ++ typed "string"⟩,
    choice "validate" true (describe "Compile and run the test after writing it"),
    retries (describe "Attempts per verification phase")]

def batchParameters : List Parameter :=
  [projectRoot,
    ⟨"service_paths", true,
      describe "Service source paths, processed in order" ++
        [("items", .obj (typed "string"))] ++ typed "array"⟩,
    choice "validate" true [], retries [],
    choice "continue_on_error" true (describe "Keep going after a failed service")]

def validateParameters : List Parameter :=
  [projectRoot,
    ⟨"test_path", true, describe "Test source path relative to project_root" ++ typed "string"⟩,
    retries [],
    choice "check_coverage" false (describe "Produce a JaCoCo report once the tests pass")]

/-! ## Tools -/

def description : Operation → String
  | .analyzeService => "Extract package, class, dependencies and methods of a service class"
  | .generateUnitTest => "Generate a unit test for a service and verify it compiles and passes"
  | .generateIntegrationTest => "Generate an integration-tagged test for a service and verify it"
  | .generateBatchTests => "Generate unit tests for several services in order"
  | .validateTest => "Compile and run an existing test, optionally producing a coverage report"

def inputSchema : Operation → Json
  | .analyzeService => schemaOf "AnalyzeRequest" analyzeParameters
  | .generateUnitTest | .generateIntegrationTest => schemaOf "GenerateRequest" generateParameters
  | .generateBatchTests => schemaOf "BatchRequest" batchParameters
  | .validateTest => schemaOf "ValidateRequest" validateParameters

def toolJson (op : Operation) : Json :=
  .obj [("name", .str op.name), ("description", .str (description op)),
    ("inputSchema", inputSchema op)]

/-- The operations by the names of their tools. -/
def listed : List Operation :=
  [.analyzeService, .generateBatchTests, .generateIntegrationTest, .generateUnitTest,
    .validateTest]

def catalog : Json :=
  .obj [("tools", .arr (listed.map toolJson))]

end TestForge.ToolServer
