import TestForge.Service.Encoding
import TestForge.Service.SymbolTree

/-!
# Requests

The arguments of the operations, and how they are read from JSON and written to it.
-/

namespace TestForge

open Json

structure AnalyzeRequest where
  projectRoot : String
  servicePath : String
  deriving DecidableEq

structure GenerateRequest where
  projectRoot : String
  servicePath : String
  /-- A symbol overview to use in place of source patterns. -/
  symbols : Option SymbolTree
  /-- Where to write the test; the layout decides if it is absent or empty. -/
  testPath : Option String
  /-- Whether to compile and run the test after writing it. -/
  validate : Bool
  /-- Attempts per verification phase. -/
  maxRetries : UInt32

structure BatchRequest where
  projectRoot : String
  /-- The services, in the order in which they are processed. -/
  servicePaths : List String
  validate : Bool
  maxRetries : UInt32
  /-- Whether to go on after a service has failed. -/
  continueOnError : Bool
  deriving DecidableEq

structure ValidateRequest where
  projectRoot : String
  testPath : String
  maxRetries : UInt32
  /-- Whether to produce a coverage report once the tests pass. -/
  checkCoverage : Bool
  deriving DecidableEq

def defaultMaxRetries : UInt32 := 3

def word32Json (n : UInt32) : Json :=
  .nat n.toNat

/-! ## Analyzing -/

namespace AnalyzeRequest

def toJson (r : AnalyzeRequest) : Json :=
  .obj [("project_root", .str r.projectRoot), ("service_path", .str r.servicePath)]

def shape : Shape :=
  ⟨"AnalyzeRequest", [need "project_root" path, need "service_path" text]⟩

def decode (j : Json) : Decoded AnalyzeRequest := do
  let m ← shape.members j
  return ⟨← field path "project_root" m, ← field text "service_path" m⟩

end AnalyzeRequest

/-! ## Generating -/

namespace GenerateRequest

/-- Every value is an overview. -/
def overview (j : Json) : Decoded SymbolTree :=
  .ok (SymbolTree.ofJson j)

def toJson (r : GenerateRequest) : Json :=
  .obj ([("project_root", .str r.projectRoot), ("service_path", .str r.servicePath)] ++
    optMember "serena_analysis" (r.symbols.map SymbolTree.toJson) ++
    optMember "test_path" (r.testPath.map .str) ++
    [("validate", .bool r.validate), ("max_retries", word32Json r.maxRetries)])

def shape : Shape :=
  ⟨"GenerateRequest", [need "project_root" path, need "service_path" text,
    mayHave "serena_analysis" (nullable overview), mayHave "test_path" (nullable text),
    mayHave "validate" boolean, mayHave "max_retries" word32]⟩

def decode (j : Json) : Decoded GenerateRequest := do
  let m ← shape.members j
  return {
    projectRoot := ← field path "project_root" m
    servicePath := ← field text "service_path" m
    symbols := ← fieldOr (nullable overview) "serena_analysis" none m
    testPath := ← fieldOr (nullable text) "test_path" none m
    validate := ← fieldOr boolean "validate" true m
    maxRetries := ← fieldOr word32 "max_retries" defaultMaxRetries m }

end GenerateRequest

/-! ## Batches -/

namespace BatchRequest

def toJson (r : BatchRequest) : Json :=
  .obj [("project_root", .str r.projectRoot), ("service_paths", strs r.servicePaths),
    ("validate", .bool r.validate), ("max_retries", word32Json r.maxRetries),
    ("continue_on_error", .bool r.continueOnError)]

def shape : Shape :=
  ⟨"BatchRequest", [need "project_root" path, need "service_paths" (listOf text),
    mayHave "validate" boolean, mayHave "max_retries" word32,
    mayHave "continue_on_error" boolean]⟩

def decode (j : Json) : Decoded BatchRequest := do
  let m ← shape.members j
  return {
    projectRoot := ← field path "project_root" m
    servicePaths := ← field (listOf text) "service_paths" m
    validate := ← fieldOr boolean "validate" true m
    maxRetries := ← fieldOr word32 "max_retries" defaultMaxRetries m
    continueOnError := ← fieldOr boolean "continue_on_error" true m }

end BatchRequest

/-! ## Validating -/

namespace ValidateRequest

def toJson (r : ValidateRequest) : Json :=
  .obj [("project_root", .str r.projectRoot), ("test_path", .str r.testPath),
    ("max_retries", word32Json r.maxRetries), ("check_coverage", .bool r.checkCoverage)]

def shape : Shape :=
  ⟨"ValidateRequest", [need "project_root" path, need "test_path" text,
    mayHave "max_retries" word32, mayHave "check_coverage" boolean]⟩

def decode (j : Json) : Decoded ValidateRequest := do
  let m ← shape.members j
  return {
    projectRoot := ← field path "project_root" m
    testPath := ← field text "test_path" m
    maxRetries := ← fieldOr word32 "max_retries" defaultMaxRetries m
    checkCoverage := ← fieldOr boolean "check_coverage" false m }

end ValidateRequest

end TestForge
