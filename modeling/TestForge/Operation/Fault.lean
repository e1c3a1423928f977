import TestForge.Json.Decode
import TestForge.Service.Extraction

/-!
# Operations and what goes wrong in them

A call is rejected if its operation is unknown or its arguments cannot be read. All else that goes
wrong is reported by the operation itself.
-/

namespace TestForge

inductive Operation where
  | analyzeService
  | generateUnitTest
  | generateIntegrationTest
  | generateBatchTests
  | validateTest
  deriving DecidableEq

namespace Operation

def all : List Operation :=
  [.analyzeService, .generateUnitTest, .generateIntegrationTest, .generateBatchTests,
    .validateTest]

def name : Operation → String
  | .analyzeService => "analyze_service"
  | .generateUnitTest => "generate_unit_test"
  | .generateIntegrationTest => "generate_integration_test"
  | .generateBatchTests => "generate_batch_tests"
  | .validateTest => "validate_test"

def ofName? (name : String) : Option Operation :=
  all.find? fun op => op.name = name

end Operation

/-! ## Arguments -/

/-- What is wrong with the arguments of an operation. -/
inductive ArgumentFault where
  | undecodable (error : Json.DecodeError)
  | empty (field : String)
  | noRetries
  deriving DecidableEq

def ArgumentFault.message : ArgumentFault → String
  | .undecodable e => e.message
  | .empty field => field ++ " must not be empty"
  | .noRetries => "max_retries must be at least 1"

def invalidArguments (op : Operation) (fault : ArgumentFault) : String :=
  "Invalid arguments for " ++ op.name ++ ": " ++ fault.message

/-- A call that is not carried out. -/
inductive Rejection where
  | invalid (op : Operation) (error : Json.DecodeError)
  | unknown (name : String)
  deriving DecidableEq

def Rejection.message : Rejection → String
  | .invalid op e => invalidArguments op (.undecodable e)
  | .unknown name => "Unknown tool: " ++ name

/-! ## Failures inside an operation -/

inductive OperationFailure where
  | invalid (op : Operation) (fault : ArgumentFault)
  | unreadableService (e : UnreadableService)
  | uncreatable (path : String) (cause : FileError)
  | unwritableTest (path : String) (cause : FileError)
  | missingTest (path : String) (cause : FileError)
  deriving DecidableEq

def OperationFailure.chain : OperationFailure → CauseChain
  | .invalid op fault => .root (invalidArguments op fault)
  | .unreadableService e => e.chain
  | .uncreatable path cause => (CauseChain.root cause.message).wrap ("Failed to create " ++ path)
  | .unwritableTest path cause =>
    (CauseChain.root cause.message).wrap ("Failed to write test file " ++ path)
  | .missingTest path cause =>
    (CauseChain.root cause.message).wrap ("Test file not found: " ++ path)

/-! ## Checks -/

abbrev Checked := Except ArgumentFault Unit

def requirePath (field path : String) : Checked :=
  if path.isEmpty then .error (.empty field) else .ok ()

def requireText (field text : String) : Checked :=
  if Text.isAllBlank text.toList then .error (.empty field) else .ok ()

def requireRetries (maxRetries : UInt32) : Checked :=
  if maxRetries = 0 then .error .noRetries else .ok ()

def requireSome {α : Type} (field : String) (items : List α) : Checked :=
  if items.isEmpty then .error (.empty field) else .ok ()

end TestForge
