/-!
# Templates of test artifacts

A template is a fixed sequence of literal text and named slots. There are two: one boots the Spring
application context, the other runs the class under test with mocks alone.
-/

namespace TestForge

/-- Which harness the artifact runs in. -/
inductive TemplateStyle where
  | frameworkIntegrated
  | isolatedMock
  deriving DecidableEq

def TemplateStyle.forFramework (hasEntrypoint : Bool) : TemplateStyle :=
  if hasEntrypoint then .frameworkIntegrated else .isolatedMock

/-- Whether the artifact is tagged as an integration test. -/
inductive TestIntent where
  | unit
  | integration
  deriving DecidableEq

/-! ## Slots -/

inductive Slot where
  | packageDeclaration
  | imports
  | intentImport
  | intentTag
  | serviceName
  | instanceName
  | dependencyMocks
  | constructorParams
  | testMethods
  deriving DecidableEq

inductive Cardinality where
  /-- In every template. -/
  | required
  /-- Possibly absent from a template, and possibly empty. -/
  | optional
  deriving DecidableEq

namespace Slot

def all : List Slot :=
  [.packageDeclaration, .imports, .intentImport, .intentTag, .serviceName, .instanceName,
    .dependencyMocks, .constructorParams, .testMethods]

def cardinality : Slot → Cardinality
  | .packageDeclaration => .optional
  | .imports => .optional
  | .intentImport => .optional
  | .intentTag => .optional
  | .serviceName => .required
  | .instanceName => .required
  | .dependencyMocks => .required
  | .constructorParams => .required
  | .testMethods => .required

def name : Slot → String
  | .packageDeclaration => "PackageDeclaration"
  | .imports => "Imports"
  | .intentImport => "IntentImport"
  | .intentTag => "IntentAnnotation"
  | .serviceName => "ServiceName"
  | .instanceName => "InstanceName"
  | .dependencyMocks => "DependencyMocks"
  | .constructorParams => "ConstructorParams"
  | .testMethods => "TestMethods"

end Slot

def Cardinality.name : Cardinality → String
  | .required => "Required"
  | .optional => "Optional"

/-! ## Templates -/

inductive Segment where
  | text (value : String)
  | slot (name : Slot)
  deriving DecidableEq

/-- The imports every test needs up to those in the order of the alphabet before `Tag`. -/
def harnessImports : String :=
  "import io.mockk.MockKAnnotations\n" ++
  "import io.mockk.impl.annotations.MockK\n" ++
  "import io.mockk.junit5.MockKExtension\n" ++
  "import org.junit.jupiter.api.Assertions.assertNotNull\n" ++
  "import org.junit.jupiter.api.BeforeEach\n" ++
  "import org.junit.jupiter.api.DisplayName\n"

/-- The imports every test needs from `Test` on. -/
def testImports : String :=
  "import org.junit.jupiter.api.Test\n" ++
  "import org.junit.jupiter.api.assertThrows\n" ++
  "import org.junit.jupiter.api.extension.ExtendWith\n"

/-- The class from its name on, the same in both styles. -/
def classTemplate : List Segment :=
  [.slot .serviceName,
    .text "Test \x7b\n\n",
    .slot .dependencyMocks,
    .text "    private lateinit var ",
    .slot .instanceName,
    .text ": ",
    .slot .serviceName,
    .text ("\n\n    @BeforeEach\n    fun setUp() \x7b\n" ++
      "        MockKAnnotations.init(this)\n        "),
    .slot .instanceName,
    .text " = ",
    .slot .serviceName,
    .text "(\n",
    .slot .constructorParams,
    .text "        )\n    \x7d\n",
    .slot .testMethods,
    .text "\x7d\n"]

def frameworkTemplate : List Segment :=
  [.slot .packageDeclaration,
    .slot .imports,
    .text harnessImports,
    .slot .intentImport,
    .text (testImports ++ "import org.springframework.boot.test.context.SpringBootTest\n\n"),
    .slot .intentTag,
    .text "@SpringBootTest\n@ExtendWith(MockKExtension::class)\nclass "] ++ classTemplate

def isolatedTemplate : List Segment :=
  [.slot .packageDeclaration,
    .slot .imports,
    .text harnessImports,
    .slot .intentImport,
    .text (testImports ++ "\n/**\n * Tests for ["),
    .slot .serviceName,
    .text "] with mocked collaborators.\n */\n",
    .slot .intentTag,
    .text "@ExtendWith(MockKExtension::class)\nclass "] ++ classTemplate

def TemplateStyle.template : TemplateStyle → List Segment
  | .frameworkIntegrated => frameworkTemplate
  | .isolatedMock => isolatedTemplate

end TestForge
