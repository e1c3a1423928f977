import TestForge.Artifact.Template
import TestForge.Service.SourcePatterns

/-!
# Rendering

The artifact is the template with every slot filled from the model.
-/

namespace TestForge

/-! ## Parts of the artifact -/

/-- One import per distinct resolved path, in order of first use. -/
def ServiceModel.importBlock (model : ServiceModel) : List String :=
  (SourcePatterns.distinct [] model.importPaths).map fun path => "import " ++ path ++ "\n"

def Dependency.mock (d : Dependency) : String :=
  "    @MockK\n    private lateinit var " ++ d.name ++ ": " ++ d.typeName ++ "\n\n"

/-- A constructor argument, which has the name of the mock it passes. -/
def Dependency.argument (d : Dependency) : String :=
  "            " ++ d.name ++ " = " ++ d.name

/-- The arguments, each but the last followed by a comma. -/
def arguments : List Dependency → String
  | [] => ""
  | [d] => d.argument ++ "\n"
  | d :: rest => d.argument ++ ",\n" ++ arguments rest

/-- The success case of a method. -/
def Method.successCase (m : Method) (inst : String) : String :=
  "\n    @Test\n    @DisplayName(\"" ++ m.name ++ " - success\")\n    fun `" ++ m.name ++
    "_success`() \x7b\n        // Given: stub collaborator responses here\n\n" ++
    "        // When\n        val result = " ++ inst ++ "." ++ m.name ++ "()\n\n" ++
    "        // Then\n        assertNotNull(result)\n    \x7d\n"

/-- The error case of a method. -/
def Method.errorCase (m : Method) (inst : String) : String :=
  "\n    @Test\n    @DisplayName(\"" ++ m.name ++ " - error\")\n    fun `" ++ m.name ++
    "_error`() \x7b\n        // Given: stub a failing collaborator here\n\n" ++
    "        // When & Then\n        assertThrows<Exception> \x7b\n            " ++
    inst ++ "." ++ m.name ++ "()\n        \x7d\n    \x7d\n"

def Method.cases (inst : String) (m : Method) : String :=
  m.successCase inst ++ m.errorCase inst

/-! ## Filling the slots -/

def Slot.value (model : ServiceModel) (intent : TestIntent) : Slot → String
  | .packageDeclaration =>
    if model.packageName.isEmpty then "" else "package " ++ model.packageName ++ "\n\n"
  | .imports => String.join model.importBlock
  | .intentImport =>
    match intent with
    | .unit => ""
    | .integration => "import org.junit.jupiter.api.Tag\n"
  | .intentTag =>
    match intent with
    | .unit => ""
    | .integration => "@Tag(\"integration\")\n"
  | .serviceName => model.className
  | .instanceName => model.instanceName
  | .dependencyMocks => String.join (model.dependencies.map Dependency.mock)
  | .constructorParams => arguments model.dependencies
  | .testMethods => String.join (model.testableMethods.map (Method.cases model.instanceName))

def Segment.value (model : ServiceModel) (intent : TestIntent) : Segment → String
  | .text s => s
  | .slot s => s.value model intent

/-- The test artifact for a model. -/
def ServiceModel.render (model : ServiceModel) (style : TemplateStyle) (intent : TestIntent) :
    String :=
  String.join (style.template.map (Segment.value model intent))

end TestForge
