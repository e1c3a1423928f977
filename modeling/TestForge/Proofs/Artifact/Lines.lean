import TestForge.Proofs.Artifact.Members
import TestForge.Proofs.Text.LowerCase
import TestForge.Proofs.Text.Lines

/-!
# The lines of a test class

An artifact is a list of lines: those in front of the class, those of its members and a brace. No
line of the model is split or joined with another, as long as no name, type or path in it has a line
feed.
-/

namespace TestForge

open Text

/-! ## Lines of the heading -/

def harnessLines : List String :=
  ["import io.mockk.MockKAnnotations", "import io.mockk.impl.annotations.MockK",
    "import io.mockk.junit5.MockKExtension",
    "import org.junit.jupiter.api.Assertions.assertNotNull",
    "import org.junit.jupiter.api.BeforeEach", "import org.junit.jupiter.api.DisplayName"]

def testLines : List String :=
  ["import org.junit.jupiter.api.Test", "import org.junit.jupiter.api.assertThrows",
    "import org.junit.jupiter.api.extension.ExtendWith"]

def TestIntent.importLines : TestIntent → List String
  | .unit => []
  | .integration => ["import org.junit.jupiter.api.Tag"]

def TestIntent.tagLines : TestIntent → List String
  | .unit => []
  | .integration => ["@Tag(\"integration\")"]

/-- The lines between the imports of every test and the tag. -/
def TemplateStyle.introLines (className : String) : TemplateStyle → List String
  | .frameworkIntegrated => ["import org.springframework.boot.test.context.SpringBootTest", ""]
  | .isolatedMock =>
    ["", "/**", " * Tests for [" ++ className ++ "] with mocked collaborators.", " */"]

/-- The annotations of the class, without the tag. -/
def TemplateStyle.annotationLines : TemplateStyle → List String
  | .frameworkIntegrated => ["@SpringBootTest", "@ExtendWith(MockKExtension::class)"]
  | .isolatedMock => ["@ExtendWith(MockKExtension::class)"]

namespace ServiceModel

def packageLines (model : ServiceModel) : List String :=
  if model.packageName.isEmpty then [] else ["package " ++ model.packageName, ""]

def importLines (model : ServiceModel) : List String :=
  (SourcePatterns.distinct [] model.importPaths).map fun path => "import " ++ path

def headingLines (model : ServiceModel) (style : TemplateStyle) (intent : TestIntent) :
    List String :=
  model.packageLines ++ (model.importLines ++ (harnessLines ++ (intent.importLines ++
    (testLines ++ (style.introLines model.className ++
      (intent.tagLines ++ style.annotationLines))))))

/-- The lines of a heading that no name stands in. -/
def fixedLines : List String :=
  "" :: (harnessLines ++ ("import org.junit.jupiter.api.Tag" :: (testLines ++
    ["import org.springframework.boot.test.context.SpringBootTest", "/**", " */",
      "@Tag(\"integration\")", "@SpringBootTest", "@ExtendWith(MockKExtension::class)"])))

/-- A heading has the fixed lines and three kinds of lines with names. -/
theorem forall_mem_headingLines {model : ServiceModel} {P : String → Prop}
    (style : TemplateStyle) (intent : TestIntent) (hfixed : ∀ line ∈ fixedLines, P line)
    (hpackage : P ("package " ++ model.packageName))
    (himport : ∀ path ∈ model.importPaths, P ("import " ++ path))
    (hintro : P (" * Tests for [" ++ model.className ++ "] with mocked collaborators.")) :
    ∀ line ∈ model.headingLines style intent, P line := by
  simp only [fixedLines, List.forall_mem_cons, List.forall_mem_append] at hfixed
  obtain ⟨hblank, hharness, htagImport, htests, hbootImport, hopen, hclose, htag, hboot, hextend,
    -⟩ := hfixed
  have hpackages : ∀ line ∈ model.packageLines, P line := by
    unfold packageLines
    split
    · exact List.forall_mem_nil _
    · simp only [List.forall_mem_cons]
      exact ⟨hpackage, hblank, List.forall_mem_nil _⟩
  have himports : ∀ line ∈ model.importLines, P line := by
    intro line hline
    obtain ⟨path, hpath, rfl⟩ := List.mem_map.1 hline
    exact himport path (SourcePatterns.mem_distinct_iff.1 hpath).1
  have hintent : (∀ line ∈ intent.importLines, P line) ∧ ∀ line ∈ intent.tagLines, P line := by
    cases intent with
    | unit => exact ⟨List.forall_mem_nil _, List.forall_mem_nil _⟩
    | integration =>
        exact ⟨List.forall_mem_singleton.2 htagImport, List.forall_mem_singleton.2 htag⟩
  have hstyle : (∀ line ∈ style.introLines model.className, P line) ∧
      ∀ line ∈ style.annotationLines, P line := by
    cases style with
    | frameworkIntegrated =>
        simp only [TemplateStyle.introLines, TemplateStyle.annotationLines, List.forall_mem_cons]
        exact ⟨⟨hbootImport, hblank, List.forall_mem_nil _⟩, hboot, hextend, List.forall_mem_nil _⟩
    | isolatedMock =>
        simp only [TemplateStyle.introLines, TemplateStyle.annotationLines, List.forall_mem_cons]
        exact ⟨⟨hblank, hopen, hintro, hclose, List.forall_mem_nil _⟩, hextend,
          List.forall_mem_nil _⟩
  simp only [headingLines, List.forall_mem_append]
  exact ⟨hpackages, himports, hharness, hintent.1, htests, hstyle.1, hintent.2, hstyle.2⟩

end ServiceModel

/-! ## Lines of the members -/

def propertyLine (name typeName : String) : String :=
  "    private lateinit var " ++ name ++ ": " ++ typeName

def Dependency.mockLines (d : Dependency) : List String :=
  ["    @MockK", propertyLine d.name d.typeName, ""]

/-- The arguments, each but the last followed by a comma. -/
def argumentLines (dependencies : List Dependency) : List String :=
  dependencies.mapIdx fun i d =>
    "            " ++ d.name ++ " = " ++ d.name ++ if i + 1 < dependencies.length then "," else ""

def functionLine (name : String) : String :=
  "    fun `" ++ name ++ "`() \x7b"

def caseLines (title name : String) (body : List String) : List String :=
  ["", "    @Test", "    @DisplayName(\"" ++ title ++ "\")", functionLine name] ++
    (body ++ ["    \x7d"])

def Method.successBody (inst : String) (m : Method) : List String :=
  ["        // Given: stub collaborator responses here", "", "        // When",
    "        val result = " ++ inst ++ "." ++ m.name ++ "()", "", "        // Then",
    "        assertNotNull(result)"]

def Method.errorBody (inst : String) (m : Method) : List String :=
  ["        // Given: stub a failing collaborator here", "", "        // When & Then",
    "        assertThrows<Exception> \x7b", "            " ++ inst ++ "." ++ m.name ++ "()",
    "        \x7d"]

def Method.caseLines (inst : String) (m : Method) : List String :=
  TestForge.caseLines (m.name ++ " - success") (m.name ++ "_success") (m.successBody inst) ++
    TestForge.caseLines (m.name ++ " - error") (m.name ++ "_error") (m.errorBody inst)

namespace ServiceModel

def setUpLine (model : ServiceModel) : String :=
  "        " ++ model.instanceName ++ " = " ++ model.className ++ "("

def openingLines (model : ServiceModel) (style : TemplateStyle) (intent : TestIntent) :
    List String :=
  model.headingLines style intent ++ ["class " ++ model.className ++ "Test \x7b", ""]

/-- The lines from the mocks to the one that makes the instance. -/
def instanceLines (model : ServiceModel) : List String :=
  [propertyLine model.instanceName model.className, "", "    @BeforeEach", "    fun setUp() \x7b",
    "        MockKAnnotations.init(this)"]

/-- The lines behind the one that closes the arguments of the instance. -/
def closingLines (model : ServiceModel) : List String :=
  "    \x7d" :: (model.testableMethods.flatMap (Method.caseLines model.instanceName) ++ ["\x7d"])

def lines (model : ServiceModel) (style : TemplateStyle) (intent : TestIntent) : List String :=
  model.openingLines style intent ++ (model.dependencies.flatMap Dependency.mockLines ++
    (model.instanceLines ++ model.setUpLine :: (argumentLines model.dependencies ++
      "        )" :: model.closingLines)))

end ServiceModel

/-! ## The text of the members -/

theorem Declaration.text_property (marker : List String) (name typeName : String) :
    (Declaration.property (unlines marker) name typeName).text =
      unlines (marker ++ [propertyLine name typeName, ""]) := by
  have hend : "\n\n" = "\n" ++ "\n" := by simp
  unfold Declaration.text propertyLine
  rw [hend]
  simp only [unlines_append, unlines_cons, unlines_nil, String.append_assoc, String.append_empty,
    String.empty_append]

theorem Declaration.text_setUp (body : List String) :
    (Declaration.setUp (unlines body)).text =
      unlines (["    @BeforeEach", "    fun setUp() \x7b"] ++ (body ++ ["    \x7d"])) := by
  have hstart : "    @BeforeEach\n    fun setUp() \x7b\n" =
      "    @BeforeEach" ++ ("\n" ++ ("    fun setUp() \x7b" ++ "\n")) := by simp
  have hend : "    \x7d\n" = "    \x7d" ++ "\n" := by simp
  unfold Declaration.text
  rw [hstart, hend]
  simp only [unlines_append, unlines_cons, unlines_nil, String.append_assoc, String.append_empty]

theorem Declaration.text_test (title name : String) (body : List String) :
    (Declaration.test title name (unlines body)).text = unlines (caseLines title name body) := by
  have hstart : "\n    @Test\n    @DisplayName(\"" =
      "\n" ++ ("    @Test" ++ ("\n" ++ "    @DisplayName(\"")) := by simp
  have htitle : "\")\n    fun `" = "\")" ++ ("\n" ++ "    fun `") := by simp
  have hname : "`() \x7b\n" = "`() \x7b" ++ "\n" := by simp
  have hend : "    \x7d\n" = "    \x7d" ++ "\n" := by simp
  unfold Declaration.text caseLines functionLine
  rw [hstart, htitle, hname, hend]
  simp only [unlines_append, unlines_cons, unlines_nil, String.append_assoc, String.append_empty,
    String.empty_append]

theorem Dependency.text_mockLines (d : Dependency) : d.declaration.text = unlines d.mockLines := by
  have hmarker : "    @MockK\n" = unlines ["    @MockK"] := by
    rw [unlines_cons, unlines_nil]
    simp
  rw [declaration, hmarker, Declaration.text_property]
  rfl

theorem Method.unlines_successBody (inst : String) (m : Method) :
    unlines (m.successBody inst) = "        // Given: stub collaborator responses here\n\n" ++
      "        // When\n        val result = " ++ inst ++ "." ++ m.name ++ "()\n\n" ++
        "        // Then\n        assertNotNull(result)\n" := by
  have hgiven : "        // Given: stub collaborator responses here\n\n" =
      "        // Given: stub collaborator responses here" ++ ("\n" ++ "\n") := by simp
  have hwhen : "        // When\n        val result = " =
      "        // When" ++ ("\n" ++ "        val result = ") := by simp
  have hcall : "()\n\n" = "()" ++ ("\n" ++ "\n") := by simp
  have hthen : "        // Then\n        assertNotNull(result)\n" =
      "        // Then" ++ ("\n" ++ ("        assertNotNull(result)" ++ "\n")) := by simp
  unfold successBody
  rw [hgiven, hwhen, hcall, hthen]
  simp only [unlines_cons, unlines_nil, String.append_assoc, String.append_empty,
    String.empty_append]

theorem Method.unlines_errorBody (inst : String) (m : Method) :
    unlines (m.errorBody inst) = "        // Given: stub a failing collaborator here\n\n" ++
      "        // When & Then\n        assertThrows<Exception> \x7b\n            " ++
        inst ++ "." ++ m.name ++ "()\n        \x7d\n" := by
  have hgiven : "        // Given: stub a failing collaborator here\n\n" =
      "        // Given: stub a failing collaborator here" ++ ("\n" ++ "\n") := by simp
  have hthrows : "        // When & Then\n        assertThrows<Exception> \x7b\n            " =
      "        // When & Then" ++ ("\n" ++ ("        assertThrows<Exception> \x7b" ++
        ("\n" ++ "            "))) := by simp
  have hclose : "()\n        \x7d\n" = "()" ++ ("\n" ++ ("        \x7d" ++ "\n")) := by simp
  unfold errorBody
  rw [hgiven, hthrows, hclose]
  simp only [unlines_cons, unlines_nil, String.append_assoc, String.append_empty,
    String.empty_append]

theorem Method.text_caseLines (inst : String) (m : Method) :
    String.join ((m.declarations inst).map Declaration.text) = unlines (m.caseLines inst) := by
  rw [declarations, ← unlines_successBody, ← unlines_errorBody, List.map_cons, List.map_singleton,
    Declaration.text_test, Declaration.text_test, caseLines, unlines_append, String.join_cons,
    String.join_cons, String.join_nil, String.append_empty]

theorem argumentLines_singleton (d : Dependency) : argumentLines [d] = [d.argument] :=
  congrArg (fun line => [line]) String.append_empty

theorem argumentLines_cons_cons (d d' : Dependency) (dependencies : List Dependency) :
    argumentLines (d :: d' :: dependencies) =
      (d.argument ++ ",") :: argumentLines (d' :: dependencies) := by
  have hfirst : 0 + 1 < (d :: d' :: dependencies).length := by simp
  rw [argumentLines, List.mapIdx_cons, if_pos hfirst, argumentLines]
  simp only [List.length_cons, Nat.add_lt_add_iff_right]
  rfl

theorem arguments_eq_unlines (dependencies : List Dependency) :
    arguments dependencies = unlines (argumentLines dependencies) := by
  induction dependencies with
  | nil => rfl
  | cons d dependencies ih =>
      cases dependencies with
      | nil =>
          rw [argumentLines_singleton]
          rfl
      | cons d' dependencies =>
          have hcomma : ",\n" = "," ++ "\n" := by simp
          have harguments : arguments (d :: d' :: dependencies) =
              d.argument ++ ",\n" ++ arguments (d' :: dependencies) := rfl
          rw [harguments, ih, argumentLines_cons_cons, unlines_cons, hcomma]
          simp only [String.append_assoc]

namespace ServiceModel

variable (model : ServiceModel) (style : TemplateStyle) (intent : TestIntent)

theorem setUpBody_eq_unlines : model.setUpBody =
    unlines (["        MockKAnnotations.init(this)", model.setUpLine] ++
      (argumentLines model.dependencies ++ ["        )"])) := by
  have hstart : "        MockKAnnotations.init(this)\n        " =
      "        MockKAnnotations.init(this)" ++ ("\n" ++ "        ") := by simp
  have hopen : "(\n" = "(" ++ "\n" := by simp
  have hend : "        )\n" = "        )" ++ "\n" := by simp
  unfold setUpBody setUpLine
  rw [hstart, hopen, hend, arguments_eq_unlines]
  simp only [unlines_append, unlines_cons, unlines_nil, String.append_assoc, String.append_empty]

end ServiceModel

/-! ## The text of the heading -/

theorem unlines_harnessLines : unlines harnessLines = harnessImports := by
  decide +kernel

theorem unlines_testLines : unlines testLines = testImports := by
  decide

namespace ServiceModel

variable (model : ServiceModel) (style : TemplateStyle) (intent : TestIntent)

theorem value_packageDeclaration :
    Slot.value model intent .packageDeclaration = unlines model.packageLines := by
  have hvalue : Slot.value model intent .packageDeclaration =
      if model.packageName.isEmpty then "" else "package " ++ model.packageName ++ "\n\n" := rfl
  have hend : "\n\n" = "\n" ++ "\n" := by simp
  rw [hvalue, packageLines]
  split
  · rfl
  · rw [hend]
    simp only [unlines_cons, unlines_nil, String.append_assoc, String.append_empty,
      String.empty_append]

theorem value_imports : Slot.value model intent .imports = unlines model.importLines := by
  have hvalue : Slot.value model intent .imports = String.join model.importBlock := rfl
  rw [hvalue]
  unfold importBlock importLines
  induction SourcePatterns.distinct [] model.importPaths with
  | nil => rfl
  | cons path paths ih =>
      rw [List.map_cons, String.join_cons, ih, List.map_cons, unlines_cons, String.append_assoc]

theorem value_intentImport :
    Slot.value model intent .intentImport = unlines intent.importLines := by
  have htext : "import org.junit.jupiter.api.Tag\n" =
      unlines ["import org.junit.jupiter.api.Tag"] := by decide
  cases intent with
  | unit => rfl
  | integration => exact htext

theorem value_intentTag : Slot.value model intent .intentTag = unlines intent.tagLines := by
  have htext : "@Tag(\"integration\")\n" = unlines ["@Tag(\"integration\")"] := by decide
  cases intent with
  | unit => rfl
  | integration => exact htext

/-- The texts of a template around its slots, up to the name of the class. -/
theorem render_heading : model.render style intent =
    unlines (model.headingLines style intent) ++ ("class " ++ (model.className ++
      ("Test \x7b\n\n" ++ (String.join (model.declarations.map Declaration.text) ++ "\x7d\n")))) := by
  have hboot : "import org.springframework.boot.test.context.SpringBootTest\n\n" =
      unlines ["import org.springframework.boot.test.context.SpringBootTest", ""] := by
    decide
  have hannotations : "@SpringBootTest\n@ExtendWith(MockKExtension::class)\nclass " =
      unlines ["@SpringBootTest", "@ExtendWith(MockKExtension::class)"] ++ "class " := by
    decide
  have hannotation : "@ExtendWith(MockKExtension::class)\nclass " =
      unlines ["@ExtendWith(MockKExtension::class)"] ++ "class " := by
    decide
  have hopen : "\n/**\n * Tests for [" = unlines ["", "/**"] ++ " * Tests for [" := by
    decide
  have hclose : "] with mocked collaborators.\n */\n" =
      "] with mocked collaborators." ++ ("\n" ++ unlines [" */"]) := by
    decide
  unfold render headingLines
  cases style with
  | frameworkIntegrated =>
      unfold TemplateStyle.template frameworkTemplate TemplateStyle.introLines
        TemplateStyle.annotationLines
      rw [List.map_append, String.join_append, value_classTemplate, hboot, hannotations]
      simp only [List.map_cons, List.map_nil, String.join_cons, String.join_nil, Segment.value,
        value_packageDeclaration, value_imports, value_intentImport, value_intentTag,
        ← unlines_harnessLines, ← unlines_testLines, unlines_append, String.append_assoc,
        String.append_empty]
  | isolatedMock =>
      have hintro : unlines ["", "/**", " * Tests for [" ++ (model.className ++
            "] with mocked collaborators."), " */"] =
          unlines ["", "/**"] ++ (" * Tests for [" ++ (model.className ++
            ("] with mocked collaborators." ++ ("\n" ++ unlines [" */"])))) := by
        simp only [unlines_cons, unlines_nil, String.append_assoc, String.append_empty]
      have hname : Slot.value model intent .serviceName = model.className := rfl
      unfold TemplateStyle.template isolatedTemplate TemplateStyle.introLines
        TemplateStyle.annotationLines
      rw [List.map_append, String.join_append, value_classTemplate, hopen, hclose, hannotation]
      simp only [List.map_cons, List.map_nil, String.join_cons, String.join_nil, Segment.value,
        value_packageDeclaration, value_imports, value_intentImport, value_intentTag, hintro, hname,
        ← unlines_harnessLines, ← unlines_testLines, unlines_append, String.append_assoc,
        String.append_empty]

/-! ## The whole text -/

theorem text_declarations : String.join (model.declarations.map Declaration.text) =
    unlines (model.dependencies.flatMap Dependency.mockLines ++
      ([propertyLine model.instanceName model.className, ""] ++
        (["    @BeforeEach", "    fun setUp() \x7b", "        MockKAnnotations.init(this)",
          model.setUpLine] ++ (argumentLines model.dependencies ++ ["        )", "    \x7d"])) ++
          model.testableMethods.flatMap (Method.caseLines model.instanceName))) := by
  have hmocks : String.join ((model.dependencies.map Dependency.declaration).map
      Declaration.text) = unlines (model.dependencies.flatMap Dependency.mockLines) := by
    rw [unlines_flatMap, List.map_map]
    exact congrArg String.join (List.map_congr_left fun d _ => d.text_mockLines)
  have htests : String.join ((model.testableMethods.flatMap
      (Method.declarations model.instanceName)).map Declaration.text) =
        unlines (model.testableMethods.flatMap (Method.caseLines model.instanceName)) := by
    rw [List.map_flatMap, join_flatMap, unlines_flatMap]
    exact congrArg String.join (List.map_congr_left fun m _ => m.text_caseLines _)
  have hinstance := Declaration.text_property [] model.instanceName model.className
  rw [unlines_nil] at hinstance
  have hsetUp := Declaration.text_setUp (["        MockKAnnotations.init(this)", model.setUpLine] ++
      (argumentLines model.dependencies ++ ["        )"]))
  rw [← setUpBody_eq_unlines] at hsetUp
  unfold declarations
  rw [List.map_append, String.join_append, hmocks, List.map_append, String.join_append, htests,
    List.map_cons, List.map_singleton, String.join_cons, String.join_cons, String.join_nil,
    hinstance, hsetUp]
  simp only [unlines_append, unlines_cons, unlines_nil, List.nil_append, String.append_assoc, String.append_empty]

/-- An artifact has its lines one below the other. -/
theorem render_eq_unlines : model.render style intent = unlines (model.lines style intent) := by
  have hclass : "Test \x7b\n\n" = "Test \x7b" ++ ("\n" ++ "\n") := by simp
  have hend : "\x7d\n" = "\x7d" ++ "\n" := by simp
  rw [render_heading, text_declarations, hclass, hend]
  unfold lines openingLines instanceLines closingLines
  simp only [unlines_append, unlines_cons, unlines_nil, String.append_assoc, String.append_empty,
    String.empty_append]

end ServiceModel

/-! ## Reading the lines back -/

theorem oneLine_propertyLine {name typeName : String} (hn : OneLine name)
    (ht : OneLine typeName) : OneLine (propertyLine name typeName) :=
  ((OneLine.append (.literal (by decide)) hn).append (.literal (by decide))).append ht

theorem oneLine_caseLines {title name : String} {body : List String} (ht : OneLine title)
    (hn : OneLine name) (hbody : ∀ line ∈ body, OneLine line) :
    ∀ line ∈ caseLines title name body, OneLine line := by
  simp only [caseLines, List.forall_mem_append, List.forall_mem_cons]
  exact ⟨⟨.literal (by decide), .literal (by decide),
      (OneLine.append (.literal (by decide)) ht).append (.literal (by decide)),
      (OneLine.append (.literal (by decide)) hn).append (.literal (by decide)), List.forall_mem_nil _⟩,
    hbody, .literal (by decide), List.forall_mem_nil _⟩

theorem Method.oneLine_caseLines {inst : String} {m : Method} (hi : OneLine inst)
    (hn : OneLine m.name) : ∀ line ∈ m.caseLines inst, OneLine line := by
  have hcall : OneLine (inst ++ "." ++ m.name ++ "()") :=
    ((hi.append (.literal (by decide))).append hn).append (.literal (by decide))
  have hsuccess : ∀ line ∈ m.successBody inst, OneLine line := by
    have hresult : OneLine ("        val result = " ++ (inst ++ "." ++ m.name ++ "()")) :=
      OneLine.append (.literal (by decide)) hcall
    simp only [← String.append_assoc] at hresult
    simp only [successBody, List.forall_mem_cons]
    exact ⟨.literal (by decide), .literal (by decide), .literal (by decide), hresult, .literal (by decide),
      .literal (by decide), .literal (by decide), List.forall_mem_nil _⟩
  have herror : ∀ line ∈ m.errorBody inst, OneLine line := by
    have hresult : OneLine ("            " ++ (inst ++ "." ++ m.name ++ "()")) :=
      OneLine.append (.literal (by decide)) hcall
    simp only [← String.append_assoc] at hresult
    simp only [errorBody, List.forall_mem_cons]
    exact ⟨.literal (by decide), .literal (by decide), .literal (by decide), .literal (by decide), hresult,
      .literal (by decide), List.forall_mem_nil _⟩
  simp only [caseLines, List.forall_mem_append]
  exact ⟨TestForge.oneLine_caseLines (hn.append (.literal (by decide))) (hn.append (.literal (by decide)))
      hsuccess,
    TestForge.oneLine_caseLines (hn.append (.literal (by decide))) (hn.append (.literal (by decide)))
      herror⟩

theorem Dependency.oneLine_argument {d : Dependency} (h : OneLine d.name) : OneLine d.argument :=
  ((OneLine.append (.literal (by decide)) h).append (.literal (by decide))).append h

theorem oneLine_argumentLines {dependencies : List Dependency}
    (h : ∀ d ∈ dependencies, OneLine d.name) :
    ∀ line ∈ argumentLines dependencies, OneLine line := by
  intro line hline
  obtain ⟨i, hi, rfl⟩ := List.mem_mapIdx.1 hline
  refine (Dependency.oneLine_argument (h _ (List.getElem_mem hi))).append ?_
  split <;> exact .literal (by decide)

namespace ServiceModel

/-- No name, type or path that an artifact shows has a line feed. -/
structure Unbroken (model : ServiceModel) : Prop where
  packageName : OneLine model.packageName
  className : OneLine model.className
  importPaths : ∀ path ∈ model.importPaths, OneLine path
  dependencies : ∀ d ∈ model.dependencies, OneLine d.name ∧ OneLine d.typeName
  methods : ∀ m ∈ model.testableMethods, OneLine m.name

variable {model : ServiceModel} (style : TemplateStyle) (intent : TestIntent)

theorem Unbroken.instanceName (h : model.Unbroken) : OneLine model.instanceName := by
  have hclass := h.className
  unfold ServiceModel.instanceName OneLine at *
  cases hc : model.className.toList with
  | nil => exact List.not_mem_nil
  | cons c cs =>
      rw [hc, List.mem_cons, not_or] at hclass
      rw [String.toList_ofList, List.mem_append, not_or]
      exact ⟨fun hfeed => hclass.1 (eq_feed_of_mem_lowerCase hfeed).symm, hclass.2⟩

theorem oneLine_fixedLines : ∀ line ∈ fixedLines, OneLine line := by
  simp only [fixedLines, harnessLines, testLines, List.cons_append, List.nil_append,
    List.forall_mem_cons]
  exact ⟨.literal (by decide), .literal (by decide), .literal (by decide), .literal (by decide),
    .literal (by decide), .literal (by decide), .literal (by decide), .literal (by decide),
    .literal (by decide), .literal (by decide), .literal (by decide), .literal (by decide),
    .literal (by decide), .literal (by decide), .literal (by decide), .literal (by decide),
    .literal (by decide), List.forall_mem_nil _⟩

theorem Unbroken.headingLines (h : model.Unbroken) :
    ∀ line ∈ model.headingLines style intent, OneLine line :=
  forall_mem_headingLines style intent oneLine_fixedLines
    (OneLine.append (.literal (by decide)) h.packageName)
    (fun path hpath => OneLine.append (.literal (by decide)) (h.importPaths path hpath))
    ((OneLine.append (.literal (by decide)) h.className).append (.literal (by decide)))

theorem Unbroken.lines (h : model.Unbroken) :
    ∀ line ∈ model.lines style intent, OneLine line := by
  have hmocks : ∀ line ∈ model.dependencies.flatMap Dependency.mockLines, OneLine line := by
    rw [List.forall_mem_flatMap]
    intro d hd
    simp only [Dependency.mockLines, List.forall_mem_cons]
    exact ⟨.literal (by decide), oneLine_propertyLine (h.dependencies d hd).1 (h.dependencies d hd).2,
      .literal (by decide), List.forall_mem_nil _⟩
  have hclass : OneLine ("class " ++ model.className ++ "Test \x7b") :=
    (OneLine.append (.literal (by decide)) h.className).append (.literal (by decide))
  have hsetUp : OneLine model.setUpLine :=
    (((OneLine.append (.literal (by decide)) h.instanceName).append (.literal (by decide))).append
      h.className).append (.literal (by decide))
  have hcases : ∀ line ∈ model.testableMethods.flatMap (Method.caseLines model.instanceName),
      OneLine line := by
    rw [List.forall_mem_flatMap]
    exact fun m hm => Method.oneLine_caseLines h.instanceName (h.methods m hm)
  simp only [ServiceModel.lines, openingLines, instanceLines, closingLines, List.forall_mem_append,
    List.forall_mem_cons]
  exact ⟨⟨h.headingLines style intent, hclass, .literal (by decide), List.forall_mem_nil _⟩, hmocks,
    ⟨oneLine_propertyLine h.instanceName h.className, .literal (by decide), .literal (by decide),
      .literal (by decide), .literal (by decide), List.forall_mem_nil _⟩,
    hsetUp, oneLine_argumentLines fun d hd => (h.dependencies d hd).1,
    .literal (by decide), .literal (by decide), hcases, .literal (by decide),
    List.forall_mem_nil _⟩

/-- The lines that an artifact is read as. The last is what follows the last line feed. -/
theorem Unbroken.textLines_render (h : model.Unbroken) :
    textLines (model.render style intent) = model.lines style intent ++ [""] := by
  rw [render_eq_unlines, textLines_unlines (h.lines style intent)]

end ServiceModel

end TestForge
