import Mathlib.Data.List.Nodup
import TestForge.Artifact.Rendering
import TestForge.Proofs.Service.Signature
import TestForge.Service.Extraction

/-!
# The members of a test class

What a rendered artifact declares, one member after the other. The members have the names of the
methods and collaborators of the service, with a suffix or as they are. So they are distinct where
those are, and nothing tells two methods or two collaborators with one name apart.
-/

namespace TestForge

open Text

/-! ## Names between backquotes -/

/-- The texts between a backquote and the next, from the left. -/
def quoted (s : List Char) : List (List Char) :=
  match s with
  | [] => []
  | c :: cs =>
    if c = '\x60' then
      match h : cutAtChar? '\x60' cs with
      | some (name, rest) =>
        have := cutAtChar?_length h
        name :: quoted rest
      | none => []
    else quoted cs
  termination_by s.length

theorem notMem_literal {s : List Char} (h : '\x60' ∉ s) : '\x60' ∉ (String.ofList s).toList := by
  rw [String.toList_ofList]
  exact h

theorem quoted_append {s : List Char} (h : '\x60' ∉ s) (rest : List Char) :
    quoted (s ++ rest) = quoted rest := by
  induction s with
  | nil => rfl
  | cons c s ih =>
      simp only [List.mem_cons, not_or] at h
      rw [List.cons_append, quoted, if_neg (Ne.symm h.1), ih h.2]

theorem quoted_name {name : List Char} (h : '\x60' ∉ name) (rest : List Char) :
    quoted ('\x60' :: (name ++ '\x60' :: rest)) = name :: quoted rest := by
  have hcut := cutAtChar?_append h rest
  rw [quoted, if_pos rfl]
  split
  · rename_i hfound
    rw [hcut] at hfound
    cases hfound
    rfl
  · rename_i hnone
    rw [hcut] at hnone
    cases hnone

/-! ## Declarations -/

inductive Declaration where
  | property (marker name typeName : String)
  | setUp (body : String)
  | test (title name body : String)

namespace Declaration

def text : Declaration → String
  | .property marker name typeName =>
    marker ++ "    private lateinit var " ++ name ++ ": " ++ typeName ++ "\n\n"
  | .setUp body => "    @BeforeEach\n    fun setUp() \x7b\n" ++ body ++ "    \x7d\n"
  | .test title name body =>
    "\n    @Test\n    @DisplayName(\"" ++ title ++ "\")\n    fun `" ++ name ++ "`() \x7b\n" ++
      body ++ "    \x7d\n"

def property? : Declaration → Option String
  | .property _ name _ => some name
  | _ => none

def test? : Declaration → Option String
  | .test _ name _ => some name
  | _ => none

end Declaration

def Dependency.declaration (d : Dependency) : Declaration :=
  .property "    @MockK\n" d.name d.typeName

/-- The success case of a method and its error case. -/
def Method.declarations (inst : String) (m : Method) : List Declaration :=
  [.test (m.name ++ " - success") (m.name ++ "_success")
      ("        // Given: stub collaborator responses here\n\n" ++
        "        // When\n        val result = " ++ inst ++ "." ++ m.name ++ "()\n\n" ++
        "        // Then\n        assertNotNull(result)\n"),
    .test (m.name ++ " - error") (m.name ++ "_error")
      ("        // Given: stub a failing collaborator here\n\n" ++
        "        // When & Then\n        assertThrows<Exception> \x7b\n            " ++
        inst ++ "." ++ m.name ++ "()\n        \x7d\n")]

namespace ServiceModel

def setUpBody (model : ServiceModel) : String :=
  "        MockKAnnotations.init(this)\n        " ++ model.instanceName ++ " = " ++
    model.className ++ "(\n" ++ arguments model.dependencies ++ "        )\n"

/-- The members of the test class in the order of the text. -/
def declarations (model : ServiceModel) : List Declaration :=
  model.dependencies.map Dependency.declaration ++
    ([.property "" model.instanceName model.className, .setUp model.setUpBody] ++
      model.testableMethods.flatMap (Method.declarations model.instanceName))

def testFunctions (model : ServiceModel) : List String :=
  model.declarations.filterMap Declaration.test?

def properties (model : ServiceModel) : List String :=
  model.declarations.filterMap Declaration.property?

end ServiceModel

/-! ## The text of the members -/

theorem Dependency.text_declaration (d : Dependency) : d.declaration.text = d.mock := by
  have hmock : "    @MockK\n    private lateinit var " =
      "    @MockK\n" ++ "    private lateinit var " := by simp
  unfold declaration Declaration.text mock
  rw [hmock]

theorem Method.text_declarations (inst : String) (m : Method) :
    String.join ((m.declarations inst).map Declaration.text) = m.cases inst := by
  have hsuccess : " - success\")\n    fun `" = " - success" ++ "\")\n    fun `" := by simp
  have herror : " - error\")\n    fun `" = " - error" ++ "\")\n    fun `" := by simp
  have hgiven : "_success`() \x7b\n        // Given: stub collaborator responses here\n\n" =
      "_success" ++ ("`() \x7b\n" ++ "        // Given: stub collaborator responses here\n\n") := by
    simp
  have hfail : "_error`() \x7b\n        // Given: stub a failing collaborator here\n\n" =
      "_error" ++ ("`() \x7b\n" ++ "        // Given: stub a failing collaborator here\n\n") := by
    simp
  have hthen : "        // Then\n        assertNotNull(result)\n    \x7d\n" =
      "        // Then\n        assertNotNull(result)\n" ++ "    \x7d\n" := by simp
  have hthrows : "()\n        \x7d\n    \x7d\n" = "()\n        \x7d\n" ++ "    \x7d\n" := by simp
  unfold cases successCase errorCase declarations
  rw [hsuccess, herror, hgiven, hfail, hthen, hthrows, List.map_cons, List.map_cons, List.map_nil,
    String.join_cons, String.join_cons, String.join_nil, String.append_empty]
  unfold Declaration.text
  simp only [String.append_assoc]

theorem join_flatMap {α : Type} (f : α → List String) (l : List α) :
    String.join (l.flatMap f) = String.join (l.map fun a => String.join (f a)) := by
  induction l with
  | nil => rfl
  | cons a l ih => rw [List.flatMap_cons, String.join_append, ih, List.map_cons, String.join_cons]

/-- What stands in front of the class: texts without backquotes and slots for other things than its
members. -/
inductive Segment.Front : Segment → Prop where
  | text {s : String} (h : '\x60' ∉ s.toList) : Front (.text s)
  | packageDeclaration : Front (.slot .packageDeclaration)
  | imports : Front (.slot .imports)
  | intentImport : Front (.slot .intentImport)
  | intentTag : Front (.slot .intentTag)
  | serviceName : Front (.slot .serviceName)

theorem notMem_harnessImports : '\x60' ∉ harnessImports.toList := by
  unfold harnessImports
  simp only [String.toList_append, List.mem_append, not_or]
  and_intros <;> exact notMem_literal (by decide)

theorem notMem_testImports : '\x60' ∉ testImports.toList := by
  unfold testImports
  simp only [String.toList_append, List.mem_append, not_or]
  and_intros <;> exact notMem_literal (by decide)

/-- A template is a heading and the class. -/
theorem template_front (style : TemplateStyle) : ∃ (front : List Segment) (text : String),
    (∀ segment ∈ front ++ [.text text], segment.Front) ∧
      style.template = front ++
        .text (text ++ "@ExtendWith(MockKExtension::class)\nclass ") :: classTemplate := by
  have htests {text : String} (h : '\x60' ∉ text.toList) :
      '\x60' ∉ (testImports ++ text).toList := by
    rw [String.toList_append, List.mem_append, not_or]
    exact ⟨notMem_testImports, h⟩
  cases style with
  | frameworkIntegrated =>
      refine ⟨[.slot .packageDeclaration, .slot .imports, .text harnessImports, .slot .intentImport,
        .text (testImports ++ "import org.springframework.boot.test.context.SpringBootTest\n\n"),
        .slot .intentTag], "@SpringBootTest\n", ?_, rfl⟩
      simp only [List.cons_append, List.nil_append, List.forall_mem_cons]
      exact ⟨.packageDeclaration, .imports, .text notMem_harnessImports, .intentImport,
        .text (htests (notMem_literal (by decide))), .intentTag,
        .text (notMem_literal (by decide)), List.forall_mem_nil _⟩
  | isolatedMock =>
      refine ⟨[.slot .packageDeclaration, .slot .imports, .text harnessImports, .slot .intentImport,
        .text (testImports ++ "\n/**\n * Tests for ["), .slot .serviceName,
        .text "] with mocked collaborators.\n */\n", .slot .intentTag], "", ?_, rfl⟩
      simp only [List.cons_append, List.nil_append, List.forall_mem_cons]
      exact ⟨.packageDeclaration, .imports, .text notMem_harnessImports, .intentImport,
        .text (htests (notMem_literal (by decide))), .serviceName,
        .text (notMem_literal (by decide)), .intentTag, .text (notMem_literal List.not_mem_nil),
        List.forall_mem_nil _⟩

namespace ServiceModel

variable (model : ServiceModel) (style : TemplateStyle) (intent : TestIntent)

theorem text_mocks : String.join ((model.dependencies.map Dependency.declaration).map
    Declaration.text) = String.join (model.dependencies.map Dependency.mock) := by
  rw [List.map_map]
  exact congrArg String.join (List.map_congr_left fun d _ => d.text_declaration)

theorem text_tests : String.join ((model.testableMethods.flatMap
    (Method.declarations model.instanceName)).map Declaration.text) =
      String.join (model.testableMethods.map (Method.cases model.instanceName)) := by
  rw [List.map_flatMap, join_flatMap]
  exact congrArg String.join (List.map_congr_left fun m _ => m.text_declarations _)

/-- The segments of a class are its name, its members one after the other and a brace. -/
theorem value_classTemplate :
    String.join (classTemplate.map (Segment.value model intent)) =
      model.className ++ ("Test \x7b\n\n" ++
        (String.join (model.declarations.map Declaration.text) ++ "\x7d\n")) := by
  have hinstance : (Declaration.property "" model.instanceName model.className).text =
      "    private lateinit var " ++ (model.instanceName ++ (": " ++ (model.className ++
        "\n\n"))) := by
    unfold Declaration.text
    simp only [String.empty_append, String.append_assoc]
  have hsetUp : (Declaration.setUp model.setUpBody).text =
      "    @BeforeEach\n    fun setUp() \x7b\n" ++
        ("        MockKAnnotations.init(this)\n        " ++ (model.instanceName ++ (" = " ++
          (model.className ++ ("(\n" ++ (arguments model.dependencies ++ ("        )\n" ++
            "    \x7d\n"))))))) := by
    unfold Declaration.text setUpBody
    simp only [String.append_assoc]
  have htemplate : classTemplate =
      [.slot .serviceName, .text "Test \x7b\n\n", .slot .dependencyMocks,
        .text "    private lateinit var ", .slot .instanceName, .text ": ", .slot .serviceName,
        .text ("\n\n" ++ ("    @BeforeEach\n    fun setUp() \x7b\n" ++
          "        MockKAnnotations.init(this)\n        ")),
        .slot .instanceName, .text " = ", .slot .serviceName, .text "(\n", .slot .constructorParams,
        .text ("        )\n" ++ "    \x7d\n"), .slot .testMethods, .text "\x7d\n"] := rfl
  simp only [htemplate, declarations, List.map_append, List.map_cons, List.map_nil,
    String.join_append, String.join_cons, String.join_nil, Segment.value, Slot.value, text_mocks,
    text_tests, hinstance, hsetUp, String.append_assoc, String.append_empty]

/-- An artifact is a heading and the class. -/
theorem render_members : ∃ heading : List Segment, (∀ segment ∈ heading, segment.Front) ∧
    model.render style intent = String.join (heading.map (Segment.value model intent)) ++
      ("@ExtendWith(MockKExtension::class)\nclass " ++ (model.className ++ ("Test \x7b\n\n" ++
        (String.join (model.declarations.map Declaration.text) ++ "\x7d\n")))) := by
  obtain ⟨front, text, hfront, ht⟩ := template_front style
  refine ⟨front ++ [.text text], hfront, ?_⟩
  rw [render, ht, List.map_append, List.map_cons, String.join_append, String.join_cons,
    value_classTemplate, List.map_append, String.join_append]
  simp only [List.map_cons, List.map_nil, String.join_cons, String.join_nil, Segment.value,
    String.append_assoc, String.append_empty]

end ServiceModel

/-! ## Reading the names back -/

/-- No text that a declaration is made of has a backquote. -/
def Declaration.Unquoted : Declaration → Prop
  | .property marker name typeName =>
    '\x60' ∉ marker.toList ∧ '\x60' ∉ name.toList ∧ '\x60' ∉ typeName.toList
  | .setUp body => '\x60' ∉ body.toList
  | .test title name body =>
    '\x60' ∉ title.toList ∧ '\x60' ∉ name.toList ∧ '\x60' ∉ body.toList

theorem Declaration.quoted_text {d : Declaration} (h : d.Unquoted) (rest : List Char) :
    quoted (d.text.toList ++ rest) = (d.test?.map String.toList).toList ++ quoted rest := by
  cases d with
  | property marker name typeName =>
      obtain ⟨ha, hn, ht⟩ := h
      unfold text test?
      simp only [String.toList_append, List.append_assoc]
      rw [quoted_append ha, quoted_append (notMem_literal (by decide)), quoted_append hn,
        quoted_append (notMem_literal (by decide)), quoted_append ht,
        quoted_append (notMem_literal (by decide))]
      rfl
  | setUp body =>
      unfold text test?
      simp only [String.toList_append, List.append_assoc]
      rw [quoted_append (notMem_literal (by decide)), quoted_append h,
        quoted_append (notMem_literal (by decide))]
      rfl
  | test title name body =>
      obtain ⟨ht, hn, hb⟩ := h
      have hopen : "\")\n    fun `".toList = "\")\n    fun ".toList ++ ['\x60'] := by decide
      have hclose : "`() \x7b\n".toList = '\x60' :: "() \x7b\n".toList := by decide
      unfold text test?
      simp only [String.toList_append, List.append_assoc, hopen, hclose, List.cons_append,
        List.nil_append]
      rw [quoted_append (notMem_literal (by decide)), quoted_append ht,
        quoted_append (notMem_literal (by decide)), quoted_name hn,
        quoted_append (notMem_literal (by decide)), quoted_append hb,
        quoted_append (notMem_literal (by decide))]
      rfl

theorem quoted_declarations {declarations : List Declaration}
    (h : ∀ d ∈ declarations, d.Unquoted) (rest : List Char) :
    quoted ((String.join (declarations.map Declaration.text)).toList ++ rest) =
      (declarations.filterMap Declaration.test?).map String.toList ++ quoted rest := by
  induction declarations with
  | nil => rfl
  | cons d declarations ih =>
      rw [List.map_cons, String.join_cons, String.toList_append, List.append_assoc,
        d.quoted_text (h d List.mem_cons_self), ih fun d' hd => h d' (List.mem_cons_of_mem _ hd),
        ← List.append_assoc, List.filterMap_cons]
      cases d.test? with
      | none => rfl
      | some name => rfl

theorem notMem_join {texts : List String} (h : ∀ text ∈ texts, '\x60' ∉ text.toList) :
    '\x60' ∉ (String.join texts).toList := by
  rw [String.toList_join, List.mem_flatMap]
  rintro ⟨text, ht, hc⟩
  exact h text ht hc

theorem SourcePatterns.mem_distinct_iff {seen all : List String} {s : String} :
    s ∈ distinct seen all ↔ s ∈ all ∧ s ∉ seen := by
  induction all generalizing seen with
  | nil => simp [distinct]
  | cons t all ih =>
      simp only [distinct]
      split
      · rename_i ht
        rw [ih, List.mem_cons]
        constructor
        · exact fun h => ⟨Or.inr h.1, h.2⟩
        · rintro ⟨rfl | h, hs⟩
          · exact absurd ht hs
          · exact ⟨h, hs⟩
      · rename_i ht
        rw [List.mem_cons, ih, List.mem_cons, List.mem_cons, not_or]
        constructor
        · rintro (rfl | ⟨h, -, hs⟩)
          · exact ⟨Or.inl rfl, ht⟩
          · exact ⟨Or.inr h, hs⟩
        · rintro ⟨rfl | h, hs⟩
          · exact Or.inl rfl
          · by_cases he : s = t
            · exact Or.inl he
            · exact Or.inr ⟨h, he, hs⟩

namespace ServiceModel

/-- No name, type or path that an artifact shows has a backquote. -/
structure Unquoted (model : ServiceModel) : Prop where
  packageName : '\x60' ∉ model.packageName.toList
  className : '\x60' ∉ model.className.toList
  instanceName : '\x60' ∉ model.instanceName.toList
  importPaths : ∀ path ∈ model.importPaths, '\x60' ∉ path.toList
  dependencies : ∀ d ∈ model.dependencies, '\x60' ∉ d.name.toList ∧ '\x60' ∉ d.typeName.toList
  methods : ∀ m ∈ model.testableMethods, '\x60' ∉ m.name.toList

variable {model : ServiceModel}

theorem Unquoted.segment (h : model.Unquoted) (intent : TestIntent) {segment : Segment}
    (hs : segment.Front) : '\x60' ∉ (segment.value model intent).toList := by
  cases hs with
  | text ht => exact ht
  | packageDeclaration =>
      simp only [Segment.value, Slot.value]
      split
      · exact notMem_literal List.not_mem_nil
      · simp only [String.toList_append, List.mem_append, not_or]
        exact ⟨⟨notMem_literal (by decide), h.packageName⟩, notMem_literal (by decide)⟩
  | imports =>
      refine notMem_join fun line hline => ?_
      obtain ⟨path, hpath, rfl⟩ := List.mem_map.1 hline
      simp only [String.toList_append, List.mem_append, not_or]
      have hunquoted := h.importPaths path (SourcePatterns.mem_distinct_iff.1 hpath).1
      exact ⟨⟨notMem_literal (by decide), hunquoted⟩, notMem_literal (by decide)⟩
  | intentImport =>
      cases intent with
      | unit => exact notMem_literal List.not_mem_nil
      | integration => exact notMem_literal (by decide)
  | intentTag =>
      cases intent with
      | unit => exact notMem_literal List.not_mem_nil
      | integration => exact notMem_literal (by decide)
  | serviceName => exact h.className

theorem notMem_arguments {dependencies : List Dependency}
    (h : ∀ d ∈ dependencies, '\x60' ∉ d.name.toList) :
    '\x60' ∉ (arguments dependencies).toList := by
  have hargument (d : Dependency) (hd : d ∈ dependencies) : '\x60' ∉ d.argument.toList := by
    unfold Dependency.argument
    simp only [String.toList_append, List.mem_append, not_or]
    exact ⟨⟨⟨notMem_literal (by decide), h d hd⟩, notMem_literal (by decide)⟩, h d hd⟩
  induction dependencies with
  | nil => decide
  | cons d dependencies ih =>
      have hrest := ih (fun d hd => h d (List.mem_cons_of_mem _ hd))
        fun d hd => hargument d (List.mem_cons_of_mem _ hd)
      cases dependencies with
      | nil =>
          unfold arguments
          simp only [String.toList_append, List.mem_append, not_or]
          exact ⟨hargument d List.mem_cons_self, notMem_literal (by decide)⟩
      | cons d' dependencies =>
          unfold arguments
          simp only [String.toList_append, List.mem_append, not_or]
          exact ⟨⟨hargument d List.mem_cons_self, notMem_literal (by decide)⟩, hrest⟩

theorem Unquoted.setUpBody (h : model.Unquoted) : '\x60' ∉ model.setUpBody.toList := by
  have harguments := notMem_arguments fun d hd => (h.dependencies d hd).1
  unfold ServiceModel.setUpBody
  simp only [String.toList_append, List.mem_append, not_or, harguments, h.className, h.instanceName,
    not_false_eq_true, and_true]
  and_intros <;> exact notMem_literal (by decide)

theorem Unquoted.test (h : model.Unquoted) {m : Method} (hm : m ∈ model.testableMethods)
    {d : Declaration} (hd : d ∈ m.declarations model.instanceName) : d.Unquoted := by
  rw [Method.declarations, List.mem_pair] at hd
  rcases hd with rfl | rfl
  · unfold Declaration.Unquoted
    simp only [String.toList_append, List.mem_append, not_or, h.methods m hm, h.instanceName,
      not_false_eq_true, true_and, and_true]
    and_intros <;> exact notMem_literal (by decide)
  · unfold Declaration.Unquoted
    simp only [String.toList_append, List.mem_append, not_or, h.methods m hm, h.instanceName,
      not_false_eq_true, true_and, and_true]
    and_intros <;> exact notMem_literal (by decide)

theorem Unquoted.declaration (h : model.Unquoted) {d : Declaration} (hd : d ∈ model.declarations) :
    d.Unquoted := by
  simp only [declarations, List.mem_append, List.mem_map, List.mem_pair, List.mem_flatMap] at hd
  rcases hd with ⟨c, hc, rfl⟩ | (rfl | rfl) | ⟨m, hm, hd⟩
  · exact ⟨notMem_literal (by decide), h.dependencies c hc⟩
  · exact ⟨notMem_literal (by decide), h.instanceName, h.className⟩
  · exact h.setUpBody
  · exact h.test hm hd

theorem Unquoted.quoted_render (h : model.Unquoted) (style : TemplateStyle) (intent : TestIntent) :
    quoted (model.render style intent).toList = model.testFunctions.map String.toList := by
  obtain ⟨heading, hfront, hr⟩ := model.render_members style intent
  have hheading : '\x60' ∉ (String.join (heading.map (Segment.value model intent))).toList := by
    refine notMem_join fun text ht => ?_
    obtain ⟨segment, hs, rfl⟩ := List.mem_map.1 ht
    exact h.segment intent (hfront segment hs)
  have hend : quoted "\x7d\n".toList = [] := by
    have hbrace := quoted_append (s := "\x7d\n".toList) (notMem_literal (by decide)) []
    rwa [List.append_nil, quoted] at hbrace
  simp only [hr, String.toList_append]
  rw [quoted_append hheading, quoted_append (notMem_literal (by decide)), quoted_append h.className,
    quoted_append (notMem_literal (by decide)), quoted_declarations fun d hd => h.declaration hd,
    hend, List.append_nil, testFunctions]

end ServiceModel

/-! ## Names of members -/

/-- The functions that test a method. -/
def caseNames (name : String) : List String :=
  [name ++ "_success", name ++ "_error"]

theorem success_ne_error (a b : String) : a ++ "_success" ≠ b ++ "_error" := by
  intro he
  have hlast := congrArg (fun s => s.toList.getLast?) he
  simp at hlast

theorem disjoint_caseNames {a b : String} :
    List.Disjoint (caseNames a) (caseNames b) ↔ a ≠ b := by
  constructor
  · rintro h rfl
    exact h List.mem_cons_self List.mem_cons_self
  · intro hne name ha hb
    simp only [caseNames, List.mem_cons, List.not_mem_nil, or_false] at ha hb
    rcases ha with rfl | rfl
    · rcases hb with hb | hb
      · exact hne ((String.append_left_inj "_success").1 hb)
      · exact success_ne_error a b hb
    · rcases hb with hb | hb
      · exact success_ne_error b a hb.symm
      · exact hne ((String.append_left_inj "_error").1 hb)

theorem nodup_caseNames (names : List String) : (names.flatMap caseNames).Nodup ↔ names.Nodup := by
  have hpair (name : String) : (caseNames name).Nodup := by
    rw [caseNames, List.nodup_cons, List.mem_singleton]
    exact ⟨success_ne_error name name, List.nodup_singleton _⟩
  rw [List.nodup_flatMap]
  constructor
  · rintro ⟨-, h⟩
    exact h.imp disjoint_caseNames.1
  · intro h
    exact ⟨fun name _ => hpair name, h.imp disjoint_caseNames.2⟩

namespace ServiceModel

variable (model : ServiceModel)

theorem testFunctions_eq :
    model.testFunctions = (model.testableMethods.map (·.name)).flatMap caseNames := by
  have hmocks : (model.dependencies.map Dependency.declaration).filterMap Declaration.test? =
      [] := by
    simp [Dependency.declaration, Declaration.test?]
  have htests : (model.testableMethods.flatMap
      (Method.declarations model.instanceName)).filterMap Declaration.test? =
        (model.testableMethods.map (·.name)).flatMap caseNames := by
    rw [List.filterMap_flatMap, List.flatMap_map]
    rfl
  rw [testFunctions, declarations, List.filterMap_append, List.filterMap_append, hmocks, htests]
  rfl

theorem properties_eq :
    model.properties = model.dependencies.map (·.name) ++ [model.instanceName] := by
  have hmocks : (model.dependencies.map Dependency.declaration).filterMap Declaration.property? =
      model.dependencies.map (·.name) := by
    rw [List.filterMap_map]
    exact congrFun List.filterMap_eq_map _
  have htests : (model.testableMethods.flatMap
      (Method.declarations model.instanceName)).filterMap Declaration.property? = [] := by
    rw [List.filterMap_flatMap]
    exact List.flatMap_eq_nil_iff.2 fun m _ => rfl
  rw [properties, declarations, List.filterMap_append, List.filterMap_append, hmocks, htests]
  rfl

theorem nodup_testFunctions :
    model.testFunctions.Nodup ↔ (model.testableMethods.map (·.name)).Nodup := by
  rw [testFunctions_eq, nodup_caseNames]

theorem nodup_properties :
    model.properties.Nodup ↔ (model.dependencies.map (·.name)).Nodup ∧
      model.instanceName ∉ model.dependencies.map (·.name) := by
  rw [properties_eq, List.nodup_append_comm, List.singleton_append, List.nodup_cons, and_comm]

end ServiceModel

/-! ## Names in a source -/

/-- A member of an overview that gets test cases. -/
def SymbolNode.Tested (node : SymbolNode) : Prop :=
  node.meaning = .method ∧ node.name.toList.head? ≠ some '_'

instance : DecidablePred SymbolNode.Tested := fun node =>
  inferInstanceAs (Decidable (node.meaning = .method ∧ node.name.toList.head? ≠ some '_'))

theorem names_methods (children : List SymbolNode) :
    ((children.filterMap SymbolNode.method?).filter fun m => !m.isPrivate).map (·.name) =
      (children.filter fun node => node.Tested).map (·.name) := by
  induction children with
  | nil => rfl
  | cons node children ih =>
      by_cases hmethod : node.meaning = .method
      · by_cases hpublic : node.name.toList.head? = some '_'
        · simpa [SymbolNode.method?, SymbolNode.Tested, hmethod, hpublic] using ih
        · simpa [SymbolNode.method?, SymbolNode.Tested, hmethod, hpublic] using ih
      · have hnone : node.method? = none := by
          unfold SymbolNode.method?
          split
          · rename_i h
            exact absurd h hmethod
          · rfl
        simpa [hnone, SymbolNode.Tested, hmethod] using ih

theorem SourcePatterns.isPrivate_method? {name rest : List Char} {m : Method}
    (h : SourcePatterns.method? name rest = some m) : m.isPrivate = false := by
  unfold SourcePatterns.method? at h
  split at h
  · cases h
  · obtain ⟨type, -, rfl⟩ := Option.map_eq_some_iff.1 h
    rfl

namespace Extraction

/-- The names of the methods that get test cases: those of the members of an overview that are
methods, but for a leading underscore, and without one those of the functions in the text. -/
def testedNames (symbols : Option SymbolTree) (source : String) : List String :=
  match symbols with
  | some tree =>
    (tree.children.filter fun node => node.Tested).map (·.name)
  | none => (SourcePatterns.methods source.toList).map (·.name)

/-- The names of the parameters of all constructors of an overview, and without one those of the
properties in the first parameter list of the first class in the text. -/
def collaboratorNames (symbols : Option SymbolTree) (source : String) : List String :=
  match symbols with
  | some tree => (tree.children.flatMap SymbolNode.dependencies).map (·.name)
  | none =>
    match SourcePatterns.named? "class".toList isWordChar source.toList with
    | some (_, afterName) => (SourcePatterns.constructorDependencies afterName).map (·.name)
    | none => []

variable (defaultPackage servicePath source : String) (symbols : Option SymbolTree)

theorem testableMethods_ofText :
    (ofText defaultPackage servicePath symbols source).model.testableMethods.map (·.name) =
      testedNames symbols source := by
  cases symbols with
  | some tree => exact names_methods tree.children
  | none =>
      refine congrArg (List.map Method.name) (List.filter_eq_self.2 fun m hm => ?_)
      obtain ⟨⟨name, rest⟩, -, hmethod⟩ := List.mem_filterMap.1 hm
      rw [SourcePatterns.isPrivate_method? hmethod]
      rfl

theorem dependencies_ofText :
    (ofText defaultPackage servicePath symbols source).model.dependencies.map (·.name) =
      collaboratorNames symbols source := by
  have hresolve (imports : List String) (dependencies : List Dependency) :
      (resolveImports imports dependencies).map (·.name) = dependencies.map (·.name) := by
    rw [resolveImports, List.map_map]
    rfl
  cases symbols with
  | some tree => exact hresolve _ _
  | none =>
      refine (hresolve _ _).trans ?_
      unfold collaboratorNames
      cases SourcePatterns.named? "class".toList isWordChar source.toList with
      | none => rfl
      | some found => rfl

/-- An artifact is a heading and a class with a mock for each collaborator, the instance, its set-up
and two functions for each method that is tested. The functions are distinct if and only if these
methods are, by their names, and the properties if and only if the collaborators are and none has
the name of the instance. -/
theorem members_distinct_iff (style : TemplateStyle) (intent : TestIntent) :
    let model := (ofText defaultPackage servicePath symbols source).model
    (∃ heading, model.render style intent = heading ++
      ("@ExtendWith(MockKExtension::class)\nclass " ++ (model.className ++ ("Test \x7b\n\n" ++
        (String.join (model.declarations.map Declaration.text) ++ "\x7d\n"))))) ∧
    (model.Unquoted →
      quoted (model.render style intent).toList = model.testFunctions.map String.toList) ∧
    model.testFunctions = (testedNames symbols source).flatMap caseNames ∧
    model.properties = collaboratorNames symbols source ++ [model.instanceName] ∧
    (model.testFunctions.Nodup ↔ (testedNames symbols source).Nodup) ∧
    (model.properties.Nodup ↔ (collaboratorNames symbols source).Nodup ∧
      model.instanceName ∉ collaboratorNames symbols source) := by
  intro model
  obtain ⟨heading, -, hr⟩ := model.render_members style intent
  rw [← testableMethods_ofText defaultPackage servicePath,
    ← dependencies_ofText defaultPackage servicePath]
  exact ⟨⟨_, hr⟩, fun h => h.quoted_render style intent, model.testFunctions_eq,
    model.properties_eq, model.nodup_testFunctions, model.nodup_properties⟩

/-! ## One name twice -/

/-- Two functions that differ in their parameters alone. -/
def overloads : String :=
  "class A \x7b fun m(): Int \x7b\x7d fun m(x: Int): Int \x7b\x7d \x7d"

/-- Two constructors that both take a store. -/
def twoConstructors : SymbolTree :=
  ⟨some "Order", [⟨some (.code 9), "Order", some "(store: Store)"⟩,
    ⟨some (.code 9), "Order", some "(store: Store, clock: Clock)"⟩]⟩

/-- A property with the name that the instance gets. -/
def ownName : String :=
  "class Order(private val order: Order)"

theorem model_overloads : (ofText "com.example" "A.kt" none overloads).model =
    ⟨"", "A", [], [], [⟨"m", "Int", some [], false⟩,
      ⟨"m", "Int", some [⟨"x", "Int"⟩], false⟩]⟩ := by
  decide +kernel

theorem unquoted_overloads :
    (ofText "com.example" "A.kt" none overloads).model.Unquoted := by
  have hinstance : (ofText "com.example" "A.kt" none overloads).model.instanceName = "a" := by
    decide
  constructor
  case instanceName => rw [hinstance]; decide
  all_goals
    rw [model_overloads]
    decide

theorem members_distinct_iff_overloads :
    (ofText "com.example" "A.kt" none overloads).model.Unquoted ∧
      quoted
          ((ofText "com.example" "A.kt" none overloads).model.render .isolatedMock .unit).toList =
        ["m_success", "m_error", "m_success", "m_error"].map String.toList := by
  have hnames : testedNames none overloads = ["m", "m"] := by decide +kernel
  obtain ⟨-, hquoted, hfunctions, -⟩ :=
    members_distinct_iff "com.example" "A.kt" overloads none .isolatedMock .unit
  refine ⟨unquoted_overloads, ?_⟩
  rw [hquoted unquoted_overloads, hfunctions, hnames]
  rfl

/-- The functions of two overloads have the same names, and so have the mocks of two constructors
that take the same and a mock and the instance. -/
theorem members_clash :
    (ofText "com.example" "A.kt" none overloads).model.testFunctions =
        ["m_success", "m_error", "m_success", "m_error"] ∧
      (ofText "com.example" "Order.kt" (some twoConstructors) "").model.properties =
        ["store", "store", "clock", "order"] ∧
      (ofText "com.example" "Order.kt" none ownName).model.properties = ["order", "order"] ∧
      ¬∀ (defaultPackage servicePath source : String) (symbols : Option SymbolTree),
        (ofText defaultPackage servicePath symbols source).model.testFunctions.Nodup ∧
          (ofText defaultPackage servicePath symbols source).model.properties.Nodup := by
  have hfunctions : (ofText "com.example" "A.kt" none overloads).model.testFunctions =
      ["m_success", "m_error", "m_success", "m_error"] := by decide +kernel
  refine ⟨hfunctions, by decide +kernel, by decide +kernel, fun h => ?_⟩
  have hdistinct := (h "com.example" "A.kt" overloads none).1
  rw [hfunctions] at hdistinct
  revert hdistinct
  decide

end Extraction

end TestForge
