import TestForge.Proofs.Artifact.Members
import TestForge.Proofs.FileSystem.Names
import TestForge.Proofs.Operation.LeftBehind
import TestForge.Toolchain.Gradle

/-!
# The class that is run

A run of the build tool filters tests by the stem of the test's path. The class that a rendered test
declares is named after the class of the service. These are two names: one comes from a path, the
other from the source or from an overview of it.
-/

namespace TestForge

open Toolchain

/-! ## Filters -/

namespace Gradle

/-- The arguments of the build tool for a call. -/
def argumentsOf (s : ToolchainSettings) (e : Event) : List String :=
  match e.answer with
  | .compile _ => compileArguments s e.target
  | .run _ => testArguments s e.target
  | .coverage _ => coverageArguments s e.target

/-- The tests that arguments ask for: what stands behind the first `--tests`. -/
def filter? : List String → Option String
  | [] => none
  | argument :: rest => if argument = "--tests" then rest.head? else filter? rest

theorem filter?_testArguments (s : ToolchainSettings) (target : String) :
    filter? (testArguments s target) = some (Layout.testClass target) := by
  have htask : task s target "test" ≠ "--tests" := by
    intro he
    have hc := congrArg (fun text => text.toList.head?) he
    simp [task] at hc
  rw [testArguments, filter?, if_neg htask]
  rfl

end Gradle

/-! ## Declarations -/

theorem ServiceModel.render_class (model : ServiceModel) (style : TemplateStyle)
    (intent : TestIntent) :
    ∃ before after, model.render style intent =
      before ++ ("@ExtendWith(MockKExtension::class)\nclass " ++ model.className ++
        "Test \x7b\n") ++ after := by
  have hopen : "Test \x7b\n\n" = "Test \x7b\n" ++ "\n" := by simp
  obtain ⟨heading, -, hr⟩ := model.render_members style intent
  refine ⟨String.join (heading.map (Segment.value model intent)),
    "\n" ++ (String.join (model.declarations.map Declaration.text) ++ "\x7d\n"), ?_⟩
  rw [hr, hopen]
  simp only [String.append_assoc]

/-! ## Calls of a generation -/

theorem CallTrace.mem_events {t : CallTrace} {root target : String} {e : Event}
    (h : e ∈ t.events root target) : e.root = root ∧ e.target = target := by
  simp only [events, List.mem_append, List.mem_cons, List.mem_map] at h
  rcases h with ⟨c, -, rfl⟩ | rfl | ⟨c, -, rfl⟩ | ⟨c, -, rfl⟩ <;> exact ⟨rfl, rfl⟩

namespace Dispatcher

variable {σ : Type}

/-- A generation that calls the toolchain has read its service, and calls it for its test. -/
theorem mem_generateCalls {d : Dispatcher σ} (hr : d.rules.Reachable) {r : GenerateRequest}
    {intent : TestIntent} {w : World σ} {e : Event} (he : e ∈ d.generateCalls r intent w) :
    e.target = r.target ∧
      ∃ source, w.files.readText (Path.join r.projectRoot r.servicePath) = .ok source := by
  have hg := generation_runGeneration d.logged (intentOperation intent) r intent w.logging
  unfold generateCalls generate generateAs at he
  generalize d.logged.runGeneration (intentOperation intent) r intent w.logging = generated
    at hg he
  cases hg with
  | rejected hc => cases he
  | unreadable hc hx => cases he
  | unwritten hc hx hw => cases he
  | unverified hc hx hw hv => cases he
  | verified hc hx hw hv hy =>
      obtain ⟨t, ht⟩ := verification_traced hr hy
      have hcalls := ht.calls
      have hmem : e ∈ t.events r.projectRoot r.target := by
        rw [World.calls] at he
        rw [World.calls] at hcalls
        rw [hcalls] at he
        exact he
      refine ⟨(CallTrace.mem_events hmem).2, ?_⟩
      cases hread : w.files.readText (Path.join r.projectRoot r.servicePath) with
      | ok source => exact ⟨source, rfl⟩
      | error cause =>
          rw [World.logging, World.map_files, extract_error hread] at hx
          cases hx

/-- The class that the build tool is asked to run is the one that the test declares. -/
def RunsDeclared (s : ToolchainSettings) (e : Event) (model : ServiceModel) : Prop :=
  Gradle.filter? (Gradle.argumentsOf s e) = some (model.className ++ "Test")

/-- The overview names no class. -/
def Unnamed (tree : SymbolTree) : Prop :=
  ∀ name, tree.name = some name → Text.isAllBlank name.toList = true

theorem className_of_unnamed {tree : SymbolTree} (h : Unnamed tree) (servicePath : String) :
    tree.className servicePath = Layout.testClass servicePath := by
  unfold SymbolTree.className
  cases hn : tree.name with
  | none => rfl
  | some name =>
      exact if_pos (h name hn)

/-! ## An overview with another name -/

/-- The class is said to be `Order`, in a file `OrderTest.kt`. -/
def renamedOverview : GenerateRequest :=
  ⟨"/p", "OrderTest.kt", some ⟨some "Order", []⟩, none, true, 3⟩

theorem run_steady {root target : String} {maxRetries : UInt32}
    {w w' : World (List Event × Unit)} {log : StepLog}
    (h : (steady.logged.verification root target).verify maxRetries false w = (log, w')) :
    ∃ e ∈ w'.calls, ∃ result, e.answer = .run result := by
  rw [logged_verification] at h
  have hrun := Verification.verificationRun_verify (steady.verification root target).logged
    maxRetries false w
  rw [h] at hrun
  cases hrun with
  | notCompiled hc =>
      cases hc with
      | usedUp ha _ => cases ha
      | unrepaired ha _ _ => cases ha
      | repaired ha _ _ _ => cases ha
  | tested hc ht =>
      cases ht with
      | succeeds ha =>
          obtain ⟨ran, -, hcalls⟩ := Verification.attempt_test_ok ha
          rw [hcalls]
          exact ⟨_, List.mem_append_right _ (List.mem_singleton_self _), .ok ran, rfl⟩
      | usedUp ha _ => cases ha
      | unrepaired ha _ _ => cases ha
      | repaired ha _ _ _ => cases ha

theorem run_renamedOverview :
    ∃ e ∈ steady.generateCalls renamedOverview .unit .oneTest,
      ∃ result, e.answer = .run result := by
  obtain ⟨x, files, log, w', hy, hrun⟩ := runGeneration_oneTest steady.logged .generateUnitTest
    (r := renamedOverview) .unit (w := World.oneTest.logging) rfl (by decide) rfl rfl
    (by decide) rfl
  have hcalls : steady.generateCalls renamedOverview .unit .oneTest = w'.calls := by
    unfold generateCalls generate generateAs intentOperation
    rw [hrun]
  rw [hcalls]
  exact run_steady hy

theorem extract_renamedOverview :
    ∃ x, extract World.oneTest.files "com.example" "/p" "OrderTest.kt" renamedOverview.symbols =
      .ok x ∧ x.model.className = "Order" := by
  exact ⟨_, extract_ok World.readText_oneTest _ _, by decide⟩

/-! ## The class that is run -/

/-- A generation that gets as far as to run its test asks the build tool for the class that has the
stem of the test's path for its name. The test declares the class of the service with `Test` behind
its name. Where the test stands where the layout puts it, these are the same if and only if the
class of the service has the stem of its path for its name, and always if an overview is given that
names no class. -/
theorem ran_class (d : Dispatcher σ) (hr : d.rules.Reachable) (s : ToolchainSettings)
    (r : GenerateRequest) (intent : TestIntent) (w : World σ) {e : Event}
    (he : e ∈ d.generateCalls r intent w) {result : Except ToolFailure TestCounts}
    (hrun : e.answer = .run result) :
    ∃ x, extract w.files d.defaultPackage r.projectRoot r.servicePath r.symbols = .ok x ∧
      (∃ before after, d.artifactOf r intent x w =
        before ++ ("@ExtendWith(MockKExtension::class)\nclass " ++ x.model.className ++
          "Test \x7b\n") ++ after) ∧
      Gradle.filter? (Gradle.argumentsOf s e) = some (Layout.testClass r.target) ∧
      (RunsDeclared s e x.model ↔ Layout.testClass r.target = x.model.className ++ "Test") ∧
      (r.target = Layout.testPath r.servicePath → w.files.Reached w.files.workingDirectory →
        (RunsDeclared s e x.model ↔ x.model.className = Layout.testClass r.servicePath) ∧
        ∀ tree, r.symbols = some tree → Unnamed tree → RunsDeclared s e x.model) := by
  obtain ⟨htarget, source, hread⟩ := mem_generateCalls hr he
  have hx := extract_ok hread d.defaultPackage r.symbols
  have hfilter : Gradle.filter? (Gradle.argumentsOf s e) = some (Layout.testClass r.target) := by
    rw [Gradle.argumentsOf, hrun, ← htarget]
    exact Gradle.filter?_testArguments s e.target
  have hdeclared (model : ServiceModel) :
      RunsDeclared s e model ↔ Layout.testClass r.target = model.className ++ "Test" := by
    rw [RunsDeclared, hfilter, Option.some.injEq]
  refine ⟨_, hx, ServiceModel.render_class _ _ _, hfilter, hdeclared _, ?_⟩
  intro hlayout hwd
  obtain ⟨content, hbytes, -⟩ := FileSystem.readText_ok_iff.1 hread
  have hname := FileSystem.isName_of_readBytes hwd hbytes
  rw [FileSystem.lastPiece_join] at hname
  have hinferred (model : ServiceModel) :
      RunsDeclared s e model ↔ model.className = Layout.testClass r.servicePath := by
    rw [hdeclared, hlayout, Layout.testClass_testPath hname]
    constructor
    · intro hsame
      exact (String.append_left_inj "Test").1 hsame.symm
    · intro hsame
      rw [hsame]
  refine ⟨hinferred _, fun tree ht hu => (hinferred _).2 ?_⟩
  rw [ht]
  exact className_of_unnamed hu r.servicePath

theorem ran_class_renamedOverview :
    ∃ e ∈ steady.generateCalls renamedOverview .unit .oneTest, (∃ result, e.answer = .run result) ∧
      ∃ x, extract World.oneTest.files steady.defaultPackage renamedOverview.projectRoot
          renamedOverview.servicePath renamedOverview.symbols = .ok x ∧
        Gradle.filter? (Gradle.argumentsOf {} e) = some "OrderTestTest" ∧
        (RunsDeclared {} e x.model ↔ x.model.className = "OrderTest") := by
  obtain ⟨e, he, result, hrun⟩ := run_renamedOverview
  obtain ⟨x, hx, -, hfilter, -, hinferred⟩ :=
    ran_class steady .standard {} renamedOverview .unit .oneTest he hrun
  have htarget : Layout.testClass renamedOverview.target = "OrderTestTest" := by
    decide
  have hservice : Layout.testClass renamedOverview.servicePath = "OrderTest" := by
    decide
  rw [htarget] at hfilter
  rw [hservice] at hinferred
  exact ⟨e, he, ⟨result, hrun⟩, x, hx, hfilter,
    (hinferred (by decide) (FileSystem.reached_nil _)).1⟩

/-- The test that is run is called `OrderTestTest`, the class that is declared `OrderTest`. -/
theorem undeclared_renamedOverview :
    ∃ e ∈ steady.generateCalls renamedOverview .unit .oneTest, (∃ result, e.answer = .run result) ∧
      ∃ x, extract World.oneTest.files steady.defaultPackage renamedOverview.projectRoot
          renamedOverview.servicePath renamedOverview.symbols = .ok x ∧
        ∀ s, ¬RunsDeclared s e x.model := by
  obtain ⟨e, he, result, hrun⟩ := run_renamedOverview
  obtain ⟨x, hx, hname⟩ := extract_renamedOverview
  have htarget : e.target = "OrderTestTest.kt" := by
    rw [(mem_generateCalls (d := steady) .standard he).1]
    decide
  refine ⟨e, he, ⟨result, hrun⟩, x, hx, fun s hs => ?_⟩
  rw [RunsDeclared, Gradle.argumentsOf, hrun, Gradle.filter?_testArguments, htarget, hname] at hs
  revert hs
  decide

end Dispatcher

end TestForge
