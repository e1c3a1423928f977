import TestForge.Proofs.Operation.Calls
import TestForge.Proofs.Verification.RecordPlaces

/-!
# The test that is left behind

A generation leaves the test that it has rendered, rewritten once for each compilation whose failure
was repaired. What its report tells of the test is told of the test as it was rendered.
-/

namespace TestForge

/-! ## Reports -/

/-- A step of this name was completed. -/
def StepLog.Completes (log : StepLog) (name : String) : Prop :=
  ∃ s ∈ log.steps, s.name = name ∧ s.status = .completed

/-- What the step that writes a test tells of an artifact with a number of test methods. -/
def StepLog.TellsArtifact (log : StepLog) (artifact : String) (methods : Nat) : Prop :=
  ∀ s ∈ log.steps, s.name = "generate_test_code" → ∃ result, s.result = some result ∧
    result.get? "artifact_sha256" = some (.str (Sha256.ofText artifact)) ∧
    result.get? "test_methods_generated" = some (.nat methods)

theorem StepLog.TellsArtifact.absorb {log other : StepLog} {artifact : String} {methods : Nat}
    (h : log.TellsArtifact artifact methods)
    (ho : ∀ s ∈ other.steps, s.name ≠ "generate_test_code") :
    (log.absorb other).TellsArtifact artifact methods := by
  intro s hs hn
  rcases List.mem_append.1 hs with hs | hs
  · exact h s hs hn
  · obtain ⟨-, t, ht, he⟩ := mem_renumber hs
    rw [he] at hn
    exact absurd hn (ho t ht)

theorem Verification.VerificationRun.not_generated {σ : Type} {v : Verification σ}
    {maxRetries : UInt32} {recorder : Option AttemptRecorder} {w w' : World σ} {log : StepLog}
    (h : VerificationRun v maxRetries recorder w log w') :
    ∀ s ∈ log.steps, s.name ≠ "generate_test_code" := by
  cases h <;> simp [Phase.stepName]

namespace Dispatcher

variable {σ : Type} {d : Dispatcher σ}

theorem tellsArtifact_writtenLog (d : Dispatcher σ) (r : GenerateRequest) (intent : TestIntent)
    (x : Extraction) (w : World σ) :
    (d.writtenLog r intent x w).TellsArtifact (d.artifactOf r intent x w)
      (2 * (x.model.methods.filter fun m => !m.isPrivate).length) := by
  intro s hs hn
  simp only [writtenLog, List.mem_cons, List.not_mem_nil, or_false] at hs
  rcases hs with rfl | rfl
  · simp [analyzedStep] at hn
  · exact ⟨_, rfl, by simp [artifactResult, Json.get?, Json.members?, Json.lookup],
      by simp [artifactResult, Json.get?, Json.members?, Json.lookup, ServiceModel.caseCount,
        ServiceModel.testableMethods]⟩

/-- A test that was written is reported as written, whatever its verification comes to. -/
theorem completes_written {op : Operation} {r : GenerateRequest} {intent : TestIntent}
    {w : World σ} {x : Extraction} {files : FileSystem}
    (hc : r.check = .ok ())
    (hx : extract w.files d.defaultPackage r.projectRoot r.servicePath r.symbols = .ok x)
    (hw : writeArtifact r.projectRoot r.target (d.artifactOf r intent x w) w.files =
      (.ok (), files)) : (d.generateAs op r intent w).1.steps.Completes "generate_test_code" := by
  have hg := generation_runGeneration d op r intent w
  rcases hrun : d.runGeneration op r intent w with ⟨log, failure, w'⟩
  simp only [generateAs, hrun]
  rw [hrun] at hg
  have hmem : ∀ x : Extraction, ∃ s ∈ (d.writtenLog r intent x w).steps,
      s.name = "generate_test_code" ∧ s.status = .completed :=
    fun x => ⟨_, List.mem_cons_of_mem _ List.mem_cons_self, rfl, rfl⟩
  cases hg with
  | rejected hc' => simp [hc] at hc'
  | unreadable _ hx' => simp [hx] at hx'
  | unwritten _ hx' hw' =>
      rw [hx, Except.ok.injEq] at hx'
      subst hx'
      rw [hw] at hw'
      cases hw'
  | unverified _ _ _ _ => exact hmem _
  | @verified x _ _ _ _ _ _ _ _ =>
      obtain ⟨s, hs, hn⟩ := hmem x
      exact ⟨s, List.mem_append_left _ hs, hn⟩

/-! ## Files -/

/-- What is left of a test whose writing was reported: the text that was rendered, and after a
verification that text rewritten for the failures of the compilations that were repaired. The test
must not stand where attempts are recorded, which is below `.testsmith`. -/
theorem generated_text (d : Dispatcher σ) (hro : d.tools.ReadOnly) (hr : d.rules.Reachable)
    (op : Operation) (r : GenerateRequest) (intent : TestIntent) (w : World σ)
    (hapart : d.recordAttempts = true → ∀ seconds,
      (AttemptRecorder.start r.projectRoot r.target seconds).ApartFrom w.files
        (Path.join r.projectRoot r.target))
    (hwritten : (d.generateAs op r intent w).1.steps.Completes "generate_test_code") :
    ∃ x files final,
      extract w.files d.defaultPackage r.projectRoot r.servicePath r.symbols = .ok x ∧
      writeArtifact r.projectRoot r.target (d.artifactOf r intent x w) w.files = (.ok (), files) ∧
      (d.generateAs op r intent w).1.steps.TellsArtifact (d.artifactOf r intent x w)
        (2 * (x.model.methods.filter fun m => !m.isPrivate).length) ∧
      (d.generateAs op r intent w).2.files.readText (Path.join r.projectRoot r.target) =
        .ok final ∧
      (r.validate = false → final = d.artifactOf r intent x w) ∧
      (r.validate = true → ∃ log t, t.text = final ∧
        (d.generateAs op r intent w).1.steps = (d.writtenLog r intent x w).absorb log ∧
        (d.verification r.projectRoot r.target).Rewrites r.maxRetries d.recordAttempts
          { w with files := files } (d.artifactOf r intent x w) log
          (d.generateAs op r intent w).2 t) := by
  have hg := generation_runGeneration d op r intent w
  rcases hrun : d.runGeneration op r intent w with ⟨log, failure, w'⟩
  simp only [generateAs, hrun] at hwritten ⊢
  rw [hrun] at hg
  cases hg with
  | rejected _ => simp [StepLog.Completes, StepLog.empty] at hwritten
  | unreadable _ _ => simp [StepLog.Completes, unreadableStep] at hwritten
  | unwritten _ _ _ => simp [StepLog.Completes, analyzedStep, unwrittenStep] at hwritten
  | @unverified x files _ hx hw hv =>
      have hread := FileSystem.readText_of_readBytes (writeArtifact_ok hw).2
      exact ⟨x, files, d.artifactOf r intent x w, hx, hw, d.tellsArtifact_writtenLog r intent x w,
        hread, fun _ => rfl, fun hv' => by simp [hv] at hv'⟩
  | @verified x files verification w' _ hx hw hv hy =>
      obtain ⟨hgrows, hbytes⟩ := writeArtifact_ok hw
      have hholds : Verification.Holds (d.verification r.projectRoot r.target) w.files
          { w with files := files } (d.artifactOf r intent x w) :=
        ⟨hgrows, FileSystem.readText_of_readBytes hbytes⟩
      obtain ⟨t, ht⟩ := Verification.verify_rewrites (v := d.verification r.projectRoot r.target)
        hro hr hapart r.maxRetries hholds
      have hnames := (Verification.verificationRun_verify (d.verification r.projectRoot r.target)
        r.maxRetries d.recordAttempts { w with files := files }).not_generated
      rw [hy] at ht hnames
      exact ⟨x, files, t.text, hx, hw, (d.tellsArtifact_writtenLog r intent x w).absorb hnames,
        ht.left, fun hv' => by simp [hv] at hv', fun _ => ⟨verification, t, rfl, rfl, ht⟩⟩

end Dispatcher

/-! ## A test that compiles at the second try -/

/-- The first compilation fails, with a diagnostic that a rule answers. -/
def Toolchain.secondTry : Toolchain Bool where
  compile _ _ fs tried :=
    (if tried then .ok ⟨true, "", ""⟩
      else .error (.diagnostics "type mismatch: String but Boolean"), fs, true)
  run _ _ fs tried := (.ok ⟨2, 0⟩, fs, tried)
  coverage _ _ fs tried := (.ok ⟨"coverage.xml"⟩, fs, tried)

/-- Attempts are recorded. -/
def Dispatcher.secondTry : Dispatcher Bool :=
  ⟨.secondTry, fun _ _ => false, .standard, "com.example", true⟩

def World.secondTry : World Bool :=
  ⟨World.oneTest.files, .still 0, false⟩

def GenerateRequest.secondTry : GenerateRequest :=
  ⟨"/p", "OrderTest.kt", none, none, true, 3⟩

theorem World.linkless_oneTest : World.oneTest.files.Linkless := by
  intro place target
  simp only [FileSystem.get?, oneTest, FileSystem.find?]
  split
  · simp
  · split
    · simp
    · split <;> simp

namespace Dispatcher

/-- The generation of the test, with its report and the world it leaves. -/
def generatedSecondTry : GenerationReport × World Bool :=
  secondTry.generateAs .generateUnitTest .secondTry .unit .secondTry

theorem completes_secondTry : generatedSecondTry.1.steps.Completes "generate_test_code" := by
  have htarget : GenerateRequest.secondTry.target = "OrderTestTest.kt" := by decide
  have hx : extract World.secondTry.files secondTry.defaultPackage
      GenerateRequest.secondTry.projectRoot GenerateRequest.secondTry.servicePath
      GenerateRequest.secondTry.symbols =
        .ok (Extraction.ofText "com.example" "OrderTest.kt" none "class OrderTest") :=
    extract_ok World.readText_oneTest "com.example" none
  have hw := World.writeArtifact_oneTest (secondTry.artifactOf .secondTry .unit
    (Extraction.ofText "com.example" "OrderTest.kt" none "class OrderTest") .secondTry)
  rw [← htarget] at hw
  exact completes_written (by decide) hx hw

theorem generated_text_secondTry :
    secondTry.tools.ReadOnly ∧ secondTry.rules.Reachable ∧
      (∀ seconds, (AttemptRecorder.start "/p" GenerateRequest.secondTry.target seconds).ApartFrom
        World.secondTry.files (Path.join "/p" GenerateRequest.secondTry.target)) ∧
      generatedSecondTry.1.steps.Completes "generate_test_code" ∧
      ∃ final, generatedSecondTry.2.files.readText
        (Path.join "/p" GenerateRequest.secondTry.target) = .ok final := by
  have hro : secondTry.tools.ReadOnly :=
    ⟨fun _ _ _ _ => rfl, fun _ _ _ _ => rfl, fun _ _ _ _ => rfl⟩
  have hbelow : ¬World.secondTry.files.destination (Path.join "/p" ".testsmith") <+:
      World.secondTry.files.destination (Path.join "/p" GenerateRequest.secondTry.target) := by
    decide
  have hapart := fun seconds =>
    AttemptRecorder.apartFrom_of_linkless World.linkless_oneTest hbelow seconds
  obtain ⟨x, files, final, -, -, -, hread, -⟩ := generated_text secondTry hro .standard
    .generateUnitTest .secondTry .unit .secondTry (fun _ => hapart) completes_secondTry
  exact ⟨hro, .standard, hapart, completes_secondTry, final, hread⟩

end Dispatcher

end TestForge
