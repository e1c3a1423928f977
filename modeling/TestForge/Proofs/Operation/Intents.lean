import TestForge.Proofs.Artifact.Lines
import TestForge.Proofs.FileSystem.Twins
import TestForge.Proofs.Operation.LeftBehind

/-!
# What an intent changes

A unit test and an integration test of a service differ in two lines, which only the file of the test
can tell apart. Over a toolchain that does not look at them the two generations go alike: each step is
made on files that are the same but for the test, and has the same outcome.
-/

namespace TestForge

open FileSystem Text Toolchain

/-! ## Blind toolchains -/

/-- Two calls with the same answer, which leave files and states alike. -/
structure Toolchain.Agree {α σ : Type} (hidden : Location → Prop) (akin : σ → σ → Prop)
    (first second : Except ToolFailure α × FileSystem × σ) : Prop where
  answer : second.1 = first.1
  files : first.2.1.Twins hidden second.2.1
  tools : akin first.2.2 second.2.2

/-- The answers for a test do not depend on contents that are hidden, whatever the toolchain does to
files and to its state. -/
structure Toolchain.Blind {σ : Type} (tools : Toolchain σ) (root target : String)
    (hidden : Location → Prop) (akin : σ → σ → Prop) : Prop where
  compile : ∀ a b s t, a.Twins hidden b → akin s t →
    Agree hidden akin (tools.compile root target a s) (tools.compile root target b t)
  run : ∀ a b s t, a.Twins hidden b → akin s t →
    Agree hidden akin (tools.run root target a s) (tools.run root target b t)

/-- What was asked in a call and what was answered, without the files. -/
def Toolchain.Event.exchange (e : Event) : String × String × Answer :=
  (e.root, e.target, e.answer)

/-- States after the same calls. -/
def Toolchain.LoggedAlike {σ : Type} (akin : σ → σ → Prop) (s t : List Event × σ) : Prop :=
  t.1.map Event.exchange = s.1.map Event.exchange ∧ akin s.2 t.2

theorem Toolchain.Blind.logged {σ : Type} {tools : Toolchain σ} {root target : String}
    {hidden : Location → Prop} {akin : σ → σ → Prop} (h : tools.Blind root target hidden akin) :
    tools.logged.Blind root target hidden (LoggedAlike akin) where
  compile a b s t hf hs := by
    have hcall := h.compile a b s.2 t.2 hf hs.2
    refine ⟨hcall.answer, hcall.files, ?_, hcall.tools⟩
    simp only [Toolchain.logged, List.map_append, hs.1, List.map_cons, List.map_nil, Event.exchange,
      hcall.answer]
  run a b s t hf hs := by
    have hcall := h.run a b s.2 t.2 hf hs.2
    refine ⟨hcall.answer, hcall.files, ?_, hcall.tools⟩
    simp only [Toolchain.logged, List.map_append, hs.1, List.map_cons, List.map_nil, Event.exchange,
      hcall.answer]

/-! ## Repairs and records -/

section

variable {hidden : Location → Prop} {a b : FileSystem}

/-- Whether a repair is made does not depend on the text that is repaired. -/
theorem repair_twins (h : a.Twins hidden b) (rules : RepairRules) (phase : Phase) (path : String)
    (failure : ToolFailure) :
    SameResult (Option.Rel (Twins hidden)) (rules.repair phase path failure a)
      (rules.repair phase path failure b) := by
  unfold RepairRules.repair RepairRules.pass?
  simp only
  split
  · exact .ok .none
  · have hread := h.readText path
    generalize a.readText path = first, b.readText path = second at hread ⊢
    cases hread with
    | error e => exact .error _
    | @ok text text' ht =>
        simp only
        cases rules.matching phase failure.diagnosticText with
        | nil => exact .ok .none
        | cons rule rules =>
            have hwrite := h.writeText path (ht.imp_left (congrArg fun text =>
              (rule :: rules).foldl (fun text r => r.amend text) text))
            simp only
            generalize a.writeText path ((rule :: rules).foldl (fun text r => r.amend text) text) =
              first, b.writeText path ((rule :: rules).foldl (fun text r => r.amend text) text') =
              second at hwrite ⊢
            cases hwrite with
            | error e => exact .error _
            | ok hwritten => exact .ok (.some hwritten)

theorem record_twins (h : a.Twins hidden b) (r : AttemptRecorder) (phase : Phase) (attempt : Nat)
    (failure : ToolFailure) :
    (r.record phase attempt failure a).Twins hidden (r.record phase attempt failure b) := by
  obtain ⟨result, made, made', ha, hb, hmade⟩ :=
    h.createDirectories (r.attemptDirectory phase attempt)
  unfold AttemptRecorder.record
  rw [ha, hb]
  cases result with
  | error e => exact hmade
  | ok _ =>
      have hwrite : SameResult (Twins hidden) (made.writeText _ _) (made'.writeText _ _) :=
        hmade.writeText (r.diagnosticsPath phase attempt)
          (Or.inl (Eq.refl failure.diagnosticText))
      simp only
      generalize made.writeText (r.diagnosticsPath phase attempt) failure.diagnosticText = first,
        made'.writeText (r.diagnosticsPath phase attempt) failure.diagnosticText = second
        at hwrite ⊢
      cases hwrite with
      | error e => exact hmade
      | ok hwritten => exact hwritten

end

/-! ## Verifications -/

/-- Worlds that a blind toolchain does not tell apart. -/
structure World.Alike {σ : Type} (hidden : Location → Prop) (akin : σ → σ → Prop)
    (w u : World σ) : Prop where
  files : w.files.Twins hidden u.files
  clock : u.clock = w.clock
  tools : akin w.tools u.tools

namespace Verification

variable {σ : Type} {v : Verification σ} {hidden : Location → Prop} {akin : σ → σ → Prop}
  {phase : Phase} {recorder : Option AttemptRecorder} {w w' u : World σ}

theorem attempt_alike (hb : v.tools.Blind v.root v.target hidden akin) (h : w.Alike hidden akin u)
    {answer : Except ToolFailure (Option TestCounts)} (ha : v.attempt phase w = (answer, w')) :
    ∃ u', v.attempt phase u = (answer, u') ∧ w'.Alike hidden akin u' := by
  cases phase with
  | compile =>
      have hcall := hb.compile _ _ _ _ h.files h.tools
      simp only [attempt, Prod.mk.injEq] at ha ⊢
      obtain ⟨hanswer, rfl⟩ := ha
      exact ⟨_, ⟨by rw [hcall.answer, hanswer], rfl⟩, hcall.files, h.clock, hcall.tools⟩
  | test =>
      have hcall := hb.run _ _ _ _ h.files h.tools
      simp only [attempt, Prod.mk.injEq] at ha ⊢
      obtain ⟨hanswer, rfl⟩ := ha
      exact ⟨_, ⟨by rw [hcall.answer, hanswer], rfl⟩, hcall.files, h.clock, hcall.tools⟩

theorem keepRecord_alike (h : w.Alike hidden akin u) (recorder : Option AttemptRecorder)
    (phase : Phase) (attempt : Nat) (failure : ToolFailure) :
    (keepRecord recorder phase attempt failure w).Alike hidden akin
      (keepRecord recorder phase attempt failure u) := by
  cases recorder with
  | none => simpa only [keepRecord] using h
  | some r =>
      have hfiles := record_twins h.files r phase attempt failure
      rw [keepRecord, keepRecord]
      exact ⟨by simpa only using hfiles, h.clock, h.tools⟩

theorem PhaseRun.alike {state : RetryState} {outcome : PhaseOutcome}
    (hp : PhaseRun v phase recorder state w outcome w')
    (hb : v.tools.Blind v.root v.target hidden akin) (h : w.Alike hidden akin u) :
    ∃ u', PhaseRun v phase recorder state u outcome u' ∧ w'.Alike hidden akin u' := by
  induction hp generalizing u with
  | succeeds ha =>
      obtain ⟨u', hu, hboth⟩ := attempt_alike hb h ha
      exact ⟨u', .succeeds hu, hboth⟩
  | usedUp ha hl =>
      obtain ⟨u', hu, hboth⟩ := attempt_alike hb h ha
      exact ⟨_, .usedUp hu hl, keepRecord_alike hboth _ _ _ _⟩
  | @unrepaired state w failure w' ha hl hr =>
      obtain ⟨u', hu, hboth⟩ := attempt_alike hb h ha
      have hkept := keepRecord_alike hboth recorder phase state.attempt failure
      refine ⟨_, .unrepaired hu hl fun files hf => ?_, hkept⟩
      have hrepair := repair_twins hkept.files v.rules phase v.artifact failure
      rw [hf] at hrepair
      generalize hx : v.rules.repair phase v.artifact failure
        (keepRecord recorder phase state.attempt failure w').files = first at hrepair
      cases hrepair with
      | ok hnew =>
          cases hnew with
          | some _ => exact hr _ hx
  | @repaired state w failure w' files outcome w'' ha hl hr _ ih =>
      obtain ⟨u', hu, hboth⟩ := attempt_alike hb h ha
      have hkept := keepRecord_alike hboth recorder phase state.attempt failure
      have hrepair := repair_twins hkept.files v.rules phase v.artifact failure
      rw [hr] at hrepair
      generalize hx : v.rules.repair phase v.artifact failure
        (keepRecord recorder phase state.attempt failure u').files = second at hrepair
      cases hrepair with
      | ok hnew =>
          cases hnew with
          | @some _ other hfiles =>
              have hnext : World.Alike hidden akin
                  { keepRecord recorder phase state.attempt failure w' with files := files }
                  { keepRecord recorder phase state.attempt failure u' with files := other } :=
                ⟨hfiles, hkept.clock, hkept.tools⟩
              obtain ⟨u'', hrun, hend⟩ := ih hnext
              exact ⟨u'', .repaired hu hl hx hrun, hend⟩

theorem VerificationRun.alike {maxRetries : UInt32} {log : StepLog}
    (hv : VerificationRun v maxRetries recorder w log w')
    (hb : v.tools.Blind v.root v.target hidden akin) (h : w.Alike hidden akin u) :
    ∃ u', VerificationRun v maxRetries recorder u log u' ∧ w'.Alike hidden akin u' := by
  cases hv with
  | notCompiled hc =>
      obtain ⟨u', hu, hend⟩ := hc.alike hb h
      exact ⟨u', .notCompiled hu, hend⟩
  | tested hc ht =>
      obtain ⟨u₁, hu₁, hmid⟩ := hc.alike hb h
      obtain ⟨u', hu, hend⟩ := ht.alike hb hmid
      exact ⟨u', .tested hu₁ hu, hend⟩

/-- Verifications that a blind toolchain does not tell apart have the same report. -/
theorem verify_alike (hb : v.tools.Blind v.root v.target hidden akin)
    (h : w.Alike hidden akin u) (maxRetries : UInt32) (recordAttempts : Bool) :
    (v.verify maxRetries recordAttempts u).1 = (v.verify maxRetries recordAttempts w).1 ∧
      (v.verify maxRetries recordAttempts w).2.Alike hidden akin
        (v.verify maxRetries recordAttempts u).2 := by
  have hrecorder : (v.openRecorder recordAttempts u).1 = (v.openRecorder recordAttempts w).1 := by
    unfold openRecorder
    rw [h.clock]
    split <;> rfl
  have hopened : (v.openRecorder recordAttempts w).2.Alike hidden akin
      (v.openRecorder recordAttempts u).2 := by
    unfold openRecorder
    split
    · exact ⟨h.files, congrArg (fun c : Clock => c.read.2) h.clock, h.tools⟩
    · exact h
  have hrun := verificationRun_verify v maxRetries recordAttempts u
  obtain ⟨u', hu, hend⟩ := (verificationRun_verify v maxRetries recordAttempts w).alike hb hopened
  rw [hrecorder] at hrun
  obtain ⟨hlog, rfl⟩ := hrun.unique hu
  exact ⟨hlog, hend⟩

end Verification

/-! ## Reports without digests -/

/-- A result without the digest of the artifact. -/
def Json.withoutDigest : Json → Json
  | .obj members => .obj (members.filter fun m => m.1 ≠ "artifact_sha256")
  | json => json

def Step.withoutDigest (s : Step) : Step :=
  { s with result := s.result.map Json.withoutDigest }

def GenerationReport.withoutDigest (r : GenerationReport) : GenerationReport :=
  { r with steps := ⟨r.steps.steps.map Step.withoutDigest⟩ }

theorem withoutDigest_artifactResult (target artifact artifact' : String) (model : ServiceModel)
    (style : TemplateStyle) :
    (artifactResult target artifact model style).withoutDigest =
      (artifactResult target artifact' model style).withoutDigest := by
  simp [artifactResult, Json.withoutDigest]

/-! ## Generations -/

/-- Where the test of a request is written, if there is room for it. -/
def GenerateRequest.WrittenAt (r : GenerateRequest) (fs : FileSystem) (place : Location) : Prop :=
  (makeRoom (Path.join r.projectRoot r.target) fs).2.resolve
    (Path.join r.projectRoot r.target) true = .ok place

/-- A test can be written whatever its text. -/
theorem writeArtifact_twins {r : GenerateRequest} {hidden : Location → Prop}
    {fs written : FileSystem} {text : String} {result : Except OperationFailure Unit}
    (hp : ∀ place, r.WrittenAt fs place → hidden place)
    (hw : writeArtifact r.projectRoot r.target text fs = (result, written)) (text' : String) :
    ∃ written', writeArtifact r.projectRoot r.target text' fs = (result, written') ∧
      written.Twins hidden written' := by
  unfold GenerateRequest.WrittenAt at hp
  have hwrite {made : FileSystem}
      (hm : makeRoom (Path.join r.projectRoot r.target) fs = (.ok (), made)) :
      SameResult (Twins hidden) (made.writeText (Path.join r.projectRoot r.target) text)
        (made.writeText (Path.join r.projectRoot r.target) text') := by
    rw [hm] at hp
    exact (Twins.refl hidden made).writeText _ (Or.inr hp)
  cases artifactCase hw with
  | cramped hm => exact ⟨written, writeArtifact_of_cramped hm, .refl hidden written⟩
  | refused hm hw =>
      have hsecond := hwrite hm
      rw [hw] at hsecond
      generalize hw' : written.writeText (Path.join r.projectRoot r.target) text' = second
        at hsecond
      cases hsecond with
      | error => exact ⟨written, writeArtifact_of_refused hm hw', .refl hidden written⟩
  | @written made _ hm hw =>
      have hsecond := hwrite hm
      rw [hw] at hsecond
      generalize hw' : made.writeText (Path.join r.projectRoot r.target) text' = second
        at hsecond
      cases hsecond with
      | ok hwritten => exact ⟨_, writeArtifact_of_written hm hw', hwritten⟩

namespace Dispatcher

variable {σ : Type} {d : Dispatcher σ} {r : GenerateRequest} {hidden : Location → Prop}
  {akin : σ → σ → Prop} {w : World σ}

/-- Generations with the same report but for the digest, which leave worlds that a blind toolchain
does not tell apart. -/
structure GoAlike (hidden : Location → Prop) (akin : σ → σ → Prop) (first second : Generated σ) :
    Prop where
  log : second.1.steps.map Step.withoutDigest = first.1.steps.map Step.withoutDigest
  failure : second.2.1 = first.2.1
  world : first.2.2.Alike hidden akin second.2.2

theorem withoutDigest_writtenLog (intent intent' : TestIntent) (x : Extraction) :
    (d.writtenLog r intent x w).steps.map Step.withoutDigest =
      (d.writtenLog r intent' x w).steps.map Step.withoutDigest := by
  simp only [writtenLog, List.map_cons, List.map_nil, Step.withoutDigest, writtenStep,
    Option.map_some]
  rw [withoutDigest_artifactResult]

theorem runGeneration_alike (hc : r.check = .ok ())
    (hb : d.tools.Blind r.projectRoot r.target hidden akin)
    (hp : ∀ place, r.WrittenAt w.files place → hidden place) (hs : akin w.tools w.tools)
    (op op' : Operation) (intent intent' : TestIntent) :
    GoAlike hidden akin (d.runGeneration op r intent w) (d.runGeneration op' r intent' w) := by
  have hw : w.Alike hidden akin w := ⟨.refl hidden w.files, rfl, hs⟩
  have hg := generation_runGeneration d op r intent w
  generalize d.runGeneration op r intent w = first at hg ⊢
  cases hg with
  | rejected hc' => cases hc.symm.trans hc'
  | unreadable _ hx =>
      have hsecond : Generation d op' r intent' w _ := .unreadable hc hx
      rw [hsecond.eq]
      exact ⟨rfl, rfl, hw⟩
  | @unwritten x failure files _ hx hf =>
      obtain ⟨files', hf', hboth⟩ := writeArtifact_twins hp hf (d.artifactOf r intent' x w)
      have hsecond : Generation d op' r intent' w _ := .unwritten hc hx hf'
      rw [hsecond.eq]
      exact ⟨rfl, rfl, hboth, rfl, hs⟩
  | @unverified x files _ hx hf hv =>
      obtain ⟨files', hf', hboth⟩ := writeArtifact_twins hp hf (d.artifactOf r intent' x w)
      have hsecond : Generation d op' r intent' w _ := .unverified hc hx hf' hv
      rw [hsecond.eq]
      exact ⟨withoutDigest_writtenLog intent' intent x, rfl, hboth, rfl, hs⟩
  | @verified x files verification w' _ hx hf hv hy =>
      obtain ⟨files', hf', hboth⟩ := writeArtifact_twins hp hf (d.artifactOf r intent' x w)
      have hstart : World.Alike hidden akin { w with files := files } { w with files := files' } :=
        ⟨hboth, rfl, hs⟩
      have hverify := Verification.verify_alike
        (v := d.verification r.projectRoot r.target) hb hstart r.maxRetries d.recordAttempts
      rcases hz : (d.verification r.projectRoot r.target).verify r.maxRetries d.recordAttempts
        { w with files := files' } with ⟨verification', u'⟩
      rw [hy, hz] at hverify
      have hlog : verification' = verification := hverify.1
      subst hlog
      have hsecond : Generation d op' r intent' w _ := .verified hc hx hf' hv hz
      rw [hsecond.eq]
      have hcount (intent : TestIntent) : (d.writtenLog r intent x w).count = 2 := rfl
      refine ⟨?_, rfl, hverify.2⟩
      simp only [StepLog.absorb, List.map_append, hcount,
        withoutDigest_writtenLog intent' intent x]

/-- Reports and calls do not tell intents apart, if the toolchain does not look at the test. -/
theorem generate_alike (hc : r.check = .ok ())
    (hb : d.tools.Blind r.projectRoot r.target hidden akin)
    (hp : ∀ place, r.WrittenAt w.files place → hidden place) (hs : akin w.tools w.tools)
    (intent intent' : TestIntent) :
    (d.generate r intent' w).1.withoutDigest = (d.generate r intent w).1.withoutDigest ∧
      (d.generate r intent w).2.Alike hidden akin (d.generate r intent' w).2 := by
  have hrun := runGeneration_alike hc hb hp hs (intentOperation intent) (intentOperation intent')
    intent intent'
  unfold generate generateAs GenerationReport.withoutDigest
  generalize d.runGeneration (intentOperation intent) r intent w = first,
    d.runGeneration (intentOperation intent') r intent' w = second at hrun ⊢
  refine ⟨?_, hrun.world⟩
  simp only [hrun.log, hrun.failure]

/-- The toolchain is asked the same for both intents, and answers the same. -/
theorem generateCalls_alike (hc : r.check = .ok ())
    (hb : d.tools.Blind r.projectRoot r.target hidden akin)
    (hp : ∀ place, r.WrittenAt w.files place → hidden place) (hs : akin w.tools w.tools) :
    (d.generateCalls r .integration w).map Event.exchange =
      (d.generateCalls r .unit w).map Event.exchange := by
  have hp' : ∀ place, r.WrittenAt w.logging.files place → hidden place := by
    simpa only [World.logging, World.map_files] using hp
  have hlogged : (d.logged.generate r .unit w.logging).2.Alike hidden (LoggedAlike akin)
      (d.logged.generate r .integration w.logging).2 :=
    (generate_alike (d := d.logged) hc hb.logged hp' ⟨rfl, hs⟩ .unit .integration).2
  exact hlogged.tools.1

end Dispatcher

/-! ## The two lines -/

namespace ServiceModel

/-- The lines from the class on, which show no intent. -/
def classLines (model : ServiceModel) : List String :=
  ["class " ++ model.className ++ "Test \x7b", ""] ++
    (model.dependencies.flatMap Dependency.mockLines ++ (model.instanceLines ++
      model.setUpLine :: (argumentLines model.dependencies ++ "        )" :: model.closingLines)))

theorem render_eq_heading_class (model : ServiceModel) (style : TemplateStyle)
    (intent : TestIntent) :
    model.render style intent = unlines (model.headingLines style intent ++ model.classLines) := by
  rw [render_eq_unlines]
  unfold lines openingLines classLines
  simp only [List.append_assoc]

/-- The lines of a unit test, around the two places where an integration test has a line more. -/
theorem render_unit_lines (model : ServiceModel) (style : TemplateStyle) :
    model.render style .unit = unlines (model.packageLines ++ (model.importLines ++
      (harnessLines ++ "import org.junit.jupiter.api.Test" :: (testLines.tail ++
        (style.introLines model.className ++ (style.annotationLines ++ model.classLines)))))) := by
  rw [model.render_eq_heading_class, headingLines]
  simp only [TestIntent.importLines, TestIntent.tagLines, testLines, List.append_assoc,
    List.nil_append, List.cons_append, List.tail_cons]

/-- An integration test has an import in front of that of `Test` and a tag in front of the annotations
of the class. -/
theorem render_integration_lines (model : ServiceModel) (style : TemplateStyle) :
    model.render style .integration = unlines (model.packageLines ++ (model.importLines ++
      (harnessLines ++ "import org.junit.jupiter.api.Tag" ::
        "import org.junit.jupiter.api.Test" :: (testLines.tail ++
          (style.introLines model.className ++ "@Tag(\"integration\")" ::
            (style.annotationLines ++ model.classLines)))))) := by
  rw [model.render_eq_heading_class, headingLines]
  simp only [TestIntent.importLines, TestIntent.tagLines, testLines, List.append_assoc,
    List.nil_append, List.cons_append, List.tail_cons]

end ServiceModel

namespace Dispatcher

/-- An integration test is the unit test with two lines more, an import in front of that of `Test` and
a tag in front of the annotations of the class. A toolchain whose answers do not depend on the test is
called alike for both, and the reports are the same but for the digest of the test. -/
theorem integration_adds_tag :
    (∀ (model : ServiceModel) (style : TemplateStyle),
      model.render style .unit = unlines (model.packageLines ++ (model.importLines ++
        (harnessLines ++ "import org.junit.jupiter.api.Test" :: (testLines.tail ++
          (style.introLines model.className ++ (style.annotationLines ++ model.classLines)))))) ∧
      model.render style .integration = unlines (model.packageLines ++ (model.importLines ++
        (harnessLines ++ "import org.junit.jupiter.api.Tag" ::
          "import org.junit.jupiter.api.Test" :: (testLines.tail ++
            (style.introLines model.className ++ "@Tag(\"integration\")" ::
              (style.annotationLines ++ model.classLines))))))) ∧
    ∀ {σ : Type} (d : Dispatcher σ) {r : GenerateRequest} {w : World σ}
      {hidden : Location → Prop} {akin : σ → σ → Prop}, r.check = .ok () →
      (∀ place, r.WrittenAt w.files place → hidden place) →
      d.tools.Blind r.projectRoot r.target hidden akin → akin w.tools w.tools →
      (d.generate r .integration w).1.withoutDigest = (d.generate r .unit w).1.withoutDigest ∧
      (d.generateCalls r .integration w).map Event.exchange =
        (d.generateCalls r .unit w).map Event.exchange := by
  refine ⟨fun model style => ⟨model.render_unit_lines style, model.render_integration_lines style⟩,
    ?_⟩
  intro σ d r w hidden akin hc hp hb hs
  exact ⟨(generate_alike hc hb hp hs .unit .integration).1, generateCalls_alike hc hb hp hs⟩

theorem integration_adds_tag_secondTry :
    let d := secondTry
    let r := GenerateRequest.secondTry
    let w := World.secondTry
    let hidden := fun place => place = ["p", "OrderTestTest.kt"]
    r.check = .ok () ∧ (∀ place, r.WrittenAt w.files place → hidden place) ∧
      d.tools.Blind r.projectRoot r.target hidden Eq ∧
      (d.generate r .integration w).1.withoutDigest = (d.generate r .unit w).1.withoutDigest ∧
      (d.generateCalls r .integration w).map Event.exchange =
        (d.generateCalls r .unit w).map Event.exchange := by
  intro d r w hidden
  have hc : r.check = .ok () := by decide
  have htarget : r.target = "OrderTestTest.kt" := by decide
  have hp : ∀ place, r.WrittenAt w.files place → hidden place := by
    intro place hplace
    rw [GenerateRequest.WrittenAt, htarget] at hplace
    have hroom : (makeRoom (Path.join r.projectRoot "OrderTestTest.kt") w.files).2 =
        World.oneTest.files :=
      congrArg Prod.snd World.makeRoom_oneTest
    rw [hroom] at hplace
    exact (Except.ok.inj (World.resolve_test_oneTest.symm.trans hplace)).symm
  have hb : d.tools.Blind r.projectRoot r.target hidden Eq :=
    ⟨fun _ _ _ _ hf hs => ⟨by rw [hs]; rfl, hf, rfl⟩, fun _ _ _ _ hf hs => ⟨rfl, hf, hs⟩⟩
  exact ⟨hc, hp, hb, integration_adds_tag.2 d hc hp hb rfl⟩

end Dispatcher

end TestForge
