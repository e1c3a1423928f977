import TestForge.Proofs.Operation.LeftBehind
import TestForge.Proofs.Operation.Shape

/-!
# What batch items say of errors

An item repeats what stopped its generation. A verification that fails stops nothing: the item of
such a generation is a failed one without an error, and only the step that failed says why.
-/

namespace TestForge

open StepLog

/-! ## Failed verifications -/

/-- A step of the verification failed, and tells why. -/
def StepLog.FailsVerification (log : StepLog) : Prop :=
  ∃ s ∈ log.steps, s.status = .failed ∧ (s.ordinal = 3 ∨ s.ordinal = 4) ∧ s.error ≠ none

namespace Verification

variable {σ : Type} {v : Verification σ} {recorder : Option AttemptRecorder} {w w' : World σ}
  {maxRetries : UInt32} {log : StepLog}

theorem VerificationRun.failed_error (h : VerificationRun v maxRetries recorder w log w') :
    ∀ s ∈ log.steps, s.status = .failed → s.error ≠ none := by
  have hstep : ∀ phase ordinal outcome,
      (finishedStep phase maxRetries ordinal outcome).status = .failed →
        (finishedStep phase maxRetries ordinal outcome).error ≠ none := by
    intro phase ordinal outcome hs
    cases outcome with
    | succeeded retries counts => cases hs
    | exhausted retries failure => exact Option.some_ne_none _
  cases h with
  | notCompiled hc => exact List.forall_mem_singleton.2 (hstep _ _ _)
  | tested hc ht =>
      exact List.forall_mem_cons.2 ⟨hstep _ _ _, List.forall_mem_singleton.2 (hstep _ _ _)⟩

theorem VerificationRun.count_le (h : VerificationRun v maxRetries recorder w log w') :
    log.count ≤ 2 := by
  cases h with
  | notCompiled hc => exact Nat.le_succ 1
  | tested hc ht => exact Nat.le_refl 2

end Verification

/-! ## Items -/

/-- What an item says of its generation. It shows the whole report. A failed item has an error if
and only if the generation was stopped, that is before its verification; else the error is that of
a step of the verification. -/
structure BatchItem.Explained (item : BatchItem) : Prop where
  report : item.toJson.get? "report" = some item.report.toJson
  status : item.status = .success ↔ item.report.success = true
  success : item.status = .success → item.toJson.get? "error" = none
  stopped : item.toJson.get? "error" ≠ none ↔ item.report.steps.count = 0 ∨
    ∃ s ∈ item.report.steps.steps, (s.ordinal = 1 ∨ s.ordinal = 2) ∧ s.status = .failed
  error : item.toJson.get? "error" = item.report.toJson.get? "error"
  failed : item.status = .failed → item.toJson.get? "error" = none →
    item.report.steps.FailsVerification

theorem BatchItem.get?_error_ofReport (report : GenerationReport) :
    (ofReport report).toJson.get? "error" = report.toJson.get? "error" := by
  rw [report.get?_error]
  cases hf : report.failure <;>
    simp [ofReport, toJson, GenerationReport.error?, hf, Json.optMember,
      Json.get?, Json.members?, Json.lookup]

theorem BatchItem.status_ofReport (report : GenerationReport) :
    (ofReport report).status = .success ↔ report.success = true := by
  cases hs : report.success <;> simp [ofReport, hs]

namespace Dispatcher

variable {σ : Type} {d : Dispatcher σ}

/-- A generation that nothing stopped can only have failed in its verification. -/
theorem Generation.failsVerification {op : Operation} {r : GenerateRequest} {intent : TestIntent}
    {w w' : World σ} {log : StepLog} (h : Generation d op r intent w (log, none, w'))
    (hf : log.hasFailure = true) : log.FailsVerification := by
  cases h with
  | unverified _ _ _ _ => cases hf
  | @verified x files verification _ _ _ _ _ hy =>
      have hrun := Verification.verificationRun_verify (d.verification r.projectRoot r.target)
        r.maxRetries d.recordAttempts { w with files := files }
      rw [hy] at hrun
      obtain ⟨s, hs, hfailed⟩ := List.any_eq_true.1 hf
      have hstatus : s.status = .failed := eq_of_beq hfailed
      rcases List.mem_append.1 hs with hs | hs
      · rw [(done_writtenLog x).completed s hs] at hstatus
        cases hstatus
      · -- The two steps of the writing come first: the verification has the ordinals from 3.
        obtain ⟨hle, t, ht, he⟩ := mem_renumber hs
        have hordinal : s.ordinal ∈ List.range' 3 verification.steps.length := by
          have hm := List.mem_map_of_mem (f := Step.ordinal) hs
          rwa [map_ordinal_renumber] at hm
        have hbound := (List.mem_range'_1.1 hordinal).2
        have hcount := hrun.count_le
        have hfailed' : t.status = .failed := by rwa [he] at hstatus
        have herror : t.error ≠ none := hrun.failed_error t ht hfailed'
        refine ⟨s, List.mem_append_right _ hs, hstatus, ?_, by rw [he]; exact herror⟩
        simp only [writtenLog, StepLog.count, List.length_cons, List.length_nil] at hle hcount
        omega

/-! ## Batches -/

theorem explained_generateAs (d : Dispatcher σ) (op : Operation) (r : GenerateRequest)
    (intent : TestIntent) (w : World σ) :
    (BatchItem.ofReport (d.generateAs op r intent w).1).Explained := by
  have hshape := d.generateAs_wellShaped op r intent w
  have hg := generation_runGeneration d op r intent w
  rcases hrun : d.runGeneration op r intent w with ⟨log, failure, w'⟩
  rw [hrun] at hg
  have hreport : (d.generateAs op r intent w).1 =
      ⟨r.servicePath, r.target, log, failure.map (·.chain)⟩ := by
    simp only [generateAs, hrun]
  have herror := BatchItem.get?_error_ofReport (d.generateAs op r intent w).1
  refine ⟨rfl, BatchItem.status_ofReport _, ?_, ?_, herror, ?_⟩
  · intro hs
    rw [herror]
    exact (hshape.success.1 ((BatchItem.status_ofReport _).1 hs)).1
  · rw [herror]
    exact hshape.stopped
  · intro hs hnone
    rw [herror, GenerationReport.get?_error, hreport] at hnone
    cases failure with
    | some stop => cases hnone
    | none =>
        rw [hreport]
        apply hg.failsVerification
        cases hf : log.hasFailure with
        | true => rfl
        | false =>
            have hsuccess : (d.generateAs op r intent w).1.success = true := by
              rw [hreport]
              simp [GenerationReport.success, hf]
            rw [(BatchItem.status_ofReport _).2 hsuccess] at hs
            cases hs

theorem runItems_explained (d : Dispatcher σ) (r : BatchRequest) (paths : List String)
    (tally : BatchTally) (w : World σ) :
    ∀ item ∈ (d.runItems r paths tally w).1, item.Explained := by
  induction paths generalizing tally w with
  | nil => exact List.forall_mem_nil _
  | cons path rest ih =>
      have he := d.explained_generateAs .generateBatchTests (r.item path) .unit w
      rcases hg : d.generateAs .generateBatchTests (r.item path) .unit w with ⟨report, w'⟩
      rw [hg] at he
      simp only [runItems, hg]
      split
      · exact List.forall_mem_cons.2 ⟨he, ih _ w'⟩
      · exact List.forall_mem_singleton.2 he

/-- Every item of every batch shows the whole report of its generation. An item of success has no
error; a failed one has the error of its report, unless what failed is the verification. -/
theorem batch_items_explained (d : Dispatcher σ) (r : BatchRequest) (w : World σ) :
    ∀ item ∈ (d.generateBatch r w).1.items, item.Explained := by
  unfold generateBatch
  split
  · exact List.forall_mem_nil _
  · exact d.runItems_explained r _ _ w

end Dispatcher

/-! ## A test that does not compile -/

/-- Nothing compiles. -/
def Toolchain.uncompilable : Toolchain Unit where
  compile _ _ fs s := (.error (.diagnostics "error: unresolved reference: foo"), fs, s)
  run _ _ fs s := (.ok ⟨2, 0⟩, fs, s)
  coverage _ _ fs s := (.ok ⟨"coverage.xml"⟩, fs, s)

def Dispatcher.uncompilable : Dispatcher Unit :=
  ⟨.uncompilable, fun _ _ => false, .standard, "com.example", false⟩

def BatchRequest.oneService : BatchRequest :=
  ⟨"/p", ["OrderTest.kt"], true, 1, true⟩

namespace Dispatcher

theorem hasFailure_uncompilable {root target : String} {w w' : World Unit} {log : StepLog}
    (h : (uncompilable.verification root target).verify 1 false w = (log, w')) :
    log.hasFailure = true := by
  have hrun := Verification.verificationRun_verify (uncompilable.verification root target) 1 false w
  rw [h] at hrun
  cases hrun with
  | notCompiled hc => rfl
  | tested hc ht =>
      cases hc with
      | succeeds ha => cases ha
      | repaired ha hl hr next => cases hl

/-- The only generation of the batch. -/
def uncompilableRun : GenerationReport × World Unit :=
  uncompilable.generateAs .generateBatchTests (BatchRequest.oneService.item "OrderTest.kt") .unit
    .oneTest

theorem uncompilableRun_failed :
    uncompilableRun.1.failure = none ∧ uncompilableRun.1.steps.hasFailure = true := by
  obtain ⟨x, files, log, w', hy, hrun⟩ := runGeneration_oneTest uncompilable .generateBatchTests
    (r := BatchRequest.oneService.item "OrderTest.kt") .unit (w := .oneTest) rfl
    (by decide) rfl rfl (by decide) rfl
  unfold uncompilableRun generateAs
  rw [hrun]
  refine ⟨rfl, ?_⟩
  rw [hasFailure_absorb, hasFailure_uncompilable hy, Bool.or_true]

theorem mem_items_oneService :
    BatchItem.ofReport uncompilableRun.1 ∈
      (uncompilable.generateBatch .oneService .oneTest).1.items := by
  have hc : BatchRequest.oneService.check = .ok () := by decide
  unfold generateBatch
  rw [hc]
  change _ ∈ (uncompilable.runItems .oneService ["OrderTest.kt"] _ .oneTest).1
  unfold runItems
  split
  rename_i report w' hr
  rw [show uncompilableRun = (report, w') from hr]
  split
  · exact List.mem_cons_self
  · exact List.mem_cons_self

theorem status_oneService : (BatchItem.ofReport uncompilableRun.1).status = .failed := by
  simp [BatchItem.ofReport, GenerationReport.success, uncompilableRun_failed.2]

theorem error_oneService :
    (BatchItem.ofReport uncompilableRun.1).toJson.get? "error" = none := by
  rw [BatchItem.get?_error_ofReport, GenerationReport.get?_error, uncompilableRun_failed.1]
  rfl

/-- An item that has failed without an error. -/
theorem unexplained_oneService :
    ∃ item ∈ (uncompilable.generateBatch .oneService .oneTest).1.items,
      item.status = .failed ∧ item.toJson.get? "error" = none :=
  ⟨_, mem_items_oneService, status_oneService, error_oneService⟩

/-- What the item does not say is said by the step of the compilation. -/
theorem batch_items_explained_oneService :
    BatchItem.ofReport uncompilableRun.1 ∈
        (uncompilable.generateBatch .oneService .oneTest).1.items ∧
      (BatchItem.ofReport uncompilableRun.1).report.steps.FailsVerification :=
  ⟨mem_items_oneService,
    (batch_items_explained uncompilable .oneService .oneTest _ mem_items_oneService).failed
      status_oneService error_oneService⟩

end Dispatcher

end TestForge
