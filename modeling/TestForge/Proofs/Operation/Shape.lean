import TestForge.Proofs.Operation.Calls

/-!
# The shape of reports

Every report tells the steps of its operation in order, up to the last or to the first that failed.
What a report says of its success and of its error can be read off these steps.
-/

namespace TestForge

open StepLog

theorem StepLog.hasFailure_eq_false {log : StepLog} :
    log.hasFailure = false ↔ ∀ s ∈ log.steps, s.status ≠ .failed := by
  simp [hasFailure, List.any_eq_false]

theorem StepLog.succeeded_iff {log : StepLog} :
    log.succeeded = true ↔ ∀ s ∈ log.steps, s.status = .completed := by
  simp [succeeded]

/-- A chain is shown with its message in front. -/
theorem CauseChain.message_prefix_text (c : CauseChain) :
    c.message.toList <+: c.text.toList := by
  unfold text
  cases hc : c.causes with
  | nil => simp
  | cons cause causes =>
      rw [String.intercalate_cons_cons, String.append_assoc, String.toList_append]
      exact List.prefix_append _ _

/-! ## Verifications -/

namespace Verification

variable {σ : Type} {v : Verification σ} {recorder : Option AttemptRecorder} {w w' : World σ}
  {maxRetries : UInt32} {log : StepLog}

/-- The names of the steps of a verification. -/
def stepNames : List String :=
  [Phase.compile.stepName, Phase.test.stepName]

theorem finishedStep_over (phase : Phase) (maxRetries : UInt32) (ordinal : Nat)
    (outcome : PhaseOutcome) :
    (finishedStep phase maxRetries ordinal outcome).ordinal = ordinal ∧
      ((finishedStep phase maxRetries ordinal outcome).status = .completed ∨
        (finishedStep phase maxRetries ordinal outcome).status = .failed) := by
  cases outcome with
  | succeeded retries counts => exact ⟨rfl, Or.inl rfl⟩
  | exhausted retries failure => exact ⟨rfl, Or.inr rfl⟩

theorem VerificationRun.closed (h : VerificationRun v maxRetries recorder w log w') :
    log.Closed stepNames := by
  cases h with
  | @notCompiled retries failure _ hc =>
      exact done_empty.closed_concat
        (s := finishedStep .compile maxRetries 1 (.exhausted retries failure)) rfl (Or.inr rfl)
        ⟨[Phase.test.stepName], rfl⟩
  | @tested retries counts w₁ outcome _ hc ht =>
      have hd := done_empty.concat
        (s := finishedStep .compile maxRetries 1 (.succeeded retries counts)) rfl rfl
      obtain ⟨ho, hs⟩ := finishedStep_over .test maxRetries 2 outcome
      exact hd.closed_concat ho hs ⟨[], by rw [finishedStep_name .test maxRetries 2 outcome]; rfl⟩

/-- A verification stops short of the second step only if the first one fails. -/
theorem VerificationRun.count (h : VerificationRun v maxRetries recorder w log w')
    (hf : log.hasFailure = false) : log.count = 2 := by
  cases h with
  | notCompiled _ => simp [hasFailure, finishedStep] at hf
  | tested _ _ => rfl

theorem VerificationRun.count_ne_zero (h : VerificationRun v maxRetries recorder w log w') :
    log.count ≠ 0 := by
  cases h with
  | notCompiled _ => exact Nat.succ_ne_zero 0
  | tested _ _ => exact Nat.succ_ne_zero 1

end Verification

namespace Dispatcher

variable {σ : Type} {d : Dispatcher σ} {op : Operation} {r : GenerateRequest} {intent : TestIntent}
  {w w' : World σ} {log : StepLog} {failure : Option OperationFailure} {stop : OperationFailure}

/-! ## Generations -/

/-- The names of the steps of a generation. -/
def stepNames : List String :=
  "analyze_service" :: "generate_test_code" :: Verification.stepNames

theorem done_writtenLog (x : Extraction) :
    (d.writtenLog r intent x w).Done ["analyze_service", "generate_test_code"] := by
  have hd := done_empty.concat (s := analyzedStep x) rfl rfl
  exact hd.concat (s := writtenStep _) rfl rfl

theorem Generation.closed (h : Generation d op r intent w (log, failure, w')) :
    log.Closed stepNames := by
  cases h with
  | rejected _ => exact done_empty.closed (List.nil_prefix)
  | @unreadable e _ _ =>
      exact done_empty.closed_concat (s := unreadableStep e) rfl (Or.inr rfl)
        ⟨"generate_test_code" :: Verification.stepNames, rfl⟩
  | @unwritten x failure _ _ _ _ =>
      have hd := done_empty.concat (s := analyzedStep x) rfl rfl
      exact hd.closed_concat (s := unwrittenStep failure) rfl (Or.inr rfl)
        ⟨Verification.stepNames, rfl⟩
  | @unverified x _ _ _ _ _ => exact (done_writtenLog x).closed ⟨Verification.stepNames, rfl⟩
  | @verified x files verification _ _ _ _ _ hy =>
      have hv := (Verification.verificationRun_verify (d.verification r.projectRoot r.target)
        r.maxRetries d.recordAttempts { w with files := files }).closed
      rw [hy] at hv
      exact (done_writtenLog x).closed_absorb hv

/-- A generation that nothing stopped has gone through all its steps, unless one of them failed. -/
theorem Generation.count (h : Generation d op r intent w (log, none, w'))
    (hf : log.hasFailure = false) : log.count = if r.validate then 4 else 2 := by
  cases h with
  | unverified _ _ _ hv => rw [hv]; rfl
  | @verified x files verification _ _ _ _ hv hy =>
      have hrun := Verification.verificationRun_verify (d.verification r.projectRoot r.target)
        r.maxRetries d.recordAttempts { w with files := files }
      rw [hy] at hrun
      rw [hasFailure_absorb, Bool.or_eq_false_iff] at hf
      have hc := hrun.count hf.2
      simp only [StepLog.count] at hc
      simp [StepLog.count, StepLog.absorb, writtenLog, hc, hv]

/-- What stops a generation shows in its first two steps, or in that there are none. -/
theorem Generation.failure_iff (h : Generation d op r intent w (log, failure, w')) :
    failure ≠ none ↔ log.count = 0 ∨
      ∃ s ∈ log.steps, (s.ordinal = 1 ∨ s.ordinal = 2) ∧ s.status = .failed := by
  cases h with
  | rejected _ => simp [empty, StepLog.count]
  | @unreadable e _ _ => simp [unreadableStep]
  | @unwritten x failure _ _ _ _ => simp [unwrittenStep]
  | @unverified x _ _ _ _ _ => simp [writtenLog, writtenStep, analyzedStep, StepLog.count]
  | @verified x files verification _ _ _ _ _ hy =>
      have hno : ∀ s ∈ ((d.writtenLog r intent x w).absorb verification).steps,
          (s.ordinal = 1 ∨ s.ordinal = 2) → s.status ≠ .failed := by
        intro s hs ho
        rcases List.mem_append.1 hs with hs | hs
        · simp [(done_writtenLog x).completed s hs]
        · have hle := (mem_renumber hs).1
          simp only [writtenLog, StepLog.count, List.length_cons, List.length_nil] at hle
          omega
      have hcount : ((d.writtenLog r intent x w).absorb verification).count ≠ 0 := by
        simp [StepLog.count, StepLog.absorb, writtenLog]
      constructor
      · intro hn
        exact absurd rfl hn
      · rintro (hc | ⟨s, hs, ho, hfailed⟩)
        · exact absurd hc hcount
        · exact absurd hfailed (hno s hs ho)

/-- The step that failed tells what stopped the generation. -/
theorem Generation.error (h : Generation d op r intent w (log, some stop, w')) :
    ∀ s ∈ log.steps, s.status = .failed → s.error = some stop.chain.message := by
  cases h with
  | rejected _ => simp [empty]
  | unreadable _ _ => simp [unreadableStep, OperationFailure.chain]
  | unwritten _ _ _ => simp [unwrittenStep, analyzedStep]

end Dispatcher

/-! ## Reports -/

theorem GenerationReport.get?_error (r : GenerationReport) :
    r.toJson.get? "error" = r.failure.map fun chain => .str chain.message := by
  cases hf : r.failure <;>
    simp [toJson, hf, failureMembers, durationMember, Json.get?, Json.members?, Json.lookup]

theorem ValidationReport.get?_error (r : ValidationReport) :
    r.toJson.get? "error" = r.failure.map fun chain => .str chain.message := by
  cases hf : r.failure <;> cases hc : r.coverage <;>
    simp [toJson, hf, hc, failureMembers, durationMember, Json.optMember, Json.get?, Json.members?,
      Json.lookup]

/-- A batch tells of errors in its items only. -/
theorem BatchReport.get?_error (r : BatchReport) : r.toJson.get? "error" = none := by
  simp [toJson, durationMember, Json.get?, Json.members?, Json.lookup]

theorem GenerationReport.get?_stack (r : GenerationReport) :
    r.toJson.get? "stack" = r.failure.map fun chain => .str chain.text := by
  cases hf : r.failure <;>
    simp [toJson, hf, failureMembers, durationMember, Json.get?, Json.members?, Json.lookup]

/-- What the report of a generation looks like. The step that failed has the error of the report,
and the stack starts with it. -/
structure GenerationReport.WellShaped (validate : Bool) (report : GenerationReport) : Prop where
  steps : report.steps.Closed Dispatcher.stepNames
  success : report.success = true ↔ report.toJson.get? "error" = none ∧
    (∀ s ∈ report.steps.steps, s.status ≠ .failed) ∧
      report.steps.count = if validate then 4 else 2
  stopped : report.toJson.get? "error" ≠ none ↔ report.steps.count = 0 ∨
    ∃ s ∈ report.steps.steps, (s.ordinal = 1 ∨ s.ordinal = 2) ∧ s.status = .failed
  error : ∀ shown, report.toJson.get? "error" = some shown → ∃ message stack,
    shown = .str message ∧
      (∀ s ∈ report.steps.steps, s.status = .failed → s.error = some message) ∧
      report.toJson.get? "stack" = some (.str stack) ∧ message.toList <+: stack.toList

structure ValidationReport.WellShaped (report : ValidationReport) : Prop where
  steps : report.steps.Closed Verification.stepNames
  success : report.success = true ↔
    report.steps.count = 2 ∧ ∀ s ∈ report.steps.steps, s.status = .completed
  stopped : report.toJson.get? "error" ≠ none ↔ report.steps.count = 0

namespace Dispatcher

variable {σ : Type} (d : Dispatcher σ)

theorem generateAs_wellShaped (op : Operation) (r : GenerateRequest) (intent : TestIntent)
    (w : World σ) : (d.generateAs op r intent w).1.WellShaped r.validate := by
  have hg := generation_runGeneration d op r intent w
  rcases hrun : d.runGeneration op r intent w with ⟨log, failure, w'⟩
  simp only [generateAs, hrun]
  rw [hrun] at hg
  refine ⟨hg.closed, ?_, ?_, ?_⟩
  · simp only [GenerationReport.get?_error, Option.map_eq_none_iff, GenerationReport.success,
      Bool.and_eq_true, Option.isNone_iff_eq_none, Bool.not_eq_true', hasFailure_eq_false]
    constructor
    · rintro ⟨hn, hf⟩
      subst hn
      exact ⟨rfl, hf, hg.count (hasFailure_eq_false.2 hf)⟩
    · rintro ⟨hn, hf, -⟩
      exact ⟨hn, hf⟩
  · simp only [GenerationReport.get?_error, ne_eq, Option.map_eq_none_iff]
    exact hg.failure_iff
  · intro shown hshown
    rw [GenerationReport.get?_error] at hshown
    obtain ⟨chain, hc, rfl⟩ := Option.map_eq_some_iff.1 hshown
    obtain ⟨stop, rfl, rfl⟩ := Option.map_eq_some_iff.1 hc
    refine ⟨stop.chain.message, stop.chain.text, rfl, hg.error, ?_, stop.chain.message_prefix_text⟩
    rw [GenerationReport.get?_stack]
    rfl

theorem runItems_wellShaped (r : BatchRequest) (paths : List String) (tally : BatchTally)
    (w : World σ) :
    ∀ item ∈ (d.runItems r paths tally w).1, item.report.WellShaped r.validate := by
  induction paths generalizing tally w with
  | nil => simp [runItems]
  | cons path rest ih =>
      have hr := d.generateAs_wellShaped .generateBatchTests (r.item path) .unit w
      rcases hg : d.generateAs .generateBatchTests (r.item path) .unit w with ⟨report, w'⟩
      rw [hg] at hr
      intro item hi
      simp only [runItems, hg] at hi
      split at hi
      · rcases List.mem_cons.1 hi with rfl | hi
        · exact hr
        · exact ih _ w' item hi
      · rw [List.mem_singleton.1 hi]
        exact hr

theorem generateBatch_wellShaped (r : BatchRequest) (w : World σ) :
    ∀ item ∈ (d.generateBatch r w).1.items, item.report.WellShaped r.validate := by
  unfold generateBatch
  split
  · simp [rejectedBatch]
  · exact d.runItems_wellShaped r _ _ w

theorem refusedValidation_wellShaped (r : ValidateRequest) (stop : OperationFailure) :
    (refusedValidation r stop).WellShaped :=
  ⟨done_empty.closed List.nil_prefix, by simp [refusedValidation, ValidationReport.success, empty,
    StepLog.count], by simp [ValidationReport.get?_error, refusedValidation, empty, StepLog.count]⟩

theorem verifyExisting_steps (r : ValidateRequest) (w : World σ) :
    (d.verifyExisting r w).1.steps =
      ((d.verification r.projectRoot r.testPath).verify r.maxRetries d.recordAttempts w).1 := by
  unfold verifyExisting
  simp only
  split <;> rfl

theorem verifyExisting_wellShaped (r : ValidateRequest) (w : World σ) :
    (d.verifyExisting r w).1.WellShaped := by
  have hrun := Verification.verificationRun_verify (d.verification r.projectRoot r.testPath)
    r.maxRetries d.recordAttempts w
  have hf := d.verifyExisting_failure r w
  rw [← d.verifyExisting_steps r w] at hrun
  refine ⟨hrun.closed, ?_, ?_⟩
  · simp only [ValidationReport.success, hf, Option.isNone_none, Bool.true_and, succeeded_iff]
    constructor
    · intro hc
      exact ⟨hrun.count (hasFailure_eq_false.2 fun s hs => by simp [hc s hs]), hc⟩
    · rintro ⟨-, hc⟩
      exact hc
  · simp [ValidationReport.get?_error, hf, hrun.count_ne_zero]

theorem validate_wellShaped (r : ValidateRequest) (w : World σ) :
    (d.validate r w).1.WellShaped := by
  unfold validate
  split
  · exact refusedValidation_wellShaped r _
  · simp only
    split
    · exact refusedValidation_wellShaped r _
    · exact d.verifyExisting_wellShaped r w

/-- Whatever the request, the files and the toolchain, reports are of the shape that their
operation gives them. -/
theorem reports_wellShaped (w : World σ) :
    (∀ r intent, (d.generate r intent w).1.WellShaped r.validate) ∧
    (∀ r, ∀ item ∈ (d.generateBatch r w).1.items, item.report.WellShaped r.validate) ∧
    (∀ r, (d.validate r w).1.WellShaped) :=
  ⟨fun r intent => d.generateAs_wellShaped (intentOperation intent) r intent w,
    fun r => d.generateBatch_wellShaped r w, fun r => d.validate_wellShaped r w⟩

end Dispatcher

end TestForge
