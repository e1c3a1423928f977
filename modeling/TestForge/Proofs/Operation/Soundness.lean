import TestForge.Proofs.Operation.Calls

/-!
# What success means

A verified test is reported as a success only if the toolchain has compiled and run the very files
that are left behind, and the counts that are reported are those of the run.
-/

namespace TestForge

open Toolchain

/-! ## Verdicts and counts -/

/-- The last step tells how many tests passed and failed. -/
def StepLog.TellsCounts (log : StepLog) (counts : TestCounts) : Prop :=
  ∃ last result, log.last? = some last ∧ last.result = some result ∧
    result.get? "passed_tests" = some (.nat counts.passed) ∧
    result.get? "failed_tests" = some (.nat counts.failed)

/-- The last compilation and the run of the test went well, both saw the files that are left, and
the last step tells the counts of the run. -/
def EarnedSuccess (root target : String) (calls : List Event) (log : StepLog)
    (left : FileSystem) : Prop :=
  ∃ (t : CallTrace) (output : ToolOutput) (counts : TestCounts),
    calls = t.events root target ∧ t.compiled = (left, .ok output) ∧
      t.ran = some (left, .ok counts) ∧ log.TellsCounts counts

namespace Verification

variable {σ : Type} {v : Verification σ}

theorem tellsCounts_concat (steps : List Step) (maxRetries : UInt32) (ordinal retries : Nat)
    (counts : TestCounts) :
    StepLog.TellsCounts
      ⟨steps ++ [finishedStep .test maxRetries ordinal (.succeeded retries (some counts))]⟩ counts := by
  refine ⟨_, _, List.getLast?_concat, rfl, ?_, ?_⟩
  · simp [Json.get?, Json.members?, successResult, Json.lookup]
  · simp [Json.get?, Json.members?, successResult, Json.lookup]

/-- A verification that succeeded has compiled and run the files it leaves. -/
theorem Traced.succeeded {maxRetries : UInt32} {w w' : World (List Event × σ)} {log : StepLog}
    {t : CallTrace} (ht : Traced v maxRetries w w' log t) (hro : v.tools.ReadOnly)
    (hs : log.succeeded = true) :
    ∃ output counts first, t.compiled = (w'.files, .ok output) ∧
      t.ran = some (w'.files, .ok counts) ∧
      log = ⟨[first] ++ [finishedStep .test maxRetries 2 (.succeeded 0 (some counts))]⟩ := by
  obtain ⟨files, counts, hran⟩ := ht.verdict.1 hs
  obtain ⟨hcf, hf⟩ := ht.files hro files counts hran
  obtain ⟨first, hsteps⟩ := ht.counts files counts hran
  obtain ⟨output, hc⟩ := ht.lawful.ran_iff.1 (by simp [hran])
  subst hf
  exact ⟨output, counts, first, Prod.ext hcf hc, hran, congrArg StepLog.mk hsteps⟩

theorem verify_grows (hro : v.tools.ReadOnly) (maxRetries : UInt32) (recordAttempts : Bool)
    (w : World σ) : w.files.Grows (v.verify maxRetries recordAttempts w).2.files := by
  have hg := (verificationRun_verify v maxRetries recordAttempts w).grows hro
  rwa [(v.openRecorder_world recordAttempts w).1] at hg

end Verification

namespace Dispatcher

variable {σ : Type} {d : Dispatcher σ}

/-! ## Generations -/

theorem runGeneration_earned (hro : d.tools.ReadOnly) (hr : d.rules.Reachable) (op : Operation)
    (r : GenerateRequest) (intent : TestIntent) (w : World (List Event × σ))
    (hv : r.validate = true) {log : StepLog} {w' : World (List Event × σ)}
    (hg : d.logged.runGeneration op r intent w = (log, none, w')) (hs : log.hasFailure = false) :
    ∃ calls, w'.calls = w.calls ++ calls ∧
      EarnedSuccess r.projectRoot r.target calls log w'.files ∧
      ∃ content, w'.files.readBytes (Path.join r.projectRoot r.target) = .ok content := by
  have hrun := generation_runGeneration d.logged op r intent w
  rw [hg] at hrun
  cases hrun with
  | unverified _ _ _ hv' => rw [hv] at hv'; cases hv'
  | @verified x files verification w' hc hx hw _ hy =>
      obtain ⟨t, ht⟩ := verification_traced hr hy
      have hf : verification.hasFailure = false := by
        rw [StepLog.hasFailure_absorb, Bool.or_eq_false_iff] at hs
        exact hs.2
      have hsucc : verification.succeeded = true := by
        simpa [hf] using ht.failure
      obtain ⟨output, counts, first, hcomp, hran, hlog⟩ := ht.succeeded hro hsucc
      have htells : ((d.logged.writtenLog r intent x w).absorb verification).TellsCounts counts := by
        rw [hlog, StepLog.absorb_concat]
        exact Verification.tellsCounts_concat _ r.maxRetries _ 0 counts
      have hgrows : files.Grows w'.files := by
        have hgv := Verification.verify_grows (v := d.logged.verification r.projectRoot r.target)
          hro.logged r.maxRetries d.logged.recordAttempts { w with files := files }
        rwa [hy] at hgv
      exact ⟨_, ht.calls, ⟨t, output, counts, rfl, hcomp, hran, htells⟩,
        hgrows.readBytes (writeArtifact_ok hw).2⟩

theorem generateAs_earned (hro : d.tools.ReadOnly) (hr : d.rules.Reachable) (op : Operation)
    (r : GenerateRequest) (intent : TestIntent) (w : World (List Event × σ))
    (hv : r.validate = true) (hs : (d.logged.generateAs op r intent w).1.success = true) :
    ∃ calls, (d.logged.generateAs op r intent w).2.calls = w.calls ++ calls ∧
      EarnedSuccess r.projectRoot r.target calls (d.logged.generateAs op r intent w).1.steps
        (d.logged.generateAs op r intent w).2.files ∧
      ∃ content, (d.logged.generateAs op r intent w).2.files.readBytes
        (Path.join r.projectRoot r.target) = .ok content := by
  rcases hg : d.logged.runGeneration op r intent w with ⟨log, failure, w'⟩
  simp only [generateAs, hg, GenerationReport.success, Bool.and_eq_true, Option.isNone_map,
    Option.isNone_iff_eq_none, Bool.not_eq_eq_eq_not, Bool.not_true] at hs ⊢
  obtain ⟨rfl, hf⟩ := hs
  exact runGeneration_earned hro hr op r intent w hv hg hf

/-! ## Validations -/

theorem runCoverage_files (hro : d.tools.ReadOnly) (root target : String) (w : World σ) :
    (d.runCoverage root target w).2.files = w.files := by
  have hf := hro.coverage root target w.files w.tools
  unfold runCoverage
  split
  · rename_i hc
    simpa only [hc] using hf
  · rename_i hc
    simpa only [hc] using hf

/-- Coverage has no say in the success of a validation. -/
theorem verifyExisting_success (d : Dispatcher σ) (r : ValidateRequest) (w : World σ) :
    (d.verifyExisting r w).1.success =
      ((d.verification r.projectRoot r.testPath).verify r.maxRetries d.recordAttempts w).1.succeeded :=
    by
  unfold verifyExisting
  simp only
  split <;> rfl

theorem verifyExisting_earned (hro : d.tools.ReadOnly) (hr : d.rules.Reachable)
    (r : ValidateRequest) (w : World (List Event × σ))
    (hs : (d.logged.verifyExisting r w).1.success = true) :
    ∃ calls, (d.logged.verifyExisting r w).2.calls = w.calls ++ calls ∧
      EarnedSuccess r.projectRoot r.testPath calls (d.logged.verifyExisting r w).1.steps
        (d.logged.verifyExisting r w).2.files ∧
      w.files.Grows (d.logged.verifyExisting r w).2.files := by
  have hgrows := Verification.verify_grows (v := d.logged.verification r.projectRoot r.testPath)
    hro.logged r.maxRetries d.logged.recordAttempts w
  rcases hy : (d.logged.verification r.projectRoot r.testPath).verify r.maxRetries
    d.logged.recordAttempts w with ⟨steps, w'⟩
  rw [hy] at hgrows
  obtain ⟨t, ht⟩ := verification_traced hr hy
  have hsucc : steps.succeeded = true := by
    rwa [verifyExisting_success, hy] at hs
  obtain ⟨output, counts, first, hcomp, hran, hlog⟩ := ht.succeeded hro hsucc
  have htells : steps.TellsCounts counts := by
    rw [hlog]
    exact Verification.tellsCounts_concat [first] r.maxRetries _ 0 counts
  simp only [verifyExisting, hy]
  split
  · obtain ⟨result, hw⟩ := d.runCoverage_calls r.projectRoot r.testPath w'
    have hf := d.logged.runCoverage_files hro.logged r.projectRoot r.testPath w'
    refine ⟨(t.withCoverage (w'.files, result)).events r.projectRoot r.testPath, ?_,
      ⟨_, output, counts, rfl, ?_, ?_, htells⟩, ?_⟩
    · rw [hw, ht.calls, CallTrace.events_withCoverage ht.lawful.covered_none, List.append_assoc]
      rfl
    · rw [hf]
      exact hcomp
    · rw [hf]
      exact hran
    · rw [hf]
      exact hgrows
  · exact ⟨_, ht.calls, ⟨t, output, counts, rfl, hcomp, hran, htells⟩, hgrows⟩

theorem validate_earned (hro : d.tools.ReadOnly) (hr : d.rules.Reachable) (r : ValidateRequest)
    (w : World (List Event × σ)) (hs : (d.logged.validate r w).1.success = true) :
    ∃ calls, (d.logged.validate r w).2.calls = w.calls ++ calls ∧
      EarnedSuccess r.projectRoot r.testPath calls (d.logged.validate r w).1.steps
        (d.logged.validate r w).2.files ∧
      w.files.Grows (d.logged.validate r w).2.files := by
  unfold validate at hs ⊢
  cases hc : r.check with
  | error fault => simp [hc, refusedValidation, ValidationReport.success] at hs
  | ok _ =>
      cases hp : w.files.status (Path.join r.projectRoot r.testPath) with
      | error e => simp [hc, hp, refusedValidation, ValidationReport.success] at hs
      | ok entry =>
          simp only [hc, hp] at hs ⊢
          exact verifyExisting_earned hro hr r w hs

/-! ## Success -/

/-- Over a toolchain that only reads, a success is earned: what was compiled and run last is what
is left behind, there is a test in it, and the counts that are reported are those of the run. -/
theorem verified_success (d : Dispatcher σ) (hro : d.tools.ReadOnly) (hr : d.rules.Reachable)
    (w : World σ) :
    (∀ r intent, r.validate = true → (d.generate r intent w).1.success = true →
      EarnedSuccess r.projectRoot r.target (d.generateCalls r intent w)
        (d.generate r intent w).1.steps (d.generate r intent w).2.files ∧
      ∃ content, (d.generate r intent w).2.files.readBytes (Path.join r.projectRoot r.target) =
        .ok content) ∧
    (∀ r, (d.validate r w).1.success = true →
      EarnedSuccess r.projectRoot r.testPath (d.validateCalls r w) (d.validate r w).1.steps
        (d.validate r w).2.files ∧
      ∀ old, w.files.readBytes (Path.join r.projectRoot r.testPath) = .ok old →
        ∃ content, (d.validate r w).2.files.readBytes (Path.join r.projectRoot r.testPath) =
          .ok content) := by
  refine ⟨fun r intent hv hs => ?_, fun r hs => ?_⟩
  · have he := d.generateAs_logged w.logging (intentOperation intent) r intent
    rw [show w.logging.map Prod.snd = w from rfl] at he
    simp only [generate, he] at hs ⊢
    obtain ⟨calls, hc, hearned, hcontent⟩ :=
      generateAs_earned hro hr (intentOperation intent) r intent w.logging hv hs
    have hn : d.generateCalls r intent w = calls := hc
    rw [hn]
    exact ⟨hearned, hcontent⟩
  · have he := d.validate_logged w.logging r
    rw [show w.logging.map Prod.snd = w from rfl] at he
    rw [he] at hs ⊢
    obtain ⟨calls, hc, hearned, hgrows⟩ := validate_earned hro hr r w.logging hs
    have hn : d.validateCalls r w = calls := hc
    rw [hn]
    exact ⟨hearned, fun old ho => hgrows.readBytes ho⟩

/-! ## The project with one test -/

theorem verified_success_steady :
    Dispatcher.steady.tools.ReadOnly ∧ Dispatcher.steady.rules.Reachable ∧
      (Dispatcher.steady.validate .oneTest .oneTest).1.success = true ∧
      EarnedSuccess "/p" "OrderTest.kt" (Dispatcher.steady.validateCalls .oneTest .oneTest)
        (Dispatcher.steady.validate .oneTest .oneTest).1.steps
        (Dispatcher.steady.validate .oneTest .oneTest).2.files := by
  have hro : Dispatcher.steady.tools.ReadOnly :=
    ⟨fun _ _ _ _ => rfl, fun _ _ _ _ => rfl, fun _ _ _ _ => rfl⟩
  have hs : (Dispatcher.steady.validate .oneTest .oneTest).1.success = true := by
    rw [validate_oneTest, verifyExisting_success]
    obtain ⟨log, hverify, hlog, -⟩ := Verification.verify_steady
      (steady.verification "/p" "OrderTest.kt") rfl 3 .oneTest
    exact (congrArg (fun verified => verified.1.succeeded) hverify).trans hlog
  exact ⟨hro, .standard, hs, ((verified_success .steady hro .standard .oneTest).2 .oneTest hs).1⟩

end Dispatcher

end TestForge
